/-
  The administrator's system policy (`ipn/syspolicy.rs`, `ipn/exitnodepolicy.rs`).

  A policy source is a list of rendered settings, one row per configured key, plus the one value
  that is never rendered: the registration credential.  Everything the daemon enforces is read
  back from the merged rows by key, and only when the definition table declares the key with the
  type the reader asks for.

  `applySettingsToPrefs` is the enforcement: it overwrites the preferences the policy decides and
  reports what it changed and what it cannot enforce.  `pinnedPrefsIn` is the separately written
  list of the preferences it decides.  `checkExitNodeEdit` is the gate in front of an operator's
  exit-node edit.
-/
import Tailnetd.Prefs
import Tailnetd.IpAddr
import Tailnetd.GoDuration

namespace Tailnetd

/-! ## Sources and settings -/

/-- `PolicySetting`: one configured key with its rendered value, `none` for a row that resolved to
    an error. -/
structure PolicySetting where
  key : String
  value : Option String
  deriving DecidableEq, Repr

/-- `PolicySource`: the rows of one registered store, and the credential it configures. -/
structure PolicySource where
  settings : List PolicySetting
  authKey : Option String
  deriving DecidableEq, Repr

/-- Insert a row into a list sorted by key; a row of the same key is replaced. -/
def insertSetting (s : PolicySetting) : List PolicySetting → List PolicySetting
  | [] => [s]
  | r :: rs =>
    if s.key = r.key then s :: rs
    else if s.key < r.key then s :: r :: rs
    else r :: insertSetting s rs

/-- `merge`: the last registration of a key wins, and the result is sorted by key. -/
def mergeSources (sources : List PolicySource) : List PolicySetting :=
  (sources.flatMap PolicySource.settings).foldl (fun acc s => insertSetting s acc) []

/-- `ValueType`: the type a policy key's value decodes as. -/
inductive ValueType where
  | boolean | string | stringList | preferenceOption | visibility | duration
  deriving DecidableEq, Repr

/-- `DEFINITIONS`: every policy key the daemon recognises, with its type. -/
def definitions : List (String × ValueType) :=
  [("AllowedSuggestedExitNodes", .stringList), ("ExitNode.AllowOverride", .boolean),
   ("AllowTailscaledRestart", .boolean), ("AlwaysOn.Enabled", .boolean),
   ("AlwaysOn.OverrideWithReason", .boolean), ("InstallUpdates", .preferenceOption),
   ("AuthKey", .string), ("CheckUpdates", .preferenceOption), ("LoginURL", .string),
   ("DeviceSerialNumber", .string), ("EnableDNSRegistration", .preferenceOption),
   ("AllowIncomingConnections", .preferenceOption), ("AdvertiseExitNode", .preferenceOption),
   ("UnattendedMode", .preferenceOption), ("UseTailscaleDNSSettings", .preferenceOption),
   ("UseTailscaleSubnets", .preferenceOption), ("ExitNodeAllowLANAccess", .preferenceOption),
   ("ExitNodeID", .string), ("ExitNodeIP", .string), ("FlushDNSOnSessionUnlock", .boolean),
   ("EncryptState", .boolean), ("Hostname", .string), ("LogSCMInteractions", .boolean),
   ("LogTarget", .string), ("MachineCertificateSubject", .string),
   ("PostureChecking", .preferenceOption), ("ReconnectAfter", .duration), ("Tailnet", .string),
   ("HardwareAttestation", .boolean), ("AdminConsole", .visibility),
   ("ApplyUpdates", .visibility), ("ExitNodesPicker", .visibility),
   ("KeyExpirationNotice", .duration), ("ManagedByCaption", .string),
   ("ManagedByOrganizationName", .string), ("ManagedByURL", .string),
   ("NetworkDevices", .visibility), ("PreferencesMenu", .visibility),
   ("ResetToDefaults", .visibility), ("RunExitNode", .visibility),
   ("SuggestedExitNode", .visibility), ("TestMenu", .visibility), ("UpdateMenu", .visibility),
   ("OnboardingFlow", .visibility)]

/-- `definition_of`: the type a key is declared with. -/
def definitionOf (key : String) : Option ValueType :=
  (definitions.find? fun d => d.1 == key).map Prod.snd

/-- The rendered value of the first row of `key`, provided the key is declared with type `ty`. -/
def configuredValue (settings : List PolicySetting) (ty : ValueType) (key : String) :
    Option String :=
  if definitionOf key = some ty then (settings.find? fun s => s.key == key).bind (·.value)
  else none

/-- `configured_boolean`. -/
def configuredBoolean (settings : List PolicySetting) (key : String) : Option Bool :=
  (configuredValue settings .boolean key).bind fun v =>
    if v = "true" then some true else if v = "false" then some false else none

/-- `boolean_setting`. -/
def booleanSetting (settings : List PolicySetting) (key : String) (default : Bool) : Bool :=
  (configuredBoolean settings key).getD default

/-- `configured_string`; a configured empty string is `some ""`. -/
def configuredString (settings : List PolicySetting) (key : String) : Option String :=
  configuredValue settings .string key

/-- `PreferenceOption`: an administrator's three-state answer about one boolean preference. -/
inductive PreferenceOption where
  | always | never | userDecides
  deriving DecidableEq, Repr

/-- `PreferenceOption::parse`. -/
def PreferenceOption.parse (rendered : String) : PreferenceOption :=
  if rendered = "always" then .always
  else if rendered = "never" then .never
  else .userDecides

/-- `should_enable`. -/
def PreferenceOption.shouldEnable (current : Bool) : PreferenceOption → Bool
  | .always => true
  | .never => false
  | .userDecides => current

/-- `configured_preference`. -/
def configuredPreference (settings : List PolicySetting) (key : String) :
    Option PreferenceOption :=
  (configuredValue settings .preferenceOption key).map PreferenceOption.parse

/-- `configured_duration`, in nanoseconds. -/
def configuredDuration (settings : List PolicySetting) (key : String) : Option Int :=
  (configuredValue settings .duration key).bind fun v => (parseGoDuration v).toOption

/-- `reconnect_after_in`: the window of a permitted disconnect; only a positive one is a bound. -/
def reconnectAfterIn (settings : List PolicySetting) : Option Nat :=
  (configuredDuration settings "ReconnectAfter").bind fun ns =>
    if 0 < ns then some ns.toNat else none

/-- `AlwaysOnKeys`: the two always-on keys as configured. -/
structure AlwaysOnKeys where
  enabled : Option Bool
  overrideWithReason : Option Bool
  deriving DecidableEq, Repr

/-- `always_on_keys_in`. -/
def alwaysOnKeysIn (settings : List PolicySetting) : AlwaysOnKeys where
  enabled := configuredBoolean settings "AlwaysOn.Enabled"
  overrideWithReason := configuredBoolean settings "AlwaysOn.OverrideWithReason"

/-! ## The registration credential -/

/-- `AuthKeyGate`: the node facts tested before the administrator's key is used. -/
structure AuthKeyGate where
  running : Bool
  needsLogin : Bool
  enrolled : Bool
  configInUse : Bool
  deriving DecidableEq, Repr

/-- `AuthKeyDecision`. -/
inductive AuthKeyDecision where
  | notConfigured
  | use (key : String)
  | skipped (reason : String)
  deriving DecidableEq, Repr

/-- `configured_auth_key`: the newest source that configures one answers. -/
def configuredAuthKey (sources : List PolicySource) : Option String :=
  sources.reverse.findSome? PolicySource.authKey

/-- `auth_key_in`: whether this bring-up registers with the administrator's key. -/
def authKeyIn (sources : List PolicySource) (gate : AuthKeyGate) : AuthKeyDecision :=
  match configuredAuthKey sources with
  | none => .notConfigured
  | some configured =>
    let key := trim configured
    if key.isEmpty then .notConfigured
    else if gate.running then
      .skipped "the node is already running, so it has nothing to register"
    else if gate.configInUse then
      .skipped ("a --config file is in use and is the declarative source for this node's " ++
        "credential; put the key in the config file (or its AuthKey file:<path>) instead")
    else if gate.enrolled && !gate.needsLogin then
      .skipped ("the node is already logged in and the control plane is not asking it to log " ++
        "in again, so an auth key would re-register a node that is already enrolled")
    else .use key

/-! ## Applying the policy to prefs -/

/-- `PolicyChange`: one preference a setting moved, with its new value rendered. -/
structure PolicyChange where
  key : String
  pref : String
  value : String
  deriving DecidableEq, Repr

/-- `PolicyRefusal`: one configured key this build cannot enforce. -/
structure PolicyRefusal where
  key : String
  reason : String
  deriving DecidableEq, Repr

/-- `PolicyApplication`: what an application changed and what it refused. -/
structure PolicyApplication where
  changed : List PolicyChange := []
  refused : List PolicyRefusal := []
  deriving DecidableEq, Repr

/-- `PolicyOverrides`: the exemptions the backend is standing on. -/
structure PolicyOverrides where
  alwaysOn : Bool := false
  exitNode : Bool := false
  deriving DecidableEq, Repr

/-- The prefs being edited together with the report so far. -/
abbrev Applying := Prefs × PolicyApplication

/-- Write the prefs and report the change. -/
def Applying.write (st : Applying) (prefs : Prefs) (change : PolicyChange) : Applying :=
  (prefs, { st.2 with changed := st.2.changed ++ [change] })

/-- Report a key that is not enforced. -/
def Applying.refuse (st : Applying) (refusal : PolicyRefusal) : Applying :=
  (st.1, { st.2 with refused := st.2.refused ++ [refusal] })

/-- The string of an optional text preference that the policy asks for: empty means cleared. -/
def wantedText (configured : String) : Option String :=
  if configured.isEmpty then none else some configured

/-- A text preference decided by one string key: written when the wanted value differs. -/
def applyText (settings : List PolicySetting) (key : String) (name : PrefName)
    (get : Prefs → Option String) (set : Option String → Prefs → Prefs) (st : Applying) :
    Applying :=
  match configuredString settings key with
  | none => st
  | some text =>
    if get st.1 ≠ wantedText text then
      st.write (set (wantedText text) st.1) ⟨key, name.key, (wantedText text).getD ""⟩
    else st

/-- `LoginURL` decides the control server. -/
def applyLoginUrl (settings : List PolicySetting) : Applying → Applying :=
  applyText settings "LoginURL" .controlUrl (·.controlUrl) fun v p => { p with controlUrl := v }

/-- `Hostname` decides the requested hostname. -/
def applyHostname (settings : List PolicySetting) : Applying → Applying :=
  applyText settings "Hostname" .hostname (·.hostname) fun v p => { p with hostname := v }

/-- `policy_exit_node_in`: the exit node the policy pins, in canonical form.  A configured
    `ExitNodeID` suppresses the pair, since this build cannot honour it. -/
def policyExitNodeIn (settings : List PolicySetting) : Option String :=
  if (configuredString settings "ExitNodeID").any fun id => !id.isEmpty then none
  else
    ((configuredString settings "ExitNodeIP").filter fun ip => !ip.isEmpty).bind fun raw =>
      (readIpAddr raw).map IpAddr.toText

/-- Why a configured `ExitNodeID` is not enforced. -/
def exitNodeIdRefusal (id : String) : PolicyRefusal where
  key := "ExitNodeID"
  reason :=
    if startsWith "auto:" id then
      quoted id ++ ": automatic exit-node selection (`auto:`…) is not supported by this " ++
        "build, which has no expression to resolve and no blackhole state to park on " ++
        "while it is unresolved; pin a concrete node with ExitNodeIP"
    else
      quoted id ++ ": this build selects an exit node by tailnet IP or MagicDNS name, " ++
        "not by stable node id, and a selector that matches no peer egresses DIRECTLY " ++
        "rather than blackholing — which is the leak this key exists to prevent; pin " ++
        "the node with ExitNodeIP"

/-- Why an unparseable `ExitNodeIP` is not enforced. -/
def exitNodeIpRefusal (raw : String) : PolicyRefusal :=
  ⟨"ExitNodeIP", quoted raw ++ " is not an IP address"⟩

/-- `apply_exit_node_policy`. -/
def applyExitNodePolicy (settings : List PolicySetting) (overrideExitNode : Bool)
    (st : Applying) : Applying :=
  match (configuredString settings "ExitNodeID").filter fun id => !id.isEmpty with
  | some id => st.refuse (exitNodeIdRefusal id)
  | none =>
    match (configuredString settings "ExitNodeIP").filter fun ip => !ip.isEmpty with
    | none => st
    | some raw =>
      match readIpAddr raw with
      | none => st.refuse (exitNodeIpRefusal raw)
      | some addr =>
        if overrideExitNode then st
        else if st.1.exitNode ≠ some addr.toText then
          st.write { st.1 with exitNode := some addr.toText }
            ⟨"ExitNodeIP", PrefName.exitNode.key, addr.toText⟩
        else st

/-- `AlwaysOn.Enabled` can only turn the intent on, and not while a permitted disconnect stands. -/
def applyAlwaysOn (settings : List PolicySetting) (overrideAlwaysOn : Bool) (st : Applying) :
    Applying :=
  if configuredBoolean settings "AlwaysOn.Enabled" = some true ∧ overrideAlwaysOn = false ∧
      st.1.wantRunning = false then
    st.write { st.1 with wantRunning := true }
      ⟨"AlwaysOn.Enabled", PrefName.wantRunning.key, "true"⟩
  else st

/-- `PreferencePolicy`: a policy key wired to the boolean preference it governs. -/
structure PreferencePolicy where
  key : String
  pref : PrefName
  /-- The preference's current value, in the policy's polarity. -/
  get : Prefs → Bool
  /-- Write the policy's answer. -/
  set : Bool → Prefs → Prefs
  /-- The resulting preference, rendered. -/
  shown : Bool → String

/-- `AllowIncomingConnections` is the negation of shields-up, in both directions. -/
def allowIncomingConnections : PreferencePolicy where
  key := "AllowIncomingConnections"
  pref := .shieldsUp
  get p := !p.shieldsUp
  set v p := { p with shieldsUp := !v }
  shown v := toString (!v)

def exitNodeAllowLANAccess : PreferencePolicy where
  key := "ExitNodeAllowLANAccess"
  pref := .exitNodeAllowLanAccess
  get p := p.exitNodeAllowLanAccess
  set v p := { p with exitNodeAllowLanAccess := v }
  shown v := toString v

def useTailscaleDNSSettings : PreferencePolicy where
  key := "UseTailscaleDNSSettings"
  pref := .acceptDns
  get p := p.acceptDns
  set v p := { p with acceptDns := v }
  shown v := toString v

def useTailscaleSubnets : PreferencePolicy where
  key := "UseTailscaleSubnets"
  pref := .acceptRoutes
  get p := p.acceptRoutes
  set v p := { p with acceptRoutes := v }
  shown v := toString v

def checkUpdates : PreferencePolicy where
  key := "CheckUpdates"
  pref := .autoUpdateCheck
  get p := p.autoUpdateCheck
  set v p := { p with autoUpdateCheck := v }
  shown v := toString v

/-- An unset auto-update choice reads as off, so only a difference from that is ever written. -/
def installUpdates : PreferencePolicy where
  key := "InstallUpdates"
  pref := .autoUpdateApply
  get p := p.autoUpdateApply.getD false
  set v p := { p with autoUpdateApply := some v }
  shown v := toString v

def advertiseExitNodePolicy : PreferencePolicy where
  key := "AdvertiseExitNode"
  pref := .advertiseExitNode
  get p := p.advertiseExitNode
  set v p := { p with advertiseExitNode := v }
  shown v := toString v

/-- `PREFERENCE_POLICIES`. -/
def preferencePolicies : List PreferencePolicy :=
  [allowIncomingConnections, exitNodeAllowLANAccess, useTailscaleDNSSettings, useTailscaleSubnets,
   checkUpdates, installUpdates, advertiseExitNodePolicy]

/-- One row of the table: written when the option's answer differs from the current value. -/
def PreferencePolicy.apply (settings : List PolicySetting) (policy : PreferencePolicy)
    (st : Applying) : Applying :=
  match configuredPreference settings policy.key with
  | none => st
  | some option =>
    let wanted := option.shouldEnable (policy.get st.1)
    if wanted ≠ policy.get st.1 then
      st.write (policy.set wanted st.1) ⟨policy.key, policy.pref.key, policy.shown wanted⟩
    else st

/-- A configured `UnattendedMode` is refused: a system daemon is unattended already. -/
def refuseUnattendedMode (settings : List PolicySetting) (st : Applying) : Applying :=
  if (configuredPreference settings "UnattendedMode").isSome then
    st.refuse ⟨"UnattendedMode", "this is a system daemon with no user session to be tied to, " ++
      "so it is already unattended; there is no preference for the policy to move"⟩
  else st

/-- `apply_settings_to_prefs`: the policy's last word on the prefs. -/
def applySettingsToPrefs (settings : List PolicySetting) (prefs : Prefs)
    (overrides : PolicyOverrides) : Applying :=
  let st : Applying := (prefs, {})
  let st := applyLoginUrl settings st
  let st := applyHostname settings st
  let st := applyExitNodePolicy settings overrides.exitNode st
  let st := applyAlwaysOn settings overrides.alwaysOn st
  let st := preferencePolicies.foldl (fun st policy => policy.apply settings st) st
  refuseUnattendedMode settings st

/-- `pinned_prefs_in`: the names of the preferences an operator cannot move. -/
def pinnedPrefsIn (settings : List PolicySetting) : List String :=
  (if (configuredString settings "LoginURL").isSome then ["control_url"] else []) ++
  (if (configuredString settings "Hostname").isSome then ["hostname"] else []) ++
  (if (policyExitNodeIn settings).isSome then ["exit_node"] else []) ++
  preferencePolicies.filterMap fun policy =>
    if (configuredPreference settings policy.key).any fun option => option ≠ .userDecides then
      some policy.pref.key
    else none

/-! ## The exit-node gate -/

/-- `ExitNodePolicy`: what is pinned, and whether an operator may pick another node. -/
structure ExitNodePolicy where
  pinned : Option String
  allowOverride : Bool
  deriving DecidableEq, Repr

/-- `exit_node_policy_in`. -/
def exitNodePolicyIn (settings : List PolicySetting) : ExitNodePolicy where
  pinned := policyExitNodeIn settings
  allowOverride := booleanSetting settings "ExitNode.AllowOverride" false

/-- `ExitNodeKeys`: the three exit-node keys as configured. -/
structure ExitNodeKeys where
  id : Option String
  ip : Option String
  allowOverride : Option Bool
  deriving DecidableEq, Repr

/-- `exit_node_keys_in`. -/
def exitNodeKeysIn (settings : List PolicySetting) : ExitNodeKeys where
  id := configuredString settings "ExitNodeID"
  ip := configuredString settings "ExitNodeIP"
  allowOverride := configuredBoolean settings "ExitNode.AllowOverride"

/-- `ExitNodeEdit`: what a permitted edit means for the standing exemption. -/
inductive ExitNodeEdit where
  | untouched | noOverride | override
  deriving DecidableEq, Repr

/-- `ExitNodeEditRefused::message`. -/
def exitNodeManagedByPolicy : String := "exit node cannot be changed: managed by policy"

/-- `check_exit_node_edit`: may this edit change the exit node, and what does it grant? -/
def checkExitNodeEdit (named : Option (Option String)) (policy : ExitNodePolicy) :
    Except String ExitNodeEdit :=
  match named with
  | none => .ok .untouched
  | some wanted =>
    match policy.pinned with
    | none => .ok .noOverride
    | some pinned =>
      if !policy.allowOverride then .error exitNodeManagedByPolicy
      else
        match wanted with
        | none => .error exitNodeManagedByPolicy
        | some wanted => if wanted = pinned then .ok .noOverride else .ok .override

end Tailnetd
