/-
  The lock-held sections of the daemon's commands (`ipn/mod.rs`).

  A bring-up is split in three: `beginUp` edits and persists the prefs, builds the engine's config
  and captures a fresh generation; the handshake runs without the lock; `finishUp` installs the
  engine if the captured generation is still current and hands it back otherwise.  `beginSet`
  edits and persists, then either is done (no engine), pushes the named values through the live
  setters, or asks for a rebuild.  `down` and `logout` tear down and clear the intent;
  `applyConfig` and `reloadConfig` merge a `--config` document.

  `checkEdit` is the pre-validation `up` and `set` share: it decides before anything is torn down,
  mutated or persisted, and returns the completed tags with the verdict on the exit-node edit.
-/
import Tailnetd.Backend

namespace Tailnetd

/-! ## Pre-validation -/

/-- What an edit asks for, as far as the shared checks read it. -/
structure EditRequest where
  advertiseRoutes : Option (List String)
  advertiseExitNode : Option Bool
  advertiseTags : Option (List String)
  exitNode : Option (Option String)
  ssh : Option Bool
  reset : Bool

/-- Complete the named tags; an edit that names none keeps none. -/
def completeNamedTags : Option (List String) → Except String (Option (List String))
  | none => .ok none
  | some tags =>
    match completeAndValidateAdvertiseTags tags with
    | .error e => .error e
    | .ok tags => .ok (some tags)

/-- Check a named exit node against the netmap; clearing one asks nothing. -/
def checkNamedExitNode (named : Option (Option String)) (facts : ExitNodeFacts) :
    Except String Unit :=
  match named with
  | some (some sel) => checkExitNodeArg sel facts
  | _ => .ok ()

/-- The request with its tags completed. -/
def UpOptions.withTags (o : UpOptions) (tags : Option (List String)) : UpOptions :=
  { o with advertiseTags := tags }

/-- The request with its tags completed. -/
def SetOptions.withTags (o : SetOptions) (tags : Option (List String)) : SetOptions :=
  { o with advertiseTags := tags }

namespace Backend

/-- `exit_node_facts`: the netmap is asked only of a running engine. -/
def exitNodeFacts (b : Backend) (netmap : ExitNodeFacts) : ExitNodeFacts :=
  if b.engineState = some .running then { netmap with running := true } else {}

/-- The checks `begin_up` and `begin_set` make first, in their order: the advertised routes, the
    tags, the exit-node policy, the named exit node, the SSH gate. -/
def checkEdit (E : Env) (b : Backend) (r : EditRequest) (netmap : ExitNodeFacts) :
    Except String (Option (List String) × ExitNodeEdit) :=
  let (routes, exit) := prospectiveRouteSet r.advertiseRoutes r.advertiseExitNode b.prefs r.reset
  match validateAdvertiseRoutes E.host routes exit with
  | .error e => .error e
  | .ok () =>
    match completeNamedTags r.advertiseTags with
    | .error e => .error e
    | .ok tags =>
      match checkExitNodeEdit r.exitNode (exitNodePolicyIn E.settings) with
      | .error e => .error e
      | .ok edit =>
        match checkNamedExitNode r.exitNode (b.exitNodeFacts netmap) with
        | .error e => .error e
        | .ok () =>
          match checkSshPrefs E.host r.ssh b.prefs r.reset with
          | .error e => .error e
          | .ok () => .ok (tags, edit)

/-! ## Bringing the node up -/

/-- The checks at the top of `begin_up`. -/
def checkUp (E : Env) (b : Backend) (o : UpOptions) (netmap : ExitNodeFacts) :
    Except String (Option (List String) × ExitNodeEdit) :=
  b.checkEdit E
    { advertiseRoutes := o.advertiseRoutes
      advertiseExitNode := o.advertiseExitNode
      advertiseTags := o.advertiseTags
      exitNode := o.exitNode
      ssh := o.ssh
      reset := o.reset } netmap

/-- The prefs an `up` asks for: the reset, the overrides, then the intent. -/
def upPrefs (o : UpOptions) (p : Prefs) : Prefs :=
  let p := if o.reset then p.resetUpManagedToDefault else p
  { o.applyOverrides p with wantRunning := true, loggedOut := false }

/-- The apply block of `begin_up`: the connect edge ends both exemptions, the edit's own verdict is
    recorded, and the policy has the last word. -/
def applyUp (E : Env) (b : Backend) (o : UpOptions) (edit : ExitNodeEdit) : Backend :=
  let b := { b with prefs := upPrefs o b.prefs, everConfigured := true }
  let b := b.resetAlwaysOnOverride
  let b := b.resetExitNodePolicyOverride
  let b := b.recordExitNodeEdit edit
  b.reconcileSysPolicy E

/-- `--force-reauth` discards the node key before anything is edited. -/
def reauth (b : Backend) (o : UpOptions) (io : Io) : Outcome Unit :=
  if o.forceReauth then b.discardNodeKey io else (.ok (), b)

/-- Fold the transient registration credentials into the config. -/
def withWif (wif : Option WifCreds) (c : Config) : Config :=
  match wif with
  | none => c
  | some wif => wif.applyToConfig c

/-- `begin_up`: tear down, edit, persist, build the config and capture a fresh generation. -/
def beginUp (E : Env) (b : Backend) (o : UpOptions) (wif : Option WifCreds)
    (netmap : ExitNodeFacts) (io : Io) : Outcome PendingUp :=
  match b.checkUp E o netmap with
  | .error e => (.error (.refused e), b)
  | .ok (tags, edit) =>
    match b.stopDevice.reauth o io with
    | (.error e, b) => (.error e, b)
    | (.ok (), b) =>
      match (b.applyUp E (o.withTags tags) edit).persistPrefs io with
      | (.error e, b) => (.error e, b)
      | (.ok (), b) =>
        match b.buildConfig E io with
        | (.error e, b) => (.error e, b)
        | (.ok config, b) =>
          let b := { b with hasNodeKey := true }.bumpGeneration
          (.ok { config := withWif wif config, generation := b.generation }, b)

/-- Install an engine: its SSH task follows the prefs, and the node has logged in. -/
def install (E : Env) (b : Backend) (dev : Device) : Backend :=
  { b with
    device := some dev
    generation := b.generation + 1
    sshTask := b.prefs.sshEnabled && E.host.featureSsh
    prefs := { b.prefs with hasLoggedIn := true } }

/-- `finish_up`: a stale attempt hands its engine back, a current one installs it. -/
def finishUp (E : Env) (b : Backend) (pending : PendingUp) (built : Except Failure Device) :
    Outcome (Option Device) :=
  if pending.generation ≠ b.generation then (.ok built.toOption, b)
  else
    match built with
    | .error e => (.error e, b)
    | .ok dev => (.ok none, b.install E dev)

/-- The last section of a bring-up: `finish_up`, then a persist whose failure is only logged. -/
def finishSection (E : Env) (b : Backend) (pending : PendingUp) (built : Except Failure Device)
    (io : Io) : Outcome (Option Device) :=
  match b.finishUp E pending built with
  | (.ok none, b) => (.ok none, (b.persistPrefs io).2)
  | result => result

/-! ## Setting preferences -/

/-- `SetAction`: how a `set` reaches the engine. -/
inductive SetAction where
  | persistedOnly
  | live (ops : List LiveSetOp)
  | rebuild
  deriving DecidableEq, Repr

/-- `SetOutcome`: the action, and the held failure of a profile rename. -/
structure SetOutcome where
  action : SetAction
  renameError : Option Failure
  deriving DecidableEq, Repr

/-- The checks at the top of `begin_set`: the shared ones, then the auto-update opt-in. -/
def checkSet (E : Env) (b : Backend) (o : SetOptions) (netmap : ExitNodeFacts) :
    Except String (Option (List String) × ExitNodeEdit) :=
  match b.checkEdit E
      { advertiseRoutes := o.advertiseRoutes
        advertiseExitNode := o.advertiseExitNode
        advertiseTags := o.advertiseTags
        exitNode := o.exitNode
        ssh := o.ssh
        reset := false } netmap with
  | .error e => .error e
  | .ok verdict =>
    match checkAutoUpdatePref (o.autoUpdate.or b.prefs.autoUpdateApply)
        E.host.autoUpdateRefusal remedyCli with
    | some e => .error e
    | none => .ok verdict

/-- The apply block of `begin_set`. -/
def applySet (E : Env) (b : Backend) (o : SetOptions) (edit : ExitNodeEdit) : Backend :=
  let b := { b with prefs := o.applyOverrides b.prefs, everConfigured := true }
  let b := b.recordExitNodeEdit edit
  b.reconcileSysPolicy E

/-- `rename_current_profile`: an unlisted profile that has not logged in keeps its name in its
    prefs only. -/
def renameCurrentProfile (b : Backend) (name : String) (io : Io) : Outcome Unit :=
  if b.prefs.hasLoggedIn = false ∧ b.currentProfile ≠ defaultProfileId ∧
      profileName (b.disk.loadProfiles io) b.currentProfile = none then (.ok (), b)
  else if !io.saveProfiles then (.error (.io "persisting profiles.json"), b)
  else (.ok (), b.setProfiles (setProfileName b.currentProfile name (b.disk.loadProfiles io)))

/-- The rename a named nickname owes; its failure is held back. -/
def renameSection (b : Backend) (nickname : Option (Option String)) (io : Io) :
    Option Failure × Backend :=
  match nickname with
  | none => (none, b)
  | some name =>
    match b.renameCurrentProfile (name.getD "") io with
    | (.ok (), b) => (none, b)
    | (.error e, b) => (some e, b)

/-- The live setters a `set` issues: one for each live-applicable preference it names, with the
    value now in the prefs. -/
def liveOps (E : Env) (o : SetOptions) (p : Prefs) : List LiveSetOp :=
  (if o.exitNode.isSome then [.exitNode p.exitNode] else []) ++
  (if o.hostname.isSome then [.hostname (p.hostname.getD "")] else []) ++
  (if o.acceptRoutes.isSome then [.acceptRoutes p.acceptRoutes] else []) ++
  (if o.acceptDns.isSome then [.acceptDns p.acceptDns] else []) ++
  (if o.advertiseRoutes.isSome then
    -- the set was validated above, so the parse cannot fail
    [.advertiseRoutes ((parseAdvertiseRoutes E.host p.advertiseRoutes).toOption.getD [])]
   else []) ++
  (if o.advertiseExitNode.isSome then [.advertiseExitNode p.advertiseExitNode] else [])

/-- Push live setters to an engine until one fails. -/
def pushOps (dev : Device) (ops : List LiveSetOp) (fails : Option Nat) : Device :=
  let reached := match fails with
    | none => ops
    | some n => ops.take n
  { dev with config := reached.foldl LiveSetOp.apply dev.config }

/-- The reconcile step of `begin_set`. -/
def reconcileEngine (E : Env) (b : Backend) (o : SetOptions) (io : Io) : Outcome SetAction :=
  match b.device with
  | none => (.ok .persistedOnly, b)
  | some dev =>
    if o.needsRebuild then (.ok .rebuild, b)
    else
      let ops := liveOps E o b.prefs
      let b := { b with device := some (pushOps dev ops io.setterFails) }
      if io.setterFails.any fun n => n < ops.length then
        (.error (.io "live engine setter failed"), b)
      else (.ok (.live ops), b)

/-- `begin_set`. -/
def beginSet (E : Env) (b : Backend) (o : SetOptions) (netmap : ExitNodeFacts) (io : Io) :
    Outcome SetOutcome :=
  match b.checkSet E o netmap with
  | .error e => (.error (.refused e), b)
  | .ok (tags, edit) =>
    match (b.applySet E (o.withTags tags) edit).persistPrefs io with
    | (.error e, b) => (.error e, b)
    | (.ok (), b) =>
      match b.renameSection o.nickname io with
      | (renameError, b) =>
        match b.reconcileEngine E (o.withTags tags) io with
        | (.error e, b) => (.error e, b)
        | (.ok action, b) => (.ok { action := action, renameError := renameError }, b)

/-! ## Disconnecting -/

end Backend

/-- `Actor`: who asks for a disconnect. -/
inductive Actor where
  | operator (reason : Option String)
  | daemon
  deriving DecidableEq, Repr

/-- `DisconnectRefused::message`, for each of its two cases. -/
def disconnectAlwaysOn : String := "disconnect not allowed: always-on mode is enabled"
def disconnectReasonRequired : String := "disconnect not allowed: reason required"

/-- `alwayson::check_disconnect_policy`: the daemon acting on its own is not asked. -/
def disconnectVerdict (settings : List PolicySetting) : Actor → Except String Unit
  | .daemon => .ok ()
  | .operator reason =>
    if !booleanSetting settings "AlwaysOn.Enabled" false then .ok ()
    else if !booleanSetting settings "AlwaysOn.OverrideWithReason" false then
      .error disconnectAlwaysOn
    else if (reason.getD "").isEmpty then .error disconnectReasonRequired
    else .ok ()

namespace Backend

/-- `check_disconnect_policy`: only the transition from up to down is gated. -/
def checkDisconnectPolicy (E : Env) (b : Backend) (actor : Actor) : Except String Unit :=
  if b.prefs.wantRunning then disconnectVerdict E.settings actor else .ok ()

/-- What both disconnects do to the exemptions, `wasRunning` being the intent before them. -/
def disconnectEdge (E : Env) (b : Backend) (wasRunning : Bool) : Backend :=
  (if wasRunning then b.onPermittedDisconnect (reconnectAfterIn E.settings) else b)
    |>.resetExitNodePolicyOverride

/-- The pref writes of `down`. -/
def clearIntent (b : Backend) : Backend :=
  { b with prefs := { b.prefs with wantRunning := false }, everConfigured := true }

/-- `down`. -/
def down (E : Env) (b : Backend) (actor : Actor) (io : Io) : Outcome Unit :=
  match b.checkDisconnectPolicy E actor with
  | .error e => (.error (.refused e), b)
  | .ok () =>
    (b.stopDevice.bumpGeneration.clearIntent.disconnectEdge E b.prefs.wantRunning).persistPrefs io

/-- The pref writes of `logout`. -/
def clearLogin (b : Backend) : Backend :=
  { b with
    prefs := { b.prefs with wantRunning := false, loggedOut := true, hasLoggedIn := false }
    everConfigured := true }

/-- `logout`: the key goes before the intent is recorded. -/
def logout (E : Env) (b : Backend) (actor : Actor) (io : Io) : Outcome Unit :=
  match b.checkDisconnectPolicy E actor with
  | .error e => (.error (.refused e), b)
  | .ok () =>
    match b.stopDevice.bumpGeneration.discardNodeKey io with
    | (.error e, b) => (.error e, b)
    | (.ok (), b') => (b'.clearLogin.disconnectEdge E b.prefs.wantRunning).persistPrefs io

/-! ## The declarative config -/

/-- Adopt merged prefs: the node counts as configured, and the policy has the last word. -/
def adoptPrefs (E : Env) (b : Backend) (p : Prefs) : Backend :=
  { b with prefs := p, everConfigured := true }.reconcileSysPolicy E

/-- `apply_config`: merge, reconcile, persist.  A key that does not resolve fails after the
    merge. -/
def applyConfig (E : Env) (b : Backend) (c : ConfigVAlpha) (contents : Option String) (io : Io) :
    Outcome (Option String) :=
  match applyToPrefs E.host c contents b.prefs with
  | (.error e, p) => (.error e, { b with prefs := p })
  | (.ok authkey, p) =>
    match (b.adoptPrefs E p).persistPrefs io with
    | (.error e, b) => (.error e, b)
    | (.ok (), b) => (.ok authkey, b)

/-- `apply_tun_flag`: the launch flag lands in the TUN prefs, and only a change is persisted.  The
    flag is `none` for userspace networking, else the name it asks for. -/
def applyTunFlag (b : Backend) (flag : Option (Option String)) (io : Io) : Outcome Bool :=
  let (enabled, name) := match flag with
    | none => (false, b.prefs.tunName)
    | some name => (true, name)
  if b.prefs.tunEnabled = enabled ∧ b.prefs.tunName = name then (.ok false, b)
  else
    match { b with prefs := { b.prefs with tunEnabled := enabled, tunName := name } }.persistPrefs io
    with
    | (.error e, b) => (.error e, b)
    | (.ok (), b) => (.ok true, b)

/-- `ReloadAction`. -/
inductive ReloadAction where
  | persistedOnly | rebuild | bringDown
  deriving DecidableEq, Repr

/-- How a merged config reaches the engine. -/
def reloadAction (b : Backend) : ReloadAction :=
  if b.device.isSome then
    if b.prefs.wantRunning then .rebuild else .bringDown
  else .persistedOnly

/-- `reload_config`; `none` when no `--config` is in use.  The document's key is dropped. -/
def reloadConfig (E : Env) (b : Backend) (document : Except Failure ConfigVAlpha)
    (contents : Option String) (io : Io) : Outcome (Option ReloadAction) :=
  match b.configSource with
  | none => (.ok none, b)
  | some source =>
    match loadConfig source document with
    | .error e => (.error e, b)
    | .ok c =>
      match b.applyConfig E c contents io with
      | (.error e, b) => (.error e, b)
      | (.ok _, b) => (.ok (some b.reloadAction), b)

end Backend

end Tailnetd
