/-
  The daemon's backend (`ipn/mod.rs`): its state, and the small mutations its operations share.

  The backend owns the live prefs, at most one engine, the lifecycle generation, the node-key cache
  and the two standing policy exemptions with the reconnect timer.  `Disk` is the part of the state
  directory it reads and writes: one prefs file and one key file per profile, `profiles.json` and
  the current-profile pointer.  Files are addressed by profile id, which determines their paths.

  Every fallible file access asks `Io` whether it succeeds, so an operation is a pure function of
  the state, its request and the outcome of its accesses.  A file is replaced atomically, so a
  failed write leaves the old content.  An operation returns its result together with the backend
  as it left it: an error does not undo what came before it.
-/
import Mathlib.Logic.Function.Basic
import Tailnetd.ConfFile
import Tailnetd.SysPolicy

namespace Tailnetd

/-! ## The engine -/

/-- `tailscale::DeviceState`, the state the engine publishes. -/
inductive DeviceState where
  | running | connecting | needsLogin | needsMachineAuth | reauthenticating | expired
  | failed (permanent : Bool)
  deriving DecidableEq, Repr

/-- `State`: the node's state as the daemon reports it. -/
inductive State where
  | noState | needsLogin | needsMachineAuth | stopped | starting | running
  deriving DecidableEq, Repr

/-- `state_from_device`. -/
def stateFromDevice : DeviceState → State
  | .running => .running
  | .connecting => .starting
  | .needsLogin => .needsLogin
  | .needsMachineAuth => .needsMachineAuth
  | .reauthenticating => .starting
  | .expired => .needsLogin
  | .failed true => .needsLogin
  | .failed false => .starting

/-- `tailscale::Device`: an engine, the config it runs with and the state it publishes.  The `id`
    tells one engine from another. -/
structure Device where
  id : Nat
  config : Config
  state : DeviceState
  deriving DecidableEq, Repr

/-- `LiveSetOp`: one live engine setter, with the value pushed. -/
inductive LiveSetOp where
  | exitNode (v : Option String)
  | hostname (v : String)
  | acceptRoutes (v : Bool)
  | acceptDns (v : Bool)
  | advertiseRoutes (v : List IpNet)
  | advertiseExitNode (v : Bool)
  deriving DecidableEq, Repr

/-- What a live setter changes in the config the engine runs with. -/
def LiveSetOp.apply (c : Config) : LiveSetOp → Config
  | .exitNode v => { c with exitNode := v.map ExitNodeSelector.parse }
  | .hostname v => { c with requestedHostname := some v }
  | .acceptRoutes v => { c with acceptRoutes := v }
  | .acceptDns v => { c with acceptDns := v }
  | .advertiseRoutes v => { c with advertiseRoutes := v }
  | .advertiseExitNode v => { c with advertiseExitNode := v }

/-- `PendingUp`: one begun bring-up, with the generation it captured. -/
structure PendingUp where
  config : Config
  generation : Nat
  deriving DecidableEq, Repr

/-- `ReconnectTimer`: one arming of the always-on reconnect timer. -/
structure ReconnectTimer where
  seq : Nat
  profile : String
  /-- The configured window, in nanoseconds. -/
  after : Nat
  deriving DecidableEq, Repr

/-! ## The disk -/

/-- The state directory. -/
structure Disk where
  prefsFile : String → Option Prefs
  keyFile : String → Option KeyFile
  /-- `profiles.json`: display names by profile id, in the order of the ids. -/
  profiles : List (String × String)
  /-- The `current-profile` pointer. -/
  currentProfile : Option String

/-- Whether each file access of one operation succeeds. -/
structure Io where
  readPointer : Bool := true
  statPrefs : Bool := true
  loadPrefs : Bool := true
  savePrefs : Bool := true
  removePrefs : Bool := true
  readProfiles : Bool := true
  saveProfiles : Bool := true
  savePointer : Bool := true
  readKey : Bool := true
  removeKey : Bool := true
  key : KeyIo := {}
  /-- The position of the first live engine setter that fails, if one does. -/
  setterFails : Option Nat := none
  deriving DecidableEq, Repr

/-- `DEFAULT_PROFILE_ID`. -/
def defaultProfileId : String := "default"

/-- `load_profiles_file`: an unreadable file reads as empty. -/
def Disk.loadProfiles (d : Disk) (io : Io) : List (String × String) :=
  if io.readProfiles then d.profiles else []

/-- The pointer as it is read; an unreadable one counts as absent. -/
def Disk.readPointer (d : Disk) (io : Io) : Option String :=
  if io.readPointer then d.currentProfile else none

/-- The entry of one profile, if it is listed. -/
def profileName (profiles : List (String × String)) (id : String) : Option String :=
  (profiles.find? fun entry => entry.1 == id).map (·.2)

/-- Write the name of one profile, listing it in the order of the ids if it is new. -/
def setProfileName (id name : String) : List (String × String) → List (String × String)
  | [] => [(id, name)]
  | entry :: rest =>
    if id = entry.1 then (id, name) :: rest
    else if id < entry.1 then (id, name) :: entry :: rest
    else entry :: setProfileName id name rest

/-- `key_file_has_node_key`, of a file's content. -/
def keyFileHasNodeKey : Option KeyFile → Bool
  | some (.key _) => true
  | _ => false

/-! ## The backend -/

/-- The process the backend runs in: its host and the registered policy sources. -/
structure Env where
  host : Host
  policy : List PolicySource

/-- The effective settings. -/
def Env.settings (E : Env) : List PolicySetting := mergeSources E.policy

/-- `Backend`. -/
structure Backend where
  prefs : Prefs
  currentProfile : String
  /-- The `--config` source, when one loaded at boot. -/
  configSource : Option ConfigSource
  listenPort : Option UInt16
  device : Option Device
  /-- Whether the SSH server task of the installed engine was spawned. -/
  sshTask : Bool
  everConfigured : Bool
  generation : Nat
  bootAttemptedUp : Bool
  /-- How often `prefs_tx` was ticked. -/
  prefsTicks : Nat
  /-- The cached answer to "is a node key on disk". -/
  hasNodeKey : Bool
  overrideAlwaysOn : Bool
  /-- The `reconnect_tx` cell. -/
  reconnect : Option ReconnectTimer
  reconnectSeq : Nat
  alwaysOnKeys : AlwaysOnKeys
  overrideExitNodePolicy : Bool
  exitNodeKeys : ExitNodeKeys
  disk : Disk

/-- The result of a fallible operation together with the backend it leaves. -/
abbrev Outcome (α : Type) := Except Failure α × Backend

namespace Backend

/-- `bump_generation`. -/
def bumpGeneration (b : Backend) : Backend := { b with generation := b.generation + 1 }

/-- `stop_device`: the engine goes, with the tasks bound to it. -/
def stopDevice (b : Backend) : Backend := { b with device := none, sshTask := false }

/-- `wants_running`. -/
def wantsRunning (b : Backend) : Bool := b.prefs.wantsRunning

/-- The state the installed engine publishes. -/
def engineState (b : Backend) : Option State := b.device.map fun dev => stateFromDevice dev.state

/-- `derive_state(false)`: the state of a node whose netmap is not asked for. -/
def deriveState (b : Backend) : State :=
  if b.device.isSome then .starting
  else if b.prefs.loggedOut then .needsLogin
  else if b.prefs.wantRunning then .needsLogin
  else if b.hasNodeKey then .stopped
  else .noState

/-- The current profile's key file. -/
def keyFile (b : Backend) : Option KeyFile := b.disk.keyFile b.currentProfile

/-- The current profile's prefs file. -/
def prefsFile (b : Backend) : Option Prefs := b.disk.prefsFile b.currentProfile

/-- Replace the content of the current profile's key file. -/
def setKeyFile (b : Backend) (file : Option KeyFile) : Backend :=
  { b with disk := { b.disk with keyFile := Function.update b.disk.keyFile b.currentProfile file } }

/-- Replace the content of the current profile's prefs file. -/
def setPrefsFile (b : Backend) (file : Option Prefs) : Backend :=
  { b with
    disk := { b.disk with prefsFile := Function.update b.disk.prefsFile b.currentProfile file } }

/-- Replace `profiles.json`. -/
def setProfiles (b : Backend) (profiles : List (String × String)) : Backend :=
  { b with disk := { b.disk with profiles := profiles } }

/-! ## Persisting -/

/-- `register_current_profile`: a profile that has logged in is listed, under its nickname. -/
def registerCurrentProfile (b : Backend) (io : Io) : Outcome Unit :=
  if b.prefs.hasLoggedIn = false ∨ b.currentProfile = defaultProfileId then (.ok (), b)
  else if (profileName (b.disk.loadProfiles io) b.currentProfile).isSome then (.ok (), b)
  else if !io.saveProfiles then (.error (.io "persisting profiles.json"), b)
  else
    (.ok (), b.setProfiles (setProfileName b.currentProfile (b.prefs.nodeNickname.getD "")
      (b.disk.loadProfiles io)))

/-- `persist_prefs`: save the prefs, list the profile, tick the watchers. -/
def persistPrefs (b : Backend) (io : Io) : Outcome Unit :=
  if !io.savePrefs then (.error (.io "saving prefs"), b)
  else
    match (b.setPrefsFile (some b.prefs)).registerCurrentProfile io with
    | (.error e, b) => (.error e, b)
    | (.ok (), b) => (.ok (), { b with prefsTicks := b.prefsTicks + 1 })

/-- `discard_node_key`: a missing file is success. -/
def discardNodeKey (b : Backend) (io : Io) : Outcome Unit :=
  if !io.removeKey then (.error (.io "could not discard the node key"), b)
  else (.ok (), { b.setKeyFile none with hasNodeKey := false })

/-- `build_config` on the backend's prefs, key file and listen port. -/
def buildConfig (E : Env) (b : Backend) (io : Io) : Outcome Config :=
  match Tailnetd.buildConfig E.host b.prefs b.listenPort b.keyFile io.key with
  | (result, file) => (result, b.setKeyFile file)

/-! ## The policy exemptions and the reconnect timer -/

/-- `reconcile_sys_policy`. -/
def reconcileSysPolicy (E : Env) (b : Backend) : Backend :=
  { b with
    prefs := (applySettingsToPrefs E.settings b.prefs
      { alwaysOn := b.overrideAlwaysOn, exitNode := b.overrideExitNodePolicy }).1 }

/-- `start_reconnect_timer`: a new arming replaces the one before. -/
def startReconnectTimer (b : Backend) (after : Nat) : Backend :=
  { b with
    reconnectSeq := b.reconnectSeq + 1
    reconnect := some ⟨b.reconnectSeq + 1, b.currentProfile, after⟩ }

/-- `on_permitted_disconnect`. -/
def onPermittedDisconnect (b : Backend) (reconnectAfter : Option Nat) : Backend :=
  match reconnectAfter with
  | none => { b with overrideAlwaysOn := true }
  | some after => { b with overrideAlwaysOn := true }.startReconnectTimer after

/-- `reset_always_on_override`: the exemption and its timer end together. -/
def resetAlwaysOnOverride (b : Backend) : Backend :=
  { b with overrideAlwaysOn := false, reconnect := none }

/-- `reset_exit_node_policy_override`. -/
def resetExitNodePolicyOverride (b : Backend) : Backend :=
  { b with overrideExitNodePolicy := false }

/-- `record_exit_node_edit`. -/
def recordExitNodeEdit (b : Backend) : ExitNodeEdit → Backend
  | .untouched => b
  | .noOverride => b.resetExitNodePolicyOverride
  | .override => { b with overrideExitNodePolicy := true }

/-- `sys_policy_changed`: only a change of an always-on key resets. -/
def sysPolicyChanged (b : Backend) (current : AlwaysOnKeys) : Backend :=
  if current = b.alwaysOnKeys then b
  else { b with alwaysOnKeys := current }.resetAlwaysOnOverride

/-- `exit_node_policy_changed`: only a change of an exit-node key resets. -/
def exitNodePolicyChanged (b : Backend) (current : ExitNodeKeys) : Backend :=
  if current = b.exitNodeKeys then b
  else { b with exitNodeKeys := current }.resetExitNodePolicyOverride

/-- `claim_due_reconnect`: is the fired arming still the live one, and for this profile? -/
def claimDueReconnect (b : Backend) (armed : ReconnectTimer) : Bool × Backend :=
  if b.reconnect ≠ some armed then (false, b)
  else if armed.profile ≠ b.currentProfile then (false, { b with reconnect := none })
  else (true, { b with reconnect := none })

/-! ## The registration credential -/

/-- `auth_key_gate`. -/
def authKeyGate (b : Backend) : AuthKeyGate where
  running := b.engineState = some .running
  needsLogin := b.engineState = some .needsLogin
  enrolled := b.prefs.hasLoggedIn
  configInUse := b.configSource.isSome

/-- `policy_auth_key`. -/
def policyAuthKey (E : Env) (b : Backend) : Option String :=
  match authKeyIn E.policy b.authKeyGate with
  | .use key => some key
  | _ => none

end Backend

end Tailnetd
