/-
  The daemon as a step machine.

  Every command takes the backend lock for one or more sections and releases it in between; the
  sections of concurrent commands interleave in any order.  An `Event` is one lock-held section (or
  one input from outside: the engine publishing a state, the policy registry moving).  A command
  that still owes a section leaves a `Task` behind, and a later event picks it up by its position:

  * a bring-up leaves its `handshake`, to be finished whenever the engine is built or has failed;
  * a `set` or reload that needs a rebuild leaves `preflight`, then `rebuild`, then a handshake;
  * a reload that turned the node off leaves `bringDown`;
  * a fired reconnect timer leaves `reconnect`, a SIGHUP retry leaves `resumeCheck` and `resume`.

  `step` is executable: `none` means that no task of that kind stands at the position.  The log
  records what the sections did, newest first; no section reads it.
-/
import Tailnetd.Profiles

namespace Tailnetd

/-! ## The state -/

/-- The verb behind a rebuild. -/
inductive Cause where
  | set | reloadConfig
  deriving DecidableEq, Repr

/-- Who started a bring-up. -/
inductive Origin where
  | operator
  /-- The auto-start at boot. -/
  | boot
  | rebuild (cause : Cause)
  /-- The always-on reconnect timer. -/
  | reconnect
  /-- The SIGHUP retry. -/
  | resume
  deriving DecidableEq, Repr

/-- What a command still owes. -/
inductive Task where
  | handshake (pending : PendingUp) (authkey : Option String) (origin : Origin)
  | preflight (cause : Cause)
  | rebuild (cause : Cause)
  | bringDown
  | reconnect
  | resumeCheck
  | resume (authkey : Option String)
  deriving DecidableEq, Repr

/-- One thing a section did. -/
inductive Did where
  /-- A bring-up captured this generation; its handshake carries this credential. -/
  | began (origin : Origin) (generation : Nat) (authkey : Option String)
  /-- The attempt of this generation installed this engine. -/
  | installed (generation device : Nat)
  /-- The attempt of this generation was stale and handed this engine back. -/
  | handedBack (generation device : Nat)
  /-- The engine of this generation's attempt did not start. -/
  | buildFailed (generation : Nat)
  | down
  | logout
  /-- A disconnect or a profile change tore the engine down and then failed on the disk. -/
  | tornDown
  | profileChanged (id : String)
  /-- An exit-node edit was accepted as an override of the policy. -/
  | exitNodeOverride (value : String)
  deriving DecidableEq, Repr

/-- The daemon. -/
structure Daemon where
  backend : Backend
  policy : List PolicySource
  tasks : List Task
  /-- The id of the next engine that starts. -/
  nextDevice : Nat
  log : List Did

/-! ## The events -/

/-- One lock-held section, or one input from outside. -/
inductive Event where
  /-- The first section of an operator's `drive_up`. -/
  | up (o : UpOptions) (authkey : Option String) (wif : Option WifCreds) (netmap : ExitNodeFacts)
      (io : Io)
  /-- The last section of a bring-up; the engine started in this state, or did not start. -/
  | finish (i : Nat) (built : Option DeviceState) (io : Io)
  | set (o : SetOptions) (netmap : ExitNodeFacts) (io : Io)
  | reload (document : Except Failure ConfigVAlpha) (contents : Option String) (io : Io)
  | preflight (i : Nat) (io : Io)
  | rebuild (i : Nat) (io : Io)
  | bringDown (i : Nat) (io : Io)
  | down (reason : Option String) (io : Io)
  | logout (reason : Option String) (io : Io)
  | switchProfile (target : String) (io : Io)
  | createProfile (id : String) (io : Io)
  | switchToEmptyProfile (draw : Nat → Option (UInt8 × UInt8)) (io : Io)
  | deleteProfile (target : String) (io : Io)
  /-- The effective policy moves. -/
  | policyMoved (policy : List PolicySource)
  /-- The reconnect loop handles a policy tick. -/
  | policyTick
  /-- The reconnect loop's sleep on this arming elapsed. -/
  | timerFired (armed : ReconnectTimer)
  | reconnect (i : Nat) (io : Io)
  /-- The snapshot section of `reconcile_on_reload`. -/
  | sighup (io : Io)
  /-- The key section of `auto_start_arc`. -/
  | resumeCheck (i : Nat) (envAuthkey : Option String) (io : Io)
  | resume (i : Nat) (io : Io)
  /-- The installed engine publishes a state. -/
  | engine (state : DeviceState)

namespace Daemon

/-- The environment of the current sections. -/
def env (H : Host) (d : Daemon) : Env := ⟨H, d.policy⟩

/-- The task at a position is picked up. -/
def take (d : Daemon) (i : Nat) : Daemon := { d with tasks := d.tasks.eraseIdx i }

/-- A command leaves a task behind. -/
def owe (d : Daemon) (t : Task) : Daemon := { d with tasks := d.tasks ++ [t] }

/-- Record what a section did. -/
def did (d : Daemon) (entries : List Did) : Daemon := { d with log := entries ++ d.log }

/-! ## Bring-ups -/

/-- The mark of a permitted exit-node edit: the node it names, when it overrides the policy. -/
def grantOf (exitNode : Option (Option String)) (edit : ExitNodeEdit) : List Did :=
  match edit, exitNode with
  | .override, some (some v) => [.exitNodeOverride v]
  | _, _ => []

/-- The override an `up` is granted, once its key discard succeeded. -/
def upGrant (E : Env) (b : Backend) (o : UpOptions) (netmap : ExitNodeFacts) (io : Io) :
    List Did :=
  match b.checkUp E o netmap with
  | .error _ => []
  | .ok (_, edit) => if (b.stopDevice.reauth o io).1.isOk then grantOf o.exitNode edit else []

/-- A `begin_up` section. -/
def beginUp (H : Host) (d : Daemon) (origin : Origin) (authkey : Option String) (o : UpOptions)
    (wif : Option WifCreds) (netmap : ExitNodeFacts) (io : Io) : Daemon :=
  let grant := upGrant (d.env H) d.backend o netmap io
  match d.backend.beginUp (d.env H) o wif netmap io with
  | (.error _, b) => { d with backend := b }.did grant
  | (.ok pending, b) =>
    ({ d with backend := b }.owe (.handshake pending authkey origin)).did
      (.began origin pending.generation authkey :: grant)

/-- The first section of `drive_up`: the policy's credential is the last resort. -/
def driveUp (H : Host) (d : Daemon) (origin : Origin) (authkey : Option String) (o : UpOptions)
    (wif : Option WifCreds) (netmap : ExitNodeFacts) (io : Io) : Daemon :=
  d.beginUp H origin (authkey.or (d.backend.policyAuthKey (d.env H))) o wif netmap io

/-- The last section of a bring-up. -/
def finish (H : Host) (d : Daemon) (pending : PendingUp) (built : Option DeviceState) (io : Io) :
    Daemon :=
  match built with
  | none =>
    let (_, b) := d.backend.finishSection (d.env H) pending (.error (.io "engine start failed")) io
    { d with backend := b }.did [.buildFailed pending.generation]
  | some state =>
    let dev : Device := ⟨d.nextDevice, pending.config, state⟩
    let d := { d with nextDevice := d.nextDevice + 1 }
    match d.backend.finishSection (d.env H) pending (.ok dev) io with
    | (.ok none, b) => { d with backend := b }.did [.installed pending.generation dev.id]
    | (.ok (some orphan), b) =>
      { d with backend := b }.did [.handedBack pending.generation orphan.id]
    | (.error _, b) => { d with backend := b }

/-! ## Edits -/

/-- The override a `set` is granted. -/
def setGrant (E : Env) (b : Backend) (o : SetOptions) (netmap : ExitNodeFacts) : List Did :=
  match b.checkSet E o netmap with
  | .error _ => []
  | .ok (_, edit) => grantOf o.exitNode edit

/-- The first section of `drive_set`. -/
def driveSet (H : Host) (d : Daemon) (o : SetOptions) (netmap : ExitNodeFacts) (io : Io) :
    Daemon :=
  let grant := setGrant (d.env H) d.backend o netmap
  match d.backend.beginSet (d.env H) o netmap io with
  | (.ok ⟨.rebuild, _⟩, b) => ({ d with backend := b }.owe (.preflight .set)).did grant
  | (_, b) => { d with backend := b }.did grant

/-- The first section of `drive_reload_config`. -/
def driveReloadConfig (H : Host) (d : Daemon) (document : Except Failure ConfigVAlpha)
    (contents : Option String) (io : Io) : Daemon :=
  match d.backend.reloadConfig (d.env H) document contents io with
  | (.ok (some .rebuild), b) => { d with backend := b }.owe (.preflight .reloadConfig)
  | (.ok (some .bringDown), b) => { d with backend := b }.owe .bringDown
  | (_, b) => { d with backend := b }

/-- The preflight section of `rebuild_running_device`. -/
def preflight (H : Host) (d : Daemon) (cause : Cause) (io : Io) : Daemon :=
  match d.backend.buildConfig (d.env H) io with
  | (.error _, b) => { d with backend := b }
  | (.ok _, b) => { d with backend := b }.owe (.rebuild cause)

/-! ## Disconnects and profiles -/

/-- A disconnect that was not refused leaves its mark, or the mark of a failed one. -/
def disconnectMark (mark : Did) : Except Failure Unit → List Did
  | .ok () => [mark]
  | .error (.refused _) => []
  | .error (.io _) => [.tornDown]

/-- A `down` section. -/
def down (H : Host) (d : Daemon) (actor : Actor) (io : Io) : Daemon :=
  let (result, b) := d.backend.down (d.env H) actor io
  { d with backend := b }.did (disconnectMark .down result)

/-- A `logout` section. -/
def logout (H : Host) (d : Daemon) (actor : Actor) (io : Io) : Daemon :=
  let (result, b) := d.backend.logout (d.env H) actor io
  { d with backend := b }.did (disconnectMark .logout result)

/-- A profile operation's section; one that failed may have torn down already. -/
def changeProfile (d : Daemon) (outcome : Outcome SwitchOutcome) : Daemon :=
  match outcome with
  | (.ok (.switched id _), b) => { d with backend := b }.did [.profileChanged id]
  | (_, b) =>
    { d with backend := b }.did (if b.generation = d.backend.generation then [] else [.tornDown])

/-! ## The step -/

/-- The credential `resume_decision` settles on. -/
def resumeDecision (hasPersistedKey : Bool) (envAuthkey : Option String) : Option String :=
  if hasPersistedKey && envAuthkey.isNone then none else envAuthkey

/-- Whether `reconcile_on_reload` retries the auto-start. -/
def retriesAutoStart (b : Backend) : Bool :=
  b.wantsRunning && !(b.engineState = some .running || b.engineState = some .starting) &&
    b.bootAttemptedUp

/-- One event. -/
def step (H : Host) (d : Daemon) : Event → Option Daemon
  | .up o authkey wif netmap io => some (d.driveUp H .operator authkey o wif netmap io)
  | .finish i built io =>
    match d.tasks[i]? with
    | some (.handshake pending _ _) => some ((d.take i).finish H pending built io)
    | _ => none
  | .set o netmap io => some (d.driveSet H o netmap io)
  | .reload document contents io => some (d.driveReloadConfig H document contents io)
  | .preflight i io =>
    match d.tasks[i]? with
    | some (.preflight cause) => some ((d.take i).preflight H cause io)
    | _ => none
  | .rebuild i io =>
    match d.tasks[i]? with
    | some (.rebuild cause) => some ((d.take i).beginUp H (.rebuild cause) none {} none {} io)
    | _ => none
  | .bringDown i io =>
    match d.tasks[i]? with
    | some .bringDown => some ((d.take i).down H .daemon io)
    | _ => none
  | .down reason io => some (d.down H (.operator reason) io)
  | .logout reason io => some (d.logout H (.operator reason) io)
  | .switchProfile target io =>
    some (d.changeProfile (d.backend.switchProfile (d.env H) target io))
  | .createProfile id io => some (d.changeProfile (d.backend.createProfile (d.env H) id io))
  | .switchToEmptyProfile draw io =>
    some (d.changeProfile (d.backend.switchToEmptyProfile (d.env H) draw io))
  | .deleteProfile target io => some { d with backend := (d.backend.deleteProfile target io).2 }
  | .policyMoved policy => some { d with policy := policy }
  | .policyTick =>
    let settings := (d.env H).settings
    some
      { d with
        backend := (d.backend.sysPolicyChanged (alwaysOnKeysIn settings)).exitNodePolicyChanged
          (exitNodeKeysIn settings) }
  | .timerFired armed =>
    match d.backend.claimDueReconnect armed with
    | (true, b) => some ({ d with backend := b }.owe .reconnect)
    | (false, b) => some { d with backend := b }
  | .reconnect i io =>
    match d.tasks[i]? with
    | some .reconnect => some ((d.take i).driveUp H .reconnect none {} none {} io)
    | _ => none
  | .sighup io =>
    -- an unreadable prefs file leaves the running state alone
    if io.loadPrefs && retriesAutoStart d.backend then some (d.owe .resumeCheck) else some d
  | .resumeCheck i envAuthkey io =>
    match d.tasks[i]? with
    | some .resumeCheck =>
      let hasKey := io.readKey && keyFileHasNodeKey d.backend.keyFile
      some ((d.take i).owe (.resume (resumeDecision hasKey envAuthkey)))
    | _ => none
  | .resume i io =>
    match d.tasks[i]? with
    | some (.resume authkey) => some ((d.take i).driveUp H .resume authkey {} none {} io)
    | _ => none
  | .engine state =>
    some { d with
      backend := { d.backend with
        device := d.backend.device.map fun dev => { dev with state := state } } }

/-! ## Booting -/

/-- Everything the start of the process depends on. -/
structure BootInput where
  disk : Disk
  loadIo : Io := {}
  listenPort : Option UInt16 := none
  /-- The `--config` source with the document it holds and its key file, when one is there. -/
  config : Option (ConfigSource × ConfigVAlpha × Option String) := none
  configIo : Io := {}
  /-- `--tun`, when it is given. -/
  tun : Option (Option (Option String)) := none
  tunIo : Io := {}
  envAuthkey : Option String := none
  startIo : Io := {}
  /-- How the engine of the auto-start comes up. -/
  built : Option DeviceState := none
  finishIo : Io := {}

/-- `--config` at boot: the source is recorded once its document applied. -/
def bootConfig (E : Env) (b : Backend) (s : BootInput) : Outcome (Option String) :=
  match s.config with
  | none => (.ok none, b)
  | some (source, document, contents) =>
    match b.applyConfig E document contents s.configIo with
    | (.error e, b) => (.error e, b)
    | (.ok authkey, b) => (.ok authkey, { b with configSource := some source })

/-- `--tun` at boot. -/
def bootTun (b : Backend) (s : BootInput) : Outcome Bool :=
  match s.tun with
  | none => (.ok false, b)
  | some flag => b.applyTunFlag flag s.tunIo

/-- `auto_start`: bring the node up if the persisted intent says so, before anything is served. -/
def autoStart (H : Host) (d : Daemon) (configAuthkey : Option String) (s : BootInput) : Daemon :=
  if !d.backend.wantsRunning then d
  else
    let d := { d with backend := { d.backend with bootAttemptedUp := true } }
    let authkey := resumeDecision (s.startIo.readKey && keyFileHasNodeKey d.backend.keyFile)
      (configAuthkey.or s.envAuthkey)
    let d := d.driveUp H .boot authkey {} none {} s.startIo
    match d.tasks with
    | [.handshake pending _ _] => (d.take 0).finish H pending s.built s.finishIo
    | _ => d

/-- The start of the process, up to the moment it serves requests. -/
def boot (H : Host) (policy : List PolicySource) (s : BootInput) : Except Failure Daemon :=
  match Backend.load ⟨H, policy⟩ s.disk s.loadIo with
  | .error e => .error e
  | .ok b =>
    match bootConfig ⟨H, policy⟩ { b with listenPort := s.listenPort } s with
    | (.error e, _) => .error e
    | (.ok configAuthkey, b) =>
      match bootTun b s with
      | (.error e, _) => .error e
      | (.ok _, b) =>
        .ok (autoStart H
          { backend := b, policy := policy, tasks := [], nextDevice := 0, log := [] }
          configAuthkey s)

end Daemon

end Tailnetd
