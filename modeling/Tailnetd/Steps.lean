/-
  What a step of the daemon can do.

  `Shift H d e d'` lists the outcomes of the event `e` in the state `d`, one constructor for each,
  with the backend described up to the disk and the tasks up to what later arguments need: which
  handshakes are in flight, and whether a rebuild is still owed.  `step_shift` is the one place
  where `step` is unfolded; every invariant is a case analysis on `Shift`.
-/
import Tailnetd.Lib.Machine
import Tailnetd.Sections

namespace Tailnetd

/-! ## Reading the tasks -/

/-- The bring-up whose handshake this task is. -/
def Task.pending? : Task → Option PendingUp
  | .handshake pending _ _ => some pending
  | _ => none

/-- Whether this task is a rebuild that has not begun its bring-up. -/
def Task.isRebuild : Task → Bool
  | .preflight _ => true
  | .rebuild _ => true
  | _ => false

/-- The bring-ups in flight. -/
def handshakes (ts : List Task) : List PendingUp := ts.filterMap Task.pending?

/-- A rebuild decided by an earlier section has not begun. -/
def RebuildPending (ts : List Task) : Prop := ∃ t ∈ ts, t.isRebuild = true

theorem handshakes_append (ts us : List Task) :
    handshakes (ts ++ us) = handshakes ts ++ handshakes us :=
  List.filterMap_append

/-- Picking up a task splits the list around it. -/
theorem split_at {ts : List Task} {i : Nat} {t : Task} (h : ts[i]? = some t) :
    ∃ pre post, ts = pre ++ t :: post ∧ ts.eraseIdx i = pre ++ post := by
  obtain ⟨hi, rfl⟩ := List.getElem?_eq_some_iff.mp h
  refine ⟨ts.take i, ts.drop (i + 1), ?_, ?_⟩
  · rw [List.getElem_cons_drop, List.take_append_drop]
  · exact List.eraseIdx_eq_take_drop_succ _ _

theorem handshakes_eraseIdx {ts : List Task} {i : Nat} {t : Task} (h : ts[i]? = some t)
    (ht : t.pending? = none) : handshakes (ts.eraseIdx i) = handshakes ts := by
  obtain ⟨pre, post, hts, herase⟩ := split_at h
  rw [herase, hts]
  simp [handshakes, ht]

theorem rebuildPending_eraseIdx {ts : List Task} {i : Nat} {t : Task} (h : ts[i]? = some t)
    (ht : t.isRebuild = false) (hr : RebuildPending ts) : RebuildPending (ts.eraseIdx i) := by
  obtain ⟨pre, post, hts, herase⟩ := split_at h
  obtain ⟨u, hu, hrebuild⟩ := hr
  refine ⟨u, ?_, hrebuild⟩
  rw [herase]
  rw [hts] at hu
  rcases List.mem_append.mp hu with hpre | hpost
  · exact List.mem_append_left _ hpre
  · rcases List.mem_cons.mp hpost with rfl | hpost
    · rw [ht] at hrebuild
      cases hrebuild
    · exact List.mem_append_right _ hpost

theorem handshakes_take {ts : List Task} {i : Nat} {t : Task} {pending : PendingUp}
    (h : ts[i]? = some t) (ht : t.pending? = some pending) :
    ∃ pre post, handshakes ts = pre ++ pending :: post ∧
      handshakes (ts.eraseIdx i) = pre ++ post := by
  obtain ⟨pre, post, hts, herase⟩ := split_at h
  refine ⟨handshakes pre, handshakes post, ?_, ?_⟩
  · rw [hts]
    simp [handshakes, ht]
  · rw [herase]
    exact handshakes_append pre post

/-! ## The outcomes of a step -/

namespace Daemon

/-- Whether a profile operation changed the profile. -/
def switched : Except Failure SwitchOutcome → Bool
  | .ok (.switched _ _) => true
  | _ => false

theorem switched_ok {result : Except Failure SwitchOutcome} (h : switched result = true) :
    ∃ id state, result = .ok (.switched id state) := by
  unfold switched at h
  split at h
  · exact ⟨_, _, rfl⟩
  · cases h

/-- Whether this event is a profile operation that succeeds in changing the profile. -/
def switches (H : Host) (d : Daemon) : Event → Bool
  | .switchProfile target io => switched (d.backend.switchProfile (d.env H) target io).1
  | .createProfile id io => switched (d.backend.createProfile (d.env H) id io).1
  | .switchToEmptyProfile draw io =>
    switched (d.backend.switchToEmptyProfile (d.env H) draw io).1
  | _ => false

/-! The backend a command leaves is the one its section leaves. -/

theorem beginUp_backend (H : Host) (d : Daemon) (origin : Origin) (authkey : Option String)
    (o : UpOptions) (wif : Option WifCreds) (netmap : ExitNodeFacts) (io : Io) :
    (d.beginUp H origin authkey o wif netmap io).backend =
      (d.backend.beginUp (d.env H) o wif netmap io).2 := by
  unfold beginUp
  dsimp only
  split <;> rename_i heq <;> rw [heq] <;> rfl

theorem driveSet_backend (H : Host) (d : Daemon) (o : SetOptions) (netmap : ExitNodeFacts)
    (io : Io) :
    (d.driveSet H o netmap io).backend = (d.backend.beginSet (d.env H) o netmap io).2 := by
  unfold driveSet
  dsimp only
  split <;> rename_i heq <;> rw [heq] <;> rfl

theorem driveReloadConfig_backend (H : Host) (d : Daemon)
    (document : Except Failure ConfigVAlpha) (contents : Option String) (io : Io) :
    (d.driveReloadConfig H document contents io).backend =
      (d.backend.reloadConfig (d.env H) document contents io).2 := by
  unfold driveReloadConfig
  split <;> rename_i heq <;> rw [heq] <;> rfl

theorem changeProfile_backend (d : Daemon) (outcome : Outcome SwitchOutcome) :
    (d.changeProfile outcome).backend = outcome.2 := by
  unfold changeProfile
  split <;> rfl

end Daemon

/-- The events that may change the current profile. -/
def Event.changesProfile : Event → Bool
  | .switchProfile _ _ => true
  | .createProfile _ _ => true
  | .switchToEmptyProfile _ _ => true
  | _ => false

/-- The events that settle an engine: a bring-up comes back with one. -/
def Event.settles : Event → Bool
  | .finish _ (some _) _ => true
  | _ => false

/-- The events that run a `begin_up` section, with the origin, the credential, the request and the
    disk they run it with. -/
inductive Starts (H : Host) (d : Daemon) :
    Event → Origin → Option String → UpOptions → ExitNodeFacts → Io → Prop
  | operator {o : UpOptions} {authkey : Option String} {wif : Option WifCreds}
      {netmap : ExitNodeFacts} {io : Io} :
      Starts H d (.up o authkey wif netmap io) .operator
        (authkey.or (d.backend.policyAuthKey (d.env H))) o netmap io
  | rebuild {i : Nat} {io : Io} {cause : Cause} (h : d.tasks[i]? = some (.rebuild cause)) :
      Starts H d (.rebuild i io) (.rebuild cause) none {} {} io
  | reconnect {i : Nat} {io : Io} (h : d.tasks[i]? = some .reconnect) :
      Starts H d (.reconnect i io) .reconnect (d.backend.policyAuthKey (d.env H)) {} {} io
  | resume {i : Nat} {io : Io} {authkey : Option String}
      (h : d.tasks[i]? = some (.resume authkey)) :
      Starts H d (.resume i io) .resume (authkey.or (d.backend.policyAuthKey (d.env H))) {} {} io

/-- What an applied reload leaves to do. -/
def reloadOwes : Backend.ReloadAction → List Task
  | .persistedOnly => []
  | .rebuild => [.preflight .reloadConfig]
  | .bringDown => [.bringDown]

/-- A reload leaves no handshake. -/
@[simp] theorem handshakes_reloadOwes (action : Backend.ReloadAction) :
    handshakes (reloadOwes action) = [] := by
  cases action <;> rfl

/-- The outcomes of a `begin_up` section whose checks passed, the tasks left being `ts`. -/
inductive UpShift (H : Host) (d : Daemon) (origin : Origin) (authkey : Option String)
    (o : UpOptions) (netmap : ExitNodeFacts) (io : Io) (ts : List Task) : Daemon → Prop
  /-- The node key could not be discarded: the engine is gone, nothing else happened. -/
  | keyKept (hforce : o.forceReauth = true) (hremove : io.removeKey = false) :
      UpShift H d origin authkey o netmap io ts
        { d with backend := d.backend.stopDevice, tasks := ts }
  /-- It failed after its edits. -/
  | failed {tags : Option (List String)} {edit : ExitNodeEdit} {b' : Backend}
      (hcheck : d.backend.checkUp (d.env H) o netmap = .ok (tags, edit))
      (hfail : (io.savePrefs = false ∨ io.saveProfiles = false) ∨
        (io.key.ok = false ∨ d.backend.keyFile = some .malformed) ∨
        buildChecks H (d.backend.upResult (d.env H) o tags edit).prefs = false)
      (hb : DiskOnly (d.backend.upResult (d.env H) o tags edit) b')
      (hreauth : o.forceReauth = true → io.removeKey = true) :
      UpShift H d origin authkey o netmap io ts
        { d with backend := b', tasks := ts, log := Daemon.grantOf o.exitNode edit ++ d.log }
  | begun {wif : Option WifCreds} {tags : Option (List String)} {edit : ExitNodeEdit}
      {key : KeyState} {config : Config} {b' : Backend}
      (hcheck : d.backend.checkUp (d.env H) o netmap = .ok (tags, edit))
      (hconfig : configOf H (d.backend.upResult (d.env H) o tags edit).prefs d.backend.listenPort
        key = .ok config)
      (hkey : b'.keyFile ≠ some .malformed)
      (hb : DiskOnly (d.backend.upResult (d.env H) o tags edit).bumpGeneration b')
      (hreauth : o.forceReauth = true → io.removeKey = true) :
      UpShift H d origin authkey o netmap io ts
        { d with
          backend := b'
          tasks := ts ++ [.handshake ⟨Backend.withWif wif config, d.backend.generation + 1⟩
            authkey origin]
          log := .began origin (d.backend.generation + 1) authkey ::
            (Daemon.grantOf o.exitNode edit ++ d.log) }

/-- The outcomes of an event. -/
inductive Shift (H : Host) (d : Daemon) : Event → Daemon → Prop
  /-- Nothing happened in memory: a refusal, a read, or disk traffic. -/
  | kept {e : Event} {b' : Backend} {ts : List Task} (he : e.settles = false)
      (hb : DiskOnly d.backend b') (hts : ts ⊆ d.tasks) (hh : handshakes ts = handshakes d.tasks)
      (hr : RebuildPending d.tasks → RebuildPending ts) :
      Shift H d e { d with backend := b', tasks := ts }
  | preflightFailed {i : Nat} {io : Io} {b' : Backend} {ts : List Task}
      (hfail : (io.key.ok = false ∨ d.backend.keyFile = some .malformed) ∨
        buildChecks H d.backend.prefs = false)
      (hb : DiskOnly d.backend b') (hts : ts ⊆ d.tasks) (hh : handshakes ts = handshakes d.tasks) :
      Shift H d (.preflight i io) { d with backend := b', tasks := ts }
  | preflightPassed {i : Nat} {io : Io} {cause : Cause} {b' : Backend} {ts : List Task}
      (hcause : d.tasks[i]? = some (.preflight cause))
      (hb : DiskOnly d.backend b') (hts : ts ⊆ d.tasks) (hh : handshakes ts = handshakes d.tasks) :
      Shift H d (.preflight i io) { d with backend := b', tasks := ts ++ [.rebuild cause] }
  | rebuildRefused {i : Nat} {io : Io} {e : String} {ts : List Task}
      (hcheck : d.backend.checkUp (d.env H) {} {} = .error e)
      (hts : ts ⊆ d.tasks) (hh : handshakes ts = handshakes d.tasks) :
      Shift H d (.rebuild i io) { d with tasks := ts }
  /-- A `begin_up` section that passed its checks. -/
  | started {e : Event} {origin : Origin} {authkey : Option String} {o : UpOptions}
      {netmap : ExitNodeFacts} {io : Io} {ts : List Task} {d' : Daemon}
      (hstart : Starts H d e origin authkey o netmap io) (hts : ts ⊆ d.tasks)
      (hh : handshakes ts = handshakes d.tasks)
      (hup : UpShift H d origin authkey o netmap io ts d') : Shift H d e d'
  | installed {i : Nat} {state : DeviceState} {io : Io} {pending : PendingUp} {b' : Backend}
      {ts : List Task} {pre post : List PendingUp}
      (hgen : pending.generation = d.backend.generation)
      (hb : DiskOnly (d.backend.install (d.env H) ⟨d.nextDevice, pending.config, state⟩) b')
      (hts : ts ⊆ d.tasks) (hr : RebuildPending d.tasks → RebuildPending ts)
      (hpre : handshakes d.tasks = pre ++ pending :: post) (hh : handshakes ts = pre ++ post) :
      Shift H d (.finish i (some state) io)
        { d with
          backend := b'
          tasks := ts
          nextDevice := d.nextDevice + 1
          log := .installed pending.generation d.nextDevice :: d.log }
  | handedBack {i : Nat} {state : DeviceState} {io : Io} {pending : PendingUp} {b' : Backend}
      {ts : List Task} {pre post : List PendingUp}
      (hgen : pending.generation ≠ d.backend.generation) (hb : DiskOnly d.backend b')
      (hts : ts ⊆ d.tasks) (hr : RebuildPending d.tasks → RebuildPending ts)
      (hpre : handshakes d.tasks = pre ++ pending :: post) (hh : handshakes ts = pre ++ post) :
      Shift H d (.finish i (some state) io)
        { d with
          backend := b'
          tasks := ts
          nextDevice := d.nextDevice + 1
          log := .handedBack pending.generation d.nextDevice :: d.log }
  | buildFailed {i : Nat} {io : Io} {pending : PendingUp} {b' : Backend} {ts : List Task}
      {pre post : List PendingUp} (hb : DiskOnly d.backend b') (hts : ts ⊆ d.tasks)
      (hr : RebuildPending d.tasks → RebuildPending ts)
      (hpre : handshakes d.tasks = pre ++ pending :: post) (hh : handshakes ts = pre ++ post) :
      Shift H d (.finish i none io)
        { d with backend := b', tasks := ts, log := .buildFailed pending.generation :: d.log }
  /-- A `set` edited the prefs and failed to persist them. -/
  | setFailed {o : SetOptions} {netmap : ExitNodeFacts} {io : Io} {tags : Option (List String)}
      {edit : ExitNodeEdit} {b' : Backend}
      (hcheck : d.backend.checkSet (d.env H) o netmap = .ok (tags, edit))
      (hfail : io.savePrefs = false ∨ io.saveProfiles = false)
      (hb : DiskOnly (d.backend.setResult (d.env H) o tags edit) b') :
      Shift H d (.set o netmap io)
        { d with backend := b', log := Daemon.grantOf o.exitNode edit ++ d.log }
  | setPersisted {o : SetOptions} {netmap : ExitNodeFacts} {io : Io} {tags : Option (List String)}
      {edit : ExitNodeEdit} {b' : Backend}
      (hcheck : d.backend.checkSet (d.env H) o netmap = .ok (tags, edit))
      (hdev : d.backend.device = none)
      (hb : DiskOnly (d.backend.setResult (d.env H) o tags edit) b') :
      Shift H d (.set o netmap io)
        { d with backend := b', log := Daemon.grantOf o.exitNode edit ++ d.log }
  | setRebuild {o : SetOptions} {netmap : ExitNodeFacts} {io : Io} {tags : Option (List String)}
      {edit : ExitNodeEdit} {b' : Backend} {dev : Device}
      (hcheck : d.backend.checkSet (d.env H) o netmap = .ok (tags, edit))
      (hdev : d.backend.device = some dev) (hneeds : (o.withTags tags).needsRebuild = true)
      (hb : DiskOnly (d.backend.setResult (d.env H) o tags edit) b') :
      Shift H d (.set o netmap io)
        { d with
          backend := b'
          tasks := d.tasks ++ [.preflight .set]
          log := Daemon.grantOf o.exitNode edit ++ d.log }
  | setLive {o : SetOptions} {netmap : ExitNodeFacts} {io : Io} {tags : Option (List String)}
      {edit : ExitNodeEdit} {b' : Backend} {dev : Device}
      (hcheck : d.backend.checkSet (d.env H) o netmap = .ok (tags, edit))
      (hdev : d.backend.device = some dev) (hneeds : (o.withTags tags).needsRebuild = false)
      (hb : DiskOnly
        { d.backend.setResult (d.env H) o tags edit with
          device := some (Backend.pushOps dev
            (Backend.liveOps (d.env H) (o.withTags tags)
              (d.backend.setResult (d.env H) o tags edit).prefs) io.setterFails) } b') :
      Shift H d (.set o netmap io)
        { d with backend := b', log := Daemon.grantOf o.exitNode edit ++ d.log }
  /-- A reload wrote the prefs and then could not resolve its registration key. -/
  | reloadKeyFailed {document : Except Failure ConfigVAlpha} {contents : Option String} {io : Io}
      {c : ConfigVAlpha} {f : Failure} {path : String}
      (hsource : d.backend.configSource = some (.file path)) (hdoc : document = .ok c)
      (hvalid : c.validate H d.backend.prefs = .ok ()) (hkey : c.registrationKey contents = .error f) :
      Shift H d (.reload document contents io)
        { d with backend := { d.backend with prefs := c.merge d.backend.prefs } }
  | reloadFailed {document : Except Failure ConfigVAlpha} {contents : Option String} {io : Io}
      {c : ConfigVAlpha} {path : String} {b' : Backend}
      (hsource : d.backend.configSource = some (.file path)) (hdoc : document = .ok c)
      (hvalid : c.validate H d.backend.prefs = .ok ())
      (hfail : io.savePrefs = false ∨ io.saveProfiles = false)
      (hb : DiskOnly (d.backend.configured (d.env H) c) b')
      (hkey : (c.registrationKey contents).isOk = true) :
      Shift H d (.reload document contents io) { d with backend := b' }
  | reloadApplied {document : Except Failure ConfigVAlpha} {contents : Option String} {io : Io}
      {c : ConfigVAlpha} {path : String} {b' : Backend} {owed : List Task}
      (hsource : d.backend.configSource = some (.file path)) (hdoc : document = .ok c)
      (hvalid : c.validate H d.backend.prefs = .ok ())
      (howed : owed = reloadOwes (d.backend.configured (d.env H) c).reloadAction)
      (hb : DiskOnly (d.backend.configured (d.env H) c) b')
      (hkey : (c.registrationKey contents).isOk = true) :
      Shift H d (.reload document contents io)
        { d with backend := b', tasks := d.tasks ++ owed }
  | down {e : Event} {b' : Backend} {ts : List Task} {mark : Did}
      (he : (∃ reason io, e = .down reason io) ∨ ∃ i io, e = .bringDown i io)
      (hmark : mark = .down ∨ mark = .tornDown) (hb : DiskOnly (d.backend.downResult (d.env H)) b')
      (hts : ts ⊆ d.tasks) (hh : handshakes ts = handshakes d.tasks) :
      Shift H d e { d with backend := b', tasks := ts, log := mark :: d.log }
  | logout {reason : Option String} {io : Io} {b' : Backend} {mark : Did}
      (hmark : mark = .logout ∨ mark = .tornDown)
      (hb : DiskOnly (d.backend.logoutResult (d.env H)) b') :
      Shift H d (.logout reason io) { d with backend := b', log := mark :: d.log }
  /-- A logout that could not discard the key, or a profile change that failed after its
      teardown. -/
  | tornDown {e : Event} {b' : Backend}
      (he : e.changesProfile = true ∨ ∃ reason io, e = .logout reason io)
      (hb : DiskOnly d.backend.stopDevice.bumpGeneration b') :
      Shift H d e { d with backend := b', log := .tornDown :: d.log }
  | profileActivated {e : Event} {id : String} {prefs : Prefs} {everConfigured hasNodeKey : Bool}
      {b' : Backend} (he : e.changesProfile = true) (hne : id ≠ d.backend.currentProfile)
      (hb : DiskOnly (d.backend.stopDevice.bumpGeneration.adoptProfile (d.env H) id prefs
        everConfigured hasNodeKey) b')
      (hswitch : d.switches H e = true) :
      Shift H d e { d with backend := b', log := .profileChanged id :: d.log }
  | profileEmptied {e : Event} {b' : Backend} (he : e.changesProfile = true)
      (hb : DiskOnly (d.backend.stopDevice.bumpGeneration.emptyProfile (d.env H)) b')
      (hswitch : d.switches H e = true) :
      Shift H d e
        { d with backend := b', log := .profileChanged d.backend.currentProfile :: d.log }
  | policyMoved {policy : List PolicySource} :
      Shift H d (.policyMoved policy) { d with policy := policy }
  | policyTick :
      Shift H d .policyTick
        { d with
          backend := (d.backend.sysPolicyChanged
            (alwaysOnKeysIn (d.env H).settings)).exitNodePolicyChanged
              (exitNodeKeysIn (d.env H).settings) }
  | timerDropped {armed : ReconnectTimer} :
      Shift H d (.timerFired armed) { d with backend := { d.backend with reconnect := none } }
  | timerClaimed {armed : ReconnectTimer} (harmed : d.backend.reconnect = some armed)
      (hprofile : armed.profile = d.backend.currentProfile) :
      Shift H d (.timerFired armed)
        { d with
          backend := { d.backend with reconnect := none }
          tasks := d.tasks ++ [.reconnect] }
  | retried {io : Io} (hretry : Daemon.retriesAutoStart d.backend = true) :
      Shift H d (.sighup io) { d with tasks := d.tasks ++ [.resumeCheck] }
  | resumeKeyed {i : Nat} {envAuthkey authkey : Option String} {io : Io} {ts : List Task}
      (htask : d.tasks[i]? = some .resumeCheck) (hkey : envAuthkey = none → authkey = none)
      (hts : ts ⊆ d.tasks) (hh : handshakes ts = handshakes d.tasks)
      (hr : RebuildPending d.tasks → RebuildPending ts) :
      Shift H d (.resumeCheck i envAuthkey io) { d with tasks := ts ++ [.resume authkey] }
  | engine {state : DeviceState} :
      Shift H d (.engine state)
        { d with
          backend := { d.backend with
            device := d.backend.device.map fun dev => { dev with state := state } } }

/-! ## Every step is one of the outcomes -/

/-- Only the memory moved. -/
theorem Shift.memory {H : Host} {d : Daemon} {e : Event} {b' : Backend} (he : e.settles = false)
    (hb : DiskOnly d.backend b') : Shift H d e { d with backend := b' } :=
  .kept he hb (List.Subset.refl _) rfl id

/-- Picking up a task that is neither a handshake nor a rebuild. -/
theorem Shift.taken {H : Host} {d : Daemon} {e : Event} {i : Nat} {t : Task} {b' : Backend}
    (h : d.tasks[i]? = some t) (hpending : t.pending? = none) (hrebuild : t.isRebuild = false)
    (he : e.settles = false) (hb : DiskOnly d.backend b') :
    Shift H d e { d with backend := b', tasks := d.tasks.eraseIdx i } :=
  .kept he hb (List.eraseIdx_subset) (handshakes_eraseIdx h hpending)
    (rebuildPending_eraseIdx h hrebuild)

/-- **What a `begin_up` section can do**, its own task picked up. -/
theorem beginUp_shift (H : Host) (d : Daemon) (origin : Origin) (authkey : Option String)
    (o : UpOptions) (wif : Option WifCreds) (netmap : ExitNodeFacts) (io : Io) (ts : List Task) :
    ((∃ m, d.backend.checkUp (d.env H) o netmap = .error m) ∧
      Daemon.beginUp H { d with tasks := ts } origin authkey o wif netmap io =
        { d with tasks := ts }) ∨
    UpShift H d origin authkey o netmap io ts
      (Daemon.beginUp H { d with tasks := ts } origin authkey o wif netmap io) := by
  have hcases := Backend.beginUp_cases (d.env H) d.backend o wif netmap io
  dsimp only [Daemon.beginUp, Daemon.upGrant]
  rw [show Daemon.env H { d with tasks := ts } = d.env H from rfl]
  generalize d.backend.beginUp (d.env H) o wif netmap io = out at hcases ⊢
  cases hcases with
  | refused hcheck =>
    left
    refine ⟨⟨_, hcheck⟩, ?_⟩
    rw [hcheck]
    rfl
  | keyKept hreauth hforce hremove =>
    right
    cases hcheck : d.backend.checkUp (d.env H) o netmap with
    | error m => exact .keyKept hforce hremove
    | ok verdict =>
      dsimp only
      rw [if_neg (by rw [hreauth]; exact Bool.false_ne_true)]
      exact .keyKept hforce hremove
  | failed hcheck hreauth hfail hb =>
    right
    rw [hcheck]
    dsimp only
    rw [if_pos hreauth]
    exact .failed hcheck hfail hb (Backend.reauth_ok hreauth)
  | begun hcheck hreauth hconfig hkey hb =>
    right
    rw [hcheck]
    dsimp only
    rw [if_pos hreauth]
    exact .begun hcheck hconfig hkey hb (Backend.reauth_ok hreauth)

/-- The last section of a bring-up, after its handshake was picked up. -/
theorem finish_shift {H : Host} {d : Daemon} {i : Nat} {pending : PendingUp}
    {authkey : Option String} {origin : Origin}
    (htask : d.tasks[i]? = some (.handshake pending authkey origin)) (built : Option DeviceState)
    (io : Io) : Shift H d (.finish i built io) ((d.take i).finish H pending built io) := by
  have hts : d.tasks.eraseIdx i ⊆ d.tasks := List.eraseIdx_subset
  have hr := rebuildPending_eraseIdx htask rfl
  obtain ⟨pre, post, hpre, hh⟩ := handshakes_take htask rfl
  cases built with
  | none =>
    have hcases := Backend.finishSection_cases (d.env H) d.backend pending
      (.error (.io "engine start failed")) io
    have hb : DiskOnly d.backend (d.backend.finishSection (d.env H) pending
        (.error (.io "engine start failed")) io).2 := by
      rcases hcases with ⟨-, -, hb⟩ | ⟨-, e, -, hres⟩ | ⟨-, dev, hdev, -⟩
      · exact hb
      · rw [hres]
        exact .refl _
      · cases hdev
    exact .buildFailed hb hts hr hpre hh
  | some state =>
    have hcases := Backend.finishSection_cases (d.env H) d.backend pending
      (.ok ⟨d.nextDevice, pending.config, state⟩) io
    dsimp only [Daemon.finish, Daemon.take]
    rw [show Daemon.env H { d with tasks := d.tasks.eraseIdx i, nextDevice := d.nextDevice + 1 } =
      d.env H from rfl]
    generalize d.backend.finishSection (d.env H) pending
      (.ok ⟨d.nextDevice, pending.config, state⟩) io = out at hcases ⊢
    obtain ⟨result, b1⟩ := out
    rcases hcases with ⟨hgen, hres, hb⟩ | ⟨-, e, hdev, -⟩ | ⟨hgen, dev, hdev, hres, hb⟩
    · cases hres
      exact .handedBack hgen hb hts hr hpre hh
    · cases hdev
    · cases hdev
      cases hres
      exact .installed hgen hb hts hr hpre hh

/-- A `set` section. -/
theorem driveSet_shift (H : Host) (d : Daemon) (o : SetOptions) (netmap : ExitNodeFacts) (io : Io) :
    Shift H d (.set o netmap io) (d.driveSet H o netmap io) := by
  have hcases := Backend.beginSet_cases (d.env H) d.backend o netmap io
  unfold Daemon.driveSet Daemon.setGrant
  generalize d.backend.beginSet (d.env H) o netmap io = out at hcases ⊢
  cases hcases with
  | refused hcheck =>
    rw [hcheck]
    exact .memory rfl (.refl _)
  | failed hcheck hfail hb =>
    rw [hcheck]
    exact .setFailed hcheck hfail hb
  | persistedOnly hcheck hdev hb =>
    rw [hcheck]
    exact .setPersisted hcheck hdev hb
  | rebuild hcheck hdev hneeds hb =>
    rw [hcheck]
    exact .setRebuild hcheck hdev hneeds hb
  | @live tags edit b' dev result hcheck hdev hneeds hresult hb =>
    rw [hcheck]
    have hshift := Shift.setLive (H := H) hcheck hdev hneeds hb
    rcases result with f | ⟨_ | ops | _, renameError⟩
    · exact hshift
    · exact hshift
    · exact hshift
    · exact absurd rfl (hresult renameError)

/-- A reload section. -/
theorem driveReloadConfig_shift (H : Host) (d : Daemon) (document : Except Failure ConfigVAlpha)
    (contents : Option String) (io : Io) :
    Shift H d (.reload document contents io) (d.driveReloadConfig H document contents io) := by
  have hcases := Backend.reloadConfig_cases (d.env H) d.backend document contents io
  unfold Daemon.driveReloadConfig
  generalize d.backend.reloadConfig (d.env H) document contents io = out at hcases ⊢
  cases hcases with
  | @kept result hresult =>
    rcases result with f | _ | action
    · exact .memory rfl (.refl _)
    · exact .memory rfl (.refl _)
    · exact absurd rfl (hresult action)
  | keyFailed hsource hdoc hvalid hkey => exact .reloadKeyFailed hsource hdoc hvalid hkey
  | failed hsource hdoc hvalid hfail hb hkey =>
    exact .reloadFailed hsource hdoc hvalid hfail hb hkey
  | @applied c path b' hsource hdoc hvalid hb hkey =>
    have hshift : Shift H d (.reload document contents io) _ :=
      .reloadApplied hsource hdoc hvalid rfl hb hkey
    cases haction : (d.backend.configured (d.env H) c).reloadAction with
    | persistedOnly =>
      rw [haction] at hshift
      simpa [reloadOwes] using hshift
    | rebuild =>
      rw [haction] at hshift
      exact hshift
    | bringDown =>
      rw [haction] at hshift
      exact hshift

/-- A preflight section, after its task was picked up. -/
theorem preflight_shift {H : Host} {d : Daemon} {i : Nat} {cause : Cause}
    (htask : d.tasks[i]? = some (.preflight cause)) (io : Io) :
    Shift H d (.preflight i io) ((d.take i).preflight H cause io) := by
  have hts : d.tasks.eraseIdx i ⊆ d.tasks := List.eraseIdx_subset
  have hh := handshakes_eraseIdx htask rfl
  have hb := Backend.buildConfig_diskOnly (d.env H) d.backend io
  dsimp only [Daemon.preflight, Daemon.take]
  rw [show Daemon.env H { d with tasks := d.tasks.eraseIdx i } = d.env H from rfl]
  rcases hc : d.backend.buildConfig (d.env H) io with ⟨f | config, b1⟩
  · rw [hc] at hb
    exact .preflightFailed (Backend.buildConfig_error hc) hb hts hh
  · rw [hc] at hb
    exact .preflightPassed htask hb hts hh

/-- A `down` section, after its task was picked up. -/
theorem down_shift {H : Host} {d : Daemon} {e : Event} {ts : List Task} (actor : Actor) (io : Io)
    (he : (∃ reason io, e = .down reason io) ∨ ∃ i io, e = .bringDown i io)
    (hts : ts ⊆ d.tasks) (hh : handshakes ts = handshakes d.tasks)
    (hr : RebuildPending d.tasks → RebuildPending ts) :
    Shift H d e (Daemon.down H { d with tasks := ts } actor io) := by
  have hcases := Backend.down_cases (d.env H) d.backend actor io
  dsimp only [Daemon.down]
  rw [show Daemon.env H { d with tasks := ts } = d.env H from rfl]
  generalize d.backend.down (d.env H) actor io = out at hcases ⊢
  obtain ⟨result, b1⟩ := out
  rcases hcases with ⟨m, -, hres⟩ | ⟨-, hb, hres⟩
  · cases hres
    exact .kept (by rcases he with ⟨_, _, rfl⟩ | ⟨_, _, rfl⟩ <;> rfl) (.refl _) hts hh hr
  · rcases hres with hres | ⟨m, hres⟩
    · cases hres
      exact .down he (.inl rfl) hb hts hh
    · cases hres
      exact .down he (.inr rfl) hb hts hh

/-- A `logout` section. -/
theorem logout_shift (H : Host) (d : Daemon) (reason : Option String) (io : Io) :
    Shift H d (.logout reason io) (d.logout H (.operator reason) io) := by
  have hcases := Backend.logout_cases (d.env H) d.backend (.operator reason) io
  unfold Daemon.logout
  generalize d.backend.logout (d.env H) (.operator reason) io = out at hcases ⊢
  obtain ⟨result, b1⟩ := out
  rcases hcases with ⟨m, -, hres⟩ | ⟨-, -, m, hres⟩ | ⟨-, hb, hres⟩
  · cases hres
    exact .memory rfl (.refl _)
  · cases hres
    exact .tornDown (.inr ⟨reason, io, rfl⟩) (.refl _)
  · rcases hres with hres | ⟨m, hres⟩
    · cases hres
      exact .logout (.inl rfl) hb
    · cases hres
      exact .logout (.inr rfl) hb

/-- A profile operation's section. -/
theorem changeProfile_shift {H : Host} {d : Daemon} {e : Event} (he : e.changesProfile = true)
    {outcome : Outcome SwitchOutcome} (hcase : Backend.ProfileCase (d.env H) d.backend outcome)
    (hswitch : d.switches H e = Daemon.switched outcome.1) :
    Shift H d e (d.changeProfile outcome) := by
  cases hcase with
  | @kept result b' hresult hb =>
    have hgen := hb.generation
    have hshift := Shift.memory (H := H) (e := e) (by cases e <;> first | rfl | cases he) hb
    unfold Daemon.changeProfile
    rcases result with f | ⟨id, state⟩ | _
    · simpa [Daemon.did, hgen] using hshift
    · exact absurd rfl (hresult id state)
    · simpa [Daemon.did, hgen] using hshift
  | @failed m b' hb =>
    have hgen : b'.generation = d.backend.generation + 1 := hb.generation
    have hshift := Shift.tornDown (H := H) (.inl he) hb
    unfold Daemon.changeProfile
    simpa [Daemon.did, hgen] using hshift
  | activated hne hb => exact .profileActivated he hne hb hswitch
  | emptied hb => exact .profileEmptied he hb hswitch

/-- **Every step of the daemon is one of the outcomes.** -/
theorem step_shift {H : Host} {d d' : Daemon} {e : Event} (h : Daemon.step H d e = some d') :
    Shift H d e d' := by
  cases e with
  | up o authkey wif netmap io =>
    cases h
    rcases beginUp_shift H d .operator (authkey.or (d.backend.policyAuthKey (d.env H))) o wif
        netmap io d.tasks with ⟨-, heq⟩ | hup
    · exact (congrArg (Shift H d _) heq).mpr (.memory rfl (.refl _))
    · exact .started .operator (List.Subset.refl d.tasks) rfl hup
  | finish i built io =>
    dsimp only [Daemon.step] at h
    split at h
    · rename_i pending authkey origin htask
      cases h
      exact finish_shift htask built io
    · cases h
  | set o netmap io =>
    cases h
    exact driveSet_shift H d o netmap io
  | reload document contents io =>
    cases h
    exact driveReloadConfig_shift H d document contents io
  | preflight i io =>
    dsimp only [Daemon.step] at h
    split at h
    · rename_i cause htask
      cases h
      exact preflight_shift htask io
    · cases h
  | rebuild i io =>
    dsimp only [Daemon.step] at h
    split at h
    · rename_i cause htask
      cases h
      have hts : d.tasks.eraseIdx i ⊆ d.tasks := List.eraseIdx_subset
      have hh := handshakes_eraseIdx htask rfl
      rcases beginUp_shift H d (.rebuild cause) none {} none {} io (d.tasks.eraseIdx i) with
        ⟨⟨m, hcheck⟩, heq⟩ | hup
      · exact (congrArg (Shift H d _) heq).mpr (.rebuildRefused hcheck hts hh)
      · exact .started (.rebuild htask) hts hh hup
    · cases h
  | bringDown i io =>
    dsimp only [Daemon.step] at h
    split at h
    · rename_i htask
      cases h
      exact down_shift .daemon io (.inr ⟨i, io, rfl⟩) List.eraseIdx_subset
        (handshakes_eraseIdx htask rfl) (rebuildPending_eraseIdx htask rfl)
    · cases h
  | down reason io =>
    cases h
    exact down_shift (.operator reason) io (.inl ⟨reason, io, rfl⟩) (List.Subset.refl _) rfl id
  | logout reason io =>
    cases h
    exact logout_shift H d reason io
  | switchProfile target io =>
    cases h
    exact changeProfile_shift rfl (Backend.switchProfile_cases (d.env H) d.backend target io) rfl
  | createProfile id io =>
    cases h
    exact changeProfile_shift rfl (Backend.createProfile_cases (d.env H) d.backend id io) rfl
  | switchToEmptyProfile draw io =>
    cases h
    exact changeProfile_shift rfl (Backend.switchToEmptyProfile_cases (d.env H) d.backend draw io) rfl
  | deleteProfile target io =>
    cases h
    exact .memory rfl (Backend.deleteProfile_diskOnly d.backend target io)
  | policyMoved policy =>
    cases h
    exact .policyMoved
  | policyTick =>
    cases h
    exact .policyTick
  | timerFired armed =>
    dsimp only [Daemon.step, Backend.claimDueReconnect] at h
    by_cases harmed : d.backend.reconnect = some armed
    · by_cases hprofile : armed.profile = d.backend.currentProfile
      · simp only [harmed, hprofile, ne_eq, not_true_eq_false, if_false] at h
        cases h
        exact .timerClaimed harmed hprofile
      · simp only [harmed, hprofile, ne_eq, not_true_eq_false, not_false_eq_true, if_false,
          if_true] at h
        cases h
        exact .timerDropped
    · simp only [ne_eq, harmed, not_false_eq_true, if_true] at h
      cases h
      exact .memory rfl (.refl _)
  | reconnect i io =>
    dsimp only [Daemon.step] at h
    split at h
    · rename_i htask
      cases h
      have hts : d.tasks.eraseIdx i ⊆ d.tasks := List.eraseIdx_subset
      have hh := handshakes_eraseIdx htask rfl
      rcases beginUp_shift H d .reconnect (d.backend.policyAuthKey (d.env H)) {} none {} io
          (d.tasks.eraseIdx i) with ⟨-, heq⟩ | hup
      · exact (congrArg (Shift H d _) heq).mpr (.taken htask rfl rfl rfl (.refl _))
      · exact .started (.reconnect htask) hts hh hup
    · cases h
  | sighup io =>
    dsimp only [Daemon.step] at h
    split at h
    · rename_i hretry
      cases h
      exact .retried (Bool.and_eq_true _ _ ▸ hretry).2
    · cases h
      exact .memory rfl (.refl _)
  | resumeCheck i envAuthkey io =>
    dsimp only [Daemon.step] at h
    split at h
    · rename_i htask
      cases h
      refine .resumeKeyed htask ?_ List.eraseIdx_subset (handshakes_eraseIdx htask rfl)
        (rebuildPending_eraseIdx htask rfl)
      rintro rfl
      unfold Daemon.resumeDecision
      split <;> rfl
    · cases h
  | resume i io =>
    dsimp only [Daemon.step] at h
    split at h
    · rename_i authkey htask
      cases h
      have hts : d.tasks.eraseIdx i ⊆ d.tasks := List.eraseIdx_subset
      have hh := handshakes_eraseIdx htask rfl
      rcases beginUp_shift H d .resume (authkey.or (d.backend.policyAuthKey (d.env H))) {} none {}
          io (d.tasks.eraseIdx i) with ⟨-, heq⟩ | hup
      · exact (congrArg (Shift H d _) heq).mpr (.taken htask rfl rfl rfl (.refl _))
      · exact .started (.resume htask) hts hh hup
    · cases h
  | engine state =>
    cases h
    exact .engine

/-! ## The section behind a step -/

/-- What the handshake of a bring-up comes back with. -/
def Daemon.engineOf (d : Daemon) (pending : PendingUp) : Option DeviceState → Except Failure Device
  | none => .error (.io "engine start failed")
  | some state => .ok ⟨d.nextDevice, pending.config, state⟩

/-- The section an event runs on the backend, by the backend it leaves. -/
inductive Ran (H : Host) (d : Daemon) : Event → Backend → Prop
  /-- The section moves the tasks or the policy only. -/
  | nothing {e : Event} : Ran H d e d.backend
  | beginUp {e : Event} {origin : Origin} {authkey : Option String} {o : UpOptions}
      {netmap : ExitNodeFacts} {io : Io} (hstart : Starts H d e origin authkey o netmap io)
      (wif : Option WifCreds) : Ran H d e (d.backend.beginUp (d.env H) o wif netmap io).2
  | finish {i : Nat} {built : Option DeviceState} {io : Io} {pending : PendingUp}
      {authkey : Option String} {origin : Origin}
      (htask : d.tasks[i]? = some (.handshake pending authkey origin)) :
      Ran H d (.finish i built io)
        (d.backend.finishSection (d.env H) pending (d.engineOf pending built) io).2
  | set {o : SetOptions} {netmap : ExitNodeFacts} {io : Io} :
      Ran H d (.set o netmap io) (d.backend.beginSet (d.env H) o netmap io).2
  | reload {document : Except Failure ConfigVAlpha} {contents : Option String} {io : Io} :
      Ran H d (.reload document contents io)
        (d.backend.reloadConfig (d.env H) document contents io).2
  | preflight {i : Nat} {io : Io} :
      Ran H d (.preflight i io) (d.backend.buildConfig (d.env H) io).2
  | bringDown {i : Nat} {io : Io} :
      Ran H d (.bringDown i io) (d.backend.down (d.env H) .daemon io).2
  | down {reason : Option String} {io : Io} :
      Ran H d (.down reason io) (d.backend.down (d.env H) (.operator reason) io).2
  | logout {reason : Option String} {io : Io} :
      Ran H d (.logout reason io) (d.backend.logout (d.env H) (.operator reason) io).2
  | switchProfile {target : String} {io : Io} :
      Ran H d (.switchProfile target io) (d.backend.switchProfile (d.env H) target io).2
  | createProfile {id : String} {io : Io} :
      Ran H d (.createProfile id io) (d.backend.createProfile (d.env H) id io).2
  | switchToEmptyProfile {draw : Nat → Option (UInt8 × UInt8)} {io : Io} :
      Ran H d (.switchToEmptyProfile draw io)
        (d.backend.switchToEmptyProfile (d.env H) draw io).2
  | deleteProfile {target : String} {io : Io} :
      Ran H d (.deleteProfile target io) (d.backend.deleteProfile target io).2
  | policyTick (keys : AlwaysOnKeys) (exitKeys : ExitNodeKeys) :
      Ran H d .policyTick ((d.backend.sysPolicyChanged keys).exitNodePolicyChanged exitKeys)
  | timerFired {armed : ReconnectTimer} :
      Ran H d (.timerFired armed) (d.backend.claimDueReconnect armed).2
  | engine {state : DeviceState} :
      Ran H d (.engine state)
        { d.backend with device := d.backend.device.map fun dev => { dev with state := state } }

namespace Daemon

theorem finish_backend (H : Host) (d : Daemon) (pending : PendingUp) (built : Option DeviceState)
    (io : Io) : (d.finish H pending built io).backend =
      (d.backend.finishSection (d.env H) pending (d.engineOf pending built) io).2 := by
  cases built with
  | none => rfl
  | some state =>
    unfold finish engineOf
    dsimp only
    rw [show env H { d with nextDevice := d.nextDevice + 1 } = d.env H from rfl]
    split <;> rename_i heq <;> rw [heq] <;> rfl

theorem preflight_backend (H : Host) (d : Daemon) (cause : Cause) (io : Io) :
    (d.preflight H cause io).backend = (d.backend.buildConfig (d.env H) io).2 := by
  unfold preflight
  split
  · rename_i heq
    rw [heq]
  · rename_i heq
    rw [heq]
    rfl

/-- **Every step runs one section.** -/
theorem step_ran {H : Host} {d d' : Daemon} {e : Event} (hstep : step H d e = some d') :
    Ran H d e d'.backend := by
  cases e with
  | up o authkey wif netmap io =>
    cases hstep
    unfold driveUp
    rw [beginUp_backend]
    exact .beginUp .operator wif
  | finish i built io =>
    dsimp only [step] at hstep
    split at hstep
    · rename_i htask
      cases hstep
      rw [finish_backend]
      exact .finish htask
    · cases hstep
  | set o netmap io =>
    cases hstep
    rw [driveSet_backend]
    exact .set
  | reload document contents io =>
    cases hstep
    rw [driveReloadConfig_backend]
    exact .reload
  | preflight i io =>
    dsimp only [step] at hstep
    split at hstep
    · cases hstep
      rw [preflight_backend]
      exact .preflight
    · cases hstep
  | rebuild i io =>
    dsimp only [step] at hstep
    split at hstep
    · rename_i htask
      cases hstep
      rw [beginUp_backend]
      exact .beginUp (.rebuild htask) none
    · cases hstep
  | bringDown i io =>
    dsimp only [step] at hstep
    split at hstep
    · cases hstep
      exact .bringDown
    · cases hstep
  | down reason io =>
    cases hstep
    exact .down
  | logout reason io =>
    cases hstep
    exact .logout
  | switchProfile target io =>
    cases hstep
    rw [changeProfile_backend]
    exact .switchProfile
  | createProfile id io =>
    cases hstep
    rw [changeProfile_backend]
    exact .createProfile
  | switchToEmptyProfile draw io =>
    cases hstep
    rw [changeProfile_backend]
    exact .switchToEmptyProfile
  | deleteProfile target io =>
    cases hstep
    exact .deleteProfile
  | policyMoved policy =>
    cases hstep
    exact .nothing
  | policyTick =>
    cases hstep
    exact .policyTick _ _
  | timerFired armed =>
    dsimp only [step] at hstep
    have hran : Ran H d (.timerFired armed) (d.backend.claimDueReconnect armed).2 := .timerFired
    split at hstep <;> rename_i heq <;> rw [heq] at hran <;> cases hstep <;> exact hran
  | reconnect i io =>
    dsimp only [step] at hstep
    split at hstep
    · rename_i htask
      cases hstep
      unfold driveUp
      rw [beginUp_backend]
      exact .beginUp (.reconnect htask) none
    · cases hstep
  | sighup io =>
    dsimp only [step] at hstep
    split at hstep
    · cases hstep
      exact .nothing
    · cases hstep
      exact .nothing
  | resumeCheck i envAuthkey io =>
    dsimp only [step] at hstep
    split at hstep
    · cases hstep
      exact .nothing
    · cases hstep
  | resume i io =>
    dsimp only [step] at hstep
    split at hstep
    · rename_i htask
      cases hstep
      unfold driveUp
      rw [beginUp_backend]
      exact .beginUp (.resume htask) none
    · cases hstep
  | engine state =>
    cases hstep
    exact .engine

end Daemon

end Tailnetd
