/-
  The prefs feed of a watch (`server.rs`, `stream_notify`).

  A watch with the `prefs` bit sends the current prefs view once, and again whenever the backend's
  prefs channel ticks.  The tick comes from `persist_prefs` and from the reset of a profile in
  place.  So a change of the view goes untold (`Untold`) when a section makes it without a persist
  that goes through: the activation of another profile, a persist that fails, a reload that stops
  between its merge and its persist, a teardown that fails before its persist.  The view also shows
  whether the SSH server is alive, and its end ticks nothing.

  A watcher that has consumed every tick shows the current view in every run without such a step
  (`watched_prefs_current`).
-/
import Tailnetd.PrefsMoves
import Tailnetd.PolicyFields
import Tailnetd.Lib.TickChannel

namespace Tailnetd

open Machine TickChannel

/-! ## The view -/

/-- `PrefsView`. -/
structure PrefsView where
  hostname : Option String
  exitNode : Option String
  advertiseExitNode : Bool
  advertiseRoutes : List String
  advertiseTags : List String
  acceptRoutes : Bool
  acceptDns : Bool
  shieldsUp : Bool
  ssh : Bool
  advertiseConnector : Bool
  autoUpdate : Option Bool
  updateCheck : Bool
  operator : Option String
  nickname : Option String
  reportPosture : Bool
  webclient : Bool
  exitNodeAllowLanAccess : Bool
  sshRunning : Bool
  tun : Bool
  deriving DecidableEq, Repr

/-- What the prefs show, given whether the SSH server is alive. -/
def Prefs.view (p : Prefs) (sshRunning : Bool) : PrefsView where
  hostname := p.hostname
  exitNode := p.exitNode
  advertiseExitNode := p.advertiseExitNode
  advertiseRoutes := p.advertiseRoutes
  advertiseTags := p.advertiseTags
  acceptRoutes := p.acceptRoutes
  acceptDns := p.acceptDns
  shieldsUp := p.shieldsUp
  ssh := p.sshEnabled
  advertiseConnector := p.advertiseAppConnector
  autoUpdate := p.autoUpdateApply
  updateCheck := p.autoUpdateCheck
  operator := p.operatorUser
  nickname := p.nodeNickname
  reportPosture := p.postureChecking
  webclient := p.runWebClient
  exitNodeAllowLanAccess := p.exitNodeAllowLanAccess
  sshRunning := sshRunning
  tun := p.tunEnabled

namespace Backend

/-- The SSH server task was spawned and has not finished; `ended` are the engines whose SSH server
    ended on its own. -/
def sshRunning (ended : List Nat) (b : Backend) : Bool :=
  b.sshTask && b.device.any fun dev => !ended.contains dev.id

/-- `prefs_view`. -/
def prefsView (ended : List Nat) (b : Backend) : PrefsView := b.prefs.view (b.sshRunning ended)

/-- A persist made with this login mark goes through: the file is written, and the profile is listed
    or need not be. -/
def Persists (b : Backend) (loggedIn : Bool) (io : Io) : Prop :=
  io.savePrefs = true ∧ (loggedIn = false ∨ b.currentProfile = defaultProfileId ∨
    (profileName (b.disk.loadProfiles io) b.currentProfile).isSome = true ∨
    io.saveProfiles = true)

end Backend

/-! ## The watch -/

/-- The daemon, the engines whose SSH server ended, and a watch with the `prefs` bit. -/
structure Watching where
  daemon : Daemon
  ended : List Nat
  watcher : Option (Watcher PrefsView)

/-- What can happen while prefs are watched. -/
inductive WatchEvent where
  | daemon (e : Event)
  /-- The SSH server of the installed engine ends on its own. -/
  | sshEnds
  /-- A watch subscribes to the ticks, before anything else. -/
  | subscribe
  /-- The front-load, or the frame a tick asked for. -/
  | emit
  /-- A tick wakes the watch. -/
  | wake

namespace Watching

def ticks (s : Watching) : Nat := s.daemon.backend.prefsTicks

def view (s : Watching) : PrefsView := s.daemon.backend.prefsView s.ended

/-- One event. -/
def step (H : Host) (s : Watching) : WatchEvent → Option Watching
  | .daemon e => (s.daemon.step H e).map fun d => { s with daemon := d }
  | .sshEnds =>
    match s.daemon.backend.device with
    | some dev =>
      if s.daemon.backend.sshTask then some { s with ended := dev.id :: s.ended } else none
    | none => none
  | .subscribe => some { s with watcher := some (Watcher.subscribe ticks s) }
  | .emit =>
    (s.watcher.bind fun r => r.read view s).map fun r => { s with watcher := some r }
  | .wake =>
    (s.watcher.bind fun r => r.wake ticks s).map fun r => { s with watcher := some r }

end Watching

/-! ## What goes untold -/

/-- The profile operations that get as far as leaving what runs. -/
inductive Daemon.Leaves (d : Daemon) : Event → Prop
  | switch {target id : String} {io : Io}
      (hresolve : resolveTargetToId target (d.backend.disk.loadProfiles io) = some id)
      (hid : id ≠ d.backend.currentProfile) : d.Leaves (.switchProfile target io)
  | create {id : String} {io : Io} (hvalid : isValidProfileId id = true)
      (hfree : resolveTargetToId id (d.backend.disk.loadProfiles io) = none)
      (hid : id ≠ d.backend.currentProfile) : d.Leaves (.createProfile id io)
  | fresh {draw : Nat → Option (UInt8 × UInt8)} {io : Io} {id : String}
      (hlogin : d.backend.prefs.hasLoggedIn = true)
      (hdraw : unusedProfileId (d.backend.takenProfiles io) draw 256 = .ok (some id))
      (hremove : io.removePrefs = true ∧ io.removeKey = true) :
      d.Leaves (.switchToEmptyProfile draw io)
  | reset {draw : Nat → Option (UInt8 × UInt8)} {io : Io}
      (hlogin : d.backend.prefs.hasLoggedIn = false) : d.Leaves (.switchToEmptyProfile draw io)

/-- The steps that change the view and tick nothing. -/
inductive Untold (H : Host) (ended : List Nat) (d : Daemon) : Event → Prop
  /-- A bring-up stops the SSH server and cannot discard the key. -/
  | upKeyKept {e : Event} {origin : Origin} {authkey : Option String} {o : UpOptions}
      {netmap : ExitNodeFacts} {io : Io} {tags : Option (List String)} {edit : ExitNodeEdit}
      (hstart : Starts H d e origin authkey o netmap io)
      (hcheck : d.backend.checkUp (d.env H) o netmap = .ok (tags, edit))
      (hforce : o.forceReauth = true) (hremove : io.removeKey = false)
      (hssh : d.backend.sshRunning ended = true) : Untold H ended d e
  /-- A bring-up whose persist fails. -/
  | upUnsaved {e : Event} {origin : Origin} {authkey : Option String} {o : UpOptions}
      {netmap : ExitNodeFacts} {io : Io} {tags : Option (List String)} {edit : ExitNodeEdit}
      (hstart : Starts H d e origin authkey o netmap io)
      (hcheck : d.backend.checkUp (d.env H) o netmap = .ok (tags, edit))
      (hreauth : o.forceReauth = true → io.removeKey = true)
      (hsave : ¬ d.backend.Persists d.backend.prefs.hasLoggedIn io)
      (hview : (d.backend.upResult (d.env H) o tags edit).prefs.view false ≠
        d.backend.prefsView ended) : Untold H ended d e
  | setUnsaved {o : SetOptions} {netmap : ExitNodeFacts} {io : Io} {tags : Option (List String)}
      {edit : ExitNodeEdit} (hcheck : d.backend.checkSet (d.env H) o netmap = .ok (tags, edit))
      (hsave : ¬ d.backend.Persists d.backend.prefs.hasLoggedIn io)
      (hview : (d.backend.setResult (d.env H) o tags edit).prefsView ended ≠
        d.backend.prefsView ended) : Untold H ended d (.set o netmap io)
  | reloadUnsaved {document : Except Failure ConfigVAlpha} {contents : Option String} {io : Io}
      {c : ConfigVAlpha} {path : String} (hsource : d.backend.configSource = some (.file path))
      (hdoc : document = .ok c) (hvalid : c.validate H d.backend.prefs = .ok ())
      (hkey : (c.registrationKey contents).isOk = true)
      (hsave : ¬ d.backend.Persists d.backend.prefs.hasLoggedIn io)
      (hview : (d.backend.configured (d.env H) c).prefsView ended ≠ d.backend.prefsView ended) :
      Untold H ended d (.reload document contents io)
  /-- A reload that stops at its registration key, after the merge. -/
  | reloadKeyFailed {document : Except Failure ConfigVAlpha} {contents : Option String} {io : Io}
      {c : ConfigVAlpha} {path : String} (hsource : d.backend.configSource = some (.file path))
      (hdoc : document = .ok c) (hvalid : c.validate H d.backend.prefs = .ok ())
      (hkey : (c.registrationKey contents).isOk = false)
      (hview : (c.merge d.backend.prefs).view (d.backend.sshRunning ended) ≠
        d.backend.prefsView ended) : Untold H ended d (.reload document contents io)
  /-- An engine comes up with its SSH server and the persist of the login fails. -/
  | installUnsaved {i : Nat} {state : DeviceState} {io : Io} {pending : PendingUp}
      {authkey : Option String} {origin : Origin}
      (htask : d.tasks[i]? = some (.handshake pending authkey origin))
      (hgen : pending.generation = d.backend.generation) (hsave : ¬ d.backend.Persists true io)
      (hssh : (d.backend.prefs.sshEnabled && H.featureSsh && !ended.contains d.nextDevice) ≠
        d.backend.sshRunning ended) : Untold H ended d (.finish i (some state) io)
  | downUnsaved {reason : Option String} {io : Io}
      (hpermit : d.backend.checkDisconnectPolicy (d.env H) (.operator reason) = .ok ())
      (hsave : ¬ d.backend.Persists d.backend.prefs.hasLoggedIn io)
      (hssh : d.backend.sshRunning ended = true) : Untold H ended d (.down reason io)
  | bringDownUnsaved {i : Nat} {io : Io}
      (hsave : ¬ d.backend.Persists d.backend.prefs.hasLoggedIn io)
      (hssh : d.backend.sshRunning ended = true) : Untold H ended d (.bringDown i io)
  | logoutFailed {reason : Option String} {io : Io}
      (hpermit : d.backend.checkDisconnectPolicy (d.env H) (.operator reason) = .ok ())
      (hfail : io.removeKey = false ∨ io.savePrefs = false)
      (hssh : d.backend.sshRunning ended = true) : Untold H ended d (.logout reason io)
  /-- Another profile is activated, and shows something else. -/
  | activated {e : Event} {id : String} {p : Prefs} (hlanding : d.landing e = some (id, p))
      (hswitch : d.switches H e = true) (hid : id ≠ d.backend.currentProfile)
      (hview : (applySettingsToPrefs (d.env H).settings p {}).1.view false ≠
        d.backend.prefsView ended) : Untold H ended d e
  /-- A profile operation tears the engine down and then fails on the disk. -/
  | profileFailed {e : Event} (hleft : d.Leaves e) (hswitch : d.switches H e = false)
      (hssh : d.backend.sshRunning ended = true) : Untold H ended d e

/-! ## The sections tell of the rest -/

/-- From one backend to the next the prefs channel tells of a change of the view. -/
def Tells (ended : List Nat) (b b' : Backend) : Prop :=
  Announces Backend.prefsTicks (Backend.prefsView ended) b b'

namespace Tells

variable {ended : List Nat}

theorem refl (b : Backend) : Tells ended b b := Announces.refl b

theorem trans {a b c : Backend} (h : Tells ended a b) (h' : Tells ended b c) : Tells ended a c :=
  Announces.trans h h'

/-- A section that shows the same. -/
theorem of_same {b b' : Backend} (hticks : b'.prefsTicks = b.prefsTicks)
    (hview : b'.prefsView ended = b.prefsView ended) : Tells ended b b' :=
  Announces.of_view (Nat.le_of_eq hticks.symm) hview

end Tells

namespace Backend

variable {ended : List Nat}

@[simp] theorem stopDevice_prefsView (b : Backend) :
    b.stopDevice.prefsView ended = b.prefs.view false := rfl

/-- With no SSH server alive, stopping the engine shows nothing. -/
theorem view_false_of_not_sshRunning {b : Backend} (h : b.sshRunning ended ≠ true) :
    b.prefs.view false = b.prefsView ended := by
  unfold prefsView
  rw [Bool.eq_false_iff.mpr h]

theorem registerCurrentProfile_persists {b : Backend} {io : Io}
    (h : b.Persists b.prefs.hasLoggedIn io) : ∃ profiles, b.registerCurrentProfile io =
      (.ok (), b.setProfiles profiles) := by
  obtain ⟨-, hlisted⟩ := h
  unfold registerCurrentProfile
  split
  · exact ⟨b.disk.profiles, rfl⟩
  · rename_i hlogin
    split
    · exact ⟨b.disk.profiles, rfl⟩
    · rename_i hname
      split
      · rename_i hsave
        rcases hlisted with hnew | hdefault | hsome | hsaves
        · exact absurd (.inl hnew) hlogin
        · exact absurd (.inr hdefault) hlogin
        · exact absurd hsome hname
        · simp [hsaves] at hsave
      · exact ⟨_, rfl⟩

/-- A persist that goes through ticks. -/
theorem persistPrefs_ticks {b : Backend} {io : Io} (h : b.Persists b.prefs.hasLoggedIn io) :
    (b.persistPrefs io).2.prefsTicks = b.prefsTicks + 1 := by
  have hsave := h.1
  have hfile : (b.setPrefsFile (some b.prefs)).Persists
      (b.setPrefsFile (some b.prefs)).prefs.hasLoggedIn io := h
  obtain ⟨profiles, hreg⟩ := registerCurrentProfile_persists hfile
  unfold persistPrefs
  rw [hreg, hsave]
  rfl

theorem persistPrefs_le (b : Backend) (io : Io) :
    b.prefsTicks ≤ (b.persistPrefs io).2.prefsTicks := by
  have hreg : ((b.setPrefsFile (some b.prefs)).registerCurrentProfile io).2.prefsTicks =
      b.prefsTicks := by
    unfold registerCurrentProfile
    split
    · rfl
    · split
      · rfl
      · split <;> rfl
  unfold persistPrefs
  split
  · exact Nat.le_refl _
  · split
    · rename_i heq
      rw [heq] at hreg
      exact Nat.le_of_eq hreg.symm
    · rename_i heq
      rw [heq] at hreg
      show b.prefsTicks ≤ _ + 1
      dsimp only at hreg
      omega

theorem persistPrefs_view (b : Backend) (io : Io) :
    (b.persistPrefs io).2.prefsView ended = b.prefsView ended := by
  obtain ⟨disk, ticks, key, -, heq⟩ := persistPrefs_diskOnly b io
  rw [heq]
  rfl

/-- **An edit and its persist** tell of the edit, unless the persist fails and the edit shows. -/
theorem persistPrefs_tells {a b : Backend} {io : Io} (hticks : b.prefsTicks = a.prefsTicks)
    (hview : ¬ b.Persists b.prefs.hasLoggedIn io → b.prefsView ended = a.prefsView ended) :
    Tells ended a (b.persistPrefs io).2 := by
  by_cases hsave : b.Persists b.prefs.hasLoggedIn io
  · refine Announces.of_tick ?_
    have hone := persistPrefs_ticks hsave
    omega
  · refine Announces.of_view ?_ ((persistPrefs_view b io).trans (hview hsave))
    have hle := persistPrefs_le b io
    omega

/-! ### Bring-ups -/

theorem reauth_same (b : Backend) (o : UpOptions) (io : Io) :
    (b.reauth o io).2.prefsTicks = b.prefsTicks ∧
      (b.reauth o io).2.disk.profiles = b.disk.profiles := by
  unfold reauth discardNodeKey
  split
  · split <;> exact ⟨rfl, rfl⟩
  · exact ⟨rfl, rfl⟩

theorem buildConfig_tells (E : Env) (b : Backend) (io : Io) :
    Tells ended b (b.buildConfig E io).2 :=
  .of_same rfl rfl

/-- Whether a persist goes through depends on the listing and the login mark. -/
theorem persists_congr {a b : Backend} {io : Io} (hprofile : b.currentProfile = a.currentProfile)
    (hlisted : b.disk.profiles = a.disk.profiles) (hlogin : b.prefs.hasLoggedIn = a.prefs.hasLoggedIn) :
    b.Persists b.prefs.hasLoggedIn io ↔ a.Persists a.prefs.hasLoggedIn io := by
  unfold Persists Disk.loadProfiles
  rw [hprofile, hlisted, hlogin]

theorem upPrefs_hasLoggedIn (o : UpOptions) (p : Prefs) :
    (upPrefs o p).hasLoggedIn = p.hasLoggedIn := by
  unfold upPrefs
  dsimp only
  split <;> rfl

theorem beginUp_tells {E : Env} {b : Backend} {o : UpOptions} {netmap : ExitNodeFacts} {io : Io}
    (hkey : ∀ tags edit, b.checkUp E o netmap = .ok (tags, edit) → o.forceReauth = true →
      io.removeKey = false → b.sshRunning ended ≠ true)
    (hsave : ∀ tags edit, b.checkUp E o netmap = .ok (tags, edit) →
      (o.forceReauth = true → io.removeKey = true) → ¬ b.Persists b.prefs.hasLoggedIn io →
      (b.upResult E o tags edit).prefs.view false = b.prefsView ended) (wif : Option WifCreds) :
    Tells ended b (b.beginUp E o wif netmap io).2 := by
  unfold beginUp
  split
  · exact .refl b
  · rename_i tags edit hcheck
    obtain ⟨hticks, hprofiles⟩ := reauth_same b.stopDevice o io
    have hdisk := reauth_diskOnly b.stopDevice o io
    split
    · rename_i f b1 heq
      -- the key was not discarded: only the engine is gone
      obtain ⟨-, rfl, hforce, hremove⟩ := reauth_error heq
      exact .of_same rfl (view_false_of_not_sshRunning (hkey tags edit hcheck hforce hremove))
    · rename_i b1 heq
      have hreauth := @reauth_ok b.stopDevice o io (by rw [heq]; rfl)
      rw [heq] at hticks hprofiles hdisk
      have hedited : DiskOnly (b.upResult E o tags edit) (b1.applyUp E (o.withTags tags) edit) :=
        applyUp_diskOnly hdisk E (o.withTags tags) edit
      have hview : (b1.applyUp E (o.withTags tags) edit).prefsView ended =
          (b.upResult E o tags edit).prefs.view false := by
        obtain ⟨disk, ticks, key, -, hb⟩ := hedited
        rw [hb, upResult, applyUp_eq]
        rfl
      have hlogin : (b1.applyUp E (o.withTags tags) edit).prefs.hasLoggedIn =
          b.prefs.hasLoggedIn := by
        rw [hedited.prefs, upResult, applyUp_eq, policy_hasLoggedIn]
        exact upPrefs_hasLoggedIn _ _
      have hsaved : Tells ended b ((b1.applyUp E (o.withTags tags) edit).persistPrefs io).2 := by
        refine persistPrefs_tells ?_ ?_
        · rw [applyUp_eq]
          exact hticks
        · intro hfails
          rw [hview]
          refine hsave tags edit hcheck hreauth ?_
          rwa [persists_congr (a := b) _ _ hlogin] at hfails
          · rw [applyUp_eq]
            exact hdisk.profile
          · rw [applyUp_eq]
            exact hprofiles
      split
      · rename_i heq'
        rw [heq'] at hsaved
        exact hsaved
      · rename_i b2 heq'
        rw [heq'] at hsaved
        have hbuilt := hsaved.trans (buildConfig_tells E b2 io)
        split
        · rename_i heq''
          rw [heq''] at hbuilt
          exact hbuilt
        · rename_i heq''
          rw [heq''] at hbuilt
          exact hbuilt.trans (.of_same rfl rfl)

/-- An engine that started is installed, or it did not start or came too late. -/
theorem finishSection_tells {E : Env} {b : Backend} {pending : PendingUp}
    {built : Except Failure Device} {io : Io}
    (hsave : ∀ dev, built = .ok dev → pending.generation = b.generation → ¬ b.Persists true io →
      (b.install E dev).sshRunning ended = b.sshRunning ended) :
    Tells ended b (b.finishSection E pending built io).2 := by
  unfold finishSection
  by_cases hgen : pending.generation = b.generation
  · cases built with
    | error f =>
      have hfinish : b.finishUp E pending (.error f) = (.error f, b) := by
        unfold finishUp
        rw [if_neg (not_not.mpr hgen)]
      rw [hfinish]
      exact .refl b
    | ok dev =>
      have hfinish : b.finishUp E pending (.ok dev) = (.ok none, b.install E dev) := by
        unfold finishUp
        rw [if_neg (not_not.mpr hgen)]
      rw [hfinish]
      refine persistPrefs_tells rfl ?_
      intro hfails
      unfold prefsView
      rw [hsave dev rfl hgen hfails]
      rfl
  · have hstale : b.finishUp E pending built = (.ok built.toOption, b) := by
      unfold finishUp
      rw [if_pos hgen]
    rw [hstale]
    cases built with
    | error f => exact persistPrefs_tells rfl fun _ => rfl
    | ok dev => exact .refl b

/-! ### Edits -/

theorem renameSection_tells (b : Backend) (nickname : Option (Option String)) (io : Io) :
    Tells ended b (b.renameSection nickname io).2 := by
  unfold renameSection renameCurrentProfile
  split
  · exact .refl b
  · split <;> rename_i heq <;> split at heq
    · cases heq
      exact .refl b
    · split at heq <;> cases heq
      exact .of_same rfl rfl
    · cases heq
    · split at heq <;> cases heq
      exact .refl b

/-- The live setters leave the prefs and the SSH server. -/
theorem reconcileEngine_tells (E : Env) (b : Backend) (o : SetOptions) (io : Io) :
    Tells ended b (b.reconcileEngine E o io).2 := by
  rcases reconcileEngine_cases E b o io with ⟨-, hrec⟩ | ⟨dev, -, -, hrec⟩ |
    ⟨dev, hdev, -, result, hrec⟩ <;> rw [hrec]
  · exact .refl b
  · exact .refl b
  · refine .of_same rfl ?_
    unfold prefsView sshRunning
    rw [hdev]
    rfl

theorem beginSet_tells {E : Env} {b : Backend} {o : SetOptions} {netmap : ExitNodeFacts} {io : Io}
    (hsave : ∀ tags edit, b.checkSet E o netmap = .ok (tags, edit) →
      ¬ b.Persists b.prefs.hasLoggedIn io →
      (b.setResult E o tags edit).prefsView ended = b.prefsView ended) :
    Tells ended b (b.beginSet E o netmap io).2 := by
  unfold beginSet
  split
  · exact .refl b
  · rename_i tags edit hcheck
    have hsaved : Tells ended b ((b.setResult E o tags edit).persistPrefs io).2 := by
      refine persistPrefs_tells ?_ ?_
      · rw [setResult, applySet_eq]
      · intro hfails
        refine hsave tags edit hcheck ?_
        rwa [persists_congr (a := b)] at hfails
        · rw [setResult, applySet_eq]
        · rw [setResult, applySet_eq]
        · rw [setResult, applySet_eq, policy_hasLoggedIn]
          rfl
    unfold setResult at hsaved
    split
    · rename_i heq
      rw [heq] at hsaved
      exact hsaved
    · rename_i b1 heq
      rw [heq] at hsaved
      have hrenamed := hsaved.trans (renameSection_tells b1 o.nickname io)
      rcases hr : b1.renameSection o.nickname io with ⟨renameError, b2⟩
      rw [hr] at hrenamed
      have hdone := hrenamed.trans (reconcileEngine_tells E b2 (o.withTags tags) io)
      dsimp only
      split <;> rename_i heq' <;> rw [heq'] at hdone <;> exact hdone

theorem reloadConfig_tells {E : Env} {b : Backend} {document : Except Failure ConfigVAlpha}
    {contents : Option String} {io : Io}
    (hsave : ∀ c path, b.configSource = some (.file path) → document = .ok c →
      c.validate E.host b.prefs = .ok () → (c.registrationKey contents).isOk = true →
      ¬ b.Persists b.prefs.hasLoggedIn io →
      (b.configured E c).prefsView ended = b.prefsView ended)
    (hkey : ∀ c path, b.configSource = some (.file path) → document = .ok c →
      c.validate E.host b.prefs = .ok () → (c.registrationKey contents).isOk = false →
      (c.merge b.prefs).view (b.sshRunning ended) = b.prefsView ended) :
    Tells ended b (b.reloadConfig E document contents io).2 := by
  unfold reloadConfig
  split
  · exact .refl b
  · rename_i source hsource
    split
    · exact .refl b
    · rename_i c hload
      obtain ⟨path, rfl⟩ : ∃ path, source = .file path := by
        cases source with
        | file path => exact ⟨path, rfl⟩
        | vmUserData => cases hload
      have happlied : Tells ended b (b.applyConfig E c contents io).2 := by
        unfold applyConfig
        cases hvalid : c.validate E.host b.prefs with
        | error e =>
          rw [applyToPrefs_refused hvalid]
          exact .refl b
        | ok u =>
          rw [applyToPrefs_valid hvalid]
          cases hresolved : c.registrationKey contents with
          | error f => exact .of_same rfl (hkey c path hsource hload hvalid (by rw [hresolved]; rfl))
          | ok authkey =>
            have hsaved : Tells ended b ((b.configured E c).persistPrefs io).2 := by
              refine persistPrefs_tells rfl ?_
              intro hfails
              refine hsave c path hsource hload hvalid (by rw [hresolved]; rfl) ?_
              have hlogin : (b.configured E c).prefs.hasLoggedIn = b.prefs.hasLoggedIn :=
                policy_hasLoggedIn E.settings (c.merge b.prefs) _
              rwa [persists_congr (a := b) (b := b.configured E c) rfl rfl hlogin] at hfails
            unfold configured at hsaved
            dsimp only
            split <;> rename_i heq <;> rw [heq] at hsaved <;> exact hsaved
      split <;> rename_i heq <;> rw [heq] at happlied <;> exact happlied

/-! ### Disconnects -/

theorem down_tells {E : Env} {b : Backend} {actor : Actor} {io : Io}
    (hsave : b.checkDisconnectPolicy E actor = .ok () → ¬ b.Persists b.prefs.hasLoggedIn io →
      b.sshRunning ended ≠ true) : Tells ended b (b.down E actor io).2 := by
  unfold down
  split
  · exact .refl b
  · rename_i hpermit
    refine persistPrefs_tells (b := b.downResult E) ?_ ?_
    · rw [downResult_eq]
    · intro hfails
      have hb : ¬ b.Persists b.prefs.hasLoggedIn io := by
        rwa [persists_congr (a := b)] at hfails <;> rw [downResult_eq]
      rw [downResult_eq]
      exact view_false_of_not_sshRunning (hsave hpermit hb)

theorem logout_tells {E : Env} {b : Backend} {actor : Actor} {io : Io}
    (hsave : b.checkDisconnectPolicy E actor = .ok () → io.removeKey = false ∨ io.savePrefs = false →
      b.sshRunning ended ≠ true) : Tells ended b (b.logout E actor io).2 := by
  unfold logout discardNodeKey
  split
  · exact .refl b
  · rename_i hpermit
    split
    · rename_i heq
      split at heq <;> cases heq
      rename_i hremove
      exact .of_same rfl (view_false_of_not_sshRunning (hsave hpermit (.inl (by simpa using hremove))))
    · rename_i b1 heq
      split at heq <;> cases heq
      refine persistPrefs_tells ?_ ?_
      · rw [disconnectEdge_eq]
        rfl
      · intro hfails
        rw [disconnectEdge_eq] at hfails ⊢
        have hsaves : io.savePrefs = false := by
          by_contra hsaves
          exact hfails ⟨by simpa using hsaves, .inl rfl⟩
        exact view_false_of_not_sshRunning (hsave hpermit (.inr hsaves))

/-! ### Profiles -/

/-- **An activation ticks nothing**, so it must show the same: the profile it leaves has no SSH
    server alive, and the one it lands on shows what was shown. -/
theorem activateProfile_tells {E : Env} {b : Backend} {target : String} {register : Bool} {io : Io}
    (hleft : target ≠ b.currentProfile →
      Daemon.switched (b.activateProfile E target register io).1 = false → b.sshRunning ended ≠ true)
    (hview : target ≠ b.currentProfile →
      Daemon.switched (b.activateProfile E target register io).1 = true →
      (applySettingsToPrefs E.settings ((b.disk.prefsFile target).getD Prefs.default) {}).1.view
        false = b.prefsView ended) :
    Tells ended b (b.activateProfile E target register io).2 := by
  rcases activateProfile_outcomes E b target register io with ⟨-, hres⟩ |
    ⟨hne, f, profiles, hres⟩ | ⟨hne, state, profiles, hres⟩ <;> rw [hres] at hleft hview ⊢
  · exact .refl b
  · exact .of_same rfl (view_false_of_not_sshRunning (hleft hne rfl))
  · exact .of_same rfl (hview hne rfl)

/-- A reset in place tells of what it left. -/
theorem resetToEmptyProfile_tells {E : Env} {b : Backend} {io : Io}
    (hleft : Daemon.switched (b.resetToEmptyProfile E io).1 = false → b.sshRunning ended ≠ true) :
    Tells ended b (b.resetToEmptyProfile E io).2 := by
  rcases resetToEmptyProfile_outcomes E b io with hres | ⟨f, profiles, hres⟩ |
    ⟨state, profiles, hres⟩ <;> rw [hres] at hleft ⊢
  · exact .refl b
  · exact .of_same rfl (view_false_of_not_sshRunning (hleft rfl))
  · exact Announces.of_tick (Nat.lt_succ_self b.prefsTicks)

/-- The files of another profile are not shown. -/
theorem removeProfileFiles_tells (b : Backend) (id : String) (io : Io) :
    Tells ended b (b.removeProfileFiles id io).2 := by
  rcases removeProfileFiles_outcomes b id io with ⟨f, hrm⟩ | ⟨f, hrm⟩ | hrm <;> rw [hrm]
  · exact .refl b
  · exact .of_same rfl rfl
  · exact .of_same rfl rfl

theorem removeProfileFiles_ok {b : Backend} {id : String} {io : Io}
    (h : (b.removeProfileFiles id io).1 = .ok ()) : io.removePrefs = true ∧ io.removeKey = true := by
  unfold removeProfileFiles at h
  split at h
  · cases h
  · rename_i hprefs
    dsimp only at h
    split at h
    · cases h
    · rename_i hkey
      exact ⟨by simpa using hprefs, by simpa using hkey⟩

theorem deleteProfile_tells (b : Backend) (target : String) (io : Io) :
    Tells ended b (b.deleteProfile target io).2 := by
  rcases deleteProfile_outcomes b target io with ⟨hsame, -⟩ |
    ⟨id, -, -, -, ⟨f, hres⟩ | ⟨-, result, profiles, -, hres⟩⟩
  · rw [hsame]
    exact .refl b
  · rw [hres]
    exact removeProfileFiles_tells b id io
  · rw [hres]
    exact (removeProfileFiles_tells b id io).trans (.of_same rfl rfl)

end Backend

/-! ## Steps -/

/-- **Every step that is not untold tells of its change.** -/
theorem step_tells {H : Host} {ended : List Nat} {d d' : Daemon} {e : Event}
    (htold : ¬ Untold H ended d e) (hstep : Daemon.step H d e = some d') :
    Tells ended d.backend d'.backend := by
  have hran := Daemon.step_ran hstep
  generalize d'.backend = b' at hran ⊢
  cases hran with
  | nothing => exact .refl d.backend
  | beginUp hstart wif =>
    refine Backend.beginUp_tells ?_ ?_ wif
    · intro tags edit hcheck hforce hremove hssh
      exact htold (.upKeyKept hstart hcheck hforce hremove hssh)
    · intro tags edit hcheck hreauth hsave
      by_contra hview
      exact htold (.upUnsaved hstart hcheck hreauth hsave hview)
  | finish htask =>
    refine Backend.finishSection_tells ?_
    intro dev hdev hgen hsave
    rename_i i built io pending authkey origin
    cases built with
    | none => cases hdev
    | some state =>
      cases hdev
      by_contra hssh
      exact htold (.installUnsaved htask hgen hsave hssh)
  | set =>
    refine Backend.beginSet_tells ?_
    intro tags edit hcheck hsave
    by_contra hview
    exact htold (.setUnsaved hcheck hsave hview)
  | reload =>
    refine Backend.reloadConfig_tells ?_ ?_
    · intro c path hsource hdoc hvalid hkey hsave
      by_contra hview
      exact htold (.reloadUnsaved hsource hdoc hvalid hkey hsave hview)
    · intro c path hsource hdoc hvalid hkey
      by_contra hview
      exact htold (.reloadKeyFailed hsource hdoc hvalid hkey hview)
  | preflight => exact Backend.buildConfig_tells _ _ _
  | bringDown => exact Backend.down_tells fun _ hsave hssh => htold (.bringDownUnsaved hsave hssh)
  | down => exact Backend.down_tells fun hpermit hsave hssh => htold (.downUnsaved hpermit hsave hssh)
  | logout =>
    exact Backend.logout_tells fun hpermit hfail hssh => htold (.logoutFailed hpermit hfail hssh)
  | @switchProfile target io =>
    have hswitches : d.switches H (.switchProfile target io) =
        Daemon.switched (d.backend.switchProfile (d.env H) target io).1 := rfl
    rcases Backend.switchProfile_outcomes (d.env H) d.backend target io with ⟨f, hres⟩ |
      ⟨id, hresolved, -, hres⟩ <;> rw [hres] at hswitches ⊢
    · exact .refl d.backend
    · refine Backend.activateProfile_tells ?_ ?_
      · intro hid hfailed hssh
        exact htold (.profileFailed (.switch hresolved hid) (hswitches.trans hfailed) hssh)
      · intro hid hdone
        by_contra hview
        refine htold (.activated ?_ (hswitches.trans hdone) hid hview)
        dsimp only [Daemon.landing]
        rw [hresolved]
        rfl
  | @createProfile id io =>
    have hswitches : d.switches H (.createProfile id io) =
        Daemon.switched (d.backend.createProfile (d.env H) id io).1 := rfl
    rcases Backend.createProfile_outcomes (d.env H) d.backend id io with ⟨f, hres⟩ |
      ⟨hvalid, hfree, hres⟩ <;> rw [hres] at hswitches ⊢
    · exact .refl d.backend
    · refine Backend.activateProfile_tells ?_ ?_
      · intro hid hfailed hssh
        exact htold (.profileFailed (.create hvalid hfree hid) (hswitches.trans hfailed) hssh)
      · intro hid hdone
        by_contra hview
        exact htold (.activated rfl (hswitches.trans hdone) hid hview)
  | @switchToEmptyProfile draw io =>
    have hswitches : d.switches H (.switchToEmptyProfile draw io) =
        Daemon.switched (d.backend.switchToEmptyProfile (d.env H) draw io).1 := rfl
    rcases Backend.switchToEmptyProfile_outcomes (d.env H) d.backend draw io with ⟨hlogin, hres⟩ |
      ⟨f, hres⟩ | ⟨id, hlogin, hdraw, -, -, hid, -, ⟨f, hres⟩ | ⟨hremoved, hres⟩⟩ <;>
      rw [hres] at hswitches ⊢
    · refine Backend.resetToEmptyProfile_tells ?_
      intro hfailed hssh
      exact htold (.profileFailed (.reset hlogin) (hswitches.trans hfailed) hssh)
    · exact .refl d.backend
    · exact Backend.removeProfileFiles_tells d.backend id io
    · -- the files of the fresh id are gone, so it lands on the defaults
      have hgone := Backend.removeProfileFiles_diskOnly d.backend id io
      have hsame : (d.backend.removeProfileFiles id io).2.sshRunning ended =
          d.backend.sshRunning ended := by
        obtain ⟨disk, ticks, key, -, heq⟩ := hgone
        rw [heq]
        rfl
      have hshown : (d.backend.removeProfileFiles id io).2.prefsView ended =
          d.backend.prefsView ended := by
        unfold Backend.prefsView
        rw [hsame, hgone.prefs]
      refine (Backend.removeProfileFiles_tells d.backend id io).trans
        (Backend.activateProfile_tells ?_ ?_)
      · intro _ hfailed hssh
        rw [hsame] at hssh
        exact htold (.profileFailed (.fresh hlogin hdraw (Backend.removeProfileFiles_ok hremoved))
          (hswitches.trans hfailed) hssh)
      · intro _ hdone
        rw [hshown, (Daemon.removed_prefsFile hremoved).1]
        by_contra hview
        refine htold (.activated (p := Prefs.default) ?_ (hswitches.trans hdone) hid hview)
        dsimp only [Daemon.landing]
        rw [hlogin, hdraw]
        rfl
  | deleteProfile => exact Backend.deleteProfile_tells _ _ _
  | policyTick keys exitKeys =>
    rw [Backend.exitNodePolicyChanged_eq, Backend.sysPolicyChanged_eq]
    exact .of_same rfl rfl
  | @timerFired armed =>
    unfold Backend.claimDueReconnect
    split
    · exact .refl d.backend
    · split <;> exact .of_same rfl rfl
  | engine =>
    refine .of_same rfl ?_
    unfold Backend.prefsView Backend.sshRunning
    cases d.backend.device <;> rfl

/-! ## Runs -/

/-- An event that does not change the view untold. -/
def WatchEvent.Told (H : Host) (s : Watching) : WatchEvent → Prop
  | .daemon e => ¬ Untold H s.ended s.daemon e
  -- the SSH server of this engine has ended before
  | .sshEnds => s.daemon.backend.sshRunning s.ended = false
  | _ => True

/-- A watcher that has consumed every tick sent the current view last. -/
def Watching.Fresh (s : Watching) : Prop :=
  ∀ r, s.watcher = some r → r.Fresh Watching.ticks Watching.view s

theorem fresh_step {H : Host} {s s' : Watching} {e : WatchEvent} (h : s.Fresh)
    (hgood : e.Told H s) (hstep : s.step H e = some s') : s'.Fresh := by
  intro r hr
  cases e with
  | daemon e =>
    obtain ⟨d, hd, rfl⟩ := Option.map_eq_some_iff.mp hstep
    exact (h r hr).announced (step_tells hgood hd)
  | sshEnds =>
    dsimp only [Watching.step] at hstep
    split at hstep
    · rename_i dev hdev
      split at hstep
      · rename_i htask
        cases hstep
        refine (h r hr).announced (Announces.of_view (Nat.le_refl _) ?_)
        unfold Watching.view Backend.prefsView
        dsimp only [WatchEvent.Told] at hgood
        rw [hgood]
        unfold Backend.sshRunning at hgood ⊢
        rw [hdev]
        simp
      · cases hstep
    · cases hstep
  | subscribe =>
    cases hstep
    cases hr
    exact (TickChannel.Watcher.Fresh.subscribe s).same rfl rfl
  | emit =>
    obtain ⟨r', hread, rfl⟩ := Option.map_eq_some_iff.mp hstep
    obtain ⟨r₀, hr₀, hread⟩ := Option.bind_eq_some_iff.mp hread
    cases hr
    exact ((h r₀ hr₀).read hread).same rfl rfl
  | wake =>
    obtain ⟨r', hwake, rfl⟩ := Option.map_eq_some_iff.mp hstep
    obtain ⟨r₀, hr₀, hwake⟩ := Option.bind_eq_some_iff.mp hwake
    cases hr
    exact (TickChannel.Watcher.Fresh.wake hwake).same rfl rfl

/-- **A watcher that has consumed every tick shows the current prefs**, in every run whose steps all
    tell of what they change. -/
theorem watched_prefs_current {H : Host} {d₀ : Daemon} {es : List WatchEvent} {s : Watching}
    (hrun : Run (Watching.step H) (fun s e => e.Told H s) ⟨d₀, [], none⟩ es s) :
    ∀ r, s.watcher = some r → r.CaughtUp Watching.ticks s → r.last = some s.view := by
  have hfresh : s.Fresh := by
    refine hrun.invariant (fun _ _ _ h hgood hstep => fresh_step h hgood hstep) ?_
    intro r hr
    cases hr
  intro r hr
  exact (hfresh r hr).current

/-! ## A switch the watcher misses -/

/-- Name the host. -/
def namedHost : SetOptions := { hostname := some "laptop" }

/-- A `set` whose persist goes through is told. -/
theorem set_told {H : Host} {ended : List Nat} {d : Daemon} {o : SetOptions}
    {netmap : ExitNodeFacts} {io : Io} (h : d.backend.Persists d.backend.prefs.hasLoggedIn io) :
    ¬ Untold H ended d (.set o netmap io) := by
  intro huntold
  cases huntold with
  | upKeyKept hstart hcheck hforce hremove hssh => cases hstart
  | upUnsaved hstart hcheck hreauth hsave hview => cases hstart
  | setUnsaved hcheck hsave hview => exact hsave h
  | activated hlanding hswitch hid hview => cases hlanding
  | profileFailed hleft hswitch hssh => cases hleft

/-- A watch across a `set`. -/
theorem watched_prefs_current_set :
    ∃ d₀ s r, Daemon.boot plainHost [] firstBoot = .ok d₀ ∧
      follow (Watching.step plainHost) ⟨d₀, [], none⟩
        [.subscribe, .emit, .daemon (.set namedHost {} {}), .wake, .emit] = some s ∧
      s.watcher = some r ∧ s.view.hostname = some "laptop" ∧ r.last = some s.view := by
  obtain ⟨d₀, s₁, s₂, s₃, s₄, s, r, hboot, h₁, h₂, h₃, h₄, h₅, hfollow, hwatcher, hname, hcaught,
      hlogin⟩ : ∃ d₀ s₁ s₂ s₃ s₄ s r, Daemon.boot plainHost [] firstBoot = .ok d₀ ∧
      Watching.step plainHost ⟨d₀, [], none⟩ .subscribe = some s₁ ∧
      Watching.step plainHost s₁ .emit = some s₂ ∧
      Watching.step plainHost s₂ (.daemon (.set namedHost {} {})) = some s₃ ∧
      Watching.step plainHost s₃ .wake = some s₄ ∧ Watching.step plainHost s₄ .emit = some s ∧
      follow (Watching.step plainHost) ⟨d₀, [], none⟩
        [.subscribe, .emit, .daemon (.set namedHost {} {}), .wake, .emit] = some s ∧
      s.watcher = some r ∧ s.view.hostname = some "laptop" ∧ r.CaughtUp Watching.ticks s ∧
      s₂.daemon.backend.prefs.hasLoggedIn = false :=
    ⟨_, _, _, _, _, _, _, rfl, rfl, rfl, rfl, rfl, rfl, rfl, rfl, rfl, ⟨rfl, rfl⟩, rfl⟩
  have hpersists : s₂.daemon.backend.Persists s₂.daemon.backend.prefs.hasLoggedIn {} :=
    ⟨rfl, .inl hlogin⟩
  have hrun : Run (Watching.step plainHost) (fun s e => e.Told plainHost s) ⟨d₀, [], none⟩
      [.subscribe, .emit, .daemon (.set namedHost {} {}), .wake, .emit] s :=
    .cons trivial h₁ (.cons trivial h₂ (.cons (set_told hpersists) h₃ (.cons trivial h₄
      (.single trivial h₅))))
  exact ⟨d₀, s, r, hboot, hfollow, hwatcher, hname, watched_prefs_current hrun r hwatcher hcaught⟩

/-- **A watcher misses a new profile**: the activation changes the view and ticks nothing. -/
theorem created_profile_unseen :
    ¬ ∀ (d₀ : Daemon) (es : List WatchEvent) (s : Watching),
      Daemon.boot plainHost [] firstBoot = .ok d₀ →
      Run (Watching.step plainHost) (fun _ _ => True) ⟨d₀, [], none⟩ es s →
      ∀ r, s.watcher = some r → r.CaughtUp Watching.ticks s → r.last = some s.view := by
  intro hclaim
  obtain ⟨d₀, s, r, hboot, hrun, hwatcher, hcaught, hlast, hview⟩ : ∃ d₀ s r,
      Daemon.boot plainHost [] firstBoot = .ok d₀ ∧
      follow (Watching.step plainHost) ⟨d₀, [], none⟩
        [.daemon (.set namedHost {} {}), .subscribe, .emit, .daemon (.createProfile "work" {})] =
        some s ∧
      s.watcher = some r ∧ r.CaughtUp Watching.ticks s ∧
      r.last.bind PrefsView.hostname = some "laptop" ∧ s.view.hostname = none :=
    ⟨_, _, _, rfl, rfl, rfl, ⟨rfl, rfl⟩, rfl, rfl⟩
  have hcurrent := hclaim d₀ _ s hboot (run_of_follow (fun _ _ _ => trivial) hrun) r hwatcher hcaught
  rw [hcurrent, Option.bind_some, hview] at hlast
  cases hlast

end Tailnetd
