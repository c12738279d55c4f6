/-
  What each section can do to the backend.

  The sections differ in memory only at a few named points: the engine is stopped, the generation
  advances, the prefs are edited.  All the rest is disk traffic.  `DiskOnly b b'` says that two
  backends agree on everything but the disk, the tick count and the node-key cache; it is the frame
  of every persist, key load and profile rename.

  Each operation then has one lemma listing its outcomes (`beginUp_cases`, `beginSet_cases`, ...),
  with the backend described up to `DiskOnly`.  Later proofs use these and do not unfold the
  operations.
-/
import Tailnetd.Daemon

namespace Tailnetd

/-! ## The frame of the disk -/

/-- The two backends agree on everything but the disk, the tick count and the node-key cache, and
    no key file became malformed. -/
def DiskOnly (b b' : Backend) : Prop :=
  ∃ disk ticks key,
    (∀ id, disk.keyFile id = some .malformed → b.disk.keyFile id = some .malformed) ∧
    b' = { b with disk := disk, prefsTicks := ticks, hasNodeKey := key }

namespace DiskOnly

theorem refl (b : Backend) : DiskOnly b b :=
  ⟨b.disk, b.prefsTicks, b.hasNodeKey, fun _ h => h, rfl⟩

theorem trans {a b c : Backend} (h : DiskOnly a b) (h' : DiskOnly b c) : DiskOnly a c := by
  obtain ⟨disk, ticks, key, hsound, rfl⟩ := h
  obtain ⟨disk', ticks', key', hsound', rfl⟩ := h'
  exact ⟨disk', ticks', key', fun id h => hsound id (hsound' id h), rfl⟩

/-- A new tick count, a new cache, the same disk. -/
theorem sameDisk (b : Backend) (ticks : Nat) (key : Bool) :
    DiskOnly b { b with prefsTicks := ticks, hasNodeKey := key } :=
  ⟨b.disk, ticks, key, fun _ h => h, rfl⟩

theorem prefs {b b' : Backend} (h : DiskOnly b b') : b'.prefs = b.prefs := by
  obtain ⟨disk, ticks, key, -, rfl⟩ := h
  rfl

theorem device {b b' : Backend} (h : DiskOnly b b') : b'.device = b.device := by
  obtain ⟨disk, ticks, key, -, rfl⟩ := h
  rfl

theorem profile {b b' : Backend} (h : DiskOnly b b') : b'.currentProfile = b.currentProfile := by
  obtain ⟨disk, ticks, key, -, rfl⟩ := h
  rfl

theorem generation {b b' : Backend} (h : DiskOnly b b') : b'.generation = b.generation := by
  obtain ⟨disk, ticks, key, -, rfl⟩ := h
  rfl

theorem listenPort {b b' : Backend} (h : DiskOnly b b') : b'.listenPort = b.listenPort := by
  obtain ⟨disk, ticks, key, -, rfl⟩ := h
  rfl

/-- No section makes the current key file malformed. -/
theorem keyFile {b b' : Backend} (h : DiskOnly b b') (hmal : b'.keyFile = some .malformed) :
    b.keyFile = some .malformed := by
  obtain ⟨disk, ticks, key, hsound, rfl⟩ := h
  exact hsound _ hmal

end DiskOnly

/-- Writing one key file leaves the others as they are. -/
theorem update_sound {files : String → Option KeyFile} {id : String} {file : Option KeyFile}
    (h : file = some .malformed → files id = some .malformed) (id' : String)
    (hid : Function.update files id file id' = some .malformed) : files id' = some .malformed := by
  by_cases hcur : id' = id
  · subst hcur
    rw [Function.update_self] at hid
    exact h hid
  · rwa [Function.update_of_ne hcur] at hid

namespace Backend

theorem setKeyFile_diskOnly (b : Backend) {file : Option KeyFile}
    (h : file = some .malformed → b.keyFile = some .malformed) :
    DiskOnly b (b.setKeyFile file) := by
  refine ⟨_, b.prefsTicks, b.hasNodeKey, ?_, rfl⟩
  exact update_sound h

theorem setPrefsFile_diskOnly (b : Backend) (file : Option Prefs) :
    DiskOnly b (b.setPrefsFile file) := by
  refine ⟨_, b.prefsTicks, b.hasNodeKey, ?_, rfl⟩
  exact fun _ h => h

theorem setProfiles_diskOnly (b : Backend) (profiles : List (String × String)) :
    DiskOnly b (b.setProfiles profiles) := by
  refine ⟨_, b.prefsTicks, b.hasNodeKey, ?_, rfl⟩
  exact fun _ h => h

theorem registerCurrentProfile_diskOnly (b : Backend) (io : Io) :
    DiskOnly b (b.registerCurrentProfile io).2 := by
  unfold registerCurrentProfile
  split
  · exact .refl b
  · split
    · exact .refl b
    · split
      · exact .refl b
      · exact setProfiles_diskOnly b _

theorem persistPrefs_diskOnly (b : Backend) (io : Io) : DiskOnly b (b.persistPrefs io).2 := by
  unfold persistPrefs
  split
  · exact .refl b
  · have hreg := (setPrefsFile_diskOnly b (some b.prefs)).trans
      (registerCurrentProfile_diskOnly _ io)
    split
    · rename_i heq
      rw [heq] at hreg
      exact hreg
    · rename_i b' heq
      rw [heq] at hreg
      exact hreg.trans (.sameDisk b' _ _)

theorem discardNodeKey_diskOnly (b : Backend) (io : Io) : DiskOnly b (b.discardNodeKey io).2 := by
  unfold discardNodeKey
  split
  · exact .refl b
  · have h : DiskOnly b (b.setKeyFile none) := setKeyFile_diskOnly b (fun h => by cases h)
    exact h.trans (.sameDisk _ _ _)

theorem reauth_diskOnly (b : Backend) (o : UpOptions) (io : Io) : DiskOnly b (b.reauth o io).2 := by
  unfold reauth
  split
  · exact discardNodeKey_diskOnly b io
  · exact .refl b

theorem buildConfig_diskOnly (E : Env) (b : Backend) (io : Io) :
    DiskOnly b (b.buildConfig E io).2 := by
  refine setKeyFile_diskOnly b ?_
  intro h
  unfold Tailnetd.buildConfig loadKeyFile at h
  split at h
  · rename_i heq
    split at heq
    · cases heq; exact h
    · split at heq <;> cases heq
      exact h
  · rename_i heq
    split at heq
    · cases heq
    · split at heq <;> cases heq
      · cases h
      · rename_i hfile
        rw [hfile] at h
        cases h

theorem renameCurrentProfile_diskOnly (b : Backend) (name : String) (io : Io) :
    DiskOnly b (b.renameCurrentProfile name io).2 := by
  unfold renameCurrentProfile
  split
  · exact .refl b
  · split
    · exact .refl b
    · exact setProfiles_diskOnly b _

theorem renameSection_diskOnly (b : Backend) (nickname : Option (Option String)) (io : Io) :
    DiskOnly b (b.renameSection nickname io).2 := by
  unfold renameSection
  split
  · exact .refl b
  · rename_i name
    have h := renameCurrentProfile_diskOnly b (name.getD "") io
    split <;> rename_i heq <;> rw [heq] at h <;> exact h

theorem removeProfileFiles_diskOnly (b : Backend) (id : String) (io : Io) :
    DiskOnly b (b.removeProfileFiles id io).2 := by
  unfold removeProfileFiles
  split
  · exact .refl b
  · dsimp only
    split
    · refine ⟨_, b.prefsTicks, b.hasNodeKey, ?_, rfl⟩
      exact fun _ h => h
    · refine ⟨_, b.prefsTicks, b.hasNodeKey, ?_, rfl⟩
      exact update_sound fun h => by cases h

theorem deleteProfile_diskOnly (b : Backend) (target : String) (io : Io) :
    DiskOnly b (b.deleteProfile target io).2 := by
  unfold deleteProfile
  split
  · exact .refl b
  · rename_i id _
    split
    · exact .refl b
    · split
      · exact .refl b
      · have h := removeProfileFiles_diskOnly b id io
        split
        · rename_i heq
          rw [heq] at h
          exact h
        · rename_i heq
          rw [heq] at h
          dsimp only
          split
          · exact h
          · split
            · exact h
            · exact h.trans (setProfiles_diskOnly _ _)

/-! ## Editing commutes with the disk -/

/-- The apply block of `begin_up` does not look at the disk. -/
theorem applyUp_diskOnly {b b' : Backend} (h : DiskOnly b b') (E : Env) (o : UpOptions)
    (edit : ExitNodeEdit) : DiskOnly (b.applyUp E o edit) (b'.applyUp E o edit) := by
  obtain ⟨disk, ticks, key, hsound, rfl⟩ := h
  cases edit <;> exact ⟨disk, ticks, key, hsound, rfl⟩

theorem bumpGeneration_diskOnly {b b' : Backend} (h : DiskOnly b b') :
    DiskOnly b.bumpGeneration b'.bumpGeneration := by
  obtain ⟨disk, ticks, key, hsound, rfl⟩ := h
  exact ⟨disk, ticks, key, hsound, rfl⟩

/-- What the apply block leaves: the asked-for prefs under the policy, with the edit's own verdict
    as the only standing exemption. -/
theorem applyUp_eq (E : Env) (b : Backend) (o : UpOptions) (edit : ExitNodeEdit) :
    b.applyUp E o edit =
      { b with
        prefs := (applySettingsToPrefs E.settings (upPrefs o b.prefs)
          { alwaysOn := false, exitNode := decide (edit = .override) }).1
        everConfigured := true
        overrideAlwaysOn := false
        reconnect := none
        overrideExitNodePolicy := decide (edit = .override) } := by
  cases edit <;> rfl

/-- The exit-node exemption once a permitted edit is recorded. -/
def overrideAfter (b : Backend) : ExitNodeEdit → Bool
  | .untouched => b.overrideExitNodePolicy
  | .noOverride => false
  | .override => true

/-- What the apply block of `begin_set` leaves. -/
theorem applySet_eq (E : Env) (b : Backend) (o : SetOptions) (edit : ExitNodeEdit) :
    b.applySet E o edit =
      { b with
        prefs := (applySettingsToPrefs E.settings (o.applyOverrides b.prefs)
          { alwaysOn := b.overrideAlwaysOn, exitNode := b.overrideAfter edit }).1
        everConfigured := true
        overrideExitNodePolicy := b.overrideAfter edit } := by
  cases edit <;> rfl

/-- What the merge and the reconcile of `apply_config` leave. -/
def configured (E : Env) (b : Backend) (c : ConfigVAlpha) : Backend :=
  b.adoptPrefs E (c.merge b.prefs)

/-! ## The verdict of the checks -/

/-- The verdict of the shared checks depends on the named tags, the named exit node and the
    policy. -/
theorem checkEdit_verdict {E : Env} {b : Backend} {r : EditRequest} {netmap : ExitNodeFacts}
    {tags : Option (List String)} {edit : ExitNodeEdit}
    (h : b.checkEdit E r netmap = .ok (tags, edit)) :
    completeNamedTags r.advertiseTags = .ok tags ∧
      checkExitNodeEdit r.exitNode (exitNodePolicyIn E.settings) = .ok edit := by
  unfold checkEdit at h
  dsimp only at h
  split at h
  · cases h
  · split at h
    · cases h
    · rename_i tags' htags
      split at h
      · cases h
      · rename_i edit' hedit
        split at h
        · cases h
        · split at h
          · cases h
          · cases h
            exact ⟨htags, hedit⟩

theorem checkUp_verdict {E : Env} {b : Backend} {o : UpOptions} {netmap : ExitNodeFacts}
    {tags : Option (List String)} {edit : ExitNodeEdit}
    (h : b.checkUp E o netmap = .ok (tags, edit)) :
    completeNamedTags o.advertiseTags = .ok tags ∧
      checkExitNodeEdit o.exitNode (exitNodePolicyIn E.settings) = .ok edit :=
  checkEdit_verdict h

theorem checkSet_verdict {E : Env} {b : Backend} {o : SetOptions} {netmap : ExitNodeFacts}
    {tags : Option (List String)} {edit : ExitNodeEdit}
    (h : b.checkSet E o netmap = .ok (tags, edit)) :
    completeNamedTags o.advertiseTags = .ok tags ∧
      checkExitNodeEdit o.exitNode (exitNodePolicyIn E.settings) = .ok edit := by
  unfold checkSet at h
  split at h
  · cases h
  · rename_i verdict hverdict
    split at h
    · cases h
    · cases h
      exact checkEdit_verdict hverdict

/-- **What a verdict on the exit node says**: the edit leaves it alone; nothing is pinned or the
    pinned node itself is named; or another node than the pinned one is. -/
theorem exitNodeVerdict_cases {named : Option (Option String)} {policy : ExitNodePolicy}
    {edit : ExitNodeEdit} (h : checkExitNodeEdit named policy = .ok edit) :
    (edit = .untouched ∧ named = none) ∨
    (edit = .noOverride ∧ named.isSome = true ∧
      (policy.pinned = none ∨ named = some policy.pinned)) ∨
    (edit = .override ∧ ∃ v pinned, named = some (some v) ∧ policy.pinned = some pinned ∧
      v ≠ pinned) := by
  unfold checkExitNodeEdit at h
  split at h
  · cases h
    exact .inl ⟨rfl, rfl⟩
  · right
    split at h
    · rename_i hpin
      cases h
      exact .inl ⟨rfl, rfl, .inl hpin⟩
    · rename_i pinned hpin
      split at h
      · cases h
      · split at h
        · cases h
        · rename_i v
          split at h
          · rename_i hsame
            cases h
            exact .inl ⟨rfl, rfl, .inr (by rw [hpin, hsame])⟩
          · rename_i hother
            cases h
            exact .inr ⟨rfl, v, pinned, rfl, hpin, hother⟩

/-! ## The outcomes of a bring-up -/

/-- A failed persist is a failed disk access. -/
theorem persistPrefs_error {b b' : Backend} {io : Io} {f : Failure}
    (h : b.persistPrefs io = (.error f, b')) :
    (∃ m, f = .io m) ∧ (io.savePrefs = false ∨ io.saveProfiles = false) := by
  unfold persistPrefs at h
  split at h
  · rename_i hsave
    cases h
    exact ⟨⟨_, rfl⟩, .inl (by simpa using hsave)⟩
  · split at h
    · rename_i heq
      cases h
      unfold registerCurrentProfile at heq
      split at heq
      · cases heq
      · split at heq
        · cases heq
        · split at heq
          · rename_i hsave
            cases heq
            exact ⟨⟨_, rfl⟩, .inr (by simpa using hsave)⟩
          · cases heq
    · cases h

/-- A failed key discard is a failed disk access. -/
theorem reauth_error {b b' : Backend} {o : UpOptions} {io : Io} {f : Failure}
    (h : b.reauth o io = (.error f, b')) :
    (∃ m, f = .io m) ∧ b' = b ∧ o.forceReauth = true ∧ io.removeKey = false := by
  unfold reauth discardNodeKey at h
  split at h
  · rename_i hforce
    split at h
    · rename_i hremove
      cases h
      exact ⟨⟨_, rfl⟩, rfl, hforce, by simpa using hremove⟩
    · cases h
  · cases h

/-- A force-reauth that went through could discard the key. -/
theorem reauth_ok {b : Backend} {o : UpOptions} {io : Io} (h : (b.reauth o io).1.isOk = true)
    (hforce : o.forceReauth = true) : io.removeKey = true := by
  unfold reauth discardNodeKey at h
  rw [if_pos hforce] at h
  by_contra hremove
  rw [Bool.not_eq_true] at hremove
  rw [hremove] at h
  cases h

/-- A config that cannot be built: the key did not load, or a check failed. -/
theorem buildConfig_error {E : Env} {b b' : Backend} {io : Io} {f : Failure}
    (h : b.buildConfig E io = (.error f, b')) :
    (io.key.ok = false ∨ b.keyFile = some .malformed) ∨ buildChecks E.host b.prefs = false := by
  unfold buildConfig Tailnetd.buildConfig loadKeyFile at h
  split at h
  rename_i heq
  by_cases hok : io.key.ok = true
  · rcases hfile : b.keyFile with _ | (key | _)
    · rw [hfile] at heq
      simp only [hok, Bool.not_true, Bool.false_eq_true, if_false] at heq
      cases heq
      right
      rw [← configOf_isOk E.host b.prefs b.listenPort io.key.fresh]
      cases hc : configOf E.host b.prefs b.listenPort io.key.fresh with
      | error e => rfl
      | ok c =>
        rw [hc] at h
        cases h
    · rw [hfile] at heq
      simp only [hok, Bool.not_true, Bool.false_eq_true, if_false] at heq
      cases heq
      right
      rw [← configOf_isOk E.host b.prefs b.listenPort key]
      cases hc : configOf E.host b.prefs b.listenPort key with
      | error e => rfl
      | ok c =>
        rw [hc] at h
        cases h
    · exact .inl (.inr rfl)
  · exact .inl (.inl (by simpa using hok))

/-- A built config is the prefs' own, and its key file is and was well formed. -/
theorem buildConfig_ok {E : Env} {b b' : Backend} {io : Io} {config : Config}
    (h : b.buildConfig E io = (.ok config, b')) :
    (∃ key, configOf E.host b.prefs b.listenPort key = .ok config) ∧
      b'.keyFile ≠ some .malformed ∧ io.key.ok = true ∧ b.keyFile ≠ some .malformed := by
  unfold buildConfig Tailnetd.buildConfig loadKeyFile at h
  split at h
  rename_i heq
  by_cases hok : io.key.ok = true
  · rcases hfile : b.keyFile with _ | (key | _)
    · rw [hfile] at heq
      simp only [hok, Bool.not_true, Bool.false_eq_true, if_false] at heq
      cases heq
      cases hc : configOf E.host b.prefs b.listenPort io.key.fresh with
      | error e =>
        rw [hc] at h
        cases h
      | ok c =>
        rw [hc] at h
        cases h
        exact ⟨⟨_, hc⟩, by simp [keyFile, setKeyFile], hok, by simp⟩
    · rw [hfile] at heq
      simp only [hok, Bool.not_true, Bool.false_eq_true, if_false] at heq
      cases heq
      cases hc : configOf E.host b.prefs b.listenPort key with
      | error e =>
        rw [hc] at h
        cases h
      | ok c =>
        rw [hc] at h
        cases h
        exact ⟨⟨_, hc⟩, by simp [keyFile, setKeyFile], hok, by simp⟩
    · rw [hfile] at heq
      simp only [hok, Bool.not_true, Bool.false_eq_true, if_false] at heq
      cases heq
      cases h
  · simp only [hok, Bool.not_false, if_true] at heq
    cases heq
    cases h

/-- **When a config can be built**: the key loads, and the checks accept the prefs. -/
theorem buildConfig_isOk (E : Env) (b : Backend) (io : Io) :
    (b.buildConfig E io).1.isOk = true ↔
      io.key.ok = true ∧ b.keyFile ≠ some .malformed ∧ buildChecks E.host b.prefs = true := by
  constructor
  · intro hok
    rcases hc : b.buildConfig E io with ⟨f | config, b'⟩
    · rw [hc] at hok
      cases hok
    · obtain ⟨⟨key, hconfig⟩, -, hio, hfile⟩ := buildConfig_ok hc
      refine ⟨hio, hfile, ?_⟩
      rw [← configOf_isOk E.host b.prefs b.listenPort key, hconfig]
      rfl
  · rintro ⟨hio, hmal, hchecks⟩
    rcases hc : b.buildConfig E io with ⟨f | config, b'⟩
    · rcases buildConfig_error hc with (h | h) | h
      · rw [hio] at h
        cases h
      · exact absurd h hmal
      · rw [hchecks] at h
        cases h
    · rfl

/-- The backend an accepted `up` leaves behind, before the generation advances. -/
def upResult (E : Env) (b : Backend) (o : UpOptions) (tags : Option (List String))
    (edit : ExitNodeEdit) : Backend :=
  b.stopDevice.applyUp E (o.withTags tags) edit

/-- The outcomes of `begin_up`. -/
inductive UpCase (E : Env) (b : Backend) (o : UpOptions) (wif : Option WifCreds)
    (netmap : ExitNodeFacts) (io : Io) : Outcome PendingUp → Prop
  /-- Refused by a check at the top: nothing happened. -/
  | refused {e : String} (hcheck : b.checkUp E o netmap = .error e) :
      UpCase E b o wif netmap io (.error (.refused e), b)
  /-- The node key could not be discarded: only the engine is gone. -/
  | keyKept {m : String} (hreauth : (b.stopDevice.reauth o io).1.isOk = false)
      (hforce : o.forceReauth = true) (hremove : io.removeKey = false) :
      UpCase E b o wif netmap io (.error (.io m), b.stopDevice)
  /-- Failed after the edits: the persist, the key load or a check of the finished intent. -/
  | failed {tags : Option (List String)} {edit : ExitNodeEdit} {f : Failure} {b' : Backend}
      (hcheck : b.checkUp E o netmap = .ok (tags, edit))
      (hreauth : (b.stopDevice.reauth o io).1.isOk = true)
      (hfail : (io.savePrefs = false ∨ io.saveProfiles = false) ∨
        (io.key.ok = false ∨ b.keyFile = some .malformed) ∨
        buildChecks E.host (b.upResult E o tags edit).prefs = false)
      (hb : DiskOnly (b.upResult E o tags edit) b') :
      UpCase E b o wif netmap io (.error f, b')
  /-- Begun, with a fresh generation and the config of the prefs it left. -/
  | begun {tags : Option (List String)} {edit : ExitNodeEdit} {key : KeyState} {config : Config}
      {b' : Backend} (hcheck : b.checkUp E o netmap = .ok (tags, edit))
      (hreauth : (b.stopDevice.reauth o io).1.isOk = true)
      (hconfig : configOf E.host (b.upResult E o tags edit).prefs b.listenPort key = .ok config)
      (hkey : b'.keyFile ≠ some .malformed)
      (hb : DiskOnly (b.upResult E o tags edit).bumpGeneration b') :
      UpCase E b o wif netmap io
        (.ok { config := withWif wif config, generation := b.generation + 1 }, b')

theorem upResult_generation (E : Env) (b : Backend) (o : UpOptions) (tags : Option (List String))
    (edit : ExitNodeEdit) : (b.upResult E o tags edit).generation = b.generation := by
  rw [upResult, applyUp_eq]
  rfl

theorem upResult_listenPort (E : Env) (b : Backend) (o : UpOptions) (tags : Option (List String))
    (edit : ExitNodeEdit) : (b.upResult E o tags edit).listenPort = b.listenPort := by
  rw [upResult, applyUp_eq]
  rfl

/-- The current profile's key file is where it was. -/
theorem upResult_keyFile (E : Env) (b : Backend) (o : UpOptions) (tags : Option (List String))
    (edit : ExitNodeEdit) : (b.upResult E o tags edit).keyFile = b.keyFile := by
  rw [upResult, applyUp_eq]
  rfl

/-- **What `begin_up` can do.** -/
theorem beginUp_cases (E : Env) (b : Backend) (o : UpOptions) (wif : Option WifCreds)
    (netmap : ExitNodeFacts) (io : Io) :
    UpCase E b o wif netmap io (b.beginUp E o wif netmap io) := by
  unfold beginUp
  rcases hcheck : b.checkUp E o netmap with e | ⟨tags, edit⟩
  · exact .refused hcheck
  · dsimp only
    have hb1 := reauth_diskOnly b.stopDevice o io
    rcases hre : b.stopDevice.reauth o io with ⟨f | u, b1⟩
    · obtain ⟨⟨m, rfl⟩, rfl, hforce, hremove⟩ := reauth_error hre
      exact .keyKept (by rw [hre]; rfl) hforce hremove
    · have hreauth : (b.stopDevice.reauth o io).1.isOk = true := by
        rw [hre]
        rfl
      rw [hre] at hb1
      dsimp only
      have hedit : DiskOnly (b.upResult E o tags edit)
          (b1.applyUp E (o.withTags tags) edit) := applyUp_diskOnly hb1 E _ edit
      have hb2 := hedit.trans (persistPrefs_diskOnly _ io)
      rcases hp : (b1.applyUp E (o.withTags tags) edit).persistPrefs io with
        ⟨f | u, b2⟩
      · rw [hp] at hb2
        exact .failed hcheck hreauth (.inl (persistPrefs_error hp).2) hb2
      · rw [hp] at hb2
        dsimp only
        have hb3 := hb2.trans (buildConfig_diskOnly E b2 io)
        have hprefs := hb2.prefs
        rcases hc : b2.buildConfig E io with ⟨f | config, b3⟩
        · rw [hc] at hb3
          refine .failed hcheck hreauth (.inr ?_) hb3
          rcases buildConfig_error hc with (hio | hmal) | hbuild
          · exact .inl (.inl hio)
          · refine .inl (.inr ?_)
            have := hb2.keyFile hmal
            rwa [upResult_keyFile] at this
          · exact .inr (hprefs ▸ hbuild)
        · rw [hc] at hb3
          obtain ⟨⟨key, hconfig⟩, hkey, -, -⟩ := buildConfig_ok hc
          have hport := hb2.listenPort.trans (upResult_listenPort E b o tags edit)
          have hgen := hb3.generation.trans (upResult_generation E b o tags edit)
          dsimp only
          rw [show ({ b3 with hasNodeKey := true } : Backend).bumpGeneration.generation =
            b.generation + 1 from congrArg (· + 1) hgen]
          rw [hprefs, hport] at hconfig
          refine .begun hcheck hreauth hconfig hkey ?_
          exact bumpGeneration_diskOnly (hb3.trans (.sameDisk b3 b3.prefsTicks true))

/-! ## The outcomes of a `set` -/

/-- The backend an accepted `set` leaves behind, before it reaches the engine. -/
def setResult (E : Env) (b : Backend) (o : SetOptions) (tags : Option (List String))
    (edit : ExitNodeEdit) : Backend :=
  b.applySet E (o.withTags tags) edit

/-- The outcomes of `begin_set`. -/
inductive SetCase (E : Env) (b : Backend) (o : SetOptions) (netmap : ExitNodeFacts) (io : Io) :
    Outcome SetOutcome → Prop
  /-- Refused by a check at the top: nothing happened. -/
  | refused {e : String} (hcheck : b.checkSet E o netmap = .error e) :
      SetCase E b o netmap io (.error (.refused e), b)
  /-- The persist failed after the edits. -/
  | failed {tags : Option (List String)} {edit : ExitNodeEdit} {f : Failure} {b' : Backend}
      (hcheck : b.checkSet E o netmap = .ok (tags, edit))
      (hfail : io.savePrefs = false ∨ io.saveProfiles = false)
      (hb : DiskOnly (b.setResult E o tags edit) b') : SetCase E b o netmap io (.error f, b')
  | persistedOnly {tags : Option (List String)} {edit : ExitNodeEdit} {b' : Backend}
      {renameError : Option Failure} (hcheck : b.checkSet E o netmap = .ok (tags, edit))
      (hdev : b.device = none) (hb : DiskOnly (b.setResult E o tags edit) b') :
      SetCase E b o netmap io (.ok ⟨.persistedOnly, renameError⟩, b')
  | rebuild {tags : Option (List String)} {edit : ExitNodeEdit} {b' : Backend} {dev : Device}
      {renameError : Option Failure} (hcheck : b.checkSet E o netmap = .ok (tags, edit))
      (hdev : b.device = some dev)
      (hneeds : (o.withTags tags).needsRebuild = true)
      (hb : DiskOnly (b.setResult E o tags edit) b') :
      SetCase E b o netmap io (.ok ⟨.rebuild, renameError⟩, b')
  /-- Pushed through the live setters, all of them or up to one that failed. -/
  | live {tags : Option (List String)} {edit : ExitNodeEdit} {b' : Backend} {dev : Device}
      {result : Except Failure SetOutcome} (hcheck : b.checkSet E o netmap = .ok (tags, edit))
      (hdev : b.device = some dev)
      (hneeds : (o.withTags tags).needsRebuild = false)
      (hresult : ∀ renameError, result ≠ .ok ⟨.rebuild, renameError⟩)
      (hb : DiskOnly
        { b.setResult E o tags edit with
          device := some (pushOps dev
            (liveOps E (o.withTags tags) (b.setResult E o tags edit).prefs)
            io.setterFails) } b') :
      SetCase E b o netmap io (result, b')

theorem setResult_device (E : Env) (b : Backend) (o : SetOptions) (tags : Option (List String))
    (edit : ExitNodeEdit) : (b.setResult E o tags edit).device = b.device := by
  rw [setResult, applySet_eq]

/-- What the reconcile step of `begin_set` can do. -/
theorem reconcileEngine_cases (E : Env) (b : Backend) (o : SetOptions) (io : Io) :
    (b.device = none ∧ b.reconcileEngine E o io = (.ok .persistedOnly, b)) ∨
    (∃ dev, b.device = some dev ∧ o.needsRebuild = true ∧
      b.reconcileEngine E o io = (.ok .rebuild, b)) ∨
    (∃ dev, b.device = some dev ∧ o.needsRebuild = false ∧
      (b.reconcileEngine E o io).1 ≠ .ok .rebuild ∧
      (b.reconcileEngine E o io).2 =
        { b with device := some (pushOps dev (liveOps E o b.prefs) io.setterFails) }) := by
  unfold reconcileEngine
  rcases hd : b.device with _ | dev
  · exact .inl ⟨rfl, rfl⟩
  · right
    dsimp only
    cases hneeds : o.needsRebuild with
    | true => exact .inl ⟨dev, rfl, rfl, rfl⟩
    | false =>
      refine .inr ⟨dev, rfl, rfl, ?_⟩
      simp only [Bool.false_eq_true, if_false]
      split
      · exact ⟨by simp, rfl⟩
      · exact ⟨by simp, rfl⟩

/-- **What `begin_set` can do.** -/
theorem beginSet_cases (E : Env) (b : Backend) (o : SetOptions) (netmap : ExitNodeFacts) (io : Io) :
    SetCase E b o netmap io (b.beginSet E o netmap io) := by
  unfold beginSet
  rcases hcheck : b.checkSet E o netmap with e | ⟨tags, edit⟩
  · exact .refused hcheck
  · dsimp only
    have hb1 := persistPrefs_diskOnly (b.setResult E o tags edit) io
    rcases hp : (b.applySet E (o.withTags tags) edit).persistPrefs io with ⟨f | u, b1⟩
    · rw [setResult, hp] at hb1
      exact .failed hcheck (persistPrefs_error hp).2 hb1
    · rw [setResult, hp] at hb1
      dsimp only
      have hb2 := hb1.trans (renameSection_diskOnly b1 o.nickname io)
      rcases hr : b1.renameSection o.nickname io with ⟨renameError, b2⟩
      rw [hr] at hb2
      dsimp only
      have hdev := hb2.device.trans (setResult_device E b o tags edit)
      have hprefs := hb2.prefs
      rcases reconcileEngine_cases E b2 (o.withTags tags) io with ⟨hd, hrec⟩ |
        ⟨dev, hd, hneeds, hrec⟩ | ⟨dev, hd, hneeds, hne, hrec⟩
      · rw [hrec]
        exact .persistedOnly hcheck (hdev ▸ hd) hb2
      · rw [hrec]
        exact .rebuild hcheck (hdev ▸ hd) hneeds hb2
      · have hpush : DiskOnly
            { b.setResult E o tags edit with
              device := some (pushOps dev
                (liveOps E (o.withTags tags) (b.setResult E o tags edit).prefs)
                io.setterFails) } (b2.reconcileEngine E (o.withTags tags) io).2 := by
          rw [hrec, hprefs]
          obtain ⟨disk, ticks, key, hsound, rfl⟩ := hb2
          exact ⟨disk, ticks, key, hsound, rfl⟩
        rcases hres : b2.reconcileEngine E (o.withTags tags) io with ⟨f | action, b3⟩
        · rw [hres] at hpush
          exact .live hcheck (hdev ▸ hd) hneeds (fun _ h => by cases h) hpush
        · rw [hres] at hpush hne
          refine .live hcheck (hdev ▸ hd) hneeds ?_ hpush
          rintro _ h
          cases h
          exact hne rfl

/-! ## The outcomes of a disconnect -/

/-- The memory a permitted `down` leaves. -/
def downResult (E : Env) (b : Backend) : Backend :=
  b.stopDevice.bumpGeneration.clearIntent.disconnectEdge E b.prefs.wantRunning

/-- The memory a `logout` leaves once the key is gone. -/
def logoutResult (E : Env) (b : Backend) : Backend :=
  b.stopDevice.bumpGeneration.clearLogin.disconnectEdge E b.prefs.wantRunning

/-- The reconnect timer and its sequence number after a disconnect. -/
def timerAfter (E : Env) (b : Backend) (wasRunning : Bool) : Option ReconnectTimer × Nat :=
  match wasRunning, reconnectAfterIn E.settings with
  | true, some after => (some ⟨b.reconnectSeq + 1, b.currentProfile, after⟩, b.reconnectSeq + 1)
  | _, _ => (b.reconnect, b.reconnectSeq)

/-- What a disconnect's edge writes. -/
theorem disconnectEdge_eq (E : Env) (b : Backend) (wasRunning : Bool) :
    b.disconnectEdge E wasRunning =
      { b with
        overrideAlwaysOn := wasRunning || b.overrideAlwaysOn
        reconnect := (b.timerAfter E wasRunning).1
        reconnectSeq := (b.timerAfter E wasRunning).2
        overrideExitNodePolicy := false } := by
  unfold disconnectEdge onPermittedDisconnect timerAfter
  cases wasRunning
  · rfl
  · cases reconnectAfterIn E.settings <;> rfl

/-- What a permitted `down` leaves in memory. -/
theorem downResult_eq (E : Env) (b : Backend) :
    b.downResult E =
      { b with
        device := none
        sshTask := false
        generation := b.generation + 1
        prefs := { b.prefs with wantRunning := false }
        everConfigured := true
        overrideAlwaysOn := b.prefs.wantRunning || b.overrideAlwaysOn
        reconnect := (b.timerAfter E b.prefs.wantRunning).1
        reconnectSeq := (b.timerAfter E b.prefs.wantRunning).2
        overrideExitNodePolicy := false } := by
  unfold downResult
  rw [disconnectEdge_eq]
  rfl

/-- What a `logout` leaves in memory. -/
theorem logoutResult_eq (E : Env) (b : Backend) :
    b.logoutResult E =
      { b with
        device := none
        sshTask := false
        generation := b.generation + 1
        prefs := { b.prefs with wantRunning := false, loggedOut := true, hasLoggedIn := false }
        everConfigured := true
        overrideAlwaysOn := b.prefs.wantRunning || b.overrideAlwaysOn
        reconnect := (b.timerAfter E b.prefs.wantRunning).1
        reconnectSeq := (b.timerAfter E b.prefs.wantRunning).2
        overrideExitNodePolicy := false } := by
  unfold logoutResult
  rw [disconnectEdge_eq]
  rfl

/-- A disconnect's edge does not look at the disk. -/
theorem disconnectEdge_diskOnly {b b' : Backend} (h : DiskOnly b b') (E : Env) (wasRunning : Bool) :
    DiskOnly (b.disconnectEdge E wasRunning) (b'.disconnectEdge E wasRunning) := by
  obtain ⟨disk, ticks, key, hsound, rfl⟩ := h
  unfold disconnectEdge onPermittedDisconnect
  cases wasRunning
  · exact ⟨disk, ticks, key, hsound, rfl⟩
  · cases reconnectAfterIn E.settings <;> exact ⟨disk, ticks, key, hsound, rfl⟩

/-- **What `down` can do**: be refused, or tear down and clear the intent. -/
theorem down_cases (E : Env) (b : Backend) (actor : Actor) (io : Io) :
    (∃ e, b.checkDisconnectPolicy E actor = .error e ∧
      b.down E actor io = (.error (.refused e), b)) ∨
    (b.checkDisconnectPolicy E actor = .ok () ∧
      DiskOnly (b.downResult E) (b.down E actor io).2 ∧
      ((b.down E actor io).1 = .ok () ∨ ∃ m, (b.down E actor io).1 = .error (.io m))) := by
  unfold down
  rcases hcheck : b.checkDisconnectPolicy E actor with e | u
  · exact .inl ⟨e, rfl, rfl⟩
  · refine .inr ⟨rfl, persistPrefs_diskOnly _ io, ?_⟩
    change ((b.downResult E).persistPrefs io).1 = _ ∨ ∃ m, ((b.downResult E).persistPrefs io).1 = _
    rcases hp : (b.downResult E).persistPrefs io with ⟨f | u, b1⟩
    · obtain ⟨⟨m, rfl⟩, -⟩ := persistPrefs_error hp
      exact .inr ⟨m, rfl⟩
    · exact .inl rfl

/-- **What `logout` can do**: be refused, fail on the key with the engine gone, or tear down and
    record the logout. -/
theorem logout_cases (E : Env) (b : Backend) (actor : Actor) (io : Io) :
    (∃ e, b.checkDisconnectPolicy E actor = .error e ∧
      b.logout E actor io = (.error (.refused e), b)) ∨
    (b.checkDisconnectPolicy E actor = .ok () ∧ io.removeKey = false ∧
      ∃ m, b.logout E actor io = (.error (.io m), b.stopDevice.bumpGeneration)) ∨
    (b.checkDisconnectPolicy E actor = .ok () ∧
      DiskOnly (b.logoutResult E) (b.logout E actor io).2 ∧
      ((b.logout E actor io).1 = .ok () ∨ ∃ m, (b.logout E actor io).1 = .error (.io m))) := by
  unfold logout
  rcases hcheck : b.checkDisconnectPolicy E actor with e | u
  · exact .inl ⟨e, rfl, rfl⟩
  · right
    dsimp only
    have hb1 := discardNodeKey_diskOnly b.stopDevice.bumpGeneration io
    by_cases hremove : io.removeKey = false
    · refine .inl ⟨rfl, hremove, "could not discard the node key", ?_⟩
      simp [discardNodeKey, hremove]
    · rcases hd : b.stopDevice.bumpGeneration.discardNodeKey io with ⟨f | u, b1⟩
      · exact absurd (by unfold discardNodeKey at hd; split at hd <;> simp_all) hremove
      · rw [hd] at hb1
        refine .inr ⟨rfl, ?_, ?_⟩
        · have hclear : DiskOnly (b.logoutResult E)
              (b1.clearLogin.disconnectEdge E b.prefs.wantRunning) := by
            refine disconnectEdge_diskOnly ?_ E _
            obtain ⟨disk, ticks, key, hsound, rfl⟩ := hb1
            exact ⟨disk, ticks, key, hsound, rfl⟩
          exact hclear.trans (persistPrefs_diskOnly _ io)
        · dsimp only
          rcases hp : (b1.clearLogin.disconnectEdge E b.prefs.wantRunning).persistPrefs io with
            ⟨f | u, b2⟩
          · obtain ⟨⟨m, rfl⟩, -⟩ := persistPrefs_error hp
            exact .inr ⟨m, rfl⟩
          · exact .inl rfl

/-! ## A policy tick -/

/-- A moved always-on key ends the exemption and the timer. -/
theorem sysPolicyChanged_eq (b : Backend) (current : AlwaysOnKeys) :
    b.sysPolicyChanged current =
      { b with
        alwaysOnKeys := current
        overrideAlwaysOn := decide (current = b.alwaysOnKeys) && b.overrideAlwaysOn
        reconnect := if current = b.alwaysOnKeys then b.reconnect else none } := by
  unfold sysPolicyChanged
  by_cases h : current = b.alwaysOnKeys
  · simp only [h, if_true, decide_true, Bool.true_and]
  · simp only [h, if_false, decide_false, Bool.false_and]
    rfl

/-- A moved exit-node key ends the exemption. -/
theorem exitNodePolicyChanged_eq (b : Backend) (current : ExitNodeKeys) :
    b.exitNodePolicyChanged current =
      { b with
        exitNodeKeys := current
        overrideExitNodePolicy :=
          decide (current = b.exitNodeKeys) && b.overrideExitNodePolicy } := by
  unfold exitNodePolicyChanged
  by_cases h : current = b.exitNodeKeys
  · simp only [h, if_true, decide_true, Bool.true_and]
  · simp only [h, if_false, decide_false, Bool.false_and]
    rfl

/-! ## The outcomes of a config merge -/

/-- **What `apply_config` can do.** -/
theorem applyConfig_cases (E : Env) (b : Backend) (c : ConfigVAlpha) (contents : Option String)
    (io : Io) :
    (∃ e, c.validate E.host b.prefs = .error e ∧
      b.applyConfig E c contents io = (.error (.refused e), b)) ∨
    (∃ f, c.validate E.host b.prefs = .ok () ∧ c.registrationKey contents = .error f ∧
      b.applyConfig E c contents io = (.error f, { b with prefs := c.merge b.prefs })) ∨
    (∃ key, c.validate E.host b.prefs = .ok () ∧ c.registrationKey contents = .ok key ∧
      DiskOnly (b.configured E c) (b.applyConfig E c contents io).2 ∧
      ((b.applyConfig E c contents io).1 = .ok key ∨
        (∃ f, (b.applyConfig E c contents io).1 = .error f) ∧
          (io.savePrefs = false ∨ io.saveProfiles = false))) := by
  unfold applyConfig
  cases hvalid : c.validate E.host b.prefs with
  | error e =>
    rw [applyToPrefs_refused hvalid]
    exact .inl ⟨e, rfl, rfl⟩
  | ok u =>
    right
    rw [applyToPrefs_valid hvalid]
    cases hkey : c.registrationKey contents with
    | error f => exact .inl ⟨f, rfl, rfl, rfl⟩
    | ok key =>
      refine .inr ⟨key, rfl, rfl, ?_⟩
      have hb := persistPrefs_diskOnly (b.configured E c) io
      dsimp only
      rcases hp : (b.adoptPrefs E (c.merge b.prefs)).persistPrefs io with ⟨f | u, b1⟩
      · rw [configured, hp] at hb
        exact ⟨hb, .inr ⟨⟨f, rfl⟩, (persistPrefs_error hp).2⟩⟩
      · rw [configured, hp] at hb
        exact ⟨hb, .inl rfl⟩

/-- The outcomes of `reload_config`. -/
inductive ReloadCase (E : Env) (b : Backend) (document : Except Failure ConfigVAlpha)
    (contents : Option String) (io : Io) : Outcome (Option ReloadAction) → Prop
  /-- No config in use, or a document that does not load or is refused: nothing happened. -/
  | kept {result : Except Failure (Option ReloadAction)}
      (hresult : ∀ action, result ≠ .ok (some action)) : ReloadCase E b document contents io (result, b)
  /-- The registration key did not resolve: the prefs are merged and nothing else happened. -/
  | keyFailed {c : ConfigVAlpha} {f : Failure} {path : String}
      (hsource : b.configSource = some (.file path)) (hdoc : document = .ok c)
      (hvalid : c.validate E.host b.prefs = .ok ()) (hkey : c.registrationKey contents = .error f) :
      ReloadCase E b document contents io (.error f, { b with prefs := c.merge b.prefs })
  /-- The persist failed after the merge. -/
  | failed {c : ConfigVAlpha} {f : Failure} {path : String} {b' : Backend}
      (hsource : b.configSource = some (.file path)) (hdoc : document = .ok c)
      (hvalid : c.validate E.host b.prefs = .ok ())
      (hfail : io.savePrefs = false ∨ io.saveProfiles = false)
      (hb : DiskOnly (b.configured E c) b') (hkey : (c.registrationKey contents).isOk = true) :
      ReloadCase E b document contents io (.error f, b')
  | applied {c : ConfigVAlpha} {path : String} {b' : Backend}
      (hsource : b.configSource = some (.file path)) (hdoc : document = .ok c)
      (hvalid : c.validate E.host b.prefs = .ok ()) (hb : DiskOnly (b.configured E c) b')
      (hkey : (c.registrationKey contents).isOk = true) :
      ReloadCase E b document contents io (.ok (some (b.configured E c).reloadAction), b')

/-- **What `reload_config` can do.** -/
theorem reloadConfig_cases (E : Env) (b : Backend) (document : Except Failure ConfigVAlpha)
    (contents : Option String) (io : Io) :
    ReloadCase E b document contents io (b.reloadConfig E document contents io) := by
  unfold reloadConfig
  cases hsource : b.configSource with
  | none => exact .kept (by simp)
  | some source =>
    dsimp only
    cases hload : loadConfig source document with
    | error e => exact .kept (by simp)
    | ok c =>
      obtain ⟨path, rfl⟩ : ∃ path, source = .file path := by
        cases source with
        | file path => exact ⟨path, rfl⟩
        | vmUserData => cases hload
      have hdoc : document = .ok c := hload
      dsimp only
      rcases applyConfig_cases E b c contents io with ⟨e, -, happly⟩ |
        ⟨f, hvalid, hkey, happly⟩ | ⟨key, hvalid, hkey, hb, hres⟩
      · rw [happly]
        exact .kept (by simp)
      · rw [happly]
        exact .keyFailed hsource hdoc hvalid hkey
      · have hresolved : (c.registrationKey contents).isOk = true := by
          rw [hkey]
          rfl
        rcases happly : b.applyConfig E c contents io with ⟨f | k, b1⟩
        · rw [happly] at hb hres
          rcases hres with hres | ⟨-, hfail⟩
          · cases hres
          · exact .failed hsource hdoc hvalid hfail hb hresolved
        · rw [happly] at hb
          have haction : b1.reloadAction = (b.configured E c).reloadAction := by
            obtain ⟨disk, ticks, key, -, rfl⟩ := hb
            rfl
          dsimp only
          rw [haction]
          exact .applied hsource hdoc hvalid hb hresolved

/-! ## The outcomes of a profile change -/

/-- The outcomes of the profile operations. -/
inductive ProfileCase (E : Env) (b : Backend) : Outcome SwitchOutcome → Prop
  /-- Refused, already there, or failed before anything was torn down. -/
  | kept {result : Except Failure SwitchOutcome} {b' : Backend}
      (hresult : ∀ id state, result ≠ .ok (.switched id state)) (hb : DiskOnly b b') :
      ProfileCase E b (result, b')
  /-- Failed with the engine torn down. -/
  | failed {m : String} {b' : Backend} (hb : DiskOnly b.stopDevice.bumpGeneration b') :
      ProfileCase E b (.error (.io m), b')
  | activated {id : String} {state : State} {prefs : Prefs} {everConfigured hasNodeKey : Bool}
      {b' : Backend} (hne : id ≠ b.currentProfile)
      (hb : DiskOnly
        (b.stopDevice.bumpGeneration.adoptProfile E id prefs everConfigured hasNodeKey) b') :
      ProfileCase E b (.ok (.switched id state), b')
  | emptied {state : State} {b' : Backend}
      (hb : DiskOnly (b.stopDevice.bumpGeneration.emptyProfile E) b') :
      ProfileCase E b (.ok (.switched b.currentProfile state), b')

theorem listProfile_diskOnly (b : Backend) (target : String) (register : Bool) (io : Io) :
    DiskOnly b (b.listProfile target register io).2 := by
  unfold listProfile
  split
  · split
    · exact .refl b
    · exact setProfiles_diskOnly b _
  · exact .refl b

theorem savePointer_diskOnly (b : Backend) (target : String) (io : Io) :
    DiskOnly b (b.savePointer target io).2 := by
  unfold savePointer
  split
  · exact .refl b
  · refine ⟨_, b.prefsTicks, b.hasNodeKey, ?_, rfl⟩
    exact fun _ h => h

/-- Listing and moving the pointer only touch the disk, and only fail on it. -/
theorem recordActivation_cases (b : Backend) (target : String) (register : Bool) (io : Io) :
    DiskOnly b (b.recordActivation target register io).2 ∧
    ∀ f, (b.recordActivation target register io).1 = .error f → ∃ m, f = .io m := by
  have hb := listProfile_diskOnly b target register io
  have hlist : ∀ f, (b.listProfile target register io).1 = .error f → ∃ m, f = .io m := by
    intro f
    unfold listProfile
    split
    · split
      · rintro ⟨⟩
        exact ⟨_, rfl⟩
      · rintro ⟨⟩
    · rintro ⟨⟩
  unfold recordActivation
  rcases hl : b.listProfile target register io with ⟨f | u, b1⟩
  · rw [hl] at hb hlist
    exact ⟨hb, fun g hg => hlist g hg⟩
  · rw [hl] at hb
    refine ⟨hb.trans (savePointer_diskOnly b1 target io), ?_⟩
    intro f
    dsimp only
    unfold savePointer
    split
    · rintro ⟨⟩
      exact ⟨_, rfl⟩
    · rintro ⟨⟩

/-- The in-memory swap does not look at the disk. -/
theorem adoptProfile_diskOnly {b b' : Backend} (h : DiskOnly b b') (E : Env) (target : String)
    (prefs : Prefs) (everConfigured hasNodeKey : Bool) :
    DiskOnly (b.adoptProfile E target prefs everConfigured hasNodeKey)
      (b'.adoptProfile E target prefs everConfigured hasNodeKey) := by
  obtain ⟨disk, ticks, key, hsound, rfl⟩ := h
  exact ⟨disk, ticks, hasNodeKey, hsound, rfl⟩

theorem emptyProfile_diskOnly {b b' : Backend} (h : DiskOnly b b') (E : Env) :
    DiskOnly (b.emptyProfile E) (b'.emptyProfile E) := by
  obtain ⟨disk, ticks, key, hsound, rfl⟩ := h
  exact ⟨disk, ticks + 1, key, hsound, rfl⟩

/-- **What `activate_profile` can do.** -/
theorem activateProfile_cases (E : Env) (b : Backend) (target : String) (register : Bool)
    (io : Io) : ProfileCase E b (b.activateProfile E target register io) := by
  unfold activateProfile
  by_cases hcur : target = b.currentProfile
  · rw [if_pos hcur]
    exact .kept (by simp) (.refl b)
  · rw [if_neg hcur]
    dsimp only
    split
    · exact .failed (.refl _)
    · obtain ⟨hb, hio⟩ := recordActivation_cases b.stopDevice.bumpGeneration target register io
      rcases hrec : b.stopDevice.bumpGeneration.recordActivation target register io with
        ⟨f | u, b1⟩
      · rw [hrec] at hb hio
        obtain ⟨m, rfl⟩ := hio f rfl
        exact .failed hb
      · rw [hrec] at hb
        exact .activated hcur (adoptProfile_diskOnly hb E target _ _ _)

theorem switchProfile_cases (E : Env) (b : Backend) (target : String) (io : Io) :
    ProfileCase E b (b.switchProfile E target io) := by
  unfold switchProfile
  split
  · exact .kept (by simp) (.refl b)
  · exact activateProfile_cases E b _ true io

theorem createProfile_cases (E : Env) (b : Backend) (id : String) (io : Io) :
    ProfileCase E b (b.createProfile E id io) := by
  unfold createProfile
  split
  · exact .kept (by simp) (.refl b)
  · split
    · exact .kept (by simp) (.refl b)
    · exact activateProfile_cases E b id true io

theorem resetToEmptyProfile_cases (E : Env) (b : Backend) (io : Io) :
    ProfileCase E b (b.resetToEmptyProfile E io) := by
  unfold resetToEmptyProfile
  dsimp only
  split
  · exact .kept (by simp) (.refl b)
  · split
    · exact .failed (.refl _)
    · -- the name is cleared first, when there is one
      have hb : DiskOnly b.stopDevice.bumpGeneration
          (if (profileName (b.disk.loadProfiles io) b.currentProfile).any fun name => !name.isEmpty
            then b.stopDevice.bumpGeneration.setProfiles
              (setProfileName b.stopDevice.bumpGeneration.currentProfile ""
                (b.disk.loadProfiles io))
            else b.stopDevice.bumpGeneration) := by
        split
        · exact setProfiles_diskOnly _ _
        · exact .refl _
      split
      · exact .failed hb
      · have hempty := emptyProfile_diskOnly (hb.trans (setPrefsFile_diskOnly _ none)) E
        have hid := hempty
        obtain ⟨disk, ticks, key, -, hid⟩ := hid
        rw [hid]
        exact .emptied (hid ▸ hempty)

/-- A profile change seen from a backend that differs on the disk only. -/
theorem ProfileCase.of_diskOnly {E : Env} {b b1 : Backend} {outcome : Outcome SwitchOutcome}
    (h : DiskOnly b b1) (hcase : ProfileCase E b1 outcome) : ProfileCase E b outcome := by
  have hstop : DiskOnly b.stopDevice.bumpGeneration b1.stopDevice.bumpGeneration := by
    obtain ⟨disk, ticks, key, hsound, rfl⟩ := h
    exact ⟨disk, ticks, key, hsound, rfl⟩
  have hprofile : b1.currentProfile = b.currentProfile := by
    obtain ⟨disk, ticks, key, -, rfl⟩ := h
    rfl
  cases hcase with
  | kept hresult hb => exact .kept hresult (h.trans hb)
  | failed hb => exact .failed (hstop.trans hb)
  | activated hne hb =>
    exact .activated (hprofile ▸ hne) ((adoptProfile_diskOnly hstop E _ _ _ _).trans hb)
  | emptied hb =>
    rw [hprofile]
    exact .emptied ((emptyProfile_diskOnly hstop E).trans hb)

theorem switchToEmptyProfile_cases (E : Env) (b : Backend) (draw : Nat → Option (UInt8 × UInt8))
    (io : Io) : ProfileCase E b (b.switchToEmptyProfile E draw io) := by
  unfold switchToEmptyProfile
  split
  · exact resetToEmptyProfile_cases E b io
  · dsimp only
    split
    · exact .kept (by simp) (.refl b)
    · exact .kept (by simp) (.refl b)
    · rename_i id _
      have hb := removeProfileFiles_diskOnly b id io
      rcases hrm : b.removeProfileFiles id io with ⟨f | u, b1⟩
      · rw [hrm] at hb
        exact .kept (by simp) hb
      · rw [hrm] at hb
        exact .of_diskOnly hb (activateProfile_cases E b1 id false io)

/-! ## The outcomes of the last section of a bring-up -/

/-- **What `finish_up` and its persist can do**: hand back or drop a stale engine, fail with the
    build, or install. -/
theorem finishSection_cases (E : Env) (b : Backend) (pending : PendingUp)
    (built : Except Failure Device) (io : Io) :
    (pending.generation ≠ b.generation ∧ (b.finishSection E pending built io).1 = .ok built.toOption ∧
      DiskOnly b (b.finishSection E pending built io).2) ∨
    (pending.generation = b.generation ∧ ∃ e, built = .error e ∧
      b.finishSection E pending built io = (.error e, b)) ∨
    (pending.generation = b.generation ∧ ∃ dev, built = .ok dev ∧
      (b.finishSection E pending built io).1 = .ok none ∧
      DiskOnly (b.install E dev) (b.finishSection E pending built io).2) := by
  unfold finishSection finishUp
  by_cases hgen : pending.generation = b.generation
  · right
    simp only [hgen, ne_eq, not_true_eq_false, if_false, true_and]
    cases built with
    | error e => exact .inl ⟨e, rfl, rfl⟩
    | ok dev => exact .inr ⟨dev, rfl, rfl, persistPrefs_diskOnly _ io⟩
  · left
    simp only [ne_eq, hgen, not_false_eq_true, if_true, true_and]
    cases built with
    | error e => exact ⟨rfl, persistPrefs_diskOnly b io⟩
    | ok dev => exact ⟨rfl, .refl b⟩

end Backend

end Tailnetd
