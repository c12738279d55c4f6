/-
  What the profile operations may lose.

  An activation reads and writes the disk before it commits the swap, so one that fails leaves the
  profile it started from, in memory and under the pointer (`SameProfile`).  The pointer moves only
  to an id that can be read back (`PointerAgrees`): the ids an operation activates are validated
  before, and a valid id survives the trimming of the reader.  A removal spares the current and the
  default profile; the switch to an empty profile spares every profile it can see, except that a
  current profile which never logged in is emptied in place.
-/
import Tailnetd.Files

namespace Tailnetd

open Machine

/-! ## Reading the pointer back -/

/-- An id has no blank in it. -/
theorem not_isWhitespace_of_id {c : Char}
    (h : (isAsciiAlphanumeric c || c == '-' || c == '_') = true) : isWhitespace c = false := by
  have hrange : (97 ≤ c.toNat ∧ c.toNat ≤ 122) ∨ (65 ≤ c.toNat ∧ c.toNat ≤ 90) ∨
      (48 ≤ c.toNat ∧ c.toNat ≤ 57) ∨ c.toNat = 45 ∨ c.toNat = 95 := by
    rw [Bool.or_eq_true, Bool.or_eq_true, beq_iff_eq, beq_iff_eq] at h
    rcases h with (halnum | rfl) | rfl
    · unfold isAsciiAlphanumeric isAsciiAlphabetic at halnum
      simp only [Bool.or_eq_true, Bool.and_eq_true, decide_eq_true_eq, Char.le_def,
        UInt32.le_iff_toNat_le] at halnum
      rcases halnum with (hlower | hupper) | hdigit
      · exact .inl hlower
      · exact .inr (.inl hupper)
      · exact .inr (.inr (.inl hdigit))
    · exact .inr (.inr (.inr (.inl rfl)))
    · exact .inr (.inr (.inr (.inr rfl)))
  unfold isWhitespace
  simp only [Bool.or_eq_false_iff, Bool.and_eq_false_iff, decide_eq_false_iff_not, beq_eq_false_iff_ne]
  omega

/-- Nothing is trimmed from a word without blanks. -/
theorem trim_eq_self {s : String} (h : ∀ c ∈ s.toList, isWhitespace c = false) : trim s = s := by
  have hkept : ∀ l : List Char, (∀ c ∈ l, isWhitespace c = false) → l.dropWhile isWhitespace = l := by
    intro l hl
    cases l with
    | nil => rfl
    | cons c l => rw [List.dropWhile_cons, hl c List.mem_cons_self, if_neg Bool.false_ne_true]
  unfold trim
  rw [hkept _ h, hkept _ fun c hc => h c (List.mem_reverse.mp hc), List.reverse_reverse,
    String.ofList_toList]

/-- The pointer to a usable id reads back as that id. -/
theorem loadCurrentProfile_some {id : String} (h : isValidProfileId id = true) :
    loadCurrentProfile (some id) = id := by
  have hchars : ∀ c ∈ id.toList, isWhitespace c = false := by
    intro c hc
    have hall := (Bool.and_eq_true _ _ ▸ h).2
    exact not_isWhitespace_of_id (List.all_eq_true.mp hall c hc)
  unfold loadCurrentProfile
  dsimp only
  rw [trim_eq_self hchars, if_pos h]

/-! ## The frames -/

/-- Nothing a profile is known by changed. -/
structure SameProfile (b b' : Backend) : Prop where
  profile : b'.currentProfile = b.currentProfile
  prefs : b'.prefs = b.prefs
  everConfigured : b'.everConfigured = b.everConfigured
  hasNodeKey : b'.hasNodeKey = b.hasNodeKey
  overrideAlwaysOn : b'.overrideAlwaysOn = b.overrideAlwaysOn
  overrideExitNodePolicy : b'.overrideExitNodePolicy = b.overrideExitNodePolicy
  pointer : b'.disk.currentProfile = b.disk.currentProfile

/-- The files of one profile are as they were. -/
def SameFiles (b b' : Backend) (id : String) : Prop :=
  b'.disk.prefsFile id = b.disk.prefsFile id ∧ b'.disk.keyFile id = b.disk.keyFile id

/-- The pointer on the disk stands for the current profile. -/
def PointerAgrees (b : Backend) : Prop :=
  loadCurrentProfile b.disk.currentProfile = b.currentProfile

/-- A profile `switch_to_empty_profile` can see: the current one, or one listed in a
    `profiles.json` that can be read. -/
def Backend.Known (b : Backend) (io : Io) (id : String) : Prop :=
  id = b.currentProfile ∨ (io.readProfiles = true ∧ (profileName b.disk.profiles id).isSome = true)

theorem OwnFiles.pointerAgrees {b b' : Backend} (h : OwnFiles b b') (hb : PointerAgrees b) :
    PointerAgrees b' := by
  unfold PointerAgrees
  rw [h.pointer, h.profile]
  exact hb

namespace Backend

/-- An activation that fails leaves the profile it started from. -/
theorem activateProfile_failed {E : Env} {b b' : Backend} {target : String} {register : Bool}
    {io : Io} {f : Failure} (h : b.activateProfile E target register io = (.error f, b')) :
    SameProfile b b' := by
  rcases activateProfile_outcomes E b target register io with ⟨-, hres⟩ | ⟨-, f', profiles, hres⟩ |
    ⟨-, state, profiles, hres⟩ <;> rw [hres] at h <;> cases h
  exact ⟨rfl, rfl, rfl, rfl, rfl, rfl, rfl⟩

/-- An activation writes no file of a profile. -/
theorem activateProfile_files (E : Env) (b : Backend) (target : String) (register : Bool) (io : Io)
    (id : String) : SameFiles b (b.activateProfile E target register io).2 id := by
  rcases activateProfile_outcomes E b target register io with ⟨-, hres⟩ | ⟨-, f, profiles, hres⟩ |
    ⟨-, state, profiles, hres⟩ <;> rw [hres] <;> exact ⟨rfl, rfl⟩

theorem activateProfile_pointer {E : Env} {b : Backend} {target : String} (register : Bool) (io : Io)
    (hvalid : isValidProfileId target = true) (h : PointerAgrees b) :
    PointerAgrees (b.activateProfile E target register io).2 := by
  rcases activateProfile_outcomes E b target register io with ⟨-, hres⟩ | ⟨-, f, profiles, hres⟩ |
    ⟨-, state, profiles, hres⟩ <;> rw [hres]
  · exact h
  · exact h
  · exact loadCurrentProfile_some hvalid

/-- A removal touches the files of its own id only. -/
theorem removeProfileFiles_files (b : Backend) {id id' : String} (hne : id' ≠ id) (io : Io) :
    SameFiles b (b.removeProfileFiles id io).2 id' := by
  rcases removeProfileFiles_outcomes b id io with ⟨f, h⟩ | ⟨f, h⟩ | h <;> rw [h]
  · exact ⟨rfl, rfl⟩
  · exact ⟨Function.update_of_ne hne _ _, rfl⟩
  · exact ⟨Function.update_of_ne hne _ _, Function.update_of_ne hne _ _⟩

theorem removeProfileFiles_pointer {b : Backend} {id : String} (hid : id ≠ b.currentProfile) (io : Io)
    (h : PointerAgrees b) : PointerAgrees (b.removeProfileFiles id io).2 := by
  obtain ⟨hprofile, -⟩ := removeProfileFiles_current hid io
  unfold PointerAgrees
  rw [hprofile]
  rcases removeProfileFiles_outcomes b id io with ⟨f, hrm⟩ | ⟨f, hrm⟩ | hrm <;> rw [hrm] <;> exact h

/-- A deletion spares the current and the default profile. -/
theorem deleteProfile_files (b : Backend) (target : String) (io : Io) {id : String}
    (hid : id = b.currentProfile ∨ id = defaultProfileId) :
    SameFiles b (b.deleteProfile target io).2 id := by
  rcases deleteProfile_outcomes b target io with ⟨hsame, -⟩ | ⟨gone, -, hcur, hdefault, hrest⟩
  · rw [hsame]
    exact ⟨rfl, rfl⟩
  · have hne : id ≠ gone := by
      rcases hid with rfl | rfl
      · exact fun heq => hcur heq.symm
      · exact fun heq => hdefault heq.symm
    have hremoved := removeProfileFiles_files b hne io
    rcases hrest with ⟨f, hres⟩ | ⟨-, result, profiles, -, hres⟩ <;> rw [hres] <;> exact hremoved

theorem deleteProfile_pointer {b : Backend} (target : String) (io : Io) (h : PointerAgrees b) :
    PointerAgrees (b.deleteProfile target io).2 := by
  rcases deleteProfile_outcomes b target io with ⟨hsame, -⟩ | ⟨id, -, hcur, -, hrest⟩
  · rw [hsame]
    exact h
  · have hremoved := removeProfileFiles_pointer hcur io h
    rcases hrest with ⟨f, hres⟩ | ⟨-, result, profiles, -, hres⟩ <;> rw [hres] <;> exact hremoved

/-- The switch to an empty profile of a node that logged in spares the profiles it can see. -/
theorem switchToEmptyProfile_files {E : Env} {b : Backend} (draw : Nat → Option (UInt8 × UInt8))
    (io : Io) (hlogin : b.prefs.hasLoggedIn = true) {id : String} (hid : b.Known io id) :
    SameFiles b (b.switchToEmptyProfile E draw io).2 id := by
  rcases switchToEmptyProfile_outcomes E b draw io with ⟨hnew, -⟩ | ⟨f, hres⟩ |
    ⟨fresh, -, -, -, -, hcur, hunlisted, hrest⟩
  · rw [hlogin] at hnew
    cases hnew
  · rw [hres]
    exact ⟨rfl, rfl⟩
  · have hne : id ≠ fresh := by
      rcases hid with rfl | ⟨hread, hlisted⟩
      · exact fun heq => hcur heq.symm
      · rintro rfl
        unfold Disk.loadProfiles at hunlisted
        rw [if_pos hread] at hunlisted
        rw [hunlisted] at hlisted
        cases hlisted
    have hremoved := removeProfileFiles_files b hne io
    rcases hrest with ⟨f, hres⟩ | ⟨-, hres⟩ <;> rw [hres]
    · exact hremoved
    · have hactive := activateProfile_files E (b.removeProfileFiles fresh io).2 fresh false io id
      exact ⟨hactive.1.trans hremoved.1, hactive.2.trans hremoved.2⟩

/-- The reset in place of a profile that never logged in empties its prefs file at most. -/
theorem switchToEmptyProfile_reset {E : Env} {b : Backend} (draw : Nat → Option (UInt8 × UInt8))
    (io : Io) (hnew : b.prefs.hasLoggedIn = false) : Edits b (b.switchToEmptyProfile E draw io).2 := by
  unfold switchToEmptyProfile
  rw [hnew]
  exact resetToEmptyProfile_edits E b io

theorem switchToEmptyProfile_pointer {E : Env} {b : Backend} (draw : Nat → Option (UInt8 × UInt8))
    (io : Io) (h : PointerAgrees b) : PointerAgrees (b.switchToEmptyProfile E draw io).2 := by
  rcases switchToEmptyProfile_outcomes E b draw io with ⟨-, hres⟩ | ⟨f, hres⟩ |
    ⟨fresh, -, -, hvalid, -, hcur, -, hrest⟩
  · rw [hres]
    exact (resetToEmptyProfile_edits E b io).ownFiles.pointerAgrees h
  · rw [hres]
    exact h
  · have hremoved := removeProfileFiles_pointer hcur io h
    rcases hrest with ⟨f, hres⟩ | ⟨-, hres⟩ <;> rw [hres]
    · exact hremoved
    · exact activateProfile_pointer false io hvalid hremoved

end Backend

/-! ## Runs -/

/-- Every step keeps the pointer on the current profile. -/
theorem pointerAgrees_step {H : Host} {d d' : Daemon} {e : Event} (h : PointerAgrees d.backend)
    (hstep : Daemon.step H d e = some d') : PointerAgrees d'.backend := by
  by_cases hchange : e.changesProfile = true
  · cases e with
    | switchProfile target io =>
      cases hstep
      rw [Daemon.changeProfile_backend]
      rcases Backend.switchProfile_outcomes (d.env H) d.backend target io with ⟨f, hres⟩ |
        ⟨id, -, hvalid, hres⟩ <;> rw [hres]
      · exact h
      · exact Backend.activateProfile_pointer true io hvalid h
    | createProfile id io =>
      cases hstep
      rw [Daemon.changeProfile_backend]
      rcases Backend.createProfile_outcomes (d.env H) d.backend id io with ⟨f, hres⟩ |
        ⟨hvalid, -, hres⟩ <;> rw [hres]
      · exact h
      · exact Backend.activateProfile_pointer true io hvalid h
    | switchToEmptyProfile draw io =>
      cases hstep
      rw [Daemon.changeProfile_backend]
      exact Backend.switchToEmptyProfile_pointer draw io h
    | _ => cases hchange
  · rw [Bool.not_eq_true] at hchange
    by_cases hdelete : ∃ target io, e = .deleteProfile target io
    · obtain ⟨target, io, rfl⟩ := hdelete
      cases hstep
      exact Backend.deleteProfile_pointer target io h
    · have hown := Daemon.step_ownFiles hchange (fun target io heq => hdelete ⟨target, io, heq⟩) hstep
      exact hown.pointerAgrees h

/-- A boot that could read the pointer is on the profile it names. -/
theorem boot_pointerAgrees {H : Host} {policy : List PolicySource} {s : Daemon.BootInput} {d : Daemon}
    (hread : s.loadIo.readPointer = true) (h : Daemon.boot H policy s = .ok d) :
    PointerAgrees d.backend := by
  obtain ⟨b, hload, hown⟩ := Daemon.boot_ownFiles h
  obtain ⟨hdisk, hprofile, -⟩ := Backend.load_eq hload
  refine hown.pointerAgrees ?_
  unfold PointerAgrees
  rw [hprofile, hdisk, Disk.readPointer, if_pos hread]

/-- **What a profile operation may lose.**  In every run: an activation that fails leaves the
    profile it started from; the pointer stands for the current profile, if the boot could read it;
    a deletion spares the files of the current and the default profile; and the switch to an empty
    profile spares those of every profile it can see, but for the prefs file of a current profile
    that never logged in. -/
theorem profile_operations_spare {H : Host} {policy : List PolicySource} {s : Daemon.BootInput}
    {d₀ d : Daemon} {es : List Event} (hboot : Daemon.boot H policy s = .ok d₀)
    (hrun : Run (Daemon.step H) (fun _ _ => True) d₀ es d) :
    (∀ target register io f b, d.backend.activateProfile (d.env H) target register io =
      (.error f, b) → SameProfile d.backend b) ∧
    (s.loadIo.readPointer = true →
      loadCurrentProfile d.backend.disk.currentProfile = d.backend.currentProfile) ∧
    (∀ target io id, id = d.backend.currentProfile ∨ id = defaultProfileId →
      SameFiles d.backend (d.backend.deleteProfile target io).2 id) ∧
    (∀ draw io id, d.backend.Known io id →
      (d.backend.switchToEmptyProfile (d.env H) draw io).2.disk.keyFile id =
          d.backend.disk.keyFile id ∧
        ((d.backend.prefs.hasLoggedIn = true ∨ id ≠ d.backend.currentProfile) →
          (d.backend.switchToEmptyProfile (d.env H) draw io).2.disk.prefsFile id =
            d.backend.disk.prefsFile id)) := by
  refine ⟨?_, ?_, ?_, ?_⟩
  · intro target register io f b hfailed
    exact Backend.activateProfile_failed hfailed
  · intro hread
    have hinv : PointerAgrees d.backend := hrun.invariant (P := fun d => PointerAgrees d.backend)
      (fun _ _ _ h _ hstep => pointerAgrees_step h hstep) (boot_pointerAgrees hread hboot)
    exact hinv
  · intro target io id hid
    exact Backend.deleteProfile_files d.backend target io hid
  · intro draw io id hknown
    cases hlogin : d.backend.prefs.hasLoggedIn with
    | true =>
      have hsame := Backend.switchToEmptyProfile_files (E := d.env H) draw io hlogin hknown
      exact ⟨hsame.2, fun _ => hsame.1⟩
    | false =>
      have hreset := Backend.switchToEmptyProfile_reset (E := d.env H) draw io hlogin
      refine ⟨congrFun hreset.keyFiles id, ?_⟩
      rintro (hlogged | hother)
      · cases hlogged
      · exact hreset.prefsFiles id hother

/-- A second profile, configured and then reset before it ever logged in. -/
def createAndName : List Event := [.createProfile "work" {}, .set { hostname := some "node" } {} {}]

/-- On a profile that was created and configured: the pointer names it; a switch away from it that
    fails changes nothing, a deletion of it spares its files, and a switch to an empty profile its
    key. -/
theorem profile_operations_spare_work :
    ∃ d₀ d, Daemon.boot plainHost [] firstBoot = .ok d₀ ∧
      follow (Daemon.step plainHost) d₀ createAndName = some d ∧
      d.backend.currentProfile = "work" ∧
      loadCurrentProfile d.backend.disk.currentProfile = d.backend.currentProfile ∧
      SameProfile d.backend
        (d.backend.activateProfile (d.env plainHost) "default" true { savePointer := false }).2 ∧
      SameFiles d.backend (d.backend.deleteProfile "work" {}).2 "work" ∧
      (d.backend.switchToEmptyProfile (d.env plainHost) (fun _ => none) {}).2.disk.keyFile "work" =
        d.backend.disk.keyFile "work" := by
  obtain ⟨d₀, d, hboot, hrun, hwork, f, hfails⟩ : ∃ d₀ d,
      Daemon.boot plainHost [] firstBoot = .ok d₀ ∧
      follow (Daemon.step plainHost) d₀ createAndName = some d ∧
      d.backend.currentProfile = "work" ∧ ∃ f,
        (d.backend.activateProfile (d.env plainHost) "default" true { savePointer := false }).1 =
          .error f := ⟨_, _, rfl, rfl, rfl, _, rfl⟩
  obtain ⟨hfailed, hpointer, hdeleted, hempty⟩ :=
    profile_operations_spare hboot (run_of_follow (fun _ _ _ => trivial) hrun)
  exact ⟨d₀, d, hboot, hrun, hwork, hpointer rfl, hfailed _ _ _ f _ (Prod.ext hfails rfl),
    hdeleted _ _ _ (.inl hwork.symm), (hempty _ _ _ (.inl hwork.symm)).1⟩

/-- The default profile logs in, and a second one is created, configured and left again. -/
def loginAndName : List Event :=
  [.up {} none none {} {}, .finish 0 (some .running) {}, .createProfile "0000" {},
    .set { hostname := some "node" } {} {}, .switchProfile "default" {}]

/-- **What the operations do not spare**: a boot that cannot read the pointer starts on the default
    profile; a profile that never logged in is reset in place, listed and current as it is; and with
    `profiles.json` unreadable a listed profile's id counts as free. -/
theorem switch_to_empty_clears_listed :
    (¬ ∀ (policy : List PolicySource) (s : Daemon.BootInput) (d : Daemon),
      Daemon.boot plainHost policy s = .ok d → PointerAgrees d.backend) ∧
    (¬ ∀ d : Daemon, Daemon.Reachable plainHost (fun _ _ => True) d →
      d.backend.prefs.hasLoggedIn = false → ∀ draw io id,
        (profileName d.backend.disk.profiles id).isSome = true →
          SameFiles d.backend (d.backend.switchToEmptyProfile (d.env plainHost) draw io).2 id) ∧
    (¬ ∀ d : Daemon, Daemon.Reachable plainHost (fun _ _ => True) d →
      d.backend.prefs.hasLoggedIn = true → ∀ draw io id,
        (profileName d.backend.disk.profiles id).isSome = true →
          SameFiles d.backend (d.backend.switchToEmptyProfile (d.env plainHost) draw io).2 id) := by
  refine ⟨?_, ?_, ?_⟩
  · intro hclaim
    obtain ⟨d, hd, hdefault, hwork⟩ : ∃ d,
        Daemon.boot plainHost []
          { disk := { emptyDisk with currentProfile := some "work" }
            loadIo := { readPointer := false } } = .ok d ∧
        d.backend.currentProfile = "default" ∧
        loadCurrentProfile d.backend.disk.currentProfile = "work" := ⟨_, rfl, rfl, rfl⟩
    have hagrees := hclaim _ _ d hd
    unfold PointerAgrees at hagrees
    rw [hdefault, hwork] at hagrees
    exact absurd hagrees (by decide)
  · intro hclaim
    obtain ⟨d, hd, hnew, hlisted, hkept, hgone⟩ : ∃ d,
        Daemon.replay plainHost [] firstBoot createAndName = some d ∧
        d.backend.prefs.hasLoggedIn = false ∧
        (profileName d.backend.disk.profiles "work").isSome = true ∧
        (d.backend.disk.prefsFile "work").isSome = true ∧
        (d.backend.switchToEmptyProfile (d.env plainHost) (fun _ => none) {}).2.disk.prefsFile
          "work" = none := ⟨_, rfl, rfl, rfl, rfl, rfl⟩
    have hsame := hclaim d (Daemon.reachable_replay (fun _ _ _ => trivial) hd) hnew (fun _ => none) {}
      "work" hlisted
    rw [← hsame.1, hgone] at hkept
    cases hkept
  · intro hclaim
    obtain ⟨d, hd, hlogin, hlisted, hkept, hgone⟩ : ∃ d,
        Daemon.replay plainHost [] firstBoot loginAndName = some d ∧
        d.backend.prefs.hasLoggedIn = true ∧
        (profileName d.backend.disk.profiles "0000").isSome = true ∧
        (d.backend.disk.prefsFile "0000").isSome = true ∧
        (d.backend.switchToEmptyProfile (d.env plainHost) (fun _ => some (0, 0))
          { readProfiles := false }).2.disk.prefsFile "0000" = none := ⟨_, rfl, rfl, rfl, rfl, rfl⟩
    have hsame := hclaim d (Daemon.reachable_replay (fun _ _ _ => trivial) hd) hlogin
      (fun _ => some (0, 0)) { readProfiles := false } "0000" hlisted
    rw [← hsame.1, hgone] at hkept
    cases hkept

end Tailnetd
