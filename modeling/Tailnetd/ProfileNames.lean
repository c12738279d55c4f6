/-
  What a target of `switch` and `switch remove` names (`ipn/profile.rs`).

  Ids and display names share one space of targets: an id is tried first, and then the names.  A
  profile that nobody named has the empty name, which the listing shows as the id; as a target the
  empty text is compared like any other name, so that it selects a profile that has none.

  `Selected` is what a target should name: the id itself, or the lowest usable id among the profiles
  that were given the target as their name.
-/
import Tailnetd.Files
import Tailnetd.Lib.SortedMap
import Mathlib.Data.String.Basic

namespace Tailnetd

/-- `ProfilesFile`: the display names, in the order of the ids. -/
abbrev ProfilesFile := SortedMap String String

/-- A target that is a usable id of a profile there is. -/
def KnownId (file : ProfilesFile) (target : String) : Prop :=
  isValidProfileId target = true ∧
    (target = defaultProfileId ∨ (profileName file.entries target).isSome = true)

/-- The lowest usable id among the profiles of one name. -/
def LowestNamed (file : ProfilesFile) (name id : String) : Prop :=
  (id, name) ∈ file.entries ∧ isValidProfileId id = true ∧
    ∀ id', (id', name) ∈ file.entries → isValidProfileId id' = true → id ≤ id'

/-- What a target should name. -/
def Selected (file : ProfilesFile) (target id : String) : Prop :=
  (KnownId file target ∧ id = target) ∨
    (¬ KnownId file target ∧ target ≠ "" ∧ LowestNamed file target id)

/-- A usable id whose profile nobody named. -/
def UnnamedId (file : ProfilesFile) (id : String) : Prop :=
  (id, "") ∈ file.entries ∧ isValidProfileId id = true

/-! ## What the resolver answers -/

theorem find?_named_iff {file : ProfilesFile} {target id : String} :
    (file.entries.find? fun entry => entry.2 == target && isValidProfileId entry.1).map (·.1) =
      some id ↔ LowestNamed file target id := by
  rw [Option.map_eq_some_iff]
  constructor
  · rintro ⟨⟨id', name⟩, hfind, rfl⟩
    obtain ⟨hmem, hpass, hleast⟩ := SortedMap.find?_eq_some_iff_least.mp hfind
    rw [Bool.and_eq_true, beq_iff_eq] at hpass
    obtain ⟨rfl, hvalid⟩ := hpass
    refine ⟨hmem, hvalid, ?_⟩
    intro id' hid' hvalid'
    exact hleast (id', _) hid' (by rw [hvalid', beq_self_eq_true]; rfl)
  · rintro ⟨hmem, hvalid, hleast⟩
    refine ⟨(id, target), SortedMap.find?_eq_some_iff_least.mpr ⟨hmem, ?_, ?_⟩, rfl⟩
    · rw [hvalid, beq_self_eq_true]
      rfl
    · rintro ⟨id', name⟩ he hpass
      rw [Bool.and_eq_true, beq_iff_eq] at hpass
      obtain ⟨rfl, hvalid'⟩ := hpass
      exact hleast id' he hvalid'

/-- **What `resolve_target_to_id` answers**: the id itself, or the lowest usable id of the name, the
    empty name included. -/
theorem resolveTargetToId_iff {file : ProfilesFile} {target id : String} :
    resolveTargetToId target file.entries = some id ↔
      (KnownId file target ∧ id = target) ∨
        (¬ KnownId file target ∧ LowestNamed file target id) := by
  have hknown : (isValidProfileId target &&
      (target == defaultProfileId || (profileName file.entries target).isSome)) = true ↔
        KnownId file target := by
    rw [KnownId, Bool.and_eq_true, Bool.or_eq_true, beq_iff_eq]
  rw [resolveTargetToId]
  by_cases h : KnownId file target
  · rw [if_pos (hknown.mpr h), Option.some_inj]
    constructor
    · rintro rfl
      exact .inl ⟨h, rfl⟩
    · rintro (⟨-, rfl⟩ | ⟨hno, -⟩)
      · rfl
      · exact absurd h hno
  · rw [if_neg (fun hyes => h (hknown.mp hyes)), find?_named_iff]
    constructor
    · exact fun hnamed => .inr ⟨h, hnamed⟩
    · rintro (⟨hyes, -⟩ | ⟨-, hnamed⟩)
      · exact absurd hyes h
      · exact hnamed

/-- The empty target is no id. -/
theorem not_knownId_empty (file : ProfilesFile) : ¬ KnownId file "" := by
  rintro ⟨hvalid, -⟩
  exact absurd hvalid (by decide)

/-- **The empty target selects the lowest usable id that nobody named.** -/
theorem resolveTargetToId_empty_isSome {file : ProfilesFile} :
    (∃ id, resolveTargetToId "" file.entries = some id) ↔ ∃ id, UnnamedId file id := by
  constructor
  · rintro ⟨id, hid⟩
    rcases resolveTargetToId_iff.mp hid with ⟨hknown, -⟩ | ⟨-, hmem, hvalid, -⟩
    · exact absurd hknown (not_knownId_empty file)
    · exact ⟨id, hmem, hvalid⟩
  · rintro ⟨id, hmem, hvalid⟩
    have hsome : (file.entries.find? fun entry =>
        entry.2 == "" && isValidProfileId entry.1).isSome = true :=
      List.find?_isSome.mpr ⟨(id, ""), hmem, by rw [hvalid]; rfl⟩
    obtain ⟨entry, hfind⟩ := Option.isSome_iff_exists.mp hsome
    refine ⟨entry.1, resolveTargetToId_iff.mpr (.inr ⟨not_knownId_empty file, ?_⟩)⟩
    exact find?_named_iff.mp (by rw [hfind]; rfl)

/-! ## A new unnamed profile -/

/-- Writing a name is an insertion in the order of the ids. -/
theorem setProfileName_entries (file : ProfilesFile) (id name : String) :
    setProfileName id name file.entries = (file.insert id name).entries := by
  show _ = SortedMap.insertEntry id name file.entries
  generalize file.entries = entries
  induction entries with
  | nil => rfl
  | cons entry rest ih =>
    rw [setProfileName, SortedMap.insertEntry, ih]
    by_cases heq : id = entry.1
    · have hnlt : ¬ id < entry.1 := by
        rw [heq]
        exact lt_irrefl _
      rw [if_pos heq, if_neg hnlt, if_pos heq]
    · rw [if_neg heq, if_neg heq]

/-- The entries after an id that was not listed is. -/
theorem mem_insert_fresh {file : ProfilesFile} {id : String}
    (hfresh : profileName file.entries id = none) {entry : String × String} :
    entry ∈ (file.insert id "").entries ↔ entry = (id, "") ∨ entry ∈ file.entries := by
  obtain ⟨id', name⟩ := entry
  have hlisted : ∀ name, (id, name) ∉ file.entries := by
    intro name hmem
    have hname : file.get? id = some name := SortedMap.get?_eq_some_iff.mpr hmem
    exact absurd (hname.symm.trans hfresh) (by simp)
  rw [← SortedMap.get?_eq_some_iff, SortedMap.get?_insert, ← SortedMap.get?_eq_some_iff]
  by_cases heq : id' = id
  · subst heq
    rw [if_pos rfl]
    constructor
    · intro h
      rw [Option.some_inj.mp h]
      exact .inl rfl
    · rintro (h | h)
      · rw [(Prod.mk.inj h).2]
      · exact absurd (SortedMap.get?_eq_some_iff.mp h) (hlisted name)
  · rw [if_neg heq]
    constructor
    · exact .inr
    · rintro (h | h)
      · exact absurd (Prod.mk.inj h).1 heq
      · exact h

/-- Another target is an id of a profile there is, or not, as before. -/
theorem knownId_insert {file : ProfilesFile} {id target : String} (hne : target ≠ id) :
    KnownId (file.insert id "") target ↔ KnownId file target := by
  rw [KnownId, KnownId, ← setProfileName_entries,
    profileName_setProfileName_of_ne (Ne.symm hne) "" file.entries]

/-- The profiles of another name are the same ones. -/
theorem lowestNamed_insert {file : ProfilesFile} {id name id' : String}
    (hfresh : profileName file.entries id = none) (hname : name ≠ "") :
    LowestNamed (file.insert id "") name id' ↔ LowestNamed file name id' := by
  have hmem : ∀ i, (i, name) ∈ (file.insert id "").entries ↔ (i, name) ∈ file.entries := by
    intro i
    rw [mem_insert_fresh hfresh]
    constructor
    · rintro (h | h)
      · exact absurd (Prod.mk.inj h).2 hname
      · exact h
    · exact .inr
  rw [LowestNamed, LowestNamed, hmem]
  refine and_congr_right fun _ => and_congr_right fun _ => forall_congr' fun i => ?_
  rw [hmem]

/-- **A new unnamed profile is invisible to every target that is not empty.** -/
theorem resolve_insert_of_ne {file : ProfilesFile} {id target : String}
    (hfresh : profileName file.entries id = none) (hne : target ≠ id) (hname : target ≠ "") :
    resolveTargetToId target (setProfileName id "" file.entries) =
      resolveTargetToId target file.entries := by
  rw [setProfileName_entries]
  refine Option.ext fun answer => ?_
  rw [resolveTargetToId_iff, resolveTargetToId_iff, knownId_insert hne,
    lowestNamed_insert hfresh hname]

/-- **The empty target keeps its answer** exactly if a lower usable id was unnamed before. -/
theorem resolve_empty_insert_iff {file : ProfilesFile} {id : String}
    (hfresh : profileName file.entries id = none) (hvalid : isValidProfileId id = true) :
    resolveTargetToId "" (setProfileName id "" file.entries) = resolveTargetToId "" file.entries ↔
      ∃ id' < id, UnnamedId file id' := by
  have hunnamed : ∀ i, UnnamedId (file.insert id "") i ↔ i = id ∨ UnnamedId file i := by
    intro i
    rw [UnnamedId, UnnamedId, mem_insert_fresh hfresh]
    constructor
    · rintro ⟨h | h, hi⟩
      · exact .inl (Prod.mk.inj h).1
      · exact .inr ⟨h, hi⟩
    · rintro (rfl | ⟨h, hi⟩)
      · exact ⟨.inl rfl, hvalid⟩
      · exact ⟨.inr h, hi⟩
  have hanswer : ∀ (f : ProfilesFile) (i : String), resolveTargetToId "" f.entries = some i ↔
      UnnamedId f i ∧ ∀ i', UnnamedId f i' → i ≤ i' := by
    intro f i
    rw [resolveTargetToId_iff]
    constructor
    · rintro (⟨hknown, -⟩ | ⟨-, hmem, hi, hleast⟩)
      · exact absurd hknown (not_knownId_empty f)
      · exact ⟨⟨hmem, hi⟩, fun i' h' => hleast i' h'.1 h'.2⟩
    · rintro ⟨⟨hmem, hi⟩, hleast⟩
      exact .inr ⟨not_knownId_empty f, hmem, hi, fun i' hmem' hi' => hleast i' ⟨hmem', hi'⟩⟩
  rw [setProfileName_entries]
  constructor
  · intro hsame
    obtain ⟨i, hi⟩ := resolveTargetToId_empty_isSome.mpr ⟨id, (hunnamed id).mpr (.inl rfl)⟩
    have hold := (hanswer file i).mp (hsame ▸ hi)
    have hle : i ≤ id := ((hanswer _ i).mp hi).2 id ((hunnamed id).mpr (.inl rfl))
    refine ⟨i, lt_of_le_of_ne hle ?_, hold.1⟩
    rintro rfl
    have hlisted : file.get? i = some "" := SortedMap.get?_eq_some_iff.mpr hold.1.1
    exact absurd (hlisted.symm.trans hfresh) (by simp)
  · rintro ⟨low, hlow, hlowUnnamed⟩
    obtain ⟨i, hi⟩ := resolveTargetToId_empty_isSome.mpr ⟨low, hlowUnnamed⟩
    have hleast := (hanswer file i).mp hi
    rw [hi]
    refine (hanswer _ i).mpr ⟨(hunnamed i).mpr (.inr hleast.1), ?_⟩
    intro i' hi'
    rcases (hunnamed i').mp hi' with rfl | hold
    · exact ((hleast.2 low hlowUnnamed).trans_lt hlow).le
    · exact hleast.2 i' hold

/-! ## The result -/

/-- The target names what it should, and no profile that nobody named is chosen by its name. -/
def NamesProfile (file : ProfilesFile) (target : String) : Prop :=
  (∀ id, resolveTargetToId target file.entries = some id ↔ Selected file target id) ∧
    ∀ id, resolveTargetToId target file.entries = some id → ¬ KnownId file target →
      profileName file.entries id ≠ some ""

/-- A new unnamed profile under an id changes what no other target names. -/
def UnmovedBy (file : ProfilesFile) (target id : String) : Prop :=
  target ≠ id → resolveTargetToId target (setProfileName id "" file.entries) =
    resolveTargetToId target file.entries

theorem namesProfile_of_ne {file : ProfilesFile} {target : String} (hname : target ≠ "") :
    NamesProfile file target := by
  constructor
  · intro id
    rw [resolveTargetToId_iff, Selected, and_iff_right hname]
  · intro id hid hunknown hempty
    rcases resolveTargetToId_iff.mp hid with ⟨hknown, -⟩ | ⟨-, hmem, -⟩
    · exact hunknown hknown
    · have hlisted : file.get? id = some target := SortedMap.get?_eq_some_iff.mpr hmem
      exact hname (Option.some_inj.mp (hlisted.symm.trans hempty))

theorem namesProfile_empty_iff {file : ProfilesFile} :
    NamesProfile file "" ↔ ¬ ∃ id, UnnamedId file id := by
  constructor
  · rintro ⟨hselected, -⟩ hunnamed
    obtain ⟨id, hid⟩ := resolveTargetToId_empty_isSome.mpr hunnamed
    rcases (hselected id).mp hid with ⟨hknown, -⟩ | ⟨-, hname, -⟩
    · exact not_knownId_empty file hknown
    · exact hname rfl
  · intro hnone
    have hno : ∀ id, resolveTargetToId "" file.entries ≠ some id := fun id hid =>
      hnone (resolveTargetToId_empty_isSome.mp ⟨id, hid⟩)
    constructor
    · intro id
      refine iff_of_false (hno id) ?_
      rintro (⟨hknown, -⟩ | ⟨-, hname, -⟩)
      · exact not_knownId_empty file hknown
      · exact hname rfl
    · exact fun id hid => absurd hid (hno id)

/-- **Every target but the empty one names what it should**, and a fresh unnamed profile changes
    nothing for it.  The empty target does so as long as no usable id is unnamed, which a fresh
    unnamed profile ends. -/
theorem profile_targets_iff (file : ProfilesFile) (target : String) :
    (NamesProfile file target ↔ target ≠ "" ∨ ¬ ∃ id, UnnamedId file id) ∧
      ∀ draw tries id, unusedProfileId file.entries draw tries = .ok (some id) →
        (NamesProfile file target ∧ UnmovedBy file target id ↔ target ≠ "") := by
  constructor
  · by_cases hname : target = ""
    · rw [hname, namesProfile_empty_iff]
      simp
    · exact iff_of_true (namesProfile_of_ne hname) (.inl hname)
  · intro draw tries id hdrawn
    obtain ⟨hvalid, hfree⟩ := unusedProfileId_fresh hdrawn
    have hfresh := (unresolved_fresh hvalid hfree).2
    constructor
    · rintro ⟨hnames, hunmoved⟩ rfl
      -- with no unnamed profile before, the new one is the first that the empty target selects
      have hne : "" ≠ id := by
        rintro rfl
        exact absurd hvalid (by decide)
      obtain ⟨id', -, hid'⟩ := (resolve_empty_insert_iff hfresh hvalid).mp (hunmoved hne)
      exact namesProfile_empty_iff.mp hnames ⟨id', hid'⟩
    · intro hname
      exact ⟨namesProfile_of_ne hname, fun hne => resolve_insert_of_ne hfresh hne hname⟩

/-- Two profiles, of which one was never named. -/
def twoProfiles : ProfilesFile := (SortedMap.empty.insert "home" "").insert "work" "Work tailnet"

/-- The name of the second is not moved by a third. -/
theorem profile_targets_work :
    NamesProfile twoProfiles "Work tailnet" ∧ UnmovedBy twoProfiles "Work tailnet" "beef" :=
  ((profile_targets_iff twoProfiles "Work tailnet").2 (fun _ => some (0xBE, 0xEF)) 1 "beef"
    (by decide +kernel)).mpr (by decide)

/-- **The empty text selects a profile that nobody named**: what should name nothing switches to the
    first of them. -/
theorem empty_target_selects_unnamed :
    ¬ ∀ (file : ProfilesFile) (target id : String),
      resolveTargetToId target file.entries = some id ↔ Selected file target id := by
  intro hclaim
  have hselected := (hclaim twoProfiles "" "home").mp (by decide +kernel)
  rcases hselected with ⟨hknown, -⟩ | ⟨-, hname, -⟩
  · exact not_knownId_empty twoProfiles hknown
  · exact hname rfl

end Tailnetd
