/-
  Sorting, and then dropping what repeats its neighbour.

  `List.destutter` keeps an entry when it differs from the last one it kept.  By itself it makes no
  set of a list; after a sort it does when entries that count as equal are neighbours there:

    * under an order, entries are the same or apart (`strict_sorted`, `sorted_ext`);
    * by a key, entries of one key are neighbours exactly when no other comes between them
      (`contiguous_sorted_iff`), and then the least entry of each key stays (`least_of_contiguous`).
-/
import Mathlib.Data.List.Destutter
import Mathlib.Data.List.Sort

namespace SortedRuns

variable {α κ : Type*}

/-! ## Neighbours that differ -/

/-- Equal entries are neighbours: nothing else stands between them. -/
def Contiguous (l : List α) : Prop := ∀ x y, [x, y, x].Sublist l → y = x

theorem Contiguous.tail {a : α} {l : List α} (h : Contiguous (a :: l)) : Contiguous l :=
  fun x y hxy => h x y (hxy.trans (List.sublist_cons_self a l))

/-- An entry that differs from its successor does not come again. -/
theorem Contiguous.notMem {a b : α} {l : List α} (h : Contiguous (a :: b :: l)) (hab : a ≠ b) :
    a ∉ b :: l := by
  intro ha
  rcases List.mem_cons.mp ha with heq | ha
  · exact hab heq
  · have hback : [a, b, a].Sublist (a :: b :: l) :=
      ((List.singleton_sublist.mpr ha).cons_cons b).cons_cons a
    exact hab (h a b hback).symm

section Distinct

variable [DecidableEq α]

theorem mem_destutter'_ne {a b : α} {l : List α} :
    a ∈ l.destutter' (· ≠ ·) b ↔ a = b ∨ a ∈ l := by
  induction l generalizing b with
  | nil => rw [List.destutter'_nil, List.mem_singleton, or_iff_left List.not_mem_nil]
  | cons c l ih =>
    by_cases hbc : b = c
    · subst hbc
      rw [List.destutter'_cons_neg _ (not_not.mpr rfl), ih, List.mem_cons, or_self_left]
    · rw [List.destutter'_cons_pos _ hbc, List.mem_cons, ih, List.mem_cons]

/-- Nothing is lost but repetitions. -/
theorem mem_destutter_ne {a : α} {l : List α} : a ∈ l.destutter (· ≠ ·) ↔ a ∈ l := by
  cases l with
  | nil => rfl
  | cons b l => rw [List.destutter_cons', mem_destutter'_ne, List.mem_cons]

theorem nodup_destutter'_iff {a : α} {l : List α} :
    (l.destutter' (· ≠ ·) a).Nodup ↔ Contiguous (a :: l) := by
  induction l generalizing a with
  | nil =>
    refine iff_of_true (by rw [List.destutter'_nil]; exact List.nodup_singleton a) ?_
    intro x y hxy
    have hlength := hxy.length_le
    simp at hlength
  | cons b l ih =>
    by_cases hab : a = b
    · subst hab
      rw [List.destutter'_cons_neg _ (not_not.mpr rfl), ih]
      refine ⟨fun h x y hxy => ?_, Contiguous.tail⟩
      cases hxy with
      | cons _ hxy => exact h x y hxy
      | cons_cons _ hxy =>
        -- the first of the three is the repeated head: the others are the head again, or follow it
        cases hxy with
        | cons _ hxy => exact h a y (hxy.cons_cons a)
        | cons_cons _ hxy => rfl
    · rw [List.destutter'_cons_pos _ hab, List.nodup_cons, mem_destutter'_ne, ih]
      constructor
      · rintro ⟨hnot, h⟩ x y hxy
        cases hxy with
        | cons _ hxy => exact h x y hxy
        | cons_cons _ hxy =>
          have ha : a ∈ b :: l := hxy.subset (List.mem_cons_of_mem _ List.mem_cons_self)
          exact absurd (List.mem_cons.mp ha) hnot
      · intro h
        exact ⟨fun ha => h.notMem hab (List.mem_cons.mpr ha), h.tail⟩

/-- **What is left has no repetition exactly when equal entries were neighbours.** -/
theorem nodup_destutter_iff {l : List α} : (l.destutter (· ≠ ·)).Nodup ↔ Contiguous l := by
  cases l with
  | nil =>
    refine iff_of_true List.nodup_nil ?_
    intro x y hxy
    have hnil := List.sublist_nil.mp hxy
    cases hnil
  | cons a l => rw [List.destutter_cons', nodup_destutter'_iff]

end Distinct

/-! ## By a key -/

section Key

variable [DecidableEq κ]

/-- What is left, by key. -/
theorem map_destutter_key (key : α → κ) (l : List α) :
    (l.destutter fun a b => key a ≠ key b).map key = (l.map key).destutter (· ≠ ·) :=
  List.map_destutter fun _ _ _ _ => Iff.rfl

variable {r : α → α → Prop} [DecidableRel r] [Std.Total r] [IsTrans α r] [Std.Antisymm r]

/-- **In a sorted list the entries of a key are neighbours exactly when no entry of another key
    comes between two of them in the order.** -/
theorem contiguous_sorted_iff (key : α → κ) (l : List α) :
    Contiguous ((l.insertionSort r).map key) ↔
      ∀ a ∈ l, ∀ b ∈ l, ∀ c ∈ l, r a b → r b c → key a = key c → key b = key a := by
  constructor
  · intro h a ha b hb c hc hab hbc hkey
    by_contra hne
    have hab' : a ≠ b := fun heq => hne (by rw [heq])
    have hbc' : b ≠ c := fun heq => hne (by rw [heq, hkey])
    have hac' : a ≠ c := fun heq => hab' (antisymm hab (heq ▸ hbc))
    have hnodup : [a, b, c].Nodup := by simp [hab', hbc', hac']
    have hsubset : [a, b, c] ⊆ l := by
      intro x hx
      simp only [List.mem_cons, List.not_mem_nil, or_false] at hx
      rcases hx with rfl | rfl | rfl
      · exact ha
      · exact hb
      · exact hc
    have hsorted : [a, b, c].Pairwise r := by
      simp [hab, hbc, IsTrans.trans a b c hab hbc]
    have hsublist := List.sublist_insertionSort' hsorted (List.subperm_of_subset hnodup hsubset)
    have hkeys := hsublist.map key
    rw [List.map_cons, List.map_cons, List.map_cons, List.map_nil, ← hkey] at hkeys
    exact hne (h _ _ hkeys)
  · intro h x y hxy
    obtain ⟨three, hsublist, hthree⟩ := List.sublist_map_iff.mp hxy
    obtain ⟨a, rest, rfl, hxa, hrest⟩ := List.map_eq_cons_iff.mp hthree.symm
    obtain ⟨b, rest, rfl, hyb, hrest⟩ := List.map_eq_cons_iff.mp hrest
    obtain ⟨c, rest, rfl, hxc, hrest⟩ := List.map_eq_cons_iff.mp hrest
    have hmem : ∀ z ∈ a :: b :: c :: rest, z ∈ l := fun z hz =>
      (List.mem_insertionSort r).mp (hsublist.subset hz)
    have hsorted : (a :: b :: c :: rest).Pairwise r :=
      (List.pairwise_insertionSort r l).sublist hsublist
    have hab : r a b := List.rel_of_pairwise_cons hsorted List.mem_cons_self
    have hbc : r b c := List.rel_of_pairwise_cons hsorted.tail List.mem_cons_self
    rw [← hyb, ← hxa]
    exact h a (hmem a (by simp)) b (hmem b (by simp)) c (hmem c (by simp)) hab hbc
      (hxa.trans hxc.symm)

omit [DecidableRel r] [Std.Antisymm r] in
/-- **The entry that is left of a key is the least**, where the entries of a key are neighbours. -/
theorem least_of_contiguous {key : α → κ} {l : List α} (hsorted : l.Pairwise r)
    (hcontiguous : Contiguous (l.map key)) {k m : α}
    (hk : k ∈ l.destutter fun a b => key a ≠ key b) (hm : m ∈ l) (hkey : key m = key k) :
    r k m := by
  have hrefl : ∀ x, r x x := fun x => (Std.Total.total x x).elim id id
  cases l with
  | nil => cases hm
  | cons a l =>
    rw [List.destutter_cons'] at hk
    induction l generalizing a m with
    | nil =>
      rw [List.destutter'_nil, List.mem_singleton] at hk
      rw [List.mem_singleton] at hm
      rw [hk, hm]
      exact hrefl a
    | cons b l ih =>
      have htail : (b :: l).Pairwise r := hsorted.tail
      by_cases hab : key a = key b
      · rw [List.destutter'_cons_neg _ (not_not.mpr hab)] at hk
        have hskip : (a :: l).Sublist (a :: b :: l) := (List.sublist_cons_self b l).cons_cons a
        have hsorted' : (a :: l).Pairwise r := hsorted.sublist hskip
        have hkeys : Contiguous ((a :: l).map key) := fun x y hxy =>
          hcontiguous x y (hxy.trans (hskip.map key))
        rcases List.mem_cons.mp hm with rfl | hm
        · exact ih hkey m hsorted' hkeys hk List.mem_cons_self
        · rcases List.mem_cons.mp hm with rfl | hm
          · -- the entry that was dropped comes after the one that was kept
            have hka : r k a := ih (hab.trans hkey) a hsorted' hkeys hk List.mem_cons_self
            exact IsTrans.trans k a m hka (List.rel_of_pairwise_cons hsorted List.mem_cons_self)
          · exact ih hkey a hsorted' hkeys hk (List.mem_cons_of_mem _ hm)
      · rw [List.destutter'_cons_pos _ hab, List.mem_cons] at hk
        rcases hk with rfl | hk
        · rcases List.mem_cons.mp hm with rfl | hm
          · exact hrefl m
          · exact List.rel_of_pairwise_cons hsorted hm
        · rcases List.mem_cons.mp hm with rfl | hm
          · have hmem : key m ∈ (b :: l).map key :=
              List.mem_map.mpr ⟨k, (List.destutter'_sublist _ _ b).subset hk, hkey.symm⟩
            exact absurd hmem (hcontiguous.notMem hab)
          · exact ih hkey b htail hcontiguous.tail hk hm

end Key

/-! ## Under an order -/

section Rank

variable {β : Type*} [LinearOrder β] {r : α → α → Prop} {rank : α → β}

/-- What is compared by a rank is comparable. -/
theorem total_of_rank (h : ∀ a b, r a b ↔ rank a ≤ rank b) : Std.Total r :=
  ⟨fun a b => by
    rw [h, h]
    exact le_total (rank a) (rank b)⟩

theorem trans_of_rank (h : ∀ a b, r a b ↔ rank a ≤ rank b) : IsTrans α r :=
  ⟨fun a b c hab hbc => (h a c).mpr (((h a b).mp hab).trans ((h b c).mp hbc))⟩

/-- And ordered, where no two have the same rank. -/
theorem antisymm_of_rank (h : ∀ a b, r a b ↔ rank a ≤ rank b) (hrank : rank.Injective) :
    Std.Antisymm r :=
  ⟨fun a b hab hba => hrank (((h a b).mp hab).antisymm ((h b a).mp hba))⟩

end Rank

section Order

variable [DecidableEq α]
variable {r : α → α → Prop} [DecidableRel r] [Std.Total r] [IsTrans α r] [Std.Antisymm r]

/-- **A sorted list whose repetitions are dropped increases strictly.** -/
theorem strict_sorted (l : List α) :
    ((l.insertionSort r).destutter (· ≠ ·)).Pairwise fun a b => r a b ∧ a ≠ b := by
  have hsorted := List.pairwise_insertionSort r l
  have hnodup : ((l.insertionSort r).destutter (· ≠ ·)).Nodup := by
    rw [hsorted.destutter_eq_dedup]
    exact List.nodup_dedup _
  exact (hsorted.sublist (List.destutter_sublist _ _)).and hnodup

/-- **It is determined by its members.** -/
theorem sorted_ext {l l' : List α} (h : ∀ a, a ∈ l ↔ a ∈ l') :
    (l.insertionSort r).destutter (· ≠ ·) = (l'.insertionSort r).destutter (· ≠ ·) := by
  have hmem : ∀ a, a ∈ (l.insertionSort r).destutter (· ≠ ·) ↔
      a ∈ (l'.insertionSort r).destutter (· ≠ ·) := by
    intro a
    rw [mem_destutter_ne, mem_destutter_ne, List.mem_insertionSort, List.mem_insertionSort, h a]
  have hirrefl : Std.Irrefl fun a b => r a b ∧ a ≠ b := ⟨fun a hself => hself.2 rfl⟩
  have hantisymm : Std.Antisymm fun a b => r a b ∧ a ≠ b :=
    ⟨fun a b hab hba => antisymm hab.1 hba.1⟩
  exact List.Pairwise.eq_of_mem_iff (strict_sorted l) (strict_sorted l') hmem

end Order

end SortedRuns
