/-
  The element of a list with the least or the greatest key.

  Both are one fold that keeps an element or takes the next one.  Where several have the extreme
  key, the least is the first of them and the greatest the last; `Preferred` says so by what stands
  before and behind the element.
-/
import Mathlib.Order.Lattice

namespace Extremes

variable {α κ : Type*}

/-- The last element that replaced the one kept before it. -/
def pick (replaces : α → α → Bool) (kept : α) (items : List α) : α :=
  items.foldl (fun kept x => if replaces kept x then x else kept) kept

/-- An element that replaces everything before it and is replaced by nothing behind it. -/
def Preferred (replaces : α → α → Bool) (items : List α) (a : α) : Prop :=
  ∃ before after, items = before ++ a :: after ∧ (∀ x ∈ before, replaces x a = true) ∧
    ∀ x ∈ after, replaces a x = false

/-- The rules an order of preference keeps. -/
structure Preference (replaces : α → α → Bool) : Prop where
  trans : ∀ x y z, replaces x y = true → replaces y z = true → replaces x z = true
  beaten : ∀ x y z, replaces y x = false → replaces y z = true → replaces x z = true

theorem Preferred.pick {replaces : α → α → Bool} (hr : Preference replaces) {items : List α} {a : α}
    (h : Preferred replaces items a) (more : List α) :
    Preferred replaces (items ++ more) (pick replaces a more) := by
  induction more generalizing items a with
  | nil => rwa [List.append_nil]
  | cons x more ih =>
    obtain ⟨before, after, rfl, hbefore, hafter⟩ := h
    have hsplit : before ++ a :: after ++ x :: more = (before ++ a :: after ++ [x]) ++ more := by
      rw [List.append_assoc _ [x], List.singleton_append]
    rw [hsplit]
    by_cases htake : replaces a x = true
    · have hpick : Extremes.pick replaces a (x :: more) = Extremes.pick replaces x more := by
        show Extremes.pick replaces (if replaces a x then x else a) more = _
        rw [if_pos htake]
      rw [hpick]
      refine ih ⟨before ++ a :: after, [], rfl, fun y hy => ?_, fun y hy => by cases hy⟩
      rcases List.mem_append.mp hy with hb | ha
      · exact hr.trans y a x (hbefore y hb) htake
      · rcases List.mem_cons.mp ha with rfl | ha
        · exact htake
        · exact hr.beaten y a x (hafter y ha) htake
    · have hpick : Extremes.pick replaces a (x :: more) = Extremes.pick replaces a more := by
        show Extremes.pick replaces (if replaces a x then x else a) more = _
        rw [if_neg htake]
      rw [hpick]
      refine ih ⟨before, after ++ [x], by simp, hbefore, fun y hy => ?_⟩
      rcases List.mem_append.mp hy with ha | hx
      · exact hafter y ha
      · rw [List.mem_singleton.mp hx]
        exact Bool.eq_false_iff.mpr htake

variable [LinearOrder κ] (key : α → κ)

/-- `Iterator::min_by_key`. -/
def minByKey : List α → Option α
  | [] => none
  | a :: items => some (pick (fun kept x => decide (key x < key kept)) a items)

/-- `Iterator::max_by_key`. -/
def maxByKey : List α → Option α
  | [] => none
  | a :: items => some (pick (fun kept x => decide (key kept ≤ key x)) a items)

variable {key}

theorem preferred_singleton (replaces : α → α → Bool) (a : α) : Preferred replaces [a] a :=
  ⟨[], [], rfl, (fun _ h => by cases h), (fun _ h => by cases h)⟩

/-- **The least key**, at its first place. -/
theorem minByKey_eq_some {items : List α} {a : α} (h : minByKey key items = some a) :
    ∃ before after, items = before ++ a :: after ∧ (∀ x ∈ before, key a < key x) ∧
      ∀ x ∈ after, key a ≤ key x := by
  have hr : Preference fun kept x => decide (key x < key kept) := by
    refine ⟨fun x y z hxy hyz => ?_, fun x y z hyx hyz => ?_⟩
    · exact decide_eq_true (lt_trans (of_decide_eq_true hyz) (of_decide_eq_true hxy))
    · exact decide_eq_true
        (lt_of_lt_of_le (of_decide_eq_true hyz) (not_lt.mp (of_decide_eq_false hyx)))
  cases items with
  | nil => cases h
  | cons first items =>
    cases h
    obtain ⟨before, after, hitems, hbefore, hafter⟩ :=
      (preferred_singleton _ first).pick hr items
    exact ⟨before, after, hitems, fun x hx => of_decide_eq_true (hbefore x hx),
      fun x hx => not_lt.mp (of_decide_eq_false (hafter x hx))⟩

/-- Where no two elements share a key, it is the element with the least one. -/
theorem minByKey_eq_some_iff (hkey : key.Injective) {items : List α} {a : α} :
    minByKey key items = some a ↔ a ∈ items ∧ ∀ x ∈ items, key a ≤ key x := by
  have hleast {a : α} (h : minByKey key items = some a) :
      a ∈ items ∧ ∀ x ∈ items, key a ≤ key x := by
    obtain ⟨before, after, rfl, hbefore, hafter⟩ := minByKey_eq_some h
    refine ⟨List.mem_append_right _ List.mem_cons_self, fun x hx => ?_⟩
    rcases List.mem_append.mp hx with hb | ha
    · exact (hbefore x hb).le
    · rcases List.mem_cons.mp ha with rfl | ha
      · exact le_rfl
      · exact hafter x ha
  refine ⟨hleast, fun ⟨ha, hmin⟩ => ?_⟩
  cases hpick : minByKey key items with
  | none =>
    cases items with
    | nil => cases ha
    | cons => cases hpick
  | some b =>
    obtain ⟨hb, hbmin⟩ := hleast hpick
    rw [hkey (le_antisymm (hbmin a ha) (hmin b hb))]

/-- **The greatest key**, at its last place. -/
theorem maxByKey_eq_some {items : List α} {a : α} (h : maxByKey key items = some a) :
    ∃ before after, items = before ++ a :: after ∧ (∀ x ∈ before, key x ≤ key a) ∧
      ∀ x ∈ after, key x < key a := by
  have hr : Preference fun kept x => decide (key kept ≤ key x) := by
    refine ⟨fun x y z hxy hyz => ?_, fun x y z hyx hyz => ?_⟩
    · exact decide_eq_true (le_trans (of_decide_eq_true hxy) (of_decide_eq_true hyz))
    · exact decide_eq_true
        (le_trans (le_of_lt (not_le.mp (of_decide_eq_false hyx))) (of_decide_eq_true hyz))
  cases items with
  | nil => cases h
  | cons first items =>
    cases h
    obtain ⟨before, after, hitems, hbefore, hafter⟩ :=
      (preferred_singleton _ first).pick hr items
    exact ⟨before, after, hitems, fun x hx => of_decide_eq_true (hbefore x hx),
      fun x hx => not_le.mp (of_decide_eq_false (hafter x hx))⟩

end Extremes
