/-
  A word in a text of several pieces.

  A word stands in two pieces put together only when it stands in one of them, as long as it cannot
  reach over the seam.  It cannot when the seam holds a character the word does not have
  (`append_cons_iff`); and a character the word does not begin with is nothing to it in front of a
  piece (`front_iff`), one it does not end with nothing behind (`back_iff`).  A separator made of
  these keeps its two sides apart (`cut_iff`).
-/
import Mathlib.Data.List.Infix

namespace Infix

variable {α : Type*} {w a b : List α} {c : α}

/-- A word does not reach over a character it does not have. -/
theorem append_cons_iff (hc : c ∉ w) : w <:+: a ++ c :: b ↔ w <:+: a ∨ w <:+: b := by
  constructor
  · rintro ⟨front, back, heq⟩
    obtain ⟨rest, hfront, hback⟩ | ⟨rest, ha, -⟩ := List.append_eq_append_iff.mp heq.symm
    · -- the word ends in the second piece, or before its first character
      cases rest with
      | nil =>
        rw [List.append_nil] at hfront
        exact .inl (hfront ▸ List.infix_append_right)
      | cons d rest =>
        obtain ⟨rfl, rfl⟩ := List.cons.inj hback
        obtain ⟨gap, ha, hw⟩ | ⟨gap, -, hrest⟩ := List.append_eq_append_iff.mp hfront
        · exact absurd (hw ▸ List.mem_append_right gap List.mem_cons_self) hc
        · cases gap with
          | nil =>
            rw [List.nil_append] at hrest
            exact absurd (hrest ▸ List.mem_cons_self) hc
          | cons d gap =>
            obtain ⟨rfl, rfl⟩ := List.cons.inj hrest
            exact .inr (List.infix_append gap w back)
    · exact .inl ⟨front, rest, ha.symm⟩
  · rintro (h | h)
    · exact List.infix_append_of_infix_left h
    · exact List.infix_append_of_infix_right (List.infix_cons h)

/-- Nothing the word begins with stands in front. -/
theorem front_iff {front : List α} (hne : w ≠ []) (h : ∀ c ∈ front, w.head? ≠ some c) :
    w <:+: front ++ b ↔ w <:+: b := by
  induction front with
  | nil => rfl
  | cons c front ih =>
    obtain ⟨hc, hfront⟩ := List.forall_mem_cons.mp h
    rw [List.cons_append, List.infix_cons_iff, ih hfront]
    refine or_iff_right fun hprefix => ?_
    cases w with
    | nil => exact hne rfl
    | cons d w => exact hc (congrArg some (List.cons_prefix_cons.mp hprefix).1)

/-- Nothing the word ends with stands behind. -/
theorem back_iff {back : List α} (hne : w ≠ []) (h : ∀ c ∈ back, w.getLast? ≠ some c) :
    w <:+: a ++ back ↔ w <:+: a := by
  have hlast : ∀ c ∈ back.reverse, w.reverse.head? ≠ some c := by
    intro c hc
    rw [List.head?_reverse]
    exact h c (List.mem_reverse.mp hc)
  have hback : w.reverse <:+: back.reverse ++ a.reverse ↔ w.reverse <:+: a.reverse :=
    front_iff (mt List.reverse_eq_nil_iff.mp hne) hlast
  rwa [← List.reverse_append, List.reverse_infix, List.reverse_infix] at hback

/-- **A separator keeps its two sides apart.** -/
theorem cut_iff {front back : List α} (hne : w ≠ []) (hfront : ∀ c ∈ front, w.getLast? ≠ some c)
    (hc : c ∉ w) (hback : ∀ c ∈ back, w.head? ≠ some c) :
    w <:+: a ++ (front ++ c :: back) ++ b ↔ w <:+: a ∨ w <:+: b := by
  have hparts : a ++ (front ++ c :: back) ++ b = (a ++ front) ++ c :: (back ++ b) := by simp
  rw [hparts, append_cons_iff hc, back_iff hne hfront, front_iff hne hback]

end Infix
