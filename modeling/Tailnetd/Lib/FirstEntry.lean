/-
  Lists in which one writer keeps one entry of its own.

  `setFirst p v l` puts `v` in the place of the first entry that passes `p`, or at the end where
  none does.  With an entry `v` that passes `p` itself, the first entry to pass is `v` from then on
  (`find?_setFirst`), a second write of it changes nothing (`setFirst_setFirst`), the entries that
  do not pass are left as they were and where they were (`filter_setFirst`), and the list grows by
  one only where no entry passed (`length_setFirst`).  Two writers that do not pass each other's
  tests can write in either order (`setFirst_comm`): the two lists differ in their order at most,
  and only where both had to append.
-/
import Mathlib.Data.List.Basic

namespace FirstEntry

variable {α : Type*}

/-- Put an entry in the place of the first that passes the test, or at the end. -/
def setFirst (p : α → Bool) (v : α) : List α → List α
  | [] => [v]
  | x :: rest => if p x then v :: rest else x :: setFirst p v rest

variable {p q : α → Bool} {v w : α}

/-- Found by its index and set there, or appended. -/
theorem setFirst_eq_set (p : α → Bool) (v : α) (l : List α) :
    (match l.findIdx? p with
      | some i => l.set i v
      | none => l ++ [v]) = setFirst p v l := by
  induction l with
  | nil => rfl
  | cons x rest ih =>
    rw [setFirst, List.findIdx?_cons]
    by_cases hx : p x
    · rw [if_pos hx, if_pos hx]
      rfl
    · rw [if_neg hx, if_neg hx, ← ih]
      cases rest.findIdx? p <;> rfl

/-- The first entry to pass the test is the one that was written. -/
theorem find?_setFirst (hv : p v = true) (l : List α) : (setFirst p v l).find? p = some v := by
  induction l with
  | nil => rw [setFirst, List.find?_cons_of_pos hv]
  | cons x rest ih =>
    by_cases hx : p x
    · rw [setFirst, if_pos hx, List.find?_cons_of_pos hv]
    · rw [setFirst, if_neg hx, List.find?_cons_of_neg hx, ih]

/-- A second write changes nothing. -/
theorem setFirst_setFirst (hv : p v = true) (l : List α) :
    setFirst p v (setFirst p v l) = setFirst p v l := by
  induction l with
  | nil => rw [setFirst, setFirst, if_pos hv]
  | cons x rest ih =>
    by_cases hx : p x
    · rw [setFirst, if_pos hx, setFirst, if_pos hv]
    · rw [setFirst, if_neg hx, setFirst, if_neg hx, ih]

/-- The entries of another kind are left in their order. -/
theorem filter_setFirst (hv : q v = false) (hq : ∀ x, p x = true → q x = false) (l : List α) :
    (setFirst p v l).filter q = l.filter q := by
  have hnv : ¬q v = true := Bool.eq_false_iff.mp hv
  induction l with
  | nil => rw [setFirst, List.filter_cons_of_neg hnv]
  | cons x rest ih =>
    by_cases hx : p x
    · have hnx : ¬q x = true := Bool.eq_false_iff.mp (hq x hx)
      rw [setFirst, if_pos hx, List.filter_cons_of_neg hnv, List.filter_cons_of_neg hnx]
    · rw [setFirst, if_neg hx, List.filter_cons, List.filter_cons, ih]

theorem length_setFirst (p : α → Bool) (v : α) (l : List α) :
    (setFirst p v l).length = if l.any p then l.length else l.length + 1 := by
  induction l with
  | nil => rfl
  | cons x rest ih =>
    by_cases hx : p x
    · rw [setFirst, if_pos hx, List.any_cons, hx, Bool.true_or, if_pos rfl, List.length_cons,
        List.length_cons]
    · have hnx : p x = false := Bool.eq_false_iff.mpr hx
      rw [setFirst, if_neg hx, List.any_cons, hnx, Bool.false_or, List.length_cons, ih,
        List.length_cons]
      split <;> rfl

/-- **Two writers come to the same entries in either order.** -/
theorem setFirst_comm (hv : q v = false) (hw : p w = false)
    (hpq : ∀ x, p x = true → q x = false) (l : List α) :
    (setFirst q w (setFirst p v l)).Perm (setFirst p v (setFirst q w l)) := by
  have hnv : ¬q v = true := Bool.eq_false_iff.mp hv
  have hnw : ¬p w = true := Bool.eq_false_iff.mp hw
  induction l with
  | nil =>
    -- both append, each behind the other
    have hvw : setFirst q w [v] = [v, w] := by rw [setFirst, if_neg hnv, setFirst]
    have hwv : setFirst p v [w] = [w, v] := by rw [setFirst, if_neg hnw, setFirst]
    show (setFirst q w [v]).Perm (setFirst p v [w])
    rw [hvw, hwv]
    exact List.Perm.swap w v []
  | cons x rest ih =>
    by_cases hx : p x
    · have hnx : ¬q x = true := Bool.eq_false_iff.mp (hpq x hx)
      rw [setFirst, if_pos hx, setFirst, if_neg hnv, setFirst, if_neg hnx, setFirst, if_pos hx]
    · by_cases hy : q x
      · rw [setFirst, if_neg hx, setFirst, if_pos hy, setFirst, if_pos hy, setFirst, if_neg hnw]
      · rw [setFirst, if_neg hx, setFirst, if_neg hy, setFirst, if_neg hy, setFirst, if_neg hx]
        exact ih.cons x

end FirstEntry
