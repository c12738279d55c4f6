/-
  Items that are taken from a list by their position.

  A step takes the item at one position, or none, and may append others.  `moved taken i` says where
  the item at position `i` stands afterwards, and `movedAll` where it stands after several steps, so
  that an item can be told from its equals by the position it was appended at.
-/
import Mathlib.Data.List.Basic

namespace Positions

variable {α : Type*}

/-- The list without the item taken. -/
def without (taken : Option Nat) (l : List α) : List α :=
  match taken with
  | none => l
  | some j => l.eraseIdx j

/-- Where the item at a position stands once another was taken; `none` when it was this one. -/
def moved (taken : Option Nat) (i : Nat) : Option Nat :=
  match taken with
  | none => some i
  | some j => if i < j then some i else if i = j then none else some (i - 1)

/-- Where the item at a position stands after several steps. -/
def movedAll : List (Option Nat) → Nat → Option Nat
  | [], i => some i
  | taken :: rest, i => (moved taken i).bind (movedAll rest)

/-- What stands at a position after a step stood somewhere before it. -/
theorem moved_of_getElem? {taken : Option Nat} {l : List α} {k : Nat} {a : α}
    (h : (without taken l)[k]? = some a) : ∃ i, l[i]? = some a ∧ moved taken i = some k := by
  cases taken with
  | none => exact ⟨k, h, rfl⟩
  | some j =>
    dsimp only [without] at h
    rw [List.getElem?_eraseIdx] at h
    unfold moved
    dsimp only
    by_cases hbefore : k < j
    · rw [if_pos hbefore] at h
      exact ⟨k, h, if_pos hbefore⟩
    · rw [if_neg hbefore] at h
      refine ⟨k + 1, h, ?_⟩
      rw [if_neg (by omega), if_neg (by omega)]
      rfl

/-- Following an item over one more step. -/
theorem movedAll_concat (steps : List (Option Nat)) (taken : Option Nat) (i : Nat) :
    movedAll (steps ++ [taken]) i = (movedAll steps i).bind (moved taken) := by
  induction steps generalizing i with
  | nil =>
    show (moved taken i).bind (movedAll []) = moved taken i
    cases moved taken i <;> rfl
  | cons first rest ih =>
    show (moved first i).bind (movedAll (rest ++ [taken])) =
      ((moved first i).bind (movedAll rest)).bind (moved taken)
    cases moved first i with
    | none => rfl
    | some k => exact ih k

end Positions
