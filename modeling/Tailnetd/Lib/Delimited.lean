/-
  Streams of delimited records.

  A stream is a list, a record what stands before a delimiter; what follows the last delimiter is
  the tail, which no delimiter ends.  `split` takes a stream apart, record by record
  (`split_append_cons`), and `join` puts it together again: every stream is the join of its records
  and its tail, none of which holds a delimiter (`join_split`).
-/
import Mathlib.Data.List.Basic

namespace Delimited

variable {α : Type*} [DecidableEq α] {d : α}

/-- The records of a stream, and its tail. -/
def split (d : α) : List α → List (List α) × List α
  | [] => ([], [])
  | a :: s =>
    if a = d then ([] :: (split d s).1, (split d s).2)
    else
      match (split d s).1 with
      | [] => ([], a :: (split d s).2)
      | row :: rows => ((a :: row) :: rows, (split d s).2)

/-- The stream of these records, each with its delimiter, and of a tail. -/
def join (d : α) (rows : List (List α)) (tail : List α) : List α :=
  rows.flatMap (· ++ [d]) ++ tail

omit [DecidableEq α] in
@[simp] theorem join_cons (row : List α) (rows : List (List α)) (tail : List α) :
    join d (row :: rows) tail = row ++ d :: join d rows tail := by
  simp [join]

/-- The first delimiter ends the first record. -/
theorem split_append_cons {row : List α} (h : d ∉ row) (s : List α) :
    split d (row ++ d :: s) = (row :: (split d s).1, (split d s).2) := by
  induction row with
  | nil => rw [List.nil_append, split, if_pos rfl]
  | cons a row ih =>
    obtain ⟨ha, hrow⟩ := not_or.mp (mt List.mem_cons.mpr h)
    rw [List.cons_append, split, if_neg (Ne.symm ha), ih hrow]

/-- The first delimiter is where it is. -/
theorem first_unique {row row' s s' : List α} (h : d ∉ row) (h' : d ∉ row')
    (heq : row ++ d :: s = row' ++ d :: s') : row = row' ∧ s = s' := by
  have hsplit := congrArg (split d) heq
  rw [split_append_cons h, split_append_cons h'] at hsplit
  have hrow : row = row' := (List.cons.inj (Prod.mk.inj hsplit).1).1
  subst hrow
  exact ⟨rfl, (List.cons.inj (List.append_cancel_left heq)).2⟩

/-- Without a delimiter there is no record. -/
theorem split_of_notMem {s : List α} (h : d ∉ s) : split d s = ([], s) := by
  induction s with
  | nil => rfl
  | cons a s ih =>
    obtain ⟨ha, hs⟩ := not_or.mp (mt List.mem_cons.mpr h)
    rw [split, if_neg (Ne.symm ha), ih hs]

/-- A stream either goes on after its first delimiter, or has none. -/
theorem cases_first (d : α) (s : List α) :
    (∃ row rest, d ∉ row ∧ s = row ++ d :: rest) ∨ d ∉ s := by
  by_cases h : d ∈ s
  · obtain ⟨row, rest, hsplit, hrow⟩ := List.eq_append_cons_of_mem h
    exact .inl ⟨row, rest, hrow, hsplit⟩
  · exact .inr h

/-- **A stream is the join of its records and its tail**, none of which holds a delimiter. -/
theorem join_split (d : α) (s : List α) :
    join d (split d s).1 (split d s).2 = s ∧ (∀ row ∈ (split d s).1, d ∉ row) ∧
      d ∉ (split d s).2 := by
  induction hlen : s.length using Nat.strongRecOn generalizing s with
  | _ n ih =>
    rcases cases_first d s with ⟨row, rest, hrow, rfl⟩ | hnone
    · have hshorter : rest.length < n := by
        rw [← hlen, List.length_append, List.length_cons]
        omega
      obtain ⟨hjoin, hrows, htail⟩ := ih rest.length hshorter rest rfl
      rw [split_append_cons hrow, join_cons, hjoin]
      exact ⟨rfl, List.forall_mem_cons.mpr ⟨hrow, hrows⟩, htail⟩
    · rw [split_of_notMem hnone]
      exact ⟨rfl, fun row hmem => absurd hmem List.not_mem_nil, hnone⟩

end Delimited
