/-
  Read, modify, write.

  Writers share one document without a lock: a writer reads the whole document, edits its copy and
  writes the copy back whole.  A log of the writes, newest first, with how many writes each writer
  had seen, determines the document: it is the newest edit, applied to the document its writer
  read.  Following the readings back from there gives the edits that are `kept`; the others are
  lost.  They are all kept where each writer had seen every write before its own.
-/
import Mathlib.Data.List.Basic

namespace ReadModifyWrite

variable {κ δ : Type*}

/-- A write: its edit, and how many writes had been made when its writer read. -/
structure Write (κ : Type*) where
  edit : κ
  seen : Nat
  deriving DecidableEq, Repr

/-- The log as it was when so many writes had been made. -/
def before (log : List (Write κ)) (seen : Nat) : List (Write κ) := log.drop (log.length - seen)

theorem length_before_le (log : List (Write κ)) (seen : Nat) :
    (before log seen).length ≤ log.length := by
  rw [before, List.length_drop]
  exact Nat.sub_le _ _

/-- With every write seen, it is the whole log. -/
theorem before_length (log : List (Write κ)) : before log log.length = log := by
  rw [before, Nat.sub_self, List.drop_zero]

/-- A later write leaves the past as it was. -/
theorem before_cons (w : Write κ) {log : List (Write κ)} {seen : Nat} (h : seen ≤ log.length) :
    before (w :: log) seen = before log seen := by
  unfold before
  rw [List.length_cons, Nat.succ_sub h, List.drop_succ_cons]

/-- The document that a log of writes leaves. -/
def document (apply : κ → δ → δ) (start : δ) : List (Write κ) → δ
  | [] => start
  | w :: log => apply w.edit (document apply start (before log w.seen))
termination_by log => log.length
decreasing_by exact Nat.lt_succ_of_le (length_before_le log w.seen)

/-- The edits that are in the document, newest first: the newest one, and those that were in the
    document its writer read. -/
def kept : List (Write κ) → List κ
  | [] => []
  | w :: log => w.edit :: kept (before log w.seen)
termination_by log => log.length
decreasing_by exact Nat.lt_succ_of_le (length_before_le log w.seen)

variable (apply : κ → δ → δ) (start : δ)

/-- **The document is the kept edits, applied one after another.** -/
theorem document_eq_kept (log : List (Write κ)) :
    document apply start log = (kept log).foldr apply start := by
  induction log using kept.induct with
  | case1 =>
    rw [document, kept]
    rfl
  | case2 w log ih => rw [document, kept, List.foldr_cons, ih]

/-- The kept edits are edits of the log, in its order. -/
theorem kept_sublist (log : List (Write κ)) : (kept log).Sublist (log.map Write.edit) := by
  induction log using kept.induct with
  | case1 =>
    rw [kept]
    exact List.Sublist.refl _
  | case2 w log ih =>
    rw [kept, List.map_cons]
    exact (ih.trans ((List.drop_sublist _ _).map _)).cons_cons _

/-- The newest edit is kept. -/
theorem kept_head (log : List (Write κ)) : (kept log).head? = (log.map Write.edit).head? := by
  cases log with
  | nil => rw [kept]; rfl
  | cons w log => rw [kept]; rfl

/-- Each writer had seen every write before its own. -/
def Serial : List (Write κ) → Prop
  | [] => True
  | w :: log => w.seen = log.length ∧ Serial log

/-- **In a serial log every edit is kept.** -/
theorem kept_of_serial {log : List (Write κ)} (h : Serial log) : kept log = log.map Write.edit := by
  induction log with
  | nil => rw [kept]; rfl
  | cons w log ih =>
    obtain ⟨hseen, hserial⟩ := h
    rw [kept, hseen, before_length, ih hserial, List.map_cons]

/-! ## What is known of each write -/

/-- Each edit was made of a document it has to do with in this way. -/
def Each (P : κ → δ → Prop) : List (Write κ) → Prop
  | [] => True
  | w :: log => P w.edit (document apply start (before log w.seen)) ∧ Each P log

variable {apply start}

theorem each_drop {P : κ → δ → Prop} {log : List (Write κ)} (h : Each apply start P log) (n : Nat) :
    Each apply start P (log.drop n) := by
  induction log generalizing n with
  | nil =>
    rw [List.drop_nil]
    exact h
  | cons w log ih =>
    cases n with
    | zero => exact h
    | succ n => exact ih h.2 n

/-- **A kept edit has to do in this way with the kept edits before it.** -/
theorem each_kept {P : κ → δ → Prop} {log : List (Write κ)} (h : Each apply start P log)
    {later earlier : List κ} {k : κ} (hkept : kept log = later ++ k :: earlier) :
    P k (earlier.foldr apply start) := by
  induction log using kept.induct generalizing later with
  | case1 =>
    rw [kept] at hkept
    simp at hkept
  | case2 w log ih =>
    rw [kept] at hkept
    cases later with
    | nil =>
      obtain ⟨rfl, rfl⟩ := List.cons.inj hkept
      rw [← document_eq_kept]
      exact h.1
    | cons l later => exact ih (each_drop h.2 _) (List.cons.inj hkept).2

end ReadModifyWrite
