/-
  Counted permits.

  A pool of `cap` permits is tried and never waited for: a permit is taken when one is free, and the
  asker is turned away when none is.  That no more are out than there are is part of a `Pool`.

  Who holds one stands in a list of workers.  `Accounts pool p workers` says that the permits in use
  are those of the workers with `p`; every rule below is one move of a worker with the permit it
  takes or gives back.
-/
import Mathlib.Data.List.Perm.Basic

namespace Permits

/-- A pool of permits, by the number in use. -/
structure Pool (cap : Nat) where
  inUse : Nat
  bounded : inUse ≤ cap
  deriving DecidableEq, Repr

variable {cap : Nat} {α : Type*}

namespace Pool

/-- All permits are free. -/
def full (cap : Nat) : Pool cap := ⟨0, Nat.zero_le _⟩

/-- `try_acquire_owned`. -/
def tryAcquire (pool : Pool cap) : Option (Pool cap) :=
  if h : pool.inUse < cap then some ⟨pool.inUse + 1, h⟩ else none

/-- A permit is dropped. -/
def release (pool : Pool cap) : Pool cap :=
  ⟨pool.inUse - 1, Nat.le_trans (Nat.sub_le _ _) pool.bounded⟩

@[simp] theorem inUse_release (pool : Pool cap) : pool.release.inUse = pool.inUse - 1 := rfl

theorem tryAcquire_eq_some {pool pool' : Pool cap} (h : pool.tryAcquire = some pool') :
    pool'.inUse = pool.inUse + 1 := by
  unfold tryAcquire at h
  split at h
  · cases h
    rfl
  · cases h

/-- Only an exhausted pool turns an asker away. -/
theorem tryAcquire_eq_none {pool : Pool cap} : pool.tryAcquire = none ↔ pool.inUse = cap := by
  have hle := pool.bounded
  unfold tryAcquire
  split
  · rename_i hlt
    exact iff_of_false (Option.some_ne_none _) (by omega)
  · exact iff_of_true rfl (by omega)

end Pool

/-! ## Workers at their positions -/

/-- The workers are the one at a position and the rest. -/
theorem perm_cons_eraseIdx {l : List α} {i : Nat} {a : α} (h : l[i]? = some a) :
    (a :: l.eraseIdx i).Perm l := by
  obtain ⟨hlt, rfl⟩ := List.getElem?_eq_some_iff.mp h
  exact List.getElem_cons_eraseIdx_perm hlt

/-- With the one replaced, they are the new one and the rest. -/
theorem set_perm {l : List α} {i : Nat} {a b : α} (h : l[i]? = some a) :
    (l.set i b).Perm (b :: l.eraseIdx i) :=
  List.set_perm_cons_eraseIdx (List.getElem?_eq_some_iff.mp h).1 b

/-! ## Permits and the workers that hold them -/

/-- The permits in use are those of the workers with `p`. -/
def Accounts (pool : Pool cap) (p : α → Bool) (workers : List α) : Prop :=
  pool.inUse = workers.countP p

namespace Accounts

variable {pool pool' : Pool cap} {p : α → Bool} {workers : List α} {i : Nat} {a b : α}

theorem nobody (cap : Nat) (p : α → Bool) : Accounts (Pool.full cap) p [] := rfl

/-- **No more workers hold a permit than there are.** -/
theorem bounded (h : Accounts pool p workers) : workers.countP p ≤ cap := by
  rw [← h]
  exact pool.bounded

/-- A worker that took a permit joins. -/
theorem joined (h : Accounts pool p workers) (htake : pool.tryAcquire = some pool')
    (hp : p a = true) : Accounts pool' p (workers ++ [a]) := by
  rw [Accounts, Pool.tryAcquire_eq_some htake, h, List.countP_append, List.countP_singleton,
    if_pos hp]

/-- A worker without a permit joins. -/
theorem joined_without (h : Accounts pool p workers) (hp : p a = false) :
    Accounts pool p (workers ++ [a]) := by
  rw [Accounts, h, List.countP_append, List.countP_singleton, if_neg (by simp [hp]), Nat.add_zero]

/-- A worker leaves, and drops its permit if it has one. -/
theorem left (h : Accounts pool p workers) (hi : workers[i]? = some a) :
    Accounts (if p a then pool.release else pool) p (workers.eraseIdx i) := by
  have hcount := (perm_cons_eraseIdx hi).countP_eq p
  rw [List.countP_cons] at hcount
  rw [Accounts] at h ⊢
  split at hcount
  · rename_i hp
    rw [if_pos hp, Pool.inUse_release]
    omega
  · rename_i hp
    rw [if_neg hp]
    omega

/-- One worker replaced, counted. -/
theorem countP_set (hi : workers[i]? = some a) :
    (workers.set i b).countP p + (if p a then 1 else 0) =
      workers.countP p + if p b then 1 else 0 := by
  have hbefore := (perm_cons_eraseIdx hi).countP_eq p
  have hafter := (set_perm (b := b) hi).countP_eq p
  rw [List.countP_cons] at hbefore hafter
  omega

/-- A worker goes on without its permit changing. -/
theorem moved (h : Accounts pool p workers) (hi : workers[i]? = some a) (hp : p b = p a) :
    Accounts pool p (workers.set i b) := by
  have hcount := countP_set (p := p) (b := b) hi
  rw [Accounts] at h ⊢
  rw [hp] at hcount
  omega

/-- A worker takes a permit. -/
theorem took (h : Accounts pool p workers) (hi : workers[i]? = some a)
    (htake : pool.tryAcquire = some pool') (ha : p a = false) (hb : p b = true) :
    Accounts pool' p (workers.set i b) := by
  have hcount := countP_set (p := p) (b := b) hi
  rw [if_neg (by simp [ha]), if_pos hb] at hcount
  rw [Accounts, Pool.tryAcquire_eq_some htake, h]
  omega

/-- A worker drops its permit. -/
theorem dropped (h : Accounts pool p workers) (hi : workers[i]? = some a) (ha : p a = true)
    (hb : p b = false) : Accounts pool.release p (workers.set i b) := by
  have hcount := countP_set (p := p) (b := b) hi
  rw [if_pos ha, if_neg (by simp [hb])] at hcount
  rw [Accounts, Pool.inUse_release, h]
  omega

end Accounts

end Permits
