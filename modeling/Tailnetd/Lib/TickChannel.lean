/-
  Watchers woken by ticks.

  A source counts its ticks.  A watcher is woken by a tick it has not seen and then reads the source
  itself, so several ticks may be one wake-up and the read may be newer than the tick.  The source
  announces its view when every change of it comes with a tick (`Announces`); a watcher that is
  caught up then has the current view (`Watcher.Fresh.current`).
-/
import Mathlib.Data.Option.Basic

namespace TickChannel

variable {σ ν : Type*}

/-- A watcher: the ticks it has seen, whether it still has to read, and what it read last. -/
structure Watcher (ν : Type*) where
  seen : Nat
  owed : Bool
  last : Option ν

section

variable (ticks : σ → Nat) (view : σ → ν)

/-- A new watcher starts synced and owes its first read. -/
def Watcher.subscribe (s : σ) : Watcher ν := ⟨ticks s, true, none⟩

/-- An unseen tick wakes a watcher that is not about to read anyway. -/
def Watcher.wake (r : Watcher ν) (s : σ) : Option (Watcher ν) :=
  if !r.owed && r.seen != ticks s then some { r with seen := ticks s, owed := true } else none

/-- A watcher that owes a read reads the source. -/
def Watcher.read (r : Watcher ν) (s : σ) : Option (Watcher ν) :=
  if r.owed then some { r with owed := false, last := some (view s) } else none

/-- Every tick was seen and every read it owed was made. -/
def Watcher.CaughtUp (r : Watcher ν) (s : σ) : Prop := r.owed = false ∧ r.seen = ticks s

/-- From one state to the next the view stays, or a tick tells of it. -/
def Announces (s t : σ) : Prop := ticks s ≤ ticks t ∧ (ticks t = ticks s → view t = view s)

/-- A watcher that is caught up has the current view. -/
structure Watcher.Fresh (r : Watcher ν) (s : σ) : Prop where
  seen_le : r.seen ≤ ticks s
  current : r.CaughtUp ticks s → r.last = some (view s)

end

variable {ticks : σ → Nat} {view : σ → ν}

namespace Announces

theorem refl (s : σ) : Announces ticks view s s := ⟨Nat.le_refl _, fun _ => rfl⟩

theorem trans {s t u : σ} (h : Announces ticks view s t) (h' : Announces ticks view t u) :
    Announces ticks view s u := by
  refine ⟨Nat.le_trans h.1 h'.1, ?_⟩
  intro heq
  -- the count did not move, so it did not move on the way either
  have hle := h.1
  have hle' := h'.1
  have hmid : ticks t = ticks s := by omega
  rw [h'.2 (by omega), h.2 hmid]

/-- A tick tells of any change. -/
theorem of_tick {s t : σ} (h : ticks s < ticks t) : Announces ticks view s t :=
  ⟨Nat.le_of_lt h, fun heq => by omega⟩

/-- Nothing to tell. -/
theorem of_view {s t : σ} (hle : ticks s ≤ ticks t) (h : view t = view s) :
    Announces ticks view s t :=
  ⟨hle, fun _ => h⟩

end Announces

namespace Watcher.Fresh

theorem subscribe (s : σ) : (Watcher.subscribe ticks s).Fresh ticks view s :=
  ⟨Nat.le_refl _, fun h => by cases h.1⟩

theorem wake {r r' : Watcher ν} {s : σ} (h : r.wake ticks s = some r') : r'.Fresh ticks view s := by
  unfold Watcher.wake at h
  split at h
  · cases h
    exact ⟨Nat.le_refl _, fun hcaught => by cases hcaught.1⟩
  · cases h

theorem read {r r' : Watcher ν} {s : σ} (hr : r.Fresh ticks view s) (h : r.read view s = some r') :
    r'.Fresh ticks view s := by
  unfold Watcher.read at h
  split at h
  · cases h
    exact ⟨hr.seen_le, fun _ => rfl⟩
  · cases h

/-- **The source may move on** as long as it announces its view. -/
theorem announced {r : Watcher ν} {s t : σ} (hr : r.Fresh ticks view s)
    (h : Announces ticks view s t) : r.Fresh ticks view t := by
  have hle := h.1
  have hseen := hr.seen_le
  refine ⟨by omega, ?_⟩
  rintro ⟨howed, hcaught⟩
  have hsame : ticks t = ticks s := by omega
  rw [h.2 hsame]
  exact hr.current ⟨howed, by omega⟩

/-- Only the ticks and the view of the source matter. -/
theorem same {r : Watcher ν} {s t : σ} (hr : r.Fresh ticks view s) (hticks : ticks t = ticks s)
    (hview : view t = view s) : r.Fresh ticks view t :=
  hr.announced (.of_view (Nat.le_of_eq hticks.symm) hview)

end Watcher.Fresh

end TickChannel
