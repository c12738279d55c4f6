/-
  Channels that hold a value.

  A watch channel is one cell: the value stored last, and a version that moves with every store the
  receivers are to hear of.  A receiver remembers the version it has seen.  `changed` waits for a
  version it has not and marks it seen; `borrowAndUpdate` reads the cell and marks it seen in one
  step, so what it returns is what the receiver then counts as read.

  A sender that stores only what is new (`replaceIfNew`) announces its values with the repeats
  dropped (`announcements_eq`), in whatever order the senders get to the cell.  A reader that reads
  in one step with marking seen is told a part of those values, in order, and the last it was told
  is the last it has seen (`Follows`): whatever it has not been told since is still unseen.
-/
import Mathlib.Data.List.Destutter
import Mathlib.Data.Option.Basic

namespace WatchChannel

variable {α : Type*}

/-! ## The cell and its receivers -/

/-- The value stored last, and how many stores the receivers were to hear of. -/
structure Cell (α : Type*) where
  value : α
  version : Nat
  deriving DecidableEq, Repr

/-- The version a receiver has seen. -/
structure Receiver where
  seen : Nat
  deriving DecidableEq, Repr

/-- `send_if_modified`: the new value is stored either way, and announced if the update says so. -/
def Cell.sendIfModified (c : Cell α) (update : α → α × Bool) : Cell α × Bool :=
  let (value, modified) := update c.value
  (⟨value, if modified then c.version + 1 else c.version⟩, modified)

/-- `subscribe`: a new receiver starts synced. -/
def Cell.subscribe (c : Cell α) : Receiver := ⟨c.version⟩

/-- `has_changed`. -/
def Receiver.hasChanged (r : Receiver) (c : Cell α) : Bool := r.seen != c.version

/-- `changed`: returns once there is a version not seen yet, and marks it seen. -/
def Receiver.changed (r : Receiver) (c : Cell α) : Option Receiver :=
  if r.hasChanged c then some ⟨c.version⟩ else none

/-- `borrow_and_update`. -/
def Receiver.borrowAndUpdate (_ : Receiver) (c : Cell α) : α × Receiver := (c.value, ⟨c.version⟩)

theorem Receiver.hasChanged_eq_false {r : Receiver} {c : Cell α} :
    r.hasChanged c = false ↔ r.seen = c.version := by
  simp [hasChanged]

theorem Receiver.changed_eq_some {r r' : Receiver} {c : Cell α} :
    r.changed c = some r' ↔ r.seen ≠ c.version ∧ r' = ⟨c.version⟩ := by
  unfold changed
  by_cases h : r.hasChanged c = true
  · have hne : r.seen ≠ c.version := by simpa [hasChanged] using h
    rw [if_pos h]
    constructor
    · intro heq
      exact ⟨hne, (Option.some.inj heq).symm⟩
    · rintro ⟨-, rfl⟩
      rfl
  · have hseen := hasChanged_eq_false.mp (Bool.eq_false_iff.mpr h)
    rw [if_neg h]
    exact ⟨fun heq => absurd heq (Option.some_ne_none r').symm, fun heq => absurd hseen heq.1⟩

/-! ## Storing what is new -/

section

variable [DecidableEq α]

/-- Store a value unless the cell holds it already: the compare and the store are one step. -/
def Cell.replaceIfNew (c : Cell α) (x : α) : Cell α × Bool :=
  c.sendIfModified fun prev => if prev = x then (prev, false) else (x, true)

theorem Cell.replaceIfNew_same {c : Cell α} {x : α} (h : c.value = x) :
    c.replaceIfNew x = (c, false) := by
  subst h
  simp [replaceIfNew, sendIfModified]

theorem Cell.replaceIfNew_new {c : Cell α} {x : α} (h : c.value ≠ x) :
    c.replaceIfNew x = (⟨x, c.version + 1⟩, true) := by
  simp [replaceIfNew, sendIfModified, h]

/-- The values a list of stores announces to a cell that holds `held`: its repeats dropped. -/
def announcements (held : α) (xs : List α) : List α := (xs.destutter' (· ≠ ·) held).tail

@[simp] theorem announcements_nil (held : α) : announcements held [] = [] := rfl

theorem announcements_same (held : α) (xs : List α) :
    announcements held (held :: xs) = announcements held xs := by
  unfold announcements
  rw [List.destutter'_cons_neg xs (by simp)]

theorem destutter'_head (held : α) (xs : List α) :
    xs.destutter' (· ≠ ·) held = held :: announcements held xs := by
  unfold announcements
  induction xs with
  | nil => rfl
  | cons x xs ih =>
    by_cases h : held = x
    · subst h
      rw [List.destutter'_cons_neg xs (by simp)]
      exact ih
    · rw [List.destutter'_cons_pos xs h]
      rfl

theorem announcements_new {held x : α} (h : held ≠ x) (xs : List α) :
    announcements held (x :: xs) = x :: announcements x xs := by
  rw [← destutter'_head x xs]
  unfold announcements
  rw [List.destutter'_cons_pos xs h]
  rfl

/-- **One pick is announced once**, however many senders store it, and not at all to a cell that
    holds it. -/
theorem announcements_of_same {held x : α} {xs : List α} (h : ∀ y ∈ xs, y = x) :
    announcements held xs = if xs = [] ∨ held = x then [] else [x] := by
  -- once the cell holds the pick nothing more is announced
  have hheld : ∀ ys : List α, (∀ y ∈ ys, y = x) → announcements x ys = [] := by
    intro ys hys
    induction ys with
    | nil => rfl
    | cons y ys ih =>
      obtain rfl := hys y List.mem_cons_self
      rw [announcements_same]
      exact ih fun z hz => hys z (List.mem_cons_of_mem _ hz)
  cases xs with
  | nil => simp
  | cons y ys =>
    obtain rfl := h y List.mem_cons_self
    by_cases heq : held = y
    · subst heq
      simp only [or_true, if_true]
      exact hheld _ h
    · rw [announcements_new heq, hheld ys fun z hz => h z (List.mem_cons_of_mem _ hz)]
      simp [heq]

end

/-! ## What a reader was told -/

/-- A reader was told a part of a history, in order; the last it was told is the last of it. -/
structure Follows (told history : List α) : Prop where
  sublist : told.Sublist history
  latest : told ≠ [] → told.getLast? = history.getLast?

namespace Follows

variable {told history : List α}

theorem nothing (history : List α) : Follows [] history :=
  ⟨List.nil_sublist _, fun h => absurd rfl h⟩

/-- The next read takes in all that was new, and returns the last of it. -/
theorem read (h : Follows told history) {new : List α} {x : α} (hlast : new.getLast? = some x) :
    Follows (told ++ [x]) (history ++ new) := by
  obtain ⟨older, rfl⟩ := List.getLast?_eq_some_iff.mp hlast
  refine ⟨?_, ?_⟩
  · exact h.sublist.append (List.sublist_append_right older [x])
  · intro _
    rw [← List.append_assoc]
    simp

/-- A first read that returns the last of the history. -/
theorem first {x : α} (hlast : history.getLast? = some x) : Follows [x] history := by
  obtain ⟨older, rfl⟩ := List.getLast?_eq_some_iff.mp hlast
  exact ⟨List.sublist_append_right older [x], fun _ => by simp⟩

/-- A first value out of the history, and the last one behind it if that is another. -/
theorem two {x y : α} (hmem : x ∈ history) (hlast : history.getLast? = some y) (hne : y ≠ x) :
    Follows [x, y] history := by
  obtain ⟨older, rfl⟩ := List.getLast?_eq_some_iff.mp hlast
  have holder : x ∈ older := by
    rcases List.mem_append.mp hmem with hin | hin
    · exact hin
    · exact absurd (List.mem_singleton.mp hin).symm hne
  refine ⟨?_, fun _ => by simp⟩
  exact (List.singleton_sublist.mpr holder).append (List.Sublist.refl [y])

/-- A reader that has seen all of a history was last told its last value. -/
theorem current {x : α} (h : Follows told history) (hlast : history.getLast? = some x)
    (htold : told ≠ []) : told.getLast? = some x :=
  (h.latest htold).trans hlast

end Follows

end WatchChannel
