/-
  A watcher of something that is replaced while it is watched.

  A hub has at most one channel at a time.  A channel holds a value and counts its sends; the hub
  counts the epochs it announces.  A channel that was taken out closes at some later time.

  The watcher works on two levels.  It subscribes to the epochs once; then, over and over, it takes
  the value shown and the channel installed in one look, and waits for either to move.  A send makes
  it look at the value again, an epoch or the end of its channel makes it start over.

  What the hub promises (`Moves`) is that no channel is installed without a new epoch.  Then a
  watcher that nothing is about to wake shows the present value (`Fresh.current`), except for one
  case: its channel was taken out without a new epoch, and has not closed.
-/
import Mathlib.Data.Option.Basic
import Mathlib.Logic.Function.Basic

namespace EpochWatch

variable {ν : Type*}

/-! ## The hub -/

/-- What a watcher can see, and the channels behind it. -/
structure Hub (ν : Type*) where
  epoch : Nat
  /-- The channel installed, and what it holds. -/
  current : Option (Nat × ν)
  /-- The channels from here on are still to be made. -/
  next : Nat
  sends : Nat → Nat
  closed : Nat → Bool

/-- What a hub can do. -/
inductive Moves (h : Hub ν) : Hub ν → Prop
  | stays {next : Nat} (hnext : h.next ≤ next) : Moves h { h with next := next }
  /-- The installed channel sends. -/
  | sent {k : Nat} {v v' : ν} (hcurrent : h.current = some (k, v)) :
      Moves h { h with
        current := some (k, v'), sends := Function.update h.sends k (h.sends k + 1) }
  /-- The channel is taken out, with a new epoch or without. -/
  | stopped {epoch next : Nat} (hepoch : h.epoch ≤ epoch) (hnext : h.next ≤ next) :
      Moves h { h with epoch := epoch, current := none, next := next }
  /-- A channel is installed, always with a new epoch. -/
  | installed {epoch : Nat} {v : ν} (hepoch : h.epoch < epoch) :
      Moves h { h with epoch := epoch, current := some (h.next, v), next := h.next + 1 }
  /-- A channel that is not installed closes. -/
  | closed {k : Nat} (hold : k < h.next) (hout : ∀ v, h.current ≠ some (k, v)) :
      Moves h { h with closed := Function.update h.closed k true }

/-- A hub whose installed channel exists. -/
def Hub.Sound (h : Hub ν) : Prop := ∀ k v, h.current = some (k, v) → k < h.next

theorem Moves.sound {h h' : Hub ν} (hs : h.Sound) (hmove : Moves h h') : h'.Sound := by
  intro k v hk
  cases hmove with
  | stays hnext => exact Nat.lt_of_lt_of_le (hs k v hk) hnext
  | sent hcurrent =>
    cases hk
    exact hs _ _ hcurrent
  | stopped => cases hk
  | installed =>
    cases hk
    exact Nat.lt_succ_self _
  | closed => exact hs k v hk

/-! ## The watcher -/

/-- A receiver: its channel and the sends it has seen. -/
structure Receiver where
  channel : Nat
  seen : Nat
  deriving DecidableEq, Repr

/-- Where a watcher is. -/
inductive Place where
  /-- It is about to look at the hub. -/
  | starting
  /-- It waits, for its channel too when it has one. -/
  | waiting (rx : Option Receiver)
  /-- Its channel sent, and it is about to look at the value. -/
  | woken (rx : Receiver)
  deriving DecidableEq, Repr

/-- A watcher, with what it showed last: a channel and its value, or that there is none. -/
structure Watcher (ν : Type*) where
  epoch : Nat
  place : Place
  shown : Option (Option (Nat × ν))

namespace Watcher

/-- It subscribes to the epochs before its first look. -/
def subscribe (h : Hub ν) : Watcher ν := ⟨h.epoch, .starting, none⟩

/-- It shows what the hub holds and takes the receiver of the installed channel, which has seen no
    more than was sent. -/
def look (w : Watcher ν) (h : Hub ν) (seen : Nat) : Option (Watcher ν) :=
  match w.place, h.current with
  | .starting, none => some { w with place := .waiting none, shown := some none }
  | .starting, some (k, v) =>
    if seen ≤ h.sends k then
      some { w with place := .waiting (some ⟨k, seen⟩), shown := some (some (k, v)) }
    else none
  | _, _ => none

/-- A send it has not seen wakes it. -/
def wakeSend (w : Watcher ν) (h : Hub ν) : Option (Watcher ν) :=
  match w.place with
  | .waiting (some rx) =>
    if rx.seen < h.sends rx.channel then
      some { w with place := .woken { rx with seen := h.sends rx.channel } }
    else none
  | _ => none

/-- It looks at the value again. -/
def lookAgain (w : Watcher ν) (h : Hub ν) : Option (Watcher ν) :=
  match w.place with
  | .woken rx => some { w with place := .waiting (some rx), shown := some h.current }
  | _ => none

/-- A new epoch makes it start over. -/
def wakeEpoch (w : Watcher ν) (h : Hub ν) : Option (Watcher ν) :=
  match w.place with
  | .waiting _ =>
    if w.epoch < h.epoch then some { w with epoch := h.epoch, place := .starting } else none
  | _ => none

/-- So does the end of its channel, once every send was seen. -/
def wakeClosed (w : Watcher ν) (h : Hub ν) : Option (Watcher ν) :=
  match w.place with
  | .waiting (some rx) =>
    if h.closed rx.channel ∧ h.sends rx.channel ≤ rx.seen then some { w with place := .starting }
    else none
  | _ => none

/-- It waits, and nothing is about to wake it. -/
def Idle (w : Watcher ν) (h : Hub ν) : Prop :=
  (∃ rx, w.place = .waiting rx) ∧ w.wakeSend h = none ∧ w.wakeEpoch h = none ∧
    w.wakeClosed h = none

end Watcher

/-! ## What it shows -/

/-- A receiver of the installed channel, or of one that was taken out. -/
def Receiver.Holds (rx : Receiver) (h : Hub ν) : Prop :=
  rx.channel < h.next ∧ rx.seen ≤ h.sends rx.channel

/-- **What a watcher knows.**  As long as no epoch has come since, the channel it waits for is the
    one installed, or none is; and as long as that one has not sent since, it shows its value. -/
structure Fresh (w : Watcher ν) (h : Hub ν) : Prop where
  epoch : w.epoch ≤ h.epoch
  alone : w.place = .waiting none → w.epoch = h.epoch → h.current = none ∧ w.shown = some none
  holds : ∀ rx, w.place = .waiting (some rx) ∨ w.place = .woken rx → rx.Holds h ∧
    (w.epoch = h.epoch → ∀ k v, h.current = some (k, v) → k = rx.channel)
  value : ∀ rx, w.place = .waiting (some rx) → w.epoch = h.epoch → rx.seen = h.sends rx.channel →
    ∀ k v, h.current = some (k, v) → w.shown = some h.current

namespace Fresh

variable {h h' : Hub ν} {w w' : Watcher ν}

/-- A watcher that starts over knows nothing yet. -/
theorem starting (hepoch : w.epoch ≤ h.epoch) (hplace : w.place = .starting) : Fresh w h := by
  refine ⟨hepoch, fun hp => ?_, fun rx hp => ?_, fun rx hp => ?_⟩
  · rw [hplace] at hp
    cases hp
  · rw [hplace] at hp
    rcases hp with hp | hp <;> cases hp
  · rw [hplace] at hp
    cases hp

theorem subscribe (h : Hub ν) : Fresh (Watcher.subscribe h) h := starting (Nat.le_refl _) rfl

/-- The hub moves under a watcher. -/
theorem moves (hw : Fresh w h) (hmove : Moves h h') : Fresh w h' := by
  cases hmove with
  | stays hnext =>
    refine ⟨hw.epoch, hw.alone, fun rx hrx => ?_, hw.value⟩
    obtain ⟨⟨hlt, hseen⟩, hsame⟩ := hw.holds rx hrx
    exact ⟨⟨Nat.lt_of_lt_of_le hlt hnext, hseen⟩, hsame⟩
  | @sent k v v' hcurrent =>
    have hgrows : ∀ j, h.sends j ≤ Function.update h.sends k (h.sends k + 1) j := by
      intro j
      by_cases hj : j = k
      · subst hj
        rw [Function.update_self]
        exact Nat.le_succ _
      · exact Nat.le_of_eq (Function.update_of_ne hj _ _).symm
    refine ⟨hw.epoch, fun hplace hepoch => ?_, fun rx hrx => ?_, fun rx hplace hepoch hseen => ?_⟩
    · have hnone := (hw.alone hplace hepoch).1
      exact absurd (hcurrent.symm.trans hnone) (Option.some_ne_none _)
    · obtain ⟨⟨hlt, hseen⟩, hsame⟩ := hw.holds rx hrx
      refine ⟨⟨hlt, Nat.le_trans hseen (hgrows _)⟩, fun hepoch j u hj => ?_⟩
      cases hj
      exact hsame hepoch k v hcurrent
    · -- the channel waited for is the one that sent, so a send is unseen
      obtain ⟨⟨-, hle⟩, hsame⟩ := hw.holds rx (.inl hplace)
      obtain rfl := hsame hepoch k v hcurrent
      dsimp only at hseen
      rw [Function.update_self] at hseen
      omega
  | stopped hepoch hnext =>
    refine ⟨Nat.le_trans hw.epoch hepoch, fun hplace heq => ⟨rfl, ?_⟩, fun rx hrx => ?_,
      fun _ _ _ _ _ _ hk => by cases hk⟩
    · have hle := hw.epoch
      exact (hw.alone hplace (by dsimp only at heq; omega)).2
    · obtain ⟨⟨hlt, hseen⟩, -⟩ := hw.holds rx hrx
      exact ⟨⟨Nat.lt_of_lt_of_le hlt hnext, hseen⟩, fun _ _ _ hk => by cases hk⟩
  | installed hepoch =>
    have hlt : w.epoch < _ := Nat.lt_of_le_of_lt hw.epoch hepoch
    refine ⟨Nat.le_of_lt hlt, fun _ heq => absurd heq (Nat.ne_of_lt hlt), fun rx hrx => ?_,
      fun _ _ heq => absurd heq (Nat.ne_of_lt hlt)⟩
    obtain ⟨⟨hold, hseen⟩, -⟩ := hw.holds rx hrx
    exact ⟨⟨Nat.lt_succ_of_lt hold, hseen⟩, fun heq => absurd heq (Nat.ne_of_lt hlt)⟩
  | closed => exact ⟨hw.epoch, hw.alone, hw.holds, hw.value⟩

theorem look {seen : Nat} (hw : Fresh w h) (hs : h.Sound) (hlook : w.look h seen = some w') :
    Fresh w' h := by
  unfold Watcher.look at hlook
  split at hlook
  · rename_i hcurrent
    cases hlook
    refine ⟨hw.epoch, fun _ _ => ⟨hcurrent, rfl⟩, fun rx hrx => ?_, fun rx hplace => ?_⟩
    · rcases hrx with hrx | hrx <;> cases hrx
    · cases hplace
  · rename_i k v _ hcurrent
    split at hlook <;> cases hlook
    rename_i hseen
    refine ⟨hw.epoch, fun hplace => (by cases hplace), fun rx hrx => ?_, fun rx hplace => ?_⟩
    · rcases hrx with hrx | hrx <;> cases hrx
      refine ⟨⟨hs k v hcurrent, hseen⟩, fun _ j u hj => ?_⟩
      rw [hcurrent] at hj
      cases hj
      rfl
    · intro _ _ _ _ _
      rw [hcurrent]
  · cases hlook

theorem wakeSend (hw : Fresh w h) (hwake : w.wakeSend h = some w') : Fresh w' h := by
  unfold Watcher.wakeSend at hwake
  split at hwake
  · rename_i rx hplace
    split at hwake <;> cases hwake
    obtain ⟨⟨hlt, -⟩, hsame⟩ := hw.holds rx (.inl hplace)
    refine ⟨hw.epoch, fun hplace => (by cases hplace), fun rx' hrx => ?_, fun rx' hplace => ?_⟩
    · rcases hrx with hrx | hrx <;> cases hrx
      exact ⟨⟨hlt, Nat.le_refl _⟩, hsame⟩
    · cases hplace
  · cases hwake

theorem lookAgain (hw : Fresh w h) (hlook : w.lookAgain h = some w') : Fresh w' h := by
  unfold Watcher.lookAgain at hlook
  split at hlook
  · rename_i rx hplace
    cases hlook
    refine ⟨hw.epoch, fun hplace => (by cases hplace), fun rx' hrx => ?_, fun _ _ _ _ _ _ _ => rfl⟩
    rcases hrx with hrx | hrx <;> cases hrx
    exact hw.holds rx (.inr hplace)
  · cases hlook

theorem wakeEpoch (hwake : w.wakeEpoch h = some w') : Fresh w' h := by
  unfold Watcher.wakeEpoch at hwake
  split at hwake
  · split at hwake <;> cases hwake
    exact starting (Nat.le_refl _) rfl
  · cases hwake

theorem wakeClosed (hw : Fresh w h) (hwake : w.wakeClosed h = some w') : Fresh w' h := by
  unfold Watcher.wakeClosed at hwake
  split at hwake
  · split at hwake <;> cases hwake
    exact starting hw.epoch rfl
  · cases hwake

/-- **An idle watcher shows what there is**, or waits for a channel that was taken out without a new
    epoch and has not closed. -/
theorem current (hw : Fresh w h) (hidle : w.Idle h) : w.shown = some h.current ∨
    h.current = none ∧ ∃ rx, w.place = .waiting (some rx) ∧ h.closed rx.channel = false := by
  obtain ⟨⟨rx, hplace⟩, hsend, hepoch, hclosed⟩ := hidle
  have hsame : w.epoch = h.epoch := by
    have hle := hw.epoch
    unfold Watcher.wakeEpoch at hepoch
    rw [hplace] at hepoch
    dsimp only at hepoch
    split at hepoch
    · cases hepoch
    · omega
  rcases rx with _ | rx
  · obtain ⟨hnone, hshown⟩ := hw.alone hplace hsame
    exact .inl (by rw [hshown, hnone])
  · have hseen : rx.seen = h.sends rx.channel := by
      have hle := (hw.holds rx (.inl hplace)).1.2
      unfold Watcher.wakeSend at hsend
      rw [hplace] at hsend
      dsimp only at hsend
      split at hsend
      · cases hsend
      · omega
    rcases hcurrent : h.current with _ | ⟨k, v⟩
    · have hopen : h.closed rx.channel = false := by
        unfold Watcher.wakeClosed at hclosed
        rw [hplace] at hclosed
        dsimp only at hclosed
        split at hclosed
        · cases hclosed
        · rename_i hno
          exact Bool.eq_false_iff.mpr fun h => hno ⟨h, Nat.le_of_eq hseen.symm⟩
      exact .inr ⟨rfl, rx, hplace, hopen⟩
    · have hshown := hw.value rx hplace hsame hseen k v hcurrent
      rw [hcurrent] at hshown
      exact .inl hshown

end Fresh

end EpochWatch
