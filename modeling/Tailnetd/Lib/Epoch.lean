/-
  A slot guarded by an epoch.

  At most one holder sits in the slot.  Whoever wants to put a holder in draws a ticket (the epoch
  of that moment), prepares for as long as that takes, and comes back with a holder: a ticket that
  is still the current epoch installs it, any other hands it back.  Whatever empties the slot for
  good, or fills it, moves the epoch and so makes every ticket drawn before stale.

  `Sound` is the invariant of the protocol, and `Sound.run` carries it along any run.  From it:
  no two tickets are equal, an install finds the slot empty, nothing that moves the epoch lies
  between the ticket and its install, and each ticket is settled at most once.
-/
import Mathlib.Data.List.Perm.Basic
import Tailnetd.Lib.Machine

namespace Epoch

variable {ν : Type*}

/-! ## The slot -/

/-- One entry of the slot's history. -/
inductive Mark (ν : Type*) where
  /-- The slot was emptied, and every ticket with it. -/
  | revoked
  | issued (ticket : Nat)
  | installed (ticket : Nat) (holder : ν)
  | returned (ticket : Nat) (holder : ν)

/-- The ticket this entry issued. -/
def Mark.issue? : Mark ν → Option Nat
  | .issued t => some t
  | _ => none

/-- The ticket this entry settled. -/
def Mark.settle? : Mark ν → Option Nat
  | .installed t _ => some t
  | .returned t _ => some t
  | _ => none

/-- Whether this entry moved the epoch. -/
def Mark.moves : Mark ν → Bool
  | .returned _ _ => false
  | _ => true

/-- A slot: the epoch, the holder, the tickets still out, and the history, newest first. -/
structure Slot (ν : Type*) where
  epoch : Nat
  holder : Option ν
  tickets : List Nat
  history : List (Mark ν)

/-- What can happen to a slot. -/
inductive Move (ν : Type*) where
  /-- The holder leaves; the tickets stay good. -/
  | clear
  | revoke
  /-- A ticket is drawn, by someone who emptied the slot first. -/
  | issue
  /-- The ticket at this position comes back with a holder. -/
  | settle (i : Nat) (holder : ν)
  /-- The ticket at this position comes back with nothing. -/
  | expire (i : Nat)

namespace Slot

def issued (s : Slot ν) : List Nat := s.history.filterMap Mark.issue?

def settled (s : Slot ν) : List Nat := s.history.filterMap Mark.settle?

/-- A slot before anything happened. -/
def empty (ν : Type*) (epoch : Nat) : Slot ν := ⟨epoch, none, [], []⟩

def step (s : Slot ν) : Move ν → Option (Slot ν)
  | .clear => some { s with holder := none }
  | .revoke =>
    some { s with epoch := s.epoch + 1, holder := none, history := .revoked :: s.history }
  | .issue =>
    some
      { epoch := s.epoch + 1
        holder := none
        tickets := s.tickets ++ [s.epoch + 1]
        history := .issued (s.epoch + 1) :: s.history }
  | .settle i v =>
    match s.tickets[i]? with
    | none => none
    | some t =>
      if t = s.epoch then
        some
          { epoch := s.epoch + 1
            holder := some v
            tickets := s.tickets.eraseIdx i
            history := .installed t v :: s.history }
      else
        some
          { s with
            tickets := s.tickets.eraseIdx i
            history := .returned t v :: s.history }
  | .expire i =>
    match s.tickets[i]? with
    | none => none
    | some _ => some { s with tickets := s.tickets.eraseIdx i }

end Slot

/-! ## The invariant -/

/-- Since this ticket was issued, nothing moved the epoch. -/
def Quiet (ticket : Nat) (history : List (Mark ν)) : Prop :=
  ∃ newer older, history = newer ++ .issued ticket :: older ∧ ∀ m ∈ newer, m.moves = false

theorem Quiet.cons {t : Nat} {history : List (Mark ν)} {m : Mark ν} (h : Quiet t history)
    (hm : m.moves = false) : Quiet t (m :: history) := by
  obtain ⟨newer, older, rfl, hnewer⟩ := h
  refine ⟨m :: newer, older, rfl, ?_⟩
  intro x hx
  rcases List.mem_cons.mp hx with rfl | hx
  · exact hm
  · exact hnewer x hx

/-- Every install of the history came on a quiet ticket. -/
def InstallsQuiet (history : List (Mark ν)) : Prop :=
  ∀ newer t v older, history = newer ++ .installed t v :: older → Quiet t older

/-- An entry that installs nothing adds no obligation. -/
theorem InstallsQuiet.cons {history : List (Mark ν)} {m : Mark ν} (h : InstallsQuiet history)
    (hm : ∀ t v, m = .installed t v → Quiet t history) : InstallsQuiet (m :: history) := by
  intro newer t v older heq
  rcases List.cons_eq_append_iff.mp heq with ⟨rfl, hcons⟩ | ⟨newer', rfl, hrest⟩
  · cases hcons
    exact hm t v rfl
  · exact h newer' t v older hrest

/-- What holds of a slot in every run. -/
structure Sound (s : Slot ν) : Prop where
  issued_le : ∀ t ∈ s.issued, t ≤ s.epoch
  issued_nodup : s.issued.Nodup
  tickets_le : ∀ t ∈ s.tickets ++ s.settled, t ≤ s.epoch
  /-- No ticket is settled twice, or settled and still out. -/
  tickets_nodup : (s.tickets ++ s.settled).Nodup
  /-- While the current ticket is out, the slot is empty. -/
  current_empty : s.epoch ∈ s.tickets → s.holder = none
  current_quiet : s.epoch ∈ s.tickets → Quiet s.epoch s.history
  installs_quiet : InstallsQuiet s.history

theorem sound_empty (epoch : Nat) : Sound (Slot.empty ν epoch) where
  issued_le := by simp [Slot.empty, Slot.issued]
  issued_nodup := by simp [Slot.empty, Slot.issued]
  tickets_le := by simp [Slot.empty, Slot.settled]
  tickets_nodup := by simp [Slot.empty, Slot.settled]
  current_empty := by simp [Slot.empty]
  current_quiet := by simp [Slot.empty]
  installs_quiet := by
    intro newer t v older h
    simp [Slot.empty] at h

/-- A ticket beyond every ticket so far is not out. -/
theorem Sound.fresh {s : Slot ν} (h : Sound s) : s.epoch + 1 ∉ s.tickets := by
  intro hmem
  have := h.tickets_le _ (List.mem_append_left _ hmem)
  omega

theorem Sound.clear {s : Slot ν} (h : Sound s) : Sound { s with holder := none } :=
  { h with current_empty := fun _ => rfl }

theorem Sound.revoke {s : Slot ν} (h : Sound s) :
    Sound { s with epoch := s.epoch + 1, holder := none, history := .revoked :: s.history } where
  issued_le t ht := Nat.le_succ_of_le (h.issued_le t ht)
  issued_nodup := h.issued_nodup
  tickets_le t ht := Nat.le_succ_of_le (h.tickets_le t ht)
  tickets_nodup := h.tickets_nodup
  current_empty _ := rfl
  current_quiet ht := absurd ht h.fresh
  installs_quiet := h.installs_quiet.cons fun _ _ hm => by cases hm

theorem Sound.issue {s : Slot ν} (h : Sound s) :
    Sound
      { epoch := s.epoch + 1
        holder := none
        tickets := s.tickets ++ [s.epoch + 1]
        history := .issued (s.epoch + 1) :: s.history : Slot ν } where
  issued_le t ht := by
    rcases List.mem_cons.mp ht with rfl | ht
    · exact Nat.le_refl _
    · exact Nat.le_succ_of_le (h.issued_le t ht)
  issued_nodup := by
    refine List.nodup_cons.mpr ⟨fun ht => ?_, h.issued_nodup⟩
    have := h.issued_le _ ht
    omega
  tickets_le t ht := by
    rw [List.append_assoc] at ht
    rcases List.mem_append.mp ht with ht | ht
    · exact Nat.le_succ_of_le (h.tickets_le t (List.mem_append_left _ ht))
    · rcases List.mem_cons.mp ht with rfl | ht
      · exact Nat.le_refl _
      · exact Nat.le_succ_of_le (h.tickets_le t (List.mem_append_right _ ht))
  tickets_nodup := by
    have hperm : ((s.epoch + 1) :: (s.tickets ++ s.settled)).Perm
        ((s.tickets ++ [s.epoch + 1]) ++ s.settled) := by
      rw [List.append_assoc]
      exact List.perm_middle.symm
    refine hperm.nodup_iff.mp (List.nodup_cons.mpr ⟨fun ht => ?_, h.tickets_nodup⟩)
    have := h.tickets_le _ ht
    omega
  current_empty _ := rfl
  current_quiet _ := ⟨[], s.history, rfl, by simp⟩
  installs_quiet := h.installs_quiet.cons fun _ _ hm => by cases hm

/-- Settling a ticket moves it from one list to the other. -/
theorem settle_perm {s : Slot ν} {i t : Nat} (h : s.tickets[i]? = some t) :
    (s.tickets ++ s.settled).Perm (s.tickets.eraseIdx i ++ t :: s.settled) := by
  obtain ⟨hi, rfl⟩ := List.getElem?_eq_some_iff.mp h
  refine List.Perm.trans ?_ List.perm_middle.symm
  exact (List.getElem_cons_eraseIdx_perm hi).symm.append_right s.settled

theorem Sound.install {s : Slot ν} (h : Sound s) {i : Nat} (v : ν)
    (ht : s.tickets[i]? = some s.epoch) :
    Sound
      { epoch := s.epoch + 1
        holder := some v
        tickets := s.tickets.eraseIdx i
        history := .installed s.epoch v :: s.history : Slot ν } where
  issued_le t hm := Nat.le_succ_of_le (h.issued_le t hm)
  issued_nodup := h.issued_nodup
  tickets_le t hm := Nat.le_succ_of_le (h.tickets_le t ((settle_perm ht).mem_iff.mpr hm))
  tickets_nodup := (settle_perm ht).nodup_iff.mp h.tickets_nodup
  current_empty hm := absurd (List.mem_of_mem_eraseIdx hm) h.fresh
  current_quiet hm := absurd (List.mem_of_mem_eraseIdx hm) h.fresh
  installs_quiet := by
    refine h.installs_quiet.cons ?_
    rintro t v' ⟨⟩
    exact h.current_quiet (List.mem_of_getElem? ht)

theorem Sound.giveBack {s : Slot ν} (h : Sound s) {i t : Nat} (v : ν)
    (ht : s.tickets[i]? = some t) :
    Sound
      { s with
        tickets := s.tickets.eraseIdx i
        history := .returned t v :: s.history } where
  issued_le := h.issued_le
  issued_nodup := h.issued_nodup
  tickets_le u hm := h.tickets_le u ((settle_perm ht).mem_iff.mpr hm)
  tickets_nodup := (settle_perm ht).nodup_iff.mp h.tickets_nodup
  current_empty hm := h.current_empty (List.mem_of_mem_eraseIdx hm)
  current_quiet hm := (h.current_quiet (List.mem_of_mem_eraseIdx hm)).cons rfl
  installs_quiet := h.installs_quiet.cons fun _ _ hm => by cases hm

theorem Sound.expire {s : Slot ν} (h : Sound s) (i : Nat) :
    Sound { s with tickets := s.tickets.eraseIdx i } where
  issued_le := h.issued_le
  issued_nodup := h.issued_nodup
  tickets_le u hm := by
    refine h.tickets_le u ?_
    rcases List.mem_append.mp hm with hm | hm
    · exact List.mem_append_left _ (List.mem_of_mem_eraseIdx hm)
    · exact List.mem_append_right _ hm
  tickets_nodup :=
    h.tickets_nodup.sublist ((List.eraseIdx_sublist s.tickets i).append_right s.settled)
  current_empty hm := h.current_empty (List.mem_of_mem_eraseIdx hm)
  current_quiet hm := h.current_quiet (List.mem_of_mem_eraseIdx hm)
  installs_quiet := h.installs_quiet

/-- **One move keeps the invariant.** -/
theorem Sound.step {s s' : Slot ν} {m : Move ν} (h : Sound s) (hstep : s.step m = some s') :
    Sound s' := by
  cases m with
  | clear =>
    cases hstep
    exact h.clear
  | revoke =>
    cases hstep
    exact h.revoke
  | issue =>
    cases hstep
    exact h.issue
  | settle i v =>
    dsimp only [Slot.step] at hstep
    split at hstep
    · cases hstep
    · rename_i t ht
      split at hstep
      · rename_i hcur
        cases hstep
        subst hcur
        exact h.install v ht
      · cases hstep
        exact h.giveBack v ht
  | expire i =>
    dsimp only [Slot.step] at hstep
    split at hstep
    · cases hstep
    · cases hstep
      exact h.expire i

/-- The epoch never decreases. -/
theorem epoch_le_step {s s' : Slot ν} {m : Move ν} (hstep : s.step m = some s') :
    s.epoch ≤ s'.epoch := by
  cases m with
  | clear =>
    cases hstep
    exact Nat.le_refl _
  | revoke =>
    cases hstep
    exact Nat.le_succ _
  | issue =>
    cases hstep
    exact Nat.le_succ _
  | settle i v =>
    dsimp only [Slot.step] at hstep
    split at hstep
    · cases hstep
    · split at hstep
      · cases hstep
        exact Nat.le_succ _
      · cases hstep
        exact Nat.le_refl _
  | expire i =>
    dsimp only [Slot.step] at hstep
    split at hstep
    · cases hstep
    · cases hstep
      exact Nat.le_refl _

/-! ## Live slots -/

/-- A holder sits in the slot, or may still come in on the current ticket. -/
def Slot.Live (s : Slot ν) : Prop := s.holder.isSome = true ∨ s.epoch ∈ s.tickets

/-- A revoked slot is not live. -/
theorem Sound.not_live_of_revoke {s s' : Slot ν} (h : Sound s)
    (hstep : s.step .revoke = some s') : ¬ s'.Live := by
  cases hstep
  rintro (hholder | hticket)
  · cases hholder
  · exact h.fresh hticket

/-- **Only a new ticket makes a slot live.** -/
theorem Sound.live_of_step {s s' : Slot ν} {m : Move ν} (h : Sound s)
    (hstep : s.step m = some s') (hm : m ≠ .issue) (hlive : s'.Live) : s.Live := by
  cases m with
  | clear =>
    cases hstep
    rcases hlive with hholder | hticket
    · cases hholder
    · exact .inr hticket
  | revoke => exact absurd hlive (h.not_live_of_revoke hstep)
  | issue => exact absurd rfl hm
  | settle i v =>
    dsimp only [Slot.step] at hstep
    split at hstep
    · cases hstep
    · rename_i t ht
      split at hstep
      · -- the ticket that came back was the current one
        rename_i hcur
        subst hcur
        exact .inr (List.mem_of_getElem? ht)
      · cases hstep
        rcases hlive with hholder | hticket
        · exact .inl hholder
        · exact .inr (List.mem_of_mem_eraseIdx hticket)
  | expire i =>
    dsimp only [Slot.step] at hstep
    split at hstep
    · cases hstep
    · cases hstep
      rcases hlive with hholder | hticket
      · exact .inl hholder
      · exact .inr (List.mem_of_mem_eraseIdx hticket)

/-- **Every run keeps the invariant.** -/
theorem Sound.run {good : Slot ν → Move ν → Prop} {s s' : Slot ν} {ms : List (Move ν)}
    (hrun : Machine.Run Slot.step good s ms s') (h : Sound s) : Sound s' :=
  hrun.invariant (fun _ _ _ h _ hstep => h.step hstep) h

/-- The epoch never decreases along a run. -/
theorem epoch_le_run {good : Slot ν → Move ν → Prop} {s s' : Slot ν} {ms : List (Move ν)}
    (hrun : Machine.Run Slot.step good s ms s') : s.epoch ≤ s'.epoch :=
  hrun.monotone fun _ _ _ _ hstep => epoch_le_step hstep

end Epoch
