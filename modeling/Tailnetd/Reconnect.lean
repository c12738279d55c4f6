/-
  What the reconnect timer brings up.

  When the timer is due its claim is checked under the lock: the arming must still be the one in the
  cell, and its profile the current one.  The bring-up it leads to takes the lock again.  A
  `Reconnection` is such a bring-up traced back through its claim to its arming.  Up to the claim
  the cell vouches for it, since every section that ends an arming changes the cell; from the claim
  on nothing does, and the reconnection holds its promise exactly when the gap is undisturbed.
-/
import Mathlib.Data.List.Induction
import Tailnetd.Lib.Positions
import Tailnetd.Timer

namespace Tailnetd

open Machine Positions

/-! ## Where a reconnect comes from -/

/-- The task this event picks up. -/
def Event.picks : Event → Option Nat
  | .finish i _ _ => some i
  | .preflight i _ => some i
  | .rebuild i _ => some i
  | .bringDown i _ => some i
  | .reconnect i _ => some i
  | .resumeCheck i _ _ => some i
  | .resume i _ => some i
  | _ => none

theorem beginUp_owes (H : Host) (d : Daemon) (origin : Origin) (authkey : Option String)
    (o : UpOptions) (wif : Option WifCreds) (netmap : ExitNodeFacts) (io : Io) :
    ∃ owed, (d.beginUp H origin authkey o wif netmap io).tasks = d.tasks ++ owed ∧
      Task.reconnect ∉ owed := by
  unfold Daemon.beginUp
  dsimp only
  split
  · exact ⟨[], (List.append_nil _).symm, List.not_mem_nil⟩
  · exact ⟨[_], rfl, by simp⟩

theorem finish_tasks (H : Host) (d : Daemon) (pending : PendingUp) (built : Option DeviceState)
    (io : Io) : (d.finish H pending built io).tasks = d.tasks := by
  unfold Daemon.finish
  split
  · rfl
  · dsimp only
    split <;> rfl

theorem driveSet_owes (H : Host) (d : Daemon) (o : SetOptions) (netmap : ExitNodeFacts) (io : Io) :
    ∃ owed, (d.driveSet H o netmap io).tasks = d.tasks ++ owed ∧ Task.reconnect ∉ owed := by
  unfold Daemon.driveSet
  dsimp only
  split
  · exact ⟨[_], rfl, by simp⟩
  · exact ⟨[], (List.append_nil _).symm, List.not_mem_nil⟩

theorem driveReloadConfig_owes (H : Host) (d : Daemon) (document : Except Failure ConfigVAlpha)
    (contents : Option String) (io : Io) :
    ∃ owed, (d.driveReloadConfig H document contents io).tasks = d.tasks ++ owed ∧
      Task.reconnect ∉ owed := by
  unfold Daemon.driveReloadConfig
  split
  · exact ⟨[_], rfl, by simp⟩
  · exact ⟨[_], rfl, by simp⟩
  · exact ⟨[], (List.append_nil _).symm, List.not_mem_nil⟩

theorem preflight_owes (H : Host) (d : Daemon) (cause : Cause) (io : Io) :
    ∃ owed, (d.preflight H cause io).tasks = d.tasks ++ owed ∧ Task.reconnect ∉ owed := by
  unfold Daemon.preflight
  split
  · exact ⟨[], (List.append_nil _).symm, List.not_mem_nil⟩
  · exact ⟨[_], rfl, by simp⟩

theorem changeProfile_tasks (d : Daemon) (outcome : Outcome SwitchOutcome) :
    (d.changeProfile outcome).tasks = d.tasks := by
  unfold Daemon.changeProfile
  split <;> rfl

/-- **A step takes the task it picks up and appends what it owes**; only a granted claim owes a
    reconnect. -/
theorem step_tasks {H : Host} {d d' : Daemon} {e : Event} (hstep : Daemon.step H d e = some d') :
    ∃ owed, d'.tasks = without e.picks d.tasks ++ owed ∧
      (Task.reconnect ∈ owed → owed = [.reconnect] ∧
        ∃ armed, e = .timerFired armed ∧ (d.backend.claimDueReconnect armed).1 = true) := by
  have hnone (ts : List Task) (h : d'.tasks = ts) : ∃ owed, d'.tasks = ts ++ owed ∧
      (Task.reconnect ∈ owed → owed = [.reconnect] ∧
        ∃ armed, e = .timerFired armed ∧ (d.backend.claimDueReconnect armed).1 = true) :=
    ⟨[], by rw [h, List.append_nil], fun hmem => (List.not_mem_nil hmem).elim⟩
  have hother (ts : List Task) (h : ∃ owed, d'.tasks = ts ++ owed ∧ Task.reconnect ∉ owed) :
      ∃ owed, d'.tasks = ts ++ owed ∧
        (Task.reconnect ∈ owed → owed = [.reconnect] ∧
          ∃ armed, e = .timerFired armed ∧ (d.backend.claimDueReconnect armed).1 = true) := by
    obtain ⟨owed, howed, hno⟩ := h
    exact ⟨owed, howed, fun hmem => absurd hmem hno⟩
  cases e with
  | up o authkey wif netmap io =>
    cases hstep
    exact hother _ (beginUp_owes H d _ _ o wif netmap io)
  | finish i built io =>
    dsimp only [Daemon.step] at hstep
    split at hstep
    · cases hstep
      exact hnone _ (finish_tasks H _ _ _ _)
    · cases hstep
  | set o netmap io =>
    cases hstep
    exact hother _ (driveSet_owes H d o netmap io)
  | reload document contents io =>
    cases hstep
    exact hother _ (driveReloadConfig_owes H d document contents io)
  | preflight i io =>
    dsimp only [Daemon.step] at hstep
    split at hstep
    · cases hstep
      exact hother _ (preflight_owes H _ _ io)
    · cases hstep
  | rebuild i io =>
    dsimp only [Daemon.step] at hstep
    split at hstep
    · cases hstep
      exact hother _ (beginUp_owes H _ _ _ _ _ _ io)
    · cases hstep
  | bringDown i io =>
    dsimp only [Daemon.step] at hstep
    split at hstep
    · cases hstep
      exact hnone _ rfl
    · cases hstep
  | down reason io =>
    cases hstep
    exact hnone _ rfl
  | logout reason io =>
    cases hstep
    exact hnone _ rfl
  | switchProfile target io =>
    cases hstep
    exact hnone _ (changeProfile_tasks _ _)
  | createProfile id io =>
    cases hstep
    exact hnone _ (changeProfile_tasks _ _)
  | switchToEmptyProfile draw io =>
    cases hstep
    exact hnone _ (changeProfile_tasks _ _)
  | deleteProfile target io =>
    cases hstep
    exact hnone _ rfl
  | policyMoved policy =>
    cases hstep
    exact hnone _ rfl
  | policyTick =>
    cases hstep
    exact hnone _ rfl
  | timerFired armed =>
    by_cases hgranted : (d.backend.claimDueReconnect armed).1 = true
    · rw [claim_step hgranted hstep]
      exact ⟨[.reconnect], rfl, fun _ => ⟨rfl, armed, rfl, hgranted⟩⟩
    · dsimp only [Daemon.step] at hstep
      split at hstep
      · rename_i heq
        rw [heq] at hgranted
        exact absurd rfl hgranted
      · cases hstep
        exact hnone _ rfl
  | reconnect i io =>
    dsimp only [Daemon.step] at hstep
    split at hstep
    · cases hstep
      exact hother _ (beginUp_owes H _ _ _ _ _ _ io)
    · cases hstep
  | sighup io =>
    dsimp only [Daemon.step] at hstep
    split at hstep
    · cases hstep
      exact hother _ ⟨[.resumeCheck], rfl, by simp⟩
    · cases hstep
      exact hnone _ rfl
  | resumeCheck i envAuthkey io =>
    dsimp only [Daemon.step] at hstep
    split at hstep
    · cases hstep
      exact hother _ ⟨[.resume _], rfl, by simp⟩
    · cases hstep
  | resume i io =>
    dsimp only [Daemon.step] at hstep
    split at hstep
    · cases hstep
      exact hother _ (beginUp_owes H _ _ _ _ _ _ io)
    · cases hstep
  | engine state =>
    cases hstep
    exact hnone _ rfl

/-- **A reconnect is owed by a claim**: the task that stands at a position now was left at the end
    of the tasks by the claim of some arming. -/
theorem reconnect_claimed {H : Host} {d₀ d : Daemon} {es : List Event} {i : Nat}
    (hnone : Task.reconnect ∉ d₀.tasks)
    (hrun : Run (Daemon.step H) (fun _ _ => True) d₀ es d) (htask : d.tasks[i]? = some .reconnect) :
    ∃ earlier armed gap due claimed, es = earlier ++ .timerFired armed :: gap ∧
      Run (Daemon.step H) (fun _ _ => True) d₀ earlier due ∧
      (due.backend.claimDueReconnect armed).1 = true ∧
      Daemon.step H due (.timerFired armed) = some claimed ∧
      Run (Daemon.step H) (fun _ _ => True) claimed gap d ∧
      movedAll (gap.map Event.picks) due.tasks.length = some i := by
  -- from the last event back: the task was appended by it, or stood there before it
  induction es using List.reverseRecOn generalizing d i with
  | nil =>
    cases hrun with
    | nil => exact absurd (List.mem_of_getElem? htask) hnone
  | append_singleton es e ih =>
    obtain ⟨d₁, hbefore, hlast⟩ := hrun.split
    have hstep : Daemon.step H d₁ e = some d := by
      cases hlast with
      | cons hgood hstep rest =>
        cases rest
        exact hstep
    obtain ⟨owed, htasks, howed⟩ := step_tasks hstep
    rw [htasks] at htask
    by_cases hold : i < (without e.picks d₁.tasks).length
    · rw [List.getElem?_append_left hold] at htask
      obtain ⟨k, hk, hmoved⟩ := moved_of_getElem? htask
      obtain ⟨earlier, armed, gap, due, claimed, rfl, hearlier, hgranted, hclaim, hgap, hpos⟩ :=
        ih hbefore hk
      refine ⟨earlier, armed, gap ++ [e], due, claimed, ?_, hearlier, hgranted, hclaim,
        hgap.append (.single trivial hstep), ?_⟩
      · simp
      · rw [List.map_append, List.map_singleton, movedAll_concat, hpos]
        exact hmoved
    · rw [List.getElem?_append_right (by omega)] at htask
      obtain ⟨rfl, armed, rfl, hgranted⟩ := howed (List.mem_of_getElem? htask)
      refine ⟨es, armed, [], d₁, d, rfl, hbefore, hgranted, hstep, .nil d, ?_⟩
      have hlen := (List.getElem?_eq_some_iff.mp htask).1
      have hi : i = d₁.tasks.length := by
        rw [List.length_singleton] at hlen
        exact Nat.le_antisymm (by
          have : i - d₁.tasks.length < 1 := hlen
          omega) (Nat.le_of_not_lt hold)
      rw [hi]
      rfl

/-! ## What ends an arming -/

/-- A `begin_up` section that gets as far as its edits. -/
def Connects (H : Host) (d : Daemon) (e : Event) : Prop :=
  ∃ origin authkey o netmap io, Starts H d e origin authkey o netmap io ∧
    (d.backend.checkUp (d.env H) o netmap).isOk = true ∧
    (o.forceReauth = true → io.removeKey = true)

/-- The sections that cancel a timer: a connect, a change of the profile, a policy tick under which
    an always-on key moved. -/
def Cancels (H : Host) (d : Daemon) (e : Event) : Prop :=
  Connects H d e ∨ d.switches H e = true ∨
    (e = .policyTick ∧ alwaysOnKeysIn (d.env H).settings ≠ d.backend.alwaysOnKeys)

/-- A disconnect that records something: a `down` of a node that was meant to run, or a `logout` of
    one that was meant to run or logged in; the policy permits it and it gets as far as its
    edits. -/
def Disconnects (H : Host) (d : Daemon) : Event → Prop
  | .down reason _ => d.backend.prefs.wantRunning = true ∧
      (d.backend.checkDisconnectPolicy (d.env H) (.operator reason)).isOk = true
  | .logout reason io =>
      (d.backend.prefs.wantRunning = true ∨ d.backend.prefs.loggedOut = false) ∧
        (d.backend.checkDisconnectPolicy (d.env H) (.operator reason)).isOk = true ∧
        io.removeKey = true
  | .bringDown _ _ => d.backend.prefs.wantRunning = true
  | _ => False

/-- Whether a disconnect would arm the timer afresh. -/
def Rearms (H : Host) (d : Daemon) : Prop :=
  d.backend.prefs.wantRunning = true ∧ (reconnectAfterIn (d.env H).settings).isSome = true

/-- Neither a cancellation nor a disconnect. -/
def Undisturbed (H : Host) (d : Daemon) (e : Event) : Prop := ¬ Cancels H d e ∧ ¬ Disconnects H d e

/-- No disconnect that leaves the armed timer as it is. -/
def DisconnectsRearm (H : Host) (d : Daemon) (e : Event) : Prop := Disconnects H d e → Rearms H d

/-- The cell does not hold this arming, and will not again: its number was given out. -/
def Lost (armed : ReconnectTimer) (d : Daemon) : Prop :=
  d.backend.reconnect ≠ some armed ∧ armed.seq ≤ d.backend.reconnectSeq

/-- An arming that was lost stays lost. -/
theorem lost_step {H : Host} {d d' : Daemon} {e : Event} {armed : ReconnectTimer}
    (h : Lost armed d) (hstep : Daemon.step H d e = some d') : Lost armed d' := by
  obtain ⟨hcell, hseq⟩ := h
  cases timer_step hstep with
  | kept htimer hsame hprofile hflag hdown => exact ⟨htimer ▸ hcell, hsame.symm ▸ hseq⟩
  | armed htimer hnext hprofile hflag hdown =>
    refine ⟨?_, by omega⟩
    rw [htimer]
    intro heq
    obtain rfl := Option.some.inj heq
    exact absurd hseq (Nat.not_succ_le_self _)
  | cleared htimer hsame hprofile =>
    refine ⟨?_, hsame.symm ▸ hseq⟩
    rw [htimer]
    exact fun heq => nomatch heq

/-- The number of an armed timer stays given out. -/
theorem given_step {H : Host} {d d' : Daemon} {e : Event} {n : Nat}
    (h : n ≤ d.backend.reconnectSeq) (hstep : Daemon.step H d e = some d') :
    n ≤ d'.backend.reconnectSeq := Nat.le_trans h (arming_rises hstep).1

/-- A cancellation empties the cell. -/
theorem cancels_clears {H : Host} {d d' : Daemon} {e : Event} (h : Cancels H d e)
    (hstep : Daemon.step H d e = some d') : d'.backend.reconnect = none := by
  have connected (origin : Origin) (authkey : Option String) (o : UpOptions) (wif : Option WifCreds)
      (netmap : ExitNodeFacts) (io : Io) (ts : List Task)
      (hcheck : (d.backend.checkUp (d.env H) o netmap).isOk = true)
      (hkey : o.forceReauth = true → io.removeKey = true) :
      (Daemon.beginUp H { d with tasks := ts } origin authkey o wif netmap io).backend.reconnect =
        none := by
    rcases beginUp_shift H d origin authkey o wif netmap io ts with ⟨⟨m, herr⟩, -⟩ | hup
    · rw [herr] at hcheck
      cases hcheck
    · generalize Daemon.beginUp H _ origin authkey o wif netmap io = d₁ at hup
      cases hup with
      | keyKept hforce hremove =>
        rw [hkey hforce] at hremove
        cases hremove
      | failed hcheck hfail hb =>
        obtain ⟨disk, ticks, key, -, rfl⟩ := hb
        rw [Backend.upResult, Backend.applyUp_eq]
      | begun hcheck hconfig hkey hb =>
        obtain ⟨disk, ticks, key, -, rfl⟩ := hb
        rw [Backend.upResult, Backend.applyUp_eq]
        rfl
  have changed (outcome : Outcome SwitchOutcome)
      (hcase : Backend.ProfileCase (d.env H) d.backend outcome)
      (hswitched : Daemon.switched outcome.1 = true) :
      (d.changeProfile outcome).backend.reconnect = none := by
    rw [Daemon.changeProfile_backend]
    obtain ⟨id, state, hok⟩ := Daemon.switched_ok hswitched
    cases hcase with
    | kept hresult hb => exact absurd hok (hresult id state)
    | failed hb => cases hok
    | activated hne hb =>
      obtain ⟨disk, ticks, key, -, rfl⟩ := hb
      rfl
    | emptied hb =>
      obtain ⟨disk, ticks, key, -, rfl⟩ := hb
      rfl
  rcases h with ⟨origin, authkey, o, netmap, io, hstart, hcheck, hkey⟩ | hswitched | ⟨rfl, hmoved⟩
  · cases hstart with
    | operator =>
      cases hstep
      exact connected _ _ _ _ _ _ d.tasks hcheck hkey
    | rebuild htask =>
      simp only [Daemon.step, htask] at hstep
      cases hstep
      exact connected _ _ _ _ _ _ _ hcheck hkey
    | reconnect htask =>
      simp only [Daemon.step, htask] at hstep
      cases hstep
      exact connected _ _ _ _ _ _ _ hcheck hkey
    | resume htask =>
      simp only [Daemon.step, htask] at hstep
      cases hstep
      exact connected _ _ _ _ _ _ _ hcheck hkey
  · unfold Daemon.switches at hswitched
    split at hswitched
    · cases hstep
      exact changed _ (Backend.switchProfile_cases _ _ _ _) hswitched
    · cases hstep
      exact changed _ (Backend.createProfile_cases _ _ _ _) hswitched
    · cases hstep
      exact changed _ (Backend.switchToEmptyProfile_cases _ _ _ _) hswitched
    · cases hswitched
  · cases hstep
    rw [Backend.exitNodePolicyChanged_eq, Backend.sysPolicyChanged_eq]
    exact if_neg hmoved

/-- A disconnect that rearms puts a new arming in the cell. -/
theorem disconnects_rearms {H : Host} {d d' : Daemon} {e : Event} (h : Disconnects H d e)
    (hrearms : Rearms H d) (hstep : Daemon.step H d e = some d') :
    ∃ after, d'.backend.reconnect =
      some ⟨d.backend.reconnectSeq + 1, d.backend.currentProfile, after⟩ := by
  obtain ⟨hrunning, hwindow⟩ := hrearms
  obtain ⟨after, hafter⟩ := Option.isSome_iff_exists.mp hwindow
  have htimer : (d.backend.timerAfter (d.env H) d.backend.prefs.wantRunning).1 =
      some ⟨d.backend.reconnectSeq + 1, d.backend.currentProfile, after⟩ := by
    unfold Backend.timerAfter
    rw [hrunning, hafter]
  have hdown (ts : List Task) (actor : Actor) (io : Io)
      (hpermit : (d.backend.checkDisconnectPolicy (d.env H) actor).isOk = true) :
      (Daemon.down H { d with tasks := ts } actor io).backend.reconnect =
        some ⟨d.backend.reconnectSeq + 1, d.backend.currentProfile, after⟩ := by
    show (d.backend.down (d.env H) actor io).2.reconnect = _
    rcases Backend.down_cases (d.env H) d.backend actor io with ⟨m, hrefused, -⟩ | ⟨-, hb, -⟩
    · rw [hrefused] at hpermit
      cases hpermit
    · obtain ⟨disk, ticks, key, -, heq⟩ := hb
      rw [heq, Backend.downResult_eq]
      exact htimer
  unfold Disconnects at h
  split at h
  · cases hstep
    exact ⟨after, hdown d.tasks _ _ h.2⟩
  · rename_i reason io
    cases hstep
    refine ⟨after, ?_⟩
    show (d.backend.logout (d.env H) (.operator reason) io).2.reconnect = _
    rcases Backend.logout_cases (d.env H) d.backend (.operator reason) io with
      ⟨m, hrefused, -⟩ | ⟨-, hremove, -⟩ | ⟨-, hb, -⟩
    · rw [hrefused] at h
      cases h.2.1
    · rw [hremove] at h
      cases h.2.2
    · obtain ⟨disk, ticks, key, -, heq⟩ := hb
      rw [heq, Backend.logoutResult_eq]
      exact htimer
  · rename_i i io
    dsimp only [Daemon.step] at hstep
    split at hstep
    · cases hstep
      refine ⟨after, hdown (d.tasks.eraseIdx i) .daemon io ?_⟩
      unfold Backend.checkDisconnectPolicy
      split <;> rfl
    · cases hstep
  · cases h

/-- Every section that ends an arming loses it. -/
theorem lost_of_disturbed {H : Host} {d d' : Daemon} {e : Event} {armed : ReconnectTimer}
    (hgiven : armed.seq ≤ d.backend.reconnectSeq)
    (h : Cancels H d e ∨ (Disconnects H d e ∧ Rearms H d))
    (hstep : Daemon.step H d e = some d') : Lost armed d' := by
  refine ⟨?_, given_step hgiven hstep⟩
  rcases h with hcancels | ⟨hdisconnects, hrearms⟩
  · rw [cancels_clears hcancels hstep]
    exact fun heq => nomatch heq
  · obtain ⟨after, hcell⟩ := disconnects_rearms hdisconnects hrearms hstep
    rw [hcell]
    intro heq
    obtain rfl := Option.some.inj heq
    exact absurd hgiven (Nat.not_succ_le_self _)

/-- **While an arming is in the cell nothing has ended it**: a run that ends with the arming still
    in the cell, and all of whose disconnects would rearm, is undisturbed. -/
theorem undisturbed_of_armed {H : Host} {d d' : Daemon} {es : List Event} {armed : ReconnectTimer}
    (hrun : Run (Daemon.step H) (DisconnectsRearm H) d es d')
    (hgiven : armed.seq ≤ d.backend.reconnectSeq) (hcell : d'.backend.reconnect = some armed) :
    Run (Daemon.step H) (Undisturbed H) d es d' := by
  induction hrun with
  | nil d => exact .nil d
  | @cons d d₁ d' e es hgood hstep rest ih =>
    have hheld : ¬ Lost armed d₁ := by
      intro hlost
      have hlost' := rest.invariant (P := Lost armed) (fun _ _ _ h _ hstep => lost_step h hstep)
        hlost
      exact hlost'.1 hcell
    refine .cons ⟨?_, ?_⟩ hstep (ih (given_step hgiven hstep) hcell)
    · exact fun hcancels => hheld (lost_of_disturbed hgiven (.inl hcancels) hstep)
    · exact fun hdisconnects =>
        hheld (lost_of_disturbed hgiven (.inr ⟨hdisconnects, hgood hdisconnects⟩) hstep)

/-- An undisturbed run stays in its profile. -/
theorem undisturbed_profile {H : Host} {d d' : Daemon} {es : List Event}
    (hrun : Run (Daemon.step H) (Undisturbed H) d es d') :
    d'.backend.currentProfile = d.backend.currentProfile := by
  refine hrun.invariant (P := fun t => t.backend.currentProfile = d.backend.currentProfile) ?_ rfl
  rintro t e t' hsame ⟨hcancels, -⟩ hstep
  rw [← hsame]
  cases timer_step hstep with
  | kept htimer hseq hprofile hflag hdown => exact hprofile
  | armed htimer hseq hprofile hflag hdown => exact hprofile
  | cleared htimer hseq hprofile =>
    exact hprofile.resolve_left fun hswitched => hcancels (.inr (.inl hswitched))

/-! ## A reconnection -/

/-- The `begin_up` section that picks up the task at position `i`, traced back: the disconnect that
    armed the timer, the wait, the granted claim, and the gap up to the section. -/
structure Reconnection (H : Host) (d₀ : Daemon) (es : List Event) (d : Daemon) (i : Nat) where
  armed : ReconnectTimer
  /-- The events before the arming, the arming, and those while it waited and in the gap. -/
  earlier : List Event
  arming : Event
  waiting : List Event
  gap : List Event
  events : es = earlier ++ arming :: (waiting ++ .timerFired armed :: gap)
  /-- The daemon before and after the arming, and before and after the claim. -/
  before : Daemon
  armedAt : Daemon
  due : Daemon
  claimed : Daemon
  reached : Run (Daemon.step H) (fun _ _ => True) d₀ earlier before
  unarmed : before.backend.reconnect ≠ some armed
  arms : Daemon.step H before arming = some armedAt
  cell : armedAt.backend.reconnect = some armed
  waits : Run (Daemon.step H) (fun _ _ => True) armedAt waiting due
  granted : (due.backend.claimDueReconnect armed).1 = true
  claims : Daemon.step H due (.timerFired armed) = some claimed
  released : Run (Daemon.step H) (fun _ _ => True) claimed gap d
  /-- The task the claim left is the one the section picks up. -/
  owed : d.tasks[i]? = some .reconnect
  traced : movedAll (gap.map Event.picks) due.tasks.length = some i

namespace Reconnection

variable {H : Host} {d₀ d : Daemon} {es : List Event} {i : Nat}

/-- The section runs under the profile the timer was armed for, and since the arming nothing
    cancelled it and nobody disconnected. -/
def KeepsPromise (r : Reconnection H d₀ es d i) : Prop :=
  d.backend.currentProfile = r.armed.profile ∧
    Run (Daemon.step H) (Undisturbed H) r.armedAt (r.waiting ++ .timerFired r.armed :: r.gap) d

/-- No disconnect left the waiting timer as it was, and the gap is undisturbed. -/
def GapClear (r : Reconnection H d₀ es d i) : Prop :=
  Run (Daemon.step H) (DisconnectsRearm H) r.armedAt r.waiting r.due ∧
    Run (Daemon.step H) (Undisturbed H) r.claimed r.gap d

/-- The arming's number is the last one given out when it is armed. -/
theorem numbered (r : Reconnection H d₀ es d i) :
    r.armed.seq ≤ r.armedAt.backend.reconnectSeq := by
  have hcell := r.cell
  cases timer_step r.arms with
  | kept htimer hseq hprofile hflag hdown =>
    rw [htimer] at hcell
    exact absurd hcell r.unarmed
  | armed htimer hseq hprofile hflag hdown =>
    rw [htimer] at hcell
    rw [← Option.some.inj hcell, hseq]
  | cleared htimer hseq hprofile =>
    rw [htimer] at hcell
    cases hcell

/-- A claim neither cancels nor disconnects. -/
theorem undisturbed_claim (H : Host) (d : Daemon) (armed : ReconnectTimer) :
    Undisturbed H d (.timerFired armed) := by
  refine ⟨?_, id⟩
  rintro (⟨_, _, _, _, _, hstart, -⟩ | hswitched | ⟨htick, -⟩)
  · cases hstart
  · cases hswitched
  · cases htick

/-- **A reconnection keeps its promise exactly when its gap is clear.** -/
theorem keepsPromise_iff (r : Reconnection H d₀ es d i) : r.KeepsPromise ↔ r.GapClear := by
  obtain ⟨hcell, hprofile⟩ := claim_granted.mp r.granted
  constructor
  · rintro ⟨-, hrun⟩
    obtain ⟨due, hwaiting, hrest⟩ := hrun.split
    obtain rfl : due = r.due := hwaiting.deterministic r.waits
    cases hrest with
    | cons _ hclaim hgap =>
      obtain rfl := Option.some.inj (hclaim.symm.trans r.claims)
      exact ⟨hwaiting.mono fun _ _ h hdisconnects => absurd hdisconnects h.2, hgap⟩
  · rintro ⟨hwaiting, hgap⟩
    have hquiet := undisturbed_of_armed hwaiting r.numbered hcell
    constructor
    · rw [undisturbed_profile hgap, claim_step r.granted r.claims]
      exact hprofile.symm
    · exact hquiet.append (.cons (undisturbed_claim H r.due r.armed) r.claims hgap)

end Reconnection

/-- A boot leaves at most the handshake of its auto-start to do. -/
theorem boot_tasks {H : Host} {policy : List PolicySource} {s : Daemon.BootInput} {d : Daemon}
    (h : Daemon.boot H policy s = .ok d) :
    ∀ t ∈ d.tasks, ∃ pending authkey origin, t = .handshake pending authkey origin := by
  have hreach : Daemon.Reachable H (fun _ e => ∃ i built io, e = .finish i built io) d :=
    ⟨policy, s, d, [], h, .nil d⟩
  refine hreach.invariant
    (P := fun d => ∀ t ∈ d.tasks, ∃ pending authkey origin, t = .handshake pending authkey origin)
    (fun _ i built io => ⟨i, built, io, rfl⟩) ?_ ?_ ?_
  · intro d hidle t ht
    rw [hidle.tasks] at ht
    cases ht
  · intro d d' authkey io hidle hup t ht
    have htasks := hidle.tasks
    cases hup with
    | keyKept hforce hremove =>
      have ht : t ∈ d.tasks := ht
      rw [htasks] at ht
      cases ht
    | failed hcheck hfail hb =>
      have ht : t ∈ d.tasks := ht
      rw [htasks] at ht
      cases ht
    | begun hcheck hconfig hkey hb =>
      have ht : t ∈ d.tasks ++ [_] := ht
      rw [htasks] at ht
      exact ⟨_, _, _, List.mem_singleton.mp ht⟩
  · rintro d e d' hall ⟨i, built, io, rfl⟩ hstep t ht
    dsimp only [Daemon.step] at hstep
    split at hstep
    · cases hstep
      rw [finish_tasks] at ht
      exact hall t (List.eraseIdx_subset ht)
    · cases hstep

/-- A boot owes no reconnect. -/
theorem boot_owes_none {H : Host} {policy : List PolicySource} {s : Daemon.BootInput} {d : Daemon}
    (h : Daemon.boot H policy s = .ok d) : Task.reconnect ∉ d.tasks := by
  intro hmem
  obtain ⟨_, _, _, heq⟩ := boot_tasks h _ hmem
  cases heq

/-- **Every bring-up of the reconnect timer keeps its promise exactly when its gap is clear**: the
    section runs under the profile the timer was armed for, with nothing cancelled and nobody
    disconnected since the arming, if and only if no disconnect left the waiting timer armed and no
    section between the claim and the bring-up connects, changes the profile, moves an always-on key
    or disconnects. -/
theorem reconnect_keeps_promise_iff {H : Host} {policy : List PolicySource} {s : Daemon.BootInput}
    {d₀ d d' : Daemon} {es : List Event} {i : Nat} {io : Io}
    (hboot : Daemon.boot H policy s = .ok d₀)
    (hrun : Run (Daemon.step H) (fun _ _ => True) d₀ es d)
    (hstep : Daemon.step H d (.reconnect i io) = some d') :
    Nonempty (Reconnection H d₀ es d i) ∧
      ∀ r : Reconnection H d₀ es d i, r.KeepsPromise ↔ r.GapClear := by
  refine ⟨?_, fun r => r.keepsPromise_iff⟩
  have htask : d.tasks[i]? = some .reconnect := by
    dsimp only [Daemon.step] at hstep
    split at hstep
    · assumption
    · cases hstep
  obtain ⟨earlier, armed, gap, due, claimed, rfl, hearlier, hgranted, hclaim, hgap, htraced⟩ :=
    reconnect_claimed (boot_owes_none hboot) hrun htask
  have hunarmed : d₀.backend.reconnect ≠ some armed := by
    rw [boot_unarmed hboot]
    exact fun heq => nomatch heq
  obtain ⟨es₁, arming, es₂, before, armedAt, rfl, hbefore, hno, -, harms, hcell, hwaits⟩ :=
    hearlier.last_rise (P := fun d => d.backend.reconnect = some armed) hunarmed
      (claim_granted.mp hgranted).1
  exact ⟨{
    armed, gap, before, armedAt, due, claimed, arming
    earlier := es₁
    waiting := es₂
    events := by simp
    reached := hbefore
    unarmed := hno
    arms := harms
    cell := hcell
    waits := hwaits.mono fun _ _ _ => trivial
    granted := hgranted
    claims := hclaim
    released := hgap
    owed := htask
    traced := htraced }⟩

/-- The arming of the first disconnect under a window of an hour. -/
def firstArming : ReconnectTimer := ⟨1, defaultProfileId, 3600000000000⟩

/-- A node that is brought up, disconnected, and due. -/
def disconnectedAndDue : List Event :=
  [.up {} none none {} {}, .finish 0 (some .running) {}, .down none {}, .timerFired firstArming]

/-- An undisturbed reconnection. -/
theorem reconnect_keeps_promise_due :
    ∃ d₀ d d', Daemon.boot plainHost windowPolicy firstBoot = .ok d₀ ∧
      follow (Daemon.step plainHost) d₀ disconnectedAndDue = some d ∧
      Daemon.step plainHost d (.reconnect 0 {}) = some d' ∧
      Nonempty (Reconnection plainHost d₀ disconnectedAndDue d 0) ∧
      ∀ r : Reconnection plainHost d₀ disconnectedAndDue d 0, r.KeepsPromise ↔ r.GapClear := by
  obtain ⟨d₀, d, d', hboot, hrun, hstep⟩ : ∃ d₀ d d',
      Daemon.boot plainHost windowPolicy firstBoot = .ok d₀ ∧
      follow (Daemon.step plainHost) d₀ disconnectedAndDue = some d ∧
      Daemon.step plainHost d (.reconnect 0 {}) = some d' := ⟨_, _, _, rfl, rfl, rfl⟩
  obtain ⟨hsome, hiff⟩ := reconnect_keeps_promise_iff hboot
    (run_of_follow (fun _ _ _ => trivial) hrun) hstep
  exact ⟨d₀, d, d', hboot, hrun, hstep, hsome, hiff⟩

/-- **A profile change in the gap is connected instead**: the timer was claimed for the default
    profile, and its bring-up runs under the new one. -/
theorem reconnect_connects_other_profile :
    ¬ ∀ (d₀ d d' : Daemon) (es : List Event) (i : Nat) (io : Io),
      Daemon.boot plainHost windowPolicy firstBoot = .ok d₀ →
      Run (Daemon.step plainHost) (fun _ _ => True) d₀ es d →
      Daemon.step plainHost d (.reconnect i io) = some d' →
      ∀ r : Reconnection plainHost d₀ es d i, r.KeepsPromise := by
  intro hclaim
  obtain ⟨d₀, before, armedAt, claimed, d, d', hboot, hbefore, harms, hclaims, hgap, hstep, hunarmed,
      hcell, hgranted, hprofile, howed, htraced⟩ : ∃ d₀ before armedAt claimed d d',
      Daemon.boot plainHost windowPolicy firstBoot = .ok d₀ ∧
      follow (Daemon.step plainHost) d₀
        [.up {} none none {} {}, .finish 0 (some .running) {}] = some before ∧
      Daemon.step plainHost before (.down none {}) = some armedAt ∧
      Daemon.step plainHost armedAt (.timerFired firstArming) = some claimed ∧
      Daemon.step plainHost claimed (.createProfile "work" {}) = some d ∧
      Daemon.step plainHost d (.reconnect 0 {}) = some d' ∧
      before.backend.reconnect = none ∧
      armedAt.backend.reconnect = some firstArming ∧
      (armedAt.backend.claimDueReconnect firstArming).1 = true ∧
      d.backend.currentProfile = "work" ∧ d.tasks[0]? = some .reconnect ∧
      movedAll [Event.picks (.createProfile "work" {})] armedAt.tasks.length = some 0 :=
    ⟨_, _, _, _, _, _, rfl, rfl, rfl, rfl, rfl, rfl, rfl, rfl, rfl, rfl, rfl, rfl⟩
  have hreached : Run (Daemon.step plainHost) (fun _ _ => True) d₀ _ before :=
    run_of_follow (fun _ _ _ => trivial) hbefore
  have hreleased : Run (Daemon.step plainHost) (fun _ _ => True) claimed
      [.createProfile "work" {}] d := .single trivial hgap
  have hrun := hreached.append (.cons trivial harms (.cons trivial hclaims hreleased))
  have hkeeps := hclaim d₀ d d' _ 0 {} hboot hrun hstep {
    before, armedAt, claimed
    armed := firstArming
    earlier := [.up {} none none {} {}, .finish 0 (some .running) {}]
    arming := .down none {}
    waiting := []
    due := armedAt
    gap := [.createProfile "work" {}]
    events := rfl
    reached := hreached
    unarmed := by
      rw [hunarmed]
      exact fun heq => nomatch heq
    arms := harms
    cell := hcell
    waits := .nil armedAt
    granted := hgranted
    claims := hclaims
    released := hreleased
    owed := howed
    traced := htraced }
  have hsame : d.backend.currentProfile = defaultProfileId := hkeeps.1
  rw [hprofile] at hsame
  exact absurd hsame (by decide)

end Tailnetd
