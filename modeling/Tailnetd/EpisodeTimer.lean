/-
  The schedule of the captive-portal probes (`EpisodeTimer`, `ipn/captive.rs`).

  1. **Program** — the loop asks the timer at every tick: `recovered` when connectivity is fine,
     `probe_due` with the warnable that is unhealthy when it is not.  The timer is two optional
     fields: the warnable that is waited out and since when, and when the episode last probed.

  2. **History** — a run leaves a record of its calls and of what they answered.  The two fields are
     a summary of that record (`Summarises`): since when the last warnable has been reported without
     interruption, and when the last pass was, as far back as the record goes on without a recovery
     and without a change with a steady warnable on either side (`Unbroken`).

  3. **Results** — `probe_due` answers by the record alone (`probe_due_iff`): before the episode's
     first pass, after the settle time of the warnable; after it, when the warnable is not steady,
     after the recheck interval.  So a steady warnable costs one pass for each onset, and two passes
     of one episode are a recheck interval apart (`episode_schedule`).
-/
import Mathlib.Data.List.Chain
import Mathlib.Data.List.Induction

namespace Tailnetd

/-! ## The warnables -/

/-- Times are in nanoseconds. -/
def seconds (n : Nat) : Nat := n * 1000000000

/-- `DETECTION_INTERVAL`. -/
def detectionInterval : Nat := seconds 2

/-- `NO_DERP_HOME_TIME_TO_VISIBLE`. -/
def noDerpHomeTimeToVisible : Nat := seconds 10

/-- `NETWORK_STATUS_TIME_TO_VISIBLE`. -/
def networkStatusTimeToVisible : Nat := seconds 5

/-- `RECHECK_INTERVAL`. -/
def recheckInterval : Nat := seconds 30

/-- `ConnectivityWarnable`. -/
inductive ConnectivityWarnable where
  | networkStatus | noDerpHome | ipForwardingOff
  deriving DecidableEq, Repr

namespace ConnectivityWarnable

/-- `time_to_visible`. -/
def timeToVisible : ConnectivityWarnable → Nat
  | networkStatus => networkStatusTimeToVisible
  | noDerpHome => noDerpHomeTimeToVisible
  | ipForwardingOff => 0

/-- `is_steady`. -/
def isSteady : ConnectivityWarnable → Bool
  | ipForwardingOff => true
  | _ => false

/-- `settle_time`. -/
def settleTime (w : ConnectivityWarnable) : Nat := w.timeToVisible + detectionInterval

theorem settleTime_pos (w : ConnectivityWarnable) : 0 < w.settleTime := by
  cases w <;> decide

end ConnectivityWarnable

/-! ## The timer -/

/-- `EpisodeTimer`. -/
structure EpisodeTimer where
  impacted : Option (ConnectivityWarnable × Nat) := none
  lastRun : Option Nat := none
  deriving DecidableEq, Repr

namespace EpisodeTimer

/-- `recovered`. -/
def recovered (_ : EpisodeTimer) : EpisodeTimer := {}

/-- The first half of `probe_due`: since when the warnable is waited out, and the timer that waits
    for it. -/
def notice (timer : EpisodeTimer) (warnable : ConnectivityWarnable) (now : Nat) :
    Nat × EpisodeTimer :=
  let started (previous : Option ConnectivityWarnable) : Nat × EpisodeTimer :=
    (now,
      { impacted := some (warnable, now)
        lastRun :=
          if warnable.isSteady || previous.any ConnectivityWarnable.isSteady then none
          else timer.lastRun })
  match timer.impacted with
  | none => started none
  | some (waitingOn, since) =>
    if waitingOn = warnable then (since, timer) else started (some waitingOn)

/-- `probe_due`. -/
def probeDue (timer : EpisodeTimer) (warnable : ConnectivityWarnable) (now : Nat) :
    Bool × EpisodeTimer :=
  let noticed := timer.notice warnable now
  let due : Bool :=
    match noticed.2.lastRun with
    | none => warnable.settleTime ≤ now - noticed.1
    | some ran => if warnable.isSteady then false else recheckInterval ≤ now - ran
  (due, if due then { noticed.2 with lastRun := some now } else noticed.2)

end EpisodeTimer

/-! ## Runs and their record -/

/-- A call of the loop. -/
inductive TimerCall where
  | recovered
  | probeDue (warnable : ConnectivityWarnable) (now : Nat)
  deriving DecidableEq, Repr

/-- A call on record, with its answer. -/
inductive TimerEntry where
  | recovered
  | asked (warnable : ConnectivityWarnable) (instant : Nat) (due : Bool)
  deriving DecidableEq, Repr

/-- The warnable that an entry reports. -/
def TimerEntry.warnable : TimerEntry → Option ConnectivityWarnable
  | .recovered => none
  | .asked w _ _ => some w

/-- The instant of an entry, when its call had one. -/
def TimerEntry.instant : TimerEntry → Option Nat
  | .recovered => none
  | .asked _ t _ => some t

/-- The instant of a pass. -/
def TimerEntry.pass : TimerEntry → Option Nat
  | .asked _ t true => some t
  | _ => none

/-- One call: the timer it leaves and the record with it. -/
def timerStep (st : EpisodeTimer × List TimerEntry) : TimerCall → EpisodeTimer × List TimerEntry
  | .recovered => (st.1.recovered, st.2 ++ [.recovered])
  | .probeDue w now =>
    ((st.1.probeDue w now).2, st.2 ++ [.asked w now (st.1.probeDue w now).1])

/-- A run from the timer of a new loop. -/
def timerRun (calls : List TimerCall) : EpisodeTimer × List TimerEntry :=
  calls.foldl timerStep ({}, [])

/-- The instant of a call, when it has one. -/
def TimerCall.instant : TimerCall → Option Nat
  | .recovered => none
  | .probeDue _ now => some now

/-- The instants of the calls do not decrease. -/
def TimerCall.Ordered (calls : List TimerCall) : Prop :=
  (calls.filterMap TimerCall.instant).Pairwise (· ≤ ·)

example : (timerRun [.probeDue .ipForwardingOff 0, .probeDue .ipForwardingOff (seconds 2),
    .probeDue .ipForwardingOff (seconds 32), .probeDue .networkStatus (seconds 60),
    .probeDue .networkStatus (seconds 67)]).2.filterMap TimerEntry.pass =
    [seconds 2, seconds 67] := by decide

/-! ## What the record says -/

/-- Two calls in a row are of one episode: no recovery, and no change with a steady warnable on
    either side. -/
def Continues : Option ConnectivityWarnable → Option ConnectivityWarnable → Prop
  | some w, some w' => w = w' ∨ (w.isSteady = false ∧ w'.isSteady = false)
  | _, _ => False

/-- The entries are of one episode, and a call that reports this warnable goes on with it. -/
def Unbroken (entries : List TimerEntry) (w : ConnectivityWarnable) : Prop :=
  (entries.map TimerEntry.warnable ++ [some w]).IsChain Continues

/-- A pass has run in the episode that a call with this warnable belongs to. -/
def PassRan (record : List TimerEntry) (w : ConnectivityWarnable) : Prop :=
  ∃ before w' t after, record = before ++ .asked w' t true :: after ∧
    Unbroken (.asked w' t true :: after) w

/-- The last pass of that episode ran at this instant. -/
def LastPass (record : List TimerEntry) (w : ConnectivityWarnable) (ran : Nat) : Prop :=
  ∃ before w' after, record = before ++ .asked w' ran true :: after ∧
    Unbroken (.asked w' ran true :: after) w ∧ ∀ entry ∈ after, entry.pass = none

/-- The warnable has been reported without interruption since a call that lies its settle time
    back. -/
def OnsetSettled (record : List TimerEntry) (w : ConnectivityWarnable) (now : Nat) : Prop :=
  ∃ before t due after, record = before ++ .asked w t due :: after ∧
    (∀ entry ∈ after, entry.warnable = some w) ∧ t + w.settleTime ≤ now

/-- **When a pass is due**, by the record. -/
def PassDue (record : List TimerEntry) (w : ConnectivityWarnable) (now : Nat) : Prop :=
  (¬ PassRan record w ∧ OnsetSettled record w now) ∨
    w.isSteady = false ∧ ∃ ran, LastPass record w ran ∧ ran + recheckInterval ≤ now

/-! ## Reading the record -/

theorem continues_refl (w : ConnectivityWarnable) : Continues (some w) (some w) := .inl rfl

/-- A call after an entry goes on with its episode when it goes on with the entry. -/
theorem unbroken_concat {entries : List TimerEntry} {entry : TimerEntry}
    {w : ConnectivityWarnable} : Unbroken (entries ++ [entry]) w ↔
      ((entries ++ [entry]).map TimerEntry.warnable).IsChain Continues ∧
        Continues entry.warnable (some w) := by
  unfold Unbroken
  rw [List.isChain_append]
  simp

/-- What a call reports matters for the episode of the calls before it by the change only. -/
theorem unbroken_iff {entries : List TimerEntry} {entry : TimerEntry} {w w' : ConnectivityWarnable}
    (hw : entry.warnable = some w) : Unbroken (entries ++ [entry]) w' ↔
      Unbroken (entries ++ [entry]) w ∧ Continues (some w) (some w') := by
  rw [unbroken_concat, unbroken_concat, hw]
  constructor
  · rintro ⟨hchain, hgoes⟩
    exact ⟨⟨hchain, continues_refl w⟩, hgoes⟩
  · rintro ⟨⟨hchain, -⟩, hgoes⟩
    exact ⟨hchain, hgoes⟩

/-- Where an entry stands in a record that is one longer. -/
theorem concat_eq_append_cons {α : Type} {record before after : List α} {x y : α}
    (h : record ++ [x] = before ++ y :: after) :
    (after = [] ∧ x = y ∧ record = before) ∨
      ∃ after', after = after' ++ [x] ∧ record = before ++ y :: after' := by
  rcases List.eq_nil_or_concat after with rfl | ⟨after', z, rfl⟩
  · obtain ⟨hrecord, hx⟩ := List.append_inj' h rfl
    exact .inl ⟨rfl, (List.cons.inj hx).1, hrecord⟩
  · rw [List.concat_eq_append, ← List.cons_append, ← List.append_assoc] at h
    obtain ⟨hrecord, hx⟩ := List.append_inj' h rfl
    obtain rfl := (List.cons.inj hx).1
    exact .inr ⟨after', List.concat_eq_append, hrecord⟩

/-- Two places in a list: one place, or one behind the other. -/
theorem places_cases {α : Type} {before after before' after' : List α} {x y : α}
    (h : before ++ x :: after = before' ++ y :: after') :
    (before = before' ∧ x = y ∧ after = after') ∨
      (∃ mid, before' = before ++ x :: mid ∧ after = mid ++ y :: after') ∨
      ∃ mid, before = before' ++ y :: mid ∧ after' = mid ++ x :: after := by
  rcases List.append_eq_append_iff.mp h with ⟨more, hbefore, hafter⟩ | ⟨more, hbefore, hafter⟩
  · cases more with
    | nil =>
      obtain ⟨hx, hrest⟩ := List.cons.inj hafter
      exact .inl ⟨by rw [hbefore, List.append_nil], hx, hrest⟩
    | cons z more =>
      obtain ⟨rfl, hrest⟩ := List.cons.inj hafter
      exact .inr (.inl ⟨more, hbefore, hrest⟩)
  · cases more with
    | nil =>
      obtain ⟨hy, hrest⟩ := List.cons.inj hafter
      exact .inl ⟨by rw [hbefore, List.append_nil], hy.symm, hrest.symm⟩
    | cons z more =>
      obtain ⟨rfl, hrest⟩ := List.cons.inj hafter
      exact .inr (.inr ⟨more, hbefore, hrest⟩)

/-- The instants of entries that stand behind an entry. -/
theorem instant_le {before after : List TimerEntry} {w w' : ConnectivityWarnable} {t t' : Nat}
    {due due' : Bool}
    (hordered : ((before ++ TimerEntry.asked w t due :: after).filterMap
      TimerEntry.instant).Pairwise (· ≤ ·)) (h : .asked w' t' due' ∈ after) : t ≤ t' := by
  rw [List.filterMap_append, List.pairwise_append,
    List.filterMap_cons_some (show TimerEntry.instant _ = some t from rfl),
    List.pairwise_cons] at hordered
  exact hordered.2.1.1 t' (List.mem_filterMap.mpr ⟨_, h, rfl⟩)

/-- The entries from one on end as the record does. -/
theorem suffix_concat {record before after : List TimerEntry} {x last : TimerEntry}
    (h : record = before ++ x :: after) (hlast : record.getLast? = some last) :
    ∃ front, x :: after = front ++ [last] := by
  rw [h, List.getLast?_append_of_ne_nil _ (List.cons_ne_nil _ _)] at hlast
  exact List.getLast?_eq_some_iff.mp hlast

/-- Passes of the episode, when the reported warnable changes. -/
theorem passRan_change {record : List TimerEntry} {last : TimerEntry} {w w' : ConnectivityWarnable}
    (hlast : record.getLast? = some last) (hw : last.warnable = some w) :
    PassRan record w' ↔ PassRan record w ∧ Continues (some w) (some w') := by
  constructor
  · rintro ⟨before, w'', t, after, hrecord, hunbroken⟩
    obtain ⟨front, hfront⟩ := suffix_concat hrecord hlast
    rw [hfront, unbroken_iff hw, ← hfront] at hunbroken
    exact ⟨⟨before, w'', t, after, hrecord, hunbroken.1⟩, hunbroken.2⟩
  · rintro ⟨⟨before, w'', t, after, hrecord, hunbroken⟩, hgoes⟩
    obtain ⟨front, hfront⟩ := suffix_concat hrecord hlast
    refine ⟨before, w'', t, after, hrecord, ?_⟩
    rw [hfront, unbroken_iff hw, ← hfront]
    exact ⟨hunbroken, hgoes⟩

theorem lastPass_change {record : List TimerEntry} {last : TimerEntry}
    {w w' : ConnectivityWarnable} {ran : Nat} (hlast : record.getLast? = some last)
    (hw : last.warnable = some w) (hgoes : Continues (some w) (some w'))
    (h : LastPass record w ran) : LastPass record w' ran := by
  obtain ⟨before, w'', after, hrecord, hunbroken, hnone⟩ := h
  obtain ⟨front, hfront⟩ := suffix_concat hrecord hlast
  refine ⟨before, w'', after, hrecord, ?_, hnone⟩
  rw [hfront, unbroken_iff hw, ← hfront]
  exact ⟨hunbroken, hgoes⟩

/-- No episode goes on over a recovery. -/
theorem not_passRan_of_recovered {record : List TimerEntry} {w : ConnectivityWarnable}
    (h : ∀ last ∈ record.getLast?, last.warnable = none) : ¬ PassRan record w := by
  rintro ⟨before, w', t, after, hrecord, hunbroken⟩
  obtain ⟨last, hlast⟩ : ∃ last, record.getLast? = some last := by
    rw [hrecord, List.getLast?_append_of_ne_nil _ (List.cons_ne_nil _ _)]
    exact ⟨_, List.getLast?_eq_some_getLast (List.cons_ne_nil _ _)⟩
  obtain ⟨front, hfront⟩ := suffix_concat hrecord hlast
  rw [hfront, unbroken_concat, h last hlast] at hunbroken
  exact hunbroken.2

theorem LastPass.passRan {record : List TimerEntry} {w : ConnectivityWarnable} {ran : Nat}
    (h : LastPass record w ran) : PassRan record w := by
  obtain ⟨before, w', after, hrecord, hunbroken, -⟩ := h
  exact ⟨before, w', ran, after, hrecord, hunbroken⟩

/-- The last pass is the last of the record. -/
theorem LastPass.getLast? {record : List TimerEntry} {w : ConnectivityWarnable} {ran : Nat}
    (h : LastPass record w ran) : (record.filterMap TimerEntry.pass).getLast? = some ran := by
  obtain ⟨before, w', after, rfl, -, hnone⟩ := h
  have hafter : after.filterMap TimerEntry.pass = [] := List.filterMap_eq_nil_iff.mpr hnone
  rw [List.filterMap_append, List.filterMap_cons_some (by rfl), hafter]
  simp

theorem LastPass.unique {record : List TimerEntry} {w : ConnectivityWarnable} {ran ran' : Nat}
    (h : LastPass record w ran) (h' : LastPass record w ran') : ran = ran' :=
  Option.some.inj (h.getLast?.symm.trans h'.getLast?)

/-! ## The two fields as a summary -/

/-- The warnable has been reported without interruption since this instant, and not before. -/
def ReportedSince (record : List TimerEntry) (w : ConnectivityWarnable) (since : Nat) : Prop :=
  ∃ before due after, record = before ++ .asked w since due :: after ∧
    (∀ entry ∈ after, entry.warnable = some w) ∧
    ∀ entry ∈ before.getLast?, entry.warnable ≠ some w

/-- **What the fields of the timer say of the record.** -/
structure Summarises (timer : EpisodeTimer) (record : List TimerEntry) : Prop where
  idle : timer.impacted = none →
    timer.lastRun = none ∧ ∀ last ∈ record.getLast?, last.warnable = none
  waiting : ∀ w since, timer.impacted = some (w, since) → ReportedSince record w since
  fresh : ∀ w since, timer.impacted = some (w, since) → timer.lastRun = none → ¬ PassRan record w
  ran : ∀ w since ran, timer.impacted = some (w, since) → timer.lastRun = some ran →
    LastPass record w ran

/-- The last entry of a warnable that has been reported is one of it. -/
theorem ReportedSince.getLast? {record : List TimerEntry} {w : ConnectivityWarnable} {since : Nat}
    (h : ReportedSince record w since) :
    ∃ last, record.getLast? = some last ∧ last.warnable = some w := by
  obtain ⟨before, due, after, rfl, hafter, -⟩ := h
  rcases List.eq_nil_or_concat after with rfl | ⟨after', last, rfl⟩
  · exact ⟨_, List.getLast?_concat, rfl⟩
  · rw [List.concat_eq_append] at hafter ⊢
    refine ⟨last, ?_, hafter last (List.mem_append_right _ (List.mem_singleton.mpr rfl))⟩
    rw [← List.cons_append, ← List.append_assoc, List.getLast?_concat]

/-- What `probe_due` knows once it has taken notice of the warnable. -/
structure Noticed (record : List TimerEntry) (w : ConnectivityWarnable) (now : Nat)
    (noticed : Nat × EpisodeTimer) : Prop where
  impacted : noticed.2.impacted = some (w, noticed.1)
  waiting : ReportedSince record w noticed.1 ∨
    noticed.1 = now ∧ ∀ last ∈ record.getLast?, last.warnable ≠ some w
  fresh : noticed.2.lastRun = none → ¬ PassRan record w
  ran : ∀ ran, noticed.2.lastRun = some ran → LastPass record w ran

theorem Summarises.notice {timer : EpisodeTimer} {record : List TimerEntry}
    (h : Summarises timer record) (w : ConnectivityWarnable) (now : Nat) :
    Noticed record w now (timer.notice w now) := by
  unfold EpisodeTimer.notice
  dsimp only
  cases himpacted : timer.impacted with
  | none =>
    obtain ⟨hrun, hlast⟩ := h.idle himpacted
    refine ⟨rfl, .inr ⟨rfl, ?_⟩, fun _ => not_passRan_of_recovered hlast, ?_⟩
    · intro last hmem heq
      rw [hlast last hmem] at heq
      cases heq
    · intro ran hran
      dsimp only at hran
      rw [hrun, ite_self] at hran
      cases hran
  | some waiting =>
    obtain ⟨waitingOn, since⟩ := waiting
    have hsince := h.waiting waitingOn since himpacted
    obtain ⟨last, hlast, hw⟩ := hsince.getLast?
    dsimp only
    split
    · rename_i heq
      subst heq
      exact ⟨himpacted, .inl hsince, h.fresh waitingOn since himpacted,
        fun ran => h.ran waitingOn since ran himpacted⟩
    · rename_i hne
      have hother : ∀ entry ∈ record.getLast?, entry.warnable ≠ some w := by
        intro entry hmem heq
        cases hlast.symm.trans hmem
        exact hne (Option.some.inj (hw.symm.trans heq))
      refine ⟨rfl, .inr ⟨rfl, hother⟩, ?_, ?_⟩
      · -- the episode goes on only when neither warnable is steady
        intro hnone hpassed
        rw [passRan_change hlast hw] at hpassed
        obtain ⟨hbefore, hgoes⟩ := hpassed
        rcases hgoes with rfl | ⟨hold, hnew⟩
        · exact hne rfl
        · dsimp only at hnone
          rw [hnew, Option.any_some, hold, if_neg (by decide)] at hnone
          exact h.fresh waitingOn since himpacted hnone hbefore
      · intro ran hran
        dsimp only at hran
        split at hran
        · cases hran
        · rename_i hsteady
          rw [Option.any_some, Bool.not_eq_true, Bool.or_eq_false_iff] at hsteady
          exact lastPass_change hlast hw (.inr ⟨hsteady.2, hsteady.1⟩)
            (h.ran waitingOn since ran himpacted hran)

/-- A call that is put on record. -/
theorem Noticed.asked {record : List TimerEntry} {w : ConnectivityWarnable} {now : Nat}
    {noticed : Nat × EpisodeTimer} (h : Noticed record w now noticed) (due : Bool) :
    Summarises (if due then { noticed.2 with lastRun := some now } else noticed.2)
      (record ++ [.asked w now due]) := by
  have himpacted : (if due then { noticed.2 with lastRun := some now } else noticed.2).impacted =
      some (w, noticed.1) := by
    cases due
    · exact h.impacted
    · exact h.impacted
  have hsame {w' : ConnectivityWarnable} {since : Nat}
      (h' : (if due then { noticed.2 with lastRun := some now } else noticed.2).impacted =
        some (w', since)) : w' = w ∧ since = noticed.1 := by
    cases himpacted.symm.trans h'
    exact ⟨rfl, rfl⟩
  refine ⟨fun hnone => ?_, ?_, ?_, ?_⟩
  · cases himpacted.symm.trans hnone
  · intro w' since h'
    obtain ⟨rfl, rfl⟩ := hsame h'
    rcases h.waiting with ⟨before, due', after, hrecord, hafter, hbefore⟩ | ⟨hnow, hbefore⟩
    · refine ⟨before, due', after ++ [.asked w' now due], ?_, ?_, hbefore⟩
      · rw [hrecord, List.append_assoc, List.cons_append]
      · intro entry hmem
        rcases List.mem_append.mp hmem with hold | hnew
        · exact hafter entry hold
        · rw [List.mem_singleton.mp hnew]
          rfl
    · rw [hnow]
      exact ⟨record, due, [], rfl, fun entry hmem => (by cases hmem), hbefore⟩
  · intro w' since h' hnone
    obtain ⟨rfl, rfl⟩ := hsame h'
    cases due with
    | true => cases hnone
    | false =>
      rintro ⟨before, w'', t, after, hrecord, hunbroken⟩
      rcases concat_eq_append_cons hrecord with ⟨-, hlast, -⟩ | ⟨after', rfl, hbefore⟩
      · cases hlast
      · rw [← List.cons_append, unbroken_concat, List.map_append, List.isChain_append] at hunbroken
        refine h.fresh hnone ⟨before, w'', t, after', hbefore, ?_⟩
        unfold Unbroken
        rw [List.isChain_append]
        exact hunbroken.1
  · intro w' since ran h' hran
    obtain ⟨rfl, rfl⟩ := hsame h'
    cases due with
    | true =>
      cases hran
      refine ⟨record, w', [], rfl, ?_, fun entry hmem => (by cases hmem)⟩
      exact List.IsChain.cons_cons (continues_refl w') (List.IsChain.singleton _)
    | false =>
      obtain ⟨before, w'', after, hrecord, hunbroken, hnone⟩ := h.ran ran hran
      refine ⟨before, w'', after ++ [.asked w' now false], ?_, ?_, ?_⟩
      · rw [hrecord, List.append_assoc, List.cons_append]
      · rw [← List.cons_append, unbroken_concat]
        refine ⟨?_, continues_refl w'⟩
        rw [List.map_append]
        exact hunbroken
      · intro entry hmem
        rcases List.mem_append.mp hmem with hold | hnew
        · exact hnone entry hold
        · rw [List.mem_singleton.mp hnew]
          rfl

/-- **The timer of a run summarises its record.** -/
theorem timerRun_summarises (calls : List TimerCall) :
    Summarises (timerRun calls).1 (timerRun calls).2 := by
  induction calls using List.reverseRecOn with
  | nil =>
    refine ⟨fun _ => ⟨rfl, fun last hmem => by cases hmem⟩, ?_, ?_, ?_⟩
    · intro w since h
      cases h
    · intro w since h
      cases h
    · intro w since ran h
      cases h
  | append_singleton calls call ih =>
    unfold timerRun at ih ⊢
    rw [List.foldl_append, List.foldl_cons, List.foldl_nil]
    cases call with
    | probeDue w now => exact (ih.notice w now).asked _
    | recovered =>
      refine ⟨fun _ => ⟨rfl, fun last hmem => ?_⟩, ?_, ?_, ?_⟩
      · rw [timerStep, List.getLast?_concat] at hmem
        cases hmem
        rfl
      · intro w since h
        cases h
      · intro w since h
        cases h
      · intro w since ran h
        cases h

/-! ## Runs call by call -/

theorem timerRun_concat (calls : List TimerCall) (call : TimerCall) :
    timerRun (calls ++ [call]) = timerStep (timerRun calls) call := by
  unfold timerRun
  rw [List.foldl_append, List.foldl_cons, List.foldl_nil]

/-- The record has the instants of the calls. -/
theorem timerRun_instants (calls : List TimerCall) :
    (timerRun calls).2.filterMap TimerEntry.instant = calls.filterMap TimerCall.instant := by
  induction calls using List.reverseRecOn with
  | nil => rfl
  | append_singleton calls call ih =>
    rw [timerRun_concat, List.filterMap_append, ← ih]
    cases call <;> exact List.filterMap_append

/-- An entry of the record is a call and its answer after the calls before it. -/
theorem timerRun_split {calls : List TimerCall} {front back : List TimerEntry}
    {w : ConnectivityWarnable} {t : Nat} {due : Bool}
    (h : (timerRun calls).2 = front ++ .asked w t due :: back) :
    ∃ calls₁ calls₂, calls = calls₁ ++ .probeDue w t :: calls₂ ∧ (timerRun calls₁).2 = front ∧
      ((timerRun calls₁).1.probeDue w t).1 = due := by
  induction calls using List.reverseRecOn generalizing back with
  | nil => simp [timerRun] at h
  | append_singleton calls call ih =>
    rw [timerRun_concat] at h
    have hearlier : ∀ {back'}, (timerRun calls).2 = front ++ .asked w t due :: back' →
        ∃ calls₁ calls₂, calls ++ [call] = calls₁ ++ .probeDue w t :: calls₂ ∧
          (timerRun calls₁).2 = front ∧ ((timerRun calls₁).1.probeDue w t).1 = due := by
      intro back' hback
      obtain ⟨calls₁, calls₂, hcalls, hrest⟩ := ih hback
      exact ⟨calls₁, calls₂ ++ [call], by rw [hcalls]; simp, hrest⟩
    cases call with
    | recovered =>
      rcases concat_eq_append_cons h with ⟨-, hentry, -⟩ | ⟨back', -, hback⟩
      · cases hentry
      · exact hearlier hback
    | probeDue w' now =>
      rcases concat_eq_append_cons h with ⟨-, hentry, hfront⟩ | ⟨back', -, hback⟩
      · cases hentry
        exact ⟨calls, [], rfl, hfront, rfl⟩
      · exact hearlier hback

/-! ## When a pass is due -/

/-- The settle time is measured from the beginning of the report. -/
theorem ReportedSince.settled_iff {record : List TimerEntry} {w : ConnectivityWarnable}
    {since now : Nat} (h : ReportedSince record w since)
    (hordered : (record.filterMap TimerEntry.instant).Pairwise (· ≤ ·)) :
    OnsetSettled record w now ↔ since + w.settleTime ≤ now := by
  obtain ⟨before, due, after, hrecord, hafter, hbefore⟩ := h
  constructor
  · rintro ⟨before', t, due', after', hrecord', hafter', hsettled⟩
    -- a report that is not interrupted does not reach back over its beginning
    have hlater : since ≤ t := by
      rcases places_cases (hrecord.symm.trans hrecord') with
        ⟨-, heq, -⟩ | ⟨mid, -, hmid⟩ | ⟨mid, hmid, hafter''⟩
      · cases heq
        exact Nat.le_refl _
      · rw [hrecord] at hordered
        have hmem : TimerEntry.asked w t due' ∈ after := by
          rw [hmid]
          exact List.mem_append_right _ List.mem_cons_self
        exact instant_le hordered hmem
      · have hlast := List.getLast_mem (List.cons_ne_nil (TimerEntry.asked w t due') mid)
        refine absurd ?_ (hbefore _ (by
          rw [hmid, List.getLast?_append_of_ne_nil _ (List.cons_ne_nil _ _)]
          exact List.getLast?_eq_some_getLast (List.cons_ne_nil _ _)))
        rcases List.mem_cons.mp hlast with heq | hin
        · rw [heq]
          rfl
        · exact hafter' _ (by rw [hafter'']; exact List.mem_append_left _ hin)
    omega
  · intro hsettled
    exact ⟨before, since, due, after, hrecord, hafter, hsettled⟩

/-- A report that has just begun has not settled. -/
theorem not_settled {record : List TimerEntry} {w : ConnectivityWarnable} {now : Nat}
    (h : ∀ last ∈ record.getLast?, last.warnable ≠ some w) : ¬ OnsetSettled record w now := by
  rintro ⟨before, t, due, after, hrecord, hafter, -⟩
  rcases List.eq_nil_or_concat after with rfl | ⟨after', last, rfl⟩
  · exact h (.asked w t due) (by rw [hrecord, List.getLast?_concat]; rfl) rfl
  · rw [List.concat_eq_append] at hrecord hafter
    refine h last ?_ (hafter last (List.mem_append_right _ (List.mem_singleton.mpr rfl)))
    rw [hrecord, ← List.cons_append, ← List.append_assoc, List.getLast?_concat]
    rfl

/-- **`probe_due` answers by the record.** -/
theorem probeDue_iff {calls : List TimerCall} (hordered : TimerCall.Ordered calls)
    (w : ConnectivityWarnable) (now : Nat) :
    ((timerRun calls).1.probeDue w now).1 = true ↔ PassDue (timerRun calls).2 w now := by
  have hnoticed := (timerRun_summarises calls).notice w now
  have hinstants : ((timerRun calls).2.filterMap TimerEntry.instant).Pairwise (· ≤ ·) := by
    rw [timerRun_instants]
    exact hordered
  have hsettle := w.settleTime_pos
  unfold EpisodeTimer.probeDue
  dsimp only
  cases hrun : ((timerRun calls).1.notice w now).2.lastRun with
  | none =>
    have hno := hnoticed.fresh hrun
    have hlast : ∀ ran, ¬ LastPass (timerRun calls).2 w ran := fun ran h => hno h.passRan
    have hdue : PassDue (timerRun calls).2 w now ↔ OnsetSettled (timerRun calls).2 w now := by
      constructor
      · rintro (⟨-, hsettled⟩ | ⟨-, ran, hran, -⟩)
        · exact hsettled
        · exact absurd hran (hlast ran)
      · intro hsettled
        exact .inl ⟨hno, hsettled⟩
    rw [hdue, decide_eq_true_iff]
    rcases hnoticed.waiting with hsince | ⟨hnow, hbefore⟩
    · rw [hsince.settled_iff hinstants]
      omega
    · refine ⟨fun hle => ?_, fun hsettled => absurd hsettled (not_settled hbefore)⟩
      rw [hnow] at hle
      omega
  | some ran =>
    have hlast := hnoticed.ran ran hrun
    have hdue : PassDue (timerRun calls).2 w now ↔
        w.isSteady = false ∧ ran + recheckInterval ≤ now := by
      constructor
      · rintro (⟨hno, -⟩ | ⟨hsteady, ran', hran', hle⟩)
        · exact absurd hlast.passRan hno
        · rw [hlast.unique hran']
          exact ⟨hsteady, hle⟩
      · rintro ⟨hsteady, hle⟩
        exact .inr ⟨hsteady, ran, hlast, hle⟩
    have hrecheck : 0 < recheckInterval := by decide
    rw [hdue]
    cases w.isSteady with
    | true => simp
    | false =>
      dsimp only
      rw [if_neg (by decide), decide_eq_true_iff]
      constructor
      · intro hle
        exact ⟨rfl, by omega⟩
      · rintro ⟨-, hle⟩
        omega

/-! ## The results -/

/-- The passes of an episode are a recheck interval apart. -/
theorem passes_apart {calls : List TimerCall} (hordered : TimerCall.Ordered calls)
    {before mid after : List TimerEntry} {w w' : ConnectivityWarnable} {t t' : Nat}
    (hrecord : (timerRun calls).2 =
      before ++ .asked w t true :: (mid ++ .asked w' t' true :: after))
    (hunbroken : Unbroken (.asked w t true :: mid) w') :
    w'.isSteady = false ∧ t + recheckInterval ≤ t' := by
  rw [← List.cons_append, ← List.append_assoc] at hrecord
  obtain ⟨calls₁, calls₂, rfl, hfront, hdue⟩ := timerRun_split hrecord
  have hordered₁ : TimerCall.Ordered calls₁ := by
    unfold TimerCall.Ordered at hordered
    rw [List.filterMap_append, List.pairwise_append] at hordered
    exact hordered.1
  rw [probeDue_iff hordered₁, hfront] at hdue
  rcases hdue with ⟨hno, -⟩ | ⟨hsteady, ran, hran, hle⟩
  · exact absurd ⟨before, w, t, mid, rfl, hunbroken⟩ hno
  · refine ⟨hsteady, ?_⟩
    obtain ⟨before', w'', after', hfront', -, hnone⟩ := hran
    -- the last pass is the one at hand or a later one
    have hlater : t ≤ ran := by
      rcases places_cases hfront' with ⟨-, heq, -⟩ | ⟨mid', -, hmid⟩ | ⟨mid', -, hafter'⟩
      · cases heq
        exact Nat.le_refl _
      · have hinstants : ((timerRun calls₁).2.filterMap TimerEntry.instant).Pairwise (· ≤ ·) := by
          rw [timerRun_instants]
          exact hordered₁
        rw [hfront] at hinstants
        have hmem : TimerEntry.asked w'' ran true ∈ mid := by
          rw [hmid]
          exact List.mem_append_right _ List.mem_cons_self
        exact instant_le hinstants hmem
      · have hpass := hnone (.asked w t true) (by
          rw [hafter']
          exact List.mem_append_right _ List.mem_cons_self)
        cases hpass
    omega

/-- A steady warnable starts its own episode. -/
theorem notice_onset {timer : EpisodeTimer} {record : List TimerEntry}
    (h : Summarises timer record) {w : ConnectivityWarnable} (hsteady : w.isSteady = true)
    (honset : ∀ last ∈ record.getLast?, last.warnable ≠ some w) (now : Nat) :
    timer.notice w now = (now, { impacted := some (w, now), lastRun := none }) := by
  unfold EpisodeTimer.notice
  dsimp only
  rw [hsteady, Bool.true_or, if_pos rfl]
  cases himpacted : timer.impacted with
  | none => rfl
  | some waiting =>
    obtain ⟨waitingOn, since⟩ := waiting
    obtain ⟨last, hlast, hw⟩ := (h.waiting waitingOn since himpacted).getLast?
    dsimp only
    rw [if_neg, Bool.true_or, if_pos rfl]
    rintro rfl
    exact honset last hlast hw

/-- The calls of a run are put on record one behind the other. -/
theorem timerStep_foldl (calls : List TimerCall) (timer : EpisodeTimer)
    (record : List TimerEntry) : (calls.foldl timerStep (timer, record)).2 =
      record ++ (calls.foldl timerStep (timer, [])).2 := by
  induction calls generalizing timer record with
  | nil => exact (List.append_nil record).symm
  | cons call calls ih =>
    cases call with
    | recovered =>
      rw [List.foldl_cons, List.foldl_cons, timerStep, timerStep, ih, ih _ ([] ++ _)]
      simp
    | probeDue w now =>
      rw [List.foldl_cons, List.foldl_cons, timerStep, timerStep, ih, ih _ ([] ++ _)]
      simp

/-- The passes that calls come to, from a timer. -/
def passesFrom (timer : EpisodeTimer) (calls : List TimerCall) : List Nat :=
  (calls.foldl timerStep (timer, [])).2.filterMap TimerEntry.pass

theorem passesFrom_cons (timer : EpisodeTimer) (w : ConnectivityWarnable) (now : Nat)
    (calls : List TimerCall) : passesFrom timer (.probeDue w now :: calls) =
      (if (timer.probeDue w now).1 then [now] else []) ++
        passesFrom (timer.probeDue w now).2 calls := by
  unfold passesFrom
  rw [List.foldl_cons, timerStep, timerStep_foldl, List.filterMap_append]
  cases (timer.probeDue w now).1 <;> rfl

/-- A steady warnable that has had its pass has no other. -/
theorem passesFrom_steady_done {w : ConnectivityWarnable} (hsteady : w.isSteady = true)
    (since ran : Nat) (times : List Nat) :
    passesFrom { impacted := some (w, since), lastRun := some ran } (times.map (.probeDue w)) =
      [] := by
  induction times with
  | nil => rfl
  | cons now times ih =>
    have hstays : EpisodeTimer.probeDue { impacted := some (w, since), lastRun := some ran } w now =
        (false, { impacted := some (w, since), lastRun := some ran }) := by
      simp [EpisodeTimer.probeDue, EpisodeTimer.notice, hsteady]
    rw [List.map_cons, passesFrom_cons, hstays]
    exact ih

/-- Before its pass a steady warnable waits for its settle time. -/
theorem probeDue_waiting (w : ConnectivityWarnable) (since now : Nat) :
    EpisodeTimer.probeDue { impacted := some (w, since), lastRun := none } w now =
      if w.settleTime ≤ now - since then
        (true, { impacted := some (w, since), lastRun := some now })
      else (false, { impacted := some (w, since), lastRun := none }) := by
  by_cases hle : w.settleTime ≤ now - since
  · simp [EpisodeTimer.probeDue, EpisodeTimer.notice, hle]
  · simp [EpisodeTimer.probeDue, EpisodeTimer.notice, hle]

/-- A steady warnable has its pass at the first call that lies its settle time behind the onset. -/
theorem passesFrom_steady {w : ConnectivityWarnable} (hsteady : w.isSteady = true) (since : Nat)
    (times : List Nat) :
    passesFrom { impacted := some (w, since), lastRun := none } (times.map (.probeDue w)) =
      (times.find? fun t => since + w.settleTime ≤ t).toList := by
  have hsettle := w.settleTime_pos
  induction times with
  | nil => rfl
  | cons now times ih =>
    rw [List.map_cons, passesFrom_cons, probeDue_waiting]
    by_cases hle : since + w.settleTime ≤ now
    · have hserved : w.settleTime ≤ now - since := by omega
      rw [if_pos hserved, passesFrom_steady_done hsteady,
        List.find?_cons_of_pos (by simpa using hle)]
      rfl
    · have howed : ¬ w.settleTime ≤ now - since := by omega
      rw [if_neg howed, List.find?_cons_of_neg (by simpa using hle)]
      exact ih

/-- **One pass for each onset**: a steady warnable that is reported from `start` on has its pass at
    the first call that lies its settle time behind, and no other. -/
theorem steady_onset {w : ConnectivityWarnable} (hsteady : w.isSteady = true)
    (before : List TimerCall) (start : Nat) (times : List Nat)
    (honset : ∀ last ∈ (timerRun before).2.getLast?, last.warnable ≠ some w) :
    ∃ entries, (timerRun (before ++ (start :: times).map (.probeDue w))).2 =
        (timerRun before).2 ++ entries ∧
      entries.filterMap TimerEntry.pass =
        (times.find? fun t => start + w.settleTime ≤ t).toList := by
  refine ⟨(((start :: times).map (.probeDue w)).foldl timerStep ((timerRun before).1, [])).2,
    ?_, ?_⟩
  · rw [← timerStep_foldl]
    exact congrArg Prod.snd List.foldl_append
  · have hfirst : (timerRun before).1.probeDue w start =
        (false, { impacted := some (w, start), lastRun := none }) := by
      have hsettle := w.settleTime_pos
      unfold EpisodeTimer.probeDue
      rw [notice_onset (timerRun_summarises before) hsteady honset]
      simp [Nat.pos_iff_ne_zero.mp hsettle]
    show passesFrom (timerRun before).1 ((start :: times).map (.probeDue w)) = _
    rw [List.map_cons, passesFrom_cons, hfirst]
    exact passesFrom_steady hsteady start times

/-- **The schedule of an episode.**  In every run with ordered instants `probe_due` answers by the
    record: before the first pass of the episode, once the warnable has been reported for its settle
    time; after it, when the warnable is not steady, a recheck interval after the last pass.  A
    steady warnable that is reported on and on has one pass, at the first call that lies its settle
    time behind its onset, and two passes of one episode are a recheck interval apart. -/
theorem episode_schedule (calls : List TimerCall) (hordered : TimerCall.Ordered calls) :
    (∀ w now, ((timerRun calls).1.probeDue w now).1 = true ↔ PassDue (timerRun calls).2 w now) ∧
    (∀ (w : ConnectivityWarnable) (start : Nat) (times : List Nat), w.isSteady = true →
      (∀ last ∈ (timerRun calls).2.getLast?, last.warnable ≠ some w) →
      ∃ entries, (timerRun (calls ++ (start :: times).map (.probeDue w))).2 =
          (timerRun calls).2 ++ entries ∧
        entries.filterMap TimerEntry.pass =
          (times.find? fun t => start + w.settleTime ≤ t).toList) ∧
    ∀ before w t mid w' t' after,
      (timerRun calls).2 = before ++ .asked w t true :: (mid ++ .asked w' t' true :: after) →
      Unbroken (.asked w t true :: mid) w' → w'.isSteady = false ∧ t + recheckInterval ≤ t' :=
  ⟨probeDue_iff hordered,
    fun _ start times hsteady honset => steady_onset hsteady calls start times honset,
    fun _ _ _ _ _ _ _ hrecord hunbroken => passes_apart hordered hrecord hunbroken⟩

/-- A relay that is out of reach for a while, and forwarding that is off afterwards. -/
theorem episode_schedule_walk :
    ((timerRun [.probeDue .noDerpHome 0]).1.probeDue .noDerpHome (seconds 12)).1 = true ∧
    ∃ entries, (timerRun ([.probeDue .noDerpHome 0] ++
          [seconds 20, seconds 21, seconds 22, seconds 90].map (.probeDue .ipForwardingOff))).2 =
        (timerRun [.probeDue .noDerpHome 0]).2 ++ entries ∧
      entries.filterMap TimerEntry.pass = [seconds 22] := by
  have hschedule := episode_schedule [.probeDue .noDerpHome 0] (List.pairwise_singleton _ _)
  refine ⟨(hschedule.1 .noDerpHome (seconds 12)).mpr (.inl ⟨?_, ?_⟩), ?_⟩
  · rintro ⟨before, w, t, after, hrecord, -⟩
    have hmem : TimerEntry.asked w t true ∈ (timerRun [.probeDue .noDerpHome 0]).2 := by
      rw [hrecord]
      exact List.mem_append_right _ List.mem_cons_self
    cases List.mem_singleton.mp hmem
  · exact ⟨[], 0, false, [], rfl, fun entry hmem => (by cases hmem), by decide⟩
  · exact hschedule.2.1 .ipForwardingOff (seconds 20) [seconds 21, seconds 22, seconds 90] rfl
      (fun last hmem => by cases hmem; decide)

end Tailnetd
