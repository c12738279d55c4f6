/-
  The always-on reconnect timer.

  A permitted disconnect of a node that was meant to run grants an exemption from the always-on
  policy, and arms a timer when the policy bounds it.  The timer, the exemption and the recorded
  intent are three fields with different writers.  `TimerStep` says once what a step does to the
  first two and to the profile; the invariant of an armed timer and the order of the sequence
  numbers are read off it.

  One writer does not go with the others: a config reload writes the intent like a connect, and
  leaves the exemption and the timer as they are.
-/
import Tailnetd.Boot
import Tailnetd.PolicyFields

namespace Tailnetd

open Machine

/-! ## What a step does to the timer -/

/-- A reload section that takes in a document which does not say the node is off. -/
def SwitchesOn (H : Host) (d : Daemon) : Event → Prop
  | .reload document _ _ =>
    (∃ path, d.backend.configSource = some (.file path)) ∧
      ∃ c, document = .ok c ∧ c.validate H d.backend.prefs = .ok () ∧ c.enabled ≠ some false
  | _ => False

/-- What a step does to the timer, with the exemption, the intent and the profile. -/
inductive TimerStep (H : Host) (d : Daemon) : Event → Daemon → Prop
  | kept {e : Event} {d' : Daemon} (htimer : d'.backend.reconnect = d.backend.reconnect)
      (hseq : d'.backend.reconnectSeq = d.backend.reconnectSeq)
      (hprofile : d'.backend.currentProfile = d.backend.currentProfile)
      (hflag : d.backend.overrideAlwaysOn = true → d'.backend.overrideAlwaysOn = true)
      (hdown : d.backend.overrideAlwaysOn = true → d.backend.prefs.wantRunning = false →
        ¬ SwitchesOn H d e → d'.backend.prefs.wantRunning = false) : TimerStep H d e d'
  /-- A disconnect arms it afresh. -/
  | armed {e : Event} {d' : Daemon} {after : Nat}
      (htimer : d'.backend.reconnect =
        some ⟨d.backend.reconnectSeq + 1, d.backend.currentProfile, after⟩)
      (hseq : d'.backend.reconnectSeq = d.backend.reconnectSeq + 1)
      (hprofile : d'.backend.currentProfile = d.backend.currentProfile)
      (hflag : d'.backend.overrideAlwaysOn = true)
      (hdown : d'.backend.prefs.wantRunning = false) : TimerStep H d e d'
  /-- It is cancelled, or a fired one is claimed or dropped. -/
  | cleared {e : Event} {d' : Daemon} (htimer : d'.backend.reconnect = none)
      (hseq : d'.backend.reconnectSeq = d.backend.reconnectSeq)
      (hprofile : d.switches H e = true ∨ d'.backend.currentProfile = d.backend.currentProfile) :
      TimerStep H d e d'

/-- A policy that can only switch the intent on leaves a node off that is exempt from it. -/
theorem policy_stays_down {settings : List PolicySetting} {p : Prefs} {o : PolicyOverrides}
    (hdown : p.wantRunning = false) (hexempt : o.alwaysOn = true) :
    (applySettingsToPrefs settings p o).1.wantRunning = false := by
  rw [policy_wantRunning, hdown, hexempt]
  simp

/-- A disconnect's edge arms the timer or leaves it. -/
theorem timerStep_disconnect {H : Host} {d d' : Daemon} {e : Event} {wasRunning : Bool}
    (htimer : d'.backend.reconnect = (d.backend.timerAfter (d.env H) wasRunning).1)
    (hseq : d'.backend.reconnectSeq = (d.backend.timerAfter (d.env H) wasRunning).2)
    (hprofile : d'.backend.currentProfile = d.backend.currentProfile)
    (hflag : d'.backend.overrideAlwaysOn = (wasRunning || d.backend.overrideAlwaysOn))
    (hdown : d'.backend.prefs.wantRunning = false) : TimerStep H d e d' := by
  have hleft (hsame : d.backend.timerAfter (d.env H) wasRunning =
      (d.backend.reconnect, d.backend.reconnectSeq)) : TimerStep H d e d' := by
    rw [hsame] at htimer hseq
    refine .kept htimer hseq hprofile (fun hbefore => ?_) fun _ _ _ => hdown
    rw [hflag, hbefore, Bool.or_true]
  cases wasRunning with
  | false => exact hleft rfl
  | true =>
    cases hafter : reconnectAfterIn (d.env H).settings with
    | none => exact hleft (by unfold Backend.timerAfter; rw [hafter])
    | some after =>
      have harmed : d.backend.timerAfter (d.env H) true =
          (some ⟨d.backend.reconnectSeq + 1, d.backend.currentProfile, after⟩,
            d.backend.reconnectSeq + 1) := by
        unfold Backend.timerAfter
        rw [hafter]
      rw [harmed] at htimer hseq
      exact .armed htimer hseq hprofile hflag hdown

/-- **What a step does to the timer.** -/
theorem timer_step {H : Host} {d d' : Daemon} {e : Event} (hstep : Daemon.step H d e = some d') :
    TimerStep H d e d' := by
  have hswitch {b' : Backend} {c : ConfigVAlpha} {document : Except Failure ConfigVAlpha}
      {contents : Option String} {io : Io} {path : String} {ts : List Task}
      (hsource : d.backend.configSource = some (.file path)) (hdoc : document = .ok c)
      (hvalid : c.validate H d.backend.prefs = .ok ())
      (hb : DiskOnly (d.backend.configured (d.env H) c) b') :
      TimerStep H d (.reload document contents io) { d with backend := b', tasks := ts } := by
    obtain ⟨disk, ticks, key, -, rfl⟩ := hb
    refine .kept rfl rfl rfl id fun hexempt _ hoff => ?_
    have henabled : c.enabled = some false := by
      by_contra hon
      exact hoff ⟨⟨path, hsource⟩, c, hdoc, hvalid, hon⟩
    refine policy_stays_down ?_ hexempt
    show c.enabled.getD true = false
    rw [henabled]
    rfl
  cases step_shift hstep with
  | kept he hb hts hh hr =>
    obtain ⟨disk, ticks, key, -, rfl⟩ := hb
    exact .kept rfl rfl rfl id fun _ hdown _ => hdown
  | preflightFailed hfail hb hts hh =>
    obtain ⟨disk, ticks, key, -, rfl⟩ := hb
    exact .kept rfl rfl rfl id fun _ hdown _ => hdown
  | preflightPassed hcause hb hts hh =>
    obtain ⟨disk, ticks, key, -, rfl⟩ := hb
    exact .kept rfl rfl rfl id fun _ hdown _ => hdown
  | rebuildRefused hcheck hts hh => exact .kept rfl rfl rfl id fun _ hdown _ => hdown
  | started hstart hts hh hup =>
    cases hup with
    | keyKept hforce hremove => exact .kept rfl rfl rfl id fun _ hdown _ => hdown
    | failed hcheck hfail hb =>
      obtain ⟨disk, ticks, key, -, rfl⟩ := hb
      refine .cleared ?_ ?_ (.inr ?_) <;> rw [Backend.upResult, Backend.applyUp_eq]
      · rfl
      · rfl
    | begun hcheck hconfig hkey hb =>
      obtain ⟨disk, ticks, key, -, rfl⟩ := hb
      refine .cleared ?_ ?_ (.inr ?_) <;> rw [Backend.upResult, Backend.applyUp_eq]
      · rfl
      · rfl
      · rfl
  | installed hgen hb hts hr hpre hh =>
    obtain ⟨disk, ticks, key, -, rfl⟩ := hb
    exact .kept rfl rfl rfl id fun _ hdown _ => hdown
  | handedBack hgen hb hts hr hpre hh =>
    obtain ⟨disk, ticks, key, -, rfl⟩ := hb
    exact .kept rfl rfl rfl id fun _ hdown _ => hdown
  | buildFailed hb hts hr hpre hh =>
    obtain ⟨disk, ticks, key, -, rfl⟩ := hb
    exact .kept rfl rfl rfl id fun _ hdown _ => hdown
  | setFailed hcheck hfail hb =>
    obtain ⟨disk, ticks, key, -, rfl⟩ := hb
    rw [Backend.setResult, Backend.applySet_eq]
    exact .kept rfl rfl rfl id fun hexempt hdown _ => policy_stays_down hdown hexempt
  | setPersisted hcheck hdev hb =>
    obtain ⟨disk, ticks, key, -, rfl⟩ := hb
    rw [Backend.setResult, Backend.applySet_eq]
    exact .kept rfl rfl rfl id fun hexempt hdown _ => policy_stays_down hdown hexempt
  | setRebuild hcheck hdev hneeds hb =>
    obtain ⟨disk, ticks, key, -, rfl⟩ := hb
    rw [Backend.setResult, Backend.applySet_eq]
    exact .kept rfl rfl rfl id fun hexempt hdown _ => policy_stays_down hdown hexempt
  | setLive hcheck hdev hneeds hb =>
    obtain ⟨disk, ticks, key, -, rfl⟩ := hb
    rw [Backend.setResult, Backend.applySet_eq]
    exact .kept rfl rfl rfl id fun hexempt hdown _ => policy_stays_down hdown hexempt
  | @reloadKeyFailed document contents io c f path hsource hdoc hvalid hkey =>
    refine .kept rfl rfl rfl id fun _ _ hoff => ?_
    have henabled : c.enabled = some false := by
      by_contra hon
      exact hoff ⟨⟨path, hsource⟩, c, hdoc, hvalid, hon⟩
    show c.enabled.getD true = false
    rw [henabled]
    rfl
  | reloadFailed hsource hdoc hvalid hfail hb => exact hswitch hsource hdoc hvalid hb
  | reloadApplied hsource hdoc hvalid howed hb => exact hswitch hsource hdoc hvalid hb
  | down he hmark hb hts hh =>
    obtain ⟨disk, ticks, key, -, rfl⟩ := hb
    rw [Backend.downResult_eq]
    exact timerStep_disconnect rfl rfl rfl rfl rfl
  | logout hmark hb =>
    obtain ⟨disk, ticks, key, -, rfl⟩ := hb
    rw [Backend.logoutResult_eq]
    exact timerStep_disconnect rfl rfl rfl rfl rfl
  | tornDown he hb =>
    obtain ⟨disk, ticks, key, -, rfl⟩ := hb
    exact .kept rfl rfl rfl id fun _ hdown _ => hdown
  | profileActivated he hne hb hswitched =>
    obtain ⟨disk, ticks, key, -, rfl⟩ := hb
    exact .cleared rfl rfl (.inl hswitched)
  | profileEmptied he hb hswitched =>
    obtain ⟨disk, ticks, key, -, rfl⟩ := hb
    exact .cleared rfl rfl (.inl hswitched)
  | policyMoved => exact .kept rfl rfl rfl id fun _ hdown _ => hdown
  | policyTick =>
    rw [Backend.exitNodePolicyChanged_eq, Backend.sysPolicyChanged_eq]
    by_cases hsame : alwaysOnKeysIn (d.env H).settings = d.backend.alwaysOnKeys
    · refine .kept (if_pos hsame) rfl rfl ?_ fun _ hdown _ => hdown
      intro hbefore
      show (decide (alwaysOnKeysIn (d.env H).settings = d.backend.alwaysOnKeys) && _) = true
      rw [hbefore, Bool.and_true, decide_eq_true_eq]
      exact hsame
    · exact .cleared (if_neg hsame) rfl (.inr rfl)
  | timerDropped => exact .cleared rfl rfl (.inr rfl)
  | timerClaimed harmed hprofile => exact .cleared rfl rfl (.inr rfl)
  | retried hretry => exact .kept rfl rfl rfl id fun _ hdown _ => hdown
  | resumeKeyed htask hkey hts hh hr => exact .kept rfl rfl rfl id fun _ hdown _ => hdown
  | engine => exact .kept rfl rfl rfl id fun _ hdown _ => hdown

/-! ## The invariant of an armed timer -/

/-- An armed timer belongs to a standing exemption of a node that is off, and to its profile. -/
structure TimerSound (b : Backend) (armed : ReconnectTimer) : Prop where
  exempt : b.overrideAlwaysOn = true
  down : b.prefs.wantRunning = false
  profile : armed.profile = b.currentProfile

/-- The timer's number was given out. -/
def Numbered (d : Daemon) : Prop :=
  ∀ armed, d.backend.reconnect = some armed →
    0 < armed.seq ∧ armed.seq ≤ d.backend.reconnectSeq

/-- No reload turns the node on while a timer is armed. -/
def SwitchesOnUnarmed (H : Host) (d : Daemon) (e : Event) : Prop :=
  SwitchesOn H d e → d.backend.reconnect = none

/-- **An armed timer stays sound** under every event but a reload that turns the node on. -/
theorem timerSound_step {H : Host} {d d' : Daemon} {e : Event}
    (h : ∀ armed, d.backend.reconnect = some armed → TimerSound d.backend armed)
    (hgood : SwitchesOnUnarmed H d e) (hstep : Daemon.step H d e = some d') :
    ∀ armed, d'.backend.reconnect = some armed → TimerSound d'.backend armed := by
  intro armed harmed
  cases timer_step hstep with
  | kept htimer hseq hprofile hflag hdown =>
    rw [htimer] at harmed
    have hsound := h armed harmed
    refine ⟨hflag hsound.exempt, hdown hsound.exempt hsound.down ?_, ?_⟩
    · intro hon
      rw [hgood hon] at harmed
      cases harmed
    · rw [hprofile]
      exact hsound.profile
  | armed htimer hseq hprofile hflag hdown =>
    rw [htimer] at harmed
    obtain rfl := Option.some.inj harmed
    exact ⟨hflag, hdown, hprofile.symm⟩
  | cleared htimer hseq hprofile =>
    rw [htimer] at harmed
    cases harmed

theorem numbered_step {H : Host} {d d' : Daemon} {e : Event} (h : Numbered d)
    (hstep : Daemon.step H d e = some d') : Numbered d' := by
  intro armed harmed
  cases timer_step hstep with
  | kept htimer hseq hprofile hflag hdown =>
    rw [htimer] at harmed
    rw [hseq]
    exact h armed harmed
  | armed htimer hseq hprofile hflag hdown =>
    rw [htimer] at harmed
    obtain rfl := Option.some.inj harmed
    rw [hseq]
    exact ⟨Nat.succ_pos _, Nat.le_refl _⟩
  | cleared htimer hseq hprofile =>
    rw [htimer] at harmed
    cases harmed

/-- A boot arms nothing: `begin_up` clears the timer, and the rest leaves it. -/
theorem boot_unarmed {H : Host} {policy : List PolicySource} {s : Daemon.BootInput} {d : Daemon}
    (h : Daemon.boot H policy s = .ok d) : d.backend.reconnect = none := by
  have hreach : Daemon.Reachable H (fun _ e => ∃ i built io, e = .finish i built io) d :=
    ⟨policy, s, d, [], h, .nil d⟩
  refine hreach.invariant (P := fun d => d.backend.reconnect = none)
    (fun _ i built io => ⟨i, built, io, rfl⟩) (fun d hidle => hidle.backend.reconnect) ?_ ?_
  · rintro d d' authkey io hidle hup
    have hnone := hidle.backend.reconnect
    cases hup with
    | keyKept hforce hremove => exact hnone
    | failed hcheck hfail hb =>
      obtain ⟨disk, ticks, key, -, rfl⟩ := hb
      rw [Backend.upResult, Backend.applyUp_eq]
    | begun hcheck hconfig hkey hb =>
      obtain ⟨disk, ticks, key, -, rfl⟩ := hb
      rw [Backend.upResult, Backend.applyUp_eq]
      rfl
  · rintro d e d' hnone ⟨i, built, io, rfl⟩ hstep
    cases step_shift hstep with
    | kept he hb hts hh hr =>
      obtain ⟨disk, ticks, key, -, rfl⟩ := hb
      exact hnone
    | started hstart hts hh hup => cases hstart
    | installed hgen hb hts hr hpre hh =>
      obtain ⟨disk, ticks, key, -, rfl⟩ := hb
      exact hnone
    | handedBack hgen hb hts hr hpre hh =>
      obtain ⟨disk, ticks, key, -, rfl⟩ := hb
      exact hnone
    | buildFailed hb hts hr hpre hh =>
      obtain ⟨disk, ticks, key, -, rfl⟩ := hb
      exact hnone
    | down he hmark hb hts hh => rcases he with ⟨_, _, he⟩ | ⟨_, _, he⟩ <;> cases he
    | tornDown he hb =>
      obtain ⟨disk, ticks, key, -, rfl⟩ := hb
      exact hnone
    | profileActivated he hne hb => cases he
    | profileEmptied he hb => cases he

/-! ## The order of the armings -/

/-- The arming a step makes, if it makes one. -/
def armingOf (d : Daemon) (_ : Event) (d' : Daemon) : List ReconnectTimer :=
  if d'.backend.reconnectSeq = d.backend.reconnectSeq then [] else d'.backend.reconnect.toList

/-- The arming a step claims, if it claims one. -/
def claimOf (d : Daemon) (e : Event) (_ : Daemon) : List ReconnectTimer :=
  match e with
  | .timerFired armed => if (d.backend.claimDueReconnect armed).1 then [armed] else []
  | _ => []

/-- The armings of a run, in order. -/
def armings (H : Host) (d : Daemon) (es : List Event) : List ReconnectTimer :=
  emitted (Daemon.step H) armingOf d es

/-- The armings a run claims, in order. -/
def claims (H : Host) (d : Daemon) (es : List Event) : List ReconnectTimer :=
  emitted (Daemon.step H) claimOf d es

/-- The number below the next arming that can be claimed. -/
def claimFloor (d : Daemon) : Nat :=
  match d.backend.reconnect with
  | some armed => armed.seq - 1
  | none => d.backend.reconnectSeq

/-- A claim is granted to the arming in the cell, for the profile it was made for. -/
theorem claim_granted {b : Backend} {armed : ReconnectTimer} :
    (b.claimDueReconnect armed).1 = true ↔
      b.reconnect = some armed ∧ armed.profile = b.currentProfile := by
  unfold Backend.claimDueReconnect
  by_cases harmed : b.reconnect = some armed
  · by_cases hprofile : armed.profile = b.currentProfile
    · simp [harmed, hprofile]
    · simp [harmed, hprofile]
  · simp [harmed]

/-- A granted claim empties the cell and owes a bring-up. -/
theorem claim_step {H : Host} {d d' : Daemon} {armed : ReconnectTimer}
    (hgranted : (d.backend.claimDueReconnect armed).1 = true)
    (hstep : Daemon.step H d (.timerFired armed) = some d') :
    d' = { d with
      backend := { d.backend with reconnect := none }
      tasks := d.tasks ++ [.reconnect] } := by
  obtain ⟨harmed, hprofile⟩ := claim_granted.mp hgranted
  dsimp only [Daemon.step, Backend.claimDueReconnect] at hstep
  simp only [harmed, hprofile, ne_eq, not_true_eq_false, if_false] at hstep
  exact (Option.some.inj hstep).symm

/-- Each arming takes the next number. -/
theorem arming_rises {H : Host} {d d' : Daemon} {e : Event}
    (hstep : Daemon.step H d e = some d') :
    d.backend.reconnectSeq ≤ d'.backend.reconnectSeq ∧
      (armingOf d e d' = [] ∨ ∃ armed, armingOf d e d' = [armed] ∧
        d.backend.reconnectSeq < armed.seq ∧ armed.seq ≤ d'.backend.reconnectSeq) := by
  unfold armingOf
  cases timer_step hstep with
  | kept htimer hseq hprofile hflag hdown => exact ⟨hseq.ge, .inl (if_pos hseq)⟩
  | @armed after htimer hseq hprofile hflag hdown =>
    refine ⟨by omega, .inr
      ⟨⟨d.backend.reconnectSeq + 1, d.backend.currentProfile, after⟩, ?_, Nat.lt_succ_self _, hseq.ge⟩⟩
    rw [if_neg (by omega), htimer]
    rfl
  | cleared htimer hseq hprofile => exact ⟨hseq.ge, .inl (if_pos hseq)⟩

/-- A claim moves the floor past the arming it claims. -/
theorem claim_rises {H : Host} {d d' : Daemon} {e : Event} (h : Numbered d)
    (hstep : Daemon.step H d e = some d') :
    claimFloor d ≤ claimFloor d' ∧
      (claimOf d e d' = [] ∨ ∃ armed, claimOf d e d' = [armed] ∧
        claimFloor d < armed.seq ∧ armed.seq ≤ claimFloor d') := by
  have hfloor : claimFloor d ≤ d.backend.reconnectSeq := by
    unfold claimFloor
    cases hcell : d.backend.reconnect with
    | none => exact Nat.le_refl _
    | some armed =>
      have := h armed hcell
      dsimp only
      omega
  have hrise : claimFloor d ≤ claimFloor d' := by
    cases timer_step hstep with
    | kept htimer hseq hprofile hflag hdown =>
      unfold claimFloor
      rw [htimer, hseq]
    | armed htimer hseq hprofile hflag hdown =>
      rw [show claimFloor d' = d.backend.reconnectSeq by
        unfold claimFloor
        rw [htimer]
        rfl]
      exact hfloor
    | cleared htimer hseq hprofile =>
      rw [show claimFloor d' = d.backend.reconnectSeq by
        unfold claimFloor
        rw [htimer]
        exact hseq]
      exact hfloor
  refine ⟨hrise, ?_⟩
  unfold claimOf
  split
  · rename_i armed
    by_cases hgranted : (d.backend.claimDueReconnect armed).1 = true
    · right
      have hcell := (claim_granted.mp hgranted).1
      obtain ⟨hpos, hle⟩ := h armed hcell
      refine ⟨armed, if_pos hgranted, ?_, ?_⟩
      · unfold claimFloor
        rw [hcell]
        dsimp only
        omega
      · rw [claim_step hgranted hstep]
        exact hle
    · exact .inl (if_neg hgranted)
  · exact .inl rfl

/-- **The reconnect timer keeps its invariants**, in every run from a boot: its sequence numbers
    strictly increase, no arming is claimed twice, and, when no reload turned the node on while a
    timer was armed, an armed timer belongs to a standing exemption of a node that is off, under the
    profile it was armed for. -/
theorem reconnect_timer_sound {H : Host} {policy : List PolicySource} {s : Daemon.BootInput}
    {d₀ d : Daemon} {es : List Event} (hboot : Daemon.boot H policy s = .ok d₀)
    (hrun : Run (Daemon.step H) (fun _ _ => True) d₀ es d) :
    (armings H d₀ es).Pairwise (fun a a' => a.seq < a'.seq) ∧
      (claims H d₀ es).Nodup ∧
      (Run (Daemon.step H) (SwitchesOnUnarmed H) d₀ es d →
        ∀ armed, d.backend.reconnect = some armed →
          d.backend.overrideAlwaysOn = true ∧ d.backend.prefs.wantRunning = false ∧
            armed.profile = d.backend.currentProfile) := by
  have hstart : ∀ armed, d₀.backend.reconnect ≠ some armed := by
    intro armed harmed
    rw [boot_unarmed hboot] at harmed
    cases harmed
  refine ⟨?_, ?_, ?_⟩
  · have hseqs := emitted_increasing armingOf ReconnectTimer.seq
      (fun d => d.backend.reconnectSeq) (fun _ => True) (fun _ _ _ _ _ _ => trivial)
      (fun _ _ _ _ _ hstep => arming_rises hstep) hrun trivial
    exact hseqs.2
  · have hclaims := emitted_increasing claimOf ReconnectTimer.seq claimFloor Numbered
      (fun _ _ _ h _ hstep => numbered_step h hstep)
      (fun _ _ _ h _ hstep => claim_rises h hstep) hrun
      (fun armed harmed => absurd harmed (hstart armed))
    refine hclaims.2.imp fun hlt heq => ?_
    rw [heq] at hlt
    exact Nat.lt_irrefl _ hlt
  · intro hgood armed harmed
    have hsound : ∀ armed, d.backend.reconnect = some armed → TimerSound d.backend armed :=
      hgood.invariant (P := fun d => ∀ armed, d.backend.reconnect = some armed →
        TimerSound d.backend armed) (fun _ _ _ h hgood hstep => timerSound_step h hgood hstep)
        (fun armed harmed => absurd harmed (hstart armed))
    exact ⟨(hsound armed harmed).exempt, (hsound armed harmed).down, (hsound armed harmed).profile⟩

/-- A policy that bounds how long a permitted disconnect lasts. -/
def windowPolicy : List PolicySource := [⟨[⟨"ReconnectAfter", some "1h"⟩], none⟩]

/-- A node that a `--config` document brought up at boot. -/
def configuredBoot : Daemon.BootInput :=
  { disk := emptyDisk
    config := some (.file "/etc/tailscaled.json", {}, none)
    built := some .running }

/-- A disconnect under the window, and its arming. -/
theorem reconnect_timer_sound_down :
    ∃ d₀ d, Daemon.boot plainHost windowPolicy configuredBoot = .ok d₀ ∧
      follow (Daemon.step plainHost) d₀ [.down none {}] = some d ∧
      d.backend.reconnect = some ⟨1, defaultProfileId, 3600000000000⟩ ∧
      d.backend.overrideAlwaysOn = true ∧ d.backend.prefs.wantRunning = false := by
  obtain ⟨d₀, d, hboot, hrun, harmed⟩ : ∃ d₀ d,
      Daemon.boot plainHost windowPolicy configuredBoot = .ok d₀ ∧
      follow (Daemon.step plainHost) d₀ [.down none {}] = some d ∧
      d.backend.reconnect = some ⟨1, defaultProfileId, 3600000000000⟩ :=
    ⟨_, _, rfl, rfl, rfl⟩
  have hgood : ∀ e ∈ [Event.down none {}], ∀ d, SwitchesOnUnarmed plainHost d e := by
    intro e he d hon
    rw [List.mem_singleton.mp he] at hon
    cases hon
  have hsound := (reconnect_timer_sound hboot (run_of_follow (fun _ _ _ => trivial) hrun)).2.2
    (run_of_follow hgood hrun) _ harmed
  exact ⟨d₀, d, hboot, hrun, harmed, hsound.1, hsound.2.1⟩

/-- **A reload turns the node on under an armed timer**: it writes the intent and leaves the timer
    that waits to write it. -/
theorem reload_leaves_timer_armed :
    ¬ ∀ (d : Daemon) (armed : ReconnectTimer), Daemon.Reachable plainHost (fun _ _ => True) d →
      d.backend.reconnect = some armed →
      d.backend.overrideAlwaysOn = true ∧ d.backend.prefs.wantRunning = false ∧
        armed.profile = d.backend.currentProfile := by
  intro hclaim
  obtain ⟨d, armed, hd, harmed, hon⟩ : ∃ d armed,
      Daemon.replay plainHost windowPolicy configuredBoot
        [.down none {}, .reload (.ok {}) none {}] = some d ∧
      d.backend.reconnect = some armed ∧ d.backend.prefs.wantRunning = true :=
    ⟨_, _, rfl, rfl, rfl⟩
  have hdown := (hclaim d armed (Daemon.reachable_replay (fun _ _ _ => trivial) hd) harmed).2.1
  rw [hon] at hdown
  cases hdown

end Tailnetd
