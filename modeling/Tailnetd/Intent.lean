/-
  The recorded intent and the engine.

  The prefs record whether the node should be connected.  An engine under them can be installed now,
  or still come in from a bring-up of the current generation; in both cases the daemon owes the
  intent that the prefs say "up".  Every section keeps that but one: a config reload that turns the
  node off tears down only the engine it can see, and does not supersede a bring-up in flight.
-/
import Tailnetd.PolicyFields
import Tailnetd.Supersede

namespace Tailnetd

open Machine Epoch

/-- The prefs ask for a running node. -/
def Intended (p : Prefs) : Prop := p.wantRunning = true ∧ p.loggedOut = false

/-- An engine that is installed, or may still come in, is intended. -/
def UnderIntent (d : Daemon) : Prop := (slotOf d).Live → Intended d.backend.prefs

/-- A document that turns the node off: it says so, and either its registration key does not resolve
    (the policy is then not consulted) or no always-on policy is in force. -/
def ConfigVAlpha.TurnsOff (c : ConfigVAlpha) (E : Env) (b : Backend) (contents : Option String) :
    Prop :=
  c.enabled = some false ∧
    ((∃ f, c.registrationKey contents = .error f) ∨
      ¬ (configuredBoolean E.settings "AlwaysOn.Enabled" = some true ∧
        b.overrideAlwaysOn = false))

/-- A reload section that takes a document in and turns the node off with it. -/
def SwitchesOff (H : Host) (d : Daemon) : Event → Prop
  | .reload document contents _ =>
    (∃ path, d.backend.configSource = some (.file path)) ∧
      ∃ c, document = .ok c ∧ c.validate H d.backend.prefs = .ok () ∧
        c.TurnsOff (d.env H) d.backend contents
  | _ => False

/-- No engine is installed or coming in when a reload turns the node off. -/
def SwitchesOffIdle (H : Host) (d : Daemon) (e : Event) : Prop :=
  SwitchesOff H d e → ¬ (slotOf d).Live

/-! ## The intent after each section -/

/-- A `begin_up` that got past its checks leaves the node intended. -/
theorem intended_upResult (E : Env) (b : Backend) (o : UpOptions) (tags : Option (List String))
    (edit : ExitNodeEdit) : Intended (b.upResult E o tags edit).prefs := by
  rw [Backend.upResult, Backend.applyUp_eq]
  constructor
  · rw [policy_wantRunning]
    rfl
  · rw [policy_loggedOut]
    rfl

/-- A `set` never touches the intent, and the policy can only switch it on. -/
theorem intended_setResult {E : Env} {b : Backend} {o : SetOptions} {tags : Option (List String)}
    {edit : ExitNodeEdit} (h : Intended b.prefs) :
    Intended (b.setResult E o tags edit).prefs := by
  rw [Backend.setResult, Backend.applySet_eq]
  constructor
  · rw [policy_wantRunning]
    exact Bool.or_eq_true_iff.mpr (.inl h.1)
  · rw [policy_loggedOut]
    exact h.2

/-- A document that does not turn the node off leaves it intended. -/
theorem intended_configured {E : Env} {b : Backend} {c : ConfigVAlpha} (contents : Option String)
    (h : Intended b.prefs) (hoff : ¬ c.TurnsOff E b contents) :
    Intended (b.configured E c).prefs := by
  unfold Backend.configured Backend.adoptPrefs Backend.reconcileSysPolicy
  constructor
  · rw [policy_wantRunning]
    cases henabled : c.enabled with
    | none => simp [ConfigVAlpha.merge, henabled]
    | some enabled =>
      cases enabled with
      | true => simp [ConfigVAlpha.merge, henabled]
      | false =>
        have hon := not_not.mp fun hon => hoff ⟨henabled, .inr hon⟩
        simp [hon.1, hon.2]
  · rw [policy_loggedOut, ConfigVAlpha.merge_loggedOut]
    exact h.2

/-- So does a document whose key does not resolve, before any policy. -/
theorem intended_merge {E : Env} {b : Backend} {c : ConfigVAlpha} {contents : Option String}
    {f : Failure} (hkey : c.registrationKey contents = .error f) (h : Intended b.prefs)
    (hoff : ¬ c.TurnsOff E b contents) : Intended (c.merge b.prefs) := by
  refine ⟨?_, h.2⟩
  show c.enabled.getD true = true
  cases henabled : c.enabled with
  | none => rfl
  | some enabled =>
    cases enabled with
    | true => rfl
    | false => exact absurd ⟨henabled, .inl ⟨f, hkey⟩⟩ hoff

/-! ## The invariant -/

/-- A `begin_up` section keeps the intent. -/
theorem underIntent_upShift {H : Host} {d d' : Daemon} {origin : Origin}
    {authkey : Option String} {o : UpOptions} {netmap : ExitNodeFacts} {io : Io} {ts : List Task}
    (hh : handshakes ts = handshakes d.tasks) (h : UnderIntent d)
    (hup : UpShift H d origin authkey o netmap io ts d') : UnderIntent d' := by
  intro hlive
  cases hup with
  | keyKept hforce hremove =>
    rcases hlive with hholder | hticket
    · cases hholder
    · unfold slotOf at hticket
      rw [hh] at hticket
      exact h (.inr hticket)
  | failed hcheck hfail hb =>
    obtain ⟨disk, ticks, key, -, rfl⟩ := hb
    exact intended_upResult _ _ _ _ _
  | begun hcheck hconfig hkey hb =>
    obtain ⟨disk, ticks, key, -, rfl⟩ := hb
    exact intended_upResult _ _ _ _ _

/-- **Every event but a reload that turns a live node off keeps the intent.** -/
theorem underIntent_step {H : Host} {d d' : Daemon} {e : Event} (hsound : Sound (slotOf d))
    (h : UnderIntent d) (hgood : SwitchesOffIdle H d e) (hstep : Daemon.step H d e = some d') :
    UnderIntent d' := by
  intro hlive
  rcases live_shift hsound hstep hlive with hbefore | ⟨_, _, _, _, _, _, -, hh, hup⟩
  · have hintent := h hbefore
    cases step_shift hstep with
    | kept he hb hts hh hr =>
      obtain ⟨disk, ticks, key, -, rfl⟩ := hb
      exact hintent
    | preflightFailed hfail hb hts hh =>
      obtain ⟨disk, ticks, key, -, rfl⟩ := hb
      exact hintent
    | preflightPassed hcause hb hts hh =>
      obtain ⟨disk, ticks, key, -, rfl⟩ := hb
      exact hintent
    | rebuildRefused hcheck hts hh => exact hintent
    | started hstart hts hh hup => exact underIntent_upShift hh h hup hlive
    | installed hgen hb hts hr hpre hh =>
      obtain ⟨disk, ticks, key, -, rfl⟩ := hb
      exact hintent
    | handedBack hgen hb hts hr hpre hh =>
      obtain ⟨disk, ticks, key, -, rfl⟩ := hb
      exact hintent
    | buildFailed hb hts hr hpre hh =>
      obtain ⟨disk, ticks, key, -, rfl⟩ := hb
      exact hintent
    | setFailed hcheck hfail hb =>
      obtain ⟨disk, ticks, key, -, rfl⟩ := hb
      exact intended_setResult hintent
    | setPersisted hcheck hdev hb =>
      obtain ⟨disk, ticks, key, -, rfl⟩ := hb
      exact intended_setResult hintent
    | setRebuild hcheck hdev hneeds hb =>
      obtain ⟨disk, ticks, key, -, rfl⟩ := hb
      exact intended_setResult hintent
    | setLive hcheck hdev hneeds hb =>
      obtain ⟨disk, ticks, key, -, rfl⟩ := hb
      exact intended_setResult hintent
    | @reloadKeyFailed document contents io c f path hsource hdoc hvalid hkey =>
      refine intended_merge (E := d.env H) hkey hintent fun hoff => ?_
      exact hgood ⟨⟨_, hsource⟩, _, hdoc, hvalid, hoff⟩ hbefore
    | @reloadFailed document contents io c path b' hsource hdoc hvalid hfail hb =>
      obtain ⟨disk, ticks, key, -, rfl⟩ := hb
      refine intended_configured contents hintent fun hoff => ?_
      exact hgood ⟨⟨_, hsource⟩, _, hdoc, hvalid, hoff⟩ hbefore
    | @reloadApplied document contents io c path b' owed hsource hdoc hvalid howed hb =>
      obtain ⟨disk, ticks, key, -, rfl⟩ := hb
      refine intended_configured contents hintent fun hoff => ?_
      exact hgood ⟨⟨_, hsource⟩, _, hdoc, hvalid, hoff⟩ hbefore
    | down he hmark hb hts hh =>
      obtain ⟨disk, ticks, key, -, rfl⟩ := hb
      refine absurd hlive (not_live_of_torn hsound ?_ ?_ hh) <;> rw [Backend.downResult_eq]
    | logout hmark hb =>
      obtain ⟨disk, ticks, key, -, rfl⟩ := hb
      refine absurd hlive (not_live_of_torn hsound ?_ ?_ rfl) <;> rw [Backend.logoutResult_eq]
    | tornDown he hb =>
      obtain ⟨disk, ticks, key, -, rfl⟩ := hb
      exact hintent
    | profileActivated he hne hb =>
      obtain ⟨disk, ticks, key, -, rfl⟩ := hb
      exact absurd hlive (not_live_of_torn hsound rfl rfl rfl)
    | profileEmptied he hb =>
      obtain ⟨disk, ticks, key, -, rfl⟩ := hb
      exact absurd hlive (not_live_of_torn hsound rfl rfl rfl)
    | policyMoved => exact hintent
    | policyTick =>
      rw [Backend.exitNodePolicyChanged_eq, Backend.sysPolicyChanged_eq]
      exact hintent
    | timerDropped => exact hintent
    | timerClaimed harmed hprofile => exact hintent
    | retried hretry => exact hintent
    | resumeKeyed htask hkey hts hh hr => exact hintent
    | engine => exact hintent
  · exact underIntent_upShift hh h hup hlive

/-- **The daemon runs no engine the recorded intent says must be stopped**, in every state reached
    by events none of which is a reload that turns the node off while an engine is installed or
    coming in. -/
theorem engine_intended {H : Host} {d : Daemon} {dev : Device}
    (h : Daemon.Reachable H (SwitchesOffIdle H) d) (hdev : d.backend.device = some dev) :
    d.backend.prefs.wantRunning = true ∧ d.backend.prefs.loggedOut = false := by
  have hidle : ∀ d, Idle H d → Sound (slotOf d) ∧ UnderIntent d := by
    rintro d hidle
    rw [UnderIntent, slotOf_idle hidle]
    refine ⟨sound_empty _, ?_⟩
    rintro (hholder | hticket)
    · cases hholder
    · cases hticket
  have hinv : Sound (slotOf d) ∧ UnderIntent d := by
    refine h.invariant (P := fun d => Sound (slotOf d) ∧ UnderIntent d) ?_ hidle ?_ ?_
    · rintro d i built io hoff
      cases hoff
    · rintro d d' authkey io hd hup
      obtain ⟨hsound, hintent⟩ := hidle d hd
      exact ⟨sound_upShift rfl hsound hup, underIntent_upShift rfl hintent hup⟩
    · rintro d e d' ⟨hsound, hintent⟩ hgood hstep
      exact ⟨sound_step hsound hstep, underIntent_step hsound hintent hgood hstep⟩
  refine hinv.2 (.inl ?_)
  unfold slotOf
  rw [hdev]
  rfl

/-- An ordinary bring-up: its engine is intended. -/
theorem engine_intended_up :
    ∃ d dev, d.backend.device = some dev ∧
      Daemon.replay plainHost [] firstBoot
        [.up {} none none {} {}, .finish 0 (some .running) {}] = some d ∧
      d.backend.prefs.wantRunning = true ∧ d.backend.prefs.loggedOut = false := by
  obtain ⟨d, dev, hd, hdev⟩ : ∃ d dev, Daemon.replay plainHost [] firstBoot
      [.up {} none none {} {}, .finish 0 (some .running) {}] = some d ∧
      d.backend.device = some dev := ⟨_, _, rfl, rfl⟩
  refine ⟨d, dev, hdev, hd, engine_intended (Daemon.reachable_replay ?_ hd) hdev⟩
  intro e he d' hoff
  simp only [List.mem_cons, List.not_mem_nil, or_false] at he
  rcases he with rfl | rfl <;> cases hoff

/-- A node whose `--config` document says it is off. -/
def offBoot : Daemon.BootInput :=
  { disk := emptyDisk
    config := some (.file "/etc/tailscaled.json", { enabled := some false }, none) }

/-- The operator's `up` is still building its engine when the document is read again. -/
def reloadDuringUp : List Event :=
  [.up {} none none {} {}, .reload (.ok { enabled := some false }) none {},
    .finish 0 (some .running) {}]

/-- **A reload during a bring-up leaves an engine the intent says must be stopped**: it clears the
    intent, finds no engine to tear down, and does not supersede the one that is coming. -/
theorem reload_during_up_runs_unintended :
    ¬ ∀ (d : Daemon) (dev : Device), Daemon.Reachable plainHost (fun _ _ => True) d →
      d.backend.device = some dev →
      d.backend.prefs.wantRunning = true ∧ d.backend.prefs.loggedOut = false := by
  intro hclaim
  obtain ⟨d, dev, hd, hdev, hoff⟩ : ∃ d dev,
      Daemon.replay plainHost [] offBoot reloadDuringUp = some d ∧
      d.backend.device = some dev ∧ d.backend.prefs.wantRunning = false :=
    ⟨_, _, rfl, rfl, rfl⟩
  have hon := (hclaim d dev (Daemon.reachable_replay (fun _ _ _ => trivial) hd) hdev).1
  rw [hoff] at hon
  cases hon

end Tailnetd
