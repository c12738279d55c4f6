/-
  Runs of a guarded, executable step machine.

  `step s e` is `some t` when the event `e` is enabled in `s` and leads to `t`.  `Run step good` is
  a run all of whose steps satisfy `good`, a condition on the state before the step and the event;
  with no condition (`fun _ _ => True`) it is any run.  `Run.invariant` is the one induction behind
  every safety argument: what each good step preserves holds all along a good run; where the
  condition is exact, `Run.throughout_iff` gives the other direction too.

  `follow` replays a list of events, so that a concrete run can be computed.  `emitted` collects
  what the steps of a run emit; items numbered by a counter of the state come out in order.
  `Simulates` relates two machines along a state abstraction, each concrete step being matched by
  one abstract step or by none.
-/
import Mathlib.Data.List.Basic
import Mathlib.Data.Option.Basic

namespace Machine

variable {σ ε : Type*}

/-- A run of `step` all of whose steps are good. -/
inductive Run (step : σ → ε → Option σ) (good : σ → ε → Prop) : σ → List ε → σ → Prop
  | nil (s : σ) : Run step good s [] s
  | cons {s t u : σ} {e : ε} {es : List ε} (hgood : good s e) (hstep : step s e = some t)
      (rest : Run step good t es u) : Run step good s (e :: es) u

variable {step : σ → ε → Option σ} {good : σ → ε → Prop}

namespace Run

/-- A single good step is a run. -/
theorem single {s t : σ} {e : ε} (hgood : good s e) (hstep : step s e = some t) :
    Run step good s [e] t :=
  .cons hgood hstep (.nil t)

/-- Runs compose. -/
theorem append {s t u : σ} {es fs : List ε} (h : Run step good s es t)
    (h' : Run step good t fs u) : Run step good s (es ++ fs) u := by
  induction h with
  | nil => exact h'
  | cons hgood hstep _ ih => exact .cons hgood hstep (ih h')

/-- A run of two lists of events passes through a state in between. -/
theorem split {s u : σ} {es fs : List ε} (h : Run step good s (es ++ fs) u) :
    ∃ t, Run step good s es t ∧ Run step good t fs u := by
  induction es generalizing s with
  | nil => exact ⟨s, .nil s, h⟩
  | cons e es ih =>
    cases h with
    | cons hgood hstep rest =>
      obtain ⟨t, h1, h2⟩ := ih rest
      exact ⟨t, .cons hgood hstep h1, h2⟩

/-- A run is determined by its events. -/
theorem deterministic {good' : σ → ε → Prop} {s t t' : σ} {es : List ε} (h : Run step good s es t)
    (h' : Run step good' s es t') : t = t' := by
  induction h with
  | nil =>
    cases h'
    rfl
  | cons _ hstep _ ih =>
    cases h' with
    | cons _ hstep' rest' =>
      obtain rfl := Option.some.inj (hstep.symm.trans hstep')
      exact ih rest'

/-- A stronger condition makes a run of a weaker one. -/
theorem mono {good' : σ → ε → Prop} (hle : ∀ s e, good s e → good' s e) {s t : σ} {es : List ε}
    (h : Run step good s es t) : Run step good' s es t := by
  induction h with
  | nil => exact .nil _
  | cons hgood hstep _ ih => exact .cons (hle _ _ hgood) hstep ih

/-- **The invariant rule.**  What every good step preserves holds at the end of a good run. -/
theorem invariant {P : σ → Prop} (preserved : ∀ s e t, P s → good s e → step s e = some t → P t)
    {s t : σ} {es : List ε} (h : Run step good s es t) (h0 : P s) : P t := by
  induction h with
  | nil => exact h0
  | cons hgood hstep _ ih => exact ih (preserved _ _ _ h0 hgood hstep)

/-- **The invariant rule with the past.**  An invariant may speak of the events so far. -/
theorem invariant_history {P : List ε → σ → Prop}
    (preserved : ∀ past s e t, P past s → good s e → step s e = some t → P (past ++ [e]) t)
    {s t : σ} {es : List ε} (h : Run step good s es t) (h0 : P [] s) : P es t := by
  have hfrom : ∀ past, P past s → P (past ++ es) t := by
    clear h0
    induction h with
    | nil s =>
      intro past h0
      rw [List.append_nil]
      exact h0
    | @cons s t u e es hgood hstep _ ih =>
      intro past h0
      rw [List.append_cons]
      exact ih _ (preserved past s e t h0 hgood hstep)
  exact hfrom [] h0

/-- The steps of a run know what its steps keep. -/
theorem carry {P : σ → Prop} (preserved : ∀ s e t, P s → good s e → step s e = some t → P t)
    {s t : σ} {es : List ε} (h : Run step good s es t) (h0 : P s) :
    Run step (fun s e => P s ∧ good s e) s es t := by
  induction h with
  | nil s => exact .nil s
  | cons hgood hstep _ ih => exact .cons ⟨h0, hgood⟩ hstep (ih (preserved _ _ _ h0 hgood hstep))

/-- A quantity that no good step decreases does not decrease along a good run. -/
theorem monotone {f : σ → Nat} (grows : ∀ s e t, good s e → step s e = some t → f s ≤ f t)
    {s t : σ} {es : List ε} (h : Run step good s es t) : f s ≤ f t := by
  induction h with
  | nil => exact Nat.le_refl _
  | cons hgood hstep _ ih => exact Nat.le_trans (grows _ _ _ hgood hstep) ih

/-- **The last rise.**  A property that holds at the end of a run and not at its start was brought
    about by some step, and has held before every step since. -/
theorem last_rise {P : σ → Prop} {s u : σ} {es : List ε} (h : Run step good s es u)
    (hs : ¬ P s) (hu : P u) :
    ∃ es₁ e es₂ t t', es = es₁ ++ e :: es₂ ∧ Run step good s es₁ t ∧ ¬ P t ∧ good t e ∧
      step t e = some t' ∧ P t' ∧ Run step (fun s _ => P s) t' es₂ u := by
  -- either the property holds all along, or its last rise is still to come
  have hsplit : (P s ∧ Run step (fun s _ => P s) s es u) ∨
      ∃ es₁ e es₂ t t', es = es₁ ++ e :: es₂ ∧ Run step good s es₁ t ∧ ¬ P t ∧ good t e ∧
        step t e = some t' ∧ P t' ∧ Run step (fun s _ => P s) t' es₂ u := by
    clear hs
    induction h with
    | nil s => exact .inl ⟨hu, .nil s⟩
    | @cons s t u e es hgood hstep rest ih =>
      rcases ih hu with ⟨ht, hkept⟩ | ⟨es₁, e', es₂, v, v', rfl, hbefore, hrise⟩
      · by_cases hs : P s
        · exact .inl ⟨hs, .cons hs hstep hkept⟩
        · exact .inr ⟨[], e, es, s, t, rfl, .nil s, hs, hgood, hstep, ht, hkept⟩
      · exact .inr ⟨e :: es₁, e', es₂, v, v', rfl, .cons hgood hstep hbefore, hrise⟩
  rcases hsplit with ⟨hstart, -⟩ | hrise
  · exact absurd hstart hs
  · exact hrise

/-- **Exact conditions.**  Where a step out of a state with a property keeps it exactly when the
    step is good, the good runs are those that have the property at every state they pass
    through. -/
theorem throughout_iff {P : σ → Prop}
    (exact : ∀ s e t, P s → step s e = some t → (P t ↔ good s e)) {s t : σ} {es : List ε}
    (h0 : P s) : Run step good s es t ↔ Run step (fun _ _ => True) s es t ∧
      ∀ es₁ es₂ u, es = es₁ ++ es₂ → Run step (fun _ _ => True) s es₁ u → P u := by
  constructor
  · intro h
    refine ⟨h.mono fun _ _ _ => trivial, ?_⟩
    rintro es₁ es₂ u rfl hprefix
    obtain ⟨v, hgood, -⟩ := h.split
    obtain rfl := hprefix.deterministic hgood
    exact hgood.invariant (fun _ _ _ hp hgood hstep => (exact _ _ _ hp hstep).mpr hgood) h0
  · rintro ⟨h, hall⟩
    induction h with
    | nil s => exact .nil s
    | @cons s t u e es _ hstep rest ih =>
      have ht : P t := hall [e] es t rfl (.single trivial hstep)
      refine .cons ((exact s e t h0 hstep).mp ht) hstep (ih ht ?_)
      intro es₁ es₂ v hsplit hprefix
      exact hall (e :: es₁) es₂ v (by rw [hsplit]; rfl) (.cons trivial hstep hprefix)

/-- Two conditions that agree at the states a base run passes through make the same runs. -/
theorem exchange {base good' : σ → ε → Prop} {P : σ → Prop}
    (preserved : ∀ s e t, P s → base s e → step s e = some t → P t)
    (agree : ∀ s e t, P s → base s e → step s e = some t → (good s e ↔ good' s e))
    {s t : σ} {es : List ε} (h : Run step base s es t) (h0 : P s) :
    Run step good s es t ↔ Run step good' s es t := by
  induction h with
  | nil s => exact ⟨fun _ => .nil s, fun _ => .nil s⟩
  | @cons s t u e es hbase hstep _ ih =>
    have hrest := ih (preserved s e t h0 hbase hstep)
    have hfirst := agree s e t h0 hbase hstep
    constructor
    · rintro (_ | ⟨hgood, hstep', rest⟩)
      obtain rfl := Option.some.inj (hstep.symm.trans hstep')
      exact .cons (hfirst.mp hgood) hstep (hrest.mp rest)
    · rintro (_ | ⟨hgood, hstep', rest⟩)
      obtain rfl := Option.some.inj (hstep.symm.trans hstep')
      exact .cons (hfirst.mpr hgood) hstep (hrest.mpr rest)

end Run

/-- Replay a list of events; `none` when one of them is not enabled. -/
def follow (step : σ → ε → Option σ) (s : σ) : List ε → Option σ
  | [] => some s
  | e :: es => (step s e).bind fun t => follow step t es

/-- A replay is a run, of a condition its events meet in any state. -/
theorem run_of_follow {s t : σ} {es : List ε} (hgood : ∀ e ∈ es, ∀ s, good s e)
    (h : follow step s es = some t) : Run step good s es t := by
  induction es generalizing s with
  | nil =>
    obtain rfl : s = t := Option.some.inj h
    exact .nil s
  | cons e es ih =>
    obtain ⟨u, hu, hrest⟩ := Option.bind_eq_some_iff.mp h
    have htail : ∀ e ∈ es, ∀ s, good s e := fun e he => hgood e (List.mem_cons_of_mem _ he)
    exact .cons (hgood e List.mem_cons_self s) hu (ih htail hrest)

/-- A replay that checks each step is a run of the steps it checks. -/
theorem run_of_checked {check : σ → ε → Bool} {s t : σ} {es : List ε}
    (h : follow (fun s e => if check s e then step s e else none) s es = some t) :
    Run step (fun s e => check s e = true) s es t := by
  induction es generalizing s with
  | nil =>
    obtain rfl : s = t := Option.some.inj h
    exact .nil s
  | cons e es ih =>
    obtain ⟨u, hu, hrest⟩ := Option.bind_eq_some_iff.mp h
    dsimp only at hu
    split at hu
    · rename_i hcheck
      exact .cons hcheck hu (ih hrest)
    · cases hu

/-! ## What a run emits -/

/-- What the steps of a run emit, in order; a step that is not enabled ends the run. -/
def emitted {κ : Type*} (step : σ → ε → Option σ) (out : σ → ε → σ → List κ) :
    σ → List ε → List κ
  | _, [] => []
  | s, e :: es =>
    match step s e with
    | none => []
    | some t => out s e t ++ emitted step out t es

theorem emitted_cons {κ : Type*} {out : σ → ε → σ → List κ} {s t : σ} {e : ε} (es : List ε)
    (h : step s e = some t) :
    emitted step out s (e :: es) = out s e t ++ emitted step out t es := by
  rw [emitted, h]

/-- **The invariant rule with what was emitted.**  An invariant may speak of all that the run has
    emitted so far. -/
theorem Run.invariant_emitted {κ : Type*} {out : σ → ε → σ → List κ} {P : List κ → σ → Prop}
    (preserved : ∀ acc s e t, P acc s → good s e → step s e = some t → P (acc ++ out s e t) t)
    {s t : σ} {es : List ε} (h : Run step good s es t) {acc : List κ} (h0 : P acc s) :
    P (acc ++ emitted step out s es) t := by
  induction h generalizing acc with
  | nil s =>
    show P (acc ++ []) s
    rw [List.append_nil]
    exact h0
  | @cons s t u e es hgood hstep _ ih =>
    have hrest := ih (preserved acc s e t h0 hgood hstep)
    rw [List.append_assoc] at hrest
    rw [emitted_cons es hstep]
    exact hrest

/-- **Increasing output.**  Where each step emits nothing, or one item whose key lies above a
    measure of the state before and not above that of the state after, the items of a run have
    strictly increasing keys. -/
theorem emitted_increasing {κ : Type*} (out : σ → ε → σ → List κ) (key : κ → Nat) (f : σ → Nat)
    (inv : σ → Prop)
    (preserved : ∀ s e t, inv s → good s e → step s e = some t → inv t)
    (rises : ∀ s e t, inv s → good s e → step s e = some t → f s ≤ f t ∧
      (out s e t = [] ∨ ∃ k, out s e t = [k] ∧ f s < key k ∧ key k ≤ f t))
    {s t : σ} {es : List ε} (h : Run step good s es t) (h0 : inv s) :
    (∀ k ∈ emitted step out s es, f s < key k) ∧
      (emitted step out s es).Pairwise fun k l => key k < key l := by
  induction h with
  | nil s => exact ⟨fun _ hk => (List.not_mem_nil hk).elim, .nil⟩
  | @cons s t u e es hgood hstep rest ih =>
    obtain ⟨habove, hsorted⟩ := ih (preserved s e t h0 hgood hstep)
    obtain ⟨hle, hout⟩ := rises s e t h0 hgood hstep
    have hlater : ∀ k ∈ emitted step out t es, f s < key k := fun k hk => by
      have := habove k hk
      omega
    rw [emitted_cons es hstep]
    rcases hout with hnone | ⟨k, hone, hlow, hhigh⟩
    · rw [hnone]
      exact ⟨hlater, hsorted⟩
    · rw [hone]
      constructor
      · intro l hl
        rcases List.mem_cons.mp hl with rfl | hl
        · exact hlow
        · exact hlater l hl
      · refine List.Pairwise.cons ?_ hsorted
        intro l hl
        have := habove l hl
        omega

/-! ## Simulation -/

/-- Every good step of the concrete machine from a state satisfying `inv` is matched, along the
    abstraction `f`, by one abstract step or by none. -/
def Simulates {σ' ε' : Type*} (step : σ → ε → Option σ) (good : σ → ε → Prop) (inv : σ → Prop)
    (step' : σ' → ε' → Option σ') (f : σ → σ') : Prop :=
  ∀ s e t, inv s → good s e → step s e = some t → f t = f s ∨ ∃ e', step' (f s) e' = some (f t)

/-- **Simulation lifts to runs.** -/
theorem Simulates.run {σ' ε' : Type*} {inv : σ → Prop} {step' : σ' → ε' → Option σ'} {f : σ → σ'}
    (sim : Simulates step good inv step' f)
    (preserved : ∀ s e t, inv s → good s e → step s e = some t → inv t) {s t : σ} {es : List ε}
    (h : Run step good s es t) (h0 : inv s) :
    ∃ es', Run step' (fun _ _ => True) (f s) es' (f t) := by
  induction h with
  | nil => exact ⟨[], .nil _⟩
  | cons hgood hstep _ ih =>
    obtain ⟨es', hrest⟩ := ih (preserved _ _ _ h0 hgood hstep)
    rcases sim _ _ _ h0 hgood hstep with hsame | ⟨e', he'⟩
    · exact ⟨es', hsame ▸ hrest⟩
    · exact ⟨e' :: es', .cons trivial he' hrest⟩

end Machine
