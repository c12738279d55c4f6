/-
  Books kept along a run.

  Each step of a machine takes items in and puts items out, and some of what came in is still held.
  Where every good step balances, a good run balances: what was held at the start and what came in
  is what is held at the end and what went out, each item as often as it occurs.
-/
import Mathlib.Algebra.Order.Group.Multiset
import Tailnetd.Lib.Machine

namespace Machine

variable {σ ε κ : Type*} {step : σ → ε → Option σ} {good : σ → ε → Prop}

/-- **Conservation.**  Books that every good step balances are balanced along a good run. -/
theorem Run.conserved (held : σ → Multiset κ) (taken given : σ → ε → σ → List κ)
    (balanced : ∀ s e t, good s e → step s e = some t →
      held s + ↑(taken s e t) = held t + ↑(given s e t))
    {s t : σ} {es : List ε} (h : Run step good s es t) :
    held s + ↑(emitted step taken s es) = held t + ↑(emitted step given s es) := by
  induction h with
  | nil s => rfl
  | @cons s t u e es hgood hstep rest ih =>
    rw [emitted_cons es hstep, emitted_cons es hstep, ← Multiset.coe_add, ← Multiset.coe_add]
    calc held s + (↑(taken s e t) + ↑(emitted step taken t es))
        = (held s + ↑(taken s e t)) + ↑(emitted step taken t es) := (add_assoc _ _ _).symm
      _ = (held t + ↑(given s e t)) + ↑(emitted step taken t es) := by
          rw [balanced s e t hgood hstep]
      _ = (held t + ↑(emitted step taken t es)) + ↑(given s e t) := add_right_comm _ _ _
      _ = (held u + ↑(emitted step given t es)) + ↑(given s e t) := by rw [ih]
      _ = held u + (↑(given s e t) + ↑(emitted step given t es)) := by
          rw [add_assoc, add_comm (↑(emitted step given t es) : Multiset κ)]

/-- What holds of every item a good step puts out holds of every item of a good run. -/
theorem Run.emitted_forall {out : σ → ε → σ → List κ} {P : κ → Prop}
    (each : ∀ s e t, good s e → step s e = some t → ∀ k ∈ out s e t, P k)
    {s t : σ} {es : List ε} (h : Run step good s es t) : ∀ k ∈ emitted step out s es, P k := by
  induction h with
  | nil s => exact fun k hk => (List.not_mem_nil hk).elim
  | @cons s t u e es hgood hstep rest ih =>
    intro k hk
    rw [emitted_cons es hstep] at hk
    rcases List.mem_append.mp hk with hk | hk
    · exact each s e t hgood hstep k hk
    · exact ih k hk

/-- Two outputs of a run read together. -/
theorem emitted_append (out out' : σ → ε → σ → List κ) (s : σ) (es : List ε) :
    (↑(emitted step (fun s e t => out s e t ++ out' s e t) s es) : Multiset κ) =
      ↑(emitted step out s es) + ↑(emitted step out' s es) := by
  induction es generalizing s with
  | nil => rfl
  | cons e es ih =>
    cases hstep : step s e with
    | none => simp [emitted, hstep]
    | some t =>
      rw [emitted_cons es hstep, emitted_cons es hstep, emitted_cons es hstep]
      simp only [← Multiset.coe_add, ih]
      exact add_add_add_comm _ _ _ _

/-- The output of a run through a function. -/
theorem emitted_map {κ' : Type*} (f : κ → κ') (out : σ → ε → σ → List κ) (s : σ) (es : List ε) :
    emitted step (fun s e t => (out s e t).map f) s es = (emitted step out s es).map f := by
  induction es generalizing s with
  | nil => rfl
  | cons e es ih =>
    cases hstep : step s e with
    | none => simp [emitted, hstep]
    | some t => rw [emitted_cons es hstep, emitted_cons es hstep, List.map_append, ih]

end Machine
