/-
  Sequences of single-field writes that report what they changed.

  A configuration record `S` is read through `get : S → ι → V`, one value per field name.  A
  `Write` has one target field, a function that writes it, and a report that says so when the
  value moved.  `Lawful` collects what a well-behaved write satisfies: it touches its target only,
  what it writes depends on the target's value only, writing again changes nothing, and it reports
  exactly when it changes something.

  From these, a whole sequence with pairwise distinct targets behaves like one write per field
  (`run_at`), and the three facts one wants of an enforced configuration follow: fields that no
  write targets are kept (`run_frame`), a second run changes and reports nothing (`run_run`,
  `reports_run`), and a field whose write ignores the old value ends the same from any start
  (`run_insensitive`).
-/
import Mathlib.Data.List.Nodup

namespace FieldWrites

variable {S ι V ε : Type*}

/-- One write: the field it targets, what it does, and what it reports. -/
structure Write (S ι ε : Type*) where
  /-- The only field the write may move. -/
  target : ι
  /-- The record after the write. -/
  put : S → S
  /-- What the write says it did, from the record before it. -/
  report : S → List ε

/-- What a well-behaved write satisfies, seen through the field reader `get`. -/
structure Write.Lawful (get : S → ι → V) (w : Write S ι ε) : Prop where
  frame : ∀ s i, i ≠ w.target → get (w.put s) i = get s i
  congr : ∀ s t, get s w.target = get t w.target →
    get (w.put s) w.target = get (w.put t) w.target
  idem : ∀ s, get (w.put (w.put s)) w.target = get (w.put s) w.target
  honest : ∀ s, w.report s = [] ↔ get (w.put s) w.target = get s w.target

/-- Run the writes in order. -/
def run : List (Write S ι ε) → S → S
  | [], s => s
  | w :: ws, s => run ws (w.put s)

/-- Everything the writes report, in order. -/
def reports : List (Write S ι ε) → S → List ε
  | [], _ => []
  | w :: ws, s => w.report s ++ reports ws (w.put s)

theorem run_append (vs ws : List (Write S ι ε)) (s : S) :
    run (vs ++ ws) s = run ws (run vs s) := by
  induction vs generalizing s with
  | nil => rfl
  | cons v vs ih => exact ih (v.put s)

theorem reports_append (vs ws : List (Write S ι ε)) (s : S) :
    reports (vs ++ ws) s = reports vs s ++ reports ws (run vs s) := by
  induction vs generalizing s with
  | nil => rfl
  | cons v vs ih =>
    show v.report s ++ reports (vs ++ ws) (v.put s) = v.report s ++ reports vs (v.put s) ++ _
    rw [ih, List.append_assoc]
    rfl

variable {get : S → ι → V} {ws : List (Write S ι ε)}

/-- A field that no write targets keeps its value. -/
theorem run_frame (lawful : ∀ w ∈ ws, w.Lawful get) {i : ι} (hi : ∀ w ∈ ws, w.target ≠ i)
    (s : S) : get (run ws s) i = get s i := by
  induction ws generalizing s with
  | nil => rfl
  | cons w ws ih =>
    have h1 := ih (fun v hv => lawful v (List.mem_cons_of_mem w hv))
      (fun v hv => hi v (List.mem_cons_of_mem w hv)) (w.put s)
    have h2 := (lawful w List.mem_cons_self).frame s i (hi w List.mem_cons_self).symm
    exact h1.trans h2

/-- With distinct targets, each target ends as its own write alone would leave it. -/
theorem run_at (lawful : ∀ w ∈ ws, w.Lawful get) (distinct : (ws.map Write.target).Nodup)
    {w : Write S ι ε} (hw : w ∈ ws) (s : S) :
    get (run ws s) w.target = get (w.put s) w.target := by
  induction ws generalizing s with
  | nil => cases hw
  | cons v ws ih =>
    have hlaw : ∀ u ∈ ws, u.Lawful get := fun u hu => lawful u (List.mem_cons_of_mem v hu)
    rw [List.map_cons, List.nodup_cons] at distinct
    obtain ⟨hfresh, hrest⟩ := distinct
    rcases List.mem_cons.mp hw with rfl | hmem
    · -- `w` is the head: nothing later touches its target
      have hfree : ∀ u ∈ ws, u.target ≠ w.target := by
        intro u hu e
        exact hfresh (List.mem_map.mpr ⟨u, hu, e⟩)
      exact run_frame hlaw hfree (w.put s)
    · -- `w` comes later: the head left `w`'s target alone, and `w` reads nothing else
      have hne : w.target ≠ v.target := fun e => hfresh (List.mem_map.mpr ⟨w, hmem, e⟩)
      have hkeep := (lawful v List.mem_cons_self).frame s w.target hne
      exact (ih hlaw hrest hmem (v.put s)).trans ((hlaw w hmem).congr _ _ hkeep)

/-- The sequence reports nothing exactly when no write would move its target. -/
theorem reports_eq_nil_iff (lawful : ∀ w ∈ ws, w.Lawful get)
    (distinct : (ws.map Write.target).Nodup) (s : S) :
    reports ws s = [] ↔ ∀ w ∈ ws, get (w.put s) w.target = get s w.target := by
  induction ws generalizing s with
  | nil => exact ⟨fun _ w hw => (List.not_mem_nil hw).elim, fun _ => rfl⟩
  | cons v ws ih =>
    have hlaw : ∀ u ∈ ws, u.Lawful get := fun u hu => lawful u (List.mem_cons_of_mem v hu)
    rw [List.map_cons, List.nodup_cons] at distinct
    obtain ⟨hfresh, hrest⟩ := distinct
    -- the head's write is invisible at the targets of the others
    have hsame : ∀ u ∈ ws, (get (u.put (v.put s)) u.target = get (v.put s) u.target ↔
        get (u.put s) u.target = get s u.target) := by
      intro u hu
      have hne : u.target ≠ v.target := fun e => hfresh (List.mem_map.mpr ⟨u, hu, e⟩)
      have hkeep := (lawful v List.mem_cons_self).frame s u.target hne
      rw [(hlaw u hu).congr _ _ hkeep, hkeep]
    show v.report s ++ reports ws (v.put s) = [] ↔ _
    rw [List.append_eq_nil_iff, (lawful v List.mem_cons_self).honest, ih hlaw hrest]
    constructor
    · rintro ⟨h1, h2⟩ w hw
      rcases List.mem_cons.mp hw with rfl | hmem
      · exact h1
      · exact (hsame w hmem).mp (h2 w hmem)
    · intro h
      exact ⟨h v List.mem_cons_self,
        fun u hu => (hsame u hu).mpr (h u (List.mem_cons_of_mem v hu))⟩

/-- After a run every write is spent: it would leave its target as it is. -/
theorem spent_run (lawful : ∀ w ∈ ws, w.Lawful get) (distinct : (ws.map Write.target).Nodup)
    {w : Write S ι ε} (hw : w ∈ ws) (s : S) :
    get (w.put (run ws s)) w.target = get (run ws s) w.target := by
  have hat := run_at lawful distinct hw s
  calc get (w.put (run ws s)) w.target
      = get (w.put (w.put s)) w.target := (lawful w hw).congr _ _ hat
    _ = get (w.put s) w.target := (lawful w hw).idem s
    _ = get (run ws s) w.target := hat.symm

/-- **A second run reports nothing.** -/
theorem reports_run (lawful : ∀ w ∈ ws, w.Lawful get)
    (distinct : (ws.map Write.target).Nodup) (s : S) : reports ws (run ws s) = [] :=
  (reports_eq_nil_iff lawful distinct _).mpr fun _ hw => spent_run lawful distinct hw s

/-- **A second run changes no field.** -/
theorem run_run (lawful : ∀ w ∈ ws, w.Lawful get) (distinct : (ws.map Write.target).Nodup)
    (s : S) (i : ι) : get (run ws (run ws s)) i = get (run ws s) i := by
  by_cases h : ∃ w ∈ ws, w.target = i
  · obtain ⟨w, hw, rfl⟩ := h
    rw [run_at lawful distinct hw (run ws s)]
    exact spent_run lawful distinct hw s
  · exact run_frame lawful (fun w hw e => h ⟨w, hw, e⟩) (run ws s)

/-- **A write that ignores the old value decides its field**, up to the reading `eff`. -/
theorem run_insensitive {W : Type*} (eff : V → W) (lawful : ∀ w ∈ ws, w.Lawful get)
    (distinct : (ws.map Write.target).Nodup) {w : Write S ι ε} (hw : w ∈ ws)
    (const : ∀ s t, eff (get (w.put s) w.target) = eff (get (w.put t) w.target)) (s t : S) :
    eff (get (run ws s) w.target) = eff (get (run ws t) w.target) := by
  rw [run_at lawful distinct hw, run_at lawful distinct hw]
  exact const s t

/-- Two records that agree at a field agree there after the same run. -/
theorem run_congr (lawful : ∀ w ∈ ws, w.Lawful get) (distinct : (ws.map Write.target).Nodup)
    {s t : S} {i : ι} (h : get s i = get t i) : get (run ws s) i = get (run ws t) i := by
  by_cases hi : ∃ w ∈ ws, w.target = i
  · obtain ⟨w, hw, rfl⟩ := hi
    rw [run_at lawful distinct hw, run_at lawful distinct hw]
    exact (lawful w hw).congr s t h
  · have hfree : ∀ w ∈ ws, w.target ≠ i := fun w hw e => hi ⟨w, hw, e⟩
    rw [run_frame lawful hfree, run_frame lawful hfree, h]

end FieldWrites
