/-
  Texts and their lines.

  A text is a list of characters, a line what stands before a line end; what follows the last line
  end is a line only when it is not empty.  `unlines` ends every line of a list, and `lines` reads
  them back as long as no line holds a line end (`lines_unlines`): text put into a line can then
  neither make a second line nor hide the one it is in.  Text without a line end changes at most the
  line it stands in, from where it stands (`startAlike_of_notMem`).
-/
import Mathlib.Data.List.Basic

namespace TextLines

/-- The lines of a text. -/
def lines : List Char → List (List Char)
  | [] => []
  | c :: text =>
    if c = '\n' then [] :: lines text
    else
      match lines text with
      | [] => [[c]]
      | line :: rest => (c :: line) :: rest

/-- The text of these lines, each with its line end. -/
def unlines (rows : List (List Char)) : List Char := rows.flatMap (· ++ ['\n'])

@[simp] theorem unlines_nil : unlines [] = [] := rfl

@[simp] theorem unlines_cons (row : List Char) (rows : List (List Char)) :
    unlines (row :: rows) = row ++ '\n' :: unlines rows := by
  simp [unlines]

/-- The first line end ends the first line. -/
theorem lines_append_cons {row : List Char} (h : '\n' ∉ row) (text : List Char) :
    lines (row ++ '\n' :: text) = row :: lines text := by
  induction row with
  | nil => rfl
  | cons c row ih =>
    obtain ⟨hc, hrow⟩ := not_or.mp (mt List.mem_cons.mpr h)
    rw [List.cons_append, lines, if_neg (Ne.symm hc), ih hrow]

/-- **Lines without a line end of their own are read back one by one.** -/
theorem lines_unlines {rows : List (List Char)} (h : ∀ row ∈ rows, '\n' ∉ row) :
    lines (unlines rows) = rows := by
  induction rows with
  | nil => rfl
  | cons row rows ih =>
    obtain ⟨hrow, hrows⟩ := List.forall_mem_cons.mp h
    rw [unlines_cons, lines_append_cons hrow, ih hrows]

/-- The lines of one row, which are more than one when it holds a line end. -/
def rowLines (row : List Char) : List (List Char) := lines (row ++ ['\n'])

theorem rowLines_of_notMem {row : List Char} (h : '\n' ∉ row) : rowLines row = [row] :=
  lines_append_cons h []

theorem rowLines_ne_nil (row : List Char) : rowLines row ≠ [] := by
  unfold rowLines
  cases row with
  | nil => exact List.cons_ne_nil _ _
  | cons c row =>
    rw [List.cons_append, lines]
    split
    · exact List.cons_ne_nil _ _
    · split <;> exact List.cons_ne_nil _ _

/-- Text without a line end goes into the first line. -/
theorem rowLines_append {front : List Char} (h : '\n' ∉ front) (back : List Char) :
    ∃ first more, rowLines back = first :: more ∧
      rowLines (front ++ back) = (front ++ first) :: more := by
  obtain ⟨first, more, hback⟩ := List.exists_cons_of_ne_nil (rowLines_ne_nil back)
  refine ⟨first, more, hback, ?_⟩
  induction front with
  | nil => exact hback
  | cons c front ih =>
    obtain ⟨hc, hfront⟩ := not_or.mp (mt List.mem_cons.mpr h)
    have hfront := ih hfront
    rw [rowLines] at hfront
    rw [rowLines, List.cons_append, List.cons_append, lines, if_neg (Ne.symm hc), hfront]
    rfl

/-- A line end separates the lines before it from those after it. -/
theorem lines_append_newline (row rest : List Char) :
    lines (row ++ '\n' :: rest) = rowLines row ++ lines rest := by
  induction row with
  | nil => rfl
  | cons c row ih =>
    rw [rowLines, List.cons_append, List.cons_append, lines, lines, ih]
    split
    · rfl
    · obtain ⟨line, more, hlines⟩ := List.exists_cons_of_ne_nil (rowLines_ne_nil row)
      rw [hlines]
      rw [rowLines] at hlines
      rw [hlines]
      rfl

/-- **The lines of a text are the lines of its rows.** -/
theorem lines_unlines_eq (rows : List (List Char)) :
    lines (unlines rows) = rows.flatMap rowLines := by
  induction rows with
  | nil => rfl
  | cons row rows ih => rw [unlines_cons, lines_append_newline, ih, List.flatMap_cons]

/-- The characters of a text are those of its rows, and a line end for each. -/
theorem count_unlines (rows : List (List Char)) (c : Char) :
    (unlines rows).count c = (if c = '\n' then rows.length else 0) + rows.flatten.count c := by
  induction rows with
  | nil => simp
  | cons row rows ih =>
    rw [unlines_cons, List.count_append, List.count_cons, ih, List.flatten_cons, List.count_append,
      List.length_cons]
    by_cases hc : c = '\n'
    · rw [if_pos hc, if_pos hc, if_pos (by simp [hc])]
      omega
    · rw [if_neg hc, if_neg hc, if_neg (by simpa using Ne.symm hc)]
      omega

/-! ## Pieces -/

/-- A piece between separators holds none. -/
theorem notMem_of_mem_splitOn {sep : Char} {text piece : List Char} (h : piece ∈ text.splitOn sep) :
    sep ∉ piece := by
  induction text generalizing piece with
  | nil =>
    rw [List.splitOn_nil, List.mem_singleton] at h
    rw [h]
    exact List.not_mem_nil
  | cons c text ih =>
    rw [List.splitOn_cons_eq_if_modifyHead] at h
    split at h
    · obtain rfl | h := List.mem_cons.mp h
      · exact List.not_mem_nil
      · exact ih h
    · rename_i hc
      obtain ⟨first, rest, hsplit⟩ := List.exists_cons_of_ne_nil (List.splitOn_ne_nil sep text)
      rw [hsplit, List.modifyHead_cons] at h
      obtain rfl | h := List.mem_cons.mp h
      · refine mt List.mem_cons.mp (not_or.mpr ⟨?_, ih (hsplit ▸ List.mem_cons_self)⟩)
        rintro rfl
        exact hc (beq_self_eq_true sep)
      · exact ih (hsplit ▸ List.mem_cons_of_mem first h)

/-! ## Rows that start alike -/

/-- The two rows make as many lines, and each starts with the same characters as its counterpart. -/
def StartAlike (n : Nat) (row row' : List Char) : Prop :=
  (rowLines row).map (·.take n) = (rowLines row').map (·.take n)

theorem StartAlike.refl (n : Nat) (row : List Char) : StartAlike n row row := rfl

theorem StartAlike.cons {n : Nat} {row row' : List Char} (h : StartAlike n row row') (c : Char) :
    StartAlike n (c :: row) (c :: row') := by
  obtain ⟨first, more, hrow⟩ := List.exists_cons_of_ne_nil (rowLines_ne_nil row)
  obtain ⟨first', more', hrow'⟩ := List.exists_cons_of_ne_nil (rowLines_ne_nil row')
  unfold StartAlike at h ⊢
  by_cases hc : c = '\n'
  · have hnew : ∀ text, rowLines ('\n' :: text) = [] :: rowLines text := fun _ => rfl
    rw [hc, hnew, hnew, List.map_cons, List.map_cons, h]
  · have hkeep : ∀ text first more, rowLines text = first :: more →
        rowLines (c :: text) = (c :: first) :: more := by
      intro text first more htext
      obtain ⟨first₂, more₂, htext₂, happ⟩ :=
        @rowLines_append [c] (by simpa using Ne.symm hc) text
      rw [htext] at htext₂
      obtain ⟨rfl, rfl⟩ := List.cons.inj htext₂
      exact happ
    rw [hrow, hrow', List.map_cons, List.map_cons] at h
    obtain ⟨hfirst, hmore⟩ := List.cons.inj h
    rw [hkeep row first more hrow, hkeep row' first' more' hrow', List.map_cons, List.map_cons,
      hmore]
    refine congrArg (· :: _) ?_
    cases n with
    | zero => rfl
    | succ n =>
      rw [List.take_succ_cons, List.take_succ_cons]
      have htake := congrArg (List.take n) hfirst
      rw [List.take_take, List.take_take, Nat.min_eq_left (Nat.le_succ n)] at htake
      rw [htake]

theorem StartAlike.append_left {n : Nat} {row row' : List Char} (h : StartAlike n row row')
    (front : List Char) : StartAlike n (front ++ row) (front ++ row') := by
  induction front with
  | nil => exact h
  | cons c front ih => exact ih.cons c

/-- **Text that stands far enough in its line and holds no line end changes no line's start.** -/
theorem startAlike_of_notMem {n : Nat} {front inner inner' : List Char} (hn : n ≤ front.length)
    (hfront : '\n' ∉ front) (hinner : '\n' ∉ inner) (hinner' : '\n' ∉ inner') (back : List Char) :
    StartAlike n (front ++ (inner ++ back)) (front ++ (inner' ++ back)) := by
  have hjoin : ∀ text, '\n' ∉ text → '\n' ∉ front ++ text := by
    intro text htext hmem
    exact (List.mem_append.mp hmem).elim hfront htext
  obtain ⟨first, more, hback, hrow⟩ := rowLines_append (hjoin inner hinner) back
  obtain ⟨first', more', hback', hrow'⟩ := rowLines_append (hjoin inner' hinner') back
  rw [hback] at hback'
  obtain ⟨rfl, rfl⟩ := List.cons.inj hback'
  unfold StartAlike
  rw [← List.append_assoc, ← List.append_assoc, hrow, hrow', List.map_cons, List.map_cons,
    List.append_assoc, List.append_assoc, List.take_append_of_le_length hn,
    List.take_append_of_le_length hn]

theorem StartAlike.trans {n : Nat} {row row' row'' : List Char} (h : StartAlike n row row')
    (h' : StartAlike n row' row'') : StartAlike n row row'' := Eq.trans h h'

/-- Texts of rows that start alike have lines that start alike. -/
theorem map_take_lines {n : Nat} {rows rows' : List (List Char)}
    (h : List.Forall₂ (StartAlike n) rows rows') :
    (rows.flatMap rowLines).map (·.take n) = (rows'.flatMap rowLines).map (·.take n) := by
  induction h with
  | nil => rfl
  | cons hrow _ ih =>
    rw [List.flatMap_cons, List.flatMap_cons, List.map_append, List.map_append, ih]
    exact congrArg (· ++ _) hrow

end TextLines
