/-
  The request lines of a LocalAPI connection (`server.rs`).

  A connection is read through a buffer that the kernel fills in chunks of any size.  A call of
  `read_capped_line` goes through the buffered bytes chunk by chunk until it meets a newline, the
  end of the stream or the cap; what it does not use of a chunk stays in the buffer for the next
  call.

  The bytes that are still to be read are the buffer and the chunks behind it.  Every call is
  described by them alone (`readCappedLine_spec`): where the chunks were cut has no part in it, and
  what a call leaves is the stream behind the line it returned.
-/
import Tailnetd.Lib.Delimited

namespace Tailnetd

/-! ## The reader -/

/-- `MAX_LINE_BYTES`. -/
def maxLineBytes : Nat := 64 * 1024

/-- The byte that ends a line. -/
def newline : UInt8 := 10

/-- A `BufReader`: the bytes it holds, and what the reads to come will give.  A read that gives no
    byte is the end of the stream. -/
structure BufReader where
  buf : List UInt8
  chunks : List (List UInt8)
  chunks_nonempty : ∀ chunk ∈ chunks, chunk ≠ []

namespace BufReader

/-- The bytes that are still to be read. -/
def pending (r : BufReader) : List UInt8 := r.buf ++ r.chunks.flatten

/-- `fill_buf`: an empty buffer takes the next chunk. -/
def fillBuf (r : BufReader) : BufReader :=
  if r.buf = [] then
    match h : r.chunks with
    | [] => r
    | chunk :: chunks =>
      { buf := chunk
        chunks := chunks
        chunks_nonempty := fun c hc => r.chunks_nonempty c (h ▸ List.mem_cons_of_mem _ hc) }
  else r

/-- `consume`: the first bytes of the buffer are used. -/
def consume (r : BufReader) (n : Nat) : BufReader := { r with buf := r.buf.drop n }

/-- Filling the buffer moves no byte of the stream, and fails to find one at its end only. -/
theorem fillBuf_spec (r : BufReader) :
    r.fillBuf.pending = r.pending ∧ (r.fillBuf.buf = [] → r.pending = []) := by
  unfold fillBuf
  split
  · rename_i hbuf
    split
    · rename_i hchunks
      refine ⟨rfl, fun _ => ?_⟩
      rw [pending, hbuf, hchunks]
      rfl
    · rename_i chunk chunks hchunks
      refine ⟨?_, fun hempty => absurd hempty (r.chunks_nonempty chunk ?_)⟩
      · show chunk ++ chunks.flatten = r.pending
        rw [pending, hbuf, hchunks, List.flatten_cons, List.nil_append]
      · rw [hchunks]
        exact List.mem_cons_self
  · rename_i hbuf
    exact ⟨rfl, fun hempty => absurd hempty hbuf⟩

/-- What is consumed of the buffer is gone from the stream, and nothing else. -/
theorem pending_consume (r : BufReader) (n : Nat) :
    r.pending = r.buf.take n ++ (r.consume n).pending := by
  rw [pending, pending, consume, ← List.append_assoc, List.take_append_drop]

end BufReader

/-- `LineResult`. -/
inductive LineResult where
  | line | eof | tooLong
  deriving DecidableEq, Repr

/-- The loop of `read_capped_line`: what it found, the line so far, and the reader it leaves. -/
def readLoop (r : BufReader) (out : List UInt8) : LineResult × List UInt8 × BufReader :=
  if r.fillBuf.buf = [] then (.eof, out, r.fillBuf)
  else
    match r.fillBuf.buf.findIdx? fun b => b == newline with
    | some pos =>
      if maxLineBytes < out.length + pos then (.tooLong, out, r.fillBuf)
      else (.line, out ++ r.fillBuf.buf.take pos, r.fillBuf.consume (pos + 1))
    | none =>
      if maxLineBytes < out.length + r.fillBuf.buf.length then (.tooLong, out, r.fillBuf)
      else readLoop (r.fillBuf.consume r.fillBuf.buf.length) (out ++ r.fillBuf.buf)
termination_by r.pending.length
decreasing_by
  rename_i hbuf _
  have hlen := congrArg List.length (r.fillBuf.pending_consume r.fillBuf.buf.length)
  rw [r.fillBuf_spec.1, List.length_append, List.take_length] at hlen
  have hpos := List.length_pos_iff.mpr hbuf
  omega

/-- `read_capped_line`: the line is cleared on entry. -/
def readCappedLine (r : BufReader) : LineResult × List UInt8 × BufReader := readLoop r []

/-! ## One call -/

/-- Where the first newline of a buffer is found. -/
theorem findIdx?_newline_some {buf : List UInt8} {pos : Nat}
    (h : (buf.findIdx? fun b => b == newline) = some pos) :
    newline ∉ buf.take pos ∧ buf = buf.take pos ++ newline :: buf.drop (pos + 1) ∧
      (buf.take pos).length = pos := by
  obtain ⟨hlt, hat, hbefore⟩ := List.findIdx?_eq_some_iff_getElem.mp h
  refine ⟨?_, ?_, by rw [List.length_take]; omega⟩
  · intro hmem
    obtain ⟨i, hi, hget⟩ := List.mem_take_iff_getElem.mp hmem
    exact absurd (by simpa using hget) (by simpa using hbefore i (by omega))
  · have hnewline : buf[pos] = newline := by simpa using hat
    rw [← hnewline, ← List.drop_eq_getElem_cons hlt, List.take_append_drop]

theorem findIdx?_newline_none {buf : List UInt8}
    (h : (buf.findIdx? fun b => b == newline) = none) : newline ∉ buf := by
  intro hmem
  have hno := List.findIdx?_eq_none_iff.mp h newline hmem
  exact absurd hno (by simp)

/-- A chunk without a newline is the beginning of the line. -/
theorem chunk_begins_line {buf row rest later : List UInt8} (hbuf : newline ∉ buf)
    (hrow : newline ∉ row) (h : buf ++ later = row ++ newline :: rest) :
    ∃ row', row = buf ++ row' ∧ newline ∉ row' ∧ later = row' ++ newline :: rest := by
  rcases Delimited.cases_first newline later with ⟨row', rest', hrow', rfl⟩ | hnone
  · rw [← List.append_assoc] at h
    have hboth : newline ∉ buf ++ row' := by
      rw [List.mem_append, not_or]
      exact ⟨hbuf, hrow'⟩
    obtain ⟨hsame, hrest⟩ := Delimited.first_unique hboth hrow h
    exact ⟨row', hsame.symm, hrow', by rw [hrest]⟩
  · have hin : newline ∈ buf ++ later := by
      rw [h]
      exact List.mem_append_right _ List.mem_cons_self
    rcases List.mem_append.mp hin with hmem | hmem
    · exact absurd hmem hbuf
    · exact absurd hmem hnone

/-- The stream is the buffer that was filled, and what comes behind it. -/
theorem pending_fillBuf (r : BufReader) (n : Nat) :
    r.pending = r.fillBuf.buf.take n ++ (r.fillBuf.consume n).pending := by
  rw [← r.fillBuf_spec.1]
  exact r.fillBuf.pending_consume n

/-- A newline in the buffer ends the line there. -/
theorem line_in_buffer {r : BufReader} {pos : Nat} {row rest : List UInt8}
    (hpos : (r.fillBuf.buf.findIdx? fun b => b == newline) = some pos) (hrow : newline ∉ row)
    (hpending : r.pending = row ++ newline :: rest) :
    r.fillBuf.buf.take pos = row ∧ row.length = pos ∧
      (r.fillBuf.consume (pos + 1)).pending = rest := by
  obtain ⟨hbefore, hbuf, hlen⟩ := findIdx?_newline_some hpos
  have hstream : r.fillBuf.buf.take pos ++ newline :: (r.fillBuf.consume (pos + 1)).pending =
      row ++ newline :: rest := by
    rw [← hpending, ← r.fillBuf_spec.1]
    show _ = r.fillBuf.buf ++ r.fillBuf.chunks.flatten
    conv => rhs; rw [hbuf, List.append_assoc, List.cons_append]
    rfl
  obtain ⟨hsame, hrest⟩ := Delimited.first_unique hbefore hrow hstream
  exact ⟨hsame, hsame ▸ hlen, hrest⟩

/-- **A line that is ended**: it is returned up to the cap, and the stream behind it is left. -/
theorem readLoop_line {r : BufReader} {out row rest : List UInt8} (hrow : newline ∉ row)
    (hpending : r.pending = row ++ newline :: rest) :
    (maxLineBytes < out.length + row.length ∧ (readLoop r out).1 = .tooLong) ∨
      (out.length + row.length ≤ maxLineBytes ∧
        ∃ r', readLoop r out = (.line, out ++ row, r') ∧ r'.pending = rest) := by
  induction r, out using readLoop.induct generalizing row with
  | case1 r out hbuf =>
    -- the stream is not at its end
    rw [r.fillBuf_spec.2 hbuf] at hpending
    simp at hpending
  | case2 r out hbuf pos hpos hover =>
    obtain ⟨-, hlen, -⟩ := line_in_buffer hpos hrow hpending
    refine .inl ⟨by omega, ?_⟩
    rw [readLoop, if_neg hbuf, hpos]
    exact congrArg Prod.fst (if_pos hover)
  | case3 r out hbuf pos hpos hfits =>
    obtain ⟨hline, hlen, hrest⟩ := line_in_buffer hpos hrow hpending
    refine .inr ⟨by omega, r.fillBuf.consume (pos + 1), ?_, hrest⟩
    rw [readLoop, if_neg hbuf, hpos, ← hline]
    exact if_neg hfits
  | case4 r out hbuf hpos hover =>
    have hsplit := pending_fillBuf r r.fillBuf.buf.length
    rw [List.take_length, hpending] at hsplit
    obtain ⟨row', rfl, -⟩ := chunk_begins_line (findIdx?_newline_none hpos) hrow hsplit.symm
    rw [List.length_append]
    refine .inl ⟨by omega, ?_⟩
    rw [readLoop, if_neg hbuf, hpos]
    exact congrArg Prod.fst (if_pos hover)
  | case5 r out hbuf hpos hfits ih =>
    have hsplit := pending_fillBuf r r.fillBuf.buf.length
    rw [List.take_length, hpending] at hsplit
    obtain ⟨row', rfl, hrow', hlater⟩ :=
      chunk_begins_line (findIdx?_newline_none hpos) hrow hsplit.symm
    have hnext : readLoop r out =
        readLoop (r.fillBuf.consume r.fillBuf.buf.length) (out ++ r.fillBuf.buf) := by
      rw [readLoop, if_neg hbuf, hpos]
      exact if_neg hfits
    rw [hnext, List.length_append]
    have hread := ih hrow' hlater
    rw [List.length_append, Nat.add_assoc, List.append_assoc] at hread
    exact hread

/-- A newline that is found in the buffer is one of the stream. -/
theorem newline_mem_pending {r : BufReader} {pos : Nat}
    (hpos : (r.fillBuf.buf.findIdx? fun b => b == newline) = some pos) : newline ∈ r.pending := by
  obtain ⟨-, hbuf, -⟩ := findIdx?_newline_some hpos
  have hmem : newline ∈ r.fillBuf.buf := by
    rw [hbuf]
    exact List.mem_append_right _ List.mem_cons_self
  rw [← r.fillBuf_spec.1]
  exact List.mem_append_left _ hmem

/-- **A tail that no newline ends** is no line, whatever its length. -/
theorem readLoop_tail {r : BufReader} {out : List UInt8} (hnone : newline ∉ r.pending)
    (hout : out.length ≤ maxLineBytes) :
    (maxLineBytes < out.length + r.pending.length ∧ (readLoop r out).1 = .tooLong) ∨
      (out.length + r.pending.length ≤ maxLineBytes ∧ (readLoop r out).1 = .eof) := by
  induction r, out using readLoop.induct with
  | case1 r out hbuf =>
    have hend := r.fillBuf_spec.2 hbuf
    have hresult : (readLoop r out).1 = .eof := by
      rw [readLoop, if_pos hbuf]
    rw [hend, List.length_nil, hresult]
    exact .inr ⟨hout, rfl⟩
  | case2 r out hbuf pos hpos hover => exact absurd (newline_mem_pending hpos) hnone
  | case3 r out hbuf pos hpos hfits => exact absurd (newline_mem_pending hpos) hnone
  | case4 r out hbuf hpos hover =>
    have hsplit := pending_fillBuf r r.fillBuf.buf.length
    rw [List.take_length] at hsplit
    rw [hsplit, List.length_append]
    refine .inl ⟨by omega, ?_⟩
    rw [readLoop, if_neg hbuf, hpos]
    exact congrArg Prod.fst (if_pos hover)
  | case5 r out hbuf hpos hfits ih =>
    have hsplit := pending_fillBuf r r.fillBuf.buf.length
    rw [List.take_length] at hsplit
    have hnext : readLoop r out =
        readLoop (r.fillBuf.consume r.fillBuf.buf.length) (out ++ r.fillBuf.buf) := by
      rw [readLoop, if_neg hbuf, hpos]
      exact if_neg hfits
    rw [hsplit] at hnone
    have hread := ih (fun hmem => hnone (List.mem_append_right _ hmem))
      (by rw [List.length_append]; omega)
    rw [List.length_append, Nat.add_assoc, ← List.length_append, ← hsplit] at hread
    rw [hnext]
    exact hread

/-! ## The calls on one connection -/

/-- A line that is returned is what the stream begins with, and a shorter stream is left. -/
theorem readCappedLine_line {r r' : BufReader} {line : List UInt8}
    (h : readCappedLine r = (.line, line, r')) :
    r.pending = line ++ newline :: r'.pending ∧ newline ∉ line ∧ line.length ≤ maxLineBytes := by
  rcases Delimited.cases_first newline r.pending with ⟨row, rest, hrow, hpending⟩ | hnone
  · rcases @readLoop_line r [] row rest hrow hpending with ⟨-, hlong⟩ | ⟨hfits, r'', hread, hrest⟩
    · rw [← readCappedLine, h] at hlong
      cases hlong
    · rw [← readCappedLine, h] at hread
      obtain ⟨hline, hr⟩ := Prod.mk.inj (Prod.mk.inj hread).2
      subst hline hr
      rw [hrest, hpending]
      rw [List.length_nil, Nat.zero_add] at hfits
      exact ⟨rfl, hrow, hfits⟩
  · rcases @readLoop_tail r [] hnone (Nat.zero_le _) with ⟨-, hresult⟩ | ⟨-, hresult⟩ <;>
    · rw [← readCappedLine, h] at hresult
      cases hresult

/-- The lines that successive calls return, and what the last call says: the calls go on after a
    line, and end with the stream or with a line that is too long. -/
def readLines (r : BufReader) : List (List UInt8) × LineResult :=
  match _h : readCappedLine r with
  | (.line, line, r') => (line :: (readLines r').1, (readLines r').2)
  | (result, _, _) => ([], result)
termination_by r.pending.length
decreasing_by
  all_goals
    have hlen := congrArg List.length (readCappedLine_line _h).1
    rw [List.length_append, List.length_cons] at hlen
    omega

theorem readLines_of_line {r r' : BufReader} {line : List UInt8}
    (h : readCappedLine r = (.line, line, r')) :
    readLines r = (line :: (readLines r').1, (readLines r').2) := by
  rw [readLines]
  split
  · rename_i heq
    rw [h] at heq
    cases heq
    rfl
  · rename_i hno heq
    rw [h] at heq
    exact (hno (congrArg Prod.fst heq).symm).elim

theorem readLines_of_end {r : BufReader} (h : (readCappedLine r).1 ≠ .line) :
    readLines r = ([], (readCappedLine r).1) := by
  rw [readLines]
  split
  · rename_i heq
    rw [heq] at h
    exact absurd rfl h
  · rename_i heq
    rw [heq]

/-- A line within the cap, which is inclusive. -/
def fits (line : List UInt8) : Bool := line.length ≤ maxLineBytes

/-- **The lines of a stream, as a connection is to read them**: up to the first that is too long, a
    tail that no newline ends counting as one. -/
def requestLinesOf (s : List UInt8) : List (List UInt8) × LineResult :=
  ((Delimited.split newline s).1.takeWhile fits,
    if (Delimited.split newline s).1.all fits && fits (Delimited.split newline s).2 then .eof
    else .tooLong)

/-- **The calls read the lines of the stream.** -/
theorem readLines_eq (r : BufReader) : readLines r = requestLinesOf r.pending := by
  induction hlen : r.pending.length using Nat.strongRecOn generalizing r with
  | _ n ih =>
    rcases Delimited.cases_first newline r.pending with ⟨row, rest, hrow, hpending⟩ | hnone
    · rw [requestLinesOf, hpending, Delimited.split_append_cons hrow]
      rcases @readLoop_line r [] row rest hrow hpending with
        ⟨hlong, hresult⟩ | ⟨hshort, r', hread, hrest⟩
      · rw [← readCappedLine] at hresult
        have hno : fits row = false := by
          rw [List.length_nil, Nat.zero_add] at hlong
          exact decide_eq_false (by omega)
        rw [readLines_of_end (by rw [hresult]; decide), hresult, List.takeWhile_cons, hno]
        simp [hno]
      · have hyes : fits row = true := by
          rw [List.length_nil, Nat.zero_add] at hshort
          exact decide_eq_true hshort
        have hshorter : r'.pending.length < n := by
          rw [← hlen, hpending, hrest, List.length_append, List.length_cons]
          omega
        have hnext := ih _ hshorter r' rfl
        rw [readLines_of_line hread, hnext, requestLinesOf, hrest, List.takeWhile_cons, hyes]
        simp [hyes]
    · rw [requestLinesOf, Delimited.split_of_notMem hnone]
      rcases @readLoop_tail r [] hnone (Nat.zero_le _) with
        ⟨hlong, hresult⟩ | ⟨hshort, hresult⟩
      · rw [← readCappedLine] at hresult
        have hno : fits r.pending = false := by
          rw [List.length_nil, Nat.zero_add] at hlong
          exact decide_eq_false (by omega)
        rw [readLines_of_end (by rw [hresult]; decide), hresult]
        simp [hno]
      · rw [← readCappedLine] at hresult
        have hyes : fits r.pending = true := by
          rw [List.length_nil, Nat.zero_add] at hshort
          exact decide_eq_true hshort
        rw [readLines_of_end (by rw [hresult]; decide), hresult]
        simp [hyes]

section Connection

variable {σ : Type} (serve : σ → List UInt8 → σ × Bool) (refuse : σ → σ)

/-- The request loop of `handle_conn`: a line is served and says whether the connection goes on; a
    line that is too long is refused, which ends it. -/
def handleConn (st : σ) (r : BufReader) : σ :=
  match _h : readCappedLine r with
  | (.eof, _, _) => st
  | (.tooLong, _, _) => refuse st
  | (.line, line, r') =>
    if (serve st line).2 then handleConn (serve st line).1 r' else (serve st line).1
termination_by r.pending.length
decreasing_by
  have hlen := congrArg List.length (readCappedLine_line _h).1
  rw [List.length_append, List.length_cons] at hlen
  omega

/-- The same for a list of lines and how it ends. -/
def serveLines (refuse : σ → σ) (serve : σ → List UInt8 → σ × Bool) :
    σ → List (List UInt8) → LineResult → σ
  | st, [], last => if last = .tooLong then refuse st else st
  | st, line :: lines, last =>
    if (serve st line).2 then serveLines refuse serve (serve st line).1 lines last
    else (serve st line).1

/-- A call that returns a line has it served, and the connection goes on if the handler says so. -/
theorem handleConn_of_line {st : σ} {r r' : BufReader} {line : List UInt8}
    (h : readCappedLine r = (.line, line, r')) : handleConn serve refuse st r =
      if (serve st line).2 then handleConn serve refuse (serve st line).1 r'
      else (serve st line).1 := by
  rw [handleConn]
  split
  · rename_i heq
    cases h.symm.trans heq
  · rename_i heq
    cases h.symm.trans heq
  · rename_i heq
    cases h.symm.trans heq
    rfl

/-- A connection serves the lines that the calls return. -/
theorem handleConn_eq (st : σ) (r : BufReader) :
    handleConn serve refuse st r = serveLines refuse serve st (readLines r).1 (readLines r).2 := by
  induction st, r using handleConn.induct serve with
  | case1 st r out r' h =>
    rw [readLines_of_end (by simp [h]), h, handleConn]
    split
    · rfl
    · rename_i heq
      cases h.symm.trans heq
    · rename_i heq
      cases h.symm.trans heq
  | case2 st r out r' h =>
    rw [readLines_of_end (by simp [h]), h, handleConn]
    split
    · rename_i heq
      cases h.symm.trans heq
    · rfl
    · rename_i heq
      cases h.symm.trans heq
  | case3 st r line r' h hgo ih =>
    rw [handleConn_of_line serve refuse h, if_pos hgo, readLines_of_line h, serveLines, if_pos hgo,
      ih]
  | case4 st r line r' h hstop =>
    rw [handleConn_of_line serve refuse h, if_neg hstop, readLines_of_line h, serveLines,
      if_neg hstop]

end Connection

/-! ## The result -/

/-- **The request lines of a connection are those of its stream**, in order and up to the first that
    is too long, wherever the reads cut it.  Every call takes its line and the newline off the
    stream, and a connection serves the lines and nothing else. -/
theorem request_lines (r : BufReader) :
    readLines r = requestLinesOf r.pending ∧
    (Delimited.join newline (Delimited.split newline r.pending).1
        (Delimited.split newline r.pending).2 = r.pending ∧
      (∀ row ∈ (Delimited.split newline r.pending).1, newline ∉ row) ∧
      newline ∉ (Delimited.split newline r.pending).2) ∧
    (∀ r' : BufReader, r'.pending = r.pending → readLines r' = readLines r) ∧
    (∀ line r', readCappedLine r = (.line, line, r') →
      r.pending = line ++ newline :: r'.pending ∧ newline ∉ line) ∧
    ∀ (σ : Type) (serve : σ → List UInt8 → σ × Bool) (refuse : σ → σ) (st : σ),
      handleConn serve refuse st r =
        serveLines refuse serve st (requestLinesOf r.pending).1 (requestLinesOf r.pending).2 := by
  refine ⟨readLines_eq r, Delimited.join_split newline r.pending, ?_, ?_, ?_⟩
  · intro r' hsame
    rw [readLines_eq, readLines_eq, hsame]
  · intro line r' hread
    obtain ⟨hpending, hline, -⟩ := readCappedLine_line hread
    exact ⟨hpending, hline⟩
  · intro σ serve refuse st
    rw [handleConn_eq, readLines_eq]

/-- One line and an unended tail, cut at the newline and cut elsewhere. -/
theorem request_lines_cut :
    readLines ⟨[], [[104, 105], [10, 98, 121]], by decide⟩ = ([[104, 105]], .eof) ∧
      readLines ⟨[104], [[105, 10, 98], [121]], by decide⟩ =
        readLines ⟨[], [[104, 105], [10, 98, 121]], by decide⟩ := by
  have hresult := request_lines ⟨[], [[104, 105], [10, 98, 121]], by decide⟩
  exact ⟨hresult.1.trans (by decide), hresult.2.2.1 _ rfl⟩

end Tailnetd
