/-
  The outbound HTTP proxy (`httpproxy.rs`): the request head of a `CONNECT`, and what is spliced
  behind it.

  1. **Program** — the client's socket is read through a `BufReader`: `read_line_capped` takes the
     request line, `drain_headers` the header lines up to the blank one, each through a `take` that
     ends the line one byte past its cap.  When the overlay dial succeeds, `into_inner` gives the
     socket back, the `200` line is written to it, and `splice` copies what the socket still gives
     to the overlay connection.

  2. **What a call leaves** — a call uses up the bytes it returns and leaves the rest of the stream,
     part of it in the buffer and part of it in the socket (`Uses`).  A buffer is filled only when
     a byte of the fill is used at once, so that what is buffered is a proper part of the last read.

  3. **What is forwarded** — `into_inner` drops the buffer.  The comment over `drain_headers` says
     that the headers are consumed "so the splice starts at the tunnel body", and `stream_nc`, which
     splices a LocalAPI connection, copies from its buffered reader so that "any bytes buffered
     after the request line are not lost"; here they are.  Nothing of the head is forwarded and
     nothing twice, but what the last read of the head gave of the tunnel is lost: the tunnel is
     complete exactly when a read ends where the head ends (`tunnel_forwards_iff`).

  Read and write errors of the client's socket and the deadline on the handshake are left out.
-/
import Tailnetd.RequestLines
import Tailnetd.Serve
import Tailnetd.Ssh

namespace Tailnetd

/-! ## `String::from_utf8_lossy` -/

/-- U+FFFD, which stands for a sequence that is not UTF-8. -/
def replacementChar : Char := Char.ofNat 0xFFFD

/-- A byte that goes on a character. -/
def isContinuation (b : UInt8) : Bool := 0x80 ≤ b && b ≤ 0xBF

/-- The second bytes of a character of three bytes: no overlong form, no surrogate. -/
def isSecondOfThree (lead b : UInt8) : Bool :=
  if lead = 0xE0 then 0xA0 ≤ b && b ≤ 0xBF
  else if lead = 0xED then 0x80 ≤ b && b ≤ 0x9F
  else isContinuation b

/-- The second bytes of a character of four bytes: no overlong form, nothing above U+10FFFF. -/
def isSecondOfFour (lead b : UInt8) : Bool :=
  if lead = 0xF0 then 0x90 ≤ b && b ≤ 0xBF
  else if lead = 0xF4 then 0x80 ≤ b && b ≤ 0x8F
  else isContinuation b

/-- The character of a leading byte and the bytes that go on. -/
def charOfBytes (lead : Nat) (rest : List UInt8) : Char :=
  Char.ofNat (rest.foldl (fun n b => n * 64 + (b.toNat - 0x80)) lead)

/-- `String::from_utf8_lossy`: one replacement character for each longest beginning of a character
    that does not go on as one. -/
def fromUtf8Lossy : List UInt8 → List Char
  | [] => []
  | b :: rest =>
    if b < 0x80 then Char.ofNat b.toNat :: fromUtf8Lossy rest
    else if 0xC2 ≤ b ∧ b ≤ 0xDF then
      match rest with
      | [] => [replacementChar]
      | c :: rest' =>
        if isContinuation c then charOfBytes (b.toNat - 0xC0) [c] :: fromUtf8Lossy rest'
        else replacementChar :: fromUtf8Lossy (c :: rest')
    else if 0xE0 ≤ b ∧ b ≤ 0xEF then
      match rest with
      | [] => [replacementChar]
      | c :: rest' =>
        if isSecondOfThree b c then
          match rest' with
          | [] => [replacementChar]
          | d :: rest'' =>
            if isContinuation d then charOfBytes (b.toNat - 0xE0) [c, d] :: fromUtf8Lossy rest''
            else replacementChar :: fromUtf8Lossy (d :: rest'')
        else replacementChar :: fromUtf8Lossy (c :: rest')
    else if 0xF0 ≤ b ∧ b ≤ 0xF4 then
      match rest with
      | [] => [replacementChar]
      | c :: rest' =>
        if isSecondOfFour b c then
          match rest' with
          | [] => [replacementChar]
          | d :: rest'' =>
            if isContinuation d then
              match rest'' with
              | [] => [replacementChar]
              | e :: rest''' =>
                if isContinuation e then
                  charOfBytes (b.toNat - 0xF0) [c, d, e] :: fromUtf8Lossy rest'''
                else replacementChar :: fromUtf8Lossy (e :: rest''')
            else replacementChar :: fromUtf8Lossy (d :: rest'')
        else replacementChar :: fromUtf8Lossy (c :: rest')
    else replacementChar :: fromUtf8Lossy rest

/-- A character that is written in one byte, and no other way. -/
def IsAscii (c : Char) : Prop := 0 < c.toNat ∧ c.toNat < 0x80

instance isAsciiDecidable (c : Char) : Decidable (IsAscii c) :=
  inferInstanceAs (Decidable (0 < c.toNat ∧ c.toNat < 0x80))

theorem charOfNat_toNat (n : Nat) : (Char.ofNat n).toNat = if n.isValidChar then n else 0 := by
  unfold Char.ofNat
  by_cases hvalid : n.isValidChar
  · rw [dif_pos hvalid, if_pos hvalid]
    show (UInt32.ofNatLT n _).toNat = n
    exact UInt32.toNat_ofNatLT
  · rw [dif_neg hvalid, if_neg hvalid]
    rfl

theorem charOfNat_ne {n : Nat} {c : Char} (hn : 0x80 ≤ n) (hc : IsAscii c) : Char.ofNat n ≠ c := by
  intro heq
  obtain ⟨hpos, hlt⟩ := hc
  have hvalue := charOfNat_toNat n
  rw [heq] at hvalue
  split at hvalue <;> omega

theorem isContinuation_iff {b : UInt8} :
    isContinuation b = true ↔ 0x80 ≤ b.toNat ∧ b.toNat ≤ 0xBF := by
  simp [isContinuation, UInt8.le_iff_toNat_le]

/-- A character of three bytes is no overlong form. -/
theorem second_of_three {lead b : UInt8} (h : isSecondOfThree lead b = true) :
    0x80 ≤ b.toNat ∧ (lead.toNat = 0xE0 → 0xA0 ≤ b.toNat) := by
  unfold isSecondOfThree at h
  split at h
  · have hb : 0xA0 ≤ b.toNat ∧ b.toNat ≤ 0xBF := by simpa [UInt8.le_iff_toNat_le] using h
    omega
  · rename_i hne
    have hother : lead.toNat ≠ 0xE0 := fun heq => hne (UInt8.toNat_inj.mp heq)
    split at h
    · have hb : 0x80 ≤ b.toNat ∧ b.toNat ≤ 0x9F := by simpa [UInt8.le_iff_toNat_le] using h
      omega
    · have hb := isContinuation_iff.mp h
      omega

/-- Nor is one of four bytes. -/
theorem second_of_four {lead b : UInt8} (h : isSecondOfFour lead b = true) :
    0x80 ≤ b.toNat ∧ (lead.toNat = 0xF0 → 0x90 ≤ b.toNat) := by
  unfold isSecondOfFour at h
  split at h
  · have hb : 0x90 ≤ b.toNat ∧ b.toNat ≤ 0xBF := by simpa [UInt8.le_iff_toNat_le] using h
    omega
  · rename_i hne
    have hother : lead.toNat ≠ 0xF0 := fun heq => hne (UInt8.toNat_inj.mp heq)
    split at h
    · have hb : 0x80 ≤ b.toNat ∧ b.toNat ≤ 0x8F := by simpa [UInt8.le_iff_toNat_le] using h
      omega
    · have hb := isContinuation_iff.mp h
      omega

/-- A byte above ASCII gives a character above ASCII. -/
theorem fromUtf8Lossy_of_high {b : UInt8} {rest : List UInt8} (hb : ¬ b < 0x80) :
    ∃ n text, 0x80 ≤ n ∧ fromUtf8Lossy (b :: rest) = Char.ofNat n :: text := by
  have hreplaced : ∀ text, ∃ n text', 0x80 ≤ n ∧
      replacementChar :: text = Char.ofNat n :: text' := fun text => ⟨0xFFFD, text, by decide, rfl⟩
  have hlead : 0x80 ≤ b.toNat := by
    rw [UInt8.lt_iff_toNat_lt] at hb
    exact Nat.le_of_not_lt hb
  unfold fromUtf8Lossy
  rw [if_neg hb]
  split
  · rename_i htwo
    rw [UInt8.le_iff_toNat_le, UInt8.le_iff_toNat_le] at htwo
    have hlow : 0xC2 ≤ b.toNat := htwo.1
    split
    · exact hreplaced _
    · split
      · refine ⟨_, _, ?_, rfl⟩
        simp only [List.foldl_cons, List.foldl_nil]
        omega
      · exact hreplaced _
  · split
    · rename_i hthree
      rw [UInt8.le_iff_toNat_le, UInt8.le_iff_toNat_le] at hthree
      have hlow : 0xE0 ≤ b.toNat := hthree.1
      split
      · exact hreplaced _
      · split
        · rename_i hsecond
          have hfull := second_of_three hsecond
          split
          · exact hreplaced _
          · split
            · refine ⟨_, _, ?_, rfl⟩
              simp only [List.foldl_cons, List.foldl_nil]
              omega
            · exact hreplaced _
        · exact hreplaced _
    · split
      · rename_i hfour
        rw [UInt8.le_iff_toNat_le, UInt8.le_iff_toNat_le] at hfour
        have hlow : 0xF0 ≤ b.toNat := hfour.1
        split
        · exact hreplaced _
        · split
          · rename_i hsecond
            have hfull := second_of_four hsecond
            split
            · exact hreplaced _
            · split
              · split
                · exact hreplaced _
                · split
                  · refine ⟨_, _, ?_, rfl⟩
                    simp only [List.foldl_cons, List.foldl_nil]
                    omega
                  · exact hreplaced _
              · exact hreplaced _
          · exact hreplaced _
      · exact hreplaced _

/-- **An ASCII character of the text is a byte of the input**, and the text behind it is that of the
    bytes behind. -/
theorem fromUtf8Lossy_eq_cons {s : List UInt8} {c : Char} {text : List Char} (hc : IsAscii c)
    (h : fromUtf8Lossy s = c :: text) :
    ∃ b rest, s = b :: rest ∧ b.toNat = c.toNat ∧ fromUtf8Lossy rest = text := by
  cases s with
  | nil => cases h
  | cons b rest =>
    by_cases hb : b < 0x80
    · unfold fromUtf8Lossy at h
      rw [if_pos hb] at h
      obtain ⟨hfirst, htext⟩ := List.cons.inj h
      have hlt : b.toNat < 0x80 := UInt8.lt_iff_toNat_lt.mp hb
      refine ⟨b, rest, rfl, ?_, htext⟩
      rw [← hfirst, charOfNat_toNat, if_pos]
      exact .inl (by omega)
    · obtain ⟨n, text', hn, hhigh⟩ := @fromUtf8Lossy_of_high b rest hb
      rw [hhigh] at h
      exact absurd (List.cons.inj h).1 (charOfNat_ne hn hc)

/-- Every byte leaves something of the text. -/
theorem fromUtf8Lossy_eq_nil {s : List UInt8} (h : fromUtf8Lossy s = []) : s = [] := by
  cases s with
  | nil => rfl
  | cons b rest =>
    by_cases hb : b < 0x80
    · unfold fromUtf8Lossy at h
      rw [if_pos hb] at h
      cases h
    · obtain ⟨n, text, -, hhigh⟩ := @fromUtf8Lossy_of_high b rest hb
      rw [hhigh] at h
      cases h

/-- A text of one ASCII character is one byte. -/
theorem fromUtf8Lossy_eq_singleton {s : List UInt8} {c : Char} (hc : IsAscii c)
    (h : fromUtf8Lossy s = [c]) : ∃ b : UInt8, s = [b] ∧ b.toNat = c.toNat := by
  obtain ⟨b, rest, rfl, hb, hrest⟩ := fromUtf8Lossy_eq_cons hc h
  rw [fromUtf8Lossy_eq_nil hrest]
  exact ⟨b, rfl, hb⟩

example : fromUtf8Lossy [0x61, 0xC3, 0xA9, 0xE2, 0x82, 0x41, 0xFF] =
    ['a', 'é', replacementChar, 'A', replacementChar] := by decide

/-! ## Reading a line -/

/-- `MAX_HEAD_BYTES`. -/
def maxHeadBytes : Nat := 64 * 1024

/-- The loop of `read_until` through a `take`: the bytes up to a newline or up to the limit. -/
def readUntil (r : BufReader) (limit : Nat) (raw : List UInt8) : List UInt8 × BufReader :=
  if limit = 0 then (raw, r)
  else if r.fillBuf.buf = [] then (raw, r.fillBuf)
  else
    match (r.fillBuf.buf.take limit).findIdx? fun b => b == newline with
    | some pos =>
      (raw ++ (r.fillBuf.buf.take limit).take (pos + 1), r.fillBuf.consume (pos + 1))
    | none =>
      readUntil (r.fillBuf.consume (r.fillBuf.buf.take limit).length)
        (limit - (r.fillBuf.buf.take limit).length) (raw ++ r.fillBuf.buf.take limit)
termination_by limit
decreasing_by
  rename_i hbuf
  have hpos := List.length_pos_iff.mpr hbuf
  rw [List.length_take]
  omega

/-- `read_line_capped`: the text of the line, the number of its bytes and the reader it leaves. -/
def readLineCapped (r : BufReader) (cap : Nat) : Except String (List Char × Nat × BufReader) :=
  if cap < (readUntil r (cap + 1) []).1.length then
    .error s!"http-proxy: request line exceeded {cap} bytes"
  else
    .ok (fromUtf8Lossy (readUntil r (cap + 1) []).1, (readUntil r (cap + 1) []).1.length,
      (readUntil r (cap + 1) []).2)

/-- The line that ends the head. -/
def isBlankLine (line : List Char) : Bool := line == ['\r', '\n'] || line == ['\n']

/-- The loop of `drain_headers`, after `total` bytes of headers. -/
def drainHeaders (r : BufReader) (total : Nat) : Except String BufReader :=
  match readLineCapped r (maxHeadBytes - total) with
  | .error e => .error e
  | .ok (line, n, r') =>
    if n = 0 then .ok r'
    else if isBlankLine line then .ok r'
    else if maxHeadBytes ≤ total + n then
      .error s!"http-proxy: request head exceeded {maxHeadBytes} bytes"
    else drainHeaders r' (total + n)
termination_by maxHeadBytes - total
decreasing_by omega

/-! ## What a call leaves -/

/-- A reader has used up these bytes: it took whole reads from the socket, and what it still holds
    is less than the last of them. -/
def Uses (r : BufReader) (used : List UInt8) (r' : BufReader) : Prop :=
  ∃ reads : List (List UInt8), r.chunks = reads ++ r'.chunks ∧
    r.buf ++ reads.flatten = used ++ r'.buf ∧
    ∀ last ∈ reads.getLast?, r'.buf.length < last.length

theorem Uses.pending {r r' : BufReader} {used : List UInt8} (h : Uses r used r') :
    r.pending = used ++ r'.pending := by
  obtain ⟨reads, hchunks, hbytes, -⟩ := h
  rw [BufReader.pending, BufReader.pending, hchunks, List.flatten_append, ← List.append_assoc,
    hbytes, List.append_assoc]

theorem Uses.trans {r r' r'' : BufReader} {used used' : List UInt8} (h : Uses r used r')
    (h' : Uses r' used' r'') : Uses r (used ++ used') r'' := by
  obtain ⟨reads, hchunks, hbytes, hlast⟩ := h
  obtain ⟨reads', hchunks', hbytes', hlast'⟩ := h'
  refine ⟨reads ++ reads', ?_, ?_, ?_⟩
  · rw [hchunks, hchunks', List.append_assoc]
  · rw [List.flatten_append, ← List.append_assoc, hbytes, List.append_assoc, hbytes',
      List.append_assoc]
  · intro last hmem
    rw [List.getLast?_append] at hmem
    cases hend : reads'.getLast? with
    | some _ =>
      rw [hend] at hmem
      cases hmem
      exact hlast' last hend
    | none =>
      -- the second call went on with what the first had left
      rw [hend] at hmem
      have hnone : reads' = [] := List.getLast?_eq_none_iff.mp hend
      have hless := congrArg List.length hbytes'
      rw [hnone, List.flatten_nil, List.append_nil, List.length_append] at hless
      have hbefore := hlast last hmem
      omega

/-- A fill does nothing, or takes one read. -/
theorem fillBuf_does (r : BufReader) :
    r.fillBuf = r ∨ r.buf = [] ∧ r.chunks = r.fillBuf.buf :: r.fillBuf.chunks := by
  unfold BufReader.fillBuf
  split
  · rename_i hbuf
    split
    · exact .inl rfl
    · rename_i hchunks
      exact .inr ⟨hbuf, hchunks⟩
  · exact .inl rfl

/-- A fill of which something is consumed. -/
theorem uses_fillBuf (r : BufReader) {n : Nat} (hpos : 0 < n) (hn : n ≤ r.fillBuf.buf.length) :
    Uses r (r.fillBuf.buf.take n) (r.fillBuf.consume n) := by
  have hsplit : r.fillBuf.buf = r.fillBuf.buf.take n ++ (r.fillBuf.consume n).buf :=
    (List.take_append_drop n r.fillBuf.buf).symm
  rcases fillBuf_does r with hsame | ⟨hbuf, hchunks⟩
  · rw [hsame] at hsplit ⊢
    refine ⟨[], rfl, ?_, ?_⟩
    · rw [List.flatten_nil, List.append_nil]
      exact hsplit
    · intro last hmem
      cases hmem
  · refine ⟨[r.fillBuf.buf], hchunks, ?_, ?_⟩
    · rw [hbuf, List.nil_append, List.flatten_cons, List.flatten_nil, List.append_nil]
      exact hsplit
    · intro last hmem
      cases hmem
      show (r.fillBuf.buf.drop n).length < r.fillBuf.buf.length
      rw [List.length_drop]
      omega

/-- **A line within the limit** is read to its newline, and used up. -/
theorem readUntil_line {r : BufReader} {limit : Nat} {raw line rest : List UInt8}
    (hline : newline ∉ line) (hpending : r.pending = line ++ newline :: rest)
    (hlimit : line.length < limit) :
    ∃ r', readUntil r limit raw = (raw ++ (line ++ [newline]), r') ∧
      Uses r (line ++ [newline]) r' := by
  induction r, limit, raw using readUntil.induct generalizing line with
  | case1 r raw => exact absurd hlimit (Nat.not_lt_zero _)
  | case2 r limit raw hpos hbuf =>
    -- the stream is not at its end
    rw [r.fillBuf_spec.2 hbuf] at hpending
    simp at hpending
  | case3 r limit raw hpos hbuf pos hfound =>
    obtain ⟨hbefore, hcut, hlen⟩ := findIdx?_newline_some hfound
    have hstream := pending_fillBuf r limit
    rw [hpending, hcut, List.append_assoc, List.cons_append] at hstream
    obtain ⟨hsame, -⟩ := Delimited.first_unique hline hbefore hstream
    rw [← hsame] at hcut hlen
    have hend : (r.fillBuf.buf.take limit).take (pos + 1) = line ++ [newline] := by
      have htake := congrArg (List.take (pos + 1)) hcut
      rw [← hlen, List.take_length_add_append] at htake
      rw [← hlen]
      exact htake
    have hin : pos + 1 ≤ (r.fillBuf.buf.take limit).length := by
      have hsize := congrArg List.length hend
      rw [List.length_take, List.length_append, List.length_singleton, hlen] at hsize
      omega
    rw [List.length_take] at hin
    have huses := uses_fillBuf r (Nat.succ_pos pos) (by omega)
    refine ⟨r.fillBuf.consume (pos + 1), ?_, ?_⟩
    · rw [readUntil, if_neg hpos, if_neg hbuf, hfound, ← hend]
    · rw [← hend, List.take_take, Nat.min_eq_left (by omega)]
      exact huses
  | case4 r limit raw hpos hbuf hnone ih =>
    have hbufpos := List.length_pos_iff.mpr hbuf
    have hsize : (r.fillBuf.buf.take limit).length = min limit r.fillBuf.buf.length :=
      List.length_take
    have htake : r.fillBuf.buf.take (r.fillBuf.buf.take limit).length =
        r.fillBuf.buf.take limit := by
      rw [hsize, List.take_eq_take_iff]
      omega
    have huses := @uses_fillBuf r (r.fillBuf.buf.take limit).length (by omega) (by omega)
    rw [htake] at huses
    have hstream := huses.pending
    rw [hpending] at hstream
    obtain ⟨line', rfl, hline', hlater⟩ :=
      chunk_begins_line (findIdx?_newline_none hnone) hline hstream.symm
    rw [List.length_append] at hlimit
    obtain ⟨r', hread, huses'⟩ := ih hline' hlater (by omega)
    refine ⟨r', ?_, ?_⟩
    · rw [readUntil, if_neg hpos, if_neg hbuf, hnone]
      rw [List.append_assoc] at hread
      rw [List.append_assoc]
      exact hread
    · rw [List.append_assoc]
      exact huses.trans huses'

/-- A line within the cap is returned whole. -/
theorem readLineCapped_line {r : BufReader} {cap : Nat} {line rest : List UInt8}
    (hline : newline ∉ line) (hpending : r.pending = line ++ newline :: rest)
    (hcap : line.length + 1 ≤ cap) :
    ∃ r', readLineCapped r cap =
        .ok (fromUtf8Lossy (line ++ [newline]), (line ++ [newline]).length, r') ∧
      Uses r (line ++ [newline]) r' := by
  obtain ⟨r', hread, huses⟩ := @readUntil_line r (cap + 1) [] line rest hline hpending (by omega)
  rw [List.nil_append] at hread
  refine ⟨r', ?_, huses⟩
  rw [readLineCapped, hread, if_neg]
  rw [List.length_append, List.length_singleton]
  omega

/-- The bytes of the line that ends the head. -/
theorem isBlankLine_iff {line : List UInt8} :
    isBlankLine (fromUtf8Lossy (line ++ [newline])) = true ↔ line = [] ∨ line = [13] := by
  constructor
  · intro h
    rcases Bool.or_eq_true_iff.mp h with htwo | hone
    · obtain ⟨b, rest, hbytes, hb, hrest⟩ :=
        fromUtf8Lossy_eq_cons (by decide) (eq_of_beq htwo)
      obtain ⟨b', rfl, -⟩ := fromUtf8Lossy_eq_singleton (by decide) hrest
      have hline : line = [b] := (@List.append_inj' _ line [newline] [b] [b'] hbytes rfl).1
      exact .inr (hline.trans (congrArg (fun b => [b]) (UInt8.toNat_inj.mp hb)))
    · obtain ⟨b, hbytes, -⟩ := fromUtf8Lossy_eq_singleton (by decide) (eq_of_beq hone)
      exact .inl (@List.append_inj' _ line [newline] [] [b] hbytes rfl).1
  · rintro (rfl | rfl) <;> rfl

/-- The call on a blank line is the last of `drain_headers`. -/
theorem drainHeaders_blank {r r' : BufReader} {total : Nat} {blank : List UInt8}
    (hblank : blank = [] ∨ blank = [13])
    (hread : readLineCapped r (maxHeadBytes - total) =
      .ok (fromUtf8Lossy (blank ++ [newline]), (blank ++ [newline]).length, r')) :
    drainHeaders r total = .ok r' := by
  unfold drainHeaders
  rw [hread]
  dsimp only
  rw [if_neg (by simp), if_pos (isBlankLine_iff.mpr hblank)]

/-- The call on a header goes on behind it. -/
theorem drainHeaders_header {r r' : BufReader} {total : Nat} {header : List UInt8}
    (hheader : header ≠ [] ∧ header ≠ [13])
    (hcap : total + (header ++ [newline]).length < maxHeadBytes)
    (hread : readLineCapped r (maxHeadBytes - total) =
      .ok (fromUtf8Lossy (header ++ [newline]), (header ++ [newline]).length, r')) :
    drainHeaders r total = drainHeaders r' (total + (header ++ [newline]).length) := by
  have hno : ¬ isBlankLine (fromUtf8Lossy (header ++ [newline])) = true := by
    rw [isBlankLine_iff, not_or]
    exact hheader
  conv => lhs; unfold drainHeaders
  rw [hread]
  dsimp only
  rw [if_neg (by simp), if_neg hno, if_neg (Nat.not_le.mpr hcap)]

/-- **The headers are used up with the blank line behind them**, and nothing else. -/
theorem drainHeaders_uses {headers : List (List UInt8)} {blank rest : List UInt8}
    (hheaders : ∀ header ∈ headers, newline ∉ header ∧ header ≠ [] ∧ header ≠ [13])
    (hblank : blank = [] ∨ blank = [13]) {r : BufReader} {total : Nat}
    (hpending : r.pending = Delimited.join newline headers (blank ++ [newline]) ++ rest)
    (hcap : total + (Delimited.join newline headers (blank ++ [newline])).length ≤ maxHeadBytes) :
    ∃ r', drainHeaders r total = .ok r' ∧
      Uses r (Delimited.join newline headers (blank ++ [newline])) r' := by
  induction headers generalizing r total with
  | nil =>
    have hno : newline ∉ blank := by
      rcases hblank with rfl | rfl <;> decide
    have hstream : r.pending = blank ++ newline :: rest := by
      rw [hpending]
      simp [Delimited.join]
    have hsize : total + (blank.length + 1) ≤ maxHeadBytes := by
      simpa [Delimited.join] using hcap
    obtain ⟨r', hread, huses⟩ :=
      @readLineCapped_line r (maxHeadBytes - total) blank rest hno hstream (by omega)
    exact ⟨r', drainHeaders_blank hblank hread, huses⟩
  | cons header headers ih =>
    obtain ⟨hheader, hothers⟩ := List.forall_mem_cons.mp hheaders
    rw [Delimited.join_cons] at hpending hcap ⊢
    have hlast : 1 ≤ (Delimited.join newline headers (blank ++ [newline])).length := by
      simp only [Delimited.join, List.length_append, List.length_singleton]
      omega
    rw [List.length_append, List.length_cons] at hcap
    rw [List.append_assoc, List.cons_append] at hpending
    obtain ⟨r', hread, huses⟩ := @readLineCapped_line r (maxHeadBytes - total) header _ hheader.1
      hpending (by omega)
    have hsize : (header ++ [newline]).length = header.length + 1 := List.length_append
    have hrest := huses.pending
    rw [hpending, List.append_cons, List.append_cancel_left_eq] at hrest
    obtain ⟨r'', hdrain, huses'⟩ := @ih hothers r' (total + (header ++ [newline]).length)
      hrest.symm (by omega)
    refine ⟨r'', ?_, ?_⟩
    · rw [drainHeaders_header hheader.2 (by omega) hread]
      exact hdrain
    · rw [List.append_cons]
      exact huses.trans huses'

/-! ## The request -/

/-- `parse_authority`: `host:port` or `[ipv6]:port`. -/
def parseAuthority (target : String) : Option (String × UInt16) :=
  match stripPrefix "[" (trim target) with
  | some rest =>
    (splitOnce ']' rest).bind fun hostAfter =>
      (stripPrefix ":" hostAfter.2).bind fun text =>
        (parseU16 text).bind fun port =>
          if hostAfter.1.isEmpty || port == 0 then none else some (hostAfter.1, port)
  | none =>
    (rsplitOnce ':' (trim target)).bind fun hostText =>
      (parseU16 hostText.2).bind fun port =>
        if hostText.1.isEmpty || port == 0 then none else some (hostText.1, port)

/-- The method of a request line. -/
def requestMethod (requestLine : List Char) : List Char := (nextWord (trimEnd requestLine)).1

/-- The target of a request line. -/
def requestTarget (requestLine : List Char) : String :=
  String.ofList (nextWord (nextWord (trimEnd requestLine)).2).1

/-! ## The replies -/

/-- `MAX_ERROR_HEADER_LEN`. -/
def maxErrorHeaderLen : Nat := 256

/-- `sanitize_header_value`. -/
def sanitizeHeaderValue (err : String) : String :=
  trim (String.ofList ((err.toList.map fun c => if isControl c then ' ' else c).take
    maxErrorHeaderLen))

/-- `write_connect_error`. -/
def connectError (err : String) : String :=
  "HTTP/1.1 500 Internal Server Error\r\nTailscale-Connect-Error: " ++ sanitizeHeaderValue err ++
    "\r\nConnection: close\r\nContent-Length: 0\r\n\r\n"

/-- `write_simple_status`. -/
def simpleStatus (code : Nat) (reason body : String) : String :=
  s!"HTTP/1.1 {code} {reason}\r\nContent-Length: {body.utf8ByteSize}\r\nConnection: close" ++
    "\r\n\r\n" ++ body

/-- What a method other than `CONNECT` is answered with. -/
def notImplementedBody : String :=
  "501 Not Implemented: this proxy currently supports only the CONNECT method (HTTPS tunneling). " ++
    "Plain absolute-form HTTP forwarding is not yet implemented (tsd-httpfwd); use CONNECT, or " ++
    "the SOCKS5 proxy (--socks5-server)."

/-- The line that opens a tunnel. -/
def okReply : String := "HTTP/1.1 200 OK\r\n\r\n"

/-! ## The connection -/

/-- `HeadOutcome`: a tunnel holds the client's socket, here what it will still give. -/
inductive HeadOutcome where
  | tunnel (client : List (List UInt8))
  | done

/-- `BufReader::new`: nothing is buffered. -/
def BufReader.new (chunks : List (List UInt8)) (h : ∀ chunk ∈ chunks, chunk ≠ []) : BufReader :=
  ⟨[], chunks, h⟩

/-- `BufReader::into_inner`: the socket; what was buffered is dropped. -/
def BufReader.intoInner (r : BufReader) : List (List UInt8) := r.chunks

/-- `Device::connect_by_name`: the overlay stream, or why there is none. -/
abbrev ConnectByName := String → UInt16 → Except String Unit

/-- `handle_connect`: what is written to the client, and how the head resolved.  There is no device
    when the node is down. -/
def handleConnect (device : Option ConnectByName) (r : BufReader) (target : String) :
    String × Except String HeadOutcome :=
  match parseAuthority target with
  | none =>
    (simpleStatus 400 "Bad Request" "bogus CONNECT target (want host:port)",
      .error s!"http-proxy: bad CONNECT target {quoted target}")
  | some (host, port) =>
    match drainHeaders r 0 with
    | .error e => ("", .error e)
    | .ok r' =>
      match device with
      | none =>
        (connectError "node is not up",
          .error s!"http-proxy CONNECT {host}:{port} refused: node is not up")
      | some connect =>
        match connect host port with
        | .ok () => (okReply, .ok (.tunnel r'.intoInner))
        | .error e => (connectError e, .error s!"http-proxy CONNECT {host}:{port} failed: {e}")

/-- `handle_request_head`. -/
def handleRequestHead (device : Option ConnectByName) (client : BufReader) :
    String × Except String HeadOutcome :=
  match readLineCapped client maxHeadBytes with
  | .error e => ("", .error e)
  | .ok (requestLine, n, r) =>
    if n = 0 then ("", .ok .done)
    else if eqIgnoreAsciiCase (requestMethod requestLine) "CONNECT".toList then
      handleConnect device r (requestTarget requestLine)
    else
      (s!"HTTP/1.1 501 Not Implemented\r\nContent-Length: {notImplementedBody.utf8ByteSize}" ++
          "\r\nConnection: close\r\n\r\n" ++ notImplementedBody,
        .error ("http-proxy: non-CONNECT method " ++
          quoted (String.ofList (requestMethod requestLine)) ++
          " not implemented (forward path is tsd-httpfwd)"))

/-- The half of `splice` that goes to the peer: all that the socket still gives. -/
def clientToPeer (client : List (List UInt8)) : List UInt8 := client.flatten

/-- `handle_connection`: the bytes that the overlay connection is given, when there is a tunnel. -/
def handleProxied (device : Option ConnectByName) (client : BufReader) : Option (List UInt8) :=
  match (handleRequestHead device client).2 with
  | .ok (.tunnel socket) => some (clientToPeer socket)
  | _ => none

/-! ## What the tunnel carries -/

/-- The head of a `CONNECT` request within the caps: the request line, the headers and the blank
    line, each without its newline. -/
structure ConnectHead where
  line : List UInt8
  headers : List (List UInt8)
  blank : List UInt8
  host : String
  port : UInt16
  line_whole : newline ∉ line
  headers_whole : ∀ header ∈ headers, newline ∉ header ∧ header ≠ [] ∧ header ≠ [13]
  blank_whole : blank = [] ∨ blank = [13]
  method_connect : eqIgnoreAsciiCase (requestMethod (fromUtf8Lossy (line ++ [newline])))
    "CONNECT".toList = true
  target_parsed : parseAuthority (requestTarget (fromUtf8Lossy (line ++ [newline]))) =
    some (host, port)
  line_fits : line.length + 1 ≤ maxHeadBytes
  headers_fit : (Delimited.join newline headers (blank ++ [newline])).length ≤ maxHeadBytes

/-- The bytes of a head, the blank line included. -/
def ConnectHead.bytes (head : ConnectHead) : List UInt8 :=
  head.line ++ newline :: Delimited.join newline head.headers (head.blank ++ [newline])

/-- A read ends where these bytes end. -/
def CutAt (used : List UInt8) (chunks : List (List UInt8)) : Prop :=
  ∃ before after, chunks = before ++ after ∧ before.flatten = used

/-- **A head that is dialled is used up**, and the socket is what the reader left of it. -/
theorem handleRequestHead_connect (head : ConnectHead) {connect : ConnectByName}
    (hdial : connect head.host head.port = .ok ()) {r : BufReader} {body : List UInt8}
    (hpending : r.pending = head.bytes ++ body) :
    ∃ r', handleRequestHead (some connect) r = (okReply, .ok (.tunnel r'.intoInner)) ∧
      Uses r head.bytes r' := by
  rw [ConnectHead.bytes, List.append_assoc, List.cons_append] at hpending
  obtain ⟨r₁, hline, huses⟩ :=
    readLineCapped_line head.line_whole hpending head.line_fits
  have hrest := huses.pending
  rw [hpending, List.append_cons, List.append_cancel_left_eq] at hrest
  obtain ⟨r₂, hdrain, huses'⟩ := @drainHeaders_uses head.headers head.blank body
    head.headers_whole head.blank_whole r₁ 0 hrest.symm
    (by rw [Nat.zero_add]; exact head.headers_fit)
  refine ⟨r₂, ?_, ?_⟩
  · unfold handleRequestHead
    rw [hline]
    dsimp only
    rw [if_neg (by simp), if_pos head.method_connect]
    unfold handleConnect
    rw [head.target_parsed]
    dsimp only
    rw [hdrain]
    dsimp only
    rw [hdial]
  · have hboth := huses.trans huses'
    rw [← List.append_cons] at hboth
    exact hboth

/-- **No read is made that the bytes used do not need.** -/
theorem reads_needed {reads before after chunks : List (List UInt8)} {used buf : List UInt8}
    (hcut : reads ++ chunks = before ++ after) (hbytes : reads.flatten = used ++ buf)
    (hlast : ∀ last ∈ reads.getLast?, buf.length < last.length)
    (hused : used.length ≤ before.flatten.length) : ∃ more, before = reads ++ more := by
  rcases List.append_eq_append_iff.mp hcut with ⟨more, hmore, -⟩ | ⟨more, hmore, -⟩
  · exact ⟨more, hmore⟩
  · rcases List.eq_nil_or_concat more with rfl | ⟨between, other, rfl⟩
    · rw [List.append_nil] at hmore
      exact ⟨[], by rw [hmore, List.append_nil]⟩
    · -- the last of the reads would lie behind the bytes used
      have hless := hlast other (by rw [hmore]; simp)
      have hsize := congrArg List.length hbytes
      rw [hmore] at hsize
      simp only [List.concat_eq_append, List.flatten_append, List.flatten_singleton,
        List.length_append] at hsize
      omega

/-- **Nothing is buffered exactly when a read ends there.** -/
theorem Uses.buffer_empty_iff {chunks : List (List UInt8)} {h : ∀ chunk ∈ chunks, chunk ≠ []}
    {used : List UInt8} {r' : BufReader} (huses : Uses (.new chunks h) used r') :
    r'.buf = [] ↔ CutAt used chunks := by
  obtain ⟨reads, hchunks, hbytes, hlast⟩ := huses
  have hreads : reads.flatten = used ++ r'.buf := hbytes
  constructor
  · intro hempty
    rw [hempty, List.append_nil] at hreads
    exact ⟨reads, r'.chunks, hchunks, hreads⟩
  · rintro ⟨before, after, hcut, rfl⟩
    obtain ⟨more, rfl⟩ := reads_needed (hchunks.symm.trans hcut) hreads hlast (Nat.le_refl _)
    have hsize := congrArg List.length hreads
    rw [List.flatten_append, List.length_append, List.length_append] at hsize
    exact List.length_eq_zero_iff.mp (by omega)

/-- What is forwarded behind a head that is dialled. -/
theorem handleProxied_connect (head : ConnectHead) {connect : ConnectByName}
    (hdial : connect head.host head.port = .ok ()) {r : BufReader} {body : List UInt8}
    (hpending : r.pending = head.bytes ++ body) :
    ∃ r', handleProxied (some connect) r = some r'.chunks.flatten ∧ Uses r head.bytes r' := by
  obtain ⟨r', hhead, huses⟩ := handleRequestHead_connect head hdial hpending
  refine ⟨r', ?_, huses⟩
  unfold handleProxied
  rw [hhead]
  rfl

/-- **A tunnel is complete exactly when a read of the client's socket ends where the head ends.**
    A head that is dialled is answered with the `200` line, what is forwarded is the end of what
    stands behind the head, and what is missing is what the last read of the head gave of it. -/
theorem tunnel_forwards_iff (head : ConnectHead) (body : List UInt8) (chunks : List (List UInt8))
    (h : ∀ chunk ∈ chunks, chunk ≠ []) (connect : ConnectByName)
    (hstream : chunks.flatten = head.bytes ++ body)
    (hdial : connect head.host head.port = .ok ()) :
    (handleRequestHead (some connect) (.new chunks h)).1 = okReply ∧
    ∃ lost sent, handleProxied (some connect) (.new chunks h) = some sent ∧
      body = lost ++ sent ∧ (sent = body ↔ CutAt head.bytes chunks) := by
  have hpending : (BufReader.new chunks h).pending = head.bytes ++ body := hstream
  obtain ⟨_, hhead, -⟩ := handleRequestHead_connect head hdial hpending
  obtain ⟨r', hsent, huses⟩ := handleProxied_connect head hdial hpending
  have hbody : body = r'.buf ++ r'.chunks.flatten := by
    rw [huses.pending] at hpending
    exact (List.append_cancel_left hpending).symm
  refine ⟨congrArg Prod.fst hhead, r'.buf, r'.chunks.flatten, hsent, hbody, ?_⟩
  rw [← huses.buffer_empty_iff, hbody]
  constructor
  · intro hsame
    exact List.append_left_eq_self.mp hsame.symm
  · intro hempty
    rw [hempty, List.nil_append]

/-- `CONNECT a:1` without headers. -/
def plainHead : ConnectHead where
  line := [67, 79, 78, 78, 69, 67, 84, 32, 97, 58, 49, 13]
  headers := []
  blank := [13]
  host := "a"
  port := 1
  line_whole := by decide
  headers_whole := by decide
  blank_whole := .inr rfl
  method_connect := by decide
  target_parsed := by decide +kernel
  line_fits := by decide
  headers_fit := by decide

/-- The tunnel's first bytes in a read of their own: they are forwarded. -/
theorem tunnel_complete_apart : handleProxied (some fun _ _ => .ok ())
    (.new [plainHead.bytes, [104, 105]] (by decide)) = some [104, 105] := by
  obtain ⟨-, lost, sent, hsent, -, hcut⟩ := tunnel_forwards_iff plainHead [104, 105]
    [plainHead.bytes, [104, 105]] (by decide) (fun _ _ => .ok ()) rfl rfl
  have hsame : sent = [104, 105] := hcut.mpr ⟨[plainHead.bytes], [[104, 105]], rfl, rfl⟩
  rw [hsent, hsame]

/-- **A head that comes in one read with the beginning of its tunnel loses it.** -/
theorem tunnel_lost_in_one_read (head : ConnectHead) (begun : List UInt8)
    (chunks : List (List UInt8)) (h : ∀ chunk ∈ (head.bytes ++ begun) :: chunks, chunk ≠ [])
    {connect : ConnectByName} (hdial : connect head.host head.port = .ok ()) :
    handleProxied (some connect) (.new ((head.bytes ++ begun) :: chunks) h) =
      some chunks.flatten := by
  obtain ⟨r', hsent, reads, hchunks, hbytes, hlast⟩ :=
    @handleProxied_connect head connect hdial (.new ((head.bytes ++ begun) :: chunks) h)
      (begun ++ chunks.flatten) (List.append_assoc head.bytes begun chunks.flatten)
  have hreads : reads.flatten = head.bytes ++ r'.buf := hbytes
  have hcut : reads ++ r'.chunks = [head.bytes ++ begun] ++ chunks := hchunks.symm
  have hused : head.bytes.length ≤ [head.bytes ++ begun].flatten.length := by
    rw [List.flatten_singleton, List.length_append]
    omega
  obtain ⟨more, hmore⟩ := reads_needed hcut hreads hlast hused
  cases reads with
  | nil =>
    have hempty : head.bytes = [] := (List.append_eq_nil_iff.mp hreads.symm).1
    simp [ConnectHead.bytes] at hempty
  | cons first reads =>
    obtain ⟨rfl, hnone⟩ := List.cons.inj hmore
    obtain ⟨rfl, -⟩ := List.append_eq_nil_iff.mp hnone.symm
    rw [hsent, List.append_cancel_left hcut]

/-- The tunnel's first bytes in the read that ends the head: they are lost. -/
theorem tunnel_incomplete_together :
    [plainHead.bytes ++ [104, 105]].flatten = plainHead.bytes ++ [104, 105] ∧
    handleProxied (some fun _ _ => .ok ())
      (.new [plainHead.bytes ++ [104, 105]] (by decide)) = some [] :=
  ⟨rfl, tunnel_lost_in_one_read plainHead [104, 105] [] (by decide) rfl⟩

end Tailnetd
