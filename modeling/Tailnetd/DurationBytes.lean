/-
  The duration reader and writer on the machine: bytes, offsets and 64-bit words.

  `GoDuration` and `DurationText` compute over characters and natural numbers.  The source scans
  bytes, cuts the text at byte offsets, accumulates in `u64` and answers an `i64`; an overflow and
  a cut inside a character are panics there.

  1. **Program** — the same functions with every step that can fail made explicit: `add64` and
     `mul64` overflow, `cut` misses a character boundary.  The sign is put on by the wrapping
     negation of a word, in both directions.

  2. **Refinement (`parseGoDuration64_eq`, `formatGoDuration64_eq`)** — no step ever fails, and the
     machine computes what the natural numbers do.  The guards of `leading_int` keep its value below
     `1 << 63`; the digits after a point come to less than sixteen units, however many there are and
     however their doubles are rounded (`fractionNanos_le`), so the sum stays a word.

  3. **Round trip (`parseGoDuration64_formatGoDuration64`)** — for every word.
-/
import Mathlib.Tactic.Ring
import Mathlib.Tactic.FieldSimp
import Tailnetd.DurationText
import Tailnetd.Lib.Utf8Text

namespace Tailnetd

open Utf8Text

/-! ## Steps that can fail -/

/-- Why the reader gives no duration: it refuses the text, or it fails. -/
inductive DurationFault where
  | refused (text : String)
  /-- An addition or a multiplication of words left their range. -/
  | overflow
  /-- A slice was taken off a character boundary. -/
  | offBoundary
  /-- The loop went round more often than the text has characters. -/
  | endless
deriving DecidableEq, Repr

/-- `a + b`, on `u64`. -/
def add64 (a b : Nat) : Except DurationFault Nat :=
  if a + b < 2 ^ 64 then .ok (a + b) else .error .overflow

/-- `a * b`, on `u64`. -/
def mul64 (a b : Nat) : Except DurationFault Nat :=
  if a * b < 2 ^ 64 then .ok (a * b) else .error .overflow

/-- A slice, or the panic when it is none. -/
def cut : Option (List Char) → Except DurationFault (List Char)
  | some s => .ok s
  | none => .error .offBoundary

/-! ## The reader -/

/-- `u8::is_ascii_digit`. -/
def isDigitByte (b : UInt8) : Bool := 48 ≤ b && b ≤ 57

/-- A byte that ends the name of a unit. -/
def startsNumberByte (b : UInt8) : Bool := b == 46 || isDigitByte b

/-- The loop of `leading_int`: the value, and how many bytes were digits; `none` on an overflow. -/
def leadingIntLoop : Nat → Nat → List UInt8 → Except DurationFault (Option (Nat × Nat))
  | value, idx, [] => .ok (some (value, idx))
  | value, idx, b :: rest =>
    if !isDigitByte b then .ok (some (value, idx))
    else if durationLimit / 10 < value then .ok none
    else do
      let tens ← mul64 value 10
      let next ← add64 tens (b.toNat - 48)
      if durationLimit < next then .ok none else leadingIntLoop next (idx + 1) rest

/-- `leading_int`. -/
def leadingInt64 (s : List Char) : Except DurationFault (Option (Nat × List Char)) := do
  match ← leadingIntLoop 0 0 (bytes s) with
  | none => .ok none
  | some (value, idx) => do
    let rest ← cut (from? idx s)
    .ok (some (value, rest))

/-- The loop of `leading_fraction`. -/
def leadingFractionLoop :
    Nat → ℚ → Bool → Nat → List UInt8 → Except DurationFault (Nat × ℚ × Nat)
  | value, scale, _, idx, [] => .ok (value, scale, idx)
  | value, scale, overflow, idx, b :: rest =>
    if !isDigitByte b then .ok (value, scale, idx)
    else if overflow then leadingFractionLoop value scale true (idx + 1) rest
    else if (durationLimit - 1) / 10 < value then
      leadingFractionLoop value scale true (idx + 1) rest
    else do
      let tens ← mul64 value 10
      let next ← add64 tens (b.toNat - 48)
      if durationLimit < next then leadingFractionLoop value scale true (idx + 1) rest
      else leadingFractionLoop next (Binary64.nearest (scale * 10)) false (idx + 1) rest

/-- `leading_fraction`. -/
def leadingFraction64 (s : List Char) : Except DurationFault (Nat × ℚ × List Char) := do
  let (value, scale, idx) ← leadingFractionLoop 0 1 false 0 (bytes s)
  let rest ← cut (from? idx s)
  .ok (value, scale, rest)

/-- The optional fraction of a number, and whether it has a digit. -/
def readFraction64 (s : List Char) : Except DurationFault (Nat × ℚ × List Char × Bool) := do
  if (bytes s).head? = some 46 then
    let after ← cut (from? 1 s)
    let (frac, scale, rest) ← leadingFraction64 after
    .ok (frac, scale, rest, (bytes after).length != (bytes rest).length)
  else .ok (0, 1, s, false)

/-- `as u64` of a double: out of range it is the largest word. -/
def asU64 (nanos : Nat) : Nat := min nanos (2 ^ 64 - 1)

/-- What the digits after the point add to the number of a group. -/
def addFraction (invalid : DurationFault) (v frac unit : Nat) (scale : ℚ) :
    Except DurationFault Nat :=
  if 0 < frac then do
    let v ← add64 v (asU64 (fractionNanos frac unit scale))
    if durationLimit < v then .error invalid else .ok v
  else .ok v

/-- `total.checked_add(v)`, within the limit. -/
def addTotal (invalid : DurationFault) (total v : Nat) : Except DurationFault Nat :=
  if 2 ^ 64 ≤ total + v then .error invalid
  else if durationLimit < total + v then .error invalid
  else .ok (total + v)

/-- A group from its unit on: the new total, and what follows the group. -/
def readUnit64 (orig : String) (total v frac : Nat) (scale : ℚ) (s : List Char) :
    Except DurationFault (Nat × List Char) := do
  let stop := (bytes s).findIdx startsNumberByte
  if stop = 0 then .error (.refused ("time: missing unit in duration " ++ quoted orig))
  else
    let unitName ← cut (upTo? stop s)
    let rest ← cut (from? stop s)
    match durationUnit unitName with
    | none =>
      .error (.refused ("time: unknown unit " ++ quoted (String.ofList unitName) ++
        " in duration " ++ quoted orig))
    | some unit =>
      let invalid := .refused ("time: invalid duration " ++ quoted orig)
      if durationLimit / unit < v then .error invalid
      else
        let v ← mul64 v unit
        let v ← addFraction invalid v frac unit scale
        let total ← addTotal invalid total v
        .ok (total, rest)

/-- One turn of the group loop. -/
def readGroup64 (orig : String) (total : Nat) (s : List Char) :
    Except DurationFault (Nat × List Char) := do
  let invalid := .refused ("time: invalid duration " ++ quoted orig)
  match (bytes s).head? with
  | none => .error .offBoundary
  | some first =>
    if !startsNumberByte first then .error invalid
    else
      match ← leadingInt64 s with
      | none => .error invalid
      | some (v, rest) =>
        let hadInt := (bytes s).length != (bytes rest).length
        let (frac, scale, rest, hadFrac) ← readFraction64 rest
        if !hadInt && !hadFrac then .error invalid
        else readUnit64 orig total v frac scale rest

/-- The group loop. -/
def parseGroups64 (orig : String) : Nat → Nat → List Char → Except DurationFault Nat
  | _, total, [] => .ok total
  | 0, _, _ :: _ => .error .endless
  | fuel + 1, total, c :: s => do
    let (total, rest) ← readGroup64 orig total (c :: s)
    parseGroups64 orig fuel total rest

/-- `first == b'-' || first == b'+'`, and what follows. -/
def splitSign64 (s : List Char) : Except DurationFault (Bool × List Char) := do
  if (bytes s).head? = some '-'.toUInt8 ∨ (bytes s).head? = some '+'.toUInt8 then
    let rest ← cut (from? 1 s)
    .ok (decide ((bytes s).head? = some '-'.toUInt8), rest)
  else .ok (false, s)

/-- `parse_go_duration`. -/
def parseGoDuration64 (input : String) : Except DurationFault Int64 := do
  let (neg, s) ← splitSign64 input.toList
  let invalid := .refused ("time: invalid duration " ++ quoted input)
  if s = ['0'] then .ok 0
  else if s.isEmpty then .error invalid
  else
    let total ← parseGroups64 input s.length 0 s
    if neg then .ok (-(UInt64.ofNat total).toInt64)
    else if durationLimit - 1 < total then .error invalid
    else .ok (UInt64.ofNat total).toInt64

/-! ## The writer -/

/-- The magnitude of a word, by the wrapping negation: that of the smallest is `1 << 63`. -/
def magnitude64 (d : Int64) : UInt64 := if d < 0 then -d.toUInt64 else d.toUInt64

/-- `format_go_duration`. -/
def formatGoDuration64 (d : Int64) : String :=
  String.ofList (if d < 0 then '-' :: formatMagnitude (magnitude64 d).toNat
    else formatMagnitude (magnitude64 d).toNat)

/-! ## Digits, byte by byte -/

theorem decimalDigit_high {c : Char} (h : 128 ≤ c.toNat) : decimalDigit c = none := by
  have hnine : ¬ c ≤ '9' := by
    intro hle
    have hnat : c.toNat ≤ '9'.toNat := UInt32.le_iff_toNat_le.mp hle
    have h57 : '9'.toNat = 57 := rfl
    omega
  rw [decimalDigit, if_neg fun hrange => hnine hrange.2]

theorem isDigitByte_tests : AsciiTest isDigitByte fun c => (decimalDigit c).isSome := by
  refine ⟨by decide, fun b h => ?_, fun c h => by rw [decimalDigit_high h]; rfl⟩
  unfold isDigitByte
  simp [UInt8.le_iff_toNat_le]
  omega

theorem startsNumberByte_tests : AsciiTest startsNumberByte startsNumber := by
  refine ⟨by decide, fun b h => ?_, fun c h => ?_⟩
  · have hpoint : b ≠ 46 := by
      rintro rfl
      exact absurd h (by decide)
    rw [startsNumberByte, isDigitByte_tests.byte_high b h, beq_false_of_ne hpoint]
    rfl
  · have hpoint : c ≠ '.' := by
      rintro rfl
      exact absurd h (by decide)
    rw [startsNumber, decimalDigit_high h, beq_false_of_ne hpoint]
    rfl

/-- A digit is one byte, of the digit's value above `0`. -/
theorem digit_byte {c : Char} {d : Nat} (h : decimalDigit c = some d) :
    ∃ b, String.utf8EncodeChar c = [b] ∧ isDigitByte b = true ∧ b.toNat - 48 = d ∧ d < 10 := by
  have hpass : (fun c => (decimalDigit c).isSome) c = true := Option.isSome_of_eq_some h
  obtain ⟨-, b, henc, hbyte, htest⟩ := isDigitByte_tests.pass hpass
  unfold decimalDigit at h
  split at h
  · next hrange =>
    obtain rfl := Option.some.inj h
    have hnine : c.toNat ≤ '9'.toNat := UInt32.le_iff_toNat_le.mp hrange.2
    have h57 : '9'.toNat = 57 := rfl
    exact ⟨b, henc, htest, by rw [hbyte], by omega⟩
  · cases h

/-- The bytes of a text that begins with no digit begin with none. -/
theorem bytes_no_digit {c : Char} (h : decimalDigit c = none) (s : List Char) :
    ∃ b rest, bytes (c :: s) = b :: rest ∧ isDigitByte b = false := by
  obtain ⟨b, after, hb, -⟩ := first_byte c
  refine ⟨b, after ++ bytes s, by rw [bytes_cons, hb, List.cons_append], ?_⟩
  rw [isDigitByte_tests.first hb]
  exact Option.isSome_eq_false_iff.mpr (Option.isNone_iff_eq_none.mpr h)

/-- What `leading_int` leaves is what stands behind some digits. -/
theorem leadingInt_split {value v : Nat} {s rest : List Char}
    (h : leadingInt value s = some (v, rest)) :
    ∃ ds, s = ds ++ rest ∧ ∀ c ∈ ds, (decimalDigit c).isSome := by
  induction s generalizing value with
  | nil =>
    cases h
    exact ⟨[], rfl, fun c hc => absurd hc List.not_mem_nil⟩
  | cons c s ih =>
    rw [leadingInt] at h
    cases hd : decimalDigit c with
    | none =>
      rw [hd] at h
      cases h
      exact ⟨[], rfl, fun c hc => absurd hc List.not_mem_nil⟩
    | some d =>
      rw [hd] at h
      dsimp only at h
      split at h
      · cases h
      split at h
      · cases h
      obtain ⟨ds, rfl, hds⟩ := ih h
      exact ⟨c :: ds, rfl, List.forall_mem_cons.mpr ⟨Option.isSome_of_eq_some hd, hds⟩⟩

theorem leadingFraction_split (value : Nat) (scale : ℚ) (overflow : Bool) (s : List Char) :
    ∃ ds, s = ds ++ (leadingFraction value scale overflow s).2.2 ∧
      ∀ c ∈ ds, (decimalDigit c).isSome := by
  induction s generalizing value scale overflow with
  | nil => exact ⟨[], rfl, fun c hc => absurd hc List.not_mem_nil⟩
  | cons c s ih =>
    rw [leadingFraction]
    cases hd : decimalDigit c with
    | none => exact ⟨[], rfl, fun c hc => absurd hc List.not_mem_nil⟩
    | some d =>
      dsimp only
      split
      · obtain ⟨ds, hsplit, hds⟩ := ih value scale true
        exact ⟨c :: ds, congrArg (c :: ·) hsplit,
          List.forall_mem_cons.mpr ⟨Option.isSome_of_eq_some hd, hds⟩⟩
      · obtain ⟨ds, hsplit, hds⟩ := ih (value * 10 + d) (Binary64.nearest (scale * 10)) false
        exact ⟨c :: ds, congrArg (c :: ·) hsplit,
          List.forall_mem_cons.mpr ⟨Option.isSome_of_eq_some hd, hds⟩⟩

/-- A text is cut behind digits by their number. -/
theorem from?_digits {ds rest : List Char} (hds : ∀ c ∈ ds, (decimalDigit c).isSome) :
    from? ((ds ++ rest).length - rest.length) (ds ++ rest) = some rest ∧
      (bytes ds).length = ds.length := by
  have hlen : (bytes ds).length = ds.length := by
    refine bytes_length_of_ascii fun c hc => ?_
    exact (isDigitByte_tests.pass (hds c hc)).1
  refine ⟨?_, hlen⟩
  rw [List.length_append, Nat.add_sub_cancel, ← hlen]
  exact from?_append ds rest

/-! ## No step fails -/

theorem durationLimit_eq : durationLimit = 2 ^ 63 := rfl

theorem leadingIntLoop_eq (value idx : Nat) (s : List Char) :
    leadingIntLoop value idx (bytes s) =
      .ok ((leadingInt value s).map fun r => (r.1, idx + (s.length - r.2.length))) := by
  induction s generalizing value idx with
  | nil => rfl
  | cons c s ih =>
    cases hd : decimalDigit c with
    | none =>
      obtain ⟨b, rest, hbytes, hfail⟩ := bytes_no_digit hd s
      rw [hbytes, leadingIntLoop, hfail, leadingInt, hd]
      simp
    | some d =>
      obtain ⟨b, henc, hpass, hvalue, hlt⟩ := digit_byte hd
      rw [bytes_cons, henc, List.singleton_append, leadingIntLoop, hpass, leadingInt, hd]
      dsimp only
      by_cases hguard : durationLimit / 10 < value
      · rw [if_neg (by decide), if_pos hguard, if_pos hguard]
        rfl
      have hlimit := durationLimit_eq
      have htens : mul64 value 10 = .ok (value * 10) := if_pos (by omega)
      have hnext : add64 (value * 10) d = .ok (value * 10 + d) := if_pos (by omega)
      rw [if_neg (by decide), if_neg hguard, if_neg hguard, hvalue, htens]
      simp only [bind, Except.bind, hnext]
      by_cases hover : durationLimit < value * 10 + d
      · rw [if_pos hover, if_pos hover]
        rfl
      rw [if_neg hover, if_neg hover, ih]
      cases hread : leadingInt (value * 10 + d) s with
      | none => rfl
      | some r =>
        have hle : r.2.length ≤ s.length := leadingInt_length hread
        simp only [Option.map_some, List.length_cons]
        congr 3
        omega

/-- **`leading_int` never overflows** and cuts behind the digits. -/
theorem leadingInt64_eq (s : List Char) : leadingInt64 s = .ok (leadingInt 0 s) := by
  rw [leadingInt64, leadingIntLoop_eq]
  cases hread : leadingInt 0 s with
  | none => rfl
  | some r =>
    obtain ⟨v, rest⟩ := r
    obtain ⟨ds, rfl, hds⟩ := leadingInt_split hread
    have hcut := (@from?_digits ds rest hds).1
    simp only [Option.map_some, bind, Except.bind, Nat.zero_add, hcut, cut]

theorem leadingFractionLoop_eq (value : Nat) (scale : ℚ) (overflow : Bool) (idx : Nat)
    (s : List Char) :
    leadingFractionLoop value scale overflow idx (bytes s) =
      .ok ((leadingFraction value scale overflow s).1,
        (leadingFraction value scale overflow s).2.1,
        idx + (s.length - (leadingFraction value scale overflow s).2.2.length)) := by
  induction s generalizing value scale overflow idx with
  | nil => rfl
  | cons c s ih =>
    cases hd : decimalDigit c with
    | none =>
      obtain ⟨b, rest, hbytes, hfail⟩ := bytes_no_digit hd s
      rw [hbytes, leadingFractionLoop, hfail, leadingFraction, hd]
      simp
    | some d =>
      obtain ⟨b, henc, hpass, hvalue, hlt⟩ := digit_byte hd
      have hcount {value : Nat} {scale : ℚ} {overflow : Bool} :
          idx + 1 + (s.length - (leadingFraction value scale overflow s).2.2.length) =
            idx + ((c :: s).length - (leadingFraction value scale overflow s).2.2.length) := by
        have hle := leadingFraction_length value scale overflow s
        rw [List.length_cons]
        omega
      rw [bytes_cons, henc, List.singleton_append, leadingFractionLoop, hpass, leadingFraction, hd]
      dsimp only
      rw [if_neg (by decide)]
      cases overflow with
      | true =>
        rw [if_pos rfl, Bool.true_or, Bool.true_or, if_pos rfl, ih, hcount]
      | false =>
        rw [if_neg (by decide), Bool.false_or]
        by_cases hguard : (durationLimit - 1) / 10 < value
        · rw [if_pos hguard, decide_eq_true hguard, Bool.true_or, if_pos rfl, ih, hcount]
        have hlimit := durationLimit_eq
        have htens : mul64 value 10 = .ok (value * 10) := if_pos (by omega)
        have hnext : add64 (value * 10) d = .ok (value * 10 + d) := if_pos (by omega)
        rw [if_neg hguard, decide_eq_false hguard, Bool.false_or, hvalue, htens]
        simp only [bind, Except.bind, hnext]
        by_cases hover : durationLimit < value * 10 + d
        · rw [if_pos hover, if_pos (decide_eq_true hover), ih, hcount]
        · rw [if_neg hover, if_neg (by simpa using hover), ih, hcount]

theorem leadingFraction64_eq (s : List Char) :
    leadingFraction64 s = .ok (leadingFraction 0 1 false s) := by
  obtain ⟨ds, hsplit, hds⟩ := leadingFraction_split 0 1 false s
  have hcut := (@from?_digits ds (leadingFraction 0 1 false s).2.2 hds).1
  rw [← hsplit] at hcut
  rw [leadingFraction64, leadingFractionLoop_eq]
  simp only [bind, Except.bind, Nat.zero_add, hcut, cut]

/-- A text begins with an ASCII character when its bytes begin with that character's. -/
theorem head?_bytes_eq_iff {s : List Char} {d : Char} (hd : d.toNat < 128) :
    (bytes s).head? = some d.toUInt8 ↔ ∃ rest, s = d :: rest := by
  cases s with
  | nil => simp
  | cons c s =>
    obtain ⟨b, after, hb, -⟩ := first_byte c
    rw [bytes_cons, hb, List.cons_append, List.head?_cons, Option.some.injEq,
      first_byte_eq_iff hb hd]
    simp

/-- An ASCII character in front is cut off by its byte. -/
theorem from?_ascii {c : Char} (hc : c.toNat < 128) (s : List Char) :
    from? 1 (c :: s) = some s := by
  have hlen : (bytes [c]).length = 1 :=
    bytes_length_of_ascii (s := [c]) (by simpa using hc)
  rw [← hlen]
  exact from?_append [c] s

theorem readFraction64_eq (s : List Char) : readFraction64 s = .ok (readFraction s) := by
  have hpoint : (bytes s).head? = some 46 ↔ ∃ rest, s = '.' :: rest :=
    @head?_bytes_eq_iff s '.' (by decide)
  unfold readFraction64
  by_cases hhead : (bytes s).head? = some 46
  · obtain ⟨after, rfl⟩ := hpoint.mp hhead
    obtain ⟨ds, hsplit, hds⟩ := leadingFraction_split 0 1 false after
    have hlen := (@from?_digits ds (leadingFraction 0 1 false after).2.2 hds).2
    -- the bytes shrink exactly when the characters do
    have hhad : ((bytes after).length != (bytes (leadingFraction 0 1 false after).2.2).length) =
        decide ((leadingFraction 0 1 false after).2.2.length < after.length) := by
      have hbytes : (bytes after).length =
          ds.length + (bytes (leadingFraction 0 1 false after).2.2).length := by
        conv_lhs => rw [hsplit]
        rw [bytes_append, List.length_append, hlen]
      have hchars : after.length = ds.length + (leadingFraction 0 1 false after).2.2.length := by
        conv_lhs => rw [hsplit]
        rw [List.length_append]
      rw [Bool.eq_iff_iff, bne_iff_ne, decide_eq_true_iff]
      omega
    rw [if_pos hhead, from?_ascii (by decide)]
    simp only [cut, bind, Except.bind, leadingFraction64_eq, hhad, readFraction]
  · rw [if_neg hhead]
    have hnone : ∀ rest, s ≠ '.' :: rest := fun rest hs => hhead (hpoint.mpr ⟨rest, hs⟩)
    cases s with
    | nil => rfl
    | cons c s =>
      have hc : c ≠ '.' := fun heq => hnone s (heq ▸ rfl)
      rw [readFraction]
      intro after hafter
      exact hc (List.cons.inj hafter).1

/-! ## The size of a fraction -/

/-- How much of a number a rounding keeps. -/
def keptShare : ℚ := 1 - 1 / 2 ^ 52

/-- The scale keeps up with the digits: it is above them but for the roundings since the first
    digit that is not zero, and these are as many as the digits have. -/
def Scaled (value : Nat) (scale : ℚ) : Prop :=
  ∃ n, (10 ^ n ≤ 10 * value ∨ n = 0) ∧ ((value : ℚ) + 1) * keptShare ^ n ≤ scale

theorem kept_pos : 0 < keptShare := by norm_num [keptShare]

theorem kept_le_one : keptShare ≤ 1 := by norm_num [keptShare]

theorem nearest_ge_kept {q : ℚ} (h : 0 < q) : q * keptShare ≤ Binary64.nearest q := by
  have hclose := (Binary64.nearest_close h).1
  calc q * keptShare = q - q / 2 ^ 52 := by rw [keptShare]; ring
    _ ≤ Binary64.nearest q := hclose

theorem Scaled.pos {value : Nat} {scale : ℚ} (h : Scaled value scale) : 0 < scale := by
  obtain ⟨n, -, hscale⟩ := h
  have hpow : 0 < keptShare ^ n := pow_pos kept_pos n
  have hleft : 0 < ((value : ℚ) + 1) * keptShare ^ n := by positivity
  exact lt_of_lt_of_le hleft hscale

/-- One more digit. -/
theorem Scaled.step {value d : Nat} {scale : ℚ} (h : Scaled value scale) (hd : d < 10) :
    Scaled (value * 10 + d) (Binary64.nearest (scale * 10)) := by
  have hround := nearest_ge_kept (q := scale * 10) (by linarith [h.pos])
  obtain ⟨n, hcount, hscale⟩ := h
  by_cases hzero : value * 10 + d = 0
  · -- still nothing but zeros
    obtain rfl : n = 0 := by
      rcases hcount with hcount | hn
      · have hpow : 0 < 10 ^ n := Nat.pow_pos (by decide)
        omega
      · exact hn
    refine ⟨0, .inr rfl, ?_⟩
    have hvalue : value = 0 := by omega
    rw [hvalue, Nat.cast_zero, zero_add, one_mul, pow_zero] at hscale
    rw [hzero, Nat.cast_zero, zero_add, one_mul, pow_zero]
    have hten : scale * 10 * keptShare ≤ Binary64.nearest (scale * 10) := hround
    have hkept : (1 : ℚ) / 2 ≤ keptShare := by norm_num [keptShare]
    nlinarith
  · refine ⟨n + 1, .inl ?_, ?_⟩
    · rw [pow_succ]
      rcases hcount with hcount | rfl
      · omega
      · rw [pow_zero]
        omega
    · have hdigit : (d : ℚ) + 1 ≤ 10 := by exact_mod_cast hd
      have hpow : 0 ≤ keptShare ^ (n + 1) := (pow_pos kept_pos _).le
      calc (((value * 10 + d : Nat) : ℚ) + 1) * keptShare ^ (n + 1)
          ≤ (((value : ℚ) + 1) * 10) * keptShare ^ (n + 1) := by
            refine mul_le_mul_of_nonneg_right ?_ hpow
            push_cast
            linarith
        _ = (((value : ℚ) + 1) * keptShare ^ n) * 10 * keptShare := by rw [pow_succ]; ring
        _ ≤ scale * 10 * keptShare := by
            refine mul_le_mul_of_nonneg_right ?_ kept_pos.le
            linarith
        _ ≤ Binary64.nearest (scale * 10) := hround

/-- The scale is half the digits at least, however long the fraction is. -/
theorem Scaled.half {value : Nat} {scale : ℚ} (h : Scaled value scale)
    (hlimit : value ≤ durationLimit) : (value : ℚ) ≤ 2 * scale := by
  obtain ⟨n, hcount, hscale⟩ := h
  have hn : n ≤ 19 := by
    rcases hcount with hcount | rfl
    · by_contra hmore
      have hpow : 10 ^ 20 ≤ 10 ^ n := Nat.pow_le_pow_right (by decide) (by omega)
      have heq := durationLimit_eq
      omega
    · exact Nat.zero_le _
  have hkept : (1 : ℚ) / 2 ≤ keptShare ^ n := by
    calc (1 : ℚ) / 2 ≤ keptShare ^ 19 := by norm_num [keptShare]
      _ ≤ keptShare ^ n := pow_le_pow_of_le_one kept_pos.le kept_le_one hn
  have hvalue : (0 : ℚ) ≤ value := Nat.cast_nonneg value
  nlinarith

theorem leadingFraction_scaled {value : Nat} {scale : ℚ} (overflow : Bool) (s : List Char)
    (hlimit : value ≤ durationLimit) (h : Scaled value scale) :
    (leadingFraction value scale overflow s).1 ≤ durationLimit ∧
      Scaled (leadingFraction value scale overflow s).1
        (leadingFraction value scale overflow s).2.1 := by
  induction s generalizing value scale overflow with
  | nil => exact ⟨hlimit, h⟩
  | cons c s ih =>
    rw [leadingFraction]
    cases hd : decimalDigit c with
    | none => exact ⟨hlimit, h⟩
    | some d =>
      obtain ⟨-, -, -, -, hlt⟩ := digit_byte hd
      dsimp only
      split
      · exact ih true hlimit h
      · next hgo =>
        have hfits : ¬ durationLimit < value * 10 + d := by
          intro hover
          rw [decide_eq_true hover, Bool.or_true] at hgo
          exact hgo rfl
        exact ih false (by omega) (h.step hlt)

/-- **A fraction comes to less than a few units**, with every rounding on the way. -/
theorem fractionNanos_le {frac unit : Nat} {scale : ℚ} (hscale : 0 < scale)
    (hhalf : (frac : ℚ) ≤ 2 * scale) : fractionNanos frac unit scale ≤ 32 * unit := by
  unfold fractionNanos
  split
  swap
  · exact Nat.zero_le _
  have hunit : (0 : ℚ) ≤ unit := Nat.cast_nonneg unit
  have hfrac : (0 : ℚ) ≤ frac := Nat.cast_nonneg frac
  have hfirst : Binary64.nearest frac ≤ 2 * (2 * scale) :=
    (Binary64.nearest_le_double hfrac).trans (by linarith)
  have hquotient : Binary64.nearest (Binary64.nearest unit / scale) ≤ 2 * (2 * unit / scale) := by
    refine (Binary64.nearest_le_double ?_).trans ?_
    · exact div_nonneg (Binary64.nearest_nonneg _) hscale.le
    · have hle := div_le_div_of_nonneg_right (Binary64.nearest_le_double hunit) hscale.le
      linarith
  have hproduct : Binary64.nearest frac * Binary64.nearest (Binary64.nearest unit / scale) ≤
      16 * unit := by
    calc Binary64.nearest frac * Binary64.nearest (Binary64.nearest unit / scale)
        ≤ (2 * (2 * scale)) * (2 * (2 * unit / scale)) :=
          mul_le_mul hfirst hquotient (Binary64.nearest_nonneg _) (by linarith)
      _ = 16 * unit := by field_simp; ring
  have hround : Binary64.nearest (Binary64.nearest frac *
      Binary64.nearest (Binary64.nearest unit / scale)) ≤ ((32 * unit : Nat) : ℚ) := by
    refine (Binary64.nearest_le_double ?_).trans ?_
    · exact mul_nonneg (Binary64.nearest_nonneg _) (Binary64.nearest_nonneg _)
    · push_cast
      linarith
  have hfloor := Int.floor_le_floor hround
  rw [Int.floor_natCast] at hfloor
  omega

/-- The digits of a fraction and their scale are such that they come to a small number. -/
theorem readFraction_small (s : List Char) (unit : Nat) :
    fractionNanos (readFraction s).1 unit (readFraction s).2.1 ≤ 32 * unit := by
  have hone : Scaled 0 1 := ⟨0, .inr rfl, by norm_num⟩
  unfold readFraction
  split
  · next after =>
    obtain ⟨hlimit, hscaled⟩ := leadingFraction_scaled false after (Nat.zero_le _) hone
    exact fractionNanos_le hscaled.pos (hscaled.half hlimit)
  · exact Nat.zero_le _

/-! ## The groups -/

theorem durationUnit_bounds {name : List Char} {unit : Nat} (h : durationUnit name = some unit) :
    0 < unit ∧ unit ≤ 3600000000000 := by
  unfold durationUnit at h
  split at h <;> cases h <;> decide

/-- The name of a unit ends where the machine finds a byte that starts a number. -/
theorem findIdx_bytes (s : List Char) :
    (bytes s).findIdx startsNumberByte = (bytes (s.takeWhile fun c => !startsNumber c)).length := by
  rw [← startsNumberByte_tests.takeWhile_bytes s, List.takeWhile_eq_take_findIdx_not]
  simp only [Bool.not_not, List.length_take]
  exact (Nat.min_eq_left List.findIdx_le_length).symm

/-- What the turn of the group loop over characters does from the unit on. -/
def readUnit (orig : String) (total v frac : Nat) (scale : ℚ) (s : List Char) :
    Except String (Nat × List Char) :=
  let unitName := s.takeWhile fun c => !startsNumber c
  if unitName.isEmpty then .error ("time: missing unit in duration " ++ quoted orig)
  else
    match durationUnit unitName with
    | none =>
      .error ("time: unknown unit " ++ quoted (String.ofList unitName) ++ " in duration " ++
        quoted orig)
    | some unit =>
      if durationLimit / unit < v then .error ("time: invalid duration " ++ quoted orig)
      else if durationLimit < v * unit + fractionNanos frac unit scale then
        .error ("time: invalid duration " ++ quoted orig)
      else if durationLimit < total + (v * unit + fractionNanos frac unit scale) then
        .error ("time: invalid duration " ++ quoted orig)
      else .ok (total + (v * unit + fractionNanos frac unit scale), s.drop unitName.length)

/-- The machine's answer in place of the other's. -/
def onMachine {α : Type} : Except String α → Except DurationFault α
  | .ok a => .ok a
  | .error e => .error (.refused e)

/-- The fraction is added without an overflow. -/
theorem addFraction_eq {invalid : DurationFault} {v frac unit : Nat} {scale : ℚ}
    (hv : v ≤ durationLimit) (hunit : unit ≤ 3600000000000)
    (hfrac : fractionNanos frac unit scale ≤ 32 * unit) :
    addFraction invalid v frac unit scale =
      if durationLimit < v + fractionNanos frac unit scale then .error invalid
      else .ok (v + fractionNanos frac unit scale) := by
  have hlimit := durationLimit_eq
  unfold addFraction
  by_cases hsome : 0 < frac
  · have hword : asU64 (fractionNanos frac unit scale) = fractionNanos frac unit scale :=
      Nat.min_eq_left (by omega)
    have hadd : add64 v (fractionNanos frac unit scale) =
        .ok (v + fractionNanos frac unit scale) := if_pos (by omega)
    rw [if_pos hsome, hword, hadd]
    rfl
  · have hnone : fractionNanos frac unit scale = 0 := if_neg hsome
    rw [if_neg hsome, hnone, Nat.add_zero, if_neg (by omega)]

theorem addTotal_eq {invalid : DurationFault} {total v : Nat} :
    addTotal invalid total v =
      if durationLimit < total + v then .error invalid else .ok (total + v) := by
  have hlimit := durationLimit_eq
  unfold addTotal
  by_cases hbig : 2 ^ 64 ≤ total + v
  · rw [if_pos hbig, if_pos (by omega)]
  · rw [if_neg hbig]

/-- **A group's number and unit fit in words.** -/
theorem readUnit64_eq (orig : String) (total v frac : Nat) (scale : ℚ) (s : List Char)
    (hfrac : ∀ unit, fractionNanos frac unit scale ≤ 32 * unit) :
    readUnit64 orig total v frac scale s = onMachine (readUnit orig total v frac scale s) := by
  have hsplit : s = (s.takeWhile fun c => !startsNumber c) ++
      s.dropWhile fun c => !startsNumber c := List.takeWhile_append_dropWhile.symm
  unfold readUnit64 readUnit
  rw [findIdx_bytes]
  generalize (s.takeWhile fun c => !startsNumber c) = name at hsplit ⊢
  generalize (s.dropWhile fun c => !startsNumber c) = rest at hsplit
  subst hsplit
  dsimp only
  rw [upTo?_append, from?_append, List.drop_left]
  cases hname : name with
  | nil => rfl
  | cons n ns =>
    rw [← hname]
    have hlen : (bytes name).length ≠ 0 := fun h => by
      rw [bytes_eq_nil h] at hname
      cases hname
    have hne : name.isEmpty = false := by rw [hname]; rfl
    simp only [if_neg hlen, cut, bind, Except.bind, hne, Bool.false_eq_true, if_false]
    cases hunit : durationUnit name with
    | none => rfl
    | some unit =>
      obtain ⟨hpos, hbig⟩ := durationUnit_bounds hunit
      dsimp only
      by_cases hguard : durationLimit / unit < v
      · rw [if_pos hguard, if_pos hguard]
        rfl
      have hlimit := durationLimit_eq
      have hproduct : v * unit ≤ durationLimit :=
        (Nat.mul_le_mul_right unit (not_lt.mp hguard)).trans (Nat.div_mul_le_self _ _)
      have hmul : mul64 v unit = .ok (v * unit) := if_pos (by omega)
      rw [if_neg hguard, if_neg hguard, hmul]
      simp only [addFraction_eq hproduct hbig (hfrac unit)]
      by_cases hvalue : durationLimit < v * unit + fractionNanos frac unit scale
      · rw [if_pos hvalue, if_pos hvalue]
        rfl
      rw [if_neg hvalue, if_neg hvalue]
      simp only [addTotal_eq]
      by_cases htotal : durationLimit < total + (v * unit + fractionNanos frac unit scale)
      · rw [if_pos htotal, if_pos htotal]
        rfl
      · rw [if_neg htotal, if_neg htotal]
        rfl

/-- One turn of the group loop over characters. -/
def readGroup (orig : String) (total : Nat) (c : Char) (s : List Char) :
    Except String (Nat × List Char) :=
  if !startsNumber c then .error ("time: invalid duration " ++ quoted orig)
  else
    match leadingInt 0 (c :: s) with
    | none => .error ("time: invalid duration " ++ quoted orig)
    | some (v, rest) =>
      if !(decimalDigit c).isSome && !(readFraction rest).2.2.2 then
        .error ("time: invalid duration " ++ quoted orig)
      else
        readUnit orig total v (readFraction rest).1 (readFraction rest).2.1
          (readFraction rest).2.2.1

theorem parseGroups_turn (orig : String) (fuel total : Nat) (c : Char) (s : List Char) :
    parseGroups orig (fuel + 1) total (c :: s) =
      (readGroup orig total c s).bind fun r => parseGroups orig fuel r.1 r.2 := by
  rw [parseGroups, readGroup]
  split
  · rfl
  cases leadingInt 0 (c :: s) with
  | none => rfl
  | some read =>
    obtain ⟨v, rest⟩ := read
    dsimp only
    split
    · rfl
    rw [readUnit]
    split
    · rfl
    cases durationUnit ((readFraction rest).2.2.1.takeWhile fun c => !startsNumber c) with
    | none => rfl
    | some unit =>
      dsimp only
      split
      · rfl
      split
      · rfl
      split
      · rfl
      · rfl

/-- `leading_int` takes a byte exactly when the text begins with a digit. -/
theorem leadingInt_takes {c : Char} {s rest : List Char} {v : Nat}
    (h : leadingInt 0 (c :: s) = some (v, rest)) :
    ((bytes (c :: s)).length != (bytes rest).length) = (decimalDigit c).isSome := by
  rw [leadingInt] at h
  cases hd : decimalDigit c with
  | none =>
    rw [hd] at h
    cases h
    simp
  | some d =>
    rw [hd] at h
    dsimp only at h
    split at h
    · cases h
    split at h
    · cases h
    obtain ⟨ds, rfl, -⟩ := leadingInt_split h
    have hpos := c.utf8Size_pos
    rw [bytes_length_cons, bytes_append, List.length_append, Option.isSome_some, bne_iff_ne]
    omega

/-- **A turn over bytes is a turn over characters.** -/
theorem readGroup64_eq (orig : String) (total : Nat) (c : Char) (s : List Char) :
    readGroup64 orig total (c :: s) = onMachine (readGroup orig total c s) := by
  obtain ⟨b, after, hb, -⟩ := first_byte c
  have hhead : (bytes (c :: s)).head? = some b := by
    rw [bytes_cons, hb, List.cons_append, List.head?_cons]
  have hstarts : startsNumberByte b = startsNumber c := startsNumberByte_tests.first hb
  unfold readGroup64 readGroup
  rw [hhead]
  dsimp only
  rw [hstarts]
  by_cases hstart : (!startsNumber c) = true
  · rw [if_pos hstart, if_pos hstart]
    rfl
  rw [if_neg hstart, if_neg hstart, leadingInt64_eq]
  simp only [bind, Except.bind]
  cases hread : leadingInt 0 (c :: s) with
  | none => rfl
  | some read =>
    obtain ⟨v, rest⟩ := read
    dsimp only
    rw [readFraction64_eq, leadingInt_takes hread]
    dsimp only
    split
    · rfl
    · exact readUnit64_eq orig total v _ _ _ (readFraction_small rest)

/-- What is left behind a group is shorter. -/
theorem readGroup_shorter {orig : String} {total total' : Nat} {c : Char} {s rest : List Char}
    (h : readGroup orig total c s = .ok (total', rest)) : rest.length ≤ s.length := by
  unfold readGroup at h
  split at h
  · cases h
  cases hread : leadingInt 0 (c :: s) with
  | none =>
    rw [hread] at h
    cases h
  | some read =>
    obtain ⟨v, behind⟩ := read
    rw [hread] at h
    dsimp only at h
    split at h
    · cases h
    unfold readUnit at h
    dsimp only at h
    split at h
    · cases h
    next hname =>
    cases hunit : durationUnit ((readFraction behind).2.2.1.takeWhile fun c => !startsNumber c) with
    | none =>
      rw [hunit] at h
      cases h
    | some unit =>
      rw [hunit] at h
      dsimp only at h
      split at h
      · cases h
      split at h
      · cases h
      split at h
      · cases h
      obtain ⟨-, rfl⟩ := Prod.mk.inj (Except.ok.inj h)
      have hint := leadingInt_length hread
      have hfraction := readFraction_length behind
      have hsome : ((readFraction behind).2.2.1.takeWhile fun c => !startsNumber c).length ≠ 0 :=
        fun hzero => hname (List.isEmpty_iff.mpr (List.length_eq_zero_iff.mp hzero))
      rw [List.length_cons] at hint
      rw [List.length_drop]
      omega

/-- **The group loop on words** computes what it computes on numbers, and always ends. -/
theorem parseGroups64_eq (orig : String) {fuel : Nat} (total : Nat) {s : List Char}
    (hfuel : s.length ≤ fuel) :
    parseGroups64 orig fuel total s = onMachine (parseGroups orig fuel total s) := by
  induction fuel generalizing total s with
  | zero =>
    obtain rfl := List.length_eq_zero_iff.mp (Nat.le_zero.mp hfuel)
    rfl
  | succ fuel ih =>
    cases s with
    | nil => rfl
    | cons c s =>
      rw [parseGroups64, parseGroups_turn, readGroup64_eq]
      cases hturn : readGroup orig total c s with
      | error e => rfl
      | ok r =>
        have hshorter := readGroup_shorter hturn
        rw [List.length_cons] at hfuel
        exact ih r.1 (hshorter.trans (Nat.le_of_succ_le_succ hfuel))

/-! ## Words with a sign -/

theorem toInt_word {total : Nat} (h : total < durationLimit) :
    (UInt64.ofNat total).toInt64.toInt = total := by
  rw [UInt64.toInt64_ofNat']
  exact Int64.toInt_ofNat_of_lt h

/-- The wrapping negation turns `1 << 63` into the smallest word. -/
theorem toInt_neg_word {total : Nat} (h : total ≤ durationLimit) :
    (-(UInt64.ofNat total).toInt64).toInt = -(total : Int) := by
  rw [UInt64.toInt64_ofNat']
  exact Int64.toInt_neg_ofNat_of_le h

theorem splitSign64_eq (s : List Char) : splitSign64 s = .ok (splitSign s) := by
  have hminus : (bytes s).head? = some '-'.toUInt8 ↔ ∃ rest, s = '-' :: rest :=
    head?_bytes_eq_iff (by decide)
  have hplus : (bytes s).head? = some '+'.toUInt8 ↔ ∃ rest, s = '+' :: rest :=
    head?_bytes_eq_iff (by decide)
  unfold splitSign64
  by_cases hm : (bytes s).head? = some '-'.toUInt8
  · obtain ⟨rest, rfl⟩ := hminus.mp hm
    rw [if_pos (.inl hm), from?_ascii (by decide), decide_eq_true hm]
    rfl
  by_cases hp : (bytes s).head? = some '+'.toUInt8
  · obtain ⟨rest, rfl⟩ := hplus.mp hp
    rw [if_pos (.inr hp), from?_ascii (by decide), decide_eq_false hm]
    rfl
  rw [if_neg (not_or.mpr ⟨hm, hp⟩)]
  unfold splitSign
  split
  · next rest => exact absurd (hminus.mpr ⟨rest, rfl⟩) hm
  · next rest => exact absurd (hplus.mpr ⟨rest, rfl⟩) hp
  · rfl

/-- **The machine reads what the numbers say**: a word that is the duration, or the same refusal;
    it never overflows, never cuts inside a character and always ends. -/
theorem parseGoDuration64_eq (input : String) :
    (∃ d, parseGoDuration64 input = .ok d ∧ parseGoDuration input = .ok d.toInt) ∨
      ∃ e, parseGoDuration64 input = .error (.refused e) ∧ parseGoDuration input = .error e := by
  rw [parseGoDuration64, parseGoDuration, splitSign64_eq]
  generalize splitSign input.toList = sign
  obtain ⟨neg, s⟩ := sign
  simp only [bind, Except.bind]
  by_cases hzero : s = ['0']
  · rw [if_pos hzero, if_pos hzero]
    exact .inl ⟨0, rfl, rfl⟩
  rw [if_neg hzero, if_neg hzero]
  by_cases hempty : s.isEmpty = true
  · rw [if_pos hempty, if_pos hempty]
    exact .inr ⟨_, rfl, rfl⟩
  rw [if_neg hempty, if_neg hempty, parseGroups64_eq input 0 (Nat.le_refl _)]
  cases hgroups : parseGroups input s.length 0 s with
  | error e => exact .inr ⟨e, rfl, rfl⟩
  | ok total =>
    have htotal : total ≤ durationLimit := parseGroups_le (Nat.zero_le _) hgroups
    dsimp only [onMachine]
    cases neg with
    | true =>
      refine .inl ⟨_, if_pos rfl, ?_⟩
      rw [if_pos rfl, toInt_neg_word htotal]
    | false =>
      rw [if_neg Bool.false_ne_true, if_neg Bool.false_ne_true]
      by_cases hover : durationLimit - 1 < total
      · rw [if_pos hover, if_pos hover]
        exact .inr ⟨_, rfl, rfl⟩
      · rw [if_neg hover, if_neg hover]
        refine .inl ⟨_, rfl, ?_⟩
        rw [toInt_word (by have := durationLimit_eq; omega)]

/-- The magnitude of a word is that of its number, for the smallest too. -/
theorem magnitude64_toNat (d : Int64) : (magnitude64 d).toNat = d.toInt.natAbs := by
  have hnat : d.toUInt64.toNat = d.toBitVec.toNat := rfl
  have hint : d.toInt = d.toBitVec.toInt := rfl
  have hcases := BitVec.toInt_eq_toNat_cond d.toBitVec
  have hlt := d.toBitVec.isLt
  have hsize : UInt64.size = 2 ^ 64 := rfl
  have hneg : d < 0 ↔ d.toInt < 0 := by
    rw [Int64.lt_iff_toInt_lt]
    rfl
  unfold magnitude64
  by_cases hsign : d < 0
  · rw [if_pos hsign, UInt64.toNat_neg, hnat, hsize]
    have hnegative := hneg.mp hsign
    rw [hint] at hnegative ⊢
    split at hcases <;> omega
  · rw [if_neg hsign, hnat]
    have hpositive := mt hneg.mpr hsign
    rw [hint] at hpositive ⊢
    split at hcases <;> omega

theorem formatGoDuration64_eq (d : Int64) : formatGoDuration64 d = formatGoDuration d.toInt := by
  have hneg : d < 0 ↔ d.toInt < 0 := by
    rw [Int64.lt_iff_toInt_lt]
    rfl
  rw [formatGoDuration64, formatGoDuration, magnitude64_toNat]
  congr 1
  exact if_congr hneg rfl rfl

/-- **A duration that was written is read back**, for every word. -/
theorem parseGoDuration64_formatGoDuration64 (d : Int64) :
    parseGoDuration64 (formatGoDuration64 d) = .ok d := by
  have hlow : -(durationLimit : Int) ≤ d.toInt := Int64.le_toInt d
  have hhigh : d.toInt < durationLimit := Int64.toInt_lt d
  have hread := parseGoDuration_formatGoDuration hlow hhigh
  rw [formatGoDuration64_eq]
  rcases parseGoDuration64_eq (formatGoDuration d.toInt) with ⟨d', hword, hnumber⟩ | ⟨e, -, hnumber⟩
  · rw [hread] at hnumber
    obtain rfl := Int64.toInt_inj.mp (Except.ok.inj hnumber)
    exact hword
  · rw [hread] at hnumber
    cases hnumber

end Tailnetd
