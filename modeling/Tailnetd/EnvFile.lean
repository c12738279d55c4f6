/-
  The environment file an administrator sets the daemon's own variables in.

  `parse_key_value_env` scans a text of `KEY=value` lines.  Blank lines, comments and lines without
  a key are passed over; a value that begins with a double quote is read as a Go string literal, and
  the first one that is none ends the scan; a line with a NUL byte in its key or its value is left
  out, because `set_var` panics on it.  The literal is read by offsets into its UTF-8 bytes, where
  an offset inside a character is a panic too.

  1. **Program** — `unquoteChar` reads one character or escape and answers how many bytes it took;
     `unquoteGoString` runs it over the text between the quotes; `scanLine` is one pass of the loop
     over the lines and `parseKeyValueEnv` the loop; `applyDiskConfig` sets what was read.

  2. **Specification** — Go's grammar of a double-quoted literal: `Escape text out` says that the
     text is one character or escape and which bytes it stands for, `Rendering text b` that a text
     is a row of them; `LineGives` says what a line is worth, without the program.

  3. **The crux (`unquoteChar_ok_iff`)** — one pass takes exactly one escape of the grammar from the
     front of the text and stops behind it, so the offset it answers is between two characters.
     The scan for ASCII bytes cannot be misled by a longer character, whose bytes are all from 128
     on.
-/
import Tailnetd.Ssh
import Tailnetd.Lib.Radix
import Tailnetd.Lib.Utf8Text

namespace Tailnetd

open Utf8Text

/-! ## One character of a literal -/

/-- Why a literal was not read: it is no literal, or reading it went wrong. -/
inductive UnquoteError where
  | invalidSyntax
  /-- A slice was taken off a character boundary. -/
  | offBoundary
  /-- The loop went round more often than the text has characters. -/
  | endless
deriving DecidableEq, Repr

/-- The escapes of one letter, and the bytes they stand for. -/
def oneByteEscapes : List (Char × UInt8) :=
  [('a', 0x07), ('b', 0x08), ('f', 0x0c), ('n', 0x0a), ('r', 0x0d), ('t', 0x09), ('v', 0x0b),
    ('\\', 0x5c), ('"', 0x22)]

def oneByte (letter : UInt8) : Option UInt8 :=
  (oneByteEscapes.find? (·.1.toUInt8 == letter)).map (·.2)

/-- The escapes of hexadecimal digits, and how many each has. -/
def hexEscapes : List (Char × Nat) := [('x', 2), ('u', 4), ('U', 8)]

def hexDigits (letter : UInt8) : Option Nat :=
  (hexEscapes.find? (·.1.toUInt8 == letter)).map (·.2)

/-- `u8::is_ascii_hexdigit`. -/
def isAsciiHexdigit (b : UInt8) : Bool :=
  (48 ≤ b && b ≤ 57) || (97 ≤ b && b ≤ 102) || (65 ≤ b && b ≤ 70)

/-- `b.is_ascii_digit() && b < b'8'`. -/
def isOctalDigit (b : UInt8) : Bool := (48 ≤ b && b ≤ 57) && b < 56

/-- `char::from_u32`. -/
def charFromU32 (v : Nat) : Option Char :=
  if h : v.isValidChar then some (Char.ofNatAux v h) else none

/-- `ok_or(())?`. -/
def orInvalid {α : Type} : Option α → Except UnquoteError α
  | some a => .ok a
  | none => .error .invalidSyntax

/-- A hexadecimal or Unicode escape of `n` digits. -/
def unquoteHex (letter : UInt8) (n : Nat) (s : List Char) :
    Except UnquoteError (Nat × List UInt8) := do
  let digits ← orInvalid (slice? 2 (2 + n) s)
  if !(bytes digits).all isAsciiHexdigit then .error .invalidSyntax
  else
    let v ← orInvalid (Radix.fromStrRadix 16 (2 ^ 32) digits)
    if letter = 'x'.toUInt8 then .ok (2 + n, [UInt8.ofNat v])
    else
      let ch ← orInvalid (charFromU32 v)
      .ok (2 + n, String.utf8EncodeChar ch)

/-- An escape of three octal digits. -/
def unquoteOctal (s : List Char) : Except UnquoteError (Nat × List UInt8) := do
  let digits ← orInvalid (slice? 1 4 s)
  if !(bytes digits).all isOctalDigit then .error .invalidSyntax
  else
    let v ← orInvalid (Radix.fromStrRadix 8 (2 ^ 32) digits)
    if 255 < v then .error .invalidSyntax else .ok (4, [UInt8.ofNat v])

/-- The escape whose letter begins with the byte `second`. -/
def unquoteEscape (second : UInt8) (s : List Char) : Except UnquoteError (Nat × List UInt8) :=
  match oneByte second with
  | some v => .ok (2, [v])
  | none =>
    match hexDigits second with
    | some n => unquoteHex second n s
    | none =>
      if '0'.toUInt8 ≤ second ∧ second ≤ '7'.toUInt8 then unquoteOctal s else .error .invalidSyntax

/-- `unquote_char`: how many bytes it consumed, and the bytes it appends. -/
def unquoteChar (s : List Char) : Except UnquoteError (Nat × List UInt8) :=
  match bytes s with
  | [] => .error .offBoundary
  | first :: after =>
    if first = '"'.toUInt8 then .error .invalidSyntax
    else if first ≠ '\\'.toUInt8 then do
      let c ← orInvalid s.head?
      .ok (c.utf8Size, (bytes s).take c.utf8Size)
    else
      match after with
      | [] => .error .invalidSyntax
      | second :: _ => unquoteEscape second s

/-- The loop of `unquote_go_string`, which goes round at most `fuel` times. -/
def unquoteRest : Nat → List Char → List UInt8 → Except UnquoteError (List UInt8)
  | _, [], out => .ok out
  | 0, _ :: _, _ => .error .endless
  | fuel + 1, c :: rest, out => do
    let (consumed, read) ← unquoteChar (c :: rest)
    match from? consumed (c :: rest) with
    | none => .error .offBoundary
    | some behind => unquoteRest fuel behind (out ++ read)

/-- `unquote_go_string`. -/
def unquoteGoString (s : List Char) : Except UnquoteError (List UInt8) :=
  if (bytes s).length < 2 ∨ (bytes s).getLast? ≠ some '"'.toUInt8 then .error .invalidSyntax
  else
    match slice? 1 ((bytes s).length - 1) s with
    | none => .error .offBoundary
    | some inner =>
      if '\n' ∈ inner then .error .invalidSyntax else unquoteRest inner.length inner []

/-! ## The lines of the file -/

/-- `Assignment`. -/
structure Assignment where
  key : String
  value : List UInt8
deriving DecidableEq, Repr

/-- `ParseErrorKind`. -/
inductive ParseErrorKind where
  | invalidValue
  | nulByte
deriving DecidableEq, Repr

/-- `ParseError`. -/
structure ParseError where
  lineNumber : Nat
  line : String
  kind : ParseErrorKind
deriving DecidableEq, Repr

/-- `Display` of a `ParseError`. -/
def ParseError.text (e : ParseError) : String :=
  match e.kind with
  | .invalidValue => s!"line {e.lineNumber}: invalid value in line {quoted e.line}: invalid syntax"
  | .nulByte => s!"line {e.lineNumber}: invalid NUL byte in line {quoted e.line}"

/-- `ParsedEnv`. -/
structure ParsedEnv where
  assignments : List Assignment
  skipped : List ParseError
  refusal : Option ParseError
deriving DecidableEq, Repr

/-- What one pass of the loop over the lines does. -/
inductive LineOutcome where
  /-- `continue`, with nothing noted. -/
  | passed
  | refused (e : ParseError)
  | skipped (e : ParseError)
  | assigned (a : Assignment)
deriving DecidableEq, Repr

/-- The value of a line, unquoted when a double quote begins it. -/
def lineValue (value : String) : Except UnquoteError (List UInt8) :=
  if startsWith "\"" value then unquoteGoString value.toList else .ok (bytes value.toList)

/-- A key and a value that were read: set, unless a NUL byte is in one of them. -/
def checkNul (lineNumber : Nat) (line key : String) (value : List UInt8) : LineOutcome :=
  if 0 ∈ bytes key.toList ∨ 0 ∈ value then .skipped ⟨lineNumber, line, .nulByte⟩
  else .assigned ⟨key, value⟩

/-- One pass of the loop over the lines. -/
def scanLine (lineNumber : Nat) (raw : String) : Except UnquoteError LineOutcome :=
  if trim raw = "" ∨ startsWith "#" (trim raw) then .ok .passed
  else
    match splitOnce '=' (trim raw) with
    | none => .ok .passed
    | some (key, value) =>
      if trim key = "" then .ok .passed
      else
        match lineValue (trim value) with
        | .ok read => .ok (checkNul lineNumber (trim raw) (trim key) read)
        | .error .invalidSyntax => .ok (.refused ⟨lineNumber, trim raw, .invalidValue⟩)
        | .error fault => .error fault

/-- The loop over the numbered lines. -/
def scanLines : Nat → List String → ParsedEnv → Except UnquoteError ParsedEnv
  | _, [], parsed => .ok parsed
  | i, raw :: rest, parsed =>
    match scanLine (i + 1) raw with
    | .error fault => .error fault
    | .ok .passed => scanLines (i + 1) rest parsed
    | .ok (.refused e) => .ok { parsed with refusal := some e }
    | .ok (.skipped e) => scanLines (i + 1) rest { parsed with skipped := parsed.skipped ++ [e] }
    | .ok (.assigned a) =>
      scanLines (i + 1) rest { parsed with assignments := parsed.assignments ++ [a] }

/-- `str::lines`, as strings. -/
def envLines (contents : String) : List String := (textLines contents).map String.ofList

/-- `parse_key_value_env`. -/
def parseKeyValueEnv (contents : String) : Except UnquoteError ParsedEnv :=
  scanLines 0 (envLines contents) ⟨[], [], none⟩

/-! ## Go's grammar of a double-quoted literal -/

/-- The text is one character or one escape, and stands for these bytes. -/
inductive Escape : List Char → List UInt8 → Prop
  | plain {c : Char} (hquote : c ≠ '"') (hslash : c ≠ '\\') : Escape [c] (String.utf8EncodeChar c)
  | letter {l : Char} {v : UInt8} (h : (l, v) ∈ oneByteEscapes) : Escape ['\\', l] [v]
  | hex {digits : List Char} {v : Nat} (hlen : digits.length = 2)
      (hv : Radix.value? 16 0 digits = some v) : Escape ('\\' :: 'x' :: digits) [UInt8.ofNat v]
  | octal {digits : List Char} {v : Nat} (hlen : digits.length = 3)
      (hv : Radix.value? 8 0 digits = some v) (hle : v ≤ 255) :
      Escape ('\\' :: digits) [UInt8.ofNat v]
  | shortRune {digits : List Char} {c : Char} (hlen : digits.length = 4)
      (hv : Radix.value? 16 0 digits = some c.toNat) :
      Escape ('\\' :: 'u' :: digits) (String.utf8EncodeChar c)
  | longRune {digits : List Char} {c : Char} (hlen : digits.length = 8)
      (hv : Radix.value? 16 0 digits = some c.toNat) :
      Escape ('\\' :: 'U' :: digits) (String.utf8EncodeChar c)

/-- The text renders these bytes: a row of characters and escapes, in any mix. -/
inductive Rendering : List Char → List UInt8 → Prop
  | nil : Rendering [] []
  | cons {text rest : List Char} {out b : List UInt8} (h : Escape text out)
      (hrest : Rendering rest b) : Rendering (text ++ rest) (out ++ b)

/-- A complete Go literal of these bytes: a rendering without a raw newline, between quotes. -/
def GoLiteral (value : List Char) (b : List UInt8) : Prop :=
  ∃ inner, value = '"' :: (inner ++ ['"']) ∧ '\n' ∉ inner ∧ Rendering inner b

/-! ## One pass reads one escape -/

@[simp] theorem orInvalid_ok {α : Type} {o : Option α} {a : α} :
    orInvalid o = .ok a ↔ o = some a := by
  cases o <;> simp [orInvalid]

/-- What follows a successful step. -/
theorem bind_ok_iff {α β : Type} {x : Except UnquoteError α} {f : α → Except UnquoteError β}
    {b : β} :
    (x >>= f) = .ok b ↔ ∃ a, x = .ok a ∧ f a = .ok b := by
  cases x with
  | error e => simp [bind, Except.bind]
  | ok a => simp [bind, Except.bind]

theorem charFromU32_eq_some_iff {v : Nat} {c : Char} : charFromU32 v = some c ↔ v = c.toNat := by
  unfold charFromU32
  constructor
  · intro h
    by_cases hvalid : v.isValidChar
    · rw [dif_pos hvalid] at h
      obtain rfl := Option.some.inj h
      rfl
    · rw [dif_neg hvalid] at h
      cases h
  · intro h
    subst h
    have hvalid : c.toNat.isValidChar := c.valid
    rw [dif_pos hvalid]
    rfl

/-- A test of bytes for the digits of a radix. -/
abbrev TestsDigit (base : Nat) (test : UInt8 → Bool) : Prop :=
  AsciiTest test fun c => (Radix.digit? base c).isSome

theorem digit_none_high {base : Nat} {c : Char} (h : 128 ≤ c.toNat) :
    (Radix.digit? base c).isSome = false := by
  by_contra hdigit
  have hascii := Radix.ascii_of_digit (Bool.eq_true_of_not_eq_false hdigit)
  omega

theorem isAsciiHexdigit_tests : TestsDigit 16 isAsciiHexdigit := by
  refine ⟨by decide, fun b h => ?_, fun c h => digit_none_high h⟩
  unfold isAsciiHexdigit
  simp [UInt8.le_iff_toNat_le]
  omega

theorem isOctalDigit_tests : TestsDigit 8 isOctalDigit := by
  refine ⟨by decide, fun b h => ?_, fun c h => digit_none_high h⟩
  unfold isOctalDigit
  simp [UInt8.le_iff_toNat_le]
  omega

/-- **The digits of an escape.**  The slice holds `n` digits exactly when `n` digits stand behind
    the letter, and then the parser reads their numeral. -/
theorem digits_ok_iff {base n : Nat} {test : UInt8 → Bool} (htest : TestsDigit base test)
    (hn : 0 < n) (hfit : base ^ n ≤ 2 ^ 32) (front after : List Char) {v : Nat} :
    (∃ digits,
      slice? (bytes front).length ((bytes front).length + n) (front ++ after) = some digits ∧
        (bytes digits).all test = true ∧ Radix.fromStrRadix base (2 ^ 32) digits = some v) ↔
      ∃ digits back, after = digits ++ back ∧ digits.length = n ∧
        Radix.value? base 0 digits = some v := by
  constructor
  · rintro ⟨digits, hslice, hall, hv⟩
    obtain ⟨back, hafter, hlen⟩ := slice?_append_eq_some_iff.mp hslice
    have hdigits := htest.all_iff.mp hall
    have hcount : digits.length = n := by
      rw [← hlen, bytes_length_of_ascii fun c hc => Radix.ascii_of_digit (hdigits c hc)]
    have hne : digits ≠ [] := by
      rintro rfl
      rw [List.length_nil] at hcount
      omega
    rw [Radix.fromStrRadix_of_digits hne hdigits] at hv
    exact ⟨digits, back, hafter, hcount, (Option.filter_eq_some_iff.mp hv).1⟩
  · rintro ⟨digits, back, hafter, hcount, hv⟩
    have hdigits : ∀ c ∈ digits, (Radix.digit? base c).isSome :=
      Radix.value?_isSome_iff.mp (Option.isSome_of_eq_some hv)
    have hlen : (bytes digits).length = n := by
      rw [bytes_length_of_ascii fun c hc => Radix.ascii_of_digit (hdigits c hc), hcount]
    have hne : digits ≠ [] := by
      rintro rfl
      rw [List.length_nil] at hcount
      omega
    have hlt : v < 2 ^ 32 := by
      have hbound := Radix.value?_lt hv
      rw [hcount, Nat.zero_add, Nat.one_mul] at hbound
      exact Nat.lt_of_lt_of_le hbound hfit
    refine ⟨digits, slice?_append_eq_some_iff.mpr ⟨back, hafter, hlen⟩,
      htest.all_iff.mpr hdigits, ?_⟩
    rw [Radix.fromStrRadix_of_digits hne hdigits, hv]
    exact Option.filter_eq_some_iff.mpr ⟨rfl, decide_eq_true hlt⟩

/-- What the letter of a hexadecimal escape makes of its value: one raw byte, or a character. -/
def hexMeaning (l : Char) (v : Nat) : Option (List UInt8) :=
  if l.toUInt8 = 'x'.toUInt8 then some [UInt8.ofNat v]
  else (charFromU32 v).map String.utf8EncodeChar

theorem unquoteHex_ok_iff {l : Char} {n m : Nat} {after : List Char} {out : List UInt8}
    (hfront : (bytes ['\\', l]).length = 2) (hn : 0 < n) (hle : n ≤ 8) :
    unquoteHex l.toUInt8 n ('\\' :: l :: after) = .ok (m, out) ↔
      ∃ digits back v, after = digits ++ back ∧ digits.length = n ∧
        Radix.value? 16 0 digits = some v ∧ m = 2 + n ∧ hexMeaning l v = some out := by
  have hfit : 16 ^ n ≤ 2 ^ 32 :=
    Nat.le_trans (Nat.pow_le_pow_right (by decide) hle) (by decide)
  have hread {v : Nat} :=
    digits_ok_iff (v := v) isAsciiHexdigit_tests hn hfit ['\\', l] after
  rw [hfront] at hread
  have htail {v : Nat} : (if l.toUInt8 = 'x'.toUInt8 then
        (.ok (2 + n, [UInt8.ofNat v]) : Except UnquoteError (Nat × List UInt8))
      else do
        let ch ← orInvalid (charFromU32 v)
        .ok (2 + n, String.utf8EncodeChar ch)) = .ok (m, out) ↔
      m = 2 + n ∧ hexMeaning l v = some out := by
    unfold hexMeaning
    split
    · simp [eq_comm]
    · rw [bind_ok_iff]
      simp only [orInvalid_ok, Except.ok.injEq, Prod.mk.injEq, Option.map_eq_some_iff]
      constructor
      · rintro ⟨c, hc, hm, hout⟩
        exact ⟨hm.symm, c, hc, hout⟩
      · rintro ⟨hm, c, hc, hout⟩
        exact ⟨c, hc, hm.symm, hout⟩
  unfold unquoteHex
  rw [bind_ok_iff]
  constructor
  · rintro ⟨digits, hslice, hrest⟩
    split at hrest
    · cases hrest
    · next hall =>
      obtain ⟨v, hv, hmeans⟩ := bind_ok_iff.mp hrest
      have hall' : (bytes digits).all isAsciiHexdigit = true := by simpa using hall
      obtain ⟨digits', back, hafter, hcount, hvalue⟩ :=
        hread.mp ⟨digits, orInvalid_ok.mp hslice, hall', orInvalid_ok.mp hv⟩
      exact ⟨digits', back, v, hafter, hcount, hvalue, htail.mp hmeans⟩
  · rintro ⟨digits, back, v, hafter, hcount, hvalue, hmeans⟩
    obtain ⟨digits', hslice, hall, hv⟩ := hread.mpr ⟨digits, back, hafter, hcount, hvalue⟩
    refine ⟨digits', orInvalid_ok.mpr hslice, ?_⟩
    rw [if_neg (by simp [hall])]
    exact bind_ok_iff.mpr ⟨v, orInvalid_ok.mpr hv, htail.mpr hmeans⟩

theorem unquoteOctal_ok_iff {m : Nat} {after : List Char} {out : List UInt8} :
    unquoteOctal ('\\' :: after) = .ok (m, out) ↔
      ∃ digits back v, after = digits ++ back ∧ digits.length = 3 ∧
        Radix.value? 8 0 digits = some v ∧ v ≤ 255 ∧ m = 4 ∧ out = [UInt8.ofNat v] := by
  have hread {v : Nat} := digits_ok_iff (v := v) (n := 3)
    isOctalDigit_tests (by decide) (by decide) ['\\'] after
  rw [show (bytes ['\\']).length = 1 from rfl] at hread
  unfold unquoteOctal
  rw [bind_ok_iff]
  constructor
  · rintro ⟨digits, hslice, hrest⟩
    split at hrest
    · cases hrest
    · next hall =>
      obtain ⟨v, hv, hmeans⟩ := bind_ok_iff.mp hrest
      have hall' : (bytes digits).all isOctalDigit = true := by simpa using hall
      obtain ⟨digits', back, hafter, hcount, hvalue⟩ :=
        hread.mp ⟨digits, orInvalid_ok.mp hslice, hall', orInvalid_ok.mp hv⟩
      split at hmeans
      · cases hmeans
      · next hle =>
        obtain ⟨rfl, rfl⟩ := Prod.mk.inj (Except.ok.inj hmeans)
        exact ⟨digits', back, v, hafter, hcount, hvalue, by omega, rfl, rfl⟩
  · rintro ⟨digits, back, v, hafter, hcount, hvalue, hle, rfl, rfl⟩
    obtain ⟨digits', hslice, hall, hv⟩ := hread.mpr ⟨digits, back, hafter, hcount, hvalue⟩
    refine ⟨digits', orInvalid_ok.mpr hslice, ?_⟩
    rw [if_neg (by simp [hall])]
    refine bind_ok_iff.mpr ⟨v, orInvalid_ok.mpr hv, ?_⟩
    rw [if_neg (by omega)]

/-- Looked up by the first byte, a character of an ASCII table is found as by itself. -/
theorem find_first_byte {α : Type} {table : List (Char × α)} (hascii : ∀ p ∈ table, p.1.toNat < 128)
    {d : Char} {b : UInt8} {after : List UInt8} (hb : String.utf8EncodeChar d = b :: after) :
    table.find? (·.1.toUInt8 == b) = table.find? (·.1 == d) := by
  induction table with
  | nil => rfl
  | cons p table ih =>
    obtain ⟨hp, htable⟩ := List.forall_mem_cons.mp hascii
    have hsame : b = p.1.toUInt8 ↔ d = p.1 := first_byte_eq_iff hb hp
    have hkey : (p.1.toUInt8 == b) = (p.1 == d) := by
      rw [Bool.eq_iff_iff, beq_iff_eq, beq_iff_eq, eq_comm, hsame, eq_comm]
    simp only [List.find?, hkey, ih htable]

/-- A letter between two ASCII ones, told from its first byte. -/
theorem first_byte_octal {d : Char} {b : UInt8} {after : List UInt8}
    (hb : String.utf8EncodeChar d = b :: after) :
    ('0'.toUInt8 ≤ b ∧ b ≤ '7'.toUInt8) ↔ (Radix.digit? 8 d).isSome := by
  have htest : isOctalDigit b = (Radix.digit? 8 d).isSome := isOctalDigit_tests.first hb
  rw [← htest, isOctalDigit]
  simp only [UInt8.le_iff_toNat_le, UInt8.lt_iff_toNat_lt, Bool.and_eq_true, decide_eq_true_eq]
  have h0 : '0'.toUInt8.toNat = 48 := rfl
  have h7 : '7'.toUInt8.toNat = 55 := rfl
  have h48 : (48 : UInt8).toNat = 48 := rfl
  have h57 : (57 : UInt8).toNat = 57 := rfl
  have h56 : (56 : UInt8).toNat = 56 := rfl
  omega

section OneCharacter

variable {c d l : Char} {rest : List Char}

@[simp] theorem unquoteChar_quote : unquoteChar ('"' :: rest) = .error .invalidSyntax := rfl

theorem unquoteChar_plain (hquote : c ≠ '"') (hslash : c ≠ '\\') :
    unquoteChar (c :: rest) = .ok (c.utf8Size, String.utf8EncodeChar c) := by
  obtain ⟨b, after, hb, -⟩ := first_byte c
  have hq : b ≠ '"'.toUInt8 := mt (first_byte_eq_iff hb (by decide)).mp hquote
  have hs : b ≠ '\\'.toUInt8 := mt (first_byte_eq_iff hb (by decide)).mp hslash
  have htake : (bytes (c :: rest)).take c.utf8Size = String.utf8EncodeChar c := by
    rw [bytes_cons]
    exact List.take_left' (String.length_utf8EncodeChar c)
  have hbytes : bytes (c :: rest) = b :: (after ++ bytes rest) := by
    rw [bytes_cons, hb, List.cons_append]
  unfold unquoteChar
  simp only [hbytes] at htake ⊢
  rw [if_neg hq, if_pos hs, List.head?_cons]
  exact congrArg (fun read => Except.ok (c.utf8Size, read)) htake

@[simp] theorem unquoteChar_slash_end : unquoteChar ['\\'] = .error .invalidSyntax := rfl

/-- Behind a backslash the first byte of the letter decides. -/
theorem unquoteChar_slash {b : UInt8} {after : List UInt8}
    (hb : String.utf8EncodeChar d = b :: after) :
    unquoteChar ('\\' :: d :: rest) = unquoteEscape b ('\\' :: d :: rest) := by
  have hbytes : bytes ('\\' :: d :: rest) = '\\'.toUInt8 :: b :: (after ++ bytes rest) := by
    rw [bytes_cons, bytes_cons, hb]
    rfl
  unfold unquoteChar
  simp only [hbytes]
  rw [if_neg (by decide), if_neg (by decide)]

theorem unquoteChar_letter {p : Char × UInt8} (h : oneByteEscapes.find? (·.1 == d) = some p) :
    unquoteChar ('\\' :: d :: rest) = .ok (2, [p.2]) := by
  obtain ⟨b, after, hb, -⟩ := first_byte d
  have hone : oneByte b = some p.2 := by
    rw [oneByte, find_first_byte (by decide) hb, h, Option.map_some]
  rw [unquoteChar_slash hb, unquoteEscape, hone]

theorem unquoteChar_hex {p : Char × Nat} (hone : oneByteEscapes.find? (·.1 == d) = none)
    (h : hexEscapes.find? (·.1 == d) = some p) :
    unquoteChar ('\\' :: d :: rest) = unquoteHex d.toUInt8 p.2 ('\\' :: d :: rest) := by
  obtain ⟨b, after, hb, -⟩ := first_byte d
  have hone' : oneByte b = none := by
    rw [oneByte, find_first_byte (by decide) hb, hone, Option.map_none]
  have hdigits : hexDigits b = some p.2 := by
    rw [hexDigits, find_first_byte (by decide) hb, h, Option.map_some]
  have hfound : (p.1 == d) = true := List.find?_some (p := fun q : Char × Nat => q.1 == d) h
  have hd : p.1 = d := beq_iff_eq.mp hfound
  have hbyte : b = d.toUInt8 := by
    rw [← hd]
    refine (first_byte_eq_iff hb ?_).mpr hd.symm
    exact (by decide : ∀ p ∈ hexEscapes, p.1.toNat < 128) p (List.mem_of_find?_eq_some h)
  rw [unquoteChar_slash hb, unquoteEscape, hone', hdigits, hbyte]

theorem unquoteChar_other (hone : oneByteEscapes.find? (·.1 == d) = none)
    (hhex : hexEscapes.find? (·.1 == d) = none) :
    unquoteChar ('\\' :: d :: rest) =
      if (Radix.digit? 8 d).isSome then unquoteOctal ('\\' :: d :: rest)
      else .error .invalidSyntax := by
  obtain ⟨b, after, hb, -⟩ := first_byte d
  have hone' : oneByte b = none := by
    rw [oneByte, find_first_byte (by decide) hb, hone, Option.map_none]
  have hhex' : hexDigits b = none := by
    rw [hexDigits, find_first_byte (by decide) hb, hhex, Option.map_none]
  rw [unquoteChar_slash hb, unquoteEscape, hone', hhex']
  exact if_congr (first_byte_octal hb) rfl rfl

end OneCharacter

/-- An escape begins with a character that is no quote, and is not empty. -/
theorem Escape.begins {text : List Char} {out : List UInt8} (h : Escape text out) :
    ∃ c rest, text = c :: rest ∧ c ≠ '"' := by
  cases h with
  | plain hquote _ => exact ⟨_, _, rfl, hquote⟩
  | letter _ | hex _ _ | octal _ _ _ | shortRune _ _ | longRune _ _ =>
    exact ⟨_, _, rfl, by decide⟩

/-- The characters of an escape behind its backslash are all ASCII. -/
theorem bytes_escape_length (front : List Char) {digits : List Char} {base v : Nat}
    (hv : Radix.value? base 0 digits = some v) :
    (bytes (front ++ digits)).length = (bytes front).length + digits.length := by
  have hdigits : ∀ c ∈ digits, (Radix.digit? base c).isSome :=
    Radix.value?_isSome_iff.mp (Option.isSome_of_eq_some hv)
  rw [bytes_append, List.length_append,
    bytes_length_of_ascii fun c hc => Radix.ascii_of_digit (hdigits c hc)]

/-- The hexadecimal escapes at the front of a text are read, for each of the three letters. -/
theorem unquoteChar_of_hex {p : Char × Nat} (hmem : p ∈ hexEscapes) {digits : List Char} {v : Nat}
    {out : List UInt8} (hlen : digits.length = p.2) (hv : Radix.value? 16 0 digits = some v)
    (hmeans : hexMeaning p.1 v = some out) (back : List Char) :
    unquoteChar ('\\' :: p.1 :: digits ++ back) =
      .ok ((bytes ('\\' :: p.1 :: digits)).length, out) := by
  obtain ⟨hone, hfind, hfront, hpos, hle⟩ := (by decide : ∀ p ∈ hexEscapes,
    oneByteEscapes.find? (·.1 == p.1) = none ∧ hexEscapes.find? (·.1 == p.1) = some p ∧
      (bytes ['\\', p.1]).length = 2 ∧ 0 < p.2 ∧ p.2 ≤ 8) p hmem
  have hread : unquoteHex p.1.toUInt8 p.2 ('\\' :: p.1 :: (digits ++ back)) =
      .ok (2 + p.2, out) :=
    (unquoteHex_ok_iff hfront hpos hle).mpr ⟨digits, back, v, rfl, hlen, hv, rfl, hmeans⟩
  have hbytes : (bytes ('\\' :: p.1 :: digits)).length = 2 + p.2 := by
    have hsplit := bytes_escape_length ['\\', p.1] hv
    rw [hfront, hlen] at hsplit
    exact hsplit
  rw [hbytes]
  exact (unquoteChar_hex hone hfind).trans hread

/-- **Every escape at the front of a text is read.** -/
theorem unquoteChar_of_escape {text : List Char} {out : List UInt8} (h : Escape text out)
    (back : List Char) : unquoteChar (text ++ back) = .ok ((bytes text).length, out) := by
  cases h with
  | @plain c hquote hslash =>
    have hlen : (bytes [c]).length = c.utf8Size := by rw [bytes_length_cons]; rfl
    rw [hlen]
    exact unquoteChar_plain hquote hslash
  | @letter l v hmem =>
    have hfind : ∀ p ∈ oneByteEscapes, oneByteEscapes.find? (·.1 == p.1) = some p ∧
        (bytes ['\\', p.1]).length = 2 := by decide
    obtain ⟨hl, hlen⟩ := hfind (l, v) hmem
    rw [hlen]
    exact unquoteChar_letter hl
  | hex hlen hv => exact unquoteChar_of_hex (p := ('x', 2)) (by decide) hlen hv rfl back
  | @octal digits v hlen hv hle =>
    obtain ⟨d, rest, rfl⟩ := List.exists_cons_of_length_eq_add_one hlen
    have hdigits := Radix.value?_isSome_iff.mp (Option.isSome_of_eq_some hv)
    have hd : (Radix.digit? 8 d).isSome := hdigits d List.mem_cons_self
    -- no letter of the other escapes is an octal digit
    have hone : oneByteEscapes.find? (·.1 == d) = none := by
      refine List.find?_eq_none.mpr fun p hp heq => ?_
      obtain rfl := beq_iff_eq.mp heq
      have hletters : ∀ p ∈ oneByteEscapes, (Radix.digit? 8 p.1).isSome = false := by decide
      rw [hletters p hp] at hd
      cases hd
    have hhex : hexEscapes.find? (·.1 == d) = none := by
      refine List.find?_eq_none.mpr fun p hp heq => ?_
      obtain rfl := beq_iff_eq.mp heq
      have hletters : ∀ p ∈ hexEscapes, (Radix.digit? 8 p.1).isSome = false := by decide
      rw [hletters p hp] at hd
      cases hd
    have hread : unquoteOctal ('\\' :: (d :: rest ++ back)) = .ok (4, [UInt8.ofNat v]) :=
      unquoteOctal_ok_iff.mpr ⟨d :: rest, back, v, rfl, hlen, hv, hle, rfl, rfl⟩
    have hbytes : (bytes ('\\' :: d :: rest)).length = 4 := by
      have hsplit := bytes_escape_length ['\\'] hv
      rw [hlen] at hsplit
      exact hsplit
    rw [hbytes]
    exact ((unquoteChar_other hone hhex).trans (if_pos hd)).trans hread
  | @shortRune digits c hlen hv =>
    refine unquoteChar_of_hex (p := ('u', 4)) (by decide) hlen hv ?_ back
    rw [hexMeaning, if_neg (by decide), charFromU32_eq_some_iff.mpr rfl, Option.map_some]
  | @longRune digits c hlen hv =>
    refine unquoteChar_of_hex (p := ('U', 8)) (by decide) hlen hv ?_ back
    rw [hexMeaning, if_neg (by decide), charFromU32_eq_some_iff.mpr rfl, Option.map_some]

/-- A character escape of `n` digits stands for the character of that number. -/
theorem rune_of_hexMeaning {l : Char} (hl : l.toUInt8 ≠ 'x'.toUInt8) {v : Nat} {out : List UInt8}
    (h : hexMeaning l v = some out) : ∃ c : Char, v = c.toNat ∧ out = String.utf8EncodeChar c := by
  rw [hexMeaning, if_neg hl] at h
  obtain ⟨c, hc, hout⟩ := Option.map_eq_some_iff.mp h
  exact ⟨c, charFromU32_eq_some_iff.mp hc, hout.symm⟩

theorem escape_of_hex {p : Char × Nat} (hmem : p ∈ hexEscapes) {digits : List Char} {v : Nat}
    {out : List UInt8} (hlen : digits.length = p.2) (hv : Radix.value? 16 0 digits = some v)
    (hmeans : hexMeaning p.1 v = some out) : Escape ('\\' :: p.1 :: digits) out := by
  have hletters : p = ('x', 2) ∨ p = ('u', 4) ∨ p = ('U', 8) := by simpa [hexEscapes] using hmem
  rcases hletters with rfl | rfl | rfl
  · obtain rfl := Option.some.inj hmeans
    exact .hex hlen hv
  · obtain ⟨c, rfl, rfl⟩ := rune_of_hexMeaning (by decide) hmeans
    exact .shortRune hlen hv
  · obtain ⟨c, rfl, rfl⟩ := rune_of_hexMeaning (by decide) hmeans
    exact .longRune hlen hv

/-- **What one pass reads is an escape**, and it stops right behind it. -/
theorem escape_of_unquoteChar {c : Char} {rest : List Char} {n : Nat} {out : List UInt8}
    (h : unquoteChar (c :: rest) = .ok (n, out)) :
    ∃ text back, c :: rest = text ++ back ∧ Escape text out ∧ (bytes text).length = n := by
  by_cases hquote : c = '"'
  · subst hquote
    cases h
  by_cases hslash : c = '\\'
  swap
  · rw [unquoteChar_plain hquote hslash] at h
    obtain ⟨rfl, rfl⟩ := Prod.mk.inj (Except.ok.inj h)
    exact ⟨[c], rest, rfl, .plain hquote hslash, by rw [bytes_length_cons]; rfl⟩
  subst hslash
  cases rest with
  | nil => cases h
  | cons d rest =>
    cases hone : oneByteEscapes.find? (·.1 == d) with
    | some p =>
      rw [unquoteChar_letter hone] at h
      obtain ⟨rfl, rfl⟩ := Prod.mk.inj (Except.ok.inj h)
      have hkey : (p.1 == d) = true := List.find?_some (p := fun q : Char × UInt8 => q.1 == d) hone
      obtain rfl := beq_iff_eq.mp hkey
      have hmem := List.mem_of_find?_eq_some hone
      refine ⟨['\\', p.1], rest, rfl, .letter hmem, ?_⟩
      exact (by decide : ∀ p ∈ oneByteEscapes, (bytes ['\\', p.1]).length = 2) p hmem
    | none =>
      cases hhex : hexEscapes.find? (·.1 == d) with
      | some p =>
        rw [unquoteChar_hex hone hhex] at h
        have hkey : (p.1 == d) = true := List.find?_some (p := fun q : Char × Nat => q.1 == d) hhex
        obtain rfl := beq_iff_eq.mp hkey
        have hmem := List.mem_of_find?_eq_some hhex
        obtain ⟨hfront, hpos, hle⟩ := (by decide : ∀ p ∈ hexEscapes,
          (bytes ['\\', p.1]).length = 2 ∧ 0 < p.2 ∧ p.2 ≤ 8) p hmem
        obtain ⟨digits, back, v, rfl, hlen, hv, rfl, hmeans⟩ :=
          (unquoteHex_ok_iff hfront hpos hle).mp h
        refine ⟨'\\' :: p.1 :: digits, back, rfl, escape_of_hex hmem hlen hv hmeans, ?_⟩
        have hsplit := bytes_escape_length ['\\', p.1] hv
        rw [hfront, hlen] at hsplit
        exact hsplit
      | none =>
        rw [unquoteChar_other hone hhex] at h
        split at h
        swap
        · cases h
        obtain ⟨digits, back, v, hrest, hlen, hv, hle, rfl, rfl⟩ := unquoteOctal_ok_iff.mp h
        refine ⟨'\\' :: digits, back, congrArg ('\\' :: ·) hrest, .octal hlen hv hle, ?_⟩
        have hsplit := bytes_escape_length ['\\'] hv
        rw [hlen] at hsplit
        exact hsplit

/-- A computation that fails only as `invalidSyntax`. -/
def OnlyInvalid {α : Type} (x : Except UnquoteError α) : Prop :=
  ∀ e, x = .error e → e = .invalidSyntax

theorem OnlyInvalid.ok {α : Type} (a : α) : OnlyInvalid (.ok a) := by
  intro e h
  cases h

theorem OnlyInvalid.invalid {α : Type} : OnlyInvalid (α := α) (.error .invalidSyntax) := by
  intro e h
  exact (Except.error.inj h).symm

theorem OnlyInvalid.orInvalid {α : Type} (o : Option α) : OnlyInvalid (orInvalid o) := by
  cases o with
  | none => exact .invalid
  | some a => exact .ok a

theorem OnlyInvalid.bind {α β : Type} {x : Except UnquoteError α} {f : α → Except UnquoteError β}
    (hx : OnlyInvalid x) (hf : ∀ a, OnlyInvalid (f a)) : OnlyInvalid (x >>= f) := by
  cases x with
  | error e =>
    intro e' h
    exact hx e' (congrArg Except.error (Except.error.inj h))
  | ok a => exact hf a

theorem unquoteHex_onlyInvalid (letter : UInt8) (n : Nat) (s : List Char) :
    OnlyInvalid (unquoteHex letter n s) := by
  refine .bind (.orInvalid _) fun digits => ?_
  split
  · exact .invalid
  refine .bind (.orInvalid _) fun v => ?_
  split
  · exact .ok _
  · exact .bind (.orInvalid _) fun c => .ok _

theorem unquoteOctal_onlyInvalid (s : List Char) : OnlyInvalid (unquoteOctal s) := by
  refine .bind (.orInvalid _) fun digits => ?_
  split
  · exact .invalid
  refine .bind (.orInvalid _) fun v => ?_
  split
  · exact .invalid
  · exact .ok _

/-- One pass over a text that is not used up never takes a slice off a boundary. -/
theorem unquoteChar_onlyInvalid (c : Char) (rest : List Char) :
    OnlyInvalid (unquoteChar (c :: rest)) := by
  by_cases hquote : c = '"'
  · subst hquote
    exact .invalid
  by_cases hslash : c = '\\'
  swap
  · rw [unquoteChar_plain hquote hslash]
    exact .ok _
  subst hslash
  cases rest with
  | nil => exact .invalid
  | cons d rest =>
    cases hone : oneByteEscapes.find? (·.1 == d) with
    | some p =>
      rw [unquoteChar_letter hone]
      exact .ok _
    | none =>
      cases hhex : hexEscapes.find? (·.1 == d) with
      | some p =>
        rw [unquoteChar_hex hone hhex]
        exact unquoteHex_onlyInvalid _ _ _
      | none =>
        rw [unquoteChar_other hone hhex]
        split
        · exact unquoteOctal_onlyInvalid _
        · exact .invalid

/-! ## The whole literal -/

/-- A text that is taken apart begins with an escape. -/
theorem Rendering.cons_cases {c : Char} {rest : List Char} {b : List UInt8}
    (h : Rendering (c :: rest) b) :
    ∃ text back out more, c :: rest = text ++ back ∧ Escape text out ∧ Rendering back more ∧
      b = out ++ more := by
  generalize hs : c :: rest = s at h
  cases h with
  | nil => cases hs
  | cons hescape hrest => exact ⟨_, _, _, _, rfl, hescape, hrest, rfl⟩

theorem rendering_nil {b : List UInt8} (h : Rendering [] b) : b = [] := by
  generalize hs : ([] : List Char) = s at h
  cases h with
  | nil => rfl
  | cons hescape _ =>
    obtain ⟨c, rest, rfl, -⟩ := hescape.begins
    cases hs

/-- A text has one escape at its front at most. -/
theorem Escape.unique {text text' back back' : List Char} {out out' : List UInt8}
    (h : Escape text out) (h' : Escape text' out') (heq : text ++ back = text' ++ back') :
    out = out' ∧ back = back' := by
  have hpass := unquoteChar_of_escape h back
  rw [heq, unquoteChar_of_escape h' back'] at hpass
  obtain ⟨hlen, rfl⟩ := Prod.mk.inj (Except.ok.inj hpass)
  refine ⟨rfl, ?_⟩
  have hbehind := from?_append text back
  rw [heq, ← hlen, from?_append] at hbehind
  exact (Option.some.inj hbehind).symm

/-- What is rendered behind an escape. -/
theorem rendering_append_iff {text back : List Char} {out b : List UInt8} (h : Escape text out) :
    Rendering (text ++ back) b ↔ ∃ more, Rendering back more ∧ b = out ++ more := by
  constructor
  · intro hb
    obtain ⟨c, rest, rfl, -⟩ := h.begins
    obtain ⟨text', back', out', more, hsplit, h', hmore, rfl⟩ := Rendering.cons_cases hb
    obtain ⟨rfl, rfl⟩ := h.unique h' hsplit
    exact ⟨more, hmore, rfl⟩
  · rintro ⟨more, hmore, rfl⟩
    exact .cons h hmore

/-- The loop takes one escape after the other. -/
theorem unquoteRest_step {text back : List Char} {out : List UInt8} (h : Escape text out)
    (fuel : Nat) (read : List UInt8) :
    unquoteRest (fuel + 1) (text ++ back) read = unquoteRest fuel back (read ++ out) := by
  have hpass := unquoteChar_of_escape h back
  have hbehind := from?_append text back
  obtain ⟨c, rest, rfl, -⟩ := h.begins
  rw [List.cons_append] at hpass hbehind ⊢
  rw [unquoteRest, hpass]
  simp only [bind, Except.bind, hbehind]

/-- Where no escape begins the loop stops. -/
theorem unquoteRest_stuck {c : Char} {rest : List Char} {e : UnquoteError}
    (h : unquoteChar (c :: rest) = .error e) (fuel : Nat) (read : List UInt8) :
    unquoteRest (fuel + 1) (c :: rest) read = .error e := by
  rw [unquoteRest, h]
  rfl

theorem unquoteRest_nil_iff {fuel : Nat} {read r : List UInt8} :
    unquoteRest fuel [] read = .ok r ↔ ∃ b, Rendering [] b ∧ r = read ++ b := by
  rw [unquoteRest]
  constructor
  · intro h
    obtain rfl := Except.ok.inj h
    exact ⟨[], .nil, (List.append_nil _).symm⟩
  · rintro ⟨b, hb, rfl⟩
    rw [rendering_nil hb, List.append_nil]

/-- **The loop reads exactly the renderings**, whatever it has read before; with as much fuel as
    there are characters it fails in no other way than the code does. -/
theorem unquoteRest_spec {fuel : Nat} {s : List Char} (hfuel : s.length ≤ fuel)
    (read : List UInt8) :
    (∀ r, unquoteRest fuel s read = .ok r ↔ ∃ b, Rendering s b ∧ r = read ++ b) ∧
      OnlyInvalid (unquoteRest fuel s read) := by
  induction fuel generalizing s read with
  | zero =>
    obtain rfl := List.length_eq_zero_iff.mp (Nat.le_zero.mp hfuel)
    exact ⟨fun r => unquoteRest_nil_iff, .ok read⟩
  | succ fuel ih =>
    cases s with
    | nil => exact ⟨fun r => unquoteRest_nil_iff, .ok read⟩
    | cons c rest =>
      cases hpass : unquoteChar (c :: rest) with
      | error e =>
        rw [unquoteRest_stuck hpass]
        refine ⟨fun r => ⟨fun h => (by cases h), ?_⟩, ?_⟩
        · rintro ⟨b, hb, -⟩
          obtain ⟨text, back, out, more, hsplit, h, -, -⟩ := hb.cons_cases
          have hread := unquoteChar_of_escape h back
          rw [← hsplit, hpass] at hread
          cases hread
        · intro e' h
          obtain rfl := Except.error.inj h
          exact unquoteChar_onlyInvalid c rest e hpass
      | ok taken =>
        obtain ⟨text, back, hsplit, h, -⟩ := escape_of_unquoteChar hpass
        have hshorter : back.length ≤ fuel := by
          obtain ⟨d, more, rfl, -⟩ := h.begins
          have hlen := congrArg List.length hsplit
          simp only [List.length_cons, List.length_append] at hlen hfuel
          omega
        obtain ⟨hreads, honly⟩ := ih hshorter (read ++ taken.2)
        rw [hsplit, unquoteRest_step h]
        refine ⟨fun r => (hreads r).trans ?_, honly⟩
        constructor
        · rintro ⟨more, hmore, rfl⟩
          exact ⟨taken.2 ++ more, .cons h hmore, List.append_assoc _ _ _⟩
        · rintro ⟨b, hb, rfl⟩
          obtain ⟨more, hmore, rfl⟩ := (rendering_append_iff h).mp hb
          exact ⟨more, hmore, (List.append_assoc _ _ _).symm⟩

/-- The last byte of a text is a quote exactly when its last character is one. -/
theorem getLast?_bytes_quote (front : List Char) {c : Char} :
    (bytes (front ++ [c])).getLast? = some '"'.toUInt8 ↔ c = '"' := by
  rw [bytes_append, bytes_cons, bytes_nil, List.append_nil]
  rcases ascii_or_high c with ⟨hlow, henc⟩ | ⟨hhigh, henc⟩
  · rw [henc, List.getLast?_concat, Option.some.injEq]
    exact first_byte_eq_iff henc (by decide)
  · constructor
    · intro hlast
      have hne := String.utf8EncodeChar_ne_nil (c := c)
      rw [List.getLast?_append_of_ne_nil _ hne] at hlast
      have hbig : 128 ≤ '"'.toUInt8.toNat := henc _ (List.mem_of_getLast? hlast)
      exact absurd hbig (by decide)
    · intro hc
      subst hc
      exact absurd hhigh (by decide)

/-- **`unquote_go_string` inverts Go's quoting**: on a value that a quote begins it answers the
    bytes of the literal the value is, and refuses the value when it is none. -/
theorem unquoteGoString_spec (rest : List Char) :
    (∀ b, unquoteGoString ('"' :: rest) = .ok b ↔ GoLiteral ('"' :: rest) b) ∧
      OnlyInvalid (unquoteGoString ('"' :: rest)) := by
  rcases List.eq_nil_or_concat rest with rfl | ⟨inner, c, rfl⟩
  · refine ⟨fun b => ⟨fun h => (by cases h), ?_⟩, .invalid⟩
    rintro ⟨inner, heq, -⟩
    have hlen := congrArg List.length heq
    simp at hlen
  rw [List.concat_eq_append]
  have hbytes : (bytes ('"' :: (inner ++ [c]))).length = 1 + (bytes inner).length + c.utf8Size := by
    rw [bytes_length_cons, bytes_append, List.length_append, bytes_length_cons, bytes_nil]
    rw [List.length_nil, Nat.add_zero, Nat.add_assoc]
    rfl
  have hpos := c.utf8Size_pos
  have hlast : (bytes ('"' :: (inner ++ [c]))).getLast? = some '"'.toUInt8 ↔ c = '"' :=
    getLast?_bytes_quote ('"' :: inner)
  by_cases hc : c = '"'
  swap
  · have hrefused : unquoteGoString ('"' :: (inner ++ [c])) = .error .invalidSyntax :=
      if_pos (.inr (mt hlast.mp hc))
    rw [hrefused]
    refine ⟨fun b => ⟨fun h => (by cases h), ?_⟩, .invalid⟩
    rintro ⟨inner', heq, -⟩
    obtain ⟨-, hend⟩ := List.append_inj' (List.cons.inj heq).2 rfl
    exact absurd (List.cons.inj hend).1 hc
  subst hc
  have hslice : slice? 1 ((bytes ('"' :: (inner ++ ['"']))).length - 1) ('"' :: (inner ++ ['"'])) =
      some inner := by
    have hcut : (bytes ('"' :: (inner ++ ['"']))).length - 1 =
        (bytes ['"']).length + (bytes inner).length := by
      rw [hbytes]
      show 1 + (bytes inner).length + 1 - 1 = 1 + (bytes inner).length
      omega
    rw [hcut]
    have hinner : slice? (bytes ['"']).length ((bytes ['"']).length + (bytes inner).length)
        (['"'] ++ (inner ++ ['"'])) = some inner := slice?_append_eq_some_iff.mpr ⟨['"'], rfl, rfl⟩
    exact hinner
  have hunquote : unquoteGoString ('"' :: (inner ++ ['"'])) =
      if '\n' ∈ inner then .error .invalidSyntax else unquoteRest inner.length inner [] := by
    have hwhole : ¬ ((bytes ('"' :: (inner ++ ['"']))).length < 2 ∨
        (bytes ('"' :: (inner ++ ['"']))).getLast? ≠ some '"'.toUInt8) := by
      rintro (hshort | hend)
      · omega
      · exact hend (hlast.mpr rfl)
    rw [unquoteGoString, if_neg hwhole, hslice]
  rw [hunquote]
  split
  · next hnewline =>
    refine ⟨fun b => ⟨fun h => (by cases h), ?_⟩, .invalid⟩
    rintro ⟨inner', heq, hnone, -⟩
    obtain ⟨rfl, -⟩ := List.append_inj' (List.cons.inj heq).2 rfl
    exact absurd hnewline hnone
  · next hnewline =>
    obtain ⟨hreads, honly⟩ := unquoteRest_spec (Nat.le_refl inner.length) []
    refine ⟨fun b => (hreads b).trans ?_, honly⟩
    constructor
    · rintro ⟨b', hb', rfl⟩
      exact ⟨inner, rfl, hnewline, hb'⟩
    · rintro ⟨inner', heq, -, hb⟩
      obtain ⟨rfl, -⟩ := List.append_inj' (List.cons.inj heq).2 rfl
      exact ⟨b, hb, rfl⟩

/-! ## One line of the file -/

/-- The line says `key = value`: it is no comment, and cut at its first `=` it has a key. -/
def KeyValue (raw key value : String) : Prop :=
  ∃ front back, (trim raw).toList = front ++ '=' :: back ∧ '=' ∉ front ∧
    startsWith "#" (trim raw) = false ∧ key = trim (String.ofList front) ∧ key ≠ "" ∧
    value = trim (String.ofList back)

/-- The bytes of a value: those of the literal when a quote begins it, its own otherwise. -/
def ValueBytes (value : String) (b : List UInt8) : Prop :=
  if startsWith "\"" value then GoLiteral value.toList b else b = bytes value.toList

/-- The assignment, unless a NUL byte is in its key or its value. -/
def withoutNul (a : Assignment) : Option Assignment :=
  if 0 ∈ bytes a.key.toList ∨ 0 ∈ a.value then none else some a

/-- What a line is worth, when the scan does not end at it. -/
inductive LineGives (raw : String) : Option Assignment → Prop
  | nothing (h : ∀ key value, ¬ KeyValue raw key value) : LineGives raw none
  | entry {key value : String} {b : List UInt8} (h : KeyValue raw key value)
      (hb : ValueBytes value b) : LineGives raw (withoutNul ⟨key, b⟩)

/-- The double-quoted value of the line is no complete literal. -/
def RefusedLine (raw : String) : Prop :=
  ∃ key value, KeyValue raw key value ∧ startsWith "\"" value = true ∧
    ∀ b, ¬ GoLiteral value.toList b

theorem startsWith_quote_iff {value : String} :
    startsWith "\"" value = true ↔ ∃ rest, value.toList = '"' :: rest := by
  unfold startsWith
  rw [List.isPrefixOf_iff_prefix]
  constructor
  · rintro ⟨rest, hrest⟩
    exact ⟨rest, hrest.symm⟩
  · rintro ⟨rest, hrest⟩
    exact ⟨rest, hrest.symm⟩

/-- A line has one key and one value at most. -/
theorem KeyValue.unique {raw key value key' value' : String} (h : KeyValue raw key value)
    (h' : KeyValue raw key' value') : key = key' ∧ value = value' := by
  obtain ⟨front, back, hsplit, hfirst, -, rfl, -, rfl⟩ := h
  obtain ⟨front', back', hsplit', hfirst', -, rfl, -, rfl⟩ := h'
  obtain ⟨rfl, rfl⟩ := Delimited.first_unique hfirst hfirst' (hsplit.symm.trans hsplit')
  exact ⟨rfl, rfl⟩

/-- A value stands for one row of bytes at most, and is read as that one. -/
theorem lineValue_ok_iff {value : String} {b : List UInt8} :
    lineValue value = .ok b ↔ ValueBytes value b := by
  unfold lineValue ValueBytes
  by_cases hquote : startsWith "\"" value = true
  · obtain ⟨rest, hrest⟩ := startsWith_quote_iff.mp hquote
    rw [if_pos hquote, if_pos hquote, hrest]
    exact (unquoteGoString_spec rest).1 b
  · rw [if_neg hquote, if_neg hquote, Except.ok.injEq, eq_comm]

theorem lineValue_error {value : String} {e : UnquoteError} (h : lineValue value = .error e) :
    e = .invalidSyntax ∧ startsWith "\"" value = true ∧ ∀ b, ¬ GoLiteral value.toList b := by
  unfold lineValue at h
  by_cases hquote : startsWith "\"" value = true
  · obtain ⟨rest, hrest⟩ := startsWith_quote_iff.mp hquote
    rw [if_pos hquote, hrest] at h
    refine ⟨(unquoteGoString_spec rest).2 e h, hquote, fun b hb => ?_⟩
    rw [hrest] at hb
    have hread := ((unquoteGoString_spec rest).1 b).mpr hb
    rw [h] at hread
    cases hread
  · rw [if_neg hquote] at h
    cases h

/-- A line is worth one thing at most. -/
theorem LineGives.unique {raw : String} {given given' : Option Assignment}
    (h : LineGives raw given) (h' : LineGives raw given') : given = given' := by
  cases h with
  | nothing hnone =>
    cases h' with
    | nothing _ => rfl
    | entry hkv _ => exact absurd hkv (hnone _ _)
  | entry hkv hb =>
    cases h' with
    | nothing hnone => exact absurd hkv (hnone _ _)
    | entry hkv' hb' =>
      obtain ⟨rfl, rfl⟩ := hkv.unique hkv'
      have hsame := (lineValue_ok_iff.mpr hb).symm.trans (lineValue_ok_iff.mpr hb')
      obtain rfl := Except.ok.inj hsame
      rfl

/-- What a pass adds to the assignments. -/
def LineOutcome.given : LineOutcome → Option Assignment
  | .assigned a => some a
  | .passed | .refused _ | .skipped _ => none

theorem checkNul_given (lineNumber : Nat) (line key : String) (value : List UInt8) :
    (checkNul lineNumber line key value).given = withoutNul ⟨key, value⟩ ∧
      ∀ e, checkNul lineNumber line key value ≠ .refused e := by
  unfold checkNul withoutNul
  dsimp only
  split
  · exact ⟨rfl, nofun⟩
  · exact ⟨rfl, nofun⟩

/-- A line whose value is read gives its key that value. -/
theorem lineGives_read {raw key value : String} {b : List UInt8} (h : KeyValue raw key value)
    (hread : lineValue value = .ok b) : LineGives raw (withoutNul ⟨key, b⟩) :=
  .entry h (lineValue_ok_iff.mp hread)

/-- **One pass over a line** adds what the line is worth, or ends the scan at a refused one. -/
theorem scanLine_spec (n : Nat) (raw : String) :
    (∃ outcome, scanLine n raw = .ok outcome ∧ (∀ e, outcome ≠ .refused e) ∧
        LineGives raw outcome.given) ∨
      (scanLine n raw = .ok (.refused ⟨n, trim raw, .invalidValue⟩) ∧ RefusedLine raw) := by
  by_cases hblank : trim raw = "" ∨ startsWith "#" (trim raw)
  · refine .inl ⟨.passed, by rw [scanLine, if_pos hblank], fun e h => (by cases h), .nothing ?_⟩
    rintro key value ⟨front, back, hsplit, -, hcomment, -⟩
    rcases hblank with hempty | hhash
    · rw [hempty] at hsplit
      exact absurd hsplit.symm (by simp)
    · exact absurd hhash (by simp [hcomment])
  obtain ⟨-, hcomment⟩ := not_or.mp hblank
  cases hcut : splitOnce '=' (trim raw) with
  | none =>
    refine .inl ⟨.passed, by rw [scanLine, if_neg hblank, hcut], fun e h => (by cases h),
      .nothing ?_⟩
    rintro key value ⟨front, back, hsplit, hfirst, -⟩
    have hcut' : splitOnce '=' (trim raw) = some (String.ofList front, String.ofList back) := by
      rw [splitOnce_eq_some_iff, String.toList_ofList, String.toList_ofList]
      exact ⟨hsplit, hfirst⟩
    rw [hcut] at hcut'
    cases hcut'
  | some halves =>
    obtain ⟨key, value⟩ := halves
    obtain ⟨hsplit, hfirst⟩ := splitOnce_eq_some_iff.mp hcut
    by_cases hkey : trim key = ""
    · have hpass : scanLine n raw = .ok .passed := by
        rw [scanLine, if_neg hblank, hcut]
        simp only [if_pos hkey]
      refine .inl ⟨.passed, hpass, fun e h => (by cases h), .nothing ?_⟩
      rintro key' value' ⟨front, back, hsplit', hfirst', -, rfl, hne, -⟩
      obtain ⟨rfl, -⟩ := Delimited.first_unique hfirst hfirst' (hsplit.symm.trans hsplit')
      rw [String.ofList_toList] at hne
      exact absurd hkey hne
    have hkv : KeyValue raw (trim key) (trim value) := by
      refine ⟨key.toList, value.toList, hsplit, hfirst, by simpa using hcomment, ?_, hkey, ?_⟩
      · rw [String.ofList_toList]
      · rw [String.ofList_toList]
    cases hread : lineValue (trim value) with
    | ok b =>
      have hpass : scanLine n raw = .ok (checkNul n (trim raw) (trim key) b) := by
        rw [scanLine, if_neg hblank, hcut]
        simp only [if_neg hkey, hread]
      obtain ⟨hgiven, hgoes⟩ := checkNul_given n (trim raw) (trim key) b
      have hgives : LineGives raw (checkNul n (trim raw) (trim key) b).given := by
        rw [hgiven]
        exact lineGives_read hkv hread
      exact .inl ⟨_, hpass, hgoes, hgives⟩
    | error e =>
      obtain ⟨rfl, hquote, hnone⟩ := lineValue_error hread
      have hpass : scanLine n raw = .ok (.refused ⟨n, trim raw, .invalidValue⟩) := by
        rw [scanLine, if_neg hblank, hcut]
        simp only [if_neg hkey, hread]
      exact .inr ⟨hpass, trim key, trim value, hkv, hquote, hnone⟩

/-! ## The whole file -/

/-- Where a scan ended: behind the last line, or at a refused one. -/
def EndsAt (i : Nat) (below : List String) (refusal : Option ParseError) : Prop :=
  (below = [] ∧ refusal = none) ∨
    ∃ raw rest, below = raw :: rest ∧ RefusedLine raw ∧
      refusal = some ⟨i + 1, trim raw, .invalidValue⟩

/-- **A whole scan**, from any line on: it adds what the lines above the first refused one are
    worth, in their order. -/
theorem scanLines_spec (i : Nat) (lines : List String) (parsed : ParsedEnv)
    (hrefusal : parsed.refusal = none) :
    ∃ final above below given, scanLines i lines parsed = .ok final ∧ lines = above ++ below ∧
      List.Forall₂ LineGives above given ∧
      final.assignments = parsed.assignments ++ given.filterMap id ∧
      EndsAt (i + above.length) below final.refusal := by
  induction lines generalizing i parsed with
  | nil =>
    exact ⟨parsed, [], [], [], rfl, rfl, .nil, (List.append_nil _).symm, .inl ⟨rfl, hrefusal⟩⟩
  | cons raw rest ih =>
    rcases scanLine_spec (i + 1) raw with ⟨outcome, hscan, hgoes, hgives⟩ | ⟨hscan, hrefused⟩
    · -- the state the loop goes on with
      obtain ⟨next, hnext, hkept, hadded⟩ : ∃ next, scanLines i (raw :: rest) parsed =
          scanLines (i + 1) rest next ∧ next.refusal = none ∧
          next.assignments = parsed.assignments ++ outcome.given.toList := by
        rw [scanLines, hscan]
        cases outcome with
        | passed => exact ⟨parsed, rfl, hrefusal, (List.append_nil _).symm⟩
        | refused e => exact absurd rfl (hgoes e)
        | skipped e => exact ⟨_, rfl, hrefusal, (List.append_nil _).symm⟩
        | assigned a => exact ⟨_, rfl, hrefusal, rfl⟩
      obtain ⟨final, above, below, given, hfinal, rfl, hrow, hassigned, hends⟩ :=
        ih (i + 1) next hkept
      refine ⟨final, raw :: above, below, outcome.given :: given, hnext.trans hfinal, rfl,
        .cons hgives hrow, ?_, ?_⟩
      · rw [hassigned, hadded, List.append_assoc]
        cases outcome.given with
        | none => rfl
        | some a => rfl
      · rw [List.length_cons, Nat.add_comm above.length, ← Nat.add_assoc]
        exact hends
    · refine ⟨{ parsed with refusal := some ⟨i + 1, trim raw, .invalidValue⟩ }, [], raw :: rest, [],
        ?_, rfl, .nil, (List.append_nil _).symm, .inr ⟨raw, rest, rfl, hrefused, rfl⟩⟩
      rw [scanLines, hscan]

/-! ## The environment -/

/-- `set_var` takes the assignment: a key, without `=`, and no NUL byte in either half. -/
def SafeForSetVar (a : Assignment) : Prop :=
  a.key ≠ "" ∧ '=' ∉ a.key.toList ∧ 0 ∉ bytes a.key.toList ∧ 0 ∉ a.value

instance SafeForSetVar.decidable (a : Assignment) : Decidable (SafeForSetVar a) :=
  inferInstanceAs (Decidable (_ ∧ _))

theorem mem_of_mem_trim {s : String} {c : Char} (h : c ∈ (trim s).toList) : c ∈ s.toList := by
  rw [trim, String.toList_ofList, List.mem_reverse] at h
  have hback := (List.dropWhile_sublist _).mem h
  exact (List.dropWhile_sublist _).mem (List.mem_reverse.mp hback)

/-- Every assignment of a line is safe. -/
theorem LineGives.safe {raw : String} {a : Assignment} (h : LineGives raw (some a)) :
    SafeForSetVar a := by
  generalize hgiven : some a = given at h
  cases h with
  | nothing _ => cases hgiven
  | entry hkv _ =>
    unfold withoutNul at hgiven
    split at hgiven
    · cases hgiven
    · next hnul =>
      obtain rfl := Option.some.inj hgiven
      obtain ⟨hkey, hvalue⟩ := not_or.mp hnul
      obtain ⟨front, back, -, hfirst, -, rfl, hne, -⟩ := hkv
      refine ⟨hne, fun heq => hfirst ?_, hkey, hvalue⟩
      have hmem := mem_of_mem_trim heq
      rwa [String.toList_ofList] at hmem

/-- A line that is worth something, or nothing, is not refused. -/
theorem LineGives.not_refused {raw : String} {given : Option Assignment}
    (h : LineGives raw given) : ¬ RefusedLine raw := by
  rintro ⟨key, value, hkv, hquote, hnone⟩
  cases h with
  | nothing hnothing => exact hnothing key value hkv
  | @entry key' value' b hkv' hb =>
    obtain ⟨rfl, rfl⟩ := hkv.unique hkv'
    rw [ValueBytes, if_pos hquote] at hb
    exact hnone b hb

theorem line_not_refused {above : List String} {given : List (Option Assignment)}
    (h : List.Forall₂ LineGives above given) : ∀ raw ∈ above, ¬ RefusedLine raw := by
  induction h with
  | nil => exact fun raw hmem => absurd hmem List.not_mem_nil
  | cons hgives _ ih => exact List.forall_mem_cons.mpr ⟨hgives.not_refused, ih⟩

/-- An assignment that is read comes from a line that gives it. -/
theorem line_of_given {above : List String} {given : List (Option Assignment)}
    (h : List.Forall₂ LineGives above given) {a : Assignment} (ha : a ∈ given.filterMap id) :
    ∃ raw ∈ above, LineGives raw (some a) := by
  induction h with
  | nil => cases ha
  | @cons raw g above given hgives _ ih =>
    have hmem : g = some a ∨ a ∈ given.filterMap id := by
      rw [List.mem_filterMap] at ha ⊢
      obtain ⟨g', hg', rfl⟩ := ha
      rcases List.mem_cons.mp hg' with rfl | hrest
      · exact .inl rfl
      · exact .inr ⟨_, hrest, rfl⟩
    rcases hmem with rfl | hrest
    · exact ⟨raw, List.mem_cons_self, hgives⟩
    · obtain ⟨raw', hmem', hgives'⟩ := ih hrest
      exact ⟨raw', List.mem_cons_of_mem _ hmem', hgives'⟩

/-- The literal reader ends on every text; only a text that no quote begins can make it slice off a
    boundary. -/
theorem unquoteGoString_ends (s : List Char) : unquoteGoString s ≠ .error .endless := by
  unfold unquoteGoString
  intro h
  split at h
  · cases h
  split at h
  · cases h
  split at h
  · cases h
  · cases (unquoteRest_spec (Nat.le_refl _) []).2 _ h

/-- Every scan comes to an end, with assignments that are all safe. -/
theorem parseKeyValueEnv_safe (text : String) :
    ∃ parsed, parseKeyValueEnv text = .ok parsed ∧ ∀ a ∈ parsed.assignments, SafeForSetVar a := by
  obtain ⟨parsed, above, below, given, hparsed, -, hrow, hassigned, -⟩ :=
    scanLines_spec 0 (envLines text) ⟨[], [], none⟩ rfl
  refine ⟨parsed, hparsed, fun a ha => ?_⟩
  rw [hassigned, List.nil_append] at ha
  obtain ⟨raw, -, hgives⟩ := line_of_given hrow ha
  exact hgives.safe

/-- **An environment file is read as Go reads it.**  For every text the assignments are, in the
    order of the file, what the lines above the first refused one are worth, and each is safe to
    set; the reader of literals ends on every text, and on every value that a quote begins it
    answers exactly the bytes the literal renders, refuses the value when it is no literal, and
    never slices off a character boundary. -/
theorem parseKeyValueEnv_exact :
    (∀ text : String, ∃ parsed above below given, parseKeyValueEnv text = .ok parsed ∧
      envLines text = above ++ below ∧ List.Forall₂ LineGives above given ∧
      parsed.assignments = given.filterMap id ∧
      (∀ raw ∈ above, ¬ RefusedLine raw) ∧
      (below = [] ∨ ∃ raw rest, below = raw :: rest ∧ RefusedLine raw) ∧
      ∀ a ∈ parsed.assignments, SafeForSetVar a) ∧
    (∀ s, unquoteGoString s ≠ .error .endless) ∧
    (∀ rest, OnlyInvalid (unquoteGoString ('"' :: rest)) ∧
      ∀ b, unquoteGoString ('"' :: rest) = .ok b ↔ GoLiteral ('"' :: rest) b) ∧
    ∀ inner b, '\n' ∉ inner → Rendering inner b →
      unquoteGoString ('"' :: (inner ++ ['"'])) = .ok b := by
  refine ⟨fun text => ?_, unquoteGoString_ends, fun rest => (unquoteGoString_spec rest).symm, ?_⟩
  · obtain ⟨parsed, above, below, given, hparsed, hlines, hrow, hassigned, hends⟩ :=
      scanLines_spec 0 (envLines text) ⟨[], [], none⟩ rfl
    obtain ⟨parsed', hparsed', hsafe⟩ := parseKeyValueEnv_safe text
    obtain rfl := Except.ok.inj (hparsed.symm.trans hparsed')
    rw [List.nil_append] at hassigned
    refine ⟨parsed, above, below, given, hparsed, hlines, hrow, hassigned, line_not_refused hrow,
      ?_, hsafe⟩
    rcases hends with ⟨hnone, -⟩ | ⟨raw, rest, hbelow, hrefused, -⟩
    · exact .inl hnone
    · exact .inr ⟨raw, rest, hbelow, hrefused⟩
  · intro inner b hnewline hb
    exact ((unquoteGoString_spec (inner ++ ['"'])).1 b).mpr ⟨inner, rfl, hnewline, hb⟩

/-- A character of two bytes, a letter, a byte in hexadecimal and one in octal, and a character by
    its number. -/
theorem parseKeyValueEnv_mixed :
    unquoteGoString "\"é\\n\\xff\\101\\u00e9\"".toList =
      .ok [0xc3, 0xa9, 0x0a, 0xff, 0x41, 0xc3, 0xa9] := by
  have hrendering : Rendering "é\\n\\xff\\101\\u00e9".toList
      ([0xc3, 0xa9] ++ ([0x0a] ++ ([0xff] ++ ([0x41] ++ ([0xc3, 0xa9] ++ []))))) :=
    .cons (@Escape.plain 'é' (by decide) (by decide)) <|
    .cons (@Escape.letter 'n' 0x0a (by decide)) <|
      .cons (@Escape.hex ['f', 'f'] 255 rfl rfl) <|
      .cons (@Escape.octal ['1', '0', '1'] 65 rfl rfl (by decide)) <|
      .cons (@Escape.shortRune ['0', '0', 'e', '9'] 'é' rfl rfl) .nil
  exact parseKeyValueEnv_exact.2.2.2 _ _ (by decide) hrendering

/-! ## Setting what was read -/

/-- `scan_file`'s problems: the lines that were left out, and the one the scan ended at. -/
def fileProblems (path : String) (parsed : ParsedEnv) : List String :=
  parsed.skipped.map (fun e =>
      s!"error parsing {path}: {e.text} (line skipped; the rest of the file applied)") ++
    parsed.refusal.toList.map fun e =>
      s!"error parsing {path}: {e.text} (that line and every line below it was not applied)"

/-- Why a file was not read. -/
inductive ReadError where
  | notFound
  | other (text : String)
deriving DecidableEq, Repr

/-- What the error says. -/
def ReadError.text : ReadError → String
  | .notFound => "No such file or directory (os error 2)"
  | .other text => text

/-- `DiskConfig`. -/
structure DiskConfig where
  path : Option String
  assignments : List Assignment
  problems : List String
deriving DecidableEq, Repr

/-- `scan_file`. -/
def scanFile (path contents : String) : Except UnquoteError DiskConfig := do
  let parsed ← parseKeyValueEnv contents
  .ok ⟨some path, parsed.assignments, fileProblems path parsed⟩

/-- The files of the platform, up to the first that can be read. -/
def loadFiles (read : String → Except ReadError String) :
    List String → List String → Except UnquoteError DiskConfig
  | [], problems => .ok ⟨none, [], problems⟩
  | name :: files, problems =>
    match read name with
    | .ok contents => do
      let config ← scanFile name contents
      .ok { config with problems := problems ++ config.problems }
    | .error .notFound => loadFiles read files problems
    | .error (.other text) =>
      loadFiles read files (problems ++ [s!"error applying disk config: {name}: {text}"])

/-- `load_disk_config`. -/
def loadDiskConfig (read : String → Except ReadError String) (explicit : Option String)
    (files : List String) : Except UnquoteError DiskConfig :=
  match explicit with
  | none => loadFiles read files []
  | some path =>
    match read path with
    | .ok contents => scanFile path contents
    | .error e =>
      .ok ⟨some path, [], ["error applying disk config: error opening explicitly configured " ++
        s!"TS_DEBUG_ENV_FILE {path}: {e.text}"]⟩

/-- `set_var`: the variable has the new value; none where the standard library panics. -/
def setVar (environment : List (String × List UInt8)) (a : Assignment) :
    Option (List (String × List UInt8)) :=
  if SafeForSetVar a then some ((a.key, a.value) :: environment.filter (·.1 != a.key)) else none

/-- The variables of the config set one after the other. -/
def setVars : List (String × List UInt8) → List Assignment →
    Option (List (String × List UInt8))
  | environment, [] => some environment
  | environment, a :: rest => (setVar environment a).bind fun next => setVars next rest

theorem setVar_safe {a : Assignment} (h : SafeForSetVar a)
    (environment : List (String × List UInt8)) : ∃ next, setVar environment a = some next :=
  ⟨_, if_pos h⟩

theorem setVars_safe {assignments : List Assignment} (h : ∀ a ∈ assignments, SafeForSetVar a)
    (environment : List (String × List UInt8)) :
    ∃ final, setVars environment assignments = some final := by
  induction assignments generalizing environment with
  | nil => exact ⟨environment, rfl⟩
  | cons a rest ih =>
    obtain ⟨ha, hrest⟩ := List.forall_mem_cons.mp h
    obtain ⟨next, hnext⟩ := setVar_safe ha environment
    obtain ⟨final, hfinal⟩ := ih hrest next
    exact ⟨final, by rw [setVars, hnext, Option.bind_some, hfinal]⟩

/-- A config that was loaded, and whose variables can all be set. -/
def Loads (result : Except UnquoteError DiskConfig) : Prop :=
  ∃ config, result = .ok config ∧ ∀ a ∈ config.assignments, SafeForSetVar a

theorem scanFile_loads (path contents : String) : Loads (scanFile path contents) := by
  obtain ⟨parsed, hparsed, hsafe⟩ := parseKeyValueEnv_safe contents
  refine ⟨⟨some path, parsed.assignments, fileProblems path parsed⟩, ?_, hsafe⟩
  rw [scanFile, hparsed]
  rfl

theorem loadFiles_loads (read : String → Except ReadError String) (files problems : List String) :
    Loads (loadFiles read files problems) := by
  induction files generalizing problems with
  | nil => exact ⟨_, rfl, fun a ha => absurd ha List.not_mem_nil⟩
  | cons name files ih =>
    rw [loadFiles]
    cases read name with
    | ok contents =>
      obtain ⟨config, hconfig, hsafe⟩ := scanFile_loads name contents
      exact ⟨{ config with problems := problems ++ config.problems },
        by simp only [hconfig]; rfl, hsafe⟩
    | error e =>
      cases e with
      | notFound => exact ih problems
      | other text => exact ih _

/-- **Applying the environment file never takes the daemon down**, whatever the files hold and
    whichever of them can be read. -/
theorem loadDiskConfig_applies (read : String → Except ReadError String) (explicit : Option String)
    (files : List String) (environment : List (String × List UInt8)) :
    ∃ config final, loadDiskConfig read explicit files = .ok config ∧
      setVars environment config.assignments = some final := by
  have hloads : Loads (loadDiskConfig read explicit files) := by
    unfold loadDiskConfig
    cases explicit with
    | none => exact loadFiles_loads read files []
    | some path =>
      cases hread : read path with
      | ok contents =>
        simp only [hread]
        exact scanFile_loads path contents
      | error e =>
        simp only [hread]
        exact ⟨_, rfl, fun a ha => absurd ha List.not_mem_nil⟩
  obtain ⟨config, hconfig, hsafe⟩ := hloads
  obtain ⟨final, hfinal⟩ := setVars_safe hsafe environment
  exact ⟨config, final, hconfig, hfinal⟩

end Tailnetd
