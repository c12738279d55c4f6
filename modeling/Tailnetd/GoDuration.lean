/-
  `time.ParseDuration` as `goduration.rs` ports it: the reader behind a duration policy.

  A duration is an optional sign and then either `0` or a sequence of groups, each a decimal
  number with a unit.  The result is a signed 64-bit count of nanoseconds; anything that does not
  fit is refused.  The value of the digits after a decimal point is computed in doubles, as the
  source does it: the scale is a product of tens, and what the digits come to is truncated.  A scale
  beyond every double and a quotient below the normal ones give a value that truncates to zero here
  as there.
-/
import Tailnetd.Text
import Tailnetd.Lib.Binary64

namespace Tailnetd

/-- The magnitude every partial result must stay within, `1 << 63`. -/
def durationLimit : Nat := Nat.pow 2 63

/-- The value of an ASCII digit. -/
def decimalDigit (c : Char) : Option Nat :=
  if '0' ≤ c ∧ c ≤ '9' then some (c.toNat - 48) else none

/-- `leading_int`: the digits at the front, `none` when they overflow. -/
def leadingInt : Nat → List Char → Option (Nat × List Char)
  | value, [] => some (value, [])
  | value, c :: s =>
    match decimalDigit c with
    | none => some (value, c :: s)
    | some d =>
      if durationLimit / 10 < value then none
      else if durationLimit < value * 10 + d then none
      else leadingInt (value * 10 + d) s

/-- `leading_fraction`: the digits after the point with their scale; digits past the overflow are
    read and ignored. -/
def leadingFraction : Nat → ℚ → Bool → List Char → Nat × ℚ × List Char
  | value, scale, _, [] => (value, scale, [])
  | value, scale, overflow, c :: s =>
    match decimalDigit c with
    | none => (value, scale, c :: s)
    | some d =>
      if overflow || decide ((durationLimit - 1) / 10 < value) ||
          decide (durationLimit < value * 10 + d) then
        leadingFraction value scale true s
      else leadingFraction (value * 10 + d) (Binary64.nearest (scale * 10)) false s

/-- `(frac as f64 * (unit as f64 / scale)) as u64`: the nanoseconds of the digits after the point,
    which are computed only when one of them is not zero. -/
def fractionNanos (frac unit : Nat) (scale : ℚ) : Nat :=
  if 0 < frac then
    ⌊Binary64.nearest (Binary64.nearest frac *
      Binary64.nearest (Binary64.nearest unit / scale))⌋.toNat
  else 0

/-- The nanoseconds of a unit. -/
def durationUnit : List Char → Option Nat
  | ['n', 's'] => some 1
  | ['u', 's'] => some 1000
  | ['µ', 's'] => some 1000
  | ['μ', 's'] => some 1000
  | ['m', 's'] => some 1000000
  | ['s'] => some 1000000000
  | ['m'] => some 60000000000
  | ['h'] => some 3600000000000
  | _ => none

/-- Whether a character starts a number, which is what ends a unit's name. -/
def startsNumber (c : Char) : Bool := c == '.' || (decimalDigit c).isSome

/-- The optional fraction of a number: its digits, their scale, what follows, and whether there was
    a digit. -/
def readFraction : List Char → Nat × ℚ × List Char × Bool
  | '.' :: after =>
    let (frac, scale, rest) := leadingFraction 0 1 false after
    (frac, scale, rest, decide (rest.length < after.length))
  | rest => (0, 1, rest, false)

/-- The group loop.  Each turn consumes a character at least, so the length of the text is enough
    fuel. -/
def parseGroups (orig : String) : Nat → Nat → List Char → Except String Nat
  | _, total, [] => .ok total
  | 0, _, _ :: _ => .error ("time: invalid duration " ++ quoted orig)
  | fuel + 1, total, c :: s =>
    let invalid := "time: invalid duration " ++ quoted orig
    if !startsNumber c then .error invalid else
    match leadingInt 0 (c :: s) with
    | none => .error invalid
    | some (v, rest) =>
      let hadInt := (decimalDigit c).isSome
      let (frac, scale, rest', hadFrac) := readFraction rest
      if !hadInt && !hadFrac then .error invalid else
      let unitName := rest'.takeWhile fun c => !startsNumber c
      if unitName.isEmpty then .error ("time: missing unit in duration " ++ quoted orig) else
      match durationUnit unitName with
      | none =>
        .error ("time: unknown unit " ++ quoted (String.ofList unitName) ++ " in duration " ++
          quoted orig)
      | some unit =>
        if durationLimit / unit < v then .error invalid else
        let v := v * unit + fractionNanos frac unit scale
        if durationLimit < v then .error invalid
        else if durationLimit < total + v then .error invalid
        else parseGroups orig fuel (total + v) (rest'.drop unitName.length)

/-- The sign in front, and what follows it. -/
def splitSign : List Char → Bool × List Char
  | '-' :: s => (true, s)
  | '+' :: s => (false, s)
  | s => (false, s)

/-- `parse_go_duration`: the nanoseconds a duration text denotes. -/
def parseGoDuration (input : String) : Except String Int :=
  let (neg, s) := splitSign input.toList
  if s = ['0'] then .ok 0
  else if s.isEmpty then .error ("time: invalid duration " ++ quoted input)
  else
    match parseGroups input s.length 0 s with
    | .error e => .error e
    | .ok total =>
      if neg then .ok (-(total : Int))
      else if durationLimit - 1 < total then .error ("time: invalid duration " ++ quoted input)
      else .ok (total : Int)

example : parseGoDuration "1h0m0.5s" = .ok 3600500000000 := by decide +kernel
example : parseGoDuration "-30m" = .ok (-1800000000000) := by decide +kernel
example : parseGoDuration "0.3333333333333333h" = .ok 1200000000000 := by decide +kernel

end Tailnetd
