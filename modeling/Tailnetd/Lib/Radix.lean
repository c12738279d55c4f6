/-
  Numerals in a radix up to 36.

  `digit?` reads one digit character of either case and `value?` a list of them, most significant
  first; `value?` answers exactly on lists of digits and stays below the radix to the length
  (`value?_lt`).  `fromStrRadix` is the parser of an unsigned type on top of them: it wants at least
  one digit, allows one plus sign before them, and refuses what the type cannot hold.
-/
import Mathlib.Algebra.Group.Nat.Defs
import Mathlib.Data.List.Basic

namespace Radix

/-- The value of a digit character in base 36. -/
def digitValue (c : Char) : Option Nat :=
  if '0' ≤ c ∧ c ≤ '9' then some (c.toNat - 48)
  else if 'a' ≤ c ∧ c ≤ 'z' then some (c.toNat - 87)
  else if 'A' ≤ c ∧ c ≤ 'Z' then some (c.toNat - 55)
  else none

/-- `char::to_digit`. -/
def digit? (base : Nat) (c : Char) : Option Nat := (digitValue c).filter (· < base)

/-- The value of a numeral read behind `acc`. -/
def value? (base : Nat) : Nat → List Char → Option Nat
  | acc, [] => some acc
  | acc, c :: rest => (digit? base c).bind fun d => value? base (acc * base + d) rest

/-- `from_str_radix` of an unsigned type whose values are below `limit`. -/
def fromStrRadix (base limit : Nat) (text : List Char) : Option Nat :=
  match text with
  | [] => none
  | [c] => (value? base 0 [c]).filter (· < limit)
  | c :: rest => (value? base 0 (if c = '+' then rest else c :: rest)).filter (· < limit)

theorem digit?_lt {base d : Nat} {c : Char} (h : digit? base c = some d) : d < base :=
  of_decide_eq_true (Option.filter_eq_some_iff.mp h).2

@[simp] theorem value?_nil (base acc : Nat) : value? base acc [] = some acc := rfl

theorem value?_cons {base acc d : Nat} {c : Char} (h : digit? base c = some d) (rest : List Char) :
    value? base acc (c :: rest) = value? base (acc * base + d) rest := by
  rw [value?, h, Option.bind_some]

/-- A numeral is a list of digits. -/
theorem value?_isSome_iff {base acc : Nat} {text : List Char} :
    (value? base acc text).isSome ↔ ∀ c ∈ text, (digit? base c).isSome := by
  induction text generalizing acc with
  | nil => simp
  | cons c rest ih =>
    rw [List.forall_mem_cons]
    cases hd : digit? base c with
    | none => rw [value?, hd]; simp
    | some d => rw [value?_cons hd, ih]; simp

/-- **A numeral is below its radix to the number of its digits.** -/
theorem value?_lt {base acc v : Nat} {text : List Char} (h : value? base acc text = some v) :
    v < (acc + 1) * base ^ text.length := by
  induction text generalizing acc with
  | nil =>
    obtain rfl := Option.some.inj h
    simp
  | cons c rest ih =>
    obtain ⟨d, hd, hrest⟩ := Option.bind_eq_some_iff.mp h
    have hbelow : acc * base + d + 1 ≤ (acc + 1) * base := by
      have hlt := digit?_lt hd
      rw [Nat.add_mul, Nat.one_mul]
      omega
    calc v < (acc * base + d + 1) * base ^ rest.length := ih hrest
      _ ≤ (acc + 1) * base * base ^ rest.length := Nat.mul_le_mul_right _ hbelow
      _ = (acc + 1) * base ^ (c :: rest).length := by
        rw [List.length_cons, Nat.pow_succ', Nat.mul_assoc]

/-- Every digit is an ASCII character. -/
theorem ascii_of_digit {base : Nat} {c : Char} (h : (digit? base c).isSome) : c.toNat < 128 := by
  obtain ⟨d, hd⟩ := Option.isSome_iff_exists.mp h
  obtain ⟨hvalue, -⟩ := Option.filter_eq_some_iff.mp hd
  have hnat : ∀ d : Char, c ≤ d → c.toNat ≤ d.toNat := fun d hle => UInt32.le_iff_toNat_le.mp hle
  unfold digitValue at hvalue
  split at hvalue
  · next hrange => exact Nat.lt_of_le_of_lt (hnat _ hrange.2) (by decide)
  split at hvalue
  · next hrange => exact Nat.lt_of_le_of_lt (hnat _ hrange.2) (by decide)
  split at hvalue
  · next hrange => exact Nat.lt_of_le_of_lt (hnat _ hrange.2) (by decide)
  · cases hvalue

/-- A plus sign is no digit. -/
theorem digit?_plus (base : Nat) : digit? base '+' = none := by
  rw [digit?, show digitValue '+' = none from by decide, Option.filter_none]

/-- On digits alone the parser reads the numeral. -/
theorem fromStrRadix_of_digits {base limit : Nat} {text : List Char} (hne : text ≠ [])
    (h : ∀ c ∈ text, (digit? base c).isSome) :
    fromStrRadix base limit text = (value? base 0 text).filter (· < limit) := by
  cases text with
  | nil => exact absurd rfl hne
  | cons c rest =>
    have hplus : c ≠ '+' := by
      rintro rfl
      have hdigit := h '+' List.mem_cons_self
      rw [digit?_plus] at hdigit
      cases hdigit
    cases rest with
    | nil => rfl
    | cons d rest => rw [fromStrRadix, if_neg hplus]; simp

/-- The digits of radix 10. -/
theorem decimal_of_digit {c : Char} (h : (digit? 10 c).isSome) : '0' ≤ c ∧ c ≤ '9' := by
  obtain ⟨d, hd⟩ := Option.isSome_iff_exists.mp h
  obtain ⟨hvalue, hlt⟩ := Option.filter_eq_some_iff.mp hd
  have hlt := of_decide_eq_true hlt
  have hnat : ∀ d : Char, d ≤ c → d.toNat ≤ c.toNat := fun d hle => UInt32.le_iff_toNat_le.mp hle
  unfold digitValue at hvalue
  split at hvalue
  · next hrange => exact hrange
  -- a letter stands for ten at least
  split at hvalue
  · next hrange =>
    have hlow : 97 ≤ c.toNat := hnat 'a' hrange.1
    have hten := Option.some.inj hvalue
    omega
  split at hvalue
  · next hrange =>
    have hlow : 65 ≤ c.toNat := hnat 'A' hrange.1
    have hten := Option.some.inj hvalue
    omega
  · cases hvalue

/-- Decimal digits read as the number that they spell. -/
theorem value?_decimal {digits : List Char} (h : ∀ c ∈ digits, '0' ≤ c ∧ c ≤ '9') (n : Nat) :
    value? 10 n digits = some (Nat.ofDigitChars 10 digits n) := by
  induction digits generalizing n with
  | nil => rfl
  | cons c digits ih =>
    obtain ⟨hc, hdigits⟩ := List.forall_mem_cons.mp h
    have hvalue : digitValue c = some (c.toNat - 48) := by rw [digitValue, if_pos hc]
    have hlow : c.toNat ≤ 57 := UInt32.le_iff_toNat_le.mp hc.2
    have hdigit : digit? 10 c = some (c.toNat - 48) := by
      rw [digit?, hvalue, Option.filter_some, if_pos (by rw [decide_eq_true_eq]; omega)]
    rw [value?_cons hdigit, ih hdigits, Nat.ofDigitChars_cons, Nat.mul_comm]
    rfl

/-- The text of a number is its decimal digits. -/
theorem toList_toString (n : Nat) : (toString n).toList = Nat.toDigits 10 n := by
  simp [toString, Nat.repr]

theorem digit_of_mem_toDigits {n : Nat} {c : Char} (h : c ∈ Nat.toDigits 10 n) :
    '0' ≤ c ∧ c ≤ '9' := by
  have hdigit := Nat.isDigit_of_mem_toDigits (by decide) (by decide) h
  simpa [Char.isDigit, Char.le_def] using hdigit

/-- **A number reads back from its decimal digits.** -/
theorem fromStrRadix_toDigits {limit n : Nat} (h : n < limit) :
    fromStrRadix 10 limit (Nat.toDigits 10 n) = some n := by
  have hvalue : value? 10 0 (Nat.toDigits 10 n) = some n := by
    rw [value?_decimal fun c hc => digit_of_mem_toDigits hc, Nat.ofDigitChars_ten_toDigits]
  have hall := value?_isSome_iff.mp (Option.isSome_of_eq_some hvalue)
  rw [fromStrRadix_of_digits Nat.toDigits_ne_nil hall, hvalue, Option.filter_some,
    if_pos (decide_eq_true h)]

/-- What is read is below the limit. -/
theorem fromStrRadix_lt {base limit v : Nat} {text : List Char}
    (h : fromStrRadix base limit text = some v) : v < limit := by
  unfold fromStrRadix at h
  split at h
  · cases h
  · exact of_decide_eq_true (Option.filter_eq_some_iff.mp h).2
  · exact of_decide_eq_true (Option.filter_eq_some_iff.mp h).2

/-- The characters of a text that the parser takes. -/
theorem fromStrRadix_chars {base limit v : Nat} {text : List Char}
    (h : fromStrRadix base limit text = some v) :
    ∀ c ∈ text, c = '+' ∨ (digit? base c).isSome := by
  have hread : ∀ digits, (value? base 0 digits).filter (· < limit) = some v →
      ∀ c ∈ digits, (digit? base c).isSome := by
    intro digits hdigits
    have hvalue := (Option.filter_eq_some_iff.mp hdigits).1
    exact value?_isSome_iff.mp (Option.isSome_of_eq_some hvalue)
  unfold fromStrRadix at h
  split at h
  · cases h
  · exact fun c hc => .inr (hread _ h c hc)
  · rename_i first rest _
    split at h
    · rename_i hplus
      intro c hc
      exact (List.mem_cons.mp hc).imp (fun heq => heq.trans hplus) (hread _ h c)
    · exact fun c hc => .inr (hread _ h c hc)

end Radix
