/-
  Numbers as rows of parts, the most significant part first.

  Each part is `bits` wide, so a row of four bytes and a row of two groups of sixteen bits are two
  rows for one number.  `value` is that number; the low end of a row is the remainder and the high
  end the quotient of its value by the width of the low end (`value_append`, `value_div`).  A power
  of two divides the value exactly when the parts below it are zero and it divides the part it falls
  into (`pow_dvd_value_low`, `pow_dvd_value_high`); this is what a mask over a row has to clear.
-/
import Mathlib.Data.Nat.Digits.Defs

namespace BigEndian

/-- The number that a row of parts stands for. -/
def value (bits : Nat) (parts : List Nat) : Nat := Nat.ofDigits (2 ^ bits) parts.reverse

@[simp] theorem value_nil (bits : Nat) : value bits [] = 0 := rfl

@[simp] theorem value_singleton (bits part : Nat) : value bits [part] = part :=
  Nat.ofDigits_singleton

theorem value_append (bits : Nat) (high low : List Nat) :
    value bits (high ++ low) = value bits high * 2 ^ (bits * low.length) + value bits low := by
  unfold value
  rw [List.reverse_append, Nat.ofDigits_append, List.length_reverse, ← Nat.pow_mul, Nat.add_comm,
    Nat.mul_comm]

theorem value_cons (bits part : Nat) (low : List Nat) :
    value bits (part :: low) = part * 2 ^ (bits * low.length) + value bits low := by
  have happend := value_append bits [part] low
  rwa [value_singleton] at happend

/-- The parts are as wide as they may be. -/
def Fits (bits : Nat) (parts : List Nat) : Prop := ∀ part ∈ parts, part < 2 ^ bits

theorem value_lt {bits : Nat} {parts : List Nat} (h : Fits bits parts) :
    value bits parts < 2 ^ (bits * parts.length) := by
  induction parts with
  | nil => exact Nat.one_pos
  | cons part low ih =>
    obtain ⟨hpart, hlow⟩ := List.forall_mem_cons.mp h
    have hvalue := ih hlow
    rw [value_cons, List.length_cons, Nat.mul_add, Nat.mul_one, Nat.pow_add]
    calc part * 2 ^ (bits * low.length) + value bits low
        < part * 2 ^ (bits * low.length) + 2 ^ (bits * low.length) := Nat.add_lt_add_left hvalue _
      _ = (part + 1) * 2 ^ (bits * low.length) := (Nat.succ_mul _ _).symm
      _ ≤ 2 ^ bits * 2 ^ (bits * low.length) := Nat.mul_le_mul_right _ hpart
      _ = 2 ^ (bits * low.length) * 2 ^ bits := Nat.mul_comm _ _

/-- The high end of a row is the quotient by the width of the low end. -/
theorem value_div {bits : Nat} (high : List Nat) {low : List Nat} (h : Fits bits low) :
    value bits (high ++ low) / 2 ^ (bits * low.length) = value bits high := by
  have hpos : 0 < 2 ^ (bits * low.length) := Nat.two_pow_pos _
  rw [value_append, Nat.add_comm, Nat.add_mul_div_right _ _ hpos, Nat.div_eq_of_lt (value_lt h),
    Nat.zero_add]

/-- A row of given length is told by its value. -/
theorem value_inj {bits : Nat} {a b : List Nat} (ha : Fits bits a) (hb : Fits bits b)
    (hlength : a.length = b.length) (h : value bits a = value bits b) : a = b := by
  induction a generalizing b with
  | nil => exact (List.eq_nil_of_length_eq_zero hlength.symm).symm
  | cons x a ih =>
    obtain _ | ⟨y, b⟩ := b
    · cases hlength
    obtain ⟨-, ha⟩ := List.forall_mem_cons.mp ha
    obtain ⟨-, hb⟩ := List.forall_mem_cons.mp hb
    have hlength : a.length = b.length := Nat.succ.inj hlength
    have hhead : x = y := by
      have hx := value_div [x] ha
      have hy := value_div [y] hb
      have hquotient := congrArg (· / 2 ^ (bits * b.length)) h
      rw [value_singleton] at hx hy
      rw [hlength] at hx
      exact hx.symm.trans (hquotient.trans hy)
    rw [value_cons, value_cons, hhead, hlength] at h
    have htail : a = b := ih ha hb hlength (Nat.add_left_cancel h)
    rw [hhead, htail]

/-- A power of two within the low end asks for nothing of the high one. -/
theorem pow_dvd_value_low {bits k part : Nat} {low : List Nat} (h : k ≤ bits * low.length) :
    2 ^ k ∣ value bits (part :: low) ↔ 2 ^ k ∣ value bits low := by
  rw [value_cons]
  exact Nat.dvd_add_right (Dvd.dvd.mul_left (Nat.pow_dvd_pow 2 h) part)

/-- A power of two that falls into the head asks for a low end of zeros. -/
theorem pow_dvd_value_high {bits k part : Nat} {low : List Nat} (h : Fits bits low) :
    2 ^ (bits * low.length + k) ∣ value bits (part :: low) ↔
      2 ^ k ∣ part ∧ 2 ^ (bits * low.length) ∣ value bits low := by
  have hpos : 0 < 2 ^ (bits * low.length) := Nat.two_pow_pos _
  have hdvd : 2 ^ (bits * low.length) ∣ part * 2 ^ (bits * low.length) := Nat.dvd_mul_left _ _
  rw [value_cons]
  constructor
  · intro hall
    have hlow : 2 ^ (bits * low.length) ∣ value bits low :=
      (Nat.dvd_add_right hdvd).mp ((Nat.pow_dvd_pow 2 (Nat.le_add_right _ k)).trans hall)
    have hzero : value bits low = 0 := Nat.eq_zero_of_dvd_of_lt hlow (value_lt h)
    rw [hzero, Nat.add_zero, Nat.pow_add, Nat.mul_comm] at hall
    exact ⟨Nat.dvd_of_mul_dvd_mul_right hpos hall, hlow⟩
  · rintro ⟨hpart, hlow⟩
    have hzero : value bits low = 0 := Nat.eq_zero_of_dvd_of_lt hlow (value_lt h)
    rw [hzero, Nat.add_zero, Nat.pow_add, Nat.mul_comm part]
    exact Nat.mul_dvd_mul_left _ hpart

end BigEndian
