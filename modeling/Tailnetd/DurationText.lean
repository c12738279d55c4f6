/-
  `Duration.String()` as `goduration.rs` ports it, and its round trip with the reader.

  A duration of a second or more is written in hours, minutes and seconds, with every lower unit
  present; a shorter one in the largest unit that keeps its whole part positive.  The fraction stops
  at its last digit that is not zero.

  The text is one to three groups of the reader's grammar, and every one of them is exact: the
  digits after a point are at most nine, so that the doubles the reader goes through hold them as
  they are.  Reading a text that was written therefore gives back the duration, whatever text the
  duration was first read from.
-/
import Tailnetd.GoDuration

namespace Tailnetd

/-! ## The writer -/

/-- The loop of `fmt_frac`: the last digits of `v`, from the first that is not zero on. -/
def fmtFracLoop : Nat → Bool → List Char → Nat → Bool × List Char × Nat
  | 0, printing, buf, v => (printing, buf, v)
  | prec + 1, printing, buf, v =>
    let printing := printing || v % 10 != 0
    fmtFracLoop prec printing (if printing then (v % 10).digitChar :: buf else buf) (v / 10)

/-- `fmt_frac`: the fraction of `v` in front of the buffer, and what remains of `v`. -/
def fmtFrac (buf : List Char) (v prec : Nat) : List Char × Nat :=
  let r := fmtFracLoop prec false buf v
  (if r.1 then '.' :: r.2.1 else r.2.1, r.2.2)

/-- `fmt_int`: the number in decimal in front of the buffer. -/
def fmtInt (buf : List Char) (v : Nat) : List Char := Nat.toDigits 10 v ++ buf

/-- A duration below a second: one unit, with `prec` digits after the point at most. -/
def fmtSubSecond (unit : List Char) (u prec : Nat) : List Char :=
  let r := fmtFrac unit u prec
  fmtInt r.1 r.2

/-- A duration of a second or more: seconds, then minutes and hours if there are any. -/
def fmtSeconds (u : Nat) : List Char :=
  let r := fmtFrac ['s'] u 9
  let seconds := r.2
  let buf := fmtInt r.1 (seconds % 60)
  let minutes := seconds / 60
  if 0 < minutes then
    let buf := fmtInt ('m' :: buf) (minutes % 60)
    let hours := minutes / 60
    if 0 < hours then fmtInt ('h' :: buf) hours else buf
  else buf

/-- The text of a magnitude. -/
def formatMagnitude (u : Nat) : List Char :=
  if u < 1000000000 then
    if u = 0 then ['0', 's']
    else if u < 1000 then fmtSubSecond ['n', 's'] u 0
    else if u < 1000000 then fmtSubSecond ['µ', 's'] u 3
    else fmtSubSecond ['m', 's'] u 6
  else fmtSeconds u

/-- `format_go_duration`: the buffer of the source is filled from its end, which is a list that
    grows at its front. -/
def formatGoDuration (d : Int) : String :=
  String.ofList (if d < 0 then '-' :: formatMagnitude d.natAbs else formatMagnitude d.natAbs)

example : formatGoDuration 25507001000000 = "7h5m7.001s" := by decide
example : formatGoDuration (-9223372036854775808) = "-2562047h47m16.854775808s" := by decide
example : formatGoDuration 1100 = "1.1µs" := by decide

/-! ## Digits -/

/-- A text of digits only. -/
def Digits (ds : List Char) : Prop := ∀ c ∈ ds, c.isDigit = true

theorem digits_toDigits (n : Nat) : Digits (Nat.toDigits 10 n) := by
  intro c hc
  exact Nat.isDigit_of_mem_toDigits (by decide) (by decide) hc

theorem decimalDigit_of_isDigit {c : Char} (h : c.isDigit = true) :
    decimalDigit c = some (c.toNat - 48) := by
  have hrange : '0' ≤ c ∧ c ≤ '9' := by
    simpa [Char.isDigit, Char.le_def] using h
  rw [decimalDigit, if_pos hrange]

theorem digit_lt_ten {c : Char} (h : c.isDigit = true) : c.toNat - 48 < 10 := by
  have hrange : '0'.toNat ≤ c.toNat ∧ c.toNat ≤ '9'.toNat := by
    simpa [Char.isDigit, Char.le_def, UInt32.le_iff_toNat_le] using h
  have hnine : '9'.toNat = 57 := rfl
  omega

/-- Reading on never makes a number smaller. -/
theorem le_ofDigitChars (ds : List Char) (n : Nat) : n ≤ Nat.ofDigitChars 10 ds n := by
  have hsplit := @Nat.ofDigitChars_eq_ofDigitChars_zero ds n
  have hpow : 1 ≤ 10 ^ ds.length := Nat.one_le_pow _ _ (by decide)
  have hle : n ≤ 10 ^ ds.length * n := Nat.le_mul_of_pos_left n hpow
  omega

/-- What follows a number: nothing, or a character that is no digit. -/
def EndsNumber (rest : List Char) : Prop := ∀ c ∈ rest.head?, decimalDigit c = none

/-- Every text of digits up to the limit is read as its number. -/
theorem leadingInt_digits {ds rest : List Char} (hds : Digits ds) (hrest : EndsNumber rest)
    {n : Nat} (hlimit : Nat.ofDigitChars 10 ds n ≤ durationLimit) :
    leadingInt n (ds ++ rest) = some (Nat.ofDigitChars 10 ds n, rest) := by
  induction ds generalizing n with
  | nil =>
    cases rest with
    | nil => rfl
    | cons c rest =>
      have hc : decimalDigit c = none := hrest c rfl
      rw [List.nil_append, leadingInt, hc]
      rfl
  | cons c ds ih =>
    obtain ⟨hc, hds⟩ := List.forall_mem_cons.mp hds
    rw [Nat.ofDigitChars_cons] at hlimit ⊢
    have hnext : 10 * n + (c.toNat - '0'.toNat) ≤ durationLimit :=
      (le_ofDigitChars ds _).trans hlimit
    have hzero : '0'.toNat = 48 := rfl
    have hsmall : ¬ durationLimit / 10 < n := by omega
    have hfits : ¬ durationLimit < n * 10 + (c.toNat - 48) := by omega
    have hcomm : n * 10 + (c.toNat - 48) = 10 * n + (c.toNat - '0'.toNat) := by omega
    rw [List.cons_append, leadingInt, decimalDigit_of_isDigit hc]
    dsimp only
    rw [if_neg hsmall, if_neg hfits, hcomm]
    exact ih hds hlimit

/-- A fraction of nine digits at most is read whole, with its power of ten as the scale. -/
theorem leadingFraction_digits {ds rest : List Char} (hds : Digits ds) (hrest : EndsNumber rest)
    {f j : Nat} (hf : f < 10 ^ j) (hj : j + ds.length ≤ 9) :
    leadingFraction f ((10 ^ j : Nat) : ℚ) false (ds ++ rest) =
      (Nat.ofDigitChars 10 ds f, ((10 ^ (j + ds.length) : Nat) : ℚ), rest) := by
  induction ds generalizing f j with
  | nil =>
    cases rest with
    | nil => rfl
    | cons c rest =>
      have hc : decimalDigit c = none := hrest c rfl
      rw [List.nil_append, leadingFraction, hc]
      rfl
  | cons c ds ih =>
    obtain ⟨hc, hds⟩ := List.forall_mem_cons.mp hds
    rw [List.length_cons] at hj ⊢
    have hdigit := digit_lt_ten hc
    have hnext : f * 10 + (c.toNat - 48) < 10 ^ (j + 1) := by
      rw [pow_succ]
      omega
    have hnine : 10 ^ (j + 1) ≤ 10 ^ 9 := Nat.pow_le_pow_right (by decide) (by omega)
    have hlimit : durationLimit = 9223372036854775808 := rfl
    have hgo : (false || decide ((durationLimit - 1) / 10 < f) ||
        decide (durationLimit < f * 10 + (c.toNat - 48))) = false := by
      simp only [Bool.false_or, Bool.or_eq_false_iff, decide_eq_false_iff_not]
      omega
    -- the scale stays a power of ten, which a double holds
    have hscale : Binary64.nearest (((10 ^ j : Nat) : ℚ) * 10) = ((10 ^ (j + 1) : Nat) : ℚ) := by
      have hcast : ((10 ^ j : Nat) : ℚ) * 10 = ((10 ^ (j + 1) : Nat) : ℚ) := by
        push_cast
        rw [pow_succ]
      rw [hcast]
      exact Binary64.nearest_natCast (lt_of_le_of_lt hnine (by decide))
    have hcomm : f * 10 + (c.toNat - 48) = 10 * f + (c.toNat - '0'.toNat) := by
      have hzero : '0'.toNat = 48 := rfl
      omega
    rw [List.cons_append, leadingFraction, decimalDigit_of_isDigit hc]
    dsimp only
    rw [hgo, if_neg Bool.false_ne_true, hscale, Nat.ofDigitChars_cons, ← hcomm,
      ih hds hnext (by omega), Nat.add_right_comm j 1, Nat.add_assoc j]

/-! ## Fractions -/

/-- A fraction as it is written: nothing, or a point and digits. -/
def fracText (ds : List Char) : List Char := if ds = [] then [] else '.' :: ds

/-- The digits of a number, `prec` of them. -/
theorem fmtFracLoop_printing (prec : Nat) (buf : List Char) (v : Nat) :
    ∃ ds, fmtFracLoop prec true buf v = (true, ds ++ buf, v / 10 ^ prec) ∧ Digits ds ∧
      ds.length = prec ∧ Nat.ofDigitChars 10 ds 0 = v % 10 ^ prec := by
  induction prec generalizing buf v with
  | zero =>
    refine ⟨[], ?_, fun c hc => absurd hc List.not_mem_nil, rfl, ?_⟩
    · rw [pow_zero, Nat.div_one]
      rfl
    · rw [pow_zero, Nat.mod_one]
      rfl
  | succ prec ih =>
    obtain ⟨ds, hloop, hds, hlen, hvalue⟩ := ih ((v % 10).digitChar :: buf) (v / 10)
    have hlt : v % 10 < 10 := Nat.mod_lt v (by decide)
    refine ⟨ds ++ [(v % 10).digitChar], ?_, ?_, ?_, ?_⟩
    · rw [fmtFracLoop, Bool.true_or, if_pos rfl, hloop, Nat.div_div_eq_div_mul, pow_succ',
        List.append_assoc]
      rfl
    · intro c hc
      rcases List.mem_append.mp hc with hold | hlast
      · exact hds c hold
      · rw [List.mem_singleton] at hlast
        rw [hlast, Nat.isDigit_digitChar]
        exact decide_eq_true hlt
    · rw [List.length_append, hlen, List.length_singleton]
    · rw [Nat.ofDigitChars_append, hvalue, Nat.ofDigitChars_cons_digitChar_of_lt_ten hlt,
        Nat.ofDigitChars_nil, pow_succ', Nat.mod_mul]
      omega

/-- The zeros at the end are dropped: what is written, scaled back, is the whole fraction. -/
theorem fmtFracLoop_spec (prec : Nat) (buf : List Char) (v : Nat) :
    ∃ ds, fmtFracLoop prec false buf v = (!ds.isEmpty, ds ++ buf, v / 10 ^ prec) ∧ Digits ds ∧
      ds.length ≤ prec ∧
      Nat.ofDigitChars 10 ds 0 * 10 ^ (prec - ds.length) = v % 10 ^ prec := by
  induction prec generalizing v with
  | zero =>
    refine ⟨[], ?_, fun c hc => absurd hc List.not_mem_nil, Nat.le_refl 0, ?_⟩
    · rw [pow_zero, Nat.div_one]
      rfl
    · rw [pow_zero, Nat.mod_one]
      rfl
  | succ prec ih =>
    have hlt : v % 10 < 10 := Nat.mod_lt v (by decide)
    have hmod : v % 10 ^ (prec + 1) = v % 10 + 10 * (v / 10 % 10 ^ prec) := by
      rw [pow_succ', Nat.mod_mul]
    have hdiv : v / 10 / 10 ^ prec = v / 10 ^ (prec + 1) := by
      rw [Nat.div_div_eq_div_mul, pow_succ']
    by_cases hzero : v % 10 = 0
    · -- a zero, and nothing is written yet: it is left out
      obtain ⟨ds, hloop, hds, hlen, hvalue⟩ := ih (v / 10)
      refine ⟨ds, ?_, hds, hlen.trans (Nat.le_succ prec), ?_⟩
      · rw [fmtFracLoop, hzero]
        exact hdiv ▸ hloop
      · have hsub : prec + 1 - ds.length = prec - ds.length + 1 := by omega
        rw [hsub, pow_succ, ← Nat.mul_assoc, hvalue, hmod, hzero]
        omega
    · obtain ⟨ds, hloop, hds, hlen, hvalue⟩ :=
        fmtFracLoop_printing prec ((v % 10).digitChar :: buf) (v / 10)
      have hprinting : (false || v % 10 != 0) = true := by
        simpa using hzero
      refine ⟨ds ++ [(v % 10).digitChar], ?_, ?_, ?_, ?_⟩
      · rw [fmtFracLoop, hprinting, if_pos rfl, hloop, hdiv, List.append_assoc,
          List.isEmpty_eq_false_iff.mpr (by simp)]
        rfl
      · intro c hc
        rcases List.mem_append.mp hc with hold | hlast
        · exact hds c hold
        · rw [List.mem_singleton] at hlast
          rw [hlast, Nat.isDigit_digitChar]
          exact decide_eq_true hlt
      · rw [List.length_append, hlen, List.length_singleton]
      · have hfull : prec + 1 - (ds ++ [(v % 10).digitChar]).length = 0 := by
          rw [List.length_append, hlen, List.length_singleton, Nat.sub_self]
        rw [hfull, pow_zero, Nat.mul_one, Nat.ofDigitChars_append, hvalue,
          Nat.ofDigitChars_cons_digitChar_of_lt_ten hlt, Nat.ofDigitChars_nil, hmod]
        omega

/-- **What `fmt_frac` writes**: the fraction of `prec` digits, and the whole part is left. -/
theorem fmtFrac_spec (buf : List Char) (v prec : Nat) :
    ∃ ds, fmtFrac buf v prec = (fracText ds ++ buf, v / 10 ^ prec) ∧ Digits ds ∧
      ds.length ≤ prec ∧
      Nat.ofDigitChars 10 ds 0 * 10 ^ (prec - ds.length) = v % 10 ^ prec := by
  obtain ⟨ds, hloop, hds, hlen, hvalue⟩ := fmtFracLoop_spec prec buf v
  refine ⟨ds, ?_, hds, hlen, hvalue⟩
  rw [fmtFrac, hloop, fracText]
  cases ds with
  | nil => rfl
  | cons c ds => rfl

/-- Up to nine digits the doubles are exact: a fraction comes to its whole number of nanoseconds. -/
theorem fractionNanos_exact {f k prec : Nat} (hf : f < 10 ^ k) (hk : k ≤ prec) (hprec : prec ≤ 9) :
    fractionNanos f (10 ^ prec) ((10 ^ k : Nat) : ℚ) = f * 10 ^ (prec - k) := by
  have hnine : ∀ j ≤ 9, 10 ^ j < 2 ^ 53 := by
    intro j hj
    have hle : 10 ^ j ≤ 10 ^ 9 := Nat.pow_le_pow_right (by decide) hj
    exact lt_of_le_of_lt hle (by decide)
  have hsplit : 10 ^ prec = 10 ^ (prec - k) * 10 ^ k := by
    rw [← pow_add, Nat.sub_add_cancel hk]
  have hquotient :
      ((10 ^ prec : Nat) : ℚ) / ((10 ^ k : Nat) : ℚ) = ((10 ^ (prec - k) : Nat) : ℚ) := by
    have hne : ((10 ^ k : Nat) : ℚ) ≠ 0 := by
      exact Nat.cast_ne_zero.mpr (by positivity)
    rw [div_eq_iff hne]
    exact_mod_cast hsplit
  have hproduct : f * 10 ^ (prec - k) < 2 ^ 53 := by
    have hlt : f * 10 ^ (prec - k) < 10 ^ k * 10 ^ (prec - k) :=
      Nat.mul_lt_mul_of_pos_right hf (by positivity)
    rw [Nat.mul_comm (10 ^ k), ← hsplit] at hlt
    exact hlt.trans (hnine prec hprec)
  have hsmall : f < 2 ^ 53 := hf.trans (hnine k (hk.trans hprec))
  rw [fractionNanos]
  split
  · rw [Binary64.nearest_natCast hsmall, Binary64.nearest_natCast (hnine prec hprec), hquotient,
      Binary64.nearest_natCast (hnine _ (by omega)), ← Nat.cast_mul,
      Binary64.nearest_natCast hproduct, Int.floor_natCast, Int.toNat_natCast]
  · rename_i hnone
    rw [Nat.eq_zero_of_not_pos hnone, Nat.zero_mul]

/-- A fraction is below its power of ten. -/
theorem ofDigitChars_lt {ds : List Char} (h : Digits ds) :
    Nat.ofDigitChars 10 ds 0 < 10 ^ ds.length := by
  suffices hall : ∀ n, Nat.ofDigitChars 10 ds n < (n + 1) * 10 ^ ds.length by
    simpa using hall 0
  induction ds with
  | nil => intro n; simp
  | cons c ds ih =>
    intro n
    obtain ⟨hc, hds⟩ := List.forall_mem_cons.mp h
    have hdigit : c.toNat - '0'.toNat < 10 := digit_lt_ten hc
    have hstep : 10 * n + (c.toNat - '0'.toNat) + 1 ≤ (n + 1) * 10 := by omega
    calc Nat.ofDigitChars 10 (c :: ds) n
        = Nat.ofDigitChars 10 ds (10 * n + (c.toNat - '0'.toNat)) := Nat.ofDigitChars_cons
      _ < (10 * n + (c.toNat - '0'.toNat) + 1) * 10 ^ ds.length := ih hds _
      _ ≤ (n + 1) * 10 * 10 ^ ds.length := Nat.mul_le_mul_right _ hstep
      _ = (n + 1) * 10 ^ (c :: ds).length := by rw [List.length_cons, pow_succ', Nat.mul_assoc]

/-! ## Groups -/

/-- A unit's name: no character of it starts a number. -/
structure UnitName (name : List Char) (unit : Nat) : Prop where
  unit : durationUnit name = some unit
  nonempty : name ≠ []
  letters : ∀ c ∈ name, startsNumber c = false

theorem UnitName.of_all {name : List Char} {unit : Nat} (hunit : durationUnit name = some unit)
    (hne : name ≠ []) (hall : (name.all fun c => !startsNumber c) = true) : UnitName name unit where
  unit := hunit
  nonempty := hne
  letters := fun c hc => by simpa using List.all_eq_true.mp hall c hc

/-- What follows a group: nothing, or the number of the next one. -/
def StartsGroup (rest : List Char) : Prop := ∀ c ∈ rest.head?, startsNumber c = true

variable {name rest : List Char} {unit : Nat}

theorem UnitName.head (h : UnitName name unit) :
    ∀ c ∈ (name ++ rest).head?, startsNumber c = false := by
  intro c hc
  cases name with
  | nil => exact absurd rfl h.nonempty
  | cons n ns =>
    have heq : n = c := by simpa using hc
    exact heq ▸ h.letters n List.mem_cons_self

theorem UnitName.takeWhile (h : UnitName name unit) (hrest : StartsGroup rest) :
    (name ++ rest).takeWhile (fun c => !startsNumber c) = name := by
  have hname : ∀ c ∈ name, (!startsNumber c) = true := by
    intro c hc
    rw [h.letters c hc]
    rfl
  rw [List.takeWhile_append_of_pos hname]
  cases rest with
  | nil => exact List.append_nil name
  | cons c rest =>
    have hc : startsNumber c = true := hrest c rfl
    rw [List.takeWhile_cons_of_neg (by rw [hc]; decide), List.append_nil]

theorem startsNumber_of_isDigit {c : Char} (h : c.isDigit = true) : startsNumber c = true := by
  rw [startsNumber, decimalDigit_of_isDigit h]
  exact Bool.or_true _

theorem endsNumber_of_letter (h : ∀ c ∈ rest.head?, startsNumber c = false) : EndsNumber rest := by
  intro c hc
  have hno := (Bool.or_eq_false_iff.mp (h c hc)).2
  exact Option.isSome_eq_false_iff.mp hno |> Option.isNone_iff_eq_none.mp

/-- A written fraction is read back. -/
theorem readFraction_fracText {ds : List Char} (hds : Digits ds) (hlen : ds.length ≤ 9)
    (hrest : ∀ c ∈ rest.head?, startsNumber c = false) :
    ∃ hadFrac, readFraction (fracText ds ++ rest) =
      (Nat.ofDigitChars 10 ds 0, ((10 ^ ds.length : Nat) : ℚ), rest, hadFrac) := by
  cases ds with
  | nil =>
    refine ⟨false, ?_⟩
    show readFraction rest = _
    unfold readFraction
    split
    · -- a point would start a number
      exact absurd (hrest '.' rfl) (by decide)
    · rw [Nat.ofDigitChars_nil, List.length_nil, pow_zero, Nat.cast_one]
  | cons d ds =>
    have hread := @leadingFraction_digits _ _ hds (endsNumber_of_letter hrest) 0 0 (by decide)
      (by omega)
    rw [Nat.zero_add, pow_zero, Nat.cast_one] at hread
    refine ⟨decide (rest.length < (d :: ds ++ rest).length), ?_⟩
    show readFraction ('.' :: (d :: ds ++ rest)) = _
    rw [readFraction, hread]

/-- What the digits after a point add to a number of units. -/
def fractionOf (ds : List Char) (unit : Nat) : Nat :=
  fractionNanos (Nat.ofDigitChars 10 ds 0) unit ((10 ^ ds.length : Nat) : ℚ)

/-- **One group is read as its number of units**, and the loop goes on with what follows. -/
theorem parseGroups_group {orig : String} {fuel total v : Nat} {ds : List Char}
    (hname : UnitName name unit) (hrest : StartsGroup rest) (hds : Digits ds) (hlen : ds.length ≤ 9)
    (hunit : 0 < unit) (hfits : total + (v * unit + fractionOf ds unit) ≤ durationLimit) :
    parseGroups orig (fuel + 1) total (Nat.toDigits 10 v ++ (fracText ds ++ (name ++ rest))) =
      parseGroups orig fuel (total + (v * unit + fractionOf ds unit)) rest := by
  have hends : EndsNumber (fracText ds ++ (name ++ rest)) := by
    cases ds with
    | nil => exact endsNumber_of_letter hname.head
    | cons d ds =>
      intro c hc
      have heq : '.' = c := by simpa [fracText] using hc
      exact heq ▸ rfl
  have hmul : v * unit ≤ durationLimit := by omega
  have hv : v ≤ durationLimit / unit := (Nat.le_div_iff_mul_le hunit).mpr hmul
  have hint : leadingInt 0 (Nat.toDigits 10 v ++ (fracText ds ++ (name ++ rest))) =
      some (v, fracText ds ++ (name ++ rest)) := by
    have hread := @leadingInt_digits _ _ (digits_toDigits v) hends 0
    rw [Nat.ofDigitChars_ten_toDigits] at hread
    exact hread (hv.trans (Nat.div_le_self _ _))
  -- the number has a first digit, on which the loop takes its turn
  obtain ⟨c, cs, hcs⟩ : ∃ c cs, Nat.toDigits 10 v = c :: cs :=
    List.exists_cons_of_ne_nil Nat.toDigits_ne_nil
  have hc : c.isDigit = true := digits_toDigits v c (hcs ▸ List.mem_cons_self)
  rw [hcs, List.cons_append] at hint ⊢
  obtain ⟨hadFrac, hfrac⟩ := @readFraction_fracText (name ++ rest) _ hds hlen hname.head
  have hempty : name.isEmpty = false := List.isEmpty_eq_false_iff.mpr hname.nonempty
  have hdrop : (name ++ rest).drop name.length = rest := List.drop_left
  have hover : ¬ durationLimit / unit < v := by omega
  have hvalue : ¬ durationLimit < v * unit + fractionOf ds unit := by omega
  have htotal : ¬ durationLimit < total + (v * unit + fractionOf ds unit) := by omega
  rw [parseGroups, startsNumber_of_isDigit hc, hint, decimalDigit_of_isDigit hc]
  dsimp only
  rw [hfrac]
  dsimp only
  rw [hname.takeWhile hrest, hdrop, hname.unit, hempty]
  simp only [Bool.not_true, Option.isSome_some, Bool.false_and, Bool.false_eq_true, if_false,
    if_neg hover]
  exact (if_neg hvalue).trans (if_neg htotal)

/-- A whole number of units. -/
theorem parseGroups_whole {orig : String} {fuel total v : Nat} (hname : UnitName name unit)
    (hrest : StartsGroup rest) (hunit : 0 < unit) (hfits : total + v * unit ≤ durationLimit) :
    parseGroups orig (fuel + 1) total (fmtInt (name ++ rest) v) =
      parseGroups orig fuel (total + v * unit) rest := by
  have hzero : fractionOf [] unit = 0 := rfl
  have hgroup := @parseGroups_group name rest unit orig fuel total v [] hname hrest
    (fun c hc => absurd hc List.not_mem_nil) (by decide) hunit (by rw [hzero]; exact hfits)
  rw [hzero] at hgroup
  exact hgroup

/-- A number with the fraction that `fmt_frac` writes of `u`. -/
theorem parseGroups_fmtFrac {orig : String} {fuel total u v prec : Nat}
    (hname : UnitName name (10 ^ prec)) (hprec : prec ≤ 9)
    (hfits : total + (v * 10 ^ prec + u % 10 ^ prec) ≤ durationLimit) :
    parseGroups orig (fuel + 1) total (fmtInt (fmtFrac name u prec).1 v) =
      .ok (total + (v * 10 ^ prec + u % 10 ^ prec)) := by
  obtain ⟨ds, hfmt, hds, hlen, hvalue⟩ := fmtFrac_spec name u prec
  have hunit : 0 < 10 ^ prec := by positivity
  have hfraction : fractionOf ds (10 ^ prec) = u % 10 ^ prec := by
    rw [fractionOf, fractionNanos_exact (ofDigitChars_lt hds) hlen hprec, hvalue]
  have hgroup := @parseGroups_group name [] (10 ^ prec) orig fuel total v ds hname
    (fun c hc => by cases hc) hds (hlen.trans hprec) hunit (by rw [hfraction]; exact hfits)
  rw [List.append_nil, hfraction] at hgroup
  rw [hfmt]
  refine hgroup.trans ?_
  cases fuel <;> rfl

/-! ## The round trip -/

theorem fmtFrac_rest (buf : List Char) (v prec : Nat) : (fmtFrac buf v prec).2 = v / 10 ^ prec := by
  obtain ⟨ds, hfmt, -⟩ := fmtFrac_spec buf v prec
  rw [hfmt]

/-- Every buffer that begins with a number starts a group. -/
theorem startsGroup_fmtInt (buf : List Char) (v : Nat) : StartsGroup (fmtInt buf v) := by
  intro c hc
  obtain ⟨d, ds, hds⟩ : ∃ d ds, Nat.toDigits 10 v = d :: ds :=
    List.exists_cons_of_ne_nil Nat.toDigits_ne_nil
  have heq : d = c := by simpa [fmtInt, hds] using hc
  have hdigit : d.isDigit = true := digits_toDigits v d (hds ▸ List.mem_cons_self)
  exact heq ▸ startsNumber_of_isDigit hdigit

theorem parseGroups_fmtSubSecond {orig : String} {fuel u prec : Nat}
    (hname : UnitName name (10 ^ prec)) (hprec : prec ≤ 9) (hu : u ≤ durationLimit) :
    parseGroups orig (fuel + 1) 0 (fmtSubSecond name u prec) = .ok u := by
  have hmod : u / 10 ^ prec * 10 ^ prec + u % 10 ^ prec = u := Nat.div_add_mod' u (10 ^ prec)
  have hread := @parseGroups_fmtFrac name orig fuel 0 u (u / 10 ^ prec) prec hname hprec
    (by rw [hmod, Nat.zero_add]; exact hu)
  rw [hmod, Nat.zero_add] at hread
  rw [fmtSubSecond, fmtFrac_rest]
  exact hread

theorem unitName_second : UnitName ['s'] (10 ^ 9) := .of_all rfl (by decide) (by decide)
theorem unitName_minute : UnitName ['m'] 60000000000 := .of_all rfl (by decide) (by decide)
theorem unitName_hour : UnitName ['h'] 3600000000000 := .of_all rfl (by decide) (by decide)

/-- A duration of a second or more: hours and minutes, each if there are any, and seconds. -/
theorem parseGroups_fmtSeconds {orig : String} {fuel u : Nat} (hu : u ≤ durationLimit) :
    parseGroups orig (fuel + 3) 0 (fmtSeconds u) = .ok u := by
  have hrest : (fmtFrac ['s'] u 9).2 = u / 10 ^ 9 := fmtFrac_rest ['s'] u 9
  rw [fmtSeconds]
  dsimp only
  rw [hrest]
  by_cases hminutes : 0 < u / 10 ^ 9 / 60
  · rw [if_pos hminutes]
    by_cases hhours : 0 < u / 10 ^ 9 / 60 / 60
    · rw [if_pos hhours, ← List.singleton_append, parseGroups_whole unitName_hour
        (startsGroup_fmtInt _ _) (by decide) (by omega), ← List.singleton_append,
        parseGroups_whole unitName_minute (startsGroup_fmtInt _ _) (by decide) (by omega),
        parseGroups_fmtFrac unitName_second (by decide) (by omega)]
      congr 1
      omega
    · rw [if_neg hhours, ← List.singleton_append,
        parseGroups_whole unitName_minute (startsGroup_fmtInt _ _) (by decide) (by omega),
        parseGroups_fmtFrac unitName_second (by decide) (by omega)]
      congr 1
      omega
  · rw [if_neg hminutes, parseGroups_fmtFrac unitName_second (by decide) (by omega)]
    congr 1
    omega

/-- The text of a magnitude is read as the magnitude. -/
theorem parseGroups_formatMagnitude {orig : String} {fuel u : Nat} (hu : u ≤ durationLimit) :
    parseGroups orig (fuel + 3) 0 (formatMagnitude u) = .ok u := by
  rw [formatMagnitude]
  split
  · split
    · rename_i hzero
      have hread := @parseGroups_whole ['s'] [] (10 ^ 9) orig (fuel + 2) 0 0 unitName_second
        (fun c hc => by cases hc) (by decide) (by omega)
      rw [hzero]
      exact hread
    · split
      · exact parseGroups_fmtSubSecond (.of_all rfl (by decide) (by decide)) (by decide) hu
      · split
        · exact parseGroups_fmtSubSecond (.of_all rfl (by decide) (by decide)) (by decide) hu
        · exact parseGroups_fmtSubSecond (.of_all rfl (by decide) (by decide)) (by decide) hu
  · exact parseGroups_fmtSeconds hu

/-! ## Fuel -/

theorem leadingInt_length {n v : Nat} {s rest : List Char} (h : leadingInt n s = some (v, rest)) :
    rest.length ≤ s.length := by
  induction s generalizing n with
  | nil =>
    cases h
    exact Nat.le_refl _
  | cons c s ih =>
    rw [leadingInt] at h
    cases hd : decimalDigit c with
    | none =>
      rw [hd] at h
      cases h
      exact Nat.le_refl _
    | some d =>
      rw [hd] at h
      dsimp only at h
      split at h
      · cases h
      · split at h
        · cases h
        · exact (ih h).trans (Nat.le_succ _)

theorem leadingFraction_length (value : Nat) (scale : ℚ) (overflow : Bool) (s : List Char) :
    (leadingFraction value scale overflow s).2.2.length ≤ s.length := by
  induction s generalizing value scale overflow with
  | nil => exact Nat.le_refl _
  | cons c s ih =>
    rw [leadingFraction]
    cases hd : decimalDigit c with
    | none => exact Nat.le_refl _
    | some d =>
      dsimp only
      split <;> exact (ih _ _ _).trans (Nat.le_succ _)

theorem readFraction_length (s : List Char) : (readFraction s).2.2.1.length ≤ s.length := by
  unfold readFraction
  split
  · exact (leadingFraction_length 0 1 false _).trans (Nat.le_succ _)
  · exact Nat.le_refl _

/-- **The length of the text is enough fuel**: a turn consumes a character, so more changes
    nothing. -/
theorem parseGroups_fuel {orig : String} {fuel fuel' total : Nat} {s : List Char}
    (h : s.length ≤ fuel) (h' : s.length ≤ fuel') :
    parseGroups orig fuel total s = parseGroups orig fuel' total s := by
  induction fuel generalizing fuel' total s with
  | zero =>
    have hnil : s = [] := List.length_eq_zero_iff.mp (Nat.le_zero.mp h)
    rw [hnil]
    cases fuel' <;> rfl
  | succ fuel ih =>
    cases s with
    | nil => cases fuel' <;> rfl
    | cons c s =>
      obtain ⟨fuel', rfl⟩ : ∃ k, fuel' = k + 1 :=
        ⟨fuel' - 1, by rw [List.length_cons] at h'; omega⟩
      rw [parseGroups, parseGroups]
      cases hint : leadingInt 0 (c :: s) with
      | none => rfl
      | some read =>
        obtain ⟨v, rest⟩ := read
        have hrest := leadingInt_length hint
        have hfraction := readFraction_length rest
        dsimp only
        cases hunit : durationUnit ((readFraction rest).2.2.1.takeWhile fun c => !startsNumber c) with
        | none => rfl
        | some unit =>
          dsimp only
          have hname : ((readFraction rest).2.2.1.takeWhile fun c => !startsNumber c).length ≠ 0 := by
            intro hzero
            rw [List.length_eq_zero_iff.mp hzero] at hunit
            cases hunit
          have hshorter : ((readFraction rest).2.2.1.drop
              ((readFraction rest).2.2.1.takeWhile fun c => !startsNumber c).length).length ≤
                s.length := by
            rw [List.length_drop]
            rw [List.length_cons] at hrest
            omega
          rw [List.length_cons] at h h'
          rw [ih (hshorter.trans (Nat.le_of_succ_le_succ h))
            (hshorter.trans (Nat.le_of_succ_le_succ h'))]

/-- The sum stays within the limit. -/
theorem parseGroups_le {orig : String} {fuel total r : Nat} {s : List Char}
    (htotal : total ≤ durationLimit) (h : parseGroups orig fuel total s = .ok r) :
    r ≤ durationLimit := by
  induction fuel generalizing total s with
  | zero =>
    cases s with
    | nil =>
      cases h
      exact htotal
    | cons c s => cases h
  | succ fuel ih =>
    cases s with
    | nil =>
      cases h
      exact htotal
    | cons c s =>
      rw [parseGroups] at h
      cases hint : leadingInt 0 (c :: s) with
      | none =>
        rw [hint] at h
        dsimp only at h
        split at h <;> cases h
      | some read =>
        rw [hint] at h
        dsimp only at h
        split at h
        · cases h
        · split at h
          · cases h
          · split at h
            · cases h
            · split at h
              · cases h
              · split at h
                · cases h
                · split at h
                  · cases h
                  · split at h
                    · cases h
                    · exact ih (by omega) h

/-! ## The round trip -/

/-- A magnitude begins with a number, and a unit at least follows it. -/
theorem formatMagnitude_eq_fmtInt (u : Nat) :
    ∃ buf v, buf ≠ [] ∧ formatMagnitude u = fmtInt buf v := by
  have hfraction : ∀ {name : List Char} {prec : Nat}, name ≠ [] → (fmtFrac name u prec).1 ≠ [] := by
    intro name prec hname
    obtain ⟨ds, hfmt, -⟩ := fmtFrac_spec name u prec
    rw [hfmt]
    exact List.append_ne_nil_of_right_ne_nil _ hname
  rw [formatMagnitude]
  split
  · split
    · exact ⟨['s'], 0, by decide, rfl⟩
    · split
      · exact ⟨_, _, hfraction (by decide), rfl⟩
      · split <;> exact ⟨_, _, hfraction (by decide), rfl⟩
  · rw [fmtSeconds]
    dsimp only
    split
    · split <;> exact ⟨_, _, List.cons_ne_nil _ _, rfl⟩
    · exact ⟨_, _, hfraction (by decide), rfl⟩

/-- The text of a magnitude, with the fuel that the reader gives it. -/
theorem parseGroups_magnitude {orig : String} {u : Nat} (hu : u ≤ durationLimit) :
    parseGroups orig (formatMagnitude u).length 0 (formatMagnitude u) = .ok u := by
  have hmore := @parseGroups_formatMagnitude orig (formatMagnitude u).length u hu
  rw [← hmore]
  exact parseGroups_fuel (Nat.le_refl _) (Nat.le_add_right _ 3)

/-- No magnitude is written as a bare digit or as nothing, and none with a sign. -/
theorem formatMagnitude_shape (u : Nat) :
    formatMagnitude u ≠ ['0'] ∧ (formatMagnitude u).isEmpty = false ∧
      splitSign (formatMagnitude u) = (false, formatMagnitude u) := by
  obtain ⟨buf, v, hbuf, htext⟩ := formatMagnitude_eq_fmtInt u
  obtain ⟨d, ds, hds⟩ : ∃ d ds, Nat.toDigits 10 v = d :: ds :=
    List.exists_cons_of_ne_nil Nat.toDigits_ne_nil
  have hdigit : d.isDigit = true := digits_toDigits v d (hds ▸ List.mem_cons_self)
  rw [htext, fmtInt, hds, List.cons_append]
  refine ⟨?_, rfl, ?_⟩
  · intro hbare
    have hnil : ds ++ buf = [] := (List.cons.inj hbare).2
    exact hbuf (List.append_eq_nil_iff.mp hnil).2
  · unfold splitSign
    split
    · -- a sign is no digit
      rename_i heq
      rw [(List.cons.inj heq).1] at hdigit
      exact absurd hdigit (by decide)
    · rename_i heq
      rw [(List.cons.inj heq).1] at hdigit
      exact absurd hdigit (by decide)
    · rfl

/-- **A duration that was written is read back**, for every 64-bit count of nanoseconds. -/
theorem parseGoDuration_formatGoDuration {d : Int} (hlow : -(durationLimit : Int) ≤ d)
    (hhigh : d < durationLimit) : parseGoDuration (formatGoDuration d) = .ok d := by
  have hu : d.natAbs ≤ durationLimit := by omega
  have hread := @parseGroups_magnitude (formatGoDuration d) _ hu
  obtain ⟨hzero, hempty, hsign⟩ := formatMagnitude_shape d.natAbs
  rw [parseGoDuration]
  by_cases hneg : d < 0
  · have htext : splitSign (formatGoDuration d).toList = (true, formatMagnitude d.natAbs) := by
      rw [formatGoDuration, if_pos hneg, String.toList_ofList]
      rfl
    rw [htext]
    dsimp only
    rw [if_neg hzero, hempty, if_neg Bool.false_ne_true, hread]
    dsimp only
    rw [if_pos rfl]
    congr 1
    omega
  · have htext : splitSign (formatGoDuration d).toList = (false, formatMagnitude d.natAbs) := by
      rw [formatGoDuration, if_neg hneg, String.toList_ofList, hsign]
    have hover : ¬ durationLimit - 1 < d.natAbs := by omega
    rw [htext]
    dsimp only
    rw [if_neg hzero, hempty, if_neg Bool.false_ne_true, hread]
    dsimp only
    rw [if_neg Bool.false_ne_true, if_neg hover]
    congr 1
    omega

/-- What is read fits in 64 bits. -/
theorem parseGoDuration_bounds {text : String} {d : Int} (h : parseGoDuration text = .ok d) :
    -(durationLimit : Int) ≤ d ∧ d < durationLimit := by
  have hpos : 0 < durationLimit := by decide
  rw [parseGoDuration] at h
  dsimp only at h
  split at h
  · cases h
    omega
  · split at h
    · cases h
    · split at h
      · cases h
      · rename_i total htotal
        have hle := parseGroups_le (Nat.zero_le _) htotal
        split at h
        · cases h
          omega
        · split at h
          · cases h
          · cases h
            omega

end Tailnetd
