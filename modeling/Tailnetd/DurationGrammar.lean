/-
  The grammar of a duration without a decimal point, and what the reader makes of it.

  A text of the grammar is an optional sign and then `0` alone or a row of groups, each some decimal
  digits and a unit; it denotes the exact sum of its groups with the sign applied.

  1. **Specification** — `Groups body total` and `DurationOf text d`, over integers without a bound.

  2. **One group (`readGroup_ok_iff`)** — a turn of the loop succeeds exactly on a group that keeps
     the total within `1 << 63`.  Its three guards, on the digits, on the product and on the total,
     come to the one bound on the total, because digits, product and total only grow.

  3. **The whole text (`parseGoDuration64_ok_iff`)** — the reader answers a word exactly where the
     text denotes it.  The bound is that of a signed word: `1 << 63` itself is taken behind a minus
     sign only.
-/
import Tailnetd.DurationBytes

namespace Tailnetd

/-! ## The grammar -/

/-- A row of groups of digits and a unit, and the sum of what they denote. -/
inductive Groups : List Char → Nat → Prop
  | last {ds name : List Char} {unit : Nat} (hne : ds ≠ []) (hds : Digits ds)
      (hunit : durationUnit name = some unit) :
      Groups (ds ++ name) (Nat.ofDigitChars 10 ds 0 * unit)
  | more {ds name rest : List Char} {unit total : Nat} (hne : ds ≠ []) (hds : Digits ds)
      (hunit : durationUnit name = some unit) (hrest : Groups rest total) :
      Groups (ds ++ (name ++ rest)) (Nat.ofDigitChars 10 ds 0 * unit + total)

/-- A text with its sign taken off, and whether the sign is a minus. -/
inductive Signed : List Char → List Char → Bool → Prop
  | plain {body : List Char} : Signed body body false
  | plus {body : List Char} : Signed ('+' :: body) body false
  | minus {body : List Char} : Signed ('-' :: body) body true

/-- The text denotes this many nanoseconds. -/
def DurationOf (text : List Char) (d : Int) : Prop :=
  ∃ body neg, Signed text body neg ∧
    ((body = ['0'] ∧ d = 0) ∨
      ∃ total : Nat, Groups body total ∧ d = if neg then -(total : Int) else total)

/-! ## One group -/

theorem unitName_of_durationUnit {name : List Char} {unit : Nat}
    (h : durationUnit name = some unit) : UnitName name unit := by
  refine .of_all h ?_ ?_
  · rintro rfl
    cases h
  · unfold durationUnit at h
    split at h <;> first | decide | cases h

/-- `leading_int` reads some digits up to the first character that is none, within the limit. -/
theorem leadingInt_eq_some_iff {n v : Nat} {s rest : List Char} (hn : n ≤ durationLimit) :
    leadingInt n s = some (v, rest) ↔
      ∃ ds, s = ds ++ rest ∧ Digits ds ∧ EndsNumber rest ∧ v = Nat.ofDigitChars 10 ds n ∧
        v ≤ durationLimit := by
  constructor
  · intro h
    induction s generalizing n with
    | nil =>
      cases h
      exact ⟨[], rfl, fun c hc => absurd hc List.not_mem_nil, fun c hc => (by cases hc), rfl, hn⟩
    | cons c s ih =>
      rw [leadingInt] at h
      cases hd : decimalDigit c with
      | none =>
        rw [hd] at h
        cases h
        refine ⟨[], rfl, fun c hc => absurd hc List.not_mem_nil, ?_, rfl, hn⟩
        intro c' hc'
        obtain rfl := Option.some.inj hc'
        exact hd
      | some d =>
        rw [hd] at h
        dsimp only at h
        split at h
        · cases h
        split at h
        · cases h
        next hfits =>
        obtain ⟨ds, rfl, hds, hends, hv, hle⟩ := ih (not_lt.mp hfits) h
        have hdigit : c.isDigit = true ∧ d = c.toNat - '0'.toNat := by
          unfold decimalDigit at hd
          split at hd
          · next hrange =>
            obtain rfl := Option.some.inj hd
            exact ⟨by simpa [Char.isDigit, Char.le_def] using hrange, rfl⟩
          · cases hd
        refine ⟨c :: ds, rfl, List.forall_mem_cons.mpr ⟨hdigit.1, hds⟩, hends, ?_, hle⟩
        rw [hv, Nat.ofDigitChars_cons, hdigit.2, Nat.mul_comm 10]
  · rintro ⟨ds, rfl, hds, hends, rfl, hle⟩
    exact leadingInt_digits hds hends hle

/-- Without a point there is no fraction. -/
theorem readFraction_no_point {s : List Char} (h : '.' ∉ s) :
    readFraction s = (0, 1, s, false) := by
  unfold readFraction
  split
  · exact absurd List.mem_cons_self h
  · rfl

theorem startsGroup_dropWhile (s : List Char) :
    StartsGroup (s.dropWhile fun c => !startsNumber c) := by
  intro c hc
  have hfirst := List.head?_dropWhile_not (fun c => !startsNumber c) s
  rw [Option.mem_def.mp hc] at hfirst
  simpa using hfirst

/-- The unit of a group without a fraction. -/
theorem readUnit_ok_iff {orig : String} {total v total' : Nat} {s rest : List Char} :
    readUnit orig total v 0 1 s = .ok (total', rest) ↔
      ∃ name unit, s = name ++ rest ∧ durationUnit name = some unit ∧ StartsGroup rest ∧
        total' = total + v * unit ∧ total' ≤ durationLimit := by
  have hzero : ∀ unit, fractionNanos 0 unit 1 = 0 := fun unit => if_neg (Nat.lt_irrefl 0)
  unfold readUnit
  simp only [hzero, Nat.add_zero]
  constructor
  · intro h
    split at h
    · cases h
    cases hunit : durationUnit (s.takeWhile fun c => !startsNumber c) with
    | none =>
      rw [hunit] at h
      cases h
    | some unit =>
      rw [hunit] at h
      dsimp only at h
      split at h
      · cases h
      split at h
      · cases h
      split at h
      · cases h
      next htotal =>
      obtain ⟨rfl, hrest⟩ := Prod.mk.inj (Except.ok.inj h)
      have hsplit : s = (s.takeWhile fun c => !startsNumber c) ++
          s.dropWhile fun c => !startsNumber c := List.takeWhile_append_dropWhile.symm
      have hdrop := @List.drop_left _ (s.takeWhile fun c => !startsNumber c)
        (s.dropWhile fun c => !startsNumber c)
      rw [List.takeWhile_append_dropWhile, hrest] at hdrop
      rw [← hdrop] at hsplit
      exact ⟨_, unit, hsplit, hunit, hdrop ▸ startsGroup_dropWhile s, rfl, not_lt.mp htotal⟩
  · rintro ⟨name, unit, rfl, hunit, hstarts, rfl, hle⟩
    have hname := unitName_of_durationUnit hunit
    obtain ⟨hpos, -⟩ := durationUnit_bounds hunit
    have hempty : name.isEmpty = false := List.isEmpty_eq_false_iff.mpr hname.nonempty
    have hguard : ¬ durationLimit / unit < v := by
      have hproduct : v * unit ≤ durationLimit := by omega
      exact not_lt.mpr ((Nat.le_div_iff_mul_le hpos).mpr hproduct)
    rw [hname.takeWhile hstarts, hempty, if_neg Bool.false_ne_true, hunit]
    dsimp only
    rw [if_neg hguard, if_neg (by omega), if_neg (by omega), List.drop_left]

/-- **A turn of the loop** succeeds exactly on a group that keeps the total within the limit. -/
theorem readGroup_ok_iff {orig : String} {total total' : Nat} {c : Char} {s rest : List Char}
    (hpoint : '.' ∉ c :: s) :
    readGroup orig total c s = .ok (total', rest) ↔
      ∃ ds name unit, c :: s = ds ++ (name ++ rest) ∧ ds ≠ [] ∧ Digits ds ∧
        durationUnit name = some unit ∧ StartsGroup rest ∧
        total' = total + Nat.ofDigitChars 10 ds 0 * unit ∧ total' ≤ durationLimit := by
  unfold readGroup
  constructor
  · intro h
    split at h
    · cases h
    cases hread : leadingInt 0 (c :: s) with
    | none =>
      rw [hread] at h
      cases h
    | some read =>
      obtain ⟨v, behind⟩ := read
      obtain ⟨ds, hsplit, hds, hends, rfl, -⟩ :=
        (leadingInt_eq_some_iff (Nat.zero_le _)).mp hread
      have hnone : '.' ∉ behind := fun hmem => hpoint (hsplit ▸ List.mem_append_right ds hmem)
      rw [hread] at h
      dsimp only at h
      rw [readFraction_no_point hnone] at h
      split at h
      · cases h
      next hdigit =>
      obtain ⟨name, unit, rfl, hunit, hstarts, htotal, hle⟩ := readUnit_ok_iff.mp h
      refine ⟨ds, name, unit, hsplit, ?_, hds, hunit, hstarts, htotal, hle⟩
      -- without a digit in front there is no number
      rintro rfl
      rw [hends c (by rw [← List.nil_append (name ++ rest), ← hsplit]; rfl)] at hdigit
      exact hdigit rfl
  · rintro ⟨ds, name, unit, hsplit, hne, hds, hunit, hstarts, htotal, hle⟩
    have hname := unitName_of_durationUnit hunit
    obtain ⟨hpos, -⟩ := durationUnit_bounds hunit
    have hlimit : Nat.ofDigitChars 10 ds 0 ≤ durationLimit := by
      have hproduct : Nat.ofDigitChars 10 ds 0 ≤ Nat.ofDigitChars 10 ds 0 * unit :=
        Nat.le_mul_of_pos_right _ hpos
      omega
    have hread : leadingInt 0 (c :: s) = some (Nat.ofDigitChars 10 ds 0, name ++ rest) := by
      rw [hsplit]
      exact leadingInt_digits hds (endsNumber_of_letter hname.head) hlimit
    have hnone : '.' ∉ name ++ rest := fun hmem => hpoint (hsplit ▸ List.mem_append_right ds hmem)
    have hc : c.isDigit = true := by
      obtain ⟨d, ds, rfl⟩ := List.exists_cons_of_ne_nil hne
      obtain ⟨rfl, -⟩ := List.cons.inj hsplit
      exact hds c List.mem_cons_self
    rw [startsNumber_of_isDigit hc, hread, decimalDigit_of_isDigit hc]
    dsimp only
    rw [readFraction_no_point hnone]
    exact readUnit_ok_iff.mpr ⟨name, unit, rfl, hunit, hstarts, htotal, hle⟩

/-! ## The row of groups -/

theorem Groups.starts {s : List Char} {total : Nat} (h : Groups s total) :
    s ≠ [] ∧ StartsGroup s := by
  have hfirst : ∀ {ds back : List Char}, ds ≠ [] → Digits ds →
      ds ++ back ≠ [] ∧ StartsGroup (ds ++ back) := by
    intro ds back hne hds
    obtain ⟨d, ds, rfl⟩ := List.exists_cons_of_ne_nil hne
    refine ⟨List.cons_ne_nil _ _, ?_⟩
    intro c hc
    obtain rfl := Option.some.inj hc
    exact startsNumber_of_isDigit (hds d List.mem_cons_self)
  cases h with
  | last hne hds _ => exact hfirst hne hds
  | more hne hds _ _ => exact hfirst hne hds

/-- A row of groups is a group and what is left of the row. -/
theorem groups_iff {s : List Char} {total : Nat} :
    Groups s total ↔ ∃ ds name unit rest more, s = ds ++ (name ++ rest) ∧ ds ≠ [] ∧ Digits ds ∧
      durationUnit name = some unit ∧ total = Nat.ofDigitChars 10 ds 0 * unit + more ∧
      ((rest = [] ∧ more = 0) ∨ Groups rest more) := by
  constructor
  · intro h
    cases h with
    | @last ds name unit hne hds hunit =>
      exact ⟨ds, name, unit, [], 0, by rw [List.append_nil], hne, hds, hunit, rfl, .inl ⟨rfl, rfl⟩⟩
    | @more ds name rest unit more hne hds hunit hrest =>
      exact ⟨ds, name, unit, rest, more, rfl, hne, hds, hunit, rfl, .inr hrest⟩
  · rintro ⟨ds, name, unit, rest, more, rfl, hne, hds, hunit, rfl, ⟨rfl, rfl⟩ | hrest⟩
    · rw [List.append_nil]
      exact .last hne hds hunit
    · exact .more hne hds hunit hrest

/-- At the end of the text the total stands. -/
theorem parseGroups_nil_iff {orig : String} {fuel total r : Nat} (htotal : total ≤ durationLimit) :
    parseGroups orig fuel total [] = .ok r ↔
      ∃ more, (([] = ([] : List Char) ∧ more = 0) ∨ Groups [] more) ∧ r = total + more ∧
        r ≤ durationLimit := by
  have hend : parseGroups orig fuel total [] = .ok total := by cases fuel <;> rfl
  rw [hend]
  constructor
  · intro h
    obtain rfl := Except.ok.inj h
    exact ⟨0, .inl ⟨rfl, rfl⟩, rfl, htotal⟩
  · rintro ⟨more, ⟨-, rfl⟩ | hgroups, rfl, -⟩
    · rfl
    · exact absurd rfl hgroups.starts.1

/-- **The loop** adds up exactly the rows of groups whose sum stays within the limit. -/
theorem parseGroups_ok_iff {orig : String} {fuel total r : Nat} {s : List Char}
    (hfuel : s.length ≤ fuel) (hpoint : '.' ∉ s) (htotal : total ≤ durationLimit) :
    parseGroups orig fuel total s = .ok r ↔
      ∃ more, ((s = [] ∧ more = 0) ∨ Groups s more) ∧ r = total + more ∧ r ≤ durationLimit := by
  induction fuel generalizing total s with
  | zero =>
    obtain rfl := List.length_eq_zero_iff.mp (Nat.le_zero.mp hfuel)
    exact parseGroups_nil_iff htotal
  | succ fuel ih =>
    cases s with
    | nil => exact parseGroups_nil_iff htotal
    | cons c s =>
      rw [parseGroups_turn]
      constructor
      · intro h
        cases hturn : readGroup orig total c s with
        | error e =>
          rw [hturn] at h
          cases h
        | ok turn =>
          obtain ⟨total', rest⟩ := turn
          rw [hturn] at h
          obtain ⟨ds, name, unit, hsplit, hne, hds, hunit, -, rfl, hle⟩ :=
            (readGroup_ok_iff hpoint).mp hturn
          have hshorter := readGroup_shorter hturn
          have hrest : '.' ∉ rest := by
            rw [hsplit] at hpoint
            exact fun hmem => hpoint (List.mem_append_right _ (List.mem_append_right _ hmem))
          rw [List.length_cons] at hfuel
          obtain ⟨more, hmore, rfl, hfits⟩ :=
            (ih (hshorter.trans (Nat.le_of_succ_le_succ hfuel)) hrest hle).mp h
          refine ⟨_, .inr (groups_iff.mpr ⟨ds, name, unit, rest, more, hsplit, hne, hds, hunit, rfl,
            hmore⟩), by rw [Nat.add_assoc], hfits⟩
      · rintro ⟨more, hmore, rfl, hfits⟩
        rcases hmore with ⟨hnil, -⟩ | hgroups
        · cases hnil
        obtain ⟨ds, name, unit, rest, more, hsplit, hne, hds, hunit, rfl, hmore⟩ :=
          groups_iff.mp hgroups
        have hstarts : StartsGroup rest := by
          rcases hmore with ⟨rfl, -⟩ | hrest
          · exact fun c hc => (by cases hc)
          · exact hrest.starts.2
        have hturn : readGroup orig total c s =
            .ok (total + Nat.ofDigitChars 10 ds 0 * unit, rest) :=
          (readGroup_ok_iff hpoint).mpr
            ⟨ds, name, unit, hsplit, hne, hds, hunit, hstarts, rfl, by omega⟩
        have hshorter := readGroup_shorter hturn
        have hnone : '.' ∉ rest := by
          rw [hsplit] at hpoint
          exact fun hmem => hpoint (List.mem_append_right _ (List.mem_append_right _ hmem))
        rw [List.length_cons] at hfuel
        rw [hturn]
        refine (ih (hshorter.trans (Nat.le_of_succ_le_succ hfuel)) hnone (by omega)).mpr
          ⟨more, hmore, by rw [Nat.add_assoc], hfits⟩

/-! ## The whole text -/

theorem splitSign_signed (text : List Char) :
    Signed text (splitSign text).2 (splitSign text).1 := by
  unfold splitSign
  split
  · exact .minus
  · exact .plus
  · exact .plain

/-- What stands behind the sign begins with a digit, so the sign is the one the reader takes off. -/
theorem Signed.unique {text body : List Char} {neg : Bool} (h : Signed text body neg)
    (hne : body ≠ []) (hstarts : StartsGroup body) : splitSign text = (neg, body) := by
  cases h with
  | plus => rfl
  | minus => rfl
  | plain =>
    obtain ⟨c, rest, rfl⟩ := List.exists_cons_of_ne_nil hne
    have hc : startsNumber c = true := hstarts c rfl
    unfold splitSign
    split
    · next heq =>
      obtain ⟨rfl, -⟩ := List.cons.inj heq
      exact absurd hc (by decide)
    · next heq =>
      obtain ⟨rfl, -⟩ := List.cons.inj heq
      exact absurd hc (by decide)
    · rfl

theorem not_mem_body {text : List Char} (h : '.' ∉ text) : '.' ∉ (splitSign text).2 := by
  intro hmem
  have hsigned := splitSign_signed text
  generalize splitSign text = sign at hmem hsigned
  obtain ⟨neg, body⟩ := sign
  cases hsigned with
  | plain => exact h hmem
  | plus => exact h (List.mem_cons_of_mem _ hmem)
  | minus => exact h (List.mem_cons_of_mem _ hmem)

/-- What the text denotes, told from the sign and the body that the reader splits it into. -/
theorem durationOf_iff {text : List Char} {d : Int} :
    DurationOf text d ↔ ((splitSign text).2 = ['0'] ∧ d = 0) ∨
      ∃ total : Nat, Groups (splitSign text).2 total ∧
        d = if (splitSign text).1 then -(total : Int) else total := by
  constructor
  · rintro ⟨body, neg, hsigned, ⟨rfl, rfl⟩ | ⟨total, hgroups, hd⟩⟩
    · have hsplit := hsigned.unique (List.cons_ne_nil _ _) fun c hc => by
        obtain rfl := Option.some.inj hc
        decide
      rw [hsplit]
      exact .inl ⟨rfl, rfl⟩
    · obtain ⟨hne, hstarts⟩ := hgroups.starts
      rw [hsigned.unique hne hstarts]
      exact .inr ⟨total, hgroups, hd⟩
  · intro h
    exact ⟨_, _, splitSign_signed text, h⟩

/-- A bare zero is no group: it has no unit. -/
theorem not_groups_bare (total : Nat) : ¬ Groups ['0'] total := by
  intro h
  obtain ⟨ds, name, unit, rest, more, hsplit, hne, -, hunit, -⟩ := groups_iff.mp h
  obtain ⟨d, ds, rfl⟩ := List.exists_cons_of_ne_nil hne
  have htail : ds ++ (name ++ rest) = [] := (List.cons.inj hsplit).2.symm
  obtain ⟨-, hname⟩ := List.append_eq_nil_iff.mp htail
  obtain ⟨rfl, -⟩ := List.append_eq_nil_iff.mp hname
  cases hunit

/-- The reader on numbers answers exactly what a text without a point denotes, in 64 bits. -/
theorem parseGoDuration_ok_iff {input : String} (hpoint : '.' ∉ input.toList) {d : Int} :
    parseGoDuration input = .ok d ↔
      DurationOf input.toList d ∧ -(durationLimit : Int) ≤ d ∧ d < durationLimit := by
  have hbody := not_mem_body hpoint
  have hlimit := durationLimit_eq
  rw [durationOf_iff, parseGoDuration]
  generalize splitSign input.toList = sign at hbody ⊢
  obtain ⟨neg, body⟩ := sign
  dsimp only at hbody ⊢
  by_cases hzero : body = ['0']
  · rw [if_pos hzero]
    constructor
    · intro h
      obtain rfl := Except.ok.inj h
      exact ⟨.inl ⟨hzero, rfl⟩, by omega, by omega⟩
    · rintro ⟨⟨-, rfl⟩ | ⟨total, hgroups, -⟩, -⟩
      · rfl
      · exact absurd (hzero ▸ hgroups) (not_groups_bare total)
  rw [if_neg hzero]
  by_cases hempty : body.isEmpty = true
  · rw [if_pos hempty]
    have hnil := List.isEmpty_iff.mp hempty
    constructor
    · intro h
      cases h
    · rintro ⟨⟨hbody, -⟩ | ⟨total, hgroups, -⟩, -⟩
      · exact absurd hbody hzero
      · exact absurd hnil hgroups.starts.1
  rw [if_neg hempty]
  have hsum {total : Nat} : parseGroups input body.length 0 body = .ok total ↔
      Groups body total ∧ total ≤ durationLimit := by
    rw [parseGroups_ok_iff (Nat.le_refl _) hbody (Nat.zero_le _)]
    constructor
    · rintro ⟨more, ⟨hnil, -⟩ | hgroups, rfl, hle⟩
      · exact absurd (List.isEmpty_iff.mpr hnil) hempty
      · rw [Nat.zero_add] at hle ⊢
        exact ⟨hgroups, hle⟩
    · rintro ⟨hgroups, hle⟩
      exact ⟨total, .inr hgroups, (Nat.zero_add _).symm, hle⟩
  constructor
  · intro h
    cases hread : parseGroups input body.length 0 body with
    | error e =>
      rw [hread] at h
      cases h
    | ok total =>
      obtain ⟨hgroups, hle⟩ := hsum.mp hread
      rw [hread] at h
      dsimp only at h
      cases neg with
      | true =>
        rw [if_pos rfl] at h
        obtain rfl := Except.ok.inj h
        exact ⟨.inr ⟨total, hgroups, rfl⟩, by omega, by omega⟩
      | false =>
        rw [if_neg Bool.false_ne_true] at h
        split at h
        · cases h
        · obtain rfl := Except.ok.inj h
          exact ⟨.inr ⟨total, hgroups, rfl⟩, by omega, by omega⟩
  · rintro ⟨⟨hbody, -⟩ | ⟨total, hgroups, rfl⟩, hlow, hhigh⟩
    · exact absurd hbody hzero
    cases neg with
    | true =>
      rw [if_pos rfl] at hlow hhigh ⊢
      rw [hsum.mpr ⟨hgroups, by omega⟩]
      rfl
    | false =>
      rw [if_neg Bool.false_ne_true] at hlow hhigh ⊢
      rw [hsum.mpr ⟨hgroups, by omega⟩]
      dsimp only
      rw [if_neg Bool.false_ne_true, if_neg (by omega)]

/-- **The reader realises the grammar.**  A text without a point is read as the word of its exact
    sum, and refused when it is none of the grammar or its sum is no word; on no text at all does
    the reader overflow, cut inside a character or go on for ever. -/
theorem parseGoDuration64_exact (input : String) :
    (∀ fault, parseGoDuration64 input = .error fault → ∃ text, fault = .refused text) ∧
      ('.' ∉ input.toList → ∀ d : Int64,
        parseGoDuration64 input = .ok d ↔ DurationOf input.toList d.toInt) := by
  rcases parseGoDuration64_eq input with ⟨d', hword, hnumber⟩ | ⟨e, hword, hnumber⟩
  · refine ⟨fun fault h => ?_, fun hpoint d => ?_⟩
    · rw [hword] at h
      cases h
    · have hlow : -(durationLimit : Int) ≤ d.toInt := Int64.le_toInt d
      have hhigh : d.toInt < durationLimit := Int64.toInt_lt d
      have hread := parseGoDuration_ok_iff hpoint (d := d.toInt)
      rw [hnumber, Except.ok.injEq, Int64.toInt_inj] at hread
      rw [hword, Except.ok.injEq, hread]
      exact ⟨fun h => h.1, fun h => ⟨h, hlow, hhigh⟩⟩
  · refine ⟨fun fault h => ?_, fun hpoint d => ?_⟩
    · rw [hword] at h
      exact ⟨e, (Except.error.inj h).symm⟩
    · have hlow : -(durationLimit : Int) ≤ d.toInt := Int64.le_toInt d
      have hhigh : d.toInt < durationLimit := Int64.toInt_lt d
      constructor
      · intro h
        rw [hword] at h
        cases h
      · intro hdenotes
        rw [(parseGoDuration_ok_iff hpoint).mpr ⟨hdenotes, hlow, hhigh⟩] at hnumber
        cases hnumber

/-- Two groups that come to the smallest word, whose magnitude is no word itself. -/
theorem parseGoDuration64_exact_smallest :
    parseGoDuration64 "-2562047h2836854775808ns" = .ok (-9223372036854775808) := by
  have hdigits : ∀ ds : List Char, ds.all Char.isDigit = true → Digits ds :=
    fun ds h c hc => List.all_eq_true.mp h c hc
  have hlast := @Groups.last "2836854775808".toList ['n', 's'] 1 (by decide)
    (hdigits _ (by decide)) rfl
  have hgroups := @Groups.more "2562047".toList ['h'] _ 3600000000000 _ (by decide)
    (hdigits _ (by decide)) rfl hlast
  exact ((parseGoDuration64_exact "-2562047h2836854775808ns").2 (by decide) _).mpr
    ⟨_, true, .minus, .inr ⟨_, hgroups, by decide +kernel⟩⟩

end Tailnetd
