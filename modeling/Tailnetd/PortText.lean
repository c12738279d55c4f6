/-
  Ports as texts (`ipn/serve.rs`).

  The serve config names a port by a decimal text: the whole key of the TCP map, what follows the
  last colon in the keys of the two other maps.  A writer makes the canonical text; a reader that
  parses also takes every other spelling of the same number, and a reader that compares takes the
  canonical one only.  What is here says when the two meet.
-/
import Tailnetd.ServeEdits

namespace Tailnetd

/-! ## Parsing what was printed -/

/-- Over digits, the checked sum is the plain one. -/
theorem decimalValue_foldlM {digits : List Char} (h : ∀ c ∈ digits, '0' ≤ c ∧ c ≤ '9') (n : Nat) :
    digits.foldlM
        (fun n c => if '0' ≤ c ∧ c ≤ '9' then some (10 * n + (c.toNat - '0'.toNat)) else none) n =
      some (Nat.ofDigitChars 10 digits n) := by
  induction digits generalizing n with
  | nil => rfl
  | cons c digits ih =>
    obtain ⟨hc, hdigits⟩ := List.forall_mem_cons.mp h
    rw [List.foldlM_cons, if_pos hc, Nat.ofDigitChars_cons]
    exact ih hdigits _

/-- A character of a number as the parsers take it. -/
def IsNumeral (c : Char) : Prop := c = '+' ∨ ('0' ≤ c ∧ c ≤ '9')

theorem decimalValue_digits {digits : List Char} (h : (decimalValue digits).isSome) :
    ∀ c ∈ digits, '0' ≤ c ∧ c ≤ '9' := by
  unfold decimalValue at h
  generalize 0 = acc at h
  induction digits generalizing acc with
  | nil => exact fun c hc => absurd hc List.not_mem_nil
  | cons d digits ih =>
    rw [List.foldlM_cons] at h
    by_cases hd : '0' ≤ d ∧ d ≤ '9'
    · rw [if_pos hd] at h
      exact List.forall_mem_cons.mpr ⟨hd, ih _ h⟩
    · rw [if_neg hd] at h
      cases h

theorem parseU16_numerals {text : String} {p : UInt16} (h : parseU16 text = some p) :
    text ≠ "" ∧ ∀ c ∈ text.toList, IsNumeral c := by
  have hnumerals (digits : List Char) {n : Nat} (hvalue : decimalValue digits = some n) :
      ∀ c ∈ digits, '0' ≤ c ∧ c ≤ '9' :=
    decimalValue_digits (by rw [hvalue]; rfl)
  unfold parseU16 at h
  dsimp only at h
  -- behind a plus sign or without one the rest is read alike
  split at h
  · rename_i rest hplus
    split at h
    · cases h
    · split at h
      · cases h
      · rename_i n hvalue
        refine ⟨fun hempty => ?_, fun c hc => ?_⟩
        · rw [hempty] at hplus
          cases hplus
        · rw [hplus] at hc
          exact (List.mem_cons.mp hc).imp_right (hnumerals rest hvalue c)
  · split at h
    · cases h
    · rename_i hne
      split at h
      · cases h
      · rename_i n hvalue
        refine ⟨fun hempty => hne ?_, fun c hc => .inr (hnumerals text.toList hvalue c hc)⟩
        rw [hempty]
        rfl

/-- **A port parses back from its text.** -/
theorem parseU16_portText (port : UInt16) : parseU16 (toString port.toNat) = some port := by
  have hdigits := @Radix.digit_of_mem_toDigits port.toNat
  have hvalue : decimalValue (Nat.toDigits 10 port.toNat) = some port.toNat := by
    unfold decimalValue
    rw [decimalValue_foldlM fun c hc => hdigits hc, Nat.ofDigitChars_ten_toDigits]
  have hne : (Nat.toDigits 10 port.toNat).isEmpty = false := by
    simp [Nat.toDigits_ne_nil]
  unfold parseU16
  dsimp only
  rw [Radix.toList_toString]
  split
  · -- no digit is a sign
    rename_i rest heq
    have hplus : '+' ∈ Nat.toDigits 10 port.toNat := by
      rw [heq]
      exact List.mem_cons_self
    exact absurd (hdigits hplus).1 (by decide)
  · rw [hne, if_neg Bool.false_ne_true, hvalue]
    dsimp only
    rw [if_pos port.toNat_lt]
    exact congrArg some UInt16.ofNat_toNat

/-! ## The port of a key -/

/-- What follows the last separator. -/
theorem rsplitOnce_append {sep : Char} {front back : List Char} (h : sep ∉ back) :
    rsplitOnce sep (String.ofList (front ++ sep :: back)) =
      some (String.ofList front, String.ofList back) := by
  have hback : ∀ c ∈ back.reverse, (c != sep) = true := by
    intro c hc
    rw [bne_iff_ne]
    rintro rfl
    exact h (List.mem_reverse.mp hc)
  unfold rsplitOnce
  dsimp only
  rw [String.toList_ofList, List.reverse_append, List.reverse_cons, List.append_assoc,
    List.dropWhile_append_of_pos hback, List.takeWhile_append_of_pos hback]
  simp

/-- The port a `host:port` key names, in whatever spelling. -/
def keyPort (key : String) : Option UInt16 :=
  (rsplitOnce ':' key).bind fun hostPort => parseU16 hostPort.2

/-- A key that ends in a port names it. -/
theorem keyPort_of_endsWith {key : String} {port : UInt16}
    (h : endsWith (portSuffix port) key = true) : keyPort key = some port := by
  unfold endsWith at h
  rw [List.isSuffixOf_iff_suffix] at h
  obtain ⟨host, hkey⟩ := h
  have hsplit : key = String.ofList (host ++ ':' :: (toString port.toNat).toList) := by
    rw [← String.toList_inj, String.toList_ofList, ← hkey]
    simp [portSuffix]
  unfold keyPort
  rw [hsplit, rsplitOnce_append (colon_notMem_portText port), Option.bind_some, String.ofList_toList]
  exact parseU16_portText port

/-- The keys of a port name it. -/
theorem keyPort_hostPort (host : String) (port : UInt16) :
    keyPort (hostPort host port) = some port :=
  keyPort_of_endsWith (endsWith_hostPort host port)

/-- The funnel's reader goes by the parsed port. -/
theorem mem_funnelPorts {cfg : ServeConfig} {port : UInt16} :
    port ∈ funnelPorts cfg ↔
      port ≠ 0 ∧ ∃ key, cfg.allowFunnel.get? key = some true ∧ keyPort key = some port := by
  unfold funnelPorts
  rw [List.mem_toFinset, List.mem_filter, List.mem_filterMap]
  constructor
  · rintro ⟨⟨entry, hmem, hport⟩, hne⟩
    obtain ⟨hentry, hon⟩ := List.mem_filter.mp hmem
    refine ⟨by simpa using hne, entry.1, ?_, hport⟩
    rw [← hon]
    exact SortedMap.get?_eq_some_iff.mpr hentry
  · rintro ⟨hne, key, hon, hport⟩
    refine ⟨⟨(key, true), ?_, hport⟩, by simpa using hne⟩
    exact List.mem_filter.mpr ⟨SortedMap.get?_eq_some_iff.mp hon, rfl⟩

end Tailnetd
