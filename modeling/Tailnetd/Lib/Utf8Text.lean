/-
  Texts as their UTF-8 bytes.

  A text is a list of characters and `bytes` its encoding.  Offsets count bytes: `from? n` and
  `upTo? n` cut a text after its first `n` bytes, and answer nothing where that is not between two
  characters (`from?_append`, `upTo?_eq_some_iff`).  A byte below 128 is a whole character, and no
  other character has such a byte (`ascii_or_high`), so a scan for ASCII bytes and a scan for ASCII
  characters see the same.
-/
import Mathlib.Data.List.Basic

namespace Utf8Text

/-- The UTF-8 encoding of a text. -/
def bytes (s : List Char) : List UInt8 := s.flatMap String.utf8EncodeChar

/-- What stands behind the first `n` bytes. -/
def from? : Nat → List Char → Option (List Char)
  | 0, s => some s
  | _ + 1, [] => none
  | n + 1, c :: s => if c.utf8Size ≤ n + 1 then from? (n + 1 - c.utf8Size) s else none

/-- The first `n` bytes. -/
def upTo? : Nat → List Char → Option (List Char)
  | 0, _ => some []
  | _ + 1, [] => none
  | n + 1, c :: s =>
    if c.utf8Size ≤ n + 1 then (upTo? (n + 1 - c.utf8Size) s).map (c :: ·) else none

/-- `&s[a..b]`. -/
def slice? (a b : Nat) (s : List Char) : Option (List Char) := (from? a s).bind (upTo? (b - a))

@[simp] theorem bytes_nil : bytes [] = [] := rfl

@[simp] theorem bytes_cons (c : Char) (s : List Char) :
    bytes (c :: s) = String.utf8EncodeChar c ++ bytes s := List.flatMap_cons

@[simp] theorem bytes_append (s t : List Char) : bytes (s ++ t) = bytes s ++ bytes t :=
  List.flatMap_append

/-- A character is one byte below 128, or several from 128 on. -/
theorem ascii_or_high (c : Char) :
    (c.toNat < 128 ∧ String.utf8EncodeChar c = [UInt8.ofNat c.toNat]) ∨
      (128 ≤ c.toNat ∧ ∀ b ∈ String.utf8EncodeChar c, 128 ≤ b.toNat) := by
  have hval : c.val.toNat = c.toNat := rfl
  by_cases h : c.toNat < 128
  · refine .inl ⟨h, ?_⟩
    rw [String.utf8EncodeChar, hval, if_pos (by omega)]
  · refine .inr ⟨by omega, fun b hb => ?_⟩
    rw [String.utf8EncodeChar, hval, if_neg (by omega)] at hb
    split at hb <;> [skip; split at hb] <;>
    · simp only [List.mem_cons, List.not_mem_nil, or_false] at hb
      rcases hb with rfl | rfl | rfl | rfl <;> simp <;> omega

/-- The first byte of a character: the character itself below 128, at least 128 otherwise. -/
theorem first_byte (c : Char) :
    ∃ b after, String.utf8EncodeChar c = b :: after ∧
      ((c.toNat < 128 ∧ b.toNat = c.toNat ∧ after = []) ∨ (128 ≤ c.toNat ∧ 128 ≤ b.toNat)) := by
  rcases ascii_or_high c with ⟨hlow, henc⟩ | ⟨hhigh, henc⟩
  · refine ⟨_, [], henc, .inl ⟨hlow, ?_, rfl⟩⟩
    rw [UInt8.toNat_ofNat']
    omega
  · obtain ⟨b, after, hb⟩ := List.exists_cons_of_ne_nil (String.utf8EncodeChar_ne_nil (c := c))
    exact ⟨b, after, hb, .inr ⟨hhigh, henc b (hb ▸ List.mem_cons_self)⟩⟩

/-- A first byte is that of an ASCII character exactly when the character is that one. -/
theorem first_byte_eq_iff {c d : Char} {b : UInt8} {after : List UInt8}
    (hb : String.utf8EncodeChar c = b :: after) (hd : d.toNat < 128) :
    b = d.toUInt8 ↔ c = d := by
  obtain ⟨b', after', hb', hcases⟩ := first_byte c
  obtain ⟨rfl, -⟩ := List.cons.inj (hb.symm.trans hb')
  have hbyte : d.toUInt8.toNat = d.toNat := by
    rw [Char.toUInt8, UInt32.toNat_toUInt8]
    exact Nat.mod_eq_of_lt (by have : d.val.toNat = d.toNat := rfl; omega)
  constructor
  · intro h
    have hnat : b.toNat = d.toNat := h ▸ hbyte
    rcases hcases with ⟨-, hb, -⟩ | ⟨-, hb⟩
    · exact Char.toNat_inj.mp (hb.symm.trans hnat)
    · omega
  · intro h
    subst h
    rcases hcases with ⟨-, hb, -⟩ | ⟨hhigh, -⟩
    · exact UInt8.toNat_inj.mp (hb.trans hbyte.symm)
    · omega

/-- No byte of a character is one of the last eight. -/
theorem byte_lt (c : Char) : ∀ b ∈ String.utf8EncodeChar c, b.toNat < 0xF8 := by
  intro b hb
  have hval : c.val.toNat = c.toNat := rfl
  rw [String.utf8EncodeChar, hval] at hb
  split at hb <;> [skip; split at hb <;> [skip; split at hb]] <;>
  · simp only [List.mem_cons, List.not_mem_nil, or_false] at hb
    rcases hb with rfl | rfl | rfl | rfl <;> simp <;> omega

/-- Characters below 128 take one byte each. -/
theorem bytes_length_of_ascii {s : List Char} (h : ∀ c ∈ s, c.toNat < 128) :
    (bytes s).length = s.length := by
  induction s with
  | nil => rfl
  | cons c s ih =>
    obtain ⟨hc, hs⟩ := List.forall_mem_cons.mp h
    rcases ascii_or_high c with ⟨-, henc⟩ | ⟨hhigh, -⟩
    · rw [bytes_cons, henc, List.singleton_append, List.length_cons, ih hs, List.length_cons]
    · omega

/-! ## Tests for ASCII characters -/

/-- A test of bytes and a test of characters that agree on ASCII, and fail on all the rest. -/
structure AsciiTest (p : UInt8 → Bool) (q : Char → Bool) : Prop where
  low : ∀ n < 128, p (UInt8.ofNat n) = q (Char.ofNat n)
  byte_high : ∀ b : UInt8, 128 ≤ b.toNat → p b = false
  char_high : ∀ c : Char, 128 ≤ c.toNat → q c = false

namespace AsciiTest

variable {p : UInt8 → Bool} {q : Char → Bool}

/-- A character that passes is one byte, which passes. -/
theorem pass (h : AsciiTest p q) {c : Char} (hc : q c = true) :
    c.toNat < 128 ∧ ∃ b, String.utf8EncodeChar c = [b] ∧ b.toNat = c.toNat ∧ p b = true := by
  rcases ascii_or_high c with ⟨hlow, henc⟩ | ⟨hhigh, -⟩
  · refine ⟨hlow, _, henc, ?_, ?_⟩
    · rw [UInt8.toNat_ofNat']
      omega
    · rw [h.low _ hlow, Char.ofNat_toNat, hc]
  · rw [h.char_high c hhigh] at hc
    cases hc

/-- No byte of a character that fails passes. -/
theorem fail (h : AsciiTest p q) {c : Char} (hc : q c = false) :
    ∀ b ∈ String.utf8EncodeChar c, p b = false := by
  intro b hb
  rcases ascii_or_high c with ⟨hlow, henc⟩ | ⟨-, henc⟩
  · rw [henc, List.mem_singleton] at hb
    rw [hb, h.low _ hlow, Char.ofNat_toNat, hc]
  · exact h.byte_high b (henc b hb)

/-- The first byte of a character passes exactly when the character does. -/
theorem first (h : AsciiTest p q) {c : Char} {b : UInt8} {after : List UInt8}
    (hb : String.utf8EncodeChar c = b :: after) : p b = q c := by
  cases hc : q c with
  | true =>
    obtain ⟨-, b', henc, -, hpass⟩ := h.pass hc
    obtain ⟨rfl, -⟩ := List.cons.inj (hb.symm.trans henc)
    exact hpass
  | false => exact h.fail hc b (hb ▸ List.mem_cons_self)

/-- Tested byte by byte, a text passes exactly when each of its characters does. -/
theorem all_iff (h : AsciiTest p q) {s : List Char} :
    (bytes s).all p = true ↔ ∀ c ∈ s, q c = true := by
  induction s with
  | nil => simp
  | cons c s ih =>
    rw [bytes_cons, List.all_append, Bool.and_eq_true, ih, List.forall_mem_cons]
    refine and_congr_left' ?_
    obtain ⟨b, after, hb⟩ := List.exists_cons_of_ne_nil (String.utf8EncodeChar_ne_nil (c := c))
    constructor
    · intro hall
      rw [hb, List.all_cons, Bool.and_eq_true] at hall
      rw [← h.first hb, hall.1]
    · intro hc
      obtain ⟨-, b', henc, -, hpass⟩ := h.pass hc
      rw [henc, List.all_cons, hpass, List.all_nil, Bool.and_true]

/-- The bytes before the first that passes are those of the characters before it. -/
theorem takeWhile_bytes (h : AsciiTest p q) (s : List Char) :
    (bytes s).takeWhile (fun b => !p b) = bytes (s.takeWhile fun c => !q c) := by
  induction s with
  | nil => rfl
  | cons c s ih =>
    cases hc : q c with
    | true =>
      obtain ⟨-, b, henc, -, hpass⟩ := h.pass hc
      rw [bytes_cons, henc]
      simp [hpass, hc]
    | false =>
      have hnone : ∀ b ∈ String.utf8EncodeChar c, (!p b) = true := by
        intro b hb
        rw [h.fail hc b hb]
        rfl
      rw [bytes_cons, List.takeWhile_append_of_pos hnone, ih]
      simp [hc]

end AsciiTest

/-! ## Cutting between characters -/

/-- A text cut after its first character's bytes. -/
theorem utf8Size_le_bytes (c : Char) (s : List Char) : c.utf8Size ≤ (bytes (c :: s)).length := by
  rw [bytes_cons, List.length_append, String.length_utf8EncodeChar]
  omega

theorem bytes_length_cons (c : Char) (s : List Char) :
    (bytes (c :: s)).length = c.utf8Size + (bytes s).length := by
  rw [bytes_cons, List.length_append, String.length_utf8EncodeChar]

theorem bytes_eq_nil {s : List Char} (h : (bytes s).length = 0) : s = [] := by
  cases s with
  | nil => rfl
  | cons c s =>
    have hpos := c.utf8Size_pos
    rw [bytes_length_cons] at h
    omega

theorem from?_append (front back : List Char) :
    from? (bytes front).length (front ++ back) = some back := by
  induction front with
  | nil => rw [bytes_nil, List.length_nil, List.nil_append, from?]
  | cons c front ih =>
    have hpos := c.utf8Size_pos
    obtain ⟨n, hn⟩ : ∃ n, (bytes (c :: front)).length = n + 1 :=
      Nat.exists_eq_add_one.mpr (by rw [bytes_length_cons]; omega)
    have hrest : n + 1 - c.utf8Size = (bytes front).length := by
      rw [← hn, bytes_length_cons, Nat.add_sub_cancel_left]
    rw [hn, List.cons_append, from?, if_pos (hn ▸ utf8Size_le_bytes c front), hrest, ih]

theorem upTo?_append (front back : List Char) :
    upTo? (bytes front).length (front ++ back) = some front := by
  induction front with
  | nil => rw [bytes_nil, List.length_nil, upTo?]
  | cons c front ih =>
    have hpos := c.utf8Size_pos
    obtain ⟨n, hn⟩ : ∃ n, (bytes (c :: front)).length = n + 1 :=
      Nat.exists_eq_add_one.mpr (by rw [bytes_length_cons]; omega)
    have hrest : n + 1 - c.utf8Size = (bytes front).length := by
      rw [← hn, bytes_length_cons, Nat.add_sub_cancel_left]
    rw [hn, List.cons_append, upTo?, if_pos (hn ▸ utf8Size_le_bytes c front), hrest, ih,
      Option.map_some]

/-- **A text is cut where some beginning of it ends.** -/
theorem upTo?_eq_some_iff {n : Nat} {s front : List Char} :
    upTo? n s = some front ↔ ∃ back, s = front ++ back ∧ (bytes front).length = n := by
  constructor
  · intro h
    induction n, s using upTo?.induct generalizing front with
    | case1 s =>
      rw [upTo?] at h
      obtain rfl := Option.some.inj h
      exact ⟨s, rfl, rfl⟩
    | case2 n => cases h
    | case3 n c s hle ih =>
      rw [upTo?, if_pos hle] at h
      obtain ⟨begun, hbegun, rfl⟩ := Option.map_eq_some_iff.mp h
      obtain ⟨back, rfl, hlen⟩ := ih hbegun
      refine ⟨back, rfl, ?_⟩
      rw [bytes_length_cons, hlen]
      omega
    | case4 n c s hle =>
      rw [upTo?, if_neg hle] at h
      cases h
  · rintro ⟨back, rfl, rfl⟩
    exact upTo?_append front back

/-- Behind a known beginning the offsets go on. -/
theorem from?_add (front s : List Char) (n : Nat) :
    from? ((bytes front).length + n) (front ++ s) = from? n s := by
  induction front with
  | nil => rw [bytes_nil, List.length_nil, Nat.zero_add, List.nil_append]
  | cons c front ih =>
    have hpos := c.utf8Size_pos
    obtain ⟨m, hm⟩ : ∃ m, (bytes (c :: front)).length + n = m + 1 :=
      Nat.exists_eq_add_one.mpr (by rw [bytes_length_cons]; omega)
    have hle : c.utf8Size ≤ m + 1 := by
      rw [← hm, bytes_length_cons]
      omega
    have hrest : m + 1 - c.utf8Size = (bytes front).length + n := by
      rw [← hm, bytes_length_cons]
      omega
    rw [hm, List.cons_append, from?, if_pos hle, hrest, ih]

theorem slice?_add (front s : List Char) (a b : Nat) :
    slice? ((bytes front).length + a) ((bytes front).length + b) (front ++ s) = slice? a b s := by
  rw [slice?, from?_add, Nat.add_sub_add_left, slice?]

/-- A slice of a text behind a known beginning. -/
theorem slice?_append_eq_some_iff {front s middle : List Char} {n : Nat} :
    slice? (bytes front).length ((bytes front).length + n) (front ++ s) = some middle ↔
      ∃ back, s = middle ++ back ∧ (bytes middle).length = n := by
  rw [slice?, from?_append, Option.bind_some, Nat.add_sub_cancel_left, upTo?_eq_some_iff]

/-- Which bytes are read as a text. -/
theorem fromUTF8?_eq_some_iff {bytes : List UInt8} {text : String} :
    String.fromUTF8? bytes.toByteArray = some text ↔ bytes = text.toByteArray.data.toList := by
  constructor
  · intro h
    unfold String.fromUTF8? at h
    split at h
    · cases h
      exact List.toList_data_toByteArray.symm
    · cases h
  · rintro rfl
    have hbytes : text.toByteArray.data.toList.toByteArray = text.toByteArray :=
      ByteArray.ext List.data_toByteArray
    rw [hbytes, String.fromUTF8?, dif_pos text.isValidUTF8]
    rfl

end Utf8Text
