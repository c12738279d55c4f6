/-
  The two base encodings of the lock log: `base32_nopad` of the daemon (`ipn/diag.rs`), in which an
  update's hash is shown, and `base64_url_padded` of the client (`tnet.rs`), in which `--json` shows
  signatures and raw updates.

  The daemon keeps an accumulator of 32 bits that it never masks: every byte moves it up by eight,
  and what is no longer pending falls off its top or stands above the bits that are read.  Fewer
  than five bits are pending when the next byte comes, so twelve are at most, and the symbols still
  to be written are those of the pending bits of the accumulator and the bytes to come
  (`base32Loop_eq`).  The client takes three bytes at a time into one number of 24 bits; of the four
  symbols of that number a chunk of `k` bytes has `k + 1` (`quantum_eq`).

  Both texts are compared with the encoding of a row of bits by groups (`rfcBase32`,
  `rfcBase64Url`), which says nothing about accumulators or chunks.
-/
import Tailnetd.Lib.BitGroups
import Tailnetd.LockSecret

namespace Tailnetd

open BitGroups

/-! ## The encoders -/

/-- The daemon's `ALPHABET`. -/
def base32Alphabet : Alphabet 5 where
  symbols := "ABCDEFGHIJKLMNOPQRSTUVWXYZ234567".toList
  length_symbols := by decide
  nodup := by decide +kernel

/-- The client's `ALPHABET`. -/
def base64Alphabet : Alphabet 6 where
  symbols := "ABCDEFGHIJKLMNOPQRSTUVWXYZabcdefghijklmnopqrstuvwxyz0123456789-_".toList
  length_symbols := by decide
  nodup := by decide +kernel

/-- `while bits >= 5`: the symbols that are pushed, and the bits still pending after them. -/
def drain (acc : UInt32) : Nat → List Char × Nat
  | bits + 5 =>
    let (pushed, pending) := drain acc bits
    (base32Alphabet.symbol ((acc >>> UInt32.ofNat bits) &&& 0x1f).toNat :: pushed, pending)
  | bits => ([], bits)

/-- The loop over the bytes with its accumulator and its pending bits, and the symbol after it. -/
def base32Loop (acc : UInt32) (bits : Nat) : List UInt8 → List Char
  | [] =>
    if 0 < bits then
      [base32Alphabet.symbol ((acc <<< UInt32.ofNat (5 - bits)) &&& 0x1f).toNat]
    else []
  | byte :: rest =>
    -- never masked: what is eight bits from the top falls off
    let acc := (acc <<< 8) ||| byte.toUInt32
    let (pushed, pending) := drain acc (bits + 8)
    pushed ++ base32Loop acc pending rest

/-- `base32_nopad`. -/
def base32Nopad (data : List UInt8) : String := String.ofList (base32Loop 0 0 data)

/-- `data.chunks(3)`. -/
def chunks : List UInt8 → List (List UInt8)
  | [] => []
  | [b0] => [[b0]]
  | [b0, b1] => [[b0, b1]]
  | b0 :: b1 :: b2 :: rest => [b0, b1, b2] :: chunks rest

/-- The number of a chunk, a missing byte read as zero. -/
def chunkNumber (chunk : List UInt8) : UInt32 :=
  let b0 := chunk.getD 0 0
  let b1 := chunk.getD 1 0
  let b2 := chunk.getD 2 0
  (b0.toUInt32 <<< 16) ||| (b1.toUInt32 <<< 8) ||| b2.toUInt32

/-- The four signs of a chunk: a symbol up to its length and padding after it. -/
def quantum (chunk : List UInt8) : List Char :=
  (List.range 4).map fun i =>
    if i ≤ chunk.length then
      base64Alphabet.symbol ((chunkNumber chunk >>> UInt32.ofNat (18 - 6 * i)) &&& 0x3f).toNat
    else '='

/-- `base64_url_padded`. -/
def base64UrlPadded (data : List UInt8) : String :=
  String.ofList ((chunks data).flatMap quantum)

/-- An entry of the engine's log of updates. -/
structure TkaLogEntry where
  aumHash : Vector UInt8 32
  change : String
  signerKeyIds : List (List UInt8)
  raw : List UInt8

/-- A row of the lock log. -/
structure LockLogEntry where
  hash : String
  change : String
  signerKeyIds : List String
  raw : String

/-- The row that the daemon makes of an entry. -/
def lockLogEntry (e : TkaLogEntry) : LockLogEntry where
  hash := base32Nopad e.aumHash.toList
  change := e.change
  signerKeyIds := e.signerKeyIds.map fun id => "tlpub:" ++ String.ofList (encodeHex id)
  raw := String.ofList (encodeHex e.raw)

/-! ## The encodings they are to be -/

/-- Standard base32 without padding: one symbol for five bits, the last ones left-aligned. -/
def rfcBase32 (data : List UInt8) : String := String.ofList (base32Alphabet.encode data)

/-- URL-safe base64 with padding to four signs. -/
def rfcBase64Url (data : List UInt8) : String :=
  String.ofList (base64Alphabet.encodePadded 4 data)

/-- The decoder of standard base32 without padding. -/
def rfcBase32Decode (text : String) : Option (List UInt8) := base32Alphabet.decode? text.toList

/-- The decoder of URL-safe base64 with padding. -/
def rfcBase64UrlDecode (text : String) : Option (List UInt8) :=
  base64Alphabet.decodePadded? 4 text.toList

/-! ## What the shifts and masks do to the bits -/

/-- A byte taken in stands below the bits that were pending. -/
theorem bitsOf_take_in (acc : UInt32) (byte : UInt8) {bits : Nat} (h : bits ≤ 24) :
    bitsOf (bits + 8) ((acc <<< 8) ||| byte.toUInt32).toNat =
      bitsOf bits acc.toNat ++ byteBits byte := by
  have hbyte : byte.toNat < 2 ^ 8 := byte.toNat_lt
  have hnumber : ((acc <<< 8) ||| byte.toUInt32).toNat =
      (acc.toNat <<< 8 % 2 ^ 32) ||| byte.toNat := by
    rw [UInt32.toNat_or, UInt32.toNat_shiftLeft, UInt8.toNat_toUInt32]
    rfl
  have hlow : bitsOf 8 ((acc <<< 8) ||| byte.toUInt32).toNat = byteBits byte := by
    refine bitsOf_congr fun i hi => ?_
    rw [hnumber, Nat.testBit_or, Nat.testBit_mod_two_pow, Nat.testBit_shiftLeft,
      decide_eq_false (show ¬i ≥ 8 by omega), Bool.false_and, Bool.and_false, Bool.false_or]
  have hhigh : bitsOf bits (((acc <<< 8) ||| byte.toUInt32).toNat >>> 8) =
      bitsOf bits acc.toNat := by
    refine bitsOf_congr fun i hi => ?_
    have hnone : byte.toNat.testBit (8 + i) = false :=
      Nat.testBit_lt_two_pow (Nat.lt_of_lt_of_le hbyte (Nat.pow_le_pow_right (by omega) (by omega)))
    rw [Nat.testBit_shiftRight, hnumber, Nat.testBit_or, Nat.testBit_mod_two_pow,
      Nat.testBit_shiftLeft, hnone, decide_eq_true (show 8 + i < 32 by omega),
      decide_eq_true (show 8 + i ≥ 8 by omega), Bool.true_and, Bool.true_and, Bool.or_false,
      Nat.add_sub_cancel_left]
  rw [bitsOf_add, hlow, hhigh]

/-- The mask keeps what the symbol is chosen by. -/
theorem symbol_and_mask {width : Nat} (a : Alphabet width) (x mask : UInt32)
    (h : mask.toNat = 2 ^ width - 1) :
    a.symbol (x &&& mask).toNat = a.symbol (value (bitsOf width x.toNat)) := by
  rw [UInt32.toNat_and, h, Nat.and_two_pow_sub_one_eq_mod, value_bitsOf]

/-! ## The daemon's loop -/

theorem toNat_shift {x : Nat} (h : x < 32) : (UInt32.ofNat x).toNat % 32 = x := by
  rw [UInt32.toNat_ofNat_of_lt' (Nat.lt_trans h (by decide)), Nat.mod_eq_of_lt h]

/-- The inner loop writes whole groups off the front of what is pending, and leaves fewer than
five bits. -/
theorem drain_spec (acc : UInt32) (bits : Nat) (h : bits ≤ 32) :
    (drain acc bits).2 < 5 ∧ ∀ rest, base32Alphabet.spell (bitsOf bits acc.toNat ++ rest) =
      (drain acc bits).1 ++
        base32Alphabet.spell (bitsOf (drain acc bits).2 acc.toNat ++ rest) := by
  induction bits using drain.induct acc with
  | case1 bits pushed pending hdrain ih =>
    obtain ⟨hpending, hspell⟩ := ih (by omega)
    have hshift : (acc >>> UInt32.ofNat bits).toNat = acc.toNat >>> bits := by
      rw [UInt32.toNat_shiftRight, toNat_shift (by omega)]
    have hsymbol : base32Alphabet.symbol ((acc >>> UInt32.ofNat bits) &&& 0x1f).toNat =
        base32Alphabet.symbol (value (bitsOf 5 (acc.toNat >>> bits))) := by
      rw [symbol_and_mask _ _ _ (by decide), hshift]
    have hfront : bitsOf (bits + 5) acc.toNat =
        bitsOf 5 (acc.toNat >>> bits) ++ bitsOf bits acc.toNat := by
      rw [Nat.add_comm bits 5, bitsOf_add]
    refine ⟨hpending, fun rest => ?_⟩
    show base32Alphabet.spell (bitsOf (bits + 5) acc.toNat ++ rest) =
      base32Alphabet.symbol ((acc >>> UInt32.ofNat bits) &&& 0x1f).toNat :: (drain acc bits).1 ++
        base32Alphabet.spell (bitsOf (drain acc bits).2 acc.toNat ++ rest)
    rw [hfront, List.append_assoc, Alphabet.spell_append (by decide) _ (length_bitsOf 5 _), hspell,
      ← hsymbol, List.cons_append]
  | case2 bits hfew =>
    have hlt : bits < 5 := by
      by_contra hge
      exact hfew (bits - 5) (by omega)
    have hdrain : drain acc bits = ([], bits) := by
      rw [drain]
      exact hfew
    rw [hdrain]
    exact ⟨hlt, fun rest => rfl⟩

/-- What is left at the end is filled up to one symbol. -/
theorem base32_last (acc : UInt32) {bits : Nat} (hpos : 0 < bits) (h : bits < 5) :
    [base32Alphabet.symbol ((acc <<< UInt32.ofNat (5 - bits)) &&& 0x1f).toNat] =
      base32Alphabet.spell (bitsOf bits acc.toNat) := by
  have hshift : (acc <<< UInt32.ofNat (5 - bits)).toNat = acc.toNat <<< (5 - bits) % 2 ^ 32 := by
    rw [UInt32.toNat_shiftLeft, toNat_shift (by omega)]
  have hrow : bitsOf 5 (acc.toNat <<< (5 - bits) % 2 ^ 32) =
      bitsOf bits acc.toNat ++ List.replicate (5 - bits) false := by
    have hfive : bits + (5 - bits) = 5 := by omega
    have hlow : bitsOf 5 (acc.toNat <<< (5 - bits) % 2 ^ 32) =
        bitsOf 5 (acc.toNat <<< (5 - bits)) := by
      refine bitsOf_congr fun i hi => ?_
      rw [Nat.testBit_mod_two_pow, decide_eq_true (by omega), Bool.true_and]
    rw [hlow, ← bitsOf_shiftLeft, hfive]
  have hne : bitsOf bits acc.toNat ≠ [] := by
    intro hnil
    have hlength := congrArg List.length hnil
    rw [length_bitsOf, List.length_nil] at hlength
    omega
  have hgroups : groups 5 (bitsOf bits acc.toNat) =
      [bitsOf bits acc.toNat ++ List.replicate (5 - bits) false] := by
    have hshort := @groups_short 5 _ hne (by rw [length_bitsOf]; omega)
    rwa [length_bitsOf] at hshort
  rw [symbol_and_mask _ _ _ (by decide), hshift, hrow, Alphabet.spell, hgroups]
  rfl

/-- **The loop's invariant**: the symbols still to come spell the pending bits of the accumulator
and the bytes that are left. -/
theorem base32Loop_eq (data : List UInt8) (acc : UInt32) (bits : Nat) (h : bits < 5) :
    base32Loop acc bits data =
      base32Alphabet.spell (bitsOf bits acc.toNat ++ data.flatMap byteBits) := by
  -- the accumulator is read below its pending bits only, so nothing is asked of its other bits
  induction data generalizing acc bits with
  | nil =>
    rw [List.flatMap_nil, List.append_nil, base32Loop]
    rcases Nat.eq_zero_or_pos bits with rfl | hpos
    · rw [if_neg (Nat.lt_irrefl 0)]
      exact (Alphabet.spell_nil _).symm
    · rw [if_pos hpos, base32_last acc hpos h]
  | cons byte rest ih =>
    obtain ⟨hpending, hspell⟩ :=
      drain_spec ((acc <<< 8) ||| byte.toUInt32) (bits + 8) (by omega)
    rw [List.flatMap_cons, ← List.append_assoc, ← bitsOf_take_in acc byte (by omega), hspell,
      ← ih _ _ hpending]
    rfl

theorem base32Nopad_eq (data : List UInt8) : base32Nopad data = rfcBase32 data := by
  rw [base32Nopad, base32Loop_eq data 0 0 (by decide)]
  rfl

example : base32Nopad [0x66, 0x6f, 0x6f, 0x62] = "MZXW6YQ" := by decide

/-! ## The client's chunks -/

/-- The six bits of a chunk's number that its sign `i` is chosen by. -/
def sextet (chunk : List UInt8) (i : Nat) : List Bool :=
  bitsOf 6 ((chunkNumber chunk).toNat >>> (18 - 6 * i))

theorem symbol_sextet (chunk : List UInt8) (i : Nat) :
    base64Alphabet.symbol ((chunkNumber chunk >>> UInt32.ofNat (18 - 6 * i)) &&& 0x3f).toNat =
      base64Alphabet.symbol (value (sextet chunk i)) := by
  have hshift : (chunkNumber chunk >>> UInt32.ofNat (18 - 6 * i)).toNat =
      (chunkNumber chunk).toNat >>> (18 - 6 * i) := by
    rw [UInt32.toNat_shiftRight, toNat_shift (by omega)]
  rw [symbol_and_mask _ _ _ (by decide), hshift, sextet]

theorem quantum_eq (chunk : List UInt8) :
    quantum chunk = (List.range 4).map fun i =>
      if i ≤ chunk.length then base64Alphabet.symbol (value (sextet chunk i)) else '=' := by
  refine List.map_congr_left fun i hi => ?_
  rw [symbol_sextet]

/-- The number of a chunk is its bytes behind each other. -/
theorem bitsOf_chunkNumber (b0 b1 b2 : UInt8) :
    bitsOf 24 (chunkNumber [b0, b1, b2]).toNat = byteBits b0 ++ byteBits b1 ++ byteBits b2 := by
  have htaken : chunkNumber [b0, b1, b2] =
      ((((b0.toUInt32 <<< 8) ||| b1.toUInt32) <<< 8) ||| b2.toUInt32) := by
    rw [UInt32.shiftLeft_or, ← UInt32.shiftLeft_add (by decide) (by decide) (by decide)]
    rfl
  rw [htaken, bitsOf_take_in _ b2 (by decide), bitsOf_take_in _ b1 (by decide),
    UInt8.toNat_toUInt32]
  rfl

theorem bitsOf_sextets (chunk : List UInt8) :
    bitsOf 24 (chunkNumber chunk).toNat =
      sextet chunk 0 ++ (sextet chunk 1 ++ (sextet chunk 2 ++ sextet chunk 3)) := by
  rw [show 24 = 6 + (6 + (6 + 6)) from rfl, bitsOf_add, bitsOf_add, bitsOf_add]
  rfl

@[simp] theorem length_sextet (chunk : List UInt8) (i : Nat) : (sextet chunk i).length = 6 :=
  length_bitsOf 6 _

/-- Three bytes are four symbols. -/
theorem encode_chunk (b0 b1 b2 : UInt8) (rest : List UInt8) :
    base64Alphabet.encode (b0 :: b1 :: b2 :: rest) =
      quantum [b0, b1, b2] ++ base64Alphabet.encode rest := by
  have hbits : (b0 :: b1 :: b2 :: rest).flatMap byteBits = sextet [b0, b1, b2] 0 ++
      (sextet [b0, b1, b2] 1 ++ (sextet [b0, b1, b2] 2 ++ (sextet [b0, b1, b2] 3 ++
        rest.flatMap byteBits))) := by
    calc (b0 :: b1 :: b2 :: rest).flatMap byteBits
        = (byteBits b0 ++ byteBits b1 ++ byteBits b2) ++ rest.flatMap byteBits := by
          simp only [List.flatMap_cons, List.append_assoc]
      _ = bitsOf 24 (chunkNumber [b0, b1, b2]).toNat ++ rest.flatMap byteBits := by
          rw [bitsOf_chunkNumber]
      _ = _ := by
          rw [bitsOf_sextets]
          simp only [List.append_assoc]
  rw [Alphabet.encode, hbits, Alphabet.spell_append (by decide) _ (length_sextet _ 0),
    Alphabet.spell_append (by decide) _ (length_sextet _ 1),
    Alphabet.spell_append (by decide) _ (length_sextet _ 2),
    Alphabet.spell_append (by decide) _ (length_sextet _ 3), quantum_eq]
  rfl

/-- A short row is the symbols of groups that it fills, with zeros after it. -/
theorem spell_of_flatten {bits : List Bool} {gs : List (List Bool)} (pad : Nat) (hpad : pad < 6)
    (hwidths : ∀ g ∈ gs, g.length = 6) (h : gs.flatten = bits ++ List.replicate pad false) :
    base64Alphabet.spell bits = gs.map fun g => base64Alphabet.symbol (value g) := by
  rw [Alphabet.spell, (groups_eq_iff (by decide) bits gs).mpr ⟨hwidths, pad, hpad, h⟩]

/-- One byte fills the first sextet and two bits of the second. -/
theorem encode_one (b0 : UInt8) :
    base64Alphabet.encode [b0] = [base64Alphabet.symbol (value (sextet [b0] 0)),
      base64Alphabet.symbol (value (sextet [b0] 1))] := by
  have hrow : (sextet [b0] 0 ++ sextet [b0] 1) ++ (sextet [b0] 2 ++ sextet [b0] 3) =
      (byteBits b0 ++ List.replicate 4 false) ++ List.replicate 12 false := by
    have hbits := (bitsOf_sextets [b0]).symm.trans (bitsOf_chunkNumber b0 0 0)
    have hzeros : byteBits 0 ++ byteBits 0 =
        List.replicate 4 false ++ List.replicate 12 false := by decide
    rw [List.append_assoc, hbits, List.append_assoc, hzeros, List.append_assoc]
  have hfront : sextet [b0] 0 ++ sextet [b0] 1 = byteBits b0 ++ List.replicate 4 false :=
    List.append_inj_left hrow (by
      rw [List.length_append, List.length_append, length_sextet, length_sextet, length_byteBits,
        List.length_replicate])
  have hflatten : [sextet [b0] 0, sextet [b0] 1].flatten =
      [b0].flatMap byteBits ++ List.replicate 4 false := by
    rw [List.flatMap_singleton, ← hfront, List.flatten_cons, List.flatten_singleton]
  have hwidths : ∀ g ∈ [sextet [b0] 0, sextet [b0] 1], g.length = 6 := by
    simp only [List.forall_mem_cons, length_sextet, List.not_mem_nil, false_implies,
      implies_true, and_self]
  exact spell_of_flatten 4 (by decide) hwidths hflatten

/-- Two bytes fill two sextets and four bits of the third. -/
theorem encode_two (b0 b1 : UInt8) :
    base64Alphabet.encode [b0, b1] = [base64Alphabet.symbol (value (sextet [b0, b1] 0)),
      base64Alphabet.symbol (value (sextet [b0, b1] 1)),
      base64Alphabet.symbol (value (sextet [b0, b1] 2))] := by
  have hrow : (sextet [b0, b1] 0 ++ (sextet [b0, b1] 1 ++ sextet [b0, b1] 2)) ++
      sextet [b0, b1] 3 =
        ((byteBits b0 ++ byteBits b1) ++ List.replicate 2 false) ++ List.replicate 6 false := by
    have hbits := (bitsOf_sextets [b0, b1]).symm.trans (bitsOf_chunkNumber b0 b1 0)
    have hzeros : byteBits 0 = List.replicate 2 false ++ List.replicate 6 false := by decide
    rw [List.append_assoc, List.append_assoc, hbits, hzeros, List.append_assoc _ _
      (List.replicate 6 false)]
  have hfront : sextet [b0, b1] 0 ++ (sextet [b0, b1] 1 ++ sextet [b0, b1] 2) =
      (byteBits b0 ++ byteBits b1) ++ List.replicate 2 false :=
    List.append_inj_left hrow (by
      simp only [List.length_append, length_sextet, length_byteBits, List.length_replicate])
  have hflatten : [sextet [b0, b1] 0, sextet [b0, b1] 1, sextet [b0, b1] 2].flatten =
      [b0, b1].flatMap byteBits ++ List.replicate 2 false := by
    rw [List.flatMap_cons, List.flatMap_singleton, ← hfront, List.flatten_cons, List.flatten_cons,
      List.flatten_singleton]
  have hwidths : ∀ g ∈ [sextet [b0, b1] 0, sextet [b0, b1] 1, sextet [b0, b1] 2],
      g.length = 6 := by
    simp only [List.forall_mem_cons, length_sextet, List.not_mem_nil, false_implies,
      implies_true, and_self]
  exact spell_of_flatten 2 (by decide) hwidths hflatten

/-- **A chunk's four signs are the symbols of its bytes and the padding after them.** -/
theorem flatMap_quantum (data : List UInt8) :
    (chunks data).flatMap quantum = base64Alphabet.encodePadded 4 data := by
  induction data using chunks.induct with
  | case1 =>
    rw [Alphabet.encodePadded, Alphabet.encode, List.flatMap_nil, Alphabet.spell_nil]
    rfl
  | case2 b0 =>
    rw [chunks, List.flatMap_singleton, quantum_eq, Alphabet.encodePadded, encode_one]
    rfl
  | case3 b0 b1 =>
    rw [chunks, List.flatMap_singleton, quantum_eq, Alphabet.encodePadded, encode_two]
    rfl
  | case4 b0 b1 b2 rest ih =>
    -- four signs more miss as many as before
    have hmissing (length : Nat) :
        Alphabet.missing 4 (length + 4) = Alphabet.missing 4 length := by
      rw [Alphabet.missing, Alphabet.missing, Nat.add_mod_right]
    have hlength : (quantum [b0, b1, b2]).length = 4 := rfl
    rw [chunks, List.flatMap_cons, ih, Alphabet.encodePadded, Alphabet.encodePadded, encode_chunk,
      List.length_append, hlength, Nat.add_comm 4, hmissing, List.append_assoc]

theorem base64UrlPadded_eq (data : List UInt8) : base64UrlPadded data = rfcBase64Url data := by
  rw [base64UrlPadded, flatMap_quantum]
  rfl

example : base64UrlPadded [0xfb, 0xff] = "-_8=" := by decide

/-! ## Reading back -/

/-- The padding is no symbol. -/
theorem pad_notMem : '=' ∉ base64Alphabet.symbols := by decide +kernel

theorem rfcBase32Decode_eq_some_iff (text : String) (data : List UInt8) :
    rfcBase32Decode text = some data ↔ rfcBase32 data = text := by
  rw [rfcBase32Decode, Alphabet.decode?_eq_some_iff (by decide) (by decide), rfcBase32]
  exact ⟨fun h => h ▸ String.ofList_toList, fun h => h ▸ String.toList_ofList.symm⟩

theorem rfcBase64UrlDecode_eq_some_iff (text : String) (data : List UInt8) :
    rfcBase64UrlDecode text = some data ↔ rfcBase64Url data = text := by
  rw [rfcBase64UrlDecode,
    Alphabet.decodePadded?_eq_some_iff (by decide) (by decide) _ pad_notMem, rfcBase64Url]
  exact ⟨fun h => h ▸ String.ofList_toList, fun h => h ▸ String.toList_ofList.symm⟩

theorem rfcBase32_inj {data other : List UInt8} (h : rfcBase32 data = rfcBase32 other) :
    data = other := by
  have hsymbols := congrArg String.toList h
  rw [rfcBase32, rfcBase32, String.toList_ofList, String.toList_ofList] at hsymbols
  exact base32Alphabet.encode_inj (by decide) (by decide) hsymbols

theorem rfcBase64Url_inj {data other : List UInt8} (h : rfcBase64Url data = rfcBase64Url other) :
    data = other := by
  have hsigns := congrArg String.toList h
  rw [rfcBase64Url, rfcBase64Url, String.toList_ofList, String.toList_ofList] at hsigns
  exact base64Alphabet.encodePadded_inj (by decide) (by decide) pad_notMem 4 hsigns

/-- **Both encoders write the standard encodings**, whatever the bytes and however many.

The decoder reads either text back as the bytes it was written from, so two rows of bytes have one
text only if they are one row; and a row of the lock log shows the authority head's text exactly
when the update has the head's hash. -/
theorem base_texts_exact (data other : List UInt8) (e : TkaLogEntry) :
    base32Nopad data = rfcBase32 data ∧ base64UrlPadded data = rfcBase64Url data ∧
      rfcBase32Decode (base32Nopad data) = some data ∧
      rfcBase64UrlDecode (base64UrlPadded data) = some data ∧
      (base32Nopad data = base32Nopad other ↔ data = other) ∧
      (base64UrlPadded data = base64UrlPadded other ↔ data = other) ∧
      ((lockLogEntry e).hash = rfcBase32 data ↔ e.aumHash.toList = data) := by
  have hhash : (lockLogEntry e).hash = rfcBase32 e.aumHash.toList := base32Nopad_eq _
  rw [base32Nopad_eq, base32Nopad_eq, base64UrlPadded_eq, base64UrlPadded_eq, hhash]
  refine ⟨rfl, rfl, ?_, ?_, ?_, ?_, ?_⟩
  · exact (rfcBase32Decode_eq_some_iff _ _).mpr rfl
  · exact (rfcBase64UrlDecode_eq_some_iff _ _).mpr rfl
  · exact ⟨rfcBase32_inj, congrArg rfcBase32⟩
  · exact ⟨rfcBase64Url_inj, congrArg rfcBase64Url⟩
  · exact ⟨rfcBase32_inj, congrArg rfcBase32⟩

end Tailnetd
