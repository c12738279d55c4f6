/-
  Rows of bits cut into groups, and the texts that spell a group by one symbol.

  A row is read with its most significant bit first.  `bitsOf width n` is the row of the low
  `width` bits of a number and `value` the number of a row; the two are inverse to each other
  (`value_bitsOf`, `bitsOf_value`), a row of `a + b` bits is the row of the high ones before the
  row of the low ones (`bitsOf_add`), and two numbers that agree on their low bits have one row
  (`bitsOf_congr`).

  `groups width` cuts a row into groups of `width` bits, the last one filled with zeros on the
  right.  The cut is known by what it adds (`groups_eq_iff`): `gs` are the groups of a row exactly
  when all of them have the width and, put together, they are the row and fewer than `width` zeros
  after it.  A row of bytes can be cut back into its bytes (`wholeBytes_append`): with groups of at
  most eight bits, what is left over is fewer zeros than would make a byte.

  An `Alphabet` is a table of distinct symbols, one for each group.  `encode` writes the bits of a
  row of bytes by one symbol a group, and `decode?` reads a text back: it takes a text for `data`
  exactly when the text is what `encode data` writes (`decode?_eq_some_iff`), so that two rows of
  bytes have two texts.  `encodePadded` fills the text with `=` to whole quanta and
  `decodePadded?` asks for exactly that filling.
-/
import Mathlib.Algebra.Group.Nat.Defs
import Mathlib.Data.List.Nodup

namespace BitGroups

/-! ## Rows of bits and numbers -/

/-- The low `width` bits of a number, the most significant first. -/
def bitsOf : Nat → Nat → List Bool
  | 0, _ => []
  | width + 1, n => n.testBit width :: bitsOf width n

/-- The number of a row of bits. -/
def value : List Bool → Nat
  | [] => 0
  | bit :: rest => 2 ^ rest.length * bit.toNat + value rest

@[simp] theorem length_bitsOf (width n : Nat) : (bitsOf width n).length = width := by
  induction width with
  | zero => rfl
  | succ width ih => rw [bitsOf, List.length_cons, ih]

/-- The row looks at no bit above it. -/
theorem bitsOf_congr {width m n : Nat} (h : ∀ i < width, m.testBit i = n.testBit i) :
    bitsOf width m = bitsOf width n := by
  induction width with
  | zero => rfl
  | succ width ih =>
    have hhead := h width (Nat.lt_succ_self width)
    have htail := ih fun i hi => h i (Nat.lt_succ_of_lt hi)
    rw [bitsOf, bitsOf, hhead, htail]

/-- The high bits come first and the low ones after them. -/
theorem bitsOf_add (high low n : Nat) :
    bitsOf (high + low) n = bitsOf high (n >>> low) ++ bitsOf low n := by
  induction high with
  | zero => rw [Nat.zero_add]; rfl
  | succ high ih =>
    have hbit : (n >>> low).testBit high = n.testBit (high + low) := by
      rw [Nat.testBit_shiftRight, Nat.add_comm]
    rw [Nat.succ_add, bitsOf, bitsOf, ih, hbit, List.cons_append]

theorem bitsOf_zero (width : Nat) : bitsOf width 0 = List.replicate width false := by
  induction width with
  | zero => rfl
  | succ width ih => rw [bitsOf, ih, Nat.zero_testBit, List.replicate_succ]

/-- Moved up by `low`, a number leaves zeros below it. -/
theorem bitsOf_shiftLeft (high low n : Nat) :
    bitsOf (high + low) (n <<< low) = bitsOf high n ++ List.replicate low false := by
  have hlow : bitsOf low (n <<< low) = bitsOf low 0 := by
    refine bitsOf_congr fun i hi => ?_
    rw [Nat.testBit_shiftLeft, Nat.zero_testBit, decide_eq_false (by omega), Bool.false_and]
  rw [bitsOf_add, Nat.shiftLeft_shiftRight, hlow, bitsOf_zero]

theorem value_bitsOf (width n : Nat) : value (bitsOf width n) = n % 2 ^ width := by
  induction width with
  | zero => rw [Nat.pow_zero, Nat.mod_one]; rfl
  | succ width ih =>
    rw [bitsOf, value, length_bitsOf, ih, Nat.toNat_testBit, Nat.mod_pow_succ, Nat.add_comm]

theorem value_lt (bits : List Bool) : value bits < 2 ^ bits.length := by
  induction bits with
  | nil => exact Nat.one_pos
  | cons bit rest ih =>
    have hbit : 2 ^ rest.length * bit.toNat ≤ 2 ^ rest.length * 1 :=
      Nat.mul_le_mul_left _ (Bool.toNat_le bit)
    rw [value, List.length_cons, Nat.pow_succ]
    omega

theorem bitsOf_value (bits : List Bool) : bitsOf bits.length (value bits) = bits := by
  induction bits with
  | nil => rfl
  | cons bit rest ih =>
    have hlt := value_lt rest
    have hhead : (value (bit :: rest)).testBit rest.length = bit := by
      rw [value, Nat.testBit_two_pow_mul_add _ hlt, if_neg (Nat.lt_irrefl _), Nat.sub_self]
      cases bit <;> rfl
    have htail : bitsOf rest.length (value (bit :: rest)) = bitsOf rest.length (value rest) := by
      refine bitsOf_congr fun i hi => ?_
      rw [value, Nat.testBit_two_pow_mul_add _ hlt, if_pos hi]
    rw [List.length_cons, bitsOf, hhead, htail, ih]

/-! ## The cut into groups -/

/-- A row cut into groups of `width` bits, the last one filled with zeros on the right. -/
def groups (width : Nat) (bits : List Bool) : List (List Bool) :=
  if bits = [] ∨ width = 0 then []
  else
    (bits.take width ++ List.replicate (width - bits.length) false) ::
      groups width (bits.drop width)
termination_by bits.length
decreasing_by
  have hlength := List.length_pos_iff.mpr (show bits ≠ [] by tauto)
  rw [List.length_drop]
  omega

@[simp] theorem groups_nil (width : Nat) : groups width [] = [] := by
  rw [groups, if_pos (Or.inl rfl)]

section Groups
variable {width : Nat}

theorem groups_of_ne_nil (hpos : 0 < width) {bits : List Bool} (h : bits ≠ []) :
    groups width bits = (bits.take width ++ List.replicate (width - bits.length) false) ::
      groups width (bits.drop width) := by
  have hneither : ¬(bits = [] ∨ width = 0) := by
    rintro (hnil | hzero)
    · exact h hnil
    · omega
  rw [groups, if_neg hneither]

/-- A whole group at the front is the first one. -/
theorem groups_append (hpos : 0 < width) {group : List Bool} (h : group.length = width)
    (rest : List Bool) : groups width (group ++ rest) = group :: groups width rest := by
  have hne : group ++ rest ≠ [] := by
    intro hnil
    have hlength := congrArg List.length hnil
    rw [List.length_append, List.length_nil] at hlength
    omega
  have hfill : width - (group ++ rest).length = 0 := by
    rw [List.length_append]
    omega
  rw [groups_of_ne_nil hpos hne, hfill, List.replicate_zero, List.append_nil,
    List.take_left' h, List.drop_left' h]

/-- A row too short for a group is filled up to one. -/
theorem groups_short {bits : List Bool} (h : bits ≠ []) (hlength : bits.length ≤ width) :
    groups width bits = [bits ++ List.replicate (width - bits.length) false] := by
  have hpos : 0 < width := Nat.lt_of_lt_of_le (List.length_pos_iff.mpr h) hlength
  rw [groups_of_ne_nil hpos h, List.take_of_length_le hlength, List.drop_of_length_le hlength,
    groups_nil]

/-- The groups have the width and are the row and fewer than `width` zeros after it. -/
theorem groups_spec (hpos : 0 < width) (bits : List Bool) :
    (∀ g ∈ groups width bits, g.length = width) ∧
      ∃ pad < width, (groups width bits).flatten = bits ++ List.replicate pad false := by
  induction bits using groups.induct width with
  | case1 bits h =>
    have hnil : bits = [] := h.resolve_right (by omega)
    rw [hnil, groups_nil]
    exact ⟨fun g hg => absurd hg List.not_mem_nil, 0, hpos, rfl⟩
  | case2 bits h ih =>
    have hne : bits ≠ [] := fun hnil => h (Or.inl hnil)
    rcases Nat.lt_or_ge bits.length width with hshort | hlong
    · -- the last group, where the zeros come from
      have hbits := List.length_pos_iff.mpr hne
      rw [groups_short hne (by omega)]
      refine ⟨fun g hg => ?_, width - bits.length, by omega, List.append_nil _⟩
      rw [List.mem_singleton.mp hg, List.length_append, List.length_replicate]
      omega
    · obtain ⟨hwidths, pad, hpad, hflatten⟩ := ih
      have htake : (bits.take width).length = width := List.length_take_of_le hlong
      have hgroups := groups_append hpos htake (bits.drop width)
      rw [List.take_append_drop] at hgroups
      rw [hgroups]
      refine ⟨fun g hg => ?_, pad, hpad, ?_⟩
      · rcases List.mem_cons.mp hg with rfl | hg
        · exact htake
        · exact hwidths g hg
      · rw [List.flatten_cons, hflatten, ← List.append_assoc, List.take_append_drop]

/-- **The cut into groups is known by what it adds**: groups of the width that are the row and
fewer than `width` zeros after it are the groups of the row. -/
theorem groups_eq_iff (hpos : 0 < width) (bits : List Bool) (gs : List (List Bool)) :
    groups width bits = gs ↔ (∀ g ∈ gs, g.length = width) ∧
      ∃ pad < width, gs.flatten = bits ++ List.replicate pad false := by
  constructor
  · rintro rfl
    exact groups_spec hpos bits
  rintro ⟨hwidths, pad, hpad, hflatten⟩
  induction gs generalizing bits with
  | nil =>
    have hnil : bits = [] := (List.append_eq_nil_iff.mp hflatten.symm).1
    rw [hnil, groups_nil]
  | cons g gs ih =>
    obtain ⟨hg, hwidths⟩ := List.forall_mem_cons.mp hwidths
    have hlengths := congrArg List.length hflatten
    rw [List.flatten_cons, List.length_append, List.length_append, List.length_replicate, hg]
      at hlengths
    rw [List.flatten_cons] at hflatten
    rcases Nat.lt_or_ge bits.length width with hshort | hlong
    · -- the zeros end the only group there is room for
      have hgs : gs = [] := by
        rcases gs with _ | ⟨g', gs⟩
        · rfl
        · have hg' := (List.forall_mem_cons.mp hwidths).1
          rw [List.flatten_cons, List.length_append, hg'] at hlengths
          omega
      have hbits : bits ≠ [] := by
        rintro rfl
        rw [List.length_nil] at hlengths
        omega
      rw [hgs, List.flatten_nil, List.append_nil] at hflatten
      rw [hgs, List.flatten_nil, List.length_nil] at hlengths
      have hfill : width - bits.length = pad := by omega
      rw [groups_short hbits (by omega), hgs, hflatten, hfill]
    · have htake : bits.take width = g := by
        have htaken := congrArg (List.take width) hflatten
        rw [List.take_left' hg, List.take_append_of_le_length hlong] at htaken
        exact htaken.symm
      have hrest : gs.flatten = bits.drop width ++ List.replicate pad false := by
        have hdropped := congrArg (List.drop width) hflatten
        rwa [List.drop_left' hg, List.drop_append_of_le_length hlong] at hdropped
      have hgroups := groups_append hpos hg (bits.drop width)
      rw [ih (bits.drop width) hwidths hrest] at hgroups
      rwa [← htake, List.take_append_drop, htake] at hgroups

end Groups

/-! ## The cut into bytes -/

/-- The bits of a byte. -/
def byteBits (byte : UInt8) : List Bool := bitsOf 8 byte.toNat

/-- The byte of eight bits. -/
def byteOf (bits : List Bool) : UInt8 := UInt8.ofNat (value bits)

@[simp] theorem length_byteBits (byte : UInt8) : (byteBits byte).length = 8 := length_bitsOf 8 _

theorem byteOf_byteBits (byte : UInt8) : byteOf (byteBits byte) = byte := by
  have hlt := byte.toNat_lt
  rw [byteOf, byteBits, value_bitsOf, Nat.mod_eq_of_lt hlt, UInt8.ofNat_toNat]

theorem byteBits_byteOf {bits : List Bool} (h : bits.length = 8) :
    byteBits (byteOf bits) = bits := by
  have hlt := value_lt bits
  rw [h] at hlt
  have hvalue : (byteOf bits).toNat = value bits := UInt8.toNat_ofNat_of_lt' hlt
  rw [byteBits, hvalue, ← h, bitsOf_value]

/-- The whole bytes at the front of a row, and the bits that are left over. -/
def wholeBytes (bits : List Bool) : List UInt8 × List Bool :=
  if bits.length < 8 then ([], bits)
  else
    let (bytes, rest) := wholeBytes (bits.drop 8)
    (byteOf (bits.take 8) :: bytes, rest)
termination_by bits.length
decreasing_by
  rw [List.length_drop]
  omega

/-- The whole bytes and what is left over are the row. -/
theorem wholeBytes_flatMap (bits : List Bool) :
    (wholeBytes bits).1.flatMap byteBits ++ (wholeBytes bits).2 = bits := by
  induction bits using wholeBytes.induct with
  | case1 bits h => rw [wholeBytes, if_pos h]; rfl
  | case2 bits h bytes rest hrest ih =>
    have htake : (bits.take 8).length = 8 := List.length_take_of_le (Nat.le_of_not_lt h)
    rw [wholeBytes, if_neg h]
    dsimp only
    rw [List.flatMap_cons, byteBits_byteOf htake, List.append_assoc, ih, List.take_append_drop]

theorem wholeBytes_append (bytes : List UInt8) {rest : List Bool} (h : rest.length < 8) :
    wholeBytes (bytes.flatMap byteBits ++ rest) = (bytes, rest) := by
  induction bytes with
  | nil =>
    rw [wholeBytes, List.flatMap_nil, List.nil_append, if_pos h]
  | cons byte bytes ih =>
    have hlong : ¬(byteBits byte ++ (bytes.flatMap byteBits ++ rest)).length < 8 := by
      rw [List.length_append, length_byteBits]
      omega
    rw [List.flatMap_cons, List.append_assoc, wholeBytes, if_neg hlong,
      List.take_left' (length_byteBits byte), List.drop_left' (length_byteBits byte), ih]
    dsimp only
    rw [byteOf_byteBits]

/-! ## Texts of one symbol a group -/

/-- A table of distinct symbols, one for each group of `width` bits. -/
structure Alphabet (width : Nat) where
  symbols : List Char
  length_symbols : symbols.length = 2 ^ width
  nodup : symbols.Nodup

namespace Alphabet
variable {width : Nat}

/-- The symbol of the low `width` bits of a number. -/
def symbol (a : Alphabet width) (n : Nat) : Char :=
  a.symbols.get ⟨n % 2 ^ width, by
    rw [a.length_symbols]
    exact Nat.mod_lt _ (Nat.two_pow_pos width)⟩

/-- The place of a symbol in the table. -/
def index? (a : Alphabet width) (c : Char) : Option Nat := a.symbols.idxOf? c

theorem index?_eq_some_iff (a : Alphabet width) (c : Char) (n : Nat) :
    a.index? c = some n ↔ n < 2 ^ width ∧ a.symbol n = c := by
  have hlength := a.length_symbols
  rw [index?, List.idxOf?_eq_some_iff]
  constructor
  · rintro ⟨hn, hc, -⟩
    have hlt : n < 2 ^ width := hlength ▸ hn
    refine ⟨hlt, ?_⟩
    rw [← hc]
    simp only [symbol, List.get_eq_getElem, Nat.mod_eq_of_lt hlt]
  · rintro ⟨hlt, hc⟩
    have hn : n < a.symbols.length := hlength.symm ▸ hlt
    simp only [symbol, List.get_eq_getElem, Nat.mod_eq_of_lt hlt] at hc
    refine ⟨hn, hc, fun j hj hsame => ?_⟩
    -- two places with one symbol are one place
    have hplaces : j = n := (List.Nodup.getElem_inj_iff a.nodup).mp (hsame.trans hc.symm)
    omega

theorem symbol_mem (a : Alphabet width) (n : Nat) : a.symbol n ∈ a.symbols :=
  List.get_mem _ _

/-- A row of bits written by one symbol a group. -/
def spell (a : Alphabet width) (bits : List Bool) : List Char :=
  (groups width bits).map fun group => a.symbol (value group)

/-- The bytes written by one symbol a group. -/
def encode (a : Alphabet width) (data : List UInt8) : List Char := a.spell (data.flatMap byteBits)

@[simp] theorem spell_nil (a : Alphabet width) : a.spell [] = [] := by
  rw [spell, groups_nil]
  rfl

/-- A whole group at the front is the first symbol. -/
theorem spell_append (hpos : 0 < width) (a : Alphabet width) {group : List Bool}
    (h : group.length = width) (rest : List Bool) :
    a.spell (group ++ rest) = a.symbol (value group) :: a.spell rest := by
  rw [spell, groups_append hpos h]
  rfl

/-- The bits that a text of symbols spells. -/
def bits? (a : Alphabet width) (text : List Char) : Option (List Bool) :=
  (text.mapM a.index?).map fun places => places.flatMap (bitsOf width)

/-- The bytes that a text of symbols spells: every character is a symbol, and the bits after the
last whole byte are zeros, and too few for a symbol. -/
def decode? (a : Alphabet width) (text : List Char) : Option (List UInt8) :=
  match a.bits? text with
  | none => none
  | some bits =>
    let (bytes, rest) := wholeBytes bits
    if rest.length < width ∧ ∀ bit ∈ rest, bit = false then some bytes else none

theorem mapM_index?_eq_some_iff (a : Alphabet width) (text : List Char) (places : List Nat) :
    text.mapM a.index? = some places ↔
      (∀ n ∈ places, n < 2 ^ width) ∧ places.map a.symbol = text := by
  induction text generalizing places with
  | nil =>
    rw [List.mapM_nil]
    constructor
    · intro h
      cases h
      exact ⟨fun n hn => absurd hn List.not_mem_nil, rfl⟩
    · rintro ⟨-, h⟩
      rw [List.map_eq_nil_iff.mp h]
      rfl
  | cons c text ih =>
    have hcons : (c :: text).mapM a.index? = some places ↔
        ∃ n ns, a.index? c = some n ∧ text.mapM a.index? = some ns ∧ n :: ns = places := by
      simp only [List.mapM_cons, Option.bind_eq_bind, Option.pure_def, Option.bind_eq_some_iff,
        Option.some.injEq]
      constructor
      · rintro ⟨n, hn, ns, hns, hplaces⟩
        exact ⟨n, ns, hn, hns, hplaces⟩
      · rintro ⟨n, ns, hn, hns, hplaces⟩
        exact ⟨n, hn, ns, hns, hplaces⟩
    rw [hcons]
    constructor
    · rintro ⟨n, ns, hn, hns, rfl⟩
      obtain ⟨hlt, hc⟩ := (a.index?_eq_some_iff c n).mp hn
      obtain ⟨hlts, htext⟩ := (ih ns).mp hns
      exact ⟨List.forall_mem_cons.mpr ⟨hlt, hlts⟩, by rw [List.map_cons, hc, htext]⟩
    · rintro ⟨hlts, htext⟩
      obtain _ | ⟨n, ns⟩ := places
      · cases htext
      · obtain ⟨hlt, hlts⟩ := List.forall_mem_cons.mp hlts
        obtain ⟨hc, htext⟩ := List.cons.inj htext
        exact ⟨n, ns, (a.index?_eq_some_iff c n).mpr ⟨hlt, hc⟩, (ih ns).mpr ⟨hlts, htext⟩, rfl⟩

theorem bits?_eq_some_iff (a : Alphabet width) (text : List Char) (bits : List Bool) :
    a.bits? text = some bits ↔ ∃ gs : List (List Bool), (∀ g ∈ gs, g.length = width) ∧
      gs.map (fun g => a.symbol (value g)) = text ∧ gs.flatten = bits := by
  rw [bits?, Option.map_eq_some_iff]
  constructor
  · rintro ⟨places, hplaces, rfl⟩
    obtain ⟨hlts, htext⟩ := (a.mapM_index?_eq_some_iff text places).mp hplaces
    refine ⟨places.map (bitsOf width), fun g hg => ?_, ?_, List.flatMap_def.symm⟩
    · obtain ⟨n, -, rfl⟩ := List.mem_map.mp hg
      exact length_bitsOf width n
    · rw [List.map_map, ← htext]
      refine List.map_congr_left fun n hn => ?_
      show a.symbol (value (bitsOf width n)) = a.symbol n
      rw [value_bitsOf, Nat.mod_eq_of_lt (hlts n hn)]
  · rintro ⟨gs, hwidths, htext, rfl⟩
    have hlts : ∀ n ∈ gs.map value, n < 2 ^ width := by
      intro n hn
      obtain ⟨g, hg, rfl⟩ := List.mem_map.mp hn
      exact hwidths g hg ▸ value_lt g
    refine ⟨gs.map value, (a.mapM_index?_eq_some_iff text _).mpr ⟨hlts, ?_⟩, ?_⟩
    · rw [List.map_map]
      exact htext
    · rw [List.flatMap_def, List.map_map]
      have hsame : gs.map (bitsOf width ∘ value) = gs := by
        rw [List.map_congr_left (g := id) fun g hg => ?_, List.map_id]
        show bitsOf width (value g) = g
        rw [← hwidths g hg, bitsOf_value]
      rw [hsame]

/-- **A text is read back as the bytes it was written from, and as no others.** -/
theorem decode?_eq_some_iff (hpos : 0 < width) (hwidth : width ≤ 8) (a : Alphabet width)
    (text : List Char) (data : List UInt8) :
    a.decode? text = some data ↔ a.encode data = text := by
  constructor
  · intro h
    unfold decode? at h
    cases hbits : a.bits? text with
    | none =>
      rw [hbits] at h
      cases h
    | some bits =>
      rw [hbits] at h
      dsimp only at h
      obtain ⟨gs, hwidths, htext, hflatten⟩ := (a.bits?_eq_some_iff text bits).mp hbits
      have hbytes := wholeBytes_flatMap bits
      split at h
      case isTrue hrest =>
        cases h
        obtain ⟨hlength, hzeros⟩ := hrest
        -- what is left over is the zeros that fill the last group
        have hpad : (wholeBytes bits).2 = List.replicate (wholeBytes bits).2.length false :=
          List.eq_replicate_of_mem hzeros
        rw [hpad] at hbytes
        have hgroups := (groups_eq_iff hpos _ gs).mpr
          ⟨hwidths, _, hlength, hflatten.trans hbytes.symm⟩
        rw [encode, spell, hgroups]
        exact htext
      case isFalse => cases h
  · rintro rfl
    obtain ⟨hwidths, pad, hpad, hflatten⟩ := groups_spec hpos (data.flatMap byteBits)
    have hbits : a.bits? (a.encode data) =
        some (data.flatMap byteBits ++ List.replicate pad false) :=
      (a.bits?_eq_some_iff _ _).mpr ⟨_, hwidths, rfl, hflatten⟩
    have hlength : (List.replicate pad false).length < 8 := by
      rw [List.length_replicate]
      omega
    rw [decode?, hbits]
    dsimp only
    rw [wholeBytes_append data hlength]
    dsimp only
    rw [if_pos ⟨by rwa [List.length_replicate], fun bit hbit => List.eq_of_mem_replicate hbit⟩]

theorem encode_inj (hpos : 0 < width) (hwidth : width ≤ 8) (a : Alphabet width)
    {data data' : List UInt8} (h : a.encode data = a.encode data') : data = data' := by
  have hread := (a.decode?_eq_some_iff hpos hwidth _ data).mpr rfl
  have hread' := (a.decode?_eq_some_iff hpos hwidth _ data').mpr rfl
  rw [h, hread'] at hread
  exact (Option.some.inj hread).symm

/-! ## Padding to whole quanta -/

/-- How many signs are missing after `length` ones to a multiple of `quantum`. -/
def missing (quantum length : Nat) : Nat := (quantum - length % quantum) % quantum

/-- The bytes written by one symbol a group, with `=` up to a multiple of `quantum` signs. -/
def encodePadded (a : Alphabet width) (quantum : Nat) (data : List UInt8) : List Char :=
  a.encode data ++ List.replicate (missing quantum (a.encode data).length) '='

/-- The bytes of a padded text: what is before the first `=` is read, and after it there is the
padding that is missing there and nothing else. -/
def decodePadded? (a : Alphabet width) (quantum : Nat) (text : List Char) :
    Option (List UInt8) :=
  let body := text.takeWhile (· ≠ '=')
  if text = body ++ List.replicate (missing quantum body.length) '=' then a.decode? body else none

theorem encode_ne_pad (a : Alphabet width) (h : '=' ∉ a.symbols) (data : List UInt8) :
    ∀ c ∈ a.encode data, c ≠ '=' := by
  rintro c hc rfl
  obtain ⟨group, -, hsymbol⟩ := List.mem_map.mp (show '=' ∈ List.map _ _ from hc)
  exact h (hsymbol ▸ a.symbol_mem _)

theorem takeWhile_encodePadded (a : Alphabet width) (h : '=' ∉ a.symbols) (quantum : Nat)
    (data : List UInt8) :
    (a.encodePadded quantum data).takeWhile (· ≠ '=') = a.encode data := by
  have hall : ∀ c ∈ a.encode data, decide (c ≠ '=') = true :=
    fun c hc => decide_eq_true (a.encode_ne_pad h data c hc)
  have hnone : (List.replicate (missing quantum (a.encode data).length) '=').takeWhile
      (fun c => decide (c ≠ '=')) = [] := by
    cases missing quantum (a.encode data).length <;> rfl
  rw [encodePadded, List.takeWhile_append_of_pos hall, hnone, List.append_nil]

/-- **A padded text is read back as the bytes it was written from, and as no others.** -/
theorem decodePadded?_eq_some_iff (hpos : 0 < width) (hwidth : width ≤ 8) (a : Alphabet width)
    (h : '=' ∉ a.symbols) (quantum : Nat) (text : List Char) (data : List UInt8) :
    a.decodePadded? quantum text = some data ↔ a.encodePadded quantum data = text := by
  constructor
  · intro hread
    unfold decodePadded? at hread
    dsimp only at hread
    split at hread
    case isTrue htext =>
      have hbody := (a.decode?_eq_some_iff hpos hwidth _ data).mp hread
      rw [encodePadded, hbody]
      exact htext.symm
    case isFalse => cases hread
  · rintro rfl
    have hbody := a.takeWhile_encodePadded h quantum data
    have hwhole : a.encodePadded quantum data =
        a.encode data ++ List.replicate (missing quantum (a.encode data).length) '=' := rfl
    unfold decodePadded?
    dsimp only
    rw [hbody, if_pos hwhole]
    exact (a.decode?_eq_some_iff hpos hwidth _ data).mpr rfl

theorem encodePadded_inj (hpos : 0 < width) (hwidth : width ≤ 8) (a : Alphabet width)
    (h : '=' ∉ a.symbols) (quantum : Nat) {data data' : List UInt8}
    (hsame : a.encodePadded quantum data = a.encodePadded quantum data') : data = data' := by
  have hbody := congrArg (List.takeWhile (· ≠ '=')) hsame
  rw [a.takeWhile_encodePadded h, a.takeWhile_encodePadded h] at hbody
  exact a.encode_inj hpos hwidth hbody

end Alphabet

end BitGroups
