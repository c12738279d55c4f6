/-
  The port ranges of a Service as texts (`ServicePortRange`, `localapi.rs`).

  A range is a protocol number and a span of ports.  The writer has four abbreviations: a star for
  everything, no protocol for all of them, one number for a span of one port, and a star for the
  full span; and it names a protocol that has a name.  The reader takes these in any letter case,
  and protocols by number too.

  1. **Spellings** — what a text of small letters spells is said by a grammar (`Spells`), and the
     reader reads exactly what is spelled (`fromStr_eq_ok_iff`): a name is no number, a port holds
     neither a dash nor a colon, so that no two rules meet on one text.

  2. **Round trip** — what the writer writes spells its range and has no capital letter
     (`spells_display`, `asciiLower_display`).  So it reads back, and two ranges never share a text
     (`servicePorts_exact`).
-/
import Mathlib.Data.List.TakeWhile
import Tailnetd.Lib.Radix
import Tailnetd.PortText
import Tailnetd.Ssh

namespace Tailnetd

/-! ## Writer and reader -/

/-- `ServicePortRange`: protocol 0 is all protocols. -/
structure ServicePortRange where
  proto : UInt8
  first : UInt16
  last : UInt16
  deriving DecidableEq

/-- `PROTO_NAMES`. -/
def protoNames : List (UInt8 × String) :=
  [(51, "ah"), (33, "dccp"), (8, "egp"), (50, "esp"), (47, "gre"), (1, "icmp"), (2, "igmp"),
    (9, "igp"), (4, "ipv4"), (58, "ipv6-icmp"), (132, "sctp"), (6, "tcp"), (17, "udp")]

/-- `ports_is_any`. -/
def ServicePortRange.portsIsAny (r : ServicePortRange) : Bool := r.first == 0 && r.last == 65535

/-- The protocol of a text. -/
def protoText (proto : UInt8) : String :=
  match protoNames.find? fun entry => entry.1 == proto with
  | some (_, name) => name
  | none => toString proto.toNat

/-- The ports of a text. -/
def ServicePortRange.portsText (r : ServicePortRange) : String :=
  if r.portsIsAny then "*"
  else if r.first = r.last then toString r.first.toNat
  else toString r.first.toNat ++ "-" ++ toString r.last.toNat

/-- `Display` of a range. -/
def ServicePortRange.display (r : ServicePortRange) : String :=
  if r.proto = 0 ∧ r.portsIsAny = true then "*"
  else if r.proto ≠ 0 then protoText r.proto ++ ":" ++ r.portsText
  else r.portsText

/-- `to_ascii_lowercase`. -/
def asciiLower (s : String) : String := String.ofList (s.toList.map toAsciiLower)

/-- `str::parse::<u8>`. -/
def parseProtoNumber (text : String) : Option UInt8 :=
  (Radix.fromStrRadix 10 (2 ^ 8) text.toList).map UInt8.ofNat

/-- The protocol that is read. -/
def readProto (text : String) : Except String UInt8 :=
  if text = "*" then .ok 0
  else
    match protoNames.find? fun entry => entry.2 == text with
    | some (n, _) => .ok n
    | none =>
      match parseProtoNumber text with
      | some n => .ok n
      | none => .error ("unknown protocol " ++ quoted text)

/-- The ports that are read. -/
def readPorts (text : String) : Except String (UInt16 × UInt16) :=
  if text = "*" then .ok (0, 65535)
  else
    match splitOnce '-' text with
    | none =>
      match parseU16 text with
      | some p => .ok (p, p)
      | none => .error ("invalid port " ++ quoted text)
    | some (lo, hi) =>
      match parseU16 lo, parseU16 hi with
      | some lo, some hi =>
        if hi < lo then .error ("invalid port range " ++ quoted text) else .ok (lo, hi)
      | _, _ => .error ("invalid port range " ++ quoted text)

/-- `from_str` of a range. -/
def ServicePortRange.fromStr (s : String) : Except String ServicePortRange :=
  if s.isEmpty then .error "empty string"
  else
    let lower := asciiLower s
    if lower = "*" then .ok ⟨0, 0, 65535⟩
    else
      -- a text without a colon is that of all protocols
      let parts := (rsplitOnce ':' lower).getD ("*", lower)
      if parts.1.isEmpty then .error "empty protocol"
      else if ',' ∈ parts.1.toList then .error "host cannot contain a comma (\",\")"
      else
        match readProto parts.1 with
        | .error e => .error e
        | .ok proto =>
          match readPorts parts.2 with
          | .error e => .error e
          | .ok span => .ok ⟨proto, span.1, span.2⟩

/-! ## Spellings -/

/-- What a text of small letters spells as a protocol. -/
inductive SpellsProto : String → UInt8 → Prop
  | star : SpellsProto "*" 0
  | name {text : String} {n : UInt8} (h : (n, text) ∈ protoNames) : SpellsProto text n
  | number {text : String} {n : UInt8} (h : parseProtoNumber text = some n) : SpellsProto text n

/-- What a text spells as ports. -/
inductive SpellsPorts : String → UInt16 → UInt16 → Prop
  | star : SpellsPorts "*" 0 65535
  | one {text : String} {p : UInt16} (h : parseU16 text = some p) : SpellsPorts text p p
  | span {lo hi : String} {first last : UInt16} (hlo : parseU16 lo = some first)
      (hhi : parseU16 hi = some last) (hle : first ≤ last) :
      SpellsPorts (lo ++ "-" ++ hi) first last

/-- What a text of small letters spells as a range. -/
inductive Spells : String → ServicePortRange → Prop
  | allProtocols {ports : String} {first last : UInt16} (h : SpellsPorts ports first last) :
      Spells ports ⟨0, first, last⟩
  | protocol {proto ports : String} {n : UInt8} {first last : UInt16} (hproto : SpellsProto proto n)
      (hports : SpellsPorts ports first last) :
      Spells (proto ++ ":" ++ ports) ⟨n, first, last⟩

theorem SpellsPorts.le {text : String} {first last : UInt16} (h : SpellsPorts text first last) :
    first ≤ last := by
  cases h with
  | star => decide
  | one => exact UInt16.le_refl first
  | span _ _ hle => exact hle

theorem Spells.le {text : String} {r : ServicePortRange} (h : Spells text r) :
    r.first ≤ r.last := by
  cases h with
  | allProtocols h => exact h.le
  | protocol _ h => exact h.le

/-! ## The characters of a spelling -/

theorem parseProtoNumber_numerals {text : String} {n : UInt8} (h : parseProtoNumber text = some n) :
    text ≠ "" ∧ ∀ c ∈ text.toList, IsNumeral c := by
  obtain ⟨v, hread, -⟩ := Option.map_eq_some_iff.mp h
  refine ⟨fun hempty => ?_, fun c hc => ?_⟩
  · rw [hempty] at hread
    cases hread
  · exact (Radix.fromStrRadix_chars hread c hc).imp_right Radix.decimal_of_digit

theorem notMem_of_numerals {text : String} (h : ∀ c ∈ text.toList, IsNumeral c) {c : Char}
    (hc : ¬ IsNumeral c) : c ∉ text.toList := fun hmem => hc (h c hmem)

/-- A protocol is spelled by something, and not with a comma. -/
theorem SpellsProto.chars {text : String} {n : UInt8} (h : SpellsProto text n) :
    text ≠ "" ∧ ',' ∉ text.toList := by
  cases h with
  | star => decide
  | name h =>
    have hall : ∀ entry ∈ protoNames, entry.2 ≠ "" ∧ ',' ∉ entry.2.toList := by decide +kernel
    exact hall _ h
  | number h =>
    obtain ⟨hne, hall⟩ := parseProtoNumber_numerals h
    exact ⟨hne, notMem_of_numerals hall (by unfold IsNumeral; decide)⟩

/-- Ports are spelled by something, and not with a colon. -/
theorem SpellsPorts.chars {text : String} {first last : UInt16}
    (h : SpellsPorts text first last) : text ≠ "" ∧ ':' ∉ text.toList := by
  have hcolon : ∀ {text : String} {p : UInt16}, parseU16 text = some p →
      text ≠ "" ∧ ':' ∉ text.toList := by
    intro text p h
    obtain ⟨hne, hall⟩ := parseU16_numerals h
    exact ⟨hne, notMem_of_numerals hall (by unfold IsNumeral; decide)⟩
  cases h with
  | star => decide
  | one h => exact hcolon h
  | span hlo hhi =>
    obtain ⟨hne, hlo⟩ := hcolon hlo
    obtain ⟨-, hhi⟩ := hcolon hhi
    constructor
    · intro hempty
      have hlist := congrArg String.toList hempty
      rw [String.toList_append, String.toList_append] at hlist
      simp at hlist
    · rw [String.toList_append, String.toList_append, List.mem_append, List.mem_append]
      rintro ((h | h) | h)
      · exact hlo h
      · revert h
        decide
      · exact hhi h

/-! ## What is read -/

theorem readProto_eq_ok_iff {text : String} {n : UInt8} :
    readProto text = .ok n ↔ SpellsProto text n := by
  unfold readProto
  constructor
  · intro h
    split at h
    · rename_i hstar
      cases h
      rw [hstar]
      exact .star
    · split at h
      · rename_i m name hfind
        cases h
        have hfound := List.find?_some hfind
        have hname : name = text := beq_iff_eq.mp hfound
        exact .name (hname ▸ List.mem_of_find?_eq_some hfind)
      · split at h
        · rename_i hnumber
          cases h
          exact .number hnumber
        · cases h
  · intro h
    cases h with
    | star => rfl
    | name h =>
      have hall : ∀ entry ∈ protoNames, entry.2 ≠ "*" ∧
          protoNames.find? (fun e => e.2 == entry.2) = some entry := by decide +kernel
      obtain ⟨hstar, hfind⟩ := hall _ h
      rw [if_neg hstar, hfind]
    | number h =>
      have hnone : ∀ entry ∈ protoNames, parseProtoNumber entry.2 = none := by decide +kernel
      have hstar : text ≠ "*" := by
        rintro rfl
        cases h
      have hfind : (protoNames.find? fun entry => entry.2 == text) = none := by
        rw [List.find?_eq_none]
        intro entry hentry heq
        rw [← beq_iff_eq.mp heq, hnone entry hentry] at h
        cases h
      rw [if_neg hstar, hfind]
      dsimp only
      rw [h]

theorem readPorts_eq_ok_iff {text : String} {first last : UInt16} :
    readPorts text = .ok (first, last) ↔ SpellsPorts text first last := by
  unfold readPorts
  constructor
  · intro h
    split at h
    · rename_i hstar
      cases h
      rw [hstar]
      exact .star
    · split at h
      · split at h
        · rename_i hport
          cases h
          exact .one hport
        · cases h
      · rename_i lo hi hcut
        split at h
        · rename_i a b hlo hhi
          split at h
          · cases h
          · rename_i hle
            cases h
            have htext : text = lo ++ "-" ++ hi := by
              rw [← String.toList_inj, (splitOnce_eq_some_iff.mp hcut).1, String.toList_append,
                String.toList_append, List.append_assoc]
              rfl
            rw [htext]
            exact .span hlo hhi (UInt16.not_lt.mp hle)
        · cases h
  · intro h
    cases h with
    | star => rfl
    | one h =>
      have hdash := notMem_of_numerals (parseU16_numerals h).2
        (show ¬ IsNumeral '-' by unfold IsNumeral; decide)
      have hstar : text ≠ "*" := by
        rintro rfl
        cases h
      rw [if_neg hstar, splitOnce, if_neg hdash]
      dsimp only
      rw [h]
    | span hlo hhi hle =>
      rename_i lo hi
      have hdash := notMem_of_numerals (parseU16_numerals hlo).2
        (show ¬ IsNumeral '-' by unfold IsNumeral; decide)
      have hstar : lo ++ "-" ++ hi ≠ "*" := by
        intro heq
        have hmem : '-' ∈ (lo ++ "-" ++ hi).toList := by simp
        rw [heq] at hmem
        revert hmem
        decide
      have hcut : splitOnce '-' (lo ++ "-" ++ hi) = some (lo, hi) := by
        rw [splitOnce_eq_some_iff, String.toList_append, String.toList_append, List.append_assoc]
        exact ⟨rfl, hdash⟩
      rw [if_neg hstar, hcut]
      dsimp only
      rw [hlo, hhi]
      dsimp only
      rw [if_neg (UInt16.not_lt.mpr hle)]

/-- The text is cut at its last colon, or has none. -/
theorem rsplitOnce_cases (text : String) :
    (':' ∉ text.toList ∧ rsplitOnce ':' text = none) ∨
      ∃ front back, ':' ∉ back.toList ∧ text = front ++ ":" ++ back ∧
        rsplitOnce ':' text = some (front, back) := by
  by_cases hmem : ':' ∈ text.toList
  · obtain ⟨back, front, hcut, hback⟩ := List.eq_append_cons_of_mem (List.mem_reverse.mpr hmem)
    have hlast : ':' ∉ back.reverse := fun h => hback (List.mem_reverse.mp h)
    have htext : text.toList = front.reverse ++ ':' :: back.reverse := by
      rw [← List.reverse_reverse text.toList, hcut, List.reverse_append, List.reverse_cons,
        List.append_assoc]
      rfl
    refine .inr ⟨String.ofList front.reverse, String.ofList back.reverse, ?_, ?_, ?_⟩
    · rwa [String.toList_ofList]
    · rw [← String.toList_inj, htext]
      simp only [String.toList_append, String.toList_ofList, List.append_assoc]
      rfl
    · rw [← String.ofList_toList (s := text), htext, rsplitOnce_append hlast]
  · refine .inl ⟨hmem, ?_⟩
    have hall : ∀ c ∈ text.toList.reverse, (c != ':') = true := by
      intro c hc
      rw [bne_iff_ne]
      rintro rfl
      exact hmem (List.mem_reverse.mp hc)
    unfold rsplitOnce
    dsimp only
    rw [List.dropWhile_eq_nil_iff.mpr hall]

theorem rsplitOnce_colon {front back : String} (h : ':' ∉ back.toList) :
    rsplitOnce ':' (front ++ ":" ++ back) = some (front, back) := by
  have htext : front ++ ":" ++ back = String.ofList (front.toList ++ ':' :: back.toList) := by
    rw [← String.toList_inj]
    simp only [String.toList_append, String.toList_ofList, List.append_assoc]
    rfl
  rw [htext, rsplitOnce_append h, String.ofList_toList, String.ofList_toList]

/-- What is done with a protocol and ports. -/
theorem readParts_eq_ok_iff {proto ports : String} {r : ServicePortRange} :
    (if proto.isEmpty = true then .error "empty protocol"
      else if ',' ∈ proto.toList then .error "host cannot contain a comma (\",\")"
      else
        match readProto proto with
        | .error e => .error e
        | .ok n =>
          match readPorts ports with
          | .error e => .error e
          | .ok span => .ok ⟨n, span.1, span.2⟩ : Except String ServicePortRange) = .ok r ↔
      SpellsProto proto r.proto ∧ SpellsPorts ports r.first r.last := by
  constructor
  · intro h
    split at h
    · cases h
    split at h
    · cases h
    split at h
    · cases h
    · rename_i n hn
      split at h
      · cases h
      · rename_i span hspan
        cases h
        exact ⟨readProto_eq_ok_iff.mp hn, readPorts_eq_ok_iff.mp hspan⟩
  · rintro ⟨hproto, hports⟩
    obtain ⟨hne, hcomma⟩ := hproto.chars
    have hempty : ¬ proto.isEmpty = true := fun h => hne (String.isEmpty_iff.mp h)
    rw [if_neg hempty, if_neg hcomma, readProto_eq_ok_iff.mpr hproto]
    dsimp only
    rw [readPorts_eq_ok_iff.mpr hports]

theorem spellsProto_star_iff {n : UInt8} : SpellsProto "*" n ↔ n = 0 := by
  rw [← readProto_eq_ok_iff]
  exact ⟨fun h => (Except.ok.inj h).symm, fun h => h ▸ rfl⟩

/-- A text without a colon spells ports of all protocols. -/
theorem spells_iff_of_notMem {text : String} {r : ServicePortRange} (h : ':' ∉ text.toList) :
    Spells text r ↔ r.proto = 0 ∧ SpellsPorts text r.first r.last := by
  constructor
  · intro hspells
    cases hspells with
    | allProtocols hports => exact ⟨rfl, hports⟩
    | protocol hproto hports =>
      refine absurd ?_ h
      rw [String.toList_append, String.toList_append]
      exact List.mem_append_left _ (List.mem_append_right _ List.mem_cons_self)
  · rintro ⟨hzero, hports⟩
    obtain ⟨proto, first, last⟩ := r
    obtain rfl : proto = 0 := hzero
    exact .allProtocols hports

/-- A text with a colon spells what stands before its last one and behind it. -/
theorem spells_colon_iff {front back : String} {r : ServicePortRange} (h : ':' ∉ back.toList) :
    Spells (front ++ ":" ++ back) r ↔
      SpellsProto front r.proto ∧ SpellsPorts back r.first r.last := by
  constructor
  · intro hspells
    generalize htext : front ++ ":" ++ back = text at hspells
    cases hspells with
    | allProtocols hports =>
      refine absurd ?_ hports.chars.2
      rw [← htext, String.toList_append, String.toList_append]
      exact List.mem_append_left _ (List.mem_append_right _ List.mem_cons_self)
    | protocol hproto hports =>
      rename_i proto ports n first last
      have hcut := @rsplitOnce_colon proto ports hports.chars.2
      rw [← htext, rsplitOnce_colon h] at hcut
      obtain ⟨rfl, rfl⟩ := Prod.mk.inj (Option.some.inj hcut)
      exact ⟨hproto, hports⟩
  · rintro ⟨hproto, hports⟩
    exact .protocol hproto hports

theorem Spells.ne_empty {text : String} {r : ServicePortRange} (h : Spells text r) : text ≠ "" := by
  cases h with
  | allProtocols h => exact h.chars.1
  | protocol hproto =>
    intro hempty
    have hlist := congrArg String.toList hempty
    rw [String.toList_append, String.toList_append] at hlist
    simp at hlist

/-- **What is read is what is spelled**, in small letters. -/
theorem fromStr_eq_ok_iff {s : String} {r : ServicePortRange} :
    ServicePortRange.fromStr s = .ok r ↔ Spells (asciiLower s) r := by
  unfold ServicePortRange.fromStr
  by_cases hempty : s.isEmpty = true
  · rw [if_pos hempty, String.isEmpty_iff.mp hempty]
    exact iff_of_false (fun h => (by cases h)) fun h => h.ne_empty rfl
  rw [if_neg hempty]
  dsimp only
  split
  · rename_i hstar
    rw [hstar, spells_iff_of_notMem (by decide), ← readPorts_eq_ok_iff, Except.ok.injEq]
    constructor
    · rintro rfl
      exact ⟨rfl, rfl⟩
    · rintro ⟨hzero, hspan⟩
      obtain ⟨proto, first, last⟩ := r
      obtain ⟨hfirst, hlast⟩ := Prod.mk.inj (Except.ok.inj hspan)
      rw [ServicePortRange.mk.injEq]
      exact ⟨hzero.symm, hfirst, hlast⟩
  · rcases rsplitOnce_cases (asciiLower s) with ⟨hcolon, hcut⟩ | ⟨front, back, hback, htext, hcut⟩
    · rw [hcut, Option.getD_none, readParts_eq_ok_iff, spells_iff_of_notMem hcolon,
        spellsProto_star_iff]
    · rw [hcut, Option.getD_some, readParts_eq_ok_iff, htext, spells_colon_iff hback]

/-! ## What is written -/

/-- A character that is no capital letter. -/
def IsSmall (c : Char) : Prop := ¬ ('A' ≤ c ∧ c ≤ 'Z')

instance decidableIsSmall (c : Char) : Decidable (IsSmall c) := inferInstanceAs (Decidable (¬ _))

/-- Read off a text letter by letter. -/
theorem small_of_all {s : String} (h : s.toList.all (fun c => decide (IsSmall c)) = true) :
    ∀ c ∈ s.toList, IsSmall c :=
  fun c hc => of_decide_eq_true (List.all_eq_true.mp h c hc)

theorem asciiLower_of_small {s : String} (h : ∀ c ∈ s.toList, IsSmall c) : asciiLower s = s := by
  have hmap : s.toList.map toAsciiLower = s.toList.map id := by
    refine List.map_congr_left fun c hc => ?_
    rw [toAsciiLower, if_neg (h c hc), id]
  rw [asciiLower, hmap, List.map_id, String.ofList_toList]

theorem small_decimal (n : Nat) : ∀ c ∈ (toString n).toList, IsSmall c := by
  intro c hc
  rw [Radix.toList_toString] at hc
  obtain ⟨-, hnine⟩ := Radix.digit_of_mem_toDigits hc
  rintro ⟨hA, -⟩
  exact absurd (Char.le_trans hA hnine) (by decide)

theorem parseProtoNumber_decimal (n : UInt8) : parseProtoNumber (toString n.toNat) = some n := by
  rw [parseProtoNumber, Radix.toList_toString, Radix.fromStrRadix_toDigits n.toNat_lt,
    Option.map_some, UInt8.ofNat_toNat]

/-- A protocol's text spells it, in small letters. -/
theorem protoText_spells (n : UInt8) :
    SpellsProto (protoText n) n ∧ ∀ c ∈ (protoText n).toList, IsSmall c := by
  unfold protoText
  split
  · rename_i m name hfind
    have hfound := List.find?_some hfind
    have hnumber : m = n := beq_iff_eq.mp hfound
    have hmem := List.mem_of_find?_eq_some hfind
    have hall : protoNames.all (fun entry =>
        entry.2.toList.all fun c => decide (IsSmall c)) = true := by decide +kernel
    have hsmall := small_of_all (List.all_eq_true.mp hall _ hmem)
    exact ⟨.name (hnumber ▸ hmem), hsmall⟩
  · exact ⟨.number (parseProtoNumber_decimal n), small_decimal _⟩

/-- The ports' text spells them, in small letters. -/
theorem portsText_spells {r : ServicePortRange} (h : r.first ≤ r.last) :
    SpellsPorts r.portsText r.first r.last ∧ ∀ c ∈ r.portsText.toList, IsSmall c := by
  unfold ServicePortRange.portsText
  split
  · rename_i hany
    obtain ⟨hfirst, hlast⟩ := Bool.and_eq_true_iff.mp hany
    rw [beq_iff_eq.mp hfirst, beq_iff_eq.mp hlast]
    exact ⟨.star, small_of_all rfl⟩
  · split
    · rename_i hone
      rw [← hone]
      exact ⟨.one (parseU16_portText r.first), small_decimal _⟩
    · refine ⟨.span (parseU16_portText r.first) (parseU16_portText r.last) h, fun c hc => ?_⟩
      rw [String.toList_append, String.toList_append] at hc
      rcases List.mem_append.mp hc with hc | hc
      · rcases List.mem_append.mp hc with hc | hc
        · exact small_decimal _ c hc
        · obtain rfl := List.mem_singleton.mp hc
          decide
      · exact small_decimal _ c hc

/-- **What is written spells the range.** -/
theorem display_spells {r : ServicePortRange} (h : r.first ≤ r.last) :
    Spells r.display r ∧ ∀ c ∈ r.display.toList, IsSmall c := by
  obtain ⟨hports, hsmall⟩ := portsText_spells h
  obtain ⟨hproto, hsmallProto⟩ := protoText_spells r.proto
  unfold ServicePortRange.display
  split
  · rename_i hall
    obtain ⟨hzero, hany⟩ := hall
    obtain ⟨hfirst, hlast⟩ := Bool.and_eq_true_iff.mp hany
    have hr : r = ⟨0, 0, 65535⟩ := by
      obtain ⟨proto, first, last⟩ := r
      rw [ServicePortRange.mk.injEq]
      exact ⟨hzero, beq_iff_eq.mp hfirst, beq_iff_eq.mp hlast⟩
    rw [hr]
    exact ⟨.allProtocols .star, small_of_all rfl⟩
  · split
    · refine ⟨.protocol hproto hports, fun c hc => ?_⟩
      rw [String.toList_append, String.toList_append] at hc
      rcases List.mem_append.mp hc with hc | hc
      · rcases List.mem_append.mp hc with hc | hc
        · exact hsmallProto c hc
        · obtain rfl := List.mem_singleton.mp hc
          decide
      · exact hsmall c hc
    · rename_i hzero
      have hr : r = ⟨0, r.first, r.last⟩ := by
        rw [← not_not.mp hzero]
      refine ⟨?_, hsmall⟩
      rw [hr]
      exact .allProtocols hports

theorem fromStr_display {r : ServicePortRange} (h : r.first ≤ r.last) :
    ServicePortRange.fromStr r.display = .ok r := by
  obtain ⟨hspells, hsmall⟩ := display_spells h
  rw [fromStr_eq_ok_iff, asciiLower_of_small hsmall]
  exact hspells

/-- **The text of a range is read back, and a range has one text.**  Every range whose ports are in
    order reads back from its text, so that two of them never share one.  What is read is what the
    text in small letters spells; its ports are in order and its own text reads back to it; and two
    texts that are read are the same range exactly when they are written alike. -/
theorem servicePorts_exact :
    (∀ r : ServicePortRange, r.first ≤ r.last → ServicePortRange.fromStr r.display = .ok r) ∧
    (∀ r r' : ServicePortRange, r.first ≤ r.last → r'.first ≤ r'.last → r.display = r'.display →
      r = r') ∧
    (∀ s r, ServicePortRange.fromStr s = .ok r ↔ Spells (asciiLower s) r) ∧
    (∀ s r, ServicePortRange.fromStr s = .ok r →
      r.first ≤ r.last ∧ ServicePortRange.fromStr r.display = .ok r) ∧
    ∀ s s' r r', ServicePortRange.fromStr s = .ok r → ServicePortRange.fromStr s' = .ok r' →
      (r = r' ↔ r.display = r'.display) := by
  have hinjective : ∀ r r' : ServicePortRange, r.first ≤ r.last → r'.first ≤ r'.last →
      r.display = r'.display → r = r' := by
    intro r r' h h' hsame
    have hread := fromStr_display h
    rw [hsame, fromStr_display h'] at hread
    exact (Except.ok.inj hread).symm
  have hordered : ∀ s r, ServicePortRange.fromStr s = .ok r → r.first ≤ r.last :=
    fun s r h => (fromStr_eq_ok_iff.mp h).le
  refine ⟨fun r h => fromStr_display h, hinjective, fun s r => fromStr_eq_ok_iff,
    fun s r h => ⟨hordered s r h, fromStr_display (hordered s r h)⟩, ?_⟩
  intro s s' r r' h h'
  exact ⟨fun hsame => hsame ▸ rfl, hinjective r r' (hordered s r h) (hordered s' r' h')⟩

example : ServicePortRange.fromStr "IPv6-ICMP:0080-0443" = .ok ⟨58, 80, 443⟩ := by decide +kernel

end Tailnetd
