/-
  Reading markup back.

  A reader goes over the characters of a document and sees characters of its text, tags with their
  attributes, and the document type (`scan`).  It takes a part of the HTML tokenizer that is strict:
  a tag is closed where it is opened, a value stands in double quotes, and an `&` begins a reference
  that is known.

  `Escaping` is a way to write characters as references: every character with a meaning in markup is
  one of them, and the reader gets it back from its reference.  A text written so is read as itself
  wherever it stands, in a text (`Escaping.reads_text`) or in a value (`Escaping.scan_value`).

  What is read of one document behind another is one behind the other (`scan_append`), so a page is
  read piece by piece.
-/
import Mathlib.Data.List.Basic

namespace Markup

/-- The name of a tag and its attributes. -/
structure Tag where
  name : List Char
  attrs : List (List Char × List Char) := []
  deriving DecidableEq, Repr

/-- What a reader sees. -/
inductive Token where
  | char (c : Char)
  | opening (tag : Tag)
  | closing (name : List Char)
  | doctype (words : List Char)
  deriving DecidableEq, Repr

/-- Where a reader is. -/
inductive Mode where
  | data
  | reference (name : List Char)
  | tagOpen
  | tagName (name : List Char)
  | closingName (name : List Char)
  | declaration (words : List Char)
  | beforeAttr (tag : Tag)
  | attrName (tag : Tag) (attr : List Char)
  | beforeValue (tag : Tag) (attr : List Char)
  | value (tag : Tag) (attr value : List Char)
  | valueReference (tag : Tag) (attr value name : List Char)
  | afterValue (tag : Tag)
  deriving DecidableEq, Repr

/-- A character of the name of a tag, an attribute or a reference. -/
def isNameChar (c : Char) : Bool := c.isAlphanum || c == '-' || c == '#'

/-- One character more in a tag that may end here. -/
def inTag (tag : Tag) (c : Char) : Option (Mode × List Token) :=
  if c = '>' then some (.data, [.opening tag])
  else if c = ' ' then some (.beforeAttr tag, [])
  else none

/-- The next character. -/
def step (decode : List Char → Option Char) (mode : Mode) (c : Char) : Option (Mode × List Token) :=
  match mode with
  | .data =>
    if c = '<' then some (.tagOpen, [])
    else if c = '&' then some (.reference [], [])
    else some (.data, [.char c])
  | .reference name =>
    if c = ';' then (decode name).map fun d => (.data, [.char d])
    else if isNameChar c then some (.reference (name ++ [c]), [])
    else none
  | .tagOpen =>
    if c = '/' then some (.closingName [], [])
    else if c = '!' then some (.declaration [], [])
    else if isNameChar c then some (.tagName [c], [])
    else none
  | .tagName name =>
    if isNameChar c then some (.tagName (name ++ [c]), []) else inTag ⟨name, []⟩ c
  | .closingName name =>
    if isNameChar c then some (.closingName (name ++ [c]), [])
    else if c = '>' ∧ name ≠ [] then some (.data, [.closing name])
    else none
  | .declaration words =>
    if c = '>' then some (.data, [.doctype words]) else some (.declaration (words ++ [c]), [])
  | .beforeAttr tag =>
    if isNameChar c then some (.attrName tag [c], []) else inTag tag c
  | .attrName tag attr =>
    if isNameChar c then some (.attrName tag (attr ++ [c]), [])
    else if c = '=' then some (.beforeValue tag attr, [])
    else none
  | .beforeValue tag attr => if c = '"' then some (.value tag attr [], []) else none
  | .value tag attr value =>
    if c = '"' then some (.afterValue ⟨tag.name, tag.attrs ++ [(attr, value)]⟩, [])
    else if c = '&' then some (.valueReference tag attr value [], [])
    else some (.value tag attr (value ++ [c]), [])
  | .valueReference tag attr value name =>
    if c = ';' then (decode name).map fun d => (.value tag attr (value ++ [d]), [])
    else if isNameChar c then some (.valueReference tag attr value (name ++ [c]), [])
    else none
  | .afterValue tag => inTag tag c

/-- Where the reader gets, and what it sees on its way. -/
def scan (decode : List Char → Option Char) (mode : Mode) :
    List Char → Option (Mode × List Token)
  | [] => some (mode, [])
  | c :: s =>
    (step decode mode c).bind fun here =>
      (scan decode here.1 s).map fun there => (there.1, here.2 ++ there.2)

/-- A whole document. -/
def read (decode : List Char → Option Char) (s : List Char) : Option (List Token) :=
  match scan decode .data s with
  | some (.data, tokens) => some tokens
  | _ => none

variable {decode : List Char → Option Char} {mode mid last : Mode} {s t : List Char}
variable {seen rest : List Token}

/-! ## One piece behind the other -/

theorem scan_cons {c : Char} (hstep : step decode mode c = some (mid, seen))
    (hs : scan decode mid s = some (last, rest)) :
    scan decode mode (c :: s) = some (last, seen ++ rest) := by
  rw [scan, hstep, Option.bind_some, hs, Option.map_some]

theorem scan_append (hs : scan decode mode s = some (mid, seen))
    (ht : scan decode mid t = some (last, rest)) :
    scan decode mode (s ++ t) = some (last, seen ++ rest) := by
  induction s generalizing mode seen with
  | nil =>
    cases hs
    exact ht
  | cons c s ih =>
    rw [scan, Option.bind_eq_some_iff] at hs
    obtain ⟨⟨next, here⟩, hstep, hs⟩ := hs
    obtain ⟨⟨last', there⟩, hscan, hs⟩ := Option.map_eq_some_iff.mp hs
    cases hs
    rw [List.append_assoc]
    exact scan_cons hstep (ih hscan)

/-- A piece that is read from the text and ends in it. -/
def Reads (decode : List Char → Option Char) (s : List Char) (tokens : List Token) : Prop :=
  scan decode .data s = some (.data, tokens)

instance : Decidable (Reads decode s rest) := inferInstanceAs (Decidable (_ = _))

theorem Reads.read (h : Reads decode s rest) : Markup.read decode s = some rest := by
  rw [Markup.read, h]

theorem Reads.nil : Reads decode [] [] := rfl

theorem Reads.append (hs : Reads decode s seen) (ht : Reads decode t rest) :
    Reads decode (s ++ t) (seen ++ rest) :=
  scan_append hs ht

/-- Piece after piece. -/
theorem Reads.flatMap {α : Type*} {write : α → List Char} {page : α → List Token}
    (h : ∀ a, Reads decode (write a) (page a)) (l : List α) :
    Reads decode (l.flatMap write) (l.flatMap page) := by
  induction l with
  | nil => exact .nil
  | cons a l ih => exact (h a).append ih

/-- Text without a mark in it. -/
theorem reads_plain (h : ∀ c ∈ s, c ≠ '<' ∧ c ≠ '&') : Reads decode s (s.map .char) := by
  induction s with
  | nil => exact .nil
  | cons c s ih =>
    obtain ⟨hlt, hamp⟩ := h c List.mem_cons_self
    have hstep : step decode .data c = some (.data, [.char c]) := by
      rw [step, if_neg hlt, if_neg hamp]
    exact scan_cons hstep (ih fun d hd => h d (List.mem_cons_of_mem _ hd))

theorem ne_semicolon {d : Char} (hd : isNameChar d = true) : d ≠ ';' := by
  rintro rfl
  cases hd

/-- A mode that collects a name. -/
theorem scan_collect {collect : List Char → Mode} {n : List Char}
    (hstep : ∀ name d, isNameChar d = true →
      step decode (collect name) d = some (collect (name ++ [d]), []))
    (name : List Char) (hn : ∀ d ∈ n, isNameChar d = true) :
    scan decode (collect name) n = some (collect (name ++ n), []) := by
  induction n generalizing name with
  | nil => rw [scan, List.append_nil]
  | cons d n ih =>
    have hd := hstep name d (hn d List.mem_cons_self)
    have hrest := scan_cons hd (ih (name ++ [d]) fun e he => hn e (List.mem_cons_of_mem _ he))
    rwa [List.append_assoc] at hrest

/-! ## Escaping -/

/-- Characters written as references. -/
structure Escaping where
  name : Char → Option (List Char)
  decode : List Char → Option Char
  decode_name : ∀ c n, name c = some n → decode n = some c
  name_chars : ∀ c n, name c = some n → n.all isNameChar = true
  marked : ∀ c, name c = none → c ≠ '<' ∧ c ≠ '&' ∧ c ≠ '"'

namespace Escaping

/-- One character as it is written. -/
def char (E : Escaping) (c : Char) : List Char :=
  match E.name c with
  | some n => '&' :: n ++ [';']
  | none => [c]

/-- A text as it is written. -/
def text (E : Escaping) (s : List Char) : List Char := s.flatMap E.char

variable (E : Escaping)

/-- **A character is read as itself** where the reader takes characters and references alike:
    `collect` is the mode it goes through a reference in. -/
theorem scan_char {c : Char} {collect : List Char → Mode}
    (hplain : c ≠ '<' → c ≠ '&' → c ≠ '"' → step E.decode mode c = some (last, seen))
    (hamp : step E.decode mode '&' = some (collect [], []))
    (hname : ∀ name d, d ≠ ';' → isNameChar d = true →
      step E.decode (collect name) d = some (collect (name ++ [d]), []))
    (hsemi : ∀ name, E.decode name = some c →
      step E.decode (collect name) ';' = some (last, seen)) :
    scan E.decode mode (E.char c) = some (last, seen) := by
  unfold char
  cases hc : E.name c with
  | none =>
    obtain ⟨hlt, hampersand, hquote⟩ := E.marked c hc
    have h := scan_cons (s := []) (hplain hlt hampersand hquote) rfl
    rwa [List.append_nil] at h
  | some n =>
    have hchars := List.all_eq_true.mp (E.name_chars c n hc)
    -- no character of the name ends the reference
    have hn : scan E.decode (collect []) n = some (collect n, []) :=
      scan_collect (fun name d hd => hname name d (ne_semicolon hd) hd) [] hchars
    have hend : scan E.decode (collect n) [';'] = some (last, seen) := by
      have h := scan_cons (s := []) (hsemi n (E.decode_name c n hc)) rfl
      rwa [List.append_nil] at h
    exact scan_append (scan_cons hamp hn) hend

theorem reads_char (c : Char) : Reads E.decode (E.char c) [.char c] := by
  refine E.scan_char (fun hlt hamp _ => ?_) rfl (fun name d hd hchar => ?_)
    fun name hdecode => ?_
  · rw [step, if_neg hlt, if_neg hamp]
  · rw [step, if_neg hd, if_pos hchar]
  · rw [step, if_pos rfl, hdecode]
    rfl

/-- **A text is read as itself.** -/
theorem reads_text (s : List Char) : Reads E.decode (E.text s) (s.map .char) := by
  have h := Reads.flatMap E.reads_char s
  rwa [← List.map_eq_flatMap] at h

theorem scan_valueChar (tag : Tag) (attr value : List Char) (c : Char) :
    scan E.decode (.value tag attr value) (E.char c) =
      some (.value tag attr (value ++ [c]), []) := by
  refine E.scan_char (fun _ hamp hquote => ?_) rfl
    (fun name d hd hchar => ?_) fun name hdecode => ?_
  · rw [step, if_neg hquote, if_neg hamp]
  · rw [step, if_neg hd, if_pos hchar]
  · rw [step, if_pos rfl, hdecode]
    rfl

/-- **And so it is in a value**, where it does not end the value. -/
theorem scan_value (tag : Tag) (attr value s : List Char) :
    scan E.decode (.value tag attr value) (E.text s) = some (.value tag attr (value ++ s), []) := by
  induction s generalizing value with
  | nil => rw [List.append_nil]; rfl
  | cons c s ih =>
    have h := scan_append (E.scan_valueChar tag attr value c) (ih (value ++ [c]))
    rwa [List.append_assoc] at h

/-! ## Tags -/

/-- An attribute as it is written. -/
def attr (E : Escaping) (a : List Char × List Char) : List Char :=
  ' ' :: a.1 ++ '=' :: '"' :: E.text a.2 ++ ['"']

/-- An opening tag as it is written. -/
def opening (E : Escaping) (tag : Tag) : List Char :=
  '<' :: tag.name ++ tag.attrs.flatMap E.attr ++ ['>']

/-- Something that can be the name of a tag or an attribute. -/
def IsName (n : List Char) : Prop := n ≠ [] ∧ n.all isNameChar = true

instance (n : List Char) : Decidable (IsName n) :=
  inferInstanceAs (Decidable (n ≠ [] ∧ n.all isNameChar = true))

theorem scan_attr {tag : Tag} {a : List Char × List Char} (ha : IsName a.1)
    (hmode : step E.decode mode ' ' = inTag tag ' ') :
    scan E.decode mode (E.attr a) = some (.afterValue ⟨tag.name, tag.attrs ++ [a]⟩, []) := by
  obtain ⟨name, value⟩ := a
  obtain ⟨hne, hall⟩ := ha
  have hname := List.all_eq_true.mp hall
  cases name with
  | nil => exact absurd rfl hne
  | cons c name =>
    have hc : step E.decode (.beforeAttr tag) c = some (.attrName tag [c], []) := by
      rw [step, if_pos (hname c List.mem_cons_self)]
    have hrest : scan E.decode (.attrName tag [c]) name = some (.attrName tag (c :: name), []) :=
      scan_collect (fun n d hd => by rw [step, if_pos hd]) [c]
        fun d hd => hname d (List.mem_cons_of_mem _ hd)
    have hquote : scan E.decode (.attrName tag (c :: name)) ['=', '"'] =
        some (.value tag (c :: name) [], []) := rfl
    have hend : scan E.decode (.value tag (c :: name) value) ['"'] =
        some (.afterValue ⟨tag.name, tag.attrs ++ [(c :: name, value)]⟩, []) := rfl
    have hvalue := scan_append hquote (scan_append (E.scan_value tag (c :: name) [] value) hend)
    -- behind the tag's name and behind another attribute a blank does the same
    have hspace : step E.decode mode ' ' = some (.beforeAttr tag, []) := hmode
    have h := scan_cons hspace (scan_append (scan_cons hc hrest) hvalue)
    rw [attr, List.append_assoc]
    exact h

/-- The attributes and the end of a tag. -/
theorem scan_attrs {attrs : List (List Char × List Char)} (hattrs : ∀ a ∈ attrs, IsName a.1)
    {tag : Tag} (hmode : ∀ c, isNameChar c = false → step E.decode mode c = inTag tag c) :
    scan E.decode mode (attrs.flatMap E.attr ++ ['>']) =
      some (.data, [.opening ⟨tag.name, tag.attrs ++ attrs⟩]) := by
  induction attrs generalizing mode tag with
  | nil =>
    rw [List.append_nil]
    exact scan_cons (hmode '>' rfl) rfl
  | cons a attrs ih =>
    have ha := E.scan_attr (hattrs a List.mem_cons_self) (hmode ' ' rfl)
    have hafter : ∀ c, isNameChar c = false →
        step E.decode (.afterValue ⟨tag.name, tag.attrs ++ [a]⟩) c =
          inTag ⟨tag.name, tag.attrs ++ [a]⟩ c := fun _ _ => rfl
    have hrest := ih (fun b hb => hattrs b (List.mem_cons_of_mem _ hb)) hafter
    rw [List.flatMap_cons, List.append_assoc]
    have h := scan_append ha hrest
    rwa [List.append_assoc] at h

/-- **A tag is read as it is meant**, whatever its values are. -/
theorem reads_opening (tag : Tag) (hname : IsName tag.name)
    (hattrs : ∀ a ∈ tag.attrs, IsName a.1) : Reads E.decode (E.opening tag) [.opening tag] := by
  obtain ⟨name, attrs⟩ := tag
  obtain ⟨hne, hall⟩ := hname
  have hname := List.all_eq_true.mp hall
  cases name with
  | nil => exact absurd rfl hne
  | cons c name =>
    have hc : isNameChar c = true := hname c List.mem_cons_self
    have hslash : c ≠ '/' := by rintro rfl; cases hc
    have hbang : c ≠ '!' := by rintro rfl; cases hc
    have hfirst : step E.decode .tagOpen c = some (.tagName [c], []) := by
      rw [step, if_neg hslash, if_neg hbang, if_pos hc]
    have hrest : scan E.decode (.tagName [c]) name = some (.tagName (c :: name), []) :=
      scan_collect (fun n d hd => by rw [step, if_pos hd]) [c]
        fun d hd => hname d (List.mem_cons_of_mem _ hd)
    have hafter : ∀ d, isNameChar d = false →
        step E.decode (.tagName (c :: name)) d = inTag ⟨c :: name, []⟩ d := fun d hd => by
      rw [step, if_neg (Bool.eq_false_iff.mp hd)]
    have h := scan_append (scan_cons hfirst hrest) (E.scan_attrs hattrs hafter)
    have hlt : step E.decode .data '<' = some (.tagOpen, []) := rfl
    have htag := scan_cons hlt h
    rw [← List.cons_append, ← List.append_assoc] at htag
    exact htag

end Escaping

end Markup
