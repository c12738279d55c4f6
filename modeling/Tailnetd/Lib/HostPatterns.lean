/-
  The host field of a known-hosts file.

  A line starts with the hosts its key is for: a comma-separated list of patterns, in which `*`
  stands for any text and `?` for any character, and a pattern after `!` takes back what another one
  matches.  A field that starts with `|` is the hash of a name, one that starts with `@` a marker (a
  certificate authority, a revoked key), and a line that starts with `#` a comment.  A host is
  looked up under its name on the standard port, and as `[host]:port` on any other (`lookupName`).

  A name used as a field means itself and no other host (`OnlyNames`) exactly when none of these
  characters stands where it has a meaning, and the name is no host with a port
  (`onlyNames_self_iff`).
-/
import Tailnetd.Lib.Radix
import Tailnetd.Lib.TextLines

namespace HostPatterns

open TextLines

/-! ## Patterns -/

/-- The names a pattern matches. -/
inductive Matches : List Char → List Char → Prop
  | nil : Matches [] []
  | starEnd {pattern name} : Matches pattern name → Matches ('*' :: pattern) name
  | starMore {pattern name} (c : Char) :
      Matches ('*' :: pattern) name → Matches ('*' :: pattern) (c :: name)
  | any {pattern name} (c : Char) : Matches pattern name → Matches ('?' :: pattern) (c :: name)
  | exact {pattern name} (c : Char) (star : c ≠ '*') (any : c ≠ '?') :
      Matches pattern name → Matches (c :: pattern) (c :: name)

/-- A character that stands for others. -/
def isWildcard (c : Char) : Bool := c == '*' || c == '?'

/-- A pattern without wildcards matches its own text only. -/
theorem Matches.eq_of_plain {pattern name : List Char} (h : Matches pattern name)
    (plain : ∀ c ∈ pattern, isWildcard c = false) : name = pattern := by
  induction h with
  | nil => rfl
  | starEnd _ _ => exact absurd (plain '*' List.mem_cons_self) (by decide)
  | starMore _ _ _ => exact absurd (plain '*' List.mem_cons_self) (by decide)
  | any _ _ _ => exact absurd (plain '?' List.mem_cons_self) (by decide)
  | exact c _ _ _ ih => rw [ih fun d hd => plain d (List.mem_cons_of_mem c hd)]

/-- One text a pattern matches: an `a` for each wildcard. -/
def fill (pattern : List Char) : List Char := pattern.map fun c => if isWildcard c then 'a' else c

theorem matches_fill (pattern : List Char) : Matches pattern (fill pattern) := by
  induction pattern with
  | nil => exact Matches.nil
  | cons c pattern ih =>
    by_cases hstar : c = '*'
    · subst hstar
      exact (Matches.starEnd ih).starMore 'a'
    · by_cases hany : c = '?'
      · subst hany
        exact ih.any 'a'
      · have hplain : isWildcard c = false := by simp [isWildcard, hstar, hany]
        rw [fill, List.map_cons, hplain, if_neg Bool.false_ne_true]
        exact ih.exact c hstar hany

theorem fill_of_plain {pattern : List Char} (plain : ∀ c ∈ pattern, isWildcard c = false) :
    fill pattern = pattern := by
  have hsame : ∀ c ∈ pattern, (if isWildcard c then 'a' else c) = id c := by
    intro c hc
    rw [plain c hc, if_neg Bool.false_ne_true, id]
  rw [fill, List.map_congr_left hsame, List.map_id]

theorem plain_of_mem_fill {pattern : List Char} {c : Char} (h : c ∈ fill pattern) :
    isWildcard c = false := by
  obtain ⟨d, -, rfl⟩ := List.mem_map.mp h
  split
  · decide
  · rename_i hd
    exact eq_false_of_ne_true hd

/-- Filling the wildcards brings in no comma. -/
theorem comma_notMem_fill {pattern : List Char} (h : ',' ∉ pattern) : ',' ∉ fill pattern := by
  intro hmem
  obtain ⟨d, hd, hcomma⟩ := List.mem_map.mp hmem
  split at hcomma
  · exact absurd hcomma (by decide)
  · exact h (hcomma ▸ hd)

/-! ## The field -/

/-- What a host field says. -/
inductive HostField where
  | marker
  | hashed
  | patterns (list : List (List Char))
  deriving DecidableEq, Repr

/-- The field, read from its first character. -/
def HostField.read (field : List Char) : HostField :=
  match field.head? with
  | some '@' => .marker
  | some '|' => .hashed
  | _ => .patterns (field.splitOn ',')

/-- A pattern that takes back. -/
def isNegated (pattern : List Char) : Bool := pattern.head? == some '!'

/-- The blanks that separate the fields of a line. -/
def isBlank (c : Char) : Bool := c == ' ' || c == '\t'

/-- The host field of a line; a comment and an empty line have none. -/
def hostField (line : List Char) : Option (List Char) :=
  match line.dropWhile isBlank with
  | [] => none
  | c :: rest => if c = '#' then none else some ((c :: rest).takeWhile (!isBlank ·))

/-- The text a host is looked up under, for the port it is asked on. -/
def lookupName (host : List Char) (port : UInt16) : List Char :=
  if port = 22 then host else '[' :: host ++ ']' :: ':' :: Nat.toDigits 10 port.toNat

/-- The field is a list of patterns, none of them negated, that match this host on some port and no
    other host on any. -/
def OnlyNames (field name : List Char) : Prop :=
  ∃ list, HostField.read field = .patterns list ∧ (∀ pattern ∈ list, isNegated pattern = false) ∧
    ∀ host, (∃ port, ∃ pattern ∈ list, Matches pattern (lookupName host port)) ↔ host = name

/-! ## A host with a port -/

/-- What stands behind the last colon. -/
def behindColon (field : List Char) : List Char := (field.reverse.takeWhile (· != ':')).reverse

/-- What stands before it, with the colon. -/
def toColon (field : List Char) : List Char := (field.reverse.dropWhile (· != ':')).reverse

theorem toColon_append (field : List Char) : toColon field ++ behindColon field = field := by
  rw [toColon, behindColon, ← List.reverse_append, List.takeWhile_append_dropWhile,
    List.reverse_reverse]

/-- The last colon is where it is. -/
theorem colon_eq {front port : List Char} (h : ':' ∉ port) :
    toColon (front ++ ':' :: port) = front ++ [':'] ∧
      behindColon (front ++ ':' :: port) = port := by
  have hkeep : ∀ c ∈ port.reverse, (c != ':') = true := by
    intro c hc
    exact bne_iff_ne.mpr fun heq => h (heq ▸ List.mem_reverse.mp hc)
  have hback : (front ++ ':' :: port).reverse = port.reverse ++ ':' :: front.reverse := by simp
  unfold toColon behindColon
  rw [hback, List.dropWhile_append_of_pos hkeep, List.takeWhile_append_of_pos hkeep,
    List.dropWhile_cons_of_neg (by decide), List.takeWhile_cons_of_neg (by decide)]
  simp

/-- The digits of a port off the standard one. -/
def isOffPort (text : List Char) : Bool :=
  (Radix.fromStrRadix 10 65536 text).any fun n => n != 22 && Nat.toDigits 10 n == text

theorem isOffPort_iff {text : List Char} :
    isOffPort text = true ↔ ∃ port : UInt16, port ≠ 22 ∧ text = Nat.toDigits 10 port.toNat := by
  unfold isOffPort
  constructor
  · intro h
    obtain ⟨n, hn, hsame⟩ := Option.any_eq_true _ _ |>.mp h
    rw [Bool.and_eq_true, bne_iff_ne, beq_iff_eq] at hsame
    have hport : (UInt16.ofNat n).toNat = n :=
      UInt16.toNat_ofNat_of_lt (Radix.fromStrRadix_lt hn)
    refine ⟨UInt16.ofNat n, fun heq => hsame.1 ?_, ?_⟩
    · rw [← hport, heq]
      rfl
    · rw [hport, hsame.2]
  · rintro ⟨port, hport, rfl⟩
    rw [Radix.fromStrRadix_toDigits port.toNat_lt, Option.any_some, Bool.and_eq_true, bne_iff_ne,
      beq_iff_eq]
    exact ⟨fun heq => hport (UInt16.toNat_inj.mp heq), rfl⟩

/-- `[host]:port`, off the standard port. -/
def hasPort (field : List Char) : Bool :=
  (toColon field).head? == some '[' && [']', ':'].isSuffixOf (toColon field) &&
    isOffPort (behindColon field)

/-- **A field that names a host with a port is the text some host is looked up under there.** -/
theorem hasPort_iff {field : List Char} :
    hasPort field = true ↔ ∃ host port, port ≠ 22 ∧ lookupName host port = field := by
  unfold hasPort
  rw [Bool.and_eq_true, Bool.and_eq_true, beq_iff_eq, List.isSuffixOf_iff_suffix, isOffPort_iff]
  constructor
  · rintro ⟨⟨hhead, host, hfront⟩, port, hport, htext⟩
    rw [← hfront] at hhead
    cases host with
    | nil => cases hhead
    | cons c host =>
      cases hhead
      refine ⟨host, port, hport, ?_⟩
      rw [lookupName, if_neg hport, ← toColon_append field, htext, ← hfront]
      simp
  · rintro ⟨host, port, hport, rfl⟩
    have hcolon : ':' ∉ Nat.toDigits 10 port.toNat := fun hmem =>
      absurd (Radix.digit_of_mem_toDigits hmem).2 (by decide)
    have hname : lookupName host port =
        ('[' :: host ++ [']']) ++ ':' :: Nat.toDigits 10 port.toNat := by
      rw [lookupName, if_neg hport]
      simp
    obtain ⟨hfront, hback⟩ := @colon_eq ('[' :: host ++ [']']) _ hcolon
    rw [hname, hfront, hback]
    exact ⟨⟨rfl, '[' :: host, by simp⟩, port, hport, rfl⟩

/-! ## A name as a field -/

/-- No wildcard, no comma, no meaning in the first place, and no port. -/
def isPlainHost (field : List Char) : Bool :=
  field.all (fun c => !isWildcard c && c != ',') &&
    (field.head?.all fun c => c != '!' && c != '@' && c != '|') && !hasPort field

theorem isPlainHost_iff {field : List Char} :
    isPlainHost field = true ↔
      (∀ c ∈ field, isWildcard c = false) ∧ ',' ∉ field ∧ field.head? ≠ some '!' ∧
        field.head? ≠ some '@' ∧ field.head? ≠ some '|' ∧ hasPort field = false := by
  cases field with
  | nil => exact iff_of_true rfl ⟨by simp, by simp, by simp, by simp, by simp, rfl⟩
  | cons c rest =>
    simp only [isPlainHost, List.head?_cons, Option.all_some, Bool.and_eq_true, List.all_eq_true,
      Bool.not_eq_true', bne_iff_ne, ne_eq, Option.some.injEq]
    constructor
    · rintro ⟨⟨hall, ⟨hbang, hat⟩, hbar⟩, hport⟩
      exact ⟨fun d hd => (hall d hd).1, fun hmem => (hall _ hmem).2 rfl, hbang, hat, hbar, hport⟩
    · rintro ⟨hall, hcomma, hbang, hat, hbar, hport⟩
      exact ⟨⟨fun d hd => ⟨hall d hd, fun heq => hcomma (heq ▸ hd)⟩, ⟨hbang, hat⟩, hbar⟩, hport⟩

/-- **A name read as a host field means itself alone exactly when it holds no wildcard and no comma,
    starts with none of `!`, `@` and `|`, and is no `[host]:port`.**  A wildcard filled in, a piece
    before a comma, and the host in the brackets are other names the field is found under. -/
theorem onlyNames_self_iff (field : List Char) :
    OnlyNames field field ↔ isPlainHost field = true := by
  rw [isPlainHost_iff]
  constructor
  · rintro ⟨list, hread, hnegated, honly⟩
    have hhead : field.head? ≠ some '@' ∧ field.head? ≠ some '|' ∧ field.splitOn ',' = list := by
      unfold HostField.read at hread
      split at hread
      · cases hread
      · cases hread
      · rename_i hat hbar
        exact ⟨hat, hbar, HostField.patterns.inj hread⟩
    obtain ⟨hat, hbar, rfl⟩ := hhead
    -- the first pattern, filled in, is the name itself
    obtain ⟨first, rest, hsplit⟩ := List.exists_cons_of_ne_nil (List.splitOn_ne_nil ',' field)
    have hmem : first ∈ field.splitOn ',' := hsplit ▸ List.mem_cons_self
    have hfill : fill first = field := (honly _).mp ⟨22, first, hmem, matches_fill first⟩
    have hcomma : ',' ∉ field := hfill ▸ comma_notMem_fill (notMem_of_mem_splitOn hmem)
    have hself : field ∈ field.splitOn ',' := by
      rw [List.splitOn_eq_singleton hcomma]
      exact List.mem_singleton_self field
    have hplain : ∀ c ∈ field, isWildcard c = false := fun c hc => plain_of_mem_fill (hfill ▸ hc)
    refine ⟨hplain, hcomma, ?_, hat, hbar, ?_⟩
    · have hnot := hnegated field hself
      intro hbang
      rw [isNegated, hbang] at hnot
      exact absurd hnot (by decide)
    · -- the host in the brackets would be the whole field, and it is shorter
      by_contra hport
      obtain ⟨host, port, hoff, hname⟩ := hasPort_iff.mp (by simpa using hport)
      have hmatch : Matches field (lookupName host port) := by
        rw [hname]
        have hself := matches_fill field
        rwa [fill_of_plain hplain] at hself
      have hhost : host = field := (honly host).mp ⟨port, field, hself, hmatch⟩
      have hlength := congrArg List.length hname
      rw [lookupName, if_neg hoff, hhost] at hlength
      simp only [List.cons_append, List.length_cons, List.length_append] at hlength
      omega
  · rintro ⟨hplain, hcomma, hbang, hat, hbar, hport⟩
    refine ⟨[field], ?_, ?_, ?_⟩
    · unfold HostField.read
      split
      · exact absurd ‹_› hat
      · exact absurd ‹_› hbar
      · rw [List.splitOn_eq_singleton hcomma]
    · intro pattern hpattern
      rw [List.mem_singleton.mp hpattern, isNegated, beq_eq_false_iff_ne]
      exact hbang
    · intro host
      constructor
      · rintro ⟨port, pattern, hpattern, hmatch⟩
        rw [List.mem_singleton] at hpattern
        rw [hpattern] at hmatch
        have hname := hmatch.eq_of_plain hplain
        by_cases hoff : port = 22
        · rwa [lookupName, if_pos hoff] at hname
        · rw [hasPort_iff.mpr ⟨host, port, hoff, hname⟩] at hport
          cases hport
      · rintro rfl
        have hmatch := matches_fill host
        rw [fill_of_plain hplain] at hmatch
        exact ⟨22, host, List.mem_singleton_self _, hmatch⟩

end HostPatterns
