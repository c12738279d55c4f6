/-
  `tnet update`: which release is installed, when, and how the binary is replaced (`bin/tnet.rs`).

  1. **Versions** — exactly three numerals between dots are parsed, behind the `v` of a tag or not
     and whatever suffix follows (`semver_parse_iff`); what is printed reads back.
  2. **The swap** — the new binary is written under a name of its own and renamed over the old one.
     Whatever fails, and wherever the process is killed, the name of the executable leads to the old
     binary or to the whole new one, and no other file is touched (`swapEnds`).
  3. **The command** — it changes the executable only when it was told to install, on a host that
     may, and then to the `tnet` of an archive of the release it chose, whose digest is the one that
     was published with it; where it installs nothing, it only reported or it fails
     (`update_installs_verified`).

  The network, the JSON reader, the digest and the archive reader are parameters (`Web`).
-/
import Mathlib.Data.List.TakeWhile
import Mathlib.Data.Prod.Lex
import Tailnetd.Lib.Directory
import Tailnetd.Lib.Extremes
import Tailnetd.LockSecret

namespace Tailnetd.Update

open FileSystem

/-! ## Versions -/

/-- `SemVer`. -/
structure SemVer where
  major : UInt64
  minor : UInt64
  patch : UInt64
  deriving DecidableEq, Repr

namespace SemVer

/-- The numbers in the order the derived comparison takes them. -/
def key (v : SemVer) : Nat ×ₗ Nat ×ₗ Nat :=
  toLex (v.major.toNat, toLex (v.minor.toNat, v.patch.toNat))

theorem key_injective : Function.Injective key := by
  intro a b h
  obtain ⟨hmajor, hrest⟩ := Prod.mk.inj (toLex.injective h)
  obtain ⟨hminor, hpatch⟩ := Prod.mk.inj (toLex.injective hrest)
  cases a
  cases b
  simp_all [UInt64.toNat_inj]

instance : LinearOrder SemVer := LinearOrder.lift' key key_injective

/-- `str::parse::<u64>`. -/
def parseU64 (digits : List Char) : Option UInt64 :=
  (Radix.fromStrRadix 10 (2 ^ 64) digits).map UInt64.ofNat

/-- `SemVer::parse`. -/
def parse (s : String) : Option SemVer :=
  let s := ((stripPrefix "v" (trim s)).getD (trim s)).toList
  let core := s.takeWhile fun c => !(c == '-' || c == '+')
  match pieces '.' core with
  | [major, minor, patch] => do
    let major ← parseU64 major
    let minor ← parseU64 minor
    let patch ← parseU64 patch
    some ⟨major, minor, patch⟩
  | _ => none

/-- `Display`. -/
def display (v : SemVer) : String :=
  toString v.major.toNat ++ "." ++ toString v.minor.toNat ++ "." ++ toString v.patch.toNat

end SemVer

/-! ### The texts of a version -/

/-- A decimal numeral of a number, leading zeros allowed. -/
def Numeral (text : List Char) (n : UInt64) : Prop :=
  text ≠ [] ∧ Radix.value? 10 0 text = some n.toNat

/-- The texts of a version: three numerals between dots, behind the `v` of a tag or not, and a
    pre-release or build suffix or none. -/
inductive Spells : List Char → SemVer → Prop
  | version {tag a b c suffix : List Char} {v : SemVer} (htag : tag = [] ∨ tag = ['v'])
      (ha : Numeral a v.major) (hb : Numeral b v.minor) (hc : Numeral c v.patch)
      (hsuffix : ∀ x rest, suffix = x :: rest → x = '-' ∨ x = '+') :
      Spells (tag ++ (a ++ '.' :: (b ++ '.' :: c) ++ suffix)) v

theorem Numeral.digit {text : List Char} {n : UInt64} (h : Numeral text n) {c : Char}
    (hc : c ∈ text) : '0' ≤ c ∧ c ≤ '9' :=
  Radix.decimal_of_digit (Radix.value?_isSome_iff.mp (Option.isSome_of_eq_some h.2) c hc)

/-- The characters of three numerals between dots. -/
theorem mem_numerals {a b c : List Char} {major minor patch : UInt64} {x : Char}
    (ha : Numeral a major) (hb : Numeral b minor) (hc : Numeral c patch)
    (hx : x ∈ a ++ '.' :: (b ++ '.' :: c)) : x = '.' ∨ ('0' ≤ x ∧ x ≤ '9') := by
  simp only [List.mem_append, List.mem_cons] at hx
  rcases hx with hx | rfl | hx | rfl | hx
  · exact .inr (ha.digit hx)
  · exact .inl rfl
  · exact .inr (hb.digit hx)
  · exact .inl rfl
  · exact .inr (hc.digit hx)

theorem numeral_toDigits (n : UInt64) : Numeral (Nat.toDigits 10 n.toNat) n := by
  refine ⟨Nat.toDigits_ne_nil, ?_⟩
  rw [Radix.value?_decimal fun c hc => Radix.digit_of_mem_toDigits hc,
    Nat.ofDigitChars_ten_toDigits]

/-- Without a sign, the parser of numbers takes the numerals. -/
theorem parseU64_eq_some_iff {text : List Char} {n : UInt64} (hplus : '+' ∉ text) :
    SemVer.parseU64 text = some n ↔ Numeral text n := by
  unfold SemVer.parseU64
  rw [Option.map_eq_some_iff]
  constructor
  · rintro ⟨k, hread, rfl⟩
    have hne : text ≠ [] := by
      rintro rfl
      cases hread
    have hdigits : ∀ c ∈ text, (Radix.digit? 10 c).isSome := by
      intro c hc
      rcases Radix.fromStrRadix_chars hread c hc with rfl | hdigit
      · exact absurd hc hplus
      · exact hdigit
    rw [Radix.fromStrRadix_of_digits hne hdigits, Option.filter_eq_some_iff] at hread
    refine ⟨hne, ?_⟩
    rw [hread.1, UInt64.toNat_ofNat', Nat.mod_eq_of_lt (of_decide_eq_true hread.2)]
  · rintro ⟨hne, hvalue⟩
    have hdigits := Radix.value?_isSome_iff.mp (Option.isSome_of_eq_some hvalue)
    refine ⟨n.toNat, ?_, UInt64.ofNat_toNat⟩
    rw [Radix.fromStrRadix_of_digits hne hdigits, hvalue, Option.filter_some,
      if_pos (decide_eq_true n.toNat_lt)]

theorem pieces_of_notMem {text : List Char} (h : '.' ∉ text) : pieces '.' text = [text] := by
  rw [pieces, Delimited.split_of_notMem h]
  rfl

theorem pieces_append_cons {piece : List Char} (h : '.' ∉ piece) (rest : List Char) :
    pieces '.' (piece ++ '.' :: rest) = piece :: pieces '.' rest := by
  rw [pieces, Delimited.split_append_cons h]
  rfl

/-- Three pieces are what they are the pieces of. -/
theorem join_pieces {text a b c : List Char} (h : pieces '.' text = [a, b, c]) :
    text = a ++ '.' :: (b ++ '.' :: c) := by
  obtain ⟨hjoin, -, -⟩ := Delimited.join_split '.' text
  have hsplit : (Delimited.split '.' text).1 ++ [(Delimited.split '.' text).2] = [a, b] ++ [c] := h
  obtain ⟨hrows, htail⟩ := List.append_inj' hsplit rfl
  rw [← hjoin, hrows, (List.cons.inj htail).1]
  simp [Delimited.join]

/-- What stands behind the `v` of a tag, if there is one. -/
theorem stripPrefix_tag {s : String} {tag text : List Char} (htag : tag = [] ∨ tag = ['v'])
    (htext : text.head? ≠ some 'v') (hs : s.toList = tag ++ text) :
    ((stripPrefix "v" s).getD s).toList = text := by
  unfold stripPrefix
  rcases htag with rfl | rfl
  · rw [List.nil_append] at hs
    have hnot : "v".toList.isPrefixOf s.toList = false := by
      rw [hs]
      cases text with
      | nil => rfl
      | cons c text =>
        have hc : ('v' == c) = false := by
          rw [beq_eq_false_iff_ne]
          exact fun h => htext (by rw [h]; rfl)
        show ('v' == c && [].isPrefixOf text) = false
        rw [hc, Bool.false_and]
    rw [hnot, if_neg Bool.false_ne_true, Option.getD_none, hs]
  · have hpre : "v".toList.isPrefixOf s.toList = true := by
      rw [hs]
      rfl
    rw [hpre, if_pos rfl, Option.getD_some, String.toList_ofList, hs]
    rfl

/-- A text is what is left of it behind a tag's `v`. -/
theorem exists_tag (s : String) : ∃ tag, (tag = [] ∨ tag = ['v']) ∧
    s.toList = tag ++ ((stripPrefix "v" s).getD s).toList := by
  unfold stripPrefix
  by_cases h : "v".toList.isPrefixOf s.toList = true
  · obtain ⟨rest, hrest⟩ := List.isPrefixOf_iff_prefix.mp h
    refine ⟨['v'], .inr rfl, ?_⟩
    rw [if_pos h, Option.getD_some, String.toList_ofList, ← hrest]
    rfl
  · refine ⟨[], .inl rfl, ?_⟩
    rw [if_neg h]
    rfl

/-- The characters at which the suffix starts. -/
theorem takeWhile_core {core suffix : List Char} (hcore : ∀ c ∈ core, c ≠ '-' ∧ c ≠ '+')
    (hsuffix : ∀ x rest, suffix = x :: rest → x = '-' ∨ x = '+') :
    (core ++ suffix).takeWhile (fun c => !(c == '-' || c == '+')) = core := by
  have hcut : suffix.takeWhile (fun c => !(c == '-' || c == '+')) = [] := by
    cases suffix with
    | nil => rfl
    | cons x rest => rcases hsuffix x rest rfl with rfl | rfl <;> rfl
  rw [List.takeWhile_append_of_pos, hcut, List.append_nil]
  intro c hc
  simp [hcore c hc]

theorem spells_of_parse {s : String} {v : SemVer} (h : SemVer.parse s = some v) :
    Spells (trim s).toList v := by
  obtain ⟨tag, htag, htrim⟩ := exists_tag (trim s)
  unfold SemVer.parse at h
  dsimp only at h
  generalize ((stripPrefix "v" (trim s)).getD (trim s)).toList = body at h htrim
  have hsplit := List.takeWhile_append_dropWhile (p := fun c => !(c == '-' || c == '+')) (l := body)
  have hsuffix : ∀ x rest, body.dropWhile (fun c => !(c == '-' || c == '+')) = x :: rest →
      x = '-' ∨ x = '+' := by
    intro x rest hdrop
    have hhead := List.head?_dropWhile_not (fun c => !(c == '-' || c == '+')) body
    rw [hdrop] at hhead
    simpa [Decidable.or_iff_not_imp_left] using hhead
  split at h
  · rename_i a b c hpieces
    obtain ⟨major, hmajor, h⟩ := Option.bind_eq_some_iff.mp h
    obtain ⟨minor, hminor, h⟩ := Option.bind_eq_some_iff.mp h
    obtain ⟨patch, hpatch, h⟩ := Option.bind_eq_some_iff.mp h
    cases h
    have hcore := join_pieces hpieces
    have hplus : '+' ∉ a ++ '.' :: (b ++ '.' :: c) := by
      rw [← hcore]
      intro hmem
      have hkept := List.mem_takeWhile_imp hmem
      cases hkept
    simp only [List.mem_append, List.mem_cons, not_or] at hplus
    rw [htrim, ← hsplit, hcore]
    exact .version htag ((parseU64_eq_some_iff hplus.1).mp hmajor)
      ((parseU64_eq_some_iff hplus.2.2.1).mp hminor)
      ((parseU64_eq_some_iff hplus.2.2.2.2).mp hpatch) hsuffix
  · cases h

theorem parse_of_spells {s : String} {v : SemVer} (h : Spells (trim s).toList v) :
    SemVer.parse s = some v := by
  generalize htrim : (trim s).toList = text at h
  cases h with
  | @version tag a b c suffix _ htag ha hb hc hsuffix =>
    have hcore := fun x => @mem_numerals a b c _ _ _ x ha hb hc
    have hne : a ++ '.' :: (b ++ '.' :: c) ≠ [] := by simp
    have hhead : (a ++ '.' :: (b ++ '.' :: c) ++ suffix).head? ≠ some 'v' := by
      rw [List.head?_append_of_ne_nil _ hne]
      intro h
      rcases hcore 'v' (List.mem_of_mem_head? h) with h | h <;> exact absurd h (by decide)
    have hplain : ∀ x ∈ a ++ '.' :: (b ++ '.' :: c), x ≠ '-' ∧ x ≠ '+' := by
      intro x hx
      constructor <;> rintro rfl <;> rcases hcore _ hx with h | h <;> exact absurd h (by decide)
    have hcut := takeWhile_core hplain hsuffix
    have hdot {text : List Char} {n : UInt64} (h : Numeral text n) : '.' ∉ text := fun hdot =>
      absurd (h.digit hdot).1 (by decide)
    have hplus {text : List Char} {n : UInt64} (h : Numeral text n) : '+' ∉ text := fun hplus =>
      absurd (h.digit hplus).1 (by decide)
    unfold SemVer.parse
    simp only [stripPrefix_tag htag hhead htrim, hcut, pieces_append_cons (hdot ha),
      pieces_append_cons (hdot hb), pieces_of_notMem (hdot hc),
      (parseU64_eq_some_iff (hplus ha)).mpr ha, (parseU64_eq_some_iff (hplus hb)).mpr hb,
      (parseU64_eq_some_iff (hplus hc)).mpr hc, Option.bind_eq_bind, Option.bind_some]

/-- **Exactly the texts of a version are parsed**, and as that version. -/
theorem semver_parse_iff (s : String) (v : SemVer) :
    SemVer.parse s = some v ↔ Spells (trim s).toList v :=
  ⟨spells_of_parse, parse_of_spells⟩

/-- What is printed reads back. -/
theorem parse_display (v : SemVer) : SemVer.parse v.display = some v := by
  have htext : v.display.toList = Nat.toDigits 10 v.major.toNat ++ '.' ::
      (Nat.toDigits 10 v.minor.toNat ++ '.' :: Nat.toDigits 10 v.patch.toNat) := by
    simp [SemVer.display]
  have hplain : ∀ c ∈ v.display.toList, isWhitespace c = false := by
    intro c hc
    rw [htext] at hc
    rcases mem_numerals (numeral_toDigits _) (numeral_toDigits _) (numeral_toDigits _) hc with
      rfl | ⟨hlow, hhigh⟩
    · rfl
    · have hlow' : 48 ≤ c.toNat := hlow
      have hhigh' : c.toNat ≤ 57 := hhigh
      simp only [isWhitespace, Bool.or_eq_false_iff, Bool.and_eq_false_iff,
        decide_eq_false_iff_not, beq_eq_false_iff_ne]
      omega
  have hspells := @Spells.version [] _ _ _ [] v (.inl rfl) (numeral_toDigits v.major)
    (numeral_toDigits v.minor) (numeral_toDigits v.patch) (fun x rest h => by cases h)
  rw [List.append_nil, List.nil_append, ← htext, ← trim_eq_self hplain] at hspells
  exact parse_of_spells hspells

/-! ## Replacing the binary -/

/-- How the calls of the swap come out: each that fails with its error. -/
structure SwapIo where
  create : Option String
  /-- How many bytes the single writes take, as long as there are more. -/
  writes : List Nat
  /-- The error of the write after them. -/
  write : Option String
  sync : Option String
  rename : Option String
  cleanup : Option String

/-- `write_all`, behind `done` bytes: how many are written after each call, and how it ends. -/
def writeAllSteps (io : SwapIo) (size : Nat) : List Nat → Nat → List Nat × Option String
  | [], done =>
    if done = size then ([], none)
    else
      match io.write with
      | some e => ([], some e)
      | none => ([size], none)
  | n :: writes, done =>
    if done = size then ([], none)
    else if n = 0 then ([], some "failed to write whole buffer")
    else
      let (steps, error) := writeAllSteps io size writes (min size (done + n))
      (min size (done + n) :: steps, error)

/-- `remove_file` of the temporary file, whose failure is not looked at. -/
def swapCleanup (io : SwapIo) (d : Directory) (tmp : String) : Directory :=
  if io.cleanup.isSome then d
  else
    match d.unlink tmp with
    | .gone d' => d'
    | _ => d

/-- `swap_binary_in_place`: how it ends, and the directory after each call; `exe` and `tmp` are
    names in the directory `dir`. -/
def swapBinaryInPlace (io : SwapIo) (d : Directory) (dir exe tmp : String) (new : List UInt8) :
    Except String Unit × List Directory :=
  let path (name : String) := dir ++ "/" ++ name
  let created : Except String Directory :=
    match io.create, d.create tmp with
    | some e, _ => .error e
    | none, none => .error "File exists"
    | none, some d' => .ok d'
  match created with
  | .error e => (.error ("creating the update temp " ++ path tmp ++ ": " ++ e), [d])
  | .ok d₁ =>
    let (steps, wrote) := writeAllSteps io new.length io.writes 0
    let d₂ := d₁.write tmp (new.take (steps.getLastD 0))
    let seen := d :: d₁ :: steps.map fun n => d₁.write tmp (new.take n)
    match wrote.or io.sync with
    | some e =>
      (.error ("writing the new binary to " ++ path tmp ++ ": " ++ e),
        seen ++ [swapCleanup io d₂ tmp])
    | none =>
      let renamed : Except String Directory :=
        match io.rename, d₂.rename tmp exe with
        | some e, _ => .error e
        | none, none => .error "Is a directory"
        | none, some d₃ => .ok d₃
      match renamed with
      | .error e =>
        (.error ("renaming " ++ path tmp ++ " over " ++ path exe ++
          " (is the target on a different filesystem, or not writable?): " ++ e),
          seen ++ [swapCleanup io d₂ tmp])
      | .ok d₃ => (.ok (), seen ++ [d₃])

/-! ### What the swap leaves, wherever it stops -/

/-- What anyone can find in the directory while the binary is replaced. -/
structure OldOrNew (d : Directory) (exe tmp : String) (new : List UInt8) (d' : Directory) :
    Prop where
  /-- The executable is the old file or the whole new one, which is no file that was there. -/
  binary : d'.get? exe = d.get? exe ∨
    ∃ inode, d.next ≤ inode ∧ d'.get? exe = some ⟨inode, .file new⟩
  others : ∀ name, name ≠ exe → name ≠ tmp → d'.get? name = d.get? name
  planted : (d.get? tmp).isSome = true → d'.get? tmp = d.get? tmp

theorem OldOrNew.refl (d : Directory) (exe tmp : String) (new : List UInt8) :
    OldOrNew d exe tmp new d :=
  ⟨.inl rfl, fun _ _ _ => rfl, fun _ => rfl⟩

/-- The writes that come to no error have written it all. -/
theorem writeAllSteps_done {io : SwapIo} {size : Nat} {writes steps : List Nat} {done : Nat}
    (hdone : done ≤ size) (h : writeAllSteps io size writes done = (steps, none)) :
    steps.getLastD done = size := by
  induction writes generalizing done steps with
  | nil =>
    unfold writeAllSteps at h
    split at h
    · rename_i hsize
      cases h
      exact hsize
    · split at h
      · cases h
      · cases h
        rfl
  | cons n writes ih =>
    unfold writeAllSteps at h
    split at h
    · rename_i hsize
      cases h
      exact hsize
    · split at h
      · cases h
      · obtain ⟨hsteps, herror⟩ := Prod.mk.inj h
        rw [← hsteps, List.getLastD_cons]
        exact ih (Nat.min_le_left _ _) (Prod.ext rfl herror)

section Swap
variable {d d₁ : Directory} {exe tmp : String} {io : SwapIo}

/-- A create that worked, with some bytes written since. -/
theorem get?_written (hcreate : d.create tmp = some d₁) (content : List UInt8) (name : String) :
    (d₁.write tmp content).get? name =
      if name = tmp then some ⟨d.next, .file content⟩ else d.get? name := by
  obtain ⟨-, -, hget⟩ := Directory.get?_create hcreate
  have htmp : d₁.get? tmp = some ⟨d.next, .file []⟩ := by rw [hget, if_pos rfl]
  rw [Directory.get?_write htmp, hget]
  split <;> rfl

/-- The temporary file is taken away, if that works. -/
theorem get?_swapCleanup (hcreate : d.create tmp = some d₁) (content : List UInt8)
    (name : String) :
    (swapCleanup io (d₁.write tmp content) tmp).get? name =
      if name = tmp then if io.cleanup.isSome then some ⟨d.next, .file content⟩ else none
      else d.get? name := by
  have hwritten := get?_written hcreate content
  unfold swapCleanup
  by_cases hfails : io.cleanup.isSome = true
  · rw [if_pos hfails, if_pos hfails, hwritten]
  · rw [if_neg hfails, if_neg hfails]
    rcases Directory.unlink_cases (d₁.write tmp content) tmp with
      ⟨hnone, -⟩ | ⟨inode, hfolder, -⟩ | ⟨inode, old, d', hfile, hgone⟩
    · rw [hwritten, if_pos rfl] at hnone
      cases hnone
    · rw [hwritten, if_pos rfl] at hfolder
      cases hfolder
    · obtain ⟨-, -, hget⟩ := Directory.get?_unlink hgone
      rw [hgone]
      show d'.get? name = _
      rw [hget, hwritten]
      split <;> rfl

/-- A name that could be created is not the executable's. -/
theorem created_apart (hexe : (d.get? exe).isSome = true) (hcreate : d.create tmp = some d₁) :
    d.get? tmp = none ∧ exe ≠ tmp := by
  have hfree : d.get? tmp = none := (Directory.get?_create hcreate).1
  refine ⟨hfree, ?_⟩
  rintro rfl
  rw [hfree] at hexe
  cases hexe

/-- A directory that differs in the temporary file only. -/
theorem OldOrNew.of_get? {d' : Directory} {entry : Option DirEntry}
    (hexe : (d.get? exe).isSome = true) (hcreate : d.create tmp = some d₁) (new : List UInt8)
    (hget : ∀ name, d'.get? name = if name = tmp then entry else d.get? name) :
    OldOrNew d exe tmp new d' := by
  obtain ⟨hfree, hne⟩ := created_apart hexe hcreate
  refine ⟨.inl ?_, fun name _ hname => ?_, fun h => ?_⟩
  · rw [hget, if_neg hne]
  · rw [hget, if_neg hname]
  · rw [hfree] at h
    cases h

/-- The last state of a swap that failed: the old binary, and no temporary file that was not there,
    unless it could not be taken away. -/
def Abandoned (io : SwapIo) (d : Directory) (exe tmp : String) (last : Directory) : Prop :=
  last.get? exe = d.get? exe ∧ (io.cleanup = none → last.get? tmp = d.get? tmp)

theorem abandoned_cleanup (hexe : (d.get? exe).isSome = true) (hcreate : d.create tmp = some d₁)
    (content : List UInt8) :
    Abandoned io d exe tmp (swapCleanup io (d₁.write tmp content) tmp) := by
  obtain ⟨hfree, hne⟩ := created_apart hexe hcreate
  have hget (name : String) : (swapCleanup io (d₁.write tmp content) tmp).get? name = _ :=
    get?_swapCleanup hcreate content name
  refine ⟨by rw [hget, if_neg hne], fun hcleanup => ?_⟩
  rw [hget, if_pos rfl, hcleanup, hfree]
  rfl

/-- A rename that worked. -/
theorem get?_swapped {d₃ : Directory} {content : List UInt8} (hcreate : d.create tmp = some d₁)
    (hrename : (d₁.write tmp content).rename tmp exe = some d₃) (name : String) :
    d₃.get? name = if name = exe then some ⟨d.next, .file content⟩
      else if name = tmp then none else d.get? name := by
  obtain ⟨inode, old, htmp, -, hget⟩ := Directory.get?_rename hrename
  rw [get?_written hcreate, if_pos rfl] at htmp
  cases htmp
  rw [hget, get?_written hcreate]
  by_cases hname : name = exe
  · rw [if_pos hname, if_pos hname]
  · rw [if_neg hname, if_neg hname]
    split <;> rfl

/-- The new file has the executable's name, and the temporary one is gone. -/
theorem swapped_of_rename {d₃ : Directory} {new : List UInt8} (hexe : (d.get? exe).isSome = true)
    (hcreate : d.create tmp = some d₁) (hrename : (d₁.write tmp new).rename tmp exe = some d₃) :
    OldOrNew d exe tmp new d₃ ∧ d₃.get? exe = some ⟨d.next, .file new⟩ ∧ d₃.get? tmp = none := by
  have hget := get?_swapped hcreate hrename
  obtain ⟨hfree, hne⟩ := created_apart hexe hcreate
  have hnew : d₃.get? exe = some ⟨d.next, .file new⟩ := by rw [hget, if_pos rfl]
  refine ⟨⟨.inr ⟨d.next, Nat.le_refl _, hnew⟩, fun name hname htmp => ?_, fun h => ?_⟩, hnew, ?_⟩
  · rw [hget, if_neg hname, if_neg htmp]
  · rw [hfree] at h
    cases h
  · rw [hget, if_neg (Ne.symm hne), if_pos rfl]

end Swap

/-- Something stops a swap: a call that fails, a file that has the temporary name, or a folder that
    has the executable's. -/
def SwapFails (io : SwapIo) (d : Directory) (exe tmp : String) (new : List UInt8) : Prop :=
  (io.create.isSome = true ∨ (d.get? tmp).isSome = true) ∨
    ((writeAllSteps io new.length io.writes 0).2.or io.sync).isSome = true ∨
    io.rename.isSome = true ∨ ∃ folder, d.get? exe = some ⟨folder, .folder⟩

/-- How a swap ends, and what could be found in the directory meanwhile. -/
inductive SwapEnds (io : SwapIo) (d : Directory) (exe tmp : String) (new : List UInt8) :
    Except String Unit × List Directory → Prop
  /-- It worked: the executable is the new file, and there is no temporary one. -/
  | swapped {seen : List Directory} {last : Directory} {inode : Nat}
      (hworks : ¬ SwapFails io d exe tmp new)
      (hseen : ∀ d' ∈ seen ++ [last], OldOrNew d exe tmp new d') (hinode : d.next ≤ inode)
      (hexe : last.get? exe = some ⟨inode, .file new⟩) (htmp : last.get? tmp = none) :
      SwapEnds io d exe tmp new (.ok (), seen ++ [last])
  | abandoned {e : String} {seen : List Directory} {last : Directory}
      (hfails : SwapFails io d exe tmp new)
      (hseen : ∀ d' ∈ seen ++ [last], OldOrNew d exe tmp new d')
      (hlast : Abandoned io d exe tmp last) :
      SwapEnds io d exe tmp new (.error e, seen ++ [last])

/-- **Old or new.**  At every moment of a swap the executable is the old file or the whole new one,
    and no other file is touched. -/
theorem swapEnds (io : SwapIo) {d : Directory} (dir : String) {exe : String} (tmp : String)
    (new : List UInt8) (hexe : (d.get? exe).isSome = true) :
    SwapEnds io d exe tmp new (swapBinaryInPlace io d dir exe tmp new) := by
  have hnothing (e : String) (hfails : SwapFails io d exe tmp new) :
      SwapEnds io d exe tmp new (.error e, [] ++ [d]) := by
    refine .abandoned hfails (fun d' hd' => ?_) ⟨rfl, fun _ => rfl⟩
    rw [List.nil_append, List.mem_singleton] at hd'
    exact hd' ▸ .refl d exe tmp new
  unfold swapBinaryInPlace
  rcases hrefused : io.create with _ | e
  · rcases hcreate : d.create tmp with _ | d₁
    · exact hnothing _ (.inl (.inr (Directory.create_eq_none_iff.mp hcreate)))
    · have hget := (Directory.get?_create hcreate).2.2
      obtain ⟨hfree, hne⟩ := created_apart hexe hcreate
      rcases hsteps : writeAllSteps io new.length io.writes 0 with ⟨steps, wrote⟩
      have hover {last : Directory} (hlast : OldOrNew d exe tmp new last) :
          ∀ d' ∈ (d :: d₁ :: steps.map fun n => d₁.write tmp (new.take n)) ++ [last],
            OldOrNew d exe tmp new d' := by
        intro d' hd'
        rcases List.mem_append.mp hd' with hd' | hd'
        · rcases List.mem_cons.mp hd' with rfl | hd'
          · exact .refl _ exe tmp new
          rcases List.mem_cons.mp hd' with rfl | hd'
          · exact .of_get? hexe hcreate new hget
          · obtain ⟨n, -, rfl⟩ := List.mem_map.mp hd'
            exact .of_get? hexe hcreate new (get?_written hcreate _)
        · exact List.mem_singleton.mp hd' ▸ hlast
      -- what is left when it is given up after the create
      have hgivenUp (e : String) (content : List UInt8) (hfails : SwapFails io d exe tmp new) :
          SwapEnds io d exe tmp new (.error e,
            (d :: d₁ :: steps.map fun n => d₁.write tmp (new.take n)) ++
              [swapCleanup io (d₁.write tmp content) tmp]) :=
        .abandoned hfails (hover (.of_get? hexe hcreate new (get?_swapCleanup hcreate content)))
          (abandoned_cleanup hexe hcreate content)
      have hwrites : SwapFails io d exe tmp new ↔ (wrote.or io.sync).isSome = true ∨
          io.rename.isSome = true ∨ ∃ folder, d.get? exe = some ⟨folder, .folder⟩ := by
        unfold SwapFails
        rw [hrefused, hfree, hsteps]
        exact or_iff_right (by rintro (h | h) <;> cases h)
      dsimp only
      rcases hwrote : wrote.or io.sync with _ | e
      · -- the new file is there, and only a folder of the executable's name is in its way
        have hwritten := (get?_written hcreate (new.take (steps.getLastD 0)) tmp).trans (if_pos rfl)
        have htaken : (d₁.write tmp (new.take (steps.getLastD 0))).rename tmp exe = none ↔
            ∃ folder, d.get? exe = some ⟨folder, .folder⟩ := by
          rw [Directory.rename_eq_none_iff hwritten, get?_written hcreate, if_neg hne]
        rcases hmoved : io.rename with _ | e
        · rcases hrename : (d₁.write tmp (new.take (steps.getLastD 0))).rename tmp exe with _ | d₃
          · exact hgivenUp _ _ (hwrites.mpr (.inr (.inr (htaken.mp hrename))))
          · have hworks : ¬ SwapFails io d exe tmp new := by
              rw [hwrites, hwrote, hmoved]
              rintro (h | h | hfolder)
              · cases h
              · cases h
              · rw [htaken.mpr hfolder] at hrename
                cases hrename
            have hwhole : new.take (steps.getLastD 0) = new := by
              have hnone : wrote = none := (Option.or_eq_none_iff.mp hwrote).1
              rw [writeAllSteps_done (Nat.zero_le _) (hnone ▸ hsteps), List.take_length]
            rw [hwhole] at hrename
            obtain ⟨hlast, hnew, htmp⟩ := swapped_of_rename hexe hcreate hrename
            exact .swapped hworks (hover hlast) (Nat.le_refl _) hnew htmp
        · exact hgivenUp _ _ (hwrites.mpr (.inr (.inl (by rw [hmoved]; rfl))))
      · exact hgivenUp _ _ (hwrites.mpr (.inl (by rw [hwrote]; rfl)))
  · exact hnothing _ (.inl (.inl (by rw [hrefused]; rfl)))

/-! ## Releases -/

/-- A name or a command, as the messages set it off. -/
def backticked (text : String) : String :=
  (String.singleton (.ofNat 0x60)).append (text.push (.ofNat 0x60))

/-- `GithubAsset`. -/
structure GithubAsset where
  name : String
  browserDownloadUrl : String
  deriving DecidableEq, Repr

/-- `GithubRelease`. -/
structure GithubRelease where
  tagName : String
  prerelease : Bool
  draft : Bool
  htmlUrl : String
  assets : List GithubAsset
  deriving DecidableEq, Repr

/-- What can be read: the bytes, and the error behind them. -/
structure Reader where
  bytes : List UInt8
  error : Option String

/-- An entry of the archive: the components of its path, and its bytes. -/
structure ArchiveEntry where
  path : List String
  content : Reader

/-- What the command uses and does not bring along. -/
structure Web where
  /-- The body of the response to a `GET`, with the `Accept` header that is sent. -/
  get : String → Option String → Except String Reader
  parseRelease : List UInt8 → Except String GithubRelease
  parseReleases : List UInt8 → Except String (List GithubRelease)
  sha256 : List UInt8 → Vector UInt8 32
  /-- The entries of a gzipped archive; the iteration ends with the first that is an error. -/
  entries : List UInt8 → Except String (List (Except String ArchiveEntry))

/-- An error under a context. -/
def withContext {α : Type} (context : String) : Except String α → Except String α
  | .ok a => .ok a
  | .error e => .error (context ++ ": " ++ e)

/-- A value that must be there. -/
def orElseError {α : Type} (error : String) : Option α → Except String α
  | some a => .ok a
  | none => .error error

/-- `read_to_end`, of one byte more than the cap at most: an error behind it is not met. -/
def readToEnd (reader : Reader) (maxBytes : Nat) : Except String (List UInt8) :=
  if maxBytes < reader.bytes.length then .ok (reader.bytes.take (maxBytes + 1))
  else
    match reader.error with
    | some e => .error e
    | none => .ok reader.bytes

section Command

variable (W : Web)

/-- `http_get_bytes`. -/
def httpGetBytes (url : String) (accept : Option String) (maxBytes : Nat) :
    Except String (List UInt8) := do
  let resp ← withContext ("HTTP GET " ++ url) (W.get url accept)
  let buf ← withContext ("reading response body from " ++ url) (readToEnd resp maxBytes)
  if maxBytes < buf.length then
    .error ("response from " ++ url ++ " exceeds the " ++ toString maxBytes ++ "-byte cap")
  else .ok buf

/-- The Releases API of the repository. -/
def releasesUrl (rest : String) : String :=
  "https://api.github.com/repos/GeiserX/tailscaled-rs/releases" ++ rest

/-- `API_MAX`. -/
def apiMax : Nat := 4 * 2 ^ 20

/-- The media type that the API is asked for. -/
def json : Option String := some "application/vnd.github+json"

/-- The tag of a version that was asked for. -/
def tagOf (version : String) : String := if startsWith "v" version then version else "v" ++ version

/-- The newest of some releases: no draft, and only tags that are versions. -/
def newestRelease (releases : List GithubRelease) : Option GithubRelease :=
  (Extremes.maxByKey Prod.snd (releases.filterMap fun r =>
    if r.draft then none else (SemVer.parse r.tagName).map fun v => (r, v))).map Prod.fst

/-- `resolve_target_release`. -/
def resolveTargetRelease (version : Option String) (unstable : Bool) :
    Except String GithubRelease := do
  match version with
  | some v =>
    let body ← withContext ("no release found for " ++ tagOf v)
      (httpGetBytes W (releasesUrl ("/tags/" ++ tagOf v)) json apiMax)
    withContext "parsing release JSON" (W.parseRelease body)
  | none =>
    if unstable then
      let body ← httpGetBytes W (releasesUrl "?per_page=20") json apiMax
      let releases ← withContext "parsing releases JSON" (W.parseReleases body)
      orElseError "no releases found" (newestRelease releases)
    else
      let body ← httpGetBytes W (releasesUrl "/latest") json apiMax
      withContext "parsing latest-release JSON" (W.parseRelease body)

/-- The digest a sidecar names: the first word of its first line that is not blank, in lower
    case. -/
def sidecarDigest (sidecar : String) : Except String (List Char) := do
  let line ← orElseError "empty SHA-256 sidecar"
    ((textLines sidecar).find? fun line => !(line.all isWhitespace))
  let word := (nextWord line).1
  if word = [] then .error "malformed SHA-256 sidecar (no digest)"
  else .ok (word.map toAsciiLower)

/-- `verify_sha256`. -/
def verifySha256 (data sidecar : List UInt8) (expectedName : String) : Except String Unit := do
  let sidecar ← orElseError "SHA-256 sidecar is not valid UTF-8"
    (String.fromUTF8? sidecar.toByteArray)
  let want ← sidecarDigest sidecar
  if want.length ≠ 64 ∨ ¬ (want.all fun c => (Radix.digit? 16 c).isSome) = true then
    .error ("malformed SHA-256 sidecar for " ++ expectedName ++ ": not a 64-char hex digest")
  else if encodeHex (W.sha256 data).toList ≠ want then
    .error ("SHA-256 mismatch for " ++ expectedName ++
      ": download is corrupt or has been tampered with (expected " ++ String.ofList want ++
      ", got " ++ String.ofList (encodeHex (W.sha256 data).toList) ++ ")")
  else .ok ()

/-- `MAX_TNET_BYTES`. -/
def maxTnetBytes : Nat := 128 * 2 ^ 20

/-- The loop of `extract_tnet_from_tarball`. -/
def extractFrom : List (Except String ArchiveEntry) → Except String (List UInt8)
  | [] => .error ("the release tarball does not contain a " ++ backticked "tnet" ++ " binary")
  | .error e :: _ => .error ("reading a tarball entry: " ++ e)
  | .ok entry :: rest =>
    if entry.path = ["tnet"] then do
      let content ← withContext "reading tnet from tarball" (readToEnd entry.content maxTnetBytes)
      if maxTnetBytes < content.length then
        .error ("the " ++ backticked "tnet" ++ " entry in the tarball exceeds " ++
          toString maxTnetBytes ++ " bytes — refusing (possible decompression bomb)")
      else if content = [] then .error "tnet in the tarball is empty"
      else .ok content
    else extractFrom rest

/-- `extract_tnet_from_tarball`. -/
def extractTnetFromTarball (gz : List UInt8) : Except String (List UInt8) := do
  let entries ← withContext "reading tarball entries" (W.entries gz)
  extractFrom entries

/-! ## The command -/

/-- What the command finds on the host: the version it is of itself, who owns its binary, what the
    host is, and where the binary is, or why it cannot tell. -/
structure Installation where
  current : SemVer
  homebrewFormula : Option String
  os : String
  arch : String
  currentExe : Option String
  dir : String
  exe : String
  tmp : String

/-- `host_release_triple`. -/
def hostReleaseTriple (os arch : String) : Option String :=
  if os = "linux" ∧ arch = "x86_64" then some "x86_64-unknown-linux-gnu"
  else if os = "linux" ∧ arch = "aarch64" then some "aarch64-unknown-linux-gnu"
  else none

/-- `homebrew_update_refusal`. -/
def homebrewUpdateRefusal (formula : String) : String :=
  "this " ++ backticked "tnet" ++ " was installed by Homebrew (it is a file of the " ++
    backticked formula ++ " formula, under Homebrew's Cellar), and binary updates are not " ++
    "supported for a Homebrew install: replacing it in place would overwrite a file Homebrew owns " ++
    "and leave " ++ backticked "brew" ++ " reporting a version that is no longer installed. " ++
    "Update it with " ++ backticked ("brew update && brew upgrade " ++ formula) ++
    " instead (or install a release tarball outside the Homebrew prefix and update that)"

/-- Whether prereleases count. -/
def trackUnstable (track : Option String) : Except String Bool :=
  match track with
  | none => .ok false
  | some "stable" => .ok false
  | some "unstable" => .ok true
  | some other =>
    .error ("unknown --track " ++ quoted other ++ ": expected " ++ backticked "stable" ++ " or " ++
      backticked "unstable")

/-- The lines that name the two versions. -/
def reportLines (current latest : SemVer) (release : GithubRelease) : List String :=
  ["current: " ++ current.display,
    "latest:  " ++ latest.display ++ "  (" ++ release.tagName ++
      (if release.prerelease then ", prerelease" else "") ++ ")"] ++
    if release.htmlUrl = "" then [] else ["release: " ++ release.htmlUrl]

/-- What a run that does not install advises. -/
def adviceLines (I : Installation) (latest : SemVer) (version : Option String) : List String :=
  match I.homebrewFormula with
  | some formula =>
    if I.current < latest then
      ["", "a newer version is available; this " ++ backticked "tnet" ++
        " is Homebrew-managed, so install it with " ++
        backticked ("brew update && brew upgrade " ++ formula) ++ "."]
    else
      ["", "this " ++ backticked "tnet" ++ " is Homebrew-managed, so " ++ backticked "--yes" ++
        " cannot change its version — " ++ backticked "brew" ++
        " decides which one is installed (" ++ backticked ("brew upgrade " ++ formula) ++ ")."]
  | none =>
    if I.current < latest then
      if version.isSome then ["", "to install " ++ latest.display ++ ", re-run with --yes."]
      else ["", "a newer version is available; re-run with --yes to download + install it."]
    else if version.isSome then ["", "re-run with --yes to switch to " ++ latest.display ++ "."]
    else []

/-- The URL of the release's asset of a name. -/
def findAsset (release : GithubRelease) (name : String) : Option String :=
  (release.assets.find? fun a => a.name == name && !(a.browserDownloadUrl == "")).map
    (·.browserDownloadUrl)

/-- The name of the archive for a host. -/
def tarballName (release : GithubRelease) (triple : String) : String :=
  "tailscaled-rs-" ++ release.tagName ++ "-" ++ triple ++ ".tar.gz"

/-- `DL_MAX`. -/
def dlMax : Nat := 256 * 2 ^ 20

/-- An archive that was downloaded and checked. -/
structure Download where
  name : String
  tarball : List UInt8

/-- The install path up to the check of the digest. -/
def download (I : Installation) (release : GithubRelease) : Except String Download := do
  match I.homebrewFormula with
  | some formula => .error (homebrewUpdateRefusal formula)
  | none =>
    let triple ← orElseError
      ("this build's platform (" ++ I.os ++ "/" ++ I.arch ++ ") has no published release " ++
        "artifact (the project ships Linux x86_64/aarch64 tarballs only) — install/update via " ++
        "your package or build from source instead")
      (hostReleaseTriple I.os I.arch)
    let name := tarballName release triple
    let tarballUrl ← orElseError
      ("release " ++ release.tagName ++ " has no asset named " ++ name) (findAsset release name)
    let shaUrl ← orElseError
      ("release " ++ release.tagName ++ " has no SHA-256 sidecar " ++ name ++ ".sha256")
      (findAsset release (name ++ ".sha256"))
    let tarball ← httpGetBytes W tarballUrl none dlMax
    let sidecar ← httpGetBytes W shaUrl none 4096
    verifySha256 W tarball sidecar name
    return ⟨name, tarball⟩

/-- The new binary, and the executable that it replaces. -/
def unpack (I : Installation) (found : Download) : Except String (List UInt8) := do
  let new ← extractTnetFromTarball W found.tarball
  match I.currentExe with
  | some e => .error ("resolving the running executable to replace: " ++ e)
  | none => .ok new

/-- How a run ends: what it printed, its result, and the directory of the binary after each of its
    steps. -/
structure UpdateRun where
  printed : List String
  result : Except String Unit
  seen : List Directory

/-- What a run settles before it may install: the release and its version, or why there is none. -/
def chooseRelease (version track : Option String) : Except String (GithubRelease × SemVer) := do
  let unstable ← trackUnstable track
  let release ← resolveTargetRelease W version unstable
  let latest ← orElseError
    ("release tag " ++ quoted release.tagName ++ " is not a semantic version")
    (SemVer.parse release.tagName)
  return (release, latest)

/-- The install path. -/
def install (I : Installation) (io : SwapIo) (d : Directory) (release : GithubRelease)
    (latest : SemVer) (printed : List String) : UpdateRun :=
  match download W I release with
  | .error e => ⟨printed, .error e, [d]⟩
  | .ok found =>
    let printed := printed ++ ["verified SHA-256 of " ++ found.name ++ " (" ++
      toString found.tarball.length ++ " bytes)."]
    match unpack W I found with
    | .error e => ⟨printed, .error e, [d]⟩
    | .ok new =>
      let path := I.dir ++ "/" ++ I.exe
      match swapBinaryInPlace io d I.dir I.exe I.tmp new with
      | (.error e, seen) =>
        ⟨printed, .error ("replacing " ++ path ++ " with the new tnet: " ++ e), seen⟩
      | (.ok (), seen) =>
        ⟨printed ++ ["updated " ++ path ++ " to " ++ latest.display ++ ".",
          "(note: only this " ++ backticked "tnet" ++ " binary was replaced; update " ++
            backticked "tailnetd" ++ " and restart the daemon separately — the tarball at the " ++
            "release contains both.)"], .ok (), seen⟩

/-- `run_update`. -/
def runUpdate (I : Installation) (io : SwapIo) (d : Directory) (reportOnly yes : Bool)
    (version track : Option String) : UpdateRun :=
  match chooseRelease W version track with
  | .error e => ⟨[], .error e, [d]⟩
  | .ok (release, latest) =>
    let printed := reportLines I.current latest release
    if version.isNone ∧ latest ≤ I.current then
      ⟨printed ++ ["you are already on the latest version."], .ok (), [d]⟩
    else if !(yes && !reportOnly) then ⟨printed ++ adviceLines I latest version, .ok (), [d]⟩
    else install W I io d release latest printed

end Command

/-! ## What is installed -/

/-- A sequence succeeds where its parts do. -/
theorem bind_eq_ok {ε α β : Type} {x : Except ε α} {f : α → Except ε β} {b : β} :
    x >>= f = .ok b ↔ ∃ a, x = .ok a ∧ f a = .ok b := by
  cases x with
  | error e => exact iff_of_false nofun fun ⟨_, h, _⟩ => by cases h
  | ok a => exact ⟨fun h => ⟨a, rfl, h⟩, fun ⟨_, h, hf⟩ => by cases h; exact hf⟩

@[simp] theorem withContext_eq_ok {α : Type} {context : String} {x : Except String α} {a : α} :
    withContext context x = .ok a ↔ x = .ok a := by
  cases x with
  | error e => exact iff_of_false nofun nofun
  | ok b => exact Iff.rfl

@[simp] theorem orElseError_eq_ok {α : Type} {error : String} {x : Option α} {a : α} :
    orElseError error x = .ok a ↔ x = some a := by
  cases x with
  | none => exact iff_of_false nofun nofun
  | some b =>
    rw [orElseError, Option.some.injEq]
    exact ⟨fun h => Except.ok.inj h, fun h => congrArg Except.ok h⟩

variable {W : Web} {I : Installation}

/-- What is read and is within the cap is all there is. -/
theorem readToEnd_fits_iff {reader : Reader} {maxBytes : Nat} {bytes : List UInt8} :
    (readToEnd reader maxBytes = .ok bytes ∧ bytes.length ≤ maxBytes) ↔
      reader = ⟨bytes, none⟩ ∧ bytes.length ≤ maxBytes := by
  obtain ⟨content, error⟩ := reader
  unfold readToEnd
  constructor
  · rintro ⟨hread, hfits⟩
    split at hread
    · rename_i hover
      cases hread
      rw [List.length_take] at hfits
      have hover : maxBytes < content.length := hover
      omega
    · cases error with
      | some e => cases hread
      | none =>
        cases hread
        exact ⟨rfl, hfits⟩
  · rintro ⟨hreader, hfits⟩
    cases hreader
    exact ⟨if_neg (Nat.not_lt.mpr hfits), hfits⟩

/-- A `GET` gives these bytes, without an error and within the cap. -/
def Fetches (W : Web) (url : String) (accept : Option String) (maxBytes : Nat)
    (body : List UInt8) : Prop :=
  W.get url accept = .ok ⟨body, none⟩ ∧ body.length ≤ maxBytes

theorem httpGetBytes_eq_ok {url : String} {accept : Option String} {maxBytes : Nat}
    {body : List UInt8} :
    httpGetBytes W url accept maxBytes = .ok body ↔ Fetches W url accept maxBytes body := by
  unfold httpGetBytes
  simp only [bind_eq_ok, withContext_eq_ok]
  constructor
  · rintro ⟨resp, hget, buf, hread, hcap⟩
    split at hcap
    · cases hcap
    · rename_i hfits
      cases hcap
      obtain ⟨rfl, hfits⟩ := readToEnd_fits_iff.mp ⟨hread, Nat.not_lt.mp hfits⟩
      exact ⟨hget, hfits⟩
  · rintro ⟨hget, hfits⟩
    obtain ⟨hread, -⟩ := readToEnd_fits_iff.mpr ⟨rfl, hfits⟩
    exact ⟨_, hget, body, hread, if_neg (Nat.not_lt.mpr hfits)⟩

/-- The releases that count, each with its version. -/
theorem mem_candidates {releases : List GithubRelease} {r : GithubRelease} {v : SemVer} :
    (r, v) ∈ (releases.filterMap fun r =>
        if r.draft then none else (SemVer.parse r.tagName).map fun v => (r, v)) ↔
      r ∈ releases ∧ r.draft = false ∧ SemVer.parse r.tagName = some v := by
  rw [List.mem_filterMap]
  constructor
  · rintro ⟨r₀, hr₀, hsome⟩
    split at hsome
    · cases hsome
    · rename_i hdraft
      obtain ⟨v₀, hparse, hpair⟩ := Option.map_eq_some_iff.mp hsome
      cases hpair
      exact ⟨hr₀, Bool.eq_false_iff.mpr hdraft, hparse⟩
  · rintro ⟨hr, hdraft, hparse⟩
    exact ⟨r, hr, by rw [hdraft, if_neg Bool.false_ne_true, hparse]; rfl⟩

/-- **The newest release** is no draft, and no other that is none has a greater version. -/
theorem newestRelease_eq_some {releases : List GithubRelease} {r : GithubRelease}
    (h : newestRelease releases = some r) : r ∈ releases ∧ r.draft = false ∧
      ∃ v, SemVer.parse r.tagName = some v ∧
        ∀ r' ∈ releases, r'.draft = false → ∀ v', SemVer.parse r'.tagName = some v' → v' ≤ v := by
  obtain ⟨⟨r, v⟩, hmax, rfl⟩ := Option.map_eq_some_iff.mp h
  obtain ⟨before, after, hitems, hbefore, hafter⟩ := Extremes.maxByKey_eq_some hmax
  have hmem {r' : GithubRelease} {v' : SemVer} : (r', v') ∈ before ++ (r, v) :: after ↔
      r' ∈ releases ∧ r'.draft = false ∧ SemVer.parse r'.tagName = some v' := by
    rw [← hitems, mem_candidates]
  obtain ⟨hr, hdraft, hparse⟩ := hmem.mp (List.mem_append_right before List.mem_cons_self)
  refine ⟨hr, hdraft, v, hparse, fun r' hr' hdraft' v' hparse' => ?_⟩
  rcases List.mem_append.mp (hmem.mpr ⟨hr', hdraft', hparse'⟩) with hb | ha
  · exact hbefore _ hb
  · rcases List.mem_cons.mp ha with heq | ha
    · exact le_of_eq (congrArg Prod.snd heq)
    · exact le_of_lt (hafter _ ha)

/-- There is a newest release as soon as one counts. -/
theorem newestRelease_isSome {releases : List GithubRelease} {r : GithubRelease} {v : SemVer}
    (hr : r ∈ releases) (hdraft : r.draft = false) (hv : SemVer.parse r.tagName = some v) :
    ∃ newest, newestRelease releases = some newest := by
  have hmem := mem_candidates.mpr ⟨hr, hdraft, hv⟩
  unfold newestRelease
  generalize (releases.filterMap fun r =>
    if r.draft then none else (SemVer.parse r.tagName).map fun v => (r, v)) = candidates at hmem ⊢
  cases candidates with
  | nil => cases hmem
  | cons first rest => exact ⟨_, rfl⟩

/-- Which release a run is about. -/
inductive Chosen (W : Web) : Option String → Option String → GithubRelease → Prop
  /-- The one that was asked for. -/
  | asked {v : String} {track : Option String} {release : GithubRelease} {body : List UInt8}
      (htrack : track = none ∨ track = some "stable" ∨ track = some "unstable")
      (hget : Fetches W (releasesUrl ("/tags/" ++ tagOf v)) json apiMax body)
      (hparse : W.parseRelease body = .ok release) : Chosen W (some v) track release
  /-- The newest of the listed ones. -/
  | newest {release : GithubRelease} {body : List UInt8} {releases : List GithubRelease}
      {v : SemVer} (hget : Fetches W (releasesUrl "?per_page=20") json apiMax body)
      (hparse : W.parseReleases body = .ok releases) (hmem : release ∈ releases)
      (hdraft : release.draft = false) (hv : SemVer.parse release.tagName = some v)
      (hmax : ∀ r ∈ releases, r.draft = false → ∀ v', SemVer.parse r.tagName = some v' → v' ≤ v) :
      Chosen W none (some "unstable") release
  /-- The one that the repository calls the latest. -/
  | latest {track : Option String} {release : GithubRelease} {body : List UInt8}
      (htrack : track = none ∨ track = some "stable")
      (hget : Fetches W (releasesUrl "/latest") json apiMax body)
      (hparse : W.parseRelease body = .ok release) : Chosen W none track release

theorem trackUnstable_eq_ok {track : Option String} {unstable : Bool} :
    trackUnstable track = .ok unstable ↔
      (unstable = false ∧ (track = none ∨ track = some "stable")) ∨
        (unstable = true ∧ track = some "unstable") := by
  constructor
  · intro h
    unfold trackUnstable at h
    split at h
    · cases h
      exact .inl ⟨rfl, .inl rfl⟩
    · cases h
      exact .inl ⟨rfl, .inr rfl⟩
    · cases h
      exact .inr ⟨rfl, rfl⟩
    · cases h
  · rintro (⟨rfl, rfl | rfl⟩ | ⟨rfl, rfl⟩) <;> rfl

theorem chooseRelease_eq_ok {version track : Option String} {release : GithubRelease}
    {latest : SemVer} (h : chooseRelease W version track = .ok (release, latest)) :
    Chosen W version track release ∧ SemVer.parse release.tagName = some latest := by
  obtain ⟨unstable, htrack, h⟩ := bind_eq_ok.mp h
  obtain ⟨release', hrelease, h⟩ := bind_eq_ok.mp h
  obtain ⟨latest', hlatest, h⟩ := bind_eq_ok.mp h
  obtain ⟨rfl, rfl⟩ := Prod.mk.inj (Except.ok.inj h)
  refine ⟨?_, orElseError_eq_ok.mp hlatest⟩
  have htrack := trackUnstable_eq_ok.mp htrack
  unfold resolveTargetRelease at hrelease
  cases version with
  | some v =>
    obtain ⟨body, hbody, hparse⟩ := bind_eq_ok.mp hrelease
    have hknown : track = none ∨ track = some "stable" ∨ track = some "unstable" := by
      rcases htrack with ⟨-, h | h⟩ | ⟨-, h⟩
      · exact .inl h
      · exact .inr (.inl h)
      · exact .inr (.inr h)
    exact .asked hknown (httpGetBytes_eq_ok.mp (withContext_eq_ok.mp hbody))
      (withContext_eq_ok.mp hparse)
  | none =>
    rcases htrack with ⟨rfl, hstable⟩ | ⟨rfl, rfl⟩
    · obtain ⟨body, hbody, hparse⟩ := bind_eq_ok.mp hrelease
      exact .latest hstable (httpGetBytes_eq_ok.mp hbody) (withContext_eq_ok.mp hparse)
    · obtain ⟨body, hbody, hrelease⟩ := bind_eq_ok.mp hrelease
      obtain ⟨releases, hparse, hnewest⟩ := bind_eq_ok.mp hrelease
      obtain ⟨hmem, hdraft, v, hv, hmax⟩ := newestRelease_eq_some (orElseError_eq_ok.mp hnewest)
      exact .newest (httpGetBytes_eq_ok.mp hbody) (withContext_eq_ok.mp hparse) hmem hdraft hv hmax

/-- Where there is a release to choose, one is chosen. -/
theorem Chosen.found {version track : Option String} {release : GithubRelease} {latest : SemVer}
    (h : Chosen W version track release) (hlatest : SemVer.parse release.tagName = some latest) :
    ∃ found, chooseRelease W version track = .ok found := by
  -- a release that is resolved, of a version
  have hresolves {unstable : Bool} {release : GithubRelease} {latest : SemVer}
      (htrack : trackUnstable track = .ok unstable)
      (hrelease : resolveTargetRelease W version unstable = .ok release)
      (hlatest : SemVer.parse release.tagName = some latest) :
      ∃ found, chooseRelease W version track = .ok found :=
    ⟨_, bind_eq_ok.mpr ⟨_, htrack, bind_eq_ok.mpr ⟨_, hrelease,
      bind_eq_ok.mpr ⟨_, orElseError_eq_ok.mpr hlatest, rfl⟩⟩⟩⟩
  cases h with
  | asked htrack hget hparse =>
    have hunstable : ∃ unstable, trackUnstable track = .ok unstable := by
      rcases htrack with h | h | h
      · exact ⟨_, trackUnstable_eq_ok.mpr (.inl ⟨rfl, .inl h⟩)⟩
      · exact ⟨_, trackUnstable_eq_ok.mpr (.inl ⟨rfl, .inr h⟩)⟩
      · exact ⟨_, trackUnstable_eq_ok.mpr (.inr ⟨rfl, h⟩)⟩
    obtain ⟨unstable, htrack⟩ := hunstable
    refine hresolves htrack (bind_eq_ok.mpr ⟨_, ?_, withContext_eq_ok.mpr hparse⟩) hlatest
    exact withContext_eq_ok.mpr (httpGetBytes_eq_ok.mpr hget)
  | newest hget hparse hmem hdraft hv _ =>
    obtain ⟨newest, hnewest⟩ := newestRelease_isSome hmem hdraft hv
    obtain ⟨-, -, v, hv, -⟩ := newestRelease_eq_some hnewest
    refine hresolves rfl (bind_eq_ok.mpr ⟨_, httpGetBytes_eq_ok.mpr hget, ?_⟩) hv
    exact bind_eq_ok.mpr ⟨_, withContext_eq_ok.mpr hparse, orElseError_eq_ok.mpr hnewest⟩
  | latest htrack hget hparse =>
    refine hresolves (trackUnstable_eq_ok.mpr (.inl ⟨rfl, htrack⟩)) ?_ hlatest
    exact bind_eq_ok.mpr ⟨_, httpGetBytes_eq_ok.mpr hget, withContext_eq_ok.mpr hparse⟩

/-- The first entry of an archive that is the binary: not empty, and within the cap. -/
def FirstTnet (entries : List (Except String ArchiveEntry)) (new : List UInt8) : Prop :=
  ∃ before entry after, entries = before ++ .ok entry :: after ∧
    (∀ e ∈ before, ∃ other, e = .ok other ∧ other.path ≠ ["tnet"]) ∧ entry.path = ["tnet"] ∧
    entry.content = ⟨new, none⟩ ∧ new.length ≤ maxTnetBytes ∧ new ≠ []

/-- The release publishes an archive for this host, with its digest and a binary in it. -/
structure Published (W : Web) (I : Installation) (release : GithubRelease) (found : Download)
    (new : List UInt8) : Prop where
  unowned : I.homebrewFormula = none
  named : ∃ triple, hostReleaseTriple I.os I.arch = some triple ∧
    found.name = tarballName release triple
  tarball : ∃ url, findAsset release found.name = some url ∧ Fetches W url none dlMax found.tarball
  /-- The digest of the archive is the one in the sidecar. -/
  digest : ∃ url sidecar text, findAsset release (found.name ++ ".sha256") = some url ∧
    Fetches W url none 4096 sidecar ∧ String.fromUTF8? sidecar.toByteArray = some text ∧
      sidecarDigest text = .ok (encodeHex (W.sha256 found.tarball).toList)
  binary : ∃ entries, W.entries found.tarball = .ok entries ∧ FirstTnet entries new

theorem length_encodeHex (digest : Vector UInt8 32) : (encodeHex digest.toList).length = 64 := by
  simp [encodeHex, List.length_flatMap]

/-- An archive is passed exactly if the sidecar has its digest. -/
theorem verifySha256_eq_ok {data sidecar : List UInt8} {name : String} :
    verifySha256 W data sidecar name = .ok () ↔
      ∃ text, String.fromUTF8? sidecar.toByteArray = some text ∧
        sidecarDigest text = .ok (encodeHex (W.sha256 data).toList) := by
  unfold verifySha256
  simp only [bind_eq_ok, orElseError_eq_ok]
  constructor
  · rintro ⟨text, htext, want, hwant, h⟩
    split at h
    · cases h
    split at h
    · cases h
    rename_i hsame
    exact ⟨text, htext, not_not.mp hsame ▸ hwant⟩
  · rintro ⟨text, htext, hwant⟩
    refine ⟨text, htext, _, hwant, ?_⟩
    have hhex : ((encodeHex (W.sha256 data).toList).all
        fun c => (Radix.digit? 16 c).isSome) = true :=
      List.all_eq_true.mpr (hexText_encodeHex _).digits
    rw [if_neg, if_neg (not_not.mpr rfl)]
    rintro (h | h)
    · exact h (length_encodeHex _)
    · exact h hhex

theorem extractFrom_eq_ok {entries : List (Except String ArchiveEntry)} {new : List UInt8} :
    extractFrom entries = .ok new ↔ FirstTnet entries new := by
  constructor
  · intro h
    induction entries with
    | nil => cases h
    | cons first rest ih =>
      cases first with
      | error e => cases h
      | ok entry =>
        unfold extractFrom at h
        split at h
        · rename_i hpath
          obtain ⟨content, hcontent, h⟩ := bind_eq_ok.mp h
          split at h
          · cases h
          split at h
          · cases h
          rename_i hcap hne
          cases h
          obtain ⟨hreader, hfits⟩ :=
            readToEnd_fits_iff.mp ⟨withContext_eq_ok.mp hcontent, Nat.not_lt.mp hcap⟩
          exact ⟨[], entry, rest, rfl, (fun e he => by cases he), hpath, hreader, hfits, hne⟩
        · rename_i hpath
          obtain ⟨before, found, after, rfl, hbefore, hfound⟩ := ih h
          refine ⟨.ok entry :: before, found, after, rfl, fun e he => ?_, hfound⟩
          rcases List.mem_cons.mp he with rfl | he
          · exact ⟨entry, rfl, hpath⟩
          · exact hbefore e he
  · rintro ⟨before, entry, after, rfl, hbefore, hpath, hcontent, hfits, hne⟩
    induction before with
    | nil =>
      obtain ⟨hread, -⟩ := readToEnd_fits_iff.mpr ⟨hcontent, hfits⟩
      show extractFrom (.ok entry :: after) = .ok new
      rw [extractFrom, if_pos hpath, bind_eq_ok]
      refine ⟨new, withContext_eq_ok.mpr hread, ?_⟩
      rw [if_neg (Nat.not_lt.mpr hfits), if_neg hne]
    | cons first before ih =>
      obtain ⟨other, rfl, hother⟩ := hbefore first List.mem_cons_self
      show extractFrom (.ok other :: (before ++ .ok entry :: after)) = .ok new
      rw [extractFrom, if_neg hother]
      exact ih fun e he => hbefore e (List.mem_cons_of_mem _ he)

theorem download_eq_ok {release : GithubRelease} {found : Download} :
    download W I release = .ok found ↔ I.homebrewFormula = none ∧
      (∃ triple, hostReleaseTriple I.os I.arch = some triple ∧
        found.name = tarballName release triple) ∧
      (∃ url, findAsset release found.name = some url ∧
        Fetches W url none dlMax found.tarball) ∧
      ∃ url sidecar text, findAsset release (found.name ++ ".sha256") = some url ∧
        Fetches W url none 4096 sidecar ∧ String.fromUTF8? sidecar.toByteArray = some text ∧
          sidecarDigest text = .ok (encodeHex (W.sha256 found.tarball).toList) := by
  unfold download
  rcases howner : I.homebrewFormula with _ | formula
  · simp only [bind_eq_ok, orElseError_eq_ok, httpGetBytes_eq_ok]
    constructor
    · rintro ⟨triple, htriple, url, hurl, shaUrl, hshaUrl, tarball, htarball, sidecar, hsidecar,
        _, hverified, h⟩
      cases h
      obtain ⟨text, htext, hdigest⟩ := verifySha256_eq_ok.mp hverified
      exact ⟨trivial, ⟨triple, htriple, rfl⟩, ⟨url, hurl, htarball⟩,
        ⟨shaUrl, sidecar, text, hshaUrl, hsidecar, htext, hdigest⟩⟩
    · obtain ⟨name, tarball⟩ := found
      rintro ⟨-, ⟨triple, htriple, rfl⟩, ⟨url, hurl, htarball⟩,
        ⟨shaUrl, sidecar, text, hshaUrl, hsidecar, htext, hdigest⟩⟩
      exact ⟨triple, htriple, url, hurl, shaUrl, hshaUrl, tarball, htarball, sidecar, hsidecar, (),
        verifySha256_eq_ok.mpr ⟨text, htext, hdigest⟩, rfl⟩
  · exact iff_of_false nofun nofun

theorem unpack_eq_ok {found : Download} {new : List UInt8} :
    unpack W I found = .ok new ↔ I.currentExe = none ∧
      ∃ entries, W.entries found.tarball = .ok entries ∧ FirstTnet entries new := by
  have hextract : extractTnetFromTarball W found.tarball = .ok new ↔
      ∃ entries, W.entries found.tarball = .ok entries ∧ FirstTnet entries new := by
    simp only [extractTnetFromTarball, bind_eq_ok, withContext_eq_ok, extractFrom_eq_ok]
  rw [← hextract]
  unfold unpack
  rw [bind_eq_ok]
  cases I.currentExe with
  | some e => exact iff_of_false (fun ⟨_, _, h⟩ => by cases h) (fun h => by cases h.1)
  | none =>
    constructor
    · rintro ⟨content, hcontent, h⟩
      cases h
      exact ⟨rfl, hcontent⟩
    · exact fun h => ⟨new, h.2, rfl⟩

/-- **What may be installed.**  The install path gets to the swap with what was published, and with
    nothing else. -/
theorem published_iff {release : GithubRelease} {new : List UInt8} :
    (∃ found, download W I release = .ok found ∧ unpack W I found = .ok new) ↔
      I.currentExe = none ∧ ∃ found, Published W I release found new := by
  simp only [download_eq_ok, unpack_eq_ok]
  constructor
  · rintro ⟨found, ⟨hunowned, hnamed, htarball, hdigest⟩, hexe, hbinary⟩
    exact ⟨hexe, found, hunowned, hnamed, htarball, hdigest, hbinary⟩
  · rintro ⟨hexe, found, hunowned, hnamed, htarball, hdigest, hbinary⟩
    exact ⟨found, ⟨hunowned, hnamed, htarball, hdigest⟩, hexe, hbinary⟩

/-- A run is to install: it was told to, and what it found is newer or was asked for. -/
structure Due (I : Installation) (reportOnly yes : Bool) (version : Option String)
    (latest : SemVer) : Prop where
  told : yes = true ∧ reportOnly = false
  newer : version = none → I.current < latest

/-- How the install path ends, and what could be found in the directory meanwhile. -/
inductive InstallEnds (W : Web) (I : Installation) (io : SwapIo) (d : Directory)
    (release : GithubRelease) : UpdateRun → Prop
  /-- Nothing to install was published, or the executable is not known. -/
  | refused {printed : List String} {e : String}
      (h : ∀ found new, Published W I release found new → I.currentExe.isSome = true) :
      InstallEnds W I io d release ⟨printed, .error e, [d]⟩
  /-- What was published is swapped in, and the run says how that came out. -/
  | swaps {printed : List String} {result ended : Except String Unit} {seen : List Directory}
      {found : Download} {new : List UInt8} (hpublished : Published W I release found new)
      (hknown : I.currentExe = none)
      (hends : SwapEnds io d I.exe I.tmp new (ended, seen)) (hresult : result.isOk = ended.isOk) :
      InstallEnds W I io d release ⟨printed, result, seen⟩

theorem install_ends (io : SwapIo) {d : Directory} (release : GithubRelease) (latest : SemVer)
    (printed : List String) (hexe : (d.get? I.exe).isSome = true) :
    InstallEnds W I io d release (install W I io d release latest printed) := by
  -- what is not found on the way was not published
  have hrefused (h : ∀ found new, download W I release = .ok found → unpack W I found ≠ .ok new)
      (found : Download) (new : List UInt8) (hpublished : Published W I release found new) :
      I.currentExe.isSome = true := by
    by_contra hknown
    rw [Bool.not_eq_true, Option.isSome_eq_false_iff, Option.isNone_iff_eq_none] at hknown
    obtain ⟨found, hfound, hnew⟩ := published_iff.mpr ⟨hknown, found, hpublished⟩
    exact h found new hfound hnew
  unfold install
  rcases hfound : download W I release with e | found
  · exact .refused (hrefused fun _ _ h => by rw [hfound] at h; cases h)
  dsimp only
  rcases hnew : unpack W I found with e | new
  · refine .refused (hrefused fun _ _ h => ?_)
    rw [hfound] at h
    cases h
    rw [hnew]
    exact nofun
  have hends := swapEnds io I.dir I.tmp new hexe
  obtain ⟨hknown, _, hpublished⟩ := published_iff.mp ⟨found, hfound, hnew⟩
  dsimp only
  rcases hswap : swapBinaryInPlace io d I.dir I.exe I.tmp new with ⟨e | u, seen⟩
  · rw [hswap] at hends
    exact .swaps hpublished hknown hends rfl
  · rw [hswap] at hends
    exact .swaps hpublished hknown hends rfl

/-- How a run ends, and what could be found in the directory of the binary meanwhile. -/
inductive UpdateEnds (W : Web) (I : Installation) (io : SwapIo) (d : Directory)
    (reportOnly yes : Bool) (version track : Option String) : UpdateRun → Prop
  /-- There is no release of a version for it to be about. -/
  | unchosen {printed : List String} {e : String}
      (h : ∀ release, Chosen W version track release → SemVer.parse release.tagName = none) :
      UpdateEnds W I io d reportOnly yes version track ⟨printed, .error e, [d]⟩
  /-- Nothing is to be installed. -/
  | reported {printed : List String} {release : GithubRelease} {latest : SemVer}
      (hchosen : Chosen W version track release)
      (hlatest : SemVer.parse release.tagName = some latest)
      (hdue : ¬ Due I reportOnly yes version latest) :
      UpdateEnds W I io d reportOnly yes version track ⟨printed, .ok (), [d]⟩
  | installs {release : GithubRelease} {latest : SemVer} {run : UpdateRun}
      (hchosen : Chosen W version track release)
      (hlatest : SemVer.parse release.tagName = some latest)
      (hdue : Due I reportOnly yes version latest) (hends : InstallEnds W I io d release run) :
      UpdateEnds W I io d reportOnly yes version track run

theorem due_iff {reportOnly yes : Bool} {version : Option String} {latest : SemVer} :
    Due I reportOnly yes version latest ↔
      ¬ (version.isNone = true ∧ latest ≤ I.current) ∧ ¬ (!(yes && !reportOnly)) = true := by
  rw [Option.isNone_iff_eq_none, not_and, not_le, Bool.not_eq_true', Bool.not_eq_false,
    Bool.and_eq_true, Bool.not_eq_true']
  exact ⟨fun h => ⟨h.newer, h.told⟩, fun h => ⟨h.2, h.1⟩⟩

/-- **Only what was published is installed, and every run says what came of it.**  A run without a
    release to be about fails, and one that is not to install only reports; both leave the directory
    alone.  Any other fails where nothing was published for this host, and else replaces the
    executable, old or new at every moment, by the binary of the archive of the chosen release,
    whose digest is the published one; it succeeds exactly if it was replaced, which only the calls
    of the swap and what is in its way can prevent. -/
theorem update_installs_verified (io : SwapIo) (d : Directory) (reportOnly yes : Bool)
    (version track : Option String) (hexe : (d.get? I.exe).isSome = true) :
    UpdateEnds W I io d reportOnly yes version track
      (runUpdate W I io d reportOnly yes version track) := by
  unfold runUpdate
  rcases hchosen : chooseRelease W version track with e | ⟨release, latest⟩
  · refine .unchosen fun release hrelease => ?_
    by_contra hparse
    obtain ⟨latest, hlatest⟩ := Option.ne_none_iff_exists'.mp hparse
    obtain ⟨found, hfound⟩ := hrelease.found hlatest
    rw [hchosen] at hfound
    cases hfound
  obtain ⟨hrelease, hlatest⟩ := chooseRelease_eq_ok hchosen
  dsimp only
  split
  · rename_i hold
    exact .reported hrelease hlatest fun hdue => (due_iff.mp hdue).1 hold
  rename_i hnewer
  split
  · rename_i hwill
    exact .reported hrelease hlatest fun hdue => (due_iff.mp hdue).2 hwill
  rename_i hwill
  exact .installs hrelease hlatest (due_iff.mpr ⟨hnewer, hwill⟩)
    (install_ends io release latest _ hexe)

/-! ### A run that installs -/

/-- A gzipped archive with one file of four bytes in it. -/
def elfTarball : List UInt8 :=
  [31, 139, 8, 0, 0, 0, 0, 0, 2, 3, 43, 201, 75, 45, 97, 160, 49, 48, 0, 2, 115, 83, 83, 48, 13, 4,
    232, 52, 16, 152, 32, 177, 65, 226, 102, 102, 198, 230, 12, 10, 6, 12, 116, 0, 165, 197, 37,
    137, 69, 64, 43, 25, 70, 38, 168, 119, 245, 113, 99, 24, 5, 163, 96, 20, 140, 130, 81, 48, 226,
    0, 0, 48, 17, 224, 49, 0, 8, 0, 0]

def elfBinary : List UInt8 := [0x7f, 0x45, 0x4c, 0x46]

/-- Its digest. -/
def elfDigest : Vector UInt8 32 :=
  #v[0x80, 0x71, 0xc2, 0x29, 0x29, 0xe8, 0x9d, 0x0e, 0xd2, 0xf6, 0x67, 0xd4, 0xab, 0x2c, 0xfd, 0x15,
    0x4a, 0x15, 0x62, 0x15, 0xfa, 0x62, 0x21, 0xcd, 0x0d, 0x7f, 0xfc, 0xea, 0x1d, 0xd5, 0x7e, 0x97]

def elfRelease : GithubRelease where
  tagName := "v0.53.0"
  prerelease := false
  draft := false
  htmlUrl := ""
  assets :=
    [⟨"tailscaled-rs-v0.53.0-x86_64-unknown-linux-gnu.tar.gz", "https://dl/t"⟩,
      ⟨"tailscaled-rs-v0.53.0-x86_64-unknown-linux-gnu.tar.gz.sha256", "https://dl/s"⟩]

/-- The release as the API words it. -/
def elfReleaseJson : List UInt8 :=
  ("\x7b\"tag_name\":\"v0.53.0\",\"assets\":[\x7b\"name\":" ++
    "\"tailscaled-rs-v0.53.0-x86_64-unknown-linux-gnu.tar.gz\"," ++
    "\"browser_download_url\":\"https://dl/t\"\x7d,\x7b\"name\":" ++
    "\"tailscaled-rs-v0.53.0-x86_64-unknown-linux-gnu.tar.gz.sha256\"," ++
    "\"browser_download_url\":\"https://dl/s\"\x7d]\x7d").toByteArray.data.toList

def elfWeb : Web where
  get url _ :=
    if url = releasesUrl "/latest" then .ok ⟨elfReleaseJson, none⟩
    else if url = "https://dl/t" then .ok ⟨elfTarball, none⟩
    else if url = "https://dl/s" then
      .ok ⟨(String.ofList (encodeHex elfDigest.toList) ++
        "  tailscaled-rs-v0.53.0-x86_64-unknown-linux-gnu.tar.gz\n").toByteArray.data.toList, none⟩
    else .error "404 Not Found"
  parseRelease body := if body = elfReleaseJson then .ok elfRelease else .error "expected value"
  parseReleases _ := .error "expected value"
  sha256 data := if data = elfTarball then elfDigest else Vector.replicate 32 0
  entries gz :=
    if gz = elfTarball then .ok [.ok ⟨["tnet"], ⟨elfBinary, none⟩⟩] else .error "invalid gzip header"

def linuxInstallation : Installation where
  current := ⟨0, 52, 2⟩
  homebrewFormula := none
  os := "linux"
  arch := "x86_64"
  currentExe := none
  dir := "/usr/local/bin"
  exe := "tnet"
  tmp := ".tnet.update.42.1f"

/-- A directory with an old binary in it. -/
def binDirectory : Directory :=
  (Directory.empty.put "tnet" ⟨0, .file [1]⟩ 1 (Nat.zero_le _) Nat.one_pos)

/-- Every call works, and a write takes three bytes. -/
def shortWrites : SwapIo where
  create := none
  writes := [3]
  write := none
  sync := none
  rename := none
  cleanup := none

/-- The next release is found, checked and installed. -/
theorem update_installs_verified_newer :
    (binDirectory.get? "tnet").isSome = true ∧
      UpdateEnds elfWeb linuxInstallation shortWrites binDirectory false true none none
        (runUpdate elfWeb linuxInstallation shortWrites binDirectory false true none none) ∧
      (runUpdate elfWeb linuxInstallation shortWrites binDirectory false true none
        none).result.isOk = true ∧
      (runUpdate elfWeb linuxInstallation shortWrites binDirectory false true none
        none).seen.length = 5 := by
  refine ⟨rfl, ?_, by decide +kernel, by decide +kernel⟩
  exact update_installs_verified (W := elfWeb) (I := linuxInstallation) shortWrites binDirectory
    false true none none rfl

end Tailnetd.Update
