/-
  The flags of a command line.

  A command declares its flags; a word `--flag` or `--flag=value` is read against the declarations.
  A switch takes no value, every other flag takes one after the equals sign, and a list flag splits
  it at its separator.  A line is accepted when every word is read, no flag but a list is given
  twice, and no two flags that exclude each other are given together (`parse`).  Words that take
  their value from the word after them, and words that are no flag, are outside.

  One word that is not read refuses the line (`parse_error_of_mem`); a line whose words are all
  read, each as a flag of its own and none excluding another, is accepted as it reads
  (`parse_of_reads`).
-/
import Mathlib.Data.List.Nodup
import Mathlib.Data.List.TakeWhile

namespace CommandLine

/-- How a flag takes its value. -/
inductive Action where
  | switch
  | value
  /-- The value may be left out, and is then this one. -/
  | optional (missing : String)
  | list (separator : Char)
  deriving DecidableEq, Repr

/-- A declared flag. -/
structure Flag where
  long : String
  aliases : List String := []
  action : Action := .value
  /-- What its values must be. -/
  accepts : String → Bool := fun _ => true
  /-- The flags it must not be given with. -/
  conflicts : List String := []

/-- Why a line is refused. -/
inductive Refusal where
  | unknown (word : String)
  | unexpectedValue (long : String)
  | missingValue (long : String)
  | invalidValue (long value : String)
  | repeated (long : String)
  | conflict (long other : String)
  deriving DecidableEq, Repr

/-- The flags that were given, with their values, word by word. -/
abbrev Args := List (String × List String)

/-- What follows the dashes, as a flag's name and the value after the equals sign. -/
def cutBody (body : List Char) : String × Option String :=
  (String.ofList (body.takeWhile (· != '=')),
    match body.dropWhile (· != '=') with
    | [] => none
    | _ :: value => some (String.ofList value))

/-- A word as a flag's name and its value. -/
def cutWord (word : String) : Option (String × Option String) :=
  match word.toList with
  | '-' :: '-' :: body => some (cutBody body)
  | _ => none

/-- The declaration goes by this name. -/
def Flag.isNamed (f : Flag) (name : String) : Bool := f.long == name || f.aliases.contains name

/-- A value of the flag, if it is one. -/
def Flag.take (f : Flag) (values : List String) : Except Refusal (String × List String) :=
  match values.find? fun value => !f.accepts value with
  | some value => .error (.invalidValue f.long value)
  | none => .ok (f.long, values)

/-- One word, read against the declarations. -/
def readWord (flags : List Flag) (word : String) : Except Refusal (String × List String) :=
  match cutWord word with
  | none => .error (.unknown word)
  | some (name, value) =>
    match flags.find? (·.isNamed name) with
    | none => .error (.unknown word)
    | some f =>
      match f.action, value with
      | .switch, some _ => .error (.unexpectedValue f.long)
      | .switch, none => .ok (f.long, [])
      | .value, some v => f.take [v]
      | .optional missing, v => f.take [v.getD missing]
      | .list separator, some v => f.take ((v.toList.splitOn separator).map String.ofList)
      | .value, none => .error (.missingValue f.long)
      | .list _, none => .error (.missingValue f.long)

/-- The words in turn. -/
def readWords (flags : List Flag) : List String → Except Refusal Args
  | [] => .ok []
  | word :: words =>
    match readWord flags word with
    | .error e => .error e
    | .ok arg =>
      match readWords flags words with
      | .error e => .error e
      | .ok args => .ok (arg :: args)

/-- The flag was given. -/
def has (args : Args) (long : String) : Bool := args.any (·.1 == long)

/-- All values the flag was given. -/
def values (args : Args) (long : String) : List String :=
  (args.filter (·.1 == long)).flatMap (·.2)

/-- The value the flag was given. -/
def value? (args : Args) (long : String) : Option String := (values args long).head?

def Action.isList : Action → Bool
  | .list _ => true
  | _ => false

/-- A flag that was given twice, and may not be. -/
def repeated? (flags : List Flag) (args : Args) : Option Refusal :=
  (flags.find? fun f => !f.action.isList && decide (1 < args.countP (·.1 == f.long))).map
    fun f => .repeated f.long

/-- Two flags that exclude each other. -/
def conflict? (flags : List Flag) (args : Args) : Option Refusal :=
  flags.findSome? fun f =>
    if has args f.long then (f.conflicts.find? (has args)).map (.conflict f.long) else none

/-- A line: every word is read, then the flags are judged together. -/
def parse (flags : List Flag) (words : List String) : Except Refusal Args :=
  match readWords flags words with
  | .error e => .error e
  | .ok args =>
    match repeated? flags args, conflict? flags args with
    | some e, _ => .error e
    | none, some e => .error e
    | none, none => .ok args

/-! ## Words -/

/-- A flag without a value. -/
def bareWord (name : String) : String := "--" ++ name

/-- A flag with its value. -/
def valueWord (name value : String) : String := "--" ++ name ++ "=" ++ value

theorem cutWord_of_toList {word : String} {body : List Char}
    (h : word.toList = '-' :: '-' :: body) : cutWord word = some (cutBody body) := by
  rw [cutWord, h]
  rfl

theorem ne_equals_of_notMem {name : List Char} (h : '=' ∉ name) :
    ∀ c ∈ name, (c != '=') = true := by
  intro c hc
  rw [bne_iff_ne]
  rintro rfl
  exact h hc

theorem cutWord_bareWord {name : String} (h : '=' ∉ name.toList) :
    cutWord (bareWord name) = some (name, none) := by
  have hkeep := ne_equals_of_notMem h
  have hname := List.takeWhile_eq_self_iff.mpr hkeep
  have hrest := List.dropWhile_eq_nil_iff.mpr hkeep
  rw [@cutWord_of_toList (bareWord name) name.toList (by simp [bareWord]), cutBody, hname, hrest]
  simp

theorem cutWord_valueWord {name : String} (h : '=' ∉ name.toList) (value : String) :
    cutWord (valueWord name value) = some (name, some value) := by
  have hkeep := ne_equals_of_notMem h
  have hcut := @cutWord_of_toList (valueWord name value) (name.toList ++ '=' :: value.toList)
    (by simp [valueWord])
  rw [hcut, cutBody, List.takeWhile_append_of_pos hkeep,
    List.dropWhile_append_of_pos hkeep]
  simp

/-- A switch reads as given. -/
theorem readWord_switch {flags : List Flag} {name : String} {f : Flag} (h : '=' ∉ name.toList)
    (hfind : flags.find? (·.isNamed name) = some f) (haction : f.action = .switch) :
    readWord flags (bareWord name) = .ok (f.long, []) := by
  rw [readWord, cutWord_bareWord h]
  dsimp only
  rw [hfind]
  dsimp only
  rw [haction]

/-- A flag with a value reads as given that value. -/
theorem readWord_value {flags : List Flag} {name value : String} {f : Flag}
    (h : '=' ∉ name.toList) (hfind : flags.find? (·.isNamed name) = some f)
    (haction : f.action = .value) (haccepts : f.accepts value = true) :
    readWord flags (valueWord name value) = .ok (f.long, [value]) := by
  rw [readWord, cutWord_valueWord h]
  dsimp only
  rw [hfind]
  dsimp only
  rw [haction]
  dsimp only
  rw [Flag.take, List.find?_cons_of_neg (by simp [haccepts]), List.find?_nil]

/-- A list reads as the pieces of its value. -/
theorem readWord_list {flags : List Flag} {name value : String} {f : Flag} {separator : Char}
    (h : '=' ∉ name.toList) (hfind : flags.find? (·.isNamed name) = some f)
    (haction : f.action = .list separator) (haccepts : ∀ v, f.accepts v = true) :
    readWord flags (valueWord name value) =
      .ok (f.long, (value.toList.splitOn separator).map String.ofList) := by
  rw [readWord, cutWord_valueWord h]
  dsimp only
  rw [hfind]
  dsimp only
  rw [haction]
  dsimp only
  rw [Flag.take, List.find?_eq_none.mpr (by simp [haccepts])]

/-- A flag that is not declared is not read. -/
theorem readWord_unknown {flags : List Flag} {name value : String} (h : '=' ∉ name.toList)
    (hfind : flags.find? (·.isNamed name) = none) :
    readWord flags (valueWord name value) = .error (.unknown (valueWord name value)) := by
  rw [readWord, cutWord_valueWord h]
  dsimp only
  rw [hfind]

/-! ## Lines -/

theorem readWords_error_of_mem {flags : List Flag} {words : List String} {word : String}
    (hword : word ∈ words) {e : Refusal} (h : readWord flags word = .error e) :
    ∃ e', readWords flags words = .error e' := by
  induction words with
  | nil => cases hword
  | cons first words ih =>
    unfold readWords
    obtain rfl | hword := List.mem_cons.mp hword
    · rw [h]
      exact ⟨e, rfl⟩
    · obtain ⟨e', he'⟩ := ih hword
      cases readWord flags first with
      | error e₁ => exact ⟨e₁, rfl⟩
      | ok arg =>
        rw [he']
        exact ⟨e', rfl⟩

/-- **One word that is not read refuses the line.** -/
theorem parse_error_of_mem {flags : List Flag} {words : List String} {word : String}
    (hword : word ∈ words) {e : Refusal} (h : readWord flags word = .error e) :
    ∃ e', parse flags words = .error e' := by
  obtain ⟨e', he'⟩ := readWords_error_of_mem hword h
  unfold parse
  rw [he']
  exact ⟨e', rfl⟩

section

variable {ι : Type*} {flags : List Flag} {names : List ι} {word : ι → String}
  {long : ι → String} {given : ι → List String}

theorem readWords_map (h : ∀ i ∈ names, readWord flags (word i) = .ok (long i, given i)) :
    readWords flags (names.map word) = .ok (names.map fun i => (long i, given i)) := by
  induction names with
  | nil => rfl
  | cons i names ih =>
    obtain ⟨hi, hnames⟩ := List.forall_mem_cons.mp h
    rw [List.map_cons, readWords, hi, ih hnames]
    rfl

theorem has_map (l : String) :
    has (names.map fun i => (long i, given i)) l = names.any (long · == l) := by
  simp only [has, List.any_map]
  rfl

/-- What a flag was given, when every flag has a name of its own. -/
theorem values_map (hinj : ∀ i ∈ names, ∀ j ∈ names, long i = long j → i = j) (hnodup : names.Nodup)
    {j : ι} (hj : j ∈ names) :
    values (names.map fun i => (long i, given i)) (long j) = given j := by
  induction names with
  | nil => cases hj
  | cons i names ih =>
    obtain ⟨hi, hnodup⟩ := List.nodup_cons.mp hnodup
    have hinj' : ∀ i ∈ names, ∀ j ∈ names, long i = long j → i = j := fun a ha b hb =>
      hinj a (List.mem_cons_of_mem i ha) b (List.mem_cons_of_mem i hb)
    unfold values at ih ⊢
    rw [List.map_cons, List.filter_cons]
    obtain rfl | hmem := List.mem_cons.mp hj
    · have hnone : (names.map fun i => (long i, given i)).filter (·.1 == long j) = [] := by
        rw [List.filter_eq_nil_iff]
        intro arg harg heq
        obtain ⟨k, hk, rfl⟩ := List.mem_map.mp harg
        have hkj := hinj k (List.mem_cons_of_mem j hk) j List.mem_cons_self (by simpa using heq)
        exact hi (hkj ▸ hk)
      rw [if_pos (beq_self_eq_true _), hnone]
      exact List.append_nil _
    · have hne : long i ≠ long j := by
        intro heq
        have hij := hinj i List.mem_cons_self j hj heq
        exact hi (hij ▸ hmem)
      rw [if_neg (by simpa using hne)]
      exact ih hinj' hnodup hmem

/-- A flag that was not given has no values. -/
theorem values_of_not_has {args : Args} {l : String} (h : has args l = false) :
    values args l = [] := by
  unfold values
  have hnone : args.filter (·.1 == l) = [] := by
    rw [List.filter_eq_nil_iff]
    exact List.any_eq_false.mp h
  rw [hnone, List.flatMap_nil]

/-- **A line whose words are read as flags of their own, none excluding another, is accepted.** -/
theorem parse_of_reads (h : ∀ i ∈ names, readWord flags (word i) = .ok (long i, given i))
    (hinj : ∀ i ∈ names, ∀ j ∈ names, long i = long j → i = j) (hnodup : names.Nodup)
    (hfree : ∀ f ∈ flags, ∀ other ∈ f.conflicts, ∀ i ∈ names, ∀ j ∈ names,
      ¬ (long i = f.long ∧ long j = other)) :
    parse flags (names.map word) = .ok (names.map fun i => (long i, given i)) := by
  have honce : repeated? flags (names.map fun i => (long i, given i)) = none := by
    rw [repeated?, Option.map_eq_none_iff, List.find?_eq_none]
    intro f _
    have hcount : (names.map fun i => (long i, given i)).countP (·.1 == f.long) ≤ 1 := by
      rw [List.countP_map]
      have hlongs : (names.map long).Nodup := List.Nodup.map_on hinj hnodup
      have hle := List.nodup_iff_count_le_one.mp hlongs f.long
      rw [List.count, List.countP_map] at hle
      exact hle
    simp only [Bool.and_eq_true, decide_eq_true_eq, not_and, Nat.not_lt]
    exact fun _ => hcount
  have hnone : conflict? flags (names.map fun i => (long i, given i)) = none := by
    rw [conflict?, List.findSome?_eq_none_iff]
    intro f hf
    split
    · rename_i hlong
      rw [Option.map_eq_none_iff, List.find?_eq_none]
      intro other hother hhas
      rw [has_map, List.any_eq_true] at hlong hhas
      obtain ⟨i, hi, hlong⟩ := hlong
      obtain ⟨j, hj, hhas⟩ := hhas
      exact hfree f hf other hother i hi j hj ⟨beq_iff_eq.mp hlong, beq_iff_eq.mp hhas⟩
    · rfl
  unfold parse
  rw [readWords_map h]
  dsimp only
  rw [honce, hnone]

end

end CommandLine
