/-
  Programs that talk over a byte stream.

  A dialogue reads exact numbers of bytes and writes bytes, until it is done or gives up.  `run`
  plays it against the bytes that have arrived: it is done and leaves the rest, it has given up, or
  it waits for more.

  Bytes arrive in pieces that the other side chooses, and `converse` goes on with each as it comes.
  The pieces make no difference (`converse_eq_run`).

  `Takes d used out a` is the grammar of a dialogue: it is done with `a` after exactly the bytes
  `used`, having written `out`.  Running a dialogue and its grammar say the same
  (`run_eq_done_iff`), and a sequence of dialogues has the sequences of their bytes (`takes_bind`).

  `Stops d used out halt` is the same for a dialogue that is not done: after exactly the bytes
  `used` it waits for more, or it has given up (`run_eq_waits_iff`, `run_eq_bailed_iff`).  A
  sequence stops where its first part does, or behind it where its second part does (`stops_bind`).
-/
import Mathlib.Data.List.Basic

/-- A program that reads and writes. -/
inductive Dialogue (α : Type) where
  | done (a : α)
  | bail
  | read (n : Nat) (next : Vector UInt8 n → Dialogue α)
  | write (bytes : List UInt8) (next : Dialogue α)

namespace Dialogue

variable {α β : Type}

/-- One dialogue after the other. -/
def bind : Dialogue α → (α → Dialogue β) → Dialogue β
  | .done a, f => f a
  | .bail, _ => .bail
  | .read n next, f => .read n fun bytes => (next bytes).bind f
  | .write bytes next, f => .write bytes (next.bind f)

instance : Monad Dialogue where
  pure := .done
  bind := bind

/-- `read_exact`. -/
def readExact (n : Nat) : Dialogue (Vector UInt8 n) := .read n .done

/-- `write_all`, with a flush. -/
def writeAll (bytes : List UInt8) : Dialogue Unit := .write bytes (.done ())

/-- A value, or else giving up. -/
def ofOption : Option α → Dialogue α
  | some a => .done a
  | none => .bail

/-! ## Running one -/

/-- How a run stands. -/
inductive Outcome (α : Type) where
  | done (a : α) (rest : List UInt8)
  | bailed
  | waits
  deriving DecidableEq, Repr

/-- The first bytes, of a list that has as many. -/
def firstBytes (n : Nat) (input : List UInt8) (h : n ≤ input.length) : Vector UInt8 n :=
  ⟨(input.take n).toArray, by rw [List.size_toArray, List.length_take]; omega⟩

@[simp] theorem toList_firstBytes {n : Nat} {input : List UInt8} (h : n ≤ input.length) :
    (firstBytes n input h).toList = input.take n := rfl

theorem firstBytes_append {n : Nat} {input : List UInt8} (h : n ≤ input.length)
    {more : List UInt8} (hmore : n ≤ (input ++ more).length) :
    firstBytes n (input ++ more) hmore = firstBytes n input h := by
  apply Vector.toList_inj.mp
  rw [toList_firstBytes, toList_firstBytes, List.take_append_of_le_length h]

/-- What is written, and how it stands, with these bytes arrived. -/
def run : Dialogue α → List UInt8 → List UInt8 × Outcome α
  | .done a, input => ([], .done a input)
  | .bail, _ => ([], .bailed)
  | .read n next, input =>
    if h : n ≤ input.length then run (next (firstBytes n input h)) (input.drop n) else ([], .waits)
  | .write bytes next, input =>
    let (out, outcome) := run next input
    (bytes ++ out, outcome)

/-- A read that gets its bytes. -/
theorem run_read_append {n : Nat} (next : Vector UInt8 n → Dialogue α) (bytes : Vector UInt8 n)
    (rest : List UInt8) :
    (Dialogue.read n next).run (bytes.toList ++ rest) = (next bytes).run rest := by
  have hn : n ≤ (bytes.toList ++ rest).length := by
    rw [List.length_append, bytes.length_toList]
    omega
  have hfirst : firstBytes n (bytes.toList ++ rest) hn = bytes := by
    apply Vector.toList_inj.mp
    rw [toList_firstBytes, List.take_left' bytes.length_toList]
  rw [run, dif_pos hn, hfirst, List.drop_left' bytes.length_toList]

theorem bind_assoc {γ : Type} (d : Dialogue α) (f : α → Dialogue β) (g : β → Dialogue γ) :
    d >>= f >>= g = d >>= fun a => f a >>= g := by
  induction d with
  | done a => rfl
  | bail => rfl
  | read n next ih => exact congrArg (Dialogue.read n) (funext ih)
  | write bytes next ih => exact congrArg (Dialogue.write bytes) ih

/-- The next dialogue goes on where one is done. -/
def Outcome.andThen (f : α → Dialogue β) (out : List UInt8) : Outcome α → List UInt8 × Outcome β
  | .done a rest => (out ++ ((f a).run rest).1, ((f a).run rest).2)
  | .bailed => (out, .bailed)
  | .waits => (out, .waits)

theorem run_bind (d : Dialogue α) (f : α → Dialogue β) (input : List UInt8) :
    (d >>= f).run input = (d.run input).2.andThen f (d.run input).1 := by
  induction d generalizing input with
  | done a => rfl
  | bail => rfl
  | read n next ih =>
    show Dialogue.run (.read n fun bytes => next bytes >>= f) input = _
    by_cases hn : n ≤ input.length
    · rw [run, dif_pos hn, run, dif_pos hn]
      exact ih _ _
    · rw [run, dif_neg hn, run, dif_neg hn]
      rfl
  | write bytes next ih =>
    show (bytes ++ ((next >>= f).run input).1, ((next >>= f).run input).2) =
      (next.run input).2.andThen f (bytes ++ (next.run input).1)
    rw [ih]
    cases (next.run input).2 with
    | done a rest => exact Prod.ext (List.append_assoc ..).symm rfl
    | bailed => rfl
    | waits => rfl

/-! ## Bytes that arrive in pieces -/

/-- As far as the bytes go: what is written, what is left to do, and the bytes not read yet. -/
def advance : Dialogue α → List UInt8 → List UInt8 × Dialogue α × List UInt8
  | .done a, input => ([], .done a, input)
  | .bail, input => ([], .bail, input)
  | .read n next, input =>
    if h : n ≤ input.length then advance (next (firstBytes n input h)) (input.drop n)
    else ([], .read n next, input)
  | .write bytes next, input =>
    let (out, left, rest) := advance next input
    (bytes ++ out, left, rest)

/-- A conversation goes on with every arrival, from the bytes not read yet. -/
def converse : Dialogue α → List UInt8 → List (List UInt8) → List UInt8 × Outcome α
  | d, unread, [] => d.run unread
  | d, unread, bytes :: arrivals =>
    let (out, left, rest) := d.advance (unread ++ bytes)
    let (later, outcome) := converse left rest arrivals
    (out ++ later, outcome)

/-- Stopping where the bytes run out, and going on with more, is running on them all. -/
theorem run_append (d : Dialogue α) (input more : List UInt8) :
    d.run (input ++ more) =
      ((d.advance input).1 ++ ((d.advance input).2.1.run ((d.advance input).2.2 ++ more)).1,
        ((d.advance input).2.1.run ((d.advance input).2.2 ++ more)).2) := by
  induction d generalizing input with
  | done a => rfl
  | bail => rfl
  | read n next ih =>
    by_cases hn : n ≤ input.length
    · have hmore : n ≤ (input ++ more).length := by
        rw [List.length_append]
        omega
      rw [advance, dif_pos hn, run, dif_pos hmore, firstBytes_append hn,
        List.drop_append_of_le_length hn]
      exact ih _ _
    · rw [advance, dif_neg hn]
      rfl
  | write bytes next ih =>
    show (bytes ++ (next.run (input ++ more)).1, (next.run (input ++ more)).2) = _
    rw [ih input]
    exact Prod.ext (List.append_assoc ..).symm rfl

/-- **How the bytes arrive makes no difference.** -/
theorem converse_eq_run (d : Dialogue α) (unread : List UInt8) (arrivals : List (List UInt8)) :
    d.converse unread arrivals = d.run (unread ++ arrivals.flatten) := by
  induction arrivals generalizing d unread with
  | nil => rw [converse, List.flatten_nil, List.append_nil]
  | cons bytes arrivals ih =>
    rw [List.flatten_cons, ← List.append_assoc, run_append, ← ih]
    rfl

/-! ## The grammar of a dialogue -/

/-- A dialogue is done with a value after exactly some bytes, having written some. -/
inductive Takes : Dialogue α → List UInt8 → List UInt8 → α → Prop
  | done (a : α) : Takes (.done a) [] [] a
  | read {n : Nat} {next : Vector UInt8 n → Dialogue α} {used out : List UInt8} {a : α}
      (bytes : Vector UInt8 n) (h : Takes (next bytes) used out a) :
      Takes (.read n next) (bytes.toList ++ used) out a
  | write {next : Dialogue α} {used out : List UInt8} {a : α} (bytes : List UInt8)
      (h : Takes next used out a) : Takes (.write bytes next) used (bytes ++ out) a

/-- **A run is done exactly when the grammar has the bytes it used.** -/
theorem run_eq_done_iff {d : Dialogue α} {input out rest : List UInt8} {a : α} :
    d.run input = (out, .done a rest) ↔ ∃ used, input = used ++ rest ∧ Takes d used out a := by
  constructor
  · intro h
    induction d generalizing input out with
    | done b =>
      cases h
      exact ⟨[], rfl, .done a⟩
    | bail => cases h
    | read n next ih =>
      by_cases hn : n ≤ input.length
      · rw [run, dif_pos hn] at h
        obtain ⟨used, hdrop, htakes⟩ := ih _ h
        refine ⟨_, ?_, .read (firstBytes n input hn) htakes⟩
        rw [toList_firstBytes, List.append_assoc, ← hdrop, List.take_append_drop]
      · rw [run, dif_neg hn] at h
        cases h
    | write bytes next ih =>
      obtain ⟨hout, houtcome⟩ := Prod.mk.inj h
      obtain ⟨used, hinput, htakes⟩ := ih (Prod.ext rfl houtcome)
      exact ⟨used, hinput, hout ▸ .write bytes htakes⟩
  · rintro ⟨used, rfl, htakes⟩
    induction htakes with
    | done a => rfl
    | read bytes h ih => rw [List.append_assoc, run_read_append, ih]
    | write bytes h ih =>
      rw [run, ih]

/-- A sequence takes the bytes of the one and then those of the other. -/
theorem takes_bind {d : Dialogue α} {f : α → Dialogue β} {used out : List UInt8} {b : β} :
    Takes (d >>= f) used out b ↔ ∃ used₁ used₂ out₁ out₂ a, used = used₁ ++ used₂ ∧
      out = out₁ ++ out₂ ∧ Takes d used₁ out₁ a ∧ Takes (f a) used₂ out₂ b := by
  constructor
  · intro h
    induction d generalizing used out with
    | done a => exact ⟨[], used, [], out, a, rfl, rfl, .done a, h⟩
    | bail => cases h
    | read n next ih =>
      cases h with
      | read bytes h =>
        obtain ⟨used₁, used₂, out₁, out₂, a, rfl, rfl, h₁, h₂⟩ := ih bytes h
        exact ⟨bytes.toList ++ used₁, used₂, out₁, out₂, a, (List.append_assoc ..).symm, rfl,
          .read bytes h₁, h₂⟩
    | write bytes next ih =>
      cases h with
      | write _ h =>
        obtain ⟨used₁, used₂, out₁, out₂, a, rfl, rfl, h₁, h₂⟩ := ih h
        exact ⟨used₁, used₂, bytes ++ out₁, out₂, a, rfl, (List.append_assoc ..).symm,
          .write bytes h₁, h₂⟩
  · rintro ⟨used₁, used₂, out₁, out₂, a, rfl, rfl, h₁, h₂⟩
    induction h₁ with
    | done a => exact h₂
    | read bytes _ ih =>
      rw [List.append_assoc]
      exact .read bytes (ih h₂)
    | write bytes _ ih =>
      rw [List.append_assoc]
      exact .write bytes (ih h₂)

@[simp] theorem takes_pure {a b : α} {used out : List UInt8} :
    Takes (pure a : Dialogue α) used out b ↔ used = [] ∧ out = [] ∧ b = a := by
  constructor
  · intro h
    cases h
    exact ⟨rfl, rfl, rfl⟩
  · rintro ⟨rfl, rfl, rfl⟩
    exact .done b

@[simp] theorem takes_bail {a : α} {used out : List UInt8} :
    ¬ Takes (.bail : Dialogue α) used out a :=
  nofun

@[simp] theorem takes_ofOption {o : Option α} {a : α} {used out : List UInt8} :
    Takes (ofOption o) used out a ↔ used = [] ∧ out = [] ∧ o = some a := by
  cases o with
  | none => simp [ofOption]
  | some b => exact takes_pure.trans (by simp [eq_comm])

theorem takes_readExact_bind {n : Nat} {f : Vector UInt8 n → Dialogue β} {used out : List UInt8}
    {b : β} : Takes (readExact n >>= f) used out b ↔
      ∃ bytes used', used = bytes.toList ++ used' ∧ Takes (f bytes) used' out b := by
  constructor
  · intro h
    cases h with
    | read bytes h => exact ⟨bytes, _, rfl, h⟩
  · rintro ⟨bytes, used', rfl, h⟩
    exact .read bytes h

theorem takes_writeAll {bytes used out : List UInt8} {a : Unit} :
    Takes (writeAll bytes) used out a ↔ used = [] ∧ out = bytes := by
  constructor
  · intro h
    cases h with
    | write _ h =>
      cases h
      exact ⟨rfl, List.append_nil _⟩
  · rintro ⟨rfl, rfl⟩
    have h : Takes (writeAll out) [] (out ++ []) () := .write out (.done ())
    rwa [List.append_nil] at h

theorem takes_writeAll_bind {bytes : List UInt8} {f : Unit → Dialogue β} {used out : List UInt8}
    {b : β} : Takes (writeAll bytes >>= f) used out b ↔
      ∃ out', out = bytes ++ out' ∧ Takes (f ()) used out' b := by
  constructor
  · intro h
    cases h with
    | write _ h => exact ⟨_, rfl, h⟩
  · rintro ⟨out', rfl, h⟩
    exact .write bytes h

/-! ## Where a dialogue stops short -/

/-- Why a dialogue is not done. -/
inductive Halt where
  | waits
  | bails
  deriving DecidableEq, Repr

/-- A dialogue stops after exactly some bytes, having written some. -/
inductive Stops : Dialogue α → List UInt8 → List UInt8 → Halt → Prop
  | bail : Stops .bail [] [] .bails
  | short {n : Nat} {next : Vector UInt8 n → Dialogue α} {input : List UInt8}
      (h : input.length < n) : Stops (.read n next) input [] .waits
  | read {n : Nat} {next : Vector UInt8 n → Dialogue α} {used out : List UInt8} {halt : Halt}
      (bytes : Vector UInt8 n) (h : Stops (next bytes) used out halt) :
      Stops (.read n next) (bytes.toList ++ used) out halt
  | write {next : Dialogue α} {used out : List UInt8} {halt : Halt} (bytes : List UInt8)
      (h : Stops next used out halt) : Stops (.write bytes next) used (bytes ++ out) halt

/-- **A run waits exactly when the dialogue stops for more after all the bytes.** -/
theorem run_eq_waits_iff {d : Dialogue α} {input out : List UInt8} :
    d.run input = (out, .waits) ↔ Stops d input out .waits := by
  constructor
  · intro h
    induction d generalizing input out with
    | done a => cases h
    | bail => cases h
    | read n next ih =>
      by_cases hn : n ≤ input.length
      · rw [run, dif_pos hn] at h
        have hread := Stops.read _ (ih _ h)
        rwa [toList_firstBytes, List.take_append_drop] at hread
      · rw [run, dif_neg hn] at h
        cases h
        exact .short (Nat.not_le.mp hn)
    | write bytes next ih =>
      obtain ⟨hout, houtcome⟩ := Prod.mk.inj h
      exact hout ▸ .write bytes (ih (Prod.ext rfl houtcome))
  · intro h
    generalize hhalt : Halt.waits = halt at h
    induction h with
    | bail => cases hhalt
    | short h => rw [run, dif_neg (Nat.not_le.mpr h)]
    | read bytes h ih => rw [run_read_append, ih hhalt]
    | write bytes h ih => rw [run, ih hhalt]

/-- **A run has given up exactly when the dialogue does after some of the bytes.** -/
theorem run_eq_bailed_iff {d : Dialogue α} {input out : List UInt8} :
    d.run input = (out, .bailed) ↔
      ∃ used rest, input = used ++ rest ∧ Stops d used out .bails := by
  constructor
  · intro h
    induction d generalizing input out with
    | done a => cases h
    | bail =>
      cases h
      exact ⟨[], input, rfl, .bail⟩
    | read n next ih =>
      by_cases hn : n ≤ input.length
      · rw [run, dif_pos hn] at h
        obtain ⟨used, rest, hdrop, hstops⟩ := ih _ h
        refine ⟨_, rest, ?_, .read (firstBytes n input hn) hstops⟩
        rw [toList_firstBytes, List.append_assoc, ← hdrop, List.take_append_drop]
      · rw [run, dif_neg hn] at h
        cases h
    | write bytes next ih =>
      obtain ⟨hout, houtcome⟩ := Prod.mk.inj h
      obtain ⟨used, rest, hinput, hstops⟩ := ih (Prod.ext rfl houtcome)
      exact ⟨used, rest, hinput, hout ▸ .write bytes hstops⟩
  · rintro ⟨used, rest, rfl, h⟩
    generalize hhalt : Halt.bails = halt at h
    induction h with
    | bail => rfl
    | short h => cases hhalt
    | read bytes h ih => rw [List.append_assoc, run_read_append, ih hhalt]
    | write bytes h ih => rw [run, ih hhalt]

/-- A sequence stops where its first part does, or behind it where its second part does. -/
theorem stops_bind {d : Dialogue α} {f : α → Dialogue β} {used out : List UInt8} {halt : Halt} :
    Stops (d >>= f) used out halt ↔ Stops d used out halt ∨
      ∃ used₁ used₂ out₁ out₂ a, used = used₁ ++ used₂ ∧ out = out₁ ++ out₂ ∧
        Takes d used₁ out₁ a ∧ Stops (f a) used₂ out₂ halt := by
  constructor
  · intro h
    induction d generalizing used out with
    | done a => exact .inr ⟨[], used, [], out, a, rfl, rfl, .done a, h⟩
    | bail =>
      cases h
      exact .inl .bail
    | read n next ih =>
      cases h with
      | short h => exact .inl (.short h)
      | read bytes h =>
        rcases ih bytes h with h | ⟨used₁, used₂, out₁, out₂, a, rfl, rfl, h₁, h₂⟩
        · exact .inl (.read bytes h)
        · exact .inr ⟨bytes.toList ++ used₁, used₂, out₁, out₂, a, (List.append_assoc ..).symm, rfl,
            .read bytes h₁, h₂⟩
    | write bytes next ih =>
      cases h with
      | write _ h =>
        rcases ih h with h | ⟨used₁, used₂, out₁, out₂, a, rfl, rfl, h₁, h₂⟩
        · exact .inl (.write bytes h)
        · exact .inr ⟨used₁, used₂, bytes ++ out₁, out₂, a, rfl, (List.append_assoc ..).symm,
            .write bytes h₁, h₂⟩
  · rintro (h | ⟨used₁, used₂, out₁, out₂, a, rfl, rfl, h₁, h₂⟩)
    · induction h with
      | bail => exact .bail
      | short h => exact .short h
      | read bytes _ ih => exact .read bytes ih
      | write bytes _ ih => exact .write bytes ih
    · induction h₁ with
      | done a => exact h₂
      | read bytes _ ih =>
        rw [List.append_assoc]
        exact .read bytes (ih h₂)
      | write bytes _ ih =>
        rw [List.append_assoc]
        exact .write bytes (ih h₂)

@[simp] theorem stops_bail {used out : List UInt8} {halt : Halt} :
    Stops (.bail : Dialogue α) used out halt ↔ used = [] ∧ out = [] ∧ halt = .bails := by
  constructor
  · intro h
    cases h
    exact ⟨rfl, rfl, rfl⟩
  · rintro ⟨rfl, rfl, rfl⟩
    exact .bail

@[simp] theorem stops_pure {a : α} {used out : List UInt8} {halt : Halt} :
    ¬ Stops (pure a : Dialogue α) used out halt :=
  nofun

@[simp] theorem stops_ofOption {o : Option α} {used out : List UInt8} {halt : Halt} :
    Stops (ofOption o) used out halt ↔ o = none ∧ used = [] ∧ out = [] ∧ halt = .bails := by
  cases o with
  | none => simp [ofOption]
  | some a => exact iff_of_false stops_pure (by simp)

@[simp] theorem stops_writeAll {bytes used out : List UInt8} {halt : Halt} :
    ¬ Stops (writeAll bytes) used out halt := by
  intro h
  cases h with
  | write _ h => cases h

/-- A read stops where there are too few bytes for it, or behind it. -/
theorem stops_readExact_bind {n : Nat} {f : Vector UInt8 n → Dialogue β} {used out : List UInt8}
    {halt : Halt} : Stops (readExact n >>= f) used out halt ↔
      (used.length < n ∧ out = [] ∧ halt = .waits) ∨
        ∃ bytes used', used = bytes.toList ++ used' ∧ Stops (f bytes) used' out halt := by
  constructor
  · intro h
    cases h with
    | short h => exact .inl ⟨h, rfl, rfl⟩
    | read bytes h => exact .inr ⟨bytes, _, rfl, h⟩
  · rintro (⟨h, rfl, rfl⟩ | ⟨bytes, used', rfl, h⟩)
    · exact .short h
    · exact .read bytes h

theorem stops_writeAll_bind {bytes : List UInt8} {f : Unit → Dialogue β} {used out : List UInt8}
    {halt : Halt} : Stops (writeAll bytes >>= f) used out halt ↔
      ∃ out', out = bytes ++ out' ∧ Stops (f ()) used out' halt := by
  constructor
  · intro h
    cases h with
    | write _ h => exact ⟨_, rfl, h⟩
  · rintro ⟨out', rfl, h⟩
    exact .write bytes h

end Dialogue
