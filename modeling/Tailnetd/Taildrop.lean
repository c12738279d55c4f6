/-
  The drain of the Taildrop inbox into a directory (`file_get_dir` and below, `ipn/diag.rs`).

  1. **Program** — the inbox is gone through file by file.  `receive_one` opens the waiting file,
     opens a target under the conflict policy, copies, and deletes the file from the inbox; whatever
     goes wrong ends in one of three outcomes, and `file_get_dir` makes a row of each.  A drain that
     has failed more than a hundred times stops.

  2. **Faults** — every step may fail by itself (`Faults`): the opening of the waiting file, the
     removal, each create, the copy after any number of bytes, the deletion from the inbox.  A
     create on a taken name and the removal of a missing file fail on their own.  The daemon is the
     only writer, a step that fails does nothing (the copy apart), and the quarantine mark, whose
     failure is only logged, is left out.

  3. **The drain** — a target is created exclusively, so that no two files of a drain share one and
     a name chosen by numbering is never taken from a later file; only `overwrite` removes, and only
     the name of the file it receives.  Hence what was written stays written, and a file leaves the
     inbox only when its content is at its path (`drain_keeps_files`).

  4. **A failed file** — the target is created, and under `overwrite` the old file removed, before
     the copy that may fail, and nothing is undone.  A failed attempt leaves the directory as it was
     exactly when it did not get that far (`failed_attempt_restores_iff`).  The source leaves a
     failed file in the inbox so that a later drain may receive it; under `skip` what was left of
     the first attempt refuses every later one (`skip_refuses_taken`).
-/
import Tailnetd.Lib.Directory
import Tailnetd.Ssh

namespace Tailnetd

open FileSystem

/-! ## The inbox -/

/-- A file that waits in the inbox. -/
structure WaitingFile where
  name : String
  content : List UInt8
  deriving DecidableEq

/-- The inbox: no name waits twice. -/
structure Inbox where
  files : List WaitingFile
  distinct : (files.map WaitingFile.name).Nodup

/-- `taildrop_open_file`: the content of the file of this name. -/
def Inbox.open? (inbox : Inbox) (name : String) : Option (List UInt8) :=
  (inbox.files.find? fun file => file.name == name).map WaitingFile.content

/-- `taildrop_delete_file`. -/
def Inbox.delete (inbox : Inbox) (name : String) : Inbox where
  files := inbox.files.filter fun file => file.name != name
  distinct := (List.filter_sublist.map WaitingFile.name).nodup inbox.distinct

/-- The target directory and the inbox. -/
structure Taildrop where
  dir : Directory
  inbox : Inbox

/-! ## Errors and faults -/

/-- The kinds of `std::io::ErrorKind` that the source tells apart. -/
inductive IoErrorKind where
  | alreadyExists | notFound | invalidInput | other
  deriving DecidableEq

/-- `std::io::Error`: its kind and its `Display`. -/
structure IoError where
  kind : IoErrorKind
  text : String
  deriving DecidableEq

/-- What fails by itself while one file is received, with the text of the error; the copy after so
    many bytes.  `missing` is what the engine says of a file that does not wait. -/
structure Faults where
  openInbox : Option String := none
  missing : String := "NotFound"
  task : Option String := none
  remove : Option String := none
  create : Nat → Option String := fun _ => none
  copy : Option (Nat × String) := none
  delete : Option String := none

/-! ## The target -/

/-- `ConflictPolicy`. -/
inductive ConflictPolicy where
  | skip | overwrite | rename
  deriving DecidableEq

/-- `MAX_RENAME_ATTEMPTS`. -/
def maxRenameAttempts : Nat := 100

/-- The stem and the extension of a name, which begins with the last dot. -/
def splitExtension (base : List Char) : List Char × List Char :=
  if '.' ∈ base then
    ((base.reverse.dropWhile (· != '.')).tail.reverse,
      '.' :: (base.reverse.takeWhile (· != '.')).reverse)
  else (base, [])

/-- `numbered_file_name`. -/
def numberedFileName (base : String) (i : Nat) : String :=
  String.ofList ((splitExtension base.toList).1 ++ " (".toList ++ Nat.toDigits 10 i ++ ")".toList ++
    (splitExtension base.toList).2)

/-- A name that is one component of a path. -/
def isBareLeaf (base : String) : Bool :=
  !(base.isEmpty || base == "." || base == ".." || base.toList.contains '/' ||
    base.toList.contains '\\' || base.toList.contains (Char.ofNat 0))

/-- `excl_create`, as the `n`-th create for a file. -/
def exclCreate (F : Faults) (d : Directory) (n : Nat) (leaf : String) :
    Except IoError (Directory × String) :=
  match F.create n with
  | some text => .error ⟨.other, text⟩
  | none =>
    match d.create leaf with
    | none => .error ⟨.alreadyExists, "File exists (os error 17)"⟩
    | some d' => .ok (d', leaf)

/-- `std::fs::remove_file`. -/
def removeFile (F : Faults) (d : Directory) (leaf : String) : Except IoError Directory :=
  match F.remove with
  | some text => .error ⟨.other, text⟩
  | none =>
    match d.unlink leaf with
    | .gone d' => .ok d'
    | .missing => .error ⟨.notFound, "No such file or directory (os error 2)"⟩
    | .notFile => .error ⟨.other, "Is a directory (os error 21)"⟩

/-- The loop over the numbered names. -/
def createNumbered (F : Faults) (d : Directory) (base : String) :
    List Nat → Except IoError (Directory × String)
  | [] =>
    .error ⟨.alreadyExists, "could not find a free numbered name for " ++ quoted base ++
      s!" after {maxRenameAttempts} attempts"⟩
  | i :: rest =>
    match exclCreate F d i (numberedFileName base i) with
    | .ok created => .ok created
    | .error e => if e.kind = .alreadyExists then createNumbered F d base rest else .error e

/-- `open_target_under_policy`: the directory it leaves, and the name that was opened. -/
def openTargetUnderPolicy (F : Faults) (d : Directory) (base : String) (conflict : ConflictPolicy) :
    Directory × Except IoError String :=
  let opened (d : Directory) (created : Except IoError (Directory × String)) :=
    match created with
    | .ok (d', leaf) => (d', Except.ok leaf)
    | .error e => (d, Except.error e)
  if !isBareLeaf base then
    (d, .error ⟨.invalidInput, "refusing unsafe taildrop file name " ++ quoted base⟩)
  else
    match conflict with
    | .skip => opened d (exclCreate F d 0 base)
    | .overwrite =>
      match removeFile F d base with
      | .ok d' => opened d' (exclCreate F d' 0 base)
      | .error e => if e.kind = .notFound then opened d (exclCreate F d 0 base) else (d, .error e)
    | .rename =>
      match exclCreate F d 0 base with
      | .ok created => opened d (.ok created)
      | .error e =>
        if e.kind = .alreadyExists then
          opened d (createNumbered F d base (List.range' 1 (maxRenameAttempts - 1)))
        else (d, .error e)

/-! ## One file -/

/-- `ReceiveOutcome`. -/
inductive ReceiveOutcome where
  | received (written : String) (size : Nat)
  | notConsumed (written : String) (size : Nat) (reason : String)
  | failed (reason : String)
  deriving DecidableEq

/-- `humanize_write_err`. -/
def humanizeWriteErr (dir name : String) (conflict : ConflictPolicy) (e : IoError) : String :=
  let target := joinPath dir name
  if conflict = .skip ∧ e.kind = .alreadyExists then
    s!"refusing to overwrite {target}: file already exists (left in inbox)"
  else s!"failed to write {target}: {e.text}"

/-- The end of `receive_one`, with the copy made: the file is deleted from the inbox. -/
def consumeReceived (F : Faults) (name written : String) (size : Nat) (s : Taildrop) :
    ReceiveOutcome × Taildrop :=
  match F.delete with
  | some e => (.notConsumed written size s!"saved but could not be removed from the inbox: {e}", s)
  | none => (.received written size, { s with inbox := s.inbox.delete name })

/-- `receive_one`: the outcome for a file, and what it leaves. -/
def receiveOne (F : Faults) (dir : String) (conflict : ConflictPolicy) (name : String)
    (s : Taildrop) : ReceiveOutcome × Taildrop :=
  match F.openInbox with
  | some e => (.failed (s!"opening inbox file {quoted name}: {e}"), s)
  | none =>
    match s.inbox.open? name with
    | none => (.failed (s!"opening inbox file {quoted name}: {F.missing}"), s)
    | some content =>
      match F.task with
      | some e => (.failed s!"receive task failed: {e}", s)
      | none =>
        match openTargetUnderPolicy F s.dir name conflict with
        | (d, .error e) => (.failed (humanizeWriteErr dir name conflict e), { s with dir := d })
        | (d, .ok leaf) =>
          match F.copy with
          | some (n, e) =>
            (.failed (humanizeWriteErr dir name conflict ⟨.other, e⟩),
              { s with dir := d.write leaf (content.take n) })
          | none =>
            consumeReceived F name (joinPath dir leaf) content.length
              { s with dir := d.write leaf content }

/-! ## The drain -/

/-- `FileGotReport`. -/
structure FileGotReport where
  name : String
  size : Nat := 0
  written : Option String := none
  error : Option String := none
  deriving DecidableEq

/-- The row of an outcome. -/
def ReceiveOutcome.report (name : String) : ReceiveOutcome → FileGotReport
  | .received written size => { name := name, size := size, written := some written }
  | .notConsumed written size reason =>
    { name := name, size := size, written := some written, error := some reason }
  | .failed reason => { name := name, error := some reason }

/-- What an outcome adds to the count of errors. -/
def ReceiveOutcome.errors : ReceiveOutcome → Nat
  | .received _ _ => 0
  | _ => 1

/-- The row of a drain that stops. -/
def stopReport (name : String) : FileGotReport :=
  { name := name, error := some "too many errors draining the inbox; stopping" }

/-- The loop of `file_get_dir`, after so many errors. -/
def drainLoop (F : String → Faults) (dir : String) (conflict : ConflictPolicy) :
    List String → Nat → Taildrop → List FileGotReport × Taildrop
  | [], _, s => ([], s)
  | name :: rest, errorCount, s =>
    if 100 < errorCount then ([stopReport name], s)
    else
      let received := receiveOne (F name) dir conflict name s
      let more := drainLoop F dir conflict rest (errorCount + received.1.errors) received.2
      (received.1.report name :: more.1, more.2)

/-- `wipe_inbox`: every waiting file is deleted and nothing written. -/
def wipeInbox (F : String → Faults) : List String → Taildrop → List FileGotReport × Taildrop
  | [], s => ([], s)
  | name :: rest, s =>
    match (F name).delete with
    | some e =>
      let more := wipeInbox F rest s
      ({ name := name, error := some s!"delete failed: {e}" } :: more.1, more.2)
    | none =>
      let more := wipeInbox F rest { s with inbox := s.inbox.delete name }
      ({ name := name, written := some "/dev/null" } :: more.1, more.2)

/-- What the system says of a path: where `canonicalize` leads, and whether that is a directory.
    The path is the text that the rows report (`to_string_lossy`); the file names under it are
    exact. -/
inductive PathStat where
  | unresolved (e : String)
  | unreadable (e : String)
  | resolved (path : String) (isDir : Bool)

/-- The path that was resolved. -/
def PathStat.path : PathStat → String
  | .resolved path _ => path
  | _ => ""

/-- `taildrop_dir_resolved`. -/
def taildropDirResolved (dir : String) : PathStat → Except String String
  | .unresolved e => .error (quoted dir ++ s!" is not a directory: {e}")
  | .unreadable e => .error (quoted dir ++ s!" is not a directory: {e}")
  | .resolved path true => .ok path
  | .resolved _ false => .error (quoted dir ++ " is not a directory")

/-- The replies of a drain. -/
inductive DrainResponse where
  | error (message : String)
  | filesGot (results : List FileGotReport)

/-- The rows of a reply. -/
def DrainResponse.rows : DrainResponse → List FileGotReport
  | .error _ => []
  | .filesGot results => results

/-- `file_get_dir`; `listing` is the error of `taildrop_waiting_files`, if it fails. -/
def fileGetDir (F : String → Faults) (stat : PathStat) (listing : Option String) (dir : String)
    (conflict : ConflictPolicy) (s : Taildrop) : DrainResponse × Taildrop :=
  let waiting := s.inbox.files.map WaitingFile.name
  if dir = "/dev/null" then
    match listing with
    | some e => (.error s!"list taildrop files failed: {e}", s)
    | none => (.filesGot (wipeInbox F waiting s).1, (wipeInbox F waiting s).2)
  else
    match taildropDirResolved dir stat with
    | .error message => (.error message, s)
    | .ok resolved =>
      match listing with
      | some e => (.error s!"list taildrop files failed: {e}", s)
      | none =>
        (.filesGot (drainLoop F resolved conflict waiting 0 s).1,
          (drainLoop F resolved conflict waiting 0 s).2)

example : numberedFileName "report.tar.gz" 2 = "report.tar (2).gz" := by decide
example : numberedFileName ".bashrc" 1 = " (1).bashrc" := by decide

/-! ## What opening a target does -/

/-- The names that are tried for a file, in order. -/
def candidate (base : String) : Nat → String
  | 0 => base
  | i + 1 => numberedFileName base (i + 1)

/-- The first of the names from number `a` on that can be created: every one before it is taken. -/
structure FirstFree (F : Faults) (d : Directory) (base : String) (a i : Nat) : Prop where
  start : a ≤ i
  sound : F.create i = none
  free : d.get? (candidate base i) = none
  taken : ∀ j, a ≤ j → j < i → F.create j = none ∧ (d.get? (candidate base j)).isSome = true

/-- When a target is created. -/
def TargetCreated (F : Faults) (d : Directory) (base : String) : ConflictPolicy → Prop
  | .skip => F.create 0 = none ∧ d.get? base = none
  | .overwrite =>
    F.remove = none ∧ F.create 0 = none ∧ ∀ inode, d.get? base ≠ some ⟨inode, .folder⟩
  | .rename => ∃ i < maxRenameAttempts, FirstFree F d base 0 i

/-- When the old file is removed and no new one created. -/
structure OldFileDropped (F : Faults) (d : Directory) (base : String)
    (conflict : ConflictPolicy) : Prop where
  overwrites : conflict = .overwrite
  removable : F.remove = none
  faulty : (F.create 0).isSome = true
  old : ∃ inode content, d.get? base = some ⟨inode, .file content⟩

/-- What opening a target can come to, and when. -/
inductive TargetAttempt (F : Faults) (d : Directory) (base : String) (conflict : ConflictPolicy) :
    Directory × Except IoError String → Prop
  | refused (e : IoError)
      (never : isBareLeaf base = true →
        ¬ TargetCreated F d base conflict ∧ ¬ OldFileDropped F d base conflict) :
      TargetAttempt F d base conflict (d, .error e)
  | dropped (d' : Directory) (e : IoError) (bare : isBareLeaf base = true)
      (drops : OldFileDropped F d base conflict) (removed : d.unlink base = .gone d') :
      TargetAttempt F d base conflict (d', .error e)
  | opened (d₀ d' : Directory) (i : Nat) (bare : isBareLeaf base = true)
      (creates : TargetCreated F d base conflict) (created : d₀.create (candidate base i) = some d')
      (before : d₀ = d ∨ d.unlink base = .gone d₀ ∧ conflict = .overwrite)
      (plain : conflict = .overwrite → i = 0) :
      TargetAttempt F d base conflict (d', .ok (candidate base i))

/-- A create that succeeds takes the name, which was free. -/
theorem exclCreate_ok {F : Faults} {d : Directory} {n : Nat} {leaf : String}
    {created : Directory × String} (h : exclCreate F d n leaf = .ok created) :
    F.create n = none ∧ d.create leaf = some created.1 ∧ created.2 = leaf := by
  unfold exclCreate at h
  split at h
  · cases h
  · rename_i hfault
    split at h
    · cases h
    · rename_i d' hcreate
      cases h
      exact ⟨hfault, hcreate, rfl⟩

/-- A create fails as it does on a taken name when the name is taken, and by itself otherwise. -/
theorem exclCreate_error {F : Faults} {d : Directory} {n : Nat} {leaf : String} {e : IoError}
    (h : exclCreate F d n leaf = .error e) :
    ((F.create n).isSome = true ∧ e.kind = .other) ∨
      F.create n = none ∧ (d.get? leaf).isSome = true ∧ e.kind = .alreadyExists := by
  unfold exclCreate at h
  split at h
  · rename_i text hfault
    cases h
    exact .inl ⟨by rw [hfault]; rfl, rfl⟩
  · rename_i hfault
    split at h
    · rename_i hcreate
      cases h
      exact .inr ⟨hfault, Directory.create_eq_none_iff.mp hcreate, rfl⟩
    · cases h

/-- A removal that succeeds unlinks the file. -/
theorem removeFile_ok {F : Faults} {d d' : Directory} {leaf : String}
    (h : removeFile F d leaf = .ok d') : F.remove = none ∧ d.unlink leaf = .gone d' := by
  unfold removeFile at h
  split at h
  · cases h
  · rename_i hfault
    split at h
    · rename_i hgone
      cases h
      exact ⟨hfault, hgone⟩
    · cases h
    · cases h

/-- A removal that fails finds no file, fails by itself, or meets something else than a file. -/
theorem removeFile_error {F : Faults} {d : Directory} {leaf : String} {e : IoError}
    (h : removeFile F d leaf = .error e) :
    (F.remove = none ∧ d.get? leaf = none ∧ e.kind = .notFound) ∨
      e.kind ≠ .notFound ∧ (F.remove ≠ none ∨ ∃ inode, d.get? leaf = some ⟨inode, .folder⟩) := by
  unfold removeFile at h
  split at h
  · rename_i text hfault
    cases h
    exact .inr ⟨by simp, .inl (by rw [hfault]; exact Option.some_ne_none text)⟩
  · rename_i hfault
    rcases d.unlink_cases leaf with
      ⟨hnone, hunlink⟩ | ⟨inode, hfolder, hunlink⟩ | ⟨inode, content, d', hfile, hunlink⟩
    · rw [hunlink] at h
      cases h
      exact .inl ⟨hfault, hnone, rfl⟩
    · rw [hunlink] at h
      cases h
      exact .inr ⟨by decide, .inr ⟨inode, hfolder⟩⟩
    · rw [hunlink] at h
      cases h

/-- The numbered name that is created is the first that can be. -/
theorem createNumbered_ok {F : Faults} {d : Directory} {base : String} {a n : Nat} (ha : 0 < a)
    {created : Directory × String}
    (h : createNumbered F d base (List.range' a n) = .ok created) :
    ∃ i < a + n, FirstFree F d base a i ∧ d.create (candidate base i) = some created.1 ∧
      created.2 = candidate base i := by
  induction n generalizing a with
  | zero => cases h
  | succ n ih =>
    rw [List.range'_succ, createNumbered] at h
    have hcandidate : candidate base a = numberedFileName base a := by
      obtain ⟨b, rfl⟩ := Nat.exists_eq_succ_of_ne_zero (Nat.pos_iff_ne_zero.mp ha)
      rfl
    rw [← hcandidate] at h
    split at h
    · rename_i created' hcreate
      cases h
      obtain ⟨hsound, htaken, hname⟩ := exclCreate_ok hcreate
      refine ⟨a, by omega, ⟨Nat.le_refl _, hsound, ?_, fun j hle hlt => by omega⟩, htaken, hname⟩
      exact (Directory.get?_create htaken).1
    · rename_i e hcreate
      split at h
      · rename_i hkind
        obtain ⟨i, hi, hfirst, hcreated⟩ := ih (Nat.succ_pos _) h
        refine ⟨i, by omega, ⟨by have := hfirst.start; omega, hfirst.sound, hfirst.free, ?_⟩,
          hcreated⟩
        intro j hle hlt
        rcases Nat.eq_or_lt_of_le hle with rfl | hlater
        · rcases exclCreate_error hcreate with ⟨-, hother⟩ | ⟨hsound, htaken, -⟩
          · cases hkind.symm.trans hother
          · exact ⟨hsound, htaken⟩
        · exact hfirst.taken j hlater hlt
      · cases h

/-- When no numbered name is created, there is none to be. -/
theorem createNumbered_error {F : Faults} {d : Directory} {base : String} {a n : Nat} (ha : 0 < a)
    {e : IoError} (h : createNumbered F d base (List.range' a n) = .error e) :
    ¬ ∃ i < a + n, FirstFree F d base a i := by
  rintro ⟨i, hi, hfirst⟩
  induction n generalizing a with
  | zero =>
    have hstart := hfirst.start
    omega
  | succ n ih =>
    rw [List.range'_succ, createNumbered] at h
    have hcandidate : candidate base a = numberedFileName base a := by
      obtain ⟨b, rfl⟩ := Nat.exists_eq_succ_of_ne_zero (Nat.pos_iff_ne_zero.mp ha)
      rfl
    rw [← hcandidate] at h
    -- the first name was tried, whether it is the one or stands before it
    have hsound : F.create a = none := by
      rcases Nat.eq_or_lt_of_le hfirst.start with rfl | hlt
      · exact hfirst.sound
      · exact (hfirst.taken a (Nat.le_refl _) hlt).1
    split at h
    · cases h
    · rename_i e' hcreate
      rcases exclCreate_error hcreate with ⟨hfault, -⟩ | ⟨-, htaken, hkind⟩
      · rw [hsound] at hfault
        cases hfault
      · rw [if_pos hkind] at h
        have hlater : a < i := by
          refine Nat.lt_of_le_of_ne hfirst.start ?_
          rintro rfl
          rw [hfirst.free] at htaken
          cases htaken
        exact ih (Nat.succ_pos _) h (by omega)
          ⟨hlater, hfirst.sound, hfirst.free, fun j hle hlt => hfirst.taken j (by omega) hlt⟩

/-- The first of all names can be created, when it is numbered and the plain one is taken. -/
theorem FirstFree.of_plain_taken {F : Faults} {d : Directory} {base : String} {i : Nat}
    (h : FirstFree F d base 1 i) (hsound : F.create 0 = none)
    (htaken : (d.get? base).isSome = true) : FirstFree F d base 0 i := by
  refine ⟨Nat.zero_le _, h.sound, h.free, fun j _ hlt => ?_⟩
  cases j with
  | zero => exact ⟨hsound, htaken⟩
  | succ j => exact h.taken (j + 1) (Nat.succ_pos _) hlt

/-- It is numbered when the plain one is not created. -/
theorem FirstFree.numbered {F : Faults} {d : Directory} {base : String} {i : Nat} {e : IoError}
    (h : FirstFree F d base 0 i) (hplain : exclCreate F d 0 base = .error e) :
    e.kind = .alreadyExists ∧ FirstFree F d base 1 i := by
  have hpos : 0 < i := by
    refine Nat.pos_iff_ne_zero.mpr ?_
    rintro rfl
    have hfree : d.get? base = none := h.free
    rcases exclCreate_error hplain with ⟨hfault, -⟩ | ⟨-, htaken, -⟩
    · rw [h.sound] at hfault
      cases hfault
    · rw [hfree] at htaken
      cases htaken
  refine ⟨?_, hpos, h.sound, h.free, fun j hle hlt => h.taken j (Nat.zero_le _) hlt⟩
  rcases exclCreate_error hplain with ⟨hfault, -⟩ | ⟨-, -, hkind⟩
  · rw [(h.taken 0 (Nat.le_refl _) hpos).1] at hfault
    cases hfault
  · exact hkind

section Open

variable {F : Faults} {d : Directory} {base : String} (hbare : isBareLeaf base = true)

include hbare

/-- `skip`: one exclusive create. -/
theorem openTarget_skip :
    TargetAttempt F d base .skip (openTargetUnderPolicy F d base .skip) := by
  unfold openTargetUnderPolicy
  dsimp only
  rw [hbare, if_neg (by decide)]
  cases hcreate : exclCreate F d 0 base with
  | ok created =>
    obtain ⟨hsound, htaken, hname⟩ := exclCreate_ok hcreate
    dsimp only
    rw [hname]
    exact .opened d created.1 0 hbare ⟨hsound, (Directory.get?_create htaken).1⟩ htaken (.inl rfl)
      fun _ => rfl
  | error e =>
    refine .refused e fun _ => ⟨?_, fun hdrops => absurd hdrops.overwrites (by decide)⟩
    rintro ⟨hsound, hfree⟩
    rcases exclCreate_error hcreate with ⟨hfault, -⟩ | ⟨-, htaken, -⟩
    · rw [hsound] at hfault
      cases hfault
    · rw [hfree] at htaken
      cases htaken

/-- `overwrite`: the file is removed, when there is one, before the create. -/
theorem openTarget_overwrite :
    TargetAttempt F d base .overwrite (openTargetUnderPolicy F d base .overwrite) := by
  unfold openTargetUnderPolicy
  dsimp only
  rw [hbare, if_neg (by decide)]
  cases hremove : removeFile F d base with
  | ok d' =>
    obtain ⟨hremovable, hgone⟩ := removeFile_ok hremove
    obtain ⟨⟨inode, content, hold⟩, -, hunlinked⟩ := Directory.get?_unlink hgone
    dsimp only
    cases hcreate : exclCreate F d' 0 base with
    | ok created =>
      obtain ⟨hsound, htaken, hname⟩ := exclCreate_ok hcreate
      dsimp only
      rw [hname]
      refine .opened d' created.1 0 hbare ⟨hremovable, hsound, fun inode' hfolder => ?_⟩ htaken
        (.inr ⟨hgone, rfl⟩) fun _ => rfl
      cases hold.symm.trans hfolder
    | error e =>
      rcases exclCreate_error hcreate with ⟨hfault, -⟩ | ⟨-, htaken, -⟩
      · exact .dropped d' e hbare ⟨rfl, hremovable, hfault, inode, content, hold⟩ hgone
      · -- the name was just freed
        rw [hunlinked, if_pos rfl] at htaken
        cases htaken
  | error e =>
    dsimp only
    rcases removeFile_error hremove with ⟨hremovable, hnone, hkind⟩ | ⟨hkind, hwhy⟩
    · rw [if_pos hkind]
      have hno : ¬ OldFileDropped F d base .overwrite := by
        rintro ⟨-, -, -, inode, content, hold⟩
        cases hold.symm.trans hnone
      cases hcreate : exclCreate F d 0 base with
      | ok created =>
        obtain ⟨hsound, htaken, hname⟩ := exclCreate_ok hcreate
        dsimp only
        rw [hname]
        refine .opened d created.1 0 hbare ⟨hremovable, hsound, fun inode hfolder => ?_⟩ htaken
          (.inl rfl) fun _ => rfl
        cases hnone.symm.trans hfolder
      | error e =>
        refine .refused e fun _ => ⟨?_, hno⟩
        rintro ⟨-, hsound, -⟩
        rcases exclCreate_error hcreate with ⟨hfault, -⟩ | ⟨-, htaken, -⟩
        · rw [hsound] at hfault
          cases hfault
        · rw [hnone] at htaken
          cases htaken
    · rw [if_neg hkind]
      refine .refused e fun _ => ⟨?_, ?_⟩
      · rintro ⟨hremovable, -, hfile⟩
        rcases hwhy with hfault | ⟨inode, hfolder⟩
        · exact hfault hremovable
        · exact hfile inode hfolder
      · rintro ⟨-, hremovable, -, inode, content, hold⟩
        rcases hwhy with hfault | ⟨inode', hfolder⟩
        · exact hfault hremovable
        · cases hold.symm.trans hfolder

/-- `rename`: the plain name, then the numbered ones. -/
theorem openTarget_rename :
    TargetAttempt F d base .rename (openTargetUnderPolicy F d base .rename) := by
  unfold openTargetUnderPolicy
  dsimp only
  rw [hbare, if_neg (by decide)]
  cases hcreate : exclCreate F d 0 base with
  | ok created =>
    obtain ⟨hsound, htaken, hname⟩ := exclCreate_ok hcreate
    have hfirst : FirstFree F d base 0 0 := ⟨Nat.le_refl _, hsound,
      (Directory.get?_create htaken).1, fun j _ hlt => absurd hlt (Nat.not_lt_zero j)⟩
    dsimp only
    rw [hname]
    exact .opened d created.1 0 hbare ⟨0, by decide, hfirst⟩ htaken (.inl rfl) fun _ => rfl
  | error e =>
    have hno : ¬ OldFileDropped F d base .rename := fun hdrops =>
      absurd hdrops.overwrites (by decide)
    dsimp only
    split
    · rename_i hkind
      obtain ⟨hsound, htaken⟩ : F.create 0 = none ∧ (d.get? base).isSome = true := by
        rcases exclCreate_error hcreate with ⟨-, hother⟩ | ⟨hsound, htaken, -⟩
        · cases hkind.symm.trans hother
        · exact ⟨hsound, htaken⟩
      cases hnumbered : createNumbered F d base (List.range' 1 (maxRenameAttempts - 1)) with
      | ok created =>
        obtain ⟨i, hi, hfirst, hnew, hname⟩ := createNumbered_ok Nat.one_pos hnumbered
        dsimp only
        rw [hname]
        exact .opened d created.1 i hbare ⟨i, hi, hfirst.of_plain_taken hsound htaken⟩ hnew
          (.inl rfl) fun h => by cases h
      | error e' =>
        refine .refused e' fun _ => ⟨?_, hno⟩
        rintro ⟨i, hi, hfirst⟩
        exact createNumbered_error Nat.one_pos hnumbered ⟨i, hi, (hfirst.numbered hcreate).2⟩
    · rename_i hkind
      refine .refused e fun _ => ⟨?_, hno⟩
      rintro ⟨i, hi, hfirst⟩
      exact hkind (hfirst.numbered hcreate).1

end Open

/-- **Every way to open a target is one of these.** -/
theorem openTarget_attempt (F : Faults) (d : Directory) (base : String)
    (conflict : ConflictPolicy) :
    TargetAttempt F d base conflict (openTargetUnderPolicy F d base conflict) := by
  cases hbare : isBareLeaf base with
  | false =>
    unfold openTargetUnderPolicy
    dsimp only
    rw [hbare, if_pos (by decide)]
    exact .refused _ fun h => by rw [hbare] at h; cases h
  | true =>
    cases conflict with
    | skip => exact openTarget_skip hbare
    | overwrite => exact openTarget_overwrite hbare
    | rename => exact openTarget_rename hbare

/-- A target that was opened: which names it leaves as they were, and what it holds once it is
    written. -/
theorem TargetAttempt.opened_spec {F : Faults} {d d' : Directory} {base leaf : String}
    {conflict : ConflictPolicy} (h : TargetAttempt F d base conflict (d', .ok leaf))
    (content : List UInt8) :
    isBareLeaf base = true ∧ (∃ i, leaf = candidate base i) ∧
      (conflict = .overwrite → leaf = base) ∧ (conflict ≠ .overwrite → d.get? leaf = none) ∧
      (∃ inode, d.next = inode ∧ (d'.write leaf content).get? leaf = some ⟨inode, .file content⟩) ∧
      ∀ name entry, d.get? name = some entry → (conflict = .overwrite → name ≠ base) →
        (d'.write leaf content).get? name = some entry := by
  cases h with
  | opened d₀ _ i bare creates created before plain =>
    obtain ⟨hfree, -, hcreated⟩ := Directory.get?_create created
    have hleaf : d'.get? (candidate base i) = some ⟨d₀.next, .file []⟩ := by
      rw [hcreated, if_pos rfl]
    have hnext : d.next = d₀.next := by
      rcases before with rfl | ⟨hgone, -⟩
      · rfl
      · exact (Directory.get?_unlink hgone).2.1.symm
    refine ⟨bare, ⟨i, rfl⟩, ?_, ?_, ⟨d₀.next, hnext, ?_⟩, ?_⟩
    · intro hover
      rw [plain hover]
      rfl
    · intro hkeeps
      rcases before with rfl | ⟨-, hover⟩
      · exact hfree
      · exact absurd hover hkeeps
    · rw [Directory.get?_write hleaf, if_pos rfl]
    · intro name entry hentry hother
      have hold : d₀.get? name = some entry := by
        rcases before with rfl | ⟨hgone, hover⟩
        · exact hentry
        · rw [(Directory.get?_unlink hgone).2.2, if_neg (hother hover)]
          exact hentry
      have hne : name ≠ candidate base i := by
        rintro rfl
        cases hfree.symm.trans hold
      rw [Directory.get?_write hleaf, if_neg hne, hcreated, if_neg hne]
      exact hold

/-- A target that was not opened: which names it leaves as they were. -/
theorem TargetAttempt.error_keeps {F : Faults} {d d' : Directory} {base : String}
    {conflict : ConflictPolicy} {e : IoError} (h : TargetAttempt F d base conflict (d', .error e))
    {name : String} {entry : DirEntry} (hentry : d.get? name = some entry)
    (hother : conflict = .overwrite → name ≠ base) : d'.get? name = some entry := by
  cases h with
  | refused => exact hentry
  | dropped _ _ bare drops removed =>
    rw [(Directory.get?_unlink removed).2.2, if_neg (hother drops.overwrites)]
    exact hentry

theorem isBareLeaf_iff {base : String} :
    isBareLeaf base = true ↔ base ≠ "" ∧ base ≠ "." ∧ base ≠ ".." ∧
      ∀ c ∈ ['/', '\\', Char.ofNat 0], c ∉ base.toList := by
  simp [isBareLeaf, and_assoc]

/-- The characters of the two halves of a name. -/
theorem mem_splitExtension {base : List Char} {c : Char}
    (h : c ∈ (splitExtension base).1 ∨ c ∈ (splitExtension base).2) : c ∈ base := by
  unfold splitExtension at h
  split at h
  · rename_i hdot
    rcases h with hstem | hext
    · rw [List.mem_reverse] at hstem
      exact List.mem_reverse.mp ((List.dropWhile_sublist _).mem (List.mem_of_mem_tail hstem))
    · rcases List.mem_cons.mp hext with rfl | hback
      · exact hdot
      · rw [List.mem_reverse] at hback
        exact List.mem_reverse.mp ((List.takeWhile_sublist _).mem hback)
  · rcases h with hstem | hext
    · exact hstem
    · cases hext

/-- Numbering a name puts no separator into it. -/
theorem separator_plain {c : Char} (hc : c ∈ ['/', '\\', Char.ofNat 0]) :
    c ∉ " (".toList ∧ c ∉ ")".toList ∧ c.isDigit = false := by
  simp only [List.mem_cons, List.not_mem_nil, or_false] at hc
  rcases hc with rfl | rfl | rfl <;> decide

/-- A numbered name is one component when the name it is made of is. -/
theorem candidate_bare {base : String} (h : isBareLeaf base = true) (i : Nat) :
    isBareLeaf (candidate base i) = true := by
  cases i with
  | zero => exact h
  | succ i =>
    obtain ⟨-, -, -, hno⟩ := isBareLeaf_iff.mp h
    have hparen : '(' ∈ (numberedFileName base (i + 1)).toList := by
      simp [numberedFileName]
    have hother {text : String} (htext : '(' ∉ text.toList) :
        numberedFileName base (i + 1) ≠ text := by
      rintro rfl
      exact htext hparen
    refine isBareLeaf_iff.mpr ⟨hother (by decide), hother (by decide), hother (by decide), ?_⟩
    intro c hc hmem
    rw [candidate, numberedFileName, String.toList_ofList] at hmem
    simp only [List.mem_append] at hmem
    rcases hmem with (((hstem | hopen) | hdigit) | hclose) | hext
    · exact hno c hc (mem_splitExtension (.inl hstem))
    · exact (separator_plain hc).1 hopen
    · have hno := Nat.isDigit_of_mem_toDigits (by decide) (by decide) hdigit
      rw [(separator_plain hc).2.2] at hno
      cases hno
    · exact (separator_plain hc).2.1 hclose
    · exact hno c hc (mem_splitExtension (.inr hext))

/-! ## What receiving one file does -/

/-- Where an outcome says the file was written. -/
def ReceiveOutcome.written : ReceiveOutcome → Option String
  | .received written _ => some written
  | .notConsumed written _ _ => some written
  | .failed _ => none

@[simp] theorem report_written (name : String) (outcome : ReceiveOutcome) :
    (outcome.report name).written = outcome.written := by
  cases outcome <;> rfl

@[simp] theorem report_name (name : String) (outcome : ReceiveOutcome) :
    (outcome.report name).name = name := by
  cases outcome <;> rfl

/-- A file that is received gets as far as its target. -/
structure Started (F : Faults) (name : String) (s : Taildrop) (content : List UInt8) : Prop where
  opens : F.openInbox = none
  runs : F.task = none
  waits : s.inbox.open? name = some content

/-- What receiving a file can come to: it does not get as far as a target, its target is not opened,
    its target is opened and the copy fails, or it is copied. -/
inductive ReceiveDoes (F : Faults) (dir : String) (conflict : ConflictPolicy) (name : String)
    (s : Taildrop) : ReceiveOutcome × Taildrop → Prop
  | early (reason : String) (never : ∀ content, ¬ Started F name s content) :
      ReceiveDoes F dir conflict name s (.failed reason, s)
  | refused (d' : Directory) (e : IoError) (content : List UInt8)
      (started : Started F name s content)
      (attempt : TargetAttempt F s.dir name conflict (d', .error e)) :
      ReceiveDoes F dir conflict name s
        (.failed (humanizeWriteErr dir name conflict e), { s with dir := d' })
  | cut (d' : Directory) (leaf : String) (content : List UInt8) (n : Nat) (text : String)
      (started : Started F name s content) (fault : F.copy = some (n, text))
      (attempt : TargetAttempt F s.dir name conflict (d', .ok leaf)) :
      ReceiveDoes F dir conflict name s
        (.failed (humanizeWriteErr dir name conflict ⟨.other, text⟩),
          { s with dir := d'.write leaf (content.take n) })
  | copied (d' : Directory) (leaf : String) (content : List UInt8)
      (started : Started F name s content) (sound : F.copy = none)
      (attempt : TargetAttempt F s.dir name conflict (d', .ok leaf)) :
      ReceiveDoes F dir conflict name s
        (consumeReceived F name (joinPath dir leaf) content.length
          { s with dir := d'.write leaf content })

theorem receiveOne_does (F : Faults) (dir : String) (conflict : ConflictPolicy) (name : String)
    (s : Taildrop) : ReceiveDoes F dir conflict name s (receiveOne F dir conflict name s) := by
  have hattempt := openTarget_attempt F s.dir name conflict
  unfold receiveOne
  split
  · rename_i text hfault
    exact .early _ fun content hstarted => by cases hstarted.opens.symm.trans hfault
  · rename_i hopens
    split
    · rename_i hmissing
      exact .early _ fun content hstarted => by cases hstarted.waits.symm.trans hmissing
    · rename_i content hwaits
      split
      · rename_i text hfault
        exact .early _ fun content hstarted => by cases hstarted.runs.symm.trans hfault
      · rename_i hruns
        have hstarted : Started F name s content := ⟨hopens, hruns, hwaits⟩
        split
        · rename_i d' e hopen
          rw [hopen] at hattempt
          exact .refused d' e content hstarted hattempt
        · rename_i d' leaf hopen
          rw [hopen] at hattempt
          split
          · rename_i n text hcopy
            exact .cut d' leaf content n text hstarted hcopy hattempt
          · rename_i hcopy
            exact .copied d' leaf content hstarted hcopy hattempt

/-- The deletion from the inbox leaves the directory alone, and the path is reported either way. -/
theorem consumeReceived_spec (F : Faults) (name written : String) (size : Nat) (s : Taildrop) :
    (consumeReceived F name written size s).1.written = some written ∧
      (consumeReceived F name written size s).2.dir = s.dir ∧
      ((consumeReceived F name written size s).2.inbox = s.inbox ∨
        (consumeReceived F name written size s).2.inbox = s.inbox.delete name) := by
  unfold consumeReceived
  split
  · exact ⟨rfl, rfl, .inl rfl⟩
  · exact ⟨rfl, rfl, .inr rfl⟩

section Step

variable {F : Faults} {dir : String} {conflict : ConflictPolicy} {name : String} {s : Taildrop}
  {r : ReceiveOutcome × Taildrop}

/-- **What receiving a file leaves alone**: every name of the directory but the one that `overwrite`
    replaces. -/
theorem ReceiveDoes.dir_keeps (h : ReceiveDoes F dir conflict name s r) {leaf : String}
    {entry : DirEntry} (hentry : s.dir.get? leaf = some entry)
    (hother : conflict = .overwrite → leaf ≠ name) : r.2.dir.get? leaf = some entry := by
  cases h with
  | early => exact hentry
  | refused d' e content started attempt => exact attempt.error_keeps hentry hother
  | cut d' target content n text started fault attempt =>
    obtain ⟨-, -, -, -, -, hkeeps⟩ := attempt.opened_spec (content.take n)
    exact hkeeps leaf entry hentry hother
  | copied d' target content started sound attempt =>
    obtain ⟨-, -, -, -, -, hkeeps⟩ := attempt.opened_spec content
    rw [(consumeReceived_spec ..).2.1]
    exact hkeeps leaf entry hentry hother

/-- The inbox is as it was, or without the file, which was written. -/
theorem ReceiveDoes.inbox_keeps (h : ReceiveDoes F dir conflict name s r) :
    r.2.inbox = s.inbox ∨ r.1.written.isSome = true ∧ r.2.inbox = s.inbox.delete name := by
  cases h with
  | early => exact .inl rfl
  | refused => exact .inl rfl
  | cut => exact .inl rfl
  | copied d' target content started sound attempt =>
    obtain ⟨hwritten, -, hinbox⟩ := consumeReceived_spec F name (joinPath dir target)
      content.length { s with dir := d'.write target content }
    rw [hwritten]
    exact hinbox.imp_right fun hdeleted => ⟨rfl, hdeleted⟩

/-- **A path that is reported holds the file that waited**, under a name that was free or that is
    the file's own. -/
theorem ReceiveDoes.written_holds (h : ReceiveDoes F dir conflict name s r) {written : String}
    (hwritten : r.1.written = some written) :
    ∃ leaf, written = joinPath dir leaf ∧ isBareLeaf leaf = true ∧
      (conflict = .overwrite → leaf = name) ∧ (conflict ≠ .overwrite → s.dir.get? leaf = none) ∧
      ∃ content inode, s.inbox.open? name = some content ∧
        r.2.dir.get? leaf = some ⟨inode, .file content⟩ := by
  cases h with
  | early => cases hwritten
  | refused => cases hwritten
  | cut => cases hwritten
  | copied d' target content started sound attempt =>
    obtain ⟨hpath, hdir, -⟩ := consumeReceived_spec F name (joinPath dir target)
      content.length { s with dir := d'.write target content }
    rw [hpath] at hwritten
    cases hwritten
    obtain ⟨hbare, ⟨i, rfl⟩, hover, hfree, ⟨inode, -, hheld⟩, -⟩ := attempt.opened_spec content
    refine ⟨candidate name i, rfl, candidate_bare hbare i, hover, hfree, content, inode,
      started.waits, ?_⟩
    rw [hdir]
    exact hheld

end Step

/-! ## The drain -/

/-- Joining tells leaves apart. -/
theorem joinPath_inj {dir leaf leaf' : String} (h : joinPath dir leaf = joinPath dir leaf') :
    leaf = leaf' := by
  have hlist := congrArg String.toList h
  unfold joinPath at hlist
  split at hlist
  · simp only [String.toList_append] at hlist
    exact String.toList_inj.mp (List.append_cancel_left hlist)
  · simp only [String.toList_append] at hlist
    exact String.toList_inj.mp (List.append_cancel_left hlist)

/-- A file that waits is opened. -/
theorem Inbox.open?_of_mem {inbox : Inbox} {file : WaitingFile} (h : file ∈ inbox.files) :
    inbox.open? file.name = some file.content := by
  have hsome : (inbox.files.find? fun other => other.name == file.name).isSome = true :=
    List.find?_isSome.mpr ⟨file, h, by simp⟩
  obtain ⟨other, hfind⟩ := Option.isSome_iff_exists.mp hsome
  have hname : other.name = file.name := by simpa using List.find?_some hfind
  have hsame := List.inj_on_of_nodup_map inbox.distinct (List.mem_of_find?_eq_some hfind) h hname
  rw [Inbox.open?, hfind, hsame]
  rfl

/-- A file that a deletion takes has the name that is deleted. -/
theorem Inbox.name_of_deleted {inbox : Inbox} {file : WaitingFile} {name : String}
    (h : file ∈ inbox.files) (hgone : file ∉ (inbox.delete name).files) : file.name = name := by
  by_contra hne
  exact hgone (List.mem_filter.mpr ⟨h, by simpa using hne⟩)

/-- What the rest of a drain, over these names, leaves of a state. -/
structure DrainKeeps (dir : String) (conflict : ConflictPolicy) (names : List String) (s : Taildrop)
    (r : List FileGotReport × Taildrop) : Prop where
  entries : ∀ leaf entry, s.dir.get? leaf = some entry → (conflict = .overwrite → leaf ∉ names) →
    r.2.dir.get? leaf = some entry
  paths : ∀ row ∈ r.1, ∀ written, row.written = some written →
    ∃ leaf, written = joinPath dir leaf ∧ isBareLeaf leaf = true ∧
      (conflict = .overwrite → leaf ∈ names) ∧ (conflict ≠ .overwrite → s.dir.get? leaf = none)
  distinct : (r.1.filterMap FileGotReport.written).Nodup
  left : ∀ file ∈ s.inbox.files, file ∉ r.2.inbox.files → ∃ row ∈ r.1, row.name = file.name ∧
    ∃ leaf inode, row.written = some (joinPath dir leaf) ∧
      r.2.dir.get? leaf = some ⟨inode, .file file.content⟩
  rows : r.1.map FileGotReport.name = names.take r.1.length
  stops : r.1.length < names.length → ∃ name, r.1.getLast? = some (stopReport name)

/-- One file more in front of a drain. -/
theorem DrainKeeps.cons {F : Faults} {dir : String} {conflict : ConflictPolicy} {name : String}
    {rest : List String} {s : Taildrop} {received : ReceiveOutcome × Taildrop}
    {more : List FileGotReport × Taildrop} (hmore : DrainKeeps dir conflict rest received.2 more)
    (hname : name ∉ rest) (hdoes : ReceiveDoes F dir conflict name s received) :
    DrainKeeps dir conflict (name :: rest) s (received.1.report name :: more.1, more.2) := by
  have hkept : ∀ leaf entry, received.2.dir.get? leaf = some entry →
      (conflict = .overwrite → leaf = name) → more.2.dir.get? leaf = some entry := by
    intro leaf entry hentry hover
    refine hmore.entries leaf entry hentry fun h => ?_
    rw [hover h]
    exact hname
  refine ⟨?_, ?_, ?_, ?_, ?_, ?_⟩
  · intro leaf entry hentry hother
    refine hmore.entries leaf entry (hdoes.dir_keeps hentry ?_) ?_
    · rintro hover rfl
      exact hother hover List.mem_cons_self
    · intro hover hmem
      exact hother hover (List.mem_cons_of_mem _ hmem)
  · intro row hrow written hwritten
    rcases List.mem_cons.mp hrow with rfl | hlater
    · rw [report_written] at hwritten
      obtain ⟨leaf, rfl, hbare, hover, hfree, -⟩ := hdoes.written_holds hwritten
      refine ⟨leaf, rfl, hbare, fun h => ?_, hfree⟩
      rw [hover h]
      exact List.mem_cons_self
    · obtain ⟨leaf, rfl, hbare, hover, hfree⟩ := hmore.paths row hlater written hwritten
      refine ⟨leaf, rfl, hbare, fun h => List.mem_cons_of_mem _ (hover h), fun hkeeps => ?_⟩
      -- a name that was taken before the first file is still taken
      by_contra htaken
      obtain ⟨entry, hentry⟩ := Option.ne_none_iff_exists'.mp htaken
      have hstill := hdoes.dir_keeps hentry fun h => absurd h hkeeps
      rw [hfree hkeeps] at hstill
      cases hstill
  · rw [List.filterMap_cons, report_written]
    cases hwritten : received.1.written with
    | none => exact hmore.distinct
    | some written =>
      refine List.nodup_cons.mpr ⟨fun hagain => ?_, hmore.distinct⟩
      obtain ⟨row, hrow, hsame⟩ := List.mem_filterMap.mp hagain
      obtain ⟨leaf, rfl, -, hover, -, content, inode, -, hheld⟩ := hdoes.written_holds hwritten
      obtain ⟨leaf', hpath, -, hover', hfree'⟩ := hmore.paths row hrow _ hsame
      obtain rfl := joinPath_inj hpath
      by_cases hconflict : conflict = .overwrite
      · exact hname (hover hconflict ▸ hover' hconflict)
      · rw [hfree' hconflict] at hheld
        cases hheld
  · intro file hfile hgone
    by_cases hstill : file ∈ received.2.inbox.files
    · obtain ⟨row, hrow, hfound⟩ := hmore.left file hstill hgone
      exact ⟨row, List.mem_cons_of_mem _ hrow, hfound⟩
    · rcases hdoes.inbox_keeps with hsame | ⟨hsome, hdeleted⟩
      · rw [hsame] at hstill
        exact absurd hfile hstill
      · rw [hdeleted] at hstill
        obtain rfl := Inbox.name_of_deleted hfile hstill
        obtain ⟨written, hwritten⟩ := Option.isSome_iff_exists.mp hsome
        obtain ⟨leaf, rfl, -, hover, -, content, inode, hwaits, hheld⟩ :=
          hdoes.written_holds hwritten
        rw [Inbox.open?_of_mem hfile] at hwaits
        cases hwaits
        refine ⟨_, List.mem_cons_self, report_name _ _, leaf, inode, ?_, hkept leaf _ hheld hover⟩
        rw [report_written]
        exact hwritten
  · rw [List.map_cons, report_name, hmore.rows]
    rfl
  · intro hshort
    obtain ⟨stopped, hlast⟩ := hmore.stops (by simpa using hshort)
    exact ⟨stopped, by rw [List.getLast?_cons, hlast]; rfl⟩

theorem drainLoop_keeps (F : String → Faults) (dir : String) (conflict : ConflictPolicy)
    {names : List String} (hnames : names.Nodup) (errorCount : Nat) (s : Taildrop) :
    DrainKeeps dir conflict names s (drainLoop F dir conflict names errorCount s) := by
  induction names generalizing errorCount s with
  | nil =>
    refine ⟨fun leaf entry h _ => h, ?_, List.nodup_nil, fun file h hno => absurd h hno, rfl,
      fun h => absurd h (Nat.lt_irrefl _)⟩
    intro row hrow
    cases hrow
  | cons name rest ih =>
    obtain ⟨hname, hrest⟩ := List.nodup_cons.mp hnames
    unfold drainLoop
    split
    · -- the drain stops, with a row and nothing done
      refine ⟨fun leaf entry h _ => h, ?_, List.nodup_nil, fun file h hno => absurd h hno, rfl,
        fun _ => ⟨name, rfl⟩⟩
      intro row hrow written hwritten
      rw [List.mem_singleton.mp hrow] at hwritten
      cases hwritten
    · have hdoes := receiveOne_does (F name) dir conflict name s
      have hmore := ih hrest (errorCount + (receiveOne (F name) dir conflict name s).1.errors)
        (receiveOne (F name) dir conflict name s).2
      dsimp only
      generalize receiveOne (F name) dir conflict name s = received at hdoes hmore ⊢
      exact hmore.cons hname hdoes

theorem taildropDirResolved_ok {dir path : String} {stat : PathStat}
    (h : taildropDirResolved dir stat = .ok path) : stat.path = path := by
  unfold taildropDirResolved at h
  split at h
  · cases h
  · cases h
  · cases h
    rfl
  · cases h

/-- A drain into a directory is the loop over the waiting files, or nothing. -/
theorem fileGetDir_keeps (F : String → Faults) (stat : PathStat) (listing : Option String)
    {dir : String} (conflict : ConflictPolicy) (s : Taildrop) (hdir : dir ≠ "/dev/null") :
    (∃ message, fileGetDir F stat listing dir conflict s = (.error message, s)) ∨
      DrainKeeps stat.path conflict (s.inbox.files.map WaitingFile.name) s
        ((fileGetDir F stat listing dir conflict s).1.rows,
          (fileGetDir F stat listing dir conflict s).2) := by
  unfold fileGetDir
  dsimp only
  rw [if_neg hdir]
  cases hresolved : taildropDirResolved dir stat with
  | error message => exact .inl ⟨message, rfl⟩
  | ok path =>
    rw [← taildropDirResolved_ok hresolved]
    cases listing with
    | some e => exact .inl ⟨_, rfl⟩
    | none => exact .inr (drainLoop_keeps F stat.path conflict s.inbox.distinct 0 s)

/-- **A drain keeps the files it meets and accounts for those it takes.**  Under `skip` and `rename`
    every entry of the directory is what it was.  A file that has left the inbox stands, whole, at
    the path that its row reports.  The paths reported are distinct and directly inside the
    directory.  The rows are those of the files examined, one for each and in their order, and a
    drain that does not examine all of them says so in its last row. -/
theorem drain_keeps_files (F : String → Faults) (stat : PathStat) (listing : Option String)
    (dir : String) (conflict : ConflictPolicy) (s : Taildrop) (hdir : dir ≠ "/dev/null") :
    (conflict ≠ .overwrite → ∀ leaf entry, s.dir.get? leaf = some entry →
      (fileGetDir F stat listing dir conflict s).2.dir.get? leaf = some entry) ∧
    (∀ file ∈ s.inbox.files, file ∉ (fileGetDir F stat listing dir conflict s).2.inbox.files →
      ∃ row ∈ (fileGetDir F stat listing dir conflict s).1.rows, row.name = file.name ∧
        ∃ leaf inode, row.written = some (joinPath stat.path leaf) ∧
          (fileGetDir F stat listing dir conflict s).2.dir.get? leaf =
            some ⟨inode, .file file.content⟩) ∧
    ((fileGetDir F stat listing dir conflict s).1.rows.filterMap FileGotReport.written).Nodup ∧
    (∀ row ∈ (fileGetDir F stat listing dir conflict s).1.rows, ∀ written,
      row.written = some written →
        ∃ leaf, written = joinPath stat.path leaf ∧ isBareLeaf leaf = true) ∧
    (fileGetDir F stat listing dir conflict s).1.rows.map FileGotReport.name =
      (s.inbox.files.map WaitingFile.name).take
        (fileGetDir F stat listing dir conflict s).1.rows.length ∧
    ∀ rows, (fileGetDir F stat listing dir conflict s).1 = .filesGot rows →
      rows.length < s.inbox.files.length → ∃ name, rows.getLast? = some (stopReport name) := by
  rcases fileGetDir_keeps F stat listing conflict s hdir with ⟨message, hrefused⟩ | hkeeps
  · rw [hrefused]
    exact ⟨fun _ leaf entry h => h, fun file h hno => absurd h hno, List.nodup_nil,
      fun row hrow => absurd hrow List.not_mem_nil, rfl, fun rows h => by cases h⟩
  · refine ⟨fun hconflict leaf entry h => ?_, hkeeps.left, hkeeps.distinct, ?_, hkeeps.rows, ?_⟩
    · exact hkeeps.entries leaf entry h fun hover => absurd hover hconflict
    · intro row hrow written hwritten
      obtain ⟨leaf, hpath, hbare, -⟩ := hkeeps.paths row hrow written hwritten
      exact ⟨leaf, hpath, hbare⟩
    · intro rows hrows hshort
      have hstops := hkeeps.stops
      rw [hrows, List.length_map] at hstops
      exact hstops hshort

/-- A directory with one file, and an inbox whose second name is what the first is renamed to. -/
def sampleDrain : Taildrop where
  dir := (Directory.empty.create "a.txt").getD .empty
  inbox := ⟨[⟨"a.txt", [1]⟩, ⟨"a (1).txt", [2, 3]⟩], by decide⟩

/-- Both files are received, each under a name of its own. -/
theorem drain_renames_apart :
    (fileGetDir (fun _ => {}) (.resolved "/in" true) none "in" .rename sampleDrain).1.rows.map
        FileGotReport.written = [some "/in/a (1).txt", some "/in/a (1) (1).txt"] ∧
    ((fileGetDir (fun _ => {}) (.resolved "/in" true) none "in" .rename
      sampleDrain).1.rows.filterMap FileGotReport.written).Nodup :=
  ⟨by decide +kernel, (drain_keeps_files (fun _ => {}) (.resolved "/in" true) none "in" .rename
    sampleDrain (by decide)).2.2.1⟩

/-! ## A failed file -/

/-- When a failed attempt leaves something behind: it gets as far as its target, and then the copy
    into the target that was created fails, or no new file takes the place of the one that was
    removed. -/
structure Spoils (F : Faults) (conflict : ConflictPolicy) (d : Directory) (name : String) :
    Prop where
  opens : F.openInbox = none
  runs : F.task = none
  bare : isBareLeaf name = true
  leaves : (TargetCreated F d name conflict ∧ F.copy.isSome = true) ∨
    OldFileDropped F d name conflict

/-- What a failed attempt is to leave: the directory as it was and the file in the inbox, so that an
    attempt without faults comes to what it would have come to before. -/
structure Restored (dir : String) (conflict : ConflictPolicy) (file : WaitingFile)
    (s s' : Taildrop) : Prop where
  entries : ∀ leaf, s'.dir.get? leaf = s.dir.get? leaf
  waits : file ∈ s'.inbox.files
  again : ∀ written size, (receiveOne {} dir conflict file.name s).1 = .received written size →
    (receiveOne {} dir conflict file.name s').1 = .received written size

/-- An attempt that fails otherwise changes nothing. -/
theorem ReceiveDoes.failed_same {F : Faults} {dir : String} {conflict : ConflictPolicy}
    {name reason : String} {s : Taildrop} {r : ReceiveOutcome × Taildrop}
    (h : ReceiveDoes F dir conflict name s r) (hfailed : r.1 = .failed reason)
    (hspares : ¬ Spoils F conflict s.dir name) : r.2 = s := by
  cases h with
  | early => rfl
  | refused d' e content started attempt =>
    cases attempt with
    | refused => rfl
    | dropped _ _ bare drops removed =>
      exact absurd ⟨started.opens, started.runs, bare, .inr drops⟩ hspares
  | cut d' leaf content n text started fault attempt =>
    cases attempt with
    | opened d₀ _ i bare creates created before plain =>
      have hcopy : F.copy.isSome = true := by rw [fault]; rfl
      exact absurd ⟨started.opens, started.runs, bare, .inl ⟨creates, hcopy⟩⟩ hspares
  | copied d' leaf content started sound attempt =>
    have hwritten := (consumeReceived_spec F name (joinPath dir leaf) content.length
      { s with dir := d'.write leaf content }).1
    rw [hfailed] at hwritten
    cases hwritten

/-- A created target has an inode that no entry had. -/
theorem TargetAttempt.opened_new {F : Faults} {d d' : Directory} {base leaf : String}
    {conflict : ConflictPolicy} (h : TargetAttempt F d base conflict (d', .ok leaf))
    (content : List UInt8) : (d'.write leaf content).get? leaf ≠ d.get? leaf := by
  obtain ⟨-, -, -, -, ⟨inode, hinode, hheld⟩, -⟩ := h.opened_spec content
  intro hsame
  rw [hheld] at hsame
  have hold := d.fresh leaf _ hsame.symm
  exact absurd hold (by rw [hinode]; exact Nat.lt_irrefl _)

/-- **An attempt that spoils fails, and the directory is not what it was.** -/
theorem ReceiveDoes.spoiled {F : Faults} {dir : String} {conflict : ConflictPolicy}
    {name : String} {s : Taildrop} {content : List UInt8} {r : ReceiveOutcome × Taildrop}
    (h : ReceiveDoes F dir conflict name s r) (hwaits : s.inbox.open? name = some content)
    (hspoils : Spoils F conflict s.dir name) :
    (∃ reason, r.1 = .failed reason) ∧ ∃ leaf, r.2.dir.get? leaf ≠ s.dir.get? leaf := by
  cases h with
  | early reason never =>
    exact absurd ⟨hspoils.opens, hspoils.runs, hwaits⟩ (never content)
  | refused d' e content' started attempt =>
    refine ⟨⟨_, rfl⟩, name, ?_⟩
    cases attempt with
    | refused _ never =>
      obtain ⟨hcreates, hdrops⟩ := never hspoils.bare
      rcases hspoils.leaves with ⟨creates, -⟩ | drops
      · exact absurd creates hcreates
      · exact absurd drops hdrops
    | dropped _ _ bare drops removed =>
      obtain ⟨⟨inode, old, hold⟩, -, hunlinked⟩ := Directory.get?_unlink removed
      rw [hunlinked, if_pos rfl, hold]
      exact (Option.some_ne_none _).symm
  | cut d' leaf content' n text started fault attempt =>
    exact ⟨⟨_, rfl⟩, leaf, attempt.opened_new _⟩
  | copied d' leaf content' started sound attempt =>
    cases attempt with
    | opened d₀ _ i bare creates created before plain =>
      rcases hspoils.leaves with ⟨-, hcopy⟩ | drops
      · rw [sound] at hcopy
        cases hcopy
      · -- a target was created, which the faulty create rules out
        have hfaulty := drops.faulty
        obtain rfl := drops.overwrites
        obtain ⟨-, hsound, -⟩ := creates
        rw [hsound] at hfaulty
        cases hfaulty

/-- **A failed attempt leaves the directory and the inbox as they were exactly when it does not
    spoil them**: when no copy into a created target fails and, under `overwrite`, no create fails
    for which a file was removed. -/
theorem failed_attempt_restores_iff (F : Faults) (dir : String) (conflict : ConflictPolicy)
    (s : Taildrop) (file : WaitingFile) (hfile : file ∈ s.inbox.files) :
    (∀ reason, (receiveOne F dir conflict file.name s).1 = .failed reason →
      Restored dir conflict file s (receiveOne F dir conflict file.name s).2) ↔
    ¬ Spoils F conflict s.dir file.name := by
  have hdoes := receiveOne_does F dir conflict file.name s
  constructor
  · intro hrestores hspoils
    obtain ⟨⟨reason, hfailed⟩, leaf, hchanged⟩ :=
      hdoes.spoiled (Inbox.open?_of_mem hfile) hspoils
    exact hchanged ((hrestores reason hfailed).entries leaf)
  · intro hspares reason hfailed
    rw [hdoes.failed_same hfailed hspares]
    exact ⟨fun _ => rfl, hfile, fun _ _ h => h⟩

/-- An empty directory and one file that waits. -/
def emptyDrain : Taildrop where
  dir := .empty
  inbox := ⟨[⟨"a", [1, 2]⟩], by decide⟩

/-- A create that fails on an empty directory leaves nothing. -/
theorem failed_create_restores : Restored "/in" .skip ⟨"a", [1, 2]⟩ emptyDrain
    (receiveOne { create := fun _ => some "Permission denied (os error 13)" } "/in" .skip "a"
      emptyDrain).2 :=
  (failed_attempt_restores_iff { create := fun _ => some "Permission denied (os error 13)" } "/in"
    .skip emptyDrain ⟨"a", [1, 2]⟩ List.mem_cons_self).mpr
    (fun hspoils => by
      rcases hspoils.leaves with ⟨⟨hsound, -⟩, -⟩ | drops
      · cases hsound
      · cases drops.overwrites)
    _ rfl

/-- **Under `skip` a name that is taken is refused**, whatever else fails. -/
theorem skip_refuses_taken (F : Faults) (dir : String) {name : String} {s : Taildrop}
    (htaken : (s.dir.get? name).isSome = true) :
    ∃ reason, receiveOne F dir .skip name s = (.failed reason, s) := by
  have hdoes := receiveOne_does F dir .skip name s
  generalize receiveOne F dir .skip name s = r at hdoes
  have hnever : ¬ TargetCreated F s.dir name .skip := by
    rintro ⟨-, hfree⟩
    rw [hfree] at htaken
    cases htaken
  cases hdoes with
  | early reason never => exact ⟨reason, rfl⟩
  | refused d' e content started attempt =>
    cases attempt with
    | refused => exact ⟨_, rfl⟩
    | dropped _ _ bare drops removed => exact absurd drops.overwrites (by decide)
  | cut d' leaf content n text started fault attempt =>
    cases attempt with
    | opened d₀ _ i bare creates created before plain => exact absurd creates hnever
  | copied d' leaf content started sound attempt =>
    cases attempt with
    | opened d₀ _ i bare creates created before plain => exact absurd creates hnever

/-- The disk is full after one byte. -/
def fullDisk : Faults := { copy := some (1, "No space left on device (os error 28)") }

/-- A copy that fails after one byte leaves that byte, and the next drain under `skip` refuses the
    file that it would have received before. -/
theorem failed_copy_spoils :
    (receiveOne fullDisk "/in" .skip "a" emptyDrain).1 =
      .failed "failed to write /in/a: No space left on device (os error 28)" ∧
    ¬ Restored "/in" .skip ⟨"a", [1, 2]⟩ emptyDrain
      (receiveOne fullDisk "/in" .skip "a" emptyDrain).2 ∧
    (receiveOne {} "/in" .skip "a" (receiveOne fullDisk "/in" .skip "a" emptyDrain).2).1 =
      .failed "refusing to overwrite /in/a: file already exists (left in inbox)" := by
  refine ⟨by decide +kernel, fun hrestored => ?_, by decide +kernel⟩
  have hpartial : (receiveOne fullDisk "/in" .skip "a" emptyDrain).2.dir.get? "a" =
      some ⟨0, .file [1]⟩ := by decide +kernel
  rw [hrestored.entries "a"] at hpartial
  cases hpartial

end Tailnetd
