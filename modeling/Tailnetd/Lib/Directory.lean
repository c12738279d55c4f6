/-
  One directory of a file system, its names byte for byte.

  A name leads to an entry: the number of an inode and what it is.  A file that is created gets an
  inode that no entry has had, so that a file and another one of the same name and content are told
  apart; the numbers that were given out are bounded by a field of the structure.

  An exclusive create fails on a name that is taken (`create_eq_none_iff`) and touches no other
  (`get?_create`), a write keeps the inode (`get?_write`), and a file that is unlinked takes its
  name along and nothing else (`get?_unlink`).
-/
import Tailnetd.Lib.SortedMap
import Mathlib.Data.String.Basic

namespace FileSystem

/-- What a name leads to: a file, or something that is not unlinked as one. -/
inductive Node where
  | file (content : List UInt8)
  | folder
  deriving DecidableEq, Repr

/-- An entry of a directory. -/
structure DirEntry where
  inode : Nat
  node : Node
  deriving DecidableEq, Repr

/-- A directory, and the next inode to be given out. -/
structure Directory where
  entries : SortedMap String DirEntry
  next : Nat
  fresh : ∀ name entry, entries.get? name = some entry → entry.inode < next

namespace Directory

/-- A directory without entries. -/
def empty : Directory := ⟨SortedMap.empty, 0, fun _ _ h => by cases h⟩

/-- The entry of a name. -/
def get? (d : Directory) (name : String) : Option DirEntry := d.entries.get? name

/-- Put an entry under a name whose inode has been given out. -/
def put (d : Directory) (name : String) (entry : DirEntry) (next : Nat) (hnext : d.next ≤ next)
    (hentry : entry.inode < next) : Directory where
  entries := d.entries.insert name entry
  next := next
  fresh := by
    intro name' entry' h
    rw [SortedMap.get?_insert] at h
    split at h
    · cases h
      exact hentry
    · exact Nat.lt_of_lt_of_le (d.fresh name' entry' h) hnext

theorem get?_put {d : Directory} {name : String} {entry : DirEntry} {next : Nat}
    (hnext : d.next ≤ next) (hentry : entry.inode < next) (name' : String) :
    (d.put name entry next hnext hentry).get? name' =
      if name' = name then some entry else d.get? name' :=
  SortedMap.get?_insert d.entries name name' entry

/-! ## The operations -/

/-- An exclusive create: an empty file under a name that is free. -/
def create (d : Directory) (name : String) : Option Directory :=
  if (d.get? name).isSome then none
  else some (d.put name ⟨d.next, .file []⟩ (d.next + 1) (Nat.le_succ _) (Nat.lt_succ_self _))

/-- What unlinking a file can come to. -/
inductive Unlinked where
  | gone (d : Directory)
  | missing
  | notFile

/-- Unlink a file. -/
def unlink (d : Directory) (name : String) : Unlinked :=
  match d.get? name with
  | none => .missing
  | some ⟨_, .folder⟩ => .notFile
  | some ⟨_, .file _⟩ =>
    .gone
      { entries := d.entries.remove name
        next := d.next
        fresh := by
          intro name' entry' h
          rw [SortedMap.get?_remove] at h
          split at h
          · cases h
          · exact d.fresh name' entry' h }

/-- Write the content of an entry that is there; the inode stays. -/
def write (d : Directory) (name : String) (content : List UInt8) : Directory :=
  match h : d.get? name with
  | none => d
  | some entry =>
    d.put name ⟨entry.inode, .file content⟩ d.next (Nat.le_refl _) (d.fresh name entry h)

/-- Rename a file over a name that no folder has; the file keeps its inode. -/
def rename (d : Directory) (source target : String) : Option Directory :=
  match h : d.get? source with
  | some ⟨inode, .file content⟩ =>
    if (d.get? target).any (·.node = .folder) then none
    else
      some
        { entries := (d.entries.remove source).insert target ⟨inode, .file content⟩
          next := d.next
          fresh := by
            intro name entry hentry
            rw [SortedMap.get?_insert] at hentry
            split at hentry
            · cases hentry
              exact d.fresh source _ h
            · rw [SortedMap.get?_remove] at hentry
              split at hentry
              · cases hentry
              · exact d.fresh name entry hentry }
  | _ => none

/-! ## What they leave -/

theorem create_eq_none_iff {d : Directory} {name : String} :
    d.create name = none ↔ (d.get? name).isSome = true := by
  unfold create
  split
  · rename_i htaken
    exact ⟨fun _ => htaken, fun _ => rfl⟩
  · rename_i hfree
    exact ⟨fun h => absurd h (by simp), fun h => absurd h hfree⟩

/-- A create takes a name that was free, for a file that was not there. -/
theorem get?_create {d d' : Directory} {name : String} (h : d.create name = some d') :
    d.get? name = none ∧ d'.next = d.next + 1 ∧
      ∀ name', d'.get? name' = if name' = name then some ⟨d.next, .file []⟩ else d.get? name' := by
  unfold create at h
  split at h
  · cases h
  · rename_i hfree
    cases h
    refine ⟨?_, rfl, fun name' => get?_put (Nat.le_succ _) (Nat.lt_succ_self _) name'⟩
    simpa using hfree

theorem get?_unlink {d d' : Directory} {name : String} (h : d.unlink name = .gone d') :
    (∃ inode content, d.get? name = some ⟨inode, .file content⟩) ∧ d'.next = d.next ∧
      ∀ name', d'.get? name' = if name' = name then none else d.get? name' := by
  unfold unlink at h
  split at h
  · cases h
  · cases h
  · rename_i inode content hget
    cases h
    exact ⟨⟨inode, content, hget⟩, rfl, fun name' => SortedMap.get?_remove d.entries name name'⟩

/-- What unlinking comes to is said by the entry. -/
theorem unlink_cases (d : Directory) (name : String) :
    (d.get? name = none ∧ d.unlink name = .missing) ∨
      (∃ inode, d.get? name = some ⟨inode, .folder⟩ ∧ d.unlink name = .notFile) ∨
      ∃ inode content d', d.get? name = some ⟨inode, .file content⟩ ∧ d.unlink name = .gone d' := by
  unfold unlink
  split
  · rename_i hget
    exact .inl ⟨hget, rfl⟩
  · rename_i inode hget
    exact .inr (.inl ⟨inode, hget, rfl⟩)
  · rename_i inode content hget
    exact .inr (.inr ⟨inode, content, _, hget, rfl⟩)

/-- A write changes the content of the entry and nothing else. -/
theorem get?_write {d : Directory} {name : String} {entry : DirEntry} (h : d.get? name = some entry)
    (content : List UInt8) (name' : String) : (d.write name content).get? name' =
      if name' = name then some ⟨entry.inode, .file content⟩ else d.get? name' := by
  unfold write
  split
  · rename_i hnone
    cases h.symm.trans hnone
  · rename_i entry' hsome
    cases h.symm.trans hsome
    have hgiven : (DirEntry.mk entry.inode (.file content)).inode < d.next := d.fresh name entry h
    exact get?_put (Nat.le_refl _) hgiven name'

/-- A rename gives the file its new name and takes the old one away. -/
theorem get?_rename {d d' : Directory} {source target : String}
    (h : d.rename source target = some d') : ∃ inode content,
      d.get? source = some ⟨inode, .file content⟩ ∧ d'.next = d.next ∧
        ∀ name, d'.get? name =
          if name = target then some ⟨inode, .file content⟩
          else if name = source then none else d.get? name := by
  unfold rename at h
  split at h
  · rename_i inode content hget
    split at h
    · cases h
    · cases h
      refine ⟨inode, content, hget, rfl, fun name => ?_⟩
      show ((d.entries.remove source).insert target ⟨inode, .file content⟩).get? name = _
      rw [SortedMap.get?_insert, SortedMap.get?_remove]
      rfl
  · cases h

/-- Only a folder under the target keeps a file from being renamed. -/
theorem rename_eq_none_iff {d : Directory} {source target : String} {inode : Nat}
    {content : List UInt8} (h : d.get? source = some ⟨inode, .file content⟩) :
    d.rename source target = none ↔ ∃ folder, d.get? target = some ⟨folder, .folder⟩ := by
  have hfolder : (d.get? target).any (·.node = .folder) = true ↔
      ∃ folder, d.get? target = some ⟨folder, .folder⟩ := by
    rw [Option.any_eq_true]
    constructor
    · rintro ⟨⟨folder, node⟩, hget, hnode⟩
      obtain rfl := of_decide_eq_true hnode
      exact ⟨folder, hget⟩
    · rintro ⟨folder, hget⟩
      exact ⟨_, hget, rfl⟩
  unfold rename
  split
  · split
    · rename_i htaken
      exact iff_of_true rfl (hfolder.mp htaken)
    · rename_i hfree
      exact iff_of_false nofun fun htaken => hfree (hfolder.mpr htaken)
  · rename_i hother
    exact absurd h (hother inode content)

end Directory

end FileSystem
