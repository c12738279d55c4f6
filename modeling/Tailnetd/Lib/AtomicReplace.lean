/-
  Files that are replaced as wholes: staged under another name, then renamed into place.

  A write opens the staging name (emptying what an earlier run has left there), adds bytes to it in
  any number of pieces, and renames it over its target; where a call fails it takes the staging file
  away, if that works.  Writes of different targets overlap in any way, one target has one writer at
  a time, and between any two calls everything that is under way can die, after which another
  incarnation goes on with other staging names.

  1. **Layout** — where the targets and their staging names are.  That they stay out of each
     other's way is a field of the structure.

  2. **The crux** (`Staged`) — a writer's staging file holds the bytes it has written so far, and
     nobody else's call touches it: staging names differ where targets do, and no staging name is a
     target.

  3. **Refinement** — a target is touched by the rename that ends a write and by a removal, and by
     nothing else (`step_held`), so after any run each target holds what was last committed to it
     (`run_held`): never a part of it, and nothing of a write that was given up.
-/
import Tailnetd.Lib.Machine
import Mathlib.Logic.Function.Basic

namespace AtomicReplace

open Machine

/-- Where the targets `κ` and their staging names stand among the paths `π`. -/
structure Layout (κ π : Type*) where
  path : κ → π
  temp : Nat → κ → π
  path_injective : path.Injective
  temp_injective : ∀ incarnation, (temp incarnation).Injective
  apart : ∀ incarnation k k', temp incarnation k ≠ path k'

/-- How far a write has come. -/
inductive Stage where
  | begun
  /-- The staging file is open, and so many bytes are in it. -/
  | wrote (count : Nat)
  /-- A call has failed. -/
  | failed
  deriving DecidableEq

/-- A write under way; `ω` is what is written. -/
structure Writer (ω : Type*) where
  value : ω
  stage : Stage

/-- The files and the writes under way. -/
structure Disk (κ π ω β : Type*) where
  files : π → Option (List β)
  writers : κ → Option (Writer ω)
  incarnation : Nat

/-- A call, or what happens instead of one. -/
inductive Call (κ ω : Type*) where
  | start (value : ω)
  | create (k : κ) (works : Bool)
  /-- The bytes up to this count are in the file. -/
  | append (k : κ) (count : Nat)
  | appendFails (k : κ)
  | rename (k : κ) (works : Bool)
  /-- The removal of the staging file behind a failed call. -/
  | cleanup (k : κ) (works : Bool)
  | remove (k : κ)
  | crash (incarnation : Nat)

/-- What a call commits: a value to its target, or the removal of a target. -/
inductive Commit (κ ω : Type*) where
  | put (value : ω)
  | gone (k : κ)

variable {κ π ω β : Type*} [DecidableEq κ] [DecidableEq π]

/-- One call; `target` and `bytes` say where a value goes and what it is as a file. -/
def step (L : Layout κ π) (target : ω → κ) (bytes : ω → List β) (d : Disk κ π ω β) :
    Call κ ω → Option (Disk κ π ω β)
  | .start value =>
    if (d.writers (target value)).isSome then none
    else some { d with writers := Function.update d.writers (target value) (some ⟨value, .begun⟩) }
  | .create k works =>
    match d.writers k with
    | some ⟨value, .begun⟩ =>
      if works then
        some
          { d with
            files := Function.update d.files (L.temp d.incarnation k) (some [])
            writers := Function.update d.writers k (some ⟨value, .wrote 0⟩) }
      else some { d with writers := Function.update d.writers k (some ⟨value, .failed⟩) }
    | _ => none
  | .append k count =>
    match d.writers k with
    | some ⟨value, .wrote written⟩ =>
      if written ≤ count ∧ count ≤ (bytes value).length then
        some
          { d with
            files := Function.update d.files (L.temp d.incarnation k)
              (some ((bytes value).take count))
            writers := Function.update d.writers k (some ⟨value, .wrote count⟩) }
      else none
    | _ => none
  | .appendFails k =>
    match d.writers k with
    | some ⟨value, .wrote _⟩ =>
      some { d with writers := Function.update d.writers k (some ⟨value, .failed⟩) }
    | _ => none
  | .rename k works =>
    match d.writers k with
    | some ⟨value, .wrote written⟩ =>
      if written ≠ (bytes value).length then none
      else if works then
        some
          { d with
            files :=
              Function.update
                (Function.update d.files (L.path k) (d.files (L.temp d.incarnation k)))
                (L.temp d.incarnation k) none
            writers := Function.update d.writers k none }
      else some { d with writers := Function.update d.writers k (some ⟨value, .failed⟩) }
    | _ => none
  | .cleanup k works =>
    match d.writers k with
    | some ⟨_, .failed⟩ =>
      some
        { d with
          files :=
            if works then Function.update d.files (L.temp d.incarnation k) none else d.files
          writers := Function.update d.writers k none }
    | _ => none
  | .remove k =>
    if (d.writers k).isSome then none
    else some { d with files := Function.update d.files (L.path k) none }
  | .crash incarnation => some { d with writers := fun _ => none, incarnation }

/-- What a call that was made commits. -/
def commits (d : Disk κ π ω β) : Call κ ω → Disk κ π ω β → List (Commit κ ω)
  | .rename k true, _ => ((d.writers k).map fun w => Commit.put w.value).toList
  | .remove k, _ => [.gone k]
  | _, _ => []

/-! ## What the targets hold -/

/-- The contents of the targets. -/
def held (L : Layout κ π) (files : π → Option (List β)) : κ → Option (List β) :=
  fun k => files (L.path k)

/-- One commit. -/
def Commit.apply (target : ω → κ) (bytes : ω → List β) (contents : κ → Option (List β)) :
    Commit κ ω → κ → Option (List β)
  | .put value => Function.update contents (target value) (some (bytes value))
  | .gone k => Function.update contents k none

/-- The contents after a list of commits. -/
def committed (target : ω → κ) (bytes : ω → List β) (contents : κ → Option (List β))
    (log : List (Commit κ ω)) : κ → Option (List β) :=
  log.foldl (Commit.apply target bytes) contents

theorem committed_append (target : ω → κ) (bytes : ω → List β) (contents : κ → Option (List β))
    (log log' : List (Commit κ ω)) : committed target bytes contents (log ++ log') =
      committed target bytes (committed target bytes contents log) log' :=
  List.foldl_append

variable {L : Layout κ π} {target : ω → κ} {bytes : ω → List β}
variable {d d' : Disk κ π ω β} {call : Call κ ω}

omit [DecidableEq κ] in
/-- What is written under a staging name leaves the targets alone. -/
theorem held_temp (files : π → Option (List β)) (incarnation : Nat) (k : κ)
    (content : Option (List β)) :
    held L (Function.update files (L.temp incarnation k) content) = held L files :=
  funext fun k' => Function.update_of_ne (L.apart incarnation k k').symm _ _

/-- A target is written. -/
theorem held_path (files : π → Option (List β)) (k : κ) (content : Option (List β)) :
    held L (Function.update files (L.path k) content) =
      Function.update (held L files) k content := by
  funext k'
  by_cases hk : k' = k
  · subst hk
    rw [held, Function.update_self, Function.update_self]
  · rw [held, Function.update_of_ne (L.path_injective.ne hk), Function.update_of_ne hk]
    rfl

/-- **What a writer can count on.**  Its value is one that may be written and goes to its target,
    and its staging file holds what it has written. -/
structure Sound (L : Layout κ π) (target : ω → κ) (bytes : ω → List β) (allowed : ω → Prop)
    (files : π → Option (List β)) (incarnation : Nat) (k : κ) (w : Writer ω) : Prop where
  target : target w.value = k
  allowed : allowed w.value
  staged : ∀ count, w.stage = .wrote count →
    files (L.temp incarnation k) = some ((bytes w.value).take count)

/-- All writers can. -/
def Staged (L : Layout κ π) (target : ω → κ) (bytes : ω → List β) (allowed : ω → Prop)
    (d : Disk κ π ω β) : Prop :=
  ∀ k w, d.writers k = some w → Sound L target bytes allowed d.files d.incarnation k w

variable {allowed : ω → Prop}

omit [DecidableEq π] in
/-- One writer moves on, and the staging files of the others are as they were. -/
theorem Staged.other {files : π → Option (List β)} {k : κ} (h : Staged L target bytes allowed d)
    (w : Option (Writer ω))
    (hfiles : ∀ k', k' ≠ k → files (L.temp d.incarnation k') = d.files (L.temp d.incarnation k'))
    (hw : ∀ w', w = some w' → Sound L target bytes allowed files d.incarnation k w') :
    Staged L target bytes allowed
      { d with files, writers := Function.update d.writers k w } := by
  intro k' w' hk'
  dsimp only at hk' ⊢
  by_cases hk : k' = k
  · subst hk
    rw [Function.update_self] at hk'
    exact hw w' hk'
  · rw [Function.update_of_ne hk] at hk'
    have hsound := h k' w' hk'
    exact ⟨hsound.target, hsound.allowed,
      fun count hcount => (hfiles k' hk).trans (hsound.staged count hcount)⟩

omit [DecidableEq κ] in
/-- A call under one target's staging name is none of another's. -/
theorem update_temp_other {k k' : κ} (hk : k' ≠ k) (files : π → Option (List β)) (n : Nat)
    (content : Option (List β)) :
    Function.update files (L.temp n k) content (L.temp n k') = files (L.temp n k') :=
  Function.update_of_ne ((L.temp_injective n).ne hk) _ _

omit [DecidableEq π] in
/-- A writer that gives up, or one that has not opened its file. -/
theorem Staged.unopened {w : Writer ω} (h : Staged L target bytes allowed d)
    (hallowed : allowed w.value) (hstage : ∀ count, w.stage ≠ .wrote count) :
    Staged L target bytes allowed
      { d with writers := Function.update d.writers (target w.value) (some w) } :=
  h.other _ (fun _ _ => rfl) fun w' hw' => by
    cases hw'
    exact ⟨rfl, hallowed, fun count hcount => absurd hcount (hstage count)⟩

/-- A writer that has written. -/
theorem Staged.writes {value : ω} (h : Staged L target bytes allowed d) (hallowed : allowed value)
    (count : Nat) :
    Staged L target bytes allowed
      { d with
        files := Function.update d.files (L.temp d.incarnation (target value))
          (some ((bytes value).take count))
        writers := Function.update d.writers (target value) (some ⟨value, .wrote count⟩) } :=
  h.other _ (fun _ hk => update_temp_other hk _ _ _) fun w hw => by
    cases hw
    refine ⟨rfl, hallowed, fun count' hcount => ?_⟩
    cases hcount
    exact Function.update_self _ _ _

/-- **One call**: what the targets hold changes by what it commits, and that was started as a
    write before. -/
theorem step_held (hstaged : Staged L target bytes allowed d)
    (hstart : ∀ value, call = .start value → allowed value)
    (hstep : step L target bytes d call = some d') :
    Staged L target bytes allowed d' ∧
      held L d'.files = committed target bytes (held L d.files) (commits d call d') ∧
      ∀ value, .put value ∈ commits d call d' → allowed value := by
  have hnone (value : ω) (h : Commit.put value ∈ ([] : List (Commit κ ω))) : allowed value := by
    cases h
  cases call with
  | start value =>
    dsimp only [step] at hstep
    split at hstep
    · cases hstep
    · cases hstep
      exact ⟨hstaged.unopened (w := ⟨value, .begun⟩) (hstart value rfl) fun _ => nofun, rfl, hnone⟩
  | create k works =>
    dsimp only [step] at hstep
    split at hstep
    · rename_i value hw
      obtain ⟨rfl, hallowed, -⟩ := hstaged k _ hw
      cases works with
      | true =>
        cases hstep
        exact ⟨hstaged.writes hallowed 0, held_temp _ _ _ _, hnone⟩
      | false =>
        cases hstep
        exact ⟨hstaged.unopened (w := ⟨value, .failed⟩) hallowed fun _ => nofun, rfl, hnone⟩
    · cases hstep
  | append k count =>
    dsimp only [step] at hstep
    split at hstep
    · rename_i value written hw
      obtain ⟨rfl, hallowed, -⟩ := hstaged k _ hw
      split at hstep
      · cases hstep
        exact ⟨hstaged.writes hallowed count, held_temp _ _ _ _, hnone⟩
      · cases hstep
    · cases hstep
  | appendFails k =>
    dsimp only [step] at hstep
    split at hstep
    · rename_i value written hw
      obtain ⟨rfl, hallowed, -⟩ := hstaged k _ hw
      cases hstep
      exact ⟨hstaged.unopened (w := ⟨value, .failed⟩) hallowed fun _ => nofun, rfl, hnone⟩
    · cases hstep
  | rename k works =>
    dsimp only [step] at hstep
    split at hstep
    · rename_i value written hw
      obtain ⟨rfl, hallowed, hfile⟩ := hstaged k _ hw
      split at hstep
      · cases hstep
      · rename_i hwhole
        obtain rfl := not_not.mp hwhole
        cases works with
        | true =>
          cases hstep
          have hcommits :
              commits d (.rename (target value) true) = fun _ => [Commit.put value] := by
            funext d'
            rw [commits, hw]
            rfl
          refine ⟨hstaged.other none (fun k' hk => ?_) (fun _ hw' => by cases hw'), ?_, ?_⟩
          · rw [update_temp_other hk, Function.update_of_ne (L.apart _ _ _)]
          · -- what is renamed into place is the whole value
            rw [hcommits, held_temp, held_path, hfile _ rfl, List.take_length]
            rfl
          · intro value' hput
            rw [hcommits, List.mem_singleton] at hput
            cases hput
            exact hallowed
        | false =>
          cases hstep
          exact ⟨hstaged.unopened (w := ⟨value, .failed⟩) hallowed fun _ => nofun, rfl, hnone⟩
    · cases hstep
  | cleanup k works =>
    dsimp only [step] at hstep
    split at hstep
    · rename_i value hw
      cases hstep
      refine ⟨hstaged.other none (fun k' hk => ?_) (fun _ hw' => by cases hw'), ?_, hnone⟩
      · cases works with
        | true => exact update_temp_other hk _ _ _
        | false => rfl
      · cases works with
        | true => exact held_temp _ _ _ _
        | false => rfl
    · cases hstep
  | remove k =>
    dsimp only [step] at hstep
    split at hstep
    · cases hstep
    · cases hstep
      refine ⟨fun k' w hw => ?_, held_path _ _ _, fun value hput => ?_⟩
      · obtain ⟨htarget, hallowed, hfile⟩ := hstaged k' w hw
        refine ⟨htarget, hallowed, fun count hcount => ?_⟩
        -- no staging file is a target
        rw [← hfile count hcount]
        exact Function.update_of_ne (L.apart _ _ _) _ _
      · rw [commits, List.mem_singleton] at hput
        cases hput
  | crash incarnation =>
    cases hstep
    exact ⟨(fun _ _ hw => by cases hw), rfl, hnone⟩

/-- **Any run.**  Each target holds what was last committed to it, or what it held before; what was
    committed was started. -/
theorem run_held {good : Disk κ π ω β → Call κ ω → Prop} {calls : List (Call κ ω)}
    (hgood : ∀ d value, good d (.start value) → allowed value)
    (hrun : Run (step L target bytes) good d calls d') (hstaged : Staged L target bytes allowed d) :
    held L d'.files =
        committed target bytes (held L d.files) (emitted (step L target bytes) commits d calls) ∧
      ∀ value, .put value ∈ emitted (step L target bytes) commits d calls → allowed value := by
  have hall := @Run.invariant_emitted _ _ _ good _ commits
    (fun log e => Staged L target bytes allowed e ∧
      held L e.files = committed target bytes (held L d.files) log ∧
      ∀ value, .put value ∈ log → allowed value)
    (fun log e call e' he hcall hstep => by
      obtain ⟨hnext, hheld, hputs⟩ :=
        step_held he.1 (fun value h => hgood e value (h ▸ hcall)) hstep
      rw [committed_append, ← he.2.1]
      refine ⟨hnext, hheld, fun value hput => ?_⟩
      rcases List.mem_append.mp hput with hput | hput
      · exact he.2.2 value hput
      · exact hputs value hput) d d' calls hrun [] ⟨hstaged, rfl, fun _ h => by cases h⟩
  exact hall.2

end AtomicReplace
