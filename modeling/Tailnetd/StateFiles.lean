/-
  The files of the state directory (`prefs.rs`, `ipn/profile.rs`, `ipn/serve.rs`).

  Everything the daemon keeps is a handful of small files that are rewritten as wholes by
  `atomic_write`: a profile's prefs and serve config, the map of the profiles, the pointer to the
  current one.  The backend's own model takes a save for one step that happens or does not; here is
  what that rests on.

  1. **Layout** — where the files and the staging files are.  The files of different profiles, and
     of different kinds, are different files, and a staging file is none of them: its name ends with
     the digits of a process id (`stateLayout`).

  2. **Program** — `atomic_write` call by call, as the library has it, and the loaders, which take
     a missing or malformed file for the default.

  3. **Result** — whatever calls fail and whenever the daemon dies, a load finds what was last
     committed, as if every save had been one step on the abstract state (`state_survives`).
-/
import Tailnetd.Lib.AtomicReplace
import Tailnetd.Lib.Radix
import Tailnetd.Lib.Utf8Text
import Tailnetd.ProfileFiles
import Tailnetd.Serve

namespace Tailnetd.StateFiles

open Machine AtomicReplace

/-! ## The layout -/

/-- An id that can be a path component. -/
abbrev ProfileId := { id : String // isValidProfileId id = true }

/-- `profile_paths`, as path components: the prefs and the node key. -/
def profilePaths (stateDir : List String) (id : String) : List String × List String :=
  if id = defaultProfileId then (stateDir ++ ["prefs.json"], stateDir ++ ["node.key.json"])
  else
    let dir := stateDir ++ ["profiles", id]
    (dir ++ ["prefs.json"], dir ++ ["node.key.json"])

/-- `config_path`. -/
def configPath (stateDir : List String) (id : String) : List String :=
  if id = defaultProfileId then stateDir ++ ["serve-config.json"]
  else stateDir ++ ["profiles", id] ++ ["serve-config.json"]

/-- `current_profile_path`. -/
def currentProfilePath (stateDir : List String) : List String := stateDir ++ ["current-profile"]

/-- `profiles_file_path`. -/
def profilesFilePath (stateDir : List String) : List String := stateDir ++ ["profiles.json"]

/-- The files that `atomic_write` writes. -/
inductive StateFile where
  | prefs (id : ProfileId)
  | serveConfig (id : ProfileId)
  | currentProfile
  | profiles
  deriving DecidableEq

/-- Where a file is. -/
def StateFile.path (stateDir : List String) : StateFile → List String
  | prefs id => (profilePaths stateDir id).1
  | serveConfig id => configPath stateDir id
  | currentProfile => currentProfilePath stateDir
  | profiles => profilesFilePath stateDir

/-- The staging file of `atomic_write`: beside the file, with the process id behind its name. -/
def tempPath (pid : Nat) (path : List String) : List String :=
  path.dropLast ++ [path.getLastD "" ++ ".tmp." ++ toString pid]

/-! ### What keeps the files apart -/

namespace StateFile

/-- The name of a file. -/
def name : StateFile → String
  | prefs _ => "prefs.json"
  | serveConfig _ => "serve-config.json"
  | currentProfile => "current-profile"
  | profiles => "profiles.json"

/-- The directory of a profile. -/
def profileDir (stateDir : List String) (id : String) : List String :=
  if id = defaultProfileId then stateDir else stateDir ++ ["profiles", id]

/-- The directory of a file. -/
def dir (stateDir : List String) : StateFile → List String
  | prefs id => profileDir stateDir id
  | serveConfig id => profileDir stateDir id
  | currentProfile => stateDir
  | profiles => stateDir

theorem path_eq (stateDir : List String) (k : StateFile) :
    k.path stateDir = k.dir stateDir ++ [k.name] := by
  cases k with
  | prefs id =>
    dsimp only [path, profilePaths, dir, profileDir]
    split
    · rfl
    · rfl
  | serveConfig id =>
    dsimp only [path, configPath, dir, profileDir]
    split
    · rfl
    · rfl
  | currentProfile => rfl
  | profiles => rfl

theorem tempPath_eq (stateDir : List String) (pid : Nat) (k : StateFile) :
    tempPath pid (k.path stateDir) =
      k.dir stateDir ++ [k.name ++ ".tmp." ++ toString pid] := by
  unfold tempPath
  rw [path_eq, List.dropLast_concat, List.getLastD_concat]

/-- Two profiles have different directories. -/
theorem profileDir_injective {stateDir : List String} {id id' : String}
    (h : profileDir stateDir id = profileDir stateDir id') : id = id' := by
  unfold profileDir at h
  split at h <;> split at h
  · rename_i hid hid'
    rw [hid, hid']
  · simp at h
  · simp at h
  · simpa using h

theorem path_injective (stateDir : List String) :
    Function.Injective (StateFile.path stateDir) := by
  intro k k' h
  rw [path_eq, path_eq] at h
  obtain ⟨hdir, hname⟩ := List.append_inj' h rfl
  have hname : k.name = k'.name := List.head_eq_of_cons_eq hname
  cases k with
  | prefs id =>
    cases k' with
    | prefs id' => rw [Subtype.ext (profileDir_injective hdir)]
    | serveConfig _ | currentProfile | profiles => simp [name] at hname
  | serveConfig id =>
    cases k' with
    | serveConfig id' => rw [Subtype.ext (profileDir_injective hdir)]
    | prefs _ | currentProfile | profiles => simp [name] at hname
  | currentProfile =>
    cases k' with
    | currentProfile => rfl
    | prefs _ | serveConfig _ | profiles => simp [name] at hname
  | profiles =>
    cases k' with
    | profiles => rfl
    | prefs _ | serveConfig _ | currentProfile => simp [name] at hname

/-- A name of a file does not end with a digit. -/
theorem name_getLast (k : StateFile) : k.name.toList.getLast? = some 'n' ∨
    k.name.toList.getLast? = some 'e' := by
  cases k with
  | prefs _ | serveConfig _ | profiles => exact .inl (by simp [name])
  | currentProfile => exact .inr (by simp [name])

/-- The name of a staging file does. -/
theorem tempName_getLast (name : String) (pid : Nat) :
    ∃ c, (name ++ ".tmp." ++ toString pid).toList.getLast? = some c ∧
      '0' ≤ c ∧ c ≤ '9' := by
  obtain ⟨c, hc⟩ : ∃ c, (Nat.toDigits 10 pid).getLast? = some c :=
    ⟨_, List.getLast?_eq_some_getLast Nat.toDigits_ne_nil⟩
  refine ⟨c, ?_, Radix.digit_of_mem_toDigits (List.mem_of_getLast? hc)⟩
  rw [String.toList_append, Radix.toList_toString,
    List.getLast?_append_of_ne_nil _ Nat.toDigits_ne_nil, hc]

end StateFile

/-- **The layout of the state directory.** -/
def stateLayout (stateDir : List String) : Layout StateFile (List String) where
  path := StateFile.path stateDir
  temp pid k := tempPath pid (k.path stateDir)
  path_injective := StateFile.path_injective stateDir
  temp_injective pid k k' h := by
    dsimp only at h
    rw [StateFile.tempPath_eq, StateFile.tempPath_eq] at h
    obtain ⟨hdir, hname⟩ := List.append_inj' h rfl
    have hname : k.name ++ ".tmp." ++ toString pid = k'.name ++ ".tmp." ++ toString pid :=
      List.head_eq_of_cons_eq hname
    refine StateFile.path_injective stateDir ?_
    rw [StateFile.path_eq, StateFile.path_eq, hdir,
      (String.append_left_inj _).mp ((String.append_left_inj _).mp hname)]
  apart pid k k' h := by
    rw [StateFile.tempPath_eq, StateFile.path_eq] at h
    obtain ⟨-, hname⟩ := List.append_inj' h rfl
    obtain ⟨c, hlast, hlow, hhigh⟩ := StateFile.tempName_getLast k.name pid
    rw [List.head_eq_of_cons_eq hname] at hlast
    -- a staging file's name ends in a digit, that of a state file in a letter
    rcases k'.name_getLast with h | h <;> rw [h] at hlast <;> cases hlast
    · exact absurd hhigh (by decide)
    · exact absurd hhigh (by decide)

/-! ## The program -/

/-- A type that `serde_json` writes and reads. -/
structure Codec (α : Type) where
  toVecPretty : α → List UInt8
  fromSlice : List UInt8 → Option α

/-- The types of the state directory, as `serde_json` has them. -/
structure Serde where
  prefs : Codec Prefs
  serveConfig : Codec ServeConfig
  profiles : Codec (List (String × String))

/-- What is handed to `atomic_write`: by `Prefs::save`, `serve::save`, `save_current_profile` and
    `save_profiles_file`. -/
inductive Save where
  | prefs (id : ProfileId) (prefs : Prefs)
  | serveConfig (id : ProfileId) (cfg : ServeConfig)
  | currentProfile (id : ProfileId)
  | profiles (profiles : List (String × String))

/-- The file of a save. -/
def Save.file : Save → StateFile
  | prefs id _ => .prefs id
  | serveConfig id _ => .serveConfig id
  | currentProfile _ => .currentProfile
  | profiles _ => .profiles

/-- The bytes of a save. -/
def Save.bytes (J : Serde) : Save → List UInt8
  | prefs _ p => J.prefs.toVecPretty p
  | serveConfig _ cfg => J.serveConfig.toVecPretty cfg
  | currentProfile id => id.val.toUTF8.data.toList
  | profiles ps => J.profiles.toVecPretty ps

/-- One call of a save, of a removal, or a crash: `atomic_write` and `remove_file`. -/
def atomicWrite (J : Serde) (stateDir : List String) :
    AtomicReplace.Disk StateFile (List String) Save UInt8 → Call StateFile Save →
      Option (AtomicReplace.Disk StateFile (List String) Save UInt8) :=
  step (stateLayout stateDir) Save.file (Save.bytes J)

/-- `Prefs::load`, of a file that is there or is not. -/
def loadPrefs (J : Serde) (file : Option (List UInt8)) : Prefs :=
  (file.bind J.prefs.fromSlice).getD Prefs.default

/-- `serve::load`. -/
def loadServeConfig (J : Serde) (file : Option (List UInt8)) : ServeConfig :=
  (file.bind J.serveConfig.fromSlice).getD {}

/-- `load_profiles_file`. -/
def loadProfilesFile (J : Serde) (file : Option (List UInt8)) : List (String × String) :=
  (file.bind J.profiles.fromSlice).getD []

/-- `read_to_string` and then `load_current_profile`. -/
def readCurrentProfile (file : Option (List UInt8)) : String :=
  loadCurrentProfile (file.bind fun bytes => String.fromUTF8? bytes.toByteArray)

/-! ## What the daemon finds -/

/-- The state directory as the loaders see it. -/
structure Stored where
  prefs : ProfileId → Prefs
  serveConfig : ProfileId → ServeConfig
  currentProfile : String
  profiles : List (String × String)

/-- All loaders, on the contents of the files. -/
def read (J : Serde) (contents : StateFile → Option (List UInt8)) : Stored where
  prefs id := loadPrefs J (contents (.prefs id))
  serveConfig id := loadServeConfig J (contents (.serveConfig id))
  currentProfile := readCurrentProfile (contents .currentProfile)
  profiles := loadProfilesFile J (contents .profiles)

/-- What a start of the daemon finds in a state directory. -/
def find (J : Serde) (stateDir : List String) (files : List String → Option (List UInt8)) :
    Stored :=
  read J fun k => files (k.path stateDir)

/-- A save is one step. -/
def Stored.save (s : Stored) : Save → Stored
  | .prefs id p => { s with prefs := Function.update s.prefs id p }
  | .serveConfig id cfg => { s with serveConfig := Function.update s.serveConfig id cfg }
  | .currentProfile id => { s with currentProfile := id.val }
  | .profiles ps => { s with profiles := ps }

/-- So is the removal of a file. -/
def Stored.forget (s : Stored) : StateFile → Stored
  | .prefs id => { s with prefs := Function.update s.prefs id Prefs.default }
  | .serveConfig id => { s with serveConfig := Function.update s.serveConfig id {} }
  | .currentProfile => { s with currentProfile := defaultProfileId }
  | .profiles => { s with profiles := [] }

/-- What a save or a removal that went through does to the state. -/
def Stored.apply (s : Stored) : Commit StateFile Save → Stored
  | .put save => s.save save
  | .gone k => s.forget k

/-- `serde_json` reads back what it wrote. -/
def Save.RoundTrips (J : Serde) : Save → Prop
  | prefs _ p => J.prefs.fromSlice (J.prefs.toVecPretty p) = some p
  | serveConfig _ cfg => J.serveConfig.fromSlice (J.serveConfig.toVecPretty cfg) = some cfg
  | currentProfile _ => True
  | profiles ps => J.profiles.fromSlice (J.profiles.toVecPretty ps) = some ps

/-- The saves of a run can be read back. -/
def Saves (J : Serde) (_ : AtomicReplace.Disk StateFile (List String) Save UInt8)
    (call : Call StateFile Save) : Prop :=
  ∀ save, call = .start save → save.RoundTrips J

variable {J : Serde}

/-- The pointer is read back as the id that was written. -/
theorem readCurrentProfile_toUTF8 (id : ProfileId) :
    readCurrentProfile (some id.val.toUTF8.data.toList) = id.val := by
  have htext : String.fromUTF8? id.val.toUTF8.data.toList.toByteArray = some id.val :=
    Utf8Text.fromUTF8?_eq_some_iff.mpr rfl
  rw [readCurrentProfile, Option.bind_some, htext, loadCurrentProfile_some id.property]

/-- The loader of one file is run again. -/
def Stored.reload (J : Serde) (content : Option (List UInt8)) (s : Stored) : StateFile → Stored
  | .prefs id => { s with prefs := Function.update s.prefs id (loadPrefs J content) }
  | .serveConfig id =>
    { s with serveConfig := Function.update s.serveConfig id (loadServeConfig J content) }
  | .currentProfile => { s with currentProfile := readCurrentProfile content }
  | .profiles => { s with profiles := loadProfilesFile J content }

/-- The files of one kind, one of them replaced. -/
theorem load_update {α : Type} (load : Option (List UInt8) → α) {kind : ProfileId → StateFile}
    (hkind : kind.Injective) (contents : StateFile → Option (List UInt8)) (id : ProfileId)
    (content : Option (List UInt8)) :
    (fun id' => load (Function.update contents (kind id) content (kind id'))) =
      Function.update (fun id' => load (contents (kind id'))) id (load content) := by
  funext id'
  by_cases hid : id' = id
  · rw [hid, Function.update_self, Function.update_self]
  · rw [Function.update_of_ne (hkind.ne hid), Function.update_of_ne hid]

/-- Other files are read as before. -/
theorem read_update (J : Serde) (contents : StateFile → Option (List UInt8)) (k : StateFile)
    (content : Option (List UInt8)) :
    read J (Function.update contents k content) = (read J contents).reload J content k := by
  cases k with
  | prefs id =>
    have hprefs := @load_update _ (loadPrefs J) .prefs (fun _ _ h => by cases h; rfl) contents id
      content
    simp only [read, Stored.reload, hprefs, ne_eq, reduceCtorEq, not_false_eq_true,
      Function.update_of_ne]
  | serveConfig id =>
    have hserve := @load_update _ (loadServeConfig J) .serveConfig (fun _ _ h => by cases h; rfl)
      contents id content
    simp only [read, Stored.reload, hserve, ne_eq, reduceCtorEq, not_false_eq_true,
      Function.update_of_ne]
  | currentProfile => simp [read, Stored.reload]
  | profiles => simp [read, Stored.reload]

/-- **One commit** is one step for the loaders. -/
theorem read_apply (contents : StateFile → Option (List UInt8)) {commit : Commit StateFile Save}
    (h : ∀ save, commit = .put save → save.RoundTrips J) :
    read J (commit.apply Save.file (Save.bytes J) contents) = (read J contents).apply commit := by
  cases commit with
  | gone k =>
    rw [Commit.apply, read_update]
    cases k <;> rfl
  | put save =>
    rw [Commit.apply, read_update]
    cases save with
    | prefs id p =>
      have hload : loadPrefs J (some (J.prefs.toVecPretty p)) = p :=
        congrArg (Option.getD · Prefs.default) (h _ rfl)
      simp only [Save.file, Save.bytes, Stored.reload, Stored.apply, Stored.save, hload]
    | serveConfig id cfg =>
      have hload : loadServeConfig J (some (J.serveConfig.toVecPretty cfg)) = cfg :=
        congrArg (Option.getD · ({} : ServeConfig)) (h _ rfl)
      simp only [Save.file, Save.bytes, Stored.reload, Stored.apply, Stored.save, hload]
    | currentProfile id =>
      simp only [Save.file, Save.bytes, Stored.reload, Stored.apply, Stored.save,
        readCurrentProfile_toUTF8]
    | profiles ps =>
      have hload : loadProfilesFile J (some (J.profiles.toVecPretty ps)) = ps :=
        congrArg (Option.getD · []) (h _ rfl)
      simp only [Save.file, Save.bytes, Stored.reload, Stored.apply, Stored.save, hload]

theorem read_committed (log : List (Commit StateFile Save)) :
    ∀ contents : StateFile → Option (List UInt8),
      (∀ save, .put save ∈ log → save.RoundTrips J) →
      read J (committed Save.file (Save.bytes J) contents log) =
        log.foldl Stored.apply (read J contents) := by
  induction log with
  | nil => exact fun _ _ => rfl
  | cons commit log ih =>
    intro contents h
    rw [List.foldl_cons,
      ← read_apply contents fun save hsave => h save (hsave ▸ List.mem_cons_self)]
    exact ih _ fun save hsave => h save (List.mem_cons_of_mem _ hsave)

/-- **What was saved is there.**  Whatever calls fail, however the writes of different files
    overlap and wherever the daemon dies, the loaders find what the saves and removals that went
    through have made of what was there before, each of them as one step: never a part of a file,
    and nothing of a save that failed or was cut off. -/
theorem state_survives {stateDir : List String}
    {d d' : AtomicReplace.Disk StateFile (List String) Save UInt8}
    {calls : List (Call StateFile Save)}
    (hrun : Run (atomicWrite J stateDir) (Saves J) d calls d')
    (hquiet : ∀ k, d.writers k = none) :
    find J stateDir d'.files =
      (emitted (atomicWrite J stateDir) commits d calls).foldl Stored.apply
        (find J stateDir d.files) := by
  have hstaged : Staged (stateLayout stateDir) Save.file (Save.bytes J) (Save.RoundTrips J) d := by
    intro k w hw
    rw [hquiet k] at hw
    cases hw
  obtain ⟨hheld, hputs⟩ := run_held (fun _ save hgood => hgood save rfl) hrun hstaged
  exact (congrArg (read J) hheld).trans (read_committed _ _ hputs)

/-- One profile beside the default one, and its `profiles.json`. -/
def workProfiles : List (String × String) := [("work", "Work tailnet")]

def workProfilesJson : List UInt8 :=
  ("\x7b\n  \"profiles\": \x7b\n    \"work\": \x7b\n      \"name\": \"Work tailnet\"\n    \x7d\n" ++
    "  \x7d\n\x7d").toUTF8.data.toList

/-- A `serde_json` for that file. -/
def workSerde : Serde where
  prefs := ⟨fun _ => [], fun _ => none⟩
  serveConfig := ⟨fun _ => [], fun _ => none⟩
  profiles :=
    { toVecPretty := fun ps => if ps = workProfiles then workProfilesJson else []
      fromSlice := fun bytes => if bytes = workProfilesJson then some workProfiles else none }

/-- A state directory that is new. -/
def emptyDisk : AtomicReplace.Disk StateFile (List String) Save UInt8 where
  files _ := none
  writers _ := none
  incarnation := 41

/-- A profile is added, and the daemon dies while it switches to it. -/
def cutOff : List (Call StateFile Save) :=
  [.start (.profiles workProfiles), .create .profiles true, .append .profiles 20,
    .start (.currentProfile ⟨"work", by decide⟩), .create .currentProfile true,
    .append .currentProfile 4, .append .profiles workProfilesJson.length,
    .rename .profiles true, .crash 42]

theorem state_survives_cut_off :
    ∃ d', follow (atomicWrite workSerde ["tailscale"]) emptyDisk cutOff = some d' ∧
      find workSerde ["tailscale"] d'.files =
        (find workSerde ["tailscale"] emptyDisk.files).save (.profiles workProfiles) := by
  have hgood : ∀ call ∈ cutOff, ∀ d, Saves workSerde d call := by
    intro call hcall d save hsave
    subst hsave
    simp only [cutOff, List.mem_cons, Call.start.injEq, reduceCtorEq, List.not_mem_nil, or_false,
      false_or] at hcall
    rcases hcall with rfl | rfl
    · rfl
    · trivial
  obtain ⟨d', hd'⟩ :
      ∃ d', follow (atomicWrite workSerde ["tailscale"]) emptyDisk cutOff = some d' := ⟨_, rfl⟩
  have hlog : emitted (atomicWrite workSerde ["tailscale"]) commits emptyDisk cutOff =
      [.put (.profiles workProfiles)] := rfl
  have hfound := state_survives (run_of_follow hgood hd') fun _ => rfl
  rw [hlog] at hfound
  exact ⟨d', hd', hfound⟩

end Tailnetd.StateFiles
