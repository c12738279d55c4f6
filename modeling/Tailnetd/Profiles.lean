/-
  Profiles (`ipn/profile.rs` and the profile operations of `ipn/mod.rs`) and the daemon's start.

  A profile is a directory addressed by its id; `profiles.json` gives the listed ones a display
  name, and the `current-profile` pointer survives a restart.  `activateProfile` is the one way to
  change the current profile: it tears down and supersedes first, does every fallible disk access
  next, and commits the in-memory swap last.  `resetToEmptyProfile` empties the current profile in
  place, for a login that starts on a profile that never logged in.
-/
import Tailnetd.Operations

namespace Tailnetd

/-! ## Profile ids -/

/-- `is_valid_profile_id`: usable as a single path component. -/
def isValidProfileId (id : String) : Bool :=
  !id.isEmpty && id.length ≤ 64 &&
    id.toList.all fun c => isAsciiAlphanumeric c || c == '-' || c == '_'

/-- `resolve_target_to_id`: by id first, then by the first display name that matches. -/
def resolveTargetToId (target : String) (profiles : List (String × String)) : Option String :=
  if isValidProfileId target &&
      (target == defaultProfileId || (profileName profiles target).isSome) then some target
  else (profiles.find? fun entry => entry.2 == target && isValidProfileId entry.1).map (·.1)

/-- `no_profile_named`. -/
def noProfileNamed (target : String) : String := "No profile named " ++ quoted target

/-- A byte as two lower-case hexadecimal digits. -/
def hexByte (n : UInt8) : String :=
  String.ofList [Nat.digitChar (n.toNat / 16), Nat.digitChar (n.toNat % 16)]

/-- `unused_profile_id`: up to `tries` draws of two random bytes, until an id is free. -/
def unusedProfileId (profiles : List (String × String)) (draw : Nat → Option (UInt8 × UInt8)) :
    Nat → Except Failure (Option String)
  | 0 => .ok none
  | tries + 1 =>
    match draw tries with
    | none => .error (.io "reading OS randomness for a new profile id")
    | some (hi, lo) =>
      let id := hexByte hi ++ hexByte lo
      if (resolveTargetToId id profiles).isNone then .ok (some id)
      else unusedProfileId profiles draw tries

/-- `load_current_profile`: an absent or unusable pointer means the default profile. -/
def loadCurrentProfile (pointer : Option String) : String :=
  match pointer with
  | none => defaultProfileId
  | some s => if isValidProfileId (trim s) then trim s else defaultProfileId

/-- `SwitchOutcome`. -/
inductive SwitchOutcome where
  | switched (id : String) (state : State)
  | alreadyCurrent (id : String)
  deriving DecidableEq, Repr

/-- `DeleteOutcome`. -/
inductive DeleteOutcome where
  | removed (id : String)
  | alreadyCurrent (id : String)
  deriving DecidableEq, Repr

namespace Backend

/-! ## Changing the current profile -/

/-- The in-memory swap of `activate_profile`, once every disk access succeeded. -/
def adoptProfile (E : Env) (b : Backend) (target : String) (prefs : Prefs)
    (everConfigured hasNodeKey : Bool) : Backend :=
  let b := { b with
    prefs := prefs
    everConfigured := everConfigured
    currentProfile := target
    bootAttemptedUp := false
    hasNodeKey := hasNodeKey }
  let b := b.resetAlwaysOnOverride
  let b := b.resetExitNodePolicyOverride
  b.reconcileSysPolicy E

/-- List the target in `profiles.json`, keeping a name it has. -/
def listProfile (b : Backend) (target : String) (register : Bool) (io : Io) : Outcome Unit :=
  if register && target != defaultProfileId then
    if !io.saveProfiles then (.error (.io "persisting profiles.json"), b)
    else
      let profiles := b.disk.loadProfiles io
      (.ok (), b.setProfiles
        (setProfileName target ((profileName profiles target).getD "") profiles))
  else (.ok (), b)

/-- `save_current_profile`. -/
def savePointer (b : Backend) (target : String) (io : Io) : Outcome Unit :=
  if !io.savePointer then (.error (.io "persisting current-profile pointer"), b)
  else (.ok (), { b with disk := { b.disk with currentProfile := some target } })

/-- The fallible writes of `activate_profile`: list the target, then move the pointer. -/
def recordActivation (b : Backend) (target : String) (register : Bool) (io : Io) : Outcome Unit :=
  match b.listProfile target register io with
  | (.error e, b) => (.error e, b)
  | (.ok (), b) => b.savePointer target io

/-- `activate_profile`. -/
def activateProfile (E : Env) (b : Backend) (target : String) (register : Bool) (io : Io) :
    Outcome SwitchOutcome :=
  if target = b.currentProfile then (.ok (.alreadyCurrent target), b)
  else
    let b := b.stopDevice.bumpGeneration
    let everConfigured := io.statPrefs && (b.disk.prefsFile target).isSome
    let hasNodeKey := io.readKey && keyFileHasNodeKey (b.disk.keyFile target)
    if !io.loadPrefs then (.error (.io "loading prefs"), b)
    else
      let prefs := (b.disk.prefsFile target).getD Prefs.default
      match b.recordActivation target register io with
      | (.error e, b) => (.error e, b)
      | (.ok (), b) =>
        let b := b.adoptProfile E target prefs everConfigured hasNodeKey
        (.ok (.switched b.currentProfile b.deriveState), b)

/-- `switch_profile`: the target must be a known profile. -/
def switchProfile (E : Env) (b : Backend) (target : String) (io : Io) : Outcome SwitchOutcome :=
  match resolveTargetToId target (b.disk.loadProfiles io) with
  | none => (.error (.refused (noProfileNamed target)), b)
  | some id => b.activateProfile E id true io

/-- `create_profile`: the id must be usable and free. -/
def createProfile (E : Env) (b : Backend) (id : String) (io : Io) : Outcome SwitchOutcome :=
  if !isValidProfileId id then
    (.error (.refused (quoted id ++
      " is not a usable profile id (letters, digits, '-' or '_'; 1-64 characters)")), b)
  else
    match resolveTargetToId id (b.disk.loadProfiles io) with
    | some existing =>
      (.error (.refused ("profile " ++ quoted existing ++
        " already exists; switch to it without --new")), b)
    | none => b.activateProfile E id true io

/-- `remove_profile_files`: the prefs file, then the key file. -/
def removeProfileFiles (b : Backend) (id : String) (io : Io) : Outcome Unit :=
  if !io.removePrefs then (.error (.io "removing prefs"), b)
  else
    let b := { b with
      disk := { b.disk with prefsFile := Function.update b.disk.prefsFile id none } }
    if !io.removeKey then (.error (.io "removing key"), b)
    else
      (.ok (), { b with
        disk := { b.disk with keyFile := Function.update b.disk.keyFile id none } })

/-- What `reset_to_empty_profile` leaves in memory once the prefs file is gone. -/
def emptyProfile (E : Env) (b : Backend) : Backend :=
  let b := { b with prefs := Prefs.default, everConfigured := false, bootAttemptedUp := false }
  let b := b.resetAlwaysOnOverride
  let b := b.resetExitNodePolicyOverride
  let b := b.reconcileSysPolicy E
  { b with prefsTicks := b.prefsTicks + 1 }

/-- `reset_to_empty_profile`: the current profile, which never logged in, starts over. -/
def resetToEmptyProfile (E : Env) (b : Backend) (io : Io) : Outcome SwitchOutcome :=
  let profiles := b.disk.loadProfiles io
  let named := (profileName profiles b.currentProfile).any fun name => !name.isEmpty
  if !b.everConfigured && !named && b.device.isNone then
    (.ok (.alreadyCurrent b.currentProfile), b)
  else
    let b := b.stopDevice.bumpGeneration
    if named && !io.saveProfiles then (.error (.io "persisting profiles.json"), b)
    else
      let b := if named then b.setProfiles (setProfileName b.currentProfile "" profiles) else b
      if !io.removePrefs then (.error (.io "removing prefs"), b)
      else
        let b := (b.setPrefsFile none).emptyProfile E
        (.ok (.switched b.currentProfile b.deriveState), b)

/-- `switch_to_empty_profile`: reset in place before the first login, else move to a fresh id. -/
def switchToEmptyProfile (E : Env) (b : Backend) (draw : Nat → Option (UInt8 × UInt8)) (io : Io) :
    Outcome SwitchOutcome :=
  if !b.prefs.hasLoggedIn then b.resetToEmptyProfile E io
  else
    let profiles := b.disk.loadProfiles io
    -- the current profile is taken even when it is not listed
    let taken := setProfileName b.currentProfile
      ((profileName profiles b.currentProfile).getD "") profiles
    match unusedProfileId taken draw 256 with
    | .error e => (.error e, b)
    | .ok none => (.error (.refused "could not find an unused profile id"), b)
    | .ok (some id) =>
      match b.removeProfileFiles id io with
      | (.error e, b) => (.error e, b)
      | (.ok (), b) => b.activateProfile E id false io

/-- `delete_profile`. -/
def deleteProfile (b : Backend) (target : String) (io : Io) : Outcome DeleteOutcome :=
  match resolveTargetToId target (b.disk.loadProfiles io) with
  | none => (.error (.refused (noProfileNamed target)), b)
  | some id =>
    if id = b.currentProfile then (.ok (.alreadyCurrent id), b)
    else if id = defaultProfileId then
      (.error (.refused "the default profile cannot be removed"), b)
    else
      match b.removeProfileFiles id io with
      | (.error e, b) => (.error e, b)
      | (.ok (), b) =>
        let profiles := b.disk.loadProfiles io
        if (profileName profiles id).isNone then (.ok (.removed id), b)
        else if !io.saveProfiles then (.error (.io "persisting profiles.json after delete"), b)
        else
          (.ok (.removed id), b.setProfiles (profiles.filter fun entry => entry.1 != id))

/-! ## Starting -/

/-- `load`: the current profile's prefs, reconciled in memory, with nothing running. -/
def load (E : Env) (disk : Disk) (io : Io) : Except Failure Backend :=
  let current := loadCurrentProfile (disk.readPointer io)
  if !io.loadPrefs then .error (.io "loading prefs")
  else
    .ok
      (Backend.reconcileSysPolicy E
        { prefs := (disk.prefsFile current).getD Prefs.default
          currentProfile := current
          configSource := none
          listenPort := none
          device := none
          sshTask := false
          everConfigured := io.statPrefs && (disk.prefsFile current).isSome
          generation := 0
          bootAttemptedUp := false
          prefsTicks := 0
          hasNodeKey := io.readKey && keyFileHasNodeKey (disk.keyFile current)
          overrideAlwaysOn := false
          reconnect := none
          reconnectSeq := 0
          alwaysOnKeys := alwaysOnKeysIn E.settings
          overrideExitNodePolicy := false
          exitNodeKeys := exitNodeKeysIn E.settings
          disk := disk })

end Backend

end Tailnetd
