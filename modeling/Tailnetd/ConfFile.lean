/-
  The declarative `--config` document (`conffile.rs`) and its merge over the stored prefs.

  Reading and decoding the JSON file is outside the model: a document arrives as the decoded
  `ConfigVAlpha`.  `applyToPrefs` first validates every value against the prefs it would leave
  behind, and only then writes; the registration key is resolved last, so a key file that cannot be
  read fails the merge with the preferences already written.  `applyToPrefs` therefore returns the
  prefs together with the outcome.
-/
import Tailnetd.Config

namespace Tailnetd

/-! ## The document -/

/-- `ConfigSource`: where the document is read from. -/
inductive ConfigSource where
  | file (path : String)
  | vmUserData
  deriving DecidableEq, Repr

/-- `AppConnectorPrefs`. -/
structure AppConnectorPrefs where
  advertise : Bool
  deriving DecidableEq, Repr

/-- `AutoUpdatePrefs`: a present object writes both inner values. -/
structure AutoUpdatePrefs where
  check : Bool
  apply : Option Bool
  deriving DecidableEq, Repr

/-- `ConfigVAlpha`, the fields that reach a preference or the registration. -/
structure ConfigVAlpha where
  serverUrl : Option String := none
  authKey : Option String := none
  enabled : Option Bool := none
  operatorUser : Option String := none
  hostname : Option String := none
  acceptDns : Option Bool := none
  acceptRoutes : Option Bool := none
  exitNode : Option String := none
  allowLanWhileUsingExitNode : Option Bool := none
  advertiseRoutes : Option (List String) := none
  advertiseExitNode : Option Bool := none
  appConnector : Option AppConnectorPrefs := none
  postureChecking : Option Bool := none
  runSshServer : Option Bool := none
  runWebClient : Option Bool := none
  shieldsUp : Option Bool := none
  autoUpdate : Option AutoUpdatePrefs := none
  deriving DecidableEq, Repr

/-- `load`, of a file whose reading and decoding gave `document`.  The VM user data cannot be read
    by this build. -/
def loadConfig (source : ConfigSource) (document : Except Failure ConfigVAlpha) :
    Except Failure ConfigVAlpha :=
  match source with
  | .file _ => document
  | .vmUserData =>
    .error (.io ("reading a VM's user-data (cloud instance metadata) is not supported by this " ++
      "build"))

/-! ## Validation -/

/-- `ServerURL` must parse and be http or https. -/
def checkServerUrl (H : Host) : Option String → Except String Unit
  | none => .ok ()
  | some url =>
    match H.parseUrl url with
    | none => .error ("config: invalid ServerURL " ++ quoted url)
    | some parsed =>
      if parsed.scheme = "http" ∨ parsed.scheme = "https" then .ok ()
      else .error ("config: ServerURL " ++ quoted url ++ " scheme " ++ quoted parsed.scheme ++
        " is not http or https")

/-- The route refusals in two blocks, by whose rule each reason is. -/
def routeRefusalBlocks (errors : List RouteError) : String :=
  let goRules := errors.filter RouteError.refusedByGoConfigPath
  let ourRules := errors.filter fun e => !e.refusedByGoConfigPath
  joinLines
    ((if goRules.isEmpty then []
      else ["error parsing config to prefs: " ++ joinLines (goRules.map RouteError.toText)]) ++
     (if ourRules.isEmpty then []
      else ["config: refusing the advertised route set: " ++
        joinLines (ourRules.map RouteError.toText)]))

/-- The advertised set the document would leave behind. -/
def checkConfigRoutes (H : Host) (c : ConfigVAlpha) (prefs : Prefs) : Except String Unit :=
  match calcAdvertiseRoutes H (c.advertiseRoutes.getD prefs.advertiseRoutes)
      (c.advertiseExitNode.getD prefs.advertiseExitNode) with
  | .ok _ => .ok ()
  | .error errors => .error (routeRefusalBlocks errors)

/-- The exit node may be neither blank nor the `auto:` form. -/
def checkConfigExitNode : Option String → Except String Unit
  | none => .ok ()
  | some exit =>
    if (trim exit).isEmpty then
      .error "config: exitNode must not be empty (omit the field to use no exit node)"
    else if startsWith "auto:" (trim exit) then
      .error ("config: exitNode " ++ quoted exit ++
        " uses the auto: form, which this build does not support")
    else .ok ()

/-- An auto-update opt-in the installation cannot honour. -/
def checkConfigAutoUpdate (H : Host) : Option AutoUpdatePrefs → Except String Unit
  | none => .ok ()
  | some au =>
    match checkAutoUpdatePref au.apply H.autoUpdateRefusal remedyConfig with
    | some e => .error ("config: AutoUpdate.Apply: " ++ e)
    | none => .ok ()

/-- Every check of the document, in order. -/
def ConfigVAlpha.validate (H : Host) (c : ConfigVAlpha) (prefs : Prefs) : Except String Unit :=
  match checkServerUrl H c.serverUrl with
  | .error e => .error e
  | .ok () =>
    match checkConfigRoutes H c prefs with
    | .error e => .error e
    | .ok () =>
      match checkConfigExitNode c.exitNode with
      | .error e => .error e
      | .ok () => checkConfigAutoUpdate H c.autoUpdate

/-! ## The merge -/

/-- The preferences the document declares; an absent `Enabled` means the node runs. -/
def ConfigVAlpha.merge (c : ConfigVAlpha) (p : Prefs) : Prefs :=
  { p with
    wantRunning := c.enabled.getD true
    controlUrl := c.serverUrl.or p.controlUrl
    hostname := c.hostname.or p.hostname
    acceptDns := c.acceptDns.getD p.acceptDns
    acceptRoutes := c.acceptRoutes.getD p.acceptRoutes
    exitNode := c.exitNode.or p.exitNode
    advertiseRoutes := c.advertiseRoutes.getD p.advertiseRoutes
    shieldsUp := c.shieldsUp.getD p.shieldsUp
    sshEnabled := c.runSshServer.getD p.sshEnabled
    advertiseExitNode := c.advertiseExitNode.getD p.advertiseExitNode
    operatorUser :=
      match c.operatorUser with
      | none => p.operatorUser
      | some op => if op.isEmpty then none else some op
    exitNodeAllowLanAccess := c.allowLanWhileUsingExitNode.getD p.exitNodeAllowLanAccess
    postureChecking := c.postureChecking.getD p.postureChecking
    runWebClient := c.runWebClient.getD p.runWebClient
    advertiseAppConnector :=
      match c.appConnector with
      | none => p.advertiseAppConnector
      | some app => app.advertise
    autoUpdateCheck :=
      match c.autoUpdate with
      | none => p.autoUpdateCheck
      | some au => au.check
    autoUpdateApply :=
      match c.autoUpdate with
      | none => p.autoUpdateApply
      | some au => au.apply }

/-- `resolve_auth_key`: a `file:` value is read and trimmed, anything else is the key itself.
    `contents` is what the named file holds, `none` when it cannot be read. -/
def resolveAuthKey (value : String) (contents : Option String) : Except Failure String :=
  match stripPrefix "file:" value with
  | none => .ok value
  | some path =>
    match contents with
    | none => .error (.io ("reading auth key file " ++ path))
    | some contents =>
      if (trim contents).isEmpty then .error (.io ("auth key file " ++ path ++ " is empty"))
      else .ok (trim contents)

/-- The document's registration key; an empty one is treated as absent. -/
def ConfigVAlpha.registrationKey (c : ConfigVAlpha) (contents : Option String) :
    Except Failure (Option String) :=
  match c.authKey with
  | none => .ok none
  | some k =>
    if k.isEmpty then .ok none
    else
      match resolveAuthKey k contents with
      | .ok key => .ok (some key)
      | .error e => .error e

/-- `apply_to_prefs_gated`: validate, write, then resolve the key. -/
def applyToPrefs (H : Host) (c : ConfigVAlpha) (contents : Option String) (prefs : Prefs) :
    Except Failure (Option String) × Prefs :=
  match c.validate H prefs with
  | .error e => (.error (.refused e), prefs)
  | .ok () => (c.registrationKey contents, c.merge prefs)

/-- A document refused by its validation writes nothing. -/
theorem applyToPrefs_refused {H : Host} {c : ConfigVAlpha} {contents : Option String}
    {prefs : Prefs} {e : String} (h : c.validate H prefs = .error e) :
    applyToPrefs H c contents prefs = (.error (.refused e), prefs) := by
  unfold applyToPrefs
  rw [h]

/-- A document that passes is written whole, whether or not its key resolves. -/
theorem applyToPrefs_valid {H : Host} {c : ConfigVAlpha} {contents : Option String}
    {prefs : Prefs} (h : c.validate H prefs = .ok ()) :
    applyToPrefs H c contents prefs = (c.registrationKey contents, c.merge prefs) := by
  unfold applyToPrefs
  rw [h]

/-- A merge never touches the logged-out mark, so a reload cannot undo a logout by itself. -/
theorem ConfigVAlpha.merge_loggedOut (c : ConfigVAlpha) (p : Prefs) :
    (c.merge p).loggedOut = p.loggedOut := rfl

end Tailnetd
