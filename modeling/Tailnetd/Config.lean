/-
  Building the engine's construction config from the prefs (`ipn/config.rs`).

  `buildConfig` is the single seam where the reconfigurable intent becomes the engine's immutable
  `Config`: it loads the node key (creating and writing a fresh one when the file is missing),
  copies the prefs over, and runs the checks that only make sense on the finished intent — the
  CIDR parse, the control URL, the TUN and the SSH preflights.  The key load comes first, so a
  refused config may leave a fresh key file behind.

  A `Failure` says why an operation returned an error: `refused` for a reason that depends on
  requested values, stored prefs or the host, `io` for the file system.
-/
import Tailnetd.Checks

namespace Tailnetd

/-! ## The engine's config -/

/-- `tailscale::ExitNodeSelector`. -/
inductive ExitNodeSelector where
  | ip (addr : IpAddr)
  | name (text : String)
  deriving DecidableEq, Repr

/-- `str::parse::<ExitNodeSelector>`: a bare IP is an address, anything else a name; total. -/
def ExitNodeSelector.parse (s : String) : ExitNodeSelector :=
  match readIpAddr s with
  | some addr => .ip addr
  | none => .name s

/-- `tailscale::TransportMode`. -/
inductive TransportMode where
  | netstack
  | tun (name : Option String) (mtu : Option UInt16)
  deriving DecidableEq, Repr

/-- `WifCreds`: the workload-identity credentials of one operator `up`. -/
structure WifCreds where
  clientId : Option String
  clientSecret : Option String
  idToken : Option String
  audience : Option String
  deriving DecidableEq, Repr

/-- The node key material of a key file. -/
abbrev KeyState := Nat

/-- `tailscale::Config`: what one engine is constructed with. -/
structure Config where
  keyState : KeyState
  requestedHostname : Option String
  ephemeral : Bool
  acceptRoutes : Bool
  acceptDns : Bool
  blockIncoming : Bool
  exitNode : Option ExitNodeSelector
  advertiseExitNode : Bool
  advertiseRoutes : List IpNet
  requestedTags : List String
  advertiseAppConnector : Bool
  autoUpdateApply : Option Bool
  autoUpdateCheck : Bool
  operatorUser : Option String
  nodeNickname : Option String
  postureChecking : Bool
  runWebClient : Bool
  exitNodeAllowLanAccess : Bool
  controlServerUrl : Url
  allowHttpKeyFetch : Bool
  transportMode : TransportMode
  taildropDir : Option String
  wireguardListenPort : Option UInt16
  /-- The credential fields `WifCreds::apply_to_config` writes. -/
  wif : Option WifCreds
  deriving DecidableEq, Repr

/-- `apply_to_config`. -/
def WifCreds.applyToConfig (wif : WifCreds) (c : Config) : Config := { c with wif := some wif }

/-! ## Errors and the key file -/

/-- Why an operation returned an error. -/
inductive Failure where
  /-- A refusal that depends on requested values, stored prefs or the host only. -/
  | refused (message : String)
  /-- A file-system failure. -/
  | io (message : String)
  deriving DecidableEq, Repr

/-- Lift a check's refusal. -/
def refuseWith {α : Type} : Except String α → Except Failure α
  | .ok a => .ok a
  | .error message => .error (.refused message)

/-- The content of a node key file. -/
inductive KeyFile where
  | key (state : KeyState)
  | malformed
  deriving DecidableEq, Repr

/-- How the key load goes: whether its file accesses succeed, and the key a fresh file gets. -/
structure KeyIo where
  ok : Bool := true
  fresh : KeyState := 0
  deriving DecidableEq, Repr

/-- `load_key_file`: the stored key, or a fresh one written to a missing file. -/
def loadKeyFile (file : Option KeyFile) (io : KeyIo) :
    Except Failure KeyState × Option KeyFile :=
  if !io.ok then (.error (.io "load key file"), file)
  else
    match file with
    | none => (.ok io.fresh, some (.key io.fresh))
    | some (.key state) => (.ok state, file)
    | some .malformed => (.error (.io "load key file"), file)

/-! ## The checks on the finished intent -/

/-- The advertised routes, parsed; the first malformed one fails. -/
def parseAdvertiseRoutes (H : Host) : List String → Except String (List IpNet)
  | [] => .ok []
  | s :: rest =>
    match H.parseIpNet s with
    | none => .error ("invalid advertise route " ++ quoted s)
    | some net =>
      match parseAdvertiseRoutes H rest with
      | .error e => .error e
      | .ok nets => .ok (net :: nets)

/-- The control server: an explicit URL must parse and be http or https, otherwise the
    environment's. -/
def controlServer (H : Host) (controlUrl : Option String) : Except String Url :=
  match controlUrl with
  | none => .ok H.envControlServer
  | some s =>
    match H.parseUrl s with
    | none => .error ("invalid control_url " ++ quoted s)
    | some url =>
      if url.scheme = "http" ∨ url.scheme = "https" then .ok url
      else .error ("invalid control_url " ++ quoted s ++ ": scheme " ++ quoted url.scheme ++
        " is not http or https")

/-- Whether the key fetch may use plain http: exactly for an explicit http control URL. -/
def allowHttpKeyFetch (controlUrl : Option String) (server : Url) : Bool :=
  controlUrl.isSome && server.scheme == "http"

/-- The data path: TUN needs the feature and, on macOS, root. -/
def transportMode (H : Host) (p : Prefs) : Except String TransportMode :=
  if !p.tunEnabled then .ok .netstack
  else if !H.featureTun then
    .error ("TUN mode requested (tun_enabled) but this daemon was built without the `tun` " ++
      "feature; rebuild with `cargo build --features tun` (and run as root) to use it")
  else
    match kernelTunPrivilege (goos H) H.euid with
    | .error e => .error ("TUN mode requested (tun_enabled) but " ++ e)
    | .ok () => .ok (.tun (p.tunName.or H.defaultTunName) p.tunMtu)

/-- The SSH preflight: the host's gate, the feature, and root. -/
def sshPreflight (H : Host) (p : Prefs) : Except String Unit :=
  if !p.sshEnabled then .ok ()
  else
    match canRunTailscaleSsh H with
    | .error e => .error e
    | .ok () =>
      if !H.featureSsh then
        .error ("SSH requested (ssh_enabled) but this daemon was built without the `ssh` " ++
          "feature; rebuild with `cargo build --features ssh` (and run as root) to use it")
      else if H.euid ≠ 0 then
        .error ("Tailscale SSH server requires root to drop privileges to the policy-mapped " ++
          "local user, but the daemon is not running as root. Run tailnetd as root (the " ++
          "packaged systemd/launchd units do) to use --ssh")
      else .ok ()

/-- The config of a loaded key: the prefs copied over, after their checks in the source's order. -/
def configOf (H : Host) (p : Prefs) (listenPort : Option UInt16) (key : KeyState) :
    Except String Config :=
  match parseAdvertiseRoutes H p.advertiseRoutes with
  | .error e => .error e
  | .ok routes =>
    match controlServer H p.controlUrl with
    | .error e => .error e
    | .ok server =>
      match transportMode H p with
      | .error e => .error e
      | .ok transport =>
        match sshPreflight H p with
        | .error e => .error e
        | .ok () =>
          .ok
            { keyState := key
              requestedHostname := p.hostname
              ephemeral := p.ephemeral
              acceptRoutes := p.acceptRoutes
              acceptDns := p.acceptDns
              blockIncoming := p.shieldsUp
              exitNode := p.exitNode.map ExitNodeSelector.parse
              advertiseExitNode := p.advertiseExitNode
              advertiseRoutes := routes
              requestedTags := p.advertiseTags
              advertiseAppConnector := p.advertiseAppConnector
              autoUpdateApply := p.autoUpdateApply
              autoUpdateCheck := p.autoUpdateCheck
              operatorUser := p.operatorUser
              nodeNickname := p.nodeNickname
              postureChecking := p.postureChecking
              runWebClient := p.runWebClient
              exitNodeAllowLanAccess := p.exitNodeAllowLanAccess
              controlServerUrl := server
              allowHttpKeyFetch := allowHttpKeyFetch p.controlUrl server
              transportMode := transport
              taildropDir := p.taildropDir
              wireguardListenPort := listenPort
              wif := none }

/-- `build_config`: load the key, then check and copy the prefs.  Returns the key file as it is
    afterwards. -/
def buildConfig (H : Host) (p : Prefs) (listenPort : Option UInt16) (file : Option KeyFile)
    (io : KeyIo) : Except Failure Config × Option KeyFile :=
  match loadKeyFile file io with
  | (.error e, file) => (.error e, file)
  | (.ok key, file) => (refuseWith (configOf H p listenPort key), file)

/-- Whether the prefs pass every check `build_config` makes on them and on the host. -/
def buildChecks (H : Host) (p : Prefs) : Bool :=
  (parseAdvertiseRoutes H p.advertiseRoutes).isOk && (controlServer H p.controlUrl).isOk &&
  (transportMode H p).isOk && (sshPreflight H p).isOk

/-- The checks do not depend on the key or on the listen port. -/
theorem configOf_isOk (H : Host) (p : Prefs) (listenPort : Option UInt16) (key : KeyState) :
    (configOf H p listenPort key).isOk = buildChecks H p := by
  unfold configOf buildChecks
  cases parseAdvertiseRoutes H p.advertiseRoutes with
  | error e => rfl
  | ok routes =>
    cases controlServer H p.controlUrl with
    | error e => rfl
    | ok server =>
      cases transportMode H p with
      | error e => rfl
      | ok transport =>
        cases sshPreflight H p with
        | error e => rfl
        | ok u => rfl

end Tailnetd
