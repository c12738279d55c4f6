/-
  The checks a request passes before a preference is written, and the host they ask about.

  `Host` collects what is fixed for the process: the operating system and its knobs, the cargo
  features, the effective user, and the two parsers of third-party crates whose text formats the
  daemon accepts (`ipnet` for CIDR prefixes, `url` for the control server).  A refusal carries the
  message the operator reads.

  * `calcAdvertiseRoutes` — the advertised-route set (`routes.rs`): every entry parses and is
    masked, a 4via6 prefix decodes, and a default route is advertised in both families or neither.
  * `completeAndValidateAdvertiseTags` — the `tag:` completion and Go's `CheckTag`.
  * `resolveExitNodeArg` — a named exit node against the netmap.
  * `canRunTailscaleSsh`, `checkAutoUpdatePref`, `kernelTunPrivilege` — the host's own verdicts.
-/
import Mathlib.Data.List.Sort
import Tailnetd.Prefs
import Tailnetd.IpAddr
import Tailnetd.Text

namespace Tailnetd

/-! ## The host -/

/-- `url::Url`, as far as the daemon looks: its scheme, and the normalised text that identifies
    the server. -/
structure Url where
  scheme : String
  text : String
  deriving DecidableEq, Repr

/-- What is fixed for the process. -/
structure Host where
  /-- `std::env::consts::OS`. -/
  os : String
  /-- `TS_DISABLE_SSH_SERVER`. -/
  disableSshServer : Option String
  euid : Nat
  /-- The cargo features the daemon was built with. -/
  featureSsh : Bool
  featureTun : Bool
  /-- `auto_update_refusal`: why this installation can never replace its own binary, if so. -/
  autoUpdateRefusal : Option String
  /-- `default_tun_name`. -/
  defaultTunName : Option String
  /-- `Config::default_from_env().control_server_url`. -/
  envControlServer : Url
  /-- `str::parse::<ipnet::IpNet>`. -/
  parseIpNet : String → Option IpNet
  /-- `url::Url::parse`. -/
  parseUrl : String → Option Url

/-! ## The advertised-route set -/

/-- `VIA_RANGE_PREFIX`, `fd7a:115c:a1e0:b1a::/64`, as groups. -/
def viaRangePrefix : List Nat := [0xfd7a, 0x115c, 0xa1e0, 0x0b1a]

/-- `all_ipv4`. -/
def allIpv4 : IpNet := ⟨.v4 [0, 0, 0, 0], 0⟩

/-- `all_ipv6`. -/
def allIpv6 : IpNet := ⟨.v6 [0, 0, 0, 0, 0, 0, 0, 0], 0⟩

/-- `is_via_prefix`. -/
def isViaPrefix (p : IpNet) : Bool :=
  match p.addr with
  | .v6 groups => groups.take 4 == viaRangePrefix
  | .v4 _ => false

/-- A number as eight lower-case hexadecimal digits. -/
def hex8 (n : Nat) : String :=
  let digits := Nat.toDigits 16 n
  String.ofList (List.replicate (8 - digits.length) '0' ++ digits)

/-- `validate_via_prefix`: at least a `/96`, and a site id of `0xffff` at most. -/
def validateViaPrefix (p : IpNet) : Except String Unit :=
  if !isViaPrefix p then .error (p.toText ++ " is not a 4-in-6 prefix")
  else if p.prefixLen < 96 then
    .error (p.toText ++ " 4-in-6 prefix must be at least a /96")
  else
    match p.addr with
    | .v4 _ => .error (p.toText ++ " is not a 4-in-6 prefix")
    | .v6 groups =>
      let siteId := groups.getD 4 0 * 65536 + groups.getD 5 0
      if 0xffff < siteId then
        .error ("route " ++ p.toText ++ " contains invalid site ID " ++ hex8 siteId ++
          "; must be 0xffff or less")
      else .ok ()

/-- `RouteError`. -/
inductive RouteError where
  | unparsable (route : String)
  | nonMasked (route masked : IpNet)
  | via (message : String)
  | loneDefault (have_ want : IpNet)
  deriving DecidableEq, Repr

/-- `refused_by_go_config_path`. -/
def RouteError.refusedByGoConfigPath : RouteError → Bool
  | .nonMasked _ _ => true
  | .unparsable _ => true
  | .loneDefault _ _ => false
  | .via _ => false

/-- `Display` of a route error. -/
def RouteError.toText : RouteError → String
  | .unparsable route => quoted route ++ " is not a valid IP address or CIDR prefix"
  | .nonMasked route masked =>
    "route " ++ route.toText ++ " has non-address bits set; expected " ++ masked.toText
  | .via message => message
  | .loneDefault have_ want =>
    let family := match want.addr with | .v6 _ => "IPv6" | .v4 _ => "IPv4"
    have_.toText ++ " advertised without its " ++ family ++
      " counterpart, please also advertise " ++ want.toText

/-- The verdict on one entry: the prefix it contributes to the set, or its refusal. -/
def checkRoute (H : Host) (s : String) : Except RouteError IpNet :=
  match H.parseIpNet s with
  | none => .error (.unparsable s)
  | some net =>
    if net.trunc ≠ net then .error (.nonMasked net net.trunc)
    else if isViaPrefix net then
      match validateViaPrefix net with
      | .error message => .error (.via message)
      | .ok () => .ok net
    else .ok net

/-- The refusals and the accepted prefixes of a list of entries, in order. -/
def checkRoutes (H : Host) : List String → List RouteError × List IpNet
  | [] => ([], [])
  | s :: rest =>
    let (errors, set) := checkRoutes H rest
    match checkRoute H s with
    | .error e => (e :: errors, set)
    | .ok net => (errors, net :: set)

/-- The order of the set: by prefix length, then by address. -/
def IpNet.before (a b : IpNet) : Prop :=
  a.prefixLen < b.prefixLen ∨ (a.prefixLen = b.prefixLen ∧ a.addr.le b.addr = true)

instance : DecidableRel IpNet.before := fun a b => by unfold IpNet.before; infer_instance

/-- `calc_advertise_routes`: the set of prefixes this node would advertise, or every reason it may
    not. -/
def calcAdvertiseRoutes (H : Host) (routes : List String) (advertiseExitNode : Bool) :
    Except (List RouteError) (List IpNet) :=
  let (errors, set) := checkRoutes H routes
  -- `--advertise-exit-node` is the two default routes
  let set := if advertiseExitNode then set ++ [allIpv4, allIpv6] else set
  let default4 := decide (allIpv4 ∈ set)
  let default6 := decide (allIpv6 ∈ set)
  let errors :=
    if default4 = default6 then errors
    else if default4 then errors ++ [.loneDefault allIpv4 allIpv6]
    else errors ++ [.loneDefault allIpv6 allIpv4]
  if errors.isEmpty then .ok ((set.insertionSort IpNet.before).destutter (· ≠ ·))
  else .error errors

/-- `validate_advertise_routes`: the refusal lists every offender, one a line. -/
def validateAdvertiseRoutes (H : Host) (routes : List String) (advertiseExitNode : Bool) :
    Except String Unit :=
  match calcAdvertiseRoutes H routes advertiseExitNode with
  | .ok _ => .ok ()
  | .error errors => .error (joinLines (errors.map RouteError.toText))

/-- `prospective_route_set`: the set a request leaves behind, composed from what it names and from
    the stored prefs — or the defaults, under `--reset`. -/
def prospectiveRouteSet (namedRoutes : Option (List String)) (namedExit : Option Bool)
    (current : Prefs) (reset : Bool) : List String × Bool :=
  let base := if reset then Prefs.default else current
  (namedRoutes.getD base.advertiseRoutes, namedExit.getD base.advertiseExitNode)

/-! ## Tags -/

/-- One tag, completed and checked. -/
def completeAndValidateTag (t : String) : Except String String :=
  let t := if t.toList.contains ':' then t else "tag:" ++ t
  match stripPrefix "tag:" t with
  | none => .error ("tag: " ++ quoted t ++ ": tags must start with 'tag:'")
  | some name =>
    match name.toList with
    | [] => .error ("tag: " ++ quoted t ++ ": tag names must not be empty")
    | first :: _ =>
      if !isAsciiAlphabetic first then
        .error ("tag: " ++ quoted t ++ ": tag names must start with a letter, after 'tag:'")
      else if name.toList.any fun c => !isAsciiAlphanumeric c && c != '-' then
        .error ("tag: " ++ quoted t ++
          ": tag names can only contain numbers, letters, or dashes")
      else .ok t

/-- `complete_and_validate_advertise_tags`: the completed list, or the first refusal. -/
def completeAndValidateAdvertiseTags : List String → Except String (List String)
  | [] => .ok []
  | t :: ts =>
    match completeAndValidateTag t with
    | .error e => .error e
    | .ok t =>
      match completeAndValidateAdvertiseTags ts with
      | .error e => .error e
      | .ok ts => .ok (t :: ts)

/-! ## A named exit node -/

/-- `PeerReport`, as far as the resolution reads it. -/
structure PeerReport where
  name : String
  ipv4 : String
  ipv6 : Option String
  isExitNode : Bool
  deriving DecidableEq, Repr

/-- `ExitNodeFacts`: the netmap view a named exit node is resolved against. -/
structure ExitNodeFacts where
  running : Bool := false
  selfIps : List IpAddr := []
  magicDnsSuffix : Option String := none
  peers : List PeerReport := []
  deriving DecidableEq, Repr

/-- `validate_exit_node_selector`: the `auto:` form is refused by name. -/
def validateExitNodeSelector (sel : String) : Except String Unit :=
  if startsWith "auto:" sel then
    .error ("exit node " ++ quoted sel ++ ": automatic exit-node selection (`auto:`…) is not " ++
      "supported by this build — pass a concrete exit node by tailnet IP, MagicDNS name, or " ++
      "stable node ID")
  else .ok ()

/-- `peer_matches_exit_node_name`: by FQDN or base name, whatever the case or the root dot. -/
def peerMatchesExitNodeName (peer : PeerReport) (arg : String) (suffix : Option String) : Bool :=
  let want := (dropRootDot arg).toList
  let fqdn := (dropRootDot peer.name).toList
  if eqIgnoreAsciiCase want fqdn then true
  else
    match suffix with
    | none => false
    | some suffix =>
      let suffix := (dropRootDot suffix).toList
      if fqdn.length < suffix.length + 1 then false
      else
        let base := fqdn.take (fqdn.length - (suffix.length + 1))
        let tail := fqdn.drop (fqdn.length - (suffix.length + 1))
        !base.isEmpty && tail.head? == some '.' && eqIgnoreAsciiCase tail.tail suffix &&
          eqIgnoreAsciiCase want base

/-- `peer_tailnet_ips`: IPv4 then IPv6, blanks skipped. -/
def peerTailnetIps (peer : PeerReport) : List IpAddr :=
  ([some peer.ipv4, peer.ipv6].filterMap id).filterMap readIpAddr

/-- `exit_node_local_ip_error`. -/
def exitNodeLocalIpError (arg : String) : String :=
  "cannot use " ++ arg ++ " as an exit node as it is a local IP address to this machine; " ++
    "did you mean --advertise-exit-node?"

/-- The match loop of the name branch: how many peers answer, and the last one's address. -/
def matchExitNodeName (arg : String) (suffix : Option String) :
    List PeerReport → Nat → Option IpAddr → Except String (Nat × Option IpAddr)
  | [], matched, resolved => .ok (matched, resolved)
  | peer :: peers, matched, resolved =>
    if !peerMatchesExitNodeName peer arg suffix then
      matchExitNodeName arg suffix peers matched resolved
    else
      match (peerTailnetIps peer).head? with
      | none => .error ("node " ++ quoted arg ++ " has no Tailscale IP?")
      | some ip =>
        if !peer.isExitNode then
          .error ("node " ++ quoted arg ++ " is not advertising an exit node")
        else matchExitNodeName arg suffix peers (matched + 1) (some ip)

/-- `resolve_exit_node_arg`. -/
def resolveExitNodeArg (arg : String) (facts : ExitNodeFacts) : Except String Unit :=
  if arg.isEmpty then
    .error ("--exit-node was given an empty value; pass a tailnet IP address or a peer name, " ++
      "or clear the exit node instead")
  else
    match readIpAddr arg with
    | some ip =>
      if facts.selfIps.contains ip then .error (exitNodeLocalIpError arg)
      else if !facts.running then .ok ()
      else
        match facts.peers.find? fun p => (peerTailnetIps p).contains ip with
        | none => .error ("no node found in netmap with IP " ++ ip.toText)
        | some p =>
          if p.isExitNode then .ok ()
          else .error ("node " ++ ip.toText ++ " is not advertising an exit node")
    | none =>
      if facts.peers.isEmpty then
        .error ("cannot resolve exit node by hostname while Tailscale is starting up; please " ++
          "use its Tailscale IP address instead")
      else
        match matchExitNodeName arg facts.magicDnsSuffix facts.peers 0 none with
        | .error e => .error e
        | .ok (0, _) =>
          .error ("invalid value " ++ quoted arg ++ " for --exit-node; must be IP or peer hostname")
        | .ok (1, resolved) =>
          if resolved.any facts.selfIps.contains then .error (exitNodeLocalIpError arg) else .ok ()
        | .ok (_, _) => .error ("ambiguous exit node name " ++ quoted arg)

/-- `check_exit_node_arg`. -/
def checkExitNodeArg (sel : String) (facts : ExitNodeFacts) : Except String Unit :=
  match validateExitNodeSelector sel with
  | .error e => .error e
  | .ok () => resolveExitNodeArg sel facts

/-! ## The host's verdicts -/

/-- `parse_go_bool`. -/
def parseGoBool (v : String) : Option Bool :=
  if ["1", "t", "T", "TRUE", "true", "True"].contains v then some true
  else if ["0", "f", "F", "FALSE", "false", "False"].contains v then some false
  else none

/-- `can_sshd`: an unreadable knob counts as set. -/
def canSshd : Option String → Bool
  | none => true
  | some v => if v.isEmpty then true else (parseGoBool v).any fun disabled => !disabled

/-- `can_run_tailscale_ssh`. -/
def canRunTailscaleSsh (H : Host) : Except String Unit :=
  if !(["linux", "macos", "freebsd", "openbsd", "plan9"].contains H.os) then
    .error ("The Tailscale SSH server is not supported on " ++ H.os)
  else if !canSshd H.disableSshServer then
    .error "The Tailscale SSH server has been administratively disabled."
  else .ok ()

/-- `prospective_ssh`. -/
def prospectiveSsh (named : Option Bool) (current : Prefs) (reset : Bool) : Bool :=
  named.getD (if reset then Prefs.default else current).sshEnabled

/-- `check_ssh_prefs_gated`: asked of the prefs the edit would leave behind. -/
def checkSshPrefs (H : Host) (named : Option Bool) (current : Prefs) (reset : Bool) :
    Except String Unit :=
  if prospectiveSsh named current reset then canRunTailscaleSsh H else .ok ()

/-- `goos`. -/
def goos (H : Host) : String := if H.os = "macos" then "darwin" else H.os

/-- `kernel_tun_privilege`: only macOS is judged by the user id. -/
def kernelTunPrivilege (goos : String) (euid : Nat) : Except String Unit :=
  if goos = "darwin" ∧ euid ≠ 0 then
    .error ("creating a kernel TUN interface on macOS requires root; use sudo tailnetd (or use " ++
      "--tun=userspace-networking)")
  else .ok ()

/-- `REMEDY_CLI`. -/
def remedyCli : String := "Decline it (`--no-auto-update`) or leave it unstated"

/-- `REMEDY_CONFIG`. -/
def remedyConfig : String :=
  "Decline it (`\"AutoUpdate\": \x7b\"Apply\": false\x7d`) or omit the `AutoUpdate` key"

/-- `check_auto_update_pref`: an opt-in this installation could never honour is refused. -/
def checkAutoUpdatePref (apply : Option Bool) (hostRefusal : Option String) (remedy : String) :
    Option String :=
  if apply ≠ some true then none
  else
    hostRefusal.map fun reason =>
      reason ++ ". Enabling auto-update would advertise `Hostinfo.AllowsUpdate` to the tailnet " ++
        "— a promise that a remote update trigger is honoured — which this node cannot keep. " ++
        remedy

end Tailnetd
