/-
  The persisted intent of the daemon (`prefs.rs`) and the two requests that edit it.

  `Prefs` is what the node is trying to do: the daemon rebuilds the engine's immutable `Config`
  from it on every bring-up.  Two operator requests patch it — `UpOptions` (`tnet up`) and
  `SetOptions` (`tnet set`) — and both use the same sentinel: a field is `none` when the command
  did not name the preference, which leaves the stored value alone.  `exit_node`, `operator` and
  `nickname` are double options, because naming them with no value clears them.

  `up --reset` is the one wholesale replace: `resetUpManagedToDefault` first returns every
  preference an `up` flag controls to its default, and the named overrides land on top.
-/
import Mathlib.Data.List.Nodup
import Mathlib.Data.Option.Basic
import Mathlib.Logic.Function.Basic

namespace Tailnetd

/-! ## The preferences -/

/-- `Prefs`: the node's persisted preferences. -/
structure Prefs where
  /-- Whether the node should be connected. -/
  wantRunning : Bool
  /-- Whether the operator explicitly logged out (suppresses auto-start). -/
  loggedOut : Bool
  controlUrl : Option String
  hostname : Option String
  ephemeral : Bool
  acceptRoutes : Bool
  acceptDns : Bool
  shieldsUp : Bool
  /-- The raw exit-node selector: a tailnet IP or a peer name. -/
  exitNode : Option String
  advertiseExitNode : Bool
  /-- The raw CIDR strings, parsed when the engine config is built. -/
  advertiseRoutes : List String
  advertiseTags : List String
  sshEnabled : Bool
  advertiseAppConnector : Bool
  autoUpdateApply : Option Bool
  autoUpdateCheck : Bool
  operatorUser : Option String
  nodeNickname : Option String
  postureChecking : Bool
  runWebClient : Bool
  exitNodeAllowLanAccess : Bool
  taildropDir : Option String
  tunEnabled : Bool
  tunName : Option String
  tunMtu : Option UInt16
  /-- Whether this node has ever completed a registration; cleared by `logout`. -/
  hasLoggedIn : Bool
  deriving DecidableEq, Repr

/-- `Prefs::default`: down, not logged out, MagicDNS and update checks on, everything else off. -/
def Prefs.default : Prefs where
  wantRunning := false
  loggedOut := false
  controlUrl := none
  hostname := none
  ephemeral := false
  acceptRoutes := false
  acceptDns := true
  shieldsUp := false
  exitNode := none
  advertiseExitNode := false
  advertiseRoutes := []
  advertiseTags := []
  sshEnabled := false
  advertiseAppConnector := false
  autoUpdateApply := none
  autoUpdateCheck := true
  operatorUser := none
  nodeNickname := none
  postureChecking := false
  runWebClient := false
  exitNodeAllowLanAccess := false
  taildropDir := none
  tunEnabled := false
  tunName := none
  tunMtu := none
  hasLoggedIn := false

/-- `reset_up_managed_to_default`: every preference a `tnet up` flag controls goes back to its
    default.  The `set`-only preferences, the lifecycle pair, `ephemeral` and the Taildrop
    directory stay. -/
def Prefs.resetUpManagedToDefault (p : Prefs) : Prefs :=
  { p with
    controlUrl := Prefs.default.controlUrl
    hostname := Prefs.default.hostname
    acceptRoutes := Prefs.default.acceptRoutes
    acceptDns := Prefs.default.acceptDns
    shieldsUp := Prefs.default.shieldsUp
    exitNode := Prefs.default.exitNode
    advertiseExitNode := Prefs.default.advertiseExitNode
    advertiseRoutes := Prefs.default.advertiseRoutes
    advertiseTags := Prefs.default.advertiseTags
    sshEnabled := Prefs.default.sshEnabled
    operatorUser := Prefs.default.operatorUser
    exitNodeAllowLanAccess := Prefs.default.exitNodeAllowLanAccess
    advertiseAppConnector := Prefs.default.advertiseAppConnector
    postureChecking := Prefs.default.postureChecking
    tunEnabled := Prefs.default.tunEnabled
    tunName := Prefs.default.tunName
    tunMtu := Prefs.default.tunMtu }

/-- `wants_running`: the intent the daemon's own bring-ups act on. -/
def Prefs.wantsRunning (p : Prefs) : Bool := p.wantRunning && !p.loggedOut

/-! ## The requests -/

/-- `UpOptions`: the overrides of one `tnet up`. -/
structure UpOptions where
  hostname : Option String := none
  controlUrl : Option String := none
  tun : Option Bool := none
  tunName : Option String := none
  tunMtu : Option UInt16 := none
  exitNode : Option (Option String) := none
  advertiseExitNode : Option Bool := none
  advertiseRoutes : Option (List String) := none
  advertiseTags : Option (List String) := none
  acceptRoutes : Option Bool := none
  acceptDns : Option Bool := none
  shieldsUp : Option Bool := none
  ssh : Option Bool := none
  operator : Option (Option String) := none
  exitNodeAllowLanAccess : Option Bool := none
  advertiseConnector : Option Bool := none
  reportPosture : Option Bool := none
  reset : Bool := false
  forceReauth : Bool := false
  ephemeral : Option Bool := none
  deriving DecidableEq, Repr

/-- `mentions_any_pref`: a bare `up` names nothing; `reset` and `force_reauth` are not prefs. -/
def UpOptions.mentionsAnyPref (o : UpOptions) : Bool :=
  o.hostname.isSome || o.controlUrl.isSome || o.tun.isSome || o.tunName.isSome ||
  o.tunMtu.isSome || o.exitNode.isSome || o.advertiseExitNode.isSome ||
  o.advertiseRoutes.isSome || o.advertiseTags.isSome || o.acceptRoutes.isSome ||
  o.acceptDns.isSome || o.ephemeral.isSome || o.shieldsUp.isSome || o.ssh.isSome ||
  o.operator.isSome || o.exitNodeAllowLanAccess.isSome || o.advertiseConnector.isSome ||
  o.reportPosture.isSome

/-- The override block of `begin_up`: each named preference replaces the stored one. -/
def UpOptions.applyOverrides (o : UpOptions) (p : Prefs) : Prefs :=
  { p with
    hostname := o.hostname.or p.hostname
    controlUrl := o.controlUrl.or p.controlUrl
    tunEnabled := o.tun.getD p.tunEnabled
    tunName := o.tunName.or p.tunName
    tunMtu := o.tunMtu.or p.tunMtu
    exitNode := o.exitNode.getD p.exitNode
    advertiseExitNode := o.advertiseExitNode.getD p.advertiseExitNode
    advertiseRoutes := o.advertiseRoutes.getD p.advertiseRoutes
    advertiseTags := o.advertiseTags.getD p.advertiseTags
    acceptRoutes := o.acceptRoutes.getD p.acceptRoutes
    acceptDns := o.acceptDns.getD p.acceptDns
    ephemeral := o.ephemeral.getD p.ephemeral
    shieldsUp := o.shieldsUp.getD p.shieldsUp
    sshEnabled := o.ssh.getD p.sshEnabled
    operatorUser := o.operator.getD p.operatorUser
    exitNodeAllowLanAccess := o.exitNodeAllowLanAccess.getD p.exitNodeAllowLanAccess
    advertiseAppConnector := o.advertiseConnector.getD p.advertiseAppConnector
    postureChecking := o.reportPosture.getD p.postureChecking }

/-- `SetOptions`: the overrides of one `tnet set`. -/
structure SetOptions where
  hostname : Option String := none
  acceptRoutes : Option Bool := none
  acceptDns : Option Bool := none
  shieldsUp : Option Bool := none
  exitNode : Option (Option String) := none
  advertiseExitNode : Option Bool := none
  advertiseRoutes : Option (List String) := none
  advertiseTags : Option (List String) := none
  ssh : Option Bool := none
  advertiseConnector : Option Bool := none
  autoUpdate : Option Bool := none
  updateCheck : Option Bool := none
  operator : Option (Option String) := none
  nickname : Option (Option String) := none
  reportPosture : Option Bool := none
  webclient : Option Bool := none
  exitNodeAllowLanAccess : Option Bool := none
  deriving DecidableEq, Repr

/-- `needs_rebuild`: the request names a preference the engine has no live setter for. -/
def SetOptions.needsRebuild (o : SetOptions) : Bool :=
  o.shieldsUp.isSome || o.ssh.isSome || o.advertiseTags.isSome ||
  o.advertiseConnector.isSome || o.autoUpdate.isSome

/-- The override block of `begin_set`, restricted to the fields `set` accepts. -/
def SetOptions.applyOverrides (o : SetOptions) (p : Prefs) : Prefs :=
  { p with
    hostname := o.hostname.or p.hostname
    acceptRoutes := o.acceptRoutes.getD p.acceptRoutes
    acceptDns := o.acceptDns.getD p.acceptDns
    shieldsUp := o.shieldsUp.getD p.shieldsUp
    exitNode := o.exitNode.getD p.exitNode
    advertiseExitNode := o.advertiseExitNode.getD p.advertiseExitNode
    advertiseRoutes := o.advertiseRoutes.getD p.advertiseRoutes
    advertiseTags := o.advertiseTags.getD p.advertiseTags
    sshEnabled := o.ssh.getD p.sshEnabled
    advertiseAppConnector := o.advertiseConnector.getD p.advertiseAppConnector
    autoUpdateApply := o.autoUpdate.or p.autoUpdateApply
    autoUpdateCheck := o.updateCheck.getD p.autoUpdateCheck
    operatorUser := o.operator.getD p.operatorUser
    nodeNickname := o.nickname.getD p.nodeNickname
    postureChecking := o.reportPosture.getD p.postureChecking
    runWebClient := o.webclient.getD p.runWebClient
    exitNodeAllowLanAccess := o.exitNodeAllowLanAccess.getD p.exitNodeAllowLanAccess }

/-! ## Preferences by name

The system policy and the accidental-revert guard talk about preferences by name, so the record
can also be read through a name. -/

/-- The name of one field of `Prefs`. -/
inductive PrefName where
  | wantRunning | loggedOut | controlUrl | hostname | ephemeral | acceptRoutes | acceptDns
  | shieldsUp | exitNode | advertiseExitNode | advertiseRoutes | advertiseTags | ssh
  | advertiseConnector | autoUpdateApply | autoUpdateCheck | operator | nickname
  | reportPosture | webclient | exitNodeAllowLanAccess | taildropDir | tun | tunName | tunMtu
  | hasLoggedIn
  deriving DecidableEq, Repr

/-- The spelling of a preference in the revert guard's keys and in the policy's pinned list. -/
def PrefName.key : PrefName → String
  | .wantRunning => "want_running"
  | .loggedOut => "logged_out"
  | .controlUrl => "control_url"
  | .hostname => "hostname"
  | .ephemeral => "ephemeral"
  | .acceptRoutes => "accept_routes"
  | .acceptDns => "accept_dns"
  | .shieldsUp => "shields_up"
  | .exitNode => "exit_node"
  | .advertiseExitNode => "advertise_exit_node"
  | .advertiseRoutes => "advertise_routes"
  | .advertiseTags => "advertise_tags"
  | .ssh => "ssh"
  | .advertiseConnector => "advertise_connector"
  | .autoUpdateApply => "auto_update_apply"
  | .autoUpdateCheck => "auto_update_check"
  | .operator => "operator"
  | .nickname => "nickname"
  | .reportPosture => "report_posture"
  | .webclient => "webclient"
  | .exitNodeAllowLanAccess => "exit_node_allow_lan_access"
  | .taildropDir => "taildrop_dir"
  | .tun => "tun"
  | .tunName => "tun_name"
  | .tunMtu => "tun_mtu"
  | .hasLoggedIn => "has_logged_in"

/-- Every preference, once. -/
def PrefName.all : List PrefName :=
  [.wantRunning, .loggedOut, .controlUrl, .hostname, .ephemeral, .acceptRoutes, .acceptDns,
   .shieldsUp, .exitNode, .advertiseExitNode, .advertiseRoutes, .advertiseTags, .ssh,
   .advertiseConnector, .autoUpdateApply, .autoUpdateCheck, .operator, .nickname, .reportPosture,
   .webclient, .exitNodeAllowLanAccess, .taildropDir, .tun, .tunName, .tunMtu, .hasLoggedIn]

theorem PrefName.mem_all (n : PrefName) : n ∈ PrefName.all := by
  cases n <;> decide

theorem PrefName.all_keys_nodup : (PrefName.all.map PrefName.key).Nodup := by decide +kernel

/-- No two preferences share a spelling. -/
theorem PrefName.key_injective : Function.Injective PrefName.key := fun a b h =>
  List.inj_on_of_nodup_map PrefName.all_keys_nodup a.mem_all b.mem_all h

/-- The value of one preference. -/
inductive PrefValue where
  | flag (v : Bool)
  | choice (v : Option Bool)
  | text (v : Option String)
  | texts (v : List String)
  | number (v : Option UInt16)
  deriving DecidableEq, Repr

/-- Read a preference by name. -/
def Prefs.field (p : Prefs) : PrefName → PrefValue
  | .wantRunning => .flag p.wantRunning
  | .loggedOut => .flag p.loggedOut
  | .controlUrl => .text p.controlUrl
  | .hostname => .text p.hostname
  | .ephemeral => .flag p.ephemeral
  | .acceptRoutes => .flag p.acceptRoutes
  | .acceptDns => .flag p.acceptDns
  | .shieldsUp => .flag p.shieldsUp
  | .exitNode => .text p.exitNode
  | .advertiseExitNode => .flag p.advertiseExitNode
  | .advertiseRoutes => .texts p.advertiseRoutes
  | .advertiseTags => .texts p.advertiseTags
  | .ssh => .flag p.sshEnabled
  | .advertiseConnector => .flag p.advertiseAppConnector
  | .autoUpdateApply => .choice p.autoUpdateApply
  | .autoUpdateCheck => .flag p.autoUpdateCheck
  | .operator => .text p.operatorUser
  | .nickname => .text p.nodeNickname
  | .reportPosture => .flag p.postureChecking
  | .webclient => .flag p.runWebClient
  | .exitNodeAllowLanAccess => .flag p.exitNodeAllowLanAccess
  | .taildropDir => .text p.taildropDir
  | .tun => .flag p.tunEnabled
  | .tunName => .text p.tunName
  | .tunMtu => .number p.tunMtu
  | .hasLoggedIn => .flag p.hasLoggedIn

/-- Prefs that agree under every name are equal. -/
theorem Prefs.ext_field {p q : Prefs} (h : ∀ n, p.field n = q.field n) : p = q := by
  have h1 := h .wantRunning
  have h2 := h .loggedOut
  have h3 := h .controlUrl
  have h4 := h .hostname
  have h5 := h .ephemeral
  have h6 := h .acceptRoutes
  have h7 := h .acceptDns
  have h8 := h .shieldsUp
  have h9 := h .exitNode
  have h10 := h .advertiseExitNode
  have h11 := h .advertiseRoutes
  have h12 := h .advertiseTags
  have h13 := h .ssh
  have h14 := h .advertiseConnector
  have h15 := h .autoUpdateApply
  have h16 := h .autoUpdateCheck
  have h17 := h .operator
  have h18 := h .nickname
  have h19 := h .reportPosture
  have h20 := h .webclient
  have h21 := h .exitNodeAllowLanAccess
  have h22 := h .taildropDir
  have h23 := h .tun
  have h24 := h .tunName
  have h25 := h .tunMtu
  have h26 := h .hasLoggedIn
  cases p
  cases q
  simp_all [Prefs.field]

end Tailnetd
