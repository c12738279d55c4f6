/-
  The flags of `tnet up` and `tnet set` (`tnet.rs`).

  A preference that can be switched is declared as two switches, `--flag` and `--no-flag`; a list
  has a `--clear-` switch beside it; a text is cleared by an empty value.  Each command folds them
  into the request the daemon takes, where an absent flag leaves its preference alone.

  * `upFlags`, `setFlags` — what the two commands declare.
  * `upRequest`, `setRequest` — the requests they build from it.
  * `checkPortedUpFlags`, `upUsageRefusal`, `refusedSetFlag` — what they refuse by themselves.
-/
import Tailnetd.Checks
import Tailnetd.Serve
import Tailnetd.Lib.CommandLine

namespace Tailnetd

open CommandLine

/-! ## The declarations -/

/-- `--on` and `--off`, which exclude each other. -/
def switchPair (on off : String) : List Flag :=
  [{ long := on, action := .switch, conflicts := [off] }, { long := off, action := .switch }]

/-- `str::parse::<u64>` takes it. -/
def isU64 (text : String) : Bool :=
  let digits :=
    match text.toList with
    | '+' :: rest => rest
    | chars => chars
  !digits.isEmpty && (decimalValue digits).any (· < 2 ^ 64)

/-- The flags both commands declare for an exit node and the two lists. -/
def sharedFlags : List Flag :=
  [{ long := "exit-node", conflicts := ["clear-exit-node"] },
    { long := "clear-exit-node", action := .switch },
    { long := "advertise-routes", action := .list ',' },
    { long := "clear-advertise-routes", aliases := ["advertise-routes-clear"], action := .switch },
    { long := "advertise-tags", action := .list ',' },
    { long := "clear-advertise-tags", action := .switch }]

/-- The fields of `Command::Up`, and the global `--socket`. -/
def upFlags : List Flag :=
  [{ long := "socket" },
    { long := "authkey", aliases := ["auth-key"], conflicts := ["authkey-file"] },
    { long := "authkey-file" },
    { long := "hostname" },
    { long := "control-url", aliases := ["login-server"] }] ++
  switchPair "tun" "no-tun" ++
  [{ long := "tun-name" },
    { long := "tun-mtu", accepts := fun v => (parseU16 v).isSome }] ++
  sharedFlags ++
  switchPair "advertise-exit-node" "no-advertise-exit-node" ++
  switchPair "accept-routes" "no-accept-routes" ++
  switchPair "accept-dns" "no-accept-dns" ++
  switchPair "shields-up" "no-shields-up" ++
  switchPair "ssh" "no-ssh" ++
  [{ long := "operator" }] ++
  switchPair "exit-node-allow-lan-access" "no-exit-node-allow-lan-access" ++
  switchPair "advertise-connector" "no-advertise-connector" ++
  switchPair "report-posture" "no-report-posture" ++
  [{ long := "reset", action := .switch },
    { long := "force-reauth", action := .switch }] ++
  switchPair "ephemeral" "no-ephemeral" ++
  [{ long := "timeout", accepts := isU64 },
    { long := "accept-risk" },
    { long := "client-id" },
    { long := "client-secret" },
    { long := "id-token" },
    { long := "audience" },
    { long := "json", action := .switch },
    { long := "host-routes", action := .optional "true" },
    { long := "nickname" }]

/-- The fields of `Command::Set`, and the global `--socket`. -/
def setFlags : List Flag :=
  [{ long := "socket" }, { long := "hostname" }] ++
  switchPair "accept-routes" "no-accept-routes" ++
  switchPair "accept-dns" "no-accept-dns" ++
  switchPair "shields-up" "no-shields-up" ++
  sharedFlags ++
  switchPair "advertise-exit-node" "no-advertise-exit-node" ++
  switchPair "ssh" "no-ssh" ++
  switchPair "advertise-connector" "no-advertise-connector" ++
  switchPair "auto-update" "no-auto-update" ++
  switchPair "update-check" "no-update-check" ++
  [{ long := "operator" }, { long := "nickname" }] ++
  switchPair "report-posture" "no-report-posture" ++
  switchPair "webclient" "no-webclient" ++
  switchPair "exit-node-allow-lan-access" "no-exit-node-allow-lan-access" ++
  [{ long := "relay-server-port" },
    { long := "relay-server-static-endpoints" },
    { long := "remote-config", action := .optional "true",
      accepts := fun v => (parseGoBool v).isSome, conflicts := ["no-remote-config"] },
    { long := "no-remote-config", action := .switch },
    { long := "sync", action := .optional "true",
      accepts := fun v => (parseGoBool v).isSome, conflicts := ["no-sync"] },
    { long := "no-sync", action := .switch },
    { long := "accept-risk" }]

/-! ## The requests -/

/-- `resolve_tristate`, and the resolvers of the single pairs: enabled, disabled, or not
    mentioned. -/
def resolveTristate (on off : Bool) : Option Bool :=
  if on then some true else if off then some false else none

/-- `resolve_clearable_string`. -/
def resolveClearableString (value : Option String) : Option (Option String) :=
  value.map fun v => if v = "" then none else some v

/-- `resolve_exit_node`. -/
def resolveExitNode (set : Option String) (clear : Bool) : Option (Option String) :=
  match set with
  | some sel => some (some sel)
  | none => if clear then some none else none

/-- `resolve_list_or_clear`. -/
def resolveListOrClear (items : List String) (clear : Bool) : Option (List String) :=
  if items ≠ [] then some items else if clear then some [] else none

/-- A pair of switches, resolved. -/
def pairOf (args : Args) (on off : String) : Option Bool :=
  resolveTristate (has args on) (has args off)

/-- The `Request::Up` that `run_up` builds, as far as the daemon's options go. -/
def upRequest (args : Args) : UpOptions where
  hostname := value? args "hostname"
  controlUrl := value? args "control-url"
  tun := pairOf args "tun" "no-tun"
  tunName := value? args "tun-name"
  tunMtu := (value? args "tun-mtu").bind parseU16
  exitNode := resolveExitNode (value? args "exit-node") (has args "clear-exit-node")
  advertiseExitNode := pairOf args "advertise-exit-node" "no-advertise-exit-node"
  advertiseRoutes :=
    resolveListOrClear (values args "advertise-routes") (has args "clear-advertise-routes")
  advertiseTags :=
    resolveListOrClear (values args "advertise-tags") (has args "clear-advertise-tags")
  acceptRoutes := pairOf args "accept-routes" "no-accept-routes"
  acceptDns := pairOf args "accept-dns" "no-accept-dns"
  shieldsUp := pairOf args "shields-up" "no-shields-up"
  ssh := pairOf args "ssh" "no-ssh"
  operator := resolveClearableString (value? args "operator")
  exitNodeAllowLanAccess :=
    pairOf args "exit-node-allow-lan-access" "no-exit-node-allow-lan-access"
  advertiseConnector := pairOf args "advertise-connector" "no-advertise-connector"
  reportPosture := pairOf args "report-posture" "no-report-posture"
  reset := has args "reset"
  forceReauth := has args "force-reauth"
  ephemeral := pairOf args "ephemeral" "no-ephemeral"

/-- The `Request::Set` that `run_set` builds. -/
def setRequest (args : Args) : SetOptions where
  hostname := value? args "hostname"
  acceptRoutes := pairOf args "accept-routes" "no-accept-routes"
  acceptDns := pairOf args "accept-dns" "no-accept-dns"
  shieldsUp := pairOf args "shields-up" "no-shields-up"
  exitNode := resolveExitNode (value? args "exit-node") (has args "clear-exit-node")
  advertiseExitNode := pairOf args "advertise-exit-node" "no-advertise-exit-node"
  advertiseRoutes :=
    resolveListOrClear (values args "advertise-routes") (has args "clear-advertise-routes")
  advertiseTags :=
    resolveListOrClear (values args "advertise-tags") (has args "clear-advertise-tags")
  ssh := pairOf args "ssh" "no-ssh"
  advertiseConnector := pairOf args "advertise-connector" "no-advertise-connector"
  autoUpdate := pairOf args "auto-update" "no-auto-update"
  updateCheck := pairOf args "update-check" "no-update-check"
  operator := resolveClearableString (value? args "operator")
  nickname := resolveClearableString (value? args "nickname")
  reportPosture := pairOf args "report-posture" "no-report-posture"
  webclient := pairOf args "webclient" "no-webclient"
  exitNodeAllowLanAccess :=
    pairOf args "exit-node-allow-lan-access" "no-exit-node-allow-lan-access"

/-! ## What the commands refuse by themselves -/

/-- `check_ported_up_flags`: the flag that is refused. -/
def checkPortedUpFlags (args : Args) : Option String :=
  if (value? args "host-routes").any (· != "true") then some "host-routes"
  else if (value? args "nickname").isSome then some "nickname"
  else none

/-- `up_usage_refusal`, of the request: a blank selector and a cleared one name no exit node. -/
def upUsageRefusal (o : UpOptions) : Option String :=
  let namesExitNode :=
    match o.exitNode with
    | some (some sel) => trim sel != ""
    | _ => false
  if o.exitNodeAllowLanAccess = some true ∧ namesExitNode = false then
    some "--exit-node-allow-lan-access can only be used with --exit-node"
  else none

/-- `check_unmodelled_set_flags`: the flag that is refused.  An empty value, and the state this
    build is always in, pass; a value that does not parse is refused as well as one that does. -/
def refusedSetFlag (args : Args) : Option String :=
  if (value? args "relay-server-port").any (· != "") then some "relay-server-port"
  else if (value? args "relay-server-static-endpoints").any (· != "") then
    some "relay-server-static-endpoints"
  else if !has args "no-remote-config" &&
      (value? args "remote-config").bind parseGoBool == some true then
    some "remote-config"
  else if has args "no-sync" || (value? args "sync").bind parseGoBool == some false then
    some "sync"
  else none

/-- `tnet set`, from its words to its request. -/
def setCommand (words : List String) : Option SetOptions :=
  match parse setFlags words with
  | .error _ => none
  | .ok args => if refusedSetFlag args = none then some (setRequest args) else none

end Tailnetd
