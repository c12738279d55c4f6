/-
  The serve configuration (`ipn/serve.rs`, with the wire types of `localapi.rs`).

  A profile's serve config says which tailnet ports the node answers on: a plain TCP forward is the
  daemon's own accept loop, a web port or a TLS-terminated forward goes to the engine, and a port
  with Funnel on is published to the internet.  The keys stay the texts they were sent as, and every
  reader parses the port out of them, so that several keys can name one port.

  The engine is not part of the repository: `ServeEngine` takes its error type and its check of one
  port (`serve_plan`) as parameters.
-/
import Mathlib.Data.Finset.Basic
import Mathlib.Data.Finset.Dedup
import Mathlib.Data.String.Basic
import Tailnetd.Lib.SortedMap
import Tailnetd.Text

namespace Tailnetd

/-! ## Ports -/

instance portOrder : LinearOrder UInt16 where
  le_refl := UInt16.le_refl
  le_trans := fun _ _ _ => UInt16.le_trans
  le_antisymm := fun _ _ => UInt16.le_antisymm
  le_total := UInt16.le_total
  lt_iff_le_not_ge := fun a b => by
    rw [UInt16.le_iff_toNat_le, UInt16.le_iff_toNat_le, UInt16.lt_iff_toNat_lt]
    omega
  toDecidableLE := inferInstance

/-- The value of a list of decimal digits. -/
def decimalValue (digits : List Char) : Option Nat :=
  digits.foldlM
    (fun n c => if '0' ≤ c ∧ c ≤ '9' then some (10 * n + (c.toNat - '0'.toNat)) else none) 0

/-- `str::parse::<u16>`: one sign at most, then digits; leading zeros are fine. -/
def parseU16 (text : String) : Option UInt16 :=
  let digits :=
    match text.toList with
    | '+' :: rest => rest
    | chars => chars
  if digits.isEmpty then none
  else
    match decimalValue digits with
    | none => none
    | some n => if n < 65536 then some (UInt16.ofNat n) else none

/-- `rsplit_once`: what stands before and after the last separator. -/
def rsplitOnce (sep : Char) (text : String) : Option (String × String) :=
  let back := text.toList.reverse
  match back.dropWhile (· != sep) with
  | [] => none
  | _ :: front => some (String.ofList front.reverse, String.ofList (back.takeWhile (· != sep)).reverse)

/-- `trim_end_matches('.')`. -/
def trimEndDots (text : String) : String :=
  String.ofList (text.toList.reverse.dropWhile (· == '.')).reverse

/-- `char::is_control`. -/
def isControl (c : Char) : Bool := c.toNat < 32 || (127 ≤ c.toNat && c.toNat < 160)

/-! ## The wire types -/

/-- `RedirectSpec`. -/
structure RedirectSpec where
  /-- The `to` of the source. -/
  target : String
  status : UInt16
  deriving DecidableEq

/-- `WebMount`: one handler of the legacy shape at a path prefix. -/
inductive WebMount where
  | proxy (target : String)
  | text (body : String)
  | redirect (target : String) (status : UInt16)
  deriving DecidableEq

/-- `TcpPortHandler`; `text`, `redirect` and `mounts` are the legacy bodies. -/
structure TcpPortHandler where
  https : Bool := false
  http : Bool := false
  tcpForward : String := ""
  terminateTls : String := ""
  proxyProtocol : Int32 := 0
  text : Option String := none
  redirect : Option RedirectSpec := none
  mounts : SortedMap String WebMount := .empty
  deriving DecidableEq

/-- `HttpHandler`. -/
structure HttpHandler where
  path : String := ""
  proxy : String := ""
  text : String := ""
  redirect : String := ""
  deriving DecidableEq

/-- `WebServerConfig`. -/
structure WebServerConfig where
  handlers : SortedMap String HttpHandler := .empty
  deriving DecidableEq

/-- `ServeConfig`: `tcp` by port, `allowFunnel` and `web` by `host:port`. -/
structure ServeConfig where
  tcp : SortedMap String TcpPortHandler := .empty
  allowFunnel : SortedMap String Bool := .empty
  web : SortedMap String WebServerConfig := .empty
  deriving DecidableEq

/-! ## Which lane a handler belongs to -/

/-- `is_web_serve`: the handler carries a legacy web body. -/
def isWebServe (h : TcpPortHandler) : Bool :=
  ((h.https || h.http) && !h.tcpForward.isEmpty) || h.text.isSome || h.redirect.isSome ||
    !h.mounts.isEmpty

/-- `is_plain_tcp_forward`: a forward the daemon serves itself. -/
def isPlainTcpForward (h : TcpPortHandler) : Bool :=
  !h.tcpForward.isEmpty && !h.https && !h.http && h.terminateTls.isEmpty

/-- `funnel_ports`: the ports of the `host:port` keys that are on. -/
def funnelPorts (cfg : ServeConfig) : Finset UInt16 :=
  ((((cfg.allowFunnel.entries.filter fun entry => entry.2).filterMap fun entry =>
    (rsplitOnce ':' entry.1).bind fun hostPort => parseU16 hostPort.2).filter (· != 0))).toFinset

/-! ## The engine's config -/

/-- The engine's `HTTPHandler`. -/
structure EngineHandler where
  path : String := ""
  proxy : String := ""
  text : String := ""
  redirect : String := ""
  deriving DecidableEq

/-- The engine's `TCPPortHandler`. -/
structure EngineTcpHandler where
  https : Bool := false
  http : Bool := false
  tcpForward : String := ""
  terminateTls : String := ""
  proxyProtocol : Int := 0
  deriving DecidableEq

/-- The engine's `ServeState`: handlers by port, and web handlers by `host:port` and mount. -/
structure ServeState where
  tcp : SortedMap UInt16 EngineTcpHandler := .empty
  web : SortedMap String (SortedMap String EngineHandler) := .empty

/-- The engine's side of a serve config: its errors, and its check of a config. -/
structure ServeEngine where
  Error : Type
  decEq : DecidableEq Error
  /-- `ServeConfigError::Invalid`. -/
  invalid : String → Error
  /-- An error as it is displayed. -/
  text : Error → String
  /-- `ServeState::serve_plan`, without the plan. -/
  servePlan : ServeState → Except Error Unit

/-- `HostPort::new`. -/
def hostPort (host : String) (port : UInt16) : String := host ++ ":" ++ toString port.toNat

variable (G : ServeEngine)

/-- `check_redirect_target`: no control character reaches the `Location` header. -/
def checkRedirectTarget (target : String) : Except G.Error Unit :=
  if target.toList.any isControl then
    .error (G.invalid "serve redirect target must not contain control characters")
  else .ok ()

/-- `engine_http_handler`. -/
def engineHttpHandler (h : HttpHandler) : Except G.Error EngineHandler := do
  if !h.redirect.isEmpty then checkRedirectTarget G h.redirect
  return { path := h.path, proxy := h.proxy, text := h.text, redirect := h.redirect }

/-- A redirect of the legacy shape. -/
def legacyRedirect (target : String) (status : UInt16) : Except G.Error EngineHandler := do
  if !(300 ≤ status && status ≤ 399) then
    throw (G.invalid ("serve redirect status " ++ toString status.toNat ++ " is not in 300..=399"))
  checkRedirectTarget G target
  return { redirect := toString status.toNat ++ ":" ++ target }

/-- One mount of the legacy shape. -/
def legacyMount : WebMount → Except G.Error EngineHandler
  | .proxy target => .ok { proxy := target }
  | .text body => .ok { text := body }
  | .redirect target status => legacyRedirect G target status

/-- `legacy_web_handlers`: mounts, else a text, else a redirect, else a proxy. -/
def legacyWebHandlers (h : TcpPortHandler) : Except G.Error (SortedMap String EngineHandler) :=
  if !h.mounts.isEmpty then h.mounts.traverse (legacyMount G)
  else
    match h.text, h.redirect with
    | some body, _ => .ok (SortedMap.empty.insert "/" { text := body })
    | none, some r => (legacyRedirect G r.target r.status).map (SortedMap.empty.insert "/")
    | none, none =>
      if (h.https || h.http) && !h.tcpForward.isEmpty then
        .ok (SortedMap.empty.insert "/" { proxy := h.tcpForward })
      else .ok .empty

/-- `engine_port`: the engine's config for one port, `none` when it is on no lane of the engine. -/
def enginePort (cfg : ServeConfig) (host : String) (port : UInt16) (h : TcpPortHandler) :
    Except G.Error (Option ServeState) :=
  if isPlainTcpForward h then .ok none
  else if !h.terminateTls.isEmpty && !h.https && !h.http then
    .ok (some
      { tcp := SortedMap.empty.insert port
          { tcpForward := h.tcpForward
            terminateTls := h.terminateTls
            proxyProtocol := h.proxyProtocol.toInt } })
  else if !(h.https || h.http || isWebServe h) then .ok none
  else
    -- a legacy body without a flag was served TLS-terminated, and stays so
    let tcp := SortedMap.empty.insert port
      { https := h.https || !h.http, http := h.http && !h.https }
    let handlers :=
      match cfg.web.get? (hostPort host port) with
      | some wsc => wsc.handlers.traverse (engineHttpHandler G)
      | none => legacyWebHandlers G h
    handlers.map fun handlers =>
      some
        { tcp := tcp
          web :=
            if handlers.isEmpty then .empty
            else SortedMap.empty.insert (hostPort host port) handlers }

/-- `RefusedPort`. -/
structure RefusedPort where
  port : UInt16
  error : G.Error

instance : DecidableEq (RefusedPort G) := fun a b =>
  have := G.decEq
  decidable_of_iff (a.port = b.port ∧ a.error = b.error) <| by
    cases a
    cases b
    simp

/-- `EngineServe`: what the engine is given, and the ports it refuses. -/
structure EngineServe where
  state : ServeState := {}
  refused : List (RefusedPort G) := []

/-- One key of the TCP map, as `build_web_serve_state` goes through them. -/
def armPort (cfg : ServeConfig) (host : String) (out : EngineServe G)
    (entry : String × TcpPortHandler) : EngineServe G :=
  match parseU16 entry.1 with
  | none => out
  | some port =>
    let checked := do
      match ← enginePort G cfg host port entry.2 with
      | some one =>
        G.servePlan one
        return some one
      | none => return none
    match checked with
    | .ok (some one) =>
      { out with
        state := { tcp := out.state.tcp.extend one.tcp, web := out.state.web.extend one.web } }
    | .ok none => out
    | .error error => { out with refused := out.refused ++ [⟨port, error⟩] }

/-- `build_web_serve_state`. -/
def buildWebServeState (cfg : ServeConfig) (name : String) : EngineServe G :=
  cfg.tcp.entries.foldl (armPort G cfg (trimEndDots name)) {}

/-- The refusals as one message. -/
def refusalMessage (refused : List (RefusedPort G)) : Option String :=
  if refused.isEmpty then none
  else
    let ports := refused.map fun r => "port " ++ toString r.port.toNat ++ ": " ++ G.text r.error
    some ("unable to serve " ++ "; ".intercalate ports)

/-! ## Replacing a config -/

/-- `ServeType`. -/
inductive ServeType where
  | https | http | tcp | tlsTerminatedTcp | unknown
  deriving DecidableEq

/-- A serve type as it is displayed. -/
def ServeType.text : ServeType → String
  | .https => "https"
  | .http => "http"
  | .tcp => "tcp"
  | .tlsTerminatedTcp => "tls-terminated-tcp"
  | .unknown => "unknownServeType"

/-- `serve_type`. -/
def serveType (h : TcpPortHandler) : ServeType :=
  if h.http then .http
  else if h.https then .https
  else if !h.terminateTls.isEmpty then .tlsTerminatedTcp
  else if !h.tcpForward.isEmpty then .tcp
  -- a legacy body without a flag
  else if h.text.isSome || h.redirect.isSome || !h.mounts.isEmpty then .https
  else .unknown

/-- The conflict of one incoming handler with those its port has already, under any key. -/
def portConflict (existing : ServeConfig) (entry : String × TcpPortHandler) : Option String :=
  match parseU16 entry.1 with
  | none => none
  | some port =>
    let incomingType := serveType entry.2
    (existing.tcp.entries.find? fun other =>
        parseU16 other.1 == some port && incomingType != serveType other.2).map fun other =>
      "want to serve \"" ++ incomingType.text ++ "\", but port " ++ toString port.toNat ++
        " is already serving \"" ++ (serveType other.2).text ++ "\""

/-- `validate_serve_config_update`: the first conflict in the order of the incoming keys. -/
def validateServeConfigUpdate (existing incoming : ServeConfig) : Except String Unit :=
  match incoming.tcp.entries.findSome? (portConflict existing) with
  | some conflict => .error conflict
  | none => .ok ()

/-! ## The file -/

/-- What a profile's `serve-config.json` holds. -/
inductive ServeFile where
  | config (cfg : ServeConfig)
  | malformed

/-- `load`: a missing, unreadable or malformed file is an empty config. -/
def loadServe (file : Option ServeFile) (readable : Bool) : ServeConfig :=
  match readable, file with
  | true, some (.config cfg) => cfg
  | _, _ => {}

end Tailnetd
