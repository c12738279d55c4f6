/-
  The backend a port resolves to, in the funnel lane and in the web lane (`ipn/serve.rs`).

  Funnel terminates TLS itself and splices one backend, which `web_proxy_backend` looks up; the web
  lane hands the engine a map of handlers, whose root proxy is the backend the tailnet sees.  Both
  go over the same two shapes, the legacy body on the key of the port and the `Web` map.  They
  differ in which comes first: the funnel lane asks the legacy forward before the `Web` map, and
  takes the first `Web` entry of the port whatever its host; the web lane asks the node's own `Web`
  entry first, and the legacy body only where there is none, mounts included, of the last key the
  engine accepts.
-/
import Tailnetd.Lib.Radix
import Tailnetd.ServePorts

namespace Tailnetd

variable (G : ServeEngine)

/-! ## The funnel lane -/

/-- The proxy of the root handler, if it has one. -/
def WebServerConfig.rootProxy (wsc : WebServerConfig) : Option String :=
  (wsc.handlers.get? "/").bind fun root => if root.proxy.isEmpty then none else some root.proxy

/-- The legacy backend of a port: a forward beside a web body, under the plain spelling of the
    port. -/
def legacyForward (cfg : ServeConfig) (port : UInt16) : Option String :=
  (cfg.tcp.get? (toString port.toNat)).bind fun h =>
    if isWebServe h && !h.tcpForward.isEmpty then some h.tcpForward else none

/-- The first `Web` entry of a port in the order of the keys, whatever its host. -/
def firstWebEntry (cfg : ServeConfig) (port : UInt16) : Option WebServerConfig :=
  (cfg.web.entries.find? fun entry => endsWith (":" ++ toString port.toNat) entry.1).map Prod.snd

/-- `web_proxy_backend`: the backend Funnel splices a port to. -/
def webProxyBackend (cfg : ServeConfig) (port : UInt16) : Option String :=
  match legacyForward cfg port with
  | some forward => some forward
  | none => (firstWebEntry cfg port).bind WebServerConfig.rootProxy

/-! ## The web lane -/

/-- The proxy of the root handler the engine is given. -/
def engineRoot (handlers : SortedMap String EngineHandler) : Option String :=
  (handlers.get? "/").bind fun root => if root.proxy.isEmpty then none else some root.proxy

/-- The backend the engine proxies the root of a port to. -/
def servedBackend (cfg : ServeConfig) (name : String) (port : UInt16) : Option String :=
  ((buildWebServeState G cfg name).state.web.get? (hostPort (trimEndDots name) port)).bind engineRoot

/-- The root proxy of a legacy body: the root mount, or the forward where there is no other body. -/
def legacyRoot (h : TcpPortHandler) : Option String :=
  if !h.mounts.isEmpty then
    (h.mounts.get? "/").bind fun mount =>
      match mount with
      | .proxy target => if target.isEmpty then none else some target
      | .text _ => none
      | .redirect _ _ => none
  else if h.text.isNone && h.redirect.isNone && (h.https || h.http) && !h.tcpForward.isEmpty then
    some h.tcpForward
  else none

/-- Distinct ports have distinct decimal texts. -/
theorem portText_inj {p q : UInt16} (h : toString p.toNat = toString q.toNat) : p = q := by
  have htext : Nat.toDigits 10 p.toNat = Nat.toDigits 10 q.toNat := by
    have hlist := congrArg String.toList h
    rwa [Radix.toList_toString, Radix.toList_toString] at hlist
  have hnat : p.toNat = q.toNat := by
    rw [← Nat.ofDigitChars_ten_toDigits (n := p.toNat), htext, Nat.ofDigitChars_ten_toDigits]
  exact UInt16.toNat_inj.mp hnat

/-- Distinct ports of one host have distinct `Web` keys. -/
theorem hostPort_inj {host : String} {p q : UInt16} (h : hostPort host p = hostPort host q) :
    p = q := by
  unfold hostPort at h
  exact portText_inj (String.append_right_inj _ |>.mp h)

/-- The conversion of a handler keeps its proxy. -/
theorem engineHttpHandler_proxy {h : HttpHandler} {eh : EngineHandler}
    (hok : engineHttpHandler G h = .ok eh) : eh.proxy = h.proxy := by
  unfold engineHttpHandler at hok
  by_cases hredirect : h.redirect.isEmpty = true
  · rw [hredirect] at hok
    cases hok
    rfl
  · rw [if_pos (by simpa using hredirect)] at hok
    cases hcheck : checkRedirectTarget G h.redirect with
    | error e =>
      rw [hcheck] at hok
      cases hok
    | ok u =>
      rw [hcheck] at hok
      cases hok
      rfl

/-- A `Web` entry the engine is given keeps its root proxy. -/
theorem engineRoot_web {wsc : WebServerConfig} {handlers : SortedMap String EngineHandler}
    (hok : wsc.handlers.traverse (engineHttpHandler G) = .ok handlers) :
    engineRoot handlers = wsc.rootProxy := by
  obtain ⟨hnone, hsome⟩ := SortedMap.get?_traverse hok "/"
  unfold engineRoot WebServerConfig.rootProxy
  cases hroot : wsc.handlers.get? "/" with
  | none =>
    rw [hnone hroot]
    rfl
  | some root =>
    obtain ⟨eh, heh, hget⟩ := hsome root hroot
    rw [hget]
    simp only [Option.bind_some, engineHttpHandler_proxy G heh]

/-- A redirect of the legacy shape has no proxy. -/
theorem legacyRedirect_proxy {target : String} {status : UInt16} {eh : EngineHandler}
    (hok : legacyRedirect G target status = .ok eh) : eh.proxy = "" := by
  unfold legacyRedirect at hok
  cases hstatus : (300 ≤ status && status ≤ 399 : Bool) with
  | false =>
    rw [hstatus] at hok
    cases hok
  | true =>
    rw [hstatus] at hok
    cases hcheck : checkRedirectTarget G target with
    | error e =>
      rw [hcheck] at hok
      cases hok
    | ok u =>
      rw [hcheck] at hok
      cases hok
      rfl

/-- A legacy body the engine is given keeps its root proxy. -/
theorem engineRoot_legacy {h : TcpPortHandler} {handlers : SortedMap String EngineHandler}
    (hok : legacyWebHandlers G h = .ok handlers) : engineRoot handlers = legacyRoot h := by
  have hroot (eh : EngineHandler) : engineRoot (SortedMap.empty.insert "/" eh) =
      if eh.proxy.isEmpty then none else some eh.proxy := rfl
  unfold legacyWebHandlers at hok
  unfold legacyRoot
  cases hmounts : h.mounts.isEmpty with
  | false =>
    rw [hmounts] at hok
    obtain ⟨hnone, hsome⟩ := SortedMap.get?_traverse hok "/"
    simp only [Bool.not_false, if_true]
    unfold engineRoot
    cases hmount : h.mounts.get? "/" with
    | none =>
      rw [hnone hmount]
      rfl
    | some mount =>
      obtain ⟨eh, heh, hget⟩ := hsome mount hmount
      rw [hget]
      cases mount with
      | proxy target =>
        cases heh
        rfl
      | text body =>
        cases heh
        rfl
      | redirect target status =>
        simp only [Option.bind_some, legacyRedirect_proxy G heh]
        rfl
  | true =>
    rw [hmounts] at hok
    simp only [Bool.not_true, Bool.false_eq_true, if_false] at hok ⊢
    cases htext : h.text with
    | some body =>
      rw [htext] at hok
      cases hok
      rfl
    | none =>
      cases hredirect : h.redirect with
      | some r =>
        rw [htext, hredirect] at hok
        dsimp only at hok
        cases hr : legacyRedirect G r.target r.status with
        | error e =>
          rw [hr] at hok
          cases hok
        | ok eh =>
          rw [hr] at hok
          cases hok
          rw [hroot, legacyRedirect_proxy G hr]
          rfl
      | none =>
        rw [htext, hredirect] at hok
        dsimp only at hok
        simp only [Option.isNone_none, Bool.true_and]
        cases hflag : ((h.https || h.http) && !h.tcpForward.isEmpty) with
        | false =>
          rw [hflag] at hok
          cases hok
          rfl
        | true =>
          rw [hflag] at hok
          cases hok
          rw [hroot]
          simp only [Bool.and_eq_true, Bool.not_eq_true'] at hflag
          rw [hflag.2]
          rfl

/-- The web handlers a key writes for a port. -/
def webWrite (cfg : ServeConfig) (host : String) (port : UInt16)
    (entry : String × TcpPortHandler) : Option (SortedMap String EngineHandler) :=
  keyWrite G (fun s => s.web.get? (hostPort host port)) cfg host entry

/-- The last key that writes web handlers for a port decides them. -/
theorem buildWebServeState_web (cfg : ServeConfig) (name : String) (port : UInt16) :
    (buildWebServeState G cfg name).state.web.get? (hostPort (trimEndDots name) port) =
      cfg.tcp.entries.reverse.findSome? (webWrite G cfg (trimEndDots name) port) :=
  buildWebServeState_read G (fun s => s.web.get? (hostPort (trimEndDots name) port))
    (fun _ _ => SortedMap.get?_extend _ _ _) rfl cfg name

/-- The last key of a port that the engine accepts with web handlers. -/
def lastWebKey (cfg : ServeConfig) (host : String) (port : UInt16) :
    Option (String × TcpPortHandler) :=
  cfg.tcp.entries.reverse.find? fun entry => (webWrite G cfg host port entry).isSome

/-- What a key writes are its own web handlers, or those of the node's `Web` entry. -/
theorem webWrite_handlers {cfg : ServeConfig} {host : String} {port : UInt16}
    {entry : String × TcpPortHandler} {handlers : SortedMap String EngineHandler}
    (h : webWrite G cfg host port entry = some handlers) :
    NamesPort entry port ∧ webHandlers G cfg host port entry.2 = .ok handlers := by
  unfold webWrite at h
  obtain ⟨named, one, hnames, hok, hget⟩ := (keyWrite_eq_some G).mp h
  obtain ⟨-, hcases⟩ := enginePort_cases G (checkPort_served G hok).1
  cases hcases with
  | tls htls hhttps hhttp => cases hget
  | @web handlers' htls hweb hhandlers =>
    dsimp only at hget
    split at hget
    · cases hget
    · rw [SortedMap.get?_insert] at hget
      split at hget
      · rename_i hkey
        have hport := hostPort_inj hkey
        subst hport
        cases hget
        exact ⟨hnames, hhandlers⟩
      · cases hget

/-- The root proxy of what a key writes. -/
theorem webWrite_root {cfg : ServeConfig} {host : String} {port : UInt16}
    {entry : String × TcpPortHandler} {handlers : SortedMap String EngineHandler}
    (h : webWrite G cfg host port entry = some handlers) :
    engineRoot handlers =
      match cfg.web.get? (hostPort host port) with
      | some wsc => wsc.rootProxy
      | none => legacyRoot entry.2 := by
  have hhandlers := (webWrite_handlers G h).2
  unfold webHandlers at hhandlers
  cases hown : cfg.web.get? (hostPort host port) with
  | some wsc =>
    rw [hown] at hhandlers
    exact engineRoot_web G hhandlers
  | none =>
    rw [hown] at hhandlers
    exact engineRoot_legacy G hhandlers

/-- **The backend the web lane serves**: the node's own `Web` entry, else the legacy body of the
    last key the engine accepts. -/
theorem servedBackend_eq (cfg : ServeConfig) (name : String) (port : UInt16) :
    servedBackend G cfg name port =
      (lastWebKey G cfg (trimEndDots name) port).bind fun entry =>
        match cfg.web.get? (hostPort (trimEndDots name) port) with
        | some wsc => wsc.rootProxy
        | none => legacyRoot entry.2 := by
  unfold servedBackend lastWebKey
  rw [buildWebServeState_web, SortedMap.findSome?_eq_find?_bind, Option.bind_assoc]
  cases hlast : cfg.tcp.entries.reverse.find?
      (fun entry => (webWrite G cfg (trimEndDots name) port entry).isSome) with
  | none => rfl
  | some entry =>
    have hwrites := List.find?_some hlast
    obtain ⟨handlers, hhandlers⟩ := Option.isSome_iff_exists.mp hwrites
    simp only [Option.bind_some, hhandlers]
    exact webWrite_root G hhandlers

/-! ## Where the two lanes part -/

/-- The port is served, and the two lanes read its backend off different places that disagree. -/
inductive Splits (cfg : ServeConfig) (host : String) (port : UInt16) : Prop
  /-- A legacy forward stands beside the node's own `Web` entry. -/
  | forwardBesideWeb {forward root : String} {wsc : WebServerConfig}
      {entry : String × TcpPortHandler} (hforward : legacyForward cfg port = some forward)
      (hown : cfg.web.get? (hostPort host port) = some wsc)
      (hlast : lastWebKey G cfg host port = some entry)
      (hroot : wsc.rootProxy = some root) (hne : forward ≠ root) : Splits cfg host port
  /-- The `Web` entry of another host comes before the node's own. -/
  | otherHostFirst {first root : String} {other wsc : WebServerConfig}
      {entry : String × TcpPortHandler} (hforward : legacyForward cfg port = none)
      (hfirst : firstWebEntry cfg port = some other) (hother : other.rootProxy = some first)
      (hown : cfg.web.get? (hostPort host port) = some wsc)
      (hlast : lastWebKey G cfg host port = some entry)
      (hroot : wsc.rootProxy = some root) (hne : first ≠ root) : Splits cfg host port
  /-- A legacy forward stands beside a root mount, or another spelling of the port forwards
      elsewhere. -/
  | bodyBesideForward {forward root : String} {entry : String × TcpPortHandler}
      (hforward : legacyForward cfg port = some forward)
      (hown : cfg.web.get? (hostPort host port) = none)
      (hlast : lastWebKey G cfg host port = some entry)
      (hroot : legacyRoot entry.2 = some root) (hne : forward ≠ root) : Splits cfg host port
  /-- A legacy body is served, and another host has a `Web` entry for the port. -/
  | bodyBesideOtherHost {first root : String} {other : WebServerConfig}
      {entry : String × TcpPortHandler} (hforward : legacyForward cfg port = none)
      (hfirst : firstWebEntry cfg port = some other) (hother : other.rootProxy = some first)
      (hown : cfg.web.get? (hostPort host port) = none)
      (hlast : lastWebKey G cfg host port = some entry)
      (hroot : legacyRoot entry.2 = some root) (hne : first ≠ root) : Splits cfg host port

/-- **Both lanes resolve a port to one backend, unless the config splits it.** -/
theorem lanes_agree_iff (cfg : ServeConfig) (name : String) (port : UInt16) :
    (∀ b b', webProxyBackend cfg port = some b → servedBackend G cfg name port = some b' → b = b') ↔
      ¬ Splits G cfg (trimEndDots name) port := by
  rw [servedBackend_eq]
  unfold webProxyBackend
  constructor
  · intro h hsplits
    cases hsplits with
    | forwardBesideWeb hforward hown hlast hroot hne =>
      rw [hforward, hown, hlast] at h
      exact hne (h _ _ rfl hroot)
    | otherHostFirst hforward hfirst hother hown hlast hroot hne =>
      rw [hforward, hfirst, hown, hlast] at h
      exact hne (h _ _ hother hroot)
    | bodyBesideForward hforward hown hlast hroot hne =>
      rw [hforward, hown, hlast] at h
      exact hne (h _ _ rfl hroot)
    | bodyBesideOtherHost hforward hfirst hother hown hlast hroot hne =>
      rw [hforward, hfirst, hown, hlast] at h
      exact hne (h _ _ hother hroot)
  · intro h b b' hb hb'
    by_contra hne
    obtain ⟨entry, hlast, hroot⟩ := Option.bind_eq_some_iff.mp hb'
    refine h ?_
    cases hforward : legacyForward cfg port with
    | some forward =>
      rw [hforward] at hb
      cases hb
      cases hown : cfg.web.get? (hostPort (trimEndDots name) port) with
      | some wsc =>
        rw [hown] at hroot
        exact .forwardBesideWeb hforward hown hlast hroot hne
      | none =>
        rw [hown] at hroot
        exact .bodyBesideForward hforward hown hlast hroot hne
    | none =>
      rw [hforward] at hb
      obtain ⟨other, hfirst, hother⟩ := Option.bind_eq_some_iff.mp hb
      cases hown : cfg.web.get? (hostPort (trimEndDots name) port) with
      | some wsc =>
        rw [hown] at hroot
        exact .otherHostFirst hforward hfirst hother hown hlast hroot hne
      | none =>
        rw [hown] at hroot
        exact .bodyBesideOtherHost hforward hfirst hother hown hlast hroot hne

/-- A port an older `tnet` wrote in the legacy shape, with a `Web` entry that names another
    backend. -/
def splitConfig : ServeConfig where
  tcp := SortedMap.empty.insert "443" { https := true, tcpForward := "127.0.0.1:3000" }
  web := SortedMap.empty.insert "node.example.ts.net:443"
    { handlers := SortedMap.empty.insert "/" { proxy := "http://127.0.0.1:4000" } }

/-- **Funnel may publish another backend than the one the tailnet sees.** -/
theorem funnel_publishes_other_backend :
    ¬ ∀ (G : ServeEngine) (cfg : ServeConfig) (name : String) (port : UInt16) (b b' : String),
      webProxyBackend cfg port = some b → servedBackend G cfg name port = some b' → b = b' := by
  intro hclaim
  have hsame := hclaim proxyEngine splitConfig "node.example.ts.net." 443 "127.0.0.1:3000"
    "http://127.0.0.1:4000" (by decide) (by decide)
  exact absurd hsame (by decide)

end Tailnetd
