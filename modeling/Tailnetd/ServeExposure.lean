/-
  What a serve command publishes to the internet (`tnet.rs`, `ipn/serve.rs`).

  Funnel is a switch of its own: a port is published where its switch is on and its web entry has a
  proxy to splice, and the serve commands write the second half only.  `serve` leaves the switch as
  it finds it, so a web serve on a port whose switch is on already goes public; the hint that
  `funnel <port> on` prints on an empty port says to do just that.  A plain or a TLS-terminated
  forward has nothing for the funnel to splice, and `off` takes both halves away.
-/
import Tailnetd.PortText

namespace Tailnetd

/-! ## What is published -/

/-- The backends the funnel lane splices to the internet, with their ports. -/
def exposed (cfg : ServeConfig) : Set (UInt16 × String) :=
  fun backend => backend.1 ∈ funnelPorts cfg ∧ webProxyBackend cfg backend.1 = some backend.2

/-- `funnel`, in either grammar. -/
def ServeCommand.isFunnel : ServeCommand → Bool
  | .flags _ funnel => funnel
  | .tcp _ _ => false
  | .web _ _ _ _ => false
  | .redirect _ _ _ => false
  | .funnelToggle _ _ => true

/-- A command that serves the web on its port. -/
def ServeCommand.servesWeb : ServeCommand → Bool
  | .flags f _ => !f.isOff && f.kind.isWeb
  | .tcp _ _ => false
  | .web _ _ _ _ => true
  | .redirect _ _ _ => true
  | .funnelToggle _ _ => false

/-- A port's backend is what the config holds for it. -/
theorem SameAt.webProxyBackend {port : UInt16} {cfg cfg' : ServeConfig} (h : SameAt port cfg cfg') :
    webProxyBackend cfg' port = webProxyBackend cfg port := by
  have hfirst : firstWebEntry cfg' port = firstWebEntry cfg port :=
    congrArg (Option.map Prod.snd) (SortedMap.find?_congr h.web)
  have hforward : legacyForward cfg' port = legacyForward cfg port :=
    congrArg (Option.bind · _) h.tcp
  unfold Tailnetd.webProxyBackend
  rw [hfirst, hforward]

/-! ## A forward and a removal publish nothing -/

/-- Without a web body and without a `Web` entry a port has no backend. -/
theorem webProxyBackend_eq_none {cfg : ServeConfig} {port : UInt16}
    (htcp : ∀ h, cfg.tcp.get? (tcpKey port) = some h → isWebServe h = false)
    (hweb : ∀ key, endsWith (portSuffix port) key = true → cfg.web.get? key = none) :
    webProxyBackend cfg port = none := by
  have hforward : legacyForward cfg port = none := by
    refine Option.bind_eq_none_iff.mpr ?_
    intro h hget
    rw [htcp h hget]
    rfl
  have hfirst : firstWebEntry cfg port = none := by
    refine Option.map_eq_none_iff.mpr (List.find?_eq_none.mpr ?_)
    intro entry hmem hends
    have hnone := hweb entry.1 hends
    rw [SortedMap.get?_eq_some_iff.mpr hmem] at hnone
    cases hnone
  unfold webProxyBackend
  rw [hforward, hfirst]
  rfl

/-- A forward has no backend for the funnel. -/
theorem setForward_unexposed (cfg : ServeConfig) (port : UInt16) {handler : TcpPortHandler}
    (h : isWebServe handler = false) : webProxyBackend (cfg.setForward port handler) port = none := by
  refine webProxyBackend_eq_none ?_ fun key hkey => get?_retain_port _ hkey
  intro handler' hget
  have hinsert := (SortedMap.get?_insert cfg.tcp _ _ _).symm.trans hget
  rw [if_pos rfl] at hinsert
  cases hinsert
  exact h

/-- A removed port has no backend. -/
theorem removeServePort_unexposed (cfg : ServeConfig) (port : UInt16) :
    webProxyBackend (removeServePort cfg port).2 port = none := by
  refine webProxyBackend_eq_none ?_ fun key hkey => get?_retain_port _ hkey
  intro handler hget
  have hremoved := (SortedMap.get?_remove cfg.tcp _ _).symm.trans hget
  rw [if_pos rfl] at hremoved
  cases hremoved

/-- A removal turns no switch on. -/
theorem funnelPorts_remove_subset (cfg : ServeConfig) (port : UInt16) :
    funnelPorts (removeServePort cfg port).2 ⊆ funnelPorts cfg := by
  intro p hp
  obtain ⟨hne, key, hon, hkey⟩ := mem_funnelPorts.mp hp
  have hretain := (SortedMap.get?_retain cfg.allowFunnel _ _).symm.trans hon
  split at hretain
  · exact mem_funnelPorts.mpr ⟨hne, key, hretain, hkey⟩
  · cases hretain

/-! ## What a command may publish -/

/-- What a listener is: a web port where the kind is a web kind, a forward where it is not. -/
theorem serveListener_cases {cfg cfg' : ServeConfig} {host target : String} {f : ServeFlags}
    (h : serveListener cfg host f target = .ok cfg') :
    (f.kind.isWeb = true ∧ ∃ tls mount entry, cfg' = cfg.setWeb host f.port tls mount entry) ∨
      (f.kind.isWeb = false ∧
        ∃ handler, isWebServe handler = false ∧ cfg' = cfg.setForward f.port handler) := by
  unfold serveListener at h
  cases hkind : f.kind with
  | https =>
    rw [hkind] at h
    obtain ⟨mount, entry, heq⟩ := buildWebServe_eq h
    exact .inl ⟨rfl, true, mount, entry, heq⟩
  | http =>
    rw [hkind] at h
    obtain ⟨mount, entry, heq⟩ := buildWebServe_eq h
    exact .inl ⟨rfl, false, mount, entry, heq⟩
  | tcp =>
    rw [hkind] at h
    cases h
    exact .inr ⟨rfl, _, rfl, rfl⟩
  | tlsTerminatedTcp =>
    rw [hkind] at h
    cases h
    exact .inr ⟨rfl, _, rfl, rfl⟩

/-- What a serve command makes of the config: a web port, a forward, or a removal. -/
inductive TailnetOnly (cfg : ServeConfig) (cmd : ServeCommand) : ServeConfig → Prop
  | web (host : String) (tls : Bool) (mount : String) (entry : HttpHandler)
      (hweb : cmd.servesWeb = true) : TailnetOnly cfg cmd (cfg.setWeb host cmd.port tls mount entry)
  | forward (handler : TcpPortHandler) (hplain : isWebServe handler = false) :
      TailnetOnly cfg cmd (cfg.setForward cmd.port handler)
  | remove : TailnetOnly cfg cmd (removeServePort cfg cmd.port).2

theorem serve_tailnetOnly {name : String} {cfg cfg' : ServeConfig} {cmd : ServeCommand}
    (hcmd : cmd.isFunnel = false) (h : cmd.edit name cfg = .ok (some cfg')) :
    TailnetOnly cfg cmd cfg' := by
  have hmakes := edit_makes h
  cases cmd with
  | flags f funnel =>
    cases hcmd
    cases hoff : f.isOff with
    | true =>
      rw [ServeCommand.effect, hoff] at hmakes
      cases hmakes
      exact .remove
    | false =>
      obtain ⟨target, served, -, hserved, rfl⟩ := runServeV2_listener hoff h
      rcases serveListener_cases hserved with
        ⟨hkind, tls, mount, entry, rfl⟩ | ⟨-, handler, hplain, rfl⟩
      · have hweb : (ServeCommand.flags f false).servesWeb = true := by
          rw [ServeCommand.servesWeb, hoff, hkind]
          rfl
        exact .web _ tls mount entry hweb
      · exact .forward handler hplain
  | tcp port target =>
    cases h
    exact .forward _ rfl
  | web port target setPath tls =>
    obtain ⟨served, hserved, hsome⟩ := except_map_ok h
    cases hsome
    obtain ⟨mount, entry, rfl⟩ := buildWebServe_eq hserved
    exact .web _ _ _ _ rfl
  | redirect port target status =>
    obtain ⟨u, hcheck, hsome⟩ := except_map_ok h
    cases hsome
    exact .web _ _ _ _ rfl
  | funnelToggle port on => cases hcmd

/-- **A serve command publishes nothing but its own port, and that only where the port's funnel
    switch was on and the command serves the web.** -/
theorem serve_publishes_switched_on {name : String} {cfg cfg' : ServeConfig} {cmd : ServeCommand}
    (hcmd : cmd.isFunnel = false) (h : cmd.edit name cfg = .ok (some cfg')) :
    funnelPorts cfg' ⊆ funnelPorts cfg ∧
      ∀ port backend, (port, backend) ∈ exposed cfg' → (port, backend) ∈ exposed cfg ∨
        (port = cmd.port ∧ port ∈ funnelPorts cfg ∧ cmd.servesWeb = true) := by
  have hmakes := edit_makes h
  have hedit := serve_tailnetOnly hcmd h
  have hports : funnelPorts cfg' ⊆ funnelPorts cfg := by
    cases hedit with
    | web host tls mount entry hweb => exact Finset.Subset.refl _
    | forward handler hplain => exact Finset.Subset.refl _
    | remove => exact funnelPorts_remove_subset cfg cmd.port
  refine ⟨hports, ?_⟩
  rintro port backend ⟨hon, hbackend⟩
  by_cases hport : port = cmd.port
  · subst hport
    cases hedit with
    | web host tls mount entry hweb => exact .inr ⟨rfl, hports hon, hweb⟩
    | forward handler hplain =>
      rw [setForward_unexposed cfg cmd.port hplain] at hbackend
      cases hbackend
    | remove =>
      rw [removeServePort_unexposed] at hbackend
      cases hbackend
  · rw [(hmakes.sameAt hport).webProxyBackend] at hbackend
    exact .inl ⟨hports hon, hbackend⟩

/-- A port whose switch was turned on before anything was served on it. -/
def switchedOn : ServeConfig where
  allowFunnel := SortedMap.empty.insert "node.example.ts.net:443" true

/-- `tnet serve https 443 3000`. -/
def serveWeb443 : ServeCommand := .web 443 "3000" none true

/-- What the serve makes of it. -/
def switchedOnServed : ServeConfig :=
  switchedOn.setWeb "node.example.ts.net" 443 true "/" { proxy := "127.0.0.1:3000" }

/-- The serve command publishes the port, and the port was switched on. -/
theorem serve_publishes_switched_on_web :
    ((443, "127.0.0.1:3000") ∈ exposed switchedOnServed) ∧
      funnelPorts switchedOnServed ⊆ funnelPorts switchedOn ∧
      ∀ port backend, (port, backend) ∈ exposed switchedOnServed →
        (port, backend) ∈ exposed switchedOn ∨
          (port = 443 ∧ port ∈ funnelPorts switchedOn ∧ serveWeb443.servesWeb = true) :=
  ⟨⟨by decide, by decide⟩,
    @serve_publishes_switched_on "node.example.ts.net." _ _ serveWeb443 rfl (by decide)⟩

/-- **A serve command may publish a backend.** -/
theorem serve_publishes_backend :
    ¬ ∀ (name : String) (cfg cfg' : ServeConfig) (cmd : ServeCommand), cmd.isFunnel = false →
      cmd.edit name cfg = .ok (some cfg') → exposed cfg' ⊆ exposed cfg := by
  intro hclaim
  have hsubset := hclaim "node.example.ts.net." switchedOn switchedOnServed serveWeb443 rfl (by decide)
  have hnew : (443, "127.0.0.1:3000") ∈ exposed switchedOnServed := ⟨by decide, by decide⟩
  have hold : webProxyBackend switchedOn 443 = some "127.0.0.1:3000" := (hsubset hnew).2
  exact absurd hold (by decide)

end Tailnetd
