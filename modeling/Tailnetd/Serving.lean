/-
  The daemon with the serve configs of its profiles.

  A profile's serve config is a file beside its prefs.  `set_serve_config` is the one section that
  writes it, for the current profile; every other section of the daemon runs as before and leaves
  the files alone, the profile operations included: they neither copy nor remove a serve config.
  So the machine here is the daemon's, with one store and one event more.
-/
import Tailnetd.Serve
import Tailnetd.Boot

namespace Tailnetd

open Machine

/-- Which disk operations of a `set_serve_config` succeed. -/
structure ServeIo where
  readConfig : Bool := true
  saveConfig : Bool := true

/-- The daemon, with each profile's `serve-config.json`. -/
structure ServingDaemon where
  daemon : Daemon
  serveFile : String → Option ServeFile

/-- An event of the daemon, or a `set_serve_config` with the netmap name it finds. -/
inductive ServeEvent where
  | daemon (e : Event)
  | setServeConfig (cfg : ServeConfig) (netmapName : Option String) (io : ServeIo)

namespace ServingDaemon

/-- `serve_config`: the current profile's config. -/
def serveConfig (s : ServingDaemon) (io : ServeIo) : ServeConfig :=
  loadServe (s.serveFile s.daemon.backend.currentProfile) io.readConfig

/-- The ports the current profile publishes, by its stored config. -/
def published (s : ServingDaemon) : Finset UInt16 := funnelPorts (s.serveConfig {})

/-- `set_serve_config`: its refusals come first, in this order. -/
def setServeConfig (G : ServeEngine) (s : ServingDaemon) (cfg : ServeConfig)
    (netmapName : Option String) (io : ServeIo) : Except Failure Unit × ServingDaemon :=
  if funnelPorts cfg ≠ ∅ ∧ s.daemon.backend.prefs.shieldsUp = true then
    (.error (.refused "Unable to turn on Funnel while shields-up is enabled"), s)
  else
    match netmapName with
    | none => (.error (.refused "netMap is nil"), s)
    | some fqdn =>
      let existing := s.serveConfig io
      match validateServeConfigUpdate existing cfg with
      | .error conflict => (.error (.refused conflict), s)
      | .ok () =>
        -- a refusal the stored config already carries does not block the write
        let already := (buildWebServeState G existing fqdn).refused
        let refused := (buildWebServeState G cfg fqdn).refused.filter fun r => !already.contains r
        match refusalMessage G refused with
        | some refusal => (.error (.refused refusal), s)
        | none =>
          if !io.saveConfig then (.error (.io "persisting serve-config"), s)
          else
            (.ok (), { s with
              serveFile := Function.update s.serveFile s.daemon.backend.currentProfile
                (some (.config cfg)) })

/-- One event. -/
def step (H : Host) (G : ServeEngine) (s : ServingDaemon) : ServeEvent → Option ServingDaemon
  | .daemon e => (s.daemon.step H e).map fun d => { s with daemon := d }
  | .setServeConfig cfg netmapName io => some (s.setServeConfig G cfg netmapName io).2

/-! ## What a step can do -/

/-- A write is refused, or fails, or replaces the current profile's config by one that publishes
    nothing while the shields are up. -/
theorem setServeConfig_cases (G : ServeEngine) (s : ServingDaemon) (cfg : ServeConfig)
    (netmapName : Option String) (io : ServeIo) :
    (∃ f, s.setServeConfig G cfg netmapName io = (.error f, s)) ∨
    ((s.daemon.backend.prefs.shieldsUp = true → funnelPorts cfg = ∅) ∧
      s.setServeConfig G cfg netmapName io =
        (.ok (), { s with
          serveFile := Function.update s.serveFile s.daemon.backend.currentProfile
            (some (.config cfg)) })) := by
  unfold setServeConfig
  split
  · exact .inl ⟨_, rfl⟩
  · rename_i hguard
    have hshields : s.daemon.backend.prefs.shieldsUp = true → funnelPorts cfg = ∅ := by
      intro hup
      by_contra hfunnel
      exact hguard ⟨hfunnel, hup⟩
    dsimp only
    split
    · exact .inl ⟨_, rfl⟩
    · split
      · exact .inl ⟨_, rfl⟩
      · split
        · exact .inl ⟨_, rfl⟩
        · split
          · exact .inl ⟨_, rfl⟩
          · exact .inr ⟨hshields, rfl⟩

/-- An event of the daemon leaves the serve configs alone. -/
theorem step_daemon {H : Host} {G : ServeEngine} {s t : ServingDaemon} {e : Event}
    (h : s.step H G (.daemon e) = some t) :
    ∃ d', s.daemon.step H e = some d' ∧ t = { s with daemon := d' } := by
  obtain ⟨d', hstep, rfl⟩ := Option.map_eq_some_iff.mp h
  exact ⟨d', hstep, rfl⟩

end ServingDaemon

/-! ## A concrete engine -/

/-- An engine that serves a root proxy over HTTPS, and refuses every other port. -/
def proxyEngine : ServeEngine where
  Error := String
  decEq := inferInstance
  invalid := id
  text := id
  servePlan state :=
    if (state.tcp.entries.all fun entry => entry.2.https) &&
        (state.web.entries.all fun site => site.2.entries.all fun handler =>
          handler.1 == "/" && !handler.2.proxy.isEmpty) then .ok ()
    else .error "not served by this engine"

/-- One HTTPS port with a root proxy, and Funnel on for it. -/
def funnelConfig : ServeConfig where
  tcp := SortedMap.empty.insert "443" { https := true }
  allowFunnel := SortedMap.empty.insert "node.example.ts.net:443" true
  web := SortedMap.empty.insert "node.example.ts.net:443"
    { handlers := SortedMap.empty.insert "/" { proxy := "http://127.0.0.1:3000" } }

/-- The node comes up and publishes a port. -/
def publishes : List ServeEvent :=
  [.daemon (.up {} none none {} {}), .daemon (.finish 0 (some .running) {}),
    .setServeConfig funnelConfig (some "node.example.ts.net.") {}]

end Tailnetd
