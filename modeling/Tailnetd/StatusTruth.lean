/-
  Where `tnet serve status` and the lanes part (`tnet.rs`, `ipn/serve.rs`).

  The status goes key by key and by the key's own spelling; the daemon goes by the parsed port, so
  that the last key the engine accepts decides what a port is served with, and it looks the `Web`
  entry up under the node's own name.  An entry is not told as it is served in these places:

  * the key is no port, and the entry is shown all the same;
  * a forward has a legacy body besides: the body is shown, the forward is served;
  * both web flags are set: plain HTTP is shown, HTTPS is served;
  * the mounts shown are those of another name, or of the legacy body of a handler without a flag
    where the node has a `Web` entry;
  * several keys name the port: one is refused and another one served, or they differ.

  And the block of an entry that is served says the opposite when a text it shows has the words
  "NOT served" (`ShowsWords`).  Nothing else goes wrong (`serve_status_truthful_iff`).
-/
import Tailnetd.ServeBackend
import Tailnetd.ServeStatus

namespace Tailnetd

variable (G : ServeEngine)

/-! ## What is shown of a handler -/

/-- The mounts shown for an entry, when it is shown as a web entry. -/
def shownMounts (cfg : ServeConfig) (entry : String × TcpPortHandler) :
    Option (SortedMap String EngineHandler) :=
  match webEntryShown cfg entry.1 entry.2 with
  | some site => some (site.2.handlers.map HttpHandler.engine)
  | none =>
    if (legacyBodies entry.2).isEmpty then none
    else some ((legacyBodies entry.2).map WebMount.engine)

/-- The branches, by the mounts shown and the forward. -/
theorem entryShown_service (cfg : ServeConfig) (entry : String × TcpPortHandler) :
    (entryShown cfg entry.1 entry.2).service entry.2.http =
      match shownMounts cfg entry with
      | some mounts => some (.ofMounts (!entry.2.http) mounts)
      | none =>
        if entry.2.tcpForward.isEmpty then none
        else if entry.2.terminateTls.isEmpty then some (.forward entry.2.tcpForward)
        else some (.tlsForward entry.2.tcpForward) := by
  unfold entryShown shownMounts
  cases hweb : webEntryShown cfg entry.1 entry.2 with
  | some site => rfl
  | none =>
    dsimp only
    unfold legacyBodies
    cases hmounts : entry.2.mounts.isEmpty with
    | false =>
      rw [Bool.not_false, if_pos rfl, if_pos rfl, hmounts]
      rfl
    | true =>
      rw [Bool.not_true, if_neg Bool.false_ne_true, if_neg Bool.false_ne_true]
      cases htext : entry.2.text with
      | some body => rfl
      | none =>
        cases hredirect : entry.2.redirect with
        | some r => rfl
        | none =>
          dsimp only
          -- what is left is the forward: under a web flag a proxy, else a forward of its own
          cases entry.2.tcpForward.isEmpty <;> cases entry.2.terminateTls.isEmpty <;>
            cases entry.2.https <;> cases entry.2.http <;> rfl

/-! ## What the lanes serve -/

/-- The branch of `engine_port` for a TLS-terminated forward. -/
def isTlsForward (h : TcpPortHandler) : Bool := !h.terminateTls.isEmpty && !h.https && !h.http

/-- The last key of a port that the engine accepts. -/
def lastKey (cfg : ServeConfig) (host : String) (port : UInt16) :
    Option (String × TcpPortHandler) :=
  cfg.tcp.entries.reverse.find? fun entry => (tcpWrite G cfg host port entry).isSome

/-- The mounts of a key: those of the node's own `Web` entry, else its legacy bodies. -/
def ownMounts (cfg : ServeConfig) (host : String) (port : UInt16) (h : TcpPortHandler) :
    SortedMap String EngineHandler :=
  match cfg.web.get? (hostPort host port) with
  | some wsc => wsc.handlers.map HttpHandler.engine
  | none => (legacyBodies h).map WebMount.engine

/-- The mounts of a port: those of the last key that the engine accepts with any. -/
def portMounts (cfg : ServeConfig) (host : String) (port : UInt16) :
    SortedMap String EngineHandler :=
  match lastWebKey G cfg host port with
  | some last => ownMounts cfg host port last.2
  | none => .empty

/-- A key that is accepted names the port, and the engine let its config through. -/
theorem lastKey_accepted {cfg : ServeConfig} {host : String} {port : UInt16}
    {last : String × TcpPortHandler} (h : lastKey G cfg host port = some last) :
    last ∈ cfg.tcp.entries ∧
      tcpWrite G cfg host port last = some (engineTcpHandler last.2) := by
  unfold lastKey at h
  have hmem := List.mem_reverse.mp (List.mem_of_find?_eq_some h)
  have hwrites := List.find?_some h
  obtain ⟨th, hth⟩ := Option.isSome_iff_exists.mp hwrites
  obtain ⟨-, -, heq⟩ := (tcpWrite_eq_some G).mp hth
  rw [heq]
  exact ⟨hmem, hth⟩

/-- The handler of a port in the engine's state. -/
theorem stateHandler_eq (cfg : ServeConfig) (name : String) (port : UInt16) :
    (buildWebServeState G cfg name).state.tcp.get? port =
      (lastKey G cfg (trimEndDots name) port).map fun last => engineTcpHandler last.2 := by
  rw [buildWebServeState_tcp, SortedMap.findSome?_eq_find?_bind]
  change (lastKey G cfg (trimEndDots name) port).bind _ = _
  cases hlast : lastKey G cfg (trimEndDots name) port with
  | none => rfl
  | some last => exact (lastKey_accepted G hlast).2

/-- The handlers that go to the engine for a key are its mounts. -/
theorem webHandlers_own {cfg : ServeConfig} {host : String} {port : UInt16} {h : TcpPortHandler}
    {handlers : SortedMap String EngineHandler}
    (hok : webHandlers G cfg host port h = .ok handlers) :
    handlers = ownMounts cfg host port h := by
  have hengine (handler : HttpHandler) (eh : EngineHandler)
      (h : engineHttpHandler G handler = .ok eh) : eh = handler.engine := by
    rw [engineHttpHandler_eq] at h
    split at h
    · cases h
    · exact (Except.ok.inj h).symm
  unfold webHandlers at hok
  unfold ownMounts
  cases hown : cfg.web.get? (hostPort host port) with
  | some wsc =>
    rw [hown] at hok
    exact SortedMap.eq_map_of_traverse hok hengine
  | none =>
    rw [hown] at hok
    dsimp only at hok
    rw [legacyWebHandlers_eq] at hok
    refine SortedMap.eq_map_of_traverse hok fun body eh h => ?_
    exact hengine _ _ ((legacyMount_eq_ok G).mp h).2

/-- The mounts of a port in the engine's state. -/
theorem stateMounts_eq (cfg : ServeConfig) (name : String) (port : UInt16) :
    ((buildWebServeState G cfg name).state.web.get?
        (hostPort (trimEndDots name) port)).getD .empty =
      portMounts G cfg (trimEndDots name) port := by
  rw [buildWebServeState_web, SortedMap.findSome?_eq_find?_bind]
  change ((lastWebKey G cfg (trimEndDots name) port).bind _).getD _ = _
  unfold portMounts
  cases hlast : lastWebKey G cfg (trimEndDots name) port with
  | none => rfl
  | some last =>
    unfold lastWebKey at hlast
    have hwrites := List.find?_some hlast
    obtain ⟨handlers, hwrite⟩ := Option.isSome_iff_exists.mp hwrites
    rw [Option.bind_some, hwrite]
    exact webHandlers_own G (webWrite_handlers G hwrite).2

/-- What the engine serves for a handler it accepts. -/
theorem engineTcpHandler_service (h : TcpPortHandler) (mounts : SortedMap String EngineHandler) :
    (engineTcpHandler h).service mounts =
      if isTlsForward h then .tlsForward h.tcpForward
      else .ofMounts (!(h.http && !h.https)) mounts := by
  unfold engineTcpHandler
  change EngineTcpHandler.service (if isTlsForward h then _ else _) mounts = _
  cases htls : isTlsForward h with
  | true =>
    have hne : h.terminateTls.isEmpty = false := by
      unfold isTlsForward at htls
      simp only [Bool.and_eq_true, Bool.not_eq_true'] at htls
      exact htls.1.1
    rw [if_pos rfl, if_pos rfl]
    simp [EngineTcpHandler.service, EngineTcpHandler.protocol, hne]
  | false => cases h.https <;> cases h.http <;> rfl

/-- **What the lanes serve for an entry that is no plain forward.** -/
theorem laneService_engine {cfg : ServeConfig} {name : String} {entry : String × TcpPortHandler}
    {port : UInt16} (hname : NamesPort entry port) (hplain : isPlainTcpForward entry.2 = false) :
    laneService G cfg name entry =
      (lastKey G cfg (trimEndDots name) port).map fun last =>
        (engineTcpHandler last.2).service (portMounts G cfg (trimEndDots name) port) := by
  unfold NamesPort at hname
  unfold laneService
  rw [hname]
  dsimp only
  rw [hplain, if_neg Bool.false_ne_true, stateHandler_eq, stateMounts_eq, Option.map_map]
  rfl

/-! ## What the status tells -/

/-- The engine refuses some key of the port. -/
def PortRefused (cfg : ServeConfig) (host : String) (port : UInt16) : Prop :=
  ∃ other ∈ cfg.tcp.entries, NamesPort other port ∧
    ∃ e, checkPort G cfg host port other.2 = .error e

/-- The ports of the collected refusals. -/
theorem collectRefusals_isSome (out : SortedMap UInt16 G.Error) (refused : List (RefusedPort G))
    (port : UInt16) :
    ((collectRefusals G out refused).get? port).isSome = true ↔
      (out.get? port).isSome = true ∨ ∃ r ∈ refused, r.port = port := by
  unfold collectRefusals
  induction refused generalizing out with
  | nil => simp
  | cons r rest ih =>
    have hhead : ((out.insert r.port r.error).get? port).isSome = true ↔
        (out.get? port).isSome = true ∨ r.port = port := by
      rw [SortedMap.get?_insert]
      by_cases hport : port = r.port
      · rw [if_pos hport]
        exact iff_of_true rfl (.inr hport.symm)
      · rw [if_neg hport]
        exact (or_iff_left fun h => hport h.symm).symm
    rw [List.foldl_cons, ih, hhead, or_assoc]
    simp only [List.mem_cons, exists_eq_or_imp]

/-- **An entry is marked refused when the engine refuses some key of its port.** -/
theorem refusal_isSome (cfg : ServeConfig) (name : String) (entry : String × TcpPortHandler) :
    (statusEntry G cfg (some name) entry).refusal.isSome = true ↔
      ∃ port, NamesPort entry port ∧ PortRefused G cfg (trimEndDots name) port := by
  unfold statusEntry NamesPort
  dsimp only
  rw [Option.isSome_map]
  cases hname : parseU16 entry.1 with
  | none => simp
  | some port =>
    have hrefused : ((engineRefusals G cfg (some name)).get? port).isSome = true ↔
        PortRefused G cfg (trimEndDots name) port := by
      unfold engineRefusals PortRefused
      dsimp only
      rw [collectRefusals_isSome]
      constructor
      · rintro (hempty | ⟨r, hr, rfl⟩)
        · cases hempty
        · obtain ⟨other, hother, hnames, herror⟩ := (mem_refused G cfg name r).mp hr
          exact ⟨other, hother, hnames, _, herror⟩
      · rintro ⟨other, hother, hnames, e, herror⟩
        exact .inr ⟨⟨port, e⟩, (mem_refused G cfg name _).mpr ⟨other, hother, hnames, herror⟩, rfl⟩
    rw [Option.bind_some, hrefused]
    exact ⟨fun h => ⟨port, rfl, h⟩, fun ⟨_, heq, h⟩ => Option.some.inj heq ▸ h⟩

/-- What is told, by the refusals of the port and what is shown. -/
theorem told_eq (cfg : ServeConfig) (name : String) (entry : String × TcpPortHandler) :
    (statusEntry G cfg (some name) entry).told =
      if (statusEntry G cfg (some name) entry).refusal.isSome then none
      else
        match shownMounts cfg entry with
        | some mounts => some (.ofMounts (!entry.2.http) mounts)
        | none =>
          if entry.2.tcpForward.isEmpty then none
          else if entry.2.terminateTls.isEmpty then some (.forward entry.2.tcpForward)
          else some (.tlsForward entry.2.tcpForward) := by
  rw [← entryShown_service]
  rfl

/-- Without a refusal the entry is told to be served. -/
def Shows (cfg : ServeConfig) (entry : String × TcpPortHandler) : Prop :=
  (shownMounts cfg entry).isSome = true ∨ entry.2.tcpForward.isEmpty = false

/-- An entry is told to be served unless it is refused or has nothing to show. -/
theorem told_eq_none_iff {cfg : ServeConfig} {name : String} {entry : String × TcpPortHandler} :
    (statusEntry G cfg (some name) entry).told = none ↔
      (statusEntry G cfg (some name) entry).refusal.isSome = true ∨ ¬ Shows cfg entry := by
  rw [told_eq]
  unfold Shows
  cases (statusEntry G cfg (some name) entry).refusal.isSome with
  | true => exact iff_of_true rfl (.inl rfl)
  | false =>
    cases shownMounts cfg entry with
    | some mounts => simp
    | none =>
      cases entry.2.tcpForward.isEmpty with
      | true => simp
      | false => cases entry.2.terminateTls.isEmpty <;> simp

/-! ## Where the two part -/

/-- What an entry shows is not what the engine serves on its port, by the last key of the port that
    it accepts and the mounts of the port. -/
inductive Misshows (cfg : ServeConfig) (entry last : String × TcpPortHandler)
    (mounts : SortedMap String EngineHandler) : Prop
  /-- Nothing is shown. -/
  | silent (hshows : ¬ Shows cfg entry) : Misshows cfg entry last mounts
  /-- Mounts are shown, and the port is a TLS-terminated forward. -/
  | webForTls {shown : SortedMap String EngineHandler} (htls : isTlsForward last.2 = true)
      (hshown : shownMounts cfg entry = some shown) : Misshows cfg entry last mounts
  /-- A forward is shown, and the port forwards elsewhere. -/
  | target (htls : isTlsForward last.2 = true) (hne : entry.2.tcpForward ≠ last.2.tcpForward) :
      Misshows cfg entry last mounts
  /-- No mounts are shown, and the port is a web port. -/
  | tlsForWeb (hweb : isTlsForward last.2 = false) (hshown : shownMounts cfg entry = none) :
      Misshows cfg entry last mounts
  /-- Plain HTTP is shown and the port is HTTPS, or the other way round. -/
  | scheme (hweb : isTlsForward last.2 = false)
      (hne : entry.2.http ≠ (last.2.http && !last.2.https)) : Misshows cfg entry last mounts
  /-- The mounts shown are not those of the port, or their handlers are described otherwise. -/
  | mounts {shown : SortedMap String EngineHandler} (hweb : isTlsForward last.2 = false)
      (hshown : shownMounts cfg entry = some shown)
      (hne : shown.map EngineHandler.desc ≠ mounts.map EngineHandler.desc) :
      Misshows cfg entry last mounts

/-- The kinds of entries of a port that are not told as they are served. -/
inductive PortMisleads (cfg : ServeConfig) (host : String) (port : UInt16)
    (entry : String × TcpPortHandler) : Prop
  /-- A plain forward has a legacy body besides, and the body is shown. -/
  | bodyOnForward {shown : SortedMap String EngineHandler}
      (hplain : isPlainTcpForward entry.2 = true) (hshown : shownMounts cfg entry = some shown) :
      PortMisleads cfg host port entry
  /-- The engine refuses one key of the port, and another one is served. -/
  | refusedBeside (hrefused : PortRefused G cfg host port)
      (hserved : isPlainTcpForward entry.2 = true ∨ (lastKey G cfg host port).isSome = true) :
      PortMisleads cfg host port entry
  /-- The engine serves the port otherwise. -/
  | engine {last : String × TcpPortHandler} (hplain : isPlainTcpForward entry.2 = false)
      (hlast : lastKey G cfg host port = some last)
      (hshows : Misshows cfg entry last (portMounts G cfg host port)) :
      PortMisleads cfg host port entry

/-- The kinds of entries that are not told as they are served: a key that is no port has something
    to show, or the entry is of a kind above. -/
def Misleads (cfg : ServeConfig) (host : String) (entry : String × TcpPortHandler) : Prop :=
  match parseU16 entry.1 with
  | none => Shows cfg entry
  | some port => PortMisleads G cfg host port entry

/-- A plain forward has a target, no flag and no TLS. -/
theorem plainForward_fields {h : TcpPortHandler} (hplain : isPlainTcpForward h = true) :
    h.tcpForward.isEmpty = false ∧ h.https = false ∧ h.http = false ∧
      h.terminateTls.isEmpty = true := by
  unfold isPlainTcpForward at hplain
  simpa [and_assoc] using hplain

/-- A handler has legacy bodies when `is_web_serve` says so. -/
theorem legacyBodies_isEmpty (h : TcpPortHandler) :
    (legacyBodies h).isEmpty = !isWebServe h := by
  have hone (body : WebMount) : (SortedMap.empty.insert "/" body).isEmpty = false := rfl
  unfold legacyBodies isWebServe
  cases hmounts : h.mounts.isEmpty with
  | false =>
    rw [Bool.not_false, if_pos rfl, hmounts, Bool.or_true]
    rfl
  | true =>
    rw [Bool.not_true, if_neg Bool.false_ne_true]
    cases h.text with
    | some body =>
      dsimp only
      rw [hone]
      simp
    | none =>
      cases h.redirect with
      | some r =>
        dsimp only
        rw [hone]
        simp
      | none => cases (h.https || h.http) && !h.tcpForward.isEmpty <;> rfl

/-- A forward that is shown as one, and is not plain, is TLS-terminated. -/
theorem tls_of_forward_shown {cfg : ServeConfig} {entry : String × TcpPortHandler}
    (hplain : isPlainTcpForward entry.2 = false) (hshown : shownMounts cfg entry = none)
    (hforward : entry.2.tcpForward.isEmpty = false) : entry.2.terminateTls.isEmpty = false := by
  have hweb : isWebServe entry.2 = false := by
    unfold shownMounts at hshown
    split at hshown
    · cases hshown
    · rw [legacyBodies_isEmpty] at hshown
      simpa using hshown
  -- under a web flag the forward would be shown as a proxy
  have hflags : entry.2.https = false ∧ entry.2.http = false := by
    unfold isWebServe at hweb
    rw [hforward] at hweb
    simp only [Bool.or_eq_false_iff, Bool.not_false, Bool.and_true] at hweb
    exact hweb.1.1.1
  unfold isPlainTcpForward at hplain
  rw [hforward, hflags.1, hflags.2] at hplain
  simpa using hplain

/-- What `engine_port` leaves out has no flag, no body and no TLS, or is a plain forward. -/
theorem enginePort_none {cfg : ServeConfig} {host : String} {port : UInt16} {h : TcpPortHandler}
    (hplain : isPlainTcpForward h = false) (hnone : enginePort G cfg host port h = .ok none) :
    isTlsForward h = false ∧ (h.https || h.http || isWebServe h) = false := by
  have htls : isTlsForward h = false := by
    by_contra htls
    unfold enginePort at hnone
    rw [hplain, if_neg Bool.false_ne_true] at hnone
    have htls : isTlsForward h = true := by simpa using htls
    unfold isTlsForward at htls
    rw [if_pos htls] at hnone
    cases hnone
  have hweb : isEngineWeb h = false := by
    by_contra hweb
    have hweb : isEngineWeb h = true := by simpa using hweb
    rw [enginePort_web G hweb] at hnone
    obtain ⟨handlers, -, hsome⟩ := except_map_ok hnone
    cases hsome
  refine ⟨htls, ?_⟩
  unfold isEngineWeb at hweb
  unfold isTlsForward at htls
  rw [hplain, htls] at hweb
  simpa using hweb

/-- A key that `engine_port` leaves out, and that is no plain forward, has nothing to show. -/
theorem not_shows_of_unmapped {cfg : ServeConfig} {host : String} {port : UInt16}
    {entry : String × TcpPortHandler} (hplain : isPlainTcpForward entry.2 = false)
    (hnone : enginePort G cfg host port entry.2 = .ok none) : ¬ Shows cfg entry := by
  obtain ⟨htls, hkind⟩ := enginePort_none G hplain hnone
  obtain ⟨hflags, hweb⟩ := Bool.or_eq_false_iff.mp hkind
  obtain ⟨hhttps, hhttp⟩ := Bool.or_eq_false_iff.mp hflags
  have hshown : shownMounts cfg entry = none := by
    unfold shownMounts webEntryShown
    rw [hflags, legacyBodies_isEmpty, hweb]
    rfl
  have hforward : entry.2.tcpForward.isEmpty = true := by
    unfold isPlainTcpForward at hplain
    unfold isTlsForward at htls
    rw [hhttps, hhttp] at hplain htls
    cases hforward : entry.2.tcpForward.isEmpty with
    | true => rfl
    | false =>
      rw [hforward] at hplain
      cases htls' : entry.2.terminateTls.isEmpty with
      | true =>
        rw [htls'] at hplain
        cases hplain
      | false =>
        rw [htls'] at htls
        cases htls
  rintro (hmounts | hshows)
  · rw [hshown] at hmounts
    cases hmounts
  · rw [hforward] at hshows
    cases hshows

/-- A key the engine neither accepts nor refuses was left out by `engine_port`. -/
theorem checkPort_none {cfg : ServeConfig} {host : String} {port : UInt16} {h : TcpPortHandler}
    (hok : checkPort G cfg host port h = .ok none) : enginePort G cfg host port h = .ok none := by
  unfold checkPort at hok
  split at hok
  · cases hok
  · assumption
  · split at hok
    · cases hok
    · cases hok

/-- On a port that is neither refused nor given to the engine only a plain forward shows
    something. -/
theorem not_shows_of_idle {cfg : ServeConfig} {host : String} {port : UInt16}
    {entry : String × TcpPortHandler} (hentry : entry ∈ cfg.tcp.entries)
    (hname : NamesPort entry port) (hplain : isPlainTcpForward entry.2 = false)
    (hrefused : ¬ PortRefused G cfg host port) (hlast : lastKey G cfg host port = none) :
    ¬ Shows cfg entry := by
  have hunmapped : checkPort G cfg host port entry.2 = .ok none := by
    cases hcheck : checkPort G cfg host port entry.2 with
    | error e => exact absurd ⟨entry, hentry, hname, e, hcheck⟩ hrefused
    | ok mapped =>
      cases mapped with
      | none => rfl
      | some one =>
        have hwrite := (tcpWrite_eq_some G).mpr ⟨hname, ⟨one, hcheck⟩, rfl⟩
        have hskipped := List.find?_eq_none.mp hlast entry (List.mem_reverse.mpr hentry)
        rw [hwrite] at hskipped
        exact absurd rfl hskipped
  exact not_shows_of_unmapped G hplain (checkPort_none G hunmapped)

/-- **What is shown agrees with what the engine serves unless it is of one of the six kinds.** -/
theorem shown_eq_served_iff {cfg : ServeConfig} {entry last : String × TcpPortHandler}
    {mounts : SortedMap String EngineHandler} (hplain : isPlainTcpForward entry.2 = false) :
    (entryShown cfg entry.1 entry.2).service entry.2.http =
        some ((engineTcpHandler last.2).service mounts) ↔
      ¬ Misshows cfg entry last mounts := by
  rw [entryShown_service, engineTcpHandler_service]
  cases hshown : shownMounts cfg entry with
  | some shown =>
    have hshows : Shows cfg entry := .inl (by rw [hshown]; rfl)
    cases hkind : isTlsForward last.2 with
    | true => exact iff_of_false (fun h => by cases h) (fun h => h (.webForTls hkind hshown))
    | false =>
      -- both sides are web ports: the schemes and the mounts have to agree
      rw [if_neg Bool.false_ne_true]
      constructor
      · intro htold hmisshows
        have hservice := Option.some.inj htold
        injection hservice with htls hmounts
        cases hmisshows with
        | silent hsilent => exact hsilent hshows
        | webForTls hother _ => exact absurd hother (by simp [hkind])
        | target hother _ => exact absurd hother (by simp [hkind])
        | tlsForWeb _ hnone => exact absurd (hshown.symm.trans hnone) (by simp)
        | scheme _ hne => exact hne (Bool.not_inj htls)
        | mounts _ hother hne =>
          cases hother.symm.trans hshown
          exact hne hmounts
      · intro hmisshows
        have hhttp : entry.2.http = (last.2.http && !last.2.https) := by
          by_contra hne
          exact hmisshows (.scheme hkind hne)
        have hmounts : shown.map EngineHandler.desc = mounts.map EngineHandler.desc := by
          by_contra hne
          exact hmisshows (.mounts hkind hshown hne)
        unfold Service.ofMounts
        dsimp only
        rw [hhttp, hmounts]
  | none =>
    dsimp only
    cases hforward : entry.2.tcpForward.isEmpty with
    | true =>
      have hsilent : ¬ Shows cfg entry := by
        rintro (hmounts | hshows)
        · rw [hshown] at hmounts
          cases hmounts
        · rw [hforward] at hshows
          cases hshows
      rw [if_pos rfl]
      exact iff_of_false (fun h => by cases h) (fun h => h (.silent hsilent))
    | false =>
      -- a forward that is not plain is TLS-terminated, so only its target is left to compare
      have htls := tls_of_forward_shown hplain hshown hforward
      rw [htls, if_neg Bool.false_ne_true, if_neg Bool.false_ne_true]
      cases hkind : isTlsForward last.2 with
      | false => exact iff_of_false (fun h => by cases h) (fun h => h (.tlsForWeb hkind hshown))
      | true =>
        rw [if_pos rfl]
        constructor
        · intro htold hmisshows
          have hservice := Option.some.inj htold
          injection hservice with htarget
          cases hmisshows with
          | silent hsilent => exact hsilent (.inr hforward)
          | webForTls _ hother => exact absurd (hshown.symm.trans hother) (by simp)
          | target _ hne => exact hne htarget
          | tlsForWeb hother _ => exact absurd hother (by simp [hkind])
          | scheme hother _ => exact absurd hother (by simp [hkind])
          | mounts hother _ _ => exact absurd hother (by simp [hkind])
        · intro hmisshows
          have htarget : entry.2.tcpForward = last.2.tcpForward := by
            by_contra hne
            exact hmisshows (.target hkind hne)
          rw [htarget]

section
variable {cfg : ServeConfig} {name : String} {entry : String × TcpPortHandler} {port : UInt16}

/-- A key that is no port is served by no lane. -/
theorem notAPort_truthful_iff (hname : parseU16 entry.1 = none) :
    (statusEntry G cfg (some name) entry).told = laneService G cfg name entry ↔
      ¬ Misleads G cfg (trimEndDots name) entry := by
  have hlane : laneService G cfg name entry = none := by
    unfold laneService
    rw [hname]
  have hrefusal : ¬ (statusEntry G cfg (some name) entry).refusal.isSome = true := by
    rw [refusal_isSome]
    rintro ⟨port, hport, -⟩
    unfold NamesPort at hport
    rw [hname] at hport
    cases hport
  unfold Misleads
  rw [hlane, told_eq_none_iff, hname]
  exact or_iff_right hrefusal

/-- A plain forward is served by the daemon's own lane. -/
theorem plainForward_truthful_iff (hname : NamesPort entry port)
    (hplain : isPlainTcpForward entry.2 = true) :
    (statusEntry G cfg (some name) entry).told = laneService G cfg name entry ↔
      ¬ PortMisleads G cfg (trimEndDots name) port entry := by
  obtain ⟨hforward, hhttps, hhttp, htls⟩ := plainForward_fields hplain
  have hlane : laneService G cfg name entry = some (.forward entry.2.tcpForward) := by
    unfold NamesPort at hname
    unfold laneService
    rw [hname]
    dsimp only
    rw [if_pos hplain]
  have hrefusal := refusal_isSome G cfg name entry
  constructor
  -- what is told is the forward, so nothing is shown before it and no key of the port is refused
  · intro htold hmisleads
    have hshown : shownMounts cfg entry = none ∧
        ¬ (statusEntry G cfg (some name) entry).refusal.isSome = true := by
      rw [hlane, told_eq] at htold
      split at htold
      · cases htold
      · rename_i hunrefused
        split at htold
        · cases htold
        · rename_i hshown
          exact ⟨hshown, hunrefused⟩
    cases hmisleads with
    | bodyOnForward _ hbody =>
      rw [hshown.1] at hbody
      cases hbody
    | refusedBeside hrefused _ => exact hshown.2 (hrefusal.mpr ⟨port, hname, hrefused⟩)
    | engine hother _ _ => exact absurd hplain (by simp [hother])
  · intro hmisleads
    have hunrefused : ¬ (statusEntry G cfg (some name) entry).refusal.isSome = true := by
      rw [hrefusal]
      rintro ⟨port', hname', hrefused⟩
      have hport : port' = port := Option.some.inj (hname'.symm.trans hname)
      subst hport
      exact hmisleads (.refusedBeside hrefused (.inl hplain))
    have hshown : shownMounts cfg entry = none := by
      cases hshown : shownMounts cfg entry with
      | none => rfl
      | some mounts => exact absurd (.bodyOnForward hplain hshown) hmisleads
    rw [told_eq, if_neg hunrefused, hshown, hlane]
    dsimp only
    rw [hforward, htls, if_neg Bool.false_ne_true, if_pos rfl]

/-- A port of the engine is told as it is served when none of its keys is refused and what is shown
    agrees. -/
theorem engine_truthful_iff {last : String × TcpPortHandler} (hname : NamesPort entry port)
    (hplain : isPlainTcpForward entry.2 = false)
    (hlast : lastKey G cfg (trimEndDots name) port = some last) :
    (statusEntry G cfg (some name) entry).told = laneService G cfg name entry ↔
      ¬ PortMisleads G cfg (trimEndDots name) port entry := by
  have hlane : laneService G cfg name entry = some ((engineTcpHandler last.2).service
      (portMounts G cfg (trimEndDots name) port)) := by
    rw [laneService_engine G hname hplain, hlast]
    rfl
  have hrefusal : (statusEntry G cfg (some name) entry).refusal.isSome = true ↔
      PortRefused G cfg (trimEndDots name) port := by
    rw [refusal_isSome]
    constructor
    · rintro ⟨port', hname', hrefused⟩
      rwa [Option.some.inj (hname.symm.trans hname')]
    · exact fun hrefused => ⟨port, hname, hrefused⟩
  have hshown :=
    @shown_eq_served_iff cfg entry last (portMounts G cfg (trimEndDots name) port) hplain
  rw [hlane]
  by_cases hrefused : PortRefused G cfg (trimEndDots name) port
  · refine iff_of_false ?_ (fun h => h (.refusedBeside hrefused (.inr (by rw [hlast]; rfl))))
    rw [told_eq_none_iff G |>.mpr (.inl (hrefusal.mpr hrefused))]
    exact fun h => by cases h
  · have htold : (statusEntry G cfg (some name) entry).told =
        (entryShown cfg entry.1 entry.2).service entry.2.http :=
      if_neg fun h => hrefused (hrefusal.mp h)
    rw [htold, hshown, not_iff_not]
    constructor
    · exact .engine hplain hlast
    · intro hmisleads
      cases hmisleads with
      | bodyOnForward hother _ => exact absurd hother (by simp [hplain])
      | refusedBeside hother _ => exact absurd hother hrefused
      | engine _ hlast' hmisshows =>
        rw [hlast] at hlast'
        cases hlast'
        exact hmisshows

/-- A port that no lane serves is told so. -/
theorem idle_truthful_iff (hentry : entry ∈ cfg.tcp.entries) (hname : NamesPort entry port)
    (hplain : isPlainTcpForward entry.2 = false)
    (hlast : lastKey G cfg (trimEndDots name) port = none) :
    (statusEntry G cfg (some name) entry).told = laneService G cfg name entry ↔
      ¬ PortMisleads G cfg (trimEndDots name) port entry := by
  have hlane : laneService G cfg name entry = none := by
    rw [laneService_engine G hname hplain, hlast]
    rfl
  have htold : (statusEntry G cfg (some name) entry).told = none := by
    rw [told_eq_none_iff, refusal_isSome]
    by_cases hrefused : PortRefused G cfg (trimEndDots name) port
    · exact .inl ⟨port, hname, hrefused⟩
    · exact .inr (not_shows_of_idle G hentry hname hplain hrefused hlast)
  refine iff_of_true (htold.trans hlane.symm) ?_
  intro hmisleads
  cases hmisleads with
  | bodyOnForward hother _ => exact absurd hother (by simp [hplain])
  | refusedBeside _ hserved =>
    rcases hserved with hother | hserved
    · exact absurd hother (by simp [hplain])
    · rw [hlast] at hserved
      cases hserved
  | engine _ hsome _ => exact absurd (hlast.symm.trans hsome) (by simp)

end

/-- **An entry is told as it is served unless it is of a misleading kind.** -/
theorem entry_told_iff {cfg : ServeConfig} (name : String) {entry : String × TcpPortHandler}
    (hentry : entry ∈ cfg.tcp.entries) :
    (statusEntry G cfg (some name) entry).told = laneService G cfg name entry ↔
      ¬ Misleads G cfg (trimEndDots name) entry := by
  cases hname : parseU16 entry.1 with
  | none => exact notAPort_truthful_iff G hname
  | some port =>
    have hkinds : Misleads G cfg (trimEndDots name) entry ↔
        PortMisleads G cfg (trimEndDots name) port entry := by
      unfold Misleads
      rw [hname]
    rw [hkinds]
    cases hplain : isPlainTcpForward entry.2 with
    | true => exact plainForward_truthful_iff G hname hplain
    | false =>
      cases hlast : lastKey G cfg (trimEndDots name) port with
      | none => exact idle_truthful_iff G hentry hname hplain hlast
      | some last => exact engine_truthful_iff G hname hplain hlast

/-! ## The words in what is shown -/

/-- An entry is served, and a text that is shown of it has the words "NOT served". -/
structure ShowsWords (cfg : ServeConfig) (host : String) (entry : String × TcpPortHandler) :
    Prop where
  served : ∃ port, NamesPort entry port ∧
    (isPlainTcpForward entry.2 = true ∨ (lastKey G cfg host port).isSome = true)
  words : ∃ piece ∈ (entryShown cfg entry.1 entry.2).pieces, HasWords piece

/-- A lane serves the plain forwards of a port, and what the engine accepts a key for. -/
theorem laneService_isSome (cfg : ServeConfig) (name : String) (entry : String × TcpPortHandler) :
    (laneService G cfg name entry).isSome = true ↔
      ∃ port, NamesPort entry port ∧
        (isPlainTcpForward entry.2 = true ∨
          (lastKey G cfg (trimEndDots name) port).isSome = true) := by
  cases hname : parseU16 entry.1 with
  | none =>
    unfold laneService NamesPort
    rw [hname]
    exact iff_of_false Bool.false_ne_true (by rintro ⟨_, h, -⟩; cases h)
  | some port =>
    have hport : NamesPort entry port := hname
    have hserved : (laneService G cfg name entry).isSome = true ↔
        isPlainTcpForward entry.2 = true ∨
          (lastKey G cfg (trimEndDots name) port).isSome = true := by
      cases hplain : isPlainTcpForward entry.2 with
      | true =>
        unfold laneService
        rw [hname]
        dsimp only
        rw [if_pos hplain]
        exact iff_of_true rfl (.inl rfl)
      | false =>
        rw [laneService_engine G hport hplain, Option.isSome_map]
        exact (or_iff_right Bool.false_ne_true).symm
    rw [hserved]
    constructor
    · exact fun h => ⟨port, hport, h⟩
    · rintro ⟨port', hport', h⟩
      cases hport.symm.trans hport'
      exact h

/-- **The block of an entry is true unless the entry is of a misleading kind, or served and shown
    with the words "NOT served".** -/
theorem entry_truthful_iff {cfg : ServeConfig} (name : String) {entry : String × TcpPortHandler}
    (hentry : entry ∈ cfg.tcp.entries) :
    EntryTruthful (statusEntry G cfg (some name) entry) (laneService G cfg name entry) ↔
      ¬ Misleads G cfg (trimEndDots name) entry ∧
        ¬ ShowsWords G cfg (trimEndDots name) entry := by
  have htold := entry_told_iff G name hentry
  have hserved := laneService_isSome G cfg name entry
  cases hlane : laneService G cfg name entry with
  | none =>
    rw [hlane] at htold hserved
    rw [entryTruthful_none, htold]
    exact (and_iff_left fun hwords => Bool.false_ne_true (hserved.mpr hwords.served)).symm
  | some service =>
    rw [hlane] at htold hserved
    obtain ⟨port, hport, hkind⟩ := hserved.mp rfl
    rw [entryTruthful_some G hport, htold]
    refine and_congr_right fun _ => ?_
    constructor
    · rintro hpieces ⟨-, piece, hpiece, hwords⟩
      exact hpieces piece hpiece hwords
    · exact fun hnone piece hpiece hwords =>
        hnone ⟨⟨port, hport, hkind⟩, piece, hpiece, hwords⟩

/-- **`tnet serve status` tells the truth exactly where no entry is of a misleading kind**, and none
    that is served is shown with the words "NOT served". -/
theorem serve_status_truthful_iff (cfg : ServeConfig) (name : String) :
    StatusTruthful G cfg name ↔
      ∀ entry ∈ cfg.tcp.entries, ¬ Misleads G cfg (trimEndDots name) entry ∧
        ¬ ShowsWords G cfg (trimEndDots name) entry := by
  have hblocks := forall₂_congr fun entry (hentry : entry ∈ cfg.tcp.entries) =>
    entry_truthful_iff G name hentry
  constructor
  · exact fun h => hblocks.mp h.blocks
  · refine fun h => ⟨fun hsome => ?_, hblocks.mpr h⟩
    unfold formatServeStatus
    rw [hsome]
    rfl

/-- A port served again after the node was renamed: the `Web` entry under the old name stays. -/
def renamedConfig : ServeConfig where
  tcp := SortedMap.empty.insert "443" { https := true }
  web := (SortedMap.empty.insert "desk.example.ts.net:443"
      { handlers := SortedMap.empty.insert "/" { proxy := "http://127.0.0.1:4000" } }).insert
    "node.example.ts.net:443"
      { handlers := SortedMap.empty.insert "/" { proxy := "http://127.0.0.1:3000" } }

/-- **The status may show the backend of a name the node had before.** -/
theorem status_shows_old_backend :
    formatServeStatus proxyEngine renamedConfig (some "node.example.ts.net.") =
        "https://desk.example.ts.net:443 -> proxy -> http://127.0.0.1:4000\n" ∧
      laneService proxyEngine renamedConfig "node.example.ts.net." ("443", { https := true }) =
        some (.web true (SortedMap.empty.insert "/" "proxy -> http://127.0.0.1:3000")) ∧
      ¬ ∀ (G : ServeEngine) (cfg : ServeConfig) (name : String), StatusTruthful G cfg name := by
  have hserved : laneService proxyEngine renamedConfig "node.example.ts.net."
      ("443", { https := true }) =
        some (.web true (SortedMap.empty.insert "/" "proxy -> http://127.0.0.1:3000")) := by
    decide +kernel
  refine ⟨by decide +kernel, hserved, fun hclaim => ?_⟩
  have htold := ((hclaim proxyEngine renamedConfig "node.example.ts.net.").blocks
    ("443", { https := true }) (by decide)).told
  have hshown : (statusEntry proxyEngine renamedConfig (some "node.example.ts.net.")
      ("443", { https := true })).told =
        some (.web true (SortedMap.empty.insert "/" "proxy -> http://127.0.0.1:4000")) := by
    decide +kernel
  rw [hshown, hserved] at htold
  exact absurd htold (by decide +kernel)

end Tailnetd
