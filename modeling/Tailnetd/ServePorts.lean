/-
  Which lane a port of the serve config ends up on (`ipn/serve.rs`, `spawn_serve`).

  The TCP map is keyed by text, and several texts name one port: "443", "0443" and "+443".  Both
  lanes go through the map key by key.  The daemon's own lane starts an accept loop for each plain
  forward; the engine's lane hands over each other port the engine accepts on its own and lists each
  one it refuses.  Nothing brings the keys of one port together, so what is true of a key is true of
  a port only where no other key names it.

  An update of the config is checked port by port and not key by key: every handler that comes in
  has the serve type of every handler its port has already.  Over what the engine arms, the serve
  type decides the protocol.
-/
import Tailnetd.Serving

namespace Tailnetd

variable (G : ServeEngine)

/-! ## One key -/

/-- The key names the port. -/
def NamesPort (entry : String × TcpPortHandler) (port : UInt16) : Prop :=
  parseU16 entry.1 = some port

/-- What the engine's lane makes of one key: nothing, a port the engine accepts, or its refusal. -/
def checkPort (cfg : ServeConfig) (host : String) (port : UInt16) (h : TcpPortHandler) :
    Except G.Error (Option ServeState) :=
  match enginePort G cfg host port h with
  | .error error => .error error
  | .ok none => .ok none
  | .ok (some one) =>
    match G.servePlan one with
    | .error error => .error error
    | .ok () => .ok (some one)

/-- The loop of `build_web_serve_state`, by what it makes of a key. -/
theorem armPort_eq (cfg : ServeConfig) (host : String) (out : EngineServe G)
    (entry : String × TcpPortHandler) :
    armPort G cfg host out entry =
      match parseU16 entry.1 with
      | none => out
      | some port =>
        match checkPort G cfg host port entry.2 with
        | .ok (some one) =>
          { out with
            state := { tcp := out.state.tcp.extend one.tcp, web := out.state.web.extend one.web } }
        | .ok none => out
        | .error error => { out with refused := out.refused ++ [⟨port, error⟩] } := by
  unfold armPort checkPort
  cases parseU16 entry.1 with
  | none => rfl
  | some port =>
    dsimp only
    cases enginePort G cfg host port entry.2 with
    | error e => rfl
    | ok one =>
      cases one with
      | none => rfl
      | some one =>
        cases hplan : G.servePlan one with
        | error e => simp [hplan, bind, Except.bind]
        | ok u => simp [hplan, bind, Except.bind, pure, Except.pure]

/-- An accepted key is one the mapping to the engine made and the engine's check let through. -/
theorem checkPort_served {cfg : ServeConfig} {host : String} {port : UInt16} {h : TcpPortHandler}
    {one : ServeState} (hok : checkPort G cfg host port h = .ok (some one)) :
    enginePort G cfg host port h = .ok (some one) ∧ G.servePlan one = .ok () := by
  unfold checkPort at hok
  split at hok
  · cases hok
  · cases hok
  · rename_i one' hone
    split at hok
    · cases hok
    · rename_i u hplan
      cases hok
      exact ⟨hone, hplan⟩

/-- The handler the engine is given for a port that is no plain forward. -/
def engineTcpHandler (h : TcpPortHandler) : EngineTcpHandler :=
  if !h.terminateTls.isEmpty && !h.https && !h.http then
    { tcpForward := h.tcpForward
      terminateTls := h.terminateTls
      proxyProtocol := h.proxyProtocol.toInt }
  else { https := h.https || !h.http, http := h.http && !h.https }

/-- The web handlers of a port: the node's own `Web` entry, else the legacy body of the key. -/
def webHandlers (cfg : ServeConfig) (host : String) (port : UInt16) (h : TcpPortHandler) :
    Except G.Error (SortedMap String EngineHandler) :=
  match cfg.web.get? (hostPort host port) with
  | some wsc => wsc.handlers.traverse (engineHttpHandler G)
  | none => legacyWebHandlers G h

/-- What a key that is mapped to the engine is mapped to. -/
inductive EnginePort (cfg : ServeConfig) (host : String) (port : UInt16) (h : TcpPortHandler) :
    ServeState → Prop
  /-- A TLS-terminated forward. -/
  | tls (htls : h.terminateTls.isEmpty = false) (hhttps : h.https = false) (hhttp : h.http = false) :
      EnginePort cfg host port h { tcp := SortedMap.empty.insert port (engineTcpHandler h) }
  /-- A web port, with what handlers it has. -/
  | web {handlers : SortedMap String EngineHandler}
      (htls : (!h.terminateTls.isEmpty && !h.https && !h.http) = false)
      (hweb : (h.https || h.http || isWebServe h) = true)
      (hhandlers : webHandlers G cfg host port h = .ok handlers) :
      EnginePort cfg host port h
        { tcp := SortedMap.empty.insert port (engineTcpHandler h)
          web :=
            if handlers.isEmpty then .empty
            else SortedMap.empty.insert (hostPort host port) handlers }

/-- **What `engine_port` maps a key to.** -/
theorem enginePort_cases {cfg : ServeConfig} {host : String} {port : UInt16} {h : TcpPortHandler}
    {one : ServeState} (hone : enginePort G cfg host port h = .ok (some one)) :
    isPlainTcpForward h = false ∧ EnginePort G cfg host port h one := by
  unfold enginePort at hone
  split at hone
  · cases hone
  · rename_i hplain
    refine ⟨by simpa using hplain, ?_⟩
    split at hone
    · rename_i htls
      have htcp : engineTcpHandler h = _ := if_pos htls
      cases hone
      rw [← htcp]
      simp only [Bool.and_eq_true, Bool.not_eq_true'] at htls
      exact .tls htls.1.1 htls.1.2 htls.2
    · rename_i htls
      have htcp : engineTcpHandler h = _ := if_neg htls
      split at hone
      · cases hone
      · rename_i hweb
        have hone : ((webHandlers G cfg host port h).map fun handlers => some
            ({ tcp := SortedMap.empty.insert port (engineTcpHandler h)
               web :=
                 if handlers.isEmpty then .empty
                 else SortedMap.empty.insert (hostPort host port) handlers } : ServeState)) =
            .ok (some one) := by
          rw [htcp]
          exact hone
        cases hhandlers : webHandlers G cfg host port h with
        | error e =>
          rw [hhandlers] at hone
          cases hone
        | ok handlers =>
          rw [hhandlers] at hone
          cases hone
          exact .web (by simpa using htls)
            (by simpa only [Bool.not_eq_true', Bool.not_eq_false] using hweb) hhandlers

/-- A port that is mapped to the engine brings one handler. -/
theorem enginePort_tcp {cfg : ServeConfig} {host : String} {port : UInt16} {h : TcpPortHandler}
    {one : ServeState} (hone : enginePort G cfg host port h = .ok (some one)) :
    one.tcp = SortedMap.empty.insert port (engineTcpHandler h) := by
  obtain ⟨-, hcases⟩ := enginePort_cases G hone
  cases hcases with
  | tls htls hhttps hhttp => rfl
  | web htls hweb hhandlers => rfl

/-! ## The whole map -/

/-- What one key writes, of what is read off the state. -/
def keyWrite {β : Type} (get : ServeState → Option β) (cfg : ServeConfig) (host : String)
    (entry : String × TcpPortHandler) : Option β :=
  (parseU16 entry.1).bind fun port =>
    match checkPort G cfg host port entry.2 with
    | .ok (some one) => get one
    | _ => none

/-- **The last key that writes something decides it.** -/
theorem buildWebServeState_read {β : Type} (get : ServeState → Option β)
    (hextend : ∀ s one : ServeState,
      get { tcp := s.tcp.extend one.tcp, web := s.web.extend one.web } = (get one).or (get s))
    (hempty : get {} = none) (cfg : ServeConfig) (name : String) :
    get (buildWebServeState G cfg name).state =
      cfg.tcp.entries.reverse.findSome? (keyWrite G get cfg (trimEndDots name)) := by
  have hwrite (out : EngineServe G) (entry : String × TcpPortHandler) :
      get (armPort G cfg (trimEndDots name) out entry).state =
        (keyWrite G get cfg (trimEndDots name) entry).or (get out.state) := by
    rw [armPort_eq]
    unfold keyWrite
    cases parseU16 entry.1 with
    | none => rfl
    | some named =>
      simp only [Option.bind_some]
      rcases checkPort G cfg (trimEndDots name) named entry.2 with e | _ | one
      · rfl
      · rfl
      · exact hextend _ _
  unfold buildWebServeState
  rw [SortedMap.foldl_last_write (fun out : EngineServe G => get out.state) hwrite, hempty]
  exact Option.or_none

/-- A key that writes something was accepted under the port it names. -/
theorem keyWrite_eq_some {β : Type} {get : ServeState → Option β} {cfg : ServeConfig}
    {host : String} {entry : String × TcpPortHandler} {v : β} :
    keyWrite G get cfg host entry = some v ↔
      ∃ port one, NamesPort entry port ∧ checkPort G cfg host port entry.2 = .ok (some one) ∧
        get one = some v := by
  unfold keyWrite NamesPort
  cases hnames : parseU16 entry.1 with
  | none => simp
  | some port =>
    simp only [Option.bind_some, Option.some.injEq]
    constructor
    · intro h
      split at h
      · rename_i one hok
        exact ⟨port, one, rfl, hok, h⟩
      · cases h
    · rintro ⟨_, one, rfl, hok, h⟩
      rw [hok]
      exact h

/-- What one key writes for a port of the engine. -/
def tcpWrite (cfg : ServeConfig) (host : String) (port : UInt16)
    (entry : String × TcpPortHandler) : Option EngineTcpHandler :=
  keyWrite G (fun s => s.tcp.get? port) cfg host entry

/-- The last key of a port that the engine accepts decides its handler. -/
theorem buildWebServeState_tcp (cfg : ServeConfig) (name : String) (port : UInt16) :
    (buildWebServeState G cfg name).state.tcp.get? port =
      cfg.tcp.entries.reverse.findSome? (tcpWrite G cfg (trimEndDots name) port) :=
  buildWebServeState_read G (fun s => s.tcp.get? port)
    (fun _ _ => SortedMap.get?_extend _ _ _) rfl cfg name

/-- A key writes only for the port it names. -/
theorem tcpWrite_eq_some {cfg : ServeConfig} {host : String} {port : UInt16}
    {entry : String × TcpPortHandler} {th : EngineTcpHandler} :
    tcpWrite G cfg host port entry = some th ↔
      NamesPort entry port ∧ (∃ one, checkPort G cfg host port entry.2 = .ok (some one)) ∧
        engineTcpHandler entry.2 = th := by
  unfold tcpWrite
  rw [keyWrite_eq_some]
  constructor
  · rintro ⟨named, one, hnames, hok, hget⟩
    rw [enginePort_tcp G (checkPort_served G hok).1, SortedMap.get?_insert] at hget
    split at hget
    · rename_i hport
      subst hport
      exact ⟨hnames, ⟨one, hok⟩, Option.some.inj hget⟩
    · cases hget
  · rintro ⟨hnames, ⟨one, hok⟩, rfl⟩
    refine ⟨port, one, hnames, hok, ?_⟩
    rw [enginePort_tcp G (checkPort_served G hok).1, SortedMap.get?_insert, if_pos rfl]

/-- **The engine is given a port exactly when it accepts some key of it.** -/
theorem served_iff (cfg : ServeConfig) (name : String) (port : UInt16) :
    ((buildWebServeState G cfg name).state.tcp.get? port).isSome = true ↔
      ∃ entry ∈ cfg.tcp.entries, NamesPort entry port ∧
        ∃ one, checkPort G cfg (trimEndDots name) port entry.2 = .ok (some one) := by
  rw [buildWebServeState_tcp, List.findSome?_isSome_iff]
  constructor
  · rintro ⟨entry, hentry, hwrites⟩
    obtain ⟨th, hth⟩ := Option.isSome_iff_exists.mp hwrites
    obtain ⟨hnames, hok, -⟩ := (tcpWrite_eq_some G).mp hth
    exact ⟨entry, List.mem_reverse.mp hentry, hnames, hok⟩
  · rintro ⟨entry, hentry, hnames, hok⟩
    refine ⟨entry, List.mem_reverse.mpr hentry, Option.isSome_iff_exists.mpr ?_⟩
    exact ⟨_, (tcpWrite_eq_some G).mpr ⟨hnames, hok, rfl⟩⟩

/-- **A port is refused exactly when the engine refuses some key of it.** -/
theorem mem_refused (cfg : ServeConfig) (name : String) (r : RefusedPort G) :
    r ∈ (buildWebServeState G cfg name).refused ↔
      ∃ entry ∈ cfg.tcp.entries, NamesPort entry r.port ∧
        checkPort G cfg (trimEndDots name) r.port entry.2 = .error r.error := by
  have hgen : ∀ (entries : List (String × TcpPortHandler)) (out : EngineServe G),
      r ∈ (entries.foldl (armPort G cfg (trimEndDots name)) out).refused ↔
        r ∈ out.refused ∨ ∃ entry ∈ entries, NamesPort entry r.port ∧
          checkPort G cfg (trimEndDots name) r.port entry.2 = .error r.error := by
    intro entries
    induction entries with
    | nil => simp
    | cons entry rest ih =>
      intro out
      have hhead : r ∈ (armPort G cfg (trimEndDots name) out entry).refused ↔
          r ∈ out.refused ∨ (NamesPort entry r.port ∧
            checkPort G cfg (trimEndDots name) r.port entry.2 = .error r.error) := by
        rw [armPort_eq]
        unfold NamesPort
        cases hnames : parseU16 entry.1 with
        | none => simp
        | some port =>
          dsimp only
          rcases hcheck : checkPort G cfg (trimEndDots name) port entry.2 with e | _ | one
          · simp only [List.mem_append, List.mem_singleton, Option.some.injEq]
            refine or_congr_right ?_
            constructor
            · rintro rfl
              exact ⟨rfl, hcheck⟩
            · rintro ⟨rfl, h⟩
              rw [hcheck] at h
              cases h
              rfl
          · simp only [Option.some.injEq, iff_self_or, and_imp]
            rintro rfl h
            rw [hcheck] at h
            cases h
          · simp only [Option.some.injEq, iff_self_or, and_imp]
            rintro rfl h
            rw [hcheck] at h
            cases h
      rw [List.foldl_cons, ih, hhead, or_assoc]
      simp only [List.mem_cons, exists_eq_or_imp]
  rw [buildWebServeState, hgen]
  simp

/-! ## The claims on a port -/

/-- The accept loops `spawn_serve` starts: one for each key of a plain forward, with its target. -/
def plainForwardLoops (cfg : ServeConfig) : List (UInt16 × String) :=
  cfg.tcp.entries.filterMap fun entry =>
    (parseU16 entry.1).bind fun port =>
      if isPlainTcpForward entry.2 then some (port, entry.2.tcpForward) else none

/-- A loop comes from a key of its port. -/
theorem mem_plainForwardLoops {cfg : ServeConfig} {port : UInt16} {target : String} :
    (port, target) ∈ plainForwardLoops cfg ↔
      ∃ entry ∈ cfg.tcp.entries, NamesPort entry port ∧ isPlainTcpForward entry.2 = true ∧
        entry.2.tcpForward = target := by
  unfold plainForwardLoops NamesPort
  rw [List.mem_filterMap]
  refine exists_congr fun entry => and_congr_right fun _ => ?_
  cases parseU16 entry.1 with
  | none => simp
  | some named =>
    cases isPlainTcpForward entry.2 with
    | false => simp
    | true => simp

/-- The loops of a port, counted by the keys. -/
theorem plainForwardLoops_count (cfg : ServeConfig) (port : UInt16) :
    (plainForwardLoops cfg).countP (fun loop => loop.1 == port) =
      cfg.tcp.entries.countP fun entry =>
        parseU16 entry.1 == some port && isPlainTcpForward entry.2 := by
  unfold plainForwardLoops
  rw [List.countP_filterMap]
  refine congrArg (fun p => List.countP p cfg.tcp.entries) (funext fun entry => ?_)
  cases parseU16 entry.1 with
  | none => rfl
  | some named => cases isPlainTcpForward entry.2 <;> simp

/-- The port is claimed once at most: by one accept loop, or by the engine, which then did not
    refuse it. -/
structure ClaimedOnce (cfg : ServeConfig) (name : String) (port : UInt16) : Prop where
  oneLoop : (plainForwardLoops cfg).countP (fun loop => loop.1 == port) ≤ 1
  loopApart : (∃ target, (port, target) ∈ plainForwardLoops cfg) →
    (buildWebServeState G cfg name).state.tcp.get? port = none
  refusedApart : (∃ r ∈ (buildWebServeState G cfg name).refused, r.port = port) →
    (buildWebServeState G cfg name).state.tcp.get? port = none

/-- Two keys of the port claim it. -/
inductive ClaimedTwice (cfg : ServeConfig) (host : String) (port : UInt16) : Prop
  /-- Both are plain forwards. -/
  | loops {a b : String × TcpPortHandler} (ha : a ∈ cfg.tcp.entries) (hb : b ∈ cfg.tcp.entries)
      (hname : NamesPort a port) (hname' : NamesPort b port) (hkeys : a.1 ≠ b.1)
      (hplain : isPlainTcpForward a.2 = true) (hplain' : isPlainTcpForward b.2 = true) :
      ClaimedTwice cfg host port
  /-- One is a plain forward, the other a port the engine accepts. -/
  | loopServed {a b : String × TcpPortHandler} {one : ServeState} (ha : a ∈ cfg.tcp.entries)
      (hb : b ∈ cfg.tcp.entries) (hname : NamesPort a port) (hname' : NamesPort b port)
      (hplain : isPlainTcpForward a.2 = true)
      (hserved : checkPort G cfg host port b.2 = .ok (some one)) : ClaimedTwice cfg host port
  /-- The engine accepts one and refuses the other. -/
  | servedRefused {a b : String × TcpPortHandler} {one : ServeState} {error : G.Error}
      (ha : a ∈ cfg.tcp.entries) (hb : b ∈ cfg.tcp.entries) (hname : NamesPort a port)
      (hname' : NamesPort b port) (hserved : checkPort G cfg host port a.2 = .ok (some one))
      (hrefused : checkPort G cfg host port b.2 = .error error) : ClaimedTwice cfg host port

/-- **A port is claimed once unless two of its keys claim it.** -/
theorem port_claimed_once_iff (cfg : ServeConfig) (name : String) (port : UInt16) :
    ClaimedOnce G cfg name port ↔ ¬ ClaimedTwice G cfg (trimEndDots name) port := by
  have hserved := served_iff G cfg name port
  have hnone : (buildWebServeState G cfg name).state.tcp.get? port = none ↔
      ¬ ∃ entry ∈ cfg.tcp.entries, NamesPort entry port ∧
        ∃ one, checkPort G cfg (trimEndDots name) port entry.2 = .ok (some one) := by
    rw [← hserved, Option.not_isSome_iff_eq_none]
  have hcount : (plainForwardLoops cfg).countP (fun loop => loop.1 == port) ≤ 1 ↔
      ∀ a ∈ cfg.tcp.entries, ∀ b ∈ cfg.tcp.entries,
        (NamesPort a port ∧ isPlainTcpForward a.2 = true) →
        (NamesPort b port ∧ isPlainTcpForward b.2 = true) → a.1 = b.1 := by
    rw [plainForwardLoops_count, SortedMap.countP_le_one_iff]
    simp only [Bool.and_eq_true, beq_iff_eq]
    rfl
  constructor
  · intro h htwice
    cases htwice with
    | loops ha hb hname hname' hkeys hplain hplain' =>
      exact hkeys (hcount.mp h.oneLoop _ ha _ hb ⟨hname, hplain⟩ ⟨hname', hplain'⟩)
    | loopServed ha hb hname hname' hplain hserved =>
      have hloop := mem_plainForwardLoops.mpr ⟨_, ha, hname, hplain, rfl⟩
      exact hnone.mp (h.loopApart ⟨_, hloop⟩) ⟨_, hb, hname', _, hserved⟩
    | servedRefused ha hb hname hname' hserved hrefused =>
      have href := (mem_refused G cfg name ⟨port, _⟩).mpr ⟨_, hb, hname', hrefused⟩
      exact hnone.mp (h.refusedApart ⟨_, href, rfl⟩) ⟨_, ha, hname, _, hserved⟩
  · intro h
    refine ⟨hcount.mpr ?_, ?_, ?_⟩
    · rintro a ha b hb ⟨hname, hplain⟩ ⟨hname', hplain'⟩
      by_contra hkeys
      exact h (.loops ha hb hname hname' hkeys hplain hplain')
    · rintro ⟨target, hloop⟩
      obtain ⟨a, ha, hname, hplain, -⟩ := mem_plainForwardLoops.mp hloop
      refine hnone.mpr ?_
      rintro ⟨b, hb, hname', one, hone⟩
      exact h (.loopServed ha hb hname hname' hplain hone)
    · rintro ⟨r, hr, rfl⟩
      obtain ⟨b, hb, hname', hrefused⟩ := (mem_refused G cfg name r).mp hr
      refine hnone.mpr ?_
      rintro ⟨a, ha, hname, one, hone⟩
      exact h (.servedRefused ha hb hname hname' hone hrefused)

/-- Two spellings of one port, each a plain forward. -/
def aliasedForwards : ServeConfig where
  tcp := (SortedMap.empty.insert "80" { tcpForward := "127.0.0.1:3000" }).insert "080"
    { tcpForward := "127.0.0.1:4000" }

/-- **Two spellings of a port start two accept loops.** -/
theorem aliased_port_two_loops :
    ¬ ∀ (G : ServeEngine) (cfg : ServeConfig) (name : String) (port : UInt16),
      ClaimedOnce G cfg name port := by
  intro hclaim
  have hone := (hclaim proxyEngine aliasedForwards "node.example.ts.net." 80).oneLoop
  exact absurd hone (by decide)

/-! ## The protocol of a port -/

/-- The protocol a port is armed with. -/
inductive Protocol where
  | https | http | tlsTerminatedTcp | tcp
  deriving DecidableEq

/-- The protocol the engine speaks for a handler it is given. -/
def EngineTcpHandler.protocol (h : EngineTcpHandler) : Protocol :=
  if h.https then .https
  else if h.http then .http
  else if !h.terminateTls.isEmpty then .tlsTerminatedTcp
  else .tcp

/-- The protocol a serve type stands for, by whether the handler is flagged HTTPS: a handler with
    both flags has the HTTP type, and is armed HTTPS. -/
def ServeType.protocol (https : Bool) : ServeType → Protocol
  | .http => if https then .https else .http
  | .https => .https
  | .tlsTerminatedTcp => .tlsTerminatedTcp
  | .tcp => .tcp
  | .unknown => .tcp

/-- The lane a port is armed on, and the protocol it speaks there. -/
inductive ArmsAs (cfg : ServeConfig) (name : String) (port : UInt16) : Protocol → Prop
  | loop {target : String} (hloop : (port, target) ∈ plainForwardLoops cfg) :
      ArmsAs cfg name port .tcp
  | engine {th : EngineTcpHandler}
      (hserved : (buildWebServeState G cfg name).state.tcp.get? port = some th) :
      ArmsAs cfg name port th.protocol

/-- A plain forward has the TCP type. -/
theorem serveType_plain {h : TcpPortHandler} (hplain : isPlainTcpForward h = true) :
    serveType h = .tcp := by
  unfold isPlainTcpForward at hplain
  simp only [Bool.and_eq_true, Bool.not_eq_true'] at hplain
  obtain ⟨⟨⟨hforward, hhttps⟩, hhttp⟩, htls⟩ := hplain
  simp [serveType, hforward, hhttps, hhttp, htls]

/-- **What the engine is given for a key speaks the protocol of its serve type.** -/
theorem engineTcpHandler_protocol {cfg : ServeConfig} {host : String} {port : UInt16}
    {h : TcpPortHandler} {one : ServeState} (hone : enginePort G cfg host port h = .ok (some one)) :
    (engineTcpHandler h).protocol = (serveType h).protocol h.https := by
  obtain ⟨hplain, hcases⟩ := enginePort_cases G hone
  cases hcases with
  | tls htls hhttps hhttp =>
    simp [engineTcpHandler, EngineTcpHandler.protocol, serveType, ServeType.protocol, htls, hhttps,
      hhttp]
  | web htls hweb hhandlers =>
    unfold engineTcpHandler
    rw [if_neg (by simpa using htls)]
    cases hhttp : h.http with
    | true => cases hhttps : h.https <;>
        simp [EngineTcpHandler.protocol, serveType, ServeType.protocol, hhttp]
    | false =>
      cases hhttps : h.https with
      | true => simp [EngineTcpHandler.protocol, serveType, ServeType.protocol, hhttp, hhttps]
      | false =>
        -- without a flag only a legacy body is left, and it has no forward beside it
        have htls : h.terminateTls.isEmpty = true := by simpa [hhttp, hhttps] using htls
        have hforward : h.tcpForward.isEmpty = true := by
          simpa [isPlainTcpForward, hhttp, hhttps, htls] using hplain
        have hbody : (h.text.isSome || h.redirect.isSome || !h.mounts.isEmpty) = true := by
          simpa [isWebServe, hhttp, hhttps, Bool.or_assoc] using hweb
        have htype : serveType h = .https := by
          unfold serveType
          rw [hhttp, hhttps, htls, hforward, hbody]
          rfl
        rw [htype]
        rfl

/-- An armed port has a key whose type stands for its protocol; the engine accepted it, unless it is
    a plain forward. -/
theorem armsAs_key {cfg : ServeConfig} {name : String} {port : UInt16} {p : Protocol}
    (h : ArmsAs G cfg name port p) :
    ∃ entry ∈ cfg.tcp.entries, NamesPort entry port ∧
      (serveType entry.2).protocol entry.2.https = p ∧
      (p = .http → ∃ one th, G.servePlan one = .ok () ∧ one.tcp.get? port = some th ∧
        th.protocol = .http) := by
  cases h with
  | loop hloop =>
    obtain ⟨entry, hentry, hname, hplain, -⟩ := mem_plainForwardLoops.mp hloop
    refine ⟨entry, hentry, hname, ?_, fun h => by cases h⟩
    rw [serveType_plain hplain]
    rfl
  | engine hserved =>
    rw [buildWebServeState_tcp] at hserved
    obtain ⟨entry, hentry, hwrite⟩ := List.exists_of_findSome?_eq_some hserved
    obtain ⟨hname, ⟨one, hok⟩, rfl⟩ := (tcpWrite_eq_some G).mp hwrite
    obtain ⟨hone, hplan⟩ := checkPort_served G hok
    refine ⟨entry, List.mem_reverse.mp hentry, hname, (engineTcpHandler_protocol G hone).symm, ?_⟩
    intro hhttp
    refine ⟨one, _, hplan, ?_, hhttp⟩
    rw [enginePort_tcp G hone, SortedMap.get?_insert, if_pos rfl]

/-- An accepted update brings handlers of the type its port has already. -/
theorem validate_serveType {old new : ServeConfig}
    (h : validateServeConfigUpdate old new = .ok ()) {a b : String × TcpPortHandler} {port : UInt16}
    (ha : a ∈ new.tcp.entries) (hb : b ∈ old.tcp.entries) (hname : NamesPort a port)
    (hname' : NamesPort b port) : serveType a.2 = serveType b.2 := by
  unfold validateServeConfigUpdate at h
  split at h
  · cases h
  · rename_i hnone
    have hkey := List.findSome?_eq_none_iff.mp hnone a ha
    unfold portConflict at hkey
    rw [hname] at hkey
    have hfind := List.find?_eq_none.mp (Option.map_eq_none_iff.mp hkey) b hb
    rw [hname'] at hfind
    simpa using hfind

/-- **Under any engine an accepted update can only change a port between HTTPS and HTTP**, where one
    of the two handlers carries both flags. -/
theorem update_protocol {old new : ServeConfig} (h : validateServeConfigUpdate old new = .ok ())
    {oldName newName : String} {port : UInt16} {p p' : Protocol}
    (hold : ArmsAs G old oldName port p) (hnew : ArmsAs G new newName port p') :
    p' = p ∨ (p = .https ∧ p' = .http) ∨ (p = .http ∧ p' = .https) := by
  obtain ⟨b, hb, hname', rfl, -⟩ := armsAs_key G hold
  obtain ⟨a, ha, hname, rfl, -⟩ := armsAs_key G hnew
  rw [validate_serveType h ha hb hname hname']
  cases serveType b.2 with
  | http => cases a.2.https <;> cases b.2.https <;> simp [ServeType.protocol]
  | https => exact .inl rfl
  | tcp => exact .inl rfl
  | tlsTerminatedTcp => exact .inl rfl
  | unknown => exact .inl rfl

/-- The engine refuses plain-HTTP ports, rather than terminate TLS on a port that asked not to. -/
def ServeEngine.RefusesHttp : Prop :=
  ∀ (state : ServeState) (port : UInt16) (th : EngineTcpHandler),
    state.tcp.get? port = some th → th.protocol = .http → G.servePlan state ≠ .ok ()

/-- An engine that refuses plain HTTP arms no port with it. -/
theorem armsAs_not_http (hG : G.RefusesHttp) {cfg : ServeConfig} {name : String} {port : UInt16}
    {p : Protocol} (h : ArmsAs G cfg name port p) : p ≠ .http := by
  rintro rfl
  obtain ⟨entry, -, -, -, hhttp⟩ := armsAs_key G h
  obtain ⟨one, th, hplan, hth, hprotocol⟩ := hhttp rfl
  exact hG one port th hth hprotocol hplan

/-- **An accepted update keeps the protocol of every port both configs arm.** -/
theorem serve_update_keeps_protocol (hG : G.RefusesHttp) {old new : ServeConfig}
    (h : validateServeConfigUpdate old new = .ok ()) {oldName newName : String} {port : UInt16}
    {p p' : Protocol} (hold : ArmsAs G old oldName port p) (hnew : ArmsAs G new newName port p') :
    p' = p := by
  rcases update_protocol G h hold hnew with heq | ⟨-, rfl⟩ | ⟨rfl, -⟩
  · exact heq
  · exact absurd rfl (armsAs_not_http G hG hnew)
  · exact absurd rfl (armsAs_not_http G hG hold)

/-- An engine for HTTPS ports alone refuses plain HTTP. -/
theorem proxyEngine_refusesHttp : proxyEngine.RefusesHttp := by
  intro state port th hth hprotocol hplan
  have hhttps : th.https = false := by
    unfold EngineTcpHandler.protocol at hprotocol
    by_contra h
    rw [if_pos (by simpa using h)] at hprotocol
    cases hprotocol
  unfold proxyEngine at hplan
  dsimp only at hplan
  split at hplan
  · rename_i hall
    rw [Bool.and_eq_true, List.all_eq_true] at hall
    have := hall.1 _ (SortedMap.get?_eq_some_iff.mp hth)
    rw [hhttps] at this
    cases this
  · cases hplan

/-- The same port with another backend. -/
def retargetedConfig : ServeConfig :=
  { funnelConfig with
    web := SortedMap.empty.insert "node.example.ts.net:443"
      { handlers := SortedMap.empty.insert "/" { proxy := "http://127.0.0.1:4000" } } }

/-- An HTTPS port stays one under another backend. -/
theorem serve_update_keeps_protocol_retargeted :
    ArmsAs proxyEngine funnelConfig "node.example.ts.net." 443 .https ∧
      ∃ p, ArmsAs proxyEngine retargetedConfig "node.example.ts.net." 443 p ∧ p = .https := by
  have hold : ArmsAs proxyEngine funnelConfig "node.example.ts.net." 443 .https :=
    @ArmsAs.engine _ _ _ _ { https := true } (by decide)
  have hnew : ArmsAs proxyEngine retargetedConfig "node.example.ts.net." 443 _ :=
    @ArmsAs.engine _ _ _ _ { https := true } (by decide)
  have hvalid : validateServeConfigUpdate funnelConfig retargetedConfig = .ok () := rfl
  exact ⟨hold, _, hnew,
    serve_update_keeps_protocol proxyEngine proxyEngine_refusesHttp hvalid hold hnew⟩

end Tailnetd
