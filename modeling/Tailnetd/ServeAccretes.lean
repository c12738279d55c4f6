/-
  How a web edit accretes on a port (`tnet.rs`, `ipn/serve.rs`).

  `build_web_serve` puts one mount into the `Web` entry of its port, and first brings a legacy body
  into that shape.  The engine's side makes the same conversion when it reads the port, so that on a
  port the engine serves the edit adds or replaces one handler and changes nothing else.  The two
  part in three places, and in each the edit may bring back handlers that nobody was served:

  * the CLI picks up the `Web` entry, or the body, of a port whose TCP half is no web port;
  * the CLI writes a redirect of any status, and the engine refuses the legacy one outside 3xx;
  * the engine refuses a port as a whole, and the edit may replace the very handler it refused.
-/
import Tailnetd.PortText

namespace Tailnetd

variable (G : ServeEngine)

/-! ## What the engine reads off a key -/

/-- `engine_port` on the handler of one key of the TCP map. -/
def enginePortOf (cfg : ServeConfig) (host : String) (key : String) :
    Except G.Error (Option ServeState) :=
  match parseU16 key, cfg.tcp.get? key with
  | some port, some h => enginePort G cfg host port h
  | _, _ => .ok none

/-- The mounts of a port in what `engine_port` made of it. -/
def mountsOf (host : String) (port : UInt16) (one : Option ServeState) :
    SortedMap String EngineHandler :=
  match one with
  | some state => (state.web.get? (hostPort host port)).getD .empty
  | none => .empty

/-- The mounts `engine_port` yields for a port, or its refusal. -/
def servedMounts (cfg : ServeConfig) (host : String) (port : UInt16) :
    Except G.Error (SortedMap String EngineHandler) :=
  (enginePortOf G cfg host (tcpKey port)).map (mountsOf host port)

/-- The branch of `engine_port` that serves the web. -/
def isEngineWeb (h : TcpPortHandler) : Bool :=
  !isPlainTcpForward h && !(!h.terminateTls.isEmpty && !h.https && !h.http) &&
    (h.https || h.http || isWebServe h)

/-- The handler of a web port, if the port is one. -/
def webPort (cfg : ServeConfig) (port : UInt16) : Option TcpPortHandler :=
  (cfg.tcp.get? (tcpKey port)).filter isEngineWeb

theorem webPort_eq_some {cfg : ServeConfig} {port : UInt16} {h : TcpPortHandler} :
    webPort cfg port = some h ↔ cfg.tcp.get? (tcpKey port) = some h ∧ isEngineWeb h = true :=
  Option.filter_eq_some_iff

theorem enginePortOf_tcpKey (cfg : ServeConfig) (host : String) (port : UInt16) :
    enginePortOf G cfg host (tcpKey port) =
      match cfg.tcp.get? (tcpKey port) with
      | some h => enginePort G cfg host port h
      | none => .ok none := by
  unfold enginePortOf tcpKey
  rw [parseU16_portText]
  cases cfg.tcp.get? (toString port.toNat) with
  | none => rfl
  | some h => rfl

/-- A web port goes to the engine with the handlers it has. -/
theorem enginePort_web {cfg : ServeConfig} {host : String} {port : UInt16} {h : TcpPortHandler}
    (hweb : isEngineWeb h = true) :
    enginePort G cfg host port h = (webHandlers G cfg host port h).map fun handlers => some
      { tcp := SortedMap.empty.insert port
          { https := h.https || !h.http, http := h.http && !h.https }
        web :=
          if handlers.isEmpty then .empty
          else SortedMap.empty.insert (hostPort host port) handlers } := by
  unfold isEngineWeb at hweb
  simp only [Bool.and_eq_true, Bool.not_eq_true'] at hweb
  obtain ⟨⟨hplain, htls⟩, hflags⟩ := hweb
  unfold enginePort webHandlers
  rw [hplain, htls, hflags]
  rfl

/-- The mounts of a web port are its handlers. -/
theorem servedMounts_web {cfg : ServeConfig} {host : String} {port : UInt16} {h : TcpPortHandler}
    (hweb : webPort cfg port = some h) :
    servedMounts G cfg host port = webHandlers G cfg host port h := by
  obtain ⟨hget, hkind⟩ := webPort_eq_some.mp hweb
  unfold servedMounts
  rw [enginePortOf_tcpKey, hget]
  dsimp only
  rw [enginePort_web G hkind]
  cases webHandlers G cfg host port h with
  | error e => rfl
  | ok handlers =>
    refine congrArg Except.ok ?_
    unfold mountsOf
    dsimp only
    cases hempty : handlers.isEmpty with
    | true =>
      refine SortedMap.eq_of_get? fun k => ?_
      rw [SortedMap.get?_of_isEmpty hempty]
      rfl
    | false =>
      rw [if_neg Bool.false_ne_true, SortedMap.get?_insert, if_pos rfl]
      rfl

/-- A port that is no web port has no mounts, and is not refused for them. -/
theorem servedMounts_other {cfg : ServeConfig} (host : String) {port : UInt16}
    (hweb : webPort cfg port = none) : servedMounts G cfg host port = .ok .empty := by
  unfold servedMounts
  rw [enginePortOf_tcpKey]
  cases hget : cfg.tcp.get? (tcpKey port) with
  | none => rfl
  | some h =>
    have hkind : isEngineWeb h = false := by
      unfold webPort at hweb
      rw [hget] at hweb
      simpa using hweb
    dsimp only
    unfold enginePort
    unfold isEngineWeb at hkind
    cases hplain : isPlainTcpForward h with
    | true => rfl
    | false =>
      cases htls : (!h.terminateTls.isEmpty && !h.https && !h.http) with
      | true => rfl
      | false =>
        rw [hplain, htls] at hkind
        simp only [Bool.not_false, Bool.true_and] at hkind
        rw [hkind]
        rfl

/-! ## The two migrations -/

/-- The body of a legacy handler as mounts, in the precedence both sides follow. -/
def legacyBodies (h : TcpPortHandler) : SortedMap String WebMount :=
  if !h.mounts.isEmpty then h.mounts
  else
    match h.text, h.redirect with
    | some body, _ => SortedMap.empty.insert "/" (.text body)
    | none, some r => SortedMap.empty.insert "/" (.redirect r.target r.status)
    | none, none =>
      if (h.https || h.http) && !h.tcpForward.isEmpty then
        SortedMap.empty.insert "/" (.proxy h.tcpForward)
      else .empty

/-- The engine's side converts each body, and refuses the handler when it refuses one. -/
theorem legacyWebHandlers_eq (h : TcpPortHandler) :
    legacyWebHandlers G h = (legacyBodies h).traverse (legacyMount G) := by
  have hone (v : WebMount) : (SortedMap.empty.insert "/" v).traverse (legacyMount G) =
      (legacyMount G v).map (SortedMap.empty.insert "/") := by
    change ((legacyMount G v).map _ >>= pure) = _
    rw [bind_pure]
  unfold legacyWebHandlers legacyBodies
  split
  · rfl
  · cases htext : h.text with
    | some body => exact (hone (.text body)).symm
    | none =>
      cases hredirect : h.redirect with
      | some r => exact (hone (.redirect r.target r.status)).symm
      | none =>
        dsimp only
        split
        · exact (hone (.proxy h.tcpForward)).symm
        · rfl

/-- The CLI's side writes each body as it is. -/
theorem existingWebHandlers_legacy {cfg : ServeConfig} {host : String} {port : UInt16}
    {h : TcpPortHandler} (hown : cfg.web.get? (hostPort host port) = none)
    (hget : cfg.tcp.get? (tcpKey port) = some h) (mount : String) :
    (existingWebHandlers cfg host port).get? mount =
      ((legacyBodies h).get? mount).map mountHandler := by
  have hone (v : WebMount) : (SortedMap.empty.insert "/" (mountHandler v)).get? mount =
      ((SortedMap.empty.insert "/" v).get? mount).map mountHandler := by
    rw [SortedMap.get?_insert, SortedMap.get?_insert]
    split <;> rfl
  unfold existingWebHandlers legacyBodies
  rw [hown, hget]
  dsimp only
  split
  · exact SortedMap.get?_foldl_insert mountHandler h.mounts mount
  · cases htext : h.text with
    | some body => exact hone (.text body)
    | none =>
      cases hredirect : h.redirect with
      | some r => exact hone (.redirect r.target r.status)
      | none =>
        dsimp only
        split
        · exact hone (.proxy h.tcpForward)
        · rfl

/-! ## What the engine refuses -/

/-- What the engine is given for a handler it takes. -/
def HttpHandler.engine (h : HttpHandler) : EngineHandler :=
  { path := h.path, proxy := h.proxy, text := h.text, redirect := h.redirect }

/-- A control character is in the text. -/
def hasControl (text : String) : Bool := text.toList.any isControl

/-- The status of a body that redirects is in 300..=399. -/
def statusInRange : WebMount → Bool
  | .proxy _ => true
  | .text _ => true
  | .redirect _ status => 300 ≤ status && status ≤ 399

/-- A handler is refused for a control character in its redirect, and for nothing else. -/
theorem engineHttpHandler_eq (h : HttpHandler) :
    engineHttpHandler G h =
      if hasControl h.redirect then
        .error (G.invalid "serve redirect target must not contain control characters")
      else .ok h.engine := by
  unfold engineHttpHandler checkRedirectTarget hasControl
  cases hempty : h.redirect.isEmpty with
  | true =>
    have hnil : h.redirect.toList = [] := by simpa using hempty
    rw [hnil]
    rfl
  | false =>
    cases hcontrol : h.redirect.toList.any isControl with
    | true => rfl
    | false => rfl

/-- The status before a redirect's target has no control character. -/
theorem hasControl_redirect (status : UInt16) (target : String) :
    hasControl (toString status.toNat ++ ":" ++ target) = hasControl target := by
  have hdigits : (toString status.toNat).toList.any isControl = false := by
    rw [Radix.toList_toString, List.any_eq_false]
    intro c hc
    obtain ⟨hlow, hhigh⟩ := Radix.digit_of_mem_toDigits hc
    rw [Char.le_def, UInt32.le_iff_toNat_le] at hlow hhigh
    have hlow : 48 ≤ c.toNat := hlow
    have hhigh : c.toNat ≤ 57 := hhigh
    unfold isControl
    simp only [Bool.or_eq_true, Bool.and_eq_true, decide_eq_true_eq]
    omega
  unfold hasControl
  rw [String.toList_append, String.toList_append, List.any_append, List.any_append, hdigits]
  rfl

/-- A legacy body is refused where its handler would be, and for its status besides. -/
theorem legacyMount_eq_ok {body : WebMount} {eh : EngineHandler} :
    legacyMount G body = .ok eh ↔
      statusInRange body = true ∧ engineHttpHandler G (mountHandler body) = .ok eh := by
  rw [engineHttpHandler_eq]
  cases body with
  | proxy target => exact (and_iff_right rfl).symm
  | text body => exact (and_iff_right rfl).symm
  | redirect target status =>
    unfold legacyMount legacyRedirect checkRedirectTarget mountHandler statusInRange
    dsimp only
    rw [hasControl_redirect]
    unfold hasControl
    cases hstatus : (300 ≤ status && status ≤ 399 : Bool) with
    | false =>
      refine ⟨fun h => (by cases h), ?_⟩
      rintro ⟨h, -⟩
      cases h
    | true =>
      cases target.toList.any isControl with
      | true => exact (and_iff_right rfl).symm
      | false => exact (and_iff_right rfl).symm

/-! ## Where the two migrations agree -/

/-- The legacy redirects of a port without a `Web` entry of its own have a status in 300..=399. -/
def LegacyStatuses (cfg : ServeConfig) (host : String) (h : TcpPortHandler) (port : UInt16) :
    Prop :=
  cfg.web.get? (hostPort host port) = none →
    ∀ mount body, (legacyBodies h).get? mount = some body → statusInRange body = true

/-- What the engine yields for a port is what it makes of the handlers the CLI picks up there,
    unless it refuses a status. -/
theorem webHandlers_eq_ok {cfg : ServeConfig} {host : String} {port : UInt16} {h : TcpPortHandler}
    (hget : cfg.tcp.get? (tcpKey port) = some h) {mounts : SortedMap String EngineHandler} :
    webHandlers G cfg host port h = .ok mounts ↔
      LegacyStatuses cfg host h port ∧
        (existingWebHandlers cfg host port).traverse (engineHttpHandler G) = .ok mounts := by
  cases hown : cfg.web.get? (hostPort host port) with
  | some wsc =>
    have hstatuses : LegacyStatuses cfg host h port := by
      intro hnone
      rw [hown] at hnone
      cases hnone
    have hexisting : existingWebHandlers cfg host port = wsc.handlers := by
      unfold existingWebHandlers
      rw [hown]
    unfold webHandlers
    rw [hown, hexisting]
    exact (and_iff_right hstatuses).symm
  | none =>
    have hexisting := existingWebHandlers_legacy hown hget
    have hhandlers : webHandlers G cfg host port h = (legacyBodies h).traverse (legacyMount G) := by
      unfold webHandlers
      rw [hown, legacyWebHandlers_eq]
    rw [hhandlers, SortedMap.traverse_eq_ok_iff, SortedMap.traverse_eq_ok_iff]
    constructor
    · intro hmounts
      constructor
      · intro _ mount body hbody
        obtain ⟨eh, heh, -⟩ := (hmounts mount).2 body hbody
        exact ((legacyMount_eq_ok G).mp heh).1
      · intro mount
        obtain ⟨hnone, hsome⟩ := hmounts mount
        rw [hexisting]
        constructor
        · exact fun hbody => hnone (Option.map_eq_none_iff.mp hbody)
        · intro handler hhandler
          obtain ⟨body, hbody, rfl⟩ := Option.map_eq_some_iff.mp hhandler
          obtain ⟨eh, heh, hmount⟩ := hsome body hbody
          exact ⟨eh, ((legacyMount_eq_ok G).mp heh).2, hmount⟩
    · rintro ⟨hstatuses, hmounts⟩ mount
      obtain ⟨hnone, hsome⟩ := hmounts mount
      rw [hexisting] at hnone hsome
      constructor
      · exact fun hbody => hnone (Option.map_eq_none_iff.mpr hbody)
      · intro body hbody
        obtain ⟨eh, heh, hmount⟩ := hsome _ (Option.map_eq_some_iff.mpr ⟨body, hbody, rfl⟩)
        exact ⟨eh, (legacyMount_eq_ok G).mpr ⟨hstatuses hown mount body hbody, heh⟩, hmount⟩

/-! ## The edit -/

/-- The mount that `--set-path` names. -/
def webMount (setPath : Option String) : Except String String :=
  match setPath with
  | none => .ok "/"
  | some m => if m = "" ∨ m = "/" then .ok "/" else cleanUrlPath m

/-- The handler of a target. -/
def webTarget (target : String) : HttpHandler :=
  match stripPrefix "text:" target with
  | some body => { text := body }
  | none => { proxy := normalizeServeTarget target }

/-- What `build_web_serve` writes. -/
theorem buildWebServe_setWeb {cfg cfg' : ServeConfig} {host target : String} {port : UInt16}
    {setPath : Option String} {tls : Bool}
    (h : buildWebServe cfg host port target setPath tls = .ok cfg') :
    ∃ mount, webMount setPath = .ok mount ∧
      cfg' = cfg.setWeb host port tls mount (webTarget target) := by
  unfold buildWebServe at h
  dsimp only at h
  split at h
  · cases h
  · rename_i mount hmount
    refine ⟨mount, hmount, ?_⟩
    unfold webTarget
    cases htext : stripPrefix "text:" target with
    | some body =>
      rw [htext] at h
      dsimp only at h
      split at h
      · cases h
      · exact (Except.ok.inj h).symm
    | none =>
      rw [htext] at h
      exact (Except.ok.inj h).symm

/-- A new handler of the CLI is never refused: it has no redirect. -/
theorem engineHttpHandler_target (target : String) :
    engineHttpHandler G (webTarget target) = .ok (webTarget target).engine := by
  have hredirect : (webTarget target).redirect = "" := by
    unfold webTarget
    split <;> rfl
  rw [engineHttpHandler_eq, hredirect]
  rfl

/-- After the edit the port serves what the CLI picked up, with the new handler. -/
theorem servedMounts_setWeb (cfg : ServeConfig) (host : String) (port : UInt16) (tls : Bool)
    (mount : String) (entry : HttpHandler) :
    servedMounts G (cfg.setWeb host port tls mount entry) host port =
      ((existingWebHandlers cfg host port).insert mount entry).traverse (engineHttpHandler G) := by
  have hport : webPort (cfg.setWeb host port tls mount entry) port =
      some { https := tls, http := !tls } := by
    refine webPort_eq_some.mpr ⟨(SortedMap.get?_insert _ _ _ _).trans (if_pos rfl), ?_⟩
    cases tls with
    | true => rfl
    | false => rfl
  have hown : (cfg.setWeb host port tls mount entry).web.get? (hostPort host port) =
      some { handlers := (existingWebHandlers cfg host port).insert mount entry } :=
    (SortedMap.get?_insert _ _ _ _).trans (if_pos rfl)
  rw [servedMounts_web G hport]
  unfold webHandlers
  rw [hown]

/-- The edit leaves what the engine reads off the keys of other ports. -/
theorem enginePortOf_setWeb (cfg : ServeConfig) (host : String) {port p : UInt16} (tls : Bool)
    (mount : String) (entry : HttpHandler) {key : String} (hkey : parseU16 key = some p)
    (hne : p ≠ port) :
    enginePortOf G (cfg.setWeb host port tls mount entry) host key =
      enginePortOf G cfg host key := by
  have hother : key ≠ tcpKey port := by
    rintro rfl
    have hsame : some port = some p := (parseU16_portText port).symm.trans hkey
    exact hne (Option.some.inj hsame).symm
  have htcp : (cfg.setWeb host port tls mount entry).tcp.get? key = cfg.tcp.get? key :=
    (SortedMap.get?_insert _ _ _ _).trans (if_neg hother)
  have hweb : (cfg.setWeb host port tls mount entry).web.get? (hostPort host p) =
      cfg.web.get? (hostPort host p) :=
    (SortedMap.get?_insert _ _ _ _).trans (if_neg fun heq => hne (hostPort_inj heq))
  unfold enginePortOf
  rw [hkey, htcp]
  cases cfg.tcp.get? key with
  | none => rfl
  | some h =>
    dsimp only
    unfold enginePort
    rw [hweb]

/-- What the edit of one mount promises: the mounts of the port are what they were with the new
    handler at the mount; every other port and the funnel are as they were.  A refused port has no
    mounts to keep, so what is served there after the edit, if anything is, is the new mount. -/
structure Accretes (cfg cfg' : ServeConfig) (host : String) (port : UInt16) (mount : String)
    (entry : HttpHandler) : Prop where
  served : match servedMounts G cfg host port with
    | .ok mounts => servedMounts G cfg' host port = .ok (mounts.insert mount entry.engine)
    | .error _ => ∀ mounts, servedMounts G cfg' host port = .ok mounts →
        mounts = SortedMap.empty.insert mount entry.engine
  others : ∀ key p, parseU16 key = some p → p ≠ port →
    enginePortOf G cfg' host key = enginePortOf G cfg host key
  funnel : cfg'.allowFunnel = cfg.allowFunnel

/-- Another mount of the port has a redirect the engine refuses. -/
def RefusedElsewhere (cfg : ServeConfig) (host : String) (port : UInt16) (mount : String) : Prop :=
  ∃ other entry, other ≠ mount ∧ (existingWebHandlers cfg host port).get? other = some entry ∧
    hasControl entry.redirect = true

/-- The CLI picks up no mount but the edited one. -/
def MountAlone (cfg : ServeConfig) (host : String) (port : UInt16) (mount : String) : Prop :=
  ∀ other, other ≠ mount → (existingWebHandlers cfg host port).get? other = none

/-- Where an edit accretes: the CLI picks up no other mount; or the port is a web port, and the
    engine refuses another mount's redirect for a control character, or takes every redirect
    there. -/
def AccretesWhen (cfg : ServeConfig) (host : String) (port : UInt16) (mount : String) : Prop :=
  MountAlone cfg host port mount ∨
    ∃ h, webPort cfg port = some h ∧
      (RefusedElsewhere cfg host port mount ∨
        (LegacyStatuses cfg host h port ∧
          ∀ entry, (existingWebHandlers cfg host port).get? mount = some entry →
            hasControl entry.redirect = false))

/-- What the CLI picked up and the new handler are refused for another mount's redirect. -/
theorem edited_refused_iff {cfg : ServeConfig} {host target mount : String} {port : UInt16} :
    (∃ e, ((existingWebHandlers cfg host port).insert mount (webTarget target)).traverse
        (engineHttpHandler G) = .error e) ↔ RefusedElsewhere cfg host port mount := by
  rw [SortedMap.traverse_error_iff]
  constructor
  · rintro ⟨other, entry, e, hget, herror⟩
    rw [SortedMap.get?_insert] at hget
    split at hget
    · cases hget
      rw [engineHttpHandler_target] at herror
      cases herror
    · rename_i hother
      rw [engineHttpHandler_eq] at herror
      split at herror
      · rename_i hcontrol
        exact ⟨other, entry, hother, hget, hcontrol⟩
      · cases herror
  · rintro ⟨other, entry, hother, hget, hcontrol⟩
    have hrefused : engineHttpHandler G entry = _ :=
      (engineHttpHandler_eq G entry).trans (if_pos hcontrol)
    have hkept : ((existingWebHandlers cfg host port).insert mount (webTarget target)).get? other =
        some entry := by
      rw [SortedMap.get?_insert, if_neg hother]
      exact hget
    exact ⟨other, entry, _, hkept, hrefused⟩

/-- A web port that is not refused accretes. -/
theorem web_refused_iff {cfg : ServeConfig} {host mount : String} {port : UInt16}
    {h : TcpPortHandler} (hget : cfg.tcp.get? (tcpKey port) = some h)
    (helsewhere : ¬ RefusedElsewhere cfg host port mount) :
    (∃ mounts, webHandlers G cfg host port h = .ok mounts) ↔
      LegacyStatuses cfg host h port ∧
        ∀ entry, (existingWebHandlers cfg host port).get? mount = some entry →
          hasControl entry.redirect = false := by
  constructor
  · rintro ⟨mounts, hmounts⟩
    obtain ⟨hstatuses, htraverse⟩ := (webHandlers_eq_ok G hget).mp hmounts
    refine ⟨hstatuses, fun entry hentry => ?_⟩
    obtain ⟨eh, heh, -⟩ := (SortedMap.get?_traverse htraverse mount).2 entry hentry
    rw [engineHttpHandler_eq] at heh
    by_contra hcontrol
    rw [if_pos (by simpa using hcontrol)] at heh
    cases heh
  · rintro ⟨hstatuses, hmount⟩
    have hall (other : String) (entry : HttpHandler)
        (hentry : (existingWebHandlers cfg host port).get? other = some entry) :
        ∃ eh, engineHttpHandler G entry = .ok eh := by
      have hcontrol : hasControl entry.redirect = false := by
        by_cases hother : other = mount
        · subst hother
          exact hmount entry hentry
        · by_contra hcontrol
          exact helsewhere ⟨other, entry, hother, hentry, by simpa using hcontrol⟩
      refine ⟨entry.engine, ?_⟩
      rw [engineHttpHandler_eq, hcontrol]
      rfl
    obtain ⟨mounts, hmounts⟩ := SortedMap.traverse_ok hall
    exact ⟨mounts, (webHandlers_eq_ok G hget).mpr ⟨hstatuses, hmounts⟩⟩

/-- **After the edit the new mount alone is served, if anything is, exactly where the CLI picks up
    no other mount or the engine refuses one of them.** -/
theorem edited_alone_iff {cfg : ServeConfig} {host target mount : String} {port : UInt16} :
    (∀ mounts, ((existingWebHandlers cfg host port).insert mount (webTarget target)).traverse
        (engineHttpHandler G) = .ok mounts →
        mounts = SortedMap.empty.insert mount (webTarget target).engine) ↔
      MountAlone cfg host port mount ∨ RefusedElsewhere cfg host port mount := by
  constructor
  · intro halone
    cases htraverse : ((existingWebHandlers cfg host port).insert mount
        (webTarget target)).traverse (engineHttpHandler G) with
    | error e => exact .inr ((edited_refused_iff G).mp ⟨e, htraverse⟩)
    | ok mounts =>
      refine .inl fun other hother => ?_
      obtain ⟨-, hsome⟩ := (SortedMap.traverse_eq_ok_iff.mp htraverse) other
      rw [halone mounts htraverse, SortedMap.get?_insert, SortedMap.get?_insert, if_neg hother,
        if_neg hother] at hsome
      by_contra hentry
      obtain ⟨entry, hentry⟩ := Option.ne_none_iff_exists'.mp hentry
      obtain ⟨eh, -, hempty⟩ := hsome entry hentry
      cases hempty
  · rintro (hnone | helsewhere) mounts hmounts
    · refine SortedMap.eq_of_get? fun other => ?_
      obtain ⟨hmissing, hsome⟩ := (SortedMap.traverse_eq_ok_iff.mp hmounts) other
      rw [SortedMap.get?_insert] at hmissing hsome ⊢
      by_cases hother : other = mount
      · rw [if_pos hother] at hsome ⊢
        obtain ⟨eh, heh, hget⟩ := hsome _ rfl
        rw [engineHttpHandler_target] at heh
        cases heh
        exact hget
      · rw [if_neg hother] at hmissing ⊢
        exact hmissing (hnone other hother)
    · obtain ⟨e, herror⟩ := (edited_refused_iff G).mpr helsewhere
      rw [herror] at hmounts
      cases hmounts

/-- Where the port had no mounts, the edit leaves the new one exactly where the CLI picks up no
    other. -/
theorem edited_ok_iff {cfg : ServeConfig} {host target mount : String} {port : UInt16} :
    ((existingWebHandlers cfg host port).insert mount (webTarget target)).traverse
        (engineHttpHandler G) = .ok (SortedMap.empty.insert mount (webTarget target).engine) ↔
      MountAlone cfg host port mount := by
  constructor
  · intro htraverse
    have halone := (edited_alone_iff G).mp fun mounts hmounts =>
      Except.ok.inj (hmounts.symm.trans htraverse)
    refine halone.resolve_right fun helsewhere => ?_
    obtain ⟨e, herror⟩ := (edited_refused_iff G).mpr helsewhere
    rw [herror] at htraverse
    cases htraverse
  · intro hnone
    cases htraverse : ((existingWebHandlers cfg host port).insert mount
        (webTarget target)).traverse (engineHttpHandler G) with
    | ok mounts => rw [(edited_alone_iff G).mpr (.inl hnone) mounts htraverse]
    | error e =>
      obtain ⟨other, entry, hother, hget, -⟩ := (edited_refused_iff G).mp ⟨e, htraverse⟩
      rw [hnone other hother] at hget
      cases hget

/-- **An edit accretes exactly where it brings back nothing**: the CLI picks up no other mount, or
    what the engine serves. -/
theorem web_edit_accretes_iff {cfg cfg' : ServeConfig} {host target mount : String} {port : UInt16}
    {setPath : Option String} {tls : Bool}
    (hmount : webMount setPath = .ok mount)
    (h : buildWebServe cfg host port target setPath tls = .ok cfg') :
    Accretes G cfg cfg' host port mount (webTarget target) ↔ AccretesWhen cfg host port mount := by
  obtain ⟨mount', hmount', rfl⟩ := buildWebServe_setWeb h
  rw [hmount] at hmount'
  cases hmount'
  have hserved := servedMounts_setWeb G cfg host port tls mount (webTarget target)
  have hreduce : Accretes G cfg (cfg.setWeb host port tls mount (webTarget target)) host port mount
      (webTarget target) ↔
      match servedMounts G cfg host port with
      | .ok mounts =>
        ((existingWebHandlers cfg host port).insert mount (webTarget target)).traverse
          (engineHttpHandler G) = .ok (mounts.insert mount (webTarget target).engine)
      | .error _ => MountAlone cfg host port mount ∨ RefusedElsewhere cfg host port mount := by
    rw [← @edited_alone_iff G cfg host target mount port, ← hserved]
    exact ⟨fun haccretes => haccretes.served, fun hmounts =>
      ⟨hmounts, fun key p hkey hne => enginePortOf_setWeb G cfg host tls mount _ hkey hne, rfl⟩⟩
  rw [hreduce]
  unfold AccretesWhen
  cases hweb : webPort cfg port with
  | some handler =>
    have hget := (webPort_eq_some.mp hweb).1
    rw [servedMounts_web G hweb]
    cases hhandlers : webHandlers G cfg host port handler with
    | ok mounts =>
      have htraverse := ((webHandlers_eq_ok G hget).mp hhandlers).2
      refine iff_of_true (SortedMap.traverse_insert htraverse (engineHttpHandler_target G target))
        (.inr ⟨handler, rfl, ?_⟩)
      by_cases helsewhere : RefusedElsewhere cfg host port mount
      · exact .inl helsewhere
      · exact .inr ((web_refused_iff G hget helsewhere).mp ⟨mounts, hhandlers⟩)
    | error e =>
      dsimp only
      constructor
      · rintro (hnone | helsewhere)
        · exact .inl hnone
        · exact .inr ⟨handler, rfl, .inl helsewhere⟩
      · rintro (hnone | ⟨handler', hhandler, helsewhere | haccepted⟩)
        · exact .inl hnone
        · exact .inr helsewhere
        · -- every redirect is taken, so only another mount's can have been refused
          cases hhandler
          by_contra hneither
          have helsewhere := fun helsewhere => hneither (.inr helsewhere)
          obtain ⟨mounts, hmounts⟩ := (web_refused_iff G hget helsewhere).mpr haccepted
          rw [hhandlers] at hmounts
          cases hmounts
  | none =>
    rw [servedMounts_other G host hweb]
    dsimp only
    rw [edited_ok_iff]
    exact ⟨.inl, fun hwhen => hwhen.resolve_right fun ⟨_, hnone, _⟩ => by cases hnone⟩

/-- A port in the legacy shape: one mount, with a redirect the engine takes. -/
def legacyRedirectPort : ServeConfig where
  tcp := SortedMap.empty.insert "443"
    { https := true,
      mounts := SortedMap.empty.insert "/docs" (.redirect "https://example.com" 308) }

/-- The same port with a mount added. -/
def legacyRedirectEdited : ServeConfig :=
  legacyRedirectPort.setWeb "node.example.ts.net" 443 true "/" (webTarget "3000")

/-- A legacy port accretes: its redirect stays beside the new mount. -/
theorem web_edit_accretes_legacy :
    (buildWebServe legacyRedirectPort "node.example.ts.net" 443 "3000" none true =
        .ok legacyRedirectEdited) ∧
      Accretes proxyEngine legacyRedirectPort legacyRedirectEdited "node.example.ts.net" 443 "/"
        (webTarget "3000") := by
  refine ⟨by decide,
    (@web_edit_accretes_iff proxyEngine _ _ _ _ _ _ none true rfl (by decide)).mpr
      (.inr ⟨_, rfl, .inr ⟨?_, ?_⟩⟩)⟩
  · intro _ mount body hbody
    change (SortedMap.empty.insert "/docs" (WebMount.redirect "https://example.com" 308)).get?
      mount = some body at hbody
    rw [SortedMap.get?_insert] at hbody
    split at hbody
    · cases hbody
      decide
    · cases hbody
  · intro entry hentry
    have hnone : (existingWebHandlers legacyRedirectPort "node.example.ts.net" 443).get? "/" =
        none := by decide
    rw [hnone] at hentry
    cases hentry

/-- A `Web` entry whose TCP half is gone. -/
def orphanedWeb : ServeConfig where
  web := SortedMap.empty.insert "node.example.ts.net:443"
    { handlers :=
        SortedMap.empty.insert "/old" { redirect := "301:https://node.example.ts.net/new" } }

/-- **An edit may bring back a mount that was not served.** -/
theorem web_edit_revives :
    ¬ ∀ (G : ServeEngine) (cfg cfg' : ServeConfig) (host target mount : String) (port : UInt16)
      (setPath : Option String) (tls : Bool), webMount setPath = .ok mount →
      buildWebServe cfg host port target setPath tls = .ok cfg' →
      Accretes G cfg cfg' host port mount (webTarget target) := by
  intro hclaim
  have hserved := (hclaim proxyEngine orphanedWeb
    (orphanedWeb.setWeb "node.example.ts.net" 443 true "/" (webTarget "3000"))
    "node.example.ts.net" "3000" "/" 443 none true rfl (by decide)).served
  have hclaimed : servedMounts proxyEngine
      (orphanedWeb.setWeb "node.example.ts.net" 443 true "/" (webTarget "3000"))
      "node.example.ts.net" 443 = .ok (SortedMap.empty.insert "/" (webTarget "3000").engine) :=
    hserved
  rw [servedMounts_setWeb] at hclaimed
  obtain ⟨-, hold⟩ := SortedMap.get?_traverse hclaimed "/old"
  obtain ⟨eh, -, hget⟩ := hold { redirect := "301:https://node.example.ts.net/new" } (by decide)
  have hnone : (SortedMap.empty.insert "/" (webTarget "3000").engine).get? "/old" = none := by
    decide
  rw [hnone] at hget
  cases hget

end Tailnetd
