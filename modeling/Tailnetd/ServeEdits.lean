/-
  The edits of `tnet serve` and `tnet funnel` (`tnet.rs`).

  A command fetches the serve config, edits its copy, and sends the copy back whole.  The edits are
  what is written down here: the flag grammar of `run_serve_v2`, the sub-verbs of `run_serve`, and
  the toggle of `run_funnel_toggle`.  A command that is refused on its own arguments sends nothing,
  and neither does a removal that finds nothing to remove.

  Each edit is about one port.  It reads and writes the port's key of the TCP map and the keys of
  the two other maps that end in the port; every other key stays as it is.
-/
import Tailnetd.ServeBackend

namespace Tailnetd

/-! ## The arguments -/

/-- `ServeKind`, without the TUN listener, which the flag check refuses. -/
inductive ServeKind where
  | https | http | tcp | tlsTerminatedTcp
  deriving DecidableEq, Repr

/-- `is_web`. -/
def ServeKind.isWeb : ServeKind → Bool
  | .https => true
  | .http => true
  | _ => false

/-- `ServeFlags`, with the listener that `check_serve_flags` resolves them to. -/
structure ServeFlags where
  kind : ServeKind
  port : UInt16
  setPath : Option String := none
  target : Option String := none
  off : Option String := none
  deriving DecidableEq, Repr

/-- The literal `off` in either positional: it withdraws what stands on the port. -/
def ServeFlags.isOff (f : ServeFlags) : Bool := f.off.isSome || f.target == some "off"

/-- The commands that edit the serve config. -/
inductive ServeCommand where
  /-- `run_serve_v2`, for `serve` or for `funnel`. -/
  | flags (f : ServeFlags) (funnel : Bool)
  | tcp (port : UInt16) (target : String)
  /-- `serve https` and `serve http`. -/
  | web (port : UInt16) (target : String) (setPath : Option String) (tls : Bool)
  | redirect (port : UInt16) (target : String) (status : UInt16)
  /-- `run_funnel_toggle`. -/
  | funnelToggle (port : UInt16) (on : Bool)
  deriving DecidableEq, Repr

/-- The port a command is about. -/
def ServeCommand.port : ServeCommand → UInt16
  | .flags f _ => f.port
  | .tcp port _ => port
  | .web port _ _ _ => port
  | .redirect port _ _ => port
  | .funnelToggle port _ => port

/-- `is_display_unsafe`. -/
def isDisplayUnsafe (c : Char) : Bool :=
  let n := c.toNat
  isControl c || n == 0x2028 || n == 0x2029 || (0x202A ≤ n && n ≤ 0x202E) ||
    (0x2066 ≤ n && n ≤ 0x2069)

/-- `sanitize_for_terminal`. -/
def sanitizeForTerminal (s : String) : String :=
  String.ofList (s.toList.map fun c => if isDisplayUnsafe c then Char.ofNat 0xFFFD else c)

/-- `normalize_serve_target`: a bare port is one of this host. -/
def normalizeServeTarget (target : String) : String :=
  if (parseU16 target).isSome then "127.0.0.1:" ++ target else target

/-- `normalize_tcp_serve_target`. -/
def normalizeTcpServeTarget (target : String) : String :=
  normalizeServeTarget ((stripPrefix "tcp://" target).getD target)

/-- `clean_path`. -/
def cleanPath (p : String) : String :=
  let segments := (p.toList.splitOn '/').foldl
    (fun out segment =>
      if segment = [] ∨ segment = ['.'] then out
      else if segment = ['.', '.'] then out.dropLast
      else out ++ [segment]) []
  "/" ++ "/".intercalate (segments.map String.ofList)

/-- `clean_url_path`. -/
def cleanUrlPath (urlPath : String) : Except String String :=
  if urlPath.isEmpty then .ok "/"
  else
    let withSlash := if startsWith "/" urlPath then urlPath else "/" ++ urlPath
    let cleaned := cleanPath withSlash
    if withSlash = cleaned ∨ withSlash = cleaned ++ "/" then .ok withSlash
    else .error ("invalid mount point " ++ quoted withSlash)

/-- `unexpanded_redirect_var`. -/
def unexpandedRedirectVar (target : String) : Option String :=
  ["$\x7bHOST\x7d", "$\x7bREQUEST_URI\x7d"].find? fun placeholder =>
    decide (placeholder.toList <:+: target.toList)

/-! ## The edits -/

/-- What the keys of a port end in. -/
def portSuffix (port : UInt16) : String := ":" ++ toString port.toNat

/-- The port's key of the TCP map. -/
def tcpKey (port : UInt16) : String := toString port.toNat

/-- One mount of the legacy shape, as the `Web` map has it. -/
def mountHandler : WebMount → HttpHandler
  | .proxy target => { proxy := target }
  | .text body => { text := body }
  | .redirect target status => { redirect := toString status.toNat ++ ":" ++ target }

/-- `existing_web_handlers`: the port's `Web` entry, else its legacy bodies in that shape. -/
def existingWebHandlers (cfg : ServeConfig) (host : String) (port : UInt16) :
    SortedMap String HttpHandler :=
  match cfg.web.get? (hostPort host port) with
  | some wsc => wsc.handlers
  | none =>
    match cfg.tcp.get? (tcpKey port) with
    | none => .empty
    | some h =>
      if !h.mounts.isEmpty then
        h.mounts.entries.foldl (fun handlers mount => handlers.insert mount.1 (mountHandler mount.2))
          .empty
      else
        match h.text, h.redirect with
        | some body, _ => SortedMap.empty.insert "/" { text := body }
        | none, some r =>
          SortedMap.empty.insert "/" { redirect := toString r.status.toNat ++ ":" ++ r.target }
        | none, none =>
          if (h.https || h.http) && !h.tcpForward.isEmpty then
            SortedMap.empty.insert "/" { proxy := h.tcpForward }
          else .empty

/-- A web port: its flag in the TCP map and its handlers in the `Web` map. -/
def ServeConfig.setWeb (cfg : ServeConfig) (host : String) (port : UInt16) (tls : Bool)
    (mount : String) (entry : HttpHandler) : ServeConfig :=
  { cfg with
    tcp := cfg.tcp.insert (tcpKey port) { https := tls, http := !tls }
    web := cfg.web.insert (hostPort host port)
      { handlers := (existingWebHandlers cfg host port).insert mount entry } }

/-- `build_web_serve`. -/
def buildWebServe (cfg : ServeConfig) (host : String) (port : UInt16) (target : String)
    (setPath : Option String) (tls : Bool) : Except String ServeConfig :=
  let mount : Except String String :=
    match setPath with
    | none => .ok "/"
    | some m => if m = "" ∨ m = "/" then .ok "/" else cleanUrlPath m
  match mount with
  | .error e => .error e
  | .ok mount =>
    match stripPrefix "text:" target with
    | some body =>
      if body.isEmpty then .error "unable to serve; text cannot be an empty string"
      else .ok (cfg.setWeb host port tls mount { text := body })
    | none => .ok (cfg.setWeb host port tls mount { proxy := normalizeServeTarget target })

/-- A forward on a port: a web entry that the port had goes. -/
def ServeConfig.setForward (cfg : ServeConfig) (port : UInt16) (h : TcpPortHandler) : ServeConfig :=
  { cfg with
    tcp := cfg.tcp.insert (tcpKey port) h
    web := cfg.web.retain fun key => !endsWith (portSuffix port) key }

/-- `set_funnel`: `off` goes by the port, whatever the host. -/
def setFunnel (cfg : ServeConfig) (host : String) (port : UInt16) (on : Bool) : ServeConfig :=
  { cfg with
    allowFunnel :=
      if on then cfg.allowFunnel.insert (hostPort (trimEndDots host) port) true
      else cfg.allowFunnel.retain fun key => !endsWith (portSuffix port) key }

/-- `remove_serve_port`: whether anything was there, and the config without it. -/
def removeServePort (cfg : ServeConfig) (port : UInt16) : Bool × ServeConfig :=
  let without : ServeConfig :=
    { tcp := cfg.tcp.remove (tcpKey port)
      web := cfg.web.retain fun key => !endsWith (portSuffix port) key
      allowFunnel := cfg.allowFunnel.retain fun key => !endsWith (portSuffix port) key }
  ((cfg.tcp.get? (tcpKey port)).isSome ||
    without.web.entries.length != cfg.web.entries.length ||
    without.allowFunnel.entries.length != cfg.allowFunnel.entries.length, without)

/-- The listener of `run_serve_v2`. -/
def serveListener (cfg : ServeConfig) (host : String) (f : ServeFlags) (target : String) :
    Except String ServeConfig :=
  match f.kind with
  | .https => buildWebServe cfg host f.port target f.setPath true
  | .http => buildWebServe cfg host f.port target f.setPath false
  | .tcp => .ok (cfg.setForward f.port { tcpForward := normalizeTcpServeTarget target })
  | .tlsTerminatedTcp =>
    .ok (cfg.setForward f.port
      { terminateTls := host, tcpForward := normalizeTcpServeTarget target })

/-- `run_serve_v2`: the config it sends, if it sends one. -/
def runServeV2 (cfg : ServeConfig) (name : String) (f : ServeFlags) (funnel : Bool) :
    Except String (Option ServeConfig) :=
  let host := trimEndDots name
  match f.off.filter (· ≠ "off") with
  | some other =>
    .error ("unexpected argument " ++ quoted (sanitizeForTerminal other) ++
      " after the target: the only value allowed there is `off`")
  | none =>
    if f.isOff then
      if f.setPath.isSome then
        .error "--set-path cannot be combined with `off` (which removes the whole port)"
      else if funnel then .ok (some (setFunnel cfg host f.port false))
      else
        match removeServePort cfg f.port with
        | (true, without) => .ok (some without)
        | (false, _) => .ok none
    else
      match f.target with
      | none =>
        let verb := if funnel then "funnel" else "serve"
        .error (verb ++ " needs a target: `tnet " ++ verb ++
          " [--https=PORT|--http=PORT|--tcp=PORT|--tls-terminated-tcp=PORT] <target>` (or " ++
          "`tnet " ++ verb ++ " status` / `tnet " ++ verb ++ " reset`)")
      | some target =>
        if f.setPath.isSome && !f.kind.isWeb then
          .error ("--set-path applies to --https / --http only: " ++
            "a raw-TCP serve has no URL paths to mount")
        else
          match serveListener cfg host f target with
          | .error e => .error e
          | .ok served =>
            .ok (some (if funnel then setFunnel served host f.port true else served))

/-- The checks of `serve redirect`. -/
def checkRedirect (target : String) (status : UInt16) : Except String Unit :=
  if (trim target).isEmpty then .error "redirect target must not be empty"
  else if !(300 ≤ status && status ≤ 399) then
    .error ("redirect status must be in 300..=399 (got " ++ toString status.toNat ++ ")")
  else if target.toList.any fun c => c == '\r' || c == '\n' then
    .error "redirect target must not contain CR or LF"
  else
    match unexpandedRedirectVar target with
    | some placeholder =>
      .error ("redirect target must not contain " ++ placeholder ++
        ": the target is sent verbatim in the Location: header and no variable expansion is " ++
        "performed. Use a literal URL.")
    | none => .ok ()

/-- What a command makes of the config it fetched, the node's name being `name`: it is refused, it
    sends nothing, or it sends this config. -/
def ServeCommand.edit (name : String) (cfg : ServeConfig) :
    ServeCommand → Except String (Option ServeConfig)
  | .flags f funnel => runServeV2 cfg name f funnel
  | .tcp port target =>
    .ok (some (cfg.setForward port { tcpForward := normalizeServeTarget target }))
  | .web port target setPath tls =>
    (buildWebServe cfg (trimEndDots name) port target setPath tls).map some
  | .redirect port target status =>
    (checkRedirect target status).map fun _ =>
      some (cfg.setWeb (trimEndDots name) port true "/"
        { redirect := toString status.toNat ++ ":" ++ target })
  | .funnelToggle port on => .ok (some (setFunnel cfg name port on))

/-! ## What a config holds for a port -/

/-- A decimal text has no colon. -/
theorem colon_notMem_portText (port : UInt16) : ':' ∉ (toString port.toNat).toList := by
  intro hmem
  rw [Radix.toList_toString] at hmem
  exact absurd (Radix.digit_of_mem_toDigits hmem).2 (by decide)

/-- What follows the last colon is determined. -/
theorem after_last_colon {extra a b : List Char} (ha : ':' ∉ a)
    (h : ':' :: a = extra ++ ':' :: b) : a = b := by
  cases extra with
  | nil => exact (List.cons.inj h).2
  | cons c extra =>
    refine absurd ?_ ha
    rw [(List.cons.inj h).2]
    exact List.mem_append_right _ List.mem_cons_self

/-- A key ends in one port at most. -/
theorem endsWith_port_unique {key : String} {p q : UInt16}
    (hp : endsWith (portSuffix p) key = true) (hq : endsWith (portSuffix q) key = true) :
    p = q := by
  have hsuffix (port : UInt16) : (portSuffix port).toList = ':' :: (toString port.toNat).toList := by
    simp [portSuffix]
  unfold endsWith at hp hq
  rw [List.isSuffixOf_iff_suffix, hsuffix] at hp hq
  obtain ⟨before, hp⟩ := hp
  obtain ⟨before', hq⟩ := hq
  refine portText_inj (String.toList_inj.mp ?_)
  rcases List.append_eq_append_iff.mp (hp.trans hq.symm) with ⟨extra, -, h⟩ | ⟨extra, -, h⟩
  · exact after_last_colon (colon_notMem_portText p) h
  · exact (after_last_colon (colon_notMem_portText q) h).symm

/-- The key of a port ends in it. -/
theorem endsWith_hostPort (host : String) (port : UInt16) :
    endsWith (portSuffix port) (hostPort host port) = true := by
  unfold endsWith
  rw [List.isSuffixOf_iff_suffix]
  refine ⟨host.toList, ?_⟩
  simp [portSuffix, hostPort]

/-- The TCP keys of distinct ports are distinct. -/
theorem tcpKey_ne {p q : UInt16} (h : p ≠ q) : tcpKey p ≠ tcpKey q := fun heq => h (portText_inj heq)

/-- A key that ends in another port is not a key of this one. -/
theorem ne_hostPort {key host : String} {p q : UInt16} (h : p ≠ q)
    (hkey : endsWith (portSuffix p) key = true) : key ≠ hostPort host q := by
  rintro rfl
  exact h (endsWith_port_unique hkey (endsWith_hostPort host q))

/-- What was taken out with a port is gone. -/
theorem get?_retain_port {ν : Type} (m : SortedMap String ν) {port : UInt16} {key : String}
    (hkey : endsWith (portSuffix port) key = true) :
    (m.retain fun key => !endsWith (portSuffix port) key).get? key = none := by
  rw [SortedMap.get?_retain, hkey]
  rfl

/-- The keys of another port are not taken out with it. -/
theorem get?_retain_other {ν : Type} (m : SortedMap String ν) {p port : UInt16} {key : String}
    (h : p ≠ port) (hkey : endsWith (portSuffix p) key = true) :
    (m.retain fun key => !endsWith (portSuffix port) key).get? key = m.get? key := by
  have hother : endsWith (portSuffix port) key = false := by
    by_contra hends
    exact h (endsWith_port_unique hkey (by simpa using hends))
  rw [SortedMap.get?_retain, hother]
  rfl

/-- Two configs hold the same for a port: its key of the TCP map, and the keys that end in it. -/
structure SameAt (port : UInt16) (cfg cfg' : ServeConfig) : Prop where
  tcp : cfg'.tcp.get? (tcpKey port) = cfg.tcp.get? (tcpKey port)
  web : ∀ key, endsWith (portSuffix port) key = true → cfg'.web.get? key = cfg.web.get? key
  funnel : ∀ key, endsWith (portSuffix port) key = true →
    cfg'.allowFunnel.get? key = cfg.allowFunnel.get? key

theorem SameAt.refl (port : UInt16) (cfg : ServeConfig) : SameAt port cfg cfg :=
  ⟨rfl, fun _ _ => rfl, fun _ _ => rfl⟩

theorem SameAt.trans {port : UInt16} {cfg cfg' cfg'' : ServeConfig} (h : SameAt port cfg cfg')
    (h' : SameAt port cfg' cfg'') : SameAt port cfg cfg'' :=
  ⟨h'.tcp.trans h.tcp, fun key hkey => (h'.web key hkey).trans (h.web key hkey),
    fun key hkey => (h'.funnel key hkey).trans (h.funnel key hkey)⟩

/-! ## An edit is about one port -/

section Frame

variable {p port : UInt16} (cfg : ServeConfig)

theorem setWeb_sameAt (h : p ≠ port) (host : String) (tls : Bool) (mount : String)
    (entry : HttpHandler) : SameAt p cfg (cfg.setWeb host port tls mount entry) where
  tcp := (SortedMap.get?_insert _ _ _ _).trans (if_neg (tcpKey_ne h))
  web _ hkey := (SortedMap.get?_insert _ _ _ _).trans (if_neg (ne_hostPort h hkey))
  funnel _ _ := rfl

theorem setForward_sameAt (h : p ≠ port) (handler : TcpPortHandler) :
    SameAt p cfg (cfg.setForward port handler) where
  tcp := (SortedMap.get?_insert _ _ _ _).trans (if_neg (tcpKey_ne h))
  web _ hkey := get?_retain_other _ h hkey
  funnel _ _ := rfl

theorem setFunnel_sameAt (h : p ≠ port) (host : String) (on : Bool) :
    SameAt p cfg (setFunnel cfg host port on) where
  tcp := rfl
  web _ _ := rfl
  funnel _ hkey := by
    cases on with
    | true => exact (SortedMap.get?_insert _ _ _ _).trans (if_neg (ne_hostPort h hkey))
    | false => exact get?_retain_other _ h hkey

theorem removeServePort_sameAt (h : p ≠ port) : SameAt p cfg (removeServePort cfg port).2 where
  tcp := (SortedMap.get?_remove _ _ _).trans (if_neg (tcpKey_ne h))
  web _ hkey := get?_retain_other _ h hkey
  funnel _ hkey := get?_retain_other _ h hkey

end Frame

/-! ## What a command sends -/

/-- A map succeeds where what is mapped does. -/
theorem except_map_ok {ε α β : Type} {f : α → β} {r : Except ε α} {b : β} (h : r.map f = .ok b) :
    ∃ a, r = .ok a ∧ f a = b := by
  cases r with
  | error e => cases h
  | ok a => exact ⟨a, rfl, Except.ok.inj h⟩

theorem buildWebServe_eq {cfg cfg' : ServeConfig} {host target : String} {port : UInt16}
    {setPath : Option String} {tls : Bool}
    (h : buildWebServe cfg host port target setPath tls = .ok cfg') :
    ∃ mount entry, cfg' = cfg.setWeb host port tls mount entry := by
  unfold buildWebServe at h
  dsimp only at h
  split at h
  · cases h
  · split at h
    · split at h
      · cases h
      · cases h
        exact ⟨_, _, rfl⟩
    · cases h
      exact ⟨_, _, rfl⟩

/-- A config that a listener was put into: a web port or a forward. -/
inductive Listens (cfg : ServeConfig) (port : UInt16) : ServeConfig → Prop
  | web (host : String) (tls : Bool) (mount : String) (entry : HttpHandler) :
      Listens cfg port (cfg.setWeb host port tls mount entry)
  | forward (handler : TcpPortHandler) : Listens cfg port (cfg.setForward port handler)

theorem serveListener_listens {cfg cfg' : ServeConfig} {host target : String} {f : ServeFlags}
    (h : serveListener cfg host f target = .ok cfg') : Listens cfg f.port cfg' := by
  unfold serveListener at h
  split at h
  · obtain ⟨mount, entry, rfl⟩ := buildWebServe_eq h
    exact .web _ _ _ _
  · obtain ⟨mount, entry, rfl⟩ := buildWebServe_eq h
    exact .web _ _ _ _
  · cases h
    exact .forward _
  · cases h
    exact .forward _

/-- What a command does to its port. -/
inductive ServeEffect where
  | serve (published : Bool)
  | remove
  | funnel (on : Bool)
  deriving DecidableEq, Repr

def ServeCommand.effect : ServeCommand → ServeEffect
  | .flags f funnel =>
    if f.isOff then (if funnel then .funnel false else .remove) else .serve funnel
  | .tcp _ _ => .serve false
  | .web _ _ _ _ => .serve false
  | .redirect _ _ _ => .serve false
  | .funnelToggle _ on => .funnel on

/-- The config an effect makes of a config. -/
inductive Makes (cfg : ServeConfig) (port : UInt16) : ServeEffect → ServeConfig → Prop
  | serve {served : ServeConfig} (h : Listens cfg port served) : Makes cfg port (.serve false) served
  | publish {served : ServeConfig} (h : Listens cfg port served) (host : String) :
      Makes cfg port (.serve true) (setFunnel served host port true)
  | remove : Makes cfg port .remove (removeServePort cfg port).2
  | funnel (host : String) (on : Bool) : Makes cfg port (.funnel on) (setFunnel cfg host port on)

/-- A flag command that is not `off` sends what its listener makes. -/
theorem runServeV2_listener {cfg cfg' : ServeConfig} {name : String} {f : ServeFlags}
    {funnel : Bool} (hoff : f.isOff = false)
    (h : runServeV2 cfg name f funnel = .ok (some cfg')) :
    ∃ target served, f.target = some target ∧
      serveListener cfg (trimEndDots name) f target = .ok served ∧
      cfg' = if funnel then setFunnel served (trimEndDots name) f.port true else served := by
  unfold runServeV2 at h
  dsimp only at h
  split at h
  · cases h
  · rw [hoff, if_neg Bool.false_ne_true] at h
    split at h
    · cases h
    · rename_i target htarget
      split at h
      · cases h
      · split at h
        · cases h
        · rename_i served hserved
          cases h
          exact ⟨target, served, htarget, hserved, rfl⟩

/-- `off` takes the funnel or the port away. -/
theorem runServeV2_off {cfg cfg' : ServeConfig} {name : String} {f : ServeFlags} {funnel : Bool}
    (hoff : f.isOff = true) (h : runServeV2 cfg name f funnel = .ok (some cfg')) :
    cfg' = if funnel then setFunnel cfg (trimEndDots name) f.port false
      else (removeServePort cfg f.port).2 := by
  unfold runServeV2 at h
  dsimp only at h
  split at h
  · cases h
  · rw [hoff, if_pos rfl] at h
    split at h
    · cases h
    · cases funnel with
      | true =>
        cases h
        rfl
      | false =>
        rw [if_neg Bool.false_ne_true] at h ⊢
        split at h
        · rename_i hremove
          cases h
          exact (congrArg Prod.snd hremove).symm
        · cases h

theorem runServeV2_makes {cfg cfg' : ServeConfig} {name : String} {f : ServeFlags} {funnel : Bool}
    (h : runServeV2 cfg name f funnel = .ok (some cfg')) :
    Makes cfg f.port (ServeCommand.flags f funnel).effect cfg' := by
  unfold ServeCommand.effect
  dsimp only
  cases hoff : f.isOff with
  | true =>
    rw [runServeV2_off hoff h, if_pos rfl]
    cases funnel with
    | true => exact .funnel _ _
    | false => exact .remove
  | false =>
    obtain ⟨target, served, -, hserved, rfl⟩ := runServeV2_listener hoff h
    have hlistens := serveListener_listens hserved
    rw [if_neg Bool.false_ne_true]
    cases funnel with
    | true => exact .publish hlistens _
    | false => exact .serve hlistens

/-- A config that a command sends is one its effect makes of the config it fetched. -/
theorem edit_makes {name : String} {cfg cfg' : ServeConfig} {cmd : ServeCommand}
    (h : cmd.edit name cfg = .ok (some cfg')) : Makes cfg cmd.port cmd.effect cfg' := by
  cases cmd with
  | flags f funnel => exact runServeV2_makes h
  | tcp port target =>
    cases h
    exact .serve (.forward _)
  | web port target setPath tls =>
    obtain ⟨served, hserved, hsome⟩ := except_map_ok h
    cases hsome
    obtain ⟨mount, entry, rfl⟩ := buildWebServe_eq hserved
    exact .serve (.web _ _ _ _)
  | redirect port target status =>
    obtain ⟨u, hcheck, hsome⟩ := except_map_ok h
    cases hsome
    exact .serve (.web _ _ _ _)
  | funnelToggle port on =>
    cases h
    exact .funnel _ _

theorem Listens.sameAt {p port : UInt16} {cfg cfg' : ServeConfig} (h : Listens cfg port cfg')
    (hne : p ≠ port) : SameAt p cfg cfg' := by
  cases h with
  | web host tls mount entry => exact setWeb_sameAt cfg hne host tls mount entry
  | forward handler => exact setForward_sameAt cfg hne handler

/-- **An edit leaves every other port as it was.** -/
theorem Makes.sameAt {p port : UInt16} {cfg cfg' : ServeConfig} {effect : ServeEffect}
    (h : Makes cfg port effect cfg') (hne : p ≠ port) : SameAt p cfg cfg' := by
  cases h with
  | serve hlistens => exact hlistens.sameAt hne
  | publish hlistens host => exact (hlistens.sameAt hne).trans (setFunnel_sameAt _ hne host true)
  | remove => exact removeServePort_sameAt cfg hne
  | funnel host on => exact setFunnel_sameAt cfg hne host on

/-! ## What a command reports -/

/-- The port has its entry of the TCP map. -/
def ServeConfig.Serves (cfg : ServeConfig) (port : UInt16) : Prop :=
  (cfg.tcp.get? (tcpKey port)).isSome = true

/-- Neither the entry of the TCP map nor a web body is there. -/
def ServeConfig.ServesNot (cfg : ServeConfig) (port : UInt16) : Prop :=
  cfg.tcp.get? (tcpKey port) = none ∧
    ∀ key, endsWith (portSuffix port) key = true → cfg.web.get? key = none

/-- Funnel is on for a key of the port. -/
def ServeConfig.Funnels (cfg : ServeConfig) (port : UInt16) : Prop :=
  ∃ key, endsWith (portSuffix port) key = true ∧ cfg.allowFunnel.get? key = some true

/-- No key of the port is in the funnel map. -/
def ServeConfig.FunnelsNot (cfg : ServeConfig) (port : UInt16) : Prop :=
  ∀ key, endsWith (portSuffix port) key = true → cfg.allowFunnel.get? key = none

/-- What a command that succeeds says about its port. -/
def ServeEffect.Reports (cfg : ServeConfig) (port : UInt16) : ServeEffect → Prop
  | .serve published => cfg.Serves port ∧ (published = true → cfg.Funnels port)
  | .remove => cfg.ServesNot port ∧ cfg.FunnelsNot port
  | .funnel on => if on then cfg.Funnels port else cfg.FunnelsNot port

/-- A report is about what the config holds for the port. -/
theorem ServeEffect.Reports.congr {port : UInt16} {cfg cfg' : ServeConfig} {effect : ServeEffect}
    (h : effect.Reports cfg port) (hsame : SameAt port cfg cfg') : effect.Reports cfg' port := by
  have hserves : cfg.Serves port → cfg'.Serves port := by
    intro hserves
    unfold ServeConfig.Serves
    rw [hsame.tcp]
    exact hserves
  have hfunnels : cfg.Funnels port → cfg'.Funnels port := by
    rintro ⟨key, hkey, hon⟩
    exact ⟨key, hkey, (hsame.funnel key hkey).trans hon⟩
  have hnot : cfg.FunnelsNot port → cfg'.FunnelsNot port :=
    fun hnone key hkey => (hsame.funnel key hkey).trans (hnone key hkey)
  cases effect with
  | serve published => exact ⟨hserves h.1, fun hpublished => hfunnels (h.2 hpublished)⟩
  | remove =>
    obtain ⟨⟨htcp, hweb⟩, hfunnel⟩ := h
    exact ⟨⟨hsame.tcp.trans htcp, fun key hkey => (hsame.web key hkey).trans (hweb key hkey)⟩,
      hnot hfunnel⟩
  | funnel on =>
    cases on with
    | true => exact hfunnels h
    | false => exact hnot h

theorem Listens.serves {port : UInt16} {cfg cfg' : ServeConfig} (h : Listens cfg port cfg') :
    cfg'.Serves port := by
  unfold ServeConfig.Serves
  cases h with
  | web host tls mount entry =>
    unfold ServeConfig.setWeb
    rw [SortedMap.get?_insert, if_pos rfl]
    rfl
  | forward handler =>
    unfold ServeConfig.setForward
    rw [SortedMap.get?_insert, if_pos rfl]
    rfl

theorem setFunnel_on (cfg : ServeConfig) (host : String) (port : UInt16) :
    (setFunnel cfg host port true).Funnels port :=
  ⟨_, endsWith_hostPort (trimEndDots host) port,
    (SortedMap.get?_insert _ _ _ _).trans (if_pos rfl)⟩

/-- **What a command reports is so of the config it sends.** -/
theorem Makes.reports {port : UInt16} {cfg cfg' : ServeConfig} {effect : ServeEffect}
    (h : Makes cfg port effect cfg') : effect.Reports cfg' port := by
  cases h with
  | serve hlistens => exact ⟨hlistens.serves, fun h => by cases h⟩
  | publish hlistens host => exact ⟨hlistens.serves, fun _ => setFunnel_on _ host port⟩
  | remove =>
    exact ⟨⟨(SortedMap.get?_remove _ _ _).trans (if_pos rfl), fun key hkey => get?_retain_port _ hkey⟩,
      fun key hkey => get?_retain_port _ hkey⟩
  | funnel host on =>
    cases on with
    | true => exact setFunnel_on cfg host port
    | false => exact fun key hkey => get?_retain_port _ hkey

end Tailnetd
