/-
  The text of `tnet serve status` (`tnet.rs`), and what it says a port is served with.

  The text has a block for each key of the TCP map.  What stands in the block is read off the key's
  handler by a chain of ten conditions, and off the first `Web` key that ends in the key's own
  spelling of the port; a mark says "NOT served" where the engine refuses some key of the port.

  1. `EntryShown` is the branch of the chain, with the data it prints; `StatusEntry.lines` is the
     only place where it becomes text.
  2. `Service` is what a port is served with: the lane, and its target or the descriptions of
     its mounts.  `told` reads it off the block of an entry, `laneService` off what the daemon starts and
     gives to the engine.
  3. `Prints` says of a text that it shows a service, and `SaysNotServed` that it says the opposite,
     neither of them by way of the branches.  The block of an entry shows what it is told to be
     served with (`prints_lines`), and says "NOT served" when it is told as not served
     (`told_none_text`) or when one of the texts it shows has these words (`says_lines_iff`).
-/
import Tailnetd.Lib.Infix
import Tailnetd.ServeAccretes

namespace Tailnetd

/-! ## The text of a handler -/

/-- The longest beginning of at most `size` bytes that ends between two characters. -/
def takeBytes : Nat → List Char → List Char
  | _, [] => []
  | size, c :: rest => if c.utf8Size ≤ size then c :: takeBytes (size - c.utf8Size) rest else []

/-- `elliptically_truncate`. -/
def ellipticallyTruncate (s : String) (max : Nat) : String :=
  if s.utf8ByteSize ≤ max then s else String.ofList (takeBytes (max - 3) s.toList) ++ "..."

/-- A text body as it is shown. -/
def textDesc (body : String) : String := "text \"" ++ ellipticallyTruncate body 20 ++ "\""

/-- `web_handler_desc`. -/
def webHandlerDesc (h : HttpHandler) : String :=
  if !h.proxy.isEmpty then "proxy -> " ++ sanitizeForTerminal h.proxy
  else if !h.text.isEmpty then textDesc h.text
  else if !h.redirect.isEmpty then "redirect -> " ++ sanitizeForTerminal h.redirect
  else if !h.path.isEmpty then
    "path " ++ sanitizeForTerminal h.path ++ " (filesystem serving NOT supported by this build)"
  else "(empty handler)"

/-- A redirect of the legacy shape as it is shown. -/
def redirectDesc (target : String) (status : UInt16) : String :=
  "redirect " ++ toString status.toNat ++ " -> " ++ target

/-- One mount of the legacy shape as it is shown. -/
def webMountDesc : WebMount → String
  | .proxy target => "proxy -> " ++ target
  | .text body => textDesc body
  | .redirect target status => redirectDesc target status

/-! ## The block of an entry -/

/-- The branch of `format_serve_status` an entry is shown by. -/
inductive EntryShown where
  | web (hostport : String) (handlers : SortedMap String HttpHandler)
  | mounts (mounts : SortedMap String WebMount)
  | text (body : String)
  | redirect (target : String) (status : UInt16)
  | proxy (target : String)
  | forward (target : String)
  | tlsForward (target : String)
  | tlsAlone (target : String)
  | bare
  | empty

/-- The `Web` entry shown for a key with a web flag: the first one whose key ends in `:` and the
    key. -/
def webEntryShown (cfg : ServeConfig) (key : String) (h : TcpPortHandler) :
    Option (String × WebServerConfig) :=
  if h.https || h.http then cfg.web.entries.find? fun site => endsWith (":" ++ key) site.1 else none

/-- The chain of conditions, in its order. -/
def entryShown (cfg : ServeConfig) (key : String) (h : TcpPortHandler) : EntryShown :=
  match webEntryShown cfg key h with
  | some site => .web site.1 site.2.handlers
  | none =>
    if !h.mounts.isEmpty then .mounts h.mounts
    else
      match h.text, h.redirect with
      | some body, _ => .text body
      | none, some r => .redirect r.target r.status
      | none, none =>
        if (h.https || h.http) && !h.tcpForward.isEmpty then .proxy h.tcpForward
        else if !h.tcpForward.isEmpty && !h.https && !h.http && h.terminateTls.isEmpty then
          .forward h.tcpForward
        else if !h.terminateTls.isEmpty && !h.tcpForward.isEmpty then .tlsForward h.tcpForward
        else if !h.terminateTls.isEmpty then .tlsAlone h.tcpForward
        else if h.https || h.http then .bare
        else .empty

/-- One entry of the status: its key and flags, what is shown, and the engine's refusal. -/
structure StatusEntry where
  key : String
  https : Bool
  http : Bool
  shown : EntryShown
  refusal : Option String

/-- The scheme of a web entry's URL. -/
def StatusEntry.scheme (e : StatusEntry) : String := if e.http then "http" else "https"

/-- The URL of an entry in the legacy shape. -/
def StatusEntry.nodeUrl (e : StatusEntry) : String := e.scheme ++ "://<node>:" ++ e.key

/-- What the branch pushes, before the refusal is put in. -/
def StatusEntry.lines (e : StatusEntry) : String :=
  match e.shown with
  | .web hostport handlers =>
    let url := e.scheme ++ "://" ++ sanitizeForTerminal hostport
    match handlers.entries.length == 1, handlers.get? "/" with
    | true, some root => url ++ " -> " ++ webHandlerDesc root ++ "\n"
    | _, _ =>
      handlers.entries.foldl (fun out mount =>
          out ++ "  " ++ sanitizeForTerminal mount.1 ++ " -> " ++ webHandlerDesc mount.2 ++ "\n")
        (url ++ " (path mux)\n")
  | .mounts mounts =>
    mounts.entries.foldl (fun out mount =>
        out ++ "  " ++ mount.1 ++ " -> " ++ webMountDesc mount.2 ++ "\n")
      (e.nodeUrl ++ " (path mux)\n")
  | .text body => e.nodeUrl ++ " -> " ++ textDesc body ++ "\n"
  | .redirect target status => e.nodeUrl ++ " -> " ++ redirectDesc target status ++ "\n"
  | .proxy target => e.nodeUrl ++ " -> " ++ target ++ "\n"
  | .forward target => "tcp :" ++ e.key ++ " -> " ++ target ++ "\n"
  | .tlsForward target => "tls+tcp :" ++ e.key ++ " -> " ++ target ++ " (TLS-terminated)\n"
  | .tlsAlone target =>
    "tcp :" ++ e.key ++ " -> " ++ target ++ " (TLS-terminated; NOT served — no backend)\n"
  | .bare =>
    let kind := if e.https then "HTTPS" else "HTTP"
    if e.refusal.isSome then ":" ++ e.key ++ " " ++ kind ++ " web\n"
    else ":" ++ e.key ++ " " ++ kind ++ " web (NOT served — no proxy target configured)\n"
  | .empty => ":" ++ e.key ++ " (empty handler)\n"

/-- Put a note at the end of the first line. -/
def insertAtLineEnd (note block : String) : String :=
  String.ofList (block.toList.takeWhile (· != '\n') ++ note.toList ++
    block.toList.dropWhile (· != '\n'))

/-- The block of an entry. -/
def StatusEntry.text (e : StatusEntry) : String :=
  match e.refusal with
  | some why => insertAtLineEnd (" (NOT served — " ++ why ++ ")") e.lines
  | none => e.lines

/-! ## The whole text -/

/-- `strip_suffix`. -/
def stripSuffix (suffix s : String) : Option String :=
  if endsWith suffix s then some (String.ofList (s.toList.take (s.length - suffix.length)))
  else none

/-- `STATUS_STAND_IN_NAME`. -/
def statusStandInName : String := "node.ts.net"

variable (G : ServeEngine)

/-- Refusals by their ports; of several for one port the last one counts. -/
def collectRefusals (out : SortedMap UInt16 G.Error) (refused : List (RefusedPort G)) :
    SortedMap UInt16 G.Error :=
  refused.foldl (fun out r => out.insert r.port r.error) out

/-- `engine_refusals`: with a name, the daemon's verdict; without one, each key on its own under the
    host of its `Web` key. -/
def engineRefusals (cfg : ServeConfig) (name : Option String) : SortedMap UInt16 G.Error :=
  match name with
  | some name => collectRefusals G .empty (buildWebServeState G cfg name).refused
  | none =>
    cfg.tcp.entries.foldl (fun out entry =>
        if (parseU16 entry.1).isNone then out
        else
          let host := (cfg.web.entries.findSome? fun site => stripSuffix (":" ++ entry.1) site.1)
          let one := { cfg with tcp := cfg.tcp.retain (· == entry.1) }
          collectRefusals G out (buildWebServeState G one (host.getD statusStandInName)).refused)
      .empty

/-- The entry of the status for one key of the TCP map. -/
def statusEntry (cfg : ServeConfig) (name : Option String) (entry : String × TcpPortHandler) :
    StatusEntry where
  key := entry.1
  https := entry.2.https
  http := entry.2.http
  shown := entryShown cfg entry.1 entry.2
  refusal :=
    ((parseU16 entry.1).bind (engineRefusals G cfg name).get?).map fun error =>
      sanitizeForTerminal (G.text error)

/-- `funnel_host_ports`. -/
def funnelHostPorts (cfg : ServeConfig) : List (String × UInt16) :=
  (cfg.allowFunnel.entries.filter fun entry => entry.2).filterMap fun entry =>
    (rsplitOnce ':' entry.1).bind fun parts =>
      ((parseU16 parts.2).filter (· != 0)).map fun port => (parts.1, port)

/-- The ports on the internet. -/
def funnelSummary (cfg : ServeConfig) : String :=
  if (funnelHostPorts cfg).isEmpty then ""
  else
    (funnelHostPorts cfg).foldl (fun out site =>
        out ++ "  https://" ++ sanitizeForTerminal site.1 ++ ":" ++ toString site.2.toNat ++ "\n")
      "Funnel (on the public internet):\n"

/-- `format_serve_status`. -/
def formatServeStatus (cfg : ServeConfig) (name : Option String) : String :=
  if cfg.tcp.isEmpty && cfg.web.isEmpty && cfg.allowFunnel.isEmpty then "No serve config\n"
  else
    String.join (cfg.tcp.entries.map fun entry => (statusEntry G cfg name entry).text) ++
      funnelSummary cfg

/-! ## What is told and what is served -/

/-- The words of `web_handler_desc` for a handler the engine has. -/
def EngineHandler.desc (h : EngineHandler) : String :=
  webHandlerDesc { path := h.path, proxy := h.proxy, text := h.text, redirect := h.redirect }

/-- What a port is served with: the lane, and its target or the descriptions of its mounts. -/
inductive Service where
  /-- A plain TCP forward. -/
  | forward (target : String)
  /-- A TLS-terminated TCP forward. -/
  | tlsForward (target : String)
  /-- The web, over TLS or in the clear. -/
  | web (tls : Bool) (mounts : SortedMap String String)
  deriving DecidableEq

/-- The web with the mounts the engine has. -/
def Service.ofMounts (tls : Bool) (mounts : SortedMap String EngineHandler) : Service :=
  .web tls (mounts.map EngineHandler.desc)

/-- The engine's handler for a mount of the legacy shape. -/
def WebMount.engine (body : WebMount) : EngineHandler := (mountHandler body).engine

/-- What a branch says the entry is served with; three of them say that it is not served. -/
def EntryShown.service (http : Bool) : EntryShown → Option Service
  | .web _ handlers => some (.ofMounts (!http) (handlers.map HttpHandler.engine))
  | .mounts bodies => some (.ofMounts (!http) (bodies.map WebMount.engine))
  | .text body => some (.ofMounts (!http) (SortedMap.empty.insert "/" (WebMount.text body).engine))
  | .redirect target status =>
    some (.ofMounts (!http) (SortedMap.empty.insert "/" (WebMount.redirect target status).engine))
  | .proxy target =>
    some (.ofMounts (!http) (SortedMap.empty.insert "/" (WebMount.proxy target).engine))
  | .forward target => some (.forward target)
  | .tlsForward target => some (.tlsForward target)
  | .tlsAlone _ => none
  | .bare => none
  | .empty => none

/-- What the block of an entry says it is served with; a refusal says that it is not served. -/
def StatusEntry.told (e : StatusEntry) : Option Service :=
  if e.refusal.isSome then none else e.shown.service e.http

/-- What the engine serves on a port it is given. -/
def EngineTcpHandler.service (th : EngineTcpHandler) (mounts : SortedMap String EngineHandler) :
    Service :=
  match th.protocol with
  | .https => .ofMounts true mounts
  | .http => .ofMounts false mounts
  | .tlsTerminatedTcp => .tlsForward th.tcpForward
  | .tcp => .forward th.tcpForward

/-- What the daemon's lanes serve for an entry: its own accept loop for a plain forward, else the
    engine, when the port is in the state it is given. -/
def laneService (cfg : ServeConfig) (name : String) (entry : String × TcpPortHandler) :
    Option Service :=
  match parseU16 entry.1 with
  | none => none
  | some port =>
    if isPlainTcpForward entry.2 then some (.forward entry.2.tcpForward)
    else
      let state := (buildWebServeState G cfg name).state
      (state.tcp.get? port).map fun th =>
        th.service ((state.web.get? (hostPort (trimEndDots name) port)).getD .empty)

/-! ## The words of a text -/

/-- The words "NOT served" stand in the text. -/
def HasWords (text : String) : Prop := "NOT served".toList <:+: text.toList

/-- The text says of the entry of this key that it is not served. -/
def SaysNotServed (key text : String) : Prop :=
  HasWords text ∨ text = ":" ++ key ++ " (empty handler)\n"

/-- The scheme a web port is shown with. -/
def urlScheme (tls : Bool) : String := if tls then "https" else "http"

/-- A handler is described in the words of `web_handler_desc`, in those of the legacy shape, or by
    its backend alone. -/
def Describes (piece desc : String) : Prop :=
  piece = desc ∨ ∃ body : WebMount, body.engine.desc = desc ∧
    (piece = webMountDesc body ∨ body = .proxy piece)

/-- A row of a mux: the mount, and the description of its handler. -/
def RowDescribes (row mount : String × String) : Prop :=
  (row.1 = mount.1 ∨ row.1 = sanitizeForTerminal mount.1) ∧ Describes row.2 mount.2

/-- A row as it is printed. -/
def rowText (row : String × String) : String := "  " ++ row.1 ++ " -> " ++ row.2 ++ "\n"

/-- The text shows the entry of this key as served with this. -/
inductive Prints (key : String) : Service → String → Prop
  | forward (target : String) :
      Prints key (.forward target) ("tcp :" ++ key ++ " -> " ++ target ++ "\n")
  | tlsForward (target : String) :
      Prints key (.tlsForward target)
        ("tls+tcp :" ++ key ++ " -> " ++ target ++ " (TLS-terminated)\n")
  /-- A root mount alone. -/
  | root (tls : Bool) {mounts : SortedMap String String} {desc : String} (host piece : String)
      (hone : mounts.entries = [("/", desc)]) (hdesc : Describes piece desc) :
      Prints key (.web tls mounts)
        (urlScheme tls ++ "://" ++ host ++ ":" ++ key ++ " -> " ++ piece ++ "\n")
  /-- A mux, a row for each mount. -/
  | mux (tls : Bool) {mounts : SortedMap String String} (host : String)
      (rows : List (String × String)) (hrows : List.Forall₂ RowDescribes rows mounts.entries) :
      Prints key (.web tls mounts)
        (urlScheme tls ++ "://" ++ host ++ ":" ++ key ++ " (path mux)\n" ++
          String.join (rows.map rowText))

/-- The block of an entry is true: what it is told to be served with is what is served, the text
    shows that and does not say otherwise; and where nothing is served the text says so. -/
structure EntryTruthful (e : StatusEntry) (served : Option Service) : Prop where
  told : e.told = served
  text : match served with
    | some service => Prints e.key service e.text ∧ ¬ SaysNotServed e.key e.text
    | none => SaysNotServed e.key e.text

/-- `tnet serve status` tells the truth: its text is the blocks of the entries, and the block of
    every entry is true of what the lanes serve for it. -/
structure StatusTruthful (cfg : ServeConfig) (name : String) : Prop where
  text : cfg.tcp.isEmpty = false → formatServeStatus G cfg (some name) =
    String.join (cfg.tcp.entries.map fun entry => (statusEntry G cfg (some name) entry).text) ++
      funnelSummary cfg
  blocks : ∀ entry ∈ cfg.tcp.entries,
    EntryTruthful (statusEntry G cfg (some name) entry) (laneService G cfg name entry)

/-! ## What is told stands in the text -/

/-- A note that is put in stays together. -/
theorem insertAtLineEnd_eq (note block : String) :
    ∃ front back, insertAtLineEnd note block = front ++ note ++ back := by
  refine ⟨String.ofList (block.toList.takeWhile (· != '\n')),
    String.ofList (block.toList.dropWhile (· != '\n')), ?_⟩
  unfold insertAtLineEnd
  rw [String.ofList_append, String.ofList_append, String.ofList_toList]

theorem hasWords_between (front back : String) : HasWords (front ++ "NOT served" ++ back) := by
  unfold HasWords
  rw [String.toList_append, String.toList_append]
  exact List.infix_append _ _ _

/-- **An entry that is told as not served has it in its text**: with the engine's reason, with the
    daemon's own, or as an empty handler. -/
theorem told_none_text {e : StatusEntry} (htold : e.told = none) : SaysNotServed e.key e.text := by
  have hmark : " (NOT served — " = " (" ++ "NOT served" ++ " — " := by decide
  unfold StatusEntry.told at htold
  unfold StatusEntry.text
  cases hrefusal : e.refusal with
  | some why =>
    obtain ⟨front, back, heq⟩ := insertAtLineEnd_eq (" (NOT served — " ++ why ++ ")") e.lines
    have hwords := hasWords_between (front ++ " (") (" — " ++ why ++ ")" ++ back)
    refine .inl ?_
    dsimp only
    rw [heq, hmark]
    simpa only [String.append_assoc] using hwords
  | none =>
    -- without a refusal three branches are left, each with words of its own
    rw [hrefusal] at htold
    dsimp only
    unfold StatusEntry.lines
    have hshown : e.shown.service e.http = none := htold
    cases hbranch : e.shown with
    | tlsAlone target =>
      have hline : " (TLS-terminated; NOT served — no backend)\n" =
          " (TLS-terminated; " ++ "NOT served" ++ " — no backend)\n" := by decide
      have hwords := hasWords_between
        ("tcp :" ++ e.key ++ " -> " ++ target ++ " (TLS-terminated; ") " — no backend)\n"
      refine .inl ?_
      dsimp only
      rw [hline]
      simpa only [String.append_assoc] using hwords
    | bare =>
      have hline : " web (NOT served — no proxy target configured)\n" =
          " web (" ++ "NOT served" ++ " — no proxy target configured)\n" := by decide
      have hwords := hasWords_between
        (":" ++ e.key ++ " " ++ (if e.https then "HTTPS" else "HTTP") ++ " web (")
        " — no proxy target configured)\n"
      refine .inl ?_
      dsimp only
      rw [hrefusal, if_neg (by decide), hline]
      simpa only [String.append_assoc] using hwords
    | empty => exact .inr rfl
    | web hostport handlers =>
      rw [hbranch] at hshown
      cases hshown
    | mounts bodies =>
      rw [hbranch] at hshown
      cases hshown
    | text body =>
      rw [hbranch] at hshown
      cases hshown
    | redirect target status =>
      rw [hbranch] at hshown
      cases hshown
    | proxy target =>
      rw [hbranch] at hshown
      cases hshown
    | forward target =>
      rw [hbranch] at hshown
      cases hshown
    | tlsForward target =>
      rw [hbranch] at hshown
      cases hshown

/-- The rows of a mux, pushed one after the other. -/
theorem foldl_rows {ν : Type} (row : String × ν → String × String) (entries : List (String × ν))
    (out : String) :
    entries.foldl (fun out mount =>
        out ++ "  " ++ (row mount).1 ++ " -> " ++ (row mount).2 ++ "\n") out =
      out ++ String.join ((entries.map row).map rowText) := by
  induction entries generalizing out with
  | nil => simp
  | cons mount entries ih =>
    rw [List.foldl_cons, ih, List.map_cons, List.map_cons, String.join_cons, rowText]
    simp only [String.append_assoc]

/-- A key of a port is shown as it is. -/
theorem sanitize_key {key : String} {port : UInt16} (hkey : parseU16 key = some port) :
    ∀ c ∈ key.toList, isDisplayUnsafe c = false := by
  intro c hc
  rcases (parseU16_numerals hkey).2 c hc with rfl | ⟨hlow, hhigh⟩
  · decide
  · rw [Char.le_def, UInt32.le_iff_toNat_le] at hlow hhigh
    have hlow : 48 ≤ c.toNat := hlow
    have hhigh : c.toNat ≤ 57 := hhigh
    unfold isDisplayUnsafe isControl
    simp only [Bool.or_eq_false_iff, Bool.and_eq_false_iff, decide_eq_false_iff_not,
      beq_eq_false_iff_ne]
    omega

/-- The URL of a `Web` key ends in the key of the port. -/
theorem sanitize_hostport {key hostport : String} {port : UInt16}
    (hkey : parseU16 key = some port) (hends : endsWith (":" ++ key) hostport = true) :
    ∃ host, sanitizeForTerminal hostport = host ++ ":" ++ key := by
  obtain ⟨front, hfront⟩ := List.isSuffixOf_iff_suffix.mp hends
  refine ⟨sanitizeForTerminal (String.ofList front), ?_⟩
  have hcolon : (":" ++ key).toList = ':' :: key.toList := by simp
  have hsame : ∀ c ∈ (":" ++ key).toList,
      (if isDisplayUnsafe c then Char.ofNat 0xFFFD else c) = id c := by
    intro c hc
    have hsafe : isDisplayUnsafe c = false := by
      rw [hcolon] at hc
      rcases List.mem_cons.mp hc with rfl | hc
      · decide
      · exact sanitize_key hkey c hc
    rw [hsafe, if_neg Bool.false_ne_true, id]
  apply String.toList_injective
  unfold sanitizeForTerminal
  rw [← hfront, List.map_append, List.map_congr_left hsame, List.map_id]
  simp [String.append_assoc]

/-- A `Web` key that is shown ends in the key of its entry. -/
theorem endsWith_of_entryShown {cfg : ServeConfig} {key hostport : String} {h : TcpPortHandler}
    {handlers : SortedMap String HttpHandler}
    (hshown : entryShown cfg key h = .web hostport handlers) :
    endsWith (":" ++ key) hostport = true := by
  unfold entryShown at hshown
  cases hweb : webEntryShown cfg key h with
  | some site =>
    rw [hweb] at hshown
    cases hshown
    unfold webEntryShown at hweb
    split at hweb
    · have hfound := List.find?_some hweb
      exact hfound
    · cases hweb
  | none =>
    rw [hweb] at hshown
    dsimp only at hshown
    split at hshown
    · cases hshown
    · split at hshown
      · cases hshown
      · cases hshown
      · split at hshown
        · cases hshown
        · split at hshown
          · cases hshown
          · split at hshown
            · cases hshown
            · split at hshown
              · cases hshown
              · split at hshown
                · cases hshown
                · cases hshown

/-- The URL of an entry in the legacy shape. -/
theorem nodeUrl_eq (e : StatusEntry) :
    e.nodeUrl = urlScheme (!e.http) ++ "://" ++ "<node>" ++ ":" ++ e.key := by
  unfold StatusEntry.nodeUrl StatusEntry.scheme urlScheme
  cases e.http <;> rfl

/-- A mux of one mount, and that the root. -/
theorem entries_of_root {handlers : SortedMap String HttpHandler} {root : HttpHandler}
    (hlength : (handlers.entries.length == 1) = true) (hroot : handlers.get? "/" = some root) :
    handlers.entries = [("/", root)] := by
  obtain ⟨entry, hentry⟩ := List.length_eq_one_iff.mp (beq_iff_eq.mp hlength)
  have hmem := SortedMap.get?_eq_some_iff.mp hroot
  rw [hentry, List.mem_singleton] at hmem
  rw [hentry, hmem]

/-- A root mount alone, in the words of its branch. -/
theorem prints_root {e : StatusEntry} {body : WebMount} {piece : String}
    (hpiece : piece = webMountDesc body ∨ body = .proxy piece) :
    Prints e.key (.ofMounts (!e.http) (SortedMap.empty.insert "/" body.engine))
      (e.nodeUrl ++ " -> " ++ piece ++ "\n") := by
  rw [nodeUrl_eq]
  exact Prints.root _ _ _ rfl (.inr ⟨body, rfl, hpiece⟩)

/-- The mounts of a map, with the descriptions of their handlers. -/
theorem descs_entries {ν : Type} (f : ν → EngineHandler) (m : SortedMap String ν) :
    ((m.map f).map EngineHandler.desc).entries =
      m.entries.map fun mount => (mount.1, (f mount.2).desc) :=
  List.map_map

/-- A mux, a row for each mount. -/
theorem prints_mux {ν : Type} {key : String} (tls : Bool) (host : String) {f : ν → EngineHandler}
    {m : SortedMap String ν} {row : String × ν → String × String}
    (hrow : ∀ mount, RowDescribes (row mount) (mount.1, (f mount.2).desc)) :
    Prints key (.ofMounts tls (m.map f)) (urlScheme tls ++ "://" ++ host ++ ":" ++ key ++
      " (path mux)\n" ++ String.join ((m.entries.map row).map rowText)) := by
  refine Prints.mux _ _ _ ?_
  rw [descs_entries, List.forall₂_map_left_iff, List.forall₂_map_right_iff, List.forall₂_same]
  exact fun mount _ => hrow mount

/-- **The block of an entry of a port shows what the entry is told to be served with.** -/
theorem prints_lines {e : StatusEntry} {port : UInt16} {service : Service}
    (hkey : parseU16 e.key = some port)
    (hends : ∀ hostport handlers, e.shown = .web hostport handlers →
      endsWith (":" ++ e.key) hostport = true)
    (hservice : e.shown.service e.http = some service) : Prints e.key service e.lines := by
  unfold StatusEntry.lines
  cases hbranch : e.shown with
  | web hostport handlers =>
    rw [hbranch] at hservice
    cases hservice
    obtain ⟨host, hhost⟩ := sanitize_hostport hkey (hends hostport handlers hbranch)
    have hurl : e.scheme ++ "://" ++ sanitizeForTerminal hostport =
        urlScheme (!e.http) ++ "://" ++ host ++ ":" ++ e.key := by
      rw [hhost]
      unfold StatusEntry.scheme urlScheme
      cases e.http <;> simp only [String.append_assoc] <;> rfl
    have hmux : Prints e.key (.ofMounts (!e.http) (handlers.map HttpHandler.engine))
        (handlers.entries.foldl (fun out mount =>
            out ++ "  " ++ sanitizeForTerminal mount.1 ++ " -> " ++ webHandlerDesc mount.2 ++ "\n")
          (e.scheme ++ "://" ++ sanitizeForTerminal hostport ++ " (path mux)\n")) := by
      rw [foldl_rows fun mount : String × HttpHandler =>
        (sanitizeForTerminal mount.1, webHandlerDesc mount.2), hurl]
      exact prints_mux _ _ fun mount => ⟨.inr rfl, .inl rfl⟩
    dsimp only
    split
    · -- the root alone
      rename_i root hlength hroot
      rw [hurl]
      refine Prints.root _ _ _ ?_ (.inl rfl)
      rw [descs_entries, entries_of_root hlength hroot]
      rfl
    · exact hmux
  | mounts bodies =>
    rw [hbranch] at hservice
    cases hservice
    dsimp only
    rw [foldl_rows fun mount : String × WebMount => (mount.1, webMountDesc mount.2), nodeUrl_eq]
    exact prints_mux _ _ fun mount => ⟨.inl rfl, .inr ⟨mount.2, rfl, .inl rfl⟩⟩
  | text body =>
    rw [hbranch] at hservice
    cases hservice
    exact prints_root (.inl rfl)
  | redirect target status =>
    rw [hbranch] at hservice
    cases hservice
    exact prints_root (.inl rfl)
  | proxy target =>
    rw [hbranch] at hservice
    cases hservice
    exact prints_root (.inr rfl)
  | forward target =>
    rw [hbranch] at hservice
    cases hservice
    exact .forward target
  | tlsForward target =>
    rw [hbranch] at hservice
    cases hservice
    exact .tlsForward target
  | tlsAlone target =>
    rw [hbranch] at hservice
    cases hservice
  | bare =>
    rw [hbranch] at hservice
    cases hservice
  | empty =>
    rw [hbranch] at hservice
    cases hservice

/-! ## What is shown with the words in it -/

/-- The texts a branch shows. -/
def EntryShown.pieces : EntryShown → List String
  | .web hostport handlers => sanitizeForTerminal hostport ::
      handlers.entries.flatMap fun mount => [sanitizeForTerminal mount.1, webHandlerDesc mount.2]
  | .mounts bodies => bodies.entries.flatMap fun mount => [mount.1, webMountDesc mount.2]
  | .text body => [textDesc body]
  | .redirect target status => [redirectDesc target status]
  | .proxy target => [target]
  | .forward target => [target]
  | .tlsForward target => [target]
  | .tlsAlone _ => []
  | .bare => []
  | .empty => []

/-- A text that keeps its two sides apart: blanks, a character that the words do not have, and none
    that they begin with. -/
def isCut (sep : String) : Bool :=
  match sep.toList.dropWhile (· == ' ') with
  | c :: back => !"NOT served".toList.contains c && back.all (· != 'N')
  | [] => false

theorem hasWords_cut {a b sep : String} (h : isCut sep = true) :
    HasWords (a ++ sep ++ b) ↔ HasWords a ∨ HasWords b := by
  have hsep := List.takeWhile_append_dropWhile (p := (· == ' ')) (l := sep.toList)
  unfold isCut at h
  split at h
  · rename_i c back hback
    rw [Bool.and_eq_true, Bool.not_eq_true', List.contains_eq_mem, decide_eq_false_iff_not,
      List.all_eq_true] at h
    obtain ⟨hc, hrest⟩ := h
    unfold HasWords
    rw [String.toList_append, String.toList_append, ← hsep, hback]
    refine Infix.cut_iff (by decide) (fun d hd => ?_) hc fun d hd => ?_
    · have hblank : (d == ' ') = true := List.all_eq_true.mp List.all_takeWhile d hd
      rw [beq_iff_eq.mp hblank]
      decide
    · have hne : 'N' ≠ d := fun heq => absurd (hrest d hd) (by simp [← heq])
      exact fun heq => hne (Option.some.inj heq)
  · cases h

theorem hasWords_end {a sep : String} (h : isCut sep = true) :
    HasWords (a ++ sep) ↔ HasWords a := by
  have hcut := hasWords_cut (a := a) (b := "") h
  rw [String.append_empty] at hcut
  rw [hcut]
  exact or_iff_left (by unfold HasWords; decide)

theorem hasWords_front {front b : String} (h : (front.toList.all (· != 'N')) = true) :
    HasWords (front ++ b) ↔ HasWords b := by
  unfold HasWords
  rw [String.toList_append]
  refine Infix.front_iff (by decide) fun d hd => ?_
  have hne : 'N' ≠ d := fun heq => absurd (List.all_eq_true.mp h d hd) (by simp [← heq])
  exact fun heq => hne (Option.some.inj heq)

/-- A key of a port is digits. -/
theorem not_hasWords_key {key : String} {port : UInt16} (hkey : parseU16 key = some port) :
    ¬ HasWords key := by
  intro hwords
  have hmem : 'N' ∈ key.toList := hwords.subset (by decide)
  rcases (parseU16_numerals hkey).2 'N' hmem with heq | ⟨-, hnine⟩
  · exact absurd heq (by decide)
  · exact absurd hnine (by decide)

theorem hasWords_rows (rows : List (String × String)) :
    HasWords (String.join (rows.map rowText)) ↔
      ∃ piece ∈ rows.flatMap fun row => [row.1, row.2], HasWords piece := by
  induction rows with
  | nil => exact iff_of_false (by unfold HasWords; decide) (by simp)
  | cons row rows ih =>
    have hrow : HasWords ("  " ++ row.1 ++ " -> " ++ row.2) ↔ HasWords row.1 ∨ HasWords row.2 := by
      rw [hasWords_cut (by decide), hasWords_front (by decide)]
    rw [List.map_cons, String.join_cons, rowText, hasWords_cut (by decide), hrow, ih,
      List.flatMap_cons]
    simp only [List.cons_append, List.nil_append, List.mem_cons, exists_eq_or_imp, or_assoc]

/-- A text that shows a service is no empty handler. -/
theorem Prints.ne_empty {key text : String} {service : Service} (h : Prints key service text) :
    text ≠ ":" ++ key ++ " (empty handler)\n" := by
  have hhead : text.toList.head? = some 't' ∨ text.toList.head? = some 'h' := by
    cases h with
    | forward target => exact .inl (by simp [String.toList_append])
    | tlsForward target => exact .inl (by simp [String.toList_append])
    | root tls host piece hone hdesc =>
      refine .inr ?_
      cases tls <;> simp [urlScheme, String.toList_append]
    | mux tls host rows hrows =>
      refine .inr ?_
      cases tls <;> simp [urlScheme, String.toList_append]
  rintro rfl
  rcases hhead with hhead | hhead <;> simp [String.toList_append] at hhead

/-- **The block of an entry of a port that is told to be served says "NOT served" exactly when a
    text that it shows does.** -/
theorem says_lines_iff {e : StatusEntry} {port : UInt16} {service : Service}
    (hkey : parseU16 e.key = some port)
    (hends : ∀ hostport handlers, e.shown = .web hostport handlers →
      endsWith (":" ++ e.key) hostport = true)
    (hservice : e.shown.service e.http = some service) :
    SaysNotServed e.key e.lines ↔ ∃ piece ∈ e.shown.pieces, HasWords piece := by
  have hprints := prints_lines hkey hends hservice
  have hdigits := not_hasWords_key hkey
  unfold SaysNotServed
  rw [or_iff_left hprints.ne_empty]
  have hscheme : ((e.scheme ++ "://").toList.all (· != 'N')) = true := by
    unfold StatusEntry.scheme
    cases e.http <;> rfl
  have hnode : ¬ HasWords e.nodeUrl := by
    have hfront : ((e.scheme ++ "://<node>:").toList.all (· != 'N')) = true := by
      unfold StatusEntry.scheme
      cases e.http <;> rfl
    unfold StatusEntry.nodeUrl
    rwa [hasWords_front hfront]
  have hroot (piece : String) :
      HasWords (e.nodeUrl ++ " -> " ++ piece ++ "\n") ↔ HasWords piece := by
    rw [hasWords_end (by decide), hasWords_cut (by decide)]
    exact or_iff_right hnode
  unfold StatusEntry.lines EntryShown.pieces
  cases hbranch : e.shown with
  | web hostport handlers =>
    have hurl : HasWords (e.scheme ++ "://" ++ sanitizeForTerminal hostport) ↔
        HasWords (sanitizeForTerminal hostport) := hasWords_front hscheme
    dsimp only
    split
    · rename_i root hlength hroot
      have hslash : ¬ HasWords (sanitizeForTerminal "/") := by unfold HasWords; decide
      rw [hasWords_end (by decide), hasWords_cut (by decide), hurl, entries_of_root hlength hroot]
      simp [hslash]
    · rw [foldl_rows fun mount : String × HttpHandler =>
        (sanitizeForTerminal mount.1, webHandlerDesc mount.2), hasWords_cut (by decide), hurl,
        hasWords_rows, List.flatMap_map]
      simp only [List.mem_cons, exists_eq_or_imp]
  | mounts bodies =>
    dsimp only
    rw [foldl_rows fun mount : String × WebMount => (mount.1, webMountDesc mount.2),
      hasWords_cut (by decide), hasWords_rows, or_iff_right hnode, List.flatMap_map]
  | text body => simpa using hroot (textDesc body)
  | redirect target status => simpa using hroot (redirectDesc target status)
  | proxy target => simpa using hroot target
  | forward target =>
    dsimp only
    rw [hasWords_end (by decide), hasWords_cut (by decide), hasWords_front (by decide),
      or_iff_right hdigits]
    simp
  | tlsForward target =>
    dsimp only
    rw [hasWords_end (by decide), hasWords_cut (by decide), hasWords_front (by decide),
      or_iff_right hdigits]
    simp
  | tlsAlone target =>
    rw [hbranch] at hservice
    cases hservice
  | bare =>
    rw [hbranch] at hservice
    cases hservice
  | empty =>
    rw [hbranch] at hservice
    cases hservice

/-! ## When a block is true -/

/-- Where nothing is served the block is true when the entry is told as not served. -/
theorem entryTruthful_none {e : StatusEntry} : EntryTruthful e none ↔ e.told = none :=
  ⟨EntryTruthful.told, fun htold => ⟨htold, told_none_text htold⟩⟩

/-- **Where an entry of a port is served** the block is true when the entry is told to be served so,
    and nothing that is shown of it says "NOT served". -/
theorem entryTruthful_some {cfg : ServeConfig} {name : Option String}
    {entry : String × TcpPortHandler} {port : UInt16} {service : Service}
    (hkey : parseU16 entry.1 = some port) :
    EntryTruthful (statusEntry G cfg name entry) (some service) ↔
      (statusEntry G cfg name entry).told = some service ∧
        ∀ piece ∈ (entryShown cfg entry.1 entry.2).pieces, ¬ HasWords piece := by
  have hblock (htold : (statusEntry G cfg name entry).told = some service) :
      Prints entry.1 service (statusEntry G cfg name entry).text ∧
        (SaysNotServed entry.1 (statusEntry G cfg name entry).text ↔
          ∃ piece ∈ (entryShown cfg entry.1 entry.2).pieces, HasWords piece) := by
    unfold StatusEntry.told at htold
    unfold StatusEntry.text
    split at htold
    · cases htold
    · -- without a refusal the block is what its branch pushed
      rename_i hrefusal
      rw [Option.not_isSome_iff_eq_none.mp hrefusal]
      have hends : ∀ hostport handlers,
          (statusEntry G cfg name entry).shown = .web hostport handlers →
          endsWith (":" ++ entry.1) hostport = true := fun _ _ => endsWith_of_entryShown
      exact ⟨prints_lines (e := statusEntry G cfg name entry) hkey hends htold,
        says_lines_iff (e := statusEntry G cfg name entry) hkey hends htold⟩
  constructor
  · intro h
    refine ⟨h.told, fun piece hpiece hwords => h.text.2 ?_⟩
    exact (hblock h.told).2.mpr ⟨piece, hpiece, hwords⟩
  · rintro ⟨htold, hpieces⟩
    refine ⟨htold, (hblock htold).1, fun hsays => ?_⟩
    obtain ⟨piece, hpiece, hwords⟩ := (hblock htold).2.mp hsays
    exact hpieces piece hpiece hwords

end Tailnetd
