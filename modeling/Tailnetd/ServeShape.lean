/-
  What the CLI writes is told as it is served (`tnet.rs`, `ipn/serve.rs`).

  Every edit of `tnet serve` and `tnet funnel` writes Go's shape: a canonical TCP key, one flag or
  one forward in its handler, and the mounts in the `Web` map under the node's name.  In a config of
  that shape (`GoShaped`) a port has one key and the first `Web` key that ends in it is the node's
  own, so that none of the kinds of `PortMisleads` is there and `serve status` tells the truth under
  any engine, but for what is shown with the words "NOT served" itself (`ShowsWords`).

  The shape is kept by each edit (`GoShaped.edit`), so by every run of edits under one name
  (`edits_truthful`).  What is excluded is a TLS-terminated forward with an empty target, which the
  status says is not served and the engine may be given.
-/
import Tailnetd.Lib.Machine
import Tailnetd.StatusTruth

namespace Tailnetd

variable (G : ServeEngine)

/-! ## What the CLI writes -/

/-- The handlers the CLI writes in Go's shape: nothing, a plain forward, a TLS-terminated one with a
    target, or one web flag with a `Web` entry under the node's name. -/
inductive GoHandler (cfg : ServeConfig) (host : String) (port : UInt16) (h : TcpPortHandler) : Prop
  | idle (hforward : h.tcpForward.isEmpty = true) (hflags : (h.https || h.http) = false)
      (htls : h.terminateTls.isEmpty = true)
  | forward (hplain : isPlainTcpForward h = true)
  | tls (htls : isTlsForward h = true) (hforward : h.tcpForward.isEmpty = false)
  | web (hflag : h.https = !h.http) {wsc : WebServerConfig}
      (hown : cfg.web.get? (hostPort host port) = some wsc)

/-- The handler has no legacy body. -/
def NoBody (h : TcpPortHandler) : Prop :=
  h.text = none ∧ h.redirect = none ∧ h.mounts.isEmpty = true

/-- A config in Go's shape, all of it written under one name: every key is a port in its canonical
    spelling, no handler has a legacy body, and every `Web` key is the name with a port. -/
structure GoShaped (cfg : ServeConfig) (host : String) : Prop where
  keys : ∀ entry ∈ cfg.tcp.entries, ∃ port, entry.1 = tcpKey port ∧
    GoHandler cfg host port entry.2
  bodies : ∀ entry ∈ cfg.tcp.entries, NoBody entry.2
  names : ∀ site ∈ cfg.web.entries, ∃ port, site.1 = hostPort host port

section
variable {cfg : ServeConfig} {host : String}

/-- A port has one key. -/
theorem GoShaped.one_key (hshape : GoShaped cfg host) {a b : String × TcpPortHandler}
    {port : UInt16} (ha : a ∈ cfg.tcp.entries) (hb : b ∈ cfg.tcp.entries)
    (hname : NamesPort a port) (hname' : NamesPort b port) : a = b := by
  have hkey {entry : String × TcpPortHandler} (hentry : entry ∈ cfg.tcp.entries)
      (hnames : NamesPort entry port) : entry.1 = tcpKey port := by
    obtain ⟨p, heq, -⟩ := hshape.keys entry hentry
    unfold NamesPort at hnames
    rw [heq] at hnames ⊢
    exact congrArg tcpKey (Option.some.inj ((parseU16_portText p).symm.trans hnames))
  exact SortedMap.eq_of_key_eq ha hb ((hkey ha hname).trans (hkey hb hname').symm)

/-- Without a flag and a body the handler is no web port. -/
theorem NoBody.not_webServe {h : TcpPortHandler} (hbody : NoBody h)
    (hflags : (h.https || h.http) = false) : isWebServe h = false := by
  obtain ⟨htext, hredirect, hmounts⟩ := hbody
  unfold isWebServe
  rw [hflags, htext, hredirect, hmounts]
  rfl

/-- Without a flag nothing is shown but the forward. -/
theorem GoShaped.shownMounts_of_unflagged (hshape : GoShaped cfg host)
    {entry : String × TcpPortHandler} (hentry : entry ∈ cfg.tcp.entries)
    (hflags : (entry.2.https || entry.2.http) = false) : shownMounts cfg entry = none := by
  have hweb := (hshape.bodies entry hentry).not_webServe hflags
  unfold shownMounts webEntryShown
  rw [hflags, legacyBodies_isEmpty, hweb]
  rfl

/-- With a flag the node's own `Web` entry is shown. -/
theorem GoShaped.shownMounts_of_flagged (hshape : GoShaped cfg host)
    {entry : String × TcpPortHandler} {port : UInt16} {wsc : WebServerConfig}
    (hkey : entry.1 = tcpKey port) (hflags : (entry.2.https || entry.2.http) = true)
    (hown : cfg.web.get? (hostPort host port) = some wsc) :
    shownMounts cfg entry = some (ownMounts cfg host port entry.2) := by
  have hfound : webEntryShown cfg entry.1 entry.2 = some (hostPort host port, wsc) := by
    unfold webEntryShown
    rw [hflags, if_pos rfl, hkey]
    -- the first key that ends in the port is the node's own: every key carries its name
    have hends : endsWith (portSuffix port) (hostPort host port) = true :=
      endsWith_hostPort host port
    cases hfind : cfg.web.entries.find? fun site => endsWith (":" ++ tcpKey port) site.1 with
    | none =>
      have hskipped := List.find?_eq_none.mp hfind _ (SortedMap.get?_eq_some_iff.mp hown)
      exact absurd hends hskipped
    | some site =>
      have hmem := List.mem_of_find?_eq_some hfind
      have hsite : endsWith (portSuffix port) site.1 = true := by
        have hfound := List.find?_some hfind
        exact hfound
      obtain ⟨p, hsitekey⟩ := hshape.names site hmem
      rw [hsitekey] at hsite
      have hport : p = port := endsWith_port_unique (endsWith_hostPort host p) hsite
      rw [hport] at hsitekey
      have howned := SortedMap.get?_eq_some_iff.mp hown
      exact congrArg some (SortedMap.eq_of_key_eq hmem howned hsitekey)
  unfold shownMounts ownMounts
  rw [hfound, hown]

/-- The engine has the mounts of the one key of a web port. -/
theorem GoShaped.portMounts_eq (hshape : GoShaped cfg host) {entry : String × TcpPortHandler}
    {port : UInt16} (hname : NamesPort entry port) (hlast : lastKey G cfg host port = some entry)
    (hkind : isTlsForward entry.2 = false) :
    portMounts G cfg host port = ownMounts cfg host port entry.2 := by
  obtain ⟨hentry, hwrite⟩ := lastKey_accepted G hlast
  unfold portMounts
  cases hlastWeb : lastWebKey G cfg host port with
  | some last =>
    unfold lastWebKey at hlastWeb
    have hwrites := List.find?_some hlastWeb
    obtain ⟨handlers, hhandlers⟩ := Option.isSome_iff_exists.mp hwrites
    have hmem := List.mem_reverse.mp (List.mem_of_find?_eq_some hlastWeb)
    rw [hshape.one_key hmem hentry (webWrite_handlers G hhandlers).1 hname]
  | none =>
    -- the engine accepted the key without mounts, so it has none
    obtain ⟨-, ⟨one, hok⟩, -⟩ := (tcpWrite_eq_some G).mp hwrite
    obtain ⟨-, hcases⟩ := enginePort_cases G (checkPort_served G hok).1
    cases hcases with
    | tls htls hhttps hhttp =>
      unfold isTlsForward at hkind
      rw [htls, hhttps, hhttp] at hkind
      cases hkind
    | @web handlers htls hweb hhandlers =>
      have hskipped : webWrite G cfg host port entry = none := by
        have hnone := List.find?_eq_none.mp hlastWeb entry (List.mem_reverse.mpr hentry)
        simpa using hnone
      have hempty : handlers.isEmpty = true := by
        by_contra hne
        have hwritten : webWrite G cfg host port entry = some handlers := by
          refine (keyWrite_eq_some G).mpr ⟨port, _, hname, hok, ?_⟩
          rw [if_neg hne, SortedMap.get?_insert, if_pos rfl]
        rw [hskipped] at hwritten
        cases hwritten
      rw [← webHandlers_own G hhandlers]
      refine SortedMap.eq_of_get? fun k => ?_
      rw [SortedMap.get?_of_isEmpty hempty]
      rfl

/-- No entry of a config in Go's shape, written under the node's name, is of a misleading kind,
    under any engine. -/
theorem GoShaped.not_misleads (hshape : GoShaped cfg host) {entry : String × TcpPortHandler}
    (hentry : entry ∈ cfg.tcp.entries) : ¬ Misleads G cfg host entry := by
  obtain ⟨port, hkey, hgo⟩ := hshape.keys entry hentry
  have hname : NamesPort entry port := by
    unfold NamesPort
    rw [hkey]
    exact parseU16_portText port
  have hunflagged {h : TcpPortHandler} (hplain : isPlainTcpForward h = true) :
      (h.https || h.http) = false := by
    obtain ⟨-, hhttps, hhttp, -⟩ := plainForward_fields hplain
    rw [hhttps, hhttp]
    rfl
  unfold Misleads
  rw [show parseU16 entry.1 = some port from hname]
  intro hmisleads
  cases hmisleads with
  | bodyOnForward hplain hshown =>
    rw [hshape.shownMounts_of_unflagged hentry (hunflagged hplain)] at hshown
    cases hshown
  | refusedBeside hrefused hserved =>
    obtain ⟨other, hother, hnames, e, herror⟩ := hrefused
    rw [hshape.one_key hother hentry hnames hname] at herror
    rcases hserved with hplain | hserved
    · have hunmapped : enginePort G cfg host port entry.2 = .ok none := if_pos hplain
      unfold checkPort at herror
      rw [hunmapped] at herror
      cases herror
    · obtain ⟨last, hlast⟩ := Option.isSome_iff_exists.mp hserved
      obtain ⟨hmem, hwrite⟩ := lastKey_accepted G hlast
      obtain ⟨hnames', ⟨one, hok⟩, -⟩ := (tcpWrite_eq_some G).mp hwrite
      rw [hshape.one_key hmem hentry hnames' hname, herror] at hok
      cases hok
  | @engine last hplain hlast hshows =>
    -- the port has one key, so what it is armed with is the entry's own
    obtain ⟨hmem, hwrite⟩ := lastKey_accepted G hlast
    have hone : last = entry := hshape.one_key hmem hentry ((tcpWrite_eq_some G).mp hwrite).1 hname
    subst hone
    cases hgo with
    | idle hforward hflags htls =>
      obtain ⟨-, ⟨one, hok⟩, -⟩ := (tcpWrite_eq_some G).mp hwrite
      obtain ⟨-, hcases⟩ := enginePort_cases G (checkPort_served G hok).1
      cases hcases with
      | tls htls' _ _ => exact absurd htls (by simp [htls'])
      | web _ hweb _ =>
        rw [hflags, (hshape.bodies last hentry).not_webServe hflags] at hweb
        cases hweb
    | forward hother => exact absurd hother (by simp [hplain])
    | tls htls hforward =>
      have hflags : (last.2.https || last.2.http) = false := by
        unfold isTlsForward at htls
        simp only [Bool.and_eq_true, Bool.not_eq_true'] at htls
        rw [htls.1.2, htls.2]
        rfl
      have hshown := hshape.shownMounts_of_unflagged hentry hflags
      cases hshows with
      | silent hsilent => exact hsilent (.inr hforward)
      | webForTls _ hmounts => exact absurd (hshown.symm.trans hmounts) (by simp)
      | target _ hne => exact hne rfl
      | tlsForWeb hweb _ => exact absurd htls (by simp [hweb])
      | scheme hweb _ => exact absurd htls (by simp [hweb])
      | mounts hweb _ _ => exact absurd htls (by simp [hweb])
    | web hflag hown =>
      have hflags : (last.2.https || last.2.http) = true := by
        rw [hflag]
        cases last.2.http <;> rfl
      have hweb : isTlsForward last.2 = false := by
        unfold isTlsForward
        rw [hflag]
        cases last.2.http <;> simp
      have hshown := hshape.shownMounts_of_flagged hkey hflags hown
      cases hshows with
      | silent hsilent => exact hsilent (.inl (by rw [hshown]; rfl))
      | webForTls htls _ => exact absurd htls (by simp [hweb])
      | target htls _ => exact absurd htls (by simp [hweb])
      | tlsForWeb _ hmounts => exact absurd (hshown.symm.trans hmounts) (by simp)
      | scheme _ hne =>
        rw [hflag] at hne
        exact hne (by cases last.2.http <;> rfl)
      | mounts _ hmounts hne =>
        rw [hshown] at hmounts
        cases hmounts
        exact hne (congrArg _ (hshape.portMounts_eq G hname hlast hweb).symm)

/-- **The status of a config in Go's shape**, written under the node's name, tells the truth, under
    any engine, when nothing that is served is shown with the words "NOT served". -/
theorem goShaped_truthful_iff {name : String} (hshape : GoShaped cfg (trimEndDots name)) :
    StatusTruthful G cfg name ↔
      ∀ entry ∈ cfg.tcp.entries, ¬ ShowsWords G cfg (trimEndDots name) entry := by
  rw [serve_status_truthful_iff]
  exact forall₂_congr fun _ hentry => and_iff_right (hshape.not_misleads G hentry)

end

/-! ## The edits keep the shape -/

/-- The shape of a handler depends on the node's `Web` entry of its port and on nothing else. -/
theorem GoHandler.congr {cfg cfg' : ServeConfig} {host : String} {port : UInt16}
    {h : TcpPortHandler} (hgo : GoHandler cfg host port h)
    (hweb : cfg'.web.get? (hostPort host port) = cfg.web.get? (hostPort host port)) :
    GoHandler cfg' host port h := by
  cases hgo with
  | idle hforward hflags htls => exact .idle hforward hflags htls
  | forward hplain => exact .forward hplain
  | tls htls hforward => exact .tls htls hforward
  | web hflag hown => exact .web hflag (hweb.trans hown)

section
variable {cfg : ServeConfig} {host : String} {port : UInt16}

/-- An edit of one port keeps the shape when what it writes for the port has it. -/
theorem GoShaped.of_sameAt {cfg' : ServeConfig} (hshape : GoShaped cfg host)
    (hsame : ∀ p, p ≠ port → SameAt p cfg cfg')
    (hkeys : ∀ entry ∈ cfg'.tcp.entries, entry.1 = tcpKey port ∨ entry ∈ cfg.tcp.entries)
    (hown : ∀ h, cfg'.tcp.get? (tcpKey port) = some h → GoHandler cfg' host port h ∧ NoBody h)
    (hnames : ∀ site ∈ cfg'.web.entries, site.1 = hostPort host port ∨ site ∈ cfg.web.entries) :
    GoShaped cfg' host := by
  have hentry (entry : String × TcpPortHandler) (hmem : entry ∈ cfg'.tcp.entries) :
      (∃ p, entry.1 = tcpKey p ∧ GoHandler cfg' host p entry.2) ∧ NoBody entry.2 := by
    by_cases hkey : entry.1 = tcpKey port
    -- the edited port has what was written, every other one what it had
    · have hget : cfg'.tcp.get? (tcpKey port) = some entry.2 := by
        rw [← hkey]
        exact SortedMap.get?_eq_some_iff.mpr hmem
      obtain ⟨hgo, hbody⟩ := hown entry.2 hget
      exact ⟨⟨port, hkey, hgo⟩, hbody⟩
    · have hold : entry ∈ cfg.tcp.entries := (hkeys entry hmem).resolve_left hkey
      obtain ⟨p, hp, hgo⟩ := hshape.keys entry hold
      have hne : p ≠ port := by
        rintro rfl
        exact hkey hp
      have hweb := (hsame p hne).web (hostPort host p) (endsWith_hostPort host p)
      exact ⟨⟨p, hp, hgo.congr hweb⟩, hshape.bodies entry hold⟩
  refine ⟨fun entry hmem => (hentry entry hmem).1, fun entry hmem => (hentry entry hmem).2, ?_⟩
  intro site hsite
  rcases hnames site hsite with hname | hold
  · exact ⟨port, hname⟩
  · exact hshape.names site hold

theorem GoShaped.setWeb (hshape : GoShaped cfg host) (tls : Bool) (mount : String)
    (entry : HttpHandler) : GoShaped (cfg.setWeb host port tls mount entry) host := by
  refine hshape.of_sameAt (fun p hne => setWeb_sameAt cfg hne host tls mount entry)
    (fun entry hmem => SortedMap.mem_insertEntry hmem) ?_
    (fun site hmem => SortedMap.mem_insertEntry hmem)
  intro h hget
  have hwritten := (SortedMap.get?_insert _ _ _ _).symm.trans hget
  rw [if_pos rfl] at hwritten
  cases hwritten
  refine ⟨.web (Bool.not_not tls).symm ((SortedMap.get?_insert _ _ _ _).trans (if_pos rfl)), ?_⟩
  exact ⟨rfl, rfl, rfl⟩

theorem GoShaped.setForward (hshape : GoShaped cfg host) {handler : TcpPortHandler}
    (hgo : GoHandler (cfg.setForward port handler) host port handler) (hbody : NoBody handler) :
    GoShaped (cfg.setForward port handler) host := by
  refine hshape.of_sameAt (fun p hne => setForward_sameAt cfg hne handler)
    (fun entry hmem => SortedMap.mem_insertEntry hmem) ?_
    (fun site hmem => .inr (List.mem_filter.mp hmem).1)
  intro h hget
  have hwritten := (SortedMap.get?_insert _ _ _ _).symm.trans hget
  rw [if_pos rfl] at hwritten
  cases hwritten
  exact ⟨hgo, hbody⟩

theorem GoShaped.setFunnel (hshape : GoShaped cfg host) (name : String) (on : Bool) :
    GoShaped (setFunnel cfg name port on) host where
  keys entry hmem := by
    obtain ⟨p, hp, hgo⟩ := hshape.keys entry hmem
    exact ⟨p, hp, hgo.congr rfl⟩
  bodies := hshape.bodies
  names := hshape.names

theorem GoShaped.removeServePort (hshape : GoShaped cfg host) :
    GoShaped (removeServePort cfg port).2 host := by
  refine hshape.of_sameAt (fun p hne => removeServePort_sameAt cfg hne)
    (fun entry hmem => .inr (List.mem_filter.mp hmem).1) ?_
    (fun site hmem => .inr (List.mem_filter.mp hmem).1)
  intro h hget
  have hremoved := (SortedMap.get?_remove cfg.tcp _ _).symm.trans hget
  rw [if_pos rfl] at hremoved
  cases hremoved

/-- A handler with a forward and no flag: plain, or TLS-terminated when it has a target. -/
theorem goHandler_forward (cfg : ServeConfig) (host : String) (port : UInt16) {tls target : String}
    (htarget : tls.isEmpty = false → target.isEmpty = false) :
    GoHandler cfg host port { terminateTls := tls, tcpForward := target } := by
  cases htls : tls.isEmpty with
  | false =>
    have hforward := htarget htls
    exact .tls (by simp [isTlsForward, htls]) hforward
  | true =>
    cases hforward : target.isEmpty with
    | false => exact .forward (by simp [isPlainTcpForward, hforward, htls])
    | true => exact .idle hforward rfl htls

end

/-- A TLS-terminated forward is given a target. -/
def ServeCommand.HasTlsTarget : ServeCommand → Prop
  | .flags f _ => f.kind = .tlsTerminatedTcp →
      ∀ target, f.target = some target → (normalizeTcpServeTarget target).isEmpty = false
  | _ => True

/-- **Every edit keeps the shape.** -/
theorem GoShaped.edit {name : String} {cfg cfg' : ServeConfig} {cmd : ServeCommand}
    (hshape : GoShaped cfg (trimEndDots name)) (htarget : cmd.HasTlsTarget)
    (h : cmd.edit name cfg = .ok (some cfg')) : GoShaped cfg' (trimEndDots name) := by
  cases cmd with
  | flags f funnel =>
    cases hoff : f.isOff with
    | true =>
      rw [runServeV2_off hoff h]
      split
      · exact hshape.setFunnel _ false
      · exact hshape.removeServePort
    | false =>
      obtain ⟨target, served, htext, hserved, rfl⟩ := runServeV2_listener hoff h
      have hlistener : GoShaped served (trimEndDots name) := by
        unfold serveListener at hserved
        cases hkind : f.kind with
        | https =>
          rw [hkind] at hserved
          obtain ⟨mount, entry, rfl⟩ := buildWebServe_eq hserved
          exact hshape.setWeb true mount entry
        | http =>
          rw [hkind] at hserved
          obtain ⟨mount, entry, rfl⟩ := buildWebServe_eq hserved
          exact hshape.setWeb false mount entry
        | tcp =>
          rw [hkind] at hserved
          cases hserved
          exact hshape.setForward (goHandler_forward _ _ _ fun hne => by cases hne) ⟨rfl, rfl, rfl⟩
        | tlsTerminatedTcp =>
          rw [hkind] at hserved
          cases hserved
          have hforward := htarget hkind target htext
          exact hshape.setForward (goHandler_forward _ _ _ fun _ => hforward) ⟨rfl, rfl, rfl⟩
      split
      · exact hlistener.setFunnel _ true
      · exact hlistener
  | tcp port target =>
    cases h
    exact hshape.setForward (goHandler_forward _ _ _ fun hne => by cases hne) ⟨rfl, rfl, rfl⟩
  | web port target setPath tls =>
    obtain ⟨served, hserved, hsome⟩ := except_map_ok h
    cases hsome
    obtain ⟨mount, entry, rfl⟩ := buildWebServe_eq hserved
    exact hshape.setWeb tls mount entry
  | redirect port target status =>
    obtain ⟨u, hcheck, hsome⟩ := except_map_ok h
    cases hsome
    exact hshape.setWeb true "/" _
  | funnelToggle port on =>
    cases h
    exact hshape.setFunnel name on

/-- One command of the CLI: it stores what its edit sends, and a refused one stores nothing. -/
def cliStep (name : String) (cfg : ServeConfig) (cmd : ServeCommand) : Option ServeConfig :=
  match cmd.edit name cfg with
  | .ok sent => some (sent.getD cfg)
  | .error _ => some cfg

/-- A run of commands keeps the shape. -/
theorem GoShaped.run {name : String} {cfg cfg' : ServeConfig} {cmds : List ServeCommand}
    (hshape : GoShaped cfg (trimEndDots name))
    (hrun : Machine.Run (cliStep name) (fun _ cmd => cmd.HasTlsTarget) cfg cmds cfg') :
    GoShaped cfg' (trimEndDots name) := by
  refine hrun.invariant (P := fun c => GoShaped c (trimEndDots name)) ?_ hshape
  intro c cmd c' hc htarget hstep
  unfold cliStep at hstep
  cases hedit : cmd.edit name c with
  | error e =>
    rw [hedit] at hstep
    cases hstep
    exact hc
  | ok sent =>
    rw [hedit] at hstep
    cases sent with
    | none =>
      cases hstep
      exact hc
    | some sent =>
      cases hstep
      exact hc.edit htarget hedit

/-- The empty config has the shape. -/
theorem goShaped_empty (host : String) : GoShaped {} host where
  keys _ hmem := absurd hmem List.not_mem_nil
  bodies _ hmem := absurd hmem List.not_mem_nil
  names _ hmem := absurd hmem List.not_mem_nil

/-- **After any run of commands under one name, from the empty config on, the status tells the
    truth**, under any engine, unless something that is served is shown with the words
    "NOT served". -/
theorem edits_truthful {name : String} {cfg : ServeConfig} {cmds : List ServeCommand}
    (hrun : Machine.Run (cliStep name) (fun _ cmd => cmd.HasTlsTarget) {} cmds cfg) :
    StatusTruthful G cfg name ↔
      ∀ entry ∈ cfg.tcp.entries, ¬ ShowsWords G cfg (trimEndDots name) entry :=
  goShaped_truthful_iff G ((goShaped_empty _).run hrun)

end Tailnetd
