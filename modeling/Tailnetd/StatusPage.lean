/-
  The status page (`tnet.rs`, `status --web` and `web`).

  The page shows what control and the peers supply: names, addresses, relay codes, the login URL,
  the reason of a failed registration.  All of it is escaped, and this is what the escaping is for:
  read as markup, the page is the document of the report, with every text as it was supplied and
  nowhere but in its place (`status_page_reads`).  No text can bring a tag of its own.
-/
import Tailnetd.Lib.Markup
import Tailnetd.Lib.Radix
import Tailnetd.StatusReport

namespace Tailnetd.StatusPage

open Markup

/-! ## The page as it is written -/

/-- `StatusReport`, with what only the page shows. -/
structure WebStatus extends StatusReport where
  version : Option String
  selfIpv6 : Option String
  magicDnsSuffix : Option String

/-- One character of `html_escape`. -/
def escapeChar (c : Char) : String :=
  if c = '&' then "&amp;"
  else if c = '<' then "&lt;"
  else if c = '>' then "&gt;"
  else if c = '"' then "&quot;"
  else if c = '\'' then "&#39;"
  else c.toString

/-- `html_escape`. -/
def htmlEscape (s : String) : String :=
  String.ofList (s.toList.flatMap fun c => (escapeChar c).toList)

/-- A row of the first table. -/
def row (k v : String) : String :=
  "<tr><td class=\"k\">" ++ k ++ "</td><td>" ++ v ++ "</td></tr>"

/-- The row of something that may be missing. -/
def rowOf (k : String) (v : Option String) : String := (v.map fun v => row k (htmlEscape v)).getD ""

/-- The addresses of this node. -/
def selfIps (s : WebStatus) : List String := s.selfIpv4.toList ++ s.selfIpv6.toList

/-- The style of the page. -/
def style : String :=
  "body\x7bfont-family:system-ui,sans-serif;margin:2rem;\x7d" ++
  "table\x7bborder-collapse:collapse;margin-top:1rem;\x7d" ++
  "th,td\x7bborder:1px solid #ccc;padding:4px 10px;text-align:left;\x7d" ++
  "th\x7bbackground:#f4f4f4;\x7d.k\x7bcolor:#555;\x7d"

/-- What stands before the first table. -/
def htmlHead : String :=
  "<!DOCTYPE html>\n<html lang=\"en\">" ++
  ("<head>" ++
    ("<meta charset=\"utf-8\">" ++ "<title>tailnetd status</title>" ++
      ("<style>" ++ style ++ "</style>")) ++
    "</head>") ++
  "<body>" ++ "<h1>tailnetd status</h1>"

/-- The first table. -/
def factsHtml (s : WebStatus) : String :=
  "<table>" ++
  (row "state" (htmlEscape s.state) ++
    rowOf "version" s.version ++
    row "TUN" (toString s.prefs.tun) ++
    rowOf "self" s.selfName ++
    (if (selfIps s).isEmpty then ""
      else row "addresses" (htmlEscape (", ".intercalate (selfIps s)))) ++
    rowOf "magic-dns-suffix" s.magicDnsSuffix ++
    rowOf "exit-node" s.activeExitNode) ++
  "</table>"

/-- The way to log in, or the reason why this node cannot. -/
def loginHtml (s : WebStatus) : String :=
  match s.authUrl, s.error with
  | some url, _ =>
    "<div style=\"margin-top:1rem;padding:12px;border:1px solid #d49b00;background:#fff8e1;\">" ++
    ("<strong>This node needs to be authenticated.</strong><br>" ++
      (("<a href=\"" ++ htmlEscape url ++
          "\" target=\"_blank\" rel=\"noopener noreferrer\">") ++
        "Log in to authenticate this node" ++ "</a>") ++
      ("<br>" ++
        ("<span class=\"k\">" ++
          ("The node finishes connecting automatically once authorized; " ++ "reload to check.") ++
          "</span>"))) ++
    "</div>"
  | none, some err =>
    "<div style=\"margin-top:1rem;padding:12px;border:1px solid #c0392b;background:#fdecea;\">" ++
    ("<strong>Registration failed:</strong> " ++ htmlEscape err ++
      ("<br>" ++
        ("<span class=\"k\">" ++
          ("This is a permanent failure — re-authenticate with a fresh key " ++
            "(`tnet up --authkey " ++ "&lt;NEW_KEY&gt;" ++ "`); the same key will keep failing.") ++
          "</span>"))) ++
    "</div>"
  | none, none => ""

/-- The `online` column. -/
def onlineText (online : Option Bool) : String :=
  match online with
  | some true => "yes"
  | some false => "no"
  | none => "?"

/-- The row of a peer. -/
def peerHtml (p : StatusPeer) : String :=
  "<tr><td>" ++ htmlEscape p.name ++ "</td><td>" ++ htmlEscape p.ipv4 ++ "</td><td>" ++
  htmlEscape (p.ipv6.getD "") ++ "</td><td>" ++ onlineText p.online ++ "</td><td>" ++
  (if p.isExitNode then "yes" else "") ++ "</td><td>" ++ htmlEscape (p.relay.getD "") ++
  "</td><td>" ++ htmlEscape (p.lastSeen.getD "") ++ "</td></tr>"

/-- The peers. -/
def peersHtml (s : WebStatus) : String :=
  "<h2>" ++ ("peers (" ++ toString s.peers.length ++ ")") ++ "</h2>" ++
  if s.peers.isEmpty then "<p>no peers</p>"
  else
    "<table>" ++
    (("<tr><th>name</th><th>ipv4</th><th>ipv6</th><th>online</th>" ++
        "<th>exit-node</th><th>relay</th><th>last-seen</th></tr>") ++
      String.ofList (s.peers.flatMap fun p => (peerHtml p).toList)) ++
    "</table>"

/-- `render_status_html`. -/
def renderStatusHtml (s : WebStatus) : String :=
  htmlHead ++ factsHtml s ++ loginHtml s ++ peersHtml s ++ "</body></html>"

/-! ## The page as it is meant -/

/-- Text. -/
def words (s : String) : List Token := s.toList.map .char

/-- An element. -/
def element (name : String) (content : List Token) : List Token :=
  .opening ⟨name.toList, []⟩ :: content ++ [.closing name.toList]

/-- An element with attributes. -/
def elementWith (name : String) (attrs : List (String × String)) (content : List Token) :
    List Token :=
  .opening ⟨name.toList, attrs.map fun a => (a.1.toList, a.2.toList)⟩ ::
    content ++ [.closing name.toList]

/-- An element that has no content and is not closed. -/
def void (name : String) (attrs : List (String × String)) : List Token :=
  [.opening ⟨name.toList, attrs.map fun a => (a.1.toList, a.2.toList)⟩]

/-- A row of the first table. -/
def factRow (k v : String) : List Token :=
  element "tr" (elementWith "td" [("class", "k")] (words k) ++ element "td" (words v))

/-- The same, of something that may be missing. -/
def factRowOf (k : String) (v : Option String) : List Token := (v.map (factRow k)).getD []

/-- The first table. -/
def facts (s : WebStatus) : List Token :=
  element "table"
    (factRow "state" s.state ++ factRowOf "version" s.version ++
      factRow "TUN" (toString s.prefs.tun) ++ factRowOf "self" s.selfName ++
      (if (selfIps s).isEmpty then [] else factRow "addresses" (", ".intercalate (selfIps s))) ++
      factRowOf "magic-dns-suffix" s.magicDnsSuffix ++ factRowOf "exit-node" s.activeExitNode)

/-- The way to log in, or the reason why this node cannot. -/
def login (s : WebStatus) : List Token :=
  match s.authUrl, s.error with
  | some url, _ =>
    elementWith "div"
      [("style", "margin-top:1rem;padding:12px;border:1px solid #d49b00;background:#fff8e1;")]
      ((element "strong" (words "This node needs to be authenticated.") ++ void "br" []) ++
        elementWith "a" [("href", url), ("target", "_blank"), ("rel", "noopener noreferrer")]
          (words "Log in to authenticate this node") ++
        (void "br" [] ++
          elementWith "span" [("class", "k")]
            (words ("The node finishes connecting automatically once authorized; " ++
              "reload to check."))))
  | none, some err =>
    elementWith "div"
      [("style", "margin-top:1rem;padding:12px;border:1px solid #c0392b;background:#fdecea;")]
      ((element "strong" (words "Registration failed:") ++ words " ") ++ words err ++
        (void "br" [] ++
          elementWith "span" [("class", "k")]
            (words ("This is a permanent failure — re-authenticate with a fresh key " ++
              "(`tnet up --authkey " ++ "<NEW_KEY>" ++ "`); the same key will keep failing."))))
  | none, none => []

/-- The row of a peer. -/
def peer (p : StatusPeer) : List Token :=
  element "tr"
    (element "td" (words p.name) ++ element "td" (words p.ipv4) ++
      element "td" (words (p.ipv6.getD "")) ++ element "td" (words (onlineText p.online)) ++
      element "td" (words (if p.isExitNode then "yes" else "")) ++
      element "td" (words (p.relay.getD "")) ++ element "td" (words (p.lastSeen.getD "")))

/-- The columns of the second table. -/
def columns : List Token :=
  element "tr"
    (["name", "ipv4", "ipv6", "online", "exit-node", "relay", "last-seen"].flatMap fun k =>
      element "th" (words k))

/-- The peers. -/
def peers (s : WebStatus) : List Token :=
  element "h2" (words ("peers (" ++ toString s.peers.length ++ ")")) ++
  if s.peers.isEmpty then element "p" (words "no peers")
  else element "table" (columns ++ s.peers.flatMap peer)

/-- The head of the document. -/
def head : List Token :=
  element "head"
    (void "meta" [("charset", "utf-8")] ++ element "title" (words "tailnetd status") ++
      element "style" (words style))

/-- The document. -/
def statusPage (s : WebStatus) : List Token :=
  .doctype "DOCTYPE html".toList :: words "\n" ++
    elementWith "html" [("lang", "en")]
      (head ++
        element "body"
          (element "h1" (words "tailnetd status") ++ facts s ++ login s ++ peers s))

/-! ## Reading the page -/

/-- The references of `html_escape`. -/
def html : Escaping where
  name c :=
    if c = '&' then some "amp".toList
    else if c = '<' then some "lt".toList
    else if c = '>' then some "gt".toList
    else if c = '"' then some "quot".toList
    else if c = '\'' then some "#39".toList
    else none
  decode n :=
    if n = "amp".toList then some '&'
    else if n = "lt".toList then some '<'
    else if n = "gt".toList then some '>'
    else if n = "quot".toList then some '"'
    else if n = "#39".toList then some '\''
    else none
  decode_name c n h := by
    split_ifs at h <;> cases h <;> simp [*]
  name_chars c n h := by
    split_ifs at h <;> cases h <;> decide
  marked c h := by
    split_ifs at h
    simp [*]

theorem htmlEscape_toList (s : String) : (htmlEscape s).toList = html.text s.toList := by
  unfold htmlEscape Escaping.text
  rw [String.toList_ofList]
  congr 1
  funext c
  unfold escapeChar Escaping.char html
  split_ifs <;> simp [*]

/-- What a text is read as. -/
def Shows (s : String) (tokens : List Token) : Prop := Reads html.decode s.toList tokens

instance (s : String) (tokens : List Token) : Decidable (Shows s tokens) :=
  inferInstanceAs (Decidable (Reads html.decode s.toList tokens))

theorem Shows.append {s t : String} {a b : List Token} (hs : Shows s a) (ht : Shows t b) :
    Shows (s ++ t) (a ++ b) := by
  rw [Shows, String.toList_append]
  exact Reads.append hs ht

theorem shows_escape (s : String) : Shows (htmlEscape s) (words s) := by
  rw [Shows, htmlEscape_toList]
  exact html.reads_text s.toList

/-- A text that needs no escaping. -/
def IsPlain (s : String) : Prop := (s.toList.all fun c => c != '<' && c != '&') = true

instance (s : String) : Decidable (IsPlain s) :=
  inferInstanceAs (Decidable ((s.toList.all fun c => c != '<' && c != '&') = true))

theorem isPlain_iff {s : String} : IsPlain s ↔ ∀ c ∈ s.toList, c ≠ '<' ∧ c ≠ '&' := by
  simp [IsPlain]

theorem IsPlain.append {s t : String} (hs : IsPlain s) (ht : IsPlain t) : IsPlain (s ++ t) := by
  rw [IsPlain, String.toList_append, List.all_append, hs, ht]
  rfl

theorem shows_words {s : String} (h : IsPlain s) : Shows s (words s) :=
  reads_plain (isPlain_iff.mp h)

/-- A literal is plain, by its characters. -/
theorem isPlain_ofList {l : List Char} (h : (l.all fun c => c != '<' && c != '&') = true) :
    IsPlain (String.ofList l) := by
  rw [IsPlain, String.toList_ofList]
  exact h

/-- What a literal is read as, by its characters. -/
theorem shows_ofList {l : List Char} {tokens : List Token}
    (h : scan html.decode .data l = some (.data, tokens)) : Shows (String.ofList l) tokens := by
  rw [Shows, String.toList_ofList]
  exact h

/-- One text behind the other. -/
theorem Shows.words {s t s' t' : String} (hs : Shows s (words s')) (ht : Shows t (words t')) :
    Shows (s ++ t) (words (s' ++ t')) := by
  have h := hs.append ht
  rwa [StatusPage.words, StatusPage.words, ← List.map_append, ← String.toList_append] at h

/-- An element, from its tags and what stands between them. -/
theorem shows_elementWith {front inner back name : String} {attrs : List (String × String)}
    {content : List Token} (hfront : Shows front (void name attrs)) (hinner : Shows inner content)
    (hback : Shows back [.closing name.toList]) :
    Shows (front ++ inner ++ back) (elementWith name attrs content) :=
  (hfront.append hinner).append hback

theorem shows_element {front inner back name : String} {content : List Token}
    (hfront : Shows front (void name [])) (hinner : Shows inner content)
    (hback : Shows back [.closing name.toList]) :
    Shows (front ++ inner ++ back) (element name content) :=
  shows_elementWith hfront hinner hback

/-- Where one cell of a row ends and the next begins. -/
def nextCell : List Token := [.closing "td".toList, .opening ⟨"td".toList, []⟩]

/-- Where the last cell of a row ends. -/
def rowEnd : List Token := [.closing "td".toList, .closing "tr".toList]

theorem shows_nextCell : Shows "</td><td>" nextCell := shows_ofList (by rfl)

theorem shows_rowEnd : Shows "</td></tr>" rowEnd := shows_ofList (by rfl)

theorem shows_row {k v : String} {value : List Token} (hk : IsPlain k) (hv : Shows v value) :
    Shows (row k v) (element "tr" (elementWith "td" [("class", "k")] (words k) ++
      element "td" value)) := by
  have hopen : Shows "<tr><td class=\"k\">" (void "tr" [] ++ void "td" [("class", "k")]) :=
    shows_ofList (by rfl)
  have htokens : element "tr" (elementWith "td" [("class", "k")] (words k) ++ element "td" value) =
      void "tr" [] ++ void "td" [("class", "k")] ++ words k ++ nextCell ++ value ++ rowEnd := by
    simp only [element, elementWith, void, nextCell, rowEnd, List.map_cons, List.map_nil,
      List.cons_append, List.append_assoc, List.nil_append]
  rw [htokens]
  exact hopen.append (shows_words hk) |>.append shows_nextCell |>.append hv |>.append shows_rowEnd

theorem shows_factRow {k : String} (hk : IsPlain k) (v : String) :
    Shows (row k (htmlEscape v)) (factRow k v) :=
  shows_row hk (shows_escape v)

theorem shows_rowOf {k : String} (hk : IsPlain k) (v : Option String) :
    Shows (rowOf k v) (factRowOf k v) := by
  cases v with
  | none => exact Reads.nil
  | some v => exact shows_factRow hk v

theorem shows_facts (s : WebStatus) : Shows (factsHtml s) (facts s) := by
  have hstate := shows_factRow (k := "state") (isPlain_ofList (by rfl)) s.state
  have hversion := shows_rowOf (k := "version") (isPlain_ofList (by rfl)) s.version
  have htun : Shows (row "TUN" (toString s.prefs.tun)) (factRow "TUN" (toString s.prefs.tun)) := by
    refine shows_row (isPlain_ofList (by rfl)) (shows_words ?_)
    cases s.prefs.tun <;> exact isPlain_ofList (by rfl)
  have hname := shows_rowOf (k := "self") (isPlain_ofList (by rfl)) s.selfName
  have hips : Shows
      (if (selfIps s).isEmpty then ""
        else row "addresses" (htmlEscape (", ".intercalate (selfIps s))))
      (if (selfIps s).isEmpty then []
        else factRow "addresses" (", ".intercalate (selfIps s))) := by
    split
    · exact Reads.nil
    · exact shows_factRow (isPlain_ofList (by rfl)) _
  have hsuffix := shows_rowOf (k := "magic-dns-suffix") (isPlain_ofList (by rfl)) s.magicDnsSuffix
  have hexit := shows_rowOf (k := "exit-node") (isPlain_ofList (by rfl)) s.activeExitNode
  exact shows_element (shows_ofList (by rfl))
    ((((((hstate.append hversion).append htun).append hname).append hips).append hsuffix).append
      hexit) (shows_ofList (by rfl))

/-- **The login URL** is the link, and does not end it. -/
theorem shows_link (url : String) :
    Shows ("<a href=\"" ++ htmlEscape url ++ "\" target=\"_blank\" rel=\"noopener noreferrer\">")
      (void "a" [("href", url), ("target", "_blank"), ("rel", "noopener noreferrer")]) := by
  have hname : Escaping.IsName "a".toList := by decide
  have hhref : Escaping.IsName "href".toList := by decide
  have htarget : Escaping.IsName "target".toList := by decide
  have hrel : Escaping.IsName "rel".toList := by decide
  have hread := html.reads_opening ⟨"a".toList, [("href".toList, url.toList),
    ("target".toList, "_blank".toList), ("rel".toList, "noopener noreferrer".toList)]⟩ hname
    (by
      intro a ha
      simp only [List.mem_cons, List.not_mem_nil, or_false] at ha
      rcases ha with rfl | rfl | rfl
      · exact hhref
      · exact htarget
      · exact hrel)
  have hfront : "<a href=\"".toList =
      '<' :: "a".toList ++ (' ' :: "href".toList ++ ['=', '"']) := by
    rfl
  have hback : "\" target=\"_blank\" rel=\"noopener noreferrer\">".toList =
      '"' :: html.attr ("target".toList, "_blank".toList) ++
        html.attr ("rel".toList, "noopener noreferrer".toList) ++ ['>'] := by
    rfl
  have hwritten :
      ("<a href=\"" ++ htmlEscape url ++
        "\" target=\"_blank\" rel=\"noopener noreferrer\">").toList =
      html.opening ⟨"a".toList, [("href".toList, url.toList), ("target".toList, "_blank".toList),
        ("rel".toList, "noopener noreferrer".toList)]⟩ := by
    rw [String.toList_append, String.toList_append, htmlEscape_toList, hfront, hback]
    simp only [Escaping.opening, Escaping.attr, List.flatMap_cons, List.flatMap_nil,
      List.cons_append, List.append_assoc, List.nil_append]
  rw [Shows, hwritten]
  exact hread

theorem shows_login (s : WebStatus) : Shows (loginHtml s) (login s) := by
  have hbr : Shows "<br>" (void "br" []) := shows_ofList (by rfl)
  have hspan : Shows "<span class=\"k\">" (void "span" [("class", "k")]) := shows_ofList (by rfl)
  have hspan' : Shows "</span>" [.closing "span".toList] := shows_ofList (by rfl)
  have hdiv' : Shows "</div>" [.closing "div".toList] := shows_ofList (by rfl)
  unfold loginHtml login
  cases s.authUrl with
  | some url =>
    have hlog : Shows "Log in to authenticate this node"
        (words "Log in to authenticate this node") := shows_words (isPlain_ofList (by rfl))
    have hend : Shows "</a>" [.closing "a".toList] := shows_ofList (by rfl)
    have hlink := shows_elementWith (shows_link url) hlog hend
    have hnote : Shows
        ("The node finishes connecting automatically once authorized; " ++ "reload to check.")
        (words ("The node finishes connecting automatically once authorized; " ++
          "reload to check.")) :=
      (shows_words (isPlain_ofList (by rfl))).words (shows_words (isPlain_ofList (by rfl)))
    exact shows_elementWith (shows_ofList (by decide +kernel))
      ((Shows.append (shows_ofList (by decide +kernel)) hlink).append
        (hbr.append (shows_elementWith hspan hnote hspan'))) hdiv'
  | none =>
    cases s.error with
    | none => exact Reads.nil
    | some err =>
      -- the one reference that the page's own text has
      have hkey : Shows "&lt;NEW_KEY&gt;" (words "<NEW_KEY>") := shows_ofList (by rfl)
      have hnote : Shows
          ("This is a permanent failure — re-authenticate with a fresh key " ++
            "(`tnet up --authkey " ++ "&lt;NEW_KEY&gt;" ++ "`); the same key will keep failing.")
          (words ("This is a permanent failure — re-authenticate with a fresh key " ++
            "(`tnet up --authkey " ++ "<NEW_KEY>" ++ "`); the same key will keep failing.")) :=
        (((shows_words (isPlain_ofList (by rfl))).words
          (shows_words (isPlain_ofList (by rfl)))).words hkey).words
          (shows_words (isPlain_ofList (by rfl)))
      exact shows_elementWith (shows_ofList (by decide +kernel))
        ((Shows.append (shows_ofList (by rfl)) (shows_escape err)).append
          (hbr.append (shows_elementWith hspan hnote hspan'))) hdiv'

theorem shows_peer (p : StatusPeer) : Shows (peerHtml p) (peer p) := by
  have hopen : Shows "<tr><td>" (void "tr" [] ++ void "td" []) := shows_ofList (by rfl)
  have honline : Shows (onlineText p.online) (words (onlineText p.online)) := by
    refine shows_words ?_
    rcases p.online with _ | _ | _ <;> exact isPlain_ofList (by rfl)
  have hexit : Shows (if p.isExitNode then "yes" else "")
      (words (if p.isExitNode then "yes" else "")) := by
    refine shows_words ?_
    cases p.isExitNode <;> exact isPlain_ofList (by rfl)
  -- the document of the row, cut where the text is
  have htokens : peer p = void "tr" [] ++ void "td" [] ++ words p.name ++ nextCell ++
      words p.ipv4 ++ nextCell ++ words (p.ipv6.getD "") ++ nextCell ++
      words (onlineText p.online) ++ nextCell ++ words (if p.isExitNode then "yes" else "") ++
      nextCell ++ words (p.relay.getD "") ++ nextCell ++ words (p.lastSeen.getD "") ++ rowEnd := by
    simp only [peer, element, void, nextCell, rowEnd, List.map_nil, List.cons_append,
      List.append_assoc, List.nil_append]
  rw [htokens]
  exact hopen.append (shows_escape p.name)
    |>.append shows_nextCell |>.append (shows_escape p.ipv4)
    |>.append shows_nextCell |>.append (shows_escape (p.ipv6.getD ""))
    |>.append shows_nextCell |>.append honline
    |>.append shows_nextCell |>.append hexit
    |>.append shows_nextCell |>.append (shows_escape (p.relay.getD ""))
    |>.append shows_nextCell |>.append (shows_escape (p.lastSeen.getD ""))
    |>.append shows_rowEnd

/-- A number needs no escaping. -/
theorem isPlain_toString (n : Nat) : IsPlain (toString n) := by
  refine isPlain_iff.mpr fun c hc => ?_
  rw [Radix.toList_toString] at hc
  obtain ⟨hlow, hhigh⟩ := Radix.digit_of_mem_toDigits hc
  constructor
  · rintro rfl
    exact absurd hhigh (by decide)
  · rintro rfl
    exact absurd hlow (by decide)

theorem shows_peers (s : WebStatus) : Shows (peersHtml s) (peers s) := by
  have hcount : Shows ("peers (" ++ toString s.peers.length ++ ")")
      (words ("peers (" ++ toString s.peers.length ++ ")")) := by
    have hopen : IsPlain "peers (" := isPlain_ofList (by rfl)
    have hclose : IsPlain ")" := isPlain_ofList (by rfl)
    exact shows_words ((hopen.append (isPlain_toString _)).append hclose)
  have hrows : Shows (String.ofList (s.peers.flatMap fun p => (peerHtml p).toList))
      (s.peers.flatMap peer) := by
    rw [Shows, String.toList_ofList]
    exact Reads.flatMap shows_peer s.peers
  have hheader : Shows ("<tr><th>name</th><th>ipv4</th><th>ipv6</th><th>online</th>" ++
      "<th>exit-node</th><th>relay</th><th>last-seen</th></tr>") columns :=
    -- in two halves: to run the reader takes time quadratic in the length
    Shows.append (a := .opening ⟨"tr".toList, []⟩ ::
        ["name", "ipv4", "ipv6", "online"].flatMap fun k => element "th" (words k))
      (b := (["exit-node", "relay", "last-seen"].flatMap fun k => element "th" (words k)) ++
        [.closing "tr".toList]) (shows_ofList (by rfl)) (shows_ofList (by rfl))
  have htitle : Shows ("<h2>" ++ ("peers (" ++ toString s.peers.length ++ ")") ++ "</h2>")
      (element "h2" (words ("peers (" ++ toString s.peers.length ++ ")"))) :=
    shows_element (shows_ofList (by rfl)) hcount (shows_ofList (by rfl))
  have hnone : Shows "<p>no peers</p>" (element "p" (words "no peers")) := shows_ofList (by rfl)
  unfold peersHtml peers
  refine htitle.append ?_
  split
  · exact hnone
  · exact shows_element (shows_ofList (by rfl)) (hheader.append hrows) (shows_ofList (by rfl))

/-- **The page of a report** is read as the document of the report, whatever texts control and the
    peers have supplied: each of them is text in its place, character by character, or the target
    of the login link. -/
theorem status_page_reads (s : WebStatus) :
    Markup.read html.decode (renderStatusHtml s).toList = some (statusPage s) := by
  have hstyle : Shows style (words style) :=
    (((shows_words (isPlain_ofList (by rfl))).words (shows_words (isPlain_ofList (by rfl)))).words
      (shows_words (isPlain_ofList (by rfl)))).words (shows_words (isPlain_ofList (by rfl)))
  have htop : Shows ("<head>" ++
      ("<meta charset=\"utf-8\">" ++ "<title>tailnetd status</title>" ++
        ("<style>" ++ style ++ "</style>")) ++ "</head>") head :=
    shows_element (shows_ofList (by rfl))
      ((Shows.append (shows_ofList (by rfl)) (shows_ofList (by rfl))).append
        (shows_element (shows_ofList (by rfl)) hstyle (shows_ofList (by rfl))))
      (shows_ofList (by rfl))
  have hhead : Shows htmlHead
      (.doctype "DOCTYPE html".toList :: words "\n" ++ void "html" [("lang", "en")] ++ head ++
        void "body" [] ++ element "h1" (words "tailnetd status")) :=
    ((Shows.append (shows_ofList (by rfl)) htop).append (shows_ofList (by rfl))).append
      (shows_ofList (by rfl))
  have hback : Shows "</body></html>" [.closing "body".toList, .closing "html".toList] :=
    shows_ofList (by rfl)
  have htokens : statusPage s =
      (.doctype "DOCTYPE html".toList :: words "\n" ++ void "html" [("lang", "en")] ++ head ++
        void "body" [] ++ element "h1" (words "tailnetd status")) ++ facts s ++ login s ++
        peers s ++ [.closing "body".toList, .closing "html".toList] := by
    simp only [statusPage, element, elementWith, void, List.map_nil, List.map_cons,
      List.cons_append, List.append_assoc, List.nil_append]
  have hpage := hhead.append (shows_facts s) |>.append (shows_login s) |>.append (shows_peers s)
    |>.append hback
  rw [htokens]
  exact Reads.read hpage

end Tailnetd.StatusPage
