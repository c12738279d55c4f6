/-
  The text of `tnet status` (`tnet.rs`).

  The text is written row by row.  A row is a fixed beginning and then a value; this node's name,
  the active exit node, the peers' names and relays, the login URL and the registration error are
  texts control chose.

  1. A name goes through `sanitizeForTerminal`, a relay is quoted by `{:?}`: neither leaves a
     character that is unsafe to display, so no line end.
  2. The registration error is free-form text and keeps tabs and line ends (`sanitizeMultiline`);
     its further lines stand in the text as they are.
  3. The login URL is written as it came.

  So reports that differ only in these texts have the same lines up to the error's further ones, and
  lines that start alike (`status_unforged`).
-/
import Tailnetd.StatusReport
import Tailnetd.ServeEdits
import Tailnetd.Lib.TextLines

namespace Tailnetd

open TextLines

/-! ## Writing text -/

/-- One character as `{:?}` prints it inside a string; `plain` are the characters of the standard
    library's table that are printed as they are, beside the quote and the backslash. -/
def debugChar (plain : Char → Bool) (c : Char) : List Char :=
  if c.toNat = 0 then ['\\', '0']
  else if c = '\t' then ['\\', 't']
  else if c = '\r' then ['\\', 'r']
  else if c = '\n' then ['\\', 'n']
  else if c = '"' then ['\\', '"']
  else if c = '\\' then ['\\', '\\']
  else if plain c then [c]
  else "\\u\x7b".toList ++ Nat.toDigits 16 c.toNat ++ "\x7d".toList

/-- `{:?}` of a string. -/
def debugText (plain : Char → Bool) (s : String) : String :=
  String.ofList ('"' :: s.toList.flatMap (debugChar plain) ++ ['"'])

/-- `sanitize_multiline`. -/
def sanitizeMultiline (s : String) : String :=
  String.ofList <| s.toList.map fun c =>
    if c = '\t' ∨ c = '\n' ∨ c = '\r' then c
    else if isDisplayUnsafe c then Char.ofNat 0xFFFD
    else c

/-- `{:<width}`. -/
def padTo (width : Nat) (s : String) : String :=
  s ++ String.ofList (List.replicate (width - s.length) ' ')

/-- Rows, each written by `writeln!`. -/
def writeRows (rows : List String) : String := String.ofList (unlines (rows.map String.toList))

/-! ## The status -/

/-- `peer_status_cell`. -/
def peerStatusCell (plain : Char → Bool) (p : StatusPeer) : String :=
  let path :=
    match p.curAddr, p.relay with
    | some addr, _ => ["direct " ++ addr]
    | none, some region => ["relay " ++ debugText plain region]
    | none, none => []
  let liveness :=
    if p.online = some false then
      match p.lastSeen with
      | some seen => ["offline, last seen " ++ seen]
      | none => ["offline"]
    else []
  let parts := path ++ liveness
  if parts.isEmpty then "" else "  (" ++ "; ".intercalate parts ++ ")"

/-- The row of a peer. -/
def peerRow (plain : Char → Bool) (p : StatusPeer) : String :=
  "  - " ++ padTo 28 (sanitizeForTerminal p.name) ++ " " ++ padTo 16 p.ipv4 ++
    (if p.isExitNode then "  [exit]" else "") ++ peerStatusCell plain p

/-- The configured posture. -/
def postureRows (state : String) (p : PrefsView) : List String :=
  (p.exitNode.map fun en => "exit-node:    " ++ en).toList ++
  (if p.advertiseExitNode then ["advertising:  exit-node"] else []) ++
  (if p.advertiseRoutes.isEmpty then []
    else ["adv-routes:   " ++ ", ".intercalate p.advertiseRoutes]) ++
  (if p.acceptRoutes then ["accept-routes: on"] else []) ++
  (if p.shieldsUp then ["shields-up:   on"] else []) ++
  (if p.ssh then
    if (state = "Running" ∨ state = "Starting") ∧ !p.sshRunning then
      ["ssh-server:   on (NOT RUNNING — check logs)"]
    else ["ssh-server:   on"]
  else []) ++
  (if p.tun then ["tun:          on"] else [])

/-- How to log in, while the node waits for it. -/
def loginRows (authUrl : Option String) : List String :=
  match authUrl with
  | some url => ["", "To authenticate this node, visit:", "    " ++ url]
  | none => []

/-- What stands before the registration error. -/
def statusHead (s : StatusReport) : List String :=
  ["state:        " ++ s.state,
    "want_running: " ++ toString s.wantRunning,
    "self:         " ++ (s.selfName.map sanitizeForTerminal).getD "(unknown)" ++ " " ++
      s.selfIpv4.getD "-"] ++
  postureRows s.state s.prefs ++ loginRows s.authUrl

/-- What to do about a registration that failed for good. -/
def failureAdvice : String :=
  "(this is a permanent failure — re-run `tnet up --authkey <NEW_KEY>` with a fresh key; the same " ++
    "key will keep failing)"

/-- The registration that failed for good. -/
def failureRows (error : Option String) : List String :=
  match error with
  | some reason => ["", "registration failed: " ++ sanitizeMultiline reason, failureAdvice]
  | none => []

/-- The health warnings. -/
def healthRows (health : List String) : List String :=
  if health.isEmpty then []
  else ["", "# Health check:"] ++ health.map fun m => "#     - " ++ sanitizeForTerminal m

/-- What stands after the registration error. -/
def statusTail (plain : Char → Bool) (s : StatusReport) : List String :=
  (s.activeExitNode.map fun active =>
    "exit-node:    " ++ sanitizeForTerminal active ++ " (active)").toList ++
  ["peers:        " ++ toString s.peers.length] ++
  s.peers.map (peerRow plain) ++ healthRows s.health

/-- The rows of the status. -/
def statusRows (plain : Char → Bool) (s : StatusReport) : List String :=
  statusHead s ++ failureRows s.error ++ statusTail plain s

/-- `format_status`. -/
def formatStatus (plain : Char → Bool) (s : StatusReport) : String := writeRows (statusRows plain s)

/-! ## Text that is safe to display -/

/-- No character is unsafe to display. -/
def IsClean (s : String) : Prop := ∀ c ∈ s.toList, isDisplayUnsafe c = false

instance isCleanDecidable (s : String) : Decidable (IsClean s) := List.decidableBAll _ s.toList

theorem IsClean.newline_notMem {s : String} (h : IsClean s) : '\n' ∉ s.toList :=
  fun hmem => absurd (h '\n' hmem) (by decide)

@[simp] theorem isClean_append {s t : String} : IsClean (s ++ t) ↔ IsClean s ∧ IsClean t := by
  simp [IsClean, or_imp, forall_and]

theorem isClean_sanitize (s : String) : IsClean (sanitizeForTerminal s) := by
  intro c hc
  rw [sanitizeForTerminal, String.toList_ofList] at hc
  obtain ⟨d, -, rfl⟩ := List.mem_map.mp hc
  split
  · decide
  · rename_i hd
    exact eq_false_of_ne_true hd

/-- A digit, in any base. -/
theorem exists_digitChar_of_mem {base n : Nat} (hbase : 1 < base) {c : Char}
    (h : c ∈ Nat.toDigits base n) : ∃ d, c = Nat.digitChar d := by
  induction n using Nat.strongRecOn with
  | ind n ih =>
    rw [Nat.toDigits_eq_if hbase] at h
    split at h
    · exact ⟨n, List.mem_singleton.mp h⟩
    · rename_i hlt
      obtain h | h := List.mem_append.mp h
      · exact ih _ (Nat.div_lt_self (by omega) hbase) h
      · exact ⟨_, List.mem_singleton.mp h⟩

theorem digitChar_clean : ∀ d : Nat, isDisplayUnsafe d.digitChar = false
  | 0 | 1 | 2 | 3 | 4 | 5 | 6 | 7 | 8 | 9 | 10 | 11 | 12 | 13 | 14 | 15 => by decide
  | d + 16 => by
    have hstar : (d + 16).digitChar = '*' := by simp
    rw [hstar]
    decide

theorem clean_of_mem_toDigits {base n : Nat} (hbase : 1 < base) {c : Char}
    (h : c ∈ Nat.toDigits base n) : isDisplayUnsafe c = false := by
  obtain ⟨d, rfl⟩ := exists_digitChar_of_mem hbase h
  exact digitChar_clean d

theorem isClean_toString (n : Nat) : IsClean (toString n) := by
  intro c hc
  rw [Radix.toList_toString] at hc
  exact clean_of_mem_toDigits (by decide) hc

theorem isClean_padTo {width : Nat} {s : String} : IsClean (padTo width s) ↔ IsClean s := by
  rw [padTo, isClean_append, and_iff_left_iff_imp]
  intro _ c hc
  rw [String.toList_ofList] at hc
  rw [List.eq_of_mem_replicate hc]
  decide

theorem isClean_debugText {plain : Char → Bool}
    (hplain : ∀ c, isDisplayUnsafe c = true → plain c = false) (s : String) :
    IsClean (debugText plain s) := by
  have hescape : ∀ e : Char, isDisplayUnsafe e = false → ∀ d ∈ ['\\', e], isDisplayUnsafe d = false := by
    intro e he d hd
    obtain rfl | hd := List.mem_cons.mp hd
    · decide
    · rwa [List.mem_singleton.mp hd]
  have hchar : ∀ c, ∀ d ∈ debugChar plain c, isDisplayUnsafe d = false := by
    intro c
    unfold debugChar
    -- six escapes of two characters; then a plain one, or the digits of its code
    split
    · exact hescape _ (by decide)
    · split
      · exact hescape _ (by decide)
      · split
        · exact hescape _ (by decide)
        · split
          · exact hescape _ (by decide)
          · split
            · exact hescape _ (by decide)
            · split
              · exact hescape _ (by decide)
              · split
                · rename_i hc
                  intro d hd
                  rw [List.mem_singleton.mp hd]
                  exact eq_false_of_ne_true fun hunsafe =>
                    absurd (hplain c hunsafe) (by rw [hc]; decide)
                · intro d hd
                  obtain hd | hd := List.mem_append.mp hd
                  · obtain hd | hd := List.mem_append.mp hd
                    · exact (by decide : IsClean "\\u\x7b") d hd
                    · exact clean_of_mem_toDigits (by decide) hd
                  · exact (by decide : IsClean "\x7d") d hd
  intro c hc
  rw [debugText, String.toList_ofList] at hc
  obtain hc | hc := List.mem_append.mp hc
  · obtain rfl | hc := List.mem_cons.mp hc
    · decide
    · obtain ⟨d, -, hd⟩ := List.mem_flatMap.mp hc
      exact hchar d c hd
  · rw [List.mem_singleton.mp hc]
    decide

/-! ## Reports that differ in their texts -/

/-- The same peer but for the text of its name and of its relay. -/
structure StatusPeer.SameButText (p q : StatusPeer) : Prop where
  rest : { p with name := q.name, relay := q.relay } = q
  relay : p.relay.isSome = q.relay.isSome

/-- The same report but for the texts control chose. -/
structure StatusReport.SameButText (a b : StatusReport) : Prop where
  rest : { a with selfName := b.selfName, authUrl := b.authUrl, error := b.error,
                  activeExitNode := b.activeExitNode, peers := b.peers } = b
  selfName : a.selfName.isSome = b.selfName.isSome
  authUrl : a.authUrl.isSome = b.authUrl.isSome
  error : a.error.isSome = b.error.isSome
  activeExitNode : a.activeExitNode.isSome = b.activeExitNode.isSome
  peers : List.Forall₂ StatusPeer.SameButText a.peers b.peers

/-- The fields that are written as they are hold nothing unsafe to display. -/
structure StatusReport.RestClean (s : StatusReport) : Prop where
  state : IsClean s.state
  selfIpv4 : ∀ ip ∈ s.selfIpv4, IsClean ip
  exitNode : ∀ en ∈ s.prefs.exitNode, IsClean en
  routes : ∀ route ∈ s.prefs.advertiseRoutes, IsClean route
  authUrl : ∀ url ∈ s.authUrl, IsClean url
  ipv4 : ∀ p ∈ s.peers, IsClean p.ipv4
  curAddr : ∀ p ∈ s.peers, ∀ addr ∈ p.curAddr, IsClean addr
  lastSeen : ∀ p ∈ s.peers, ∀ seen ∈ p.lastSeen, IsClean seen

/-- The two rows have lines that start alike, as far as a peer's row is told by its start. -/
def RowAlike (row row' : String) : Prop := StartAlike 4 row.toList row'.toList

theorem rowAlike_of_clean {front inner inner' back : String} (hfront : 4 ≤ front.length)
    (hclean : IsClean front) (hinner : IsClean inner) (hinner' : IsClean inner') :
    RowAlike (front ++ (inner ++ back)) (front ++ (inner' ++ back)) := by
  unfold RowAlike
  simp only [String.toList_append]
  exact startAlike_of_notMem (by rwa [String.length_toList]) hclean.newline_notMem hinner.newline_notMem
    hinner'.newline_notMem _

theorem rowAlike_prepend {row row' : String} (h : RowAlike row row') (front : String) :
    RowAlike (front ++ row) (front ++ row') := by
  unfold RowAlike at h ⊢
  rw [String.toList_append, String.toList_append]
  exact h.append_left _

theorem RowAlike.trans {row row' row'' : String} (h : RowAlike row row') (h' : RowAlike row' row'') :
    RowAlike row row'' := StartAlike.trans h h'

theorem rowsAlike_refl (rows : List String) : List.Forall₂ RowAlike rows rows :=
  List.forall₂_same.mpr fun _ _ => rfl

/-- The quoted relay stands behind its fixed beginning. -/
theorem peerStatusCell_alike {plain : Char → Bool}
    (hplain : ∀ c, isDisplayUnsafe c = true → plain c = false) {p q : StatusPeer}
    (h : p.SameButText q) : RowAlike (peerStatusCell plain p) (peerStatusCell plain q) := by
  have honline : p.online = q.online := (congrArg StatusPeer.online h.rest :)
  have hseen : p.lastSeen = q.lastSeen := (congrArg StatusPeer.lastSeen h.rest :)
  have haddr : p.curAddr = q.curAddr := (congrArg StatusPeer.curAddr h.rest :)
  have hrelay := h.relay
  unfold peerStatusCell
  rw [honline, hseen, haddr]
  cases q.curAddr with
  | some addr => exact rfl
  | none =>
    cases hp : p.relay with
    | none =>
      cases hq : q.relay with
      | none => exact rfl
      | some r' => rw [hp, hq] at hrelay; cases hrelay
    | some r =>
      cases hq : q.relay with
      | none => rw [hp, hq] at hrelay; cases hrelay
      | some r' =>
        have hcell : ∀ region : String, ∀ liveness : List String,
            "  (" ++ "; ".intercalate (("relay " ++ debugText plain region) :: liveness) ++ ")" =
              "  (relay " ++ (debugText plain region ++ ("; ".intercalate ("" :: liveness) ++ ")")) := by
          intro region liveness
          have hlit : "  (relay " = "  (" ++ "relay " := by decide
          have hdebug := @String.intercalate_cons_append "; " (debugText plain region) "" liveness
          rw [String.append_empty] at hdebug
          rw [String.intercalate_cons_append, hdebug, hlit]
          simp only [String.append_assoc]
        dsimp only [List.cons_append, List.nil_append, List.isEmpty_cons]
        rw [if_neg Bool.false_ne_true, if_neg Bool.false_ne_true, hcell, hcell]
        exact rowAlike_of_clean (by decide) (by decide) (isClean_debugText hplain r)
          (isClean_debugText hplain r')

theorem peerRow_alike {plain : Char → Bool}
    (hplain : ∀ c, isDisplayUnsafe c = true → plain c = false) {p q : StatusPeer}
    (h : p.SameButText q) : RowAlike (peerRow plain p) (peerRow plain q) := by
  have hip : p.ipv4 = q.ipv4 := (congrArg (·.ipv4) h.rest :)
  have hexit : p.isExitNode = q.isExitNode := (congrArg (·.isExitNode) h.rest :)
  have hname : ∀ r : StatusPeer, IsClean (padTo 28 (sanitizeForTerminal r.name)) :=
    fun r => isClean_padTo.mpr (isClean_sanitize r.name)
  unfold peerRow
  rw [hip, hexit]
  -- first the name, then the cell
  refine (rowAlike_prepend (peerStatusCell_alike hplain h) _).trans ?_
  simp only [String.append_assoc]
  exact rowAlike_of_clean (by decide) (by decide) (hname p) (hname q)

theorem statusHead_alike {a b : StatusReport} (h : a.SameButText b)
    (ha : ∀ url ∈ a.authUrl, IsClean url) (hb : ∀ url ∈ b.authUrl, IsClean url) :
    List.Forall₂ RowAlike (statusHead a) (statusHead b) := by
  have hstate : a.state = b.state := (congrArg StatusReport.state h.rest :)
  have hwant : a.wantRunning = b.wantRunning := (congrArg StatusReport.wantRunning h.rest :)
  have hip : a.selfIpv4 = b.selfIpv4 := (congrArg StatusReport.selfIpv4 h.rest :)
  have hprefs : a.prefs = b.prefs := (congrArg StatusReport.prefs h.rest :)
  have hself : ∀ name : Option String, IsClean ((name.map sanitizeForTerminal).getD "(unknown)") := by
    rintro (_ | name)
    · exact (by decide : IsClean "(unknown)")
    · exact isClean_sanitize name
  have hlogin : List.Forall₂ RowAlike (loginRows a.authUrl) (loginRows b.authUrl) := by
    have hsome := h.authUrl
    cases hurl : a.authUrl with
    | none =>
      cases hurl' : b.authUrl with
      | none => exact rowsAlike_refl _
      | some url' => rw [hurl, hurl'] at hsome; cases hsome
    | some url =>
      cases hurl' : b.authUrl with
      | none => rw [hurl, hurl'] at hsome; cases hsome
      | some url' =>
        refine .cons rfl (.cons rfl (.cons ?_ .nil))
        have hrow := @rowAlike_of_clean "    " url url' "" (by decide) (by decide)
          (ha url hurl) (hb url' hurl')
        rwa [String.append_empty, String.append_empty] at hrow
  unfold statusHead
  rw [hstate, hwant, hip, hprefs]
  refine List.rel_append ?_ hlogin
  refine List.rel_append ?_ (rowsAlike_refl _)
  refine .cons rfl (.cons rfl (.cons ?_ .nil))
  simp only [String.append_assoc]
  exact rowAlike_of_clean (by decide) (by decide) (hself _) (hself _)

theorem statusTail_alike {plain : Char → Bool}
    (hplain : ∀ c, isDisplayUnsafe c = true → plain c = false) {a b : StatusReport}
    (h : a.SameButText b) : List.Forall₂ RowAlike (statusTail plain a) (statusTail plain b) := by
  have hhealth : a.health = b.health := (congrArg StatusReport.health h.rest :)
  have hactive := h.activeExitNode
  unfold statusTail
  rw [hhealth, h.peers.length_eq]
  refine List.rel_append (List.rel_append (List.rel_append ?_ (rowsAlike_refl _)) ?_)
    (rowsAlike_refl _)
  · cases ha : a.activeExitNode with
    | none =>
      cases hb : b.activeExitNode with
      | none => exact .nil
      | some name' => rw [ha, hb] at hactive; cases hactive
    | some name =>
      cases hb : b.activeExitNode with
      | none => rw [ha, hb] at hactive; cases hactive
      | some name' =>
        refine .cons ?_ .nil
        simp only [String.append_assoc]
        exact rowAlike_of_clean (by decide) (by decide) (isClean_sanitize name)
          (isClean_sanitize name')
  · rw [List.forall₂_map_left_iff, List.forall₂_map_right_iff]
    exact h.peers.imp fun _ _ => peerRow_alike hplain

/-! ## The lines of the text -/

/-- The text, line by line. -/
def statusLines (plain : Char → Bool) (s : StatusReport) : List (List Char) :=
  lines (formatStatus plain s).toList

/-- The line is one of a peer. -/
def isPeerRow (line : List Char) : Bool := line.take 4 == "  - ".toList

/-- The further lines of the registration error, which it wraps into. -/
def reasonLines (error : Option String) : List (List Char) :=
  match error with
  | some reason => (rowLines (sanitizeMultiline reason).toList).tail
  | none => []

/-- The lines of these rows. -/
def linesOf (rows : List String) : List (List Char) := (rows.map String.toList).flatMap rowLines

theorem statusLines_eq (plain : Char → Bool) (s : StatusReport) :
    statusLines plain s =
      linesOf (statusHead s) ++ linesOf (failureRows s.error) ++ linesOf (statusTail plain s) := by
  rw [statusLines, formatStatus, writeRows, String.toList_ofList, lines_unlines_eq, statusRows]
  simp [linesOf]

theorem linesOf_alike {rows rows' : List String} (h : List.Forall₂ RowAlike rows rows') :
    (linesOf rows).length = (linesOf rows').length ∧
      (linesOf rows).countP isPeerRow = (linesOf rows').countP isPeerRow := by
  have hstarts : (linesOf rows).map (·.take 4) = (linesOf rows').map (·.take 4) :=
    map_take_lines (List.forall₂_map_left_iff.mpr (List.forall₂_map_right_iff.mpr h))
  constructor
  · have hlength := congrArg List.length hstarts
    rwa [List.length_map, List.length_map] at hlength
  · have hcount := congrArg (List.countP (· == "  - ".toList)) hstarts
    rw [List.countP_map, List.countP_map] at hcount
    exact hcount

theorem failureAdvice_clean : IsClean failureAdvice := by decide +kernel

/-- The registration error adds its three rows and its further lines, of which the first three start
    no peer's row. -/
theorem linesOf_failureRows (error : Option String) :
    (linesOf (failureRows error)).length =
        (if error.isSome then 3 else 0) + (reasonLines error).length ∧
      (linesOf (failureRows error)).countP isPeerRow = (reasonLines error).countP isPeerRow := by
  cases error with
  | none => exact ⟨rfl, rfl⟩
  | some reason =>
    obtain ⟨first, more, hreason, hrow⟩ := @rowLines_append
      "registration failed: ".toList (by decide) (sanitizeMultiline reason).toList
    have hrows : linesOf (failureRows (some reason)) =
        [] :: ("registration failed: ".toList ++ first) :: (more ++ [failureAdvice.toList]) := by
      simp only [failureRows, linesOf, List.map_cons, List.map_nil, List.flatMap_cons,
        List.flatMap_nil, String.toList_append, hrow,
        rowLines_of_notMem failureAdvice_clean.newline_notMem]
      rfl
    have hmore : reasonLines (some reason) = more := by
      rw [reasonLines, hreason, List.tail_cons]
    rw [hrows, hmore]
    constructor
    · simp only [List.length_cons, List.length_append, List.length_nil, Option.isSome_some, if_true]
      omega
    · have hadvice : isPeerRow failureAdvice.toList = false := by decide +kernel
      rw [List.countP_cons_of_neg (by decide), List.countP_cons_of_neg ?_, List.countP_append,
        List.countP_singleton, hadvice, if_neg Bool.false_ne_true, Nat.add_zero]
      simp [isPeerRow]

/-! ## What the text holds -/

/-- A row that is safe to display and is no peer's. -/
def IsPlainRow (row : String) : Prop := IsClean row ∧ isPeerRow row.toList = false

instance isPlainRowDecidable (row : String) : Decidable (IsPlainRow row) :=
  inferInstanceAs (Decidable (IsClean row ∧ isPeerRow row.toList = false))

/-- A row is told by its fixed beginning. -/
theorem isPlainRow_append {front : String} (hfront : IsPlainRow front) (hlength : 4 ≤ front.length)
    {value : String} (hvalue : IsClean value) : IsPlainRow (front ++ value) := by
  refine ⟨isClean_append.mpr ⟨hfront.1, hvalue⟩, ?_⟩
  have hnot := hfront.2
  rw [isPeerRow] at hnot ⊢
  rw [String.toList_append, List.take_append_of_le_length (by rwa [String.length_toList])]
  exact hnot

theorem isClean_intercalate {sep : String} (hsep : IsClean sep) {parts : List String}
    (h : ∀ part ∈ parts, IsClean part) : IsClean (sep.intercalate parts) := by
  induction parts with
  | nil =>
    rw [String.intercalate_nil]
    decide
  | cons part parts ih =>
    obtain ⟨hpart, hparts⟩ := List.forall_mem_cons.mp h
    cases parts with
    | nil => rwa [String.intercalate_singleton]
    | cons next rest =>
      rw [String.intercalate_cons_cons, isClean_append, isClean_append]
      exact ⟨⟨hpart, hsep⟩, ih hparts⟩

theorem postureRows_plain {state : String} {p : PrefsView} (hexit : ∀ en ∈ p.exitNode, IsClean en)
    (hroutes : ∀ route ∈ p.advertiseRoutes, IsClean route) :
    ∀ row ∈ postureRows state p, IsPlainRow row := by
  have hif : ∀ (b : Bool) (row : String), IsPlainRow row →
      ∀ r ∈ (if b then [row] else []), IsPlainRow r := by
    rintro (_ | _) row hrow r hr
    · cases hr
    · rw [List.mem_singleton.mp hr]
      exact hrow
  unfold postureRows
  simp only [List.forall_mem_append]
  refine ⟨⟨⟨⟨⟨⟨?_, hif _ _ (by decide)⟩, ?_⟩, hif _ _ (by decide)⟩, hif _ _ (by decide)⟩, ?_⟩,
    hif _ _ (by decide)⟩
  · intro row hrow
    obtain ⟨en, hen, rfl⟩ := Option.map_eq_some_iff.mp (Option.mem_toList.mp hrow)
    exact isPlainRow_append (by decide) (by decide) (hexit en hen)
  · split
    · exact fun row hrow => absurd hrow List.not_mem_nil
    · intro row hrow
      rw [List.mem_singleton.mp hrow]
      exact isPlainRow_append (by decide) (by decide) (isClean_intercalate (by decide) hroutes)
  · intro row hrow
    split at hrow
    · split at hrow <;> rw [List.mem_singleton.mp hrow] <;> decide
    · exact absurd hrow List.not_mem_nil

theorem statusHead_plain {s : StatusReport} (h : s.RestClean) :
    ∀ row ∈ statusHead s, IsPlainRow row := by
  have hself : IsClean ((s.selfName.map sanitizeForTerminal).getD "(unknown)") := by
    cases s.selfName with
    | none => exact (by decide : IsClean "(unknown)")
    | some name => exact isClean_sanitize name
  have hip : IsClean (s.selfIpv4.getD "-") := by
    cases hsome : s.selfIpv4 with
    | none => exact (by decide : IsClean "-")
    | some ip => exact h.selfIpv4 ip hsome
  unfold statusHead
  simp only [List.forall_mem_append, List.forall_mem_cons]
  refine ⟨⟨⟨?_, ?_, ?_, fun row hrow => absurd hrow List.not_mem_nil⟩,
    postureRows_plain h.exitNode h.routes⟩, ?_⟩
  · exact isPlainRow_append (by decide) (by decide) h.state
  · cases s.wantRunning <;> decide
  · simp only [String.append_assoc]
    refine isPlainRow_append (by decide) (by decide) ?_
    rw [isClean_append, isClean_append]
    exact ⟨hself, by decide, hip⟩
  · cases hurl : s.authUrl with
    | none => exact fun row hrow => absurd hrow List.not_mem_nil
    | some url =>
      simp only [loginRows, List.forall_mem_cons]
      exact ⟨by decide, by decide, isPlainRow_append (by decide) (by decide) (h.authUrl url hurl),
        fun row hrow => absurd hrow List.not_mem_nil⟩

theorem peerStatusCell_clean {plain : Char → Bool}
    (hplain : ∀ c, isDisplayUnsafe c = true → plain c = false) {p : StatusPeer}
    (haddr : ∀ addr ∈ p.curAddr, IsClean addr) (hseen : ∀ seen ∈ p.lastSeen, IsClean seen) :
    IsClean (peerStatusCell plain p) := by
  have hjoin : ∀ parts : List String, (∀ part ∈ parts, IsClean part) →
      IsClean (if parts.isEmpty then "" else "  (" ++ "; ".intercalate parts ++ ")") := by
    intro parts hparts
    split
    · decide
    · rw [isClean_append, isClean_append]
      exact ⟨⟨by decide, isClean_intercalate (by decide) hparts⟩, by decide⟩
  unfold peerStatusCell
  refine hjoin _ ?_
  rw [List.forall_mem_append]
  constructor
  · cases hpath : p.curAddr with
    | some addr => simpa using ⟨(by decide : IsClean "direct "), haddr addr hpath⟩
    | none =>
      cases p.relay with
      | some region =>
        simpa using ⟨(by decide : IsClean "relay "), isClean_debugText hplain region⟩
      | none => exact fun part hpart => absurd hpart List.not_mem_nil
  · split
    · split
      · rename_i seen heq
        simpa using ⟨(by decide : IsClean "offline, last seen "), hseen seen heq⟩
      · simpa using (by decide : IsClean "offline")
    · exact fun part hpart => absurd hpart List.not_mem_nil

/-- A peer's row starts as one, and is safe to display. -/
theorem peerRow_clean {plain : Char → Bool}
    (hplain : ∀ c, isDisplayUnsafe c = true → plain c = false) {p : StatusPeer}
    (hip : IsClean p.ipv4) (haddr : ∀ addr ∈ p.curAddr, IsClean addr)
    (hseen : ∀ seen ∈ p.lastSeen, IsClean seen) :
    IsClean (peerRow plain p) ∧ isPeerRow (peerRow plain p).toList = true := by
  constructor
  · have hexit : IsClean (if p.isExitNode then "  [exit]" else "") := by
      cases p.isExitNode <;> decide
    unfold peerRow
    simp only [isClean_append, isClean_padTo]
    exact ⟨⟨⟨⟨⟨by decide, isClean_sanitize _⟩, by decide⟩, hip⟩, hexit⟩,
      peerStatusCell_clean hplain haddr hseen⟩
  · unfold peerRow isPeerRow
    simp only [String.append_assoc]
    rw [String.toList_append, List.take_append_of_le_length (by decide)]
    decide

theorem healthRows_plain (health : List String) : ∀ row ∈ healthRows health, IsPlainRow row := by
  have htitle : ∀ row ∈ ["", "# Health check:"], IsPlainRow row := by decide
  intro row hrow
  unfold healthRows at hrow
  split at hrow
  · exact absurd hrow List.not_mem_nil
  · obtain hrow | hrow := List.mem_append.mp hrow
    · exact htitle row hrow
    · obtain ⟨m, -, rfl⟩ := List.mem_map.mp hrow
      exact isPlainRow_append (by decide) (by decide) (isClean_sanitize m)

/-- The lines of rows that are safe to display are these rows. -/
theorem linesOf_clean {rows : List String} (h : ∀ row ∈ rows, IsClean row) :
    linesOf rows = rows.map String.toList := by
  induction rows with
  | nil => rfl
  | cons row rows ih =>
    obtain ⟨hrow, hrows⟩ := List.forall_mem_cons.mp h
    have ih := ih hrows
    rw [linesOf] at ih ⊢
    rw [List.map_cons, List.flatMap_cons, ih, rowLines_of_notMem hrow.newline_notMem]
    rfl

theorem linesOf_append (rows rows' : List String) :
    linesOf (rows ++ rows') = linesOf rows ++ linesOf rows' := by
  simp [linesOf]

theorem countP_linesOf_plain {rows : List String} (h : ∀ row ∈ rows, IsPlainRow row) :
    (linesOf rows).countP isPeerRow = 0 := by
  rw [linesOf_clean fun row hrow => (h row hrow).1, List.countP_eq_zero]
  intro line hline
  obtain ⟨row, hrow, rfl⟩ := List.mem_map.mp hline
  rw [(h row hrow).2]
  exact Bool.false_ne_true

/-- **After the registration error there is one row for each peer**, and all is safe to display. -/
theorem statusTail_clean {plain : Char → Bool}
    (hplain : ∀ c, isDisplayUnsafe c = true → plain c = false) {s : StatusReport}
    (h : s.RestClean) :
    (∀ row ∈ statusTail plain s, IsClean row) ∧
      (linesOf (statusTail plain s)).countP isPeerRow = s.peers.length := by
  have hactive : ∀ row ∈ (s.activeExitNode.map fun active =>
      "exit-node:    " ++ sanitizeForTerminal active ++ " (active)").toList, IsPlainRow row := by
    intro row hrow
    obtain ⟨active, -, rfl⟩ := Option.map_eq_some_iff.mp (Option.mem_toList.mp hrow)
    rw [String.append_assoc]
    exact isPlainRow_append (by decide) (by decide)
      (isClean_append.mpr ⟨isClean_sanitize active, by decide⟩)
  have hcount : ∀ row ∈ ["peers:        " ++ toString s.peers.length], IsPlainRow row := by
    intro row hrow
    rw [List.mem_singleton.mp hrow]
    exact isPlainRow_append (by decide) (by decide) (isClean_toString _)
  have hpeers : ∀ p ∈ s.peers,
      IsClean (peerRow plain p) ∧ isPeerRow (peerRow plain p).toList = true :=
    fun p hp => peerRow_clean hplain (h.ipv4 p hp) (h.curAddr p hp) (h.lastSeen p hp)
  have hrows : ∀ row ∈ s.peers.map (peerRow plain), IsClean row := by
    intro row hrow
    obtain ⟨p, hp, rfl⟩ := List.mem_map.mp hrow
    exact (hpeers p hp).1
  have hhealth := healthRows_plain s.health
  unfold statusTail
  constructor
  · simp only [List.forall_mem_append]
    exact ⟨⟨⟨fun row hrow => (hactive row hrow).1, fun row hrow => (hcount row hrow).1⟩, hrows⟩,
      fun row hrow => (hhealth row hrow).1⟩
  · rw [linesOf_append, linesOf_append, linesOf_append, List.countP_append, List.countP_append,
      List.countP_append, countP_linesOf_plain hactive, countP_linesOf_plain hcount,
      countP_linesOf_plain hhealth, linesOf_clean hrows, List.map_map, List.countP_map]
    have hall : s.peers.countP (isPeerRow ∘ String.toList ∘ peerRow plain) = s.peers.length :=
      List.countP_eq_length.mpr fun p hp => (hpeers p hp).2
    omega

/-- The characters a registration error keeps. -/
def keptInReason (c : Char) : Bool := c == '\t' || c == '\n' || c == '\r'

theorem count_sanitizeMultiline {c : Char} (hc : isDisplayUnsafe c = true) (reason : String) :
    (sanitizeMultiline reason).toList.count c =
      if keptInReason c then reason.toList.count c else 0 := by
  have hchar : ∀ d : Char,
      (if d = '\t' ∨ d = '\n' ∨ d = '\r' then d
        else if isDisplayUnsafe d then Char.ofNat 0xFFFD else d) = c ↔
      d = c ∧ keptInReason c = true := by
    have hkept : ∀ d, keptInReason d = true ↔ d = '\t' ∨ d = '\n' ∨ d = '\r' := by
      simp [keptInReason, or_assoc]
    intro d
    split
    · rename_i hd
      constructor
      · rintro rfl
        exact ⟨rfl, (hkept d).mpr hd⟩
      · exact And.left
    · rename_i hd
      constructor
      · intro heq
        split at heq
        · rw [← heq] at hc
          exact absurd hc (by decide)
        · rename_i hsafe
          exact absurd (heq ▸ hc) hsafe
      · rintro ⟨rfl, hkeep⟩
        exact absurd ((hkept d).mp hkeep) hd
  rw [sanitizeMultiline, String.toList_ofList]
  induction reason.toList with
  | nil => simp
  | cons d rest ih =>
    rw [List.map_cons, List.count_cons, ih, List.count_cons]
    by_cases hkeep : keptInReason c = true
    · simp [beq_iff_eq, hchar, hkeep]
    · simp [beq_iff_eq, hchar, hkeep]

/-! ## No line is forged -/

/-- What a status with clean fields is: a row for each peer and besides it only what the
    registration error wraps into, and nothing unsafe but the end of each row and what that error
    keeps. -/
structure Unforged (plain : Char → Bool) (s : StatusReport) : Prop where
  peerRows : (statusLines plain s).countP isPeerRow =
    s.peers.length + (reasonLines s.error).countP isPeerRow
  unsafeChars : ∀ c, isDisplayUnsafe c = true →
    (formatStatus plain s).toList.count c =
      (if c = '\n' then (statusRows plain s).length else 0) +
        if keptInReason c then (s.error.getD "").toList.count c else 0

theorem count_clean_row {row : String} (h : IsClean row) {c : Char}
    (hc : isDisplayUnsafe c = true) : row.toList.count c = 0 := by
  refine List.count_eq_zero.mpr fun hmem => ?_
  rw [h c hmem] at hc
  cases hc

theorem count_clean {rows : List String} (h : ∀ row ∈ rows, IsClean row) {c : Char}
    (hc : isDisplayUnsafe c = true) : (rows.map String.toList).flatten.count c = 0 := by
  induction rows with
  | nil => rfl
  | cons row rows ih =>
    obtain ⟨hrow, hrows⟩ := List.forall_mem_cons.mp h
    rw [List.map_cons, List.flatten_cons, List.count_append, count_clean_row hrow hc, ih hrows]

theorem unforged_of_restClean {plain : Char → Bool}
    (hplain : ∀ c, isDisplayUnsafe c = true → plain c = false) {s : StatusReport}
    (h : s.RestClean) : Unforged plain s := by
  have hhead := statusHead_plain h
  obtain ⟨htail, hpeers⟩ := statusTail_clean hplain h
  constructor
  · rw [statusLines_eq, List.countP_append, List.countP_append, countP_linesOf_plain hhead,
      (linesOf_failureRows s.error).2, hpeers]
    omega
  · intro c hc
    have hreason : ((failureRows s.error).map String.toList).flatten.count c =
        if keptInReason c then (s.error.getD "").toList.count c else 0 := by
      cases s.error with
      | none => simp [failureRows]
      | some reason =>
        have hblank : "".toList.count c = 0 := rfl
        simp only [failureRows, List.map_cons, List.map_nil, List.flatten_cons, List.flatten_nil,
          String.toList_append, List.count_append, List.count_nil, Option.getD_some, hblank,
          count_clean_row (by decide : IsClean "registration failed: ") hc,
          count_clean_row failureAdvice_clean hc, count_sanitizeMultiline hc]
        omega
    rw [formatStatus, writeRows, String.toList_ofList, count_unlines, List.length_map, statusRows,
      List.map_append, List.map_append, List.flatten_append, List.flatten_append,
      List.count_append, List.count_append, count_clean (fun row hrow => (hhead row hrow).1) hc, count_clean htail hc,
      hreason, Nat.zero_add, Nat.add_zero]

/-- **No text control chose forges a line of the status.**  Two reports that differ only in these
    texts have as many lines and as many peer rows, but for the further lines that their
    registration errors wrap into; and when the fields that are written as they are hold nothing
    unsafe to display, there is one row for each peer and nothing unsafe but the row ends and what
    the error keeps.  The login URL is among the fields written as they are. -/
theorem status_unforged {plain : Char → Bool}
    (hplain : ∀ c, isDisplayUnsafe c = true → plain c = false) {a b : StatusReport}
    (h : a.SameButText b) (ha : ∀ url ∈ a.authUrl, IsClean url)
    (hb : ∀ url ∈ b.authUrl, IsClean url) :
    (statusLines plain a).length + (reasonLines b.error).length =
        (statusLines plain b).length + (reasonLines a.error).length ∧
      (statusLines plain a).countP isPeerRow + (reasonLines b.error).countP isPeerRow =
        (statusLines plain b).countP isPeerRow + (reasonLines a.error).countP isPeerRow ∧
      (a.RestClean → Unforged plain a) ∧ (b.RestClean → Unforged plain b) := by
  obtain ⟨hheadLength, hheadRows⟩ := linesOf_alike (statusHead_alike h ha hb)
  obtain ⟨htailLength, htailRows⟩ := linesOf_alike (statusTail_alike hplain h)
  obtain ⟨hlengthA, hrowsA⟩ := linesOf_failureRows a.error
  obtain ⟨hlengthB, hrowsB⟩ := linesOf_failureRows b.error
  have hsome := h.error
  refine ⟨?_, ?_, unforged_of_restClean hplain, unforged_of_restClean hplain⟩
  · simp only [statusLines_eq, List.length_append]
    rw [hlengthA, hlengthB, hheadLength, htailLength, hsome]
    omega
  · simp only [statusLines_eq, List.countP_append]
    rw [hrowsA, hrowsB, hheadRows, htailRows]
    omega

/-- A node that failed to register, with this name, this reason, and a peer with this name and
    relay. -/
def failedStatus (name reason peer relay : String) : StatusReport :=
  { statusOf [{ name := peer, ipv4 := "100.64.0.2", ipv6 := none, isExitNode := false,
                relay := some relay }] with
    selfName := some name, error := some reason }

theorem failedStatus_sameButText (name reason peer relay name' reason' peer' relay' : String) :
    (failedStatus name reason peer relay).SameButText (failedStatus name' reason' peer' relay') :=
  ⟨rfl, rfl, rfl, rfl, rfl, .cons ⟨rfl, rfl⟩ .nil⟩

theorem failedStatus_noUrl (name reason peer relay : String) :
    ∀ url ∈ (failedStatus name reason peer relay).authUrl, IsClean url :=
  fun _ hurl => absurd hurl (Option.not_mem_none _)

/-- The characters printed as they are, when all that are safe to display are printable. -/
def asciiPlain (c : Char) : Bool := !isDisplayUnsafe c

theorem asciiPlain_unsafe (c : Char) (h : isDisplayUnsafe c = true) : asciiPlain c = false := by
  rw [asciiPlain, h, Bool.not_true]

/-- One failed registration. -/
def calmStatus : StatusReport := failedStatus "desk" "no key" "one" "nyc"

/-- The same one, with names and a relay that try to break their lines. -/
def forgedNames : StatusReport :=
  failedStatus "desk\npeers: 9" "no key" "one\n  - two" "nyc\n  - three"

/-- The same one, with a reason that goes on in a second line. -/
def longReason : StatusReport := failedStatus "desk" "no key\n  - two" "one" "nyc"

theorem status_unforged_names :
    (statusLines asciiPlain calmStatus).length + (reasonLines forgedNames.error).length =
        (statusLines asciiPlain forgedNames).length + (reasonLines calmStatus.error).length ∧
      (statusLines asciiPlain calmStatus).countP isPeerRow +
          (reasonLines forgedNames.error).countP isPeerRow =
        (statusLines asciiPlain forgedNames).countP isPeerRow +
          (reasonLines calmStatus.error).countP isPeerRow ∧
      (calmStatus.RestClean → Unforged asciiPlain calmStatus) ∧
      (forgedNames.RestClean → Unforged asciiPlain forgedNames) :=
  status_unforged asciiPlain_unsafe (failedStatus_sameButText _ _ _ _ _ _ _ _)
    (failedStatus_noUrl _ _ _ _) (failedStatus_noUrl _ _ _ _)

/-- A registration error that goes on in a second line adds a line, and it can look like a
    peer's. -/
theorem reason_adds_row :
    calmStatus.SameButText longReason ∧
      (statusLines asciiPlain calmStatus).length ≠ (statusLines asciiPlain longReason).length ∧
      (statusLines asciiPlain calmStatus).countP isPeerRow ≠
        (statusLines asciiPlain longReason).countP isPeerRow := by
  have hcalm : reasonLines calmStatus.error = [] := by decide
  have hlong : reasonLines longReason.error = ["  - two".toList] := by decide
  obtain ⟨hlengthA, hrowsA⟩ := linesOf_failureRows calmStatus.error
  obtain ⟨hlengthB, hrowsB⟩ := linesOf_failureRows longReason.error
  have hhead : statusHead calmStatus = statusHead longReason := rfl
  have htail : statusTail asciiPlain calmStatus = statusTail asciiPlain longReason := rfl
  have hsome : calmStatus.error.isSome = longReason.error.isSome := rfl
  have hone : [("  - two".toList)].countP isPeerRow = 1 := by decide
  refine ⟨failedStatus_sameButText _ _ _ _ _ _ _ _, ?_, ?_⟩
  · simp only [statusLines_eq, List.length_append]
    rw [hlengthA, hlengthB, hhead, htail, hsome, hcalm, hlong, List.length_nil, List.length_singleton]
    omega
  · simp only [statusLines_eq, List.countP_append]
    rw [hrowsA, hrowsB, hhead, htail, hcalm, hlong, hone, List.countP_nil]
    omega

end Tailnetd
