/-
  The advice of the accidental-revert guard (`tnet.rs`).

  The daemon refuses an `up` that would drop settings and reports them by preference key; the
  command line turns each into the flag that keeps it.  The daemon's keys, the table of flags and
  the flags `up` declares are three lists written by hand:

  1. `advertise_tags` and `accept_dns` have no row in the table, so the word printed for them is
     made of the key itself, which `up` does not declare (`advice_unknown`).
  2. A list is printed joined by commas and read back split at them, and an empty operator is read
     as none; everything else comes back as it is stored (`advised_field`).
  3. `up` refuses `--exit-node-allow-lan-access` unless it also names an exit node.

  `revert_advice_iff` says when the advice can be followed, and when it is then also carried out.
-/
import Tailnetd.RevertGuard
import Tailnetd.CliFlags
import Tailnetd.PortText
import Tailnetd.Lib.TextLines

namespace Tailnetd

open CommandLine TextLines

/-! ## The words -/

/-- `bool_keep_flag`. -/
def boolKeepFlag (enable disable value : String) : String :=
  if value = "true" then bareWord enable else bareWord disable

/-- `revert_pref_to_flag`. -/
def revertPrefToFlag (key value : String) : String :=
  match key with
  | "accept_routes" => boolKeepFlag "accept-routes" "no-accept-routes" value
  | "shields_up" => boolKeepFlag "shields-up" "no-shields-up" value
  | "advertise_exit_node" => boolKeepFlag "advertise-exit-node" "no-advertise-exit-node" value
  | "ssh" => boolKeepFlag "ssh" "no-ssh" value
  | "tun" => boolKeepFlag "tun" "no-tun" value
  | "exit_node_allow_lan_access" =>
    boolKeepFlag "exit-node-allow-lan-access" "no-exit-node-allow-lan-access" value
  | "advertise_connector" => boolKeepFlag "advertise-connector" "no-advertise-connector" value
  | "report_posture" => boolKeepFlag "report-posture" "no-report-posture" value
  | "advertise_routes" => valueWord "advertise-routes" value
  | "exit_node" => valueWord "exit-node" value
  | "hostname" => valueWord "hostname" value
  | "control_url" => valueWord "control-url" value
  | "operator" => valueWord "operator" value
  | "tun_name" => valueWord "tun-name" value
  | "tun_mtu" => valueWord "tun-mtu" value
  | other => valueWord other value

/-- The words printed for what an `up` would drop. -/
def adviceWords (reverts : List RevertedPref) : List String :=
  reverts.map fun r => revertPrefToFlag r.key r.value

/-- The options of a command line that goes on with these. -/
def UpOptions.add (o more : UpOptions) : UpOptions where
  hostname := more.hostname.or o.hostname
  controlUrl := more.controlUrl.or o.controlUrl
  tun := more.tun.or o.tun
  tunName := more.tunName.or o.tunName
  tunMtu := more.tunMtu.or o.tunMtu
  exitNode := more.exitNode.or o.exitNode
  advertiseExitNode := more.advertiseExitNode.or o.advertiseExitNode
  advertiseRoutes := more.advertiseRoutes.or o.advertiseRoutes
  advertiseTags := more.advertiseTags.or o.advertiseTags
  acceptRoutes := more.acceptRoutes.or o.acceptRoutes
  acceptDns := more.acceptDns.or o.acceptDns
  shieldsUp := more.shieldsUp.or o.shieldsUp
  ssh := more.ssh.or o.ssh
  operator := more.operator.or o.operator
  exitNodeAllowLanAccess := more.exitNodeAllowLanAccess.or o.exitNodeAllowLanAccess
  advertiseConnector := more.advertiseConnector.or o.advertiseConnector
  reportPosture := more.reportPosture.or o.reportPosture
  reset := more.reset || o.reset
  forceReauth := more.forceReauth || o.forceReauth
  ephemeral := more.ephemeral.or o.ephemeral

/-- The options name the preference, with the value stored in `p`. -/
def UpOptions.Keeps (o : UpOptions) (p : Prefs) (n : PrefName) : Prop :=
  o.names n = true ∧ ∀ q, (o.applyOverrides q).field n = p.field n

/-- The advice followed: `up` declares its words, and the options that go on with them pass the
    guard and keep every value it reported. -/
def Followed (p : Prefs) (o : UpOptions) (args : Args) : Prop :=
  parse upFlags (adviceWords (checkAccidentalReverts p o true)) = .ok args ∧
    checkAccidentalReverts p (o.add (upRequest args)) true = [] ∧
    ∀ r ∈ checkAccidentalReverts p o true, ∃ n : PrefName,
      n.key = r.key ∧ (o.add (upRequest args)).Keeps p n

/-! ## What is reported -/

/-- The preferences the guard asks about, in its order. -/
def guarded : List PrefName :=
  [.hostname, .controlUrl, .tun, .tunName, .tunMtu, .exitNode, .advertiseExitNode, .advertiseRoutes,
   .advertiseTags, .acceptRoutes, .acceptDns, .shieldsUp, .ssh, .operator, .exitNodeAllowLanAccess,
   .advertiseConnector, .reportPosture]

/-- A value as the guard renders it. -/
def PrefValue.rendered : PrefValue → Option String
  | .flag v => some (toString v)
  | .choice _ => none
  | .text v => v
  | .texts v => some (",".intercalate v)
  | .number v => v.map fun n => toString n.toNat

/-- The preference would be dropped: it is not mentioned and not at its default. -/
def isReverted (p : Prefs) (o : UpOptions) (n : PrefName) : Bool :=
  !o.names n && decide (p.field n ≠ Prefs.default.field n)

/-- The preferences that would be dropped. -/
def revertedNames (p : Prefs) (o : UpOptions) : List PrefName := guarded.filter (isReverted p o)

theorem revertArms_eq (p : Prefs) (o : UpOptions) :
    revertArms p o = guarded.map fun n =>
      ⟨n.key, !o.names n, decide (p.field n ≠ Prefs.default.field n), (p.field n).rendered⟩ := by
  simp [revertArms, guarded, RevertArm.text, RevertArm.flag, RevertArm.texts, UpOptions.names,
    Prefs.field, PrefName.key, PrefValue.rendered]

/-- What is not at its default has a value to report. -/
theorem rendered_isSome {p : Prefs} {n : PrefName} (hn : n ∈ guarded)
    (h : p.field n ≠ Prefs.default.field n) : (p.field n).rendered.isSome = true := by
  simp only [guarded, List.mem_cons, List.not_mem_nil, or_false] at hn
  rcases hn with rfl | rfl | rfl | rfl | rfl | rfl | rfl | rfl | rfl | rfl | rfl | rfl | rfl | rfl |
    rfl | rfl | rfl <;>
    simp_all [Prefs.field, PrefValue.rendered, Prefs.default, Option.isSome_iff_ne_none]

/-- A partial map that keeps what a test keeps. -/
theorem filterMap_eq_map_filter {α β : Type} {f : α → Option β} {keep : α → Bool} {g : α → β}
    {l : List α} (h : ∀ x ∈ l, f x = if keep x then some (g x) else none) :
    l.filterMap f = (l.filter keep).map g := by
  induction l with
  | nil => rfl
  | cons x l ih =>
    obtain ⟨hx, hl⟩ := List.forall_mem_cons.mp h
    cases hkeep : keep x with
    | true =>
      rw [List.filterMap_cons_some (by rw [hx, hkeep]; rfl), List.filter_cons_of_pos hkeep,
        List.map_cons, ih hl]
    | false =>
      rw [List.filterMap_cons_none (by rw [hx, hkeep]; rfl),
        List.filter_cons_of_neg (by rw [hkeep]; exact Bool.false_ne_true), ih hl]

/-- The value the guard reports. -/
def reportedValue (p : Prefs) (n : PrefName) : String := (p.field n).rendered.getD ""

/-- The guard reports what would be dropped, preference by preference. -/
theorem checkAccidentalReverts_eq {p : Prefs} {o : UpOptions} (h : o.mentionsAnyPref = true) :
    checkAccidentalReverts p o true =
      (revertedNames p o).map fun n => ⟨n.key, reportedValue p n⟩ := by
  have hcheck : checkAccidentalReverts p o true = (revertArms p o).filterMap RevertArm.revert := by
    simp [checkAccidentalReverts, h]
  rw [hcheck, revertArms_eq, List.filterMap_map, revertedNames]
  refine filterMap_eq_map_filter fun n hn => ?_
  rw [Function.comp_apply, RevertArm.revert]
  dsimp only
  cases hrev : isReverted p o n with
  | false =>
    rw [isReverted] at hrev
    rw [hrev]
    rfl
  | true =>
    have hboth := hrev
    rw [isReverted, Bool.and_eq_true, decide_eq_true_eq] at hboth
    obtain ⟨v, hv⟩ := Option.isSome_iff_exists.mp (rendered_isSome hn hboth.2)
    rw [isReverted] at hrev
    rw [hrev, reportedValue, hv]
    rfl

/-- A guard that reports anything is one on an `up` that mentions a preference. -/
theorem mentionsAnyPref_of_reverts {p : Prefs} {o : UpOptions}
    (h : checkAccidentalReverts p o true ≠ []) : o.mentionsAnyPref = true := by
  cases hmention : o.mentionsAnyPref with
  | true => rfl
  | false => exact absurd (by simp [checkAccidentalReverts, hmention]) h

theorem checkAccidentalReverts_nil {p : Prefs} {o : UpOptions} (h : revertedNames p o = []) :
    checkAccidentalReverts p o true = [] := by
  cases hmention : o.mentionsAnyPref with
  | true => rw [checkAccidentalReverts_eq hmention, h, List.map_nil]
  | false => simp [checkAccidentalReverts, hmention]

/-! ## How the words are read -/

/-- The flag that sets a guarded preference. -/
def flagOf : PrefName → String
  | .hostname => "hostname"
  | .controlUrl => "control-url"
  | .tun => "tun"
  | .tunName => "tun-name"
  | .tunMtu => "tun-mtu"
  | .exitNode => "exit-node"
  | .advertiseExitNode => "advertise-exit-node"
  | .advertiseRoutes => "advertise-routes"
  | .advertiseTags => "advertise-tags"
  | .acceptRoutes => "accept-routes"
  | .acceptDns => "accept-dns"
  | .shieldsUp => "shields-up"
  | .ssh => "ssh"
  | .operator => "operator"
  | .exitNodeAllowLanAccess => "exit-node-allow-lan-access"
  | .advertiseConnector => "advertise-connector"
  | .reportPosture => "report-posture"
  | _ => ""

/-- A list as it is read back from what was printed. -/
def reread (items : List String) : List String :=
  ((",".intercalate items).toList.splitOn ',').map String.ofList

/-- The values the word of a preference gives its flag. -/
def givenOf (p : Prefs) (n : PrefName) : List String :=
  match p.field n with
  | .flag _ => []
  | .texts v => reread v
  | _ => [reportedValue p n]

/-- The word printed for a preference. -/
def keptWord (p : Prefs) (n : PrefName) : String := revertPrefToFlag n.key (reportedValue p n)

theorem adviceWords_eq {p : Prefs} {o : UpOptions} (h : o.mentionsAnyPref = true) :
    adviceWords (checkAccidentalReverts p o true) = (revertedNames p o).map (keptWord p) := by
  rw [checkAccidentalReverts_eq h, adviceWords, List.map_map]
  rfl

/-- **The table has no row for the tags and for MagicDNS**, and `up` declares no flag by their
    keys. -/
theorem advice_unknown (p : Prefs) {n : PrefName} (h : n = .advertiseTags ∨ n = .acceptDns) :
    readWord upFlags (keptWord p n) = .error (.unknown (keptWord p n)) := by
  obtain rfl | rfl := h
  · exact readWord_unknown (by decide) rfl
  · exact readWord_unknown (by decide) rfl

/-- Every other word is read as its preference's flag. -/
theorem advice_read {p : Prefs} {n : PrefName} (hn : n ∈ guarded)
    (hchanged : p.field n ≠ Prefs.default.field n) (htags : n ≠ .advertiseTags)
    (hdns : n ≠ .acceptDns) : readWord upFlags (keptWord p n) = .ok (flagOf n, givenOf p n) := by
  have hswitch : ∀ (m : PrefName) (v : Bool), p.field m = .flag v →
      Prefs.default.field m = .flag false → p.field m ≠ Prefs.default.field m →
      reportedValue p m = "true" ∧ givenOf p m = [] := by
    intro m v hfield hdefault hne
    rw [hfield, hdefault] at hne
    have hv : v = true := by
      cases v with
      | true => rfl
      | false => exact absurd rfl hne
    rw [reportedValue, givenOf, hfield, hv]
    exact ⟨rfl, rfl⟩
  have hon : ∀ (m : PrefName) (v : Bool) (on off : String), '=' ∉ on.toList →
      upFlags.find? (·.isNamed on) = some { long := on, action := .switch, conflicts := [off] } →
      (∀ value, revertPrefToFlag m.key value = boolKeepFlag on off value) → flagOf m = on →
      p.field m = .flag v → Prefs.default.field m = .flag false →
      p.field m ≠ Prefs.default.field m →
      readWord upFlags (keptWord p m) = .ok (flagOf m, givenOf p m) := by
    intro m v on off hplain hfind hrow hflag hfield hdefault hne
    obtain ⟨hvalue, hgiven⟩ := hswitch m v hfield hdefault hne
    rw [keptWord, hvalue, hgiven, hrow, hflag]
    exact readWord_switch hplain hfind rfl
  -- one word for each preference, in the order of the list
  simp only [guarded, List.mem_cons, List.not_mem_nil, or_false] at hn
  rcases hn with rfl | rfl | rfl | rfl | rfl | rfl | rfl | rfl | rfl | rfl | rfl | rfl | rfl | rfl |
    rfl | rfl | rfl
  · exact @readWord_value upFlags "hostname" _ _ (by decide) rfl rfl rfl
  · exact @readWord_value upFlags "control-url" _ _ (by decide) rfl rfl rfl
  · exact hon .tun _ "tun" "no-tun" (by decide) rfl (fun _ => rfl) rfl rfl rfl hchanged
  · exact @readWord_value upFlags "tun-name" _ _ (by decide) rfl rfl rfl
  · refine @readWord_value upFlags "tun-mtu" _ _ (by decide) rfl rfl ?_
    cases hmtu : p.tunMtu with
    | none => exact absurd (congrArg PrefValue.number hmtu) hchanged
    | some mtu =>
      have hvalue : reportedValue p .tunMtu = toString mtu.toNat := by
        rw [reportedValue, Prefs.field, hmtu]
        rfl
      rw [hvalue]
      exact congrArg Option.isSome (parseU16_portText mtu)
  · exact @readWord_value upFlags "exit-node" _ _ (by decide) rfl rfl rfl
  · exact hon .advertiseExitNode _ "advertise-exit-node" "no-advertise-exit-node" (by decide) rfl
      (fun _ => rfl) rfl rfl rfl hchanged
  · exact @readWord_list upFlags "advertise-routes" _ _ ',' (by decide) rfl rfl fun _ => rfl
  · exact absurd rfl htags
  · exact hon .acceptRoutes _ "accept-routes" "no-accept-routes" (by decide) rfl (fun _ => rfl) rfl
      rfl rfl hchanged
  · exact absurd rfl hdns
  · exact hon .shieldsUp _ "shields-up" "no-shields-up" (by decide) rfl (fun _ => rfl) rfl rfl rfl
      hchanged
  · exact hon .ssh _ "ssh" "no-ssh" (by decide) rfl (fun _ => rfl) rfl rfl rfl hchanged
  · exact @readWord_value upFlags "operator" _ _ (by decide) rfl rfl rfl
  · exact hon .exitNodeAllowLanAccess _ "exit-node-allow-lan-access"
      "no-exit-node-allow-lan-access" (by decide) rfl (fun _ => rfl) rfl rfl rfl hchanged
  · exact hon .advertiseConnector _ "advertise-connector" "no-advertise-connector" (by decide) rfl
      (fun _ => rfl) rfl rfl rfl hchanged
  · exact hon .reportPosture _ "report-posture" "no-report-posture" (by decide) rfl (fun _ => rfl)
      rfl rfl rfl hchanged

/-! ## The request the words make -/

/-- The words of these preferences, as they are read. -/
def adviceArgs (p : Prefs) (names : List PrefName) : Args :=
  names.map fun n => (flagOf n, givenOf p n)

theorem flagOf_inj : ∀ n ∈ guarded, ∀ m ∈ guarded, flagOf n = flagOf m → n = m := by decide

/-- What the words of a preference make of it: a list is split again, and an empty operator is
    none. -/
def readBack (p : Prefs) (n : PrefName) : PrefValue :=
  match n with
  | .advertiseRoutes => .texts (reread p.advertiseRoutes)
  | .operator => .text (p.operatorUser.bind fun v => if v = "" then none else some v)
  | n => p.field n

section

variable {p : Prefs} {names : List PrefName} (hsub : ∀ n ∈ names, n ∈ guarded)
include hsub

theorem values_adviceArgs (hnodup : names.Nodup) {n : PrefName} (hn : n ∈ guarded) :
    values (adviceArgs p names) (flagOf n) = if n ∈ names then givenOf p n else [] := by
  split
  · rename_i hmem
    exact values_map (fun i hi j hj => flagOf_inj i (hsub i hi) j (hsub j hj)) hnodup hmem
  · rename_i hmem
    refine values_of_not_has ?_
    rw [adviceArgs, has_map, List.any_eq_false]
    intro m hm heq
    exact hmem (flagOf_inj m (hsub m hm) n hn (beq_iff_eq.mp heq) ▸ hm)

theorem has_adviceArgs {n : PrefName} (hn : n ∈ guarded) :
    has (adviceArgs p names) (flagOf n) = decide (n ∈ names) := by
  rw [adviceArgs, has_map, Bool.eq_iff_iff, List.any_eq_true, decide_eq_true_eq]
  constructor
  · rintro ⟨m, hm, heq⟩
    exact flagOf_inj m (hsub m hm) n hn (beq_iff_eq.mp heq) ▸ hm
  · exact fun hmem => ⟨n, hmem, beq_self_eq_true _⟩

/-- No word switches anything off, nor uses a flag that keeps no preference. -/
theorem not_has_adviceArgs (long : String) (h : ∀ n ∈ guarded, flagOf n ≠ long) :
    has (adviceArgs p names) long = false := by
  rw [adviceArgs, has_map, List.any_eq_false]
  exact fun n hn heq => h n (hsub n hn) (beq_iff_eq.mp heq)

theorem value_adviceArgs (hnodup : names.Nodup) {n : PrefName} (hn : n ∈ guarded)
    (htext : givenOf p n = [reportedValue p n]) :
    value? (adviceArgs p names) (flagOf n) =
      if n ∈ names then some (reportedValue p n) else none := by
  rw [value?, values_adviceArgs hsub hnodup hn, htext]
  split <;> rfl

theorem pair_adviceArgs {n : PrefName} (hn : n ∈ guarded) (off : String)
    (hoff : ∀ m ∈ guarded, flagOf m ≠ off) :
    pairOf (adviceArgs p names) (flagOf n) off = if n ∈ names then some true else none := by
  rw [pairOf, has_adviceArgs hsub hn, not_has_adviceArgs hsub off hoff, resolveTristate]
  split <;> simp_all

end

/-- What the request does with one preference: it names it when a word is about it, and then sets it
    to what the word reads back as. -/
def SetsBack (p : Prefs) (names : List PrefName) (n : PrefName) : Prop :=
  (n ∉ names → (upRequest (adviceArgs p names)).names n = false) ∧
    (n ∈ names → p.field n ≠ Prefs.default.field n →
      (upRequest (adviceArgs p names)).names n = true ∧
        ∀ q, ((upRequest (adviceArgs p names)).applyOverrides q).field n = readBack p n)

section

variable {p : Prefs} {names : List PrefName} (hsub : ∀ n ∈ names, n ∈ guarded)
include hsub

/-- A preference switched by a pair of flags, and off by default. -/
theorem setsBack_flag {n : PrefName} (off : String) (get : UpOptions → Option Bool)
    (stored : Prefs → Bool) (hn : n ∈ guarded) (hoff : ∀ m ∈ guarded, flagOf m ≠ off)
    (hget : ∀ args, get (upRequest args) = pairOf args (flagOf n) off)
    (hnames : ∀ o : UpOptions, o.names n = (get o).isSome)
    (hfield : ∀ (o : UpOptions) q, (o.applyOverrides q).field n = .flag ((get o).getD (stored q)))
    (hstored : p.field n = .flag (stored p)) (hdefault : Prefs.default.field n = .flag false)
    (hback : readBack p n = p.field n) : SetsBack p names n := by
  have hpair := pair_adviceArgs (p := p) hsub hn off hoff
  constructor
  · intro hmem
    rw [hnames, hget, hpair, if_neg hmem]
    rfl
  · intro hmem hne
    have htrue : stored p = true := by
      rw [hstored, hdefault] at hne
      cases hv : stored p with
      | true => rfl
      | false => exact absurd (congrArg PrefValue.flag hv) hne
    refine ⟨by rw [hnames, hget, hpair, if_pos hmem]; rfl, fun q => ?_⟩
    rw [hfield, hget, hpair, if_pos hmem, hback, hstored, htrue]
    rfl

/-- A preference with a text, unset by default. -/
theorem setsBack_text (hnodup : names.Nodup) {n : PrefName} (get : UpOptions → Option String)
    (stored : Prefs → Option String) (hn : n ∈ guarded)
    (hget : ∀ args, get (upRequest args) = value? args (flagOf n))
    (hnames : ∀ o : UpOptions, o.names n = (get o).isSome)
    (hfield : ∀ (o : UpOptions) q, (o.applyOverrides q).field n = .text ((get o).or (stored q)))
    (hstored : p.field n = .text (stored p)) (hdefault : Prefs.default.field n = .text none)
    (hback : readBack p n = p.field n) : SetsBack p names n := by
  have hgiven : givenOf p n = [reportedValue p n] := by rw [givenOf, hstored]
  have hvalue := value_adviceArgs hsub hnodup hn hgiven
  constructor
  · intro hmem
    rw [hnames, hget, hvalue, if_neg hmem]
    rfl
  · intro hmem hne
    rw [hstored, hdefault] at hne
    refine ⟨by rw [hnames, hget, hvalue, if_pos hmem]; rfl, fun q => ?_⟩
    rw [hfield, hget, hvalue, if_pos hmem, hback, hstored, reportedValue, hstored]
    cases hv : stored p with
    | none => exact absurd (congrArg PrefValue.text hv) hne
    | some v => rfl

theorem setsBack_tunMtu (hnodup : names.Nodup) : SetsBack p names .tunMtu := by
  have hvalue := value_adviceArgs (p := p) (n := .tunMtu) hsub hnodup (by decide) rfl
  have hmtu : (upRequest (adviceArgs p names)).tunMtu =
      (if .tunMtu ∈ names then some (reportedValue p .tunMtu) else none).bind parseU16 :=
    congrArg (·.bind parseU16) hvalue
  constructor
  · intro hmem
    rw [UpOptions.names, hmtu, if_neg hmem]
    rfl
  · intro hmem hne
    cases hstored : p.tunMtu with
    | none => exact absurd (congrArg PrefValue.number hstored) hne
    | some mtu =>
      have hreported : reportedValue p .tunMtu = toString mtu.toNat := by
        rw [reportedValue, Prefs.field, hstored]
        rfl
      rw [if_pos hmem, hreported, Option.bind_some, parseU16_portText] at hmtu
      refine ⟨by rw [UpOptions.names, hmtu]; rfl, fun q => ?_⟩
      have hback : readBack p .tunMtu = .number p.tunMtu := rfl
      rw [UpOptions.applyOverrides, hmtu, hback, hstored]
      rfl

theorem exitNode_adviceArgs (hnodup : names.Nodup) :
    (upRequest (adviceArgs p names)).exitNode =
      if .exitNode ∈ names then some (some (reportedValue p .exitNode)) else none := by
  have hvalue := value_adviceArgs (p := p) (n := .exitNode) hsub hnodup (by decide) rfl
  have hclear := not_has_adviceArgs (p := p) hsub "clear-exit-node" (by decide)
  have hfold : (upRequest (adviceArgs p names)).exitNode =
      resolveExitNode (value? (adviceArgs p names) (flagOf .exitNode))
        (has (adviceArgs p names) "clear-exit-node") := rfl
  rw [hfold, hvalue, hclear]
  split <;> rfl

theorem setsBack_exitNode (hnodup : names.Nodup) : SetsBack p names .exitNode := by
  have hexit := exitNode_adviceArgs (p := p) hsub hnodup
  constructor
  · intro hmem
    rw [UpOptions.names, hexit, if_neg hmem]
    rfl
  · intro hmem hne
    rw [if_pos hmem] at hexit
    cases hstored : p.exitNode with
    | none => exact absurd (congrArg PrefValue.text hstored) hne
    | some sel =>
      have hreported : reportedValue p .exitNode = sel := by
        rw [reportedValue, Prefs.field, hstored]
        rfl
      refine ⟨by rw [UpOptions.names, hexit]; rfl, fun q => ?_⟩
      have hback : readBack p .exitNode = .text p.exitNode := rfl
      rw [UpOptions.applyOverrides, hexit, hback, hstored, hreported]
      rfl

theorem setsBack_advertiseRoutes (hnodup : names.Nodup) : SetsBack p names .advertiseRoutes := by
  have hvalues := values_adviceArgs (p := p) (n := .advertiseRoutes) hsub hnodup (by decide)
  have hclear := not_has_adviceArgs (p := p) hsub "clear-advertise-routes" (by decide)
  have hfold : (upRequest (adviceArgs p names)).advertiseRoutes =
      resolveListOrClear (values (adviceArgs p names) (flagOf .advertiseRoutes))
        (has (adviceArgs p names) "clear-advertise-routes") := rfl
  rw [hvalues, hclear] at hfold
  constructor
  · intro hmem
    rw [UpOptions.names, hfold, if_neg hmem]
    rfl
  · intro hmem _
    have hne : reread p.advertiseRoutes ≠ [] := by
      rw [reread]
      exact mt List.map_eq_nil_iff.mp (List.splitOn_ne_nil _ _)
    have hgiven : givenOf p .advertiseRoutes = reread p.advertiseRoutes := rfl
    rw [if_pos hmem, hgiven, resolveListOrClear, if_pos hne] at hfold
    refine ⟨by rw [UpOptions.names, hfold]; rfl, fun q => ?_⟩
    rw [UpOptions.applyOverrides, hfold]
    rfl

theorem setsBack_operator (hnodup : names.Nodup) : SetsBack p names .operator := by
  have hvalue := value_adviceArgs (p := p) (n := .operator) hsub hnodup (by decide) rfl
  have hfold : (upRequest (adviceArgs p names)).operator =
      resolveClearableString (value? (adviceArgs p names) (flagOf .operator)) := rfl
  rw [hvalue] at hfold
  constructor
  · intro hmem
    rw [UpOptions.names, hfold, if_neg hmem]
    rfl
  · intro hmem hne
    cases hstored : p.operatorUser with
    | none => exact absurd (congrArg PrefValue.text hstored) hne
    | some v =>
      have hreported : reportedValue p .operator = v := by
        rw [reportedValue, Prefs.field, hstored]
        rfl
      rw [if_pos hmem, hreported] at hfold
      refine ⟨by rw [UpOptions.names, hfold]; rfl, fun q => ?_⟩
      rw [UpOptions.applyOverrides, hfold, readBack, hstored]
      rfl

/-- **What the words read back as**, preference by preference. -/
theorem advised_field (hnodup : names.Nodup) (htags : .advertiseTags ∉ names)
    (hdns : .acceptDns ∉ names) {n : PrefName} (hn : n ∈ guarded) : SetsBack p names n := by
  -- one preference after the other: a text, a pair of switches, or a shape of its own
  simp only [guarded, List.mem_cons, List.not_mem_nil, or_false] at hn
  rcases hn with rfl | rfl | rfl | rfl | rfl | rfl | rfl | rfl | rfl | rfl | rfl | rfl | rfl | rfl |
    rfl | rfl | rfl
  · exact setsBack_text hsub hnodup UpOptions.hostname Prefs.hostname (by decide) (fun _ => rfl)
      (fun _ => rfl) (fun _ _ => rfl) rfl rfl rfl
  · exact setsBack_text hsub hnodup UpOptions.controlUrl Prefs.controlUrl (by decide)
      (fun _ => rfl) (fun _ => rfl) (fun _ _ => rfl) rfl rfl rfl
  · exact setsBack_flag hsub "no-tun" UpOptions.tun Prefs.tunEnabled (by decide) (by decide)
      (fun _ => rfl) (fun _ => rfl) (fun _ _ => rfl) rfl rfl rfl
  · exact setsBack_text hsub hnodup UpOptions.tunName Prefs.tunName (by decide) (fun _ => rfl)
      (fun _ => rfl) (fun _ _ => rfl) rfl rfl rfl
  · exact setsBack_tunMtu hsub hnodup
  · exact setsBack_exitNode hsub hnodup
  · exact setsBack_flag hsub "no-advertise-exit-node" UpOptions.advertiseExitNode
      Prefs.advertiseExitNode (by decide) (by decide) (fun _ => rfl) (fun _ => rfl) (fun _ _ => rfl)
      rfl rfl rfl
  · exact setsBack_advertiseRoutes hsub hnodup
  · -- no word is about the tags
    have hvalues := values_adviceArgs (p := p) (n := .advertiseTags) hsub hnodup (by decide)
    have hclear := not_has_adviceArgs (p := p) hsub "clear-advertise-tags" (by decide)
    refine ⟨fun hmem => ?_, fun hmem => absurd hmem htags⟩
    have hfold : (upRequest (adviceArgs p names)).advertiseTags =
        resolveListOrClear (values (adviceArgs p names) (flagOf .advertiseTags))
          (has (adviceArgs p names) "clear-advertise-tags") := rfl
    rw [UpOptions.names, hfold, hvalues, hclear, if_neg hmem]
    rfl
  · exact setsBack_flag hsub "no-accept-routes" UpOptions.acceptRoutes Prefs.acceptRoutes
      (by decide) (by decide) (fun _ => rfl) (fun _ => rfl) (fun _ _ => rfl) rfl rfl rfl
  · -- nor about MagicDNS
    have hpair := pair_adviceArgs (p := p) (n := .acceptDns) hsub (by decide) "no-accept-dns"
      (by decide)
    refine ⟨fun hmem => ?_, fun hmem => absurd hmem hdns⟩
    have hfold : (upRequest (adviceArgs p names)).acceptDns =
        pairOf (adviceArgs p names) (flagOf .acceptDns) "no-accept-dns" := rfl
    rw [UpOptions.names, hfold, hpair, if_neg hmem]
    rfl
  · exact setsBack_flag hsub "no-shields-up" UpOptions.shieldsUp Prefs.shieldsUp (by decide)
      (by decide) (fun _ => rfl) (fun _ => rfl) (fun _ _ => rfl) rfl rfl rfl
  · exact setsBack_flag hsub "no-ssh" UpOptions.ssh Prefs.sshEnabled (by decide) (by decide)
      (fun _ => rfl) (fun _ => rfl) (fun _ _ => rfl) rfl rfl rfl
  · exact setsBack_operator hsub hnodup
  · exact setsBack_flag hsub "no-exit-node-allow-lan-access" UpOptions.exitNodeAllowLanAccess
      Prefs.exitNodeAllowLanAccess (by decide) (by decide) (fun _ => rfl) (fun _ => rfl)
      (fun _ _ => rfl) rfl rfl rfl
  · exact setsBack_flag hsub "no-advertise-connector" UpOptions.advertiseConnector
      Prefs.advertiseAppConnector (by decide) (by decide) (fun _ => rfl) (fun _ => rfl)
      (fun _ _ => rfl) rfl rfl rfl
  · exact setsBack_flag hsub "no-report-posture" UpOptions.reportPosture Prefs.postureChecking
      (by decide) (by decide) (fun _ => rfl) (fun _ => rfl) (fun _ _ => rfl) rfl rfl rfl

end

/-! ## When the advice can be followed -/

theorem mem_revertedNames {p : Prefs} {o : UpOptions} {n : PrefName} :
    n ∈ revertedNames p o ↔
      n ∈ guarded ∧ o.names n = false ∧ p.field n ≠ Prefs.default.field n := by
  simp [revertedNames, isReverted]

theorem revertedNames_guarded (p : Prefs) (o : UpOptions) : ∀ n ∈ revertedNames p o, n ∈ guarded :=
  fun _ hn => (mem_revertedNames.mp hn).1

theorem revertedNames_nodup (p : Prefs) (o : UpOptions) : (revertedNames p o).Nodup :=
  List.Nodup.filter _ (by decide)

theorem add_names (o more : UpOptions) (n : PrefName) :
    (o.add more).names n = (more.names n || o.names n) := by
  cases n <;> simp [UpOptions.names, UpOptions.add]

/-- What the command did not name is what the words after it make of it. -/
theorem add_field {o : UpOptions} {n : PrefName} (h : o.names n = false) (more : UpOptions)
    (q : Prefs) : ((o.add more).applyOverrides q).field n = (more.applyOverrides q).field n := by
  cases n <;> simp_all [UpOptions.names, UpOptions.add, UpOptions.applyOverrides, Prefs.field]

/-- A list is read back as it was when no item holds a comma. -/
theorem reread_eq_iff {items : List String} (h : items ≠ []) :
    reread items = items ↔ ∀ item ∈ items, ',' ∉ item.toList := by
  constructor
  · intro heq item hitem
    rw [← heq, reread] at hitem
    obtain ⟨piece, hpiece, rfl⟩ := List.mem_map.mp hitem
    rw [String.toList_ofList]
    exact notMem_of_mem_splitOn hpiece
  · intro hplain
    have hjoin : (",".intercalate items).toList = [','].intercalate (items.map String.toList) :=
      String.toList_intercalate
    rw [reread, hjoin, List.splitOn_intercalate]
    · simp
    · intro l hl
      obtain ⟨item, hitem, rfl⟩ := List.mem_map.mp hl
      exact hplain item hitem
    · simpa using h

/-- What the advice gets right: no tag and no MagicDNS setting is at stake, no route holds a comma,
    and the operator is not empty. -/
structure AdviceSound (p : Prefs) (o : UpOptions) : Prop where
  tags : .advertiseTags ∉ revertedNames p o
  dns : .acceptDns ∉ revertedNames p o
  routes : .advertiseRoutes ∈ revertedNames p o →
    ∀ route ∈ p.advertiseRoutes, ',' ∉ route.toList
  operator : .operator ∈ revertedNames p o → p.operatorUser ≠ some ""

/-- Whoever may use the LAN through an exit node has one: it is named, or put back. -/
def LanHasExit (p : Prefs) (o : UpOptions) : Prop :=
  .exitNodeAllowLanAccess ∈ revertedNames p o ∨ o.exitNodeAllowLanAccess = some true →
    ∃ sel, trim sel ≠ "" ∧
      (o.exitNode = some (some sel) ∨ o.exitNode = none ∧ p.exitNode = some sel)

/-- The words are accepted exactly when neither of the two without a flag is among them, and how. -/
theorem parse_adviceWords {p : Prefs} {o : UpOptions} (h : o.mentionsAnyPref = true) {args : Args} :
    parse upFlags (adviceWords (checkAccidentalReverts p o true)) = .ok args ↔
      (.advertiseTags ∉ revertedNames p o ∧ .acceptDns ∉ revertedNames p o) ∧
        args = adviceArgs p (revertedNames p o) := by
  have hok : .advertiseTags ∉ revertedNames p o → .acceptDns ∉ revertedNames p o →
      parse upFlags ((revertedNames p o).map (keptWord p)) =
        .ok (adviceArgs p (revertedNames p o)) := by
    intro htags hdns
    have hguarded := revertedNames_guarded p o
    have hnoOff : ∀ f ∈ upFlags, ∀ other ∈ f.conflicts, ∀ n ∈ guarded, flagOf n ≠ other := by
      decide
    refine parse_of_reads ?_ ?_ ?_ ?_
    · intro n hn
      obtain ⟨hmem, -, hne⟩ := mem_revertedNames.mp hn
      exact advice_read hmem hne (fun heq => htags (heq ▸ hn)) (fun heq => hdns (heq ▸ hn))
    · exact fun n hn m hm => flagOf_inj n (hguarded n hn) m (hguarded m hm)
    · exact revertedNames_nodup p o
    · rintro f hf other hother n hn m hm ⟨-, hlong⟩
      exact hnoOff f hf other hother m (hguarded m hm) hlong
  rw [adviceWords_eq h]
  constructor
  · intro hparse
    have hread : ∀ n, n = .advertiseTags ∨ n = .acceptDns → n ∉ revertedNames p o := by
      intro n hn hmem
      obtain ⟨e, he⟩ := parse_error_of_mem (List.mem_map_of_mem hmem) (advice_unknown p hn)
      rw [he] at hparse
      cases hparse
    have htags := hread _ (.inl rfl)
    have hdns := hread _ (.inr rfl)
    rw [hok htags hdns] at hparse
    exact ⟨⟨htags, hdns⟩, (Except.ok.inj hparse).symm⟩
  · rintro ⟨⟨htags, hdns⟩, rfl⟩
    exact hok htags hdns

/-- A preference is kept when its word reads back as it is stored. -/
theorem keeps_iff {p : Prefs} {o : UpOptions} (htags : .advertiseTags ∉ revertedNames p o)
    (hdns : .acceptDns ∉ revertedNames p o) {n : PrefName} (hn : n ∈ revertedNames p o) :
    (o.add (upRequest (adviceArgs p (revertedNames p o)))).Keeps p n ↔
      readBack p n = p.field n := by
  obtain ⟨hguarded, hunnamed, hne⟩ := mem_revertedNames.mp hn
  obtain ⟨hnames, hfield⟩ := (advised_field (revertedNames_guarded p o)
    (revertedNames_nodup p o) htags hdns hguarded).2 hn hne
  constructor
  · rintro ⟨-, hkeep⟩
    have hkeep := hkeep p
    rwa [add_field hunnamed, hfield] at hkeep
  · intro hback
    refine ⟨by rw [add_names, hnames, Bool.true_or], fun q => ?_⟩
    rw [add_field hunnamed, hfield, hback]

theorem readBack_eq_iff {p : Prefs} {n : PrefName} (hne : p.field n ≠ Prefs.default.field n) :
    readBack p n = p.field n ↔
      (n = .advertiseRoutes → ∀ route ∈ p.advertiseRoutes, ',' ∉ route.toList) ∧
        (n = .operator → p.operatorUser ≠ some "") := by
  by_cases hroutes : n = .advertiseRoutes
  · subst hroutes
    have hitems : p.advertiseRoutes ≠ [] := fun h => hne (congrArg PrefValue.texts h)
    have hback : readBack p .advertiseRoutes = .texts (reread p.advertiseRoutes) := rfl
    rw [hback, Prefs.field, PrefValue.texts.injEq, reread_eq_iff hitems]
    simp
  · by_cases hop : n = .operator
    · subst hop
      have hback : readBack p .operator =
        .text (p.operatorUser.bind fun v => if v = "" then none else some v) := rfl
      rw [hback, Prefs.field, PrefValue.text.injEq]
      cases p.operatorUser with
      | none => simp
      | some v => by_cases hv : v = "" <;> simp [hv]
    · have hback : readBack p n = p.field n := by
        cases n <;> first | rfl | exact absurd rfl hroutes | exact absurd rfl hop
      simp [hback, hroutes, hop]

/-- What is put back is named, so the guard is silent. -/
theorem silent_of_sound {p : Prefs} {o : UpOptions} (htags : .advertiseTags ∉ revertedNames p o)
    (hdns : .acceptDns ∉ revertedNames p o) :
    checkAccidentalReverts p (o.add (upRequest (adviceArgs p (revertedNames p o)))) true = [] := by
  refine checkAccidentalReverts_nil (List.eq_nil_iff_forall_not_mem.mpr fun n hn => ?_)
  obtain ⟨hguarded, hunnamed, hne⟩ := mem_revertedNames.mp hn
  rw [add_names, Bool.or_eq_false_iff] at hunnamed
  have hmem : n ∈ revertedNames p o := mem_revertedNames.mpr ⟨hguarded, hunnamed.2, hne⟩
  obtain ⟨hnames, -⟩ := (advised_field (revertedNames_guarded p o)
    (revertedNames_nodup p o) htags hdns hguarded).2 hmem hne
  rw [hnames] at hunnamed
  cases hunnamed.1

/-- **When the advice can be followed.** -/
theorem followed_iff {p : Prefs} {o : UpOptions} (h : checkAccidentalReverts p o true ≠ [])
    {args : Args} :
    Followed p o args ↔ AdviceSound p o ∧ args = adviceArgs p (revertedNames p o) := by
  have hmention := mentionsAnyPref_of_reverts h
  have hreverts := checkAccidentalReverts_eq (p := p) hmention
  constructor
  · rintro ⟨hparse, -, hkeeps⟩
    obtain ⟨⟨htags, hdns⟩, rfl⟩ := (parse_adviceWords hmention).mp hparse
    have hback : ∀ n ∈ revertedNames p o, readBack p n = p.field n := by
      intro n hn
      obtain ⟨m, hkey, hkeep⟩ := hkeeps ⟨n.key, reportedValue p n⟩
        (hreverts ▸ List.mem_map.mpr ⟨n, hn, rfl⟩)
      obtain rfl := PrefName.key_injective hkey
      exact (keeps_iff htags hdns hn).mp hkeep
    refine ⟨⟨htags, hdns, fun hn => ?_, fun hn => ?_⟩, rfl⟩
    · exact ((readBack_eq_iff (mem_revertedNames.mp hn).2.2).mp (hback _ hn)).1 rfl
    · exact ((readBack_eq_iff (mem_revertedNames.mp hn).2.2).mp (hback _ hn)).2 rfl
  · rintro ⟨hsound, rfl⟩
    refine ⟨(parse_adviceWords hmention).mpr ⟨⟨hsound.tags, hsound.dns⟩, rfl⟩,
      silent_of_sound hsound.tags hsound.dns, ?_⟩
    intro r hr
    rw [hreverts] at hr
    obtain ⟨n, hn, rfl⟩ := List.mem_map.mp hr
    refine ⟨n, rfl, (keeps_iff hsound.tags hsound.dns hn).mpr ?_⟩
    refine (readBack_eq_iff (mem_revertedNames.mp hn).2.2).mpr ⟨?_, ?_⟩
    · rintro rfl
      exact hsound.routes hn
    · rintro rfl
      exact hsound.operator hn

/-- The exit node of the whole line: the one it names, or the one put back. -/
theorem add_exitNode (p : Prefs) (o : UpOptions) :
    (o.add (upRequest (adviceArgs p (revertedNames p o)))).exitNode =
      o.exitNode.or (p.exitNode.map some) := by
  have hexit := exitNode_adviceArgs (p := p) (revertedNames_guarded p o) (revertedNames_nodup p o)
  have hfold : (o.add (upRequest (adviceArgs p (revertedNames p o)))).exitNode =
      (upRequest (adviceArgs p (revertedNames p o))).exitNode.or o.exitNode := rfl
  have hmem : .exitNode ∈ revertedNames p o ↔ o.exitNode = none ∧ p.exitNode ≠ none := by
    have hguarded : PrefName.exitNode ∈ guarded := by decide
    have hnames : o.names .exitNode = o.exitNode.isSome := rfl
    have hfield : p.field .exitNode = .text p.exitNode := rfl
    have hdefault : Prefs.default.field .exitNode = .text none := rfl
    rw [mem_revertedNames, hnames, hfield, hdefault]
    simp [hguarded]
  rw [hfold, hexit]
  cases hnamed : o.exitNode with
  | some sel => rw [if_neg fun h => absurd (hmem.mp h).1 (by simp [hnamed])]; rfl
  | none =>
    cases hstored : p.exitNode with
    | none => rw [if_neg fun h => (hmem.mp h).2 hstored]; rfl
    | some sel =>
      have hreported : reportedValue p .exitNode = sel := by
        rw [reportedValue, Prefs.field, hstored]
        rfl
      rw [if_pos (hmem.mpr ⟨hnamed, by simp [hstored]⟩), hreported]
      rfl

theorem add_exitNodeAllowLanAccess (p : Prefs) (o : UpOptions) :
    (o.add (upRequest (adviceArgs p (revertedNames p o)))).exitNodeAllowLanAccess =
      if .exitNodeAllowLanAccess ∈ revertedNames p o then some true
      else o.exitNodeAllowLanAccess := by
  have hpair := pair_adviceArgs (p := p) (n := .exitNodeAllowLanAccess)
    (revertedNames_guarded p o) (by decide) "no-exit-node-allow-lan-access" (by decide)
  have hfold : (o.add (upRequest (adviceArgs p (revertedNames p o)))).exitNodeAllowLanAccess =
      (pairOf (adviceArgs p (revertedNames p o)) (flagOf .exitNodeAllowLanAccess)
        "no-exit-node-allow-lan-access").or o.exitNodeAllowLanAccess := rfl
  rw [hfold, hpair]
  split <;> rfl

theorem upUsageRefusal_none_iff (o : UpOptions) :
    upUsageRefusal o = none ↔
      (o.exitNodeAllowLanAccess = some true →
        ∃ sel, trim sel ≠ "" ∧ o.exitNode = some (some sel)) := by
  unfold upUsageRefusal
  by_cases hlan : o.exitNodeAllowLanAccess = some true
  · cases hexit : o.exitNode with
    | none => simp [hlan]
    | some named =>
      cases named with
      | none => simp [hlan]
      | some sel => by_cases hblank : trim sel = "" <;> simp [hlan, hblank]
  · simp [hlan]

/-- `up` itself takes the whole line exactly when the LAN access has an exit node. -/
theorem upUsageRefusal_advice_iff (p : Prefs) (o : UpOptions) :
    upUsageRefusal (o.add (upRequest (adviceArgs p (revertedNames p o)))) = none ↔
      LanHasExit p o := by
  have hlan : (if .exitNodeAllowLanAccess ∈ revertedNames p o then some true
        else o.exitNodeAllowLanAccess) = some true ↔
      .exitNodeAllowLanAccess ∈ revertedNames p o ∨ o.exitNodeAllowLanAccess = some true := by
    split <;> simp_all
  have hexit : ∀ sel, o.exitNode.or (p.exitNode.map some) = some (some sel) ↔
      o.exitNode = some (some sel) ∨ o.exitNode = none ∧ p.exitNode = some sel := by
    intro sel
    cases o.exitNode with
    | some named => simp
    | none => cases p.exitNode <;> simp
  rw [upUsageRefusal_none_iff, add_exitNode, add_exitNodeAllowLanAccess, hlan, LanHasExit]
  simp only [hexit]

/-- The line has none of the flags that `up` carries to refuse them. -/
theorem checkPortedUpFlags_advice (p : Prefs) (o : UpOptions) :
    checkPortedUpFlags (adviceArgs p (revertedNames p o)) = none := by
  have habsent : ∀ long, (∀ n ∈ guarded, flagOf n ≠ long) →
      value? (adviceArgs p (revertedNames p o)) long = none := by
    intro long hlong
    rw [value?, values_of_not_has (not_has_adviceArgs (revertedNames_guarded p o) long hlong)]
    rfl
  rw [checkPortedUpFlags, habsent "host-routes" (by decide), habsent "nickname" (by decide)]
  rfl

/-- **The guard's advice works exactly on sound prefs.**  The words it prints are flags of `up`, and
    the options that go on with them pass the guard and keep what it reported, exactly when the
    advice is sound; `up` then also carries the line out exactly when an exit node comes with the
    LAN access. -/
theorem revert_advice_iff {p : Prefs} {o : UpOptions} (h : checkAccidentalReverts p o true ≠ []) :
    ((∃ args, Followed p o args) ↔ AdviceSound p o) ∧
      ((∃ args, Followed p o args ∧ checkPortedUpFlags args = none ∧
          upUsageRefusal (o.add (upRequest args)) = none) ↔
        AdviceSound p o ∧ LanHasExit p o) := by
  have hfollowed := fun args => @followed_iff p o h args
  constructor
  · constructor
    · rintro ⟨args, hargs⟩
      exact ((hfollowed args).mp hargs).1
    · exact fun hsound => ⟨_, (hfollowed _).mpr ⟨hsound, rfl⟩⟩
  · constructor
    · rintro ⟨args, hargs, -, hrefusal⟩
      obtain ⟨hsound, rfl⟩ := (hfollowed args).mp hargs
      exact ⟨hsound, (upUsageRefusal_advice_iff p o).mp hrefusal⟩
    · rintro ⟨hsound, hlan⟩
      exact ⟨_, (hfollowed _).mpr ⟨hsound, rfl⟩, checkPortedUpFlags_advice p o,
        (upUsageRefusal_advice_iff p o).mpr hlan⟩

/-- A node with a hostname and routes, and an `up` that mentions neither. -/
theorem revert_advice_iff_routes :
    let p := { Prefs.default with hostname := some "node-a", advertiseRoutes := ["10.0.0.0/8"] }
    let o := { acceptRoutes := some true : UpOptions }
    checkAccidentalReverts p o true ≠ [] ∧
      ((∃ args, Followed p o args) ↔ AdviceSound p o) ∧
      ((∃ args, Followed p o args ∧ checkPortedUpFlags args = none ∧
          upUsageRefusal (o.add (upRequest args)) = none) ↔
        AdviceSound p o ∧ LanHasExit p o) :=
  ⟨by decide, revert_advice_iff (by decide)⟩

/-- A node with a tag, and an `up` that does not mention it: the word printed for it is unknown. -/
theorem tagged_advice_unknown :
    let p := { Prefs.default with advertiseTags := ["tag:ci"] }
    let o := { acceptRoutes := some true : UpOptions }
    adviceWords (checkAccidentalReverts p o true) = ["--advertise_tags=tag:ci"] ∧
      ¬ ∃ args, Followed p o args := by
  refine ⟨by decide, ?_⟩
  rintro ⟨args, hparse, -⟩
  have hrefused : parse upFlags ["--advertise_tags=tag:ci"] =
      .error (.unknown "--advertise_tags=tag:ci") := by decide
  rw [show adviceWords _ = ["--advertise_tags=tag:ci"] by decide, hrefused] at hparse
  cases hparse

end Tailnetd
