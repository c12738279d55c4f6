/-
  What the daemon reads off the host's network (`ipn/linkmon.rs`, `ipforward.rs`).

  1. **Program** — three questions about the rows of one enumeration, one row for each address:
     which addresses make the path the engine's sockets are bound to (`isPathRelevant`, diffed by
     the link monitor), whether any interface could reach the Internet (`anyInterfaceUpFrom`), and
     whether the kernel forwards what the node advertises (`ipForwardingBroken`).

  2. **Specification** — each answer in terms of what rows there are, not of their order: the
     symmetric difference of two readings (`link_monitor_rebinds`); one usable address on one
     interface that is up and not the tailnet's (`any_interface_up_iff`); an IPv4 route that leaves
     the host, global flags that are not both set, and an interface flag that is not set
     (`ForwardingOff`, `ip_forwarding_broken_iff`).

  3. **The crux** — the rows are regrouped by the interface's name first, because up-ness and the
     identity of a tunnel belong to the interface; what a name has gathered is the fold over its own
     rows (`SortedMap.get?_accumulate`), so the regrouped question is one about the rows again.
-/
import Mathlib.Data.Finset.Dedup
import Mathlib.Data.Finset.SymmDiff
import Mathlib.Data.String.Basic
import Tailnetd.Checks
import Tailnetd.HttpProxy
import Tailnetd.Lib.Radix
import Tailnetd.Lib.SortedMap

namespace Tailnetd.HostNetwork

/-! ## Addresses -/

/-- `Ipv4Addr::is_loopback`, `Ipv6Addr::is_loopback`. -/
def isLoopback : IpAddr → Bool
  | .v4 octets => octets.getD 0 0 == 127
  | .v6 groups => groups == [0, 0, 0, 0, 0, 0, 0, 1]

/-- `Ipv4Addr::is_link_local`. -/
def isLinkLocalV4 (octets : List Nat) : Bool := octets.getD 0 0 == 169 && octets.getD 1 0 == 254

/-- `is_tailnet_v4`. -/
def isTailnetV4 (octets : List Nat) : Bool :=
  octets.getD 0 0 == 100 && (octets.getD 1 0 &&& 0xc0) == 0x40

/-- `is_tailnet_v6`. -/
def isTailnetV6 (groups : List Nat) : Bool :=
  groups.getD 0 0 == 0xfd7a && groups.getD 1 0 == 0x115c && groups.getD 2 0 == 0xa1e0

/-- `is_path_relevant`. -/
def isPathRelevant (addr : IpAddr) : Bool :=
  if isLoopback addr then false
  else
    match addr with
    | .v6 groups => !((groups.getD 0 0 &&& 0xffc0) == 0xfe80) && !isTailnetV6 groups
    | .v4 octets => !isTailnetV4 octets

/-- `is_tailscale_ip`. -/
def isTailscaleIp : IpAddr → Bool
  | .v4 octets => isTailnetV4 octets
  | .v6 groups => isTailnetV6 groups

/-- `is_usable_v4`. -/
def isUsableV4 : IpAddr → Bool
  | .v4 octets => !isLoopback (.v4 octets) && !isLinkLocalV4 octets
  | .v6 _ => false

/-- `is_usable_v6`. -/
def isUsableV6 : IpAddr → Bool
  | .v6 groups =>
    let globalUnicast := (groups.getD 0 0 &&& 0xe000) == 0x2000
    let ula := (groups.getD 0 0 &&& 0xfe00) == 0xfc00
    globalUnicast || (ula && !isTailnetV6 groups)
  | .v4 _ => false

/-! ## The link monitor -/

/-- `LinkSnapshot`. -/
structure LinkSnapshot where
  addrs : Finset IpAddr
  deriving DecidableEq

namespace LinkSnapshot

/-- `from_addrs`. -/
def fromAddrs (addrs : List IpAddr) : LinkSnapshot := ⟨(addrs.filter isPathRelevant).toFinset⟩

/-- `changed`. -/
def changed (self other : LinkSnapshot) : Bool := self.addrs ≠ other.addrs

end LinkSnapshot

/-- `snapshot`: the enumeration, or why it failed. -/
def snapshot : Except String (List IpAddr) → LinkSnapshot
  | .ok addrs => .fromAddrs addrs
  | .error _ => ⟨∅⟩

/-- What one turn of the monitor's loop meets: the enumeration, and the answer of the engine if it
    is told to rebind. -/
structure Poll where
  ifaces : Except String (List IpAddr)
  rebind : Except String Unit

/-- One turn of `link_monitor_loop`: whether it rebinds, and what it remembers. -/
def linkMonitorTurn (last : LinkSnapshot) (poll : Poll) : Bool × LinkSnapshot :=
  let now := snapshot poll.ifaces
  if last.changed now then
    match poll.rebind with
    | .ok () => (true, now)
    -- logged, and remembered as if it had worked
    | .error _ => (true, now)
  else (false, last)

/-- `link_monitor_loop`: for each poll whether it rebinds. -/
def linkMonitorLoop (last : LinkSnapshot) : List Poll → List Bool
  | [] => []
  | poll :: polls =>
    (linkMonitorTurn last poll).1 :: linkMonitorLoop (linkMonitorTurn last poll).2 polls

/-- The monitor from its start on. -/
def linkMonitor (start : Except String (List IpAddr)) (polls : List Poll) : List Bool :=
  linkMonitorLoop (snapshot start) polls

/-- The path's addresses in a reading; one that failed has none. -/
def Relevant (ifaces : Except String (List IpAddr)) (addr : IpAddr) : Prop :=
  ∃ addrs, ifaces = .ok addrs ∧ addr ∈ addrs ∧ isPathRelevant addr = true

theorem mem_snapshot {ifaces : Except String (List IpAddr)} {addr : IpAddr} :
    addr ∈ (snapshot ifaces).addrs ↔ Relevant ifaces addr := by
  cases ifaces with
  | error e => exact iff_of_false (Finset.notMem_empty _) fun ⟨_, h, _⟩ => (by cases h)
  | ok addrs => simp [snapshot, LinkSnapshot.fromAddrs, Relevant]

/-- One turn: a rebind is a change, and the reading is remembered in either case. -/
theorem linkMonitorTurn_eq (last : LinkSnapshot) (poll : Poll) :
    linkMonitorTurn last poll =
      (last.changed (snapshot poll.ifaces), snapshot poll.ifaces) := by
  unfold linkMonitorTurn
  dsimp only
  by_cases hchanged : last.changed (snapshot poll.ifaces) = true
  · rw [if_pos hchanged, hchanged]
    cases poll.rebind <;> rfl
  · rw [if_neg hchanged, Bool.eq_false_iff.mpr hchanged]
    have hsame : last.addrs = (snapshot poll.ifaces).addrs := by
      simpa [LinkSnapshot.changed] using hchanged
    cases last
    exact congrArg (fun addrs => (false, LinkSnapshot.mk addrs)) hsame

/-- The loop compares each reading with the one before it. -/
theorem linkMonitorLoop_eq (last : LinkSnapshot) (polls : List Poll) :
    linkMonitorLoop last polls =
      List.zipWith LinkSnapshot.changed (last :: polls.map fun poll => snapshot poll.ifaces)
        (polls.map fun poll => snapshot poll.ifaces) := by
  induction polls generalizing last with
  | nil => rfl
  | cons poll polls ih =>
    rw [linkMonitorLoop, linkMonitorTurn_eq, ih]
    rfl

/-- Two readings differ where one has an address of the path and the other has not. -/
theorem changed_iff {before now : Except String (List IpAddr)} :
    (snapshot before).changed (snapshot now) = true ↔
      ∃ addr, ¬ (Relevant before addr ↔ Relevant now addr) := by
  unfold LinkSnapshot.changed
  rw [decide_eq_true_iff, ne_eq, Finset.ext_iff, not_forall]
  exact exists_congr fun addr => by rw [mem_snapshot, mem_snapshot]

/-- **The monitor rebinds at a poll exactly if the path is another than at the poll before**,
    whatever became of the rebinds so far. -/
theorem link_monitor_rebinds (start : Except String (List IpAddr)) (polls : List Poll) :
    (linkMonitor start polls).length = polls.length ∧
      ∀ (n : Nat) (poll : Poll) (before : Except String (List IpAddr)), polls[n]? = some poll →
        (start :: polls.map Poll.ifaces)[n]? = some before →
        ((linkMonitor start polls)[n]? = some true ↔
          ∃ addr, ¬ (Relevant before addr ↔ Relevant poll.ifaces addr)) := by
  have hreadings : snapshot start :: polls.map (fun poll => snapshot poll.ifaces) =
      (start :: polls.map Poll.ifaces).map snapshot := by
    rw [List.map_cons, List.map_map]
    rfl
  unfold linkMonitor
  rw [linkMonitorLoop_eq, hreadings]
  refine ⟨by simp, fun n poll before hpoll hbefore => ?_⟩
  rw [List.getElem?_zipWith, List.getElem?_map, List.getElem?_map, hpoll, hbefore]
  exact (by simp : _ ↔ _).trans changed_iff

/-- A laptop that leaves its network, with an engine that cannot rebind. -/
def roamed : List Poll :=
  [⟨.ok [.v4 [192, 0, 2, 5], .v4 [100, 64, 0, 7]], .ok ()⟩,
    ⟨.ok [.v4 [198, 51, 100, 5]], .error "no sockets"⟩, ⟨.ok [.v4 [198, 51, 100, 5]], .ok ()⟩]

/-- The address it left is in the reading before only. -/
theorem link_monitor_rebinds_roamed :
    (linkMonitor (.ok [.v4 [192, 0, 2, 5]]) roamed)[1]? = some true :=
  ((link_monitor_rebinds (.ok [.v4 [192, 0, 2, 5]]) roamed).2 1 _ _ rfl rfl).mpr
    ⟨.v4 [192, 0, 2, 5], fun h => by
      obtain ⟨addrs, haddrs, hmem, -⟩ :=
        h.mp ⟨[.v4 [192, 0, 2, 5], .v4 [100, 64, 0, 7]], rfl, by simp, by decide⟩
      cases haddrs
      simp at hmem⟩

/-! ## Whether any interface is up -/

/-- `InterfaceAddr`, as far as it is read here. -/
structure InterfaceAddr where
  name : String
  ip : IpAddr
  operUp : Bool
  deriving DecidableEq, Repr

/-- `is_tailscale_interface`; `darwin` is whether the target is macOS or iOS. -/
def isTailscaleInterface (darwin : Bool) (name : String) (ips : List IpAddr) : Bool :=
  if darwin && startsWith "utun" name && ips.any isTailscaleIp then true
  else name == "Tailscale" || startsWith "tailscale" name

/-- `any_interface_up_from`. -/
def anyInterfaceUpFrom (darwin : Bool) (addrs : List InterfaceAddr) : Bool :=
  let ifaces : SortedMap String (Bool × List IpAddr) :=
    .accumulate InterfaceAddr.name (false, [])
      (fun entry addr => (entry.1 || addr.operUp, entry.2 ++ [addr.ip])) addrs
  ifaces.entries.any fun (name, (up, ips)) =>
    up && !isTailscaleInterface darwin name ips && ips.any fun ip => isUsableV4 ip || isUsableV6 ip

/-- What an interface has gathered. -/
theorem foldl_rows (rows : List InterfaceAddr) (entry : Bool × List IpAddr) :
    rows.foldl (fun entry addr => (entry.1 || addr.operUp, entry.2 ++ [addr.ip])) entry =
      (entry.1 || rows.any InterfaceAddr.operUp, entry.2 ++ rows.map InterfaceAddr.ip) := by
  induction rows generalizing entry with
  | nil => simp
  | cons row rows ih =>
    rw [List.foldl_cons, ih, List.any_cons, List.map_cons, Bool.or_assoc, List.append_assoc]
    rfl

/-- The tailnet's own interface, among the rows of an enumeration. -/
def Tailnets (darwin : Bool) (addrs : List InterfaceAddr) (name : String) : Prop :=
  name = "Tailscale" ∨ startsWith "tailscale" name = true ∨
    darwin = true ∧ startsWith "utun" name = true ∧
      ∃ row ∈ addrs, row.name = name ∧ isTailscaleIp row.ip = true

theorem isTailscaleInterface_iff {darwin : Bool} {addrs : List InterfaceAddr} {name : String} :
    isTailscaleInterface darwin name
        ((addrs.filter fun row => row.name = name).map InterfaceAddr.ip) = true ↔
      Tailnets darwin addrs name := by
  have hips : ((addrs.filter fun row => row.name = name).map InterfaceAddr.ip).any isTailscaleIp =
      true ↔ ∃ row ∈ addrs, row.name = name ∧ isTailscaleIp row.ip = true := by
    simp only [List.any_eq_true, List.mem_map, List.mem_filter, decide_eq_true_iff]
    constructor
    · rintro ⟨_, ⟨row, ⟨hrow, hname⟩, rfl⟩, hip⟩
      exact ⟨row, hrow, hname, hip⟩
    · rintro ⟨row, hrow, hname, hip⟩
      exact ⟨row.ip, ⟨row, ⟨hrow, hname⟩, rfl⟩, hip⟩
  unfold isTailscaleInterface Tailnets
  split
  · rename_i htun
    rw [Bool.and_eq_true, Bool.and_eq_true, hips] at htun
    exact iff_of_true rfl (.inr (.inr ⟨htun.1.1, htun.1.2, htun.2⟩))
  · rename_i htun
    rw [Bool.and_eq_true, Bool.and_eq_true, hips] at htun
    rw [Bool.or_eq_true, beq_iff_eq]
    constructor
    · rintro (h | h)
      · exact .inl h
      · exact .inr (.inl h)
    · rintro (h | h | ⟨hdarwin, hutun, hip⟩)
      · exact .inl h
      · exact .inr h
      · exact absurd ⟨⟨hdarwin, hutun⟩, hip⟩ htun

/-- **A host is up if one usable address sits on an interface that is up and is not the tailnet's
    own**, in whatever order the rows come. -/
theorem any_interface_up_iff {darwin : Bool} {addrs : List InterfaceAddr} :
    anyInterfaceUpFrom darwin addrs = true ↔
      ∃ row ∈ addrs, (isUsableV4 row.ip || isUsableV6 row.ip) = true ∧
        (∃ up ∈ addrs, up.name = row.name ∧ up.operUp = true) ∧
        ¬ Tailnets darwin addrs row.name := by
  unfold anyInterfaceUpFrom
  dsimp only
  rw [List.any_eq_true]
  constructor
  · rintro ⟨⟨name, up, ips⟩, hentry, htest⟩
    have hget := SortedMap.get?_eq_some_iff.mpr hentry
    rw [SortedMap.get?_accumulate] at hget
    split at hget
    · rw [foldl_rows] at hget
      obtain ⟨rfl, rfl⟩ := Prod.ext_iff.mp (Option.some.inj hget)
      simp only [Bool.false_or, List.nil_append, Bool.and_eq_true, Bool.not_eq_true'] at htest
      obtain ⟨⟨hup, hown⟩, husable⟩ := htest
      obtain ⟨ip, hip, hpath⟩ := List.any_eq_true.mp husable
      obtain ⟨row, hgathered, rfl⟩ := List.mem_map.mp hip
      obtain ⟨hrow, hname⟩ := List.mem_filter.mp hgathered
      obtain rfl := of_decide_eq_true hname
      obtain ⟨other, hmine, hoper⟩ := List.any_eq_true.mp hup
      obtain ⟨hother, hsame⟩ := List.mem_filter.mp hmine
      refine ⟨row, hrow, hpath, ⟨other, hother, of_decide_eq_true hsame, hoper⟩, ?_⟩
      rw [← isTailscaleInterface_iff, hown]
      exact Bool.false_ne_true
    · cases hget
  · rintro ⟨row, hrow, husable, ⟨other, hother, hsame, hup⟩, hown⟩
    have hmine (r : InterfaceAddr) (hr : r ∈ addrs) (hname : r.name = row.name) :
        r ∈ addrs.filter fun r => r.name = row.name :=
      List.mem_filter.mpr ⟨hr, decide_eq_true hname⟩
    refine ⟨(row.name, ((addrs.filter fun r => r.name = row.name).any InterfaceAddr.operUp,
      (addrs.filter fun r => r.name = row.name).map InterfaceAddr.ip)), ?_, ?_⟩
    · rw [← SortedMap.get?_eq_some_iff, SortedMap.get?_accumulate,
        if_pos (List.mem_map.mpr ⟨row, hrow, rfl⟩), foldl_rows, Bool.false_or, List.nil_append]
    · rw [← isTailscaleInterface_iff, Bool.not_eq_true] at hown
      rw [hown, Bool.not_false, Bool.and_true, Bool.and_eq_true]
      exact ⟨List.any_eq_true.mpr ⟨other, hmine other hother hsame, hup⟩,
        List.any_eq_true.mpr ⟨row.ip, List.mem_map.mpr ⟨row, hmine row hrow rfl, rfl⟩, husable⟩⟩

/-! ## Whether the kernel forwards -/

/-- `Protocol`. -/
inductive Protocol where
  | v4 | v6
  deriving DecidableEq, Repr

/-- `ip_forward_sysctl_key`. -/
def ipForwardSysctlKey (p : Protocol) (iface : String) : String :=
  if iface = "" then
    match p with
    | .v4 => "net/ipv4/ip_forward"
    | .v6 => "net/ipv6/conf/all/forwarding"
  else
    match p with
    | .v4 => "net/ipv4/conf/" ++ iface ++ "/forwarding"
    | .v6 => "net/ipv6/conf/" ++ iface ++ "/forwarding"

/-- `IntErrorKind`, as `str::parse::<i32>` fails. -/
inductive IntError where
  | empty | invalidDigit | posOverflow | negOverflow
  deriving DecidableEq, Repr

/-- `Display`. -/
def IntError.toText : IntError → String
  | empty => "cannot parse integer from empty string"
  | invalidDigit => "invalid digit found in string"
  | posOverflow => "number too large to fit in target type"
  | negOverflow => "number too small to fit in target type"

/-- The digits of an `i32` behind what was read of it; `sign` is 1 or -1. -/
def readI32Digits (sign : Int) (overflow : IntError) : Int → List Char → Except IntError Int
  | n, [] => .ok n
  | n, c :: rest =>
    match Radix.digit? 10 c with
    | none => .error .invalidDigit
    | some d =>
      let next := n * 10 + sign * d
      if -2 ^ 31 ≤ next ∧ next < 2 ^ 31 then readI32Digits sign overflow next rest
      else .error overflow

/-- `str::parse::<i32>`. -/
def parseI32 : List Char → Except IntError Int
  | [] => .error .empty
  | [c] => readI32Digits 1 .posOverflow 0 [c]
  | '+' :: rest => readI32Digits 1 .posOverflow 0 rest
  | '-' :: rest => readI32Digits (-1) .negOverflow 0 rest
  | c :: rest => readI32Digits 1 .posOverflow 0 (c :: rest)

example : parseI32 "-2147483648".toList = .ok (-2147483648) := by decide
example : parseI32 "2147483648".toList = .error .posOverflow := by decide
example : parseI32 "+".toList = .error .invalidDigit := by decide

/-- Why a file could not be read. -/
inductive ReadError where
  | notFound
  | other (text : String)
  deriving DecidableEq, Repr

/-- The files below `/proc/sys`, and what `metadata` says of that directory itself. -/
structure ProcFs where
  read : String → Except ReadError (List UInt8)
  isDir : Except String Bool

/-- `ip_forwarding_enabled_linux`. -/
def ipForwardingEnabledLinux (fs : ProcFs) (p : Protocol) (iface : String) : Except String Bool :=
  let key := ipForwardSysctlKey p iface
  if '/' ∈ iface.toList ∨ iface = "." ∨ iface = ".." then
    .error ("invalid interface name " ++ quoted iface)
  else
    match fs.read ("/proc/sys/" ++ key) with
    | .error .notFound =>
      match fs.isDir with
      | .error e => .error ("failed to check sysctl " ++ key ++ "; no procfs? " ++ e)
      | .ok false =>
        .error ("failed to check sysctl " ++ key ++ "; /proc/sys isn't a directory")
      | .ok true => .ok false
    | .error (.other e) => .error e
    | .ok bytes =>
      match parseI32 (trim (String.ofList (fromUtf8Lossy bytes))).toList with
      | .error e => .error ("couldn't parse " ++ key ++ ": " ++ e.toText)
      | .ok val =>
        if 0 ≤ val ∧ val ≤ 2 then .ok (val == 1 || val == 2)
        else .error ("unexpected value " ++ toString val ++ " for " ++ key)

/-- `IpNet::max_prefix_len`. -/
def maxPrefixLen (net : IpNet) : Nat :=
  match net.addr with
  | .v4 _ => 32
  | .v6 _ => 128

/-- `IpAddr::is_ipv4`. -/
def isIpv4 : IpAddr → Bool
  | .v4 _ => true
  | .v6 _ => false

/-- `protocols_required_for_forwarding`: IPv4 and IPv6. -/
def protocolsRequiredForForwarding (routes : List IpNet) (interfaceIps : List (String × IpAddr)) :
    Bool × Bool :=
  routes.foldl
    (fun (v4, v6) r =>
      let singleIp := r.prefixLen == maxPrefixLen r
      if singleIp && interfaceIps.any fun (_, ip) => ip == r.addr then (v4, v6)
      else if isIpv4 r.addr then (true, v6)
      else (v4, true))
    (false, false)

/-- The loop over the interfaces: whether any flag is set and whether there is something to warn
    of, or `none` at the first flag that cannot be read. -/
def interfacesForward (read : String → Except String Bool) :
    List String → Bool → Bool → Option (Bool × Bool)
  | [], anyEnabled, warnings => some (anyEnabled, warnings)
  | name :: names, anyEnabled, warnings =>
    if name = "lo" then interfacesForward read names anyEnabled warnings
    else
      match read name with
      | .error _ => none
      | .ok false => interfacesForward read names anyEnabled true
      | .ok true => interfacesForward read names true warnings

/-- The names of the interfaces, each once and in order. -/
def interfaceNames (interfaceIps : List (String × IpAddr)) : List String :=
  (SortedMap.accumulate Prod.fst () (fun _ _ => ()) interfaceIps).entries.map Prod.fst

/-- `ip_forwarding_broken_linux`. -/
def ipForwardingBrokenLinux (routes : List IpNet) (interfaceIps : List (String × IpAddr))
    (read : Protocol → String → Except String Bool) : Bool :=
  let (wantV4, wantV6) := protocolsRequiredForForwarding routes interfaceIps
  if !wantV4 && !wantV6 then false
  else
    match read .v4 "", read .v6 "" with
    | .ok v4e, .ok v6e =>
      if v4e && v6e then false
      else if !wantV4 then false
      else
        match interfacesForward (read .v4) (interfaceNames interfaceIps) false (wantV6 && !v6e) with
        | none => false
        | some (anyEnabled, warnings) => !anyEnabled || warnings
    | _, _ => false

/-- What the target decides. -/
inductive TargetOs where
  | linux | bsd | other
  deriving DecidableEq, Repr

/-- `ip_forwarding_broken_os`. -/
def ipForwardingBrokenOs (target : TargetOs) (fs : ProcFs) (routes : List IpNet)
    (interfaceIps : Except String (List (String × IpAddr))) : Bool :=
  match target with
  | .linux =>
    match interfaceIps with
    | .ok ips => ipForwardingBrokenLinux routes ips (ipForwardingEnabledLinux fs)
    | .error _ => false
  | .bsd => true
  | .other => false

/-- `ip_forwarding_broken`. -/
def ipForwardingBroken (target : TargetOs) (fs : ProcFs) (tunEnabled : Bool) (routes : List IpNet)
    (interfaceIps : Except String (List (String × IpAddr))) : Bool :=
  if !tunEnabled || routes.isEmpty then false
  else ipForwardingBrokenOs target fs routes interfaceIps

/-! ### What it amounts to -/

/-- A route needs to be forwarded unless it is one of the host's own addresses. -/
def NeedsForwarding (interfaceIps : List (String × IpAddr)) (r : IpNet) : Prop :=
  ¬ (r.prefixLen = maxPrefixLen r ∧ ∃ name, (name, r.addr) ∈ interfaceIps)

/-- A host that will not forward what its node advertises, as its flags say. -/
structure ForwardingOff (routes : List IpNet) (interfaceIps : List (String × IpAddr))
    (read : Protocol → String → Except String Bool) : Prop where
  /-- Some IPv4 route leaves the host. -/
  route : ∃ r ∈ routes, isIpv4 r.addr = true ∧ NeedsForwarding interfaceIps r
  /-- Every flag that is asked for can be read. -/
  readable : ∀ name ip, (name, ip) ∈ interfaceIps → name ≠ "lo" → ∃ b, read .v4 name = .ok b
  /-- The global flags can be read and one of them is not set; then it is the IPv6 flag of a node
      that advertises an IPv6 route as well, or some interface's flag, or there is no flag set. -/
  off : ∃ v4e v6e, read .v4 "" = .ok v4e ∧ read .v6 "" = .ok v6e ∧ (v4e && v6e) = false ∧
    ((v6e = false ∧ ∃ r ∈ routes, isIpv4 r.addr = false ∧ NeedsForwarding interfaceIps r) ∨
      (∃ name ip, (name, ip) ∈ interfaceIps ∧ name ≠ "lo" ∧ read .v4 name = .ok false) ∨
      ∀ name ip, (name, ip) ∈ interfaceIps → name ≠ "lo" → read .v4 name ≠ .ok true)

/-- Which families some route needs. -/
theorem protocolsRequired_iff (routes : List IpNet) (interfaceIps : List (String × IpAddr)) :
    ((protocolsRequiredForForwarding routes interfaceIps).1 = true ↔
        ∃ r ∈ routes, isIpv4 r.addr = true ∧ NeedsForwarding interfaceIps r) ∧
      ((protocolsRequiredForForwarding routes interfaceIps).2 = true ↔
        ∃ r ∈ routes, isIpv4 r.addr = false ∧ NeedsForwarding interfaceIps r) := by
  have hown (r : IpNet) :
      (r.prefixLen == maxPrefixLen r && interfaceIps.any fun (_, ip) => ip == r.addr) = true ↔
        ¬ NeedsForwarding interfaceIps r := by
    unfold NeedsForwarding
    rw [not_not, Bool.and_eq_true, beq_iff_eq, List.any_eq_true]
    refine and_congr_right fun _ => ⟨?_, ?_⟩
    · rintro ⟨⟨name, ip⟩, hmem, heq⟩
      exact ⟨name, beq_iff_eq.mp heq ▸ hmem⟩
    · rintro ⟨name, hmem⟩
      exact ⟨(name, r.addr), hmem, beq_self_eq_true _⟩
  unfold protocolsRequiredForForwarding
  induction routes using List.reverseRecOn with
  | nil => simp
  | append_singleton routes r ih =>
    rw [List.foldl_append, List.foldl_cons, List.foldl_nil]
    simp only [List.mem_append, List.mem_singleton, or_and_right, exists_or, exists_eq_left]
    by_cases hneeds : NeedsForwarding interfaceIps r
    · rw [if_neg fun h => (hown r).mp h hneeds]
      cases hfamily : isIpv4 r.addr
      · exact ⟨by simpa [hfamily] using ih.1, by simp [hneeds]⟩
      · exact ⟨by simp [hneeds], by simpa [hfamily] using ih.2⟩
    · rw [if_pos ((hown r).mpr hneeds)]
      exact ⟨by simpa [hneeds] using ih.1, by simpa [hneeds] using ih.2⟩

theorem mem_interfaceNames {interfaceIps : List (String × IpAddr)} {name : String} :
    name ∈ interfaceNames interfaceIps ↔ ∃ ip, (name, ip) ∈ interfaceIps := by
  unfold interfaceNames
  rw [List.mem_map]
  constructor
  · rintro ⟨⟨k, u⟩, hentry, rfl⟩
    have hget := SortedMap.get?_eq_some_iff.mpr hentry
    rw [SortedMap.get?_accumulate] at hget
    split at hget
    · rename_i hkey
      obtain ⟨⟨name, ip⟩, hrow, rfl⟩ := List.mem_map.mp hkey
      exact ⟨ip, hrow⟩
    · cases hget
  · rintro ⟨ip, hrow⟩
    refine ⟨(name, ()), SortedMap.get?_eq_some_iff.mp ?_, rfl⟩
    rw [SortedMap.get?_accumulate, if_pos (List.mem_map.mpr ⟨(name, ip), hrow, rfl⟩)]

/-- **The loop over the interfaces**: it ends with every flag read, having seen what there is. -/
theorem interfacesForward_eq_some_iff {read : String → Except String Bool} {names : List String}
    {anyEnabled warnings : Bool} {st : Bool × Bool} :
    interfacesForward read names anyEnabled warnings = some st ↔
      (∀ name ∈ names, name ≠ "lo" → ∃ b, read name = .ok b) ∧
        (st.1 = true ↔ anyEnabled = true ∨ ∃ name ∈ names, name ≠ "lo" ∧ read name = .ok true) ∧
        (st.2 = true ↔ warnings = true ∨ ∃ name ∈ names, name ≠ "lo" ∧ read name = .ok false) := by
  induction names generalizing anyEnabled warnings with
  | nil =>
    rw [interfacesForward, Option.some.injEq]
    constructor
    · rintro rfl
      simp
    · rintro ⟨-, hany, hwarn⟩
      simp only [List.not_mem_nil, false_and, exists_false, or_false] at hany hwarn
      exact Prod.ext (Bool.eq_iff_iff.mpr hany).symm (Bool.eq_iff_iff.mpr hwarn).symm
  | cons name names ih =>
    unfold interfacesForward
    by_cases hlo : name = "lo"
    · rw [if_pos hlo, ih]
      simp [hlo]
    · rw [if_neg hlo]
      cases hread : read name with
      | error e =>
        refine iff_of_false nofun fun ⟨hall, _⟩ => ?_
        obtain ⟨b, hb⟩ := hall name List.mem_cons_self hlo
        rw [hread] at hb
        cases hb
      | ok b =>
        cases b <;> simp [ih, hlo, hread]

theorem exists_interfacesForward {read : String → Except String Bool} {names : List String}
    (h : ∀ name ∈ names, name ≠ "lo" → ∃ b, read name = .ok b) (anyEnabled warnings : Bool) :
    ∃ st, interfacesForward read names anyEnabled warnings = some st := by
  classical
  exact ⟨(decide _, decide _),
    interfacesForward_eq_some_iff.mpr ⟨h, decide_eq_true_iff, decide_eq_true_iff⟩⟩

/-- The Linux check finds what there is to find. -/
theorem ipForwardingBrokenLinux_iff {routes : List IpNet} {interfaceIps : List (String × IpAddr)}
    {read : Protocol → String → Except String Bool} :
    ipForwardingBrokenLinux routes interfaceIps read = true ↔
      ForwardingOff routes interfaceIps read := by
  obtain ⟨hv4, hv6⟩ := protocolsRequired_iff routes interfaceIps
  unfold ipForwardingBrokenLinux
  generalize hwant : protocolsRequiredForForwarding routes interfaceIps = want at hv4 hv6 ⊢
  obtain ⟨wantV4, wantV6⟩ := want
  dsimp only at hv4 hv6 ⊢
  constructor
  · intro h
    split at h
    · cases h
    · split at h
      · rename_i v4e v6e hread4 hread6
        split at h
        · cases h
        · rename_i hflags
          split at h
          · cases h
          · rename_i hwant4
            split at h
            · cases h
            · rename_i anyEnabled warnings hloop
              obtain ⟨hread, hany, hwarn⟩ := interfacesForward_eq_some_iff.mp hloop
              dsimp only at hany hwarn
              refine ⟨hv4.mp (by simpa using hwant4),
                fun name ip hmem hlo => hread name (mem_interfaceNames.mpr ⟨ip, hmem⟩) hlo,
                v4e, v6e, hread4, hread6, Bool.not_eq_true _ ▸ hflags, ?_⟩
              rw [Bool.or_eq_true, Bool.not_eq_true'] at h
              rcases h with h | h
              · refine .inr (.inr fun name ip hmem hlo hset => ?_)
                rw [hany.mpr (.inr ⟨name, mem_interfaceNames.mpr ⟨ip, hmem⟩, hlo, hset⟩)] at h
                cases h
              · rcases hwarn.mp h with hglobal | ⟨name, hname, hlo, hunset⟩
                · rw [Bool.and_eq_true, Bool.not_eq_true'] at hglobal
                  exact .inl ⟨hglobal.2, hv6.mp hglobal.1⟩
                · obtain ⟨ip, hmem⟩ := mem_interfaceNames.mp hname
                  exact .inr (.inl ⟨name, ip, hmem, hlo, hunset⟩)
      · cases h
  · rintro ⟨hroute, hread, v4e, v6e, hread4, hread6, hflags, hoff⟩
    rw [hv4.mpr hroute, hread4, hread6]
    dsimp only
    rw [Bool.not_true, Bool.false_and, if_neg Bool.false_ne_true, hflags,
      if_neg Bool.false_ne_true, if_neg Bool.false_ne_true]
    obtain ⟨⟨anyEnabled, warnings⟩, hloop⟩ := @exists_interfacesForward (read .v4)
      (interfaceNames interfaceIps) (fun name hname hlo => by
        obtain ⟨ip, hmem⟩ := mem_interfaceNames.mp hname
        exact hread name ip hmem hlo) false (wantV6 && !v6e)
    rw [hloop]
    obtain ⟨-, hany, hwarn⟩ := interfacesForward_eq_some_iff.mp hloop
    dsimp only at hany hwarn ⊢
    rw [Bool.or_eq_true, Bool.not_eq_true']
    rcases hoff with ⟨hoff6, hroute6⟩ | ⟨name, ip, hmem, hlo, hunset⟩ | hnone
    · refine .inr (hwarn.mpr (.inl ?_))
      rw [hv6.mpr hroute6, hoff6]
      rfl
    · exact .inr (hwarn.mpr (.inr ⟨name, mem_interfaceNames.mpr ⟨ip, hmem⟩, hlo, hunset⟩))
    · refine .inl (Bool.eq_false_iff.mpr fun hset => ?_)
      rcases hany.mp hset with hfalse | ⟨name, hname, hlo, hset⟩
      · cases hfalse
      · obtain ⟨ip, hmem⟩ := mem_interfaceNames.mp hname
        exact hnone name ip hmem hlo hset

/-- **When the `ip-forwarding-off` check fails**: on a kernel interface, with routes, on a BSD or
    on a Linux whose flags are off; the order of the rows and of the routes plays no part, and what
    cannot be read is taken for healthy. -/
theorem ip_forwarding_broken_iff {target : TargetOs} {fs : ProcFs} {tunEnabled : Bool}
    {routes : List IpNet} {interfaceIps : Except String (List (String × IpAddr))} :
    ipForwardingBroken target fs tunEnabled routes interfaceIps = true ↔
      tunEnabled = true ∧ routes ≠ [] ∧
        (target = .bsd ∨ target = .linux ∧ ∃ ips, interfaceIps = .ok ips ∧
          ForwardingOff routes ips (ipForwardingEnabledLinux fs)) := by
  unfold ipForwardingBroken
  by_cases hidle : (!tunEnabled || routes.isEmpty) = true
  · rw [if_pos hidle]
    refine iff_of_false Bool.false_ne_true fun ⟨htun, hroutes, _⟩ => ?_
    rw [htun, Bool.not_true, Bool.false_or, List.isEmpty_iff] at hidle
    exact hroutes hidle
  · rw [if_neg hidle]
    obtain ⟨htun, hroutes⟩ : tunEnabled = true ∧ routes ≠ [] := by simpa using hidle
    rw [iff_true_intro htun, iff_true_intro hroutes, true_and, true_and]
    cases target with
    | linux =>
      cases interfaceIps with
      | error e => simp [ipForwardingBrokenOs]
      | ok ips => simp [ipForwardingBrokenOs, ipForwardingBrokenLinux_iff]
    | bsd => simp [ipForwardingBrokenOs]
    | other => simp [ipForwardingBrokenOs]

end Tailnetd.HostNetwork
