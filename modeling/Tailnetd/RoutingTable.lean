/-
  Walking a kernel dump of the routing table (`portmap.rs`, on macOS and the BSDs).

  The dump is a stream of records, each a fixed header and a body of sockaddrs.  Three lengths of it
  come from the buffer: that of a record, that of a sockaddr, and the latter rounded up to four.
  Every index and every slice of the walk is checked here the way the program checks it when it
  runs, so that `outOfRange` is where the program panics.

    * `walk` moves on by a whole header at least, so it comes to an end (`walk_terminates`);
    * its own slices are all within bounds, whatever the lengths say (`slots_inRange`,
      `walk_fault_iff`);
    * `sockaddr_in_addr` slices at the address of a short sockaddr before it asks whether the
      sockaddr reaches that far, and one of two or three bytes does not
      (`sockaddrInAddr_fault_iff`).
-/
import Mathlib.Data.List.Basic
import Mathlib.Data.Option.Basic

namespace Tailnetd

namespace RoutingTable

/-! ## Checked reads -/

/-- An index or a slice past the end: the program panics. -/
inductive Fault where
  | outOfRange
  deriving DecidableEq, Repr

/-- `bs[lo..hi]`. -/
def slice (bs : List UInt8) (lo hi : Nat) : Except Fault (List UInt8) :=
  if lo ≤ hi ∧ hi ≤ bs.length then .ok ((bs.drop lo).take (hi - lo)) else .error .outOfRange

/-- `bs[i]`. -/
def index (bs : List UInt8) (i : Nat) : Except Fault UInt8 :=
  match bs[i]? with
  | some b => .ok b
  | none => .error .outOfRange

theorem slice_ok {bs : List UInt8} {lo hi : Nat} (hlo : lo ≤ hi) (hhi : hi ≤ bs.length) :
    slice bs lo hi = .ok ((bs.drop lo).take (hi - lo)) :=
  if_pos ⟨hlo, hhi⟩

theorem index_ok {bs : List UInt8} {i : Nat} (h : i < bs.length) : ∃ b, index bs i = .ok b := by
  unfold index
  rw [List.getElem?_eq_getElem h]
  exact ⟨_, rfl⟩

/-! ## One sockaddr -/

/-- The family and the bytes of a sockaddr. -/
abbrev Sockaddr := UInt8 × List UInt8

/-- `AF_INET`. -/
def afInet : UInt8 := 2

/-- `Ipv4Addr::UNSPECIFIED`. -/
def unspecified : List UInt8 := [0, 0, 0, 0]

/-- `SIN_ADDR_OFF`. -/
def sinAddrOff : Nat := 4

/-- `sockaddr_in_addr`. -/
def sockaddrInAddr (sa : Sockaddr) : Except Fault (Option (List UInt8)) :=
  let (family, bytes) := sa
  if bytes.length ≤ 1 then .ok (some unspecified)
  else if family ≠ afInet then .ok none
  else if bytes.length < sinAddrOff + 4 then do
    let present := bytes.length - sinAddrOff
    let octets ← slice bytes sinAddrOff (sinAddrOff + present)
    .ok (some (octets ++ List.replicate (4 - present) 0))
  else do
    let a ← index bytes sinAddrOff
    let b ← index bytes (sinAddrOff + 1)
    let c ← index bytes (sinAddrOff + 2)
    let d ← index bytes (sinAddrOff + 3)
    .ok (some [a, b, c, d])

/-- An IPv4 sockaddr that ends before its address begins. -/
def Stub (sa : Sockaddr) : Prop := sa.1 = afInet ∧ (sa.2.length = 2 ∨ sa.2.length = 3)

/-- **A sockaddr is read out of range exactly when it is a stub.** -/
theorem sockaddrInAddr_fault_iff (sa : Sockaddr) :
    (∃ fault, sockaddrInAddr sa = .error fault) ↔ Stub sa := by
  obtain ⟨family, bytes⟩ := sa
  unfold sockaddrInAddr Stub
  dsimp only
  by_cases hone : bytes.length ≤ 1
  · rw [if_pos hone]
    refine iff_of_false (fun h => ?_) fun h => ?_
    · obtain ⟨fault, h⟩ := h
      cases h
    · omega
  · rw [if_neg hone]
    by_cases hfamily : family = afInet
    · rw [if_neg (not_not.mpr hfamily)]
      by_cases hshort : bytes.length < sinAddrOff + 4
      · rw [if_pos hshort]
        unfold sinAddrOff at hshort ⊢
        by_cases hstub : bytes.length < 4
        · -- nothing of the address is there, and the empty slice begins past the end
          have hslice : slice bytes 4 (4 + (bytes.length - 4)) = .error .outOfRange :=
            if_neg fun h => by omega
          rw [hslice]
          exact iff_of_true ⟨.outOfRange, rfl⟩ ⟨hfamily, by omega⟩
        · have hslice : slice bytes 4 (4 + (bytes.length - 4)) = .ok _ :=
            slice_ok (by omega) (by omega)
          rw [hslice]
          refine iff_of_false (fun h => ?_) fun h => ?_
          · obtain ⟨fault, h⟩ := h
            cases h
          · omega
      · rw [if_neg hshort]
        unfold sinAddrOff at hshort ⊢
        obtain ⟨a, ha⟩ := index_ok (show 4 < bytes.length by omega)
        obtain ⟨b, hb⟩ := index_ok (show 4 + 1 < bytes.length by omega)
        obtain ⟨c, hc⟩ := index_ok (show 4 + 2 < bytes.length by omega)
        obtain ⟨d, hd⟩ := index_ok (show 4 + 3 < bytes.length by omega)
        rw [ha, hb, hc, hd]
        refine iff_of_false (fun h => ?_) fun h => ?_
        · obtain ⟨fault, h⟩ := h
          cases h
        · omega
    · rw [if_pos hfamily]
      refine iff_of_false (fun h => ?_) fun h => hfamily h.1
      obtain ⟨fault, h⟩ := h
      cases h

/-! ## One record -/

/-- What is read of an `rt_msghdr`; the flags and the bitmask by their bits. -/
structure RtMsghdr where
  msglen : UInt16
  flags : UInt32
  addrs : UInt32
  deriving DecidableEq, Repr

/-- `rt_msghdr` as the platform lays it out: its size, and where its fields are. -/
structure HeaderLayout where
  size : Nat
  size_pos : 0 < size
  read : List UInt8 → RtMsghdr

/-- The gateway and, if the route has one, this host's address. -/
abbrev Route := List UInt8 × Option (List UInt8)

def rtfGateway : UInt32 := 0x2

def rtfIfscope : UInt32 := 0x1000000

def rtaxDst : Nat := 0

def rtaxGateway : Nat := 1

def rtaxNetmask : Nat := 2

def rtaxIfa : Nat := 5

def rtaxMax : Nat := 8

/-- A sockaddr takes up whole words, at least one. -/
def advance (saLen : Nat) : Nat := if saLen = 0 then 4 else (saLen + 3) / 4 * 4

/-- The loop over the address slots, at `p` in the body: the sockaddrs of the slots named. -/
def readSlots (addrs : UInt32) (body : List UInt8) :
    List Nat → Nat → Except Fault (List (Option Sockaddr))
  | [], _ => .ok []
  | slot :: slots, p =>
    if addrs &&& (1 <<< UInt32.ofNat slot) = 0 then
      (readSlots addrs body slots p).map (none :: ·)
    else if body.length < p + 2 then .ok (List.replicate (slots.length + 1) none)
    else do
      let saLen ← index body p
      let family ← index body (p + 1)
      if body.length < p + saLen.toNat then .ok (List.replicate (slots.length + 1) none)
      else do
        let bytes ← slice body p (p + saLen.toNat)
        (readSlots addrs body slots (p + advance saLen.toNat)).map (some (family, bytes) :: ·)

/-- The slots of a record. -/
def slotsOf (hdr : RtMsghdr) (body : List UInt8) : Except Fault (List (Option Sockaddr)) :=
  readSlots hdr.addrs body (List.range rtaxMax) 0

/-- A slot that is present and read as an address. -/
def slotAddr (addrs : List (Option Sockaddr)) (slot : Nat) : Except Fault (Option (List UInt8)) :=
  match (addrs[slot]?).join with
  | some sa => sockaddrInAddr sa
  | none => .ok none

/-- The end of a record's turn: the gateway, and the interface address if there is one. -/
def gatewayOf (addrs : List (Option Sockaddr)) : Except Fault (Option Route) :=
  match slotAddr addrs rtaxGateway with
  | .error fault => .error fault
  | .ok none => .ok none
  | .ok (some gw) => (slotAddr addrs rtaxIfa).map fun selfIp => some (gw, selfIp)

/-- A default route: destination and netmask are both zeros. -/
def routeOf (addrs : List (Option Sockaddr)) (dst netmask : Sockaddr) :
    Except Fault (Option Route) :=
  match sockaddrInAddr dst with
  | .error fault => .error fault
  | .ok dst =>
    if dst ≠ some unspecified then .ok none
    else
      match sockaddrInAddr netmask with
      | .error fault => .error fault
      | .ok netmask => if netmask ≠ some unspecified then .ok none else gatewayOf addrs

/-- One record: the default route, or nothing. -/
def readRecord (hdr : RtMsghdr) (body : List UInt8) : Except Fault (Option Route) :=
  if hdr.flags &&& rtfGateway = 0 ∨ hdr.flags &&& rtfIfscope ≠ 0 then .ok none
  else
    match slotsOf hdr body with
    | .error fault => .error fault
    | .ok addrs =>
      match (addrs[rtaxDst]?).join with
      | none => .ok none
      | some dst =>
        match (addrs[rtaxNetmask]?).join with
        | none => .ok none
        | some netmask => routeOf addrs dst netmask

/-- **The slots are read within the body**, whatever the lengths in it say. -/
theorem slots_inRange (addrs : UInt32) (body : List UInt8) (slots : List Nat) (p : Nat) :
    ∃ found, readSlots addrs body slots p = .ok found := by
  induction slots generalizing p with
  | nil => exact ⟨[], rfl⟩
  | cons slot slots ih =>
    unfold readSlots
    split
    · obtain ⟨found, h⟩ := ih p
      rw [h]
      exact ⟨none :: found, rfl⟩
    · split
      · exact ⟨_, rfl⟩
      · obtain ⟨saLen, hlen⟩ := index_ok (show p < body.length by omega)
        obtain ⟨family, hfamily⟩ := index_ok (show p + 1 < body.length by omega)
        rw [hlen, hfamily]
        dsimp only [bind, Except.bind]
        split
        · exact ⟨_, rfl⟩
        · obtain ⟨found, h⟩ := ih (p + advance saLen.toNat)
          rw [slice_ok (Nat.le_add_right p _) (by omega)]
          dsimp only
          rw [h]
          exact ⟨_, rfl⟩

/-- The record is one for a default route, by its flags, and its slots are these. -/
structure Considered (hdr : RtMsghdr) (body : List UInt8) (addrs : List (Option Sockaddr))
    (dst netmask : Sockaddr) : Prop where
  gateway : hdr.flags &&& rtfGateway ≠ 0
  unscoped : hdr.flags &&& rtfIfscope = 0
  slots : slotsOf hdr body = .ok addrs
  dst : (addrs[rtaxDst]?).join = some dst
  netmask : (addrs[rtaxNetmask]?).join = some netmask

/-- The sockaddr is read as zeros. -/
def Zeros (sa : Sockaddr) : Prop := sockaddrInAddr sa = .ok (some unspecified)

/-- A stub is the first thing in the way of the record: its destination; its netmask, the
    destination being zeros; its gateway, both being zeros; or its interface address, the gateway
    being one. -/
inductive Trips (hdr : RtMsghdr) (body : List UInt8) : Prop
  | dst {addrs : List (Option Sockaddr)} {dst netmask : Sockaddr}
      (h : Considered hdr body addrs dst netmask) (hstub : Stub dst)
  | netmask {addrs : List (Option Sockaddr)} {dst netmask : Sockaddr}
      (h : Considered hdr body addrs dst netmask) (hdst : Zeros dst) (hstub : Stub netmask)
  | gateway {addrs : List (Option Sockaddr)} {dst netmask gw : Sockaddr}
      (h : Considered hdr body addrs dst netmask) (hdst : Zeros dst) (hnetmask : Zeros netmask)
      (hgw : (addrs[rtaxGateway]?).join = some gw) (hstub : Stub gw)
  | ifa {addrs : List (Option Sockaddr)} {dst netmask gw ifa : Sockaddr} {ip : List UInt8}
      (h : Considered hdr body addrs dst netmask) (hdst : Zeros dst) (hnetmask : Zeros netmask)
      (hgw : (addrs[rtaxGateway]?).join = some gw) (hip : sockaddrInAddr gw = .ok (some ip))
      (hifa : (addrs[rtaxIfa]?).join = some ifa) (hstub : Stub ifa)

theorem Considered.unique {hdr : RtMsghdr} {body : List UInt8}
    {addrs addrs' : List (Option Sockaddr)} {dst dst' netmask netmask' : Sockaddr}
    (h : Considered hdr body addrs dst netmask)
    (h' : Considered hdr body addrs' dst' netmask') :
    addrs' = addrs ∧ dst' = dst ∧ netmask' = netmask := by
  obtain rfl : addrs' = addrs := Except.ok.inj (h'.slots.symm.trans h.slots)
  exact ⟨rfl, Option.some.inj (h'.dst.symm.trans h.dst),
    Option.some.inj (h'.netmask.symm.trans h.netmask)⟩

/-- What is in the way of a record, given its slots. -/
theorem trips_iff {hdr : RtMsghdr} {body : List UInt8} {addrs : List (Option Sockaddr)}
    {dst netmask : Sockaddr} (h : Considered hdr body addrs dst netmask) :
    Trips hdr body ↔ Stub dst ∨ (Zeros dst ∧ (Stub netmask ∨ (Zeros netmask ∧
      ∃ gw, (addrs[rtaxGateway]?).join = some gw ∧ (Stub gw ∨
        ∃ ip ifa, sockaddrInAddr gw = .ok (some ip) ∧ (addrs[rtaxIfa]?).join = some ifa ∧
          Stub ifa)))) := by
  constructor
  · intro htrips
    cases htrips with
    | dst h' hstub =>
      obtain ⟨rfl, rfl, rfl⟩ := h.unique h'
      exact .inl hstub
    | netmask h' hdst hstub =>
      obtain ⟨rfl, rfl, rfl⟩ := h.unique h'
      exact .inr ⟨hdst, .inl hstub⟩
    | gateway h' hdst hnetmask hgw hstub =>
      obtain ⟨rfl, rfl, rfl⟩ := h.unique h'
      exact .inr ⟨hdst, .inr ⟨hnetmask, _, hgw, .inl hstub⟩⟩
    | ifa h' hdst hnetmask hgw hip hifa hstub =>
      obtain ⟨rfl, rfl, rfl⟩ := h.unique h'
      exact .inr ⟨hdst, .inr ⟨hnetmask, _, hgw, .inr ⟨_, _, hip, hifa, hstub⟩⟩⟩
  · rintro (hstub | ⟨hdst, hstub | ⟨hnetmask, gw, hgw, hstub | ⟨ip, ifa, hip, hifa, hstub⟩⟩⟩)
    · exact .dst h hstub
    · exact .netmask h hdst hstub
    · exact .gateway h hdst hnetmask hgw hstub
    · exact .ifa h hdst hnetmask hgw hip hifa hstub

/-- A sockaddr that was read is no stub. -/
theorem not_stub_of_ok {sa : Sockaddr} {ip : Option (List UInt8)} (h : sockaddrInAddr sa = .ok ip) :
    ¬ Stub sa := by
  intro hstub
  obtain ⟨fault, hfault⟩ := (sockaddrInAddr_fault_iff sa).mpr hstub
  cases h.symm.trans hfault

theorem stub_of_fault {sa : Sockaddr} {fault : Fault} (h : sockaddrInAddr sa = .error fault) :
    Stub sa :=
  (sockaddrInAddr_fault_iff sa).mp ⟨fault, h⟩

/-- The end of the turn faults on a stub of its own. -/
theorem gatewayOf_fault_iff (addrs : List (Option Sockaddr)) :
    (∃ fault, gatewayOf addrs = .error fault) ↔
      ∃ gw, (addrs[rtaxGateway]?).join = some gw ∧ (Stub gw ∨
        ∃ ip ifa, sockaddrInAddr gw = .ok (some ip) ∧ (addrs[rtaxIfa]?).join = some ifa ∧
          Stub ifa) := by
  unfold gatewayOf slotAddr
  cases hgw : (addrs[rtaxGateway]?).join with
  | none =>
    refine iff_of_false (fun h => ?_) fun h => ?_
    · obtain ⟨fault, h⟩ := h
      cases h
    · obtain ⟨gw, h, -⟩ := h
      cases h
  | some gw =>
    dsimp only
    cases hip : sockaddrInAddr gw with
    | error fault => exact iff_of_true ⟨fault, rfl⟩ ⟨gw, rfl, .inl (stub_of_fault hip)⟩
    | ok ip =>
      cases ip with
      | none =>
        refine iff_of_false (fun h => ?_) fun h => ?_
        · obtain ⟨fault, h⟩ := h
          cases h
        · obtain ⟨gw', heq, hstub | ⟨ip, ifa, h, -⟩⟩ := h
          · cases heq
            exact not_stub_of_ok hip hstub
          · cases heq
            cases hip.symm.trans h
      | some ip =>
        dsimp only
        cases hifa : (addrs[rtaxIfa]?).join with
        | none =>
          refine iff_of_false (fun h => ?_) fun h => ?_
          · obtain ⟨fault, h⟩ := h
            cases h
          · obtain ⟨gw', heq, hstub | ⟨ip, ifa, -, h, -⟩⟩ := h
            · cases heq
              exact not_stub_of_ok hip hstub
            · cases h
        | some ifa =>
          dsimp only
          cases hself : sockaddrInAddr ifa with
          | error fault =>
            exact iff_of_true ⟨fault, rfl⟩
              ⟨gw, rfl, .inr ⟨ip, ifa, hip, rfl, stub_of_fault hself⟩⟩
          | ok selfIp =>
            refine iff_of_false (fun h => ?_) fun h => ?_
            · obtain ⟨fault, h⟩ := h
              cases h
            · obtain ⟨gw', heq, hstub | ⟨ip, ifa, -, h, hstub⟩⟩ := h
              · cases heq
                exact not_stub_of_ok hip hstub
              · cases h
                exact not_stub_of_ok hself hstub

/-- A default route faults on the first stub in its way. -/
theorem routeOf_fault_iff (addrs : List (Option Sockaddr)) (dst netmask : Sockaddr) :
    (∃ fault, routeOf addrs dst netmask = .error fault) ↔
      Stub dst ∨ (Zeros dst ∧ (Stub netmask ∨ (Zeros netmask ∧
        ∃ fault, gatewayOf addrs = .error fault))) := by
  have hskip (P : Prop) (hP : ¬ P) :
      (∃ fault, (.ok none : Except Fault (Option Route)) = .error fault) ↔ P := by
    refine iff_of_false (fun h => ?_) hP
    obtain ⟨fault, h⟩ := h
    cases h
  unfold routeOf Zeros
  cases hdst : sockaddrInAddr dst with
  | error fault => exact iff_of_true ⟨fault, rfl⟩ (.inl (stub_of_fault hdst))
  | ok ip =>
    have hnot := not_stub_of_ok hdst
    dsimp only
    by_cases hzero : ip = some unspecified
    · rw [if_neg (not_not.mpr hzero), hzero, or_iff_right hnot, and_iff_right rfl]
      cases hmask : sockaddrInAddr netmask with
      | error fault => exact iff_of_true ⟨fault, rfl⟩ (.inl (stub_of_fault hmask))
      | ok mask =>
        have hnotMask := not_stub_of_ok hmask
        dsimp only
        by_cases hzeroMask : mask = some unspecified
        · rw [if_neg (not_not.mpr hzeroMask), hzeroMask, or_iff_right hnotMask, and_iff_right rfl]
        · rw [if_pos hzeroMask]
          refine hskip _ ?_
          rintro (hstub | ⟨heq, -⟩)
          · exact hnotMask hstub
          · exact hzeroMask (Except.ok.inj heq)
    · rw [if_pos hzero]
      refine hskip _ ?_
      rintro (hstub | ⟨heq, -⟩)
      · exact hnot hstub
      · exact hzero (Except.ok.inj heq)

/-- **A record is read out of range exactly when a stub is in its way.** -/
theorem readRecord_fault_iff (hdr : RtMsghdr) (body : List UInt8) :
    (∃ fault, readRecord hdr body = .error fault) ↔ Trips hdr body := by
  obtain ⟨addrs, hslots⟩ := slots_inRange hdr.addrs body (List.range rtaxMax) 0
  by_cases hconsidered : ∃ dst netmask, Considered hdr body addrs dst netmask
  · obtain ⟨dst, netmask, h⟩ := hconsidered
    have hread : readRecord hdr body = routeOf addrs dst netmask := by
      unfold readRecord
      rw [if_neg (not_or.mpr ⟨h.gateway, not_not.mpr h.unscoped⟩), h.slots]
      dsimp only
      rw [h.dst]
      dsimp only
      rw [h.netmask]
    rw [hread, routeOf_fault_iff, gatewayOf_fault_iff, trips_iff h]
  · have hread : readRecord hdr body = .ok none := by
      unfold readRecord
      split
      · rfl
      · rename_i hflags
        obtain ⟨hgateway, hscope⟩ := not_or.mp hflags
        have hslots' : slotsOf hdr body = .ok addrs := hslots
        rw [hslots']
        dsimp only
        cases hdst : (addrs[rtaxDst]?).join with
        | none => rfl
        | some dst =>
          dsimp only
          cases hmask : (addrs[rtaxNetmask]?).join with
          | none => rfl
          | some netmask =>
            exact absurd ⟨dst, netmask, hgateway, not_not.mp hscope, hslots, hdst, hmask⟩
              hconsidered
    rw [hread]
    refine iff_of_false (fun h => ?_) fun h => ?_
    · obtain ⟨fault, h⟩ := h
      cases h
    · have hsome : ∃ addrs' dst netmask, Considered hdr body addrs' dst netmask := by
        cases h with
        | dst h => exact ⟨_, _, _, h⟩
        | netmask h => exact ⟨_, _, _, h⟩
        | gateway h => exact ⟨_, _, _, h⟩
        | ifa h => exact ⟨_, _, _, h⟩
      obtain ⟨addrs', dst, netmask, h⟩ := hsome
      obtain rfl : addrs' = addrs := Except.ok.inj (h.slots.symm.trans hslots)
      exact hconsidered ⟨dst, netmask, h⟩

/-! ## The walk -/

/-- The loop over the records, at `off` in the dump; `none` is a loop that has not come to an
    end. -/
def walk (L : HeaderLayout) (rib : List UInt8) : Nat → Nat → Option (Except Fault (Option Route))
  | 0, _ => none
  | fuel + 1, off =>
    if rib.length < off + L.size then some (.ok none)
    else
      match slice rib off (off + L.size) with
      | .error fault => some (.error fault)
      | .ok header =>
        let hdr := L.read header
        let msgLen := hdr.msglen.toNat
        -- a length that would not advance the walk, or would overrun the dump
        if msgLen < L.size ∨ rib.length < off + msgLen then some (.ok none)
        else
          match slice rib (off + L.size) (off + msgLen) with
          | .error fault => some (.error fault)
          | .ok body =>
            match readRecord hdr body with
            | .error fault => some (.error fault)
            | .ok (some route) => some (.ok (some route))
            | .ok none => walk L rib fuel (off + msgLen)

/-- `parse_routing_table`. -/
def parseRoutingTable (L : HeaderLayout) (rib : List UInt8) :
    Option (Except Fault (Option Route)) :=
  walk L rib (rib.length + 1) 0

/-- There is a whole record at this offset. -/
structure RecordAt (L : HeaderLayout) (rib : List UInt8) (off : Nat) (hdr : RtMsghdr)
    (body : List UInt8) : Prop where
  header : off + L.size ≤ rib.length
  decoded : hdr = L.read ((rib.drop off).take L.size)
  advances : L.size ≤ hdr.msglen.toNat
  whole : off + hdr.msglen.toNat ≤ rib.length
  contents : body = (rib.drop (off + L.size)).take (hdr.msglen.toNat - L.size)

/-- The walk comes from one offset to another, over records it skips. -/
inductive Reaches (L : HeaderLayout) (rib : List UInt8) : Nat → Nat → Prop
  | refl (off : Nat) : Reaches L rib off off
  | skip {off off' : Nat} {hdr : RtMsghdr} {body : List UInt8} (hat : RecordAt L rib off hdr body)
      (hskip : readRecord hdr body = .ok none)
      (rest : Reaches L rib (off + hdr.msglen.toNat) off') : Reaches L rib off off'

/-- Where there is no whole record, the walk ends. -/
theorem walk_end {L : HeaderLayout} {rib : List UInt8} {off : Nat}
    (h : ¬ ∃ hdr body, RecordAt L rib off hdr body) (fuel : Nat) :
    walk L rib (fuel + 1) off = some (.ok none) := by
  unfold walk
  by_cases hheader : rib.length < off + L.size
  · exact if_pos hheader
  · rw [if_neg hheader, slice_ok (Nat.le_add_right off _) (by omega), Nat.add_sub_cancel_left]
    dsimp only
    split
    · rfl
    · rename_i hwhole
      obtain ⟨hadvances, hwhole⟩ := not_or.mp hwhole
      exact absurd ⟨_, _, by omega, rfl, by omega, by omega, rfl⟩ h

/-- Where there is one, the walk goes by what is read of it. -/
theorem walk_record {L : HeaderLayout} {rib : List UInt8} {off : Nat} {hdr : RtMsghdr}
    {body : List UInt8} (h : RecordAt L rib off hdr body) (fuel : Nat) :
    (∀ fault, readRecord hdr body = .error fault →
      walk L rib (fuel + 1) off = some (.error fault)) ∧
    (∀ route, readRecord hdr body = .ok (some route) →
      walk L rib (fuel + 1) off = some (.ok (some route))) ∧
    (readRecord hdr body = .ok none →
      walk L rib (fuel + 1) off = walk L rib fuel (off + hdr.msglen.toNat)) := by
  obtain ⟨hheader, hdecoded, hadvances, hwhole, hcontents⟩ := h
  have hbody : slice rib (off + L.size) (off + hdr.msglen.toNat) = .ok body := by
    rw [slice_ok (by omega) hwhole, Nat.add_sub_add_left, hcontents]
  have hlengths : ¬ (hdr.msglen.toNat < L.size ∨ rib.length < off + hdr.msglen.toNat) := by
    omega
  rw [walk, if_neg (Nat.not_lt.mpr hheader), slice_ok (Nat.le_add_right off _) hheader,
    Nat.add_sub_cancel_left]
  dsimp only
  rw [← hdecoded, if_neg hlengths, hbody]
  dsimp only
  refine ⟨fun fault hread => ?_, fun route hread => ?_, fun hread => ?_⟩
  · rw [hread]
  · rw [hread]
  · rw [hread]

/-- **The walk comes to an end**: each record it skips is at least as long as a header. -/
theorem walk_terminates (L : HeaderLayout) (rib : List UInt8) (fuel off : Nat)
    (h : rib.length - off < fuel) : ∃ result, walk L rib fuel off = some result := by
  induction fuel generalizing off with
  | zero => omega
  | succ fuel ih =>
    by_cases hat : ∃ hdr body, RecordAt L rib off hdr body
    · obtain ⟨hdr, body, hat⟩ := hat
      obtain ⟨hfault, hroute, hskip⟩ := walk_record hat fuel
      cases hread : readRecord hdr body with
      | error fault => exact ⟨_, hfault fault hread⟩
      | ok route =>
        cases route with
        | some route => exact ⟨_, hroute route hread⟩
        | none =>
          rw [hskip hread]
          have hpos := L.size_pos
          have hadvances := hat.advances
          have hwhole := hat.whole
          exact ih (off + hdr.msglen.toNat) (by omega)
    · exact ⟨_, walk_end hat fuel⟩

/-- More fuel changes nothing. -/
theorem walk_fuel {L : HeaderLayout} {rib : List UInt8} {fuel fuel' off : Nat}
    {result : Except Fault (Option Route)} (hle : fuel ≤ fuel')
    (h : walk L rib fuel off = some result) : walk L rib fuel' off = some result := by
  induction fuel generalizing fuel' off with
  | zero => cases h
  | succ fuel ih =>
    obtain ⟨fuel', rfl⟩ : ∃ k, fuel' = k + 1 := ⟨fuel' - 1, by omega⟩
    by_cases hat : ∃ hdr body, RecordAt L rib off hdr body
    · obtain ⟨hdr, body, hat⟩ := hat
      obtain ⟨hfault, hroute, hskip⟩ := walk_record hat fuel
      obtain ⟨hfault', hroute', hskip'⟩ := walk_record hat fuel'
      cases hread : readRecord hdr body with
      | error fault => rw [hfault' fault hread, ← hfault fault hread, h]
      | ok route =>
        cases route with
        | some route => rw [hroute' route hread, ← hroute route hread, h]
        | none =>
          rw [hskip' hread]
          exact ih (by omega) ((hskip hread).symm.trans h)
    · rw [walk_end hat fuel', ← walk_end hat fuel, h]

/-- A fault of the walk is that of a record it comes to. -/
theorem reached_of_fault {L : HeaderLayout} {rib : List UInt8} {fuel off : Nat} {fault : Fault}
    (h : walk L rib fuel off = some (.error fault)) :
    ∃ off' hdr body, Reaches L rib off off' ∧ RecordAt L rib off' hdr body ∧ Trips hdr body := by
  induction fuel generalizing off with
  | zero => cases h
  | succ fuel ih =>
    by_cases hat : ∃ hdr body, RecordAt L rib off hdr body
    · obtain ⟨hdr, body, hat⟩ := hat
      obtain ⟨-, hroute, hskip⟩ := walk_record hat fuel
      cases hread : readRecord hdr body with
      | error fault =>
        exact ⟨off, hdr, body, .refl off, hat, (readRecord_fault_iff hdr body).mp ⟨fault, hread⟩⟩
      | ok route =>
        cases route with
        | some route => cases (hroute route hread).symm.trans h
        | none =>
          obtain ⟨off', hdr', body', hreaches, htrips⟩ := ih ((hskip hread).symm.trans h)
          exact ⟨off', hdr', body', .skip hat hread hreaches, htrips⟩
    · cases (walk_end hat fuel).symm.trans h

/-- A record the walk comes to with a stub in its way is a fault. -/
theorem fault_of_reached {L : HeaderLayout} {rib : List UInt8} {off off' : Nat} {hdr : RtMsghdr}
    {body : List UInt8} (hreaches : Reaches L rib off off') (hat : RecordAt L rib off' hdr body)
    (htrips : Trips hdr body) {fuel : Nat} {result : Except Fault (Option Route)}
    (h : walk L rib fuel off = some result) : ∃ fault, result = .error fault := by
  induction hreaches generalizing fuel with
  | refl off =>
    cases fuel with
    | zero => cases h
    | succ fuel =>
      obtain ⟨fault, hread⟩ := (readRecord_fault_iff hdr body).mpr htrips
      have hfault := (walk_record hat fuel).1 fault hread
      exact ⟨fault, (Option.some.inj (hfault.symm.trans h)).symm⟩
  | skip hbefore hskip _ ih =>
    cases fuel with
    | zero => cases h
    | succ fuel =>
      have hwalk := (walk_record hbefore fuel).2.2 hskip
      exact ih hat (hwalk.symm.trans h)

/-- **The walk, for every dump.**  It comes to an end, however much more it is given; a record that
    is cut short ends it; and it reads nothing out of range exactly when no record it comes to has a
    stub in its way. -/
theorem parseRoutingTable_inRange_iff (L : HeaderLayout) (rib : List UInt8) :
    (∃ result, ∀ fuel, rib.length < fuel → walk L rib fuel 0 = some result) ∧
    (∀ fuel off, (¬ ∃ hdr body, RecordAt L rib off hdr body) →
      walk L rib (fuel + 1) off = some (.ok none)) ∧
    ((∃ route, parseRoutingTable L rib = some (.ok route)) ↔
      ∀ off hdr body, Reaches L rib 0 off → RecordAt L rib off hdr body → ¬ Trips hdr body) := by
  obtain ⟨result, hresult⟩ := walk_terminates L rib (rib.length + 1) 0 (by omega)
  refine ⟨⟨result, fun fuel hfuel => walk_fuel hfuel hresult⟩,
    fun fuel off hat => walk_end hat fuel, ?_⟩
  unfold parseRoutingTable
  constructor
  · rintro ⟨route, hroute⟩ off hdr body hreaches hat htrips
    obtain ⟨fault, heq⟩ := fault_of_reached hreaches hat htrips hroute
    cases heq
  · intro hclear
    cases result with
    | ok route => exact ⟨route, hresult⟩
    | error fault =>
      obtain ⟨off, hdr, body, hreaches, hat, htrips⟩ := reached_of_fault hresult
      exact absurd htrips (hclear off hdr body hreaches hat)

/-- `rt_msghdr` on macOS: the fields that are read, little-endian. -/
def darwinHeader : HeaderLayout where
  size := 92
  size_pos := by decide
  read bytes :=
    let u8 := fun i => (bytes.getD i 0).toNat
    { msglen := UInt16.ofNat (u8 0 + u8 1 * 256)
      flags := UInt32.ofNat (u8 8 + u8 9 * 256 + u8 10 * 65536 + u8 11 * 16777216)
      addrs := UInt32.ofNat (u8 12 + u8 13 * 256 + u8 14 * 65536 + u8 15 * 16777216) }

/-- A default route with a gateway, whose netmask is a sockaddr of two bytes, length and family. -/
def familyOnlyMask : List UInt8 :=
  [128, 0, 5, 4, 0, 0, 0, 0, 3, 0, 0, 0, 7, 0, 0, 0] ++ List.replicate 76 0 ++
    [16, 2, 0, 0, 0, 0, 0, 0] ++ List.replicate 8 0 ++
    [16, 2, 0, 0, 192, 168, 1, 1] ++ List.replicate 8 0 ++ [2, 2, 0, 0]

/-- **A netmask of its family alone is read out of range.** -/
theorem family_only_mask_faults :
    ¬ ∀ (L : HeaderLayout) (rib : List UInt8), ∃ route, parseRoutingTable L rib = some (.ok route) := by
  intro hclaim
  obtain ⟨route, h⟩ := hclaim darwinHeader familyOnlyMask
  have hfault : parseRoutingTable darwinHeader familyOnlyMask = some (.error .outOfRange) := by
    decide +kernel
  cases hfault.symm.trans h

end RoutingTable

end Tailnetd
