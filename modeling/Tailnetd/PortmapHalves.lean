/-
  The two halves of a NAT-PMP answer (`portmap.rs`).

  A call that asked over NAT-PMP waits for two answers, the external address and the external port,
  which come in either order, may repeat, and may be taken back by a later one that says `0.0.0.0`
  or port 0.  The loop keeps what it was told in five variables and looks at them after each answer.
  This file says what these variables mean:

    * a datagram `ends` the call when it comes from the gateway and is a refusal or no NAT-PMP at
      all; it is an `answer` when it is a NAT-PMP one that is no refusal; whatever else comes leaves
      no trace;
    * `Halves.Tells` is the invariant: the address is that of the last public-address answer, or the
      known one, and port, lease and epoch are those of the last MAP answer;
    * the call has its mapping at the first prefix of the datagrams that `Completes` the pair.

  What comes after that prefix is not read, and what was granted is stored, unless the client was
  closed while the conversation ran.
-/
import Mathlib.Data.List.Induction
import Tailnetd.PortmapReceive

namespace Tailnetd

namespace Portmap

open Machine

/-! ## What a datagram says -/

/-- `Ipv4Addr::UNSPECIFIED`. -/
def unspecified : List Nat := [0, 0, 0, 0]

/-- A NAT-PMP answer of the gateway that is no refusal. -/
def Datagram.answer (d : Datagram) (gw : IpAddr) : Option PmpResponse :=
  if d.fromGateway gw then (parsePmpResponse d.pkt).filter fun pres => pres.resultCode == 0
  else none

/-- From the gateway, and a refusal, or nothing that NAT-PMP answers with. -/
def Datagram.ends (d : Datagram) (gw : IpAddr) : Bool :=
  d.fromGateway gw &&
    (decide (d.pkt.head? ≠ some pmpVersion) ||
      (parsePmpResponse d.pkt).any fun pres => pres.resultCode != 0)

/-- Four octets of a packet. -/
def octetsAt (pkt : List UInt8) (i : Nat) : List Nat :=
  [(byteAt pkt i).toNat, (byteAt pkt (i + 1)).toNat, (byteAt pkt (i + 2)).toNat,
    (byteAt pkt (i + 3)).toNat]

/-- The octets of a public-address answer. -/
def Datagram.publicAddrReply (d : Datagram) (gw : IpAddr) : Option (List Nat) :=
  (d.answer gw).bind fun pres =>
    if pres.opCode = pmpOpReply ||| pmpOpMapPublicAddr then some (octetsAt d.pkt 8) else none

/-- A MAP answer, and when it came. -/
def Datagram.mapReply (d : Datagram) (gw : IpAddr) : Option (SystemTime × PmpResponse) :=
  (d.answer gw).bind fun pres =>
    if pres.opCode = pmpOpReply ||| pmpOpMapUdp then some (d.stamp, pres) else none

/-- The address these datagrams leave: of the last public-address answer, or the known one. -/
def addressOf (gw : IpAddr) (known : Option (List Nat)) (ds : List Datagram) :
    Option (List Nat) :=
  ((ds.filterMap fun d => d.publicAddrReply gw).getLast?).or known

/-- The last MAP answer among these datagrams. -/
def lastMapReply (gw : IpAddr) (ds : List Datagram) : Option (SystemTime × PmpResponse) :=
  (ds.filterMap fun d => d.mapReply gw).getLast?

/-- These datagrams bring both halves: an address that is one, and a MAP answer with a port. -/
structure Completes (gw : IpAddr) (known : Option (List Nat)) (ds : List Datagram) (ip : List Nat)
    (stamp : SystemTime) (reply : PmpResponse) : Prop where
  address : addressOf gw known ds = some ip
  specified : ip ≠ unspecified
  mapping : lastMapReply gw ds = some (stamp, reply)
  port : reply.externalPort ≠ 0

/-! ## What the loop makes of it -/

/-- The halves after a datagram that does not end the call. -/
def Halves.hear (gw : IpAddr) (h : Halves) (d : Datagram) : Halves :=
  match d.answer gw with
  | some pres => h.take pres d.stamp
  | none => h

/-- The halves after several. -/
def Halves.hearAll (gw : IpAddr) (h : Halves) (ds : List Datagram) : Halves :=
  ds.foldl (fun h d => h.hear gw d) h

/-- Both halves are in. -/
def Halves.complete (h : Halves) : Bool := h.externalIp.isSome && h.externalPort != 0

/-- A datagram that parses has the version byte. -/
theorem head?_of_parsePmpResponse {pkt : List UInt8} {pres : PmpResponse}
    (h : parsePmpResponse pkt = some pres) : pkt.head? = some pmpVersion := by
  unfold parsePmpResponse at h
  split at h
  · cases h
  · rename_i hlength
    split at h
    · cases h
    · rename_i hversion
      have hne : pkt ≠ [] := by
        rintro rfl
        exact hlength (by decide)
      exact (head?_eq_some_iff hne _).mpr (not_not.mp hversion)

/-- A public-address reply has an address, and no other reply. -/
theorem publicAddr_of_parse {pkt : List UInt8} {pres : PmpResponse}
    (h : parsePmpResponse pkt = some pres) :
    pres.publicAddr =
      if pres.opCode = pmpOpReply ||| pmpOpMapPublicAddr then publicAddrAt pkt 8 else none := by
  have hother : pmpOpReply ||| pmpOpMapPublicAddr ≠ pmpOpReply ||| pmpOpMapUdp := by decide
  unfold parsePmpResponse at h
  split at h
  · cases h
  · split at h
    · cases h
    · dsimp only at h
      split at h
      · rename_i hmap
        split at h
        · cases h
        · cases h
          exact (if_neg fun haddr => hother (haddr.symm.trans hmap)).symm
      · split at h
        · rename_i haddr
          split at h
          · cases h
          · cases h
            exact (if_pos haddr).symm
        · rename_i haddr
          cases h
          exact (if_neg haddr).symm

/-- With a half missing, the loop reads on. -/
theorem settle_of_incomplete {h : Halves} (hh : h.complete = false) : h.settle = .waiting h := by
  unfold Halves.settle
  unfold Halves.complete at hh
  split
  · rename_i ip hip
    rw [hip, Option.isSome_some, Bool.true_and, bne_eq_false_iff_eq] at hh
    rw [if_neg (not_not.mpr hh)]
  · rfl

/-- Both halves are a grant of theirs. -/
theorem settle_of_complete {h : Halves} (hh : h.complete = true) :
    ∃ ip, h.externalIp = some ip ∧ h.externalPort ≠ 0 ∧
      h.settle = .granted
        { kind := .pmp
          external := ⟨.v4 ip, h.externalPort⟩
          renewAfter := h.renewAfter
          goodUntil := h.goodUntil
          epoch := h.epoch
          nonce := none } := by
  unfold Halves.complete at hh
  rw [Bool.and_eq_true, bne_iff_ne] at hh
  obtain ⟨ip, hip⟩ := Option.isSome_iff_exists.mp hh.1
  refine ⟨ip, hip, hh.2, ?_⟩
  unfold Halves.settle
  rw [hip]
  dsimp only
  rw [if_pos hh.2]

/-- **A datagram that does not end the call** is an answer or leaves no trace: the halves it leaves
    decide. -/
theorem hear_open {gw : IpAddr} {d : Datagram} (pcpNonce : Option (List UInt8)) {h : Halves}
    (hd : d.ends gw = false) (hh : h.complete = false) :
    Portmap.hear gw pcpNonce h d = (h.hear gw d).settle := by
  unfold Portmap.hear Halves.hear Datagram.answer
  unfold Datagram.ends at hd
  cases hsource : d.fromGateway gw with
  | false => exact (settle_of_incomplete hh).symm
  | true =>
    rw [hsource, Bool.true_and, Bool.or_eq_false_iff, decide_eq_false_iff_not, not_not] at hd
    obtain ⟨hversion, hresult⟩ := hd
    rw [if_pos hversion]
    cases hparse : parsePmpResponse d.pkt with
    | none => exact (settle_of_incomplete hh).symm
    | some pres =>
      rw [hparse, Option.any_some, bne_eq_false_iff_eq] at hresult
      have hfilter : (some pres).filter (fun pres => pres.resultCode == 0) = some pres :=
        Option.filter_some_pos (beq_iff_eq.mpr hresult)
      show (if pres.resultCode ≠ 0 then _ else _) = _
      rw [if_neg (not_not.mpr hresult), if_pos rfl, hfilter]

/-- One that ends the call leaves no NAT-PMP mapping. -/
theorem hear_ends {gw : IpAddr} {d : Datagram} (pcpNonce : Option (List UInt8)) (h : Halves)
    (hd : d.ends gw = true) :
    (∃ cause, Portmap.hear gw pcpNonce h d = .failed cause) ∨
      ∃ g, Portmap.hear gw pcpNonce h d = .granted g ∧ g.kind = .pcp := by
  unfold Datagram.ends at hd
  rw [Bool.and_eq_true, Bool.or_eq_true, decide_eq_true_eq] at hd
  obtain ⟨hsource, hd⟩ := hd
  unfold Portmap.hear
  rw [hsource, if_neg (by decide)]
  rcases hd with hversion | hresult
  · rw [if_neg hversion]
    split
    · split
      · exact .inl ⟨_, rfl⟩
      · exact .inr ⟨_, rfl, rfl⟩
    · exact .inl ⟨_, rfl⟩
  · obtain ⟨pres, hparse, hrefused⟩ := Option.any_eq_true _ _ |>.mp hresult
    rw [if_pos (head?_of_parsePmpResponse hparse), hparse]
    dsimp only
    rw [if_pos (bne_iff_ne.mp hrefused)]
    exact .inl ⟨_, rfl⟩

/-- So the datagram that brings a NAT-PMP mapping does not end the call. -/
theorem ends_of_hear_pmp {gw : IpAddr} {pcpNonce : Option (List UInt8)} {h : Halves}
    {d : Datagram} {g : Grant} (hhear : Portmap.hear gw pcpNonce h d = .granted g)
    (hkind : g.kind = .pmp) : d.ends gw = false := by
  cases hends : d.ends gw with
  | false => rfl
  | true =>
    rcases hear_ends pcpNonce h hends with ⟨cause, hfailed⟩ | ⟨g', hgranted, hpcp⟩
    · rw [hfailed] at hhear
      cases hhear
    · rw [hgranted] at hhear
      cases hhear
      rw [hpcp] at hkind
      cases hkind

/-! ## Where the conversation is settled -/

/-- The loop has read these datagrams and reads on: none ends the call, and after none were both
    halves in. -/
def Undecided (gw : IpAddr) (h : Halves) (ds : List Datagram) : Prop :=
  (∀ d ∈ ds, d.ends gw = false) ∧ ∀ pre, pre <+: ds → (h.hearAll gw pre).complete = false

theorem undecided_nil {gw : IpAddr} {h : Halves} (hh : h.complete = false) : Undecided gw h [] := by
  refine ⟨fun d hd => absurd hd List.not_mem_nil, ?_⟩
  intro pre hpre
  rw [List.prefix_nil.mp hpre]
  exact hh

theorem undecided_cons {gw : IpAddr} {h : Halves} {d : Datagram} {ds : List Datagram}
    (hh : h.complete = false) :
    Undecided gw h (d :: ds) ↔ d.ends gw = false ∧ Undecided gw (h.hear gw d) ds := by
  constructor
  · rintro ⟨hends, hprefix⟩
    refine ⟨hends d List.mem_cons_self, fun e he => hends e (List.mem_cons_of_mem _ he), ?_⟩
    intro pre hpre
    exact hprefix (d :: pre) (List.cons_prefix_cons.mpr ⟨rfl, hpre⟩)
  · rintro ⟨hd, hends, hprefix⟩
    refine ⟨?_, ?_⟩
    · intro e he
      rcases List.mem_cons.mp he with rfl | he
      · exact hd
      · exact hends e he
    · intro pre hpre
      cases pre with
      | nil => exact hh
      | cons e pre =>
        obtain ⟨rfl, hrest⟩ := List.cons_prefix_cons.mp hpre
        exact hprefix pre hrest

/-- The loop is open exactly then, with the halves it was told. -/
theorem stillOpen_iff {gw : IpAddr} {pcpNonce : Option (List UInt8)} {h h' : Halves}
    {ds : List Datagram} (hh : h.complete = false) :
    stillOpen gw pcpNonce h ds = some h' ↔ Undecided gw h ds ∧ h' = h.hearAll gw ds := by
  induction ds generalizing h with
  | nil =>
    rw [stillOpen, Option.some.injEq]
    constructor
    · rintro rfl
      exact ⟨undecided_nil hh, rfl⟩
    · rintro ⟨-, rfl⟩
      rfl
  | cons d ds ih =>
    rw [stillOpen, undecided_cons hh]
    cases hends : d.ends gw with
    | true =>
      refine iff_of_false ?_ fun hright => (by cases hright.1.1)
      rcases hear_ends pcpNonce h hends with ⟨cause, hhear⟩ | ⟨g, hhear, -⟩
      · rw [hhear]
        exact fun hopen => (by cases hopen)
      · rw [hhear]
        exact fun hopen => (by cases hopen)
    | false =>
      rw [hear_open pcpNonce hends hh]
      cases hcomplete : (h.hear gw d).complete with
      | false =>
        rw [settle_of_incomplete hcomplete]
        dsimp only
        rw [ih hcomplete]
        constructor
        · rintro ⟨hundecided, rfl⟩
          exact ⟨⟨rfl, hundecided⟩, rfl⟩
        · rintro ⟨⟨-, hundecided⟩, rfl⟩
          exact ⟨hundecided, rfl⟩
      | true =>
        -- with both halves in, the call has its mapping and reads no further
        obtain ⟨ip, -, -, hsettle⟩ := settle_of_complete hcomplete
        rw [hsettle]
        refine iff_of_false (fun hopen => (by cases hopen)) ?_
        rintro ⟨⟨-, -, hprefix⟩, -⟩
        have hincomplete : (h.hear gw d).complete = false := hprefix [] List.nil_prefix
        rw [hcomplete] at hincomplete
        cases hincomplete

/-- **A NAT-PMP grant comes with the datagram that brings the missing half.** -/
theorem receive_pmp_iff {gw : IpAddr} {pcpNonce : Option (List UInt8)} {h : Halves}
    {ds : List Datagram} {g : Grant} {reply : Datagram} (hh : h.complete = false) :
    (receive gw pcpNonce h ds = .granted g reply ∧ g.kind = .pmp) ↔
      ∃ pre post, ds = pre ++ reply :: post ∧ Undecided gw h pre ∧ reply.ends gw = false ∧
        (h.hearAll gw (pre ++ [reply])).settle = .granted g := by
  have hlast : ∀ pre, h.hearAll gw (pre ++ [reply]) = (h.hearAll gw pre).hear gw reply := by
    intro pre
    unfold Halves.hearAll
    rw [List.foldl_append]
    rfl
  constructor
  · rintro ⟨hreceive, hkind⟩
    obtain ⟨pre, post, h', heq, hopen, hhear⟩ := receive_granted_iff.mp hreceive
    obtain ⟨hundecided, rfl⟩ := (stillOpen_iff hh).mp hopen
    have hpre : (h.hearAll gw pre).complete = false := hundecided.2 pre List.prefix_rfl
    have hends : reply.ends gw = false := ends_of_hear_pmp hhear hkind
    refine ⟨pre, post, heq, hundecided, hends, ?_⟩
    rw [hlast, ← hear_open pcpNonce hends hpre, hhear]
  · rintro ⟨pre, post, heq, hundecided, hends, hsettle⟩
    have hpre : (h.hearAll gw pre).complete = false := hundecided.2 pre List.prefix_rfl
    have hopen : stillOpen gw pcpNonce h pre = some (h.hearAll gw pre) :=
      (stillOpen_iff hh).mpr ⟨hundecided, rfl⟩
    refine ⟨receive_granted_iff.mpr ⟨pre, post, _, heq, hopen, ?_⟩, settle_kind hsettle⟩
    rw [hear_open pcpNonce hends hpre, ← hlast, hsettle]

/-! ## What the variables mean -/

/-- **The invariant of the loop**: what the halves are after these datagrams. -/
structure Halves.Tells (gw : IpAddr) (known : Option (List Nat)) (ds : List Datagram) (h : Halves) :
    Prop where
  address : h.externalIp = (addressOf gw known ds).filter fun ip => decide (ip ≠ unspecified)
  unasked : lastMapReply gw ds = none → h.externalPort = 0
  granted : ∀ stamp reply, lastMapReply gw ds = some (stamp, reply) →
    h.externalPort = reply.externalPort ∧ h.epoch = reply.secondsSinceEpoch ∧
      h.goodUntil = stamp + reply.mappingValidSeconds.toNat * nanosPerSec ∧
      h.renewAfter = stamp + reply.mappingValidSeconds.toNat * nanosPerSec / 2

theorem addressOf_snoc (gw : IpAddr) (known : Option (List Nat)) (ds : List Datagram)
    (d : Datagram) :
    addressOf gw known (ds ++ [d]) = (d.publicAddrReply gw).or (addressOf gw known ds) := by
  unfold addressOf
  rw [List.filterMap_append, List.getLast?_append, List.filterMap_cons]
  cases d.publicAddrReply gw with
  | none => rfl
  | some ip => rfl

theorem lastMapReply_snoc (gw : IpAddr) (ds : List Datagram) (d : Datagram) :
    lastMapReply gw (ds ++ [d]) = (d.mapReply gw).or (lastMapReply gw ds) := by
  unfold lastMapReply
  rw [List.filterMap_append, List.getLast?_append, List.filterMap_cons]
  cases d.mapReply gw with
  | none => rfl
  | some reply => rfl

/-- An answer of the gateway, as it parses. -/
theorem parse_of_answer {d : Datagram} {gw : IpAddr} {pres : PmpResponse}
    (h : d.answer gw = some pres) : parsePmpResponse d.pkt = some pres := by
  unfold Datagram.answer at h
  split at h
  · exact (Option.filter_eq_some_iff.mp h).1
  · cases h

/-- An address that is one is kept as it is. -/
theorem filter_specified {ip : List Nat} (h : ip ≠ unspecified) :
    ((some ip).filter fun ip => decide (ip ≠ unspecified)) = some ip :=
  Option.filter_some_pos (decide_eq_true h)

/-- The address of a public-address answer is none when its octets are zeros. -/
theorem publicAddrAt_eq (pkt : List UInt8) (i : Nat) :
    publicAddrAt pkt i =
      (some (octetsAt pkt i)).filter fun ip => decide (ip ≠ unspecified) := by
  unfold publicAddrAt
  by_cases hzero : octetsAt pkt i = unspecified
  · rw [hzero]
    exact if_pos hzero
  · rw [filter_specified hzero]
    exact if_neg hzero

namespace Halves.Tells

variable {gw : IpAddr} {known : Option (List Nat)} {ds : List Datagram} {h : Halves} {d : Datagram}

/-- A datagram that brings neither half changes nothing. -/
theorem keep (ht : h.Tells gw known ds) (haddr : d.publicAddrReply gw = none)
    (hmap : d.mapReply gw = none) : h.Tells gw known (ds ++ [d]) := by
  refine ⟨?_, ?_, ?_⟩
  · rw [addressOf_snoc, haddr, Option.none_or]
    exact ht.address
  · rw [lastMapReply_snoc, hmap, Option.none_or]
    exact ht.unasked
  · rw [lastMapReply_snoc, hmap, Option.none_or]
    exact ht.granted

/-- A public-address answer replaces the address, by none when it is zeros. -/
theorem readdress (ht : h.Tells gw known ds) {ip : List Nat}
    (haddr : d.publicAddrReply gw = some ip) (hmap : d.mapReply gw = none) :
    { h with externalIp := (some ip).filter fun ip => decide (ip ≠ unspecified) }.Tells gw known
      (ds ++ [d]) := by
  refine ⟨?_, ?_, ?_⟩
  · rw [addressOf_snoc, haddr, Option.some_or]
  · rw [lastMapReply_snoc, hmap, Option.none_or]
    exact ht.unasked
  · rw [lastMapReply_snoc, hmap, Option.none_or]
    exact ht.granted

/-- A MAP answer replaces port, lease and epoch together. -/
theorem regrant (ht : h.Tells gw known ds) {stamp : SystemTime} {reply : PmpResponse}
    (haddr : d.publicAddrReply gw = none) (hmap : d.mapReply gw = some (stamp, reply)) :
    { h with
      externalPort := reply.externalPort
      goodUntil := stamp + reply.mappingValidSeconds.toNat * nanosPerSec
      renewAfter := stamp + reply.mappingValidSeconds.toNat * nanosPerSec / 2
      epoch := reply.secondsSinceEpoch }.Tells gw known (ds ++ [d]) := by
  refine ⟨?_, ?_, ?_⟩
  · rw [addressOf_snoc, haddr, Option.none_or]
    exact ht.address
  · rw [lastMapReply_snoc, hmap, Option.some_or]
    exact fun hnone => (by cases hnone)
  · rw [lastMapReply_snoc, hmap, Option.some_or]
    intro stamp' reply' heq
    cases heq
    exact ⟨rfl, rfl, rfl, rfl⟩

/-- One datagram keeps the invariant. -/
theorem hear (ht : h.Tells gw known ds) (d : Datagram) :
    (h.hear gw d).Tells gw known (ds ++ [d]) := by
  have hother : pmpOpReply ||| pmpOpMapPublicAddr ≠ pmpOpReply ||| pmpOpMapUdp := by decide
  unfold Halves.hear
  cases hanswer : d.answer gw with
  | none =>
    refine ht.keep ?_ ?_
    · rw [Datagram.publicAddrReply, hanswer, Option.bind_none]
    · rw [Datagram.mapReply, hanswer, Option.bind_none]
  | some pres =>
    have haddr : d.publicAddrReply gw =
        if pres.opCode = pmpOpReply ||| pmpOpMapPublicAddr then some (octetsAt d.pkt 8) else none := by
      rw [Datagram.publicAddrReply, hanswer, Option.bind_some]
    have hmap : d.mapReply gw =
        if pres.opCode = pmpOpReply ||| pmpOpMapUdp then some (d.stamp, pres) else none := by
      rw [Datagram.mapReply, hanswer, Option.bind_some]
    dsimp only
    unfold Halves.take
    -- the two opcodes exclude each other
    by_cases hop : pres.opCode = pmpOpReply ||| pmpOpMapPublicAddr
    · have hudp : pres.opCode ≠ pmpOpReply ||| pmpOpMapUdp := fun hudp =>
        hother (hop.symm.trans hudp)
      rw [if_pos hop] at haddr
      rw [if_neg hudp] at hmap
      rw [if_pos hop, if_neg hudp, publicAddr_of_parse (parse_of_answer hanswer), if_pos hop,
        publicAddrAt_eq]
      exact ht.readdress haddr hmap
    · rw [if_neg hop] at haddr
      rw [if_neg hop]
      by_cases hudp : pres.opCode = pmpOpReply ||| pmpOpMapUdp
      · rw [if_pos hudp] at hmap
        rw [if_pos hudp]
        exact ht.regrant haddr hmap
      · rw [if_neg hudp] at hmap
        rw [if_neg hudp]
        exact ht.keep haddr hmap

/-- Both halves are in where the datagrams complete the pair. -/
theorem complete_iff (ht : h.Tells gw known ds) :
    h.complete = true ↔ ∃ ip stamp reply, Completes gw known ds ip stamp reply := by
  unfold Halves.complete
  rw [Bool.and_eq_true, bne_iff_ne, ht.address, Option.isSome_iff_exists]
  constructor
  · rintro ⟨⟨ip, hip⟩, hport⟩
    obtain ⟨haddress, hspecified⟩ := Option.filter_eq_some_iff.mp hip
    cases hreply : lastMapReply gw ds with
    | none => exact absurd (ht.unasked hreply) hport
    | some r =>
      obtain ⟨hp, -⟩ := ht.granted r.1 r.2 hreply
      rw [hp] at hport
      exact ⟨ip, r.1, r.2, haddress, of_decide_eq_true hspecified, hreply, hport⟩
  · rintro ⟨ip, stamp, reply, hc⟩
    obtain ⟨hp, -⟩ := ht.granted stamp reply hc.mapping
    refine ⟨⟨ip, ?_⟩, ?_⟩
    · rw [hc.address, filter_specified hc.specified]
    · rw [hp]
      exact hc.port

end Halves.Tells

/-- **Every prefix of a conversation tells.** -/
theorem tells_hearAll (a : Ask) (now : SystemTime) (hknown : a.knownExternalIp ≠ some unspecified)
    (ds : List Datagram) :
    ((a.halves now).hearAll a.gw ds).Tells a.gw a.knownExternalIp ds := by
  induction ds using List.reverseRecOn with
  | nil =>
    refine ⟨?_, fun _ => rfl, fun stamp reply hnone => (by cases hnone)⟩
    show a.knownExternalIp = _
    unfold addressOf
    rw [List.filterMap_nil, List.getLast?_nil, Option.none_or]
    cases hip : a.knownExternalIp with
    | none => rfl
    | some ip =>
      rw [hip] at hknown
      have hspecified : ip ≠ unspecified := fun heq => hknown (congrArg some heq)
      exact (filter_specified hspecified).symm
  | append_singleton ds d ih =>
    have hlast : (a.halves now).hearAll a.gw (ds ++ [d]) =
        ((a.halves now).hearAll a.gw ds).hear a.gw d := by
      unfold Halves.hearAll
      rw [List.foldl_append]
      rfl
    rw [hlast]
    exact ih.hear d

/-! ## The call -/

/-- `CLOSED_CLIENT`. -/
def closedClient : String := "client closed"

/-- How the call returns, and what it leaves: what was granted is stored, and a client that was
    closed meanwhile refuses it. -/
def Ask.conclude (a : Ask) (st : State) : Outcome → Except String SocketAddr × Option Mapping × State
  | .granted g _ =>
    let m := a.mapping g
    (if st.closed then .error closedClient else .ok m.external, st.storeMapping m)
  | .failed cause => (.error cause, none, st)

/-- The call that asked over NAT-PMP returns with this mapping, which it stored. -/
def ObtainsPmp (a : Ask) (st : State) (now : SystemTime) (ds : List Datagram) (m : Mapping) : Prop :=
  m.kind = .pmp ∧
    a.conclude st (converse a .pmp now ds) = (.ok m.external, none, { st with mapping := some m })

/-- A prefix of the datagrams is read that completes the pair: nothing in it ends the call. -/
def Reached (a : Ask) (ds pre : List Datagram) (ip : List Nat) (stamp : SystemTime)
    (reply : PmpResponse) : Prop :=
  pre <+: ds ∧ (∀ d ∈ pre, d.ends a.gw = false) ∧
    Completes a.gw a.knownExternalIp pre ip stamp reply

/-- The mapping is the pair: the address, and the port, lease and epoch of the MAP answer. -/
structure IsPair (a : Ask) (m : Mapping) (ip : List Nat) (stamp : SystemTime) (reply : PmpResponse) :
    Prop where
  gw : m.gw = ⟨a.gw, pxpPort⟩
  internal : m.internal = a.internal
  external : m.external = ⟨.v4 ip, reply.externalPort⟩
  epoch : m.epoch = reply.secondsSinceEpoch
  lifetime : m.goodUntil = stamp + reply.mappingValidSeconds.toNat * nanosPerSec
  renewable : stamp ≤ m.renewAfter
  ordered : m.renewAfter ≤ m.goodUntil

/-- The loop starts with a half missing. -/
theorem halves_incomplete (a : Ask) (now : SystemTime) : (a.halves now).complete = false := by
  unfold Halves.complete Ask.halves
  rw [bne_self_eq_false, Bool.and_false]

/-- The call returns with the mapping exactly when the conversation granted it to an open client. -/
theorem obtainsPmp_iff {a : Ask} {st : State} {now : SystemTime} {ds : List Datagram} {m : Mapping} :
    ObtainsPmp a st now ds m ↔
      st.closed = false ∧ ∃ g reply, converse a .pmp now ds = .granted g reply ∧ g.kind = .pmp ∧
        m = a.mapping g := by
  unfold ObtainsPmp
  cases hconverse : converse a .pmp now ds with
  | failed cause =>
    refine iff_of_false ?_ ?_
    · rintro ⟨-, h⟩
      cases congrArg Prod.fst h
    · rintro ⟨-, g, reply, h, -⟩
      cases h
  | granted g reply =>
    dsimp only [Ask.conclude, State.storeMapping]
    cases hclosed : st.closed with
    | true =>
      refine iff_of_false ?_ fun h => (by cases h.1)
      rintro ⟨-, h⟩
      cases congrArg Prod.fst h
    | false =>
      constructor
      · rintro ⟨hkind, h⟩
        have hm : a.mapping g = m := Option.some.inj (congrArg (fun r => r.2.2.mapping) h)
        refine ⟨rfl, g, reply, rfl, ?_, hm.symm⟩
        rw [← hm] at hkind
        exact hkind
      · rintro ⟨-, g', reply', heq, hkind, rfl⟩
        cases heq
        exact ⟨hkind, rfl⟩

/-- A property that some prefix has, has a first prefix that has it. -/
theorem exists_first_prefix {α : Type*} {P : List α → Prop} {l : List α}
    (h : ∃ pre, pre <+: l ∧ P pre) :
    ∃ pre, pre <+: l ∧ P pre ∧ ∀ q, q <+: pre → q ≠ pre → ¬ P q := by
  induction l using List.reverseRecOn with
  | nil =>
    obtain ⟨pre, hpre, hP⟩ := h
    obtain rfl := List.prefix_nil.mp hpre
    exact ⟨[], hpre, hP, fun q hq hne => absurd (List.prefix_nil.mp hq) hne⟩
  | append_singleton l d ih =>
    by_cases hearlier : ∃ pre, pre <+: l ∧ P pre
    · obtain ⟨pre, hpre, hfirst⟩ := ih hearlier
      exact ⟨pre, hpre.trans (List.prefix_append l [d]), hfirst⟩
    · obtain ⟨pre, hpre, hP⟩ := h
      refine ⟨pre, hpre, hP, ?_⟩
      rcases List.prefix_concat_iff.mp hpre with rfl | hpre
      · intro q hq hne hQ
        rcases List.prefix_concat_iff.mp hq with heq | hq
        · exact hne heq
        · exact hearlier ⟨q, hq, hQ⟩
      · exact absurd ⟨pre, hpre, hP⟩ hearlier

/-- **The first prefix that completes the pair is what the conversation grants.** -/
theorem granted_of_reached {a : Ask} {now : SystemTime} {ds pre : List Datagram} {ip : List Nat}
    {stamp : SystemTime} {reply : PmpResponse} (hknown : a.knownExternalIp ≠ some unspecified)
    (h : Reached a ds pre ip stamp reply)
    (hfirst : ∀ q, q <+: pre → q ≠ pre → ∀ ip stamp reply,
      ¬ Completes a.gw a.knownExternalIp q ip stamp reply) :
    ∃ g d, converse a .pmp now ds = .granted g d ∧ g.kind = .pmp := by
  obtain ⟨⟨post, rfl⟩, hends, hc⟩ := h
  have htells := tells_hearAll a now hknown
  induction pre using List.reverseRecOn with
  | nil =>
    have hnone := hc.mapping
    cases hnone
  | append_singleton pre d ih =>
    have hcomplete := (htells (pre ++ [d])).complete_iff.mpr ⟨ip, stamp, reply, hc⟩
    obtain ⟨ip', -, -, hsettle⟩ := settle_of_complete hcomplete
    refine ⟨_, d, (receive_pmp_iff (halves_incomplete a now)).mpr
      ⟨pre, post, by rw [List.append_assoc]; rfl, ⟨?_, ?_⟩, ?_, hsettle⟩⟩
    · exact fun e he => hends e (List.mem_append_left _ he)
    · intro q hq
      have hne : q ≠ pre ++ [d] := by
        rintro rfl
        have hlength := hq.length_le
        rw [List.length_append, List.length_singleton] at hlength
        omega
      have hnone := hfirst q (hq.trans (List.prefix_append pre [d])) hne
      cases hq' : ((a.halves now).hearAll a.gw q).complete with
      | false => rfl
      | true =>
        obtain ⟨ip, stamp, reply, hcq⟩ := (htells q).complete_iff.mp hq'
        exact absurd hcq (hnone ip stamp reply)
    · exact hends d (List.mem_append_right _ List.mem_cons_self)

/-- Half of a lease comes before the whole. -/
theorem halfway (stamp : Int) (seconds : Nat) :
    stamp ≤ stamp + seconds * nanosPerSec / 2 ∧
      stamp + seconds * nanosPerSec / 2 ≤ stamp + seconds * nanosPerSec := by
  unfold nanosPerSec
  omega

/-- A NAT-PMP grant is the pair of the first prefix that completes one. -/
theorem reached_of_granted {a : Ask} {now : SystemTime} {ds : List Datagram} {g : Grant}
    {d : Datagram} (hknown : a.knownExternalIp ≠ some unspecified)
    (h : converse a .pmp now ds = .granted g d) (hkind : g.kind = .pmp) :
    ∃ pre ip stamp reply, Reached a ds pre ip stamp reply ∧
      (∀ q, q <+: pre → q ≠ pre → ∀ ip stamp reply,
        ¬ Completes a.gw a.knownExternalIp q ip stamp reply) ∧
      IsPair a (a.mapping g) ip stamp reply := by
  have htells := tells_hearAll a now hknown
  obtain ⟨pre, post, rfl, ⟨hends, hundecided⟩, hd, hsettle⟩ :=
    (receive_pmp_iff (halves_incomplete a now)).mp ⟨h, hkind⟩
  have hcomplete : ((a.halves now).hearAll a.gw (pre ++ [d])).complete = true := by
    cases hc : ((a.halves now).hearAll a.gw (pre ++ [d])).complete with
    | true => rfl
    | false =>
      rw [settle_of_incomplete hc] at hsettle
      cases hsettle
  obtain ⟨ip, stamp, reply, hc⟩ := (htells (pre ++ [d])).complete_iff.mp hcomplete
  refine ⟨pre ++ [d], ip, stamp, reply, ⟨⟨post, ?_⟩, ?_, hc⟩, ?_, ?_⟩
  · rw [List.append_assoc]
    rfl
  · intro e he
    rcases List.mem_append.mp he with he | he
    · exact hends e he
    · rw [List.mem_singleton.mp he]
      exact hd
  · intro q hq hne ip' stamp' reply' hcq
    rcases List.prefix_concat_iff.mp hq with heq | hq
    · exact hne heq
    · have hopen := hundecided q hq
      rw [(htells q).complete_iff.mpr ⟨ip', stamp', reply', hcq⟩] at hopen
      cases hopen
  · obtain ⟨ip', hip, -, hgrant⟩ := settle_of_complete hcomplete
    rw [hgrant] at hsettle
    cases hsettle
    have haddress := (htells (pre ++ [d])).address
    rw [hip, hc.address, filter_specified hc.specified] at haddress
    cases haddress
    obtain ⟨hport, hepoch, hgood, hrenew⟩ := (htells (pre ++ [d])).granted stamp reply hc.mapping
    obtain ⟨hrenewable, hordered⟩ := halfway stamp reply.mappingValidSeconds.toNat
    refine ⟨rfl, rfl, ?_, hepoch, hgood, ?_, ?_⟩
    · exact congrArg (SocketAddr.mk (.v4 ip)) hport
    · show stamp ≤ ((a.halves now).hearAll a.gw (pre ++ [d])).renewAfter
      rw [hrenew]
      exact hrenewable
    · show ((a.halves now).hearAll a.gw (pre ++ [d])).renewAfter ≤
        ((a.halves now).hearAll a.gw (pre ++ [d])).goodUntil
      rw [hrenew, hgood]
      exact hordered

/-- What does not come from the gateway's port is as if it had not come. -/
theorem receive_filter (gw : IpAddr) (pcpNonce : Option (List UInt8)) (h : Halves)
    (ds : List Datagram) :
    receive gw pcpNonce h (ds.filter fun d => d.fromGateway gw) = receive gw pcpNonce h ds := by
  induction ds generalizing h with
  | nil => rfl
  | cons d ds ih =>
    cases hsource : d.fromGateway gw with
    | false =>
      have hforeign : Portmap.hear gw pcpNonce h d = .waiting h := by
        unfold Portmap.hear
        rw [hsource]
        rfl
      rw [List.filter_cons, hsource, if_neg (by decide), ih, receive, hforeign]
    | true =>
      rw [List.filter_cons, if_pos hsource, receive, receive]
      cases Portmap.hear gw pcpNonce h d with
      | waiting h' => exact ih h'
      | granted g => rfl
      | failed cause => rfl

/-! ## What a call knows beforehand -/

/-- A probe records the address of a reply. -/
def HearsReplies (_ : Client) : Event → Prop
  | .heardPmp publicAddr _ _ =>
    ∃ pkt pres, parsePmpResponse pkt = some pres ∧ publicAddr = pres.publicAddr
  | _ => True

/-- No address the client knows, or asks with, is zeros. -/
structure Client.Specified (c : Client) : Prop where
  state : c.state.pmpPubIp ≠ some unspecified
  asks : ∀ attempt ∈ c.attempts, ∀ a, attempt.phase = .asking a →
    a.knownExternalIp ≠ some unspecified

/-- A reply never has one. -/
theorem publicAddr_specified {pkt : List UInt8} {pres : PmpResponse}
    (h : parsePmpResponse pkt = some pres) : pres.publicAddr ≠ some unspecified := by
  rw [publicAddr_of_parse h, publicAddrAt_eq]
  split
  · intro heq
    exact absurd rfl (of_decide_eq_true (Option.filter_eq_some_iff.mp heq).2)
  · exact fun hnone => (by cases hnone)

/-- The address is kept or forgotten by every section but the one that hears a reply. -/
theorem pmpPubIp_of_sections (st : State) :
    (∀ port, (st.setLocalPort port).2.pmpPubIp = st.pmpPubIp ∨
      (st.setLocalPort port).2.pmpPubIp = none) ∧
    (st.close.2.pmpPubIp = st.pmpPubIp ∨ st.close.2.pmpPubIp = none) ∧
    (∀ found, (st.gatewayAndSelfIp found).2.pmpPubIp = st.pmpPubIp ∨
      (st.gatewayAndSelfIp found).2.pmpPubIp = none) ∧
    (∀ epoch now, (st.heardPcp epoch now).pmpPubIp = st.pmpPubIp) ∧
    ∀ m, (st.storeMapping m).2.pmpPubIp = st.pmpPubIp := by
  refine ⟨?_, ?_, ?_, ?_, ?_⟩
  · intro port
    unfold State.setLocalPort
    split
    · exact .inl rfl
    · exact .inr rfl
  · unfold State.close
    split
    · exact .inl rfl
    · exact .inr rfl
  · intro found
    unfold State.gatewayAndSelfIp
    dsimp only
    split
    · exact .inr rfl
    · exact .inl rfl
  · intro epoch now
    unfold State.heardPcp State.maybeInvalidatePcpMapping
    split
    · rfl
    · split
      · rfl
      · split
        · rfl
        · rfl
  · intro m
    unfold State.storeMapping
    split
    · rfl
    · rfl

/-- What a snapshot asks with is what the state knows, or nothing. -/
theorem snapshot_known {k : Knobs} {st : State} {gw myIp : IpAddr} {now : SystemTime} {a : Ask}
    (h : snapshot k st gw myIp now = .ask a) :
    a.knownExternalIp = st.pmpPubIp ∨ a.knownExternalIp = none := by
  unfold snapshot at h
  dsimp only at h
  split at h
  · cases h
  · split at h
    · cases h
    · split at h
      · cases h
      · cases h
        dsimp only
        split
        · exact .inl rfl
        · exact .inr rfl

namespace Client.Specified

variable {c : Client}

/-- A section that leaves the calls alone. -/
theorem settle (h : c.Specified) {result : Option Mapping × State}
    (hkept : result.2.pmpPubIp = c.state.pmpPubIp ∨ result.2.pmpPubIp = none) :
    (c.settle result).Specified := by
  refine ⟨?_, h.asks⟩
  rcases hkept with hkept | hnone
  · show result.2.pmpPubIp ≠ _
    rw [hkept]
    exact h.state
  · show result.2.pmpPubIp ≠ _
    rw [hnone]
    exact fun heq => (by cases heq)

/-- A call that moves on. -/
theorem advance (h : c.Specified) (i : Nat) (attempt : Attempt) {phase : Phase}
    (hphase : ∀ a, phase = .asking a → a.knownExternalIp ≠ some unspecified) :
    (c.advance i attempt phase).Specified := by
  refine ⟨h.state, ?_⟩
  intro attempt' hmem a ha
  rcases List.mem_or_eq_of_mem_set hmem with hold | rfl
  · exact h.asks attempt' hold a ha
  · exact hphase a ha

/-- A new call. -/
theorem append (h : c.Specified) {st : State} (hstate : st.pmpPubIp = c.state.pmpPubIp)
    (background : Bool) :
    ({ c with state := st, attempts := c.attempts ++ [⟨background, .called⟩] } :
      Client).Specified := by
  refine ⟨?_, ?_⟩
  · show st.pmpPubIp ≠ _
    rw [hstate]
    exact h.state
  · intro attempt hmem a ha
    rcases List.mem_append.mp hmem with hold | hnew
    · exact h.asks attempt hold a ha
    · rw [List.mem_singleton.mp hnew] at ha
      cases ha

/-- No event of a run breaks it. -/
theorem step (h : c.Specified) {c' : Client} {e : Event} (he : HearsReplies c e)
    (hstep : c.step e = some c') : c'.Specified := by
  obtain ⟨hport, hclose, hlookup, hpcp, hstore⟩ := pmpPubIp_of_sections c.state
  have hended : ∀ a, Phase.ended = .asking a → a.knownExternalIp ≠ some unspecified :=
    fun a heq => (by cases heq)
  cases Client.step_does hstep with
  | setLocalPort port => exact h.settle (hport port)
  | noteNetworkDown => exact h.settle (.inr rfl)
  | gatewayAndSelfIp found => exact h.settle (hlookup found)
  | close => exact h.settle hclose
  | heardPmp publicAddr epoch now =>
    obtain ⟨pkt, pres, hparse, rfl⟩ := he
    exact ⟨publicAddr_specified hparse, h.asks⟩
  | heardPcp epoch now =>
    refine ⟨?_, h.asks⟩
    show (c.state.heardPcp epoch now).pmpPubIp ≠ _
    rw [hpcp]
    exact h.state
  | heardUpnp | probed => exact ⟨h.state, h.asks⟩
  | call => exact h.append rfl false
  | unstarted => exact h
  | started =>
    exact h.append (show ({ c.state with runningCreate := true } : State).pmpPubIp = _ from rfl)
      true
  | refused | unasked => exact h.advance _ _ hended
  | entered => exact h.advance _ _ fun a heq => (by cases heq)
  | located gw myIp => exact (h.settle (hlookup _)).advance _ _ fun a heq => (by cases heq)
  | unlocated found => exact (h.settle (hlookup found)).advance _ _ hended
  | asked hask =>
    refine h.advance _ _ fun a heq => ?_
    cases heq
    rcases snapshot_known hask with hknown | hnone
    · rw [hknown]
      exact h.state
    · rw [hnone]
      exact fun heq => (by cases heq)
  | stored hattempt hphase => exact (h.settle (.inl (hstore _))).advance _ _ hended
  | returned =>
    refine ⟨?_, fun attempt hmem => h.asks attempt (List.mem_of_mem_eraseIdx hmem)⟩
    dsimp only
    split
    · exact h.state
    · exact h.state

end Client.Specified

/-- **No call asks with an address of zeros**, in any run. -/
theorem known_specified {knobs : Knobs} {es : List Event} {c : Client}
    (h : Run Client.step HearsReplies { knobs := knobs } es c) : c.Specified := by
  have hstart : ({ knobs := knobs } : Client).Specified :=
    ⟨fun heq => (by cases heq), fun attempt hmem => absurd hmem List.not_mem_nil⟩
  exact h.invariant (fun _ _ _ hc he hstep => hc.step he hstep) hstart

/-! ## The result -/

/-- **A call that asked over NAT-PMP, for every sequence of datagrams**: it obtains a NAT-PMP
    mapping exactly when a prefix that completes the pair is reached and the client is not closed by
    then.  The mapping is the pair of the first such prefix, and what does not come from the
    gateway's port has no part in it. -/
theorem pmp_call_iff (a : Ask) (st : State) (now : SystemTime) (ds : List Datagram)
    (hknown : a.knownExternalIp ≠ some unspecified) :
    ((∃ m, ObtainsPmp a st now ds m) ↔
      st.closed = false ∧ ∃ pre ip stamp reply, Reached a ds pre ip stamp reply) ∧
    (∀ m, ObtainsPmp a st now ds m → ∃ pre ip stamp reply, Reached a ds pre ip stamp reply ∧
      (∀ q, q <+: pre → q ≠ pre → ∀ ip stamp reply,
        ¬ Completes a.gw a.knownExternalIp q ip stamp reply) ∧ IsPair a m ip stamp reply) ∧
    converse a .pmp now (ds.filter fun d => d.fromGateway a.gw) = converse a .pmp now ds := by
  refine ⟨⟨?_, ?_⟩, ?_, receive_filter a.gw none (a.halves now) ds⟩
  · rintro ⟨m, hm⟩
    obtain ⟨hopen, g, d, hgranted, hkind, -⟩ := obtainsPmp_iff.mp hm
    obtain ⟨pre, ip, stamp, reply, hreached, -⟩ := reached_of_granted hknown hgranted hkind
    exact ⟨hopen, pre, ip, stamp, reply, hreached⟩
  · rintro ⟨hopen, pre, ip, stamp, reply, hpre, hends, hc⟩
    have hreached : ∃ pre, pre <+: ds ∧ (∀ d ∈ pre, d.ends a.gw = false) ∧
        ∃ ip stamp reply, Completes a.gw a.knownExternalIp pre ip stamp reply :=
      ⟨pre, hpre, hends, ip, stamp, reply, hc⟩
    -- a prefix of one that nothing ends is not ended either, so the first that completes counts
    obtain ⟨q, hq, ⟨hqends, ip, stamp, reply, hqc⟩, hfirst⟩ := exists_first_prefix hreached
    obtain ⟨g, d, hgranted, hkind⟩ := granted_of_reached hknown ⟨hq, hqends, hqc⟩
      fun r hr hne ip stamp reply hrc =>
        hfirst r hr hne ⟨fun d hd => hqends d (hr.subset hd), ip, stamp, reply, hrc⟩
    exact ⟨a.mapping g, obtainsPmp_iff.mpr ⟨hopen, g, d, hgranted, hkind, rfl⟩⟩
  · intro m hm
    obtain ⟨-, g, d, hgranted, hkind, rfl⟩ := obtainsPmp_iff.mp hm
    exact reached_of_granted hknown hgranted hkind

/-- A public-address answer of the home router. -/
def addressReply (octets : List UInt8) : Datagram where
  src := ⟨.v4 [192, 168, 1, 1], 5351⟩
  bytes := [0, 0x80, 0, 0, 0, 0, 0, 9] ++ octets
  stamp := 0

/-- A MAP answer of the home router, for two hours. -/
def mapAnswer (port : List UInt8) : Datagram where
  src := ⟨.v4 [192, 168, 1, 1], 5351⟩
  bytes := [0, 0x81, 0, 0, 0, 0, 0, 9, 0xA2, 0xA9] ++ port ++ [0, 0, 0x1C, 0x20]
  stamp := 0

/-- The same from another host. -/
def strayAnswer : Datagram := { mapAnswer [0x30, 0x39] with src := ⟨.v4 [192, 168, 1, 7], 5351⟩ }

/-- The port first, then a stray answer and an address taken back, then the address. -/
theorem pmp_call_port_first :
    (∃ m, ObtainsPmp homeAsk {} 0 [mapAnswer [0x1F, 0x90], strayAnswer, addressReply [0, 0, 0, 0],
        addressReply [203, 0, 113, 5]] m) ∧
      ∃ pre ip stamp reply, Reached homeAsk [mapAnswer [0x1F, 0x90], strayAnswer,
        addressReply [0, 0, 0, 0], addressReply [203, 0, 113, 5]] pre ip stamp reply := by
  have hresult := pmp_call_iff homeAsk {} 0 [mapAnswer [0x1F, 0x90], strayAnswer,
    addressReply [0, 0, 0, 0], addressReply [203, 0, 113, 5]] (by decide)
  have hreached : ∃ pre ip stamp reply, Reached homeAsk [mapAnswer [0x1F, 0x90], strayAnswer,
      addressReply [0, 0, 0, 0], addressReply [203, 0, 113, 5]] pre ip stamp reply :=
    ⟨_, [203, 0, 113, 5], 0, _, List.prefix_rfl, by decide, rfl, by decide, rfl, by decide⟩
  exact ⟨hresult.1.mpr ⟨rfl, hreached⟩, hreached⟩

/-- **A client closed while its call waits refuses what the gateway grants**: both halves arrive,
    and the call fails. -/
theorem closed_call_refused :
    ¬ ∀ (a : Ask) (st : State) (now : SystemTime) (ds : List Datagram),
      a.knownExternalIp ≠ some unspecified →
        ((∃ m, ObtainsPmp a st now ds m) ↔
          ∃ pre ip stamp reply, Reached a ds pre ip stamp reply) := by
  intro hclaim
  have hiff := hclaim homeAsk { closed := true } 0
    [addressReply [203, 0, 113, 5], mapAnswer [0x1F, 0x90]] (by decide)
  obtain ⟨m, hm⟩ := hiff.mpr
    ⟨_, [203, 0, 113, 5], 0, _, List.prefix_rfl, by decide, rfl, by decide, rfl, by decide⟩
  cases (obtainsPmp_iff.mp hm).1

end Portmap

end Tailnetd
