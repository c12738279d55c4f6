/-
  What the gateway's answers make of a port-mapping conversation (`portmap.rs`).

  A call of `create_or_get_mapping` asks over NAT-PMP or over PCP, and then reads what comes from
  the gateway's port until it has a mapping.  NAT-PMP answers in two halves, the external address
  and the external port; a PCP answer is the whole grant.  The loop goes by the first byte of a
  datagram and not by what was asked: a PCP grant is taken whatever the request was, and its opcode
  is not looked at.  So a gateway that answers PCP to a NAT-PMP request leaves a PCP mapping without
  a nonce, and any PCP reply of sixty bytes with result 0 is a grant.
-/
import Tailnetd.PortmapNonce

namespace Tailnetd

namespace Portmap

open Machine

/-! ## Datagrams -/

/-- A datagram as `recv_from` hands it over, and the time it is handled at. -/
structure Datagram where
  src : SocketAddr
  bytes : List UInt8
  stamp : SystemTime
  deriving DecidableEq, Repr

/-- `RECV_BUF`: what is longer is cut off. -/
def recvBuf : Nat := 1500

/-- One byte of a packet. -/
def byteAt (pkt : List UInt8) (i : Nat) : UInt8 := pkt.getD i 0

/-- `u16::from_be_bytes`, at an offset. -/
def u16At (pkt : List UInt8) (i : Nat) : UInt16 :=
  UInt16.ofNat ((byteAt pkt i).toNat * 256 + (byteAt pkt (i + 1)).toNat)

/-- `u32::from_be_bytes`, at an offset. -/
def u32At (pkt : List UInt8) (i : Nat) : UInt32 :=
  UInt32.ofNat ((u16At pkt i).toNat * 65536 + (u16At pkt (i + 2)).toNat)

def pmpVersion : UInt8 := 0

def pmpOpMapPublicAddr : UInt8 := 0

def pmpOpMapUdp : UInt8 := 1

def pmpOpReply : UInt8 := 0x80

def pcpVersion : UInt8 := 2

def pcpOpReply : UInt8 := 0x80

def pcpOpMap : UInt8 := 1

/-- `PmpResponse`. -/
structure PmpResponse where
  opCode : UInt8
  resultCode : UInt16
  secondsSinceEpoch : UInt32
  mappingValidSeconds : UInt32 := 0
  internalPort : UInt16 := 0
  externalPort : UInt16 := 0
  publicAddr : Option (List Nat) := none
  deriving DecidableEq, Repr

/-- The public address of a reply; the unspecified one is none. -/
def publicAddrAt (pkt : List UInt8) (i : Nat) : Option (List Nat) :=
  let octets := [(byteAt pkt i).toNat, (byteAt pkt (i + 1)).toNat, (byteAt pkt (i + 2)).toNat,
    (byteAt pkt (i + 3)).toNat]
  if octets = [0, 0, 0, 0] then none else some octets

/-- `parse_pmp_response`. -/
def parsePmpResponse (pkt : List UInt8) : Option PmpResponse :=
  if pkt.length < 12 then none
  else if byteAt pkt 0 ≠ pmpVersion then none
  else
    let res : PmpResponse :=
      { opCode := byteAt pkt 1, resultCode := u16At pkt 2, secondsSinceEpoch := u32At pkt 4 }
    if res.opCode = pmpOpReply ||| pmpOpMapUdp then
      if pkt.length ≠ 16 then none
      else
        some { res with
          internalPort := u16At pkt 8
          externalPort := u16At pkt 10
          mappingValidSeconds := u32At pkt 12 }
    else if res.opCode = pmpOpReply ||| pmpOpMapPublicAddr then
      if pkt.length ≠ 12 then none else some { res with publicAddr := publicAddrAt pkt 8 }
    else some res

/-- `PcpResponse`. -/
structure PcpResponse where
  opCode : UInt8
  resultCode : UInt8
  lifetime : UInt32
  epoch : UInt32
  deriving DecidableEq, Repr

/-- `parse_pcp_response`. -/
def parsePcpResponse (b : List UInt8) : Option PcpResponse :=
  if b.length < 24 ∨ byteAt b 0 ≠ pcpVersion then none
  else
    some
      { opCode := byteAt b 1, resultCode := byteAt b 3, lifetime := u32At b 4, epoch := u32At b 8 }

/-- `PcpMapResponse`, the lifetime in nanoseconds. -/
structure PcpMapResponse where
  external : SocketAddr
  lifetime : Int
  epoch : UInt32
  deriving DecidableEq, Repr

/-- `unmap`: an IPv4-mapped address is the IPv4 one. -/
def unmap : IpAddr → IpAddr
  | .v6 [0, 0, 0, 0, 0, 0xFFFF, a, b] => .v4 [a / 256, a % 256, b / 256, b % 256]
  | ip => ip

/-- The sixteen bytes of an address, at an offset. -/
def ipAt (pkt : List UInt8) (i : Nat) : IpAddr :=
  unmap (.v6 ((List.range 8).map fun group => (u16At pkt (i + 2 * group)).toNat))

/-- `parse_pcp_map_response`.  Neither the opcode nor the nonce that is echoed is looked at. -/
def parsePcpMapResponse (resp : List UInt8) : Except String PcpMapResponse :=
  if resp.length < 60 then .error "Does not appear to be PCP MAP response"
  else
    match parsePcpResponse (resp.take 24) with
    | none => .error "Invalid PCP common header"
    | some res =>
      if res.resultCode = 2 then .error "PCP is implemented but not enabled in the router"
      else if res.resultCode ≠ 0 then
        .error ("PCP response not ok, code " ++ toString res.resultCode.toNat)
      else
        .ok
          { external := ⟨ipAt resp 44, u16At resp 42⟩
            lifetime := res.lifetime.toNat * nanosPerSec
            epoch := res.epoch }

/-! ## The receive loop -/

/-- What the NAT-PMP answers have brought so far. -/
structure Halves where
  externalIp : Option (List Nat)
  externalPort : UInt16 := 0
  goodUntil : SystemTime
  renewAfter : SystemTime
  epoch : UInt32 := 0
  deriving DecidableEq, Repr

/-- What one datagram does: the loop reads on, or it has a grant, or the call fails with a cause. -/
inductive Heard where
  | waiting (h : Halves)
  | granted (g : Grant)
  | failed (cause : String)
  deriving DecidableEq, Repr

/-- `PortmapError::NoPortMappingServices`, as it is displayed. -/
def noPortMappingServices : String := "no port mapping services were found"

/-- A number in lower-case hexadecimal. -/
def lowerHex (n : Nat) : String := String.ofList (Nat.toDigits 16 n)

/-- A NAT-PMP answer that is no refusal. -/
def Halves.take (h : Halves) (pres : PmpResponse) (stamp : SystemTime) : Halves :=
  let h :=
    if pres.opCode = pmpOpReply ||| pmpOpMapPublicAddr then { h with externalIp := pres.publicAddr }
    else h
  if pres.opCode = pmpOpReply ||| pmpOpMapUdp then
    let d := pres.mappingValidSeconds.toNat * nanosPerSec
    { h with
      externalPort := pres.externalPort
      goodUntil := stamp + d
      -- renew in half the time
      renewAfter := stamp + d / 2
      epoch := pres.secondsSinceEpoch }
  else h

/-- Both halves are in, or the loop reads on. -/
def Halves.settle (h : Halves) : Heard :=
  match h.externalIp with
  | some ip =>
    if h.externalPort ≠ 0 then
      .granted
        { kind := .pmp
          external := ⟨.v4 ip, h.externalPort⟩
          renewAfter := h.renewAfter
          goodUntil := h.goodUntil
          epoch := h.epoch
          nonce := none }
    else .waiting h
  | none => .waiting h

/-- The mapping of a PCP answer, under the nonce of the request, if that was a PCP one. -/
def PcpMapResponse.grant (grant : PcpMapResponse) (pcpNonce : Option (List UInt8))
    (stamp : SystemTime) : Grant where
  kind := .pcp
  external := grant.external
  renewAfter := stamp + grant.lifetime / 2
  goodUntil := stamp + grant.lifetime
  epoch := grant.epoch
  nonce := pcpNonce

/-- The datagram comes from the port that was asked. -/
def Datagram.fromGateway (d : Datagram) (gw : IpAddr) : Bool :=
  unmap d.src.ip == gw && d.src.port == pxpPort

/-- What is in the buffer. -/
def Datagram.pkt (d : Datagram) : List UInt8 := d.bytes.take recvBuf

/-- One round of the loop. -/
def hear (gw : IpAddr) (pcpNonce : Option (List UInt8)) (h : Halves) (d : Datagram) : Heard :=
  if !d.fromGateway gw then .waiting h
  else if d.pkt.head? = some pmpVersion then
    match parsePmpResponse d.pkt with
    | none => .waiting h
    | some pres =>
      if pres.resultCode ≠ 0 then
        .failed ("PMP response Op=0x" ++ lowerHex pres.opCode.toNat ++ ",Res=0x" ++
          lowerHex pres.resultCode.toNat)
      else (h.take pres d.stamp).settle
  else if d.pkt.head? = some pcpVersion then
    match parsePcpMapResponse d.pkt with
    | .error _ => .failed noPortMappingServices
    | .ok grant => .granted (grant.grant pcpNonce d.stamp)
  else .failed noPortMappingServices

/-- How a conversation ends: with a grant and the datagram that completed it, or with a cause. -/
inductive Outcome where
  | granted (g : Grant) (reply : Datagram)
  | failed (cause : String)
  deriving DecidableEq, Repr

/-- The loop, over what comes before the deadline; then `upnp_fallback`, which never has a
    mapping. -/
def receive (gw : IpAddr) (pcpNonce : Option (List UInt8)) (h : Halves) : List Datagram → Outcome
  | [] => .failed noPortMappingServices
  | d :: ds =>
    match hear gw pcpNonce h d with
    | .waiting h => receive gw pcpNonce h ds
    | .granted g => .granted g d
    | .failed cause => .failed cause

/-- What the loop starts with. -/
def Ask.halves (a : Ask) (now : SystemTime) : Halves where
  externalIp := a.knownExternalIp
  goodUntil := now
  renewAfter := now

/-- A conversation: the request that was sent, and the datagrams that come. -/
def converse (a : Ask) (sent : Sent) (now : SystemTime) (ds : List Datagram) : Outcome :=
  receive a.gw sent.nonce (a.halves now) ds

/-! ## What is a grant -/

/-- A PCP reply that the loop takes for a grant. -/
def Datagram.grantsPcp (d : Datagram) (gw : IpAddr) : Bool :=
  d.fromGateway gw && decide (60 ≤ d.pkt.length) && byteAt d.pkt 0 == pcpVersion &&
    byteAt d.pkt 3 == 0

/-- The opcode of a reply to a MAP request. -/
def pcpMapReply : UInt8 := pcpOpReply ||| pcpOpMap

theorem byteAt_take {pkt : List UInt8} {n i : Nat} (h : i < n) :
    byteAt (pkt.take n) i = byteAt pkt i := by
  unfold byteAt
  rw [List.getD_eq_getElem?_getD, List.getD_eq_getElem?_getD, List.getElem?_take_of_lt h]

theorem head?_eq_some_iff {pkt : List UInt8} (h : pkt ≠ []) (b : UInt8) :
    pkt.head? = some b ↔ byteAt pkt 0 = b := by
  cases pkt with
  | nil => exact absurd rfl h
  | cons c pkt => simp [byteAt]

/-- A PCP datagram is a grant by its length, its version and its result. -/
theorem parsePcpMapResponse_ok_iff {pkt : List UInt8} :
    (∃ grant, parsePcpMapResponse pkt = .ok grant) ↔
      60 ≤ pkt.length ∧ byteAt pkt 0 = pcpVersion ∧ byteAt pkt 3 = 0 := by
  have hheader : byteAt (pkt.take 24) 0 = byteAt pkt 0 := byteAt_take (by decide)
  have hresult : byteAt (pkt.take 24) 3 = byteAt pkt 3 := byteAt_take (by decide)
  unfold parsePcpMapResponse
  by_cases hlength : pkt.length < 60
  · rw [if_pos hlength]
    constructor
    · rintro ⟨grant, h⟩
      cases h
    · rintro ⟨h, -⟩
      omega
  · rw [if_neg hlength]
    have htake : ¬ (pkt.take 24).length < 24 := by
      rw [List.length_take]
      omega
    unfold parsePcpResponse
    rw [hheader]
    by_cases hversion : byteAt pkt 0 = pcpVersion
    · rw [if_neg (not_or.mpr ⟨htake, not_not.mpr hversion⟩)]
      dsimp only
      rw [hresult]
      by_cases hok : byteAt pkt 3 = 0
      · rw [hok]
        exact iff_of_true ⟨_, rfl⟩ ⟨by omega, hversion, rfl⟩
      · refine iff_of_false ?_ fun h => hok h.2.2
        rintro ⟨grant, h⟩
        split at h
        · cases h
        · cases h
    · rw [if_pos (.inr hversion)]
      refine iff_of_false ?_ fun h => hversion h.2.1
      rintro ⟨grant, h⟩
      cases h

/-- **The loop takes a PCP grant for what it is, whatever was asked.** -/
theorem hear_grantsPcp {gw : IpAddr} (pcpNonce : Option (List UInt8)) (h : Halves) {d : Datagram}
    (hgrant : d.grantsPcp gw = true) :
    ∃ g, hear gw pcpNonce h d = .granted g ∧ g.kind = .pcp ∧ g.nonce = pcpNonce := by
  unfold Datagram.grantsPcp at hgrant
  simp only [Bool.and_eq_true, decide_eq_true_eq, beq_iff_eq] at hgrant
  obtain ⟨⟨⟨hsource, hlength⟩, hversion⟩, hresult⟩ := hgrant
  obtain ⟨grant, hparse⟩ := parsePcpMapResponse_ok_iff.mpr ⟨hlength, hversion, hresult⟩
  have hne : d.pkt ≠ [] := by
    intro hnil
    rw [hnil] at hlength
    cases hlength
  have hpmp : d.pkt.head? ≠ some pmpVersion := by
    rw [ne_eq, head?_eq_some_iff hne, hversion]
    decide
  refine ⟨grant.grant pcpNonce d.stamp, ?_, rfl, rfl⟩
  unfold hear
  rw [hsource, if_neg (by decide), if_neg hpmp, if_pos ((head?_eq_some_iff hne _).mpr hversion),
    hparse]

/-- A NAT-PMP grant is no PCP one. -/
theorem settle_kind {h : Halves} {g : Grant} (hg : h.settle = .granted g) : g.kind = .pmp := by
  unfold Halves.settle at hg
  split at hg
  · split at hg
    · cases hg
      rfl
    · cases hg
  · cases hg

/-- And only PCP grants are. -/
theorem grantsPcp_of_hear {gw : IpAddr} {pcpNonce : Option (List UInt8)} {h : Halves}
    {d : Datagram} {g : Grant} (hhear : hear gw pcpNonce h d = .granted g) (hkind : g.kind = .pcp) :
    d.grantsPcp gw = true ∧ g.nonce = pcpNonce := by
  unfold hear at hhear
  split at hhear
  · cases hhear
  · rename_i hsource
    split at hhear
    · split at hhear
      · cases hhear
      · split at hhear
        · cases hhear
        · rw [settle_kind hhear] at hkind
          cases hkind
    · split at hhear
      · split at hhear
        · cases hhear
        · rename_i grant hparse
          cases hhear
          obtain ⟨hlength, hversion, hresult⟩ := parsePcpMapResponse_ok_iff.mp ⟨grant, hparse⟩
          refine ⟨?_, rfl⟩
          unfold Datagram.grantsPcp
          simp only [Bool.and_eq_true, decide_eq_true_eq, beq_iff_eq]
          exact ⟨⟨⟨by simpa using hsource, hlength⟩, hversion⟩, hresult⟩
      · cases hhear

/-! ## The whole conversation -/

/-- What the halves are after these datagrams, if the loop reads on. -/
def stillOpen (gw : IpAddr) (pcpNonce : Option (List UInt8)) (h : Halves) :
    List Datagram → Option Halves
  | [] => some h
  | d :: ds =>
    match hear gw pcpNonce h d with
    | .waiting h => stillOpen gw pcpNonce h ds
    | .granted _ => none
    | .failed _ => none

/-- A datagram that settles the conversation is the last one read. -/
theorem settled_first {gw : IpAddr} {pcpNonce : Option (List UInt8)} {h h' : Halves}
    {d reply : Datagram} {ds pre post : List Datagram}
    (hsettles : ∀ h₁, hear gw pcpNonce h d ≠ .waiting h₁) (heq : d :: ds = pre ++ reply :: post)
    (hopen : stillOpen gw pcpNonce h pre = some h') :
    pre = [] ∧ reply = d ∧ post = ds ∧ h' = h := by
  cases pre with
  | nil =>
    obtain ⟨rfl, rfl⟩ := List.cons.inj heq
    cases hopen
    exact ⟨rfl, rfl, rfl, rfl⟩
  | cons d' pre =>
    obtain ⟨rfl, rfl⟩ := List.cons.inj heq
    rw [stillOpen] at hopen
    cases hhear : hear gw pcpNonce h d with
    | waiting h₁ => exact absurd hhear (hsettles h₁)
    | granted g =>
      rw [hhear] at hopen
      cases hopen
    | failed cause =>
      rw [hhear] at hopen
      cases hopen

/-- The grant of a conversation is that of the datagram that ended it. -/
theorem receive_granted_iff {gw : IpAddr} {pcpNonce : Option (List UInt8)} {h : Halves}
    {ds : List Datagram} {g : Grant} {reply : Datagram} :
    receive gw pcpNonce h ds = .granted g reply ↔
      ∃ pre post h', ds = pre ++ reply :: post ∧ stillOpen gw pcpNonce h pre = some h' ∧
        hear gw pcpNonce h' reply = .granted g := by
  induction ds generalizing h with
  | nil =>
    refine iff_of_false (fun hreceive => (by cases hreceive)) ?_
    rintro ⟨pre, post, h', heq, -⟩
    simp at heq
  | cons d ds ih =>
    rw [receive]
    cases hhear : hear gw pcpNonce h d with
    | waiting h₁ =>
      -- the conversation goes on with what was heard, so the datagram is one of those before
      dsimp only
      rw [ih]
      constructor
      · rintro ⟨pre, post, h', rfl, hopen, hgranted⟩
        refine ⟨d :: pre, post, h', rfl, ?_, hgranted⟩
        rw [stillOpen, hhear]
        exact hopen
      · rintro ⟨pre, post, h', heq, hopen, hgranted⟩
        cases pre with
        | nil =>
          obtain ⟨rfl, rfl⟩ := List.cons.inj heq
          cases hopen
          rw [hhear] at hgranted
          cases hgranted
        | cons d' pre =>
          obtain ⟨rfl, rfl⟩ := List.cons.inj heq
          rw [stillOpen, hhear] at hopen
          exact ⟨pre, post, h', rfl, hopen, hgranted⟩
    | granted g' =>
      have hsettles : ∀ h₁, hear gw pcpNonce h d ≠ .waiting h₁ := by
        intro h₁ hwaiting
        rw [hhear] at hwaiting
        cases hwaiting
      dsimp only
      constructor
      · intro hreceive
        cases hreceive
        exact ⟨[], ds, h, rfl, rfl, hhear⟩
      · rintro ⟨pre, post, h', heq, hopen, hgranted⟩
        obtain ⟨-, rfl, -, rfl⟩ := settled_first hsettles heq hopen
        rw [hhear] at hgranted
        cases hgranted
        rfl
    | failed cause =>
      have hsettles : ∀ h₁, hear gw pcpNonce h d ≠ .waiting h₁ := by
        intro h₁ hwaiting
        rw [hhear] at hwaiting
        cases hwaiting
      refine iff_of_false (fun hreceive => (by cases hreceive)) ?_
      rintro ⟨pre, post, h', heq, hopen, hgranted⟩
      obtain ⟨-, rfl, -, rfl⟩ := settled_first hsettles heq hopen
      rw [hhear] at hgranted
      cases hgranted

/-- A PCP mapping has the nonce of the conversation, and comes from a reply to a MAP request. -/
def GrantsOurs (a : Ask) (sent : Sent) (now : SystemTime) (ds : List Datagram) : Prop :=
  ∀ g reply, converse a sent now ds = .granted g reply → g.kind = .pcp →
    (∃ nonce, sent = .pcp nonce ∧ g.nonce = some nonce) ∧ byteAt reply.pkt 1 = pcpMapReply

/-- A PCP grant that comes while the conversation is open answers a PCP request, with the opcode of
    a MAP reply. -/
def AnsweredAsAsked (a : Ask) (sent : Sent) (now : SystemTime) (ds : List Datagram) : Prop :=
  ∀ pre d post h, ds = pre ++ d :: post → stillOpen a.gw sent.nonce (a.halves now) pre = some h →
    d.grantsPcp a.gw = true → sent ≠ .pmp ∧ byteAt d.pkt 1 = pcpMapReply

/-- **What one conversation grants.** -/
theorem grantsOurs_iff (a : Ask) (sent : Sent) (now : SystemTime) (ds : List Datagram) :
    GrantsOurs a sent now ds ↔ AnsweredAsAsked a sent now ds := by
  constructor
  · intro hours pre d post h heq hopen hgrant
    obtain ⟨g, hhear, hkind, -⟩ := hear_grantsPcp sent.nonce h hgrant
    have hgranted : converse a sent now ds = .granted g d :=
      receive_granted_iff.mpr ⟨pre, post, h, heq, hopen, hhear⟩
    obtain ⟨⟨nonce, hsent, -⟩, hopcode⟩ := hours g d hgranted hkind
    refine ⟨?_, hopcode⟩
    rw [hsent]
    exact fun hpmp => (by cases hpmp)
  · intro hasked g reply hgranted hkind
    obtain ⟨pre, post, h, heq, hopen, hhear⟩ := receive_granted_iff.mp hgranted
    obtain ⟨hgrant, hnonce⟩ := grantsPcp_of_hear hhear hkind
    obtain ⟨hsent, hopcode⟩ := hasked pre reply post h heq hopen hgrant
    refine ⟨?_, hopcode⟩
    cases sent with
    | pmp => exact absurd rfl hsent
    | pcp nonce => exact ⟨nonce, rfl, hnonce⟩

/-! ## Every run -/

/-- The client holds the mapping, or has released it. -/
def Client.Had (c : Client) (m : Mapping) : Prop := c.state.mapping = some m ∨ m ∈ c.released

/-- A section adds no mapping but the one it obtained. -/
theorem Client.Moves.had {c c' : Client} {taken gone : List Mapping}
    {pairs : List (Mapping × Mapping)} (h : Client.Moves c c' taken gone pairs) {m : Mapping}
    (hm : c'.Had m) : c.Had m ∨ m ∈ taken := by
  unfold Client.Had at hm ⊢
  cases h with
  | kept hmapping hreleased hclosed =>
    rw [hmapping, hreleased] at hm
    exact .inl hm
  | released hmapping hreleased hclosed =>
    rw [hmapping, hreleased, List.mem_append, Option.mem_toList] at hm
    rcases hm with hm | hm | hm
    · cases hm
    · exact .inl (.inl hm)
    · exact .inl (.inr hm)
  | dropped hmapping hreleased hclosed =>
    rw [hmapping, hreleased] at hm
    rcases hm with hm | hm
    · cases hm
    · exact .inl (.inr hm)
  | stored hopen hmapping hreleased hclosed =>
    rw [hmapping, hreleased] at hm
    rcases hm with hm | hm
    · cases hm
      exact .inr List.mem_cons_self
    · exact .inl (.inr hm)
  | refused hmapping hreleased hopen hclosed =>
    rw [hmapping, hreleased, List.mem_cons] at hm
    rcases hm with hm | rfl | hm
    · exact .inl (.inl hm)
    · exact .inr List.mem_cons_self
    · exact .inl (.inr hm)

namespace Talk

/-- What a call stores is what its conversation granted, of datagrams that meet the condition. -/
def Answered (w : Talk) : TalkEvent → Prop
  | .lock _ (.storeMapping i g) =>
    ∀ attempt ask sent, w.client.attempts[i]? = some attempt → attempt.phase = .asking ask →
      w.sent[i]? = some (some sent) →
      ∃ now ds reply, converse ask sent now ds = .granted g reply ∧ AnsweredAsAsked ask sent now ds
  | _ => True

/-- Every PCP mapping the client had has its nonce. -/
def Nonced (w : Talk) : Prop := ∀ m, w.client.Had m → m.kind = .pcp → ∃ nonce, m.nonce = some nonce

/-- What a store obtains is the grant, for what the call asked. -/
theorem obtained_store {c c' : Client} {i : Nat} {g : Grant} {m : Mapping}
    (hm : m ∈ c.obtained (.storeMapping i g) c') :
    ∃ attempt ask, c.attempts[i]? = some attempt ∧ attempt.phase = .asking ask ∧
      m = ask.mapping g := by
  dsimp only [Client.obtained] at hm
  split at hm
  · rename_i attempt hattempt
    split at hm
    · rename_i ask hphase
      exact ⟨attempt, ask, hattempt, hphase, List.mem_singleton.mp hm⟩
    · cases hm
  · cases hm

theorem step_nonced {w w' : Talk} {e : TalkEvent} (hw : w.Nonced) (hanswered : w.Answered e)
    (h : w.step e = some w') : w'.Nonced := by
  cases e with
  | lock now e =>
    obtain ⟨hstep, -, -⟩ := step_lock h
    intro m hm hkind
    rcases (Client.step_moves hstep).had hm with hold | hnew
    · exact hw m hold hkind
    · cases e with
      | storeMapping i g =>
        obtain ⟨attempt, ask, hattempt, hphase, rfl⟩ := obtained_store hnew
        dsimp only [step] at h
        split at h
        · rename_i sent hsent
          obtain ⟨now, ds, reply, hgranted, hasked⟩ :=
            hanswered attempt ask sent hattempt hphase hsent
          obtain ⟨⟨nonce, -, hnonce⟩, -⟩ :=
            (grantsOurs_iff ask sent now ds).mpr hasked g reply hgranted hkind
          exact ⟨nonce, hnonce⟩
        · cases h
      | _ => cases hnew
  | send i now nonce =>
    have hclient : w'.client = w.client := by
      dsimp only [step] at h
      split at h
      · split at h
        · cases h
          rfl
        · cases h
          rfl
      · cases h
    intro m hm
    rw [hclient] at hm
    exact hw m hm

end Talk

open Talk

/-- **A PCP mapping is ours exactly where a PCP grant answers a PCP request as a MAP reply**, for
    every conversation; and in a run all of whose conversations are so, no PCP mapping is ever
    without its nonce, so that no release falls back to zeros. -/
theorem pcp_grants_ours_iff (a : Ask) (sent : Sent) (now : SystemTime) (ds : List Datagram)
    (knobs : Knobs) :
    (GrantsOurs a sent now ds ↔ AnsweredAsAsked a sent now ds) ∧
    ∀ (es : List TalkEvent) (w : Talk),
      Run Talk.step Answered { client := { knobs := knobs } } es w → ∀ m, w.client.Had m →
        m.kind = .pcp → ∃ nonce, m.nonce = some nonce := by
  refine ⟨grantsOurs_iff a sent now ds, ?_⟩
  intro es w hrun
  refine hrun.invariant (P := Nonced) (fun _ _ _ hw hanswered hstep => ?_) ?_
  · exact step_nonced hw hanswered hstep
  · rintro m (hm | hm)
    · cases hm
    · cases hm

/-! ## A reply to another question -/

/-- What a call asks that prefers NAT-PMP. -/
def homeAsk : Ask where
  gw := .v4 [192, 168, 1, 1]
  internal := ⟨.v4 [192, 168, 1, 20], 41641⟩
  prevPort := 0
  haveRecentPmp := false
  haveRecentPcp := false
  knownExternalIp := none

/-- Sixty bytes of a PCP reply with result 0, for two hours. -/
def pcpReply (opCode : UInt8) : Datagram where
  src := ⟨.v4 [192, 168, 1, 1], 5351⟩
  bytes := [2, opCode, 0, 0, 0, 0, 0x1C, 0x20] ++ List.replicate 52 0
  stamp := 0

/-- A single MAP reply is what was asked for over PCP. -/
theorem mapReply_answered (a : Ask) (nonce : List UInt8) (now : SystemTime) :
    AnsweredAsAsked a (.pcp nonce) now [pcpReply 0x81] := by
  intro pre d post h heq hopen hgrant
  cases pre with
  | nil =>
    obtain ⟨rfl, -⟩ := List.cons.inj heq
    exact ⟨fun hpmp => (by cases hpmp), by decide⟩
  | cons d' pre =>
    obtain ⟨-, hnil⟩ := List.cons.inj heq
    simp at hnil

/-- What it grants. -/
def replyGrant : Grant where
  kind := .pcp
  external := ⟨.v6 (List.replicate 8 0), 0⟩
  renewAfter := 3600 * nanosPerSec
  goodUntil := 7200 * nanosPerSec
  epoch := 0
  nonce := some nonce₁

/-- A call that asks over PCP alone stores it. -/
def answeredCreation : List TalkEvent :=
  [.lock 0 (.setLocalPort 41641), .lock 0 .call, .lock 0 (.enter 0),
    .lock 0 (.locate 0 (some homeRouter)), .lock 0 (.snapshot 0 0), .send 0 0 nonce₁,
    .lock 0 (.storeMapping 0 replyGrant)]

/-- A MAP reply to a PCP request is taken with the nonce of the request, and the mapping keeps
    it. -/
theorem pcp_grants_ours_map :
    GrantsOurs homeAsk (.pcp nonce₁) 0 [pcpReply 0x81] ∧
      ∃ w, Run Talk.step Answered { client := { knobs := pcpOnly.knobs } } answeredCreation w ∧
        w.client.state.mapping.isSome = true ∧
        ∀ m, w.client.Had m → m.kind = .pcp → ∃ nonce, m.nonce = some nonce := by
  refine ⟨(pcp_grants_ours_iff _ _ _ _ pcpOnly.knobs).1.mpr (mapReply_answered _ _ _), ?_⟩
  have hrun : ∃ w, Run Talk.step Answered { client := { knobs := pcpOnly.knobs } }
      answeredCreation w ∧ w.client.state.mapping.isSome = true := by
    refine ⟨_, .cons trivial rfl <| .cons trivial rfl <| .cons trivial rfl <| .cons trivial rfl <|
      .cons trivial rfl <| .cons trivial rfl <| .cons ?_ rfl <| .nil _, rfl⟩
    intro attempt ask sent hattempt hphase hsent
    cases hattempt
    cases hphase
    cases hsent
    exact ⟨0, [pcpReply 0x81], pcpReply 0x81, rfl, mapReply_answered _ _ _⟩
  obtain ⟨w, hrun, hheld⟩ := hrun
  exact ⟨w, hrun, hheld, (pcp_grants_ours_iff homeAsk .pmp 0 [] _).2 _ _ hrun⟩

/-- **A PCP reply to an ANNOUNCE is taken as the answer to a NAT-PMP request**: the mapping is a PCP
    one without a nonce. -/
theorem announce_grants :
    ¬ ∀ (a : Ask) (sent : Sent) (now : SystemTime) (ds : List Datagram), GrantsOurs a sent now ds := by
  intro hclaim
  have hours := hclaim homeAsk .pmp 0 [pcpReply 0x80]
  obtain ⟨g, hgranted, hkind, hnonce⟩ : ∃ g,
      converse homeAsk .pmp 0 [pcpReply 0x80] = .granted g (pcpReply 0x80) ∧ g.kind = .pcp ∧
        g.nonce = none := ⟨_, rfl, rfl, rfl⟩
  obtain ⟨⟨nonce, hsent, -⟩, -⟩ := hours g _ hgranted hkind
  cases hsent

end Portmap

end Tailnetd
