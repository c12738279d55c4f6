/-
  The 4via6 routes: the encoder and decoder of `debug via` (`tnet.rs`) and the validator of
  advertised routes (`routes.rs`).

  1. **Program** — `map_via` lays the range, the site id and the IPv4 address behind each other and
     adds 96 to the length; `unmap_via` cuts the octets at the same places.  The validator has its
     own offsets, its own bound on the site and asks for a masked prefix besides; the decoder does
     not, and the encoder takes host bits and any 32-bit site.

  2. **Numbers** — an address is a number, its octets and its segments two rows for it, and being
     masked is being divisible by a power of two (`Ipv4Net.masked_iff`, `Ipv6Net.masked_iff`).  A
     4via6 address is the number `(range * 2 ^ 32 + site) * 2 ^ 32 + v4` (`number_mapVia`), so the
     96 bits in front of the IPv4 address never have a host bit, whatever the length.

  3. **Agreement** — encoder and decoder are inverse to one another and the decoder answers exactly
     in the range from `/96` on; a route is advertisable exactly when its site has 16 bits and its
     IPv4 prefix is masked (`via_routes_agree`).
-/
import Tailnetd.Lib.BigEndian
import Tailnetd.Lib.Radix
import Tailnetd.Boot
import Tailnetd.RouteSet
import Tailnetd.Ssh

namespace Tailnetd

/-! ## Encoding and decoding -/

/-- `VIA_RANGE_PREFIX`: the leading octets of the range. -/
def viaRangeOctets : Vector UInt8 8 := #v[0xfd, 0x7a, 0x11, 0x5c, 0xa1, 0xe0, 0x0b, 0x1a]

/-- `u32::to_be_bytes`. -/
def toBeBytes (n : UInt32) : Vector UInt8 4 :=
  #v[UInt8.ofNat (n.toNat / 2 ^ 24), UInt8.ofNat (n.toNat / 2 ^ 16), UInt8.ofNat (n.toNat / 2 ^ 8),
    UInt8.ofNat n.toNat]

/-- `u32::from_be_bytes`. -/
def fromBeBytes (bytes : Vector UInt8 4) : UInt32 :=
  UInt32.ofNat (bytes[0].toNat * 2 ^ 24 + bytes[1].toNat * 2 ^ 16 + bytes[2].toNat * 2 ^ 8 +
    bytes[3].toNat)

/-- `map_via`: the range, the site id and the IPv4 address behind each other. -/
def mapVia (siteId : UInt32) (v4 : Ipv4Net) : Except String Ipv6Net :=
  match Ipv6Net.new (viaRangeOctets ++ toBeBytes siteId ++ v4.addr) (v4.prefixLen + 96) with
  | some route => .ok route
  | none => .error "constructing the 4via6 route"

/-- `unmap_via`: the site id and the IPv4 prefix of a route in the range. -/
def unmapVia (via : Ipv6Net) : Except String (UInt32 × Ipv4Net) :=
  let octets := via.addr
  if octets.toList.take 8 ≠ viaRangeOctets.toList then
    .error (via.toText ++
      " is not a 4via6 route (not within the fd7a:115c:a1e0:b1a::/64 via range)")
  else if via.prefixLen < 96 then
    .error (via.toText ++
      " is too short to be a 4via6 route (need at least a /96 to carry the site id + IPv4)")
  else
    let siteId := fromBeBytes #v[octets[8], octets[9], octets[10], octets[11]]
    let v4Addr : Vector UInt8 4 := #v[octets[12], octets[13], octets[14], octets[15]]
    match Ipv4Net.new v4Addr (via.prefixLen - 96) with
    | some v4 => .ok (siteId, v4)
    | none => .error "reconstructing the IPv4 CIDR"

/-- The parsers of the prefixes of one family. -/
structure NetParsers where
  ipv4 : String → Option Ipv4Net
  ipv6 : String → Option Ipv6Net

/-- `str::parse::<u32>`. -/
def parseU32 (text : String) : Option UInt32 :=
  (Radix.fromStrRadix 10 (2 ^ 32) text.toList).map UInt32.ofNat

/-- `run_debug_via`: what it prints, or why it fails. -/
def runDebugVia (N : NetParsers) (siteOrRoute : String) : Option String → Except String String
  | some cidr =>
    match parseU32 siteOrRoute with
    | none => .error ("site id must be a non-negative integer, got " ++ quoted siteOrRoute)
    | some siteId =>
      if 0xffff < siteId then
        .error ("site id " ++ toString siteId.toNat ++ " is out of range (must be 0..=65535)")
      else
        match N.ipv4 cidr with
        | none => .error ("invalid IPv4 CIDR " ++ quoted cidr)
        | some v4 =>
          match mapVia siteId v4 with
          | .error e => .error e
          | .ok route => .ok route.toText
  | none =>
    match N.ipv6 siteOrRoute with
    | none => .error ("expected an IPv6 4via6 route to decode, got " ++ quoted siteOrRoute)
    | some via =>
      match unmapVia via with
      | .error e => .error e
      | .ok (siteId, v4) =>
        .ok ("site " ++ toString siteId.toNat ++ " (0x" ++ hexText siteId.toNat ++ "), " ++
          v4.toText)

/-! ## Addresses as numbers -/

/-- The number that octets stand for. -/
def number (octets : List UInt8) : Nat := BigEndian.value 8 (octets.map UInt8.toNat)

/-- An address within `fd7a:115c:a1e0:b1a::/64`. -/
def Ipv6Net.InViaRange (via : Ipv6Net) : Prop :=
  number via.addr.toList / 2 ^ 64 = 0xfd7a115ca1e00b1a

/-- A prefix that is its own masked form. -/
def Ipv4Net.Masked (net : Ipv4Net) : Prop := net.toIpNet.trunc = net.toIpNet

theorem fits_octets (octets : List UInt8) : BigEndian.Fits 8 (octets.map UInt8.toNat) := by
  intro part hpart
  obtain ⟨octet, -, rfl⟩ := List.mem_map.mp hpart
  exact octet.toNat_lt

theorem number_append (high low : List UInt8) :
    number (high ++ low) = number high * 2 ^ (8 * low.length) + number low := by
  unfold number
  rw [List.map_append, BigEndian.value_append, List.length_map]

theorem number_lt (octets : List UInt8) : number octets < 2 ^ (8 * octets.length) := by
  have hlt := BigEndian.value_lt (fits_octets octets)
  rwa [List.length_map] at hlt

theorem number_inj {a b : List UInt8} (hlength : a.length = b.length) (h : number a = number b) :
    a = b := by
  have hlist : a.map UInt8.toNat = b.map UInt8.toNat := by
    refine BigEndian.value_inj (fits_octets a) (fits_octets b) ?_ h
    rw [List.length_map, List.length_map, hlength]
  exact List.map_injective_iff.mpr (fun _ _ => UInt8.toNat_inj.mp) hlist

/-- Two octets to a segment, and the number stays. -/
theorem segments_spec {octets : List UInt8} (h : octets.length % 2 = 0) :
    BigEndian.Fits 16 (segments octets) ∧ 2 * (segments octets).length = octets.length ∧
      BigEndian.value 16 (segments octets) = number octets := by
  induction octets using segments.induct with
  | case1 high low rest ih =>
    have hrest : rest.length % 2 = 0 := by
      rw [List.length_cons, List.length_cons] at h
      omega
    obtain ⟨hfits, hlength, hvalue⟩ := ih hrest
    have hhigh : high.toNat < 256 := high.toNat_lt
    have hlow : low.toNat < 256 := low.toNat_lt
    refine ⟨?_, ?_, ?_⟩
    · refine List.forall_mem_cons.mpr ⟨?_, hfits⟩
      omega
    · show 2 * ((segments rest).length + 1) = rest.length + 1 + 1
      omega
    · have hexp : 16 * (segments rest).length = 8 * rest.length := by omega
      have hnumber : number (high :: low :: rest) =
          (high.toNat * 2 ^ 8 + low.toNat) * 2 ^ (8 * rest.length) + number rest := by
        have happend := number_append [high, low] rest
        have hpair : number [high, low] = high.toNat * 2 ^ 8 + low.toNat := by
          show BigEndian.value 8 [high.toNat, low.toNat] = _
          rw [BigEndian.value_cons, BigEndian.value_singleton]
          rfl
        rwa [hpair] at happend
      rw [segments, BigEndian.value_cons, hvalue, hexp, hnumber]
      rfl
  | case2 octets hshort =>
    obtain _ | ⟨a, _ | ⟨b, rest⟩⟩ := octets
    · exact ⟨fun _ h => (by cases h), rfl, rfl⟩
    · cases h
    · exact absurd rfl (hshort a b rest)

/-! ## Masks -/

theorem maskParts_cons (bits len part : Nat) (parts : List Nat) :
    maskParts bits len (part :: parts) =
      part / 2 ^ (bits - min len bits) * 2 ^ (bits - min len bits) ::
        maskParts bits (len - min len bits) parts := rfl

/-- **A row of parts is its own masked form exactly when its host bits are zero.** -/
theorem maskParts_eq_self_iff {bits len : Nat} {parts : List Nat} (h : BigEndian.Fits bits parts)
    (hlen : len ≤ bits * parts.length) :
    maskParts bits len parts = parts ↔
      2 ^ (bits * parts.length - len) ∣ BigEndian.value bits parts := by
  induction parts generalizing len with
  | nil => exact iff_of_true rfl (Nat.dvd_zero _)
  | cons part rest ih =>
    obtain ⟨-, hrest⟩ := List.forall_mem_cons.mp h
    rw [List.length_cons, Nat.mul_add, Nat.mul_one] at hlen ⊢
    have hih := ih hrest (show len - min len bits ≤ bits * rest.length by omega)
    have hpos : 0 < 2 ^ (bits - min len bits) := Nat.two_pow_pos _
    have hpart : part / 2 ^ (bits - min len bits) * 2 ^ (bits - min len bits) = part ↔
        2 ^ (bits - min len bits) ∣ part :=
      ⟨fun heq => Dvd.intro_left _ heq, fun hdvd => Nat.div_mul_cancel hdvd⟩
    rw [maskParts_cons, List.cons.injEq, hpart, hih]
    by_cases hwhole : bits ≤ len
    · -- the whole part is kept
      have hmin : min len bits = bits := Nat.min_eq_right hwhole
      have hexp : bits * rest.length + bits - len = bits * rest.length - (len - bits) := by omega
      rw [hmin, Nat.sub_self, Nat.pow_zero, hexp,
        BigEndian.pow_dvd_value_low (Nat.sub_le _ _)]
      exact ⟨And.right, fun hdvd => ⟨Nat.one_dvd _, hdvd⟩⟩
    · -- the prefix ends within this part
      have hmin : min len bits = len := Nat.min_eq_left (by omega)
      have hexp : bits * rest.length + bits - len = bits * rest.length + (bits - len) := by omega
      rw [hmin, Nat.sub_self, Nat.sub_zero, hexp, BigEndian.pow_dvd_value_high hrest]

theorem Ipv4Net.masked_iff (net : Ipv4Net) :
    net.Masked ↔ 2 ^ (32 - net.prefixLen) ∣ number net.addr.toList := by
  have hlength : (net.addr.toList.map UInt8.toNat).length = 4 := by
    rw [List.length_map, Vector.length_toList]
  have hparts := maskParts_eq_self_iff (fits_octets net.addr.toList)
    (show net.prefixLen ≤ 8 * (net.addr.toList.map UInt8.toNat).length by
      have := net.inRange
      omega)
  rw [hlength] at hparts
  unfold Ipv4Net.Masked IpNet.trunc Ipv4Net.toIpNet
  rw [IpNet.mk.injEq]
  show IpAddr.v4 _ = IpAddr.v4 _ ∧ _ ↔ _
  rw [IpAddr.v4.injEq, and_iff_left rfl]
  exact hparts

theorem Ipv6Net.masked_iff (net : Ipv6Net) :
    net.toIpNet.trunc = net.toIpNet ↔ 2 ^ (128 - net.prefixLen) ∣ number net.addr.toList := by
  have heven : net.addr.toList.length % 2 = 0 := by rw [Vector.length_toList]
  obtain ⟨hfits, hlength, hvalue⟩ := segments_spec heven
  rw [Vector.length_toList] at hlength
  have hparts := maskParts_eq_self_iff hfits
    (show net.prefixLen ≤ 16 * (segments net.addr.toList).length by
      have := net.inRange
      omega)
  have hexp : 16 * (segments net.addr.toList).length = 128 := by omega
  rw [hexp, hvalue] at hparts
  unfold IpNet.trunc Ipv6Net.toIpNet
  rw [IpNet.mk.injEq]
  show IpAddr.v6 _ = IpAddr.v6 _ ∧ _ ↔ _
  rw [IpAddr.v6.injEq, and_iff_left rfl]
  exact hparts

/-! ## The range -/

theorem number_four (a b c d : UInt8) :
    number [a, b, c, d] =
      a.toNat * 2 ^ 24 + b.toNat * 2 ^ 16 + c.toNat * 2 ^ 8 + d.toNat := by
  unfold number
  simp only [List.map_cons, List.map_nil, BigEndian.value_cons, BigEndian.value_nil,
    List.length_cons, List.length_nil]
  omega

theorem number_toBeBytes (n : UInt32) : number (toBeBytes n).toList = n.toNat := by
  have hlt : n.toNat < 2 ^ 32 := n.toNat_lt
  refine (number_four _ _ _ _).trans ?_
  rw [UInt8.toNat_ofNat', UInt8.toNat_ofNat', UInt8.toNat_ofNat', UInt8.toNat_ofNat']
  omega

theorem fromBeBytes_toNat (a b c d : UInt8) :
    (fromBeBytes #v[a, b, c, d]).toNat = number [a, b, c, d] := by
  have hlt := number_lt [a, b, c, d]
  rw [show 8 * [a, b, c, d].length = 32 from rfl] at hlt
  have hread : fromBeBytes #v[a, b, c, d] = UInt32.ofNat (number [a, b, c, d]) := by
    rw [number_four, fromBeBytes]
    simp only [Vector.getElem_mk, List.getElem_toArray, List.getElem_cons_zero,
      List.getElem_cons_succ]
  rw [hread, UInt32.toNat_ofNat', Nat.mod_eq_of_lt hlt]

theorem toBeBytes_fromBeBytes (a b c d : UInt8) :
    (toBeBytes (fromBeBytes #v[a, b, c, d])).toList = [a, b, c, d] := by
  refine number_inj Vector.length_toList ?_
  rw [number_toBeBytes, fromBeBytes_toNat]

/-- The next four octets of a row. -/
theorem drop_four {octets : List UInt8} {i : Nat} (h : i + 3 < octets.length) :
    octets.drop i = [octets[i], octets[i + 1], octets[i + 2], octets[i + 3]] ++
      octets.drop (i + 4) := by
  rw [List.drop_eq_getElem_cons (show i < octets.length by omega),
    List.drop_eq_getElem_cons (show i + 1 < octets.length by omega),
    List.drop_eq_getElem_cons (show i + 1 + 1 < octets.length by omega),
    List.drop_eq_getElem_cons (show i + 1 + 1 + 1 < octets.length by omega)]
  rfl

/-- The places at which an address is cut. -/
theorem octets_cut (octets : Vector UInt8 16) :
    octets.toList = octets.toList.take 8 ++ [octets[8], octets[9], octets[10], octets[11]] ++
      [octets[12], octets[13], octets[14], octets[15]] := by
  have hlength : octets.toList.length = 16 := Vector.length_toList
  have hsite := drop_four (show 8 + 3 < octets.toList.length by omega)
  have hv4 := drop_four (show 12 + 3 < octets.toList.length by omega)
  have hend : octets.toList.drop 16 = [] := List.drop_of_length_le (by omega)
  simp only [Vector.getElem_toList] at hsite hv4
  rw [hend, List.append_nil] at hv4
  have hcut : octets.toList = octets.toList.take 8 ++ octets.toList.drop 8 :=
    (List.take_append_drop 8 _).symm
  rwa [hsite, hv4, ← List.append_assoc] at hcut

/-! ## Encoder and decoder -/

theorem encoded_length (v4 : Ipv4Net) : v4.prefixLen + 96 ≤ 128 := by
  have := v4.inRange
  omega

/-- The encoder never fails. -/
theorem mapVia_eq (siteId : UInt32) (v4 : Ipv4Net) :
    mapVia siteId v4 = .ok ⟨viaRangeOctets ++ toBeBytes siteId ++ v4.addr, v4.prefixLen + 96,
      encoded_length v4⟩ := by
  rw [mapVia, Ipv6Net.new, dif_pos (encoded_length v4)]

/-- **An encoded route is the range, the site and the address, and 96 bits longer.** -/
theorem mapVia_eq_ok_iff {siteId : UInt32} {v4 : Ipv4Net} {via : Ipv6Net} :
    mapVia siteId v4 = .ok via ↔
      via.addr.toList = viaRangeOctets.toList ++ (toBeBytes siteId).toList ++ v4.addr.toList ∧
        via.prefixLen = v4.prefixLen + 96 := by
  have hoctets : (viaRangeOctets ++ toBeBytes siteId ++ v4.addr).toList =
      viaRangeOctets.toList ++ (toBeBytes siteId).toList ++ v4.addr.toList := by
    rw [Vector.toList_append, Vector.toList_append]
  rw [mapVia_eq, Except.ok.injEq, ← hoctets]
  constructor
  · rintro rfl
    exact ⟨rfl, rfl⟩
  · rintro ⟨haddr, hprefix⟩
    obtain ⟨addr, prefixLen, hrange⟩ := via
    have haddr : addr = viaRangeOctets ++ toBeBytes siteId ++ v4.addr := Vector.toList_inj.mp haddr
    have hprefix : prefixLen = v4.prefixLen + 96 := hprefix
    subst haddr
    subst hprefix
    rfl

/-- One route has one site and one IPv4 prefix. -/
theorem mapVia_injective {siteId siteId' : UInt32} {v4 v4' : Ipv4Net} {via : Ipv6Net}
    (h : mapVia siteId v4 = .ok via) (h' : mapVia siteId' v4' = .ok via) :
    siteId = siteId' ∧ v4 = v4' := by
  obtain ⟨haddr, hprefix⟩ := mapVia_eq_ok_iff.mp h
  obtain ⟨haddr', hprefix'⟩ := mapVia_eq_ok_iff.mp h'
  have hlength : (toBeBytes siteId).toList.length = (toBeBytes siteId').toList.length := by
    rw [Vector.length_toList, Vector.length_toList]
  rw [haddr, List.append_assoc, List.append_assoc] at haddr'
  have hrest := List.append_cancel_left haddr'
  obtain ⟨hsite, hv4⟩ := List.append_inj hrest hlength
  constructor
  · have hnumber := congrArg number hsite
    rw [number_toBeBytes, number_toBeBytes] at hnumber
    exact UInt32.toNat_inj.mp hnumber
  · obtain ⟨addr, prefixLen, hrange⟩ := v4
    obtain ⟨addr', prefixLen', hrange'⟩ := v4'
    have haddr : addr = addr' := Vector.toList_inj.mp hv4
    have hprefix : prefixLen = prefixLen' := by
      show prefixLen = prefixLen'
      have h96 : prefixLen + 96 = prefixLen' + 96 := hprefix.symm.trans hprefix'
      omega
    subst haddr
    subst hprefix
    rfl

/-- In the range and long enough, the decoder answers with what encodes to the route. -/
theorem unmapVia_of_range {via : Ipv6Net} (hrange : via.addr.toList.take 8 = viaRangeOctets.toList)
    (hlong : 96 ≤ via.prefixLen) :
    ∃ siteId v4, unmapVia via = .ok (siteId, v4) ∧ mapVia siteId v4 = .ok via := by
  have hlen : via.prefixLen - 96 ≤ 32 := by
    have := via.inRange
    omega
  refine ⟨fromBeBytes #v[via.addr[8], via.addr[9], via.addr[10], via.addr[11]],
    ⟨#v[via.addr[12], via.addr[13], via.addr[14], via.addr[15]], via.prefixLen - 96, hlen⟩,
    ?_, ?_⟩
  · unfold unmapVia Ipv4Net.new
    rw [if_neg (not_not.mpr hrange), if_neg (Nat.not_lt.mpr hlong)]
    dsimp only
    rw [dif_pos hlen]
  · refine mapVia_eq_ok_iff.mpr ⟨?_, ?_⟩
    · rw [toBeBytes_fromBeBytes, ← hrange]
      exact octets_cut via.addr
    · show via.prefixLen = via.prefixLen - 96 + 96
      omega

/-- What the decoder answers for is in the range and long enough. -/
theorem range_of_unmapVia {via : Ipv6Net} {siteId : UInt32} {v4 : Ipv4Net}
    (h : unmapVia via = .ok (siteId, v4)) :
    via.addr.toList.take 8 = viaRangeOctets.toList ∧ 96 ≤ via.prefixLen := by
  unfold unmapVia at h
  dsimp only at h
  split at h
  · cases h
  · rename_i hrange
    split at h
    · cases h
    · rename_i hlong
      exact ⟨not_not.mp hrange, Nat.not_lt.mp hlong⟩

/-- **Decoder and encoder are inverse to one another.** -/
theorem unmapVia_eq_ok_iff {via : Ipv6Net} {siteId : UInt32} {v4 : Ipv4Net} :
    unmapVia via = .ok (siteId, v4) ↔ mapVia siteId v4 = .ok via := by
  constructor
  · intro h
    obtain ⟨hrange, hlong⟩ := range_of_unmapVia h
    obtain ⟨siteId', v4', hdecode, hencode⟩ := unmapVia_of_range hrange hlong
    cases h.symm.trans hdecode
    exact hencode
  · intro h
    obtain ⟨haddr, hprefix⟩ := mapVia_eq_ok_iff.mp h
    have hrange : via.addr.toList.take 8 = viaRangeOctets.toList := by
      rw [haddr, List.append_assoc]
      exact List.take_left' Vector.length_toList
    obtain ⟨siteId', v4', hdecode, hencode⟩ := unmapVia_of_range hrange (by omega)
    obtain ⟨rfl, rfl⟩ := mapVia_injective h hencode
    exact hdecode

/-- The range, by the leading octets. -/
theorem inViaRange_iff (via : Ipv6Net) :
    via.InViaRange ↔ via.addr.toList.take 8 = viaRangeOctets.toList := by
  have hlength : via.addr.toList.length = 16 := Vector.length_toList
  have hquotient : number via.addr.toList / 2 ^ 64 = number (via.addr.toList.take 8) := by
    have hdiv := BigEndian.value_div ((via.addr.toList.take 8).map UInt8.toNat)
      (fits_octets (via.addr.toList.drop 8))
    rw [← List.map_append, List.take_append_drop, List.length_map, List.length_drop, hlength]
      at hdiv
    exact hdiv
  have hrange : number viaRangeOctets.toList = 0xfd7a115ca1e00b1a := by decide +kernel
  unfold Ipv6Net.InViaRange
  rw [hquotient, ← hrange]
  constructor
  · intro h
    refine number_inj ?_ h
    rw [List.length_take, hlength, Vector.length_toList]
    rfl
  · intro h
    rw [h]

/-! ## Encoder and validator -/

/-- An encoded route as a number. -/
theorem number_mapVia {siteId : UInt32} {v4 : Ipv4Net} {via : Ipv6Net}
    (h : mapVia siteId v4 = .ok via) :
    number via.addr.toList =
      (0xfd7a115ca1e00b1a * 2 ^ 32 + siteId.toNat) * 2 ^ 32 + number v4.addr.toList := by
  obtain ⟨haddr, -⟩ := mapVia_eq_ok_iff.mp h
  have hrange : number viaRangeOctets.toList = 0xfd7a115ca1e00b1a := by decide +kernel
  rw [haddr, number_append, number_append, number_toBeBytes, hrange, Vector.length_toList,
    Vector.length_toList]

/-- **A route is masked exactly when its IPv4 prefix is**, since a site has no host bits. -/
theorem masked_mapVia_iff {siteId : UInt32} {v4 : Ipv4Net} {via : Ipv6Net}
    (h : mapVia siteId v4 = .ok via) : via.toIpNet.trunc = via.toIpNet ↔ v4.Masked := by
  have hprefix := (mapVia_eq_ok_iff.mp h).2
  have hexp : 128 - via.prefixLen = 32 - v4.prefixLen := by omega
  rw [Ipv6Net.masked_iff, Ipv4Net.masked_iff, number_mapVia h, hexp]
  have hsite : 2 ^ (32 - v4.prefixLen) ∣
      (0xfd7a115ca1e00b1a * 2 ^ 32 + siteId.toNat) * 2 ^ 32 :=
    Dvd.dvd.mul_left (Nat.pow_dvd_pow 2 (Nat.sub_le _ _)) _
  exact Nat.dvd_add_right hsite

theorem segments_append {high : List UInt8} (h : high.length % 2 = 0) (low : List UInt8) :
    segments (high ++ low) = segments high ++ segments low := by
  induction high using segments.induct with
  | case1 a b rest ih =>
    have hrest : rest.length % 2 = 0 := by
      rw [List.length_cons, List.length_cons] at h
      omega
    show (a.toNat * 256 + b.toNat) :: segments (rest ++ low) = _
    rw [ih hrest]
    rfl
  | case2 octets hshort =>
    obtain _ | ⟨a, _ | ⟨b, rest⟩⟩ := octets
    · rfl
    · cases h
    · exact absurd rfl (hshort a b rest)

theorem segments_range : segments viaRangeOctets.toList = viaRangePrefix := by decide

/-- The validator's range is the decoder's. -/
theorem isViaPrefix_of_range {via : Ipv6Net}
    (h : via.addr.toList.take 8 = viaRangeOctets.toList) : isViaPrefix via.toIpNet = true := by
  have hcut : via.addr.toList = viaRangeOctets.toList ++ via.addr.toList.drop 8 := by
    rw [← h, List.take_append_drop]
  have hsegments : segments via.addr.toList =
      viaRangePrefix ++ segments (via.addr.toList.drop 8) := by
    rw [hcut, segments_append (by rw [Vector.length_toList]), segments_range, ← hcut]
  show ((segments via.addr.toList).take 4 == viaRangePrefix) = true
  rw [hsegments, List.take_left' (by rfl), beq_self_eq_true]

/-- The validator's site is the decoder's. -/
theorem site_segments {siteId : UInt32} {v4 : Ipv4Net} {via : Ipv6Net}
    (h : mapVia siteId v4 = .ok via) :
    (segments via.addr.toList).getD 4 0 * 65536 + (segments via.addr.toList).getD 5 0 =
      siteId.toNat := by
  obtain ⟨haddr, -⟩ := mapVia_eq_ok_iff.mp h
  have heven : (toBeBytes siteId).toList.length % 2 = 0 := by rw [Vector.length_toList]
  obtain ⟨-, hlength, hvalue⟩ := segments_spec heven
  rw [Vector.length_toList] at hlength
  rw [number_toBeBytes] at hvalue
  rw [haddr, List.append_assoc, segments_append (by rw [Vector.length_toList]), segments_range,
    segments_append heven]
  generalize segments (toBeBytes siteId).toList = site at hlength hvalue ⊢
  obtain _ | ⟨high, _ | ⟨low, _ | ⟨c, rest⟩⟩⟩ := site
  · cases hlength
  · cases hlength
  · rw [BigEndian.value_cons, BigEndian.value_singleton] at hvalue
    exact hvalue
  · have hlong : 2 * (rest.length + 1 + 1 + 1) = 4 := hlength
    omega

/-- **The validator takes a route of the range exactly when its site has 16 bits.** -/
theorem validateViaPrefix_mapVia {siteId : UInt32} {v4 : Ipv4Net} {via : Ipv6Net}
    (h : mapVia siteId v4 = .ok via) :
    validateViaPrefix via.toIpNet = .ok () ↔ siteId ≤ 0xffff := by
  obtain ⟨hrange, hlong⟩ := range_of_unmapVia (unmapVia_eq_ok_iff.mpr h)
  have hshort : ¬ via.toIpNet.prefixLen < 96 := Nat.not_lt.mpr hlong
  have hsite : siteId ≤ 0xffff ↔ ¬ 0xffff < siteId.toNat := by
    rw [UInt32.le_iff_toNat_le, Nat.not_lt]
    rfl
  unfold validateViaPrefix
  rw [isViaPrefix_of_range hrange, Bool.not_true, if_neg Bool.false_ne_true, if_neg hshort,
    hsite, ← site_segments h]
  dsimp only [Ipv6Net.toIpNet]
  split
  · rename_i hbig
    exact iff_of_false (fun hok => (by cases hok)) fun hsmall => hsmall hbig
  · rename_i hsmall
    exact iff_of_true rfl hsmall

/-- A route of the range that the validator takes is long enough to decode. -/
theorem long_of_valid {via : Ipv6Net} (hrange : via.addr.toList.take 8 = viaRangeOctets.toList)
    (h : validateViaPrefix via.toIpNet = .ok ()) : 96 ≤ via.prefixLen := by
  unfold validateViaPrefix at h
  rw [isViaPrefix_of_range hrange, Bool.not_true, if_neg Bool.false_ne_true] at h
  split at h
  · cases h
  · rename_i hlong
    exact Nat.not_lt.mp hlong

/-- What a text that reads as an encoded route has to be to be advertised. -/
theorem advertisable_mapVia_iff {H : Host} {text : String} {siteId : UInt32} {v4 : Ipv4Net}
    {via : Ipv6Net} (h : mapVia siteId v4 = .ok via)
    (hparse : H.parseIpNet text = some via.toIpNet) :
    (∃ net, Advertisable H text net) ↔ siteId ≤ 0xffff ∧ v4.Masked := by
  have hrange := (range_of_unmapVia (unmapVia_eq_ok_iff.mpr h)).1
  constructor
  · rintro ⟨net, hnet⟩
    obtain rfl : via.toIpNet = net := Option.some.inj (hparse.symm.trans hnet.parses)
    exact ⟨(validateViaPrefix_mapVia h).mp (hnet.via (isViaPrefix_of_range hrange)),
      (masked_mapVia_iff h).mp hnet.masked⟩
  · rintro ⟨hsite, hmasked⟩
    exact ⟨via.toIpNet, hparse, (masked_mapVia_iff h).mpr hmasked,
      fun _ => (validateViaPrefix_mapVia h).mpr hsite⟩

/-- A route of the range is neither default route. -/
theorem via_not_default {via : Ipv6Net} (h : 96 ≤ via.prefixLen) :
    via.toIpNet ≠ allIpv4 ∧ via.toIpNet ≠ allIpv6 := by
  refine ⟨fun heq => ?_, fun heq => ?_⟩
  all_goals
    have hlen : via.prefixLen = 0 := congrArg IpNet.prefixLen heq
    omega

/-- A text that reads as an encoded route is accepted alone, under either flag, exactly when its
    site has 16 bits and its IPv4 prefix is masked. -/
theorem accepted_mapVia_iff {H : Host} {text : String} {siteId : UInt32} {v4 : Ipv4Net}
    {via : Ipv6Net} (h : mapVia siteId v4 = .ok via)
    (hparse : H.parseIpNet text = some via.toIpNet) (exit : Bool) :
    (∃ set, calcAdvertiseRoutes H [text] exit = .ok set) ↔ siteId ≤ 0xffff ∧ v4.Masked := by
  obtain ⟨hnot4, hnot6⟩ := via_not_default (range_of_unmapVia (unmapVia_eq_ok_iff.mpr h)).2
  have hall : (∀ s ∈ [text], ∃ net, Advertisable H s net) ↔ ∃ net, Advertisable H text net := by
    rw [List.forall_mem_singleton]
  have hcomposed : ∀ net, via.toIpNet ≠ net →
      (Composed H [text] exit net ↔ exit = true ∧ (net = allIpv4 ∨ net = allIpv6)) := by
    intro net hne
    refine or_iff_right ?_
    rintro ⟨s, hs, hnet⟩
    obtain rfl := List.mem_singleton.mp hs
    exact hne (Option.some.inj (hparse.symm.trans hnet))
  have hpaired : Composed H [text] exit allIpv4 ↔ Composed H [text] exit allIpv6 := by
    rw [hcomposed _ hnot4, hcomposed _ hnot6]
    exact and_congr_right fun _ => iff_of_true (.inl rfl) (.inr rfl)
  rw [accepted_iff, hall, and_iff_left hpaired, advertisable_mapVia_iff h hparse]

/-- A route of the range in an accepted set decodes to a site of 16 bits and a masked prefix. -/
theorem decodes_of_accepted {H : Host} {routes : List String} {exit : Bool} {set : List IpNet}
    {via : Ipv6Net} (hset : calcAdvertiseRoutes H routes exit = .ok set)
    (hmem : via.toIpNet ∈ set) (hrange : via.addr.toList.take 8 = viaRangeOctets.toList) :
    ∃ siteId v4, unmapVia via = .ok (siteId, v4) ∧ siteId ≤ 0xffff ∧ v4.Masked := by
  have hvia := isViaPrefix_of_range hrange
  obtain ⟨s, hs, hparse⟩ | ⟨-, hdefault⟩ := (mem_accepted_iff hset _).mp hmem
  · obtain ⟨net, hnet⟩ := ((accepted_iff H routes exit).mp ⟨set, hset⟩).1 s hs
    obtain rfl : via.toIpNet = net := Option.some.inj (hparse.symm.trans hnet.parses)
    have hlong := long_of_valid hrange (hnet.via hvia)
    obtain ⟨siteId, v4, hdecode, hencode⟩ := unmapVia_of_range hrange hlong
    obtain ⟨hsite, hmasked⟩ := (advertisable_mapVia_iff hencode hparse).mp ⟨_, hnet⟩
    exact ⟨siteId, v4, hdecode, hsite, hmasked⟩
  · -- neither default route lies in the range
    exfalso
    obtain heq | heq := hdefault
    · rw [heq] at hvia
      cases hvia
    · rw [heq] at hvia
      revert hvia
      decide

/-! ## `debug via` -/

/-- The encoding form prints the route of a site of 16 bits. -/
theorem runDebugVia_encode {N : NetParsers} {site cidr line : String}
    (h : runDebugVia N site (some cidr) = .ok line) :
    ∃ siteId v4 via, parseU32 site = some siteId ∧ siteId ≤ 0xffff ∧ N.ipv4 cidr = some v4 ∧
      mapVia siteId v4 = .ok via ∧ line = via.toText := by
  unfold runDebugVia at h
  cases hsite : parseU32 site with
  | none =>
    rw [hsite] at h
    cases h
  | some siteId =>
    rw [hsite] at h
    dsimp only at h
    split at h
    · cases h
    · rename_i hsmall
      cases hcidr : N.ipv4 cidr with
      | none =>
        rw [hcidr] at h
        cases h
      | some v4 =>
        rw [hcidr] at h
        dsimp only at h
        rw [mapVia_eq] at h
        exact ⟨siteId, v4, _, rfl, UInt32.not_lt.mp hsmall, rfl, mapVia_eq siteId v4,
          (Except.ok.inj h).symm⟩

/-- The decoding form prints what the decoder answers. -/
theorem runDebugVia_decode {N : NetParsers} {route : String} {via : Ipv6Net} {siteId : UInt32}
    {v4 : Ipv4Net} (hparse : N.ipv6 route = some via) (h : unmapVia via = .ok (siteId, v4)) :
    runDebugVia N route none = .ok ("site " ++ toString siteId.toNat ++ " (0x" ++
      hexText siteId.toNat ++ "), " ++ v4.toText) := by
  unfold runDebugVia
  dsimp only
  rw [hparse]
  dsimp only
  rw [h]

/-- **The encoder, the decoder and the validator, for every site, prefix and text.**  Decoding
    undoes encoding and encoding undoes decoding; a prefix decodes exactly in the range from `/96`
    on.  A text that reads as the route of a site and a prefix is advertisable exactly when the site
    has 16 bits and the prefix is masked.  So what `debug via` prints for a masked prefix is
    advertisable wherever it is read back as the route it is, and whatever is advertised in the
    range decodes, in `debug via` too. -/
theorem via_routes_agree (H : Host) (N : NetParsers) :
    (∀ siteId v4, ∃ via, mapVia siteId v4 = .ok via ∧ unmapVia via = .ok (siteId, v4)) ∧
    (∀ via siteId v4, unmapVia via = .ok (siteId, v4) → mapVia siteId v4 = .ok via) ∧
    (∀ via, (∃ siteId v4, unmapVia via = .ok (siteId, v4)) ↔
      via.InViaRange ∧ 96 ≤ via.prefixLen) ∧
    (∀ siteId v4 via text exit, mapVia siteId v4 = .ok via →
      H.parseIpNet text = some via.toIpNet →
        ((∃ set, calcAdvertiseRoutes H [text] exit = .ok set) ↔ siteId ≤ 0xffff ∧ v4.Masked)) ∧
    (∀ site cidr line, runDebugVia N site (some cidr) = .ok line →
      ∃ siteId v4 via, parseU32 site = some siteId ∧ N.ipv4 cidr = some v4 ∧
        mapVia siteId v4 = .ok via ∧ line = via.toText ∧
        (v4.Masked → H.parseIpNet line = some via.toIpNet →
          ∀ exit, ∃ set, calcAdvertiseRoutes H [line] exit = .ok set)) ∧
    ∀ routes exit set via, calcAdvertiseRoutes H routes exit = .ok set → via.toIpNet ∈ set →
      via.InViaRange →
        ∃ siteId v4, unmapVia via = .ok (siteId, v4) ∧ siteId ≤ 0xffff ∧ v4.Masked ∧
          ∀ route, N.ipv6 route = some via → ∃ line, runDebugVia N route none = .ok line := by
  refine ⟨?_, fun _ _ _ => unmapVia_eq_ok_iff.mp, ?_,
    fun _ _ _ _ exit h hparse => accepted_mapVia_iff h hparse exit, ?_, ?_⟩
  · intro siteId v4
    exact ⟨_, mapVia_eq siteId v4, unmapVia_eq_ok_iff.mpr (mapVia_eq siteId v4)⟩
  · intro via
    rw [inViaRange_iff]
    constructor
    · rintro ⟨siteId, v4, h⟩
      exact range_of_unmapVia h
    · rintro ⟨hrange, hlong⟩
      obtain ⟨siteId, v4, hdecode, -⟩ := unmapVia_of_range hrange hlong
      exact ⟨siteId, v4, hdecode⟩
  · intro site cidr line h
    obtain ⟨siteId, v4, via, hsite, hsmall, hcidr, hencode, hline⟩ := runDebugVia_encode h
    refine ⟨siteId, v4, via, hsite, hcidr, hencode, hline, fun hmasked hparse exit => ?_⟩
    exact (accepted_mapVia_iff hencode hparse exit).mpr ⟨hsmall, hmasked⟩
  · intro routes exit set via hset hmem hrange
    obtain ⟨siteId, v4, hdecode, hsmall, hmasked⟩ :=
      decodes_of_accepted hset hmem ((inViaRange_iff via).mp hrange)
    exact ⟨siteId, v4, hdecode, hsmall, hmasked,
      fun route hparse => ⟨_, runDebugVia_decode hparse hdecode⟩⟩

/-- Readers of prefixes: an address, a slash and a length. -/
def readIpNet (text : String) : Option IpNet :=
  (splitOnce '/' text).bind fun parts =>
    (readIpAddr parts.1).bind fun addr =>
      ((Radix.fromStrRadix 10 256 parts.2.toList).filter
        (· ≤ addr.partBits * addr.parts.length)).map (IpNet.mk addr)

def readNets : NetParsers where
  ipv4 text :=
    (readIpNet text).bind fun net =>
      match net.addr with
      | .v4 [a, b, c, d] =>
        Ipv4Net.new #v[UInt8.ofNat a, UInt8.ofNat b, UInt8.ofNat c, UInt8.ofNat d] net.prefixLen
      | _ => none
  ipv6 _ := none

/-- The IPv4 prefix of site 7. -/
def sevenNet : Ipv4Net := ⟨#v[10, 1, 2, 0], 24, by decide⟩

/-- A site and a masked prefix: the route that is printed for them is advertisable. -/
theorem via_routes_agree_seven :
    runDebugVia readNets "7" (some "10.1.2.0/24") =
        .ok "fd7a:115c:a1e0:b1a:0:7:a01:200/120" ∧
      ∃ set, calcAdvertiseRoutes { plainHost with parseIpNet := readIpNet }
        ["fd7a:115c:a1e0:b1a:0:7:a01:200/120"] false = .ok set := by
  have hline : runDebugVia readNets "7" (some "10.1.2.0/24") =
      .ok "fd7a:115c:a1e0:b1a:0:7:a01:200/120" := by decide +kernel
  have hagree := via_routes_agree { plainHost with parseIpNet := readIpNet } readNets
  obtain ⟨siteId, v4, via, hsite, hv4, hencode, -, hset⟩ := hagree.2.2.2.2.1 _ _ _ hline
  obtain rfl : siteId = 7 := Option.some.inj (hsite.symm.trans (by decide +kernel))
  obtain rfl : v4 = sevenNet := Option.some.inj (hv4.symm.trans (by decide +kernel))
  have hread : readIpNet "fd7a:115c:a1e0:b1a:0:7:a01:200/120" = some via.toIpNet := by
    obtain rfl := Except.ok.inj ((mapVia_eq 7 sevenNet).symm.trans hencode)
    decide +kernel
  have hmasked : sevenNet.Masked := by
    unfold Ipv4Net.Masked
    decide +kernel
  exact ⟨hline, hset hmasked hread false⟩

end Tailnetd
