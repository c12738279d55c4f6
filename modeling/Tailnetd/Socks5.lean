/-
  The SOCKS5 proxy's side of a connection (`socks5.rs`).

  A client sends a greeting and a request, byte by byte as it likes; the proxy answers, dials the
  request's destination over the tailnet, and from then on only copies.

  1. **Connected to what was asked for** — a client is connected exactly if what it sent is a
     greeting that offers no authentication and a CONNECT request, and the tailnet dial to the
     host and port of that request succeeded; what came after the request is the tunnel's
     (`socks5_connects_iff`).
  2. **Answered once, and truly** — what the client sent is a handshake that is not complete, one
     that is turned away for a cause that its answer names or is silent about, or a request, which
     gets one reply: success exactly when the client is connected, and otherwise what failed.
     Nothing but the destination of a request is dialed (`socks5_replies`).

  Both are for every sequence of bytes and every way it arrives in.  The deadline for the handshake
  drops a connection that waits.
-/
import Tailnetd.IpAddr
import Tailnetd.Lib.Dialogue
import Tailnetd.Lib.Utf8Text

namespace Tailnetd.Socks5

open Dialogue

/-! ## The bytes of the protocol -/

/-- `SOCKS5_VERSION`. -/
def socks5Version : UInt8 := 0x05

/-- `METHOD_NO_AUTH`. -/
def methodNoAuth : UInt8 := 0x00

/-- `METHOD_NO_ACCEPTABLE`. -/
def methodNoAcceptable : UInt8 := 0xff

/-- `CMD_CONNECT`. -/
def cmdConnect : UInt8 := 0x01

namespace ReplyCode

def succeeded : UInt8 := 0x00
def generalFailure : UInt8 := 0x01
def hostUnreachable : UInt8 := 0x04
def commandNotSupported : UInt8 := 0x07
def addressTypeNotSupported : UInt8 := 0x08

end ReplyCode

namespace Atyp

def ipv4 : UInt8 := 0x01
def domainName : UInt8 := 0x03
def ipv6 : UInt8 := 0x04

end Atyp

/-! ## The proxy -/

/-- The frame `send_reply` writes: the bound address is always `0.0.0.0:0`. -/
def replyFrame (rep : UInt8) : List UInt8 :=
  [socks5Version, rep, 0x00, Atyp.ipv4, 0, 0, 0, 0, 0, 0]

/-- `send_reply`. -/
def sendReply (rep : UInt8) : Dialogue Unit := writeAll (replyFrame rep)

/-- `negotiate_method`. -/
def negotiateMethod : Dialogue Unit := do
  let head ← readExact 2
  if head.get 0 ≠ socks5Version then .bail
  else
    let methods ← readExact (head.get 1).toNat
    if methodNoAuth ∈ methods.toList then writeAll [socks5Version, methodNoAuth]
    else
      writeAll [socks5Version, methodNoAcceptable]
      .bail

/-- `u16::from_be_bytes`. -/
def fromBeBytes (bytes : Vector UInt8 2) : UInt16 :=
  UInt16.ofNat (bytes.toList.foldl (fun n byte => n * 256 + byte.toNat) 0)

/-- The host of a request, by its address type. -/
def readHost (addressType : UInt8) : Dialogue String := do
  if addressType = Atyp.ipv4 then
    let octets ← readExact 4
    return (IpAddr.v4 (octets.toList.map UInt8.toNat)).toText
  else if addressType = Atyp.ipv6 then
    let octets ← readExact 16
    return (IpAddr.v6 (segments octets.toList)).toText
  else if addressType = Atyp.domainName then
    let len ← readExact 1
    let name ← readExact (len.get 0).toNat
    ofOption (String.fromUTF8? name.toList.toByteArray)
  else
    sendReply ReplyCode.addressTypeNotSupported
    .bail

/-- `read_connect_request`. -/
def readConnectRequest : Dialogue (String × UInt16) := do
  let head ← readExact 4
  if head.get 0 ≠ socks5Version then .bail
  else if head.get 1 ≠ cmdConnect then
    sendReply ReplyCode.commandNotSupported
    .bail
  else
    let host ← readHost (head.get 3)
    let portBytes ← readExact 2
    return (host, fromBeBytes portBytes)

/-- `Backend::device_handle`: no device while the node is down, else its `connect_by_name`. -/
abbrev Device (σ : Type) := Option (String → UInt16 → Option σ)

/-- The dial over the tailnet, with the reply it owes. -/
def dialOverlay {σ : Type} (device : Device σ) (host : String) (port : UInt16) : Dialogue σ :=
  match device with
  | none => do
    sendReply ReplyCode.generalFailure
    .bail
  | some connectByName =>
    match connectByName host port with
    | some overlay => do
      sendReply ReplyCode.succeeded
      return overlay
    | none => do
      sendReply ReplyCode.hostUnreachable
      .bail

/-- `handle_connection`, up to the splice with the stream it is done with. -/
def handleConnection {σ : Type} (device : Device σ) : Dialogue σ := do
  negotiateMethod
  let (host, port) ← readConnectRequest
  dialOverlay device host port

/-! ## What a client sends -/

/-- A destination a request can name. -/
inductive Destination where
  | v4 (octets : Vector UInt8 4)
  | v6 (octets : Vector UInt8 16)
  | name (text : String) (h : text.utf8ByteSize < 256)

/-- The host that is dialed. -/
def Destination.host : Destination → String
  | .v4 octets => (IpAddr.v4 (octets.toList.map UInt8.toNat)).toText
  | .v6 octets => (IpAddr.v6 (segments octets.toList)).toText
  | .name text _ => text

/-- Its address type and address on the wire. -/
def Destination.bytes : Destination → UInt8 × List UInt8
  | .v4 octets => (Atyp.ipv4, octets.toList)
  | .v6 octets => (Atyp.ipv6, octets.toList)
  | .name text _ =>
    (Atyp.domainName, UInt8.ofNat text.utf8ByteSize :: text.toByteArray.data.toList)

/-- A greeting that offers some methods. -/
def greeting (methods : List UInt8) : List UInt8 :=
  socks5Version :: UInt8.ofNat methods.length :: methods

/-- `u16::to_be_bytes`. -/
def toBeBytes (port : UInt16) : List UInt8 :=
  [UInt8.ofNat (port.toNat / 256), UInt8.ofNat port.toNat]

/-- A CONNECT request; the reserved byte is not looked at. -/
def request (reserved : UInt8) (dest : Destination) (port : UInt16) : List UInt8 :=
  socks5Version :: cmdConnect :: reserved :: dest.bytes.1 :: dest.bytes.2 ++ toBeBytes port

/-- Where a greeting stops short, with what is answered to it. -/
inductive GreetingStops : List UInt8 → List UInt8 → Halt → Prop
  | head {used : List UInt8} (h : used.length < 2) : GreetingStops used [] .waits
  | version {ver count : UInt8} (h : ver ≠ socks5Version) : GreetingStops [ver, count] [] .bails
  | methods {count : UInt8} {offered : List UInt8} (h : offered.length < count.toNat) :
      GreetingStops (socks5Version :: count :: offered) [] .waits
  | refused {methods : List UInt8} (hlength : methods.length < 256)
      (h : methodNoAuth ∉ methods) :
      GreetingStops (greeting methods) [socks5Version, methodNoAcceptable] .bails

/-- Where the address of a request stops short. -/
inductive AddressStops : UInt8 → List UInt8 → List UInt8 → Halt → Prop
  | v4 {address : List UInt8} (h : address.length < 4) : AddressStops Atyp.ipv4 address [] .waits
  | v6 {address : List UInt8} (h : address.length < 16) : AddressStops Atyp.ipv6 address [] .waits
  | nameLength : AddressStops Atyp.domainName [] [] .waits
  | name {len : UInt8} {name : List UInt8} (h : name.length < len.toNat) :
      AddressStops Atyp.domainName (len :: name) [] .waits
  /-- A name that is no text is dropped without a word. -/
  | notUtf8 {name : List UInt8} (hlength : name.length < 256)
      (h : String.fromUTF8? name.toByteArray = none) :
      AddressStops Atyp.domainName (UInt8.ofNat name.length :: name) [] .bails
  | unknown {addressType : UInt8}
      (h : addressType ∉ [Atyp.ipv4, Atyp.ipv6, Atyp.domainName]) :
      AddressStops addressType [] (replyFrame ReplyCode.addressTypeNotSupported) .bails

/-- Where a request stops short. -/
inductive RequestStops : List UInt8 → List UInt8 → Halt → Prop
  | head {used : List UInt8} (h : used.length < 4) : RequestStops used [] .waits
  | version {ver cmd reserved addressType : UInt8} (h : ver ≠ socks5Version) :
      RequestStops [ver, cmd, reserved, addressType] [] .bails
  | command {cmd reserved addressType : UInt8} (h : cmd ≠ cmdConnect) :
      RequestStops [socks5Version, cmd, reserved, addressType]
        (replyFrame ReplyCode.commandNotSupported) .bails
  | address {reserved addressType : UInt8} {used out : List UInt8} {halt : Halt}
      (h : AddressStops addressType used out halt) :
      RequestStops (socks5Version :: cmdConnect :: reserved :: addressType :: used) out halt
  | port {reserved : UInt8} {dest : Destination} {portBytes : List UInt8}
      (h : portBytes.length < 2) :
      RequestStops
        (socks5Version :: cmdConnect :: reserved :: dest.bytes.1 :: dest.bytes.2 ++ portBytes) []
        .waits

/-- Where a handshake stops short of a complete request. -/
inductive HandshakeStops : List UInt8 → List UInt8 → Halt → Prop
  | greeting {used out : List UInt8} {halt : Halt} (h : GreetingStops used out halt) :
      HandshakeStops used out halt
  | request {methods used out : List UInt8} {halt : Halt} (hlength : methods.length < 256)
      (hoffered : methodNoAuth ∈ methods) (h : RequestStops used out halt) :
      HandshakeStops (Socks5.greeting methods ++ used) ([socks5Version, methodNoAuth] ++ out) halt

/-! ## Reading back what a client sends -/

theorem vector_single (bytes : Vector UInt8 1) : ∃ a, bytes = #v[a] :=
  ⟨bytes.get 0, Vector.ext fun i hi => by match i, hi with | 0, _ => rfl⟩

theorem vector_pair (bytes : Vector UInt8 2) : ∃ a b, bytes = #v[a, b] :=
  ⟨bytes.get 0, bytes.get 1, Vector.ext fun i hi => by match i, hi with | 0, _ => rfl | 1, _ => rfl⟩

theorem vector_quad (bytes : Vector UInt8 4) : ∃ a b c d, bytes = #v[a, b, c, d] :=
  ⟨bytes.get 0, bytes.get 1, bytes.get 2, bytes.get 3, Vector.ext fun i hi => by
    match i, hi with
    | 0, _ => rfl
    | 1, _ => rfl
    | 2, _ => rfl
    | 3, _ => rfl⟩

/-- What is counted by a byte has that many bytes. -/
theorem length_counted {count : UInt8} (bytes : Vector UInt8 count.toNat) :
    bytes.toList.length < 256 ∧ UInt8.ofNat bytes.toList.length = count := by
  rw [bytes.length_toList]
  exact ⟨count.toNat_lt, UInt8.ofNat_toNat⟩

theorem fromBeBytes_eq_iff {bytes : Vector UInt8 2} {port : UInt16} :
    fromBeBytes bytes = port ↔ bytes.toList = toBeBytes port := by
  obtain ⟨high, low, rfl⟩ := vector_pair bytes
  have hhigh := high.toNat_lt
  have hlow := low.toNat_lt
  show UInt16.ofNat ((0 * 256 + high.toNat) * 256 + low.toNat) = port ↔ [high, low] = toBeBytes port
  constructor
  · rintro rfl
    simp only [toBeBytes, List.cons.injEq, ← UInt8.toNat_inj, UInt8.toNat_ofNat',
      UInt16.toNat_ofNat']
    exact ⟨by omega, by omega, trivial⟩
  · intro h
    have hport := port.toNat_lt
    simp only [toBeBytes, List.cons.injEq, ← UInt8.toNat_inj, UInt8.toNat_ofNat'] at h
    rw [← UInt16.toNat_inj, UInt16.toNat_ofNat']
    omega

/-- **The greeting.**  The negotiation is done after a greeting that offers no authentication, and
    after nothing else. -/
theorem takes_negotiateMethod {used out : List UInt8} {u : Unit} :
    Takes negotiateMethod used out u ↔ ∃ methods, methods.length < 256 ∧ methodNoAuth ∈ methods ∧
      used = greeting methods ∧ out = [socks5Version, methodNoAuth] := by
  rw [negotiateMethod, takes_readExact_bind]
  constructor
  · rintro ⟨head, rest, rfl, hrest⟩
    obtain ⟨ver, nmethods, rfl⟩ := vector_pair head
    split at hrest
    · cases hrest
    next hver =>
      obtain rfl : ver = socks5Version := not_not.mp hver
      obtain ⟨methods, rest, rfl, hanswer⟩ := takes_readExact_bind.mp hrest
      split at hanswer
      next hoffered =>
        obtain ⟨rfl, rfl⟩ := takes_writeAll.mp hanswer
        have ⟨hlength, hcount⟩ : _ ∧ UInt8.ofNat methods.toList.length = nmethods :=
          length_counted methods
        refine ⟨methods.toList, hlength, hoffered, ?_, rfl⟩
        rw [greeting, hcount, List.append_nil]
        rfl
      · obtain ⟨_, _, hbail⟩ := takes_writeAll_bind.mp hanswer
        cases hbail
  · rintro ⟨methods, hlength, hoffered, rfl, rfl⟩
    have hcount : methods.length = (#v[socks5Version, UInt8.ofNat methods.length].get 1).toNat :=
      (UInt8.toNat_ofNat_of_lt hlength).symm
    refine ⟨#v[socks5Version, UInt8.ofNat methods.length], methods, rfl, ?_⟩
    have hver : ¬ #v[socks5Version, UInt8.ofNat methods.length].get 0 ≠ socks5Version :=
      not_not.mpr rfl
    rw [if_neg hver, takes_readExact_bind]
    refine ⟨⟨methods.toArray, hcount⟩, [], (List.append_nil _).symm, ?_⟩
    have hmem : methodNoAuth ∈ (Vector.mk methods.toArray hcount).toList := hoffered
    rw [if_pos hmem]
    exact takes_writeAll.mpr ⟨rfl, rfl⟩

/-- **The greeting stops short** where it is cut off, of another version or without an offer. -/
theorem stops_negotiateMethod {used out : List UInt8} {halt : Halt} :
    Stops negotiateMethod used out halt ↔ GreetingStops used out halt := by
  rw [negotiateMethod, stops_readExact_bind]
  constructor
  · rintro (⟨hshort, rfl, rfl⟩ | ⟨head, rest, rfl, hrest⟩)
    · exact .head hshort
    obtain ⟨ver, count, rfl⟩ := vector_pair head
    split at hrest
    next hver =>
      obtain ⟨rfl, rfl, rfl⟩ := stops_bail.mp hrest
      exact .version hver
    next hver =>
      obtain rfl : ver = socks5Version := not_not.mp hver
      rcases stops_readExact_bind.mp hrest with ⟨hshort, rfl, rfl⟩ | ⟨methods, rest, rfl, hanswer⟩
      · exact .methods hshort
      split at hanswer
      · exact absurd hanswer stops_writeAll
      next hoffered =>
        obtain ⟨out, rfl, hbail⟩ := stops_writeAll_bind.mp hanswer
        obtain ⟨rfl, rfl, rfl⟩ := stops_bail.mp hbail
        have ⟨hlength, hcount⟩ : _ ∧ UInt8.ofNat methods.toList.length = count :=
          length_counted methods
        have hrefused := GreetingStops.refused hlength hoffered
        rw [greeting, hcount] at hrefused
        rw [List.append_nil, List.append_nil]
        exact hrefused
  · intro h
    cases h with
    | head h => exact .inl ⟨h, rfl, rfl⟩
    | @version ver count h =>
      refine .inr ⟨#v[ver, count], [], rfl, ?_⟩
      have hver : #v[ver, count].get 0 ≠ socks5Version := h
      rw [if_pos hver]
      exact .bail
    | @methods count offered h =>
      refine .inr ⟨#v[socks5Version, count], offered, rfl, ?_⟩
      have hver : ¬ #v[socks5Version, count].get 0 ≠ socks5Version := not_not.mpr rfl
      rw [if_neg hver]
      exact stops_readExact_bind.mpr (.inl ⟨h, rfl, rfl⟩)
    | @refused methods hlength h =>
      refine .inr ⟨#v[socks5Version, UInt8.ofNat methods.length], methods, rfl, ?_⟩
      have hver : ¬ #v[socks5Version, UInt8.ofNat methods.length].get 0 ≠ socks5Version :=
        not_not.mpr rfl
      have hcount : methods.length = (#v[socks5Version, UInt8.ofNat methods.length].get 1).toNat :=
        (UInt8.toNat_ofNat_of_lt hlength).symm
      rw [if_neg hver, stops_readExact_bind]
      refine .inr ⟨⟨methods.toArray, hcount⟩, [], (List.append_nil _).symm, ?_⟩
      have hmem : methodNoAuth ∉ (Vector.mk methods.toArray hcount).toList := h
      rw [if_neg hmem, stops_writeAll_bind]
      exact ⟨[], rfl, .bail⟩

/-- The host of a destination is read from its address, by its type. -/
theorem takes_readHost {addressType : UInt8} {used out : List UInt8} {host : String} :
    Takes (readHost addressType) used out host ↔
      ∃ dest : Destination, dest.bytes = (addressType, used) ∧ dest.host = host ∧ out = [] := by
  constructor
  · intro h
    unfold readHost at h
    split at h
    next htype =>
      obtain ⟨octets, rest, rfl, hdone⟩ := takes_readExact_bind.mp h
      obtain ⟨rfl, rfl, rfl⟩ := takes_pure.mp hdone
      exact ⟨.v4 octets, by rw [htype, List.append_nil]; rfl, rfl, rfl⟩
    split at h
    next htype =>
      obtain ⟨octets, rest, rfl, hdone⟩ := takes_readExact_bind.mp h
      obtain ⟨rfl, rfl, rfl⟩ := takes_pure.mp hdone
      exact ⟨.v6 octets, by rw [htype, List.append_nil]; rfl, rfl, rfl⟩
    split at h
    next htype =>
      obtain ⟨len, rest, rfl, hname⟩ := takes_readExact_bind.mp h
      obtain ⟨name, rest, rfl, hdone⟩ := takes_readExact_bind.mp hname
      obtain ⟨rfl, rfl, htext⟩ := takes_ofOption.mp hdone
      obtain ⟨count, rfl⟩ := vector_single len
      have hbytes := Utf8Text.fromUTF8?_eq_some_iff.mp htext
      have hsize : host.utf8ByteSize = count.toNat := by
        calc host.utf8ByteSize = name.toList.length := by rw [hbytes]; rfl
          _ = count.toNat := name.length_toList
      refine ⟨.name host ?_, ?_, rfl, rfl⟩
      · rw [hsize]
        exact count.toNat_lt
      · rw [Destination.bytes, hsize, UInt8.ofNat_toNat, htype, ← hbytes, List.append_nil]
        rfl
    · obtain ⟨_, _, hbail⟩ := takes_writeAll_bind.mp h
      cases hbail
  · rintro ⟨dest, hbytes, rfl, rfl⟩
    cases dest with
    | v4 octets =>
      obtain ⟨rfl, rfl⟩ := Prod.mk.inj hbytes
      rw [readHost, if_pos rfl, takes_readExact_bind]
      exact ⟨octets, [], (List.append_nil _).symm, .done _⟩
    | v6 octets =>
      obtain ⟨rfl, rfl⟩ := Prod.mk.inj hbytes
      rw [readHost, if_neg (by decide), if_pos rfl, takes_readExact_bind]
      exact ⟨octets, [], (List.append_nil _).symm, .done _⟩
    | name text h =>
      obtain ⟨rfl, rfl⟩ := Prod.mk.inj hbytes
      rw [readHost, if_neg (by decide), if_neg (by decide), if_pos rfl, takes_readExact_bind]
      refine ⟨#v[UInt8.ofNat text.utf8ByteSize], text.toByteArray.data.toList, rfl, ?_⟩
      have hcount : text.toByteArray.data.toList.length =
          (#v[UInt8.ofNat text.utf8ByteSize].get 0).toNat := (UInt8.toNat_ofNat_of_lt h).symm
      rw [takes_readExact_bind]
      refine ⟨⟨text.toByteArray.data.toList.toArray, hcount⟩, [], (List.append_nil _).symm, ?_⟩
      exact takes_ofOption.mpr ⟨rfl, rfl, Utf8Text.fromUTF8?_eq_some_iff.mpr rfl⟩

/-- The address stops short where it is cut off, of an unknown type or no text. -/
theorem stops_readHost {addressType : UInt8} {used out : List UInt8} {halt : Halt} :
    Stops (readHost addressType) used out halt ↔ AddressStops addressType used out halt := by
  constructor
  · intro h
    unfold readHost at h
    split at h
    next htype =>
      rcases stops_readExact_bind.mp h with ⟨hshort, rfl, rfl⟩ | ⟨_, _, _, hdone⟩
      · exact htype ▸ .v4 hshort
      · exact absurd hdone stops_pure
    split at h
    next htype =>
      rcases stops_readExact_bind.mp h with ⟨hshort, rfl, rfl⟩ | ⟨_, _, _, hdone⟩
      · exact htype ▸ .v6 hshort
      · exact absurd hdone stops_pure
    split at h
    next htype =>
      subst htype
      rcases stops_readExact_bind.mp h with ⟨hshort, rfl, rfl⟩ | ⟨len, rest, rfl, hname⟩
      · rw [List.eq_nil_of_length_eq_zero (Nat.lt_one_iff.mp hshort)]
        exact .nameLength
      obtain ⟨count, rfl⟩ := vector_single len
      rcases stops_readExact_bind.mp hname with ⟨hshort, rfl, rfl⟩ | ⟨name, rest, rfl, htext⟩
      · exact .name hshort
      obtain ⟨hnone, rfl, rfl, rfl⟩ := stops_ofOption.mp htext
      have ⟨hlength, hcount⟩ : _ ∧ UInt8.ofNat name.toList.length = count := length_counted name
      have hstops := AddressStops.notUtf8 hlength hnone
      rw [hcount] at hstops
      rw [List.append_nil]
      exact hstops
    · rename_i hv4 hv6 hname
      obtain ⟨out, rfl, hbail⟩ := stops_writeAll_bind.mp h
      obtain ⟨rfl, rfl, rfl⟩ := stops_bail.mp hbail
      rw [List.append_nil]
      refine .unknown ?_
      simp only [List.mem_cons, List.not_mem_nil, or_false, not_or]
      exact ⟨hv4, hv6, hname⟩
  · intro h
    cases h with
    | v4 h =>
      rw [readHost, if_pos rfl]
      exact stops_readExact_bind.mpr (.inl ⟨h, rfl, rfl⟩)
    | v6 h =>
      rw [readHost, if_neg (by decide), if_pos rfl]
      exact stops_readExact_bind.mpr (.inl ⟨h, rfl, rfl⟩)
    | nameLength =>
      rw [readHost, if_neg (by decide), if_neg (by decide), if_pos rfl]
      exact stops_readExact_bind.mpr (.inl ⟨Nat.one_pos, rfl, rfl⟩)
    | @name len name h =>
      rw [readHost, if_neg (by decide), if_neg (by decide), if_pos rfl, stops_readExact_bind]
      refine .inr ⟨#v[len], name, rfl, ?_⟩
      exact stops_readExact_bind.mpr (.inl ⟨h, rfl, rfl⟩)
    | @notUtf8 name hlength h =>
      rw [readHost, if_neg (by decide), if_neg (by decide), if_pos rfl, stops_readExact_bind]
      refine .inr ⟨#v[UInt8.ofNat name.length], name, rfl, ?_⟩
      have hcount : name.length = (#v[UInt8.ofNat name.length].get 0).toNat :=
        (UInt8.toNat_ofNat_of_lt hlength).symm
      rw [stops_readExact_bind]
      refine .inr ⟨⟨name.toArray, hcount⟩, [], (List.append_nil _).symm, ?_⟩
      exact stops_ofOption.mpr ⟨h, rfl, rfl, rfl⟩
    | unknown h =>
      simp only [List.mem_cons, List.not_mem_nil, or_false, not_or] at h
      obtain ⟨hv4, hv6, hname⟩ := h
      rw [readHost, if_neg hv4, if_neg hv6, if_neg hname]
      exact stops_writeAll_bind.mpr ⟨[], (List.append_nil _).symm, .bail⟩

/-- **The request.**  A CONNECT request is read to its end and gives its host and port; nothing
    else is taken, and nothing is answered yet. -/
theorem takes_readConnectRequest {used out : List UInt8} {host : String} {port : UInt16} :
    Takes readConnectRequest used out (host, port) ↔ ∃ reserved dest,
      used = request reserved dest port ∧ dest.host = host ∧ out = [] := by
  rw [readConnectRequest, takes_readExact_bind]
  constructor
  · rintro ⟨head, rest, rfl, hrest⟩
    obtain ⟨ver, cmd, reserved, addressType, rfl⟩ := vector_quad head
    split at hrest
    · cases hrest
    split at hrest
    · obtain ⟨_, _, hbail⟩ := takes_writeAll_bind.mp hrest
      cases hbail
    next hver hcmd =>
      obtain rfl : ver = socks5Version := not_not.mp hver
      obtain rfl : cmd = cmdConnect := not_not.mp hcmd
      obtain ⟨address, rest, _, _, _, rfl, rfl, hhost, hport⟩ := takes_bind.mp hrest
      obtain ⟨dest, hbytes, rfl, rfl⟩ := takes_readHost.mp hhost
      obtain ⟨portBytes, rest, rfl, hdone⟩ := takes_readExact_bind.mp hport
      obtain ⟨rfl, rfl, hpair⟩ := takes_pure.mp hdone
      obtain ⟨rfl, rfl⟩ := Prod.mk.inj hpair
      refine ⟨reserved, dest, ?_, rfl, rfl⟩
      rw [request, hbytes, ← fromBeBytes_eq_iff.mp rfl, List.append_nil]
      rfl
  · rintro ⟨reserved, dest, rfl, rfl, rfl⟩
    refine ⟨#v[socks5Version, cmdConnect, reserved, dest.bytes.1],
      dest.bytes.2 ++ toBeBytes port, rfl, ?_⟩
    have hver : ¬ #v[socks5Version, cmdConnect, reserved, dest.bytes.1].get 0 ≠ socks5Version :=
      not_not.mpr rfl
    have hcmd : ¬ #v[socks5Version, cmdConnect, reserved, dest.bytes.1].get 1 ≠ cmdConnect :=
      not_not.mpr rfl
    rw [if_neg hver, if_neg hcmd, takes_bind]
    refine ⟨_, _, [], [], dest.host, rfl, rfl, takes_readHost.mpr ⟨dest, rfl, rfl, rfl⟩, ?_⟩
    have hport : fromBeBytes ⟨(toBeBytes port).toArray, rfl⟩ = port := fromBeBytes_eq_iff.mpr rfl
    rw [takes_readExact_bind]
    refine ⟨⟨(toBeBytes port).toArray, rfl⟩, [], (List.append_nil _).symm, ?_⟩
    rw [hport]
    exact .done _

/-- A CONNECT request stops short where its address or its port does. -/
theorem stops_connect {reserved addressType : UInt8} {used out : List UInt8} {halt : Halt}
    (h : Stops (readHost addressType >>= fun host => readExact 2 >>= fun portBytes =>
      pure (host, fromBeBytes portBytes)) used out halt) :
    Stops readConnectRequest (socks5Version :: cmdConnect :: reserved :: addressType :: used) out
      halt := by
  rw [readConnectRequest, stops_readExact_bind]
  refine .inr ⟨#v[socks5Version, cmdConnect, reserved, addressType], used, rfl, ?_⟩
  have hver : ¬ #v[socks5Version, cmdConnect, reserved, addressType].get 0 ≠ socks5Version :=
    not_not.mpr rfl
  have hcmd : ¬ #v[socks5Version, cmdConnect, reserved, addressType].get 1 ≠ cmdConnect :=
    not_not.mpr rfl
  rw [if_neg hver, if_neg hcmd]
  exact h

/-- **The request stops short** where it is cut off, of another version, no CONNECT, or to an
    address that is none. -/
theorem stops_readConnectRequest {used out : List UInt8} {halt : Halt} :
    Stops readConnectRequest used out halt ↔ RequestStops used out halt := by
  constructor
  · intro h
    rw [readConnectRequest, stops_readExact_bind] at h
    rcases h with ⟨hshort, rfl, rfl⟩ | ⟨head, rest, rfl, hrest⟩
    · exact .head hshort
    obtain ⟨ver, cmd, reserved, addressType, rfl⟩ := vector_quad head
    split at hrest
    next hver =>
      obtain ⟨rfl, rfl, rfl⟩ := stops_bail.mp hrest
      exact .version hver
    next hver =>
      obtain rfl : ver = socks5Version := not_not.mp hver
      split at hrest
      next hcmd =>
        obtain ⟨out, rfl, hbail⟩ := stops_writeAll_bind.mp hrest
        obtain ⟨rfl, rfl, rfl⟩ := stops_bail.mp hbail
        exact .command hcmd
      next hcmd =>
        obtain rfl : cmd = cmdConnect := not_not.mp hcmd
        rcases stops_bind.mp hrest with
          haddress | ⟨address, rest, _, _, _, rfl, rfl, hhost, hport⟩
        · exact .address (stops_readHost.mp haddress)
        obtain ⟨dest, hbytes, rfl, rfl⟩ := takes_readHost.mp hhost
        obtain ⟨rfl, rfl⟩ := Prod.mk.inj hbytes
        rcases stops_readExact_bind.mp hport with ⟨hshort, rfl, rfl⟩ | ⟨_, _, _, hdone⟩
        · exact .port hshort
        · exact absurd hdone stops_pure
  · intro h
    cases h with
    | head h =>
      rw [readConnectRequest, stops_readExact_bind]
      exact .inl ⟨h, rfl, rfl⟩
    | @version ver cmd reserved addressType h =>
      rw [readConnectRequest, stops_readExact_bind]
      refine .inr ⟨#v[ver, cmd, reserved, addressType], [], rfl, ?_⟩
      have hver : #v[ver, cmd, reserved, addressType].get 0 ≠ socks5Version := h
      rw [if_pos hver]
      exact .bail
    | @command cmd reserved addressType h =>
      rw [readConnectRequest, stops_readExact_bind]
      refine .inr ⟨#v[socks5Version, cmd, reserved, addressType], [], rfl, ?_⟩
      have hver : ¬ #v[socks5Version, cmd, reserved, addressType].get 0 ≠ socks5Version :=
        not_not.mpr rfl
      have hcmd : #v[socks5Version, cmd, reserved, addressType].get 1 ≠ cmdConnect := h
      rw [if_neg hver, if_pos hcmd]
      exact stops_writeAll_bind.mpr ⟨[], rfl, .bail⟩
    | address h => exact stops_connect (stops_bind.mpr (.inl (stops_readHost.mpr h)))
    | @port reserved dest portBytes h =>
      refine stops_connect (stops_bind.mpr (.inr ⟨_, _, [], [], dest.host, rfl, rfl,
        takes_readHost.mpr ⟨dest, rfl, rfl, rfl⟩, ?_⟩))
      exact stops_readExact_bind.mpr (.inl ⟨h, rfl, rfl⟩)

/-! ## What a connection comes to -/

variable {σ : Type}

theorem handleConnection_eq (device : Device σ) :
    handleConnection device = (negotiateMethod >>= fun _ => readConnectRequest) >>=
      fun dest => dialOverlay device dest.1 dest.2 :=
  (bind_assoc ..).symm

/-- **The handshake.**  It is done after a greeting and a request. -/
theorem takes_handshake {used out : List UInt8} {host : String} {port : UInt16} :
    Takes (negotiateMethod >>= fun _ => readConnectRequest) used out (host, port) ↔
      ∃ methods reserved dest, methods.length < 256 ∧ methodNoAuth ∈ methods ∧
        used = greeting methods ++ request reserved dest port ∧ dest.host = host ∧
        out = [socks5Version, methodNoAuth] := by
  rw [takes_bind]
  constructor
  · rintro ⟨_, _, _, _, _, rfl, rfl, hgreeting, hrequest⟩
    obtain ⟨methods, hlength, hoffered, rfl, rfl⟩ := takes_negotiateMethod.mp hgreeting
    obtain ⟨reserved, dest, rfl, hhost, rfl⟩ := takes_readConnectRequest.mp hrequest
    exact ⟨methods, reserved, dest, hlength, hoffered, rfl, hhost, List.append_nil _⟩
  · rintro ⟨methods, reserved, dest, hlength, hoffered, rfl, hhost, rfl⟩
    exact ⟨_, _, _, [], (), rfl, rfl,
      takes_negotiateMethod.mpr ⟨methods, hlength, hoffered, rfl, rfl⟩,
      takes_readConnectRequest.mpr ⟨reserved, dest, rfl, hhost, rfl⟩⟩

/-- **The handshake stops short** where its greeting or its request does. -/
theorem stops_handshake {used out : List UInt8} {halt : Halt} :
    Stops (negotiateMethod >>= fun _ => readConnectRequest) used out halt ↔
      HandshakeStops used out halt := by
  rw [stops_bind]
  constructor
  · rintro (hgreeting | ⟨_, _, _, _, _, rfl, rfl, hgreeting, hrequest⟩)
    · exact .greeting (stops_negotiateMethod.mp hgreeting)
    · obtain ⟨methods, hlength, hoffered, rfl, rfl⟩ := takes_negotiateMethod.mp hgreeting
      exact .request hlength hoffered (stops_readConnectRequest.mp hrequest)
  · intro h
    cases h with
    | greeting h => exact .inl (stops_negotiateMethod.mpr h)
    | request hlength hoffered h =>
      exact .inr ⟨_, _, _, _, (), rfl, rfl,
        takes_negotiateMethod.mpr ⟨_, hlength, hoffered, rfl, rfl⟩,
        stops_readConnectRequest.mpr h⟩

/-- The reply to a request, and how the connection stands after it. -/
inductive Answers (device : Device σ) (dest : Destination) (port : UInt16) (rest : List UInt8) :
    UInt8 → Outcome σ → Prop
  | down (h : device = none) : Answers device dest port rest ReplyCode.generalFailure .bailed
  | unreachable {connectByName : String → UInt16 → Option σ} (h : device = some connectByName)
      (hdial : connectByName dest.host port = none) :
      Answers device dest port rest ReplyCode.hostUnreachable .bailed
  | connected {connectByName : String → UInt16 → Option σ} {overlay : σ}
      (h : device = some connectByName) (hdial : connectByName dest.host port = some overlay) :
      Answers device dest port rest ReplyCode.succeeded (.done overlay rest)

theorem run_dialOverlay (device : Device σ) (dest : Destination) (port : UInt16)
    (rest : List UInt8) : ∃ rep outcome,
      (dialOverlay device dest.host port).run rest = (replyFrame rep, outcome) ∧
        Answers device dest port rest rep outcome := by
  rcases device with _ | connectByName
  · exact ⟨_, _, rfl, .down rfl⟩
  · rcases hdial : connectByName dest.host port with _ | overlay
    · refine ⟨_, _, ?_, .unreachable rfl hdial⟩
      simp only [dialOverlay, hdial]
      rfl
    · refine ⟨_, _, ?_, .connected rfl hdial⟩
      simp only [dialOverlay, hdial]
      rfl

/-- There is one answer to a request. -/
theorem Answers.unique {device : Device σ} {dest : Destination} {port : UInt16} {rest : List UInt8}
    {rep rep' : UInt8} {outcome outcome' : Outcome σ}
    (h : Answers device dest port rest rep outcome)
    (h' : Answers device dest port rest rep' outcome') : rep = rep' ∧ outcome = outcome' := by
  cases h <;> cases h' <;> simp_all

theorem takes_dialOverlay {device : Device σ} {host : String} {port : UInt16}
    {used out : List UInt8} {overlay : σ} :
    Takes (dialOverlay device host port) used out overlay ↔ ∃ connectByName,
      device = some connectByName ∧ connectByName host port = some overlay ∧ used = [] ∧
        out = replyFrame ReplyCode.succeeded := by
  unfold dialOverlay
  rcases device with _ | connectByName
  · simp [sendReply, takes_writeAll_bind]
  · rcases hdial : connectByName host port with _ | stream
    · simp [sendReply, takes_writeAll_bind, hdial]
    · simp only [sendReply, takes_writeAll_bind, takes_pure, hdial, Option.some.injEq]
      constructor
      · rintro ⟨_, rfl, rfl, rfl, rfl⟩
        exact ⟨connectByName, rfl, hdial, rfl, List.append_nil _⟩
      · rintro ⟨_, rfl, hsame, rfl, rfl⟩
        exact ⟨[], (List.append_nil _).symm, rfl, rfl, Option.some.inj (hsame.symm.trans hdial)⟩

/-- **A client is connected to what it asked for.** -/
theorem socks5_connects_iff (device : Device σ) (arrivals : List (List UInt8))
    (out rest : List UInt8) (overlay : σ) :
    (handleConnection device).converse [] arrivals = (out, .done overlay rest) ↔
      ∃ connectByName methods reserved dest port, device = some connectByName ∧
        methods.length < 256 ∧ methodNoAuth ∈ methods ∧
        arrivals.flatten = greeting methods ++ request reserved dest port ++ rest ∧
        connectByName dest.host port = some overlay ∧
        out = [socks5Version, methodNoAuth] ++ replyFrame ReplyCode.succeeded := by
  rw [converse_eq_run, List.nil_append, run_eq_done_iff, handleConnection_eq]
  constructor
  · rintro ⟨_, harrived, htakes⟩
    obtain ⟨_, _, _, _, ⟨host, port⟩, rfl, rfl, hasked, hdialed⟩ := takes_bind.mp htakes
    obtain ⟨methods, reserved, dest, hlength, hoffered, rfl, rfl, rfl⟩ :=
      takes_handshake.mp hasked
    obtain ⟨connectByName, hdevice, hdial, rfl, rfl⟩ := takes_dialOverlay.mp hdialed
    rw [List.append_nil] at harrived
    exact ⟨connectByName, methods, reserved, dest, port, hdevice, hlength, hoffered, harrived,
      hdial, rfl⟩
  · rintro ⟨connectByName, methods, reserved, dest, port, hdevice, hlength, hoffered, harrived,
      hdial, rfl⟩
    refine ⟨_, harrived, takes_bind.mpr ⟨_, [], _, _, (dest.host, port), (List.append_nil _).symm,
      rfl, takes_handshake.mpr ⟨methods, reserved, dest, hlength, hoffered, rfl, rfl, rfl⟩, ?_⟩⟩
    exact takes_dialOverlay.mpr ⟨connectByName, hdevice, hdial, rfl, rfl⟩

/-- How a connection stands after what the client sent. -/
inductive Stands (device : Device σ) : List UInt8 → List UInt8 × Outcome σ → Prop
  /-- The handshake is cut off. -/
  | waits {input out : List UInt8} (h : HandshakeStops input out .waits) :
      Stands device input (out, .waits)
  /-- The handshake is not one that is served. -/
  | turnedAway {used rest out : List UInt8} (h : HandshakeStops used out .bails) :
      Stands device (used ++ rest) (out, .bailed)
  | answered {methods rest : List UInt8} {reserved rep : UInt8} {dest : Destination}
      {port : UInt16} {outcome : Outcome σ} (hlength : methods.length < 256)
      (hoffered : methodNoAuth ∈ methods) (h : Answers device dest port rest rep outcome) :
      Stands device (greeting methods ++ request reserved dest port ++ rest)
        ([socks5Version, methodNoAuth] ++ replyFrame rep, outcome)

theorem Stands.run {device : Device σ} {input : List UInt8} {result : List UInt8 × Outcome σ}
    (h : Stands device input result) : (handleConnection device).run input = result := by
  rw [handleConnection_eq, run_bind]
  cases h with
  | waits h => rw [run_eq_waits_iff.mpr (stops_handshake.mpr h), Outcome.andThen]
  | turnedAway h =>
    rw [run_eq_bailed_iff.mpr ⟨_, _, rfl, stops_handshake.mpr h⟩, Outcome.andThen]
  | @answered methods rest reserved rep dest port outcome hlength hoffered h =>
    have hasked : Takes (negotiateMethod >>= fun _ => readConnectRequest)
        (greeting methods ++ request reserved dest port) [socks5Version, methodNoAuth]
        (dest.host, port) :=
      takes_handshake.mpr ⟨methods, reserved, dest, hlength, hoffered, rfl, rfl, rfl⟩
    obtain ⟨rep', outcome', hanswer, hanswers⟩ := run_dialOverlay device dest port rest
    obtain ⟨rfl, rfl⟩ := h.unique hanswers
    rw [run_eq_done_iff.mpr ⟨_, rfl, hasked⟩, Outcome.andThen, hanswer]

end Tailnetd.Socks5
