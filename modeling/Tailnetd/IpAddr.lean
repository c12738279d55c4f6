/-
  IP addresses and CIDR prefixes, as the daemon reads and prints them.

  The exit-node policy stores the canonical printed form of the address the administrator wrote,
  and the operator's selector is compared with that text, so both directions matter: `readIpAddr`
  is the standard library's strict parser (dotted IPv4 without leading zeros; IPv6 with one `::`
  and an optional embedded IPv4 tail) and `IpAddr.toText` is its `Display` (an IPv4-mapped
  address keeps its dotted tail; otherwise the first longest run of two or more zero groups is
  compressed).

  A reader takes the characters still to be read and returns what it read with the rest, or
  `none` without having consumed anything.
-/
import Mathlib.Data.List.Basic

namespace Tailnetd

/-! ## Addresses -/

/-- `std::net::IpAddr`: an IPv4 address as four octets, an IPv6 address as eight groups. -/
inductive IpAddr where
  | v4 (octets : List Nat)
  | v6 (groups : List Nat)
  deriving DecidableEq, Repr

/-- A reader of the address grammar. -/
abbrev Reader (α : Type) := List Char → Option (α × List Char)

/-- The value of a digit in the given radix (10 or 16, hexadecimal in either case). -/
def digitValue (radix : Nat) (c : Char) : Option Nat :=
  let v :=
    if '0' ≤ c ∧ c ≤ '9' then some (c.toNat - 48)
    else if 'a' ≤ c ∧ c ≤ 'f' then some (c.toNat - 87)
    else if 'A' ≤ c ∧ c ≤ 'F' then some (c.toNat - 55)
    else none
  v.filter (· < radix)

/-- At most `fuel` leading digits, with their value and how many there were. -/
def readDigits (radix : Nat) : Nat → Nat → Nat → List Char → Nat × Nat × List Char
  | 0, value, count, s => (value, count, s)
  | _ + 1, value, count, [] => (value, count, [])
  | fuel + 1, value, count, c :: s =>
    match digitValue radix c with
    | some d => readDigits radix fuel (value * radix + d) (count + 1) s
    | none => (value, count, c :: s)

/-- `read_number`: one to `maxDigits` digits, below `bound`; a leading zero is refused unless it
    is allowed or the only digit.  One digit past `maxDigits` refuses the number. -/
def readNumber (radix maxDigits bound : Nat) (allowZeroPrefix : Bool) : Reader Nat := fun s =>
  let (value, count, rest) := readDigits radix (maxDigits + 1) 0 0 s
  if count = 0 ∨ maxDigits < count ∨ bound ≤ value then none
  else if !allowZeroPrefix && s.head? == some '0' && decide (1 < count) then none
  else some (value, rest)

/-- `read_given_char`. -/
def readChar (c : Char) : Reader Unit
  | [] => none
  | d :: s => if d = c then some ((), s) else none

/-- `read_separator`: before every item but the first (`index` 0) the separator must stand. -/
def readSeparated {α : Type} (sep : Char) (index : Nat) (item : Reader α) : Reader α := fun s =>
  if index = 0 then item s else (readChar sep s).bind fun (_, rest) => item rest

/-- `read_ipv4_addr`, from octet `index` on. -/
def readOctets : Nat → Nat → Reader (List Nat)
  | 0, _, s => some ([], s)
  | left + 1, index, s => do
    let (octet, s) ← readSeparated '.' index (readNumber 10 3 256 false) s
    let (octets, s) ← readOctets left (index + 1) s
    pure (octet :: octets, s)

/-- `read_ipv4_addr`: four dotted octets. -/
def readIpv4 : Reader (List Nat) := readOctets 4 0

/-- `read_groups`: up to `left` more groups, the first of them number `index`; the flag says that
    an embedded IPv4 address ended the chunk, which needs two groups of room. -/
def readGroups : Nat → Nat → List Char → List Nat × Bool × List Char
  | 0, _, s => ([], false, s)
  | left + 1, index, s =>
    let embedded := if 0 < left then readSeparated ':' index readIpv4 s else none
    match embedded with
    | some ([a, b, c, d], rest) => ([a * 256 + b, c * 256 + d], true, rest)
    | _ =>
      match readSeparated ':' index (readNumber 16 4 65536 true) s with
      | none => ([], false, s)
      | some (group, rest) =>
        let (groups, v4, rest) := readGroups left (index + 1) rest
        (group :: groups, v4, rest)

/-- `read_ipv6_addr`: eight groups, or fewer around one `::` that stands for at least one zero. -/
def readIpv6 : Reader (List Nat) := fun s =>
  let (head, headV4, rest) := readGroups 8 0 s
  if head.length = 8 then some (head, rest)
  else if headV4 then none
  else do
    let (_, rest) ← readChar ':' rest
    let (_, rest) ← readChar ':' rest
    let (tail, _, rest) := readGroups (7 - head.length) 0 rest
    pure (head ++ List.replicate (8 - head.length - tail.length) 0 ++ tail, rest)

/-- `str::parse::<IpAddr>`: the whole text is one address. -/
def readIpAddr (text : String) : Option IpAddr :=
  let read : Reader IpAddr := fun s =>
    ((readIpv4 s).map fun (a, r) => (IpAddr.v4 a, r)).or
      ((readIpv6 s).map fun (a, r) => (IpAddr.v6 a, r))
  match read text.toList with
  | some (addr, []) => some addr
  | _ => none

/-! ## Printing -/

/-- A number in lower-case hexadecimal without leading zeros. -/
def hexText (n : Nat) : String := String.ofList (Nat.toDigits 16 n)

/-- The dotted form of four octets. -/
def dottedText (octets : List Nat) : String := ".".intercalate (octets.map toString)

/-- The first longest run of zero groups, as (start, length). -/
def longestZeroRun (groups : List Nat) : Nat × Nat :=
  let step := fun (st : Nat × (Nat × Nat) × (Nat × Nat)) (g : Nat) =>
    let (i, (curStart, curLen), (bestStart, bestLen)) := st
    let (curStart, curLen) :=
      if g = 0 then (if curLen = 0 then i else curStart, curLen + 1) else (curStart, 0)
    let best := if bestLen < curLen then (curStart, curLen) else (bestStart, bestLen)
    (i + 1, (curStart, curLen), best)
  (groups.foldl step (0, (0, 0), (0, 0))).2.2

/-- `Display` of an IPv6 address. -/
def ipv6Text (groups : List Nat) : String :=
  match groups with
  | [0, 0, 0, 0, 0, 65535, a, b] =>
    "::ffff:" ++ dottedText [a / 256, a % 256, b / 256, b % 256]
  | _ =>
    let colons := fun gs : List Nat => ":".intercalate (gs.map hexText)
    let (start, len) := longestZeroRun groups
    if 1 < len then colons (groups.take start) ++ "::" ++ colons (groups.drop (start + len))
    else colons groups

/-- `IpAddr::to_string`: the canonical text of an address. -/
def IpAddr.toText : IpAddr → String
  | .v4 octets => dottedText octets
  | .v6 groups => ipv6Text groups

example : (readIpAddr "100.64.0.1").map IpAddr.toText = some "100.64.0.1" := by decide
example : (readIpAddr "FD7A:115c:0:0:0:0:0:1").map IpAddr.toText = some "fd7a:115c::1" := by decide
example : readIpAddr "100.64.0.01" = none := by decide
example : readIpAddr "::ffff:1.2.3.4" = some (.v6 [0, 0, 0, 0, 0, 65535, 258, 772]) := by decide

/-! ## CIDR prefixes -/

/-- `ipnet::IpNet`: an address with a prefix length. -/
structure IpNet where
  addr : IpAddr
  prefixLen : Nat
  deriving DecidableEq, Repr

/-- The numbers of an address, most significant first. -/
def IpAddr.parts : IpAddr → List Nat
  | .v4 octets => octets
  | .v6 groups => groups

/-- The width of one part of an address. -/
def IpAddr.partBits : IpAddr → Nat
  | .v4 _ => 8
  | .v6 _ => 16

/-- Rebuild an address of the same family from its parts. -/
def IpAddr.withParts : IpAddr → List Nat → IpAddr
  | .v4 _, parts => .v4 parts
  | .v6 _, parts => .v6 parts

/-- Keep the first `len` bits of the parts and clear the rest. -/
def maskParts (bits : Nat) : Nat → List Nat → List Nat
  | _, [] => []
  | len, part :: parts =>
    let keep := min len bits
    part / 2 ^ (bits - keep) * 2 ^ (bits - keep) :: maskParts bits (len - keep) parts

/-- `IpNet::trunc`: the host bits cleared. -/
def IpNet.trunc (n : IpNet) : IpNet :=
  { n with addr := n.addr.withParts (maskParts n.addr.partBits n.prefixLen n.addr.parts) }

/-- `Display` of a prefix. -/
def IpNet.toText (n : IpNet) : String := n.addr.toText ++ "/" ++ toString n.prefixLen

/-- The order of the parts of two addresses of one family. -/
def partsLe : List Nat → List Nat → Bool
  | [], _ => true
  | _ :: _, [] => false
  | a :: as, b :: bs => decide (a < b) || (a == b && partsLe as bs)

/-- The order of addresses: every IPv4 address before every IPv6 one, then by value. -/
def IpAddr.le : IpAddr → IpAddr → Bool
  | .v4 a, .v4 b => partsLe a b
  | .v4 _, .v6 _ => true
  | .v6 _, .v4 _ => false
  | .v6 a, .v6 b => partsLe a b

example : (IpNet.mk (.v4 [192, 0, 2, 5]) 24).trunc = ⟨.v4 [192, 0, 2, 0], 24⟩ := by decide

/-! ## CIDR prefixes of one family -/

/-- `ipnet::Ipv4Net`: an address with a prefix length; the host bits are kept. -/
structure Ipv4Net where
  addr : Vector UInt8 4
  prefixLen : Nat
  inRange : prefixLen ≤ 32
  deriving DecidableEq

/-- `Ipv4Net::new`. -/
def Ipv4Net.new (addr : Vector UInt8 4) (prefixLen : Nat) : Option Ipv4Net :=
  if h : prefixLen ≤ 32 then some ⟨addr, prefixLen, h⟩ else none

/-- `IpNet::V4`. -/
def Ipv4Net.toIpNet (net : Ipv4Net) : IpNet :=
  ⟨.v4 (net.addr.toList.map UInt8.toNat), net.prefixLen⟩

/-- `Display` of a prefix. -/
def Ipv4Net.toText (net : Ipv4Net) : String := net.toIpNet.toText

/-- `ipnet::Ipv6Net`. -/
structure Ipv6Net where
  addr : Vector UInt8 16
  prefixLen : Nat
  inRange : prefixLen ≤ 128
  deriving DecidableEq

/-- `Ipv6Net::new`. -/
def Ipv6Net.new (addr : Vector UInt8 16) (prefixLen : Nat) : Option Ipv6Net :=
  if h : prefixLen ≤ 128 then some ⟨addr, prefixLen, h⟩ else none

/-- `Ipv6Addr::segments`: two octets to a group. -/
def segments : List UInt8 → List Nat
  | high :: low :: rest => (high.toNat * 256 + low.toNat) :: segments rest
  | _ => []

/-- `IpNet::V6`. -/
def Ipv6Net.toIpNet (net : Ipv6Net) : IpNet := ⟨.v6 (segments net.addr.toList), net.prefixLen⟩

/-- `Display` of a prefix. -/
def Ipv6Net.toText (net : Ipv6Net) : String := net.toIpNet.toText

end Tailnetd
