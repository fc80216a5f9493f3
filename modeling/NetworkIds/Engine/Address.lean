import NetworkIds.Parser.Types

set_option autoImplicit false

namespace NetworkIds.Engine

open NetworkIds.Parser Endian

-- std::net::IpAddr
inductive IpAddr where
  | v4 (address : Ipv4Addr)
  | v6 (address : Ipv6Addr)
deriving DecidableEq

-- {:x}
def hexText (value : Nat) : String := String.ofList (Nat.toDigits 16 value)

-- {:02x}
def hexByte (byte : UInt8) : String :=
  if byte < 16 then "0" ++ hexText byte.toNat else hexText byte.toNat

def formatMac (mac : Mac) : String := String.intercalate ":" (mac.val.map hexByte)

def Ipv4Addr.display (address : Ipv4Addr) : String :=
  String.intercalate "." ([address.a, address.b, address.c, address.d].map fun octet => toString octet.toNat)

def u16Groups : Bytes → List UInt16
  | high :: low :: rest => u16FromBe high low :: u16Groups rest
  | _ => []

def Ipv6Addr.segments (address : Ipv6Addr) : List UInt16 := u16Groups address.octets.val

structure Span where
  start : Nat
  len : Nat

-- The search for the longest run of zero segments, the first of equal ones.
def longestZeros (segments : List UInt16) (i : Nat) (current longest : Span) : Span :=
  match segments with
  | [] => longest
  | segment :: rest =>
      if segment = 0 then
        let current := ⟨if current.len = 0 then i else current.start, current.len + 1⟩
        longestZeros rest (i + 1) current (if current.len > longest.len then current else longest)
      else longestZeros rest (i + 1) ⟨0, 0⟩ longest

def displaySegments (segments : List UInt16) : String :=
  String.intercalate ":" (segments.map fun segment => hexText segment.toNat)

def Ipv6Addr.toIpv4Mapped (address : Ipv6Addr) : Option Ipv4Addr :=
  match address.octets.val with
  | [0, 0, 0, 0, 0, 0, 0, 0, 0, 0, 0xFF, 0xFF, a, b, c, d] => some ⟨a, b, c, d⟩
  | _ => none

def Ipv6Addr.display (address : Ipv6Addr) : String :=
  match Ipv6Addr.toIpv4Mapped address with
  | some ipv4 => "::ffff:" ++ Ipv4Addr.display ipv4
  | none =>
      let segments := Ipv6Addr.segments address
      let zeroes := longestZeros segments 0 ⟨0, 0⟩ ⟨0, 0⟩
      if zeroes.len > 1 then
        displaySegments (segments.take zeroes.start) ++ "::" ++
          displaySegments (segments.drop (zeroes.start + zeroes.len))
      else displaySegments segments

-- The address parser reads from the front of the text and gives back the rest.
abbrev Reader (α : Type) := List Char → Option (α × List Char)

def readGivenChar (given : Char) : Reader Unit
  | c :: rest => if c = given then some ((), rest) else none
  | [] => none

-- char::to_digit
def toDigit (radix : Nat) (c : Char) : Option Nat :=
  let value :=
    if '0' ≤ c ∧ c ≤ '9' then some (c.toNat - 48)
    else if 'a' ≤ c ∧ c ≤ 'z' then some (c.toNat - 87)
    else if 'A' ≤ c ∧ c ≤ 'Z' then some (c.toNat - 55)
    else none
  value.filter (fun digit => digit < radix)

def readDigits (radix maxDigits : Nat) (text : List Char) (digitCount result : Nat) :
    Option (Nat × Nat × List Char) :=
  match text with
  | [] => some (digitCount, result, [])
  | c :: rest =>
      match toDigit radix c with
      | none => some (digitCount, result, c :: rest)
      | some digit =>
          if digitCount + 1 > maxDigits then none
          else readDigits radix maxDigits rest (digitCount + 1) (result * radix + digit)

def readNumber (radix maxDigits : Nat) (allowZeroPrefix : Bool) (maxValue : Nat) : Reader Nat := fun text =>
  match readDigits radix maxDigits text 0 0 with
  | none => none
  | some (digitCount, result, rest) =>
      if digitCount = 0 then none
      else if !allowZeroPrefix ∧ text.head? = some '0' ∧ digitCount > 1 then none
      else if result > maxValue then none
      else some (result, rest)

def readSeparator {α : Type} (sep : Char) (i : Nat) (inner : Reader α) : Reader α := fun text =>
  if i > 0 then
    match readGivenChar sep text with
    | none => none
    | some (_, rest) => inner rest
  else inner text

def readOctet (i : Nat) : Reader UInt8 := fun text =>
  (readSeparator '.' i (readNumber 10 3 false 255) text).map fun (octet, rest) => (UInt8.ofNat octet, rest)

def readIpv4Addr : Reader Ipv4Addr := fun text => do
  let (a, text) ← readOctet 0 text
  let (b, text) ← readOctet 1 text
  let (c, text) ← readOctet 2 text
  let (d, text) ← readOctet 3 text
  return (⟨a, b, c, d⟩, text)

-- The groups from the i-th on, with at most the given number left to read. The
-- flag tells that the last two are an embedded IPv4 address.
def readGroups (left i : Nat) (text : List Char) : List UInt16 × Bool × List Char :=
  match left with
  | 0 => ([], false, text)
  | left + 1 =>
      match if left > 0 then readSeparator ':' i readIpv4Addr text else none with
      | some (ipv4, rest) => ([u16FromBe ipv4.a ipv4.b, u16FromBe ipv4.c ipv4.d], true, rest)
      | none =>
          match readSeparator ':' i (readNumber 16 4 true 65535) text with
          | some (group, rest) =>
              let (groups, embedded, rest) := readGroups left (i + 1) rest
              (UInt16.ofNat group :: groups, embedded, rest)
          | none => ([], false, text)

def Ipv6Addr.ofSegments (segments : List UInt16) : Ipv6Addr :=
  let octets := segments.flatMap u16ToBe
  if sized : octets.length = 16 then ⟨⟨octets, sized⟩⟩ else ⟨Octets.fill 16 0⟩

def readIpv6Addr : Reader Ipv6Addr := fun text =>
  let (head, headIpv4, rest) := readGroups 8 0 text
  if head.length = 8 then some (Ipv6Addr.ofSegments head, rest)
  else if headIpv4 then none
  else
    match rest with
    | ':' :: ':' :: rest =>
        let (tail, _, rest) := readGroups (8 - (head.length + 1)) 0 rest
        let zeros := List.replicate (8 - head.length - tail.length) 0
        some (Ipv6Addr.ofSegments (head ++ zeros ++ tail), rest)
    | _ => none

def readIpAddr : Reader IpAddr := fun text =>
  match readIpv4Addr text with
  | some (address, rest) => some (.v4 address, rest)
  | none => (readIpv6Addr text).map fun (address, rest) => (.v6 address, rest)

-- str::parse::<IpAddr>()
def parseIpAddr (text : String) : Option IpAddr :=
  match readIpAddr text.toList with
  | some (address, []) => some address
  | _ => none

-- The source IP, or the MAC address of a packet without one.
def resolveSrcIp (pkt : ParsedPacket) : String :=
  match pkt.network with
  | .ipv4 ip => Ipv4Addr.display ip.srcIp
  | .ipv6 ip => Ipv6Addr.display ip.srcIp
  | .arp arp => Ipv4Addr.display arp.senderIp
  | .none => formatMac pkt.srcMac

def resolveDstIp (pkt : ParsedPacket) : String :=
  match pkt.network with
  | .ipv4 ip => Ipv4Addr.display ip.dstIp
  | .ipv6 ip => Ipv6Addr.display ip.dstIp
  | .arp arp => Ipv4Addr.display arp.targetIp
  | .none => formatMac pkt.dstMac

end NetworkIds.Engine
