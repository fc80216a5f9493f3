import NetworkIds.Lib.Endian

set_option autoImplicit false

namespace NetworkIds.Parser

inductive LinkType where
  | ethernet
  | wifi80211
  | radiotapWifi
  | unknown
deriving DecidableEq, Repr

inductive Direction where
  | ingress
  | egress
  | unknown
deriving DecidableEq, Repr

abbrev Mac := Octets 6

structure Ipv4Addr where
  a : UInt8
  b : UInt8
  c : UInt8
  d : UInt8
deriving DecidableEq, Repr

def Ipv4Addr.encode (address : Ipv4Addr) : Bytes := [address.a, address.b, address.c, address.d]

structure Ipv6Addr where
  octets : Octets 16
deriving DecidableEq

structure PacketMeta where
  timestampSec : UInt64
  timestampNsec : UInt32
  capturedLen : UInt32
  originalLen : UInt32
  interfaceIndex : UInt32
  interfaceName : String
  packetNumber : UInt64
  direction : Direction

structure EthernetInfo where
  etherType : UInt16
  vlanId : Option UInt16
  pcp : Option UInt8
  dei : Option Bool
  outerVlanId : Option UInt16
  outerPcp : Option UInt8
  frameLength : Nat
  fcs : Option UInt32
deriving DecidableEq

structure RadiotapInfo where
  headerLen : Nat
  dbmAntsignal : Option Int8
  channel : Option UInt16
  channelFlags : Option UInt16
  dataRate : Option UInt16
  noiseLevel : Option Int8
  txPower : Option Int8
  rxFlags : Option UInt16
  antennaIndex : Option UInt8
  mcsIndex : Option UInt8
  bandwidth : Option UInt8
  timestamp : Option UInt64
deriving DecidableEq

structure Wifi80211Header where
  protocolVersion : UInt8
  frameType : UInt8
  frameSubtype : UInt8
  toDs : Bool
  fromDs : Bool
  moreFragments : Bool
  retry : Bool
  powerManagement : Bool
  moreData : Bool
  protectedFrame : Bool
  order : Bool
  duration : UInt16
  sequenceNumber : UInt16
  fragmentNumber : UInt8
  qosControl : Option UInt16
  htControl : Option UInt32

structure CountryInfo where
  countryCode : UInt8 × UInt8
  environment : UInt8
  triplets : Bytes

structure TimInfo where
  dtimCount : UInt8
  dtimPeriod : UInt8
  bitmapControl : UInt8
  partialVirtualBitmap : Bytes

structure HtCapabilities where
  htCapInfo : UInt16
  ampduParams : UInt8
  raw : Bytes

structure HtOperation where
  primaryChannel : UInt8
  raw : Bytes

structure VhtCapabilities where
  vhtCapInfo : UInt32
  raw : Bytes

structure VendorIe where
  oui : UInt8 × UInt8 × UInt8
  ouiType : UInt8
  data : Bytes

structure RsnInfo where
  groupCipher : Option UInt32
  pairwiseCiphers : List UInt32
  akmSuites : List UInt32
  capabilities : Option UInt16
deriving DecidableEq

structure WifiMgmtFrame where
  subtype : UInt8
  ssid : Option String
  channel : Option UInt8
  rsnInfo : Option RsnInfo
  reasonCode : Option UInt16
  statusCode : Option UInt16
  bssid : Mac
  clientMac : Option Mac
  rawBody : Bytes
  beaconInterval : Option UInt16
  capabilityInfo : Option UInt16
  supportedRates : Bytes
  extendedSupportedRates : Bytes
  countryInfo : Option CountryInfo
  tim : Option TimInfo
  erpInfo : Option UInt8
  htCapabilities : Option HtCapabilities
  htOperation : Option HtOperation
  vhtCapabilities : Option VhtCapabilities
  vendorIes : List VendorIe

structure ArpInfo where
  hwType : UInt16
  protoType : UInt16
  hwAddrLen : UInt8
  protoAddrLen : UInt8
  opcode : UInt16
  senderMac : Mac
  senderIp : Ipv4Addr
  targetMac : Mac
  targetIp : Ipv4Addr
deriving DecidableEq

structure Ipv4Info where
  version : UInt8
  ihl : UInt8
  dscp : UInt8
  ecn : UInt8
  totalLength : UInt16
  identification : UInt16
  flags : UInt8
  fragmentOffset : UInt16
  ttl : UInt8
  protocol : UInt8
  headerChecksum : UInt16
  srcIp : Ipv4Addr
  dstIp : Ipv4Addr
  options : Bytes
  payload : Bytes
deriving DecidableEq

structure Ipv6ExtHeader where
  headerType : UInt8
  data : Bytes
deriving DecidableEq

structure Ipv6Info where
  version : UInt8
  trafficClass : UInt8
  flowLabel : UInt32
  payloadLength : UInt16
  nextHeader : UInt8
  hopLimit : UInt8
  srcIp : Ipv6Addr
  dstIp : Ipv6Addr
  extensionHeaders : List Ipv6ExtHeader
  finalNextHeader : UInt8
  payload : Bytes
deriving DecidableEq

inductive NetworkLayer where
  | arp (info : ArpInfo)
  | ipv4 (info : Ipv4Info)
  | ipv6 (info : Ipv6Info)
  | none
deriving DecidableEq

structure TcpOptions where
  mss : Option UInt16
  windowScale : Option UInt8
  sackPermitted : Bool
  sackBlocks : List (UInt32 × UInt32)
  timestamp : Option (UInt32 × UInt32)
deriving DecidableEq

structure TcpInfo where
  srcPort : UInt16
  dstPort : UInt16
  seq : UInt32
  ack : UInt32
  dataOffset : UInt8
  reserved : UInt8
  flags : UInt16
  windowSize : UInt16
  checksum : UInt16
  urgentPointer : UInt16
  options : TcpOptions
  payload : Bytes
deriving DecidableEq

structure UdpInfo where
  srcPort : UInt16
  dstPort : UInt16
  length : UInt16
  checksum : UInt16
  payload : Bytes
deriving DecidableEq

structure IcmpInfo where
  icmpType : UInt8
  icmpCode : UInt8
  checksum : UInt16
  identifier : Option UInt16
  sequenceNumber : Option UInt16
  mtu : Option UInt16
  embeddedHeader : Option Bytes
  payload : Bytes
deriving DecidableEq

inductive TransportLayer where
  | tcp (info : TcpInfo)
  | udp (info : UdpInfo)
  | icmp (info : IcmpInfo)
  | none
deriving DecidableEq

structure DnsRecord where
  name : String
  rtype : UInt16
  class_ : UInt16
  ttl : UInt32
  rdata : Bytes
deriving DecidableEq

structure DnsInfo where
  transactionId : UInt16
  isResponse : Bool
  opcode : UInt8
  aa : Bool
  tc : Bool
  rd : Bool
  ra : Bool
  rcode : UInt8
  questionCount : UInt16
  answerCount : UInt16
  authorityCount : UInt16
  additionalCount : UInt16
  query : Option String
  queryType : Option UInt16
  queryClass : Option UInt16
  answers : List DnsRecord
deriving DecidableEq

structure DhcpInfo where
  transactionId : UInt32
  clientIp : Ipv4Addr
  yourIp : Ipv4Addr
  relayIp : Ipv4Addr
  clientMac : Mac
  messageType : Option UInt8
  serverIp : Option Ipv4Addr
  hostname : Option String
  leaseTime : Option UInt32
  renewalTime : Option UInt32
  vendorClass : Option String
  parameterRequestList : Bytes
deriving DecidableEq

structure EapolInfo where
  version : UInt8
  packetType : UInt8
  keyDescType : UInt8
  keyInfo : UInt16
  descriptorVersion : UInt8
  install : Bool
  keyAck : Bool
  keyMic : Bool
  secure : Bool
  error : Bool
  request : Bool
  encryptedKeyData : Bool
  replayCounter : UInt64
  keyNonce : Octets 32
  keyIv : Octets 16
  mic : Octets 16
  rawKeyData : Bytes
deriving DecidableEq

inductive AppLayer where
  | dns (info : DnsInfo)
  | dhcp (info : DhcpInfo)
  | eapol (info : EapolInfo)
  | none
deriving DecidableEq

structure ParsedPacket where
  meta_ : Option PacketMeta
  linkType : LinkType
  srcMac : Mac
  dstMac : Mac
  bssid : Option Mac
  signalDbm : Option Int8
  channel : Option UInt16
  malformed : Bool
  ethernet : Option EthernetInfo
  wifiHeader : Option Wifi80211Header
  network : NetworkLayer
  transport : TransportLayer
  app : AppLayer
  wifiMgmt : Option WifiMgmtFrame
  rawPayload : Bytes

-- Every parser that finds its layer cut short or inconsistent leaves the
-- layers parsed so far and only sets this mark.
def ParsedPacket.new (linkType : LinkType) (packetMeta : Option PacketMeta) : ParsedPacket where
  meta_ := packetMeta
  linkType := linkType
  srcMac := Octets.fill 6 0
  dstMac := Octets.fill 6 0
  bssid := none
  signalDbm := none
  channel := none
  malformed := false
  ethernet := none
  wifiHeader := none
  network := .none
  transport := .none
  app := .none
  wifiMgmt := none
  rawPayload := []

def ParsedPacket.markMalformed (pkt : ParsedPacket) : ParsedPacket := { pkt with malformed := true }

-- copy_mac leaves the all-zero address for a slice that is too short.
def copyMac (source : Bytes) : Checked Mac := do
  if source.length ≥ 6 then
    Octets.copyFromSlice 6 (← Checked.slice source 0 6)
  else
    return Octets.fill 6 0

theorem copy_mac_ok {source : Bytes} (long : 6 ≤ source.length) :
    copyMac source = .ok ⟨source.take 6, List.length_take_of_le long⟩ := by
  have length : ((source.take 6).drop 0).length = 6 := by simp; omega
  rw [copyMac, if_pos long, Checked.slice_ok (by omega) long, Checked.ok_bind, Octets.copy_ok length]
  simp

theorem copy_mac_val (mac : Mac) : copyMac mac.val = .ok mac := by
  have length := mac.property
  rw [copy_mac_ok (by omega)]
  congr 1
  exact Subtype.ext (List.take_of_length_le (by omega))

end NetworkIds.Parser
