import NetworkIds.Parser.ExtensionHeaders
import NetworkIds.Parser.RoundTrip

set_option autoImplicit false

namespace NetworkIds.Parser

open Checked Endian

inductive EchoKind where
  | reply
  | request
  | requestV6
  | replyV6

def EchoKind.icmpType : EchoKind → UInt8
  | .reply => 0
  | .request => 8
  | .requestV6 => 128
  | .replyV6 => 129

-- The messages that parse_icmp tells apart, by their types: 0, 8, 128 and 129, then 3,
-- 11 and 2, and all others.
inductive IcmpMessage where
  | echo (kind : EchoKind) (code : UInt8) (identifier sequenceNumber : UInt16) (data : Bytes)
  | unreachable (code : UInt8) (unused mtu : UInt16) (quoted : Bytes)
  | timeExceeded (code : UInt8) (unused : Octets 4) (quoted : Bytes)
  | tooBig (code : UInt8) (unused mtu : UInt16) (quoted : Bytes)
  | other (icmpType code : UInt8) (body : Bytes) (unknown : icmpType ∉ [0, 8, 128, 129, 3, 11, 2])

def IcmpMessage.icmpType : IcmpMessage → UInt8
  | .echo kind _ _ _ _ => kind.icmpType
  | .unreachable _ _ _ _ => 3
  | .timeExceeded _ _ _ => 11
  | .tooBig _ _ _ _ => 2
  | .other icmpType _ _ _ => icmpType

def IcmpMessage.code : IcmpMessage → UInt8
  | .echo _ code _ _ _ | .unreachable code _ _ _ | .timeExceeded code _ _ => code
  | .tooBig code _ _ _ | .other _ code _ _ => code

def IcmpMessage.body : IcmpMessage → Bytes
  | .echo _ _ identifier sequenceNumber data => u16ToBe identifier ++ (u16ToBe sequenceNumber ++ data)
  | .unreachable _ unused mtu quoted | .tooBig _ unused mtu quoted => u16ToBe unused ++ (u16ToBe mtu ++ quoted)
  | .timeExceeded _ unused quoted => unused.val ++ quoted
  | .other _ _ body _ => body

def IcmpMessage.encode (checksum : UInt16) (message : IcmpMessage) : Bytes :=
  message.icmpType :: message.code :: (u16ToBe checksum ++ message.body)

-- At most 28 bytes of the datagram that an error is about.
def quotedHeader (quoted : Bytes) : Option Bytes := if quoted = [] then none else some (quoted.take 28)

def IcmpMessage.detail : IcmpMessage → IcmpDetail
  | .echo _ _ identifier sequenceNumber _ => ⟨some identifier, some sequenceNumber, none, none⟩
  | .unreachable code _ mtu quoted => ⟨none, none, if code = 4 then some mtu else none, quotedHeader quoted⟩
  | .timeExceeded _ _ quoted => ⟨none, none, none, quotedHeader quoted⟩
  | .tooBig _ _ mtu _ => ⟨none, none, some mtu, none⟩
  | .other _ _ _ _ => IcmpDetail.empty

def IcmpMessage.info (checksum : UInt16) (message : IcmpMessage) : IcmpInfo where
  icmpType := message.icmpType
  icmpCode := message.code
  checksum := checksum
  identifier := message.detail.identifier
  sequenceNumber := message.detail.sequenceNumber
  mtu := message.detail.mtu
  embeddedHeader := message.detail.embeddedHeader
  payload := message.body

theorem icmp_embedded_decodes (front quoted : Bytes) (header : front.length = 8) :
    icmpEmbedded (front ++ quoted) = .ok (quotedHeader quoted) := by
  rw [icmpEmbedded, quotedHeader, List.length_append, header]
  by_cases empty : quoted = []
  · rw [if_pos empty, if_neg (by rw [empty]; decide)]
    rfl
  · have filled := List.length_pos_iff.mpr empty
    rw [if_neg empty, if_pos (by omega), slice_ok (by omega) (by rw [List.length_append]; omega), List.drop_take,
      List.drop_left' header, ok_bind]
    by_cases short : quoted.length ≤ 28
    · rw [List.take_of_length_le short, List.take_of_length_le (by omega)]
      rfl
    · rw [Nat.min_eq_right (by omega)]
      rfl

def icmpFront (icmpType code : UInt8) (checksum unused mtu : UInt16) : Bytes :=
  icmpType :: code :: (u16ToBe checksum ++ (u16ToBe unused ++ u16ToBe mtu))

theorem icmp_mtu_decodes (icmpType code : UInt8) (checksum unused mtu : UInt16) (quoted : Bytes) (present : Bool) :
    icmpMtu (icmpFront icmpType code checksum unused mtu ++ quoted) present =
      .ok (if present then some mtu else none) := by
  rw [icmpMtu]
  cases present with
  | false => exact if_neg (fun both => Bool.false_ne_true both.1)
  | true =>
      rw [if_pos ⟨rfl, by rw [List.length_append]; exact Nat.le_add_right 8 _⟩]
      simp only [icmpFront, u16ToBe, List.cons_append, List.nil_append, index_zero, index_succ, ok_bind, u16_round_trip]
      rfl

theorem icmp_detail_decodes (checksum : UInt16) (message : IcmpMessage) :
    icmpDetail message.icmpType message.code (message.encode checksum) = .ok message.detail := by
  cases message with
  | echo kind code identifier sequenceNumber data =>
      have read : icmpEcho (IcmpMessage.encode checksum (.echo kind code identifier sequenceNumber data)) =
          .ok ⟨some identifier, some sequenceNumber, none, none⟩ := by
        rw [icmpEcho, if_pos (by
          simp only [IcmpMessage.encode, IcmpMessage.body, u16ToBe, List.cons_append, List.nil_append, List.length_cons]
          omega)]
        simp only [IcmpMessage.encode, IcmpMessage.body, u16ToBe, List.cons_append, List.nil_append, index_zero,
          index_succ, ok_bind, u16_round_trip]
        rfl
      cases kind with
      | reply => exact read
      | request => exact read
      | requestV6 => exact read
      | replyV6 => exact read
  | unreachable code unused mtu quoted =>
      have shape : IcmpMessage.encode checksum (.unreachable code unused mtu quoted) =
          icmpFront 3 code checksum unused mtu ++ quoted := rfl
      have read : icmpDetail 3 code (icmpFront 3 code checksum unused mtu ++ quoted) =
          .ok ⟨none, none, if code == 4 then some mtu else none, quotedHeader quoted⟩ := by
        rw [icmpDetail, icmp_mtu_decodes, ok_bind, icmp_embedded_decodes _ _ rfl]
        rfl
      rw [shape]
      refine read.trans ?_
      rw [IcmpMessage.detail]
      by_cases needed : code = 4
      · rw [if_pos needed, if_pos (by rw [needed]; rfl)]
      · rw [if_neg needed, if_neg (by simpa using needed)]
  | timeExceeded code unused quoted =>
      have shape : IcmpMessage.encode checksum (.timeExceeded code unused quoted) =
          (11 :: code :: (u16ToBe checksum ++ unused.val)) ++ quoted := by
        rw [IcmpMessage.encode, IcmpMessage.body, ← List.append_assoc]
        rfl
      have header : (11 :: code :: (u16ToBe checksum ++ unused.val)).length = 8 := by
        rw [List.length_cons, List.length_cons, List.length_append, unused.property]
        rfl
      have read : icmpDetail 11 code ((11 :: code :: (u16ToBe checksum ++ unused.val)) ++ quoted) =
          .ok ⟨none, none, none, quotedHeader quoted⟩ := by
        rw [icmpDetail, icmp_embedded_decodes _ _ header]
        rfl
      rw [shape]
      exact read
  | tooBig code unused mtu quoted =>
      have read : icmpDetail 2 code (icmpFront 2 code checksum unused mtu ++ quoted) =
          .ok ⟨none, none, some mtu, none⟩ := by
        rw [icmpDetail, icmp_mtu_decodes]
        rfl
      exact read
  | other icmpType code body unknown =>
      have read (data : Bytes) : icmpDetail icmpType code data = .ok IcmpDetail.empty := by
        simp only [List.mem_cons, List.not_mem_nil, or_false, not_or] at unknown
        unfold icmpDetail
        split
        all_goals simp_all
      exact read _

theorem icmp_decodes (checksum : UInt16) (message : IcmpMessage) (pkt : ParsedPacket) :
    parseIcmp (message.encode checksum) pkt = .ok { pkt with transport := .icmp (message.info checksum) } := by
  have long : 4 ≤ (message.encode checksum).length := Nat.le_add_left 4 message.body.length
  have payload : icmpPayload (message.encode checksum) = .ok message.body := by
    have behind : (message.encode checksum).drop 4 = message.body := rfl
    rw [icmpPayload]
    by_cases more : (message.encode checksum).length > 4
    · rw [if_pos more, slice_from_ok long, behind]
    · have empty : message.body = [] := by
        rw [← behind]
        exact List.drop_eq_nil_of_le (Nat.le_of_not_lt more)
      rw [if_neg more, empty]
      rfl
  have first : index (message.encode checksum) 0 = .ok message.icmpType := rfl
  have second : index (message.encode checksum) 1 = .ok message.code := rfl
  have third : index (message.encode checksum) 2 = .ok (UInt8.ofNat (checksum.toNat / 256)) := rfl
  have fourth : index (message.encode checksum) 3 = .ok (UInt8.ofNat checksum.toNat) := rfl
  rw [parseIcmp, if_neg (Nat.not_lt_of_le long), first, ok_bind, second, ok_bind, third, ok_bind, fourth, ok_bind,
    icmp_detail_decodes, ok_bind, payload, u16_round_trip]
  rfl

structure ArpFields where
  opcode : UInt16
  senderMac : Mac
  senderIp : Ipv4Addr
  targetMac : Mac
  targetIp : Ipv4Addr

def ArpFields.encode (arp : ArpFields) : Bytes :=
  u16ToBe 1 ++ (u16ToBe 0x0800 ++ ([6, 4] ++ (u16ToBe arp.opcode ++
    (arp.senderMac.val ++ (arp.senderIp.encode ++ (arp.targetMac.val ++ arp.targetIp.encode))))))

def ArpFields.info (arp : ArpFields) : ArpInfo where
  hwType := 1
  protoType := 0x0800
  hwAddrLen := 6
  protoAddrLen := 4
  opcode := arp.opcode
  senderMac := arp.senderMac
  senderIp := arp.senderIp
  targetMac := arp.targetMac
  targetIp := arp.targetIp

theorem ipv4_addr_read (before rest : Bytes) (address : Ipv4Addr) (start : Nat) (startEq : before.length = start) :
    index (before ++ (address.encode ++ rest)) start = .ok address.a ∧
      index (before ++ (address.encode ++ rest)) (start + 1) = .ok address.b ∧
      index (before ++ (address.encode ++ rest)) (start + 2) = .ok address.c ∧
      index (before ++ (address.encode ++ rest)) (start + 3) = .ok address.d :=
  ⟨index_append before _ startEq 0, index_append before _ startEq 1, index_append before _ startEq 2,
    index_append before _ startEq 3⟩

def ArpFields.front (arp : ArpFields) : Bytes := u16ToBe 1 ++ (u16ToBe 0x0800 ++ ([6, 4] ++ u16ToBe arp.opcode))

section Arp

variable (arp : ArpFields) (trailing : Bytes)

theorem arp_shape : arp.encode ++ trailing = arp.front ++ (arp.senderMac.val ++ (arp.senderIp.encode ++
    (arp.targetMac.val ++ (arp.targetIp.encode ++ trailing)))) := by
  simp only [ArpFields.encode, ArpFields.front, List.append_assoc]

theorem arp_leading (i : Nat) (inside : i < 8) : index (arp.encode ++ trailing) i = .ok (arp.front.getD i 0) := by
  rw [arp_shape]
  exact index_leading arp.front _ inside

theorem arp_sender_read : slice (arp.encode ++ trailing) 8 14 = .ok arp.senderMac.val ∧
    index (arp.encode ++ trailing) 14 = .ok arp.senderIp.a ∧
    index (arp.encode ++ trailing) 15 = .ok arp.senderIp.b ∧
    index (arp.encode ++ trailing) 16 = .ok arp.senderIp.c ∧
    index (arp.encode ++ trailing) 17 = .ok arp.senderIp.d := by
  have frontLength : arp.front.length = 8 := rfl
  have senderLength := arp.senderMac.property
  rw [arp_shape]
  constructor
  · exact slice_middle arp.front arp.senderMac.val _ rfl (by rw [senderLength, frontLength])
  · rw [← List.append_assoc arp.front]
    exact ipv4_addr_read (arp.front ++ arp.senderMac.val) _ arp.senderIp 14
      (by rw [List.length_append, senderLength, frontLength])

theorem arp_target_read : slice (arp.encode ++ trailing) 18 24 = .ok arp.targetMac.val ∧
    index (arp.encode ++ trailing) 24 = .ok arp.targetIp.a ∧
    index (arp.encode ++ trailing) 25 = .ok arp.targetIp.b ∧
    index (arp.encode ++ trailing) 26 = .ok arp.targetIp.c ∧
    index (arp.encode ++ trailing) 27 = .ok arp.targetIp.d := by
  have targetLength := arp.targetMac.property
  have before : (arp.front ++ (arp.senderMac.val ++ arp.senderIp.encode)).length = 18 := by
    rw [List.length_append, List.length_append, arp.senderMac.property]
    rfl
  have shape : arp.encode ++ trailing = arp.front ++ (arp.senderMac.val ++ arp.senderIp.encode) ++
      (arp.targetMac.val ++ (arp.targetIp.encode ++ trailing)) := by
    rw [arp_shape]
    simp only [List.append_assoc]
  rw [shape]
  constructor
  · exact slice_middle _ arp.targetMac.val _ before (by rw [before, targetLength])
  · rw [← List.append_assoc _ arp.targetMac.val]
    exact ipv4_addr_read _ trailing arp.targetIp 24 (by rw [List.length_append, before, targetLength])

theorem arp_decodes (pkt : ParsedPacket) :
    parseArp (arp.encode ++ trailing) pkt = .ok { pkt with network := .arp arp.info } := by
  have long : 28 ≤ (arp.encode ++ trailing).length := by
    have frontLength : arp.front.length = 8 := rfl
    have addressLength (address : Ipv4Addr) : address.encode.length = 4 := rfl
    rw [arp_shape]
    simp only [List.length_append, frontLength, arp.senderMac.property, arp.targetMac.property, addressLength]
    omega
  have leading := arp_leading arp trailing
  obtain ⟨senderMac, senderA, senderB, senderC, senderD⟩ := arp_sender_read arp trailing
  obtain ⟨targetMac, targetA, targetB, targetC, targetD⟩ := arp_target_read arp trailing
  rw [parseArp, if_neg (Nat.not_lt_of_le long), leading 0 (by decide), ok_bind, leading 1 (by decide), ok_bind,
    leading 2 (by decide), ok_bind, leading 3 (by decide), ok_bind, leading 4 (by decide), ok_bind,
    leading 5 (by decide), ok_bind, leading 6 (by decide), ok_bind, leading 7 (by decide), ok_bind]
  have hwType : u16FromBe (arp.front.getD 0 0) (arp.front.getD 1 0) = 1 := u16_round_trip 1
  have protoType : u16FromBe (arp.front.getD 2 0) (arp.front.getD 3 0) = 0x0800 := u16_round_trip 0x0800
  have hwAddrLen : arp.front.getD 4 0 = 6 := rfl
  have protoAddrLen : arp.front.getD 5 0 = 4 := rfl
  have opcode : u16FromBe (arp.front.getD 6 0) (arp.front.getD 7 0) = arp.opcode := u16_round_trip arp.opcode
  rw [hwType, protoType, hwAddrLen, protoAddrLen, opcode, if_pos ⟨rfl, rfl, rfl, rfl⟩, senderMac, ok_bind,
    copy_mac_val, ok_bind, senderA, ok_bind, senderB, ok_bind,
    senderC, ok_bind, senderD, ok_bind, targetMac, ok_bind, copy_mac_val, ok_bind, targetA, ok_bind, targetB, ok_bind,
    targetC, ok_bind, targetD, ok_bind]
  rfl

end Arp

def Ipv6Packet.info (packet : Ipv6Packet) : Ipv6Info where
  version := 6
  trafficClass := UInt8.ofNat packet.trafficClass.val
  flowLabel := UInt32.ofNat packet.flowLabel.val
  payloadLength := UInt16.ofNat packet.behindFixedHeader.length
  nextHeader := chainType packet.upper packet.chain
  hopLimit := packet.hopLimit
  srcIp := ⟨packet.srcIp⟩
  dstIp := ⟨packet.dstIp⟩
  extensionHeaders := chainHeaders packet.upper packet.chain
  finalNextHeader := packet.upper
  payload := packet.payload

-- The second byte of the header holds the low half of the traffic class and the top of
-- the flow label.
theorem ipv6_first_bytes (high low top : Fin 16) :
    ((UInt8.ofNat (96 + high.val) &&& 0x0F) <<< 4) ||| (UInt8.ofNat (low.val * 16 + top.val) >>> 4) =
        UInt8.ofNat (high.val * 16 + low.val) ∧
      UInt8.ofNat (low.val * 16 + top.val) &&& 0x0F = UInt8.ofNat top.val := by
  revert high low top
  decide +kernel

theorem flow_label_read (label : Fin (2 ^ 20)) :
    u32FromBe 0 (UInt8.ofNat (label.val / 2 ^ 16)) (UInt8.ofNat (label.val / 256)) (UInt8.ofNat label.val) =
      UInt32.ofNat label.val := by
  have bound := label.isLt
  apply UInt32.toNat_inj.mp
  rw [u32_from_be_nat, UInt8.toNat_ofNat', UInt8.toNat_ofNat', UInt8.toNat_ofNat', UInt32.toNat_ofNat']
  have zero : (0 : UInt8).toNat = 0 := rfl
  rw [zero]
  omega

theorem extension_loop_recovers (packet : Ipv6Packet) (zero : ∀ header ∈ packet.chain, header.ReservedZero)
    (data : Bytes) (fits : data.length ≤ isizeMax) (stop : Nat) (bounded : stop ≤ data.length) (start : 40 ≤ stop)
    (behind : (data.take stop).drop 40 = packet.behindFixedHeader) :
    ∃ off, extensionLoop data stop stop ⟨[], chainType packet.upper packet.chain, 40⟩ =
        .ok ⟨chainHeaders packet.upper packet.chain, packet.upper, off⟩ ∧
      slice data off stop = .ok packet.payload := by
  obtain ⟨walk, ran, later, headers, inside, walked⟩ := extension_loop_walks data fits stop stop
    ⟨[], chainType packet.upper packet.chain, 40⟩ bounded start (by dsimp only; omega)
  rw [behind] at walked
  have expected := chain_walked packet.upper packet.upperLayer packet.chain zero packet.payload
  obtain ⟨sameHeaders, sameFinal, sameRest⟩ := walked_unique walked expected
  refine ⟨walk.off, ?_, ?_⟩
  · rw [List.nil_append] at headers
    rw [ran, ← sameHeaders, ← headers, ← sameFinal]
  · rw [slice_ok inside bounded, sameRest]

def Ipv6Packet.front (packet : Ipv6Packet) : Bytes :=
  [UInt8.ofNat (96 + packet.trafficClass.val / 16),
    UInt8.ofNat (packet.trafficClass.val % 16 * 16 + packet.flowLabel.val / 2 ^ 16),
    UInt8.ofNat (packet.flowLabel.val / 256), UInt8.ofNat packet.flowLabel.val] ++
    u16ToBe packet.info.payloadLength ++ [chainType packet.upper packet.chain, packet.hopLimit]

section Ipv6

variable (packet : Ipv6Packet) (trailing : Bytes)

theorem ipv6_shape : packet.encode ++ trailing = packet.front ++ (packet.srcIp.val ++ (packet.dstIp.val ++
    (packet.behindFixedHeader ++ trailing))) := by
  have fixed : packet.fixedHeader = packet.front ++ packet.srcIp.val ++ packet.dstIp.val := rfl
  rw [Ipv6Packet.encode, fixed]
  simp only [List.append_assoc]

theorem ipv6_length :
    (packet.encode ++ trailing).length = 40 + (packet.behindFixedHeader.length + trailing.length) := by
  rw [Ipv6Packet.encode, List.append_assoc, List.length_append, List.length_append, fixed_header_length]

theorem ipv6_leading (i : Nat) (inside : i < 8) :
    index (packet.encode ++ trailing) i = .ok (packet.front.getD i 0) := by
  rw [ipv6_shape]
  exact index_leading packet.front _ inside

theorem ipv6_addresses_read : slice (packet.encode ++ trailing) 8 24 = .ok packet.srcIp.val ∧
    slice (packet.encode ++ trailing) 24 40 = .ok packet.dstIp.val := by
  have srcLength := packet.srcIp.property
  have dstLength := packet.dstIp.property
  rw [ipv6_shape]
  constructor
  · exact slice_middle packet.front packet.srcIp.val _ rfl (by rw [srcLength]; rfl)
  · rw [← List.append_assoc]
    exact slice_middle (packet.front ++ packet.srcIp.val) packet.dstIp.val _
      (by rw [List.length_append, srcLength]; rfl) (by rw [List.length_append, srcLength, dstLength]; rfl)

theorem ipv6_behind : ((packet.encode ++ trailing).take (40 + packet.behindFixedHeader.length)).drop 40 =
    packet.behindFixedHeader := by
  have whole : packet.encode.length = 40 + packet.behindFixedHeader.length := by
    rw [Ipv6Packet.encode, List.length_append, fixed_header_length]
  rw [← whole, List.take_left, Ipv6Packet.encode, List.drop_left' (fixed_header_length packet)]

theorem ipv6_class_read : ((packet.front.getD 0 0 &&& 0x0F) <<< 4) ||| (packet.front.getD 1 0 >>> 4) =
    packet.info.trafficClass ∧ packet.front.getD 1 0 &&& 0x0F = UInt8.ofNat (packet.flowLabel.val / 2 ^ 16) := by
  obtain ⟨trafficClass, flowLabel⟩ := ipv6_first_bytes ⟨packet.trafficClass.val / 16, by omega⟩
    ⟨packet.trafficClass.val % 16, by omega⟩ ⟨packet.flowLabel.val / 2 ^ 16, by omega⟩
  have whole : packet.trafficClass.val / 16 * 16 + packet.trafficClass.val % 16 = packet.trafficClass.val := by omega
  dsimp only at trafficClass
  rw [whole] at trafficClass
  exact ⟨trafficClass, flowLabel⟩

theorem ipv6_decodes (zero : ∀ header ∈ packet.chain, header.ReservedZero) (pkt : ParsedPacket)
    (fits : (packet.encode ++ trailing).length ≤ isizeMax) :
    parseIpv6 (packet.encode ++ trailing) pkt =
      parseTransport packet.upper packet.payload { pkt with network := .ipv6 packet.info } := by
  have long := ipv6_length packet trailing
  have leading := ipv6_leading packet trailing
  obtain ⟨srcIp, dstIp⟩ := ipv6_addresses_read packet trailing
  have sized : packet.behindFixedHeader.length ≤ 65535 := packet.sized
  have announced : packet.info.payloadLength.toNat = packet.behindFixedHeader.length :=
    UInt16.toNat_ofNat_of_lt (Nat.lt_succ_of_le sized)
  have stop : min (packet.encode ++ trailing).length (40 + packet.behindFixedHeader.length) =
      40 + packet.behindFixedHeader.length := by
    rw [long]
    omega
  obtain ⟨off, walked, payload⟩ := extension_loop_recovers packet zero _ fits
    (40 + packet.behindFixedHeader.length) (by omega) (Nat.le_add_right _ _) (ipv6_behind packet trailing)
  have version : packet.front.getD 0 0 >>> 4 = 6 := packet_version packet.trafficClass
  have payloadLength : u16FromBe (packet.front.getD 4 0) (packet.front.getD 5 0) = packet.info.payloadLength :=
    u16_round_trip packet.info.payloadLength
  have room : 40 + packet.behindFixedHeader.length ≤ usizeMax := usize_small (by omega)
  rw [parseIpv6, if_neg (by omega), leading 0 (by decide), ok_bind, if_neg (fun other => other version), ok_bind,
    leading 1 (by decide), ok_bind, ok_bind, leading 2 (by decide), ok_bind, leading 3 (by decide), ok_bind,
    leading 4 (by decide), ok_bind, leading 5 (by decide), ok_bind, leading 6 (by decide), ok_bind,
    leading 7 (by decide), ok_bind, srcIp, ok_bind, Octets.copy_ok packet.srcIp.property, ok_bind, dstIp, ok_bind,
    Octets.copy_ok packet.dstIp.property, ok_bind, payloadLength, announced, add_ok room, ok_bind, stop,
    if_neg (Nat.not_lt_of_le (Nat.le_add_right _ _))]
  have walkedFromHeader : extensionLoop (packet.encode ++ trailing) (40 + packet.behindFixedHeader.length)
      (40 + packet.behindFixedHeader.length) ⟨[], packet.front.getD 6 0, 40⟩ =
      .ok ⟨chainHeaders packet.upper packet.chain, packet.upper, off⟩ := walked
  obtain ⟨classRead, topRead⟩ := ipv6_class_read packet
  have labelRead : u32FromBe 0 (UInt8.ofNat (packet.flowLabel.val / 2 ^ 16)) (packet.front.getD 2 0)
      (packet.front.getD 3 0) = packet.info.flowLabel := flow_label_read packet.flowLabel
  rw [walkedFromHeader, ok_bind, payload, ok_bind, version, classRead, topRead, labelRead]
  rfl

end Ipv6

inductive AppDecoded (srcPort dstPort : UInt16) (payload : Bytes) : AppLayer → Prop where
  | dns (info : DnsInfo) (port : srcPort = 53 ∨ dstPort = 53) (parsed : parseDns payload = .ok (some info)) :
      AppDecoded srcPort dstPort payload (.dns info)
  | noDns (port : srcPort = 53 ∨ dstPort = 53) (parsed : parseDns payload = .ok none) :
      AppDecoded srcPort dstPort payload .none
  | dhcp (info : DhcpInfo) (noDnsPort : ¬(srcPort = 53 ∨ dstPort = 53))
      (ports : (srcPort = 67 ∧ dstPort = 68) ∨ (srcPort = 68 ∧ dstPort = 67))
      (parsed : parseDhcp payload = .ok (some info)) : AppDecoded srcPort dstPort payload (.dhcp info)
  | noDhcp (noDnsPort : ¬(srcPort = 53 ∨ dstPort = 53))
      (ports : (srcPort = 67 ∧ dstPort = 68) ∨ (srcPort = 68 ∧ dstPort = 67)) (parsed : parseDhcp payload = .ok none) :
      AppDecoded srcPort dstPort payload .none
  | otherPorts (noDnsPort : ¬(srcPort = 53 ∨ dstPort = 53))
      (noDhcpPorts : ¬((srcPort = 67 ∧ dstPort = 68) ∨ (srcPort = 68 ∧ dstPort = 67))) :
      AppDecoded srcPort dstPort payload .none

theorem app_layer_decodes (srcPort dstPort : UInt16) (payload : Bytes) (pkt : ParsedPacket)
    (fits : payload.length ≤ isizeMax) (noApp : pkt.app = .none) :
    ∃ app, AppDecoded srcPort dstPort payload app ∧
      parseAppLayer srcPort dstPort payload pkt = .ok { pkt with app := app } := by
  have unchanged : pkt = { pkt with app := .none } := by rw [← noApp]
  rw [parseAppLayer]
  by_cases dnsPort : srcPort = 53 ∨ dstPort = 53
  · obtain ⟨parsed, result⟩ := safe_terminates (dns_safe payload fits)
    rw [if_pos dnsPort, result, ok_bind]
    cases parsed with
    | none => exact ⟨.none, .noDns dnsPort result, congrArg Except.ok unchanged⟩
    | some info => exact ⟨.dns info, .dns info dnsPort result, rfl⟩
  · rw [if_neg dnsPort]
    by_cases dhcpPorts : (srcPort = 67 ∧ dstPort = 68) ∨ (srcPort = 68 ∧ dstPort = 67)
    · obtain ⟨parsed, result⟩ := safe_terminates (dhcp_safe payload fits)
      rw [if_pos dhcpPorts, result, ok_bind]
      cases parsed with
      | none => exact ⟨.none, .noDhcp dnsPort dhcpPorts result, congrArg Except.ok unchanged⟩
      | some info => exact ⟨.dhcp info, .dhcp info dnsPort dhcpPorts result, rfl⟩
    · rw [if_neg dhcpPorts]
      exact ⟨.none, .otherPorts dnsPort dhcpPorts, congrArg Except.ok unchanged⟩

def Segment.AppDecodedAs (segment : Segment) (app : AppLayer) : Prop :=
  match segment with
  | .tcp header payload => AppDecoded header.srcPort header.dstPort payload app
  | .udp header payload => AppDecoded header.srcPort header.dstPort payload app

theorem segment_app_decodes (segment : Segment) (pkt : ParsedPacket) (noApp : pkt.app = .none)
    (fits : segment.encode.length ≤ 65535) :
    ∃ transport app, segment.DecodedAs transport ∧ segment.AppDecodedAs app ∧
      parseTransport segment.protocol segment.encode pkt = .ok { pkt with transport := transport, app := app } := by
  have room : 65535 ≤ isizeMax := by decide
  cases segment with
  | tcp header payload =>
      have lengths : header.options.length ≤ 65535 ∧ payload.length ≤ 65535 := by
        simp only [Segment.encode, TcpFields.encode, List.length_append] at fits
        omega
      obtain ⟨options, parsed⟩ := safe_terminates (tcp_options_safe header.options (lengths.1.trans room))
      obtain ⟨app, decoded, result⟩ := app_layer_decodes header.srcPort header.dstPort payload
        { pkt with transport := .tcp (header.info options payload) } (lengths.2.trans room) noApp
      refine ⟨.tcp (header.info options payload), app, ⟨options, parsed, rfl⟩, decoded, ?_⟩
      rw [Segment.protocol, Segment.encode, parseTransport, tcp_decodes, parsed, ok_bind]
      exact result
  | udp header payload =>
      have payloadFits : 8 + payload.length ≤ 65535 := by
        rw [Segment.encode, UdpFields.encode, List.length_append] at fits
        exact fits
      obtain ⟨app, decoded, result⟩ := app_layer_decodes header.srcPort header.dstPort payload
        { pkt with transport := .udp (header.info payload) } (by omega) noApp
      refine ⟨.udp (header.info payload), app, rfl, decoded, ?_⟩
      rw [Segment.protocol, Segment.encode, parseTransport, udp_decodes header payload pkt payloadFits]
      exact result

inductive UpperLayer where
  | tcpUdp (segment : Segment)
  | icmp (checksum : UInt16) (message : IcmpMessage)

def UpperLayer.encode : UpperLayer → Bytes
  | .tcpUdp segment => segment.encode
  | .icmp checksum message => message.encode checksum

def UpperLayer.protocolV4 : UpperLayer → UInt8
  | .tcpUdp segment => segment.protocol
  | .icmp _ _ => 1

def UpperLayer.protocolV6 : UpperLayer → UInt8
  | .tcpUdp segment => segment.protocol
  | .icmp _ _ => 58

def UpperLayer.DecodedAs (upper : UpperLayer) (transport : TransportLayer) : Prop :=
  match upper with
  | .tcpUdp segment => segment.DecodedAs transport
  | .icmp checksum message => transport = .icmp (message.info checksum)

def UpperLayer.AppDecodedAs (upper : UpperLayer) (app : AppLayer) : Prop :=
  match upper with
  | .tcpUdp segment => segment.AppDecodedAs app
  | .icmp _ _ => app = .none

theorem upper_layer_decodes (upper : UpperLayer) (protocol : UInt8) (pkt : ParsedPacket) (noApp : pkt.app = .none)
    (numbered : protocol = upper.protocolV4 ∨ protocol = upper.protocolV6) (fits : upper.encode.length ≤ 65535) :
    ∃ transport app, upper.DecodedAs transport ∧ upper.AppDecodedAs app ∧
      parseTransport protocol upper.encode pkt = .ok { pkt with transport := transport, app := app } := by
  cases upper with
  | tcpUdp segment =>
      have own : protocol = segment.protocol := by
        rcases numbered with same | same
        · exact same
        · exact same
      rw [own]
      exact segment_app_decodes segment pkt noApp fits
  | icmp checksum message =>
      refine ⟨.icmp (message.info checksum), .none, rfl, rfl, ?_⟩
      have decoded : parseTransport protocol (message.encode checksum) pkt =
          parseIcmp (message.encode checksum) pkt := by
        rcases numbered with rfl | rfl
        · rfl
        · rfl
      rw [UpperLayer.encode, decoded, icmp_decodes, ← noApp]

-- A datagram as a host sends it: IPv4 without fragmentation, IPv6 behind extension
-- headers, or an ARP message.
inductive Datagram where
  | ipv4 (header : Ipv4Fields) (upper : UpperLayer) (fits : header.headerLen + upper.encode.length ≤ 65535)
  | ipv6 (packet : Ipv6Packet) (upper : UpperLayer) (carried : packet.payload = upper.encode)
      (numbered : packet.upper = upper.protocolV6) (zero : ∀ header ∈ packet.chain, header.ReservedZero)
  | arp (message : ArpFields)

def Datagram.etherType : Datagram → UInt16
  | .ipv4 _ _ _ => 0x0800
  | .ipv6 _ _ _ _ _ => 0x86DD
  | .arp _ => 0x0806

def Datagram.encode : Datagram → Bytes
  | .ipv4 header upper _ => header.encode upper.protocolV4 upper.encode
  | .ipv6 packet _ _ _ _ => packet.encode
  | .arp message => message.encode

def Datagram.network : Datagram → NetworkLayer
  | .ipv4 header upper _ => .ipv4 (header.info upper.protocolV4 upper.encode)
  | .ipv6 packet _ _ _ _ => .ipv6 packet.info
  | .arp message => .arp message.info

def Datagram.TransportDecoded (datagram : Datagram) (transport : TransportLayer) : Prop :=
  match datagram with
  | .ipv4 _ upper _ | .ipv6 _ upper _ _ _ => upper.DecodedAs transport
  | .arp _ => transport = .none

def Datagram.AppDecoded (datagram : Datagram) (app : AppLayer) : Prop :=
  match datagram with
  | .ipv4 _ upper _ | .ipv6 _ upper _ _ _ => upper.AppDecodedAs app
  | .arp _ => app = .none

structure Datagram.Decoded (datagram : Datagram) (pkt : ParsedPacket) : Prop where
  network : pkt.network = datagram.network
  transport : datagram.TransportDecoded pkt.transport
  app : datagram.AppDecoded pkt.app

theorem datagram_decodes (datagram : Datagram) (trailing : Bytes) (pkt : ParsedPacket) (empty : pkt.LayersEmpty)
    (fits : (datagram.encode ++ trailing).length ≤ isizeMax) :
    Safe (parseEthernetPayload datagram.etherType (datagram.encode ++ trailing) pkt) datagram.Decoded := by
  cases datagram with
  | ipv4 header upper room =>
      obtain ⟨transport, app, decoded, appDecoded, parsed⟩ := upper_layer_decodes upper upper.protocolV4
        { pkt with network := .ipv4 (header.info upper.protocolV4 upper.encode) } empty.2.2 (.inl rfl) (by omega)
      have read : parseEthernetPayload 0x0800 (header.encode upper.protocolV4 upper.encode ++ trailing) pkt = _ :=
        ipv4_decodes header upper.protocolV4 upper.encode trailing pkt room
      exact ⟨_, read.trans parsed, rfl, decoded, appDecoded⟩
  | ipv6 packet upper carried numbered zero =>
      have sized := packet.sized
      rw [List.length_append, carried] at sized
      obtain ⟨transport, app, decoded, appDecoded, parsed⟩ := upper_layer_decodes upper packet.upper
        { pkt with network := .ipv6 packet.info } empty.2.2 (.inr numbered) (by omega)
      have read : parseEthernetPayload 0x86DD (packet.encode ++ trailing) pkt = _ :=
        ipv6_decodes packet trailing zero pkt fits
      rw [carried] at read
      exact ⟨_, read.trans parsed, rfl, decoded, appDecoded⟩
  | arp message =>
      have read : parseEthernetPayload 0x0806 (message.encode ++ trailing) pkt = _ := arp_decodes message trailing pkt
      exact ⟨_, read, rfl, empty.2.1, empty.2.2⟩

inductive Carrier where
  | wire (dstMac srcMac : Mac)
  | air (tap : Option RadiotapHeader) (link : LinkType) (header : DataHeader) (wifi : WifiLink tap link)

def Carrier.link : Carrier → LinkType
  | .wire _ _ => .ethernet
  | .air _ link _ _ => link

def Carrier.encode (carrier : Carrier) (etherType : UInt16) (payload : Bytes) : Bytes :=
  match carrier with
  | .wire dstMac srcMac => ethernetII dstMac srcMac etherType payload
  | .air tap _ header _ => overTheAir tap header etherType payload

structure CarriedDatagram where
  carrier : Carrier
  datagram : Datagram
  trailing : Bytes
  fits : (carrier.encode datagram.etherType (datagram.encode ++ trailing)).length ≤ isizeMax

def CarriedDatagram.buffer (frame : CarriedDatagram) : Buffer := ⟨_, frame.fits⟩

theorem carried_payload_fits (frame : CarriedDatagram) :
    (frame.datagram.encode ++ frame.trailing).length ≤ isizeMax := by
  have fits := frame.fits
  cases carrier : frame.carrier with
  | wire dstMac srcMac =>
      rw [carrier, Carrier.encode, ethernetII, List.length_append, List.length_append, List.length_append] at fits
      omega
  | air tap link header wifi =>
      have inside : (frame.datagram.encode ++ frame.trailing).length ≤
          (header.encode frame.datagram.etherType (frame.datagram.encode ++ frame.trailing)).length := by
        simp only [DataHeader.encode, snapBody, List.length_append]
        omega
      rw [carrier, Carrier.encode] at fits
      cases tap with
      | none => exact inside.trans fits
      | some tap =>
          rw [overTheAir, List.length_append] at fits
          omega

theorem carrier_decodes (carrier : Carrier) (etherType : UInt16) (payload : Bytes) (packetMeta : Option PacketMeta)
    (untagged : ¬ IsVlanTpid etherType) (fits : (carrier.encode etherType payload).length ≤ isizeMax) :
    Related SameUpper (parsePacket (carrier.encode etherType payload) carrier.link packetMeta)
      (parseEthernetPayload etherType payload (ParsedPacket.new .ethernet packetMeta)) := by
  cases carrier with
  | wire dstMac srcMac => exact ethernet_ii_packet_decodes dstMac srcMac etherType payload packetMeta untagged
  | air tap link header wifi => exact over_the_air_decodes tap link header etherType payload packetMeta wifi fits

theorem datagram_round_trip (frame : CarriedDatagram) (packetMeta : Option PacketMeta) :
    frame.datagram.Decoded (decodePacket frame.buffer frame.carrier.link packetMeta) := by
  have untagged : ¬ IsVlanTpid frame.datagram.etherType := by
    cases frame.datagram with
    | ipv4 header upper fits =>
        show ¬((0x0800 : UInt16) = 0x8100 ∨ (0x0800 : UInt16) = 0x88A8 ∨ (0x0800 : UInt16) = 0x9100)
        decide
    | ipv6 packet upper carried numbered zero =>
        show ¬((0x86DD : UInt16) = 0x8100 ∨ (0x86DD : UInt16) = 0x88A8 ∨ (0x86DD : UInt16) = 0x9100)
        decide
    | arp message =>
        show ¬((0x0806 : UInt16) = 0x8100 ∨ (0x0806 : UInt16) = 0x88A8 ∨ (0x0806 : UInt16) = 0x9100)
        decide
  obtain ⟨result, parsed, network, transport, app⟩ := datagram_decodes frame.datagram frame.trailing
    (ParsedPacket.new .ethernet packetMeta) ⟨rfl, rfl, rfl⟩ (carried_payload_fits frame)
  have same := related_result (carrier_decodes frame.carrier _ _ packetMeta untagged frame.fits)
    (decode_packet_eq frame.buffer frame.carrier.link packetMeta) parsed
  exact ⟨same.1.trans network, by rw [same.2.1]; exact transport, by rw [same.2.2]; exact app⟩

def echoBehindHeaders : Ipv6Packet where
  trafficClass := ⟨3, by decide⟩
  flowLabel := ⟨9, by decide⟩
  hopLimit := 64
  srcIp := Octets.fill 16 1
  dstIp := Octets.fill 16 2
  chain := [.sized .hopByHop 0 (Octets.fill 6 0), .fragment 0 (Octets.fill 6 0)]
  upper := 58
  upperLayer := rfl
  payload := (IcmpMessage.echo .requestV6 0 7 1 [0xAA]).encode 0xBEEF
  sized := by decide

def echoOverMesh : CarriedDatagram where
  carrier := .air (some plainTap) .radiotapWifi meshHeader (.inl rfl)
  datagram := .ipv6 echoBehindHeaders (.icmp 0xBEEF (.echo .requestV6 0 7 1 [0xAA])) rfl rfl (by
    intro header member
    simp only [echoBehindHeaders, List.mem_cons, List.not_mem_nil, or_false] at member
    rcases member with rfl | rfl
    · exact trivial
    · exact rfl)
  trailing := [0xFF]
  fits := by decide

theorem echo_over_mesh_decoded :
    (decodePacket echoOverMesh.buffer .radiotapWifi none).network = .ipv6 echoBehindHeaders.info ∧
    (decodePacket echoOverMesh.buffer .radiotapWifi none).transport =
      .icmp ⟨128, 0, 0xBEEF, some 7, some 1, none, none, [0, 7, 0, 1, 0xAA]⟩ ∧
    (decodePacket echoOverMesh.buffer .radiotapWifi none).app = .none := by
  obtain ⟨network, transport, app⟩ := datagram_round_trip echoOverMesh none
  exact ⟨network, transport, app⟩

end NetworkIds.Parser
