import NetworkIds.Parser.Packet
import Mathlib.Data.Nat.Bitwise

set_option autoImplicit false

namespace NetworkIds.Parser

open Checked Endian

structure VlanTag where
  pcp : Fin 8
  dei : Bool
  vid : Fin 4096

def VlanTag.tci (tag : VlanTag) : UInt16 :=
  UInt16.ofNat (tag.pcp.val * 8192 + tag.dei.toNat * 4096 + tag.vid.val)

structure OuterTag extends VlanTag where
  proprietary : Bool

def OuterTag.tpid (tag : OuterTag) : UInt16 := if tag.proprietary then 0x9100 else 0x88A8

-- An IPv4 header with its options in 32-bit words, so that IHL is 5 to 15. The
-- fragment offset is zero and the total length is not a free field.
structure Ipv4Fields where
  dscp : Fin 64
  ecn : Fin 4
  identification : UInt16
  flags : Fin 8
  ttl : UInt8
  headerChecksum : UInt16
  srcIp : Ipv4Addr
  dstIp : Ipv4Addr
  optionWords : Fin 11
  options : Bytes
  sized : options.length = 4 * optionWords.val

structure TcpFields where
  srcPort : UInt16
  dstPort : UInt16
  seq : UInt32
  ack : UInt32
  reserved : Fin 8
  flags : Fin 512
  windowSize : UInt16
  checksum : UInt16
  urgentPointer : UInt16
  optionWords : Fin 11
  options : Bytes
  sized : options.length = 4 * optionWords.val

structure UdpFields where
  srcPort : UInt16
  dstPort : UInt16
  checksum : UInt16

inductive Segment where
  | tcp (header : TcpFields) (payload : Bytes)
  | udp (header : UdpFields) (payload : Bytes)

def TcpFields.fixedPart (header : TcpFields) : Bytes :=
  u16ToBe header.srcPort ++ u16ToBe header.dstPort ++ u32ToBe header.seq ++ u32ToBe header.ack ++
    [UInt8.ofNat ((5 + header.optionWords.val) * 16 + header.reserved.val * 2 + header.flags.val / 256),
      UInt8.ofNat header.flags.val] ++
    u16ToBe header.windowSize ++ u16ToBe header.checksum ++ u16ToBe header.urgentPointer

def TcpFields.encode (header : TcpFields) (payload : Bytes) : Bytes :=
  header.fixedPart ++ (header.options ++ payload)

def UdpFields.encode (header : UdpFields) (payload : Bytes) : Bytes :=
  u16ToBe header.srcPort ++ u16ToBe header.dstPort ++ u16ToBe (UInt16.ofNat (8 + payload.length)) ++
    u16ToBe header.checksum ++ payload

def Segment.encode : Segment → Bytes
  | .tcp header payload => header.encode payload
  | .udp header payload => header.encode payload

def Segment.protocol : Segment → UInt8
  | .tcp _ _ => 6
  | .udp _ _ => 17

def Ipv4Fields.headerLen (header : Ipv4Fields) : Nat := 4 * (5 + header.optionWords.val)

def Ipv4Fields.totalLength (header : Ipv4Fields) (segment : Bytes) : UInt16 :=
  UInt16.ofNat (header.headerLen + segment.length)

def Ipv4Fields.fixedPart (header : Ipv4Fields) (protocol : UInt8) (segment : Bytes) : Bytes :=
  [UInt8.ofNat (64 + (5 + header.optionWords.val)), UInt8.ofNat (header.dscp.val * 4 + header.ecn.val)] ++
    u16ToBe (header.totalLength segment) ++ u16ToBe header.identification ++
    [UInt8.ofNat (header.flags.val * 32), 0, header.ttl, protocol] ++ u16ToBe header.headerChecksum ++
    header.srcIp.encode ++ header.dstIp.encode

def Ipv4Fields.encode (header : Ipv4Fields) (protocol : UInt8) (segment : Bytes) : Bytes :=
  header.fixedPart protocol segment ++ (header.options ++ segment)

structure FrameFields where
  dstMac : Mac
  srcMac : Mac
  outer : Option OuterTag
  inner : Option VlanTag
  ip : Ipv4Fields
  segment : Segment
  padding : Bytes

def encodeOuter (tag : Option OuterTag) : Bytes :=
  match tag with
  | none => []
  | some tag => u16ToBe tag.tpid ++ u16ToBe tag.tci

def encodeInner (tag : Option VlanTag) : Bytes :=
  match tag with
  | none => []
  | some tag => u16ToBe 0x8100 ++ u16ToBe tag.tci

def FrameFields.packet (frame : FrameFields) : Bytes :=
  frame.ip.encode frame.segment.protocol frame.segment.encode ++ frame.padding

def FrameFields.encode (frame : FrameFields) : Bytes :=
  frame.dstMac.val ++ frame.srcMac.val ++ encodeOuter frame.outer ++ encodeInner frame.inner ++
    u16ToBe 0x0800 ++ frame.packet

-- A frame that can be put on the wire and captured: the IPv4 total length is a
-- 16-bit field and the captured bytes are a slice.
structure Frame extends FrameFields where
  ipFits : ip.headerLen + segment.encode.length ≤ 65535
  sliceFits : toFrameFields.encode.length ≤ isizeMax

def Frame.buffer (frame : Frame) : Buffer := ⟨frame.encode, frame.sliceFits⟩

theorem tcp_data_offset (words : Fin 11) (reserved : Fin 8) (high : Fin 2) :
    let byte := UInt8.ofNat ((5 + words.val) * 16 + reserved.val * 2 + high.val)
    (byte >>> 4).toNat = 5 + words.val ∧ (byte &&& 0x0E) >>> 1 = UInt8.ofNat reserved.val ∧
      byte &&& 0x01 = UInt8.ofNat high.val := by
  revert words reserved high
  decide +kernel

theorem tcp_flags (flags : Fin 512) :
    u16FromBe (UInt8.ofNat (flags.val / 256)) (UInt8.ofNat flags.val) = UInt16.ofNat flags.val := by
  have bound := flags.isLt
  apply UInt16.toNat_inj.mp
  rw [u16_from_be_nat, UInt8.toNat_ofNat', UInt8.toNat_ofNat', UInt16.toNat_ofNat']
  omega

theorem tcp_decodes (header : TcpFields) (payload : Bytes) (pkt : ParsedPacket) :
    parseTcp (header.encode payload) pkt = (do
      let options ← parseTcpOptions header.options
      parseAppLayer header.srcPort header.dstPort payload { pkt with transport := .tcp {
        srcPort := header.srcPort
        dstPort := header.dstPort
        seq := header.seq
        ack := header.ack
        dataOffset := UInt8.ofNat (5 + header.optionWords.val)
        reserved := UInt8.ofNat header.reserved.val
        flags := UInt16.ofNat header.flags.val
        windowSize := header.windowSize
        checksum := header.checksum
        urgentPointer := header.urgentPointer
        options := options
        payload := payload } }) := by
  have high : header.flags.val / 256 < 2 := by omega
  obtain ⟨offset, reserved, ns⟩ := tcp_data_offset header.optionWords header.reserved ⟨_, high⟩
  have sized := header.sized
  have bound := header.optionWords.isLt
  have headerEnd : mul (5 + header.optionWords.val) 4 = .ok (20 + header.options.length) := by
    rw [mul_ok (usize_small (by omega)), sized]
    congr 1
    omega
  have options : slice (header.encode payload) 20 (20 + header.options.length) = .ok header.options :=
    slice_middle header.fixedPart header.options payload rfl rfl
  have rest : sliceFrom (header.encode payload) (20 + header.options.length) = .ok payload := by
    rw [TcpFields.encode, ← List.append_assoc]
    exact slice_from_append (header.fixedPart ++ header.options) payload List.length_append
  have long : (header.encode payload).length = 20 + (header.options.length + payload.length) := by
    rw [TcpFields.encode, List.length_append, List.length_append]
    rfl
  rw [parseTcp, if_neg (by omega), long]
  simp only [TcpFields.encode, TcpFields.fixedPart, u16ToBe, u32ToBe, List.cons_append,
    List.nil_append] at options rest ⊢
  simp only [index_zero, index_succ, ok_bind, u16_round_trip, u32_round_trip, offset, reserved, ns,
    tcp_flags, headerEnd]
  rw [if_neg (by omega), options, ok_bind, rest]
  rfl

theorem udp_decodes (header : UdpFields) (payload : Bytes) (pkt : ParsedPacket)
    (fits : 8 + payload.length ≤ 65535) :
    parseUdp (header.encode payload) pkt = parseAppLayer header.srcPort header.dstPort payload
      { pkt with transport := .udp {
        srcPort := header.srcPort
        dstPort := header.dstPort
        length := UInt16.ofNat (8 + payload.length)
        checksum := header.checksum
        payload := payload } } := by
  have lengthNat : (UInt16.ofNat (8 + payload.length)).toNat = 8 + payload.length := by
    rw [UInt16.toNat_ofNat']
    omega
  rw [UdpFields.encode]
  generalize UInt16.ofNat (8 + payload.length) = length at lengthNat
  rw [parseUdp]
  simp only [u16ToBe, List.cons_append, List.nil_append, index_zero, index_succ, ok_bind,
    u16_round_trip, List.length_cons]
  rw [if_neg (by omega), if_neg (by omega)]
  have sliced : slice _ 8 length.toNat = .ok payload := slice_last (u16ToBe header.srcPort ++
    u16ToBe header.dstPort ++ u16ToBe length ++ u16ToBe header.checksum) payload rfl lengthNat.symm
  simp only [u16ToBe, List.cons_append, List.nil_append] at sliced
  rw [sliced, ok_bind]

theorem ipv4_version (words : Fin 11) :
    let byte := UInt8.ofNat (64 + (5 + words.val))
    byte >>> 4 = 4 ∧ (byte &&& 0x0F).toNat = 5 + words.val := by
  revert words
  decide +kernel

theorem ipv4_tos (dscp : Fin 64) (ecn : Fin 4) :
    let byte := UInt8.ofNat (dscp.val * 4 + ecn.val)
    byte >>> 2 = UInt8.ofNat dscp.val ∧ byte &&& 0x03 = UInt8.ofNat ecn.val := by
  revert dscp ecn
  decide +kernel

theorem ipv4_flags (flags : Fin 8) :
    let field := u16FromBe (UInt8.ofNat (flags.val * 32)) 0
    (field >>> 13).toUInt8 = UInt8.ofNat flags.val ∧ field &&& 0x1FFF = 0 := by
  revert flags
  decide +kernel

def Ipv4Fields.info (header : Ipv4Fields) (protocol : UInt8) (segment : Bytes) : Ipv4Info where
  version := 4
  ihl := UInt8.ofNat (5 + header.optionWords.val)
  dscp := UInt8.ofNat header.dscp.val
  ecn := UInt8.ofNat header.ecn.val
  totalLength := header.totalLength segment
  identification := header.identification
  flags := UInt8.ofNat header.flags.val
  fragmentOffset := 0
  ttl := header.ttl
  protocol := protocol
  headerChecksum := header.headerChecksum
  srcIp := header.srcIp
  dstIp := header.dstIp
  options := header.options
  payload := segment

theorem ipv4_decodes (header : Ipv4Fields) (protocol : UInt8) (segment padding : Bytes) (pkt : ParsedPacket)
    (fits : header.headerLen + segment.length ≤ 65535) :
    parseIpv4 (header.encode protocol segment ++ padding) pkt =
      parseTransport protocol segment { pkt with network := .ipv4 (header.info protocol segment) } := by
  obtain ⟨version, ihl⟩ := ipv4_version header.optionWords
  obtain ⟨dscp, ecn⟩ := ipv4_tos header.dscp header.ecn
  obtain ⟨flags, fragment⟩ := ipv4_flags header.flags
  have sized := header.sized
  have bound := header.optionWords.isLt
  have headerLen : header.headerLen = 20 + header.options.length := by
    rw [Ipv4Fields.headerLen, sized]
    omega
  have headerEnd : mul (5 + header.optionWords.val) 4 = .ok (20 + header.options.length) := by
    rw [mul_ok (usize_small (by omega)), ← headerLen, Ipv4Fields.headerLen, Nat.mul_comm]
  have lengthNat : (header.totalLength segment).toNat = 20 + header.options.length + segment.length := by
    rw [Ipv4Fields.totalLength, UInt16.toNat_ofNat', headerLen]
    omega
  have shape : header.encode protocol segment ++ padding =
      header.fixedPart protocol segment ++ (header.options ++ (segment ++ padding)) := by
    simp only [Ipv4Fields.encode, List.append_assoc]
  have long : (header.encode protocol segment ++ padding).length =
      20 + (header.options.length + (segment.length + padding.length)) := by
    simp only [shape, List.length_append]
    rfl
  have options : ipv4Options (header.encode protocol segment ++ padding) (20 + header.options.length) =
      .ok header.options := by
    unfold ipv4Options
    split
    · rw [shape]
      exact slice_middle (header.fixedPart protocol segment) header.options (segment ++ padding) rfl rfl
    · have none : header.options = [] := List.eq_nil_of_length_eq_zero (by omega)
      rw [none]
      rfl
  have payload : slice (header.encode protocol segment ++ padding) (20 + header.options.length)
      (header.totalLength segment).toNat = .ok segment := by
    rw [lengthNat, shape, ← List.append_assoc]
    exact slice_middle (header.fixedPart protocol segment ++ header.options) segment padding
      List.length_append (by rw [List.length_append]; rfl)
  have cut : min (20 + (header.options.length + (segment.length + padding.length)))
      (header.totalLength segment).toNat = (header.totalLength segment).toNat := by omega
  rw [parseIpv4, if_neg (by omega), long]
  rw [shape] at options payload ⊢
  simp only [Ipv4Fields.fixedPart, u16ToBe, Ipv4Addr.encode, List.cons_append, List.nil_append]
    at options payload ⊢
  simp only [index_zero, index_succ, ok_bind, u16_round_trip, version, ihl, headerEnd, dscp, ecn, flags,
    fragment, cut, ne_eq, not_true_eq_false, false_or]
  rw [if_neg (by omega), options, ok_bind, if_neg (by omega), payload, ok_bind]
  rfl

theorem tci_nat (tag : VlanTag) :
    tag.tci.toNat = tag.pcp.val * 8192 + tag.dei.toNat * 4096 + tag.vid.val := by
  have pcp := tag.pcp.isLt
  have vid := tag.vid.isLt
  have dei := Bool.toNat_le tag.dei
  rw [VlanTag.tci, UInt16.toNat_ofNat']
  omega

theorem tci_fields (tag : VlanTag) :
    (tag.tci >>> 13).toUInt8 = UInt8.ofNat tag.pcp.val ∧
      ((tag.tci >>> 12) &&& 0x01 != 0) = tag.dei ∧ tag.tci &&& 0x0FFF = UInt16.ofNat tag.vid.val := by
  have nat := tci_nat tag
  have pcp := tag.pcp.isLt
  have vid := tag.vid.isLt
  have dei := Bool.toNat_le tag.dei
  refine ⟨UInt8.toNat_inj.mp ?_, ?_, UInt16.toNat_inj.mp ?_⟩
  · rw [UInt16.toNat_toUInt8, UInt16.toNat_shiftRight, UInt8.toNat_ofNat', Nat.shiftRight_eq_div_pow, nat]
    simp only [UInt16.reduceToNat, Nat.reduceMod, Nat.reducePow]
    omega
  · have bit : ((tag.tci >>> 12) &&& 0x01).toNat = tag.dei.toNat := by
      rw [UInt16.toNat_and, UInt16.toNat_shiftRight, Nat.shiftRight_eq_div_pow, nat]
      simp only [UInt16.reduceToNat, Nat.and_one_is_mod, Nat.reduceMod, Nat.reducePow]
      omega
    cases flag : tag.dei
    · rw [flag] at bit
      simpa [← UInt16.toNat_inj] using bit
    · rw [flag] at bit
      simpa [← UInt16.toNat_inj] using bit
  · rw [UInt16.toNat_and, UInt16.toNat_ofNat', nat, show (0x0FFF : UInt16).toNat = 2 ^ 12 - 1 from rfl,
      Nat.and_two_pow_sub_one_eq_mod]
    omega

def innerType (tag : Option VlanTag) : UInt16 := if tag.isSome then 0x8100 else 0x0800

def outerType (tag : Option OuterTag) (next : UInt16) : UInt16 :=
  match tag with
  | none => next
  | some tag => tag.tpid

theorem inner_tag_decodes (before packet : Bytes) (tag : Option VlanTag) (state : VlanState) {start : Nat}
    (startEq : before.length = start) (early : start ≤ 16) (offset : state.offset = start + 2)
    (type : state.ethType = innerType tag) (noVlan : state.vlanId = none) (noPcp : state.pcp = none)
    (noDei : state.dei = none) :
    stripInnerTag (before ++ (encodeInner tag ++ (u16ToBe 0x0800 ++ packet))) state = .ok { state with
      ethType := 0x0800
      offset := start + 2 + (encodeInner tag).length
      vlanId := tag.map fun tag => UInt16.ofNat tag.vid.val
      pcp := tag.map fun tag => UInt8.ofNat tag.pcp.val
      dei := tag.map fun tag => tag.dei } := by
  have room : start + 2 + 4 ≤ usizeMax := usize_small (by omega)
  obtain ⟨ethType, stateOffset, outerVlanId, outerPcp, vlanId, pcp, dei⟩ := state
  dsimp only at offset type noVlan noPcp noDei
  subst offset type noVlan noPcp noDei
  rw [stripInnerTag]
  dsimp only
  rw [add_ok room, ok_bind]
  cases tag with
  | none => rfl
  | some tag =>
      obtain ⟨pcp, dei, vid⟩ := tci_fields tag
      rw [if_pos ⟨rfl, by simp [encodeInner, u16ToBe]; omega⟩]
      simp only [encodeInner, u16ToBe, List.cons_append, List.nil_append, ok_bind,
        index_append before _ startEq, index_add_append before _ startEq 2 1 (by omega),
        index_add_append before _ startEq 2 2 (by omega), index_add_append before _ startEq 2 3 (by omega),
        index_succ, index_zero, u16_round_trip, pcp, dei, vid, Nat.reduceAdd]
      rfl

theorem outer_tag_decodes (before rest : Bytes) (tag : Option OuterTag) (next : UInt16) {start : Nat}
    (startEq : before.length = start) (early : start ≤ 16) (plain : next ≠ 0x88A8 ∧ next ≠ 0x9100) :
    stripOuterTag (before ++ (encodeOuter tag ++ (u16ToBe next ++ rest)))
      ⟨outerType tag next, start + 2, none, none, none, none, none⟩ = .ok {
        ethType := next
        offset := start + 2 + (encodeOuter tag).length
        outerVlanId := tag.map fun tag => UInt16.ofNat tag.vid.val
        outerPcp := tag.map fun tag => UInt8.ofNat tag.pcp.val
        vlanId := none
        pcp := none
        dei := none } := by
  have room : start + 2 + 4 ≤ usizeMax := usize_small (by omega)
  rw [stripOuterTag]
  dsimp only
  rw [add_ok room, ok_bind]
  cases tag with
  | none =>
      rw [if_neg (by simp only [outerType, plain, false_or, false_and, not_false_eq_true])]
      rfl
  | some tag =>
      obtain ⟨pcp, dei, vid⟩ := tci_fields tag.toVlanTag
      have tpid : tag.tpid = 0x88A8 ∨ tag.tpid = 0x9100 := by
        unfold OuterTag.tpid
        split
        · exact .inr rfl
        · exact .inl rfl
      rw [if_pos ⟨tpid, by simp [encodeOuter, u16ToBe]; omega⟩]
      simp only [encodeOuter, u16ToBe, List.cons_append, List.nil_append, ok_bind,
        index_append before _ startEq, index_add_append before _ startEq 2 1 (by omega),
        index_add_append before _ startEq 2 2 (by omega), index_add_append before _ startEq 2 3 (by omega),
        index_succ, index_zero, u16_round_trip, pcp, vid, Nat.reduceAdd]
      rfl

def FrameFields.ethernetInfo (frame : FrameFields) : EthernetInfo where
  etherType := 0x0800
  vlanId := frame.inner.map fun tag => UInt16.ofNat tag.vid.val
  pcp := frame.inner.map fun tag => UInt8.ofNat tag.pcp.val
  dei := frame.inner.map fun tag => tag.dei
  outerVlanId := frame.outer.map fun tag => UInt16.ofNat tag.vid.val
  outerPcp := frame.outer.map fun tag => UInt8.ofNat tag.pcp.val
  frameLength := frame.encode.length
  fcs := none

theorem encode_inner_type (tag : Option VlanTag) (packet : Bytes) :
    ∃ rest, encodeInner tag ++ (u16ToBe 0x0800 ++ packet) = u16ToBe (innerType tag) ++ rest := by
  cases tag with
  | none => exact ⟨packet, rfl⟩
  | some tag => exact ⟨u16ToBe tag.tci ++ (u16ToBe 0x0800 ++ packet), rfl⟩

theorem encode_outer_type (tag : Option OuterTag) (next : UInt16) (packet : Bytes) :
    ∃ rest, encodeOuter tag ++ (u16ToBe next ++ packet) = u16ToBe (outerType tag next) ++ rest := by
  cases tag with
  | none => exact ⟨packet, rfl⟩
  | some tag => exact ⟨u16ToBe tag.tci ++ (u16ToBe next ++ packet), rfl⟩

theorem encode_outer_length (tag : Option OuterTag) : (encodeOuter tag).length ≤ 4 := by
  cases tag with
  | none => exact Nat.zero_le 4
  | some tag => exact Nat.le_refl 4

theorem inner_type_plain (tag : Option VlanTag) : innerType tag ≠ 0x88A8 ∧ innerType tag ≠ 0x9100 := by
  unfold innerType
  split <;> decide

theorem ethernet_decodes (frame : FrameFields) (pkt : ParsedPacket) :
    parseEthernetFrame frame.encode pkt = parseIpv4 frame.packet { pkt with
      dstMac := frame.dstMac
      srcMac := frame.srcMac
      ethernet := some frame.ethernetInfo
      rawPayload := frame.packet } := by
  let before := frame.dstMac.val ++ frame.srcMac.val
  have start : before.length = 12 := by rw [List.length_append, frame.dstMac.property, frame.srcMac.property]
  obtain ⟨innerRest, innerShape⟩ := encode_inner_type frame.inner frame.packet
  obtain ⟨outerRest, outerShape⟩ := encode_outer_type frame.outer (innerType frame.inner) innerRest
  have shape : frame.encode = before ++ (encodeOuter frame.outer ++
      (encodeInner frame.inner ++ (u16ToBe 0x0800 ++ frame.packet))) := by
    simp only [FrameFields.encode, List.append_assoc, before]
  have written : frame.encode = frame.dstMac.val ++ (frame.srcMac.val ++
      (u16ToBe (outerType frame.outer (innerType frame.inner)) ++ outerRest)) := by
    rw [shape, innerShape, outerShape, List.append_assoc]
  have outerLength := encode_outer_length frame.outer
  have outer := outer_tag_decodes before innerRest frame.outer (innerType frame.inner) start (by omega)
    (inner_type_plain frame.inner)
  rw [← innerShape, ← shape] at outer
  have inner := inner_tag_decodes (before ++ encodeOuter frame.outer) frame.packet frame.inner
    ⟨innerType frame.inner, 12 + 2 + (encodeOuter frame.outer).length,
      frame.outer.map fun tag => UInt16.ofNat tag.vid.val, frame.outer.map fun tag => UInt8.ofNat tag.pcp.val,
      none, none, none⟩ (List.length_append) (by omega) (by dsimp only; omega) rfl rfl rfl rfl
  rw [List.append_assoc, ← shape] at inner
  have tags : (before ++ encodeOuter frame.outer ++ encodeInner frame.inner ++ u16ToBe 0x0800).length =
      before.length + (encodeOuter frame.outer).length + 2 + (encodeInner frame.inner).length := by
    simp only [List.length_append, show (u16ToBe 0x0800).length = 2 from rfl]
    omega
  have split : frame.encode = (before ++ encodeOuter frame.outer ++ encodeInner frame.inner ++ u16ToBe 0x0800) ++
      frame.packet := by
    simp only [shape, List.append_assoc]
  have payload : frame.encode.drop (before.length + (encodeOuter frame.outer).length + 2 +
      (encodeInner frame.inner).length) = frame.packet := by
    rw [split]
    exact List.drop_left' tags
  have filled : 0 < frame.packet.length := by
    simp only [FrameFields.packet, Ipv4Fields.encode, List.length_append]
    have fixed : (frame.ip.fixedPart frame.segment.protocol frame.segment.encode).length = 20 := rfl
    omega
  have total := congrArg List.length split
  rw [List.length_append, tags] at total
  rw [written_frame_eq pkt _ _ written outer inner]
  dsimp only
  rw [if_pos (by omega), payload]
  rfl

def TcpFields.info (header : TcpFields) (options : TcpOptions) (payload : Bytes) : TcpInfo where
  srcPort := header.srcPort
  dstPort := header.dstPort
  seq := header.seq
  ack := header.ack
  dataOffset := UInt8.ofNat (5 + header.optionWords.val)
  reserved := UInt8.ofNat header.reserved.val
  flags := UInt16.ofNat header.flags.val
  windowSize := header.windowSize
  checksum := header.checksum
  urgentPointer := header.urgentPointer
  options := options
  payload := payload

def UdpFields.info (header : UdpFields) (payload : Bytes) : UdpInfo where
  srcPort := header.srcPort
  dstPort := header.dstPort
  length := UInt16.ofNat (8 + payload.length)
  checksum := header.checksum
  payload := payload

-- The transport layer a segment is decoded to. TCP option bytes are not kept as
-- such but as their parsed form.
def Segment.DecodedAs (segment : Segment) (transport : TransportLayer) : Prop :=
  match segment with
  | .tcp header payload =>
      ∃ options, parseTcpOptions header.options = .ok options ∧ transport = .tcp (header.info options payload)
  | .udp header payload => transport = .udp (header.info payload)

theorem segment_decodes (segment : Segment) (pkt : ParsedPacket) (noApp : pkt.app = .none)
    (fits : segment.encode.length ≤ 65535) :
    ∃ transport app, segment.DecodedAs transport ∧
      parseTransport segment.protocol segment.encode pkt = .ok { pkt with transport := transport, app := app } := by
  have room : 65535 ≤ isizeMax := by decide
  cases segment with
  | tcp header payload =>
      have bound := header.optionWords.isLt
      have sized := header.sized
      have payloadFits : payload.length ≤ isizeMax := by
        simp only [Segment.encode, TcpFields.encode, List.length_append] at fits
        omega
      obtain ⟨options, parsed⟩ := safe_terminates (tcp_options_safe header.options (by omega))
      obtain ⟨result, decoded, app, rfl, -⟩ := app_layer_safe header.srcPort header.dstPort payload
        { pkt with transport := .tcp (header.info options payload) } payloadFits noApp
      refine ⟨.tcp (header.info options payload), app, ⟨options, parsed, rfl⟩, ?_⟩
      rw [Segment.protocol, Segment.encode, parseTransport, tcp_decodes, parsed, ok_bind]
      exact decoded
  | udp header payload =>
      have payloadFits : 8 + payload.length ≤ 65535 := by
        rw [Segment.encode, UdpFields.encode, List.length_append] at fits
        exact fits
      obtain ⟨result, decoded, app, rfl, -⟩ := app_layer_safe header.srcPort header.dstPort payload
        { pkt with transport := .udp (header.info payload) } (by omega) noApp
      refine ⟨.udp (header.info payload), app, rfl, ?_⟩
      rw [Segment.protocol, Segment.encode, parseTransport, udp_decodes header payload pkt payloadFits]
      exact decoded

structure Frame.Decoded (frame : Frame) (pkt : ParsedPacket) : Prop where
  wellFormed : pkt.malformed = false
  dstMac : pkt.dstMac = frame.dstMac
  srcMac : pkt.srcMac = frame.srcMac
  ethernet : pkt.ethernet = some frame.ethernetInfo
  network : pkt.network = .ipv4 (frame.ip.info frame.segment.protocol frame.segment.encode)
  transport : frame.segment.DecodedAs pkt.transport

theorem decoding_undoes_encoding (frame : Frame) :
    frame.Decoded (decodePacket frame.buffer .ethernet none) := by
  have ipFits := frame.ipFits
  obtain ⟨transport, app, decoded, parsed⟩ := segment_decodes frame.segment
    { ParsedPacket.new .ethernet none with
      dstMac := frame.dstMac
      srcMac := frame.srcMac
      ethernet := some frame.ethernetInfo
      rawPayload := frame.packet
      network := .ipv4 (frame.ip.info frame.segment.protocol frame.segment.encode) } rfl (by omega)
  have nonempty : frame.encode.isEmpty = false := by
    rw [List.isEmpty_eq_false_iff, ← List.length_pos_iff]
    simp only [FrameFields.encode, List.length_append, frame.dstMac.property]
    omega
  have result := decode_packet_eq frame.buffer .ethernet none
  unfold parsePacket at result
  simp only [Frame.buffer, nonempty, Bool.false_eq_true, if_false] at result
  rw [ethernet_decodes, FrameFields.packet, ipv4_decodes _ _ _ _ _ ipFits] at result
  have same := Except.ok.inj (result.symm.trans parsed)
  simp only [Frame.buffer, same]
  exact ⟨rfl, rfl, rfl, rfl, rfl, decoded⟩

def taggedSyn : Frame where
  dstMac := Octets.fill 6 2
  srcMac := Octets.fill 6 1
  outer := some ⟨⟨⟨1, by decide⟩, false, ⟨100, by decide⟩⟩, false⟩
  inner := some ⟨⟨3, by decide⟩, true, ⟨200, by decide⟩⟩
  ip := ⟨⟨46, by decide⟩, ⟨1, by decide⟩, 7, ⟨2, by decide⟩, 64, 0, ⟨10, 0, 0, 1⟩, ⟨10, 0, 0, 2⟩, ⟨1, by decide⟩,
    [1, 1, 1, 0], rfl⟩
  segment := .tcp ⟨12345, 80, 5, 0, ⟨4, by decide⟩, ⟨2, by decide⟩, 1024, 0, 0, ⟨1, by decide⟩, [2, 4, 5, 180], rfl⟩
    [0x47, 0x45]
  padding := [0, 0, 0]
  ipFits := by decide
  sliceFits := by decide

theorem tagged_syn_decoded :
    (decodePacket taggedSyn.buffer .ethernet none).malformed = false ∧
    (decodePacket taggedSyn.buffer .ethernet none).ethernet =
      some ⟨0x0800, some 200, some 3, some true, some 100, some 1, 75, none⟩ ∧
    ∃ options, (decodePacket taggedSyn.buffer .ethernet none).transport =
      .tcp ⟨12345, 80, 5, 0, 6, 4, 2, 1024, 0, 0, options, [0x47, 0x45]⟩ := by
  obtain ⟨wellFormed, -, -, ethernet, -, options, -, transport⟩ := decoding_undoes_encoding taggedSyn
  exact ⟨wellFormed, ethernet, options, transport⟩

end NetworkIds.Parser
