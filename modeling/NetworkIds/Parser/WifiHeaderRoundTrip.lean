import NetworkIds.Parser.LinkIndependence

set_option autoImplicit false

namespace NetworkIds.Parser

open Checked Endian

-- An 802.11 MAC header of any type. The fourth address and the two control fields are
-- sent only where the frame control says so.
structure MacHeader where
  version : Fin 4
  frameType : Fin 4
  subtype : Fin 16
  toDs : Bool
  fromDs : Bool
  moreFragments : Bool
  retry : Bool
  powerManagement : Bool
  moreData : Bool
  protectedFrame : Bool
  order : Bool
  duration : UInt16
  address1 : Mac
  address2 : Mac
  address3 : Mac
  sequenceNumber : Fin 4096
  fragmentNumber : Fin 16
  address4 : Mac
  qosControl : UInt16
  htControl : UInt32

namespace MacHeader

def fourAddresses (header : MacHeader) : Bool := header.toDs && header.fromDs

def isQos (header : MacHeader) : Bool := header.frameType.val == 2 && header.subtype.val.testBit 3

def hasHtControl (header : MacHeader) : Bool := header.order && header.isQos

def control0 (header : MacHeader) : UInt8 :=
  UInt8.ofNat (header.subtype.val * 16 + header.frameType.val * 4 + header.version.val)

def control1 (header : MacHeader) : UInt8 :=
  UInt8.ofNat (header.order.toNat * 128 + header.protectedFrame.toNat * 64 + header.moreData.toNat * 32 +
    header.powerManagement.toNat * 16 + header.retry.toNat * 8 + header.moreFragments.toNat * 4 +
    header.fromDs.toNat * 2 + header.toDs.toNat)

def sequenceControl (header : MacHeader) : UInt16 :=
  UInt16.ofNat (header.sequenceNumber.val * 16 + header.fragmentNumber.val)

def start (header : MacHeader) : Bytes := header.control0 :: header.control1 :: u16ToLe header.duration

def addresses (header : MacHeader) : Bytes := header.address1.val ++ (header.address2.val ++ header.address3.val)

def fourth (header : MacHeader) : Bytes := if header.fourAddresses then header.address4.val else []

def qosField (header : MacHeader) : Bytes := if header.isQos then u16ToLe header.qosControl else []

def htField (header : MacHeader) : Bytes := if header.hasHtControl then u32ToLe header.htControl else []

def front (header : MacHeader) : Bytes := header.start ++ (header.addresses ++ u16ToLe header.sequenceControl)

def encode (header : MacHeader) (body : Bytes) : Bytes :=
  header.front ++ (header.fourth ++ (header.qosField ++ (header.htField ++ body)))

def info (header : MacHeader) : Wifi80211Header where
  protocolVersion := UInt8.ofNat header.version.val
  frameType := UInt8.ofNat header.frameType.val
  frameSubtype := UInt8.ofNat header.subtype.val
  toDs := header.toDs
  fromDs := header.fromDs
  moreFragments := header.moreFragments
  retry := header.retry
  powerManagement := header.powerManagement
  moreData := header.moreData
  protectedFrame := header.protectedFrame
  order := header.order
  duration := header.duration
  sequenceNumber := UInt16.ofNat header.sequenceNumber.val
  fragmentNumber := UInt8.ofNat header.fragmentNumber.val
  qosControl := if header.isQos then some header.qosControl else none
  htControl := if header.hasHtControl then some header.htControl else none

def endStations (header : MacHeader) : Mac × Mac × Mac :=
  match header.toDs, header.fromDs with
  | false, false => (header.address2, header.address1, header.address3)
  | true, false => (header.address2, header.address3, header.address1)
  | false, true => (header.address3, header.address1, header.address2)
  | true, true => (header.address4, header.address3, header.address1)

end MacHeader

theorem control0_fields (version frameType : Fin 4) (subtype : Fin 16) :
    let byte := UInt8.ofNat (subtype.val * 16 + frameType.val * 4 + version.val)
    byte &&& 0x03 = UInt8.ofNat version.val ∧ (byte >>> 2) &&& 0x03 = UInt8.ofNat frameType.val ∧
      (byte >>> 4) &&& 0x0F = UInt8.ofNat subtype.val := by
  revert version frameType subtype
  decide +kernel

theorem control1_fields (order protectedFrame moreData powerManagement retry moreFragments fromDs toDs : Bool) :
    let byte := UInt8.ofNat (order.toNat * 128 + protectedFrame.toNat * 64 + moreData.toNat * 32 +
      powerManagement.toNat * 16 + retry.toNat * 8 + moreFragments.toNat * 4 + fromDs.toNat * 2 + toDs.toNat)
    ((byte &&& 0x01 != 0) = toDs ∧ (byte &&& 0x02 != 0) = fromDs ∧ (byte &&& 0x04 != 0) = moreFragments ∧
      (byte &&& 0x08 != 0) = retry) ∧ (byte &&& 0x10 != 0) = powerManagement ∧ (byte &&& 0x20 != 0) = moreData ∧
      (byte &&& 0x40 != 0) = protectedFrame ∧ (byte &&& 0x80 != 0) = order := by
  revert order protectedFrame moreData powerManagement retry moreFragments fromDs toDs
  decide +kernel

theorem qos_bit (frameType : Fin 4) (subtype : Fin 16) :
    (UInt8.ofNat frameType.val = 2 ∧ UInt8.ofNat subtype.val &&& 0x08 ≠ 0) ↔
      (frameType.val == 2 && subtype.val.testBit 3) = true := by
  revert frameType subtype
  decide +kernel

theorem sequence_control_fields (sequence : Fin 4096) (fragment : Fin 16) :
    UInt16.ofNat (sequence.val * 16 + fragment.val) >>> 4 = UInt16.ofNat sequence.val ∧
      (UInt16.ofNat (sequence.val * 16 + fragment.val) &&& 0x000F).toUInt8 = UInt8.ofNat fragment.val := by
  have sequenceBound := sequence.isLt
  have fragmentBound := fragment.isLt
  have value : (UInt16.ofNat (sequence.val * 16 + fragment.val)).toNat = sequence.val * 16 + fragment.val :=
    UInt16.toNat_ofNat_of_lt' (show _ < UInt16.size by unfold UInt16.size; omega)
  constructor
  · apply UInt16.toNat_inj.mp
    rw [UInt16.toNat_shiftRight, value, Nat.shiftRight_eq_div_pow, UInt16.toNat_ofNat']
    show (sequence.val * 16 + fragment.val) / 2 ^ 4 = _
    omega
  · apply UInt8.toNat_inj.mp
    rw [UInt16.toNat_toUInt8, UInt16.toNat_and, value, UInt8.toNat_ofNat']
    show ((sequence.val * 16 + fragment.val) &&& (2 ^ 4 - 1)) % 2 ^ 8 = _
    rw [Nat.and_two_pow_sub_one_eq_mod]
    omega

section Header

variable (header : MacHeader) (body : Bytes)

theorem mac_fourth_length : header.fourth.length = if header.fourAddresses then 6 else 0 := by
  rw [MacHeader.fourth]
  by_cases four : header.fourAddresses = true
  · rw [if_pos four, if_pos four]
    exact header.address4.property
  · rw [if_neg four, if_neg four]
    rfl

theorem mac_qos_length : header.qosField.length = if header.isQos then 2 else 0 := by
  rw [MacHeader.qosField]
  by_cases qos : header.isQos = true
  · rw [if_pos qos, if_pos qos]
    rfl
  · rw [if_neg qos, if_neg qos]
    rfl

theorem mac_ht_length : header.htField.length = if header.hasHtControl then 4 else 0 := by
  rw [MacHeader.htField]
  by_cases ht : header.hasHtControl = true
  · rw [if_pos ht, if_pos ht]
    rfl
  · rw [if_neg ht, if_neg ht]
    rfl

theorem mac_front_length : header.front.length = 24 := by
  simp only [MacHeader.front, MacHeader.start, MacHeader.addresses, List.length_append, List.length_cons,
    header.address1.property, header.address2.property, header.address3.property]
  rfl

theorem mac_encode_length : (header.encode body).length =
    24 + (header.fourth.length + (header.qosField.length + (header.htField.length + body.length))) := by
  simp only [MacHeader.encode, List.length_append, mac_front_length]

theorem mac_leading (i : Nat) (inside : i < 24) : index (header.encode body) i = .ok (header.front.getD i 0) :=
  index_leading header.front _ (by rw [mac_front_length]; exact inside)

theorem mac_sequence_read :
    u16FromLe (header.front.getD 22 0) (header.front.getD 23 0) = header.sequenceControl := by
  have before : (header.start ++ header.addresses).length = 22 := by
    simp only [MacHeader.start, MacHeader.addresses, List.length_append, List.length_cons, header.address1.property,
      header.address2.property, header.address3.property]
    rfl
  have shape : header.front = (header.start ++ header.addresses) ++ (u16ToLe header.sequenceControl ++ []) := by
    simp only [MacHeader.front, List.append_assoc, List.append_nil]
  have low : index header.front 22 = .ok (UInt8.ofNat header.sequenceControl.toNat) := by
    rw [shape]
    exact index_append _ _ before 0
  have high : index header.front 23 = .ok (UInt8.ofNat (header.sequenceControl.toNat / 256)) := by
    rw [shape]
    exact index_append _ _ before 1
  rw [index_getD (by rw [mac_front_length]; omega)] at low high
  rw [Except.ok.inj low, Except.ok.inj high]
  exact u16_round_trip header.sequenceControl

theorem mac_base_end :
    (if header.toDs && header.fromDs && decide ((header.encode body).length ≥ 30) then 30 else 24) =
      24 + header.fourth.length := by
  have length := mac_encode_length header body
  have fourth := mac_fourth_length header
  by_cases four : header.fourAddresses = true
  · rw [if_pos four] at fourth
    have long : decide ((header.encode body).length ≥ 30) = true := decide_eq_true (by omega)
    rw [MacHeader.fourAddresses] at four
    rw [long, four, fourth]
    rfl
  · rw [if_neg four] at fourth
    rw [MacHeader.fourAddresses, Bool.not_eq_true] at four
    rw [four, Bool.false_and, fourth]
    rfl

theorem mac_qos_read :
    readQosControl (header.encode body) (UInt8.ofNat header.frameType.val) (UInt8.ofNat header.subtype.val)
      (24 + header.fourth.length) = .ok (if header.isQos then some header.qosControl else none) := by
  have length := mac_encode_length header body
  have early := mac_fourth_length header
  have small : header.fourth.length ≤ 6 := by
    rw [early]
    split
    · exact Nat.le_refl 6
    · exact Nat.zero_le 6
  have present := qos_bit header.frameType header.subtype
  rw [readQosControl, add_ok (usize_small (by omega)), ok_bind]
  by_cases qos : header.isQos = true
  · obtain ⟨dataFrame, bit⟩ := present.mpr qos
    have field : header.qosField = u16ToLe header.qosControl := if_pos qos
    have shape : header.encode body =
        (header.front ++ header.fourth) ++ (u16ToLe header.qosControl ++ (header.htField ++ body)) := by
      rw [MacHeader.encode, field, List.append_assoc]
    have sized := mac_qos_length header
    rw [if_pos qos] at sized
    obtain ⟨low, high, first, second, value⟩ := u16_le_read (header.front ++ header.fourth) (header.htField ++ body)
      header.qosControl (by rw [List.length_append, mac_front_length]) (usize_small (by omega))
    rw [← shape] at first second
    rw [if_pos ⟨dataFrame, bit, by omega⟩, first, ok_bind, second, ok_bind, value, if_pos qos]
    rfl
  · rw [if_neg (fun both => qos (present.mp ⟨both.1, both.2.1⟩)), if_neg qos]
    rfl

theorem mac_ht_read :
    readHtControl (header.encode body) header.order header.isQos (24 + header.fourth.length + header.qosField.length) =
      .ok (if header.hasHtControl then some header.htControl else none) := by
  have length := mac_encode_length header body
  have fourthLength := mac_fourth_length header
  have qosLength := mac_qos_length header
  have small : header.fourth.length + header.qosField.length ≤ 8 := by
    rw [fourthLength, qosLength]
    split
    all_goals
      split
      all_goals omega
  rw [readHtControl, add_ok (usize_small (by omega)), ok_bind]
  by_cases ht : header.hasHtControl = true
  · have field : header.htField = u32ToLe header.htControl := if_pos ht
    have shape : header.encode body =
        (header.front ++ (header.fourth ++ header.qosField)) ++ (u32ToLe header.htControl ++ body) := by
      rw [MacHeader.encode, field]
      simp only [List.append_assoc]
    have sized := mac_ht_length header
    rw [if_pos ht] at sized
    obtain ⟨a, b, c, d, first, second, third, fourth, value⟩ := u32_le_read
      (header.front ++ (header.fourth ++ header.qosField)) body header.htControl
      (show _ = 24 + header.fourth.length + header.qosField.length by
        rw [List.length_append, List.length_append, mac_front_length, Nat.add_assoc]) (usize_small (by omega))
    rw [← shape] at first second third fourth
    obtain ⟨order, qos⟩ := Bool.and_eq_true_iff.mp ht
    rw [if_pos ⟨order, qos, by omega⟩, first, ok_bind, second, ok_bind, third, ok_bind, fourth, ok_bind, value,
      if_pos ht]
    rfl
  · rw [if_neg (fun both => ht (Bool.and_eq_true_iff.mpr ⟨both.1, both.2.1⟩)), if_neg ht]
    rfl

theorem mac_addresses_read :
    resolveAddresses (header.encode body) header.toDs header.fromDs = .ok header.endStations := by
  have length1 := header.address1.property
  have length2 := header.address2.property
  have length3 := header.address3.property
  have length4 := header.address4.property
  let rest := u16ToLe header.sequenceControl ++ (header.fourth ++ (header.qosField ++ (header.htField ++ body)))
  have shape : header.encode body =
      header.start ++ (header.address1.val ++ (header.address2.val ++ (header.address3.val ++ rest))) := by
    simp only [MacHeader.encode, MacHeader.front, MacHeader.addresses, rest, List.append_assoc]
  have startLength : header.start.length = 4 := rfl
  have first : slice (header.encode body) 4 10 = .ok header.address1.val := by
    rw [shape]
    exact slice_middle header.start _ _ startLength (by rw [startLength, length1])
  have second : slice (header.encode body) 10 16 = .ok header.address2.val := by
    rw [shape, ← List.append_assoc]
    exact slice_middle (header.start ++ header.address1.val) _ _ (by rw [List.length_append, startLength, length1])
      (by rw [List.length_append, startLength, length1, length2])
  have third : slice (header.encode body) 16 22 = .ok header.address3.val := by
    rw [shape, ← List.append_assoc, ← List.append_assoc]
    exact slice_middle ((header.start ++ header.address1.val) ++ header.address2.val) _ _
      (by rw [List.length_append, List.length_append, startLength, length1, length2])
      (by rw [List.length_append, List.length_append, startLength, length1, length2, length3])
  have fourth (four : header.fourAddresses = true) : slice (header.encode body) 24 30 = .ok header.address4.val := by
    have field : header.fourth = header.address4.val := if_pos four
    rw [MacHeader.encode, field]
    exact slice_middle header.front _ _ (mac_front_length header) (by rw [mac_front_length, length4])
  rw [resolveAddresses, first, ok_bind, copy_mac_val, ok_bind, second, ok_bind, copy_mac_val, ok_bind, third, ok_bind,
    copy_mac_val, ok_bind, MacHeader.endStations]
  cases toDs : header.toDs with
  | false =>
      cases header.fromDs with
      | false => rfl
      | true => rfl
  | true =>
      cases fromDs : header.fromDs with
      | false => rfl
      | true =>
          have four : header.fourAddresses = true := by rw [MacHeader.fourAddresses, toDs, fromDs]; rfl
          have long := mac_encode_length header body
          rw [mac_fourth_length, if_pos four] at long
          dsimp only
          rw [if_pos (by omega), fourth four, ok_bind, copy_mac_val, ok_bind]
          rfl

theorem mac_options_small : header.fourth.length + header.qosField.length + header.htField.length ≤ 12 := by
  rw [mac_fourth_length, mac_qos_length, mac_ht_length]
  split
  all_goals
    split
    all_goals
      split
      all_goals omega

theorem mac_header_end : addIf header.isQos (24 + header.fourth.length) 2 =
      .ok (24 + header.fourth.length + header.qosField.length) ∧
    addIf header.hasHtControl (24 + header.fourth.length + header.qosField.length) 4 =
      .ok (24 + header.fourth.length + header.qosField.length + header.htField.length) := by
  have small := mac_options_small header
  constructor
  · rw [add_if_ok (usize_small (by omega)), mac_qos_length]
    cases header.isQos with
    | false => rfl
    | true => rfl
  · rw [add_if_ok (usize_small (by omega)), mac_ht_length]
    cases header.hasHtControl with
    | false => rfl
    | true => rfl

end Header

structure MacHeader.Decoded (header : MacHeader) (body : Bytes) (pkt : ParsedPacket) : Prop where
  wifiHeader : pkt.wifiHeader = some header.info
  srcMac : pkt.srcMac = header.endStations.1
  dstMac : pkt.dstMac = header.endStations.2.1
  bssid : pkt.bssid = some header.endStations.2.2
  body : header.frameType.val = 2 → pkt.rawPayload = body

theorem mac_data_body (header : MacHeader) (body : Bytes) (protectedFrame : Bool) (pkt : ParsedPacket)
    (fits : (header.encode body).length ≤ isizeMax) (empty : pkt.LayersEmpty) (noPayload : pkt.rawPayload = []) :
    Safe (parseDataBody (header.encode body)
        (24 + header.fourth.length + header.qosField.length + header.htField.length) protectedFrame
        (pkt.withWifi header.info header.endStations.1 header.endStations.2.1 header.endStations.2.2))
      (header.Decoded body) := by
  have length := mac_encode_length header body
  have behind : (header.encode body).drop
      (24 + header.fourth.length + header.qosField.length + header.htField.length) = body := by
    have shape : header.encode body =
        (header.front ++ (header.fourth ++ (header.qosField ++ header.htField))) ++ body := by
      simp only [MacHeader.encode, List.append_assoc]
    rw [shape]
    apply List.drop_left'
    simp only [List.length_append, mac_front_length]
    omega
  have stored : header.Decoded body { pkt.withWifi header.info header.endStations.1 header.endStations.2.1
      header.endStations.2.2 with rawPayload := body } := ⟨rfl, rfl, rfl, rfl, fun _ => rfl⟩
  rw [parseDataBody]
  by_cases filled : (header.encode body).length >
      24 + header.fourth.length + header.qosField.length + header.htField.length
  · rw [if_pos filled, slice_from_ok (by omega), ok_bind, behind]
    dsimp only
    split
    · exact safe_ok stored
    · split
      · simp (disch := omega) only [index_getD, slice_from_ok, ok_bind]
        split
        · refine safe_mono (ethernet_payload_safe _ _ _ (by rw [List.length_drop]; omega) empty) ?_
          rintro result ⟨malformed, network, transport, app, rfl, -⟩
          exact ⟨rfl, rfl, rfl, rfl, fun _ => rfl⟩
        · exact safe_ok stored
      · exact safe_ok stored
  · have none : body = [] := List.eq_nil_of_length_eq_zero (by omega)
    rw [if_neg filled]
    exact safe_ok ⟨rfl, rfl, rfl, rfl, fun _ => noPayload.trans none.symm⟩

theorem mac_header_decodes (header : MacHeader) (body : Bytes) (pkt : ParsedPacket)
    (fits : (header.encode body).length ≤ isizeMax) (empty : pkt.LayersEmpty) (noPayload : pkt.rawPayload = []) :
    Safe (parse80211Frame (header.encode body) pkt) (header.Decoded body) := by
  have length := mac_encode_length header body
  have small := mac_options_small header
  obtain ⟨afterQos, headerEnd⟩ := mac_header_end header
  obtain ⟨version, frameType, subtype⟩ := control0_fields header.version header.frameType header.subtype
  obtain ⟨⟨toDs, fromDs, moreFragments, retry⟩, powerManagement, moreData, protectedFrame, order⟩ :=
    control1_fields header.order header.protectedFrame header.moreData header.powerManagement header.retry
      header.moreFragments header.fromDs header.toDs
  obtain ⟨sequence, fragment⟩ := sequence_control_fields header.sequenceNumber header.fragmentNumber
  have duration : u16FromLe (header.front.getD 2 0) (header.front.getD 3 0) = header.duration :=
    u16_round_trip header.duration
  have first : header.front.getD 0 0 = header.control0 := rfl
  have second : header.front.getD 1 0 = header.control1 := rfl
  have hasQos : (if header.isQos then some header.qosControl else none).isSome = header.isQos := by
    cases header.isQos with
    | false => rfl
    | true => rfl
  have hasHt : (if header.hasHtControl then some header.htControl else none).isSome = header.hasHtControl := by
    cases header.hasHtControl with
    | false => rfl
    | true => rfl
  rw [parse80211Frame, if_neg (by omega)]
  have leading := mac_leading header body
  simp only [leading 0 (by decide), leading 1 (by decide), leading 2 (by decide), leading 3 (by decide),
    leading 22 (by decide), leading 23 (by decide), ok_bind, first, second, duration, mac_sequence_read,
    MacHeader.control0, MacHeader.control1, version, frameType, subtype, toDs, fromDs, moreFragments, retry,
    powerManagement, moreData, protectedFrame, order, mac_base_end, mac_qos_read, hasQos, afterQos, mac_ht_read,
    hasHt, mac_addresses_read, MacHeader.sequenceControl, sequence, fragment]
  split
  case h_1 management =>
    rw [if_neg (by omega), slice_from_ok (by omega), ok_bind]
    refine safe_bind (mgmt_body_safe _ _ _ _ _ (by rw [List.length_drop]; omega)) fun mgmt _ => ?_
    refine safe_ok ⟨rfl, rfl, rfl, rfl, fun dataFrame => ?_⟩
    rw [dataFrame] at management
    exact absurd management (by decide)
  case h_2 =>
    rw [headerEnd, ok_bind]
    exact mac_data_body header body header.protectedFrame pkt fits empty noPayload
  case h_3 notManagement notData =>
    refine safe_ok ⟨rfl, rfl, rfl, rfl, fun dataFrame => ?_⟩
    exact absurd (congrArg UInt8.ofNat dataFrame) notData

structure WifiFrame where
  tap : Option RadiotapHeader
  link : LinkType
  header : MacHeader
  body : Bytes
  wifi : WifiLink tap link
  fits : ((tap.elim [] RadiotapHeader.bytes) ++ header.encode body).length ≤ isizeMax

def WifiFrame.buffer (frame : WifiFrame) : Buffer := ⟨_, frame.fits⟩

theorem wifi_header_round_trip (frame : WifiFrame) (packetMeta : Option PacketMeta) :
    frame.header.Decoded frame.body (decodePacket frame.buffer frame.link packetMeta) := by
  obtain ⟨tap, link, header, body, wifi, fits⟩ := frame
  have decoded := decode_packet_eq (WifiFrame.buffer ⟨tap, link, header, body, wifi, fits⟩) link packetMeta
  refine safe_result ?_ decoded
  have frameLength := mac_encode_length header body
  cases tap with
  | none =>
      cases wifi
      show Safe (parsePacket (header.encode body) .wifi80211 packetMeta) (header.Decoded body)
      unfold parsePacket
      rw [if_neg (by rw [List.isEmpty_iff_length_eq_zero]; omega)]
      exact mac_header_decodes header body _ fits (new_layers_empty _ _) rfl
  | some tap =>
      have long := tap.long
      have total : (tap.bytes ++ header.encode body).length = tap.bytes.length + (header.encode body).length :=
        List.length_append
      have inside : (tap.bytes ++ header.encode body).length ≤ isizeMax := fits
      have framed (other : LinkType) :
          Safe (parseRadiotapPacket (tap.bytes ++ header.encode body) (ParsedPacket.new other packetMeta))
            (header.Decoded body) := by
        obtain ⟨result, parsed, info, rfl, length⟩ := radiotap_header_decodes tap (header.encode body) inside
        rw [parseRadiotapPacket, parsed, ok_bind]
        dsimp only
        rw [if_pos (by omega), length, slice_from_append _ _ rfl, ok_bind]
        exact mac_header_decodes header body _ (by omega) ⟨rfl, rfl, rfl⟩ rfl
      show Safe (parsePacket (tap.bytes ++ header.encode body) link packetMeta) (header.Decoded body)
      unfold parsePacket
      rw [if_neg (by rw [List.isEmpty_iff_length_eq_zero]; omega)]
      cases wifi with
      | inl radiotap =>
          subst radiotap
          exact framed .radiotapWifi
      | inr unknown =>
          subst unknown
          have version : index (tap.bytes ++ header.encode body) 0 = .ok 0 := by
            rw [index_getD (by omega), List.getD_append _ _ _ _ (by omega), tap.version]
          dsimp only
          rw [if_pos (by omega), version, ok_bind, if_pos rfl]
          exact framed .radiotapWifi

def protectedMesh : WifiFrame where
  tap := some plainTap
  link := .unknown
  header := {
    version := ⟨0, by decide⟩
    frameType := ⟨2, by decide⟩
    subtype := ⟨8, by decide⟩
    toDs := true
    fromDs := true
    moreFragments := false
    retry := true
    powerManagement := false
    moreData := false
    protectedFrame := true
    order := true
    duration := 44
    address1 := Octets.fill 6 1
    address2 := Octets.fill 6 2
    address3 := Octets.fill 6 3
    sequenceNumber := ⟨4095, by decide⟩
    fragmentNumber := ⟨1, by decide⟩
    address4 := Octets.fill 6 4
    qosControl := 0x0105
    htControl := 0xAABBCCDD }
  body := [0xE0, 0xE1]
  wifi := .inr rfl
  fits := by decide

theorem protected_mesh_decoded :
    (decodePacket protectedMesh.buffer .unknown none).wifiHeader =
      some ⟨0, 2, 8, true, true, false, true, false, false, true, true, 44, 4095, 1, some 0x0105, some 0xAABBCCDD⟩ ∧
    (decodePacket protectedMesh.buffer .unknown none).srcMac = Octets.fill 6 4 ∧
    (decodePacket protectedMesh.buffer .unknown none).rawPayload = [0xE0, 0xE1] := by
  obtain ⟨header, srcMac, -, -, body⟩ := wifi_header_round_trip protectedMesh none
  exact ⟨header, srcMac, body rfl⟩

end NetworkIds.Parser
