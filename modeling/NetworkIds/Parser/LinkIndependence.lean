import NetworkIds.Parser.Packet
import Mathlib.Data.List.GetD

set_option autoImplicit false

namespace NetworkIds.Parser

open Checked Endian

def SameUpper (left right : ParsedPacket) : Prop :=
  left.network = right.network ∧ left.transport = right.transport ∧ left.app = right.app

theorem same_upper_trans (first second third : ParsedPacket) (left : SameUpper first second)
    (right : SameUpper second third) : SameUpper first third :=
  ⟨left.1.trans right.1, left.2.1.trans right.2.1, left.2.2.trans right.2.2⟩

theorem same_upper_symm (first second : ParsedPacket) (same : SameUpper first second) : SameUpper second first :=
  ⟨same.1.symm, same.2.1.symm, same.2.2.symm⟩

-- A relation between packets that parsers above the link layer keep, since they
-- write only these four fields.
structure KeptAbove (R : ParsedPacket → ParsedPacket → Prop) : Prop where
  malformed : ∀ left right, R left right → R left.markMalformed right.markMalformed
  network : ∀ left right network, R left right → R { left with network := network } { right with network := network }
  transport : ∀ left right transport, R left right →
    R { left with transport := transport } { right with transport := transport }
  app : ∀ left right app, R left right → R { left with app := app } { right with app := app }

theorem same_upper_kept : KeptAbove SameUpper where
  malformed _ _ same := same
  network _ _ _ same := ⟨rfl, same.2⟩
  transport _ _ _ same := ⟨same.1, rfl, same.2.2⟩
  app _ _ _ same := ⟨same.1, same.2.1, rfl⟩

section Kept

variable {R : ParsedPacket → ParsedPacket → Prop} (kept : KeptAbove R) (data : Bytes) (left right : ParsedPacket)
  (same : R left right)

include kept same

theorem app_layer_kept (srcPort dstPort : UInt16) :
    Related R (parseAppLayer srcPort dstPort data left) (parseAppLayer srcPort dstPort data right) := by
  rw [parseAppLayer, parseAppLayer]
  apply related_ite
  · apply related_bind
    intro dns
    cases dns with
    | none => exact .ok same
    | some info => exact .ok (kept.app _ _ _ same)
  · apply related_ite
    · apply related_bind
      intro dhcp
      cases dhcp with
      | none => exact .ok same
      | some info => exact .ok (kept.app _ _ _ same)
    · exact .ok same

theorem tcp_kept : Related R (parseTcp data left) (parseTcp data right) := by
  rw [parseTcp, parseTcp]
  apply related_ite
  · exact .ok (kept.malformed _ _ same)
  · repeat
      apply related_bind
      intro
    apply related_ite
    · exact .ok (kept.malformed _ _ same)
    · repeat
        apply related_bind
        intro
      exact app_layer_kept kept _ _ _ (kept.transport _ _ _ same) _ _

theorem udp_kept : Related R (parseUdp data left) (parseUdp data right) := by
  rw [parseUdp, parseUdp]
  apply related_ite
  · exact .ok (kept.malformed _ _ same)
  · repeat
      apply related_bind
      intro
    apply related_ite
    · exact .ok (kept.malformed _ _ same)
    · apply related_bind
      intro payload
      exact app_layer_kept kept _ _ _ (kept.transport _ _ _ same) _ _

theorem icmp_kept : Related R (parseIcmp data left) (parseIcmp data right) := by
  rw [parseIcmp, parseIcmp]
  apply related_ite
  · exact .ok (kept.malformed _ _ same)
  · repeat
      apply related_bind
      intro
    exact .ok (kept.transport _ _ _ same)

theorem transport_kept (proto : UInt8) : Related R (parseTransport proto data left) (parseTransport proto data right) := by
  unfold parseTransport
  split
  · exact tcp_kept kept data left right same
  · exact udp_kept kept data left right same
  · exact icmp_kept kept data left right same
  · exact icmp_kept kept data left right same
  · exact .ok same

theorem ipv4_kept : Related R (parseIpv4 data left) (parseIpv4 data right) := by
  rw [parseIpv4, parseIpv4]
  apply related_ite
  · exact .ok (kept.malformed _ _ same)
  · repeat
      apply related_bind
      intro
    apply related_ite
    · exact .ok (kept.malformed _ _ same)
    · repeat
        apply related_bind
        intro
      apply related_ite
      · exact .ok (kept.malformed _ _ same)
      · apply related_bind
        intro payload
        exact transport_kept kept _ _ _ (kept.network _ _ _ same) _

theorem ipv6_kept : Related R (parseIpv6 data left) (parseIpv6 data right) := by
  rw [parseIpv6, parseIpv6]
  apply related_ite
  · exact .ok (kept.malformed _ _ same)
  · apply related_bind
    intro versionByte
    apply related_ite
    · exact .ok (kept.malformed _ _ same)
    · repeat
        apply related_bind
        intro
      apply related_ite
      · exact .ok (kept.malformed _ _ same)
      · repeat
          apply related_bind
          intro
        exact transport_kept kept _ _ _ (kept.network _ _ _ same) _

theorem arp_kept : Related R (parseArp data left) (parseArp data right) := by
  rw [parseArp, parseArp]
  apply related_ite
  · exact .ok (kept.malformed _ _ same)
  · repeat
      apply related_bind
      intro
    apply related_ite
    · repeat
        apply related_bind
        intro
      exact .ok (kept.network _ _ _ same)
    · exact .ok same

theorem eapol_kept : Related R (parseEapol data left) (parseEapol data right) := by
  rw [parseEapol, parseEapol]
  apply related_ite
  · exact .ok (kept.malformed _ _ same)
  · repeat
      apply related_bind
      intro
    apply related_ite
    · exact .ok (kept.malformed _ _ same)
    · repeat
        apply related_bind
        intro
      apply related_ite
      · repeat
          apply related_bind
          intro
        exact .ok (kept.app _ _ _ same)
      · exact .ok same

theorem ethernet_payload_kept (ethType : UInt16) :
    Related R (parseEthernetPayload ethType data left) (parseEthernetPayload ethType data right) := by
  unfold parseEthernetPayload
  split
  · exact ipv4_kept kept data left right same
  · exact ipv6_kept kept data left right same
  · exact arp_kept kept data left right same
  · exact eapol_kept kept data left right same
  · exact .ok same

end Kept

-- What the payload of a link-layer frame decodes to does not depend on what
-- the link layer left in the packet.
theorem ethernet_payload_related (ethType : UInt16) (payload : Bytes) (left right : ParsedPacket)
    (same : SameUpper left right) :
    Related SameUpper (parseEthernetPayload ethType payload left) (parseEthernetPayload ethType payload right) :=
  ethernet_payload_kept same_upper_kept payload left right same ethType

theorem empty_payload_decodes (ethType : UInt16) (pkt : ParsedPacket) :
    Safe (parseEthernetPayload ethType [] pkt) (SameUpper pkt) := by
  unfold parseEthernetPayload
  split
  · exact ⟨pkt.markMalformed, rfl, rfl, rfl, rfl⟩
  · exact ⟨pkt.markMalformed, rfl, rfl, rfl, rfl⟩
  · exact ⟨pkt.markMalformed, rfl, rfl, rfl, rfl⟩
  · exact ⟨pkt.markMalformed, rfl, rfl, rfl, rfl⟩
  · exact ⟨pkt, rfl, rfl, rfl, rfl⟩

def IsVlanTpid (etherType : UInt16) : Prop := etherType = 0x8100 ∨ etherType = 0x88A8 ∨ etherType = 0x9100

theorem no_outer_tag (data : Bytes) (state : VlanState) (room : state.offset + 4 ≤ usizeMax)
    (untagged : ¬ IsVlanTpid state.ethType) : stripOuterTag data state = .ok state := by
  rw [stripOuterTag, add_ok room, ok_bind, if_neg (fun tagged => untagged (.inr tagged.1))]
  rfl

theorem no_inner_tag (data : Bytes) (state : VlanState) (room : state.offset + 4 ≤ usizeMax)
    (untagged : ¬ IsVlanTpid state.ethType) : stripInnerTag data state = .ok state := by
  rw [stripInnerTag, add_ok room, ok_bind, if_neg (fun tagged => untagged (.inl tagged.1))]
  rfl

def ethernetII (dstMac srcMac : Mac) (etherType : UInt16) (payload : Bytes) : Bytes :=
  dstMac.val ++ (srcMac.val ++ (u16ToBe etherType ++ payload))

theorem ethernet_ii_decodes (dstMac srcMac : Mac) (etherType : UInt16) (payload : Bytes) (pkt : ParsedPacket)
    (untagged : ¬ IsVlanTpid etherType) :
    Related SameUpper (parseEthernetFrame (ethernetII dstMac srcMac etherType payload) pkt)
      (parseEthernetPayload etherType payload pkt) := by
  have dstLength := dstMac.property
  have srcLength := srcMac.property
  have length : (ethernetII dstMac srcMac etherType payload).length = 14 + payload.length := by
    simp only [ethernetII, List.length_append, dstLength, srcLength, u16ToBe, List.length_cons, List.length_nil]
    omega
  have room : 14 + 4 ≤ usizeMax := by decide
  have shape : ethernetII dstMac srcMac etherType payload = dstMac.val ++ (srcMac.val ++ (u16ToBe etherType ++ payload)) := rfl
  have rest : (ethernetII dstMac srcMac etherType payload).drop 14 = payload := by
    have further : (ethernetII dstMac srcMac etherType payload).drop 14 =
        ((ethernetII dstMac srcMac etherType payload).drop 12).drop 2 := by rw [List.drop_drop]
    rw [further, behind_macs shape]
    rfl
  rw [written_frame_eq pkt _ _ shape (no_outer_tag _ _ room untagged) (no_inner_tag _ _ room untagged), rest, length]
  dsimp only
  by_cases empty : payload = []
  · obtain ⟨result, parsed, same⟩ := empty_payload_decodes etherType pkt
    rw [if_neg (by simp [empty]), empty, parsed]
    exact .ok (same_upper_trans _ pkt _ ⟨rfl, rfl, rfl⟩ same)
  · have filled : 0 < payload.length := List.length_pos_iff.mpr empty
    rw [if_pos (by omega)]
    exact ethernet_payload_related _ _ _ _ ⟨rfl, rfl, rfl⟩

-- The frame control, the fixed fields and the optional fields of an 802.11
-- data frame that is not protected. The frame type is data (2).
structure DataHeader where
  version : Fin 4
  subtype : Fin 16
  toDs : Bool
  fromDs : Bool
  moreFragments : Bool
  retry : Bool
  powerManagement : Bool
  moreData : Bool
  order : Bool
  duration : Octets 2
  address1 : Mac
  address2 : Mac
  address3 : Mac
  sequenceControl : Octets 2
  address4 : Mac
  qosControl : Octets 2
  htControl : Octets 4

def DataHeader.isQos (header : DataHeader) : Bool := header.subtype.val.testBit 3

def DataHeader.frameControl (header : DataHeader) : Bytes :=
  [UInt8.ofNat (header.subtype.val * 16 + 2 * 4 + header.version.val),
    UInt8.ofNat (header.order.toNat * 128 + header.moreData.toNat * 32 + header.powerManagement.toNat * 16 +
      header.retry.toNat * 8 + header.moreFragments.toNat * 4 + header.fromDs.toNat * 2 + header.toDs.toNat)]

def DataHeader.fixedPart (header : DataHeader) : Bytes :=
  header.frameControl ++ header.duration.val ++ header.address1.val ++ header.address2.val ++ header.address3.val ++
    header.sequenceControl.val

def DataHeader.variablePart (header : DataHeader) : Bytes :=
  (if header.toDs && header.fromDs then header.address4.val else []) ++
    (if header.isQos then header.qosControl.val else []) ++
    (if header.order && header.isQos then header.htControl.val else [])

-- LLC/SNAP with the zero OUI: the EtherType and its payload follow.
def snapBody (etherType : UInt16) (payload : Bytes) : Bytes :=
  [0xAA, 0xAA, 0x03, 0, 0, 0] ++ u16ToBe etherType ++ payload

def DataHeader.encode (header : DataHeader) (etherType : UInt16) (payload : Bytes) : Bytes :=
  header.fixedPart ++ header.variablePart ++ snapBody etherType payload

theorem data_frame_type (version : Fin 4) (subtype : Fin 16) :
    let byte := UInt8.ofNat (subtype.val * 16 + 2 * 4 + version.val)
    (byte >>> 2) &&& 0x03 = 2 ∧ (((byte >>> 4) &&& 0x0F) &&& 0x08 ≠ 0 ↔ subtype.val.testBit 3 = true) := by
  revert version subtype
  decide +kernel

theorem data_frame_flags (order moreData powerManagement retry moreFragments fromDs toDs : Bool) :
    let byte := UInt8.ofNat (order.toNat * 128 + moreData.toNat * 32 + powerManagement.toNat * 16 +
      retry.toNat * 8 + moreFragments.toNat * 4 + fromDs.toNat * 2 + toDs.toNat)
    (byte &&& 0x01 != 0) = toDs ∧ (byte &&& 0x02 != 0) = fromDs ∧ (byte &&& 0x40 != 0) = false ∧
      (byte &&& 0x80 != 0) = order := by
  revert order moreData powerManagement retry moreFragments fromDs toDs
  decide +kernel

theorem qos_control_present (data : Bytes) (frameSubtype : UInt8) (baseEnd : Nat) (fits : data.length ≤ isizeMax)
    (early : baseEnd ≤ 30) (long : baseEnd + 2 ≤ data.length) :
    Safe (readQosControl data 2 frameSubtype baseEnd) (fun qosControl =>
      qosControl.isSome = decide (frameSubtype &&& 0x08 ≠ 0)) := by
  have room : baseEnd + 2 ≤ usizeMax := usize_small (by omega)
  rw [readQosControl]
  simp (disch := omega) only [add_ok, ok_bind]
  by_cases qos : frameSubtype &&& 0x08 ≠ 0
  · rw [if_pos ⟨trivial, qos, long⟩]
    simp (disch := omega) only [index_getD, index_add_getD, ok_bind]
    exact safe_ok (by simp [qos])
  · rw [if_neg (fun present => qos present.2.1)]
    exact safe_ok (by simp [qos])

theorem ht_control_present (data : Bytes) (order hasQos : Bool) (afterQos : Nat) (fits : data.length ≤ isizeMax)
    (early : afterQos ≤ 32) (long : afterQos + 4 ≤ data.length) :
    Safe (readHtControl data order hasQos afterQos) (fun htControl => htControl.isSome = (order && hasQos)) := by
  have room : afterQos + 4 ≤ usizeMax := usize_small (by omega)
  rw [readHtControl]
  simp (disch := omega) only [add_ok, ok_bind]
  by_cases present : order = true ∧ hasQos = true
  · rw [if_pos ⟨present.1, present.2, long⟩]
    simp (disch := omega) only [index_getD, index_add_getD, ok_bind]
    exact safe_ok (by simp [present.1, present.2])
  · rw [if_neg (fun all => present ⟨all.1, all.2.1⟩)]
    refine safe_ok ?_
    cases order <;> cases hasQos <;> simp_all

def DataHeader.baseEnd (header : DataHeader) : Nat := if header.toDs && header.fromDs then 30 else 24

def DataHeader.afterQos (header : DataHeader) : Nat :=
  if header.isQos then header.baseEnd + 2 else header.baseEnd

def DataHeader.headerLen (header : DataHeader) : Nat :=
  if header.order && header.isQos then header.afterQos + 4 else header.afterQos

theorem fixed_part_length (header : DataHeader) : header.fixedPart.length = 24 := by
  simp only [DataHeader.fixedPart, DataHeader.frameControl, List.length_append, header.duration.property,
    header.address1.property, header.address2.property, header.address3.property,
    header.sequenceControl.property, List.length_cons, List.length_nil]

theorem data_header_length (header : DataHeader) :
    (header.fixedPart ++ header.variablePart).length = header.headerLen := by
  rw [List.length_append, fixed_part_length, DataHeader.variablePart, List.length_append, List.length_append,
    DataHeader.headerLen, DataHeader.afterQos, DataHeader.baseEnd]
  have address4 := header.address4.property
  have qosControl := header.qosControl.property
  have htControl := header.htControl.property
  generalize header.isQos = qos
  cases qos <;> cases header.order <;> cases header.toDs <;> cases header.fromDs <;> simp [address4, qosControl, htControl]

theorem data_header_early (header : DataHeader) :
    24 ≤ header.baseEnd ∧ header.baseEnd ≤ 30 ∧ header.afterQos ≤ header.baseEnd + 2 ∧
      header.baseEnd ≤ header.afterQos ∧ header.afterQos ≤ header.headerLen := by
  unfold DataHeader.headerLen DataHeader.afterQos DataHeader.baseEnd
  refine ⟨?_, ?_, ?_, ?_, ?_⟩ <;> repeat' split
  all_goals omega

theorem snap_body_decodes (data : Bytes) (headerLen : Nat) (etherType : UInt16) (payload : Bytes)
    (left right : ParsedPacket) (same : SameUpper left right)
    (body : sliceFrom data headerLen = .ok (snapBody etherType payload)) (long : headerLen + 8 ≤ data.length) :
    Related SameUpper (parseDataBody data headerLen false left) (parseEthernetPayload etherType payload right) := by
  have type : u16FromBe (UInt8.ofNat (etherType.toNat / 256)) (UInt8.ofNat etherType.toNat) = etherType :=
    u16_round_trip etherType
  rw [parseDataBody, if_pos (by omega), body, ok_bind, if_neg (by decide)]
  have size : (snapBody etherType payload).length ≥ 8 := by
    simp [snapBody, u16ToBe]
  rw [if_pos size]
  simp only [snapBody, u16ToBe, List.cons_append, List.nil_append, index_zero, index_succ, ok_bind, type]
  rw [if_pos ⟨trivial, trivial⟩, slice_from_ok (by simp), ok_bind]
  exact ethernet_payload_related _ _ _ _ same

theorem data_frame_decodes (header : DataHeader) (etherType : UInt16) (payload : Bytes) (pkt : ParsedPacket)
    (fits : (header.encode etherType payload).length ≤ isizeMax) :
    Related SameUpper (parse80211Frame (header.encode etherType payload) pkt)
      (parseEthernetPayload etherType payload pkt) := by
  obtain ⟨frameType, qosBit⟩ := data_frame_type header.version header.subtype
  obtain ⟨toDs, fromDs, protectedFrame, order⟩ := data_frame_flags header.order header.moreData
    header.powerManagement header.retry header.moreFragments header.fromDs header.toDs
  obtain ⟨early, late, qosLate, qosEarly, htEarly⟩ := data_header_early header
  have headerLength := data_header_length header
  have control : header.frameControl.length = 2 := rfl
  have first : index (header.encode etherType payload) 0 =
      .ok (UInt8.ofNat (header.subtype.val * 16 + 2 * 4 + header.version.val)) := rfl
  have second : index (header.encode etherType payload) 1 = .ok (UInt8.ofNat (header.order.toNat * 128 +
      header.moreData.toNat * 32 + header.powerManagement.toNat * 16 + header.retry.toNat * 8 +
      header.moreFragments.toNat * 4 + header.fromDs.toNat * 2 + header.toDs.toNat)) := rfl
  have body : sliceFrom (header.encode etherType payload) header.headerLen = .ok (snapBody etherType payload) :=
    slice_from_append (header.fixedPart ++ header.variablePart) _ headerLength
  have long : header.headerLen + 8 ≤ (header.encode etherType payload).length := by
    rw [DataHeader.encode, List.length_append, headerLength]
    simp [snapBody, u16ToBe]
  generalize header.encode etherType payload = data at fits first second body long
  have base : (if header.toDs && header.fromDs && decide (data.length ≥ 30) then 30 else 24) = header.baseEnd := by
    unfold DataHeader.baseEnd
    by_cases four : (header.toDs && header.fromDs) = true
    · have enough : data.length ≥ 30 := by
        have thirty : header.baseEnd = 30 := if_pos four
        omega
      rw [four, if_pos rfl, if_pos (by simp [enough])]
    · rw [if_neg four, if_neg (by simp [four])]
  have room : header.baseEnd + 2 + 4 ≤ usizeMax := usize_small (by omega)
  rw [parse80211Frame, if_neg (by omega)]
  simp (disch := omega) only [first, second, ok_bind, frameType, toDs, fromDs, protectedFrame, order, index_getD, base]
  obtain ⟨qosControl, readQos, qosPresent⟩ := qos_control_present data
    ((UInt8.ofNat (header.subtype.val * 16 + 2 * 4 + header.version.val) >>> 4) &&& 0x0F) header.baseEnd fits late
    (by omega)
  have isQos : qosControl.isSome = header.isQos := by
    rw [qosPresent, DataHeader.isQos, Bool.eq_iff_iff, decide_eq_true_iff]
    exact qosBit
  rw [readQos, ok_bind, isQos, add_if_ok (by omega), ok_bind]
  have afterQos : (if header.isQos then header.baseEnd + 2 else header.baseEnd) = header.afterQos := rfl
  rw [afterQos]
  obtain ⟨htControl, readHt, htPresent⟩ := ht_control_present data header.order header.isQos header.afterQos fits
    (by omega) (by omega)
  obtain ⟨⟨src, dst, bssid⟩, resolved, -⟩ := resolve_addresses_safe data header.toDs header.fromDs (by omega)
  rw [readHt, ok_bind, resolved, ok_bind]
  dsimp only
  rw [ok_bind, htPresent, add_if_ok (by omega), ok_bind]
  exact snap_body_decodes data header.headerLen etherType payload _ _ ⟨rfl, rfl, rfl⟩ body long

-- A radiotap header: version 0, and it_len is its own length.
structure RadiotapHeader where
  bytes : Bytes
  long : 8 ≤ bytes.length
  version : bytes.getD 0 0 = 0
  itLen : (u16FromLe (bytes.getD 2 0) (bytes.getD 3 0)).toNat = bytes.length

def RadiotapField.KeepsLength (field : RadiotapField) : Prop :=
  ∀ data off info stored, field.store data off info = .ok stored → stored.headerLen = info.headerLen

theorem radiotap_fields_keep_length : ∀ field ∈ radiotapFields, field.KeepsLength := by
  intro field member data off info stored returned
  simp only [radiotapFields, List.mem_cons, List.not_mem_nil, or_false] at member
  rcases member with rfl | rfl | rfl | rfl | rfl | rfl | rfl | rfl | rfl | rfl | rfl | rfl | rfl | rfl |
    rfl | rfl | rfl | rfl | rfl | rfl | rfl | rfl | rfl
  all_goals
    dsimp only at returned
    repeat
      obtain ⟨value, -, next⟩ := bind_eq_ok returned
      clear returned
      rename' next => returned
    cases returned
    rfl

theorem walk_field_keeps_length (data : Bytes) (headerLen : Nat) (presence : UInt32) (field : RadiotapField)
    (walk result : RadiotapInfo × Nat) (keeps : field.KeepsLength)
    (walked : walkField data headerLen presence field walk = .ok result) :
    result.1.headerLen = walk.1.headerLen := by
  rw [walkField] at walked
  by_cases present : presence &&& ((1 : UInt32) <<< field.bit) ≠ 0
  · rw [if_pos present] at walked
    obtain ⟨off, -, aligned⟩ := bind_eq_ok walked
    obtain ⟨stop, -, bounded⟩ := bind_eq_ok aligned
    by_cases inside : stop ≤ headerLen
    · rw [if_pos inside] at bounded
      obtain ⟨info, stored, rest⟩ := bind_eq_ok bounded
      obtain ⟨next, -, last⟩ := bind_eq_ok rest
      cases last
      exact keeps data off walk.1 info stored
    · rw [if_neg inside] at bounded
      obtain ⟨next, -, last⟩ := bind_eq_ok bounded
      cases last
      rfl
  · rw [if_neg present] at walked
    cases walked
    rfl

theorem walk_fields_keep_length (data : Bytes) (headerLen : Nat) (presence : UInt32) (fields : List RadiotapField)
    (walk result : RadiotapInfo × Nat) (keep : ∀ field ∈ fields, field.KeepsLength)
    (walked : walkFields data headerLen presence fields walk = .ok result) :
    result.1.headerLen = walk.1.headerLen := by
  induction fields generalizing walk with
  | nil =>
      cases walked
      rfl
  | cons field rest ih =>
      obtain ⟨next, first, later⟩ := bind_eq_ok walked
      rw [ih next (fun other member => keep other (by simp [member])) later]
      exact walk_field_keeps_length data headerLen presence field walk next (keep field (by simp)) first

theorem radiotap_header_decodes (tap : RadiotapHeader) (frame : Bytes)
    (fits : (tap.bytes ++ frame).length ≤ isizeMax) :
    Safe (parseRadiotap (tap.bytes ++ frame)) (fun result =>
      ∃ info, result = some info ∧ info.headerLen = tap.bytes.length) := by
  have long := tap.long
  have total : (tap.bytes ++ frame).length = tap.bytes.length + frame.length := List.length_append
  have inHeader : ∀ i, i < 8 → (tap.bytes ++ frame).getD i 0 = tap.bytes.getD i 0 :=
    fun i inside => List.getD_append _ _ _ _ (by omega)
  rw [parseRadiotap, if_neg (by omega)]
  simp (disch := omega) only [index_getD, ok_bind, inHeader, tap.version, tap.itLen]
  rw [if_neg (by simp), if_neg (by omega)]
  obtain ⟨⟨presence, fpOff⟩, looped, inside⟩ :=
    presence_loop_safe (tap.bytes ++ frame) tap.bytes.length tap.bytes.length 0 4 fits (by omega) (by omega) (by omega)
  obtain ⟨⟨info, off⟩, walked, -⟩ := walk_fields_safe (tap.bytes ++ frame) tap.bytes.length presence radiotapFields
    (RadiotapInfo.new tap.bytes.length, fpOff) fits (by omega) radiotap_fields_valid inside
  have kept := walk_fields_keep_length _ _ _ _ _ _ radiotap_fields_keep_length walked
  rw [looped, ok_bind]
  dsimp only
  rw [walked, ok_bind]
  exact safe_ok ⟨info, rfl, kept⟩

theorem radiotap_frame_decodes (tap : RadiotapHeader) (header : DataHeader) (etherType : UInt16) (payload : Bytes)
    (pkt : ParsedPacket) (fits : (tap.bytes ++ header.encode etherType payload).length ≤ isizeMax) :
    Related SameUpper (parseRadiotapPacket (tap.bytes ++ header.encode etherType payload) pkt)
      (parseEthernetPayload etherType payload pkt) := by
  have total : (tap.bytes ++ header.encode etherType payload).length =
      tap.bytes.length + (header.encode etherType payload).length := List.length_append
  have filled : 0 < (header.encode etherType payload).length := by
    rw [DataHeader.encode, List.length_append, data_header_length]
    have early := data_header_early header
    omega
  obtain ⟨result, parsed, info, rfl, length⟩ := radiotap_header_decodes tap _ fits
  rw [parseRadiotapPacket, parsed, ok_bind]
  dsimp only
  rw [if_pos (by omega), length, slice_from_append _ _ rfl, ok_bind]
  have frame := data_frame_decodes header etherType payload
    { pkt with signalDbm := info.dbmAntsignal, channel := info.channel } (by omega)
  have lower := ethernet_payload_related etherType payload
    { pkt with signalDbm := info.dbmAntsignal, channel := info.channel } pkt ⟨rfl, rfl, rfl⟩
  exact related_trans same_upper_trans frame lower

-- What a Wi-Fi interface hands over, with and without radiotap headers.
def overTheAir (tap : Option RadiotapHeader) (header : DataHeader) (etherType : UInt16) (payload : Bytes) : Bytes :=
  match tap with
  | none => header.encode etherType payload
  | some tap => tap.bytes ++ header.encode etherType payload

-- The link types under which parse_packet looks for such a frame.
def WifiLink (tap : Option RadiotapHeader) (link : LinkType) : Prop :=
  match tap with
  | none => link = .wifi80211
  | some _ => link = .radiotapWifi ∨ link = .unknown

theorem over_the_air_decodes (tap : Option RadiotapHeader) (link : LinkType) (header : DataHeader) (etherType : UInt16)
    (payload : Bytes) (packetMeta : Option PacketMeta) (wifi : WifiLink tap link)
    (fits : (overTheAir tap header etherType payload).length ≤ isizeMax) :
    Related SameUpper (parsePacket (overTheAir tap header etherType payload) link packetMeta)
      (parseEthernetPayload etherType payload (ParsedPacket.new .ethernet packetMeta)) := by
  have lower : ∀ other, Related SameUpper
      (parseEthernetPayload etherType payload (ParsedPacket.new other packetMeta))
      (parseEthernetPayload etherType payload (ParsedPacket.new .ethernet packetMeta)) := fun other =>
    ethernet_payload_related _ _ _ _ ⟨rfl, rfl, rfl⟩
  have frameLength : 24 ≤ (header.encode etherType payload).length := by
    rw [DataHeader.encode, List.length_append, data_header_length]
    have early := data_header_early header
    omega
  cases tap with
  | none =>
      cases wifi
      rw [overTheAir] at fits ⊢
      unfold parsePacket
      rw [if_neg (by rw [List.isEmpty_iff_length_eq_zero]; omega)]
      exact related_trans same_upper_trans (data_frame_decodes header etherType payload _ fits) (lower _)
  | some tap =>
      have long := tap.long
      rw [overTheAir] at fits ⊢
      unfold parsePacket
      have total : (tap.bytes ++ header.encode etherType payload).length =
          tap.bytes.length + (header.encode etherType payload).length := List.length_append
      rw [if_neg (by rw [List.isEmpty_iff_length_eq_zero]; omega)]
      cases wifi with
      | inl radiotap =>
          subst radiotap
          exact related_trans same_upper_trans (radiotap_frame_decodes tap header etherType payload _ fits) (lower _)
      | inr unknown =>
          subst unknown
          have version : index (tap.bytes ++ header.encode etherType payload) 0 = .ok 0 := by
            rw [index_getD (by omega), List.getD_append _ _ _ _ (by omega), tap.version]
          dsimp only
          rw [if_pos (by omega), version, ok_bind, if_pos rfl]
          exact related_trans same_upper_trans (radiotap_frame_decodes tap header etherType payload _ fits)
            (lower .radiotapWifi)

theorem ethernet_ii_packet_decodes (dstMac srcMac : Mac) (etherType : UInt16) (payload : Bytes)
    (packetMeta : Option PacketMeta) (untagged : ¬ IsVlanTpid etherType) :
    Related SameUpper (parsePacket (ethernetII dstMac srcMac etherType payload) .ethernet packetMeta)
      (parseEthernetPayload etherType payload (ParsedPacket.new .ethernet packetMeta)) := by
  have filled : ¬ (ethernetII dstMac srcMac etherType payload).isEmpty = true := by
    rw [List.isEmpty_iff_length_eq_zero, ethernetII, List.length_append, dstMac.property]
    omega
  rw [parsePacket, if_neg filled]
  exact ethernet_ii_decodes dstMac srcMac etherType payload _ untagged

theorem upper_layers_link_independent (etherType : UInt16) (payload : Bytes) (dstMac srcMac : Mac)
    (tap : Option RadiotapHeader) (link : LinkType) (header : DataHeader) (wifiMeta wireMeta : Option PacketMeta)
    (untagged : ¬ IsVlanTpid etherType) (wifi : WifiLink tap link)
    (wifiFits : (overTheAir tap header etherType payload).length ≤ isizeMax)
    (wireFits : (ethernetII dstMac srcMac etherType payload).length ≤ isizeMax) :
    let air := decodePacket ⟨overTheAir tap header etherType payload, wifiFits⟩ link wifiMeta
    let wire := decodePacket ⟨ethernetII dstMac srcMac etherType payload, wireFits⟩ .ethernet wireMeta
    air.network = wire.network ∧ air.transport = wire.transport ∧ air.app = wire.app := by
  intro air wire
  have overAir := over_the_air_decodes tap link header etherType payload wifiMeta wifi wifiFits
  have onWire := ethernet_ii_packet_decodes dstMac srcMac etherType payload wireMeta untagged
  have lower : Related SameUpper
      (parseEthernetPayload etherType payload (ParsedPacket.new .ethernet wifiMeta))
      (parseEthernetPayload etherType payload (ParsedPacket.new .ethernet wireMeta)) :=
    ethernet_payload_related _ _ _ _ ⟨rfl, rfl, rfl⟩
  have same := related_trans same_upper_trans (related_trans same_upper_trans overAir lower)
    (related_symm same_upper_symm onWire)
  have airParsed := decode_packet_eq ⟨overTheAir tap header etherType payload, wifiFits⟩ link wifiMeta
  have wireParsed := decode_packet_eq ⟨ethernetII dstMac srcMac etherType payload, wireFits⟩ .ethernet wireMeta
  have layers : SameUpper air wire := related_result same airParsed wireParsed
  exact layers

-- A mesh frame: four addresses, QoS control and HT control.
def meshHeader : DataHeader where
  version := 0
  subtype := 8
  toDs := true
  fromDs := true
  moreFragments := false
  retry := true
  powerManagement := false
  moreData := false
  order := true
  duration := Octets.fill 2 0
  address1 := Octets.fill 6 1
  address2 := Octets.fill 6 2
  address3 := Octets.fill 6 3
  sequenceControl := Octets.fill 2 0
  address4 := Octets.fill 6 4
  qosControl := Octets.fill 2 0xAA
  htControl := Octets.fill 4 0xAA

def plainTap : RadiotapHeader := ⟨[0, 0, 9, 0, 0x20, 0, 0, 0, 0xC4], by decide, rfl, rfl⟩

def arpRequest : Bytes :=
  [0, 1, 0x08, 0x00, 6, 4, 0, 1, 2, 0, 0, 0, 0, 1, 10, 0, 0, 1, 0, 0, 0, 0, 0, 0, 10, 0, 0, 2]

theorem arp_over_the_air :
    let air := decodePacket ⟨overTheAir (some plainTap) meshHeader 0x0806 arpRequest, by decide⟩ .radiotapWifi none
    let wire := decodePacket ⟨ethernetII (Octets.fill 6 3) (Octets.fill 6 4) 0x0806 arpRequest, by decide⟩
      .ethernet none
    (air.network = wire.network ∧ air.transport = wire.transport ∧ air.app = wire.app) ∧ wire.network ≠ .none :=
  ⟨upper_layers_link_independent 0x0806 arpRequest (Octets.fill 6 3) (Octets.fill 6 4) (some plainTap) .radiotapWifi
    meshHeader none none (by unfold IsVlanTpid; decide) (.inl rfl) (by decide) (by decide), by decide +kernel⟩

end NetworkIds.Parser
