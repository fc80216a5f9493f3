import NetworkIds.Fragments

set_option autoImplicit false

namespace NetworkIds.FlowParser

open Checked Endian NetworkIds.Parser

-- parse_flow_key tells a raw packet from an Ethernet frame by bytes 12 and 13,
-- the upper half of a raw packet's source address. A packet from 8.0.0.0/16 is
-- read behind an Ethernet header that it does not have.
theorem raw_packet_key_iff (data : Bytes) (key : FlowKey) (raw : FlowHeader data key) :
    parseFlowKey data = .ok (.ok key) ↔
      ¬ (data.getD 12 0 = 8 ∧ data.getD 13 0 = 0) ∨ FlowHeader (data.drop 14) key := by
  have long := raw.long
  have sniffed : etherTypeAt data 12 = 0x0800 ↔ data.getD 12 0 = 8 ∧ data.getD 13 0 = 0 := by
    have type : u16FromBe 0x08 0x00 = 0x0800 := by decide
    rw [etherTypeAt, ← type, u16_from_be_inj]
  rw [flow_key_iff data key (by omega), ← sniffed]
  by_cases ethernet : etherTypeAt data 12 = 0x0800
  · rw [if_pos ethernet]
    constructor
    · intro behind
      exact .inr behind
    · intro holds
      exact holds.resolve_left (not_not.mpr ethernet)
  · rw [if_neg ethernet]
    exact ⟨fun _ => .inl ethernet, fun _ => raw⟩

def rawPacket (source : Ipv4Addr) : Bytes :=
  [0x45, 0, 0, 28, 0, 0, 0, 0, 64, 6, 0, 0, source.a, source.b, source.c, source.d, 192, 168, 0, 2,
    0x30, 0x39, 0, 80, 0, 0, 0, 1]

theorem private_source_own_key :
    parseFlowKey (rawPacket ⟨10, 0, 0, 1⟩) = .ok (.ok (0x0A000001, 12345, 0xC0A80002, 80)) :=
  (raw_packet_key_iff (rawPacket ⟨10, 0, 0, 1⟩) (0x0A000001, 12345, 0xC0A80002, 80)
    ⟨by decide, by decide, by decide, by decide, .inl rfl, by decide⟩).mpr (.inl (by decide))

theorem sniffed_source_no_key :
    ¬ ∀ (data : Bytes) (key : FlowKey), FlowHeader data key → parseFlowKey data = .ok (.ok key) := by
  intro own
  have parsed := own (rawPacket ⟨8, 0, 0, 1⟩) (0x08000001, 12345, 0xC0A80002, 80)
    ⟨by decide, by decide, by decide, by decide, .inl rfl, by decide⟩
  exact absurd parsed (by decide +kernel)

def totalLengthOf (data : Bytes) : UInt16 := u16FromBe (data.getD 2 0) (data.getD 3 0)

-- parse_ipv4 gives up on such a header only when its total length ends inside it.
theorem readable_header_decoded (data : Bytes) (pkt : ParsedPacket) (fits : data.length ≤ isizeMax)
    (empty : pkt.LayersEmpty) (readable : FlowReadable data) (total : ipHeaderLen data ≤ (totalLengthOf data).toNat) :
    Safe (parseIpv4 data pkt) (fun result => ¬ NotIpv4 result) := by
  have long := readable.long
  have header := readable.header
  have room := readable.room
  unfold ipHeaderLen at header room total
  unfold totalLengthOf at total
  have space : (data.getD 0 0 &&& 0x0F).toNat * 4 ≤ usizeMax := by
    have small := usize_room fits 0 (by omega)
    omega
  have valid : ¬ (data.getD 0 0 >>> 4 ≠ 4 ∨ (data.getD 0 0 &&& 0x0F).toNat < 5 ∨
      (data.getD 0 0 &&& 0x0F).toNat * 4 > data.length) := by
    rintro (version | short | truncated)
    · exact version readable.version
    · omega
    · omega
  rw [parseIpv4, if_neg (by omega)]
  simp (disch := omega) only [index_getD, mul_ok, ok_bind]
  rw [if_neg valid]
  refine safe_bind (ipv4_options_safe data _ (by omega)) fun options _ => ?_
  rw [if_neg (by omega), slice_ok (by omega) (by omega), ok_bind]
  generalize payloadEq : (data.take _).drop _ = payload
  have inside : payload.length ≤ data.length := by
    rw [← payloadEq, List.length_drop, List.length_take]
    omega
  refine safe_mono (transport_reads _ _ _ (Nat.le_trans inside fits) empty.2) ?_
  intro result reads notIpv4
  exact notIpv4 _ reads.2.1

-- The bytes that parse_flow_key takes for the IPv4 header of a frame without one.
-- Behind EtherType IPv4 they differ from a decoded header in the total length.
def PhantomHeader (data : Bytes) : Prop :=
  if etherTypeAt data 12 = 0x0800 then
    FlowReadable (data.drop 14) ∧ (totalLengthOf (data.drop 14)).toNat < ipHeaderLen (data.drop 14)
  else FlowReadable data

theorem untagged_frame_decoded (data : Buffer) (long : 14 < data.bytes.length)
    (untagged : ¬ IsVlanTpid (etherTypeAt data.bytes 12)) :
    ∃ before : ParsedPacket, before.LayersEmpty ∧
      parseEthernetPayload (etherTypeAt data.bytes 12) (data.bytes.drop 14) before =
        .ok (decodePacket data .ethernet none) := by
  have room : 14 + 4 ≤ usizeMax := by decide
  have filled : ¬ data.bytes.isEmpty = true := by
    rw [List.isEmpty_iff_length_eq_zero]
    omega
  have stripped : StrippedTags data.bytes ⟨etherTypeAt data.bytes 12, 14, none, none, none, none, none⟩ :=
    ⟨_, no_outer_tag data.bytes _ room untagged, no_inner_tag data.bytes _ room untagged⟩
  obtain ⟨dst, src, -, -, decoded⟩ := ethernet_frame_eq data.bytes (.new .ethernet none) _ (by omega) stripped
  rw [if_pos long] at decoded
  have parsed := decode_packet_eq data .ethernet none
  rw [parsePacket, if_neg filled] at parsed
  rw [decoded] at parsed
  refine ⟨_, ?_, parsed⟩
  exact new_layers_empty .ethernet none

theorem untagged_header_decoded (data : Buffer) (etherType : etherTypeAt data.bytes 12 = 0x0800)
    (readable : FlowReadable (data.bytes.drop 14))
    (total : ipHeaderLen (data.bytes.drop 14) ≤ (totalLengthOf (data.bytes.drop 14)).toNat) :
    ¬ NotIpv4 (decodePacket data .ethernet none) := by
  have header := readable.long
  have fits := data.fits
  rw [List.length_drop] at header
  obtain ⟨before, empty, parsed⟩ := untagged_frame_decoded data (by omega) (by rw [etherType]; simp [IsVlanTpid])
  rw [etherType] at parsed
  have found := readable_header_decoded (data.bytes.drop 14) before (by rw [List.length_drop]; omega) empty readable total
  have outcome := safe_result found parsed
  exact outcome

theorem untagged_frame_not_ipv4 (data : Buffer) (long : 14 < data.bytes.length)
    (untagged : ¬ IsVlanTpid (etherTypeAt data.bytes 12)) (other : etherTypeAt data.bytes 12 ≠ 0x0800) :
    NotIpv4 (decodePacket data .ethernet none) := by
  have fits := data.fits
  obtain ⟨before, empty, parsed⟩ := untagged_frame_decoded data long untagged
  have outcome := other_payload_not_ipv4 (etherTypeAt data.bytes 12) (data.bytes.drop 14) before
    (by rw [List.length_drop]; omega) empty other
  have notIpv4 := safe_result outcome parsed
  exact notIpv4

theorem frame_without_ipv4_iff (data : Buffer) (long : 14 ≤ data.bytes.length)
    (noIpv4 : NotIpv4 (decodePacket data .ethernet none)) :
    (∃ e, parseFlowKey data.bytes = .ok (.error e)) ↔ ¬ PhantomHeader data.bytes := by
  obtain ⟨result, parsed, -⟩ := flow_key_safe data.bytes
  have failed : (∃ e, parseFlowKey data.bytes = .ok (.error e)) ↔ ¬ ∃ key, parseFlowKey data.bytes = .ok (.ok key) := by
    rw [parsed]
    cases result with
    | error e => simp
    | ok key => simp
  simp only [failed, flow_key_iff data.bytes _ long]
  rw [PhantomHeader]
  by_cases ipv4 : etherTypeAt data.bytes 12 = 0x0800
  · simp only [if_pos ipv4, flow_readable_iff]
    refine not_congr ⟨fun readable => ⟨readable, ?_⟩, fun phantom => phantom.1⟩
    by_contra total
    exact untagged_header_decoded data ipv4 readable (Nat.le_of_not_lt total) noIpv4
  · simp only [if_neg ipv4, flow_readable_iff]

def arpTo (dstMac : Mac) : Bytes :=
  ethernetII dstMac ⟨[2, 0, 0, 6, 0, 2], rfl⟩ 0x0806
    ([0, 1, 8, 0, 6, 4, 0, 1, 2, 0, 0, 6, 0, 2, 192, 168, 0, 1] ++ List.replicate 6 0 ++ [192, 168, 0, 2])

theorem arp_broadcast_no_flow : ∃ e, parseFlowKey (arpTo (Octets.fill 6 0xFF)) = .ok (.error e) := by
  have noIpv4 := untagged_frame_not_ipv4 ⟨arpTo (Octets.fill 6 0xFF), by decide⟩ (by decide)
    (by simp only [IsVlanTpid]; decide) (by decide)
  refine (frame_without_ipv4_iff ⟨arpTo (Octets.fill 6 0xFF), by decide⟩ (by decide) noIpv4).mpr ?_
  rw [PhantomHeader, if_neg (by decide)]
  intro readable
  exact absurd readable.version (by decide)

-- The first octet of this address passes for version 4 and a header of 24 bytes.
theorem arp_unicast_phantom_flow :
    ¬ ∀ data : Buffer, 14 ≤ data.bytes.length → NotIpv4 (decodePacket data .ethernet none) →
      ∃ e, parseFlowKey data.bytes = .ok (.error e) := by
  intro refused
  have noIpv4 := untagged_frame_not_ipv4 ⟨arpTo (Octets.fill 6 0x46), by decide⟩ (by decide)
    (by simp only [IsVlanTpid]; decide) (by decide)
  obtain ⟨e, failed⟩ := refused ⟨arpTo (Octets.fill 6 0x46), by decide⟩ (by decide) noIpv4
  have counted : parseFlowKey (arpTo (Octets.fill 6 0x46)) = .ok (.ok (0x08060001, 6, 0x08000604, 2)) := by
    decide +kernel
  rw [counted] at failed
  cases failed

end NetworkIds.FlowParser
