import NetworkIds.FlowAgreement

set_option autoImplicit false

namespace NetworkIds.Parser

open Checked Endian FlowParser

def ReadsUpper (proto : UInt8) (payload : Bytes) (pkt : ParsedPacket) : Prop :=
  ∃ before after : ParsedPacket, before.UpperEmpty ∧ parseTransport proto payload before = .ok after ∧
    pkt.transport = after.transport ∧ pkt.app = after.app

def UpperFromNetwork (pkt : ParsedPacket) : Prop :=
  match pkt.network with
  | .ipv4 ip => ReadsUpper ip.protocol ip.payload pkt
  | .ipv6 ip => ReadsUpper ip.finalNextHeader ip.payload pkt
  | .arp _ => pkt.transport = .none
  | .none => pkt.transport = .none

structure Dispatches (pkt result : ParsedPacket) : Prop where
  link : result.linkType = pkt.linkType
  upper : UpperFromNetwork result

theorem layers_empty_upper (pkt : ParsedPacket) (empty : pkt.LayersEmpty) : UpperFromNetwork pkt := by
  rw [UpperFromNetwork, empty.1]
  exact empty.2.1

theorem malformed_dispatches (pkt : ParsedPacket) (empty : pkt.LayersEmpty) : Dispatches pkt pkt.markMalformed :=
  ⟨rfl, layers_empty_upper pkt.markMalformed empty⟩

theorem unchanged_dispatches (pkt : ParsedPacket) (empty : pkt.LayersEmpty) : Dispatches pkt pkt :=
  ⟨rfl, layers_empty_upper pkt empty⟩

theorem transport_reads (proto : UInt8) (payload : Bytes) (pkt : ParsedPacket) (fits : payload.length ≤ isizeMax)
    (empty : pkt.UpperEmpty) :
    Safe (parseTransport proto payload pkt) (fun result =>
      result.linkType = pkt.linkType ∧ result.network = pkt.network ∧ ReadsUpper proto payload result) := by
  obtain ⟨result, parsed, malformed, transport, app, same, -⟩ := transport_safe proto payload pkt fits empty
  refine ⟨result, parsed, ?_, ?_, pkt, result, empty, parsed, rfl, rfl⟩
  · rw [same]
  · rw [same]

theorem ipv4_dispatches (data : Bytes) (pkt : ParsedPacket) (fits : data.length ≤ isizeMax)
    (empty : pkt.LayersEmpty) : Safe (parseIpv4 data pkt) (Dispatches pkt) := by
  apply ipv4_rule data pkt _ (malformed_dispatches pkt empty)
  intro ip read
  refine safe_mono (transport_reads _ _ _ (Nat.le_trans read.inside.length_le fits) empty.2) ?_
  intro result reads
  obtain ⟨link, network, upper⟩ := reads
  refine ⟨link, ?_⟩
  rw [UpperFromNetwork, network]
  exact upper

theorem ipv6_dispatches (data : Bytes) (pkt : ParsedPacket) (fits : data.length ≤ isizeMax)
    (empty : pkt.LayersEmpty) : Safe (parseIpv6 data pkt) (Dispatches pkt) := by
  apply ipv6_rule data pkt fits _ (malformed_dispatches pkt empty)
  intro ip inside
  refine safe_mono (transport_reads _ _ _ (Nat.le_trans inside.length_le fits) empty.2) ?_
  intro result reads
  obtain ⟨link, network, upper⟩ := reads
  refine ⟨link, ?_⟩
  rw [UpperFromNetwork, network]
  exact upper

theorem arp_dispatches (data : Bytes) (pkt : ParsedPacket) (empty : pkt.LayersEmpty) :
    Safe (parseArp data pkt) (Dispatches pkt) :=
  arp_rule data pkt _ (malformed_dispatches pkt empty) (unchanged_dispatches pkt empty) fun _ => ⟨rfl, empty.2.1⟩

theorem ethernet_payload_dispatches (ethType : UInt16) (payload : Bytes) (pkt : ParsedPacket)
    (fits : payload.length ≤ isizeMax) (empty : pkt.LayersEmpty) :
    Safe (parseEthernetPayload ethType payload pkt) (Dispatches pkt) := by
  unfold parseEthernetPayload
  split
  · exact ipv4_dispatches payload pkt fits empty
  · exact ipv6_dispatches payload pkt fits empty
  · exact arp_dispatches payload pkt empty
  · refine safe_mono (eapol_safe payload pkt) ?_
    intro result outcome
    rcases outcome with rfl | rfl | ⟨info, rfl⟩
    · exact unchanged_dispatches result empty
    · exact malformed_dispatches pkt empty
    · refine ⟨rfl, ?_⟩
      rw [UpperFromNetwork, empty.1]
      exact empty.2.1
  · exact safe_ok (unchanged_dispatches pkt empty)

theorem ethernet_frame_dispatches (data : Bytes) (pkt : ParsedPacket) (fits : data.length ≤ isizeMax)
    (empty : pkt.LayersEmpty) : Safe (parseEthernetFrame data pkt) (Dispatches pkt) := by
  apply ethernet_frame_rule data pkt fits _ (malformed_dispatches pkt empty)
  · intro src dst info
    exact ⟨rfl, layers_empty_upper _ empty⟩
  · intro src dst info tags _ _
    refine safe_mono (ethernet_payload_dispatches _ _ _ (by rw [List.length_drop]; omega) empty) ?_
    intro result dispatched
    exact ⟨dispatched.link, dispatched.upper⟩

theorem data_body_dispatches (data : Bytes) (headerLen : Nat) (protectedFrame : Bool) (pkt : ParsedPacket)
    (fits : data.length ≤ isizeMax) (empty : pkt.LayersEmpty) :
    Safe (parseDataBody data headerLen protectedFrame pkt) (Dispatches pkt) := by
  apply data_body_rule data headerLen protectedFrame pkt _ fun _ => ⟨rfl, layers_empty_upper _ empty⟩
  intro ethType inner raw inside
  refine safe_mono (ethernet_payload_dispatches _ _ _ (Nat.le_trans inside.length_le fits) empty) ?_
  intro result dispatched
  exact ⟨dispatched.link, dispatched.upper⟩

theorem frame_80211_dispatches (data : Bytes) (pkt : ParsedPacket) (fits : data.length ≤ isizeMax)
    (empty : pkt.LayersEmpty) : Safe (parse80211Frame data pkt) (Dispatches pkt) := by
  apply frame_80211_rule data pkt fits _ (malformed_dispatches pkt empty)
  · intro header src dst bssid
    exact ⟨rfl, layers_empty_upper _ empty⟩
  · intro header src dst bssid mgmt
    exact ⟨rfl, layers_empty_upper _ empty⟩
  · intro header src dst bssid headerLen protectedFrame
    refine safe_mono (data_body_dispatches data headerLen protectedFrame _ fits empty) ?_
    intro result dispatched
    exact ⟨dispatched.link, dispatched.upper⟩

theorem radiotap_packet_dispatches (data : Bytes) (pkt : ParsedPacket) (fits : data.length ≤ isizeMax)
    (empty : pkt.LayersEmpty) : Safe (parseRadiotapPacket data pkt) (Dispatches pkt) := by
  apply radiotap_packet_rule data pkt fits _ (malformed_dispatches pkt empty)
  · intro signal channel
    exact ⟨rfl, layers_empty_upper _ empty⟩
  · intro signal channel frame inside
    refine safe_mono (frame_80211_dispatches _ _ (Nat.le_trans inside.length_le fits) empty) ?_
    intro result dispatched
    exact ⟨dispatched.link, dispatched.upper⟩

theorem decoded_upper_from_network (data : Buffer) (link : LinkType) (packetMeta : Option PacketMeta) :
    UpperFromNetwork (decodePacket data link packetMeta) := by
  have fits := data.fits
  have fresh : ∀ other, (ParsedPacket.new other packetMeta).LayersEmpty := fun other => new_layers_empty other packetMeta
  have holds : Safe (parsePacket data.bytes link packetMeta) UpperFromNetwork := by
    apply packet_rule
    · intro other
      exact layers_empty_upper _ (fresh other)
    · intro other
      exact safe_mono (radiotap_packet_dispatches data.bytes _ fits (fresh other)) fun _ dispatched => dispatched.upper
    · intro other
      exact safe_mono (frame_80211_dispatches data.bytes _ fits (fresh other)) fun _ dispatched => dispatched.upper
    · intro other
      exact safe_mono (ethernet_frame_dispatches data.bytes _ fits (fresh other)) fun _ dispatched => dispatched.upper
  exact safe_result holds (decode_packet_eq data link packetMeta)

end NetworkIds.Parser
