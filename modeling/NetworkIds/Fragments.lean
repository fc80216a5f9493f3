import NetworkIds.Parser.UpperLayers
import NetworkIds.Parser.VlanTags

set_option autoImplicit false

namespace NetworkIds.Parser

open Checked Endian FlowParser

def Readable (proto : UInt8) (data : Bytes) : Prop :=
  (proto = 6 ∧ 20 ≤ data.length ∧ 5 ≤ (data.getD 12 0 >>> 4).toNat ∧ (data.getD 12 0 >>> 4).toNat * 4 ≤ data.length) ∨
  (proto = 17 ∧ 8 ≤ data.length ∧ 8 ≤ (u16FromBe (data.getD 4 0) (data.getD 5 0)).toNat ∧
    (u16FromBe (data.getD 4 0) (data.getD 5 0)).toNat ≤ data.length) ∨
  ((proto = 1 ∨ proto = 58) ∧ 4 ≤ data.length)

def NoUpperLayers (pkt : ParsedPacket) : Prop := pkt.transport = .none ∧ pkt.app = .none

theorem unreadable (proto : UInt8) (data : Bytes) (pkt : ParsedPacket) (empty : pkt.UpperEmpty)
    (fails : ¬ Readable proto data) : NoUpperLayers pkt ↔ ¬ Readable proto data :=
  ⟨fun _ => fails, fun _ => empty⟩

theorem readable_present (proto : UInt8) (data : Bytes) (pkt : ParsedPacket) (present : pkt.transport ≠ .none)
    (reads : Readable proto data) : NoUpperLayers pkt ↔ ¬ Readable proto data :=
  ⟨fun none => absurd none.1 present, fun fails => absurd reads fails⟩

theorem tcp_none_iff (data : Bytes) (pkt : ParsedPacket) (fits : data.length ≤ isizeMax) (empty : pkt.UpperEmpty) :
    Safe (parseTcp data pkt) (fun result => NoUpperLayers result ↔ ¬ Readable 6 data) := by
  have onlyTcp : Readable 6 data ↔ TcpHeader data := by simp [Readable, TcpHeader]
  apply tcp_rule data pkt fits
  · intro fails
    exact unreadable 6 data _ empty (by rwa [onlyTcp])
  · intro tcp read
    refine safe_mono (app_layer_safe _ _ _ _ (Nat.le_trans read.payload.length_le fits) empty.2) ?_
    intro result framed
    obtain ⟨app, rfl, -⟩ := framed
    exact readable_present 6 data _ (by simp) (onlyTcp.mpr read.header)

theorem udp_none_iff (data : Bytes) (pkt : ParsedPacket) (fits : data.length ≤ isizeMax) (empty : pkt.UpperEmpty) :
    Safe (parseUdp data pkt) (fun result => NoUpperLayers result ↔ ¬ Readable 17 data) := by
  have onlyUdp : Readable 17 data ↔ UdpHeader data := by simp [Readable, UdpHeader]
  apply udp_rule data pkt
  · intro fails
    exact unreadable 17 data _ empty (by rwa [onlyUdp])
  · intro udp read
    refine safe_mono (app_layer_safe _ _ _ _ (Nat.le_trans read.payload.length_le fits) empty.2) ?_
    intro result framed
    obtain ⟨app, rfl, -⟩ := framed
    exact readable_present 17 data _ (by simp) (onlyUdp.mpr read.header)

theorem icmp_none_iff (proto : UInt8) (icmp : proto = 1 ∨ proto = 58) (data : Bytes) (pkt : ParsedPacket)
    (empty : pkt.UpperEmpty) :
    Safe (parseIcmp data pkt) (fun result => NoUpperLayers result ↔ ¬ Readable proto data) := by
  have onlyIcmp : Readable proto data ↔ 4 ≤ data.length := by
    rcases icmp with rfl | rfl
    · simp [Readable]
    · simp [Readable]
  apply icmp_rule data pkt
  · intro fails
    exact unreadable proto data _ empty (by rwa [onlyIcmp])
  · intro info long _
    exact readable_present proto data _ (by simp) (onlyIcmp.mpr long)

theorem transport_none_iff (proto : UInt8) (data : Bytes) (pkt : ParsedPacket) (fits : data.length ≤ isizeMax)
    (empty : pkt.UpperEmpty) :
    Safe (parseTransport proto data pkt) (fun result => NoUpperLayers result ↔ ¬ Readable proto data) := by
  unfold parseTransport
  split
  · exact tcp_none_iff data pkt fits empty
  · exact udp_none_iff data pkt fits empty
  · exact icmp_none_iff 1 (.inl rfl) data pkt empty
  · exact icmp_none_iff 58 (.inr rfl) data pkt empty
  · rename_i notTcp notUdp notIcmp notIcmp6
    exact safe_ok (unreadable proto data pkt empty (by simp_all [Readable]))

theorem reads_upper_none_iff (proto : UInt8) (payload : Bytes) (pkt : ParsedPacket) (fits : payload.length ≤ isizeMax)
    (reads : ReadsUpper proto payload pkt) : NoUpperLayers pkt ↔ ¬ Readable proto payload := by
  obtain ⟨before, after, empty, parsed, transport, app⟩ := reads
  have same : NoUpperLayers pkt ↔ NoUpperLayers after := by rw [NoUpperLayers, transport, app, NoUpperLayers]
  rw [same]
  have readable := transport_none_iff proto payload before fits empty
  have outcome := safe_result readable parsed
  exact outcome

structure DecodedHeader (data : Bytes) (ip : Ipv4Info) : Prop where
  long : 20 ≤ data.length
  version : data.getD 0 0 >>> 4 = 4
  header : 20 ≤ ipHeaderLen data
  room : ipHeaderLen data ≤ data.length
  ihl : ipHeaderLen data = ip.ihl.toNat * 4
  protocol : data.getD 9 0 = ip.protocol

theorem ipv4_header_read (data : Bytes) (pkt : ParsedPacket) (fits : data.length ≤ isizeMax)
    (empty : pkt.LayersEmpty) :
    Safe (parseIpv4 data pkt) (fun result => ∀ ip, result.network = .ipv4 ip → DecodedHeader data ip) := by
  apply ipv4_rule data pkt
  · intro ip network
    exact absurd network (no_network_not_ipv4 pkt.markMalformed empty.1 ip)
  · intro ip read
    refine safe_mono (transport_reads _ _ _ (Nat.le_trans read.inside.length_le fits) empty.2) ?_
    intro result reads other network
    rw [reads.2.1] at network
    cases network
    have header := read.header
    exact ⟨read.long, read.version, by unfold ipHeaderLen; omega, read.room, by rw [read.ihl]; rfl, read.protocol.symm⟩

theorem decoded_ipv4_header (data : Buffer) (packetMeta : Option PacketMeta) (ip : Ipv4Info)
    (network : (decodePacket data .ethernet packetMeta).network = .ipv4 ip) :
    14 ≤ data.bytes.length ∧ etherTypeAt data.bytes (headerStart data.bytes - 2) = 0x0800 ∧
      DecodedHeader (data.bytes.drop (headerStart data.bytes)) ip := by
  have parsed := decode_packet_eq data .ethernet packetMeta
  have fresh := new_layers_empty .ethernet packetMeta
  have fits := data.fits
  rw [parsePacket] at parsed
  by_cases nothing : data.bytes.isEmpty = true
  · rw [if_pos nothing] at parsed
    have same := Except.ok.inj parsed
    rw [← same] at network
    exact absurd network (no_network_not_ipv4 _ fresh.1 ip)
  · rw [if_neg nothing] at parsed
    have located := ethernet_ipv4_behind data.bytes _ fits fresh
    have outcome := safe_result located parsed
    cases outcome with
    | inl notIpv4 => exact absurd network (notIpv4 ip)
    | inr behind =>
        obtain ⟨long, etherType, before, empty, read⟩ := behind
        have header := ipv4_header_read (data.bytes.drop (headerStart data.bytes)) before
          (by rw [List.length_drop]; omega) empty
        have decoded := safe_result header read
        exact ⟨long, etherType, decoded ip network⟩

structure FlowReadable (data : Bytes) : Prop where
  long : 20 ≤ data.length
  version : data.getD 0 0 >>> 4 = 4
  header : 20 ≤ ipHeaderLen data
  room : ipHeaderLen data + 4 ≤ data.length
  protocol : data.getD 9 0 = 6 ∨ data.getD 9 0 = 17

theorem flow_readable_iff (data : Bytes) : (∃ key, FlowHeader data key) ↔ FlowReadable data := by
  constructor
  · intro found
    obtain ⟨key, flow⟩ := found
    exact ⟨flow.long, flow.version, flow.header, flow.room, flow.protocol⟩
  · intro readable
    exact ⟨_, readable.long, readable.version, readable.header, readable.room, readable.protocol, rfl⟩

-- When parse_flow_key takes ports from a frame with this IPv4 header: behind an
-- untagged Ethernet header it looks at the protocol and the length only, and a
-- tagged frame is read as if it started with the IP header.
def FlowKeyRead (data : Bytes) (ip : Ipv4Info) : Prop :=
  if headerStart data = 14 then (ip.protocol = 6 ∨ ip.protocol = 17) ∧ 14 + ip.ihl.toNat * 4 + 4 ≤ data.length
  else FlowReadable data

theorem flow_key_read_iff (data : Bytes) (ip : Ipv4Info) (long : 14 ≤ data.length)
    (etherType : etherTypeAt data (headerStart data - 2) = 0x0800)
    (header : DecodedHeader (data.drop (headerStart data)) ip) :
    (∃ key, parseFlowKey data = .ok (.ok key)) ↔ FlowKeyRead data ip := by
  simp only [flow_key_iff data _ long]
  rw [FlowKeyRead]
  by_cases untagged : headerStart data = 14
  · rw [untagged] at etherType header
    have length := header.long
    have enough := header.header
    simp only [if_pos etherType, if_pos untagged, flow_readable_iff]
    rw [← header.protocol, ← header.ihl]
    rw [List.length_drop] at length
    constructor
    · intro readable
      have room := readable.room
      rw [List.length_drop] at room
      exact ⟨readable.protocol, by omega⟩
    · intro ports
      exact ⟨header.long, header.version, header.header, by rw [List.length_drop]; omega, ports.1⟩
  · have tagged : etherTypeAt data 12 ≠ 0x0800 := fun ipv4 => untagged (untagged_start data ipv4)
    simp only [if_neg tagged, if_neg untagged, flow_readable_iff]

-- The fragment offset decides nothing: the payload of every IP packet, be it a
-- later fragment, is read as the header that the protocol number announces, and
-- the upper layers are missing only where the bytes cannot be read so.
theorem upper_layers_ignore_fragments (data : Buffer) (packetMeta : Option PacketMeta) :
    (∀ ip, (decodePacket data .ethernet packetMeta).network = .ipv4 ip →
      (NoUpperLayers (decodePacket data .ethernet packetMeta) ↔ ¬ Readable ip.protocol ip.payload) ∧
      ((∃ key, parseFlowKey data.bytes = .ok (.ok key)) ↔ FlowKeyRead data.bytes ip)) ∧
    (∀ ip, (decodePacket data .ethernet packetMeta).network = .ipv6 ip →
      (NoUpperLayers (decodePacket data .ethernet packetMeta) ↔ ¬ Readable ip.finalNextHeader ip.payload)) := by
  have upper := decoded_upper_from_network data .ethernet packetMeta
  have coherent := decoded_layers_coherent data .ethernet packetMeta
  have fits := data.fits
  constructor
  · intro ip network
    obtain ⟨long, etherType, header⟩ := decoded_ipv4_header data packetMeta ip network
    have inside := (coherent.ipv4Payload ip network).length_le
    rw [UpperFromNetwork, network] at upper
    exact ⟨reads_upper_none_iff _ _ _ (by omega) upper, flow_key_read_iff data.bytes ip long etherType header⟩
  · intro ip network
    have inside := (coherent.ipv6Payload ip network).length_le
    rw [UpperFromNetwork, network] at upper
    exact reads_upper_none_iff _ _ _ (by omega) upper

-- A fragment at octet 1480 whose bytes happen to look like a SYN.
def laterFragment : Bytes :=
  ethernetII (Octets.fill 6 1) (Octets.fill 6 2) 0x0800
    [0x45, 0, 0, 40, 0, 0, 0, 185, 64, 6, 0, 0, 192, 168, 0, 1, 192, 168, 0, 2,
      0x30, 0x39, 0, 80, 0, 0, 0, 1, 0, 0, 0, 0, 0x50, 2, 0, 0, 0, 0, 0, 0]

def laterHeader : Ipv4Info where
  version := 4
  ihl := 5
  dscp := 0
  ecn := 0
  totalLength := 40
  identification := 0
  flags := 0
  fragmentOffset := 185
  ttl := 64
  protocol := 6
  headerChecksum := 0
  srcIp := ⟨192, 168, 0, 1⟩
  dstIp := ⟨192, 168, 0, 2⟩
  options := []
  payload := [0x30, 0x39, 0, 80, 0, 0, 0, 1, 0, 0, 0, 0, 0x50, 2, 0, 0, 0, 0, 0, 0]

theorem later_fragment_read :
    ¬ NoUpperLayers (decodePacket ⟨laterFragment, by decide⟩ .ethernet none) ∧
      ∃ key, parseFlowKey laterFragment = .ok (.ok key) := by
  have network : (decodePacket ⟨laterFragment, by decide⟩ .ethernet none).network = .ipv4 laterHeader := by
    decide +kernel
  obtain ⟨layers, flow⟩ := (upper_layers_ignore_fragments ⟨laterFragment, by decide⟩ none).1 laterHeader network
  constructor
  · rw [layers]
    exact not_not.mpr (.inl (by decide))
  · rw [flow, FlowKeyRead, if_pos (by decide)]
    exact ⟨.inl rfl, by decide⟩

theorem later_fragment_ports_read :
    ¬ ∀ (data : Buffer) (ip : Ipv4Info), (decodePacket data .ethernet none).network = .ipv4 ip →
      ip.fragmentOffset ≠ 0 →
      NoUpperLayers (decodePacket data .ethernet none) ∧ ∀ key, parseFlowKey data.bytes ≠ .ok (.ok key) := by
  intro claimed
  obtain ⟨layers, -⟩ := claimed ⟨laterFragment, by decide⟩ laterHeader (by decide +kernel) (by decide)
  exact absurd layers.1 (by decide +kernel)

end NetworkIds.Parser
