import NetworkIds.FlowParser

set_option autoImplicit false

namespace NetworkIds.FlowParser

open Checked Endian NetworkIds.Parser

def etherTypeAt (data : Bytes) (i : Nat) : UInt16 := u16FromBe (data.getD i 0) (data.getD (i + 1) 0)

def outerTagEnd (data : Bytes) : Nat := if etherTypeAt data 12 = 0x88A8 ∨ etherTypeAt data 12 = 0x9100 then 18 else 14

def headerStart (data : Bytes) : Nat :=
  if etherTypeAt data (outerTagEnd data - 2) = 0x8100 then outerTagEnd data + 4 else outerTagEnd data

def ipHeaderLen (data : Bytes) : Nat := (data.getD 0 0 &&& 0x0F).toNat * 4

structure FlowHeader (data : Bytes) (key : FlowKey) : Prop where
  long : 20 ≤ data.length
  version : data.getD 0 0 >>> 4 = 4
  header : 20 ≤ ipHeaderLen data
  room : ipHeaderLen data + 4 ≤ data.length
  protocol : data.getD 9 0 = 6 ∨ data.getD 9 0 = 17
  key : key =
    (u32FromBe (data.getD 12 0) (data.getD 13 0) (data.getD 14 0) (data.getD 15 0),
      u16FromBe (data.getD (ipHeaderLen data) 0) (data.getD (ipHeaderLen data + 1) 0),
      u32FromBe (data.getD 16 0) (data.getD 17 0) (data.getD 18 0) (data.getD 19 0),
      u16FromBe (data.getD (ipHeaderLen data + 2) 0) (data.getD (ipHeaderLen data + 3) 0))

theorem refused_not_ok (error : FlowParseError) (key : FlowKey) :
    ¬(.ok (.error error) : Checked (Except FlowParseError FlowKey)) = .ok (.ok key) := by
  intro same
  cases same

theorem ip_flow_iff (ipBytes : Bytes) (key : FlowKey) :
    parseIpFlow ipBytes = .ok (.ok key) ↔ FlowHeader ipBytes key := by
  rw [parseIpFlow]
  by_cases short : ipBytes.length < 20
  · rw [if_pos short]
    refine iff_of_false (refused_not_ok _ key) ?_
    intro flow
    exact absurd flow.long (by omega)
  rw [if_neg short]
  have reads := header_read ipBytes (by omega)
  simp (disch := decide) only [reads, header_len_ok, ok_bind]
  by_cases version : ipBytes.getD 0 0 >>> 4 = 4
  swap
  · rw [if_pos version]
    refine iff_of_false (refused_not_ok _ key) ?_
    intro flow
    exact absurd flow.version version
  rw [if_neg (by simpa using version)]
  by_cases truncated : (ipBytes.getD 0 0 &&& 0x0F).toNat * 4 < 20 ∨
      ipBytes.length < (ipBytes.getD 0 0 &&& 0x0F).toNat * 4
  · rw [if_pos truncated]
    refine iff_of_false (refused_not_ok _ key) ?_
    intro flow
    have header := flow.header
    have room := flow.room
    unfold ipHeaderLen at header room
    omega
  rw [if_neg truncated]
  by_cases protocol : ipBytes.getD 9 0 = 6 ∨ ipBytes.getD 9 0 = 17
  swap
  · rw [if_pos (not_or.mp protocol)]
    refine iff_of_false (refused_not_ok _ key) ?_
    intro flow
    exact absurd flow.protocol protocol
  rw [if_neg (by rw [← not_or]; exact not_not.mpr protocol)]
  simp (disch := omega) only [slice_from_ok, ok_bind, List.length_drop]
  by_cases room : ipBytes.length - (ipBytes.getD 0 0 &&& 0x0F).toNat * 4 < 4
  · rw [if_pos room]
    refine iff_of_false (refused_not_ok _ key) ?_
    intro flow
    have enough := flow.room
    unfold ipHeaderLen at enough
    omega
  rw [if_neg room]
  have inside : 4 ≤ (ipBytes.drop ((ipBytes.getD 0 0 &&& 0x0F).toNat * 4)).length := by
    rw [List.length_drop]
    omega
  simp (disch := omega) only [index_getD, ok_bind, pure_eq_ok, drop_getD, Nat.add_zero]
  constructor
  · intro parsed
    cases parsed
    exact ⟨by omega, version, by unfold ipHeaderLen; omega, by unfold ipHeaderLen; omega, protocol, rfl⟩
  · intro flow
    rw [flow.key]
    rfl

def PortsOf (data : Bytes) (transport : TransportLayer) : Prop :=
  ∀ srcPort dstPort, HasPorts transport srcPort dstPort → 4 ≤ data.length ∧
    srcPort = u16FromBe (data.getD 0 0) (data.getD 1 0) ∧ dstPort = u16FromBe (data.getD 2 0) (data.getD 3 0)

theorem no_ports (data : Bytes) (transport : TransportLayer) (empty : transport = .none) : PortsOf data transport := by
  intro srcPort dstPort ports
  obtain ⟨tcp, found, _⟩ | ⟨udp, found, _⟩ := ports
  · rw [empty] at found
    cases found
  · rw [empty] at found
    cases found

theorem tcp_ports (data : Bytes) (pkt : ParsedPacket) (fits : data.length ≤ isizeMax) (empty : pkt.UpperEmpty) :
    Safe (parseTcp data pkt) (fun result => PortsOf data result.transport) := by
  apply tcp_rule data pkt fits _ fun _ => no_ports data _ empty.1
  intro tcp read
  refine safe_mono (app_layer_safe _ _ _ _ (Nat.le_trans read.payload.length_le fits) empty.2) ?_
  rintro result ⟨app, rfl, _⟩ srcPort dstPort ports
  obtain ⟨info, found, src, dst⟩ | ⟨udp, found, _⟩ := ports
  · cases found
    have long := read.header.1
    exact ⟨by omega, src.symm.trans read.srcPort, dst.symm.trans read.dstPort⟩
  · cases found

theorem udp_ports (data : Bytes) (pkt : ParsedPacket) (fits : data.length ≤ isizeMax) (empty : pkt.UpperEmpty) :
    Safe (parseUdp data pkt) (fun result => PortsOf data result.transport) := by
  apply udp_rule data pkt _ fun _ => no_ports data _ empty.1
  intro udp read
  refine safe_mono (app_layer_safe _ _ _ _ (Nat.le_trans read.payload.length_le fits) empty.2) ?_
  rintro result ⟨app, rfl, _⟩ srcPort dstPort ports
  obtain ⟨tcp, found, _⟩ | ⟨info, found, src, dst⟩ := ports
  · cases found
  · cases found
    have long := read.header.1
    exact ⟨by omega, src.symm.trans read.srcPort, dst.symm.trans read.dstPort⟩

theorem transport_ports (proto : UInt8) (data : Bytes) (pkt : ParsedPacket) (fits : data.length ≤ isizeMax)
    (empty : pkt.UpperEmpty) : Safe (parseTransport proto data pkt) (fun result =>
      (∃ malformed transport app, result =
        { pkt with malformed := malformed, transport := transport, app := app }) ∧
      PortsOf data result.transport ∧
      ∀ srcPort dstPort, HasPorts result.transport srcPort dstPort → proto = 6 ∨ proto = 17) := by
  obtain ⟨result, parsed, malformed, transport, app, same, coherent⟩ := transport_safe proto data pkt fits empty
  have carried : ∀ srcPort dstPort, HasPorts result.transport srcPort dstPort → proto = 6 ∨ proto = 17 := by
    intro srcPort dstPort ports
    rw [same] at ports
    obtain ⟨tcp, found, _⟩ | ⟨udp, found, _⟩ := ports
    · cases found
      exact .inl coherent.1
    · cases found
      exact .inr coherent.1
  refine ⟨result, parsed, ⟨malformed, transport, app, same⟩, ?_, carried⟩
  unfold parseTransport at parsed
  split at parsed
  · have ports := safe_result (tcp_ports data pkt fits empty) parsed
    exact ports
  · have ports := safe_result (udp_ports data pkt fits empty) parsed
    exact ports
  · intro srcPort dstPort ports
    exact absurd (carried srcPort dstPort ports) (by decide)
  · intro srcPort dstPort ports
    exact absurd (carried srcPort dstPort ports) (by decide)
  · cases parsed
    exact no_ports data _ empty.1

def addressKey (address : Ipv4Addr) : UInt32 := u32FromBe address.a address.b address.c address.d

def CarriesFlow (pkt : ParsedPacket) (key : FlowKey) : Prop :=
  ∃ ip srcPort dstPort, pkt.network = .ipv4 ip ∧ HasPorts pkt.transport srcPort dstPort ∧
    key = (addressKey ip.srcIp, srcPort, addressKey ip.dstIp, dstPort)

theorem carries_transport (pkt : ParsedPacket) (key : FlowKey) (carries : CarriesFlow pkt key) :
    pkt.transport ≠ .none := by
  obtain ⟨ip, srcPort, dstPort, _, ports, _⟩ := carries
  obtain ⟨tcp, found, _⟩ | ⟨udp, found, _⟩ := ports
  · rw [found]
    simp
  · rw [found]
    simp

theorem ipv4_flow (data : Bytes) (pkt : ParsedPacket) (fits : data.length ≤ isizeMax) (empty : pkt.LayersEmpty) :
    Safe (parseIpv4 data pkt) (fun result => ∀ key, CarriesFlow result key → FlowHeader data key) := by
  apply ipv4_rule data pkt
  · intro key carries
    exact absurd empty.2.1 (carries_transport _ key carries)
  · intro ip read
    refine safe_mono (transport_ports _ _ _ (Nat.le_trans read.inside.length_le fits) empty.2) ?_
    rintro result ⟨⟨malformed, transport, app, rfl⟩, fromBytes, protocol⟩ key ⟨other, srcPort, dstPort, found, ports, rfl⟩
    obtain ⟨long, src, dst⟩ := fromBytes srcPort dstPort ports
    cases found
    obtain ⟨stop, inside, payload⟩ := read.payload
    have length := slice_length data ((data.getD 0 0 &&& 0x0F).toNat * 4) stop inside
    have bytes : ∀ i, i < 4 → ip.payload.getD i 0 = data.getD (ipHeaderLen data + i) 0 := by
      intro i small
      rw [payload, drop_getD, take_getD _ _ _ (by rw [payload] at long; omega)]
      rfl
    have header := read.header
    refine ⟨read.long, read.version, by unfold ipHeaderLen; omega, by rw [payload] at long; unfold ipHeaderLen; omega,
      by rw [← read.protocol]; exact protocol srcPort dstPort ports, ?_⟩
    rw [src, dst, bytes 0 (by omega), bytes 1 (by omega), bytes 2 (by omega), bytes 3 (by omega), read.srcIp, read.dstIp]
    rfl

def NotIpv4 (pkt : ParsedPacket) : Prop := ∀ ip, pkt.network ≠ .ipv4 ip

theorem no_network_not_ipv4 (pkt : ParsedPacket) (empty : pkt.network = .none) : NotIpv4 pkt := by
  intro ip network
  rw [empty] at network
  cases network

theorem ipv6_not_ipv4 (data : Bytes) (pkt : ParsedPacket) (fits : data.length ≤ isizeMax) (empty : pkt.LayersEmpty) :
    Safe (parseIpv6 data pkt) NotIpv4 := by
  apply ipv6_rule data pkt fits _ (no_network_not_ipv4 _ empty.1)
  intro ip inside
  refine safe_mono (transport_safe _ _ _ (Nat.le_trans inside.length_le fits) empty.2) ?_
  rintro result ⟨malformed, transport, app, rfl, _⟩ other network
  cases network

theorem arp_not_ipv4 (data : Bytes) (pkt : ParsedPacket) (empty : pkt.LayersEmpty) :
    Safe (parseArp data pkt) NotIpv4 := by
  apply arp_rule data pkt _ (no_network_not_ipv4 _ empty.1) (no_network_not_ipv4 _ empty.1)
  intro arp ip network
  cases network

theorem other_payload_not_ipv4 (ethType : UInt16) (payload : Bytes) (pkt : ParsedPacket)
    (fits : payload.length ≤ isizeMax) (empty : pkt.LayersEmpty) (other : ethType ≠ 0x0800) :
    Safe (parseEthernetPayload ethType payload pkt) NotIpv4 := by
  unfold parseEthernetPayload
  split
  · exact absurd rfl other
  · exact ipv6_not_ipv4 payload pkt fits empty
  · exact arp_not_ipv4 payload pkt empty
  · refine safe_mono (eapol_safe payload pkt) ?_
    intro result outcome
    obtain rfl | rfl | ⟨info, rfl⟩ := outcome
    · exact no_network_not_ipv4 _ empty.1
    · exact no_network_not_ipv4 _ empty.1
    · exact no_network_not_ipv4 _ empty.1
  · exact safe_ok (no_network_not_ipv4 _ empty.1)

theorem ipv4_payload_parsed (payload : Bytes) (pkt : ParsedPacket) (fits : payload.length ≤ isizeMax)
    (empty : pkt.LayersEmpty) :
    Safe (parseEthernetPayload 0x0800 payload pkt) (fun result =>
      ∃ before : ParsedPacket, before.LayersEmpty ∧ parseIpv4 payload before = .ok result) := by
  obtain ⟨result, parsed, -⟩ := ipv4_safe payload pkt fits empty
  exact ⟨result, parsed, pkt, empty, parsed⟩

theorem outer_tag_step (data : Bytes) (state : VlanState) (fits : data.length ≤ isizeMax) (early : state.offset ≤ 18) :
    Safe (stripOuterTag data state) (fun result => (result.ethType, result.offset) =
      if (state.ethType = 0x88A8 ∨ state.ethType = 0x9100) ∧ data.length ≥ state.offset + 4 then
        (etherTypeAt data (state.offset + 2), state.offset + 4)
      else (state.ethType, state.offset)) := by
  have room : state.offset + 4 ≤ usizeMax := usize_small (by omega)
  rw [stripOuterTag]
  simp (disch := omega) only [add_ok, ok_bind]
  split
  · simp (disch := omega) only [index_getD, index_add_getD, ok_bind]
    exact safe_ok rfl
  · exact safe_ok rfl

theorem inner_tag_step (data : Bytes) (state : VlanState) (fits : data.length ≤ isizeMax) (early : state.offset ≤ 18) :
    Safe (stripInnerTag data state) (fun result => (result.ethType, result.offset) =
      if state.ethType = 0x8100 ∧ data.length ≥ state.offset + 4 then
        (etherTypeAt data (state.offset + 2), state.offset + 4)
      else (state.ethType, state.offset)) := by
  have room : state.offset + 4 ≤ usizeMax := usize_small (by omega)
  rw [stripInnerTag]
  simp (disch := omega) only [add_ok, ok_bind]
  split
  · simp (disch := omega) only [index_getD, index_add_getD, ok_bind]
    exact safe_ok rfl
  · exact safe_ok rfl

theorem outer_tag_located (data : Bytes) (outer : VlanState)
    (first : (outer.ethType, outer.offset) =
      if (etherTypeAt data 12 = 0x88A8 ∨ etherTypeAt data 12 = 0x9100) ∧ data.length ≥ 18 then (etherTypeAt data 16, 18)
      else (etherTypeAt data 12, 14)) :
    outer.offset = outerTagEnd data ∧ outer.ethType = etherTypeAt data (outerTagEnd data - 2) ∨
      outer.ethType = 0x88A8 ∨ outer.ethType = 0x9100 := by
  unfold outerTagEnd
  by_cases tagged : etherTypeAt data 12 = 0x88A8 ∨ etherTypeAt data 12 = 0x9100
  · by_cases long : data.length ≥ 18
    · rw [if_pos ⟨tagged, long⟩] at first
      obtain ⟨typeEq, offsetEq⟩ := Prod.mk.inj first
      rw [if_pos tagged]
      exact .inl ⟨offsetEq, typeEq⟩
    · rw [if_neg (fun both => long both.2)] at first
      rw [(Prod.mk.inj first).1]
      exact .inr tagged
  · rw [if_neg (fun both => tagged both.1)] at first
    obtain ⟨typeEq, offsetEq⟩ := Prod.mk.inj first
    rw [if_neg tagged]
    exact .inl ⟨offsetEq, typeEq⟩

theorem tags_header_start (data : Bytes) (outer tags : VlanState)
    (first : (outer.ethType, outer.offset) =
      if (etherTypeAt data 12 = 0x88A8 ∨ etherTypeAt data 12 = 0x9100) ∧ data.length ≥ 18 then (etherTypeAt data 16, 18)
      else (etherTypeAt data 12, 14))
    (second : (tags.ethType, tags.offset) =
      if outer.ethType = 0x8100 ∧ data.length ≥ outer.offset + 4 then
        (etherTypeAt data (outer.offset + 2), outer.offset + 4)
      else (outer.ethType, outer.offset))
    (ipv4 : tags.ethType = 0x0800) :
    tags.offset = headerStart data ∧ etherTypeAt data (headerStart data - 2) = 0x0800 := by
  have outerEnd := outer_tag_located data outer first
  by_cases inner : outer.ethType = 0x8100 ∧ data.length ≥ outer.offset + 4
  · rw [if_pos inner] at second
    obtain ⟨typeEq, offsetEq⟩ := Prod.mk.inj second
    cases outerEnd with
    | inl located =>
        have start : headerStart data = outer.offset + 4 := by
          rw [headerStart, if_pos (located.2.symm.trans inner.1), located.1]
        rw [start]
        exact ⟨offsetEq, typeEq.symm.trans ipv4⟩
    | inr other =>
        rw [inner.1] at other
        exact absurd other (by decide)
  · rw [if_neg inner] at second
    obtain ⟨typeEq, offsetEq⟩ := Prod.mk.inj second
    rw [ipv4] at typeEq
    cases outerEnd with
    | inl located =>
        have start : headerStart data = outer.offset := by
          rw [headerStart, if_neg (by rw [← located.2, ← typeEq]; decide), located.1]
        rw [start]
        refine ⟨offsetEq, ?_⟩
        rw [located.1, ← located.2, ← typeEq]
    | inr other =>
        rw [← typeEq] at other
        exact absurd other (by decide)

def Ipv4Behind (data : Bytes) (result : ParsedPacket) : Prop :=
  14 ≤ data.length ∧ etherTypeAt data (headerStart data - 2) = 0x0800 ∧
    ∃ before : ParsedPacket, before.LayersEmpty ∧ parseIpv4 (data.drop (headerStart data)) before = .ok result

theorem ethernet_ipv4_behind (data : Bytes) (pkt : ParsedPacket) (fits : data.length ≤ isizeMax)
    (empty : pkt.LayersEmpty) :
    Safe (parseEthernetFrame data pkt) (fun result => NotIpv4 result ∨ Ipv4Behind data result) := by
  apply ethernet_frame_rule data pkt fits
  · exact .inl (no_network_not_ipv4 _ empty.1)
  · intro src dst info
    exact .inl (no_network_not_ipv4 _ empty.1)
  · intro src dst info tags long stripped
    obtain ⟨outer, strippedOuter, strippedInner⟩ := stripped
    have first := safe_result (outer_tag_step data _ fits (by dsimp only; omega)) strippedOuter
    have early := safe_result (outer_tag_safe data _ fits (by dsimp only; omega)) strippedOuter
    have second := safe_result (inner_tag_step data outer fits (by dsimp only at early; omega)) strippedInner
    have small : (data.drop tags.offset).length ≤ isizeMax := by
      rw [List.length_drop]
      omega
    by_cases ipv4 : tags.ethType = 0x0800
    · obtain ⟨start, etherType⟩ := tags_header_start data outer tags first second ipv4
      rw [ipv4, start]
      rw [start] at small
      refine safe_mono (ipv4_payload_parsed (data.drop (headerStart data)) _ small empty) ?_
      intro result parsed
      exact .inr ⟨long, etherType, parsed⟩
    · refine safe_mono (other_payload_not_ipv4 _ _ _ small empty ipv4) ?_
      intro result notIpv4
      exact .inl notIpv4

theorem ethernet_flow (data : Bytes) (pkt : ParsedPacket) (fits : data.length ≤ isizeMax) (empty : pkt.LayersEmpty) :
    Safe (parseEthernetFrame data pkt) (fun result => ∀ key, CarriesFlow result key →
      14 ≤ data.length ∧ etherTypeAt data (headerStart data - 2) = 0x0800 ∧
      FlowHeader (data.drop (headerStart data)) key) := by
  refine safe_mono (ethernet_ipv4_behind data pkt fits empty) ?_
  intro result outcome key carries
  cases outcome with
  | inl notIpv4 =>
      obtain ⟨ip, _, _, network, _⟩ := carries
      exact absurd network (notIpv4 ip)
  | inr behind =>
      obtain ⟨long, etherType, before, fresh, parsed⟩ := behind
      have flow := ipv4_flow (data.drop (headerStart data)) before (by rw [List.length_drop]; omega) fresh
      have header := safe_result flow parsed
      exact ⟨long, etherType, header key carries⟩

theorem untagged_start (data : Bytes) (ipv4 : etherTypeAt data 12 = 0x0800) : headerStart data = 14 := by
  have noOuter : outerTagEnd data = 14 := by
    rw [outerTagEnd, if_neg (by rw [ipv4]; decide)]
  rw [headerStart, noOuter, if_neg (by rw [ipv4]; decide)]

theorem flow_key_iff (data : Bytes) (key : FlowKey) (long : 14 ≤ data.length) :
    parseFlowKey data = .ok (.ok key) ↔
      if etherTypeAt data 12 = 0x0800 then FlowHeader (data.drop 14) key else FlowHeader data key := by
  have filled : data.isEmpty = false := by
    cases data with
    | nil => simp at long
    | cons byte rest => rfl
  have bytes : (data.getD 12 0 = 0x08 ∧ data.getD 13 0 = 0x00) ↔ etherTypeAt data 12 = 0x0800 := by
    have type : u16FromBe 0x08 0x00 = 0x0800 := by decide
    rw [etherTypeAt, ← type, u16_from_be_inj]
  rw [parseFlowKey, filled, ipHeaderOffset, if_neg (by simp), if_pos long]
  simp (disch := omega) only [index_getD, ok_bind, bytes]
  by_cases ipv4 : etherTypeAt data 12 = 0x0800
  · rw [if_pos ipv4, if_pos ipv4, pure_eq_ok, ok_bind]
    dsimp only
    rw [slice_from_ok long, ok_bind]
    exact ip_flow_iff _ key
  · rw [if_neg ipv4, if_neg ipv4]
    by_cases raw : data.getD 0 0 >>> 4 = 4
    · rw [if_pos raw, pure_eq_ok, ok_bind]
      dsimp only
      rw [slice_from_ok (Nat.zero_le _), ok_bind, List.drop_zero]
      exact ip_flow_iff data key
    · rw [if_neg raw, pure_eq_ok, ok_bind]
      constructor
      · intro failed
        cases failed
      · intro flow
        exact absurd flow.version raw

-- The bytes from the first one on pass for an IPv4 packet of the same flow as
-- the packet that starts later in the frame.
structure MirrorsHeader (data : Bytes) (start : Nat) : Prop where
  version : data.getD 0 0 >>> 4 = 4
  header : 20 ≤ ipHeaderLen data
  room : ipHeaderLen data + 4 ≤ data.length
  protocol : data.getD 9 0 = 6 ∨ data.getD 9 0 = 17
  addresses : ∀ i, i < 8 → data.getD (12 + i) 0 = data.getD (start + (12 + i)) 0
  ports : ∀ i, i < 4 →
    data.getD (ipHeaderLen data + i) 0 = data.getD (start + (ipHeaderLen (data.drop start) + i)) 0

theorem mirrors_header_iff (data : Bytes) (start : Nat) (key : FlowKey) (flow : FlowHeader (data.drop start) key) :
    FlowHeader data key ↔ MirrorsHeader data start := by
  have later := flow.key
  simp only [drop_getD] at later
  constructor
  · intro first
    have same := first.key.symm.trans later
    simp only [Prod.mk.injEq, u32_from_be_inj, u16_from_be_inj] at same
    obtain ⟨⟨a, b, c, d⟩, ⟨e, f⟩, ⟨g, h, i, j⟩, k, l⟩ := same
    refine ⟨first.version, first.header, first.room, first.protocol, ?_, ?_⟩
    · intro place inside
      obtain rfl | rfl | rfl | rfl | rfl | rfl | rfl | rfl : place = 0 ∨ place = 1 ∨ place = 2 ∨ place = 3 ∨
          place = 4 ∨ place = 5 ∨ place = 6 ∨ place = 7 := by omega
      all_goals assumption
    · intro place inside
      obtain rfl | rfl | rfl | rfl : place = 0 ∨ place = 1 ∨ place = 2 ∨ place = 3 := by omega
      all_goals assumption
  · intro mirrors
    have addresses := mirrors.addresses
    have ports := mirrors.ports
    have header := mirrors.header
    have room := mirrors.room
    refine ⟨by omega, mirrors.version, mirrors.header, mirrors.room, mirrors.protocol, ?_⟩
    rw [later]
    have sourcePort := ports 0 (by omega)
    rw [Nat.add_zero, Nat.add_zero] at sourcePort
    rw [sourcePort, ports 1 (by omega), ports 2 (by omega), ports 3 (by omega), addresses 0 (by omega),
      addresses 1 (by omega), addresses 2 (by omega), addresses 3 (by omega), addresses 4 (by omega),
      addresses 5 (by omega), addresses 6 (by omega), addresses 7 (by omega)]

def DecodesFlow (data : Bytes) (key : FlowKey) : Prop :=
  ∃ pkt ip srcPort dstPort, parsePacket data .ethernet none = .ok pkt ∧ pkt.network = .ipv4 ip ∧
    ip.fragmentOffset = 0 ∧ HasPorts pkt.transport srcPort dstPort ∧
    key = (addressKey ip.srcIp, srcPort, addressKey ip.dstIp, dstPort)

theorem decodes_flow_header (data : Buffer) (key : FlowKey) (decoded : DecodesFlow data.bytes key) :
    14 ≤ data.bytes.length ∧ etherTypeAt data.bytes (headerStart data.bytes - 2) = 0x0800 ∧
      FlowHeader (data.bytes.drop (headerStart data.bytes)) key := by
  obtain ⟨pkt, ip, srcPort, dstPort, parsed, network, _, ports, flow⟩ := decoded
  have carries : CarriesFlow pkt key := ⟨ip, srcPort, dstPort, network, ports, flow⟩
  have empty := new_layers_empty .ethernet none
  rw [parsePacket] at parsed
  by_cases nothing : data.bytes.isEmpty = true
  · rw [if_pos nothing] at parsed
    cases parsed
    exact absurd empty.2.1 (carries_transport _ key carries)
  · rw [if_neg nothing] at parsed
    exact safe_result (ethernet_flow data.bytes _ data.fits empty) parsed key carries

-- The flow table counts a packet that the engine sees exactly when its frame is
-- not tagged, or its first bytes repeat the addresses and ports behind the tags.
theorem parsers_agree_iff_untagged (data : Buffer) (key : FlowKey) (decoded : DecodesFlow data.bytes key) :
    parseFlowKey data.bytes = .ok (.ok key) ↔
      headerStart data.bytes = 14 ∨ MirrorsHeader data.bytes (headerStart data.bytes) := by
  obtain ⟨long, etherType, flow⟩ := decodes_flow_header data key decoded
  rw [flow_key_iff data.bytes key long]
  by_cases untagged : headerStart data.bytes = 14
  · rw [untagged] at etherType flow
    rw [if_pos etherType]
    exact ⟨fun _ => .inl untagged, fun _ => flow⟩
  · have tagged : etherTypeAt data.bytes 12 ≠ 0x0800 := fun ipv4 => untagged (untagged_start data.bytes ipv4)
    rw [if_neg tagged, mirrors_header_iff data.bytes _ key flow]
    constructor
    · intro mirrors
      exact .inr mirrors
    · intro holds
      exact holds.resolve_left untagged

def synFrame (tags : Bytes) : Bytes :=
  [2, 0, 0, 0, 0, 1, 2, 0, 0, 0, 0, 2] ++ tags ++ [0x08, 0x00,
    0x45, 0, 0, 40, 0, 0, 0, 0, 64, 6, 0, 0, 192, 168, 0, 1, 192, 168, 0, 2,
    0x30, 0x39, 0, 80, 0, 0, 0, 1, 0, 0, 0, 0, 0x50, 2, 0, 0, 0, 0, 0, 0]

theorem untagged_frame_counted :
    parseFlowKey (synFrame []) = .ok (.ok (0xC0A80001, 12345, 0xC0A80002, 80)) :=
  (parsers_agree_iff_untagged ⟨synFrame [], by decide⟩ (0xC0A80001, 12345, 0xC0A80002, 80)
    ⟨_, _, _, _, rfl, rfl, rfl, .inl ⟨_, rfl, rfl, rfl⟩, by decide⟩).mpr (.inl (by decide))

theorem tagged_frame_not_counted :
    ¬ ∀ (data : Buffer) (key : FlowKey), DecodesFlow data.bytes key → parseFlowKey data.bytes = .ok (.ok key) := by
  intro agree
  have counted := agree ⟨synFrame [0x81, 0x00, 0x00, 0x05], by decide⟩ (0xC0A80001, 12345, 0xC0A80002, 80)
    ⟨_, _, _, _, rfl, rfl, rfl, .inl ⟨_, rfl, rfl, rfl⟩, by decide⟩
  exact absurd counted (by decide +kernel)

end NetworkIds.FlowParser
