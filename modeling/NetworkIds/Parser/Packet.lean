import NetworkIds.Parser.Radiotap
import NetworkIds.Parser.Wifi

set_option autoImplicit false

namespace NetworkIds.Parser

open Checked Endian

-- The RadiotapWifi arm of parse_packet, which the Unknown arm repeats.
def parseRadiotapPacket (data : Bytes) (pkt : ParsedPacket) : Checked ParsedPacket := do
  match ← parseRadiotap data with
  | none => return pkt.markMalformed
  | some info =>
      let pkt := { pkt with signalDbm := info.dbmAntsignal, channel := info.channel }
      if info.headerLen < data.length then parse80211Frame (← sliceFrom data info.headerLen) pkt
      else return pkt.markMalformed

def parsePacket (data : Bytes) (defaultLink : LinkType) (packetMeta : Option PacketMeta) :
    Checked ParsedPacket := do
  let pkt := ParsedPacket.new defaultLink packetMeta
  if data.isEmpty then return pkt.markMalformed
  else
    match defaultLink with
    | .radiotapWifi => parseRadiotapPacket data pkt
    | .wifi80211 => parse80211Frame data pkt
    | .ethernet => parseEthernetFrame data pkt
    | .unknown =>
        if data.length ≥ 8 then
          if (← index data 0) = 0 then parseRadiotapPacket data { pkt with linkType := .radiotapWifi }
          else if data.length ≥ 14 then parseEthernetFrame data { pkt with linkType := .ethernet }
          else return pkt.markMalformed
        else return pkt.markMalformed

def CarriedBy (network : NetworkLayer) (proto : UInt8) (payload : Bytes) : Prop :=
  (∃ ip, network = .ipv4 ip ∧ ip.protocol = proto ∧ payload <:+: ip.payload) ∨
  (∃ ip, network = .ipv6 ip ∧ ip.finalNextHeader = proto ∧ payload <:+: ip.payload)

def HasPorts (transport : TransportLayer) (srcPort dstPort : UInt16) : Prop :=
  (∃ tcp, transport = .tcp tcp ∧ tcp.srcPort = srcPort ∧ tcp.dstPort = dstPort) ∨
  (∃ udp, transport = .udp udp ∧ udp.srcPort = srcPort ∧ udp.dstPort = dstPort)

structure LayerCoherent (data : Bytes) (pkt : ParsedPacket) : Prop where
  tcp : ∀ tcp, pkt.transport = .tcp tcp → CarriedBy pkt.network 6 tcp.payload
  udp : ∀ udp, pkt.transport = .udp udp → CarriedBy pkt.network 17 udp.payload
  icmp : ∀ icmp, pkt.transport = .icmp icmp →
    CarriedBy pkt.network 1 icmp.payload ∨ CarriedBy pkt.network 58 icmp.payload
  dns : ∀ dns, pkt.app = .dns dns →
    ∃ srcPort dstPort, HasPorts pkt.transport srcPort dstPort ∧ (srcPort = 53 ∨ dstPort = 53)
  dhcp : ∀ dhcp, pkt.app = .dhcp dhcp →
    HasPorts pkt.transport 67 68 ∨ HasPorts pkt.transport 68 67
  eapol : ∀ eapol, pkt.app = .eapol eapol → pkt.network = .none ∧ pkt.transport = .none
  management : ∀ mgmt, pkt.wifiMgmt = some mgmt →
    pkt.network = .none ∧ pkt.transport = .none ∧ pkt.app = .none
  oneLink : pkt.ethernet = none ∨ pkt.wifiHeader = none
  ipv4Payload : ∀ ip, pkt.network = .ipv4 ip → ip.payload <:+: data
  ipv6Payload : ∀ ip, pkt.network = .ipv6 ip → ip.payload <:+: data

-- A transport layer names its carrier: the IP header whose payload it was parsed from.
theorem coherent_carrier (data : Bytes) (network : NetworkLayer) (transport : TransportLayer)
    (app : AppLayer) (coherent : NetworkCoherent data network transport app)
    (present : transport ≠ .none) :
    ∃ proto inner, TransportCoherent proto inner transport app ∧
      ∀ payload, payload <:+: inner → CarriedBy network proto payload := by
  cases network with
  | ipv4 ip => exact ⟨ip.protocol, ip.payload, coherent.2, fun payload inside => .inl ⟨ip, rfl, rfl, inside⟩⟩
  | ipv6 ip =>
      exact ⟨ip.finalNextHeader, ip.payload, coherent.2, fun payload inside => .inr ⟨ip, rfl, rfl, inside⟩⟩
  | arp info => exact absurd coherent.1 present
  | none => exact absurd coherent.1 present

-- The application layers other than EAPOL sit on a transport layer with its ports.
theorem coherent_ports (data : Bytes) (network : NetworkLayer) (transport : TransportLayer)
    (app : AppLayer) (coherent : NetworkCoherent data network transport app) (present : app ≠ .none)
    (notEapol : ∀ info, app ≠ .eapol info) :
    ∃ srcPort dstPort, HasPorts transport srcPort dstPort ∧ AppPorts srcPort dstPort app := by
  have carried : transport ≠ .none := by
    rintro rfl
    cases network with
    | ipv4 ip => exact present coherent.2
    | ipv6 ip => exact present coherent.2
    | arp info => exact present coherent.2
    | none =>
        rcases coherent.2 with noApp | ⟨info, isEapol⟩
        · exact present noApp
        · exact notEapol info isEapol
  obtain ⟨proto, inner, layers, -⟩ := coherent_carrier data network transport app coherent carried
  cases transport with
  | tcp info => exact ⟨info.srcPort, info.dstPort, .inl ⟨info, rfl, rfl, rfl⟩, layers.2.2⟩
  | udp info => exact ⟨info.srcPort, info.dstPort, .inr ⟨info, rfl, rfl, rfl⟩, layers.2.2⟩
  | icmp info => exact absurd layers.2.2 present
  | none => exact absurd rfl carried

theorem coherent_eapol (data : Bytes) (network : NetworkLayer) (transport : TransportLayer)
    (info : EapolInfo) (coherent : NetworkCoherent data network transport (.eapol info)) :
    network = .none ∧ transport = .none := by
  cases transport with
  | none =>
      cases network with
      | ipv4 ip => cases coherent.2
      | ipv6 ip => cases coherent.2
      | arp arp => cases coherent.2
      | none => exact ⟨rfl, rfl⟩
  | tcp tcp =>
      obtain ⟨proto, inner, layers, -⟩ := coherent_carrier _ _ _ _ coherent (by simp)
      exact layers.2.2.elim
  | udp udp =>
      obtain ⟨proto, inner, layers, -⟩ := coherent_carrier _ _ _ _ coherent (by simp)
      exact layers.2.2.elim
  | icmp icmp =>
      obtain ⟨proto, inner, layers, -⟩ := coherent_carrier _ _ _ _ coherent (by simp)
      cases layers.2.2

theorem layer_coherent (data : Bytes) (pkt : ParsedPacket)
    (coherent : NetworkCoherent data pkt.network pkt.transport pkt.app)
    (oneLink : pkt.ethernet = none ∨ pkt.wifiHeader = none)
    (management : pkt.wifiMgmt = none ∨ pkt.LayersEmpty) : LayerCoherent data pkt where
  tcp info present := by
    obtain ⟨proto, inner, layers, carried⟩ := coherent_carrier _ _ _ _ coherent (by simp [present])
    rw [present] at layers
    obtain ⟨rfl, inside, -⟩ := layers
    exact carried _ inside
  udp info present := by
    obtain ⟨proto, inner, layers, carried⟩ := coherent_carrier _ _ _ _ coherent (by simp [present])
    rw [present] at layers
    obtain ⟨rfl, inside, -⟩ := layers
    exact carried _ inside
  icmp info present := by
    obtain ⟨proto, inner, layers, carried⟩ := coherent_carrier _ _ _ _ coherent (by simp [present])
    rw [present] at layers
    obtain ⟨rfl | rfl, inside, -⟩ := layers
    · exact .inl (carried _ inside)
    · exact .inr (carried _ inside)
  dns info present := by
    obtain ⟨srcPort, dstPort, ports, app⟩ := coherent_ports _ _ _ _ coherent (by simp [present]) (by simp [present])
    rw [present] at app
    exact ⟨srcPort, dstPort, ports, app⟩
  dhcp info present := by
    obtain ⟨srcPort, dstPort, ports, app⟩ := coherent_ports _ _ _ _ coherent (by simp [present]) (by simp [present])
    rw [present] at app
    obtain ⟨rfl, rfl⟩ | ⟨rfl, rfl⟩ := app
    · exact .inl ports
    · exact .inr ports
  eapol info present := by
    rw [present] at coherent
    exact coherent_eapol _ _ _ info coherent
  management mgmt present := by
    rcases management with absent | empty
    · rw [absent] at present
      cases present
    · exact empty
  oneLink := oneLink
  ipv4Payload ip present := by
    rw [present] at coherent
    exact coherent.1
  ipv6Payload ip present := by
    rw [present] at coherent
    exact coherent.1

theorem new_layers_empty (linkType : LinkType) (packetMeta : Option PacketMeta) :
    (ParsedPacket.new linkType packetMeta).LayersEmpty := ⟨rfl, rfl, rfl⟩

structure ParsedPacket.Fresh (pkt : ParsedPacket) : Prop where
  empty : pkt.LayersEmpty
  ethernet : pkt.ethernet = none
  wifiHeader : pkt.wifiHeader = none
  wifiMgmt : pkt.wifiMgmt = none

theorem malformed_coherent (data : Bytes) (pkt : ParsedPacket) (fresh : pkt.Fresh) :
    LayerCoherent data pkt.markMalformed :=
  layer_coherent data _ (layers_empty_coherent data pkt fresh.empty) (.inl fresh.ethernet) (.inl fresh.wifiMgmt)

theorem wifi_coherent (inner data : Bytes) (pkt : ParsedPacket) (fits : inner.length ≤ isizeMax)
    (inside : inner <:+: data) (fresh : pkt.Fresh) :
    Safe (parse80211Frame inner pkt) (LayerCoherent data) := by
  refine safe_mono (frame_80211_safe inner pkt fits fresh.empty) ?_
  rintro result ⟨coherent, sameEthernet, mgmt⟩
  refine layer_coherent data result (network_coherent_within inner data _ _ _ inside coherent)
    (.inl (sameEthernet.trans fresh.ethernet)) ?_
  exact mgmt.imp_left (fun same => same.trans fresh.wifiMgmt)

theorem ethernet_coherent (data : Bytes) (pkt : ParsedPacket) (fits : data.length ≤ isizeMax)
    (fresh : pkt.Fresh) : Safe (parseEthernetFrame data pkt) (LayerCoherent data) := by
  refine safe_mono (ethernet_frame_safe data pkt fits fresh.empty) ?_
  rintro result ⟨coherent, sameHeader, sameMgmt⟩
  exact layer_coherent data result coherent (.inr (sameHeader.trans fresh.wifiHeader))
    (.inl (sameMgmt.trans fresh.wifiMgmt))

theorem radiotap_packet_rule (data : Bytes) (pkt : ParsedPacket) (fits : data.length ≤ isizeMax)
    (post : ParsedPacket → Prop) (malformed : post pkt.markMalformed)
    (bare : ∀ signal channel, post { pkt with signalDbm := signal, channel := channel }.markMalformed)
    (framed : ∀ signal channel frame, frame <:+: data →
      Safe (parse80211Frame frame { pkt with signalDbm := signal, channel := channel }) post) :
    Safe (parseRadiotapPacket data pkt) post := by
  rw [parseRadiotapPacket]
  refine safe_bind (radiotap_safe data fits) ?_
  intro parsed _
  cases parsed with
  | none => exact safe_ok malformed
  | some info =>
      dsimp only
      split
      · rw [slice_from_ok (by omega), ok_bind]
        exact framed _ _ _ (drop_contiguous data _)
      · exact safe_ok (bare _ _)

theorem radiotap_coherent (data : Bytes) (pkt : ParsedPacket) (fits : data.length ≤ isizeMax)
    (fresh : pkt.Fresh) : Safe (parseRadiotapPacket data pkt) (LayerCoherent data) := by
  apply radiotap_packet_rule data pkt fits _ (malformed_coherent data pkt fresh)
  · intro signal channel
    exact malformed_coherent data _ ⟨fresh.empty, fresh.ethernet, fresh.wifiHeader, fresh.wifiMgmt⟩
  · intro signal channel frame inside
    exact wifi_coherent frame data _ (Nat.le_trans inside.length_le fits) inside
      ⟨fresh.empty, fresh.ethernet, fresh.wifiHeader, fresh.wifiMgmt⟩

-- What holds of a malformed packet and of every result of the link parsers holds
-- of every result of parse_packet.
theorem packet_rule (data : Bytes) (defaultLink : LinkType) (packetMeta : Option PacketMeta)
    (post : ParsedPacket → Prop) (malformed : ∀ link, post (ParsedPacket.new link packetMeta).markMalformed)
    (radiotap : ∀ link, Safe (parseRadiotapPacket data (ParsedPacket.new link packetMeta)) post)
    (wifi : ∀ link, Safe (parse80211Frame data (ParsedPacket.new link packetMeta)) post)
    (ethernet : ∀ link, Safe (parseEthernetFrame data (ParsedPacket.new link packetMeta)) post) :
    Safe (parsePacket data defaultLink packetMeta) post := by
  unfold parsePacket
  dsimp only
  split
  · exact safe_ok (malformed _)
  · split
    · exact radiotap _
    · exact wifi _
    · exact ethernet _
    · split
      · simp (disch := omega) only [index_getD, ok_bind]
        split
        · exact radiotap .radiotapWifi
        · split
          · exact ethernet .ethernet
          · exact safe_ok (malformed _)
      · exact safe_ok (malformed _)

theorem packet_safe (data : Bytes) (defaultLink : LinkType) (packetMeta : Option PacketMeta)
    (fits : data.length ≤ isizeMax) :
    Safe (parsePacket data defaultLink packetMeta) (LayerCoherent data) := by
  have fresh : ∀ link, (ParsedPacket.new link packetMeta).Fresh :=
    fun link => ⟨new_layers_empty link packetMeta, rfl, rfl, rfl⟩
  apply packet_rule
  · intro link
    exact malformed_coherent data _ (fresh link)
  · intro link
    exact radiotap_coherent data _ fits (fresh link)
  · intro link
    exact wifi_coherent data data _ fits (List.infix_refl data) (fresh link)
  · intro link
    exact ethernet_coherent data _ fits (fresh link)

-- parse_packet as the total function it is: no run of it panics.
def decodePacket (data : Buffer) (defaultLink : LinkType) (packetMeta : Option PacketMeta) : ParsedPacket :=
  (parsePacket data.bytes defaultLink packetMeta).value
    (safe_terminates (packet_safe data.bytes defaultLink packetMeta data.fits))

theorem decode_packet_eq (data : Buffer) (defaultLink : LinkType) (packetMeta : Option PacketMeta) :
    parsePacket data.bytes defaultLink packetMeta = .ok (decodePacket data defaultLink packetMeta) :=
  eq_ok_value _ _

theorem decoded_layers_coherent (data : Buffer) (defaultLink : LinkType) (packetMeta : Option PacketMeta) :
    LayerCoherent data.bytes (decodePacket data defaultLink packetMeta) := by
  obtain ⟨pkt, parsed, coherent⟩ := packet_safe data.bytes defaultLink packetMeta data.fits
  rw [decode_packet_eq] at parsed
  cases parsed
  exact coherent

end NetworkIds.Parser
