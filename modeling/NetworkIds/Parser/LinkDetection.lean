import NetworkIds.Parser.UpperLayers
import NetworkIds.Parser.VlanTags

set_option autoImplicit false

namespace NetworkIds.Parser

open Checked

structure DetectedAs (detected wired : ParsedPacket) : Prop where
  link : detected.linkType = .ethernet
  dstMac : detected.dstMac = wired.dstMac
  srcMac : detected.srcMac = wired.srcMac
  ethernet : detected.ethernet = wired.ethernet
  network : detected.network = wired.network
  transport : detected.transport = wired.transport
  app : detected.app = wired.app
  malformed : detected.malformed = wired.malformed

theorem unknown_link_guess (data : Bytes) (packetMeta : Option PacketMeta) (long : 14 ≤ data.length) :
    parsePacket data .unknown packetMeta =
      if data.getD 0 0 = 0 then
        parseRadiotapPacket data (ParsedPacket.new .radiotapWifi packetMeta)
      else parsePacket data .ethernet packetMeta := by
  have filled : ¬ data.isEmpty = true := by
    rw [List.isEmpty_iff_length_eq_zero]
    omega
  rw [parsePacket, parsePacket, if_neg filled, if_neg filled, if_pos (by omega), index_getD (by omega), ok_bind]
  by_cases version : data.getD 0 0 = 0
  · rw [if_pos version, if_pos version]
    rfl
  · rw [if_neg version, if_neg version, if_pos long]
    rfl

theorem ethernet_link_kept (data : Buffer) (packetMeta : Option PacketMeta) (long : 14 ≤ data.bytes.length) :
    (decodePacket data .ethernet packetMeta).linkType = .ethernet := by
  have parsed := decode_packet_eq data .ethernet packetMeta
  have filled : ¬ data.bytes.isEmpty = true := by
    rw [List.isEmpty_iff_length_eq_zero]
    omega
  rw [parsePacket, if_neg filled] at parsed
  have dispatched := ethernet_frame_dispatches data.bytes _ data.fits (new_layers_empty .ethernet packetMeta)
  exact (safe_result dispatched parsed).link

-- The first octet of the destination address decides: radiotap starts with
-- version 0, and every other frame is an Ethernet frame.
theorem link_detected_by_first_octet (data : Buffer) (packetMeta : Option PacketMeta)
    (long : 14 ≤ data.bytes.length) :
    (data.bytes.getD 0 0 ≠ 0 →
      DetectedAs (decodePacket data .unknown packetMeta) (decodePacket data .ethernet packetMeta)) ∧
    (data.bytes.getD 0 0 = 0 → (decodePacket data .unknown packetMeta).linkType = .radiotapWifi) := by
  have parsed := decode_packet_eq data .unknown packetMeta
  rw [unknown_link_guess data.bytes packetMeta long] at parsed
  constructor
  · intro version
    rw [if_neg version, decode_packet_eq] at parsed
    have same := Except.ok.inj parsed
    rw [← same]
    exact ⟨ethernet_link_kept data packetMeta long, rfl, rfl, rfl, rfl, rfl, rfl, rfl⟩
  · intro version
    rw [if_pos version] at parsed
    have dispatched := radiotap_packet_dispatches data.bytes _ data.fits (new_layers_empty .radiotapWifi packetMeta)
    exact (safe_result dispatched parsed).link

def synTo (dstMac : Mac) : Bytes :=
  ethernetII dstMac (Octets.fill 6 2) 0x0800 synPacket

theorem syn_detected :
    DetectedAs (decodePacket ⟨synTo (Octets.fill 6 1), by decide⟩ .unknown none)
      (decodePacket ⟨synTo (Octets.fill 6 1), by decide⟩ .ethernet none) :=
  (link_detected_by_first_octet ⟨synTo (Octets.fill 6 1), by decide⟩ none (by decide)).1 (by decide)

-- The loopback interface and many vendors use addresses that start with zero.
theorem zero_octet_not_detected :
    ¬ ∀ data : Buffer, 14 ≤ data.bytes.length →
      DetectedAs (decodePacket data .unknown none) (decodePacket data .ethernet none) := by
  intro detected
  have link := (detected ⟨synTo (Octets.fill 6 0), by decide⟩ (by decide)).link
  exact absurd link (by decide +kernel)

end NetworkIds.Parser
