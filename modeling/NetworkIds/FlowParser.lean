import NetworkIds.Parser.Packet

set_option autoImplicit false

namespace NetworkIds.FlowParser

open Checked Endian

-- (src_ip, src_port, dst_ip, dst_port)
abbrev FlowKey := UInt32 × UInt16 × UInt32 × UInt16

inductive FlowParseError where
  | packetTooShort
  | notIpv4
  | unsupportedProtocol (protocol : UInt8)
  | truncatedHeader
deriving DecidableEq, Repr

-- The offset of the IPv4 header: after an Ethernet II header, or zero for a raw
-- packet.
def ipHeaderOffset (data : Bytes) : Checked (Except FlowParseError Nat) := do
  if data.length ≥ 14 then
    if (← index data 12) = 0x08 ∧ (← index data 13) = 0x00 then return .ok 14
    else if (← index data 0) >>> 4 = 4 then return .ok 0
    else return .error .notIpv4
  else if (← index data 0) >>> 4 = 4 then return .ok 0
  else return .error .notIpv4

def parseIpFlow (ipBytes : Bytes) : Checked (Except FlowParseError FlowKey) := do
  if ipBytes.length < 20 then return .error .packetTooShort
  else if (← index ipBytes 0) >>> 4 ≠ 4 then return .error .notIpv4
  else
    let ihl ← mul ((← index ipBytes 0) &&& 0x0F).toNat 4
    if ihl < 20 ∨ ipBytes.length < ihl then return .error .truncatedHeader
    else
      let protocol ← index ipBytes 9
      if protocol ≠ 6 ∧ protocol ≠ 17 then return .error (.unsupportedProtocol protocol)
      else
        let srcIp := u32FromBe (← index ipBytes 12) (← index ipBytes 13) (← index ipBytes 14)
          (← index ipBytes 15)
        let dstIp := u32FromBe (← index ipBytes 16) (← index ipBytes 17) (← index ipBytes 18)
          (← index ipBytes 19)
        let transportBytes ← sliceFrom ipBytes ihl
        if transportBytes.length < 4 then return .error .truncatedHeader
        else
          let srcPort := u16FromBe (← index transportBytes 0) (← index transportBytes 1)
          let dstPort := u16FromBe (← index transportBytes 2) (← index transportBytes 3)
          return .ok (srcIp, srcPort, dstIp, dstPort)

def parseFlowKey (data : Bytes) : Checked (Except FlowParseError FlowKey) := do
  if data.isEmpty then return .error .packetTooShort
  else
    match ← ipHeaderOffset data with
    | .error e => return .error e
    | .ok ipOffset => parseIpFlow (← sliceFrom data ipOffset)

theorem ip_header_offset_safe (data : Bytes) (positive : 0 < data.length) :
    Safe (ipHeaderOffset data) (fun result => ∀ offset, result = .ok offset → offset ≤ data.length) := by
  have early : Safe (if (data.getD 0 0) >>> 4 = 4 then .ok (.ok 0) else .ok (.error .notIpv4))
      (fun result : Except FlowParseError Nat => ∀ offset, result = .ok offset → offset ≤ data.length) := by
    split
    · exact safe_ok (by rintro offset ⟨⟩; omega)
    · exact safe_ok (by rintro offset ⟨⟩)
  rw [ipHeaderOffset]
  by_cases long : data.length ≥ 14
  · simp (disch := omega) only [if_pos long, index_getD, ok_bind]
    split
    · exact safe_ok (by rintro offset ⟨⟩; exact long)
    · exact early
  · simp (disch := omega) only [if_neg long, index_getD, ok_bind]
    exact early

theorem header_read (ipBytes : Bytes) (long : 20 ≤ ipBytes.length) (i : Nat) (inside : i < 20) :
    index ipBytes i = .ok (ipBytes.getD i 0) := index_getD (by omega)

theorem header_len_ok (byte : UInt8) : mul (byte &&& 0x0F).toNat 4 = .ok ((byte &&& 0x0F).toNat * 4) := by
  have bound := (byte &&& 0x0F).toNat_lt
  exact mul_ok (usize_small (by omega))

theorem ip_flow_safe (ipBytes : Bytes) : Safe (parseIpFlow ipBytes) (fun _ => True) := by
  rw [parseIpFlow]
  split
  · exact safe_ok trivial
  · have header := header_read ipBytes (by omega)
    simp (disch := decide) only [header, header_len_ok, ok_bind]
    split
    · exact safe_ok trivial
    · split
      · exact safe_ok trivial
      · split
        · exact safe_ok trivial
        · simp (disch := omega) only [slice_from_ok, ok_bind]
          split
          · exact safe_ok trivial
          · simp (disch := omega) only [index_getD, ok_bind]
            exact safe_ok trivial

theorem flow_key_safe (data : Bytes) : Safe (parseFlowKey data) (fun _ => True) := by
  rw [parseFlowKey]
  split
  · exact safe_ok trivial
  · rename_i notEmpty
    have positive : 0 < data.length := List.length_pos_iff.mpr (by simpa using notEmpty)
    refine safe_bind (ip_header_offset_safe data positive) ?_
    rintro (e | offset) bound
    · exact safe_ok trivial
    · dsimp only
      rw [slice_from_ok (bound offset rfl), ok_bind]
      exact ip_flow_safe _

theorem parsers_never_panic (data : Buffer) (defaultLink : Parser.LinkType)
    (packetMeta : Option Parser.PacketMeta) :
    (∃ pkt, Parser.parsePacket data.bytes defaultLink packetMeta = .ok pkt) ∧
      ∃ result, parseFlowKey data.bytes = .ok result :=
  ⟨safe_terminates (Parser.packet_safe data.bytes defaultLink packetMeta data.fits),
    safe_terminates (flow_key_safe data.bytes)⟩

end NetworkIds.FlowParser
