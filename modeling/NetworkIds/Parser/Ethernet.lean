import NetworkIds.Parser.Eapol
import NetworkIds.Parser.Network

set_option autoImplicit false

namespace NetworkIds.Parser

open Checked Endian

def parseEthernetPayload (ethType : UInt16) (payload : Bytes) (pkt : ParsedPacket) :
    Checked ParsedPacket :=
  match ethType with
  | 0x0800 => parseIpv4 payload pkt
  | 0x86DD => parseIpv6 payload pkt
  | 0x0806 => parseArp payload pkt
  | 0x888E => parseEapol payload pkt
  | _ => return pkt

-- The tag fields and the position of the EtherType payload while the tags are
-- stripped: first at most one outer tag, then at most one inner tag.
structure VlanState where
  ethType : UInt16
  offset : Nat
  outerVlanId : Option UInt16
  outerPcp : Option UInt8
  vlanId : Option UInt16
  pcp : Option UInt8
  dei : Option Bool

def stripOuterTag (data : Bytes) (state : VlanState) : Checked VlanState := do
  if (state.ethType = 0x88A8 ∨ state.ethType = 0x9100) ∧ data.length ≥ (← add state.offset 4) then
    let tci := u16FromBe (← index data state.offset) (← indexAdd data state.offset 1)
    let ethType := u16FromBe (← indexAdd data state.offset 2) (← indexAdd data state.offset 3)
    return { state with
      outerPcp := some (tci >>> 13).toUInt8
      outerVlanId := some (tci &&& 0x0FFF)
      ethType := ethType
      offset := ← add state.offset 4 }
  else return state

def stripInnerTag (data : Bytes) (state : VlanState) : Checked VlanState := do
  if state.ethType = 0x8100 ∧ data.length ≥ (← add state.offset 4) then
    let tci := u16FromBe (← index data state.offset) (← indexAdd data state.offset 1)
    let ethType := u16FromBe (← indexAdd data state.offset 2) (← indexAdd data state.offset 3)
    return { state with
      pcp := some (tci >>> 13).toUInt8
      dei := some ((tci >>> 12) &&& 0x01 != 0)
      vlanId := some (tci &&& 0x0FFF)
      ethType := ethType
      offset := ← add state.offset 4 }
  else return state

def parseEthernetFrame (data : Bytes) (pkt : ParsedPacket) : Checked ParsedPacket := do
  if data.length < 14 then return pkt.markMalformed
  else
    let dstMac ← copyMac (← slice data 0 6)
    let srcMac ← copyMac (← slice data 6 12)
    let ethType := u16FromBe (← index data 12) (← index data 13)
    let outer ← stripOuterTag data ⟨ethType, 14, none, none, none, none, none⟩
    let tags ← stripInnerTag data outer
    let pkt := { pkt with
      dstMac := dstMac
      srcMac := srcMac
      ethernet := some {
        etherType := tags.ethType
        vlanId := tags.vlanId
        pcp := tags.pcp
        dei := tags.dei
        outerVlanId := tags.outerVlanId
        outerPcp := tags.outerPcp
        frameLength := data.length
        fcs := none } }
    if tags.offset < data.length then
      let payload ← sliceFrom data tags.offset
      parseEthernetPayload tags.ethType payload { pkt with rawPayload := payload }
    else return pkt.markMalformed

theorem ethernet_payload_safe (ethType : UInt16) (payload : Bytes) (pkt : ParsedPacket)
    (fits : payload.length ≤ isizeMax) (empty : pkt.LayersEmpty) :
    Safe (parseEthernetPayload ethType payload pkt) (NetworkResult payload pkt) := by
  unfold parseEthernetPayload
  split
  · exact ipv4_safe payload pkt fits empty
  · exact ipv6_safe payload pkt fits empty
  · exact arp_safe payload pkt empty
  · refine safe_mono (eapol_safe payload pkt) ?_
    rintro result (rfl | rfl | ⟨info, rfl⟩)
    · exact network_result_unchanged payload result empty
    · exact network_result_malformed payload pkt empty
    · obtain ⟨noNetwork, noTransport, -⟩ := empty
      refine ⟨pkt.malformed, .none, .none, .eapol info, ?_, rfl, .inr ⟨info, rfl⟩⟩
      rw [← noNetwork, ← noTransport]
  · exact safe_ok (network_result_unchanged payload pkt empty)

theorem outer_tag_safe (data : Bytes) (state : VlanState) (fits : data.length ≤ isizeMax)
    (early : state.offset ≤ 18) : Safe (stripOuterTag data state) (fun result =>
      result.offset ≤ state.offset + 4) := by
  have room : state.offset + 4 ≤ usizeMax := usize_small (by omega)
  rw [stripOuterTag]
  simp (disch := omega) only [add_ok, ok_bind]
  split
  · simp (disch := omega) only [index_getD, index_add_getD, ok_bind]
    exact safe_ok (Nat.le_refl _)
  · exact safe_ok (by omega)

theorem inner_tag_safe (data : Bytes) (state : VlanState) (fits : data.length ≤ isizeMax)
    (early : state.offset ≤ 18) : Safe (stripInnerTag data state) (fun _ => True) := by
  have room : state.offset + 4 ≤ usizeMax := usize_small (by omega)
  rw [stripInnerTag]
  simp (disch := omega) only [add_ok, ok_bind]
  split
  · simp (disch := omega) only [index_getD, index_add_getD, ok_bind]
    exact safe_ok trivial
  · exact safe_ok trivial

def ParsedPacket.withEthernet (pkt : ParsedPacket) (src dst : Mac) (info : EthernetInfo) : ParsedPacket :=
  { pkt with dstMac := dst, srcMac := src, ethernet := some info }

def StrippedTags (data : Bytes) (tags : VlanState) : Prop :=
  ∃ outer, stripOuterTag data ⟨u16FromBe (data.getD 12 0) (data.getD 13 0), 14, none, none, none, none, none⟩ =
    .ok outer ∧ stripInnerTag data outer = .ok tags

def VlanState.ethernetInfo (tags : VlanState) (frameLength : Nat) : EthernetInfo where
  etherType := tags.ethType
  vlanId := tags.vlanId
  pcp := tags.pcp
  dei := tags.dei
  outerVlanId := tags.outerVlanId
  outerPcp := tags.outerPcp
  frameLength := frameLength
  fcs := none

theorem stripped_tags_exist (data : Bytes) (fits : data.length ≤ isizeMax) : ∃ tags, StrippedTags data tags := by
  obtain ⟨outer, strippedOuter, early⟩ := outer_tag_safe data
    ⟨u16FromBe (data.getD 12 0) (data.getD 13 0), 14, none, none, none, none, none⟩ fits (by dsimp only; omega)
  obtain ⟨tags, strippedInner, -⟩ := inner_tag_safe data outer fits (by dsimp only at early; omega)
  exact ⟨tags, outer, strippedOuter, strippedInner⟩

theorem ethernet_frame_eq (data : Bytes) (pkt : ParsedPacket) (tags : VlanState) (long : 14 ≤ data.length)
    (stripped : StrippedTags data tags) :
    ∃ dst src : Mac, dst.val = data.take 6 ∧ src.val = (data.take 12).drop 6 ∧
      parseEthernetFrame data pkt =
        if tags.offset < data.length then
          parseEthernetPayload tags.ethType (data.drop tags.offset)
            { pkt.withEthernet src dst (tags.ethernetInfo data.length) with rawPayload := data.drop tags.offset }
        else .ok (pkt.withEthernet src dst (tags.ethernetInfo data.length)).markMalformed := by
  have read : ∀ start stop, start + 6 = stop → stop ≤ data.length →
      ∃ mac : Mac, mac.val = (data.take stop).drop start ∧ copyMac ((data.take stop).drop start) = .ok mac := by
    intro start stop six inside
    have length := slice_length data start stop inside
    exact ⟨_, List.take_of_length_le (by omega), copy_mac_ok (by omega)⟩
  obtain ⟨dst, dstEq, dstRead⟩ := read 0 6 rfl (by omega)
  obtain ⟨src, srcEq, srcRead⟩ := read 6 12 rfl (by omega)
  obtain ⟨outer, strippedOuter, strippedInner⟩ := stripped
  refine ⟨dst, src, dstEq, srcEq, ?_⟩
  rw [parseEthernetFrame, if_neg (by omega)]
  simp (disch := omega) only [slice_ok, dstRead, srcRead, index_getD, ok_bind]
  rw [strippedOuter, ok_bind, strippedInner, ok_bind]
  by_cases inside : tags.offset < data.length
  · rw [if_pos inside, if_pos inside, slice_from_ok (by omega), ok_bind]
    rfl
  · rw [if_neg inside, if_neg inside]
    rfl

section Written

variable {data rest : Bytes} {dstMac srcMac : Mac} {etherType : UInt16}

theorem behind_macs (shape : data = dstMac.val ++ (srcMac.val ++ (u16ToBe etherType ++ rest))) :
    data.drop 12 = u16ToBe etherType ++ rest := by
  have macs : (dstMac.val ++ srcMac.val).length = 12 := by
    rw [List.length_append, dstMac.property, srcMac.property]
  rw [shape, ← List.append_assoc, ← macs, List.drop_left]

theorem ether_type_read (shape : data = dstMac.val ++ (srcMac.val ++ (u16ToBe etherType ++ rest))) :
    u16FromBe (data.getD 12 0) (data.getD 13 0) = etherType := by
  have high := drop_getD data 12 0
  have low := drop_getD data 12 1
  rw [behind_macs shape] at high low
  rw [← high, ← low]
  exact u16_round_trip etherType

theorem written_frame_eq (pkt : ParsedPacket) (outer tags : VlanState)
    (shape : data = dstMac.val ++ (srcMac.val ++ (u16ToBe etherType ++ rest)))
    (strippedOuter : stripOuterTag data ⟨etherType, 14, none, none, none, none, none⟩ = .ok outer)
    (strippedInner : stripInnerTag data outer = .ok tags) :
    parseEthernetFrame data pkt =
      if tags.offset < data.length then
        parseEthernetPayload tags.ethType (data.drop tags.offset)
          { pkt.withEthernet srcMac dstMac (tags.ethernetInfo data.length) with rawPayload := data.drop tags.offset }
      else .ok (pkt.withEthernet srcMac dstMac (tags.ethernetInfo data.length)).markMalformed := by
  have dstLength := dstMac.property
  have srcLength := srcMac.property
  have long : 14 ≤ data.length := by
    simp only [shape, List.length_append, dstLength, srcLength, u16ToBe, List.length_cons, List.length_nil]
    omega
  rw [← ether_type_read shape] at strippedOuter
  obtain ⟨dst, src, dstEq, srcEq, decoded⟩ := ethernet_frame_eq data pkt tags long ⟨outer, strippedOuter, strippedInner⟩
  have sameDst : dst = dstMac := Subtype.ext (by rw [dstEq, shape, List.take_left' dstLength])
  have sameSrc : src = srcMac :=
    Subtype.ext (by rw [srcEq, List.drop_take, shape, List.drop_left' dstLength, List.take_left' srcLength])
  rw [decoded, sameDst, sameSrc]

end Written

theorem ethernet_frame_rule (data : Bytes) (pkt : ParsedPacket) (fits : data.length ≤ isizeMax)
    (post : ParsedPacket → Prop) (malformed : post pkt.markMalformed)
    (bare : ∀ src dst info, post (pkt.withEthernet src dst info).markMalformed)
    (payload : ∀ src dst info tags, 14 ≤ data.length → StrippedTags data tags →
      Safe (parseEthernetPayload tags.ethType (data.drop tags.offset)
        { pkt.withEthernet src dst info with rawPayload := data.drop tags.offset }) post) :
    Safe (parseEthernetFrame data pkt) post := by
  by_cases short : data.length < 14
  · rw [parseEthernetFrame, if_pos short]
    exact safe_ok malformed
  · obtain ⟨tags, stripped⟩ := stripped_tags_exist data fits
    obtain ⟨dst, src, -, -, decoded⟩ := ethernet_frame_eq data pkt tags (by omega) stripped
    rw [decoded]
    split
    · exact payload _ _ _ tags (by omega) stripped
    · exact safe_ok (bare _ _ _)

-- The frame condition of the Ethernet parser: no 802.11 field is written.
theorem ethernet_frame_safe (data : Bytes) (pkt : ParsedPacket) (fits : data.length ≤ isizeMax)
    (empty : pkt.LayersEmpty) :
    Safe (parseEthernetFrame data pkt) (fun result =>
      NetworkCoherent data result.network result.transport result.app ∧
      result.wifiHeader = pkt.wifiHeader ∧ result.wifiMgmt = pkt.wifiMgmt) := by
  apply ethernet_frame_rule data pkt fits
  · exact ⟨layers_empty_coherent data pkt empty, rfl, rfl⟩
  · intro src dst info
    exact ⟨layers_empty_coherent data pkt empty, rfl, rfl⟩
  · intro src dst info tags _ _
    refine safe_mono (ethernet_payload_safe _ _ _ (by rw [List.length_drop]; omega) empty) ?_
    rintro result ⟨malformed, network, transport, app, rfl, coherent⟩
    exact ⟨network_coherent_within _ data _ _ _ (drop_contiguous data _) coherent, rfl, rfl⟩

end NetworkIds.Parser
