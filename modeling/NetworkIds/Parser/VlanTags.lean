import NetworkIds.FlowAgreement
import NetworkIds.Parser.LinkIndependence

set_option autoImplicit false

namespace NetworkIds.Parser

open Checked Endian FlowParser

structure StackedTag where
  tpid : UInt16
  tci : UInt16
  valid : IsVlanTpid tpid

def StackedTag.encode (tag : StackedTag) : Bytes := u16ToBe tag.tpid ++ u16ToBe tag.tci

def taggedFrame (dstMac srcMac : Mac) (tags : List StackedTag) (etherType : UInt16) (payload : Bytes) : Bytes :=
  dstMac.val ++ (srcMac.val ++ (tags.flatMap StackedTag.encode ++ (u16ToBe etherType ++ payload)))

def typeField (etherType : UInt16) : List StackedTag → UInt16
  | [] => etherType
  | tag :: _ => tag.tpid

def behindType (etherType : UInt16) (payload : Bytes) : List StackedTag → Bytes
  | [] => payload
  | tag :: rest => u16ToBe tag.tci ++ (u16ToBe (typeField etherType rest) ++ behindType etherType payload rest)

theorem stack_shape (tags : List StackedTag) (etherType : UInt16) (payload : Bytes) :
    tags.flatMap StackedTag.encode ++ (u16ToBe etherType ++ payload) =
      u16ToBe (typeField etherType tags) ++ behindType etherType payload tags := by
  induction tags with
  | nil => rfl
  | cons tag rest ih =>
      rw [List.flatMap_cons, List.append_assoc, ih, StackedTag.encode, List.append_assoc]
      rfl

def dropOuter : List StackedTag → List StackedTag
  | [] => []
  | tag :: rest => if tag.tpid = 0x88A8 ∨ tag.tpid = 0x9100 then rest else tag :: rest

def dropInner : List StackedTag → List StackedTag
  | [] => []
  | tag :: rest => if tag.tpid = 0x8100 then rest else tag :: rest

structure StandsAt (data : Bytes) (etherType : UInt16) (payload : Bytes) (tags : List StackedTag)
    (ethType : UInt16) (offset : Nat) : Prop where
  type : ethType = typeField etherType tags
  rest : data.drop offset = behindType etherType payload tags

section

variable {data payload : Bytes} {etherType : UInt16}

theorem stands_long {tag : StackedTag} {tags : List StackedTag} {ethType : UInt16} {offset : Nat}
    (stands : StandsAt data etherType payload (tag :: tags) ethType offset) : data.length ≥ offset + 4 := by
  have length := congrArg List.length stands.rest
  rw [List.length_drop, behindType, List.length_append, List.length_append] at length
  simp only [u16ToBe, List.length_cons, List.length_nil] at length
  omega

theorem stands_next {tag : StackedTag} {tags : List StackedTag} {ethType : UInt16} {offset : Nat}
    (stands : StandsAt data etherType payload (tag :: tags) ethType offset) :
    StandsAt data etherType payload tags (etherTypeAt data (offset + 2)) (offset + 4) := by
  have rest := stands.rest
  rw [behindType] at rest
  constructor
  · have high := drop_getD data offset 2
    have low := drop_getD data offset 3
    rw [rest] at high low
    rw [etherTypeAt, ← high, ← low]
    exact u16_round_trip _
  · rw [← List.drop_drop, rest]
    rfl

theorem outer_tag_dropped (tags : List StackedTag) (state : VlanState)
    (fits : data.length ≤ isizeMax) (early : state.offset ≤ 18) (untagged : ¬ IsVlanTpid etherType)
    (stands : StandsAt data etherType payload tags state.ethType state.offset) :
    Safe (stripOuterTag data state) (fun result =>
      StandsAt data etherType payload (dropOuter tags) result.ethType result.offset) := by
  refine safe_mono (outer_tag_step data state fits early) ?_
  intro result moved
  have type := stands.type
  cases tags with
  | nil =>
      rw [if_neg (fun tagged => untagged (.inr (by rw [type] at tagged; exact tagged.1)))] at moved
      obtain ⟨typeEq, offsetEq⟩ := Prod.mk.inj moved
      rw [typeEq, offsetEq]
      exact stands
  | cons tag rest =>
      have long := stands_long stands
      have outer : (state.ethType = 0x88A8 ∨ state.ethType = 0x9100) ↔ (tag.tpid = 0x88A8 ∨ tag.tpid = 0x9100) := by
        rw [type, typeField]
      rw [dropOuter]
      by_cases stripped : tag.tpid = 0x88A8 ∨ tag.tpid = 0x9100
      · rw [if_pos ⟨outer.mpr stripped, long⟩] at moved
        obtain ⟨typeEq, offsetEq⟩ := Prod.mk.inj moved
        rw [if_pos stripped, typeEq, offsetEq]
        exact stands_next stands
      · rw [if_neg (fun both => stripped (outer.mp both.1))] at moved
        obtain ⟨typeEq, offsetEq⟩ := Prod.mk.inj moved
        rw [if_neg stripped, typeEq, offsetEq]
        exact stands

theorem inner_tag_dropped (tags : List StackedTag) (state : VlanState)
    (fits : data.length ≤ isizeMax) (early : state.offset ≤ 18) (untagged : ¬ IsVlanTpid etherType)
    (stands : StandsAt data etherType payload tags state.ethType state.offset) :
    Safe (stripInnerTag data state) (fun result =>
      StandsAt data etherType payload (dropInner tags) result.ethType result.offset) := by
  refine safe_mono (inner_tag_step data state fits early) ?_
  intro result moved
  have type := stands.type
  cases tags with
  | nil =>
      rw [if_neg (fun tagged => untagged (.inl (by rw [type] at tagged; exact tagged.1)))] at moved
      obtain ⟨typeEq, offsetEq⟩ := Prod.mk.inj moved
      rw [typeEq, offsetEq]
      exact stands
  | cons tag rest =>
      have long := stands_long stands
      have inner : state.ethType = 0x8100 ↔ tag.tpid = 0x8100 := by
        rw [type, typeField]
      rw [dropInner]
      by_cases stripped : tag.tpid = 0x8100
      · rw [if_pos ⟨inner.mpr stripped, long⟩] at moved
        obtain ⟨typeEq, offsetEq⟩ := Prod.mk.inj moved
        rw [if_pos stripped, typeEq, offsetEq]
        exact stands_next stands
      · rw [if_neg (fun both => stripped (inner.mp both.1))] at moved
        obtain ⟨typeEq, offsetEq⟩ := Prod.mk.inj moved
        rw [if_neg stripped, typeEq, offsetEq]
        exact stands

theorem stands_first (dstMac srcMac : Mac) (etherType : UInt16) (payload : Bytes) (tags : List StackedTag) :
    let data := taggedFrame dstMac srcMac tags etherType payload
    StandsAt data etherType payload tags (u16FromBe (data.getD 12 0) (data.getD 13 0)) 14 := by
  intro data
  have shape : data = dstMac.val ++ (srcMac.val ++ (u16ToBe (typeField etherType tags) ++
      behindType etherType payload tags)) := by
    rw [← stack_shape]
    rfl
  constructor
  · exact ether_type_read shape
  · have further : data.drop 14 = (data.drop 12).drop 2 := by rw [List.drop_drop]
    rw [further, behind_macs shape]
    rfl

theorem stands_inside {tags : List StackedTag} {ethType : UInt16} {offset : Nat}
    (stands : StandsAt data etherType payload tags ethType offset) (filled : payload ≠ []) : offset < data.length := by
  have some : behindType etherType payload tags ≠ [] := by
    cases tags with
    | nil => exact filled
    | cons tag rest => simp [behindType, u16ToBe]
  rw [← stands.rest] at some
  have present := List.length_pos_iff.mpr some
  rw [List.length_drop] at present
  omega

theorem tagged_frame_length (dstMac srcMac : Mac) (tags : List StackedTag) (etherType : UInt16) (payload : Bytes) :
    (taggedFrame dstMac srcMac tags etherType payload).length =
      (ethernetII dstMac srcMac etherType payload).length + 4 * tags.length := by
  have stack := flat_map_length StackedTag.encode 4 (fun _ => rfl) tags
  simp only [taggedFrame, ethernetII, List.length_append, stack]
  omega

theorem payload_frame (ethType : UInt16) (payload : Bytes) (pkt : ParsedPacket) (fits : payload.length ≤ isizeMax)
    (empty : pkt.LayersEmpty) :
    Safe (parseEthernetPayload ethType payload pkt) (fun result =>
      parseEthernetPayload ethType payload pkt = .ok result ∧ result.ethernet = pkt.ethernet) := by
  obtain ⟨result, parsed, malformed, network, transport, app, same, -⟩ :=
    ethernet_payload_safe ethType payload pkt fits empty
  exact ⟨result, parsed, parsed, by rw [same]⟩

def leftover (tags : List StackedTag) : List StackedTag := dropInner (dropOuter tags)

-- The frame is decoded as one whose type field stands in front of the leftover
-- tags: the untagged frame when none is left.
theorem tagged_frame_decodes (dstMac srcMac : Mac) (tags : List StackedTag) (etherType : UInt16) (payload : Bytes)
    (pkt : ParsedPacket) (untagged : ¬ IsVlanTpid etherType) (filled : payload ≠ []) (empty : pkt.LayersEmpty)
    (fits : (taggedFrame dstMac srcMac tags etherType payload).length ≤ isizeMax) :
    Safe (parseEthernetFrame (taggedFrame dstMac srcMac tags etherType payload) pkt) (fun result =>
      result.ethernet.map EthernetInfo.etherType = some (typeField etherType (leftover tags)) ∧
      (leftover tags = [] → Related SameUpper (.ok result) (parseEthernetPayload etherType payload pkt))) := by
  have first := stands_first dstMac srcMac etherType payload tags
  have start := stands_inside first filled
  generalize taggedFrame dstMac srcMac tags etherType payload = data at fits first start
  obtain ⟨outer, strippedOuter, behindOuter⟩ := outer_tag_dropped tags
    ⟨u16FromBe (data.getD 12 0) (data.getD 13 0), 14, none, none, none, none, none⟩ fits (by dsimp only; omega)
    untagged first
  have early := safe_result (outer_tag_safe data _ fits (by dsimp only; omega)) strippedOuter
  obtain ⟨inner, strippedInner, behindInner⟩ := inner_tag_dropped (dropOuter tags) outer fits
    (by dsimp only at early; omega) untagged behindOuter
  have inside := stands_inside behindInner filled
  obtain ⟨dst, src, -, -, decoded⟩ :=
    ethernet_frame_eq data pkt inner (by omega) ⟨outer, strippedOuter, strippedInner⟩
  rw [decoded, if_pos inside]
  have small : (data.drop inner.offset).length ≤ isizeMax := by
    rw [List.length_drop]
    omega
  refine safe_mono (payload_frame inner.ethType (data.drop inner.offset) _ small empty) ?_
  intro result framed
  obtain ⟨parsed, sameEthernet⟩ := framed
  constructor
  · rw [sameEthernet]
    exact congrArg some behindInner.type
  · intro none
    have type : inner.ethType = etherType := by rw [behindInner.type, ← leftover, none, typeField]
    have rest : data.drop inner.offset = payload := by rw [behindInner.rest, ← leftover, none, behindType]
    rw [← parsed, type, rest]
    exact ethernet_payload_related etherType payload _ _ ⟨rfl, rfl, rfl⟩

end

-- The stacks that are stripped whole: one outer tag at most, then one inner
-- tag at most.
inductive StrippedWhole : List StackedTag → Prop where
  | untagged : StrippedWhole []
  | single (tag : StackedTag) : StrippedWhole [tag]
  | double (outer inner : StackedTag) (provider : outer.tpid = 0x88A8 ∨ outer.tpid = 0x9100)
      (customer : inner.tpid = 0x8100) : StrippedWhole [outer, inner]

theorem inner_whole_iff (tags : List StackedTag) :
    dropInner tags = [] ↔ tags = [] ∨ ∃ tag : StackedTag, tags = [tag] ∧ tag.tpid = 0x8100 := by
  cases tags with
  | nil => simp [dropInner]
  | cons tag rest =>
      rw [dropInner]
      by_cases inner : tag.tpid = 0x8100
      · rw [if_pos inner]
        simp [inner]
      · rw [if_neg inner]
        simp [inner]

theorem leftover_nil_iff (tags : List StackedTag) : leftover tags = [] ↔ StrippedWhole tags := by
  rw [leftover, inner_whole_iff]
  cases tags with
  | nil => exact ⟨fun _ => .untagged, fun _ => .inl rfl⟩
  | cons tag rest =>
      rw [dropOuter]
      by_cases outer : tag.tpid = 0x88A8 ∨ tag.tpid = 0x9100
      · rw [if_pos outer]
        constructor
        · intro none
          rcases none with rfl | ⟨inner, rfl, customer⟩
          · exact .single tag
          · exact .double tag inner outer customer
        · intro whole
          cases whole with
          | single => exact .inl rfl
          | double _ inner provider customer => exact .inr ⟨inner, rfl, customer⟩
      · have inner : tag.tpid = 0x8100 := tag.valid.resolve_right outer
        rw [if_neg outer]
        constructor
        · intro none
          rcases none with nothing | ⟨only, one, _⟩
          · cases nothing
          · cases one
            exact .single tag
        · intro whole
          cases whole with
          | single => exact .inr ⟨tag, rfl, inner⟩
          | double _ _ provider customer => exact absurd provider outer

def Transparent (tagged plain : ParsedPacket) (etherType : UInt16) : Prop :=
  tagged.ethernet.map EthernetInfo.etherType = some etherType ∧
    tagged.network = plain.network ∧ tagged.transport = plain.transport ∧ tagged.app = plain.app

theorem untagged_fits {dstMac srcMac : Mac} {tags : List StackedTag} {etherType : UInt16} {payload : Bytes}
    (fits : (taggedFrame dstMac srcMac tags etherType payload).length ≤ isizeMax) :
    (ethernetII dstMac srcMac etherType payload).length ≤ isizeMax := by
  rw [tagged_frame_length] at fits
  omega

theorem leftover_type (tags : List StackedTag) (etherType : UInt16) (untagged : ¬ IsVlanTpid etherType) :
    typeField etherType (leftover tags) = etherType ↔ leftover tags = [] := by
  cases leftover tags with
  | nil => exact ⟨fun _ => rfl, fun _ => rfl⟩
  | cons tag rest =>
      constructor
      · intro same
        have tpid : tag.tpid = etherType := same
        exact absurd (tpid ▸ tag.valid) untagged
      · intro nothing
        cases nothing

theorem tags_transparent_iff (dstMac srcMac : Mac) (tags : List StackedTag) (etherType : UInt16) (payload : Bytes)
    (packetMeta : Option PacketMeta) (untagged : ¬ IsVlanTpid etherType) (filled : payload ≠ [])
    (fits : (taggedFrame dstMac srcMac tags etherType payload).length ≤ isizeMax) :
    Transparent (decodePacket ⟨taggedFrame dstMac srcMac tags etherType payload, fits⟩ .ethernet packetMeta)
        (decodePacket ⟨ethernetII dstMac srcMac etherType payload, untagged_fits fits⟩ .ethernet packetMeta)
        etherType ↔
      StrippedWhole tags := by
  have present : ¬ (taggedFrame dstMac srcMac tags etherType payload).isEmpty = true := by
    rw [List.isEmpty_iff_length_eq_zero, taggedFrame, List.length_append, dstMac.property]
    omega
  have taggedParsed := decode_packet_eq ⟨taggedFrame dstMac srcMac tags etherType payload, fits⟩ .ethernet packetMeta
  have plainParsed :=
    decode_packet_eq ⟨ethernetII dstMac srcMac etherType payload, untagged_fits fits⟩ .ethernet packetMeta
  have plain := ethernet_ii_packet_decodes dstMac srcMac etherType payload packetMeta untagged
  have decoded := tagged_frame_decodes dstMac srcMac tags etherType payload
    (ParsedPacket.new .ethernet packetMeta) untagged filled (new_layers_empty .ethernet packetMeta) fits
  rw [parsePacket, if_neg present] at taggedParsed
  obtain ⟨type, layers⟩ := safe_result decoded taggedParsed
  rw [← leftover_nil_iff, ← leftover_type tags etherType untagged]
  constructor
  · intro transparent
    have reported := type.symm.trans transparent.1
    exact Option.some.inj reported
  · intro stripped
    have whole := (leftover_type tags etherType untagged).mp stripped
    have same := related_trans same_upper_trans (layers whole) (related_symm same_upper_symm plain)
    have upper := related_result same rfl plainParsed
    exact ⟨by rw [type, stripped], upper⟩

def synPacket : Bytes :=
  [0x45, 0, 0, 40, 0, 0, 0, 0, 64, 6, 0, 0, 192, 168, 0, 1, 192, 168, 0, 2,
    0x30, 0x39, 0, 80, 0, 0, 0, 1, 0, 0, 0, 0, 0x50, 2, 0, 0, 0, 0, 0, 0]

def customerTag : StackedTag := ⟨0x8100, 5, .inl rfl⟩

def providerTag : StackedTag := ⟨0x88A8, 7, .inr (.inl rfl)⟩

theorem provider_and_customer_tag_transparent :
    Transparent (decodePacket ⟨taggedFrame (Octets.fill 6 1) (Octets.fill 6 2) [providerTag, customerTag] 0x0800
        synPacket, by decide⟩ .ethernet none)
      (decodePacket ⟨ethernetII (Octets.fill 6 1) (Octets.fill 6 2) 0x0800 synPacket, by decide⟩ .ethernet none)
      0x0800 :=
  (tags_transparent_iff (Octets.fill 6 1) (Octets.fill 6 2) [providerTag, customerTag] 0x0800 synPacket none
    (by unfold IsVlanTpid; decide) (by decide) (by decide)).mpr (.double _ _ (.inl rfl) rfl)

-- Two 802.1Q tags: the second one is reported as the type, and no IP packet is
-- looked for.
theorem stacked_customer_tags_not_transparent :
    ¬ ∀ (dstMac srcMac : Mac) (tags : List StackedTag) (etherType : UInt16) (payload : Bytes)
      (packetMeta : Option PacketMeta), ¬ IsVlanTpid etherType → payload ≠ [] →
      ∀ fits : (taggedFrame dstMac srcMac tags etherType payload).length ≤ isizeMax,
      Transparent (decodePacket ⟨taggedFrame dstMac srcMac tags etherType payload, fits⟩ .ethernet packetMeta)
        (decodePacket ⟨ethernetII dstMac srcMac etherType payload, untagged_fits fits⟩ .ethernet packetMeta)
        etherType := by
  intro transparent
  obtain ⟨type, -⟩ := transparent (Octets.fill 6 1) (Octets.fill 6 2) [customerTag, customerTag] 0x0800 synPacket none
    (by unfold IsVlanTpid; decide) (by decide) (by decide)
  exact absurd type (by decide +kernel)

end NetworkIds.Parser
