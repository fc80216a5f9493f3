import NetworkIds.Parser.LinkIndependence

set_option autoImplicit false

namespace NetworkIds.Parser

open Checked Endian

def lengthField (payload : Bytes) (start : Nat) : Nat := (u16FromBe (payload.getD start 0) (payload.getD (start + 1) 0)).toNat

def ownLength (etherType : UInt16) (payload : Bytes) : Option Nat :=
  match etherType with
  | 0x0800 => if 4 ≤ payload.length then some (lengthField payload 2) else none
  | 0x86DD => if 6 ≤ payload.length then some (40 + lengthField payload 4) else none
  | 0x0806 => some 28
  | 0x888E => if 4 ≤ payload.length then some (4 + lengthField payload 2) else none
  | _ => none

theorem own_length_type {etherType : UInt16} {payload : Bytes} {extent : Nat}
    (own : ownLength etherType payload = some extent) : ¬ IsVlanTpid etherType := by
  unfold IsVlanTpid
  rintro (rfl | rfl | rfl)
  · cases own
  · cases own
  · cases own

theorem own_length_filled {etherType : UInt16} {payload : Bytes} {extent : Nat}
    (own : ownLength etherType payload = some extent) (fits : extent ≤ payload.length) : 0 < payload.length := by
  unfold ownLength at own
  split at own
  · have present := (Option.ite_none_right_eq_some.mp own).1
    omega
  · have present := (Option.ite_none_right_eq_some.mp own).1
    omega
  · cases own
    omega
  · have present := (Option.ite_none_right_eq_some.mp own).1
    omega
  · cases own

section Payload

variable (payload trailing : Bytes) (pkt : ParsedPacket)

theorem append_getD (i : Nat) (inside : i < payload.length) : (payload ++ trailing).getD i 0 = payload.getD i 0 :=
  List.getD_append _ _ _ _ inside

-- A packet whose length field is below the header length is malformed, however
-- many bytes were captured.
theorem ipv4_short (data : Bytes)
    (short : data.length < 20 ∨ (data.getD 0 0 &&& 0x0F).toNat * 4 > data.length ∨
      lengthField data 2 < (data.getD 0 0 &&& 0x0F).toNat * 4 ∨ lengthField data 2 < 20) :
    parseIpv4 data pkt = .ok pkt.markMalformed := by
  rw [parseIpv4]
  by_cases long : data.length < 20
  · rw [if_pos long]
    rfl
  · have ihlBound := (data.getD 0 0 &&& 0x0F).toNat_lt
    have room : (data.getD 0 0 &&& 0x0F).toNat * 4 ≤ usizeMax := usize_small (by omega)
    rw [if_neg long]
    simp (disch := omega) only [index_getD, mul_ok, ok_bind]
    split
    · rfl
    · rename_i valid
      obtain ⟨options, read, -⟩ := ipv4_options_safe data ((data.getD 0 0 &&& 0x0F).toNat * 4) (by omega)
      rw [read, ok_bind, if_pos]
      · rfl
      · simp only [lengthField, Nat.reduceAdd] at short
        omega

theorem append_length_field (start : Nat) (inside : start + 1 < payload.length) :
    lengthField (payload ++ trailing) start = lengthField payload start := by
  rw [lengthField, lengthField, append_getD payload trailing start (by omega), append_getD payload trailing _ inside]

theorem ipv4_options_trailing (headerLen : Nat) (inside : headerLen ≤ payload.length) :
    ipv4Options (payload ++ trailing) headerLen = ipv4Options payload headerLen := by
  rw [ipv4Options, ipv4Options, slice_append_left payload trailing inside]

theorem ipv4_trailing (present : 4 ≤ payload.length) (fits : lengthField payload 2 ≤ payload.length) :
    parseIpv4 (payload ++ trailing) pkt = parseIpv4 payload pkt := by
  have total : (payload ++ trailing).length = payload.length + trailing.length := List.length_append
  have field := append_length_field payload trailing 2 (by omega)
  have first := append_getD payload trailing 0 (by omega)
  by_cases whole : 20 ≤ payload.length ∧ (payload.getD 0 0 &&& 0x0F).toNat * 4 ≤ payload.length
  · have ihlBound := (payload.getD 0 0 &&& 0x0F).toNat_lt
    have room : (payload.getD 0 0 &&& 0x0F).toNat * 4 ≤ usizeMax := usize_small (by omega)
    rw [parseIpv4, parseIpv4, if_neg (by omega), if_neg (by omega)]
    simp (disch := omega) only [index_append_left]
    simp (disch := omega) only [index_getD, mul_ok, ok_bind]
    have stop : min (payload ++ trailing).length (u16FromBe (payload.getD 2 0) (payload.getD 3 0)).toNat =
        min payload.length (u16FromBe (payload.getD 2 0) (payload.getD 3 0)).toNat := by
      simp only [lengthField, Nat.reduceAdd] at fits
      omega
    rw [ipv4_options_trailing payload trailing _ whole.2, stop, slice_append_left payload trailing (Nat.min_le_left _ _)]
    have roomHere : ¬ (payload.getD 0 0 &&& 0x0F).toNat * 4 > payload.length := by omega
    have roomThere : ¬ (payload.getD 0 0 &&& 0x0F).toNat * 4 > (payload ++ trailing).length := by omega
    simp only [roomHere, roomThere, or_false]
  · rw [ipv4_short pkt (payload ++ trailing) (by rw [field, first]; omega),
      ipv4_short pkt payload (by omega)]

theorem extension_loop_trailing (endOffset fuel : Nat) (walk : ExtensionWalk) (inside : endOffset ≤ payload.length) :
    extensionLoop (payload ++ trailing) endOffset fuel walk = extensionLoop payload endOffset fuel walk := by
  induction fuel generalizing walk with
  | zero => rfl
  | succ fuel ih =>
      rw [extensionLoop, extensionLoop]
      refine ite_congr rfl (fun _ => ?_) fun _ => rfl
      by_cases room : walk.off + 2 ≤ usizeMax
      · rw [add_ok room, ok_bind, ok_bind]
        refine ite_congr rfl (fun _ => rfl) fun fields => ?_
        rw [index_append_left payload trailing (by omega), index_add_append_left payload trailing (by omega)]
        refine bind_congr fun extNext => bind_congr fun units => bind_congr fun count => bind_congr fun extLen =>
          bind_congr fun extEnd => ?_
        refine ite_congr rfl (fun _ => rfl) fun whole => ?_
        rw [slice_append_left payload trailing (by omega)]
        exact bind_congr fun bytes => ih _
      · rw [add, if_neg room, error_bind, error_bind]

theorem ipv6_trailing (fits : 40 + lengthField payload 4 ≤ payload.length) :
    parseIpv6 (payload ++ trailing) pkt = parseIpv6 payload pkt := by
  have total : (payload ++ trailing).length = payload.length + trailing.length := List.length_append
  simp only [lengthField, Nat.reduceAdd] at fits
  have stop : min (payload ++ trailing).length (40 + (u16FromBe (payload.getD 4 0) (payload.getD 5 0)).toNat) =
      min payload.length (40 + (u16FromBe (payload.getD 4 0) (payload.getD 5 0)).toNat) := by omega
  have field := (u16FromBe (payload.getD 4 0) (payload.getD 5 0)).toNat_lt
  have room : 40 + (u16FromBe (payload.getD 4 0) (payload.getD 5 0)).toNat ≤ usizeMax := usize_small (by omega)
  rw [parseIpv6, parseIpv6, if_neg (by omega), if_neg (by omega)]
  simp (disch := omega) only [index_append_left, slice_append_left]
  simp (disch := omega) only [index_getD, add_ok, ok_bind]
  rw [stop, extension_loop_trailing payload trailing _ _ _ (Nat.min_le_left _ _)]
  simp (disch := omega) only [slice_append_left payload trailing (Nat.min_le_left payload.length _)]

theorem arp_trailing (fits : 28 ≤ payload.length) : parseArp (payload ++ trailing) pkt = parseArp payload pkt := by
  have total : (payload ++ trailing).length = payload.length + trailing.length := List.length_append
  rw [parseArp, parseArp, if_neg (by omega), if_neg (by omega)]
  simp (disch := omega) only [index_append_left, slice_append_left]

theorem eapol_trailing (fits : 4 + lengthField payload 2 ≤ payload.length) :
    parseEapol (payload ++ trailing) pkt = parseEapol payload pkt := by
  have total : (payload ++ trailing).length = payload.length + trailing.length := List.length_append
  simp only [lengthField, Nat.reduceAdd] at fits
  rw [parseEapol, parseEapol, if_neg (by omega), if_neg (by omega)]
  simp (disch := omega) only [index_append_left]
  have field := (u16FromBe (payload.getD 2 0) (payload.getD 3 0)).toNat_lt
  have room : 4 + (u16FromBe (payload.getD 2 0) (payload.getD 3 0)).toNat ≤ usizeMax := usize_small (by omega)
  have here : ¬ 4 + (u16FromBe (payload.getD 2 0) (payload.getD 3 0)).toNat > payload.length := by omega
  have there : ¬ 4 + (u16FromBe (payload.getD 2 0) (payload.getD 3 0)).toNat > (payload ++ trailing).length := by omega
  simp (disch := omega) only [index_getD, add_ok, ok_bind, if_neg here, if_neg there, slice_append_left payload trailing fits]

theorem ethernet_payload_trailing (etherType : UInt16) (extent : Nat) (own : ownLength etherType payload = some extent)
    (fits : extent ≤ payload.length) :
    parseEthernetPayload etherType (payload ++ trailing) pkt = parseEthernetPayload etherType payload pkt := by
  unfold ownLength at own
  split at own
  · obtain ⟨present, length⟩ := Option.ite_none_right_eq_some.mp own
    cases length
    exact ipv4_trailing payload trailing pkt present fits
  · obtain ⟨-, length⟩ := Option.ite_none_right_eq_some.mp own
    cases length
    exact ipv6_trailing payload trailing pkt fits
  · cases own
    exact arp_trailing payload trailing pkt fits
  · obtain ⟨-, length⟩ := Option.ite_none_right_eq_some.mp own
    cases length
    exact eapol_trailing payload trailing pkt fits
  · cases own

end Payload

section Tags

variable (data trailing : Bytes) (state : VlanState)

-- A tag that is there is read in the same way; a tag that is cut short leaves
-- its own number as the EtherType.
theorem outer_tag_trailing (room : state.offset + 4 ≤ usizeMax) :
    stripOuterTag (data ++ trailing) state = stripOuterTag data state ∨
      (state.ethType = 0x88A8 ∨ state.ethType = 0x9100) ∧ stripOuterTag data state = .ok state := by
  have total : (data ++ trailing).length = data.length + trailing.length := List.length_append
  rw [stripOuterTag, stripOuterTag, add_ok room, ok_bind, ok_bind]
  by_cases tagged : state.ethType = 0x88A8 ∨ state.ethType = 0x9100
  · by_cases whole : data.length ≥ state.offset + 4
    · left
      rw [if_pos ⟨tagged, by omega⟩, if_pos ⟨tagged, whole⟩]
      simp (disch := omega) only [index_append_left, index_add_append_left]
    · right
      exact ⟨tagged, if_neg fun both => whole both.2⟩
  · left
    rw [if_neg fun both => tagged both.1, if_neg fun both => tagged both.1]

theorem inner_tag_trailing (room : state.offset + 4 ≤ usizeMax) :
    stripInnerTag (data ++ trailing) state = stripInnerTag data state ∨
      state.ethType = 0x8100 ∧ stripInnerTag data state = .ok state := by
  have total : (data ++ trailing).length = data.length + trailing.length := List.length_append
  rw [stripInnerTag, stripInnerTag, add_ok room, ok_bind, ok_bind]
  by_cases tagged : state.ethType = 0x8100
  · by_cases whole : data.length ≥ state.offset + 4
    · left
      rw [if_pos ⟨tagged, by omega⟩, if_pos ⟨tagged, whole⟩]
      simp (disch := omega) only [index_append_left, index_add_append_left]
    · right
      exact ⟨tagged, if_neg fun both => whole both.2⟩
  · left
    rw [if_neg fun both => tagged both.1, if_neg fun both => tagged both.1]

theorem stripped_tags_trailing (tags : VlanState) (long : 14 ≤ data.length) (fits : data.length ≤ isizeMax)
    (stripped : StrippedTags data tags) (untagged : ¬ IsVlanTpid tags.ethType) : StrippedTags (data ++ trailing) tags := by
  obtain ⟨outer, strippedOuter, strippedInner⟩ := stripped
  have early := safe_result (outer_tag_safe data _ fits (by dsimp only; omega)) strippedOuter
  dsimp only at early
  have room : outer.offset + 4 ≤ usizeMax := usize_small (by omega)
  refine ⟨outer, ?_, ?_⟩
  · rw [append_getD data trailing 12 (by omega), append_getD data trailing 13 (by omega)]
    obtain same | ⟨tagged, kept⟩ := outer_tag_trailing data trailing
      ⟨u16FromBe (data.getD 12 0) (data.getD 13 0), 14, none, none, none, none, none⟩ (usize_small (by dsimp only; omega))
    · rw [same]
      exact strippedOuter
    · have outerEq := Except.ok.inj (strippedOuter.symm.trans kept)
      have tpid : outer.ethType = 0x88A8 ∨ outer.ethType = 0x9100 := by
        rw [outerEq]
        exact tagged
      have different : outer.ethType ≠ 0x8100 := by
        rcases tpid with type | type <;> rw [type] <;> decide
      rw [stripInnerTag, add_ok room, ok_bind, if_neg fun both => different both.1] at strippedInner
      cases strippedInner
      exact absurd (.inr tpid) untagged
  · obtain same | ⟨tagged, kept⟩ := inner_tag_trailing data trailing outer room
    · rw [same]
      exact strippedInner
    · rw [strippedInner] at kept
      cases kept
      exact absurd (.inl tagged) untagged

end Tags

def Relinked (info : EthernetInfo) (raw : Bytes) (left right : ParsedPacket) : Prop :=
  right = { left with ethernet := some info, rawPayload := raw }

theorem relinked_kept (info : EthernetInfo) (raw : Bytes) : KeptAbove (Relinked info raw) := by
  constructor
  · rintro left _ rfl
    rfl
  · rintro left _ network rfl
    rfl
  · rintro left _ transport rfl
    rfl
  · rintro left _ app rfl
    rfl

theorem ethernet_frame_trailing (data trailing : Bytes) (pkt result : ParsedPacket) (info : EthernetInfo) (extent : Nat)
    (fits : (data ++ trailing).length ≤ isizeMax) (empty : pkt.LayersEmpty) (noLink : pkt.ethernet = none)
    (noRaw : pkt.rawPayload = []) (parsed : parseEthernetFrame data pkt = .ok result)
    (ethernet : result.ethernet = some info) (own : ownLength info.etherType result.rawPayload = some extent)
    (inside : extent ≤ result.rawPayload.length) :
    parseEthernetFrame (data ++ trailing) pkt = .ok { result with
      ethernet := some { info with frameLength := (data ++ trailing).length }
      rawPayload := result.rawPayload ++ trailing } := by
  have total : (data ++ trailing).length = data.length + trailing.length := List.length_append
  by_cases short : data.length < 14
  · rw [parseEthernetFrame, if_pos short] at parsed
    cases parsed
    rw [ParsedPacket.markMalformed, noLink] at ethernet
    cases ethernet
  · obtain ⟨tags, stripped⟩ := stripped_tags_exist data (by omega)
    obtain ⟨dst, src, dstEq, srcEq, decoded⟩ := ethernet_frame_eq data pkt tags (by omega) stripped
    rw [decoded] at parsed
    by_cases behind : tags.offset < data.length
    · rw [if_pos behind] at parsed
      have size : (data.drop tags.offset).length ≤ isizeMax := by
        rw [List.length_drop]
        omega
      have framed := ethernet_payload_safe tags.ethType (data.drop tags.offset)
        { pkt.withEthernet src dst (tags.ethernetInfo data.length) with rawPayload := data.drop tags.offset } size empty
      obtain ⟨malformed, network, transport, app, rfl, -⟩ := safe_result framed parsed
      cases ethernet
      obtain ⟨otherDst, otherSrc, otherDstEq, otherSrcEq, otherDecoded⟩ := ethernet_frame_eq (data ++ trailing) pkt tags
        (by omega) (stripped_tags_trailing data trailing tags (by omega) (by omega) stripped (own_length_type own))
      have sameDst : otherDst = dst := Subtype.ext (by rw [otherDstEq, dstEq, List.take_append_of_le_length (by omega)])
      have sameSrc : otherSrc = src := Subtype.ext (by rw [otherSrcEq, srcEq, List.take_append_of_le_length (by omega)])
      rw [otherDecoded, sameDst, sameSrc, if_pos (by omega), List.drop_append_of_le_length (by omega),
        ethernet_payload_trailing _ trailing _ tags.ethType extent own inside]
      have relinked := ethernet_payload_kept
        (relinked_kept (tags.ethernetInfo (data ++ trailing).length) (data.drop tags.offset ++ trailing)) (data.drop tags.offset)
        { pkt.withEthernet src dst (tags.ethernetInfo data.length) with rawPayload := data.drop tags.offset } _ rfl tags.ethType
      rw [parsed] at relinked
      obtain ⟨right, rightParsed, rfl⟩ := related_ok_left relinked
      exact rightParsed
    · rw [if_neg behind] at parsed
      cases parsed
      have filled := own_length_filled own inside
      have raw : (pkt.withEthernet src dst (tags.ethernetInfo data.length)).markMalformed.rawPayload = [] := noRaw
      rw [raw] at filled
      exact absurd filled (Nat.lt_irrefl 0)

theorem wifi_no_ethernet (data : Bytes) (pkt result : ParsedPacket) (fits : data.length ≤ isizeMax) (empty : pkt.LayersEmpty)
    (noLink : pkt.ethernet = none) (parsed : parse80211Frame data pkt = .ok result) : result.ethernet = none :=
  (safe_result (frame_80211_safe data pkt fits empty) parsed).2.1.trans noLink

theorem radiotap_no_ethernet (data : Bytes) (pkt result : ParsedPacket) (fits : data.length ≤ isizeMax)
    (empty : pkt.LayersEmpty) (noLink : pkt.ethernet = none) (parsed : parseRadiotapPacket data pkt = .ok result) :
    result.ethernet = none := by
  have kept : Safe (parseRadiotapPacket data pkt) (fun result => result.ethernet = none) := by
    apply radiotap_packet_rule data pkt fits
    · exact noLink
    · exact fun _ _ => noLink
    · intro signal channel frame inside
      refine safe_mono (frame_80211_safe frame _ (Nat.le_trans inside.length_le fits) empty) ?_
      exact fun result framed => framed.2.1.trans noLink
  have decoded := safe_result kept parsed
  exact decoded

-- The packets with an Ethernet header are those that parse_packet takes for
-- Ethernet frames, and it still does when bytes follow.
theorem ethernet_dispatched (data : Bytes) (link : LinkType) (packetMeta : Option PacketMeta) (result : ParsedPacket)
    (info : EthernetInfo) (fits : data.length ≤ isizeMax) (parsed : parsePacket data link packetMeta = .ok result)
    (ethernet : result.ethernet = some info) :
    ∃ taken, parseEthernetFrame data (ParsedPacket.new taken packetMeta) = .ok result ∧
      ∀ trailing, parsePacket (data ++ trailing) link packetMeta =
        parseEthernetFrame (data ++ trailing) (ParsedPacket.new taken packetMeta) := by
  have fresh := fun link => new_layers_empty link packetMeta
  have contradiction : result.ethernet ≠ none := by
    rw [ethernet]
    exact Option.some_ne_none info
  unfold parsePacket at parsed ⊢
  by_cases empty : data.isEmpty = true
  · rw [if_pos empty] at parsed
    cases parsed
    exact absurd rfl contradiction
  · have filled : ∀ trailing, ¬ (data ++ trailing).isEmpty = true := by
      intro trailing
      rw [List.isEmpty_iff] at empty ⊢
      exact fun nothing => empty (List.append_eq_nil_iff.mp nothing).1
    rw [if_neg empty] at parsed
    cases link with
    | radiotapWifi => exact absurd (radiotap_no_ethernet data _ result fits (fresh _) rfl parsed) contradiction
    | wifi80211 => exact absurd (wifi_no_ethernet data _ result fits (fresh _) rfl parsed) contradiction
    | ethernet => exact ⟨.ethernet, parsed, fun trailing => if_neg (filled trailing)⟩
    | unknown =>
        dsimp only at parsed
        by_cases eight : data.length ≥ 8
        · rw [if_pos eight, index_getD (by omega), ok_bind] at parsed
          by_cases zero : data.getD 0 0 = 0
          · rw [if_pos zero] at parsed
            exact absurd (radiotap_no_ethernet data _ result fits (fresh .radiotapWifi) rfl parsed) contradiction
          · rw [if_neg zero] at parsed
            by_cases long : data.length ≥ 14
            · rw [if_pos long] at parsed
              refine ⟨.ethernet, parsed, fun trailing => ?_⟩
              have total : (data ++ trailing).length = data.length + trailing.length := List.length_append
              rw [if_neg (filled trailing)]
              dsimp only
              rw [if_pos (by omega), index_append_left data trailing (by omega), index_getD (by omega), ok_bind, if_neg zero,
                if_pos (by omega)]
              rfl
            · rw [if_neg long] at parsed
              cases parsed
              exact absurd rfl contradiction
        · rw [if_neg eight] at parsed
          cases parsed
          exact absurd rfl contradiction

theorem trailing_bytes_ignored (frame : Buffer) (trailing : Bytes) (link : LinkType) (packetMeta : Option PacketMeta)
    (info : EthernetInfo) (extent : Nat) (fits : (frame.bytes ++ trailing).length ≤ isizeMax)
    (ethernet : (decodePacket frame link packetMeta).ethernet = some info)
    (own : ownLength info.etherType (decodePacket frame link packetMeta).rawPayload = some extent)
    (inside : extent ≤ (decodePacket frame link packetMeta).rawPayload.length) :
    decodePacket ⟨frame.bytes ++ trailing, fits⟩ link packetMeta = { decodePacket frame link packetMeta with
      ethernet := some { info with frameLength := frame.bytes.length + trailing.length }
      rawPayload := (decodePacket frame link packetMeta).rawPayload ++ trailing } := by
  have parsed := decode_packet_eq frame link packetMeta
  have extended := decode_packet_eq ⟨frame.bytes ++ trailing, fits⟩ link packetMeta
  obtain ⟨taken, framed, followed⟩ := ethernet_dispatched frame.bytes link packetMeta _ info frame.fits parsed ethernet
  have same := ethernet_frame_trailing frame.bytes trailing _ _ info extent fits (new_layers_empty taken packetMeta) rfl rfl
    framed ethernet own inside
  rw [followed, same, List.length_append] at extended
  exact (Except.ok.inj extended).symm

def arpFrame : Buffer := ⟨ethernetII (Octets.fill 6 0xff) (Octets.fill 6 2) 0x0806 arpRequest, by decide +kernel⟩

theorem padded_arp_frame :
    decodePacket ⟨arpFrame.bytes ++ List.replicate 18 0, by decide +kernel⟩ .ethernet none =
      { decodePacket arpFrame .ethernet none with
        ethernet := some ⟨0x0806, none, none, none, none, none, 60, none⟩
        rawPayload := arpRequest ++ List.replicate 18 0 } :=
  trailing_bytes_ignored arpFrame (List.replicate 18 0) .ethernet none ⟨0x0806, none, none, none, none, none, 42, none⟩ 28
    (by decide +kernel) (by rfl) (by rfl) (by decide +kernel)

end NetworkIds.Parser
