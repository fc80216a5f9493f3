import NetworkIds.Parser.RadiotapLayout

set_option autoImplicit false

namespace NetworkIds.Parser

open Checked Endian Alignment

-- The fields with presence bits 0 to 22, each with its value if it is present.
structure RadiotapValues where
  tsft : Option UInt64
  flags : Option UInt8
  rate : Option UInt8
  -- Frequency and flags.
  channel : Option (UInt16 × UInt16)
  -- Hop set and hop pattern.
  fhss : Option (UInt8 × UInt8)
  dbmSignal : Option Int8
  dbmNoise : Option Int8
  lockQuality : Option UInt16
  txAttenuation : Option UInt16
  dbTxAttenuation : Option UInt16
  dbmTxPower : Option Int8
  antenna : Option UInt8
  dbSignal : Option UInt8
  dbNoise : Option UInt8
  rxFlags : Option UInt16
  txFlags : Option UInt16
  rtsRetries : Option UInt8
  dataRetries : Option UInt8
  xChannel : Option (Octets 8)
  -- Known, flags and index.
  mcs : Option (UInt8 × UInt8 × UInt8)
  ampduStatus : Option (Octets 8)
  vht : Option (Octets 12)
  -- The time, then accuracy, unit and flags.
  timestamp : Option (UInt64 × Octets 4)

namespace RadiotapValues

variable (values : RadiotapValues)

def leadingSlots : List RadiotapSlot := [
  ⟨8, values.tsft.map u64ToLe⟩,
  ⟨1, values.flags.map fun value => [value]⟩,
  ⟨1, values.rate.map fun value => [value]⟩,
  ⟨2, values.channel.map fun value => u16ToLe value.1 ++ u16ToLe value.2⟩]

def fhssBytes : Option Bytes := values.fhss.map fun value => [value.1, value.2]

def trailingSlots : List RadiotapSlot := [
  ⟨1, values.dbmSignal.map fun value => [value.toUInt8]⟩,
  ⟨1, values.dbmNoise.map fun value => [value.toUInt8]⟩,
  ⟨2, values.lockQuality.map u16ToLe⟩,
  ⟨2, values.txAttenuation.map u16ToLe⟩,
  ⟨2, values.dbTxAttenuation.map u16ToLe⟩,
  ⟨1, values.dbmTxPower.map fun value => [value.toUInt8]⟩,
  ⟨1, values.antenna.map fun value => [value]⟩,
  ⟨1, values.dbSignal.map fun value => [value]⟩,
  ⟨1, values.dbNoise.map fun value => [value]⟩,
  ⟨2, values.rxFlags.map u16ToLe⟩,
  ⟨2, values.txFlags.map u16ToLe⟩,
  ⟨1, values.rtsRetries.map fun value => [value]⟩,
  ⟨1, values.dataRetries.map fun value => [value]⟩,
  ⟨4, values.xChannel.map Subtype.val⟩,
  ⟨1, values.mcs.map fun value => [value.1, value.2.1, value.2.2]⟩,
  ⟨4, values.ampduStatus.map Subtype.val⟩,
  ⟨2, values.vht.map Subtype.val⟩,
  ⟨8, values.timestamp.map fun value => u64ToLe value.1 ++ value.2.val⟩]

def slots (fhssAlign : Nat) : List RadiotapSlot :=
  values.leadingSlots ++ ⟨fhssAlign, values.fhssBytes⟩ :: values.trailingSlots

def carries (bit : Nat) : Bool := ((values.slots 2).map fun slot => slot.bytes.isSome).getD bit false

def info (headerLen : Nat) : RadiotapInfo where
  headerLen := headerLen
  dbmAntsignal := values.dbmSignal
  channel := values.channel.map Prod.fst
  channelFlags := values.channel.map Prod.snd
  dataRate := values.rate.map UInt8.toUInt16
  noiseLevel := values.dbmNoise
  txPower := values.dbmTxPower
  rxFlags := values.rxFlags
  antennaIndex := values.antenna
  mcsIndex := values.mcs.map fun value => value.2.2
  bandwidth := values.mcs.map fun value => value.2.1 &&& 0x03
  timestamp := values.timestamp.map Prod.fst

end RadiotapValues

-- Bit 31 of a presence word says that another one follows.
def Chained (word : UInt32) (more : List UInt32) : Prop :=
  match more with
  | [] => word &&& 0x80000000 = 0
  | next :: rest => word &&& 0x80000000 ≠ 0 ∧ Chained next rest

def layOut (padding : Nat → UInt8) (slots : List RadiotapSlot) (off : Nat) : Bytes :=
  match slots with
  | [] => []
  | ⟨_, none⟩ :: rest => layOut padding rest off
  | ⟨align, some bytes⟩ :: rest =>
      (List.range' off (alignUp off align - off)).map padding ++
        (bytes ++ layOut padding rest (alignUp off align + bytes.length))

-- A header by the radiotap rules. FHSS is a 16-bit field and aligned like one,
-- unless the sender packs its two bytes.
structure RadiotapFields where
  values : RadiotapValues
  packedFhss : Bool
  pad : UInt8
  first : UInt32
  more : List UInt32
  padding : Nat → UInt8
  extra : Bytes
  present : ∀ bit, bit < 23 → first.toNat.testBit bit = values.carries bit
  chained : Chained first more

namespace RadiotapFields

variable (header : RadiotapFields)

def fhssAlign : Nat := if header.packedFhss then 1 else 2

def fieldStart : Nat := 8 + 4 * header.more.length

def fieldBytes : Bytes := layOut header.padding (header.values.slots header.fhssAlign) header.fieldStart

def itLen : Nat := header.fieldStart + header.fieldBytes.length + header.extra.length

def encode : Bytes :=
  [0, header.pad] ++ u16ToLe (UInt16.ofNat header.itLen) ++
    ((header.first :: header.more).flatMap u32ToLe ++ (header.fieldBytes ++ header.extra))

end RadiotapFields

structure EncodedRadiotap extends RadiotapFields where
  small : toRadiotapFields.itLen < 2 ^ 16

theorem lay_out_length (padding : Nat → UInt8) (slots : List RadiotapSlot) (off : Nat)
    (aligned : ∀ slot ∈ slots, 0 < slot.align) : off + (layOut padding slots off).length = endOf slots off := by
  induction slots generalizing off with
  | nil => rfl
  | cons slot rest ih =>
      have later := fun off => ih off fun other member => aligned other (List.mem_cons_of_mem _ member)
      obtain ⟨align, _ | bytes⟩ := slot
      · exact later off
      · have up : off ≤ alignUp off align := align_up_ge off (aligned ⟨align, some bytes⟩ List.mem_cons_self)
        rw [layOut, endOf, ← later, List.length_append, List.length_append, List.length_map, List.length_range']
        omega

inductive Extends : Option Bytes → Option Bytes → Prop where
  | none : Extends none none
  | some (bytes rest : Bytes) : Extends (some (bytes ++ rest)) (some bytes)

theorem lay_out_found (padding : Nat → UInt8) (slots : List RadiotapSlot) (before after : Bytes)
    (aligned : ∀ slot ∈ slots, 0 < slot.align) :
    List.Forall₂ Extends
      (foundAt (before ++ (layOut padding slots before.length ++ after)) (place slots before.length))
      (slots.map RadiotapSlot.bytes) := by
  induction slots generalizing before with
  | nil => exact .nil
  | cons slot rest ih =>
      have later := fun before => ih before fun other member => aligned other (List.mem_cons_of_mem _ member)
      obtain ⟨align, _ | bytes⟩ := slot
      · exact .cons .none (later before)
      · have up : before.length ≤ alignUp before.length align :=
          align_up_ge before.length (aligned ⟨align, some bytes⟩ List.mem_cons_self)
        have start : (before ++ (List.range' before.length (alignUp before.length align - before.length)).map padding).length =
            alignUp before.length align := by
          rw [List.length_append, List.length_map, List.length_range']
          omega
        generalize paddedEq : before ++ (List.range' before.length (alignUp before.length align - before.length)).map padding =
          padded at start
        have next : (padded ++ bytes).length = alignUp before.length align + bytes.length := by
          rw [List.length_append, start]
        have shape : before ++ (layOut padding (⟨align, some bytes⟩ :: rest) before.length ++ after) =
            padded ++ (bytes ++ (layOut padding rest (padded ++ bytes).length ++ after)) := by
          rw [layOut, next, ← paddedEq]
          simp only [List.append_assoc]
        have found := later (padded ++ bytes)
        rw [List.append_assoc] at found
        rw [shape, place, ← next]
        refine .cons ?_ found
        dsimp only [Option.map_some]
        rw [← start, List.drop_left]
        exact .some bytes _

theorem slots_aligned (values : RadiotapValues) (fhssAlign : Nat) (positive : 0 < fhssAlign) :
    ∀ slot ∈ values.slots fhssAlign, 0 < slot.align := by
  intro slot member
  simp only [RadiotapValues.slots, RadiotapValues.leadingSlots, RadiotapValues.trailingSlots, List.mem_append,
    List.mem_cons, List.not_mem_nil, or_false] at member
  rcases member with (rfl | rfl | rfl | rfl) | rfl | rfl | rfl | rfl | rfl | rfl | rfl | rfl | rfl | rfl | rfl | rfl |
    rfl | rfl | rfl | rfl | rfl | rfl | rfl
  all_goals first
    | exact positive
    | exact Nat.succ_pos _

theorem mapped_length {α : Type} (value : Option α) (encode : α → Bytes) (size : Nat)
    (sized : ∀ value, (encode value).length = size) : ∀ bytes, value.map encode = some bytes → bytes.length = size := by
  intro bytes found
  obtain ⟨carried, -, rfl⟩ := Option.map_eq_some_iff.mp found
  exact sized carried

-- The table of the code agrees with the rules, but for the alignment of FHSS.
theorem same_fields (values : RadiotapValues) (presence : UInt32)
    (present : ∀ bit, bit < 23 → presence.toNat.testBit bit = values.carries bit) :
    List.Forall₂ (SameField presence) radiotapFields (values.slots 1) := by
  have bits : ∀ bit, bit < 23 → (presence &&& ((1 : UInt32) <<< UInt32.ofNat bit) ≠ 0 ↔ values.carries bit = true) := by
    intro bit small
    rw [← present bit small]
    exact presence_bit presence bit (by omega)
  have octets : ∀ (n : Nat) (value : Octets n), value.val.length = n := fun _ value => value.property
  have timestamp : ∀ value : UInt64 × Octets 4, (u64ToLe value.1 ++ value.2.val).length = 12 := by
    intro value
    rw [List.length_append, value.2.property]
    rfl
  have slot : ∀ {α : Type} (bit : Nat) (field : RadiotapField) (value : Option α) (encode : α → Bytes), bit < 23 →
      field.bit = UInt32.ofNat bit → values.carries bit = (value.map encode).isSome →
      (∀ value, (encode value).length = field.size) → SameField presence field ⟨field.align, value.map encode⟩ := by
    intro α bit field value encode small bitEq carried sized
    refine ⟨rfl, ?_, mapped_length value encode field.size sized⟩
    rw [bitEq, bits bit small, carried]
  refine .cons (slot 0 _ values.tsft _ (by decide) rfl rfl fun _ => rfl) ?_
  refine .cons (slot 1 _ values.flags _ (by decide) rfl rfl fun _ => rfl) ?_
  refine .cons (slot 2 _ values.rate _ (by decide) rfl rfl fun _ => rfl) ?_
  refine .cons (slot 3 _ values.channel _ (by decide) rfl rfl fun _ => rfl) ?_
  refine .cons (slot 4 _ values.fhss _ (by decide) rfl rfl fun _ => rfl) ?_
  refine .cons (slot 5 _ values.dbmSignal _ (by decide) rfl rfl fun _ => rfl) ?_
  refine .cons (slot 6 _ values.dbmNoise _ (by decide) rfl rfl fun _ => rfl) ?_
  refine .cons (slot 7 _ values.lockQuality _ (by decide) rfl rfl fun _ => rfl) ?_
  refine .cons (slot 8 _ values.txAttenuation _ (by decide) rfl rfl fun _ => rfl) ?_
  refine .cons (slot 9 _ values.dbTxAttenuation _ (by decide) rfl rfl fun _ => rfl) ?_
  refine .cons (slot 10 _ values.dbmTxPower _ (by decide) rfl rfl fun _ => rfl) ?_
  refine .cons (slot 11 _ values.antenna _ (by decide) rfl rfl fun _ => rfl) ?_
  refine .cons (slot 12 _ values.dbSignal _ (by decide) rfl rfl fun _ => rfl) ?_
  refine .cons (slot 13 _ values.dbNoise _ (by decide) rfl rfl fun _ => rfl) ?_
  refine .cons (slot 14 _ values.rxFlags _ (by decide) rfl rfl fun _ => rfl) ?_
  refine .cons (slot 15 _ values.txFlags _ (by decide) rfl rfl fun _ => rfl) ?_
  refine .cons (slot 16 _ values.rtsRetries _ (by decide) rfl rfl fun _ => rfl) ?_
  refine .cons (slot 17 _ values.dataRetries _ (by decide) rfl rfl fun _ => rfl) ?_
  refine .cons (slot 18 _ values.xChannel _ (by decide) rfl rfl (octets 8)) ?_
  refine .cons (slot 19 _ values.mcs _ (by decide) rfl rfl fun _ => rfl) ?_
  refine .cons (slot 20 _ values.ampduStatus _ (by decide) rfl rfl (octets 8)) ?_
  refine .cons (slot 21 _ values.vht _ (by decide) rfl rfl (octets 12)) ?_
  exact .cons (slot 22 _ values.timestamp _ (by decide) rfl rfl timestamp) .nil

theorem presence_word_step (word : UInt32) (before rest : Bytes) (headerLen fuel : Nat) (presence : UInt32)
    (inside : before.length + 4 ≤ headerLen) (room : headerLen ≤ usizeMax) :
    presenceLoop (before ++ (u32ToLe word ++ rest)) headerLen (fuel + 1) presence before.length =
      if word &&& 0x80000000 = 0 then .ok (if presence = 0 then word else presence, before.length + 4)
      else presenceLoop (before ++ (u32ToLe word ++ rest)) headerLen fuel (if presence = 0 then word else presence)
        (before.length + 4) := by
  obtain ⟨a, b, c, d, readA, readB, readC, readD, value⟩ := u32_le_read before rest word rfl (by omega)
  rw [presenceLoop, add_ok (by omega), ok_bind, if_neg (by omega), readA, ok_bind, readB, ok_bind, readC, ok_bind, readD,
    ok_bind]
  dsimp only
  rw [value]
  rfl

theorem presence_loop_eq (word : UInt32) (more : List UInt32) (before after : Bytes) (headerLen fuel : Nat)
    (presence : UInt32) (chained : Chained word more) (inside : before.length + 4 * (more.length + 1) ≤ headerLen)
    (room : headerLen ≤ usizeMax) (enough : more.length < fuel) :
    presenceLoop (before ++ ((word :: more).flatMap u32ToLe ++ after)) headerLen fuel presence before.length =
      .ok (if presence = 0 then word else presence, before.length + 4 * (more.length + 1)) := by
  induction more generalizing word before fuel presence with
  | nil =>
      obtain ⟨fuel, rfl⟩ : ∃ rest, fuel = rest + 1 := ⟨fuel - 1, by omega⟩
      have last : word &&& 0x80000000 = 0 := chained
      rw [List.flatMap_cons, List.flatMap_nil, List.append_nil, presence_word_step word before after headerLen fuel
        presence (by simpa using inside) room, if_pos last]
      rfl
  | cons next more ih =>
      obtain ⟨fuel, rfl⟩ : ∃ rest, fuel = rest + 1 := ⟨fuel - 1, by omega⟩
      obtain ⟨another, chained⟩ : word &&& 0x80000000 ≠ 0 ∧ Chained next more := chained
      rw [List.length_cons] at inside enough
      have behind : (before ++ u32ToLe word).length = before.length + 4 := List.length_append
      have shape : before ++ (u32ToLe word ++ ((next :: more).flatMap u32ToLe ++ after)) =
          (before ++ u32ToLe word) ++ ((next :: more).flatMap u32ToLe ++ after) := by rw [List.append_assoc]
      have nonzero : (if presence = 0 then word else presence) ≠ 0 := by
        split
        · rintro rfl
          exact another rfl
        · assumption
      have later := ih next (before ++ u32ToLe word) fuel (if presence = 0 then word else presence) chained
        (by omega) (by omega)
      rw [behind, if_neg nonzero] at later
      rw [List.flatMap_cons, List.append_assoc, presence_word_step word before _ headerLen fuel presence (by omega) room,
        if_neg another, shape, later]
      refine congrArg Except.ok (Prod.ext rfl ?_)
      dsimp only [List.length_cons]
      omega

theorem extends_at {found bytes : List (Option Bytes)} (extended : List.Forall₂ Extends found bytes) (i : Nat) :
    Extends (found.getD i none) (bytes.getD i none) := by
  induction extended generalizing i with
  | nil => exact .none
  | cons own _ ih =>
      cases i with
      | zero => exact own
      | succ i => exact ih i

theorem extends_read {α β : Type} {found : Option Bytes} {value : Option α} {encode : α → Bytes} (read : Bytes → β)
    (back : α → β) (extended : Extends found (value.map encode))
    (reads : ∀ value rest, read (encode value ++ rest) = back value) : found.map read = value.map back := by
  cases value with
  | none =>
      cases extended
      rfl
  | some value =>
      obtain ⟨⟩ | ⟨_, rest⟩ := extended
      exact congrArg some (reads value rest)

theorem leading_u16_le_round_trip (value : UInt16) (rest : Bytes) : leadingU16Le (u16ToLe value ++ rest) = value :=
  u16_round_trip value

theorem timestamp_round_trip (value : UInt64) (rest : Bytes) : timestampIn (u64ToLe value ++ rest) = value := by
  rw [timestampIn, List.take_left' (show (u64ToLe value).length = 8 from rfl), u64_le_round_trip]

theorem leading_found (values : RadiotapValues) (fhssAlign headerLen : Nat) (found : List (Option Bytes))
    (extended : ∀ bit, bit < 4 →
      Extends (found.getD bit none) (((values.slots fhssAlign).map RadiotapSlot.bytes).getD bit none)) :
    (infoFrom headerLen found).dataRate = values.rate.map UInt8.toUInt16 ∧
    (infoFrom headerLen found).channel = values.channel.map Prod.fst ∧
    (infoFrom headerLen found).channelFlags = values.channel.map Prod.snd := by
  have rate : Extends (found.getD 2 none) (values.rate.map fun value => [value]) := extended 2 (by decide)
  have channel : Extends (found.getD 3 none) (values.channel.map fun value => u16ToLe value.1 ++ u16ToLe value.2) :=
    extended 3 (by decide)
  refine ⟨?_, ?_, ?_⟩
  · exact extends_read rateIn UInt8.toUInt16 rate fun _ _ => rfl
  · exact extends_read leadingU16Le Prod.fst channel fun value _ => u16_round_trip value.1
  · exact extends_read channelFlagsIn Prod.snd channel fun value _ => u16_round_trip value.2

theorem info_from_found (values : RadiotapValues) (fhssAlign headerLen : Nat) (found : List (Option Bytes))
    (extended : List.Forall₂ Extends found ((values.slots fhssAlign).map RadiotapSlot.bytes)) :
    infoFrom headerLen found = values.info headerLen := by
  have read : ∀ {α β : Type} (bit : Nat) (value : Option α) (encode : α → Bytes) (read : Bytes → β) (back : α → β),
      ((values.slots fhssAlign).map RadiotapSlot.bytes).getD bit none = value.map encode →
      (∀ value rest, read (encode value ++ rest) = back value) → (found.getD bit none).map read = value.map back := by
    intro α β bit value encode read back own reads
    have here := extends_at extended bit
    rw [own] at here
    exact extends_read read back here reads
  obtain ⟨rate, channel, channelFlags⟩ :=
    leading_found values fhssAlign headerLen found fun bit _ => extends_at extended bit
  apply RadiotapInfo.ext
  · rfl
  · exact (read 5 values.dbmSignal _ dbmIn id rfl fun _ _ => Int8.toInt8_toUInt8 _).trans (Option.map_id_apply)
  · exact channel
  · exact channelFlags
  · exact rate
  · exact (read 6 values.dbmNoise _ dbmIn id rfl fun _ _ => Int8.toInt8_toUInt8 _).trans (Option.map_id_apply)
  · exact (read 10 values.dbmTxPower _ dbmIn id rfl fun _ _ => Int8.toInt8_toUInt8 _).trans (Option.map_id_apply)
  · exact (read 14 values.rxFlags _ leadingU16Le id rfl leading_u16_le_round_trip).trans (Option.map_id_apply)
  · exact (read 11 values.antenna _ antennaIn id rfl fun _ _ => rfl).trans (Option.map_id_apply)
  · exact read 19 values.mcs _ mcsIndexIn (fun value => value.2.2) rfl fun _ _ => rfl
  · exact read 19 values.mcs _ bandwidthIn (fun value => value.2.1 &&& 0x03) rfl fun _ _ => rfl
  · refine read 22 values.timestamp _ timestampIn Prod.fst rfl fun value rest => ?_
    rw [List.append_assoc, timestamp_round_trip]

namespace RadiotapFields

variable (header : RadiotapFields)

def FhssInPlace : Prop :=
  header.packedFhss = true ∨ header.values.fhss = none ∨
    endOf header.values.leadingSlots header.fieldStart % 2 = 0

theorem fhss_align_positive : 0 < header.fhssAlign := by
  unfold fhssAlign
  split
  · decide
  · decide

theorem fhss_in_place_slots (inPlace : header.FhssInPlace) :
    place (header.values.slots 1) header.fieldStart = place (header.values.slots header.fhssAlign) header.fieldStart := by
  rw [RadiotapValues.slots, RadiotapValues.slots, place_append, place_append]
  refine congrArg _ ?_
  obtain packed | absent | even := inPlace
  · rw [fhssAlign, if_pos packed]
  · rw [RadiotapValues.fhssBytes, absent]
    rfl
  · cases header.values.fhssBytes with
    | none => rfl
    | some bytes =>
        have aligned : endOf header.values.leadingSlots header.fieldStart % header.fhssAlign = 0 := by
          unfold fhssAlign
          split
          · exact Nat.mod_one _
          · exact even
        rw [place, place, align_up_one, align_up_aligned header.fhss_align_positive aligned]

theorem slots_end : endOf (header.values.slots 1) header.fieldStart ≤ header.itLen := by
  have laid := lay_out_length header.padding (header.values.slots header.fhssAlign) header.fieldStart
    (slots_aligned _ _ header.fhss_align_positive)
  have padded : endOf (header.values.slots 1) header.fieldStart ≤
      endOf (header.values.slots header.fhssAlign) header.fieldStart := by
    rw [RadiotapValues.slots, RadiotapValues.slots, end_of_append, end_of_append]
    cases header.values.fhssBytes with
    | none => exact Nat.le_refl _
    | some bytes =>
        refine end_of_mono _ _ _ (Nat.add_le_add_right ?_ _)
        rw [align_up_one]
        exact align_up_ge _ header.fhss_align_positive
  unfold itLen fieldBytes
  omega

theorem encode_length : header.encode.length = header.itLen := by
  have lengthBytes : ∀ value, (u16ToLe value).length = 2 := fun _ => rfl
  simp only [encode, itLen, fieldStart, List.length_append, List.length_cons, List.length_nil, lengthBytes,
    flat_map_length u32ToLe 4 fun _ => rfl]
  omega

end RadiotapFields

namespace EncodedRadiotap

variable (header : EncodedRadiotap) (frame : Bytes)

theorem behind_words : header.fieldStart ≤ header.itLen := by
  unfold RadiotapFields.itLen
  omega

theorem it_len_read :
    ∃ low high, index (header.encode ++ frame) 2 = .ok low ∧ index (header.encode ++ frame) 3 = .ok high ∧
      (u16FromLe low high).toNat = header.itLen := by
  have shape : header.encode ++ frame = [0, header.pad] ++ (u16ToLe (UInt16.ofNat header.itLen) ++
      ((header.first :: header.more).flatMap u32ToLe ++ (header.fieldBytes ++ header.extra) ++ frame)) := by
    simp only [RadiotapFields.encode, List.append_assoc]
  obtain ⟨low, high, readLow, readHigh, value⟩ := u16_le_read [0, header.pad]
    ((header.first :: header.more).flatMap u32ToLe ++ (header.fieldBytes ++ header.extra) ++ frame)
    (UInt16.ofNat header.itLen) (show [0, header.pad].length = 2 from rfl) (by decide)
  rw [← shape] at readLow readHigh
  refine ⟨low, high, readLow, readHigh, ?_⟩
  rw [value, UInt16.toNat_ofNat', Nat.mod_eq_of_lt header.small]

theorem presence_words_read :
    presenceLoop (header.encode ++ frame) header.itLen header.itLen 0 4 = .ok (header.first, header.fieldStart) := by
  have small := header.small
  have more := header.behind_words
  have start : header.fieldStart = 4 + 4 * (header.more.length + 1) := by
    unfold RadiotapFields.fieldStart
    omega
  have shape : header.encode ++ frame =
      ([0, header.pad] ++ u16ToLe (UInt16.ofNat header.itLen)) ++
        ((header.first :: header.more).flatMap u32ToLe ++ ((header.fieldBytes ++ header.extra) ++ frame)) := by
    simp only [RadiotapFields.encode, List.append_assoc]
  have words := presence_loop_eq header.first header.more ([0, header.pad] ++ u16ToLe (UInt16.ofNat header.itLen))
    ((header.fieldBytes ++ header.extra) ++ frame) header.itLen header.itLen 0 header.chained
    (show 4 + 4 * (header.more.length + 1) ≤ header.itLen by omega) (usize_small (by omega)) (by omega)
  rw [if_pos rfl, ← shape] at words
  rw [start]
  exact words

-- What parse_radiotap reads of any header: the fields at the places where
-- FHSS would not be aligned.
theorem parse_radiotap_eq (fits : (header.encode ++ frame).length ≤ isizeMax) :
    parseRadiotap (header.encode ++ frame) =
      .ok (some (infoFrom header.itLen
        (foundAt (header.encode ++ frame) (place (header.values.slots 1) header.fieldStart)))) := by
  have more := header.behind_words
  have eight : 8 ≤ header.fieldStart := Nat.le_add_right 8 _
  have total : (header.encode ++ frame).length = header.itLen + frame.length := by
    rw [List.length_append, header.encode_length]
  have versionRead : index (header.encode ++ frame) 0 = .ok 0 := rfl
  obtain ⟨low, high, lowRead, highRead, lengthRead⟩ := header.it_len_read frame
  have walked := walk_fields_eq (header.encode ++ frame) header.itLen header.first radiotapFields (header.values.slots 1)
    (.new header.itLen) header.fieldStart radiotap_fields_read (same_fields header.values header.first header.present) fits
    (by omega) header.slots_end (slots_aligned _ _ Nat.one_pos)
  rw [fold_take_field header.itLen _ (by rw [foundAt, List.length_map, place_length]; rfl)] at walked
  rw [parseRadiotap, if_neg (by omega), versionRead, ok_bind, if_neg (by decide), lowRead, ok_bind, highRead, ok_bind,
    lengthRead, if_neg (by omega), header.presence_words_read frame, ok_bind]
  dsimp only
  rw [walked, ok_bind]
  rfl

def packedBytes (bit : Nat) : Option Bytes :=
  ((place (header.values.slots 1) header.fieldStart).getD bit none).map fun off => (header.encode ++ frame).drop off

structure ReadAlike : Prop where
  signal : (header.packedBytes frame 5).map dbmIn = header.values.dbmSignal
  noise : (header.packedBytes frame 6).map dbmIn = header.values.dbmNoise
  txPower : (header.packedBytes frame 10).map dbmIn = header.values.dbmTxPower
  antenna : (header.packedBytes frame 11).map antennaIn = header.values.antenna
  rxFlags : (header.packedBytes frame 14).map leadingU16Le = header.values.rxFlags
  mcsIndex : (header.packedBytes frame 19).map mcsIndexIn = header.values.mcs.map fun value => value.2.2
  bandwidth : (header.packedBytes frame 19).map bandwidthIn = header.values.mcs.map fun value => value.2.1 &&& 0x03
  timestamp : (header.packedBytes frame 22).map timestampIn = header.values.timestamp.map Prod.fst

theorem found_at_getD (data : Bytes) (places : List (Option Nat)) (bit : Nat) :
    (foundAt data places).getD bit none = (places.getD bit none).map fun off => data.drop off := by
  rw [foundAt, List.getD_eq_getElem?_getD, List.getD_eq_getElem?_getD, List.getElem?_map]
  cases places[bit]? with
  | none => rfl
  | some place => rfl

theorem fields_found :
    List.Forall₂ Extends
      (foundAt (header.encode ++ frame) (place (header.values.slots header.fhssAlign) header.fieldStart))
      ((header.values.slots header.fhssAlign).map RadiotapSlot.bytes) := by
  have start : ([0, header.pad] ++ u16ToLe (UInt16.ofNat header.itLen) ++
      (header.first :: header.more).flatMap u32ToLe).length = header.fieldStart := by
    have lengthBytes : (u16ToLe (UInt16.ofNat header.itLen)).length = 2 := rfl
    simp only [RadiotapFields.fieldStart, List.length_append, List.length_cons, List.length_nil, lengthBytes,
      flat_map_length u32ToLe 4 fun _ => rfl]
    omega
  have shape : header.encode ++ frame = ([0, header.pad] ++ u16ToLe (UInt16.ofNat header.itLen) ++
      (header.first :: header.more).flatMap u32ToLe) ++ (layOut header.padding (header.values.slots header.fhssAlign)
        header.fieldStart ++ (header.extra ++ frame)) := by
    simp only [RadiotapFields.encode, RadiotapFields.fieldBytes, List.append_assoc]
  rw [shape, ← start]
  exact lay_out_found header.padding (header.values.slots header.fhssAlign) _ (header.extra ++ frame)
    (slots_aligned header.values _ header.fhss_align_positive)

theorem leading_places (bit : Nat) (leading : bit < 4) :
    (place (header.values.slots 1) header.fieldStart).getD bit none =
      (place (header.values.slots header.fhssAlign) header.fieldStart).getD bit none := by
  have length : bit < (place header.values.leadingSlots header.fieldStart).length := by
    rw [place_length]
    exact leading
  rw [RadiotapValues.slots, RadiotapValues.slots, place_append, place_append, List.getD_append _ _ _ _ length,
    List.getD_append _ _ _ _ length]

theorem packed_bytes_eq (bit : Nat) :
    (foundAt (header.encode ++ frame) (place (header.values.slots 1) header.fieldStart)).getD bit none =
      header.packedBytes frame bit := found_at_getD _ _ bit

theorem leading_extended (bit : Nat) (leading : bit < 4) :
    Extends ((foundAt (header.encode ++ frame) (place (header.values.slots 1) header.fieldStart)).getD bit none)
      (((header.values.slots header.fhssAlign).map RadiotapSlot.bytes).getD bit none) := by
  have found := extends_at (header.fields_found frame) bit
  rw [found_at_getD, header.leading_places bit leading, ← found_at_getD]
  exact found

theorem info_iff_read_alike :
    infoFrom header.itLen (foundAt (header.encode ++ frame) (place (header.values.slots 1) header.fieldStart)) =
      header.values.info header.itLen ↔ header.ReadAlike frame := by
  have bytes := header.packed_bytes_eq frame
  constructor
  · intro read
    refine ⟨?_, ?_, ?_, ?_, ?_, ?_, ?_, ?_⟩
    all_goals rw [← bytes]
    · exact congrArg RadiotapInfo.dbmAntsignal read
    · exact congrArg RadiotapInfo.noiseLevel read
    · exact congrArg RadiotapInfo.txPower read
    · exact congrArg RadiotapInfo.antennaIndex read
    · exact congrArg RadiotapInfo.rxFlags read
    · exact congrArg RadiotapInfo.mcsIndex read
    · exact congrArg RadiotapInfo.bandwidth read
    · exact congrArg RadiotapInfo.timestamp read
  · intro alike
    obtain ⟨rate, channel, channelFlags⟩ :=
      leading_found header.values header.fhssAlign header.itLen _ (header.leading_extended frame)
    apply RadiotapInfo.ext
    · rfl
    · exact (congrArg (Option.map dbmIn) (bytes 5)).trans alike.signal
    · exact channel
    · exact channelFlags
    · exact rate
    · exact (congrArg (Option.map dbmIn) (bytes 6)).trans alike.noise
    · exact (congrArg (Option.map dbmIn) (bytes 10)).trans alike.txPower
    · exact (congrArg (Option.map leadingU16Le) (bytes 14)).trans alike.rxFlags
    · exact (congrArg (Option.map antennaIn) (bytes 11)).trans alike.antenna
    · exact (congrArg (Option.map mcsIndexIn) (bytes 19)).trans alike.mcsIndex
    · exact (congrArg (Option.map bandwidthIn) (bytes 19)).trans alike.bandwidth
    · exact (congrArg (Option.map timestampIn) (bytes 22)).trans alike.timestamp

theorem info_in_place (inPlace : header.FhssInPlace) :
    infoFrom header.itLen (foundAt (header.encode ++ frame) (place (header.values.slots 1) header.fieldStart)) =
      header.values.info header.itLen := by
  rw [header.fhss_in_place_slots inPlace]
  exact info_from_found header.values header.fhssAlign header.itLen _ (header.fields_found frame)

theorem radiotap_round_trip_iff (fits : (header.encode ++ frame).length ≤ isizeMax) :
    parseRadiotap (header.encode ++ frame) = .ok (some (header.values.info header.itLen)) ↔
      header.FhssInPlace ∨ header.ReadAlike frame := by
  rw [header.parse_radiotap_eq frame fits]
  constructor
  · intro same
    have read := Option.some.inj (Except.ok.inj same)
    exact .inr ((header.info_iff_read_alike frame).mp read)
  · intro condition
    refine congrArg (fun info => Except.ok (some info)) ?_
    obtain inPlace | alike := condition
    · exact header.info_in_place frame inPlace
    · exact (header.info_iff_read_alike frame).mpr alike

end EncodedRadiotap

def noFields : RadiotapValues := ⟨none, none, none, none, none, none, none, none, none, none, none, none, none, none, none,
  none, none, none, none, none, none, none, none⟩

def chainedHeader : EncodedRadiotap where
  values := { noFields with
    tsft := some 5
    channel := some (2437, 0xa0)
    fhss := some (1, 2)
    dbmSignal := some (-40)
    rxFlags := some 3 }
  packedFhss := false
  pad := 0
  first := 0x80004039
  more := [0x1]
  padding := fun _ => 0
  extra := [0xaa]
  present := by decide +kernel
  chained := ⟨by decide, (by decide : (0x1 : UInt32) &&& 0x80000000 = 0)⟩
  small := by decide +kernel

theorem chained_header_read : parseRadiotap (chainedHeader.encode ++ [0xb4, 0x00]) =
    .ok (some { RadiotapInfo.new 35 with
      channel := some 2437
      channelFlags := some 0xa0
      dbmAntsignal := some (-40)
      rxFlags := some 3 }) :=
  (chainedHeader.radiotap_round_trip_iff [0xb4, 0x00] (by decide +kernel)).mpr (.inl (.inr (.inr (by decide +kernel))))

def paddedHeader : EncodedRadiotap where
  values := { noFields with
    flags := some 0x10
    fhss := some (1, 2)
    dbmSignal := some (-40) }
  packedFhss := false
  pad := 0
  first := 0x32
  more := []
  padding := fun _ => 0
  extra := []
  present := by decide +kernel
  chained := (by decide : (0x32 : UInt32) &&& 0x80000000 = 0)
  small := by decide +kernel

theorem padded_fhss_misread : ¬ ∀ (header : EncodedRadiotap) (frame : Bytes),
    (header.encode ++ frame).length ≤ isizeMax →
      parseRadiotap (header.encode ++ frame) = .ok (some (header.values.info header.itLen)) := by
  intro all
  have read := all paddedHeader [] (by decide +kernel)
  have misread : parseRadiotap (paddedHeader.encode ++ []) =
      .ok (some { RadiotapInfo.new 13 with dbmAntsignal := some 2 }) := by decide +kernel
  rw [misread] at read
  exact absurd read (by decide +kernel)

end NetworkIds.Parser
