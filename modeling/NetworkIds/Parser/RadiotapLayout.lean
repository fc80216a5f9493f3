import NetworkIds.Lib.Alignment
import NetworkIds.Lib.LastWins
import NetworkIds.Parser.Radiotap

set_option autoImplicit false

namespace NetworkIds.Parser

open Checked Endian LastWins Alignment

theorem align_to_eq (off a : Nat) (power : a = 1 ∨ a = 2 ∨ a = 4 ∨ a = 8) (room : off + 8 ≤ usizeMax) :
    alignTo off a = .ok (alignUp off a) := by
  obtain ⟨k, small, rfl⟩ : ∃ k, k ≤ 3 ∧ a = 2 ^ k := by
    obtain rfl | rfl | rfl | rfl := power
    · exact ⟨0, by decide, rfl⟩
    · exact ⟨1, by decide, rfl⟩
    · exact ⟨2, by decide, rfl⟩
    · exact ⟨3, by decide, rfl⟩
  have powers := Nat.pow_le_pow_right (n := 2) (by decide) small
  have positive := Nat.two_pow_pos k
  have word : off + 2 ^ k - 1 < 2 ^ 64 := by
    unfold usizeMax at room
    omega
  rw [alignTo, add_ok (by omega), ok_bind, sub_ok (by omega), ok_bind, sub_ok (by omega), ok_bind]
  exact congrArg Except.ok (mask_low_bits _ k 64 word (by omega))

theorem presence_bit (presence : UInt32) (bit : Nat) (small : bit < 32) :
    presence &&& ((1 : UInt32) <<< UInt32.ofNat bit) ≠ 0 ↔ presence.toNat.testBit bit = true := by
  have mask : ((1 : UInt32) <<< UInt32.ofNat bit).toNat = 2 ^ bit := by
    have power := Nat.pow_lt_pow_right (a := 2) (by decide) small
    rw [UInt32.toNat_shiftLeft, UInt32.toNat_ofNat', Nat.mod_eq_of_lt (a := bit) (by omega), Nat.mod_eq_of_lt small]
    simp [Nat.shiftLeft_eq, Nat.mod_eq_of_lt power]
  have masked := Nat.and_two_pow presence.toNat bit
  rw [ne_eq, ← UInt32.toNat_inj, UInt32.toNat_and, mask, masked]
  cases presence.toNat.testBit bit with
  | true => simp
  | false => simp

def rateIn (bytes : Bytes) : UInt16 := (bytes.getD 0 0).toUInt16

def leadingU16Le (bytes : Bytes) : UInt16 := u16FromLe (bytes.getD 0 0) (bytes.getD 1 0)

def channelFlagsIn (bytes : Bytes) : UInt16 := u16FromLe (bytes.getD 2 0) (bytes.getD 3 0)

def dbmIn (bytes : Bytes) : Int8 := (bytes.getD 0 0).toInt8

def antennaIn (bytes : Bytes) : UInt8 := bytes.getD 0 0

def mcsIndexIn (bytes : Bytes) : UInt8 := bytes.getD 2 0

def bandwidthIn (bytes : Bytes) : UInt8 := bytes.getD 1 0 &&& 0x03

def timestampIn (bytes : Bytes) : UInt64 := UInt64.ofNat (leNat (bytes.take 8))

def readBit {β : Type} (bit : UInt32) (read : Bytes → β) (field : UInt32 × Option Bytes) : Option β :=
  if field.1 = bit then field.2.map read else none

def takeField (info : RadiotapInfo) (field : UInt32 × Option Bytes) : RadiotapInfo where
  headerLen := info.headerLen
  dbmAntsignal := (readBit 5 dbmIn field).or info.dbmAntsignal
  channel := (readBit 3 leadingU16Le field).or info.channel
  channelFlags := (readBit 3 channelFlagsIn field).or info.channelFlags
  dataRate := (readBit 2 rateIn field).or info.dataRate
  noiseLevel := (readBit 6 dbmIn field).or info.noiseLevel
  txPower := (readBit 10 dbmIn field).or info.txPower
  rxFlags := (readBit 14 leadingU16Le field).or info.rxFlags
  antennaIndex := (readBit 11 antennaIn field).or info.antennaIndex
  mcsIndex := (readBit 19 mcsIndexIn field).or info.mcsIndex
  bandwidth := (readBit 19 bandwidthIn field).or info.bandwidth
  timestamp := (readBit 22 timestampIn field).or info.timestamp

theorem take_absent (info : RadiotapInfo) (bit : UInt32) : takeField info (bit, none) = info := by
  simp [takeField, readBit]

-- What the table promises of each field beyond RadiotapField.Valid.
structure RadiotapField.Reads (field : RadiotapField) : Prop where
  align : field.align = 1 ∨ field.align = 2 ∨ field.align = 4 ∨ field.align = 8
  needed : field.needed ≤ field.size
  size : field.size ≤ 12
  stores : ∀ data off info, data.length ≤ isizeMax → off + field.needed ≤ data.length →
    field.store data off info = .ok (takeField info (field.bit, some (data.drop off)))

theorem store_timestamp_eq (data : Bytes) (off : Nat) (info : RadiotapInfo) (fits : data.length ≤ isizeMax)
    (inside : off + 8 ≤ data.length) :
    storeTimestamp data off info = .ok (takeField info (22, some (data.drop off))) := by
  have room := usize_room fits 0 (by omega)
  have length : ((data.take (off + 8)).drop off).length = 8 := by
    rw [slice_length _ _ _ inside]
    omega
  have bytes : (data.take (off + 8)).drop off = (data.drop off).take 8 := by
    rw [List.drop_take, Nat.add_sub_cancel_left]
  rw [storeTimestamp]
  simp (disch := omega) only [add_ok, slice_ok, Octets.copy_ok length, ok_bind]
  simp [takeField, readBit, timestampIn, u64FromLe, bytes]

theorem radiotap_fields_read : ∀ field ∈ radiotapFields, field.Reads := by
  intro field member
  simp only [radiotapFields, List.mem_cons, List.not_mem_nil, or_false] at member
  rcases member with rfl | rfl | rfl | rfl | rfl | rfl | rfl | rfl | rfl | rfl | rfl | rfl | rfl | rfl |
    rfl | rfl | rfl | rfl | rfl | rfl | rfl | rfl | rfl
  all_goals
    refine ⟨by decide, by decide, by decide, ?_⟩
    intro data off info fits inside
    dsimp only at inside ⊢
    first
    | exact store_timestamp_eq data off info fits inside
    | simp (disch := omega) only [storeRate, storeChannel, storeSignal, storeNoise, storeTxPower,
        storeAntenna, storeRxFlags, storeMcs, notStored, index_getD, index_add_getD, ok_bind, pure_eq_ok]
      simp [takeField, readBit, rateIn, leadingU16Le, channelFlagsIn, dbmIn, antennaIn, mcsIndexIn, bandwidthIn]

structure RadiotapSlot where
  align : Nat
  bytes : Option Bytes

def place (slots : List RadiotapSlot) (off : Nat) : List (Option Nat) :=
  match slots with
  | [] => []
  | ⟨_, none⟩ :: rest => none :: place rest off
  | ⟨align, some bytes⟩ :: rest => some (alignUp off align) :: place rest (alignUp off align + bytes.length)

def endOf (slots : List RadiotapSlot) (off : Nat) : Nat :=
  match slots with
  | [] => off
  | ⟨_, none⟩ :: rest => endOf rest off
  | ⟨align, some bytes⟩ :: rest => endOf rest (alignUp off align + bytes.length)

theorem end_of_ge (slots : List RadiotapSlot) (off : Nat) (aligned : ∀ slot ∈ slots, 0 < slot.align) :
    off ≤ endOf slots off := by
  induction slots generalizing off with
  | nil => exact Nat.le_refl off
  | cons slot rest ih =>
      have later := fun off => ih off fun other member => aligned other (List.mem_cons_of_mem _ member)
      obtain ⟨align, _ | bytes⟩ := slot
      · exact later off
      · have up := align_up_ge off (aligned ⟨align, some bytes⟩ List.mem_cons_self)
        exact Nat.le_trans (Nat.le_trans up (Nat.le_add_right _ _)) (later _)

theorem place_append (first second : List RadiotapSlot) (off : Nat) :
    place (first ++ second) off = place first off ++ place second (endOf first off) := by
  induction first generalizing off with
  | nil => rfl
  | cons slot rest ih =>
      obtain ⟨align, _ | bytes⟩ := slot
      · simp only [List.cons_append, place, endOf, ih]
      · simp only [List.cons_append, place, endOf, ih]

theorem end_of_append (first second : List RadiotapSlot) (off : Nat) :
    endOf (first ++ second) off = endOf second (endOf first off) := by
  induction first generalizing off with
  | nil => rfl
  | cons slot rest ih =>
      obtain ⟨align, _ | bytes⟩ := slot
      · simp only [List.cons_append, endOf, ih]
      · simp only [List.cons_append, endOf, ih]

theorem end_of_mono (slots : List RadiotapSlot) (off other : Nat) (behind : off ≤ other) :
    endOf slots off ≤ endOf slots other := by
  induction slots generalizing off other with
  | nil => exact behind
  | cons slot rest ih =>
      obtain ⟨align, _ | bytes⟩ := slot
      · exact ih off other behind
      · exact ih _ _ (Nat.add_le_add_right (align_up_mono behind) _)

theorem place_length (slots : List RadiotapSlot) (off : Nat) : (place slots off).length = slots.length := by
  induction slots generalizing off with
  | nil => rfl
  | cons slot rest ih =>
      obtain ⟨align, _ | bytes⟩ := slot
      · simp only [place, List.length_cons, ih]
      · simp only [place, List.length_cons, ih]

def foundAt (data : Bytes) (places : List (Option Nat)) : List (Option Bytes) :=
  places.map fun start => start.map fun off => data.drop off

structure SameField (presence : UInt32) (field : RadiotapField) (slot : RadiotapSlot) : Prop where
  align : field.align = slot.align
  present : presence &&& ((1 : UInt32) <<< field.bit) ≠ 0 ↔ slot.bytes.isSome = true
  size : ∀ bytes, slot.bytes = some bytes → bytes.length = field.size

theorem walk_field_absent (data : Bytes) (headerLen : Nat) (presence : UInt32) (field : RadiotapField)
    (walk : RadiotapInfo × Nat) (absent : ¬ presence &&& ((1 : UInt32) <<< field.bit) ≠ 0) :
    walkField data headerLen presence field walk = .ok walk := by
  rw [walkField, if_neg absent]
  rfl

theorem walk_field_present (data : Bytes) (headerLen : Nat) (presence : UInt32) (field : RadiotapField)
    (info : RadiotapInfo) (off : Nat) (reads : field.Reads) (fits : data.length ≤ isizeMax)
    (header : headerLen ≤ data.length) (present : presence &&& ((1 : UInt32) <<< field.bit) ≠ 0)
    (inside : alignUp off field.align + field.size ≤ headerLen) (behind : off ≤ headerLen) :
    walkField data headerLen presence field (info, off) =
      .ok (takeField info (field.bit, some (data.drop (alignUp off field.align))), alignUp off field.align + field.size) := by
  have room := usize_room fits 32 (by omega)
  have needed := reads.needed
  have small := reads.size
  rw [walkField, if_pos present, align_to_eq off field.align reads.align (by omega), ok_bind, add_ok (by omega), ok_bind,
    if_pos (by omega), reads.stores data _ info fits (by omega), ok_bind, skipBytes, add_ok (by omega), ok_bind,
    if_pos inside]
  rfl

theorem walk_fields_eq (data : Bytes) (headerLen : Nat) (presence : UInt32) (fields : List RadiotapField)
    (slots : List RadiotapSlot) (info : RadiotapInfo) (off : Nat) (reads : ∀ field ∈ fields, field.Reads)
    (same : List.Forall₂ (SameField presence) fields slots) (fits : data.length ≤ isizeMax)
    (header : headerLen ≤ data.length) (inside : endOf slots off ≤ headerLen)
    (aligned : ∀ slot ∈ slots, 0 < slot.align) :
    walkFields data headerLen presence fields (info, off) =
      .ok (((fields.map RadiotapField.bit).zip (foundAt data (place slots off))).foldl takeField info,
        endOf slots off) := by
  induction same generalizing info off with
  | nil => rfl
  | @cons field slot fields slots own same ih =>
      have rest := fun other member => reads other (List.mem_cons_of_mem field member)
      have restAligned := fun other member => aligned other (List.mem_cons_of_mem slot member)
      have reached := end_of_ge (slot :: slots) off aligned
      obtain ⟨align, _ | bytes⟩ := slot
      · have absent : ¬ presence &&& ((1 : UInt32) <<< field.bit) ≠ 0 := by
          rw [own.present]
          simp
        rw [walkFields, walk_field_absent data headerLen presence field _ absent, ok_bind, ih info off rest inside restAligned]
        simp only [place, foundAt, List.map_cons, List.zip_cons_cons, List.foldl_cons, Option.map_none, take_absent, endOf]
      · have size := own.size bytes rfl
        have sameAlign : field.align = align := own.align
        have reachedRest := end_of_ge slots (alignUp off align + bytes.length) restAligned
        rw [endOf] at inside reached
        rw [walkFields, walk_field_present data headerLen presence field info off (reads field List.mem_cons_self) fits header
          (own.present.mpr rfl) (by rw [sameAlign, ← size]; omega) (by omega), ok_bind, sameAlign, ← size,
          ih _ _ rest inside restAligned]
        simp only [place, foundAt, List.map_cons, List.zip_cons_cons, List.foldl_cons, Option.map_some, endOf]

def infoFrom (headerLen : Nat) (found : List (Option Bytes)) : RadiotapInfo where
  headerLen := headerLen
  dbmAntsignal := (found.getD 5 none).map dbmIn
  channel := (found.getD 3 none).map leadingU16Le
  channelFlags := (found.getD 3 none).map channelFlagsIn
  dataRate := (found.getD 2 none).map rateIn
  noiseLevel := (found.getD 6 none).map dbmIn
  txPower := (found.getD 10 none).map dbmIn
  rxFlags := (found.getD 14 none).map leadingU16Le
  antennaIndex := (found.getD 11 none).map antennaIn
  mcsIndex := (found.getD 19 none).map mcsIndexIn
  bandwidth := (found.getD 19 none).map bandwidthIn
  timestamp := (found.getD 22 none).map timestampIn

theorem last_read_bit_from {β : Type} (found : List (Option Bytes)) (start bit : Nat) (read : Bytes → β)
    (small : bit < 2 ^ 32) (room : start + found.length ≤ 2 ^ 32) :
    last (readBit (UInt32.ofNat bit) read) (((List.range' start found.length).map UInt32.ofNat).zip found) =
      if start ≤ bit then (found.getD (bit - start) none).map read else none := by
  induction found generalizing start with
  | nil => simp
  | cons slot rest ih =>
      rw [List.length_cons] at room
      have bits : UInt32.ofNat start = UInt32.ofNat bit ↔ start = bit := by
        rw [← UInt32.toNat_inj, UInt32.toNat_ofNat', UInt32.toNat_ofNat', Nat.mod_eq_of_lt (by omega),
          Nat.mod_eq_of_lt small]
      rw [List.length_cons, List.range'_succ, List.map_cons, List.zip_cons_cons, last_cons, ih (start + 1) (by omega),
        readBit]
      rcases Nat.lt_trichotomy bit start with before | rfl | after
      · rw [if_neg (by omega), if_neg (by rw [bits]; omega), if_neg (by omega)]
        rfl
      · rw [if_neg (by omega), if_pos rfl, if_pos (Nat.le_refl bit), Nat.sub_self]
        rfl
      · have index : bit - start = (bit - (start + 1)) + 1 := by omega
        rw [if_pos (by omega), if_neg (by rw [bits]; omega), if_pos (by omega), Option.or_none, index, List.getD_cons_succ]

theorem last_read_bit {β : Type} (bit : Nat) (read : Bytes → β) (found : List (Option Bytes))
    (length : found.length = 23) (small : bit < 23) :
    last (readBit (UInt32.ofNat bit) read) ((radiotapFields.map RadiotapField.bit).zip found) =
      (found.getD bit none).map read := by
  have bits : radiotapFields.map RadiotapField.bit = (List.range' 0 found.length).map UInt32.ofNat := by
    rw [length]
    rfl
  rw [bits, last_read_bit_from found 0 bit read (by omega) (by omega), if_pos (Nat.zero_le bit), Nat.sub_zero]

attribute [ext] RadiotapInfo

theorem fold_take_field (headerLen : Nat) (found : List (Option Bytes)) (length : found.length = 23) :
    ((radiotapFields.map RadiotapField.bit).zip found).foldl takeField (RadiotapInfo.new headerLen) =
      infoFrom headerLen found := by
  have headerKept : ∀ (fields : List (UInt32 × Option Bytes)) (info : RadiotapInfo),
      (fields.foldl takeField info).headerLen = info.headerLen := by
    intro fields
    induction fields with
    | nil => exact fun _ => rfl
    | cons field rest ih => exact fun info => ih (takeField info field)
  generalize fieldsEq : (radiotapFields.map RadiotapField.bit).zip found = fields
  have kept : ∀ {β : Type} (get : RadiotapInfo → Option β) (bit : Nat) (read : Bytes → β), bit < 23 →
      (∀ info field, get (takeField info field) = (readBit (UInt32.ofNat bit) read field).or (get info)) →
      get (.new headerLen) = none →
      get (fields.foldl takeField (.new headerLen)) = (found.getD bit none).map read := by
    intro β get bit read small reads fresh
    rw [fold_last takeField fields _ get _ reads, fresh, Option.or_none, ← fieldsEq]
    exact last_read_bit bit read found length small
  apply RadiotapInfo.ext
  · exact headerKept fields _
  · exact kept RadiotapInfo.dbmAntsignal 5 dbmIn (by decide) (fun _ _ => rfl) rfl
  · exact kept RadiotapInfo.channel 3 leadingU16Le (by decide) (fun _ _ => rfl) rfl
  · exact kept RadiotapInfo.channelFlags 3 channelFlagsIn (by decide) (fun _ _ => rfl) rfl
  · exact kept RadiotapInfo.dataRate 2 rateIn (by decide) (fun _ _ => rfl) rfl
  · exact kept RadiotapInfo.noiseLevel 6 dbmIn (by decide) (fun _ _ => rfl) rfl
  · exact kept RadiotapInfo.txPower 10 dbmIn (by decide) (fun _ _ => rfl) rfl
  · exact kept RadiotapInfo.rxFlags 14 leadingU16Le (by decide) (fun _ _ => rfl) rfl
  · exact kept RadiotapInfo.antennaIndex 11 antennaIn (by decide) (fun _ _ => rfl) rfl
  · exact kept RadiotapInfo.mcsIndex 19 mcsIndexIn (by decide) (fun _ _ => rfl) rfl
  · exact kept RadiotapInfo.bandwidth 19 bandwidthIn (by decide) (fun _ _ => rfl) rfl
  · exact kept RadiotapInfo.timestamp 22 timestampIn (by decide) (fun _ _ => rfl) rfl

end NetworkIds.Parser
