import NetworkIds.Parser.Types

set_option autoImplicit false

namespace NetworkIds.Parser

open Checked Endian

-- The chain of presence words. Only the first non-zero word is kept; the walk
-- ends at the first field byte.
def presenceLoop (data : Bytes) (headerLen fuel : Nat) (presence : UInt32) (fpOff : Nat) :
    Checked (UInt32 × Nat) :=
  match fuel with
  | 0 => throw .outOfFuel
  | fuel + 1 => do
      if (← add fpOff 4) > headerLen then return (presence, fpOff)
      else
        let f := u32FromLe (← index data fpOff) (← indexAdd data fpOff 1) (← indexAdd data fpOff 2)
          (← indexAdd data fpOff 3)
        let presence := if presence = 0 then f else presence
        let fpOff ← add fpOff 4
        if f &&& 0x80000000 = 0 then return (presence, fpOff)
        else presenceLoop data headerLen fuel presence fpOff

-- align_to!: (off + a - 1) & !(a - 1)
def alignTo (off a : Nat) : Checked Nat := do
  return (← sub (← add off a) 1) &&& (usizeMax - (← sub a 1))

-- skip!
def skipBytes (headerLen off n : Nat) : Checked Nat := do
  if (← add off n) ≤ headerLen then add off n else return headerLen

-- One block "if present!(bit)": the field is aligned, stored if the needed
-- bytes lie inside the header, and skipped. Alignment 1 stands for a block
-- that does not align, and needed 0 for one that stores nothing.
structure RadiotapField where
  bit : UInt32
  align : Nat
  needed : Nat
  size : Nat
  store : Bytes → Nat → RadiotapInfo → Checked RadiotapInfo

def notStored (_ : Bytes) (_ : Nat) (info : RadiotapInfo) : Checked RadiotapInfo := return info

def storeRate (data : Bytes) (off : Nat) (info : RadiotapInfo) : Checked RadiotapInfo := do
  return { info with dataRate := some (← index data off).toUInt16 }

def storeChannel (data : Bytes) (off : Nat) (info : RadiotapInfo) : Checked RadiotapInfo := do
  return { info with
    channel := some (u16FromLe (← index data off) (← indexAdd data off 1))
    channelFlags := some (u16FromLe (← indexAdd data off 2) (← indexAdd data off 3)) }

def storeSignal (data : Bytes) (off : Nat) (info : RadiotapInfo) : Checked RadiotapInfo := do
  return { info with dbmAntsignal := some (← index data off).toInt8 }

def storeNoise (data : Bytes) (off : Nat) (info : RadiotapInfo) : Checked RadiotapInfo := do
  return { info with noiseLevel := some (← index data off).toInt8 }

def storeTxPower (data : Bytes) (off : Nat) (info : RadiotapInfo) : Checked RadiotapInfo := do
  return { info with txPower := some (← index data off).toInt8 }

def storeAntenna (data : Bytes) (off : Nat) (info : RadiotapInfo) : Checked RadiotapInfo := do
  return { info with antennaIndex := some (← index data off) }

def storeRxFlags (data : Bytes) (off : Nat) (info : RadiotapInfo) : Checked RadiotapInfo := do
  return { info with rxFlags := some (u16FromLe (← index data off) (← indexAdd data off 1)) }

def storeMcs (data : Bytes) (off : Nat) (info : RadiotapInfo) : Checked RadiotapInfo := do
  let mcsFlags ← indexAdd data off 1
  return { info with
    mcsIndex := some (← indexAdd data off 2)
    bandwidth := some (mcsFlags &&& 0x03) }

def storeTimestamp (data : Bytes) (off : Nat) (info : RadiotapInfo) : Checked RadiotapInfo := do
  let ts ← Octets.copyFromSlice 8 (← slice data off (← add off 8))
  return { info with timestamp := some (u64FromLe ts) }

def radiotapFields : List RadiotapField := [
  ⟨0, 8, 0, 8, notStored⟩,
  ⟨1, 1, 0, 1, notStored⟩,
  ⟨2, 1, 1, 1, storeRate⟩,
  ⟨3, 2, 4, 4, storeChannel⟩,
  ⟨4, 1, 0, 2, notStored⟩,
  ⟨5, 1, 1, 1, storeSignal⟩,
  ⟨6, 1, 1, 1, storeNoise⟩,
  ⟨7, 2, 0, 2, notStored⟩,
  ⟨8, 2, 0, 2, notStored⟩,
  ⟨9, 2, 0, 2, notStored⟩,
  ⟨10, 1, 1, 1, storeTxPower⟩,
  ⟨11, 1, 1, 1, storeAntenna⟩,
  ⟨12, 1, 0, 1, notStored⟩,
  ⟨13, 1, 0, 1, notStored⟩,
  ⟨14, 2, 2, 2, storeRxFlags⟩,
  ⟨15, 2, 0, 2, notStored⟩,
  ⟨16, 1, 0, 1, notStored⟩,
  ⟨17, 1, 0, 1, notStored⟩,
  ⟨18, 4, 0, 8, notStored⟩,
  ⟨19, 1, 3, 3, storeMcs⟩,
  ⟨20, 4, 0, 8, notStored⟩,
  ⟨21, 2, 0, 12, notStored⟩,
  ⟨22, 8, 8, 12, storeTimestamp⟩]

def walkField (data : Bytes) (headerLen : Nat) (presence : UInt32) (field : RadiotapField)
    (walk : RadiotapInfo × Nat) : Checked (RadiotapInfo × Nat) := do
  if presence &&& ((1 : UInt32) <<< field.bit) ≠ 0 then
    let off ← alignTo walk.2 field.align
    if (← add off field.needed) ≤ headerLen then
      let info ← field.store data off walk.1
      return (info, ← skipBytes headerLen off field.size)
    else return (walk.1, ← skipBytes headerLen off field.size)
  else return walk

def walkFields (data : Bytes) (headerLen : Nat) (presence : UInt32) (fields : List RadiotapField)
    (walk : RadiotapInfo × Nat) : Checked (RadiotapInfo × Nat) :=
  match fields with
  | [] => return walk
  | field :: rest => do
      walkFields data headerLen presence rest (← walkField data headerLen presence field walk)

def RadiotapInfo.new (headerLen : Nat) : RadiotapInfo :=
  ⟨headerLen, none, none, none, none, none, none, none, none, none, none, none⟩

def parseRadiotap (data : Bytes) : Checked (Option RadiotapInfo) := do
  if data.length < 8 then return none
  else if (← index data 0) ≠ 0 then return none
  else
    let headerLen := (u16FromLe (← index data 2) (← index data 3)).toNat
    if headerLen > data.length ∨ headerLen < 8 then return none
    else
      let (presence, fpOff) ← presenceLoop data headerLen headerLen 0 4
      let (info, _) ← walkFields data headerLen presence radiotapFields (RadiotapInfo.new headerLen, fpOff)
      return some info

theorem presence_loop_safe (data : Bytes) (headerLen fuel : Nat) (presence : UInt32) (fpOff : Nat)
    (fits : data.length ≤ isizeMax) (header : headerLen ≤ data.length) (inside : fpOff ≤ headerLen)
    (enough : headerLen < fpOff + fuel) :
    Safe (presenceLoop data headerLen fuel presence fpOff) (fun result => result.2 ≤ headerLen) := by
  have room := usize_room fits 4 (by omega)
  induction fuel generalizing presence fpOff with
  | zero => omega
  | succ fuel ih =>
      rw [presenceLoop]
      simp (disch := omega) only [add_ok, ok_bind]
      split
      · exact safe_ok inside
      · simp (disch := omega) only [index_getD, index_add_getD, ok_bind]
        split
        · exact safe_ok (by dsimp only; omega)
        · exact ih _ _ (by omega) (by omega)

theorem align_to_safe (off a : Nat) (positive : 0 < a) (room : off + a ≤ usizeMax) :
    Safe (alignTo off a) (fun result => result ≤ off + a - 1) := by
  rw [alignTo]
  simp (disch := omega) only [add_ok, sub_ok, ok_bind]
  exact safe_ok Nat.and_le_left

theorem skip_bytes_safe (headerLen off n : Nat) (room : off + n ≤ usizeMax) :
    Safe (skipBytes headerLen off n) (fun result => result ≤ headerLen) := by
  rw [skipBytes]
  simp (disch := omega) only [add_ok, ok_bind]
  split
  · rename_i inside
    exact safe_ok inside
  · exact safe_ok (Nat.le_refl _)

-- What the table promises of each field: small sizes, and a store that reads
-- no more than the bytes it asked for.
structure RadiotapField.Valid (field : RadiotapField) : Prop where
  positive : 0 < field.align
  small : field.align ≤ 8 ∧ field.needed ≤ 8 ∧ field.size ≤ 12
  stores : ∀ data off info, data.length ≤ isizeMax → off + field.needed ≤ data.length →
    Safe (field.store data off info) (fun _ => True)

theorem store_timestamp_safe (data : Bytes) (off : Nat) (info : RadiotapInfo)
    (fits : data.length ≤ isizeMax) (inside : off + 8 ≤ data.length) :
    Safe (storeTimestamp data off info) (fun _ => True) := by
  have room := usize_room fits 0 (by omega)
  have length : ((data.take (off + 8)).drop off).length = 8 := by
    rw [slice_length _ _ _ inside]
    omega
  rw [storeTimestamp]
  simp (disch := omega) only [add_ok, slice_ok, Octets.copy_ok length, ok_bind]
  exact safe_ok trivial

theorem radiotap_fields_valid : ∀ field ∈ radiotapFields, field.Valid := by
  intro field member
  simp only [radiotapFields, List.mem_cons, List.not_mem_nil, or_false] at member
  rcases member with rfl | rfl | rfl | rfl | rfl | rfl | rfl | rfl | rfl | rfl | rfl | rfl | rfl | rfl |
    rfl | rfl | rfl | rfl | rfl | rfl | rfl | rfl | rfl
  all_goals
    refine ⟨by decide, by decide, ?_⟩
    intro data off info fits inside
    dsimp only at inside ⊢
    first
    | exact safe_ok trivial
    | exact store_timestamp_safe data off info fits inside
    | simp (disch := omega) only [storeRate, storeChannel, storeSignal, storeNoise, storeTxPower,
        storeAntenna, storeRxFlags, storeMcs, index_getD, index_add_getD, ok_bind]
      exact safe_ok trivial

theorem walk_field_safe (data : Bytes) (headerLen : Nat) (presence : UInt32) (field : RadiotapField)
    (walk : RadiotapInfo × Nat) (fits : data.length ≤ isizeMax) (header : headerLen ≤ data.length)
    (valid : field.Valid) (inside : walk.2 ≤ headerLen) :
    Safe (walkField data headerLen presence field walk) (fun result => result.2 ≤ headerLen) := by
  obtain ⟨positive, ⟨alignSmall, neededSmall, sizeSmall⟩, stores⟩ := valid
  have room := usize_room fits 32 (by omega)
  rw [walkField]
  split
  · refine safe_bind (align_to_safe walk.2 field.align positive (by omega)) fun off aligned => ?_
    simp (disch := omega) only [add_ok, ok_bind]
    split
    · refine safe_bind (stores data off walk.1 fits (by omega)) fun info _ => ?_
      refine safe_bind (skip_bytes_safe headerLen off field.size (by omega)) fun next bound => ?_
      exact safe_ok bound
    · refine safe_bind (skip_bytes_safe headerLen off field.size (by omega)) fun next bound => ?_
      exact safe_ok bound
  · exact safe_ok inside

theorem walk_fields_safe (data : Bytes) (headerLen : Nat) (presence : UInt32)
    (fields : List RadiotapField) (walk : RadiotapInfo × Nat) (fits : data.length ≤ isizeMax)
    (header : headerLen ≤ data.length) (valid : ∀ field ∈ fields, field.Valid)
    (inside : walk.2 ≤ headerLen) :
    Safe (walkFields data headerLen presence fields walk) (fun result => result.2 ≤ headerLen) := by
  induction fields generalizing walk with
  | nil => exact safe_ok inside
  | cons field rest ih =>
      rw [walkFields]
      refine safe_bind (walk_field_safe data headerLen presence field walk fits header
        (valid field (by simp)) inside) ?_
      intro next bound
      exact ih next (fun later member => valid later (by simp [member])) bound

theorem radiotap_safe (data : Bytes) (fits : data.length ≤ isizeMax) :
    Safe (parseRadiotap data) (fun _ => True) := by
  rw [parseRadiotap]
  split
  · exact safe_ok trivial
  · simp (disch := omega) only [index_getD, ok_bind]
    split
    · exact safe_ok trivial
    · split
      · exact safe_ok trivial
      · refine safe_bind (presence_loop_safe data _ _ 0 4 fits (by omega) (by omega) (by omega)) ?_
        rintro ⟨presence, fpOff⟩ inside
        refine safe_bind (walk_fields_safe data _ presence radiotapFields (_, fpOff) fits (by omega)
          radiotap_fields_valid inside) ?_
        rintro ⟨info, off⟩ _
        exact safe_ok trivial

end NetworkIds.Parser
