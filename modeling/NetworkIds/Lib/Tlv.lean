import NetworkIds.Lib.Checked

set_option autoImplicit false

-- A tagged item: a tag byte, a length byte and so many bytes.
structure Tlv where
  tag : UInt8
  value : Bytes
  short : value.length ≤ 255

namespace Tlv

open Checked

variable {β : Type} (item : Tlv) (before rest : Bytes)

def lengthByte : UInt8 := UInt8.ofNat item.value.length

def encode : Bytes := item.tag :: item.lengthByte :: item.value

def carried (tag : UInt8) (need : Nat) (read : Bytes → β) (item : Tlv) : Option β :=
  if item.tag = tag ∧ need ≤ item.value.length then some (read item.value) else none

theorem carried_other (tag : UInt8) (need : Nat) (read : Bytes → β) (different : item.tag ≠ tag) :
    item.carried tag need read = none := if_neg fun both => different both.1

theorem carried_own (need : Nat) (read : Bytes → β) (enough : need ≤ item.value.length) :
    item.carried item.tag need read = some (read item.value) := if_pos ⟨rfl, enough⟩

theorem encode_length : item.encode.length = item.value.length + 2 := rfl

theorem length_byte_nat : item.lengthByte.toNat = item.value.length := by
  have short := item.short
  rw [lengthByte, UInt8.toNat_ofNat', Nat.mod_eq_of_lt (by omega)]

theorem tag_read {start : Nat} (startEq : before.length = start) :
    index (before ++ (item.encode ++ rest)) start = .ok item.tag :=
  index_append before (item.encode ++ rest) startEq 0

theorem length_read {start : Nat} (startEq : before.length = start) (room : start + 1 ≤ usizeMax) :
    indexAdd (before ++ (item.encode ++ rest)) start 1 = .ok item.lengthByte :=
  index_add_append before (item.encode ++ rest) startEq 0 1 (by omega)

theorem value_read {start stop : Nat} (startEq : before.length = start) (stopEq : start + 2 + item.value.length = stop) :
    slice (before ++ (item.encode ++ rest)) (start + 2) stop = .ok item.value := by
  have shape : before ++ (item.encode ++ rest) =
      (before ++ [item.tag, item.lengthByte]) ++ (item.value ++ rest) := by
    rw [List.append_assoc]
    rfl
  rw [shape]
  apply slice_middle
  · rw [List.length_append, startEq]
    rfl
  · rw [List.length_append, startEq]
    exact stopEq

end Tlv
