import Mathlib.Tactic.Common
import NetworkIds.Lib.Checked

set_option autoImplicit false

namespace Endian

open Checked

-- from_be_bytes and from_le_bytes of the fixed-width integers.
def beNat (bytes : Bytes) : Nat := bytes.foldl (fun acc byte => acc * 256 + byte.toNat) 0

def leNat (bytes : Bytes) : Nat := beNat bytes.reverse

def u16FromBe (a b : UInt8) : UInt16 := UInt16.ofNat (beNat [a, b])

def u16FromLe (a b : UInt8) : UInt16 := UInt16.ofNat (leNat [a, b])

def u32FromBe (a b c d : UInt8) : UInt32 := UInt32.ofNat (beNat [a, b, c, d])

def u32FromLe (a b c d : UInt8) : UInt32 := UInt32.ofNat (leNat [a, b, c, d])

def u64FromBe (bytes : Octets 8) : UInt64 := UInt64.ofNat (beNat bytes.val)

def u64FromLe (bytes : Octets 8) : UInt64 := UInt64.ofNat (leNat bytes.val)

-- to_be_bytes.
def u16ToBe (value : UInt16) : Bytes :=
  [UInt8.ofNat (value.toNat / 256), UInt8.ofNat value.toNat]

def u32ToBe (value : UInt32) : Bytes :=
  [UInt8.ofNat (value.toNat / 2 ^ 24), UInt8.ofNat (value.toNat / 2 ^ 16),
    UInt8.ofNat (value.toNat / 256), UInt8.ofNat value.toNat]

def u64ToBe (value : UInt64) : Bytes :=
  u32ToBe (UInt32.ofNat (value.toNat / 2 ^ 32)) ++ u32ToBe (UInt32.ofNat value.toNat)

-- to_le_bytes.
def u16ToLe (value : UInt16) : Bytes := (u16ToBe value).reverse

def u32ToLe (value : UInt32) : Bytes := (u32ToBe value).reverse

def u64ToLe (value : UInt64) : Bytes := (u64ToBe value).reverse

theorem u16_from_be_nat (a b : UInt8) : (u16FromBe a b).toNat = a.toNat * 256 + b.toNat := by
  have aBound := a.toNat_lt
  have bBound := b.toNat_lt
  simp only [u16FromBe, beNat, List.foldl_cons, List.foldl_nil, UInt16.toNat_ofNat']
  omega

theorem u32_from_be_nat (a b c d : UInt8) :
    (u32FromBe a b c d).toNat = ((a.toNat * 256 + b.toNat) * 256 + c.toNat) * 256 + d.toNat := by
  have aBound := a.toNat_lt
  have bBound := b.toNat_lt
  have cBound := c.toNat_lt
  have dBound := d.toNat_lt
  simp only [u32FromBe, beNat, List.foldl_cons, List.foldl_nil, UInt32.toNat_ofNat']
  omega

theorem u16_from_be_inj {a b a' b' : UInt8} : u16FromBe a b = u16FromBe a' b' ↔ a = a' ∧ b = b' := by
  constructor
  · intro same
    have numbers := congrArg UInt16.toNat same
    have bBound := b.toNat_lt
    have bBound' := b'.toNat_lt
    rw [u16_from_be_nat, u16_from_be_nat] at numbers
    exact ⟨UInt8.toNat_inj.mp (by omega), UInt8.toNat_inj.mp (by omega)⟩
  · intro same
    rw [same.1, same.2]

theorem u32_from_be_inj {a b c d a' b' c' d' : UInt8} :
    u32FromBe a b c d = u32FromBe a' b' c' d' ↔ a = a' ∧ b = b' ∧ c = c' ∧ d = d' := by
  constructor
  · intro same
    have numbers := congrArg UInt32.toNat same
    have bBound := b.toNat_lt
    have cBound := c.toNat_lt
    have dBound := d.toNat_lt
    have bBound' := b'.toNat_lt
    have cBound' := c'.toNat_lt
    have dBound' := d'.toNat_lt
    rw [u32_from_be_nat, u32_from_be_nat] at numbers
    refine ⟨UInt8.toNat_inj.mp ?_, UInt8.toNat_inj.mp ?_, UInt8.toNat_inj.mp ?_, UInt8.toNat_inj.mp ?_⟩
    all_goals omega
  · intro same
    rw [same.1, same.2.1, same.2.2.1, same.2.2.2]

theorem u16_round_trip (value : UInt16) :
    u16FromBe (UInt8.ofNat (value.toNat / 256)) (UInt8.ofNat value.toNat) = value := by
  have bound := value.toNat_lt
  apply UInt16.toNat_inj.mp
  rw [u16_from_be_nat, UInt8.toNat_ofNat', UInt8.toNat_ofNat']
  omega

theorem u16_to_from_be (high low : UInt8) : u16ToBe (u16FromBe high low) = [high, low] := by
  have highBound := high.toNat_lt
  have lowBound := low.toNat_lt
  rw [u16ToBe, u16_from_be_nat]
  congr 2
  · apply UInt8.toNat_inj.mp
    rw [UInt8.toNat_ofNat']
    omega
  · apply UInt8.toNat_inj.mp
    rw [UInt8.toNat_ofNat']
    omega

theorem u32_round_trip (value : UInt32) :
    u32FromBe (UInt8.ofNat (value.toNat / 2 ^ 24)) (UInt8.ofNat (value.toNat / 2 ^ 16))
      (UInt8.ofNat (value.toNat / 256)) (UInt8.ofNat value.toNat) = value := by
  have bound := value.toNat_lt
  apply UInt32.toNat_inj.mp
  simp only [u32FromBe, beNat, List.foldl_cons, List.foldl_nil, UInt32.toNat_ofNat', UInt8.toNat_ofNat']
  omega

theorem u64_be_nat (value : UInt64) : beNat (u64ToBe value) = value.toNat := by
  have bound := value.toNat_lt
  simp only [u64ToBe, u32ToBe, beNat, List.cons_append, List.nil_append, List.foldl_cons, List.foldl_nil,
    UInt32.toNat_ofNat', UInt8.toNat_ofNat']
  omega

theorem u64_le_round_trip (value : UInt64) : UInt64.ofNat (leNat (u64ToLe value)) = value := by
  rw [leNat, u64ToLe, List.reverse_reverse, u64_be_nat, UInt64.ofNat_toNat]

section Read

variable (before rest : Bytes) {start : Nat}

theorem u16_le_read (value : UInt16) (startEq : before.length = start) (room : start + 1 ≤ usizeMax) :
    ∃ a b, index (before ++ (u16ToLe value ++ rest)) start = .ok a ∧
      indexAdd (before ++ (u16ToLe value ++ rest)) start 1 = .ok b ∧ u16FromLe a b = value :=
  ⟨_, _, index_append before _ startEq 0, index_add_append before _ startEq 0 1 room, u16_round_trip value⟩

theorem u32_be_read (value : UInt32) (startEq : before.length = start) (room : start + 3 ≤ usizeMax) :
    ∃ a b c d, index (before ++ (u32ToBe value ++ rest)) start = .ok a ∧
      indexAdd (before ++ (u32ToBe value ++ rest)) start 1 = .ok b ∧
      indexAdd (before ++ (u32ToBe value ++ rest)) start 2 = .ok c ∧
      indexAdd (before ++ (u32ToBe value ++ rest)) start 3 = .ok d ∧ u32FromBe a b c d = value :=
  ⟨_, _, _, _, index_append before _ startEq 0, index_add_append before _ startEq 0 1 (by omega),
    index_add_append before _ startEq 0 2 (by omega), index_add_append before _ startEq 0 3 room, u32_round_trip value⟩

theorem u32_le_read (value : UInt32) (startEq : before.length = start) (room : start + 3 ≤ usizeMax) :
    ∃ a b c d, index (before ++ (u32ToLe value ++ rest)) start = .ok a ∧
      indexAdd (before ++ (u32ToLe value ++ rest)) start 1 = .ok b ∧
      indexAdd (before ++ (u32ToLe value ++ rest)) start 2 = .ok c ∧
      indexAdd (before ++ (u32ToLe value ++ rest)) start 3 = .ok d ∧ u32FromLe a b c d = value :=
  ⟨_, _, _, _, index_append before _ startEq 0, index_add_append before _ startEq 0 1 (by omega),
    index_add_append before _ startEq 0 2 (by omega), index_add_append before _ startEq 0 3 room, u32_round_trip value⟩

end Read

end Endian
