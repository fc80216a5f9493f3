import Mathlib.Tactic.Common

set_option autoImplicit false

-- Lists at an address of a memory.
namespace Placement

variable {α : Type}

def Holds (memory : Nat → α) (address : Nat) (xs : List α) : Prop := ∀ i x, xs[i]? = some x → memory (address + i) = x

def write (memory : Nat → α) (address : Nat) (xs : List α) : Nat → α := fun place =>
  if address ≤ place then xs.getD (place - address) (memory place) else memory place

theorem write_holds (memory : Nat → α) (address : Nat) (xs : List α) : Holds (write memory address xs) address xs := by
  intro i x found
  rw [write, if_pos (Nat.le_add_right _ _), Nat.add_sub_cancel_left, List.getD_eq_getElem?_getD, found]
  rfl

theorem write_outside (memory : Nat → α) (address : Nat) (xs : List α) (place : Nat)
    (outside : place < address ∨ address + xs.length ≤ place) : write memory address xs place = memory place := by
  rw [write]
  by_cases before : place < address
  · rw [if_neg (by omega)]
  · have past : xs.length ≤ place - address := by omega
    rw [if_pos (by omega), List.getD_eq_getElem?_getD, List.getElem?_eq_none past]
    rfl

section Holds

variable {memory other : Nat → α} {address : Nat} {xs ys : List α}

theorem holds_congr (holds : Holds memory address xs)
    (same : ∀ place, address ≤ place → place < address + xs.length → other place = memory place) :
    Holds other address xs := by
  intro i x found
  obtain ⟨inside, _⟩ := List.getElem?_eq_some_iff.mp found
  rw [same (address + i) (Nat.le_add_right _ _) (by omega)]
  exact holds i x found

theorem holds_left (holds : Holds memory address (xs ++ ys)) : Holds memory address xs := by
  intro i x found
  obtain ⟨inside, _⟩ := List.getElem?_eq_some_iff.mp found
  exact holds i x (by rw [List.getElem?_append_left inside, found])

theorem holds_right (holds : Holds memory address (xs ++ ys)) : Holds memory (address + xs.length) ys := by
  intro i x found
  rw [Nat.add_assoc]
  exact holds (xs.length + i) x (by rw [List.getElem?_append_right (Nat.le_add_right _ _), Nat.add_sub_cancel_left, found])

theorem holds_read (holds : Holds memory address xs) :
    ((List.range xs.length).map fun i => memory (address + i)) = xs := by
  apply List.ext_getElem?
  intro i
  by_cases inside : i < xs.length
  · have found := List.getElem?_eq_getElem inside
    rw [List.getElem?_map, List.getElem?_range inside, Option.map_some, holds i _ found, found]
  · have past : xs.length ≤ i := Nat.le_of_not_lt inside
    rw [List.getElem?_eq_none (by rw [List.length_map, List.length_range]; exact past), List.getElem?_eq_none past]

end Holds

end Placement
