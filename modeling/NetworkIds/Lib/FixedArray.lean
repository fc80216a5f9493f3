import NetworkIds.Lib.Checked
import Mathlib.Logic.Function.Basic

set_option autoImplicit false

-- Arrays [α; n] whose every access is checked against n.
abbrev FixedArray (n : Nat) (α : Type) := Fin n → α

namespace FixedArray

variable {n : Nat} {α : Type}

def fill (n : Nat) (value : α) : FixedArray n α := fun _ => value

def get (array : FixedArray n α) (i : Nat) : Checked α :=
  if inside : i < n then .ok (array ⟨i, inside⟩) else .error .indexOutOfBounds

def set (array : FixedArray n α) (i : Nat) (value : α) : Checked (FixedArray n α) :=
  if inside : i < n then .ok (Function.update array ⟨i, inside⟩ value) else .error .indexOutOfBounds

-- array[start..stop]
def slice (array : FixedArray n α) (start stop : Nat) : Checked (List α) :=
  Checked.slice (List.ofFn array) start stop

def Holds (array : FixedArray n α) (values : List α) : Prop :=
  ∀ i (inside : i < values.length), array.get i = .ok values[i]

theorem get_ok (array : FixedArray n α) (i : Nat) (inside : i < n) :
    array.get i = .ok (array ⟨i, inside⟩) := dif_pos inside

theorem set_ok (array : FixedArray n α) (i : Nat) (value : α) (inside : i < n) :
    array.set i value = .ok (Function.update array ⟨i, inside⟩ value) := dif_pos inside

theorem get_update_same (array : FixedArray n α) (i : Nat) (value : α) (inside : i < n) :
    get (Function.update array ⟨i, inside⟩ value) i = .ok value := by
  rw [get_ok _ i inside, Function.update_self]

theorem get_update_other (array : FixedArray n α) (i j : Nat) (value : α) (inside : i < n) (other : j ≠ i) :
    get (Function.update array ⟨i, inside⟩ value) j = array.get j := by
  by_cases bounded : j < n
  · have distinct : (⟨j, bounded⟩ : Fin n) ≠ ⟨i, inside⟩ := by simpa [Fin.ext_iff] using other
    rw [get_ok _ j bounded, get_ok _ j bounded, Function.update_of_ne distinct]
  · rw [get, get, dif_neg bounded, dif_neg bounded]

theorem holds_nil (array : FixedArray n α) : array.Holds [] := by
  intro i inside
  simp at inside

theorem holds_append (array : FixedArray n α) (values : List α) (value : α) (room : values.length < n)
    (holds : array.Holds values) :
    Holds (Function.update array ⟨values.length, room⟩ value) (values ++ [value]) := by
  intro i inside
  by_cases last : i = values.length
  · subst last
    rw [get_update_same, List.getElem_concat_length rfl]
  · have earlier : i < values.length := by
      simp only [List.length_append, List.length_singleton] at inside
      omega
    rw [get_update_other _ _ _ _ room last, holds i earlier, List.getElem_append_left earlier]

theorem slice_ok (array : FixedArray n α) (values : List α) (start : Nat) (inside : start + values.length ≤ n)
    (stored : ∀ i (bound : i < values.length), array.get (start + i) = .ok values[i]) :
    array.slice start (start + values.length) = .ok values := by
  rw [slice, Checked.slice_ok (by omega) (by simpa using inside)]
  congr 1
  apply List.ext_getElem
  · simp only [List.length_drop, List.length_take, List.length_ofFn]
    omega
  · intro i left right
    have entry := stored i right
    rw [get_ok _ _ (by omega)] at entry
    simpa using Except.ok.inj entry

end FixedArray
