import Mathlib.Data.List.Basic
import Mathlib.Tactic.Common

set_option autoImplicit false

-- Fields that end where a character comes that they do not contain.
namespace Delimited

variable {α : Type}

theorem field_inj (stop : α) (first second rest others : List α) (plain : stop ∉ first) (plainSecond : stop ∉ second)
    (same : first ++ stop :: rest = second ++ stop :: others) : first = second ∧ rest = others := by
  induction first generalizing second with
  | nil =>
      cases second with
      | nil => exact ⟨rfl, (List.cons.inj same).2⟩
      | cons next second => exact absurd (List.cons.inj same).1 (List.ne_of_not_mem_cons plainSecond)
  | cons char first ih =>
      cases second with
      | nil => exact absurd (List.cons.inj same).1.symm (List.ne_of_not_mem_cons plain)
      | cons next second =>
          obtain ⟨rfl, rest⟩ := List.cons.inj same
          obtain ⟨rfl, others⟩ := ih second (List.not_mem_of_not_mem_cons plain)
            (List.not_mem_of_not_mem_cons plainSecond) rest
          exact ⟨rfl, others⟩

theorem field_text_inj {stop : α} {text : List α} (begins : text.head? = some stop) {first second rest others : List α}
    (plain : stop ∉ first) (plainSecond : stop ∉ second)
    (same : first ++ (text ++ rest) = second ++ (text ++ others)) : first = second ∧ rest = others := by
  obtain ⟨tail, rfl⟩ : ∃ tail, text = stop :: tail := List.head?_eq_some_iff.mp begins
  obtain ⟨fields, behind⟩ := field_inj stop first second _ _ plain plainSecond same
  exact ⟨fields, List.append_cancel_left behind⟩

end Delimited
