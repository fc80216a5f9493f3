import Mathlib.Data.Set.Basic
import Mathlib.Tactic.Common

set_option autoImplicit false

-- Lists that a family of tests cannot tell apart: every test of the family
-- selects the same elements of both.
namespace Observation

variable {α : Type}

def SameUnder (tests : Set (α → Bool)) (xs ys : List α) : Prop :=
  ∀ test ∈ tests, xs.filter test = ys.filter test

variable {tests : Set (α → Bool)} {xs ys : List α}

theorem same_refl (tests : Set (α → Bool)) (xs : List α) : SameUnder tests xs xs := fun _ _ => rfl

theorem same_symm (same : SameUnder tests xs ys) : SameUnder tests ys xs := fun test member => (same test member).symm

theorem same_append (same : SameUnder tests xs ys) (zs : List α) : SameUnder tests (xs ++ zs) (ys ++ zs) := by
  intro test member
  rw [List.filter_append, List.filter_append, same test member]

theorem same_fewer {fewer : Set (α → Bool)} (same : SameUnder tests xs ys) (subset : fewer ⊆ tests) :
    SameUnder fewer xs ys := fun test member => same test (subset member)

theorem same_prune (same : SameUnder tests xs ys) (keep : α → Bool)
    (implied : ∀ test ∈ tests, ∀ x, test x = true → keep x = true) : SameUnder tests (xs.filter keep) ys := by
  intro test member
  rw [List.filter_filter, ← same test member]
  apply List.filter_congr
  intro x _
  by_cases selected : test x = true
  · rw [selected, implied test member x selected]
    rfl
  · simp [selected]

theorem same_count (same : SameUnder tests xs ys) (test : α → Bool) (member : test ∈ tests) :
    xs.countP test = ys.countP test := by
  rw [List.countP_eq_length_filter, List.countP_eq_length_filter, same test member]

end Observation
