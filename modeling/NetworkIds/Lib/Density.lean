import Mathlib.Algebra.Order.Field.Basic
import Mathlib.Data.Finset.Max
import Mathlib.Tactic.Linarith
import Mathlib.Tactic.Ring

set_option autoImplicit false

-- Lists of points on a line with few of them in every window of one width.
namespace Density

section Windows

variable {K : Type} [Sub K] [LinearOrder K]

def windowCount (width : K) (points : List K) (x : K) : Nat :=
  points.countP fun t => decide (t ≤ x) && decide (x - t < width)

def Sparse (width : K) (count : Nat) (points : List K) : Prop := ∀ x ∈ points, windowCount width points x ≤ count

theorem sparse_nil (width : K) (count : Nat) : Sparse width count [] := by
  intro x member
  cases member

theorem Sparse.sublist {width : K} {count : Nat} {points fewer : List K} (sparse : Sparse width count points)
    (sub : fewer.Sublist points) : Sparse width count fewer := by
  intro x member
  exact (sub.countP_le).trans (sparse x (sub.subset member))

theorem Sparse.concat {width : K} {count : Nat} {points : List K} (sparse : Sparse width count points) (now : K)
    (past : ∀ t ∈ points, t ≤ now) (window : (points ++ [now]).countP (fun t => decide (now - t < width)) ≤ count) :
    Sparse width count (points ++ [now]) := by
  have all : ∀ t ∈ points ++ [now], t ≤ now := by
    intro t member
    cases List.mem_append.mp member with
    | inl before => exact past t before
    | inr same => exact le_of_eq (List.mem_singleton.mp same)
  have atNow : windowCount width (points ++ [now]) now ≤ count := by
    refine le_trans (List.countP_mono_left ?_) window
    intro t _ counted
    exact (Bool.and_eq_true_iff.mp counted).2
  intro x member
  by_cases same : x = now
  · rw [same]
    exact atNow
  · have before : x ∈ points := by
      cases List.mem_append.mp member with
      | inl inside => exact inside
      | inr last => exact absurd (List.mem_singleton.mp last) same
    have later : ¬ now ≤ x := fun reached => same (le_antisymm (past x before) reached)
    rw [windowCount, List.countP_append, List.countP_singleton, if_neg (by simp [later]), Nat.add_zero]
    exact sparse x before

end Windows

theorem exists_greatest {K : Type} [LinearOrder K] (points : List K) (filled : points ≠ []) :
    ∃ x ∈ points, ∀ t ∈ points, t ≤ x := by
  obtain ⟨x, member, greatest⟩ := Finset.exists_max_image points.toFinset id
    (List.toFinset_nonempty_iff points |>.mpr filled)
  exact ⟨x, List.mem_toFinset.mp member, fun t inside => greatest t (List.mem_toFinset.mpr inside)⟩

-- Windows are laid one after the other from the greatest point down.
theorem Sparse.length_le {K : Type} [Field K] [LinearOrder K] [IsStrictOrderedRing K] {width : K} {count : Nat}
    {points : List K} (sparse : Sparse width count points) (n : Nat) (newest : K)
    (inside : ∀ t ∈ points, t ≤ newest ∧ newest - t < n * width) : points.length ≤ n * count := by
  induction n generalizing points newest with
  | zero =>
      cases points with
      | nil => exact Nat.zero_le _
      | cons t rest =>
          obtain ⟨upper, lower⟩ := inside t (List.mem_cons_self ..)
          rw [Nat.cast_zero, zero_mul] at lower
          linarith
  | succ n ih =>
      by_cases empty : points = []
      · rw [empty]
        exact Nat.zero_le _
      · obtain ⟨x, member, greatest⟩ := exists_greatest points empty
        have below := ih (sparse.sublist (List.filter_sublist (p := fun t => decide (width ≤ x - t)))) (x - width) (by
          intro t kept
          obtain ⟨among, far⟩ := List.mem_filter.mp kept
          have apart : width ≤ x - t := by simpa using far
          have lower := (inside t among).2
          have top := (inside x member).1
          push_cast at lower
          constructor
          · linarith
          · nlinarith)
        have split : points.length = windowCount width points x +
            (points.filter fun t => decide (width ≤ x - t)).length := by
          have near : points.countP (fun t => decide (x - t < width)) = windowCount width points x := by
            apply List.countP_congr
            intro t among
            simp [greatest t among]
          rw [← near, ← List.countP_eq_length_filter]
          have parts := List.length_eq_countP_add_countP (fun t => decide (x - t < width)) (l := points)
          simp only [decide_eq_true_eq, not_lt] at parts
          exact parts
        have first := sparse x member
        calc points.length
            = windowCount width points x + (points.filter fun t => decide (width ≤ x - t)).length := split
          _ ≤ count + n * count := Nat.add_le_add first below
          _ = (n + 1) * count := by ring

end Density
