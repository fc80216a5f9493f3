import Mathlib.Order.Basic
import Mathlib.Tactic.Common

set_option autoImplicit false

-- A machine that takes inputs with a time and puts out a list for each of them, and an
-- observer who sees some of the inputs and something of the outputs.
namespace Unwinding

variable {σ ι ο ω τ : Type}

structure Machine (σ ι ο : Type) where
  step : σ → ι → σ × List ο

def outputs (machine : Machine σ ι ο) (state : σ) : List ι → List ο
  | [] => []
  | input :: rest => (machine.step state input).2 ++ outputs machine (machine.step state input).1 rest

-- What the observer cannot see has no effect on what he sees: alike states stay alike
-- when both take a visible input, and when one of them takes an invisible one.
structure Hides [LE τ] (machine : Machine σ ι ο) (time : ι → τ) (visible : ι → Bool) (view : ο → Option ω)
    (alike : τ → σ → σ → Prop) : Prop where
  later : ∀ now next first second, now ≤ next → alike now first second → alike next first second
  seen : ∀ input first second, visible input = true → alike (time input) first second →
    (machine.step first input).2.filterMap view = (machine.step second input).2.filterMap view ∧
      alike (time input) (machine.step first input).1 (machine.step second input).1
  unseen : ∀ input first second, visible input = false → alike (time input) first second →
    (machine.step first input).2.filterMap view = [] ∧ alike (time input) (machine.step first input).1 second

variable [LE τ] {machine : Machine σ ι ο} {time : ι → τ} {visible : ι → Bool} {view : ο → Option ω}
  {alike : τ → σ → σ → Prop}

theorem outputs_purged (hides : Hides machine time visible view alike) (inputs : List ι) (now : τ)
    (first second : σ) (same : alike now first second) (ordered : (now :: inputs.map time).Pairwise (· ≤ ·)) :
    (outputs machine first inputs).filterMap view =
      (outputs machine second (inputs.filter visible)).filterMap view := by
  induction inputs generalizing now first second with
  | nil => rfl
  | cons input rest ih =>
      obtain ⟨after, later⟩ := List.pairwise_cons.mp ordered
      have arrived := hides.later now (time input) first second (after _ List.mem_cons_self) same
      rw [outputs, List.filterMap_append]
      cases shown : visible input with
      | true =>
          obtain ⟨views, next⟩ := hides.seen input first second shown arrived
          rw [List.filter_cons_of_pos shown, outputs, List.filterMap_append, views, ih _ _ _ next later]
      | false =>
          obtain ⟨silent, next⟩ := hides.unseen input first second shown arrived
          rw [List.filter_cons_of_neg (by rw [shown]; exact Bool.false_ne_true), silent, List.nil_append,
            ih _ _ _ next later]

end Unwinding
