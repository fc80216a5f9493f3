import Mathlib.Logic.Relation
import Mathlib.Tactic.Common

set_option autoImplicit false

-- Systems that reach a goal by steps of their own.
namespace Progress

variable {σ ρ : Type}

structure Descends (less : ρ → ρ → Prop) (rank : σ → ρ) (step : σ → σ → Prop) (inv goal : σ → Prop) : Prop where
  wellFounded : WellFounded less
  moves : ∀ state, inv state → ¬goal state → ∃ after, step state after ∧ inv after ∧ less (rank after) (rank state)

theorem reaches_goal {less : ρ → ρ → Prop} {rank : σ → ρ} {step : σ → σ → Prop} {inv goal : σ → Prop}
    (descends : Descends less rank step inv goal) (state : σ) (holds : inv state) :
    ∃ later, Relation.ReflTransGen step state later ∧ inv later ∧ goal later := by
  induction state using (InvImage.wf rank descends.wellFounded).induction with
  | h state ih =>
      by_cases done : goal state
      · exact ⟨state, .refl, holds, done⟩
      · obtain ⟨after, stepped, kept, lower⟩ := descends.moves state holds done
        obtain ⟨later, run, reached⟩ := ih after lower kept
        exact ⟨later, .head stepped run, reached⟩

end Progress
