import Mathlib.Tactic.Common

set_option autoImplicit false

-- A state that takes in items one after another. What every item either sets or
-- leaves alone ends as the last item to set it has it.
namespace LastWins

variable {σ α β : Type}

def last (read : α → Option β) (items : List α) : Option β := (items.filterMap read).getLast?

@[simp] theorem last_nil (read : α → Option β) : last read [] = none := rfl

theorem last_cons (read : α → Option β) (item : α) (rest : List α) :
    last read (item :: rest) = (last read rest).or (read item) := by
  unfold last
  cases value : read item with
  | none => rw [List.filterMap_cons_none value, Option.or_none]
  | some found => rw [List.filterMap_cons_some value, List.getLast?_cons, Option.or_some]

variable (step : σ → α → σ) (items : List α) (init : σ)

theorem fold_last (get : σ → Option β) (read : α → Option β)
    (reads : ∀ state item, get (step state item) = (read item).or (get state)) :
    get (items.foldl step init) = (last read items).or (get init) := by
  induction items generalizing init with
  | nil => rfl
  | cons item rest ih => rw [List.foldl_cons, ih, reads, last_cons, Option.or_assoc]

theorem fold_last_default (get : σ → β) (read : α → Option β)
    (reads : ∀ state item, get (step state item) = (read item).getD (get state)) :
    get (items.foldl step init) = (last read items).getD (get init) := by
  induction items generalizing init with
  | nil => rfl
  | cons item rest ih => rw [List.foldl_cons, ih, reads, last_cons, Option.getD_or]

theorem fold_any (get : σ → Bool) (test : α → Bool)
    (reads : ∀ state item, get (step state item) = (test item || get state)) :
    get (items.foldl step init) = (items.any test || get init) := by
  induction items generalizing init with
  | nil => rfl
  | cons item rest ih => rw [List.foldl_cons, ih, reads, List.any_cons, ← Bool.or_assoc, Bool.or_comm (rest.any test)]

theorem fold_collect (get : σ → List β) (read : α → List β)
    (reads : ∀ state item, get (step state item) = get state ++ read item) :
    get (items.foldl step init) = get init ++ items.flatMap read := by
  induction items generalizing init with
  | nil => rw [List.foldl_nil, List.flatMap_nil, List.append_nil]
  | cons item rest ih => rw [List.foldl_cons, ih, reads, List.flatMap_cons, List.append_assoc]

end LastWins
