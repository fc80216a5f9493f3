import Mathlib.Algebra.Order.Group.Defs
import Mathlib.Algebra.Order.Sub.Basic
import Mathlib.Tactic.Common

set_option autoImplicit false

-- A table whose entries expire when they have not been seen for a while. Expiry by a
-- cleanup from time to time is compared with exact timers.
namespace LazyExpiry

structure Entries (ε ι τ : Type) where
  seen : ε → τ
  closed : ε → Bool
  next : Option ε → ι → τ → Option ε

variable {ε ι τ : Type} (entries : Entries ε ι τ)

def Below (lower upper : Option ε) : Prop :=
  ∀ entry, lower = some entry → entries.closed entry = false → upper = some entry

structure Lawful : Prop where
  monotone : ∀ lower upper input now, Below entries lower upper →
    Below entries (entries.next lower input now) (entries.next upper input now)
  fresh : ∀ before input now entry, entries.next before input now = some entry → entries.closed entry = false →
    before = some entry ∨ entries.seen entry = now

section Runs

variable [AddCommGroup τ] [LinearOrder τ]

def live (limit now : τ) (entry : ε) : Bool := !entries.closed entry && decide (now - entries.seen entry < limit)

def exactStep (limit : τ) (entry : Option ε) (input : ι × τ) : Option ε :=
  entries.next (entry.filter (live entries limit input.2)) input.1 input.2

def exactRun (limit : τ) (inputs : List (ι × τ)) : Option ε := inputs.foldl (exactStep entries limit) none

structure Cleaned (ε τ : Type) where
  entry : Option ε
  cleanedAt : τ

def clean (limit period now : τ) (table : Cleaned ε τ) : Cleaned ε τ :=
  if now - table.cleanedAt < period then table else ⟨table.entry.filter (live entries limit now), now⟩

def lazyStep (limit period : τ) (table : Cleaned ε τ) (input : ι × τ) : Cleaned ε τ where
  entry := entries.next (clean entries limit period input.2 table).entry input.1 input.2
  cleanedAt := (clean entries limit period input.2 table).cleanedAt

def lazyRun (limit period : τ) (table : Cleaned ε τ) (inputs : List (ι × τ)) : Cleaned ε τ :=
  inputs.foldl (lazyStep entries limit period) table

-- The table lies between the timers of the limit and those of limit and period.
structure Between (limit now : τ) (lower : Option ε) (table : Cleaned ε τ) (upper : Option ε) : Prop where
  above : Below entries lower table.entry
  below : Below entries table.entry upper
  cleaned : table.cleanedAt ≤ now
  recent : ∀ entry, table.entry = some entry → entries.closed entry = false →
    table.cleanedAt - entries.seen entry < limit

variable {entries} {limit period now : τ} {lower upper : Option ε} {table : Cleaned ε τ}

theorem live_iff (entry : ε) : live entries limit now entry = true ↔
    entries.closed entry = false ∧ now - entries.seen entry < limit := by
  rw [live, Bool.and_eq_true, Bool.not_eq_true', decide_eq_true_iff]

theorem clean_kept (entry : ε) (present : table.entry = some entry) (alive : live entries limit now entry = true) :
    (clean entries limit period now table).entry = some entry := by
  rw [clean]
  by_cases early : now - table.cleanedAt < period
  · rw [if_pos early]
    exact present
  · rw [if_neg early]
    dsimp only
    rw [present, Option.filter_some, if_pos alive]

theorem clean_subset (entry : ε) (kept : (clean entries limit period now table).entry = some entry) :
    table.entry = some entry := by
  rw [clean] at kept
  by_cases early : now - table.cleanedAt < period
  · rw [if_pos early] at kept
    exact kept
  · rw [if_neg early] at kept
    exact (Option.filter_eq_some_iff.mp kept).1

theorem clean_time (positive : 0 < period) : now - (clean entries limit period now table).cleanedAt < period := by
  rw [clean]
  by_cases early : now - table.cleanedAt < period
  · rw [if_pos early]
    exact early
  · rw [if_neg early]
    dsimp only
    rw [sub_self]
    exact positive

variable [IsOrderedAddMonoid τ]

theorem Between.clean (between : Between entries limit now lower table upper) (later : τ) (ordered : now ≤ later)
    (positive : 0 < period) :
    Between entries limit later (lower.filter (live entries limit later)) (clean entries limit period later table)
      (upper.filter (live entries (limit + period) later)) := by
  have recent : ∀ entry, (LazyExpiry.clean entries limit period later table).entry = some entry →
      entries.closed entry = false →
      (LazyExpiry.clean entries limit period later table).cleanedAt - entries.seen entry < limit := by
    intro entry kept opened
    rw [LazyExpiry.clean] at kept ⊢
    by_cases early : later - table.cleanedAt < period
    · rw [if_pos early] at kept ⊢
      exact between.recent entry kept opened
    · rw [if_neg early] at kept ⊢
      exact ((live_iff entry).mp (Option.filter_eq_some_iff.mp kept).2).2
  refine ⟨?_, ?_, ?_, recent⟩
  · intro entry timed opened
    obtain ⟨present, alive⟩ := Option.filter_eq_some_iff.mp timed
    exact clean_kept entry (between.above entry present opened) alive
  · intro entry kept opened
    have present := between.below entry (clean_subset entry kept) opened
    have sinceCleanup : later - (LazyExpiry.clean entries limit period later table).cleanedAt < period :=
      clean_time positive
    have age : later - entries.seen entry < limit + period := by
      have sum := add_lt_add sinceCleanup (recent entry kept opened)
      rwa [sub_add_sub_cancel, add_comm period] at sum
    rw [present, Option.filter_some, if_pos ((live_iff entry).mpr ⟨opened, age⟩)]
  · rw [LazyExpiry.clean]
    by_cases early : later - table.cleanedAt < period
    · rw [if_pos early]
      exact between.cleaned.trans ordered
    · rw [if_neg early]

theorem Between.step (lawful : Lawful entries) (between : Between entries limit now lower table upper)
    (input : ι × τ) (ordered : now ≤ input.2) (long : 0 < limit) (positive : 0 < period) :
    Between entries limit input.2 (exactStep entries limit lower input) (lazyStep entries limit period table input)
      (exactStep entries (limit + period) upper input) := by
  have cleaned := between.clean input.2 ordered positive
  refine ⟨lawful.monotone _ _ _ _ cleaned.above, lawful.monotone _ _ _ _ cleaned.below, cleaned.cleaned, ?_⟩
  intro entry stored opened
  rcases lawful.fresh _ _ _ entry stored opened with before | now
  · exact cleaned.recent entry before opened
  · show (LazyExpiry.clean entries limit period input.2 table).cleanedAt - entries.seen entry < limit
    rw [now]
    exact lt_of_le_of_lt (sub_nonpos.mpr cleaned.cleaned) long

theorem Between.run (lawful : Lawful entries) (between : Between entries limit now lower table upper)
    (inputs : List (ι × τ)) (ordered : (now :: inputs.map Prod.snd).Pairwise (· ≤ ·)) (long : 0 < limit)
    (positive : 0 < period) :
    ∃ last, Between entries limit last (inputs.foldl (exactStep entries limit) lower)
      (lazyRun entries limit period table inputs) (inputs.foldl (exactStep entries (limit + period)) upper) := by
  induction inputs generalizing now lower table upper with
  | nil => exact ⟨now, between⟩
  | cons input rest ih =>
      obtain ⟨after, later⟩ := List.pairwise_cons.mp ordered
      exact ih (between.step lawful input (after _ List.mem_cons_self) long positive) later

theorem lazy_between (lawful : Lawful entries) (start : τ) (inputs : List (ι × τ))
    (ordered : (start :: inputs.map Prod.snd).Pairwise (· ≤ ·)) (long : 0 < limit) (positive : 0 < period) :
    Below entries (exactRun entries limit inputs) (lazyRun entries limit period ⟨none, start⟩ inputs).entry ∧
      Below entries (lazyRun entries limit period ⟨none, start⟩ inputs).entry
        (exactRun entries (limit + period) inputs) := by
  have nothing (upper : Option ε) : Below entries none upper := by
    intro entry absent
    cases absent
  have fresh : Between entries limit start none ⟨none, start⟩ none := by
    refine ⟨nothing none, nothing none, le_refl start, ?_⟩
    intro entry absent
    cases absent
  obtain ⟨last, between⟩ := fresh.run lawful inputs ordered long positive
  exact ⟨between.above, between.below⟩

end Runs

end LazyExpiry
