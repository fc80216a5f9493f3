import Mathlib.Algebra.Group.Nat.Defs
import Mathlib.Tactic.Common

set_option autoImplicit false

-- Computations over slices and machine integers whose every access and every
-- arithmetic step is checked. A failed check is a panic, and so is a loop that
-- uses up the fuel given to it, so a computation that ends in ok terminates.
inductive Panic where
  | indexOutOfBounds
  | sliceOutOfBounds
  | sliceOrder
  | lengthMismatch
  | overflow
  | unwrapNone
  | outOfFuel
deriving DecidableEq, Repr

abbrev Checked (α : Type) := Except Panic α

abbrev Bytes := List UInt8

namespace Checked

def usizeMax : Nat := 2 ^ 64 - 1

-- No allocation, and so no slice, is larger than isize::MAX bytes.
def isizeMax : Nat := 2 ^ 63 - 1

def add (a b : Nat) : Checked Nat :=
  if a + b ≤ usizeMax then .ok (a + b) else .error .overflow

-- if condition { a += b }
def addIf (condition : Bool) (a b : Nat) : Checked Nat :=
  if condition then add a b else .ok a

def sub (a b : Nat) : Checked Nat :=
  if b ≤ a then .ok (a - b) else .error .overflow

def mul (a b : Nat) : Checked Nat :=
  if a * b ≤ usizeMax then .ok (a * b) else .error .overflow

def addU16 (a b : UInt16) : Checked UInt16 :=
  if a.toNat + b.toNat < 2 ^ 16 then .ok (a + b) else .error .overflow

def index {α : Type} (data : List α) (i : Nat) : Checked α :=
  match data[i]? with
  | some value => .ok value
  | none => .error .indexOutOfBounds

def slice {α : Type} (data : List α) (start stop : Nat) : Checked (List α) :=
  if start ≤ stop then
    if stop ≤ data.length then .ok ((data.take stop).drop start) else .error .sliceOutOfBounds
  else .error .sliceOrder

-- data[start..]
def sliceFrom {α : Type} (data : List α) (start : Nat) : Checked (List α) :=
  if start ≤ data.length then .ok (data.drop start) else .error .sliceOutOfBounds

-- data[start + step]
def indexAdd {α : Type} (data : List α) (start step : Nat) : Checked α := do
  index data (← add start step)

def Safe {α : Type} (x : Checked α) (post : α → Prop) : Prop :=
  ∃ value, x = .ok value ∧ post value

def value {α : Type} (x : Checked α) (safe : ∃ result, x = .ok result) : α :=
  match x, safe with
  | .ok result, _ => result
  | .error _, panics => absurd panics (by simp)

variable {α β : Type}

theorem eq_ok_value (x : Checked α) (safe : ∃ result, x = .ok result) : x = .ok (x.value safe) := by
  obtain ⟨result, rfl⟩ := safe
  rfl

@[simp] theorem ok_bind (value : α) (next : α → Checked β) :
    ((.ok value : Checked α) >>= next) = next value := rfl

theorem error_bind (panic : Panic) (next : α → Checked β) :
    ((.error panic : Checked α) >>= next) = .error panic := rfl

@[simp] theorem pure_eq_ok (value : α) : (pure value : Checked α) = .ok value := rfl

theorem usize_room {length : Nat} (fits : length ≤ isizeMax) (extra : Nat) (small : extra ≤ 2 ^ 62) :
    length + extra ≤ usizeMax := by
  unfold usizeMax
  unfold isizeMax at fits
  omega

theorem usize_small {n : Nat} (small : n ≤ 2 ^ 62) : n ≤ usizeMax := by
  unfold usizeMax
  omega

theorem safe_ok {value : α} {post : α → Prop} (holds : post value) :
    Safe (.ok value : Checked α) post := ⟨value, rfl, holds⟩

theorem safe_terminates {x : Checked α} {post : α → Prop} (safe : Safe x post) : ∃ value, x = .ok value := by
  obtain ⟨value, result, _⟩ := safe
  exact ⟨value, result⟩

theorem safe_bind {x : Checked α} {next : α → Checked β} {mid : α → Prop} {post : β → Prop}
    (first : Safe x mid) (rest : ∀ value, mid value → Safe (next value) post) :
    Safe (x >>= next) post := by
  obtain ⟨value, result, holds⟩ := first
  rw [result]
  exact rest value holds

theorem safe_mono {x : Checked α} {pre post : α → Prop} (safe : Safe x pre)
    (weaken : ∀ value, pre value → post value) : Safe x post := by
  obtain ⟨value, result, holds⟩ := safe
  exact ⟨value, result, weaken value holds⟩

theorem safe_result {x : Checked α} {post : α → Prop} {value : α} (safe : Safe x post) (result : x = .ok value) :
    post value := by
  obtain ⟨other, same, holds⟩ := safe
  rw [result] at same
  cases same
  exact holds

inductive Related (R : α → β → Prop) : Checked α → Checked β → Prop where
  | ok {left : α} {right : β} (holds : R left right) : Related R (.ok left) (.ok right)
  | error (panic : Panic) : Related R (.error panic) (.error panic)

theorem related_bind {γ : Type} {R : α → β → Prop} {left : γ → Checked α} {right : γ → Checked β} (x : Checked γ)
    (rest : ∀ value, Related R (left value) (right value)) : Related R (x >>= left) (x >>= right) := by
  cases x with
  | error panic => exact .error panic
  | ok value => exact rest value

theorem related_ite {R : α → β → Prop} {condition : Prop} [Decidable condition] {left other : Checked α}
    {right another : Checked β} (taken : Related R left right) (skipped : Related R other another) :
    Related R (if condition then left else other) (if condition then right else another) := by
  by_cases holds : condition
  · rw [if_pos holds, if_pos holds]
    exact taken
  · rw [if_neg holds, if_neg holds]
    exact skipped

theorem related_result {R : α → β → Prop} {x : Checked α} {y : Checked β} {left : α} {right : β}
    (related : Related R x y) (first : x = .ok left) (second : y = .ok right) : R left right := by
  subst first second
  cases related with
  | ok holds => exact holds

theorem related_ok_left {R : α → β → Prop} {left : α} {y : Checked β} (related : Related R (.ok left) y) :
    ∃ right, y = .ok right ∧ R left right := by
  cases related with
  | ok holds => exact ⟨_, rfl, holds⟩

theorem related_symm {R : α → α → Prop} {first second : Checked α}
    (symm : ∀ left right, R left right → R right left) (related : Related R first second) :
    Related R second first := by
  cases related with
  | error panic => exact .error panic
  | ok holds => exact .ok (symm _ _ holds)

theorem related_trans {R : α → α → Prop} {first second third : Checked α}
    (trans : ∀ left middle right, R left middle → R middle right → R left right)
    (left : Related R first second) (right : Related R second third) : Related R first third := by
  cases left with
  | error panic =>
      cases right
      exact .error panic
  | ok before =>
      cases right with
      | ok after => exact .ok (trans _ _ _ before after)

theorem bind_eq_ok {x : Checked α} {next : α → Checked β} {result : β} (returned : x >>= next = .ok result) :
    ∃ value, x = .ok value ∧ next value = .ok result := by
  cases x with
  | error panic => cases returned
  | ok value => exact ⟨value, rfl, returned⟩

theorem add_ok {a b : Nat} (bounded : a + b ≤ usizeMax) : add a b = .ok (a + b) := if_pos bounded

theorem add_if_ok {condition : Bool} {a b : Nat} (bounded : a + b ≤ usizeMax) :
    addIf condition a b = .ok (if condition then a + b else a) := by
  cases condition
  · rfl
  · exact add_ok bounded

theorem sub_ok {a b : Nat} (bounded : b ≤ a) : sub a b = .ok (a - b) := if_pos bounded

theorem mul_ok {a b : Nat} (bounded : a * b ≤ usizeMax) : mul a b = .ok (a * b) := if_pos bounded

theorem add_u16_ok (a b : UInt16) (total : Nat) (sum : a.toNat + b.toNat = total) (bounded : total < 2 ^ 16) :
    Safe (addU16 a b) (fun result => result.toNat = total) := by
  refine ⟨a + b, if_pos (by omega), ?_⟩
  have wrapped := UInt16.toNat_add a b
  dsimp only
  omega

-- for i in 0..count over a checked body: what holds before round i holds after it.
theorem range_loop_safe {σ : Type} (body : σ → Nat → Checked σ) (inv : Nat → σ → Prop) (count : Nat)
    (init : σ) (start : inv 0 init)
    (keeps : ∀ i state, i < count → inv i state → Safe (body state i) (inv (i + 1))) :
    Safe ((List.range count).foldlM body init) (inv count) := by
  induction count with
  | zero => exact safe_ok start
  | succ count ih =>
      rw [List.range_succ, List.foldlM_append]
      refine safe_bind (ih fun i state inside => keeps i state (by omega)) ?_
      intro state holds
      simpa only [List.foldlM_cons, List.foldlM_nil, bind_pure] using keeps count state (by omega) holds

theorem range_loop_ok {σ : Type} (body : σ → Nat → Checked σ) (state : Nat → σ) (count : Nat)
    (round : ∀ i, i < count → body (state i) i = .ok (state (i + 1))) :
    (List.range count).foldlM body (state 0) = .ok (state count) := by
  induction count with
  | zero => rfl
  | succ count ih =>
      rw [List.range_succ, List.foldlM_append, ih fun i inside => round i (by omega), ok_bind,
        List.foldlM_cons, round count (by omega), ok_bind]
      rfl

theorem index_zero (value : α) (rest : List α) : index (value :: rest) 0 = .ok value := rfl

theorem index_succ (value : α) (rest : List α) (i : Nat) :
    index (value :: rest) (i + 1) = index rest i := rfl

theorem index_add_getD {data : Bytes} {start step : Nat} (inside : start + step < data.length)
    (fits : data.length ≤ isizeMax) : indexAdd data start step = .ok (data.getD (start + step) 0) := by
  have room := usize_room fits 0 (by omega)
  have bounded : start + step ≤ usizeMax := by omega
  rw [indexAdd, add_ok bounded, ok_bind]
  simp [index, List.getElem?_eq_getElem inside]

theorem index_getD {data : Bytes} {i : Nat} (inside : i < data.length) :
    index data i = .ok (data.getD i 0) := by
  simp [index, List.getElem?_eq_getElem inside]

theorem slice_ok {data : List α} {start stop : Nat} (ordered : start ≤ stop)
    (inside : stop ≤ data.length) : slice data start stop = .ok ((data.take stop).drop start) := by
  rw [slice, if_pos ordered, if_pos inside]

theorem slice_bounds {data part : List α} {start stop : Nat} (read : slice data start stop = .ok part) :
    start ≤ stop ∧ stop ≤ data.length := by
  unfold slice at read
  split at read
  · rename_i ordered
    split at read
    · rename_i inside
      exact ⟨ordered, inside⟩
    · cases read
  · cases read

theorem slice_from_ok {data : List α} {start : Nat} (inside : start ≤ data.length) :
    sliceFrom data start = .ok (data.drop start) := if_pos inside

theorem slice_length (data : List α) (start stop : Nat) (inside : stop ≤ data.length) :
    ((data.take stop).drop start).length = stop - start := by
  rw [List.length_drop, List.length_take, Nat.min_eq_left inside]

theorem slice_long {data : List α} {start stop count : Nat} (inside : stop ≤ data.length)
    (room : start + count ≤ stop) : count ≤ ((data.take stop).drop start).length := by
  rw [slice_length data start stop inside]
  omega

theorem slice_middle (before middle after : List α) {start stop : Nat}
    (startEq : before.length = start) (stopEq : before.length + middle.length = stop) :
    slice (before ++ (middle ++ after)) start stop = .ok middle := by
  subst startEq stopEq
  rw [slice_ok (by omega) (by simp), List.take_append, List.drop_append]
  simp

theorem slice_last (before middle : List α) {start stop : Nat} (startEq : before.length = start)
    (stopEq : before.length + middle.length = stop) : slice (before ++ middle) start stop = .ok middle := by
  simpa using slice_middle before middle [] startEq stopEq

theorem slice_from_append (before rest : List α) {start : Nat} (startEq : before.length = start) :
    sliceFrom (before ++ rest) start = .ok rest := by
  subst startEq
  rw [slice_from_ok (by simp), List.drop_left]

theorem index_append (before rest : List α) {start : Nat} (startEq : before.length = start) (i : Nat) :
    index (before ++ rest) (start + i) = index rest i := by
  subst startEq
  rw [index, index, List.getElem?_append_right (by omega), Nat.add_sub_cancel_left]

theorem index_add_append (before rest : List α) {start : Nat} (startEq : before.length = start) (i step : Nat)
    (bounded : start + i + step ≤ usizeMax) :
    indexAdd (before ++ rest) (start + i) step = index rest (i + step) := by
  rw [indexAdd, add_ok bounded, ok_bind, Nat.add_assoc, index_append before rest startEq]

theorem index_append_left (data rest : List α) {i : Nat} (inside : i < data.length) :
    index (data ++ rest) i = index data i := by
  rw [index, index, List.getElem?_append_left inside]

theorem index_leading (front rest : Bytes) {i : Nat} (inside : i < front.length) :
    index (front ++ rest) i = .ok (front.getD i 0) := by
  rw [index_append_left front rest inside, index_getD inside]

theorem index_add_append_left (data rest : List α) {start step : Nat} (inside : start + step < data.length) :
    indexAdd (data ++ rest) start step = indexAdd data start step := by
  by_cases room : start + step ≤ usizeMax
  · rw [indexAdd, indexAdd, add_ok room, ok_bind, ok_bind, index_append_left data rest inside]
  · rw [indexAdd, indexAdd, add, if_neg room]
    rfl

theorem slice_append_left (data rest : List α) {start stop : Nat} (inside : stop ≤ data.length) :
    slice (data ++ rest) start stop = slice data start stop := by
  by_cases ordered : start ≤ stop
  · rw [slice_ok ordered (by rw [List.length_append]; omega), slice_ok ordered inside, List.take_append_of_le_length inside]
  · rw [slice, slice, if_neg ordered, if_neg ordered]

theorem drop_getD (data : Bytes) (start i : Nat) : (data.drop start).getD i 0 = data.getD (start + i) 0 := by
  rw [List.getD_eq_getElem?_getD, List.getD_eq_getElem?_getD, List.getElem?_drop]

theorem take_getD (data : Bytes) (stop i : Nat) (inside : i < stop) : (data.take stop).getD i 0 = data.getD i 0 := by
  rw [List.getD_eq_getElem?_getD, List.getD_eq_getElem?_getD, List.getElem?_take_of_lt inside]

theorem flat_map_length {β : Type} (encode : α → List β) (size : Nat) (sized : ∀ item, (encode item).length = size)
    (items : List α) : (items.flatMap encode).length = size * items.length := by
  have sizes : items.map (fun item => (encode item).length) = List.replicate items.length size := by
    simp only [sized, List.map_const']
  rw [List.length_flatMap, sizes, List.sum_replicate_nat, Nat.mul_comm]

theorem flat_map_longer {β : Type} (encode : α → List β) (present : ∀ item, 1 ≤ (encode item).length) (items : List α) :
    items.length ≤ (items.flatMap encode).length := by
  induction items with
  | nil => exact Nat.le_refl 0
  | cons item rest ih =>
      have first := present item
      rw [List.flatMap_cons, List.length_append, List.length_cons]
      omega

theorem slice_contiguous (data : List α) (start stop : Nat) : (data.take stop).drop start <:+: data :=
  (List.drop_suffix start _).isInfix.trans (List.take_prefix stop data).isInfix

theorem drop_contiguous (data : List α) (start : Nat) : data.drop start <:+: data :=
  (List.drop_suffix start data).isInfix

end Checked

-- A byte slice as the language hands it out: never longer than isize::MAX.
structure Buffer where
  bytes : Bytes
  fits : bytes.length ≤ Checked.isizeMax

-- Fixed-size byte arrays [u8; n].
abbrev Octets (n : Nat) := { bytes : Bytes // bytes.length = n }

namespace Octets

def fill (n : Nat) (byte : UInt8) : Octets n := ⟨List.replicate n byte, List.length_replicate⟩

-- copy_from_slice panics unless the lengths agree.
def copyFromSlice (n : Nat) (source : Bytes) : Checked (Octets n) :=
  if same : source.length = n then .ok ⟨source, same⟩ else .error .lengthMismatch

theorem copy_ok {n : Nat} {source : Bytes} (same : source.length = n) :
    copyFromSlice n source = .ok ⟨source, same⟩ := dif_pos same

end Octets
