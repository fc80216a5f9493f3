import Mathlib.Data.List.Induction
import Mathlib.Data.List.Perm.Subperm
import Mathlib.Data.List.Nodup
import Mathlib.Tactic.Common

set_option autoImplicit false

-- Splitting a list into buckets by a key, each bucket in the order of the list.
namespace Grouping

variable {α κ : Type}

theorem keys_length_le (key : α → κ) (keys : List κ) (xs : List α) (distinct : keys.Nodup)
    (used : ∀ k ∈ keys, ∃ x ∈ xs, key x = k) : keys.length ≤ xs.length := by
  have subset : keys ⊆ xs.map key := fun k member => by simpa using used k member
  simpa using (List.Nodup.subperm distinct subset).length_le

theorem mem_take_succ (keys : List κ) (i : Nat) (inside : i < keys.length) (k : κ) :
    k ∈ keys.take (i + 1) ↔ k ∈ keys.take i ∨ k = keys[i] := by
  rw [List.take_succ_eq_append_getElem inside, List.mem_append, List.mem_singleton]

theorem not_mem_take (keys : List κ) (distinct : keys.Nodup) (i : Nat) (inside : i < keys.length) :
    keys[i] ∉ keys.take i := by
  intro member
  obtain ⟨j, bound, same⟩ := List.mem_iff_getElem.mp member
  have earlier : j < i := by
    rw [List.length_take] at bound
    omega
  rw [List.getElem_take] at same
  have equal := (List.Nodup.getElem_inj_iff distinct).mp same
  omega

variable [DecidableEq κ]

def bucket (key : α → κ) (k : κ) (xs : List α) : List α := xs.filter (fun x => key x = k)

def grouped (key : α → κ) (keys : List κ) (xs : List α) : List α := keys.flatMap (fun k => bucket key k xs)

theorem bucket_concat_same (key : α → κ) (xs : List α) (x : α) :
    bucket key (key x) (xs ++ [x]) = bucket key (key x) xs ++ [x] := by
  simp [bucket]

theorem bucket_concat_other (key : α → κ) (k : κ) (xs : List α) (x : α) (other : key x ≠ k) :
    bucket key k (xs ++ [x]) = bucket key k xs := by
  simp [bucket, other]

theorem bucket_take_length (key : α → κ) (k : κ) (xs : List α) (i : Nat) :
    (bucket key k (xs.take i)).length ≤ (bucket key k xs).length :=
  ((List.take_sublist i xs).filter _).length_le

theorem bucket_empty (key : α → κ) (k : κ) (xs : List α) (absent : ¬ ∃ x ∈ xs, key x = k) :
    bucket key k xs = [] := by
  rw [bucket, List.filter_eq_nil_iff]
  intro x member same
  exact absent ⟨x, member, by simpa using same⟩

theorem bucket_of_others (key : α → κ) (j k : κ) (xs : List α) (other : k ≠ j) :
    bucket key k (xs.filter (fun x => key x ≠ j)) = bucket key k xs := by
  rw [bucket, bucket, List.filter_filter]
  apply List.filter_congr
  intro x _
  by_cases same : key x = k
  · simp [same, other]
  · simp [same]

theorem bucket_map {β : Type} (key : β → κ) (f : α → β) (k : κ) (xs : List α) :
    bucket key k (xs.map f) = (bucket (key ∘ f) k xs).map f := by
  rw [bucket, List.filter_map]
  rfl

theorem grouped_map {β : Type} (key : β → κ) (f : α → β) (keys : List κ) (xs : List α) :
    grouped key keys (xs.map f) = (grouped (key ∘ f) keys xs).map f := by
  rw [grouped, grouped, List.map_flatMap]
  exact List.flatMap_congr fun k _ => bucket_map key f k xs

theorem grouped_perm (key : α → κ) (keys : List κ) (xs : List α) (distinct : keys.Nodup)
    (covers : ∀ x ∈ xs, key x ∈ keys) : (grouped key keys xs).Perm xs := by
  induction keys generalizing xs with
  | nil =>
      have empty : xs = [] := List.eq_nil_iff_forall_not_mem.mpr fun x member => by simpa using covers x member
      rw [empty]
      exact List.Perm.refl _
  | cons k keys ih =>
      have fresh := (List.nodup_cons.mp distinct).1
      have rest := ih (xs.filter (fun x => key x ≠ k)) (List.nodup_cons.mp distinct).2 (by
        intro x member
        obtain ⟨inside, other⟩ := List.mem_filter.mp member
        have notFirst : key x ≠ k := by simpa using other
        simpa [notFirst] using covers x inside)
      have same : grouped key keys (xs.filter (fun x => key x ≠ k)) = grouped key keys xs := by
        apply List.flatMap_congr
        intro j member
        exact bucket_of_others key k j xs (fun eq => fresh (eq ▸ member))
      rw [same] at rest
      have split := List.filter_append_perm (fun x => decide (key x = k)) xs
      rw [grouped, List.flatMap_cons]
      exact (rest.append_left _).trans (by simpa [bucket] using split)

theorem grouped_length_le (key : α → κ) (keys : List κ) (xs : List α) (distinct : keys.Nodup) :
    (grouped key keys xs).length ≤ xs.length := by
  have same : grouped key keys (xs.filter (fun x => key x ∈ keys)) = grouped key keys xs := by
    apply List.flatMap_congr
    intro k member
    rw [bucket, bucket, List.filter_filter]
    apply List.filter_congr
    intro x _
    by_cases eq : key x = k
    · simp [eq, member]
    · simp [eq]
  have perm := grouped_perm key keys (xs.filter (fun x => key x ∈ keys)) distinct (by
    intro x inside
    simpa using (List.mem_filter.mp inside).2)
  rw [← same, perm.length_eq]
  exact List.length_filter_le _ _

theorem bucket_of_bucket (key : α → κ) (j k : κ) (xs : List α) :
    bucket key k (bucket key j xs) = if j = k then bucket key k xs else [] := by
  rw [bucket, bucket, List.filter_filter]
  by_cases same : j = k
  · subst same
    simp [bucket]
  · rw [if_neg same, List.filter_eq_nil_iff]
    intro x _ both
    simp only [Bool.and_eq_true, decide_eq_true_eq] at both
    exact same (both.2.symm.trans both.1)

def SameBuckets (key : α → κ) (xs ys : List α) : Prop := ∀ k, bucket key k xs = bucket key k ys

theorem grouped_same_buckets (key : α → κ) (keys : List κ) (xs : List α) (distinct : keys.Nodup)
    (covers : ∀ x ∈ xs, key x ∈ keys) : SameBuckets key (grouped key keys xs) xs := by
  intro k
  have chosen : ∀ keys : List κ, keys.Nodup →
      bucket key k (grouped key keys xs) = if k ∈ keys then bucket key k xs else [] := by
    intro keys distinct
    induction keys with
    | nil => rfl
    | cons j keys ih =>
        obtain ⟨fresh, restDistinct⟩ := List.nodup_cons.mp distinct
        have split : bucket key k (grouped key (j :: keys) xs) =
            bucket key k (bucket key j xs) ++ bucket key k (grouped key keys xs) := List.filter_append _ _
        rw [split, ih restDistinct, bucket_of_bucket]
        by_cases same : j = k
        · subst same
          simp [fresh]
        · simp [same, Ne.symm same]
  rw [chosen keys distinct]
  by_cases member : k ∈ keys
  · rw [if_pos member]
  · rw [if_neg member]
    refine (bucket_empty key k xs ?_).symm
    rintro ⟨x, inside, same⟩
    exact member (same ▸ covers x inside)

theorem same_buckets_tail (key : α → κ) (x : α) (xs ys : List α) (same : SameBuckets key (x :: xs) (x :: ys)) :
    SameBuckets key xs ys := by
  intro k
  have buckets := same k
  rw [bucket, bucket] at buckets ⊢
  by_cases own : key x = k
  · rw [List.filter_cons_of_pos (by simpa using own), List.filter_cons_of_pos (by simpa using own)] at buckets
    exact List.tail_eq_of_cons_eq buckets
  · rwa [List.filter_cons_of_neg (by simpa using own), List.filter_cons_of_neg (by simpa using own)] at buckets

theorem same_buckets_cons (key : α → κ) (x : α) (xs ys : List α) (same : SameBuckets key xs ys) :
    SameBuckets key (x :: xs) (x :: ys) := by
  intro k
  have buckets := same k
  rw [bucket, bucket] at buckets
  rw [bucket, bucket, List.filter_cons, List.filter_cons, buckets]

theorem same_buckets_mem (key : α → κ) (xs ys : List α) (same : SameBuckets key xs ys) (y : α) (member : y ∈ ys) :
    y ∈ xs := by
  have inside : y ∈ bucket key (key y) ys := List.mem_filter.mpr ⟨member, by simp⟩
  rw [← same (key y)] at inside
  exact List.mem_of_mem_filter inside

theorem grouped_sublist (key : α → κ) (keys : List κ) (xs zs : List α) (distinct : keys.Nodup)
    (within : zs.Sublist (grouped key keys xs)) : grouped key keys zs = zs := by
  induction keys generalizing zs with
  | nil =>
      rw [List.sublist_nil.mp within]
      rfl
  | cons k keys ih =>
      obtain ⟨fresh, restDistinct⟩ := List.nodup_cons.mp distinct
      obtain ⟨first, rest, split, inFirst, inRest⟩ := List.sublist_append_iff.mp within
      have own : ∀ x ∈ first, key x = k := by
        intro x member
        simpa using (List.mem_filter.mp (inFirst.subset member)).2
      have later : ∀ x ∈ rest, key x ∈ keys := by
        intro x member
        obtain ⟨j, listed, inside⟩ := List.mem_flatMap.mp (inRest.subset member)
        have same : key x = j := by simpa using (List.mem_filter.mp inside).2
        exact same ▸ listed
      have noneLater : bucket key k rest = [] := by
        apply bucket_empty
        rintro ⟨x, member, same⟩
        exact fresh (same ▸ later x member)
      have othersOnly : grouped key keys (first ++ rest) = grouped key keys rest := by
        apply List.flatMap_congr
        intro j listed
        have absent : bucket key j first = [] := by
          apply bucket_empty
          rintro ⟨x, member, same⟩
          exact fresh ((own x member).symm.trans same ▸ listed)
        have parts : bucket key j (first ++ rest) = bucket key j first ++ bucket key j rest := List.filter_append _ _
        rw [parts, absent, List.nil_append]
      have parts : bucket key k (first ++ rest) = bucket key k first ++ bucket key k rest := List.filter_append _ _
      have head : grouped key (k :: keys) (first ++ rest) =
          bucket key k (first ++ rest) ++ grouped key keys (first ++ rest) := rfl
      rw [split, head, parts, noneLater, List.append_nil, othersOnly, ih rest restDistinct inRest]
      congr 1
      exact List.filter_eq_self.mpr fun x member => by simpa using own x member

theorem grouped_one_key (key : α → κ) (keys : List κ) (k : κ) (xs : List α) (distinct : keys.Nodup)
    (listed : k ∈ keys) (all : ∀ x ∈ xs, key x = k) : grouped key keys xs = xs := by
  apply grouped_sublist key keys xs xs distinct
  obtain ⟨before, after, split⟩ := List.append_of_mem listed
  have whole : bucket key k xs = xs := List.filter_eq_self.mpr fun x member => by simpa using all x member
  rw [split, grouped, List.flatMap_append, List.flatMap_cons, whole]
  exact (List.sublist_append_left xs _).trans (List.sublist_append_right _ _)

theorem grouped_congr (key : α → κ) (keys : List κ) (xs ys : List α) (same : SameBuckets key xs ys) :
    grouped key keys xs = grouped key keys ys := List.flatMap_congr fun k _ => same k

def keysSeen (key : α → κ) (xs : List α) : List κ :=
  xs.foldl (fun keys x => if key x ∈ keys then keys else keys ++ [key x]) []

theorem keys_seen_concat (key : α → κ) (xs : List α) (x : α) :
    keysSeen key (xs ++ [x]) = if key x ∈ keysSeen key xs then keysSeen key xs else keysSeen key xs ++ [key x] := by
  rw [keysSeen, List.foldl_append]
  rfl

theorem keys_seen_map {β : Type} (key : β → κ) (f : α → β) (xs : List α) :
    keysSeen key (xs.map f) = keysSeen (key ∘ f) xs := List.foldl_map

theorem keys_seen_distinct (key : α → κ) (xs : List α) : (keysSeen key xs).Nodup := by
  induction xs using List.reverseRecOn with
  | nil => exact List.nodup_nil
  | append_singleton xs x ih =>
      rw [keys_seen_concat]
      by_cases known : key x ∈ keysSeen key xs
      · rw [if_pos known]
        exact ih
      · rw [if_neg known]
        exact List.nodup_append.mpr ⟨ih, List.nodup_singleton _, by
          intro a member b single same
          exact known (List.mem_singleton.mp single ▸ same ▸ member)⟩

theorem keys_seen_covers (key : α → κ) (xs : List α) : ∀ x ∈ xs, key x ∈ keysSeen key xs := by
  induction xs using List.reverseRecOn with
  | nil => simp
  | append_singleton xs x ih =>
      intro y member
      rw [keys_seen_concat]
      by_cases known : key x ∈ keysSeen key xs
      · rw [if_pos known]
        rcases List.mem_append.mp member with early | last
        · exact ih y early
        · rw [List.mem_singleton.mp last]
          exact known
      · rw [if_neg known]
        rcases List.mem_append.mp member with early | last
        · exact List.mem_append_left _ (ih y early)
        · rw [List.mem_singleton.mp last]
          simp

theorem keys_seen_first (key : α → κ) (x : α) (xs : List α) : (keysSeen key (x :: xs)).head? = some (key x) := by
  induction xs using List.reverseRecOn with
  | nil => rfl
  | append_singleton xs y ih =>
      rw [← List.cons_append, keys_seen_concat]
      by_cases known : key y ∈ keysSeen key (x :: xs)
      · rw [if_pos known]
        exact ih
      · rw [if_neg known, List.head?_append, ih]
        rfl

def groupByKey (key : α → κ) (xs : List α) : List α := grouped key (keysSeen key xs) xs

theorem group_by_key_perm (key : α → κ) (xs : List α) : (groupByKey key xs).Perm xs :=
  grouped_perm key _ xs (keys_seen_distinct key xs) (keys_seen_covers key xs)

theorem group_by_key_map {β : Type} (key : β → κ) (f : α → β) (xs : List α) :
    groupByKey key (xs.map f) = (groupByKey (key ∘ f) xs).map f := by
  rw [groupByKey, keys_seen_map, grouped_map]
  rfl

theorem group_by_key_same_buckets (key : α → κ) (xs : List α) : SameBuckets key (groupByKey key xs) xs :=
  grouped_same_buckets key _ xs (keys_seen_distinct key xs) (keys_seen_covers key xs)

theorem group_by_key_first (key : α → κ) (x : α) (xs : List α) : ∃ rest, groupByKey key (x :: xs) = x :: rest := by
  obtain ⟨keys, first⟩ := List.head?_eq_some_iff.mp (keys_seen_first key x xs)
  refine ⟨bucket key (key x) xs ++ grouped key keys (x :: xs), ?_⟩
  rw [groupByKey, first, grouped, List.flatMap_cons, bucket, List.filter_cons_of_pos (by simp)]
  rfl

end Grouping
