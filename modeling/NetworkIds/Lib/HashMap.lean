import Mathlib.Data.Finset.Card
import Mathlib.Tactic.Common

set_option autoImplicit false

-- Hash maps by their contents: a lookup function with finitely many keys. The
-- order in which a hash map yields its entries is not part of it.
structure HashMap (K V : Type) [DecidableEq K] where
  lookup : K → Option V
  keys : Finset K
  present : ∀ key, key ∈ keys ↔ (lookup key).isSome = true

namespace HashMap

variable {K V : Type} [DecidableEq K]

def empty : HashMap K V where
  lookup := fun _ => none
  keys := ∅
  present := by simp

def len (map : HashMap K V) : Nat := map.keys.card

def containsKey (map : HashMap K V) (key : K) : Bool := (map.lookup key).isSome

def alter (map : HashMap K V) (key : K) (change : Option V → Option V) : HashMap K V where
  lookup := fun other => if other = key then change (map.lookup key) else map.lookup other
  keys := if (change (map.lookup key)).isSome then insert key map.keys else map.keys.erase key
  present other := by
    have old := map.present other
    by_cases same : other = key
    · subst same
      by_cases kept : (change (map.lookup other)).isSome = true
      · simp [kept]
      · simp [kept]
    · by_cases kept : (change (map.lookup key)).isSome = true
      · simp [kept, same, old]
      · simp [kept, same, old]

def filterMapValues (map : HashMap K V) (change : K → V → Option V) : HashMap K V where
  lookup := fun key => (map.lookup key).bind (change key)
  keys := map.keys.filter (fun key => ((map.lookup key).bind (change key)).isSome = true)
  present key := by
    have old := map.present key
    cases entry : map.lookup key with
    | none => simp [entry, old]
    | some value => simp [entry, old]

def insert (map : HashMap K V) (key : K) (value : V) : HashMap K V := map.alter key (fun _ => some value)

def remove (map : HashMap K V) (key : K) : HashMap K V := map.alter key (fun _ => none)

-- if let Some(entry) = map.get_mut(key)
def modify (map : HashMap K V) (key : K) (change : V → V) : HashMap K V := map.alter key (Option.map change)

-- map.entry(key).or_insert(fallback), followed by a change of the entry.
def upsert (map : HashMap K V) (key : K) (fallback : V) (change : V → V) : HashMap K V :=
  map.alter key (fun entry => some (change (entry.getD fallback)))

def retain (map : HashMap K V) (keep : K → V → Bool) : HashMap K V :=
  map.filterMapValues (fun key value => if keep key value then some value else none)

-- for value in map.values_mut()
def mapValues (map : HashMap K V) (change : V → V) : HashMap K V :=
  map.filterMapValues (fun _ value => some (change value))

-- The entries in an order in which the map may yield them.
def iter (map : HashMap K V) (order : List K) : List (K × V) :=
  order.filterMap (fun key => (map.lookup key).map (fun value => (key, value)))

def reindex {L : Type} [DecidableEq L] (map : HashMap K V) (rename : K ≃ L) : HashMap L V where
  lookup := fun key => map.lookup (rename.symm key)
  keys := map.keys.map rename.toEmbedding
  present key := by rw [Finset.mem_map_equiv, map.present]

theorem ext_lookup (first second : HashMap K V) (same : ∀ key, first.lookup key = second.lookup key) :
    first = second := by
  have lookups : first.lookup = second.lookup := funext same
  have keys : first.keys = second.keys := by
    ext key
    rw [first.present, second.present, same]
  cases first
  cases second
  cases lookups
  cases keys
  rfl

theorem lookup_alter_other (map : HashMap K V) (key other : K) (change : Option V → Option V)
    (different : other ≠ key) : (map.alter key change).lookup other = map.lookup other := if_neg different

theorem lookup_insert (map : HashMap K V) (key other : K) (value : V) :
    (map.insert key value).lookup other = if other = key then some value else map.lookup other := rfl

theorem lookup_remove (map : HashMap K V) (key other : K) :
    (map.remove key).lookup other = if other = key then none else map.lookup other := rfl

theorem lookup_modify (map : HashMap K V) (key other : K) (change : V → V) :
    (map.modify key change).lookup other =
      if other = key then (map.lookup key).map change else map.lookup other := rfl

theorem lookup_upsert (map : HashMap K V) (key other : K) (fallback : V) (change : V → V) :
    (map.upsert key fallback change).lookup other =
      if other = key then some (change ((map.lookup key).getD fallback)) else map.lookup other := rfl

theorem lookup_retain (map : HashMap K V) (keep : K → V → Bool) (key : K) :
    (map.retain keep).lookup key = (map.lookup key).filter (keep key) := by
  cases entry : map.lookup key with
  | none => simp [retain, filterMapValues, entry]
  | some value => simp [retain, filterMapValues, entry, Option.filter]

theorem lookup_map_values (map : HashMap K V) (change : V → V) (key : K) :
    (map.mapValues change).lookup key = (map.lookup key).map change := by
  cases entry : map.lookup key with
  | none => simp [mapValues, filterMapValues, entry]
  | some value => simp [mapValues, filterMapValues, entry]

theorem contains_key_false (map : HashMap K V) (key : K) :
    map.containsKey key = false ↔ map.lookup key = none := by
  simp [containsKey]

theorem len_lt (map : HashMap K V) (used : Finset K) (key : K) (inside : map.keys ⊆ used) (member : key ∈ used)
    (absent : map.lookup key = none) : map.len < used.card := by
  have missing : key ∉ map.keys := by
    rw [map.present, absent]
    simp
  exact Finset.card_lt_card (Finset.ssubset_iff_subset_ne.mpr
    ⟨inside, fun same => missing (same ▸ member)⟩)

theorem lookup_retain_kept (map : HashMap K V) (keep : K → V → Bool) (key : K) (value : V)
    (entry : map.lookup key = some value) (kept : keep key value = true) :
    (map.retain keep).lookup key = some value := by
  rw [lookup_retain, entry, Option.filter_some, if_pos kept]

theorem lookup_retain_some (map : HashMap K V) (keep : K → V → Bool) (key : K) (value : V)
    (entry : (map.retain keep).lookup key = some value) : map.lookup key = some value ∧ keep key value = true := by
  rw [lookup_retain] at entry
  exact Option.filter_eq_some_iff.mp entry

def All (map : HashMap K V) (holds : K → V → Prop) : Prop := ∀ key value, map.lookup key = some value → holds key value

theorem all_empty (holds : K → V → Prop) : (empty : HashMap K V).All holds := by
  intro key value entry
  cases entry

theorem All.mono {map : HashMap K V} {holds weaker : K → V → Prop} (all : map.All holds)
    (implied : ∀ key value, holds key value → weaker key value) : map.All weaker :=
  fun key value entry => implied key value (all key value entry)

theorem all_retain (map : HashMap K V) (keep : K → V → Bool) :
    (map.retain keep).All fun key value => keep key value = true := by
  intro key value entry
  exact (lookup_retain_some map keep key value entry).2

theorem All.upsert {map : HashMap K V} {holds : K → V → Prop} (all : map.All holds) (key : K) (fallback : V)
    (change : V → V) (changed : ∀ value, holds key (change value)) : (map.upsert key fallback change).All holds := by
  intro other value entry
  rw [lookup_upsert] at entry
  by_cases same : other = key
  · subst same
    rw [if_pos rfl] at entry
    cases entry
    exact changed _
  · rw [if_neg same] at entry
    exact all other value entry

theorem contains_key_true (map : HashMap K V) (key : K) :
    map.containsKey key = true ↔ key ∈ map.keys := by
  rw [map.present, containsKey]

theorem mem_iter (map : HashMap K V) (order : List K) (key : K) (value : V) :
    (key, value) ∈ map.iter order ↔ key ∈ order ∧ map.lookup key = some value := by
  rw [iter, List.mem_filterMap]
  constructor
  · intro found
    obtain ⟨other, inside, entry⟩ := found
    obtain ⟨stored, present, same⟩ := Option.map_eq_some_iff.mp entry
    cases same
    exact ⟨inside, present⟩
  · intro found
    exact ⟨key, found.1, by rw [found.2]; rfl⟩

theorem len_insert_new (map : HashMap K V) (key : K) (value : V) (absent : map.lookup key = none) :
    (map.insert key value).len = map.len + 1 := by
  have missing : key ∉ map.keys := by
    rw [map.present, absent]
    simp
  exact Finset.card_insert_of_notMem missing

theorem len_insert_present (map : HashMap K V) (key : K) (value : V) (present : (map.lookup key).isSome = true) :
    (map.insert key value).len = map.len := by
  have member : key ∈ map.keys := (map.present key).mpr present
  exact congrArg Finset.card (Finset.insert_eq_of_mem member)

theorem len_remove (map : HashMap K V) (key : K) (present : (map.lookup key).isSome = true) :
    (map.remove key).len + 1 = map.len := by
  have member : key ∈ map.keys := (map.present key).mpr present
  exact Finset.card_erase_add_one member

theorem len_retain (map : HashMap K V) (keep : K → V → Bool) : (map.retain keep).len ≤ map.len :=
  Finset.card_le_card (Finset.filter_subset _ _)

theorem len_zero (map : HashMap K V) (empty : map.len = 0) (key : K) : map.lookup key = none := by
  have none : key ∉ map.keys := by
    rw [Finset.card_eq_zero.mp empty]
    exact Finset.notMem_empty key
  rw [map.present] at none
  simpa using none

end HashMap
