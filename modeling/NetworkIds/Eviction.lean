import NetworkIds.FlowTable

set_option autoImplicit false

namespace NetworkIds.FlowTable

open Checked

-- The order lists every entry of the table exactly once, as iteration over a
-- hash map does.
structure Yields (table : HashMap FlowKey FlowState) (order : List FlowKey) : Prop where
  once : order.Nodup
  entries : ∀ key, key ∈ order ↔ table.containsKey key = true

instance (table : HashMap FlowKey FlowState) (order : List FlowKey) : Decidable (Yields table order) :=
  decidable_of_iff (order.Nodup ∧ order.toFinset = table.keys) (by
    constructor
    · intro both
      refine ⟨both.1, ?_⟩
      intro key
      rw [HashMap.contains_key_true, ← both.2, List.mem_toFinset]
    · intro yields
      refine ⟨yields.once, ?_⟩
      ext key
      rw [List.mem_toFinset, yields.entries, HashMap.contains_key_true])

def IterationOrders (maxFlows : Nat) (events : List FlowEvent) : Prop :=
  ∀ before key pkt order after shared, events = before ++ .packet key pkt order :: after →
    runEvents maxFlows before = .ok shared → Yields shared.flowTable order

def LeastRecentlySeen (table : HashMap FlowKey FlowState) (key : FlowKey) : Prop :=
  ∃ flow, table.lookup key = some flow ∧
    ∀ other kept, table.lookup other = some kept → flow.lastSeenTs ≤ kept.lastSeenTs

structure LruStep (capacity : Nat) (key : FlowKey) (table next : HashMap FlowKey FlowState) : Prop where
  stored : next.containsKey key = true
  hit : table.containsKey key = true → ∀ other, other ≠ key → next.lookup other = table.lookup other
  room : table.containsKey key = false → table.len < capacity →
    ∀ other, other ≠ key → next.lookup other = table.lookup other
  full : table.containsKey key = false → capacity ≤ table.len →
    ∃ gone, LeastRecentlySeen table gone ∧ next.lookup gone = none ∧
      ∀ other, other ≠ key → other ≠ gone → next.lookup other = table.lookup other

-- The packets of the key since the event that made its entry: the key was
-- absent just before that event and has been present ever since.
def StoredSince (maxFlows : Nat) (key : FlowKey) (events : List FlowEvent) (history : List Packet) : Prop :=
  ∃ before pkt order after, events = before ++ .packet key pkt order :: after ∧
    history = pkt :: packetsOf key after ∧
    (∃ shared, runEvents maxFlows before = .ok shared ∧ shared.flowTable.containsKey key = false) ∧
    ∀ middle, middle <+: after → ∃ shared,
      runEvents maxFlows (before ++ .packet key pkt order :: middle) = .ok shared ∧
      shared.flowTable.containsKey key = true

def Keeps (flow : FlowState) (history : List Packet) : Prop :=
  Ring flow history ∧ (history.getLast?.map Packet.timestamp) = some flow.lastSeenTs

def FlowEvent.packetTime : FlowEvent → Option Int
  | .packet _ pkt _ => some pkt.timestamp
  | .cleanup _ => none

def packetTimes (events : List FlowEvent) : List Int := events.filterMap FlowEvent.packetTime

def EvictsEarliest (events : List FlowEvent) (table next : HashMap FlowKey FlowState) : Prop :=
  ∀ gone other, table.containsKey gone = true → next.containsKey gone = false → table.containsKey other = true →
    ∃ latest, (packetsOf other events).getLast? = some latest ∧
      ∀ early ∈ packetsOf gone events, early.timestamp ≤ latest.timestamp

structure Evicting (maxFlows : Nat) (events : List FlowEvent) (shared : SharedState) : Prop where
  limit : shared.maxFlows = maxFlows
  bounded : shared.flowTable.len ≤ max maxFlows 1
  flows : shared.flowTable.All fun key flow =>
    ∃ history, StoredSince maxFlows key events history ∧ Keeps flow history

theorem yields_iter (table : HashMap FlowKey FlowState) (order : List FlowKey) (yields : Yields table order)
    (key : FlowKey) (flow : FlowState) : (key, flow) ∈ table.iter order ↔ table.lookup key = some flow := by
  rw [HashMap.mem_iter]
  constructor
  · intro both
    exact both.2
  · intro entry
    refine ⟨(yields.entries key).mpr ?_, entry⟩
    rw [HashMap.containsKey, entry]
    rfl

theorem oldest_scan_least (entries : List (FlowKey × FlowState)) (first : FlowKey × FlowState) :
    ∃ oldest ∈ first :: entries,
      entries.foldl oldestScan (some first.1, some first.2.lastSeenTs) =
        (some oldest.1, some oldest.2.lastSeenTs) ∧
      ∀ entry ∈ first :: entries, oldest.2.lastSeenTs ≤ entry.2.lastSeenTs := by
  induction entries generalizing first with
  | nil => exact ⟨first, by simp, rfl, by simp⟩
  | cons second rest ih =>
      by_cases older : second.2.lastSeenTs < first.2.lastSeenTs
      · obtain ⟨oldest, member, scanned, least⟩ := ih second
        refine ⟨oldest, List.mem_cons_of_mem _ member, ?_, ?_⟩
        · rw [List.foldl_cons, oldestScan]
          dsimp only
          rw [if_pos older, scanned]
        · intro entry inside
          cases List.mem_cons.mp inside with
          | inl same =>
              have below := least second (List.mem_cons_self ..)
              rw [same]
              omega
          | inr later => exact least entry later
      · obtain ⟨oldest, member, scanned, least⟩ := ih first
        have below := least first (List.mem_cons_self ..)
        refine ⟨oldest, ?_, ?_, ?_⟩
        · cases List.mem_cons.mp member with
          | inl same => rw [same]; exact List.mem_cons_self ..
          | inr later => exact List.mem_cons_of_mem _ (List.mem_cons_of_mem _ later)
        · rw [List.foldl_cons, oldestScan]
          dsimp only
          rw [if_neg older, scanned]
        · intro entry inside
          cases List.mem_cons.mp inside with
          | inl same => rw [same]; exact below
          | inr later =>
              cases List.mem_cons.mp later with
              | inl same => rw [same]; omega
              | inr last => exact least entry (List.mem_cons_of_mem _ last)

theorem evict_oldest_least (table : HashMap FlowKey FlowState) (order : List FlowKey) (yields : Yields table order)
    (filled : 0 < table.len) :
    ∃ gone, LeastRecentlySeen table gone ∧ evictOldest table order = table.remove gone := by
  have entries := yields_iter table order yields
  rw [evictOldest]
  cases listed : table.iter order with
  | nil =>
      obtain ⟨key, member⟩ := Finset.card_pos.mp filled
      obtain ⟨flow, entry⟩ := Option.isSome_iff_exists.mp ((table.present key).mp member)
      have found := (entries key flow).mpr entry
      rw [listed] at found
      cases found
  | cons first rest =>
      obtain ⟨oldest, member, scanned, least⟩ := oldest_scan_least rest first
      rw [← listed] at member least
      refine ⟨oldest.1, ⟨oldest.2, (entries _ _).mp member, ?_⟩, ?_⟩
      · intro other kept entry
        exact least (other, kept) ((entries other kept).mpr entry)
      · rw [List.foldl_cons]
        have started : oldestScan (none, none) first = (some first.1, some first.2.lastSeenTs) := rfl
        rw [started, scanned]

theorem evict_oldest_empty (table : HashMap FlowKey FlowState) (order : List FlowKey) (empty : table.len = 0) :
    evictOldest table order = table := by
  have none : table.iter order = [] := by
    rw [HashMap.iter, List.filterMap_eq_nil_iff]
    intro key _
    rw [HashMap.len_zero table empty key]
    rfl
  rw [evictOldest, none]
  rfl

theorem admit_flow_cases (shared : SharedState) (key : FlowKey) (now : Int) (order : List FlowKey)
    (yields : Yields shared.flowTable order) :
    (shared.flowTable.containsKey key = true ∧ admitFlow shared key now order = shared.flowTable) ∨
    (shared.flowTable.containsKey key = false ∧ shared.flowTable.len < max shared.maxFlows 1 ∧
      admitFlow shared key now order = shared.flowTable.insert key (FlowState.new now)) ∨
    (shared.flowTable.containsKey key = false ∧ max shared.maxFlows 1 ≤ shared.flowTable.len ∧
      ∃ gone, LeastRecentlySeen shared.flowTable gone ∧
        admitFlow shared key now order = (shared.flowTable.remove gone).insert key (FlowState.new now)) := by
  rw [admitFlow]
  by_cases present : shared.flowTable.containsKey key = true
  · exact .inl ⟨present, if_pos present⟩
  · have absent := Bool.eq_false_iff.mpr present
    rw [if_neg present]
    by_cases full : shared.flowTable.len ≥ shared.maxFlows
    · rw [if_pos full]
      by_cases empty : shared.flowTable.len = 0
      · rw [evict_oldest_empty _ order empty]
        exact .inr (.inl ⟨absent, by omega, rfl⟩)
      · obtain ⟨gone, least, evicted⟩ := evict_oldest_least _ order yields (by omega)
        rw [evicted]
        exact .inr (.inr ⟨absent, by omega, gone, least, rfl⟩)
    · rw [if_neg full]
      exact .inr (.inl ⟨absent, by omega, rfl⟩)

theorem admit_flow_len (shared : SharedState) (key : FlowKey) (now : Int) (order : List FlowKey)
    (yields : Yields shared.flowTable order) (bounded : shared.flowTable.len ≤ max shared.maxFlows 1) :
    (admitFlow shared key now order).len ≤ max shared.maxFlows 1 := by
  obtain ⟨_, same⟩ | ⟨absent, room, made⟩ | ⟨absent, full, gone, ⟨flow, entry, _⟩, made⟩ :=
    admit_flow_cases shared key now order yields
  · rw [same]
    exact bounded
  · rw [made, HashMap.len_insert_new _ _ _ ((HashMap.contains_key_false _ _).mp absent)]
    omega
  · have missing := (HashMap.contains_key_false _ _).mp absent
    have different : key ≠ gone := by
      intro same
      rw [same, entry] at missing
      cases missing
    have removed := HashMap.len_remove shared.flowTable gone (by rw [entry]; rfl)
    rw [made, HashMap.len_insert_new _ _ _ (by rw [HashMap.lookup_remove, if_neg different, missing])]
    omega

theorem admit_flow_kept (shared : SharedState) (key : FlowKey) (now : Int) (order : List FlowKey)
    (yields : Yields shared.flowTable order) (other : FlowKey) (flow : FlowState) (different : other ≠ key)
    (entry : (admitFlow shared key now order).lookup other = some flow) :
    shared.flowTable.lookup other = some flow := by
  obtain ⟨_, same⟩ | ⟨_, _, made⟩ | ⟨_, _, gone, _, made⟩ := admit_flow_cases shared key now order yields
  · rwa [same] at entry
  · rwa [made, HashMap.lookup_insert, if_neg different] at entry
  · rw [made, HashMap.lookup_insert, if_neg different, HashMap.lookup_remove] at entry
    by_cases same : other = gone
    · rw [if_pos same] at entry
      cases entry
    · rwa [if_neg same] at entry

theorem admit_flow_own (shared : SharedState) (key : FlowKey) (now : Int) (order : List FlowKey)
    (yields : Yields shared.flowTable order) :
    (admitFlow shared key now order).lookup key =
      some ((shared.flowTable.lookup key).getD (FlowState.new now)) := by
  obtain ⟨present, same⟩ | ⟨absent, _, made⟩ | ⟨absent, _, gone, _, made⟩ :=
    admit_flow_cases shared key now order yields
  · obtain ⟨flow, entry⟩ := Option.isSome_iff_exists.mp present
    rw [same, entry]
    rfl
  · rw [made, HashMap.lookup_insert, if_pos rfl, (HashMap.contains_key_false _ _).mp absent]
    rfl
  · rw [made, HashMap.lookup_insert, if_pos rfl, (HashMap.contains_key_false _ _).mp absent]
    rfl

theorem lru_step_admit (shared : SharedState) (key : FlowKey) (now : Int) (order : List FlowKey)
    (yields : Yields shared.flowTable order) (flow : FlowState) :
    LruStep (max shared.maxFlows 1) key shared.flowTable ((admitFlow shared key now order).insert key flow) := by
  have stored : ((admitFlow shared key now order).insert key flow).containsKey key = true := by
    rw [HashMap.containsKey, HashMap.lookup_insert, if_pos rfl]
    rfl
  obtain ⟨present, same⟩ | ⟨absent, room, made⟩ | ⟨absent, full, gone, least, made⟩ :=
    admit_flow_cases shared key now order yields
  · refine ⟨stored, ?_, fun missing => absurd (missing.symm.trans present) (by simp),
      fun missing => absurd (missing.symm.trans present) (by simp)⟩
    intro _ other different
    rw [HashMap.lookup_insert, if_neg different, same]
  · refine ⟨stored, fun present => absurd (absent.symm.trans present) (by simp), ?_, fun _ full => by omega⟩
    intro _ _ other different
    rw [HashMap.lookup_insert, if_neg different, made, HashMap.lookup_insert, if_neg different]
  · refine ⟨stored, fun present => absurd (absent.symm.trans present) (by simp), fun _ room => by omega, ?_⟩
    intro _ _
    have different : gone ≠ key := by
      intro same
      obtain ⟨oldest, entry, _⟩ := least
      rw [← same, HashMap.containsKey, entry] at absent
      cases absent
    refine ⟨gone, least, ?_, ?_⟩
    · rw [HashMap.lookup_insert, if_neg different, made, HashMap.lookup_insert, if_neg different,
        HashMap.lookup_remove, if_pos rfl]
    · intro other unlike distinct
      rw [HashMap.lookup_insert, if_neg unlike, made, HashMap.lookup_insert, if_neg unlike,
        HashMap.lookup_remove, if_neg distinct]

theorem keeps_new (now : Int) (pkt : Packet) :
    Safe (addPacket (FlowState.new now) pkt) (fun result => Keeps result.1 [pkt]) := by
  refine safe_mono (add_packet_safe (FlowState.new now) [] pkt (new_ring now)) ?_
  rintro ⟨next, verdict⟩ ⟨ring, seen, _⟩
  refine ⟨ring, ?_⟩
  rw [seen]
  rfl

theorem keeps_packet (flow : FlowState) (history : List Packet) (pkt : Packet) (keeps : Keeps flow history) :
    Safe (addPacket flow pkt) (fun result => Keeps result.1 (history ++ [pkt])) := by
  refine safe_mono (add_packet_safe flow history pkt keeps.1) ?_
  rintro ⟨next, verdict⟩ ⟨ring, seen, _⟩
  refine ⟨ring, ?_⟩
  rw [List.getLast?_append, seen]
  rfl

theorem stored_since_concat (maxFlows : Nat) (key : FlowKey) (events : List FlowEvent) (event : FlowEvent)
    (history : List Packet) (next : SharedState) (since : StoredSince maxFlows key events history)
    (reached : runEvents maxFlows (events ++ [event]) = .ok next) (present : next.flowTable.containsKey key = true) :
    StoredSince maxFlows key (events ++ [event]) (history ++ (event.packetOf key).toList) := by
  obtain ⟨before, pkt, order, after, rfl, rfl, absent, ever⟩ := since
  refine ⟨before, pkt, order, after ++ [event], by simp, ?_, absent, ?_⟩
  · rw [packets_of_concat, List.cons_append]
  · intro middle early
    cases List.prefix_concat_iff.mp early with
    | inl whole =>
        refine ⟨next, ?_, present⟩
        rw [whole, ← reached]
        simp
    | inr shorter => exact ever middle shorter

theorem stored_since_new (maxFlows : Nat) (key : FlowKey) (events : List FlowEvent) (pkt : Packet)
    (order : List FlowKey) (shared next : SharedState) (reached : runEvents maxFlows events = .ok shared)
    (absent : shared.flowTable.containsKey key = false)
    (after : runEvents maxFlows (events ++ [.packet key pkt order]) = .ok next)
    (present : next.flowTable.containsKey key = true) :
    StoredSince maxFlows key (events ++ [.packet key pkt order]) [pkt] := by
  refine ⟨events, pkt, order, [], rfl, rfl, ⟨shared, reached, absent⟩, ?_⟩
  intro middle early
  rw [List.prefix_nil.mp early]
  exact ⟨next, after, present⟩

theorem run_events_concat (maxFlows : Nat) (events : List FlowEvent) (event : FlowEvent) (shared : SharedState)
    (reached : runEvents maxFlows events = .ok shared) :
    runEvents maxFlows (events ++ [event]) = stepEvent shared event := by
  rw [runEvents, List.foldlM_append]
  have first : events.foldlM stepEvent (SharedState.new maxFlows) = .ok shared := reached
  rw [first, ok_bind, List.foldlM_cons]
  simp only [List.foldlM_nil, bind_pure]

theorem process_packet_lru (shared : SharedState) (key : FlowKey) (pkt : Packet) (order : List FlowKey)
    (yields : Yields shared.flowTable order)
    (kept : ∀ flow, shared.flowTable.lookup key = some flow → ∃ history, Ring flow history) :
    ∃ flow verdict, processPacket shared key pkt order =
        .ok ({ shared with flowTable := (admitFlow shared key pkt.timestamp order).insert key flow }, verdict) ∧
      (shared.flowTable.lookup key = none → Keeps flow [pkt]) ∧
      ∀ old history, shared.flowTable.lookup key = some old → Keeps old history → Keeps flow (history ++ [pkt]) := by
  rw [processPacket]
  dsimp only
  rw [admit_flow_own shared key pkt.timestamp order yields]
  cases entry : shared.flowTable.lookup key with
  | none =>
      obtain ⟨result, added, keeps⟩ := keeps_new pkt.timestamp pkt
      refine ⟨result.1, result.2, ?_, fun _ => keeps, fun _ _ found => by cases found⟩
      rw [Option.getD_none]
      dsimp only
      rw [added]
      rfl
  | some old =>
      obtain ⟨history, ring⟩ := kept old entry
      obtain ⟨result, added, _⟩ := add_packet_safe old history pkt ring
      refine ⟨result.1, result.2, ?_, (fun missing => by cases missing), ?_⟩
      · rw [Option.getD_some]
        dsimp only
        rw [added]
        rfl
      · intro other past found keeps
        cases found
        obtain ⟨same, again, next⟩ := keeps_packet old past pkt keeps
        rw [added] at again
        cases again
        exact next

theorem evicting_packet (maxFlows : Nat) (events : List FlowEvent) (shared : SharedState) (key : FlowKey)
    (pkt : Packet) (order : List FlowKey) (reached : runEvents maxFlows events = .ok shared)
    (evicting : Evicting maxFlows events shared) (yields : Yields shared.flowTable order) :
    ∃ next verdict, processPacket shared key pkt order = .ok (next, verdict) ∧
      Evicting maxFlows (events ++ [.packet key pkt order]) next ∧
      LruStep (max maxFlows 1) key shared.flowTable next.flowTable := by
  obtain ⟨flow, verdict, processed, fresh, extended⟩ := process_packet_lru shared key pkt order yields
    (fun old entry => by
      obtain ⟨history, _, ring, _⟩ := evicting.flows key old entry
      exact ⟨history, ring⟩)
  have admitted := admit_flow_own shared key pkt.timestamp order yields
  have lru := lru_step_admit shared key pkt.timestamp order yields flow
  rw [evicting.limit] at lru
  have after : runEvents maxFlows (events ++ [.packet key pkt order]) =
      .ok { shared with flowTable := (admitFlow shared key pkt.timestamp order).insert key flow } := by
    rw [run_events_concat maxFlows events _ shared reached, stepEvent, processed]
    rfl
  refine ⟨_, verdict, processed, ⟨evicting.limit, ?_, ?_⟩, lru⟩
  · have bounded := admit_flow_len shared key pkt.timestamp order yields
      (by rw [evicting.limit]; exact evicting.bounded)
    rw [evicting.limit] at bounded
    dsimp only
    rw [HashMap.len_insert_present _ _ _ (by rw [admitted]; rfl)]
    exact bounded
  · intro other kept entry
    dsimp only at entry
    have present : ((admitFlow shared key pkt.timestamp order).insert key flow).containsKey other = true := by
      rw [HashMap.containsKey, entry]
      rfl
    by_cases same : other = key
    · subst same
      rw [HashMap.lookup_insert, if_pos rfl] at entry
      cases entry
      cases found : shared.flowTable.lookup other with
      | none =>
          exact ⟨[pkt], stored_since_new maxFlows other events pkt order shared _ reached
            ((HashMap.contains_key_false _ _).mpr found) after present, fresh found⟩
      | some old =>
          obtain ⟨history, since, keeps⟩ := evicting.flows other old found
          have later := stored_since_concat maxFlows other events _ history _ since after present
          rw [FlowEvent.packetOf, if_pos rfl] at later
          exact ⟨history ++ [pkt], later, extended old history found keeps⟩
    · rw [HashMap.lookup_insert, if_neg same] at entry
      have found := admit_flow_kept shared key pkt.timestamp order yields other kept same entry
      obtain ⟨history, since, keeps⟩ := evicting.flows other kept found
      have later := stored_since_concat maxFlows other events _ history _ since after present
      rw [FlowEvent.packetOf, if_neg (Ne.symm same), Option.toList_none, List.append_nil] at later
      exact ⟨history, later, keeps⟩

theorem evicting_cleanup (maxFlows : Nat) (events : List FlowEvent) (shared : SharedState) (now : Int)
    (reached : runEvents maxFlows events = .ok shared) (evicting : Evicting maxFlows events shared) :
    Evicting maxFlows (events ++ [.cleanup now]) (cleanupInactiveFlows shared now).1 where
  limit := evicting.limit
  bounded := (HashMap.len_retain _ _).trans evicting.bounded
  flows := by
    intro key flow entry
    have present : (cleanupInactiveFlows shared now).1.flowTable.containsKey key = true := by
      rw [HashMap.containsKey, entry]
      rfl
    have before := (HashMap.lookup_retain_some _ _ key flow entry).1
    obtain ⟨history, since, keeps⟩ := evicting.flows key flow before
    have later := stored_since_concat maxFlows key events (.cleanup now) history _ since
      (run_events_concat maxFlows events _ shared reached) present
    rw [FlowEvent.packetOf, Option.toList_none, List.append_nil] at later
    exact ⟨history, later, keeps⟩

theorem iteration_orders_concat (maxFlows : Nat) (events : List FlowEvent) (event : FlowEvent)
    (orders : IterationOrders maxFlows (events ++ [event])) : IterationOrders maxFlows events := by
  intro before key pkt order after shared split reached
  exact orders before key pkt order (after ++ [event]) shared (by rw [split]; simp) reached

theorem run_events_evicting (maxFlows : Nat) (events : List FlowEvent) (orders : IterationOrders maxFlows events) :
    ∃ shared, runEvents maxFlows events = .ok shared ∧ Evicting maxFlows events shared := by
  induction events using List.reverseRecOn with
  | nil =>
      refine ⟨SharedState.new maxFlows, rfl, rfl, ?_, HashMap.all_empty _⟩
      exact Nat.zero_le _
  | append_singleton events event ih =>
      obtain ⟨shared, reached, evicting⟩ := ih (iteration_orders_concat maxFlows events event orders)
      rw [run_events_concat maxFlows events event shared reached]
      cases event with
      | packet key pkt order =>
          obtain ⟨next, verdict, processed, kept, _⟩ := evicting_packet maxFlows events shared key pkt order reached
            evicting (orders events key pkt order [] shared rfl reached)
          refine ⟨next, ?_, kept⟩
          rw [stepEvent, processed]
          rfl
      | cleanup now => exact ⟨_, rfl, evicting_cleanup maxFlows events shared now reached evicting⟩

theorem packet_times_sublist (key : FlowKey) (events : List FlowEvent) :
    ((packetsOf key events).map Packet.timestamp).Sublist (packetTimes events) := by
  induction events with
  | nil => exact List.Sublist.slnil
  | cons event rest ih =>
      cases event with
      | cleanup now => exact ih
      | packet other pkt order =>
          have times : packetTimes (.packet other pkt order :: rest) = pkt.timestamp :: packetTimes rest := rfl
          rw [times, packetsOf, List.filterMap_cons, FlowEvent.packetOf]
          by_cases same : other = key
          · rw [if_pos same]
            exact ih.cons_cons _
          · rw [if_neg same]
            exact ih.cons _

theorem latest_packet_last (key : FlowKey) (events : List FlowEvent) (latest : Packet)
    (ordered : (packetTimes events).Pairwise (· ≤ ·)) (last : (packetsOf key events).getLast? = some latest) :
    ∀ pkt ∈ packetsOf key events, pkt.timestamp ≤ latest.timestamp := by
  intro pkt member
  obtain ⟨earlier, split⟩ := List.getLast?_eq_some_iff.mp last
  have sorted := List.Pairwise.sublist (packet_times_sublist key events) ordered
  rw [split, List.map_append, List.pairwise_append] at sorted
  rw [split] at member
  cases List.mem_append.mp member with
  | inl before => exact sorted.2.2 _ (List.mem_map_of_mem before) _ (by simp)
  | inr same => rw [List.mem_singleton.mp same]

theorem latest_packet_stored (maxFlows : Nat) (key : FlowKey) (events : List FlowEvent) (history : List Packet)
    (since : StoredSince maxFlows key events history) : (packetsOf key events).getLast? = history.getLast? := by
  obtain ⟨before, pkt, order, after, rfl, rfl, _, _⟩ := since
  have own : packetsOf key (.packet key pkt order :: after) = pkt :: packetsOf key after := by
    rw [packetsOf, List.filterMap_cons, FlowEvent.packetOf, if_pos rfl]
    rfl
  have split : packetsOf key (before ++ .packet key pkt order :: after) =
      packetsOf key before ++ packetsOf key (.packet key pkt order :: after) := List.filterMap_append
  rw [split, own, List.getLast?_append_cons]

theorem evicts_earliest (maxFlows : Nat) (events : List FlowEvent) (shared next : SharedState) (key : FlowKey)
    (evicting : Evicting maxFlows events shared)
    (lru : LruStep (max maxFlows 1) key shared.flowTable next.flowTable)
    (ordered : (packetTimes events).Pairwise (· ≤ ·)) :
    EvictsEarliest events shared.flowTable next.flowTable := by
  intro gone other present removed stored
  obtain ⟨kept, entry⟩ := Option.isSome_iff_exists.mp stored
  obtain ⟨history, since, _, seen⟩ := evicting.flows other kept entry
  rw [← latest_packet_stored maxFlows other events history since] at seen
  obtain ⟨latest, last, lastSeen⟩ := Option.map_eq_some_iff.mp seen
  refine ⟨latest, last, ?_⟩
  have different : gone ≠ key := by
    intro same
    rw [same, lru.stored] at removed
    cases removed
  -- Only a full table loses a flow, and then the one seen least recently.
  have unchanged : next.flowTable.lookup gone ≠ shared.flowTable.lookup gone := by
    intro same
    rw [HashMap.containsKey, same] at removed
    exact absurd (removed.symm.trans present) (by simp)
  have absent : shared.flowTable.containsKey key = false := by
    by_cases hit : shared.flowTable.containsKey key = true
    · exact absurd (lru.hit hit gone different) unchanged
    · exact Bool.eq_false_iff.mpr hit
  have full : max maxFlows 1 ≤ shared.flowTable.len :=
    Nat.le_of_not_lt fun room => unchanged (lru.room absent room gone different)
  obtain ⟨least, ⟨oldest, found, minimal⟩, _, others⟩ := lru.full absent full
  have same : gone = least := by
    by_cases same : gone = least
    · exact same
    · exact absurd (others gone different same) unchanged
  subst same
  obtain ⟨past, sinceGone, _, seenGone⟩ := evicting.flows gone oldest found
  rw [← latest_packet_stored maxFlows gone events past sinceGone] at seenGone
  obtain ⟨final, lastGone, finalSeen⟩ := Option.map_eq_some_iff.mp seenGone
  intro early member
  calc early.timestamp ≤ final.timestamp := latest_packet_last gone events final ordered lastGone early member
    _ = oldest.lastSeenTs := finalSeen
    _ ≤ kept.lastSeenTs := minimal other kept entry
    _ = latest.timestamp := lastSeen.symm

theorem lru_eviction_is_exact (maxFlows : Nat) (events : List FlowEvent) (orders : IterationOrders maxFlows events) :
    ∃ shared, runEvents maxFlows events = .ok shared ∧
      shared.flowTable.len ≤ max maxFlows 1 ∧
      (∀ key flow, shared.flowTable.lookup key = some flow → ∃ history, StoredSince maxFlows key events history ∧
        getOrderedPackets flow = .ok (history.drop (history.length - 100)) ∧
        (packetsOf key events).getLast?.map Packet.timestamp = some flow.lastSeenTs) ∧
      ∀ key pkt order, Yields shared.flowTable order → ∃ next verdict,
        processPacket shared key pkt order = .ok (next, verdict) ∧
        LruStep (max maxFlows 1) key shared.flowTable next.flowTable ∧
        ((packetTimes events).Pairwise (· ≤ ·) → EvictsEarliest events shared.flowTable next.flowTable) := by
  obtain ⟨shared, reached, evicting⟩ := run_events_evicting maxFlows events orders
  refine ⟨shared, reached, evicting.bounded, ?_, ?_⟩
  · intro key flow entry
    obtain ⟨history, since, ring, seen⟩ := evicting.flows key flow entry
    refine ⟨history, since, ordered_packets_ok flow history ring, ?_⟩
    rw [latest_packet_stored maxFlows key events history since]
    exact seen
  · intro key pkt order yields
    obtain ⟨next, verdict, processed, _, lru⟩ := evicting_packet maxFlows events shared key pkt order reached
      evicting yields
    exact ⟨next, verdict, processed, lru, evicts_earliest maxFlows events shared next key evicting lru⟩

def twoFlows : List FlowEvent :=
  [.packet (1, 100, 2, 200) ⟨0, []⟩ [], .packet (3, 300, 4, 400) ⟨10 ^ 9, []⟩ [(1, 100, 2, 200)]]

theorem two_flows_orders : IterationOrders 2 twoFlows := by
  intro before key pkt order after shared split reached
  match before, split with
  | [], split =>
      cases split
      cases reached
      decide +kernel
  | [_], split =>
      cases split
      cases reached
      decide +kernel
  | _ :: _ :: _, split => simp [twoFlows] at split

theorem earlier_flow_evicted :
    ∃ shared, runEvents 2 twoFlows = .ok shared ∧ shared.flowTable.len ≤ 2 ∧
      ∃ next verdict, processPacket shared (5, 500, 6, 600) ⟨2 * 10 ^ 9, []⟩ [(3, 300, 4, 400), (1, 100, 2, 200)] =
          .ok (next, verdict) ∧
        LruStep 2 (5, 500, 6, 600) shared.flowTable next.flowTable ∧
        EvictsEarliest twoFlows shared.flowTable next.flowTable := by
  obtain ⟨shared, reached, bounded, _, packets⟩ := lru_eviction_is_exact 2 twoFlows two_flows_orders
  have yields : Yields shared.flowTable [(3, 300, 4, 400), (1, 100, 2, 200)] := by
    cases reached
    decide +kernel
  obtain ⟨next, verdict, processed, lru, earliest⟩ := packets (5, 500, 6, 600) ⟨2 * 10 ^ 9, []⟩ _ yields
  exact ⟨shared, reached, bounded, next, verdict, processed, lru, earliest (by decide +kernel)⟩

end NetworkIds.FlowTable
