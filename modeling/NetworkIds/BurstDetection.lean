import NetworkIds.FlowPipeline

set_option autoImplicit false

namespace NetworkIds.FlowPipeline

open Checked Channel NetworkIds.FlowTable

variable {capacity maxFlows : Nat} {trace : Trace} {pipeline : Pipeline capacity}

def Prompt (lag : Int) (pipeline : Pipeline capacity) (action : Action) : Prop :=
  Enabled pipeline action ∧ ∀ now, action = .cleanup now → ∀ pkt ∈ pipeline.pending, now - pkt.timestamp ≤ lag

theorem add_packet_tracked (flow : FlowState) (history : List Packet) (pkt : Packet) (since : Int)
    (tracked : Tracked (some flow) history since) (ordered : ∀ earlier ∈ history, earlier.timestamp ≤ pkt.timestamp) :
    ∃ next dropped recent, addPacket flow pkt = .ok (next, historyVerdict recent pkt) ∧ history = dropped ++ recent ∧
      (∀ old ∈ dropped, sixtySeconds < since - old.timestamp) ∧ Tracked (some next) (history ++ [pkt]) since := by
  obtain ⟨dropped, recent, rfl, old, ring, _⟩ := tracked
  obtain ⟨⟨next, verdict⟩, added, nextRing, lastSeen, rfl⟩ := add_packet_safe flow recent pkt ring
  refine ⟨next, dropped, recent, added, rfl, old, dropped, recent ++ [pkt], List.append_assoc _ _ _, old, nextRing, ?_⟩
  intro earlier member
  rw [lastSeen]
  rcases List.mem_append.mp member with before | single
  · exact ordered earlier (List.mem_append_right _ before)
  · rw [List.mem_singleton.mp single]

theorem process_packet_tracked (shared : SharedState) (key : FlowKey) (pkt : Packet) (order : List FlowKey)
    (since : Int) (history : List Packet) (tracked : Tracked (shared.flowTable.lookup key) history since)
    (ordered : ∀ earlier ∈ history, earlier.timestamp ≤ pkt.timestamp)
    (room : shared.flowTable.lookup key = none → shared.flowTable.len < shared.maxFlows) :
    ∃ next dropped recent, processPacket shared key pkt order = .ok (next, historyVerdict recent pkt) ∧
      history = dropped ++ recent ∧ (∀ old ∈ dropped, sixtySeconds < since - old.timestamp) ∧
      Tracked (next.flowTable.lookup key) (history ++ [pkt]) since ∧
      ∀ other, other ≠ key → next.flowTable.lookup other = shared.flowTable.lookup other := by
  have admitted := admit_flow_room shared key pkt.timestamp order room
  cases entry : shared.flowTable.lookup key with
  | some flow =>
      rw [entry] at admitted tracked
      obtain ⟨next, dropped, recent, added, split, old, after⟩ :=
        add_packet_tracked flow history pkt since tracked ordered
      refine ⟨_, dropped, recent, process_packet_found shared key pkt order flow _ _ (by rw [admitted, entry]) added,
        split, old, ?_, ?_⟩
      · rwa [HashMap.lookup_insert, if_pos rfl]
      · intro other different
        rw [HashMap.lookup_insert, if_neg different, admitted]
  | none =>
      rw [entry] at admitted tracked
      obtain ⟨next, dropped, recent, added, split, old, after⟩ := add_packet_tracked (.new pkt.timestamp) history pkt
        since (tracked_new history since pkt.timestamp tracked) ordered
      have found : (admitFlow shared key pkt.timestamp order).lookup key = some (.new pkt.timestamp) := by
        rw [admitted, HashMap.lookup_insert, if_pos rfl]
      refine ⟨_, dropped, recent, process_packet_found shared key pkt order _ _ _ found added, split, old, ?_, ?_⟩
      · rwa [HashMap.lookup_insert, if_pos rfl]
      · intro other different
        rw [HashMap.lookup_insert, if_neg different, admitted]
        dsimp only
        rw [HashMap.lookup_insert, if_neg different]

theorem closing_window_shown (dropped recent window : List Packet) (pkt : Packet) (since lag : Int)
    (old : ∀ earlier ∈ dropped, sixtySeconds < since - earlier.timestamp) (soon : since ≤ pkt.timestamp + lag)
    (nonneg : 0 ≤ lag) (long : window.length = 100) (suffix : window <:+ dropped ++ recent)
    (close : ∀ first ∈ window.head?, pkt.timestamp - first.timestamp < sixtySeconds - lag) :
    (historyVerdict recent pkt).2 = some window := by
  obtain ⟨before, split⟩ := suffix
  obtain ⟨first, rest, rfl⟩ : ∃ first rest, window = first :: rest := by
    cases window with
    | nil => cases long
    | cons first rest => exact ⟨first, rest, rfl⟩
  have near := close first rfl
  have enough : 100 ≤ recent.length := by
    by_cases reaches : before.length < dropped.length
    · -- The window would begin with a packet that was dropped.
      have place : (dropped ++ recent)[before.length]? = some first := by
        rw [← split, List.getElem?_append_right (le_refl _), Nat.sub_self]
        rfl
      rw [List.getElem?_append_left reaches] at place
      have far := old first (List.mem_of_getElem? place)
      omega
    · have lengths := congrArg List.length split
      rw [List.length_append, List.length_append, long] at lengths
      omega
  have same : first :: rest = lastPackets recent := by
    have total := congrArg List.length split
    rw [List.length_append, List.length_append, long] at total
    have cut := congrArg (List.drop before.length) split
    rw [List.drop_left] at cut
    have place : before.length = dropped.length + (recent.length - 100) := by omega
    rw [cut, place, ← List.drop_drop, List.drop_left, lastPackets]
  refine (history_verdict_eq recent pkt _).mpr ⟨⟨first, enough, ?_, .inr (by omega)⟩, same⟩
  rw [← List.head?_drop]
  exact (congrArg List.head? same).symm

-- What was dropped of a flow is over a minute older than any packet still to come
-- by more than the lag, and no burst has been missed.
structure Keeping (lag since : Int) (trace : Trace) (pipeline : Pipeline capacity) : Prop where
  past : since ≤ pipeline.clock
  soon : ∀ pkt ∈ pipeline.pending, since ≤ pkt.timestamp + lag
  tracked : ∀ key, Tracked (pipeline.flowState.flowTable.lookup key) (flowPackets key trace.handled) since
  complete : ∀ key window, BurstWindow (flowPackets key trace.handled) window (sixtySeconds - lag) →
    LogEntry.burst key window ∈ pipeline.logged

theorem new_keeping (lag clock : Int) : Keeping lag clock .empty (.new maxFlows clock : Pipeline capacity) where
  past := le_refl clock
  soon pkt member := by cases member
  tracked key := ⟨[], [], rfl, (fun _ member => by cases member), rfl⟩
  complete key window burst := by
    obtain ⟨_, trigger, inside, _⟩ := burst
    exact absurd (List.infix_nil.mp inside) (by simp)

theorem Keeping.send {lag since : Int} (keeping : Keeping lag since trace pipeline) (pkt : Packet)
    (stamped : pipeline.sending = some pkt) :
    Keeping lag since { trace with traffic := trace.traffic.send pipeline.channel pkt }
      { pipeline with sending := none, channel := (pipeline.channel.trySend pkt).1 } where
  past := keeping.past
  soon := by
    intro waiting member
    apply keeping.soon waiting
    rw [Pipeline.pending, stamped]
    by_cases room : pipeline.channel.items.length < capacity
    · rw [Pipeline.pending] at member
      dsimp only at member
      rw [(try_send_room pipeline.channel pkt room).1] at member
      simpa using member
    · rw [Pipeline.pending, try_send_full pipeline.channel pkt room] at member
      exact List.mem_append_left _ (by simpa using member)
  tracked := keeping.tracked
  complete := keeping.complete

theorem Keeping.recv {lag since : Int} (keeping : Keeping lag since trace pipeline) (idle : pipeline.inHand = none)
    (pkt : Packet) (rest : Channel Packet capacity) (taken : pipeline.channel.recv = some (pkt, rest)) :
    Keeping lag since { trace with traffic := trace.traffic.recv pipeline.channel }
      { pipeline with channel := rest, inHand := some pkt } where
  past := keeping.past
  soon := by
    intro waiting member
    apply keeping.soon waiting
    rw [Pipeline.pending, idle, recv_items pipeline.channel rest pkt taken]
    exact member
  tracked := keeping.tracked
  complete := keeping.complete

theorem Keeping.cleanup {lag since : Int} (keeping : Keeping lag since trace pipeline) (now : Int)
    (later : pipeline.clock ≤ now) (prompt : ∀ pkt ∈ pipeline.pending, now - pkt.timestamp ≤ lag)
    (entries : List LogEntry) :
    Keeping lag now { trace with events := trace.events ++ [.cleanup now] }
      { pipeline with
        clock := now
        flowState := (cleanupInactiveFlows pipeline.flowState now).1
        logged := pipeline.logged ++ entries } where
  past := le_refl now
  soon pkt member := by
    have waited := prompt pkt member
    omega
  tracked key := by
    rw [cleanupInactiveFlows]
    dsimp only
    rw [HashMap.lookup_retain]
    exact tracked_cleanup _ _ now (tracked_later _ _ since now (keeping.tracked key) (keeping.past.trans later))
  complete key window burst := List.mem_append_left _ (keeping.complete key window burst)

theorem table_keys (events : List FlowEvent) (shared : SharedState) (evicting : Evicting maxFlows events shared) :
    shared.flowTable.keys ⊆ flowKeys events := by
  intro key present
  obtain ⟨flow, entry⟩ := Option.isSome_iff_exists.mp ((HashMap.present _ key).mp present)
  obtain ⟨_, ⟨before, pkt, order, after, rfl, _, _, _⟩, _⟩ := evicting.flows key flow entry
  simp [flowKeys, FlowEvent.flowKey]

theorem table_room (events : List FlowEvent) (shared : SharedState) (evicting : Evicting maxFlows events shared)
    (key : FlowKey) (pkt : Packet) (order : List FlowKey)
    (few : (flowKeys (events ++ [.packet key pkt order])).card ≤ maxFlows)
    (absent : shared.flowTable.lookup key = none) : shared.flowTable.len < shared.maxFlows := by
  have inside := (table_keys events shared evicting).trans (flow_keys_subset events (.packet key pkt order))
  have room := HashMap.len_lt shared.flowTable _ key inside (packet_key_mem events key pkt order) absent
  rw [evicting.limit]
  exact Nat.lt_of_lt_of_le room few

theorem held_latest (inv : Invariant maxFlows trace pipeline) (pkt : Packet) (held : pipeline.inHand = some pkt)
    (key : FlowKey) : ∀ earlier ∈ flowPackets key trace.handled, earlier.timestamp ≤ pkt.timestamp := by
  have ordered := inv.handled_ordered
  rw [Pipeline.pending, held] at ordered
  intro earlier member
  exact (List.pairwise_append.mp ordered).2.2 earlier (List.mem_of_mem_filter member) pkt (by simp)

theorem burst_window_concat (packets window : List Packet) (pkt : Packet) (duration : Int)
    (burst : BurstWindow (packets ++ [pkt]) window duration) :
    BurstWindow packets window duration ∨
      (window.length = 100 ∧ window <:+ packets ∧
        ∀ first ∈ window.head?, pkt.timestamp - first.timestamp < duration) := by
  obtain ⟨long, trigger, inside, close⟩ := burst
  rcases List.infix_concat_iff.mp inside with closing | before
  · rcases List.suffix_concat_iff.mp closing with empty | ⟨earlier, same, suffix⟩
    · exact absurd empty (by simp)
    · obtain ⟨sameWindow, sameLast⟩ := List.append_inj' same rfl
      cases sameLast
      exact .inr ⟨long, sameWindow ▸ suffix, close⟩
  · exact .inl ⟨long, trigger, before, close⟩

theorem Keeping.waiting {lag since : Int} (keeping : Keeping lag since trace pipeline) :
    ∀ other ∈ ({ pipeline with inHand := none } : Pipeline capacity).pending, since ≤ other.timestamp + lag := by
  intro other member
  apply keeping.soon other
  rw [Pipeline.pending] at member ⊢
  rw [List.append_assoc]
  exact List.mem_append_right _ member

theorem Keeping.unkeyed {lag since : Int} (keeping : Keeping lag since trace pipeline) (pkt : Packet)
    (unkeyed : flowKeyOf pkt.data = none) (events : List FlowEvent) :
    Keeping lag since { trace with handled := trace.handled ++ [pkt], events := events }
      { pipeline with inHand := none, logged := pipeline.logged ++ [] } := by
  have same (key : FlowKey) : flowPackets key (trace.handled ++ [pkt]) = flowPackets key trace.handled := by
    rw [flow_packets_concat, unkeyed, if_neg (by simp)]
  refine ⟨keeping.past, keeping.waiting, ?_, ?_⟩
  · intro key
    dsimp only
    rw [same]
    exact keeping.tracked key
  · intro key window burst
    dsimp only at burst ⊢
    rw [same] at burst
    rw [List.append_nil]
    exact keeping.complete key window burst

theorem Keeping.closed {lag since : Int} (keeping : Keeping lag since trace pipeline) (nonneg : 0 ≤ lag) (pkt : Packet)
    (due : since ≤ pkt.timestamp + lag) (key : FlowKey) (keyed : flowKeyOf pkt.data = some key)
    (dropped recent : List Packet) (split : flowPackets key trace.handled = dropped ++ recent)
    (old : ∀ earlier ∈ dropped, sixtySeconds < since - earlier.timestamp) (other : FlowKey) (window : List Packet)
    (burst : BurstWindow (flowPackets other (trace.handled ++ [pkt])) window (sixtySeconds - lag)) :
    LogEntry.burst other window ∈
      pipeline.logged ++ ((historyVerdict recent pkt).2.map (LogEntry.burst key)).toList := by
  rw [flow_packets_concat, keyed] at burst
  by_cases own : other = key
  · subst own
    rw [if_pos rfl] at burst
    rcases burst_window_concat _ window pkt _ burst with before | ⟨long, closing, close⟩
    · exact List.mem_append_left _ (keeping.complete other window before)
    · rw [split] at closing
      rw [closing_window_shown dropped recent window pkt since lag old due nonneg long closing close]
      exact List.mem_append_right _ (List.mem_singleton_self _)
  · rw [if_neg (fun same => own (Option.some.inj same).symm)] at burst
    exact List.mem_append_left _ (keeping.complete other window burst)

theorem Keeping.handle {lag since : Int} (inv : Invariant maxFlows trace pipeline)
    (keeping : Keeping lag since trace pipeline) (nonneg : 0 ≤ lag) (pkt : Packet)
    (held : pipeline.inHand = some pkt) (order : List FlowKey)
    (yields : Yields pipeline.flowState.flowTable order)
    (few : (flowKeys (trace.record pipeline (.handle order)).events).card ≤ maxFlows) (after : Pipeline capacity)
    (stepped : step pipeline (.handle order) = .ok after) :
    Keeping lag since (trace.record pipeline (.handle order)) after := by
  rw [step, held] at stepped
  rw [Trace.record, held] at few ⊢
  dsimp only at stepped few ⊢
  rcases handle_packet_cases maxFlows trace.events pipeline.flowState pkt order inv.evicting yields with
    ⟨unkeyed, handled⟩ | ⟨key, next, history, keyed, suffix, processed, handled⟩
  · rw [handled] at stepped
    cases stepped
    exact keeping.unkeyed pkt unkeyed _
  · rw [handled] at stepped
    cases stepped
    rw [packetEvents, keyed, Option.toList_some, List.map_singleton] at few
    obtain ⟨also, dropped, recent, again, split, old, tracked, others⟩ :=
      process_packet_tracked pipeline.flowState key pkt order since (flowPackets key trace.handled)
        (keeping.tracked key) (held_latest inv pkt held key)
        (table_room trace.events pipeline.flowState inv.evicting key pkt order few)
    rw [processed] at again
    obtain ⟨rfl, sameVerdict⟩ := Prod.mk.inj (Except.ok.inj again)
    have due := keeping.soon pkt (by rw [Pipeline.pending, held]; simp)
    refine ⟨keeping.past, keeping.waiting, ?_, ?_⟩
    · intro other
      dsimp only
      rw [flow_packets_concat, keyed]
      by_cases own : other = key
      · subst own
        rw [if_pos rfl]
        exact tracked
      · rw [if_neg (fun same => own (Option.some.inj same).symm), others other own]
        exact keeping.tracked other
    · intro other window burst
      dsimp only
      rw [sameVerdict]
      exact keeping.closed nonneg pkt due key keyed dropped recent split old other window burst

theorem step_keeping {lag since : Int} (inv : Invariant maxFlows trace pipeline)
    (keeping : Keeping lag since trace pipeline) (nonneg : 0 ≤ lag) (action : Action)
    (prompt : Prompt lag pipeline action)
    (few : (flowKeys (trace.record pipeline action).events).card ≤ maxFlows) (after : Pipeline capacity)
    (stepped : step pipeline action = .ok after) : ∃ later, Keeping lag later (trace.record pipeline action) after := by
  obtain ⟨enabled, waited⟩ := prompt
  cases enabled with
  | stamp data now later idle =>
      cases stepped
      refine ⟨since, keeping.past.trans later, ?_, keeping.tracked, keeping.complete⟩
      intro pkt member
      rcases List.mem_append.mp member with before | stamped
      · exact keeping.soon pkt (by rw [Pipeline.pending, idle]; simpa using before)
      · cases List.mem_singleton.mp stamped
        have reached := keeping.past.trans later
        dsimp only
        omega
  | send pkt stamped =>
      rw [step, stamped] at stepped
      rw [Trace.record, stamped]
      cases stepped
      exact ⟨since, keeping.send pkt stamped⟩
  | recv idle waiting =>
      obtain ⟨pkt, rest, taken⟩ := recv_ready pipeline.channel waiting
      rw [step, taken] at stepped
      cases stepped
      exact ⟨since, keeping.recv idle pkt rest taken⟩
  | handle pkt order held yields =>
      exact ⟨since, Keeping.handle inv keeping nonneg pkt held order yields few after stepped⟩
  | cleanup now later =>
      cases stepped
      exact ⟨now, keeping.cleanup now later (waited now rfl) _⟩

theorem record_flow_keys (action : Action) : flowKeys trace.events ⊆ flowKeys (trace.record pipeline action).events := by
  have grows (more : List FlowEvent) : flowKeys trace.events ⊆ flowKeys (trace.events ++ more) := by
    intro key member
    rw [flowKeys, List.mem_toFinset] at member ⊢
    rw [List.filterMap_append]
    exact List.mem_append_left _ member
  cases action with
  | stamp data now => exact Finset.Subset.refl _
  | send =>
      rw [Trace.record]
      cases pipeline.sending with
      | none => exact Finset.Subset.refl _
      | some pkt => exact Finset.Subset.refl _
  | recv => exact Finset.Subset.refl _
  | handle order =>
      rw [Trace.record]
      cases pipeline.inHand with
      | none => exact Finset.Subset.refl _
      | some pkt => exact grows _
  | cleanup now => exact grows _

theorem reached_keeping {lag : Int} (nonneg : 0 ≤ lag) (reached : Reached (Prompt lag) maxFlows trace pipeline)
    (few : (flowKeys trace.events).card ≤ maxFlows) : ∃ since, Keeping lag since trace pipeline := by
  induction reached with
  | start clock => exact ⟨clock, new_keeping lag clock⟩
  | next before may stepped ih =>
      obtain ⟨since, keeping⟩ := ih ((Finset.card_le_card (record_flow_keys _)).trans few)
      exact step_keeping (reached_invariant (before.weaken fun _ _ may => may.1)) keeping nonneg _ may few _ stepped

theorem datagrams_flow (count : Nat) :
    flowPackets datagramKey (List.replicate count ⟨5, datagram⟩) = List.replicate count ⟨5, datagram⟩ := by
  rw [flowPackets, List.filter_eq_self]
  intro pkt member
  rw [List.eq_of_mem_replicate member, datagram_flow]
  exact beq_self_eq_true _

theorem datagrams_window : BurstWindow (flowPackets datagramKey (List.replicate 101 ⟨5, datagram⟩))
    (List.replicate 100 ⟨5, datagram⟩) sixtySeconds := by
  refine ⟨List.length_replicate, ⟨5, datagram⟩, ?_, ?_⟩
  · rw [datagrams_flow, ← List.replicate_succ']
  · intro first found
    rw [List.head?_replicate] at found
    cases found
    decide

-- A burst is not missed as long as the table has room for every flow and the
-- cleanup finds no packet that has waited longer than the lag: the lag is what the
-- minute is shortened by.
theorem burst_is_logged (lag : Int) (nonneg : 0 ≤ lag) (reached : Reached (Prompt lag) maxFlows trace pipeline)
    (few : (flowKeys trace.events).card ≤ maxFlows) (key : FlowKey) (window : List Packet)
    (burst : BurstWindow (flowPackets key trace.handled) window (sixtySeconds - lag)) :
    LogEntry.burst key window ∈ pipeline.logged := by
  obtain ⟨since, keeping⟩ := reached_keeping nonneg reached few
  exact keeping.complete key window burst

theorem prompt_takes_packets (lag : Int) : TakesPackets (Prompt lag : Pipeline capacity → Action → Prop) :=
  ⟨fun _ _ may => may.1, fun _ _ may other => ⟨may.1, fun now same => absurd same (other now)⟩⟩

theorem datagram_burst_logged : ∃ trace pipeline, Reached (Prompt 0) 1 trace (pipeline : Pipeline 1) ∧
    LogEntry.burst datagramKey (List.replicate 100 ⟨5, datagram⟩) ∈ pipeline.logged := by
  obtain ⟨trace, pipeline, reached, _, _, handled, keys⟩ := datagrams_handled (Prompt 0) (prompt_takes_packets 0) 101
  refine ⟨trace, pipeline, reached, burst_is_logged 0 (le_refl 0) reached (Finset.card_le_card keys) datagramKey _ ?_⟩
  rw [handled, Int.sub_zero]
  exact datagrams_window

theorem logged_burst_happened (reached : Reached Enabled maxFlows trace pipeline) (key : FlowKey)
    (window : List Packet) (logged : LogEntry.burst key window ∈ pipeline.logged) :
    BurstWindow (flowPackets key trace.handled) window sixtySeconds ∧
      trace.handled.Pairwise (fun first second => first.timestamp ≤ second.timestamp) ∧
      trace.handled.Sublist trace.traffic.offered := by
  have inv := reached_invariant reached
  refine ⟨inv.bursts key window logged, ?_, ?_⟩
  · exact List.Pairwise.sublist (List.sublist_append_left _ _) inv.handled_ordered
  · have received := inv.carried.inOrder
    rw [inv.received, List.append_assoc] at received
    exact (List.sublist_append_left _ _).trans received

theorem datagram_burst_happened : ∃ trace pipeline, Reached Enabled 1 trace (pipeline : Pipeline 1) ∧
    LogEntry.burst datagramKey (List.replicate 100 ⟨5, datagram⟩) ∈ pipeline.logged ∧
    BurstWindow (flowPackets datagramKey trace.handled) (List.replicate 100 ⟨5, datagram⟩) sixtySeconds := by
  obtain ⟨trace, pipeline, reached, _, _, handled, keys⟩ := datagrams_handled (Prompt 0) (prompt_takes_packets 0) 101
  obtain ⟨since, keeping⟩ := reached_keeping (le_refl 0) reached (Finset.card_le_card keys)
  have logged := keeping.complete datagramKey (List.replicate 100 ⟨5, datagram⟩) (by
    rw [handled, Int.sub_zero]
    exact datagrams_window)
  have enabled := reached.weaken (prompt_takes_packets 0).enabled
  exact ⟨trace, pipeline, enabled, logged, (logged_burst_happened enabled datagramKey _ logged).1⟩

end NetworkIds.FlowPipeline
