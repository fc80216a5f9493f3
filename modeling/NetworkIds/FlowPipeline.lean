import NetworkIds.Eviction
import NetworkIds.FlowParser
import NetworkIds.FlowRing
import NetworkIds.Lib.Channel

set_option autoImplicit false

namespace NetworkIds.FlowPipeline

open Checked Channel NetworkIds.FlowTable
open NetworkIds.FlowParser (parseFlowKey flow_key_safe)

-- What the two background tasks log. A burst is also written out by log_burst, in
-- a task of its own.
inductive LogEntry where
  | cleanup (removed : Nat)
  | burst (flowKey : FlowKey) (packets : List Packet)
deriving DecidableEq

-- The capture thread, the channel tx_packets to rx_packets, the processor task and
-- the cleanup task around the table they share. Each holds at most one packet: the
-- capture thread one that is stamped and not yet sent, the processor one that is
-- received and not yet processed.
structure Pipeline (capacity : Nat) where
  clock : Int
  sending : Option Packet
  channel : Channel Packet capacity
  inHand : Option Packet
  flowState : SharedState
  logged : List LogEntry

variable {capacity : Nat}

-- main starts it with room for ten thousand flows and ten thousand packets.
def Pipeline.new (maxFlows : Nat) (clock : Int) : Pipeline capacity where
  clock := clock
  sending := none
  channel := Channel.empty
  inHand := none
  flowState := .new maxFlows
  logged := []

-- The part of the processor loop after process_packet.
def burstEntries (flowKey : FlowKey) (burstDetected : Bool) (burstPackets : Option (List Packet)) :
    List LogEntry :=
  if burstDetected then
    match burstPackets with
    | some pkts => [.burst flowKey pkts]
    | none => []
  else []

-- The body of the processor loop. The order is one in which the table may yield its
-- entries, in case a flow has to go.
def handlePacket (flowState : SharedState) (pkt : Packet) (order : List FlowKey) :
    Checked (SharedState × List LogEntry) := do
  match ← parseFlowKey pkt.data with
  | .ok flowKey =>
      let (flowState, burstDetected, burstPackets) ← processPacket flowState flowKey pkt order
      return (flowState, burstEntries flowKey burstDetected burstPackets)
  | .error _ => return (flowState, [])

inductive Action where
  | stamp (data : Bytes) (now : Int)
  | send
  | recv
  | handle (order : List FlowKey)
  | cleanup (now : Int)

def step (pipeline : Pipeline capacity) (action : Action) : Checked (Pipeline capacity) :=
  match action with
  | .stamp data now => return { pipeline with clock := now, sending := some ⟨now, data⟩ }
  | .send =>
      match pipeline.sending with
      | some pkt => return { pipeline with sending := none, channel := (pipeline.channel.trySend pkt).1 }
      | none => return pipeline
  | .recv =>
      match pipeline.channel.recv with
      | some (pkt, channel) => return { pipeline with channel := channel, inHand := some pkt }
      | none => return pipeline
  | .handle order =>
      match pipeline.inHand with
      | some pkt => do
          let (flowState, entries) ← handlePacket pipeline.flowState pkt order
          return { pipeline with
            inHand := none
            flowState := flowState
            logged := pipeline.logged ++ entries }
      | none => return pipeline
  | .cleanup now =>
      let (flowState, removed) := cleanupInactiveFlows pipeline.flowState now
      return { pipeline with
        clock := now
        flowState := flowState
        logged := pipeline.logged ++ if removed > 0 then [.cleanup removed] else [] }

-- When a task can take its step. The clock does not go back, and it is read by the
-- capture thread before it sends and by the cleanup under the lock of the table.
inductive Enabled (pipeline : Pipeline capacity) : Action → Prop where
  | stamp (data : Bytes) (now : Int) (later : pipeline.clock ≤ now) (idle : pipeline.sending = none) :
      Enabled pipeline (.stamp data now)
  | send (pkt : Packet) (stamped : pipeline.sending = some pkt) : Enabled pipeline .send
  | recv (idle : pipeline.inHand = none) (waiting : pipeline.channel.items ≠ []) : Enabled pipeline .recv
  | handle (pkt : Packet) (order : List FlowKey) (held : pipeline.inHand = some pkt)
      (yields : Yields pipeline.flowState.flowTable order) : Enabled pipeline (.handle order)
  | cleanup (now : Int) (later : pipeline.clock ≤ now) : Enabled pipeline (.cleanup now)

def Pipeline.pending (pipeline : Pipeline capacity) : List Packet :=
  pipeline.inHand.toList ++ pipeline.channel.items ++ pipeline.sending.toList

def flowKeyOf (data : Bytes) : Option FlowKey :=
  match parseFlowKey data with
  | .ok (.ok flowKey) => some flowKey
  | _ => none

def flowPackets (key : FlowKey) (packets : List Packet) : List Packet :=
  packets.filter fun pkt => flowKeyOf pkt.data == some key

structure Trace where
  traffic : Traffic Packet
  handled : List Packet
  events : List FlowEvent

def Trace.empty : Trace := ⟨.empty, [], []⟩

def packetEvents (order : List FlowKey) (pkt : Packet) : List FlowEvent :=
  (flowKeyOf pkt.data).toList.map fun key => .packet key pkt order

def Trace.record (trace : Trace) (pipeline : Pipeline capacity) (action : Action) : Trace :=
  match action with
  | .stamp _ _ => trace
  | .send =>
      match pipeline.sending with
      | some pkt => { trace with traffic := trace.traffic.send pipeline.channel pkt }
      | none => trace
  | .recv => { trace with traffic := trace.traffic.recv pipeline.channel }
  | .handle order =>
      match pipeline.inHand with
      | some pkt => { trace with
          handled := trace.handled ++ [pkt]
          events := trace.events ++ packetEvents order pkt }
      | none => trace
  | .cleanup now => { trace with events := trace.events ++ [.cleanup now] }

inductive Reached (allowed : Pipeline capacity → Action → Prop) (maxFlows : Nat) :
    Trace → Pipeline capacity → Prop where
  | start (clock : Int) : Reached allowed maxFlows .empty (.new maxFlows clock)
  | next {trace : Trace} {pipeline after : Pipeline capacity} {action : Action}
      (reached : Reached allowed maxFlows trace pipeline) (may : allowed pipeline action)
      (stepped : step pipeline action = .ok after) : Reached allowed maxFlows (trace.record pipeline action) after

theorem Reached.weaken {allowed weaker : Pipeline capacity → Action → Prop} {maxFlows : Nat} {trace : Trace}
    {pipeline : Pipeline capacity} (reached : Reached allowed maxFlows trace pipeline)
    (implies : ∀ pipeline action, allowed pipeline action → weaker pipeline action) :
    Reached weaker maxFlows trace pipeline := by
  induction reached with
  | start clock => exact .start clock
  | next _ may stepped ih => exact .next ih (implies _ _ may) stepped

theorem flow_key_of_cases (data : Bytes) :
    (∃ error, parseFlowKey data = .ok (.error error) ∧ flowKeyOf data = none) ∨
      ∃ key, parseFlowKey data = .ok (.ok key) ∧ flowKeyOf data = some key := by
  obtain ⟨result, parsed, _⟩ := flow_key_safe data
  rw [flowKeyOf, parsed]
  cases result with
  | error error => exact .inl ⟨error, rfl, rfl⟩
  | ok key => exact .inr ⟨key, rfl, rfl⟩

theorem flow_packets_concat (key : FlowKey) (packets : List Packet) (pkt : Packet) :
    flowPackets key (packets ++ [pkt]) =
      if flowKeyOf pkt.data = some key then flowPackets key packets ++ [pkt] else flowPackets key packets := by
  rw [flowPackets, List.filter_append, List.filter_cons, List.filter_nil]
  by_cases own : flowKeyOf pkt.data = some key
  · rw [if_pos own, if_pos (beq_iff_eq.mpr own)]
    rfl
  · rw [if_neg own, if_neg (fun same => own (beq_iff_eq.mp same)), List.append_nil]
    rfl

theorem packet_events_flow (key : FlowKey) (order : List FlowKey) (pkt : Packet) :
    packetsOf key (packetEvents order pkt) = if flowKeyOf pkt.data = some key then [pkt] else [] := by
  rw [packetEvents]
  cases found : flowKeyOf pkt.data with
  | none =>
      rw [if_neg (by simp)]
      rfl
  | some other =>
      by_cases same : other = key
      · rw [if_pos (congrArg some same)]
        simp [packetsOf, FlowEvent.packetOf, same]
      · rw [if_neg (fun both => same (Option.some.inj both))]
        simp [packetsOf, FlowEvent.packetOf, same]

theorem iteration_orders_extend (maxFlows : Nat) (events : List FlowEvent) (event : FlowEvent) (shared : SharedState)
    (reached : runEvents maxFlows events = .ok shared) (orders : IterationOrders maxFlows events)
    (last : ∀ key pkt order, event = .packet key pkt order → Yields shared.flowTable order) :
    IterationOrders maxFlows (events ++ [event]) := by
  intro before key pkt order after state split ran
  rcases List.eq_nil_or_concat after with rfl | ⟨middle, final, rfl⟩
  · obtain ⟨sameEvents, sameLast⟩ := List.append_inj' split rfl
    rw [← sameEvents, reached] at ran
    cases ran
    exact last key pkt order (List.cons.inj sameLast).1
  · rw [List.concat_eq_append, ← List.cons_append, ← List.append_assoc] at split
    exact orders before key pkt order middle state (List.append_inj' split rfl).1 ran

theorem stored_since_suffix (maxFlows : Nat) (key : FlowKey) (events : List FlowEvent) (history : List Packet)
    (since : StoredSince maxFlows key events history) : history <:+ packetsOf key events := by
  obtain ⟨before, pkt, order, after, rfl, rfl, _, _⟩ := since
  refine ⟨packetsOf key before, ?_⟩
  rw [packetsOf, packetsOf, packetsOf, List.filterMap_append, List.filterMap_cons, FlowEvent.packetOf, if_pos rfl]

theorem process_packet_found (shared : SharedState) (key : FlowKey) (pkt : Packet) (order : List FlowKey)
    (flow next : FlowState) (verdict : Bool × Option (List Packet))
    (found : (admitFlow shared key pkt.timestamp order).lookup key = some flow)
    (added : addPacket flow pkt = .ok (next, verdict)) :
    processPacket shared key pkt order =
      .ok ({ shared with flowTable := (admitFlow shared key pkt.timestamp order).insert key next }, verdict) := by
  rw [processPacket]
  dsimp only
  rw [found]
  dsimp only
  rw [added]
  rfl

theorem process_packet_verdict (maxFlows : Nat) (events : List FlowEvent) (shared : SharedState) (key : FlowKey)
    (pkt : Packet) (order : List FlowKey) (evicting : Evicting maxFlows events shared)
    (yields : Yields shared.flowTable order) :
    ∃ next history, processPacket shared key pkt order = .ok (next, historyVerdict history pkt) ∧
      history <:+ packetsOf key events := by
  have own := admit_flow_own shared key pkt.timestamp order yields
  cases entry : shared.flowTable.lookup key with
  | none =>
      rw [entry, Option.getD_none] at own
      obtain ⟨⟨flow, verdict⟩, added, _, _, rfl⟩ := add_packet_safe (.new pkt.timestamp) [] pkt (new_ring pkt.timestamp)
      exact ⟨_, [], process_packet_found shared key pkt order _ _ _ own added, List.nil_suffix⟩
  | some old =>
      rw [entry, Option.getD_some] at own
      obtain ⟨history, since, ring, _⟩ := evicting.flows key old entry
      obtain ⟨⟨flow, verdict⟩, added, _, _, rfl⟩ := add_packet_safe old history pkt ring
      exact ⟨_, history, process_packet_found shared key pkt order _ _ _ own added,
        stored_since_suffix maxFlows key events history since⟩

theorem burst_entries_verdict (key : FlowKey) (history : List Packet) (pkt : Packet) :
    burstEntries key (historyVerdict history pkt).1 (historyVerdict history pkt).2 =
      ((historyVerdict history pkt).2.map (LogEntry.burst key)).toList := by
  rw [verdict_flag]
  unfold burstEntries
  cases (historyVerdict history pkt).2 with
  | none => rfl
  | some pkts => rfl

theorem handle_packet_cases (maxFlows : Nat) (events : List FlowEvent) (shared : SharedState) (pkt : Packet)
    (order : List FlowKey) (evicting : Evicting maxFlows events shared) (yields : Yields shared.flowTable order) :
    (flowKeyOf pkt.data = none ∧ handlePacket shared pkt order = .ok (shared, [])) ∨
      ∃ key next history, flowKeyOf pkt.data = some key ∧ history <:+ packetsOf key events ∧
        processPacket shared key pkt order = .ok (next, historyVerdict history pkt) ∧
        handlePacket shared pkt order =
          .ok (next, ((historyVerdict history pkt).2.map (LogEntry.burst key)).toList) := by
  rcases flow_key_of_cases pkt.data with ⟨error, parsed, unkeyed⟩ | ⟨key, parsed, keyed⟩
  · refine .inl ⟨unkeyed, ?_⟩
    rw [handlePacket, parsed]
    rfl
  · obtain ⟨next, history, processed, suffix⟩ :=
      process_packet_verdict maxFlows events shared key pkt order evicting yields
    refine .inr ⟨key, next, history, keyed, suffix, processed, ?_⟩
    rw [handlePacket, parsed, ok_bind]
    dsimp only
    rw [processed, ok_bind]
    dsimp only
    rw [burst_entries_verdict]
    rfl

def BurstWindow (packets window : List Packet) (duration : Int) : Prop :=
  window.length = 100 ∧ ∃ trigger, window ++ [trigger] <:+: packets ∧
    ∀ first ∈ window.head?, trigger.timestamp - first.timestamp < duration

theorem burst_window_extend (packets more window : List Packet) (duration : Int)
    (burst : BurstWindow packets window duration) : BurstWindow (packets ++ more) window duration := by
  obtain ⟨long, trigger, inside, close⟩ := burst
  exact ⟨long, trigger, inside.trans (List.prefix_append packets more).isInfix, close⟩

theorem verdict_burst_window (packets history window : List Packet) (pkt : Packet) (suffix : history <:+ packets)
    (shown : (historyVerdict history pkt).2 = some window) :
    BurstWindow (packets ++ [pkt]) window sixtySeconds := by
  obtain ⟨⟨earlier, long, place, close⟩, rfl⟩ := (history_verdict_eq history pkt window).mp shown
  have first : (lastPackets history).head? = some earlier := by rw [lastPackets, List.head?_drop, place]
  refine ⟨?_, pkt, ?_, ?_⟩
  · rw [lastPackets, List.length_drop]
    omega
  · have closing : lastPackets history ++ [pkt] <:+ packets ++ [pkt] :=
      List.suffix_concat_iff.mpr (.inr ⟨_, rfl, (List.drop_suffix _ history).trans suffix⟩)
    exact closing.isInfix
  · intro other found
    rw [first] at found
    cases found
    unfold sixtySeconds at close ⊢
    omega

structure Invariant (maxFlows : Nat) (trace : Trace) (pipeline : Pipeline capacity) : Prop where
  carried : Carries trace.traffic pipeline.channel
  received : trace.traffic.received = trace.handled ++ pipeline.inHand.toList
  ordered : (trace.traffic.offered ++ pipeline.sending.toList).Pairwise
    fun first second => first.timestamp ≤ second.timestamp
  past : ∀ pkt ∈ trace.traffic.offered ++ pipeline.sending.toList, pkt.timestamp ≤ pipeline.clock
  table : runEvents maxFlows trace.events = .ok pipeline.flowState
  orders : IterationOrders maxFlows trace.events
  flows : ∀ key, packetsOf key trace.events = flowPackets key trace.handled
  bursts : ∀ key window, LogEntry.burst key window ∈ pipeline.logged →
    BurstWindow (flowPackets key trace.handled) window sixtySeconds

variable {maxFlows : Nat} {trace : Trace} {pipeline : Pipeline capacity}

theorem new_invariant (clock : Int) : Invariant maxFlows .empty (.new maxFlows clock : Pipeline capacity) where
  carried := carries_empty
  received := rfl
  ordered := List.Pairwise.nil
  past pkt member := by cases member
  table := rfl
  orders before key pkt order after shared split := by simp [Trace.empty] at split
  flows key := rfl
  bursts key window member := by cases member

theorem Invariant.evicting (inv : Invariant maxFlows trace pipeline) :
    Evicting maxFlows trace.events pipeline.flowState := by
  obtain ⟨shared, reached, evicting⟩ := run_events_evicting maxFlows trace.events inv.orders
  rw [inv.table] at reached
  cases reached
  exact evicting

theorem stamp_invariant (inv : Invariant maxFlows trace pipeline) (data : Bytes) (now : Int)
    (later : pipeline.clock ≤ now) (idle : pipeline.sending = none) :
    Invariant maxFlows trace { pipeline with clock := now, sending := some ⟨now, data⟩ } where
  carried := inv.carried
  received := inv.received
  ordered := by
    have past := inv.past
    have ordered := inv.ordered
    rw [idle, Option.toList_none, List.append_nil] at past ordered
    refine List.pairwise_append.mpr ⟨ordered, List.pairwise_singleton _ _, ?_⟩
    intro earlier member pkt stamped
    cases List.mem_singleton.mp stamped
    exact (past earlier member).trans later
  past := by
    intro pkt member
    rcases List.mem_append.mp member with before | stamped
    · exact (inv.past pkt (List.mem_append_left _ before)).trans later
    · cases List.mem_singleton.mp stamped
      exact le_refl now
  table := inv.table
  orders := inv.orders
  flows := inv.flows
  bursts := inv.bursts

theorem send_invariant (inv : Invariant maxFlows trace pipeline) (pkt : Packet) (stamped : pipeline.sending = some pkt) :
    Invariant maxFlows { trace with traffic := trace.traffic.send pipeline.channel pkt }
      { pipeline with sending := none, channel := (pipeline.channel.trySend pkt).1 } where
  carried := inv.carried.sent pkt
  received := inv.received
  ordered := by
    have ordered := inv.ordered
    rw [stamped] at ordered
    rwa [Traffic.send, Option.toList_none, List.append_nil]
  past := by
    have past := inv.past
    rw [stamped] at past
    rwa [Traffic.send, Option.toList_none, List.append_nil]
  table := inv.table
  orders := inv.orders
  flows := inv.flows
  bursts := inv.bursts

theorem recv_invariant (inv : Invariant maxFlows trace pipeline) (idle : pipeline.inHand = none) (pkt : Packet)
    (rest : Channel Packet capacity) (taken : pipeline.channel.recv = some (pkt, rest)) :
    Invariant maxFlows { trace with traffic := trace.traffic.recv pipeline.channel }
      { pipeline with channel := rest, inHand := some pkt } where
  carried := inv.carried.taken pkt rest taken
  received := by
    have received := inv.received
    rw [idle, Option.toList_none, List.append_nil] at received
    rw [Traffic.recv, taken, received]
    rfl
  ordered := inv.ordered
  past := inv.past
  table := inv.table
  orders := inv.orders
  flows := inv.flows
  bursts := inv.bursts

theorem flows_handled (inv : Invariant maxFlows trace pipeline) (pkt : Packet) (order : List FlowKey) (key : FlowKey) :
    packetsOf key (trace.events ++ packetEvents order pkt) = flowPackets key (trace.handled ++ [pkt]) := by
  have split : packetsOf key (trace.events ++ packetEvents order pkt) =
      packetsOf key trace.events ++ packetsOf key (packetEvents order pkt) := List.filterMap_append
  rw [split, inv.flows, packet_events_flow, flow_packets_concat]
  split
  · rfl
  · rw [List.append_nil]

theorem bursts_handled (inv : Invariant maxFlows trace pipeline) (pkt : Packet) (key : FlowKey) (window : List Packet)
    (logged : LogEntry.burst key window ∈ pipeline.logged) :
    BurstWindow (flowPackets key (trace.handled ++ [pkt])) window sixtySeconds := by
  rw [flowPackets, List.filter_append]
  exact burst_window_extend _ _ window _ (inv.bursts key window logged)

theorem handle_invariant (inv : Invariant maxFlows trace pipeline) (pkt : Packet) (held : pipeline.inHand = some pkt)
    (order : List FlowKey) (yields : Yields pipeline.flowState.flowTable order) :
    Safe (step pipeline (.handle order)) (Invariant maxFlows (trace.record pipeline (.handle order))) := by
  have received := inv.received
  have flows := flows_handled inv pkt order
  have older := bursts_handled inv pkt
  rw [held] at received
  rw [step, Trace.record, held]
  dsimp only
  rcases handle_packet_cases maxFlows trace.events pipeline.flowState pkt order inv.evicting yields with
    ⟨unkeyed, handled⟩ | ⟨key, next, history, keyed, suffix, processed, handled⟩
  · rw [handled]
    rw [packetEvents, unkeyed, Option.toList_none, List.map_nil, List.append_nil] at flows ⊢
    refine safe_ok ⟨inv.carried, ?_, inv.ordered, inv.past, inv.table, inv.orders, flows, ?_⟩
    · rw [received, Option.toList_none, List.append_nil]
      rfl
    · rw [List.append_nil]
      exact older
  · rw [handled]
    rw [packetEvents, keyed, Option.toList_some, List.map_singleton] at flows ⊢
    refine safe_ok ⟨inv.carried, ?_, inv.ordered, inv.past, ?_, ?_, flows, ?_⟩
    · rw [received, Option.toList_none, List.append_nil]
      rfl
    · rw [run_events_concat maxFlows trace.events _ pipeline.flowState inv.table, stepEvent, processed]
      rfl
    · refine iteration_orders_extend maxFlows trace.events _ pipeline.flowState inv.table inv.orders ?_
      intro other packet listed same
      cases same
      exact yields
    · intro other window logged
      rcases List.mem_append.mp logged with before | now
      · exact older other window before
      · rw [Option.mem_toList] at now
        obtain ⟨shownWindow, shown, same⟩ := Option.map_eq_some_iff.mp now
        cases same
        rw [flow_packets_concat, if_pos keyed, ← inv.flows]
        exact verdict_burst_window _ history window pkt suffix shown

theorem cleanup_invariant (inv : Invariant maxFlows trace pipeline) (now : Int) (later : pipeline.clock ≤ now) :
    Safe (step pipeline (.cleanup now)) (Invariant maxFlows (trace.record pipeline (.cleanup now))) := by
  rw [step, Trace.record]
  refine safe_ok ⟨inv.carried, inv.received, inv.ordered, fun pkt member => (inv.past pkt member).trans later,
    run_events_concat maxFlows trace.events _ pipeline.flowState inv.table, ?_, ?_, ?_⟩
  · exact iteration_orders_extend maxFlows trace.events _ pipeline.flowState inv.table inv.orders
      (fun _ _ _ same => by cases same)
  · intro key
    rw [packets_of_concat, FlowEvent.packetOf, Option.toList_none, List.append_nil]
    exact inv.flows key
  · intro key window logged
    rcases List.mem_append.mp logged with before | tidied
    · exact inv.bursts key window before
    · split at tidied
      · cases List.mem_singleton.mp tidied
      · cases tidied

theorem step_invariant (inv : Invariant maxFlows trace pipeline) (action : Action) (enabled : Enabled pipeline action) :
    Safe (step pipeline action) (Invariant maxFlows (trace.record pipeline action)) := by
  cases enabled with
  | stamp data now later idle => exact safe_ok (stamp_invariant inv data now later idle)
  | send pkt stamped =>
      rw [step, Trace.record, stamped]
      exact safe_ok (send_invariant inv pkt stamped)
  | recv idle waiting =>
      obtain ⟨pkt, rest, taken⟩ := recv_ready pipeline.channel waiting
      rw [step, taken]
      exact safe_ok (recv_invariant inv idle pkt rest taken)
  | handle pkt order held yields => exact handle_invariant inv pkt held order yields
  | cleanup now later => exact cleanup_invariant inv now later

theorem reached_invariant (reached : Reached Enabled maxFlows trace pipeline) : Invariant maxFlows trace pipeline := by
  induction reached with
  | start clock => exact new_invariant clock
  | next _ may stepped ih => exact safe_result (step_invariant ih _ may) stepped

theorem Invariant.content (inv : Invariant maxFlows trace pipeline) : trace.handled ++ pipeline.pending =
    trace.traffic.received ++ pipeline.channel.items ++ pipeline.sending.toList := by
  rw [Pipeline.pending, inv.received]
  simp only [List.append_assoc]

theorem Invariant.captured (inv : Invariant maxFlows trace pipeline) :
    (trace.handled ++ pipeline.pending).Sublist (trace.traffic.offered ++ pipeline.sending.toList) ∧
      (trace.handled ++ pipeline.pending ++ trace.traffic.lost).Perm
        (trace.traffic.offered ++ pipeline.sending.toList) := by
  rw [inv.content]
  refine ⟨inv.carried.inOrder.append (List.Sublist.refl _), ?_⟩
  have moved : (trace.traffic.received ++ pipeline.channel.items ++ pipeline.sending.toList ++
      trace.traffic.lost).Perm (trace.traffic.received ++ pipeline.channel.items ++ trace.traffic.lost ++
        pipeline.sending.toList) := by
    rw [List.append_assoc, List.append_assoc _ trace.traffic.lost]
    exact List.Perm.append_left _ List.perm_append_comm
  exact moved.trans (inv.carried.conserved.append_right _)

theorem Invariant.handled_ordered (inv : Invariant maxFlows trace pipeline) :
    (trace.handled ++ pipeline.pending).Pairwise fun first second => first.timestamp ≤ second.timestamp :=
  List.Pairwise.sublist inv.captured.1 inv.ordered

theorem keys_yielded (table : HashMap FlowKey FlowState) : Yields table table.keys.toList := by
  refine ⟨Finset.nodup_toList _, ?_⟩
  intro key
  rw [Finset.mem_toList, HashMap.contains_key_true]

theorem pending_moves (pipeline : Pipeline capacity) (waiting : pipeline.pending ≠ []) :
    ∃ action, Enabled pipeline action ∧ (action = .send ∨ action = .recv ∨ ∃ order, action = .handle order) := by
  cases held : pipeline.inHand with
  | some pkt => exact ⟨_, .handle pkt _ held (keys_yielded pipeline.flowState.flowTable), .inr (.inr ⟨_, rfl⟩)⟩
  | none =>
      by_cases empty : pipeline.channel.items = []
      · cases stamped : pipeline.sending with
        | some pkt => exact ⟨.send, .send pkt stamped, .inl rfl⟩
        | none =>
            rw [Pipeline.pending, held, empty, stamped] at waiting
            exact absurd rfl waiting
      · exact ⟨.recv, .recv held empty, .inr (.inl rfl)⟩

def RoomToSend (pipeline : Pipeline capacity) (action : Action) : Prop :=
  Enabled pipeline action ∧ (action = .send → pipeline.channel.items.length < capacity)

structure TakesPackets (allowed : Pipeline capacity → Action → Prop) : Prop where
  enabled : ∀ pipeline action, allowed pipeline action → Enabled pipeline action
  packets : ∀ pipeline action, RoomToSend pipeline action → (∀ now, action ≠ .cleanup now) → allowed pipeline action

theorem enabled_takes_packets : TakesPackets (Enabled : Pipeline capacity → Action → Prop) :=
  ⟨fun _ _ may => may, fun _ _ may _ => may.1⟩

theorem room_takes_packets : TakesPackets (RoomToSend : Pipeline capacity → Action → Prop) :=
  ⟨fun _ _ may => may.1, fun _ _ may _ => may⟩

def Pipeline.Idle (pipeline : Pipeline capacity) : Prop :=
  pipeline.sending = none ∧ pipeline.channel.items = [] ∧ pipeline.inHand = none

theorem handle_leaves (pipeline after : Pipeline capacity) (order : List FlowKey) (pkt : Packet)
    (held : pipeline.inHand = some pkt) (stepped : step pipeline (.handle order) = .ok after) :
    after.inHand = none ∧ after.sending = pipeline.sending ∧ after.channel = pipeline.channel ∧
      after.clock = pipeline.clock := by
  rw [step, held] at stepped
  obtain ⟨result, _, returned⟩ := bind_eq_ok stepped
  cases returned
  exact ⟨rfl, rfl, rfl, rfl⟩

theorem packet_taken_through {allowed : Pipeline capacity → Action → Prop} (takes : TakesPackets allowed)
    (reached : Reached allowed maxFlows trace pipeline) (idle : pipeline.Idle) (positive : 0 < capacity)
    (data : Bytes) (now : Int) (later : pipeline.clock ≤ now) :
    ∃ next after order, Reached allowed maxFlows next after ∧ after.Idle ∧ after.clock = now ∧
      next.handled = trace.handled ++ [⟨now, data⟩] ∧
      next.events = trace.events ++ packetEvents order ⟨now, data⟩ := by
  obtain ⟨unsent, empty, unheld⟩ := idle
  have room : pipeline.channel.items.length < capacity := by rw [empty]; exact positive
  have stamped := reached.next (takes.packets _ _ ⟨.stamp data now later unsent, by simp⟩ (by simp)) rfl
  have sent := stamped.next (takes.packets _ _ ⟨.send ⟨now, data⟩ rfl, fun _ => room⟩ (by simp)) rfl
  have queued := (try_send_room pipeline.channel ⟨now, data⟩ room).1
  rw [empty, List.nil_append] at queued
  obtain ⟨pkt, rest, taken⟩ := recv_ready (pipeline.channel.trySend ⟨now, data⟩).1 (by rw [queued]; simp)
  have items := recv_items _ rest pkt taken
  rw [queued] at items
  obtain ⟨rfl, drained⟩ := List.cons.inj items
  have receive : step { pipeline with
      clock := now
      sending := none
      channel := (pipeline.channel.trySend ⟨now, data⟩).1 } .recv =
        .ok { pipeline with clock := now, sending := none, channel := rest, inHand := some ⟨now, data⟩ } := by
    rw [step]
    dsimp only
    rw [taken]
    rfl
  have ready : Enabled { pipeline with
      clock := now
      sending := none
      channel := (pipeline.channel.trySend ⟨now, data⟩).1 } .recv := .recv unheld (by rw [queued]; simp)
  have received := sent.next (takes.packets _ _ ⟨ready, by simp⟩ (by simp)) receive
  have yields := keys_yielded pipeline.flowState.flowTable
  have inv := reached_invariant (received.weaken takes.enabled)
  obtain ⟨after, stepped, _⟩ := handle_invariant inv ⟨now, data⟩ rfl _ yields
  obtain ⟨unheldAfter, unsentAfter, sameChannel, sameClock⟩ := handle_leaves _ after _ _ rfl stepped
  have handled := received.next (takes.packets _ _ ⟨.handle ⟨now, data⟩ _ rfl yields, by simp⟩ (by simp)) stepped
  exact ⟨_, after, _, handled, ⟨unsentAfter, by rw [sameChannel, drained], unheldAfter⟩, sameClock, rfl, rfl⟩

-- Datagrams from 10.0.0.1:53 to 10.0.0.2:5353 without an Ethernet header, all at the
-- same time, that come one after the other.
def datagram : Bytes := [0x45, 0, 0, 28, 0, 0, 0, 0, 64, 17, 0, 0, 10, 0, 0, 1, 10, 0, 0, 2, 0, 53, 20, 233, 0, 8, 0, 0]

def datagramKey : FlowKey := (0x0A000001, 53, 0x0A000002, 5353)

theorem datagram_flow : flowKeyOf datagram = some datagramKey := by decide +kernel

theorem datagrams_handled (allowed : Pipeline 1 → Action → Prop) (takes : TakesPackets allowed) (count : Nat) :
    ∃ trace pipeline, Reached allowed 1 trace pipeline ∧ pipeline.Idle ∧ pipeline.clock = 5 ∧
      trace.handled = List.replicate count ⟨5, datagram⟩ ∧ flowKeys trace.events ⊆ {datagramKey} := by
  induction count with
  | zero => exact ⟨.empty, .new 1 5, .start 5, ⟨rfl, rfl, rfl⟩, rfl, rfl, Finset.empty_subset _⟩
  | succ count ih =>
      obtain ⟨trace, pipeline, reached, idle, clock, handled, keys⟩ := ih
      obtain ⟨next, after, order, reachedAfter, idleAfter, clockAfter, handledAfter, events⟩ :=
        packet_taken_through takes reached idle Nat.one_pos datagram 5 (by rw [clock])
      refine ⟨next, after, reachedAfter, idleAfter, clockAfter, ?_, ?_⟩
      · rw [handledAfter, handled, List.replicate_succ']
      · rw [events, packetEvents]
        dsimp only
        rw [datagram_flow]
        intro key member
        simp only [flowKeys, List.filterMap_append, List.toFinset_append, Finset.mem_union] at member
        rcases member with before | last
        · exact keys before
        · simpa [FlowEvent.flowKey] using last

-- In every interleaving of the tasks no step fails, the table stays within its
-- bound and is the one its calls make, every packet captured is handled, on its way
-- or lost, once each, the ones not lost are in the order of their capture, and none
-- of those on their way is stuck.
theorem pipeline_runs_safely (reached : Reached Enabled maxFlows trace pipeline) :
    (∀ action, Enabled pipeline action → ∃ after, step pipeline action = .ok after) ∧
      pipeline.flowState.flowTable.len ≤ max maxFlows 1 ∧
      runEvents maxFlows trace.events = .ok pipeline.flowState ∧
      (∀ key, packetsOf key trace.events = flowPackets key trace.handled) ∧
      (trace.handled ++ pipeline.pending).Sublist (trace.traffic.offered ++ pipeline.sending.toList) ∧
      (trace.handled ++ pipeline.pending ++ trace.traffic.lost).Perm
        (trace.traffic.offered ++ pipeline.sending.toList) ∧
      (pipeline.pending ≠ [] → ∃ action, Enabled pipeline action ∧
        (action = .send ∨ action = .recv ∨ ∃ order, action = .handle order)) := by
  have inv := reached_invariant reached
  exact ⟨fun action enabled => safe_terminates (step_invariant inv action enabled), inv.evicting.bounded, inv.table,
    inv.flows, inv.captured.1, inv.captured.2, pending_moves pipeline⟩

theorem datagram_runs_safely : ∃ trace pipeline, Reached Enabled 1 trace (pipeline : Pipeline 1) ∧
    trace.handled = [⟨5, datagram⟩] ∧ runEvents 1 trace.events = .ok pipeline.flowState ∧
    ∀ action, Enabled pipeline action → ∃ after, step pipeline action = .ok after := by
  obtain ⟨trace, pipeline, reached, _, _, handled, _⟩ := datagrams_handled Enabled enabled_takes_packets 1
  have safely := pipeline_runs_safely reached
  exact ⟨trace, pipeline, reached, handled, safely.2.2.1, safely.1⟩

theorem record_lost (pipeline : Pipeline capacity) (action : Action) (may : RoomToSend pipeline action)
    (none : trace.traffic.lost = []) : (trace.record pipeline action).traffic.lost = [] := by
  obtain ⟨enabled, room⟩ := may
  cases enabled with
  | stamp data now later idle => exact none
  | send pkt stamped =>
      have accepted := (try_send_room pipeline.channel pkt (room rfl)).2
      rw [Trace.record, stamped]
      dsimp only
      rw [Traffic.send, accepted, if_pos rfl]
      exact none
  | recv idle waiting => exact none
  | handle pkt order held yields =>
      rw [Trace.record, held]
      exact none
  | cleanup now later => exact none

theorem unfilled_channel_loses_nothing (reached : Reached RoomToSend maxFlows trace pipeline) :
    trace.handled ++ pipeline.pending = trace.traffic.offered ++ pipeline.sending.toList := by
  have none : trace.traffic.lost = [] := by
    induction reached with
    | start clock => rfl
    | next _ may _ ih => exact record_lost _ _ may ih
  have inv := reached_invariant (reached.weaken fun _ _ may => may.1)
  rw [inv.content, inv.carried.lossless none]

theorem datagrams_not_lost : ∃ trace pipeline, Reached RoomToSend 1 trace (pipeline : Pipeline 1) ∧
    trace.handled = List.replicate 3 ⟨5, datagram⟩ ∧
    trace.handled ++ pipeline.pending = trace.traffic.offered ++ pipeline.sending.toList := by
  obtain ⟨trace, pipeline, reached, _, _, handled, _⟩ := datagrams_handled RoomToSend room_takes_packets 3
  exact ⟨trace, pipeline, reached, handled, unfilled_channel_loses_nothing reached⟩

end NetworkIds.FlowPipeline
