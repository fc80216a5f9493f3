import NetworkIds.Lib.Progress
import NetworkIds.Sensor

set_option autoImplicit false

namespace NetworkIds.Sensor

open Checked Grouping Placement NetworkIds.Capture NetworkIds.Engine NetworkIds.Locality NetworkIds.Parser
open NetworkIds.Alerts (AlertForwarder AlertPath Answers handleMessage)
open NetworkIds.FlowPipeline (Pipeline)
open NetworkIds.FlowTable (Packet)
open NetworkIds.RingProtocol (Reader userOwned readerStep)

section Rank

variable {τ : Type} {capacity : Nat}

def unread (ring : MappedRing) : Nat := ring.contents.length - ring.ring.released

def readerRank : Reader → Nat
  | .polling _ => 4
  | .idle => 3
  | .checking _ | .rechecking _ => 2
  | .claiming _ => 1
  | .holding _ => 0

def stageRank (state : State τ capacity) : Nat × Nat × Nat :=
  match state.position with
  | .nextBlock => (3, 0, readerRank state.ring.ring.reader)
  | .buffering iterator => (2, 0, iterator.numPkts - iterator.currentPktIdx)
  | .walking ports slice => (1, ports.length, 3 * slice.length)
  | .copied _ ports slice => (1, ports.length, 3 * slice.length + 2)
  | .offered _ ports slice => (1, ports.length, 3 * slice.length + 1)

-- What is left to do, compared from left to right: the blocks that are not given back,
-- the part of the loop with its ports and packets, the alerts to be sent, and the
-- alerts to be handled.
def rank (state : State τ capacity) : Nat × (Nat × Nat × Nat) × Nat × Nat :=
  (unread state.ring, stageRank state, state.alerts.generated.length, state.alerts.channel.length)

def Less : Nat × (Nat × Nat × Nat) × Nat × Nat → Nat × (Nat × Nat × Nat) × Nat × Nat → Prop :=
  WellFoundedRelation.rel

variable {state later : State τ capacity}

theorem less_unread (fewer : unread later.ring < unread state.ring) : Less (rank later) (rank state) :=
  Prod.Lex.left _ _ fewer

theorem less_stage (same : unread later.ring = unread state.ring)
    (nearer : WellFoundedRelation.rel (stageRank later) (stageRank state)) : Less (rank later) (rank state) := by
  rw [rank, rank, same]
  exact Prod.Lex.right _ (Prod.Lex.left _ _ nearer)

theorem less_generated (same : unread later.ring = unread state.ring) (stage : stageRank later = stageRank state)
    (fewer : later.alerts.generated.length < state.alerts.generated.length) : Less (rank later) (rank state) := by
  rw [rank, rank, same, stage]
  exact Prod.Lex.right _ (Prod.Lex.right _ (Prod.Lex.left _ _ fewer))

theorem less_channel (same : unread later.ring = unread state.ring) (stage : stageRank later = stageRank state)
    (generated : later.alerts.generated = state.alerts.generated)
    (fewer : later.alerts.channel.length < state.alerts.channel.length) : Less (rank later) (rank state) := by
  rw [rank, rank, same, stage, generated]
  exact Prod.Lex.right _ (Prod.Lex.right _ (Prod.Lex.right _ fewer))

end Rank

section Descent

variable {τ : Type} [Sub τ] [LT τ] [DecidableLT τ] [Timestamp τ] {capacity : Nat}
  (toStringPretty : IdsmMessage → Option String) (localTime : Nat → String) (link : LinkType)
  (config : MappedConfig) {engine : StatefulDetectionEngine τ} {maxFlows : Nat} {forwarder : Option AlertForwarder}
  {state after : State τ capacity}

theorem waiting_block_owned {ring : MappedRing} (inv : MappedInvariant config ring)
    (noGuard : ∀ blockIdx, ring.ring.reader ≠ .holding blockIdx) (waiting : 0 < unread ring) :
    userOwned (ring.ring.blockStatus ring.ring.capture.currentBlockIdx) = true := by
  have released : ring.ring.released = ring.ring.handed.length := by
    rw [RingProtocol.RingState.released]
    cases phase : ring.ring.reader with
    | holding blockIdx => exact absurd phase (noGuard blockIdx)
    | _ => rfl
  unfold unread at waiting
  rw [inv.counted] at waiting
  have owned := (inv.protocol.owned ring.ring.released (Nat.le_refl _) (by omega)).1
  rwa [released, ← inv.protocol.currentIdx] at owned

theorem reader_descends {ring : MappedRing} (inv : MappedInvariant config ring)
    (noGuard : ∀ blockIdx, ring.ring.reader ≠ .holding blockIdx) (waiting : 0 < unread ring) (ret : Int) :
    readerRank (readerStep ret ring.ring).reader < readerRank ring.ring.reader := by
  have owned := waiting_block_owned config inv noGuard waiting
  have aligned := inv.protocol.aligned
  rw [RingProtocol.ReaderAligned] at aligned
  rw [readerStep]
  cases phase : ring.ring.reader with
  | idle => exact Nat.lt_succ_self 2
  | checking blockIdx =>
      rw [phase] at aligned
      rw [← aligned] at owned
      dsimp only
      rw [if_pos owned]
      exact Nat.lt_succ_self 1
  | polling blockIdx =>
      dsimp only
      by_cases timeout : ret ≤ 0
      · rw [if_pos timeout]
        exact Nat.lt_succ_self 3
      · rw [if_neg timeout]
        exact Nat.lt_of_lt_of_le (Nat.lt_succ_self 2) (Nat.le_succ 3)
  | rechecking blockIdx =>
      rw [phase] at aligned
      rw [← aligned] at owned
      dsimp only
      rw [if_pos owned]
      exact Nat.lt_succ_self 1
  | claiming blockIdx => exact Nat.lt_succ_self 0
  | holding blockIdx => exact absurd phase (noGuard blockIdx)

theorem next_block_descends (inv : Invariant toStringPretty localTime link config engine maxFlows forwarder state)
    (waiting : 0 < unread state.ring) (ret now : Int) (here : state.position = .nextBlock)
    (stepped : captureStep localTime link config ret now state = .ok after) :
    Less (rank after) (rank state) ∧ after.ring.contents = state.ring.contents := by
  by_cases holding : ∃ blockIdx, state.ring.ring.reader = .holding blockIdx
  · obtain ⟨blockIdx, holding⟩ := holding
    rw [captureStep, here] at stepped
    dsimp only at stepped
    rw [holding] at stepped
    obtain ⟨buffer, _, returned⟩ := bind_eq_ok stepped
    cases returned
    refine ⟨less_stage rfl ?_, rfl⟩
    rw [stageRank, stageRank, here]
    exact Prod.Lex.left _ _ (Nat.lt_succ_self 2)
  · have noGuard : ∀ blockIdx, state.ring.ring.reader ≠ .holding blockIdx :=
      fun blockIdx same => holding ⟨blockIdx, same⟩
    rw [next_block_moves localTime link config ret now here noGuard] at stepped
    cases stepped
    obtain ⟨released, _, _⟩ := reader_step_released ret state.ring.ring noGuard
    have nearer := reader_descends config inv.ring noGuard waiting ret
    rw [mapped_reader_moves ret noGuard]
    refine ⟨less_stage ?_ ?_, rfl⟩
    · rw [unread, unread, released]
    · rw [stageRank, stageRank, here]
      exact Prod.Lex.right _ (Prod.Lex.right _ nearer)

theorem buffering_descends (ret now : Int) (iterator : PacketIterator) (here : state.position = .buffering iterator)
    (stepped : captureStep localTime link config ret now state = .ok after) :
    Less (rank after) (rank state) ∧ after.ring.contents = state.ring.contents := by
  rw [captureStep, here] at stepped
  dsimp only at stepped
  cases yielded : iterator.next state.ring.memory with
  | none =>
      rw [yielded] at stepped
      obtain ⟨buffer, _, grouping⟩ := bind_eq_ok stepped
      obtain ⟨ports, _, returned⟩ := bind_eq_ok grouping
      cases returned
      refine ⟨less_stage rfl ?_, rfl⟩
      rw [stageRank, stageRank, here]
      exact Prod.Lex.left _ _ (Nat.lt_succ_self 1)
  | some next =>
      obtain ⟨raw, moved⟩ := next
      rw [yielded] at stepped
      obtain ⟨buffer, _, returned⟩ := bind_eq_ok stepped
      cases returned
      obtain ⟨advanced, same⟩ := next_advances _ iterator moved raw yielded
      have more : iterator.currentPktIdx < iterator.numPkts := by
        by_contra finished
        rw [PacketIterator.next, if_pos (Nat.le_of_not_lt finished)] at yielded
        cases yielded
      refine ⟨less_stage rfl ?_, rfl⟩
      rw [stageRank, stageRank, here]
      refine Prod.Lex.right _ (Prod.Lex.right _ ?_)
      show moved.numPkts - moved.currentPktIdx < iterator.numPkts - iterator.currentPktIdx
      omega

theorem walking_descends (inv : Invariant toStringPretty localTime link config engine maxFlows forwarder state)
    (ret now : Int) (ports : List UInt16) (slice : List PacketRef) (here : state.position = .walking ports slice)
    (stepped : captureStep localTime link config ret now state = .ok after) :
    Less (rank after) (rank state) ∧ after.ring.contents = state.ring.contents := by
  have position := inv.position
  rw [here] at position
  rw [captureStep, here] at stepped
  dsimp only at stepped
  cases position with
  | walking _ _ blockIdx block waiting walk _ _ =>
      cases generated : state.alerts.generated with
      | cons msg rest =>
          rw [generated] at stepped
          cases stepped
          refine ⟨less_generated rfl ?_ ?_, rfl⟩
          · rw [stageRank, stageRank, here]
          · rw [generated]
            exact Nat.lt_succ_self _
      | nil =>
          rw [generated] at stepped
          cases slice with
          | cons pktRef slice =>
              cases stepped
              refine ⟨less_stage rfl ?_, rfl⟩
              rw [stageRank, stageRank, here]
              refine Prod.Lex.right _ (Prod.Lex.right _ ?_)
              show 3 * slice.length + 2 < 3 * (slice.length + 1)
              omega
          | nil =>
              cases ports with
              | cons port ports =>
                  obtain ⟨slice, _, returned⟩ := bind_eq_ok stepped
                  cases returned
                  refine ⟨less_stage rfl ?_, rfl⟩
                  rw [stageRank, stageRank, here]
                  exact Prod.Lex.right _ (Prod.Lex.left _ _ (Nat.lt_succ_self _))
              | nil =>
                  cases stepped
                  obtain ⟨released, contents⟩ := drop_guard_released inv.ring ret blockIdx walk.holds.holding
                  obtain ⟨inside, _⟩ := List.getElem?_eq_some_iff.mp walk.holds.found
                  refine ⟨less_unread ?_, contents⟩
                  rw [unread, unread]
                  dsimp only
                  rw [released, contents]
                  omega

theorem capture_descends (inv : Invariant toStringPretty localTime link config engine maxFlows forwarder state)
    (waiting : 0 < unread state.ring) (ret now : Int)
    (stepped : captureStep localTime link config ret now state = .ok after) :
    Less (rank after) (rank state) ∧ after.ring.contents = state.ring.contents := by
  cases here : state.position with
  | nextBlock => exact next_block_descends toStringPretty localTime link config inv waiting ret now here stepped
  | buffering iterator => exact buffering_descends localTime link config ret now iterator here stepped
  | walking ports slice => exact walking_descends toStringPretty localTime link config inv ret now ports slice here stepped
  | copied pktRef ports slice =>
      rw [captureStep, here] at stepped
      obtain ⟨pipeline, _, returned⟩ := bind_eq_ok stepped
      cases returned
      refine ⟨less_stage rfl ?_, rfl⟩
      rw [stageRank, stageRank, here]
      exact Prod.Lex.right _ (Prod.Lex.right _ (Nat.lt_succ_self _))
  | offered pktRef ports slice =>
      rw [captureStep, here] at stepped
      dsimp only at stepped
      obtain ⟨parsed, _, returned⟩ := bind_eq_ok stepped
      cases returned
      refine ⟨less_stage rfl ?_, rfl⟩
      rw [stageRank, stageRank, here]
      exact Prod.Lex.right _ (Prod.Lex.right _ (Nat.lt_succ_self _))

end Descent

section Frames

variable {τ : Type} {capacity : Nat} (link : LinkType) (config : MappedConfig)

theorem stored_split (ring : MappedRing) (count : Nat) :
    storedFrames link ring = (ring.contents.take count).flatMap (StoredBlock.handed link) ++
      (ring.contents.drop count).flatMap (StoredBlock.handed link) := by
  rw [← List.flatMap_append, List.take_append_drop, storedFrames]

theorem read_stored (ring : MappedRing) : readFrames link ring <+: storedFrames link ring := by
  rw [readFrames, stored_split link ring ring.ring.released]
  exact List.prefix_append _ _

theorem block_stored (ring : MappedRing) (blockIdx : Nat) (block : StoredBlock)
    (holds : HoldsBlock ring blockIdx block) : readFrames link ring ++ block.handed link <+: storedFrames link ring := by
  have first : (ring.contents.take (ring.ring.released + 1)).flatMap (StoredBlock.handed link) =
      readFrames link ring ++ block.handed link := by
    rw [List.take_add_one, holds.found, List.flatMap_append, readFrames]
    simp
  rw [stored_split link ring (ring.ring.released + 1), first]
  exact List.prefix_append _ _

theorem position_frames {maxFlows : Nat} {state : State τ capacity} {position : Position}
    (at_ : AtPosition link config maxFlows state position) :
    readFrames link state.ring <+: state.inspected ∧ ∃ copies, Copied maxFlows state.pipeline copies ∧
      state.inspected <+: copies ∧ copies.length ≤ state.inspected.length + 1 ∧
      copies <+: storedFrames link state.ring := by
  cases at_ with
  | nextBlock read sent idle represents copied =>
      refine ⟨by rw [read], _, copied, List.prefix_refl _, Nat.le_succ _, ?_⟩
      rw [read]
      exact read_stored link state.ring
  | buffering iterator blockIdx block done left holds split leads buffered read sent idle copied =>
      refine ⟨by rw [read], _, copied, List.prefix_refl _, Nat.le_succ _, ?_⟩
      rw [read]
      exact read_stored link state.ring
  | walking ports slice blockIdx block waiting walk idle copied =>
      refine ⟨walk.released, _, copied, List.prefix_refl _, Nat.le_succ _, ?_⟩
      have inside := block_stored link state.ring blockIdx block walk.holds
      rw [← walk.inspected] at inside
      exact (List.prefix_append _ _).trans inside
  | copied pktRef ports slice blockIdx block frame waiting walk sent pkt stamped copied
  | offered pktRef ports slice blockIdx block frame waiting walk sent idle copied =>
      refine ⟨walk.released, _, copied, List.prefix_append _ _, Nat.le_of_eq List.length_append, ?_⟩
      have inside := block_stored link state.ring blockIdx block walk.holds
      rw [← walk.inspected, ← List.singleton_append, ← List.append_assoc] at inside
      exact (List.prefix_append _ _).trans inside

theorem position_waiting {maxFlows : Nat} {state : State τ capacity} {position : Position}
    (at_ : AtPosition link config maxFlows state position) (none : unread state.ring = 0) :
    state.alerts.generated = [] ∧ state.inspected = storedFrames link state.ring := by
  have inBlock (blockIdx : Nat) (block : StoredBlock) : ¬HoldsBlock state.ring blockIdx block := by
    intro holds
    obtain ⟨inside, _⟩ := List.getElem?_eq_some_iff.mp holds.found
    unfold unread at none
    omega
  cases at_ with
  | nextBlock read sent idle represents copied =>
      refine ⟨sent, ?_⟩
      rw [read, readFrames, storedFrames, List.take_of_length_le]
      unfold unread at none
      omega
  | buffering iterator blockIdx block done left holds split leads buffered read sent idle copied =>
      exact absurd holds (inBlock blockIdx block)
  | walking ports slice blockIdx block waiting walk idle copied => exact absurd walk.holds (inBlock blockIdx block)
  | copied pktRef ports slice blockIdx block frame waiting walk sent pkt stamped copied =>
      exact absurd walk.holds (inBlock blockIdx block)
  | offered pktRef ports slice blockIdx block frame waiting walk sent idle copied =>
      exact absurd walk.holds (inBlock blockIdx block)

end Frames

section Log

variable {τ : Type} [Sub τ] [LT τ] [DecidableLT τ] [Timestamp τ] {capacity : Nat}
  (toStringPretty : IdsmMessage → Option String) (localTime : Nat → String) (link : LinkType)
  (config : MappedConfig) {engine : StatefulDetectionEngine τ} {maxFlows : Nat} {forwarder : Option AlertForwarder}
  {state : State τ capacity}

def expectedLog (engine : StatefulDetectionEngine τ) (ring : MappedRing) : List String :=
  (runAlerts localTime engine ((storedFrames link ring).map (arrivalOf link))).filterMap toStringPretty

def CaughtUp (state : State τ capacity) : Prop := unread state.ring = 0 ∧ state.alerts.channel = []

theorem run_alerts_begin {first second : List (Arrival τ)} (inside : first <+: second) :
    runAlerts localTime engine first <+: runAlerts localTime engine second := by
  obtain ⟨rest, rfl⟩ := inside
  rw [run_alerts_append]
  exact List.prefix_append _ _

theorem logged_expected (inv : Invariant toStringPretty localTime link config engine maxFlows forwarder state) :
    state.alerts.handler.logged <+: expectedLog toStringPretty localTime link engine state.ring := by
  obtain ⟨trace, reached, arrivals⟩ := inv.alerts
  have alerts := Alerts.reached_invariant toStringPretty localTime reached
  obtain ⟨_, copies, _, further, _, inside⟩ := position_frames link config inv.position
  have raised := alerts.conserved
  rw [List.append_assoc, arrivals] at raised
  have handled : trace.handled.map Prod.fst <+:
      runAlerts localTime engine (state.inspected.map (arrivalOf link)) := by
    rw [← raised]
    exact List.prefix_append _ _
  rw [Alerts.handler_logged toStringPretty localTime alerts, expectedLog]
  exact (handled.trans (run_alerts_begin localTime ((further.trans inside).map _))).filterMap _

theorem caught_up_alerts (inv : Invariant toStringPretty localTime link config engine maxFlows forwarder state)
    (caughtUp : CaughtUp state) :
    state.alerts.handler.logged = expectedLog toStringPretty localTime link engine state.ring := by
  obtain ⟨trace, reached, arrivals⟩ := inv.alerts
  have alerts := Alerts.reached_invariant toStringPretty localTime reached
  obtain ⟨sent, inspected⟩ := position_waiting link config inv.position caughtUp.1
  have raised := alerts.conserved
  rw [caughtUp.2, sent, List.append_nil, List.append_nil, arrivals, inspected] at raised
  rw [Alerts.handler_logged toStringPretty localTime alerts, raised, expectedLog]

inductive OwnStep (state after : State τ capacity) : Prop where
  | capture (ret now : Int) (later : state.pipeline.clock ≤ now)
      (stepped : step toStringPretty localTime link config state (.capture ret now) = .ok after)
  | alert (answers : Answers) (msg : IdsmMessage) (rest : List IdsmMessage)
      (waiting : state.alerts.channel = msg :: rest)
      (stepped : step toStringPretty localTime link config state (.alert answers) = .ok after)

theorem own_step_reached {after : State τ capacity}
    (reached : Reached toStringPretty localTime link config engine maxFlows forwarder state)
    (own : OwnStep toStringPretty localTime link config state after) :
    Reached toStringPretty localTime link config engine maxFlows forwarder after := by
  cases own with
  | capture ret now later stepped => exact reached.next (.capture ret now later) stepped
  | alert answers msg rest waiting stepped => exact reached.next (.alert answers msg rest waiting) stepped

-- A sensor with something left to do has a step that brings it nearer to the end.
theorem sensor_descends (contents : List StoredBlock) : Progress.Descends Less rank
    (OwnStep toStringPretty localTime link config)
    (fun state : State τ capacity => Reached toStringPretty localTime link config engine maxFlows forwarder state ∧
      state.ring.contents = contents) CaughtUp where
  wellFounded := WellFoundedRelation.wf
  moves := by
    rintro state ⟨reached, same⟩ unfinished
    have inv := reached_invariant toStringPretty localTime link config reached
    cases waiting : state.alerts.channel with
    | cons msg rest =>
        have own : OwnStep toStringPretty localTime link config state { state with alerts := { state.alerts with
            channel := rest
            handler := handleMessage toStringPretty state.alerts.handler ⟨true, true, true, true⟩ msg } } :=
          .alert ⟨true, true, true, true⟩ msg rest waiting (by rw [step, waiting]; rfl)
        refine ⟨_, own, ⟨own_step_reached toStringPretty localTime link config reached own, same⟩, ?_⟩
        refine less_channel rfl rfl rfl ?_
        rw [waiting]
        exact Nat.lt_succ_self _
    | nil =>
        have left : 0 < unread state.ring := Nat.pos_of_ne_zero fun none => unfinished ⟨none, waiting⟩
        obtain ⟨after, stepped, _⟩ := capture_step_safe toStringPretty localTime link config inv 1 state.pipeline.clock
          (Int.le_refl _)
        obtain ⟨lower, kept⟩ := capture_descends toStringPretty localTime link config inv left 1 _ stepped
        have own : OwnStep toStringPretty localTime link config state after :=
          .capture 1 state.pipeline.clock (Int.le_refl _) stepped
        exact ⟨after, own, ⟨own_step_reached toStringPretty localTime link config reached own, kept.trans same⟩, lower⟩

theorem reaches_caught_up (reached : Reached toStringPretty localTime link config engine maxFlows forwarder state) :
    ∃ later, Relation.ReflTransGen (OwnStep toStringPretty localTime link config) state later ∧
      (Reached toStringPretty localTime link config engine maxFlows forwarder later ∧
        later.ring.contents = state.ring.contents) ∧ CaughtUp later :=
  Progress.reaches_goal (sensor_descends toStringPretty localTime link config state.ring.contents) state ⟨reached, rfl⟩

theorem sensor_follows_ring (reached : Reached toStringPretty localTime link config engine maxFlows forwarder state) :
    (∀ action, Enabled config state action →
        ∃ after, step toStringPretty localTime link config state action = .ok after) ∧
      readFrames link state.ring <+: state.inspected ∧ state.inspected <+: storedFrames link state.ring ∧
      state.alerts.handler.logged <+: expectedLog toStringPretty localTime link engine state.ring ∧
      (CaughtUp state →
        state.alerts.handler.logged = expectedLog toStringPretty localTime link engine state.ring) := by
  have inv := reached_invariant toStringPretty localTime link config reached
  obtain ⟨released, copies, _, further, _, inside⟩ := position_frames link config inv.position
  exact ⟨fun action enabled => safe_terminates (step_safe toStringPretty localTime link config inv action enabled),
    released, further.trans inside, logged_expected toStringPretty localTime link config inv,
    caught_up_alerts toStringPretty localTime link config inv⟩

theorem flows_follow_ring (reached : Reached toStringPretty localTime link config engine maxFlows forwarder state) :
    ∃ trace, FlowPipeline.Reached FlowPipeline.Enabled maxFlows trace state.pipeline ∧
      (trace.traffic.offered ++ state.pipeline.sending.toList).map Packet.data <+:
        (storedFrames link state.ring).map (fun frame => frame.data.bytes) ∧
      (state.inspected.map fun frame => frame.data.bytes) <+:
        (trace.traffic.offered ++ state.pipeline.sending.toList).map Packet.data ∧
      ((trace.handled ++ state.pipeline.pending).map Packet.data).Sublist
        ((storedFrames link state.ring).map fun frame => frame.data.bytes) ∧
      ∀ key window, FlowPipeline.LogEntry.burst key window ∈ state.pipeline.logged →
        window.length = 100 ∧ (window.map Packet.data).Sublist
          (((storedFrames link state.ring).map fun frame => frame.data.bytes).filter
            fun data => FlowPipeline.flowKeyOf data == some key) := by
  have inv := reached_invariant toStringPretty localTime link config reached
  obtain ⟨_, copies, ⟨trace, pipelineReached, bytes⟩, further, _, inside⟩ := position_frames link config inv.position
  have flow := FlowPipeline.reached_invariant pipelineReached
  have stored := inside.map fun frame => frame.data.bytes
  have offered := flow.captured.1.map Packet.data
  rw [bytes] at offered
  have handled := offered.trans stored.sublist
  refine ⟨trace, pipelineReached, by rw [bytes]; exact stored, by rw [bytes]; exact further.map _, handled, ?_⟩
  intro key window logged
  obtain ⟨long, trigger, within, _⟩ := flow.bursts key window logged
  have flowData : (FlowPipeline.flowPackets key trace.handled).map Packet.data =
      (trace.handled.map Packet.data).filter fun data => FlowPipeline.flowKeyOf data == some key := by
    rw [FlowPipeline.flowPackets, List.filter_map]
    rfl
  have first : (window.map Packet.data).Sublist ((FlowPipeline.flowPackets key trace.handled).map Packet.data) :=
    ((List.sublist_append_left _ _).trans within.sublist).map _
  rw [List.map_append] at handled
  rw [flowData] at first
  exact ⟨long, first.trans (((List.sublist_append_left _ _).trans handled).filter _)⟩

end Log

section Scan

variable {capacity : Nat} (toStringPretty : IdsmMessage → Option String) (localTime : Nat → String) (link : LinkType)
  (config : MappedConfig) (iface : String) (selfIps : List IpAddr) (rulesLoaded : List (RuleConfig Rat))
  {maxFlows : Nat} {forwarder : Option AlertForwarder} {state : State Rat capacity}

def alertsOver (engine : StatefulDetectionEngine Rat) (earlier recent : List StoredBlock) : List IdsmMessage :=
  runAlerts localTime
    (Engine.run localTime engine ((earlier.flatMap (StoredBlock.handed link)).map (arrivalOf link)))
    ((recent.flatMap (StoredBlock.handed link)).map (arrivalOf link))

theorem stored_scan_logged
    (reached : Reached toStringPretty localTime link config (.new iface selfIps rulesLoaded) maxFlows forwarder state)
    (caughtUp : CaughtUp state) (scan : Scan) (loaded : scan.rule ∈ rulesLoaded)
    (earlier recent later : List StoredBlock) (split : state.ring.contents = earlier ++ recent ++ later)
    (small : ∀ block ∈ recent, block.frames.length ≤ maxBatchSize) (source : IpAddr)
    (among : scan.Among selfIps source link (recent.flatMap StoredBlock.stored)) :
    ∃ msg ∈ alertsOver localTime link (.new iface selfIps rulesLoaded) earlier recent,
      (reportFor scan.rule.id (IpAddr.display source) msg).isSome ∧
        ∀ json, toStringPretty msg = some json → json ∈ state.alerts.handler.logged := by
  have inv := reached_invariant toStringPretty localTime link config reached
  have given := read_frames_perm link recent small
  have detected := scan_detected localTime link iface selfIps rulesLoaded scan loaded
    ((earlier.flatMap (StoredBlock.handed link)).map (arrivalOf link)) (recent.flatMap (StoredBlock.handed link)) source
    (among.perm given)
  obtain ⟨count, reported⟩ := List.exists_mem_of_ne_nil _ detected
  obtain ⟨msg, raised, found⟩ := List.mem_filterMap.mp reported
  refine ⟨msg, raised, by rw [found]; rfl, ?_⟩
  intro json written
  rw [caught_up_alerts toStringPretty localTime link config inv caughtUp, expectedLog, storedFrames, split,
    List.flatMap_append, List.flatMap_append, List.map_append, List.map_append, run_alerts_append, run_alerts_append]
  exact List.mem_filterMap.mpr ⟨msg, List.mem_append_left _ (List.mem_append_right _ raised), written⟩

end Scan

-- The kernel stores a block with four SYN of 10.0.0.9 to 192.168.1.1.
def synFrame (port : UInt8) : StoredFrame where
  sec := 86
  nsec := 0
  len := 54
  status := 0
  unread := Octets.fill 22 0
  gap := []
  data := Capture.synTo port
  padding := []
  macFits := by decide
  sizeFits := by
    show 48 + 0 + 54 + 0 < UInt32.size
    decide

def scanStored : StoredBlock where
  front := Octets.fill 8 0
  flags := 0
  unread := Octets.fill 28 0
  gap := []
  frames := [21, 22, 23, 80].map synFrame
  last := 0
  offsetFits := by decide
  countFits := by decide

def twoBlocks : MappedConfig where
  blockNr := 2
  positive := by decide
  mmapPtr := 0
  blockSize := 4096
  headerFits := by decide

def sensorEngine : StatefulDetectionEngine Rat := .new "eth0" [.v4 ⟨192, 168, 1, 1⟩] rulesJson

def ruleText (msg : IdsmMessage) : Option String := some msg.event.eventId

theorem scan_stored_size : scanStored.encode.length = 456 := by decide +kernel

theorem scan_stored_reached : ∃ state : State Rat 1,
    Reached ruleText (fun _ => "") .ethernet twoBlocks sensorEngine 1 none state ∧ state.ring.contents = [scanStored] := by
  have started : Reached ruleText (fun _ => "") .ethernet twoBlocks sensorEngine 1 none
    (.new twoBlocks _ 1 0 none : State Rat 1) := .start 0
  exact ⟨_, started.next (.retire scanStored (by rw [scan_stored_size]; decide)) rfl, rfl⟩

theorem scan_stored_caught_up : ∃ state : State Rat 1,
    Reached ruleText (fun _ => "") .ethernet twoBlocks sensorEngine 1 none state ∧
      state.ring.contents = [scanStored] ∧ CaughtUp state := by
  obtain ⟨state, reached, contents⟩ := scan_stored_reached
  obtain ⟨later, _, ⟨reachedLater, same⟩, caughtUp⟩ := reaches_caught_up _ _ _ _ reached
  exact ⟨later, reachedLater, same.trans contents, caughtUp⟩

theorem scan_stored_expected (ring : MappedRing) (contents : ring.contents = [scanStored]) :
    expectedLog ruleText (fun _ => "") .ethernet sensorEngine ring = ["RULE-3"] := by
  rw [expectedLog, storedFrames, contents]
  decide +kernel

theorem scan_stored_bytes (ring : MappedRing) (contents : ring.contents = [scanStored]) :
    ((storedFrames .ethernet ring).map fun frame => frame.data.bytes) = [21, 22, 23, 80].map Capture.synTo := by
  rw [storedFrames, contents]
  decide +kernel

theorem scan_followed : ∃ state : State Rat 1,
    Reached ruleText (fun _ => "") .ethernet twoBlocks sensorEngine 1 none state ∧
      state.alerts.handler.logged = ["RULE-3"] := by
  obtain ⟨state, reached, contents, caughtUp⟩ := scan_stored_caught_up
  obtain ⟨_, _, _, _, complete⟩ := sensor_follows_ring ruleText (fun _ => "") .ethernet twoBlocks reached
  exact ⟨state, reached, (complete caughtUp).trans (scan_stored_expected state.ring contents)⟩

theorem scan_copied : ∃ (state : State Rat 1) (trace : FlowPipeline.Trace),
    FlowPipeline.Reached FlowPipeline.Enabled 1 trace state.pipeline ∧
      (trace.traffic.offered ++ state.pipeline.sending.toList).map Packet.data = [21, 22, 23, 80].map Capture.synTo := by
  obtain ⟨state, reached, contents, caughtUp⟩ := scan_stored_caught_up
  have inv := reached_invariant ruleText (fun _ => "") .ethernet twoBlocks reached
  have inspected := (position_waiting .ethernet twoBlocks inv.position caughtUp.1).2
  obtain ⟨trace, pipelineReached, inside, further, _⟩ :=
    flows_follow_ring ruleText (fun _ => "") .ethernet twoBlocks reached
  rw [inspected] at further
  refine ⟨state, trace, pipelineReached, ?_⟩
  rw [inside.eq_of_length (Nat.le_antisymm inside.length_le further.length_le)]
  exact scan_stored_bytes state.ring contents

theorem scan_logged : ∃ (state : State Rat 1),
    state.ring.contents = [scanStored] ∧ ∃ msg ∈ alertsOver (fun _ => "") .ethernet sensorEngine [] [scanStored],
      (reportFor 3 (IpAddr.display (.v4 ⟨10, 0, 0, 9⟩)) msg).isSome ∧
        msg.event.eventId ∈ state.alerts.handler.logged := by
  obtain ⟨state, reached, contents, caughtUp⟩ := scan_stored_caught_up
  obtain ⟨msg, raised, reported, logged⟩ := stored_scan_logged ruleText (fun _ => "") .ethernet twoBlocks "eth0"
    [.v4 ⟨192, 168, 1, 1⟩] rulesJson reached caughtUp .tcp
    (List.mem_cons_of_mem _ (List.mem_cons_of_mem _ List.mem_cons_self)) [] [scanStored] [] contents (by decide)
    (.v4 ⟨10, 0, 0, 9⟩) ⟨by decide +kernel, 86, by decide +kernel⟩
  exact ⟨state, contents, msg, raised, reported, logged _ rfl⟩

end NetworkIds.Sensor
