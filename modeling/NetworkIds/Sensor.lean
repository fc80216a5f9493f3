import NetworkIds.AlertPath
import NetworkIds.FlowPipeline
import NetworkIds.RingContents

set_option autoImplicit false

namespace NetworkIds.Sensor

open Checked Grouping Placement NetworkIds.Capture NetworkIds.Engine NetworkIds.Locality NetworkIds.Parser
open NetworkIds.Alerts (AlertForwarder AlertPath Answers handleMessage)
open NetworkIds.FlowPipeline (Pipeline)
open NetworkIds.FlowTable (Packet)

-- Where the capture thread stands in the body of its loop: in next_block, at the
-- packets of a block, at the buckets of the buffer, and within a bucket at a packet
-- that is copied for the flow task, or already offered to it.
inductive Position where
  | nextBlock
  | buffering (iterator : PacketIterator)
  | walking (ports : List UInt16) (slice : List PacketRef)
  | copied (pktRef : PacketRef) (ports : List UInt16) (slice : List PacketRef)
  | offered (pktRef : PacketRef) (ports : List UInt16) (slice : List PacketRef)

-- Everything that main starts around the ring of the kernel. inspected is ghost
-- state: the frames that the engine has processed.
structure State (τ : Type) (capacity : Nat) where
  ring : MappedRing
  buffer : LocalityBuffer
  position : Position
  pipeline : Pipeline capacity
  alerts : AlertPath τ
  inspected : List Capture.Frame

inductive Action (config : MappedConfig) where
  | fill (bytes : Bytes) (inside : 12 + bytes.length ≤ config.blockSize)
  | retire (block : StoredBlock) (inside : block.encode.length ≤ config.blockSize)
  | capture (ret now : Int)
  | flow (action : FlowPipeline.Action)
  | alert (answers : Answers)

section Step

variable {τ : Type} [Sub τ] [LT τ] [DecidableLT τ] [Timestamp τ] {capacity : Nat}

def State.new (config : MappedConfig) (engine : StatefulDetectionEngine τ) (maxFlows : Nat) (clock : Int)
    (forwarder : Option AlertForwarder) : State τ capacity where
  ring := .new config
  buffer := .new
  position := .nextBlock
  pipeline := .new maxFlows clock
  alerts := .new engine forwarder
  inspected := []

variable (toStringPretty : IdsmMessage → Option String) (localTime : Nat → String) (link : LinkType)
  (config : MappedConfig)

-- The next step of the capture thread. ret is what poll returns and now what
-- Instant::now() returns if it is their turn.
def captureStep (ret now : Int) (state : State τ capacity) : Checked (State τ capacity) :=
  match state.position with
  | .nextBlock =>
      match state.ring.ring.reader with
      | .holding blockIdx => do
          let buffer ← clear state.buffer
          return { state with
            buffer := buffer
            position := .buffering (BlockGuard.iterator ⟨state.ring.memory, getBlockPtr config blockIdx, blockIdx⟩) }
      | _ => return { state with ring := mappedReaderStep config ret state.ring }
  | .buffering iterator =>
      match iterator.next state.ring.memory with
      | some (raw, moved) => do
          let buffer ← bufferPacket link state.ring.memory state.buffer raw
          return { state with buffer := buffer, position := .buffering moved }
      | none => do
          let buffer ← groupPackets state.buffer
          let ports ← activePorts buffer
          return { state with buffer := buffer, position := .walking ports [] }
  | .walking ports slice =>
      match state.alerts.generated, slice, ports with
      | msg :: rest, _, _ =>
          return { state with alerts := { state.alerts with
            generated := rest
            channel := state.alerts.channel ++ [msg] } }
      | [], pktRef :: slice, ports => do
          let pipeline ← FlowPipeline.step state.pipeline (.stamp (frameAt state.ring.memory pktRef).data.bytes now)
          return { state with pipeline := pipeline, position := .copied pktRef ports slice }
      | [], [], port :: ports => do
          let slice ← getBucketSlice state.buffer port
          return { state with position := .walking ports slice }
      -- The guard is dropped where the body of the loop ends.
      | [], [], [] =>
          return { state with ring := mappedReaderStep config ret state.ring, position := .nextBlock }
  | .copied pktRef ports slice => do
      let pipeline ← FlowPipeline.step state.pipeline .send
      return { state with pipeline := pipeline, position := .offered pktRef ports slice }
  | .offered pktRef ports slice => do
      let frame := frameAt state.ring.memory pktRef
      let parsed ← parsePacket frame.data.bytes link none
      let (engine, generated) :=
        processPacket localTime state.alerts.engine parsed (Timestamp.wallClock frame.sec frame.nsec)
      return { state with
        alerts := { state.alerts with engine := engine, generated := generated }
        position := .walking ports slice
        inspected := state.inspected ++ [frame] }

def step (state : State τ capacity) : Action config → Checked (State τ capacity)
  | .fill bytes _ => return { state with ring := fillBlock config bytes state.ring }
  | .retire block _ => return { state with ring := retireBlock config block state.ring }
  | .capture ret now => captureStep localTime link config ret now state
  | .flow action => do
      let pipeline ← FlowPipeline.step state.pipeline action
      return { state with pipeline := pipeline }
  | .alert answers =>
      match state.alerts.channel with
      | msg :: rest =>
          return { state with alerts := { state.alerts with
            channel := rest
            handler := handleMessage toStringPretty state.alerts.handler answers msg } }
      | [] => return state

-- The steps of the flow tasks: the capture thread takes the other two itself.
def ofTask : FlowPipeline.Action → Prop
  | .stamp _ _ | .send => False
  | .recv | .handle _ | .cleanup _ => True

inductive Enabled (state : State τ capacity) : Action config → Prop where
  | fill (bytes : Bytes) (inside : 12 + bytes.length ≤ config.blockSize) : Enabled state (.fill bytes inside)
  | retire (block : StoredBlock) (inside : block.encode.length ≤ config.blockSize) : Enabled state (.retire block inside)
  | capture (ret now : Int) (later : state.pipeline.clock ≤ now) : Enabled state (.capture ret now)
  | flow (action : FlowPipeline.Action) (task : ofTask action) (ready : FlowPipeline.Enabled state.pipeline action) :
      Enabled state (.flow action)
  | alert (answers : Answers) (msg : IdsmMessage) (rest : List IdsmMessage)
      (waiting : state.alerts.channel = msg :: rest) : Enabled state (.alert answers)

inductive Reached (engine : StatefulDetectionEngine τ) (maxFlows : Nat) (forwarder : Option AlertForwarder) :
    State τ capacity → Prop where
  | start (clock : Int) : Reached engine maxFlows forwarder (.new config engine maxFlows clock forwarder)
  | next {state after : State τ capacity} {action : Action config} (reached : Reached engine maxFlows forwarder state)
      (enabled : Enabled config state action)
      (stepped : step toStringPretty localTime link config state action = .ok after) :
      Reached engine maxFlows forwarder after

end Step

section Position

variable {τ : Type} {capacity : Nat} (link : LinkType) (config : MappedConfig)

-- The frames of the blocks stored so far, in the order in which the engine gets them.
def storedFrames (ring : MappedRing) : List Capture.Frame := ring.contents.flatMap (StoredBlock.handed link)

def blockRefs (blockIdx : Nat) (block : StoredBlock) : List PacketRef :=
  refsFrom link blockIdx (block.framesAt (getBlockPtr config blockIdx)) block.frames

structure HoldsBlock (ring : MappedRing) (blockIdx : Nat) (block : StoredBlock) : Prop where
  holding : ring.ring.reader = .holding blockIdx
  found : ring.contents[ring.ring.released]? = some block

structure Walking (state : State τ capacity) (blockIdx : Nat) (block : StoredBlock) (remaining : List PacketRef)
    (waiting : List Capture.Frame) : Prop where
  holds : HoldsBlock state.ring blockIdx block
  represents : ∃ refs ports, Represents state.buffer refs ports
  slices : ∀ port, getBucketSlice state.buffer port =
    .ok (portBucket port ((blockRefs link config blockIdx block).take maxBatchSize))
  reads : ∀ memory, Holds memory (getBlockPtr config blockIdx) block.encode →
    remaining.map (frameAt memory) = waiting
  inspected : state.inspected ++ waiting = readFrames link state.ring ++ block.handed link
  released : readFrames link state.ring <+: state.inspected

def remainingRefs (blockIdx : Nat) (block : StoredBlock) (ports : List UInt16) (slice : List PacketRef) :
    List PacketRef :=
  slice ++ grouped PacketRef.portKey ports ((blockRefs link config blockIdx block).take maxBatchSize)

def Copied (maxFlows : Nat) (pipeline : Pipeline capacity) (frames : List Capture.Frame) : Prop :=
  ∃ trace, FlowPipeline.Reached FlowPipeline.Enabled maxFlows trace pipeline ∧
    (trace.traffic.offered ++ pipeline.sending.toList).map Packet.data = frames.map fun frame => frame.data.bytes

inductive AtPosition (maxFlows : Nat) (state : State τ capacity) : Position → Prop where
  | nextBlock (read : state.inspected = readFrames link state.ring) (sent : state.alerts.generated = [])
      (idle : state.pipeline.sending = none) (represents : ∃ refs ports, Represents state.buffer refs ports)
      (copied : Copied maxFlows state.pipeline state.inspected) : AtPosition maxFlows state .nextBlock
  | buffering (iterator : PacketIterator) (blockIdx : Nat) (block : StoredBlock) (done left : List StoredFrame)
      (holds : HoldsBlock state.ring blockIdx block) (split : done ++ left = block.frames)
      (leads : Leads iterator blockIdx (block.framesAt (getBlockPtr config blockIdx) + framesSize done) left)
      (buffered : ∃ ports, Buffered state.buffer
        ((refsFrom link blockIdx (block.framesAt (getBlockPtr config blockIdx)) done).take maxBatchSize) ports)
      (read : state.inspected = readFrames link state.ring) (sent : state.alerts.generated = [])
      (idle : state.pipeline.sending = none) (copied : Copied maxFlows state.pipeline state.inspected) :
      AtPosition maxFlows state (.buffering iterator)
  | walking (ports : List UInt16) (slice : List PacketRef) (blockIdx : Nat) (block : StoredBlock)
      (waiting : List Capture.Frame)
      (walk : Walking link config state blockIdx block (remainingRefs link config blockIdx block ports slice) waiting)
      (idle : state.pipeline.sending = none) (copied : Copied maxFlows state.pipeline state.inspected) :
      AtPosition maxFlows state (.walking ports slice)
  | copied (pktRef : PacketRef) (ports : List UInt16) (slice : List PacketRef) (blockIdx : Nat) (block : StoredBlock)
      (frame : Capture.Frame) (waiting : List Capture.Frame)
      (walk : Walking link config state blockIdx block
        (pktRef :: remainingRefs link config blockIdx block ports slice) (frame :: waiting))
      (sent : state.alerts.generated = []) (pkt : Packet) (stamped : state.pipeline.sending = some pkt)
      (copied : Copied maxFlows state.pipeline (state.inspected ++ [frame])) :
      AtPosition maxFlows state (.copied pktRef ports slice)
  | offered (pktRef : PacketRef) (ports : List UInt16) (slice : List PacketRef) (blockIdx : Nat) (block : StoredBlock)
      (frame : Capture.Frame) (waiting : List Capture.Frame)
      (walk : Walking link config state blockIdx block
        (pktRef :: remainingRefs link config blockIdx block ports slice) (frame :: waiting))
      (sent : state.alerts.generated = []) (idle : state.pipeline.sending = none)
      (copied : Copied maxFlows state.pipeline (state.inspected ++ [frame])) :
      AtPosition maxFlows state (.offered pktRef ports slice)

theorem read_frames_kept (ring later : MappedRing) (more : List StoredBlock)
    (contents : later.contents = ring.contents ++ more) (released : later.ring.released = ring.ring.released)
    (behind : ring.ring.released ≤ ring.contents.length) : readFrames link later = readFrames link ring := by
  rw [readFrames, readFrames, released, contents, List.take_append_of_le_length behind]

theorem released_behind {ring : MappedRing} (inv : MappedInvariant config ring) :
    ring.ring.released ≤ ring.contents.length := by
  rw [inv.counted]
  exact (RingProtocol.released_le ring.ring).trans inv.protocol.behind

structure Undisturbed (maxFlows : Nat) (state later : State τ capacity) : Prop where
  reader : later.ring.ring.reader = state.ring.ring.reader
  released : later.ring.ring.released = state.ring.ring.released
  contents : ∃ more, later.ring.contents = state.ring.contents ++ more
  behind : state.ring.ring.released ≤ state.ring.contents.length
  buffer : later.buffer = state.buffer
  generated : later.alerts.generated = state.alerts.generated
  sending : later.pipeline.sending = state.pipeline.sending
  copied : ∀ frames, Copied maxFlows state.pipeline frames → Copied maxFlows later.pipeline frames
  inspected : later.inspected = state.inspected

section Undisturbed

variable {maxFlows : Nat} {state later : State τ capacity} (same : Undisturbed maxFlows state later)

include same

theorem undisturbed_read : readFrames link later.ring = readFrames link state.ring := by
  obtain ⟨more, contents⟩ := same.contents
  exact read_frames_kept link _ _ more contents same.released same.behind

theorem undisturbed_holds (blockIdx : Nat) (block : StoredBlock) (holds : HoldsBlock state.ring blockIdx block) :
    HoldsBlock later.ring blockIdx block := by
  obtain ⟨more, contents⟩ := same.contents
  obtain ⟨inside, _⟩ := List.getElem?_eq_some_iff.mp holds.found
  refine ⟨same.reader.trans holds.holding, ?_⟩
  rw [same.released, contents, List.getElem?_append_left inside]
  exact holds.found

theorem undisturbed_walking (blockIdx : Nat) (block : StoredBlock) (remaining : List PacketRef) (waiting : List Capture.Frame)
    (walk : Walking link config state blockIdx block remaining waiting) :
    Walking link config later blockIdx block remaining waiting where
  holds := undisturbed_holds same blockIdx block walk.holds
  represents := by rw [same.buffer]; exact walk.represents
  slices := by rw [same.buffer]; exact walk.slices
  reads := walk.reads
  inspected := by rw [same.inspected, undisturbed_read link same]; exact walk.inspected
  released := by rw [same.inspected, undisturbed_read link same]; exact walk.released

theorem undisturbed_position (position : Position) (at_ : AtPosition link config maxFlows state position) :
    AtPosition link config maxFlows later position := by
  have read := undisturbed_read link same
  cases at_ with
  | nextBlock before sent idle represents copied =>
      refine .nextBlock ?_ (same.generated.trans sent) (same.sending.trans idle) ?_ ?_
      · rw [same.inspected, read, before]
      · rwa [same.buffer]
      · rw [same.inspected]
        exact same.copied _ copied
  | buffering iterator blockIdx block done left holds split leads buffered before sent idle copied =>
      refine .buffering iterator blockIdx block done left (undisturbed_holds same blockIdx block holds) split leads ?_ ?_
        (same.generated.trans sent) (same.sending.trans idle) ?_
      · rwa [same.buffer]
      · rw [same.inspected, read, before]
      · rw [same.inspected]
        exact same.copied _ copied
  | walking ports slice blockIdx block waiting walk idle copied =>
      refine .walking ports slice blockIdx block waiting (undisturbed_walking link config same _ _ _ _ walk)
        (same.sending.trans idle) ?_
      rw [same.inspected]
      exact same.copied _ copied
  | copied pktRef ports slice blockIdx block frame waiting walk sent pkt stamped copied =>
      refine .copied pktRef ports slice blockIdx block frame waiting (undisturbed_walking link config same _ _ _ _ walk)
        (same.generated.trans sent) pkt (same.sending.trans stamped) ?_
      rw [same.inspected]
      exact same.copied _ copied
  | offered pktRef ports slice blockIdx block frame waiting walk sent idle copied =>
      refine .offered pktRef ports slice blockIdx block frame waiting (undisturbed_walking link config same _ _ _ _ walk)
        (same.generated.trans sent) (same.sending.trans idle) ?_
      rw [same.inspected]
      exact same.copied _ copied

end Undisturbed

theorem at_position_copied {maxFlows : Nat} {state : State τ capacity} {position : Position}
    (at_ : AtPosition link config maxFlows state position) : ∃ frames, Copied maxFlows state.pipeline frames := by
  cases at_ with
  | nextBlock _ _ _ _ copied => exact ⟨_, copied⟩
  | buffering _ _ _ _ _ _ _ _ _ _ _ _ copied => exact ⟨_, copied⟩
  | walking _ _ _ _ _ _ _ copied => exact ⟨_, copied⟩
  | copied _ _ _ _ _ _ _ _ _ _ _ copied => exact ⟨_, copied⟩
  | offered _ _ _ _ _ _ _ _ _ _ copied => exact ⟨_, copied⟩

theorem fill_undisturbed {maxFlows : Nat} {state : State τ capacity} (ring : MappedInvariant config state.ring)
    (bytes : Bytes) : Undisturbed maxFlows state { state with ring := fillBlock config bytes state.ring } := by
  have kept : (fillBlock config bytes state.ring).ring = state.ring.ring ∧
      (fillBlock config bytes state.ring).contents = state.ring.contents := by
    rw [fillBlock]
    split
    · exact ⟨rfl, rfl⟩
    · exact ⟨rfl, rfl⟩
  refine ⟨?_, ?_, ⟨[], ?_⟩, released_behind config ring, rfl, rfl, rfl, fun _ copied => copied, rfl⟩
  · rw [kept.1]
  · rw [kept.1]
  · rw [kept.2, List.append_nil]

theorem retire_undisturbed {maxFlows : Nat} {state : State τ capacity} (ring : MappedInvariant config state.ring)
    (block : StoredBlock) :
    Undisturbed maxFlows state { state with ring := retireBlock config block state.ring } := by
  by_cases free : state.ring.ring.blockStatus state.ring.ring.retireIdx = RingProtocol.tpStatusKernel
  · rw [retireBlock, if_pos free]
    exact ⟨rfl, rfl, ⟨[block], rfl⟩, released_behind config ring, rfl, rfl, rfl, fun _ copied => copied, rfl⟩
  · rw [retireBlock, if_neg free]
    exact ⟨rfl, rfl, ⟨[], (List.append_nil _).symm⟩, released_behind config ring, rfl, rfl, rfl,
      fun _ copied => copied, rfl⟩

theorem task_step_safe {maxFlows : Nat} {pipeline : Pipeline capacity} {frames : List Capture.Frame}
    (copied : Copied maxFlows pipeline frames) (action : FlowPipeline.Action) (task : ofTask action)
    (ready : FlowPipeline.Enabled pipeline action) :
    Safe (FlowPipeline.step pipeline action) (fun later => later.sending = pipeline.sending ∧
      ∀ frames, Copied maxFlows pipeline frames → Copied maxFlows later frames) := by
  obtain ⟨trace, reached, _⟩ := copied
  obtain ⟨later, stepped, _⟩ := FlowPipeline.step_invariant (FlowPipeline.reached_invariant reached) action ready
  have sending : later.sending = pipeline.sending := by
    cases ready with
    | stamp | send => exact absurd task id
    | recv idle waiting =>
        obtain ⟨pkt, rest, taken⟩ := Channel.recv_ready pipeline.channel waiting
        rw [FlowPipeline.step, taken] at stepped
        cases stepped
        rfl
    | handle pkt order held yields => exact (FlowPipeline.handle_leaves pipeline later order pkt held stepped).2.1
    | cleanup now later =>
        cases stepped
        rfl
  refine ⟨later, stepped, sending, ?_⟩
  rintro frames ⟨other, reachedOther, bytes⟩
  refine ⟨_, reachedOther.next ready stepped, ?_⟩
  have offered : (other.record pipeline action).traffic.offered = other.traffic.offered := by
    cases ready with
    | stamp | send => exact absurd task id
    | recv idle waiting => rfl
    | handle pkt order held yields => rw [FlowPipeline.Trace.record, held]
    | cleanup now later => rfl
  rw [offered, sending]
  exact bytes

theorem walking_reads {state : State τ capacity} (ring : MappedInvariant config state.ring) {blockIdx : Nat}
    {block : StoredBlock} {remaining : List PacketRef} {waiting : List Capture.Frame}
    (walk : Walking link config state blockIdx block remaining waiting) :
    remaining.map (frameAt state.ring.memory) = waiting := by
  obtain ⟨other, known, contents⟩ := guard_contents ring blockIdx walk.holds.holding
  rw [walk.holds.found] at known
  cases known
  exact walk.reads _ contents

theorem grouped_walking {state : State τ capacity} (blockIdx : Nat) (block : StoredBlock) (buffer : LocalityBuffer)
    (ports : List UInt16) (holds : HoldsBlock state.ring blockIdx block)
    (represents : Represents buffer ((blockRefs link config blockIdx block).take maxBatchSize) ports)
    (order : ports = keysSeen PacketRef.portKey ((blockRefs link config blockIdx block).take maxBatchSize))
    (sorted : Sorted buffer ((blockRefs link config blockIdx block).take maxBatchSize))
    (read : state.inspected = readFrames link state.ring) :
    Walking link config { state with buffer := buffer, position := .walking ports [] } blockIdx block
      (remainingRefs link config blockIdx block ports []) (block.handed link) where
  holds := holds
  represents := ⟨_, ports, represents⟩
  slices port := bucket_slice_ok buffer _ ports port represents sorted
  reads := by
    intro memory stored
    obtain ⟨_, _, frames⟩ := block_start ⟨memory, getBlockPtr config blockIdx, blockIdx⟩ block stored
    rw [remainingRefs, List.nil_append, order]
    exact refs_from_grouped link block.last blockIdx block.frames _ maxBatchSize frames
  inspected := congrArg (fun frames => frames ++ block.handed link) read
  released := by rw [read]

end Position

section Run

variable {τ : Type} [Sub τ] [LT τ] [DecidableLT τ] [Timestamp τ] {capacity : Nat}
  (toStringPretty : IdsmMessage → Option String) (localTime : Nat → String) (link : LinkType)
  (config : MappedConfig)

structure Invariant (engine : StatefulDetectionEngine τ) (maxFlows : Nat) (forwarder : Option AlertForwarder)
    (state : State τ capacity) : Prop where
  ring : MappedInvariant config state.ring
  alerts : ∃ trace, Alerts.Reached toStringPretty localTime engine forwarder trace state.alerts ∧
    trace.arrivals = state.inspected.map (arrivalOf link)
  position : AtPosition link config maxFlows state state.position

variable {engine : StatefulDetectionEngine τ} {maxFlows : Nat} {forwarder : Option AlertForwarder}
  {state : State τ capacity}

theorem new_invariant (clock : Int) : Invariant toStringPretty localTime link config engine maxFlows forwarder
    (.new config engine maxFlows clock forwarder : State τ capacity) where
  ring := mapped_new config
  alerts := ⟨_, .start, rfl⟩
  position := .nextBlock rfl rfl rfl ⟨[], [], new_represents⟩ ⟨_, .start clock, rfl⟩

theorem next_block_moves (ret now : Int) (here : state.position = .nextBlock)
    (noGuard : ∀ blockIdx, state.ring.ring.reader ≠ .holding blockIdx) :
    captureStep localTime link config ret now state =
      .ok { state with ring := mappedReaderStep config ret state.ring } := by
  rw [captureStep, here]
  dsimp only
  cases phase : state.ring.ring.reader with
  | holding blockIdx => exact absurd phase (noGuard blockIdx)
  | _ => rfl

theorem next_block_step (inv : Invariant toStringPretty localTime link config engine maxFlows forwarder state)
    (ret now : Int) (here : state.position = .nextBlock) :
    Safe (captureStep localTime link config ret now state)
      (Invariant toStringPretty localTime link config engine maxFlows forwarder) := by
  obtain ⟨ring, alerts, position⟩ := inv
  rw [here] at position
  cases position with
  | nextBlock read sent idle represents copied =>
      by_cases holding : ∃ blockIdx, state.ring.ring.reader = .holding blockIdx
      · obtain ⟨blockIdx, holding⟩ := holding
        obtain ⟨block, found, holds⟩ := guard_contents ring blockIdx holding
        obtain ⟨_, leads, _⟩ := block_start ⟨state.ring.memory, getBlockPtr config blockIdx, blockIdx⟩ block holds
        obtain ⟨refs, ports, represents⟩ := represents
        rw [captureStep, here]
        dsimp only
        rw [holding]
        dsimp only
        refine safe_bind (clear_safe state.buffer refs ports represents) ?_
        intro buffer empty
        exact safe_ok ⟨ring, alerts, .buffering _ blockIdx block [] block.frames ⟨holding, found⟩ rfl leads
          ⟨[], empty, rfl⟩ read sent idle copied⟩
      · have noGuard : ∀ blockIdx, state.ring.ring.reader ≠ .holding blockIdx :=
          fun blockIdx same => holding ⟨blockIdx, same⟩
        obtain ⟨released, _, _⟩ := reader_step_released ret state.ring.ring noGuard
        have kept : readFrames link (mappedReaderStep config ret state.ring) = readFrames link state.ring := by
          rw [mapped_reader_moves ret noGuard]
          exact read_frames_kept link _ _ [] (List.append_nil _).symm released (released_behind config ring)
        rw [next_block_moves localTime link config ret now here noGuard]
        refine safe_ok ⟨mapped_reader_keeps ring ret, alerts, ?_⟩
        rw [here]
        exact .nextBlock (read.trans kept.symm) sent idle represents copied

theorem buffering_step (inv : Invariant toStringPretty localTime link config engine maxFlows forwarder state)
    (ret now : Int) (iterator : PacketIterator) (here : state.position = .buffering iterator) :
    Safe (captureStep localTime link config ret now state)
      (Invariant toStringPretty localTime link config engine maxFlows forwarder) := by
  obtain ⟨ring, alerts, position⟩ := inv
  rw [here] at position
  cases position with
  | buffering _ blockIdx block done left holds split leads buffered read sent idle copied =>
      obtain ⟨other, known, contents⟩ := guard_contents ring blockIdx holds.holding
      rw [holds.found] at known
      cases known
      obtain ⟨_, _, frames⟩ := block_start ⟨state.ring.memory, getBlockPtr config blockIdx, blockIdx⟩ block contents
      obtain ⟨ports, buffered⟩ := buffered
      rw [captureStep, here]
      dsimp only at frames ⊢
      rw [← split] at frames
      have behind := frames_left_hold block.last done left _ frames
      cases left with
      | nil =>
          rw [List.append_nil] at split
          have finished : iterator.next state.ring.memory = none := if_pos (leads.finished rfl)
          rw [finished]
          dsimp only
          refine safe_bind (group_packets_safe state.buffer _ ports buffered.represents) ?_
          rintro buffer ⟨represents, sorted⟩
          rw [active_ports_ok buffer _ ports represents, ok_bind]
          rw [split] at represents sorted buffered
          exact safe_ok ⟨ring, alerts, .walking ports [] blockIdx block (block.handed link)
            (grouped_walking link config blockIdx block buffer ports holds represents buffered.order sorted read)
            idle copied⟩
      | cons stored rest =>
          obtain ⟨next, first, _⟩ := first_frame_holds block.last stored rest _ behind
          obtain ⟨moved, yielded, further⟩ := leads_next _ iterator blockIdx _ block.last stored rest leads behind
          rw [yielded]
          dsimp only
          refine safe_bind (buffer_packet_safe link _ _ state.buffer _ ports buffered) ?_
          rintro buffer ⟨nextPorts, added⟩
          rw [rawRef, packet_at_frame blockIdx _ first, take_take_append] at added
          refine safe_ok ⟨ring, alerts, .buffering moved blockIdx block (done ++ [stored]) rest holds
            (by rw [List.append_assoc]; exact split) ?_ ⟨nextPorts, ?_⟩ read sent idle copied⟩
          · rw [frames_size_concat, ← Nat.add_assoc]
            exact further
          · rw [refs_from_concat]
            exact added

-- Between two packets the thread sends the alerts of the last one, copies the next
-- one, goes on to the next port, or is through with the block.
theorem walking_step (inv : Invariant toStringPretty localTime link config engine maxFlows forwarder state)
    (ret now : Int) (later : state.pipeline.clock ≤ now) (ports : List UInt16) (slice : List PacketRef)
    (here : state.position = .walking ports slice) :
    Safe (captureStep localTime link config ret now state)
      (Invariant toStringPretty localTime link config engine maxFlows forwarder) := by
  obtain ⟨ring, ⟨trace, reached, arrivals⟩, position⟩ := inv
  rw [here] at position
  cases position with
  | walking _ _ blockIdx block waiting walk idle copied =>
      have reads := walking_reads link config ring walk
      rw [captureStep, here]
      dsimp only
      cases generated : state.alerts.generated with
      | cons msg rest =>
          exact safe_ok ⟨ring, ⟨trace, reached.next (.send trace state.alerts msg rest generated), arrivals⟩,
            .walking ports slice blockIdx block waiting { walk with } idle copied⟩
      | nil =>
          cases slice with
          | cons pktRef slice =>
              obtain ⟨flow, flowReached, bytes⟩ := copied
              rw [remainingRefs, List.cons_append, List.map_cons] at reads
              subst reads
              have stamped := flowReached.next (.stamp (frameAt state.ring.memory pktRef).data.bytes now later idle) rfl
              refine safe_ok ⟨ring, ⟨trace, reached, arrivals⟩, .copied pktRef ports slice blockIdx block _ _
                { walk with } generated _ rfl ⟨_, stamped, ?_⟩⟩
              rw [idle, Option.toList_none, List.append_nil] at bytes
              rw [List.map_append, List.map_append, ← bytes]
              rfl
          | nil =>
              cases ports with
              | cons port ports =>
                  dsimp only
                  rw [walk.slices port, ok_bind]
                  exact safe_ok ⟨ring, ⟨trace, reached, arrivals⟩, .walking ports _ blockIdx block waiting
                    { walk with } idle copied⟩
              | nil =>
                  obtain ⟨released, contents⟩ := drop_guard_released ring ret blockIdx walk.holds.holding
                  have inspected := walk.inspected
                  rw [← reads] at inspected
                  have read : state.inspected = readFrames link (mappedReaderStep config ret state.ring) := by
                    rw [readFrames, contents, released, List.take_add_one, walk.holds.found, List.flatMap_append]
                    simpa [remainingRefs, grouped, readFrames] using inspected
                  exact safe_ok ⟨mapped_reader_keeps ring ret, ⟨trace, reached, arrivals⟩,
                    .nextBlock read generated idle walk.represents copied⟩

theorem copied_step (inv : Invariant toStringPretty localTime link config engine maxFlows forwarder state)
    (ret now : Int) (pktRef : PacketRef) (ports : List UInt16) (slice : List PacketRef)
    (here : state.position = .copied pktRef ports slice) :
    Safe (captureStep localTime link config ret now state)
      (Invariant toStringPretty localTime link config engine maxFlows forwarder) := by
  obtain ⟨ring, alerts, position⟩ := inv
  rw [here] at position
  cases position with
  | copied _ _ _ blockIdx block frame waiting walk sent pkt stamped copied =>
      obtain ⟨flow, reached, bytes⟩ := copied
      have offered := reached.next (.send pkt stamped) (by rw [FlowPipeline.step, stamped]; rfl)
      rw [captureStep, here]
      dsimp only
      rw [FlowPipeline.step, stamped]
      refine safe_ok ⟨ring, alerts, .offered pktRef ports slice blockIdx block frame waiting
        { walk with } sent rfl ⟨_, offered, ?_⟩⟩
      rw [FlowPipeline.Trace.record, stamped, Option.toList_none, List.append_nil]
      rw [stamped] at bytes
      exact bytes

theorem offered_step (inv : Invariant toStringPretty localTime link config engine maxFlows forwarder state)
    (ret now : Int) (pktRef : PacketRef) (ports : List UInt16) (slice : List PacketRef)
    (here : state.position = .offered pktRef ports slice) :
    Safe (captureStep localTime link config ret now state)
      (Invariant toStringPretty localTime link config engine maxFlows forwarder) := by
  obtain ⟨ring, ⟨trace, reached, arrivals⟩, position⟩ := inv
  rw [here] at position
  cases position with
  | offered _ _ _ blockIdx block frame waiting walk sent idle copied =>
      have reads := walking_reads link config ring walk
      rw [List.map_cons] at reads
      obtain ⟨first, rest⟩ := List.cons.inj reads
      have processed := reached.next (.process trace state.alerts (arrivalOf link frame) sent)
      rw [captureStep, here]
      dsimp only
      rw [first, decode_packet_eq, ok_bind]
      refine safe_ok ⟨ring, ⟨_, processed, ?_⟩, .walking ports slice blockIdx block waiting ⟨walk.holds, walk.represents,
        walk.slices, ?_, ?_, walk.released.trans (List.prefix_append _ _)⟩ idle copied⟩
      · dsimp only
        rw [arrivals, List.map_append]
        rfl
      · intro memory holds
        exact (List.cons.inj (walk.reads memory holds)).2
      · dsimp only
        rw [List.append_assoc]
        exact walk.inspected

theorem capture_step_safe (inv : Invariant toStringPretty localTime link config engine maxFlows forwarder state)
    (ret now : Int) (later : state.pipeline.clock ≤ now) :
    Safe (captureStep localTime link config ret now state)
      (Invariant toStringPretty localTime link config engine maxFlows forwarder) := by
  cases here : state.position with
  | nextBlock => exact next_block_step toStringPretty localTime link config inv ret now here
  | buffering iterator => exact buffering_step toStringPretty localTime link config inv ret now iterator here
  | walking ports slice => exact walking_step toStringPretty localTime link config inv ret now later ports slice here
  | copied pktRef ports slice => exact copied_step toStringPretty localTime link config inv ret now pktRef ports slice here
  | offered pktRef ports slice => exact offered_step toStringPretty localTime link config inv ret now pktRef ports slice here

theorem step_safe (inv : Invariant toStringPretty localTime link config engine maxFlows forwarder state)
    (action : Action config) (enabled : Enabled config state action) :
    Safe (step toStringPretty localTime link config state action)
      (Invariant toStringPretty localTime link config engine maxFlows forwarder) := by
  cases enabled with
  | fill bytes inside =>
      exact safe_ok ⟨fill_keeps inv.ring bytes inside, inv.alerts,
        undisturbed_position link config (fill_undisturbed config inv.ring bytes) _ inv.position⟩
  | retire block inside =>
      exact safe_ok ⟨retire_block_keeps inv.ring block inside, inv.alerts,
        undisturbed_position link config (retire_undisturbed config inv.ring block) _ inv.position⟩
  | capture ret now later => exact capture_step_safe toStringPretty localTime link config inv ret now later
  | flow action task ready =>
      obtain ⟨frames, copied⟩ := at_position_copied link config inv.position
      rw [step]
      refine safe_bind (task_step_safe copied action task ready) ?_
      rintro pipeline ⟨sending, kept⟩
      have same : Undisturbed maxFlows state { state with pipeline := pipeline } :=
        ⟨rfl, rfl, ⟨[], (List.append_nil _).symm⟩, released_behind config inv.ring, rfl, rfl, sending, kept, rfl⟩
      exact safe_ok ⟨inv.ring, inv.alerts, undisturbed_position link config same _ inv.position⟩
  | alert answers msg rest waiting =>
      obtain ⟨trace, reached, arrivals⟩ := inv.alerts
      rw [step, waiting]
      have same : Undisturbed maxFlows state { state with alerts := { state.alerts with
          channel := rest
          handler := handleMessage toStringPretty state.alerts.handler answers msg } } :=
        ⟨rfl, rfl, ⟨[], (List.append_nil _).symm⟩, released_behind config inv.ring, rfl, rfl, rfl, fun _ kept => kept, rfl⟩
      exact safe_ok ⟨inv.ring, ⟨_, reached.next (.handle trace state.alerts msg rest answers waiting), arrivals⟩,
        undisturbed_position link config same _ inv.position⟩

theorem reached_invariant
    (reached : Reached toStringPretty localTime link config engine maxFlows forwarder state) :
    Invariant toStringPretty localTime link config engine maxFlows forwarder state := by
  induction reached with
  | start clock => exact new_invariant toStringPretty localTime link config clock
  | next _ enabled stepped ih =>
      exact safe_result (step_safe toStringPretty localTime link config ih _ enabled) stepped

end Run

end NetworkIds.Sensor
