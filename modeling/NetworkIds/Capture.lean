import NetworkIds.Engine.Process
import NetworkIds.Locality
import NetworkIds.Parser.Packet

set_option autoImplicit false

namespace NetworkIds.Capture

open Checked Endian Grouping NetworkIds.Engine NetworkIds.Locality NetworkIds.Parser

-- The mapped ring by address, as it stands while a block belongs to the reader.
abbrev Memory := Nat → UInt8

def readU16 (memory : Memory) (address : Nat) : UInt16 := u16FromLe (memory address) (memory (address + 1))

def readU32 (memory : Memory) (address : Nat) : UInt32 :=
  u32FromLe (memory address) (memory (address + 1)) (memory (address + 2)) (memory (address + 3))

-- slice::from_raw_parts with a u32 length.
def fromRawParts (memory : Memory) (dataPtr : Nat) (len : UInt32) : Buffer where
  bytes := (List.range len.toNat).map fun i => memory (dataPtr + i)
  fits := by
    have small := len.toNat_lt
    rw [List.length_map, List.length_range]
    unfold isizeMax
    omega

structure Tpacket3Hdr where
  tpNextOffset : UInt32
  tpSec : UInt32
  tpNsec : UInt32
  tpSnaplen : UInt32
  tpLen : UInt32
  tpMac : UInt16

def readHeader (memory : Memory) (address : Nat) : Tpacket3Hdr where
  tpNextOffset := readU32 memory address
  tpSec := readU32 memory (address + 4)
  tpNsec := readU32 memory (address + 8)
  tpSnaplen := readU32 memory (address + 12)
  tpLen := readU32 memory (address + 16)
  tpMac := readU16 memory (address + 24)

-- The slice data is its address and its length, the u32 snaplen.
structure RawPacket where
  dataPtr : Nat
  sec : UInt32
  nsec : UInt32
  len : UInt32
  snaplen : UInt32
  blockIdx : Nat
deriving DecidableEq

def RawPacket.data (memory : Memory) (raw : RawPacket) : Buffer := fromRawParts memory raw.dataPtr raw.snaplen

-- The u32 packet index is a natural number: a block of 1 MB has no room for enough
-- headers to wrap it.
structure PacketIterator where
  blockPtr : Nat
  numPkts : Nat
  currentPktIdx : Nat
  currentOffset : Nat
  blockIdx : Nat

def PacketIterator.next (memory : Memory) (iterator : PacketIterator) : Option (RawPacket × PacketIterator) :=
  if iterator.currentPktIdx ≥ iterator.numPkts then none
  else
    let pktHdrPtr := iterator.blockPtr + iterator.currentOffset
    let pktHdr := readHeader memory pktHdrPtr
    let packet : RawPacket := {
      dataPtr := pktHdrPtr + pktHdr.tpMac.toNat
      sec := pktHdr.tpSec
      nsec := pktHdr.tpNsec
      len := pktHdr.tpLen
      snaplen := pktHdr.tpSnaplen
      blockIdx := iterator.blockIdx }
    let advanced :=
      if pktHdr.tpNextOffset > 0 then
        { iterator with currentOffset := iterator.currentOffset + pktHdr.tpNextOffset.toNat }
      else { iterator with currentPktIdx := iterator.numPkts }
    some (packet, { advanced with currentPktIdx := advanced.currentPktIdx + 1 })

def PacketIterator.collect (memory : Memory) : Nat → PacketIterator → List RawPacket
  | 0, _ => []
  | calls + 1, iterator =>
      match iterator.next memory with
      | none => []
      | some (packet, rest) => packet :: PacketIterator.collect memory calls rest

structure BlockGuard where
  memory : Memory
  blockPtr : Nat
  blockIdx : Nat

-- num_pkts and offset_to_first_pkt of the block descriptor.
def BlockGuard.iterator (block : BlockGuard) : PacketIterator where
  blockPtr := block.blockPtr
  numPkts := (readU32 block.memory (block.blockPtr + 12)).toNat
  currentPktIdx := 0
  currentOffset := (readU32 block.memory (block.blockPtr + 16)).toNat
  blockIdx := block.blockIdx

def BlockGuard.packets (block : BlockGuard) : List RawPacket :=
  block.iterator.collect block.memory block.iterator.numPkts

theorem next_advances (memory : Memory) (iterator rest : PacketIterator) (packet : RawPacket)
    (yielded : iterator.next memory = some (packet, rest)) :
    iterator.currentPktIdx < rest.currentPktIdx ∧ rest.numPkts = iterator.numPkts := by
  rw [PacketIterator.next] at yielded
  by_cases finished : iterator.currentPktIdx ≥ iterator.numPkts
  · rw [if_pos finished] at yielded
    cases yielded
  · rw [if_neg finished] at yielded
    dsimp only at yielded
    by_cases more : (readHeader memory (iterator.blockPtr + iterator.currentOffset)).tpNextOffset > 0
    · rw [if_pos more] at yielded
      cases yielded
      exact ⟨Nat.lt_succ_self _, rfl⟩
    · rw [if_neg more] at yielded
      cases yielded
      exact ⟨Nat.lt_succ_of_lt (Nat.lt_of_not_le finished), rfl⟩

theorem collect_complete (memory : Memory) (iterator : PacketIterator) (calls more : Nat)
    (enough : iterator.numPkts ≤ iterator.currentPktIdx + calls) :
    iterator.collect memory (calls + more) = iterator.collect memory calls := by
  induction calls generalizing iterator with
  | zero =>
      have finished : iterator.next memory = none := if_pos enough
      cases more with
      | zero => rfl
      | succ more =>
          simp only [PacketIterator.collect, finished]
  | succ calls ih =>
      rw [Nat.add_right_comm, PacketIterator.collect, PacketIterator.collect]
      cases yielded : iterator.next memory with
      | none => rfl
      | some result =>
          obtain ⟨packet, rest⟩ := result
          obtain ⟨advanced, same⟩ := next_advances memory iterator rest packet yielded
          dsimp only
          rw [ih rest (by omega)]

def portKey (parsed : ParsedPacket) : UInt16 :=
  match parsed.transport with
  | .tcp tcp => min tcp.srcPort tcp.dstPort
  | .udp udp => min udp.srcPort udp.dstPort
  | _ => 0

def packetRef (raw : RawPacket) (portKey : UInt16) : PacketRef where
  dataPtr := raw.dataPtr
  len := raw.snaplen
  sec := raw.sec
  nsec := raw.nsec
  blockIdx := UInt32.ofNat raw.blockIdx
  portKey := portKey

-- The body of the loop over the packets of a block. The error of add_packet is dropped.
def bufferPacket (link : LinkType) (memory : Memory) (buffer : LocalityBuffer) (raw : RawPacket) :
    Checked LocalityBuffer := do
  let parsed ← parsePacket (raw.data memory).bytes link none
  let (buffer, _) ← addPacket buffer (packetRef raw (portKey parsed))
  return buffer

structure Frame where
  data : Buffer
  sec : UInt32
  nsec : UInt32

def RawPacket.frame (memory : Memory) (raw : RawPacket) : Frame := ⟨raw.data memory, raw.sec, raw.nsec⟩

def frameAt (memory : Memory) (pktRef : PacketRef) : Frame :=
  ⟨fromRawParts memory pktRef.dataPtr pktRef.len, pktRef.sec, pktRef.nsec⟩

section Loop

variable {τ : Type}

structure Inspection (τ : Type) where
  engine : StatefulDetectionEngine τ
  handed : List Frame
  alerts : List IdsmMessage

variable [Sub τ] [LT τ] [DecidableLT τ] [Timestamp τ]

-- The body of the loop over a bucket.
def inspectPacket (localTime : Nat → String) (link : LinkType) (memory : Memory) (state : Inspection τ)
    (pktRef : PacketRef) : Checked (Inspection τ) := do
  let frame := frameAt memory pktRef
  let parsed ← parsePacket frame.data.bytes link none
  let timestamp := Timestamp.wallClock frame.sec frame.nsec
  let (engine, generated) := processPacket localTime state.engine parsed timestamp
  return { engine := engine, handed := state.handed ++ [frame], alerts := state.alerts ++ generated }

def inspectBucket (localTime : Nat → String) (link : LinkType) (memory : Memory) (buffer : LocalityBuffer)
    (state : Inspection τ) (port : UInt16) : Checked (Inspection τ) := do
  let slice ← getBucketSlice buffer port
  slice.foldlM (inspectPacket localTime link memory) state

-- What the capture thread does with one retired block.
def captureBlock (localTime : Nat → String) (link : LinkType) (buffer : LocalityBuffer)
    (engine : StatefulDetectionEngine τ) (block : BlockGuard) : Checked (LocalityBuffer × Inspection τ) := do
  let buffer ← clear buffer
  let buffer ← block.packets.foldlM (bufferPacket link block.memory) buffer
  let buffer ← groupPackets buffer
  let ports ← activePorts buffer
  let state ← ports.foldlM (inspectBucket localTime link block.memory buffer) ⟨engine, [], []⟩
  return (buffer, state)

def captureRun (localTime : Nat → String) (link : LinkType) (engine : StatefulDetectionEngine τ)
    (blocks : List BlockGuard) : Checked (LocalityBuffer × StatefulDetectionEngine τ) :=
  blocks.foldlM
    (fun state block => do
      let (buffer, inspection) ← captureBlock localTime link state.1 state.2 block
      return (buffer, inspection.engine))
    (LocalityBuffer.new, engine)

end Loop

section Decoding

variable {τ : Type} [Timestamp τ]

def arrivalOf (link : LinkType) (frame : Frame) : Arrival τ where
  pkt := decodePacket frame.data link none
  now := Timestamp.wallClock frame.sec frame.nsec

def frameKey (link : LinkType) (frame : Frame) : UInt16 := portKey (decodePacket frame.data link none)

def rawRef (link : LinkType) (memory : Memory) (raw : RawPacket) : PacketRef :=
  packetRef raw (frameKey link (raw.frame memory))

end Decoding

theorem buffer_packet_step (link : LinkType) (memory : Memory) (buffer : LocalityBuffer) (raw : RawPacket) :
    bufferPacket link memory buffer raw = Locality.step buffer (.addPacket (rawRef link memory raw)) := by
  rw [bufferPacket, decode_packet_eq, ok_bind, Locality.step]
  rfl

theorem accept_take (refs : List PacketRef) (pktRef : PacketRef) (room : refs.length ≤ maxBatchSize) :
    acceptStep refs (.addPacket pktRef) = (refs ++ [pktRef]).take maxBatchSize := by
  rw [acceptStep]
  by_cases free : refs.length < maxBatchSize
  · rw [if_pos free, List.take_of_length_le]
    rw [List.length_append, List.length_singleton]
    exact free
  · rw [if_neg free, List.take_append_of_le_length (Nat.le_of_not_lt free), List.take_of_length_le room]

theorem take_take_append {α : Type} (n : Nat) (xs ys : List α) : (xs.take n ++ ys).take n = (xs ++ ys).take n := by
  rw [List.take_append, List.take_append, List.take_take, Nat.min_self, List.length_take]
  congr 2
  omega

structure Buffered (buffer : LocalityBuffer) (refs : List PacketRef) (ports : List UInt16) : Prop where
  represents : Represents buffer refs ports
  order : ports = keysSeen PacketRef.portKey refs

theorem add_port_order (refs : List PacketRef) (pktRef : PacketRef) :
    addPort (keysSeen PacketRef.portKey refs) pktRef.portKey = keysSeen PacketRef.portKey (refs ++ [pktRef]) := by
  rw [keys_seen_concat]
  rfl

theorem buffer_packet_safe (link : LinkType) (memory : Memory) (raw : RawPacket) (buffer : LocalityBuffer)
    (refs : List PacketRef) (ports : List UInt16) (buffered : Buffered buffer refs ports) :
    Safe (bufferPacket link memory buffer raw) (fun result =>
      ∃ next, Buffered result ((refs ++ [rawRef link memory raw]).take maxBatchSize) next) := by
  rw [buffer_packet_step, ← accept_take refs _ buffered.represents.room, Locality.step, acceptStep]
  by_cases free : refs.length < maxBatchSize
  · rw [if_pos free]
    exact safe_bind (add_packet_safe buffer refs ports _ buffered.represents free) fun result added =>
      safe_ok ⟨_, added.2, by rw [buffered.order, add_port_order]⟩
  · rw [if_neg free, add_packet_full buffer refs ports _ buffered.represents
      (Nat.le_antisymm buffered.represents.room (Nat.le_of_not_lt free))]
    exact safe_ok ⟨ports, buffered⟩

theorem buffer_packets_safe (link : LinkType) (memory : Memory) (raws : List RawPacket) (buffer : LocalityBuffer)
    (refs : List PacketRef) (ports : List UInt16) (buffered : Buffered buffer refs ports) :
    Safe (raws.foldlM (bufferPacket link memory) buffer) (fun result =>
      ∃ next, Buffered result ((refs ++ raws.map (rawRef link memory)).take maxBatchSize) next) := by
  induction raws generalizing buffer refs ports with
  | nil =>
      rw [List.map_nil, List.append_nil, List.take_of_length_le buffered.represents.room]
      exact safe_ok ⟨ports, buffered⟩
  | cons raw raws ih =>
      rw [List.foldlM_cons]
      refine safe_bind (buffer_packet_safe link memory raw buffer refs ports buffered) ?_
      rintro added ⟨next, represented⟩
      have rest := ih added _ next represented
      rw [take_take_append, List.append_assoc] at rest
      exact rest

section Inspecting

variable {τ : Type} [Sub τ] [LT τ] [DecidableLT τ] [Timestamp τ] (localTime : Nat → String) (link : LinkType)

def inspection (engine : StatefulDetectionEngine τ) (frames : List Frame) : Inspection τ where
  engine := Engine.run localTime engine (frames.map (arrivalOf link))
  handed := frames
  alerts := runAlerts localTime engine (frames.map (arrivalOf link))

theorem run_alerts_append (engine : StatefulDetectionEngine τ) (first second : List (Arrival τ)) :
    runAlerts localTime engine (first ++ second) =
      runAlerts localTime engine first ++ runAlerts localTime (Engine.run localTime engine first) second := by
  induction first generalizing engine with
  | nil => rfl
  | cons arrival rest ih =>
      rw [List.cons_append, runAlerts, runAlerts, ih, List.append_assoc]
      rfl

theorem inspect_packet_ok (memory : Memory) (engine : StatefulDetectionEngine τ) (frames : List Frame)
    (pktRef : PacketRef) :
    inspectPacket localTime link memory (inspection localTime link engine frames) pktRef =
      .ok (inspection localTime link engine (frames ++ [frameAt memory pktRef])) := by
  have after : Engine.run localTime engine ((frames ++ [frameAt memory pktRef]).map (arrivalOf link)) =
      Engine.step localTime (Engine.run localTime engine (frames.map (arrivalOf link)))
        (arrivalOf link (frameAt memory pktRef)) := by
    rw [List.map_append]
    exact run_concat localTime engine _ _
  have raised : runAlerts localTime engine ((frames ++ [frameAt memory pktRef]).map (arrivalOf link)) =
      runAlerts localTime engine (frames.map (arrivalOf link)) ++
        alertsOf localTime (Engine.run localTime engine (frames.map (arrivalOf link)))
          (arrivalOf link (frameAt memory pktRef)) := by
    rw [List.map_append, run_alerts_append]
    exact congrArg _ (List.append_nil _)
  rw [inspectPacket, decode_packet_eq, ok_bind]
  show _ = Except.ok (Inspection.mk (Engine.run localTime engine ((frames ++ [frameAt memory pktRef]).map (arrivalOf link)))
    (frames ++ [frameAt memory pktRef]) (runAlerts localTime engine _))
  rw [after, raised]
  rfl

theorem inspect_slice_ok (memory : Memory) (engine : StatefulDetectionEngine τ) (frames : List Frame)
    (refs : List PacketRef) :
    refs.foldlM (inspectPacket localTime link memory) (inspection localTime link engine frames) =
      .ok (inspection localTime link engine (frames ++ refs.map (frameAt memory))) := by
  induction refs generalizing frames with
  | nil => simp
  | cons pktRef refs ih =>
      rw [List.foldlM_cons, inspect_packet_ok, ok_bind, ih, List.map_cons, List.append_assoc]
      rfl

theorem inspect_buckets_ok (memory : Memory) (engine : StatefulDetectionEngine τ) (buffer : LocalityBuffer)
    (refs : List PacketRef) (slices : ∀ port, getBucketSlice buffer port = .ok (portBucket port refs))
    (ports : List UInt16) (frames : List Frame) :
    ports.foldlM (inspectBucket localTime link memory buffer) (inspection localTime link engine frames) =
      .ok (inspection localTime link engine
        (frames ++ (grouped PacketRef.portKey ports refs).map (frameAt memory))) := by
  induction ports generalizing frames with
  | nil => simp [grouped]
  | cons port ports ih =>
      have first : grouped PacketRef.portKey (port :: ports) refs =
          portBucket port refs ++ grouped PacketRef.portKey ports refs := rfl
      rw [List.foldlM_cons, inspectBucket, slices port, ok_bind, inspect_slice_ok, ok_bind, ih, first,
        List.map_append, List.append_assoc]

theorem grouped_frames (memory : Memory) (raws : List RawPacket) :
    (groupByKey PacketRef.portKey (raws.map (rawRef link memory))).map (frameAt memory) =
      groupByKey (frameKey link) (raws.map (RawPacket.frame memory)) := by
  rw [group_by_key_map, group_by_key_map, List.map_map]
  rfl

def blockInspection (engine : StatefulDetectionEngine τ) (block : BlockGuard) : Inspection τ :=
  inspection localTime link engine
    (groupByKey (frameKey link) ((block.packets.take maxBatchSize).map (RawPacket.frame block.memory)))

theorem capture_block_safe (buffer : LocalityBuffer) (refs : List PacketRef) (ports : List UInt16)
    (rep : Represents buffer refs ports) (engine : StatefulDetectionEngine τ) (block : BlockGuard) :
    Safe (captureBlock localTime link buffer engine block) (fun result =>
      (∃ refs ports, Represents result.1 refs ports) ∧ result.2 = blockInspection localTime link engine block) := by
  rw [captureBlock]
  refine safe_bind (clear_safe buffer refs ports rep) ?_
  intro cleared empty
  refine safe_bind (buffer_packets_safe link block.memory block.packets cleared [] [] ⟨empty, rfl⟩) ?_
  rintro filled ⟨active, represented, order⟩
  rw [List.nil_append, ← List.map_take] at represented order
  refine safe_bind (group_packets_safe filled _ active represented) ?_
  rintro result ⟨after, sorted⟩
  have slices := fun port => bucket_slice_ok result _ active port after sorted
  have inspected := inspect_buckets_ok localTime link block.memory engine result _ slices active []
  rw [List.nil_append, order] at inspected
  have frames := grouped_frames link block.memory (block.packets.take maxBatchSize)
  rw [groupByKey] at frames
  rw [frames] at inspected
  rw [active_ports_ok result _ active after, ok_bind]
  refine ⟨(result, blockInspection localTime link engine block), ?_, ⟨_, active, after⟩, rfl⟩
  rw [order]
  exact (congrArg (fun state => state >>= fun inspected => .ok (result, inspected)) inspected).trans rfl

theorem capture_run_safe (engine : StatefulDetectionEngine τ) (blocks : List BlockGuard) :
    Safe (captureRun localTime link engine blocks) (fun state => ∃ refs ports, Represents state.1 refs ports) := by
  induction blocks using List.reverseRecOn with
  | nil => exact safe_ok ⟨[], [], new_represents⟩
  | append_singleton blocks block ih =>
      rw [captureRun, List.foldlM_append]
      refine safe_bind ih ?_
      rintro ⟨buffer, engine⟩ ⟨refs, ports, rep⟩
      simp only [List.foldlM_cons, List.foldlM_nil, bind_pure]
      exact safe_bind (capture_block_safe localTime link buffer refs ports rep engine block)
        fun result outcome => safe_ok outcome.1

theorem handed_perm_iff (engine : StatefulDetectionEngine τ) (block : BlockGuard) :
    (blockInspection localTime link engine block).handed.Perm (block.packets.map (RawPacket.frame block.memory)) ↔
      block.packets.length ≤ maxBatchSize := by
  have given : (blockInspection localTime link engine block).handed.Perm
      ((block.packets.take maxBatchSize).map (RawPacket.frame block.memory)) := group_by_key_perm _ _
  refine ⟨?_, ?_⟩
  · intro all
    have lengths := given.length_eq.symm.trans all.length_eq
    rw [List.length_map, List.length_map, List.length_take] at lengths
    omega
  · intro small
    rwa [List.take_of_length_le small] at given

theorem block_inspected_iff_batch (engine : StatefulDetectionEngine τ) (earlier : List BlockGuard)
    (block : BlockGuard) :
    ∃ buffer before, captureRun localTime link engine earlier = .ok (buffer, before) ∧
      ∃ next result, captureBlock localTime link buffer before block = .ok (next, result) ∧
        (result.handed.Perm (block.packets.map (RawPacket.frame block.memory)) ↔
          block.packets.length ≤ maxBatchSize) := by
  obtain ⟨⟨buffer, before⟩, reached, refs, ports, rep⟩ := capture_run_safe localTime link engine earlier
  obtain ⟨⟨next, result⟩, finished, _, inspected⟩ :=
    capture_block_safe localTime link buffer refs ports rep before block
  dsimp only at inspected
  subst inspected
  exact ⟨buffer, before, reached, next, _, finished, handed_perm_iff localTime link before block⟩

end Inspecting

-- A block of 4097 frames of 60 zero bytes, 144 bytes apart: 590,016 bytes of the 1 MB.
def overfullMemory : Memory := fun address =>
  if address < 48 then
    if address = 8 ∨ address = 12 then 1
    else if address = 13 then 16
    else if address = 16 then 48
    else 0
  else if (address - 48) % 144 = 0 then if address = 48 + 144 * 4096 then 0 else 144
  else if (address - 48) % 144 = 12 ∨ (address - 48) % 144 = 16 then 60
  else if (address - 48) % 144 = 24 then 82
  else 0

def overfullBlock : BlockGuard := ⟨overfullMemory, 0, 0⟩

theorem overfull_next (k : Nat) (inside : k < 4096) : readU32 overfullMemory (48 + 144 * k) = 144 := by
  have first : overfullMemory (48 + 144 * k) = 144 := by
    rw [overfullMemory, if_neg (by omega), if_pos (by omega), if_neg (by omega)]
  have rest : ∀ j, 1 ≤ j → j ≤ 3 → overfullMemory (48 + 144 * k + j) = 0 := by
    intro j positive small
    rw [overfullMemory, if_neg (by omega), if_neg (by omega), if_neg (by omega), if_neg (by omega)]
  rw [readU32, first, rest 1 (by omega) (by omega), rest 2 (by omega) (by omega), rest 3 (by omega) (by omega)]
  decide

theorem overfull_collect (remaining k : Nat) (total : k + remaining = 4096) :
    ((PacketIterator.mk 0 4097 k (48 + 144 * k) 0).collect overfullMemory (remaining + 1)).length = remaining + 1 := by
  induction remaining generalizing k with
  | zero =>
      rw [PacketIterator.collect, PacketIterator.next, if_neg (by dsimp only; omega)]
      rfl
  | succ remaining ih =>
      have more : (readHeader overfullMemory (0 + (48 + 144 * k))).tpNextOffset = 144 := by
        rw [Nat.zero_add]
        exact overfull_next k (by omega)
      have advanced := ih (k + 1) (by omega)
      rw [PacketIterator.collect, PacketIterator.next, if_neg (by dsimp only; omega)]
      dsimp only
      rw [more, if_pos (by decide), List.length_cons]
      exact congrArg Nat.succ advanced

theorem overfull_length : overfullBlock.packets.length = 4097 := overfull_collect 4096 0 rfl

theorem overfull_block_not_inspected :
    ∃ next result, captureBlock (fun _ => "") .ethernet LocalityBuffer.new
      (StatefulDetectionEngine.new "eth0" [] [] : StatefulDetectionEngine Rat) overfullBlock = .ok (next, result) ∧
      ¬result.handed.Perm (overfullBlock.packets.map (RawPacket.frame overfullMemory)) := by
  obtain ⟨⟨next, result⟩, finished, _, inspected⟩ := capture_block_safe (fun _ => "") .ethernet
    LocalityBuffer.new [] [] new_represents
    (StatefulDetectionEngine.new "eth0" [] [] : StatefulDetectionEngine Rat) overfullBlock
  dsimp only at inspected
  subst inspected
  refine ⟨next, _, finished, ?_⟩
  intro all
  have small := (handed_perm_iff _ _ _ overfullBlock).mp all
  rw [overfull_length] at small
  exact absurd small (by decide)

end NetworkIds.Capture
