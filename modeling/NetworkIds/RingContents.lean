import NetworkIds.BlockLayout
import NetworkIds.Scans

set_option autoImplicit false

namespace NetworkIds.Capture

open Checked Endian Grouping Placement NetworkIds.Engine NetworkIds.Locality NetworkIds.Parser NetworkIds.RingProtocol

structure MappedConfig extends RingConfig where
  mmapPtr : Nat
  blockSize : Nat
  headerFits : 48 ≤ blockSize

def getBlockPtr (config : MappedConfig) (blockIdx : Nat) : Nat := config.mmapPtr + blockIdx * config.blockSize

-- The memory and the parties of the ring. contents is ghost state: the blocks retired
-- so far. delivered are the guards dropped so far, as they stood then.
structure MappedRing where
  memory : Memory
  ring : RingState
  contents : List StoredBlock
  delivered : List BlockGuard

def MappedRing.new (config : MappedConfig) : MappedRing where
  memory := fun _ => 0
  ring := .new config.toRingConfig
  contents := []
  delivered := []

-- The kernel writes behind the status of the block it fills.
def fillBlock (config : MappedConfig) (bytes : Bytes) (state : MappedRing) : MappedRing :=
  if state.ring.blockStatus state.ring.retireIdx = tpStatusKernel then
    { state with memory := write state.memory (getBlockPtr config state.ring.retireIdx + 12) bytes }
  else state

-- It completes the block and hands it over.
def retireBlock (config : MappedConfig) (block : StoredBlock) (state : MappedRing) : MappedRing :=
  if state.ring.blockStatus state.ring.retireIdx = tpStatusKernel then
    { state with
      memory := write state.memory (getBlockPtr config state.ring.retireIdx) block.encode
      ring := retire block.flags state.ring
      contents := state.contents ++ [block] }
  else state

-- The reader writes to the memory only when it drops a guard.
def mappedReaderStep (config : MappedConfig) (ret : Int) (state : MappedRing) : MappedRing :=
  match state.ring.reader with
  | .holding blockIdx =>
      { state with
        memory := write state.memory (getBlockPtr config blockIdx + 8) (Endian.u32ToLe tpStatusKernel)
        ring := readerStep ret state.ring
        delivered := state.delivered ++ [⟨state.memory, getBlockPtr config blockIdx, blockIdx⟩] }
  | _ => { state with ring := readerStep ret state.ring }

inductive MappedTurn (config : MappedConfig) where
  | fill (bytes : Bytes) (inside : 12 + bytes.length ≤ config.blockSize)
  | retire (block : StoredBlock) (inside : block.encode.length ≤ config.blockSize)
  | reader (ret : Int)

def mappedStep (config : MappedConfig) (state : MappedRing) : MappedTurn config → MappedRing
  | .fill bytes _ => fillBlock config bytes state
  | .retire block _ => retireBlock config block state
  | .reader ret => mappedReaderStep config ret state

def mappedRun (config : MappedConfig) (turns : List (MappedTurn config)) : MappedRing :=
  turns.foldl (mappedStep config) (.new config)

def StoredBlock.stored (block : StoredBlock) : List Frame := block.frames.map StoredFrame.frame

structure MappedInvariant (config : MappedConfig) (state : MappedRing) : Prop where
  protocol : RingInvariant config.blockNr state.ring
  status : ∀ i, i < config.blockNr → readU32 state.memory (getBlockPtr config i + 8) = state.ring.blockStatus i
  counted : state.contents.length = state.ring.retired.length
  sizes : ∀ block ∈ state.contents, block.encode.length ≤ config.blockSize
  held : ∀ k block, state.ring.released ≤ k → state.contents[k]? = some block →
    Holds state.memory (getBlockPtr config (k % config.blockNr)) block.encode
  delivered : state.delivered.map blockFrames = (state.contents.take state.ring.released).map StoredBlock.stored

theorem read_u32_congr (memory other : Memory) (address : Nat)
    (same : ∀ place, address ≤ place → place < address + 4 → other place = memory place) :
    readU32 other address = readU32 memory address := by
  rw [readU32, readU32, same address (by omega) (by omega), same (address + 1) (by omega) (by omega),
    same (address + 2) (by omega) (by omega), same (address + 3) (by omega) (by omega)]

section Blocks

variable (config : MappedConfig) (memory : Memory)

theorem other_block_same (i j offset : Nat) (bytes : Bytes) (different : i ≠ j)
    (inside : offset + bytes.length ≤ config.blockSize) (place : Nat) (low : getBlockPtr config i ≤ place)
    (high : place < getBlockPtr config i + config.blockSize) :
    write memory (getBlockPtr config j + offset) bytes place = memory place := by
  apply write_outside
  unfold getBlockPtr at low high ⊢
  rcases Nat.lt_or_gt_of_ne different with before | after
  · have apart := Nat.mul_le_mul_right config.blockSize before
    rw [Nat.succ_mul] at apart
    left
    omega
  · have apart := Nat.mul_le_mul_right config.blockSize after
    rw [Nat.succ_mul] at apart
    right
    omega

theorem other_status_same (i j offset : Nat) (bytes : Bytes) (different : i ≠ j)
    (inside : offset + bytes.length ≤ config.blockSize) :
    readU32 (write memory (getBlockPtr config j + offset) bytes) (getBlockPtr config i + 8) =
      readU32 memory (getBlockPtr config i + 8) := by
  have header := config.headerFits
  apply read_u32_congr
  intro place low high
  exact other_block_same config memory i j offset bytes different inside place (by omega) (by omega)

theorem other_contents_same (i j offset : Nat) (bytes : Bytes) (different : i ≠ j)
    (inside : offset + bytes.length ≤ config.blockSize) (contents : Bytes) (fits : contents.length ≤ config.blockSize)
    (holds : Holds memory (getBlockPtr config i) contents) :
    Holds (write memory (getBlockPtr config j + offset) bytes) (getBlockPtr config i) contents :=
  holds_congr holds fun place low high =>
    other_block_same config memory i j offset bytes different inside place low (by omega)

end Blocks

theorem mapped_new (config : MappedConfig) : MappedInvariant config (.new config) where
  protocol := new_invariant config.toRingConfig
  status _ _ := by
    show u32FromLe 0 0 0 0 = tpStatusKernel
    decide
  counted := rfl
  sizes _ member := absurd member List.not_mem_nil
  held _ _ _ found := by cases found
  delivered := rfl

section Steps

variable {config : MappedConfig} {state : MappedRing}

theorem contents_inside (inv : MappedInvariant config state) (k : Nat) (block : StoredBlock)
    (found : state.contents[k]? = some block) :
    k < state.ring.retired.length ∧ block.encode.length ≤ config.blockSize := by
  obtain ⟨inside, _⟩ := List.getElem?_eq_some_iff.mp found
  exact ⟨by rw [← inv.counted]; exact inside, inv.sizes block (List.mem_of_getElem? found)⟩

theorem fill_keeps (inv : MappedInvariant config state) (bytes : Bytes)
    (inside : 12 + bytes.length ≤ config.blockSize) : MappedInvariant config (fillBlock config bytes state) := by
  rw [fillBlock]
  by_cases free : state.ring.blockStatus state.ring.retireIdx = tpStatusKernel
  · rw [if_pos free]
    refine { inv with status := ?_, held := ?_ }
    · intro i below
      rw [← inv.status i below]
      by_cases own : i = state.ring.retireIdx
      · subst own
        apply read_u32_congr
        intro place low high
        exact write_outside _ _ _ _ (.inl (by omega))
      · exact other_status_same config _ i _ 12 bytes own inside
    · intro k block late found
      obtain ⟨before, fits⟩ := contents_inside inv k block found
      have elsewhere := retire_elsewhere inv.protocol free config.positive k late before
      exact other_contents_same config _ _ _ 12 bytes elsewhere inside _ fits (inv.held k block late found)
  · rw [if_neg free]
    exact inv

theorem retire_block_keeps (inv : MappedInvariant config state) (block : StoredBlock)
    (inside : block.encode.length ≤ config.blockSize) : MappedInvariant config (retireBlock config block state) := by
  rw [retireBlock]
  by_cases free : state.ring.blockStatus state.ring.retireIdx = tpStatusKernel
  · rw [if_pos free]
    have written := write_holds state.memory (getBlockPtr config state.ring.retireIdx) block.encode
    have place : state.ring.retireIdx = state.contents.length % config.blockNr := by
      rw [inv.protocol.retireIdx, inv.counted]
    have behind : state.ring.released ≤ state.contents.length := by
      rw [inv.counted]
      exact (released_le state.ring).trans inv.protocol.behind
    refine ⟨retire_keeps block.flags inv.protocol free config.positive, ?_, ?_, ?_, ?_, ?_⟩
    · intro i below
      by_cases own : i = state.ring.retireIdx
      · subst own
        have updated : (retire block.flags state.ring).blockStatus state.ring.retireIdx = tpStatusUser ||| block.flags :=
          Function.update_self _ _ _
        exact (block_status_holds block _ _ written).trans updated.symm
      · have kept : (retire block.flags state.ring).blockStatus i = state.ring.blockStatus i :=
          Function.update_of_ne own _ _
        exact (other_status_same config _ i _ 0 block.encode own (by omega)).trans ((inv.status i below).trans kept.symm)
    · show (state.contents ++ [block]).length = (state.ring.retired ++ [_]).length
      rw [List.length_append, List.length_append, inv.counted]
      rfl
    · intro other member
      rcases List.mem_append.mp member with earlier | last
      · exact inv.sizes other earlier
      · rw [List.mem_singleton.mp last]
        exact inside
    · intro k other late found
      by_cases newest : k < state.contents.length
      · rw [List.getElem?_append_left newest] at found
        have elsewhere := retire_elsewhere inv.protocol free config.positive k late (by rw [← inv.counted]; exact newest)
        exact other_contents_same config _ _ _ 0 block.encode elsewhere (by omega) _
          (contents_inside inv k other found).2 (inv.held k other late found)
      · obtain ⟨bound, _⟩ := List.getElem?_eq_some_iff.mp found
        rw [List.length_append, List.length_singleton] at bound
        have last : k = state.contents.length := by omega
        subst last
        rw [List.getElem?_append_right (Nat.le_refl _), Nat.sub_self] at found
        cases found
        rw [← place]
        exact written
    · show state.delivered.map blockFrames = ((state.contents ++ [block]).take state.ring.released).map StoredBlock.stored
      rw [List.take_append_of_le_length behind]
      exact inv.delivered
  · rw [if_neg free]
    exact inv

theorem moved_released (ring : RingState) (next : Reader) (outside : ring.released = ring.handed.length)
    (noGuard : ∀ blockIdx, next ≠ .holding blockIdx) :
    RingState.released { ring with reader := next } = ring.released := by
  rw [outside]
  cases next with
  | holding blockIdx => exact absurd rfl (noGuard blockIdx)
  | _ => rfl

theorem reader_step_released (ret : Int) (ring : RingState) (noGuard : ∀ blockIdx, ring.reader ≠ .holding blockIdx) :
    (readerStep ret ring).released = ring.released ∧ (readerStep ret ring).blockStatus = ring.blockStatus ∧
      (readerStep ret ring).retired = ring.retired := by
  have outside : ring.released = ring.handed.length := by
    rw [RingState.released]
    cases phase : ring.reader with
    | holding blockIdx => exact absurd phase (noGuard blockIdx)
    | _ => rfl
  have looked (blockIdx : Nat) (next : Reader) (free : ∀ blockIdx, next ≠ .holding blockIdx) :
      RingState.released (if userOwned (ring.blockStatus blockIdx) then { ring with reader := .claiming blockIdx }
        else { ring with reader := next }) = ring.released := by
    by_cases user : userOwned (ring.blockStatus blockIdx)
    · rw [if_pos user]
      exact moved_released ring _ outside (fun _ same => by cases same)
    · rw [if_neg user]
      exact moved_released ring _ outside free
  rw [readerStep]
  cases phase : ring.reader with
  | idle => exact ⟨moved_released ring _ outside (fun _ same => by cases same), rfl, rfl⟩
  | checking blockIdx =>
      refine ⟨looked blockIdx _ (fun _ same => by cases same), ?_, ?_⟩
      all_goals
        dsimp only
        split <;> rfl
  | polling blockIdx =>
      dsimp only
      by_cases timeout : ret ≤ 0
      · rw [if_pos timeout]
        exact ⟨moved_released ring _ outside (fun _ same => by cases same), rfl, rfl⟩
      · rw [if_neg timeout]
        exact ⟨moved_released ring _ outside (fun _ same => by cases same), rfl, rfl⟩
  | rechecking blockIdx =>
      refine ⟨looked blockIdx _ (fun _ same => by cases same), ?_, ?_⟩
      all_goals
        dsimp only
        split <;> rfl
  | claiming blockIdx =>
      refine ⟨?_, rfl, rfl⟩
      have handed : (handOut blockIdx ring).handed.length = ring.handed.length + 1 := List.length_append
      have released : (handOut blockIdx ring).released = (handOut blockIdx ring).handed.length - 1 := rfl
      rw [released, handed, Nat.add_sub_cancel, outside]
  | holding blockIdx => exact absurd phase (noGuard blockIdx)

theorem guard_contents (inv : MappedInvariant config state) (blockIdx : Nat)
    (holding : state.ring.reader = .holding blockIdx) :
    ∃ block, state.contents[state.ring.released]? = some block ∧
      Holds state.memory (getBlockPtr config blockIdx) block.encode := by
  have aligned := inv.protocol.aligned
  have released : state.ring.released = state.ring.handed.length - 1 := by rw [RingState.released, holding]
  rw [ReaderAligned, holding, inv.protocol.size] at aligned
  have behind := inv.protocol.behind
  have inside : state.ring.released < state.contents.length := by
    rw [inv.counted]
    omega
  obtain ⟨block, found⟩ : ∃ block, state.contents[state.ring.released]? = some block :=
    ⟨_, List.getElem?_eq_getElem inside⟩
  have holds := inv.held _ block (Nat.le_refl _) found
  rw [released, ← aligned.2] at holds
  exact ⟨block, found, holds⟩

theorem guard_frames (inv : MappedInvariant config state) (blockIdx : Nat)
    (holding : state.ring.reader = .holding blockIdx) :
    ∃ block, state.contents[state.ring.released]? = some block ∧
      blockFrames ⟨state.memory, getBlockPtr config blockIdx, blockIdx⟩ = block.stored := by
  obtain ⟨block, found, holds⟩ := guard_contents inv blockIdx holding
  exact ⟨block, found, (stored_block_read_back ⟨state.memory, _, blockIdx⟩ block holds).1⟩

theorem drop_guard_released (inv : MappedInvariant config state) (ret : Int) (blockIdx : Nat)
    (holding : state.ring.reader = .holding blockIdx) :
    (mappedReaderStep config ret state).ring.released = state.ring.released + 1 ∧
      (mappedReaderStep config ret state).contents = state.contents := by
  have aligned := inv.protocol.aligned
  rw [ReaderAligned, holding] at aligned
  have before : state.ring.released = state.ring.handed.length - 1 := by rw [RingState.released, holding]
  have dropped : readerStep ret state.ring = { recycleBlock blockIdx state.ring with reader := .idle } := by
    rw [readerStep, holding]
  rw [mappedReaderStep, holding]
  refine ⟨?_, rfl⟩
  dsimp only
  rw [dropped, before, Nat.sub_add_cancel aligned.1]
  rfl

theorem drop_guard_keeps (inv : MappedInvariant config state) (ret : Int) (blockIdx : Nat)
    (holding : state.ring.reader = .holding blockIdx) : MappedInvariant config (mappedReaderStep config ret state) := by
  have protocol := reader_step_keeps config.blockNr ret state.ring inv.protocol
  obtain ⟨block, found, frames⟩ := guard_frames inv blockIdx holding
  have aligned := inv.protocol.aligned
  rw [ReaderAligned, holding, inv.protocol.size] at aligned
  have before : state.ring.released = state.ring.handed.length - 1 := by rw [RingState.released, holding]
  have dropped : readerStep ret state.ring = { recycleBlock blockIdx state.ring with reader := .idle } := by
    rw [readerStep, holding]
  have after := (drop_guard_released inv ret blockIdx holding).1
  rw [mappedReaderStep, holding] at after
  have header := config.headerFits
  have word : 8 + (Endian.u32ToLe tpStatusKernel).length ≤ config.blockSize := by
    rw [u32_to_le_length]
    omega
  rw [mappedReaderStep, holding]
  refine ⟨protocol, ?_, ?_, inv.sizes, ?_, ?_⟩
  · intro i below
    rw [dropped]
    by_cases own : i = blockIdx
    · subst own
      have recycled : (recycleBlock i state.ring).blockStatus i = tpStatusKernel := Function.update_self _ _ _
      exact (read_u32_holds tpStatusKernel (write_holds _ _ _)).trans recycled.symm
    · have kept : (recycleBlock blockIdx state.ring).blockStatus i = state.ring.blockStatus i :=
        Function.update_of_ne own _ _
      exact (other_status_same config _ i _ 8 _ own word).trans ((inv.status i below).trans kept.symm)
  · rw [dropped]
    exact inv.counted
  · intro k other late known
    rw [after] at late
    obtain ⟨inside, fits⟩ := contents_inside inv k other known
    have room := inv.protocol.room
    have elsewhere : k % config.blockNr ≠ blockIdx := by
      rw [aligned.2, ← before]
      exact (window_distinct (by omega) (by omega)).symm
    exact other_contents_same config _ _ _ 8 _ elsewhere word _ fits (inv.held k other (by omega) known)
  · rw [after, List.take_add_one, found, List.map_append, List.map_append, inv.delivered]
    exact congrArg _ (congrArg (fun frames => [frames]) frames)

theorem mapped_reader_moves (ret : Int) (noGuard : ∀ blockIdx, state.ring.reader ≠ .holding blockIdx) :
    mappedReaderStep config ret state = { state with ring := readerStep ret state.ring } := by
  rw [mappedReaderStep]
  cases phase : state.ring.reader with
  | holding blockIdx => exact absurd phase (noGuard blockIdx)
  | _ => rfl

theorem mapped_reader_keeps (inv : MappedInvariant config state) (ret : Int) :
    MappedInvariant config (mappedReaderStep config ret state) := by
  by_cases holding : ∃ blockIdx, state.ring.reader = .holding blockIdx
  · obtain ⟨blockIdx, holding⟩ := holding
    exact drop_guard_keeps inv ret blockIdx holding
  · have noGuard : ∀ blockIdx, state.ring.reader ≠ .holding blockIdx := fun blockIdx same => holding ⟨blockIdx, same⟩
    obtain ⟨released, status, retired⟩ := reader_step_released ret state.ring noGuard
    rw [mapped_reader_moves ret noGuard]
    refine ⟨reader_step_keeps config.blockNr ret state.ring inv.protocol, ?_, ?_, inv.sizes, ?_, ?_⟩
    · rw [status]
      exact inv.status
    · rw [retired]
      exact inv.counted
    · rw [released]
      exact inv.held
    · rw [released]
      exact inv.delivered

theorem mapped_step_keeps (inv : MappedInvariant config state) (turn : MappedTurn config) :
    MappedInvariant config (mappedStep config state turn) := by
  cases turn with
  | fill bytes inside => exact fill_keeps inv bytes inside
  | retire block inside => exact retire_block_keeps inv block inside
  | reader ret => exact mapped_reader_keeps inv ret

end Steps

theorem mapped_run_keeps (config : MappedConfig) (turns : List (MappedTurn config)) :
    MappedInvariant config (mappedRun config turns) := by
  induction turns using List.reverseRecOn with
  | nil => exact mapped_new config
  | append_singleton turns turn ih =>
      rw [mappedRun, List.foldl_append]
      exact mapped_step_keeps ih turn

-- What the reader gets of the ring: each block once, in the order in which the kernel
-- retired them, with the frames that the kernel stored, also while it holds a guard.
structure DeliversFrames (config : MappedConfig) (state : MappedRing) : Prop where
  status : ∀ i, i < config.blockNr → readU32 state.memory (getBlockPtr config i + 8) = state.ring.blockStatus i
  delivered : state.delivered.map blockFrames = (state.contents.take state.ring.released).map StoredBlock.stored
  held : ∀ blockIdx, state.ring.reader = .holding blockIdx →
    ∃ block, state.contents[state.ring.released]? = some block ∧
      blockFrames ⟨state.memory, getBlockPtr config blockIdx, blockIdx⟩ = block.stored
  bounded : state.contents.length ≤ state.ring.released + config.blockNr

theorem ring_delivers_frames (config : MappedConfig) (turns : List (MappedTurn config)) :
    DeliversFrames config (mappedRun config turns) := by
  have inv := mapped_run_keeps config turns
  exact ⟨inv.status, inv.delivered, fun blockIdx holding => guard_frames inv blockIdx holding, by
    rw [inv.counted]
    exact inv.protocol.room⟩

section Engine

variable {τ : Type} [Sub τ] [LT τ] [DecidableLT τ] [Timestamp τ] (localTime : Nat → String) (link : LinkType)

-- The frames of a stored block as the engine gets them.
def StoredBlock.handed (block : StoredBlock) : List Frame :=
  groupByKey (frameKey link) (block.stored.take maxBatchSize)

def readFrames (state : MappedRing) : List Frame :=
  (state.contents.take state.ring.released).flatMap (StoredBlock.handed link)

theorem handed_frames_read (guard : BlockGuard) :
    handedFrames link guard = groupByKey (frameKey link) ((blockFrames guard).take maxBatchSize) := by
  rw [handedFrames, blockFrames, List.map_take]

theorem delivered_frames (state : MappedRing)
    (delivered : state.delivered.map blockFrames = (state.contents.take state.ring.released).map StoredBlock.stored) :
    state.delivered.flatMap (handedFrames link) = readFrames link state := by
  have split (guards : List BlockGuard) : guards.flatMap (handedFrames link) =
      (guards.map blockFrames).flatMap fun frames => groupByKey (frameKey link) (frames.take maxBatchSize) := by
    rw [List.flatMap_map]
    exact List.flatMap_congr fun guard _ => handed_frames_read link guard
  rw [split, delivered, List.flatMap_map]
  rfl

theorem read_frames_perm (blocks : List StoredBlock) (small : ∀ block ∈ blocks, block.frames.length ≤ maxBatchSize) :
    (blocks.flatMap (StoredBlock.handed link)).Perm (blocks.flatMap StoredBlock.stored) := by
  apply List.Perm.flatMap_left
  intro block member
  have whole : block.stored.take maxBatchSize = block.stored :=
    List.take_of_length_le (by rw [StoredBlock.stored, List.length_map]; exact small block member)
  rw [StoredBlock.handed, whole]
  exact group_by_key_perm _ _

structure InspectsRing (engine : StatefulDetectionEngine τ) (state : MappedRing) (after : CaptureState τ) : Prop where
  ran : after.engine = Engine.run localTime engine ((readFrames link state).map (arrivalOf link))
  sent : after.sent = runAlerts localTime engine ((readFrames link state).map (arrivalOf link))
  whole : (∀ block ∈ state.contents, block.frames.length ≤ maxBatchSize) →
    (readFrames link state).Perm ((state.contents.take state.ring.released).flatMap StoredBlock.stored)

theorem ring_is_inspected (config : MappedConfig) (turns : List (MappedTurn config))
    (engine : StatefulDetectionEngine τ) :
    ∃ after, captureAll localTime link ⟨.new, engine, []⟩ (mappedRun config turns).delivered = .ok after ∧
      InspectsRing localTime link engine (mappedRun config turns) after := by
  have inv := mapped_run_keeps config turns
  have given := delivered_frames link _ inv.delivered
  obtain ⟨after, finished, _, ran, sent⟩ := capture_all_ok localTime link ⟨.new, engine, []⟩ [] [] new_represents
    (mappedRun config turns).delivered
  rw [handedArrivals, given] at ran sent
  refine ⟨after, finished, ran, sent, ?_⟩
  intro small
  exact read_frames_perm link _ fun block member => small block (List.mem_of_mem_take member)

end Engine

end NetworkIds.Capture
