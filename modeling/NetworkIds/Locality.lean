import NetworkIds.Lib.FixedArray
import NetworkIds.Lib.Grouping
import Mathlib.Data.List.Induction

set_option autoImplicit false

namespace NetworkIds.Locality

open Checked Grouping

def maxBatchSize : Nat := 4096

def maxActiveBuckets : Nat := 4096

-- A reference to packet bytes by the address they are stored at.
structure PacketRef where
  dataPtr : Nat
  len : UInt32
  sec : UInt32
  nsec : UInt32
  blockIdx : UInt32
  portKey : UInt16
deriving DecidableEq, Repr

def PacketRef.default : PacketRef := ⟨0, 0, 0, 0, 0, 0⟩

-- [u16; 65536] indexed by a u16, so that no index is out of bounds.
abbrev PortTable := UInt16 → UInt16

structure LocalityBuffer where
  inputRefs : FixedArray maxBatchSize PacketRef
  sortedRefs : FixedArray maxBatchSize PacketRef
  counts : PortTable
  offsets : PortTable
  startOffsets : PortTable
  activeBuckets : FixedArray maxActiveBuckets UInt16
  activeCount : Nat
  currentSize : Nat

def LocalityBuffer.new : LocalityBuffer where
  inputRefs := FixedArray.fill maxBatchSize PacketRef.default
  sortedRefs := FixedArray.fill maxBatchSize PacketRef.default
  counts := fun _ => 0
  offsets := fun _ => 0
  startOffsets := fun _ => 0
  activeBuckets := FixedArray.fill maxActiveBuckets 0
  activeCount := 0
  currentSize := 0

def clearBucket (buffer : LocalityBuffer) (i : Nat) : Checked LocalityBuffer := do
  let port ← buffer.activeBuckets.get i
  return { buffer with
    counts := Function.update buffer.counts port 0
    offsets := Function.update buffer.offsets port 0
    startOffsets := Function.update buffer.startOffsets port 0 }

def clear (buffer : LocalityBuffer) : Checked LocalityBuffer := do
  let buffer ← (List.range buffer.activeCount).foldlM clearBucket buffer
  return { buffer with activeCount := 0, currentSize := 0 }

def trackPort (buffer : LocalityBuffer) (portKey : UInt16) : Checked LocalityBuffer := do
  if buffer.counts portKey = 0 then
    if buffer.activeCount < maxActiveBuckets then
      return { buffer with
        activeBuckets := ← buffer.activeBuckets.set buffer.activeCount portKey
        activeCount := ← add buffer.activeCount 1 }
    else return buffer
  else return buffer

-- The six arguments of add_packet are the fields of the reference it stores.
def addPacket (buffer : LocalityBuffer) (pktRef : PacketRef) :
    Checked (LocalityBuffer × Except String Unit) := do
  if buffer.currentSize ≥ maxBatchSize then
    return (buffer, .error "Locality buffer batch size exceeded")
  else
    let inputRefs ← buffer.inputRefs.set buffer.currentSize pktRef
    let buffer ← trackPort { buffer with inputRefs := inputRefs } pktRef.portKey
    let count ← addU16 (buffer.counts pktRef.portKey) 1
    let currentSize ← add buffer.currentSize 1
    return ({ buffer with
      counts := Function.update buffer.counts pktRef.portKey count
      currentSize := currentSize }, .ok ())

def startBucket (state : LocalityBuffer × UInt16) (i : Nat) : Checked (LocalityBuffer × UInt16) := do
  let (buffer, sum) := state
  let port ← buffer.activeBuckets.get i
  let next ← addU16 sum (buffer.counts port)
  return ({ buffer with
    offsets := Function.update buffer.offsets port sum
    startOffsets := Function.update buffer.startOffsets port sum }, next)

def placePacket (buffer : LocalityBuffer) (i : Nat) : Checked LocalityBuffer := do
  let pktRef ← buffer.inputRefs.get i
  let port := pktRef.portKey
  let destIdx := (buffer.offsets port).toNat
  if destIdx < maxBatchSize then
    let sortedRefs ← buffer.sortedRefs.set destIdx pktRef
    let offset ← addU16 (buffer.offsets port) 1
    return { buffer with sortedRefs := sortedRefs, offsets := Function.update buffer.offsets port offset }
  else return buffer

def groupPackets (buffer : LocalityBuffer) : Checked LocalityBuffer := do
  if buffer.currentSize = 0 then return buffer
  else
    let (started, _) ← (List.range buffer.activeCount).foldlM startBucket (buffer, 0)
    (List.range buffer.currentSize).foldlM placePacket started

def getBucketSlice (buffer : LocalityBuffer) (port : UInt16) : Checked (List PacketRef) := do
  let start := (buffer.startOffsets port).toNat
  let count := (buffer.counts port).toNat
  let stop ← add start count
  if stop ≤ buffer.currentSize then buffer.sortedRefs.slice start stop
  else return []

def activePorts (buffer : LocalityBuffer) : Checked (List UInt16) :=
  buffer.activeBuckets.slice 0 buffer.activeCount

inductive Op where
  | clear
  | addPacket (pktRef : PacketRef)
  | groupPackets

def step (buffer : LocalityBuffer) (op : Op) : Checked LocalityBuffer :=
  match op with
  | .clear => clear buffer
  | .addPacket pktRef => do return (← addPacket buffer pktRef).1
  | .groupPackets => groupPackets buffer

def run (ops : List Op) : Checked LocalityBuffer := ops.foldlM step LocalityBuffer.new

def acceptStep (accepted : List PacketRef) (op : Op) : List PacketRef :=
  match op with
  | .clear => []
  | .addPacket pktRef => if accepted.length < maxBatchSize then accepted ++ [pktRef] else accepted
  | .groupPackets => accepted

def accepted (ops : List Op) : List PacketRef := ops.foldl acceptStep []

def portBucket (port : UInt16) (refs : List PacketRef) : List PacketRef := bucket PacketRef.portKey port refs

structure Represents (buffer : LocalityBuffer) (refs : List PacketRef) (ports : List UInt16) : Prop where
  inputs : buffer.inputRefs.Holds refs
  size : buffer.currentSize = refs.length
  room : refs.length ≤ maxBatchSize
  counted : ∀ port, (buffer.counts port).toNat = (portBucket port refs).length
  listed : buffer.activeBuckets.Holds ports
  listedCount : buffer.activeCount = ports.length
  distinct : ports.Nodup
  covers : ∀ port, port ∈ ports ↔ ∃ pktRef ∈ refs, pktRef.portKey = port
  startsIdle : ∀ port, port ∉ ports → buffer.startOffsets port = 0
  startsWithin : ∀ port, (buffer.startOffsets port).toNat + (portBucket port refs).length ≤ refs.length

theorem new_represents : Represents LocalityBuffer.new [] [] where
  inputs := FixedArray.holds_nil _
  size := rfl
  room := Nat.zero_le _
  counted _ := rfl
  listed := FixedArray.holds_nil _
  listedCount := rfl
  distinct := List.nodup_nil
  covers port := by simp
  startsIdle _ _ := rfl
  startsWithin _ := Nat.le_refl _

theorem ports_room (buffer : LocalityBuffer) (refs : List PacketRef) (ports : List UInt16)
    (rep : Represents buffer refs ports) : ports.length ≤ refs.length :=
  keys_length_le PacketRef.portKey ports refs rep.distinct (fun port member => (rep.covers port).mp member)

structure Cleared (buffer : LocalityBuffer) (done : List UInt16) (state : LocalityBuffer) : Prop where
  listed : state.activeBuckets = buffer.activeBuckets
  counts : ∀ port, state.counts port = if port ∈ done then 0 else buffer.counts port
  starts : ∀ port, state.startOffsets port = if port ∈ done then 0 else buffer.startOffsets port

theorem clear_bucket_safe (buffer state : LocalityBuffer) (ports : List UInt16) (i : Nat)
    (listed : buffer.activeBuckets.Holds ports) (inside : i < ports.length)
    (cleared : Cleared buffer (ports.take i) state) :
    Safe (clearBucket state i) (Cleared buffer (ports.take (i + 1))) := by
  rw [clearBucket, cleared.listed, listed i inside, ok_bind]
  refine safe_ok ⟨rfl, ?_, ?_⟩
  · intro port
    by_cases same : port = ports[i]
    · simp only [mem_take_succ ports i inside, same, Function.update_self, or_true, if_true]
    · simp only [mem_take_succ ports i inside, same, or_false, Function.update_of_ne same]
      exact cleared.counts port
  · intro port
    by_cases same : port = ports[i]
    · simp only [mem_take_succ ports i inside, same, Function.update_self, or_true, if_true]
    · simp only [mem_take_succ ports i inside, same, or_false, Function.update_of_ne same]
      exact cleared.starts port

theorem clear_safe (buffer : LocalityBuffer) (refs : List PacketRef) (ports : List UInt16)
    (rep : Represents buffer refs ports) : Safe (clear buffer) (fun result => Represents result [] []) := by
  have loop := range_loop_safe clearBucket (fun i => Cleared buffer (ports.take i)) ports.length buffer
    ⟨rfl, by simp, by simp⟩
    (fun i state inside => clear_bucket_safe buffer state ports i rep.listed inside)
  rw [clear, rep.listedCount]
  refine safe_bind loop ?_
  intro state cleared
  rw [List.take_length] at cleared
  refine safe_ok ⟨FixedArray.holds_nil _, rfl, Nat.zero_le _, ?_, FixedArray.holds_nil _, rfl,
    List.nodup_nil, by simp, ?_, ?_⟩
  · intro port
    by_cases member : port ∈ ports
    · simp [cleared.counts port, member]
      rfl
    · have none := bucket_empty PacketRef.portKey port refs (fun used => member ((rep.covers port).mpr used))
      have counted := rep.counted port
      rw [portBucket, none] at counted
      simp only [cleared.counts port, member, if_false]
      exact counted
  · intro port _
    by_cases member : port ∈ ports
    · simp [cleared.starts port, member]
    · simp [cleared.starts port, member, rep.startsIdle port member]
  · intro port
    by_cases member : port ∈ ports
    · simp [cleared.starts port, member, portBucket, bucket]
    · simp [cleared.starts port, member, rep.startsIdle port member, portBucket, bucket]

theorem counts_zero (buffer : LocalityBuffer) (refs : List PacketRef) (ports : List UInt16)
    (rep : Represents buffer refs ports) (port : UInt16) : buffer.counts port = 0 ↔ port ∉ ports := by
  have counted := rep.counted port
  rw [rep.covers port, ← UInt16.toNat_inj, counted]
  simp [portBucket, bucket]

def addPort (ports : List UInt16) (port : UInt16) : List UInt16 :=
  if port ∈ ports then ports else ports ++ [port]

theorem track_port_safe (buffer : LocalityBuffer) (ports : List UInt16) (port : UInt16)
    (listed : buffer.activeBuckets.Holds ports) (listedCount : buffer.activeCount = ports.length)
    (room : ports.length < maxActiveBuckets) (known : buffer.counts port = 0 ↔ port ∉ ports) :
    Safe (trackPort buffer port) (fun result => ∃ activeBuckets, activeBuckets.Holds (addPort ports port) ∧
      result = { buffer with activeBuckets := activeBuckets, activeCount := (addPort ports port).length }) := by
  have bounded : ports.length + 1 ≤ usizeMax := usize_small (by unfold maxActiveBuckets at room; omega)
  rw [trackPort, addPort]
  by_cases member : port ∈ ports
  · rw [if_neg (fun zero => known.mp zero member), if_pos member]
    exact safe_ok ⟨buffer.activeBuckets, listed, by rw [← listedCount]⟩
  · rw [if_pos (known.mpr member), if_neg member, listedCount, if_pos room,
      FixedArray.set_ok _ _ _ room, ok_bind, add_ok bounded, ok_bind]
    exact safe_ok ⟨_, FixedArray.holds_append _ ports port room listed, by simp⟩

theorem add_port_distinct (ports : List UInt16) (port : UInt16) (distinct : ports.Nodup) :
    (addPort ports port).Nodup := by
  unfold addPort
  split
  · exact distinct
  · rename_i fresh
    exact List.nodup_append.mpr ⟨distinct, List.nodup_singleton port, by
      rintro a member b single rfl
      exact fresh (by simpa using List.mem_singleton.mp single ▸ member)⟩

theorem mem_add_port (ports : List UInt16) (port other : UInt16) :
    other ∈ addPort ports port ↔ other ∈ ports ∨ other = port := by
  unfold addPort
  split
  · rename_i member
    constructor
    · exact .inl
    · rintro (inside | rfl)
      · exact inside
      · exact member
  · simp

theorem add_packet_full (buffer : LocalityBuffer) (refs : List PacketRef) (ports : List UInt16)
    (pktRef : PacketRef) (rep : Represents buffer refs ports) (full : refs.length = maxBatchSize) :
    addPacket buffer pktRef = .ok (buffer, .error "Locality buffer batch size exceeded") := by
  have atLimit : buffer.currentSize ≥ maxBatchSize := Nat.le_of_eq (rep.size.trans full).symm
  rw [addPacket, if_pos atLimit]
  rfl

theorem bucket_added (port : UInt16) (refs : List PacketRef) (pktRef : PacketRef) :
    (portBucket port (refs ++ [pktRef])).length =
      (portBucket port refs).length + if port = pktRef.portKey then 1 else 0 := by
  by_cases same : port = pktRef.portKey
  · subst same
    rw [portBucket, bucket_concat_same, List.length_append, if_pos rfl]
    rfl
  · rw [portBucket, bucket_concat_other _ _ _ _ (Ne.symm same), if_neg same]
    rfl

theorem added_represents (buffer : LocalityBuffer) (refs : List PacketRef) (ports : List UInt16)
    (pktRef : PacketRef) (activeBuckets : FixedArray maxActiveBuckets UInt16) (count : UInt16)
    (rep : Represents buffer refs ports) (free : refs.length < maxBatchSize)
    (listed : activeBuckets.Holds (addPort ports pktRef.portKey))
    (counted : count.toNat = (portBucket pktRef.portKey refs).length + 1) :
    Represents { buffer with
      inputRefs := Function.update buffer.inputRefs ⟨refs.length, free⟩ pktRef
      counts := Function.update buffer.counts pktRef.portKey count
      activeBuckets := activeBuckets
      activeCount := (addPort ports pktRef.portKey).length
      currentSize := refs.length + 1 } (refs ++ [pktRef]) (addPort ports pktRef.portKey) where
  inputs := FixedArray.holds_append _ refs pktRef free rep.inputs
  size := by rw [List.length_append, List.length_singleton]
  room := by
    rw [List.length_append, List.length_singleton]
    omega
  counted port := by
    rw [bucket_added]
    by_cases same : port = pktRef.portKey
    · subst same
      rw [if_pos rfl]
      simpa using counted
    · rw [if_neg same]
      simpa [Function.update_of_ne same] using rep.counted port
  listed := listed
  listedCount := rfl
  distinct := add_port_distinct ports _ rep.distinct
  covers port := by
    rw [mem_add_port, rep.covers port]
    simp only [List.mem_append, List.mem_singleton]
    constructor
    · rintro (⟨ref, member, same⟩ | same)
      · exact ⟨ref, .inl member, same⟩
      · exact ⟨pktRef, .inr rfl, same.symm⟩
    · rintro ⟨ref, member | rfl, same⟩
      · exact .inl ⟨ref, member, same⟩
      · exact .inr same.symm
  startsIdle port absent := by
    rw [mem_add_port] at absent
    exact rep.startsIdle port (fun member => absent (.inl member))
  startsWithin port := by
    have within := rep.startsWithin port
    rw [bucket_added, List.length_append, List.length_singleton]
    dsimp only
    split <;> omega

theorem add_packet_safe (buffer : LocalityBuffer) (refs : List PacketRef) (ports : List UInt16)
    (pktRef : PacketRef) (rep : Represents buffer refs ports) (free : refs.length < maxBatchSize) :
    Safe (addPacket buffer pktRef) (fun result => result.2 = .ok () ∧
      Represents result.1 (refs ++ [pktRef]) (addPort ports pktRef.portKey)) := by
  have portsRoom := ports_room buffer refs ports rep
  have small : refs.length + 1 ≤ usizeMax := usize_small (by unfold maxBatchSize at free; omega)
  have bucketSmall : (portBucket pktRef.portKey refs).length ≤ refs.length := List.length_filter_le _ _
  rw [addPacket, if_neg (by rw [rep.size]; omega), rep.size, FixedArray.set_ok _ _ _ free, ok_bind]
  refine safe_bind (track_port_safe _ ports pktRef.portKey rep.listed rep.listedCount
    (Nat.lt_of_le_of_lt portsRoom free) (counts_zero buffer refs ports rep pktRef.portKey)) ?_
  rintro tracked ⟨activeBuckets, listed, rfl⟩
  dsimp only
  refine safe_bind (add_u16_ok _ _ ((portBucket pktRef.portKey refs).length + 1) ?_ ?_) ?_
  · rw [rep.counted]
    rfl
  · unfold maxBatchSize at free
    omega
  · intro count counted
    rw [add_ok small, ok_bind]
    exact safe_ok ⟨rfl, added_represents buffer refs ports pktRef activeBuckets count rep free listed counted⟩

structure Layout (refs : List PacketRef) (ports : List UInt16) (starts : PortTable) (bound : Nat) : Prop where
  within : ∀ port ∈ ports, (starts port).toNat + (portBucket port refs).length ≤ bound
  separated : ∀ port ∈ ports, ∀ other ∈ ports, port ≠ other →
    (starts port).toNat + (portBucket port refs).length ≤ (starts other).toNat ∨
      (starts other).toNat + (portBucket other refs).length ≤ (starts port).toNat

theorem layout_extend (refs : List PacketRef) (ports next : List UInt16) (starts : PortTable) (port : UInt16)
    (sum : UInt16) (layout : Layout refs ports starts sum.toNat) (fresh : port ∉ ports)
    (extended : ∀ other, other ∈ next ↔ other ∈ ports ∨ other = port) :
    Layout refs next (Function.update starts port sum) (sum.toNat + (portBucket port refs).length) where
  within other member := by
    by_cases same : other = port
    · subst same
      have here : Function.update starts other sum other = sum := Function.update_self other sum starts
      exact Nat.le_of_eq (by rw [here])
    · rw [Function.update_of_ne same]
      have inside := layout.within other (((extended other).mp member).resolve_right same)
      omega
  separated first firstMember second secondMember distinct := by
    by_cases firstNew : first = port
    · subst firstNew
      have inside := layout.within second (((extended second).mp secondMember).resolve_right (Ne.symm distinct))
      rw [Function.update_self, Function.update_of_ne (Ne.symm distinct)]
      exact .inr inside
    · by_cases secondNew : second = port
      · subst secondNew
        have inside := layout.within first (((extended first).mp firstMember).resolve_right firstNew)
        rw [Function.update_self, Function.update_of_ne firstNew]
        exact .inl inside
      · rw [Function.update_of_ne firstNew, Function.update_of_ne secondNew]
        exact layout.separated first (((extended first).mp firstMember).resolve_right firstNew) second
          (((extended second).mp secondMember).resolve_right secondNew) distinct

structure Started (buffer : LocalityBuffer) (refs : List PacketRef) (done : List UInt16)
    (state : LocalityBuffer × UInt16) : Prop where
  frame : ∃ offsets starts, state.1 = { buffer with offsets := offsets, startOffsets := starts }
  sum : state.2.toNat = (grouped PacketRef.portKey done refs).length
  layout : Layout refs done state.1.startOffsets state.2.toNat
  offsets : ∀ port ∈ done, state.1.offsets port = state.1.startOffsets port
  others : ∀ port, port ∉ done → state.1.startOffsets port = buffer.startOffsets port

theorem grouped_take_succ (refs : List PacketRef) (ports : List UInt16) (i : Nat) (inside : i < ports.length) :
    (grouped PacketRef.portKey (ports.take (i + 1)) refs).length =
      (grouped PacketRef.portKey (ports.take i) refs).length + (portBucket ports[i] refs).length := by
  rw [List.take_succ_eq_append_getElem inside, grouped, List.flatMap_append, List.length_append]
  simp [grouped, portBucket]

theorem start_bucket_safe (buffer : LocalityBuffer) (refs : List PacketRef) (ports : List UInt16) (i : Nat)
    (state : LocalityBuffer × UInt16) (rep : Represents buffer refs ports) (inside : i < ports.length)
    (started : Started buffer refs (ports.take i) state) :
    Safe (startBucket state i) (Started buffer refs (ports.take (i + 1))) := by
  obtain ⟨current, sum⟩ := state
  obtain ⟨⟨offsets, starts, rfl⟩, sumEq, layout, same, others⟩ := started
  dsimp only at sumEq layout same others
  have taken := grouped_take_succ refs ports i inside
  have bounded := grouped_length_le PacketRef.portKey (ports.take (i + 1)) refs
    (rep.distinct.sublist (List.take_sublist _ _))
  have room := rep.room
  have fresh := not_mem_take ports rep.distinct i inside
  have extended := mem_take_succ ports i inside
  rw [startBucket]
  dsimp only
  rw [rep.listed i inside, ok_bind]
  refine safe_bind (add_u16_ok _ _ (grouped PacketRef.portKey (ports.take (i + 1)) refs).length ?_ ?_) ?_
  · rw [rep.counted, sumEq, taken]
  · unfold maxBatchSize at room
    omega
  · intro next nextEq
    have wide := layout_extend refs (ports.take i) (ports.take (i + 1)) starts ports[i] sum layout fresh extended
    refine safe_ok ⟨⟨_, _, rfl⟩, nextEq, ?_, ?_, ?_⟩
    · rw [sumEq, ← taken, ← nextEq] at wide
      exact wide
    · intro port member
      by_cases new : port = ports[i]
      · subst new
        simp only [Function.update_self]
      · simp only [Function.update_of_ne new]
        exact same port (((extended port).mp member).resolve_right new)
    · intro port absent
      rw [extended] at absent
      have old : port ≠ ports[i] := fun eq => absent (.inr eq)
      simp only [Function.update_of_ne old]
      exact others port (fun member => absent (.inl member))

-- The first packets of the batch are in their places: bucket by bucket, in order.
structure Placed (started : LocalityBuffer) (refs : List PacketRef) (ports : List UInt16) (i : Nat)
    (state : LocalityBuffer) : Prop where
  frame : ∃ sortedRefs offsets, state = { started with sortedRefs := sortedRefs, offsets := offsets }
  next : ∀ port ∈ ports, (state.offsets port).toNat =
    (started.startOffsets port).toNat + (portBucket port (refs.take i)).length
  stored : ∀ port ∈ ports, ∀ k (inside : k < (portBucket port (refs.take i)).length),
    state.sortedRefs.get ((started.startOffsets port).toNat + k) = .ok (portBucket port (refs.take i))[k]

theorem take_bucket_length (port : UInt16) (refs : List PacketRef) (i : Nat) (inside : i < refs.length) :
    (portBucket port (refs.take (i + 1))).length =
      (portBucket port (refs.take i)).length + if port = refs[i].portKey then 1 else 0 := by
  rw [List.take_succ_eq_append_getElem inside, bucket_added]

theorem take_bucket_own (refs : List PacketRef) (i : Nat) (inside : i < refs.length) :
    portBucket refs[i].portKey (refs.take (i + 1)) = portBucket refs[i].portKey (refs.take i) ++ [refs[i]] := by
  rw [List.take_succ_eq_append_getElem inside]
  exact bucket_concat_same PacketRef.portKey (refs.take i) refs[i]

theorem take_bucket_other (port : UInt16) (refs : List PacketRef) (i : Nat) (inside : i < refs.length)
    (other : port ≠ refs[i].portKey) : portBucket port (refs.take (i + 1)) = portBucket port (refs.take i) := by
  rw [List.take_succ_eq_append_getElem inside]
  exact bucket_concat_other PacketRef.portKey port (refs.take i) refs[i] (Ne.symm other)

theorem placed_room (started state : LocalityBuffer) (refs : List PacketRef) (ports : List UInt16) (i : Nat)
    (inside : i < refs.length) (covers : ∀ pktRef ∈ refs, pktRef.portKey ∈ ports)
    (layout : Layout refs ports started.startOffsets refs.length)
    (placed : Placed started refs ports i state) :
    (state.offsets refs[i].portKey).toNat < refs.length := by
  have member := covers refs[i] (List.getElem_mem inside)
  have within := layout.within _ member
  have grown := take_bucket_length refs[i].portKey refs i inside
  have taken := bucket_take_length PacketRef.portKey refs[i].portKey refs (i + 1)
  rw [placed.next _ member]
  rw [if_pos rfl] at grown
  simp only [portBucket] at *
  omega

theorem placed_elsewhere (started state : LocalityBuffer) (refs : List PacketRef) (ports : List UInt16) (i : Nat)
    (inside : i < refs.length) (covers : ∀ pktRef ∈ refs, pktRef.portKey ∈ ports)
    (layout : Layout refs ports started.startOffsets refs.length) (placed : Placed started refs ports i state)
    (port : UInt16) (portMember : port ∈ ports) (other : port ≠ refs[i].portKey) (k : Nat)
    (bound : k < (portBucket port (refs.take i)).length) :
    (started.startOffsets port).toNat + k ≠ (state.offsets refs[i].portKey).toNat := by
  have member := covers refs[i] (List.getElem_mem inside)
  have apart := layout.separated port portMember refs[i].portKey member other
  have ownGrown := take_bucket_length refs[i].portKey refs i inside
  have ownTaken := bucket_take_length PacketRef.portKey refs[i].portKey refs (i + 1)
  have otherTaken := bucket_take_length PacketRef.portKey port refs i
  rw [if_pos rfl] at ownGrown
  rw [placed.next _ member]
  simp only [portBucket] at *
  omega

theorem place_packet_safe (started state : LocalityBuffer) (refs : List PacketRef) (ports : List UInt16) (i : Nat)
    (inputs : started.inputRefs.Holds refs) (room : refs.length ≤ maxBatchSize) (inside : i < refs.length)
    (covers : ∀ pktRef ∈ refs, pktRef.portKey ∈ ports)
    (layout : Layout refs ports started.startOffsets refs.length)
    (placed : Placed started refs ports i state) :
    Safe (placePacket state i) (Placed started refs ports (i + 1)) := by
  have free := placed_room started state refs ports i inside covers layout placed
  have elsewhere := placed_elsewhere started state refs ports i inside covers layout placed
  have member := covers refs[i] (List.getElem_mem inside)
  have grown := fun port => take_bucket_length port refs i inside
  obtain ⟨⟨sortedRefs, offsets, rfl⟩, next, stored⟩ := placed
  dsimp only at free elsewhere next stored
  have destRoom : (offsets refs[i].portKey).toNat < maxBatchSize := by omega
  rw [placePacket]
  dsimp only
  rw [inputs i inside, ok_bind, if_pos destRoom, FixedArray.set_ok _ _ _ destRoom, ok_bind]
  refine safe_bind (add_u16_ok _ 1 ((offsets refs[i].portKey).toNat + 1) rfl ?_) ?_
  · unfold maxBatchSize at destRoom
    omega
  · intro offset offsetEq
    refine safe_ok ⟨⟨_, _, rfl⟩, ?_, ?_⟩
    · intro port portMember
      dsimp only
      rw [grown port]
      by_cases same : port = refs[i].portKey
      · rw [if_pos same, same, Function.update_self, offsetEq, next _ member]
        omega
      · rw [if_neg same, Function.update_of_ne same]
        exact next port portMember
    · intro port portMember k bound
      dsimp only
      by_cases same : port = refs[i].portKey
      · subst same
        simp only [take_bucket_own refs i inside] at bound ⊢
        by_cases last : k = (portBucket refs[i].portKey (refs.take i)).length
        · subst last
          rw [← next _ member, FixedArray.get_update_same, List.getElem_concat_length rfl]
        · have earlier : k < (portBucket refs[i].portKey (refs.take i)).length := by
            simp only [List.length_append, List.length_singleton] at bound
            omega
          have place := next _ member
          rw [FixedArray.get_update_other _ _ _ _ destRoom (by omega), stored _ member k earlier,
            List.getElem_append_left earlier]
      · simp only [take_bucket_other port refs i inside same] at bound ⊢
        rw [FixedArray.get_update_other _ _ _ _ destRoom (elsewhere port portMember same k bound)]
        exact stored port portMember k bound

theorem start_loop_safe (buffer : LocalityBuffer) (refs : List PacketRef) (ports : List UInt16)
    (rep : Represents buffer refs ports) :
    Safe ((List.range buffer.activeCount).foldlM startBucket (buffer, 0)) (Started buffer refs ports) := by
  have loop := range_loop_safe startBucket (fun i => Started buffer refs (ports.take i)) ports.length (buffer, 0)
    ⟨⟨buffer.offsets, buffer.startOffsets, rfl⟩, rfl, ⟨by simp, by simp⟩, by simp, by simp⟩
    (fun i state inside => start_bucket_safe buffer refs ports i state rep inside)
  rw [List.take_length] at loop
  rw [rep.listedCount]
  exact loop

theorem started_layout (buffer : LocalityBuffer) (refs : List PacketRef) (ports : List UInt16)
    (state : LocalityBuffer × UInt16) (distinct : ports.Nodup) (started : Started buffer refs ports state) :
    Layout refs ports state.1.startOffsets refs.length := by
  have bounded := grouped_length_le PacketRef.portKey ports refs distinct
  have sum := started.sum
  refine ⟨?_, started.layout.separated⟩
  intro port member
  have within := started.layout.within port member
  omega

theorem place_loop_safe (buffer : LocalityBuffer) (refs : List PacketRef) (ports : List UInt16)
    (state : LocalityBuffer × UInt16) (rep : Represents buffer refs ports)
    (started : Started buffer refs ports state) (rounds : Nat) (inside : rounds ≤ refs.length) :
    Safe ((List.range rounds).foldlM placePacket state.1) (Placed state.1 refs ports rounds) := by
  have layout := started_layout buffer refs ports state rep.distinct started
  have covers : ∀ pktRef ∈ refs, pktRef.portKey ∈ ports :=
    fun pktRef member => (rep.covers pktRef.portKey).mpr ⟨pktRef, member, rfl⟩
  obtain ⟨⟨offsets, starts, frame⟩, _, _, initial, _⟩ := started
  have inputs : state.1.inputRefs.Holds refs := by
    rw [frame]
    exact rep.inputs
  refine range_loop_safe placePacket (Placed state.1 refs ports) rounds state.1 ?_ ?_
  · refine ⟨⟨state.1.sortedRefs, state.1.offsets, rfl⟩, ?_, ?_⟩
    · intro port member
      rw [initial port member]
      rfl
    · intro port _ k bound
      simp [portBucket, bucket] at bound
  · intro i current bound placed
    exact place_packet_safe state.1 current refs ports i inputs rep.room (by omega) covers layout placed

def Sorted (buffer : LocalityBuffer) (refs : List PacketRef) : Prop :=
  ∀ port k (inside : k < (portBucket port refs).length),
    buffer.sortedRefs.get ((buffer.startOffsets port).toNat + k) = .ok (portBucket port refs)[k]

theorem group_packets_safe (buffer : LocalityBuffer) (refs : List PacketRef) (ports : List UInt16)
    (rep : Represents buffer refs ports) :
    Safe (groupPackets buffer) (fun result => Represents result refs ports ∧ Sorted result refs) := by
  rw [groupPackets]
  by_cases empty : buffer.currentSize = 0
  · rw [if_pos empty]
    rw [rep.size] at empty
    have none := List.eq_nil_of_length_eq_zero empty
    refine safe_ok ⟨rep, ?_⟩
    intro port k inside
    simp [none, portBucket, bucket] at inside
  · rw [if_neg empty, rep.size]
    refine safe_bind (start_loop_safe buffer refs ports rep) ?_
    intro state started
    have layout := started_layout buffer refs ports state rep.distinct started
    refine safe_mono (place_loop_safe buffer refs ports state rep started refs.length (Nat.le_refl _)) ?_
    rintro result ⟨⟨sortedRefs, placedOffsets, rfl⟩, _, stored⟩
    obtain ⟨⟨offsets, starts, frame⟩, _, _, _, others⟩ := started
    rw [List.take_length] at stored
    have idle : ∀ port, port ∉ ports → state.1.startOffsets port = 0 :=
      fun port absent => (others port absent).trans (rep.startsIdle port absent)
    have unused : ∀ port, port ∉ ports → portBucket port refs = [] :=
      fun port absent => bucket_empty PacketRef.portKey port refs (fun used => absent ((rep.covers port).mpr used))
    have starts : ∀ port, (state.1.startOffsets port).toNat + (portBucket port refs).length ≤ refs.length := by
      intro port
      by_cases member : port ∈ ports
      · exact layout.within port member
      · rw [idle port member, unused port member]
        exact Nat.zero_le _
    have sorted : Sorted { state.1 with sortedRefs := sortedRefs, offsets := placedOffsets } refs := by
      intro port k inside
      by_cases member : port ∈ ports
      · exact stored port member k inside
      · simp [unused port member] at inside
    refine ⟨?_, sorted⟩
    rw [frame] at idle starts ⊢
    exact ⟨rep.inputs, rep.size, rep.room, rep.counted, rep.listed, rep.listedCount, rep.distinct, rep.covers,
      idle, starts⟩

theorem bucket_slice_ok (buffer : LocalityBuffer) (refs : List PacketRef) (ports : List UInt16) (port : UInt16)
    (rep : Represents buffer refs ports) (sorted : Sorted buffer refs) :
    getBucketSlice buffer port = .ok (portBucket port refs) := by
  have within := rep.startsWithin port
  have room := rep.room
  have small : (buffer.startOffsets port).toNat + (buffer.counts port).toNat ≤ usizeMax := by
    rw [rep.counted]
    unfold usizeMax
    unfold maxBatchSize at room
    omega
  rw [getBucketSlice, add_ok small, ok_bind, rep.counted, rep.size, if_pos within]
  exact FixedArray.slice_ok buffer.sortedRefs (portBucket port refs) _ (by omega) (sorted port)

theorem active_ports_ok (buffer : LocalityBuffer) (refs : List PacketRef) (ports : List UInt16)
    (rep : Represents buffer refs ports) : activePorts buffer = .ok ports := by
  have portsRoom := ports_room buffer refs ports rep
  have room := rep.room
  have fits : 0 + ports.length ≤ maxActiveBuckets := by
    unfold maxActiveBuckets
    unfold maxBatchSize at room
    omega
  rw [activePorts, rep.listedCount]
  have slice := FixedArray.slice_ok buffer.activeBuckets ports 0 fits
    (fun i inside => by rw [Nat.zero_add]; exact rep.listed i inside)
  rwa [Nat.zero_add] at slice

theorem step_represents (buffer : LocalityBuffer) (refs : List PacketRef) (ports : List UInt16) (op : Op)
    (rep : Represents buffer refs ports) :
    Safe (step buffer op) (fun result => ∃ next, Represents result (acceptStep refs op) next) := by
  cases op with
  | clear => exact safe_mono (clear_safe buffer refs ports rep) fun result empty => ⟨[], empty⟩
  | addPacket pktRef =>
      rw [step, acceptStep]
      by_cases free : refs.length < maxBatchSize
      · rw [if_pos free]
        exact safe_bind (add_packet_safe buffer refs ports pktRef rep free)
          fun result added => safe_ok ⟨_, added.2⟩
      · rw [if_neg free, add_packet_full buffer refs ports pktRef rep (Nat.le_antisymm rep.room (by omega))]
        exact safe_ok ⟨ports, rep⟩
  | groupPackets => exact safe_mono (group_packets_safe buffer refs ports rep) fun result grouped => ⟨ports, grouped.1⟩

theorem run_represents (ops : List Op) :
    Safe (run ops) (fun buffer => ∃ ports, Represents buffer (accepted ops) ports) := by
  induction ops using List.reverseRecOn with
  | nil => exact safe_ok ⟨[], new_represents⟩
  | append_singleton ops op ih =>
      rw [run, accepted, List.foldlM_append, List.foldl_append]
      refine safe_bind ih ?_
      rintro buffer ⟨ports, rep⟩
      simp only [List.foldlM_cons, List.foldlM_nil, bind_pure, List.foldl_cons, List.foldl_nil]
      exact step_represents buffer (accepted ops) ports op rep

structure StablePartition (buffer : LocalityBuffer) (refs : List PacketRef) (ports : List UInt16) : Prop where
  active : activePorts buffer = .ok ports
  distinct : ports.Nodup
  covers : ∀ port, port ∈ ports ↔ ∃ pktRef ∈ refs, pktRef.portKey = port
  slices : ∀ port, getBucketSlice buffer port = .ok (refs.filter fun pktRef => pktRef.portKey = port)
  lossless : ∃ slices, ports.mapM (getBucketSlice buffer) = .ok slices ∧ slices.flatten.Perm refs

-- The three guards whose other branch would lose a packet without a word.
structure GuardsPass (buffer : LocalityBuffer) : Prop where
  active : ∀ port, buffer.currentSize < maxBatchSize → buffer.counts port = 0 →
    buffer.activeCount < maxActiveBuckets
  dest : ∃ started sum, (List.range buffer.activeCount).foldlM startBucket (buffer, 0) = .ok (started, sum) ∧
    ∀ i < buffer.currentSize, ∃ state pktRef, (List.range i).foldlM placePacket started = .ok state ∧
      state.inputRefs.get i = .ok pktRef ∧ (state.offsets pktRef.portKey).toNat < maxBatchSize
  slice : ∀ port, (buffer.startOffsets port).toNat + (buffer.counts port).toNat ≤ buffer.currentSize

structure AddOutcome (buffer : LocalityBuffer) (refs : List PacketRef) (pktRef : PacketRef) : Prop where
  full : refs.length = maxBatchSize →
    addPacket buffer pktRef = .ok (buffer, .error "Locality buffer batch size exceeded")
  free : refs.length ≠ maxBatchSize → ∃ next, addPacket buffer pktRef = .ok (next, .ok ())

theorem slices_ok (buffer : LocalityBuffer) (refs : List PacketRef) (ports : List UInt16)
    (slices : ∀ port, getBucketSlice buffer port = .ok (portBucket port refs)) :
    ports.mapM (getBucketSlice buffer) = .ok (ports.map fun port => portBucket port refs) := by
  induction ports with
  | nil => rfl
  | cons port ports ih => rw [List.mapM_cons, slices port, ok_bind, ih, ok_bind, List.map_cons]; rfl

theorem grouped_partition (buffer : LocalityBuffer) (refs : List PacketRef) (ports : List UInt16)
    (rep : Represents buffer refs ports) (sorted : Sorted buffer refs) : StablePartition buffer refs ports where
  active := active_ports_ok buffer refs ports rep
  distinct := rep.distinct
  covers := rep.covers
  slices port := bucket_slice_ok buffer refs ports port rep sorted
  lossless := by
    refine ⟨_, slices_ok buffer refs ports (fun port => bucket_slice_ok buffer refs ports port rep sorted), ?_⟩
    rw [← List.flatMap_def]
    exact grouped_perm PacketRef.portKey ports refs rep.distinct
      (fun pktRef member => (rep.covers pktRef.portKey).mpr ⟨pktRef, member, rfl⟩)

theorem guards_pass (buffer : LocalityBuffer) (refs : List PacketRef) (ports : List UInt16)
    (rep : Represents buffer refs ports) : GuardsPass buffer where
  active port free _ := by
    have portsRoom := ports_room buffer refs ports rep
    rw [rep.size] at free
    rw [rep.listedCount]
    exact Nat.lt_of_le_of_lt portsRoom free
  dest := by
    obtain ⟨⟨started, sum⟩, result, start⟩ := start_loop_safe buffer refs ports rep
    refine ⟨started, sum, result, ?_⟩
    intro i inside
    rw [rep.size] at inside
    have layout := started_layout buffer refs ports (started, sum) rep.distinct start
    have covers : ∀ pktRef ∈ refs, pktRef.portKey ∈ ports :=
      fun pktRef member => (rep.covers pktRef.portKey).mpr ⟨pktRef, member, rfl⟩
    obtain ⟨state, reached, placed⟩ := place_loop_safe buffer refs ports (started, sum) rep start i (by omega)
    have free := placed_room started state refs ports i inside covers layout placed
    refine ⟨state, refs[i], reached, ?_, Nat.lt_of_lt_of_le free rep.room⟩
    obtain ⟨⟨sortedRefs, offsets, rfl⟩, _⟩ := placed
    obtain ⟨⟨startedOffsets, starts, frame⟩, _⟩ := start
    dsimp only at frame ⊢
    rw [frame]
    exact rep.inputs i inside
  slice port := by
    rw [rep.counted, rep.size]
    exact rep.startsWithin port

theorem add_outcome (buffer : LocalityBuffer) (refs : List PacketRef) (ports : List UInt16) (pktRef : PacketRef)
    (rep : Represents buffer refs ports) : AddOutcome buffer refs pktRef where
  full := add_packet_full buffer refs ports pktRef rep
  free notFull := by
    have room := rep.room
    obtain ⟨⟨next, outcome⟩, result, success, _⟩ := add_packet_safe buffer refs ports pktRef rep (by omega)
    dsimp only at success
    subst success
    exact ⟨next, result⟩

theorem grouping_is_lossless (ops : List Op) :
    ∃ buffer, run ops = .ok buffer ∧
      (∃ result ports, groupPackets buffer = .ok result ∧ StablePartition result (accepted ops) ports) ∧
      (∀ pktRef, AddOutcome buffer (accepted ops) pktRef) ∧ GuardsPass buffer := by
  obtain ⟨buffer, reached, ports, rep⟩ := run_represents ops
  obtain ⟨result, finished, after, sorted⟩ := group_packets_safe buffer (accepted ops) ports rep
  exact ⟨buffer, reached, ⟨result, ports, finished, grouped_partition result (accepted ops) ports after sorted⟩,
    fun pktRef => add_outcome buffer (accepted ops) ports pktRef rep,
    guards_pass buffer (accepted ops) ports rep⟩

end NetworkIds.Locality
