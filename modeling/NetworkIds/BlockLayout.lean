import NetworkIds.Capture
import NetworkIds.Lib.Placement
import NetworkIds.RingProtocol

set_option autoImplicit false

namespace NetworkIds.Capture

open Endian Grouping Placement NetworkIds.Engine NetworkIds.Locality NetworkIds.Parser NetworkIds.RingProtocol

-- How the kernel lays out a block for the reader.

-- A frame behind its tpacket3_hdr of 48 bytes. The header ends with tp_net, hv1 and
-- tp_padding, which nothing reads. tp_mac leads over a gap to the frame.
structure StoredFrame where
  sec : UInt32
  nsec : UInt32
  len : UInt32
  status : UInt32
  unread : Octets 22
  gap : Bytes
  data : Bytes
  padding : Bytes
  macFits : 48 + gap.length < UInt16.size
  sizeFits : 48 + gap.length + data.length + padding.length < UInt32.size

def StoredFrame.size (stored : StoredFrame) : Nat :=
  48 + stored.gap.length + stored.data.length + stored.padding.length

def StoredFrame.encode (next : UInt32) (stored : StoredFrame) : Bytes :=
  Endian.u32ToLe next ++ (Endian.u32ToLe stored.sec ++ (Endian.u32ToLe stored.nsec ++
    (Endian.u32ToLe (UInt32.ofNat stored.data.length) ++ (Endian.u32ToLe stored.len ++
      (Endian.u32ToLe stored.status ++ (u16ToLe (UInt16.ofNat (48 + stored.gap.length)) ++
        (stored.unread.val ++ (stored.gap ++ (stored.data ++ stored.padding)))))))))

-- Each header leads to the next one, the last one to wherever it says.
def encodeFrames (last : UInt32) : List StoredFrame → Bytes
  | [] => []
  | stored :: rest =>
      stored.encode (if rest.isEmpty then last else UInt32.ofNat stored.size) ++ encodeFrames last rest

-- A block behind its tpacket_block_desc of 48 bytes: version and offset_to_priv, the
-- status, the number of packets, the offset of the first one, and what nothing reads.
structure StoredBlock where
  front : Octets 8
  flags : UInt32
  unread : Octets 28
  gap : Bytes
  frames : List StoredFrame
  last : UInt32
  offsetFits : 48 + gap.length < UInt32.size
  countFits : frames.length < UInt32.size

def StoredBlock.encode (block : StoredBlock) : Bytes :=
  block.front.val ++ (Endian.u32ToLe (tpStatusUser ||| block.flags) ++
    (Endian.u32ToLe (UInt32.ofNat block.frames.length) ++ (Endian.u32ToLe (UInt32.ofNat (48 + block.gap.length)) ++
      (block.unread.val ++ (block.gap ++ encodeFrames block.last block.frames)))))

theorem u16_to_le_length (value : UInt16) : (u16ToLe value).length = 2 := rfl

theorem u32_to_le_length (value : UInt32) : (Endian.u32ToLe value).length = 4 := rfl

theorem stored_data_fits (stored : StoredFrame) : stored.data.length ≤ Checked.isizeMax := by
  have small := stored.sizeFits
  unfold UInt32.size at small
  unfold Checked.isizeMax
  omega

def StoredFrame.frame (stored : StoredFrame) : Frame :=
  ⟨⟨stored.data, stored_data_fits stored⟩, stored.sec, stored.nsec⟩

section Read

variable {memory : Memory} {address : Nat}

theorem read_u16_holds (value : UInt16) (holds : Holds memory address (u16ToLe value)) :
    readU16 memory address = value := by
  have low : memory address = UInt8.ofNat value.toNat := holds 0 _ rfl
  have high : memory (address + 1) = UInt8.ofNat (value.toNat / 256) := holds 1 _ rfl
  rw [readU16, low, high]
  exact u16_round_trip value

theorem read_u32_holds (value : UInt32) (holds : Holds memory address (Endian.u32ToLe value)) :
    readU32 memory address = value := by
  have first : memory address = UInt8.ofNat value.toNat := holds 0 _ rfl
  have second : memory (address + 1) = UInt8.ofNat (value.toNat / 256) := holds 1 _ rfl
  have third : memory (address + 2) = UInt8.ofNat (value.toNat / 2 ^ 16) := holds 2 _ rfl
  have fourth : memory (address + 3) = UInt8.ofNat (value.toNat / 2 ^ 24) := holds 3 _ rfl
  rw [readU32, first, second, third, fourth]
  exact u32_round_trip value

theorem from_raw_parts_holds (data : Buffer) (small : data.bytes.length < UInt32.size)
    (holds : Holds memory address data.bytes) :
    fromRawParts memory address (UInt32.ofNat data.bytes.length) = data := by
  have length : (UInt32.ofNat data.bytes.length).toNat = data.bytes.length := UInt32.toNat_ofNat_of_lt' small
  have bytes : (fromRawParts memory address (UInt32.ofNat data.bytes.length)).bytes = data.bytes := by
    rw [fromRawParts]
    dsimp only
    rw [length]
    exact holds_read holds
  generalize fromRawParts memory address (UInt32.ofNat data.bytes.length) = read at bytes ⊢
  cases read
  cases data
  cases bytes
  rfl

end Read

section Frames

variable {memory : Memory} {address : Nat} {next : UInt32} {stored : StoredFrame}

theorem read_stored_header (holds : Holds memory address (stored.encode next)) :
    readHeader memory address = {
      tpNextOffset := next
      tpSec := stored.sec
      tpNsec := stored.nsec
      tpSnaplen := UInt32.ofNat stored.data.length
      tpLen := stored.len
      tpMac := UInt16.ofNat (48 + stored.gap.length) } := by
  rw [StoredFrame.encode] at holds
  have afterNext := holds_right holds
  have afterSec := holds_right afterNext
  have afterNsec := holds_right afterSec
  have afterSnaplen := holds_right afterNsec
  have afterLen := holds_right afterSnaplen
  have afterStatus := holds_right afterLen
  simp only [u32_to_le_length] at afterNext afterSec afterNsec afterSnaplen afterLen afterStatus
  rw [readHeader, read_u32_holds _ (holds_left holds), read_u32_holds _ (holds_left afterNext),
    read_u32_holds _ (holds_left afterSec), read_u32_holds _ (holds_left afterNsec),
    read_u32_holds _ (holds_left afterSnaplen), read_u16_holds _ (holds_left afterStatus)]

theorem stored_data_holds (holds : Holds memory address (stored.encode next)) :
    Holds memory (address + (48 + stored.gap.length)) stored.data := by
  rw [StoredFrame.encode] at holds
  have behind := holds_right (holds_right (holds_right (holds_right (holds_right (holds_right (holds_right (holds_right
    (holds_right holds))))))))
  have place : address + 4 + 4 + 4 + 4 + 4 + 4 + 2 + 22 + stored.gap.length = address + (48 + stored.gap.length) := by
    omega
  simp only [u32_to_le_length, u16_to_le_length, stored.unread.property] at behind
  rw [place] at behind
  exact holds_left behind

theorem stored_length (stored : StoredFrame) (next : UInt32) : (stored.encode next).length = stored.size := by
  simp only [StoredFrame.encode, StoredFrame.size, List.length_append, u32_to_le_length, u16_to_le_length,
    stored.unread.property]
  omega

def packetAt (blockIdx place : Nat) (stored : StoredFrame) : RawPacket where
  dataPtr := place + (48 + stored.gap.length)
  sec := stored.sec
  nsec := stored.nsec
  len := stored.len
  snaplen := UInt32.ofNat stored.data.length
  blockIdx := blockIdx

def refAt (link : LinkType) (blockIdx place : Nat) (stored : StoredFrame) : PacketRef :=
  packetRef (packetAt blockIdx place stored) (frameKey link stored.frame)

theorem packet_at_frame (blockIdx place : Nat) (holds : Holds memory place (stored.encode next)) :
    (packetAt blockIdx place stored).frame memory = stored.frame := by
  have small : stored.data.length < UInt32.size := by
    have fits := stored.sizeFits
    omega
  rw [RawPacket.frame, RawPacket.data, packetAt, StoredFrame.frame]
  dsimp only
  rw [from_raw_parts_holds ⟨stored.data, stored_data_fits stored⟩ small (stored_data_holds holds)]

theorem next_stored (iterator : PacketIterator) (more : iterator.currentPktIdx < iterator.numPkts)
    (holds : Holds memory (iterator.blockPtr + iterator.currentOffset) (stored.encode next)) :
    iterator.next memory = some (packetAt iterator.blockIdx (iterator.blockPtr + iterator.currentOffset) stored,
      if next > 0 then
        { iterator with
          currentOffset := iterator.currentOffset + next.toNat
          currentPktIdx := iterator.currentPktIdx + 1 }
      else { iterator with currentPktIdx := iterator.numPkts + 1 }) := by
  have mac : (UInt16.ofNat (48 + stored.gap.length)).toNat = 48 + stored.gap.length :=
    UInt16.toNat_ofNat_of_lt' stored.macFits
  rw [PacketIterator.next, if_neg (Nat.not_le_of_lt more)]
  dsimp only
  rw [read_stored_header holds]
  dsimp only
  rw [mac]
  by_cases continues : next > 0
  · rw [if_pos continues, if_pos continues]
    rfl
  · rw [if_neg continues, if_neg continues]
    rfl

end Frames

def packetsFrom (blockIdx place : Nat) : List StoredFrame → List RawPacket
  | [] => []
  | stored :: rest => packetAt blockIdx place stored :: packetsFrom blockIdx (place + stored.size) rest

def refsFrom (link : LinkType) (blockIdx place : Nat) : List StoredFrame → List PacketRef
  | [] => []
  | stored :: rest => refAt link blockIdx place stored :: refsFrom link blockIdx (place + stored.size) rest

def framesSize (frames : List StoredFrame) : Nat := (frames.map StoredFrame.size).sum

theorem frames_size_concat (done : List StoredFrame) (stored : StoredFrame) :
    framesSize (done ++ [stored]) = framesSize done + stored.size := by
  rw [framesSize, List.map_append, List.sum_append, List.map_singleton, List.sum_singleton]
  rfl

theorem refs_from_concat (link : LinkType) (blockIdx place : Nat) (done : List StoredFrame) (stored : StoredFrame) :
    refsFrom link blockIdx place (done ++ [stored]) =
      refsFrom link blockIdx place done ++ [refAt link blockIdx (place + framesSize done) stored] := by
  induction done generalizing place with
  | nil => rfl
  | cons first rest ih =>
      rw [List.cons_append, refsFrom, refsFrom, ih, List.cons_append, framesSize, framesSize, List.map_cons,
        List.sum_cons, Nat.add_assoc]

theorem packets_from_len (blockIdx place : Nat) (frames : List StoredFrame) :
    (packetsFrom blockIdx place frames).map RawPacket.len = frames.map StoredFrame.len := by
  induction frames generalizing place with
  | nil => rfl
  | cons stored rest ih =>
      rw [packetsFrom, List.map_cons, List.map_cons, ih]
      rfl

section Walk

variable {memory : Memory}

theorem first_frame_holds (last : UInt32) (stored : StoredFrame) (rest : List StoredFrame) (place : Nat)
    (holds : Holds memory place (encodeFrames last (stored :: rest))) :
    ∃ next, Holds memory place (stored.encode next) ∧ (rest ≠ [] → next = UInt32.ofNat stored.size) ∧
      Holds memory (place + stored.size) (encodeFrames last rest) := by
  rw [encodeFrames] at holds
  have behind := holds_right holds
  rw [stored_length] at behind
  refine ⟨_, holds_left holds, ?_, behind⟩
  intro more
  cases rest with
  | nil => exact absurd rfl more
  | cons second others => rfl

theorem frames_left_hold (last : UInt32) (done left : List StoredFrame) (place : Nat)
    (holds : Holds memory place (encodeFrames last (done ++ left))) :
    Holds memory (place + framesSize done) (encodeFrames last left) := by
  induction done generalizing place with
  | nil => exact holds
  | cons first rest ih =>
      obtain ⟨_, _, _, behind⟩ := first_frame_holds last first (rest ++ left) place holds
      have further := ih (place + first.size) behind
      rw [framesSize, List.map_cons, List.sum_cons, ← Nat.add_assoc]
      exact further

theorem packets_from_frames (last : UInt32) (blockIdx : Nat) (frames : List StoredFrame) (place : Nat)
    (holds : Holds memory place (encodeFrames last frames)) :
    (packetsFrom blockIdx place frames).map (RawPacket.frame memory) = frames.map StoredFrame.frame := by
  induction frames generalizing place with
  | nil => rfl
  | cons stored rest ih =>
      obtain ⟨next, first, _, behind⟩ := first_frame_holds last stored rest place holds
      rw [packetsFrom, List.map_cons, List.map_cons, packet_at_frame blockIdx place first, ih _ behind]

theorem refs_from_packets (link : LinkType) (last : UInt32) (blockIdx : Nat) (frames : List StoredFrame) (place : Nat)
    (holds : Holds memory place (encodeFrames last frames)) :
    refsFrom link blockIdx place frames = (packetsFrom blockIdx place frames).map (rawRef link memory) := by
  induction frames generalizing place with
  | nil => rfl
  | cons stored rest ih =>
      obtain ⟨next, first, _, behind⟩ := first_frame_holds last stored rest place holds
      rw [refsFrom, packetsFrom, List.map_cons, ih _ behind, rawRef, packet_at_frame blockIdx place first]
      rfl

theorem refs_from_grouped (link : LinkType) (last : UInt32) (blockIdx : Nat) (frames : List StoredFrame)
    (place count : Nat) (holds : Holds memory place (encodeFrames last frames)) :
    (groupByKey PacketRef.portKey ((refsFrom link blockIdx place frames).take count)).map (frameAt memory) =
      groupByKey (frameKey link) ((frames.map StoredFrame.frame).take count) := by
  rw [refs_from_packets link last blockIdx frames place holds, ← List.map_take, grouped_frames, List.map_take,
    packets_from_frames last blockIdx frames place holds]

end Walk

structure Leads (iterator : PacketIterator) (blockIdx place : Nat) (left : List StoredFrame) : Prop where
  block : iterator.blockIdx = blockIdx
  finished : left = [] → iterator.numPkts ≤ iterator.currentPktIdx
  more : left ≠ [] → iterator.blockPtr + iterator.currentOffset = place ∧
    iterator.numPkts = iterator.currentPktIdx + left.length

theorem leads_next (memory : Memory) (iterator : PacketIterator) (blockIdx place : Nat) (last : UInt32)
    (stored : StoredFrame) (rest : List StoredFrame) (leads : Leads iterator blockIdx place (stored :: rest))
    (holds : Holds memory place (encodeFrames last (stored :: rest))) :
    ∃ moved, iterator.next memory = some (packetAt blockIdx place stored, moved) ∧
      Leads moved blockIdx (place + stored.size) rest := by
  obtain ⟨rfl, _, leads⟩ := leads
  obtain ⟨rfl, counted⟩ := leads (List.cons_ne_nil _ _)
  obtain ⟨next, first, further, _⟩ := first_frame_holds last stored rest _ holds
  rw [List.length_cons] at counted
  refine ⟨_, next_stored iterator (by omega) first, ?_⟩
  cases rest with
  | nil =>
      rw [List.length_nil] at counted
      by_cases continues : next > 0
      · rw [if_pos continues]
        exact ⟨rfl, fun _ => Nat.le_of_eq counted, fun some => absurd rfl some⟩
      · rw [if_neg continues]
        exact ⟨rfl, fun _ => Nat.le_succ _, fun some => absurd rfl some⟩
  | cons second others =>
      have size : (UInt32.ofNat stored.size).toNat = stored.size := UInt32.toNat_ofNat_of_lt' stored.sizeFits
      have positive : UInt32.ofNat stored.size > 0 := by
        rw [gt_iff_lt, UInt32.lt_iff_toNat_lt, size, StoredFrame.size]
        exact Nat.lt_of_lt_of_le (by decide) (Nat.le_add_right_of_le (Nat.le_add_right_of_le (Nat.le_add_right _ _)))
      rw [further (List.cons_ne_nil _ _), if_pos positive, size]
      refine ⟨rfl, fun none => absurd none (List.cons_ne_nil _ _), fun _ => ⟨?_, ?_⟩⟩
      · exact (Nat.add_assoc _ _ _).symm
      · dsimp only
        omega

theorem collect_stored (memory : Memory) (blockIdx : Nat) (last : UInt32) (frames : List StoredFrame) (place : Nat)
    (iterator : PacketIterator) (leads : Leads iterator blockIdx place frames)
    (holds : Holds memory place (encodeFrames last frames)) :
    iterator.collect memory frames.length = packetsFrom blockIdx place frames := by
  induction frames generalizing iterator place with
  | nil => rfl
  | cons stored rest ih =>
      obtain ⟨moved, yielded, further⟩ := leads_next memory iterator blockIdx place last stored rest leads holds
      obtain ⟨_, _, _, behind⟩ := first_frame_holds last stored rest place holds
      rw [List.length_cons, PacketIterator.collect, yielded]
      dsimp only
      rw [ih _ moved further behind, packetsFrom]

theorem block_status_holds (block : StoredBlock) (memory : Memory) (address : Nat)
    (holds : Holds memory address block.encode) : readU32 memory (address + 8) = tpStatusUser ||| block.flags := by
  have behind := holds_right holds
  rw [block.front.property] at behind
  exact read_u32_holds _ (holds_left behind)

def StoredBlock.framesAt (blockPtr : Nat) (block : StoredBlock) : Nat := blockPtr + (48 + block.gap.length)

theorem block_start (guard : BlockGuard) (block : StoredBlock)
    (holds : Holds guard.memory guard.blockPtr block.encode) :
    guard.iterator.numPkts = block.frames.length ∧
      Leads guard.iterator guard.blockIdx (block.framesAt guard.blockPtr) block.frames ∧
      Holds guard.memory (block.framesAt guard.blockPtr) (encodeFrames block.last block.frames) := by
  have afterFront := holds_right holds
  have afterStatus := holds_right afterFront
  have afterCount := holds_right afterStatus
  have frames := holds_right (holds_right (holds_right afterCount))
  simp only [block.front.property, block.unread.property, u32_to_le_length] at afterStatus afterCount frames
  have count : guard.iterator.numPkts = block.frames.length := by
    rw [BlockGuard.iterator]
    dsimp only
    rw [read_u32_holds _ (holds_left afterStatus)]
    exact UInt32.toNat_ofNat_of_lt' block.countFits
  have offset : guard.iterator.currentOffset = 48 + block.gap.length := by
    rw [BlockGuard.iterator]
    dsimp only
    rw [read_u32_holds _ (holds_left afterCount)]
    exact UInt32.toNat_ofNat_of_lt' block.offsetFits
  have place : guard.blockPtr + 8 + 4 + 4 + 4 + 28 + block.gap.length = block.framesAt guard.blockPtr := by
    rw [StoredBlock.framesAt]
    omega
  rw [place] at frames
  refine ⟨count, ⟨rfl, ?_, ?_⟩, frames⟩
  · intro none
    rw [count, none]
    exact Nat.zero_le _
  · intro _
    refine ⟨?_, count.trans (Nat.zero_add _).symm⟩
    rw [offset]
    rfl

-- The frames of a block are read as they were stored, whatever the kernel put
-- between them and into the fields that nothing reads.
theorem stored_block_read_back (guard : BlockGuard) (block : StoredBlock)
    (holds : Holds guard.memory guard.blockPtr block.encode) :
    guard.packets.map (RawPacket.frame guard.memory) = block.frames.map StoredFrame.frame ∧
      guard.packets.map RawPacket.len = block.frames.map StoredFrame.len := by
  obtain ⟨count, leads, frames⟩ := block_start guard block holds
  rw [BlockGuard.packets, count, collect_stored _ _ block.last _ _ _ leads frames]
  exact ⟨packets_from_frames block.last _ _ _ frames, packets_from_len _ _ _⟩

end NetworkIds.Capture
