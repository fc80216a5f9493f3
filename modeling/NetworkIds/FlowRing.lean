import NetworkIds.FlowTable

set_option autoImplicit false

namespace NetworkIds.FlowTable

open Checked

def addPackets (flow : FlowState) (packets : List Packet) : Checked FlowState :=
  packets.foldlM (fun flow pkt => do return (← addPacket flow pkt).1) flow

theorem add_packets_concat (flow : FlowState) (packets : List Packet) (pkt : Packet) :
    addPackets flow (packets ++ [pkt]) = addPackets flow packets >>= fun flow => do return (← addPacket flow pkt).1 := by
  rw [addPackets, List.foldlM_append]
  refine bind_congr fun flow => ?_
  rw [List.foldlM_cons]
  exact bind_pure _

theorem add_packet_writes (flow next : FlowState) (pkt : Packet) (verdict : Bool × Option (List Packet))
    (added : addPacket flow pkt = .ok (next, verdict)) :
    flow.buffer.set flow.head (some pkt) = .ok next.buffer ∧
      flow.timestamps.set flow.head pkt.timestamp = .ok next.timestamps := by
  rw [addPacket] at added
  dsimp only at added
  by_cases filling : flow.count < 100
  · rw [if_pos filling] at added
    obtain ⟨buffer, stored, added⟩ := bind_eq_ok added
    obtain ⟨timestamps, stamped, added⟩ := bind_eq_ok added
    cases added
    exact ⟨stored, stamped⟩
  · rw [if_neg filling] at added
    obtain ⟨snapshot, -, added⟩ := bind_eq_ok added
    obtain ⟨buffer, stored, added⟩ := bind_eq_ok added
    obtain ⟨timestamps, stamped, added⟩ := bind_eq_ok added
    obtain ⟨oldest, -, added⟩ := bind_eq_ok added
    cases added
    exact ⟨stored, stamped⟩

def Paired (flow : FlowState) : Prop :=
  ∀ i pkt, flow.buffer.get i = .ok (some pkt) → flow.timestamps.get i = .ok pkt.timestamp

theorem new_paired (now : Int) : Paired (FlowState.new now) := by
  intro i pkt stored
  rw [FlowState.new, FixedArray.get] at stored
  dsimp only at stored
  split at stored
  · cases stored
  · cases stored

theorem add_packet_paired (flow next : FlowState) (pkt : Packet) (verdict : Bool × Option (List Packet))
    (paired : Paired flow) (added : addPacket flow pkt = .ok (next, verdict)) : Paired next := by
  obtain ⟨stored, stamped⟩ := add_packet_writes flow next pkt verdict added
  by_cases room : flow.head < ringSize
  · rw [FixedArray.set_ok _ _ _ room] at stored stamped
    have buffer := Except.ok.inj stored
    have timestamps := Except.ok.inj stamped
    intro i other found
    rw [← buffer] at found
    rw [← timestamps]
    by_cases here : i = flow.head
    · rw [here, FixedArray.get_update_same] at found
      rw [here, FixedArray.get_update_same]
      cases found
      rfl
    · rw [FixedArray.get_update_other _ _ _ _ room here] at found
      rw [FixedArray.get_update_other _ _ _ _ room here]
      exact paired i other found
  · rw [FixedArray.set, dif_neg room] at stored
    cases stored

def lastPackets (history : List Packet) : List Packet := history.drop (history.length - 100)

structure RepresentsPackets (flow : FlowState) (history : List Packet) : Prop where
  count : flow.count = min history.length 100
  head : flow.head = history.length % 100
  ordered : getOrderedPackets flow = .ok (lastPackets history)
  oldest : ∀ first ∈ (lastPackets history).head?, flow.oldestTs = first.timestamp
  lastSeen : ∀ last ∈ (lastPackets history).getLast?, flow.lastSeenTs = last.timestamp
  paired : Paired flow

def BurstAt (history : List Packet) (pkt : Packet) : Prop :=
  ∃ earlier, 100 ≤ history.length ∧ history[history.length - 100]? = some earlier ∧
    (pkt.timestamp < earlier.timestamp ∨ pkt.timestamp - earlier.timestamp < sixtySeconds)

theorem history_verdict_eq (history : List Packet) (pkt : Packet) (packets : List Packet) :
    (historyVerdict history pkt).2 = some packets ↔ BurstAt history pkt ∧ packets = lastPackets history := by
  rw [historyVerdict, BurstAt, lastPackets]
  by_cases full : 100 ≤ history.length
  · have place : history[history.length - 100]? = some history[history.length - 100] :=
      List.getElem?_eq_getElem (by omega)
    rw [dif_pos full, place]
    have positive : (0 : Int) < sixtySeconds := by decide
    by_cases recent : pkt.timestamp - history[history.length - 100].timestamp < sixtySeconds
    · rw [if_pos recent]
      constructor
      · intro same
        cases same
        exact ⟨⟨_, full, rfl, .inr recent⟩, rfl⟩
      · intro burst
        rw [burst.2]
    · rw [if_neg recent]
      refine iff_of_false (by simp) ?_
      rintro ⟨⟨earlier, -, same, close⟩, -⟩
      cases same
      omega
  · rw [dif_neg full]
    refine iff_of_false (by simp) ?_
    rintro ⟨⟨_, long, _⟩, -⟩
    exact full long

theorem verdict_flag (history : List Packet) (pkt : Packet) :
    (historyVerdict history pkt).1 = (historyVerdict history pkt).2.isSome := by
  rw [historyVerdict]
  split
  · split
    · rfl
    · rfl
  · rfl

theorem ring_represents (flow : FlowState) (history : List Packet) (ring : Ring flow history) (paired : Paired flow)
    (lastSeen : ∀ last ∈ history.getLast?, flow.lastSeenTs = last.timestamp) : RepresentsPackets flow history where
  count := ring.count
  head := ring.head
  ordered := ordered_packets_ok flow history ring
  oldest first found := by
    rw [lastPackets, List.head?_drop] at found
    obtain ⟨inside, same⟩ := List.getElem?_eq_some_iff.mp found
    rw [← same]
    exact ring.oldest _ inside rfl
  lastSeen last found := by
    rw [lastPackets, List.getLast?_drop] at found
    split at found
    · cases found
    · exact lastSeen last found
  paired := paired

theorem add_packets_ring (now : Int) (packets : List Packet) :
    ∃ flow, addPackets (.new now) packets = .ok flow ∧ Ring flow packets ∧ Paired flow ∧
      ∀ last ∈ packets.getLast?, flow.lastSeenTs = last.timestamp := by
  induction packets using List.reverseRecOn with
  | nil => exact ⟨_, rfl, new_ring now, new_paired now, by simp⟩
  | append_singleton packets pkt ih =>
      obtain ⟨flow, reached, ring, paired, -⟩ := ih
      obtain ⟨⟨next, verdict⟩, added, moved, seen, -⟩ := add_packet_safe flow packets pkt ring
      refine ⟨next, ?_, moved, add_packet_paired flow next pkt verdict paired added, ?_⟩
      · rw [add_packets_concat, reached, ok_bind, added]
        rfl
      · intro last found
        rw [List.getLast?_concat] at found
        cases found
        exact seen

-- A flow stands for the packets given to it, and a call returns the hundred
-- packets before its own exactly when they came within a minute.
theorem flow_represents_packets (now : Int) (packets : List Packet) :
    ∃ flow, addPackets (.new now) packets = .ok flow ∧ RepresentsPackets flow packets ∧
      ∀ pkt, ∃ next burst snapshot, addPacket flow pkt = .ok (next, burst, snapshot) ∧
        addPackets (.new now) (packets ++ [pkt]) = .ok next ∧
        (burst = true ↔ BurstAt packets pkt) ∧
        ∀ stored, snapshot = some stored ↔ BurstAt packets pkt ∧ stored = lastPackets packets := by
  obtain ⟨flow, reached, ring, paired, lastSeen⟩ := add_packets_ring now packets
  refine ⟨flow, reached, ring_represents flow packets ring paired lastSeen, ?_⟩
  intro pkt
  obtain ⟨⟨next, verdict⟩, added, -, -, same⟩ := add_packet_safe flow packets pkt ring
  obtain rfl : verdict = historyVerdict packets pkt := same
  have snapshot := history_verdict_eq packets pkt
  refine ⟨next, (historyVerdict packets pkt).1, (historyVerdict packets pkt).2, added, ?_, ?_, snapshot⟩
  · rw [add_packets_concat, reached, ok_bind, added]
    rfl
  · rw [verdict_flag, Option.isSome_iff_exists]
    constructor
    · rintro ⟨stored, shown⟩
      exact ((snapshot stored).mp shown).1
    · intro burst
      exact ⟨_, (snapshot _).mpr ⟨burst, rfl⟩⟩

end NetworkIds.FlowTable
