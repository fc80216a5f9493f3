import NetworkIds.Lib.FixedArray
import NetworkIds.Lib.HashMap
import Mathlib.Algebra.Group.Int.Defs
import Mathlib.Data.List.Induction

set_option autoImplicit false

namespace NetworkIds.FlowTable

open Checked

abbrev FlowKey := UInt32 × UInt16 × UInt32 × UInt16

-- An Instant is a number of nanoseconds on the monotonic clock.
structure Packet where
  timestamp : Int
  data : Bytes
deriving DecidableEq

def ringSize : Nat := 100

-- Duration::from_secs(60)
def sixtySeconds : Int := 60 * 10 ^ 9

structure FlowState where
  buffer : FixedArray ringSize (Option Packet)
  timestamps : FixedArray ringSize Int
  head : Nat
  count : Nat
  oldestTs : Int
  lastSeenTs : Int

def FlowState.new (now : Int) : FlowState where
  buffer := FixedArray.fill ringSize none
  timestamps := FixedArray.fill ringSize now
  head := 0
  count := 0
  oldestTs := now
  lastSeenTs := now

-- if let Some(ref pkt) = self.buffer[idx] { result.push(pkt.clone()) }
def pushStored (flow : FlowState) (result : List Packet) (idx : Nat) : Checked (List Packet) := do
  match ← flow.buffer.get idx with
  | some pkt => return result ++ [pkt]
  | none => return result

def getOrderedPackets (flow : FlowState) : Checked (List Packet) :=
  if flow.count = 0 then return []
  else if flow.count < 100 then (List.range flow.count).foldlM (pushStored flow) []
  else (List.range 100).foldlM (fun result i => pushStored flow result ((flow.head + i) % 100)) []

def burstSnapshot (flow : FlowState) (burstDetected : Bool) : Checked (Option (List Packet)) := do
  if burstDetected then return some (← getOrderedPackets flow) else return none

def addPacket (flow : FlowState) (pkt : Packet) : Checked (FlowState × Bool × Option (List Packet)) := do
  let now := pkt.timestamp
  let flow := { flow with lastSeenTs := now }
  if flow.count < 100 then
    let buffer ← flow.buffer.set flow.head (some pkt)
    let timestamps ← flow.timestamps.set flow.head now
    return ({ flow with
      buffer := buffer
      timestamps := timestamps
      oldestTs := if flow.count = 0 then now else flow.oldestTs
      count := flow.count + 1
      head := (flow.head + 1) % 100 }, false, none)
  else
    let timeSpan := if now ≥ flow.oldestTs then now - flow.oldestTs else 0
    let burstDetected := decide (timeSpan < sixtySeconds)
    let packetsSnapshot ← burstSnapshot flow burstDetected
    let buffer ← flow.buffer.set flow.head (some pkt)
    let timestamps ← flow.timestamps.set flow.head now
    let oldestTs ← timestamps.get ((flow.head + 1) % 100)
    return ({ flow with
      buffer := buffer
      timestamps := timestamps
      oldestTs := oldestTs
      head := (flow.head + 1) % 100 }, burstDetected, packetsSnapshot)

structure SharedState where
  flowTable : HashMap FlowKey FlowState
  maxFlows : Nat

def SharedState.new (maxFlows : Nat) : SharedState := ⟨HashMap.empty, maxFlows⟩

def oldestScan (oldest : Option FlowKey × Option Int) (entry : FlowKey × FlowState) :
    Option FlowKey × Option Int :=
  match oldest.2 with
  | none => (some entry.1, some entry.2.lastSeenTs)
  | some ts => if entry.2.lastSeenTs < ts then (some entry.1, some entry.2.lastSeenTs) else oldest

-- The order is one in which the table may yield its entries.
def evictOldest (table : HashMap FlowKey FlowState) (order : List FlowKey) : HashMap FlowKey FlowState :=
  match ((table.iter order).foldl oldestScan (none, none)).1 with
  | some kEvict => table.remove kEvict
  | none => table

def admitFlow (shared : SharedState) (key : FlowKey) (now : Int) (order : List FlowKey) :
    HashMap FlowKey FlowState :=
  if shared.flowTable.containsKey key then shared.flowTable
  else
    let table :=
      if shared.flowTable.len ≥ shared.maxFlows then evictOldest shared.flowTable order
      else shared.flowTable
    table.insert key (FlowState.new now)

def processPacket (shared : SharedState) (key : FlowKey) (pkt : Packet) (order : List FlowKey) :
    Checked (SharedState × Bool × Option (List Packet)) := do
  let table := admitFlow shared key pkt.timestamp order
  match table.lookup key with
  | none => throw .unwrapNone
  | some flow =>
      let (flow, verdict) ← addPacket flow pkt
      return ({ shared with flowTable := table.insert key flow }, verdict)

def stillActive (now : Int) (flow : FlowState) : Bool :=
  if now ≥ flow.lastSeenTs then decide (now - flow.lastSeenTs ≤ sixtySeconds) else true

def cleanupInactiveFlows (shared : SharedState) (now : Int) : SharedState × Nat :=
  let table := shared.flowTable.retain (fun _ flow => stillActive now flow)
  ({ shared with flowTable := table }, shared.flowTable.len - table.len)

def historyVerdict (history : List Packet) (pkt : Packet) : Bool × Option (List Packet) :=
  if full : 100 ≤ history.length then
    if pkt.timestamp - history[history.length - 100].timestamp < sixtySeconds then
      (true, some (history.drop (history.length - 100)))
    else (false, none)
  else (false, none)

structure Ring (flow : FlowState) (history : List Packet) : Prop where
  count : flow.count = min history.length 100
  head : flow.head = history.length % 100
  packets : ∀ i (inside : i < history.length), history.length ≤ i + 100 →
    flow.buffer.get (i % 100) = .ok (some history[i])
  times : ∀ i (inside : i < history.length), history.length ≤ i + 100 →
    flow.timestamps.get (i % 100) = .ok history[i].timestamp
  oldest : ∀ i (inside : i < history.length), i = history.length - 100 →
    flow.oldestTs = history[i].timestamp

theorem new_ring (now : Int) : Ring (FlowState.new now) [] where
  count := rfl
  head := rfl
  packets i inside := by simp at inside
  times i inside := by simp at inside
  oldest i inside := by simp at inside

theorem push_stored_ok (flow : FlowState) (history : List Packet) (start i idx : Nat) (ring : Ring flow history)
    (inside : start + i < history.length) (recent : history.length ≤ start + i + 100)
    (place : idx = (start + i) % 100) :
    pushStored flow ((history.drop start).take i) idx = .ok ((history.drop start).take (i + 1)) := by
  have inWindow : i < (history.drop start).length := by rw [List.length_drop]; omega
  rw [pushStored, place, ring.packets (start + i) inside recent, ok_bind,
    List.take_succ_eq_append_getElem inWindow, List.getElem_drop]
  rfl

theorem ordered_packets_ok (flow : FlowState) (history : List Packet) (ring : Ring flow history) :
    getOrderedPackets flow = .ok (history.drop (history.length - 100)) := by
  have count := ring.count
  rw [getOrderedPackets]
  by_cases empty : flow.count = 0
  · have none : history = [] := List.eq_nil_of_length_eq_zero (by omega)
    rw [if_pos empty, none]
    rfl
  · rw [if_neg empty]
    by_cases partly : flow.count < 100
    · have loop := range_loop_ok (pushStored flow) (fun i => (history.drop 0).take i) flow.count
        (fun i inside => push_stored_ok flow history 0 i i ring (by omega) (by omega)
          (by rw [Nat.zero_add, Nat.mod_eq_of_lt (by omega)]))
      have whole : history.take flow.count = history := List.take_of_length_le (by omega)
      have early : history.length - 100 = 0 := by omega
      simp only [List.take_zero, List.drop_zero, whole] at loop
      rw [if_pos partly, early, List.drop_zero, loop]
    · have head := ring.head
      have loop := range_loop_ok (fun result i => pushStored flow result ((flow.head + i) % 100))
        (fun i => (history.drop (history.length - 100)).take i) 100
        (fun i inside => push_stored_ok flow history (history.length - 100) i _ ring (by omega) (by omega) (by omega))
      have whole : (history.drop (history.length - 100)).take 100 = history.drop (history.length - 100) :=
        List.take_of_length_le (by rw [List.length_drop]; omega)
      simp only [List.take_zero, whole] at loop
      rw [if_neg partly, loop]

theorem written_slot {α : Type} (slots : FixedArray ringSize α) (read : Packet → α) (history : List Packet)
    (pkt : Packet) (head : Nat) (room : head < ringSize) (here : head = history.length % 100)
    (held : ∀ i (inside : i < history.length), history.length ≤ i + 100 →
      slots.get (i % 100) = .ok (read history[i]))
    (i : Nat) (inside : i < (history ++ [pkt]).length) (recent : (history ++ [pkt]).length ≤ i + 100) :
    FixedArray.get (Function.update slots ⟨head, room⟩ (read pkt)) (i % 100) = .ok (read (history ++ [pkt])[i]) := by
  have length : (history ++ [pkt]).length = history.length + 1 := List.length_append
  by_cases last : i = history.length
  · subst last
    have same : history.length % 100 = head := here.symm
    rw [same, FixedArray.get_update_same, List.getElem_concat_length rfl]
  · rw [FixedArray.get_update_other _ _ _ _ room (by omega), List.getElem_append_left (by omega)]
    exact held i (by omega) (by omega)

theorem ring_write (flow : FlowState) (history : List Packet) (pkt : Packet) (ring : Ring flow history)
    (room : flow.head < ringSize) (oldestTs : Int) (count : Nat)
    (counted : count = min (history.length + 1) 100)
    (oldest : ∀ i (inside : i < (history ++ [pkt]).length), i = history.length + 1 - 100 →
      oldestTs = (history ++ [pkt])[i].timestamp) :
    Ring { flow with
      buffer := Function.update flow.buffer ⟨flow.head, room⟩ (some pkt)
      timestamps := Function.update flow.timestamps ⟨flow.head, room⟩ pkt.timestamp
      head := (flow.head + 1) % 100
      count := count
      oldestTs := oldestTs
      lastSeenTs := pkt.timestamp } (history ++ [pkt]) where
  count := by
    rw [List.length_append, List.length_singleton]
    exact counted
  head := by
    have head := ring.head
    rw [List.length_append, List.length_singleton]
    dsimp only
    omega
  packets := written_slot flow.buffer some history pkt flow.head room ring.head ring.packets
  times := written_slot flow.timestamps Packet.timestamp history pkt flow.head room ring.head ring.times
  oldest i inside place := oldest i inside (by rwa [List.length_append, List.length_singleton] at place)

theorem add_packet_filling (flow : FlowState) (history : List Packet) (pkt : Packet) (ring : Ring flow history)
    (filling : flow.count < 100) :
    Safe (addPacket flow pkt) (fun result => Ring result.1 (history ++ [pkt]) ∧
      result.1.lastSeenTs = pkt.timestamp ∧ result.2 = historyVerdict history pkt) := by
  have count := ring.count
  have head := ring.head
  have room : flow.head < ringSize := by unfold ringSize; omega
  rw [addPacket]
  dsimp only
  rw [if_pos filling, FixedArray.set_ok _ _ _ room, ok_bind, FixedArray.set_ok _ _ _ room, ok_bind]
  refine safe_ok ⟨ring_write flow history pkt ring room _ _ (by omega) ?_, rfl, ?_⟩
  · intro i inside place
    have first : i = 0 := by omega
    subst first
    by_cases empty : flow.count = 0
    · have none : history = [] := List.eq_nil_of_length_eq_zero (by omega)
      subst none
      rw [if_pos empty]
      rfl
    · rw [if_neg empty, List.getElem_append_left (by omega)]
      exact ring.oldest 0 (by omega) (by omega)
  · rw [historyVerdict, dif_neg (by omega)]

theorem add_packet_full (flow : FlowState) (history : List Packet) (pkt : Packet) (ring : Ring flow history)
    (full : ¬ flow.count < 100) :
    Safe (addPacket flow pkt) (fun result => Ring result.1 (history ++ [pkt]) ∧
      result.1.lastSeenTs = pkt.timestamp ∧ result.2 = historyVerdict history pkt) := by
  have count := ring.count
  have head := ring.head
  have room : flow.head < ringSize := by unfold ringSize; omega
  have long : 100 ≤ history.length := by omega
  have oldest := ring.oldest (history.length - 100) (by omega) rfl
  have seen : Ring { flow with lastSeenTs := pkt.timestamp } history :=
    ⟨ring.count, ring.head, ring.packets, ring.times, ring.oldest⟩
  have span : ((if pkt.timestamp ≥ flow.oldestTs then pkt.timestamp - flow.oldestTs else 0) < sixtySeconds) ↔
      pkt.timestamp - flow.oldestTs < sixtySeconds := by
    unfold sixtySeconds
    split <;> omega
  have snapshot : burstSnapshot { flow with lastSeenTs := pkt.timestamp }
      (decide (pkt.timestamp - flow.oldestTs < sixtySeconds)) = .ok (historyVerdict history pkt).2 := by
    rw [burstSnapshot, historyVerdict, dif_pos long, ← oldest]
    by_cases burst : pkt.timestamp - flow.oldestTs < sixtySeconds
    · rw [if_pos burst, if_pos (decide_eq_true burst), ordered_packets_ok _ history seen]
      rfl
    · rw [if_neg burst, if_neg (by simpa using burst)]
      rfl
  have burst : decide (pkt.timestamp - flow.oldestTs < sixtySeconds) = (historyVerdict history pkt).1 := by
    rw [historyVerdict, dif_pos long, ← oldest]
    by_cases burst : pkt.timestamp - flow.oldestTs < sixtySeconds
    · rw [if_pos burst, decide_eq_true burst]
    · rw [if_neg burst, decide_eq_false burst]
  have next : FixedArray.get (Function.update flow.timestamps ⟨flow.head, room⟩ pkt.timestamp)
      ((flow.head + 1) % 100) = .ok history[history.length - 99].timestamp := by
    have place : (flow.head + 1) % 100 = (history.length - 99) % 100 := by omega
    rw [FixedArray.get_update_other _ _ _ _ room (by omega), place]
    exact ring.times (history.length - 99) (by omega) (by omega)
  rw [addPacket]
  dsimp only
  rw [if_neg full]
  simp only [span]
  rw [snapshot, ok_bind, FixedArray.set_ok _ _ _ room, ok_bind, FixedArray.set_ok _ _ _ room, ok_bind, next,
    ok_bind]
  refine safe_ok ⟨ring_write flow history pkt ring room _ _ (by omega) ?_, rfl, by rw [burst]⟩
  intro i inside place
  have second : i = history.length - 99 := by omega
  subst second
  rw [List.getElem_append_left (by omega)]

theorem add_packet_safe (flow : FlowState) (history : List Packet) (pkt : Packet) (ring : Ring flow history) :
    Safe (addPacket flow pkt) (fun result => Ring result.1 (history ++ [pkt]) ∧
      result.1.lastSeenTs = pkt.timestamp ∧ result.2 = historyVerdict history pkt) := by
  by_cases filling : flow.count < 100
  · exact add_packet_filling flow history pkt ring filling
  · exact add_packet_full flow history pkt ring filling

theorem verdict_forgets (dropped recent : List Packet) (pkt : Packet)
    (old : ∀ earlier ∈ dropped, sixtySeconds < pkt.timestamp - earlier.timestamp) :
    historyVerdict (dropped ++ recent) pkt = historyVerdict recent pkt := by
  rw [historyVerdict, historyVerdict]
  by_cases full : 100 ≤ recent.length
  · have past : dropped.length ≤ (dropped ++ recent).length - 100 := by
      rw [List.length_append]
      omega
    have place : (dropped ++ recent).length - 100 - dropped.length = recent.length - 100 := by
      rw [List.length_append]
      omega
    rw [dif_pos full, dif_pos (by rw [List.length_append]; omega)]
    simp only [List.getElem_append_right past, List.drop_append, place,
      List.drop_eq_nil_of_le past, List.nil_append]
  · rw [dif_neg full]
    by_cases long : 100 ≤ (dropped ++ recent).length
    · have inside : (dropped ++ recent).length - 100 < dropped.length := by
        rw [List.length_append] at long ⊢
        omega
      have far := old _ (List.getElem_mem inside)
      rw [dif_pos long]
      simp only [List.getElem_append_left inside]
      rw [if_neg (by omega)]
    · rw [dif_neg long]

inductive FlowEvent where
  | packet (key : FlowKey) (pkt : Packet) (order : List FlowKey)
  | cleanup (now : Int)

def FlowEvent.time : FlowEvent → Int
  | .packet _ pkt _ => pkt.timestamp
  | .cleanup now => now

def FlowEvent.flowKey : FlowEvent → Option FlowKey
  | .packet key _ _ => some key
  | .cleanup _ => none

def FlowEvent.packetOf (key : FlowKey) : FlowEvent → Option Packet
  | .packet other pkt _ => if other = key then some pkt else none
  | .cleanup _ => none

def stepEvent (shared : SharedState) (event : FlowEvent) : Checked SharedState :=
  match event with
  | .packet key pkt order => do return (← processPacket shared key pkt order).1
  | .cleanup now => return (cleanupInactiveFlows shared now).1

def runEvents (maxFlows : Nat) (events : List FlowEvent) : Checked SharedState :=
  events.foldlM stepEvent (SharedState.new maxFlows)

def packetsOf (key : FlowKey) (events : List FlowEvent) : List Packet :=
  events.filterMap (FlowEvent.packetOf key)

def flowKeys (events : List FlowEvent) : Finset FlowKey := (events.filterMap FlowEvent.flowKey).toFinset

-- A table entry against the whole history of its key: packets from before the
-- entry was made are over a minute old.
def Tracked (entry : Option FlowState) (history : List Packet) (now : Int) : Prop :=
  ∃ dropped recent, history = dropped ++ recent ∧
    (∀ pkt ∈ dropped, sixtySeconds < now - pkt.timestamp) ∧
    match entry with
    | none => recent = []
    | some flow => Ring flow recent ∧ ∀ pkt ∈ recent, pkt.timestamp ≤ flow.lastSeenTs

theorem tracked_later (entry : Option FlowState) (history : List Packet) (now later : Int)
    (tracked : Tracked entry history now) (passed : now ≤ later) : Tracked entry history later := by
  obtain ⟨dropped, recent, split, old, stored⟩ := tracked
  refine ⟨dropped, recent, split, ?_, stored⟩
  intro pkt member
  have far := old pkt member
  omega

theorem tracked_new (history : List Packet) (now start : Int) (tracked : Tracked none history now) :
    Tracked (some (FlowState.new start)) history now := by
  obtain ⟨dropped, recent, split, old, none⟩ := tracked
  subst none
  exact ⟨dropped, [], split, old, new_ring start, by simp⟩

theorem tracked_packet (flow : FlowState) (history : List Packet) (pkt : Packet)
    (tracked : Tracked (some flow) history pkt.timestamp)
    (ordered : ∀ earlier ∈ history, earlier.timestamp ≤ pkt.timestamp) :
    Safe (addPacket flow pkt) (fun result => Tracked (some result.1) (history ++ [pkt]) pkt.timestamp ∧
      result.2 = historyVerdict history pkt) := by
  obtain ⟨dropped, recent, rfl, old, ring, _⟩ := tracked
  refine safe_mono (add_packet_safe flow recent pkt ring) ?_
  rintro ⟨next, verdict⟩ ⟨nextRing, lastSeen, sameVerdict⟩
  refine ⟨⟨dropped, recent ++ [pkt], List.append_assoc _ _ _, old, nextRing, ?_⟩, ?_⟩
  · intro earlier member
    rw [lastSeen]
    rcases List.mem_append.mp member with before | single
    · exact ordered earlier (List.mem_append_right _ before)
    · rw [List.mem_singleton.mp single]
  · rw [sameVerdict, verdict_forgets dropped recent pkt old]

theorem tracked_cleanup (entry : Option FlowState) (history : List Packet) (now : Int)
    (tracked : Tracked entry history now) : Tracked (entry.filter (stillActive now)) history now := by
  obtain ⟨dropped, recent, rfl, old, stored⟩ := tracked
  cases entry with
  | none => exact ⟨dropped, recent, rfl, old, stored⟩
  | some flow =>
      obtain ⟨ring, seen⟩ := stored
      by_cases active : stillActive now flow = true
      · rw [Option.filter_some, if_pos active]
        exact ⟨dropped, recent, rfl, old, ring, seen⟩
      · rw [Option.filter_some, if_neg active]
        have idle : sixtySeconds < now - flow.lastSeenTs := by
          unfold stillActive at active
          split at active
          · exact Int.lt_of_not_ge fun within => active (decide_eq_true within)
          · exact absurd rfl active
        refine ⟨dropped ++ recent, [], (List.append_nil _).symm, ?_, rfl⟩
        intro pkt member
        rcases List.mem_append.mp member with before | after
        · exact old pkt before
        · have late := seen pkt after
          omega

structure Simulates (maxFlows : Nat) (events : List FlowEvent) (now : Int) (shared : SharedState) : Prop where
  limit : shared.maxFlows = maxFlows
  flows : ∀ key, Tracked (shared.flowTable.lookup key) (packetsOf key events) now
  keys : shared.flowTable.keys ⊆ flowKeys events

theorem admit_flow_room (shared : SharedState) (key : FlowKey) (now : Int) (order : List FlowKey)
    (room : shared.flowTable.lookup key = none → shared.flowTable.len < shared.maxFlows) :
    admitFlow shared key now order = match shared.flowTable.lookup key with
      | some _ => shared.flowTable
      | none => shared.flowTable.insert key (FlowState.new now) := by
  rw [admitFlow, HashMap.containsKey]
  cases entry : shared.flowTable.lookup key with
  | some flow => rfl
  | none =>
      rw [if_neg (by simp), if_neg (by have := room entry; omega)]

theorem packets_of_concat (key : FlowKey) (events : List FlowEvent) (event : FlowEvent) :
    packetsOf key (events ++ [event]) = packetsOf key events ++ (event.packetOf key).toList := by
  rw [packetsOf, List.filterMap_append]
  cases found : event.packetOf key with
  | none => simp [packetsOf, found]
  | some pkt => simp [packetsOf, found]

theorem flow_keys_subset (events : List FlowEvent) (event : FlowEvent) :
    flowKeys events ⊆ flowKeys (events ++ [event]) := by
  intro key member
  simp only [flowKeys, List.mem_toFinset, List.filterMap_append, List.mem_append] at member ⊢
  exact .inl member

theorem packet_key_mem (events : List FlowEvent) (key : FlowKey) (pkt : Packet) (order : List FlowKey) :
    key ∈ flowKeys (events ++ [.packet key pkt order]) := by
  simp [flowKeys, FlowEvent.flowKey]

theorem packets_earlier (key : FlowKey) (events : List FlowEvent) (now : Int)
    (ordered : ∀ event ∈ events, event.time ≤ now) : ∀ pkt ∈ packetsOf key events, pkt.timestamp ≤ now := by
  intro pkt member
  obtain ⟨event, inside, found⟩ := List.mem_filterMap.mp member
  cases event with
  | cleanup clock => cases found
  | packet other earlier order =>
      by_cases same : other = key
      · rw [FlowEvent.packetOf, if_pos same] at found
        cases found
        exact ordered _ inside
      · rw [FlowEvent.packetOf, if_neg same] at found
        cases found

theorem admit_flow_simulates (maxFlows : Nat) (events : List FlowEvent) (shared : SharedState) (key : FlowKey)
    (pkt : Packet) (order : List FlowKey) (sim : Simulates maxFlows events pkt.timestamp shared)
    (few : (flowKeys (events ++ [.packet key pkt order])).card ≤ maxFlows) :
    ∃ flow, (admitFlow shared key pkt.timestamp order).lookup key = some flow ∧
      Tracked (some flow) (packetsOf key events) pkt.timestamp ∧
      ∀ other, other ≠ key → (admitFlow shared key pkt.timestamp order).lookup other = shared.flowTable.lookup other := by
  have inside := sim.keys.trans (flow_keys_subset events (.packet key pkt order))
  have member := packet_key_mem events key pkt order
  have tracked := sim.flows key
  rw [admit_flow_room shared key pkt.timestamp order (fun absent => by
    have room := HashMap.len_lt shared.flowTable _ key inside member absent
    rw [sim.limit]
    omega)]
  cases entry : shared.flowTable.lookup key with
  | some flow =>
      rw [entry] at tracked
      exact ⟨flow, entry, tracked, fun other _ => rfl⟩
  | none =>
      rw [entry] at tracked
      refine ⟨FlowState.new pkt.timestamp, ?_, tracked_new _ _ _ tracked, ?_⟩
      · rw [HashMap.lookup_insert, if_pos rfl]
      · intro other different
        rw [HashMap.lookup_insert, if_neg different]

theorem keys_insert_subset (table : HashMap FlowKey FlowState) (key : FlowKey) (flow : FlowState)
    (used : Finset FlowKey) (member : key ∈ used)
    (inside : ∀ other, other ≠ key → (table.lookup other).isSome = true → other ∈ used) :
    (table.insert key flow).keys ⊆ used := by
  intro other present
  rw [HashMap.present, HashMap.lookup_insert] at present
  by_cases same : other = key
  · rw [same]
    exact member
  · rw [if_neg same] at present
    exact inside other same present

theorem process_packet_simulates (maxFlows : Nat) (events : List FlowEvent) (shared : SharedState) (key : FlowKey)
    (pkt : Packet) (order : List FlowKey) (sim : Simulates maxFlows events pkt.timestamp shared)
    (ordered : ∀ event ∈ events, event.time ≤ pkt.timestamp)
    (few : (flowKeys (events ++ [.packet key pkt order])).card ≤ maxFlows) :
    Safe (processPacket shared key pkt order) (fun result =>
      Simulates maxFlows (events ++ [.packet key pkt order]) pkt.timestamp result.1 ∧
      result.2 = historyVerdict (packetsOf key events) pkt) := by
  obtain ⟨flow, entry, tracked, others⟩ := admit_flow_simulates maxFlows events shared key pkt order sim few
  rw [processPacket]
  dsimp only
  rw [entry]
  refine safe_bind (tracked_packet flow (packetsOf key events) pkt tracked
    (packets_earlier key events pkt.timestamp ordered)) ?_
  rintro ⟨next, verdict⟩ ⟨nextTracked, sameVerdict⟩
  refine safe_ok ⟨⟨sim.limit, ?_, ?_⟩, sameVerdict⟩
  · intro other
    dsimp only
    rw [packets_of_concat, HashMap.lookup_insert, FlowEvent.packetOf]
    by_cases same : other = key
    · subst same
      rw [if_pos rfl, if_pos rfl]
      exact nextTracked
    · rw [if_neg same, if_neg (Ne.symm same), others other same]
      simpa using sim.flows other
  · refine keys_insert_subset _ key next _ (packet_key_mem events key pkt order) ?_
    intro other different present
    rw [others other different, ← HashMap.present] at present
    exact flow_keys_subset _ _ (sim.keys present)

theorem cleanup_simulates (maxFlows : Nat) (events : List FlowEvent) (shared : SharedState) (now : Int)
    (sim : Simulates maxFlows events now shared) :
    Simulates maxFlows (events ++ [.cleanup now]) now (cleanupInactiveFlows shared now).1 where
  limit := sim.limit
  flows key := by
    rw [packets_of_concat, cleanupInactiveFlows]
    dsimp only
    rw [HashMap.lookup_retain]
    simpa [FlowEvent.packetOf] using tracked_cleanup _ _ _ (sim.flows key)
  keys := by
    intro key present
    rw [HashMap.present, cleanupInactiveFlows] at present
    dsimp only at present
    rw [HashMap.lookup_retain] at present
    have before : key ∈ shared.flowTable.keys := by
      rw [HashMap.present]
      cases entry : shared.flowTable.lookup key with
      | none => simp [entry] at present
      | some flow => rfl
    exact flow_keys_subset _ _ (sim.keys before)

theorem simulates_later (maxFlows : Nat) (events : List FlowEvent) (shared : SharedState) (now later : Int)
    (sim : Simulates maxFlows events now shared) (passed : now ≤ later) : Simulates maxFlows events later shared :=
  ⟨sim.limit, fun key => tracked_later _ _ now later (sim.flows key) passed, sim.keys⟩

theorem run_events_simulates (maxFlows : Nat) (events : List FlowEvent)
    (ordered : (events.map FlowEvent.time).Pairwise (· ≤ ·)) (few : (flowKeys events).card ≤ maxFlows) (now : Int)
    (past : ∀ event ∈ events, event.time ≤ now) :
    Safe (runEvents maxFlows events) (Simulates maxFlows events now) := by
  induction events using List.reverseRecOn generalizing now with
  | nil =>
      refine safe_ok ⟨rfl, ?_, ?_⟩
      · intro key
        exact ⟨[], [], rfl, by simp, rfl⟩
      · intro key present
        rw [HashMap.present] at present
        cases present
  | append_singleton events event ih =>
      have fewer := (Finset.card_le_card (flow_keys_subset events event)).trans few
      rw [List.map_append, List.pairwise_append] at ordered
      have earlier : ∀ old ∈ events, old.time ≤ event.time := fun old member =>
        ordered.2.2 old.time (List.mem_map_of_mem member) event.time (by simp)
      have last := past event (by simp)
      have before := ih ordered.1 fewer event.time earlier
      rw [runEvents, List.foldlM_append]
      refine safe_bind before ?_
      intro shared sim
      simp only [List.foldlM_cons, List.foldlM_nil, bind_pure]
      cases event with
      | packet key pkt order =>
          exact safe_bind (process_packet_simulates maxFlows events shared key pkt order sim earlier few)
            fun result processed => safe_ok (simulates_later _ _ _ _ _ processed.1 last)
      | cleanup clock => exact safe_ok (simulates_later _ _ _ _ _ (cleanup_simulates maxFlows events shared clock sim) last)

-- The ring, the table and the idle cleanup together answer as the whole history
-- of the packet's key does.
theorem burst_detection_by_history (maxFlows : Nat) (events : List FlowEvent) (key : FlowKey) (pkt : Packet)
    (order : List FlowKey)
    (ordered : ((events ++ [FlowEvent.packet key pkt order]).map FlowEvent.time).Pairwise (· ≤ ·))
    (few : (flowKeys (events ++ [.packet key pkt order])).card ≤ maxFlows) :
    ∃ shared next, runEvents maxFlows events = .ok shared ∧
      processPacket shared key pkt order = .ok (next, historyVerdict (packetsOf key events) pkt) := by
  have fewer := (Finset.card_le_card (flow_keys_subset events (.packet key pkt order))).trans few
  rw [List.map_append, List.pairwise_append] at ordered
  have earlier : ∀ old ∈ events, old.time ≤ pkt.timestamp := fun old member =>
    ordered.2.2 old.time (List.mem_map_of_mem member) pkt.timestamp (by simp [FlowEvent.time])
  obtain ⟨shared, reached, sim⟩ := run_events_simulates maxFlows events ordered.1 fewer pkt.timestamp earlier
  obtain ⟨⟨next, verdict⟩, processed, _, same⟩ :=
    process_packet_simulates maxFlows events shared key pkt order sim earlier few
  dsimp only at same
  subst same
  exact ⟨shared, next, reached, processed⟩

theorem burst_of_equal_packets :
    ∃ shared next, runEvents 1 (List.replicate 100 (.packet (1, 100, 2, 200) ⟨5, [1]⟩ [])) = .ok shared ∧
      processPacket shared (1, 100, 2, 200) ⟨5, [1]⟩ [] =
        .ok (next, true, some (List.replicate 100 ⟨5, [1]⟩)) :=
  burst_detection_by_history 1 (List.replicate 100 (.packet (1, 100, 2, 200) ⟨5, [1]⟩ [])) (1, 100, 2, 200)
    ⟨5, [1]⟩ [] (by decide +kernel) (by decide +kernel)

end NetworkIds.FlowTable
