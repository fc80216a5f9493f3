import NetworkIds.Engine.Alerting
import NetworkIds.Lib.Density

set_option autoImplicit false

namespace NetworkIds.Engine

open NetworkIds.Parser Density

-- What the two vectors of a slot look like between packets: no limit is reached
-- in any window, and nothing is a minute older than anything else.
structure Dense (rule : EvaluatedRule Rat) (slot : Slot Rat) : Prop where
  recent : ∀ x ∈ slot.requests.getD [], ∀ t ∈ slot.requests.getD [], x - t < 60
  requests : ∀ maxRps, maxRequests rule = some maxRps → 1 ≤ maxRps.toNat →
    Sparse 1 (maxRps.toNat - 1) (slot.requests.getD [])
  sub : (slot.connections.getD []).Sublist (slot.requests.getD [])
  connections : ∀ limit, connRateLimit rule = some limit → 1 ≤ limit.connections.toNat →
    Sparse limit.interval (limit.connections.toNat - 1) (slot.connections.getD [])

theorem dense_nothing (rule : EvaluatedRule Rat) : Dense rule ⟨none, none⟩ where
  recent := fun x member => by cases member
  requests := fun _ _ _ => sparse_nil _ _
  sub := List.Sublist.slnil
  connections := fun _ _ _ => sparse_nil _ _

theorem Dense.pruned {rule : EvaluatedRule Rat} {slot : Slot Rat} (dense : Dense rule slot) (now : Rat)
    (fewer : Slot Rat) (requests : fewer.requests.getD [] = prune now (slot.requests.getD []))
    (connections : fewer.connections.getD [] = prune now (slot.connections.getD [])) : Dense rule fewer where
  recent := by
    rw [requests]
    intro x member t other
    exact dense.recent x (List.mem_of_mem_filter member) t (List.mem_of_mem_filter other)
  requests := by
    rw [requests]
    intro maxRps configured positive
    exact (dense.requests maxRps configured positive).sublist List.filter_sublist
  sub := by
    rw [requests, connections]
    exact dense.sub.filter _
  connections := by
    rw [connections]
    intro limit configured positive
    exact (dense.connections limit configured positive).sublist List.filter_sublist

theorem Dense.expire {rule : EvaluatedRule Rat} {slot : Slot Rat} (dense : Dense rule slot) (now : Rat) :
    Dense rule (slot.expire now) :=
  dense.pruned now _ (by rw [Slot.expire, nonempty_getD, pruned_getD]) (by rw [Slot.expire, nonempty_getD, pruned_getD])

def Past (slot : Slot Rat) (now : Rat) : Prop :=
  (∀ t ∈ slot.requests.getD [], t ≤ now) ∧ ∀ t ∈ slot.connections.getD [], t ≤ now

theorem silent_request_trigger (rule : EvaluatedRule Rat) (timestamps : List Rat) (now : Rat) (maxRps : UInt32)
    (configured : maxRequests rule = some maxRps) (silent : requestTrigger rule (some timestamps) now = none) :
    timestamps.countP (fun t => decide (now - t < 1)) ≤ maxRps.toNat - 1 := by
  unfold requestTrigger at silent
  rw [configured] at silent
  dsimp only at silent
  have one : within now 1 = fun t => decide (now - t < 1) := by
    funext t
    rw [within]
    congr 2
  by_cases reached : timestamps.countP (within now 1) ≥ maxRps.toNat
  · rw [if_pos reached] at silent
    cases silent
  · rw [one] at reached
    omega

theorem silent_connection_trigger (rule : EvaluatedRule Rat) (timestamps : Option (List Rat)) (now : Rat)
    (limit : LimitConfig Rat) (configured : connRateLimit rule = some limit)
    (silent : connectionTrigger rule timestamps now = none) :
    (timestamps.getD []).countP (fun t => decide (now - t < limit.interval)) ≤ limit.connections.toNat - 1 := by
  unfold connectionTrigger at silent
  rw [configured] at silent
  cases timestamps with
  | none => exact Nat.zero_le _
  | some ts =>
      dsimp only at silent
      by_cases reached : ts.countP (fun t => decide (now - t < limit.interval)) ≥ limit.connections.toNat
      · rw [if_pos reached] at silent
        cases silent
      · rw [Option.getD_some]
        omega

theorem silent_triggers (rule : EvaluatedRule Rat) (requests connections : Option (List Rat)) (now : Rat)
    (silent : triggeredCount rule requests connections now = none) :
    requestTrigger rule requests now = none ∧ connectionTrigger rule connections now = none := by
  unfold triggeredCount at silent
  cases fired : requestTrigger rule requests now with
  | some count =>
      rw [fired] at silent
      cases silent
  | none =>
      rw [fired] at silent
      exact ⟨rfl, silent⟩

theorem Dense.step {rule : EvaluatedRule Rat} {slot : Slot Rat} (dense : Dense rule slot) (isNew : Bool) (now : Rat)
    (past : Past slot now) : Dense rule (Slot.step rule isNew now slot).1 := by
  cases triggered : (Slot.step rule isNew now slot).2 with
  | some count =>
      rw [slot_step_fired rule isNew now slot (by rw [triggered]; rfl)]
      exact dense_nothing rule
  | none =>
      obtain ⟨noRequests, noConnections⟩ := silent_triggers rule _ _ now triggered
      rw [slot_step_kept rule isNew now slot triggered]
      have requests : (((slot.record isNew now).requests.map (prune now)).getD []) =
          prune now (slot.requests.getD [] ++ [now]) := rfl
      refine ⟨?_, ?_, ?_, ?_⟩
      · intro x member t other
        dsimp only at member other
        rw [requests] at member other
        obtain ⟨among, _⟩ := List.mem_filter.mp member
        obtain ⟨_, close⟩ := List.mem_filter.mp other
        have young : now - t < ((60 : Nat) : Rat) := of_decide_eq_true close
        have before : x ≤ now := by
          cases List.mem_append.mp among with
          | inl earlier => exact past.1 x earlier
          | inr same => exact le_of_eq (List.mem_singleton.mp same)
        push_cast at young
        linarith
      · intro maxRps configured positive
        dsimp only
        rw [requests]
        exact ((dense.requests maxRps configured positive).concat now past.1
          (silent_request_trigger rule _ now maxRps configured noRequests)).sublist List.filter_sublist
      · dsimp only
        rw [requests, pruned_getD]
        apply List.Sublist.filter
        cases isNew with
        | true => exact dense.sub.append (List.Sublist.refl _)
        | false => exact dense.sub.trans (List.sublist_append_left _ _)
      · intro limit configured positive
        dsimp only
        rw [pruned_getD]
        apply Sparse.sublist _ List.filter_sublist
        have few := silent_connection_trigger rule _ now limit configured noConnections
        cases isNew with
        | true => exact (dense.connections limit configured positive).concat now past.2 few
        | false => exact dense.connections limit configured positive

theorem past_nothing (now : Rat) : Past ⟨none, none⟩ now := by
  constructor
  · intro t member
    cases member
  · intro t member
    cases member

theorem Past.fewer {slot fewer : Slot Rat} {now : Rat} (past : Past slot now)
    (requests : fewer.requests.getD [] ⊆ slot.requests.getD [])
    (connections : fewer.connections.getD [] ⊆ slot.connections.getD []) : Past fewer now :=
  ⟨fun t member => past.1 t (requests member), fun t member => past.2 t (connections member)⟩

theorem Past.expire {slot : Slot Rat} {now : Rat} (past : Past slot now) : Past (slot.expire now) now :=
  past.fewer (by rw [Slot.expire, nonempty_getD, pruned_getD]; exact List.filter_subset_self _)
    (by rw [Slot.expire, nonempty_getD, pruned_getD]; exact List.filter_subset_self _)

theorem Past.record {slot : Slot Rat} {now : Rat} (past : Past slot now) (isNew : Bool) :
    Past (slot.record isNew now) now := by
  have concat : ∀ points : List Rat, (∀ t ∈ points, t ≤ now) → ∀ t ∈ points ++ [now], t ≤ now := by
    intro points before t member
    cases List.mem_append.mp member with
    | inl earlier => exact before t earlier
    | inr same => exact le_of_eq (List.mem_singleton.mp same)
  refine ⟨concat _ past.1, ?_⟩
  cases isNew with
  | true => exact concat _ past.2
  | false => exact past.2

theorem Past.step {slot : Slot Rat} {now : Rat} (past : Past slot now) (rule : EvaluatedRule Rat) (isNew : Bool) :
    Past (Slot.step rule isNew now slot).1 now := by
  cases triggered : (Slot.step rule isNew now slot).2 with
  | some count =>
      rw [slot_step_fired rule isNew now slot (by rw [triggered]; rfl)]
      exact past.fewer (List.nil_subset _) (List.nil_subset _)
  | none =>
      rw [slot_step_kept rule isNew now slot triggered]
      refine (past.record isNew).fewer ?_ ?_
      · dsimp only
        rw [pruned_getD]
        exact List.filter_subset_self _
      · dsimp only
        rw [pruned_getD]
        exact List.filter_subset_self _

theorem past_later (slot : Slot Rat) (now later : Rat) (past : Past slot now) (ordered : now ≤ later) :
    Past slot later :=
  ⟨fun t member => le_trans (past.1 t member) ordered, fun t member => le_trans (past.2 t member) ordered⟩

section Run

variable (localTime : Nat → String) (rule : EvaluatedRule Rat) (key : String)

theorem step_dense (engine : StatefulDetectionEngine Rat) (arrival : Arrival Rat)
    (distinct : (engine.rules.map EvaluatedRule.id).Nodup) (member : rule ∈ engine.rules)
    (dense : Dense rule (slotAt engine rule.id key)) (past : Past (slotAt engine rule.id key) arrival.now) :
    Dense rule (slotAt (step localTime engine arrival) rule.id key) ∧
      Past (slotAt (step localTime engine arrival) rule.id key) arrival.now := by
  have expired : Dense rule (slotAt (expireStates engine arrival.now) rule.id key) ∧
      Past (slotAt (expireStates engine arrival.now) rule.id key) arrival.now := by
    rw [slot_expire]
    by_cases cleanup : cleanupDue engine arrival.now
    · rw [if_pos cleanup]
      exact ⟨dense.expire arrival.now, past.expire⟩
    · rw [if_neg cleanup]
      exact ⟨dense, past⟩
  rw [step_slot localTime engine arrival distinct rule member key]
  by_cases counted : countsFor engine rule key arrival
  · rw [if_pos counted]
    exact ⟨expired.1.step (isNewTcpConn arrival.pkt) arrival.now expired.2,
      expired.2.step rule (isNewTcpConn arrival.pkt)⟩
  · rw [if_neg counted]
    exact expired

theorem run_dense (engine : StatefulDetectionEngine Rat) (distinct : (engine.rules.map EvaluatedRule.id).Nodup)
    (member : rule ∈ engine.rules) (fresh : slotAt engine rule.id key = ⟨none, none⟩)
    (arrivals : List (Arrival Rat)) (ordered : (arrivals.map Arrival.now).Pairwise (· ≤ ·)) (now : Rat)
    (after : ∀ arrival ∈ arrivals, arrival.now ≤ now) :
    Dense rule (slotAt (run localTime engine arrivals) rule.id key) ∧
      Past (slotAt (run localTime engine arrivals) rule.id key) now := by
  induction arrivals using List.reverseRecOn generalizing now with
  | nil =>
      rw [run, List.foldl_nil, fresh]
      exact ⟨dense_nothing rule, past_nothing now⟩
  | append_singleton arrivals arrival ih =>
      obtain ⟨orderedBefore, before⟩ := ordered_concat arrivals arrival ordered
      obtain ⟨dense, past⟩ := ih orderedBefore arrival.now before
      have rules := run_rules localTime engine arrivals
      obtain ⟨denseNext, pastNext⟩ := step_dense localTime rule key (run localTime engine arrivals) arrival
        (by rwa [rules]) (by rwa [rules]) dense past
      rw [run_concat]
      exact ⟨denseNext, past_later _ arrival.now now pastNext (after arrival (by simp))⟩

end Run

-- Sixty windows of a second, none of which has reached the limit.
theorem Dense.length_le {rule : EvaluatedRule Rat} {slot : Slot Rat} (dense : Dense rule slot) (maxRps : UInt32)
    (configured : maxRequests rule = some maxRps) (positive : 1 ≤ maxRps.toNat) :
    (slot.requests.getD []).length ≤ 60 * (maxRps.toNat - 1) := by
  by_cases empty : slot.requests.getD [] = []
  · rw [empty]
    exact Nat.zero_le _
  · obtain ⟨newest, member, greatest⟩ := exists_greatest _ empty
    apply (dense.requests maxRps configured positive).length_le 60 newest
    intro t inside
    have young := dense.recent newest member t inside
    refine ⟨greatest t inside, ?_⟩
    push_cast
    linarith

theorem Dense.newest_below {rule : EvaluatedRule Rat} {slot : Slot Rat} (dense : Dense rule slot)
    (limit : LimitConfig Rat) (configured : connRateLimit rule = some limit) (positive : 1 ≤ limit.connections.toNat)
    (newest : Rat) (member : newest ∈ slot.connections.getD [])
    (greatest : ∀ t ∈ slot.connections.getD [], t ≤ newest) :
    (slot.connections.getD []).countP (fun t => decide (newest - t < limit.interval)) < limit.connections.toNat := by
  have window := dense.connections limit configured positive newest member
  have same : windowCount limit.interval (slot.connections.getD []) newest =
      (slot.connections.getD []).countP fun t => decide (newest - t < limit.interval) := by
    apply List.countP_congr
    intro t inside
    simp [greatest t inside]
  rw [same] at window
  omega

structure MemoryBounded (rule : EvaluatedRule Rat) (slot : Slot Rat) : Prop where
  requests : ∀ maxRps, maxRequests rule = some maxRps → 1 ≤ maxRps.toNat →
    (slot.requests.getD []).length ≤ 60 * (maxRps.toNat - 1)
  connections : ∀ maxRps, maxRequests rule = some maxRps → 1 ≤ maxRps.toNat →
    (slot.connections.getD []).length ≤ 60 * (maxRps.toNat - 1)
  newest : ∀ limit, connRateLimit rule = some limit → 1 ≤ limit.connections.toNat → 0 < limit.interval →
    ∀ newest ∈ slot.connections.getD [], (∀ t ∈ slot.connections.getD [], t ≤ newest) →
      (slot.connections.getD []).countP (fun t => decide (newest - t < limit.interval)) < limit.connections.toNat

theorem Dense.memory_bounded {rule : EvaluatedRule Rat} {slot : Slot Rat} (dense : Dense rule slot) :
    MemoryBounded rule slot where
  requests := dense.length_le
  connections := fun maxRps configured positive =>
    dense.sub.length_le.trans (dense.length_le maxRps configured positive)
  newest := fun limit configured positive _ => dense.newest_below limit configured positive

theorem tracker_memory_is_bounded (localTime : Nat → String) (iface : String) (selfIps : List IpAddr)
    (rulesLoaded : List (RuleConfig Rat)) (distinct : ((loadRules rulesLoaded).map EvaluatedRule.id).Nodup)
    (arrivals : List (Arrival Rat)) (ordered : (arrivals.map Arrival.now).Pairwise (· ≤ ·))
    (rule : EvaluatedRule Rat) (member : rule ∈ loadRules rulesLoaded) (key : String) :
    MemoryBounded rule (slotAt (run localTime (.new iface selfIps rulesLoaded) arrivals) rule.id key) := by
  obtain ⟨now, after⟩ : ∃ now, ∀ arrival ∈ arrivals, arrival.now ≤ now := by
    by_cases empty : arrivals.map Arrival.now = []
    · exact ⟨0, fun arrival inside => by simp [List.map_eq_nil_iff.mp empty] at inside⟩
    · obtain ⟨now, _, greatest⟩ := exists_greatest _ empty
      exact ⟨now, fun arrival inside => greatest _ (List.mem_map_of_mem inside)⟩
  obtain ⟨dense, _⟩ := run_dense localTime rule key (.new iface selfIps rulesLoaded) distinct member rfl arrivals
    ordered now after
  exact dense.memory_bounded

theorem two_packets_remembered :
    MemoryBounded (evaluatedRule (catchAllConfig 1 "Any packet" (some 3) none))
      (slotAt (run (fun _ => "") (.new "eth0" [] [catchAllConfig 1 "Any packet" (some 3) none])
        [⟨ParsedPacket.new .ethernet none, 0⟩, ⟨ParsedPacket.new .ethernet none, 0⟩]) 1 "00:00:00:00:00:00") :=
  tracker_memory_is_bounded (fun _ => "") "eth0" [] [catchAllConfig 1 "Any packet" (some 3) none] (by decide)
    [⟨ParsedPacket.new .ethernet none, 0⟩, ⟨ParsedPacket.new .ethernet none, 0⟩] (by decide +kernel)
    (evaluatedRule (catchAllConfig 1 "Any packet" (some 3) none)) (List.mem_singleton_self _) "00:00:00:00:00:00"

end NetworkIds.Engine
