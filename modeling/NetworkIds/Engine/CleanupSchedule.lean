import NetworkIds.Engine.SharedSlots

set_option autoImplicit false

namespace NetworkIds.Engine

open NetworkIds.Parser Observation

structure AlikeSlots (now : Rat) (first second : Slot Rat) : Prop where
  requests : SameUnder (windowTests now) (first.requests.getD []) (second.requests.getD [])
  connections : SameUnder (windowTests now) (first.connections.getD []) (second.connections.getD [])

theorem alike_refl (now : Rat) (slot : Slot Rat) : AlikeSlots now slot slot := ⟨same_refl _ _, same_refl _ _⟩

section Slots

variable {now : Rat} {first second : Slot Rat}

theorem AlikeSlots.symm (alike : AlikeSlots now first second) : AlikeSlots now second first :=
  ⟨same_symm alike.requests, same_symm alike.connections⟩

theorem AlikeSlots.later (alike : AlikeSlots now first second) (later : Rat) (ordered : now ≤ later) :
    AlikeSlots later first second :=
  ⟨same_fewer alike.requests (window_tests_later now later ordered),
    same_fewer alike.connections (window_tests_later now later ordered)⟩

theorem AlikeSlots.expire (alike : AlikeSlots now first second) : AlikeSlots now (first.expire now) second where
  requests := by
    rw [Slot.expire, nonempty_getD, pruned_getD]
    exact prune_same now _ _ alike.requests
  connections := by
    rw [Slot.expire, nonempty_getD, pruned_getD]
    exact prune_same now _ _ alike.connections

theorem AlikeSlots.record (alike : AlikeSlots now first second) (isNew : Bool) :
    AlikeSlots now (first.record isNew now) (second.record isNew now) where
  requests := same_append alike.requests [now]
  connections := by
    cases isNew with
    | false => exact alike.connections
    | true => exact same_append alike.connections [now]

theorem AlikeSlots.prune (alike : AlikeSlots now first second) :
    AlikeSlots now ⟨first.requests.map (prune now), first.connections.map (prune now)⟩
      ⟨second.requests.map (prune now), second.connections.map (prune now)⟩ where
  requests := by
    rw [pruned_getD, pruned_getD]
    exact prune_same now _ _ (same_symm (prune_same now _ _ (same_symm alike.requests)))
  connections := by
    rw [pruned_getD, pruned_getD]
    exact prune_same now _ _ (same_symm (prune_same now _ _ (same_symm alike.connections)))

theorem alike_request_trigger (rule : EvaluatedRule Rat) (some_ other : List Rat)
    (same : SameUnder (windowTests now) some_ other) :
    requestTrigger rule (some some_) now = requestTrigger rule (some other) now := by
  unfold requestTrigger
  cases maxRequests rule with
  | none => rfl
  | some maxRps =>
      dsimp only
      rw [same_count same (within now 1) (within_one_test now)]

theorem connection_trigger_getD (rule : EvaluatedRule Rat) (inRange : LimitsInRange rule)
    (timestamps : Option (List Rat)) :
    connectionTrigger rule timestamps now = connectionTrigger rule (some (timestamps.getD [])) now := by
  cases timestamps with
  | some ts => rfl
  | none =>
      unfold connectionTrigger
      cases configured : connRateLimit rule with
      | none => rfl
      | some limit =>
          have positive := (inRange limit configured).1
          dsimp only
          rw [Option.getD_none, List.countP_nil, if_neg (by omega)]

theorem alike_connection_trigger (rule : EvaluatedRule Rat) (inRange : LimitsInRange rule)
    (some_ other : Option (List Rat)) (same : SameUnder (windowTests now) (some_.getD []) (other.getD [])) :
    connectionTrigger rule some_ now = connectionTrigger rule other now := by
  rw [connection_trigger_getD rule inRange some_, connection_trigger_getD rule inRange other]
  unfold connectionTrigger
  cases configured : connRateLimit rule with
  | none => rfl
  | some limit =>
      have test : (fun t => decide (now - t < limit.interval)) ∈ windowTests now :=
        ⟨now, le_refl now, limit.interval, (inRange limit configured).2, rfl⟩
      dsimp only
      rw [same_count same _ test]

theorem AlikeSlots.step (alike : AlikeSlots now first second) (rule : EvaluatedRule Rat)
    (inRange : LimitsInRange rule) (isNew : Bool) :
    (Slot.step rule isNew now first).2 = (Slot.step rule isNew now second).2 ∧
      AlikeSlots now (Slot.step rule isNew now first).1 (Slot.step rule isNew now second).1 := by
  have recorded := alike.record isNew
  have requests : requestTrigger rule (first.record isNew now).requests now =
      requestTrigger rule (second.record isNew now).requests now := alike_request_trigger rule _ _ recorded.requests
  have connections := alike_connection_trigger rule inRange _ _ recorded.connections
  have triggered : (Slot.step rule isNew now first).2 = (Slot.step rule isNew now second).2 := by
    rw [Slot.step, Slot.step]
    dsimp only
    rw [triggeredCount, triggeredCount, requests, connections]
  refine ⟨triggered, ?_⟩
  have settled : AlikeSlots now
      ((first.record isNew now).settle now (Slot.step rule isNew now first).2.isSome)
      ((second.record isNew now).settle now (Slot.step rule isNew now second).2.isSome) := by
    rw [triggered]
    cases (Slot.step rule isNew now second).2 with
    | none => exact recorded.prune
    | some count => exact alike_refl now _
  exact settled

end Slots

def Alike (now : Rat) (first second : RateTrackers Rat) : Prop :=
  ∀ id key, AlikeSlots now (slotOf first id key) (slotOf second id key)

section Rules

variable {now : Rat} {first second : RateTrackers Rat}

theorem matched_alike (alike : Alike now first second) (rule : EvaluatedRule Rat) (inRange : LimitsInRange rule)
    (pkt : ParsedPacket) :
    (evaluateMatched rule pkt now first).2 = (evaluateMatched rule pkt now second).2 ∧
      Alike now (evaluateMatched rule pkt now first).1 (evaluateMatched rule pkt now second).1 := by
  constructor
  · rw [matched_alert, matched_alert,
      ((alike rule.id (resolveTrackingKey rule pkt)).step rule inRange (isNewTcpConn pkt)).1]
  · intro id key
    by_cases sameId : id = rule.id
    · subst sameId
      rw [matched_slot, matched_slot]
      by_cases own : key = resolveTrackingKey rule pkt
      · rw [if_pos own, if_pos own]
        exact ((alike rule.id key).step rule inRange (isNewTcpConn pkt)).2
      · rw [if_neg own, if_neg own]
        exact alike rule.id key
    · have untouched (trackers : RateTrackers Rat) :
          slotOf (evaluateMatched rule pkt now trackers).1 id key = slotOf trackers id key := by
        have other := slot_same_at id key _ _ (rule_other (fun _ => true) pkt now trackers rule id sameId)
        rwa [evaluateRule, if_pos rfl] at other
      rw [untouched, untouched]
      exact alike id key

theorem rules_alike (isMatch : EvaluatedRule Rat → Bool) (pkt : ParsedPacket) (rules : List (EvaluatedRule Rat))
    (inRange : ∀ rule ∈ rules, LimitsInRange rule) (alike : Alike now first second) :
    (evaluateRules isMatch pkt now first rules).2 = (evaluateRules isMatch pkt now second rules).2 ∧
      Alike now (evaluateRules isMatch pkt now first rules).1 (evaluateRules isMatch pkt now second rules).1 := by
  induction rules generalizing first second with
  | nil => exact ⟨rfl, alike⟩
  | cons rule rest ih =>
      have turn : (evaluateRule isMatch pkt now first rule).2 = (evaluateRule isMatch pkt now second rule).2 ∧
          Alike now (evaluateRule isMatch pkt now first rule).1 (evaluateRule isMatch pkt now second rule).1 := by
        rw [evaluateRule, evaluateRule]
        by_cases matched : isMatch rule = true
        · rw [if_pos matched, if_pos matched]
          exact matched_alike alike rule (inRange rule List.mem_cons_self) pkt
        · rw [if_neg matched, if_neg matched]
          exact ⟨rfl, alike⟩
      obtain ⟨alerts, after⟩ := ih (fun other member => inRange other (List.mem_cons_of_mem _ member)) turn.2
      rw [evaluateRules, evaluateRules]
      dsimp only
      exact ⟨by rw [turn.1, alerts], after⟩

end Rules

def IgnoresTable (rule : EvaluatedRule Rat) : Prop := rule.context.flow.state ≠ "established"

theorem flow_state_ignores (rule : EvaluatedRule Rat) (ignores : IgnoresTable rule) (pkt : ParsedPacket)
    (first second : ConnTable Rat) : flowStateMatches rule pkt first = flowStateMatches rule pkt second := by
  unfold flowStateMatches
  split
  · rfl
  · rfl
  · rename_i established
    exact absurd established ignores
  · rfl

structure Indistinguishable (now : Rat) (first second : StatefulDetectionEngine Rat) : Prop where
  rules : first.rules = second.rules
  iface : first.iface = second.iface
  selfIps : first.selfIps = second.selfIps
  alertCounter : first.alertCounter = second.alertCounter
  trackers : Alike now first.toRateTrackers second.toRateTrackers

theorem indistinguishable_refl (now : Rat) (engine : StatefulDetectionEngine Rat) :
    Indistinguishable now engine engine := ⟨rfl, rfl, rfl, rfl, fun _ _ => alike_refl now _⟩

section Engines

variable {now : Rat} {first second : StatefulDetectionEngine Rat}

theorem Indistinguishable.later (same : Indistinguishable now first second) (later : Rat) (ordered : now ≤ later) :
    Indistinguishable later first second :=
  { same with trackers := fun id key => (same.trackers id key).later later ordered }

theorem Indistinguishable.rescheduled (same : Indistinguishable now first second) (cleanedAt : Rat) :
    Indistinguishable now { first with lastCleanupTime := cleanedAt } second :=
  ⟨same.rules, same.iface, same.selfIps, same.alertCounter, same.trackers⟩

theorem expired_slot_alike (engine : StatefulDetectionEngine Rat) (slot : Slot Rat) (id : UInt32) (key : String)
    (alike : AlikeSlots now (slotAt engine id key) slot) :
    AlikeSlots now (slotAt (expireStates engine now) id key) slot := by
  rw [slot_expire]
  by_cases cleanup : cleanupDue engine now
  · rw [if_pos cleanup]
    exact alike.expire
  · rw [if_neg cleanup]
    exact alike

theorem expired_slots_alike (id : UInt32) (key : String)
    (alike : AlikeSlots now (slotAt first id key) (slotAt second id key)) :
    AlikeSlots now (slotAt (expireStates first now) id key) (slotAt (expireStates second now) id key) :=
  (expired_slot_alike second _ id key (expired_slot_alike first _ id key alike).symm).symm

theorem matches_ignoring (iface : first.iface = second.iface) (selfIps : first.selfIps = second.selfIps)
    (pkt : ParsedPacket) (rule : EvaluatedRule Rat) (ignores : IgnoresTable rule) :
    matchesAt first pkt now rule = matchesAt second pkt now rule := by
  rw [matchesAt, matchesAt, matchesRule, matchesRule, iface, selfIps,
    flow_state_ignores rule ignores pkt _ (turnTable second pkt now)]

theorem evaluate_rules_congr (some_ other : EvaluatedRule Rat → Bool) (pkt : ParsedPacket)
    (rules : List (EvaluatedRule Rat)) (agree : ∀ rule ∈ rules, some_ rule = other rule) (trackers : RateTrackers Rat) :
    evaluateRules some_ pkt now trackers rules = evaluateRules other pkt now trackers rules := by
  induction rules generalizing trackers with
  | nil => rfl
  | cons rule rest ih =>
      have turn : evaluateRule some_ pkt now trackers rule = evaluateRule other pkt now trackers rule := by
        rw [evaluateRule, evaluateRule, agree rule List.mem_cons_self]
      rw [evaluateRules, evaluateRules]
      dsimp only
      rw [turn, ih (fun later member => agree later (List.mem_cons_of_mem _ member))]

theorem Indistinguishable.outcome (same : Indistinguishable now first second)
    (inRange : ∀ rule ∈ first.rules, LimitsInRange rule) (ignores : ∀ rule ∈ first.rules, IgnoresTable rule)
    (pkt : ParsedPacket) :
    (ruleOutcome first pkt now).2 = (ruleOutcome second pkt now).2 ∧
      Alike now (ruleOutcome first pkt now).1 (ruleOutcome second pkt now).1 := by
  rw [ruleOutcome, ruleOutcome, ← same.rules, evaluate_rules_congr (matchesAt first pkt now) (matchesAt second pkt now)
    pkt first.rules (fun rule member => matches_ignoring same.iface same.selfIps pkt rule (ignores rule member))]
  exact rules_alike _ pkt first.rules inRange (fun id key => expired_slots_alike id key (same.trackers id key))

theorem expire_settings (engine : StatefulDetectionEngine Rat) (now : Rat) :
    (expireStates engine now).rules = engine.rules ∧ (expireStates engine now).iface = engine.iface ∧
      (expireStates engine now).selfIps = engine.selfIps ∧
      (expireStates engine now).alertCounter = engine.alertCounter := by
  rw [expireStates]
  by_cases cleanup : cleanupDue engine now
  · rw [if_pos cleanup]
    exact ⟨rfl, rfl, rfl, rfl⟩
  · rw [if_neg cleanup]
    exact ⟨rfl, rfl, rfl, rfl⟩

theorem Indistinguishable.expire (same : Indistinguishable now first second) :
    Indistinguishable now (expireStates first now) (expireStates second now) := by
  obtain ⟨rules, iface, selfIps, counter⟩ := expire_settings first now
  obtain ⟨otherRules, otherIface, otherSelfIps, otherCounter⟩ := expire_settings second now
  exact {
    rules := by rw [rules, otherRules, same.rules]
    iface := by rw [iface, otherIface, same.iface]
    selfIps := by rw [selfIps, otherSelfIps, same.selfIps]
    alertCounter := by rw [counter, otherCounter, same.alertCounter]
    trackers := fun id key => expired_slots_alike id key (same.trackers id key) }

theorem Indistinguishable.step (same : Indistinguishable now first second)
    (inRange : ∀ rule ∈ first.rules, LimitsInRange rule) (ignores : ∀ rule ∈ first.rules, IgnoresTable rule)
    (localTime : Nat → String) (pkt : ParsedPacket) :
    alertsOf localTime first ⟨pkt, now⟩ = alertsOf localTime second ⟨pkt, now⟩ ∧
      Indistinguishable now (Engine.step localTime first ⟨pkt, now⟩) (Engine.step localTime second ⟨pkt, now⟩) := by
  obtain ⟨pending, trackers⟩ := same.outcome inRange ignores pkt
  have expired := same.expire
  constructor
  · rw [alertsOf, alertsOf, processPacket, processPacket]
    dsimp only
    rw [pending, expired.iface, expired.alertCounter]
  · have counter : (expireStates first now).alertCounter + (ruleOutcome first pkt now).2.length =
        (expireStates second now).alertCounter + (ruleOutcome second pkt now).2.length := by
      rw [pending, expired.alertCounter]
    exact ⟨expired.rules, expired.iface, expired.selfIps, counter, trackers⟩

end Engines

-- A run in which each packet finds the cleanup clock at a time of our own choice:
-- 5 seconds back and the tables are cleaned, now and they are not.
def runScheduled (localTime : Nat → String) (engine : StatefulDetectionEngine Rat) :
    List (Arrival Rat × Rat) → List IdsmMessage
  | [] => []
  | (arrival, cleanedAt) :: rest =>
      alertsOf localTime { engine with lastCleanupTime := cleanedAt } arrival ++
        runScheduled localTime (step localTime { engine with lastCleanupTime := cleanedAt } arrival) rest

theorem scheduled_indistinguishable (localTime : Nat → String) (schedule : List (Arrival Rat × Rat)) (now : Rat)
    (first second : StatefulDetectionEngine Rat) (same : Indistinguishable now first second)
    (inRange : ∀ rule ∈ first.rules, LimitsInRange rule) (ignores : ∀ rule ∈ first.rules, IgnoresTable rule)
    (ordered : (now :: schedule.map fun turn => turn.1.now).Pairwise (· ≤ ·)) :
    runScheduled localTime first schedule = runAlerts localTime second (schedule.map Prod.fst) := by
  induction schedule generalizing now first second with
  | nil => rfl
  | cons turn rest ih =>
      obtain ⟨arrival, cleanedAt⟩ := turn
      obtain ⟨after, later⟩ := List.pairwise_cons.mp ordered
      have reached := (same.later arrival.now (after _ List.mem_cons_self)).rescheduled cleanedAt
      obtain ⟨alerts, next⟩ := reached.step inRange ignores localTime arrival.pkt
      have kept := step_rules localTime { first with lastCleanupTime := cleanedAt } arrival
      rw [runScheduled, List.map_cons, runAlerts, alerts]
      rw [ih arrival.now _ _ next (by rw [kept]; exact inRange) (by rw [kept]; exact ignores) later]

theorem ordered_from_first (t : Rat) (times : List Rat) (ordered : (t :: times).Pairwise (· ≤ ·)) :
    (t :: t :: times).Pairwise (· ≤ ·) := by
  refine List.pairwise_cons.mpr ⟨?_, ordered⟩
  intro later member
  rcases List.mem_cons.mp member with same | inside
  · exact le_of_eq same.symm
  · exact (List.pairwise_cons.mp ordered).1 later inside

-- When the tables are cleaned makes no difference to the alerts, as long as no
-- rule asks for an established connection.
theorem cleanup_schedule_unobservable (localTime : Nat → String) (engine : StatefulDetectionEngine Rat)
    (inRange : ∀ rule ∈ engine.rules, LimitsInRange rule) (ignores : ∀ rule ∈ engine.rules, IgnoresTable rule)
    (schedule : List (Arrival Rat × Rat)) (ordered : (schedule.map fun turn => turn.1.now).Pairwise (· ≤ ·)) :
    runScheduled localTime engine schedule = runAlerts localTime engine (schedule.map Prod.fst) := by
  cases schedule with
  | nil => rfl
  | cons turn rest =>
      exact scheduled_indistinguishable localTime _ turn.1.now engine engine (indistinguishable_refl _ engine) inRange
        ignores (ordered_from_first turn.1.now _ ordered)

theorem two_limits_in_range : ∀ rule ∈ (startedWith [twoLimitsRule]).rules, LimitsInRange rule := by
  intro rule member limit configured
  rw [List.mem_singleton.mp member] at configured
  cases configured
  exact ⟨by decide, by norm_num⟩

theorem two_limits_ignores : ∀ rule ∈ (startedWith [twoLimitsRule]).rules, IgnoresTable rule := by
  intro rule member
  rw [List.mem_singleton.mp member]
  show "any" ≠ "established"
  decide

theorem cleaned_between_two_packets :
    runScheduled (fun _ => "") (startedWith [twoLimitsRule]) [(bareArrival 0, 0), (bareArrival (1 / 2), -10)] =
      runAlerts (fun _ => "") (startedWith [twoLimitsRule]) [bareArrival 0, bareArrival (1 / 2)] :=
  cleanup_schedule_unobservable (fun _ => "") (startedWith [twoLimitsRule]) two_limits_in_range two_limits_ignores
    [(bareArrival 0, 0), (bareArrival (1 / 2), -10)] (by simp [bareArrival])

end NetworkIds.Engine
