import NetworkIds.Engine.Alerting

set_option autoImplicit false

namespace NetworkIds.Engine

open NetworkIds.Parser

variable {τ : Type}

-- The rules that use one slot for a packet: those of its id that match the
-- packet and count it for its key. Ids may repeat, so there may be several.
def slotRules (isMatch : EvaluatedRule τ → Bool) (pkt : ParsedPacket) (id : UInt32) (key : String)
    (rules : List (EvaluatedRule τ)) : List (EvaluatedRule τ) :=
  rules.filter fun rule => rule.id == id && (isMatch rule && resolveTrackingKey rule pkt == key)

theorem slot_rules_cons (isMatch : EvaluatedRule τ → Bool) (pkt : ParsedPacket) (id : UInt32) (key : String)
    (rule : EvaluatedRule τ) (rest : List (EvaluatedRule τ)) :
    slotRules isMatch pkt id key (rule :: rest) =
      slotRules isMatch pkt id key [rule] ++ slotRules isMatch pkt id key rest := by
  rw [slotRules, slotRules, slotRules, ← List.filter_append]
  rfl

theorem create_messages_reports (localTime : Nat → String) (iface : String) (counter : Nat)
    (pending : List PendingAlert) (id : UInt32) (key : String) :
    reports id key (createMessages localTime iface counter pending) =
      pending.filterMap fun alert => reportFor id key (anonymous (createMessage localTime iface 0 alert)) := by
  rw [← reports_anonymous, create_messages_anonymous, reports, List.filterMap_map]
  rfl

theorem report_other (localTime : Nat → String) (iface : String) (rule : EvaluatedRule τ) (id : UInt32)
    (sender key : String) (count : Nat) (other : ¬ (rule.id = id ∧ sender = key)) :
    reportFor id key (anonymous (createMessage localTime iface 0 (pendingAlert rule sender count))) = none := by
  by_cases sameId : rule.id = id
  · subst sameId
    rw [report_pending, if_neg (fun same => other ⟨rfl, same⟩)]
  · rw [reportFor, raised_by_pending, if_neg (by simp [sameId])]

variable [Sub τ] [LT τ] [DecidableLT τ] [Timestamp τ]

def Slot.steps (isNew : Bool) (now : τ) (slot : Slot τ) : List (EvaluatedRule τ) → Slot τ × List Nat
  | [] => (slot, [])
  | rule :: rest =>
      ((Slot.steps isNew now (Slot.step rule isNew now slot).1 rest).1,
        (Slot.step rule isNew now slot).2.toList ++ (Slot.steps isNew now (Slot.step rule isNew now slot).1 rest).2)

theorem steps_append (isNew : Bool) (now : τ) (slot : Slot τ) (first second : List (EvaluatedRule τ)) :
    Slot.steps isNew now slot (first ++ second) =
      ((Slot.steps isNew now (Slot.steps isNew now slot first).1 second).1,
        (Slot.steps isNew now slot first).2 ++ (Slot.steps isNew now (Slot.steps isNew now slot first).1 second).2) := by
  induction first generalizing slot with
  | nil => rfl
  | cons rule rest ih =>
      rw [List.cons_append, Slot.steps, Slot.steps, ih]
      simp only [List.append_assoc]

section Rules

variable (isMatch : EvaluatedRule τ → Bool) (pkt : ParsedPacket) (now : τ) (id : UInt32) (key : String)

theorem rule_slot (trackers : RateTrackers τ) (rule : EvaluatedRule τ) :
    slotOf (evaluateRule isMatch pkt now trackers rule).1 id key =
      (Slot.steps (isNewTcpConn pkt) now (slotOf trackers id key) (slotRules isMatch pkt id key [rule])).1 := by
  rw [evaluateRule, slotRules]
  by_cases sameId : rule.id = id
  · subst sameId
    by_cases matched : isMatch rule
    · rw [if_pos matched, matched_slot]
      by_cases own : key = resolveTrackingKey rule pkt
      · simp [matched, own, Slot.steps]
      · simp [matched, own, Ne.symm own, Slot.steps]
    · rw [if_neg matched]
      simp [matched, Slot.steps]
  · have untouched : slotOf (evaluateRule isMatch pkt now trackers rule).1 id key = slotOf trackers id key :=
      slot_same_at id key _ _ (rule_other isMatch pkt now trackers rule id (Ne.symm sameId))
    rw [evaluateRule] at untouched
    rw [untouched]
    simp [sameId, Slot.steps]

theorem rules_slot (trackers : RateTrackers τ) (rules : List (EvaluatedRule τ)) :
    slotOf (evaluateRules isMatch pkt now trackers rules).1 id key =
      (Slot.steps (isNewTcpConn pkt) now (slotOf trackers id key) (slotRules isMatch pkt id key rules)).1 := by
  induction rules generalizing trackers with
  | nil => rfl
  | cons rule rest ih =>
      rw [evaluateRules, slot_rules_cons, steps_append]
      dsimp only
      rw [ih, rule_slot]

theorem rule_reports (localTime : Nat → String) (iface : String) (trackers : RateTrackers τ)
    (rule : EvaluatedRule τ) :
    ((evaluateRule isMatch pkt now trackers rule).2.toList.filterMap fun alert =>
        reportFor id key (anonymous (createMessage localTime iface 0 alert))) =
      (Slot.steps (isNewTcpConn pkt) now (slotOf trackers id key) (slotRules isMatch pkt id key [rule])).2.map
        UInt32.ofNat := by
  rw [evaluateRule, slotRules]
  by_cases matched : isMatch rule
  · rw [if_pos matched, matched_alert]
    by_cases own : rule.id = id ∧ resolveTrackingKey rule pkt = key
    · obtain ⟨sameId, sameKey⟩ := own
      subst sameId sameKey
      cases triggered : (Slot.step rule (isNewTcpConn pkt) now
          (slotOf trackers rule.id (resolveTrackingKey rule pkt))).2 with
      | none => simp [matched, Slot.steps, triggered]
      | some count => simp [matched, Slot.steps, triggered, report_pending]
    · have absent : (rule.id == id && (isMatch rule && resolveTrackingKey rule pkt == key)) = false := by
        rw [matched, Bool.true_and, Bool.eq_false_iff, ne_eq, Bool.and_eq_true, beq_iff_eq, beq_iff_eq]
        exact own
      cases triggered : (Slot.step rule (isNewTcpConn pkt) now
          (slotOf trackers rule.id (resolveTrackingKey rule pkt))).2 with
      | none => simp [absent, Slot.steps]
      | some count =>
          simp [absent, Slot.steps, report_other localTime iface rule id (resolveTrackingKey rule pkt) key count own]
  · rw [if_neg matched]
    simp [matched, Slot.steps]

theorem rules_reports (localTime : Nat → String) (iface : String) (counter : Nat) (trackers : RateTrackers τ)
    (rules : List (EvaluatedRule τ)) :
    reports id key (createMessages localTime iface counter (evaluateRules isMatch pkt now trackers rules).2) =
      (Slot.steps (isNewTcpConn pkt) now (slotOf trackers id key) (slotRules isMatch pkt id key rules)).2.map
        UInt32.ofNat := by
  rw [create_messages_reports]
  induction rules generalizing trackers with
  | nil => rfl
  | cons rule rest ih =>
      rw [evaluateRules, slot_rules_cons, steps_append]
      dsimp only
      rw [List.filterMap_append, ih, rule_reports, rule_slot, List.map_append]

end Rules

def slotRulesAt (engine : StatefulDetectionEngine τ) (id : UInt32) (key : String) (arrival : Arrival τ)
    (rules : List (EvaluatedRule τ)) : List (EvaluatedRule τ) :=
  slotRules (matchesAt engine arrival.pkt arrival.now) arrival.pkt id key rules

theorem slot_rules_at_turn (engine : StatefulDetectionEngine τ) (before after : List (EvaluatedRule τ))
    (rule : EvaluatedRule τ) (key : String) (arrival : Arrival τ) (counted : countsFor engine rule key arrival = true) :
    slotRulesAt engine rule.id key arrival (before ++ rule :: after) =
      slotRulesAt engine rule.id key arrival before ++ rule :: slotRulesAt engine rule.id key arrival after := by
  have own : (rule.id == rule.id && (matchesAt engine arrival.pkt arrival.now rule &&
      resolveTrackingKey rule arrival.pkt == key)) = true := by
    rw [beq_self_eq_true, Bool.true_and]
    exact counted
  simp only [slotRulesAt, slotRules, List.filter_append, List.filter_cons, own, if_true]

theorem engine_slot (localTime : Nat → String) (engine : StatefulDetectionEngine τ) (arrival : Arrival τ)
    (id : UInt32) (key : String) :
    slotAt (step localTime engine arrival) id key =
      (Slot.steps (isNewTcpConn arrival.pkt) arrival.now (slotAt (expireStates engine arrival.now) id key)
        (slotRulesAt engine id key arrival engine.rules)).1 :=
  rules_slot _ arrival.pkt arrival.now id key _ engine.rules

theorem engine_reports (localTime : Nat → String) (engine : StatefulDetectionEngine τ) (arrival : Arrival τ)
    (id : UInt32) (key : String) :
    reports id key (alertsOf localTime engine arrival) =
      (Slot.steps (isNewTcpConn arrival.pkt) arrival.now (slotAt (expireStates engine arrival.now) id key)
        (slotRulesAt engine id key arrival engine.rules)).2.map UInt32.ofNat :=
  rules_reports _ arrival.pkt arrival.now id key localTime _ _ _ engine.rules

def bareArrival (now : τ) : Arrival τ := ⟨ParsedPacket.new .ethernet none, now⟩

def EveryStep (localTime : Nat → String) (condition : StatefulDetectionEngine τ → Arrival τ → Prop)
    (engine : StatefulDetectionEngine τ) (arrivals : List (Arrival τ)) : Prop :=
  ∀ earlier arrival later, arrivals = earlier ++ arrival :: later → condition (run localTime engine earlier) arrival

theorem every_step_concat (localTime : Nat → String) (condition : StatefulDetectionEngine τ → Arrival τ → Prop)
    (engine : StatefulDetectionEngine τ) (arrivals : List (Arrival τ)) (arrival : Arrival τ)
    (every : EveryStep localTime condition engine (arrivals ++ [arrival])) :
    EveryStep localTime condition engine arrivals ∧ condition (run localTime engine arrivals) arrival := by
  constructor
  · intro earlier middle later split
    exact every earlier middle (later ++ [arrival]) (by rw [split]; simp)
  · exact every arrivals arrival [] rfl

theorem every_step_extend (localTime : Nat → String) (condition : StatefulDetectionEngine τ → Arrival τ → Prop)
    (engine : StatefulDetectionEngine τ) (arrivals : List (Arrival τ)) (arrival : Arrival τ)
    (every : EveryStep localTime condition engine arrivals) (last : condition (run localTime engine arrivals) arrival) :
    EveryStep localTime condition engine (arrivals ++ [arrival]) := by
  intro earlier middle later split
  cases later using List.reverseRecOn with
  | nil =>
      obtain ⟨same, own⟩ := List.append_inj' split rfl
      cases own
      rw [← same]
      exact last
  | append_singleton before final =>
      have shorter : arrivals ++ [arrival] = (earlier ++ middle :: before) ++ [final] := by rw [split]; simp
      exact every earlier middle before (List.append_inj' shorter rfl).1

end NetworkIds.Engine
