import NetworkIds.Engine.Independence

set_option autoImplicit false

namespace NetworkIds.Engine

open NetworkIds.Parser

variable {τ : Type}

structure Slot (τ : Type) where
  requests : Option (List τ)
  connections : Option (List τ)

def slotOf (trackers : RateTrackers τ) (id : UInt32) (key : String) : Slot τ where
  requests := getTimestamps trackers.ruleRateTracker id key
  connections := getTimestamps trackers.connRateTracker id key

theorem slot_same_at (id : UInt32) (key : String) (first second : RateTrackers τ) (same : SameAt id first second) :
    slotOf first id key = slotOf second id key := by
  rw [slotOf, slotOf, getTimestamps, getTimestamps, getTimestamps, getTimestamps, same.rate, same.conn]

def Slot.record (isNew : Bool) (now : τ) (slot : Slot τ) : Slot τ where
  requests := some (slot.requests.getD [] ++ [now])
  connections := if isNew then some (slot.connections.getD [] ++ [now]) else slot.connections

theorem slot_record (trackers : RateTrackers τ) (id : UInt32) (key : String) (pkt : ParsedPacket) (now : τ)
    (sender : String) : slotOf (recordPacket id key pkt now trackers) id sender =
      if sender = key then (slotOf trackers id key).record (isNewTcpConn pkt) now else slotOf trackers id sender := by
  rw [slotOf, recordPacket]
  by_cases same : sender = key
  · subst same
    cases isNew : isNewTcpConn pkt
    · simp [slotOf, Slot.record, get_push]
    · simp [slotOf, Slot.record, get_push]
  · cases isNew : isNewTcpConn pkt
    · simp [slotOf, get_push, same]
    · simp [slotOf, get_push, same]

def reportFor (id : UInt32) (key : String) (message : IdsmMessage) : Option UInt32 :=
  if raisedBy id message then
    ((floodOf message).senderList.find? fun sender => sender.senderId == key).map SenderRate.pktRatePerSender
  else none

def reports (id : UInt32) (key : String) (messages : List IdsmMessage) : List UInt32 :=
  messages.filterMap (reportFor id key)

theorem reports_anonymous (id : UInt32) (key : String) (messages : List IdsmMessage) :
    reports id key (messages.map anonymous) = reports id key messages := by
  rw [reports, List.filterMap_map]
  rfl

theorem reports_raised (id : UInt32) (key : String) (messages : List IdsmMessage) :
    reports id key (messages.filter (raisedBy id)) = reports id key messages := by
  induction messages with
  | nil => rfl
  | cons message rest ih =>
      by_cases own : raisedBy id message
      · rw [List.filter_cons_of_pos own, reports, List.filterMap_cons]
        rw [reports, List.filterMap_cons]
        simp only [reports] at ih
        rw [ih]
      · have silent : reportFor id key message = none := by
          rw [reportFor, if_neg own]
        rw [List.filter_cons_of_neg own, ih, reports, reports, List.filterMap_cons, silent]

theorem report_pending (localTime : Nat → String) (iface : String) (rule : EvaluatedRule τ) (sender key : String)
    (count : Nat) : reportFor rule.id key (anonymous (createMessage localTime iface 0 (pendingAlert rule sender count))) =
      if sender = key then some (UInt32.ofNat count) else none := by
  rw [reportFor, raised_by_pending, if_pos (by simp)]
  by_cases same : sender = key
  · simp [floodOf, anonymous, createMessage, pendingAlert, same]
  · simp [floodOf, anonymous, createMessage, pendingAlert, same]

theorem nonempty_getD (timestamps : Option (List τ)) :
    (timestamps.filter fun ts => !ts.isEmpty).getD [] = timestamps.getD [] := by
  cases timestamps with
  | none => rfl
  | some ts =>
      cases ts with
      | nil => rfl
      | cons t rest => rfl

variable [Sub τ] [LT τ] [DecidableLT τ] [Timestamp τ]

def prune (now : τ) (timestamps : List τ) : List τ := timestamps.filter (within now 60)

theorem pruned_getD (now : τ) (timestamps : Option (List τ)) :
    (timestamps.map (prune now)).getD [] = prune now (timestamps.getD []) := by
  cases timestamps with
  | none => rfl
  | some ts => rfl

def Slot.settle (now : τ) (triggered : Bool) (slot : Slot τ) : Slot τ :=
  if triggered then ⟨none, none⟩ else ⟨slot.requests.map (prune now), slot.connections.map (prune now)⟩

theorem slot_settle (trackers : RateTrackers τ) (id : UInt32) (key : String) (now : τ) (triggered : Bool)
    (sender : String) : slotOf (settleTrackers id key now triggered trackers) id sender =
      if sender = key then (slotOf trackers id key).settle now triggered else slotOf trackers id sender := by
  cases triggered
  · by_cases same : sender = key
    · simp [slotOf, settleTrackers, Slot.settle, get_prune, same]
      exact ⟨rfl, rfl⟩
    · simp [slotOf, settleTrackers, get_prune, same]
  · by_cases same : sender = key
    · simp [slotOf, settleTrackers, Slot.settle, get_remove, same]
    · simp [slotOf, settleTrackers, get_prune, get_remove, same]

def Slot.step (rule : EvaluatedRule τ) (isNew : Bool) (now : τ) (slot : Slot τ) : Slot τ × Option Nat :=
  let recorded := slot.record isNew now
  let triggered := triggeredCount rule recorded.requests recorded.connections now
  (recorded.settle now triggered.isSome, triggered)

theorem slot_step_kept (rule : EvaluatedRule τ) (isNew : Bool) (now : τ) (slot : Slot τ)
    (silent : (Slot.step rule isNew now slot).2 = none) :
    (Slot.step rule isNew now slot).1 =
      ⟨(slot.record isNew now).requests.map (prune now), (slot.record isNew now).connections.map (prune now)⟩ := by
  rw [Slot.step] at silent ⊢
  dsimp only at silent ⊢
  rw [silent]
  rfl

theorem matched_slot (rule : EvaluatedRule τ) (pkt : ParsedPacket) (now : τ) (trackers : RateTrackers τ)
    (key : String) : slotOf (evaluateMatched rule pkt now trackers).1 rule.id key =
      if key = resolveTrackingKey rule pkt then
        (Slot.step rule (isNewTcpConn pkt) now (slotOf trackers rule.id key)).1
      else slotOf trackers rule.id key := by
  rw [evaluateMatched]
  dsimp only
  rw [slot_settle]
  have recorded := slot_record trackers rule.id (resolveTrackingKey rule pkt) pkt now
  by_cases same : key = resolveTrackingKey rule pkt
  · subst same
    have own := recorded (resolveTrackingKey rule pkt)
    rw [if_pos rfl] at own
    rw [if_pos rfl, if_pos rfl, own, Slot.step]
    dsimp only
    rw [← own]
    rfl
  · rw [if_neg same, if_neg same, recorded key, if_neg same]

theorem matched_alert (rule : EvaluatedRule τ) (pkt : ParsedPacket) (now : τ) (trackers : RateTrackers τ) :
    (evaluateMatched rule pkt now trackers).2 =
      (Slot.step rule (isNewTcpConn pkt) now (slotOf trackers rule.id (resolveTrackingKey rule pkt))).2.map
        (pendingAlert rule (resolveTrackingKey rule pkt)) := by
  have own := slot_record trackers rule.id (resolveTrackingKey rule pkt) pkt now (resolveTrackingKey rule pkt)
  rw [if_pos rfl] at own
  rw [evaluateMatched, Slot.step]
  dsimp only
  rw [← own]
  rfl

def countsFor (engine : StatefulDetectionEngine τ) (rule : EvaluatedRule τ) (key : String) (arrival : Arrival τ) :
    Bool := matchesAt engine arrival.pkt arrival.now rule && resolveTrackingKey rule arrival.pkt == key

def Slot.expire (now : τ) (slot : Slot τ) : Slot τ where
  requests := (slot.requests.map (prune now)).filter fun timestamps => !timestamps.isEmpty
  connections := (slot.connections.map (prune now)).filter fun timestamps => !timestamps.isEmpty

def slotAt (engine : StatefulDetectionEngine τ) (id : UInt32) (key : String) : Slot τ :=
  slotOf engine.toRateTrackers id key

theorem slot_expire (engine : StatefulDetectionEngine τ) (now : τ) (id : UInt32) (key : String) :
    slotAt (expireStates engine now) id key =
      if cleanupDue engine now then (slotAt engine id key).expire now else slotAt engine id key := by
  rw [expireStates]
  by_cases cleanup : cleanupDue engine now
  · rw [if_pos cleanup, if_pos cleanup, slotAt, slotOf, get_expire, get_expire]
    rfl
  · rw [if_neg cleanup, if_neg cleanup]

theorem step_slot (localTime : Nat → String) (engine : StatefulDetectionEngine τ) (arrival : Arrival τ)
    (distinct : (engine.rules.map EvaluatedRule.id).Nodup) (rule : EvaluatedRule τ) (member : rule ∈ engine.rules)
    (key : String) : slotAt (step localTime engine arrival) rule.id key =
      if countsFor engine rule key arrival then
        (Slot.step rule (isNewTcpConn arrival.pkt) arrival.now
          (slotAt (expireStates engine arrival.now) rule.id key)).1
      else slotAt (expireStates engine arrival.now) rule.id key := by
  have among := rules_local (matchesAt engine arrival.pkt arrival.now) arrival.pkt arrival.now
    (expireStates engine arrival.now).toRateTrackers engine.rules distinct rule member
  have trackers := slot_same_at rule.id key _ _ among
  rw [countsFor]
  refine trackers.trans ?_
  rw [evaluateRule]
  by_cases matched : matchesAt engine arrival.pkt arrival.now rule
  · rw [if_pos matched, matched_slot, matched, Bool.true_and]
    by_cases own : key = resolveTrackingKey rule arrival.pkt
    · rw [if_pos own, if_pos (by simpa using own.symm)]
      rfl
    · rw [if_neg own, if_neg (by simpa using Ne.symm own)]
      rfl
  · rw [if_neg matched, if_neg (by simp [matched])]
    rfl

theorem step_reports (localTime : Nat → String) (engine : StatefulDetectionEngine τ) (arrival : Arrival τ)
    (distinct : (engine.rules.map EvaluatedRule.id).Nodup) (rule : EvaluatedRule τ) (member : rule ∈ engine.rules)
    (key : String) : reports rule.id key (alertsOf localTime engine arrival) =
      if countsFor engine rule key arrival then
        ((Slot.step rule (isNewTcpConn arrival.pkt) arrival.now
          (slotAt (expireStates engine arrival.now) rule.id key)).2.map UInt32.ofNat).toList
      else [] := by
  rw [← reports_anonymous, ← reports_raised, alerts_anonymous localTime engine arrival distinct,
    messages_of_rule _ _ _ _ _ _ _ distinct rule member, ruleMessages, evaluateRule, countsFor]
  by_cases matched : matchesAt engine arrival.pkt arrival.now rule
  · rw [if_pos matched, matched_alert, matched, Bool.true_and]
    by_cases own : resolveTrackingKey rule arrival.pkt = key
    · subst own
      rw [if_pos (beq_self_eq_true _), slotAt]
      cases triggered : (Slot.step rule (isNewTcpConn arrival.pkt) arrival.now
          (slotOf (expireStates engine arrival.now).toRateTrackers rule.id
            (resolveTrackingKey rule arrival.pkt))).2 with
      | none => rfl
      | some count => simp [reports, report_pending]
    · rw [if_neg (by simpa using own)]
      cases triggered : (Slot.step rule (isNewTcpConn arrival.pkt) arrival.now
          (slotOf (expireStates engine arrival.now).toRateTrackers rule.id
            (resolveTrackingKey rule arrival.pkt))).2 with
      | none => rfl
      | some count => simp [reports, report_pending, own]
  · rw [if_neg matched, if_neg (by simp [matched])]
    rfl

end NetworkIds.Engine
