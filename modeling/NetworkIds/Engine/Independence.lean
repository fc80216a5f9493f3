import NetworkIds.Engine.RuleLoop

set_option autoImplicit false

namespace NetworkIds.Engine

open NetworkIds.Parser

variable {τ : Type}

theorem packet_signature_injective (first second : UInt32) (same : packetSignature first = packetSignature second) :
    first = second := by
  have texts : Nat.repr first.toNat = Nat.repr second.toNat := by
    simpa [packetSignature] using same
  have digits := congrArg (fun text => Nat.ofDigitChars 10 text.toList 0) texts
  simp only [Nat.toList_repr, Nat.ofDigitChars_ten_toDigits] at digits
  exact UInt32.toNat_inj.mp digits

def anonymous (message : IdsmMessage) : IdsmMessage :=
  { message with seqNo := 0, event := { message.event with timestamp := "" } }

def floodOf (message : IdsmMessage) : ProtocolConformantFlood :=
  match message.event.payload with
  | .protocolConformantFlood flood => flood

def raisedBy (id : UInt32) (message : IdsmMessage) : Bool :=
  (floodOf message).packetSignatureHash == packetSignature id

theorem create_messages_anonymous (localTime : Nat → String) (iface : String) (counter : Nat)
    (pending : List PendingAlert) : (createMessages localTime iface counter pending).map anonymous =
      pending.map fun alert => anonymous (createMessage localTime iface 0 alert) := by
  induction pending generalizing counter with
  | nil => rfl
  | cons alert rest ih =>
      rw [createMessages, List.map_cons, List.map_cons, ih]
      rfl

theorem create_messages_numbers (localTime : Nat → String) (iface : String) (counter : Nat)
    (pending : List PendingAlert) : (createMessages localTime iface counter pending).map IdsmMessage.seqNo =
      List.range' (counter + 1) pending.length := by
  induction pending generalizing counter with
  | nil => rfl
  | cons alert rest ih =>
      rw [createMessages, List.map_cons, ih]
      rfl

theorem raised_by_pending (localTime : Nat → String) (iface : String) (rule : EvaluatedRule τ) (key : String)
    (count : Nat) (id : UInt32) :
    raisedBy id (anonymous (createMessage localTime iface 0 (pendingAlert rule key count))) = decide (rule.id = id) := by
  rw [raisedBy, floodOf, Bool.eq_iff_iff, beq_iff_eq, decide_eq_true_iff]
  constructor
  · exact packet_signature_injective rule.id id
  · rintro rfl
    rfl

-- Rules share tracker entries only if they are one and the same rule.
def SameIdSameRule (rules : List (EvaluatedRule τ)) : Prop :=
  ∀ first ∈ rules, ∀ second ∈ rules, first.id = second.id → first = second

theorem distinct_ids_same_rule (rules : List (EvaluatedRule τ)) (distinct : (rules.map EvaluatedRule.id).Nodup) :
    SameIdSameRule rules := fun _ firstMember _ secondMember sameId =>
  List.inj_on_of_nodup_map distinct firstMember secondMember sameId

variable [Sub τ] [LT τ] [DecidableLT τ] [Timestamp τ]

theorem rule_alert_shape (isMatch : EvaluatedRule τ → Bool) (pkt : ParsedPacket) (now : τ)
    (trackers : RateTrackers τ) (rule : EvaluatedRule τ) (alert : PendingAlert)
    (raised : alert ∈ (evaluateRule isMatch pkt now trackers rule).2) :
    ∃ key count, alert = pendingAlert rule key count := by
  rw [evaluateRule] at raised
  by_cases matched : isMatch rule
  · rw [if_pos matched, evaluateMatched] at raised
    obtain ⟨count, _, same⟩ := Option.mem_map.mp raised
    exact ⟨_, count, same.symm⟩
  · rw [if_neg matched] at raised
    cases raised

def ruleMessages (localTime : Nat → String) (iface : String) (isMatch : EvaluatedRule τ → Bool) (pkt : ParsedPacket)
    (now : τ) (trackers : RateTrackers τ) (rule : EvaluatedRule τ) : List IdsmMessage :=
  (evaluateRule isMatch pkt now trackers rule).2.toList.map
    fun alert => anonymous (createMessage localTime iface 0 alert)

theorem rule_messages_signed (localTime : Nat → String) (iface : String) (isMatch : EvaluatedRule τ → Bool)
    (pkt : ParsedPacket) (now : τ) (trackers : RateTrackers τ) (rule : EvaluatedRule τ) (id : UInt32) :
    (ruleMessages localTime iface isMatch pkt now trackers rule).filter (raisedBy id) =
      if rule.id = id then ruleMessages localTime iface isMatch pkt now trackers rule else [] := by
  rw [ruleMessages]
  cases raised : (evaluateRule isMatch pkt now trackers rule).2 with
  | none => simp
  | some alert =>
      obtain ⟨key, count, same⟩ := rule_alert_shape isMatch pkt now trackers rule alert raised
      subst same
      have signed := raised_by_pending localTime iface rule key count id
      by_cases own : rule.id = id
      · simp [own, signed]
      · simp [own, signed]

theorem other_rules_messages (localTime : Nat → String) (iface : String) (isMatch : EvaluatedRule τ → Bool)
    (pkt : ParsedPacket) (now : τ) (trackers : RateTrackers τ) (rules : List (EvaluatedRule τ)) (id : UInt32)
    (absent : id ∉ rules.map EvaluatedRule.id) :
    (rules.flatMap (ruleMessages localTime iface isMatch pkt now trackers)).filter (raisedBy id) = [] := by
  induction rules with
  | nil => rfl
  | cons rule rest ih =>
      simp only [List.map_cons, List.mem_cons, not_or] at absent
      rw [List.flatMap_cons, List.filter_append, ih absent.2, rule_messages_signed,
        if_neg (Ne.symm absent.1), List.nil_append]

theorem rules_messages (localTime : Nat → String) (iface : String) (isMatch : EvaluatedRule τ → Bool)
    (pkt : ParsedPacket) (now : τ) (trackers : RateTrackers τ) (rules : List (EvaluatedRule τ)) (counter : Nat)
    (distinct : (rules.map EvaluatedRule.id).Nodup) :
    (createMessages localTime iface counter (evaluateRules isMatch pkt now trackers rules).2).map anonymous =
      rules.flatMap (ruleMessages localTime iface isMatch pkt now trackers) := by
  rw [create_messages_anonymous, rules_alerts isMatch pkt now trackers rules distinct, List.map_flatMap]
  rfl

theorem messages_of_rule (localTime : Nat → String) (iface : String) (isMatch : EvaluatedRule τ → Bool)
    (pkt : ParsedPacket) (now : τ) (trackers : RateTrackers τ) (rules : List (EvaluatedRule τ))
    (distinct : (rules.map EvaluatedRule.id).Nodup) (rule : EvaluatedRule τ) (member : rule ∈ rules) :
    (rules.flatMap (ruleMessages localTime iface isMatch pkt now trackers)).filter (raisedBy rule.id) =
      ruleMessages localTime iface isMatch pkt now trackers rule := by
  induction rules with
  | nil => cases member
  | cons first rest ih =>
      obtain ⟨fresh, restDistinct⟩ := List.nodup_cons.mp distinct
      rw [List.flatMap_cons, List.filter_append, rule_messages_signed]
      rcases List.mem_cons.mp member with same | later
      · subst same
        rw [if_pos rfl, other_rules_messages _ _ _ _ _ _ _ _ fresh, List.append_nil]
      · have different : first.id ≠ rule.id := fun same => fresh (same ▸ List.mem_map_of_mem later)
        rw [if_neg different, ih restDistinct later, List.nil_append]

structure Shared (first second : StatefulDetectionEngine τ) : Prop where
  accessPoints : first.accessPoints = second.accessPoints
  clients : first.clients = second.clients
  sessions : first.sessions = second.sessions
  lastCleanupTime : first.lastCleanupTime = second.lastCleanupTime
  iface : first.iface = second.iface
  selfIps : first.selfIps = second.selfIps
  tcpConnTable : first.tcpConnTable = second.tcpConnTable

theorem expire_shared (first second : StatefulDetectionEngine τ) (now : τ) (shared : Shared first second) :
    Shared (expireStates first now) (expireStates second now) := by
  have due : cleanupDue first now = cleanupDue second now := by
    rw [cleanupDue, cleanupDue, shared.lastCleanupTime]
  obtain ⟨accessPoints, clients, sessions, _, iface, selfIps, tcpConnTable⟩ := shared
  rw [expireStates, expireStates, due]
  by_cases cleanup : cleanupDue second now
  · rw [if_pos cleanup, if_pos cleanup]
    exact ⟨by rw [accessPoints], by rw [clients], by rw [sessions], rfl, iface, selfIps, by rw [tcpConnTable]⟩
  · rw [if_neg cleanup, if_neg cleanup]
    exact ⟨accessPoints, clients, sessions, by assumption, iface, selfIps, tcpConnTable⟩

theorem expire_same_at (first second : StatefulDetectionEngine τ) (now : τ) (id : UInt32)
    (shared : Shared first second) (same : SameAt id first.toRateTrackers second.toRateTrackers) :
    SameAt id (expireStates first now).toRateTrackers (expireStates second now).toRateTrackers := by
  have due : cleanupDue first now = cleanupDue second now := by
    rw [cleanupDue, cleanupDue, shared.lastCleanupTime]
  rw [expireStates, expireStates, due]
  by_cases cleanup : cleanupDue second now
  · rw [if_pos cleanup, if_pos cleanup]
    refine ⟨?_, ?_⟩
    · dsimp only
      rw [expireTracker, expireTracker, HashMap.lookup_map_values, HashMap.lookup_map_values, same.rate]
    · dsimp only
      rw [expireTracker, expireTracker, HashMap.lookup_map_values, HashMap.lookup_map_values, same.conn]
  · rw [if_neg cleanup, if_neg cleanup]
    exact same

theorem turn_table_shared (first second : StatefulDetectionEngine τ) (pkt : ParsedPacket) (now : τ)
    (shared : Shared first second) : turnTable first pkt now = turnTable second pkt now := by
  rw [turnTable, turnTable, (expire_shared first second now shared).tcpConnTable]

theorem matches_at_shared (first second : StatefulDetectionEngine τ) (pkt : ParsedPacket) (now : τ)
    (shared : Shared first second) : matchesAt first pkt now = matchesAt second pkt now := by
  funext rule
  rw [matchesAt, matchesAt, turn_table_shared first second pkt now shared, shared.iface, shared.selfIps]

theorem step_shared (localTime : Nat → String) (first second : StatefulDetectionEngine τ) (arrival : Arrival τ)
    (shared : Shared first second) : Shared (step localTime first arrival) (step localTime second arrival) := by
  have expired := expire_shared first second arrival.now shared
  have table := turn_table_shared first second arrival.pkt arrival.now shared
  exact ⟨by simp only [step, processPacket, expired.accessPoints], by simp only [step, processPacket, expired.clients],
    expired.sessions, expired.lastCleanupTime, expired.iface, expired.selfIps, table⟩

theorem step_rules (localTime : Nat → String) (engine : StatefulDetectionEngine τ) (arrival : Arrival τ) :
    (step localTime engine arrival).rules = engine.rules := by
  have unchanged : (expireStates engine arrival.now).rules = engine.rules := by
    rw [expireStates]
    by_cases cleanup : cleanupDue engine arrival.now
    · rw [if_pos cleanup]
    · rw [if_neg cleanup]
  exact unchanged

structure Isolates (rule : EvaluatedRule τ) (full alone : StatefulDetectionEngine τ) : Prop where
  member : rule ∈ full.rules
  distinct : (full.rules.map EvaluatedRule.id).Nodup
  single : alone.rules = [rule]
  shared : Shared full alone
  same : SameAt rule.id full.toRateTrackers alone.toRateTrackers

theorem outcome_isolated (rule : EvaluatedRule τ) (full alone : StatefulDetectionEngine τ) (pkt : ParsedPacket)
    (now : τ) (isolates : Isolates rule full alone) :
    SameAt rule.id (ruleOutcome full pkt now).1 (ruleOutcome alone pkt now).1 := by
  have expired := expire_same_at full alone now rule.id isolates.shared isolates.same
  have matching := matches_at_shared full alone pkt now isolates.shared
  have one := rules_local (matchesAt alone pkt now) pkt now (expireStates alone now).toRateTrackers [rule]
    (by simp) rule (List.mem_singleton_self rule)
  have among := rules_local (matchesAt alone pkt now) pkt now (expireStates full now).toRateTrackers full.rules
    isolates.distinct rule isolates.member
  rw [ruleOutcome, ruleOutcome, matching, isolates.single]
  exact (among.trans (rule_local _ pkt now _ _ rule expired).1).trans one.symm

theorem step_isolates (localTime : Nat → String) (rule : EvaluatedRule τ) (full alone : StatefulDetectionEngine τ)
    (arrival : Arrival τ) (isolates : Isolates rule full alone) :
    Isolates rule (step localTime full arrival) (step localTime alone arrival) where
  member := by
    rw [step_rules]
    exact isolates.member
  distinct := by
    rw [step_rules]
    exact isolates.distinct
  single := by
    rw [step_rules]
    exact isolates.single
  shared := step_shared localTime full alone arrival isolates.shared
  same := outcome_isolated rule full alone arrival.pkt arrival.now isolates

theorem run_isolates (localTime : Nat → String) (rule : EvaluatedRule τ) (full alone : StatefulDetectionEngine τ)
    (arrivals : List (Arrival τ)) (isolates : Isolates rule full alone) :
    Isolates rule (run localTime full arrivals) (run localTime alone arrivals) := by
  induction arrivals generalizing full alone with
  | nil => exact isolates
  | cons arrival rest ih => exact ih _ _ (step_isolates localTime rule full alone arrival isolates)

theorem expire_iface (engine : StatefulDetectionEngine τ) (now : τ) :
    (expireStates engine now).iface = engine.iface := by
  rw [expireStates]
  by_cases cleanup : cleanupDue engine now
  · rw [if_pos cleanup]
  · rw [if_neg cleanup]

theorem alerts_anonymous (localTime : Nat → String) (engine : StatefulDetectionEngine τ) (arrival : Arrival τ)
    (distinct : (engine.rules.map EvaluatedRule.id).Nodup) :
    (alertsOf localTime engine arrival).map anonymous =
      engine.rules.flatMap (ruleMessages localTime engine.iface (matchesAt engine arrival.pkt arrival.now) arrival.pkt
        arrival.now (expireStates engine arrival.now).toRateTrackers) := by
  rw [alertsOf, processPacket]
  dsimp only
  rw [ruleOutcome, rules_messages _ _ _ _ _ _ _ _ distinct, expire_iface]

theorem isolated_messages (localTime : Nat → String) (rule : EvaluatedRule τ) (full alone : StatefulDetectionEngine τ)
    (arrival : Arrival τ) (isolates : Isolates rule full alone) :
    ((alertsOf localTime full arrival).map anonymous).filter (raisedBy rule.id) =
      (alertsOf localTime alone arrival).map anonymous := by
  have expired := expire_same_at full alone arrival.now rule.id isolates.shared isolates.same
  have matching := matches_at_shared full alone arrival.pkt arrival.now isolates.shared
  have iface := isolates.shared.iface
  have same := (rule_local (matchesAt alone arrival.pkt arrival.now) arrival.pkt arrival.now _ _ rule expired).2
  rw [alerts_anonymous localTime full arrival isolates.distinct,
    alerts_anonymous localTime alone arrival (by simp [isolates.single]),
    messages_of_rule _ _ _ _ _ _ _ isolates.distinct rule isolates.member, isolates.single, List.flatMap_singleton,
    ruleMessages, ruleMessages, matching, iface, same]

theorem rules_commute (isMatch : EvaluatedRule τ → Bool) (pkt : ParsedPacket) (now : τ) (trackers : RateTrackers τ)
    (first second : EvaluatedRule τ) (different : first.id ≠ second.id) :
    (evaluateRule isMatch pkt now (evaluateRule isMatch pkt now trackers first).1 second).1 =
      (evaluateRule isMatch pkt now (evaluateRule isMatch pkt now trackers second).1 first).1 := by
  have secondSees := rule_other isMatch pkt now trackers first second.id (Ne.symm different)
  have firstSees := rule_other isMatch pkt now trackers second first.id different
  refine trackers_ext _ _ fun id => ?_
  by_cases isFirst : id = first.id
  · subst isFirst
    have untouched := rule_other isMatch pkt now (evaluateRule isMatch pkt now trackers first).1 second first.id different
    exact untouched.trans (rule_local isMatch pkt now _ trackers first firstSees).1.symm
  · by_cases isSecond : id = second.id
    · subst isSecond
      have untouched := rule_other isMatch pkt now (evaluateRule isMatch pkt now trackers second).1 first second.id
        (Ne.symm different)
      exact (rule_local isMatch pkt now _ trackers second secondSees).1.trans untouched.symm
    · have left := (rule_other isMatch pkt now _ second id isSecond).trans
        (rule_other isMatch pkt now trackers first id isFirst)
      have right := (rule_other isMatch pkt now _ first id isFirst).trans
        (rule_other isMatch pkt now trackers second id isSecond)
      exact left.trans right.symm

theorem rule_alert_unmoved (isMatch : EvaluatedRule τ → Bool) (pkt : ParsedPacket) (now : τ)
    (trackers : RateTrackers τ) (first second : EvaluatedRule τ) (different : first.id ≠ second.id) :
    (evaluateRule isMatch pkt now (evaluateRule isMatch pkt now trackers first).1 second).2 =
      (evaluateRule isMatch pkt now trackers second).2 :=
  (rule_local isMatch pkt now _ trackers second
    (rule_other isMatch pkt now trackers first second.id (Ne.symm different))).2

theorem evaluate_permuted (isMatch : EvaluatedRule τ → Bool) (pkt : ParsedPacket) (now : τ)
    (trackers : RateTrackers τ) (rules other : List (EvaluatedRule τ)) (coherent : SameIdSameRule rules)
    (permuted : other.Perm rules) :
    (evaluateRules isMatch pkt now trackers other).1 = (evaluateRules isMatch pkt now trackers rules).1 ∧
      (evaluateRules isMatch pkt now trackers other).2.Perm (evaluateRules isMatch pkt now trackers rules).2 := by
  induction permuted generalizing trackers with
  | nil => exact ⟨rfl, .refl _⟩
  | cons rule _ ih =>
      obtain ⟨sameTrackers, sameAlerts⟩ := ih (evaluateRule isMatch pkt now trackers rule).1
        (fun first member second later => coherent first (.tail _ member) second (.tail _ later))
      exact ⟨sameTrackers, sameAlerts.append_left _⟩
  | swap first second rest =>
      by_cases sameId : first.id = second.id
      · rw [coherent first (by simp) second (by simp) sameId]
        exact ⟨rfl, .refl _⟩
      · have trackersSame := rules_commute isMatch pkt now trackers first second sameId
        have firstAlert := rule_alert_unmoved isMatch pkt now trackers second first (Ne.symm sameId)
        have secondAlert := rule_alert_unmoved isMatch pkt now trackers first second sameId
        simp only [evaluateRules, trackersSame, firstAlert, secondAlert]
        refine ⟨trivial, ?_⟩
        rw [← List.append_assoc, ← List.append_assoc]
        exact List.perm_append_comm.append_right _
  | trans left right leftIh rightIh =>
      obtain ⟨rightTrackers, rightAlerts⟩ := rightIh trackers coherent
      obtain ⟨leftTrackers, leftAlerts⟩ := leftIh trackers (fun first member second later =>
        coherent first (right.mem_iff.mp member) second (right.mem_iff.mp later))
      exact ⟨leftTrackers.trans rightTrackers, leftAlerts.trans rightAlerts⟩

theorem expire_reordered (engine : StatefulDetectionEngine τ) (rules : List (EvaluatedRule τ)) (now : τ) :
    expireStates { engine with rules := rules } now = { expireStates engine now with rules := rules } := by
  rw [expireStates, expireStates]
  by_cases cleanup : cleanupDue engine now
  · rw [if_pos cleanup, if_pos (show cleanupDue { engine with rules := rules } now from cleanup)]
  · rw [if_neg cleanup, if_neg (show ¬ cleanupDue { engine with rules := rules } now from cleanup)]

theorem reordered_outcome (engine : StatefulDetectionEngine τ) (rules : List (EvaluatedRule τ)) (pkt : ParsedPacket)
    (now : τ) : ruleOutcome { engine with rules := rules } pkt now =
      evaluateRules (matchesAt engine pkt now) pkt now (expireStates engine now).toRateTrackers rules := by
  have matching : matchesAt { engine with rules := rules } pkt now = matchesAt engine pkt now :=
    matches_at_shared _ _ pkt now ⟨rfl, rfl, rfl, rfl, rfl, rfl, rfl⟩
  rw [ruleOutcome, matching, expire_reordered]

theorem step_reordered (localTime : Nat → String) (engine : StatefulDetectionEngine τ)
    (rules : List (EvaluatedRule τ)) (arrival : Arrival τ) (coherent : SameIdSameRule engine.rules)
    (permuted : rules.Perm engine.rules) : step localTime { engine with rules := rules } arrival =
      { step localTime engine arrival with rules := rules } := by
  obtain ⟨trackers, alerts⟩ := evaluate_permuted (matchesAt engine arrival.pkt arrival.now) arrival.pkt arrival.now
    (expireStates engine arrival.now).toRateTrackers engine.rules rules coherent permuted
  have table : turnTable { engine with rules := rules } arrival.pkt arrival.now =
      turnTable engine arrival.pkt arrival.now := by rw [turnTable, turnTable, expire_reordered]
  simp only [step, processPacket, reordered_outcome, expire_reordered, trackers, alerts.length_eq, table]
  rfl

theorem run_reordered (localTime : Nat → String) (engine : StatefulDetectionEngine τ)
    (rules : List (EvaluatedRule τ)) (arrivals : List (Arrival τ)) (coherent : SameIdSameRule engine.rules)
    (permuted : rules.Perm engine.rules) :
    run localTime { engine with rules := rules } arrivals = { run localTime engine arrivals with rules := rules } := by
  induction arrivals generalizing engine with
  | nil => rfl
  | cons arrival rest ih =>
      have next := ih (step localTime engine arrival) (by rwa [step_rules]) (by rwa [step_rules])
      rw [← step_reordered localTime engine rules arrival coherent permuted] at next
      exact next

theorem run_rules (localTime : Nat → String) (engine : StatefulDetectionEngine τ) (arrivals : List (Arrival τ)) :
    (run localTime engine arrivals).rules = engine.rules := by
  induction arrivals generalizing engine with
  | nil => rfl
  | cons arrival rest ih => exact (ih (step localTime engine arrival)).trans (step_rules localTime engine arrival)

theorem reordered_alerts (localTime : Nat → String) (engine : StatefulDetectionEngine τ)
    (rules : List (EvaluatedRule τ)) (arrival : Arrival τ) (coherent : SameIdSameRule engine.rules)
    (permuted : rules.Perm engine.rules) :
    ((alertsOf localTime { engine with rules := rules } arrival).map anonymous).Perm
        ((alertsOf localTime engine arrival).map anonymous) ∧
      (alertsOf localTime { engine with rules := rules } arrival).map IdsmMessage.seqNo =
        (alertsOf localTime engine arrival).map IdsmMessage.seqNo := by
  obtain ⟨_, alerts⟩ := evaluate_permuted (matchesAt engine arrival.pkt arrival.now) arrival.pkt arrival.now
    (expireStates engine arrival.now).toRateTrackers engine.rules rules coherent permuted
  rw [alertsOf, alertsOf, processPacket, processPacket]
  dsimp only
  rw [reordered_outcome, expire_reordered, create_messages_anonymous, create_messages_anonymous,
    create_messages_numbers, create_messages_numbers]
  exact ⟨alerts.map _, by rw [alerts.length_eq]; rfl⟩

structure Undisturbed (localTime : Nat → String) (engine : StatefulDetectionEngine τ) (rule : EvaluatedRule τ)
    (arrivals : List (Arrival τ)) (arrival : Arrival τ) : Prop where
  trackers : SameAt rule.id (run localTime engine arrivals).toRateTrackers
    (run localTime { engine with rules := [rule] } arrivals).toRateTrackers
  alerts : ((alertsOf localTime (run localTime engine arrivals) arrival).map anonymous).filter (raisedBy rule.id) =
    (alertsOf localTime (run localTime { engine with rules := [rule] } arrivals) arrival).map anonymous

-- Another order of the rules gives the same tables, and for every packet the same
-- messages with the same numbers in another order.
structure OrderIrrelevant (localTime : Nat → String) (engine : StatefulDetectionEngine τ)
    (rules : List (EvaluatedRule τ)) (arrivals : List (Arrival τ)) (arrival : Arrival τ) : Prop where
  tables : run localTime { engine with rules := rules } arrivals =
    { run localTime engine arrivals with rules := rules }
  alerts : ((alertsOf localTime (run localTime { engine with rules := rules } arrivals) arrival).map anonymous).Perm
    ((alertsOf localTime (run localTime engine arrivals) arrival).map anonymous)
  numbers : (alertsOf localTime (run localTime { engine with rules := rules } arrivals) arrival).map
      IdsmMessage.seqNo =
    (alertsOf localTime (run localTime engine arrivals) arrival).map IdsmMessage.seqNo

theorem rules_do_not_interfere (localTime : Nat → String) (engine : StatefulDetectionEngine τ)
    (distinct : (engine.rules.map EvaluatedRule.id).Nodup) (arrivals : List (Arrival τ)) (arrival : Arrival τ) :
    (∀ rule ∈ engine.rules, Undisturbed localTime engine rule arrivals arrival) ∧
      ∀ rules, rules.Perm engine.rules → OrderIrrelevant localTime engine rules arrivals arrival := by
  refine ⟨?_, ?_⟩
  · intro rule member
    have start : Isolates rule engine { engine with rules := [rule] } :=
      ⟨member, distinct, rfl, ⟨rfl, rfl, rfl, rfl, rfl, rfl, rfl⟩, same_at_refl rule.id _⟩
    have after := run_isolates localTime rule engine _ arrivals start
    exact ⟨after.same, isolated_messages localTime rule _ _ arrival after⟩
  · intro rules permuted
    have coherent := distinct_ids_same_rule engine.rules distinct
    have tables := run_reordered localTime engine rules arrivals coherent permuted
    have rulesKept := run_rules localTime engine arrivals
    have alerts := reordered_alerts localTime (run localTime engine arrivals) rules arrival (by rwa [rulesKept])
      (by rwa [rulesKept])
    rw [← tables] at alerts
    exact ⟨tables, alerts.1, alerts.2⟩

theorem two_rules_do_not_interfere :
    (∀ rule ∈ ([catchAllRule 1 (some 1) none, catchAllRule 2 (some 2) none] : List (EvaluatedRule Rat)),
      Undisturbed (fun _ => "") { StatefulDetectionEngine.new "eth0" [] [] with
        rules := [catchAllRule 1 (some 1) none, catchAllRule 2 (some 2) none] } rule
        [⟨ParsedPacket.new .ethernet none, 0⟩] ⟨ParsedPacket.new .ethernet none, 1 / 2⟩) ∧
    ∀ rules, rules.Perm [catchAllRule 1 (some 1) none, catchAllRule 2 (some 2) none] →
      OrderIrrelevant (τ := Rat) (fun _ => "") { StatefulDetectionEngine.new "eth0" [] [] with
        rules := [catchAllRule 1 (some 1) none, catchAllRule 2 (some 2) none] } rules
        [⟨ParsedPacket.new .ethernet none, 0⟩] ⟨ParsedPacket.new .ethernet none, 1 / 2⟩ :=
  rules_do_not_interfere (fun _ => "") { StatefulDetectionEngine.new "eth0" [] [] with
    rules := [catchAllRule 1 (some 1) none, catchAllRule 2 (some 2) none] } (by decide)
    [⟨ParsedPacket.new .ethernet none, 0⟩] ⟨ParsedPacket.new .ethernet none, 1 / 2⟩

end NetworkIds.Engine
