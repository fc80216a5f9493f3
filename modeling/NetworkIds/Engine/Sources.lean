import NetworkIds.Engine.SharedSlots

set_option autoImplicit false

namespace NetworkIds.Engine

open NetworkIds.Parser

variable {τ : Type}

theorem tracking_key_source (rule : EvaluatedRule τ) (pkt : ParsedPacket)
    (perSource : ∀ limit, connRateLimit rule = some limit → limit.per ≠ "dst_ip") :
    resolveTrackingKey rule pkt = resolveSrcIp pkt := by
  unfold resolveTrackingKey
  cases configured : connRateLimit rule with
  | none => rfl
  | some limit =>
      dsimp only
      split
      · rfl
      · exact absurd ‹_› (perSource limit configured)
      · rfl

variable [Sub τ] [LT τ] [DecidableLT τ] [Timestamp τ]

-- The trackers when the turn of a rule comes, after the rules before it.
def turnTrackers (engine : StatefulDetectionEngine τ) (before : List (EvaluatedRule τ)) (arrival : Arrival τ) :
    RateTrackers τ :=
  (evaluateRules (matchesAt engine arrival.pkt arrival.now) arrival.pkt arrival.now
    (expireStates engine arrival.now).toRateTrackers before).1

-- The alert a rule raises in its turn because of max_requests_per_second.
def requestAlert (engine : StatefulDetectionEngine τ) (before : List (EvaluatedRule τ)) (rule : EvaluatedRule τ)
    (arrival : Arrival τ) : Option PendingAlert :=
  let trackingKey := resolveTrackingKey rule arrival.pkt
  let recorded := recordPacket rule.id trackingKey arrival.pkt arrival.now (turnTrackers engine before arrival)
  if matchesAt engine arrival.pkt arrival.now rule then
    (requestTrigger rule (getTimestamps recorded.ruleRateTracker rule.id trackingKey) arrival.now).map
      (pendingAlert rule trackingKey)
  else none

theorem evaluate_rules_append (isMatch : EvaluatedRule τ → Bool) (pkt : ParsedPacket) (now : τ)
    (trackers : RateTrackers τ) (first second : List (EvaluatedRule τ)) :
    evaluateRules isMatch pkt now trackers (first ++ second) =
      ((evaluateRules isMatch pkt now (evaluateRules isMatch pkt now trackers first).1 second).1,
        (evaluateRules isMatch pkt now trackers first).2 ++
          (evaluateRules isMatch pkt now (evaluateRules isMatch pkt now trackers first).1 second).2) := by
  induction first generalizing trackers with
  | nil => rfl
  | cons rule rest ih =>
      rw [List.cons_append, evaluateRules, evaluateRules]
      dsimp only
      rw [ih, List.append_assoc]

def ruleAlert (engine : StatefulDetectionEngine τ) (before : List (EvaluatedRule τ)) (rule : EvaluatedRule τ)
    (arrival : Arrival τ) : Option PendingAlert :=
  (evaluateRule (matchesAt engine arrival.pkt arrival.now) arrival.pkt arrival.now (turnTrackers engine before arrival)
    rule).2

theorem rule_alert_raised (engine : StatefulDetectionEngine τ) (before after : List (EvaluatedRule τ))
    (rule : EvaluatedRule τ) (listed : engine.rules = before ++ rule :: after) (arrival : Arrival τ)
    (alert : PendingAlert) (raised : ruleAlert engine before rule arrival = some alert) :
    alert ∈ (ruleOutcome engine arrival.pkt arrival.now).2 := by
  rw [ruleOutcome, listed, evaluate_rules_append, evaluateRules]
  apply List.mem_append_right
  apply List.mem_append_left
  rw [ruleAlert, turnTrackers] at raised
  rw [raised]
  exact List.mem_singleton_self _

theorem request_alert_raised (engine : StatefulDetectionEngine τ) (before after : List (EvaluatedRule τ))
    (rule : EvaluatedRule τ) (listed : engine.rules = before ++ rule :: after) (arrival : Arrival τ)
    (alert : PendingAlert) (raised : requestAlert engine before rule arrival = some alert) :
    alert ∈ (ruleOutcome engine arrival.pkt arrival.now).2 := by
  rw [requestAlert] at raised
  split at raised
  case isFalse => cases raised
  case isTrue matched =>
    obtain ⟨count, reached, same⟩ := Option.map_eq_some_iff.mp raised
    have own : ruleAlert engine before rule arrival = some alert := by
      rw [ruleAlert, evaluateRule, if_pos matched, evaluateMatched]
      dsimp only
      rw [triggeredCount, reached, ← same]
      rfl
    exact rule_alert_raised engine before after rule listed arrival alert own

section Sent

variable (localTime : Nat → String) (rule : EvaluatedRule τ) (source : String)

def sentNow (engine : StatefulDetectionEngine τ) (arrival : Arrival τ) : List τ :=
  if matchesAt engine arrival.pkt arrival.now rule && resolveSrcIp arrival.pkt == source then [arrival.now] else []

def sentBy (engine : StatefulDetectionEngine τ) : List (Arrival τ) → List τ
  | [] => []
  | arrival :: rest => sentNow rule source engine arrival ++ sentBy (step localTime engine arrival) rest

theorem sent_by_concat (engine : StatefulDetectionEngine τ) (arrivals : List (Arrival τ)) (arrival : Arrival τ) :
    sentBy localTime rule source engine (arrivals ++ [arrival]) =
      sentBy localTime rule source engine arrivals ++
        sentNow rule source (run localTime engine arrivals) arrival := by
  induction arrivals generalizing engine with
  | nil =>
      rw [List.nil_append, sentBy, sentBy, sentBy, List.append_nil]
      rfl
  | cons first rest ih =>
      rw [List.cons_append, sentBy, sentBy, ih, List.append_assoc]
      rfl

end Sent

-- A packet is recorded under the key by this rule alone, and then the key is its
-- source.
def RecordsSource (rule : EvaluatedRule τ) (key : String) (engine : StatefulDetectionEngine τ) (arrival : Arrival τ) :
    Prop :=
  slotRulesAt engine rule.id key arrival engine.rules = [] ∨
    slotRulesAt engine rule.id key arrival engine.rules = [rule] ∧ resolveSrcIp arrival.pkt = key

def RequestsSent (rule : EvaluatedRule τ) (key : String) (engine : StatefulDetectionEngine τ) (sent : List τ) : Prop :=
  ((slotAt engine rule.id key).requests.getD []).Sublist sent

theorem expired_requests_sent (rule : EvaluatedRule τ) (key : String) (engine : StatefulDetectionEngine τ)
    (sent : List τ) (now : τ) (requests : RequestsSent rule key engine sent) :
    RequestsSent rule key (expireStates engine now) sent := by
  rw [RequestsSent, slot_expire]
  split
  · rw [Slot.expire, nonempty_getD, pruned_getD]
    exact List.filter_sublist.trans requests
  · exact requests

theorem step_requests (rule : EvaluatedRule τ) (isNew : Bool) (now : τ) (slot : Slot τ) :
    ((Slot.step rule isNew now slot).1.requests.getD []).Sublist (slot.requests.getD [] ++ [now]) := by
  rw [Slot.step]
  dsimp only
  rw [Slot.settle]
  split
  · exact List.nil_sublist _
  · rw [pruned_getD]
    exact List.filter_sublist

theorem own_packet_sent (rule : EvaluatedRule τ) (key : String) (engine : StatefulDetectionEngine τ)
    (arrival : Arrival τ) (matched : matchesAt engine arrival.pkt arrival.now rule = true)
    (source : resolveSrcIp arrival.pkt = key) : sentNow rule key engine arrival = [arrival.now] := by
  rw [sentNow, matched, source, beq_self_eq_true]
  rfl

theorem other_packet_unsent (rule : EvaluatedRule τ) (source : String) (engine : StatefulDetectionEngine τ)
    (arrival : Arrival τ) (other : resolveSrcIp arrival.pkt ≠ source) : sentNow rule source engine arrival = [] := by
  rw [sentNow, beq_false_of_ne other, Bool.and_false]
  rfl

theorem step_requests_sent (localTime : Nat → String) (rule : EvaluatedRule τ) (key : String)
    (engine : StatefulDetectionEngine τ) (arrival : Arrival τ) (sent : List τ)
    (requests : RequestsSent rule key engine sent) (records : RecordsSource rule key engine arrival) :
    RequestsSent rule key (step localTime engine arrival) (sent ++ sentNow rule key engine arrival) := by
  have expired := expired_requests_sent rule key engine sent arrival.now requests
  rw [RequestsSent, engine_slot]
  cases records with
  | inl unused =>
      rw [unused]
      exact expired.trans (List.sublist_append_left _ _)
  | inr used =>
      obtain ⟨alone, source⟩ := used
      have member : rule ∈ slotRulesAt engine rule.id key arrival engine.rules := by
        rw [alone]
        exact List.mem_singleton_self _
      rw [slotRulesAt, slotRules, List.mem_filter, Bool.and_eq_true, Bool.and_eq_true] at member
      rw [alone, own_packet_sent rule key engine arrival member.2.2.1 source]
      exact (step_requests rule _ _ _).trans (expired.append (List.Sublist.refl _))

theorem run_requests_sent (localTime : Nat → String) (rule : EvaluatedRule τ) (key : String)
    (engine : StatefulDetectionEngine τ) (fresh : engine.ruleRateTracker = HashMap.empty)
    (arrivals : List (Arrival τ)) (records : EveryStep localTime (RecordsSource rule key) engine arrivals) :
    RequestsSent rule key (run localTime engine arrivals) (sentBy localTime rule key engine arrivals) := by
  induction arrivals using List.reverseRecOn with
  | nil =>
      rw [RequestsSent, run, List.foldl_nil, slotAt, slotOf, fresh]
      exact List.nil_sublist _
  | append_singleton arrivals arrival ih =>
      obtain ⟨recordsBefore, recordsLast⟩ := every_step_concat localTime _ engine arrivals arrival records
      rw [run_concat, sent_by_concat]
      exact step_requests_sent localTime rule key _ arrival _ (ih recordsBefore) recordsLast

theorem turn_requests_sent (rule : EvaluatedRule τ) (engine : StatefulDetectionEngine τ)
    (before after : List (EvaluatedRule τ)) (listed : engine.rules = before ++ rule :: after) (arrival : Arrival τ)
    (matched : matchesAt engine arrival.pkt arrival.now rule = true) (sent : List τ)
    (requests : RequestsSent rule (resolveTrackingKey rule arrival.pkt) engine sent)
    (records : RecordsSource rule (resolveTrackingKey rule arrival.pkt) engine arrival) :
    resolveSrcIp arrival.pkt = resolveTrackingKey rule arrival.pkt ∧
      ((slotOf (turnTrackers engine before arrival) rule.id (resolveTrackingKey rule arrival.pkt)).requests.getD
        []).Sublist sent := by
  have counted : countsFor engine rule (resolveTrackingKey rule arrival.pkt) arrival = true := by
    rw [countsFor, matched, beq_self_eq_true]
    rfl
  have turn := slot_rules_at_turn engine before after rule (resolveTrackingKey rule arrival.pkt) arrival counted
  rw [RecordsSource, listed, turn] at records
  cases records with
  | inl unused => simp at unused
  | inr used =>
      obtain ⟨alone, source⟩ := used
      have first : slotRulesAt engine rule.id (resolveTrackingKey rule arrival.pkt) arrival before = [] := by
        have length := congrArg List.length alone
        rw [List.length_append, List.length_cons, List.length_singleton] at length
        apply List.eq_nil_of_length_eq_zero
        omega
      refine ⟨source, ?_⟩
      rw [turnTrackers, rules_slot]
      rw [slotRulesAt] at first
      rw [first]
      exact expired_requests_sent rule _ engine sent arrival.now requests

theorem request_trigger_reached (rule : EvaluatedRule τ) (timestamps : List τ) (now : τ) (count : Nat)
    (maxRps : UInt32) (limited : maxRequests rule = some maxRps)
    (reached : requestTrigger rule (some timestamps) now = some count) :
    maxRps.toNat ≤ timestamps.countP (within now 1) := by
  unfold requestTrigger at reached
  rw [limited] at reached
  dsimp only at reached
  split at reached
  case isTrue enough => exact enough
  case isFalse => cases reached

-- With one rule per id, and a key that is not the destination, that is always so.
theorem slot_rules_alone (engine : StatefulDetectionEngine τ) (distinct : (engine.rules.map EvaluatedRule.id).Nodup)
    (rule : EvaluatedRule τ) (member : rule ∈ engine.rules) (key : String) (arrival : Arrival τ) :
    slotRulesAt engine rule.id key arrival engine.rules = [] ∨
      slotRulesAt engine rule.id key arrival engine.rules = [rule] := by
  have same : ∀ other ∈ slotRulesAt engine rule.id key arrival engine.rules, other = rule := by
    intro other inside
    rw [slotRulesAt, slotRules, List.mem_filter, Bool.and_eq_true, beq_iff_eq] at inside
    exact distinct_ids_same_rule engine.rules distinct other inside.1 rule member inside.2.1
  have unique : (slotRulesAt engine rule.id key arrival engine.rules).Nodup := (List.Nodup.of_map _ distinct).filter _
  have copies := List.eq_replicate_of_mem same
  rw [copies, List.nodup_replicate] at unique
  rw [copies]
  cases length : (slotRulesAt engine rule.id key arrival engine.rules).length with
  | zero => exact .inl rfl
  | succ n =>
      have once : n = 0 := by omega
      subst once
      exact .inr rfl

theorem records_source (engine : StatefulDetectionEngine τ) (distinct : (engine.rules.map EvaluatedRule.id).Nodup)
    (rule : EvaluatedRule τ) (member : rule ∈ engine.rules)
    (perSource : ∀ limit, connRateLimit rule = some limit → limit.per ≠ "dst_ip") (key : String)
    (arrival : Arrival τ) : RecordsSource rule key engine arrival := by
  cases slot_rules_alone engine distinct rule member key arrival with
  | inl unused => exact .inl unused
  | inr alone =>
      have used : rule ∈ slotRulesAt engine rule.id key arrival engine.rules := by
        rw [alone]
        exact List.mem_singleton_self _
      rw [slotRulesAt, slotRules, List.mem_filter, Bool.and_eq_true, Bool.and_eq_true, beq_iff_eq, beq_iff_eq] at used
      rw [tracking_key_source rule arrival.pkt perSource] at used
      exact .inr ⟨alone, used.2.2.2⟩

def alertSenders (alert : PendingAlert) : List String :=
  match alert.payload with
  | .protocolConformantFlood flood => flood.senderList.map SenderRate.senderId

theorem request_limit_counts_one_source (localTime : Nat → String) (engine : StatefulDetectionEngine τ)
    (fresh : engine.ruleRateTracker = HashMap.empty) (before after : List (EvaluatedRule τ)) (rule : EvaluatedRule τ)
    (listed : engine.rules = before ++ rule :: after) (maxRps : UInt32) (limited : maxRequests rule = some maxRps)
    (arrivals : List (Arrival τ)) (arrival : Arrival τ) (alert : PendingAlert)
    (raised : requestAlert (run localTime engine arrivals) before rule arrival = some alert)
    (records : EveryStep localTime (RecordsSource rule (resolveTrackingKey rule arrival.pkt)) engine
      (arrivals ++ [arrival])) :
    alert ∈ (ruleOutcome (run localTime engine arrivals) arrival.pkt arrival.now).2 ∧
      ∃ source, alertSenders alert = [source] ∧ maxRps.toNat ≤
        (sentBy localTime rule source engine (arrivals ++ [arrival])).countP (within arrival.now 1) := by
  have rules := run_rules localTime engine arrivals
  refine ⟨request_alert_raised _ before after rule (by rwa [rules]) arrival alert raised, ?_⟩
  obtain ⟨recordsBefore, recordsLast⟩ := every_step_concat localTime _ engine arrivals arrival records
  have requests := run_requests_sent localTime rule _ engine fresh arrivals recordsBefore
  rw [requestAlert] at raised
  split at raised
  case isFalse => cases raised
  case isTrue matched =>
    obtain ⟨count, reached, same⟩ := Option.map_eq_some_iff.mp raised
    obtain ⟨source, sent⟩ := turn_requests_sent rule _ before after (by rwa [rules]) arrival matched _ requests recordsLast
    have recorded := slot_record (turnTrackers (run localTime engine arrivals) before arrival) rule.id
      (resolveTrackingKey rule arrival.pkt) arrival.pkt arrival.now (resolveTrackingKey rule arrival.pkt)
    rw [if_pos rfl] at recorded
    have recordedRequests := congrArg Slot.requests recorded
    rw [slotOf, Slot.record] at recordedRequests
    dsimp only at recordedRequests
    rw [recordedRequests] at reached
    refine ⟨resolveTrackingKey rule arrival.pkt, by rw [← same]; rfl, ?_⟩
    rw [sent_by_concat, own_packet_sent rule _ _ arrival matched source]
    exact le_trans (request_trigger_reached rule _ arrival.now count maxRps limited reached)
      (sent.append (List.Sublist.refl _)).countP_le

def twoRequestsRule : EvaluatedRule Rat := catchAllRule 1 (some 2) none

theorem two_requests_of_one_source :
    pendingAlert twoRequestsRule "00:00:00:00:00:00" 2 ∈
        (ruleOutcome (run (fun _ => "") (startedWith [twoRequestsRule]) [bareArrival 0]) (bareArrival (1 / 2)).pkt
          (1 / 2)).2 ∧
      ∃ source, alertSenders (pendingAlert twoRequestsRule "00:00:00:00:00:00" 2) = [source] ∧ 2 ≤
        (sentBy (fun _ => "") twoRequestsRule source (startedWith [twoRequestsRule])
          ([bareArrival 0] ++ [bareArrival (1 / 2)])).countP (within (1 / 2) 1) := by
  have records : EveryStep (fun _ => "") (RecordsSource twoRequestsRule "00:00:00:00:00:00")
      (startedWith [twoRequestsRule]) ([bareArrival 0] ++ [bareArrival (1 / 2)]) := by
    intro earlier arrival _ _
    have rules := run_rules (fun _ => "") (startedWith [twoRequestsRule]) earlier
    apply records_source
    · rw [rules]
      decide
    · rw [rules]
      exact List.mem_singleton_self _
    · intro limit configured
      cases configured
  exact request_limit_counts_one_source (fun _ => "") (startedWith [twoRequestsRule]) rfl [] [] twoRequestsRule rfl 2 rfl
    [bareArrival 0] (bareArrival (1 / 2)) (pendingAlert twoRequestsRule "00:00:00:00:00:00" 2) (by decide +kernel) records

-- The connection limit of this rule groups by destination, and so does the other.
def perDestinationRule : EvaluatedRule Rat :=
  catchAllRule 1 (some 2) (some (HashMap.empty.insert "max_conn_rate" ⟨"dst_ip", 100, 10⟩))

def requestBetween (srcIp dstIp : Ipv4Addr) (now : Rat) : Arrival Rat where
  pkt := { ParsedPacket.new .ethernet none with
    network := .ipv4 ⟨4, 5, 0, 0, 20, 0, 0, 0, 64, 1, 0, srcIp, dstIp, [], []⟩ }
  now := now

def twoSources : List (Arrival Rat) :=
  [requestBetween ⟨10, 0, 0, 1⟩ ⟨10, 0, 0, 9⟩ 0, requestBetween ⟨10, 0, 0, 2⟩ ⟨10, 0, 0, 9⟩ (1 / 2)]

theorem two_sources_one_alert :
    requestAlert (run (fun _ => "") (startedWith [perDestinationRule]) (twoSources.take 1)) [] perDestinationRule
        (requestBetween ⟨10, 0, 0, 2⟩ ⟨10, 0, 0, 9⟩ (1 / 2)) = some (pendingAlert perDestinationRule "10.0.0.9" 2) ∧
      ¬∃ source, 2 ≤ (sentBy (fun _ => "") perDestinationRule source (startedWith [perDestinationRule])
        twoSources).countP (within (1 / 2) 1) := by
  refine ⟨by decide +kernel, ?_⟩
  rintro ⟨source, twice⟩
  have firstSource : resolveSrcIp (requestBetween ⟨10, 0, 0, 1⟩ ⟨10, 0, 0, 9⟩ 0).pkt = "10.0.0.1" := by decide +kernel
  have secondSource : resolveSrcIp (requestBetween ⟨10, 0, 0, 2⟩ ⟨10, 0, 0, 9⟩ (1 / 2)).pkt = "10.0.0.2" := by
    decide +kernel
  by_cases first : "10.0.0.1" = source
  · subst first
    revert twice
    decide +kernel
  · by_cases second : "10.0.0.2" = source
    · subst second
      revert twice
      decide +kernel
    · rw [← firstSource] at first
      rw [← secondSource] at second
      rw [twoSources, sentBy, sentBy, sentBy, other_packet_unsent _ _ _ _ first,
        other_packet_unsent _ _ _ _ second] at twice
      exact absurd twice (by decide)

end NetworkIds.Engine
