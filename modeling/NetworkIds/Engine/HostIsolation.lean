import NetworkIds.Engine.CleanupSchedule
import NetworkIds.Engine.Hosts
import NetworkIds.Lib.Unwinding

set_option autoImplicit false

namespace NetworkIds.Engine

open NetworkIds.Parser Unwinding

def concerns (host : Host) (pkt : ParsedPacket) : Bool := srcHost pkt == host || dstHost pkt == host

def aboutHost (host : Host) (message : IdsmMessage) : Bool :=
  (floodOf message).senderList.any fun sender => sender.senderId == host.text

-- The messages about a host, without their numbers and the wall clock.
def alertView (host : Host) (message : IdsmMessage) : Option IdsmMessage :=
  if aboutHost host message then some (anonymous message) else none

def alertsAbout (host : Host) (messages : List IdsmMessage) : List IdsmMessage :=
  messages.filterMap (alertView host)

theorem tracking_key_concerns (rule : EvaluatedRule Rat) (host : Host) (pkt : ParsedPacket)
    (tracked : resolveTrackingKey rule pkt = host.text) : concerns host pkt = true := by
  rw [tracking_key_text] at tracked
  have own : trackedHost rule pkt = host := host_text_injective _ _ tracked
  have source (same : srcHost pkt = host) : concerns host pkt = true := by
    rw [concerns, same, beq_self_eq_true, Bool.true_or]
  have destination (same : dstHost pkt = host) : concerns host pkt = true := by
    rw [concerns, same, beq_self_eq_true, Bool.or_true]
  unfold trackedHost at own
  split at own
  · split at own
    · exact destination own
    · exact source own
  · exact source own

theorem pending_alert_view (localTime : Nat → String) (iface : String) (counter : Nat) (rule : EvaluatedRule Rat)
    (key : String) (count : Nat) (host : Host) :
    alertView host (createMessage localTime iface counter (pendingAlert rule key count)) =
      if key = host.text then some (anonymous (createMessage localTime iface 0 (pendingAlert rule key count)))
      else none := by
  have named : aboutHost host (createMessage localTime iface counter (pendingAlert rule key count)) =
      (key == host.text) := by
    simp only [aboutHost, floodOf, createMessage, pendingAlert, List.any_cons, List.any_nil, Bool.or_false]
  rw [alertView, named]
  by_cases own : key = host.text
  · rw [if_pos own, if_pos (beq_iff_eq.mpr own)]
    rfl
  · rw [if_neg own, if_neg (by rw [beq_iff_eq]; exact own)]

theorem created_view (localTime : Nat → String) (iface : String) (counter : Nat) (pending : List PendingAlert)
    (host : Host) :
    alertsAbout host (createMessages localTime iface counter pending) =
      pending.filterMap fun alert => alertView host (createMessage localTime iface 0 alert) := by
  induction pending generalizing counter with
  | nil => rfl
  | cons alert rest ih =>
      have same : alertView host (createMessage localTime iface counter alert) =
          alertView host (createMessage localTime iface 0 alert) := rfl
      rw [createMessages, alertsAbout, List.filterMap_cons, List.filterMap_cons, same]
      have tail := ih (counter + 1)
      rw [alertsAbout] at tail
      rw [tail]

theorem AlikeSlots.steps {now : Rat} {first second : Slot Rat} (alike : AlikeSlots now first second) (isNew : Bool)
    (rules : List (EvaluatedRule Rat)) (inRange : ∀ rule ∈ rules, LimitsInRange rule) :
    AlikeSlots now (Slot.steps isNew now first rules).1 (Slot.steps isNew now second rules).1 := by
  induction rules generalizing first second with
  | nil => exact alike
  | cons rule rest ih =>
      obtain ⟨-, next⟩ := alike.step rule (inRange rule List.mem_cons_self) isNew
      exact ih next (fun other member => inRange other (List.mem_cons_of_mem _ member))

def AlikeFor (host : Host) (now : Rat) (first second : RateTrackers Rat) : Prop :=
  ∀ id, AlikeSlots now (slotOf first id host.text) (slotOf second id host.text)

section Rules

variable (localTime : Nat → String) (iface : String) (host : Host) (isMatch : EvaluatedRule Rat → Bool)
  (pkt : ParsedPacket) {now : Rat} {first second : RateTrackers Rat}

def pendingView (pending : List PendingAlert) : List IdsmMessage :=
  pending.filterMap fun alert => alertView host (createMessage localTime iface 0 alert)

theorem rules_alike_for (rules : List (EvaluatedRule Rat)) (inRange : ∀ rule ∈ rules, LimitsInRange rule)
    (alike : AlikeFor host now first second) :
    AlikeFor host now (evaluateRules isMatch pkt now first rules).1 (evaluateRules isMatch pkt now second rules).1 := by
  intro id
  rw [rules_slot, rules_slot]
  exact (alike id).steps _ _ (fun rule member => inRange rule (List.mem_filter.mp member).1)

-- What a rule raises about the host is decided by the host's own slot.
theorem rule_view (trackers : RateTrackers Rat) (rule : EvaluatedRule Rat) :
    pendingView localTime iface host (evaluateRule isMatch pkt now trackers rule).2.toList =
      if isMatch rule = true ∧ resolveTrackingKey rule pkt = host.text then
        ((Slot.step rule (isNewTcpConn pkt) now (slotOf trackers rule.id host.text)).2.map fun count =>
          anonymous (createMessage localTime iface 0 (pendingAlert rule host.text count))).toList
      else [] := by
  rw [evaluateRule]
  by_cases matched : isMatch rule = true
  · rw [if_pos matched, matched_alert]
    by_cases own : resolveTrackingKey rule pkt = host.text
    · rw [if_pos ⟨matched, own⟩, own]
      cases (Slot.step rule (isNewTcpConn pkt) now (slotOf trackers rule.id host.text)).2 with
      | none => rfl
      | some count =>
          show (alertView host (createMessage localTime iface 0 (pendingAlert rule host.text count))).toList = _
          rw [pending_alert_view, if_pos rfl]
          rfl
    · rw [if_neg (fun both => own both.2)]
      cases (Slot.step rule (isNewTcpConn pkt) now (slotOf trackers rule.id (resolveTrackingKey rule pkt))).2 with
      | none => rfl
      | some count =>
          show [pendingAlert rule (resolveTrackingKey rule pkt) count].filterMap _ = []
          rw [List.filterMap_cons, pending_alert_view, if_neg own]
          rfl
  · rw [if_neg matched, if_neg (fun both => matched both.1)]
    rfl

theorem rules_view_cons (trackers : RateTrackers Rat) (rule : EvaluatedRule Rat) (rest : List (EvaluatedRule Rat)) :
    pendingView localTime iface host (evaluateRules isMatch pkt now trackers (rule :: rest)).2 =
      pendingView localTime iface host (evaluateRule isMatch pkt now trackers rule).2.toList ++
        pendingView localTime iface host
          (evaluateRules isMatch pkt now (evaluateRule isMatch pkt now trackers rule).1 rest).2 :=
  List.filterMap_append

theorem rules_view_alike (rules : List (EvaluatedRule Rat)) (inRange : ∀ rule ∈ rules, LimitsInRange rule)
    (alike : AlikeFor host now first second) :
    pendingView localTime iface host (evaluateRules isMatch pkt now first rules).2 =
      pendingView localTime iface host (evaluateRules isMatch pkt now second rules).2 := by
  induction rules generalizing first second with
  | nil => rfl
  | cons rule rest ih =>
      have ruleRange := inRange rule List.mem_cons_self
      have next : AlikeFor host now (evaluateRule isMatch pkt now first rule).1
          (evaluateRule isMatch pkt now second rule).1 :=
        rules_alike_for host isMatch pkt [rule] (fun other member => List.mem_singleton.mp member ▸ ruleRange) alike
      rw [rules_view_cons, rules_view_cons, rule_view, rule_view,
        ((alike rule.id).step rule ruleRange (isNewTcpConn pkt)).1,
        ih (fun other member => inRange other (List.mem_cons_of_mem _ member)) next]

theorem rules_view_other (rules : List (EvaluatedRule Rat)) (other : concerns host pkt = false)
    (trackers : RateTrackers Rat) :
    pendingView localTime iface host (evaluateRules isMatch pkt now trackers rules).2 = [] := by
  induction rules generalizing trackers with
  | nil => rfl
  | cons rule rest ih =>
      have foreign : resolveTrackingKey rule pkt ≠ host.text := by
        intro tracked
        rw [tracking_key_concerns rule host pkt tracked] at other
        cases other
      rw [rules_view_cons, rule_view, if_neg (fun both => foreign both.2), ih]
      rfl

theorem rules_slot_other (rules : List (EvaluatedRule Rat)) (other : concerns host pkt = false)
    (trackers : RateTrackers Rat) (id : UInt32) :
    slotOf (evaluateRules isMatch pkt now trackers rules).1 id host.text = slotOf trackers id host.text := by
  have none : slotRules isMatch pkt id host.text rules = [] := by
    rw [slotRules, List.filter_eq_nil_iff]
    intro rule _ counted
    simp only [Bool.and_eq_true, beq_iff_eq] at counted
    rw [tracking_key_concerns rule host pkt counted.2.2] at other
    cases other
  rw [rules_slot, none]
  rfl

end Rules

structure AlikeEngines (rules : List (EvaluatedRule Rat)) (host : Host) (now : Rat)
    (first second : StatefulDetectionEngine Rat) : Prop where
  firstRules : first.rules = rules
  secondRules : second.rules = rules
  iface : first.iface = second.iface
  selfIps : first.selfIps = second.selfIps
  trackers : AlikeFor host now first.toRateTrackers second.toRateTrackers

def machine (localTime : Nat → String) : Machine (StatefulDetectionEngine Rat) (Arrival Rat) IdsmMessage :=
  ⟨fun engine arrival => processPacket localTime engine arrival.pkt arrival.now⟩

theorem run_alerts_outputs (localTime : Nat → String) (engine : StatefulDetectionEngine Rat)
    (arrivals : List (Arrival Rat)) :
    runAlerts localTime engine arrivals = outputs (machine localTime) engine arrivals := by
  induction arrivals generalizing engine with
  | nil => rfl
  | cons arrival rest ih =>
      rw [runAlerts, outputs, ih]
      rfl

theorem step_view (localTime : Nat → String) (engine : StatefulDetectionEngine Rat) (arrival : Arrival Rat)
    (host : Host) : alertsAbout host (alertsOf localTime engine arrival) =
      pendingView localTime engine.iface host (ruleOutcome engine arrival.pkt arrival.now).2 := by
  rw [alertsOf, processPacket]
  dsimp only
  rw [created_view, expire_iface]
  rfl

theorem step_settings (localTime : Nat → String) (engine : StatefulDetectionEngine Rat) (arrival : Arrival Rat) :
    (step localTime engine arrival).rules = engine.rules ∧ (step localTime engine arrival).iface = engine.iface ∧
      (step localTime engine arrival).selfIps = engine.selfIps := by
  obtain ⟨rules, iface, selfIps, -⟩ := expire_settings engine arrival.now
  exact ⟨rules, iface, selfIps⟩

section Engines

variable (localTime : Nat → String) (rules : List (EvaluatedRule Rat)) (host : Host) (arrival : Arrival Rat)
  {first second : StatefulDetectionEngine Rat}

theorem concerning_packet (inRange : ∀ rule ∈ rules, LimitsInRange rule)
    (ignores : ∀ rule ∈ rules, IgnoresTable rule) (alike : AlikeEngines rules host arrival.now first second) :
    alertsAbout host (alertsOf localTime first arrival) = alertsAbout host (alertsOf localTime second arrival) ∧
      AlikeEngines rules host arrival.now (step localTime first arrival) (step localTime second arrival) := by
  have expired : AlikeFor host arrival.now (expireStates first arrival.now).toRateTrackers
      (expireStates second arrival.now).toRateTrackers := fun id => expired_slots_alike id host.text (alike.trackers id)
  have verdicts : ruleOutcome first arrival.pkt arrival.now =
      evaluateRules (matchesAt second arrival.pkt arrival.now) arrival.pkt arrival.now
        (expireStates first arrival.now).toRateTrackers rules := by
    rw [ruleOutcome, alike.firstRules]
    exact evaluate_rules_congr _ _ arrival.pkt rules (fun rule member =>
      matches_ignoring alike.iface alike.selfIps arrival.pkt rule (ignores rule member)) _
  have others : ruleOutcome second arrival.pkt arrival.now =
      evaluateRules (matchesAt second arrival.pkt arrival.now) arrival.pkt arrival.now
        (expireStates second arrival.now).toRateTrackers rules := by
    rw [ruleOutcome, alike.secondRules]
  constructor
  · rw [step_view, step_view, verdicts, others, alike.iface]
    exact rules_view_alike localTime second.iface host _ arrival.pkt rules inRange expired
  · obtain ⟨firstRules, firstIface, firstIps⟩ := step_settings localTime first arrival
    obtain ⟨secondRules, secondIface, secondIps⟩ := step_settings localTime second arrival
    refine ⟨firstRules.trans alike.firstRules, secondRules.trans alike.secondRules, ?_, ?_, ?_⟩
    · rw [firstIface, secondIface, alike.iface]
    · rw [firstIps, secondIps, alike.selfIps]
    · have trackers := rules_alike_for host (matchesAt second arrival.pkt arrival.now) arrival.pkt rules inRange expired
      rw [← verdicts, ← others] at trackers
      exact trackers

theorem unconcerning_packet (other : concerns host arrival.pkt = false)
    (alike : AlikeEngines rules host arrival.now first second) :
    alertsAbout host (alertsOf localTime first arrival) = [] ∧
      AlikeEngines rules host arrival.now (step localTime first arrival) second := by
  constructor
  · rw [step_view]
    exact rules_view_other localTime first.iface host _ arrival.pkt first.rules other _
  · obtain ⟨firstRules, firstIface, firstIps⟩ := step_settings localTime first arrival
    refine ⟨firstRules.trans alike.firstRules, alike.secondRules, firstIface.trans alike.iface,
      firstIps.trans alike.selfIps, ?_⟩
    intro id
    have untouched : slotOf (ruleOutcome first arrival.pkt arrival.now).1 id host.text =
        slotOf (expireStates first arrival.now).toRateTrackers id host.text :=
      rules_slot_other host _ arrival.pkt first.rules other _ id
    have slots := expired_slot_alike first _ id host.text (alike.trackers id)
    rw [slotAt, ← untouched] at slots
    exact slots

end Engines

theorem engine_hides (localTime : Nat → String) (rules : List (EvaluatedRule Rat))
    (inRange : ∀ rule ∈ rules, LimitsInRange rule) (ignores : ∀ rule ∈ rules, IgnoresTable rule) (host : Host) :
    Hides (machine localTime) Arrival.now (fun arrival => concerns host arrival.pkt) (alertView host)
      (AlikeEngines rules host) where
  later _ next _ _ ordered alike := { alike with trackers := fun id => (alike.trackers id).later next ordered }
  seen arrival _ _ _ alike := concerning_packet localTime rules host arrival inRange ignores alike
  unseen arrival _ _ other alike := unconcerning_packet localTime rules host arrival other alike

theorem alerts_of_own_packets (localTime : Nat → String) (engine : StatefulDetectionEngine Rat)
    (inRange : ∀ rule ∈ engine.rules, LimitsInRange rule) (ignores : ∀ rule ∈ engine.rules, IgnoresTable rule)
    (host : Host) (arrivals : List (Arrival Rat)) (ordered : (arrivals.map Arrival.now).Pairwise (· ≤ ·)) :
    alertsAbout host (runAlerts localTime engine arrivals) =
      alertsAbout host (runAlerts localTime engine (arrivals.filter fun arrival => concerns host arrival.pkt)) := by
  cases arrivals with
  | nil => rfl
  | cons arrival rest =>
      have start : AlikeEngines engine.rules host arrival.now engine engine :=
        ⟨rfl, rfl, rfl, rfl, fun _ => alike_refl arrival.now _⟩
      rw [run_alerts_outputs, run_alerts_outputs]
      exact outputs_purged (engine_hides localTime engine.rules inRange ignores host) _ arrival.now engine engine start
        (ordered_from_first arrival.now _ ordered)

theorem hosts_do_not_interfere (localTime : Nat → String) (engine : StatefulDetectionEngine Rat)
    (inRange : ∀ rule ∈ engine.rules, LimitsInRange rule) (ignores : ∀ rule ∈ engine.rules, IgnoresTable rule)
    (host : Host) (first second : List (Arrival Rat)) (firstOrdered : (first.map Arrival.now).Pairwise (· ≤ ·))
    (secondOrdered : (second.map Arrival.now).Pairwise (· ≤ ·))
    (same : (first.filter fun arrival => concerns host arrival.pkt) =
      second.filter fun arrival => concerns host arrival.pkt) :
    alertsAbout host (runAlerts localTime engine first) = alertsAbout host (runAlerts localTime engine second) := by
  rw [alerts_of_own_packets localTime engine inRange ignores host first firstOrdered, same,
    ← alerts_of_own_packets localTime engine inRange ignores host second secondOrdered]

def quietHost : IpAddr := .v4 ⟨10, 0, 0, 1⟩

theorem other_host_not_noticed :
    alertsAbout (.ip quietHost) (runAlerts (fun _ => "") (startedWith [twoLimitsRule])
        [⟨packetFrom quietHost, 0⟩, ⟨packetFrom documentationAddress, 1 / 4⟩, ⟨packetFrom quietHost, 1 / 2⟩]) =
      alertsAbout (.ip quietHost) (runAlerts (fun _ => "") (startedWith [twoLimitsRule])
        [⟨packetFrom quietHost, 0⟩, ⟨packetFrom quietHost, 1 / 2⟩]) :=
  hosts_do_not_interfere (fun _ => "") (startedWith [twoLimitsRule]) two_limits_in_range two_limits_ignores
    (.ip quietHost) _ _ (by norm_num) (by norm_num) rfl

end NetworkIds.Engine
