import NetworkIds.Engine.Independence

set_option autoImplicit false

namespace NetworkIds.Engine

open NetworkIds.Parser

variable {τ : Type}

-- What an alert says: event id, event name, sender and count.
abbrev AlertFact := String × String × String × UInt32

def floodFacts (eventId eventName : String) : EventPayload → List AlertFact
  | .protocolConformantFlood flood => flood.senderList.map fun sender =>
      (eventId, eventName, sender.senderId, sender.pktRatePerSender)

def pendingFacts (alert : PendingAlert) : List AlertFact := floodFacts alert.eventId alert.eventName alert.payload

def alertFacts (message : IdsmMessage) : List AlertFact :=
  floodFacts message.event.eventId message.event.eventName message.event.payload

theorem created_facts (localTime : Nat → String) (iface : String) (counter : Nat) (pending : List PendingAlert) :
    (createMessages localTime iface counter pending).flatMap alertFacts = pending.flatMap pendingFacts := by
  induction pending generalizing counter with
  | nil => rfl
  | cons alert rest ih =>
      rw [createMessages, List.flatMap_cons, List.flatMap_cons, ih]
      rfl

variable [Sub τ] [LT τ] [DecidableLT τ] [Timestamp τ]

def runFacts (localTime : Nat → String) (engine : StatefulDetectionEngine τ) (arrivals : List (Arrival τ)) :
    List AlertFact := (runAlerts localTime engine arrivals).flatMap alertFacts

theorem run_facts_cons (localTime : Nat → String) (engine : StatefulDetectionEngine τ) (arrival : Arrival τ)
    (rest : List (Arrival τ)) : runFacts localTime engine (arrival :: rest) =
      (ruleOutcome engine arrival.pkt arrival.now).2.flatMap pendingFacts ++
        runFacts localTime (step localTime engine arrival) rest := by
  have first : (alertsOf localTime engine arrival).flatMap alertFacts =
      (ruleOutcome engine arrival.pkt arrival.now).2.flatMap pendingFacts := created_facts _ _ _ _
  rw [runFacts, runAlerts, List.flatMap_append, first, runFacts]

theorem step_any_clock (localTime otherTime : Nat → String) (engine : StatefulDetectionEngine τ) (arrival : Arrival τ) :
    step localTime engine arrival = step otherTime engine arrival := rfl

theorem reordered_facts (localTime otherTime : Nat → String) (engine : StatefulDetectionEngine τ)
    (rules : List (EvaluatedRule τ)) (arrivals : List (Arrival τ)) (coherent : SameIdSameRule engine.rules)
    (permuted : rules.Perm engine.rules) :
    (runFacts otherTime { engine with rules := rules } arrivals).Perm (runFacts localTime engine arrivals) := by
  induction arrivals generalizing engine with
  | nil => exact .refl _
  | cons arrival rest ih =>
      have later := ih (step localTime engine arrival) (by rwa [step_rules]) (by rwa [step_rules])
      have stepped := step_reordered otherTime engine rules arrival coherent permuted
      obtain ⟨_, alerts⟩ := evaluate_permuted (matchesAt engine arrival.pkt arrival.now) arrival.pkt arrival.now
        (expireStates engine arrival.now).toRateTrackers engine.rules rules coherent permuted
      rw [run_facts_cons, run_facts_cons, stepped, reordered_outcome, step_any_clock otherTime localTime]
      exact (alerts.flatMap_right _).append later

theorem alerts_independent_of_map_order (localTime otherTime : Nat → String) (iface : String) (selfIps : List IpAddr)
    (rulesLoaded otherOrder : List (RuleConfig τ)) (arrivals : List (Arrival τ))
    (permuted : otherOrder.Perm rulesLoaded) (coherent : SameIdSameRule (loadRules rulesLoaded)) :
    (runFacts otherTime (StatefulDetectionEngine.new iface selfIps otherOrder) arrivals).Perm
      (runFacts localTime (StatefulDetectionEngine.new iface selfIps rulesLoaded) arrivals) := by
  have loaded : (loadRules otherOrder).Perm (loadRules rulesLoaded) := (permuted.filter _).map _
  exact reordered_facts localTime otherTime (StatefulDetectionEngine.new iface selfIps rulesLoaded)
    (loadRules otherOrder) arrivals coherent loaded

def emptyArrival : Arrival Rat := ⟨ParsedPacket.new .ethernet none, 0⟩

theorem two_ids_in_any_order :
    (runFacts (fun _ => "") (StatefulDetectionEngine.new "eth0" [] [catchAllConfig 2 "Second" (some 2) none,
      catchAllConfig 1 "First" (some 1) none]) [emptyArrival, emptyArrival]).Perm
    (runFacts (fun _ => "") (StatefulDetectionEngine.new "eth0" [] [catchAllConfig 1 "First" (some 1) none,
      catchAllConfig 2 "Second" (some 2) none]) [emptyArrival, emptyArrival]) :=
  alerts_independent_of_map_order (fun _ => "") (fun _ => "") "eth0" [] _ _ [emptyArrival, emptyArrival] (.swap _ _ _)
    (distinct_ids_same_rule _ (by decide))

-- Two rules with one id: the second of them sees the packet twice.
theorem shared_id_depends_on_map_order :
    ¬ ∀ (rulesLoaded otherOrder : List (RuleConfig Rat)) (arrivals : List (Arrival Rat)),
      otherOrder.Perm rulesLoaded →
      (runFacts (fun _ => "") (StatefulDetectionEngine.new "eth0" [] otherOrder) arrivals).Perm
        (runFacts (fun _ => "") (StatefulDetectionEngine.new "eth0" [] rulesLoaded) arrivals) := by
  intro independent
  have same := independent [catchAllConfig 1 "First" (some 2) none, catchAllConfig 1 "Second" (some 2) none]
    [catchAllConfig 1 "Second" (some 2) none, catchAllConfig 1 "First" (some 2) none] [emptyArrival] (.swap _ _ _)
  exact absurd same (by decide +kernel)

end NetworkIds.Engine
