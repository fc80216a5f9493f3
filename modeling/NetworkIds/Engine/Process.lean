import NetworkIds.Engine.State

set_option autoImplicit false

namespace NetworkIds.Engine

open NetworkIds.Parser

structure SenderRate where
  senderId : String
  pktRatePerSender : UInt32
deriving DecidableEq

structure ProtocolConformantFlood where
  packetSignatureHash : String
  signatureDescription : String
  senderList : List SenderRate
deriving DecidableEq

-- The one kind of event the engine raises.
inductive EventPayload where
  | protocolConformantFlood (flood : ProtocolConformantFlood)
deriving DecidableEq

structure SensorEvent where
  eventId : String
  eventName : String
  severity : Severity
  timestamp : String
  vehicleIdHash : String
  iface : String
  payload : EventPayload
deriving DecidableEq

-- The u64 sequence number is a natural number: no run is long enough to wrap it.
structure IdsmMessage where
  seqNo : Nat
  ttlMs : UInt64
  sensorId : String
  sensorCertId : String
  signature : Bytes
  event : SensorEvent
deriving DecidableEq

structure PendingAlert where
  eventId : String
  eventName : String
  severity : Severity
  payload : EventPayload
deriving DecidableEq

variable {τ : Type}

-- tracker.entry(id).or_default().entry(key).or_default().push(now)
def pushTimestamp (tracker : RateTracker τ) (id : UInt32) (key : String) (now : τ) : RateTracker τ :=
  tracker.upsert id HashMap.empty fun m => m.upsert key [] fun timestamps => timestamps ++ [now]

-- tracker.get(id).and_then(|m| m.get(key))
def getTimestamps (tracker : RateTracker τ) (id : UInt32) (key : String) : Option (List τ) :=
  (tracker.lookup id).bind fun m => m.lookup key

def removeTimestamps (tracker : RateTracker τ) (id : UInt32) (key : String) : RateTracker τ :=
  tracker.modify id fun m => m.remove key

def isNewTcpConn (pkt : ParsedPacket) : Bool :=
  match pkt.transport with
  | .tcp tcp => isFreshSyn tcp
  | _ => true

def packetSignature (id : UInt32) : String := "rule_" ++ toString id.toNat

def pendingAlert (rule : EvaluatedRule τ) (trackingKey : String) (countToReport : Nat) : PendingAlert where
  eventId := rule.eventId
  eventName := rule.eventName
  severity := rule.severity
  payload := .protocolConformantFlood {
    packetSignatureHash := packetSignature rule.id
    signatureDescription := "Rule: '" ++ rule.eventName ++ "' (id: " ++ toString rule.id.toNat ++
      ") triggered for " ++ trackingKey ++ ". Threshold exceeded."
    senderList := [⟨trackingKey, UInt32.ofNat countToReport⟩] }

section Evaluation

variable [Sub τ] [LT τ] [DecidableLT τ] [Timestamp τ]

def pruneTimestamps (tracker : RateTracker τ) (id : UInt32) (key : String) (now : τ) : RateTracker τ :=
  tracker.modify id fun m => m.modify key fun timestamps => timestamps.filter (within now 60)

def requestTrigger (rule : EvaluatedRule τ) (timestamps : Option (List τ)) (now : τ) : Option Nat :=
  match maxRequests rule, timestamps with
  | some maxRps, some ts =>
      let count := ts.countP (within now 1)
      if count ≥ maxRps.toNat then some count else none
  | _, _ => none

def connectionTrigger (rule : EvaluatedRule τ) (timestamps : Option (List τ)) (now : τ) : Option Nat :=
  match connRateLimit rule, timestamps with
  | some connRate, some ts =>
      let count := ts.countP fun t => decide (now - t < connRate.interval)
      if count ≥ connRate.connections.toNat then some count else none
  | _, _ => none

def recordPacket (id : UInt32) (trackingKey : String) (pkt : ParsedPacket) (now : τ) (trackers : RateTrackers τ) :
    RateTrackers τ where
  ruleRateTracker := pushTimestamp trackers.ruleRateTracker id trackingKey now
  connRateTracker :=
    if isNewTcpConn pkt then pushTimestamp trackers.connRateTracker id trackingKey now
    else trackers.connRateTracker

def triggeredCount (rule : EvaluatedRule τ) (requests connections : Option (List τ)) (now : τ) : Option Nat :=
  match requestTrigger rule requests now with
  | some count => some count
  | none => connectionTrigger rule connections now

def settleTrackers (id : UInt32) (trackingKey : String) (now : τ) (triggered : Bool) (trackers : RateTrackers τ) :
    RateTrackers τ :=
  let ruleRate := pruneTimestamps trackers.ruleRateTracker id trackingKey now
  let connRate := pruneTimestamps trackers.connRateTracker id trackingKey now
  if triggered then ⟨removeTimestamps ruleRate id trackingKey, removeTimestamps connRate id trackingKey⟩
  else ⟨ruleRate, connRate⟩

-- The body of the rule loop for a rule that matches.
def evaluateMatched (rule : EvaluatedRule τ) (pkt : ParsedPacket) (now : τ) (trackers : RateTrackers τ) :
    RateTrackers τ × Option PendingAlert :=
  let trackingKey := resolveTrackingKey rule pkt
  let recorded := recordPacket rule.id trackingKey pkt now trackers
  let triggered := triggeredCount rule (getTimestamps recorded.ruleRateTracker rule.id trackingKey)
    (getTimestamps recorded.connRateTracker rule.id trackingKey) now
  (settleTrackers rule.id trackingKey now triggered.isSome recorded,
    triggered.map (pendingAlert rule trackingKey))

def evaluateRule (isMatch : EvaluatedRule τ → Bool) (pkt : ParsedPacket) (now : τ) (trackers : RateTrackers τ)
    (rule : EvaluatedRule τ) : RateTrackers τ × Option PendingAlert :=
  if isMatch rule then evaluateMatched rule pkt now trackers else (trackers, none)

-- for rule in &self.rules
def evaluateRules (isMatch : EvaluatedRule τ → Bool) (pkt : ParsedPacket) (now : τ) (trackers : RateTrackers τ) :
    List (EvaluatedRule τ) → RateTrackers τ × List PendingAlert
  | [] => (trackers, [])
  | rule :: rest =>
      let (trackers, alert) := evaluateRule isMatch pkt now trackers rule
      let (trackers, pending) := evaluateRules isMatch pkt now trackers rest
      (trackers, alert.toList ++ pending)

end Evaluation

-- localTime tells the formatted wall clock when a message with a given number is made.
def createMessage (localTime : Nat → String) (iface : String) (counter : Nat) (alert : PendingAlert) :
    IdsmMessage where
  seqNo := counter + 1
  ttlMs := 5000
  sensorId := "sensor-Wi-Fi/Ethernet-01"
  sensorCertId := "-----"
  signature := []
  event := {
    eventId := alert.eventId
    eventName := alert.eventName
    severity := alert.severity
    timestamp := localTime (counter + 1)
    vehicleIdHash := "AA00BB1234"
    iface := iface
    payload := alert.payload }

def createMessages (localTime : Nat → String) (iface : String) (counter : Nat) :
    List PendingAlert → List IdsmMessage
  | [] => []
  | alert :: rest =>
      createMessage localTime iface counter alert :: createMessages localTime iface (counter + 1) rest

variable [Sub τ] [LT τ] [DecidableLT τ] [Timestamp τ]

-- The connection table the rules see while a packet is processed.
def turnTable (engine : StatefulDetectionEngine τ) (pkt : ParsedPacket) (now : τ) : ConnTable τ :=
  trackConnection (expireStates engine now).tcpConnTable pkt now

def matchesAt (engine : StatefulDetectionEngine τ) (pkt : ParsedPacket) (now : τ) (rule : EvaluatedRule τ) : Bool :=
  matchesRule rule pkt engine.iface engine.selfIps (turnTable engine pkt now)

def ruleOutcome (engine : StatefulDetectionEngine τ) (pkt : ParsedPacket) (now : τ) :
    RateTrackers τ × List PendingAlert :=
  evaluateRules (matchesAt engine pkt now) pkt now (expireStates engine now).toRateTrackers engine.rules

def processPacket (localTime : Nat → String) (engine : StatefulDetectionEngine τ) (pkt : ParsedPacket) (now : τ) :
    StatefulDetectionEngine τ × List IdsmMessage :=
  let expired := expireStates engine now
  let (trackers, pending) := ruleOutcome engine pkt now
  ({ expired with
    toRateTrackers := trackers
    accessPoints := trackAccessPoint expired.accessPoints pkt now
    clients := trackClient expired.clients pkt now
    tcpConnTable := turnTable engine pkt now
    alertCounter := expired.alertCounter + pending.length },
    createMessages localTime expired.iface expired.alertCounter pending)

structure Arrival (τ : Type) where
  pkt : ParsedPacket
  now : τ

theorem ordered_concat {T : Type} [LE T] (arrivals : List (Arrival T)) (arrival : Arrival T)
    (ordered : ((arrivals ++ [arrival]).map Arrival.now).Pairwise (· ≤ ·)) :
    (arrivals.map Arrival.now).Pairwise (· ≤ ·) ∧ ∀ earlier ∈ arrivals, earlier.now ≤ arrival.now := by
  rw [List.map_append, List.pairwise_append] at ordered
  refine ⟨ordered.1, ?_⟩
  intro earlier inside
  exact ordered.2.2 _ (List.mem_map_of_mem inside) _ (List.mem_singleton_self _)

def step (localTime : Nat → String) (engine : StatefulDetectionEngine τ) (arrival : Arrival τ) :
    StatefulDetectionEngine τ := (processPacket localTime engine arrival.pkt arrival.now).1

def run (localTime : Nat → String) (engine : StatefulDetectionEngine τ) (arrivals : List (Arrival τ)) :
    StatefulDetectionEngine τ := arrivals.foldl (step localTime) engine

theorem run_after (localTime : Nat → String) (engine : StatefulDetectionEngine τ) (before later : List (Arrival τ)) :
    run localTime (run localTime engine before) later = run localTime engine (before ++ later) := by
  rw [run, run, run, List.foldl_append]

theorem run_concat (localTime : Nat → String) (engine : StatefulDetectionEngine τ) (arrivals : List (Arrival τ))
    (arrival : Arrival τ) :
    run localTime engine (arrivals ++ [arrival]) = step localTime (run localTime engine arrivals) arrival := by
  rw [← run_after]
  rfl

def alertsOf (localTime : Nat → String) (engine : StatefulDetectionEngine τ) (arrival : Arrival τ) :
    List IdsmMessage := (processPacket localTime engine arrival.pkt arrival.now).2

def runAlerts (localTime : Nat → String) (engine : StatefulDetectionEngine τ) : List (Arrival τ) → List IdsmMessage
  | [] => []
  | arrival :: rest =>
      alertsOf localTime engine arrival ++ runAlerts localTime (step localTime engine arrival) rest

end NetworkIds.Engine
