import NetworkIds.Capture
import NetworkIds.Engine.SharedSlots

set_option autoImplicit false

namespace NetworkIds.Alerts

open NetworkIds.Engine
open NetworkIds.Capture (run_alerts_append)

-- What becomes of a text that is forwarded: a whole write to the TCP stream, with or
-- without the newline behind it, a write that failed after any part of the text, or a
-- UDP datagram.
inductive Transmission where
  | stream (data : String) (lineEnded : Bool)
  | brokenStream (data : String)
  | datagram (data targetAddr : String)
deriving DecidableEq

-- Whether there is a stream, and whether there is a socket.
structure AlertForwarder where
  tcpStream : Bool
  udpSocket : Bool
  targetAddr : String
deriving DecidableEq

-- What the operating system answers while one text is forwarded: to the write of the
-- text, the write of the newline, the bind of a socket and send_to. The second and
-- the last answer are thrown away.
structure Answers where
  written : Bool
  lineEnded : Bool
  bound : Bool
  sent : Bool

def AlertForwarder.new (targetAddr : String) (connected bound : Bool) : AlertForwarder where
  tcpStream := connected
  udpSocket := if connected then false else bound
  targetAddr := targetAddr

def AlertForwarder.sendTo (forwarder : AlertForwarder) (answers : Answers) (data : String) : List Transmission :=
  if forwarder.udpSocket then
    if answers.sent then [.datagram data forwarder.targetAddr] else []
  else []

def AlertForwarder.send (forwarder : AlertForwarder) (answers : Answers) (data : String) :
    AlertForwarder × List Transmission :=
  if forwarder.tcpStream then
    if answers.written then (forwarder, [.stream data answers.lineEnded])
    else
      let forwarder := { forwarder with tcpStream := false, udpSocket := answers.bound }
      (forwarder, .brokenStream data :: forwarder.sendTo answers data)
  else (forwarder, forwarder.sendTo answers data)

structure Delivery where
  data : String
  answers : Answers

def sendAll (forwarder : AlertForwarder) : List Delivery → AlertForwarder × List Transmission
  | [] => (forwarder, [])
  | delivery :: rest =>
      let (forwarder, sent) := forwarder.send delivery.answers delivery.data
      let (forwarder, later) := sendAll forwarder rest
      (forwarder, sent ++ later)

structure Handler where
  forwarder : Option AlertForwarder
  logged : List String
  transmitted : List Transmission

section Loop

variable (toStringPretty : IdsmMessage → Option String)

-- The body of the loop over rx_alerts.
def handleMessage (handler : Handler) (answers : Answers) (msg : IdsmMessage) : Handler :=
  match toStringPretty msg with
  | some json =>
      match handler.forwarder with
      | some forwarder =>
          let (forwarder, sent) := forwarder.send answers json
          { forwarder := some forwarder
            logged := handler.logged ++ [json]
            transmitted := handler.transmitted ++ sent }
      | none => { handler with logged := handler.logged ++ [json] }
  | none => handler

variable {τ : Type} [Sub τ] [LT τ] [DecidableLT τ] [Timestamp τ] (localTime : Nat → String)

-- The engine of the capture thread with the alerts of the current packet that are
-- still to be sent, the channel tx_alerts to rx_alerts, and the loop behind it.
structure AlertPath (τ : Type) where
  engine : StatefulDetectionEngine τ
  generated : List IdsmMessage
  channel : List IdsmMessage
  handler : Handler

def AlertPath.new (engine : StatefulDetectionEngine τ) (forwarder : Option AlertForwarder) : AlertPath τ where
  engine := engine
  generated := []
  channel := []
  handler := ⟨forwarder, [], []⟩

-- A step of the capture thread, which processes a packet once the alerts of the
-- last one are sent, or of the loop. The Trace holds the packets processed and the
-- alerts handled with the answers they met.
structure Trace (τ : Type) where
  arrivals : List (Arrival τ)
  handled : List (IdsmMessage × Answers)

inductive Step : Trace τ → AlertPath τ → Trace τ → AlertPath τ → Prop where
  | process (trace : Trace τ) (path : AlertPath τ) (arrival : Arrival τ) (sent : path.generated = []) :
      Step trace path { trace with arrivals := trace.arrivals ++ [arrival] }
        { path with
          engine := (processPacket localTime path.engine arrival.pkt arrival.now).1
          generated := (processPacket localTime path.engine arrival.pkt arrival.now).2 }
  | send (trace : Trace τ) (path : AlertPath τ) (msg : IdsmMessage) (rest : List IdsmMessage)
      (next : path.generated = msg :: rest) :
      Step trace path trace { path with generated := rest, channel := path.channel ++ [msg] }
  | handle (trace : Trace τ) (path : AlertPath τ) (msg : IdsmMessage) (rest : List IdsmMessage) (answers : Answers)
      (next : path.channel = msg :: rest) :
      Step trace path { trace with handled := trace.handled ++ [(msg, answers)] }
        { path with channel := rest, handler := handleMessage toStringPretty path.handler answers msg }

inductive Reached (engine : StatefulDetectionEngine τ) (forwarder : Option AlertForwarder) :
    Trace τ → AlertPath τ → Prop where
  | start : Reached engine forwarder ⟨[], []⟩ (.new engine forwarder)
  | next {trace after : Trace τ} {path later : AlertPath τ} (reached : Reached engine forwarder trace path)
      (step : Step toStringPretty localTime trace path after later) : Reached engine forwarder after later

end Loop

theorem send_all_cons (forwarder : AlertForwarder) (delivery : Delivery) (rest : List Delivery) :
    sendAll forwarder (delivery :: rest) =
      ((sendAll (forwarder.send delivery.answers delivery.data).1 rest).1,
        (forwarder.send delivery.answers delivery.data).2 ++
          (sendAll (forwarder.send delivery.answers delivery.data).1 rest).2) := rfl

theorem send_all_append (forwarder : AlertForwarder) (first second : List Delivery) :
    sendAll forwarder (first ++ second) =
      ((sendAll (sendAll forwarder first).1 second).1,
        (sendAll forwarder first).2 ++ (sendAll (sendAll forwarder first).1 second).2) := by
  induction first generalizing forwarder with
  | nil => rfl
  | cons delivery rest ih =>
      rw [List.cons_append, send_all_cons, ih, send_all_cons, List.append_assoc]

def datagrams (targetAddr : String) (socket : Bool) (deliveries : List Delivery) : List Transmission :=
  if socket then
    (deliveries.filter fun delivery => delivery.answers.sent).map fun delivery => .datagram delivery.data targetAddr
  else []

theorem datagrams_cons (forwarder : AlertForwarder) (delivery : Delivery) (rest : List Delivery) :
    datagrams forwarder.targetAddr forwarder.udpSocket (delivery :: rest) =
      forwarder.sendTo delivery.answers delivery.data ++
        datagrams forwarder.targetAddr forwarder.udpSocket rest := by
  rw [datagrams, datagrams, AlertForwarder.sendTo]
  by_cases socket : forwarder.udpSocket = true
  · rw [if_pos socket, if_pos socket, if_pos socket]
    rw [List.filter_cons]
    by_cases sent : delivery.answers.sent = true
    · rw [if_pos sent, if_pos sent]
      rfl
    · rw [if_neg sent, if_neg sent]
      rfl
  · rw [if_neg socket, if_neg socket, if_neg socket]
    rfl

theorem send_all_datagrams (forwarder : AlertForwarder) (fallen : forwarder.tcpStream = false)
    (deliveries : List Delivery) :
    sendAll forwarder deliveries = (forwarder, datagrams forwarder.targetAddr forwarder.udpSocket deliveries) := by
  induction deliveries with
  | nil =>
      rw [sendAll, datagrams, List.filter_nil, List.map_nil, ite_self]
  | cons delivery rest ih =>
      have sent : forwarder.send delivery.answers delivery.data =
          (forwarder, forwarder.sendTo delivery.answers delivery.data) := by
        rw [AlertForwarder.send, if_neg (by rw [fallen]; exact Bool.false_ne_true)]
      rw [send_all_cons, sent, ih, datagrams_cons]

-- What leaves the sensor for some texts: all of them on the stream; those before the
-- write of a text fails on the stream, and from there on datagrams, with the text of
-- the failed write among them; or only datagrams, when there was no stream from the
-- start. A newline that could not be written does not end the stream, and a text whose
-- send_to fails is not sent again.
inductive Forwarded (targetAddr : String) (bound : Bool) : Bool → List Delivery → List Transmission → Prop where
  | streamed (deliveries : List Delivery) (written : ∀ delivery ∈ deliveries, delivery.answers.written = true) :
      Forwarded targetAddr bound true deliveries
        (deliveries.map fun delivery => .stream delivery.data delivery.answers.lineEnded)
  | broken (before : List Delivery) (failed : Delivery) (after : List Delivery)
      (written : ∀ delivery ∈ before, delivery.answers.written = true) (lost : failed.answers.written = false) :
      Forwarded targetAddr bound true (before ++ failed :: after)
        ((before.map fun delivery => .stream delivery.data delivery.answers.lineEnded) ++
          .brokenStream failed.data :: datagrams targetAddr failed.answers.bound (failed :: after))
  | unconnected (deliveries : List Delivery) :
      Forwarded targetAddr bound false deliveries (datagrams targetAddr bound deliveries)

theorem stream_forwarded (forwarder : AlertForwarder) (bound : Bool) (connected : forwarder.tcpStream = true)
    (deliveries : List Delivery) :
    Forwarded forwarder.targetAddr bound true deliveries (sendAll forwarder deliveries).2 := by
  induction deliveries with
  | nil => exact .streamed [] (fun _ member => by cases member)
  | cons delivery rest ih =>
      rw [send_all_cons, AlertForwarder.send, if_pos connected]
      cases answered : delivery.answers.written with
      | false =>
          rw [if_neg Bool.false_ne_true, send_all_datagrams _ rfl, List.cons_append, ← datagrams_cons]
          exact .broken [] delivery rest (fun _ member => by cases member) answered
      | true =>
          rw [if_pos rfl]
          generalize (sendAll forwarder rest).2 = sent at ih
          cases ih with
          | streamed _ written => exact .streamed (delivery :: rest) (List.forall_mem_cons.mpr ⟨answered, written⟩)
          | broken before failed after written lost =>
              exact .broken (delivery :: before) failed after (List.forall_mem_cons.mpr ⟨answered, written⟩) lost

theorem new_forwarded (targetAddr : String) (connected bound : Bool) (deliveries : List Delivery) :
    Forwarded targetAddr bound connected deliveries (sendAll (.new targetAddr connected bound) deliveries).2 := by
  cases connected with
  | true => exact stream_forwarded (.new targetAddr true bound) bound rfl deliveries
  | false =>
      rw [send_all_datagrams _ rfl]
      exact .unconnected deliveries

def deliveriesOf (toStringPretty : IdsmMessage → Option String) (handled : List (IdsmMessage × Answers)) :
    List Delivery :=
  handled.filterMap fun entry => (toStringPretty entry.1).map fun json => ⟨json, entry.2⟩

def everyPacketRule : EvaluatedRule Rat := catchAllRule 1 (some 1) none

def eventIdText (msg : IdsmMessage) : Option String := some msg.event.eventId

theorem first_alert_handled (forwarder : Option AlertForwarder) (answers : Answers) :
    ∃ trace path, Reached eventIdText (fun _ => "") (startedWith [everyPacketRule]) forwarder trace path ∧
      trace.handled.length = 1 ∧ deliveriesOf eventIdText trace.handled = [⟨"RULE-1", answers⟩] := by
  have raised : (alertsOf (fun _ => "") (startedWith [everyPacketRule]) (bareArrival 0)).map
      (fun msg => msg.event.eventId) = ["RULE-1"] := by decide +kernel
  obtain ⟨msg, rest, split, first, _⟩ := List.map_eq_cons_iff.mp raised
  have started : Reached eventIdText (fun _ => "") (startedWith [everyPacketRule]) forwarder ⟨[], []⟩
    (.new _ forwarder) := .start
  have processed := started.next (.process _ _ (bareArrival 0) rfl)
  have sent := processed.next (.send _ _ msg rest split)
  have handled := sent.next (.handle _ _ msg [] answers rfl)
  refine ⟨_, _, handled, rfl, ?_⟩
  simp [deliveriesOf, eventIdText, first]

section Run

variable (toStringPretty : IdsmMessage → Option String)

def handlerAfter (forwarder : Option AlertForwarder) (deliveries : List Delivery) : Handler where
  forwarder := forwarder.map fun forwarder => (sendAll forwarder deliveries).1
  logged := deliveries.map Delivery.data
  transmitted := (forwarder.map fun forwarder => (sendAll forwarder deliveries).2).getD []

theorem handle_message_after (forwarder : Option AlertForwarder) (handled : List (IdsmMessage × Answers))
    (msg : IdsmMessage) (answers : Answers) :
    handleMessage toStringPretty (handlerAfter forwarder (deliveriesOf toStringPretty handled)) answers msg =
      handlerAfter forwarder (deliveriesOf toStringPretty (handled ++ [(msg, answers)])) := by
  rw [handleMessage, deliveriesOf, deliveriesOf, List.filterMap_append, List.filterMap_cons, List.filterMap_nil]
  cases toStringPretty msg with
  | none =>
      dsimp only [Option.map_none]
      rw [List.append_nil]
  | some json =>
      dsimp only [Option.map_some]
      cases forwarder with
      | none => simp [handlerAfter]
      | some forwarder => simp [handlerAfter, send_all_append, sendAll]

variable {τ : Type} [Sub τ] [LT τ] [DecidableLT τ] [Timestamp τ] (localTime : Nat → String)

theorem step_alert_numbers (engine : StatefulDetectionEngine τ) (arrival : Arrival τ) :
    (alertsOf localTime engine arrival).map IdsmMessage.seqNo =
        List.range' (engine.alertCounter + 1) (alertsOf localTime engine arrival).length ∧
      (step localTime engine arrival).alertCounter =
        engine.alertCounter + (alertsOf localTime engine arrival).length := by
  have kept : (expireStates engine arrival.now).alertCounter = engine.alertCounter := by
    rw [expireStates]
    split
    · rfl
    · rfl
  have numbers := create_messages_numbers localTime (expireStates engine arrival.now).iface
    (expireStates engine arrival.now).alertCounter (ruleOutcome engine arrival.pkt arrival.now).2
  have length := congrArg List.length numbers
  rw [List.length_map, List.length_range'] at length
  have raised : alertsOf localTime engine arrival = createMessages localTime (expireStates engine arrival.now).iface
    (expireStates engine arrival.now).alertCounter (ruleOutcome engine arrival.pkt arrival.now).2 := rfl
  rw [raised, numbers, length, kept]
  refine ⟨rfl, ?_⟩
  rw [← kept]
  rfl

theorem run_alert_numbers (engine : StatefulDetectionEngine τ) (arrivals : List (Arrival τ)) :
    (runAlerts localTime engine arrivals).map IdsmMessage.seqNo =
      List.range' (engine.alertCounter + 1) (runAlerts localTime engine arrivals).length := by
  induction arrivals generalizing engine with
  | nil => rfl
  | cons arrival rest ih =>
      obtain ⟨numbers, counter⟩ := step_alert_numbers localTime engine arrival
      rw [runAlerts, List.map_append, ih, numbers, counter, List.length_append, Nat.add_right_comm,
        List.range'_append_1]

variable {engine : StatefulDetectionEngine τ} {forwarder : Option AlertForwarder}

structure Invariant (engine : StatefulDetectionEngine τ) (forwarder : Option AlertForwarder) (trace : Trace τ)
    (path : AlertPath τ) : Prop where
  detected : path.engine = run localTime engine trace.arrivals
  conserved : trace.handled.map Prod.fst ++ path.channel ++ path.generated =
    runAlerts localTime engine trace.arrivals
  handler : path.handler = handlerAfter forwarder (deliveriesOf toStringPretty trace.handled)

theorem new_invariant : Invariant toStringPretty localTime engine forwarder ⟨[], []⟩ (.new engine forwarder) where
  detected := rfl
  conserved := rfl
  handler := by
    cases forwarder with
    | none => rfl
    | some forwarder => rfl

theorem step_invariant {trace after : Trace τ} {path later : AlertPath τ}
    (inv : Invariant toStringPretty localTime engine forwarder trace path)
    (step : Step toStringPretty localTime trace path after later) :
    Invariant toStringPretty localTime engine forwarder after later := by
  obtain ⟨detected, conserved, handler⟩ := inv
  cases step with
  | process arrival sent =>
      refine ⟨?_, ?_, handler⟩
      · dsimp only
        rw [run_concat, ← detected]
        rfl
      · rw [sent, List.append_nil] at conserved
        dsimp only
        rw [run_alerts_append, ← conserved, ← detected]
        exact congrArg _ (List.append_nil _).symm
  | send msg rest next =>
      refine ⟨detected, ?_, handler⟩
      rw [next] at conserved
      dsimp only
      rw [← conserved]
      simp
  | handle msg rest answers next =>
      refine ⟨detected, ?_, ?_⟩
      · rw [next] at conserved
        dsimp only
        rw [← conserved]
        simp
      · dsimp only
        rw [handler, handle_message_after]

theorem reached_invariant {trace : Trace τ} {path : AlertPath τ}
    (reached : Reached toStringPretty localTime engine forwarder trace path) :
    Invariant toStringPretty localTime engine forwarder trace path := by
  induction reached with
  | start => exact new_invariant toStringPretty localTime
  | next _ step ih => exact step_invariant toStringPretty localTime ih step

theorem handler_logged {trace : Trace τ} {path : AlertPath τ}
    (inv : Invariant toStringPretty localTime engine forwarder trace path) :
    path.handler.logged = (trace.handled.map Prod.fst).filterMap toStringPretty := by
  have logged : path.handler.logged = (deliveriesOf toStringPretty trace.handled).map Delivery.data := by
    rw [inv.handler]
    rfl
  rw [logged, deliveriesOf, List.map_filterMap, List.filterMap_map]
  congr 1
  funext entry
  cases written : toStringPretty entry.1 with
  | none => simp [written]
  | some json => simp [written]

-- In every interleaving of the capture thread and the loop, the alerts of the packets
-- processed are handled, waiting or about to be sent, once each and in order; they are
-- numbered on from the counter without a gap, and the log is what is written of those
-- handled.
theorem no_alert_lost (trace : Trace τ) (path : AlertPath τ)
    (reached : Reached toStringPretty localTime engine forwarder trace path) :
    trace.handled.map Prod.fst ++ path.channel ++ path.generated = runAlerts localTime engine trace.arrivals ∧
      (trace.handled.map Prod.fst ++ path.channel ++ path.generated).map IdsmMessage.seqNo =
        List.range' (engine.alertCounter + 1)
          (trace.handled.length + path.channel.length + path.generated.length) ∧
      path.handler.logged = (trace.handled.map Prod.fst).filterMap toStringPretty ∧
      (path.channel ++ path.generated ≠ [] → ∃ after later, Step toStringPretty localTime trace path after later ∧
        after.arrivals = trace.arrivals) := by
  have inv := reached_invariant toStringPretty localTime reached
  have conserved := inv.conserved
  refine ⟨conserved, ?_, ?_, ?_⟩
  · rw [conserved, run_alert_numbers, ← conserved, List.length_append, List.length_append, List.length_map]
  · exact handler_logged toStringPretty localTime inv
  · intro waiting
    cases queued : path.channel with
    | cons msg rest => exact ⟨_, _, .handle trace path msg rest ⟨true, true, true, true⟩ queued, rfl⟩
    | nil =>
        cases next : path.generated with
        | nil =>
            rw [queued, next] at waiting
            exact absurd rfl waiting
        | cons msg rest => exact ⟨_, _, .send trace path msg rest next, rfl⟩

end Run

theorem first_alert_not_lost : ∃ trace path,
    Reached eventIdText (fun _ => "") (startedWith [everyPacketRule]) none trace path ∧
      trace.handled.length = 1 ∧ path.handler.logged = (trace.handled.map Prod.fst).filterMap eventIdText := by
  obtain ⟨trace, path, reached, one, _⟩ := first_alert_handled none ⟨true, true, true, true⟩
  exact ⟨trace, path, reached, one, (no_alert_lost eventIdText (fun _ => "") trace path reached).2.2.1⟩

theorem alerts_forwarded_once {τ : Type} [Sub τ] [LT τ] [DecidableLT τ] [Timestamp τ]
    (toStringPretty : IdsmMessage → Option String) (localTime : Nat → String) (engine : StatefulDetectionEngine τ)
    (targetAddr : String) (connected bound : Bool) (trace : Trace τ) (path : AlertPath τ)
    (reached : Reached toStringPretty localTime engine (some (.new targetAddr connected bound)) trace path) :
    Forwarded targetAddr bound connected (deliveriesOf toStringPretty trace.handled) path.handler.transmitted := by
  obtain ⟨_, _, handler⟩ := reached_invariant toStringPretty localTime reached
  rw [handler]
  exact new_forwarded targetAddr connected bound _

-- The stream of the first alert is broken: it goes out again as a datagram.
theorem first_alert_forwarded : ∃ trace path, Reached eventIdText (fun _ => "") (startedWith [everyPacketRule])
    (some (.new "10.0.0.9:9999" true true)) trace path ∧
      Forwarded "10.0.0.9:9999" true true [⟨"RULE-1", ⟨false, false, true, true⟩⟩] path.handler.transmitted := by
  obtain ⟨trace, path, reached, _, deliveries⟩ :=
    first_alert_handled (some (.new "10.0.0.9:9999" true true)) ⟨false, false, true, true⟩
  refine ⟨trace, path, reached, ?_⟩
  rw [← deliveries]
  exact alerts_forwarded_once eventIdText (fun _ => "") _ "10.0.0.9:9999" true true trace path reached

end NetworkIds.Alerts
