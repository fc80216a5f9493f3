import NetworkIds.Capture
import NetworkIds.Engine.Slot

set_option autoImplicit false

namespace NetworkIds.Capture

open Checked Endian Grouping NetworkIds.Engine NetworkIds.Locality NetworkIds.Parser

section Ports

variable {τ : Type}

def connPort (key : ConnKey) : UInt16 := min key.2.1 key.2.2.2

def arrivalPort (arrival : Arrival τ) : UInt16 := portKey arrival.pkt

theorem conn_key_port (pkt : ParsedPacket) (tcp : TcpInfo) (transport : pkt.transport = .tcp tcp) :
    connPort (connKey pkt tcp) = portKey pkt := by
  rw [portKey, transport]
  rfl

theorem rev_conn_key_port (pkt : ParsedPacket) (tcp : TcpInfo) (transport : pkt.transport = .tcp tcp) :
    connPort (revConnKey pkt tcp) = portKey pkt := by
  rw [portKey, transport]
  show min tcp.dstPort tcp.srcPort = min tcp.srcPort tcp.dstPort
  grind

theorem track_other_port (table : ConnTable τ) (pkt : ParsedPacket) (now : τ) (key : ConnKey)
    (other : connPort key ≠ portKey pkt) : (trackConnection table pkt now).lookup key = table.lookup key := by
  rw [lookup_track]
  unfold trackEntry
  cases transport : pkt.transport with
  | tcp tcp =>
      have own : key ≠ connKey pkt tcp := by
        intro same
        exact other (same ▸ conn_key_port pkt tcp transport)
      have reversed : key ≠ revConnKey pkt tcp := by
        intro same
        exact other (same ▸ rev_conn_key_port pkt tcp transport)
      dsimp only
      rw [if_neg own, if_neg (not_or.mpr ⟨own, reversed⟩), if_neg own, if_neg own, ite_self, ite_self, ite_self]
  | udp udp => rfl
  | icmp icmp => rfl
  | none => rfl

-- Two engines that the packets of one port cannot tell apart.
structure AlikeAt (port : UInt16) (first second : StatefulDetectionEngine τ) : Prop where
  table : ∀ key, connPort key = port → first.tcpConnTable.lookup key = second.tcpConnTable.lookup key
  iface : first.iface = second.iface
  selfIps : first.selfIps = second.selfIps

theorem AlikeAt.trans {port : UInt16} {first second third : StatefulDetectionEngine τ}
    (left : AlikeAt port first second) (right : AlikeAt port second third) : AlikeAt port first third :=
  ⟨fun key own => (left.table key own).trans (right.table key own), left.iface.trans right.iface,
    left.selfIps.trans right.selfIps⟩

end Ports

section Quiet

variable {τ : Type} [Sub τ] [LT τ] [DecidableLT τ] [Timestamp τ] (localTime : Nat → String)

def Quiet (engine : StatefulDetectionEngine τ) (arrivals : List (Arrival τ)) : Prop :=
  ∀ arrival ∈ arrivals, cleanupDue engine arrival.now = false

theorem expire_quiet (engine : StatefulDetectionEngine τ) (now : τ) (quiet : cleanupDue engine now = false) :
    expireStates engine now = engine := if_neg (by simp [quiet])

theorem step_quiet (engine : StatefulDetectionEngine τ) (arrival : Arrival τ) (rest : List (Arrival τ))
    (quiet : Quiet engine (arrival :: rest)) : Quiet (step localTime engine arrival) rest := by
  have cleaned : (step localTime engine arrival).lastCleanupTime = engine.lastCleanupTime := by
    show (expireStates engine arrival.now).lastCleanupTime = engine.lastCleanupTime
    rw [expire_quiet engine arrival.now (quiet arrival (List.mem_cons_self))]
  intro later member
  rw [cleanupDue, cleaned]
  exact quiet later (List.mem_cons_of_mem _ member)

theorem step_alike (port : UInt16) (first second : StatefulDetectionEngine τ) (arrival : Arrival τ)
    (alike : AlikeAt port first second) (quietFirst : cleanupDue first arrival.now = false)
    (quietSecond : cleanupDue second arrival.now = false) :
    AlikeAt port (step localTime first arrival) (step localTime second arrival) := by
  refine ⟨?_, ?_, ?_⟩
  · intro key own
    show (trackConnection (expireStates first arrival.now).tcpConnTable arrival.pkt arrival.now).lookup key =
      (trackConnection (expireStates second arrival.now).tcpConnTable arrival.pkt arrival.now).lookup key
    rw [expire_quiet first _ quietFirst, expire_quiet second _ quietSecond, lookup_track, lookup_track,
      alike.table key own]
  · show (expireStates first arrival.now).iface = (expireStates second arrival.now).iface
    rw [expire_quiet first _ quietFirst, expire_quiet second _ quietSecond, alike.iface]
  · show (expireStates first arrival.now).selfIps = (expireStates second arrival.now).selfIps
    rw [expire_quiet first _ quietFirst, expire_quiet second _ quietSecond, alike.selfIps]

theorem step_other_port (port : UInt16) (engine : StatefulDetectionEngine τ) (arrival : Arrival τ)
    (other : arrivalPort arrival ≠ port) (quiet : cleanupDue engine arrival.now = false) :
    AlikeAt port (step localTime engine arrival) engine := by
  refine ⟨?_, ?_, ?_⟩
  · intro key own
    show (trackConnection (expireStates engine arrival.now).tcpConnTable arrival.pkt arrival.now).lookup key = _
    rw [expire_quiet engine _ quiet]
    exact track_other_port _ arrival.pkt arrival.now key fun same => other (same.symm.trans own)
  · show (expireStates engine arrival.now).iface = engine.iface
    rw [expire_quiet engine _ quiet]
  · show (expireStates engine arrival.now).selfIps = engine.selfIps
    rw [expire_quiet engine _ quiet]

theorem counts_alike (first second : StatefulDetectionEngine τ) (rule : EvaluatedRule τ) (key : String)
    (arrival : Arrival τ) (alike : AlikeAt (arrivalPort arrival) first second)
    (quietFirst : cleanupDue first arrival.now = false) (quietSecond : cleanupDue second arrival.now = false) :
    countsFor first rule key arrival = countsFor second rule key arrival := by
  have matched : matchesAt first arrival.pkt arrival.now rule = matchesAt second arrival.pkt arrival.now rule := by
    rw [matchesAt, matchesAt, alike.iface, alike.selfIps]
    apply matches_rule_table
    intro tcp transport
    rw [turnTable, turnTable, expire_quiet first _ quietFirst, expire_quiet second _ quietSecond, lookup_track,
      lookup_track, alike.table _ (conn_key_port arrival.pkt tcp transport)]
  rw [countsFor, countsFor, matched]

def counted (rule : EvaluatedRule τ) (key : String) (engine : StatefulDetectionEngine τ) :
    List (Arrival τ) → List (Arrival τ)
  | [] => []
  | arrival :: rest =>
      if countsFor engine rule key arrival then arrival :: counted rule key (step localTime engine arrival) rest
      else counted rule key (step localTime engine arrival) rest

theorem counted_sublist (rule : EvaluatedRule τ) (key : String) (engine : StatefulDetectionEngine τ)
    (arrivals : List (Arrival τ)) : (counted localTime rule key engine arrivals).Sublist arrivals := by
  induction arrivals generalizing engine with
  | nil => exact List.Sublist.refl []
  | cons arrival rest ih =>
      rw [counted]
      by_cases counts : countsFor engine rule key arrival
      · rw [if_pos counts]
        exact (ih _).cons_cons arrival
      · rw [if_neg counts]
        exact (ih _).cons arrival

theorem counted_ports_match (rule : EvaluatedRule τ) (key : String) (engine : StatefulDetectionEngine τ)
    (arrivals : List (Arrival τ)) :
    ∀ arrival ∈ counted localTime rule key engine arrivals, portsMatch rule arrival.pkt = true := by
  induction arrivals generalizing engine with
  | nil => simp [counted]
  | cons first rest ih =>
      intro arrival member
      rw [counted] at member
      by_cases counts : countsFor engine rule key first
      · rw [if_pos counts] at member
        rcases List.mem_cons.mp member with same | later
        · have matched : matchesAt engine first.pkt first.now rule = true := (Bool.and_eq_true_iff.mp counts).1
          rw [same]
          exact (Bool.and_eq_true_iff.mp matched).2
        · exact ih _ arrival later
      · rw [if_neg counts] at member
        exact ih _ arrival member

theorem counted_bucket (rule : EvaluatedRule τ) (key : String) (port : UInt16) (arrivals : List (Arrival τ))
    (full only : StatefulDetectionEngine τ) (alike : AlikeAt port full only) (quietFull : Quiet full arrivals)
    (quietOnly : Quiet only arrivals) :
    bucket arrivalPort port (counted localTime rule key full arrivals) =
      counted localTime rule key only (bucket arrivalPort port arrivals) := by
  induction arrivals generalizing full only with
  | nil => rfl
  | cons arrival rest ih =>
      have dueFull := quietFull arrival List.mem_cons_self
      have dueOnly := quietOnly arrival List.mem_cons_self
      have later := step_quiet localTime full arrival rest quietFull
      by_cases own : arrivalPort arrival = port
      · have after := ih _ _ (step_alike localTime port full only arrival alike dueFull dueOnly) later
          (step_quiet localTime only arrival rest quietOnly)
        have same := counts_alike full only rule key arrival (own ▸ alike) dueFull dueOnly
        rw [bucket, bucket, List.filter_cons_of_pos (by simpa using own), counted, counted, same]
        by_cases counts : countsFor only rule key arrival
        · rw [if_pos counts, if_pos counts, List.filter_cons_of_pos (by simpa using own)]
          exact congrArg _ after
        · rw [if_neg counts, if_neg counts]
          exact after
      · have skipped := (step_other_port localTime port full arrival own dueFull).trans alike
        have after := ih _ _ skipped later fun next member => quietOnly next (List.mem_cons_of_mem _ member)
        rw [bucket, bucket, List.filter_cons_of_neg (by simpa using own), counted]
        by_cases counts : countsFor full rule key arrival
        · rw [if_pos counts, List.filter_cons_of_neg (by simpa using own)]
          exact after
        · rw [if_neg counts]
          exact after

theorem counted_same_buckets (rule : EvaluatedRule τ) (key : String) (engine : StatefulDetectionEngine τ)
    (xs ys : List (Arrival τ)) (same : SameBuckets arrivalPort xs ys) (quiet : Quiet engine xs) :
    SameBuckets arrivalPort (counted localTime rule key engine xs) (counted localTime rule key engine ys) := by
  have quietOther : Quiet engine ys := fun arrival member =>
    quiet arrival (same_buckets_mem arrivalPort xs ys same arrival member)
  intro port
  have itself : AlikeAt port engine engine := ⟨fun _ _ => rfl, rfl, rfl⟩
  rw [counted_bucket localTime rule key port xs engine engine itself quiet quiet,
    counted_bucket localTime rule key port ys engine engine itself quietOther quietOther, same port]

def slotAlerts (rule : EvaluatedRule τ) (slot : Slot τ) : List (Arrival τ) → List UInt32
  | [] => []
  | arrival :: rest =>
      let next := Slot.step rule (isNewTcpConn arrival.pkt) arrival.now slot
      (next.2.map UInt32.ofNat).toList ++ slotAlerts rule next.1 rest

theorem quiet_reports (rule : EvaluatedRule τ) (key : String) (engine : StatefulDetectionEngine τ)
    (distinct : (engine.rules.map EvaluatedRule.id).Nodup) (member : rule ∈ engine.rules)
    (arrivals : List (Arrival τ)) (quiet : Quiet engine arrivals) :
    reports rule.id key (runAlerts localTime engine arrivals) =
      slotAlerts rule (slotAt engine rule.id key) (counted localTime rule key engine arrivals) := by
  induction arrivals generalizing engine with
  | nil => rfl
  | cons arrival rest ih =>
      have due := quiet arrival List.mem_cons_self
      have reported := step_reports localTime engine arrival distinct rule member key
      have slot := step_slot localTime engine arrival distinct rule member key
      rw [expire_quiet engine _ due] at reported slot
      have rules := step_rules localTime engine arrival
      have later := ih (step localTime engine arrival) (by rwa [rules]) (by rwa [rules])
        (step_quiet localTime engine arrival rest quiet)
      have split : reports rule.id key (runAlerts localTime engine (arrival :: rest)) =
          reports rule.id key (alertsOf localTime engine arrival) ++
            reports rule.id key (runAlerts localTime (step localTime engine arrival) rest) :=
        List.filterMap_append
      rw [split, reported, later, slot, counted]
      by_cases counts : countsFor engine rule key arrival
      · rw [if_pos counts, if_pos counts, if_pos counts]
        rfl
      · rw [if_neg counts, if_neg counts, if_neg counts]
        rfl

def QuietAfterFirst (engine : StatefulDetectionEngine τ) : List (Arrival τ) → Prop
  | [] => True
  | first :: rest => Quiet (step localTime engine first) rest

instance (engine : StatefulDetectionEngine τ) :
    (arrivals : List (Arrival τ)) → Decidable (QuietAfterFirst localTime engine arrivals)
  | [] => inferInstanceAs (Decidable True)
  | first :: rest => inferInstanceAs
      (Decidable (∀ arrival ∈ rest, cleanupDue (step localTime engine first) arrival.now = false))

-- Grouping a batch by port does not move the packets that count for a rule and a key.
def KeepsOrder (rule : EvaluatedRule τ) (key : String) (engine : StatefulDetectionEngine τ)
    (arrivals : List (Arrival τ)) : Prop :=
  grouped arrivalPort (keysSeen arrivalPort arrivals) (counted localTime rule key engine arrivals) =
    counted localTime rule key engine arrivals

theorem one_port_keeps_order (rule : EvaluatedRule τ) (key : String) (engine : StatefulDetectionEngine τ)
    (arrivals : List (Arrival τ)) (port : UInt16)
    (all : ∀ arrival ∈ counted localTime rule key engine arrivals, arrivalPort arrival = port) :
    KeepsOrder localTime rule key engine arrivals := by
  rw [KeepsOrder]
  cases packets : counted localTime rule key engine arrivals with
  | nil => exact List.flatMap_eq_nil_iff.mpr fun _ _ => rfl
  | cons first rest =>
      rw [packets] at all
      have inside : first ∈ arrivals :=
        (counted_sublist localTime rule key engine arrivals).subset (packets ▸ List.mem_cons_self)
      apply grouped_one_key arrivalPort _ port _ (keys_seen_distinct arrivalPort arrivals) _ all
      rw [← all first List.mem_cons_self]
      exact keys_seen_covers arrivalPort arrivals first inside

theorem counted_after_first (rule : EvaluatedRule τ) (key : String) (engine : StatefulDetectionEngine τ)
    (first : Arrival τ) (rest others : List (Arrival τ)) (same : SameBuckets arrivalPort rest others)
    (quiet : Quiet (step localTime engine first) rest) :
    SameBuckets arrivalPort (counted localTime rule key engine (first :: rest))
      (counted localTime rule key engine (first :: others)) := by
  have tails := counted_same_buckets localTime rule key (step localTime engine first) rest others same quiet
  rw [counted, counted]
  by_cases counts : countsFor engine rule key first
  · rw [if_pos counts, if_pos counts]
    exact same_buckets_cons arrivalPort first _ _ tails
  · rw [if_neg counts, if_neg counts]
    exact tails

theorem regrouped_counted (rule : EvaluatedRule τ) (key : String) (engine : StatefulDetectionEngine τ)
    (first : Arrival τ) (rest others : List (Arrival τ))
    (regrouped : groupByKey arrivalPort (first :: rest) = first :: others)
    (quiet : Quiet (step localTime engine first) rest) :
    counted localTime rule key engine (first :: others) =
      grouped arrivalPort (keysSeen arrivalPort (first :: rest)) (counted localTime rule key engine (first :: rest)) := by
  have same : SameBuckets arrivalPort (first :: rest) (first :: others) := by
    rw [← regrouped]
    exact fun port => (group_by_key_same_buckets arrivalPort (first :: rest) port).symm
  have buckets := counted_after_first localTime rule key engine first rest others
    (same_buckets_tail arrivalPort first rest others same) quiet
  have within : (counted localTime rule key engine (first :: others)).Sublist
      (grouped arrivalPort (keysSeen arrivalPort (first :: rest)) (first :: rest)) := by
    have sublist := counted_sublist localTime rule key engine (first :: others)
    rwa [← regrouped] at sublist ⊢
  rw [grouped_congr arrivalPort _ _ _ buckets]
  exact (grouped_sublist arrivalPort _ _ _ (keys_seen_distinct arrivalPort _) within).symm

theorem counted_tails (rule : EvaluatedRule τ) (key : String) (engine : StatefulDetectionEngine τ)
    (first : Arrival τ) (rest others : List (Arrival τ))
    (equal : counted localTime rule key engine (first :: others) = counted localTime rule key engine (first :: rest)) :
    counted localTime rule key (step localTime engine first) others =
      counted localTime rule key (step localTime engine first) rest := by
  rw [counted, counted] at equal
  by_cases counts : countsFor engine rule key first
  · rw [if_pos counts, if_pos counts] at equal
    exact List.tail_eq_of_cons_eq equal
  · rwa [if_neg counts, if_neg counts] at equal

theorem regrouped_reports (rule : EvaluatedRule τ) (key : String) (engine : StatefulDetectionEngine τ)
    (distinct : (engine.rules.map EvaluatedRule.id).Nodup) (member : rule ∈ engine.rules)
    (arrivals : List (Arrival τ)) (quiet : QuietAfterFirst localTime engine arrivals)
    (order : KeepsOrder localTime rule key engine arrivals) :
    reports rule.id key (runAlerts localTime engine (groupByKey arrivalPort arrivals)) =
      reports rule.id key (runAlerts localTime engine arrivals) := by
  cases arrivals with
  | nil => rfl
  | cons first rest =>
      obtain ⟨others, regrouped⟩ := group_by_key_first arrivalPort first rest
      have moved := regrouped_counted localTime rule key engine first rest others regrouped quiet
      rw [KeepsOrder] at order
      have tails := counted_tails localTime rule key engine first rest others (moved.trans order)
      have quietOthers : Quiet (step localTime engine first) others := by
        intro arrival inside
        have same := group_by_key_same_buckets arrivalPort (first :: rest)
        rw [regrouped] at same
        have later := same_buckets_tail arrivalPort first others rest same
        exact quiet arrival (same_buckets_mem arrivalPort rest others (fun port => (later port).symm) arrival inside)
      have rules := step_rules localTime engine first
      have split : ∀ tail, reports rule.id key (runAlerts localTime engine (first :: tail)) =
          reports rule.id key (alertsOf localTime engine first) ++
            reports rule.id key (runAlerts localTime (step localTime engine first) tail) :=
        fun tail => List.filterMap_append
      rw [regrouped, split, split, quiet_reports localTime rule key _ (by rwa [rules]) (by rwa [rules]) rest quiet,
        quiet_reports localTime rule key _ (by rwa [rules]) (by rwa [rules]) others quietOthers, tails]

theorem run_bucket (port : UInt16) (arrivals : List (Arrival τ)) (full only : StatefulDetectionEngine τ)
    (alike : AlikeAt port full only) (quietFull : Quiet full arrivals) (quietOnly : Quiet only arrivals) :
    AlikeAt port (Engine.run localTime full arrivals)
      (Engine.run localTime only (bucket arrivalPort port arrivals)) := by
  induction arrivals generalizing full only with
  | nil => exact alike
  | cons arrival rest ih =>
      have dueFull := quietFull arrival List.mem_cons_self
      have dueOnly := quietOnly arrival List.mem_cons_self
      have later := step_quiet localTime full arrival rest quietFull
      by_cases own : arrivalPort arrival = port
      · rw [bucket, List.filter_cons_of_pos (by simpa using own)]
        exact ih _ _ (step_alike localTime port full only arrival alike dueFull dueOnly) later
          (step_quiet localTime only arrival rest quietOnly)
      · rw [bucket, List.filter_cons_of_neg (by simpa using own)]
        exact ih _ _ ((step_other_port localTime port full arrival own dueFull).trans alike) later
          fun next member => quietOnly next (List.mem_cons_of_mem _ member)

theorem same_buckets_table (engine : StatefulDetectionEngine τ) (xs ys : List (Arrival τ))
    (same : SameBuckets arrivalPort xs ys) (quiet : Quiet engine xs) :
    (Engine.run localTime engine xs).tcpConnTable = (Engine.run localTime engine ys).tcpConnTable := by
  have quietOther : Quiet engine ys := fun arrival member =>
    quiet arrival (same_buckets_mem arrivalPort xs ys same arrival member)
  apply HashMap.ext_lookup
  intro key
  have itself : AlikeAt (connPort key) engine engine := ⟨fun _ _ => rfl, rfl, rfl⟩
  have first := (run_bucket localTime (connPort key) xs engine engine itself quiet quiet).table key rfl
  have second := (run_bucket localTime (connPort key) ys engine engine itself quietOther quietOther).table key rfl
  rw [first, second, same (connPort key)]

end Quiet

section Subjects

variable {τ : Type}

def alertSubject (message : IdsmMessage) : String × List SenderRate :=
  ((floodOf message).packetSignatureHash, (floodOf message).senderList)

def RaisedAmong (rules : List (EvaluatedRule τ)) (message : IdsmMessage) : Prop :=
  ∃ rule ∈ rules, ∃ sender, alertSubject message = (packetSignature rule.id, [sender])

theorem create_messages_payload (localTime : Nat → String) (iface : String) (counter : Nat)
    (pending : List PendingAlert) (message : IdsmMessage)
    (member : message ∈ createMessages localTime iface counter pending) :
    ∃ alert ∈ pending, message.event.payload = alert.payload := by
  induction pending generalizing counter with
  | nil => cases member
  | cons alert rest ih =>
      rcases List.mem_cons.mp member with same | later
      · subst same
        exact ⟨alert, List.mem_cons_self, rfl⟩
      · obtain ⟨raised, inside, payload⟩ := ih (counter + 1) later
        exact ⟨raised, List.mem_cons_of_mem _ inside, payload⟩

theorem subject_iff (message : IdsmMessage) (id : UInt32) (sender : SenderRate) (rule : EvaluatedRule τ)
    (other : SenderRate) (shape : alertSubject message = (packetSignature rule.id, [other])) :
    alertSubject message = (packetSignature id, [sender]) ↔
      reportFor id sender.senderId message = some sender.pktRatePerSender := by
  have signature : (floodOf message).packetSignatureHash = packetSignature rule.id := congrArg Prod.fst shape
  have senders : (floodOf message).senderList = [other] := congrArg Prod.snd shape
  rw [shape, reportFor, raisedBy, signature, senders, Prod.mk.injEq, List.cons.injEq]
  by_cases own : packetSignature rule.id = packetSignature id
  · rw [if_pos (beq_iff_eq.mpr own)]
    by_cases same : other.senderId = sender.senderId
    · rw [List.find?_cons_of_pos (by simpa using same)]
      cases other
      cases sender
      simp_all
    · rw [List.find?_cons_of_neg (by simpa using same)]
      have different : other ≠ sender := fun equal => same (equal ▸ rfl)
      simp [different]
  · rw [if_neg (by simpa using own)]
    simp [own]

theorem subject_count (rules : List (EvaluatedRule τ)) (messages : List IdsmMessage)
    (raised : ∀ message ∈ messages, RaisedAmong rules message) (id : UInt32) (sender : SenderRate) :
    (messages.map alertSubject).count (packetSignature id, [sender]) =
      (reports id sender.senderId messages).count sender.pktRatePerSender := by
  induction messages with
  | nil => rfl
  | cons message rest ih =>
      have later := ih fun next member => raised next (List.mem_cons_of_mem _ member)
      obtain ⟨rule, _, other, shape⟩ := raised message List.mem_cons_self
      have here := subject_iff message id sender rule other shape
      rw [List.map_cons, List.count_cons, later]
      show _ = ((message :: rest).filterMap (reportFor id sender.senderId)).count sender.pktRatePerSender
      rw [List.filterMap_cons]
      by_cases own : alertSubject message = (packetSignature id, [sender])
      · rw [here.mp own, if_pos (beq_iff_eq.mpr own)]
        dsimp only
        rw [List.count_cons_self]
        rfl
      · rw [if_neg (by simpa using own), Nat.add_zero]
        cases report : reportFor id sender.senderId message with
        | none => rfl
        | some count =>
            have different : count ≠ sender.pktRatePerSender := by
              intro same
              exact own (here.mpr (same ▸ report))
            dsimp only
            rw [List.count_cons_of_ne different]
            rfl

theorem subjects_perm (rules : List (EvaluatedRule τ)) (first second : List IdsmMessage)
    (raisedFirst : ∀ message ∈ first, RaisedAmong rules message)
    (raisedSecond : ∀ message ∈ second, RaisedAmong rules message)
    (same : ∀ rule ∈ rules, ∀ key, reports rule.id key first = reports rule.id key second) :
    (first.map alertSubject).Perm (second.map alertSubject) := by
  rw [List.perm_iff_count]
  intro subject
  by_cases known : ∃ rule ∈ rules, ∃ sender, subject = (packetSignature rule.id, [sender])
  · obtain ⟨rule, member, sender, shape⟩ := known
    rw [shape, subject_count rules first raisedFirst, subject_count rules second raisedSecond, same rule member]
  · have absent : ∀ messages : List IdsmMessage, (∀ message ∈ messages, RaisedAmong rules message) →
        (messages.map alertSubject).count subject = 0 := by
      intro messages raised
      rw [List.count_eq_zero]
      intro member
      obtain ⟨message, inside, equal⟩ := List.mem_map.mp member
      obtain ⟨rule, loaded, sender, shape⟩ := raised message inside
      exact known ⟨rule, loaded, sender, equal.symm.trans shape⟩
    rw [absent first raisedFirst, absent second raisedSecond]

variable [Sub τ] [LT τ] [DecidableLT τ] [Timestamp τ] (localTime : Nat → String)

theorem pending_of_rule (isMatch : EvaluatedRule τ → Bool) (pkt : ParsedPacket) (now : τ) (trackers : RateTrackers τ)
    (rules : List (EvaluatedRule τ)) (alert : PendingAlert)
    (raised : alert ∈ (evaluateRules isMatch pkt now trackers rules).2) :
    ∃ rule ∈ rules, ∃ key count, alert = pendingAlert rule key count := by
  induction rules generalizing trackers with
  | nil => cases raised
  | cons rule rest ih =>
      rcases List.mem_append.mp raised with own | later
      · obtain ⟨key, count, shape⟩ := rule_alert_shape isMatch pkt now trackers rule alert (Option.mem_toList.mp own)
        exact ⟨rule, List.mem_cons_self, key, count, shape⟩
      · obtain ⟨other, inside, shape⟩ := ih _ later
        exact ⟨other, List.mem_cons_of_mem _ inside, shape⟩

theorem alerts_raised (engine : StatefulDetectionEngine τ) (arrivals : List (Arrival τ)) (message : IdsmMessage)
    (raised : message ∈ runAlerts localTime engine arrivals) : RaisedAmong engine.rules message := by
  induction arrivals generalizing engine with
  | nil => cases raised
  | cons arrival rest ih =>
      rcases List.mem_append.mp raised with now | later
      · obtain ⟨alert, pending, payload⟩ := create_messages_payload _ _ _ _ message now
        obtain ⟨rule, member, key, count, shape⟩ := pending_of_rule _ _ _ _ _ alert pending
        refine ⟨rule, member, ⟨key, UInt32.ofNat count⟩, ?_⟩
        rw [alertSubject, floodOf, payload, shape]
        rfl
      · have among := ih (step localTime engine arrival) later
        rwa [step_rules] at among

def blockArrivals (link : LinkType) (block : BlockGuard) : List (Arrival τ) :=
  (block.packets.map (RawPacket.frame block.memory)).map (arrivalOf link)

theorem block_alerts (link : LinkType) (engine : StatefulDetectionEngine τ) (block : BlockGuard)
    (small : block.packets.length ≤ maxBatchSize) : (blockInspection localTime link engine block).alerts =
      runAlerts localTime engine (groupByKey arrivalPort (blockArrivals link block)) := by
  rw [blockArrivals, group_by_key_map arrivalPort (arrivalOf link), blockInspection, List.take_of_length_le small]
  rfl

-- Where grouping moves no packet that counts for a rule and a key, and no cleanup
-- falls due within the batch, it does not change their alerts.
theorem grouping_keeps_alerts (link : LinkType) (start engine : StatefulDetectionEngine τ)
    (distinct : (engine.rules.map EvaluatedRule.id).Nodup) (earlier : List BlockGuard) (block : BlockGuard)
    (small : block.packets.length ≤ maxBatchSize)
    (quiet : QuietAfterFirst localTime engine (blockArrivals link block)) :
    ∃ buffer before, captureRun localTime link start earlier = .ok (buffer, before) ∧
      ∃ next result, captureBlock localTime link buffer engine block = .ok (next, result) ∧
        (∀ rule ∈ engine.rules, ∀ key, KeepsOrder localTime rule key engine (blockArrivals link block) →
          reports rule.id key result.alerts =
            reports rule.id key (runAlerts localTime engine (blockArrivals link block))) ∧
        ((∀ rule ∈ engine.rules, ∀ key, KeepsOrder localTime rule key engine (blockArrivals link block)) →
          (result.alerts.map alertSubject).Perm
            ((runAlerts localTime engine (blockArrivals link block)).map alertSubject)) := by
  obtain ⟨⟨buffer, before⟩, reached, refs, ports, rep⟩ := capture_run_safe localTime link start earlier
  obtain ⟨⟨next, result⟩, finished, _, inspected⟩ :=
    capture_block_safe localTime link buffer refs ports rep engine block
  dsimp only at inspected
  subst inspected
  have same : ∀ rule ∈ engine.rules, ∀ key, KeepsOrder localTime rule key engine (blockArrivals link block) →
      reports rule.id key (blockInspection localTime link engine block).alerts =
        reports rule.id key (runAlerts localTime engine (blockArrivals link block)) := by
    intro rule member key order
    rw [block_alerts localTime link engine block small]
    exact regrouped_reports localTime rule key engine distinct member _ quiet order
  refine ⟨buffer, before, reached, next, _, finished, same, ?_⟩
  intro orders
  apply subjects_perm engine.rules
  · rw [block_alerts localTime link engine block small]
    exact fun message raised => alerts_raised localTime engine _ message raised
  · exact fun message raised => alerts_raised localTime engine _ message raised
  · exact fun rule member key => same rule member key (orders rule member key)

theorem grouping_keeps_connections (link : LinkType) (start engine : StatefulDetectionEngine τ)
    (earlier : List BlockGuard) (block : BlockGuard) (small : block.packets.length ≤ maxBatchSize)
    (recent : ∀ arrival ∈ (blockArrivals link block : List (Arrival τ)),
      arrival.now - engine.lastCleanupTime < Timestamp.seconds 5) :
    ∃ buffer before, captureRun localTime link start earlier = .ok (buffer, before) ∧
      ∃ next result, captureBlock localTime link buffer engine block = .ok (next, result) ∧
        result.engine.tcpConnTable = (Engine.run localTime engine (blockArrivals link block)).tcpConnTable := by
  obtain ⟨⟨buffer, before⟩, reached, refs, ports, rep⟩ := capture_run_safe localTime link start earlier
  obtain ⟨⟨next, result⟩, finished, _, inspected⟩ :=
    capture_block_safe localTime link buffer refs ports rep engine block
  dsimp only at inspected
  subst inspected
  refine ⟨buffer, before, reached, next, _, finished, ?_⟩
  have quiet : Quiet engine (blockArrivals link block) := by
    intro arrival member
    rw [cleanupDue, within, decide_eq_true (recent arrival member)]
    rfl
  have same := group_by_key_same_buckets arrivalPort (blockArrivals link block : List (Arrival τ))
  have table := same_buckets_table localTime engine (blockArrivals link block)
    (groupByKey arrivalPort (blockArrivals link block)) (fun port => (same port).symm) quiet
  rw [table, blockArrivals, group_by_key_map arrivalPort (arrivalOf link), blockInspection,
    List.take_of_length_le small]
  rfl

end Subjects

section Blocks

def u32ToLe (value : UInt32) : Bytes := (u32ToBe value).reverse

def datagram (totalLength protocol : UInt8) (dstPort : UInt16) (rest : Bytes) : Bytes :=
  [1, 2, 3, 4, 5, 6, 6, 5, 4, 3, 2, 1, 8, 0, 0x45, 0, 0, totalLength, 0, 0, 0, 0, 64, protocol, 0, 0,
    10, 0, 0, 1, 10, 0, 0, 2] ++ u16ToBe 40000 ++ u16ToBe dstPort ++ rest

def udpFrame (dstPort : UInt16) : Bytes := datagram 28 17 dstPort [0, 8, 0, 0]

def tcpFrame (dstPort : UInt16) (flags : UInt8) : Bytes :=
  datagram 40 6 dstPort [0, 0, 0, 0, 0, 0, 0, 0, 0x50, flags, 0xFF, 0xFF, 0, 0, 0, 0]

def frameRecord (sec : UInt32) (frame : Bytes) : Bytes :=
  u32ToLe 112 ++ u32ToLe sec ++ u32ToLe 0 ++ u32ToLe (UInt32.ofNat frame.length) ++
    u32ToLe (UInt32.ofNat frame.length) ++ u32ToLe 0 ++ [48, 0] ++ List.replicate 22 0 ++ frame ++
    List.replicate (64 - frame.length) 0

def blockOf (frames : List (UInt32 × Bytes)) : BlockGuard :=
  let bytes := List.replicate 12 0 ++ u32ToLe (UInt32.ofNat frames.length) ++ u32ToLe 48 ++ List.replicate 28 0 ++
    frames.flatMap fun (sec, frame) => frameRecord sec frame
  ⟨fun address => bytes.getD address 0, 0, 0⟩

-- Two packets of a sender to one port with one to another port between them.
def scatteredBlock : BlockGuard := blockOf [(0, udpFrame 1000), (1, udpFrame 2000), (2, udpFrame 1000)]

def twoPerSecond : EvaluatedRule Rat := catchAllRule 1 (some 2) none

def onceEstablished : EvaluatedRule Rat := establishedRule (some 1)

def port1000Rule : EvaluatedRule Rat :=
  { (catchAllRule 1 (some 2) none : EvaluatedRule Rat) with
    matchConfig := ⟨⟨"any", "any", [4, 6]⟩, ⟨["any"], .string "any", .number (some 1000)⟩, "any"⟩ }

set_option maxRecDepth 10000 in
theorem scattered_quiet : QuietAfterFirst (fun _ => "") (startedWith [port1000Rule])
    (blockArrivals .ethernet scatteredBlock) := by decide +kernel

set_option maxRecDepth 10000 in
theorem scattered_ports :
    ∀ arrival ∈ (blockArrivals .ethernet scatteredBlock : List (Arrival Rat)),
      portsMatch port1000Rule arrival.pkt = true → arrivalPort arrival = 1000 := by decide +kernel

theorem scattered_block_keeps_alerts :
    ∃ buffer before, captureRun (fun _ => "") .ethernet (startedWith [port1000Rule]) [] = .ok (buffer, before) ∧
      ∃ next result, captureBlock (fun _ => "") .ethernet buffer (startedWith [port1000Rule]) scatteredBlock =
          .ok (next, result) ∧
        (result.alerts.map alertSubject).Perm ((runAlerts (fun _ => "") (startedWith [port1000Rule])
          (blockArrivals .ethernet scatteredBlock)).map alertSubject) := by
  have order : ∀ rule ∈ (startedWith [port1000Rule]).rules, ∀ key, KeepsOrder (fun _ => "") rule key
      (startedWith [port1000Rule]) (blockArrivals .ethernet scatteredBlock) := by
    intro rule member key
    rw [List.mem_singleton.mp member]
    apply one_port_keeps_order (fun _ => "") port1000Rule key _ _ 1000
    intro arrival counts
    exact scattered_ports arrival ((counted_sublist _ _ _ _ _).subset counts)
      (counted_ports_match _ _ _ _ _ arrival counts)
  obtain ⟨buffer, before, reached, next, result, finished, _, same⟩ :=
    grouping_keeps_alerts (fun _ => "") .ethernet (startedWith [port1000Rule]) (startedWith [port1000Rule])
      (by decide) [] scatteredBlock (by decide +kernel) scattered_quiet
  exact ⟨buffer, before, reached, next, result, finished, same order⟩

-- A connection attempt and its continuation with a packet of another port between.
def attemptBlock : BlockGuard := blockOf [(0, tcpFrame 1000 0x02), (1, udpFrame 2000), (2, tcpFrame 1000 0x10)]

set_option maxRecDepth 10000 in
theorem attempt_recent : ∀ arrival ∈ (blockArrivals .ethernet attemptBlock : List (Arrival Rat)),
    arrival.now - (startedWith [] : StatefulDetectionEngine Rat).lastCleanupTime < Timestamp.seconds 5 := by
  decide +kernel

theorem attempt_block_keeps_connections :
    ∃ buffer before, captureRun (fun _ => "") .ethernet (startedWith [] : StatefulDetectionEngine Rat) [] =
        .ok (buffer, before) ∧
      ∃ next result, captureBlock (fun _ => "") .ethernet buffer (startedWith [] : StatefulDetectionEngine Rat)
          attemptBlock = .ok (next, result) ∧
        result.engine.tcpConnTable =
          (Engine.run (fun _ => "") (startedWith []) (blockArrivals .ethernet attemptBlock)).tcpConnTable :=
  grouping_keeps_connections (fun _ => "") .ethernet (startedWith []) (startedWith []) [] attemptBlock
    (by decide +kernel) attempt_recent

-- A connection is set up at second 0 and still used at second 299, between two
-- packets of another port.
def setupBlock : BlockGuard := blockOf [(0, tcpFrame 1000 0x12)]

def lateBlock : BlockGuard := blockOf [(298, udpFrame 2000), (299, tcpFrame 1000 0x10), (304, udpFrame 2000)]

def alertCounts (engine : StatefulDetectionEngine Rat) (block : BlockGuard) : Nat × Nat :=
  ((runAlerts (fun _ => "") engine (blockArrivals .ethernet block)).length,
    (blockInspection (fun _ => "") .ethernet engine block).alerts.length)

set_option maxRecDepth 10000 in
theorem scattered_counts : alertCounts (startedWith [twoPerSecond]) scatteredBlock = (0, 1) := by decide +kernel

set_option maxRecDepth 10000 in
theorem late_counts :
    alertCounts (blockInspection (fun _ => "") .ethernet (startedWith [onceEstablished]) setupBlock).engine lateBlock =
      (1, 0) := by decide +kernel

theorem counts_differ (engine : StatefulDetectionEngine Rat) (block : BlockGuard) (captured bucketed : Nat)
    (counts : alertCounts engine block = (captured, bucketed)) (different : captured ≠ bucketed) :
    ¬((blockInspection (fun _ => "") .ethernet engine block).alerts.map alertSubject).Perm
      ((runAlerts (fun _ => "") engine (blockArrivals .ethernet block)).map alertSubject) := by
  intro permuted
  have lengths := permuted.length_eq
  rw [List.length_map, List.length_map] at lengths
  cases counts
  exact different lengths.symm

-- A packet moved before an earlier one makes the two fall into one second. A cleanup
-- moved before an earlier packet takes away its connection.
theorem grouping_changes_alerts :
    (∃ next result, captureBlock (fun _ => "") .ethernet LocalityBuffer.new (startedWith [twoPerSecond])
        scatteredBlock = .ok (next, result) ∧
      ¬(result.alerts.map alertSubject).Perm ((runAlerts (fun _ => "") (startedWith [twoPerSecond])
        (blockArrivals .ethernet scatteredBlock)).map alertSubject)) ∧
    ∃ buffer engine, captureRun (fun _ => "") .ethernet (startedWith [onceEstablished]) [setupBlock] =
        .ok (buffer, engine) ∧
      ∃ next result, captureBlock (fun _ => "") .ethernet buffer engine lateBlock = .ok (next, result) ∧
        ¬(result.alerts.map alertSubject).Perm
          ((runAlerts (fun _ => "") engine (blockArrivals .ethernet lateBlock)).map alertSubject) := by
  refine ⟨?_, ?_⟩
  · obtain ⟨⟨next, result⟩, finished, _, inspected⟩ := capture_block_safe (fun _ => "") .ethernet LocalityBuffer.new
      [] [] new_represents (startedWith [twoPerSecond]) scatteredBlock
    dsimp only at inspected
    subst inspected
    exact ⟨next, _, finished, counts_differ _ _ 0 1 scattered_counts (by decide)⟩
  · obtain ⟨⟨buffer, setup⟩, ready, ⟨refs, ports, rep⟩, inspected⟩ := capture_block_safe (fun _ => "") .ethernet
      LocalityBuffer.new [] [] new_represents (startedWith [onceEstablished]) setupBlock
    dsimp only at inspected rep
    subst inspected
    obtain ⟨⟨next, result⟩, finished, _, later⟩ := capture_block_safe (fun _ => "") .ethernet buffer refs ports rep
      (blockInspection (fun _ => "") .ethernet (startedWith [onceEstablished]) setupBlock).engine lateBlock
    dsimp only at later
    subst later
    refine ⟨buffer, _, ?_, next, _, finished, counts_differ _ _ 1 0 late_counts (by decide)⟩
    rw [captureRun, List.foldlM_cons, ready]
    rfl

end Blocks

end NetworkIds.Capture
