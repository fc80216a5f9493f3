import NetworkIds.Engine.AddressText
import NetworkIds.Engine.Completeness
import NetworkIds.Engine.Sources

set_option autoImplicit false

namespace NetworkIds.Engine

open NetworkIds.Parser

-- rule5 of rules.json.
def rule5 : RuleConfig Rat where
  id := 5
  enabled := true
  action := "alert"
  message := "ARP Scan"
  class_ := "arp"
  severity := 2
  scope := ⟨["any"]⟩
  matchConfig := ⟨⟨"any", "any", [4, 6]⟩, ⟨["arp"], .string "any", .string "any"⟩, "ingress"⟩
  context := ⟨⟨"any"⟩, some (HashMap.empty.insert "max_conn_rate" ⟨"src_ip", 5, 3⟩)⟩
  behaviour := ⟨some ⟨some 600⟩⟩

theorem rule5_limit : connRateLimit (evaluatedRule rule5) = some ⟨"src_ip", 5, 3⟩ := by
  show (HashMap.empty.insert "max_conn_rate" (⟨"src_ip", 5, 3⟩ : LimitConfig Rat)).lookup "max_conn_rate" = _
  rw [HashMap.lookup_insert, if_pos rfl]

theorem rule5_tracking_key (pkt : ParsedPacket) : resolveTrackingKey (evaluatedRule rule5) pkt = resolveSrcIp pkt := by
  apply tracking_key_source
  intro limit configured
  rw [rule5_limit] at configured
  cases configured
  decide

def arpOf (pkt : ParsedPacket) : Option ArpInfo :=
  match pkt.network, pkt.transport with
  | .arp arp, .none => some arp
  | _, _ => none

theorem arp_layers (pkt : ParsedPacket) (arp : ArpInfo) (carried : arpOf pkt = some arp) :
    pkt.network = .arp arp ∧ pkt.transport = .none := by
  unfold arpOf at carried
  split at carried
  case h_1 info network transport =>
    cases carried
    exact ⟨network, transport⟩
  case h_2 => cases carried

def isArpRequest (sender target : Ipv4Addr) (pkt : ParsedPacket) : Bool :=
  match arpOf pkt with
  | some arp => arp.opcode == 1 && arp.senderIp == sender && arp.targetIp == target
  | none => false

def probesSensor (selfIps : List IpAddr) (sender : Ipv4Addr) (pkt : ParsedPacket) : Bool :=
  match arpOf pkt with
  | some arp => arp.senderIp == sender && selfIps.contains (.v4 arp.targetIp)
  | none => false

-- Requests of the sender for at least five different targets in less than three
-- seconds, among any other packets.
structure Sweep (sender : Ipv4Addr) (targets : List Ipv4Addr) (segment : List (Arrival Rat)) : Prop where
  enough : 5 ≤ targets.length
  distinct : targets.Nodup
  requested : ∀ target ∈ targets, ∃ arrival ∈ segment, isArpRequest sender target arrival.pkt = true
  close : ∀ first ∈ segment, ∀ last ∈ segment, last.now - first.now < 3

-- Of the filters of the rule only the direction looks at the target.
theorem rule5_matches_arp (pkt : ParsedPacket) (arp : ArpInfo) (carried : arpOf pkt = some arp) (iface : String)
    (selfIps : List IpAddr) (table : ConnTable Rat) :
    matchesRule (evaluatedRule rule5) pkt iface selfIps table = selfIps.contains (.v4 arp.targetIp) := by
  obtain ⟨network, transport⟩ := arp_layers pkt arp carried
  have scope : inScope (evaluatedRule rule5) iface = true := rfl
  have ips : networkMatches (evaluatedRule rule5) pkt selfIps = true := by
    rw [networkMatches, network]
    rfl
  have flow : flowStateMatches (evaluatedRule rule5) pkt table = true := rfl
  have ofClass : classMatches (evaluatedRule rule5) pkt = true := by
    show isArp pkt = true
    rw [isArp, network]
  have ports : portsMatch (evaluatedRule rule5) pkt = true := by
    rw [portsMatch, transport]
  have direction : directionMatches (evaluatedRule rule5) pkt selfIps = selfIps.contains (.v4 arp.targetIp) := by
    show isSelf (resolveDstIp pkt) selfIps = _
    rw [resolveDstIp, network]
    dsimp only
    rw [isSelf, parse_display_ipv4]
  rw [matchesRule, scope, ips, flow, ofClass, ports, direction]
  simp

theorem probe_counted (selfIps : List IpAddr) (sender : Ipv4Addr) (engine : StatefulDetectionEngine Rat)
    (sensor : engine.selfIps = selfIps) (arrival : Arrival Rat)
    (probe : probesSensor selfIps sender arrival.pkt = true) :
    countsFor engine (evaluatedRule rule5) (Ipv4Addr.display sender) arrival = true ∧
      isNewTcpConn arrival.pkt = true := by
  unfold probesSensor at probe
  split at probe
  case h_2 => cases probe
  case h_1 arp carried =>
    obtain ⟨sameSender, self⟩ := Bool.and_eq_true_iff.mp probe
    obtain ⟨network, transport⟩ := arp_layers arrival.pkt arp carried
    constructor
    · rw [countsFor, matchesAt, rule5_matches_arp arrival.pkt arp carried, sensor, self, rule5_tracking_key, resolveSrcIp,
        network]
      dsimp only
      rw [eq_of_beq sameSender, beq_self_eq_true]
      rfl
    · rw [isNewTcpConn, transport]

section Window

variable (localTime : Nat → String) (rule : EvaluatedRule Rat) (key : String)

def Silent (state : StatefulDetectionEngine Rat) (arrival : Arrival Rat) : Prop :=
  reports rule.id key (alertsOf localTime state arrival) = []

theorem silent_window (engine : StatefulDetectionEngine Rat) (before quiet : List (Arrival Rat))
    (silent : EveryStep localTime (Silent localTime rule key) (run localTime engine before) quiet) :
    sinceLastAlert (observations localTime rule key engine (before ++ quiet)) =
      sinceLastAlert (observations localTime rule key engine before) ++
        (observations localTime rule key (run localTime engine before) quiet).filter Observed.counted := by
  induction quiet using List.reverseRecOn with
  | nil => simp [observations]
  | append_singleton quiet arrival ih =>
      obtain ⟨earlier, last⟩ := every_step_concat localTime _ _ quiet arrival silent
      rw [run_after] at last
      rw [← List.append_assoc, observations_concat, observations_concat, since_last_alert_concat, observe_reported,
        if_pos (List.isEmpty_iff.mpr last), ih earlier, run_after, List.filter_append, List.filter_cons, List.filter_nil]
      split
      · rw [List.append_assoc]
      · rw [List.append_nil]

end Window

theorem step_self_ips (localTime : Nat → String) (engine : StatefulDetectionEngine Rat) (arrival : Arrival Rat) :
    (step localTime engine arrival).selfIps = engine.selfIps := by
  show (expireStates engine arrival.now).selfIps = engine.selfIps
  rw [expireStates]
  split
  · rfl
  · rfl

theorem run_self_ips (localTime : Nat → String) (engine : StatefulDetectionEngine Rat) (arrivals : List (Arrival Rat)) :
    (run localTime engine arrivals).selfIps = engine.selfIps := by
  induction arrivals using List.reverseRecOn with
  | nil => rfl
  | append_singleton arrivals arrival ih => rw [run_concat, step_self_ips, ih]

theorem connection_count_append (now interval : Rat) (first second : List (Observed Rat)) :
    connectionCount now interval (first ++ second) =
      connectionCount now interval first + connectionCount now interval second := by
  rw [connectionCount, connectionCount, connectionCount, List.countP_append]

theorem new_connection_counts (seen : Observed Rat) (now : Rat) (counted : seen.counted = true)
    (isNew : seen.isNew = true) (recent : now - seen.now < 3) :
    ((seen.isNew && decide (now - seen.now < 3)) && seen.counted) = true := by
  rw [isNew, counted, decide_eq_true recent]
  rfl

theorem probes_counted (localTime : Nat → String) (selfIps : List IpAddr) (sender : Ipv4Addr)
    (engine : StatefulDetectionEngine Rat) (sensor : engine.selfIps = selfIps) (now : Rat) (arrivals : List (Arrival Rat))
    (recent : ∀ arrival ∈ arrivals, now - arrival.now < 3) :
    (arrivals.countP fun arrival => probesSensor selfIps sender arrival.pkt) ≤
      connectionCount now 3 ((observations localTime (evaluatedRule rule5) (Ipv4Addr.display sender) engine
        arrivals).filter Observed.counted) := by
  rw [connectionCount, List.countP_filter]
  induction arrivals generalizing engine with
  | nil => exact Nat.zero_le _
  | cons arrival rest ih =>
      have later := ih (step localTime engine arrival) (by rw [step_self_ips, sensor])
        (fun other inside => recent other (List.mem_cons_of_mem _ inside))
      rw [observations, List.countP_cons, List.countP_cons]
      apply Nat.add_le_add later
      by_cases probe : probesSensor selfIps sender arrival.pkt = true
      · obtain ⟨counted, isNew⟩ := probe_counted selfIps sender engine sensor arrival probe
        have counts := new_connection_counts (observe localTime (evaluatedRule rule5) (Ipv4Addr.display sender) engine
          arrival) now counted isNew (recent arrival List.mem_cons_self)
        rw [if_pos probe, if_pos counts]
      · rw [if_neg probe]
        exact Nat.zero_le _

theorem rule5_listed (iface : String) (selfIps : List IpAddr) (rulesLoaded : List (RuleConfig Rat))
    (loaded : rule5 ∈ rulesLoaded) : ∃ before after,
      (StatefulDetectionEngine.new iface selfIps rulesLoaded).rules = before ++ evaluatedRule rule5 :: after := by
  apply List.append_of_mem
  exact List.mem_map_of_mem (List.mem_filter.mpr ⟨loaded, rfl⟩)

section Detection

variable (localTime : Nat → String) (engine : StatefulDetectionEngine Rat)
  (rulesBefore rulesAfter : List (EvaluatedRule Rat)) (before segment : List (Arrival Rat)) (sender : Ipv4Addr)

theorem fifth_probe_detected (listed : engine.rules = rulesBefore ++ evaluatedRule rule5 :: rulesAfter)
    (arrival : Arrival Rat) (ordered : ((before ++ segment ++ [arrival]).map Arrival.now).Pairwise (· ≤ ·))
    (recent : ∀ other ∈ segment, arrival.now - other.now < 3)
    (silent : EveryStep localTime (Silent localTime (evaluatedRule rule5) (Ipv4Addr.display sender))
      (run localTime engine before) segment)
    (probed : 4 ≤ segment.countP fun arrival => probesSensor engine.selfIps sender arrival.pkt)
    (probe : probesSensor engine.selfIps sender arrival.pkt = true) :
    ¬Silent localTime (evaluatedRule rule5) (Ipv4Addr.display sender) (run localTime engine (before ++ segment)) arrival := by
  obtain ⟨orderedBefore, after⟩ := ordered_concat (before ++ segment) arrival ordered
  have rules := run_rules localTime engine (before ++ segment)
  have member : evaluatedRule rule5 ∈ engine.rules := by simp [listed]
  have keeps (rules : List (EvaluatedRule Rat)) (state : StatefulDetectionEngine Rat) (other : Arrival Rat) :=
    keeps_short (evaluatedRule rule5) (Ipv4Addr.display sender) 3 rules state other (by norm_num)
  have covers := run_covers localTime (evaluatedRule rule5) (Ipv4Addr.display sender) 3 engine member (before ++ segment)
    orderedBefore arrival.now after (fun earlier middle later _ => keeps _ _ middle)
  obtain ⟨counted, isNew⟩ := probe_counted engine.selfIps sender (run localTime engine (before ++ segment))
    (run_self_ips localTime engine (before ++ segment)) arrival probe
  have window := probes_counted localTime engine.selfIps sender (run localTime engine before)
    (run_self_ips localTime engine before) arrival.now segment recent
  have own : connectionCount arrival.now 3 [observe localTime (evaluatedRule rule5) (Ipv4Addr.display sender)
      (run localTime engine (before ++ segment)) arrival] = 1 := by
    rw [connectionCount, List.countP_singleton, if_pos]
    show (isNewTcpConn arrival.pkt && decide (arrival.now - arrival.now < 3)) = true
    rw [isNew, sub_self]
    rfl
  have reached : 5 ≤ connectionCount arrival.now 3 (sinceLastAlert (observations localTime (evaluatedRule rule5)
      (Ipv4Addr.display sender) engine (before ++ segment)) ++ [observe localTime (evaluatedRule rule5)
        (Ipv4Addr.display sender) (run localTime engine (before ++ segment)) arrival]) := by
    rw [silent_window localTime _ _ engine before segment silent, connection_count_append, connection_count_append, own]
    omega
  exact covered_packet_fires localTime _ rulesBefore rulesAfter (evaluatedRule rule5) (by rwa [rules])
    ⟨"src_ip", 5, 3⟩ rule5_limit (by decide) (Ipv4Addr.display sender) _ arrival covers (keeps _ _ _) counted isNew
    reached

theorem five_probes_detected (listed : engine.rules = rulesBefore ++ evaluatedRule rule5 :: rulesAfter)
    (ordered : ((before ++ segment).map Arrival.now).Pairwise (· ≤ ·))
    (close : ∀ first ∈ segment, ∀ last ∈ segment, last.now - first.now < 3)
    (probed : 5 ≤ segment.countP fun arrival => probesSensor engine.selfIps sender arrival.pkt) :
    ¬EveryStep localTime (Silent localTime (evaluatedRule rule5) (Ipv4Addr.display sender))
      (run localTime engine before) segment := by
  induction segment using List.reverseRecOn with
  | nil => exact absurd probed (by simp)
  | append_singleton segment arrival ih =>
      intro silent
      obtain ⟨silentBefore, last⟩ := every_step_concat localTime _ _ segment arrival silent
      rw [run_after] at last
      rw [← List.append_assoc] at ordered
      rw [List.countP_append, List.countP_singleton] at probed
      have inside : ∀ other ∈ segment, other ∈ segment ++ [arrival] := fun _ => List.mem_append_left _
      by_cases probe : probesSensor engine.selfIps sender arrival.pkt = true
      · rw [if_pos probe] at probed
        exact fifth_probe_detected localTime engine rulesBefore rulesAfter before segment sender listed arrival ordered
          (fun other member => close other (inside other member) arrival (by simp)) silentBefore (by omega) probe last
      · rw [if_neg probe] at probed
        exact ih (ordered_concat (before ++ segment) arrival ordered).1
          (fun first member other otherMember => close first (inside first member) other (inside other otherMember))
          probed silentBefore

end Detection

theorem sensor_sweep_probes (selfIps : List IpAddr) (sender : Ipv4Addr) (targets : List Ipv4Addr)
    (segment : List (Arrival Rat)) (sweep : Sweep sender targets segment)
    (sensor : ∀ target ∈ targets, selfIps.contains (.v4 target) = true) :
    5 ≤ segment.countP fun arrival => probesSensor selfIps sender arrival.pkt := by
  have asked : targets.map some ⊆ (segment.filter fun arrival => probesSensor selfIps sender arrival.pkt).map
      fun arrival => (arpOf arrival.pkt).map ArpInfo.targetIp := by
    intro target member
    obtain ⟨address, listed, same⟩ := List.mem_map.mp member
    obtain ⟨arrival, sent, request⟩ := sweep.requested address listed
    unfold isArpRequest at request
    split at request
    case h_2 => cases request
    case h_1 arp carried =>
      simp only [Bool.and_eq_true, beq_iff_eq] at request
      obtain ⟨⟨_, sameSender⟩, sameTarget⟩ := request
      refine List.mem_map.mpr ⟨arrival, List.mem_filter.mpr ⟨sent, ?_⟩, ?_⟩
      · rw [probesSensor, carried]
        dsimp only
        rw [sameSender, sameTarget, sensor address listed, beq_self_eq_true]
        rfl
      · rw [carried, Option.map_some, sameTarget, same]
  have distinct : (targets.map some).Nodup := sweep.distinct.map (Option.some_injective _)
  have fewer := (distinct.subperm asked).length_le
  rw [List.length_map, List.length_map, ← List.countP_eq_length_filter] at fewer
  exact le_trans sweep.enough fewer

-- A sweep is detected when five of the sender's ARP packets in it ask for
-- addresses of the sensor: the others never reach the counters.
theorem sweep_of_sensor_detected (localTime : Nat → String) (iface : String) (selfIps : List IpAddr)
    (rulesLoaded : List (RuleConfig Rat)) (loaded : rule5 ∈ rulesLoaded) (before segment : List (Arrival Rat))
    (ordered : ((before ++ segment).map Arrival.now).Pairwise (· ≤ ·)) (sender : Ipv4Addr) (targets : List Ipv4Addr)
    (sweep : Sweep sender targets segment)
    (probed : 5 ≤ segment.countP fun arrival => probesSensor selfIps sender arrival.pkt) :
    ∃ earlier arrival later, segment = earlier ++ arrival :: later ∧ reports 5 (Ipv4Addr.display sender)
      (alertsOf localTime (run localTime (.new iface selfIps rulesLoaded) (before ++ earlier)) arrival) ≠ [] := by
  obtain ⟨rulesBefore, rulesAfter, listed⟩ := rule5_listed iface selfIps rulesLoaded loaded
  have detected := five_probes_detected localTime (.new iface selfIps rulesLoaded) rulesBefore rulesAfter before segment
    sender listed ordered sweep.close probed
  by_contra undetected
  apply detected
  intro earlier arrival later split
  by_contra reported
  rw [run_after] at reported
  exact undetected ⟨earlier, arrival, later, split, reported⟩

def arpRequest (senderIp targetIp : Ipv4Addr) (now : Rat) : Arrival Rat where
  pkt := { ParsedPacket.new .ethernet none with
    network := .arp ⟨1, 0x0800, 6, 4, 1, Octets.fill 6 0x0A, senderIp, Octets.fill 6 0, targetIp⟩ }
  now := now

def fiveTargets : List Ipv4Addr :=
  [⟨192, 168, 1, 1⟩, ⟨192, 168, 1, 2⟩, ⟨192, 168, 1, 3⟩, ⟨192, 168, 1, 4⟩, ⟨192, 168, 1, 5⟩]

def sweepSegment : List (Arrival Rat) := fiveTargets.map fun target => arpRequest ⟨192, 168, 1, 50⟩ target 1

theorem sweep_segment : Sweep ⟨192, 168, 1, 50⟩ fiveTargets sweepSegment where
  enough := by decide
  distinct := by decide
  requested := by decide +kernel
  close := by decide +kernel

theorem sensor_sweep_detected :
    ∃ earlier arrival later, sweepSegment = earlier ++ arrival :: later ∧
      reports 5 (Ipv4Addr.display ⟨192, 168, 1, 50⟩) (alertsOf (fun _ => "")
        (run (fun _ => "") (.new "eth0" (fiveTargets.map .v4) [rule5]) ([] ++ earlier)) arrival) ≠ [] :=
  sweep_of_sensor_detected (fun _ => "") "eth0" (fiveTargets.map .v4) [rule5] (List.mem_singleton_self _) []
    sweepSegment (by decide +kernel) ⟨192, 168, 1, 50⟩ fiveTargets sweep_segment
    (sensor_sweep_probes (fiveTargets.map .v4) ⟨192, 168, 1, 50⟩ fiveTargets sweepSegment sweep_segment
      (by decide +kernel))

-- A sensor with one of them stays silent.
theorem subnet_sweep_missed :
    Sweep ⟨192, 168, 1, 50⟩ fiveTargets sweepSegment ∧
      runAlerts (fun _ => "") (.new "eth0" [.v4 ⟨192, 168, 1, 1⟩] [rule5]) sweepSegment = [] :=
  ⟨sweep_segment, by decide +kernel⟩

end NetworkIds.Engine
