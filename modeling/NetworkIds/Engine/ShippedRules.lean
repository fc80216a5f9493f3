import NetworkIds.Engine.AddressLiterals
import NetworkIds.Engine.WindowDetection
import NetworkIds.Parser.UpperLayers

set_option autoImplicit false

namespace NetworkIds.Engine

open NetworkIds.Parser

-- The three scan rules of rules.json differ in these values only.
def scanRule (id : UInt32) (message class_ flowState : String) (connections : UInt32) (interval : Rat) :
    RuleConfig Rat where
  id := id
  enabled := true
  action := "alert"
  message := message
  class_ := class_
  severity := 2
  scope := ⟨["any"]⟩
  matchConfig := ⟨⟨"any", "any", [4, 6]⟩, ⟨[class_], .string "any", .string "any"⟩, "ingress"⟩
  context := ⟨⟨flowState⟩, some (HashMap.empty.insert "max_conn_rate" ⟨"src_ip", connections, interval⟩)⟩
  behaviour := ⟨some ⟨some 600⟩⟩

def rule1 : RuleConfig Rat where
  id := 1
  enabled := false
  action := "alert"
  message := "Probe Flooding"
  class_ := "arp"
  severity := 2
  scope := ⟨["eth0", "wlan0"]⟩
  matchConfig := ⟨⟨"any", "any", [4, 6]⟩, ⟨["arp"], .string "any", .string "any"⟩, "any"⟩
  context := ⟨⟨"any"⟩, some (HashMap.empty.insert "max_conn_rate" ⟨"src_ip", 15, 1⟩)⟩
  behaviour := ⟨some ⟨some 600⟩⟩

def rule2 : RuleConfig Rat where
  id := 2
  enabled := false
  action := "alert"
  message := "Authentication Brute-Force"
  class_ := "eapol"
  severity := 1
  scope := ⟨["eth0", "wlan0"]⟩
  matchConfig := ⟨⟨"any", "self", [4, 6]⟩,
    ⟨["http", "https", "ssh", "rdp", "smb", "ftp"], .string "any", .string "any"⟩, "ingress"⟩
  context := ⟨⟨"established"⟩, some (HashMap.empty.insert "max_conn_rate" ⟨"src_ip", 15, 1⟩)⟩
  behaviour := ⟨some ⟨some 15⟩⟩

def rule3 : RuleConfig Rat := scanRule 3 "TCP Port Scan" "tcp" "new" 4 3

def rule4 : RuleConfig Rat := scanRule 4 "UDP Port Scan" "udp" "any" 15 1

theorem rule5_scan : rule5 = scanRule 5 "ARP Scan" "arp" "any" 5 3 := rfl

-- rules.json as it is shipped.
def rulesJson : List (RuleConfig Rat) := [rule1, rule2, rule3, rule4, rule5]

section Matching

variable (id : UInt32) (message class_ flowState : String) (connections : UInt32) (interval : Rat)

theorem scan_rule_limit : connRateLimit (evaluatedRule (scanRule id message class_ flowState connections interval)) =
    some ⟨"src_ip", connections, interval⟩ := by
  show (HashMap.empty.insert "max_conn_rate" (⟨"src_ip", connections, interval⟩ : LimitConfig Rat)).lookup
    "max_conn_rate" = _
  rw [HashMap.lookup_insert, if_pos rfl]

theorem scan_rule_tracking_key (pkt : ParsedPacket) :
    resolveTrackingKey (evaluatedRule (scanRule id message class_ flowState connections interval)) pkt =
      resolveSrcIp pkt := by
  apply tracking_key_source
  intro limit configured
  rw [scan_rule_limit] at configured
  cases configured
  show "src_ip" ≠ "dst_ip"
  decide

theorem scan_rule_matches (pkt : ParsedPacket) (iface : String) (selfIps : List IpAddr) (table : ConnTable Rat) :
    matchesRule (evaluatedRule (scanRule id message class_ flowState connections interval)) pkt iface selfIps table =
      (isSelf (resolveDstIp pkt) selfIps &&
        flowStateMatches (evaluatedRule (scanRule id message class_ flowState connections interval)) pkt table &&
        (classMatches (evaluatedRule (scanRule id message class_ flowState connections interval)) pkt ||
          protocolMatches pkt class_)) := by
  have scope : inScope (evaluatedRule (scanRule id message class_ flowState connections interval)) iface = true := rfl
  have direction : directionMatches (evaluatedRule (scanRule id message class_ flowState connections interval)) pkt
      selfIps = isSelf (resolveDstIp pkt) selfIps := rfl
  have network : networkMatches (evaluatedRule (scanRule id message class_ flowState connections interval)) pkt
      selfIps = true := by
    rw [networkMatches]
    cases pkt.network with
    | ipv4 ip => rfl
    | ipv6 ip => rfl
    | arp arp => rfl
    | none => rfl
  have protocol : (evaluatedRule (scanRule id message class_ flowState connections interval)).matchConfig.transport.protocol.any
      (protocolMatches pkt) = protocolMatches pkt class_ := Bool.or_false _
  have ports : portsMatch (evaluatedRule (scanRule id message class_ flowState connections interval)) pkt = true := by
    rw [portsMatch]
    cases pkt.transport with
    | tcp tcp => rfl
    | udp udp => rfl
    | icmp icmp => rfl
    | none => rfl
  rw [matchesRule, scope, direction, network, protocol, ports, Bool.and_true, Bool.and_true, Bool.true_and]

end Matching

theorem rule3_tracking_key (pkt : ParsedPacket) : resolveTrackingKey (evaluatedRule rule3) pkt = resolveSrcIp pkt :=
  scan_rule_tracking_key 3 "TCP Port Scan" "tcp" "new" 4 3 pkt

theorem rule4_tracking_key (pkt : ParsedPacket) : resolveTrackingKey (evaluatedRule rule4) pkt = resolveSrcIp pkt :=
  scan_rule_tracking_key 4 "UDP Port Scan" "udp" "any" 15 1 pkt

def isFreshConnection (pkt : ParsedPacket) : Bool :=
  match pkt.transport with
  | .tcp tcp => isFreshSyn tcp
  | _ => false

theorem rule3_matches (pkt : ParsedPacket) (iface : String) (selfIps : List IpAddr) (table : ConnTable Rat) :
    matchesRule (evaluatedRule rule3) pkt iface selfIps table =
      (isSelf (resolveDstIp pkt) selfIps && isFreshConnection pkt) := by
  have flow : flowStateMatches (evaluatedRule rule3) pkt table = isFreshConnection pkt := rfl
  have ofClass : classMatches (evaluatedRule rule3) pkt = isTcp pkt := rfl
  have lower : "tcp".toLower = "tcp" := by decide +kernel
  have protocol : protocolMatches pkt "tcp" = isTcp pkt := by
    rw [protocolMatches, lower]
    rfl
  have tcp : (isFreshConnection pkt && isTcp pkt) = isFreshConnection pkt := by
    rw [isFreshConnection, isTcp]
    cases pkt.transport with
    | tcp tcp => exact Bool.and_true _
    | udp udp => rfl
    | icmp icmp => rfl
    | none => rfl
  have matching := scan_rule_matches 3 "TCP Port Scan" "tcp" "new" 4 3 pkt iface selfIps table
  rw [← rule3, flow, ofClass, protocol, Bool.or_self, Bool.and_assoc, tcp] at matching
  exact matching

theorem rule4_matches (pkt : ParsedPacket) (iface : String) (selfIps : List IpAddr) (table : ConnTable Rat) :
    matchesRule (evaluatedRule rule4) pkt iface selfIps table = (isSelf (resolveDstIp pkt) selfIps && isUdp pkt) := by
  have flow : flowStateMatches (evaluatedRule rule4) pkt table = true := rfl
  have ofClass : classMatches (evaluatedRule rule4) pkt = isUdp pkt := rfl
  have lower : "udp".toLower = "udp" := by decide +kernel
  have protocol : protocolMatches pkt "udp" = isUdp pkt := by
    rw [protocolMatches, lower]
    rfl
  have matching := scan_rule_matches 4 "UDP Port Scan" "udp" "any" 15 1 pkt iface selfIps table
  rw [← rule4, flow, ofClass, protocol, Bool.or_self, Bool.and_true] at matching
  exact matching

theorem rule5_matches (pkt : ParsedPacket) (iface : String) (selfIps : List IpAddr) (table : ConnTable Rat) :
    matchesRule (evaluatedRule rule5) pkt iface selfIps table = (isSelf (resolveDstIp pkt) selfIps && isArp pkt) := by
  have flow : flowStateMatches (evaluatedRule rule5) pkt table = true := rfl
  have ofClass : classMatches (evaluatedRule rule5) pkt = isArp pkt := rfl
  have lower : "arp".toLower = "arp" := by decide +kernel
  have protocol : protocolMatches pkt "arp" = isArp pkt := by
    rw [protocolMatches, lower]
    rfl
  have matching := scan_rule_matches 5 "ARP Scan" "arp" "any" 5 3 pkt iface selfIps table
  rw [← rule5_scan, flow, ofClass, protocol, Bool.or_self, Bool.and_true] at matching
  exact matching

theorem evaluate_rules_length (isMatch : EvaluatedRule Rat → Bool) (pkt : ParsedPacket) (now : Rat)
    (trackers : RateTrackers Rat) (rules : List (EvaluatedRule Rat)) :
    (evaluateRules isMatch pkt now trackers rules).2.length ≤ rules.countP isMatch := by
  induction rules generalizing trackers with
  | nil => exact Nat.le_refl 0
  | cons rule rest ih =>
      have later := ih (evaluateRule isMatch pkt now trackers rule).1
      rw [evaluateRules, List.countP_cons]
      dsimp only
      rw [List.length_append, Nat.add_comm]
      apply Nat.add_le_add later
      rw [evaluateRule]
      by_cases matched : isMatch rule = true
      · rw [if_pos matched, if_pos matched]
        exact Option.length_toList_le
      · rw [if_neg matched, if_neg matched]
        exact Nat.le_refl 0

theorem evaluated_rule_matched (isMatch : EvaluatedRule Rat → Bool) (pkt : ParsedPacket) (now : Rat)
    (trackers : RateTrackers Rat) (rules : List (EvaluatedRule Rat)) (alert : PendingAlert)
    (raised : alert ∈ (evaluateRules isMatch pkt now trackers rules).2) :
    ∃ rule ∈ rules, isMatch rule = true ∧ ∃ count, alert = pendingAlert rule (resolveTrackingKey rule pkt) count := by
  induction rules generalizing trackers with
  | nil => cases raised
  | cons rule rest ih =>
      rw [evaluateRules] at raised
      dsimp only at raised
      rcases List.mem_append.mp raised with own | later
      · rw [evaluateRule] at own
        by_cases matched : isMatch rule = true
        · rw [if_pos matched, evaluateMatched] at own
          obtain ⟨count, _, same⟩ := Option.map_eq_some_iff.mp (Option.mem_toList.mp own)
          exact ⟨rule, List.mem_cons_self, matched, count, same.symm⟩
        · rw [if_neg matched] at own
          cases own
      · obtain ⟨other, member, matched, shape⟩ := ih _ later
        exact ⟨other, List.mem_cons_of_mem _ member, matched, shape⟩

theorem created_message (localTime : Nat → String) (iface : String) (counter : Nat) (pending : List PendingAlert)
    (msg : IdsmMessage) (created : msg ∈ createMessages localTime iface counter pending) :
    ∃ alert ∈ pending, ∃ number, msg = createMessage localTime iface number alert := by
  induction pending generalizing counter with
  | nil => cases created
  | cons alert rest ih =>
      rw [createMessages] at created
      rcases List.mem_cons.mp created with first | later
      · exact ⟨alert, List.mem_cons_self, counter, first⟩
      · obtain ⟨other, member, number, same⟩ := ih _ later
        exact ⟨other, List.mem_cons_of_mem _ member, number, same⟩

theorem loaded_scan_rules (rulesLoaded : List (RuleConfig Rat)) (shipped : rulesLoaded.Perm rulesJson) :
    (loadRules rulesLoaded).Perm [evaluatedRule rule3, evaluatedRule rule4, evaluatedRule rule5] :=
  (shipped.filter _).map _

theorem decoded_scan_kinds (data : Buffer) (link : LinkType) (packetMeta : Option PacketMeta) :
    (if isFreshConnection (decodePacket data link packetMeta) then 1 else 0) +
      ((if isUdp (decodePacket data link packetMeta) then 1 else 0) +
        (if isArp (decodePacket data link packetMeta) then 1 else 0)) ≤ 1 := by
  have upper := decoded_upper_from_network data link packetMeta
  generalize decodePacket data link packetMeta = pkt at upper ⊢
  have arpAlone : isArp pkt = true → pkt.transport = .none := by
    intro arp
    rw [isArp] at arp
    split at arp
    case h_1 info network =>
      rw [UpperFromNetwork, network] at upper
      exact upper
    case h_2 => cases arp
  rw [isFreshConnection, isUdp]
  by_cases arp : isArp pkt = true
  · rw [arpAlone arp, if_pos arp]
    exact Nat.le_refl 1
  · rw [if_neg arp]
    cases pkt.transport with
    | tcp tcp =>
        dsimp only
        split
        · exact Nat.le_refl 1
        · exact Nat.zero_le 1
    | udp udp => exact Nat.le_refl 1
    | icmp icmp => exact Nat.zero_le 1
    | none => exact Nat.zero_le 1

theorem scan_rules_matched (isMatch : EvaluatedRule Rat → Bool) (pkt : ParsedPacket) (rules : List (EvaluatedRule Rat))
    (loaded : rules.Perm [evaluatedRule rule3, evaluatedRule rule4, evaluatedRule rule5]) (self : Bool)
    (tcp : isMatch (evaluatedRule rule3) = (self && isFreshConnection pkt))
    (udp : isMatch (evaluatedRule rule4) = (self && isUdp pkt))
    (arp : isMatch (evaluatedRule rule5) = (self && isArp pkt)) :
    rules.countP isMatch ≤ (if isFreshConnection pkt then 1 else 0) +
      ((if isUdp pkt then 1 else 0) + (if isArp pkt then 1 else 0)) := by
  rw [loaded.countP_eq, List.countP_cons, List.countP_cons, List.countP_cons, List.countP_nil, tcp, udp, arp]
  cases self with
  | false => simp
  | true =>
      simp only [Bool.true_and]
      omega

structure ReportsScan (selfIps : List IpAddr) (pkt : ParsedPacket) (msg : IdsmMessage) : Prop where
  kind : (raisedBy 3 msg = true ∧ isFreshConnection pkt = true) ∨ (raisedBy 4 msg = true ∧ isUdp pkt = true) ∨
    (raisedBy 5 msg = true ∧ isArp pkt = true)
  target : isSelf (resolveDstIp pkt) selfIps = true
  sender : (floodOf msg).senderList.map SenderRate.senderId = [resolveSrcIp pkt]

theorem raised_by_own (localTime : Nat → String) (iface : String) (number : Nat) (rule : EvaluatedRule Rat)
    (key : String) (count : Nat) :
    raisedBy rule.id (createMessage localTime iface number (pendingAlert rule key count)) = true := beq_self_eq_true _

theorem one_scan_alert_per_packet (localTime : Nat → String) (iface : String) (selfIps : List IpAddr)
    (rulesLoaded : List (RuleConfig Rat)) (shipped : rulesLoaded.Perm rulesJson) (arrivals : List (Arrival Rat))
    (data : Buffer) (link : LinkType) (packetMeta : Option PacketMeta) (now : Rat) :
    (alertsOf localTime (run localTime (.new iface selfIps rulesLoaded) arrivals)
        ⟨decodePacket data link packetMeta, now⟩).length ≤ 1 ∧
      ∀ msg ∈ alertsOf localTime (run localTime (.new iface selfIps rulesLoaded) arrivals)
        ⟨decodePacket data link packetMeta, now⟩, ReportsScan selfIps (decodePacket data link packetMeta) msg := by
  have kinds := decoded_scan_kinds data link packetMeta
  have rules := run_rules localTime (.new iface selfIps rulesLoaded) arrivals
  have sensor := run_self_ips localTime (.new iface selfIps rulesLoaded) arrivals
  generalize run localTime (.new iface selfIps rulesLoaded) arrivals = engine at rules sensor ⊢
  generalize decodePacket data link packetMeta = pkt at kinds ⊢
  have loaded : engine.rules.Perm [evaluatedRule rule3, evaluatedRule rule4, evaluatedRule rule5] := by
    rw [rules]
    exact loaded_scan_rules rulesLoaded shipped
  have self : engine.selfIps = selfIps := sensor
  have tcp : matchesAt engine pkt now (evaluatedRule rule3) =
      (isSelf (resolveDstIp pkt) selfIps && isFreshConnection pkt) := by rw [matchesAt, rule3_matches, self]
  have udp : matchesAt engine pkt now (evaluatedRule rule4) = (isSelf (resolveDstIp pkt) selfIps && isUdp pkt) := by
    rw [matchesAt, rule4_matches, self]
  have arp : matchesAt engine pkt now (evaluatedRule rule5) = (isSelf (resolveDstIp pkt) selfIps && isArp pkt) := by
    rw [matchesAt, rule5_matches, self]
  constructor
  · have counted := scan_rules_matched _ pkt engine.rules loaded _ tcp udp arp
    have few := evaluate_rules_length (matchesAt engine pkt now) pkt now (expireStates engine now).toRateTrackers
      engine.rules
    have raised := congrArg List.length (create_messages_numbers localTime (expireStates engine now).iface
      (expireStates engine now).alertCounter (ruleOutcome engine pkt now).2)
    rw [List.length_map, List.length_range'] at raised
    exact (raised.le.trans few).trans (counted.trans kinds)
  · intro msg created
    obtain ⟨alert, raised, number, rfl⟩ := created_message localTime _ _ _ msg created
    obtain ⟨rule, member, matched, count, rfl⟩ := evaluated_rule_matched _ pkt now _ engine.rules alert raised
    have own := raised_by_own localTime (expireStates engine now).iface number rule (resolveTrackingKey rule pkt) count
    have listed := loaded.subset member
    simp only [List.mem_cons, List.not_mem_nil, or_false] at listed
    rcases listed with rfl | rfl | rfl
    · rw [tcp, Bool.and_eq_true] at matched
      exact ⟨.inl ⟨own, matched.2⟩, matched.1, congrArg (fun key => [key]) (rule3_tracking_key pkt)⟩
    · rw [udp, Bool.and_eq_true] at matched
      exact ⟨.inr (.inl ⟨own, matched.2⟩), matched.1, congrArg (fun key => [key]) (rule4_tracking_key pkt)⟩
    · rw [arp, Bool.and_eq_true] at matched
      exact ⟨.inr (.inr ⟨own, matched.2⟩), matched.1, congrArg (fun key => [key]) (rule5_tracking_key pkt)⟩

def requestFrame : Buffer :=
  ⟨[0xFF, 0xFF, 0xFF, 0xFF, 0xFF, 0xFF, 10, 10, 10, 10, 10, 10, 0x08, 0x06, 0, 1, 0x08, 0, 6, 4, 0, 1,
    10, 10, 10, 10, 10, 10, 192, 168, 1, 50, 0, 0, 0, 0, 0, 0, 192, 168, 1, 1], by decide⟩

theorem fifth_request_reported_once :
    (alertsOf (fun _ => "") (run (fun _ => "") (.new "eth0" (fiveTargets.map .v4) rulesJson.reverse)
        (sweepSegment.drop 1)) ⟨decodePacket requestFrame .ethernet none, 2⟩).length ≤ 1 ∧
      ∀ msg ∈ alertsOf (fun _ => "") (run (fun _ => "") (.new "eth0" (fiveTargets.map .v4) rulesJson.reverse)
        (sweepSegment.drop 1)) ⟨decodePacket requestFrame .ethernet none, 2⟩,
        ReportsScan (fiveTargets.map .v4) (decodePacket requestFrame .ethernet none) msg :=
  one_scan_alert_per_packet (fun _ => "") "eth0" (fiveTargets.map .v4) rulesJson.reverse (List.reverse_perm rulesJson)
    (sweepSegment.drop 1) requestFrame .ethernet none 2

end NetworkIds.Engine
