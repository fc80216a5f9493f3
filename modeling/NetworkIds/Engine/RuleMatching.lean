import NetworkIds.Engine.Connections

set_option autoImplicit false

namespace NetworkIds.Engine

open NetworkIds.Parser

variable {τ : Type}

-- The second rule asks for less than the first: each field is kept or widened.
structure Generalises (rule wider : EvaluatedRule τ) : Prop where
  class_ : wider.class_ = rule.class_
  interfaces : rule.scope.interfaces ⊆ wider.scope.interfaces
  direction : wider.matchConfig.direction = rule.matchConfig.direction ∨ wider.matchConfig.direction = "any"
  srcIp : wider.matchConfig.ip.srcIp = rule.matchConfig.ip.srcIp ∨ wider.matchConfig.ip.srcIp = "any"
  dstIp : wider.matchConfig.ip.dstIp = rule.matchConfig.ip.dstIp ∨ wider.matchConfig.ip.dstIp = "any"
  ipVersion : rule.matchConfig.ip.ipVersion ⊆ wider.matchConfig.ip.ipVersion
  flowState : wider.context.flow.state = rule.context.flow.state ∨ wider.context.flow.state = "any"
  protocol : rule.matchConfig.transport.protocol ⊆ wider.matchConfig.transport.protocol
  srcPort : wider.matchConfig.transport.srcPort = rule.matchConfig.transport.srcPort ∨
    wider.matchConfig.transport.srcPort = .string "any"
  dstPort : wider.matchConfig.transport.dstPort = rule.matchConfig.transport.dstPort ∨
    wider.matchConfig.transport.dstPort = .string "any"

theorem ip_field_wider {field wider : String} (wide : wider = field ∨ wider = "any") (pktIp : String)
    (selfIps : List IpAddr) (matched : ipFieldMatches field pktIp selfIps = true) :
    ipFieldMatches wider pktIp selfIps = true := by
  obtain rfl | rfl := wide
  · exact matched
  · rfl

theorem port_wider {field wider : PortValue} (wide : wider = field ∨ wider = .string "any") (port : UInt16)
    (matched : portMatches field port = true) : portMatches wider port = true := by
  obtain rfl | rfl := wide
  · exact matched
  · rfl

section Generalised

variable {rule wider : EvaluatedRule τ} (general : Generalises rule wider) (pkt : ParsedPacket) (iface : String)
  (selfIps : List IpAddr) (table : ConnTable τ)

include general

theorem in_scope_wider (matched : inScope rule iface = true) : inScope wider iface = true := by
  obtain ⟨i, listed, named⟩ := List.any_eq_true.mp matched
  exact List.any_eq_true.mpr ⟨i, general.interfaces listed, named⟩

theorem direction_wider (matched : directionMatches rule pkt selfIps = true) :
    directionMatches wider pkt selfIps = true := by
  rw [directionMatches]
  obtain same | any := general.direction
  · rw [same]
    exact matched
  · rw [any]
    rfl

theorem ips_wider (srcIp dstIp : String) (matched : ipsMatch rule srcIp dstIp selfIps = true) :
    ipsMatch wider srcIp dstIp selfIps = true := by
  rw [ipsMatch, Bool.and_eq_true] at matched ⊢
  exact ⟨ip_field_wider general.srcIp srcIp selfIps matched.1, ip_field_wider general.dstIp dstIp selfIps matched.2⟩

theorem version_wider (version : UInt8) (listed : rule.matchConfig.ip.ipVersion.contains version = true) :
    wider.matchConfig.ip.ipVersion.contains version = true := by
  rw [List.contains_iff_mem] at listed ⊢
  exact general.ipVersion listed

-- Without an IP layer both address fields have to be "any", and stay so.
theorem network_wider (matched : networkMatches rule pkt selfIps = true) : networkMatches wider pkt selfIps = true := by
  unfold networkMatches at matched ⊢
  cases network : pkt.network with
  | ipv4 ip =>
      rw [network] at matched
      dsimp only at matched ⊢
      rw [Bool.and_eq_true] at matched ⊢
      exact ⟨version_wider general 4 matched.1, ips_wider general selfIps _ _ matched.2⟩
  | ipv6 ip =>
      rw [network] at matched
      dsimp only at matched ⊢
      rw [Bool.and_eq_true] at matched ⊢
      exact ⟨version_wider general 6 matched.1, ips_wider general selfIps _ _ matched.2⟩
  | arp arp =>
      rw [network] at matched
      exact ips_wider general selfIps _ _ matched
  | none =>
      rw [network] at matched
      dsimp only at matched ⊢
      rw [Bool.and_eq_true, beq_iff_eq, beq_iff_eq] at matched ⊢
      exact ⟨general.srcIp.elim (fun same => same.trans matched.1) id,
        general.dstIp.elim (fun same => same.trans matched.2) id⟩

theorem flow_state_wider (matched : flowStateMatches rule pkt table = true) : flowStateMatches wider pkt table = true := by
  rw [flowStateMatches]
  obtain same | any := general.flowState
  · rw [same]
    exact matched
  · rw [any]
    rfl

theorem protocol_wider
    (matched : (classMatches rule pkt || rule.matchConfig.transport.protocol.any (protocolMatches pkt)) = true) :
    (classMatches wider pkt || wider.matchConfig.transport.protocol.any (protocolMatches pkt)) = true := by
  have sameClass : classMatches wider pkt = classMatches rule pkt := by rw [classMatches, classMatches, general.class_]
  rw [Bool.or_eq_true] at matched ⊢
  rw [sameClass]
  obtain byClass | byProtocol := matched
  · exact .inl byClass
  · obtain ⟨proto, listed, named⟩ := List.any_eq_true.mp byProtocol
    exact .inr (List.any_eq_true.mpr ⟨proto, general.protocol listed, named⟩)

theorem ports_wider (matched : portsMatch rule pkt = true) : portsMatch wider pkt = true := by
  unfold portsMatch at matched ⊢
  cases transport : pkt.transport with
  | tcp tcp =>
      rw [transport] at matched
      dsimp only at matched ⊢
      rw [Bool.and_eq_true] at matched ⊢
      exact ⟨port_wider general.srcPort _ matched.1, port_wider general.dstPort _ matched.2⟩
  | udp udp =>
      rw [transport] at matched
      dsimp only at matched ⊢
      rw [Bool.and_eq_true] at matched ⊢
      exact ⟨port_wider general.srcPort _ matched.1, port_wider general.dstPort _ matched.2⟩
  | icmp icmp => rfl
  | none => rfl

theorem generalised_rule_matches (matched : matchesRule rule pkt iface selfIps table = true) :
    matchesRule wider pkt iface selfIps table = true := by
  simp only [matchesRule, Bool.and_eq_true] at matched ⊢
  obtain ⟨⟨⟨⟨⟨scope, direction⟩, network⟩, flow⟩, protocol⟩, ports⟩ := matched
  exact ⟨⟨⟨⟨⟨in_scope_wider general iface scope, direction_wider general pkt selfIps direction⟩,
    network_wider general pkt selfIps network⟩, flow_state_wider general pkt table flow⟩,
    protocol_wider general pkt protocol⟩, ports_wider general pkt ports⟩

end Generalised

def clientRule : EvaluatedRule Rat :=
  { (catchAllRule 1 none none : EvaluatedRule Rat) with
    scope := ⟨["eth0"]⟩
    matchConfig := ⟨⟨"10.0.0.1", "any", [4]⟩, ⟨["http"], .string "any", .string "80"⟩, "any"⟩
    context := ⟨⟨"new"⟩, none⟩ }

def anyClientRule : EvaluatedRule Rat :=
  { clientRule with
    scope := ⟨["eth0", "any"]⟩
    matchConfig := ⟨⟨"any", "any", [6, 4]⟩, ⟨["udp", "http"], .string "any", .string "any"⟩, "any"⟩
    context := ⟨⟨"any"⟩, none⟩ }

theorem client_segment_matches_wider : matchesRule anyClientRule (clientSegment 0x02) "eth0" [] .empty = true := by
  have general : Generalises clientRule anyClientRule :=
    ⟨rfl, by decide, .inl rfl, .inr rfl, .inl rfl, by decide, .inr rfl, by decide, .inl rfl, .inr rfl⟩
  exact generalised_rule_matches general (clientSegment 0x02) "eth0" [] .empty (by decide +kernel)

section Mirror

def mirrorNetwork : NetworkLayer → NetworkLayer
  | .ipv4 ip => .ipv4 { ip with srcIp := ip.dstIp, dstIp := ip.srcIp }
  | .ipv6 ip => .ipv6 { ip with srcIp := ip.dstIp, dstIp := ip.srcIp }
  | .arp arp => .arp { arp with
      senderMac := arp.targetMac
      senderIp := arp.targetIp
      targetMac := arp.senderMac
      targetIp := arp.senderIp }
  | .none => .none

def mirrorTransport : TransportLayer → TransportLayer
  | .tcp tcp => .tcp { tcp with srcPort := tcp.dstPort, dstPort := tcp.srcPort }
  | .udp udp => .udp { udp with srcPort := udp.dstPort, dstPort := udp.srcPort }
  | .icmp icmp => .icmp icmp
  | .none => .none

-- The packet as it would be sent back, from the destination to the source.
def mirrorPacket (pkt : ParsedPacket) : ParsedPacket :=
  { pkt with
    srcMac := pkt.dstMac
    dstMac := pkt.srcMac
    network := mirrorNetwork pkt.network
    transport := mirrorTransport pkt.transport }

def mirrorDirection (direction : String) : String :=
  match direction with
  | "ingress" => "egress"
  | "egress" => "ingress"
  | other => other

def mirrorMatch (config : MatchConfig) : MatchConfig where
  ip := { config.ip with srcIp := config.ip.dstIp, dstIp := config.ip.srcIp }
  transport := { config.transport with srcPort := config.transport.dstPort, dstPort := config.transport.srcPort }
  direction := mirrorDirection config.direction

def mirrorRule (rule : EvaluatedRule τ) : EvaluatedRule τ := { rule with matchConfig := mirrorMatch rule.matchConfig }

def mirrorKey : ConnKey ≃ ConnKey where
  toFun := ConnKey.reverse
  invFun := ConnKey.reverse
  left_inv _ := rfl
  right_inv _ := rfl

variable (rule : EvaluatedRule τ) (pkt : ParsedPacket) (selfIps : List IpAddr) (table : ConnTable τ)

theorem mirror_src_ip : resolveSrcIp (mirrorPacket pkt) = resolveDstIp pkt := by
  rw [resolveSrcIp, resolveDstIp, mirrorPacket]
  cases pkt.network with
  | ipv4 ip => rfl
  | ipv6 ip => rfl
  | arp arp => rfl
  | none => rfl

theorem mirror_dst_ip : resolveDstIp (mirrorPacket pkt) = resolveSrcIp pkt := by
  rw [resolveSrcIp, resolveDstIp, mirrorPacket]
  cases pkt.network with
  | ipv4 ip => rfl
  | ipv6 ip => rfl
  | arp arp => rfl
  | none => rfl

theorem mirror_direction_other {direction : String} (notIngress : direction ≠ "ingress") (notEgress : direction ≠ "egress") :
    mirrorDirection direction = direction := by
  unfold mirrorDirection
  split
  · exact absurd rfl notIngress
  · exact absurd rfl notEgress
  · rfl

theorem mirror_is_arp : isArp (mirrorPacket pkt) = isArp pkt := by
  rw [isArp, isArp, mirrorPacket]
  cases pkt.network with
  | ipv4 ip => rfl
  | ipv6 ip => rfl
  | arp arp => rfl
  | none => rfl

theorem mirror_is_tcp : isTcp (mirrorPacket pkt) = isTcp pkt := by
  rw [isTcp, isTcp, mirrorPacket]
  cases pkt.transport with
  | tcp tcp => rfl
  | udp udp => rfl
  | icmp icmp => rfl
  | none => rfl

theorem mirror_is_udp : isUdp (mirrorPacket pkt) = isUdp pkt := by
  rw [isUdp, isUdp, mirrorPacket]
  cases pkt.transport with
  | tcp tcp => rfl
  | udp udp => rfl
  | icmp icmp => rfl
  | none => rfl

-- The ports of an application are looked for at both ends.
theorem mirror_uses_port (ports : List UInt16) : usesPort (mirrorPacket pkt) ports = usesPort pkt ports := by
  rw [usesPort, usesPort, mirrorPacket]
  cases pkt.transport with
  | tcp tcp => exact Bool.or_comm _ _
  | udp udp => rfl
  | icmp icmp => rfl
  | none => rfl

theorem direction_mirrored :
    directionMatches (mirrorRule rule) (mirrorPacket pkt) selfIps = directionMatches rule pkt selfIps := by
  unfold directionMatches
  rw [mirror_src_ip, mirror_dst_ip, mirrorRule, mirrorMatch]
  dsimp only
  by_cases ingress : rule.matchConfig.direction = "ingress"
  · rw [ingress]
    rfl
  · by_cases egress : rule.matchConfig.direction = "egress"
    · rw [egress]
      rfl
    · rw [mirror_direction_other ingress egress]
      split
      · contradiction
      · contradiction
      · rfl

theorem ips_mirrored (srcIp dstIp : String) :
    ipsMatch (mirrorRule rule) dstIp srcIp selfIps = ipsMatch rule srcIp dstIp selfIps := Bool.and_comm _ _

theorem network_mirrored :
    networkMatches (mirrorRule rule) (mirrorPacket pkt) selfIps = networkMatches rule pkt selfIps := by
  unfold networkMatches
  rw [mirrorPacket]
  cases pkt.network with
  | ipv4 ip => exact congrArg (rule.matchConfig.ip.ipVersion.contains 4 && ·) (ips_mirrored rule selfIps _ _)
  | ipv6 ip => exact congrArg (rule.matchConfig.ip.ipVersion.contains 6 && ·) (ips_mirrored rule selfIps _ _)
  | arp arp => exact ips_mirrored rule selfIps _ _
  | none => exact Bool.and_comm _ _

theorem flow_state_mirrored :
    flowStateMatches (mirrorRule rule) (mirrorPacket pkt) (table.reindex mirrorKey) = flowStateMatches rule pkt table := by
  have key : ∀ tcp : TcpInfo, (table.reindex mirrorKey).lookup (connKey (mirrorPacket pkt)
      { tcp with srcPort := tcp.dstPort, dstPort := tcp.srcPort }) = table.lookup (connKey pkt tcp) := by
    intro tcp
    rw [connKey, mirror_src_ip, mirror_dst_ip]
    rfl
  unfold flowStateMatches
  cases transport : pkt.transport with
  | tcp tcp =>
      have mirrored : (mirrorPacket pkt).transport = .tcp { tcp with srcPort := tcp.dstPort, dstPort := tcp.srcPort } := by
        rw [mirrorPacket, transport]
        rfl
      rw [mirrored]
      dsimp only
      rw [key tcp]
      rfl
  | udp udp =>
      rw [mirrorPacket, transport]
      rfl
  | icmp icmp =>
      rw [mirrorPacket, transport]
      rfl
  | none =>
      rw [mirrorPacket, transport]
      rfl

theorem class_mirrored : classMatches (mirrorRule rule) (mirrorPacket pkt) = classMatches rule pkt := by
  rw [classMatches, classMatches, mirror_is_arp, mirror_is_tcp, mirror_is_udp]
  rfl

theorem protocol_mirrored (proto : String) : protocolMatches (mirrorPacket pkt) proto = protocolMatches pkt proto := by
  rw [protocolMatches, protocolMatches, mirror_is_arp, mirror_is_tcp, mirror_is_udp]
  simp only [mirror_uses_port]
  rfl

theorem ports_mirrored : portsMatch (mirrorRule rule) (mirrorPacket pkt) = portsMatch rule pkt := by
  unfold portsMatch
  rw [mirrorPacket]
  cases pkt.transport with
  | tcp tcp => exact Bool.and_comm _ _
  | udp udp => exact Bool.and_comm _ _
  | icmp icmp => rfl
  | none => rfl

theorem mirrored_rule_matches (iface : String) :
    matchesRule (mirrorRule rule) (mirrorPacket pkt) iface selfIps (table.reindex mirrorKey) =
      matchesRule rule pkt iface selfIps table := by
  have protocols : (mirrorRule rule).matchConfig.transport.protocol.any (protocolMatches (mirrorPacket pkt)) =
      rule.matchConfig.transport.protocol.any (protocolMatches pkt) :=
    congrArg rule.matchConfig.transport.protocol.any (funext (protocol_mirrored pkt))
  rw [matchesRule, direction_mirrored, network_mirrored, flow_state_mirrored, class_mirrored, protocols, ports_mirrored]
  rfl

end Mirror

end NetworkIds.Engine
