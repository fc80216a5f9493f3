import NetworkIds.Engine.AddressText
import NetworkIds.Engine.Rules

set_option autoImplicit false

namespace NetworkIds.Engine

open NetworkIds.Parser

variable {τ : Type}

-- The text in which process_packet compares an address.
def IpAddr.display : IpAddr → String
  | .v4 address => Ipv4Addr.display address
  | .v6 address => Ipv6Addr.display address

theorem parse_display (address : IpAddr) : parseIpAddr (IpAddr.display address) = some address := by
  cases address with
  | v4 address => exact parse_display_ipv4 address
  | v6 address => exact parse_display_ipv6 address

theorem address_not_keyword {text : String} {address : IpAddr} (parsed : parseIpAddr text = some address) :
    text ≠ "any" ∧ text ≠ "self" := by
  have any : parseIpAddr "any" = none := by decide
  have self : parseIpAddr "self" = none := by decide
  constructor
  · rintro rfl
    rw [any] at parsed
    cases parsed
  · rintro rfl
    rw [self] at parsed
    cases parsed

theorem literal_field {text : String} {address : IpAddr} (parsed : parseIpAddr text = some address) (pktIp : String)
    (selfIps : List IpAddr) : ipFieldMatches text pktIp selfIps = (text == pktIp) := by
  obtain ⟨notAny, notSelf⟩ := address_not_keyword parsed
  unfold ipFieldMatches
  split
  · exact absurd rfl notAny
  · exact absurd rfl notSelf
  · rfl

theorem spells_one {text : String} {address pktIp : IpAddr} (parsed : parseIpAddr text = some address)
    (same : text = IpAddr.display pktIp) : address = pktIp := by
  rw [same, parse_display] at parsed
  exact (Option.some.inj parsed).symm

theorem literal_matches {text : String} {address : IpAddr} (parsed : parseIpAddr text = some address) (pktIp : IpAddr)
    (selfIps : List IpAddr) :
    ipFieldMatches text (IpAddr.display pktIp) selfIps = true ↔ text = IpAddr.display address ∧ address = pktIp := by
  rw [literal_field parsed, beq_iff_eq]
  constructor
  · intro same
    have meant := spells_one parsed same
    rw [meant]
    exact ⟨same, rfl⟩
  · rintro ⟨same, rfl⟩
    exact same

def EvaluatedRule.withIps (rule : EvaluatedRule τ) (srcIp dstIp : String) : EvaluatedRule τ :=
  { rule with matchConfig := { rule.matchConfig with ip := { rule.matchConfig.ip with srcIp := srcIp, dstIp := dstIp } } }

def SameField (field other : String) : Prop :=
  (field = "any" ↔ other = "any") ∧
    ∀ (pktIp : IpAddr) (selfIps : List IpAddr),
      ipFieldMatches field (IpAddr.display pktIp) selfIps = ipFieldMatches other (IpAddr.display pktIp) selfIps

theorem same_field_refl (field : String) : SameField field field := ⟨Iff.rfl, fun _ _ => rfl⟩

theorem same_field_any {field other : String} (same : SameField field other) :
    (field == "any") = (other == "any") := by
  rw [Bool.eq_iff_iff, beq_iff_eq, beq_iff_eq]
  exact same.1

theorem same_ips_match (rule : EvaluatedRule τ) {srcIp otherSrc dstIp otherDst : String}
    (src : SameField srcIp otherSrc) (dst : SameField dstIp otherDst) (pktSrc pktDst : IpAddr)
    (selfIps : List IpAddr) :
    ipsMatch (rule.withIps srcIp dstIp) (IpAddr.display pktSrc) (IpAddr.display pktDst) selfIps =
      ipsMatch (rule.withIps otherSrc otherDst) (IpAddr.display pktSrc) (IpAddr.display pktDst) selfIps := by
  have first := src.2 pktSrc selfIps
  have second := dst.2 pktDst selfIps
  exact congrArg₂ and first second

theorem same_network_match (rule : EvaluatedRule τ) {srcIp otherSrc dstIp otherDst : String}
    (src : SameField srcIp otherSrc) (dst : SameField dstIp otherDst) (pkt : ParsedPacket) (selfIps : List IpAddr) :
    networkMatches (rule.withIps srcIp dstIp) pkt selfIps = networkMatches (rule.withIps otherSrc otherDst) pkt selfIps := by
  unfold networkMatches
  cases pkt.network with
  | ipv4 ip =>
      have ips := same_ips_match rule src dst (.v4 ip.srcIp) (.v4 ip.dstIp) selfIps
      exact congrArg (rule.matchConfig.ip.ipVersion.contains 4 && ·) ips
  | ipv6 ip =>
      have ips := same_ips_match rule src dst (.v6 ip.srcIp) (.v6 ip.dstIp) selfIps
      exact congrArg (rule.matchConfig.ip.ipVersion.contains 6 && ·) ips
  | arp arp => exact same_ips_match rule src dst (.v4 arp.senderIp) (.v4 arp.targetIp) selfIps
  | none => exact congrArg₂ and (same_field_any src) (same_field_any dst)

theorem same_rule_match (rule : EvaluatedRule τ) {srcIp otherSrc dstIp otherDst : String}
    (src : SameField srcIp otherSrc) (dst : SameField dstIp otherDst) (pkt : ParsedPacket) (iface : String)
    (selfIps : List IpAddr) (table : ConnTable τ) :
    matchesRule (rule.withIps srcIp dstIp) pkt iface selfIps table =
      matchesRule (rule.withIps otherSrc otherDst) pkt iface selfIps table := by
  rw [matchesRule, matchesRule, same_network_match rule src dst pkt selfIps]
  rfl

def SameVerdicts (τ : Type) (text other : String) : Prop :=
  ∀ (rule : EvaluatedRule τ) (field : String) (pkt : ParsedPacket) (iface : String) (selfIps : List IpAddr)
    (table : ConnTable τ),
    matchesRule (rule.withIps text field) pkt iface selfIps table =
        matchesRule (rule.withIps other field) pkt iface selfIps table ∧
      matchesRule (rule.withIps field text) pkt iface selfIps table =
        matchesRule (rule.withIps field other) pkt iface selfIps table

theorem spellings_alike {text other : String} {address : IpAddr} (parsed : parseIpAddr text = some address)
    (parsedOther : parseIpAddr other = some address)
    (alike : text = IpAddr.display address ↔ other = IpAddr.display address) : SameField text other := by
  constructor
  · simp [address_not_keyword parsed, address_not_keyword parsedOther]
  · intro pktIp selfIps
    rw [Bool.eq_iff_iff, literal_matches parsed, literal_matches parsedOther, alike]

def packetFrom (address : IpAddr) : ParsedPacket :=
  { ParsedPacket.new .ethernet none with
    network := match address with
      | .v4 ip => .ipv4 ⟨4, 5, 0, 0, 20, 0, 0, 0, 64, 59, 0, ip, ip, [], []⟩
      | .v6 ip => .ipv6 ⟨6, 0, 0, 0, 59, 64, ip, ip, [], 59, []⟩ }

def ruleFor (text : String) : EvaluatedRule τ := (catchAllRule 0 none none).withIps text "any"

theorem rule_for_matches (text : String) (address : IpAddr) :
    matchesRule (ruleFor text : EvaluatedRule τ) (packetFrom address) "any" [] .empty =
      ipFieldMatches text (IpAddr.display address) [] := by
  have protocol : protocolMatches (packetFrom address) "any" = true := by
    have lower : "any".toLower = "any" := by decide +kernel
    rw [protocolMatches, lower]
    rfl
  have protocols : (ruleFor text : EvaluatedRule τ).matchConfig.transport.protocol.any
      (protocolMatches (packetFrom address)) = true := List.any_eq_true.mpr ⟨"any", List.mem_singleton.mpr rfl, protocol⟩
  have scope : inScope (ruleFor text : EvaluatedRule τ) "any" = true := rfl
  have direction : directionMatches (ruleFor text : EvaluatedRule τ) (packetFrom address) [] = true := rfl
  have state : flowStateMatches (ruleFor text : EvaluatedRule τ) (packetFrom address) .empty = true := rfl
  have ports : portsMatch (ruleFor text : EvaluatedRule τ) (packetFrom address) = true := rfl
  have network : networkMatches (ruleFor text : EvaluatedRule τ) (packetFrom address) [] =
      ipFieldMatches text (IpAddr.display address) [] := by
    cases address with
    | v4 ip => exact Bool.and_true _
    | v6 ip => exact Bool.and_true _
  rw [matchesRule, scope, direction, network, state, protocols, ports]
  simp

theorem same_verdicts_iff {text other : String} {address : IpAddr} (parsed : parseIpAddr text = some address)
    (parsedOther : parseIpAddr other = some address) :
    SameVerdicts τ text other ↔ (text = IpAddr.display address ↔ other = IpAddr.display address) := by
  constructor
  · intro same
    have verdicts := (same (catchAllRule 0 none none) "any" (packetFrom address) "any" [] .empty).1
    rw [← ruleFor, ← ruleFor, rule_for_matches, rule_for_matches, Bool.eq_iff_iff, literal_matches parsed,
      literal_matches parsedOther] at verdicts
    simpa using verdicts
  · intro alike rule field pkt iface selfIps table
    have same := spellings_alike parsed parsedOther alike
    exact ⟨same_rule_match rule same (same_field_refl field) pkt iface selfIps table,
      same_rule_match rule (same_field_refl field) same pkt iface selfIps table⟩

-- A literal means its address where the rule spells it as display does, or
-- where the packet has another one; every IPv4 literal does.
theorem literal_by_spelling (text : String) (address : IpAddr) (parsed : parseIpAddr text = some address) :
    (∀ (pktIp : IpAddr) (selfIps : List IpAddr),
      (ipFieldMatches text (IpAddr.display pktIp) selfIps = true ↔ address = pktIp) ↔
        text = IpAddr.display address ∨ address ≠ pktIp) ∧
    (∀ other, parseIpAddr other = some address →
      (SameVerdicts τ text other ↔ (text = IpAddr.display address ↔ other = IpAddr.display address))) ∧
    ∀ ipv4, address = .v4 ipv4 → text = IpAddr.display address := by
  refine ⟨?_, fun other parsedOther => same_verdicts_iff parsed parsedOther, ?_⟩
  · intro pktIp selfIps
    rw [literal_matches parsed]
    by_cases same : address = pktIp
    · simp [same]
    · simp [same]
  · rintro ipv4 rfl
    exact ipv4_text parsed

-- 2001:db8::1
def documentationAddress : IpAddr := .v6 ⟨⟨[0x20, 0x01, 0x0D, 0xB8, 0, 0, 0, 0, 0, 0, 0, 0, 0, 0, 0, 1], rfl⟩⟩

theorem display_spelling_matches : ipFieldMatches "2001:db8::1" (IpAddr.display documentationAddress) [] = true :=
  ((@literal_by_spelling Rat "2001:db8::1" documentationAddress (by decide +kernel)).1 documentationAddress []).mpr
    (.inl (by decide +kernel)) |>.mpr rfl

theorem upper_case_not_recognised :
    ¬ ∀ (text : String) (address : IpAddr), parseIpAddr text = some address →
      (∀ (pktIp : IpAddr) (selfIps : List IpAddr),
        ipFieldMatches text (IpAddr.display pktIp) selfIps = true ↔ address = pktIp) ∧
      ∀ other, parseIpAddr other = some address → SameVerdicts Rat text other := by
  intro means
  have parsed : parseIpAddr "2001:DB8::1" = some documentationAddress := by decide +kernel
  have unmatched : ipFieldMatches "2001:DB8::1" (IpAddr.display documentationAddress) [] = false := by decide +kernel
  have matched := ((means "2001:DB8::1" documentationAddress parsed).1 documentationAddress []).mpr rfl
  rw [unmatched] at matched
  cases matched

end NetworkIds.Engine
