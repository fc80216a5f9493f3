import NetworkIds.Engine.Address
import NetworkIds.Lib.HashMap

set_option autoImplicit false

namespace NetworkIds.Engine

open NetworkIds.Parser

inductive TcpConnState where
  | new
  | established
  | closing
deriving DecidableEq, Repr

-- (src_ip_string, src_port, dst_ip_string, dst_port)
abbrev ConnKey := String × UInt16 × String × UInt16

abbrev ConnTable (τ : Type) := HashMap ConnKey (TcpConnState × τ)

structure ScopeConfig where
  interfaces : List String

structure IpMatch where
  srcIp : String
  dstIp : String
  ipVersion : List UInt8

-- A JSON value as a port field of a rule: a number is kept as what as_u64 makes
-- of it, other stands for null, booleans, arrays and objects.
inductive PortValue where
  | string (text : String)
  | number (asU64 : Option UInt64)
  | other

structure TransportMatch where
  protocol : List String
  srcPort : PortValue
  dstPort : PortValue

structure MatchConfig where
  ip : IpMatch
  transport : TransportMatch
  direction : String

structure FlowConfig where
  state : String

structure LimitConfig (τ : Type) where
  per : String
  connections : UInt32
  interval : τ

structure ContextConfig (τ : Type) where
  flow : FlowConfig
  limits : Option (HashMap String (LimitConfig τ))

structure PerSrcConfig where
  maxRequestsPerSecond : Option UInt32

structure BehaviourConfig where
  perSrc : Option PerSrcConfig

inductive Severity where
  | info
  | low
  | medium
  | high
  | critical
deriving DecidableEq, Repr

structure RuleConfig (τ : Type) where
  id : UInt32
  enabled : Bool
  action : String
  message : String
  class_ : String
  severity : UInt8
  scope : ScopeConfig
  matchConfig : MatchConfig
  context : ContextConfig τ
  behaviour : BehaviourConfig

structure EvaluatedRule (τ : Type) where
  id : UInt32
  eventId : String
  eventName : String
  severity : Severity
  action : String
  class_ : String
  scope : ScopeConfig
  matchConfig : MatchConfig
  context : ContextConfig τ
  behaviour : BehaviourConfig

def severityOf (level : UInt8) : Severity :=
  match level with
  | 0 => .critical
  | 1 => .high
  | 2 => .medium
  | 3 => .low
  | _ => .info

variable {τ : Type}

def evaluatedRule (r : RuleConfig τ) : EvaluatedRule τ where
  id := r.id
  eventId := "RULE-" ++ toString r.id.toNat
  eventName := r.message
  severity := severityOf r.severity
  action := r.action
  class_ := r.class_
  scope := r.scope
  matchConfig := r.matchConfig
  context := r.context
  behaviour := r.behaviour

-- The loop of StatefulDetectionEngine::new over the rules in the order in which
-- the hash map of rules.json yields them.
def loadRules (rulesLoaded : List (RuleConfig τ)) : List (EvaluatedRule τ) :=
  (rulesLoaded.filter fun r => r.enabled).map evaluatedRule

def catchAllConfig (id : UInt32) (message : String) (maxRequests : Option UInt32)
    (limits : Option (HashMap String (LimitConfig τ))) : RuleConfig τ where
  id := id
  enabled := true
  action := "alert"
  message := message
  class_ := "any"
  severity := 4
  scope := ⟨["any"]⟩
  matchConfig := ⟨⟨"any", "any", [4, 6]⟩, ⟨["any"], .string "any", .string "any"⟩, "any"⟩
  context := ⟨⟨"any"⟩, limits⟩
  behaviour := ⟨some ⟨maxRequests⟩⟩

def catchAllRule (id : UInt32) (maxRequests : Option UInt32)
    (limits : Option (HashMap String (LimitConfig τ))) : EvaluatedRule τ :=
  evaluatedRule (catchAllConfig id "Any packet" maxRequests limits)

def establishedRule (maxRequests : Option UInt32) : EvaluatedRule τ :=
  { (catchAllRule 1 maxRequests none : EvaluatedRule τ) with context := ⟨⟨"established"⟩, none⟩ }

def connRateLimit (rule : EvaluatedRule τ) : Option (LimitConfig τ) :=
  rule.context.limits.bind fun limits => limits.lookup "max_conn_rate"

def maxRequests (rule : EvaluatedRule τ) : Option UInt32 :=
  rule.behaviour.perSrc.bind fun perSrc => perSrc.maxRequestsPerSecond

def resolveTrackingKey (rule : EvaluatedRule τ) (pkt : ParsedPacket) : String :=
  match connRateLimit rule with
  | some connRate =>
      match connRate.per with
      | "src_ip" => resolveSrcIp pkt
      | "dst_ip" => resolveDstIp pkt
      | _ => resolveSrcIp pkt
  | none => resolveSrcIp pkt

def isSelf (ip : String) (selfIps : List IpAddr) : Bool :=
  match parseIpAddr ip with
  | some address => selfIps.contains address
  | none => false

def ipFieldMatches (field pktIp : String) (selfIps : List IpAddr) : Bool :=
  match field with
  | "any" => true
  | "self" => isSelf pktIp selfIps
  | literal => literal == pktIp

-- str::parse::<u16>(): an optional plus sign and decimal digits.
def parseU16 (text : String) : Option UInt16 :=
  let digits : List Char := match text.toList with
    | '+' :: rest => rest
    | chars => chars
  let value : Nat := digits.foldl (fun value c => value * 10 + (c.toNat - 48)) 0
  if digits.isEmpty ∨ !digits.all Char.isDigit ∨ value > 65535 then none else some (UInt16.ofNat value)

def portMatches (val : PortValue) (actualPort : UInt16) : Bool :=
  match val with
  | .string s => s == "any" || parseU16 s == some actualPort
  | .number n => n == some actualPort.toUInt64
  | .other => false

def tcpFlagFin : UInt16 := 0x001
def tcpFlagSyn : UInt16 := 0x002
def tcpFlagRst : UInt16 := 0x004
def tcpFlagAck : UInt16 := 0x010

def hasFlag (tcp : TcpInfo) (flag : UInt16) : Bool := tcp.flags &&& flag != 0

def isFreshSyn (tcp : TcpInfo) : Bool := hasFlag tcp tcpFlagSyn && !hasFlag tcp tcpFlagAck

def connKey (pkt : ParsedPacket) (tcp : TcpInfo) : ConnKey :=
  (resolveSrcIp pkt, tcp.srcPort, resolveDstIp pkt, tcp.dstPort)

def revConnKey (pkt : ParsedPacket) (tcp : TcpInfo) : ConnKey :=
  (resolveDstIp pkt, tcp.dstPort, resolveSrcIp pkt, tcp.srcPort)

def inScope (rule : EvaluatedRule τ) (iface : String) : Bool :=
  rule.scope.interfaces.any fun i => i == "any" || i == iface

def directionMatches (rule : EvaluatedRule τ) (pkt : ParsedPacket) (selfIps : List IpAddr) : Bool :=
  match rule.matchConfig.direction with
  | "ingress" => isSelf (resolveDstIp pkt) selfIps
  | "egress" => isSelf (resolveSrcIp pkt) selfIps
  | _ => true

def ipsMatch (rule : EvaluatedRule τ) (srcIp dstIp : String) (selfIps : List IpAddr) : Bool :=
  ipFieldMatches rule.matchConfig.ip.srcIp srcIp selfIps && ipFieldMatches rule.matchConfig.ip.dstIp dstIp selfIps

def networkMatches (rule : EvaluatedRule τ) (pkt : ParsedPacket) (selfIps : List IpAddr) : Bool :=
  match pkt.network with
  | .ipv4 ip => rule.matchConfig.ip.ipVersion.contains 4 &&
      ipsMatch rule (Ipv4Addr.display ip.srcIp) (Ipv4Addr.display ip.dstIp) selfIps
  | .ipv6 ip => rule.matchConfig.ip.ipVersion.contains 6 &&
      ipsMatch rule (Ipv6Addr.display ip.srcIp) (Ipv6Addr.display ip.dstIp) selfIps
  | .arp arp => ipsMatch rule (Ipv4Addr.display arp.senderIp) (Ipv4Addr.display arp.targetIp) selfIps
  | .none => rule.matchConfig.ip.srcIp == "any" && rule.matchConfig.ip.dstIp == "any"

def flowStateMatches (rule : EvaluatedRule τ) (pkt : ParsedPacket) (tcpConnTable : ConnTable τ) : Bool :=
  match rule.context.flow.state with
  | "any" => true
  | "new" =>
      match pkt.transport with
      | .tcp tcp => isFreshSyn tcp
      | _ => false
  | "established" =>
      match pkt.transport with
      | .tcp tcp =>
          match tcpConnTable.lookup (connKey pkt tcp) with
          | some (.established, _) => true
          | _ => false
      | _ => false
  | _ => true

def isArp (pkt : ParsedPacket) : Bool :=
  match pkt.network with
  | .arp _ => true
  | _ => false

def isEapol (pkt : ParsedPacket) : Bool :=
  match pkt.app with
  | .eapol _ => true
  | _ => false

def isTcp (pkt : ParsedPacket) : Bool :=
  match pkt.transport with
  | .tcp _ => true
  | _ => false

def isUdp (pkt : ParsedPacket) : Bool :=
  match pkt.transport with
  | .udp _ => true
  | _ => false

def classMatches (rule : EvaluatedRule τ) (pkt : ParsedPacket) : Bool :=
  match rule.class_ with
  | "arp" => isArp pkt
  | "eapol" => isEapol pkt
  | "tcp" => isTcp pkt
  | "udp" => isUdp pkt
  | _ => false

def usesPort (pkt : ParsedPacket) (ports : List UInt16) : Bool :=
  match pkt.transport with
  | .tcp tcp => ports.contains tcp.srcPort || ports.contains tcp.dstPort
  | _ => false

-- One entry of the protocol list. No character outside ASCII lowercases to a
-- letter of these names, so that the ASCII lowercase is enough here.
def protocolMatches (pkt : ParsedPacket) (proto : String) : Bool :=
  match proto.toLower with
  | "arp" => isArp pkt
  | "eapol" => isEapol pkt
  | "tcp" => isTcp pkt
  | "udp" => isUdp pkt
  | "http" => usesPort pkt [80, 8080, 8081]
  | "https" => usesPort pkt [443]
  | "ssh" => usesPort pkt [22]
  | "rdp" => usesPort pkt [3389]
  | "smb" => usesPort pkt [445]
  | "ftp" => usesPort pkt [20, 21]
  | "any" => true
  | _ => false

def portsMatch (rule : EvaluatedRule τ) (pkt : ParsedPacket) : Bool :=
  match pkt.transport with
  | .tcp tcp => portMatches rule.matchConfig.transport.srcPort tcp.srcPort &&
      portMatches rule.matchConfig.transport.dstPort tcp.dstPort
  | .udp udp => portMatches rule.matchConfig.transport.srcPort udp.srcPort &&
      portMatches rule.matchConfig.transport.dstPort udp.dstPort
  | _ => true

def matchesRule (rule : EvaluatedRule τ) (pkt : ParsedPacket) (iface : String) (selfIps : List IpAddr)
    (tcpConnTable : ConnTable τ) : Bool :=
  inScope rule iface && directionMatches rule pkt selfIps && networkMatches rule pkt selfIps &&
    flowStateMatches rule pkt tcpConnTable &&
    (classMatches rule pkt || rule.matchConfig.transport.protocol.any (protocolMatches pkt)) &&
    portsMatch rule pkt

theorem matches_rule_table (rule : EvaluatedRule τ) (pkt : ParsedPacket) (iface : String) (selfIps : List IpAddr)
    (first second : ConnTable τ)
    (same : ∀ tcp, pkt.transport = .tcp tcp → first.lookup (connKey pkt tcp) = second.lookup (connKey pkt tcp)) :
    matchesRule rule pkt iface selfIps first = matchesRule rule pkt iface selfIps second := by
  have flow : flowStateMatches rule pkt first = flowStateMatches rule pkt second := by
    unfold flowStateMatches
    cases transport : pkt.transport with
    | tcp tcp => simp only [same tcp transport]
    | udp udp => rfl
    | icmp icmp => rfl
    | none => rfl
  rw [matchesRule, matchesRule, flow]

end NetworkIds.Engine
