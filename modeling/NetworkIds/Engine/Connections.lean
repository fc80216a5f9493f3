import NetworkIds.Engine.Process

set_option autoImplicit false

namespace NetworkIds.Engine

open NetworkIds.Parser

inductive ConnEvent where
  | syn
  | synAck
  | teardown
  | other
deriving DecidableEq, Repr

def ConnEvent.next : ConnEvent → Option TcpConnState → Option TcpConnState
  | .syn, _ => some .new
  | .synAck, _ => some .established
  | .teardown, state => state.map fun _ => .closing
  | .other, state => state

def connEvent (pkt : ParsedPacket) (key : ConnKey) : ConnEvent :=
  match pkt.transport with
  | .tcp tcp =>
      if isFreshSyn tcp then if key = connKey pkt tcp then .syn else .other
      else if hasFlag tcp tcpFlagSyn && hasFlag tcp tcpFlagAck then
        if key = connKey pkt tcp ∨ key = revConnKey pkt tcp then .synAck else .other
      else if hasFlag tcp tcpFlagFin || hasFlag tcp tcpFlagRst then
        if key = connKey pkt tcp then .teardown else .other
      else .other
  | _ => .other

variable {τ : Type}

def stateOf (table : ConnTable τ) (key : ConnKey) : Option TcpConnState := (table.lookup key).map Prod.fst

theorem track_state (table : ConnTable τ) (pkt : ParsedPacket) (now : τ) (key : ConnKey) :
    stateOf (trackConnection table pkt now) key = (connEvent pkt key).next (stateOf table key) := by
  rw [stateOf, lookup_track, stateOf]
  unfold trackEntry connEvent
  cases pkt.transport with
  | tcp tcp =>
      dsimp only
      by_cases syn : isFreshSyn tcp
      · rw [if_pos syn, if_pos syn]
        by_cases own : key = connKey pkt tcp
        · rw [if_pos own, if_pos own]
          rfl
        · rw [if_neg own, if_neg own]
          rfl
      · rw [if_neg syn, if_neg syn]
        by_cases synAck : (hasFlag tcp tcpFlagSyn && hasFlag tcp tcpFlagAck) = true
        · rw [if_pos synAck, if_pos synAck]
          by_cases either : key = connKey pkt tcp ∨ key = revConnKey pkt tcp
          · rw [if_pos either, if_pos either]
            rfl
          · rw [if_neg either, if_neg either]
            rfl
        · rw [if_neg synAck, if_neg synAck]
          by_cases teardown : (hasFlag tcp tcpFlagFin || hasFlag tcp tcpFlagRst) = true
          · rw [if_pos teardown, if_pos teardown]
            by_cases own : key = connKey pkt tcp
            · rw [if_pos own, if_pos own]
              cases table.lookup key with
              | none => rfl
              | some entry => rfl
            · rw [if_neg own, if_neg own]
              rfl
          · rw [if_neg teardown, if_neg teardown]
            by_cases own : key = connKey pkt tcp
            · rw [if_pos own]
              cases table.lookup key with
              | none => rfl
              | some entry => rfl
            · rw [if_neg own]
              rfl
  | udp udp => rfl
  | icmp icmp => rfl
  | none => rfl

def keyEvents (key : ConnKey) (arrivals : List (Arrival τ)) : List ConnEvent :=
  (arrivals.map fun arrival => connEvent arrival.pkt key).filter (· != .other)

def Follows (events : List ConnEvent) : Option TcpConnState → Prop
  | none => True
  | some .new => events.getLast? = some .syn
  | some .established => events.getLast? = some .synAck
  | some .closing => events.getLast? = some .teardown ∧ (.syn ∈ events ∨ .synAck ∈ events)

theorem key_events_concat (key : ConnKey) (arrivals : List (Arrival τ)) (arrival : Arrival τ) :
    keyEvents key (arrivals ++ [arrival]) =
      keyEvents key arrivals ++ [connEvent arrival.pkt key].filter (· != .other) := by
  rw [keyEvents, List.map_append, List.filter_append]
  rfl

theorem follows_opened (events : List ConnEvent) (state : TcpConnState) (follows : Follows events (some state)) :
    .syn ∈ events ∨ .synAck ∈ events := by
  cases state with
  | new => exact .inl (List.mem_of_getLast? follows)
  | established => exact .inr (List.mem_of_getLast? follows)
  | closing => exact follows.2

theorem follows_next (events : List ConnEvent) (event : ConnEvent) (state : Option TcpConnState)
    (follows : Follows events state) :
    Follows (events ++ [event].filter (· != .other)) (event.next state) := by
  cases event with
  | syn => exact List.getLast?_concat
  | synAck => exact List.getLast?_concat
  | other =>
      have kept : events ++ [ConnEvent.other].filter (· != .other) = events := List.append_nil events
      rw [kept]
      exact follows
  | teardown =>
      cases state with
      | none => trivial
      | some old =>
          refine ⟨List.getLast?_concat, ?_⟩
          exact (follows_opened events old follows).imp (List.mem_append_left _) (List.mem_append_left _)

section Runs

variable [Sub τ] [LT τ] [DecidableLT τ] [Timestamp τ]

theorem expire_state (engine : StatefulDetectionEngine τ) (now : τ) (key : ConnKey) :
    stateOf (expireStates engine now).tcpConnTable key = none ∨
      stateOf (expireStates engine now).tcpConnTable key = stateOf engine.tcpConnTable key := by
  rw [expireStates]
  by_cases due : cleanupDue engine now = true
  · rw [if_pos due]
    dsimp only
    rw [expireConnections, stateOf, HashMap.lookup_retain, stateOf]
    cases engine.tcpConnTable.lookup key with
    | none => exact .inl rfl
    | some entry =>
        rw [Option.filter_some]
        split
        · exact .inr rfl
        · exact .inl rfl
  · rw [if_neg due]
    exact .inr rfl

theorem step_state (localTime : Nat → String) (engine : StatefulDetectionEngine τ) (arrival : Arrival τ)
    (key : ConnKey) :
    stateOf (step localTime engine arrival).tcpConnTable key =
      (connEvent arrival.pkt key).next (stateOf (expireStates engine arrival.now).tcpConnTable key) :=
  track_state _ arrival.pkt arrival.now key

theorem run_follows (localTime : Nat → String) (engine : StatefulDetectionEngine τ) (arrivals : List (Arrival τ))
    (key : ConnKey) (fresh : stateOf engine.tcpConnTable key = none) :
    Follows (keyEvents key arrivals) (stateOf (run localTime engine arrivals).tcpConnTable key) := by
  induction arrivals using List.reverseRecOn with
  | nil =>
      rw [run, List.foldl_nil, fresh]
      trivial
  | append_singleton arrivals arrival ih =>
      rw [run_concat, step_state, key_events_concat]
      apply follows_next
      cases expire_state (run localTime engine arrivals) arrival.now key with
      | inl forgotten =>
          rw [forgotten]
          trivial
      | inr kept =>
          rw [kept]
          exact ih

theorem states_follow_segments (localTime : Nat → String) (iface : String) (selfIps : List IpAddr)
    (rulesLoaded : List (RuleConfig τ)) (arrivals : List (Arrival τ)) (key : ConnKey) :
    (∀ arrival, stateOf (run localTime (.new iface selfIps rulesLoaded) (arrivals ++ [arrival])).tcpConnTable key =
      (connEvent arrival.pkt key).next (stateOf
        (expireStates (run localTime (.new iface selfIps rulesLoaded) arrivals) arrival.now).tcpConnTable key)) ∧
    Follows (keyEvents key arrivals)
      (stateOf (run localTime (.new iface selfIps rulesLoaded) arrivals).tcpConnTable key) := by
  constructor
  · intro arrival
    rw [run_concat]
    exact step_state localTime _ arrival key
  · exact run_follows localTime _ arrivals key rfl

end Runs

-- The transitions of the state diagram.
def DocumentedChange (event : ConnEvent) (before after : Option TcpConnState) : Prop :=
  after = before ∨
  (event = .syn ∧ (before = none ∨ before = some .closing) ∧ after = some .new) ∨
  (event = .synAck ∧ before = some .new ∧ after = some .established) ∨
  (event = .teardown ∧ (before = some .new ∨ before = some .established) ∧ after = some .closing)

instance (event : ConnEvent) (before after : Option TcpConnState) : Decidable (DocumentedChange event before after) :=
  inferInstanceAs (Decidable (_ ∨ _))

def ConnKey.reverse (key : ConnKey) : ConnKey := (key.2.2.1, key.2.2.2, key.1, key.2.1)

def tcpSegment (src dst : Ipv4Addr) (srcPort dstPort flags : UInt16) : ParsedPacket :=
  { ParsedPacket.new .ethernet none with
    network := .ipv4 ⟨4, 5, 0, 0, 40, 0, 0, 0, 64, 6, 0, src, dst, [], []⟩
    transport := .tcp ⟨srcPort, dstPort, 0, 0, 5, 0, flags, 0, 0, 0, ⟨none, none, false, [], none⟩, []⟩ }

-- The client 10.0.0.1:4000 and the server 10.0.0.2:80.
def clientSegment (flags : UInt16) : ParsedPacket := tcpSegment ⟨10, 0, 0, 1⟩ ⟨10, 0, 0, 2⟩ 4000 80 flags

def serverSegment (flags : UInt16) : ParsedPacket := tcpSegment ⟨10, 0, 0, 2⟩ ⟨10, 0, 0, 1⟩ 80 4000 flags

def clientKey : ConnKey := ("10.0.0.1", 4000, "10.0.0.2", 80)

-- A second SYN puts an established connection back to new, and a SYN-ACK
-- without any SYN makes one established.
theorem diagram_not_followed :
    (¬ ∀ (localTime : Nat → String) (arrivals : List (Arrival Rat)) (arrival : Arrival Rat) (key : ConnKey),
      DocumentedChange (connEvent arrival.pkt key)
        (stateOf (expireStates (run localTime (.new "eth0" [] []) arrivals) arrival.now).tcpConnTable key)
        (stateOf (run localTime (.new "eth0" [] []) (arrivals ++ [arrival])).tcpConnTable key)) ∧
    ¬ ∀ (localTime : Nat → String) (arrivals : List (Arrival Rat)) (key : ConnKey),
      stateOf (run localTime (.new "eth0" [] []) arrivals).tcpConnTable key = some .established →
        .syn ∈ keyEvents key arrivals ∨ .syn ∈ keyEvents key.reverse arrivals := by
  constructor
  · intro documented
    have change := documented (fun _ => "") [⟨clientSegment 0x02, 1⟩, ⟨serverSegment 0x12, 1⟩]
      ⟨clientSegment 0x02, 2⟩ clientKey
    exact absurd change (by decide +kernel)
  · intro opened
    have syn := opened (fun _ => "") [⟨serverSegment 0x12, 1⟩] clientKey (by decide +kernel)
    exact absurd syn (by decide +kernel)

def IsReset (pkt : ParsedPacket) (key : ConnKey) : Prop :=
  ∃ tcp, pkt.transport = .tcp tcp ∧ hasFlag tcp tcpFlagRst = true ∧ hasFlag tcp tcpFlagSyn = false ∧
    connKey pkt tcp = key

def OnConnection (pkt : ParsedPacket) (key : ConnKey) : Prop :=
  ∃ tcp, pkt.transport = .tcp tcp ∧ (connKey pkt tcp = key ∨ connKey pkt tcp = key.reverse)

def Opens (pkt : ParsedPacket) (key : ConnKey) : Prop :=
  ∃ tcp, pkt.transport = .tcp tcp ∧ hasFlag tcp tcpFlagSyn = true ∧
    (connKey pkt tcp = key ∨ connKey pkt tcp = key.reverse)

theorem opens_reverse (pkt : ParsedPacket) (key : ConnKey) (opens : Opens pkt key.reverse) : Opens pkt key := by
  obtain ⟨tcp, transport, syn, either⟩ := opens
  exact ⟨tcp, transport, syn, either.symm⟩

theorem event_without_opening (pkt : ParsedPacket) (key : ConnKey) (closed : ¬ Opens pkt key) :
    connEvent pkt key = .teardown ∨ connEvent pkt key = .other := by
  unfold connEvent
  cases transport : pkt.transport with
  | tcp tcp =>
      dsimp only
      by_cases syn : isFreshSyn tcp
      · rw [if_pos syn]
        by_cases own : key = connKey pkt tcp
        · rw [isFreshSyn, Bool.and_eq_true] at syn
          exact absurd ⟨tcp, transport, syn.1, .inl own.symm⟩ closed
        · rw [if_neg own]
          exact .inr rfl
      · rw [if_neg syn]
        by_cases synAck : (hasFlag tcp tcpFlagSyn && hasFlag tcp tcpFlagAck) = true
        · rw [if_pos synAck]
          rw [Bool.and_eq_true] at synAck
          by_cases either : key = connKey pkt tcp ∨ key = revConnKey pkt tcp
          · have onConnection : connKey pkt tcp = key ∨ connKey pkt tcp = key.reverse := by
              cases either with
              | inl own => exact .inl own.symm
              | inr reversed =>
                  rw [reversed]
                  exact .inr rfl
            exact absurd ⟨tcp, transport, synAck.1, onConnection⟩ closed
          · rw [if_neg either]
            exact .inr rfl
        · rw [if_neg synAck]
          split
          · split
            · exact .inl rfl
            · exact .inr rfl
          · exact .inr rfl
  | udp udp => exact .inr rfl
  | icmp icmp => exact .inr rfl
  | none => exact .inr rfl

theorem next_not_established (event : ConnEvent) (state : Option TcpConnState)
    (closing : event = .teardown ∨ event = .other) (notBefore : state ≠ some .established) :
    event.next state ≠ some .established := by
  cases closing with
  | inl teardown =>
      rw [teardown]
      cases state with
      | none => exact notBefore
      | some old => simp [ConnEvent.next]
  | inr other =>
      rw [other]
      exact notBefore

theorem reset_event (pkt : ParsedPacket) (key other : ConnKey) (reset : IsReset pkt key) :
    connEvent pkt other = if other = key then .teardown else .other := by
  obtain ⟨tcp, transport, rst, noSyn, own⟩ := reset
  have notFresh : ¬ isFreshSyn tcp = true := by simp [isFreshSyn, noSyn]
  unfold connEvent
  rw [transport]
  dsimp only
  rw [if_neg notFresh, noSyn, rst, Bool.false_and, Bool.or_true, if_neg (by simp), if_pos rfl, own]

theorem reset_track (table : ConnTable τ) (pkt : ParsedPacket) (now : τ) (key : ConnKey) (reset : IsReset pkt key)
    (other : ConnKey) (different : other ≠ key) : (trackConnection table pkt now).lookup other = table.lookup other := by
  obtain ⟨tcp, transport, rst, noSyn, own⟩ := reset
  have notFresh : ¬ isFreshSyn tcp = true := by simp [isFreshSyn, noSyn]
  rw [trackConnection, transport]
  dsimp only
  rw [if_neg notFresh, noSyn, rst, Bool.false_and, Bool.or_true, if_neg (by simp), if_pos rfl, own,
    HashMap.lookup_modify, if_neg different]

def answerTcp (tcp : TcpInfo) : TcpInfo :=
  { tcp with srcPort := tcp.dstPort, dstPort := tcp.srcPort, flags := tcpFlagAck }

theorem answer_flags (tcp : TcpInfo) :
    hasFlag (answerTcp tcp) tcpFlagSyn = false ∧ hasFlag (answerTcp tcp) tcpFlagFin = false ∧
      hasFlag (answerTcp tcp) tcpFlagRst = false := by
  have flags : tcpFlagAck &&& tcpFlagSyn = 0 ∧ tcpFlagAck &&& tcpFlagFin = 0 ∧ tcpFlagAck &&& tcpFlagRst = 0 := by
    decide
  simp only [hasFlag, answerTcp, flags]
  decide

def answerTo (pkt : ParsedPacket) (tcp : TcpInfo) : ParsedPacket :=
  { pkt with
    srcMac := pkt.dstMac
    dstMac := pkt.srcMac
    network := match pkt.network with
      | .ipv4 ip => .ipv4 { ip with srcIp := ip.dstIp, dstIp := ip.srcIp }
      | .ipv6 ip => .ipv6 { ip with srcIp := ip.dstIp, dstIp := ip.srcIp }
      | .arp arp => .arp { arp with senderIp := arp.targetIp, targetIp := arp.senderIp }
      | .none => .none
    transport := .tcp (answerTcp tcp) }

theorem answer_key (pkt : ParsedPacket) (tcp : TcpInfo) :
    connKey (answerTo pkt tcp) (answerTcp tcp) = revConnKey pkt tcp := by
  unfold connKey revConnKey resolveSrcIp resolveDstIp answerTo
  cases pkt.network with
  | ipv4 ip => rfl
  | ipv6 ip => rfl
  | arp arp => rfl
  | none => rfl

theorem answer_event (pkt : ParsedPacket) (tcp : TcpInfo) (key : ConnKey) :
    connEvent (answerTo pkt tcp) key = .other := by
  obtain ⟨noSyn, noFin, noRst⟩ := answer_flags tcp
  have notFresh : ¬ isFreshSyn (answerTcp tcp) = true := by simp [isFreshSyn, noSyn]
  unfold connEvent answerTo
  dsimp only
  rw [if_neg notFresh, noSyn, noFin, noRst, Bool.false_and, Bool.or_false, if_neg (by simp), if_neg (by simp)]

section Resets

variable [Sub τ] [LT τ] [DecidableLT τ] [Timestamp τ]

-- The packet passes the flow.state = "established" condition of matches_rule.
def SatisfiesEstablished (engine : StatefulDetectionEngine τ) (arrival : Arrival τ) : Prop :=
  ∃ rule : EvaluatedRule τ, rule.context.flow.state = "established" ∧
    flowStateMatches rule arrival.pkt (turnTable engine arrival.pkt arrival.now) = true

theorem satisfies_established_iff (engine : StatefulDetectionEngine τ) (arrival : Arrival τ) (tcp : TcpInfo)
    (transport : arrival.pkt.transport = .tcp tcp) :
    SatisfiesEstablished engine arrival ↔
      stateOf (turnTable engine arrival.pkt arrival.now) (connKey arrival.pkt tcp) = some .established := by
  rw [stateOf]
  constructor
  · intro satisfied
    obtain ⟨rule, state, passes⟩ := satisfied
    rw [flowStateMatches, state] at passes
    simp only [transport] at passes
    cases entry : (turnTable engine arrival.pkt arrival.now).lookup (connKey arrival.pkt tcp) with
    | none =>
        rw [entry] at passes
        cases passes
    | some found =>
        obtain ⟨old, seen⟩ := found
        rw [entry] at passes
        cases old with
        | established => rfl
        | new => cases passes
        | closing => cases passes
  · intro established
    obtain ⟨⟨old, seen⟩, entry, same⟩ := Option.map_eq_some_iff.mp established
    dsimp only at same
    subst same
    refine ⟨establishedRule none, rfl, ?_⟩
    rw [flowStateMatches]
    simp only [establishedRule, transport, entry]

theorem step_not_established (localTime : Nat → String) (engine : StatefulDetectionEngine τ) (arrival : Arrival τ)
    (key : ConnKey) (closed : ¬ Opens arrival.pkt key)
    (notBefore : stateOf engine.tcpConnTable key ≠ some .established) :
    stateOf (step localTime engine arrival).tcpConnTable key ≠ some .established := by
  rw [step_state]
  apply next_not_established _ _ (event_without_opening arrival.pkt key closed)
  cases expire_state engine arrival.now key with
  | inl forgotten => simp [forgotten]
  | inr kept =>
      rw [kept]
      exact notBefore

theorem run_not_established (localTime : Nat → String) (engine : StatefulDetectionEngine τ)
    (arrivals : List (Arrival τ)) (key : ConnKey) (closed : ∀ arrival ∈ arrivals, ¬ Opens arrival.pkt key)
    (notBefore : stateOf engine.tcpConnTable key ≠ some .established) :
    stateOf (run localTime engine arrivals).tcpConnTable key ≠ some .established := by
  induction arrivals generalizing engine with
  | nil => exact notBefore
  | cons arrival rest ih =>
      have next := step_not_established localTime engine arrival key (closed arrival (by simp)) notBefore
      exact ih (step localTime engine arrival) (fun later member => closed later (by simp [member])) next

theorem expire_twice (engine next : StatefulDetectionEngine τ) (now : τ) (key : ConnKey) (entry : TcpConnState × τ)
    (sameClock : next.lastCleanupTime = (expireStates engine now).lastCleanupTime)
    (before : (expireStates engine now).tcpConnTable.lookup key = some entry)
    (after : next.tcpConnTable.lookup key = some entry) :
    (expireStates next now).tcpConnTable.lookup key = some entry := by
  by_cases due : cleanupDue engine now = true
  · rw [expireStates, if_pos due] at before
    have kept := (HashMap.lookup_retain_some _ _ key entry before).2
    rw [expireStates]
    by_cases again : cleanupDue next now = true
    · rw [if_pos again]
      exact HashMap.lookup_retain_kept _ _ key entry after kept
    · rw [if_neg again]
      exact after
  · rw [expireStates, if_neg due] at sameClock
    have notAgain : ¬ cleanupDue next now = true := by
      rw [cleanupDue, sameClock]
      exact due
    rw [expireStates, if_neg notAgain]
    exact after

def StaysReset (localTime : Nat → String) (engine : StatefulDetectionEngine τ) (key : ConnKey) : Prop :=
  ∀ middle later, (∀ arrival ∈ middle, ¬ Opens arrival.pkt key) → ¬ Opens later.pkt key →
    OnConnection later.pkt key → ¬ SatisfiesEstablished (run localTime engine middle) later

theorem stays_reset (localTime : Nat → String) (engine : StatefulDetectionEngine τ) (key : ConnKey)
    (own : stateOf engine.tcpConnTable key ≠ some .established)
    (reversed : stateOf engine.tcpConnTable key.reverse ≠ some .established) : StaysReset localTime engine key := by
  intro middle later closed lastClosed onConnection satisfied
  obtain ⟨tcp, transport, either⟩ := onConnection
  rw [satisfies_established_iff _ later tcp transport] at satisfied
  have ownState := step_not_established localTime _ later key lastClosed
    (run_not_established localTime engine middle key closed own)
  have reverseState := step_not_established localTime _ later key.reverse
    (fun opens => lastClosed (opens_reverse _ _ opens))
    (run_not_established localTime engine middle key.reverse
      (fun arrival member opens => closed arrival member (opens_reverse _ _ opens)) reversed)
  cases either with
  | inl same =>
      rw [same] at satisfied
      exact ownState satisfied
  | inr same =>
      rw [same] at satisfied
      exact reverseState satisfied

-- The opposite direction's entry decides: if it is established, the other end's
-- next segment passes for one of an established connection.
theorem reset_answered (localTime : Nat → String) (engine : StatefulDetectionEngine τ) (reset : Arrival τ)
    (key : ConnKey) (isReset : IsReset reset.pkt key) (twoWay : key.reverse ≠ key)
    (established : stateOf (expireStates engine reset.now).tcpConnTable key.reverse = some .established) :
    ¬ StaysReset localTime (step localTime engine reset) key := by
  intro stays
  have event := reset_event reset.pkt key key.reverse isReset
  rw [if_neg twoWay] at event
  obtain ⟨tcp, transport, _, _, own⟩ := id isReset
  obtain ⟨entry, found, isEstablished⟩ := Option.map_eq_some_iff.mp established
  have answerOwn : connKey (answerTo reset.pkt tcp) (answerTcp tcp) = key.reverse := by
    rw [answer_key, ← own]
    rfl
  have notOpening : ¬ Opens (answerTo reset.pkt tcp) key := by
    intro opens
    obtain ⟨other, same, syn, _⟩ := opens
    cases same
    exact absurd syn (by simp [(answer_flags tcp).1])
  apply stays [] ⟨answerTo reset.pkt tcp, reset.now⟩ (by simp) notOpening ⟨_, rfl, .inr answerOwn⟩
  rw [satisfies_established_iff _ _ _ rfl, answerOwn]
  dsimp only
  have unchanged : (step localTime engine reset).tcpConnTable.lookup key.reverse = some entry := by
    have tracked := reset_track (expireStates engine reset.now).tcpConnTable reset.pkt reset.now key isReset
      key.reverse twoWay
    exact tracked.trans found
  have kept := expire_twice engine (step localTime engine reset) reset.now key.reverse entry rfl found unchanged
  rw [turnTable, track_state, answer_event, stateOf, run, List.foldl_nil, kept, ← isEstablished]
  rfl

-- A reset ends an established connection exactly when the opposite direction was
-- not established: only the sender's own entry is put to closing.
theorem reset_ends_connection_iff (localTime : Nat → String) (iface : String) (selfIps : List IpAddr)
    (rulesLoaded : List (RuleConfig τ)) (before : List (Arrival τ)) (reset : Arrival τ) (key : ConnKey)
    (isReset : IsReset reset.pkt key) :
    StaysReset localTime (run localTime (.new iface selfIps rulesLoaded) (before ++ [reset])) key ↔
      key.reverse = key ∨
      stateOf (expireStates (run localTime (.new iface selfIps rulesLoaded) before) reset.now).tcpConnTable
        key.reverse ≠ some .established := by
  rw [run_concat]
  generalize run localTime (.new iface selfIps rulesLoaded) before = engine
  have own : stateOf (step localTime engine reset).tcpConnTable key ≠ some .established := by
    rw [step_state, reset_event reset.pkt key key isReset, if_pos rfl]
    cases stateOf (expireStates engine reset.now).tcpConnTable key with
    | none => simp [ConnEvent.next]
    | some old => simp [ConnEvent.next]
  constructor
  · intro stays
    by_cases twoWay : key.reverse = key
    · exact .inl twoWay
    · refine .inr ?_
      intro established
      exact reset_answered localTime engine reset key isReset twoWay established stays
  · intro condition
    by_cases twoWay : key.reverse = key
    · exact stays_reset localTime _ key own (by rw [twoWay]; exact own)
    · refine stays_reset localTime _ key own ?_
      rw [step_state, reset_event reset.pkt key key.reverse isReset, if_neg twoWay]
      exact condition.resolve_left twoWay

end Resets

theorem refused_connection_stays_reset :
    StaysReset (fun _ => "") (run (fun _ => "") (.new "eth0" [] [])
      ([⟨clientSegment 0x02, (1 : Rat)⟩] ++ [⟨serverSegment 0x14, 2⟩])) clientKey.reverse :=
  (reset_ends_connection_iff (fun _ => "") "eth0" [] [] [⟨clientSegment 0x02, 1⟩] ⟨serverSegment 0x14, 2⟩
    clientKey.reverse ⟨_, rfl, by decide, by decide, by decide +kernel⟩).mpr (.inr (by decide +kernel))

theorem reset_leaves_server_established :
    ¬ ∀ (localTime : Nat → String) (before : List (Arrival Rat)) (reset : Arrival Rat) (key : ConnKey),
      IsReset reset.pkt key → StaysReset localTime (run localTime (.new "eth0" [] []) (before ++ [reset])) key := by
  intro ends
  have stays := ends (fun _ => "") [⟨serverSegment 0x12, 1⟩] ⟨clientSegment 0x04, 2⟩ clientKey
    ⟨_, rfl, by decide, by decide, by decide +kernel⟩
  have plain : ¬ Opens (serverSegment 0x10) clientKey := by
    intro opens
    obtain ⟨tcp, transport, syn, _⟩ := opens
    cases transport
    exact absurd syn (by decide)
  apply stays [] ⟨serverSegment 0x10, 3⟩ (by simp) plain ⟨_, rfl, .inr (by decide +kernel)⟩
  rw [satisfies_established_iff _ _ _ rfl]
  decide +kernel

end NetworkIds.Engine
