import NetworkIds.Capture
import NetworkIds.Engine.ShippedRules

set_option autoImplicit false

namespace NetworkIds.Capture

open Checked Grouping NetworkIds.Engine NetworkIds.Locality NetworkIds.Parser

section Alerts

variable {τ : Type} [Sub τ] [LT τ] [DecidableLT τ] [Timestamp τ] (localTime : Nat → String) (link : LinkType)

structure CaptureState (τ : Type) where
  buffer : LocalityBuffer
  engine : StatefulDetectionEngine τ
  sent : List IdsmMessage

def captureNext (state : CaptureState τ) (block : BlockGuard) : Checked (CaptureState τ) := do
  let (buffer, inspection) ← captureBlock localTime link state.buffer state.engine block
  return ⟨buffer, inspection.engine, state.sent ++ inspection.alerts⟩

def captureAll (state : CaptureState τ) (blocks : List BlockGuard) : Checked (CaptureState τ) :=
  blocks.foldlM (captureNext localTime link) state

-- The frames of a block as the engine gets them, and as they lie in the block.
def handedFrames (block : BlockGuard) : List Frame :=
  groupByKey (frameKey link) ((block.packets.take maxBatchSize).map (RawPacket.frame block.memory))

def blockFrames (block : BlockGuard) : List Frame := block.packets.map (RawPacket.frame block.memory)

def handedArrivals (blocks : List BlockGuard) : List (Arrival τ) :=
  (blocks.flatMap (handedFrames link)).map (arrivalOf link)

theorem handed_frames_perm (blocks : List BlockGuard)
    (small : ∀ block ∈ blocks, block.packets.length ≤ maxBatchSize) :
    (blocks.flatMap (handedFrames link)).Perm (blocks.flatMap blockFrames) := by
  induction blocks with
  | nil => exact List.Perm.refl _
  | cons block rest ih =>
      have whole : block.packets.take maxBatchSize = block.packets := List.take_of_length_le (small block List.mem_cons_self)
      rw [List.flatMap_cons, List.flatMap_cons]
      apply List.Perm.append
      · rw [handedFrames, whole]
        exact group_by_key_perm _ _
      · exact ih fun other member => small other (List.mem_cons_of_mem _ member)

theorem capture_all_ok (state : CaptureState τ) (refs : List PacketRef) (ports : List UInt16)
    (rep : Represents state.buffer refs ports) (blocks : List BlockGuard) :
    Safe (captureAll localTime link state blocks) (fun after => (∃ refs ports, Represents after.buffer refs ports) ∧
      after.engine = Engine.run localTime state.engine (handedArrivals link blocks) ∧
      after.sent = state.sent ++ runAlerts localTime state.engine (handedArrivals link blocks)) := by
  induction blocks generalizing state refs ports with
  | nil => exact safe_ok ⟨⟨refs, ports, rep⟩, rfl, (List.append_nil _).symm⟩
  | cons block rest ih =>
      rw [captureAll, List.foldlM_cons, captureNext, bind_assoc]
      refine safe_bind (capture_block_safe localTime link state.buffer refs ports rep state.engine block) ?_
      rintro ⟨buffer, inspected⟩ ⟨⟨nextRefs, nextPorts, represented⟩, rfl⟩
      dsimp only
      rw [pure_eq_ok, ok_bind]
      refine safe_mono (ih _ nextRefs nextPorts represented) ?_
      rintro after ⟨also, engine, sent⟩
      have split : (handedArrivals link (block :: rest) : List (Arrival τ)) =
          (handedFrames link block).map (arrivalOf link) ++ handedArrivals link rest := by
        rw [handedArrivals, List.flatMap_cons, List.map_append]
        rfl
      refine ⟨also, ?_, ?_⟩
      · rw [engine, split, ← run_after]
        rfl
      · rw [sent, split, run_alerts_append, List.append_assoc]
        rfl

end Alerts

section Scan

def endpoints (pkt : ParsedPacket) : Option (IpAddr × IpAddr) :=
  match pkt.network with
  | .ipv4 ip => some (.v4 ip.srcIp, .v4 ip.dstIp)
  | .ipv6 ip => some (.v6 ip.srcIp, .v6 ip.dstIp)
  | .arp arp => some (.v4 arp.senderIp, .v4 arp.targetIp)
  | .none => none

theorem endpoints_resolved (pkt : ParsedPacket) (source target : IpAddr) (found : endpoints pkt = some (source, target)) :
    resolveSrcIp pkt = IpAddr.display source ∧ resolveDstIp pkt = IpAddr.display target := by
  rw [endpoints] at found
  rw [resolveSrcIp, resolveDstIp]
  cases network : pkt.network with
  | ipv4 ip =>
      rw [network] at found
      cases found
      exact ⟨rfl, rfl⟩
  | ipv6 ip =>
      rw [network] at found
      cases found
      exact ⟨rfl, rfl⟩
  | arp arp =>
      rw [network] at found
      cases found
      exact ⟨rfl, rfl⟩
  | none =>
      rw [network] at found
      cases found

-- The scans that the shipped rules look for.
inductive Scan where
  | tcp
  | udp
  | arp
deriving DecidableEq

def Scan.rule : Scan → RuleConfig Rat
  | .tcp => rule3
  | .udp => rule4
  | .arp => rule5

def Scan.limit : Scan → LimitConfig Rat
  | .tcp => ⟨"src_ip", 4, 3⟩
  | .udp => ⟨"src_ip", 15, 1⟩
  | .arp => ⟨"src_ip", 5, 3⟩

def Scan.kind (scan : Scan) (pkt : ParsedPacket) : Bool :=
  match scan with
  | .tcp => isFreshConnection pkt
  | .udp => isUdp pkt
  | .arp => isArp pkt

def Scan.probe (scan : Scan) (selfIps : List IpAddr) (source : IpAddr) (pkt : ParsedPacket) : Bool :=
  match endpoints pkt with
  | some (sender, target) => sender == source && selfIps.contains target && scan.kind pkt
  | none => false

def frameTime (frame : Frame) : Rat := Timestamp.wallClock frame.sec frame.nsec

-- The probes among some frames that lie in a period of the interval of the limit.
def Scan.probesFrom (scan : Scan) (selfIps : List IpAddr) (source : IpAddr) (link : LinkType) (since : Rat)
    (frames : List Frame) : Nat :=
  frames.countP fun frame => inPeriod since scan.limit.interval (frameTime frame) &&
    scan.probe selfIps source (decodePacket frame.data link none)

-- As many probes of one source as the limit allows at least, within its interval,
-- among any other frames of the same minute.
structure Scan.Among (scan : Scan) (selfIps : List IpAddr) (source : IpAddr) (link : LinkType)
    (frames : List Frame) : Prop where
  minute : ∀ first ∈ frames, ∀ last ∈ frames, frameTime last - frameTime first < 60
  probed : ∃ since, scan.limit.connections.toNat ≤ scan.probesFrom selfIps source link since frames

theorem Scan.Among.perm {scan : Scan} {selfIps : List IpAddr} {source : IpAddr} {link : LinkType}
    {frames other : List Frame} (among : scan.Among selfIps source link frames) (same : other.Perm frames) :
    scan.Among selfIps source link other where
  minute first inside last also := among.minute first (same.subset inside) last (same.subset also)
  probed := by
    obtain ⟨since, enough⟩ := among.probed
    refine ⟨since, ?_⟩
    rw [Scan.probesFrom, same.countP_eq]
    exact enough

theorem scan_limit (scan : Scan) : connRateLimit (evaluatedRule scan.rule) = some scan.limit := by
  cases scan with
  | tcp => exact scan_rule_limit 3 "TCP Port Scan" "tcp" "new" 4 3
  | udp => exact scan_rule_limit 4 "UDP Port Scan" "udp" "any" 15 1
  | arp => exact rule5_limit

theorem scan_tracking_key (scan : Scan) (pkt : ParsedPacket) :
    resolveTrackingKey (evaluatedRule scan.rule) pkt = resolveSrcIp pkt := by
  cases scan with
  | tcp => exact rule3_tracking_key pkt
  | udp => exact rule4_tracking_key pkt
  | arp => exact rule5_tracking_key pkt

theorem scan_matches (scan : Scan) (pkt : ParsedPacket) (iface : String) (selfIps : List IpAddr)
    (table : ConnTable Rat) :
    matchesRule (evaluatedRule scan.rule) pkt iface selfIps table =
      (isSelf (resolveDstIp pkt) selfIps && scan.kind pkt) := by
  cases scan with
  | tcp => exact rule3_matches pkt iface selfIps table
  | udp => exact rule4_matches pkt iface selfIps table
  | arp => exact rule5_matches pkt iface selfIps table

theorem scan_kind_new (scan : Scan) (data : Buffer) (link : LinkType)
    (ofKind : scan.kind (decodePacket data link none) = true) : isNewTcpConn (decodePacket data link none) = true := by
  have upper := decoded_upper_from_network data link none
  generalize decodePacket data link none = pkt at ofKind upper ⊢
  rw [isNewTcpConn]
  cases transport : pkt.transport with
  | tcp tcp =>
      cases scan with
      | tcp =>
          rw [Scan.kind, isFreshConnection, transport] at ofKind
          exact ofKind
      | udp =>
          rw [Scan.kind, isUdp, transport] at ofKind
          cases ofKind
      | arp =>
          rw [Scan.kind, isArp] at ofKind
          cases network : pkt.network with
          | arp info =>
              rw [UpperFromNetwork, network, transport] at upper
              cases upper
          | ipv4 ip => rw [network] at ofKind; cases ofKind
          | ipv6 ip => rw [network] at ofKind; cases ofKind
          | none => rw [network] at ofKind; cases ofKind
  | udp udp => rfl
  | icmp icmp => rfl
  | none => rfl

theorem probe_counts (scan : Scan) (engine : StatefulDetectionEngine Rat) (source : IpAddr) (link : LinkType)
    (frame : Frame) (probe : scan.probe engine.selfIps source (decodePacket frame.data link none) = true) :
    isNewTcpConn (arrivalOf link frame : Arrival Rat).pkt = true ∧
      countsFor engine (evaluatedRule scan.rule) (IpAddr.display source) (arrivalOf link frame) = true := by
  rw [Scan.probe] at probe
  split at probe
  case h_2 => cases probe
  case h_1 sender target found =>
    simp only [Bool.and_eq_true, beq_iff_eq] at probe
    obtain ⟨⟨rfl, self⟩, ofKind⟩ := probe
    obtain ⟨fromSource, toTarget⟩ := endpoints_resolved _ sender target found
    refine ⟨scan_kind_new scan frame.data link ofKind, ?_⟩
    rw [countsFor, matchesAt, scan_matches, scan_tracking_key]
    show (isSelf (resolveDstIp (decodePacket frame.data link none)) engine.selfIps &&
      scan.kind (decodePacket frame.data link none) &&
        resolveSrcIp (decodePacket frame.data link none) == IpAddr.display sender) = true
    rw [fromSource, toTarget, isSelf, parse_display, ofKind]
    dsimp only
    rw [self, beq_self_eq_true]
    rfl

theorem probes_are_connections (localTime : Nat → String) (scan : Scan) (engine : StatefulDetectionEngine Rat)
    (source : IpAddr) (link : LinkType) (since : Rat) (frames : List Frame) :
    scan.probesFrom engine.selfIps source link since frames ≤
      newConnections localTime (evaluatedRule scan.rule) (IpAddr.display source) since scan.limit.interval engine
        (frames.map (arrivalOf link)) := by
  induction frames using List.reverseRecOn with
  | nil => exact Nat.zero_le _
  | append_singleton frames frame ih =>
      rw [List.map_append, List.map_singleton, new_connections_concat, Scan.probesFrom, List.countP_append,
        List.countP_singleton]
      apply Nat.add_le_add ih
      by_cases chosen : (inPeriod since scan.limit.interval (frameTime frame) &&
          scan.probe engine.selfIps source (decodePacket frame.data link none)) = true
      · obtain ⟨period, probe⟩ := Bool.and_eq_true_iff.mp chosen
        have sameTime : inPeriod since scan.limit.interval (arrivalOf link frame : Arrival Rat).now = true := period
        have self := run_self_ips localTime engine (frames.map (arrivalOf link))
        rw [← self] at probe
        obtain ⟨isNew, counted⟩ := probe_counts scan _ source link frame probe
        rw [if_pos chosen, sameTime, isNew, counted]
        exact Nat.le_refl 1
      · rw [if_neg chosen]
        exact Nat.zero_le _

theorem silent_alerts (localTime : Nat → String) (rule : EvaluatedRule Rat) (key : String)
    (engine : StatefulDetectionEngine Rat) (arrivals : List (Arrival Rat))
    (unreported : reports rule.id key (runAlerts localTime engine arrivals) = []) :
    EveryStep localTime (Silent localTime rule key) engine arrivals := by
  rintro earlier arrival later rfl
  rw [run_alerts_append, runAlerts, reports, List.filterMap_append, List.filterMap_append] at unreported
  exact (List.append_eq_nil_iff.mp (List.append_eq_nil_iff.mp unreported).2).1

def startState (iface : String) (selfIps : List IpAddr) (rulesLoaded : List (RuleConfig Rat)) : CaptureState Rat where
  buffer := .new
  engine := .new iface selfIps rulesLoaded
  sent := []

theorem scan_detected (localTime : Nat → String) (link : LinkType) (iface : String) (selfIps : List IpAddr)
    (rulesLoaded : List (RuleConfig Rat)) (scan : Scan) (loaded : scan.rule ∈ rulesLoaded)
    (earlier : List (Arrival Rat)) (frames : List Frame) (source : IpAddr)
    (among : scan.Among selfIps source link frames) :
    reports scan.rule.id (IpAddr.display source) (runAlerts localTime
      (Engine.run localTime (.new iface selfIps rulesLoaded) earlier) (frames.map (arrivalOf link))) ≠ [] := by
  obtain ⟨minute, since, probed⟩ := among
  generalize reached : Engine.run localTime (.new iface selfIps rulesLoaded) earlier = engine
  have rules : engine.rules = (StatefulDetectionEngine.new iface selfIps rulesLoaded).rules := by
    rw [← reached]
    exact run_rules localTime _ _
  have self : engine.selfIps = selfIps := by
    rw [← reached]
    exact run_self_ips localTime _ _
  have enabled : scan.rule.enabled = true := by
    cases scan with
    | tcp => rfl
    | udp => rfl
    | arp => rfl
  obtain ⟨rulesBefore, rulesAfter, listed⟩ := List.append_of_mem
    (List.mem_map_of_mem (f := evaluatedRule) (List.mem_filter.mpr ⟨loaded, enabled⟩))
  have counted := probes_are_connections localTime scan engine source link since frames
  rw [self] at counted
  have near : Close 60 (frames.map (arrivalOf link)) := by
    intro first inside last member
    obtain ⟨firstFrame, firstMember, rfl⟩ := List.mem_map.mp inside
    obtain ⟨lastFrame, lastMember, rfl⟩ := List.mem_map.mp member
    exact minute firstFrame firstMember lastFrame lastMember
  have bounds : 1 ≤ scan.limit.connections.toNat ∧ scan.limit.interval ≤ 60 := by
    cases scan with
    | tcp => exact ⟨by decide, by norm_num [Scan.limit]⟩
    | udp => exact ⟨by decide, by norm_num [Scan.limit]⟩
    | arp => exact ⟨by decide, by norm_num [Scan.limit]⟩
  have detected := window_detected localTime engine rulesBefore rulesAfter (evaluatedRule scan.rule) scan.limit
    (IpAddr.display source) (rules.trans listed) (scan_limit scan) bounds.1 bounds.2 (frames.map (arrivalOf link)) near
    since (probed.trans counted)
  exact fun silent => detected (silent_alerts localTime _ _ _ _ silent)

-- A scan of the sensor that lies in some consecutive blocks is reported while these
-- blocks are processed, although the packets of a block reach the engine port by port.
theorem scan_in_blocks_reported (localTime : Nat → String) (link : LinkType) (iface : String) (selfIps : List IpAddr)
    (rulesLoaded : List (RuleConfig Rat)) (scan : Scan) (loaded : scan.rule ∈ rulesLoaded)
    (earlier recent : List BlockGuard) (small : ∀ block ∈ recent, block.packets.length ≤ maxBatchSize)
    (source : IpAddr) (among : scan.Among selfIps source link (recent.flatMap blockFrames)) :
    ∃ before after raised,
      captureAll localTime link (startState iface selfIps rulesLoaded) earlier = .ok before ∧
      captureAll localTime link (startState iface selfIps rulesLoaded) (earlier ++ recent) = .ok after ∧
      after.sent = before.sent ++ raised ∧ reports scan.rule.id (IpAddr.display source) raised ≠ [] := by
  obtain ⟨before, reached, ⟨refs, ports, rep⟩, engine, sent⟩ :=
    capture_all_ok localTime link (startState iface selfIps rulesLoaded) [] [] new_represents earlier
  obtain ⟨after, finished, _, _, also⟩ := capture_all_ok localTime link before refs ports rep recent
  have given := handed_frames_perm link recent small
  refine ⟨before, after, _, reached, ?_, also, ?_⟩
  · rw [captureAll, List.foldlM_append]
    exact (congrArg (fun state => state >>= fun state => captureAll localTime link state recent) reached).trans finished
  · rw [engine]
    exact scan_detected localTime link iface selfIps rulesLoaded scan loaded _ _ source (among.perm given)

end Scan

-- A frame with a SYN from 10.0.0.x to a port of 192.168.1.y.
def synBetween (source target port : UInt8) : Bytes :=
  [2, 0, 0, 0, 0, 1, 2, 0, 0, 0, 0, 2, 0x08, 0x00,
    0x45, 0, 0, 40, 0, 0, 0, 0, 64, 6, 0, 0, 10, 0, 0, source, 192, 168, 1, target,
    0x9C, 0x40, 0, port, 0, 0, 0, 0, 0, 0, 0, 0, 0x50, 0x02, 0, 0, 0, 0, 0, 0]

def synTo (port : UInt8) : Bytes := synBetween 9 1 port

-- A block with four of them within a second and a frame of another host much later,
-- each behind a header of 32 bytes.
def scanContents : List (UInt8 × Bytes) :=
  [(1, synTo 21), (1, synTo 22), (40, synBetween 7 7 22), (2, synTo 23), (2, synTo 80)]

def scanMemory : Memory := fun address =>
  (([0, 0, 0, 0, 0, 0, 0, 0, 0, 0, 0, 0, 5, 0, 0, 0, 24, 0, 0, 0, 0, 0, 0, 0] : Bytes) ++
    scanContents.flatMap fun frame =>
      [86, 0, 0, 0, frame.1, 0, 0, 0, 0, 0, 0, 0, 54, 0, 0, 0, 54, 0, 0, 0, 0, 0, 0, 0, 32, 0, 0, 0, 0, 0, 0, 0] ++
        frame.2).getD address 0

def scanBlock : BlockGuard := ⟨scanMemory, 0, 0⟩

theorem scan_block_reported : ∃ before after raised,
    captureAll (fun _ => "") .ethernet (startState "eth0" [.v4 ⟨192, 168, 1, 1⟩] rulesJson) [] = .ok before ∧
      captureAll (fun _ => "") .ethernet (startState "eth0" [.v4 ⟨192, 168, 1, 1⟩] rulesJson) ([] ++ [scanBlock]) =
        .ok after ∧
      after.sent = before.sent ++ raised ∧ reports 3 (IpAddr.display (.v4 ⟨10, 0, 0, 9⟩)) raised ≠ [] :=
  scan_in_blocks_reported (fun _ => "") .ethernet "eth0" [.v4 ⟨192, 168, 1, 1⟩] rulesJson .tcp
    (List.mem_cons_of_mem _ (List.mem_cons_of_mem _ List.mem_cons_self)) [] [scanBlock] (by decide +kernel)
    (.v4 ⟨10, 0, 0, 9⟩) ⟨by decide +kernel, 1, by decide +kernel⟩

end NetworkIds.Capture
