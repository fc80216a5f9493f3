import NetworkIds.Parser.Dns
import NetworkIds.Parser.Dhcp

set_option autoImplicit false

namespace NetworkIds.Parser

open Checked Endian

def parseAppLayer (srcPort dstPort : UInt16) (payload : Bytes) (pkt : ParsedPacket) :
    Checked ParsedPacket := do
  if srcPort = 53 ∨ dstPort = 53 then
    match ← parseDns payload with
    | some dns => return { pkt with app := .dns dns }
    | none => return pkt
  else if (srcPort = 67 ∧ dstPort = 68) ∨ (srcPort = 68 ∧ dstPort = 67) then
    match ← parseDhcp payload with
    | some dhcp => return { pkt with app := .dhcp dhcp }
    | none => return pkt
  else return pkt

def TcpOptions.default : TcpOptions := ⟨none, none, false, [], none⟩

def sackBlockLoop (blockData : Bytes) (fuel i : Nat) (blocks : List (UInt32 × UInt32)) :
    Checked (List (UInt32 × UInt32)) :=
  match fuel with
  | 0 => throw .outOfFuel
  | fuel + 1 => do
      if (← add i 8) ≤ blockData.length then
        let left := u32FromBe (← index blockData i) (← indexAdd blockData i 1)
          (← indexAdd blockData i 2) (← indexAdd blockData i 3)
        let right := u32FromBe (← indexAdd blockData i 4) (← indexAdd blockData i 5)
          (← indexAdd blockData i 6) (← indexAdd blockData i 7)
        sackBlockLoop blockData fuel (← add i 8) (blocks ++ [(left, right)])
      else return blocks

-- The match on kind, for the kinds that have a length byte.
def applyTcpOption (kind : UInt8) (data : Bytes) (opts : TcpOptions) : Checked TcpOptions := do
  match kind with
  | 2 =>
      if data.length ≥ 4 then
        return { opts with mss := some (u16FromBe (← index data 2) (← index data 3)) }
      else return opts
  | 3 =>
      if data.length ≥ 3 then return { opts with windowScale := some (← index data 2) }
      else return opts
  | 4 => return { opts with sackPermitted := true }
  | 5 =>
      if data.length ≥ 2 then
        let len := (← index data 1).toNat
        if len ≥ 2 ∧ data.length ≥ len then
          let blockData ← slice data 2 len
          return { opts with sackBlocks := ← sackBlockLoop blockData (blockData.length + 1) 0 opts.sackBlocks }
        else return opts
      else return opts
  | 8 =>
      if data.length ≥ 10 then
        let val := u32FromBe (← index data 2) (← index data 3) (← index data 4) (← index data 5)
        let echo := u32FromBe (← index data 6) (← index data 7) (← index data 8) (← index data 9)
        return { opts with timestamp := some (val, echo) }
      else return opts
  | _ => return opts

def tcpOptionLoop (fuel : Nat) (data : Bytes) (opts : TcpOptions) : Checked TcpOptions :=
  match fuel with
  | 0 => throw .outOfFuel
  | fuel + 1 => do
      if data.isEmpty then return opts
      else
        let kind ← index data 0
        if kind = 0 then return opts
        else if kind = 1 then tcpOptionLoop fuel (← sliceFrom data 1) opts
        else
          let opts ← applyTcpOption kind data opts
          if data.length < 2 then return opts
          else
            let len := (← index data 1).toNat
            if len < 2 ∨ len > data.length then return opts
            else tcpOptionLoop fuel (← sliceFrom data len) opts

def parseTcpOptions (data : Bytes) : Checked TcpOptions :=
  tcpOptionLoop (data.length + 1) data TcpOptions.default

def parseTcp (data : Bytes) (pkt : ParsedPacket) : Checked ParsedPacket := do
  if data.length < 20 then return pkt.markMalformed
  else
    let srcPort := u16FromBe (← index data 0) (← index data 1)
    let dstPort := u16FromBe (← index data 2) (← index data 3)
    let seq := u32FromBe (← index data 4) (← index data 5) (← index data 6) (← index data 7)
    let ack := u32FromBe (← index data 8) (← index data 9) (← index data 10) (← index data 11)
    let dataOffsetByte ← index data 12
    let dataOffset := (dataOffsetByte >>> 4).toNat
    let reserved := (dataOffsetByte &&& 0x0E) >>> 1
    let flags := u16FromBe (dataOffsetByte &&& 0x01) (← index data 13)
    let windowSize := u16FromBe (← index data 14) (← index data 15)
    let checksum := u16FromBe (← index data 16) (← index data 17)
    let urgentPointer := u16FromBe (← index data 18) (← index data 19)
    let headerEnd ← mul dataOffset 4
    if dataOffset < 5 ∨ headerEnd > data.length then return pkt.markMalformed
    else
      let options ← parseTcpOptions (← slice data 20 headerEnd)
      let payload ← sliceFrom data headerEnd
      parseAppLayer srcPort dstPort payload { pkt with transport := .tcp {
        srcPort := srcPort
        dstPort := dstPort
        seq := seq
        ack := ack
        dataOffset := UInt8.ofNat dataOffset
        reserved := reserved
        flags := flags
        windowSize := windowSize
        checksum := checksum
        urgentPointer := urgentPointer
        options := options
        payload := payload } }

def parseUdp (data : Bytes) (pkt : ParsedPacket) : Checked ParsedPacket := do
  if data.length < 8 then return pkt.markMalformed
  else
    let srcPort := u16FromBe (← index data 0) (← index data 1)
    let dstPort := u16FromBe (← index data 2) (← index data 3)
    let length := u16FromBe (← index data 4) (← index data 5)
    let checksum := u16FromBe (← index data 6) (← index data 7)
    let len := length.toNat
    if len < 8 ∨ len > data.length then return pkt.markMalformed
    else
      let payload ← slice data 8 len
      parseAppLayer srcPort dstPort payload { pkt with transport := .udp {
        srcPort := srcPort
        dstPort := dstPort
        length := length
        checksum := checksum
        payload := payload } }

structure IcmpDetail where
  identifier : Option UInt16
  sequenceNumber : Option UInt16
  mtu : Option UInt16
  embeddedHeader : Option Bytes

def IcmpDetail.empty : IcmpDetail := ⟨none, none, none, none⟩

def icmpEcho (data : Bytes) : Checked IcmpDetail := do
  if data.length ≥ 8 then
    return { IcmpDetail.empty with
      identifier := some (u16FromBe (← index data 4) (← index data 5))
      sequenceNumber := some (u16FromBe (← index data 6) (← index data 7)) }
  else return IcmpDetail.empty

def icmpMtu (data : Bytes) (present : Bool) : Checked (Option UInt16) := do
  if present ∧ data.length ≥ 8 then return some (u16FromBe (← index data 6) (← index data 7))
  else return none

def icmpEmbedded (data : Bytes) : Checked (Option Bytes) := do
  if data.length > 8 then return some (← slice data 8 (min data.length (8 + 28)))
  else return none

def icmpDetail (icmpType icmpCode : UInt8) (data : Bytes) : Checked IcmpDetail := do
  match icmpType with
  | 0 | 8 | 128 | 129 => icmpEcho data
  | 3 =>
      return { IcmpDetail.empty with
        mtu := ← icmpMtu data (icmpCode == 4)
        embeddedHeader := ← icmpEmbedded data }
  | 11 => return { IcmpDetail.empty with embeddedHeader := ← icmpEmbedded data }
  | 2 => return { IcmpDetail.empty with mtu := ← icmpMtu data true }
  | _ => return IcmpDetail.empty

def icmpPayload (data : Bytes) : Checked Bytes :=
  if data.length > 4 then sliceFrom data 4 else return []

def parseIcmp (data : Bytes) (pkt : ParsedPacket) : Checked ParsedPacket := do
  if data.length < 4 then return pkt.markMalformed
  else
    let icmpType ← index data 0
    let icmpCode ← index data 1
    let checksum := u16FromBe (← index data 2) (← index data 3)
    let detail ← icmpDetail icmpType icmpCode data
    let payload ← icmpPayload data
    return { pkt with transport := .icmp {
      icmpType := icmpType
      icmpCode := icmpCode
      checksum := checksum
      identifier := detail.identifier
      sequenceNumber := detail.sequenceNumber
      mtu := detail.mtu
      embeddedHeader := detail.embeddedHeader
      payload := payload } }

def parseTransport (proto : UInt8) (data : Bytes) (pkt : ParsedPacket) : Checked ParsedPacket :=
  match proto with
  | 6 => parseTcp data pkt
  | 17 => parseUdp data pkt
  | 1 | 58 => parseIcmp data pkt
  | _ => return pkt

def AppPorts (srcPort dstPort : UInt16) : AppLayer → Prop
  | .dns _ => srcPort = 53 ∨ dstPort = 53
  | .dhcp _ => (srcPort = 67 ∧ dstPort = 68) ∨ (srcPort = 68 ∧ dstPort = 67)
  | .eapol _ => False
  | .none => True

def TransportCoherent (proto : UInt8) (data : Bytes) (transport : TransportLayer) (app : AppLayer) : Prop :=
  match transport with
  | .tcp info => proto = 6 ∧ info.payload <:+: data ∧ AppPorts info.srcPort info.dstPort app
  | .udp info => proto = 17 ∧ info.payload <:+: data ∧ AppPorts info.srcPort info.dstPort app
  | .icmp info => (proto = 1 ∨ proto = 58) ∧ info.payload <:+: data ∧ app = .none
  | .none => app = .none

def ParsedPacket.UpperEmpty (pkt : ParsedPacket) : Prop := pkt.transport = .none ∧ pkt.app = .none

-- The frame condition of the transport parsers: they write no field but these three.
def TransportResult (proto : UInt8) (data : Bytes) (pkt result : ParsedPacket) : Prop :=
  ∃ malformed transport app,
    result = { pkt with malformed := malformed, transport := transport, app := app } ∧
    TransportCoherent proto data transport app

theorem transport_result_malformed (proto : UInt8) (data : Bytes) (pkt : ParsedPacket)
    (empty : pkt.UpperEmpty) : TransportResult proto data pkt pkt.markMalformed := by
  obtain ⟨noTransport, noApp⟩ := empty
  refine ⟨true, .none, .none, ?_, rfl⟩
  rw [← noTransport, ← noApp]
  rfl

theorem transport_result_unchanged (proto : UInt8) (data : Bytes) (pkt : ParsedPacket)
    (empty : pkt.UpperEmpty) : TransportResult proto data pkt pkt := by
  obtain ⟨noTransport, noApp⟩ := empty
  refine ⟨pkt.malformed, .none, .none, ?_, rfl⟩
  rw [← noTransport, ← noApp]

theorem app_layer_safe (srcPort dstPort : UInt16) (payload : Bytes) (pkt : ParsedPacket)
    (fits : payload.length ≤ isizeMax) (noApp : pkt.app = .none) :
    Safe (parseAppLayer srcPort dstPort payload pkt)
      (fun result => ∃ app, result = { pkt with app := app } ∧ AppPorts srcPort dstPort app) := by
  have unchanged : ∃ app, pkt = { pkt with app := app } ∧ AppPorts srcPort dstPort app :=
    ⟨.none, by rw [← noApp], trivial⟩
  rw [parseAppLayer]
  split
  · rename_i dnsPort
    refine safe_bind (dns_safe payload fits) ?_
    rintro (_ | dns) -
    · exact safe_ok unchanged
    · exact safe_ok ⟨.dns dns, rfl, dnsPort⟩
  · split
    · rename_i dhcpPorts
      refine safe_bind (dhcp_safe payload fits) ?_
      rintro (_ | dhcp) -
      · exact safe_ok unchanged
      · exact safe_ok ⟨.dhcp dhcp, rfl, dhcpPorts⟩
    · exact safe_ok unchanged

theorem sack_block_loop_safe (blockData : Bytes) (fits : blockData.length ≤ isizeMax) (fuel i : Nat)
    (blocks : List (UInt32 × UInt32)) (inside : i ≤ blockData.length)
    (enough : blockData.length < i + fuel) : Safe (sackBlockLoop blockData fuel i blocks) (fun _ => True) := by
  have room := usize_room fits 8 (by omega)
  induction fuel generalizing i blocks with
  | zero => omega
  | succ fuel ih =>
      rw [sackBlockLoop]
      simp (disch := omega) only [add_ok, ok_bind]
      by_cases present : i + 8 ≤ blockData.length
      · simp (disch := omega) only [if_pos present, index_getD, index_add_getD, ok_bind]
        exact ih _ _ (by omega) (by omega)
      · rw [if_neg present]
        exact safe_ok trivial

theorem apply_tcp_option_safe (kind : UInt8) (data : Bytes) (opts : TcpOptions)
    (fits : data.length ≤ isizeMax) : Safe (applyTcpOption kind data opts) (fun _ => True) := by
  unfold applyTcpOption
  split
  case h_4 =>
    split
    · simp (disch := omega) only [index_getD, ok_bind]
      split
      · rename_i valid
        have length := slice_length _ 2 _ valid.2
        simp (disch := omega) only [slice_ok, ok_bind]
        refine safe_bind (sack_block_loop_safe _ (by omega) _ _ _ (by omega) (by omega)) ?_
        intro blocks _
        exact safe_ok trivial
      · exact safe_ok trivial
    · exact safe_ok trivial
  all_goals
    first
    | exact safe_ok trivial
    | split
      · simp (disch := omega) only [index_getD, ok_bind]
        exact safe_ok trivial
      · exact safe_ok trivial

theorem tcp_option_loop_safe (fuel : Nat) (data : Bytes) (opts : TcpOptions)
    (fits : data.length ≤ isizeMax) (enough : data.length < fuel) :
    Safe (tcpOptionLoop fuel data opts) (fun _ => True) := by
  induction fuel generalizing data opts with
  | zero => omega
  | succ fuel ih =>
      rw [tcpOptionLoop]
      split
      · exact safe_ok trivial
      · rename_i notEmpty
        have positive : 0 < data.length := List.length_pos_iff.mpr (by simpa using notEmpty)
        simp (disch := omega) only [index_getD, slice_from_ok, ok_bind]
        split
        · exact safe_ok trivial
        · split
          · exact ih _ _ (by simp; omega) (by simp; omega)
          · refine safe_bind (apply_tcp_option_safe _ data opts fits) ?_
            intro next _
            split
            · exact safe_ok trivial
            · simp (disch := omega) only [index_getD, ok_bind]
              split
              · exact safe_ok trivial
              · simp (disch := omega) only [slice_from_ok, ok_bind]
                exact ih _ _ (by rw [List.length_drop]; omega) (by rw [List.length_drop]; omega)

theorem tcp_options_safe (data : Bytes) (fits : data.length ≤ isizeMax) :
    Safe (parseTcpOptions data) (fun _ => True) :=
  tcp_option_loop_safe _ data _ fits (by omega)

def TcpHeader (data : Bytes) : Prop :=
  20 ≤ data.length ∧ 5 ≤ (data.getD 12 0 >>> 4).toNat ∧ (data.getD 12 0 >>> 4).toNat * 4 ≤ data.length

structure TcpRead (data : Bytes) (tcp : TcpInfo) : Prop where
  header : TcpHeader data
  srcPort : tcp.srcPort = u16FromBe (data.getD 0 0) (data.getD 1 0)
  dstPort : tcp.dstPort = u16FromBe (data.getD 2 0) (data.getD 3 0)
  payload : tcp.payload <:+: data

-- What holds of a malformed packet and of every result of parse_app_layer on a
-- TCP payload holds of the result.
theorem tcp_rule (data : Bytes) (pkt : ParsedPacket) (fits : data.length ≤ isizeMax) (post : ParsedPacket → Prop)
    (malformed : ¬TcpHeader data → post pkt.markMalformed)
    (decoded : ∀ tcp, TcpRead data tcp →
      Safe (parseAppLayer tcp.srcPort tcp.dstPort tcp.payload { pkt with transport := .tcp tcp }) post) :
    Safe (parseTcp data pkt) post := by
  rw [parseTcp]
  split
  · exact safe_ok (malformed (by unfold TcpHeader; omega))
  · have offsetBound := (data.getD 12 0 >>> 4).toNat_lt
    have room : (data.getD 12 0 >>> 4).toNat * 4 ≤ usizeMax := usize_small (by omega)
    simp (disch := omega) only [index_getD, mul_ok, ok_bind]
    split
    · exact safe_ok (malformed (by unfold TcpHeader; omega))
    · simp (disch := omega) only [slice_ok, slice_from_ok, ok_bind]
      have length := slice_length data 20 ((data.getD 12 0 >>> 4).toNat * 4) (by omega)
      refine safe_bind (tcp_options_safe _ (by omega)) ?_
      intro options _
      exact decoded ⟨_, _, _, _, _, _, _, _, _, _, _, _⟩
        ⟨by unfold TcpHeader; omega, rfl, rfl, drop_contiguous data _⟩

theorem tcp_safe (data : Bytes) (pkt : ParsedPacket) (fits : data.length ≤ isizeMax)
    (empty : pkt.UpperEmpty) : Safe (parseTcp data pkt) (TransportResult 6 data pkt) := by
  apply tcp_rule data pkt fits _ fun _ => transport_result_malformed 6 data pkt empty
  intro tcp read
  refine safe_mono (app_layer_safe _ _ _ _ (Nat.le_trans read.payload.length_le fits) empty.2) ?_
  rintro result ⟨app, rfl, ports⟩
  exact ⟨_, _, app, rfl, rfl, read.payload, ports⟩

def UdpHeader (data : Bytes) : Prop :=
  8 ≤ data.length ∧ 8 ≤ (u16FromBe (data.getD 4 0) (data.getD 5 0)).toNat ∧
    (u16FromBe (data.getD 4 0) (data.getD 5 0)).toNat ≤ data.length

structure UdpRead (data : Bytes) (udp : UdpInfo) : Prop where
  header : UdpHeader data
  srcPort : udp.srcPort = u16FromBe (data.getD 0 0) (data.getD 1 0)
  dstPort : udp.dstPort = u16FromBe (data.getD 2 0) (data.getD 3 0)
  payload : udp.payload <:+: data

theorem udp_rule (data : Bytes) (pkt : ParsedPacket) (post : ParsedPacket → Prop)
    (malformed : ¬UdpHeader data → post pkt.markMalformed)
    (decoded : ∀ udp, UdpRead data udp →
      Safe (parseAppLayer udp.srcPort udp.dstPort udp.payload { pkt with transport := .udp udp }) post) :
    Safe (parseUdp data pkt) post := by
  rw [parseUdp]
  split
  · exact safe_ok (malformed (by unfold UdpHeader; omega))
  · simp (disch := omega) only [index_getD, ok_bind]
    split
    · exact safe_ok (malformed (by unfold UdpHeader; omega))
    · simp (disch := omega) only [slice_ok, ok_bind]
      exact decoded ⟨_, _, _, _, _⟩ ⟨by unfold UdpHeader; omega, rfl, rfl, slice_contiguous data _ _⟩

theorem udp_safe (data : Bytes) (pkt : ParsedPacket) (fits : data.length ≤ isizeMax)
    (empty : pkt.UpperEmpty) : Safe (parseUdp data pkt) (TransportResult 17 data pkt) := by
  apply udp_rule data pkt _ fun _ => transport_result_malformed 17 data pkt empty
  intro udp read
  refine safe_mono (app_layer_safe _ _ _ _ (Nat.le_trans read.payload.length_le fits) empty.2) ?_
  rintro result ⟨app, rfl, ports⟩
  exact ⟨_, _, app, rfl, rfl, read.payload, ports⟩

theorem icmp_echo_safe (data : Bytes) : Safe (icmpEcho data) (fun _ => True) := by
  rw [icmpEcho]
  split
  · simp (disch := omega) only [index_getD, ok_bind]
    exact safe_ok trivial
  · exact safe_ok trivial

theorem icmp_mtu_safe (data : Bytes) (present : Bool) : Safe (icmpMtu data present) (fun _ => True) := by
  rw [icmpMtu]
  split
  · simp (disch := omega) only [index_getD, ok_bind]
    exact safe_ok trivial
  · exact safe_ok trivial

theorem icmp_embedded_safe (data : Bytes) : Safe (icmpEmbedded data) (fun _ => True) := by
  rw [icmpEmbedded]
  split
  · rw [slice_ok (by omega) (by omega)]
    exact safe_ok trivial
  · exact safe_ok trivial

theorem icmp_detail_safe (icmpType icmpCode : UInt8) (data : Bytes) :
    Safe (icmpDetail icmpType icmpCode data) (fun _ => True) := by
  unfold icmpDetail
  split
  case h_5 =>
    refine safe_bind (icmp_mtu_safe data _) fun mtu _ => ?_
    refine safe_bind (icmp_embedded_safe data) fun embedded _ => ?_
    exact safe_ok trivial
  case h_6 => exact safe_bind (icmp_embedded_safe data) fun embedded _ => safe_ok trivial
  case h_7 => exact safe_bind (icmp_mtu_safe data true) fun mtu _ => safe_ok trivial
  case h_8 => exact safe_ok trivial
  all_goals exact icmp_echo_safe data

theorem icmp_payload_safe (data : Bytes) : Safe (icmpPayload data) (fun payload => payload <:+: data) := by
  rw [icmpPayload]
  split
  · rw [slice_from_ok (by omega)]
    exact safe_ok (drop_contiguous data 4)
  · exact safe_ok (List.nil_infix)

theorem icmp_rule (data : Bytes) (pkt : ParsedPacket) (post : ParsedPacket → Prop)
    (malformed : ¬4 ≤ data.length → post pkt.markMalformed)
    (decoded : ∀ icmp : IcmpInfo, 4 ≤ data.length → icmp.payload <:+: data → post { pkt with transport := .icmp icmp }) :
    Safe (parseIcmp data pkt) post := by
  rw [parseIcmp]
  split
  · exact safe_ok (malformed (by omega))
  · simp (disch := omega) only [index_getD, ok_bind]
    refine safe_bind (icmp_detail_safe _ _ data) fun detail _ => ?_
    refine safe_bind (icmp_payload_safe data) fun payload inside => ?_
    exact safe_ok (decoded ⟨_, _, _, _, _, _, _, _⟩ (by omega) inside)

theorem icmp_safe (proto : UInt8) (data : Bytes) (pkt : ParsedPacket) (empty : pkt.UpperEmpty)
    (icmp : proto = 1 ∨ proto = 58) : Safe (parseIcmp data pkt) (TransportResult proto data pkt) := by
  apply icmp_rule data pkt _ fun _ => transport_result_malformed proto data pkt empty
  intro info _ inside
  exact ⟨pkt.malformed, .icmp info, .none, by rw [← empty.2], icmp, inside, rfl⟩

theorem transport_safe (proto : UInt8) (data : Bytes) (pkt : ParsedPacket)
    (fits : data.length ≤ isizeMax) (empty : pkt.UpperEmpty) :
    Safe (parseTransport proto data pkt) (TransportResult proto data pkt) := by
  unfold parseTransport
  split
  · exact tcp_safe data pkt fits empty
  · exact udp_safe data pkt fits empty
  · exact icmp_safe 1 data pkt empty (.inl rfl)
  · exact icmp_safe 58 data pkt empty (.inr rfl)
  · exact safe_ok (transport_result_unchanged proto data pkt empty)

end NetworkIds.Parser
