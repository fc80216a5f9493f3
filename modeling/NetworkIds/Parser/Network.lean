import NetworkIds.Parser.Transport

set_option autoImplicit false

namespace NetworkIds.Parser

open Checked Endian

def ipv4Options (data : Bytes) (headerLen : Nat) : Checked Bytes :=
  if headerLen > 20 then slice data 20 headerLen else return []

def parseIpv4 (data : Bytes) (pkt : ParsedPacket) : Checked ParsedPacket := do
  if data.length < 20 then return pkt.markMalformed
  else
    let verIhl ← index data 0
    let version := verIhl >>> 4
    let ihl := (verIhl &&& 0x0F).toNat
    let headerLen ← mul ihl 4
    if version ≠ 4 ∨ ihl < 5 ∨ headerLen > data.length then return pkt.markMalformed
    else
      let tos ← index data 1
      let totalLength := u16FromBe (← index data 2) (← index data 3)
      let identification := u16FromBe (← index data 4) (← index data 5)
      let flagsFrag := u16FromBe (← index data 6) (← index data 7)
      let ttl ← index data 8
      let protocol ← index data 9
      let headerChecksum := u16FromBe (← index data 10) (← index data 11)
      let srcIp : Ipv4Addr := ⟨← index data 12, ← index data 13, ← index data 14, ← index data 15⟩
      let dstIp : Ipv4Addr := ⟨← index data 16, ← index data 17, ← index data 18, ← index data 19⟩
      let options ← ipv4Options data headerLen
      let packetLen := min data.length totalLength.toNat
      if packetLen < headerLen then return pkt.markMalformed
      else
        let payload ← slice data headerLen packetLen
        parseTransport protocol payload { pkt with network := .ipv4 {
          version := version
          ihl := UInt8.ofNat ihl
          dscp := tos >>> 2
          ecn := tos &&& 0x03
          totalLength := totalLength
          identification := identification
          flags := (flagsFrag >>> 13).toUInt8
          fragmentOffset := flagsFrag &&& 0x1FFF
          ttl := ttl
          protocol := protocol
          headerChecksum := headerChecksum
          srcIp := srcIp
          dstIp := dstIp
          options := options
          payload := payload } }

def isExtensionHeader (nextHdr : UInt8) : Bool :=
  nextHdr == 0 || nextHdr == 43 || nextHdr == 44 || nextHdr == 60 || nextHdr == 135

-- Where the walk over the extension headers stands.
structure ExtensionWalk where
  extensionHeaders : List Ipv6ExtHeader
  nextHdr : UInt8
  off : Nat

def extensionLoop (data : Bytes) (endOffset fuel : Nat) (walk : ExtensionWalk) : Checked ExtensionWalk :=
  match fuel with
  | 0 => throw .outOfFuel
  | fuel + 1 =>
      if isExtensionHeader walk.nextHdr then do
        if (← add walk.off 2) > endOffset then return walk
        else
          let extNext ← index data walk.off
          let extLen ← mul (← add (← indexAdd data walk.off 1).toNat 1) 8
          let extEnd ← add walk.off extLen
          if extEnd > endOffset then return walk
          else
            let header : Ipv6ExtHeader := ⟨walk.nextHdr, ← slice data walk.off extEnd⟩
            extensionLoop data endOffset fuel ⟨walk.extensionHeaders ++ [header], extNext, extEnd⟩
      else return walk

def parseIpv6 (data : Bytes) (pkt : ParsedPacket) : Checked ParsedPacket := do
  if data.length < 40 then return pkt.markMalformed
  else
    let version := (← index data 0) >>> 4
    if version ≠ 6 then return pkt.markMalformed
    else
      let trafficClass := (((← index data 0) &&& 0x0F) <<< 4) ||| ((← index data 1) >>> 4)
      let flowLabel := u32FromBe 0 ((← index data 1) &&& 0x0F) (← index data 2) (← index data 3)
      let payloadLength := u16FromBe (← index data 4) (← index data 5)
      let nextHeaderInitial ← index data 6
      let hopLimit ← index data 7
      let srcIp : Ipv6Addr := ⟨← Octets.copyFromSlice 16 (← slice data 8 24)⟩
      let dstIp : Ipv6Addr := ⟨← Octets.copyFromSlice 16 (← slice data 24 40)⟩
      let endOffset := min data.length (← add 40 payloadLength.toNat)
      if endOffset < 40 then return pkt.markMalformed
      else
        let walk ← extensionLoop data endOffset endOffset ⟨[], nextHeaderInitial, 40⟩
        let payload ← slice data walk.off endOffset
        parseTransport walk.nextHdr payload { pkt with network := .ipv6 {
          version := version
          trafficClass := trafficClass
          flowLabel := flowLabel
          payloadLength := payloadLength
          nextHeader := nextHeaderInitial
          hopLimit := hopLimit
          srcIp := srcIp
          dstIp := dstIp
          extensionHeaders := walk.extensionHeaders
          finalNextHeader := walk.nextHdr
          payload := payload } }

def parseArp (data : Bytes) (pkt : ParsedPacket) : Checked ParsedPacket := do
  if data.length < 28 then return pkt.markMalformed
  else
    let hwType := u16FromBe (← index data 0) (← index data 1)
    let protoType := u16FromBe (← index data 2) (← index data 3)
    let hwAddrLen ← index data 4
    let protoAddrLen ← index data 5
    let opcode := u16FromBe (← index data 6) (← index data 7)
    -- Only Ethernet / IPv4 ARP; anything else is left without a network layer.
    if hwType = 1 ∧ protoType = 0x0800 ∧ hwAddrLen = 6 ∧ protoAddrLen = 4 then
      let senderMac ← copyMac (← slice data 8 14)
      let senderIp : Ipv4Addr := ⟨← index data 14, ← index data 15, ← index data 16, ← index data 17⟩
      let targetMac ← copyMac (← slice data 18 24)
      let targetIp : Ipv4Addr := ⟨← index data 24, ← index data 25, ← index data 26, ← index data 27⟩
      return { pkt with network := .arp {
        hwType := hwType
        protoType := protoType
        hwAddrLen := hwAddrLen
        protoAddrLen := protoAddrLen
        opcode := opcode
        senderMac := senderMac
        senderIp := senderIp
        targetMac := targetMac
        targetIp := targetIp } }
    else return pkt

def NetworkCoherent (data : Bytes) (network : NetworkLayer) (transport : TransportLayer) (app : AppLayer) :
    Prop :=
  match network with
  | .ipv4 info => info.payload <:+: data ∧ TransportCoherent info.protocol info.payload transport app
  | .ipv6 info => info.payload <:+: data ∧ TransportCoherent info.finalNextHeader info.payload transport app
  | .arp _ => transport = .none ∧ app = .none
  | .none => transport = .none ∧ (app = .none ∨ ∃ info, app = .eapol info)

theorem network_coherent_within (payload data : Bytes) (network : NetworkLayer)
    (transport : TransportLayer) (app : AppLayer) (inside : payload <:+: data)
    (coherent : NetworkCoherent payload network transport app) :
    NetworkCoherent data network transport app := by
  cases network with
  | ipv4 info => exact ⟨coherent.1.trans inside, coherent.2⟩
  | ipv6 info => exact ⟨coherent.1.trans inside, coherent.2⟩
  | arp info => exact coherent
  | none => exact coherent

def ParsedPacket.LayersEmpty (pkt : ParsedPacket) : Prop := pkt.network = .none ∧ pkt.UpperEmpty

-- The frame condition of the network parsers.
def NetworkResult (data : Bytes) (pkt result : ParsedPacket) : Prop :=
  ∃ malformed network transport app,
    result = { pkt with
      malformed := malformed, network := network, transport := transport, app := app } ∧
    NetworkCoherent data network transport app

theorem layers_empty_coherent (data : Bytes) (pkt : ParsedPacket) (empty : pkt.LayersEmpty) :
    NetworkCoherent data pkt.network pkt.transport pkt.app := by
  obtain ⟨noNetwork, noTransport, noApp⟩ := empty
  rw [noNetwork]
  exact ⟨noTransport, .inl noApp⟩

theorem network_result_malformed (data : Bytes) (pkt : ParsedPacket) (empty : pkt.LayersEmpty) :
    NetworkResult data pkt pkt.markMalformed := by
  obtain ⟨noNetwork, noTransport, noApp⟩ := empty
  refine ⟨true, .none, .none, .none, ?_, rfl, .inl rfl⟩
  rw [← noNetwork, ← noTransport, ← noApp]
  rfl

theorem network_result_unchanged (data : Bytes) (pkt : ParsedPacket) (empty : pkt.LayersEmpty) :
    NetworkResult data pkt pkt := by
  obtain ⟨noNetwork, noTransport, noApp⟩ := empty
  refine ⟨pkt.malformed, .none, .none, .none, ?_, rfl, .inl rfl⟩
  rw [← noNetwork, ← noTransport, ← noApp]

theorem ipv4_options_safe (data : Bytes) (headerLen : Nat) (inside : headerLen ≤ data.length) :
    Safe (ipv4Options data headerLen) (fun _ => True) := by
  rw [ipv4Options]
  split
  · rw [slice_ok (by omega) inside]
    exact safe_ok trivial
  · exact safe_ok trivial

structure Ipv4Read (data : Bytes) (ip : Ipv4Info) : Prop where
  long : 20 ≤ data.length
  version : data.getD 0 0 >>> 4 = 4
  header : 5 ≤ (data.getD 0 0 &&& 0x0F).toNat
  room : (data.getD 0 0 &&& 0x0F).toNat * 4 ≤ data.length
  ihl : ip.ihl.toNat = (data.getD 0 0 &&& 0x0F).toNat
  protocol : ip.protocol = data.getD 9 0
  srcIp : ip.srcIp = ⟨data.getD 12 0, data.getD 13 0, data.getD 14 0, data.getD 15 0⟩
  dstIp : ip.dstIp = ⟨data.getD 16 0, data.getD 17 0, data.getD 18 0, data.getD 19 0⟩
  payload : ∃ stop ≤ data.length, ip.payload = (data.take stop).drop ((data.getD 0 0 &&& 0x0F).toNat * 4)

theorem Ipv4Read.inside {data : Bytes} {ip : Ipv4Info} (read : Ipv4Read data ip) : ip.payload <:+: data := by
  obtain ⟨stop, _, payload⟩ := read.payload
  rw [payload]
  exact slice_contiguous data _ stop

-- What holds of a malformed packet and of every result of parse_transport on an
-- IPv4 payload holds of the result.
theorem ipv4_rule (data : Bytes) (pkt : ParsedPacket) (post : ParsedPacket → Prop)
    (malformed : post pkt.markMalformed)
    (decoded : ∀ ip, Ipv4Read data ip →
      Safe (parseTransport ip.protocol ip.payload { pkt with network := .ipv4 ip }) post) :
    Safe (parseIpv4 data pkt) post := by
  rw [parseIpv4]
  split
  · exact safe_ok malformed
  · have ihlBound := (data.getD 0 0 &&& 0x0F).toNat_lt
    have room : (data.getD 0 0 &&& 0x0F).toNat * 4 ≤ usizeMax := usize_small (by omega)
    simp (disch := omega) only [index_getD, mul_ok, ok_bind]
    split
    · exact safe_ok malformed
    · rename_i valid
      refine safe_bind (ipv4_options_safe data _ (by omega)) fun options _ => ?_
      split
      · exact safe_ok malformed
      · simp (disch := omega) only [slice_ok, ok_bind]
        generalize stopEq : min data.length (u16FromBe (data.getD 2 0) (data.getD 3 0)).toNat = stop
        refine decoded ⟨_, _, _, _, _, _, _, _, _, _, _, _, _, _, _⟩ ?_
        refine ⟨by omega, by simpa using (not_or.mp valid).1, by omega, by omega, ?_, rfl, rfl, rfl, stop, by omega, rfl⟩
        dsimp only
        rw [UInt8.toNat_ofNat', Nat.mod_eq_of_lt ihlBound]

theorem ipv4_safe (data : Bytes) (pkt : ParsedPacket) (fits : data.length ≤ isizeMax)
    (empty : pkt.LayersEmpty) : Safe (parseIpv4 data pkt) (NetworkResult data pkt) := by
  apply ipv4_rule data pkt _ (network_result_malformed data pkt empty)
  intro ip read
  refine safe_mono (transport_safe _ _ _ (Nat.le_trans read.inside.length_le fits) empty.2) ?_
  rintro result ⟨malformed, transport, app, rfl, coherent⟩
  exact ⟨malformed, .ipv4 ip, transport, app, rfl, read.inside, coherent⟩

theorem extension_loop_safe (data : Bytes) (fits : data.length ≤ isizeMax) (endOffset fuel : Nat)
    (walk : ExtensionWalk) (bounded : endOffset ≤ data.length) (inside : walk.off ≤ endOffset)
    (enough : endOffset < walk.off + fuel) :
    Safe (extensionLoop data endOffset fuel walk) (fun result => result.off ≤ endOffset) := by
  have room := usize_room fits 4096 (by omega)
  induction fuel generalizing walk with
  | zero => omega
  | succ fuel ih =>
      rw [extensionLoop]
      split
      · simp (disch := omega) only [add_ok, ok_bind]
        split
        · exact safe_ok inside
        · have lenBound := (data.getD (walk.off + 1) 0).toNat_lt
          simp (disch := omega) only [index_getD, index_add_getD, add_ok, mul_ok, ok_bind]
          split
          · exact safe_ok inside
          · simp (disch := omega) only [slice_ok, ok_bind]
            exact ih _ (by dsimp only; omega) (by dsimp only; omega)
      · exact safe_ok inside

theorem ipv6_rule (data : Bytes) (pkt : ParsedPacket) (fits : data.length ≤ isizeMax) (post : ParsedPacket → Prop)
    (malformed : post pkt.markMalformed)
    (decoded : ∀ ip : Ipv6Info, ip.payload <:+: data →
      Safe (parseTransport ip.finalNextHeader ip.payload { pkt with network := .ipv6 ip }) post) :
    Safe (parseIpv6 data pkt) post := by
  rw [parseIpv6]
  split
  · exact safe_ok malformed
  · simp (disch := omega) only [index_getD, ok_bind]
    split
    · exact safe_ok malformed
    · have srcLength : ((data.take 24).drop 8).length = 16 := slice_length _ _ _ (by omega)
      have dstLength : ((data.take 40).drop 24).length = 16 := slice_length _ _ _ (by omega)
      have lengthBound := (u16FromBe (data.getD 4 0) (data.getD 5 0)).toNat_lt
      have room : 40 + (u16FromBe (data.getD 4 0) (data.getD 5 0)).toNat ≤ usizeMax := usize_small (by omega)
      simp (disch := omega) only [slice_ok, Octets.copy_ok srcLength, Octets.copy_ok dstLength, add_ok, ok_bind]
      split
      · exact safe_ok malformed
      · generalize stopEq : min data.length (40 + (u16FromBe (data.getD 4 0) (data.getD 5 0)).toNat) = stop
        refine safe_bind (extension_loop_safe data fits stop stop _ (by omega) (by dsimp only; omega)
          (by dsimp only; omega)) ?_
        intro walk inside
        rw [slice_ok inside (by omega), ok_bind]
        exact decoded ⟨_, _, _, _, _, _, _, _, _, _, _⟩ (slice_contiguous data walk.off stop)

theorem ipv6_safe (data : Bytes) (pkt : ParsedPacket) (fits : data.length ≤ isizeMax)
    (empty : pkt.LayersEmpty) : Safe (parseIpv6 data pkt) (NetworkResult data pkt) := by
  apply ipv6_rule data pkt fits _ (network_result_malformed data pkt empty)
  intro ip inside
  refine safe_mono (transport_safe _ _ _ (Nat.le_trans inside.length_le fits) empty.2) ?_
  rintro result ⟨malformed, transport, app, rfl, coherent⟩
  exact ⟨malformed, .ipv6 ip, transport, app, rfl, inside, coherent⟩

theorem arp_rule (data : Bytes) (pkt : ParsedPacket) (post : ParsedPacket → Prop) (malformed : post pkt.markMalformed)
    (unchanged : post pkt) (decoded : ∀ arp, post { pkt with network := .arp arp }) : Safe (parseArp data pkt) post := by
  rw [parseArp]
  split
  · exact safe_ok malformed
  · simp (disch := omega) only [index_getD, ok_bind]
    split
    · have senderLength : 6 ≤ ((data.take 14).drop 8).length := slice_long (by omega) (by omega)
      have targetLength : 6 ≤ ((data.take 24).drop 18).length := slice_long (by omega) (by omega)
      simp (disch := omega) only [slice_ok, copy_mac_ok, ok_bind]
      exact safe_ok (decoded _)
    · exact safe_ok unchanged

theorem arp_safe (data : Bytes) (pkt : ParsedPacket) (empty : pkt.LayersEmpty) :
    Safe (parseArp data pkt) (NetworkResult data pkt) := by
  apply arp_rule data pkt _ (network_result_malformed data pkt empty) (network_result_unchanged data pkt empty)
  intro arp
  obtain ⟨-, noTransport, noApp⟩ := empty
  exact ⟨pkt.malformed, .arp arp, pkt.transport, pkt.app, rfl, noTransport, noApp⟩

end NetworkIds.Parser
