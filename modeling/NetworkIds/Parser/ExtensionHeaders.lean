import NetworkIds.Parser.LinkIndependence

set_option autoImplicit false

namespace NetworkIds.Parser

open Checked Endian

-- The length a header announces: its second byte counts units of eight octets,
-- without the first eight.
def announcedLen (bytes : Bytes) : Nat := ((bytes.getD 1 0).toNat + 1) * 8

inductive Walked : UInt8 → Bytes → List Ipv6ExtHeader → UInt8 → Bytes → Prop where
  | upper (next : UInt8) (bytes : Bytes) (upper : isExtensionHeader next = false) : Walked next bytes [] next bytes
  | cut (next : UInt8) (bytes : Bytes) (extension : isExtensionHeader next = true)
      (short : bytes.length < 2 ∨ bytes.length < announcedLen bytes) : Walked next bytes [] next bytes
  | header {next final : UInt8} {bytes rest : Bytes} {headers : List Ipv6ExtHeader}
      (extension : isExtensionHeader next = true) (room : announcedLen bytes ≤ bytes.length)
      (later : Walked (bytes.getD 0 0) (bytes.drop (announcedLen bytes)) headers final rest) :
      Walked next bytes (⟨next, bytes.take (announcedLen bytes)⟩ :: headers) final rest

theorem announced_positive (bytes : Bytes) : 8 ≤ announcedLen bytes := by
  rw [announcedLen]
  omega

theorem slice_shorter (data : Bytes) (start stop count : Nat) (inside : start + count ≤ stop) :
    (data.take (start + count)).drop start = ((data.take stop).drop start).take count := by
  rw [List.drop_take, List.drop_take, List.take_take, Nat.add_sub_cancel_left, Nat.min_eq_left (by omega)]

def WalksOn (data : Bytes) (endOffset : Nat) (walk result : ExtensionWalk) : Prop :=
  ∃ later, result.extensionHeaders = walk.extensionHeaders ++ later ∧ result.off ≤ endOffset ∧
    Walked walk.nextHdr ((data.take endOffset).drop walk.off) later result.nextHdr
      ((data.take endOffset).drop result.off)

theorem extension_loop_walks (data : Bytes) (fits : data.length ≤ isizeMax) (endOffset fuel : Nat)
    (walk : ExtensionWalk) (bounded : endOffset ≤ data.length) (inside : walk.off ≤ endOffset)
    (enough : endOffset < walk.off + fuel) :
    Safe (extensionLoop data endOffset fuel walk) (WalksOn data endOffset walk) := by
  have room := usize_room fits 4096 (by omega)
  induction fuel generalizing walk with
  | zero => omega
  | succ fuel ih =>
      have length := slice_length data walk.off endOffset bounded
      have byteAt : ∀ i, walk.off + i < endOffset →
          ((data.take endOffset).drop walk.off).getD i 0 = data.getD (walk.off + i) 0 := by
        intro i before
        rw [drop_getD, take_getD _ _ _ before]
      rw [extensionLoop]
      by_cases extension : isExtensionHeader walk.nextHdr = true
      · rw [if_pos extension]
        simp (disch := omega) only [add_ok, ok_bind]
        by_cases noLength : walk.off + 2 > endOffset
        · rw [if_pos noLength]
          exact safe_ok ⟨[], (List.append_nil _).symm, inside, .cut _ _ extension (.inl (by omega))⟩
        · have lenBound := (data.getD (walk.off + 1) 0).toNat_lt
          have announced : announcedLen ((data.take endOffset).drop walk.off) =
              ((data.getD (walk.off + 1) 0).toNat + 1) * 8 := by
            rw [announcedLen, byteAt 1 (by omega)]
          simp (disch := omega) only [if_neg noLength, index_getD, index_add_getD, add_ok, mul_ok, ok_bind]
          by_cases tooLong : walk.off + ((data.getD (walk.off + 1) 0).toNat + 1) * 8 > endOffset
          · rw [if_pos tooLong]
            exact safe_ok ⟨[], (List.append_nil _).symm, inside, .cut _ _ extension (.inr (by omega))⟩
          · simp (disch := omega) only [if_neg tooLong, slice_ok, ok_bind]
            refine safe_mono (ih _ (by dsimp only; omega) (by dsimp only; omega)) ?_
            rintro result ⟨later, headers, stopped, walked⟩
            have first := byteAt 0 (by omega)
            rw [Nat.add_zero] at first
            dsimp only at walked
            rw [← first, ← announced, ← List.drop_drop] at walked
            refine ⟨_ :: later, ?_, stopped, .header extension (by omega) walked⟩
            have front := slice_shorter data walk.off endOffset (((data.getD (walk.off + 1) 0).toNat + 1) * 8) (by omega)
            rw [headers, List.append_assoc, List.singleton_append, front, ← announced]
      · rw [if_neg extension]
        exact safe_ok ⟨[], (List.append_nil _).symm, inside, .upper _ _ (by simpa using extension)⟩

def ipv6PayloadLength (data : Bytes) : UInt16 := u16FromBe (data.getD 4 0) (data.getD 5 0)

-- What the fixed header of a packet announces, as far as it was captured.
def afterFixedHeader (data : Bytes) : Bytes :=
  (data.take (min data.length (40 + (ipv6PayloadLength data).toNat))).drop 40

structure Ipv6Walk (data : Bytes) (info : Ipv6Info) : Prop where
  payloadLength : info.payloadLength = ipv6PayloadLength data
  nextHeader : info.nextHeader = data.getD 6 0
  walked : Walked info.nextHeader (afterFixedHeader data) info.extensionHeaders info.finalNextHeader info.payload

theorem ipv6_walks (data : Bytes) (pkt : ParsedPacket) (fits : data.length ≤ isizeMax) (empty : pkt.LayersEmpty)
    (long : 40 ≤ data.length) (version : data.getD 0 0 >>> 4 = 6) :
    Safe (parseIpv6 data pkt) (fun result => ∃ info, result.network = .ipv6 info ∧ Ipv6Walk data info) := by
  have srcLength : ((data.take 24).drop 8).length = 16 := slice_length _ _ _ (by omega)
  have dstLength : ((data.take 40).drop 24).length = 16 := slice_length _ _ _ (by omega)
  have lengthBound := (u16FromBe (data.getD 4 0) (data.getD 5 0)).toNat_lt
  have room : 40 + (u16FromBe (data.getD 4 0) (data.getD 5 0)).toNat ≤ usizeMax := usize_small (by omega)
  rw [parseIpv6, if_neg (by omega)]
  simp (disch := omega) only [index_getD, slice_ok, Octets.copy_ok srcLength, Octets.copy_ok dstLength, add_ok, ok_bind]
  rw [if_neg (by simpa using version), if_neg (by omega)]
  generalize stopEq : min data.length (40 + (u16FromBe (data.getD 4 0) (data.getD 5 0)).toNat) = stop
  refine safe_bind (extension_loop_walks data fits stop stop _ (by omega) (by dsimp only; omega)
    (by dsimp only; omega)) ?_
  rintro walk ⟨later, headers, inside, walked⟩
  rw [slice_ok inside (by omega), ok_bind]
  have length := slice_length data walk.off stop (by omega)
  refine safe_mono (transport_safe _ _ _ (by omega) empty.2) ?_
  rintro result ⟨malformed, transport, app, rfl, -⟩
  rw [List.nil_append] at headers
  rw [← headers, ← stopEq] at walked
  rw [← stopEq]
  exact ⟨_, rfl, rfl, rfl, walked⟩

inductive HeaderChain : UInt8 → List Ipv6ExtHeader → UInt8 → Prop where
  | nil (final : UInt8) : HeaderChain final [] final
  | cons {next final : UInt8} {header : Ipv6ExtHeader} {rest : List Ipv6ExtHeader}
      (type : header.headerType = next) (extension : next ∈ [0, 43, 44, 60, 135])
      (length : header.data.length = ((header.data.getD 1 0).toNat + 1) * 8)
      (linked : HeaderChain (header.data.getD 0 0) rest final) : HeaderChain next (header :: rest) final

def WalkComplete (info : Ipv6Info) : Prop :=
  info.finalNextHeader ∉ [0, 43, 44, 60, 135] ∨ info.payload.length < 2 ∨
    info.payload.length < ((info.payload.getD 1 0).toNat + 1) * 8

structure WalkPartitions (data : Bytes) (info : Ipv6Info) : Prop where
  payloadLength : info.payloadLength = ipv6PayloadLength data
  nextHeader : info.nextHeader = data.getD 6 0
  partition : (info.extensionHeaders.flatMap Ipv6ExtHeader.data) ++ info.payload =
    (data.take (min data.length (40 + info.payloadLength.toNat))).drop 40
  chain : HeaderChain info.nextHeader info.extensionHeaders info.finalNextHeader
  complete : WalkComplete info

theorem extension_header_iff (next : UInt8) : isExtensionHeader next = true ↔ next ∈ [0, 43, 44, 60, 135] := by
  simp [isExtensionHeader, or_assoc]

section Walk

variable {next final : UInt8} {bytes rest : Bytes} {headers : List Ipv6ExtHeader}

theorem walked_partition (walked : Walked next bytes headers final rest) :
    headers.flatMap Ipv6ExtHeader.data ++ rest = bytes := by
  induction walked with
  | upper next bytes upper => rfl
  | cut next bytes extension short => rfl
  | header extension room later ih =>
      rw [List.flatMap_cons, List.append_assoc, ih]
      exact List.take_append_drop _ _

theorem walked_chain (walked : Walked next bytes headers final rest) : HeaderChain next headers final := by
  induction walked with
  | upper next bytes upper => exact .nil next
  | cut next bytes extension short => exact .nil next
  | @header next final bytes rest headers extension room later ih =>
      have enough := announced_positive bytes
      have kept : ∀ i, i < 2 → (bytes.take (announcedLen bytes)).getD i 0 = bytes.getD i 0 :=
        fun i early => take_getD _ _ _ (by omega)
      refine .cons rfl ((extension_header_iff next).mp extension) ?_ ?_
      · rw [List.length_take, Nat.min_eq_left room, kept 1 (by omega), announcedLen]
      · rw [kept 0 (by omega)]
        exact ih

theorem walked_stops (walked : Walked next bytes headers final rest) :
    isExtensionHeader final = false ∨ rest.length < 2 ∨ rest.length < announcedLen rest := by
  induction walked with
  | upper next bytes upper => exact .inl upper
  | cut next bytes extension short => exact .inr short
  | header extension room later ih => exact ih

end Walk

-- The layers above the link are empty at both calls of parse_ipv6.
theorem extension_walk_partitions (data : Bytes) (pkt : ParsedPacket) (fits : data.length ≤ isizeMax)
    (empty : pkt.LayersEmpty) (long : 40 ≤ data.length) (version : data.getD 0 0 >>> 4 = 6) :
    ∃ result info, parseIpv6 data pkt = .ok result ∧ result.network = .ipv6 info ∧ WalkPartitions data info := by
  obtain ⟨result, parsed, info, network, payloadLength, nextHeader, walked⟩ :=
    ipv6_walks data pkt fits empty long version
  refine ⟨result, info, parsed, network, payloadLength, nextHeader, ?_, walked_chain walked, ?_⟩
  · rw [walked_partition walked, afterFixedHeader, payloadLength]
  · exact (walked_stops walked).imp_left
      (fun upper member => by rw [(extension_header_iff _).mpr member] at upper; cases upper)

def cutOffPacket : Bytes :=
  [0x60, 0, 0, 0, 0, 12, 0, 64] ++ List.replicate 32 0 ++ [43, 0, 0, 0, 0, 0, 0, 0, 6, 2, 0, 0]

theorem cut_off_packet_partitioned :
    ∃ result info, parseIpv6 cutOffPacket (ParsedPacket.new .ethernet none) = .ok result ∧
      result.network = .ipv6 info ∧ WalkPartitions cutOffPacket info :=
  extension_walk_partitions cutOffPacket (ParsedPacket.new .ethernet none) (by decide) ⟨rfl, rfl, rfl⟩ (by decide)
    (by decide)

theorem walked_unique {next final last : UInt8} {bytes rest tail : Bytes} {headers others : List Ipv6ExtHeader}
    (first : Walked next bytes headers final rest) (second : Walked next bytes others last tail) :
    headers = others ∧ final = last ∧ rest = tail := by
  induction first generalizing others with
  | upper next bytes upper =>
      cases second with
      | upper => exact ⟨rfl, rfl, rfl⟩
      | cut => exact ⟨rfl, rfl, rfl⟩
      | header extension =>
          rw [upper] at extension
          cases extension
  | cut next bytes extension short =>
      have enough := announced_positive bytes
      cases second with
      | upper => exact ⟨rfl, rfl, rfl⟩
      | cut => exact ⟨rfl, rfl, rfl⟩
      | header _ room => omega
  | @header next final bytes rest headers extension room later ih =>
      have enough := announced_positive bytes
      cases second with
      | upper _ _ upper =>
          rw [upper] at extension
          cases extension
      | cut _ _ _ short => omega
      | header _ _ other =>
          obtain ⟨sameHeaders, sameFinal, sameRest⟩ := ih other
          exact ⟨by rw [sameHeaders], sameFinal, sameRest⟩

inductive SizedKind where
  | hopByHop
  | routing
  | destinationOptions
  | mobility
deriving DecidableEq, Repr

def SizedKind.headerType : SizedKind → UInt8
  | .hopByHop => 0
  | .routing => 43
  | .destinationOptions => 60
  | .mobility => 135

-- A header of a chain, without its next header byte: one with a length byte, or
-- a Fragment header, which is eight octets whatever its reserved byte is.
inductive ChainHeader where
  | sized (kind : SizedKind) (length : UInt8) (rest : Octets (length.toNat * 8 + 6))
  | fragment (reserved : UInt8) (rest : Octets 6)

def ChainHeader.headerType : ChainHeader → UInt8
  | .sized kind _ _ => kind.headerType
  | .fragment _ _ => 44

def ChainHeader.encode (next : UInt8) : ChainHeader → Bytes
  | .sized _ length rest => next :: length :: rest.val
  | .fragment reserved rest => next :: reserved :: rest.val

def ChainHeader.ReservedZero : ChainHeader → Prop
  | .sized _ _ _ => True
  | .fragment reserved _ => reserved = 0

-- The type of the first header of a chain in front of an upper layer.
def chainType (upper : UInt8) : List ChainHeader → UInt8
  | [] => upper
  | header :: _ => header.headerType

def chainHeaders (upper : UInt8) : List ChainHeader → List Ipv6ExtHeader
  | [] => []
  | header :: rest => ⟨header.headerType, header.encode (chainType upper rest)⟩ :: chainHeaders upper rest

def encodeChain (upper : UInt8) (chain : List ChainHeader) : Bytes :=
  (chainHeaders upper chain).flatMap Ipv6ExtHeader.data

theorem chain_header_extension (header : ChainHeader) : isExtensionHeader header.headerType = true := by
  cases header with
  | sized kind length rest => cases kind <;> rfl
  | fragment reserved rest => rfl

theorem chain_header_announced (header : ChainHeader) (zero : header.ReservedZero) (next : UInt8) (rest : Bytes) :
    announcedLen (header.encode next ++ rest) = (header.encode next).length := by
  cases header with
  | sized kind length inner =>
      have size := inner.property
      simp only [announcedLen, ChainHeader.encode, List.cons_append, List.getD_cons_succ, List.getD_cons_zero,
        List.length_cons]
      omega
  | fragment reserved inner =>
      have size := inner.property
      cases zero
      simp only [announcedLen, ChainHeader.encode, List.cons_append, List.getD_cons_succ, List.getD_cons_zero,
        List.length_cons, size]
      rfl

theorem chain_header_first (header : ChainHeader) (next : UInt8) (rest : Bytes) :
    (header.encode next ++ rest).getD 0 0 = next := by
  cases header with
  | sized kind length inner => rfl
  | fragment reserved inner => rfl

theorem walked_header {next final : UInt8} {bytes front back rest : Bytes} {headers : List Ipv6ExtHeader}
    (shape : bytes = front ++ back) (extension : isExtensionHeader next = true)
    (announced : announcedLen bytes = front.length) (later : Walked (bytes.getD 0 0) back headers final rest) :
    Walked next bytes (⟨next, front⟩ :: headers) final rest := by
  have behind : bytes.drop (announcedLen bytes) = back := by
    rw [announced, shape]
    exact List.drop_left
  have own : bytes.take (announcedLen bytes) = front := by
    rw [announced, shape]
    exact List.take_left
  have room : announcedLen bytes ≤ bytes.length := by
    rw [announced, shape, List.length_append]
    omega
  rw [← behind] at later
  rw [← own]
  exact .header extension room later

theorem chain_walked (upper : UInt8) (upperLayer : isExtensionHeader upper = false) (chain : List ChainHeader)
    (zero : ∀ header ∈ chain, header.ReservedZero) (rest : Bytes) :
    Walked (chainType upper chain) (encodeChain upper chain ++ rest) (chainHeaders upper chain) upper rest := by
  induction chain with
  | nil => exact .upper upper rest upperLayer
  | cons header others ih =>
      have later := ih (fun other member => zero other (List.mem_cons_of_mem _ member))
      have shape : encodeChain upper (header :: others) ++ rest =
          header.encode (chainType upper others) ++ (encodeChain upper others ++ rest) := by
        rw [encodeChain, chainHeaders, List.flatMap_cons, List.append_assoc]
        rfl
      rw [shape, chainHeaders]
      refine walked_header rfl (chain_header_extension header) ?_ ?_
      · exact chain_header_announced header (zero header List.mem_cons_self) _ _
      · rw [chain_header_first]
        exact later

-- In linked headers every Fragment header has its reserved byte zero.
theorem linked_reserved_zero (upper : UInt8) (chain : List ChainHeader) {next final : UInt8}
    (linked : HeaderChain next (chainHeaders upper chain) final) : ∀ header ∈ chain, header.ReservedZero := by
  induction chain generalizing next with
  | nil =>
      intro header member
      cases member
  | cons header others ih =>
      cases linked with
      | cons type extension length later =>
          intro other member
          rcases List.mem_cons.mp member with rfl | inside
          · cases other with
            | sized kind size rest => exact trivial
            | fragment reserved rest =>
                have eight := rest.property
                simp only [ChainHeader.encode, List.length_cons, List.getD_cons_succ, List.getD_cons_zero, eight] at length
                exact UInt8.toNat_inj.mp (by change reserved.toNat = 0; omega)
          · exact ih later other inside

structure Ipv6Packet where
  trafficClass : Fin 256
  flowLabel : Fin (2 ^ 20)
  hopLimit : UInt8
  srcIp : Octets 16
  dstIp : Octets 16
  chain : List ChainHeader
  upper : UInt8
  upperLayer : isExtensionHeader upper = false
  payload : Bytes
  sized : (encodeChain upper chain ++ payload).length ≤ 65535

def Ipv6Packet.behindFixedHeader (packet : Ipv6Packet) : Bytes :=
  encodeChain packet.upper packet.chain ++ packet.payload

def Ipv6Packet.fixedHeader (packet : Ipv6Packet) : Bytes :=
  [UInt8.ofNat (96 + packet.trafficClass.val / 16),
    UInt8.ofNat (packet.trafficClass.val % 16 * 16 + packet.flowLabel.val / 2 ^ 16),
    UInt8.ofNat (packet.flowLabel.val / 256), UInt8.ofNat packet.flowLabel.val] ++
    u16ToBe (UInt16.ofNat packet.behindFixedHeader.length) ++
    [chainType packet.upper packet.chain, packet.hopLimit] ++ packet.srcIp.val ++ packet.dstIp.val

def Ipv6Packet.encode (packet : Ipv6Packet) : Bytes := packet.fixedHeader ++ packet.behindFixedHeader

structure Ipv6Packet.RecoveredAs (packet : Ipv6Packet) (info : Ipv6Info) : Prop where
  extensionHeaders : info.extensionHeaders = chainHeaders packet.upper packet.chain
  finalNextHeader : info.finalNextHeader = packet.upper
  payload : info.payload = packet.payload

theorem fixed_header_length (packet : Ipv6Packet) : packet.fixedHeader.length = 40 := by
  have src := packet.srcIp.property
  have dst := packet.dstIp.property
  simp only [Ipv6Packet.fixedHeader, List.length_append, u16ToBe, List.length_cons, List.length_nil, src, dst]

theorem packet_walked (packet : Ipv6Packet) (trailing : Bytes) (info : Ipv6Info)
    (walk : Ipv6Walk (packet.encode ++ trailing) info) :
    Walked (chainType packet.upper packet.chain) packet.behindFixedHeader info.extensionHeaders
      info.finalNextHeader info.payload := by
  have sized := packet.sized
  have fixed := fixed_header_length packet
  have announced : ipv6PayloadLength (packet.encode ++ trailing) = UInt16.ofNat packet.behindFixedHeader.length := by
    exact u16_round_trip _
  have count : (ipv6PayloadLength (packet.encode ++ trailing)).toNat = packet.behindFixedHeader.length := by
    rw [announced]
    exact UInt16.toNat_ofNat_of_lt (Nat.lt_succ_of_le sized)
  have length : packet.encode.length = 40 + packet.behindFixedHeader.length := by
    rw [Ipv6Packet.encode, List.length_append, fixed]
  have behind : afterFixedHeader (packet.encode ++ trailing) = packet.behindFixedHeader := by
    rw [afterFixedHeader, count, ← length, List.length_append, Nat.min_eq_right (by omega), List.take_left,
      Ipv6Packet.encode, List.drop_left' fixed]
  have walked := walk.walked
  rw [walk.nextHeader, behind] at walked
  exact walked

theorem packet_version (trafficClass : Fin 256) : UInt8.ofNat (96 + trafficClass.val / 16) >>> 4 = 6 := by
  revert trafficClass
  decide +kernel

theorem packet_decodes (packet : Ipv6Packet) (dstMac srcMac : Mac) (trailing : Bytes) (packetMeta : Option PacketMeta)
    (fits : (ethernetII dstMac srcMac 0x86DD (packet.encode ++ trailing)).length ≤ isizeMax) :
    ∃ info, (decodePacket ⟨ethernetII dstMac srcMac 0x86DD (packet.encode ++ trailing), fits⟩ .ethernet
        packetMeta).network = .ipv6 info ∧
      Walked (chainType packet.upper packet.chain) packet.behindFixedHeader info.extensionHeaders
        info.finalNextHeader info.payload := by
  have fixed := fixed_header_length packet
  have length : 40 ≤ (packet.encode ++ trailing).length := by
    rw [List.length_append, Ipv6Packet.encode, List.length_append, fixed]
    omega
  have payloadFits : (packet.encode ++ trailing).length ≤ isizeMax := by
    rw [ethernetII, List.length_append, List.length_append, List.length_append] at fits
    omega
  obtain ⟨result, parsed, info, network, walk⟩ := ipv6_walks (packet.encode ++ trailing)
    (ParsedPacket.new .ethernet packetMeta) payloadFits ⟨rfl, rfl, rfl⟩ length (packet_version packet.trafficClass)
  have onWire := ethernet_ii_packet_decodes dstMac srcMac 0x86DD (packet.encode ++ trailing) packetMeta
    (by unfold IsVlanTpid; decide)
  have decoded := decode_packet_eq
    ⟨ethernetII dstMac srcMac 0x86DD (packet.encode ++ trailing), fits⟩ .ethernet packetMeta
  have same := (related_result onWire decoded parsed).1
  exact ⟨info, same.trans network, packet_walked packet trailing info walk⟩

theorem recovered_reserved_zero (packet : Ipv6Packet) (info : Ipv6Info)
    (walked : Walked (chainType packet.upper packet.chain) packet.behindFixedHeader info.extensionHeaders
      info.finalNextHeader info.payload)
    (recovered : packet.RecoveredAs info) : ∀ header ∈ packet.chain, header.ReservedZero := by
  have linked := walked_chain walked
  rw [recovered.extensionHeaders] at linked
  exact linked_reserved_zero packet.upper packet.chain linked

def RecoversChain (packet : Ipv6Packet) (decoded : ParsedPacket) : Prop :=
  ∃ info, decoded.network = .ipv6 info ∧ packet.RecoveredAs info

theorem chain_recovered_iff (packet : Ipv6Packet) (dstMac srcMac : Mac) (trailing : Bytes)
    (packetMeta : Option PacketMeta)
    (fits : (ethernetII dstMac srcMac 0x86DD (packet.encode ++ trailing)).length ≤ isizeMax) :
    RecoversChain packet
        (decodePacket ⟨ethernetII dstMac srcMac 0x86DD (packet.encode ++ trailing), fits⟩ .ethernet packetMeta) ↔
      ∀ header ∈ packet.chain, header.ReservedZero := by
  obtain ⟨info, network, walked⟩ := packet_decodes packet dstMac srcMac trailing packetMeta fits
  constructor
  · rintro ⟨other, decoded, recovered⟩
    rw [network] at decoded
    cases decoded
    exact recovered_reserved_zero packet info walked recovered
  · intro zero
    have expected := chain_walked packet.upper packet.upperLayer packet.chain zero packet.payload
    obtain ⟨headers, final, rest⟩ := walked_unique walked expected
    exact ⟨info, network, headers, final, rest⟩

-- A SYN to port 80 in an atomic fragment, behind destination options.
def atomicFragment (reserved : UInt8) : Ipv6Packet where
  trafficClass := 0
  flowLabel := 0
  hopLimit := 64
  srcIp := Octets.fill 16 1
  dstIp := Octets.fill 16 2
  chain := [.sized .destinationOptions 0 (Octets.fill 6 0), .fragment reserved (Octets.fill 6 0)]
  upper := 6
  upperLayer := rfl
  payload := [0x30, 0x39, 0, 80, 0, 0, 0, 1, 0, 0, 0, 0, 0x50, 2, 0, 0, 0, 0, 0, 0]
  sized := by
    change 36 ≤ 65535
    decide

theorem atomic_fragment_recovered :
    RecoversChain (atomicFragment 0) (decodePacket ⟨ethernetII (Octets.fill 6 1) (Octets.fill 6 2) 0x86DD
      ((atomicFragment 0).encode ++ []), by decide⟩ .ethernet none) :=
  (chain_recovered_iff (atomicFragment 0) (Octets.fill 6 1) (Octets.fill 6 2) [] none (by decide)).mpr (by
    intro header member
    simp only [atomicFragment, List.mem_cons, List.not_mem_nil, or_false] at member
    rcases member with rfl | rfl
    · exact trivial
    · exact rfl)

theorem reserved_byte_shifts_walk :
    ¬ RecoversChain (atomicFragment 1) (decodePacket ⟨ethernetII (Octets.fill 6 1) (Octets.fill 6 2) 0x86DD
      ((atomicFragment 1).encode ++ []), by decide⟩ .ethernet none) := by
  rintro ⟨other, decoded, recovered⟩
  obtain ⟨info, network, walked⟩ := packet_decodes (atomicFragment 1) (Octets.fill 6 1) (Octets.fill 6 2) [] none
    (by decide)
  rw [network] at decoded
  cases decoded
  have zero := recovered_reserved_zero (atomicFragment 1) _ walked recovered (.fragment 1 (Octets.fill 6 0))
    (by simp [atomicFragment])
  exact absurd zero (by unfold ChainHeader.ReservedZero; decide)

end NetworkIds.Parser
