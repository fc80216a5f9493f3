import NetworkIds.Parser.VlanTags
import NetworkIds.Parser.UpperLayers
import Mathlib.Data.Nat.Bitwise

set_option autoImplicit false

namespace NetworkIds.Parser

open Checked Endian

def TransportLayer.segment : TransportLayer → Option (UInt16 × UInt16 × Bytes)
  | .tcp info => some (info.srcPort, info.dstPort, info.payload)
  | .udp info => some (info.srcPort, info.dstPort, info.payload)
  | .icmp _ => Option.none
  | .none => Option.none

-- The application layer is what parse_app_layer makes of this payload.
def ReadsApp (srcPort dstPort : UInt16) (payload : Bytes) (pkt : ParsedPacket) : Prop :=
  ∃ before after : ParsedPacket, before.app = .none ∧ parseAppLayer srcPort dstPort payload before = .ok after ∧
    pkt.app = after.app

def AppFromSegment (pkt : ParsedPacket) : Prop :=
  ∀ srcPort dstPort payload, pkt.transport.segment = some (srcPort, dstPort, payload) →
    ReadsApp srcPort dstPort payload pkt

theorem no_segment (pkt : ParsedPacket) (absent : pkt.transport.segment = none) : AppFromSegment pkt := by
  intro srcPort dstPort payload present
  rw [absent] at present
  cases present

theorem no_transport_segment (pkt : ParsedPacket) (absent : pkt.transport = .none) : AppFromSegment pkt :=
  no_segment pkt (by rw [absent]; rfl)

theorem app_layer_reads (srcPort dstPort : UInt16) (payload : Bytes) (pkt : ParsedPacket)
    (fits : payload.length ≤ isizeMax) (noApp : pkt.app = .none)
    (segment : pkt.transport.segment = some (srcPort, dstPort, payload)) :
    Safe (parseAppLayer srcPort dstPort payload pkt) AppFromSegment := by
  obtain ⟨result, parsed, app, same, -⟩ := app_layer_safe srcPort dstPort payload pkt fits noApp
  refine ⟨result, parsed, ?_⟩
  intro otherSrc otherDst other present
  have transport : result.transport = pkt.transport := by rw [same]
  rw [transport, segment] at present
  cases present
  exact ⟨pkt, result, noApp, parsed, rfl⟩

theorem tcp_app (data : Bytes) (pkt : ParsedPacket) (fits : data.length ≤ isizeMax) (empty : pkt.UpperEmpty) :
    Safe (parseTcp data pkt) AppFromSegment := by
  apply tcp_rule data pkt fits _ fun _ => no_transport_segment _ empty.1
  intro tcp read
  exact app_layer_reads _ _ _ _ (Nat.le_trans read.payload.length_le fits) empty.2 rfl

theorem udp_app (data : Bytes) (pkt : ParsedPacket) (fits : data.length ≤ isizeMax) (empty : pkt.UpperEmpty) :
    Safe (parseUdp data pkt) AppFromSegment := by
  apply udp_rule data pkt _ fun _ => no_transport_segment _ empty.1
  intro udp read
  exact app_layer_reads _ _ _ _ (Nat.le_trans read.payload.length_le fits) empty.2 rfl

theorem icmp_app (data : Bytes) (pkt : ParsedPacket) (empty : pkt.UpperEmpty) :
    Safe (parseIcmp data pkt) AppFromSegment := by
  apply icmp_rule data pkt _ fun _ => no_transport_segment _ empty.1
  intro icmp _ _
  exact no_segment _ rfl

theorem transport_app (proto : UInt8) (data : Bytes) (pkt : ParsedPacket) (fits : data.length ≤ isizeMax)
    (empty : pkt.UpperEmpty) : Safe (parseTransport proto data pkt) AppFromSegment := by
  unfold parseTransport
  split
  · exact tcp_app data pkt fits empty
  · exact udp_app data pkt fits empty
  · exact icmp_app data pkt empty
  · exact icmp_app data pkt empty
  · exact safe_ok (no_transport_segment pkt empty.1)

theorem reads_upper_app (proto : UInt8) (payload : Bytes) (pkt : ParsedPacket) (fits : payload.length ≤ isizeMax)
    (reads : ReadsUpper proto payload pkt) : AppFromSegment pkt := by
  obtain ⟨before, after, empty, parsed, transport, app⟩ := reads
  have fromSegment := safe_result (transport_app proto payload before fits empty) parsed
  intro srcPort dstPort segment present
  rw [transport] at present
  obtain ⟨first, last, noApp, read, same⟩ := fromSegment srcPort dstPort segment present
  exact ⟨first, last, noApp, read, app.trans same⟩

theorem decoded_app_from_segment (data : Buffer) (link : LinkType) (packetMeta : Option PacketMeta) :
    AppFromSegment (decodePacket data link packetMeta) := by
  have upper := decoded_upper_from_network data link packetMeta
  have coherent := decoded_layers_coherent data link packetMeta
  have fits := data.fits
  unfold UpperFromNetwork at upper
  split at upper
  · rename_i ip network
    have inside := (coherent.ipv4Payload ip network).length_le
    exact reads_upper_app _ _ _ (by omega) upper
  · rename_i ip network
    have inside := (coherent.ipv6Payload ip network).length_le
    exact reads_upper_app _ _ _ (by omega) upper
  · exact no_transport_segment _ upper
  · exact no_transport_segment _ upper

def wordAt (message : Bytes) (i : Nat) : UInt16 := u16FromBe (message.getD i 0) (message.getD (i + 1) 0)

-- What parse_dns reads behind the header: query, type and class of the first
-- question, and the answers.
def dnsSections (message : Bytes) (questionCount answerCount : UInt16) :
    Checked (Option String × Option UInt16 × Option UInt16 × List DnsRecord) := do
  let questions ← parseDnsQuestions message questionCount.toNat ⟨12, none, none, none⟩
  let answers ← parseDnsAnswers message answerCount.toNat questions.offset []
  return (questions.query, questions.queryType, questions.queryClass, answers)

def dnsInfo (message : Bytes) (query : Option String) (queryType queryClass : Option UInt16)
    (answers : List DnsRecord) : DnsInfo where
  transactionId := wordAt message 0
  isResponse := wordAt message 2 &&& 0x8000 != 0
  opcode := ((wordAt message 2 >>> 11) &&& 0x0F).toUInt8
  aa := wordAt message 2 &&& 0x0400 != 0
  tc := wordAt message 2 &&& 0x0200 != 0
  rd := wordAt message 2 &&& 0x0100 != 0
  ra := wordAt message 2 &&& 0x0080 != 0
  rcode := (wordAt message 2 &&& 0x000F).toUInt8
  questionCount := wordAt message 4
  answerCount := wordAt message 6
  authorityCount := wordAt message 8
  additionalCount := wordAt message 10
  query := query
  queryType := queryType
  queryClass := queryClass
  answers := answers

theorem dns_decodes (message : Bytes) (fits : message.length ≤ isizeMax) (long : 12 ≤ message.length) :
    ∃ query queryType queryClass answers,
      dnsSections message (wordAt message 4) (wordAt message 6) = .ok (query, queryType, queryClass, answers) ∧
      parseDns message = .ok (some (dnsInfo message query queryType queryClass answers)) := by
  obtain ⟨questions, asked, inside⟩ :=
    dns_questions_safe message fits (wordAt message 4).toNat ⟨12, none, none, none⟩ long
  obtain ⟨answers, answered, -⟩ :=
    dns_answers_safe message fits (wordAt message 6).toNat questions.offset [] inside
  refine ⟨questions.query, questions.queryType, questions.queryClass, answers, ?_, ?_⟩
  · rw [dnsSections, asked, ok_bind, answered, ok_bind]
    rfl
  · unfold wordAt at asked answered
    rw [parseDns, if_neg (by omega)]
    simp (disch := omega) only [index_getD, ok_bind, asked, answered]
    rfl

theorem flag_bit (word mask : UInt16) (i : Nat) (single : mask.toNat = 2 ^ i) :
    (word &&& mask != 0) = decide (word.toNat / 2 ^ i % 2 = 1) := by
  have masked : (word &&& mask).toNat = (word.toNat.testBit i).toNat * 2 ^ i := by
    rw [UInt16.toNat_and, single, Nat.and_two_pow]
  have power : 0 < 2 ^ i := Nat.two_pow_pos i
  rw [Nat.testBit_eq_decide_div_mod_eq] at masked
  rw [Bool.eq_iff_iff, bne_iff_ne, decide_eq_true_iff, ne_eq, ← UInt16.toNat_inj, masked]
  by_cases bit : word.toNat / 2 ^ i % 2 = 1
  · simp [bit]
  · simp [bit]

theorem opcode_field (word : UInt16) : (((word >>> 11) &&& 0x0F).toUInt8).toNat = word.toNat / 2 ^ 11 % 16 := by
  have bound := word.toNat_lt
  have mask : (0x0F : UInt16).toNat = 2 ^ 4 - 1 := rfl
  have shift : (11 : UInt16).toNat % 16 = 11 := rfl
  rw [UInt16.toNat_toUInt8, UInt16.toNat_and, UInt16.toNat_shiftRight]
  rw [mask, shift, Nat.and_two_pow_sub_one_eq_mod, Nat.shiftRight_eq_div_pow]
  omega

theorem rcode_field (word : UInt16) : ((word &&& 0x000F).toUInt8).toNat = word.toNat % 16 := by
  have mask : (0x000F : UInt16).toNat = 2 ^ 4 - 1 := rfl
  rw [UInt16.toNat_toUInt8, UInt16.toNat_and, mask, Nat.and_two_pow_sub_one_eq_mod]
  omega

end NetworkIds.Parser
