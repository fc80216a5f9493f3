import NetworkIds.Engine.AddressText
import NetworkIds.FlowTable
import NetworkIds.Lib.Delimited

set_option autoImplicit false

namespace NetworkIds.PcapLogger

open Delimited NetworkIds.Engine NetworkIds.FlowTable NetworkIds.Parser

def separator : String := "========================================================================"

-- Ipv4Addr::from a u32, which holds the address in network order.
def ipv4From (ip : UInt32) : Ipv4Addr where
  a := (ip >>> 24).toUInt8
  b := (ip >>> 16).toUInt8
  c := (ip >>> 8).toUInt8
  d := ip.toUInt8

-- {:02X}
def hexUpper (byte : UInt8) : List Char :=
  [(Nat.digitChar (byte.toNat / 16)).toUpper, (Nat.digitChar (byte.toNat % 16)).toUpper]

def hexDump (data : Bytes) (limit : Nat) : String :=
  let takeLen := min data.length limit
  let hex := (data.take takeLen).map fun byte => String.ofList (hexUpper byte)
  if data.length > limit then String.intercalate " " hex ++ "..." else String.intercalate " " hex

-- {:03}
def threeDigits (number : Nat) : String :=
  String.ofList (List.replicate (3 - (toString number).length) '0') ++ toString number

def endpointText (ip : UInt32) (port : UInt16) : String :=
  Ipv4Addr.display (ipv4From ip) ++ (":" ++ toString port.toNat)

def header (timestampStr : String) (key : FlowKey) (count : Nat) : String :=
  ("\n" ++ separator ++ "\n[BURST DETECTED] Time: ") ++ (timestampStr ++ ("\nFlow 4-Tuple: " ++
    (endpointText key.1 key.2.1 ++ (" -> " ++ (endpointText key.2.2.1 key.2.2.2 ++ ("\nPacket Count: " ++
      (toString count ++ (" packets (<60 seconds duration)\n" ++ separator ++ "\n"))))))))

def entry (idx : Nat) (pkt : Packet) : String :=
  ("  [Pkt #" ++ threeDigits (idx + 1) ++ "] Len: ") ++ (toString pkt.data.length ++
    (" bytes | Data (hex head): " ++ (hexDump pkt.data 32 ++ "\n")))

-- What log_burst writes to the end of the log file, one write after the other.
def logBurst (timestampStr : String) (key : FlowKey) (packets : List Packet) : List String :=
  header timestampStr key packets.length :: (packets.zipIdx.map fun (pkt, idx) => entry idx pkt) ++
    [separator ++ "\n\n"]

def fileText (writes : List String) : List Char := writes.flatMap String.toList

def shown (pkt : Packet) : Nat × Bytes := (pkt.data.length, pkt.data.take 32)

theorem digits_plain (number : Nat) (stop : Char) (other : stop.isDigit = false) : stop ∉ (toString number).toList := by
  intro member
  have digit : stop ∈ Nat.toDigits 10 number := by simpa using member
  rw [Nat.isDigit_of_mem_toDigits (by decide) (by decide) digit] at other
  cases other

theorem display_plain (address : Ipv4Addr) (stop : Char) (other : stop.isDigit = false) (noDot : stop ≠ '.') :
    stop ∉ (Ipv4Addr.display address).toList := by
  rw [display_chars]
  simp only [List.mem_append, List.mem_cons, not_or]
  exact ⟨digits_plain _ _ other, noDot, digits_plain _ _ other, noDot, digits_plain _ _ other, noDot,
    digits_plain _ _ other⟩

theorem display_inj (first second : Ipv4Addr)
    (same : (Ipv4Addr.display first).toList = (Ipv4Addr.display second).toList) : first = second := by
  have read := read_display_ipv4 first
  rw [same, read_display_ipv4] at read
  cases read
  rfl

theorem number_inj (first second : Nat) (same : (toString first).toList = (toString second).toList) :
    first = second := by
  have digits : Nat.toDigits 10 first = Nat.toDigits 10 second := by simpa using same
  have read := congrArg (fun text => Nat.ofDigitChars 10 text 0) digits
  rwa [Nat.ofDigitChars_ten_toDigits, Nat.ofDigitChars_ten_toDigits] at read

theorem ipv4_from_inj (first second : UInt32) (same : ipv4From first = ipv4From second) : first = second := by
  have a := congrArg (fun address => address.a.toNat) same
  have b := congrArg (fun address => address.b.toNat) same
  have c := congrArg (fun address => address.c.toNat) same
  have d := congrArg (fun address => address.d.toNat) same
  simp [ipv4From, Nat.shiftRight_eq_div_pow] at a b c d
  have firstBound := first.toNat_lt
  have secondBound := second.toNat_lt
  apply UInt32.toNat_inj.mp
  omega

theorem hex_upper_inj (first second : UInt8) (same : hexUpper first = hexUpper second) : first = second := by
  have digits : ∀ low high : Fin 16, (Nat.digitChar low).toUpper = (Nat.digitChar high).toUpper → low = high := by decide
  have firstBound := first.toNat_lt
  have secondBound := second.toNat_lt
  simp only [hexUpper, List.cons.injEq, and_true] at same
  have high := congrArg Fin.val (digits ⟨first.toNat / 16, by omega⟩ ⟨second.toNat / 16, by omega⟩ same.1)
  have low := congrArg Fin.val (digits ⟨first.toNat % 16, by omega⟩ ⟨second.toNat % 16, by omega⟩ same.2)
  dsimp only at high low
  apply UInt8.toNat_inj.mp
  omega

theorem endpoint_plain (ip : UInt32) (port : UInt16) (stop : Char) (other : stop.isDigit = false) (noDot : stop ≠ '.')
    (noColon : stop ≠ ':') : stop ∉ (endpointText ip port).toList := by
  rw [endpointText, String.toList_append, String.toList_append]
  simp only [List.mem_append, not_or]
  refine ⟨display_plain _ stop other noDot, ?_, digits_plain _ stop other⟩
  intro member
  exact noColon (List.mem_singleton.mp member)

theorem endpoint_inj (ip otherIp : UInt32) (port otherPort : UInt16)
    (same : (endpointText ip port).toList = (endpointText otherIp otherPort).toList) : ip = otherIp ∧ port = otherPort := by
  rw [endpointText, endpointText, String.toList_append, String.toList_append, String.toList_append,
    String.toList_append] at same
  obtain ⟨address, number⟩ := field_text_inj rfl (display_plain _ ':' rfl (by decide))
    (display_plain _ ':' rfl (by decide)) same
  exact ⟨ipv4_from_inj _ _ (display_inj _ _ address), UInt16.toNat_inj.mp (number_inj _ _ number)⟩

theorem header_inj (time other : String) (key otherKey : FlowKey) (count otherCount : Nat) (rest others : List Char)
    (plain : '\n' ∉ time.toList) (plainOther : '\n' ∉ other.toList)
    (same : (header time key count).toList ++ rest = (header other otherKey otherCount).toList ++ others) :
    time = other ∧ key = otherKey ∧ count = otherCount ∧ rest = others := by
  obtain ⟨src, srcPort, dst, dstPort⟩ := key
  obtain ⟨otherSrc, otherSrcPort, otherDst, otherDstPort⟩ := otherKey
  simp only [header, String.toList_append, List.append_assoc, -String.reduceToList] at same
  have opened := List.append_cancel_left (List.append_cancel_left (List.append_cancel_left same))
  obtain ⟨sameTime, flow⟩ := field_text_inj rfl plain plainOther opened
  obtain ⟨source, arrow⟩ := field_text_inj rfl (endpoint_plain _ _ ' ' rfl (by decide) (by decide))
    (endpoint_plain _ _ ' ' rfl (by decide) (by decide)) flow
  obtain ⟨target, counted⟩ := field_text_inj rfl (endpoint_plain _ _ '\n' rfl (by decide) (by decide))
    (endpoint_plain _ _ '\n' rfl (by decide) (by decide)) arrow
  obtain ⟨number, closing⟩ := field_text_inj rfl (digits_plain _ ' ' rfl) (digits_plain _ ' ' rfl) counted
  obtain ⟨rfl, rfl⟩ := endpoint_inj _ _ _ _ source
  obtain ⟨rfl, rfl⟩ := endpoint_inj _ _ _ _ target
  refine ⟨String.toList_inj.mp sameTime, rfl, number_inj _ _ number, ?_⟩
  exact List.append_cancel_left (List.append_cancel_left closing)

def followingPairs (bytes : Bytes) : List Char := bytes.flatMap fun byte => ' ' :: hexUpper byte

def dumped (bytes : Bytes) : List Char := (String.intercalate " " (bytes.map fun byte => String.ofList (hexUpper byte))).toList

theorem dumped_cons (byte : UInt8) (bytes : Bytes) : dumped (byte :: bytes) = hexUpper byte ++ followingPairs bytes := by
  induction bytes generalizing byte with
  | nil => simp [dumped, followingPairs]
  | cons next rest ih =>
      have more := ih next
      rw [dumped, List.map_cons] at more
      rw [dumped, List.map_cons, List.map_cons, String.intercalate_cons_cons, String.toList_append, String.toList_append,
        more, String.toList_ofList, List.append_assoc]
      rfl

theorem following_pairs_inj (first second : Bytes) (long : first.length = second.length)
    (same : followingPairs first = followingPairs second) : first = second := by
  induction first generalizing second with
  | nil => exact (List.eq_nil_of_length_eq_zero long.symm).symm
  | cons byte first ih =>
      cases second with
      | nil => cases long
      | cons next second =>
          have split (byte : UInt8) (bytes : Bytes) :
              followingPairs (byte :: bytes) = (' ' :: hexUpper byte) ++ followingPairs bytes := rfl
          rw [split, split] at same
          obtain ⟨pair, rest⟩ := List.append_inj same rfl
          rw [hex_upper_inj byte next (List.cons.inj pair).2, ih second (Nat.succ.inj long) rest]

theorem dumped_inj (first second : Bytes) (long : first.length = second.length) (same : dumped first = dumped second) :
    first = second := by
  cases first with
  | nil => exact (List.eq_nil_of_length_eq_zero long.symm).symm
  | cons byte first =>
      cases second with
      | nil => cases long
      | cons next second =>
          rw [dumped_cons, dumped_cons] at same
          obtain ⟨pair, rest⟩ := List.append_inj same rfl
          rw [hex_upper_inj byte next pair, following_pairs_inj first second (Nat.succ.inj long) rest]

theorem hex_dump_chars (data : Bytes) :
    (hexDump data 32).toList = dumped (data.take 32) ++ if data.length > 32 then "...".toList else [] := by
  have part : data.take (min data.length 32) = data.take 32 := by
    by_cases small : data.length ≤ 32
    · rw [Nat.min_eq_left small, List.take_of_length_le (Nat.le_refl _), List.take_of_length_le small]
    · rw [Nat.min_eq_right (by omega)]
  rw [hexDump, part]
  by_cases long : data.length > 32
  · rw [if_pos long, if_pos long, String.toList_append]
    rfl
  · rw [if_neg long, if_neg long, List.append_nil]
    rfl

theorem hex_upper_plain (byte : UInt8) : '\n' ∉ hexUpper byte := by
  have digits : ∀ digit : Fin 16, '\n' ≠ (Nat.digitChar digit).toUpper := by decide
  have bound := byte.toNat_lt
  simp only [hexUpper, List.mem_cons, List.not_mem_nil, or_false, not_or]
  exact ⟨digits ⟨byte.toNat / 16, by omega⟩, digits ⟨byte.toNat % 16, by omega⟩⟩

theorem hex_dump_plain (data : Bytes) : '\n' ∉ (hexDump data 32).toList := by
  have pairs (bytes : Bytes) : '\n' ∉ dumped bytes := by
    cases bytes with
    | nil => simp [dumped]
    | cons byte bytes =>
        rw [dumped_cons]
        simp [followingPairs, hex_upper_plain]
  rw [hex_dump_chars]
  simp only [List.mem_append, not_or]
  refine ⟨pairs _, ?_⟩
  split
  · decide
  · exact List.not_mem_nil

theorem entry_inj (idx : Nat) (pkt other : Packet) (rest others : List Char)
    (same : (entry idx pkt).toList ++ rest = (entry idx other).toList ++ others) :
    shown pkt = shown other ∧ rest = others := by
  simp only [entry, String.toList_append, List.append_assoc, -String.reduceToList] at same
  have opened := List.append_cancel_left (List.append_cancel_left (List.append_cancel_left same))
  obtain ⟨number, data⟩ := field_text_inj rfl (digits_plain _ ' ' rfl) (digits_plain _ ' ' rfl) opened
  obtain ⟨dump, behind⟩ := field_text_inj rfl (hex_dump_plain pkt.data) (hex_dump_plain other.data) data
  have long := number_inj _ _ number
  have taken : (pkt.data.take 32).length = (other.data.take 32).length := by
    rw [List.length_take, List.length_take, long]
  rw [hex_dump_chars, hex_dump_chars, long] at dump
  rw [shown, shown, long, dumped_inj _ _ taken (List.append_cancel_right dump)]
  exact ⟨rfl, behind⟩

theorem entry_shown (idx : Nat) (pkt other : Packet) (same : shown pkt = shown other) : entry idx pkt = entry idx other := by
  obtain ⟨long, first⟩ := Prod.mk.inj same
  apply String.toList_inj.mp
  simp only [entry, String.toList_append, hex_dump_chars, long, first, -String.reduceToList]

def lines (first : Nat) (packets : List Packet) : List Char :=
  fileText ((packets.zipIdx first).map fun (pkt, idx) => entry idx pkt)

theorem lines_cons (first : Nat) (pkt : Packet) (packets : List Packet) :
    lines first (pkt :: packets) = (entry first pkt).toList ++ lines (first + 1) packets := rfl

theorem lines_inj (first : Nat) (packets others : List Packet) (long : packets.length = others.length)
    (rest behind : List Char) (same : lines first packets ++ rest = lines first others ++ behind) :
    packets.map shown = others.map shown ∧ rest = behind := by
  induction packets generalizing first others with
  | nil =>
      rw [List.eq_nil_of_length_eq_zero long.symm] at same ⊢
      exact ⟨rfl, same⟩
  | cons pkt packets ih =>
      cases others with
      | nil => cases long
      | cons other others =>
          rw [lines_cons, lines_cons, List.append_assoc, List.append_assoc] at same
          obtain ⟨head, tail⟩ := entry_inj first pkt other _ _ same
          obtain ⟨more, behind⟩ := ih (first + 1) others (Nat.succ.inj long) tail
          exact ⟨by rw [List.map_cons, List.map_cons, head, more], behind⟩

theorem lines_shown (first : Nat) (packets others : List Packet) (same : packets.map shown = others.map shown) :
    lines first packets = lines first others := by
  induction packets generalizing first others with
  | nil =>
      cases others with
      | nil => rfl
      | cons other others => cases same
  | cons pkt packets ih =>
      cases others with
      | nil => cases same
      | cons other others =>
          obtain ⟨head, tail⟩ := List.cons.inj same
          rw [lines_cons, lines_cons, entry_shown first pkt other head, ih (first + 1) others tail]

theorem log_burst_chars (time : String) (key : FlowKey) (packets : List Packet) :
    fileText (logBurst time key packets) =
      (header time key packets.length).toList ++ (lines 0 packets ++ (separator ++ "\n\n").toList) := by
  rw [logBurst, fileText, List.cons_append, List.flatMap_cons, List.flatMap_append, List.flatMap_singleton]
  rfl

structure BurstRecord where
  timestampStr : String
  key : FlowKey
  packets : List Packet

def BurstRecord.text (record : BurstRecord) : List Char :=
  fileText (logBurst record.timestampStr record.key record.packets)

def BurstRecord.evidence (record : BurstRecord) : String × FlowKey × List (Nat × Bytes) :=
  (record.timestampStr, record.key, record.packets.map shown)

theorem record_text_inj (record other : BurstRecord) (rest others : List Char)
    (plain : '\n' ∉ record.timestampStr.toList) (plainOther : '\n' ∉ other.timestampStr.toList)
    (same : record.text ++ rest = other.text ++ others) : record.evidence = other.evidence ∧ rest = others := by
  rw [BurstRecord.text, BurstRecord.text, log_burst_chars, log_burst_chars, List.append_assoc, List.append_assoc,
    List.append_assoc, List.append_assoc] at same
  obtain ⟨time, key, count, body⟩ := header_inj _ _ _ _ _ _ _ _ plain plainOther same
  obtain ⟨packets, footer⟩ := lines_inj 0 _ _ count _ _ body
  rw [BurstRecord.evidence, BurstRecord.evidence, time, key, packets]
  exact ⟨rfl, List.append_cancel_left footer⟩

theorem record_evidence_text (record other : BurstRecord) (same : record.evidence = other.evidence) :
    record.text = other.text := by
  obtain ⟨time, key, packets⟩ : record.timestampStr = other.timestampStr ∧ record.key = other.key ∧
      record.packets.map shown = other.packets.map shown := by
    simpa [BurstRecord.evidence] using same
  have count := congrArg List.length packets
  rw [List.length_map, List.length_map] at count
  rw [BurstRecord.text, BurstRecord.text, log_burst_chars, log_burst_chars, time, key, count, lines_shown 0 _ _ packets]

theorem record_text_starts (record : BurstRecord) : record.text ≠ [] := by
  rw [BurstRecord.text, log_burst_chars]
  simp only [header, String.toList_append, List.append_assoc, -String.reduceToList]
  exact List.append_ne_nil_of_left_ne_nil (by decide) _

def burstFile (records : List BurstRecord) : List Char := records.flatMap BurstRecord.text

-- The log of bursts that are written one after the other tells the time and the flow
-- of each of them, the number of its packets, and the length and the first 32 bytes of
-- each packet, and nothing else of them.
theorem burst_file_reads_back (records others : List BurstRecord)
    (plain : ∀ record ∈ records, '\n' ∉ record.timestampStr.toList)
    (plainOthers : ∀ record ∈ others, '\n' ∉ record.timestampStr.toList) :
    burstFile records = burstFile others ↔ records.map BurstRecord.evidence = others.map BurstRecord.evidence := by
  induction records generalizing others with
  | nil =>
      cases others with
      | nil => exact ⟨fun _ => rfl, fun _ => rfl⟩
      | cons other others =>
          refine ⟨fun same => ?_, fun same => by cases same⟩
          exact absurd (List.append_eq_nil_iff.mp same.symm).1 (record_text_starts other)
  | cons record records ih =>
      cases others with
      | nil =>
          refine ⟨fun same => ?_, fun same => by cases same⟩
          exact absurd (List.append_eq_nil_iff.mp same).1 (record_text_starts record)
      | cons other others =>
          have further := ih others (fun entry member => plain entry (List.mem_cons_of_mem _ member))
            (fun entry member => plainOthers entry (List.mem_cons_of_mem _ member))
          refine ⟨fun same => ?_, fun same => ?_⟩
          · obtain ⟨head, tail⟩ := record_text_inj record other _ _ (plain record List.mem_cons_self)
              (plainOthers other List.mem_cons_self) same
            rw [List.map_cons, List.map_cons, head, further.mp tail]
          · obtain ⟨head, tail⟩ := List.cons.inj same
            rw [burstFile, burstFile, List.flatMap_cons, List.flatMap_cons, record_evidence_text record other head]
            exact congrArg _ (further.mpr tail)

def cutPacket (last : UInt8) : BurstRecord :=
  ⟨"2024-05-01 12:00:00.000", (0x0A000001, 53, 0x0A000002, 5353), [⟨0, List.replicate 32 7 ++ [last]⟩]⟩

theorem cut_packets_alike : burstFile [cutPacket 0] = burstFile [cutPacket 1] :=
  (burst_file_reads_back [cutPacket 0] [cutPacket 1] (by decide +kernel) (by decide +kernel)).mpr rfl

end NetworkIds.PcapLogger
