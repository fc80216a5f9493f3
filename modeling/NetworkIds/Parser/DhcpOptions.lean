import NetworkIds.Lib.LastWins
import NetworkIds.Lib.Tlv
import NetworkIds.Parser.Dhcp

set_option autoImplicit false

namespace NetworkIds.Parser

open Checked Endian Utf8 LastWins

def leadingByte (data : Bytes) : UInt8 := data.getD 0 0

def leadingU32 (data : Bytes) : UInt32 :=
  u32FromBe (data.getD 0 0) (data.getD 1 0) (data.getD 2 0) (data.getD 3 0)

def leadingAddress (data : Bytes) : Ipv4Addr := ⟨data.getD 0 0, data.getD 1 0, data.getD 2 0, data.getD 3 0⟩

def takeDhcpOption (opts : DhcpOptions) (option : Tlv) : DhcpOptions where
  messageType := (option.carried 53 1 leadingByte).or opts.messageType
  serverIp := (option.carried 54 4 leadingAddress).or opts.serverIp
  hostname := (option.carried 12 0 fromUtf8Lossy).or opts.hostname
  leaseTime := (option.carried 51 4 leadingU32).or opts.leaseTime
  renewalTime := (option.carried 58 4 leadingU32).or opts.renewalTime
  vendorClass := (option.carried 60 0 fromUtf8Lossy).or opts.vendorClass
  parameterRequestList := (option.carried 55 0 id).getD opts.parameterRequestList

theorem apply_dhcp_option_eq (option : Tlv) (opts : DhcpOptions) :
    applyDhcpOption option.tag option.value opts = .ok (takeDhcpOption opts option) := by
  obtain ⟨code, data, short⟩ := option
  unfold applyDhcpOption
  dsimp only
  split
  case h_2 | h_4 | h_6 =>
    by_cases long : data.length ≥ 4
    · simp (disch := omega) only [if_pos long, index_getD, ok_bind]
      simp [takeDhcpOption, Tlv.carried, long, leadingU32, leadingAddress]
    · rw [if_neg long]
      simp [takeDhcpOption, Tlv.carried, long]
  case h_3 =>
    by_cases long : data.length ≥ 1
    · simp (disch := omega) only [if_pos long, index_getD, ok_bind]
      simp [takeDhcpOption, Tlv.carried, long, leadingByte]
    · rw [if_neg long]
      simp [takeDhcpOption, Tlv.carried, long]
  all_goals simp_all [takeDhcpOption, Tlv.carried]

inductive DhcpItem where
  | pad
  | option (item : Tlv) (coded : item.tag ≠ 0 ∧ item.tag ≠ 255)

namespace DhcpItem

def encode : DhcpItem → Bytes
  | pad => [0]
  | option item _ => item.encode

def carriedOption : DhcpItem → Option Tlv
  | pad => none
  | option item _ => some item

end DhcpItem

def optionsOf (items : List DhcpItem) : List Tlv := items.filterMap DhcpItem.carriedOption

theorem options_of_cons (item : DhcpItem) (rest : List DhcpItem) :
    optionsOf (item :: rest) = item.carriedOption.toList ++ optionsOf rest := by
  cases item with
  | pad => rfl
  | option item coded => rfl

def endOption (after : Option Bytes) : Bytes :=
  match after with
  | some bytes => 255 :: bytes
  | none => []

theorem dhcp_item_read (before rest : Bytes) (item : DhcpItem) (fuel : Nat) (opts : DhcpOptions)
    (fits : (before ++ (item.encode ++ rest)).length ≤ isizeMax) :
    dhcpOptionLoop (before ++ (item.encode ++ rest)) (fuel + 1) before.length opts =
      dhcpOptionLoop ((before ++ item.encode) ++ rest) fuel (before ++ item.encode).length
        (item.carriedOption.toList.foldl takeDhcpOption opts) := by
  have total : (before ++ (item.encode ++ rest)).length = before.length + (item.encode.length + rest.length) := by
    rw [List.length_append, List.length_append]
  have room := usize_room fits 4 (by omega)
  rw [dhcpOptionLoop]
  cases item with
  | pad =>
      have present : before.length + 1 ≤ (before ++ (DhcpItem.pad.encode ++ rest)).length := by
        rw [total, DhcpItem.encode, List.length_singleton]
        omega
      have tag : index (before ++ (DhcpItem.pad.encode ++ rest)) before.length = .ok 0 := index_append before _ rfl 0
      rw [add_ok (by omega), ok_bind, if_pos present, tag, ok_bind, if_neg (by decide), if_pos rfl, ok_bind,
        ← List.append_assoc, List.length_append]
      rfl
  | option item coded =>
      have length := item.encode_length
      have valueLength := item.length_byte_nat
      simp only [DhcpItem.encode] at total room ⊢
      simp (disch := omega) only [add_ok, ok_bind]
      rw [if_pos (by omega), item.tag_read before rest rfl, ok_bind, if_neg coded.2, if_neg coded.1, if_neg (by omega),
        item.length_read before rest rfl (by omega), ok_bind, valueLength]
      simp (disch := omega) only [add_ok, ok_bind]
      rw [if_neg (by omega), item.value_read before rest rfl rfl, ok_bind, apply_dhcp_option_eq, ok_bind,
        ← List.append_assoc, List.length_append, length, Nat.add_comm 2]
      rfl

theorem dhcp_items_read (items : List DhcpItem) (before : Bytes) (after : Option Bytes) (fuel : Nat)
    (opts : DhcpOptions) (enough : items.length < fuel)
    (fits : (before ++ (items.flatMap DhcpItem.encode ++ endOption after)).length ≤ isizeMax) :
    dhcpOptionLoop (before ++ (items.flatMap DhcpItem.encode ++ endOption after)) fuel before.length opts =
      .ok ((optionsOf items).foldl takeDhcpOption opts) := by
  induction items generalizing before fuel opts with
  | nil =>
      obtain ⟨fuel, rfl⟩ := Nat.exists_eq_add_one_of_ne_zero (Nat.ne_of_gt enough)
      have total : (before ++ endOption after).length = before.length + (endOption after).length := List.length_append
      rw [List.flatMap_nil, List.nil_append] at fits ⊢
      have room := usize_room fits 4 (by omega)
      rw [dhcpOptionLoop, add_ok (by omega), ok_bind]
      cases after with
      | none =>
          have ended : ¬ before.length + 1 ≤ (before ++ endOption none).length := by
            rw [total, endOption, List.length_nil]
            omega
          rw [if_neg ended]
          rfl
      | some bytes =>
          have present : before.length + 1 ≤ (before ++ endOption (some bytes)).length := by
            rw [total, endOption, List.length_cons]
            omega
          have marker : index (before ++ endOption (some bytes)) before.length = .ok 255 := index_append before _ rfl 0
          rw [if_pos present, marker, ok_bind, if_pos rfl]
          rfl
  | cons item rest ih =>
      obtain ⟨fuel, rfl⟩ := Nat.exists_eq_add_one_of_ne_zero (Nat.ne_of_gt (Nat.lt_of_le_of_lt (Nat.zero_le _) enough))
      rw [List.flatMap_cons, List.append_assoc] at fits ⊢
      rw [dhcp_item_read before _ item fuel opts fits, ih _ _ _ (by simpa using enough) (by rwa [List.append_assoc]),
        options_of_cons, List.foldl_append]

attribute [ext] DhcpOptions

theorem dhcp_options_fold (options : List Tlv) :
    options.foldl takeDhcpOption .empty = {
      messageType := last (Tlv.carried 53 1 leadingByte) options
      serverIp := last (Tlv.carried 54 4 leadingAddress) options
      hostname := last (Tlv.carried 12 0 fromUtf8Lossy) options
      leaseTime := last (Tlv.carried 51 4 leadingU32) options
      renewalTime := last (Tlv.carried 58 4 leadingU32) options
      vendorClass := last (Tlv.carried 60 0 fromUtf8Lossy) options
      parameterRequestList := (last (Tlv.carried 55 0 id) options).getD [] } := by
  apply DhcpOptions.ext
  · exact (fold_last takeDhcpOption options _ DhcpOptions.messageType _ fun _ _ => rfl).trans Option.or_none
  · exact (fold_last takeDhcpOption options _ DhcpOptions.serverIp _ fun _ _ => rfl).trans Option.or_none
  · exact (fold_last takeDhcpOption options _ DhcpOptions.hostname _ fun _ _ => rfl).trans Option.or_none
  · exact (fold_last takeDhcpOption options _ DhcpOptions.leaseTime _ fun _ _ => rfl).trans Option.or_none
  · exact (fold_last takeDhcpOption options _ DhcpOptions.renewalTime _ fun _ _ => rfl).trans Option.or_none
  · exact (fold_last takeDhcpOption options _ DhcpOptions.vendorClass _ fun _ _ => rfl).trans Option.or_none
  · exact fold_last_default takeDhcpOption options _ DhcpOptions.parameterRequestList _ fun _ _ => rfl

structure DhcpHeader where
  op : UInt8
  hardwareType : UInt8
  hardwareLength : UInt8
  hops : UInt8
  transactionId : UInt32
  secs : UInt16
  flags : UInt16
  clientIp : Ipv4Addr
  yourIp : Ipv4Addr
  serverIp : Ipv4Addr
  relayIp : Ipv4Addr
  clientMac : Mac
  hardwarePadding : Octets 10
  serverName : Octets 64
  bootFile : Octets 128

def DhcpHeader.leadingPart (header : DhcpHeader) : Bytes :=
  [header.op, header.hardwareType, header.hardwareLength, header.hops] ++ u32ToBe header.transactionId ++
    u16ToBe header.secs ++ u16ToBe header.flags ++ header.clientIp.encode ++ header.yourIp.encode ++
    header.serverIp.encode ++ header.relayIp.encode

def DhcpHeader.namePart (header : DhcpHeader) : Bytes :=
  header.hardwarePadding.val ++ header.serverName.val ++ header.bootFile.val

def DhcpHeader.encode (header : DhcpHeader) : Bytes :=
  header.leadingPart ++ header.clientMac.val ++ header.namePart

def dhcpCookie : Bytes := [0x63, 0x82, 0x53, 0x63]

def dhcpMessage (header : DhcpHeader) (items : List DhcpItem) (after : Option Bytes) : Bytes :=
  header.encode ++ (dhcpCookie ++ (items.flatMap DhcpItem.encode ++ endOption after))

theorem dhcp_header_length (header : DhcpHeader) : header.encode.length = 236 := by
  have mac := header.clientMac.property
  have padding := header.hardwarePadding.property
  have serverName := header.serverName.property
  have bootFile := header.bootFile.property
  have leading : header.leadingPart.length = 28 := rfl
  simp only [DhcpHeader.encode, DhcpHeader.namePart, List.length_append, leading, mac, padding, serverName, bootFile]

theorem dhcp_leading_read (header : DhcpHeader) (rest : Bytes) (i : Nat) (inside : i < 28) :
    index (header.encode ++ rest) i = .ok (header.leadingPart.getD i 0) := by
  rw [DhcpHeader.encode, List.append_assoc, List.append_assoc]
  exact index_leading header.leadingPart _ inside

theorem dhcp_client_mac_read (header : DhcpHeader) (rest : Bytes) :
    slice (header.encode ++ rest) 28 34 = .ok header.clientMac.val := by
  have mac := header.clientMac.property
  rw [DhcpHeader.encode, List.append_assoc, List.append_assoc]
  exact slice_middle header.leadingPart header.clientMac.val _ rfl (by rw [mac]; rfl)

theorem item_not_empty (item : DhcpItem) : 1 ≤ item.encode.length := by
  cases item with
  | pad => exact Nat.le_refl 1
  | option option coded => exact Nat.le_add_left 1 _

-- Every message is read back: the header fields, and of each code the value of
-- the last option that is long enough.
theorem dhcp_round_trip (header : DhcpHeader) (items : List DhcpItem) (after : Option Bytes)
    (fits : (dhcpMessage header items after).length ≤ isizeMax) :
    parseDhcp (dhcpMessage header items after) = .ok (some {
      transactionId := header.transactionId
      clientIp := header.clientIp
      yourIp := header.yourIp
      relayIp := header.relayIp
      clientMac := header.clientMac
      messageType := last (Tlv.carried 53 1 leadingByte) (optionsOf items)
      serverIp := last (Tlv.carried 54 4 leadingAddress) (optionsOf items)
      hostname := last (Tlv.carried 12 0 fromUtf8Lossy) (optionsOf items)
      leaseTime := last (Tlv.carried 51 4 leadingU32) (optionsOf items)
      renewalTime := last (Tlv.carried 58 4 leadingU32) (optionsOf items)
      vendorClass := last (Tlv.carried 60 0 fromUtf8Lossy) (optionsOf items)
      parameterRequestList := (last (Tlv.carried 55 0 id) (optionsOf items)).getD [] }) := by
  have headerLength := dhcp_header_length header
  have shorter := flat_map_longer DhcpItem.encode item_not_empty items
  have cookieLength : (header.encode ++ dhcpCookie).length = 240 := by
    rw [List.length_append, headerLength]
    rfl
  have shape : dhcpMessage header items after =
      (header.encode ++ dhcpCookie) ++ (items.flatMap DhcpItem.encode ++ endOption after) := by
    rw [dhcpMessage, List.append_assoc]
  have total := congrArg List.length shape
  rw [List.length_append, cookieLength, List.length_append] at total
  have cookie : slice (dhcpMessage header items after) 236 240 = .ok dhcpCookie :=
    slice_middle header.encode dhcpCookie _ headerLength (by rw [headerLength]; rfl)
  have mac : slice (dhcpMessage header items after) 28 34 = .ok header.clientMac.val := dhcp_client_mac_read header _
  have leading : ∀ i, i < 28 → index (dhcpMessage header items after) i = .ok (header.leadingPart.getD i 0) :=
    dhcp_leading_read header _
  have options := dhcp_items_read items (header.encode ++ dhcpCookie) after (dhcpMessage header items after).length .empty
    (by omega) (by rwa [← shape])
  rw [← shape, cookieLength] at options
  rw [parseDhcp, if_neg (by omega), cookie, ok_bind, if_neg (by simp [dhcpCookie])]
  simp (disch := decide) only [leading, ok_bind]
  rw [mac, ok_bind, copy_mac_val, ok_bind, options, ok_bind]
  have transactionId : u32FromBe (header.leadingPart.getD 4 0) (header.leadingPart.getD 5 0)
      (header.leadingPart.getD 6 0) (header.leadingPart.getD 7 0) = header.transactionId :=
    u32_round_trip header.transactionId
  rw [transactionId, dhcp_options_fold]
  rfl

def discoverHeader : DhcpHeader where
  op := 1
  hardwareType := 1
  hardwareLength := 6
  hops := 0
  transactionId := 0x3903F326
  secs := 0
  flags := 0
  clientIp := ⟨0, 0, 0, 0⟩
  yourIp := ⟨0, 0, 0, 0⟩
  serverIp := ⟨0, 0, 0, 0⟩
  relayIp := ⟨0, 0, 0, 0⟩
  clientMac := Octets.fill 6 2
  hardwarePadding := Octets.fill 10 0
  serverName := Octets.fill 64 0
  bootFile := Octets.fill 128 0

-- A second message type wins; an empty one does not count.
def repeatedMessageType : List DhcpItem :=
  [.option ⟨53, [1], by decide⟩ (by decide), .pad, .option ⟨53, [3], by decide⟩ (by decide),
    .option ⟨53, [], by decide⟩ (by decide)]

theorem discover_read :
    ∃ info, parseDhcp (dhcpMessage discoverHeader repeatedMessageType (some [53, 1, 8])) = .ok (some info) ∧
      info.transactionId = 0x3903F326 ∧ info.messageType = some 3 ∧ info.hostname = none :=
  ⟨_, dhcp_round_trip discoverHeader repeatedMessageType (some [53, 1, 8]) (by decide +kernel), rfl, rfl, rfl⟩

end NetworkIds.Parser
