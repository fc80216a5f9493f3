import NetworkIds.Engine.AddressLiterals

set_option autoImplicit false

namespace NetworkIds.Engine

open NetworkIds.Parser

-- Who a packet is from or to: an IP address, or a MAC address where no network layer
-- was decoded.
inductive Host where
  | ip (address : IpAddr)
  | mac (address : Mac)
deriving DecidableEq

def Host.text : Host → String
  | .ip address => IpAddr.display address
  | .mac address => formatMac address

def srcHost (pkt : ParsedPacket) : Host :=
  match pkt.network with
  | .ipv4 ip => .ip (.v4 ip.srcIp)
  | .ipv6 ip => .ip (.v6 ip.srcIp)
  | .arp arp => .ip (.v4 arp.senderIp)
  | .none => .mac pkt.srcMac

def dstHost (pkt : ParsedPacket) : Host :=
  match pkt.network with
  | .ipv4 ip => .ip (.v4 ip.dstIp)
  | .ipv6 ip => .ip (.v6 ip.dstIp)
  | .arp arp => .ip (.v4 arp.targetIp)
  | .none => .mac pkt.dstMac

theorem resolve_src_text (pkt : ParsedPacket) : resolveSrcIp pkt = (srcHost pkt).text := by
  rw [resolveSrcIp, srcHost]
  cases pkt.network with
  | ipv4 ip => rfl
  | ipv6 ip => rfl
  | arp arp => rfl
  | none => rfl

theorem resolve_dst_text (pkt : ParsedPacket) : resolveDstIp pkt = (dstHost pkt).text := by
  rw [resolveDstIp, dstHost]
  cases pkt.network with
  | ipv4 ip => rfl
  | ipv6 ip => rfl
  | arp arp => rfl
  | none => rfl

def hexPair (byte : UInt8) : List Char :=
  [Nat.digitChar (byte.toNat / 16), Nat.digitChar (byte.toNat % 16)]

theorem hex_byte_chars (byte : UInt8) : (hexByte byte).toList = hexPair byte := by
  have bound := byte.toNat_lt
  rw [hexByte, hexPair]
  by_cases small : byte < 16
  · have value : byte.toNat < 16 := small
    have digit : (hexText byte.toNat).toList = [Nat.digitChar byte.toNat] := by
      rw [hexText, String.toList_ofList, Nat.toDigits_of_lt_base value]
    rw [if_pos small, String.toList_append, digit, Nat.div_eq_of_lt value, Nat.mod_eq_of_lt value]
    rfl
  · have value : 16 ≤ byte.toNat := Nat.le_of_not_lt small
    rw [if_neg small, hexText, String.toList_ofList, Nat.toDigits_of_base_le (by decide) value,
      Nat.toDigits_of_lt_base (by omega)]
    rfl

theorem hex_pair_read (byte : UInt8) :
    readDigits 16 4 (hexPair byte) 0 0 = some (2, byte.toNat, []) := by
  have bound := byte.toNat_lt
  have high : toDigit 16 (Nat.digitChar (byte.toNat / 16)) = some (byte.toNat / 16) :=
    digit_char_read 16 _ (Nat.le_refl 16) (by omega)
  have low : toDigit 16 (Nat.digitChar (byte.toNat % 16)) = some (byte.toNat % 16) :=
    digit_char_read 16 _ (Nat.le_refl 16) (by omega)
  have value : byte.toNat / 16 * 16 + byte.toNat % 16 = byte.toNat := Nat.div_add_mod' byte.toNat 16
  rw [hexPair, readDigits, high]
  dsimp only
  rw [if_neg (by decide), readDigits, low]
  dsimp only
  rw [if_neg (by decide), readDigits, Nat.zero_mul, Nat.zero_add, Nat.zero_add, value]

-- A byte is read as a group of an IPv6 address, its leading zero included.
theorem read_byte_group (byte : UInt8) (rest : List Char) (ends : NumberEnds 16 rest) :
    readNumber 16 4 true 65535 (hexPair byte ++ rest) = some (byte.toNat, rest) := by
  have bound := byte.toNat_lt
  rw [readNumber, read_digits_append 16 4 _ rest ends 0 0 _ _ (hex_pair_read byte)]
  dsimp only
  rw [if_neg (by decide), if_neg (by simp), if_neg (by omega)]

def followingBytes (bytes : Bytes) : List Char := bytes.flatMap fun byte => ':' :: hexPair byte

theorem format_mac_chars (byte : UInt8) (bytes : Bytes) :
    (String.intercalate ":" ((byte :: bytes).map hexByte)).toList = hexPair byte ++ followingBytes bytes := by
  induction bytes generalizing byte with
  | nil => simp [followingBytes, hex_byte_chars]
  | cons next rest ih =>
      have more := ih next
      rw [List.map_cons] at more
      rw [List.map_cons, List.map_cons, String.intercalate_cons_cons, String.toList_append, String.toList_append, more,
        hex_byte_chars, List.append_assoc]
      rfl

theorem hex_pair_plain (byte : UInt8) : '.' ∉ hexPair byte := fun dot =>
  digits_only 16 4 _ 0 0 _ _ (hex_pair_read byte) '.' dot (by decide)

theorem following_bytes_plain (bytes : Bytes) : '.' ∉ followingBytes bytes := by
  intro dot
  obtain ⟨byte, -, inside⟩ := List.mem_flatMap.mp dot
  rcases List.mem_cons.mp inside with same | digit
  · cases same
  · exact hex_pair_plain byte digit

theorem following_bytes_end (bytes : Bytes) : NumberEnds 16 (followingBytes bytes) := by
  intro c head
  cases bytes with
  | nil => cases head
  | cons byte bytes =>
      cases head
      decide

def byteGroup (byte : UInt8) : UInt16 := UInt16.ofNat byte.toNat

theorem read_following_bytes (left i : Nat) (bytes : Bytes) (few : bytes.length ≤ left) (separated : 0 < i) :
    readGroups left i (followingBytes bytes) = (bytes.map byteGroup, false, []) := by
  induction bytes generalizing left i with
  | nil => exact groups_end_read left i (.inl rfl) (List.not_mem_nil)
  | cons byte bytes ih =>
      cases left with
      | zero => simp at few
      | succ left =>
          rw [readGroups, no_dot_no_embedded i _ (following_bytes_plain _), ite_self]
          dsimp only
          have text : followingBytes (byte :: bytes) = ':' :: (hexPair byte ++ followingBytes bytes) := rfl
          rw [text, readSeparator, if_pos separated, readGivenChar, if_pos rfl]
          dsimp only
          rw [read_byte_group byte _ (following_bytes_end bytes)]
          dsimp only
          rw [ih left (i + 1) (by simpa using few) (Nat.succ_pos i)]
          rfl

-- The address parser finds six groups in a MAC address.
theorem read_mac_text (address : Mac) :
    readGroups 8 0 (formatMac address).toList = (address.val.map byteGroup, false, []) := by
  obtain ⟨bytes, length⟩ := address
  cases bytes with
  | nil => cases length
  | cons byte bytes =>
      have few : bytes.length ≤ 7 := by
        rw [List.length_cons] at length
        omega
      have plain : '.' ∉ hexPair byte ++ followingBytes bytes := by
        simp [hex_pair_plain, following_bytes_plain]
      rw [formatMac, format_mac_chars, readGroups, no_dot_no_embedded 0 _ plain, ite_self]
      dsimp only
      rw [readSeparator, if_neg (by decide), read_byte_group byte _ (following_bytes_end bytes)]
      dsimp only
      rw [read_following_bytes 7 1 bytes few Nat.one_pos]
      rfl

theorem mac_not_address (address : Mac) : parseIpAddr (formatMac address) = none := by
  have plain : '.' ∉ (formatMac address).toList := by
    obtain ⟨bytes, length⟩ := address
    cases bytes with
    | nil => cases length
    | cons byte bytes =>
        rw [formatMac, format_mac_chars]
        simp [hex_pair_plain, following_bytes_plain]
  have six : (address.val.map byteGroup).length = 6 := by rw [List.length_map, address.property]
  rw [parseIpAddr, readIpAddr, no_dot_no_ipv4 _ plain]
  dsimp only
  rw [readIpv6Addr, read_mac_text]
  dsimp only
  rw [if_neg (by omega)]
  rfl

theorem format_mac_injective (first second : Mac) (same : formatMac first = formatMac second) : first = second := by
  have groups := read_mac_text first
  rw [same, read_mac_text, Prod.mk.injEq] at groups
  have injective : Function.Injective byteGroup := by
    intro byte other equal
    have numbers := congrArg UInt16.toNat equal
    have bound := byte.toNat_lt
    have otherBound := other.toNat_lt
    rw [byteGroup, byteGroup, UInt16.toNat_ofNat', UInt16.toNat_ofNat'] at numbers
    exact UInt8.toNat_inj.mp (by omega)
  exact Subtype.ext (List.map_injective_iff.mpr injective groups.1.symm)

theorem host_text_injective (first second : Host) (same : first.text = second.text) : first = second := by
  cases first with
  | ip address =>
      cases second with
      | ip other =>
          have parsed := parse_display address
          have shown : IpAddr.display address = IpAddr.display other := same
          rw [shown, parse_display] at parsed
          rw [Option.some.inj parsed]
      | mac other =>
          have parsed := parse_display address
          have shown : IpAddr.display address = formatMac other := same
          rw [shown, mac_not_address] at parsed
          cases parsed
  | mac address =>
      cases second with
      | ip other =>
          have parsed := parse_display other
          have shown : formatMac address = IpAddr.display other := same
          rw [← shown, mac_not_address] at parsed
          cases parsed
      | mac other => rw [format_mac_injective address other same]

variable {τ : Type}

def trackedHost (rule : EvaluatedRule τ) (pkt : ParsedPacket) : Host :=
  match connRateLimit rule with
  | some connRate => if connRate.per = "dst_ip" then dstHost pkt else srcHost pkt
  | none => srcHost pkt

theorem tracking_key_text (rule : EvaluatedRule τ) (pkt : ParsedPacket) :
    resolveTrackingKey rule pkt = (trackedHost rule pkt).text := by
  unfold resolveTrackingKey trackedHost
  cases connRateLimit rule with
  | none => exact resolve_src_text pkt
  | some connRate =>
      dsimp only
      split
      · rename_i source
        rw [source, if_neg (by decide)]
        exact resolve_src_text pkt
      · rename_i destination
        rw [destination, if_pos rfl]
        exact resolve_dst_text pkt
      · rename_i other
        rw [if_neg other]
        exact resolve_src_text pkt

theorem tracking_keys_identify_hosts (rule other : EvaluatedRule τ) (first second : ParsedPacket) :
    resolveTrackingKey rule first = resolveTrackingKey other second ↔
      trackedHost rule first = trackedHost other second := by
  rw [tracking_key_text, tracking_key_text]
  constructor
  · exact host_text_injective _ _
  · intro same
    rw [same]

end NetworkIds.Engine
