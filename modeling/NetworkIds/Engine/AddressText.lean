import NetworkIds.Engine.Address

set_option autoImplicit false

namespace NetworkIds.Engine

open NetworkIds.Parser Endian

def NumberEnds (radix : Nat) (rest : List Char) : Prop := ∀ c ∈ rest.head?, toDigit radix c = none

theorem read_digits_more (radix maxDigits : Nat) (text rest : List Char) (digitCount result count number : Nat)
    (read : readDigits radix maxDigits text digitCount result = some (count, number, [])) :
    readDigits radix maxDigits (text ++ rest) digitCount result = readDigits radix maxDigits rest count number := by
  induction text generalizing digitCount result with
  | nil =>
      cases read
      rfl
  | cons c text ih =>
      rw [readDigits] at read
      rw [List.cons_append, readDigits]
      cases digit : toDigit radix c with
      | none =>
          rw [digit] at read
          cases read
      | some value =>
          rw [digit] at read
          dsimp only at read ⊢
          split at read
          case isTrue => cases read
          case isFalse few =>
            rw [if_neg few]
            exact ih _ _ read

theorem read_digits_append (radix maxDigits : Nat) (text rest : List Char) (ends : NumberEnds radix rest)
    (digitCount result count number : Nat)
    (read : readDigits radix maxDigits text digitCount result = some (count, number, [])) :
    readDigits radix maxDigits (text ++ rest) digitCount result = some (count, number, rest) := by
  rw [read_digits_more radix maxDigits text rest digitCount result count number read]
  cases rest with
  | nil => rfl
  | cons c rest =>
      have stop : toDigit radix c = none := ends c rfl
      rw [readDigits, stop]

theorem digit_char_read (radix digit : Nat) (hex : radix ≤ 16) (small : digit < radix) :
    toDigit radix digit.digitChar = some digit := by
  have all : ∀ digit < 16, toDigit 16 digit.digitChar = some digit := by decide
  have value := all digit (by omega)
  unfold toDigit at value ⊢
  rw [Option.filter_eq_some_iff] at value ⊢
  exact ⟨value.1, decide_eq_true small⟩

theorem read_to_digits (radix maxDigits : Nat) (base : 1 < radix) (hex : radix ≤ 16) (number : Nat)
    (few : (Nat.toDigits radix number).length ≤ maxDigits) :
    readDigits radix maxDigits (Nat.toDigits radix number) 0 0 =
      some ((Nat.toDigits radix number).length, number, []) := by
  induction number using Nat.strongRecOn with
  | ind number ih =>
      by_cases single : number < radix
      · rw [Nat.toDigits_of_lt_base single, List.length_singleton] at few ⊢
        rw [readDigits, digit_char_read radix number hex single]
        dsimp only
        rw [if_neg (by omega), readDigits]
        simp only [Nat.zero_mul, Nat.zero_add]
      · have last : number % radix < radix := Nat.mod_lt number (by omega)
        have value : number / radix * radix + number % radix = number := Nat.div_add_mod' number radix
        rw [Nat.toDigits_of_base_le base (by omega), List.length_append, List.length_singleton] at few ⊢
        have front := ih (number / radix) (Nat.div_lt_self (by omega) base) (by omega)
        rw [read_digits_more radix maxDigits _ _ 0 0 _ _ front, readDigits, digit_char_read radix _ hex last]
        dsimp only
        rw [if_neg (by omega), readDigits, value]

theorem leading_digit (number : Nat) (positive : 0 < number) : (Nat.toDigits 10 number).head? ≠ some '0' := by
  induction number using Nat.strongRecOn with
  | ind number ih =>
      by_cases single : number < 10
      · rw [Nat.toDigits_of_lt_base single]
        simp only [List.head?_cons, ne_eq, Option.some.injEq, Nat.digitChar_eq_zero]
        omega
      · have front := ih (number / 10) (Nat.div_lt_self positive (by decide)) (Nat.div_pos (by omega) (by decide))
        rw [List.head?_eq_some_head Nat.toDigits_ne_nil] at front
        rw [Nat.toDigits_of_base_le (by decide) (by omega), List.head?_append,
          List.head?_eq_some_head Nat.toDigits_ne_nil]
        exact front

theorem octet_digits (octet : UInt8) :
    readDigits 10 3 (toString octet.toNat).toList 0 0 =
      some ((toString octet.toNat).toList.length, octet.toNat, []) ∧
    (toString octet.toNat).toList ≠ [] ∧
    ¬((toString octet.toNat).toList.head? = some '0' ∧ (toString octet.toNat).toList.length > 1) := by
  have small := octet.toNat_lt
  rw [Nat.toString_eq_repr, Nat.toList_repr]
  refine ⟨?_, Nat.toDigits_ne_nil, ?_⟩
  · apply read_to_digits 10 3 (by decide) (by decide)
    exact (Nat.length_toDigits_le_iff (by decide) (by decide)).mpr (by omega)
  · rintro ⟨zeros, longer⟩
    by_cases positive : 0 < octet.toNat
    · exact leading_digit _ positive zeros
    · have zero : octet.toNat = 0 := by omega
      rw [zero] at longer
      exact absurd longer (by decide)

theorem read_octet_display (octet : UInt8) (rest : List Char) (ends : NumberEnds 10 rest) :
    readNumber 10 3 false 255 ((toString octet.toNat).toList ++ rest) = some (octet.toNat, rest) := by
  obtain ⟨digits, nonempty, plain⟩ := octet_digits octet
  have small := octet.toNat_lt
  rw [readNumber, read_digits_append 10 3 _ rest ends 0 0 _ _ digits]
  dsimp only
  have some_digit : (toString octet.toNat).toList.length ≠ 0 := by simp
  have head : ((toString octet.toNat).toList ++ rest).head? = (toString octet.toNat).toList.head? := by
    rw [List.head?_append, List.head?_eq_some_head nonempty]
    rfl
  rw [head, if_neg some_digit, if_neg (fun both => plain both.2), if_neg (by omega)]

theorem display_chars (address : Ipv4Addr) :
    (Ipv4Addr.display address).toList =
      (toString address.a.toNat).toList ++ '.' :: ((toString address.b.toNat).toList ++ '.' ::
        ((toString address.c.toNat).toList ++ '.' :: (toString address.d.toNat).toList)) := by
  show (toString address.a.toNat ++ "." ++ toString address.b.toNat ++ "." ++ toString address.c.toNat ++ "." ++
    toString address.d.toNat).toList = _
  simp only [String.toList_append, List.append_assoc]
  rfl

theorem ends_at_separator (rest : List Char) : NumberEnds 10 ('.' :: rest) := by
  intro c head
  cases head
  decide

theorem read_first_octet (octet : UInt8) (rest : List Char) (ends : NumberEnds 10 rest) :
    readOctet 0 ((toString octet.toNat).toList ++ rest) = some (octet, rest) := by
  rw [readOctet, readSeparator, if_neg (by decide), read_octet_display octet rest ends]
  simp

theorem read_next_octet (i : Nat) (octet : UInt8) (rest : List Char) (ends : NumberEnds 10 rest) :
    readOctet (i + 1) ('.' :: ((toString octet.toNat).toList ++ rest)) = some (octet, rest) := by
  rw [readOctet, readSeparator, if_pos (Nat.succ_pos i), readGivenChar, if_pos rfl]
  dsimp only
  rw [read_octet_display octet rest ends]
  simp

theorem read_display_ipv4 (address : Ipv4Addr) :
    readIpv4Addr (Ipv4Addr.display address).toList = some (address, []) := by
  have last : NumberEnds 10 [] := by
    intro c head
    cases head
  rw [display_chars, readIpv4Addr, read_first_octet _ _ (ends_at_separator _)]
  dsimp only [bind, Option.bind]
  rw [read_next_octet _ _ _ (ends_at_separator _)]
  dsimp only
  rw [read_next_octet _ _ _ (ends_at_separator _)]
  dsimp only
  rw [← List.append_nil (toString address.d.toNat).toList, read_next_octet _ _ _ last]
  rfl

theorem parse_display_ipv4 (address : Ipv4Addr) : parseIpAddr (Ipv4Addr.display address) = some (.v4 address) := by
  rw [parseIpAddr, readIpAddr, read_display_ipv4]

theorem digits_only (radix maxDigits : Nat) (text : List Char) (digitCount result count number : Nat)
    (read : readDigits radix maxDigits text digitCount result = some (count, number, [])) :
    ∀ c ∈ text, toDigit radix c ≠ none := by
  induction text generalizing digitCount result with
  | nil => simp
  | cons c text ih =>
      rw [readDigits] at read
      cases digit : toDigit radix c with
      | none =>
          rw [digit] at read
          cases read
      | some value =>
          rw [digit] at read
          dsimp only at read
          split at read
          case isTrue => cases read
          case isFalse few =>
            intro other member
            rcases List.mem_cons.mp member with rfl | later
            · simp [digit]
            · exact ih _ _ read other later

def groupDigits (group : UInt16) : List Char := Nat.toDigits 16 group.toNat

theorem group_digits_read (group : UInt16) :
    readDigits 16 4 (groupDigits group) 0 0 = some ((groupDigits group).length, group.toNat, []) :=
  read_to_digits 16 4 (by decide) (Nat.le_refl 16) group.toNat
    ((Nat.length_toDigits_le_iff (by decide) (by decide)).mpr group.toNat_lt)

theorem group_digits_hex (group : UInt16) : ∀ c ∈ groupDigits group, toDigit 16 c ≠ none :=
  digits_only 16 4 _ 0 0 _ _ (group_digits_read group)

theorem read_group_display (group : UInt16) (rest : List Char) (ends : NumberEnds 16 rest) :
    readNumber 16 4 true 65535 (groupDigits group ++ rest) = some (group.toNat, rest) := by
  have small := group.toNat_lt
  have present : (groupDigits group).length ≠ 0 := by simp [groupDigits]
  rw [readNumber, read_digits_append 16 4 _ rest ends 0 0 _ _ (group_digits_read group)]
  dsimp only
  rw [if_neg present, if_neg (by simp), if_neg (by omega)]

theorem read_digits_suffix (radix maxDigits : Nat) (text : List Char) (digitCount result : Nat)
    {count number : Nat} {rest : List Char}
    (read : readDigits radix maxDigits text digitCount result = some (count, number, rest)) : rest <:+ text := by
  induction text generalizing digitCount result with
  | nil =>
      cases read
      exact List.suffix_refl []
  | cons c text ih =>
      rw [readDigits] at read
      split at read
      · cases read
        exact List.suffix_refl _
      · split at read
        · cases read
        · exact (ih _ _ read).trans (List.suffix_cons c text)

theorem number_digits {radix maxDigits maxValue : Nat} {allowZeroPrefix : Bool} {text rest : List Char} {number : Nat}
    (read : readNumber radix maxDigits allowZeroPrefix maxValue text = some (number, rest)) :
    ∃ count, readDigits radix maxDigits text 0 0 = some (count, number, rest) ∧ count ≠ 0 ∧
      ¬(!allowZeroPrefix ∧ text.head? = some '0' ∧ count > 1) ∧ number ≤ maxValue := by
  rw [readNumber] at read
  cases digits : readDigits radix maxDigits text 0 0 with
  | none =>
      rw [digits] at read
      cases read
  | some found =>
      obtain ⟨count, value, after⟩ := found
      rw [digits] at read
      dsimp only at read
      split at read
      case isTrue => cases read
      case isFalse present =>
        split at read
        case isTrue => cases read
        case isFalse plain =>
          split at read
          case isTrue => cases read
          case isFalse small =>
            cases read
            exact ⟨count, rfl, present, plain, by omega⟩

theorem read_octet_suffix {text rest : List Char} {octet : UInt8} (read : readOctet 0 text = some (octet, rest)) :
    rest <:+ text := by
  rw [readOctet, readSeparator, if_neg (by decide), Option.map_eq_some_iff] at read
  obtain ⟨⟨number, after⟩, found, same⟩ := read
  obtain ⟨count, digits, -⟩ := number_digits found
  cases same
  exact read_digits_suffix 10 3 text 0 0 digits

theorem no_dot_no_ipv4 (text : List Char) (plain : '.' ∉ text) : readIpv4Addr text = none := by
  rw [readIpv4Addr]
  cases first : readOctet 0 text with
  | none => rfl
  | some found =>
      obtain ⟨a, rest⟩ := found
      have suffix := read_octet_suffix first
      have second : readOctet 1 rest = none := by
        rw [readOctet, readSeparator, if_pos Nat.one_pos]
        cases rest with
        | nil => rfl
        | cons c rest =>
            have other : c ≠ '.' := by
              rintro rfl
              exact plain (suffix.mem List.mem_cons_self)
            rw [readGivenChar, if_neg other]
            rfl
      dsimp only [bind, Option.bind]
      rw [second]

theorem no_dot_no_embedded (i : Nat) (text : List Char) (plain : '.' ∉ text) :
    readSeparator ':' i readIpv4Addr text = none := by
  rw [readSeparator]
  by_cases separated : i > 0
  · rw [if_pos separated]
    cases text with
    | nil => rfl
    | cons c text =>
        by_cases colon : c = ':'
        · rw [readGivenChar, if_pos colon]
          exact no_dot_no_ipv4 text fun dot => plain (List.mem_cons_of_mem c dot)
        · rw [readGivenChar, if_neg colon]
  · rw [if_neg separated]
    exact no_dot_no_ipv4 text plain

-- Behind the groups stands "::" or nothing, so that no further group is read.
def GroupsEnd (rest : List Char) : Prop := rest = [] ∨ ∃ more, rest = ':' :: ':' :: more

theorem groups_end_number {rest : List Char} (ends : GroupsEnd rest) : NumberEnds 16 rest := by
  intro c head
  rcases ends with rfl | ⟨more, rfl⟩
  · cases head
  · cases head
    decide

theorem no_group_read (i : Nat) {rest : List Char} (ends : GroupsEnd rest) :
    readSeparator ':' i (readNumber 16 4 true 65535) rest = none := by
  rw [readSeparator]
  by_cases separated : i > 0
  · rw [if_pos separated]
    rcases ends with rfl | ⟨more, rfl⟩
    · rfl
    · rfl
  · rw [if_neg separated]
    rcases ends with rfl | ⟨more, rfl⟩
    · rfl
    · rfl

theorem groups_end_read (left i : Nat) {rest : List Char} (ends : GroupsEnd rest) (plain : '.' ∉ rest) :
    readGroups left i rest = ([], false, rest) := by
  cases left with
  | zero => rfl
  | succ left =>
      rw [readGroups, no_dot_no_embedded i rest plain, ite_self]
      dsimp only
      rw [no_group_read i ends]

def followingText (groups : List UInt16) : List Char := groups.flatMap fun group => ':' :: groupDigits group

def groupsText : List UInt16 → List Char
  | [] => []
  | group :: rest => groupDigits group ++ followingText rest

theorem display_segments_chars (groups : List UInt16) : (displaySegments groups).toList = groupsText groups := by
  have shown (group : UInt16) : (hexText group.toNat).toList = groupDigits group := String.toList_ofList
  cases groups with
  | nil => rfl
  | cons group rest =>
      rw [groupsText]
      induction rest generalizing group with
      | nil => simp [displaySegments, followingText, shown]
      | cons next rest ih =>
          have more := ih next
          rw [displaySegments, List.map_cons] at more
          rw [displaySegments, List.map_cons, List.map_cons, String.intercalate_cons_cons, String.toList_append,
            String.toList_append, more, shown, List.append_assoc]
          rfl

theorem following_ends (groups : List UInt16) {rest : List Char} (ends : GroupsEnd rest) :
    NumberEnds 16 (followingText groups ++ rest) := by
  cases groups with
  | nil => exact groups_end_number ends
  | cons group groups =>
      intro c head
      cases head
      decide

theorem following_plain (groups : List UInt16) : '.' ∉ followingText groups := by
  intro dot
  obtain ⟨group, -, inside⟩ := List.mem_flatMap.mp dot
  rcases List.mem_cons.mp inside with same | digit
  · cases same
  · exact group_digits_hex group '.' digit (by decide)

theorem groups_plain (groups : List UInt16) : '.' ∉ groupsText groups := by
  cases groups with
  | nil => simp [groupsText]
  | cons group rest =>
      intro dot
      rcases List.mem_append.mp dot with digit | later
      · exact group_digits_hex group '.' digit (by decide)
      · exact following_plain rest later

theorem read_following (left i : Nat) (groups : List UInt16) (rest : List Char) (few : groups.length ≤ left)
    (separated : 0 < i) (ends : GroupsEnd rest) (plain : '.' ∉ rest) :
    readGroups left i (followingText groups ++ rest) = (groups, false, rest) := by
  induction groups generalizing left i with
  | nil => exact groups_end_read left i ends plain
  | cons group groups ih =>
      have noDot : '.' ∉ followingText (group :: groups) ++ rest := by
        simp [following_plain, plain]
      cases left with
      | zero => simp at few
      | succ left =>
          rw [readGroups, no_dot_no_embedded i _ noDot, ite_self]
          dsimp only
          have text : followingText (group :: groups) ++ rest =
              ':' :: (groupDigits group ++ (followingText groups ++ rest)) := by simp [followingText]
          rw [text, readSeparator, if_pos separated, readGivenChar, if_pos rfl]
          dsimp only
          rw [read_group_display group _ (following_ends groups ends)]
          dsimp only
          rw [ih left (i + 1) (by simpa using few) (Nat.succ_pos i), UInt16.ofNat_toNat]

theorem read_groups_display (left : Nat) (groups : List UInt16) (rest : List Char) (few : groups.length ≤ left)
    (ends : GroupsEnd rest) (plain : '.' ∉ rest) :
    readGroups left 0 (groupsText groups ++ rest) = (groups, false, rest) := by
  cases groups with
  | nil => exact groups_end_read left 0 ends plain
  | cons group groups =>
      have noDot : '.' ∉ groupsText (group :: groups) ++ rest := by
        simp [groups_plain, plain]
      cases left with
      | zero => simp at few
      | succ left =>
          rw [readGroups, no_dot_no_embedded 0 _ noDot, ite_self]
          dsimp only
          rw [groupsText, List.append_assoc, readSeparator, if_neg (by decide),
            read_group_display group _ (following_ends groups ends)]
          dsimp only
          rw [read_following left 1 groups rest (by simpa using few) Nat.one_pos ends plain, UInt16.ofNat_toNat]

def ZeroRun (groups : List UInt16) (span : Span) : Prop :=
  span.start + span.len ≤ groups.length ∧
    ∀ i, span.start ≤ i → i < span.start + span.len → groups[i]? = some 0

theorem zero_run_empty (groups : List UInt16) : ZeroRun groups ⟨0, 0⟩ :=
  ⟨Nat.zero_le _, fun i _ below => absurd below (Nat.not_lt_zero i)⟩

theorem zero_run_extended (groups : List UInt16) (current : Span) (i : Nat) (run : ZeroRun groups current)
    (here : groups[i]? = some 0) (reaches : current.len ≠ 0 → current.start + current.len = i) :
    ZeroRun groups ⟨if current.len = 0 then i else current.start, current.len + 1⟩ := by
  obtain ⟨inside, -⟩ := List.getElem?_eq_some_iff.mp here
  by_cases fresh : current.len = 0
  · rw [if_pos fresh, fresh]
    refine ⟨inside, ?_⟩
    intro j first last
    have same : j = i := by
      dsimp only at first last
      omega
    rw [same]
    exact here
  · rw [if_neg fresh]
    have behind := reaches fresh
    refine ⟨by dsimp only; omega, ?_⟩
    intro j first last
    dsimp only at first last
    by_cases before : j < current.start + current.len
    · exact run.2 j first before
    · have same : j = i := by omega
      rw [same]
      exact here

theorem longest_zeros_run (before groups : List UInt16) (current longest : Span)
    (opened : ZeroRun (before ++ groups) current) (found : ZeroRun (before ++ groups) longest)
    (reaches : current.len ≠ 0 → current.start + current.len = before.length) :
    ZeroRun (before ++ groups) (longestZeros groups before.length current longest) := by
  induction groups generalizing before current longest with
  | nil => exact found
  | cons group rest ih =>
      have moved : before ++ group :: rest = (before ++ [group]) ++ rest := by simp
      have length : (before ++ [group]).length = before.length + 1 := by simp
      have step := ih (before ++ [group])
      rw [length, ← moved] at step
      rw [longestZeros]
      by_cases zero : group = 0
      · rw [if_pos zero]
        have here : (before ++ group :: rest)[before.length]? = some 0 := by simp [zero]
        have extended := zero_run_extended _ current before.length opened here reaches
        have ends : (if current.len = 0 then before.length else current.start) + (current.len + 1) =
            before.length + 1 := by
          split
          · omega
          · have behind := reaches ‹_›
            omega
        generalize (if current.len = 0 then before.length else current.start) = start at extended ends ⊢
        refine step _ _ extended ?_ fun _ => ends
        split
        · exact extended
        · exact found
      · rw [if_neg zero]
        exact step _ _ (zero_run_empty _) found (by simp)

theorem zero_run_split (groups : List UInt16) (span : Span) (run : ZeroRun groups span) :
    groups.take span.start ++ List.replicate span.len 0 ++ groups.drop (span.start + span.len) = groups := by
  have zeros : (groups.drop span.start).take span.len = List.replicate span.len 0 := by
    rw [List.eq_replicate_iff]
    constructor
    · rw [List.length_take, List.length_drop]
      have inside := run.1
      omega
    · intro group member
      obtain ⟨i, small, rfl⟩ := List.mem_iff_getElem.mp member
      have bound : i < span.len := by
        rw [List.length_take] at small
        omega
      have value := run.2 (span.start + i) (by omega) (by omega)
      rw [List.getElem_take, List.getElem_drop]
      exact (List.getElem_eq_iff _).mpr value
  rw [← zeros, List.append_assoc, ← List.drop_drop, List.take_append_drop, List.take_append_drop]

theorem groups_octets (count : Nat) (octets : Bytes) (even : octets.length = 2 * count) :
    (u16Groups octets).length = count ∧ (u16Groups octets).flatMap u16ToBe = octets := by
  induction count generalizing octets with
  | zero =>
      rw [List.length_eq_zero_iff.mp even]
      exact ⟨rfl, rfl⟩
  | succ count ih =>
      match octets, even with
      | high :: low :: rest, even =>
          obtain ⟨length, same⟩ := ih rest (by simp only [List.length_cons] at even; omega)
          rw [u16Groups, List.length_cons, length, List.flatMap_cons, same, u16_to_from_be]
          exact ⟨rfl, rfl⟩

theorem segments_length (address : Ipv6Addr) : (Ipv6Addr.segments address).length = 8 :=
  (groups_octets 8 address.octets.val address.octets.property).1

theorem of_segments (address : Ipv6Addr) : Ipv6Addr.ofSegments (Ipv6Addr.segments address) = address := by
  have octets := (groups_octets 8 address.octets.val address.octets.property).2
  have sized : ((Ipv6Addr.segments address).flatMap u16ToBe).length = 16 := by
    rw [Ipv6Addr.segments, octets]
    exact address.octets.property
  rw [Ipv6Addr.ofSegments, dif_pos sized]
  congr 1
  exact Subtype.ext octets

theorem read_whole (groups : List UInt16) (length : groups.length = 8) :
    readIpv6Addr (groupsText groups) = some (Ipv6Addr.ofSegments groups, []) := by
  have read := read_groups_display 8 groups [] (by omega) (.inl rfl) (by simp)
  rw [List.append_nil] at read
  rw [readIpv6Addr, read]
  dsimp only
  rw [if_pos length]

theorem read_two_parts {text rest after : List Char} {head tail : List UInt16} {embedded : Bool}
    (first : readGroups 8 0 text = (head, false, ':' :: ':' :: rest)) (short : head.length < 8)
    (second : readGroups (8 - (head.length + 1)) 0 rest = (tail, embedded, after)) :
    readIpv6Addr text =
      some (Ipv6Addr.ofSegments (head ++ List.replicate (8 - head.length - tail.length) 0 ++ tail), after) := by
  rw [readIpv6Addr, first]
  dsimp only
  rw [if_neg (by omega), if_neg (by decide)]
  simp only [second]

theorem read_compressed (head tail : List UInt16) (few : head.length + tail.length < 8) :
    readIpv6Addr (groupsText head ++ ':' :: ':' :: groupsText tail) =
      some (Ipv6Addr.ofSegments (head ++ List.replicate (8 - head.length - tail.length) 0 ++ tail), []) := by
  have first := read_groups_display 8 head (':' :: ':' :: groupsText tail) (by omega) (.inr ⟨_, rfl⟩)
    (by simp [groups_plain])
  have second := read_groups_display (8 - (head.length + 1)) tail [] (by omega) (.inl rfl) (by simp)
  rw [List.append_nil] at second
  exact read_two_parts first (by omega) second

theorem parse_groups (text : String) (address : Ipv6Addr) (plain : '.' ∉ text.toList)
    (read : readIpv6Addr text.toList = some (address, [])) : parseIpAddr text = some (.v6 address) := by
  rw [parseIpAddr, readIpAddr, no_dot_no_ipv4 _ plain, read]
  rfl

theorem mapped_octets {address : Ipv6Addr} {ipv4 : Ipv4Addr} (mapped : Ipv6Addr.toIpv4Mapped address = some ipv4) :
    address.octets.val = [0, 0, 0, 0, 0, 0, 0, 0, 0, 0, 0xFF, 0xFF, ipv4.a, ipv4.b, ipv4.c, ipv4.d] := by
  unfold Ipv6Addr.toIpv4Mapped at mapped
  split at mapped
  · rename_i octets
    cases mapped
    exact octets
  · cases mapped

theorem read_mapped (ipv4 : Ipv4Addr) :
    readGroups 7 0 (groupDigits 0xFFFF ++ ':' :: (Ipv4Addr.display ipv4).toList) =
      ([0xFFFF, u16FromBe ipv4.a ipv4.b, u16FromBe ipv4.c ipv4.d], true, []) := by
  have ends : NumberEnds 16 (':' :: (Ipv4Addr.display ipv4).toList) := by
    intro c head
    cases head
    decide
  have noAddress : readSeparator ':' 0 readIpv4Addr (groupDigits 0xFFFF ++ ':' :: (Ipv4Addr.display ipv4).toList) =
      none := rfl
  have embedded : readGroups 6 1 (':' :: (Ipv4Addr.display ipv4).toList) =
      ([u16FromBe ipv4.a ipv4.b, u16FromBe ipv4.c ipv4.d], true, []) := by
    rw [readGroups, if_pos (by decide), readSeparator, if_pos Nat.one_pos, readGivenChar, if_pos rfl]
    dsimp only
    rw [read_display_ipv4]
  rw [readGroups, noAddress, ite_self]
  dsimp only
  rw [readSeparator, if_neg (by decide), read_group_display _ _ ends]
  dsimp only
  rw [embedded, UInt16.ofNat_toNat]

theorem parse_mapped {address : Ipv6Addr} {ipv4 : Ipv4Addr} (mapped : Ipv6Addr.toIpv4Mapped address = some ipv4) :
    parseIpAddr ("::ffff:" ++ Ipv4Addr.display ipv4) = some (.v6 address) := by
  have text : ("::ffff:" ++ Ipv4Addr.display ipv4).toList =
      ':' :: ':' :: (groupDigits 0xFFFF ++ ':' :: (Ipv4Addr.display ipv4).toList) := by
    rw [String.toList_append]
    rfl
  have noAddress (more : List Char) : readIpv4Addr (':' :: more) = none := rfl
  have nothing (more : List Char) : readGroups 8 0 (':' :: ':' :: more) = ([], false, ':' :: ':' :: more) := rfl
  have segments : Ipv6Addr.segments address =
      [] ++ List.replicate 5 0 ++ [0xFFFF, u16FromBe ipv4.a ipv4.b, u16FromBe ipv4.c ipv4.d] := by
    rw [Ipv6Addr.segments, mapped_octets mapped]
    rfl
  have read := read_two_parts (nothing _) (by decide) (read_mapped ipv4)
  rw [List.length_nil, List.length_cons, List.length_cons, List.length_singleton] at read
  rw [parseIpAddr, text, readIpAddr, noAddress, read, ← segments, of_segments]
  rfl

-- What the display of an address says is read back: the longest run of zero
-- groups is the one that "::" leaves out.
theorem parse_display_ipv6 (address : Ipv6Addr) : parseIpAddr (Ipv6Addr.display address) = some (.v6 address) := by
  have length := segments_length address
  unfold Ipv6Addr.display
  cases mapped : Ipv6Addr.toIpv4Mapped address with
  | some ipv4 => exact parse_mapped mapped
  | none =>
      dsimp only
      have run := longest_zeros_run [] (Ipv6Addr.segments address) ⟨0, 0⟩ ⟨0, 0⟩ (zero_run_empty _) (zero_run_empty _)
        (by simp)
      rw [List.length_nil, List.nil_append] at run
      generalize longestZeros (Ipv6Addr.segments address) 0 ⟨0, 0⟩ ⟨0, 0⟩ = zeroes at run ⊢
      have split := zero_run_split _ zeroes run
      have inside := run.1
      by_cases compressed : zeroes.len > 1
      · rw [if_pos compressed]
        have text : (displaySegments ((Ipv6Addr.segments address).take zeroes.start) ++ "::" ++
            displaySegments ((Ipv6Addr.segments address).drop (zeroes.start + zeroes.len))).toList =
            groupsText ((Ipv6Addr.segments address).take zeroes.start) ++
              ':' :: ':' :: groupsText ((Ipv6Addr.segments address).drop (zeroes.start + zeroes.len)) := by
          rw [String.toList_append, String.toList_append, display_segments_chars, display_segments_chars,
            List.append_assoc]
          rfl
        apply parse_groups
        · rw [text]
          simp [groups_plain]
        · have headLength : ((Ipv6Addr.segments address).take zeroes.start).length = zeroes.start := by
            rw [List.length_take]
            omega
          have tailLength : ((Ipv6Addr.segments address).drop (zeroes.start + zeroes.len)).length =
              8 - (zeroes.start + zeroes.len) := by rw [List.length_drop, length]
          have gap : 8 - zeroes.start - (8 - (zeroes.start + zeroes.len)) = zeroes.len := by omega
          rw [text, read_compressed _ _ (by omega), headLength, tailLength, gap, split, of_segments]
      · rw [if_neg compressed]
        apply parse_groups
        · rw [display_segments_chars]
          exact groups_plain _
        · rw [display_segments_chars, read_whole _ length, of_segments]

theorem decimal_digit {c : Char} {digit : Nat} (read : toDigit 10 c = some digit) :
    digit < 10 ∧ c = digit.digitChar := by
  unfold toDigit at read
  obtain ⟨value, small⟩ := Option.filter_eq_some_iff.mp read
  have bound : digit < 10 := of_decide_eq_true small
  refine ⟨bound, Char.toNat_inj.mp ?_⟩
  rw [Nat.toNat_digitChar_of_lt_ten bound]
  split at value
  · rename_i decimal
    have first : 48 ≤ c.toNat := decimal.1
    cases value
    omega
  · split at value
    · rename_i lower
      have first : 97 ≤ c.toNat := lower.1
      cases value
      omega
    · split at value
      · rename_i upper
        have first : 65 ≤ c.toNat := upper.1
        cases value
        omega
      · cases value

theorem digits_written (maxDigits : Nat) (text : List Char) (digitCount result : Nat) {count number : Nat}
    {rest : List Char} (read : readDigits 10 maxDigits text digitCount result = some (count, number, rest))
    (positive : 0 < result) :
    ∃ digits, text = digits ++ rest ∧ Nat.toDigits 10 number = Nat.toDigits 10 result ++ digits := by
  induction text generalizing digitCount result with
  | nil =>
      cases read
      exact ⟨[], rfl, by simp⟩
  | cons c text ih =>
      rw [readDigits] at read
      cases digit : toDigit 10 c with
      | none =>
          rw [digit] at read
          cases read
          exact ⟨[], rfl, by simp⟩
      | some value =>
          rw [digit] at read
          dsimp only at read
          split at read
          case isTrue => cases read
          case isFalse few =>
            obtain ⟨small, rfl⟩ := decimal_digit digit
            obtain ⟨digits, rfl, written⟩ := ih _ _ read (by omega)
            have extended := Nat.toDigits_append_toDigits (b := 10) (by decide) positive small
            rw [Nat.toDigits_of_lt_base small, Nat.mul_comm] at extended
            exact ⟨value.digitChar :: digits, rfl, by rw [written, ← extended]; simp⟩

theorem digits_counted (radix maxDigits : Nat) (text : List Char) (digitCount result : Nat) {count number : Nat}
    {rest : List Char} (read : readDigits radix maxDigits text digitCount result = some (count, number, rest)) :
    digitCount ≤ count ∧ (count = digitCount → number = result ∧ rest = text) := by
  induction text generalizing digitCount result with
  | nil =>
      cases read
      simp
  | cons c text ih =>
      rw [readDigits] at read
      split at read
      · cases read
        simp
      · split at read
        · cases read
        · have more := (ih _ _ read).1
          exact ⟨by omega, by omega⟩

-- No zero stands in front, so a decimal number has one text.
theorem leading_digits_written (maxDigits : Nat) {text rest : List Char} {count number : Nat}
    (read : readDigits 10 maxDigits text 0 0 = some (count, number, rest)) (present : count ≠ 0)
    (plain : ¬(text.head? = some '0' ∧ count > 1)) : text = Nat.toDigits 10 number ++ rest := by
  cases text with
  | nil =>
      cases read
      exact absurd rfl present
  | cons c text =>
      rw [readDigits] at read
      cases digit : toDigit 10 c with
      | none =>
          rw [digit] at read
          cases read
          exact absurd rfl present
      | some first =>
          rw [digit] at read
          dsimp only at read
          split at read
          case isTrue => cases read
          case isFalse few =>
            simp only [Nat.zero_mul, Nat.zero_add] at read
            obtain ⟨bound, rfl⟩ := decimal_digit digit
            by_cases zero : first = 0
            · subst zero
              have counted := digits_counted 10 maxDigits text 1 0 read
              have single : count = 1 := by
                by_contra longer
                exact plain ⟨rfl, by omega⟩
              obtain ⟨rfl, rfl⟩ := counted.2 single
              rfl
            · obtain ⟨behind, rfl, written⟩ := digits_written maxDigits text 1 first read (by omega)
              rw [written, Nat.toDigits_of_lt_base bound]
              rfl

theorem number_written {text rest : List Char} {number : Nat} (read : readNumber 10 3 false 255 text = some (number, rest)) :
    text = Nat.toDigits 10 number ++ rest ∧ number ≤ 255 := by
  obtain ⟨count, digits, present, plain, small⟩ := number_digits read
  exact ⟨leading_digits_written 3 digits present fun zeros => plain ⟨rfl, zeros⟩, small⟩

theorem first_octet_written {text rest : List Char} {octet : UInt8} (read : readOctet 0 text = some (octet, rest)) :
    text = (toString octet.toNat).toList ++ rest := by
  rw [readOctet, readSeparator, if_neg (by decide), Option.map_eq_some_iff] at read
  obtain ⟨⟨number, after⟩, found, same⟩ := read
  obtain ⟨written, small⟩ := number_written found
  cases same
  rw [UInt8.toNat_ofNat', Nat.mod_eq_of_lt (by omega)]
  simpa using written

theorem next_octet_written {i : Nat} {text rest : List Char} {octet : UInt8}
    (read : readOctet (i + 1) text = some (octet, rest)) : text = '.' :: ((toString octet.toNat).toList ++ rest) := by
  rw [readOctet, readSeparator, if_pos (Nat.succ_pos i)] at read
  cases text with
  | nil => cases read
  | cons c text =>
      by_cases dot : c = '.'
      · rw [readGivenChar, if_pos dot] at read
        have first : readOctet 0 text = some (octet, rest) := read
        rw [dot, ← first_octet_written first]
      · rw [readGivenChar, if_neg dot] at read
        cases read

theorem ipv4_written {text rest : List Char} {address : Ipv4Addr} (read : readIpv4Addr text = some (address, rest)) :
    text = (Ipv4Addr.display address).toList ++ rest := by
  rw [readIpv4Addr] at read
  obtain ⟨⟨a, afterA⟩, readA, read⟩ := Option.bind_eq_some_iff.mp read
  obtain ⟨⟨b, afterB⟩, readB, read⟩ := Option.bind_eq_some_iff.mp read
  obtain ⟨⟨c, afterC⟩, readC, read⟩ := Option.bind_eq_some_iff.mp read
  obtain ⟨⟨d, afterD⟩, readD, read⟩ := Option.bind_eq_some_iff.mp read
  cases read
  rw [first_octet_written readA, next_octet_written readB, next_octet_written readC, next_octet_written readD,
    display_chars]
  simp

theorem ipv4_text {text : String} {address : Ipv4Addr} (parsed : parseIpAddr text = some (.v4 address)) :
    text = Ipv4Addr.display address := by
  rw [parseIpAddr, readIpAddr] at parsed
  cases read : readIpv4Addr text.toList with
  | none =>
      rw [read] at parsed
      cases sixth : readIpv6Addr text.toList with
      | none =>
          rw [sixth] at parsed
          cases parsed
      | some found =>
          rw [sixth] at parsed
          obtain ⟨other, rest⟩ := found
          cases rest with
          | nil => cases parsed
          | cons c rest => cases parsed
  | some found =>
      obtain ⟨other, rest⟩ := found
      rw [read] at parsed
      cases rest with
      | nil =>
          cases parsed
          apply String.toList_inj.mp
          simpa using ipv4_written read
      | cons c rest => cases parsed

end NetworkIds.Engine
