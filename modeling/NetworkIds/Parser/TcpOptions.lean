import NetworkIds.Lib.LastWins
import NetworkIds.Parser.Transport

set_option autoImplicit false

namespace NetworkIds.Parser

open Checked Endian LastWins

def edgesIn : Bytes → List (UInt32 × UInt32)
  | a :: b :: c :: d :: e :: f :: g :: h :: rest => (u32FromBe a b c d, u32FromBe e f g h) :: edgesIn rest
  | _ => []

theorem edges_short (data : Bytes) (short : data.length < 8) : edgesIn data = [] := by
  unfold edgesIn
  split
  · simp only [List.length_cons] at short
    omega
  · rfl

theorem edges_drop (data : Bytes) (i : Nat) (long : i + 8 ≤ data.length) :
    edgesIn (data.drop i) =
      (u32FromBe (data.getD i 0) (data.getD (i + 1) 0) (data.getD (i + 2) 0) (data.getD (i + 3) 0),
        u32FromBe (data.getD (i + 4) 0) (data.getD (i + 5) 0) (data.getD (i + 6) 0) (data.getD (i + 7) 0)) ::
      edgesIn (data.drop (i + 8)) := by
  have byte := drop_getD data i
  have first := byte 0
  rw [Nat.add_zero] at first
  rw [← first, ← byte 1, ← byte 2, ← byte 3, ← byte 4, ← byte 5, ← byte 6, ← byte 7, ← List.drop_drop]
  have length : 8 ≤ (data.drop i).length := by
    rw [List.length_drop]
    omega
  generalize data.drop i = bytes at length
  obtain _ | ⟨a, _ | ⟨b, _ | ⟨c, _ | ⟨d, _ | ⟨e, _ | ⟨f, _ | ⟨g, _ | ⟨h, rest⟩⟩⟩⟩⟩⟩⟩⟩ := bytes
  case cons.cons.cons.cons.cons.cons.cons.cons => rfl
  all_goals simp at length

theorem sack_block_loop_eq (blockData : Bytes) (fits : blockData.length ≤ isizeMax) (fuel i : Nat)
    (blocks : List (UInt32 × UInt32)) (enough : blockData.length < i + fuel) (inside : i ≤ blockData.length) :
    sackBlockLoop blockData fuel i blocks = .ok (blocks ++ edgesIn (blockData.drop i)) := by
  have room := usize_room fits 8 (by omega)
  induction fuel generalizing i blocks with
  | zero => omega
  | succ fuel ih =>
      rw [sackBlockLoop]
      simp (disch := omega) only [add_ok, ok_bind]
      by_cases present : i + 8 ≤ blockData.length
      · simp (disch := omega) only [if_pos present, index_getD, index_add_getD, ok_bind]
        rw [ih _ _ (by omega) (by omega), edges_drop blockData i present, List.append_assoc]
        rfl
      · rw [if_neg present, edges_short _ (by rw [List.length_drop]; omega), List.append_nil]
        rfl

def OptionFits (data : Bytes) : Prop :=
  2 ≤ data.length ∧ 2 ≤ (data.getD 1 0).toNat ∧ (data.getD 1 0).toNat ≤ data.length

instance (data : Bytes) : Decidable (OptionFits data) := inferInstanceAs (Decidable (_ ∧ _))

def readAs {β : Type} (kind : UInt8) (need : Nat) (value : Bytes → β) (data : Bytes) : Option β :=
  if data.getD 0 0 = kind ∧ need ≤ data.length then some (value data) else none

def mssValue (data : Bytes) : UInt16 := u16FromBe (data.getD 2 0) (data.getD 3 0)

def windowScaleValue (data : Bytes) : UInt8 := data.getD 2 0

def timestampValue (data : Bytes) : UInt32 × UInt32 :=
  (u32FromBe (data.getD 2 0) (data.getD 3 0) (data.getD 4 0) (data.getD 5 0),
    u32FromBe (data.getD 6 0) (data.getD 7 0) (data.getD 8 0) (data.getD 9 0))

def sackBlocksAt (data : Bytes) : List (UInt32 × UInt32) :=
  if data.getD 0 0 = 5 ∧ OptionFits data then edgesIn ((data.take (data.getD 1 0).toNat).drop 2) else []

def readOption (opts : TcpOptions) (data : Bytes) : TcpOptions where
  mss := (readAs 2 4 mssValue data).or opts.mss
  windowScale := (readAs 3 3 windowScaleValue data).or opts.windowScale
  sackPermitted := decide (data.getD 0 0 = 4) || opts.sackPermitted
  sackBlocks := opts.sackBlocks ++ sackBlocksAt data
  timestamp := (readAs 8 10 timestampValue data).or opts.timestamp

theorem apply_tcp_option_eq (kind : UInt8) (data : Bytes) (opts : TcpOptions) (first : data.getD 0 0 = kind) :
    applyTcpOption kind data opts = .ok (readOption opts data) := by
  unfold applyTcpOption
  split
  case h_1 =>
    by_cases long : data.length ≥ 4
    · simp (disch := omega) only [if_pos long, index_getD, ok_bind]
      simp [-List.getD_eq_getElem?_getD, readOption, readAs, sackBlocksAt, first, long, mssValue]
    · simp [-List.getD_eq_getElem?_getD, readOption, readAs, sackBlocksAt, first, long]
  case h_2 =>
    by_cases long : data.length ≥ 3
    · simp (disch := omega) only [if_pos long, index_getD, ok_bind]
      simp [-List.getD_eq_getElem?_getD, readOption, readAs, sackBlocksAt, first, long, windowScaleValue]
    · simp [-List.getD_eq_getElem?_getD, readOption, readAs, sackBlocksAt, first, long]
  case h_3 => simp [-List.getD_eq_getElem?_getD, readOption, readAs, sackBlocksAt, first]
  case h_4 =>
    by_cases long : data.length ≥ 2
    · simp (disch := omega) only [if_pos long, index_getD, ok_bind]
      by_cases fits : (data.getD 1 0).toNat ≥ 2 ∧ data.length ≥ (data.getD 1 0).toNat
      · have byte := (data.getD 1 0).toNat_lt
        have length := slice_length data 2 (data.getD 1 0).toNat fits.2
        have small : (data.getD 1 0).toNat - 2 ≤ isizeMax := by
          unfold isizeMax
          omega
        have option : OptionFits data := ⟨long, fits⟩
        rw [if_pos fits, slice_ok fits.1 fits.2, ok_bind, sack_block_loop_eq _ (by omega) _ 0 _ (by omega) (by omega)]
        simp [-List.getD_eq_getElem?_getD, readOption, readAs, sackBlocksAt, first, option]
      · have option : ¬ OptionFits data := fun option => fits option.2
        rw [if_neg fits]
        simp [-List.getD_eq_getElem?_getD, readOption, readAs, sackBlocksAt, first, option]
    · have option : ¬ OptionFits data := fun option => long option.1
      rw [if_neg long]
      simp [-List.getD_eq_getElem?_getD, readOption, readAs, sackBlocksAt, first, option]
  case h_5 =>
    by_cases long : data.length ≥ 10
    · simp (disch := omega) only [if_pos long, index_getD, ok_bind]
      simp [-List.getD_eq_getElem?_getD, readOption, readAs, sackBlocksAt, first, long, timestampValue]
    · simp [-List.getD_eq_getElem?_getD, readOption, readAs, sackBlocksAt, first, long]
  case h_6 => simp_all [-List.getD_eq_getElem?_getD, readOption, readAs, sackBlocksAt]

-- The option boundaries that the loop comes to, each with the bytes left there.
-- A NOP has no length byte and reads nothing; a malformed option is the last.
def optionWalk (fuel : Nat) (data : Bytes) : List Bytes :=
  match fuel, data with
  | 0, _ => []
  | _, [] => []
  | fuel + 1, kind :: rest =>
      if kind = 0 then []
      else if kind = 1 then optionWalk fuel rest
      else if OptionFits (kind :: rest) then
        (kind :: rest) :: optionWalk fuel ((kind :: rest).drop ((kind :: rest).getD 1 0).toNat)
      else [kind :: rest]

def optionsAt (data : Bytes) : List Bytes := optionWalk (data.length + 1) data

theorem tcp_option_loop_eq (fuel : Nat) (data : Bytes) (opts : TcpOptions) (enough : data.length < fuel) :
    tcpOptionLoop fuel data opts = .ok ((optionWalk fuel data).foldl readOption opts) := by
  induction fuel generalizing data opts with
  | zero => omega
  | succ fuel ih =>
      cases data with
      | nil => rfl
      | cons kind rest =>
          have length : (kind :: rest).length = rest.length + 1 := rfl
          rw [tcpOptionLoop, if_neg (by simp), index_zero, ok_bind, optionWalk]
          by_cases ended : kind = 0
          · rw [if_pos ended, if_pos ended]
            rfl
          rw [if_neg ended, if_neg ended]
          by_cases nop : kind = 1
          · rw [if_pos nop, if_pos nop, slice_from_ok (by omega), ok_bind]
            exact ih rest opts (by omega)
          rw [if_neg nop, if_neg nop, apply_tcp_option_eq kind (kind :: rest) opts rfl, ok_bind]
          by_cases option : OptionFits (kind :: rest)
          · have fits := option
            unfold OptionFits at fits
            rw [if_neg (by omega), index_getD (by omega), ok_bind, if_neg (by omega), slice_from_ok fits.2.2, ok_bind,
              if_pos option]
            exact ih _ _ (by rw [List.length_drop]; omega)
          · rw [if_neg option]
            by_cases short : (kind :: rest).length < 2
            · rw [if_pos short]
              rfl
            · have malformed : ((kind :: rest).getD 1 0).toNat < 2 ∨ ((kind :: rest).getD 1 0).toNat > (kind :: rest).length := by
                unfold OptionFits at option
                omega
              rw [if_neg short, index_getD (by omega), ok_bind, if_pos malformed]
              rfl

theorem tcp_options_eq (data : Bytes) : parseTcpOptions data = .ok ((optionsAt data).foldl readOption .default) :=
  tcp_option_loop_eq _ data _ (Nat.lt_succ_self _)

attribute [ext] TcpOptions

theorem tcp_options_fold {α : Type} (step : TcpOptions → α → TcpOptions) (mss : α → Option UInt16)
    (windowScale : α → Option UInt8) (sackPermitted : α → Bool) (sackBlocks : α → List (UInt32 × UInt32))
    (timestamp : α → Option (UInt32 × UInt32))
    (reads : ∀ opts item, step opts item =
      ⟨(mss item).or opts.mss, (windowScale item).or opts.windowScale, sackPermitted item || opts.sackPermitted,
        opts.sackBlocks ++ sackBlocks item, (timestamp item).or opts.timestamp⟩) (items : List α) :
    items.foldl step .default =
      ⟨last mss items, last windowScale items, items.any sackPermitted, items.flatMap sackBlocks,
        last timestamp items⟩ := by
  apply TcpOptions.ext
  · exact (fold_last step items _ TcpOptions.mss mss fun _ _ => by rw [reads]).trans Option.or_none
  · exact (fold_last step items _ TcpOptions.windowScale windowScale fun _ _ => by rw [reads]).trans Option.or_none
  · exact (fold_any step items _ TcpOptions.sackPermitted sackPermitted fun _ _ => by rw [reads]).trans (Bool.or_false _)
  · exact fold_collect step items _ TcpOptions.sackBlocks sackBlocks fun _ _ => by rw [reads]
  · exact (fold_last step items _ TcpOptions.timestamp timestamp fun _ _ => by rw [reads]).trans Option.or_none

-- Kind, length and data; the length counts all three.
def encodeOption (kind : UInt8) (body : Bytes) : Bytes := kind :: UInt8.ofNat (body.length + 2) :: body

def encodeEdges (block : UInt32 × UInt32) : Bytes := u32ToBe block.1 ++ u32ToBe block.2

inductive TcpOption where
  | nop
  | mss (value : UInt16)
  | windowScale (shift : UInt8)
  | sackPermitted
  | sack (blocks : List (UInt32 × UInt32)) (few : blocks.length ≤ 31)
  | timestamp (value echo : UInt32)
  | other (kind : UInt8) (body : Bytes) (unknown : kind ∉ [0, 1, 2, 3, 4, 5, 8]) (short : body.length ≤ 253)

namespace TcpOption

def encode : TcpOption → Bytes
  | nop => [1]
  | mss value => encodeOption 2 (u16ToBe value)
  | windowScale shift => encodeOption 3 [shift]
  | sackPermitted => encodeOption 4 []
  | sack blocks _ => encodeOption 5 (blocks.flatMap encodeEdges)
  | timestamp value echo => encodeOption 8 (u32ToBe value ++ u32ToBe echo)
  | other kind body _ _ => encodeOption kind body

def mssCarried : TcpOption → Option UInt16
  | mss value => some value
  | _ => none

def windowScaleCarried : TcpOption → Option UInt8
  | windowScale shift => some shift
  | _ => none

def timestampCarried : TcpOption → Option (UInt32 × UInt32)
  | timestamp value echo => some (value, echo)
  | _ => none

def isSackPermitted : TcpOption → Bool
  | sackPermitted => true
  | _ => false

def blocksCarried : TcpOption → List (UInt32 × UInt32)
  | sack blocks _ => blocks
  | _ => []

def applyTo (opts : TcpOptions) (option : TcpOption) : TcpOptions where
  mss := option.mssCarried.or opts.mss
  windowScale := option.windowScaleCarried.or opts.windowScale
  sackPermitted := option.isSackPermitted || opts.sackPermitted
  sackBlocks := opts.sackBlocks ++ option.blocksCarried
  timestamp := option.timestampCarried.or opts.timestamp

end TcpOption

section Encoded

variable (kind : UInt8) (body rest : Bytes)

theorem encoded_kind : (encodeOption kind body ++ rest).getD 0 0 = kind := rfl

theorem encoded_length : (encodeOption kind body ++ rest).length = body.length + 2 + rest.length := by
  simp only [encodeOption, List.length_append, List.length_cons]

theorem encoded_length_byte (short : body.length ≤ 253) :
    ((encodeOption kind body ++ rest).getD 1 0).toNat = body.length + 2 := by
  show (UInt8.ofNat (body.length + 2)).toNat = _
  rw [UInt8.toNat_ofNat', Nat.mod_eq_of_lt (by omega)]

theorem encoded_fits (short : body.length ≤ 253) : OptionFits (encodeOption kind body ++ rest) := by
  rw [OptionFits, encoded_length, encoded_length_byte kind body rest short]
  omega

theorem encoded_rest : (encodeOption kind body ++ rest).drop (body.length + 2) = rest := by
  have length : (encodeOption kind body).length = body.length + 2 := rfl
  rw [← length, List.drop_left]

theorem encoded_body : ((encodeOption kind body ++ rest).take (body.length + 2)).drop 2 = body := by
  have length : (encodeOption kind body).length = body.length + 2 := rfl
  rw [← length, List.take_left]
  rfl

theorem walk_encoded (fuel : Nat) (lengthByte : kind ≠ 0 ∧ kind ≠ 1) (short : body.length ≤ 253) :
    optionWalk (fuel + 1) (encodeOption kind body ++ rest) =
      (encodeOption kind body ++ rest) :: optionWalk fuel rest := by
  have fits := encoded_fits kind body rest short
  have length := encoded_length_byte kind body rest short
  have after := encoded_rest kind body rest
  have shape : encodeOption kind body ++ rest = kind :: (UInt8.ofNat (body.length + 2) :: body ++ rest) := rfl
  rw [shape] at fits length after ⊢
  rw [optionWalk, if_neg lengthByte.1, if_neg lengthByte.2, if_pos fits, length, after]

end Encoded

theorem edges_encoded (blocks : List (UInt32 × UInt32)) : edgesIn (blocks.flatMap encodeEdges) = blocks := by
  induction blocks with
  | nil => rfl
  | cons block rest ih =>
      rw [List.flatMap_cons, encodeEdges, u32ToBe, u32ToBe]
      simp only [List.cons_append, List.nil_append, edgesIn, u32_round_trip, ih]

theorem edges_encoded_length (blocks : List (UInt32 × UInt32)) :
    (blocks.flatMap encodeEdges).length = 8 * blocks.length := flat_map_length encodeEdges 8 (fun _ => rfl) blocks

theorem read_as_other {β : Type} (kind other : UInt8) (need : Nat) (value : Bytes → β) (body rest : Bytes)
    (different : kind ≠ other) : readAs other need value (encodeOption kind body ++ rest) = none :=
  if_neg fun read => different read.1

theorem read_as_own {β : Type} (kind : UInt8) (need : Nat) (value : Bytes → β) (body rest : Bytes)
    (enough : need ≤ body.length + 2) :
    readAs kind need value (encodeOption kind body ++ rest) = some (value (encodeOption kind body ++ rest)) := by
  refine if_pos ⟨rfl, ?_⟩
  rw [encoded_length]
  omega

theorem no_sack_blocks (kind : UInt8) (body rest : Bytes) (different : kind ≠ 5) :
    sackBlocksAt (encodeOption kind body ++ rest) = [] := if_neg fun read => different read.1

theorem sack_blocks_read (blocks : List (UInt32 × UInt32)) (few : blocks.length ≤ 31) (rest : Bytes) :
    sackBlocksAt (encodeOption 5 (blocks.flatMap encodeEdges) ++ rest) = blocks := by
  have length := edges_encoded_length blocks
  have short : (blocks.flatMap encodeEdges).length ≤ 253 := by omega
  rw [sackBlocksAt, if_pos ⟨rfl, encoded_fits 5 _ rest short⟩, encoded_length_byte 5 _ rest short, encoded_body,
    edges_encoded]

theorem mss_read (value : UInt16) (rest : Bytes) : mssValue (encodeOption 2 (u16ToBe value) ++ rest) = value :=
  u16_round_trip value

theorem timestamp_read (value echo : UInt32) (rest : Bytes) :
    timestampValue (encodeOption 8 (u32ToBe value ++ u32ToBe echo) ++ rest) = (value, echo) :=
  Prod.ext (u32_round_trip value) (u32_round_trip echo)

theorem option_read (option : TcpOption) (rest : Bytes) (fuel : Nat) (opts : TcpOptions) :
    (optionWalk (fuel + 1) (option.encode ++ rest)).foldl readOption opts =
      (optionWalk fuel rest).foldl readOption (option.applyTo opts) := by
  cases option with
  | nop =>
      have unchanged : TcpOption.nop.applyTo opts = opts := by simp [TcpOption.applyTo, TcpOption.mssCarried,
        TcpOption.windowScaleCarried, TcpOption.isSackPermitted, TcpOption.blocksCarried, TcpOption.timestampCarried]
      rw [unchanged]
      rfl
  | mss value =>
      rw [TcpOption.encode, walk_encoded 2 _ rest fuel (by decide) (Nat.le_of_ble_eq_true rfl), List.foldl_cons]
      congr 1
      rw [readOption, read_as_own 2 4 _ _ rest (Nat.le_refl _), mss_read, read_as_other 2 3 _ _ _ rest (by decide),
        read_as_other 2 8 _ _ _ rest (by decide), no_sack_blocks 2 _ rest (by decide)]
      rfl
  | windowScale shift =>
      rw [TcpOption.encode, walk_encoded 3 _ rest fuel (by decide) (Nat.le_of_ble_eq_true rfl), List.foldl_cons]
      rfl
  | sackPermitted =>
      rw [TcpOption.encode, walk_encoded 4 _ rest fuel (by decide) (Nat.le_of_ble_eq_true rfl), List.foldl_cons]
      rfl
  | sack blocks few =>
      have length := edges_encoded_length blocks
      rw [TcpOption.encode, walk_encoded 5 _ rest fuel (by decide) (by omega), List.foldl_cons]
      congr 1
      rw [readOption, read_as_other 5 2 _ _ _ rest (by decide), read_as_other 5 3 _ _ _ rest (by decide),
        read_as_other 5 8 _ _ _ rest (by decide), sack_blocks_read blocks few rest]
      rfl
  | timestamp value echo =>
      rw [TcpOption.encode, walk_encoded 8 _ rest fuel (by decide) (Nat.le_of_ble_eq_true rfl), List.foldl_cons]
      congr 1
      rw [readOption, read_as_own 8 10 _ _ rest (Nat.le_refl _), timestamp_read, read_as_other 8 2 _ _ _ rest (by decide),
        read_as_other 8 3 _ _ _ rest (by decide), no_sack_blocks 8 _ rest (by decide)]
      rfl
  | other kind body unknown short =>
      simp only [List.mem_cons, List.not_mem_nil, or_false, not_or] at unknown
      obtain ⟨notEnd, notNop, notMss, notScale, notPermitted, notSack, notTimestamp⟩ := unknown
      rw [TcpOption.encode, walk_encoded kind _ rest fuel ⟨notEnd, notNop⟩ short, List.foldl_cons]
      congr 1
      rw [readOption, read_as_other kind 2 _ _ _ rest notMss, read_as_other kind 3 _ _ _ rest notScale,
        read_as_other kind 8 _ _ _ rest notTimestamp, no_sack_blocks kind _ rest notSack, encoded_kind,
        decide_eq_false notPermitted]
      rfl

def endOfOptions (padding : Option Bytes) : Bytes :=
  match padding with
  | some bytes => 0 :: bytes
  | none => []

theorem options_read (options : List TcpOption) (padding : Option Bytes) (fuel : Nat) (opts : TcpOptions)
    (enough : options.length < fuel) :
    (optionWalk fuel (options.flatMap TcpOption.encode ++ endOfOptions padding)).foldl readOption opts =
      options.foldl TcpOption.applyTo opts := by
  induction options generalizing fuel opts with
  | nil =>
      obtain ⟨fuel, rfl⟩ := Nat.exists_eq_add_one_of_ne_zero (Nat.ne_of_gt enough)
      cases padding with
      | none => rfl
      | some bytes => rfl
  | cons option rest ih =>
      obtain ⟨fuel, rfl⟩ := Nat.exists_eq_add_one_of_ne_zero (Nat.ne_of_gt (Nat.lt_of_le_of_lt (Nat.zero_le _) enough))
      rw [List.flatMap_cons, List.append_assoc, option_read, ih _ _ (by simpa using enough)]
      rfl

theorem encoded_not_empty (option : TcpOption) : 1 ≤ option.encode.length := by
  cases option
  all_goals exact Nat.le_add_left 1 _

-- Every list of well-formed options is read back, whatever stands behind the
-- end of the options.
theorem tcp_options_round_trip (options : List TcpOption) (padding : Option Bytes) :
    parseTcpOptions (options.flatMap TcpOption.encode ++ endOfOptions padding) = .ok {
      mss := last TcpOption.mssCarried options
      windowScale := last TcpOption.windowScaleCarried options
      sackPermitted := options.any TcpOption.isSackPermitted
      sackBlocks := options.flatMap TcpOption.blocksCarried
      timestamp := last TcpOption.timestampCarried options } := by
  have enough : options.length < (options.flatMap TcpOption.encode ++ endOfOptions padding).length + 1 := by
    have shorter := flat_map_longer TcpOption.encode encoded_not_empty options
    rw [List.length_append]
    omega
  rw [tcp_options_eq, optionsAt, options_read options padding _ _ enough]
  exact congrArg Except.ok (tcp_options_fold TcpOption.applyTo _ _ _ _ _ (fun _ _ => rfl) options)

-- An option of this kind that stands at an option boundary, with a length byte
-- of the kind's length, inside the bytes.
structure StandsAlone (data : Bytes) (kind length : UInt8) (option : Bytes) : Prop where
  boundary : option ∈ optionsAt data
  kind : option.getD 0 0 = kind
  lengthByte : option.getD 1 0 = length
  inside : length.toNat ≤ option.length

def OwnValue {β : Type} (data : Bytes) (kind length : UInt8) (value : Bytes → β) (reported : Option β) : Prop :=
  ∀ found, reported = some found → ∃ option, StandsAlone data kind length option ∧ value option = found

structure ValuesAreOwn (data : Bytes) (opts : TcpOptions) : Prop where
  mss : OwnValue data 2 4 mssValue opts.mss
  windowScale : OwnValue data 3 3 windowScaleValue opts.windowScale
  sackPermitted : opts.sackPermitted = true → ∃ option, StandsAlone data 4 2 option
  timestamp : OwnValue data 8 10 timestampValue opts.timestamp

def lastReadable (data : Bytes) (kind : UInt8) (need : Nat) : Option Bytes := last (readAs kind need id) (optionsAt data)

def LastIsOwn {β : Type} (data : Bytes) (kind length : UInt8) (value : Bytes → β) : Prop :=
  ∀ option, lastReadable data kind length.toNat = some option →
    StandsAlone data kind length option ∨ ∃ other, StandsAlone data kind length other ∧ value other = value option

theorem last_read_as {β : Type} (kind : UInt8) (need : Nat) (value : Bytes → β) (walk : List Bytes) :
    last (readAs kind need value) walk = (last (readAs kind need id) walk).map value := by
  induction walk with
  | nil => rfl
  | cons data rest ih =>
      rw [last_cons, last_cons, ih, Option.map_or]
      congr 1
      unfold readAs
      split
      · rfl
      · rfl

theorem own_value_iff {β : Type} (data : Bytes) (kind length : UInt8) (value : Bytes → β) :
    OwnValue data kind length value (last (readAs kind length.toNat value) (optionsAt data)) ↔
      LastIsOwn data kind length value := by
  rw [last_read_as]
  constructor
  · intro own option readable
    exact .inr (own (value option) (by rw [← lastReadable, readable]; rfl))
  · intro own found reported
    obtain ⟨option, readable, rfl⟩ := Option.map_eq_some_iff.mp reported
    cases own option readable with
    | inl alone => exact ⟨option, alone, rfl⟩
    | inr other => exact other

-- The values are read before the length byte is looked at. They come from
-- options of their own exactly when, of each kind, the last option that is long
-- enough to be read is well-formed or repeats the value of one that is.
theorem tcp_values_own_iff (data : Bytes) :
    Safe (parseTcpOptions data) (ValuesAreOwn data) ↔
      LastIsOwn data 2 4 mssValue ∧ LastIsOwn data 3 3 windowScaleValue ∧ LastIsOwn data 8 10 timestampValue ∧
      ((∃ option ∈ optionsAt data, option.getD 0 0 = 4) → ∃ option, StandsAlone data 4 2 option) := by
  have fold := tcp_options_fold readOption (readAs 2 4 mssValue) (readAs 3 3 windowScaleValue)
    (fun data => decide (data.getD 0 0 = 4)) sackBlocksAt (readAs 8 10 timestampValue) (fun _ _ => rfl) (optionsAt data)
  rw [tcp_options_eq, fold]
  have permitted : ((optionsAt data).any fun data => decide (data.getD 0 0 = 4)) = true ↔
      ∃ option ∈ optionsAt data, option.getD 0 0 = 4 := by
    rw [List.any_eq_true]
    simp only [decide_eq_true_eq]
  have ownMss := own_value_iff data 2 4 mssValue
  have ownWindowScale := own_value_iff data 3 3 windowScaleValue
  have ownTimestamp := own_value_iff data 8 10 timestampValue
  constructor
  · rintro ⟨result, same, own⟩
    cases same
    exact ⟨ownMss.mp own.mss, ownWindowScale.mp own.windowScale, ownTimestamp.mp own.timestamp,
      fun present => own.sackPermitted (permitted.mpr present)⟩
  · rintro ⟨lastMss, lastWindowScale, lastTimestamp, wellFormed⟩
    exact safe_ok ⟨ownMss.mpr lastMss, ownWindowScale.mpr lastWindowScale,
      fun reported => wellFormed (permitted.mp reported), ownTimestamp.mpr lastTimestamp⟩

-- An MSS option cut down to its kind and length bytes, with length 2: the value
-- is that of the window scale option behind it.
theorem short_mss_reads_on : ¬ ∀ data : Bytes, Safe (parseTcpOptions data) (ValuesAreOwn data) := by
  intro sound
  obtain ⟨opts, parsed, own⟩ := sound [2, 2, 3, 3, 7]
  rw [show parseTcpOptions [2, 2, 3, 3, 7] = .ok ⟨some 0x0303, some 7, false, [], none⟩ by decide +kernel] at parsed
  cases parsed
  obtain ⟨option, alone, -⟩ := own.mss 0x0303 rfl
  have boundaries : optionsAt [2, 2, 3, 3, 7] = [[2, 2, 3, 3, 7], [3, 3, 7]] := by decide +kernel
  have boundary := alone.boundary
  have lengthByte := alone.lengthByte
  rw [boundaries] at boundary
  simp only [List.mem_cons, List.not_mem_nil, or_false] at boundary
  obtain rfl | rfl := boundary
  · exact absurd lengthByte (by decide)
  · exact absurd lengthByte (by decide)

end NetworkIds.Parser
