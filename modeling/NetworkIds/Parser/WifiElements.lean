import Mathlib.Data.List.Basic
import Mathlib.Data.List.GetD
import NetworkIds.Lib.LastWins
import NetworkIds.Lib.Tlv
import NetworkIds.Parser.Wifi

set_option autoImplicit false

namespace NetworkIds.Parser

open Checked Endian Utf8 LastWins

def firstByteIn (value : Bytes) : UInt8 := value.getD 0 0

def timIn (value : Bytes) : TimInfo where
  dtimCount := value.getD 0 0
  dtimPeriod := value.getD 1 0
  bitmapControl := value.getD 2 0
  partialVirtualBitmap := value.drop 3

def countryIn (value : Bytes) : CountryInfo where
  countryCode := (value.getD 0 0, value.getD 1 0)
  environment := value.getD 2 0
  triplets := value.drop 3

-- The third byte is optional.
def htCapabilitiesIn (value : Bytes) : HtCapabilities where
  htCapInfo := u16FromLe (value.getD 0 0) (value.getD 1 0)
  ampduParams := value.getD 2 0
  raw := value

def htOperationIn (value : Bytes) : HtOperation where
  primaryChannel := value.getD 0 0
  raw := value

def vhtCapabilitiesIn (value : Bytes) : VhtCapabilities where
  vhtCapInfo := u32FromLe (value.getD 0 0) (value.getD 1 0) (value.getD 2 0) (value.getD 3 0)
  raw := value

def vendorIn (value : Bytes) : VendorIe where
  oui := (value.getD 0 0, value.getD 1 0, value.getD 2 0)
  ouiType := value.getD 3 0
  data := value.drop 4

def rsnIn (value : Bytes) : Option RsnInfo :=
  match parseRsnIe value with
  | .ok info => info
  | .error _ => none

def takeElement (mgmt : WifiMgmtFrame) (item : Tlv) : WifiMgmtFrame := { mgmt with
  ssid := (item.carried 0 0 fromUtf8Lossy).or mgmt.ssid
  supportedRates := (item.carried 1 0 id).getD mgmt.supportedRates
  channel := (item.carried 3 1 firstByteIn).or mgmt.channel
  tim := (item.carried 5 4 timIn).or mgmt.tim
  countryInfo := (item.carried 7 3 countryIn).or mgmt.countryInfo
  erpInfo := (item.carried 42 1 firstByteIn).or mgmt.erpInfo
  htCapabilities := (item.carried 45 2 htCapabilitiesIn).or mgmt.htCapabilities
  rsnInfo := (item.carried 48 0 rsnIn).getD mgmt.rsnInfo
  extendedSupportedRates := (item.carried 50 0 id).getD mgmt.extendedSupportedRates
  htOperation := (item.carried 61 1 htOperationIn).or mgmt.htOperation
  vhtCapabilities := (item.carried 191 4 vhtCapabilitiesIn).or mgmt.vhtCapabilities
  vendorIes := mgmt.vendorIes ++ (item.carried 221 4 vendorIn).toList }

theorem apply_wifi_ie_eq (item : Tlv) (mgmt : WifiMgmtFrame) :
    applyWifiIe item.tag item.value mgmt = .ok (takeElement mgmt item) := by
  obtain ⟨tag, value, short⟩ := item
  have fits : value.length ≤ isizeMax := by
    unfold isizeMax
    omega
  dsimp only
  unfold applyWifiIe
  split
  case h_7 =>
    by_cases long : value.length ≥ 3
    · simp (disch := omega) only [if_pos long, index_getD, ok_bind]
      simp [takeElement, Tlv.carried, htCapabilitiesIn, (by omega : 2 ≤ value.length)]
    · by_cases enough : value.length ≥ 2
      · simp (disch := omega) only [if_neg long, if_pos enough, index_getD, ok_bind]
        have beyond : value.getD 2 0 = 0 := by
          rw [List.getD_eq_getElem?_getD, List.getElem?_eq_none (by omega)]
          rfl
        simp [-List.getD_eq_getElem?_getD, takeElement, Tlv.carried, htCapabilitiesIn, enough, beyond]
      · simp [takeElement, Tlv.carried, long, enough]
  case h_8 =>
    obtain ⟨info, parsed, -⟩ := rsn_ie_safe value fits
    rw [parsed, ok_bind]
    simp [takeElement, Tlv.carried, rsnIn, parsed]
  case h_13 => simp_all [takeElement, Tlv.carried]
  all_goals
    first
    | simp [takeElement, Tlv.carried]
      done
    | split
      · rename_i long
        simp (disch := omega) only [index_getD, slice_from_ok, ok_bind]
        simp [takeElement, Tlv.carried, firstByteIn, timIn, countryIn, htOperationIn, vhtCapabilitiesIn, vendorIn, long]
      · rename_i short
        simp [takeElement, Tlv.carried, short]

def encodeSuites (suites : List UInt32) : Bytes := u16ToLe (UInt16.ofNat suites.length) ++ suites.flatMap u32ToBe

def encodeRsn (groupCipher : UInt32) (pairwiseCiphers akmSuites : List UInt32) (capabilities : UInt16) : Bytes :=
  (u16ToLe 1 ++ u32ToBe groupCipher) ++
    (encodeSuites pairwiseCiphers ++ (encodeSuites akmSuites ++ u16ToLe capabilities))

theorem rsn_suite_loop_encoded (suites : List UInt32) (before after : Bytes) (read : List UInt32) (start : Nat)
    (startEq : before.length = start) (room : start + 4 * suites.length ≤ usizeMax) :
    rsnSuiteLoop (before ++ (suites.flatMap u32ToBe ++ after)) suites.length start read =
      .ok (read ++ suites, start + 4 * suites.length) := by
  induction suites generalizing before read start with
  | nil => rw [List.append_nil]; rfl
  | cons suite rest ih =>
      rw [List.length_cons] at room
      rw [List.flatMap_cons, List.append_assoc, List.length_cons, rsnSuiteLoop]
      have bytes : (u32ToBe suite).length = 4 := rfl
      have long : ¬ (before ++ (u32ToBe suite ++ (rest.flatMap u32ToBe ++ after))).length < start + 4 := by
        rw [List.length_append, List.length_append, bytes, startEq]
        omega
      obtain ⟨a, b, c, d, readA, readB, readC, readD, value⟩ :=
        u32_be_read before (rest.flatMap u32ToBe ++ after) suite startEq (by omega)
      have shape : before ++ (u32ToBe suite ++ (rest.flatMap u32ToBe ++ after)) =
          (before ++ u32ToBe suite) ++ (rest.flatMap u32ToBe ++ after) := by rw [List.append_assoc]
      have later := ih (before ++ u32ToBe suite) (read ++ [suite]) (start + 4)
        (by rw [List.length_append, startEq, bytes]) (by omega)
      rw [add_ok (by omega), ok_bind, if_neg long, readA, ok_bind, readB, ok_bind, readC, ok_bind, readD, ok_bind]
      dsimp only
      rw [value, ok_bind, shape, later, List.append_assoc]
      refine congrArg Except.ok (Prod.ext rfl ?_)
      dsimp only
      omega

theorem encode_suites_length (suites : List UInt32) : (encodeSuites suites).length = 2 + 4 * suites.length := by
  have countLength : ∀ value, (u16ToLe value).length = 2 := fun _ => rfl
  rw [encodeSuites, List.length_append, countLength, flat_map_length u32ToBe 4 fun _ => rfl]

theorem suites_read (suites : List UInt32) (before after : Bytes) (start : Nat) (startEq : before.length = start)
    (small : start + (encodeSuites suites).length ≤ 255) :
    ∃ a b, index (before ++ (encodeSuites suites ++ after)) start = .ok a ∧
      indexAdd (before ++ (encodeSuites suites ++ after)) start 1 = .ok b ∧
      (u16FromLe a b).toNat = suites.length ∧
      rsnSuiteLoop (before ++ (encodeSuites suites ++ after)) suites.length (start + 2) [] =
        .ok (suites, start + 2 + 4 * suites.length) := by
  rw [encode_suites_length] at small
  have bounded : start + 2 + 4 * suites.length ≤ usizeMax := usize_small (by omega)
  have behind : (before ++ u16ToLe (UInt16.ofNat suites.length)).length = start + 2 := by
    rw [List.length_append, startEq]
    rfl
  obtain ⟨a, b, readA, readB, count⟩ := u16_le_read before (suites.flatMap u32ToBe ++ after)
    (UInt16.ofNat suites.length) startEq (by omega)
  have loop := rsn_suite_loop_encoded suites _ after [] (start + 2) behind bounded
  rw [encodeSuites, List.append_assoc]
  refine ⟨a, b, readA, readB, ?_, ?_⟩
  · rw [count, UInt16.toNat_ofNat', Nat.mod_eq_of_lt (by omega)]
  · rw [← List.append_assoc]
    exact loop

theorem capabilities_read (capabilities : UInt16) (before : Bytes) (start : Nat) (startEq : before.length = start)
    (small : start + 2 ≤ 255) : rsnCapabilities (before ++ u16ToLe capabilities) start = .ok (some capabilities) := by
  have bounded : start + 2 ≤ usizeMax := usize_small (by omega)
  have long : (before ++ u16ToLe capabilities).length ≥ start + 2 := by
    rw [List.length_append, startEq]
    exact Nat.le_refl _
  obtain ⟨a, b, readA, readB, value⟩ := u16_le_read before [] capabilities startEq (by omega)
  rw [List.append_nil] at readA readB
  rw [rsnCapabilities, add_ok bounded, ok_bind, if_pos long, readA, ok_bind, readB, ok_bind, value]
  rfl

theorem encode_rsn_length (groupCipher : UInt32) (pairwiseCiphers akmSuites : List UInt32) (capabilities : UInt16) :
    (encodeRsn groupCipher pairwiseCiphers akmSuites capabilities).length =
      12 + 4 * pairwiseCiphers.length + 4 * akmSuites.length := by
  have words : ∀ value, (u16ToLe value).length = 2 := fun _ => rfl
  have cipher : (u32ToBe groupCipher).length = 4 := rfl
  simp only [encodeRsn, List.length_append, words, cipher, encode_suites_length]
  omega

theorem rsn_head_read (groupCipher : UInt32) (rest : Bytes) :
    ∃ head : Bytes, (∀ i, i < 6 → index ((u16ToLe 1 ++ u32ToBe groupCipher) ++ rest) i = .ok (head.getD i 0)) ∧
      u16FromLe (head.getD 0 0) (head.getD 1 0) = 1 ∧
      u32FromBe (head.getD 2 0) (head.getD 3 0) (head.getD 4 0) (head.getD 5 0) = groupCipher :=
  ⟨u16ToLe 1 ++ u32ToBe groupCipher, fun _ inside => index_leading _ rest inside, u16_round_trip 1,
    u32_round_trip groupCipher⟩

theorem rsn_round_trip (groupCipher : UInt32) (pairwiseCiphers akmSuites : List UInt32) (capabilities : UInt16)
    (short : (encodeRsn groupCipher pairwiseCiphers akmSuites capabilities).length ≤ 255) :
    parseRsnIe (encodeRsn groupCipher pairwiseCiphers akmSuites capabilities) =
      .ok (some ⟨some groupCipher, pairwiseCiphers, akmSuites, some capabilities⟩) := by
  have headLength : (u16ToLe 1 ++ u32ToBe groupCipher).length = 6 := rfl
  have middleLength : (u16ToLe 1 ++ u32ToBe groupCipher ++ encodeSuites pairwiseCiphers).length =
      8 + 4 * pairwiseCiphers.length := by
    rw [List.length_append, encode_suites_length]
    omega
  have endLength : (u16ToLe 1 ++ u32ToBe groupCipher ++ encodeSuites pairwiseCiphers ++ encodeSuites akmSuites).length =
      8 + 4 * pairwiseCiphers.length + 2 + 4 * akmSuites.length := by
    rw [List.length_append, middleLength, encode_suites_length]
    omega
  have shape : encodeRsn groupCipher pairwiseCiphers akmSuites capabilities =
      u16ToLe 1 ++ u32ToBe groupCipher ++ encodeSuites pairwiseCiphers ++ encodeSuites akmSuites ++ u16ToLe capabilities := by
    simp only [encodeRsn, List.append_assoc]
  have length := encode_rsn_length groupCipher pairwiseCiphers akmSuites capabilities
  obtain ⟨a, b, readA, readB, pairwiseCount, pairwise⟩ := suites_read pairwiseCiphers (u16ToLe 1 ++ u32ToBe groupCipher)
    (encodeSuites akmSuites ++ u16ToLe capabilities) 6 headLength (by rw [encode_suites_length]; omega)
  obtain ⟨c, d, readC, readD, akmCount, akm⟩ := suites_read akmSuites _ (u16ToLe capabilities) _ middleLength
    (by rw [encode_suites_length]; omega)
  have last := capabilities_read capabilities _ _ endLength (by omega)
  have bounded : 8 + 4 * pairwiseCiphers.length + 2 ≤ usizeMax := usize_small (by omega)
  rw [← List.append_assoc] at readC readD akm
  rw [← shape] at last readC readD akm
  rw [← encodeRsn] at readA readB pairwise
  have seventh : indexAdd (encodeRsn groupCipher pairwiseCiphers akmSuites capabilities) 6 1 =
    index (encodeRsn groupCipher pairwiseCiphers akmSuites capabilities) 7 := rfl
  rw [seventh] at readB
  obtain ⟨head, fixed, version, cipher⟩ := rsn_head_read groupCipher
    (encodeSuites pairwiseCiphers ++ (encodeSuites akmSuites ++ u16ToLe capabilities))
  rw [← encodeRsn] at fixed
  generalize encodeRsn groupCipher pairwiseCiphers akmSuites capabilities = data at *
  have pairwiseLoop : rsnSuiteLoop data pairwiseCiphers.length 8 [] =
    .ok (pairwiseCiphers, 8 + 4 * pairwiseCiphers.length) := pairwise
  rw [parseRsnIe, if_neg (by omega), fixed 0 (by omega), ok_bind, fixed 1 (by omega), ok_bind, version, if_neg (by decide),
    fixed 2 (by omega), ok_bind, fixed 3 (by omega), ok_bind, fixed 4 (by omega), ok_bind, fixed 5 (by omega), ok_bind,
    cipher, if_neg (by omega), readA, ok_bind, readB, ok_bind, pairwiseCount]
  dsimp only
  rw [pairwiseLoop, ok_bind]
  dsimp only
  rw [add_ok (by omega), ok_bind, if_neg (by omega), readC, ok_bind, readD, ok_bind, akmCount,
    ok_bind, akm, ok_bind]
  dsimp only
  rw [last, ok_bind]
  rfl

def Incomplete (trailing : Bytes) : Prop := trailing.length < 2 + (trailing.getD 1 0).toNat

theorem wifi_ie_loop_encoded (items : List Tlv) (trailing : Bytes) (incomplete : Incomplete trailing) (fuel : Nat)
    (mgmt : WifiMgmtFrame) (enough : (items.flatMap Tlv.encode ++ trailing).length < fuel) :
    wifiIeLoop fuel (items.flatMap Tlv.encode ++ trailing) mgmt = .ok (items.foldl takeElement mgmt) := by
  induction items generalizing fuel mgmt with
  | nil =>
      obtain ⟨fuel, rfl⟩ : ∃ rest, fuel = rest + 1 := ⟨fuel - 1, by omega⟩
      rw [List.flatMap_nil, List.nil_append, wifiIeLoop]
      unfold Incomplete at incomplete
      by_cases long : trailing.length ≥ 2
      · have byte := (trailing.getD 1 0).toNat_lt
        have room : 2 + (trailing.getD 1 0).toNat ≤ usizeMax := usize_small (by omega)
        rw [if_pos long, index_getD (by omega), ok_bind, index_getD (by omega), ok_bind]
        dsimp only
        rw [add_ok room, ok_bind, if_pos incomplete]
        rfl
      · rw [if_neg long]
        rfl
  | cons item rest ih =>
      obtain ⟨fuel, rfl⟩ : ∃ rest, fuel = rest + 1 := ⟨fuel - 1, by omega⟩
      rw [List.flatMap_cons, List.append_assoc] at enough ⊢
      have total : (item.encode ++ (rest.flatMap Tlv.encode ++ trailing)).length =
          2 + item.value.length + (rest.flatMap Tlv.encode ++ trailing).length := by
        rw [List.length_append, item.encode_length, Nat.add_comm item.value.length]
      have room : 2 + item.value.length ≤ usizeMax := usize_small (by have short := item.short; omega)
      have tag : index (item.encode ++ (rest.flatMap Tlv.encode ++ trailing)) 0 = .ok item.tag := rfl
      have length : index (item.encode ++ (rest.flatMap Tlv.encode ++ trailing)) 1 = .ok item.lengthByte := rfl
      have value : slice (item.encode ++ (rest.flatMap Tlv.encode ++ trailing)) 2 (2 + item.value.length) =
        .ok item.value := item.value_read [] _ rfl (by omega)
      have behind : sliceFrom (item.encode ++ (rest.flatMap Tlv.encode ++ trailing)) (2 + item.value.length) =
        .ok (rest.flatMap Tlv.encode ++ trailing) := slice_from_append item.encode _ (item.encode_length.trans (Nat.add_comm _ _))
      rw [wifiIeLoop, if_pos (by omega), tag, ok_bind, length, ok_bind, item.length_byte_nat]
      dsimp only
      rw [add_ok room, ok_bind, if_neg (by omega), value, ok_bind, apply_wifi_ie_eq, ok_bind, behind, ok_bind]
      exact ih fuel (takeElement mgmt item) (by omega)

structure ElementsRead (items : List Tlv) (mgmt : WifiMgmtFrame) : Prop where
  ssid : mgmt.ssid = last (Tlv.carried 0 0 fromUtf8Lossy) items
  supportedRates : mgmt.supportedRates = (last (Tlv.carried 1 0 id) items).getD []
  channel : mgmt.channel = last (Tlv.carried 3 1 firstByteIn) items
  tim : mgmt.tim = last (Tlv.carried 5 4 timIn) items
  countryInfo : mgmt.countryInfo = last (Tlv.carried 7 3 countryIn) items
  erpInfo : mgmt.erpInfo = last (Tlv.carried 42 1 firstByteIn) items
  htCapabilities : mgmt.htCapabilities = last (Tlv.carried 45 2 htCapabilitiesIn) items
  extendedSupportedRates : mgmt.extendedSupportedRates = (last (Tlv.carried 50 0 id) items).getD []
  htOperation : mgmt.htOperation = last (Tlv.carried 61 1 htOperationIn) items
  vhtCapabilities : mgmt.vhtCapabilities = last (Tlv.carried 191 4 vhtCapabilitiesIn) items
  vendorIes : mgmt.vendorIes = items.filterMap (Tlv.carried 221 4 vendorIn)
  rsnInfo : mgmt.rsnInfo = (last (Tlv.carried 48 0 rsnIn) items).getD none
  rsnExact : ∀ earlier item later groupCipher pairwiseCiphers akmSuites capabilities,
    items = earlier ++ item :: later → item.tag = 48 →
    item.value = encodeRsn groupCipher pairwiseCiphers akmSuites capabilities → (∀ other ∈ later, other.tag ≠ 48) →
    mgmt.rsnInfo = some ⟨some groupCipher, pairwiseCiphers, akmSuites, some capabilities⟩

structure NoElements (mgmt : WifiMgmtFrame) : Prop where
  ssid : mgmt.ssid = none
  supportedRates : mgmt.supportedRates = []
  channel : mgmt.channel = none
  tim : mgmt.tim = none
  countryInfo : mgmt.countryInfo = none
  erpInfo : mgmt.erpInfo = none
  htCapabilities : mgmt.htCapabilities = none
  extendedSupportedRates : mgmt.extendedSupportedRates = []
  htOperation : mgmt.htOperation = none
  vhtCapabilities : mgmt.vhtCapabilities = none
  vendorIes : mgmt.vendorIes = []
  rsnInfo : mgmt.rsnInfo = none

theorem elements_read (items : List Tlv) (mgmt : WifiMgmtFrame) (fresh : NoElements mgmt) :
    ElementsRead items (items.foldl takeElement mgmt) := by
  have kept : ∀ {β : Type} (get : WifiMgmtFrame → Option β) (read : Tlv → Option β), get mgmt = none →
      (∀ mgmt item, get (takeElement mgmt item) = (read item).or (get mgmt)) →
      get (items.foldl takeElement mgmt) = last read items := by
    intro β get read absent reads
    rw [fold_last takeElement items mgmt get read reads, absent, Option.or_none]
  have rsn : (items.foldl takeElement mgmt).rsnInfo = (last (Tlv.carried 48 0 rsnIn) items).getD none := by
    rw [fold_last_default takeElement items mgmt WifiMgmtFrame.rsnInfo (Tlv.carried 48 0 rsnIn) fun _ _ => rfl, fresh.rsnInfo]
  refine ⟨?_, ?_, ?_, ?_, ?_, ?_, ?_, ?_, ?_, ?_, ?_, rsn, ?_⟩
  · exact kept WifiMgmtFrame.ssid _ fresh.ssid fun _ _ => rfl
  · rw [fold_last_default takeElement items mgmt WifiMgmtFrame.supportedRates (Tlv.carried 1 0 id) fun _ _ => rfl,
      fresh.supportedRates]
  · exact kept WifiMgmtFrame.channel _ fresh.channel fun _ _ => rfl
  · exact kept WifiMgmtFrame.tim _ fresh.tim fun _ _ => rfl
  · exact kept WifiMgmtFrame.countryInfo _ fresh.countryInfo fun _ _ => rfl
  · exact kept WifiMgmtFrame.erpInfo _ fresh.erpInfo fun _ _ => rfl
  · exact kept WifiMgmtFrame.htCapabilities _ fresh.htCapabilities fun _ _ => rfl
  · rw [fold_last_default takeElement items mgmt WifiMgmtFrame.extendedSupportedRates (Tlv.carried 50 0 id) fun _ _ => rfl,
      fresh.extendedSupportedRates]
  · exact kept WifiMgmtFrame.htOperation _ fresh.htOperation fun _ _ => rfl
  · exact kept WifiMgmtFrame.vhtCapabilities _ fresh.vhtCapabilities fun _ _ => rfl
  · rw [fold_collect takeElement items mgmt WifiMgmtFrame.vendorIes
      (fun item => (item.carried 221 4 vendorIn).toList) fun _ _ => rfl, fresh.vendorIes, List.nil_append,
      List.filterMap_eq_flatMap_toList]
  · intro earlier item later groupCipher pairwiseCiphers akmSuites capabilities split tag value others
    have short := item.short
    rw [value] at short
    have parsed : rsnIn item.value = some ⟨some groupCipher, pairwiseCiphers, akmSuites, some capabilities⟩ := by
      rw [rsnIn, value, rsn_round_trip groupCipher pairwiseCiphers akmSuites capabilities short]
    have none : later.filterMap (Tlv.carried 48 0 rsnIn) = [] := by
      rw [List.filterMap_eq_nil_iff]
      exact fun other member => other.carried_other 48 0 rsnIn (others other member)
    have own : item.carried 48 0 rsnIn = some (rsnIn item.value) := by
      rw [← tag]
      exact item.carried_own 0 rsnIn (Nat.zero_le _)
    rw [rsn, last, split, List.filterMap_append, List.filterMap_cons_some own, none, List.getLast?_concat, parsed]
    rfl

structure ElementFrame where
  header : Octets 24
  fixed : Bytes
  items : List Tlv
  trailing : Bytes
  management : (header.val.getD 0 0 >>> 2) &&& 0x03 = 0
  layout : ((header.val.getD 0 0 >>> 4) &&& 0x0F, fixed.length) ∈
    [((0 : UInt8), 4), (1, 6), (2, 10), (3, 6), (4, 0), (5, 12), (8, 12)]
  incomplete : Incomplete trailing

namespace ElementFrame

variable (frame : ElementFrame)

def subtype : UInt8 := (frame.header.val.getD 0 0 >>> 4) &&& 0x0F

def toDs : Bool := frame.header.val.getD 1 0 &&& 0x01 != 0

def fromDs : Bool := frame.header.val.getD 1 0 &&& 0x02 != 0

def body : Bytes := frame.fixed ++ (frame.items.flatMap Tlv.encode ++ frame.trailing)

def encode : Bytes := frame.header.val ++ frame.body

def withoutTrailing : ElementFrame := { frame with trailing := [], incomplete := Nat.zero_lt_two }

def fixedU16 (i : Nat) : Option UInt16 := some (u16FromLe (frame.fixed.getD i 0) (frame.fixed.getD (i + 1) 0))

def fixedPart (src bssid : Mac) : WifiMgmtFrame := { WifiMgmtFrame.new frame.subtype bssid frame.body with
  clientMac := if frame.subtype ∈ [0, 2, 4, 5] then some src else none
  capabilityInfo :=
    if frame.subtype ∈ [0, 1, 2, 3] then frame.fixedU16 0
    else if frame.subtype ∈ [5, 8] then frame.fixedU16 10
    else none
  statusCode := if frame.subtype ∈ [1, 3] then frame.fixedU16 2 else none
  beaconInterval := if frame.subtype ∈ [5, 8] then frame.fixedU16 8 else none }

theorem fixed_part_no_elements (src bssid : Mac) : NoElements (frame.fixedPart src bssid) :=
  ⟨rfl, rfl, rfl, rfl, rfl, rfl, rfl, rfl, rfl, rfl, rfl, rfl⟩

theorem body_index (i : Nat) (inside : i < frame.fixed.length) :
    index frame.body i = .ok (frame.fixed.getD i 0) := index_leading frame.fixed _ inside

theorem elements_behind (offset : Nat) (length : frame.fixed.length = offset) (mgmt : WifiMgmtFrame) :
    parseIesFrom frame.body offset mgmt = .ok (frame.items.foldl takeElement mgmt) := by
  have long : frame.body.length ≥ offset := by
    rw [body, List.length_append]
    omega
  have behind : sliceFrom frame.body offset = .ok (frame.items.flatMap Tlv.encode ++ frame.trailing) :=
    slice_from_append frame.fixed _ length
  rw [parseIesFrom, if_pos long, behind, ok_bind, parseWifiIes]
  exact wifi_ie_loop_encoded frame.items frame.trailing frame.incomplete _ mgmt (Nat.lt_succ_self _)

theorem body_long {n : Nat} (inside : n ≤ frame.fixed.length) : frame.body.length ≥ n := by
  rw [body, List.length_append]
  omega

theorem request_fixed_eq (mgmt : WifiMgmtFrame) (long : 2 ≤ frame.fixed.length) :
    mgmtRequestFixed frame.body mgmt = .ok { mgmt with capabilityInfo := frame.fixedU16 0 } := by
  rw [mgmtRequestFixed, if_pos (frame.body_long long), frame.body_index 0 (by omega), ok_bind, frame.body_index 1 (by omega),
    ok_bind]
  rfl

theorem response_fixed_eq (mgmt : WifiMgmtFrame) (long : 6 ≤ frame.fixed.length) :
    mgmtResponseFixed frame.body mgmt =
      .ok { mgmt with capabilityInfo := frame.fixedU16 0, statusCode := frame.fixedU16 2 } := by
  rw [mgmtResponseFixed, if_pos (frame.body_long long), frame.body_index 0 (by omega), ok_bind, frame.body_index 1 (by omega),
    ok_bind, frame.body_index 2 (by omega), ok_bind, frame.body_index 3 (by omega), ok_bind]
  rfl

theorem beacon_fixed_eq (mgmt : WifiMgmtFrame) (long : 12 ≤ frame.fixed.length) :
    mgmtBeaconFixed frame.body mgmt =
      .ok { mgmt with beaconInterval := frame.fixedU16 8, capabilityInfo := frame.fixedU16 10 } := by
  rw [mgmtBeaconFixed, if_pos (frame.body_long long), frame.body_index 8 (by omega), ok_bind, frame.body_index 9 (by omega),
    ok_bind, frame.body_index 10 (by omega), ok_bind, frame.body_index 11 (by omega), ok_bind]
  rfl

theorem mgmt_body_eq (src dst bssid : Mac) :
    parseMgmtBody frame.subtype src dst frame.body (WifiMgmtFrame.new frame.subtype bssid frame.body) =
      .ok (frame.items.foldl takeElement (frame.fixedPart src bssid)) := by
  have layout := frame.layout
  change (frame.subtype, frame.fixed.length) ∈ _ at layout
  simp only [List.mem_cons, List.not_mem_nil, or_false, Prod.mk.injEq] at layout
  unfold fixedPart
  rcases layout with ⟨kind, length⟩ | ⟨kind, length⟩ | ⟨kind, length⟩ | ⟨kind, length⟩ | ⟨kind, length⟩ |
    ⟨kind, length⟩ | ⟨kind, length⟩
  all_goals rw [kind]
  · exact (congrArg (· >>= _) (frame.request_fixed_eq _ (by omega))).trans (frame.elements_behind 4 length _)
  · exact (congrArg (· >>= _) (frame.response_fixed_eq _ (by omega))).trans (frame.elements_behind 6 length _)
  · exact (congrArg (· >>= _) (frame.request_fixed_eq _ (by omega))).trans (frame.elements_behind 10 length _)
  · exact (congrArg (· >>= _) (frame.response_fixed_eq _ (by omega))).trans (frame.elements_behind 6 length _)
  · exact frame.elements_behind 0 length _
  · exact (congrArg (· >>= _) (frame.beacon_fixed_eq _ (by omega))).trans (frame.elements_behind 12 length _)
  · exact (congrArg (· >>= _) (frame.beacon_fixed_eq _ (by omega))).trans (frame.elements_behind 12 length _)

theorem encode_length : frame.encode.length = 24 + frame.body.length := by
  rw [encode, List.length_append, frame.header.property]

theorem header_byte (i : Nat) (inside : i < 24) : frame.encode.getD i 0 = frame.header.val.getD i 0 :=
  List.getD_append _ _ _ _ (by rw [frame.header.property]; exact inside)

theorem management_qos (data : Bytes) (frameSubtype : UInt8) (baseEnd : Nat) (early : baseEnd ≤ 30) :
    readQosControl data 0 frameSubtype baseEnd = .ok none := by
  rw [readQosControl, add_ok (usize_small (by omega)), ok_bind, if_neg fun control => absurd control.1 (by decide)]
  rfl

theorem management_ht (data : Bytes) (order : Bool) (afterQos : Nat) (early : afterQos ≤ 30) :
    readHtControl data order false afterQos = .ok none := by
  rw [readHtControl, add_ok (usize_small (by omega)), ok_bind, if_neg fun control => absurd control.2.1 (by decide)]
  rfl

-- The header that is read of it, which no byte behind the 24 reaches.
def wifiHeader : Wifi80211Header where
  protocolVersion := frame.header.val.getD 0 0 &&& 0x03
  frameType := 0
  frameSubtype := frame.subtype
  toDs := frame.toDs
  fromDs := frame.fromDs
  moreFragments := frame.header.val.getD 1 0 &&& 0x04 != 0
  retry := frame.header.val.getD 1 0 &&& 0x08 != 0
  powerManagement := frame.header.val.getD 1 0 &&& 0x10 != 0
  moreData := frame.header.val.getD 1 0 &&& 0x20 != 0
  protectedFrame := frame.header.val.getD 1 0 &&& 0x40 != 0
  order := frame.header.val.getD 1 0 &&& 0x80 != 0
  duration := u16FromLe (frame.header.val.getD 2 0) (frame.header.val.getD 3 0)
  sequenceNumber := u16FromLe (frame.header.val.getD 22 0) (frame.header.val.getD 23 0) >>> 4
  fragmentNumber := (u16FromLe (frame.header.val.getD 22 0) (frame.header.val.getD 23 0) &&& 0x000F).toUInt8
  qosControl := none
  htControl := none

theorem parse_frame_eq (pkt : ParsedPacket) :
    ∃ src dst bssid, resolveAddresses frame.encode frame.toDs frame.fromDs = .ok (src, dst, bssid) ∧
      parse80211Frame frame.encode pkt = .ok { pkt.withWifi frame.wifiHeader src dst bssid with
        wifiMgmt := some (frame.items.foldl takeElement (frame.fixedPart src bssid)) } := by
  have length := frame.encode_length
  obtain ⟨⟨src, dst, bssid⟩, resolved, -⟩ :=
    resolve_addresses_safe frame.encode frame.toDs frame.fromDs (by omega)
  have behind : sliceFrom frame.encode 24 = .ok frame.body :=
    slice_from_append frame.header.val frame.body frame.header.property
  refine ⟨src, dst, bssid, resolved, ?_⟩
  have decoded := frame.mgmt_body_eq src dst bssid
  rw [toDs, fromDs] at resolved
  rw [subtype] at decoded
  rw [parse80211Frame, if_neg (by omega)]
  simp (disch := omega) only [index_getD, ok_bind, frame.header_byte, frame.management]
  generalize baseEq : (if (frame.header.val.getD 1 0 &&& 0x01 != 0) && (frame.header.val.getD 1 0 &&& 0x02 != 0) &&
    decide (frame.encode.length ≥ 30) then 30 else 24) = baseEnd
  have early : baseEnd ≤ 30 := by rw [← baseEq]; split <;> omega
  rw [management_qos _ _ _ early, ok_bind, Option.isSome_none, addIf, if_neg (by decide), ok_bind,
    management_ht _ _ _ early, ok_bind, resolved, ok_bind]
  dsimp only
  rw [if_neg (by omega), behind, ok_bind, decoded, ok_bind]
  rfl

theorem resolve_addresses_append (data rest : Bytes) (toDs fromDs : Bool) (long : 24 ≤ data.length)
    (fourth : toDs = true → fromDs = true → data.length < 30 → (data ++ rest).length < 30) :
    resolveAddresses (data ++ rest) toDs fromDs = resolveAddresses data toDs fromDs := by
  have longer : data.length ≤ (data ++ rest).length := by
    rw [List.length_append]
    omega
  rw [resolveAddresses, resolveAddresses]
  simp (disch := omega) only [slice_append_left]
  cases toDs with
  | false => cases fromDs <;> rfl
  | true =>
      cases fromDs with
      | false => rfl
      | true =>
          have unchanged := fourth rfl rfl
          by_cases enough : data.length ≥ 30
          · have more : (data ++ rest).length ≥ 30 := Nat.le_trans enough longer
            simp (disch := omega) only [if_pos more, if_pos enough, slice_append_left]
          · have less : ¬ (data ++ rest).length ≥ 30 := by omega
            simp only [if_neg less, if_neg enough]

theorem fold_take_element (items : List Tlv) (mgmt : WifiMgmtFrame) (clientMac : Option Mac) (bssid : Mac) (rawBody : Bytes) :
    items.foldl takeElement { mgmt with clientMac := clientMac, bssid := bssid, rawBody := rawBody } =
      { items.foldl takeElement mgmt with clientMac := clientMac, bssid := bssid, rawBody := rawBody } := by
  induction items generalizing mgmt with
  | nil => rfl
  | cons item rest ih => exact ih (takeElement mgmt item)

theorem without_trailing_encode : frame.encode = frame.withoutTrailing.encode ++ frame.trailing := by
  simp only [encode, body, withoutTrailing, List.append_assoc, List.append_nil]

-- A frame with both DS bits has its fourth address where the body begins, and
-- only the trailing bytes make it long enough to have one.
def TrailingAddress : Prop :=
  frame.toDs = true ∧ frame.fromDs = true ∧ frame.withoutTrailing.encode.length < 30 ∧ 30 ≤ frame.encode.length

-- Trailing bytes are copied with the body. Nothing else is read of them, unless
-- as an address.
structure SameBefore (result bare : ParsedPacket) (mgmt bareMgmt : WifiMgmtFrame) : Prop where
  decoded : mgmt = { bareMgmt with clientMac := mgmt.clientMac, bssid := mgmt.bssid, rawBody := frame.body }
  packet : result = { bare with
    srcMac := result.srcMac, dstMac := result.dstMac, bssid := result.bssid, wifiMgmt := some mgmt }
  addresses : ¬ frame.TrailingAddress → mgmt.clientMac = bareMgmt.clientMac ∧ mgmt.bssid = bareMgmt.bssid ∧
    result.srcMac = bare.srcMac ∧ result.dstMac = bare.dstMac ∧ result.bssid = bare.bssid

theorem elements_decoded_in_order (pkt : ParsedPacket) :
    ∃ result bssid mgmt, parse80211Frame frame.encode pkt = .ok result ∧ result.bssid = some bssid ∧
      result.wifiMgmt = some mgmt ∧ mgmt = frame.items.foldl takeElement (frame.fixedPart result.srcMac bssid) ∧
      ElementsRead frame.items mgmt ∧
      ∃ bare bareMgmt, parse80211Frame frame.withoutTrailing.encode pkt = .ok bare ∧ bare.wifiMgmt = some bareMgmt ∧
        frame.SameBefore result bare mgmt bareMgmt := by
  obtain ⟨src, dst, bssid, resolved, parsed⟩ := frame.parse_frame_eq pkt
  obtain ⟨bareSrc, bareDst, bareBssid, bareResolved, bareParsed⟩ := frame.withoutTrailing.parse_frame_eq pkt
  have read := elements_read frame.items _ (frame.fixed_part_no_elements src bssid)
  have shape : frame.fixedPart src bssid = { frame.withoutTrailing.fixedPart bareSrc bareBssid with
    clientMac := (frame.fixedPart src bssid).clientMac, bssid := bssid, rawBody := frame.body } := rfl
  have folded := fold_take_element frame.items (frame.withoutTrailing.fixedPart bareSrc bareBssid)
    (frame.fixedPart src bssid).clientMac bssid frame.body
  rw [← shape] at folded
  have bareFolded := fold_take_element frame.items (frame.withoutTrailing.fixedPart bareSrc bareBssid)
    (frame.withoutTrailing.fixedPart bareSrc bareBssid).clientMac bareBssid frame.withoutTrailing.body
  refine ⟨_, bssid, _, parsed, rfl, rfl, rfl, read, _, _, bareParsed, rfl, ?_, rfl, ?_⟩
  · rw [folded]
    rfl
  · intro taken
    have same := resolve_addresses_append frame.withoutTrailing.encode frame.trailing frame.toDs frame.fromDs
      (by have length := frame.withoutTrailing.encode_length; omega) (by
        intro toDs fromDs short
        rw [← without_trailing_encode]
        exact Nat.lt_of_not_le fun long => taken ⟨toDs, fromDs, short, long⟩)
    rw [← without_trailing_encode, resolved] at same
    cases Except.ok.inj (same.trans bareResolved)
    exact ⟨(congrArg WifiMgmtFrame.clientMac folded).trans (congrArg WifiMgmtFrame.clientMac bareFolded).symm,
      (congrArg WifiMgmtFrame.bssid folded).trans (congrArg WifiMgmtFrame.bssid bareFolded).symm, rfl, rfl, rfl⟩

end ElementFrame

-- A beacon with the SSIDs "a" and "b", an RSN element, two elements of vendors,
-- and an element that is cut off.
def twoSsidBeacon : ElementFrame where
  header := ⟨[0x80, 0] ++ List.replicate 20 0x11 ++ [0, 0], by decide⟩
  fixed := List.replicate 8 0 ++ [100, 0, 0x11, 0x04]
  items := [⟨0, [97], by decide⟩, ⟨221, [0, 0x50, 0xF2, 1], by decide⟩,
    ⟨48, encodeRsn 0x000FAC04 [0x000FAC04, 0x000FAC02] [0x000FAC02] 0x000C, by decide⟩,
    ⟨221, [0, 0x50, 0xF2, 4, 7], by decide⟩, ⟨0, [98], by decide⟩]
  trailing := [3, 1]
  management := by decide
  layout := by decide
  incomplete := by unfold Incomplete; decide

theorem two_ssid_beacon_decoded :
    ∃ result mgmt, parse80211Frame twoSsidBeacon.encode (ParsedPacket.new .wifi80211 none) = .ok result ∧
      result.wifiMgmt = some mgmt ∧ mgmt.ssid = some "b" ∧ mgmt.channel = none ∧
      mgmt.rsnInfo = some ⟨some 0x000FAC04, [0x000FAC04, 0x000FAC02], [0x000FAC02], some 0x000C⟩ ∧
      mgmt.vendorIes = [⟨(0, 0x50, 0xF2), 1, []⟩, ⟨(0, 0x50, 0xF2), 4, [7]⟩] := by
  obtain ⟨result, _, mgmt, parsed, -, managed, -, read, -⟩ :=
    twoSsidBeacon.elements_decoded_in_order (ParsedPacket.new .wifi80211 none)
  refine ⟨result, mgmt, parsed, managed, ?_, ?_, ?_, ?_⟩
  · rw [read.ssid]
    decide +kernel
  · rw [read.channel]
    decide +kernel
  · exact read.rsnExact [⟨0, [97], by decide⟩, ⟨221, [0, 0x50, 0xF2, 1], by decide⟩] _
      [⟨221, [0, 0x50, 0xF2, 4, 7], by decide⟩, ⟨0, [98], by decide⟩] _ _ _ _ rfl rfl rfl (by decide)
  · rw [read.vendorIes]
    rfl

-- A probe request with both DS bits and no element: the first six bytes of an
-- element that is cut off are its client.
def bothDsProbe : ElementFrame where
  header := ⟨[0x40, 0x03] ++ List.replicate 20 0x11 ++ [0, 0], by decide⟩
  fixed := []
  items := []
  trailing := [0x00, 0xFF, 0xAA, 0xBB, 0xCC, 0xDD]
  management := by decide
  layout := by decide
  incomplete := by unfold Incomplete; decide

def clientOf (parsed : Checked ParsedPacket) : Option Bytes :=
  parsed.toOption.bind fun pkt => pkt.wifiMgmt.bind fun mgmt => mgmt.clientMac.map Subtype.val

theorem trailing_bytes_taken_for_client :
    Incomplete bothDsProbe.trailing ∧
    clientOf (parse80211Frame bothDsProbe.encode (ParsedPacket.new .wifi80211 none)) =
      some [0x00, 0xFF, 0xAA, 0xBB, 0xCC, 0xDD] ∧
    clientOf (parse80211Frame bothDsProbe.withoutTrailing.encode (ParsedPacket.new .wifi80211 none)) =
      some [0x11, 0x11, 0x11, 0x11, 0x11, 0x11] := by
  refine ⟨bothDsProbe.incomplete, ?_, ?_⟩ <;> decide +kernel

end NetworkIds.Parser
