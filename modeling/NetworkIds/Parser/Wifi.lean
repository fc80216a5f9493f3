import NetworkIds.Parser.Ethernet

set_option autoImplicit false

namespace NetworkIds.Parser

open Checked Endian Utf8

-- One of the counted suite lists of the RSN element, read while it lasts.
def rsnSuiteLoop (data : Bytes) (count offset : Nat) (suites : List UInt32) :
    Checked (List UInt32 × Nat) :=
  match count with
  | 0 => return (suites, offset)
  | count + 1 => do
      if data.length < (← add offset 4) then return (suites, offset)
      else
        let suite := u32FromBe (← index data offset) (← indexAdd data offset 1)
          (← indexAdd data offset 2) (← indexAdd data offset 3)
        rsnSuiteLoop data count (← add offset 4) (suites ++ [suite])

def rsnCapabilities (data : Bytes) (offset : Nat) : Checked (Option UInt16) := do
  if data.length ≥ (← add offset 2) then
    return some (u16FromLe (← index data offset) (← indexAdd data offset 1))
  else return none

def parseRsnIe (data : Bytes) : Checked (Option RsnInfo) := do
  if data.length < 6 then return none
  else
    let version := u16FromLe (← index data 0) (← index data 1)
    if version ≠ 1 then return none
    else
      let groupCipher := some (u32FromBe (← index data 2) (← index data 3) (← index data 4) (← index data 5))
      if data.length < 8 then return some ⟨groupCipher, [], [], none⟩
      else
        let pairwiseCount := (u16FromLe (← index data 6) (← index data 7)).toNat
        let (pairwiseCiphers, offset) ← rsnSuiteLoop data pairwiseCount 8 []
        if data.length < (← add offset 2) then return some ⟨groupCipher, pairwiseCiphers, [], none⟩
        else
          let akmCount := (u16FromLe (← index data offset) (← indexAdd data offset 1)).toNat
          let (akmSuites, offset) ← rsnSuiteLoop data akmCount (← add offset 2) []
          let capabilities ← rsnCapabilities data offset
          return some ⟨groupCipher, pairwiseCiphers, akmSuites, capabilities⟩

-- The match on ie_type.
def applyWifiIe (ieType : UInt8) (ieData : Bytes) (mgmt : WifiMgmtFrame) : Checked WifiMgmtFrame := do
  match ieType with
  | 0 => return { mgmt with ssid := some (fromUtf8Lossy ieData) }
  | 1 => return { mgmt with supportedRates := ieData }
  | 3 =>
      if ieData.length ≥ 1 then return { mgmt with channel := some (← index ieData 0) }
      else return mgmt
  | 5 =>
      if ieData.length ≥ 4 then
        return { mgmt with tim := some {
          dtimCount := ← index ieData 0
          dtimPeriod := ← index ieData 1
          bitmapControl := ← index ieData 2
          partialVirtualBitmap := ← sliceFrom ieData 3 } }
      else return mgmt
  | 7 =>
      if ieData.length ≥ 3 then
        return { mgmt with countryInfo := some {
          countryCode := (← index ieData 0, ← index ieData 1)
          environment := ← index ieData 2
          triplets := ← sliceFrom ieData 3 } }
      else return mgmt
  | 42 =>
      if ieData.length ≥ 1 then return { mgmt with erpInfo := some (← index ieData 0) }
      else return mgmt
  | 45 =>
      if ieData.length ≥ 3 then
        return { mgmt with htCapabilities := some {
          htCapInfo := u16FromLe (← index ieData 0) (← index ieData 1)
          ampduParams := ← index ieData 2
          raw := ieData } }
      else if ieData.length ≥ 2 then
        return { mgmt with htCapabilities := some {
          htCapInfo := u16FromLe (← index ieData 0) (← index ieData 1)
          ampduParams := 0
          raw := ieData } }
      else return mgmt
  | 48 => return { mgmt with rsnInfo := ← parseRsnIe ieData }
  | 50 => return { mgmt with extendedSupportedRates := ieData }
  | 61 =>
      if ieData.length ≥ 1 then
        return { mgmt with htOperation := some { primaryChannel := ← index ieData 0, raw := ieData } }
      else return mgmt
  | 191 =>
      if ieData.length ≥ 4 then
        return { mgmt with vhtCapabilities := some {
          vhtCapInfo := u32FromLe (← index ieData 0) (← index ieData 1) (← index ieData 2) (← index ieData 3)
          raw := ieData } }
      else return mgmt
  | 221 =>
      if ieData.length ≥ 4 then
        let vendor : VendorIe := {
          oui := (← index ieData 0, ← index ieData 1, ← index ieData 2)
          ouiType := ← index ieData 3
          data := ← sliceFrom ieData 4 }
        return { mgmt with vendorIes := mgmt.vendorIes ++ [vendor] }
      else return mgmt
  | _ => return mgmt

def wifiIeLoop (fuel : Nat) (data : Bytes) (mgmt : WifiMgmtFrame) : Checked WifiMgmtFrame :=
  match fuel with
  | 0 => throw .outOfFuel
  | fuel + 1 => do
      if data.length ≥ 2 then
        let ieType ← index data 0
        let ieLen := (← index data 1).toNat
        let ieEnd ← add 2 ieLen
        if ieEnd > data.length then return mgmt
        else
          let mgmt ← applyWifiIe ieType (← slice data 2 ieEnd) mgmt
          wifiIeLoop fuel (← sliceFrom data ieEnd) mgmt
      else return mgmt

def parseWifiIes (data : Bytes) (mgmt : WifiMgmtFrame) : Checked WifiMgmtFrame :=
  wifiIeLoop (data.length + 1) data mgmt

def WifiMgmtFrame.new (subtype : UInt8) (bssid : Mac) (body : Bytes) : WifiMgmtFrame where
  subtype := subtype
  ssid := none
  channel := none
  rsnInfo := none
  reasonCode := none
  statusCode := none
  bssid := bssid
  clientMac := none
  rawBody := body
  beaconInterval := none
  capabilityInfo := none
  supportedRates := []
  extendedSupportedRates := []
  countryInfo := none
  tim := none
  erpInfo := none
  htCapabilities := none
  htOperation := none
  vhtCapabilities := none
  vendorIes := []

-- Association request (0) and reassociation request (2).
def mgmtRequestFixed (body : Bytes) (mgmt : WifiMgmtFrame) : Checked WifiMgmtFrame := do
  if body.length ≥ 2 then
    return { mgmt with capabilityInfo := some (u16FromLe (← index body 0) (← index body 1)) }
  else return mgmt

-- Association response (1) and reassociation response (3).
def mgmtResponseFixed (body : Bytes) (mgmt : WifiMgmtFrame) : Checked WifiMgmtFrame := do
  if body.length ≥ 6 then
    return { mgmt with
      capabilityInfo := some (u16FromLe (← index body 0) (← index body 1))
      statusCode := some (u16FromLe (← index body 2) (← index body 3)) }
  else return mgmt

-- Probe response (5) and beacon (8).
def mgmtBeaconFixed (body : Bytes) (mgmt : WifiMgmtFrame) : Checked WifiMgmtFrame := do
  if body.length ≥ 12 then
    return { mgmt with
      beaconInterval := some (u16FromLe (← index body 8) (← index body 9))
      capabilityInfo := some (u16FromLe (← index body 10) (← index body 11)) }
  else return mgmt

-- The information elements start after the fixed part.
def parseIesFrom (body : Bytes) (tagOffset : Nat) (mgmt : WifiMgmtFrame) : Checked WifiMgmtFrame := do
  if body.length ≥ tagOffset then parseWifiIes (← sliceFrom body tagOffset) mgmt
  else return mgmt

def readU16Le (body : Bytes) (needed start : Nat) (absent : Option UInt16) : Checked (Option UInt16) := do
  if body.length ≥ needed then
    return some (u16FromLe (← index body start) (← indexAdd body start 1))
  else return absent

def parseMgmtBody (frameSubtype : UInt8) (src dst : Mac) (body : Bytes) (mgmt : WifiMgmtFrame) :
    Checked WifiMgmtFrame := do
  match frameSubtype with
  | 0 => parseIesFrom body 4 (← mgmtRequestFixed body { mgmt with clientMac := some src })
  | 2 => parseIesFrom body 10 (← mgmtRequestFixed body { mgmt with clientMac := some src })
  | 1 | 3 => parseIesFrom body 6 (← mgmtResponseFixed body mgmt)
  | 5 => parseIesFrom body 12 (← mgmtBeaconFixed body { mgmt with clientMac := some src })
  | 4 => parseIesFrom body 0 { mgmt with clientMac := some src }
  | 8 => parseIesFrom body 12 (← mgmtBeaconFixed body mgmt)
  -- Disassociation (10) and deauthentication (12).
  | 10 | 12 =>
      return { mgmt with
        reasonCode := ← readU16Le body 2 0 mgmt.reasonCode
        clientMac := some (if frameSubtype = 12 then dst else src) }
  -- Authentication.
  | 11 => return { mgmt with statusCode := ← readU16Le body 6 4 mgmt.statusCode, clientMac := some src }
  | _ => return mgmt

-- Source, destination and BSSID from the address fields.
def resolveAddresses (data : Bytes) (toDs fromDs : Bool) : Checked (Mac × Mac × Mac) := do
  let addr1 ← copyMac (← slice data 4 10)
  let addr2 ← copyMac (← slice data 10 16)
  let addr3 ← copyMac (← slice data 16 22)
  match toDs, fromDs with
  | false, false => return (addr2, addr1, addr3)
  | true, false => return (addr2, addr3, addr1)
  | false, true => return (addr3, addr1, addr2)
  | true, true =>
      if data.length ≥ 30 then
        let addr4 ← copyMac (← slice data 24 30)
        return (addr4, addr3, addr1)
      else return (addr2, addr1, addr3)

def readQosControl (data : Bytes) (frameType frameSubtype : UInt8) (baseEnd : Nat) :
    Checked (Option UInt16) := do
  if frameType = 2 ∧ frameSubtype &&& 0x08 ≠ 0 ∧ data.length ≥ (← add baseEnd 2) then
    return some (u16FromLe (← index data baseEnd) (← indexAdd data baseEnd 1))
  else return none

def readHtControl (data : Bytes) (order hasQos : Bool) (afterQos : Nat) : Checked (Option UInt32) := do
  if order ∧ hasQos ∧ data.length ≥ (← add afterQos 4) then
    return some (u32FromLe (← index data afterQos) (← indexAdd data afterQos 1)
      (← indexAdd data afterQos 2) (← indexAdd data afterQos 3))
  else return none

-- The body of a data frame: LLC/SNAP with an EtherType, unless protected.
def parseDataBody (data : Bytes) (headerLen : Nat) (protectedFrame : Bool) (pkt : ParsedPacket) :
    Checked ParsedPacket := do
  if data.length > headerLen then
    let payload ← sliceFrom data headerLen
    let pkt := { pkt with rawPayload := payload }
    if protectedFrame then return pkt
    else if payload.length ≥ 8 then
      if (← index payload 0) = 0xAA ∧ (← index payload 1) = 0xAA then
        let ethType := u16FromBe (← index payload 6) (← index payload 7)
        parseEthernetPayload ethType (← sliceFrom payload 8) pkt
      else return pkt
    else return pkt
  else return pkt

def parse80211Frame (data : Bytes) (pkt : ParsedPacket) : Checked ParsedPacket := do
  if data.length < 24 then return pkt.markMalformed
  else
    let fc0 ← index data 0
    let fc1 ← index data 1
    let frameType := (fc0 >>> 2) &&& 0x03
    let frameSubtype := (fc0 >>> 4) &&& 0x0F
    let toDs := fc1 &&& 0x01 != 0
    let fromDs := fc1 &&& 0x02 != 0
    let protectedFrame := fc1 &&& 0x40 != 0
    let order := fc1 &&& 0x80 != 0
    let duration := u16FromLe (← index data 2) (← index data 3)
    let seqCtrl := u16FromLe (← index data 22) (← index data 23)
    let baseEnd := if toDs && fromDs && decide (data.length ≥ 30) then 30 else 24
    let qosControl ← readQosControl data frameType frameSubtype baseEnd
    let afterQos ← addIf qosControl.isSome baseEnd 2
    let htControl ← readHtControl data order qosControl.isSome afterQos
    let (src, dst, bssid) ← resolveAddresses data toDs fromDs
    let pkt := { pkt with
      wifiHeader := some {
        protocolVersion := fc0 &&& 0x03
        frameType := frameType
        frameSubtype := frameSubtype
        toDs := toDs
        fromDs := fromDs
        moreFragments := fc1 &&& 0x04 != 0
        retry := fc1 &&& 0x08 != 0
        powerManagement := fc1 &&& 0x10 != 0
        moreData := fc1 &&& 0x20 != 0
        protectedFrame := protectedFrame
        order := order
        duration := duration
        sequenceNumber := seqCtrl >>> 4
        fragmentNumber := (seqCtrl &&& 0x000F).toUInt8
        qosControl := qosControl
        htControl := htControl }
      srcMac := src
      dstMac := dst
      bssid := some bssid }
    match frameType with
    | 0 =>
        if data.length < 24 then return pkt.markMalformed
        else
          let body ← sliceFrom data 24
          let mgmt ← parseMgmtBody frameSubtype src dst body (WifiMgmtFrame.new frameSubtype bssid body)
          return { pkt with wifiMgmt := some mgmt }
    | 2 =>
        let headerLen ← addIf htControl.isSome (← addIf qosControl.isSome baseEnd 2) 4
        parseDataBody data headerLen protectedFrame pkt
    | _ => return pkt

theorem rsn_suite_loop_safe (data : Bytes) (fits : data.length ≤ isizeMax) (count offset : Nat)
    (suites : List UInt32) (inside : offset ≤ data.length) :
    Safe (rsnSuiteLoop data count offset suites) (fun result => result.2 ≤ data.length) := by
  have room := usize_room fits 4 (by omega)
  induction count generalizing offset suites with
  | zero => exact safe_ok inside
  | succ count ih =>
      rw [rsnSuiteLoop]
      simp (disch := omega) only [add_ok, ok_bind]
      split
      · exact safe_ok inside
      · simp (disch := omega) only [index_getD, index_add_getD, ok_bind]
        exact ih _ _ (by omega)

theorem rsn_capabilities_safe (data : Bytes) (fits : data.length ≤ isizeMax) (offset : Nat)
    (inside : offset ≤ data.length) : Safe (rsnCapabilities data offset) (fun _ => True) := by
  have room := usize_room fits 2 (by omega)
  rw [rsnCapabilities]
  simp (disch := omega) only [add_ok, ok_bind]
  split
  · simp (disch := omega) only [index_getD, index_add_getD, ok_bind]
    exact safe_ok trivial
  · exact safe_ok trivial

theorem rsn_ie_safe (data : Bytes) (fits : data.length ≤ isizeMax) :
    Safe (parseRsnIe data) (fun _ => True) := by
  have room := usize_room fits 2 (by omega)
  rw [parseRsnIe]
  split
  · exact safe_ok trivial
  · simp (disch := omega) only [index_getD, ok_bind]
    split
    · exact safe_ok trivial
    · split
      · exact safe_ok trivial
      · simp (disch := omega) only [index_getD, ok_bind]
        refine safe_bind (rsn_suite_loop_safe data fits _ 8 [] (by omega)) ?_
        rintro ⟨pairwiseCiphers, offset⟩ inside
        dsimp only at inside ⊢
        simp (disch := omega) only [add_ok, ok_bind]
        split
        · exact safe_ok trivial
        · simp (disch := omega) only [index_getD, index_add_getD, ok_bind]
          refine safe_bind (rsn_suite_loop_safe data fits _ _ [] (by omega)) ?_
          rintro ⟨akmSuites, next⟩ nextInside
          refine safe_bind (rsn_capabilities_safe data fits next nextInside) ?_
          intro capabilities _
          exact safe_ok trivial

theorem apply_wifi_ie_safe (ieType : UInt8) (ieData : Bytes) (mgmt : WifiMgmtFrame)
    (fits : ieData.length ≤ isizeMax) : Safe (applyWifiIe ieType ieData mgmt) (fun _ => True) := by
  unfold applyWifiIe
  split
  case h_8 => exact safe_bind (rsn_ie_safe ieData fits) fun info _ => safe_ok trivial
  case h_7 =>
    split
    · simp (disch := omega) only [index_getD, ok_bind]
      exact safe_ok trivial
    · split
      · simp (disch := omega) only [index_getD, ok_bind]
        exact safe_ok trivial
      · exact safe_ok trivial
  all_goals
    first
    | exact safe_ok trivial
    | split
      · simp (disch := omega) only [index_getD, slice_from_ok, ok_bind]
        exact safe_ok trivial
      · exact safe_ok trivial

theorem wifi_ie_loop_safe (fuel : Nat) (data : Bytes) (mgmt : WifiMgmtFrame)
    (fits : data.length ≤ isizeMax) (enough : data.length < fuel) :
    Safe (wifiIeLoop fuel data mgmt) (fun _ => True) := by
  induction fuel generalizing data mgmt with
  | zero => omega
  | succ fuel ih =>
      rw [wifiIeLoop]
      split
      · have lenBound := (data.getD 1 0).toNat_lt
        have room : 2 + (data.getD 1 0).toNat ≤ usizeMax := usize_small (by omega)
        simp (disch := omega) only [index_getD, add_ok, ok_bind]
        split
        · exact safe_ok trivial
        · simp (disch := omega) only [slice_ok, slice_from_ok, ok_bind]
          have length := slice_length data 2 (2 + (data.getD 1 0).toNat)
            (by omega)
          refine safe_bind (apply_wifi_ie_safe _ _ mgmt (by omega)) fun next _ => ?_
          exact ih _ _ (by rw [List.length_drop]; omega) (by rw [List.length_drop]; omega)
      · exact safe_ok trivial

theorem wifi_ies_safe (data : Bytes) (mgmt : WifiMgmtFrame) (fits : data.length ≤ isizeMax) :
    Safe (parseWifiIes data mgmt) (fun _ => True) :=
  wifi_ie_loop_safe _ data mgmt fits (by omega)

theorem ies_from_safe (body : Bytes) (tagOffset : Nat) (mgmt : WifiMgmtFrame)
    (fits : body.length ≤ isizeMax) : Safe (parseIesFrom body tagOffset mgmt) (fun _ => True) := by
  rw [parseIesFrom]
  split
  · simp (disch := omega) only [slice_from_ok, ok_bind]
    exact wifi_ies_safe _ mgmt (by rw [List.length_drop]; omega)
  · exact safe_ok trivial

theorem mgmt_request_fixed_safe (body : Bytes) (mgmt : WifiMgmtFrame) :
    Safe (mgmtRequestFixed body mgmt) (fun _ => True) := by
  rw [mgmtRequestFixed]
  split
  · simp (disch := omega) only [index_getD, ok_bind]
    exact safe_ok trivial
  · exact safe_ok trivial

theorem mgmt_response_fixed_safe (body : Bytes) (mgmt : WifiMgmtFrame) :
    Safe (mgmtResponseFixed body mgmt) (fun _ => True) := by
  rw [mgmtResponseFixed]
  split
  · simp (disch := omega) only [index_getD, ok_bind]
    exact safe_ok trivial
  · exact safe_ok trivial

theorem mgmt_beacon_fixed_safe (body : Bytes) (mgmt : WifiMgmtFrame) :
    Safe (mgmtBeaconFixed body mgmt) (fun _ => True) := by
  rw [mgmtBeaconFixed]
  split
  · simp (disch := omega) only [index_getD, ok_bind]
    exact safe_ok trivial
  · exact safe_ok trivial

theorem read_u16_le_safe (body : Bytes) (needed start : Nat) (absent : Option UInt16)
    (fits : body.length ≤ isizeMax) (room : start + 2 ≤ needed) :
    Safe (readU16Le body needed start absent) (fun _ => True) := by
  rw [readU16Le]
  split
  · simp (disch := omega) only [index_getD, index_add_getD, ok_bind]
    exact safe_ok trivial
  · exact safe_ok trivial

theorem mgmt_body_safe (frameSubtype : UInt8) (src dst : Mac) (body : Bytes) (mgmt : WifiMgmtFrame)
    (fits : body.length ≤ isizeMax) :
    Safe (parseMgmtBody frameSubtype src dst body mgmt) (fun _ => True) := by
  unfold parseMgmtBody
  split
  · exact safe_bind (mgmt_request_fixed_safe body _) fun next _ => ies_from_safe body 4 next fits
  · exact safe_bind (mgmt_request_fixed_safe body _) fun next _ => ies_from_safe body 10 next fits
  · exact safe_bind (mgmt_response_fixed_safe body _) fun next _ => ies_from_safe body 6 next fits
  · exact safe_bind (mgmt_response_fixed_safe body _) fun next _ => ies_from_safe body 6 next fits
  · exact safe_bind (mgmt_beacon_fixed_safe body _) fun next _ => ies_from_safe body 12 next fits
  · exact ies_from_safe body 0 _ fits
  · exact safe_bind (mgmt_beacon_fixed_safe body _) fun next _ => ies_from_safe body 12 next fits
  · exact safe_bind (read_u16_le_safe body 2 0 _ fits (by omega)) fun reason _ => safe_ok trivial
  · exact safe_bind (read_u16_le_safe body 2 0 _ fits (by omega)) fun reason _ => safe_ok trivial
  · exact safe_bind (read_u16_le_safe body 6 4 _ fits (by omega)) fun status _ => safe_ok trivial
  · exact safe_ok trivial

theorem resolve_addresses_safe (data : Bytes) (toDs fromDs : Bool) (long : 24 ≤ data.length) :
    Safe (resolveAddresses data toDs fromDs) (fun _ => True) := by
  have length1 : 6 ≤ ((data.take 10).drop 4).length := slice_long (by omega) (by omega)
  have length2 : 6 ≤ ((data.take 16).drop 10).length := slice_long (by omega) (by omega)
  have length3 : 6 ≤ ((data.take 22).drop 16).length := slice_long (by omega) (by omega)
  rw [resolveAddresses]
  simp (disch := omega) only [slice_ok, copy_mac_ok, ok_bind]
  cases toDs <;> cases fromDs
  case true.true =>
    dsimp only
    split
    · have length4 : 6 ≤ ((data.take 30).drop 24).length := slice_long (by omega) (by omega)
      simp (disch := omega) only [slice_ok, copy_mac_ok, ok_bind]
      exact safe_ok trivial
    · exact safe_ok trivial
  all_goals exact safe_ok trivial

theorem qos_control_safe (data : Bytes) (frameType frameSubtype : UInt8) (baseEnd : Nat)
    (fits : data.length ≤ isizeMax) (early : baseEnd ≤ 30) :
    Safe (readQosControl data frameType frameSubtype baseEnd) (fun _ => True) := by
  have room : baseEnd + 2 ≤ usizeMax := usize_small (by omega)
  rw [readQosControl]
  simp (disch := omega) only [add_ok, ok_bind]
  split
  · simp (disch := omega) only [index_getD, index_add_getD, ok_bind]
    exact safe_ok trivial
  · exact safe_ok trivial

theorem ht_control_safe (data : Bytes) (order hasQos : Bool) (afterQos : Nat)
    (fits : data.length ≤ isizeMax) (early : afterQos ≤ 32) :
    Safe (readHtControl data order hasQos afterQos) (fun _ => True) := by
  have room : afterQos + 4 ≤ usizeMax := usize_small (by omega)
  rw [readHtControl]
  simp (disch := omega) only [add_ok, ok_bind]
  split
  · simp (disch := omega) only [index_getD, index_add_getD, ok_bind]
    exact safe_ok trivial
  · exact safe_ok trivial

-- What the 802.11 parser leaves behind: a coherent packet that is not an
-- Ethernet one, and that has no upper layers if it has a management frame.
def WifiResult (data : Bytes) (pkt result : ParsedPacket) : Prop :=
  NetworkCoherent data result.network result.transport result.app ∧
  result.ethernet = pkt.ethernet ∧
  (result.wifiMgmt = pkt.wifiMgmt ∨ result.LayersEmpty)

theorem data_body_rule (data : Bytes) (headerLen : Nat) (protectedFrame : Bool) (pkt : ParsedPacket)
    (post : ParsedPacket → Prop) (stored : ∀ raw, post { pkt with rawPayload := raw })
    (payload : ∀ ethType inner raw, inner <:+: data →
      Safe (parseEthernetPayload ethType inner { pkt with rawPayload := raw }) post) :
    Safe (parseDataBody data headerLen protectedFrame pkt) post := by
  rw [parseDataBody]
  split
  · simp (disch := omega) only [slice_from_ok, ok_bind]
    have length : (data.drop headerLen).length = data.length - headerLen := List.length_drop
    split
    · exact safe_ok (stored _)
    · split
      · simp (disch := omega) only [index_getD, ok_bind]
        split
        · exact payload _ _ _ ((drop_contiguous _ 8).trans (drop_contiguous data headerLen))
        · exact safe_ok (stored _)
      · exact safe_ok (stored _)
  · exact safe_ok (stored pkt.rawPayload)

theorem data_body_safe (data : Bytes) (headerLen : Nat) (protectedFrame : Bool) (pkt : ParsedPacket)
    (fits : data.length ≤ isizeMax) (empty : pkt.LayersEmpty) :
    Safe (parseDataBody data headerLen protectedFrame pkt) (WifiResult data pkt) := by
  have coherent := layers_empty_coherent data pkt empty
  apply data_body_rule data headerLen protectedFrame pkt _ fun _ => ⟨coherent, rfl, .inl rfl⟩
  intro ethType inner raw inside
  refine safe_mono (ethernet_payload_safe _ _ _ (Nat.le_trans inside.length_le fits) empty) ?_
  rintro result ⟨malformed, network, transport, app, rfl, layers⟩
  exact ⟨network_coherent_within _ data _ _ _ inside layers, rfl, .inl rfl⟩

def ParsedPacket.withWifi (pkt : ParsedPacket) (header : Wifi80211Header) (src dst bssid : Mac) : ParsedPacket :=
  { pkt with wifiHeader := some header, srcMac := src, dstMac := dst, bssid := some bssid }

theorem frame_80211_rule (data : Bytes) (pkt : ParsedPacket) (fits : data.length ≤ isizeMax)
    (post : ParsedPacket → Prop) (malformed : post pkt.markMalformed)
    (framed : ∀ header src dst bssid, post (pkt.withWifi header src dst bssid))
    (management : ∀ header src dst bssid mgmt, post { pkt.withWifi header src dst bssid with wifiMgmt := some mgmt })
    (body : ∀ header src dst bssid headerLen protectedFrame,
      Safe (parseDataBody data headerLen protectedFrame (pkt.withWifi header src dst bssid)) post) :
    Safe (parse80211Frame data pkt) post := by
  rw [parse80211Frame]
  split
  · exact safe_ok malformed
  · simp (disch := omega) only [index_getD, ok_bind]
    generalize baseEq : (if (data.getD 1 0 &&& 0x01 != 0) && (data.getD 1 0 &&& 0x02 != 0) &&
      decide (data.length ≥ 30) then 30 else 24) = baseEnd
    have early : baseEnd ≤ 30 := by rw [← baseEq]; split <;> omega
    have room : baseEnd + 2 + 4 ≤ usizeMax := usize_small (by omega)
    refine safe_bind (qos_control_safe data _ _ baseEnd fits early) fun qosControl _ => ?_
    simp (disch := omega) only [add_if_ok, ok_bind]
    generalize qosEq : (if qosControl.isSome then baseEnd + 2 else baseEnd) = afterQos
    have afterEarly : afterQos ≤ baseEnd + 2 := by rw [← qosEq]; split <;> omega
    refine safe_bind (ht_control_safe data _ _ afterQos fits (by omega)) fun htControl _ => ?_
    refine safe_bind (resolve_addresses_safe data _ _ (by omega)) fun addresses _ => ?_
    obtain ⟨src, dst, bssid⟩ := addresses
    dsimp only
    split
    · simp (disch := omega) only [slice_from_ok, ok_bind]
      refine safe_bind (mgmt_body_safe _ src dst _ _ (by rw [List.length_drop]; omega)) fun mgmt _ => ?_
      exact safe_ok (management _ src dst bssid mgmt)
    · simp (disch := omega) only [add_if_ok, ok_bind]
      exact body _ src dst bssid _ _
    · exact safe_ok (framed _ src dst bssid)

theorem frame_80211_safe (data : Bytes) (pkt : ParsedPacket) (fits : data.length ≤ isizeMax)
    (empty : pkt.LayersEmpty) : Safe (parse80211Frame data pkt) (WifiResult data pkt) := by
  have coherent := layers_empty_coherent data pkt empty
  apply frame_80211_rule data pkt fits
  · exact ⟨coherent, rfl, .inl rfl⟩
  · intro header src dst bssid
    exact ⟨coherent, rfl, .inl rfl⟩
  · intro header src dst bssid mgmt
    exact ⟨coherent, rfl, .inr empty⟩
  · intro header src dst bssid headerLen protectedFrame
    exact data_body_safe data headerLen protectedFrame (pkt.withWifi header src dst bssid) fits empty

end NetworkIds.Parser
