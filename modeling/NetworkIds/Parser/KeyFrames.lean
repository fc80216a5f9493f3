import NetworkIds.Parser.LinkIndependence
import Mathlib.Data.Nat.Bitwise

set_option autoImplicit false

namespace NetworkIds.Parser

open Checked Endian

-- An EAPOL-Key frame as IEEE 802.11 lays it out. The body length, 95 bytes and
-- the key data, is a 16-bit field.
structure KeyFrame where
  version : UInt8
  keyDescType : UInt8
  keyInfo : UInt16
  keyLength : UInt16
  replayCounter : UInt64
  keyNonce : Octets 32
  keyIv : Octets 16
  keyRsc : Octets 8
  reserved : Octets 8
  mic : Octets 16
  keyData : Bytes
  sized : 95 + keyData.length ≤ 65535

def KeyFrame.fixedPart (frame : KeyFrame) : Bytes :=
  [frame.keyDescType] ++ u16ToBe frame.keyInfo ++ u16ToBe frame.keyLength ++ u64ToBe frame.replayCounter ++
    frame.keyNonce.val ++ frame.keyIv.val ++ frame.keyRsc.val ++ frame.reserved.val ++ frame.mic.val ++
    u16ToBe (UInt16.ofNat frame.keyData.length)

def KeyFrame.body (frame : KeyFrame) : Bytes := frame.fixedPart ++ frame.keyData

def KeyFrame.header (frame : KeyFrame) : Bytes :=
  [frame.version, 3] ++ u16ToBe (UInt16.ofNat (95 + frame.keyData.length))

def KeyFrame.encode (frame : KeyFrame) : Bytes := frame.header ++ frame.body

structure KeyFrame.DecodesTo (frame : KeyFrame) (info : EapolInfo) : Prop where
  keyInfo : info.keyInfo = frame.keyInfo
  descriptorVersion : info.descriptorVersion.toNat = frame.keyInfo.toNat % 8
  install : info.install = frame.keyInfo.toNat.testBit 6
  keyAck : info.keyAck = frame.keyInfo.toNat.testBit 7
  keyMic : info.keyMic = frame.keyInfo.toNat.testBit 8
  secure : info.secure = frame.keyInfo.toNat.testBit 9
  error : info.error = frame.keyInfo.toNat.testBit 10
  request : info.request = frame.keyInfo.toNat.testBit 11
  encryptedKeyData : info.encryptedKeyData = frame.keyInfo.toNat.testBit 12
  replayCounter : info.replayCounter = frame.replayCounter
  keyNonce : info.keyNonce = frame.keyNonce
  keyIv : info.keyIv = frame.keyIv
  mic : info.mic = frame.mic
  rawKeyData : info.rawKeyData = frame.keyData

theorem u64_to_be_length (value : UInt64) : (u64ToBe value).length = 8 := rfl

-- Where the parser reads the replay counter, the nonce and the IV: each four
-- bytes late, so that its last four bytes belong to the next field.
def KeyFrame.readReplay (frame : KeyFrame) : Octets 8 :=
  ⟨(u64ToBe frame.replayCounter).drop 4 ++ frame.keyNonce.val.take 4, by
    simp [u64_to_be_length, frame.keyNonce.property]⟩

def KeyFrame.readNonce (frame : KeyFrame) : Octets 32 :=
  ⟨frame.keyNonce.val.drop 4 ++ frame.keyIv.val.take 4, by
    simp [frame.keyNonce.property, frame.keyIv.property]⟩

def KeyFrame.readIv (frame : KeyFrame) : Octets 16 :=
  ⟨frame.keyIv.val.drop 4 ++ frame.keyRsc.val.take 4, by
    simp [frame.keyIv.property, frame.keyRsc.property]⟩

-- The first two bytes of the key data stand where the parser reads its length.
def KeyFrame.readKeyData (frame : KeyFrame) : Bytes :=
  let length := (u16FromBe (frame.keyData.getD 0 0) (frame.keyData.getD 1 0)).toNat
  if length + 2 ≤ frame.keyData.length then (frame.keyData.drop 2).take length else []

theorem key_fixed_length (frame : KeyFrame) : frame.fixedPart.length = 95 := by
  simp only [KeyFrame.fixedPart, List.length_append, frame.keyNonce.property, frame.keyIv.property, frame.keyRsc.property,
    frame.reserved.property, frame.mic.property, u64_to_be_length, u16ToBe, List.length_cons, List.length_nil]

theorem key_body_length (frame : KeyFrame) : frame.body.length = 95 + frame.keyData.length := by
  rw [KeyFrame.body, List.length_append, key_fixed_length]

theorem slice_straddling (before first second after : Bytes) {start stop k : Nat} (startEq : before.length + k = start)
    (stopEq : start + first.length = stop) (inFirst : k ≤ first.length) (inSecond : k ≤ second.length) :
    slice (before ++ (first ++ (second ++ after))) start stop = .ok (first.drop k ++ second.take k) := by
  have shape : before ++ (first ++ (second ++ after)) =
      (before ++ first.take k) ++ ((first.drop k ++ second.take k) ++ (second.drop k ++ after)) := by
    simp only [List.append_assoc]
    rw [← List.append_assoc (second.take k), List.take_append_drop, ← List.append_assoc (first.take k),
      List.take_append_drop]
  rw [shape]
  apply slice_middle
  · rw [List.length_append, List.length_take, Nat.min_eq_left inFirst, startEq]
  · rw [List.length_append, List.length_append, List.length_drop, List.length_take, List.length_take,
      Nat.min_eq_left inFirst, Nat.min_eq_left inSecond]
    omega

theorem key_replay_read (frame : KeyFrame) : slice frame.body 9 17 = .ok frame.readReplay.val := by
  have shape : frame.body = ([frame.keyDescType] ++ u16ToBe frame.keyInfo ++ u16ToBe frame.keyLength) ++
      (u64ToBe frame.replayCounter ++ (frame.keyNonce.val ++ (frame.keyIv.val ++ frame.keyRsc.val ++
        frame.reserved.val ++ frame.mic.val ++ u16ToBe (UInt16.ofNat frame.keyData.length) ++ frame.keyData))) := by
    simp only [KeyFrame.body, KeyFrame.fixedPart, List.append_assoc]
  rw [shape]
  exact slice_straddling _ _ _ _ rfl rfl (by rw [u64_to_be_length]; decide)
    (by rw [frame.keyNonce.property]; decide)

theorem key_nonce_read (frame : KeyFrame) : slice frame.body 17 49 = .ok frame.readNonce.val := by
  have nonce := frame.keyNonce.property
  have iv := frame.keyIv.property
  have shape : frame.body = ([frame.keyDescType] ++ u16ToBe frame.keyInfo ++ u16ToBe frame.keyLength ++
      u64ToBe frame.replayCounter) ++ (frame.keyNonce.val ++ (frame.keyIv.val ++ (frame.keyRsc.val ++
        frame.reserved.val ++ frame.mic.val ++ u16ToBe (UInt16.ofNat frame.keyData.length) ++ frame.keyData))) := by
    simp only [KeyFrame.body, KeyFrame.fixedPart, List.append_assoc]
  rw [shape]
  exact slice_straddling _ _ _ _ rfl (by rw [nonce]) (by omega) (by omega)

theorem key_iv_read (frame : KeyFrame) : slice frame.body 49 65 = .ok frame.readIv.val := by
  have nonce := frame.keyNonce.property
  have iv := frame.keyIv.property
  have rsc := frame.keyRsc.property
  have shape : frame.body = ([frame.keyDescType] ++ u16ToBe frame.keyInfo ++ u16ToBe frame.keyLength ++
      u64ToBe frame.replayCounter ++ frame.keyNonce.val) ++ (frame.keyIv.val ++ (frame.keyRsc.val ++
        (frame.reserved.val ++ frame.mic.val ++ u16ToBe (UInt16.ofNat frame.keyData.length) ++ frame.keyData))) := by
    simp only [KeyFrame.body, KeyFrame.fixedPart, List.append_assoc]
  rw [shape]
  exact slice_straddling _ _ _ _ (by rw [List.length_append, nonce]; rfl) (by rw [iv]) (by omega) (by omega)

theorem key_mic_read (frame : KeyFrame) : slice frame.body 77 93 = .ok frame.mic.val := by
  have lengths : ([frame.keyDescType] ++ u16ToBe frame.keyInfo ++ u16ToBe frame.keyLength ++
      u64ToBe frame.replayCounter ++ frame.keyNonce.val ++ frame.keyIv.val ++ frame.keyRsc.val ++
      frame.reserved.val).length = 77 := by
    simp only [List.length_append, frame.keyNonce.property, frame.keyIv.property, frame.keyRsc.property,
      frame.reserved.property, u64_to_be_length, u16ToBe, List.length_cons, List.length_nil]
  have shape : frame.body = ([frame.keyDescType] ++ u16ToBe frame.keyInfo ++ u16ToBe frame.keyLength ++
      u64ToBe frame.replayCounter ++ frame.keyNonce.val ++ frame.keyIv.val ++ frame.keyRsc.val ++
      frame.reserved.val) ++ (frame.mic.val ++ (u16ToBe (UInt16.ofNat frame.keyData.length) ++ frame.keyData)) := by
    simp only [KeyFrame.body, KeyFrame.fixedPart, List.append_assoc]
  rw [shape]
  exact slice_middle _ _ _ lengths (by rw [lengths, frame.mic.property])

theorem key_data_read (frame : KeyFrame) (present : 2 ≤ frame.keyData.length) :
    eapolKeyData frame.body = .ok frame.readKeyData := by
  have sized := frame.sized
  have bound := (u16FromBe (frame.keyData.getD 0 0) (frame.keyData.getD 1 0)).toNat_lt
  have total := key_body_length frame
  have room : 97 + (u16FromBe (frame.keyData.getD 0 0) (frame.keyData.getD 1 0)).toNat ≤ usizeMax := usize_small (by omega)
  have before := key_fixed_length frame
  have first : index frame.body 95 = .ok (frame.keyData.getD 0 0) := by
    rw [← index_getD (by omega)]
    exact index_append _ _ before 0
  have second : index frame.body 96 = .ok (frame.keyData.getD 1 0) := by
    rw [← index_getD (by omega)]
    exact index_append _ _ before 1
  have tail : frame.body.drop (95 + 2) = frame.keyData.drop 2 := by
    rw [← List.drop_drop, KeyFrame.body, List.drop_left' before]
  rw [eapolKeyData, first, ok_bind, second, ok_bind]
  dsimp only
  rw [add_ok room, ok_bind, total, KeyFrame.readKeyData]
  generalize (u16FromBe (frame.keyData.getD 0 0) (frame.keyData.getD 1 0)).toNat = length
  by_cases inside : length + 2 ≤ frame.keyData.length
  · rw [if_pos (by omega), if_pos inside, slice_ok (by omega) (by omega), List.drop_take, tail,
      Nat.add_sub_cancel_left]
  · rw [if_neg (by omega), if_neg inside]
    rfl

theorem body_slice_field (body : Bytes) (n start stop : Nat) (field : Octets n) (long : stop ≤ body.length)
    (read : slice body start stop = .ok field.val) : eapolField body n start stop = .ok field := by
  rw [eapolField, if_pos long, read, ok_bind, Octets.copy_ok field.property]

def KeyFrame.decoded (frame : KeyFrame) : EapolInfo where
  version := frame.version
  packetType := 3
  keyDescType := frame.keyDescType
  keyInfo := frame.keyInfo
  descriptorVersion := (frame.keyInfo &&& 0x0007).toUInt8
  install := frame.keyInfo &&& ((1 : UInt16) <<< 6) != 0
  keyAck := frame.keyInfo &&& ((1 : UInt16) <<< 7) != 0
  keyMic := frame.keyInfo &&& ((1 : UInt16) <<< 8) != 0
  secure := frame.keyInfo &&& ((1 : UInt16) <<< 9) != 0
  error := frame.keyInfo &&& ((1 : UInt16) <<< 10) != 0
  request := frame.keyInfo &&& ((1 : UInt16) <<< 11) != 0
  encryptedKeyData := frame.keyInfo &&& ((1 : UInt16) <<< 12) != 0
  replayCounter := u64FromBe frame.readReplay
  keyNonce := frame.readNonce
  keyIv := frame.readIv
  mic := frame.mic
  rawKeyData := frame.readKeyData

theorem key_frame_decodes (frame : KeyFrame) (trailing : Bytes) (pkt : ParsedPacket) :
    parseEapol (frame.encode ++ trailing) pkt =
      .ok (if 2 ≤ frame.keyData.length then { pkt with app := .eapol frame.decoded } else pkt) := by
  have sized := frame.sized
  have total := key_body_length frame
  have length : (u16FromBe (UInt8.ofNat ((UInt16.ofNat (95 + frame.keyData.length)).toNat / 256))
      (UInt8.ofNat (UInt16.ofNat (95 + frame.keyData.length)).toNat)).toNat = 95 + frame.keyData.length := by
    rw [u16_round_trip, UInt16.toNat_ofNat']
    omega
  have all : (frame.encode ++ trailing).length = 4 + (95 + frame.keyData.length) + trailing.length := by
    rw [KeyFrame.encode, List.length_append, List.length_append, total]
    rfl
  have sliced : slice (frame.encode ++ trailing) 4 (4 + (95 + frame.keyData.length)) = .ok frame.body := by
    rw [KeyFrame.encode, List.append_assoc]
    exact slice_middle frame.header frame.body trailing rfl (by rw [total]; rfl)
  have version : index (frame.encode ++ trailing) 0 = .ok frame.version := rfl
  have packetType : index (frame.encode ++ trailing) 1 = .ok 3 := rfl
  have high : index (frame.encode ++ trailing) 2 =
      .ok (UInt8.ofNat ((UInt16.ofNat (95 + frame.keyData.length)).toNat / 256)) := rfl
  have low : index (frame.encode ++ trailing) 3 =
      .ok (UInt8.ofNat (UInt16.ofNat (95 + frame.keyData.length)).toNat) := rfl
  have room : 4 + (95 + frame.keyData.length) ≤ usizeMax := usize_small (by omega)
  rw [parseEapol, if_neg (by omega)]
  simp only [version, packetType, high, low, length, add_ok room, all, sliced, ok_bind]
  rw [if_neg (by omega), total]
  by_cases present : 2 ≤ frame.keyData.length
  · have descType : index frame.body 0 = .ok frame.keyDescType := rfl
    have infoHigh : index frame.body 1 = .ok (UInt8.ofNat (frame.keyInfo.toNat / 256)) := rfl
    have infoLow : index frame.body 2 = .ok (UInt8.ofNat frame.keyInfo.toNat) := rfl
    rw [if_pos ⟨trivial, by omega⟩, if_pos present]
    simp only [descType, infoHigh, infoLow, u16_round_trip, key_replay_read, Octets.copy_ok frame.readReplay.property,
      body_slice_field frame.body 32 17 49 frame.readNonce (by omega) (key_nonce_read frame),
      body_slice_field frame.body 16 49 65 frame.readIv (by omega) (key_iv_read frame),
      body_slice_field frame.body 16 77 93 frame.mic (by omega) (key_mic_read frame),
      key_data_read frame present, ok_bind]
    rfl
  · rw [if_neg (by omega), if_neg present]
    rfl

theorem key_data_shortened (frame : KeyFrame) (present : 2 ≤ frame.keyData.length) :
    frame.readKeyData.length + 2 ≤ frame.keyData.length := by
  unfold KeyFrame.readKeyData
  dsimp only
  split
  · rw [List.length_take, List.length_drop]
    omega
  · exact present

theorem key_info_bit (info bit : UInt16) (small : bit.toNat < 16) :
    (info &&& ((1 : UInt16) <<< bit) != 0) = info.toNat.testBit bit.toNat := by
  have power : ((1 : UInt16) <<< bit).toNat = 2 ^ bit.toNat := by
    have bound : 2 ^ bit.toNat < 2 ^ 16 := Nat.pow_lt_pow_right (by omega) small
    rw [UInt16.toNat_shiftLeft, Nat.mod_eq_of_lt small, Nat.shiftLeft_eq, UInt16.toNat_one, Nat.one_mul,
      Nat.mod_eq_of_lt bound]
  have masked : (info &&& ((1 : UInt16) <<< bit)).toNat = (info.toNat.testBit bit.toNat).toNat * 2 ^ bit.toNat := by
    rw [UInt16.toNat_and, power, Nat.and_comm, Nat.two_pow_and, Nat.mul_comm]
  have positive : 0 < 2 ^ bit.toNat := Nat.two_pow_pos _
  rw [Bool.eq_iff_iff, bne_iff_ne, ne_eq, ← UInt16.toNat_inj, masked]
  cases info.toNat.testBit bit.toNat
  · simp
  · simp

theorem key_info_and_mic_decoded (frame : KeyFrame) :
    frame.decoded.keyInfo = frame.keyInfo ∧
    frame.decoded.descriptorVersion.toNat = frame.keyInfo.toNat % 8 ∧
    frame.decoded.install = frame.keyInfo.toNat.testBit 6 ∧
    frame.decoded.keyAck = frame.keyInfo.toNat.testBit 7 ∧
    frame.decoded.keyMic = frame.keyInfo.toNat.testBit 8 ∧
    frame.decoded.secure = frame.keyInfo.toNat.testBit 9 ∧
    frame.decoded.error = frame.keyInfo.toNat.testBit 10 ∧
    frame.decoded.request = frame.keyInfo.toNat.testBit 11 ∧
    frame.decoded.encryptedKeyData = frame.keyInfo.toNat.testBit 12 ∧
    frame.decoded.mic = frame.mic := by
  have bit := fun bit small => key_info_bit frame.keyInfo bit small
  refine ⟨rfl, ?_, bit 6 (by decide), bit 7 (by decide), bit 8 (by decide), bit 9 (by decide), bit 10 (by decide),
    bit 11 (by decide), bit 12 (by decide), rfl⟩
  have low : (7 : UInt16).toNat = 2 ^ 3 - 1 := rfl
  rw [KeyFrame.decoded, UInt16.toNat_toUInt8, UInt16.toNat_and, low, Nat.and_two_pow_sub_one_eq_mod]
  omega

def KeyFrame.onWire (frame : KeyFrame) (dstMac srcMac : Mac) (trailing : Bytes) : Bytes :=
  ethernetII dstMac srcMac 0x888E (frame.encode ++ trailing)

def DecodesKeyFrame (frame : KeyFrame) (dstMac srcMac : Mac) (trailing : Bytes) : Prop :=
  ∃ pkt info, parsePacket (frame.onWire dstMac srcMac trailing) .ethernet none = .ok pkt ∧
    pkt.app = .eapol info ∧ frame.DecodesTo info

theorem key_frame_on_wire (frame : KeyFrame) (dstMac srcMac : Mac) (trailing : Bytes) (pkt : ParsedPacket)
    (parsed : parsePacket (frame.onWire dstMac srcMac trailing) .ethernet none = .ok pkt) :
    pkt.app = if 2 ≤ frame.keyData.length then .eapol frame.decoded else .none := by
  have onWire := ethernet_ii_packet_decodes dstMac srcMac 0x888E (frame.encode ++ trailing) none
    (by unfold IsVlanTpid; decide)
  have payload : parseEthernetPayload 0x888E (frame.encode ++ trailing) (ParsedPacket.new .ethernet none) = _ :=
    key_frame_decodes frame trailing (ParsedPacket.new .ethernet none)
  have same := (related_result onWire parsed payload).2.2
  by_cases present : 2 ≤ frame.keyData.length
  · rw [if_pos present] at same ⊢
    exact same
  · rw [if_neg present] at same ⊢
    exact same

-- Without key data nothing is decoded, and with key data it is cut.
theorem key_frames_never_decoded (frame : KeyFrame) (dstMac srcMac : Mac) (trailing : Bytes) :
    ¬ DecodesKeyFrame frame dstMac srcMac trailing := by
  rintro ⟨pkt, info, parsed, app, decodes⟩
  have decoded := key_frame_on_wire frame dstMac srcMac trailing pkt parsed
  rw [app] at decoded
  by_cases present : 2 ≤ frame.keyData.length
  · rw [if_pos present] at decoded
    cases decoded
    have shortened := key_data_shortened frame present
    have whole : frame.readKeyData = frame.keyData := decodes.rawKeyData
    rw [whole] at shortened
    omega
  · rw [if_neg present] at decoded
    cases decoded

def firstMessage : KeyFrame where
  version := 2
  keyDescType := 2
  keyInfo := 0x008A
  keyLength := 16
  replayCounter := 1
  keyNonce := Octets.fill 32 0x11
  keyIv := Octets.fill 16 0
  keyRsc := Octets.fill 8 0
  reserved := Octets.fill 8 0
  mic := Octets.fill 16 0
  keyData := [0xDD, 0x14, 0x00, 0x0F, 0xAC, 0x04] ++ List.replicate 16 0x22
  sized := by decide

theorem first_message_misread : ¬ DecodesKeyFrame firstMessage (Octets.fill 6 1) (Octets.fill 6 2) [] := by
  rintro ⟨pkt, info, parsed, app, decodes⟩
  have decoded := key_frame_on_wire firstMessage _ _ _ pkt parsed
  rw [app, if_pos (by decide)] at decoded
  cases decoded
  have counter : firstMessage.decoded.replayCounter = 1 := decodes.replayCounter
  exact absurd counter (by decide +kernel)

end NetworkIds.Parser
