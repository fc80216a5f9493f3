import NetworkIds.Parser.Types

set_option autoImplicit false

namespace NetworkIds.Parser

open Checked Endian

-- let mut field = [0u8; n]; if body.len() >= stop { field.copy_from_slice(&body[start..stop]) }
def eapolField (body : Bytes) (n start stop : Nat) : Checked (Octets n) := do
  if body.length ≥ stop then Octets.copyFromSlice n (← slice body start stop)
  else return Octets.fill n 0

def eapolKeyData (body : Bytes) : Checked Bytes := do
  let keyDataLen := (u16FromBe (← index body 95) (← index body 96)).toNat
  let keyDataEnd ← add 97 keyDataLen
  if keyDataEnd ≤ body.length then slice body 97 keyDataEnd else return []

def parseEapol (data : Bytes) (pkt : ParsedPacket) : Checked ParsedPacket := do
  if data.length < 4 then return pkt.markMalformed
  else
    let version ← index data 0
    let packetType ← index data 1
    let len := (u16FromBe (← index data 2) (← index data 3)).toNat
    if (← add 4 len) > data.length then return pkt.markMalformed
    else
      let body ← slice data 4 (← add 4 len)
      -- Packet type 3 is EAPOL-Key; 97 bytes reach up to the key data length.
      if packetType = 3 ∧ body.length ≥ 97 then
        let keyDescType ← index body 0
        let keyInfo := u16FromBe (← index body 1) (← index body 2)
        let replayCounter := u64FromBe (← Octets.copyFromSlice 8 (← slice body 9 17))
        let keyNonce ← eapolField body 32 17 49
        let keyIv ← eapolField body 16 49 65
        let mic ← eapolField body 16 77 93
        let rawKeyData ← eapolKeyData body
        return { pkt with app := .eapol {
          version := version
          packetType := packetType
          keyDescType := keyDescType
          keyInfo := keyInfo
          descriptorVersion := (keyInfo &&& 0x0007).toUInt8
          install := keyInfo &&& ((1 : UInt16) <<< 6) != 0
          keyAck := keyInfo &&& ((1 : UInt16) <<< 7) != 0
          keyMic := keyInfo &&& ((1 : UInt16) <<< 8) != 0
          secure := keyInfo &&& ((1 : UInt16) <<< 9) != 0
          error := keyInfo &&& ((1 : UInt16) <<< 10) != 0
          request := keyInfo &&& ((1 : UInt16) <<< 11) != 0
          encryptedKeyData := keyInfo &&& ((1 : UInt16) <<< 12) != 0
          replayCounter := replayCounter
          keyNonce := keyNonce
          keyIv := keyIv
          mic := mic
          rawKeyData := rawKeyData } }
      else return pkt

-- parse_eapol leaves the packet, marks it, or fills in the application layer.
def EapolResult (pkt result : ParsedPacket) : Prop :=
  result = pkt ∨ result = pkt.markMalformed ∨ ∃ info, result = { pkt with app := .eapol info }

theorem eapol_field_ok (body : Bytes) (n start stop : Nat) (long : stop ≤ body.length)
    (ordered : start ≤ stop) (size : stop - start = n) :
    eapolField body n start stop =
      .ok ⟨(body.take stop).drop start, (slice_length _ _ _ long).trans size⟩ := by
  rw [eapolField, if_pos long, slice_ok ordered long, ok_bind, Octets.copy_ok]

theorem eapol_key_data_safe (body : Bytes) (long : 97 ≤ body.length) :
    Safe (eapolKeyData body) (fun _ => True) := by
  have lenBound := (u16FromBe (body.getD 95 0) (body.getD 96 0)).toNat_lt
  have room : 97 + (u16FromBe (body.getD 95 0) (body.getD 96 0)).toNat ≤ usizeMax := usize_small (by omega)
  rw [eapolKeyData]
  simp (disch := omega) only [index_getD, add_ok, ok_bind]
  split
  · rw [slice_ok (by omega) (by omega)]
    exact safe_ok trivial
  · exact safe_ok trivial

theorem eapol_safe (data : Bytes) (pkt : ParsedPacket) :
    Safe (parseEapol data pkt) (EapolResult pkt) := by
  rw [parseEapol]
  split
  · exact safe_ok (.inr (.inl rfl))
  · have lenBound := (u16FromBe (data.getD 2 0) (data.getD 3 0)).toNat_lt
    have room : 4 + (u16FromBe (data.getD 2 0) (data.getD 3 0)).toNat ≤ usizeMax := usize_small (by omega)
    simp (disch := omega) only [index_getD, add_ok, ok_bind]
    split
    · exact safe_ok (.inr (.inl rfl))
    · simp (disch := omega) only [slice_ok, ok_bind]
      generalize (data.take (4 + (u16FromBe (data.getD 2 0) (data.getD 3 0)).toNat)).drop 4 = body
      split
      · rename_i key
        obtain ⟨-, long⟩ := key
        have counter : ((body.take 17).drop 9).length = 8 := slice_length _ _ _ (by omega)
        simp (disch := omega) only [index_getD, Octets.copy_ok counter, eapol_field_ok, ok_bind]
        refine safe_bind (eapol_key_data_safe body long) ?_
        intro keyData _
        exact safe_ok (.inr (.inr ⟨_, rfl⟩))
      · exact safe_ok (.inl rfl)

end NetworkIds.Parser
