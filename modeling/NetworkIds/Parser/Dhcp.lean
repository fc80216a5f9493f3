import NetworkIds.Lib.Utf8
import NetworkIds.Parser.Types

set_option autoImplicit false

namespace NetworkIds.Parser

open Checked Endian Utf8

-- The option fields of DhcpInfo while the option walk fills them in.
structure DhcpOptions where
  messageType : Option UInt8
  serverIp : Option Ipv4Addr
  hostname : Option String
  leaseTime : Option UInt32
  renewalTime : Option UInt32
  vendorClass : Option String
  parameterRequestList : Bytes

def DhcpOptions.empty : DhcpOptions := ⟨none, none, none, none, none, none, []⟩

-- The match on opt_type.
def applyDhcpOption (optType : UInt8) (optData : Bytes) (opts : DhcpOptions) : Checked DhcpOptions := do
  match optType with
  | 12 => return { opts with hostname := some (fromUtf8Lossy optData) }
  | 51 =>
      if optData.length ≥ 4 then
        return { opts with leaseTime := some (u32FromBe (← index optData 0) (← index optData 1)
          (← index optData 2) (← index optData 3)) }
      else return opts
  | 53 =>
      if optData.length ≥ 1 then return { opts with messageType := some (← index optData 0) }
      else return opts
  | 54 =>
      if optData.length ≥ 4 then
        return { opts with serverIp := some ⟨← index optData 0, ← index optData 1,
          ← index optData 2, ← index optData 3⟩ }
      else return opts
  | 55 => return { opts with parameterRequestList := optData }
  | 58 =>
      if optData.length ≥ 4 then
        return { opts with renewalTime := some (u32FromBe (← index optData 0) (← index optData 1)
          (← index optData 2) (← index optData 3)) }
      else return opts
  | 60 => return { opts with vendorClass := some (fromUtf8Lossy optData) }
  | _ => return opts

def dhcpOptionLoop (payload : Bytes) (fuel offset : Nat) (opts : DhcpOptions) : Checked DhcpOptions :=
  match fuel with
  | 0 => throw .outOfFuel
  | fuel + 1 => do
      if (← add offset 1) ≤ payload.length then
        let optType ← index payload offset
        if optType = 255 then return opts
        else if optType = 0 then dhcpOptionLoop payload fuel (← add offset 1) opts
        else if (← add offset 2) > payload.length then return opts
        else
          let optLen := (← indexAdd payload offset 1).toNat
          let optEnd ← add (← add offset 2) optLen
          if optEnd > payload.length then return opts
          else
            let optData ← slice payload (← add offset 2) optEnd
            let opts ← applyDhcpOption optType optData opts
            dhcpOptionLoop payload fuel (← add offset (← add 2 optLen)) opts
      else return opts

def parseDhcp (payload : Bytes) : Checked (Option DhcpInfo) := do
  if payload.length < 240 then return none
  else
    let magic ← slice payload 236 240
    if magic ≠ [0x63, 0x82, 0x53, 0x63] then return none
    else
      let transactionId := u32FromBe (← index payload 4) (← index payload 5) (← index payload 6)
        (← index payload 7)
      let clientIp : Ipv4Addr := ⟨← index payload 12, ← index payload 13, ← index payload 14,
        ← index payload 15⟩
      let yourIp : Ipv4Addr := ⟨← index payload 16, ← index payload 17, ← index payload 18,
        ← index payload 19⟩
      let relayIp : Ipv4Addr := ⟨← index payload 24, ← index payload 25, ← index payload 26,
        ← index payload 27⟩
      let clientMac ← copyMac (← slice payload 28 34)
      let opts ← dhcpOptionLoop payload payload.length 240 DhcpOptions.empty
      return some {
        transactionId := transactionId
        clientIp := clientIp
        yourIp := yourIp
        relayIp := relayIp
        clientMac := clientMac
        messageType := opts.messageType
        serverIp := opts.serverIp
        hostname := opts.hostname
        leaseTime := opts.leaseTime
        renewalTime := opts.renewalTime
        vendorClass := opts.vendorClass
        parameterRequestList := opts.parameterRequestList }

theorem apply_dhcp_option_safe (optType : UInt8) (optData : Bytes) (opts : DhcpOptions) :
    Safe (applyDhcpOption optType optData opts) (fun _ => True) := by
  unfold applyDhcpOption
  split
  all_goals
    first
    | exact safe_ok trivial
    | split
      · simp (disch := omega) only [index_getD, ok_bind]
        exact safe_ok trivial
      · exact safe_ok trivial

theorem dhcp_option_loop_safe (payload : Bytes) (fits : payload.length ≤ isizeMax) (fuel offset : Nat)
    (opts : DhcpOptions) (inside : offset ≤ payload.length) (enough : payload.length < offset + fuel) :
    Safe (dhcpOptionLoop payload fuel offset opts) (fun _ => True) := by
  have room := usize_room fits 300 (by omega)
  induction fuel generalizing offset opts with
  | zero => omega
  | succ fuel ih =>
      rw [dhcpOptionLoop]
      simp (disch := omega) only [add_ok, ok_bind]
      by_cases present : offset + 1 ≤ payload.length
      · have lenBound := (payload.getD (offset + 1) 0).toNat_lt
        simp (disch := omega) only [if_pos present, index_getD, ok_bind]
        split
        · exact safe_ok trivial
        · split
          · exact ih _ _ (by omega) (by omega)
          · split
            · exact safe_ok trivial
            · simp (disch := omega) only [index_add_getD, add_ok, ok_bind]
              split
              · exact safe_ok trivial
              · simp (disch := omega) only [slice_ok, ok_bind]
                refine safe_bind (apply_dhcp_option_safe _ _ _) ?_
                intro next _
                exact ih _ _ (by omega) (by omega)
      · rw [if_neg present]
        exact safe_ok trivial

theorem dhcp_safe (payload : Bytes) (fits : payload.length ≤ isizeMax) :
    Safe (parseDhcp payload) (fun _ => True) := by
  rw [parseDhcp]
  split
  · exact safe_ok trivial
  · simp (disch := omega) only [slice_ok, ok_bind]
    split
    · exact safe_ok trivial
    · have macLength : 6 ≤ ((payload.take 34).drop 28).length := slice_long (by omega) (by omega)
      simp (disch := omega) only [index_getD, copy_mac_ok, ok_bind]
      refine safe_bind (dhcp_option_loop_safe payload fits _ 240 _ (by omega) (by omega)) ?_
      intro opts _
      exact safe_ok trivial

end NetworkIds.Parser
