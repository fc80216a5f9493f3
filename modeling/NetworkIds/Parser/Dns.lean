import NetworkIds.Lib.Utf8
import NetworkIds.Parser.Types

set_option autoImplicit false

namespace NetworkIds.Parser

open Checked Endian Utf8

-- The body of the while loop of parse_dns_name. The first argument is
-- 128 - visited: at zero the loop condition fails and the name read so far is
-- returned, as it is at the end of the payload.
def dnsNameLoop (payload : Bytes) (remaining : Nat) (domain : String) (offset : Nat) (jumped : Bool)
    (endOffset : Nat) : Checked (Option (String × Nat)) :=
  match remaining with
  | 0 => return some (domain, endOffset)
  | remaining + 1 =>
      if offset < payload.length then do
        let labelLen := (← index payload offset).toNat
        if labelLen = 0 then
          if jumped then return some (domain, endOffset)
          else return some (domain, ← add offset 1)
        else if labelLen &&& 0xC0 = 0xC0 then
          let pointerEnd ← add offset 2
          if pointerEnd > payload.length then return none
          else
            let endOffset := if jumped then endOffset else pointerEnd
            let ptr := (labelLen &&& 0x3F) <<< 8 ||| (← indexAdd payload offset 1).toNat
            if ptr ≥ payload.length ∨ ptr ≥ offset then return none
            else dnsNameLoop payload remaining domain ptr true endOffset
        else
          let labelEnd ← add (← add offset 1) labelLen
          if labelEnd > payload.length then return none
          else
            let domain := if domain.isEmpty then domain else domain.push '.'
            let label ← slice payload (← add offset 1) labelEnd
            let next ← add offset (← add 1 labelLen)
            dnsNameLoop payload remaining (domain ++ fromUtf8Lossy label) next jumped
              (if jumped then endOffset else next)
      else return some (domain, endOffset)

def parseDnsName (payload : Bytes) (start : Nat) : Checked (Option (String × Nat)) :=
  dnsNameLoop payload 128 "" start false start

structure DnsQuestions where
  offset : Nat
  query : Option String
  queryType : Option UInt16
  queryClass : Option UInt16

-- The question section: only the first question is kept.
def parseDnsQuestions (payload : Bytes) (count : Nat) (state : DnsQuestions) : Checked DnsQuestions :=
  match count with
  | 0 => return state
  | count + 1 => do
      match ← parseDnsName payload state.offset with
      | none => return state
      | some (name, newOff) =>
          if (← add newOff 4) ≤ payload.length then
            let qtype := u16FromBe (← index payload newOff) (← indexAdd payload newOff 1)
            let qclass := u16FromBe (← indexAdd payload newOff 2) (← indexAdd payload newOff 3)
            let next ← add newOff 4
            parseDnsQuestions payload count
              (if state.query.isNone then ⟨next, some name, some qtype, some qclass⟩
                else { state with offset := next })
          else return state

def parseDnsAnswers (payload : Bytes) (count offset : Nat) (answers : List DnsRecord) :
    Checked (List DnsRecord) :=
  match count with
  | 0 => return answers
  | count + 1 => do
      match ← parseDnsName payload offset with
      | none => return answers
      | some (name, newOff) =>
          if (← add newOff 10) ≤ payload.length then
            let rtype := u16FromBe (← index payload newOff) (← indexAdd payload newOff 1)
            let class_ := u16FromBe (← indexAdd payload newOff 2) (← indexAdd payload newOff 3)
            let ttl := u32FromBe (← indexAdd payload newOff 4) (← indexAdd payload newOff 5)
              (← indexAdd payload newOff 6) (← indexAdd payload newOff 7)
            let rdlen := (u16FromBe (← indexAdd payload newOff 8) (← indexAdd payload newOff 9)).toNat
            let rdataStart ← add newOff 10
            let rdataEnd ← add rdataStart rdlen
            if rdataEnd ≤ payload.length then
              let rdata ← slice payload rdataStart rdataEnd
              parseDnsAnswers payload count rdataEnd (answers ++ [⟨name, rtype, class_, ttl, rdata⟩])
            else return answers
          else return answers

def parseDns (payload : Bytes) : Checked (Option DnsInfo) := do
  if payload.length < 12 then return none
  else
    let transactionId := u16FromBe (← index payload 0) (← index payload 1)
    let flagsWord := u16FromBe (← index payload 2) (← index payload 3)
    let questionCount := u16FromBe (← index payload 4) (← index payload 5)
    let answerCount := u16FromBe (← index payload 6) (← index payload 7)
    let authorityCount := u16FromBe (← index payload 8) (← index payload 9)
    let additionalCount := u16FromBe (← index payload 10) (← index payload 11)
    let questions ← parseDnsQuestions payload questionCount.toNat ⟨12, none, none, none⟩
    let answers ← parseDnsAnswers payload answerCount.toNat questions.offset []
    return some {
      transactionId := transactionId
      isResponse := flagsWord &&& 0x8000 != 0
      opcode := ((flagsWord >>> 11) &&& 0x0F).toUInt8
      aa := flagsWord &&& 0x0400 != 0
      tc := flagsWord &&& 0x0200 != 0
      rd := flagsWord &&& 0x0100 != 0
      ra := flagsWord &&& 0x0080 != 0
      rcode := (flagsWord &&& 0x000F).toUInt8
      questionCount := questionCount
      answerCount := answerCount
      authorityCount := authorityCount
      additionalCount := additionalCount
      query := questions.query
      queryType := questions.queryType
      queryClass := questions.queryClass
      answers := answers }

theorem dns_name_loop_safe (payload : Bytes) (fits : payload.length ≤ isizeMax) (remaining : Nat)
    (domain : String) (offset : Nat) (jumped : Bool) (endOffset : Nat)
    (inside : offset ≤ payload.length) (stopInside : endOffset ≤ payload.length) :
    Safe (dnsNameLoop payload remaining domain offset jumped endOffset)
      (fun result => ∀ name stop, result = some (name, stop) → stop ≤ payload.length) := by
  have room := usize_room fits 256 (by omega)
  induction remaining generalizing domain offset jumped endOffset with
  | zero => exact safe_ok (by rintro name stop ⟨⟩; exact stopInside)
  | succ remaining ih =>
      rw [dnsNameLoop]
      by_cases present : offset < payload.length
      · have labelBound := (payload.getD offset 0).toNat_lt
        simp (disch := omega) only [if_pos present, index_getD, ok_bind, add_ok]
        split
        · cases jumped
          · exact safe_ok (by rintro name stop ⟨⟩; omega)
          · exact safe_ok (by rintro name stop ⟨⟩; exact stopInside)
        · split
          · by_cases cut : offset + 2 > payload.length
            · rw [if_pos cut]
              exact safe_ok (by simp)
            · simp (disch := omega) only [if_neg cut, ok_bind, index_add_getD]
              split
              · exact safe_ok (by simp)
              · exact ih _ _ _ _ (by omega) (by split <;> omega)
          · split
            · exact safe_ok (by simp)
            · simp (disch := omega) only [slice_ok, ok_bind]
              exact ih _ _ _ _ (by omega) (by split <;> omega)
      · simp only [if_neg present]
        exact safe_ok (by rintro name stop ⟨⟩; exact stopInside)

theorem dns_name_safe (payload : Bytes) (fits : payload.length ≤ isizeMax) (start : Nat)
    (inside : start ≤ payload.length) :
    Safe (parseDnsName payload start)
      (fun result => ∀ name stop, result = some (name, stop) → stop ≤ payload.length) :=
  dns_name_loop_safe payload fits 128 "" start false start inside inside

theorem dns_questions_safe (payload : Bytes) (fits : payload.length ≤ isizeMax) (count : Nat)
    (state : DnsQuestions) (inside : state.offset ≤ payload.length) :
    Safe (parseDnsQuestions payload count state) (fun result => result.offset ≤ payload.length) := by
  have room := usize_room fits 256 (by omega)
  induction count generalizing state with
  | zero => exact safe_ok inside
  | succ count ih =>
      rw [parseDnsQuestions]
      refine safe_bind (dns_name_safe payload fits state.offset inside) ?_
      rintro (_ | ⟨name, newOff⟩) bounded
      · exact safe_ok inside
      · have stop := bounded name newOff rfl
        simp (disch := omega) only [add_ok, ok_bind]
        split
        · simp (disch := omega) only [index_getD, index_add_getD, ok_bind]
          apply ih
          split <;> simpa
        · exact safe_ok inside

theorem dns_answers_safe (payload : Bytes) (fits : payload.length ≤ isizeMax) (count offset : Nat)
    (answers : List DnsRecord) (inside : offset ≤ payload.length) :
    Safe (parseDnsAnswers payload count offset answers) (fun _ => True) := by
  have room := usize_room fits 65546 (by omega)
  induction count generalizing offset answers with
  | zero => exact safe_ok trivial
  | succ count ih =>
      rw [parseDnsAnswers]
      refine safe_bind (dns_name_safe payload fits offset inside) ?_
      rintro (_ | ⟨name, newOff⟩) bounded
      · exact safe_ok trivial
      · have stop := bounded name newOff rfl
        have rdlenBound := (u16FromBe (payload.getD (newOff + 8) 0) (payload.getD (newOff + 9) 0)).toNat_lt
        simp (disch := omega) only [add_ok, ok_bind]
        split
        · simp (disch := omega) only [index_getD, index_add_getD, add_ok, ok_bind]
          split
          · rename_i present
            simp (disch := omega) only [slice_ok, ok_bind]
            exact ih _ _ present
          · exact safe_ok trivial
        · exact safe_ok trivial

theorem dns_safe (payload : Bytes) (fits : payload.length ≤ isizeMax) :
    Safe (parseDns payload) (fun _ => True) := by
  rw [parseDns]
  split
  · exact safe_ok trivial
  · simp (disch := omega) only [index_getD, ok_bind]
    refine safe_bind (dns_questions_safe payload fits _ _ (by simp; omega)) ?_
    intro questions inside
    refine safe_bind (dns_answers_safe payload fits _ _ [] inside) ?_
    intro answers _
    exact safe_ok trivial

end NetworkIds.Parser
