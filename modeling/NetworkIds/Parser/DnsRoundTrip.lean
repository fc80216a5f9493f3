import NetworkIds.Parser.DnsFields
import NetworkIds.Parser.DnsNames

set_option autoImplicit false

namespace NetworkIds.Parser

open Checked Endian Utf8

structure DnsLabel where
  bytes : Bytes
  filled : 0 < bytes.length
  short : bytes.length ≤ 63
  ascii : ∀ byte ∈ bytes, byte.toNat < 128

def DnsLabel.encode (label : DnsLabel) : Bytes := UInt8.ofNat label.bytes.length :: label.bytes

def DnsLabel.text (label : DnsLabel) : String := String.ofList (label.bytes.map fun byte => Char.ofNat byte.toNat)

inductive NameEnd where
  | root
  | pointer (target : Fin (2 ^ 14))

def NameEnd.encode : NameEnd → Bytes
  | .root => [0]
  | .pointer target => u16ToBe (UInt16.ofNat (0xC000 + target.val))

structure WrittenName where
  labels : List DnsLabel
  ending : NameEnd

def labelBytes (labels : List DnsLabel) : Bytes := labels.flatMap DnsLabel.encode

def WrittenName.encode (name : WrittenName) : Bytes := labelBytes name.labels ++ name.ending.encode

def WrittenAt (message : Bytes) (offset : Nat) (bytes : Bytes) : Prop :=
  ∃ before after, message = before ++ (bytes ++ after) ∧ before.length = offset

-- The labels of the name that is written at an offset, and the number of labels
-- and pointers on the way to its end. A pointer leads to an earlier offset at
-- which a name is written.
inductive NamedAt (message : Bytes) : Nat → WrittenName → List DnsLabel → Nat → Prop where
  | root {offset : Nat} {labels : List DnsLabel}
      (written : WrittenAt message offset (WrittenName.encode ⟨labels, .root⟩)) :
      NamedAt message offset ⟨labels, .root⟩ labels labels.length
  | pointer {offset steps : Nat} {labels rest : List DnsLabel} {target : Fin (2 ^ 14)} {next : WrittenName}
      (written : WrittenAt message offset (WrittenName.encode ⟨labels, .pointer target⟩))
      (earlier : target.val < offset + (labelBytes labels).length) (there : NamedAt message target.val next rest steps) :
      NamedAt message offset ⟨labels, .pointer target⟩ (labels ++ rest) (labels.length + 1 + steps)

section Names

variable {message : Bytes}

theorem written_byte (before bytes after : Bytes) (i : Nat) (inside : i < bytes.length) :
    (before ++ (bytes ++ after)).getD (before.length + i) 0 = bytes.getD i 0 := by
  rw [List.getD_append_right _ _ _ _ (Nat.le_add_right _ _), Nat.add_sub_cancel_left, List.getD_append _ _ _ _ inside]

theorem written_inside {offset : Nat} {bytes : Bytes} (written : WrittenAt message offset bytes) :
    offset + bytes.length ≤ message.length := by
  obtain ⟨before, after, rfl, rfl⟩ := written
  rw [List.length_append, List.length_append]
  omega

theorem written_index {offset : Nat} {bytes : Bytes} (written : WrittenAt message offset bytes) (i : Nat)
    (inside : i < bytes.length) : index message (offset + i) = .ok (bytes.getD i 0) := by
  obtain ⟨before, after, rfl, length⟩ := written
  rw [index_append before _ length, index_append_left bytes after inside, index_getD inside]

theorem written_index_add (fits : message.length ≤ isizeMax) {offset : Nat} {bytes : Bytes}
    (written : WrittenAt message offset bytes) (step : Nat) (inside : step < bytes.length) :
    indexAdd message offset step = .ok (bytes.getD step 0) := by
  have stop := written_inside written
  have room := usize_room fits 0 (by omega)
  rw [indexAdd, add_ok (by omega), ok_bind, written_index written step inside]

theorem written_slice {offset : Nat} {bytes : Bytes} (written : WrittenAt message offset bytes) :
    slice message offset (offset + bytes.length) = .ok bytes := by
  obtain ⟨before, after, rfl, length⟩ := written
  exact slice_middle before bytes after length (by rw [length])

theorem label_item (label : DnsLabel) {offset : Nat} (written : WrittenAt message offset label.encode) :
    nameItem message offset = .label label.bytes := by
  obtain ⟨before, after, rfl, rfl⟩ := written
  have filled := label.filled
  have short := label.short
  have encoded : label.encode.length = label.bytes.length + 1 := rfl
  have total : (before ++ (label.encode ++ after)).length = before.length + (label.bytes.length + 1 + after.length) := by
    rw [List.length_append, List.length_append, encoded]
  have first : ((before ++ (label.encode ++ after)).getD before.length 0).toNat = label.bytes.length := by
    have byte := written_byte before label.encode after 0 (by omega)
    rw [Nat.add_zero] at byte
    rw [byte]
    exact (UInt8.toNat_ofNat' (n := label.bytes.length)).trans (Nat.mod_eq_of_lt (by omega))
  have noPointer : label.bytes.length &&& 0xC0 ≠ 0xC0 := by
    have small : label.bytes.length < 64 := by omega
    revert small
    generalize label.bytes.length = n
    revert n
    decide +kernel
  have text : ((before ++ (label.encode ++ after)).take (before.length + 1 + label.bytes.length)).drop (before.length + 1) =
      label.bytes := by
    have shape : before ++ (label.encode ++ after) =
        (before ++ [UInt8.ofNat label.bytes.length]) ++ (label.bytes ++ after) := by
      rw [List.append_assoc]
      rfl
    have startEq : (before ++ [UInt8.ofNat label.bytes.length]).length = before.length + 1 := List.length_append
    have stopEq : (before ++ [UInt8.ofNat label.bytes.length]).length + label.bytes.length =
        before.length + 1 + label.bytes.length := by rw [startEq]
    have read := slice_middle (before ++ [UInt8.ofNat label.bytes.length]) label.bytes after startEq stopEq
    rw [← shape, slice_ok (by omega) (by omega)] at read
    exact Except.ok.inj read
  rw [nameItem, first, if_neg (by omega), if_neg (by omega), if_neg noPointer, if_neg (by omega), text]

theorem root_item {offset : Nat} (written : WrittenAt message offset NameEnd.root.encode) :
    nameItem message offset = .root := by
  obtain ⟨before, after, rfl, rfl⟩ := written
  have total : (before ++ (NameEnd.root.encode ++ after)).length = before.length + (1 + after.length) := by
    rw [List.length_append, List.length_append]
    rfl
  have byte := written_byte before NameEnd.root.encode after 0 Nat.one_pos
  have first : (before ++ (NameEnd.root.encode ++ after)).getD before.length 0 = 0 := byte
  rw [nameItem, first, if_neg (by omega), if_pos (by decide)]

theorem pointer_item (target : Fin (2 ^ 14)) {offset : Nat}
    (written : WrittenAt message offset (NameEnd.pointer target).encode) :
    nameItem message offset = .pointer target.val := by
  obtain ⟨before, after, rfl, rfl⟩ := written
  have bound := target.isLt
  have total : (before ++ ((NameEnd.pointer target).encode ++ after)).length = before.length + (2 + after.length) := by
    rw [List.length_append, List.length_append]
    rfl
  have word : (UInt16.ofNat (0xC000 + target.val)).toNat = 0xC000 + target.val := by
    rw [UInt16.toNat_ofNat', Nat.mod_eq_of_lt (by omega)]
  have firstByte := written_byte before (NameEnd.pointer target).encode after 0 Nat.two_pos
  have secondByte := written_byte before (NameEnd.pointer target).encode after 1 (Nat.lt_succ_self 1)
  have first : ((before ++ ((NameEnd.pointer target).encode ++ after)).getD before.length 0).toNat =
      192 + target.val / 256 := by
    rw [Nat.add_zero] at firstByte
    rw [firstByte]
    change (UInt8.ofNat ((UInt16.ofNat (0xC000 + target.val)).toNat / 256)).toNat = _
    rw [word, UInt8.toNat_ofNat']
    omega
  have second : ((before ++ ((NameEnd.pointer target).encode ++ after)).getD (before.length + 1) 0).toNat =
      target.val % 256 := by
    rw [secondByte]
    change (UInt8.ofNat (UInt16.ofNat (0xC000 + target.val)).toNat).toNat = _
    rw [word, UInt8.toNat_ofNat']
    omega
  obtain ⟨marked, value⟩ := pointer_bits (target.val / 256) (target.val % 256) (by omega) (Nat.mod_lt _ (by decide))
  rw [nameItem, first, second, value, if_neg (by omega), if_neg (by omega), if_pos marked, if_neg (by omega)]
  have split : target.val / 256 * 256 + target.val % 256 = target.val := by omega
  rw [split]

theorem written_split {offset : Nat} {first second : Bytes} (written : WrittenAt message offset (first ++ second)) :
    WrittenAt message offset first ∧ WrittenAt message (offset + first.length) second := by
  obtain ⟨before, after, split, length⟩ := written
  rw [List.append_assoc] at split
  refine ⟨⟨before, second ++ after, split, length⟩, before ++ first, after, ?_, ?_⟩
  · rw [split, List.append_assoc]
  · rw [List.length_append, length]

theorem follows_append {firstSteps steps offset middle last : Nat} {first second : List Bytes} {behind : Option Nat}
    (walk : Follows message firstSteps offset middle first none) (rest : Follows message steps middle last second behind) :
    Follows message (firstSteps + steps) offset last (first ++ second) behind := by
  generalize noPointer : (none : Option Nat) = firstBehind at walk
  induction walk with
  | stay offset => rwa [Nat.zero_add]
  | pointer item back walk ih => cases noPointer
  | label item walk ih =>
      rw [Nat.add_right_comm]
      exact .label item (ih rest noPointer)

theorem labels_follow (labels : List DnsLabel) (offset : Nat) (written : WrittenAt message offset (labelBytes labels)) :
    Follows message labels.length offset (offset + (labelBytes labels).length) (labels.map DnsLabel.bytes) none := by
  induction labels generalizing offset with
  | nil => exact .stay offset
  | cons label rest ih =>
      obtain ⟨here, behind⟩ := written_split written
      have walk := ih (offset + label.encode.length) behind
      have next : offset + label.encode.length = offset + 1 + label.bytes.length := by
        rw [DnsLabel.encode, List.length_cons]
        omega
      have total : offset + (labelBytes (label :: rest)).length =
          offset + label.encode.length + (labelBytes rest).length := by
        rw [labelBytes, List.flatMap_cons, List.length_append, ← labelBytes]
        omega
      rw [total, List.map_cons]
      rw [next] at walk ⊢
      exact .label (label_item label here) walk

theorem named_follows {offset steps : Nat} {name : WrittenName} {labels : List DnsLabel}
    (named : NamedAt message offset name labels steps) :
    ∃ last behind, Follows message steps offset last (labels.map DnsLabel.bytes) behind ∧
      nameItem message last = .root ∧ behind.getD (last + 1) = offset + name.encode.length := by
  induction named with
  | @root offset labels written =>
      obtain ⟨written, ending⟩ := written_split written
      refine ⟨_, none, labels_follow labels offset written, root_item ending, ?_⟩
      rw [WrittenName.encode, List.length_append]
      exact Nat.add_assoc _ _ _
  | @pointer offset steps labels rest target next written earlier there ih =>
      obtain ⟨written, ending⟩ := written_split written
      obtain ⟨last, behind, walk, root, -⟩ := ih
      have jump := Follows.pointer (pointer_item target ending) earlier walk
      have whole := follows_append (labels_follow labels offset written) jump
      rw [← List.map_append, ← Nat.add_assoc, Nat.add_right_comm] at whole
      refine ⟨last, _, whole, root, ?_⟩
      rw [WrittenName.encode, List.length_append]
      exact Nat.add_assoc _ _ _

def nameText (labels : List DnsLabel) : String := ".".intercalate (labels.map DnsLabel.text)

theorem dotted_text (labels : List DnsLabel) : dotted (labels.map DnsLabel.bytes) = nameText labels := by
  rw [dotted, nameText, List.map_map]
  refine congrArg _ (List.map_congr_left ?_)
  intro label _
  exact ascii_text label.bytes label.ascii

theorem name_round_trip (fits : message.length ≤ isizeMax) {offset steps : Nat} {name : WrittenName}
    {labels : List DnsLabel} (named : NamedAt message offset name labels steps) (few : steps ≤ 127) :
    parseDnsName message offset = .ok (some (nameText labels, offset + name.encode.length)) := by
  obtain ⟨last, behind, walk, root, stop⟩ := named_follows named
  rw [root_returned fits walk (by omega) root, stop, dotted_text]

end Names

-- How a name is written in a message, and the labels it stands for.
structure DnsName where
  written : WrittenName
  labels : List DnsLabel

def DnsName.text (name : DnsName) : String := nameText name.labels

def DnsName.Encodes (name : DnsName) (message : Bytes) (offset : Nat) : Prop :=
  ∃ steps ≤ 127, NamedAt message offset name.written name.labels steps

structure DnsQuestion where
  name : DnsName
  qtype : UInt16
  qclass : UInt16

def DnsQuestion.encode (question : DnsQuestion) : Bytes :=
  question.name.written.encode ++ (u16ToBe question.qtype ++ u16ToBe question.qclass)

structure DnsAnswer where
  name : DnsName
  rtype : UInt16
  class_ : UInt16
  ttl : UInt32
  rdata : Bytes
  short : rdata.length ≤ 65535

def DnsAnswer.fixedPart (answer : DnsAnswer) : Bytes :=
  u16ToBe answer.rtype ++ (u16ToBe answer.class_ ++ (u32ToBe answer.ttl ++ u16ToBe (UInt16.ofNat answer.rdata.length)))

def DnsAnswer.encode (answer : DnsAnswer) : Bytes :=
  answer.name.written.encode ++ (answer.fixedPart ++ answer.rdata)

def DnsAnswer.record (answer : DnsAnswer) : DnsRecord :=
  ⟨answer.name.text, answer.rtype, answer.class_, answer.ttl, answer.rdata⟩

def NamesEncoded {α : Type} (name : α → DnsName) (encode : α → Bytes) (message : Bytes) (offset : Nat) :
    List α → Prop
  | [] => True
  | item :: rest => (name item).Encodes message offset ∧
      NamesEncoded name encode message (offset + (encode item).length) rest

section Records

variable {message : Bytes} (fits : message.length ≤ isizeMax)

include fits

theorem question_read (question : DnsQuestion) (state : DnsQuestions) (count : Nat)
    (named : question.name.Encodes message state.offset)
    (written : WrittenAt message state.offset question.encode) :
    parseDnsQuestions message (count + 1) state = parseDnsQuestions message count
      (if state.query.isNone then ⟨state.offset + question.encode.length, some question.name.text, some question.qtype,
          some question.qclass⟩
        else { state with offset := state.offset + question.encode.length }) := by
  obtain ⟨steps, few, name⟩ := named
  obtain ⟨-, fields⟩ := written_split written
  have stop := written_inside fields
  have room := usize_room fits 0 (by omega)
  have four : (u16ToBe question.qtype ++ u16ToBe question.qclass).length = 4 := rfl
  have total : question.encode.length = question.name.written.encode.length + 4 := List.length_append
  have first := written_index fields 0 (by omega)
  have byte := written_index_add fits fields
  have qtype : u16FromBe ((u16ToBe question.qtype ++ u16ToBe question.qclass).getD 0 0)
    ((u16ToBe question.qtype ++ u16ToBe question.qclass).getD 1 0) = question.qtype := u16_round_trip _
  have qclass : u16FromBe ((u16ToBe question.qtype ++ u16ToBe question.qclass).getD 2 0)
    ((u16ToBe question.qtype ++ u16ToBe question.qclass).getD 3 0) = question.qclass := u16_round_trip _
  rw [Nat.add_zero] at first
  rw [parseDnsQuestions, name_round_trip fits name few, ok_bind]
  dsimp only
  rw [add_ok (by omega), ok_bind, if_pos (by omega), first, ok_bind, byte 1 (by omega), ok_bind, byte 2 (by omega), ok_bind,
    byte 3 (by omega), ok_bind, ok_bind, qtype, qclass, total, ← Nat.add_assoc]
  rfl

theorem answer_read (answer : DnsAnswer) (offset count : Nat) (answers : List DnsRecord)
    (named : answer.name.Encodes message offset) (written : WrittenAt message offset answer.encode) :
    parseDnsAnswers message (count + 1) offset answers =
      parseDnsAnswers message count (offset + answer.encode.length) (answers ++ [answer.record]) := by
  obtain ⟨steps, few, name⟩ := named
  obtain ⟨-, behind⟩ := written_split written
  obtain ⟨fields, rdata⟩ := written_split behind
  have stop := written_inside fields
  have rdataStop := written_inside rdata
  have room := usize_room fits 0 (by omega)
  have ten : answer.fixedPart.length = 10 := rfl
  have total : answer.encode.length = answer.name.written.encode.length + 10 + answer.rdata.length := by
    rw [DnsAnswer.encode, List.length_append, List.length_append, ten, Nat.add_assoc]
  have first := written_index fields 0 (by omega)
  have byte := written_index_add fits fields
  have rtype : u16FromBe (answer.fixedPart.getD 0 0) (answer.fixedPart.getD 1 0) = answer.rtype := u16_round_trip _
  have class_ : u16FromBe (answer.fixedPart.getD 2 0) (answer.fixedPart.getD 3 0) = answer.class_ := u16_round_trip _
  have ttl : u32FromBe (answer.fixedPart.getD 4 0) (answer.fixedPart.getD 5 0) (answer.fixedPart.getD 6 0)
    (answer.fixedPart.getD 7 0) = answer.ttl := u32_round_trip _
  have rdlen : (u16FromBe (answer.fixedPart.getD 8 0) (answer.fixedPart.getD 9 0)).toNat = answer.rdata.length := by
    have value : u16FromBe (answer.fixedPart.getD 8 0) (answer.fixedPart.getD 9 0) = UInt16.ofNat answer.rdata.length :=
      u16_round_trip _
    have short := answer.short
    rw [value, UInt16.toNat_ofNat', Nat.mod_eq_of_lt (by omega)]
  have slice := written_slice rdata
  rw [Nat.add_zero] at first
  rw [ten] at slice rdataStop
  rw [parseDnsAnswers, name_round_trip fits name few, ok_bind]
  dsimp only
  rw [add_ok (by omega), ok_bind, if_pos (by omega), first, ok_bind, byte 1 (by omega), ok_bind, byte 2 (by omega), ok_bind,
    byte 3 (by omega), ok_bind, byte 4 (by omega), ok_bind, byte 5 (by omega), ok_bind, byte 6 (by omega), ok_bind,
    byte 7 (by omega), ok_bind, byte 8 (by omega), ok_bind, byte 9 (by omega), ok_bind, ok_bind, rtype, class_, ttl, rdlen,
    add_ok (by omega), ok_bind, if_pos (by omega), slice, ok_bind, total,
    ← Nat.add_assoc, ← Nat.add_assoc]
  rfl

-- Only the first question is kept.
theorem later_questions (questions : List DnsQuestion) (state : DnsQuestions) (asked : state.query.isNone = false)
    (named : NamesEncoded DnsQuestion.name DnsQuestion.encode message state.offset questions)
    (written : WrittenAt message state.offset (questions.flatMap DnsQuestion.encode)) :
    parseDnsQuestions message questions.length state =
      .ok { state with offset := state.offset + (questions.flatMap DnsQuestion.encode).length } := by
  induction questions generalizing state with
  | nil => rfl
  | cons question rest ih =>
      obtain ⟨here, behind⟩ := written_split written
      rw [List.length_cons, question_read fits question state rest.length named.1 here, asked]
      have later := ih { state with offset := state.offset + question.encode.length } asked named.2 behind
      rw [if_neg (by decide), later, List.flatMap_cons, List.length_append, ← Nat.add_assoc]

theorem questions_round_trip (questions : List DnsQuestion) (offset : Nat)
    (named : NamesEncoded DnsQuestion.name DnsQuestion.encode message offset questions)
    (written : WrittenAt message offset (questions.flatMap DnsQuestion.encode)) :
    parseDnsQuestions message questions.length ⟨offset, none, none, none⟩ =
      .ok ⟨offset + (questions.flatMap DnsQuestion.encode).length, questions.head?.map fun question => question.name.text,
        questions.head?.map DnsQuestion.qtype, questions.head?.map DnsQuestion.qclass⟩ := by
  cases questions with
  | nil => rfl
  | cons question rest =>
      obtain ⟨here, behind⟩ := written_split written
      rw [List.length_cons, question_read fits question ⟨offset, none, none, none⟩ rest.length named.1 here]
      have later := later_questions fits rest ⟨offset + question.encode.length, some question.name.text,
        some question.qtype, some question.qclass⟩ rfl named.2 behind
      refine Eq.trans later ?_
      rw [List.flatMap_cons, List.length_append, ← Nat.add_assoc]
      rfl

theorem answers_round_trip (items : List DnsAnswer) (offset : Nat) (answers : List DnsRecord)
    (named : NamesEncoded DnsAnswer.name DnsAnswer.encode message offset items)
    (written : WrittenAt message offset (items.flatMap DnsAnswer.encode)) :
    parseDnsAnswers message items.length offset answers = .ok (answers ++ items.map DnsAnswer.record) := by
  induction items generalizing offset answers with
  | nil => rw [List.map_nil, List.append_nil]; rfl
  | cons answer rest ih =>
      obtain ⟨here, behind⟩ := written_split written
      rw [List.length_cons, answer_read fits answer offset rest.length answers named.1 here,
        ih _ _ named.2 behind, List.map_cons, List.append_assoc]
      rfl

end Records

structure DnsFields where
  transactionId : UInt16
  isResponse : Bool
  opcode : Fin 16
  aa : Bool
  tc : Bool
  rd : Bool
  ra : Bool
  reserved : Fin 8
  rcode : Fin 16
  authorityCount : UInt16
  additionalCount : UInt16
  questions : List DnsQuestion
  answers : List DnsAnswer
  rest : Bytes

namespace DnsFields

variable (fields : DnsFields)

def flagsNat : Nat := fields.isResponse.toNat * 32768 + fields.opcode.val * 2048 + fields.aa.toNat * 1024 +
  fields.tc.toNat * 512 + fields.rd.toNat * 256 + fields.ra.toNat * 128 + fields.reserved.val * 16 + fields.rcode.val

def header : Bytes :=
  u16ToBe fields.transactionId ++ (u16ToBe (UInt16.ofNat fields.flagsNat) ++
    (u16ToBe (UInt16.ofNat fields.questions.length) ++ (u16ToBe (UInt16.ofNat fields.answers.length) ++
      (u16ToBe fields.authorityCount ++ u16ToBe fields.additionalCount))))

def encode : Bytes :=
  fields.header ++ (fields.questions.flatMap DnsQuestion.encode ++ (fields.answers.flatMap DnsAnswer.encode ++ fields.rest))

def info : DnsInfo where
  transactionId := fields.transactionId
  isResponse := fields.isResponse
  opcode := UInt8.ofNat fields.opcode.val
  aa := fields.aa
  tc := fields.tc
  rd := fields.rd
  ra := fields.ra
  rcode := UInt8.ofNat fields.rcode.val
  questionCount := UInt16.ofNat fields.questions.length
  answerCount := UInt16.ofNat fields.answers.length
  authorityCount := fields.authorityCount
  additionalCount := fields.additionalCount
  query := fields.questions.head?.map fun question => question.name.text
  queryType := fields.questions.head?.map DnsQuestion.qtype
  queryClass := fields.questions.head?.map DnsQuestion.qclass
  answers := fields.answers.map DnsAnswer.record

def answersStart : Nat := 12 + (fields.questions.flatMap DnsQuestion.encode).length

end DnsFields

structure DnsMessage extends DnsFields where
  questionsFew : questions.length < 2 ^ 16
  answersFew : answers.length < 2 ^ 16
  questionsNamed : NamesEncoded DnsQuestion.name DnsQuestion.encode toDnsFields.encode 12 questions
  answersNamed : NamesEncoded DnsAnswer.name DnsAnswer.encode toDnsFields.encode toDnsFields.answersStart answers

namespace DnsFields

variable (fields : DnsFields)

theorem flags_bits :
    (UInt16.ofNat fields.flagsNat &&& 0x8000 != 0) = fields.isResponse ∧
    ((UInt16.ofNat fields.flagsNat >>> 11) &&& 0x0F).toUInt8 = UInt8.ofNat fields.opcode.val ∧
    (UInt16.ofNat fields.flagsNat &&& 0x0400 != 0) = fields.aa ∧ (UInt16.ofNat fields.flagsNat &&& 0x0200 != 0) = fields.tc ∧
    (UInt16.ofNat fields.flagsNat &&& 0x0100 != 0) = fields.rd ∧ (UInt16.ofNat fields.flagsNat &&& 0x0080 != 0) = fields.ra ∧
    (UInt16.ofNat fields.flagsNat &&& 0x000F).toUInt8 = UInt8.ofNat fields.rcode.val := by
  have opcode := fields.opcode.isLt
  have reserved := fields.reserved.isLt
  have rcode := fields.rcode.isLt
  have bit : ∀ value : Bool, value.toNat ≤ 1 := Bool.toNat_le
  have isResponse := bit fields.isResponse
  have aa := bit fields.aa
  have tc := bit fields.tc
  have rd := bit fields.rd
  have ra := bit fields.ra
  have word : (UInt16.ofNat fields.flagsNat).toNat = fields.flagsNat := by
    rw [UInt16.toNat_ofNat', Nat.mod_eq_of_lt]
    unfold flagsNat
    omega
  have shown : ∀ (n : Nat) (value : Bool), n = value.toNat → decide (n = 1) = value := by
    rintro n value rfl
    cases value <;> rfl
  rw [← UInt8.toNat_inj, ← UInt8.toNat_inj, opcode_field, rcode_field, flag_bit _ 0x8000 15 rfl, flag_bit _ 0x0400 10 rfl,
    flag_bit _ 0x0200 9 rfl, flag_bit _ 0x0100 8 rfl, flag_bit _ 0x0080 7 rfl, word, UInt8.toNat_ofNat', UInt8.toNat_ofNat']
  unfold flagsNat
  refine ⟨shown _ _ ?_, ?_, shown _ _ ?_, shown _ _ ?_, shown _ _ ?_, shown _ _ ?_, ?_⟩
  all_goals omega

end DnsFields

namespace DnsMessage

variable (message : DnsMessage)

theorem sections_round_trip (fits : message.encode.length ≤ isizeMax) :
    dnsSections message.encode (UInt16.ofNat message.questions.length) (UInt16.ofNat message.answers.length) =
      .ok (message.info.query, message.info.queryType, message.info.queryClass, message.info.answers) := by
  have asked : WrittenAt message.encode 12 (message.questions.flatMap DnsQuestion.encode) :=
    ⟨message.header, message.answers.flatMap DnsAnswer.encode ++ message.rest, rfl, rfl⟩
  have answered : WrittenAt message.encode message.answersStart (message.answers.flatMap DnsAnswer.encode) := by
    refine ⟨message.header ++ message.questions.flatMap DnsQuestion.encode, message.rest, ?_, List.length_append⟩
    rw [DnsFields.encode, List.append_assoc]
  have questionCount : (UInt16.ofNat message.questions.length).toNat = message.questions.length := by
    rw [UInt16.toNat_ofNat', Nat.mod_eq_of_lt message.questionsFew]
  have answerCount : (UInt16.ofNat message.answers.length).toNat = message.answers.length := by
    rw [UInt16.toNat_ofNat', Nat.mod_eq_of_lt message.answersFew]
  rw [dnsSections, questionCount, answerCount,
    questions_round_trip fits message.questions 12 message.questionsNamed asked, ok_bind]
  dsimp only
  rw [← DnsFields.answersStart, answers_round_trip fits message.answers message.answersStart [] message.answersNamed answered, ok_bind]
  rfl

theorem dns_message_round_trip (fits : message.encode.length ≤ isizeMax) :
    parseDns message.encode = .ok (some message.info) := by
  have long : 12 ≤ message.encode.length := by
    rw [DnsFields.encode, List.length_append]
    exact Nat.le_add_right 12 _
  have transactionId : wordAt message.encode 0 = message.transactionId := u16_round_trip _
  have flagsWord : wordAt message.encode 2 = UInt16.ofNat message.flagsNat := u16_round_trip _
  have questionCount : wordAt message.encode 4 = UInt16.ofNat message.questions.length := u16_round_trip _
  have answerCount : wordAt message.encode 6 = UInt16.ofNat message.answers.length := u16_round_trip _
  have authorityCount : wordAt message.encode 8 = message.authorityCount := u16_round_trip _
  have additionalCount : wordAt message.encode 10 = message.additionalCount := u16_round_trip _
  obtain ⟨isResponse, opcode, aa, tc, rd, ra, rcode⟩ := message.flags_bits
  obtain ⟨query, queryType, queryClass, answers, sections, parsed⟩ := dns_decodes message.encode fits long
  rw [questionCount, answerCount, message.sections_round_trip fits] at sections
  cases sections
  rw [parsed, dnsInfo, transactionId, flagsWord, questionCount, answerCount, authorityCount, additionalCount, isResponse,
    opcode, aa, tc, rd, ra, rcode]
  rfl

end DnsMessage

def letter : DnsLabel := ⟨[0x61], by decide, by decide, List.forall_mem_singleton.mpr (by decide)⟩

def writtenLetter : DnsName := ⟨⟨[letter], .root⟩, [letter]⟩

-- The name is the one at offset 12, with a label before it.
def compressedName : DnsName := ⟨⟨[letter], .pointer 12⟩, [letter, letter]⟩

def addressResponse : DnsFields where
  transactionId := 0x1234
  isResponse := true
  opcode := ⟨0, by decide⟩
  aa := false
  tc := false
  rd := true
  ra := true
  reserved := 0
  rcode := ⟨0, by decide⟩
  authorityCount := 0
  additionalCount := 1
  questions := [⟨writtenLetter, 1, 1⟩]
  answers := [⟨compressedName, 1, 1, 300, [10, 0, 0, 1], by decide⟩]
  rest := [0]

theorem letter_asked : NamedAt addressResponse.encode 12 writtenLetter.written writtenLetter.labels 1 :=
  .root ⟨addressResponse.header, _, rfl, rfl⟩

theorem compressed_answered :
    NamedAt addressResponse.encode 19 compressedName.written compressedName.labels 3 := by
  have earlier : (12 : Fin (2 ^ 14)).val < 19 + (labelBytes [letter]).length := by decide
  exact .pointer ⟨addressResponse.encode.take 19, _, rfl, rfl⟩ earlier letter_asked

def addressMessage : DnsMessage where
  toDnsFields := addressResponse
  questionsFew := by decide
  answersFew := by decide
  questionsNamed := ⟨⟨1, by decide, letter_asked⟩, trivial⟩
  answersNamed := ⟨⟨3, by decide, compressed_answered⟩, trivial⟩

theorem address_message_read : parseDns addressMessage.encode = .ok (some addressMessage.info) :=
  addressMessage.dns_message_round_trip (by decide +kernel)

end NetworkIds.Parser
