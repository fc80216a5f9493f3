import NetworkIds.Parser.DnsProgress

set_option autoImplicit false

namespace NetworkIds.Parser

open Checked Endian

section Items

variable {payload : Bytes}

theorem root_iff {offset : Nat} :
    nameItem payload offset = .root ↔ offset < payload.length ∧ payload.getD offset 0 = 0 := by
  rw [← UInt8.toNat_inj, nameItem]
  by_cases outside : payload.length ≤ offset
  · simp [outside]
  · by_cases zero : (payload.getD offset 0).toNat = 0
    · rw [if_neg outside, if_pos zero, zero]
      simp only [true_iff]
      exact ⟨by omega, rfl⟩
    · rw [if_neg outside, if_neg zero]
      have never : ¬ (offset < payload.length ∧ (payload.getD offset 0).toNat = (0 : UInt8).toNat) :=
        fun both => zero both.2
      simp only [never, iff_false]
      split
      · split <;> simp
      · split <;> simp

theorem word_at_nat (i : Nat) :
    (wordAt payload i).toNat = (payload.getD i 0).toNat * 256 + (payload.getD (i + 1) 0).toNat := u16_from_be_nat _ _

theorem pointer_marked (n : Nat) (bound : n < 256) : n &&& 0xC0 = 0xC0 ↔ 192 ≤ n := by
  revert n
  decide +kernel

-- A pointer is a word from 0xC000 on.
theorem pointer_iff {offset target : Nat} :
    nameItem payload offset = .pointer target ↔
      offset + 2 ≤ payload.length ∧ (wordAt payload offset).toNat = 0xC000 + target := by
  have bound := (payload.getD offset 0).toNat_lt
  have lowBound := (payload.getD (offset + 1) 0).toNat_lt
  rw [word_at_nat, nameItem]
  by_cases outside : payload.length ≤ offset
  · rw [if_pos outside]
    simp only [reduceCtorEq, false_iff, not_and]
    omega
  · rw [if_neg outside]
    by_cases marked : 192 ≤ (payload.getD offset 0).toNat
    · obtain ⟨high, split⟩ := Nat.exists_eq_add_of_le marked
      obtain ⟨isPointer, value⟩ := pointer_bits high (payload.getD (offset + 1) 0).toNat (by omega) lowBound
      rw [if_neg (by omega), split, if_pos isPointer, value]
      by_cases cut : offset + 2 > payload.length
      · rw [if_pos cut]
        simp only [reduceCtorEq, false_iff, not_and]
        omega
      · rw [if_neg cut, NameItem.pointer.injEq]
        omega
    · have plain : ¬ (payload.getD offset 0).toNat &&& 0xC0 = 0xC0 := fun both => marked ((pointer_marked _ bound).mp both)
      rw [if_neg plain]
      have never : ¬ (offset + 2 ≤ payload.length ∧
          (payload.getD offset 0).toNat * 256 + (payload.getD (offset + 1) 0).toNat = 0xC000 + target) := by omega
      simp only [never, iff_false]
      split
      · simp
      · split <;> simp

theorem part_same {other : Bytes} {start stop : Nat} (inside : stop ≤ payload.length) (otherInside : stop ≤ other.length)
    (same : ∀ i, start ≤ i → i < stop → other.getD i 0 = payload.getD i 0) :
    (other.take stop).drop start = (payload.take stop).drop start := by
  apply List.ext_getElem
  · simp [List.length_take_of_le inside, List.length_take_of_le otherInside]
  · intro i first second
    rw [List.length_drop, List.length_take_of_le otherInside] at first
    have byte := same (start + i) (by omega) (by omega)
    rw [List.getD_eq_getElem _ _ (by omega), List.getD_eq_getElem _ _ (by omega)] at byte
    simp only [List.getElem_drop, List.getElem_take]
    exact byte

theorem label_iff {offset : Nat} {text : Bytes} :
    nameItem payload offset = .label text ↔
      ((payload.getD offset 0).toNat ≠ 0 ∧ ¬ (payload.getD offset 0).toNat &&& 0xC0 = 0xC0) ∧
      offset + 1 + (payload.getD offset 0).toNat ≤ payload.length ∧
      text = (payload.take (offset + 1 + (payload.getD offset 0).toNat)).drop (offset + 1) := by
  rw [nameItem]
  by_cases outside : payload.length ≤ offset
  · rw [if_pos outside]
    simp only [reduceCtorEq, false_iff, not_and]
    omega
  · rw [if_neg outside]
    by_cases zero : (payload.getD offset 0).toNat = 0
    · rw [if_pos zero]
      simp only [reduceCtorEq, false_iff]
      exact fun label => label.1.1 zero
    · by_cases pointer : (payload.getD offset 0).toNat &&& 0xC0 = 0xC0
      · rw [if_neg zero, if_pos pointer]
        simp only [pointer, not_true_eq_false, and_false, false_and, iff_false]
        split <;> simp
      · rw [if_neg zero, if_neg pointer]
        by_cases cut : offset + 1 + (payload.getD offset 0).toNat > payload.length
        · rw [if_pos cut]
          simp only [reduceCtorEq, false_iff, not_and]
          omega
        · rw [if_neg cut, NameItem.label.injEq]
          constructor
          · intro same
            exact ⟨⟨zero, pointer⟩, by omega, same.symm⟩
          · intro label
            exact label.2.2.symm

theorem follows_same {other : Bytes} {steps offset last : Nat} {labels : List Bytes}
    (walk : Follows payload steps offset last labels none) (inside : last ≤ payload.length)
    (otherInside : last ≤ other.length) (same : ∀ i, offset ≤ i → i < last → other.getD i 0 = payload.getD i 0) :
    Follows other steps offset last labels none := by
  generalize noPointer : (none : Option Nat) = behind at walk ⊢
  induction walk with
  | stay offset => exact .stay offset
  | pointer item back rest ih => cases noPointer
  | @label steps offset last text labels behind item rest ih =>
      subst noPointer
      obtain ⟨kind, within, written⟩ := label_iff.mp item
      have length : text.length = (payload.getD offset 0).toNat := by
        rw [written, slice_length _ _ _ within]
        omega
      have forward : offset + 1 + text.length ≤ last := follows_forward rest (Nat.le_refl last)
      have first := same offset (Nat.le_refl offset) (by omega)
      refine .label (label_iff.mpr ?_) (ih inside otherInside (fun i after before => same i (by omega) before) rfl)
      rw [first]
      refine ⟨kind, by omega, ?_⟩
      rw [written]
      exact (part_same within (by omega) fun i after before => same i (by omega) (by omega)).symm

theorem pointers_back {steps offset last : Nat} {behind : Option Nat}
    (walk : Follows payload steps offset last [] behind) : last + steps ≤ offset := by
  generalize noLabel : ([] : List Bytes) = labels at walk
  induction walk with
  | stay offset => exact Nat.le_refl _
  | pointer item back rest ih =>
      have before := ih noLabel
      omega
  | label item rest ih => cases noLabel

end Items

section Sections

variable {payload : Bytes}

-- The first question has this name, and its type and class are the two words
-- from this offset on.
def Asks (payload : Bytes) (name : String) (stop : Nat) : Prop :=
  parseDnsName payload 12 = .ok (some (name, stop)) ∧ stop + 4 ≤ payload.length

theorem question_asks {next : Nat} (question : QuestionAt payload 12 next) : ∃ name stop, Asks payload name stop := by
  obtain ⟨name, stop, named, rfl, inside⟩ := question
  exact ⟨name, stop, named, inside⟩

theorem questions_keep (fits : payload.length ≤ isizeMax) (count : Nat) (state : DnsQuestions)
    (inside : state.offset ≤ payload.length) (kept : state.query.isSome = true) :
    Safe (parseDnsQuestions payload count state) (fun result =>
      result.query = state.query ∧ result.queryType = state.queryType ∧ result.queryClass = state.queryClass) := by
  have room := usize_room fits 256 (by omega)
  induction count generalizing state with
  | zero => exact safe_ok ⟨rfl, rfl, rfl⟩
  | succ count ih =>
      rw [parseDnsQuestions]
      obtain ⟨returned, named, bounded⟩ := dns_name_safe payload fits state.offset inside
      rw [named, ok_bind]
      cases returned with
      | none => exact safe_ok ⟨rfl, rfl, rfl⟩
      | some found =>
          obtain ⟨name, stop⟩ := found
          have stopInside := bounded name stop rfl
          have present : state.query.isNone = false := by rw [← Option.not_isSome, kept, Bool.not_true]
          simp (disch := omega) only [add_ok, ok_bind]
          by_cases whole : stop + 4 ≤ payload.length
          · simp (disch := omega) only [if_pos whole, index_getD, index_add_getD, ok_bind, present]
            exact ih { state with offset := stop + 4 } whole kept
          · rw [if_neg whole]
            exact safe_ok ⟨rfl, rfl, rfl⟩

theorem first_question_kept (fits : payload.length ≤ isizeMax) {name : String} {stop : Nat} (asks : Asks payload name stop)
    (count : Nat) (counted : 1 ≤ count) :
    Safe (parseDnsQuestions payload count ⟨12, none, none, none⟩) (fun result =>
      result.query = some name ∧ result.queryType = some (wordAt payload stop) ∧
        result.queryClass = some (wordAt payload (stop + 2))) := by
  obtain ⟨named, whole⟩ := asks
  have room := usize_room fits 256 (by omega)
  obtain ⟨rest, rfl⟩ : ∃ rest, count = rest + 1 := ⟨count - 1, by omega⟩
  rw [parseDnsQuestions, named, ok_bind]
  simp (disch := omega) only [add_ok, ok_bind, if_pos whole, index_getD, index_add_getD]
  exact questions_keep fits rest _ whole rfl

theorem no_first_question (fits : payload.length ≤ isizeMax) (long : 12 ≤ payload.length)
    (unasked : ¬ ∃ next, QuestionAt payload 12 next) (count : Nat) :
    parseDnsQuestions payload count ⟨12, none, none, none⟩ = .ok ⟨12, none, none, none⟩ := by
  have room := usize_room fits 256 (by omega)
  cases count with
  | zero => rfl
  | succ count =>
      rw [parseDnsQuestions]
      obtain ⟨returned, named, bounded⟩ := dns_name_safe payload fits 12 long
      rw [named, ok_bind]
      cases returned with
      | none => rfl
      | some found =>
          obtain ⟨name, stop⟩ := found
          have stopInside := bounded name stop rfl
          have short : ¬ stop + 4 ≤ payload.length := fun whole => unasked ⟨stop + 4, name, stop, named, rfl, whole⟩
          simp (disch := omega) only [add_ok, ok_bind, if_neg short]
          rfl

-- Where an answer can be read, a question could be.
theorem answer_question {start place next : Nat} {record : DnsRecord} (answer : AnswerAt payload start record place next) :
    ∃ behind, QuestionAt payload start behind := by
  obtain ⟨stop, named, rfl, rdata⟩ := answer
  obtain ⟨ordered, inside⟩ := slice_bounds rdata
  exact ⟨stop + 4, record.name, stop, named, rfl, by omega⟩

theorem no_answers (fits : payload.length ≤ isizeMax) {offset : Nat} (inside : offset ≤ payload.length)
    (unanswered : ∀ record place next, ¬ AnswerAt payload offset record place next) (count : Nat) :
    parseDnsAnswers payload count offset [] = .ok [] := by
  obtain ⟨answers, answered, records, parts, last, rfl, read⟩ := answers_walk fits count offset [] inside
  cases read with
  | none => exact answered
  | answer first rest => exact absurd first (unanswered _ _ _)

theorem unasked_sections (fits : payload.length ≤ isizeMax) (long : 12 ≤ payload.length)
    (unasked : ¬ ∃ next, QuestionAt payload 12 next) (questionCount answerCount : UInt16) :
    dnsSections payload questionCount answerCount = .ok (none, none, none, []) := by
  have unanswered : ∀ record place next, ¬ AnswerAt payload 12 record place next :=
    fun record place next answer => unasked (answer_question answer)
  rw [dnsSections, no_first_question fits long unasked, ok_bind, no_answers fits long unanswered, ok_bind]
  rfl

-- A message with fewer bytes than its questions and one answer take has no
-- answer, whatever its bytes are.
theorem asked_sections (fits : payload.length ≤ isizeMax) (long : 12 ≤ payload.length) {name : String} {stop : Nat}
    (asks : Asks payload name stop) (questionCount answerCount : UInt16) (counted : 1 ≤ questionCount.toNat)
    (crowded : payload.length < 12 + 5 * questionCount.toNat + 11) :
    dnsSections payload questionCount answerCount =
      .ok (some name, some (wordAt payload stop), some (wordAt payload (stop + 2)), []) := by
  obtain ⟨questions, asked, read, -, questionsRead, ended⟩ :=
    questions_walk fits questionCount.toNat ⟨12, none, none, none⟩ long
  obtain ⟨query, queryType, queryClass⟩ := safe_result (first_question_kept fits asks _ counted) asked
  have walked : 12 + 5 * read ≤ questions.offset ∧ questions.offset ≤ payload.length :=
    questions_advance fits questionsRead long
  have unanswered : ∀ record place next, ¬ AnswerAt payload questions.offset record place next := by
    intro record place next answer
    rcases ended with all | stuck
    · have advanced := answer_advances fits answer
      omega
    · exact stuck (answer_question answer)
  rw [dnsSections, asked, ok_bind, no_answers fits walked.2 unanswered, ok_bind, query, queryType, queryClass]
  rfl

end Sections

theorem same_bit {a b : Nat} (same : a % 2 = 1 ↔ b % 2 = 1) : a % 2 = b % 2 := by omega

theorem upper_bits (n : Nat) (bound : n < 512) :
    n = n / 256 % 2 * 256 + n / 16 % 16 * 16 + n / 8 % 2 * 8 + n / 4 % 2 * 4 + n / 2 % 2 * 2 + n % 2 := by
  revert n
  decide +kernel

theorem coarser (n : Nat) :
    n / 32768 = n / 128 / 256 ∧ n / 2048 = n / 128 / 16 ∧ n / 1024 = n / 128 / 8 ∧ n / 512 = n / 128 / 4 ∧
      n / 256 = n / 128 / 2 := by
  simp only [Nat.div_div_eq_div_mul, Nat.reduceMul, and_self]

-- No field of DnsInfo shows bits 4 to 6 of the flags word.
def SameFlags (word other : UInt16) : Prop :=
  word.toNat / 128 = other.toNat / 128 ∧ word.toNat % 16 = other.toNat % 16

theorem same_flags_iff (word other : UInt16) :
    SameFlags word other ↔
      (word &&& 0x8000 != 0) = (other &&& 0x8000 != 0) ∧
      ((word >>> 11) &&& 0x0F).toUInt8 = ((other >>> 11) &&& 0x0F).toUInt8 ∧
      (word &&& 0x0400 != 0) = (other &&& 0x0400 != 0) ∧ (word &&& 0x0200 != 0) = (other &&& 0x0200 != 0) ∧
      (word &&& 0x0100 != 0) = (other &&& 0x0100 != 0) ∧ (word &&& 0x0080 != 0) = (other &&& 0x0080 != 0) ∧
      (word &&& 0x000F).toUInt8 = (other &&& 0x000F).toUInt8 := by
  have wordBits := upper_bits (word.toNat / 128) (Nat.div_lt_of_lt_mul word.toNat_lt)
  have otherBits := upper_bits (other.toNat / 128) (Nat.div_lt_of_lt_mul other.toNat_lt)
  rw [← UInt8.toNat_inj, ← UInt8.toNat_inj, opcode_field, opcode_field, rcode_field, rcode_field]
  simp only [flag_bit _ 0x8000 15 rfl, flag_bit _ 0x0400 10 rfl, flag_bit _ 0x0200 9 rfl, flag_bit _ 0x0100 8 rfl,
    flag_bit _ 0x0080 7 rfl, decide_eq_decide, Nat.reducePow]
  obtain ⟨high, opcode, aa, tc, rd⟩ := coarser word.toNat
  obtain ⟨otherHigh, otherOpcode, otherAa, otherTc, otherRd⟩ := coarser other.toNat
  rw [SameFlags, high, opcode, aa, tc, rd, otherHigh, otherOpcode, otherAa, otherTc, otherRd]
  constructor
  · intro same
    rw [same.1, same.2]
    exact ⟨Iff.rfl, rfl, Iff.rfl, Iff.rfl, Iff.rfl, Iff.rfl, rfl⟩
  · intro fields
    obtain ⟨sameHigh, sameOpcode, sameAa, sameTc, sameRd, sameRa, sameRcode⟩ := fields
    refine ⟨?_, sameRcode⟩
    rw [wordBits, otherBits, same_bit sameHigh, sameOpcode, same_bit sameAa, same_bit sameTc, same_bit sameRd,
      same_bit sameRa]

def framed (message : Bytes) : Bytes := u16ToBe (UInt16.ofNat message.length) ++ message

theorem framed_length_word (message : Bytes) : wordAt (framed message) 0 = UInt16.ofNat message.length :=
  u16_round_trip _

theorem framed_word (message : Bytes) (i : Nat) : wordAt (framed message) (i + 2) = wordAt message i := rfl

theorem framed_length (message : Bytes) : (framed message).length = message.length + 2 := by
  rw [framed, List.length_append, Nat.add_comm]
  rfl

section Repetition

variable {message : Bytes}

-- The id of the message is its length, and every header word repeats the one
-- before as far as it is reported.
structure HeaderRepeats (message : Bytes) : Prop where
  id : (wordAt message 0).toNat = message.length
  flags : SameFlags (wordAt message 0) (wordAt message 2)
  questionCount : wordAt message 2 = wordAt message 4
  answerCount : wordAt message 4 = wordAt message 6
  authorityCount : wordAt message 6 = wordAt message 8
  additionalCount : wordAt message 8 = wordAt message 10

-- There is no room for the questions and an answer behind them.
def Crowded (message : Bytes) : Prop := message.length < 5 * (wordAt message 2).toNat + 21

-- A first question without pointers, every byte of which is the one two before it.
structure RepeatedQuestion (message : Bytes) (steps last : Nat) (labels : List Bytes) : Prop where
  walk : Follows message steps 12 last labels none
  early : steps < 128
  root : nameItem message last = .root
  room : last + 5 ≤ message.length
  repeated : ∀ i, 12 ≤ i → i < last + 5 → message.getD (i - 2) 0 = message.getD i 0

-- A first question whose name is a pointer into the header, to a name without
-- labels, and every byte of which is the one three before it.
structure RepeatedPointer (message : Bytes) : Prop where
  room : 18 ≤ message.length
  zero : message.getD 10 0 = 0
  pointer : message.getD 12 0 = 0xC0
  header : (message.getD 13 0).toNat < 12
  repeated : ∀ i, 14 ≤ i → i < 18 → message.getD (i - 3) 0 = message.getD i 0
  unnamed : message.getD (message.getD 13 0).toNat 0 = 0 ∨
    message.getD (message.getD 13 0).toNat 0 = 0xC0 ∧ message.getD ((message.getD 13 0).toNat + 1) 0 = 0

-- The sections are read alike two bytes earlier: none are counted, or there is
-- no room for one, or a pointer that does not lead back ends both, or the first
-- question repeats itself and nothing is read behind the questions.
inductive SectionsRepeat (message : Bytes) : Prop where
  | uncounted (none : wordAt message 2 = 0)
  | short (few : message.length ≤ 14)
  | forward (first : 0xC00C ≤ (wordAt message 10).toNat) (second : 0xC00C ≤ (wordAt message 12).toNat)
  | question {steps last : Nat} {labels : List Bytes} (crowded : Crowded message)
      (repeats : RepeatedQuestion message steps last labels)
  | pointer (crowded : Crowded message) (repeats : RepeatedPointer message)

structure FramingInvisible (message : Bytes) : Prop where
  header : HeaderRepeats message
  sections : SectionsRepeat message

theorem same_info_iff (long : 12 ≤ message.length) (short : message.length < 65536) :
    (∃ info, parseDns (framed message) = .ok (some info) ∧ parseDns message = .ok (some info)) ↔
      HeaderRepeats message ∧ dnsSections (framed message) (wordAt message 2) (wordAt message 4) =
        dnsSections message (wordAt message 4) (wordAt message 6) := by
  have small : 65538 ≤ isizeMax := by decide
  have length := framed_length message
  obtain ⟨query, queryType, queryClass, answers, sections, parsed⟩ := dns_decodes message (by omega) long
  obtain ⟨framedQuery, framedType, framedClass, framedAnswers, framedSections, framedParsed⟩ :=
    dns_decodes (framed message) (by omega) (by omega)
  have idEq : wordAt (framed message) 0 = wordAt message 0 ↔ (wordAt message 0).toNat = message.length := by
    rw [framed_length_word, ← UInt16.toNat_inj, UInt16.toNat_ofNat']
    omega
  rw [framed_word message 2, framed_word message 4] at framedSections
  have fields : dnsInfo (framed message) framedQuery framedType framedClass framedAnswers =
      dnsInfo message query queryType queryClass answers ↔
        HeaderRepeats message ∧ dnsSections (framed message) (wordAt message 2) (wordAt message 4) =
          dnsSections message (wordAt message 4) (wordAt message 6) := by
    rw [dnsInfo, dnsInfo, DnsInfo.mk.injEq, idEq, framed_word message 0, framed_word message 2, framed_word message 4,
      framed_word message 6, framed_word message 8, framedSections, sections]
    have flags := same_flags_iff (wordAt message 0) (wordAt message 2)
    constructor
    · intro same
      obtain ⟨id, response, opcode, aa, tc, rd, ra, rcode, questions, answered, authority, additional, rest⟩ := same
      refine ⟨⟨id, flags.mpr ⟨response, opcode, aa, tc, rd, ra, rcode⟩, questions, answered, authority, additional⟩, ?_⟩
      rw [rest.1, rest.2.1, rest.2.2.1, rest.2.2.2]
    · intro alike
      obtain ⟨header, same⟩ := alike
      obtain ⟨response, opcode, aa, tc, rd, ra, rcode⟩ := flags.mp header.flags
      obtain ⟨sameQuery, sameType, sameClass, sameAnswers⟩ : framedQuery = query ∧ framedType = queryType ∧
          framedClass = queryClass ∧ framedAnswers = answers := by simpa using same
      exact ⟨header.id, response, opcode, aa, tc, rd, ra, rcode, header.questionCount, header.answerCount,
        header.authorityCount, header.additionalCount, sameQuery, sameType, sameClass, sameAnswers⟩
  rw [← fields, parsed, framedParsed]
  constructor
  · intro alike
    obtain ⟨info, first, second⟩ := alike
    cases first
    exact (Option.some.inj (Except.ok.inj second)).symm
  · intro same
    exact ⟨_, rfl, by rw [same]⟩

theorem framed_byte (i : Nat) (behind : 2 ≤ i) : (framed message).getD i 0 = message.getD (i - 2) 0 := by
  obtain ⟨rest, rfl⟩ := Nat.exists_eq_add_of_le' behind
  rfl

theorem small_words (header : HeaderRepeats message) (small : (wordAt message 10).toNat < 256) :
    ∀ i ∈ [0, 2, 4, 6, 8, 10], message.getD i 0 = 0 := by
  have same2 : wordAt message 2 = wordAt message 10 := by
    rw [header.questionCount, header.answerCount, header.authorityCount, header.additionalCount]
  have words : ∀ i ∈ [0, 2, 4, 6, 8, 10], (wordAt message i).toNat < 256 := by
    have flags := header.flags.1
    simp only [List.mem_cons, List.not_mem_nil, or_false, forall_eq_or_imp, forall_eq]
    refine ⟨?_, ?_, ?_, ?_, ?_, small⟩
    · rw [same2] at flags
      omega
    · rwa [same2]
    · rwa [header.answerCount, header.authorityCount, header.additionalCount]
    · rwa [header.authorityCount, header.additionalCount]
    · rwa [header.additionalCount]
  intro i member
  have word := words i member
  rw [word_at_nat] at word
  apply UInt8.toNat_inj.mp
  show _ = 0
  omega

theorem forward_unasked {payload : Bytes} (fits : payload.length ≤ isizeMax)
    (forward : 0xC00C ≤ (wordAt payload 12).toNat) : ¬ ∃ next, QuestionAt payload 12 next := by
  rintro ⟨next, question⟩
  have advanced := question_advances fits question
  have item : nameItem payload 12 = .pointer ((wordAt payload 12).toNat - 0xC000) :=
    pointer_iff.mpr ⟨by omega, by omega⟩
  obtain ⟨name, stop, named, -⟩ := question
  rw [walk_runs fits (.stay 12) (by decide), item, nameRound, if_neg (by omega)] at named
  cases named

theorem short_unasked {payload : Bytes} (fits : payload.length ≤ isizeMax) (short : payload.length ≤ 16) :
    ¬ ∃ next, QuestionAt payload 12 next := by
  rintro ⟨next, question⟩
  have advanced := question_advances fits question
  omega

theorem empty_name {payload : Bytes} (fits : payload.length ≤ isizeMax) {start stop : Nat} (inside : start < payload.length)
    (early : start < 128) (named : parseDnsName payload start = .ok (some ("", stop))) :
    ∃ steps last behind, Follows payload steps start last [] behind ∧ nameItem payload last = .root ∧
      stop = behind.getD (last + 1) := by
  obtain ⟨rounds, within, read⟩ := (name_returned_iff fits start "" stop).mp named
  have noLabels {steps last : Nat} {labels : List Bytes} {behind : Option Nat}
      (walk : Follows payload steps start last labels behind) (empty : "" = dotted labels) : labels = [] := by
    by_contra present
    exact dotted_filled labels present (follows_filled walk) empty.symm
  generalize empty : "" = name at read
  cases read with
  | unfinished walk ends =>
      have none := noLabels walk empty
      subst none
      have back := pointers_back walk
      omega
  | @root steps last labels behind walk item =>
      have none := noLabels walk empty
      subst none
      exact ⟨steps, last, behind, walk, item, rfl⟩

theorem root_asks {payload : Bytes} (fits : payload.length ≤ isizeMax) (long : 17 ≤ payload.length)
    (root : payload.getD 12 0 = 0) : Asks payload "" 13 :=
  ⟨root_returned fits (.stay 12) (by decide) (root_iff.mpr ⟨by omega, root⟩), by omega⟩

theorem repeated_question_asks (fits : message.length + 2 ≤ isizeMax) {steps last : Nat} {labels : List Bytes}
    (repeats : RepeatedQuestion message steps last labels) :
    Asks message (dotted labels) (last + 1) ∧ Asks (framed message) (dotted labels) (last + 1) ∧
      wordAt (framed message) (last + 1) = wordAt message (last + 1) ∧
      wordAt (framed message) (last + 3) = wordAt message (last + 3) := by
  obtain ⟨walk, early, root, room, repeated⟩ := repeats
  have length := framed_length message
  have forward : 12 ≤ last := follows_forward walk (Nat.le_refl last)
  have same : ∀ i, 12 ≤ i → i < last + 5 → (framed message).getD i 0 = message.getD i 0 := by
    intro i behind before
    rw [framed_byte i (by omega), repeated i behind before]
  have framedWalk : Follows (framed message) steps 12 last labels none :=
    follows_same walk (by omega) (by omega) fun i behind before => same i behind (by omega)
  have framedRoot : nameItem (framed message) last = .root := by
    refine root_iff.mpr ⟨by omega, ?_⟩
    rw [same last forward (by omega)]
    exact (root_iff.mp root).2
  refine ⟨⟨root_returned (by omega) walk early root, by omega⟩,
    ⟨root_returned (by omega) framedWalk early framedRoot, by omega⟩, ?_, ?_⟩
  · rw [wordAt, wordAt, same (last + 1) (by omega) (by omega), same (last + 1 + 1) (by omega) (by omega)]
  · rw [wordAt, wordAt, same (last + 3) (by omega) (by omega), same (last + 3 + 1) (by omega) (by omega)]

theorem repeated_pointer_asks (fits : message.length + 2 ≤ isizeMax) (header : HeaderRepeats message)
    (repeats : RepeatedPointer message) :
    Asks message "" 14 ∧ Asks (framed message) "" 13 ∧ wordAt (framed message) 13 = wordAt message 14 ∧
      wordAt (framed message) 15 = wordAt message 16 := by
  obtain ⟨room, zero, pointer, inHeader, repeated, unnamed⟩ := repeats
  have length := framed_length message
  have small : (wordAt message 10).toNat < 256 := by
    have low := (message.getD (10 + 1) 0).toNat_lt
    rw [word_at_nat, zero]
    exact (Nat.zero_add _).symm ▸ low
  have zeros := small_words header small
  have jump : nameItem message 12 = .pointer (message.getD 13 0).toNat := by
    refine pointer_iff.mpr ⟨by omega, ?_⟩
    rw [word_at_nat, pointer]
    rfl
  obtain ⟨steps, last, behind, walk, root, few⟩ : ∃ steps last behind,
      Follows message steps (message.getD 13 0).toNat last [] behind ∧ nameItem message last = .root ∧ steps ≤ 1 := by
    rcases unnamed with ends | ⟨again, target⟩
    · exact ⟨0, _, none, .stay _, root_iff.mpr ⟨by omega, ends⟩, by omega⟩
    · have back : 0 < (message.getD 13 0).toNat := by
        apply Nat.pos_of_ne_zero
        intro first
        rw [first, zeros 0 (by simp)] at again
        cases again
      have item : nameItem message (message.getD 13 0).toNat = .pointer 0 := by
        refine pointer_iff.mpr ⟨by omega, ?_⟩
        rw [word_at_nat, again, target]
        rfl
      exact ⟨1, 0, _, .pointer item back (.stay 0), root_iff.mpr ⟨by omega, zeros 0 (by simp)⟩, by omega⟩
  have framedRoot : (framed message).getD 12 0 = 0 := by rw [framed_byte 12 (by omega), zero]
  refine ⟨⟨root_returned (by omega) (.pointer jump inHeader walk) (by omega) root, by omega⟩,
    root_asks (by omega) (by omega) framedRoot, ?_, ?_⟩
  · rw [framed_word message 11, wordAt, wordAt, ← repeated 14 (by omega) (by omega), ← repeated 15 (by omega) (by omega)]
  · rw [framed_word message 13, wordAt, wordAt, ← repeated 16 (by omega) (by omega), ← repeated 17 (by omega) (by omega)]

theorem repeated_sections_alike (fits : message.length + 2 ≤ isizeMax) (long : 12 ≤ message.length)
    (header : HeaderRepeats message) (sections : SectionsRepeat message) :
    dnsSections (framed message) (wordAt message 2) (wordAt message 4) =
      dnsSections message (wordAt message 4) (wordAt message 6) := by
  have length := framed_length message
  rw [← header.answerCount, ← header.questionCount]
  by_cases counted : wordAt message 2 = 0
  · rw [counted]
    rfl
  · have some : 1 ≤ (wordAt message 2).toNat := by
      rw [← UInt16.toNat_inj] at counted
      exact Nat.one_le_iff_ne_zero.mpr counted
    cases sections with
    | uncounted none => exact absurd none counted
    | short few =>
        rw [unasked_sections (by omega) (by omega) (short_unasked (by omega) (by omega)),
          unasked_sections (by omega) long (short_unasked (by omega) (by omega))]
    | forward first second =>
        have framedFirst : 0xC00C ≤ (wordAt (framed message) 12).toNat :=
          Nat.le_trans first (Nat.le_of_eq (congrArg UInt16.toNat (framed_word message 10).symm))
        rw [unasked_sections (by omega) (by omega) (forward_unasked (by omega) framedFirst),
          unasked_sections (by omega) long (forward_unasked (by omega) second)]
    | question crowded repeats =>
        obtain ⟨asks, framedAsks, sameType, sameClass⟩ := repeated_question_asks fits repeats
        unfold Crowded at crowded
        rw [asked_sections (by omega) (by omega) framedAsks _ _ some (by omega),
          asked_sections (by omega) long asks _ _ some (by omega), sameType, sameClass]
    | pointer crowded repeats =>
        obtain ⟨asks, framedAsks, sameType, sameClass⟩ := repeated_pointer_asks fits header repeats
        unfold Crowded at crowded
        rw [asked_sections (by omega) (by omega) framedAsks _ _ some (by omega),
          asked_sections (by omega) long asks _ _ some (by omega), sameType, sameClass]

-- A pointer into the header of a small message leads to a zero length, by one
-- more pointer at most.
theorem header_name_unnamed (zeros : ∀ i ∈ [0, 2, 4, 6, 8, 10], message.getD i 0 = 0)
    (pointer : message.getD 12 0 = 0xC0) {steps target last : Nat} {behind : Option Nat} (inHeader : target < 12)
    (walk : Follows message steps target last [] behind) (root : nameItem message last = .root) :
    message.getD target 0 = 0 ∨ message.getD target 0 = 0xC0 ∧ message.getD (target + 1) 0 = 0 := by
  cases walk with
  | stay => exact .inl (root_iff.mp root).2
  | @pointer _ _ next _ _ _ item back rest =>
      obtain ⟨-, word⟩ := pointer_iff.mp item
      have low := (message.getD (target + 1) 0).toNat_lt
      rw [word_at_nat] at word
      have first : (message.getD target 0).toNat = 192 := by omega
      have second : (message.getD (target + 1) 0).toNat = next := by omega
      refine .inr ⟨UInt8.toNat_inj.mp first, ?_⟩
      -- a pointer is no zero byte, so it stands at an odd offset, before one
      have odd : target % 2 = 1 := by
        by_contra even
        have member : target ∈ [0, 2, 4, 6, 8, 10] := by
          simp only [List.mem_cons, List.not_mem_nil, or_false]
          omega
        rw [zeros target member] at first
        cases first
      have within : target + 1 ≠ 12 := by
        intro final
        rw [final, pointer] at second
        have value : (0xC0 : UInt8).toNat = 192 := rfl
        omega
      apply zeros
      simp only [List.mem_cons, List.not_mem_nil, or_false]
      omega

-- The name is empty: a zero length, or a pointer to one.
theorem empty_question_repeats (fits : message.length + 2 ≤ isizeMax) (long : 12 < message.length)
    (crowded : Crowded message) (zeros : ∀ i ∈ [0, 2, 4, 6, 8, 10], message.getD i 0 = 0) {stop : Nat}
    (asks : Asks message "" stop)
    (sameType : message.getD 11 0 = message.getD stop 0 ∧ message.getD 12 0 = message.getD (stop + 1) 0)
    (sameClass : message.getD 13 0 = message.getD (stop + 2) 0 ∧ message.getD 14 0 = message.getD (stop + 3) 0) :
    SectionsRepeat message := by
  have zero : message.getD 10 0 = 0 := zeros 10 (by simp)
  obtain ⟨named, inside⟩ := asks
  obtain ⟨steps, last, behind, walk, root, stopEq⟩ := empty_name (by omega) long (by decide) named
  subst stopEq
  cases walk with
  | stay =>
      have first := (root_iff.mp root).2
      refine .question crowded ⟨.stay 12, by decide, root, inside, ?_⟩
      intro i behind before
      obtain rfl | rfl | rfl | rfl | rfl : i = 12 ∨ i = 13 ∨ i = 14 ∨ i = 15 ∨ i = 16 := by omega
      · rw [first]
        exact zero
      · exact sameType.1
      · exact sameType.2
      · exact sameClass.1
      · exact sameClass.2
  | @pointer _ _ target _ _ _ item back rest =>
      obtain ⟨-, word⟩ := pointer_iff.mp item
      have low := (message.getD 13 0).toNat_lt
      have bytes : (message.getD 12 0).toNat * 256 + (message.getD 13 0).toNat = 0xC000 + target :=
        (word_at_nat 12).symm.trans word
      have first : message.getD 12 0 = 0xC0 := by
        apply UInt8.toNat_inj.mp
        show _ = 192
        omega
      have second : (message.getD 13 0).toNat = target := by omega
      refine .pointer crowded ⟨inside, zero, first, by omega, ?_, ?_⟩
      · intro i behind before
        obtain rfl | rfl | rfl | rfl : i = 14 ∨ i = 15 ∨ i = 16 ∨ i = 17 := by omega
        · exact sameType.1
        · exact sameType.2
        · exact sameClass.1
        · exact sameClass.2
      · rw [second]
        exact header_name_unnamed zeros first back rest root

-- The other direction for a message of less than 256 bytes: over TCP it asks for
-- the empty name.
theorem alike_sections_repeat (fits : message.length + 2 ≤ isizeMax) (long : 12 ≤ message.length)
    (header : HeaderRepeats message) (small : message.length < 256) (crowded : Crowded message)
    (same : dnsSections (framed message) (wordAt message 2) (wordAt message 4) =
      dnsSections message (wordAt message 4) (wordAt message 6)) : SectionsRepeat message := by
  have length := framed_length message
  by_cases counted : wordAt message 2 = 0
  · exact .uncounted counted
  by_cases few : message.length ≤ 14
  · exact .short few
  have some : 1 ≤ (wordAt message 2).toNat := by
    rw [← UInt16.toNat_inj] at counted
    exact Nat.one_le_iff_ne_zero.mpr counted
  have smallWord : (wordAt message 10).toNat < 256 := by
    have flags := header.flags.1
    rw [header.id] at flags
    rw [← header.additionalCount, ← header.authorityCount, ← header.answerCount, ← header.questionCount]
    omega
  have zeros := small_words header smallWord
  have framedAsks : Asks (framed message) "" 13 :=
    root_asks (by omega) (by omega) (by rw [framed_byte 12 (by omega), zeros 10 (by simp)])
  have room := crowded
  unfold Crowded at room
  rw [← header.answerCount, ← header.questionCount,
    asked_sections (by omega) (by omega) framedAsks _ _ some (by omega)] at same
  by_cases asked : ∃ next, QuestionAt message 12 next
  case neg =>
    rw [unasked_sections (by omega) long asked] at same
    cases same
  case pos =>
    obtain ⟨next, question⟩ := asked
    obtain ⟨name, stop, asks⟩ := question_asks question
    rw [asked_sections (by omega) long asks _ _ some (by omega)] at same
    obtain ⟨noName, sameType, sameClass⟩ : "" = name ∧ wordAt (framed message) 13 = wordAt message stop ∧
        wordAt (framed message) 15 = wordAt message (stop + 2) := by simpa using same
    subst noName
    rw [framed_word message 11, wordAt, wordAt, u16_from_be_inj] at sameType
    rw [framed_word message 13, wordAt, wordAt, u16_from_be_inj] at sameClass
    exact empty_question_repeats fits (by omega) crowded zeros asks sameType sameClass

end Repetition

theorem dns_port_app {srcPort dstPort : UInt16} {payload : Bytes} {pkt : ParsedPacket} {info : DnsInfo}
    (port : srcPort = 53 ∨ dstPort = 53) (reads : ReadsApp srcPort dstPort payload pkt) :
    pkt.app = .dns info ↔ parseDns payload = .ok (some info) := by
  obtain ⟨before, after, noApp, parsed, app⟩ := reads
  rw [parseAppLayer, if_pos port] at parsed
  obtain ⟨dns, decoded, kept⟩ := bind_eq_ok parsed
  rw [app, decoded]
  cases dns with
  | none =>
      cases kept
      rw [noApp]
      simp
  | some found =>
      cases kept
      simp

def AlikeDns (first second : ParsedPacket) : Prop := ∃ info, first.app = .dns info ∧ second.app = .dns info

-- A message that repeats itself is decoded alike over TCP and UDP. No other
-- header is, and no other message of less than 256 bytes without answers.
theorem dns_alike_over_tcp (tcpData udpData : Buffer) (tcpLink udpLink : LinkType)
    (tcpMeta udpMeta : Option PacketMeta) (segment : TcpInfo) (datagram : UdpInfo) (message : Bytes)
    (overTcp : (decodePacket tcpData tcpLink tcpMeta).transport = .tcp segment)
    (overUdp : (decodePacket udpData udpLink udpMeta).transport = .udp datagram)
    (ports : segment.srcPort = datagram.srcPort ∧ segment.dstPort = datagram.dstPort)
    (dnsPort : datagram.srcPort = 53 ∨ datagram.dstPort = 53)
    (framing : segment.payload = framed message) (plain : datagram.payload = message)
    (long : 12 ≤ message.length) (short : message.length < 65536) :
    (FramingInvisible message →
      AlikeDns (decodePacket tcpData tcpLink tcpMeta) (decodePacket udpData udpLink udpMeta)) ∧
    (AlikeDns (decodePacket tcpData tcpLink tcpMeta) (decodePacket udpData udpLink udpMeta) →
      HeaderRepeats message ∧ (message.length < 256 → Crowded message → FramingInvisible message)) := by
  have fits : message.length + 2 ≤ isizeMax := Nat.le_trans (by omega : message.length + 2 ≤ 65538) (by decide)
  have tcpReads := decoded_app_from_segment tcpData tcpLink tcpMeta datagram.srcPort datagram.dstPort (framed message)
    (by rw [overTcp, TransportLayer.segment, ports.1, ports.2, framing])
  have udpReads := decoded_app_from_segment udpData udpLink udpMeta datagram.srcPort datagram.dstPort message
    (by rw [overUdp, TransportLayer.segment, plain])
  have alikeIff := same_info_iff long short
  rw [AlikeDns]
  simp only [dns_port_app dnsPort tcpReads, dns_port_app dnsPort udpReads]
  rw [alikeIff]
  constructor
  · intro invisible
    exact ⟨invisible.header, repeated_sections_alike fits long invisible.header invisible.sections⟩
  · intro alike
    obtain ⟨header, same⟩ := alike
    refine ⟨header, ?_⟩
    intro small crowded
    exact ⟨header, alike_sections_repeat fits long header small crowded same⟩

def tcpToResolver (payload : Bytes) : Bytes :=
  ethernetII (Octets.fill 6 1) (Octets.fill 6 2) 0x0800
    ([0x45, 0] ++ u16ToBe (UInt16.ofNat (40 + payload.length)) ++ [0, 0, 0, 0, 64, 6, 0, 0, 10, 0, 0, 1, 10, 0, 0, 2,
      0x30, 0x39, 0, 53, 0, 0, 0, 1, 0, 0, 0, 0, 0x50, 0x18, 0, 0, 0, 0, 0, 0] ++ payload)

def udpToResolver (payload : Bytes) : Bytes :=
  ethernetII (Octets.fill 6 1) (Octets.fill 6 2) 0x0800
    ([0x45, 0] ++ u16ToBe (UInt16.ofNat (28 + payload.length)) ++ [0, 0, 0, 0, 64, 17, 0, 0, 10, 0, 0, 1, 10, 0, 0, 2,
      0x30, 0x39, 0, 53] ++ u16ToBe (UInt16.ofNat (8 + payload.length)) ++ [0, 0] ++ payload)

def resolverSegment (payload : Bytes) : TcpInfo :=
  ⟨12345, 53, 1, 0, 5, 0, 0x18, 0, 0, 0, TcpOptions.default, payload⟩

def resolverDatagram (payload : Bytes) : UdpInfo := ⟨12345, 53, UInt16.ofNat (8 + payload.length), 0, payload⟩

-- A message of 17 bytes with a question for the empty name, every word of which
-- is 1 but for the id.
def selfRepeating : Bytes := [0, 17, 0, 1, 0, 1, 0, 1, 0, 1, 0, 1, 0, 1, 0, 1, 0]

theorem self_repeating_invisible : FramingInvisible selfRepeating where
  header := ⟨rfl, ⟨rfl, rfl⟩, rfl, rfl, rfl, rfl⟩
  sections := by
    refine .question (by unfold Crowded; decide) ⟨.stay 12, by decide, rfl, by decide, ?_⟩
    intro i behind before
    obtain rfl | rfl | rfl | rfl | rfl : i = 12 ∨ i = 13 ∨ i = 14 ∨ i = 15 ∨ i = 16 := by omega
    all_goals rfl

theorem self_repeating_alike :
    AlikeDns (decodePacket ⟨tcpToResolver (framed selfRepeating), by decide⟩ .ethernet none)
      (decodePacket ⟨udpToResolver selfRepeating, by decide⟩ .ethernet none) :=
  (dns_alike_over_tcp ⟨tcpToResolver (framed selfRepeating), by decide⟩ ⟨udpToResolver selfRepeating, by decide⟩
    .ethernet .ethernet none none (resolverSegment (framed selfRepeating)) (resolverDatagram selfRepeating)
    selfRepeating (by decide +kernel) (by decide +kernel) ⟨rfl, rfl⟩ (.inr rfl) rfl rfl (by decide) (by decide)).1
    self_repeating_invisible

def addressQuery : Bytes := [0x12, 0x34, 1, 0, 0, 1, 0, 0, 0, 0, 0, 0, 1, 0x61, 0, 0, 1, 0, 1]

theorem query_not_alike :
    ¬ ∀ (tcpData udpData : Buffer) (segment : TcpInfo) (datagram : UdpInfo) (message : Bytes),
      (decodePacket tcpData .ethernet none).transport = .tcp segment →
      (decodePacket udpData .ethernet none).transport = .udp datagram →
      segment.srcPort = datagram.srcPort ∧ segment.dstPort = datagram.dstPort →
      datagram.srcPort = 53 ∨ datagram.dstPort = 53 →
      segment.payload = framed message → datagram.payload = message → 12 ≤ message.length → message.length < 65536 →
      ∃ info, (decodePacket tcpData .ethernet none).app = .dns info ∧
        (decodePacket udpData .ethernet none).app = .dns info := by
  intro alike
  obtain ⟨info, overTcp, overUdp⟩ := alike ⟨tcpToResolver (framed addressQuery), by decide⟩
    ⟨udpToResolver addressQuery, by decide⟩ (resolverSegment (framed addressQuery)) (resolverDatagram addressQuery)
    addressQuery (by decide +kernel) (by decide +kernel) ⟨rfl, rfl⟩ (.inr rfl) rfl rfl (by decide) (by decide)
  exact absurd (overTcp.trans overUdp.symm) (by decide +kernel)

end NetworkIds.Parser
