import NetworkIds.Parser.DnsFields
import NetworkIds.Parser.DnsNames

set_option autoImplicit false

namespace NetworkIds.Parser

open Checked Endian

inductive NameRead (payload : Bytes) (start : Nat) : Nat → String → Nat → Prop where
  | unfinished {rounds last : Nat} {labels : List Bytes} {behind : Option Nat}
      (walk : Follows payload rounds start last labels behind) (ends : rounds = 128 ∨ payload.length ≤ last) :
      NameRead payload start rounds (dotted labels) (behind.getD last)
  | root {steps last : Nat} {labels : List Bytes} {behind : Option Nat}
      (walk : Follows payload steps start last labels behind) (item : nameItem payload last = .root) :
      NameRead payload start (steps + 1) (dotted labels) (behind.getD (last + 1))

def QuestionAt (payload : Bytes) (start next : Nat) : Prop :=
  ∃ name stop, parseDnsName payload start = .ok (some (name, stop)) ∧ next = stop + 4 ∧ next ≤ payload.length

inductive QuestionsRead (payload : Bytes) : Nat → Nat → Nat → Prop where
  | none (offset : Nat) : QuestionsRead payload 0 offset offset
  | question {read start next last : Nat} (first : QuestionAt payload start next)
      (rest : QuestionsRead payload read next last) : QuestionsRead payload (read + 1) start last

def AnswerAt (payload : Bytes) (start : Nat) (record : DnsRecord) (place next : Nat) : Prop :=
  ∃ stop, parseDnsName payload start = .ok (some (record.name, stop)) ∧ place = stop + 10 ∧
    slice payload place next = .ok record.rdata

inductive AnswersRead (payload : Bytes) : List DnsRecord → List (Nat × Nat) → Nat → Nat → Prop where
  | none (offset : Nat) : AnswersRead payload [] [] offset offset
  | answer {record : DnsRecord} {records : List DnsRecord} {parts : List (Nat × Nat)} {start place next last : Nat}
      (first : AnswerAt payload start record place next) (rest : AnswersRead payload records parts next last) :
      AnswersRead payload (record :: records) ((place, next) :: parts) start last

section

variable {payload : Bytes}

-- A walk may jump backward, but its first step fixes an end behind its start or
-- leads forward.
theorem follows_forward {steps offset last stop : Nat} {labels : List Bytes} {behind : Option Nat}
    (walk : Follows payload steps offset last labels behind) (later : last ≤ stop) : offset ≤ behind.getD stop := by
  induction walk with
  | stay offset => exact later
  | pointer item back rest ih =>
      rw [Option.getD_some]
      omega
  | label item rest ih =>
      have next := ih later
      omega

theorem follows_advances {steps offset last stop : Nat} {labels : List Bytes} {behind : Option Nat}
    (walk : Follows payload steps offset last labels behind) (moved : 0 < steps) (later : last ≤ stop) :
    offset < behind.getD stop := by
  cases walk with
  | stay offset => omega
  | pointer item back rest =>
      rw [Option.getD_some]
      omega
  | label item rest =>
      have next := follows_forward rest later
      omega

theorem name_read_forward {start rounds stop : Nat} {name : String} (read : NameRead payload start rounds name stop) :
    start ≤ stop := by
  cases read with
  | unfinished walk ends => exact follows_forward walk (Nat.le_refl _)
  | root walk item => exact follows_forward walk (Nat.le_succ _)

theorem name_read_advances {start rounds stop : Nat} {name : String} (read : NameRead payload start rounds name stop)
    (inside : start < payload.length) : start < stop := by
  cases read with
  | @unfinished rounds last labels behind walk ends =>
      have moved : 0 < rounds := by
        cases walk with
        | stay => omega
        | pointer item back rest => exact Nat.succ_pos _
        | label item rest => exact Nat.succ_pos _
      exact follows_advances walk moved (Nat.le_refl last)
  | @root steps last labels behind walk item =>
      cases walk with
      | stay => exact Nat.lt_succ_self start
      | pointer other back rest => exact follows_advances (.pointer other back rest) (Nat.succ_pos _) (Nat.le_succ last)
      | label other rest => exact follows_advances (.label other rest) (Nat.succ_pos _) (Nat.le_succ last)

theorem name_returned_iff (fits : payload.length ≤ isizeMax) (start : Nat) (name : String) (stop : Nat) :
    parseDnsName payload start = .ok (some (name, stop)) ↔
      ∃ rounds, rounds ≤ 128 ∧ NameRead payload start rounds name stop := by
  constructor
  · intro returned
    obtain ⟨steps, last, labels, behind, walk, within, ends⟩ := walk_until payload 128 start
    by_cases unfinished : steps = 128 ∨ payload.length ≤ last
    · rw [unfinished_returned fits walk within unfinished] at returned
      cases returned
      exact ⟨steps, within, .unfinished walk unfinished⟩
    · obtain ⟨early, inside⟩ := not_or.mp unfinished
      rcases ends.resolve_left early with outside | stuck
      · exact absurd (outside_iff.mp outside) inside
      · by_cases root : nameItem payload last = .root
        · rw [root_returned fits walk (by omega) root] at returned
          cases returned
          exact ⟨steps + 1, by omega, .root walk root⟩
        · rw [walk_runs fits walk (by omega)] at returned
          rcases stuck with cut | zero | ⟨target, pointer, forward⟩
          · rw [cut] at returned
            cases returned
          · exact absurd zero root
          · rw [pointer, nameRound, if_neg (by omega)] at returned
            cases returned
  · rintro ⟨rounds, within, read⟩
    cases read with
    | unfinished walk ends => exact unfinished_returned fits walk within ends
    | root walk item => exact root_returned fits walk (by omega) item

theorem question_advances (fits : payload.length ≤ isizeMax) {start next : Nat} (question : QuestionAt payload start next) :
    start + 5 ≤ next ∧ next ≤ payload.length := by
  obtain ⟨name, stop, named, rfl, inside⟩ := question
  obtain ⟨rounds, -, read⟩ := (name_returned_iff fits start name stop).mp named
  have forward := name_read_forward read
  have advanced := name_read_advances read (by omega)
  omega

theorem questions_advance (fits : payload.length ≤ isizeMax) {read start last : Nat}
    (questions : QuestionsRead payload read start last) (inside : start ≤ payload.length) :
    start + 5 * read ≤ last ∧ last ≤ payload.length := by
  induction questions with
  | none offset => exact ⟨Nat.le_refl offset, inside⟩
  | question first rest ih =>
      have advanced := question_advances fits first
      have later := ih advanced.2
      omega

theorem answer_advances (fits : payload.length ≤ isizeMax) {start place next : Nat} {record : DnsRecord}
    (answer : AnswerAt payload start record place next) : start + 11 ≤ place ∧ place ≤ next ∧ next ≤ payload.length := by
  obtain ⟨stop, named, rfl, rdata⟩ := answer
  obtain ⟨ordered, inside⟩ := slice_bounds rdata
  obtain ⟨rounds, -, read⟩ := (name_returned_iff fits start record.name stop).mp named
  have forward := name_read_forward read
  have advanced := name_read_advances read (by omega)
  omega

theorem answers_advance (fits : payload.length ≤ isizeMax) {records : List DnsRecord} {parts : List (Nat × Nat)}
    {start last : Nat} (answers : AnswersRead payload records parts start last) (inside : start ≤ payload.length) :
    start + 11 * records.length ≤ last ∧ last ≤ payload.length := by
  induction answers with
  | none offset => exact ⟨Nat.le_refl offset, inside⟩
  | answer first rest ih =>
      have advanced := answer_advances fits first
      have later := ih advanced.2.2
      rw [List.length_cons]
      omega

theorem answers_rdata {records : List DnsRecord} {parts : List (Nat × Nat)} {start last : Nat}
    (answers : AnswersRead payload records parts start last) :
    List.Forall₂ (fun record part => slice payload part.1 part.2 = .ok record.rdata) records parts := by
  induction answers with
  | none offset => exact .nil
  | answer first rest ih =>
      obtain ⟨stop, named, behind, rdata⟩ := first
      exact .cons rdata ih

-- Every part begins behind the one before it, with a name and ten bytes in between.
theorem answers_apart (fits : payload.length ≤ isizeMax) {records : List DnsRecord} {parts : List (Nat × Nat)}
    {start last : Nat} (answers : AnswersRead payload records parts start last) :
    (∀ part ∈ parts, start + 11 ≤ part.1) ∧ parts.Pairwise (fun earlier later => earlier.2 < later.1) := by
  induction answers with
  | none offset => exact ⟨by simp, .nil⟩
  | @answer record records parts start place next last first rest ih =>
      have advanced := answer_advances fits first
      constructor
      · intro part member
        rcases List.mem_cons.mp member with rfl | later
        · exact advanced.1
        · have behind := ih.1 part later
          omega
      · refine .cons ?_ ih.2
        intro part later
        have behind := ih.1 part later
        dsimp only
        omega

theorem questions_walk (fits : payload.length ≤ isizeMax) (count : Nat) (state : DnsQuestions)
    (inside : state.offset ≤ payload.length) :
    Safe (parseDnsQuestions payload count state) (fun result => ∃ read, read ≤ count ∧
      QuestionsRead payload read state.offset result.offset ∧
      (read = count ∨ ¬ ∃ next, QuestionAt payload result.offset next)) := by
  have room := usize_room fits 256 (by omega)
  induction count generalizing state with
  | zero => exact safe_ok ⟨0, Nat.le_refl 0, .none _, .inl rfl⟩
  | succ count ih =>
      rw [parseDnsQuestions]
      obtain ⟨returned, named, bounded⟩ := dns_name_safe payload fits state.offset inside
      rw [named, ok_bind]
      cases returned with
      | none =>
          refine safe_ok ⟨0, Nat.zero_le _, .none _, .inr ?_⟩
          rintro ⟨next, name, stop, other, -⟩
          rw [named] at other
          cases other
      | some found =>
          obtain ⟨name, stop⟩ := found
          have stopInside := bounded name stop rfl
          simp (disch := omega) only [add_ok, ok_bind]
          by_cases whole : stop + 4 ≤ payload.length
          · simp (disch := omega) only [if_pos whole, index_getD, index_add_getD, ok_bind]
            generalize continued : (if state.query.isNone = true then _ else _ : DnsQuestions) = next
            have offset : next.offset = stop + 4 := by
              rw [← continued]
              split
              · rfl
              · rfl
            refine safe_mono (ih next (by omega)) ?_
            rintro result ⟨read, within, rest, ended⟩
            rw [offset] at rest
            exact ⟨read + 1, by omega, .question ⟨name, stop, named, rfl, whole⟩ rest, ended.imp_left (by omega)⟩
          · rw [if_neg whole]
            refine safe_ok ⟨0, Nat.zero_le _, .none _, .inr ?_⟩
            rintro ⟨next, otherName, otherStop, other, rfl, room⟩
            rw [named] at other
            cases other
            exact whole room

theorem answers_walk (fits : payload.length ≤ isizeMax) (count offset : Nat) (before : List DnsRecord)
    (inside : offset ≤ payload.length) :
    Safe (parseDnsAnswers payload count offset before) (fun answers => ∃ records parts last,
      answers = before ++ records ∧ AnswersRead payload records parts offset last) := by
  have room := usize_room fits 65546 (by omega)
  have nothing (offset : Nat) (before : List DnsRecord) :
      ∃ records parts last, before = before ++ records ∧ AnswersRead payload records parts offset last :=
    ⟨[], [], offset, by simp, .none offset⟩
  induction count generalizing offset before with
  | zero => exact safe_ok (nothing offset before)
  | succ count ih =>
      rw [parseDnsAnswers]
      obtain ⟨returned, named, bounded⟩ := dns_name_safe payload fits offset inside
      rw [named, ok_bind]
      cases returned with
      | none => exact safe_ok (nothing offset before)
      | some found =>
          obtain ⟨name, stop⟩ := found
          have stopInside := bounded name stop rfl
          have rdlenBound := (u16FromBe (payload.getD (stop + 8) 0) (payload.getD (stop + 9) 0)).toNat_lt
          simp (disch := omega) only [add_ok, ok_bind]
          by_cases whole : stop + 10 ≤ payload.length
          · simp (disch := omega) only [if_pos whole, index_getD, index_add_getD, add_ok, ok_bind]
            generalize (u16FromBe (payload.getD (stop + 8) 0) (payload.getD (stop + 9) 0)).toNat = rdlen at rdlenBound ⊢
            by_cases present : stop + 10 + rdlen ≤ payload.length
            · have rdata : slice payload (stop + 10) (stop + 10 + rdlen) = .ok _ := slice_ok (Nat.le_add_right _ _) present
              rw [if_pos present, rdata, ok_bind]
              refine safe_mono (ih _ _ present) ?_
              rintro answers ⟨records, parts, last, rfl, rest⟩
              exact ⟨_, _, last, List.append_assoc _ _ _, .answer ⟨stop, named, rfl, rdata⟩ rest⟩
            · rw [if_neg present]
              exact safe_ok (nothing offset before)
          · rw [if_neg whole]
            exact safe_ok (nothing offset before)

-- What parse_dns reads of a message: its questions up to an offset, and behind
-- them the answers, whose rdata are these parts of the payload.
structure SectionsWalk (payload : Bytes) (info : DnsInfo) (read behind : Nat) (parts : List (Nat × Nat)) : Prop where
  questions : parseDnsQuestions payload info.questionCount.toNat ⟨12, none, none, none⟩ =
    .ok ⟨behind, info.query, info.queryType, info.queryClass⟩
  questionsRead : QuestionsRead payload read 12 behind
  questionsEnd : read = info.questionCount.toNat ∨ ¬ ∃ next, QuestionAt payload behind next
  fewQuestions : read ≤ (payload.length - 12) / 5
  answersRead : ∃ last, AnswersRead payload info.answers parts behind last
  fewAnswers : info.answers.length ≤ (payload.length - 12) / 11
  rdata : List.Forall₂ (fun record part => slice payload part.1 part.2 = .ok record.rdata) info.answers parts
  apart : parts.Pairwise (fun earlier later => earlier.2 < later.1)

theorem sections_walk (fits : payload.length ≤ isizeMax) {query : Option String} {queryType queryClass : Option UInt16}
    {answers : List DnsRecord} (long : 12 ≤ payload.length)
    (sections : dnsSections payload (wordAt payload 4) (wordAt payload 6) = .ok (query, queryType, queryClass, answers)) :
    ∃ read behind parts, SectionsWalk payload (dnsInfo payload query queryType queryClass answers) read behind parts := by
  obtain ⟨questions, asked, read, -, questionsRead, ended⟩ :=
    questions_walk fits (wordAt payload 4).toNat ⟨12, none, none, none⟩ long
  have walked : 12 + 5 * read ≤ questions.offset ∧ questions.offset ≤ payload.length :=
    questions_advance fits questionsRead long
  obtain ⟨found, answered, records, parts, last, split, answersRead⟩ :=
    answers_walk fits (wordAt payload 6).toNat questions.offset [] walked.2
  have advanced := answers_advance fits answersRead walked.2
  rw [dnsSections, asked, ok_bind, answered, ok_bind, split] at sections
  cases sections
  refine ⟨read, questions.offset, parts, asked, questionsRead, ended, ?_, ⟨last, answersRead⟩, ?_,
    answers_rdata answersRead, (answers_apart fits answersRead).2⟩
  · omega
  · have shown : (dnsInfo payload questions.query questions.queryType questions.queryClass ([] ++ records)).answers =
        records := rfl
    rw [shown]
    omega

end

-- Every name moves on, and so the sections of a message are as few as the
-- payload has room for, whatever its count fields say.
theorem dns_sections_progress (payload : Buffer) :
    (∀ start name stop, start < payload.bytes.length →
      parseDnsName payload.bytes start = .ok (some (name, stop)) →
      start < stop ∧ stop ≤ payload.bytes.length ∧
        ∃ rounds, rounds ≤ 128 ∧ NameRead payload.bytes start rounds name stop) ∧
    ∃ result, parseDns payload.bytes = .ok result ∧
      ∀ info, result = some info → ∃ read behind parts, SectionsWalk payload.bytes info read behind parts := by
  constructor
  · intro start name stop inside returned
    obtain ⟨rounds, within, read⟩ := (name_returned_iff payload.fits start name stop).mp returned
    have bounded := safe_result (dns_name_safe payload.bytes payload.fits start (by omega)) returned
    exact ⟨name_read_advances read inside, bounded name stop rfl, rounds, within, read⟩
  · by_cases long : 12 ≤ payload.bytes.length
    · obtain ⟨query, queryType, queryClass, answers, sections, parsed⟩ := dns_decodes payload.bytes payload.fits long
      refine ⟨_, parsed, ?_⟩
      rintro info ⟨⟩
      exact sections_walk payload.fits long sections
    · refine ⟨none, ?_, by simp⟩
      rw [parseDns, if_pos (by omega)]
      rfl

end NetworkIds.Parser
