import NetworkIds.Parser.Dns
import Mathlib.Data.List.Induction

set_option autoImplicit false

namespace NetworkIds.Parser

open Checked Utf8

-- What stands at an offset of a message. A length byte that does not mark a
-- pointer announces a label.
inductive NameItem where
  | outside
  | cut
  | root
  | label (text : Bytes)
  | pointer (target : Nat)

def nameItem (payload : Bytes) (offset : Nat) : NameItem :=
  let labelLen := (payload.getD offset 0).toNat
  if payload.length ≤ offset then .outside
  else if labelLen = 0 then .root
  else if labelLen &&& 0xC0 = 0xC0 then
    if offset + 2 > payload.length then .cut
    else .pointer ((labelLen &&& 0x3F) <<< 8 ||| (payload.getD (offset + 1) 0).toNat)
  else if offset + 1 + labelLen > payload.length then .cut
  else .label ((payload.take (offset + 1 + labelLen)).drop (offset + 1))

theorem pointer_bits (high low : Nat) (highBound : high < 64) (lowBound : low < 256) :
    (192 + high) &&& 0xC0 = 0xC0 ∧ ((192 + high) &&& 0x3F) <<< 8 ||| low = high * 256 + low := by
  have bits : ∀ n, n < 64 → (192 + n) &&& 0xC0 = 0xC0 ∧ (192 + n) &&& 0x3F = n := by decide +kernel
  obtain ⟨marked, rest⟩ := bits high highBound
  refine ⟨marked, ?_⟩
  rw [rest, ← Nat.shiftLeft_add_eq_or_of_lt lowBound, Nat.shiftLeft_eq]

-- The labels from an offset to a zero length, and the offset behind the first
-- zero length or pointer.
inductive CompleteName (payload : Bytes) : Nat → List Bytes → Nat → Prop where
  | root {offset : Nat} (item : nameItem payload offset = .root) : CompleteName payload offset [] (offset + 1)
  | pointer {offset target stop : Nat} {labels : List Bytes} (item : nameItem payload offset = .pointer target)
      (rest : CompleteName payload target labels stop) : CompleteName payload offset labels (offset + 2)
  | label {offset stop : Nat} {text : Bytes} {labels : List Bytes} (item : nameItem payload offset = .label text)
      (rest : CompleteName payload (offset + 1 + text.length) labels stop) :
      CompleteName payload offset (text :: labels) stop

-- A number of steps over labels and backward pointers: where they lead, the
-- labels on the way, and the offset behind the first pointer.
inductive Follows (payload : Bytes) : Nat → Nat → Nat → List Bytes → Option Nat → Prop where
  | stay (offset : Nat) : Follows payload 0 offset offset [] none
  | pointer {steps offset target last : Nat} {labels : List Bytes} {behind : Option Nat}
      (item : nameItem payload offset = .pointer target) (back : target < offset)
      (rest : Follows payload steps target last labels behind) :
      Follows payload (steps + 1) offset last labels (some (offset + 2))
  | label {steps offset last : Nat} {text : Bytes} {labels : List Bytes} {behind : Option Nat}
      (item : nameItem payload offset = .label text)
      (rest : Follows payload steps (offset + 1 + text.length) last labels behind) :
      Follows payload (steps + 1) offset last (text :: labels) behind

def appendLabel (domain : String) (text : Bytes) : String :=
  (if domain.isEmpty then domain else domain.push '.') ++ fromUtf8Lossy text

def dotted (labels : List Bytes) : String := ".".intercalate (labels.map fromUtf8Lossy)

def nameRound (payload : Bytes) (remaining : Nat) (domain : String) (offset : Nat) (jumped : Bool) (endOffset : Nat) :
    NameItem → Checked (Option (String × Nat))
  | .outside => .ok (some (domain, endOffset))
  | .cut => .ok none
  | .root => .ok (some (domain, if jumped then endOffset else offset + 1))
  | .label text =>
      dnsNameLoop payload remaining (appendLabel domain text) (offset + 1 + text.length) jumped
        (if jumped then endOffset else offset + 1 + text.length)
  | .pointer target =>
      if target < offset then
        dnsNameLoop payload remaining domain target true (if jumped then endOffset else offset + 2)
      else .ok none

theorem name_loop_round (payload : Bytes) (fits : payload.length ≤ isizeMax) (remaining : Nat) (domain : String)
    (offset : Nat) (jumped : Bool) (endOffset : Nat) :
    dnsNameLoop payload (remaining + 1) domain offset jumped endOffset =
      nameRound payload remaining domain offset jumped endOffset (nameItem payload offset) := by
  have room := usize_room fits 256 (by omega)
  rw [dnsNameLoop, nameItem]
  dsimp only
  by_cases outside : payload.length ≤ offset
  · rw [if_neg (by omega), if_pos outside]
    rfl
  · have labelBound := (payload.getD offset 0).toNat_lt
    rw [if_pos (by omega), if_neg outside, index_getD (by omega), ok_bind]
    by_cases root : (payload.getD offset 0).toNat = 0
    · rw [if_pos root, if_pos root, nameRound, add_ok (by omega), ok_bind]
      cases jumped
      · rfl
      · rfl
    · rw [if_neg root, if_neg root]
      by_cases pointer : (payload.getD offset 0).toNat &&& 0xC0 = 0xC0
      · rw [if_pos pointer, if_pos pointer, add_ok (by omega), ok_bind]
        by_cases cut : offset + 2 > payload.length
        · rw [if_pos cut, if_pos cut]
          rfl
        · rw [if_neg cut, if_neg cut, index_add_getD (by omega) fits, ok_bind, nameRound]
          generalize ((payload.getD offset 0).toNat &&& 0x3F) <<< 8 ||| (payload.getD (offset + 1) 0).toNat = target
          by_cases back : target < offset
          · rw [if_neg (by omega), if_pos back]
          · rw [if_pos (by omega), if_neg back]
            rfl
      · rw [if_neg pointer, if_neg pointer]
        simp (disch := omega) only [add_ok, ok_bind]
        by_cases cut : offset + 1 + (payload.getD offset 0).toNat > payload.length
        · rw [if_pos cut, if_pos cut]
          rfl
        · have length := slice_length payload (offset + 1) (offset + 1 + (payload.getD offset 0).toNat) (by omega)
          rw [if_neg cut, if_neg cut, slice_ok (by omega) (by omega), ok_bind, nameRound, length]
          have next : offset + 1 + (offset + 1 + (payload.getD offset 0).toNat - (offset + 1)) =
              offset + (1 + (payload.getD offset 0).toNat) := by omega
          rw [next]
          rfl

section

variable {payload : Bytes}

-- The end offset tracks the walk until the first pointer.
theorem follows_runs (fits : payload.length ≤ isizeMax) {steps offset last : Nat} {labels : List Bytes}
    {behind : Option Nat} (walk : Follows payload steps offset last labels behind) (remaining : Nat) (domain : String)
    (jumped : Bool) (endOffset : Nat) (settled : jumped = false → endOffset = offset) :
    dnsNameLoop payload (steps + remaining) domain offset jumped endOffset =
      dnsNameLoop payload remaining (labels.foldl appendLabel domain) last (jumped || behind.isSome)
        (if jumped then endOffset else behind.getD last) := by
  induction walk generalizing domain jumped endOffset with
  | stay offset =>
      cases jumped with
      | true => simp
      | false => simp [settled rfl]
  | @pointer steps offset target last labels behind item back rest ih =>
      rw [Nat.add_right_comm, name_loop_round payload fits, item, nameRound, if_pos back]
      rw [ih domain true (if jumped then endOffset else offset + 2) (by simp)]
      cases jumped with
      | true => simp
      | false => simp
  | @label steps offset last text labels behind item rest ih =>
      rw [Nat.add_right_comm, name_loop_round payload fits, item, nameRound]
      rw [ih (appendLabel domain text) jumped (if jumped then endOffset else offset + 1 + text.length)
        (by intro fresh; simp [fresh]), List.foldl_cons]
      cases jumped with
      | true => simp
      | false => simp

def Halts (payload : Bytes) (offset : Nat) : Prop :=
  nameItem payload offset = .outside ∨ nameItem payload offset = .cut ∨ nameItem payload offset = .root ∨
    ∃ target, nameItem payload offset = .pointer target ∧ offset ≤ target

theorem walk_until (payload : Bytes) (remaining offset : Nat) :
    ∃ steps last labels behind, Follows payload steps offset last labels behind ∧ steps ≤ remaining ∧
      (steps = remaining ∨ Halts payload last) := by
  induction remaining generalizing offset with
  | zero => exact ⟨0, offset, [], none, .stay offset, Nat.le_refl 0, .inl rfl⟩
  | succ remaining ih =>
      cases item : nameItem payload offset with
      | outside => exact ⟨0, offset, [], none, .stay offset, Nat.zero_le _, .inr (.inl item)⟩
      | cut => exact ⟨0, offset, [], none, .stay offset, Nat.zero_le _, .inr (.inr (.inl item))⟩
      | root => exact ⟨0, offset, [], none, .stay offset, Nat.zero_le _, .inr (.inr (.inr (.inl item)))⟩
      | label text =>
          obtain ⟨steps, last, labels, behind, walk, within, ends⟩ := ih (offset + 1 + text.length)
          exact ⟨steps + 1, last, text :: labels, behind, .label item walk, by omega, ends.imp_left (by omega)⟩
      | pointer target =>
          by_cases back : target < offset
          · obtain ⟨steps, last, labels, behind, walk, within, ends⟩ := ih target
            exact ⟨steps + 1, last, labels, some (offset + 2), .pointer item back walk, by omega,
              ends.imp_left (by omega)⟩
          · exact ⟨0, offset, [], none, .stay offset, Nat.zero_le _,
              .inr (.inr (.inr (.inr ⟨target, item, by omega⟩)))⟩

theorem follows_complete {steps offset last stop : Nat} {labels rest : List Bytes} {behind : Option Nat}
    (walk : Follows payload steps offset last labels behind) (complete : CompleteName payload last rest stop) :
    CompleteName payload offset (labels ++ rest) (behind.getD stop) := by
  induction walk with
  | stay offset => exact complete
  | pointer item back walk ih => exact .pointer item (ih complete)
  | label item walk ih => exact .label item (ih complete)

-- There is one name at an offset, so a walk is the beginning of it.
theorem complete_follows {steps offset last stop : Nat} {labels all : List Bytes} {behind : Option Nat}
    (walk : Follows payload steps offset last labels behind) (complete : CompleteName payload offset all stop) :
    ∃ rest later, all = labels ++ rest ∧ CompleteName payload last rest later ∧ stop = behind.getD later := by
  induction walk generalizing all stop with
  | stay offset => exact ⟨all, stop, rfl, complete, rfl⟩
  | pointer item back walk ih =>
      cases complete with
      | root other => rw [item] at other; cases other
      | label other rest => rw [item] at other; cases other
      | pointer other rest =>
          rw [item] at other
          cases other
          obtain ⟨remaining, later, split, found, -⟩ := ih rest
          exact ⟨remaining, later, split, found, rfl⟩
  | label item walk ih =>
      cases complete with
      | root other => rw [item] at other; cases other
      | pointer other rest => rw [item] at other; cases other
      | label other rest =>
          rw [item] at other
          cases other
          obtain ⟨remaining, later, split, found, stopEq⟩ := ih rest
          exact ⟨remaining, later, by rw [split]; rfl, found, stopEq⟩

theorem complete_inside {offset stop : Nat} {labels : List Bytes} (complete : CompleteName payload offset labels stop) :
    offset < stop := by
  induction complete with
  | root item => omega
  | pointer item rest ih => omega
  | label item rest ih => omega

theorem label_filled {offset : Nat} {text : Bytes} (item : nameItem payload offset = .label text) : text ≠ [] := by
  unfold nameItem at item
  dsimp only at item
  split at item
  · cases item
  · split at item
    · cases item
    · split at item
      · split at item
        · cases item
        · cases item
      · split at item
        · cases item
        · rename_i root pointer cut
          have length := slice_length payload (offset + 1) (offset + 1 + (payload.getD offset 0).toNat) (by omega)
          cases item
          apply List.ne_nil_of_length_pos
          omega

theorem outside_iff {offset : Nat} : nameItem payload offset = .outside ↔ payload.length ≤ offset := by
  rw [nameItem]
  by_cases outside : payload.length ≤ offset
  · simp [outside]
  · rw [if_neg outside]
    simp only [outside, iff_false]
    split
    · simp
    · split
      · split
        · simp
        · simp
      · split
        · simp
        · simp

theorem complete_filled {offset stop : Nat} {labels : List Bytes} (complete : CompleteName payload offset labels stop) :
    ∀ text ∈ labels, text ≠ [] := by
  induction complete with
  | root item => simp
  | pointer item rest ih => exact ih
  | label item rest ih =>
      intro text member
      rcases List.mem_cons.mp member with rfl | later
      · exact label_filled item
      · exact ih text later

theorem follows_filled {steps offset last : Nat} {labels : List Bytes} {behind : Option Nat}
    (walk : Follows payload steps offset last labels behind) : ∀ text ∈ labels, text ≠ [] := by
  induction walk with
  | stay offset => simp
  | pointer item back walk ih => exact ih
  | label item walk ih =>
      intro text member
      rcases List.mem_cons.mp member with rfl | later
      · exact label_filled item
      · exact ih text later

end

theorem lossy_filled {text : Bytes} (filled : text ≠ []) : fromUtf8Lossy text ≠ "" := by
  intro empty
  cases text with
  | nil => exact filled rfl
  | cons byte rest =>
      have chars := congrArg String.toList empty
      rw [fromUtf8Lossy, String.toList_ofList] at chars
      cases chars

theorem dotted_cons (text : Bytes) (labels : List Bytes) (filled : labels ≠ []) :
    dotted (text :: labels) = fromUtf8Lossy text ++ "." ++ dotted labels :=
  String.intercalate_cons_of_ne_nil (by simp [filled])

theorem dotted_filled (labels : List Bytes) (present : labels ≠ []) (filled : ∀ text ∈ labels, text ≠ []) :
    dotted labels ≠ "" := by
  cases labels with
  | nil => exact absurd rfl present
  | cons text rest =>
      have first := lossy_filled (filled text (by simp))
      cases rest with
      | nil => exact first
      | cons next rest =>
          rw [dotted_cons text (next :: rest) (by simp)]
          simp [first]

theorem dotted_append (labels rest : List Bytes) (present : labels ≠ []) (more : rest ≠ []) :
    dotted (labels ++ rest) = dotted labels ++ "." ++ dotted rest := by
  rw [dotted, List.map_append]
  exact String.intercalate_append_of_ne_nil (by simp [present]) (by simp [more])

theorem labels_join (labels : List Bytes) (filled : ∀ text ∈ labels, text ≠ []) :
    labels.foldl appendLabel "" = dotted labels := by
  induction labels using List.reverseRecOn with
  | nil => rfl
  | append_singleton labels text ih =>
      have before : ∀ text ∈ labels, text ≠ [] := fun other member => filled other (by simp [member])
      rw [List.foldl_append, ih before, List.foldl_cons, List.foldl_nil, appendLabel]
      by_cases first : labels = []
      · rw [first]
        simp [dotted]
      · have named := dotted_filled labels first before
        rw [dotted_append labels [text] first (by simp), if_neg (by simpa using named), String.push_eq_append]
        simp [dotted]

theorem dotted_longer (labels rest : List Bytes) (filled : ∀ text ∈ labels ++ rest, text ≠ [])
    (same : dotted labels = dotted (labels ++ rest)) : rest = [] := by
  by_contra more
  by_cases first : labels = []
  · rw [first, List.nil_append] at same
    exact dotted_filled rest more (fun text member => filled text (by simp [member])) same.symm
  · have length := congrArg String.length same
    rw [dotted_append labels rest first more, String.length_append, String.length_append] at length
    have dot : ".".length = 1 := rfl
    omega

def NameSound (payload : Bytes) (start : Nat) : Prop :=
  (∀ name stop, parseDnsName payload start = .ok (some (name, stop)) →
    ∃ labels, CompleteName payload start labels stop ∧ name = dotted labels) ∧
  ((¬ ∃ labels stop, CompleteName payload start labels stop) → parseDnsName payload start = .ok none)

-- The loop is not left half-way: the walk does not end at the end of the
-- payload, and where it takes all 128 rounds, a pointer fixed the end offset
-- and no label is left to read.
def NeverCutShort (payload : Bytes) (start : Nat) : Prop :=
  ∀ steps last labels behind, Follows payload steps start last labels behind → steps ≤ 128 →
    steps = 128 ∨ payload.length ≤ last → behind.isSome ∧ ∃ stop, CompleteName payload last [] stop

section

variable {payload : Bytes}

theorem unfinished_returned (fits : payload.length ≤ isizeMax) {start steps last : Nat} {labels : List Bytes}
    {behind : Option Nat} (walk : Follows payload steps start last labels behind) (within : steps ≤ 128)
    (unfinished : steps = 128 ∨ payload.length ≤ last) :
    parseDnsName payload start = .ok (some (dotted labels, behind.getD last)) := by
  have runs := follows_runs fits walk (128 - steps) "" false start (fun _ => rfl)
  have total : steps + (128 - steps) = 128 := by omega
  rw [total, labels_join labels (follows_filled walk)] at runs
  rw [parseDnsName, runs]
  cases remaining : 128 - steps with
  | zero => rfl
  | succ remaining =>
      rw [dnsNameLoop, if_neg (by omega)]
      rfl

theorem walk_runs (fits : payload.length ≤ isizeMax) {start steps last : Nat} {labels : List Bytes}
    {behind : Option Nat} (walk : Follows payload steps start last labels behind) (early : steps < 128) :
    parseDnsName payload start =
      nameRound payload (128 - steps - 1) (dotted labels) last behind.isSome (behind.getD last) (nameItem payload last) := by
  have runs := follows_runs fits walk (128 - steps - 1 + 1) "" false start (fun _ => rfl)
  have total : steps + (128 - steps - 1 + 1) = 128 := by omega
  rw [total, labels_join labels (follows_filled walk)] at runs
  rw [parseDnsName, runs, name_loop_round payload fits]
  rfl

theorem root_returned (fits : payload.length ≤ isizeMax) {start steps last : Nat} {labels : List Bytes}
    {behind : Option Nat} (walk : Follows payload steps start last labels behind) (early : steps < 128)
    (root : nameItem payload last = .root) :
    parseDnsName payload start = .ok (some (dotted labels, behind.getD (last + 1))) := by
  rw [walk_runs fits walk early, root, nameRound]
  cases behind with
  | none => rfl
  | some stop => rfl

theorem sound_never_cut (fits : payload.length ≤ isizeMax) {start : Nat} (sound : NameSound payload start) :
    NeverCutShort payload start := by
  intro steps last labels behind walk within unfinished
  have returned := unfinished_returned fits walk within unfinished
  obtain ⟨all, complete, name⟩ := sound.1 _ _ returned
  obtain ⟨rest, later, rfl, found, stopEq⟩ := complete_follows walk complete
  have nothing := dotted_longer labels rest (complete_filled complete) name
  subst nothing
  refine ⟨?_, later, found⟩
  cases behind with
  | some stop => rfl
  | none =>
      have inside := complete_inside found
      have same : last = later := stopEq
      omega

theorem name_outcome (fits : payload.length ≤ isizeMax) (start : Nat) (never : NeverCutShort payload start) :
    (∃ labels stop, parseDnsName payload start = .ok (some (dotted labels, stop)) ∧
      CompleteName payload start labels stop) ∨
    parseDnsName payload start = .ok none := by
  obtain ⟨steps, last, labels, behind, walk, within, ends⟩ := walk_until payload 128 start
  by_cases unfinished : steps = 128 ∨ payload.length ≤ last
  · obtain ⟨jumped, stop, found⟩ := never steps last labels behind walk within unfinished
    have complete := follows_complete walk found
    have same : behind.getD last = behind.getD stop := by
      cases behind with
      | some stop => rfl
      | none => cases jumped
    rw [List.append_nil] at complete
    refine .inl ⟨labels, behind.getD last, unfinished_returned fits walk within unfinished, ?_⟩
    rw [same]
    exact complete
  · obtain ⟨early, inside⟩ := not_or.mp unfinished
    have runs := walk_runs fits walk (by omega)
    rcases ends.resolve_left early with outside | cut | root | ⟨target, pointer, forward⟩
    · exact absurd (outside_iff.mp outside) inside
    · rw [runs, cut]
      exact .inr rfl
    · have complete := follows_complete walk (.root root)
      rw [List.append_nil] at complete
      exact .inl ⟨labels, behind.getD (last + 1), root_returned fits walk (by omega) root, complete⟩
    · rw [runs, pointer, nameRound, if_neg (by omega)]
      exact .inr rfl

end

-- parse_dns_name returns complete names only, exactly when it never leaves its
-- loop half-way.
theorem names_sound_iff (payload : Buffer) (start : Nat) :
    NameSound payload.bytes start ↔ NeverCutShort payload.bytes start := by
  constructor
  · intro sound
    exact sound_never_cut payload.fits sound
  · intro never
    have outcome := name_outcome payload.fits start never
    constructor
    · intro name stop returned
      rcases outcome with ⟨labels, found, parsed, complete⟩ | nothing
      · rw [parsed] at returned
        cases returned
        exact ⟨labels, complete, rfl⟩
      · rw [nothing] at returned
        cases returned
    · intro incomplete
      rcases outcome with ⟨labels, found, parsed, complete⟩ | nothing
      · exact absurd ⟨labels, found, complete⟩ incomplete
      · exact nothing

theorem cut_name_accepted :
    ¬ ∀ (payload : Buffer) (start : Nat), start < payload.bytes.length → NameSound payload.bytes start := by
  intro sound
  have fits : ([1, 0x61] : Bytes).length ≤ isizeMax := by decide
  have never := sound_never_cut fits (sound ⟨[1, 0x61], fits⟩ 0 Nat.zero_lt_two)
  have walk : Follows [1, 0x61] 1 0 2 [[0x61]] none := .label rfl (.stay 2)
  have cut := never 1 2 [[0x61]] none walk (by decide) (.inr (by decide))
  cases cut.1

end NetworkIds.Parser
