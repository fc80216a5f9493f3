import Mathlib.Logic.Function.Basic
import Mathlib.Tactic.Common

set_option autoImplicit false

namespace NetworkIds.RingProtocol

def tpStatusKernel : UInt32 := 0

def tpStatusUser : UInt32 := 1

def userOwned (status : UInt32) : Bool := status &&& tpStatusUser != 0

-- The fields that place the blocks; block_idx < block_nr is what get_block_ptr relies on.
structure MmapCapture where
  blockNr : Nat
  currentBlockIdx : Nat
  inRange : currentBlockIdx < blockNr

def MmapCapture.advance (capture : MmapCapture) : MmapCapture where
  blockNr := capture.blockNr
  currentBlockIdx := (capture.currentBlockIdx + 1) % capture.blockNr
  inRange := Nat.mod_lt _ (Nat.zero_lt_of_lt capture.inRange)

-- Where the reader stands between two accesses to the shared memory: outside
-- next_block, before the first check, in poll, before the second check, after
-- a check that succeeded, and with a BlockGuard in its hands.
inductive Reader where
  | idle
  | checking (blockIdx : Nat)
  | polling (blockIdx : Nat)
  | rechecking (blockIdx : Nat)
  | claiming (blockIdx : Nat)
  | holding (blockIdx : Nat)
deriving DecidableEq, Repr

structure Retirement where
  number : Nat
  blockIdx : Nat
deriving DecidableEq, Repr

-- The ring, the kernel and the reader. filledBy, retired and handed are ghost
-- state: what a block holds, and the two sequences so far.
structure RingState where
  capture : MmapCapture
  blockStatus : Nat → UInt32
  filledBy : Nat → Option Retirement
  retireIdx : Nat
  reader : Reader
  retired : List Retirement
  handed : List (Option Retirement)

-- The kernel hands its next block to the user, with whatever other flags.
def retire (flags : UInt32) (state : RingState) : RingState :=
  let retirement : Retirement := ⟨state.retired.length, state.retireIdx⟩
  { state with
    blockStatus := Function.update state.blockStatus state.retireIdx (tpStatusUser ||| flags)
    filledBy := Function.update state.filledBy state.retireIdx (some retirement)
    retireIdx := (state.retireIdx + 1) % state.capture.blockNr
    retired := state.retired ++ [retirement] }

def kernelStep (flags : UInt32) (state : RingState) : RingState :=
  if state.blockStatus state.retireIdx = tpStatusKernel then retire flags state else state

def recycleBlock (blockIdx : Nat) (state : RingState) : RingState :=
  { state with blockStatus := Function.update state.blockStatus blockIdx tpStatusKernel }

def handOut (blockIdx : Nat) (state : RingState) : RingState :=
  { state with
    capture := state.capture.advance
    reader := .holding blockIdx
    handed := state.handed ++ [state.filledBy blockIdx] }

def kernelRun (retirements : List UInt32) (state : RingState) : RingState :=
  retirements.foldl (fun state flags => kernelStep flags state) state

-- A whole call of next_block. While it waits in poll, the kernel retires blocks.
def nextBlock (ret : Int) (retirements : List UInt32) (state : RingState) : RingState :=
  let blockIdx := state.capture.currentBlockIdx
  if userOwned (state.blockStatus blockIdx) then handOut blockIdx state
  else
    let polled := kernelRun retirements state
    if ret ≤ 0 then polled
    else if userOwned (polled.blockStatus blockIdx) then handOut blockIdx polled
    else polled

-- The next step of next_block, or the drop of the guard it returned. ret is
-- what poll returns if it is its turn.
def readerStep (ret : Int) (state : RingState) : RingState :=
  match state.reader with
  | .idle => { state with reader := .checking state.capture.currentBlockIdx }
  | .checking blockIdx =>
      if userOwned (state.blockStatus blockIdx) then { state with reader := .claiming blockIdx }
      else { state with reader := .polling blockIdx }
  | .polling blockIdx =>
      if ret ≤ 0 then { state with reader := .idle } else { state with reader := .rechecking blockIdx }
  | .rechecking blockIdx =>
      if userOwned (state.blockStatus blockIdx) then { state with reader := .claiming blockIdx }
      else { state with reader := .idle }
  | .claiming blockIdx => handOut blockIdx state
  | .holding blockIdx => { recycleBlock blockIdx state with reader := .idle }

inductive Turn where
  | kernel (flags : UInt32)
  | reader (ret : Int)

def step (state : RingState) : Turn → RingState
  | .kernel flags => kernelStep flags state
  | .reader ret => readerStep ret state

def run (state : RingState) (schedule : List Turn) : RingState := schedule.foldl step state

-- The number of blocks asked for; MmapCapture::new asks for 64.
structure RingConfig where
  blockNr : Nat
  positive : 0 < blockNr

def RingState.new (config : RingConfig) : RingState where
  capture := ⟨config.blockNr, 0, config.positive⟩
  blockStatus := fun _ => tpStatusKernel
  filledBy := fun _ => none
  retireIdx := 0
  reader := .idle
  retired := []
  handed := []

def ticket (n k : Nat) : Retirement := ⟨k, k % n⟩

def RingState.released (state : RingState) : Nat :=
  match state.reader with
  | .holding _ => state.handed.length - 1
  | _ => state.handed.length

def ReaderAligned (state : RingState) : Prop :=
  match state.reader with
  | .idle => True
  | .checking blockIdx | .polling blockIdx | .rechecking blockIdx => blockIdx = state.capture.currentBlockIdx
  | .claiming blockIdx =>
      blockIdx = state.capture.currentBlockIdx ∧ userOwned (state.blockStatus blockIdx) = true
  | .holding blockIdx => 0 < state.handed.length ∧ blockIdx = (state.handed.length - 1) % state.capture.blockNr

-- The retirements from the first one not released on fill a window of at most
-- block_nr blocks, and these are the blocks of the user.
structure RingInvariant (n : Nat) (state : RingState) : Prop where
  size : state.capture.blockNr = n
  retireIdx : state.retireIdx = state.retired.length % n
  currentIdx : state.capture.currentBlockIdx = state.handed.length % n
  behind : state.handed.length ≤ state.retired.length
  room : state.retired.length ≤ state.released + n
  owned : ∀ k, state.released ≤ k → k < state.retired.length →
    userOwned (state.blockStatus (k % n)) = true ∧ state.filledBy (k % n) = some (ticket n k)
  free : ∀ i, (∀ k, state.released ≤ k → k < state.retired.length → k % n ≠ i) →
    state.blockStatus i = tpStatusKernel
  retired : state.retired = (List.range state.retired.length).map (ticket n)
  handed : state.handed = (List.range state.handed.length).map (fun k => some (ticket n k))
  aligned : ReaderAligned state

theorem released_le (state : RingState) : state.released ≤ state.handed.length := by
  unfold RingState.released
  split
  · exact Nat.sub_le _ _
  · exact Nat.le_refl _

theorem window_distinct {n a b : Nat} (later : a < b) (near : b < a + n) : a % n ≠ b % n := by
  intro same
  have divides : n ∣ b - a := Nat.dvd_of_mod_eq_zero (Nat.sub_mod_eq_zero_of_mod_eq same.symm)
  have large := Nat.le_of_dvd (by omega) divides
  omega

theorem kernel_not_user : userOwned tpStatusKernel = false := by decide

theorem retired_user (flags : UInt32) : userOwned (tpStatusUser ||| flags) = true := by
  have absorbed : (tpStatusUser ||| flags) &&& tpStatusUser = tpStatusUser := by
    apply UInt32.toNat_inj.mp
    apply Nat.eq_of_testBit_eq
    intro i
    simp only [UInt32.toNat_and, UInt32.toNat_or, Nat.testBit_and, Nat.testBit_or]
    cases tpStatusUser.toNat.testBit i <;> simp
  rw [userOwned, absorbed]
  rfl

theorem new_invariant (config : RingConfig) : RingInvariant config.blockNr (RingState.new config) where
  size := rfl
  retireIdx := (Nat.zero_mod _).symm
  currentIdx := (Nat.zero_mod _).symm
  behind := Nat.le_refl _
  room := Nat.zero_le _
  owned k _ inside := absurd inside (Nat.not_lt_zero k)
  free _ _ := rfl
  retired := rfl
  handed := rfl
  aligned := trivial

theorem numbered_concat {α : Type} (f : Nat → α) (xs : List α) (numbered : xs = (List.range xs.length).map f) :
    xs ++ [f xs.length] = (List.range (xs ++ [f xs.length]).length).map f := by
  rw [List.length_append, List.length_singleton, List.range_succ, List.map_append, ← numbered]
  rfl

section Retire

variable {n : Nat} {state : RingState} (flags : UInt32)

theorem retire_room (inv : RingInvariant n state)
    (free : state.blockStatus state.retireIdx = tpStatusKernel) (positive : 0 < n) :
    state.retired.length < state.released + n := by
  by_contra full
  have last := inv.room
  have user := (inv.owned state.released (Nat.le_refl _) (by omega)).1
  have same : state.released % n = state.retireIdx := by
    rw [inv.retireIdx, show state.retired.length = state.released + n by omega, Nat.add_mod_right]
  rw [same, free, kernel_not_user] at user
  cases user

theorem retire_elsewhere (inv : RingInvariant n state)
    (free : state.blockStatus state.retireIdx = tpStatusKernel) (positive : 0 < n) (k : Nat)
    (late : state.released ≤ k) (inside : k < state.retired.length) :
    k % n ≠ state.retireIdx := by
  have room := retire_room inv free positive
  rw [inv.retireIdx]
  exact window_distinct inside (by omega)

theorem retire_owned (inv : RingInvariant n state)
    (free : state.blockStatus state.retireIdx = tpStatusKernel) (positive : 0 < n) (k : Nat)
    (late : state.released ≤ k) (inside : k < state.retired.length + 1) :
    userOwned ((retire flags state).blockStatus (k % n)) = true ∧
      (retire flags state).filledBy (k % n) = some (ticket n k) := by
  unfold retire
  dsimp only
  by_cases newest : k = state.retired.length
  · have here : k % n = state.retireIdx := by rw [inv.retireIdx, newest]
    have numbered : (⟨state.retired.length, state.retireIdx⟩ : Retirement) = ticket n k := by
      rw [← here, ← newest]
      rfl
    rw [here, Function.update_self, Function.update_self, numbered]
    exact ⟨retired_user flags, rfl⟩
  · have elsewhere := retire_elsewhere inv free positive k late (by omega)
    rw [Function.update_of_ne elsewhere, Function.update_of_ne elsewhere]
    exact inv.owned k late (by omega)

theorem retire_free (inv : RingInvariant n state) (i : Nat)
    (outside : ∀ k, state.released ≤ k → k < state.retired.length + 1 → k % n ≠ i) :
    (retire flags state).blockStatus i = tpStatusKernel := by
  have room : state.released ≤ state.retired.length := by
    have behind := inv.behind
    have released := released_le state
    omega
  have other : i ≠ state.retireIdx := by
    rw [inv.retireIdx]
    exact (outside state.retired.length room (Nat.lt_succ_self _)).symm
  unfold retire
  dsimp only
  rw [Function.update_of_ne other]
  exact inv.free i (fun k late inside => outside k late (Nat.lt_succ_of_lt inside))

theorem retire_aligned (inv : RingInvariant n state)
    (free : state.blockStatus state.retireIdx = tpStatusKernel) :
    ReaderAligned (retire flags state) := by
  have aligned := inv.aligned
  unfold ReaderAligned at aligned ⊢
  cases phase : state.reader with
  | claiming blockIdx =>
      rw [phase] at aligned
      have other : blockIdx ≠ state.retireIdx := by
        intro same
        have user := aligned.2
        rw [same, free, kernel_not_user] at user
        cases user
      have kept : (retire flags state).blockStatus blockIdx = state.blockStatus blockIdx :=
        Function.update_of_ne other _ _
      simp only [retire, phase] at kept ⊢
      rw [kept]
      exact aligned
  | idle => simp only [retire, phase]
  | checking | polling | rechecking | holding =>
      simp only [retire, phase] at aligned ⊢
      exact aligned

theorem retire_keeps (inv : RingInvariant n state)
    (free : state.blockStatus state.retireIdx = tpStatusKernel) (positive : 0 < n) :
    RingInvariant n (retire flags state) := by
  have length : (retire flags state).retired.length = state.retired.length + 1 := List.length_append
  refine ⟨inv.size, ?_, inv.currentIdx, ?_, ?_, ?_, ?_, ?_, inv.handed, retire_aligned flags inv free⟩
  · rw [length, retire, inv.size, inv.retireIdx, Nat.mod_add_mod]
  · rw [length]
    exact Nat.le_succ_of_le inv.behind
  · rw [length]
    exact retire_room inv free positive
  · intro k late inside
    rw [length] at inside
    exact retire_owned flags inv free positive k late inside
  · intro i outside
    rw [length] at outside
    exact retire_free flags inv i outside
  · have numbered : (⟨state.retired.length, state.retireIdx⟩ : Retirement) = ticket n state.retired.length := by
      rw [inv.retireIdx, ticket]
    rw [retire]
    dsimp only
    rw [numbered]
    exact numbered_concat (ticket n) state.retired inv.retired

end Retire

theorem kernel_step_keeps (n : Nat) (positive : 0 < n) (flags : UInt32) (state : RingState)
    (inv : RingInvariant n state) : RingInvariant n (kernelStep flags state) := by
  rw [kernelStep]
  by_cases free : state.blockStatus state.retireIdx = tpStatusKernel
  · rw [if_pos free]
    exact retire_keeps flags inv free positive
  · rw [if_neg free]
    exact inv

theorem reader_moves_keep (n : Nat) (state : RingState) (inv : RingInvariant n state) (next : Reader)
    (before : state.released = state.handed.length)
    (after : RingState.released { state with reader := next } = state.handed.length)
    (aligned : ReaderAligned { state with reader := next }) : RingInvariant n { state with reader := next } := by
  have same : RingState.released { state with reader := next } = state.released := after.trans before.symm
  refine ⟨inv.size, inv.retireIdx, inv.currentIdx, inv.behind, ?_, ?_, ?_, inv.retired, inv.handed, aligned⟩
  · rw [same]
    exact inv.room
  · rw [same]
    exact inv.owned
  · rw [same]
    exact inv.free

theorem user_block_is_next (n : Nat) (state : RingState) (inv : RingInvariant n state)
    (noGuard : state.released = state.handed.length)
    (user : userOwned (state.blockStatus state.capture.currentBlockIdx) = true) :
    state.handed.length < state.retired.length := by
  by_contra nothing
  have behind := inv.behind
  have kernel := inv.free state.capture.currentBlockIdx (fun k late inside => by omega)
  rw [kernel, kernel_not_user] at user
  cases user

theorem claim_keeps (n : Nat) (state : RingState) (inv : RingInvariant n state) (blockIdx : Nat)
    (phase : state.reader = .claiming blockIdx) (ret : Int) : RingInvariant n (readerStep ret state) := by
  have aligned := inv.aligned
  have noGuard : state.released = state.handed.length := by rw [RingState.released, phase]
  rw [ReaderAligned, phase] at aligned
  obtain ⟨current, user⟩ := aligned
  rw [current] at user
  have next := user_block_is_next n state inv noGuard user
  have length : (handOut blockIdx state).handed.length = state.handed.length + 1 := List.length_append
  have filled : state.filledBy blockIdx = some (ticket n state.handed.length) := by
    rw [current, inv.currentIdx]
    exact (inv.owned _ (by omega) next).2
  have same : (handOut blockIdx state).released = state.released := by
    rw [noGuard]
    change (handOut blockIdx state).handed.length - 1 = state.handed.length
    rw [length, Nat.add_sub_cancel]
  rw [readerStep, phase]
  change RingInvariant n (handOut blockIdx state)
  refine ⟨inv.size, inv.retireIdx, ?_, ?_, ?_, ?_, ?_, inv.retired, ?_, ?_⟩
  · change (state.capture.currentBlockIdx + 1) % state.capture.blockNr = _
    rw [length, inv.currentIdx, inv.size, Nat.mod_add_mod]
  · rw [length]
    exact next
  · rw [same]
    exact inv.room
  · rw [same]
    exact inv.owned
  · rw [same]
    exact inv.free
  · rw [handOut]
    dsimp only
    rw [filled]
    exact numbered_concat (fun k => some (ticket n k)) state.handed inv.handed
  · change 0 < (handOut blockIdx state).handed.length ∧
      blockIdx = ((handOut blockIdx state).handed.length - 1) % state.capture.blockNr
    rw [length, Nat.add_sub_cancel, inv.size, current, inv.currentIdx]
    exact ⟨Nat.succ_pos _, rfl⟩

theorem drop_keeps (n : Nat) (state : RingState) (inv : RingInvariant n state) (blockIdx : Nat)
    (phase : state.reader = .holding blockIdx) (ret : Int) : RingInvariant n (readerStep ret state) := by
  have aligned := inv.aligned
  have held : state.released = state.handed.length - 1 := by rw [RingState.released, phase]
  rw [ReaderAligned, phase] at aligned
  obtain ⟨started, here⟩ := aligned
  rw [inv.size] at here
  have room := inv.room
  rw [readerStep, phase]
  refine ⟨inv.size, inv.retireIdx, inv.currentIdx, inv.behind, ?_, ?_, ?_, inv.retired, inv.handed, trivial⟩
  · change state.retired.length ≤ state.handed.length + n
    omega
  · intro k late inside
    change state.handed.length ≤ k at late
    change k < state.retired.length at inside
    have elsewhere : k % n ≠ blockIdx := by
      rw [here]
      exact (window_distinct (by omega) (by omega)).symm
    have kept : (recycleBlock blockIdx state).blockStatus (k % n) = state.blockStatus (k % n) :=
      Function.update_of_ne elsewhere _ _
    change userOwned ((recycleBlock blockIdx state).blockStatus (k % n)) = true ∧ _
    rw [kept]
    exact inv.owned k (by omega) inside
  · intro i outside
    change (recycleBlock blockIdx state).blockStatus i = tpStatusKernel
    by_cases recycled : i = blockIdx
    · rw [recycled]
      exact Function.update_self _ _ _
    · have kept : (recycleBlock blockIdx state).blockStatus i = state.blockStatus i :=
        Function.update_of_ne recycled _ _
      rw [kept]
      apply inv.free
      intro k late inside
      by_cases oldest : k = state.handed.length - 1
      · rw [oldest, ← here]
        exact fun same => recycled same.symm
      · exact outside k (by change state.handed.length ≤ k; omega) inside

theorem look_keeps (n : Nat) (state : RingState) (inv : RingInvariant n state) (blockIdx : Nat) (otherwise : Reader)
    (noGuard : state.released = state.handed.length) (current : blockIdx = state.capture.currentBlockIdx)
    (waits : RingInvariant n { state with reader := otherwise }) :
    RingInvariant n (if userOwned (state.blockStatus blockIdx) then { state with reader := .claiming blockIdx }
      else { state with reader := otherwise }) := by
  by_cases user : userOwned (state.blockStatus blockIdx) = true
  · rw [if_pos user]
    exact reader_moves_keep n state inv (.claiming blockIdx) noGuard rfl ⟨current, user⟩
  · rw [if_neg user]
    exact waits

theorem reader_step_keeps (n : Nat) (ret : Int) (state : RingState) (inv : RingInvariant n state) :
    RingInvariant n (readerStep ret state) := by
  have aligned := inv.aligned
  cases phase : state.reader with
  | idle =>
      have before : state.released = state.handed.length := by rw [RingState.released, phase]
      rw [readerStep, phase]
      exact reader_moves_keep n state inv (.checking _) before rfl rfl
  | checking blockIdx =>
      have before : state.released = state.handed.length := by rw [RingState.released, phase]
      rw [ReaderAligned, phase] at aligned
      rw [readerStep, phase]
      exact look_keeps n state inv blockIdx (.polling blockIdx) before aligned
        (reader_moves_keep n state inv (.polling blockIdx) before rfl aligned)
  | polling blockIdx =>
      have before : state.released = state.handed.length := by rw [RingState.released, phase]
      rw [ReaderAligned, phase] at aligned
      rw [readerStep, phase]
      dsimp only
      by_cases timeout : ret ≤ 0
      · rw [if_pos timeout]
        exact reader_moves_keep n state inv .idle before rfl trivial
      · rw [if_neg timeout]
        exact reader_moves_keep n state inv (.rechecking blockIdx) before rfl aligned
  | rechecking blockIdx =>
      have before : state.released = state.handed.length := by rw [RingState.released, phase]
      rw [ReaderAligned, phase] at aligned
      rw [readerStep, phase]
      exact look_keeps n state inv blockIdx .idle before aligned
        (reader_moves_keep n state inv .idle before rfl trivial)
  | claiming blockIdx => exact claim_keeps n state inv blockIdx phase ret
  | holding blockIdx => exact drop_keeps n state inv blockIdx phase ret

theorem kernel_ignores_reader (flags : UInt32) (state : RingState) (reader : Reader) :
    kernelStep flags { state with reader := reader } = { kernelStep flags state with reader := reader } := by
  rw [kernelStep, kernelStep]
  by_cases free : state.blockStatus state.retireIdx = tpStatusKernel
  · rw [if_pos free, if_pos free]
    rfl
  · rw [if_neg free, if_neg free]

theorem kernel_turns_ignore_reader (retirements : List UInt32) (state : RingState) (reader : Reader) :
    run { state with reader := reader } (retirements.map Turn.kernel) =
      { kernelRun retirements state with reader := reader } := by
  induction retirements generalizing state with
  | nil => rfl
  | cons flags rest ih =>
      have first : step { state with reader := reader } (.kernel flags) =
          { kernelStep flags state with reader := reader } := kernel_ignores_reader flags state reader
      rw [List.map_cons, run, List.foldl_cons, first]
      exact ih (kernelStep flags state)

theorem kernel_step_reader (flags : UInt32) (state : RingState) : (kernelStep flags state).reader = state.reader := by
  rw [kernelStep]
  by_cases free : state.blockStatus state.retireIdx = tpStatusKernel
  · rw [if_pos free]
    rfl
  · rw [if_neg free]

theorem kernel_run_reader (retirements : List UInt32) (state : RingState) :
    (kernelRun retirements state).reader = state.reader := by
  induction retirements generalizing state with
  | nil => rfl
  | cons flags rest ih =>
      have later := ih (kernelStep flags state)
      rw [kernel_step_reader] at later
      exact later

theorem run_append (state : RingState) (first second : List Turn) :
    run state (first ++ second) = run (run state first) second := List.foldl_append

theorem poll_returns (ret : Int) (polled : RingState) (blockIdx : Nat) (outside : polled.reader = .idle) :
    ∃ turns, run { polled with reader := .polling blockIdx } turns =
      if ret ≤ 0 then polled
      else if userOwned (polled.blockStatus blockIdx) then handOut blockIdx polled
      else polled := by
  have idle : { polled with reader := .idle } = polled := by rw [← outside]
  by_cases timeout : ret ≤ 0
  · refine ⟨[.reader ret], ?_⟩
    rw [if_pos timeout]
    exact (if_pos timeout).trans idle
  · have woken : readerStep ret { polled with reader := .polling blockIdx } =
        { polled with reader := .rechecking blockIdx } := if_neg timeout
    rw [if_neg timeout]
    by_cases ready : userOwned (polled.blockStatus blockIdx) = true
    · refine ⟨[.reader ret, .reader ret, .reader ret], ?_⟩
      have checked : readerStep ret { polled with reader := .rechecking blockIdx } =
          { polled with reader := .claiming blockIdx } := if_pos ready
      change readerStep ret (readerStep ret (readerStep ret _)) = _
      rw [woken, checked, if_pos ready]
      rfl
    · refine ⟨[.reader ret, .reader ret], ?_⟩
      change readerStep ret (readerStep ret _) = _
      rw [woken, if_neg ready]
      exact (if_neg ready).trans idle

theorem next_block_interleaves (ret : Int) (retirements : List UInt32) (state : RingState)
    (outside : state.reader = .idle) : ∃ schedule, run state schedule = nextBlock ret retirements state := by
  have called : readerStep ret state = { state with reader := .checking state.capture.currentBlockIdx } := by
    rw [readerStep, outside]
  rw [nextBlock]
  by_cases ready : userOwned (state.blockStatus state.capture.currentBlockIdx) = true
  · refine ⟨[.reader ret, .reader ret, .reader ret], ?_⟩
    have checked : readerStep ret { state with reader := .checking state.capture.currentBlockIdx } =
        { state with reader := .claiming state.capture.currentBlockIdx } := if_pos ready
    change readerStep ret (readerStep ret (readerStep ret state)) = _
    rw [called, checked, if_pos ready]
    rfl
  · have waits : run state [.reader ret, .reader ret] =
        { state with reader := .polling state.capture.currentBlockIdx } := by
      change readerStep ret (readerStep ret state) = _
      rw [called]
      exact if_neg ready
    have polled : (kernelRun retirements state).reader = .idle := (kernel_run_reader retirements state).trans outside
    obtain ⟨turns, returned⟩ :=
      poll_returns ret (kernelRun retirements state) state.capture.currentBlockIdx polled
    refine ⟨[.reader ret, .reader ret] ++ retirements.map Turn.kernel ++ turns, ?_⟩
    rw [run_append, run_append, waits, kernel_turns_ignore_reader, returned, if_neg ready]

theorem run_keeps (n : Nat) (positive : 0 < n) (schedule : List Turn) (state : RingState)
    (inv : RingInvariant n state) : RingInvariant n (run state schedule) := by
  induction schedule generalizing state with
  | nil => exact inv
  | cons turn rest ih =>
      apply ih
      cases turn with
      | kernel flags => exact kernel_step_keeps n positive flags state inv
      | reader ret => exact reader_step_keeps n ret state inv

def GuardOwned (state : RingState) : Prop :=
  ∀ blockIdx, state.reader = .holding blockIdx →
    userOwned (state.blockStatus blockIdx) = true ∧
    ∃ earlier, state.handed = earlier ++ [state.filledBy blockIdx]

theorem guard_owned (n : Nat) (state : RingState) (inv : RingInvariant n state) : GuardOwned state := by
  intro blockIdx phase
  have aligned := inv.aligned
  have held : state.released = state.handed.length - 1 := by rw [RingState.released, phase]
  rw [ReaderAligned, phase] at aligned
  obtain ⟨started, here⟩ := aligned
  rw [inv.size] at here
  have behind := inv.behind
  have owned := inv.owned (state.handed.length - 1) (by omega) (by omega)
  rw [← here] at owned
  refine ⟨owned.1, (List.range (state.handed.length - 1)).map (fun k => some (ticket n k)), ?_⟩
  have count : state.handed.length = state.handed.length - 1 + 1 := by omega
  have handed := inv.handed
  rw [count, List.range_succ, List.map_append] at handed
  rw [owned.2]
  exact handed

theorem handed_prefix (n : Nat) (state : RingState) (inv : RingInvariant n state) :
    state.handed <+: state.retired.map some := by
  have whole : state.retired.map some = (List.range state.retired.length).map (fun k => some (ticket n k)) := by
    rw [inv.retired, List.map_map, List.length_map, List.length_range]
    rfl
  obtain ⟨more, total⟩ := Nat.exists_eq_add_of_le inv.behind
  rw [whole, total, List.range_add, List.map_append, ← inv.handed]
  exact List.prefix_append _ _

theorem ring_protocol (config : RingConfig) (schedule : List Turn) :
    GuardOwned (run (RingState.new config) schedule) ∧
    (run (RingState.new config) schedule).handed <+: (run (RingState.new config) schedule).retired.map some ∧
    (run (RingState.new config) schedule).retired =
      (List.range (run (RingState.new config) schedule).retired.length).map (ticket config.blockNr) := by
  have inv := run_keeps config.blockNr config.positive schedule _ (new_invariant config)
  exact ⟨guard_owned _ _ inv, handed_prefix _ _ inv, inv.retired⟩

-- Two blocks: the kernel waits for the first guard to be dropped.
example :
    let early := run (RingState.new ⟨2, by decide⟩) [.reader 0, .reader 0, .kernel 0, .reader 1, .reader 0,
      .kernel 8, .kernel 0, .reader 0]
    let late := run early [.kernel 0, .reader 0, .kernel 0]
    early.reader = .holding 0 ∧ early.retired.length = 2 ∧ early.handed = [some ⟨0, 0⟩] ∧
      late.reader = .idle ∧ late.retired = [⟨0, 0⟩, ⟨1, 1⟩, ⟨2, 0⟩] := by decide

end NetworkIds.RingProtocol
