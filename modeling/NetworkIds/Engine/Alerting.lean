import NetworkIds.Engine.Slot
import NetworkIds.Lib.Observation
import Mathlib.Data.List.DropRight
import Mathlib.Tactic.Linarith

set_option autoImplicit false

namespace NetworkIds.Engine

open NetworkIds.Parser Observation

structure Observed (τ : Type) where
  now : τ
  counted : Bool
  isNew : Bool
  reported : List UInt32

section History

variable {τ : Type}

def sinceLastAlert (history : List (Observed τ)) : List (Observed τ) :=
  (history.rtakeWhile fun seen => seen.reported.isEmpty).filter Observed.counted

theorem since_last_alert_concat (history : List (Observed τ)) (seen : Observed τ) :
    sinceLastAlert (history ++ [seen]) =
      if seen.reported.isEmpty then
        if seen.counted then sinceLastAlert history ++ [seen] else sinceLastAlert history
      else [] := by
  rw [sinceLastAlert]
  by_cases silent : seen.reported.isEmpty
  · rw [if_pos silent, List.rtakeWhile_concat_pos (fun seen => seen.reported.isEmpty) history seen silent,
      List.filter_append]
    by_cases counted : seen.counted
    · simp [counted, sinceLastAlert]
    · simp [counted, sinceLastAlert]
  · rw [if_neg silent, List.rtakeWhile_concat_neg (fun seen => seen.reported.isEmpty) history seen silent]
    rfl

variable [Sub τ] [LT τ] [DecidableLT τ] [Timestamp τ]

def observe (localTime : Nat → String) (rule : EvaluatedRule τ) (key : String) (engine : StatefulDetectionEngine τ)
    (arrival : Arrival τ) : Observed τ where
  now := arrival.now
  counted := countsFor engine rule key arrival
  isNew := isNewTcpConn arrival.pkt
  reported := reports rule.id key (alertsOf localTime engine arrival)

theorem observe_counted (localTime : Nat → String) (rule : EvaluatedRule τ) (key : String)
    (engine : StatefulDetectionEngine τ) (arrival : Arrival τ) :
    (observe localTime rule key engine arrival).counted = countsFor engine rule key arrival := rfl

theorem observe_reported (localTime : Nat → String) (rule : EvaluatedRule τ) (key : String)
    (engine : StatefulDetectionEngine τ) (arrival : Arrival τ) :
    (observe localTime rule key engine arrival).reported = reports rule.id key (alertsOf localTime engine arrival) :=
  rfl

def observations (localTime : Nat → String) (rule : EvaluatedRule τ) (key : String)
    (engine : StatefulDetectionEngine τ) : List (Arrival τ) → List (Observed τ)
  | [] => []
  | arrival :: rest =>
      observe localTime rule key engine arrival ::
        observations localTime rule key (step localTime engine arrival) rest

theorem observations_concat (localTime : Nat → String) (rule : EvaluatedRule τ) (key : String)
    (engine : StatefulDetectionEngine τ) (arrivals : List (Arrival τ)) (arrival : Arrival τ) :
    observations localTime rule key engine (arrivals ++ [arrival]) =
      observations localTime rule key engine arrivals ++
        [observe localTime rule key (run localTime engine arrivals) arrival] := by
  induction arrivals generalizing engine with
  | nil => rfl
  | cons first rest ih =>
      rw [List.cons_append, observations, observations, ih]
      rfl

def requestCount (now : τ) (window : List (Observed τ)) : Nat :=
  window.countP fun seen => within now 1 seen.now

def connectionCount (now interval : τ) (window : List (Observed τ)) : Nat :=
  window.countP fun seen => seen.isNew && decide (now - seen.now < interval)

def RequestsReached (rule : EvaluatedRule τ) (now : τ) (window : List (Observed τ)) : Prop :=
  ∃ maxRps, maxRequests rule = some maxRps ∧ maxRps.toNat ≤ requestCount now window

def ConnectionsReached (rule : EvaluatedRule τ) (now : τ) (window : List (Observed τ)) : Prop :=
  ∃ limit, connRateLimit rule = some limit ∧ limit.connections.toNat ≤ connectionCount now limit.interval window

end History

-- From here on times are exact.

-- The tests a rule can still make on stored timestamps when now has come.
def windowTests (now : Rat) : Set (Rat → Bool) :=
  { test | ∃ later ≥ now, ∃ width ≤ 60, test = fun t => decide (later - t < width) }

theorem window_tests_later (now later : Rat) (ordered : now ≤ later) : windowTests later ⊆ windowTests now := by
  intro test member
  obtain ⟨at_, after, width, bounded, same⟩ := member
  exact ⟨at_, le_trans ordered after, width, bounded, same⟩

theorem within_one_test (now : Rat) : within now 1 ∈ windowTests now :=
  ⟨now, le_refl now, 1, by norm_num, rfl⟩

theorem window_test_kept (now : Rat) (test : Rat → Bool) (member : test ∈ windowTests now) (t : Rat)
    (selected : test t = true) : within now 60 t = true := by
  obtain ⟨later, after, width, bounded, same⟩ := member
  subst same
  have close : later - t < width := of_decide_eq_true selected
  apply decide_eq_true
  show now - t < ((60 : Nat) : Rat)
  norm_num
  linarith

theorem request_count_later (now later : Rat) (ordered : now ≤ later) (window : List (Observed Rat)) :
    requestCount later window ≤ requestCount now window := by
  apply List.countP_mono_left
  intro seen _ close
  have after : later - seen.now < ((1 : Nat) : Rat) := of_decide_eq_true close
  apply decide_eq_true
  show now - seen.now < ((1 : Nat) : Rat)
  linarith

theorem connection_count_later (now later interval : Rat) (ordered : now ≤ later) (window : List (Observed Rat)) :
    connectionCount later interval window ≤ connectionCount now interval window := by
  apply List.countP_mono_left
  intro seen _ close
  obtain ⟨isNew, recent⟩ := Bool.and_eq_true_iff.mp close
  have after : later - seen.now < interval := of_decide_eq_true recent
  rw [isNew, Bool.true_and]
  apply decide_eq_true
  linarith

def requestTimes (window : List (Observed Rat)) : List Rat := window.map Observed.now

def connectionTimes (window : List (Observed Rat)) : List Rat := (window.filter Observed.isNew).map Observed.now

theorem request_times_count (now : Rat) (window : List (Observed Rat)) :
    (requestTimes window).countP (within now 1) = requestCount now window := by
  rw [requestTimes, List.countP_map]
  rfl

theorem connection_times_count (now interval : Rat) (window : List (Observed Rat)) :
    (connectionTimes window).countP (fun t => decide (now - t < interval)) = connectionCount now interval window := by
  rw [connectionTimes, List.countP_map, List.countP_filter, connectionCount]
  apply List.countP_congr
  intro seen _
  simp [Bool.and_comm]

-- The vectors of a slot and the packets since the last alert answer every test
-- that can still come, and both counts are below their limits.
structure Remembers (rule : EvaluatedRule Rat) (slot : Slot Rat) (window : List (Observed Rat)) (now : Rat) : Prop where
  requests : SameUnder (windowTests now) (slot.requests.getD []) (requestTimes window)
  connections : SameUnder (windowTests now) (slot.connections.getD []) (connectionTimes window)
  belowRequests : ∀ maxRps, maxRequests rule = some maxRps → requestCount now window ≤ maxRps.toNat - 1
  belowConnections : ∀ limit, connRateLimit rule = some limit →
    connectionCount now limit.interval window < limit.connections.toNat

def LimitsInRange (rule : EvaluatedRule Rat) : Prop :=
  ∀ limit, connRateLimit rule = some limit → 1 ≤ limit.connections.toNat ∧ limit.interval ≤ 60

theorem remembers_nothing (rule : EvaluatedRule Rat) (inRange : LimitsInRange rule) (now : Rat) :
    Remembers rule ⟨none, none⟩ [] now where
  requests := same_refl _ _
  connections := same_refl _ _
  belowRequests := fun _ _ => Nat.zero_le _
  belowConnections := fun limit configured => (inRange limit configured).1

theorem Remembers.later {rule : EvaluatedRule Rat} {slot : Slot Rat} {window : List (Observed Rat)} {now : Rat}
    (remembers : Remembers rule slot window now) (later : Rat) (ordered : now ≤ later) :
    Remembers rule slot window later where
  requests := same_fewer remembers.requests (window_tests_later now later ordered)
  connections := same_fewer remembers.connections (window_tests_later now later ordered)
  belowRequests := fun maxRps configured =>
    le_trans (request_count_later now later ordered window) (remembers.belowRequests maxRps configured)
  belowConnections := fun limit configured =>
    lt_of_le_of_lt (connection_count_later now later limit.interval ordered window)
      (remembers.belowConnections limit configured)

theorem prune_same (now : Rat) (timestamps times : List Rat)
    (same : SameUnder (windowTests now) timestamps times) : SameUnder (windowTests now) (prune now timestamps) times :=
  same_prune same (within now 60) (window_test_kept now)

theorem Remembers.expire {rule : EvaluatedRule Rat} {slot : Slot Rat} {window : List (Observed Rat)} {now : Rat}
    (remembers : Remembers rule slot window now) : Remembers rule (slot.expire now) window now where
  requests := by
    rw [Slot.expire, nonempty_getD, pruned_getD]
    exact prune_same now _ _ remembers.requests
  connections := by
    rw [Slot.expire, nonempty_getD, pruned_getD]
    exact prune_same now _ _ remembers.connections
  belowRequests := remembers.belowRequests
  belowConnections := remembers.belowConnections

theorem request_times_concat (window : List (Observed Rat)) (seen : Observed Rat) :
    requestTimes (window ++ [seen]) = requestTimes window ++ [seen.now] := by
  rw [requestTimes, List.map_append]
  rfl

theorem connection_times_concat (window : List (Observed Rat)) (seen : Observed Rat) :
    connectionTimes (window ++ [seen]) =
      if seen.isNew then connectionTimes window ++ [seen.now] else connectionTimes window := by
  rw [connectionTimes, List.filter_append]
  by_cases isNew : seen.isNew
  · simp [isNew, connectionTimes]
  · simp [isNew, connectionTimes]

theorem record_requests (slot : Slot Rat) (window : List (Observed Rat)) (seen : Observed Rat)
    (same : SameUnder (windowTests seen.now) (slot.requests.getD []) (requestTimes window)) :
    SameUnder (windowTests seen.now) ((slot.record seen.isNew seen.now).requests.getD [])
      (requestTimes (window ++ [seen])) := by
  rw [request_times_concat]
  exact same_append same [seen.now]

theorem record_connections (slot : Slot Rat) (window : List (Observed Rat)) (seen : Observed Rat)
    (same : SameUnder (windowTests seen.now) (slot.connections.getD []) (connectionTimes window)) :
    SameUnder (windowTests seen.now) ((slot.record seen.isNew seen.now).connections.getD [])
      (connectionTimes (window ++ [seen])) := by
  rw [connection_times_concat, Slot.record]
  by_cases isNew : seen.isNew
  · simp only [isNew, if_true]
    exact same_append same [seen.now]
  · simp only [isNew, Bool.false_eq_true, if_false]
    exact same

theorem request_trigger_history (rule : EvaluatedRule Rat) (timestamps : List Rat) (window : List (Observed Rat))
    (now : Rat) (same : SameUnder (windowTests now) timestamps (requestTimes window)) :
    (RequestsReached rule now window ∧ requestTrigger rule (some timestamps) now = some (requestCount now window)) ∨
      (¬RequestsReached rule now window ∧ requestTrigger rule (some timestamps) now = none) := by
  have counts : timestamps.countP (within now 1) = requestCount now window := by
    rw [same_count same (within now 1) (within_one_test now), request_times_count]
  unfold requestTrigger
  cases configured : maxRequests rule with
  | none =>
      refine .inr ⟨?_, rfl⟩
      rintro ⟨maxRps, present, _⟩
      rw [configured] at present
      cases present
  | some maxRps =>
      dsimp only
      rw [counts]
      by_cases reached : requestCount now window ≥ maxRps.toNat
      · rw [if_pos reached]
        exact .inl ⟨⟨maxRps, configured, reached⟩, rfl⟩
      · rw [if_neg reached]
        refine .inr ⟨?_, rfl⟩
        rintro ⟨limit, present, atLeast⟩
        rw [configured] at present
        cases present
        exact reached atLeast

-- A missing vector counts as an empty one, since the limit is at least one.
theorem connection_trigger_history (rule : EvaluatedRule Rat) (inRange : LimitsInRange rule)
    (timestamps : Option (List Rat)) (window : List (Observed Rat)) (now : Rat)
    (same : SameUnder (windowTests now) (timestamps.getD []) (connectionTimes window)) :
    (∃ limit, connRateLimit rule = some limit ∧
        limit.connections.toNat ≤ connectionCount now limit.interval window ∧
        connectionTrigger rule timestamps now = some (connectionCount now limit.interval window)) ∨
      (¬ConnectionsReached rule now window ∧ connectionTrigger rule timestamps now = none) := by
  unfold connectionTrigger
  cases configured : connRateLimit rule with
  | none =>
      refine .inr ⟨?_, rfl⟩
      rintro ⟨limit, present, _⟩
      rw [configured] at present
      cases present
  | some limit =>
      obtain ⟨atLeastOne, short⟩ := inRange limit configured
      have counts : (timestamps.getD []).countP (fun t => decide (now - t < limit.interval)) =
          connectionCount now limit.interval window := by
        rw [same_count same _ ⟨now, le_refl now, limit.interval, short, rfl⟩, connection_times_count]
      have unreached : ¬limit.connections.toNat ≤ connectionCount now limit.interval window →
          ¬ConnectionsReached rule now window := by
        intro below reached
        obtain ⟨other, present, atLeast⟩ := reached
        rw [configured] at present
        cases present
        exact below atLeast
      cases timestamps with
      | none =>
          refine .inr ⟨unreached ?_, rfl⟩
          have zero : 0 = connectionCount now limit.interval window := counts
          omega
      | some ts =>
          have counted : ts.countP (fun t => decide (now - t < limit.interval)) =
              connectionCount now limit.interval window := counts
          dsimp only
          rw [counted]
          by_cases reached : connectionCount now limit.interval window ≥ limit.connections.toNat
          · rw [if_pos reached]
            exact .inl ⟨limit, rfl, reached, rfl⟩
          · rw [if_neg reached]
            exact .inr ⟨unreached reached, rfl⟩

theorem request_count_concat (now : Rat) (window : List (Observed Rat)) (seen : Observed Rat) :
    requestCount now (window ++ [seen]) ≤ requestCount now window + 1 := by
  rw [requestCount, List.countP_append]
  exact Nat.add_le_add_left (List.countP_le_length) _

theorem connection_count_concat (now interval : Rat) (window : List (Observed Rat)) (seen : Observed Rat) :
    connectionCount now interval (window ++ [seen]) ≤ connectionCount now interval window + 1 := by
  rw [connectionCount, List.countP_append]
  exact Nat.add_le_add_left (List.countP_le_length) _

inductive Verdict (rule : EvaluatedRule Rat) (now : Rat) (window : List (Observed Rat)) : Option Nat → Prop where
  | requests (reached : RequestsReached rule now window) (small : requestCount now window < 2 ^ 32) :
      Verdict rule now window (some (requestCount now window))
  | connections (limit : LimitConfig Rat) (unreached : ¬RequestsReached rule now window)
      (configured : connRateLimit rule = some limit)
      (reached : limit.connections.toNat ≤ connectionCount now limit.interval window)
      (small : connectionCount now limit.interval window < 2 ^ 32) :
      Verdict rule now window (some (connectionCount now limit.interval window))
  | silent (noRequests : ¬RequestsReached rule now window) (noConnections : ¬ConnectionsReached rule now window) :
      Verdict rule now window none

theorem slot_step_verdict (rule : EvaluatedRule Rat) (inRange : LimitsInRange rule) (slot : Slot Rat)
    (window : List (Observed Rat)) (seen : Observed Rat) (remembers : Remembers rule slot window seen.now) :
    Verdict rule seen.now (window ++ [seen]) (Slot.step rule seen.isNew seen.now slot).2 := by
  have requests := record_requests slot window seen remembers.requests
  have connections := record_connections slot window seen remembers.connections
  have decided : (Slot.step rule seen.isNew seen.now slot).2 =
      triggeredCount rule (some (slot.requests.getD [] ++ [seen.now])) (slot.record seen.isNew seen.now).connections
        seen.now := rfl
  rcases request_trigger_history rule (slot.requests.getD [] ++ [seen.now]) (window ++ [seen]) seen.now requests with
    ⟨reached, trigger⟩ | ⟨below, trigger⟩
  · have small : requestCount seen.now (window ++ [seen]) < 2 ^ 32 := by
      obtain ⟨maxRps, configured, _⟩ := reached
      have before := remembers.belowRequests maxRps configured
      have bound := maxRps.toNat_lt
      have added := request_count_concat seen.now window seen
      omega
    rw [decided, triggeredCount, trigger]
    exact .requests reached small
  · rw [decided, triggeredCount, trigger]
    rcases connection_trigger_history rule inRange _ (window ++ [seen]) seen.now connections with
      ⟨limit, configured, reached, trigger⟩ | ⟨few, trigger⟩
    · have small : connectionCount seen.now limit.interval (window ++ [seen]) < 2 ^ 32 := by
        have before := remembers.belowConnections limit configured
        have bound := limit.connections.toNat_lt
        have added := connection_count_concat seen.now limit.interval window seen
        omega
      dsimp only
      rw [trigger]
      exact .connections limit below configured reached small
    · dsimp only
      rw [trigger]
      exact .silent below few

theorem slot_step_fired (rule : EvaluatedRule Rat) (isNew : Bool) (now : Rat) (slot : Slot Rat)
    (fired : (Slot.step rule isNew now slot).2.isSome = true) : (Slot.step rule isNew now slot).1 = ⟨none, none⟩ := by
  rw [Slot.step] at fired ⊢
  dsimp only at fired ⊢
  rw [fired]
  rfl

theorem slot_step_silent (rule : EvaluatedRule Rat) (inRange : LimitsInRange rule) (slot : Slot Rat)
    (window : List (Observed Rat)) (seen : Observed Rat) (remembers : Remembers rule slot window seen.now)
    (silent : (Slot.step rule seen.isNew seen.now slot).2 = none) :
    Remembers rule (Slot.step rule seen.isNew seen.now slot).1 (window ++ [seen]) seen.now := by
  have verdict := slot_step_verdict rule inRange slot window seen remembers
  have requests := record_requests slot window seen remembers.requests
  have connections := record_connections slot window seen remembers.connections
  rw [silent] at verdict
  rw [slot_step_kept rule seen.isNew seen.now slot silent]
  cases verdict with
  | silent noRequests noConnections =>
      refine ⟨?_, ?_, ?_, ?_⟩
      · rw [pruned_getD]
        exact prune_same _ _ _ requests
      · rw [pruned_getD]
        exact prune_same _ _ _ connections
      · intro maxRps configured
        have below : ¬maxRps.toNat ≤ requestCount seen.now (window ++ [seen]) :=
          fun reached => noRequests ⟨maxRps, configured, reached⟩
        exact Nat.le_sub_one_of_lt (Nat.lt_of_not_le below)
      · intro limit configured
        exact Nat.lt_of_not_le fun reached => noConnections ⟨limit, configured, reached⟩

section Run

variable (localTime : Nat → String) (rule : EvaluatedRule Rat) (key : String)

theorem remembers_expired (engine : StatefulDetectionEngine Rat) (window : List (Observed Rat)) (now : Rat)
    (remembers : Remembers rule (slotAt engine rule.id key) window now) :
    Remembers rule (slotAt (expireStates engine now) rule.id key) window now := by
  rw [slot_expire]
  by_cases cleanup : cleanupDue engine now
  · rw [if_pos cleanup]
    exact remembers.expire
  · rw [if_neg cleanup]
    exact remembers

theorem step_remembers (engine : StatefulDetectionEngine Rat) (arrival : Arrival Rat)
    (distinct : (engine.rules.map EvaluatedRule.id).Nodup) (member : rule ∈ engine.rules)
    (inRange : LimitsInRange rule) (history : List (Observed Rat))
    (remembers : Remembers rule (slotAt engine rule.id key) (sinceLastAlert history) arrival.now) :
    Remembers rule (slotAt (step localTime engine arrival) rule.id key)
      (sinceLastAlert (history ++ [observe localTime rule key engine arrival])) arrival.now := by
  have expired := remembers_expired rule key engine _ arrival.now remembers
  have reported := step_reports localTime engine arrival distinct rule member key
  rw [step_slot localTime engine arrival distinct rule member key, since_last_alert_concat, observe_reported]
  by_cases counted : countsFor engine rule key arrival
  · rw [if_pos counted] at reported ⊢
    rw [reported]
    cases triggered : (Slot.step rule (isNewTcpConn arrival.pkt) arrival.now
        (slotAt (expireStates engine arrival.now) rule.id key)).2 with
    | none =>
        rw [Option.map_none, Option.toList_none, List.isEmpty_nil, if_pos rfl, observe_counted, if_pos counted]
        exact slot_step_silent rule inRange _ _ (observe localTime rule key engine arrival) expired triggered
    | some count =>
        rw [if_neg (by simp), slot_step_fired rule _ _ _ (by rw [triggered]; rfl)]
        exact remembers_nothing rule inRange arrival.now
  · rw [if_neg counted] at reported ⊢
    rw [reported, List.isEmpty_nil, if_pos rfl, observe_counted, if_neg counted]
    exact expired

theorem run_remembers (engine : StatefulDetectionEngine Rat) (distinct : (engine.rules.map EvaluatedRule.id).Nodup)
    (member : rule ∈ engine.rules) (inRange : LimitsInRange rule) (fresh : slotAt engine rule.id key = ⟨none, none⟩)
    (arrivals : List (Arrival Rat)) (ordered : (arrivals.map Arrival.now).Pairwise (· ≤ ·)) (now : Rat)
    (after : ∀ arrival ∈ arrivals, arrival.now ≤ now) :
    Remembers rule (slotAt (run localTime engine arrivals) rule.id key)
      (sinceLastAlert (observations localTime rule key engine arrivals)) now := by
  induction arrivals using List.reverseRecOn generalizing now with
  | nil =>
      rw [run, List.foldl_nil, fresh]
      exact remembers_nothing rule inRange now
  | append_singleton arrivals arrival ih =>
      obtain ⟨orderedBefore, before⟩ := ordered_concat arrivals arrival ordered
      have remembers := ih orderedBefore arrival.now before
      have rules := run_rules localTime engine arrivals
      rw [run_concat, observations_concat]
      exact (step_remembers localTime rule key _ arrival (by rwa [rules]) (by rwa [rules]) inRange _ remembers).later
        now (after arrival (by simp))

end Run

-- The alerts of a rule for a key at one packet: whether there is one, and the count
-- it reports. The window is the packet after those since the last alert.
structure AlertsExactly (localTime : Nat → String) (engine : StatefulDetectionEngine Rat) (rule : EvaluatedRule Rat)
    (key : String) (window : List (Observed Rat)) (arrival : Arrival Rat) : Prop where
  fires : reports rule.id key (alertsOf localTime engine arrival) ≠ [] ↔
    countsFor engine rule key arrival = true ∧
      (RequestsReached rule arrival.now window ∨ ConnectionsReached rule arrival.now window)
  once : (reports rule.id key (alertsOf localTime engine arrival)).length ≤ 1
  packets : RequestsReached rule arrival.now window →
    ∀ count ∈ reports rule.id key (alertsOf localTime engine arrival),
      count.toNat = requestCount arrival.now window
  connections : ¬RequestsReached rule arrival.now window →
    ∀ count ∈ reports rule.id key (alertsOf localTime engine arrival), ∀ limit, connRateLimit rule = some limit →
      count.toNat = connectionCount arrival.now limit.interval window

section Verdict

variable {localTime : Nat → String} {engine : StatefulDetectionEngine Rat} {rule : EvaluatedRule Rat} {key : String}
  {window : List (Observed Rat)} {arrival : Arrival Rat}

theorem silent_is_exact (silent : reports rule.id key (alertsOf localTime engine arrival) = [])
    (below : ¬ (countsFor engine rule key arrival = true ∧
      (RequestsReached rule arrival.now window ∨ ConnectionsReached rule arrival.now window))) :
    AlertsExactly localTime engine rule key window arrival := by
  refine ⟨?_, ?_, ?_, ?_⟩
  · rw [silent]
    exact iff_of_false (fun shown => shown rfl) below
  · rw [silent]
    exact Nat.zero_le 1
  · intro _ count shown
    rw [silent] at shown
    cases shown
  · intro _ count shown
    rw [silent] at shown
    cases shown

theorem single_is_exact (count : Nat)
    (single : reports rule.id key (alertsOf localTime engine arrival) = [UInt32.ofNat count]) (small : count < 2 ^ 32)
    (fires : countsFor engine rule key arrival = true ∧
      (RequestsReached rule arrival.now window ∨ ConnectionsReached rule arrival.now window))
    (packets : RequestsReached rule arrival.now window → count = requestCount arrival.now window)
    (connections : ¬RequestsReached rule arrival.now window → ∀ limit, connRateLimit rule = some limit →
      count = connectionCount arrival.now limit.interval window) :
    AlertsExactly localTime engine rule key window arrival := by
  have shownCount : ∀ reported ∈ reports rule.id key (alertsOf localTime engine arrival), reported.toNat = count := by
    intro reported shown
    rw [single, List.mem_singleton] at shown
    rw [shown]
    exact UInt32.toNat_ofNat_of_lt small
  refine ⟨?_, ?_, ?_, ?_⟩
  · rw [single]
    exact iff_of_true (List.cons_ne_nil _ _) fires
  · rw [single]
    exact le_refl 1
  · intro reached reported shown
    exact (shownCount reported shown).trans (packets reached)
  · intro unreached reported shown limit configured
    exact (shownCount reported shown).trans (connections unreached limit configured)

theorem verdict_alerts (trigger : Option Nat) (verdict : Verdict rule arrival.now window trigger)
    (reported : reports rule.id key (alertsOf localTime engine arrival) =
      if countsFor engine rule key arrival then (trigger.map UInt32.ofNat).toList else []) :
    AlertsExactly localTime engine rule key window arrival := by
  by_cases counted : countsFor engine rule key arrival
  · rw [if_pos counted] at reported
    cases verdict with
    | requests reached small =>
        exact single_is_exact _ reported small ⟨counted, .inl reached⟩ (fun _ => rfl)
          fun unreached => absurd reached unreached
    | connections limit unreached configured reached small =>
        refine single_is_exact _ reported small ⟨counted, .inr ⟨limit, configured, reached⟩⟩
          (fun requests => absurd requests unreached) ?_
        intro _ other present
        rw [configured] at present
        cases present
        rfl
    | silent noRequests noConnections =>
        exact silent_is_exact reported fun both => not_or.mpr ⟨noRequests, noConnections⟩ both.2
  · rw [if_neg counted] at reported
    exact silent_is_exact reported fun both => counted both.1

end Verdict

theorem alerting_is_exact (localTime : Nat → String) (engine : StatefulDetectionEngine Rat)
    (noRequests : engine.ruleRateTracker = HashMap.empty) (noConnections : engine.connRateTracker = HashMap.empty)
    (distinct : (engine.rules.map EvaluatedRule.id).Nodup) (inRange : ∀ rule ∈ engine.rules, LimitsInRange rule)
    (arrivals : List (Arrival Rat)) (arrival : Arrival Rat)
    (ordered : ((arrivals ++ [arrival]).map Arrival.now).Pairwise (· ≤ ·)) (rule : EvaluatedRule Rat)
    (member : rule ∈ engine.rules) (key : String) :
    AlertsExactly localTime (run localTime engine arrivals) rule key
      (sinceLastAlert (observations localTime rule key engine arrivals) ++
        [observe localTime rule key (run localTime engine arrivals) arrival]) arrival := by
  have fresh : slotAt engine rule.id key = ⟨none, none⟩ := by
    rw [slotAt, slotOf, noRequests, noConnections]
    rfl
  obtain ⟨orderedBefore, before⟩ := ordered_concat arrivals arrival ordered
  have remembers := run_remembers localTime rule key engine distinct member (inRange rule member) fresh arrivals
    orderedBefore arrival.now before
  have expired := remembers_expired rule key _ _ arrival.now remembers
  have rules := run_rules localTime engine arrivals
  exact verdict_alerts _
    (slot_step_verdict rule (inRange rule member) _ _ (observe localTime rule key _ arrival) expired)
    (step_reports localTime _ arrival (by rwa [rules]) rule (by rwa [rules]) key)

def twoLimitsRule : EvaluatedRule Rat :=
  catchAllRule 1 (some 2) (some (HashMap.empty.insert "max_conn_rate" ⟨"src_ip", 3, 10⟩))

theorem alerting_is_exact_for_two_packets :
    AlertsExactly (fun _ => "")
      (run (fun _ => "") (startedWith [twoLimitsRule]) [⟨ParsedPacket.new .ethernet none, 0⟩]) twoLimitsRule
      (resolveSrcIp (ParsedPacket.new .ethernet none))
      (sinceLastAlert (observations (fun _ => "") twoLimitsRule (resolveSrcIp (ParsedPacket.new .ethernet none))
        (startedWith [twoLimitsRule]) [⟨ParsedPacket.new .ethernet none, 0⟩]) ++
        [observe (fun _ => "") twoLimitsRule (resolveSrcIp (ParsedPacket.new .ethernet none))
          (run (fun _ => "") (startedWith [twoLimitsRule]) [⟨ParsedPacket.new .ethernet none, 0⟩])
          ⟨ParsedPacket.new .ethernet none, 1 / 2⟩])
      ⟨ParsedPacket.new .ethernet none, 1 / 2⟩ := by
  have inRange : ∀ rule ∈ (startedWith [twoLimitsRule]).rules, LimitsInRange rule := by
    intro rule member limit configured
    rw [List.mem_singleton.mp member] at configured
    cases configured
    exact ⟨by decide, by norm_num⟩
  exact alerting_is_exact (fun _ => "") (startedWith [twoLimitsRule]) rfl rfl (by decide) inRange
    [⟨ParsedPacket.new .ethernet none, 0⟩] ⟨ParsedPacket.new .ethernet none, 1 / 2⟩ (by simp) twoLimitsRule
    (List.mem_singleton_self _) (resolveSrcIp (ParsedPacket.new .ethernet none))

end NetworkIds.Engine
