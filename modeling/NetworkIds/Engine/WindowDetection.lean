import NetworkIds.Engine.ArpSweep

set_option autoImplicit false

namespace NetworkIds.Engine

open NetworkIds.Parser

-- The locality buffer hands the packets of a block to the engine port by port, so
-- that their timestamps do not grow. Here they may come in any order.

def Close (interval : Rat) (segment : List (Arrival Rat)) : Prop :=
  ∀ first ∈ segment, ∀ last ∈ segment, last.now - first.now < interval

def inPeriod (since length t : Rat) : Bool := decide (since ≤ t) && decide (t - since < length)

theorem Covers.anytime {interval : Rat} {slot : Slot Rat} {window : List (Observed Rat)} {now : Rat}
    (covers : Covers interval slot window now) (young : ∀ t ∈ connectionTimes window, now - t < interval) (other : Rat) :
    Covers interval slot window other := by
  have whole : counting now interval (connectionTimes window) = connectionTimes window :=
    List.filter_eq_self.mpr fun t member => decide_eq_true (young t member)
  rw [Covers, whole] at covers
  exact List.filter_sublist.trans covers

theorem Covers.shorter {interval : Rat} {slot : Slot Rat} {window : List (Observed Rat)} {now : Rat}
    (covers : Covers interval slot window now) (shorter : Rat) (less : shorter ≤ interval) :
    Covers shorter slot window now := by
  refine List.Sublist.trans ?_ covers
  apply List.monotone_filter_right
  intro t close
  have young : now - t < shorter := of_decide_eq_true close
  exact decide_eq_true (lt_of_lt_of_le young less)

section Window

variable (localTime : Nat → String) (rule : EvaluatedRule Rat) (key : String)

theorem observations_times (engine : StatefulDetectionEngine Rat) (arrivals : List (Arrival Rat)) :
    (observations localTime rule key engine arrivals).map Observed.now = arrivals.map Arrival.now := by
  induction arrivals generalizing engine with
  | nil => rfl
  | cons arrival rest ih =>
      rw [observations, List.map_cons, List.map_cons, ih]
      rfl

theorem since_last_alert_sublist (history : List (Observed Rat)) : (sinceLastAlert history).Sublist history := by
  rw [sinceLastAlert]
  exact List.filter_sublist.trans (List.rtakeWhile_suffix _ _).sublist

theorem window_times (engine : StatefulDetectionEngine Rat) (arrivals : List (Arrival Rat)) :
    connectionTimes (sinceLastAlert (observations localTime rule key engine arrivals)) ⊆ arrivals.map Arrival.now := by
  intro t counted
  obtain ⟨seen, member, same⟩ := List.mem_map.mp counted
  have inside := (since_last_alert_sublist _).subset (List.mem_of_mem_filter member)
  rw [← observations_times localTime rule key engine arrivals, ← same]
  exact List.mem_map_of_mem inside

theorem segment_covers (interval : Rat) (short : interval ≤ 60) (engine : StatefulDetectionEngine Rat)
    (member : rule ∈ engine.rules) (segment : List (Arrival Rat)) (close : Close interval segment) (now : Rat) :
    Covers interval (slotAt (run localTime engine segment) rule.id key)
      (sinceLastAlert (observations localTime rule key engine segment)) now := by
  induction segment using List.reverseRecOn generalizing now with
  | nil => exact List.nil_sublist _
  | append_singleton segment arrival ih =>
      have covers := ih (fun first inside last also =>
        close first (List.mem_append_left _ inside) last (List.mem_append_left _ also)) arrival.now
      have rules := run_rules localTime engine segment
      have stepped := step_covers localTime rule key interval (run localTime engine segment) arrival (by rwa [rules]) _
        covers (keeps_short rule key interval _ _ arrival short)
      rw [← run_concat, ← observations_concat] at stepped
      refine stepped.anytime ?_ now
      intro t counted
      obtain ⟨other, inside, same⟩ := List.mem_map.mp (window_times localTime rule key engine _ counted)
      rw [← same]
      exact close other inside arrival (by simp)

def newConnections (since length : Rat) (engine : StatefulDetectionEngine Rat) (segment : List (Arrival Rat)) : Nat :=
  (observations localTime rule key engine segment).countP fun seen =>
    inPeriod since length seen.now && (seen.isNew && seen.counted)

theorem new_connections_concat (since length : Rat) (engine : StatefulDetectionEngine Rat)
    (segment : List (Arrival Rat)) (arrival : Arrival Rat) :
    newConnections localTime rule key since length engine (segment ++ [arrival]) =
      newConnections localTime rule key since length engine segment +
        if inPeriod since length arrival.now &&
          (isNewTcpConn arrival.pkt && countsFor (run localTime engine segment) rule key arrival) then 1 else 0 := by
  rw [newConnections, observations_concat, List.countP_append, List.countP_singleton]
  rfl

theorem silent_connections (engine : StatefulDetectionEngine Rat) (segment : List (Arrival Rat))
    (silent : EveryStep localTime (Silent localTime rule key) engine segment) (since interval now : Rat)
    (recent : now - since < interval) :
    newConnections localTime rule key since interval engine segment ≤
      connectionCount now interval (sinceLastAlert (observations localTime rule key engine segment)) := by
  have window := silent_window localTime rule key engine [] segment silent
  rw [List.nil_append] at window
  have empty : sinceLastAlert (observations localTime rule key engine []) = [] := rfl
  have same : run localTime engine [] = engine := rfl
  rw [window, empty, same, List.nil_append, connectionCount, List.countP_filter, newConnections]
  apply List.countP_mono_left
  intro seen _ chosen
  obtain ⟨period, connection⟩ := Bool.and_eq_true_iff.mp chosen
  obtain ⟨isNew, counted⟩ := Bool.and_eq_true_iff.mp connection
  obtain ⟨later, _⟩ := Bool.and_eq_true_iff.mp period
  have after : since ≤ seen.now := of_decide_eq_true later
  have young : now - seen.now < interval := by linarith
  rw [isNew, counted, decide_eq_true young]
  rfl

end Window

section Detection

variable (localTime : Nat → String) (engine : StatefulDetectionEngine Rat)
  (rulesBefore rulesAfter : List (EvaluatedRule Rat)) (rule : EvaluatedRule Rat) (limit : LimitConfig Rat) (key : String)

theorem last_connection_detected (listed : engine.rules = rulesBefore ++ rule :: rulesAfter)
    (configured : connRateLimit rule = some limit) (positive : 1 ≤ limit.connections.toNat)
    (short : limit.interval ≤ 60) (segment : List (Arrival Rat)) (arrival : Arrival Rat)
    (close : Close 60 (segment ++ [arrival])) (since : Rat)
    (period : inPeriod since limit.interval arrival.now = true)
    (silent : EveryStep localTime (Silent localTime rule key) engine segment)
    (isNew : isNewTcpConn arrival.pkt = true)
    (counted : countsFor (run localTime engine segment) rule key arrival = true)
    (reached : limit.connections.toNat ≤ newConnections localTime rule key since limit.interval engine segment + 1) :
    ¬Silent localTime rule key (run localTime engine segment) arrival := by
  obtain ⟨later, within⟩ := Bool.and_eq_true_iff.mp period
  have after : since ≤ arrival.now := of_decide_eq_true later
  have recent : arrival.now - since < limit.interval := of_decide_eq_true within
  have instant : arrival.now - arrival.now < limit.interval := by linarith
  have near : Close 60 segment := fun first inside last also =>
    close first (List.mem_append_left _ inside) last (List.mem_append_left _ also)
  have rules := run_rules localTime engine segment
  have member : rule ∈ engine.rules := by simp [listed]
  have covers := (segment_covers localTime rule key 60 (le_refl 60) engine member segment near arrival.now).shorter
    limit.interval short
  have own : connectionCount arrival.now limit.interval
      [observe localTime rule key (run localTime engine segment) arrival] = 1 := by
    rw [connectionCount, List.countP_singleton, if_pos]
    show (isNewTcpConn arrival.pkt && decide (arrival.now - arrival.now < limit.interval)) = true
    rw [isNew, decide_eq_true instant]
    rfl
  refine covered_packet_fires localTime _ rulesBefore rulesAfter rule (by rwa [rules]) limit configured positive key _
    arrival covers (keeps_short rule key limit.interval _ _ arrival short) counted isNew ?_
  have earlier := silent_connections localTime rule key engine segment silent since limit.interval arrival.now recent
  rw [connection_count_append, own]
  omega

-- As many new connections of one key within the interval as the limit allows at
-- least raise an alert, in whatever order the packets come and whatever came before,
-- among any other packets of the same minute.
theorem window_detected (listed : engine.rules = rulesBefore ++ rule :: rulesAfter)
    (configured : connRateLimit rule = some limit) (positive : 1 ≤ limit.connections.toNat)
    (short : limit.interval ≤ 60) (segment : List (Arrival Rat)) (close : Close 60 segment) (since : Rat)
    (reached : limit.connections.toNat ≤ newConnections localTime rule key since limit.interval engine segment) :
    ¬EveryStep localTime (Silent localTime rule key) engine segment := by
  induction segment using List.reverseRecOn with
  | nil => exact absurd (positive.trans reached) (Nat.not_succ_le_zero 0)
  | append_singleton segment arrival ih =>
      intro silent
      obtain ⟨silentBefore, last⟩ := every_step_concat localTime _ _ segment arrival silent
      rw [new_connections_concat] at reached
      by_cases chosen : (inPeriod since limit.interval arrival.now &&
          (isNewTcpConn arrival.pkt && countsFor (run localTime engine segment) rule key arrival)) = true
      · rw [if_pos chosen] at reached
        obtain ⟨period, connection⟩ := Bool.and_eq_true_iff.mp chosen
        obtain ⟨isNew, own⟩ := Bool.and_eq_true_iff.mp connection
        exact last_connection_detected localTime engine rulesBefore rulesAfter rule limit key listed configured positive
          short segment arrival close since period silentBefore isNew own reached last
      · rw [if_neg chosen] at reached
        exact ih (fun first inside last also =>
          close first (List.mem_append_left _ inside) last (List.mem_append_left _ also)) reached silentBefore

end Detection

end NetworkIds.Engine
