import NetworkIds.Engine.Sources
import NetworkIds.Engine.Memory

set_option autoImplicit false

namespace NetworkIds.Engine

open NetworkIds.Parser

def counting (now interval : Rat) (times : List Rat) : List Rat := times.filter fun t => decide (now - t < interval)

-- Every new connection since the last alert that the interval still counts is
-- in the vector of the slot.
def Covers (interval : Rat) (slot : Slot Rat) (window : List (Observed Rat)) (now : Rat) : Prop :=
  (counting now interval (connectionTimes window)).Sublist (slot.connections.getD [])

theorem counting_later (interval now later : Rat) (ordered : now ≤ later) (times : List Rat) :
    (counting later interval times).Sublist (counting now interval times) := by
  apply List.monotone_filter_right
  intro t close
  have young : later - t < interval := of_decide_eq_true close
  apply decide_eq_true
  linarith

theorem counting_young (now interval : Rat) (times : List Rat) : ∀ t ∈ counting now interval times, now - t < interval := by
  intro t member
  obtain ⟨_, close⟩ := List.mem_filter.mp member
  exact of_decide_eq_true close

theorem Covers.later {interval : Rat} {slot : Slot Rat} {window : List (Observed Rat)} {now : Rat}
    (covers : Covers interval slot window now) (later : Rat) (ordered : now ≤ later) :
    Covers interval slot window later :=
  (counting_later interval now later ordered _).trans covers

theorem prune_spares (now : Rat) (kept timestamps : List Rat) (stored : kept.Sublist timestamps)
    (young : ∀ t ∈ kept, now - t < 60) : kept.Sublist (prune now timestamps) := by
  have all : kept.filter (within now 60) = kept := by
    apply List.filter_eq_self.mpr
    intro t member
    apply decide_eq_true
    show now - t < ((60 : Nat) : Rat)
    norm_num
    exact young t member
  rw [← all]
  exact stored.filter _

def added (isNew : Bool) (now : Rat) (times : List Rat) : List Rat := if isNew then times ++ [now] else times

theorem added_young (isNew : Bool) (now : Rat) (times : List Rat) (young : ∀ t ∈ times, now - t < 60) :
    ∀ t ∈ added isNew now times, now - t < 60 := by
  intro t member
  cases isNew with
  | false => exact young t member
  | true =>
      cases List.mem_append.mp member with
      | inl earlier => exact young t earlier
      | inr same =>
          rw [List.mem_singleton.mp same, sub_self]
          norm_num

theorem record_covers (isNew : Bool) (now : Rat) (slot : Slot Rat) (kept : List Rat)
    (stored : kept.Sublist (slot.connections.getD [])) :
    (added isNew now kept).Sublist ((slot.record isNew now).connections.getD []) := by
  cases isNew with
  | false => exact stored
  | true => exact stored.append (List.Sublist.refl _)

theorem sublist_added (isNew : Bool) (now : Rat) (times : List Rat) : times.Sublist (added isNew now times) := by
  cases isNew with
  | false => exact List.Sublist.refl _
  | true => exact List.sublist_append_left _ _

section Silent

variable {isNew : Bool} {now : Rat} {slot : Slot Rat} {kept : List Rat}

theorem silent_step_covers {rule : EvaluatedRule Rat} (silent : (Slot.step rule isNew now slot).2 = none)
    (stored : kept.Sublist (slot.connections.getD [])) (young : ∀ t ∈ kept, now - t < 60) :
    (added isNew now kept).Sublist ((Slot.step rule isNew now slot).1.connections.getD []) := by
  rw [slot_step_kept rule isNew now slot silent]
  dsimp only
  rw [pruned_getD]
  exact prune_spares now _ _ (record_covers isNew now slot kept stored) (added_young isNew now kept young)

theorem silent_cons {rule : EvaluatedRule Rat} {rest : List (EvaluatedRule Rat)}
    (silent : (Slot.steps isNew now slot (rule :: rest)).2 = []) :
    (Slot.step rule isNew now slot).2 = none ∧
      (Slot.steps isNew now (Slot.step rule isNew now slot).1 rest).2 = [] := by
  rw [Slot.steps] at silent
  obtain ⟨first, later⟩ := List.append_eq_nil_iff.mp silent
  refine ⟨?_, later⟩
  cases triggered : (Slot.step rule isNew now slot).2 with
  | none => rfl
  | some count =>
      rw [triggered] at first
      cases first

theorem silent_steps_keep (rules : List (EvaluatedRule Rat)) (silent : (Slot.steps isNew now slot rules).2 = [])
    (stored : kept.Sublist (slot.connections.getD [])) (young : rules ≠ [] → ∀ t ∈ kept, now - t < 60) :
    kept.Sublist ((Slot.steps isNew now slot rules).1.connections.getD []) := by
  induction rules generalizing slot with
  | nil => exact stored
  | cons rule rest ih =>
      obtain ⟨first, later⟩ := silent_cons silent
      have close := young (List.cons_ne_nil rule rest)
      have next := (sublist_added isNew now kept).trans (silent_step_covers first stored close)
      exact ih later next (fun _ => close)

theorem silent_steps_add (rules : List (EvaluatedRule Rat)) (present : rules ≠ [])
    (silent : (Slot.steps isNew now slot rules).2 = []) (stored : kept.Sublist (slot.connections.getD []))
    (young : ∀ t ∈ kept, now - t < 60) :
    (added isNew now kept).Sublist ((Slot.steps isNew now slot rules).1.connections.getD []) := by
  cases rules with
  | nil => exact absurd rfl present
  | cons rule rest =>
      obtain ⟨first, later⟩ := silent_cons silent
      exact silent_steps_keep rest later (silent_step_covers first stored young)
        (fun _ => added_young isNew now kept young)

end Silent

-- A step that throws old timestamps away, in the cleanup or after one of the
-- rules that use the slot, finds none there that the interval still counts.
def KeepsInterval (rule : EvaluatedRule Rat) (key : String) (interval : Rat) (rules : List (EvaluatedRule Rat))
    (engine : StatefulDetectionEngine Rat) (arrival : Arrival Rat) : Prop :=
  cleanupDue engine arrival.now = true ∨ slotRulesAt engine rule.id key arrival rules ≠ [] →
    ∀ t ∈ (slotAt engine rule.id key).connections.getD [], arrival.now - t < interval → arrival.now - t < 60

theorem keeps_short (rule : EvaluatedRule Rat) (key : String) (interval : Rat) (rules : List (EvaluatedRule Rat))
    (engine : StatefulDetectionEngine Rat) (arrival : Arrival Rat) (short : interval ≤ 60) :
    KeepsInterval rule key interval rules engine arrival :=
  fun _ _ _ close => lt_of_lt_of_le close short

section Run

variable (localTime : Nat → String) (rule : EvaluatedRule Rat) (key : String) (interval : Rat)

theorem expired_covers (engine : StatefulDetectionEngine Rat) (arrival : Arrival Rat) (rules : List (EvaluatedRule Rat))
    (window : List (Observed Rat)) (covers : Covers interval (slotAt engine rule.id key) window arrival.now)
    (keeps : KeepsInterval rule key interval rules engine arrival) :
    Covers interval (slotAt (expireStates engine arrival.now) rule.id key) window arrival.now := by
  rw [slot_expire]
  by_cases cleanup : cleanupDue engine arrival.now = true
  · rw [if_pos cleanup, Covers, Slot.expire, nonempty_getD, pruned_getD]
    apply prune_spares arrival.now _ _ covers
    intro t member
    exact keeps (.inl cleanup) t (covers.subset member) (counting_young _ _ _ t member)
  · rw [if_neg cleanup]
    exact covers

theorem kept_young (engine : StatefulDetectionEngine Rat) (arrival : Arrival Rat) (rules : List (EvaluatedRule Rat))
    (window : List (Observed Rat)) (covers : Covers interval (slotAt engine rule.id key) window arrival.now)
    (keeps : KeepsInterval rule key interval rules engine arrival)
    (used : slotRulesAt engine rule.id key arrival rules ≠ []) :
    ∀ t ∈ counting arrival.now interval (connectionTimes window), arrival.now - t < 60 :=
  fun t member => keeps (.inr used) t (covers.subset member) (counting_young _ _ _ t member)

theorem counted_uses_slot (engine : StatefulDetectionEngine Rat) (arrival : Arrival Rat)
    (rules : List (EvaluatedRule Rat)) (member : rule ∈ rules) (counted : countsFor engine rule key arrival = true) :
    rule ∈ slotRulesAt engine rule.id key arrival rules := by
  rw [slotRulesAt, slotRules, List.mem_filter]
  refine ⟨member, ?_⟩
  rw [beq_self_eq_true, Bool.true_and]
  exact counted

theorem step_covers (engine : StatefulDetectionEngine Rat) (arrival : Arrival Rat) (member : rule ∈ engine.rules)
    (history : List (Observed Rat))
    (covers : Covers interval (slotAt engine rule.id key) (sinceLastAlert history) arrival.now)
    (keeps : KeepsInterval rule key interval engine.rules engine arrival) :
    Covers interval (slotAt (step localTime engine arrival) rule.id key)
      (sinceLastAlert (history ++ [observe localTime rule key engine arrival])) arrival.now := by
  have expired := expired_covers rule key interval engine arrival engine.rules _ covers keeps
  rw [since_last_alert_concat, observe_reported, observe_counted]
  by_cases reported : (reports rule.id key (alertsOf localTime engine arrival)).isEmpty = true
  · rw [if_pos reported, engine_slot]
    rw [List.isEmpty_iff, engine_reports, List.map_eq_nil_iff] at reported
    by_cases counted : countsFor engine rule key arrival = true
    · have used := List.ne_nil_of_mem (counted_uses_slot rule key engine arrival engine.rules member counted)
      have young := kept_young rule key interval engine arrival engine.rules _ covers keeps used
      have stored := silent_steps_add _ used reported expired young
      rw [if_pos counted, Covers, connection_times_concat]
      refine List.Sublist.trans ?_ stored
      have observedNew : (observe localTime rule key engine arrival).isNew = isNewTcpConn arrival.pkt := rfl
      have observedNow : (observe localTime rule key engine arrival).now = arrival.now := rfl
      rw [observedNew, observedNow]
      cases isNewTcpConn arrival.pkt with
      | false => exact List.Sublist.refl _
      | true =>
          rw [if_pos rfl, counting, List.filter_append]
          exact (List.Sublist.refl _).append List.filter_sublist
    · rw [if_neg counted]
      exact silent_steps_keep _ reported expired
        (fun used => kept_young rule key interval engine arrival engine.rules _ covers keeps used)
  · rw [if_neg reported]
    exact List.nil_sublist _

theorem run_covers (engine : StatefulDetectionEngine Rat) (member : rule ∈ engine.rules) (arrivals : List (Arrival Rat))
    (ordered : (arrivals.map Arrival.now).Pairwise (· ≤ ·)) (now : Rat)
    (after : ∀ arrival ∈ arrivals, arrival.now ≤ now)
    (keeps : EveryStep localTime (fun state arrival => KeepsInterval rule key interval state.rules state arrival)
      engine arrivals) :
    Covers interval (slotAt (run localTime engine arrivals) rule.id key)
      (sinceLastAlert (observations localTime rule key engine arrivals)) now := by
  induction arrivals using List.reverseRecOn generalizing now with
  | nil => exact List.nil_sublist _
  | append_singleton arrivals arrival ih =>
      obtain ⟨orderedBefore, before⟩ := ordered_concat arrivals arrival ordered
      obtain ⟨keepsBefore, keepsLast⟩ := every_step_concat localTime _ engine arrivals arrival keeps
      have covers := ih orderedBefore arrival.now before keepsBefore
      have rules := run_rules localTime engine arrivals
      rw [run_concat, observations_concat]
      exact (step_covers localTime rule key interval _ arrival (by rwa [rules]) _ covers keepsLast).later now
        (after arrival (by simp))

end Run

theorem covered_limit_fires (rule : EvaluatedRule Rat) (limit : LimitConfig Rat)
    (configured : connRateLimit rule = some limit) (positive : 1 ≤ limit.connections.toNat) (now : Rat)
    (slot : Slot Rat) (window : List (Observed Rat)) (seen : Observed Rat) (sameNow : seen.now = now)
    (isNew : seen.isNew = true) (covers : Covers limit.interval slot window now)
    (reached : limit.connections.toNat ≤ connectionCount now limit.interval (window ++ [seen])) :
    (Slot.step rule true now slot).2 ≠ none := by
  intro silent
  obtain ⟨_, noConnections⟩ := silent_triggers rule _ _ now silent
  have few := silent_connection_trigger rule _ now limit configured noConnections
  have stored := record_covers true now slot _ covers
  have window_times : counting now limit.interval (connectionTimes (window ++ [seen])) =
      counting now limit.interval (connectionTimes window) ++ counting now limit.interval [now] := by
    rw [connection_times_concat, if_pos isNew, sameNow, counting, List.filter_append]
    rfl
  have inside : (counting now limit.interval (connectionTimes (window ++ [seen]))).Sublist
      ((slot.record true now).connections.getD []) := by
    rw [window_times]
    exact ((List.Sublist.refl _).append List.filter_sublist).trans stored
  have many : (counting now limit.interval (connectionTimes (window ++ [seen]))).countP
      (fun t => decide (now - t < limit.interval)) ≤
        ((slot.record true now).connections.getD []).countP fun t => decide (now - t < limit.interval) :=
    inside.countP_le
  rw [counting, List.countP_filter] at many
  simp only [Bool.and_self] at many
  rw [connection_times_count] at many
  omega

theorem covered_packet_fires (localTime : Nat → String) (engine : StatefulDetectionEngine Rat)
    (before after : List (EvaluatedRule Rat)) (rule : EvaluatedRule Rat) (listed : engine.rules = before ++ rule :: after)
    (limit : LimitConfig Rat) (configured : connRateLimit rule = some limit) (positive : 1 ≤ limit.connections.toNat)
    (key : String) (window : List (Observed Rat)) (arrival : Arrival Rat)
    (covers : Covers limit.interval (slotAt engine rule.id key) window arrival.now)
    (keeps : KeepsInterval rule key limit.interval before engine arrival)
    (counted : countsFor engine rule key arrival = true) (isNew : isNewTcpConn arrival.pkt = true)
    (reached : limit.connections.toNat ≤
      connectionCount arrival.now limit.interval (window ++ [observe localTime rule key engine arrival])) :
    reports rule.id key (alertsOf localTime engine arrival) ≠ [] := by
  have expired := expired_covers rule key limit.interval engine arrival before _ covers keeps
  intro silent
  rw [engine_reports, List.map_eq_nil_iff, listed] at silent
  rw [slot_rules_at_turn engine before after rule key arrival counted, steps_append] at silent
  obtain ⟨silentBefore, silentRule⟩ := List.append_eq_nil_iff.mp silent
  -- the rules before it leave the window in the slot
  have reachedSlot := silent_steps_keep _ silentBefore expired
    (fun used => kept_young rule key limit.interval _ arrival before _ covers keeps used)
  obtain ⟨quiet, _⟩ := silent_cons silentRule
  rw [isNew] at quiet reachedSlot
  exact covered_limit_fires rule limit configured positive arrival.now _ _ (observe localTime rule key engine arrival)
    rfl isNew reachedSlot reached quiet

section OwnTurn

variable (engine : StatefulDetectionEngine Rat) (before : List (EvaluatedRule Rat)) (rule : EvaluatedRule Rat)
variable (key : String) (arrival : Arrival Rat)

-- With no other rule of its id before it, a rule finds its slot as the cleanup
-- has left it.
theorem turn_slot_alone (alone : ∀ other ∈ before, other.id ≠ rule.id) :
    slotOf (turnTrackers engine before arrival) rule.id key = slotAt (expireStates engine arrival.now) rule.id key := by
  have unused : slotRules (matchesAt engine arrival.pkt arrival.now) arrival.pkt rule.id key before = [] := by
    apply List.filter_eq_nil_iff.mpr
    intro other member
    rw [beq_false_of_ne (alone other member), Bool.false_and]
    exact Bool.false_ne_true
  rw [turnTrackers, rules_slot, unused]
  rfl

theorem rule_alert_alone (alone : ∀ other ∈ before, other.id ≠ rule.id)
    (counted : countsFor engine rule key arrival = true) :
    ruleAlert engine before rule arrival =
      (Slot.step rule (isNewTcpConn arrival.pkt) arrival.now (slotAt (expireStates engine arrival.now) rule.id key)).2.map
        (pendingAlert rule key) := by
  rw [countsFor, Bool.and_eq_true, beq_iff_eq] at counted
  obtain ⟨matched, own⟩ := counted
  rw [ruleAlert, evaluateRule, if_pos matched, matched_alert, own, turn_slot_alone engine before rule key arrival alone]

theorem message_created (localTime : Nat → String) (iface : String) (counter : Nat) (pending : List PendingAlert)
    (alert : PendingAlert) (raised : alert ∈ pending) :
    ∃ number, createMessage localTime iface number alert ∈ createMessages localTime iface counter pending := by
  induction pending generalizing counter with
  | nil => cases raised
  | cons first rest ih =>
      rw [createMessages]
      cases List.mem_cons.mp raised with
      | inl same => exact ⟨counter, by rw [same]; exact List.mem_cons_self⟩
      | inr later =>
          obtain ⟨number, created⟩ := ih (counter + 1) later
          exact ⟨number, List.mem_cons_of_mem _ created⟩

end OwnTurn

-- Detection is complete as long as the rule has its id to itself and no step
-- throws away a timestamp that the interval still counts: for the packet itself
-- that is up to the rule's turn.
theorem detection_complete_while_kept (localTime : Nat → String) (engine : StatefulDetectionEngine Rat)
    (before after : List (EvaluatedRule Rat)) (rule : EvaluatedRule Rat) (listed : engine.rules = before ++ rule :: after)
    (alone : ∀ other ∈ before ++ after, other.id ≠ rule.id)
    (limit : LimitConfig Rat) (configured : connRateLimit rule = some limit) (positive : 1 ≤ limit.connections.toNat)
    (key : String) (arrivals : List (Arrival Rat)) (arrival : Arrival Rat)
    (ordered : ((arrivals ++ [arrival]).map Arrival.now).Pairwise (· ≤ ·))
    (keeps : EveryStep localTime (fun state earlier => KeepsInterval rule key limit.interval state.rules state earlier)
      engine arrivals)
    (keepsLast : KeepsInterval rule key limit.interval before (run localTime engine arrivals) arrival)
    (counted : countsFor (run localTime engine arrivals) rule key arrival = true)
    (isNew : isNewTcpConn arrival.pkt = true)
    (reached : limit.connections.toNat ≤ connectionCount arrival.now limit.interval
      (sinceLastAlert (observations localTime rule key engine arrivals) ++
        [observe localTime rule key (run localTime engine arrivals) arrival])) :
    ∃ count, ruleAlert (run localTime engine arrivals) before rule arrival = some (pendingAlert rule key count) ∧
      ∃ number, createMessage localTime (run localTime engine arrivals).iface number (pendingAlert rule key count) ∈
        alertsOf localTime (run localTime engine arrivals) arrival := by
  obtain ⟨orderedBefore, earlier⟩ := ordered_concat arrivals arrival ordered
  have member : rule ∈ engine.rules := by simp [listed]
  have covers := run_covers localTime rule key limit.interval engine member arrivals orderedBefore arrival.now earlier
    keeps
  have rules := run_rules localTime engine arrivals
  have expired := expired_covers rule key limit.interval _ arrival before _ covers keepsLast
  have fires := covered_limit_fires rule limit configured positive arrival.now _ _
    (observe localTime rule key (run localTime engine arrivals) arrival) rfl isNew expired reached
  obtain ⟨count, triggered⟩ := Option.ne_none_iff_exists'.mp fires
  have aloneBefore : ∀ other ∈ before, other.id ≠ rule.id :=
    fun other inside => alone other (List.mem_append_left _ inside)
  have raised := rule_alert_alone _ before rule key arrival aloneBefore counted
  rw [isNew, triggered] at raised
  refine ⟨count, raised, ?_⟩
  have pending := rule_alert_raised _ before after rule (by rwa [rules]) arrival _ raised
  rw [alertsOf, processPacket]
  dsimp only
  rw [expire_iface]
  exact message_created localTime _ _ _ _ pending

def twoConnections (interval : Rat) : LimitConfig Rat := ⟨"src_ip", 2, interval⟩

def twoConnectionsRule (interval : Rat) : EvaluatedRule Rat :=
  catchAllRule 1 none (some (HashMap.empty.insert "max_conn_rate" (twoConnections interval)))

theorem two_connections_limit (interval : Rat) :
    connRateLimit (twoConnectionsRule interval) = some (twoConnections interval) := by
  show (HashMap.empty.insert "max_conn_rate" (twoConnections interval)).lookup "max_conn_rate" = _
  rw [HashMap.lookup_insert, if_pos rfl]

theorem close_connections_detected :
    ∃ count, ruleAlert (run (fun _ => "") (startedWith [twoConnectionsRule 10]) [bareArrival 0]) []
        (twoConnectionsRule 10) (bareArrival 7) =
          some (pendingAlert (twoConnectionsRule 10) "00:00:00:00:00:00" count) ∧
      ∃ number, createMessage (fun _ => "")
        (run (fun _ => "") (startedWith [twoConnectionsRule 10]) [bareArrival 0]).iface number
          (pendingAlert (twoConnectionsRule 10) "00:00:00:00:00:00" count) ∈
            alertsOf (fun _ => "") (run (fun _ => "") (startedWith [twoConnectionsRule 10]) [bareArrival 0])
              (bareArrival 7) := by
  have keeps (rules : List (EvaluatedRule Rat)) (engine : StatefulDetectionEngine Rat) (arrival : Arrival Rat) :=
    keeps_short (twoConnectionsRule 10) "00:00:00:00:00:00" 10 rules engine arrival (by norm_num)
  apply detection_complete_while_kept (fun _ => "") (startedWith [twoConnectionsRule 10]) [] [] (twoConnectionsRule 10)
    rfl (by simp) (twoConnections 10) (two_connections_limit 10) (by decide) "00:00:00:00:00:00" [bareArrival 0]
    (bareArrival 7)
  case ordered => simp [bareArrival]
  case keeps =>
    intro earlier arrival later _
    exact keeps _ _ arrival
  case keepsLast => exact keeps [] _ (bareArrival 7)
  case counted => decide +kernel
  case isNew => decide +kernel
  case reached => decide +kernel

-- Seventy seconds apart, within a hundred: the first is gone before the second
-- is counted.
theorem distant_connections_missed :
    connRateLimit (twoConnectionsRule 100) = some (twoConnections 100) ∧
    countsFor (run (fun _ => "") (startedWith [twoConnectionsRule 100]) [bareArrival 0]) (twoConnectionsRule 100)
      "00:00:00:00:00:00" (bareArrival 70) = true ∧
    isNewTcpConn (bareArrival 70).pkt = true ∧
    connectionCount 70 100 (sinceLastAlert (observations (fun _ => "") (twoConnectionsRule 100) "00:00:00:00:00:00"
      (startedWith [twoConnectionsRule 100]) [bareArrival 0]) ++
        [observe (fun _ => "") (twoConnectionsRule 100) "00:00:00:00:00:00"
          (run (fun _ => "") (startedWith [twoConnectionsRule 100]) [bareArrival 0]) (bareArrival 70)]) = 2 ∧
    reports 1 "00:00:00:00:00:00" (alertsOf (fun _ => "")
      (run (fun _ => "") (startedWith [twoConnectionsRule 100]) [bareArrival 0]) (bareArrival 70)) = [] := by
  refine ⟨two_connections_limit 100, ?_, ?_, ?_, ?_⟩ <;> decide +kernel

end NetworkIds.Engine
