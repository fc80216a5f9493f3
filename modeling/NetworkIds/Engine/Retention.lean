import NetworkIds.Engine.RuleLoop
import Mathlib.Data.List.Induction
import Mathlib.Data.List.Infix
import Mathlib.Tactic.Linarith

set_option autoImplicit false

namespace NetworkIds.Engine

open NetworkIds.Parser

section Trackers

variable {τ : Type}

def AllTimestamps (holds : τ → Prop) (tracker : RateTracker τ) : Prop :=
  ∀ id key timestamps, getTimestamps tracker id key = some timestamps → ∀ t ∈ timestamps, holds t

variable {holds : τ → Prop} {tracker : RateTracker τ}

theorem AllTimestamps.mono {weaker : τ → Prop} (all : AllTimestamps holds tracker)
    (implied : ∀ t, holds t → weaker t) : AllTimestamps weaker tracker :=
  fun id key timestamps entry t member => implied t (all id key timestamps entry t member)

theorem AllTimestamps.push (all : AllTimestamps holds tracker) (id : UInt32) (key : String) (now : τ)
    (current : holds now) : AllTimestamps holds (pushTimestamp tracker id key now) := by
  intro elsewhere sender timestamps entry t member
  rw [get_push] at entry
  by_cases same : elsewhere = id ∧ sender = key
  · rw [if_pos same] at entry
    cases entry
    rcases List.mem_append.mp member with old | new
    · cases stored : getTimestamps tracker id key with
      | none =>
          rw [stored] at old
          cases old
      | some ts =>
          rw [stored] at old
          exact all id key ts stored t old
    · rw [List.mem_singleton.mp new]
      exact current
  · rw [if_neg same] at entry
    exact all elsewhere sender timestamps entry t member

theorem AllTimestamps.remove (all : AllTimestamps holds tracker) (id : UInt32) (key : String) :
    AllTimestamps holds (removeTimestamps tracker id key) := by
  intro elsewhere sender timestamps entry
  rw [get_remove] at entry
  by_cases same : elsewhere = id ∧ sender = key
  · rw [if_pos same] at entry
    cases entry
  · rw [if_neg same] at entry
    exact all elsewhere sender timestamps entry

variable [Sub τ] [LT τ] [DecidableLT τ] [Timestamp τ]

theorem AllTimestamps.prune (all : AllTimestamps holds tracker) (id : UInt32) (key : String) (now : τ) :
    AllTimestamps holds (pruneTimestamps tracker id key now) := by
  intro elsewhere sender timestamps entry t member
  rw [get_prune] at entry
  by_cases same : elsewhere = id ∧ sender = key
  · rw [if_pos same] at entry
    obtain ⟨stored, present, kept⟩ := Option.map_eq_some_iff.mp entry
    rw [← kept] at member
    exact all id key stored present t (List.mem_of_mem_filter member)
  · rw [if_neg same] at entry
    exact all elsewhere sender timestamps entry t member

theorem expire_timestamps (tracker : RateTracker τ) (now : τ) :
    AllTimestamps (fun t => within now 60 t = true) (expireTracker now tracker) := by
  intro id key timestamps entry t member
  rw [get_expire] at entry
  obtain ⟨stored, _, kept⟩ := Option.map_eq_some_iff.mp (Option.filter_eq_some_iff.mp entry).1
  rw [← kept] at member
  exact (List.mem_filter.mp member).2

structure AllTracked (holds : τ → Prop) (trackers : RateTrackers τ) : Prop where
  rate : AllTimestamps holds trackers.ruleRateTracker
  conn : AllTimestamps holds trackers.connRateTracker

variable {trackers : RateTrackers τ}

omit [Sub τ] [LT τ] [DecidableLT τ] [Timestamp τ] in
theorem AllTracked.record (all : AllTracked holds trackers) (id : UInt32) (key : String) (pkt : ParsedPacket) (now : τ)
    (current : holds now) : AllTracked holds (recordPacket id key pkt now trackers) where
  rate := all.rate.push id key now current
  conn := by
    rw [recordPacket]
    by_cases isNew : isNewTcpConn pkt
    · simp only [isNew, if_true]
      exact all.conn.push id key now current
    · simp only [isNew, Bool.false_eq_true, if_false]
      exact all.conn

theorem AllTracked.settle (all : AllTracked holds trackers) (id : UInt32) (key : String) (now : τ) (triggered : Bool) :
    AllTracked holds (settleTrackers id key now triggered trackers) := by
  have rate := all.rate.prune id key now
  have conn := all.conn.prune id key now
  cases triggered with
  | false => exact ⟨rate, conn⟩
  | true => exact ⟨rate.remove id key, conn.remove id key⟩

theorem AllTracked.rule (all : AllTracked holds trackers) (isMatch : EvaluatedRule τ → Bool) (pkt : ParsedPacket)
    (now : τ) (current : holds now) (rule : EvaluatedRule τ) :
    AllTracked holds (evaluateRule isMatch pkt now trackers rule).1 := by
  rw [evaluateRule]
  by_cases matched : isMatch rule
  · rw [if_pos matched]
    exact (all.record rule.id _ pkt now current).settle rule.id _ now _
  · rw [if_neg matched]
    exact all

theorem AllTracked.rules (all : AllTracked holds trackers) (isMatch : EvaluatedRule τ → Bool) (pkt : ParsedPacket)
    (now : τ) (current : holds now) (rules : List (EvaluatedRule τ)) :
    AllTracked holds (evaluateRules isMatch pkt now trackers rules).1 := by
  induction rules generalizing trackers with
  | nil => exact all
  | cons rule rest ih => exact ih (all.rule isMatch pkt now current rule)

end Trackers

section Connections

variable {τ : Type}

theorem track_connection_cases (table : ConnTable τ) (pkt : ParsedPacket) (now : τ) (key : ConnKey) :
    (trackConnection table pkt now).lookup key = table.lookup key ∨
    (trackConnection table pkt now).lookup key = some (.new, now) ∨
    (trackConnection table pkt now).lookup key = some (.established, now) ∨
    ∃ old, table.lookup key = some old ∧
      ((trackConnection table pkt now).lookup key = some (.closing, now) ∨
        (trackConnection table pkt now).lookup key = some (old.1, now)) := by
  rw [lookup_track]
  unfold trackEntry
  cases pkt.transport with
  | tcp tcp =>
      dsimp only
      by_cases syn : isFreshSyn tcp
      · rw [if_pos syn]
        by_cases own : key = connKey pkt tcp
        · exact .inr (.inl (if_pos own))
        · exact .inl (if_neg own)
      · rw [if_neg syn]
        by_cases synAck : (hasFlag tcp tcpFlagSyn && hasFlag tcp tcpFlagAck) = true
        · rw [if_pos synAck]
          by_cases touched : key = connKey pkt tcp ∨ key = revConnKey pkt tcp
          · exact .inr (.inr (.inl (if_pos touched)))
          · exact .inl (if_neg touched)
        · rw [if_neg synAck]
          by_cases own : key = connKey pkt tcp
          · rw [if_pos own, if_pos own]
            cases table.lookup key with
            | none => exact .inl (ite_self none)
            | some old =>
                refine .inr (.inr (.inr ⟨old, rfl, ?_⟩))
                by_cases teardown : (hasFlag tcp tcpFlagFin || hasFlag tcp tcpFlagRst) = true
                · exact .inl (if_pos teardown)
                · exact .inr (if_neg teardown)
          · rw [if_neg own, if_neg own]
            exact .inl (ite_self _)
  | udp udp => exact .inl rfl
  | icmp icmp => exact .inl rfl
  | none => exact .inl rfl

def refreshes (table : ConnTable τ) (pkt : ParsedPacket) (key : ConnKey) : Bool :=
  match pkt.transport with
  | .tcp tcp =>
      if isFreshSyn tcp then key == connKey pkt tcp
      else if hasFlag tcp tcpFlagSyn && hasFlag tcp tcpFlagAck then
        key == connKey pkt tcp || key == revConnKey pkt tcp
      else if hasFlag tcp tcpFlagFin || hasFlag tcp tcpFlagRst then false
      else key == connKey pkt tcp && table.containsKey key
  | _ => false

theorem refreshed_entry (table : ConnTable τ) (pkt : ParsedPacket) (now : τ) (key : ConnKey)
    (refreshed : refreshes table pkt key = true) :
    ∃ state, (trackConnection table pkt now).lookup key = some (state, now) := by
  rw [lookup_track]
  unfold refreshes at refreshed
  unfold trackEntry
  cases transport : pkt.transport with
  | tcp tcp =>
      rw [transport] at refreshed
      dsimp only at refreshed ⊢
      by_cases syn : isFreshSyn tcp
      · rw [if_pos syn] at refreshed ⊢
        exact ⟨.new, if_pos (beq_iff_eq.mp refreshed)⟩
      · rw [if_neg syn] at refreshed ⊢
        by_cases synAck : (hasFlag tcp tcpFlagSyn && hasFlag tcp tcpFlagAck) = true
        · rw [if_pos synAck] at refreshed ⊢
          have touched : key = connKey pkt tcp ∨ key = revConnKey pkt tcp := by simpa using refreshed
          exact ⟨.established, if_pos touched⟩
        · rw [if_neg synAck] at refreshed ⊢
          by_cases teardown : (hasFlag tcp tcpFlagFin || hasFlag tcp tcpFlagRst) = true
          · rw [if_pos teardown] at refreshed
            cases refreshed
          · rw [if_neg teardown] at refreshed ⊢
            obtain ⟨own, present⟩ := Bool.and_eq_true_iff.mp refreshed
            obtain ⟨old, stored⟩ := Option.isSome_iff_exists.mp present
            rw [if_pos (beq_iff_eq.mp own), stored]
            exact ⟨old.1, rfl⟩
  | udp udp =>
      rw [transport] at refreshed
      cases refreshed
  | icmp icmp =>
      rw [transport] at refreshed
      cases refreshed
  | none =>
      rw [transport] at refreshed
      cases refreshed

end Connections

-- From here on times are exact.

theorem within_iff (now t : Rat) (window : Nat) : within now window t = true ↔ now - t < window := decide_eq_true_iff

structure Bounded (engine : StatefulDetectionEngine Rat) : Prop where
  clients : engine.clients.All fun _ client => engine.lastCleanupTime - client.lastSeen < 300
  accessPoints : engine.accessPoints.All fun _ ap => engine.lastCleanupTime - ap.lastSeen < 300
  connections : engine.tcpConnTable.All fun _ entry => engine.lastCleanupTime - entry.2 < 300
  trackers : AllTracked (fun t => engine.lastCleanupTime - t < 60) engine.toRateTrackers

theorem new_bounded (iface : String) (selfIps : List IpAddr) (rulesLoaded : List (RuleConfig Rat)) :
    Bounded (StatefulDetectionEngine.new iface selfIps rulesLoaded) := by
  refine ⟨HashMap.all_empty _, HashMap.all_empty _, HashMap.all_empty _, ?_, ?_⟩
  · intro id key timestamps entry
    cases entry
  · intro id key timestamps entry
    cases entry

theorem expire_bounded (engine : StatefulDetectionEngine Rat) (now : Rat) (bounded : Bounded engine) :
    Bounded (expireStates engine now) := by
  rw [expireStates]
  by_cases due : cleanupDue engine now
  · rw [if_pos due]
    refine ⟨?_, ?_, ?_, ?_, ?_⟩
    · exact (HashMap.all_retain _ _).mono fun _ client kept => (within_iff now client.lastSeen 300).mp kept
    · exact (HashMap.all_retain _ _).mono fun _ ap kept => (within_iff now ap.lastSeen 300).mp kept
    · refine (HashMap.all_retain engine.tcpConnTable _).mono ?_
      intro key entry kept
      exact (within_iff now entry.2 300).mp (Bool.and_eq_true_iff.mp kept).2
    · exact (expire_timestamps engine.ruleRateTracker now).mono fun t kept => (within_iff now t 60).mp kept
    · exact (expire_timestamps engine.connRateTracker now).mono fun t kept => (within_iff now t 60).mp kept
  · rw [if_neg due]
    exact bounded

theorem expire_recent (engine : StatefulDetectionEngine Rat) (now : Rat) :
    now - (expireStates engine now).lastCleanupTime < 5 := by
  rw [expireStates]
  by_cases due : cleanupDue engine now
  · rw [if_pos due]
    show now - now < 5
    norm_num
  · rw [if_neg due]
    have recent : within now 5 engine.lastCleanupTime = true := by simpa [cleanupDue] using due
    exact (within_iff now engine.lastCleanupTime 5).mp recent

theorem expire_not_ahead (engine : StatefulDetectionEngine Rat) (now : Rat) (ordered : engine.lastCleanupTime ≤ now) :
    (expireStates engine now).lastCleanupTime ≤ now := by
  rw [expireStates]
  by_cases due : cleanupDue engine now
  · rw [if_pos due]
  · rw [if_neg due]
    exact ordered

variable (localTime : Nat → String)

theorem step_cleanup_time (engine : StatefulDetectionEngine Rat) (arrival : Arrival Rat) :
    (step localTime engine arrival).lastCleanupTime = (expireStates engine arrival.now).lastCleanupTime := rfl

theorem step_bounded (engine : StatefulDetectionEngine Rat) (arrival : Arrival Rat)
    (ordered : engine.lastCleanupTime ≤ arrival.now) (bounded : Bounded engine) :
    Bounded (step localTime engine arrival) := by
  have expired := expire_bounded engine arrival.now bounded
  have current : (expireStates engine arrival.now).lastCleanupTime - arrival.now < 60 := by
    have behind := expire_not_ahead engine arrival.now ordered
    linarith
  have recent : (expireStates engine arrival.now).lastCleanupTime - arrival.now < 300 := by linarith
  refine ⟨?_, ?_, ?_, ?_⟩
  · show (trackClient (expireStates engine arrival.now).clients arrival.pkt arrival.now).All _
    rw [trackClient]
    by_cases counted : isClientMac arrival.pkt.srcMac
    · rw [if_pos counted]
      exact expired.clients.upsert _ _ _ fun _ => recent
    · rw [if_neg counted]
      exact expired.clients
  · show (trackAccessPoint (expireStates engine arrival.now).accessPoints arrival.pkt arrival.now).All _
    rw [trackAccessPoint]
    cases beaconOf arrival.pkt with
    | none => exact expired.accessPoints
    | some beacon => exact expired.accessPoints.upsert _ _ _ fun _ => recent
  · intro key entry present
    rcases track_connection_cases (expireStates engine arrival.now).tcpConnTable arrival.pkt arrival.now key with
      same | fresh | promoted | ⟨old, stored, closed | refreshed⟩
    · exact expired.connections key entry (same.symm.trans present)
    · cases Option.some.inj (fresh.symm.trans present)
      exact recent
    · cases Option.some.inj (promoted.symm.trans present)
      exact recent
    · cases Option.some.inj (closed.symm.trans present)
      exact recent
    · cases Option.some.inj (refreshed.symm.trans present)
      exact recent
  · exact expired.trackers.rules _ arrival.pkt arrival.now current engine.rules

theorem run_bounded (engine : StatefulDetectionEngine Rat) (bounded : Bounded engine) (arrivals : List (Arrival Rat))
    (ordered : (arrivals.map Arrival.now).Pairwise (· ≤ ·))
    (started : ∀ arrival ∈ arrivals, engine.lastCleanupTime ≤ arrival.now) :
    Bounded (run localTime engine arrivals) ∧ ∀ now, engine.lastCleanupTime ≤ now →
      (∀ arrival ∈ arrivals, arrival.now ≤ now) → (run localTime engine arrivals).lastCleanupTime ≤ now := by
  induction arrivals using List.reverseRecOn with
  | nil => exact ⟨bounded, fun now behind _ => behind⟩
  | append_singleton arrivals arrival ih =>
      obtain ⟨orderedBefore, before⟩ := ordered_concat arrivals arrival ordered
      have startedAt : engine.lastCleanupTime ≤ arrival.now := started arrival (by simp)
      obtain ⟨kept, notAhead⟩ := ih orderedBefore fun earlier inside => started earlier (List.mem_append_left _ inside)
      have behind := notAhead arrival.now startedAt before
      rw [run_concat]
      refine ⟨step_bounded localTime _ arrival behind kept, ?_⟩
      intro now _ after
      exact le_trans (expire_not_ahead _ arrival.now behind) (after arrival (by simp))

def ClosingAt (engine : StatefulDetectionEngine Rat) (key : ConnKey) : Prop :=
  ∃ seen, engine.tcpConnTable.lookup key = some (.closing, seen)

theorem closing_not_cleaned (engine : StatefulDetectionEngine Rat) (arrival : Arrival Rat) (key : ConnKey)
    (before : ClosingAt engine key) (closing : ClosingAt (step localTime engine arrival) key) :
    cleanupDue engine arrival.now = false := by
  by_contra due
  have due : cleanupDue engine arrival.now = true := by simpa using due
  obtain ⟨seen, stored⟩ := before
  obtain ⟨later, present⟩ := closing
  have gone : (expireStates engine arrival.now).tcpConnTable.lookup key = none := by
    rw [expireStates, if_pos due]
    show (expireConnections arrival.now engine.tcpConnTable).lookup key = none
    rw [expireConnections, HashMap.lookup_retain, stored]
    rfl
  rcases track_connection_cases (expireStates engine arrival.now).tcpConnTable arrival.pkt arrival.now key with
    same | fresh | promoted | ⟨old, found, _⟩
  · cases present.symm.trans (same.trans gone)
  · cases present.symm.trans fresh
  · cases present.symm.trans promoted
  · cases gone.symm.trans found

structure EnteredClosing (start : StatefulDetectionEngine Rat) (key : ConnKey) (before : List (Arrival Rat))
    (entering : Arrival Rat) (after : List (Arrival Rat)) : Prop where
  entered : ¬ClosingAt (run localTime start before) key
  since : ∀ middle, middle <+: after → ClosingAt (run localTime start (before ++ entering :: middle)) key

theorem closing_entered (start : StatefulDetectionEngine Rat) (key : ConnKey) (opened : ¬ClosingAt start key)
    (arrivals : List (Arrival Rat)) (ordered : (arrivals.map Arrival.now).Pairwise (· ≤ ·))
    (started : ∀ arrival ∈ arrivals, start.lastCleanupTime ≤ arrival.now) (bounded : Bounded start)
    (closing : ClosingAt (run localTime start arrivals) key) :
    ∃ before entering after, arrivals = before ++ entering :: after ∧
      EnteredClosing localTime start key before entering after ∧
      (run localTime start arrivals).lastCleanupTime ≤ entering.now := by
  induction arrivals using List.reverseRecOn with
  | nil => exact absurd closing opened
  | append_singleton arrivals arrival ih =>
      obtain ⟨orderedBefore, inOrder⟩ := ordered_concat arrivals arrival ordered
      have earlierStarted : ∀ earlier ∈ arrivals, start.lastCleanupTime ≤ earlier.now :=
        fun earlier inside => started earlier (List.mem_append_left _ inside)
      by_cases was : ClosingAt (run localTime start arrivals) key
      · obtain ⟨before, entering, after, split, entered, recent⟩ := ih orderedBefore earlierStarted was
        refine ⟨before, entering, after ++ [arrival], by rw [split, List.append_assoc, List.cons_append], ?_, ?_⟩
        · refine ⟨entered.entered, ?_⟩
          intro middle reached
          rcases List.prefix_concat_iff.mp reached with whole | earlier
          · rw [whole, ← List.cons_append, ← List.append_assoc, ← split]
            exact closing
          · exact entered.since middle earlier
        · rw [run_concat] at closing ⊢
          have kept := closing_not_cleaned localTime _ arrival key was closing
          rw [step_cleanup_time, expireStates, if_neg (by simp [kept])]
          exact recent
      · refine ⟨arrivals, arrival, [], rfl, ⟨was, ?_⟩, ?_⟩
        · intro middle reached
          rw [List.prefix_nil.mp reached]
          exact closing
        · have behind := (run_bounded localTime start bounded arrivals orderedBefore earlierStarted).2 arrival.now
            (started arrival (by simp)) inOrder
          rw [run_concat]
          exact expire_not_ahead _ arrival.now behind

theorem run_append (start : StatefulDetectionEngine Rat) (before : List (Arrival Rat)) (sent : Arrival Rat)
    (after : List (Arrival Rat)) : run localTime start (before ++ sent :: after) =
      run localTime (step localTime (run localTime start before) sent) after := by
  rw [← run_after]
  rfl

-- A time of last use that survives every packet within 300 s of it survives a run:
-- seen reads it off the engine, blocked are the engines that may forget it.
theorem seen_kept (seen : StatefulDetectionEngine Rat → Option Rat) (blocked : StatefulDetectionEngine Rat → Prop)
    (kept : ∀ engine arrival t, seen engine = some t → ¬blocked engine → arrival.now - t < 300 →
      seen (step localTime engine arrival) = some t ∨ seen (step localTime engine arrival) = some arrival.now)
    (engine : StatefulDetectionEngine Rat) (t : Rat) (present : seen engine = some t) (after : List (Arrival Rat))
    (unblocked : ∀ middle, middle <+: after → ¬blocked (run localTime engine middle)) (now : Rat)
    (later : ∀ arrival ∈ after, t ≤ arrival.now ∧ arrival.now ≤ now) (recent : now - t < 300) :
    ∃ last, t ≤ last ∧ seen (run localTime engine after) = some last := by
  induction after using List.reverseRecOn with
  | nil => exact ⟨t, le_refl t, present⟩
  | append_singleton after arrival ih =>
      obtain ⟨last, ordered, still⟩ := ih (fun middle reached => unblocked middle (reached.trans (List.prefix_append _ _)))
        fun earlier inside => later earlier (List.mem_append_left _ inside)
      obtain ⟨afterSent, beforeNow⟩ := later arrival (by simp)
      have close : arrival.now - last < 300 := by linarith
      rw [run_concat]
      rcases kept _ arrival last still (unblocked after (List.prefix_append _ _)) close with same | updated
      · exact ⟨last, ordered, same⟩
      · exact ⟨arrival.now, afterSent, updated⟩

def clientSeen (mac : Mac) (engine : StatefulDetectionEngine Rat) : Option Rat :=
  (engine.clients.lookup mac).map ClientState.lastSeen

def accessPointSeen (bssid : Mac) (engine : StatefulDetectionEngine Rat) : Option Rat :=
  (engine.accessPoints.lookup bssid).map AccessPoint.lastSeen

def connectionSeen (key : ConnKey) (engine : StatefulDetectionEngine Rat) : Option Rat :=
  (engine.tcpConnTable.lookup key).map Prod.snd

theorem seen_contains {K V : Type} [DecidableEq K] (map : HashMap K V) (key : K) (time : V → Rat) (t : Rat)
    (seen : (map.lookup key).map time = some t) : map.containsKey key = true := by
  obtain ⟨value, entry, _⟩ := Option.map_eq_some_iff.mp seen
  rw [HashMap.containsKey, entry]
  rfl

theorem client_tracked (engine : StatefulDetectionEngine Rat) (arrival : Arrival Rat)
    (counted : isClientMac arrival.pkt.srcMac = true) :
    clientSeen arrival.pkt.srcMac (step localTime engine arrival) = some arrival.now := by
  show ((trackClient (expireStates engine arrival.now).clients arrival.pkt arrival.now).lookup _).map _ = _
  rw [trackClient, if_pos counted, HashMap.lookup_upsert, if_pos rfl]
  rfl

theorem client_kept (mac : Mac) (engine : StatefulDetectionEngine Rat) (arrival : Arrival Rat) (t : Rat)
    (present : clientSeen mac engine = some t) (close : arrival.now - t < 300) :
    clientSeen mac (step localTime engine arrival) = some t ∨
      clientSeen mac (step localTime engine arrival) = some arrival.now := by
  obtain ⟨client, entry, seen⟩ := Option.map_eq_some_iff.mp present
  have expired : clientSeen mac (expireStates engine arrival.now) = some t := by
    rw [clientSeen, expireStates]
    by_cases due : cleanupDue engine arrival.now
    · rw [if_pos due]
      have emptied : (engine.clients.mapValues (ClientState.expire arrival.now)).lookup mac =
          some (client.expire arrival.now) := by
        rw [HashMap.lookup_map_values, entry]
        rfl
      rw [HashMap.lookup_retain_kept _ _ mac _ emptied ((within_iff _ _ 300).mpr (by rw [← seen] at close; exact close))]
      exact congrArg some seen
    · rw [if_neg due]
      exact present
  by_cases own : mac = arrival.pkt.srcMac ∧ isClientMac arrival.pkt.srcMac = true
  · obtain ⟨same, counted⟩ := own
    subst same
    exact .inr (client_tracked localTime engine arrival counted)
  · refine .inl (Eq.trans (congrArg (Option.map ClientState.lastSeen) ?_) expired)
    show (trackClient (expireStates engine arrival.now).clients arrival.pkt arrival.now).lookup mac = _
    rw [trackClient]
    by_cases counted : isClientMac arrival.pkt.srcMac = true
    · rw [if_pos counted, HashMap.lookup_upsert, if_neg fun same => own ⟨same, counted⟩]
    · rw [if_neg counted]

theorem access_point_tracked (engine : StatefulDetectionEngine Rat) (arrival : Arrival Rat) (bssid : Mac)
    (mgmt : WifiMgmtFrame) (beacon : beaconOf arrival.pkt = some (bssid, mgmt)) :
    accessPointSeen bssid (step localTime engine arrival) = some arrival.now := by
  show ((trackAccessPoint (expireStates engine arrival.now).accessPoints arrival.pkt arrival.now).lookup _).map _ = _
  rw [trackAccessPoint, beacon]
  dsimp only
  rw [HashMap.lookup_upsert, if_pos rfl]
  rfl

theorem access_point_kept (bssid : Mac) (engine : StatefulDetectionEngine Rat) (arrival : Arrival Rat) (t : Rat)
    (present : accessPointSeen bssid engine = some t) (close : arrival.now - t < 300) :
    accessPointSeen bssid (step localTime engine arrival) = some t ∨
      accessPointSeen bssid (step localTime engine arrival) = some arrival.now := by
  obtain ⟨ap, entry, seen⟩ := Option.map_eq_some_iff.mp present
  have expired : accessPointSeen bssid (expireStates engine arrival.now) = some t := by
    rw [accessPointSeen, expireStates]
    by_cases due : cleanupDue engine arrival.now
    · rw [if_pos due]
      rw [HashMap.lookup_retain_kept _ _ bssid _ entry ((within_iff _ _ 300).mpr (by rw [← seen] at close; exact close))]
      exact congrArg some seen
    · rw [if_neg due]
      exact present
  cases beacon : beaconOf arrival.pkt with
  | none =>
      refine .inl (Eq.trans (congrArg (Option.map AccessPoint.lastSeen) ?_) expired)
      show (trackAccessPoint (expireStates engine arrival.now).accessPoints arrival.pkt arrival.now).lookup bssid = _
      rw [trackAccessPoint, beacon]
  | some sender =>
      by_cases same : bssid = sender.1
      · subst same
        exact .inr (access_point_tracked localTime engine arrival sender.1 sender.2 beacon)
      · refine .inl (Eq.trans (congrArg (Option.map AccessPoint.lastSeen) ?_) expired)
        show (trackAccessPoint (expireStates engine arrival.now).accessPoints arrival.pkt arrival.now).lookup bssid = _
        rw [trackAccessPoint, beacon]
        exact HashMap.lookup_alter_other _ _ _ _ same

theorem connection_kept (key : ConnKey) (engine : StatefulDetectionEngine Rat) (arrival : Arrival Rat) (t : Rat)
    (present : connectionSeen key engine = some t) (opened : ¬ClosingAt engine key) (close : arrival.now - t < 300) :
    connectionSeen key (step localTime engine arrival) = some t ∨
      connectionSeen key (step localTime engine arrival) = some arrival.now := by
  obtain ⟨entry, stored, seen⟩ := Option.map_eq_some_iff.mp present
  have expired : connectionSeen key (expireStates engine arrival.now) = some t := by
    rw [connectionSeen, expireStates]
    by_cases due : cleanupDue engine arrival.now
    · have open_ : entry.1 ≠ .closing := by
        intro closing
        exact opened ⟨entry.2, by rw [stored, ← closing]⟩
      have recent : within arrival.now 300 entry.2 = true := by
        rw [seen]
        exact (within_iff arrival.now t 300).mpr close
      rw [if_pos due]
      show ((expireConnections arrival.now engine.tcpConnTable).lookup key).map Prod.snd = some t
      rw [expireConnections, HashMap.lookup_retain_kept _ _ key entry stored (by simp [open_, recent])]
      exact congrArg some seen
    · rw [if_neg due]
      exact present
  rcases track_connection_cases (expireStates engine arrival.now).tcpConnTable arrival.pkt arrival.now key with
    same | fresh | promoted | ⟨old, _, closed | refreshed⟩
  · exact .inl ((congrArg (Option.map Prod.snd) same).trans expired)
  · exact .inr (congrArg (Option.map Prod.snd) fresh)
  · exact .inr (congrArg (Option.map Prod.snd) promoted)
  · exact .inr (congrArg (Option.map Prod.snd) closed)
  · exact .inr (congrArg (Option.map Prod.snd) refreshed)

structure BoundedAt (engine : StatefulDetectionEngine Rat) (now : Rat) : Prop where
  clients : engine.clients.All fun _ client => now - client.lastSeen < 305
  accessPoints : engine.accessPoints.All fun _ ap => now - ap.lastSeen < 305
  connections : engine.tcpConnTable.All fun _ entry => now - entry.2 < 305
  trackers : AllTracked (fun t => now - t < 65) engine.toRateTrackers

theorem bounded_at (engine : StatefulDetectionEngine Rat) (now : Rat) (bounded : Bounded engine)
    (recent : now - engine.lastCleanupTime < 5) : BoundedAt engine now where
  clients := bounded.clients.mono fun _ client old => by linarith
  accessPoints := bounded.accessPoints.mono fun _ ap old => by linarith
  connections := bounded.connections.mono fun _ entry old => by linarith
  trackers := ⟨bounded.trackers.rate.mono fun t old => by linarith, bounded.trackers.conn.mono fun t old => by linarith⟩

structure Retained (start : StatefulDetectionEngine Rat) (before : List (Arrival Rat)) (sent : Arrival Rat)
    (after : List (Arrival Rat)) : Prop where
  client : isClientMac sent.pkt.srcMac = true →
    (run localTime start (before ++ sent :: after)).clients.containsKey sent.pkt.srcMac = true
  accessPoint : ∀ bssid mgmt, beaconOf sent.pkt = some (bssid, mgmt) →
    (run localTime start (before ++ sent :: after)).accessPoints.containsKey bssid = true
  connection : ∀ key,
    refreshes (expireStates (run localTime start before) sent.now).tcpConnTable sent.pkt key = true →
    (∀ middle, middle <+: after → ¬ClosingAt (run localTime start (before ++ sent :: middle)) key) →
    (run localTime start (before ++ sent :: after)).tcpConnTable.containsKey key = true

theorem run_retains (start : StatefulDetectionEngine Rat) (before : List (Arrival Rat)) (sent : Arrival Rat)
    (after : List (Arrival Rat)) (now : Rat)
    (later : ∀ arrival ∈ after, sent.now ≤ arrival.now ∧ arrival.now ≤ now) (recent : now - sent.now < 300) :
    Retained localTime start before sent after := by
  refine ⟨?_, ?_, ?_⟩
  · intro counted
    obtain ⟨last, _, seen⟩ := seen_kept localTime (clientSeen sent.pkt.srcMac) (fun _ => False)
      (fun engine arrival t present _ close => client_kept localTime _ engine arrival t present close)
      (step localTime (run localTime start before) sent) sent.now (client_tracked localTime _ sent counted) after
      (fun _ _ blocked => blocked) now later recent
    rw [run_append]
    exact seen_contains _ _ _ last seen
  · intro bssid mgmt beacon
    obtain ⟨last, _, seen⟩ := seen_kept localTime (accessPointSeen bssid) (fun _ => False)
      (fun engine arrival t present _ close => access_point_kept localTime _ engine arrival t present close)
      (step localTime (run localTime start before) sent) sent.now (access_point_tracked localTime _ sent bssid mgmt beacon)
      after (fun _ _ blocked => blocked) now later recent
    rw [run_append]
    exact seen_contains _ _ _ last seen
  · intro key refreshed opened
    obtain ⟨state, entry⟩ := refreshed_entry _ sent.pkt sent.now key refreshed
    obtain ⟨last, _, seen⟩ := seen_kept localTime (connectionSeen key) (fun engine => ClosingAt engine key)
      (fun engine arrival t present open_ close => connection_kept localTime _ engine arrival t present open_ close)
      (step localTime (run localTime start before) sent) sent.now (congrArg (Option.map Prod.snd) entry) after
      (fun middle reached => by rw [← run_append]; exact opened middle reached) now later recent
    rw [run_append]
    exact seen_contains _ _ _ last seen

theorem retention_is_bounded_and_lossless (iface : String) (selfIps : List IpAddr) (rulesLoaded : List (RuleConfig Rat))
    (arrivals : List (Arrival Rat)) (arrival : Arrival Rat)
    (nonnegative : ∀ sent ∈ arrivals ++ [arrival], 0 ≤ sent.now)
    (ordered : ((arrivals ++ [arrival]).map Arrival.now).Pairwise (· ≤ ·)) :
    BoundedAt (run localTime (StatefulDetectionEngine.new iface selfIps rulesLoaded) (arrivals ++ [arrival]))
      arrival.now ∧
    (∀ key, ClosingAt (run localTime (StatefulDetectionEngine.new iface selfIps rulesLoaded) (arrivals ++ [arrival])) key →
      ∃ before entering after, arrivals ++ [arrival] = before ++ entering :: after ∧
        EnteredClosing localTime (StatefulDetectionEngine.new iface selfIps rulesLoaded) key before entering after ∧
        arrival.now - entering.now < 5) ∧
    ∀ before sent after, arrivals ++ [arrival] = before ++ sent :: after → arrival.now - sent.now < 300 →
      Retained localTime (StatefulDetectionEngine.new iface selfIps rulesLoaded) before sent after := by
  have bounded := new_bounded iface selfIps rulesLoaded
  have recent : arrival.now - (run localTime (StatefulDetectionEngine.new iface selfIps rulesLoaded)
      (arrivals ++ [arrival])).lastCleanupTime < 5 := by
    rw [run_concat]
    exact expire_recent _ arrival.now
  refine ⟨?_, ?_, ?_⟩
  · exact bounded_at _ arrival.now (run_bounded localTime _ bounded _ ordered nonnegative).1 recent
  · intro key closing
    have opened : ¬ClosingAt (StatefulDetectionEngine.new iface selfIps rulesLoaded) key := by
      intro closingAtStart
      obtain ⟨seen, entry⟩ := closingAtStart
      cases entry
    obtain ⟨before, entering, after, split, entered, after_⟩ :=
      closing_entered localTime _ key opened _ ordered nonnegative bounded closing
    exact ⟨before, entering, after, split, entered, by linarith⟩
  · intro before sent after split close
    have last : ∀ earlier ∈ arrivals ++ [arrival], earlier.now ≤ arrival.now := by
      intro earlier inside
      rcases List.mem_append.mp inside with early | same
      · exact (ordered_concat arrivals arrival ordered).2 earlier early
      · rw [List.mem_singleton.mp same]
    rw [split] at last ordered
    rw [List.map_append, List.pairwise_append, List.map_cons, List.pairwise_cons] at ordered
    exact run_retains localTime _ before sent after arrival.now
      (fun next inside => ⟨ordered.2.1.1 _ (List.mem_map_of_mem inside), last next (by simp [inside])⟩) close

def frameOf (mac : Mac) (now : Rat) : Arrival Rat := ⟨{ ParsedPacket.new .ethernet none with srcMac := mac }, now⟩

theorem client_is_retained :
    BoundedAt (run (fun _ => "") (StatefulDetectionEngine.new "eth0" [] [])
      ([frameOf (Octets.fill 6 1) 0] ++ [frameOf (Octets.fill 6 2) 299])) (frameOf (Octets.fill 6 2) 299).now ∧
    (∀ key, ClosingAt (run (fun _ => "") (StatefulDetectionEngine.new "eth0" [] [])
        ([frameOf (Octets.fill 6 1) 0] ++ [frameOf (Octets.fill 6 2) 299])) key →
      ∃ before entering after,
        [frameOf (Octets.fill 6 1) 0] ++ [frameOf (Octets.fill 6 2) 299] = before ++ entering :: after ∧
        EnteredClosing (fun _ => "") (StatefulDetectionEngine.new "eth0" [] []) key before entering after ∧
        (frameOf (Octets.fill 6 2) 299).now - entering.now < 5) ∧
    ∀ before sent after,
      [frameOf (Octets.fill 6 1) 0] ++ [frameOf (Octets.fill 6 2) 299] = before ++ sent :: after →
      (frameOf (Octets.fill 6 2) 299).now - sent.now < 300 →
      Retained (fun _ => "") (StatefulDetectionEngine.new "eth0" [] []) before sent after :=
  retention_is_bounded_and_lossless (fun _ => "") "eth0" [] [] [frameOf (Octets.fill 6 1) 0]
    (frameOf (Octets.fill 6 2) 299) (by simp [frameOf]) (by simp [frameOf])

end NetworkIds.Engine
