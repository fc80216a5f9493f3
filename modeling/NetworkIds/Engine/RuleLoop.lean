import NetworkIds.Engine.Process

set_option autoImplicit false

namespace NetworkIds.Engine

open NetworkIds.Parser

variable {τ : Type}

structure SameAt (id : UInt32) (first second : RateTrackers τ) : Prop where
  rate : first.ruleRateTracker.lookup id = second.ruleRateTracker.lookup id
  conn : first.connRateTracker.lookup id = second.connRateTracker.lookup id

theorem same_at_refl (id : UInt32) (trackers : RateTrackers τ) : SameAt id trackers trackers := ⟨rfl, rfl⟩

theorem SameAt.trans {id : UInt32} {first second third : RateTrackers τ} (left : SameAt id first second)
    (right : SameAt id second third) : SameAt id first third :=
  ⟨left.rate.trans right.rate, left.conn.trans right.conn⟩

theorem SameAt.symm {id : UInt32} {first second : RateTrackers τ} (same : SameAt id first second) :
    SameAt id second first := ⟨same.rate.symm, same.conn.symm⟩

theorem trackers_ext (first second : RateTrackers τ) (same : ∀ id, SameAt id first second) : first = second := by
  have rate := HashMap.ext_lookup _ _ (fun id => (same id).rate)
  have conn := HashMap.ext_lookup _ _ (fun id => (same id).conn)
  cases first
  cases second
  cases rate
  cases conn
  rfl

section Tracker

variable (tracker other : RateTracker τ) (id : UInt32) (key : String) (now : τ)

theorem push_other (elsewhere : UInt32) (different : elsewhere ≠ id) :
    (pushTimestamp tracker id key now).lookup elsewhere = tracker.lookup elsewhere := by
  rw [pushTimestamp, HashMap.lookup_upsert, if_neg different]

theorem push_local (same : tracker.lookup id = other.lookup id) :
    (pushTimestamp tracker id key now).lookup id = (pushTimestamp other id key now).lookup id := by
  rw [pushTimestamp, pushTimestamp, HashMap.lookup_upsert, HashMap.lookup_upsert, same]

theorem remove_other (elsewhere : UInt32) (different : elsewhere ≠ id) :
    (removeTimestamps tracker id key).lookup elsewhere = tracker.lookup elsewhere := by
  rw [removeTimestamps, HashMap.lookup_modify, if_neg different]

theorem remove_local (same : tracker.lookup id = other.lookup id) :
    (removeTimestamps tracker id key).lookup id = (removeTimestamps other id key).lookup id := by
  rw [removeTimestamps, removeTimestamps, HashMap.lookup_modify, HashMap.lookup_modify, same]

theorem get_local (same : tracker.lookup id = other.lookup id) :
    getTimestamps tracker id key = getTimestamps other id key := by
  rw [getTimestamps, getTimestamps, same]

theorem get_push (elsewhere : UInt32) (sender : String) :
    getTimestamps (pushTimestamp tracker id key now) elsewhere sender =
      if elsewhere = id ∧ sender = key then some ((getTimestamps tracker id key).getD [] ++ [now])
      else getTimestamps tracker elsewhere sender := by
  rw [getTimestamps, pushTimestamp, HashMap.lookup_upsert]
  by_cases sameId : elsewhere = id
  · subst sameId
    rw [if_pos rfl, Option.bind_some, HashMap.lookup_upsert]
    by_cases sameKey : sender = key
    · subst sameKey
      rw [if_pos rfl, if_pos ⟨rfl, rfl⟩, getTimestamps]
      cases tracker.lookup elsewhere with
      | none => rfl
      | some m => rfl
    · rw [if_neg sameKey, if_neg (fun both => sameKey both.2), getTimestamps]
      cases tracker.lookup elsewhere with
      | none => rfl
      | some m => rfl
  · rw [if_neg sameId, if_neg (fun both => sameId both.1), getTimestamps]

theorem get_remove (elsewhere : UInt32) (sender : String) :
    getTimestamps (removeTimestamps tracker id key) elsewhere sender =
      if elsewhere = id ∧ sender = key then none else getTimestamps tracker elsewhere sender := by
  rw [getTimestamps, removeTimestamps, HashMap.lookup_modify]
  by_cases sameId : elsewhere = id
  · subst sameId
    rw [if_pos rfl, getTimestamps]
    cases tracker.lookup elsewhere with
    | none => simp
    | some m => simp [HashMap.lookup_remove]
  · rw [if_neg sameId, if_neg (fun both => sameId both.1), getTimestamps]

end Tracker

theorem record_other (id : UInt32) (key : String) (pkt : ParsedPacket) (now : τ) (trackers : RateTrackers τ)
    (elsewhere : UInt32) (different : elsewhere ≠ id) :
    SameAt elsewhere (recordPacket id key pkt now trackers) trackers where
  rate := push_other _ id key now elsewhere different
  conn := by
    rw [recordPacket]
    by_cases isNew : isNewTcpConn pkt
    · simp only [isNew, if_true]
      exact push_other _ id key now elsewhere different
    · simp only [isNew, Bool.false_eq_true, if_false]

theorem record_local (id : UInt32) (key : String) (pkt : ParsedPacket) (now : τ) (first second : RateTrackers τ)
    (same : SameAt id first second) :
    SameAt id (recordPacket id key pkt now first) (recordPacket id key pkt now second) where
  rate := push_local _ _ id key now same.rate
  conn := by
    rw [recordPacket, recordPacket]
    by_cases isNew : isNewTcpConn pkt
    · simp only [isNew, if_true]
      exact push_local _ _ id key now same.conn
    · simp only [isNew, Bool.false_eq_true, if_false]
      exact same.conn

variable [Sub τ] [LT τ] [DecidableLT τ] [Timestamp τ]

section Pruning

variable (tracker other : RateTracker τ) (id : UInt32) (key : String) (now : τ)

theorem prune_other (elsewhere : UInt32) (different : elsewhere ≠ id) :
    (pruneTimestamps tracker id key now).lookup elsewhere = tracker.lookup elsewhere := by
  rw [pruneTimestamps, HashMap.lookup_modify, if_neg different]

theorem prune_local (same : tracker.lookup id = other.lookup id) :
    (pruneTimestamps tracker id key now).lookup id = (pruneTimestamps other id key now).lookup id := by
  rw [pruneTimestamps, pruneTimestamps, HashMap.lookup_modify, HashMap.lookup_modify, same]

theorem get_prune (elsewhere : UInt32) (sender : String) :
    getTimestamps (pruneTimestamps tracker id key now) elsewhere sender =
      if elsewhere = id ∧ sender = key then
        (getTimestamps tracker id key).map fun timestamps => timestamps.filter (within now 60)
      else getTimestamps tracker elsewhere sender := by
  rw [getTimestamps, pruneTimestamps, HashMap.lookup_modify]
  by_cases sameId : elsewhere = id
  · subst sameId
    rw [if_pos rfl, getTimestamps, getTimestamps]
    cases tracker.lookup elsewhere with
    | none => simp
    | some m =>
        by_cases sameKey : sender = key
        · simp [HashMap.lookup_modify, sameKey]
        · simp [HashMap.lookup_modify, sameKey]
  · rw [if_neg sameId, if_neg (fun both => sameId both.1), getTimestamps]

theorem get_expire (sender : String) :
    getTimestamps (expireTracker now tracker) id sender =
      ((getTimestamps tracker id sender).map fun timestamps => timestamps.filter (within now 60)).filter
        (fun timestamps => !timestamps.isEmpty) := by
  rw [getTimestamps, expireTracker, HashMap.lookup_map_values, getTimestamps]
  cases tracker.lookup id with
  | none => rfl
  | some m => simp [expireKeys, HashMap.lookup_retain, HashMap.lookup_map_values]

end Pruning

theorem settle_other (id : UInt32) (key : String) (now : τ) (triggered : Bool) (trackers : RateTrackers τ)
    (elsewhere : UInt32) (different : elsewhere ≠ id) :
    SameAt elsewhere (settleTrackers id key now triggered trackers) trackers := by
  have rate := prune_other trackers.ruleRateTracker id key now elsewhere different
  have conn := prune_other trackers.connRateTracker id key now elsewhere different
  cases triggered with
  | false => exact ⟨rate, conn⟩
  | true => exact ⟨(remove_other _ id key elsewhere different).trans rate,
      (remove_other _ id key elsewhere different).trans conn⟩

theorem settle_local (id : UInt32) (key : String) (now : τ) (triggered : Bool) (first second : RateTrackers τ)
    (same : SameAt id first second) :
    SameAt id (settleTrackers id key now triggered first) (settleTrackers id key now triggered second) := by
  have rate := prune_local _ _ id key now same.rate
  have conn := prune_local _ _ id key now same.conn
  cases triggered with
  | false => exact ⟨rate, conn⟩
  | true => exact ⟨remove_local _ _ id key rate, remove_local _ _ id key conn⟩

theorem matched_other (rule : EvaluatedRule τ) (pkt : ParsedPacket) (now : τ) (trackers : RateTrackers τ)
    (elsewhere : UInt32) (different : elsewhere ≠ rule.id) :
    SameAt elsewhere (evaluateMatched rule pkt now trackers).1 trackers :=
  (settle_other rule.id _ now _ _ elsewhere different).trans
    (record_other rule.id _ pkt now trackers elsewhere different)

theorem matched_local (rule : EvaluatedRule τ) (pkt : ParsedPacket) (now : τ) (first second : RateTrackers τ)
    (same : SameAt rule.id first second) :
    SameAt rule.id (evaluateMatched rule pkt now first).1 (evaluateMatched rule pkt now second).1 ∧
      (evaluateMatched rule pkt now first).2 = (evaluateMatched rule pkt now second).2 := by
  have recorded := record_local rule.id (resolveTrackingKey rule pkt) pkt now first second same
  have requests := get_local _ _ rule.id (resolveTrackingKey rule pkt) recorded.rate
  have connections := get_local _ _ rule.id (resolveTrackingKey rule pkt) recorded.conn
  rw [evaluateMatched, evaluateMatched]
  dsimp only
  rw [requests, connections]
  exact ⟨settle_local rule.id _ now _ _ _ recorded, rfl⟩

theorem rule_other (isMatch : EvaluatedRule τ → Bool) (pkt : ParsedPacket) (now : τ) (trackers : RateTrackers τ)
    (rule : EvaluatedRule τ) (elsewhere : UInt32) (different : elsewhere ≠ rule.id) :
    SameAt elsewhere (evaluateRule isMatch pkt now trackers rule).1 trackers := by
  rw [evaluateRule]
  by_cases matched : isMatch rule
  · rw [if_pos matched]
    exact matched_other rule pkt now trackers elsewhere different
  · rw [if_neg matched]
    exact same_at_refl elsewhere trackers

theorem rule_local (isMatch : EvaluatedRule τ → Bool) (pkt : ParsedPacket) (now : τ) (first second : RateTrackers τ)
    (rule : EvaluatedRule τ) (same : SameAt rule.id first second) :
    SameAt rule.id (evaluateRule isMatch pkt now first rule).1 (evaluateRule isMatch pkt now second rule).1 ∧
      (evaluateRule isMatch pkt now first rule).2 = (evaluateRule isMatch pkt now second rule).2 := by
  rw [evaluateRule, evaluateRule]
  by_cases matched : isMatch rule
  · rw [if_pos matched, if_pos matched]
    exact matched_local rule pkt now first second same
  · rw [if_neg matched, if_neg matched]
    exact ⟨same, rfl⟩

theorem rules_other (isMatch : EvaluatedRule τ → Bool) (pkt : ParsedPacket) (now : τ) (trackers : RateTrackers τ)
    (rules : List (EvaluatedRule τ)) (elsewhere : UInt32) (absent : elsewhere ∉ rules.map EvaluatedRule.id) :
    SameAt elsewhere (evaluateRules isMatch pkt now trackers rules).1 trackers := by
  induction rules generalizing trackers with
  | nil => exact same_at_refl elsewhere trackers
  | cons rule rest ih =>
      simp only [List.map_cons, List.mem_cons, not_or] at absent
      exact (ih _ absent.2).trans (rule_other isMatch pkt now trackers rule elsewhere absent.1)

-- Among rules with different ids each one works as if it were the only one.
theorem rules_local (isMatch : EvaluatedRule τ → Bool) (pkt : ParsedPacket) (now : τ) (trackers : RateTrackers τ)
    (rules : List (EvaluatedRule τ)) (distinct : (rules.map EvaluatedRule.id).Nodup) (rule : EvaluatedRule τ)
    (member : rule ∈ rules) :
    SameAt rule.id (evaluateRules isMatch pkt now trackers rules).1 (evaluateRule isMatch pkt now trackers rule).1 := by
  induction rules generalizing trackers with
  | nil => cases member
  | cons first rest ih =>
      obtain ⟨fresh, restDistinct⟩ := List.nodup_cons.mp distinct
      rcases List.mem_cons.mp member with same | later
      · subst same
        exact rules_other isMatch pkt now _ rest rule.id fresh
      · have different : rule.id ≠ first.id := by
          intro same
          exact fresh (same ▸ List.mem_map_of_mem later)
        have alone := rule_other isMatch pkt now trackers first rule.id different
        exact (ih _ restDistinct later).trans (rule_local isMatch pkt now _ trackers rule alone).1

theorem rules_alerts (isMatch : EvaluatedRule τ → Bool) (pkt : ParsedPacket) (now : τ) (trackers : RateTrackers τ)
    (rules : List (EvaluatedRule τ)) (distinct : (rules.map EvaluatedRule.id).Nodup) :
    (evaluateRules isMatch pkt now trackers rules).2 =
      rules.flatMap fun rule => (evaluateRule isMatch pkt now trackers rule).2.toList := by
  induction rules generalizing trackers with
  | nil => rfl
  | cons first rest ih =>
      obtain ⟨fresh, restDistinct⟩ := List.nodup_cons.mp distinct
      have later : ∀ rule ∈ rest, (evaluateRule isMatch pkt now (evaluateRule isMatch pkt now trackers first).1 rule).2 =
          (evaluateRule isMatch pkt now trackers rule).2 := by
        intro rule member
        have different : rule.id ≠ first.id := fun same => fresh (same ▸ List.mem_map_of_mem member)
        exact (rule_local isMatch pkt now _ trackers rule
          (rule_other isMatch pkt now trackers first rule.id different)).2
      rw [evaluateRules, List.flatMap_cons]
      dsimp only
      rw [ih _ restDistinct]
      congr 1
      exact List.flatMap_congr fun rule member => by rw [later rule member]

end NetworkIds.Engine
