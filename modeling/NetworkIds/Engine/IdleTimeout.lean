import NetworkIds.Engine.Connections
import NetworkIds.Engine.Retention
import NetworkIds.Lib.LazyExpiry

set_option autoImplicit false

namespace NetworkIds.Engine

open NetworkIds.Parser LazyExpiry

def carries (key : ConnKey) (pkt : ParsedPacket) : Bool :=
  match pkt.transport with
  | .tcp tcp => key == connKey pkt tcp
  | _ => false

def ConnEvent.entry (event : ConnEvent) (carried : Bool) (now : Rat) (entry : Option (TcpConnState × Rat)) :
    Option (TcpConnState × Rat) :=
  match event with
  | .syn => some (.new, now)
  | .synAck => some (.established, now)
  | .teardown => entry.map fun _ => (.closing, now)
  | .other => entry.map fun old => (old.1, if carried then now else old.2)

theorem entry_untouched (now : Rat) (entry : Option (TcpConnState × Rat)) :
    entry = ConnEvent.other.entry false now entry := by
  cases entry with
  | none => rfl
  | some old => rfl

theorem track_entry_event (pkt : ParsedPacket) (now : Rat) (key : ConnKey) (entry : Option (TcpConnState × Rat)) :
    trackEntry pkt now key entry = (connEvent pkt key).entry (carries key pkt) now entry := by
  rw [trackEntry, connEvent, carries]
  cases pkt.transport with
  | tcp tcp =>
      dsimp only
      by_cases own : key = connKey pkt tcp
      · have carried : (key == connKey pkt tcp) = true := beq_iff_eq.mpr own
        rw [carried]
        by_cases syn : isFreshSyn tcp = true
        · rw [if_pos syn, if_pos syn, if_pos own, if_pos own]
          rfl
        · rw [if_neg syn, if_neg syn]
          by_cases synAck : (hasFlag tcp tcpFlagSyn && hasFlag tcp tcpFlagAck) = true
          · rw [if_pos synAck, if_pos synAck, if_pos (.inl own), if_pos (.inl own)]
            rfl
          · rw [if_neg synAck, if_neg synAck]
            by_cases teardown : (hasFlag tcp tcpFlagFin || hasFlag tcp tcpFlagRst) = true
            · rw [if_pos teardown, if_pos teardown, if_pos own, if_pos own]
              rfl
            · rw [if_neg teardown, if_neg teardown, if_pos own]
              rfl
      · have foreign : (key == connKey pkt tcp) = false := beq_eq_false_iff_ne.mpr own
        rw [foreign]
        by_cases syn : isFreshSyn tcp = true
        · rw [if_pos syn, if_pos syn, if_neg own, if_neg own]
          exact entry_untouched now entry
        · rw [if_neg syn, if_neg syn]
          by_cases synAck : (hasFlag tcp tcpFlagSyn && hasFlag tcp tcpFlagAck) = true
          · rw [if_pos synAck, if_pos synAck]
            by_cases either : key = connKey pkt tcp ∨ key = revConnKey pkt tcp
            · rw [if_pos either, if_pos either]
              rfl
            · rw [if_neg either, if_neg either]
              exact entry_untouched now entry
          · rw [if_neg synAck, if_neg synAck]
            by_cases teardown : (hasFlag tcp tcpFlagFin || hasFlag tcp tcpFlagRst) = true
            · rw [if_pos teardown, if_pos teardown, if_neg own, if_neg own]
              exact entry_untouched now entry
            · rw [if_neg teardown, if_neg teardown, if_neg own]
              exact entry_untouched now entry
  | udp udp => exact entry_untouched now entry
  | icmp icmp => exact entry_untouched now entry
  | none => exact entry_untouched now entry

-- One key of the connection table. Closing entries are gone with the next cleanup.
def connEntries (key : ConnKey) : Entries (TcpConnState × Rat) ParsedPacket Rat where
  seen entry := entry.2
  closed entry := entry.1 == .closing
  next entry pkt now := trackEntry pkt now key entry

theorem conn_next_event (key : ConnKey) (entry : Option (TcpConnState × Rat)) (pkt : ParsedPacket) (now : Rat) :
    (connEntries key).next entry pkt now = (connEvent pkt key).entry (carries key pkt) now entry :=
  track_entry_event pkt now key entry

theorem conn_entries_lawful (key : ConnKey) : Lawful (connEntries key) where
  monotone lower upper pkt now below := by
    intro entry stored opened
    rw [conn_next_event] at stored ⊢
    cases event : connEvent pkt key with
    | syn =>
        rw [event] at stored
        exact stored
    | synAck =>
        rw [event] at stored
        exact stored
    | teardown =>
        rw [event] at stored
        obtain ⟨old, _, closing⟩ := Option.map_eq_some_iff.mp stored
        rw [← closing] at opened
        cases opened
    | other =>
        rw [event] at stored
        obtain ⟨old, before, refreshed⟩ := Option.map_eq_some_iff.mp stored
        rw [← refreshed] at opened
        rw [below old before opened, ← refreshed]
        rfl
  fresh before pkt now entry stored opened := by
    rw [conn_next_event] at stored
    cases event : connEvent pkt key with
    | syn =>
        rw [event] at stored
        rw [← Option.some.inj stored]
        exact .inr rfl
    | synAck =>
        rw [event] at stored
        rw [← Option.some.inj stored]
        exact .inr rfl
    | teardown =>
        rw [event] at stored
        obtain ⟨old, _, closing⟩ := Option.map_eq_some_iff.mp stored
        rw [← closing]
        exact .inr rfl
    | other =>
        rw [event] at stored
        obtain ⟨old, same, refreshed⟩ := Option.map_eq_some_iff.mp stored
        cases carried : carries key pkt with
        | true =>
            rw [carried] at refreshed
            rw [← refreshed]
            exact .inr rfl
        | false =>
            rw [carried] at refreshed
            rw [← refreshed]
            exact .inl same

def connInput (arrival : Arrival Rat) : ParsedPacket × Rat := (arrival.pkt, arrival.now)

def connEntry (key : ConnKey) (engine : StatefulDetectionEngine Rat) : Cleaned (TcpConnState × Rat) Rat :=
  ⟨engine.tcpConnTable.lookup key, engine.lastCleanupTime⟩

theorem expire_conn_entry (key : ConnKey) (engine : StatefulDetectionEngine Rat) (now : Rat) :
    connEntry key (expireStates engine now) = clean (connEntries key) 300 5 now (connEntry key engine) := by
  rw [expireStates, clean]
  by_cases recent : now - engine.lastCleanupTime < 5
  · have early : within now 5 engine.lastCleanupTime = true := (within_iff now _ 5).mpr recent
    have notDue : ¬ cleanupDue engine now = true := by
      rw [cleanupDue, early]
      exact Bool.false_ne_true
    rw [if_neg notDue, if_pos (show now - (connEntry key engine).cleanedAt < 5 from recent)]
  · have late : within now 5 engine.lastCleanupTime = false := by
      rw [Bool.eq_false_iff]
      exact fun early => recent ((within_iff now _ 5).mp early)
    have due : cleanupDue engine now = true := by
      rw [cleanupDue, late]
      rfl
    rw [if_pos due, if_neg (show ¬ now - (connEntry key engine).cleanedAt < 5 from recent)]
    show (⟨(expireConnections now engine.tcpConnTable).lookup key, now⟩ : Cleaned (TcpConnState × Rat) Rat) = _
    rw [expireConnections, HashMap.lookup_retain]
    rfl

theorem step_conn_entry (localTime : Nat → String) (key : ConnKey) (engine : StatefulDetectionEngine Rat)
    (arrival : Arrival Rat) : connEntry key (step localTime engine arrival) =
      lazyStep (connEntries key) 300 5 (connEntry key engine) (connInput arrival) := by
  rw [lazyStep, connInput, ← expire_conn_entry]
  show (⟨(trackConnection (expireStates engine arrival.now).tcpConnTable arrival.pkt arrival.now).lookup key,
    (expireStates engine arrival.now).lastCleanupTime⟩ : Cleaned (TcpConnState × Rat) Rat) = _
  rw [lookup_track]
  rfl

theorem run_conn_entry (localTime : Nat → String) (key : ConnKey) (engine : StatefulDetectionEngine Rat)
    (arrivals : List (Arrival Rat)) : connEntry key (run localTime engine arrivals) =
      lazyRun (connEntries key) 300 5 (connEntry key engine) (arrivals.map connInput) := by
  induction arrivals generalizing engine with
  | nil => rfl
  | cons arrival rest ih =>
      rw [run, List.foldl_cons, ← run, ih, step_conn_entry]
      rfl

def lastCarried (key : ConnKey) (seen : Rat) (arrivals : List (Arrival Rat)) : Rat :=
  arrivals.foldl (fun seen arrival => if carries key arrival.pkt then arrival.now else seen) seen

-- No SYN, no SYN-ACK and no teardown, and no packet of any kind comes so long after the last
-- one of the connection's own direction.
def KeptAlive (limit : Rat) (key : ConnKey) (handshake : Rat) (arrivals : List (Arrival Rat)) : Prop :=
  ∀ before arrival after, arrivals = before ++ arrival :: after →
    connEvent arrival.pkt key = .other ∧ arrival.now - lastCarried key handshake before < limit

-- The last handshake of a connection is followed by nothing that ends it.
def LiveSession (limit : Rat) (key : ConnKey) (arrivals : List (Arrival Rat)) (seen : Rat) : Prop :=
  ∃ before handshake after, arrivals = before ++ handshake :: after ∧ connEvent handshake.pkt key = .synAck ∧
    KeptAlive limit key handshake.now after ∧ lastCarried key handshake.now after = seen

theorem concat_split {α : Type} {earlier before after : List α} {last middle : α}
    (split : earlier ++ [last] = before ++ middle :: after) :
    (after = [] ∧ middle = last ∧ earlier = before) ∨
      ∃ rest, after = rest ++ [last] ∧ earlier = before ++ middle :: rest := by
  rcases List.eq_nil_or_concat after with rfl | ⟨rest, final, rfl⟩
  · obtain ⟨same, lasts⟩ := List.append_inj' split rfl
    exact .inl ⟨rfl, (List.singleton_inj.mp lasts).symm, same⟩
  · rw [List.concat_eq_append, ← List.cons_append, ← List.append_assoc] at split
    obtain ⟨same, lasts⟩ := List.append_inj' split rfl
    refine .inr ⟨rest, ?_, same⟩
    rw [List.concat_eq_append, List.singleton_inj.mp lasts]

theorem kept_alive_concat (limit : Rat) (key : ConnKey) (handshake : Rat) (arrivals : List (Arrival Rat))
    (arrival : Arrival Rat) : KeptAlive limit key handshake (arrivals ++ [arrival]) ↔
      KeptAlive limit key handshake arrivals ∧ connEvent arrival.pkt key = .other ∧
        arrival.now - lastCarried key handshake arrivals < limit := by
  constructor
  · intro kept
    refine ⟨?_, kept arrivals arrival [] rfl⟩
    intro before middle after split
    exact kept before middle (after ++ [arrival]) (by rw [split, List.append_assoc, List.cons_append])
  · rintro ⟨kept, last⟩ before middle after split
    rcases concat_split split with ⟨-, rfl, rfl⟩ | ⟨rest, -, same⟩
    · exact last
    · exact kept before middle rest same

theorem last_carried_concat (key : ConnKey) (handshake : Rat) (arrivals : List (Arrival Rat)) (arrival : Arrival Rat) :
    lastCarried key handshake (arrivals ++ [arrival]) =
      if carries key arrival.pkt then arrival.now else lastCarried key handshake arrivals := by
  rw [lastCarried, List.foldl_append]
  rfl

theorem live_session_concat (limit : Rat) (key : ConnKey) (arrivals : List (Arrival Rat)) (arrival : Arrival Rat)
    (seen : Rat) : LiveSession limit key (arrivals ++ [arrival]) seen ↔
      (connEvent arrival.pkt key = .synAck ∧ arrival.now = seen) ∨
      (connEvent arrival.pkt key = .other ∧ ∃ earlier, LiveSession limit key arrivals earlier ∧
        arrival.now - earlier < limit ∧ (if carries key arrival.pkt then arrival.now else earlier) = seen) := by
  constructor
  · rintro ⟨before, handshake, after, split, event, kept, last⟩
    rcases concat_split split with ⟨rfl, rfl, -⟩ | ⟨rest, rfl, same⟩
    · exact .inl ⟨event, last⟩
    · obtain ⟨keptBefore, other, recent⟩ := (kept_alive_concat limit key handshake.now rest arrival).mp kept
      rw [last_carried_concat] at last
      exact .inr ⟨other, _, ⟨before, handshake, rest, same, event, keptBefore, rfl⟩, recent, last⟩
  · rintro (⟨event, now⟩ | ⟨other, earlier, ⟨before, handshake, after, split, event, kept, last⟩, recent, now⟩)
    · refine ⟨arrivals, arrival, [], rfl, event, ?_, now⟩
      intro before middle after split
      exact absurd split (by simp)
    · refine ⟨before, handshake, after ++ [arrival], ?_, event, ?_, ?_⟩
      · rw [split, List.append_assoc, List.cons_append]
      · exact (kept_alive_concat limit key handshake.now after arrival).mpr ⟨kept, other, by rw [last]; exact recent⟩
      · rw [last_carried_concat, last]
        exact now

theorem exact_live_session (limit : Rat) (key : ConnKey) (arrivals : List (Arrival Rat)) (seen : Rat) :
    exactRun (connEntries key) limit (arrivals.map connInput) = some (.established, seen) ↔
      LiveSession limit key arrivals seen := by
  induction arrivals using List.reverseRecOn generalizing seen with
  | nil =>
      constructor
      · intro absent
        cases absent
      · rintro ⟨before, handshake, after, split, -⟩
        exact absurd split (by simp)
  | append_singleton arrivals arrival ih =>
      have next : exactRun (connEntries key) limit ((arrivals ++ [arrival]).map connInput) =
          (connEvent arrival.pkt key).entry (carries key arrival.pkt) arrival.now
            ((exactRun (connEntries key) limit (arrivals.map connInput)).filter
              (live (connEntries key) limit arrival.now)) := by
        rw [exactRun, List.map_append, List.foldl_append, ← exactRun]
        exact conn_next_event key _ arrival.pkt arrival.now
      rw [next, live_session_concat]
      cases event : connEvent arrival.pkt key with
      | syn => simp [ConnEvent.entry]
      | synAck => simp [ConnEvent.entry]
      | teardown => simp [ConnEvent.entry]
      | other =>
          rw [ConnEvent.entry]
          constructor
          · intro stored
            obtain ⟨⟨state, earlier⟩, kept, refreshed⟩ := Option.map_eq_some_iff.mp stored
            obtain ⟨present, alive⟩ := Option.filter_eq_some_iff.mp kept
            obtain ⟨established, now⟩ := Prod.mk.inj refreshed
            dsimp only at established now
            rw [established] at present
            exact .inr ⟨rfl, earlier, (ih earlier).mp present, ((live_iff _).mp alive).2, now⟩
          · rintro (⟨absurdEvent, -⟩ | ⟨-, earlier, session, recent, now⟩)
            · cases absurdEvent
            · have alive : live (connEntries key) limit arrival.now (.established, earlier) = true :=
                (live_iff _).mpr ⟨rfl, recent⟩
              rw [(ih earlier).mpr session, Option.filter_some, if_pos alive, Option.map_some, now]

theorem run_between (localTime : Nat → String) (iface : String) (selfIps : List IpAddr)
    (rulesLoaded : List (RuleConfig Rat)) (key : ConnKey) (arrivals : List (Arrival Rat))
    (ordered : (arrivals.map Arrival.now).Pairwise (· ≤ ·)) (nonneg : ∀ arrival ∈ arrivals, 0 ≤ arrival.now) :
    let table := (run localTime (.new iface selfIps rulesLoaded) arrivals).tcpConnTable
    Below (connEntries key) (exactRun (connEntries key) 300 (arrivals.map connInput)) (table.lookup key) ∧
      Below (connEntries key) (table.lookup key) (exactRun (connEntries key) 305 (arrivals.map connInput)) := by
  intro table
  have started : connEntry key (.new iface selfIps rulesLoaded) = ⟨none, 0⟩ := by
    rw [connEntry]
    exact congrArg (Cleaned.mk none) Nat.cast_zero
  have times : ((0 : Rat) :: (arrivals.map connInput).map Prod.snd).Pairwise (· ≤ ·) := by
    rw [List.map_map]
    refine List.pairwise_cons.mpr ⟨?_, ordered⟩
    intro t member
    obtain ⟨arrival, inside, rfl⟩ := List.mem_map.mp member
    exact nonneg arrival inside
  have between := lazy_between (conn_entries_lawful key) (0 : Rat) (arrivals.map connInput) times
    (show (0 : Rat) < 300 by norm_num) (show (0 : Rat) < 5 by norm_num)
  rw [← started, ← run_conn_entry localTime, show (300 : Rat) + 5 = 305 by norm_num] at between
  exact between

-- Only the packets of its own direction keep a session alive: what the other party sends
-- between two of them does not count.
theorem established_while_alive (localTime : Nat → String) (iface : String) (selfIps : List IpAddr)
    (rulesLoaded : List (RuleConfig Rat)) (arrivals : List (Arrival Rat)) (sent : Arrival Rat) (tcp : TcpInfo)
    (transport : sent.pkt.transport = .tcp tcp)
    (ordered : ((arrivals ++ [sent]).map Arrival.now).Pairwise (· ≤ ·))
    (nonneg : ∀ arrival ∈ arrivals ++ [sent], 0 ≤ arrival.now) :
    let engine := run localTime (.new iface selfIps rulesLoaded) arrivals
    let key := connKey sent.pkt tcp
    ((∃ seen, LiveSession 300 key (arrivals ++ [sent]) seen) → SatisfiesEstablished engine sent) ∧
      (SatisfiesEstablished engine sent → ∃ seen, LiveSession 305 key (arrivals ++ [sent]) seen) := by
  intro engine key
  obtain ⟨above, below⟩ := run_between localTime iface selfIps rulesLoaded key (arrivals ++ [sent]) ordered nonneg
  rw [run_concat] at above below
  have seenBy : SatisfiesEstablished engine sent ↔
      stateOf (step localTime engine sent).tcpConnTable key = some .established :=
    satisfies_established_iff engine sent tcp transport
  rw [seenBy, stateOf]
  constructor
  · rintro ⟨seen, session⟩
    rw [above (.established, seen) ((exact_live_session 300 _ _ seen).mpr session) rfl]
    rfl
  · intro established
    obtain ⟨⟨state, seen⟩, stored, same⟩ := Option.map_eq_some_iff.mp established
    dsimp only at same
    rw [same] at stored
    exact ⟨seen, (exact_live_session 305 _ _ seen).mp (below (.established, seen) stored rfl)⟩

-- The server's answer at 10 seconds, the client's segment at 300: idle for 290 seconds.
theorem idle_connection_passes :
    SatisfiesEstablished (run (fun _ => "") (.new "eth0" [] [])
      [⟨clientSegment 0x02, (9 : Rat)⟩, ⟨serverSegment 0x12, 10⟩]) ⟨clientSegment 0x10, 300⟩ := by
  have nothing : KeptAlive 300 clientKey 10 [] := by
    intro before arrival after split
    exact absurd split (by simp)
  have kept : KeptAlive 300 clientKey 10 ([] ++ [⟨clientSegment 0x10, 300⟩]) :=
    (kept_alive_concat 300 clientKey 10 [] ⟨clientSegment 0x10, 300⟩).mpr
      ⟨nothing, by decide +kernel, show (300 : Rat) - 10 < 300 by norm_num⟩
  have own : connKey (clientSegment 0x10) ⟨4000, 80, 0, 0, 5, 0, 0x10, 0, 0, 0, ⟨none, none, false, [], none⟩, []⟩ =
      clientKey := by decide +kernel
  refine (established_while_alive (fun _ => "") "eth0" [] [] [⟨clientSegment 0x02, 9⟩, ⟨serverSegment 0x12, 10⟩]
    ⟨clientSegment 0x10, 300⟩ _ rfl ?_ ?_).1 ?_
  · norm_num
  · norm_num
  · rw [own]
    exact ⟨_, [⟨clientSegment 0x02, 9⟩], ⟨serverSegment 0x12, 10⟩, [⟨clientSegment 0x10, 300⟩], rfl,
      by decide +kernel, kept, rfl⟩

end NetworkIds.Engine
