import NetworkIds.Engine.SharedSlots
import NetworkIds.Parser.Wifi

set_option autoImplicit false

namespace NetworkIds.Engine

open NetworkIds.Parser

variable {τ : Type}

def beaconFrom (bssid : Mac) (pkt : ParsedPacket) : Option WifiMgmtFrame :=
  match beaconOf pkt with
  | some (sender, mgmt) => if sender = bssid then some mgmt else none
  | none => none

def beaconsFrom (bssid : Mac) (arrivals : List (Arrival τ)) : List (Arrival τ × WifiMgmtFrame) :=
  arrivals.filterMap fun arrival => (beaconFrom bssid arrival.pkt).map fun mgmt => (arrival, mgmt)

theorem beacon_from_own (pkt : ParsedPacket) (bssid : Mac) (mgmt : WifiMgmtFrame) :
    beaconFrom bssid pkt = some mgmt ↔ beaconOf pkt = some (bssid, mgmt) := by
  unfold beaconFrom
  cases beacon : beaconOf pkt with
  | none => simp
  | some sent =>
      by_cases own : sent.1 = bssid
      · simp [own, Prod.ext_iff]
      · simp [own, Prod.ext_iff]

theorem beacons_concat_silent (bssid : Mac) (arrivals : List (Arrival τ)) (arrival : Arrival τ)
    (silent : beaconFrom bssid arrival.pkt = none) :
    beaconsFrom bssid (arrivals ++ [arrival]) = beaconsFrom bssid arrivals := by
  simp [beaconsFrom, silent]

theorem beacons_concat (bssid : Mac) (arrivals : List (Arrival τ)) (arrival : Arrival τ) (mgmt : WifiMgmtFrame)
    (sent : beaconFrom bssid arrival.pkt = some mgmt) :
    beaconsFrom bssid (arrivals ++ [arrival]) = beaconsFrom bssid arrivals ++ [(arrival, mgmt)] := by
  simp [beaconsFrom, sent]

theorem lookup_access_point (accessPoints : HashMap Mac (AccessPoint τ)) (pkt : ParsedPacket) (now : τ) (bssid : Mac) :
    (trackAccessPoint accessPoints pkt now).lookup bssid =
      match beaconFrom bssid pkt with
      | some mgmt => some (((accessPoints.lookup bssid).getD (AccessPoint.first bssid mgmt (packetRssi pkt) now)).beacon
          mgmt (packetRssi pkt) now)
      | none => accessPoints.lookup bssid := by
  unfold trackAccessPoint beaconFrom
  cases beaconOf pkt with
  | none => rfl
  | some sent =>
      dsimp only
      rw [HashMap.lookup_upsert]
      by_cases own : sent.1 = bssid
      · rw [if_pos own, if_pos own.symm, own]
      · rw [if_neg own, if_neg (Ne.symm own)]

section Mirror

variable [Sub τ] [LT τ] [DecidableLT τ] [Timestamp τ] (localTime : Nat → String)

def entryAt (engine : StatefulDetectionEngine τ) (arrival : Arrival τ) (bssid : Mac) : Option (AccessPoint τ) :=
  (expireStates engine arrival.now).accessPoints.lookup bssid

theorem entry_at_present (engine : StatefulDetectionEngine τ) (arrival : Arrival τ) (bssid : Mac) (ap : AccessPoint τ)
    (entry : entryAt engine arrival bssid = some ap) : engine.accessPoints.lookup bssid = some ap := by
  rw [entryAt, expireStates] at entry
  by_cases due : cleanupDue engine arrival.now
  · rw [if_pos due] at entry
    exact (HashMap.lookup_retain_some _ _ _ _ entry).1
  · rw [if_neg due] at entry
    exact entry

theorem step_access_point (engine : StatefulDetectionEngine τ) (arrival : Arrival τ) (bssid : Mac) :
    (step localTime engine arrival).accessPoints.lookup bssid =
      match beaconFrom bssid arrival.pkt with
      | some mgmt => some (((entryAt engine arrival bssid).getD
          (AccessPoint.first bssid mgmt (packetRssi arrival.pkt) arrival.now)).beacon mgmt (packetRssi arrival.pkt)
          arrival.now)
      | none => entryAt engine arrival bssid :=
  lookup_access_point (expireStates engine arrival.now).accessPoints arrival.pkt arrival.now bssid

def CreatesEntry (bssid : Mac) (engine : StatefulDetectionEngine τ) (arrival : Arrival τ) : Prop :=
  (beaconFrom bssid arrival.pkt).isSome ∧ entryAt engine arrival bssid = none

def LastCreated (start : StatefulDetectionEngine τ) (arrivals : List (Arrival τ)) (bssid : Mac)
    (since : List (Arrival τ)) : Prop :=
  ∃ earlier created later, arrivals = earlier ++ since ∧ since = created :: later ∧
    CreatesEntry bssid (run localTime start earlier) created ∧
    EveryStep localTime (fun engine arrival => ¬ CreatesEntry bssid engine arrival)
      (run localTime start (earlier ++ [created])) later

-- The entry of a BSSID is up to date with its last beacon, its SSID apart.
structure TracksBeacons (start : StatefulDetectionEngine τ) (arrivals : List (Arrival τ)) (bssid : Mac)
    (ap : AccessPoint τ) (sent : Arrival τ) (mgmt : WifiMgmtFrame) : Prop where
  last : (beaconsFrom bssid arrivals).getLast? = some (sent, mgmt)
  channel : ap.channel = mgmt.channel.getD 0
  security : ap.security = beaconSecurity mgmt
  lastRssi : ap.lastRssi = packetRssi sent.pkt
  lastSeen : ap.lastSeen = sent.now
  count : ∃ since, LastCreated localTime start arrivals bssid since ∧ ap.beaconCount = (beaconsFrom bssid since).length

theorem last_created_concat (start : StatefulDetectionEngine τ) (arrivals since : List (Arrival τ)) (bssid : Mac)
    (arrival : Arrival τ) (created : LastCreated localTime start arrivals bssid since)
    (kept : ¬ CreatesEntry bssid (run localTime start arrivals) arrival) :
    LastCreated localTime start (arrivals ++ [arrival]) bssid (since ++ [arrival]) := by
  obtain ⟨earlier, first, later, rfl, rfl, creates, none⟩ := created
  refine ⟨earlier, first, later ++ [arrival], by simp, by simp, creates, ?_⟩
  apply every_step_extend localTime _ _ later arrival none
  rw [run_after]
  simpa using kept

theorem tracks_concat_silent (start : StatefulDetectionEngine τ) (arrivals : List (Arrival τ)) (bssid : Mac)
    (ap : AccessPoint τ) (sent arrival : Arrival τ) (mgmt : WifiMgmtFrame)
    (tracks : TracksBeacons localTime start arrivals bssid ap sent mgmt)
    (silent : beaconFrom bssid arrival.pkt = none) :
    TracksBeacons localTime start (arrivals ++ [arrival]) bssid ap sent mgmt := by
  obtain ⟨since, created, count⟩ := tracks.count
  refine ⟨?_, tracks.channel, tracks.security, tracks.lastRssi, tracks.lastSeen, since ++ [arrival], ?_, ?_⟩
  · rw [beacons_concat_silent bssid arrivals arrival silent]
    exact tracks.last
  · apply last_created_concat localTime start arrivals since bssid arrival created
    rintro ⟨beacon, -⟩
    rw [silent] at beacon
    cases beacon
  · rw [beacons_concat_silent bssid since arrival silent]
    exact count

theorem tracks_concat_beacon (start : StatefulDetectionEngine τ) (arrivals : List (Arrival τ)) (bssid : Mac)
    (ap : AccessPoint τ) (arrival : Arrival τ) (mgmt : WifiMgmtFrame)
    (count : ∃ since, LastCreated localTime start (arrivals ++ [arrival]) bssid (since ++ [arrival]) ∧
      ap.beaconCount = (beaconsFrom bssid since).length)
    (sent : beaconFrom bssid arrival.pkt = some mgmt) :
    TracksBeacons localTime start (arrivals ++ [arrival]) bssid (ap.beacon mgmt (packetRssi arrival.pkt) arrival.now)
      arrival mgmt := by
  obtain ⟨since, created, counted⟩ := count
  refine ⟨?_, rfl, rfl, rfl, rfl, since ++ [arrival], created, ?_⟩
  · rw [beacons_concat bssid arrivals arrival mgmt sent, List.getLast?_concat]
  · rw [beacons_concat bssid since arrival mgmt sent, List.length_append, ← counted]
    rfl

theorem tracks_step (start : StatefulDetectionEngine τ) (arrivals : List (Arrival τ)) (arrival : Arrival τ)
    (tracked : (run localTime start arrivals).accessPoints.All fun bssid ap =>
      ∃ sent mgmt, TracksBeacons localTime start arrivals bssid ap sent mgmt) :
    (run localTime start (arrivals ++ [arrival])).accessPoints.All fun bssid ap =>
      ∃ sent mgmt, TracksBeacons localTime start (arrivals ++ [arrival]) bssid ap sent mgmt := by
  intro bssid ap entry
  rw [run_concat, step_access_point] at entry
  cases sent : beaconFrom bssid arrival.pkt with
  | none =>
      rw [sent] at entry
      obtain ⟨last, mgmt, tracks⟩ := tracked bssid ap (entry_at_present _ _ _ _ entry)
      exact ⟨last, mgmt, tracks_concat_silent localTime start arrivals bssid ap last arrival mgmt tracks sent⟩
  | some mgmt =>
      rw [sent] at entry
      cases present : entryAt (run localTime start arrivals) arrival bssid with
      | none =>
          rw [present] at entry
          cases entry
          refine ⟨arrival, mgmt, tracks_concat_beacon localTime start arrivals bssid _ arrival mgmt ⟨[], ?_, rfl⟩ sent⟩
          exact ⟨arrivals, arrival, [], rfl, rfl, ⟨by rw [sent]; rfl, present⟩, by intro before middle after split; simp at split⟩
      | some old =>
          rw [present] at entry
          cases entry
          obtain ⟨last, _, tracks⟩ := tracked bssid old (entry_at_present _ _ _ _ present)
          obtain ⟨since, created, count⟩ := tracks.count
          refine ⟨arrival, mgmt, tracks_concat_beacon localTime start arrivals bssid old arrival mgmt ⟨since, ?_, count⟩ sent⟩
          apply last_created_concat localTime start arrivals since bssid arrival created
          rintro ⟨-, absent⟩
          rw [present] at absent
          cases absent

theorem run_tracks (start : StatefulDetectionEngine τ) (empty : start.accessPoints = HashMap.empty)
    (arrivals : List (Arrival τ)) :
    (run localTime start arrivals).accessPoints.All fun bssid ap =>
      ∃ sent mgmt, TracksBeacons localTime start arrivals bssid ap sent mgmt := by
  induction arrivals using List.reverseRecOn with
  | nil =>
      show start.accessPoints.All _
      rw [empty]
      exact HashMap.all_empty _
  | append_singleton arrivals arrival ih => exact tracks_step localTime start arrivals arrival ih

def MirrorsLastBeacon (start : StatefulDetectionEngine τ) (arrivals : List (Arrival τ)) (bssid : Mac)
    (ap : AccessPoint τ) : Prop :=
  ∃ sent mgmt, TracksBeacons localTime start arrivals bssid ap sent mgmt ∧ ap.ssid = mgmt.ssid.getD ""

def SsidKept (engine : StatefulDetectionEngine τ) (arrival : Arrival τ) : Prop :=
  ∀ bssid mgmt ap, beaconOf arrival.pkt = some (bssid, mgmt) → entryAt engine arrival bssid = some ap →
    ap.ssid = mgmt.ssid.getD ""

def LastSsid (arrivals : List (Arrival τ)) (bssid : Mac) (ap : AccessPoint τ) : Prop :=
  ∀ sent mgmt, (beaconsFrom bssid arrivals).getLast? = some (sent, mgmt) → ap.ssid = mgmt.ssid.getD ""

theorem last_ssid_step (start : StatefulDetectionEngine τ) (arrivals : List (Arrival τ)) (arrival : Arrival τ)
    (kept : SsidKept (run localTime start arrivals) arrival)
    (before : (run localTime start arrivals).accessPoints.All (LastSsid arrivals)) :
    (run localTime start (arrivals ++ [arrival])).accessPoints.All (LastSsid (arrivals ++ [arrival])) := by
  intro bssid ap entry
  rw [run_concat, step_access_point] at entry
  cases sent : beaconFrom bssid arrival.pkt with
  | none =>
      rw [sent] at entry
      rw [LastSsid, beacons_concat_silent bssid arrivals arrival sent]
      exact before bssid ap (entry_at_present _ _ _ _ entry)
  | some mgmt =>
      rw [sent] at entry
      intro last other final
      rw [beacons_concat bssid arrivals arrival mgmt sent, List.getLast?_concat] at final
      cases final
      cases present : entryAt (run localTime start arrivals) arrival bssid with
      | none =>
          rw [present] at entry
          cases entry
          rfl
      | some old =>
          rw [present] at entry
          cases entry
          exact kept bssid mgmt old ((beacon_from_own _ _ _).mp sent) present

theorem run_last_ssid (start : StatefulDetectionEngine τ) (empty : start.accessPoints = HashMap.empty)
    (arrivals : List (Arrival τ)) (kept : EveryStep localTime SsidKept start arrivals) :
    (run localTime start arrivals).accessPoints.All (LastSsid arrivals) := by
  induction arrivals using List.reverseRecOn with
  | nil =>
      show start.accessPoints.All _
      rw [empty]
      exact HashMap.all_empty _
  | append_singleton arrivals arrival ih =>
      obtain ⟨keptBefore, keptLast⟩ := every_step_concat localTime SsidKept start arrivals arrival kept
      exact last_ssid_step localTime start arrivals arrival keptLast (ih keptBefore)

theorem mirrors_ssid_kept (start : StatefulDetectionEngine τ) (arrivals : List (Arrival τ)) (arrival : Arrival τ)
    (mirrors : (run localTime start (arrivals ++ [arrival])).accessPoints.All
      (MirrorsLastBeacon localTime start (arrivals ++ [arrival]))) :
    SsidKept (run localTime start arrivals) arrival := by
  intro bssid mgmt ap beacon present
  have sent := (beacon_from_own arrival.pkt bssid mgmt).mpr beacon
  have entry := step_access_point localTime (run localTime start arrivals) arrival bssid
  rw [← run_concat, sent, present] at entry
  obtain ⟨last, other, tracks, ssid⟩ := mirrors bssid _ entry
  have final := tracks.last
  rw [beacons_concat bssid arrivals arrival mgmt sent, List.getLast?_concat] at final
  cases final
  exact ssid

-- Every state of a run has the last beacons in its table exactly when no beacon
-- changes the SSID of a BSSID that has an entry: the SSID is not updated.
theorem access_points_mirror_iff (iface : String) (selfIps : List IpAddr) (rulesLoaded : List (RuleConfig τ))
    (arrivals : List (Arrival τ)) :
    let start := StatefulDetectionEngine.new iface selfIps rulesLoaded
    (∀ reached, reached <+: arrivals →
      (run localTime start reached).accessPoints.All (MirrorsLastBeacon localTime start reached)) ↔
      EveryStep localTime SsidKept start arrivals := by
  intro start
  constructor
  · intro mirrors earlier arrival later split
    apply mirrors_ssid_kept
    exact mirrors (earlier ++ [arrival]) ⟨later, by rw [split]; simp⟩
  · rintro kept reached ⟨later, rfl⟩ bssid ap entry
    have keptReached : EveryStep localTime SsidKept start reached := by
      intro earlier arrival rest split
      exact kept earlier arrival (rest ++ later) (by rw [split]; simp)
    obtain ⟨sent, mgmt, tracks⟩ := run_tracks localTime start rfl reached bssid ap entry
    exact ⟨sent, mgmt, tracks, run_last_ssid localTime start rfl reached keptReached bssid ap entry sent mgmt tracks.last⟩

end Mirror

def beaconWith (ssid : String) (now : Rat) : Arrival Rat where
  pkt := { ParsedPacket.new .wifi80211 none with
    bssid := some (Octets.fill 6 2)
    wifiMgmt := some { WifiMgmtFrame.new 8 (Octets.fill 6 2) [] with ssid := some ssid } }
  now := now

theorem renamed_network_not_mirrored :
    ¬ ∀ (localTime : Nat → String) (iface : String) (selfIps : List IpAddr) (rulesLoaded : List (RuleConfig Rat))
      (arrivals : List (Arrival Rat)),
      let start := StatefulDetectionEngine.new iface selfIps rulesLoaded
      (run localTime start arrivals).accessPoints.All (MirrorsLastBeacon localTime start arrivals) := by
  intro mirrors
  have kept := mirrors_ssid_kept (fun _ => "") _ [beaconWith "home" 0] (beaconWith "guest" 1)
    (mirrors (fun _ => "") "wlan0" [] [] [beaconWith "home" 0, beaconWith "guest" 1])
  have first : (entryAt (run (fun _ => "") (.new "wlan0" [] []) [beaconWith "home" 0]) (beaconWith "guest" 1)
      (Octets.fill 6 2)).map AccessPoint.ssid = some "home" := by
    decide +kernel
  obtain ⟨ap, entry, ssid⟩ := Option.map_eq_some_iff.mp first
  have same := kept (Octets.fill 6 2) _ ap rfl entry
  rw [ssid] at same
  exact absurd same (by decide)

end NetworkIds.Engine
