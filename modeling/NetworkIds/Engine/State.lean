import NetworkIds.Engine.Rules
import Mathlib.Data.Rat.Cast.Order

set_option autoImplicit false

namespace NetworkIds.Engine

open NetworkIds.Parser

-- Numbers of seconds: the f64 of the engine, or the exact numbers they stand for.
class Timestamp (τ : Type) where
  seconds : Nat → τ
  wallClock : UInt32 → UInt32 → τ

instance : Timestamp Rat where
  seconds n := n
  wallClock sec nsec := sec.toNat + nsec.toNat / 1000000000

instance : Timestamp Float where
  seconds n := Float.ofNat n
  wallClock sec nsec := Float.ofNat sec.toNat + Float.ofNat nsec.toNat / 1000000000.0

-- The u64 beacon count is a natural number: no run is long enough to wrap it.
structure AccessPoint (τ : Type) where
  bssid : Mac
  ssid : String
  channel : UInt8
  security : String
  lastSeen : τ
  beaconCount : Nat
  lastRssi : Int8

structure ClientState (τ : Type) where
  mac : Mac
  probeTimestamps : List τ
  probedSsids : List String
  assocTimestamps : List τ
  authFailures : List τ
  deauthTimestamps : List τ
  lastSeen : τ
  lastRssi : Int8
  lastSeqNum : UInt16
  ipAddress : Option IpAddr
  tcpScans : HashMap UInt16 τ
  udpScans : HashMap UInt16 τ
  dnsQueries : List (String × τ)
  diagPortAttempts : UInt32
  infotainmentAttempts : UInt32

structure SessionState (τ : Type) where
  clientMac : Mac
  bssid : Mac
  handshakeStep : UInt8
  lastStepTime : τ
  replayCount : UInt64
  pmkidAttempts : UInt32

-- rule_id -> tracking_key -> timestamps
abbrev RateTracker (τ : Type) := HashMap UInt32 (HashMap String (List τ))

structure RateTrackers (τ : Type) where
  ruleRateTracker : RateTracker τ
  connRateTracker : RateTracker τ

-- The u64 alert counter is a natural number: no run is long enough to wrap it.
structure StatefulDetectionEngine (τ : Type) extends RateTrackers τ where
  alertCounter : Nat
  accessPoints : HashMap Mac (AccessPoint τ)
  clients : HashMap Mac (ClientState τ)
  sessions : HashMap Mac (SessionState τ)
  lastCleanupTime : τ
  iface : String
  selfIps : List IpAddr
  rules : List (EvaluatedRule τ)
  tcpConnTable : ConnTable τ

variable {τ : Type}

def ClientState.new (mac : Mac) (rssi : Int8) (seq : UInt16) (timestamp : τ) : ClientState τ where
  mac := mac
  probeTimestamps := []
  probedSsids := []
  assocTimestamps := []
  authFailures := []
  deauthTimestamps := []
  lastSeen := timestamp
  lastRssi := rssi
  lastSeqNum := seq
  ipAddress := none
  tcpScans := HashMap.empty
  udpScans := HashMap.empty
  dnsQueries := []
  diagPortAttempts := 0
  infotainmentAttempts := 0

-- The interface addresses and the rules of rules.json are read from outside.
def StatefulDetectionEngine.new [Timestamp τ] (iface : String) (selfIps : List IpAddr)
    (rulesLoaded : List (RuleConfig τ)) : StatefulDetectionEngine τ where
  ruleRateTracker := HashMap.empty
  connRateTracker := HashMap.empty
  alertCounter := 0
  accessPoints := HashMap.empty
  clients := HashMap.empty
  sessions := HashMap.empty
  lastCleanupTime := Timestamp.seconds 0
  iface := iface
  selfIps := selfIps
  rules := loadRules rulesLoaded
  tcpConnTable := HashMap.empty

def startedWith [Timestamp τ] (rules : List (EvaluatedRule τ)) : StatefulDetectionEngine τ :=
  { StatefulDetectionEngine.new "eth0" [] [] with rules := rules }

section Expiry

variable [Sub τ] [LT τ] [DecidableLT τ] [Timestamp τ]

-- now - t < window
def within (now : τ) (window : Nat) (t : τ) : Bool := decide (now - t < Timestamp.seconds window)

def ClientState.expire (now : τ) (client : ClientState τ) : ClientState τ :=
  { client with
    probeTimestamps := client.probeTimestamps.filter (within now 60)
    assocTimestamps := client.assocTimestamps.filter (within now 60)
    authFailures := client.authFailures.filter (within now 60)
    deauthTimestamps := client.deauthTimestamps.filter (within now 60)
    tcpScans := client.tcpScans.retain (fun _ t => within now 60 t)
    udpScans := client.udpScans.retain (fun _ t => within now 60 t)
    dnsQueries := client.dnsQueries.filter (fun query => within now 60 query.2) }

-- Old timestamps go first, then the keys that have none left.
def expireKeys (now : τ) (perKeyMap : HashMap String (List τ)) : HashMap String (List τ) :=
  (perKeyMap.mapValues fun timestamps => timestamps.filter (within now 60)).retain fun _ v => !v.isEmpty

def expireTracker (now : τ) (tracker : RateTracker τ) : RateTracker τ := tracker.mapValues (expireKeys now)

def expireConnections (now : τ) (tcpConnTable : ConnTable τ) : ConnTable τ :=
  tcpConnTable.retain fun _ entry => entry.1 != .closing && within now 300 entry.2

def cleanupDue (engine : StatefulDetectionEngine τ) (now : τ) : Bool := !within now 5 engine.lastCleanupTime

def expireStates (engine : StatefulDetectionEngine τ) (now : τ) : StatefulDetectionEngine τ :=
  if cleanupDue engine now then
    { engine with
      lastCleanupTime := now
      ruleRateTracker := expireTracker now engine.ruleRateTracker
      connRateTracker := expireTracker now engine.connRateTracker
      tcpConnTable := expireConnections now engine.tcpConnTable
      clients := (engine.clients.mapValues (ClientState.expire now)).retain
        fun _ client => within now 300 client.lastSeen
      accessPoints := engine.accessPoints.retain fun _ ap => within now 300 ap.lastSeen
      sessions := engine.sessions.retain fun _ sess => within now 300 sess.lastStepTime }
  else engine

end Expiry

def packetRssi (pkt : ParsedPacket) : Int8 := pkt.signalDbm.getD (-50)

def beaconSecurity (mgmt : WifiMgmtFrame) : String := if mgmt.rsnInfo.isSome then "WPA2/WPA3" else "Open"

def AccessPoint.beacon (ap : AccessPoint τ) (mgmt : WifiMgmtFrame) (rssi : Int8) (now : τ) : AccessPoint τ :=
  { ap with
    beaconCount := ap.beaconCount + 1
    lastSeen := now
    lastRssi := rssi
    channel := mgmt.channel.getD 0
    security := beaconSecurity mgmt }

def AccessPoint.first (bssid : Mac) (mgmt : WifiMgmtFrame) (rssi : Int8) (now : τ) : AccessPoint τ where
  bssid := bssid
  ssid := mgmt.ssid.getD ""
  channel := mgmt.channel.getD 0
  security := beaconSecurity mgmt
  lastSeen := now
  beaconCount := 0
  lastRssi := rssi

def beaconOf (pkt : ParsedPacket) : Option (Mac × WifiMgmtFrame) :=
  match pkt.bssid, pkt.wifiMgmt with
  | some bssid, some mgmt => if mgmt.subtype = 8 then some (bssid, mgmt) else none
  | _, _ => none

def trackAccessPoint (accessPoints : HashMap Mac (AccessPoint τ)) (pkt : ParsedPacket) (now : τ) :
    HashMap Mac (AccessPoint τ) :=
  match beaconOf pkt with
  | some (bssid, mgmt) =>
      accessPoints.upsert bssid (AccessPoint.first bssid mgmt (packetRssi pkt) now)
        fun ap => ap.beacon mgmt (packetRssi pkt) now
  | none => accessPoints

def clientAddress (pkt : ParsedPacket) (previous : Option IpAddr) : Option IpAddr :=
  match pkt.network with
  | .ipv4 ip => some (.v4 ip.srcIp)
  | .ipv6 ip => some (.v6 ip.srcIp)
  | _ => previous

def isClientMac (mac : Mac) : Bool := mac != Octets.fill 6 0 && mac != Octets.fill 6 0xFF

def trackClient (clients : HashMap Mac (ClientState τ)) (pkt : ParsedPacket) (now : τ) :
    HashMap Mac (ClientState τ) :=
  if isClientMac pkt.srcMac then
    clients.upsert pkt.srcMac (ClientState.new pkt.srcMac (packetRssi pkt) 0 now) fun client =>
      { client with
        lastSeen := now
        lastRssi := packetRssi pkt
        lastSeqNum := 0
        ipAddress := clientAddress pkt client.ipAddress }
  else clients

def trackConnection (tcpConnTable : ConnTable τ) (pkt : ParsedPacket) (now : τ) : ConnTable τ :=
  match pkt.transport with
  | .tcp tcp =>
      let key := connKey pkt tcp
      if isFreshSyn tcp then tcpConnTable.insert key (.new, now)
      else if hasFlag tcp tcpFlagSyn && hasFlag tcp tcpFlagAck then
        (tcpConnTable.insert (revConnKey pkt tcp) (.established, now)).insert key (.established, now)
      else if hasFlag tcp tcpFlagFin || hasFlag tcp tcpFlagRst then
        tcpConnTable.modify key fun _ => (.closing, now)
      else tcpConnTable.modify key fun entry => (entry.1, now)
  | _ => tcpConnTable

def trackEntry (pkt : ParsedPacket) (now : τ) (key : ConnKey) (entry : Option (TcpConnState × τ)) :
    Option (TcpConnState × τ) :=
  match pkt.transport with
  | .tcp tcp =>
      if isFreshSyn tcp then if key = connKey pkt tcp then some (.new, now) else entry
      else if hasFlag tcp tcpFlagSyn && hasFlag tcp tcpFlagAck then
        if key = connKey pkt tcp ∨ key = revConnKey pkt tcp then some (.established, now) else entry
      else if hasFlag tcp tcpFlagFin || hasFlag tcp tcpFlagRst then
        if key = connKey pkt tcp then entry.map fun _ => (.closing, now) else entry
      else if key = connKey pkt tcp then entry.map fun old => (old.1, now)
      else entry
  | _ => entry

theorem lookup_track (table : ConnTable τ) (pkt : ParsedPacket) (now : τ) (key : ConnKey) :
    (trackConnection table pkt now).lookup key = trackEntry pkt now key (table.lookup key) := by
  unfold trackConnection trackEntry
  cases pkt.transport with
  | tcp tcp =>
      dsimp only
      by_cases syn : isFreshSyn tcp
      · rw [if_pos syn, if_pos syn, HashMap.lookup_insert]
      · rw [if_neg syn, if_neg syn]
        by_cases synAck : (hasFlag tcp tcpFlagSyn && hasFlag tcp tcpFlagAck) = true
        · rw [if_pos synAck, if_pos synAck, HashMap.lookup_insert, HashMap.lookup_insert]
          by_cases own : key = connKey pkt tcp
          · rw [if_pos own, if_pos (.inl own)]
          · by_cases reversed : key = revConnKey pkt tcp
            · rw [if_neg own, if_pos reversed, if_pos (.inr reversed)]
            · rw [if_neg own, if_neg reversed, if_neg (not_or.mpr ⟨own, reversed⟩)]
        · rw [if_neg synAck, if_neg synAck]
          by_cases teardown : (hasFlag tcp tcpFlagFin || hasFlag tcp tcpFlagRst) = true
          · rw [if_pos teardown, if_pos teardown, HashMap.lookup_modify]
            by_cases own : key = connKey pkt tcp
            · rw [if_pos own, if_pos own, own]
            · rw [if_neg own, if_neg own]
          · rw [if_neg teardown, if_neg teardown, HashMap.lookup_modify]
            by_cases own : key = connKey pkt tcp
            · rw [if_pos own, if_pos own, own]
            · rw [if_neg own, if_neg own]
  | udp udp => rfl
  | icmp icmp => rfl
  | none => rfl

end NetworkIds.Engine
