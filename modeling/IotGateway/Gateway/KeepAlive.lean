import IotGateway.Gateway.Sessions

/-!
# Devices that are alive

The heartbeat check evicts a device one and a half keep-alive intervals after its last
heartbeat. Only CONNECT and PINGREQ count as heartbeats, so a device that sends other
packets in time is evicted all the same, and so is one that has switched the keep-alive
off. The runs below carry the arrivals of all packets, to say which devices are alive.
-/

namespace IotGateway.Gateway
open Text Net Storage Protocol

/-! ### Heartbeats in the device table -/

namespace DeviceManager

theorem devices_foldl_subscribe (d : DeviceManager) (clientId : Bytes) (topics : List Bytes) :
    (topics.foldl (fun d topic => d.subscribe clientId topic) d).devices_ = d.devices_ := by
  have once : ∀ (d : DeviceManager) (topic : Bytes), (d.subscribe clientId topic).devices_ = d.devices_ := fun _ _ => rfl
  exact view_foldl DeviceManager.devices_ once topics d

end DeviceManager

/-- The client for which a packet is a heartbeat: that of a CONNECT, or the one a PINGREQ comes from. -/
def beatOf (g : GatewayServer) (k : ConnId) : MqttEvent → Option Bytes
  | .connect payload => some payload.clientId
  | .pingReq => g.connClientMap.lookup k
  | _ => none

def beat? (g : GatewayServer) : NodeEvent → Option Bytes
  | .packet k (.event e) => if g.Readable k then beatOf g k e else none
  | _ => none

/-- A device that is in the table after an event has had its last heartbeat now, if the event is one for it, and
otherwise when it had it before. -/
def HeartbeatKept (now : Nat) (beat : Option Bytes) (before after : DeviceManager) : Prop :=
  ∀ c info, after.devices_.lookup c = some info →
    beat = some c ∧ info.lastHeartbeat = now ∨
      beat ≠ some c ∧ ∃ info', before.devices_.lookup c = some info' ∧ info'.lastHeartbeat = info.lastHeartbeat

theorem HeartbeatKept.of_devices {now : Nat} {before after : DeviceManager} (same : after.devices_ = before.devices_) :
    HeartbeatKept now none before after := by
  intro c info found
  rw [same] at found
  exact .inr ⟨Option.some_ne_none c ∘ Eq.symm, info, found, rfl⟩

theorem HeartbeatKept.insert {before after : DeviceManager} {clientId : Bytes} {info : DeviceInfo}
    (inserted : after.devices_ = before.devices_.insert clientId info) :
    HeartbeatKept info.lastHeartbeat (some clientId) before after := by
  intro c info' found
  rw [inserted] at found
  rcases eq_or_ne clientId c with rfl | different
  · rw [AList.lookup_insert] at found
    cases found
    exact .inl ⟨rfl, rfl⟩
  · rw [AList.lookup_insert_ne different.symm] at found
    exact .inr ⟨different ∘ Option.some.inj, info', found, rfl⟩

theorem HeartbeatKept.offline (now : Nat) (d : DeviceManager) (clients : List Bytes) :
    HeartbeatKept now none d (clients.foldl DeviceManager.deviceOfflineLocked d) := by
  intro c info found
  rw [DeviceManager.devices_foldl_offline] at found
  split at found
  · cases found
  · exact .inr ⟨Option.some_ne_none c ∘ Eq.symm, info, found, rfl⟩

theorem HeartbeatKept.dropConn (g : GatewayServer) (w : World) (k : ConnId) (now : Nat) :
    HeartbeatKept now none g.deviceMgr_ (g.dropConn w k).1.deviceMgr_ := by
  rcases g.deviceMgr_dropConn w k with same | ⟨clientId, same⟩
  · rw [same]
    exact .of_devices rfl
  · rw [same]
    exact .offline now g.deviceMgr_ [clientId]

theorem HeartbeatKept.updateHeartbeat (redis_ : RedisClient) (d : DeviceManager) (w : World) (clientId : Bytes) :
    HeartbeatKept w.now (some clientId) d (d.updateHeartbeat redis_ w clientId).1 := by
  cases found : d.devices_.lookup clientId with
  | none =>
    -- nothing is refreshed, but the device is not in the table either
    have same : (d.updateHeartbeat redis_ w clientId).1.devices_ = d.devices_ := by
      simp only [DeviceManager.updateHeartbeat, found]
    intro c info present
    rw [same] at present
    refine .inr ⟨?_, info, present, rfl⟩
    intro beat
    rw [← Option.some.inj beat, found] at present
    cases present
  | some info =>
    have inserted : (d.updateHeartbeat redis_ w clientId).1.devices_ =
        d.devices_.insert clientId { info with lastHeartbeat := w.now } := by
      simp only [DeviceManager.updateHeartbeat, found]
    exact .insert inserted

theorem HeartbeatKept.handleEvent (n : NodeId) (g : GatewayServer) (w : World) (k : ConnId) (e : MqttEvent) :
    HeartbeatKept w.now (beatOf g k e) g.deviceMgr_ (g.handleEvent n w k e).1.deviceMgr_ := by
  cases e with
  | connect payload =>
    have inserted : (g.handleEvent n w k (.connect payload)).1.deviceMgr_.devices_ =
        g.deviceMgr_.devices_.insert payload.clientId _ := rfl
    exact .insert inserted
  | publish | pubAck => exact .of_devices rfl
  | subscribe packetId filters =>
    apply HeartbeatKept.of_devices
    simp only [GatewayServer.handleEvent]
    cases bound : g.connClientMap.lookup k with
    | none => simp only [GatewayServer.handleSubscribe, bound]
    | some c =>
      rw [handleSubscribe_bound n g w packetId filters bound]
      exact DeviceManager.devices_foldl_subscribe _ c _
  | pingReq =>
    simp only [GatewayServer.handleEvent, GatewayServer.handlePingReq, beatOf]
    cases g.connClientMap.lookup k with
    | none => exact .of_devices rfl
    | some c => exact .updateHeartbeat g.redisClient_ g.deviceMgr_ w c
  | disconnect => exact .dropConn g w k w.now

theorem HeartbeatKept.nodeStep (n : NodeId) (g : GatewayServer) (w : World) (e : NodeEvent) :
    HeartbeatKept w.now (beat? g e) g.deviceMgr_ (g.nodeStep n w e).1.deviceMgr_ := by
  by_cases read : ∃ k e', e = .packet k (.event e') ∧ g.Readable k
  · obtain ⟨k, e', rfl, readable⟩ := read
    rw [show g.nodeStep n w (.packet k (.event e')) = g.handleEvent n w k e' from if_pos readable,
      show beat? g (.packet k (.event e')) = beatOf g k e' from if_pos readable]
    exact .handleEvent n g w k e'
  · have silent : beat? g e = none := by
      unfold beat?
      split
      · rename_i k e'
        exact if_neg fun readable => read ⟨k, e', rfl, readable⟩
      · rfl
    rw [silent]
    rcases nodeStep_cases n g w e with same | exited | ⟨k, -, -, step⟩ | ⟨k, item, rfl, readable, step⟩ | ⟨k, -, -, step⟩ | ⟨-, step⟩
    · obtain ⟨manager, -⟩ := eq_of_tables same
      rw [manager]
      exact .of_devices rfl
    · rw [exited]
      intro c info found
      cases found
    · rw [step]
      exact .of_devices rfl
    · rw [step]
      cases item with
      | event e' => exact absurd ⟨k, e', rfl, readable⟩ read
      | failure =>
        simp only [GatewayServer.handleItem]
        split <;> exact .of_devices rfl
    · rw [step]
      exact .dropConn (g.setConn k .disconnected) w k w.now
    · rw [step]
      exact .offline w.now g.deviceMgr_ _

/-! ### Runs with the arrivals of packets -/

/-- A complete packet on a connection, at some time. `beat` is the client for which it is a heartbeat. -/
structure Arrival where
  node : NodeId
  conn : ConnId
  beat : Option Bytes
  time : Nat
  deriving DecidableEq

/-- A cluster with the packets that have arrived so far, newest first. -/
structure Watched where
  system : System := .new
  arrivals : List Arrival := []

inductive WatchedEvent where
  | event (e : Event)
  /-- A packet of one of the types that have no callback. -/
  | silent (node : NodeId) (conn : ConnId)

namespace Watched

def now (s : Watched) : Nat := s.system.world.now

/-- Packets are read from the open connections of running nodes. -/
def Reads (s : Watched) (n : NodeId) (k : ConnId) : Prop := (s.system.nodes n).running_ = true ∧ (s.system.nodes n).Readable k

instance (s : Watched) (n : NodeId) (k : ConnId) : Decidable (s.Reads n k) := inferInstanceAs (Decidable (_ ∧ _))

def arrival? (s : Watched) : WatchedEvent → Option Arrival
  | .event (.node n (.packet k (.event e))) =>
    if s.Reads n k then some ⟨n, k, beatOf (s.system.nodes n) k e, s.now⟩ else none
  | .silent n k => if s.Reads n k then some ⟨n, k, none, s.now⟩ else none
  | .event _ => none

def step (s : Watched) (e : WatchedEvent) : Watched where
  system :=
    match e with
    | .event e => s.system.step e
    | .silent .. => s.system
  arrivals := (s.arrival? e).toList ++ s.arrivals

def device (s : Watched) (n : NodeId) (c : Bytes) : Option DeviceInfo := (s.system.nodes n).deviceMgr_.devices_.lookup c

/-- When the last CONNECT of the client, or the last PINGREQ on a connection of the client, has come to the node. -/
def lastBeat (s : Watched) (n : NodeId) (c : Bytes) : Option Nat :=
  (s.arrivals.find? fun a => a.node = n ∧ a.beat = some c).map (·.time)

/-- In every interval of the keep-alive time since the CONNECT, at least one packet has come on the connection. -/
def Delivers (s : Watched) (n : NodeId) (info : DeviceInfo) : Prop :=
  ∀ t, info.onlineTime ≤ t → t + info.keepAlive * kSecond ≤ s.now →
    ∃ a ∈ s.arrivals, a.node = n ∧ a.conn = info.connection ∧ t ≤ a.time ∧ a.time ≤ t + info.keepAlive * kSecond

/-- The connection of the device is open and delivers packets in time, or the keep-alive is switched off. -/
def Alive (s : Watched) (n : NodeId) (info : DeviceInfo) : Prop :=
  info.keepAlive = 0 ∨ (s.system.nodes n).conns info.connection = .connected ∧ s.Delivers n info

/-- The check at a node removes no device that is alive. -/
def Spares (s : Watched) (e : WatchedEvent) : Prop :=
  ∀ n, e = .event (.node n .heartbeatCheck) → ∀ c info, s.device n c = some info → s.Alive n info →
    (s.step e).device n c = some info

/-- When a node makes its check, the last CONNECT or PINGREQ of every device that is alive was not too long ago. -/
def Beating (s : Watched) (e : WatchedEvent) : Prop :=
  ∀ n, e = .event (.node n .heartbeatCheck) → (s.system.nodes n).running_ = true →
    ∀ c info, s.device n c = some info → s.Alive n info →
      ∃ t ∈ s.lastBeat n c, 2 * (s.now - t) ≤ 3 * (info.keepAlive * kSecond)

/-- The table has the time of the last heartbeat. -/
def Timed (s : Watched) : Prop := ∀ n c info, s.device n c = some info → s.lastBeat n c = some info.lastHeartbeat

theorem timed_new : Timed {} := by
  intro n c info found
  cases found

/-- The client for which an event is a heartbeat at the node. -/
def beatAt (s : Watched) (n : NodeId) : WatchedEvent → Option Bytes
  | .event (.node m e) => if m = n ∧ (s.system.nodes m).running_ = true then beat? (s.system.nodes m) e else none
  | _ => none

theorem lastBeat_quiet {s : Watched} {e : WatchedEvent} (quiet : s.arrival? e = none) (n : NodeId) (c : Bytes) :
    (s.step e).lastBeat n c = s.lastBeat n c := by
  simp only [lastBeat, step, quiet, Option.toList_none, List.nil_append]

theorem lastBeat_arrival {s : Watched} {e : WatchedEvent} {a : Arrival} (arrives : s.arrival? e = some a) (n : NodeId)
    (c : Bytes) :
    (s.step e).lastBeat n c = if a.node = n ∧ a.beat = some c then some a.time else s.lastBeat n c := by
  simp only [lastBeat, step, arrives, Option.toList_some, List.singleton_append, List.find?_cons]
  by_cases beats : a.node = n ∧ a.beat = some c
  · rw [decide_eq_true beats, if_pos beats]
    rfl
  · rw [decide_eq_false beats, if_neg beats]

theorem lastBeat_step (s : Watched) (e : WatchedEvent) (n : NodeId) (c : Bytes) :
    (s.step e).lastBeat n c = if s.beatAt n e = some c then some s.now else s.lastBeat n c := by
  -- an event without an arrival is no heartbeat
  have otherwise : s.arrival? e = none → s.beatAt n e = none → (s.step e).lastBeat n c =
      if s.beatAt n e = some c then some s.now else s.lastBeat n c := by
    intro quiet silent
    rw [lastBeat_quiet quiet, silent, if_neg (Option.some_ne_none c ∘ Eq.symm)]
  cases e with
  | silent m k =>
    by_cases reads : s.Reads m k
    · have arrives : s.arrival? (.silent m k) = some ⟨m, k, none, s.now⟩ := if_pos reads
      rw [lastBeat_arrival arrives]
      simp [beatAt]
    · exact otherwise (if_neg reads) rfl
  | event e =>
    cases e with
    | tick | start => exact otherwise rfl rfl
    | node m e =>
      cases e with
      | packet k item =>
        cases item with
        | failure => exact otherwise rfl (by simp [beatAt, beat?])
        | event e =>
          by_cases reads : s.Reads m k
          · have arrives : s.arrival? (.event (.node m (.packet k (.event e)))) =
                some ⟨m, k, beatOf (s.system.nodes m) k e, s.now⟩ := if_pos reads
            rw [lastBeat_arrival arrives]
            simp [beatAt, beat?, reads.1, reads.2]
          · refine otherwise (if_neg reads) ?_
            have unread : ¬ ((s.system.nodes m).running_ = true ∧ (s.system.nodes m).Readable k) := reads
            simp only [beatAt, beat?]
            split
            · rename_i here
              exact if_neg fun readable => unread ⟨here.2, readable⟩
            · rfl
      | _ => exact otherwise rfl (by simp [beatAt, beat?])

theorem heartbeatKept_step (s : Watched) (e : WatchedEvent) (n : NodeId) :
    HeartbeatKept s.now (s.beatAt n e) (s.system.nodes n).deviceMgr_ ((s.step e).system.nodes n).deviceMgr_ := by
  have untouched : ∀ e, s.beatAt n e = none → ((s.step e).system.nodes n).deviceMgr_ = (s.system.nodes n).deviceMgr_ →
      HeartbeatKept s.now (s.beatAt n e) (s.system.nodes n).deviceMgr_ ((s.step e).system.nodes n).deviceMgr_ := by
    intro e silent same
    rw [silent, same]
    exact .of_devices rfl
  cases e with
  | silent m k => exact untouched _ rfl rfl
  | event e =>
    cases e with
    | tick delta => exact untouched _ rfl rfl
    | start m reach mqttPort =>
      refine untouched _ rfl ?_
      rcases s.system.step_nodes_cases (.start m reach mqttPort) n with same | ⟨reach', port', -, -, started⟩ | ⟨_, other, -⟩
      · exact congrArg (·.deviceMgr_) same
      · obtain ⟨manager, -⟩ := eq_of_tables (tables_start n (s.system.nodes n) s.system.world reach' port')
        exact (congrArg (·.deviceMgr_) started).trans manager
      · cases other
    | node m e =>
      by_cases here : m = n ∧ (s.system.nodes m).running_ = true
      · obtain ⟨rfl, running⟩ := here
        have stepped : (s.step (.event (.node m e))).system =
            s.system.update m ((s.system.nodes m).nodeStep m s.system.world e) := System.step_running running e
        rw [stepped, System.update_nodes_self, beatAt, if_pos ⟨rfl, running⟩]
        exact .nodeStep m _ _ e
      · refine untouched _ (if_neg here) ?_
        rcases s.system.step_nodes_cases (.node m e) n with same | ⟨_, _, other, -⟩ | ⟨_, there, running, -⟩
        · exact congrArg (·.deviceMgr_) same
        · cases other
        · cases there
          exact absurd ⟨rfl, running⟩ here

theorem timed_step (s : Watched) (e : WatchedEvent) (timed : s.Timed) : (s.step e).Timed := by
  intro n c info found
  rw [lastBeat_step]
  rcases s.heartbeatKept_step e n c info found with ⟨beat, last⟩ | ⟨none, info', before, last⟩
  · rw [if_pos beat, last]
  · rw [if_neg none, ← last]
    exact timed n c info' before

/-- The check keeps a device exactly when its entry has not timed out. -/
theorem device_heartbeatCheck {s : Watched} {n : NodeId} (running : (s.system.nodes n).running_ = true) {c : Bytes}
    {info : DeviceInfo} (found : s.device n c = some info) :
    (s.step (.event (.node n .heartbeatCheck))).device n c = some info ↔ info.timedOut s.now = false := by
  have checked : (s.step (.event (.node n .heartbeatCheck))).device n c =
      if c ∈ (s.system.nodes n).deviceMgr_.timeoutDevices s.now then none else s.device n c := by
    unfold device
    rw [← DeviceManager.devices_foldl_offline, show (s.step (.event (.node n .heartbeatCheck))).system =
      s.system.update n ((s.system.nodes n).nodeStep n s.system.world .heartbeatCheck) from System.step_running running _,
      System.update_nodes_self]
    rfl
  have late : c ∈ (s.system.nodes n).deviceMgr_.timeoutDevices s.now ↔ info.timedOut s.now = true := by
    rw [DeviceManager.mem_timeoutDevices]
    constructor
    · rintro ⟨info', found', timedOut⟩
      obtain rfl : info = info' := Option.some.inj (found.symm.trans found')
      exact timedOut
    · exact fun timedOut => ⟨info, found, timedOut⟩
  rw [checked, ← Bool.not_eq_true, ← late]
  split
  · rename_i evicted
    exact iff_of_false (Option.some_ne_none info ∘ Eq.symm) (not_not_intro evicted)
  · rename_i stays
    exact iff_of_true found stays

theorem spares_iff_beating {s : Watched} (timed : s.Timed) (e : WatchedEvent) : s.Spares e ↔ s.Beating e := by
  constructor
  · rintro spares n rfl running c info found alive
    have kept := (device_heartbeatCheck running found).mp (spares n rfl c info found alive)
    refine ⟨info.lastHeartbeat, timed n c info found, ?_⟩
    simp only [DeviceInfo.timedOut, decide_eq_false_iff_not] at kept
    omega
  · rintro beating n rfl c info found alive
    cases running : (s.system.nodes n).running_ with
    | false =>
      have same : (s.step (.event (.node n .heartbeatCheck))).system = s.system := by
        simp [step, System.step, running]
      rw [device, same]
      exact found
    | true =>
      obtain ⟨t, last, recent⟩ := beating n rfl running c info found alive
      obtain rfl : info.lastHeartbeat = t := Option.some.inj ((timed n c info found).symm.trans last)
      rw [device_heartbeatCheck running found, DeviceInfo.timedOut, decide_eq_false_iff_not]
      omega

/-- No device that is alive is evicted in exactly those runs in which CONNECT and PINGREQ, of all the packets that keep
it alive, come often enough for every check. -/
theorem alive_spared_iff (events : List WatchedEvent) :
    Meets step Spares {} events ↔ Meets step Beating {} events :=
  meets_congr step timed_new timed_step (fun _ e timed => spares_iff_beating timed e) events

/-- A sensor with a keep-alive time of a minute publishes every 45 seconds. -/
def publishing : List WatchedEvent :=
  (startBoth ++ arrive gateway1 1 sensor).map .event ++
    [.event (.tick (45 * kSecond)), .event (.node gateway1 (.packet 1 (.event (.publish lamp [] .atMostOnce false 0)))),
      .event (.tick (45 * kSecond)), .event (.node gateway1 (.packet 1 (.event (.publish lamp [] .atMostOnce false 0)))),
      .event (.tick kSecond)]

theorem publishing_evicted : ¬ Meets step Spares {} (publishing ++ [.event (.node gateway1 .heartbeatCheck)]) := by
  rw [meets_append]
  rintro ⟨-, spares, -⟩
  obtain ⟨info, found, keepAlive, connection⟩ : ∃ info, (run step {} publishing).device gateway1 sensor = some info ∧
      info.keepAlive = 60 ∧ info.connection = 1 := ⟨_, rfl, rfl, rfl⟩
  have clock : (run step {} publishing).now = 91 * kSecond := by decide
  have delivers : (run step {} publishing).Delivers gateway1 info := by
    -- an interval of a minute that ends before the check holds the first of the two packets
    intro t _ complete
    refine ⟨⟨gateway1, 1, none, 45 * kSecond⟩, by decide, rfl, connection.symm, ?_, ?_⟩ <;>
      rw [keepAlive, clock] at complete
    · dsimp only
      omega
    · rw [keepAlive]
      dsimp only
      omega
  have connected : ((run step {} publishing).system.nodes gateway1).conns info.connection = .connected := by
    rw [connection]
    decide
  have kept := spares gateway1 rfl sensor info found (.inr ⟨connected, delivers⟩)
  have gone : ((run step {} publishing).step (.event (.node gateway1 .heartbeatCheck))).device gateway1 sensor = none := by
    decide
  rw [gone] at kept
  cases kept

end Watched
end IotGateway.Gateway
