import IotGateway.Protocol.Bodies
import IotGateway.Gateway.Subscriptions
import IotGateway.Gateway.Sessions

/-!
# Publishing to the subscribers

`handlePublish` sends a PUBLISH on to the subscribers of its topic. The receivers come
out of two tables, the index of subscribers and the device table, and the frame is encoded
anew. Whatever a node has been through, every subscriber with a connection other than that
of the publisher gets one frame, and the frame says what was published.
-/

namespace IotGateway.Gateway
open Text Net Storage Protocol

/-! ### The index in every run -/

theorem indexed_dropConn {g : GatewayServer} (w : World) (k : ConnId) (indexed : g.deviceMgr_.Indexed) :
    (g.dropConn w k).1.deviceMgr_.Indexed := by
  rcases g.deviceMgr_dropConn w k with same | ⟨clientId, same⟩
  · rw [same]
    exact indexed
  · rw [same]
    exact indexed.deviceOfflineLocked clientId

theorem indexed_handleItem (n : NodeId) {g : GatewayServer} (w : World) (k : ConnId) (item : Item MqttEvent)
    (indexed : g.deviceMgr_.Indexed) : (g.handleItem n w k item).1.deviceMgr_.Indexed := by
  cases item with
  | failure =>
    simp only [GatewayServer.handleItem]
    split <;> exact indexed
  | event e =>
    cases e with
    | connect payload => exact indexed.of_maps rfl rfl
    | publish => exact indexed
    | subscribe packetId filters =>
      simp only [GatewayServer.handleItem, GatewayServer.handleEvent]
      cases bound : g.connClientMap.lookup k with
      | none =>
        simp only [GatewayServer.handleSubscribe, bound]
        exact indexed
      | some c =>
        rw [handleSubscribe_bound n g w packetId filters bound]
        exact indexed.foldl_subscribe c _
    | pingReq =>
      simp only [GatewayServer.handleItem, GatewayServer.handleEvent, GatewayServer.handlePingReq]
      split
      · exact indexed
      · exact indexed.of_maps rfl rfl
    | disconnect => exact indexed_dropConn w k indexed
    | pubAck => exact indexed

theorem indexed_nodeStep (n : NodeId) {g : GatewayServer} (w : World) (e : NodeEvent) (indexed : g.deviceMgr_.Indexed) :
    (g.nodeStep n w e).1.deviceMgr_.Indexed := by
  rcases nodeStep_cases n g w e with same | exited | ⟨k, -, -, step⟩ | ⟨k, item, -, -, step⟩ | ⟨k, -, -, step⟩ | ⟨-, step⟩
  · obtain ⟨manager, -⟩ := eq_of_tables same
    rw [manager]
    exact indexed
  · rw [exited]
    exact DeviceManager.indexed_new
  · rw [step]
    exact indexed
  · rw [step]
    exact indexed_handleItem n w k item indexed
  · rw [step]
    exact indexed_dropConn (g := g.setConn k .disconnected) w k indexed
  · rw [step]
    exact indexed.foldl_offline _

theorem indexed_run (events : List Event) (n : NodeId) :
    ((run System.step System.new events).nodes n).deviceMgr_.Indexed := by
  refine @System.node_invariant (fun g => g.deviceMgr_.Indexed) DeviceManager.indexed_new ?_ ?_ events n
  · intro n g w reach mqttPort _ indexed
    obtain ⟨manager, -⟩ := eq_of_tables (tables_start n g w reach mqttPort)
    rw [manager]
    exact indexed
  · intro n g w e _ indexed
    exact indexed_nodeStep n w e indexed

/-! ### The receivers -/

/-- The connection that gets the messages for a client, unless it is the one of the publisher. -/
def receiver? (g : GatewayServer) (k : ConnId) (c : Bytes) : Option ConnId :=
  ((sessions g).owner c).filter fun conn => g.conns conn = .connected ∧ conn ≠ k

/-- The clients that get a message on the topic, with their connections. -/
def receivers (g : GatewayServer) (k : ConnId) (topic : Bytes) : List (Bytes × ConnId) :=
  (g.deviceMgr_.subscribersOf topic).filterMap fun c => (receiver? g k c).map fun conn => (c, conn)

theorem mem_receivers {g : GatewayServer} (indexed : g.deviceMgr_.Indexed) {k conn : ConnId} {topic c : Bytes} :
    (c, conn) ∈ receivers g k topic ↔
      topic ∈ g.deviceMgr_.topicsOf c ∧ (sessions g).owner c = some conn ∧ g.conns conn = .connected ∧ conn ≠ k := by
  rw [show topic ∈ g.deviceMgr_.topicsOf c ↔ c ∈ g.deviceMgr_.subscribersOf topic from indexed.inverse c topic]
  simp only [receivers, receiver?, List.mem_filterMap, Option.map_eq_some_iff, Option.filter_eq_some_iff, Prod.mk.injEq,
    decide_eq_true_eq]
  constructor
  · rintro ⟨c', member, conn', ⟨owned, up⟩, rfl, rfl⟩
    exact ⟨member, owned, up⟩
  · rintro ⟨member, owned, up⟩
    exact ⟨c, member, conn, ⟨owned, up⟩, rfl, rfl⟩

theorem nodup_receivers {g : GatewayServer} (indexed : g.deviceMgr_.Indexed) (k : ConnId) (topic : Bytes) :
    ((receivers g k topic).map Prod.fst).Nodup := by
  have clients : (receivers g k topic).map Prod.fst =
      (g.deviceMgr_.subscribersOf topic).filter fun c => (receiver? g k c).isSome := by
    unfold receivers
    induction g.deviceMgr_.subscribersOf topic with
    | nil => rfl
    | cons c clients ih => cases found : receiver? g k c <;> simp [found, ih]
  rw [clients]
  exact (indexed.subscribers.nodup topic).filter _

theorem receiver?_eq (g : GatewayServer) (k : ConnId) (c : Bytes) :
    receiver? g k c = ((g.deviceMgr_.findDevice g.conns c).map (·.connection)).filter (· ≠ k) := by
  cases found : g.deviceMgr_.devices_.lookup c with
  | none => simp [receiver?, DeviceManager.findDevice, sessions, found]
  | some info =>
    by_cases up : g.conns info.connection = .connected
    · simp [receiver?, DeviceManager.findDevice, sessions, found, Option.filter_some, DeviceInfo.isOnline, up]
    · simp [receiver?, DeviceManager.findDevice, sessions, found, Option.filter_some, DeviceInfo.isOnline, up]

/-- `handlePublish` walks through the connections of the receivers. -/
theorem filter_getSubscribers (g : GatewayServer) (k : ConnId) (topic : Bytes) :
    (g.deviceMgr_.getSubscribers g.conns topic).filter (· ≠ k) = (receivers g k topic).map Prod.snd := by
  have second : ∀ c, ((receiver? g k c).map fun conn => (c, conn)).map Prod.snd =
      ((g.deviceMgr_.findDevice g.conns c).map (·.connection)).filter (· ≠ k) := by
    intro c
    rw [Option.map_map, ← receiver?_eq]
    exact Option.map_id'
  rw [DeviceManager.getSubscribers, receivers, List.filter_filterMap, List.map_filterMap]
  simp only [second]
  rfl

/-! ### The frames -/

theorem log_foldl_send (n : NodeId) {g : GatewayServer} {conns : List ConnId} (up : ∀ k ∈ conns, g.conns k = .connected)
    (frame : Bytes) (w : World) :
    (conns.foldl (fun w k => g.send n w k frame) w).log = (conns.map fun k => .frame n k frame).reverse ++ w.log := by
  induction conns generalizing w with
  | nil => rfl
  | cons k conns ih =>
    have first : (g.send n w k frame).log = .frame n k frame :: w.log := by
      rw [GatewayServer.send, if_pos (up k List.mem_cons_self)]
      rfl
    rw [List.foldl_cons, ih (fun k' member => up k' (List.mem_cons_of_mem _ member)), first, List.map_cons,
      List.reverse_cons, List.append_assoc]
    rfl

theorem log_cacheTelemetry (c : RedisClient) (w : World) (clientId topic payload : Bytes) :
    (if c.isConnected then c.cacheTelemetry w clientId topic payload else w).log = w.log := by
  unfold RedisClient.cacheTelemetry
  split
  · split <;> rfl
  · rfl

def publishFrame (topic payload : Bytes) : Bytes :=
  (MqttCodec.encodePublish newBuffer topic payload .atMostOnce 0 false).readable

def pubAckFrame (packetId : UInt16) : Bytes := (MqttCodec.encodePubAck newBuffer packetId).readable

theorem log_handlePublish (n : NodeId) (g : GatewayServer) (w : World) {k : ConnId} (topic payload : Bytes) (qos : MqttQoS)
    (packetId : UInt16) (indexed : g.deviceMgr_.Indexed) (up : g.conns k = .connected) :
    (g.handlePublish n w k topic payload qos packetId).2.log =
      (if qos = .atLeastOnce then [.frame n k (pubAckFrame packetId)] else []) ++
        ((receivers g k topic).map fun r => .frame n r.2 (publishFrame topic payload)).reverse ++ w.log := by
  have connected : ∀ k' ∈ (receivers g k topic).map Prod.snd, g.conns k' = .connected := by
    intro k' member
    obtain ⟨⟨c, conn⟩, listed, rfl⟩ := List.mem_map.mp member
    exact ((mem_receivers indexed).mp listed).2.2.1
  obtain ⟨clientId, named⟩ : ∃ clientId, (g.connClientMap.lookup k).getD (ascii "unknown") = clientId := ⟨_, rfl⟩
  -- the reading has gone to the time series when the connections are looked up
  have sent := fun w' => log_foldl_send n
    (g := { g with tsdbClient_ := g.tsdbClient_.writeDeviceData w.now clientId topic payload }) connected
    (publishFrame topic payload) w'
  have cached := log_cacheTelemetry g.redisClient_ w clientId topic payload
  rw [List.map_map] at sent
  unfold GatewayServer.handlePublish
  rw [named]
  dsimp only
  rw [filter_getSubscribers]
  split
  · rw [GatewayServer.send, if_pos up]
    refine (congrArg (List.cons (Action.frame n k (pubAckFrame packetId))) (sent _)).trans ?_
    rw [cached]
    rfl
  · refine (sent _).trans ?_
    rw [cached]
    rfl

/-- Whatever follows it, the frame is parsed as one packet with this callback. -/
def ParsesAs (frame : Bytes) (e : MqttEvent) : Prop :=
  ∀ buf rest, buf.readable = frame ++ rest →
    (MqttCodec.parse buf).1 = .ok ∧ (MqttCodec.parse buf).2.1 = [e] ∧ (MqttCodec.parse buf).2.2.readable = rest

theorem parsesAs_pubAckFrame (packetId : UInt16) : ParsesAs (pubAckFrame packetId) (.pubAck packetId) := by
  intro buf rest arrived
  have packet : MqttCodec.IsPacket (MqttCodec.Packet.pubAck packetId).wire _ := MqttCodec.isPacket_wire trivial
  exact MqttCodec.parse_isPacket packet arrived

theorem parsesAs_publishFrame {topic payload : Bytes}
    (sendable : (MqttCodec.Packet.publish topic payload .atMostOnce 0 false).Sendable) :
    ParsesAs (publishFrame topic payload) (.publish topic payload .atMostOnce false 0) := by
  intro buf rest arrived
  exact MqttCodec.parse_isPacket (MqttCodec.isPacket_wire sendable) arrived

/-- A connection is up while its packets are read: the close that follows a parse error runs before the next read. -/
theorem publish_fans_out (events : List Event) (n : NodeId) (k : ConnId) (buf buf' : Buffer) (topic payload : Bytes)
    (qos : MqttQoS) (retain : Bool) (packetId : UInt16)
    (parsed : MqttCodec.parse buf = (.ok, [.publish topic payload qos retain packetId], buf'))
    (up : ((run System.step System.new events).nodes n).conns k = .connected) :
    let s := run System.step System.new events
    let g := s.nodes n
    ∃ (sent : List (Bytes × ConnId)) (forward ack : Bytes),
      (sent.map Prod.fst).Nodup ∧
      (∀ c conn, (c, conn) ∈ sent ↔
        topic ∈ g.deviceMgr_.topicsOf c ∧ (sessions g).owner c = some conn ∧ g.conns conn = .connected ∧ conn ≠ k) ∧
      ParsesAs forward (.publish topic payload .atMostOnce false 0) ∧ ParsesAs ack (.pubAck packetId) ∧
      (g.handlePublish n s.world k topic payload qos packetId).2.log =
        (if qos = .atLeastOnce then [.frame n k ack] else []) ++
          (sent.map fun receiver => .frame n receiver.2 forward).reverse ++ s.world.log := by
  intro s g
  have indexed : g.deviceMgr_.Indexed := indexed_run events n
  refine ⟨receivers g k topic, publishFrame topic payload, pubAckFrame packetId, nodup_receivers indexed k topic, ?_, ?_,
    parsesAs_pubAckFrame packetId, log_handlePublish n g s.world topic payload qos packetId indexed up⟩
  · intro c conn
    exact mem_receivers indexed
  · exact parsesAs_publishFrame (MqttCodec.sendable_of_parsed parsed)

def news : Bytes := ascii "news"

/-- A lamp listens to the topic on which a sensor publishes. -/
def lampListens : List Event :=
  startBoth ++ arrive gateway1 1 sensor ++ arrive gateway1 2 lamp ++
    [.node gateway1 (.packet 2 (.event (.subscribe 7 [⟨news, 0⟩])))]

def newsPacket : Bytes := (MqttCodec.Packet.publish news (ascii "on") .atLeastOnce 9 false).wire

theorem isPacket_newsPacket : MqttCodec.IsPacket newsPacket [.publish news (ascii "on") .atLeastOnce false 9] := by
  apply MqttCodec.isPacket_wire
  refine ⟨?_, ?_, ?_, ?_⟩ <;> decide

theorem publish_fans_out_lamp :
    let s := run System.step System.new lampListens
    let g := s.nodes gateway1
    (news ∈ g.deviceMgr_.topicsOf lamp ∧ (sessions g).owner lamp = some 2 ∧ g.conns 2 = .connected) ∧
      ∃ (sent : List (Bytes × ConnId)) (forward ack : Bytes),
        (lamp, 2) ∈ sent ∧
        (g.handlePublish gateway1 s.world 1 news (ascii "on") .atLeastOnce 9).2.log =
          [.frame gateway1 1 ack] ++ (sent.map fun receiver => .frame gateway1 receiver.2 forward).reverse ++ s.world.log := by
  intro s g
  have listens : news ∈ g.deviceMgr_.topicsOf lamp ∧ (sessions g).owner lamp = some 2 ∧ g.conns 2 = .connected := by
    decide
  obtain ⟨buf', parsed⟩ := MqttCodec.parse_of_isPacket isPacket_newsPacket (MqttCodec.readable_received newsPacket)
  obtain ⟨sent, forward, ack, -, exactly, -, -, log⟩ :=
    publish_fans_out lampListens gateway1 1 _ buf' news (ascii "on") .atLeastOnce false 9 parsed (by decide)
  refine ⟨listens, sent, forward, ack, ?_, log⟩
  exact (exactly lamp 2).mpr ⟨listens.1, listens.2.1, listens.2.2, by decide⟩

end IotGateway.Gateway
