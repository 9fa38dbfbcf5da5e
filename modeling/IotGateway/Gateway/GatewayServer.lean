import IotGateway.Protocol.Receive
import IotGateway.Storage.TsdbClient
import IotGateway.Gateway.DeviceManager
import IotGateway.Gateway.ClusterManager

/-!
# The gateway server of a node

`GatewayServer.cpp`: the handlers of MQTT packets and of connection events, the timers,
and the delivery of commands. `connClientMap` is `g_connClientMap`, `s_packetId` the
static counter of `sendCommandToDevice`.
-/

namespace IotGateway.Gateway
open Text Net Storage Protocol

def newBuffer : Buffer := Buffer.new kInitialSize

structure GatewayServer where
  running_ : Bool := false
  redisClient_ : RedisClient := {}
  tsdbClient_ : TsdbClient := {}
  deviceMgr_ : DeviceManager := {}
  clusterMgr_ : ClusterManager := {}
  connClientMap : AList fun _ : ConnId => Bytes := ∅
  conns : ConnId → ConnState := fun _ => .connecting
  s_packetId : UInt16 := 0
  cmdConsumed_ : Nat := 0
  cmdForwarded_ : Nat := 0

namespace GatewayServer

def setConn (g : GatewayServer) (conn : ConnId) (state : ConnState) : GatewayServer :=
  { g with conns := fun k => if k = conn then state else g.conns k }

section Node

variable (nodeId_ : NodeId)

/-- `TcpConnection::send`: bytes are only taken while the connection is up. -/
def send (g : GatewayServer) (w : World) (conn : ConnId) (bytes : Bytes) : World :=
  if g.conns conn = .connected then w.record (.frame nodeId_ conn bytes) else w

/-! ### Connections and packets -/

/-- What `onConnection` and `onDisconnect` do when the connection goes. -/
def dropConn (g : GatewayServer) (w : World) (conn : ConnId) : GatewayServer × World :=
  match g.connClientMap.lookup conn with
  | none => (g, w)
  | some clientId =>
    let (deviceMgr_, w) := g.deviceMgr_.deviceOffline g.redisClient_ w clientId
    ({ g with deviceMgr_, connClientMap := g.connClientMap.erase conn }, w)

theorem world_dropConn (g : GatewayServer) (w : World) (conn : ConnId) :
    (g.dropConn w conn).2 = w ∨ ∃ clientId, (g.dropConn w conn).2 = g.redisClient_.unregisterDevice w clientId := by
  unfold dropConn DeviceManager.deviceOffline
  split
  · exact Or.inl rfl
  · rename_i clientId _
    dsimp only
    split
    · exact Or.inr ⟨clientId, rfl⟩
    · exact Or.inl rfl

theorem deviceMgr_dropConn (g : GatewayServer) (w : World) (conn : ConnId) :
    (g.dropConn w conn).1.deviceMgr_ = g.deviceMgr_ ∨
      ∃ clientId, (g.dropConn w conn).1.deviceMgr_ = g.deviceMgr_.deviceOfflineLocked clientId := by
  unfold dropConn
  split
  · exact Or.inl rfl
  · exact Or.inr ⟨_, rfl⟩

/-- `handleClose` of a connection, with the callback `onConnection`. -/
def onConnectionClosed (g : GatewayServer) (w : World) (conn : ConnId) : GatewayServer × World :=
  let (g, w) := (g.setConn conn .disconnected).dropConn w conn
  (g, w.record (.close nodeId_ conn))

def onDisconnect (g : GatewayServer) (w : World) (conn : ConnId) : GatewayServer × World :=
  let (g, w) := g.dropConn w conn
  (g, w.record (.disconnect nodeId_ conn))

def handleConnect (g : GatewayServer) (w : World) (conn : ConnId) (payload : MqttConnectPayload) :
    GatewayServer × World :=
  let (deviceMgr_, w) := g.deviceMgr_.deviceOnline nodeId_ g.redisClient_ w payload.clientId conn
    payload.keepAlive.toNat payload.username
  let g := { g with deviceMgr_, connClientMap := g.connClientMap.insert conn payload.clientId }
  let w := w.record (.connect nodeId_ conn payload.clientId)
  (g, g.send nodeId_ w conn (MqttCodec.encodeConnAck newBuffer .accepted).readable)

def handlePublish (g : GatewayServer) (w : World) (conn : ConnId) (topic payload : Bytes) (qos : MqttQoS)
    (packetId : UInt16) : GatewayServer × World :=
  let clientId := (g.connClientMap.lookup conn).getD (ascii "unknown")
  let g := { g with tsdbClient_ := g.tsdbClient_.writeDeviceData w.now clientId topic payload }
  let w := if g.redisClient_.isConnected then g.redisClient_.cacheTelemetry w clientId topic payload else w
  let subscribers := (g.deviceMgr_.getSubscribers g.conns topic).filter (· ≠ conn)
  let frame := (MqttCodec.encodePublish newBuffer topic payload .atMostOnce 0 false).readable
  let w := subscribers.foldl (fun w subConn => g.send nodeId_ w subConn frame) w
  let w := if qos = .atLeastOnce then g.send nodeId_ w conn (MqttCodec.encodePubAck newBuffer packetId).readable else w
  (g, w)

def handleSubscribe (g : GatewayServer) (w : World) (conn : ConnId) (packetId : UInt16)
    (filters : List MqttTopicFilter) : GatewayServer × World :=
  match g.connClientMap.lookup conn with
  | none => (g, w)
  | some clientId =>
    let deviceMgr_ := filters.foldl (fun d filter => d.subscribe clientId filter.topic) g.deviceMgr_
    let returnCodes := filters.map (·.qos)
    let g := { g with deviceMgr_ }
    (g, g.send nodeId_ w conn (MqttCodec.encodeSubAck newBuffer packetId returnCodes).readable)

def handlePingReq (g : GatewayServer) (w : World) (conn : ConnId) : GatewayServer × World :=
  let (g, w) :=
    match g.connClientMap.lookup conn with
    | none => (g, w)
    | some clientId =>
      let (deviceMgr_, w) := g.deviceMgr_.updateHeartbeat g.redisClient_ w clientId
      ({ g with deviceMgr_ }, w)
  (g, g.send nodeId_ w conn (MqttCodec.encodePingResp newBuffer).readable)

theorem world_handlePingReq (g : GatewayServer) (w : World) (conn : ConnId) :
    ∃ (g' : GatewayServer) (w' : World),
      (w' = w ∨ ∃ clientId, w' = g.redisClient_.updateDeviceHeartbeat w clientId) ∧
      (g.handlePingReq nodeId_ w conn).2 = g'.send nodeId_ w' conn (MqttCodec.encodePingResp newBuffer).readable := by
  unfold handlePingReq DeviceManager.updateHeartbeat
  dsimp only
  split
  · exact ⟨g, w, Or.inl rfl, rfl⟩
  · rename_i clientId _
    refine ⟨_, _, ?_, rfl⟩
    dsimp only
    split
    · exact Or.inr ⟨clientId, rfl⟩
    · exact Or.inl rfl

/-- The callbacks that `start` gives to the codec. There is none for PUBACK. -/
def handleEvent (g : GatewayServer) (w : World) (conn : ConnId) : MqttEvent → GatewayServer × World
  | .connect payload => g.handleConnect nodeId_ w conn payload
  | .publish topic payload qos _ packetId => g.handlePublish nodeId_ w conn topic payload qos packetId
  | .subscribe packetId filters => g.handleSubscribe nodeId_ w conn packetId filters
  | .pingReq => g.handlePingReq nodeId_ w conn
  | .disconnect => g.onDisconnect nodeId_ w conn
  | .pubAck _ => (g, w)

/-- One result of the codec in the loop of `onMessage`. A parse error closes the connection, later. -/
def handleItem (g : GatewayServer) (w : World) (conn : ConnId) : Item MqttEvent → GatewayServer × World
  | .event e => g.handleEvent nodeId_ w conn e
  | .failure => (if g.conns conn = .connected then g.setConn conn .disconnecting else g, w)

def onMessage (g : GatewayServer) (w : World) (conn : ConnId) (buf : Buffer) : (GatewayServer × World) × Buffer :=
  let (items, buf) := MqttCodec.receive buf
  (items.foldl (fun s item => s.1.handleItem nodeId_ s.2 conn item) (g, w), buf)

def startHeartbeatCheck (g : GatewayServer) (w : World) : GatewayServer × World :=
  let (timedOut, deviceMgr_, w) := g.deviceMgr_.checkHeartbeatTimeout g.redisClient_ w
  ({ g with deviceMgr_ }, timedOut.foldl (fun w clientId => w.record (.timeout nodeId_ clientId)) w)

/-! ### Commands -/

def commandTopic (cmd : Command) : Bytes :=
  if cmd.topic = [] then ascii "/cmd/" ++ cmd.deviceId ++ ascii "/down" else cmd.topic

/-- `++s_packetId`, once more when it wraps to zero. -/
def nextPacketId (last : UInt16) : UInt16 := if last + 1 = 0 then last + 2 else last + 1

def commandFrame (cmd : Command) (packetId : UInt16) : Bytes :=
  (MqttCodec.encodePublish newBuffer (commandTopic cmd) cmd.payload .atLeastOnce packetId false).readable

def sendCommandToDevice (g : GatewayServer) (w : World) (cmd : Command) : Bool × GatewayServer × World :=
  match g.deviceMgr_.findDevice g.conns cmd.deviceId with
  | none => (false, g, w)
  | some device =>
    let packetId := nextPacketId g.s_packetId
    let g := { g with s_packetId := packetId }
    let w := g.send nodeId_ w device.connection (commandFrame cmd packetId)
    let w := g.redisClient_.markCommandSent w cmd.id
    let w := g.redisClient_.ackCommand w cmd.streamId
    (true, g, w)

theorem sendCommandToDevice_none {g : GatewayServer} {cmd : Command}
    (unknown : g.deviceMgr_.findDevice g.conns cmd.deviceId = none) (w : World) :
    g.sendCommandToDevice nodeId_ w cmd = (false, g, w) := by
  unfold sendCommandToDevice
  rw [unknown]

/-- The connection of a device that is found is up, so it takes the frame. -/
theorem sendCommandToDevice_some {g : GatewayServer} {cmd : Command} {device : DeviceInfo}
    (found : g.deviceMgr_.findDevice g.conns cmd.deviceId = some device) (w : World) :
    let frame := Action.frame nodeId_ device.connection (commandFrame cmd (nextPacketId g.s_packetId))
    g.sendCommandToDevice nodeId_ w cmd = (true, { g with s_packetId := nextPacketId g.s_packetId },
      g.redisClient_.ackCommand (g.redisClient_.markCommandSent (w.record frame) cmd.id) cmd.streamId) := by
  have online := (DeviceManager.findDevice_some found).2
  unfold sendCommandToDevice
  rw [found]
  simp only [send, online, if_true]

def processCrossNodeCommand (g : GatewayServer) (w : World) (cmd : Command) : GatewayServer × World :=
  (g.sendCommandToDevice nodeId_ w cmd).2

def deliverCommand (g : GatewayServer) (w : World) (cmd : Command) : GatewayServer × World :=
  let g := { g with cmdConsumed_ := g.cmdConsumed_ + 1 }
  if (g.deviceMgr_.findDevice g.conns cmd.deviceId).isSome then (g.sendCommandToDevice nodeId_ w cmd).2
  else
    let targetNode := g.deviceMgr_.findDeviceNode nodeId_ g.redisClient_ g.conns w cmd.deviceId
    if targetNode = nodeId_.text then
      (g, g.redisClient_.markCommandFailed w cmd.id (ascii "device disconnected"))
    else if targetNode ≠ [] then
      let (forwarded, w) := ClusterManager.forwardCommand nodeId_ g.redisClient_ w cmd.deviceId cmd
      if forwarded then
        ({ g with cmdForwarded_ := g.cmdForwarded_ + 1 }, g.redisClient_.ackCommand w cmd.streamId)
      else (g, g.redisClient_.markCommandFailed w cmd.id (ascii "forward failed"))
    else (g, g.redisClient_.markCommandFailed w cmd.id (ascii "device offline"))

/-- A command is sent to the device, or it fails at once, or it is forwarded, with success or without. -/
theorem deliverCommand_cases (g : GatewayServer) (w : World) (cmd : Command) :
    let consumed := { g with cmdConsumed_ := g.cmdConsumed_ + 1 }
    let forward := ClusterManager.forwardCommand nodeId_ g.redisClient_ w cmd.deviceId cmd
    (g.deviceMgr_.findDevice g.conns cmd.deviceId).isSome = true ∧
        g.deliverCommand nodeId_ w cmd = (consumed.sendCommandToDevice nodeId_ w cmd).2 ∨
      g.deviceMgr_.findDevice g.conns cmd.deviceId = none ∧
        ((∃ reason, g.deliverCommand nodeId_ w cmd = (consumed, g.redisClient_.markCommandFailed w cmd.id reason)) ∨
          forward.1 = true ∧ g.deliverCommand nodeId_ w cmd =
            ({ consumed with cmdForwarded_ := g.cmdForwarded_ + 1 }, g.redisClient_.ackCommand forward.2 cmd.streamId) ∨
          forward.1 = false ∧ g.deliverCommand nodeId_ w cmd =
            (consumed, g.redisClient_.markCommandFailed forward.2 cmd.id (ascii "forward failed"))) := by
  unfold deliverCommand
  dsimp only
  split
  · rename_i online
    exact Or.inl ⟨online, rfl⟩
  · rename_i absent
    refine Or.inr ⟨by simpa using absent, ?_⟩
    split
    · exact Or.inl ⟨_, rfl⟩
    · split
      · split
        · rename_i forwarded
          exact Or.inr (Or.inl ⟨forwarded, rfl⟩)
        · rename_i refused
          exact Or.inr (Or.inr ⟨by simpa using refused, rfl⟩)
      · exact Or.inl ⟨_, rfl⟩

def processCommand (reach : Reach) (junk : RedisClient.Junk) (g : GatewayServer) (w : World) :
    Except StdException GatewayServer × World :=
  if ¬ g.running_ then (.ok g, w)
  else
    let (commands, redisClient_, w) := g.redisClient_.consumeCommands nodeId_ reach junk 10 w
    let g := { g with redisClient_ }
    match commands with
    | .error e => (.error e, w)
    | .ok [] => (.ok g, w)
    | .ok commands =>
      let (g, w) := commands.foldl (fun s cmd => s.1.deliverCommand nodeId_ s.2 cmd) (g, w)
      (.ok { g with clusterMgr_ := g.clusterMgr_.updateLocalStats g.deviceMgr_.localOnlineCount g.cmdConsumed_ }, w)

def apiCommand (cmdId : Int) (deviceId command params : Bytes) : Command where
  id := cmdId
  deviceId := deviceId
  topic := ascii "/cmd/" ++ deviceId ++ ascii "/down"
  payload := ascii "\x7b\"command\":\"" ++ command ++ ascii "\",\"params\":" ++ params ++ ascii "\x7d"
  timeout := 30
  streamId := []
  createdAt := 0

/-- `enqueueCommand`. The clock is read for the id and again by `publishCommand`. -/
def enqueueCommand (fate : RedisClient.XaddFate) (cmdId ts : Int) (g : GatewayServer) (w : World)
    (deviceId command params : Bytes) : Int × GatewayServer × World :=
  let (_, redisClient_, w) := g.redisClient_.publishCommand w fate ts (apiCommand cmdId deviceId command params)
  (cmdId, { g with redisClient_ }, w)

/-! ### Start and stop -/

def start (reach : Reach) (mqttPort_ : UInt16) (g : GatewayServer) (w : World) : GatewayServer × World :=
  let g := { g with running_ := true }
  let (redisClient_, w) := g.redisClient_.connect nodeId_ reach w
  let g := { g with redisClient_ }
  let w := if redisClient_.isConnected then redisClient_.initConsumerGroup w else w
  let clusterMgr_ := g.clusterMgr_.init w.now (ascii "0.0.0.0") mqttPort_ 8080
  if redisClient_.isConnected then
    let (_, clusterMgr_, w) := clusterMgr_.join nodeId_ redisClient_ w
    let w := ClusterManager.subscribeRouteChannel nodeId_ redisClient_ w
    ({ g with clusterMgr_ := clusterMgr_.startHeartbeat.startFailureDetection }, w)
  else ({ g with clusterMgr_ }, w)

/-- What a start sends, without a connection and with one. -/
theorem world_start (reach : Reach) (mqttPort_ : UInt16) (g : GatewayServer) (w : World) :
    let c := (g.redisClient_.connect nodeId_ reach w).1
    let w' := (g.redisClient_.connect nodeId_ reach w).2
    c.isConnected = false ∧ (g.start nodeId_ reach mqttPort_ w).2 = w' ∨
      c.isConnected = true ∧ ∃ cm : ClusterManager, (g.start nodeId_ reach mqttPort_ w).2 =
        ClusterManager.subscribeRouteChannel nodeId_ c (cm.join nodeId_ c (c.initConsumerGroup w')).2.2 := by
  unfold start
  dsimp only
  split
  · rename_i online
    exact Or.inr ⟨online, _, rfl⟩
  · rename_i offline
    exact Or.inl ⟨by simpa using offline, rfl⟩

def stop (junk : List Bytes) (g : GatewayServer) (w : World) : GatewayServer × World :=
  let (clusterMgr_, w) := g.clusterMgr_.leave nodeId_ g.redisClient_ junk w
  let (redisClient_, w) := RedisClient.disconnect nodeId_ w
  ({ g with running_ := false, clusterMgr_, redisClient_ }, w)

end Node
end GatewayServer
end IotGateway.Gateway
