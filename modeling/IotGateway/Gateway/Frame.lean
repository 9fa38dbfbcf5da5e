import IotGateway.Gateway.System

/-!
# What the functions of a node leave alone

Parts of the world are studied on their own: the heartbeat hash (`presence`), the device
registry (`registry`), the command stream (`delivery`), each with the actions that belong to
it, and others further on. For every function it is said once which parts it may change, for
any view of the world that does not show these.
-/

namespace IotGateway.Gateway
open Text Net Redis Storage Protocol

/-- The keys of the store that change, and the kinds of actions in the log. -/
inductive Part where
  | devices
  | nodes
  | heartbeat
  | telemetry
  | cmd
  | commands
  | subscriptions
  | presence
  | connect
  | parting
  | frame
  | xack
  | publish
  deriving DecidableEq

def logged : Action → Part
  | .heartbeat .. | .leave .. | .lost .. | .failed .. => .presence
  | .connect .. => .connect
  | .disconnect .. | .close .. | .timeout .. | .exit .. => .parting
  | .frame .. => .frame
  | .xack .. => .xack
  | .publish .. => .publish

/-! ### Views -/

section View

variable {β : Type}

/-- The view does not show what a part of the world is. -/
def Unseen (view : World → β) : Part → Prop
  | .devices => ∀ w devices, view { w with redis := { w.redis with devices } } = view w
  | .nodes => ∀ w nodes, view { w with redis := { w.redis with nodes } } = view w
  | .heartbeat => ∀ w heartbeat, view { w with redis := { w.redis with heartbeat } } = view w
  | .telemetry => ∀ w telemetry, view { w with redis := { w.redis with telemetry } } = view w
  | .cmd => ∀ w cmd cmdPending, view { w with redis := { w.redis with cmd, cmdPending } } = view w
  | .commands => ∀ w commands, view { w with redis := { w.redis with commands } } = view w
  | .subscriptions => ∀ w subscriptions, view { w with redis := { w.redis with subscriptions } } = view w
  | part => ∀ w action, logged action = part → view (w.record action) = view w

def Blind (view : World → β) (parts : List Part) : Prop := ∀ part ∈ parts, Unseen view part

/-- The view shows nothing but these parts. -/
def Sees (view : World → β) (seen : List Part) : Prop := ∀ part, part ∉ seen → Unseen view part

variable {view : World → β}

theorem Sees.blind {seen parts : List Part} (sees : Sees view seen)
    (apart : (parts.all fun part => decide (part ∉ seen)) = true) : Blind view parts :=
  fun part member => sees part (of_decide_eq_true (List.all_eq_true.mp apart part member))

theorem Blind.mono {parts parts' : List Part} (blind : Blind view parts) (fewer : parts' ⊆ parts) : Blind view parts' :=
  fun part member => blind part (fewer member)

theorem Blind.record {parts : List Part} (blind : Blind view parts) (action : Action)
    (listed : parts.contains (logged action) = true) (w : World) : view (w.record action) = view w := by
  have unseen := blind (logged action) (List.contains_iff_mem.mp listed)
  cases action <;> exact unseen w _ rfl

theorem Sees.record {seen : List Part} (sees : Sees view seen) (action : Action)
    (other : seen.contains (logged action) = false) (w : World) : view (w.record action) = view w := by
  have unseen := sees (logged action) fun member => by
    rw [List.contains_iff_mem.mpr member] at other
    cases other
  cases action <;> exact unseen w _ rfl

end View

def isPresence : Action → Bool
  | .heartbeat .. | .leave .. | .lost .. | .failed .. => true
  | _ => false

structure Presence where
  now : Nat
  heartbeat : Hash Bytes Bytes
  log : List Action

def presence (w : World) : Presence := ⟨w.now, w.redis.heartbeat, w.log.filter isPresence⟩

def isSession : Action → Bool
  | .connect .. | .disconnect .. | .close .. | .timeout .. | .exit .. => true
  | _ => false

structure Registry where
  now : Nat
  devices : Hash Bytes Bytes
  log : List Action

def registry (w : World) : Registry := ⟨w.now, w.redis.devices, w.log.filter isSession⟩

def isDelivery : Action → Bool
  | .connect .. | .frame .. | .xack .. => true
  | _ => false

structure Delivery where
  commands : Redis.Stream (List (Bytes × Bytes)) Bytes
  log : List Action

def delivery (w : World) : Delivery := ⟨w.redis.commands, w.log.filter isDelivery⟩

theorem sees_now : Sees World.now [] := by
  intro part _
  cases part <;> first | exact fun _ _ => rfl | exact fun _ _ _ => rfl

theorem sees_presence : Sees presence [.heartbeat, .presence] := by
  intro part other
  -- the other keys are other fields of the store, and the other actions are filtered out
  cases part <;> first | exact absurd (by decide) other | exact fun _ _ => rfl | exact fun _ _ _ => rfl |
    exact fun w action kind => by cases action <;> first | rfl | cases kind

theorem sees_registry : Sees registry [.devices, .connect, .parting] := by
  intro part other
  cases part <;> first | exact absurd (by decide) other | exact fun _ _ => rfl | exact fun _ _ _ => rfl |
    exact fun w action kind => by cases action <;> first | rfl | cases kind

theorem sees_delivery : Sees delivery [.commands, .connect, .frame, .xack] := by
  intro part other
  cases part <;> first | exact absurd (by decide) other | exact fun _ _ => rfl | exact fun _ _ _ => rfl |
    exact fun w action kind => by cases action <;> first | rfl | cases kind

section Client

variable {β : Type} {view : World → β} (c : RedisClient) (w : World)

/-! ### Functions of the client -/

theorem view_disconnect (blind : Blind view [.subscriptions]) (n : NodeId) : view (RedisClient.disconnect n w).2 = view w :=
  blind .subscriptions List.mem_cons_self w _

theorem view_connect (blind : Blind view [.subscriptions]) (n : NodeId) (reach : Reach) :
    view (c.connect n reach w).2 = view w := by
  unfold RedisClient.connect
  split
  · rfl
  · split
    · rfl
    · exact view_disconnect w blind n

theorem view_reconnect (blind : Blind view [.subscriptions]) (n : NodeId) (reach : Reach) :
    view (RedisClient.reconnect n reach w).2 = view w :=
  (view_connect _ _ blind n reach).trans (view_disconnect w blind n)

theorem view_initConsumerGroup (blind : Blind view [.commands]) : view (c.initConsumerGroup w) = view w := by
  unfold RedisClient.initConsumerGroup
  split
  · exact blind .commands List.mem_cons_self w _
  · rfl

theorem view_consumeCommands (blind : Blind view [.commands, .subscriptions]) (n : NodeId) (reach : Reach)
    (junk : RedisClient.Junk) (batchSize : Nat) : view (c.consumeCommands n reach junk batchSize w).2.2 = view w := by
  rcases RedisClient.consumeCommands_cases n reach junk batchSize c w with ⟨-, same⟩ | ⟨-, -, same⟩ | ⟨-, -, same⟩
  · rw [same]
  · rw [same]
    exact blind .commands List.mem_cons_self w _
  · rw [same]
    exact view_reconnect w (blind.mono (by decide)) n reach

theorem view_ackCommand (blind : Blind view [.commands, .xack]) (streamId : Bytes) :
    view (c.ackCommand w streamId) = view w := by
  unfold RedisClient.ackCommand
  split
  · exact (blind.record (.xack _) rfl _).trans (blind .commands (by decide) w _)
  · rfl

theorem view_publishCommand (blind : Blind view [.commands]) (fate : RedisClient.XaddFate) (ts : Int) (cmd : Command) :
    view (c.publishCommand w fate ts cmd).2.2 = view w := by
  unfold RedisClient.publishCommand
  split
  · cases fate with
    | answered | replyLost => exact blind .commands List.mem_cons_self w _
    | refused => rfl
  · rfl

theorem view_markCommandSent (blind : Blind view [.cmd]) (id : Int) : view (c.markCommandSent w id) = view w := by
  unfold RedisClient.markCommandSent
  split
  · exact blind .cmd List.mem_cons_self w _ _
  · rfl

theorem view_markCommandFailed (blind : Blind view [.cmd]) (id : Int) (reason : Bytes) :
    view (c.markCommandFailed w id reason) = view w := by
  unfold RedisClient.markCommandFailed
  split
  · exact blind .cmd List.mem_cons_self w _ _
  · rfl

theorem view_registerDevice (blind : Blind view [.devices]) (clientId gateway : Bytes) (keepAlive : Int) :
    view (c.registerDevice w clientId gateway keepAlive) = view w := by
  unfold RedisClient.registerDevice
  split
  · exact blind .devices List.mem_cons_self w _
  · rfl

theorem view_unregisterDevice (blind : Blind view [.devices, .telemetry]) (clientId : Bytes) :
    view (c.unregisterDevice w clientId) = view w := by
  unfold RedisClient.unregisterDevice
  split
  · let erased : World := { w with redis := { w.redis with devices := w.redis.devices.erase w.now (cstr clientId) } }
    exact (blind .telemetry (by decide) erased _).trans (blind .devices (by decide) w _)
  · rfl

theorem view_updateDeviceHeartbeat (blind : Blind view [.devices]) (clientId : Bytes) :
    view (c.updateDeviceHeartbeat w clientId) = view w := by
  unfold RedisClient.updateDeviceHeartbeat
  split
  · exact blind .devices List.mem_cons_self w _
  · rfl

theorem view_registerNode (blind : Blind view [.nodes]) (n : NodeId) (addr : Bytes) (mqttPort apiPort : UInt16) :
    view (c.registerNode w n addr mqttPort apiPort).2 = view w := by
  unfold RedisClient.registerNode
  split
  · rfl
  · split
    · exact blind .nodes List.mem_cons_self w _
    · rfl

theorem view_sendNodeHeartbeat (blind : Blind view [.heartbeat, .presence]) (n : NodeId) :
    view (c.sendNodeHeartbeat w n).2 = view w := by
  unfold RedisClient.sendNodeHeartbeat
  split
  · rfl
  · split
    · exact (blind.record (.heartbeat n w.now) rfl _).trans (blind .heartbeat (by decide) w _)
    · rfl

theorem view_subscribeRouteChannel (blind : Blind view [.subscriptions]) (n : NodeId) :
    view (c.subscribeRouteChannel w n).2 = view w := by
  unfold RedisClient.subscribeRouteChannel
  split
  · rfl
  · rfl
  · exact blind .subscriptions List.mem_cons_self w _

theorem view_publishToNode (blind : Blind view [.publish]) (target : Bytes) (cmd : Command) :
    view (c.publishToNode w target cmd).2 = view w := by
  unfold RedisClient.publishToNode
  split
  · exact blind.record (.publish _ _) rfl w
  · rfl

theorem view_cacheTelemetry (blind : Blind view [.telemetry]) (clientId topic payload : Bytes) :
    view (c.cacheTelemetry w clientId topic payload) = view w := by
  unfold RedisClient.cacheTelemetry
  split
  · exact blind .telemetry List.mem_cons_self w _
  · rfl

theorem view_sendCommand (blind : Blind view [.nodes, .heartbeat]) (junk : List Bytes) (cmd : Bytes) :
    view (c.sendCommand junk w cmd) = view w := by
  unfold RedisClient.sendCommand
  split
  · split
    · split
      · exact blind .nodes (by decide) w _
      · split
        · exact blind .heartbeat (by decide) w _
        · rfl
    · rfl
  · rfl

end Client

/-! ### The cluster manager -/

section Cluster

variable {β : Type} {view : World → β} (n : NodeId) (c : RedisClient) (cm : ClusterManager) (w : World)

theorem view_sendHeartbeat (blind : Blind view [.heartbeat, .presence]) : view (cm.sendHeartbeat n c w).2.2 = view w := by
  unfold ClusterManager.sendHeartbeat
  split
  · rfl
  · exact view_sendNodeHeartbeat c w blind n

theorem view_discoverNodes (blind : Blind view [.presence]) : view (cm.discoverNodes n c w).2 = view w := by
  unfold ClusterManager.discoverNodes
  split
  · rfl
  · exact view_foldl view (fun w id => blind.record (.lost n id w.now c.answers) rfl w) _ w

/-- `XPENDING` only asks. -/
theorem world_claimPendingMessages (junk : List Bytes) (failedNodeId : Bytes) :
    (ClusterManager.claimPendingMessages c junk w failedNodeId).2 = w := by
  unfold ClusterManager.claimPendingMessages
  split
  · rfl
  · unfold RedisClient.sendCommand
    split
    · rw [cstr_append (by decide)]
      rfl
    · rfl

theorem view_failureDetection (blind : Blind view [.presence]) (junk : List Bytes) :
    view (cm.failureDetection n c junk w).2 = view w := by
  unfold ClusterManager.failureDetection
  dsimp only
  rw [view_discoverNodes n c cm _ blind,
    view_foldl view fun w id => congrArg view (world_claimPendingMessages c w junk id)]
  exact view_foldl view (fun w id => blind.record (.failed n id w.now c.answers) rfl w) _ w

theorem view_leave (blind : Blind view [.nodes, .heartbeat, .presence]) (junk : List Bytes) :
    view (cm.leave n c junk w).2 = view w := by
  have sent : ∀ w cmd, view (c.sendCommand junk w cmd) = view w :=
    fun w cmd => view_sendCommand c w (blind.mono (by decide)) junk cmd
  rcases ClusterManager.world_leave n c junk cm w with same | ⟨-, same⟩
  · rw [same]
  · rw [same, blind.record (.leave n _) rfl, sent, sent]

theorem view_join (blind : Blind view [.nodes, .heartbeat, .presence]) : view (cm.join n c w).2.2 = view w := by
  rcases ClusterManager.join_cases n c cm w with ⟨-, same⟩ | ⟨-, same⟩
  · rw [same]
  · rw [same]
    dsimp only
    rw [view_discoverNodes n c _ _ (blind.mono (by decide)), view_sendHeartbeat n c cm _ (blind.mono (by decide)),
      view_registerNode c w (blind.mono (by decide))]

theorem view_subscribeRoute (blind : Blind view [.subscriptions]) :
    view (ClusterManager.subscribeRouteChannel n c w) = view w := by
  unfold ClusterManager.subscribeRouteChannel
  split
  · exact view_subscribeRouteChannel c w blind n
  · rfl

theorem view_forwardCommand (blind : Blind view [.publish]) (clientId : Bytes) (cmd : Command) :
    view (ClusterManager.forwardCommand n c w clientId cmd).2 = view w := by
  unfold ClusterManager.forwardCommand
  split
  · rfl
  · split
    · rfl
    · exact view_publishToNode c w blind _ cmd

end Cluster

/-! ### Handlers -/

section Node

variable {β : Type} {view : World → β} (n : NodeId) (g : GatewayServer) (w : World)

theorem view_send (blind : Blind view [.frame]) (conn : ConnId) (bytes : Bytes) : view (g.send n w conn bytes) = view w := by
  unfold GatewayServer.send
  split
  · exact blind.record (.frame n conn bytes) rfl w
  · rfl

theorem view_cached (blind : Blind view [.telemetry]) (clientId topic payload : Bytes) :
    view (if g.redisClient_.isConnected then g.redisClient_.cacheTelemetry w clientId topic payload else w) = view w := by
  split
  · exact view_cacheTelemetry _ w blind clientId topic payload
  · rfl

theorem view_dropConn (blind : Blind view [.devices, .telemetry]) (conn : ConnId) : view (g.dropConn w conn).2 = view w := by
  rcases g.world_dropConn w conn with same | ⟨clientId, same⟩
  · rw [same]
  · rw [same]
    exact view_unregisterDevice _ w blind clientId

theorem view_handleConnect (blind : Blind view [.devices, .connect, .frame]) (conn : ConnId) (payload : MqttConnectPayload) :
    view (g.handleConnect n w conn payload).2 = view w := by
  unfold GatewayServer.handleConnect DeviceManager.deviceOnline
  dsimp only
  rw [view_send n _ _ (blind.mono (by decide)), blind.record (.connect n conn payload.clientId) rfl]
  split
  · exact view_registerDevice _ w (blind.mono (by decide)) _ _ _
  · rfl

theorem view_handlePublish (blind : Blind view [.telemetry, .frame]) (conn : ConnId) (topic payload : Bytes) (qos : MqttQoS)
    (packetId : UInt16) : view (g.handlePublish n w conn topic payload qos packetId).2 = view w := by
  have sent : ∀ g w conn bytes, view (GatewayServer.send n g w conn bytes) = view w :=
    fun g w conn bytes => view_send n g w (blind.mono (by decide)) conn bytes
  unfold GatewayServer.handlePublish
  dsimp only
  split
  · rw [sent, view_foldl view fun w conn => sent _ w conn _, view_cached g w (blind.mono (by decide))]
  · rw [view_foldl view fun w conn => sent _ w conn _, view_cached g w (blind.mono (by decide))]

theorem view_handleSubscribe (blind : Blind view [.frame]) (conn : ConnId) (packetId : UInt16)
    (filters : List MqttTopicFilter) : view (g.handleSubscribe n w conn packetId filters).2 = view w := by
  unfold GatewayServer.handleSubscribe
  split
  · rfl
  · exact view_send n _ w blind conn _

theorem view_handlePingReq (blind : Blind view [.devices, .frame]) (conn : ConnId) :
    view (g.handlePingReq n w conn).2 = view w := by
  obtain ⟨g', w', touched, answered⟩ := g.world_handlePingReq n w conn
  rw [answered, view_send n _ _ (blind.mono (by decide))]
  rcases touched with same | ⟨clientId, same⟩
  · rw [same]
  · rw [same]
    exact view_updateDeviceHeartbeat _ w (blind.mono (by decide)) clientId

theorem view_gone (blind : Blind view [.devices, .telemetry, .parting]) {action : Action} (parting : logged action = .parting)
    (conn : ConnId) : view ((g.dropConn w conn).2.record action) = view w := by
  rw [blind.record action (by rw [parting]; rfl)]
  exact view_dropConn g w (blind.mono (by decide)) conn

theorem view_handleItem (blind : Blind view [.devices, .telemetry, .connect, .parting, .frame]) (conn : ConnId)
    (item : Item MqttEvent) : view (g.handleItem n w conn item).2 = view w := by
  cases item with
  | failure => rfl
  | event e =>
    cases e with
    | connect payload => exact view_handleConnect n g w (blind.mono (by decide)) conn payload
    | publish topic payload qos retain packetId =>
      exact view_handlePublish n g w (blind.mono (by decide)) conn topic payload qos packetId
    | subscribe packetId filters => exact view_handleSubscribe n g w (blind.mono (by decide)) conn packetId filters
    | pingReq => exact view_handlePingReq n g w (blind.mono (by decide)) conn
    | disconnect => exact view_gone g w (blind.mono (by decide)) rfl conn
    | pubAck packetId => rfl

theorem view_startHeartbeatCheck (blind : Blind view [.devices, .telemetry, .parting]) :
    view (g.startHeartbeatCheck n w).2 = view w := by
  unfold GatewayServer.startHeartbeatCheck DeviceManager.checkHeartbeatTimeout
  dsimp only
  rw [view_foldl view fun w clientId => blind.record (.timeout n clientId) rfl w]
  split
  · exact view_foldl view (fun w clientId => view_unregisterDevice _ w (blind.mono (by decide)) clientId) _ w
  · rfl

/-! ### Commands -/

theorem view_sendCommandToDevice (blind : Blind view [.cmd, .commands, .frame, .xack]) (cmd : Command) :
    view (g.sendCommandToDevice n w cmd).2.2 = view w := by
  unfold GatewayServer.sendCommandToDevice
  split
  · rfl
  · dsimp only
    rw [view_ackCommand _ _ (blind.mono (by decide)), view_markCommandSent _ _ (blind.mono (by decide)),
      view_send n _ _ (blind.mono (by decide))]

theorem view_deliverCommand (blind : Blind view [.cmd, .commands, .frame, .xack, .publish]) (cmd : Command) :
    view (g.deliverCommand n w cmd).2 = view w := by
  have forwarded := view_forwardCommand n g.redisClient_ w (blind.mono (by decide)) cmd.deviceId cmd
  rcases g.deliverCommand_cases n w cmd with ⟨-, same⟩ | ⟨-, ⟨reason, same⟩ | ⟨-, same⟩ | ⟨-, same⟩⟩
  · rw [same]
    exact view_sendCommandToDevice n _ w (blind.mono (by decide)) cmd
  · rw [same]
    exact view_markCommandFailed _ w (blind.mono (by decide)) _ reason
  · rw [same, view_ackCommand _ _ (blind.mono (by decide)), forwarded]
  · rw [same, view_markCommandFailed _ _ (blind.mono (by decide)), forwarded]

theorem view_processCommand (blind : Blind view [.cmd, .commands, .subscriptions, .frame, .xack, .publish]) (reach : Reach)
    (junk : RedisClient.Junk) : view (g.processCommand n reach junk w).2 = view w := by
  have consumed := view_consumeCommands g.redisClient_ w (blind.mono (by decide)) n reach junk 10
  have batch : ∀ (commands : List Command) (s : GatewayServer × World),
      view (commands.foldl (fun s cmd => s.1.deliverCommand n s.2 cmd) s).2 = view s.2 :=
    view_foldl (fun s : GatewayServer × World => view s.2)
      fun s cmd => view_deliverCommand n s.1 s.2 (blind.mono (by decide)) cmd
  unfold GatewayServer.processCommand
  split
  · rfl
  · dsimp only
    split
    · exact consumed
    · exact consumed
    · exact (batch _ _).trans consumed

theorem view_exit (blind : Blind view [.subscriptions, .parting]) : view (g.exit n w).2 = view w := by
  unfold GatewayServer.exit
  rw [blind.record (.exit n) rfl]
  exact view_disconnect w (blind.mono (by decide)) n

/-- What a start does before it joins. -/
theorem view_opened (blind : Blind view [.commands, .subscriptions]) (reach : Reach) :
    view ((g.redisClient_.connect n reach w).1.initConsumerGroup (g.redisClient_.connect n reach w).2) = view w :=
  (view_initConsumerGroup _ _ (blind.mono (by decide))).trans (view_connect _ w (blind.mono (by decide)) n reach)

/-- What a start does from then on. -/
theorem view_joined (blind : Blind view [.nodes, .heartbeat, .subscriptions, .presence]) (reach : Reach)
    (mqttPort : UInt16) : view (g.start n reach mqttPort w).2 =
      view ((g.redisClient_.connect n reach w).1.initConsumerGroup (g.redisClient_.connect n reach w).2) := by
  rcases g.world_start n reach mqttPort w with ⟨down, same⟩ | ⟨-, cm, same⟩
  · have offline : (g.redisClient_.connect n reach w).1.connected_ = false := down
    rw [same]
    simp [RedisClient.initConsumerGroup, offline]
  · rw [same, view_subscribeRoute n _ _ (blind.mono (by decide)), view_join n _ cm _ (blind.mono (by decide))]

theorem view_start (blind : Blind view [.nodes, .heartbeat, .commands, .subscriptions, .presence]) (reach : Reach)
    (mqttPort : UInt16) : view (g.start n reach mqttPort w).2 = view w :=
  (view_joined n g w (blind.mono (by decide)) reach mqttPort).trans (view_opened n g w (blind.mono (by decide)) reach)

/-! ### Events -/

/-- The parts of the world that an event may change. -/
def NodeEvent.parts : NodeEvent → List Part
  | .accept _ | .linkDown => []
  | .packet .. => [.devices, .telemetry, .connect, .parting, .frame]
  | .close _ | .heartbeatCheck => [.devices, .telemetry, .parting]
  | .processCommand .. => [.cmd, .commands, .subscriptions, .frame, .xack, .publish, .parting]
  | .crossNodeCommand _ => [.cmd, .commands, .frame, .xack]
  | .enqueueCommand .. => [.commands]
  | .join | .leave _ => [.nodes, .heartbeat, .presence]
  | .sendHeartbeat => [.heartbeat, .presence]
  | .discoverNodes | .failureDetection _ => [.presence]
  | .subDown => [.subscriptions]
  | .stop _ => [.nodes, .heartbeat, .presence, .subscriptions, .parting]
  | .kill => [.subscriptions, .parting]

theorem view_nodeStep {e : NodeEvent} (blind : Blind view e.parts) : view (g.nodeStep n w e).2 = view w := by
  cases e with
  | accept k =>
    simp only [GatewayServer.nodeStep]
    split <;> rfl
  | packet k item =>
    simp only [GatewayServer.nodeStep]
    split
    · exact view_handleItem n g w blind k item
    · rfl
  | close k =>
    simp only [GatewayServer.nodeStep]
    split
    · exact view_gone (g.setConn k .disconnected) w blind rfl k
    · rfl
  | heartbeatCheck => exact view_startHeartbeatCheck n g w blind
  | processCommand reach junk =>
    have blind : Blind view [.cmd, .commands, .subscriptions, .frame, .xack, .publish, .parting] := blind
    have processed := view_processCommand n g w (blind.mono (by decide)) reach junk
    simp only [GatewayServer.nodeStep]
    split
    · rename_i done
      rw [done] at processed
      exact processed
    · rename_i thrown
      rw [thrown] at processed
      exact (view_exit n g _ (blind.mono (by decide))).trans processed
  | crossNodeCommand cmd => exact view_sendCommandToDevice n g w blind _
  | enqueueCommand fate deviceId command params => exact view_publishCommand _ w blind fate _ _
  | join => exact view_join n _ _ w blind
  | sendHeartbeat => exact view_sendHeartbeat n _ _ w blind
  | discoverNodes => exact view_discoverNodes n _ _ w blind
  | failureDetection junk => exact view_failureDetection n _ _ w blind junk
  | leave junk => exact view_leave n _ _ w blind junk
  | linkDown => rfl
  | subDown => exact blind .subscriptions List.mem_cons_self w _
  | stop junk =>
    have blind : Blind view [.nodes, .heartbeat, .presence, .subscriptions, .parting] := blind
    have left := view_leave n g.redisClient_ g.clusterMgr_ w (blind.mono (by decide)) junk
    have closed := view_disconnect (g.clusterMgr_.leave n g.redisClient_ junk w).2 (blind.mono (by decide)) n
    exact (view_exit n _ _ (blind.mono (by decide))).trans (closed.trans left)
  | kill => exact view_exit n g w blind

end Node

/-! ### The node itself -/

def power (g : GatewayServer) : Bool × RedisClient := (g.running_, g.redisClient_)

section Node

variable (n : NodeId) (g : GatewayServer) (w : World)

theorem power_dropConn (k : ConnId) : power (g.dropConn w k).1 = power g := by
  unfold GatewayServer.dropConn
  split <;> rfl

theorem conns_dropConn (k : ConnId) : (g.dropConn w k).1.conns = g.conns := by
  unfold GatewayServer.dropConn
  split <;> rfl

theorem power_handleItem (k : ConnId) (item : Item MqttEvent) : power (g.handleItem n w k item).1 = power g := by
  cases item with
  | failure =>
    simp only [GatewayServer.handleItem]
    split <;> rfl
  | event e =>
    cases e with
    | subscribe packetId filters =>
      simp only [GatewayServer.handleItem, GatewayServer.handleEvent, GatewayServer.handleSubscribe]
      split <;> rfl
    | pingReq =>
      simp only [GatewayServer.handleItem, GatewayServer.handleEvent, GatewayServer.handlePingReq]
      split <;> rfl
    | disconnect => exact power_dropConn g w k
    | connect | publish | pubAck => rfl

end Node

/-- A node after some commands: only its counters have changed. -/
def Counted (g g' : GatewayServer) : Prop :=
  ∃ packetId consumed forwarded,
    g' = { g with s_packetId := packetId, cmdConsumed_ := consumed, cmdForwarded_ := forwarded }

theorem Counted.refl (g : GatewayServer) : Counted g g := ⟨_, _, _, rfl⟩

theorem Counted.trans {g₁ g₂ g₃ : GatewayServer} (first : Counted g₁ g₂) (second : Counted g₂ g₃) : Counted g₁ g₃ := by
  obtain ⟨_, _, _, rfl⟩ := first
  obtain ⟨packetId, consumed, forwarded, rfl⟩ := second
  exact ⟨packetId, consumed, forwarded, rfl⟩

theorem Counted.power {g g' : GatewayServer} (counted : Counted g g') : power g' = Gateway.power g := by
  obtain ⟨_, _, _, rfl⟩ := counted
  rfl

section Node

variable (n : NodeId) (g : GatewayServer) (w : World)

theorem counted_sendCommandToDevice (cmd : Command) : Counted g (g.sendCommandToDevice n w cmd).2.1 := by
  unfold GatewayServer.sendCommandToDevice
  split
  · exact .refl g
  · exact ⟨_, _, _, rfl⟩

theorem counted_deliverCommand (cmd : Command) : Counted g (g.deliverCommand n w cmd).1 := by
  have consumed : Counted g { g with cmdConsumed_ := g.cmdConsumed_ + 1 } := ⟨_, _, _, rfl⟩
  rcases g.deliverCommand_cases n w cmd with ⟨-, same⟩ | ⟨-, ⟨reason, same⟩ | ⟨-, same⟩ | ⟨-, same⟩⟩
  · rw [same]
    exact consumed.trans (counted_sendCommandToDevice n _ w cmd)
  · rw [same]
    exact consumed
  · rw [same]
    exact ⟨_, _, _, rfl⟩
  · rw [same]
    exact consumed

theorem counted_deliverCommands (commands : List Command) :
    Counted g (commands.foldl (fun s cmd => s.1.deliverCommand n s.2 cmd) (g, w)).1 := by
  induction commands generalizing g w with
  | nil => exact .refl g
  | cons cmd commands ih => exact (counted_deliverCommand n g w cmd).trans (ih _ _)

/-- A node after `processCommand`: its client may have reconnected, and its counters have changed. -/
theorem processCommand_node {reach : Reach} {junk : RedisClient.Junk} {g' : GatewayServer}
    (done : (g.processCommand n reach junk w).1 = .ok g') :
    ∃ client after stats, Counted { g with redisClient_ := client } after ∧ g' = { after with clusterMgr_ := stats } ∧
      (client = g.redisClient_ ∨
        g.running_ = true ∧ client = (g.redisClient_.consumeCommands n reach junk 10 w).2.1) := by
  unfold GatewayServer.processCommand at done
  split at done
  · cases done
    exact ⟨g.redisClient_, g, g.clusterMgr_, .refl g, rfl, Or.inl rfl⟩
  · rename_i running
    dsimp only at done
    split at done
    · cases done
    · cases done
      exact ⟨_, _, g.clusterMgr_, .refl _, rfl, Or.inr ⟨by simpa using running, rfl⟩⟩
    · cases done
      exact ⟨_, _, _, counted_deliverCommands n _ _ _, rfl, Or.inr ⟨by simpa using running, rfl⟩⟩

end Node

/-- The tables of a node and its batch of telemetry: what only packets, closings and the heartbeat check change. -/
def tables (g : GatewayServer) : DeviceManager × (AList fun _ : ConnId => Bytes) × (ConnId → ConnState) × TsdbClient :=
  (g.deviceMgr_, g.connClientMap, g.conns, g.tsdbClient_)

theorem eq_of_tables {g g' : GatewayServer} (same : tables g' = tables g) :
    g'.deviceMgr_ = g.deviceMgr_ ∧ g'.connClientMap = g.connClientMap ∧ g'.conns = g.conns ∧
      g'.tsdbClient_ = g.tsdbClient_ := by
  simpa only [tables, Prod.mk.injEq] using same

theorem Counted.tables {g g' : GatewayServer} (counted : Counted g g') : tables g' = Gateway.tables g := by
  obtain ⟨_, _, _, rfl⟩ := counted
  rfl

theorem tables_start (n : NodeId) (g : GatewayServer) (w : World) (reach : Reach) (mqttPort : UInt16) :
    tables (g.start n reach mqttPort w).1 = tables g := by
  unfold GatewayServer.start
  dsimp only
  split <;> rfl

/-- What an event does to a node, as far as the tables go. -/
theorem nodeStep_cases (n : NodeId) (g : GatewayServer) (w : World) (e : NodeEvent) :
    tables (g.nodeStep n w e).1 = tables g ∨ (g.nodeStep n w e).1 = g.exited ∨
      (∃ k, e = .accept k ∧ g.conns k = .connecting ∧ g.nodeStep n w e = (g.setConn k .connected, w)) ∨
      (∃ k item, e = .packet k item ∧ g.Readable k ∧ g.nodeStep n w e = g.handleItem n w k item) ∨
      (∃ k, e = .close k ∧ g.Readable k ∧ g.nodeStep n w e = g.onConnectionClosed n w k) ∨
      e = .heartbeatCheck ∧ g.nodeStep n w e = g.startHeartbeatCheck n w := by
  cases e with
  | accept k =>
    by_cases fresh : g.conns k = .connecting
    · exact .inr (.inr (.inl ⟨k, rfl, fresh, if_pos fresh⟩))
    · exact .inl (congrArg (fun s => tables s.1) (if_neg fresh : g.nodeStep n w (.accept k) = (g, w)))
  | packet k item =>
    by_cases readable : g.Readable k
    · exact .inr (.inr (.inr (.inl ⟨k, item, rfl, readable, if_pos readable⟩)))
    · exact .inl (congrArg (fun s => tables s.1) (if_neg readable : g.nodeStep n w (.packet k item) = (g, w)))
  | close k =>
    by_cases readable : g.Readable k
    · exact .inr (.inr (.inr (.inr (.inl ⟨k, rfl, readable, if_pos readable⟩))))
    · exact .inl (congrArg (fun s => tables s.1) (if_neg readable : g.nodeStep n w (.close k) = (g, w)))
  | heartbeatCheck => exact .inr (.inr (.inr (.inr (.inr ⟨rfl, rfl⟩))))
  | processCommand reach junk =>
    simp only [GatewayServer.nodeStep]
    split
    · rename_i g' w' done
      obtain ⟨client, after, stats, counted, rfl, _⟩ := processCommand_node n g w (congrArg Prod.fst done)
      exact .inl counted.tables
    · exact .inr (.inl rfl)
  | crossNodeCommand cmd => exact .inl (counted_sendCommandToDevice n g w _).tables
  | enqueueCommand | join | sendHeartbeat | discoverNodes | failureDetection | leave | linkDown | subDown => exact .inl rfl
  | stop junk => exact .inr (.inl rfl)
  | kill => exact .inr (.inl rfl)

/-! ### The receive loop as a run -/

/-- The loop of `onMessage` goes on reading: no handler closes the connection. -/
theorem readable_handleItem (n : NodeId) {g : GatewayServer} (w : World) {conn : ConnId} (readable : g.Readable conn)
    (item : Item MqttEvent) : (g.handleItem n w conn item).1.Readable conn := by
  cases item with
  | failure =>
    simp only [GatewayServer.handleItem]
    split
    · exact Or.inr (if_pos rfl)
    · exact readable
  | event e =>
    cases e with
    | subscribe packetId filters =>
      simp only [GatewayServer.handleItem, GatewayServer.handleEvent, GatewayServer.handleSubscribe]
      split <;> exact readable
    | pingReq =>
      simp only [GatewayServer.handleItem, GatewayServer.handleEvent, GatewayServer.handlePingReq]
      split <;> exact readable
    | disconnect =>
      simp only [GatewayServer.handleItem, GatewayServer.handleEvent, GatewayServer.onDisconnect, GatewayServer.dropConn]
      split <;> exact readable
    | connect | publish | pubAck => exact readable

/-- `onMessage` on the input buffer of a connection is a run of packet events, one for each result of the codec. -/
theorem run_onMessage (s : System) {n : NodeId} {conn : ConnId} (running : (s.nodes n).running_ = true)
    (readable : (s.nodes n).Readable conn) (buf : Net.Buffer) :
    (run System.step s ((MqttCodec.receive buf).1.map fun item => .node n (.packet conn item))) =
      s.update n ((s.nodes n).onMessage n s.world conn buf).1 := by
  have loop : ∀ (items : List (Item MqttEvent)) (s : System), (s.nodes n).running_ = true → (s.nodes n).Readable conn →
      run System.step s (items.map fun item => .node n (.packet conn item)) =
        s.update n (items.foldl (fun s item => s.1.handleItem n s.2 conn item) (s.nodes n, s.world)) := by
    intro items
    induction items with
    | nil =>
      intro s _ _
      exact (s.update_self n).symm
    | cons item items ih =>
      intro s running readable
      have first : s.step (.node n (.packet conn item)) = s.update n ((s.nodes n).handleItem n s.world conn item) := by
        simp only [System.step, if_pos running, GatewayServer.nodeStep, if_pos readable]
      have stays : ((s.nodes n).handleItem n s.world conn item).1.running_ = true :=
        (congrArg Prod.fst (power_handleItem n (s.nodes n) s.world conn item)).trans running
      rw [List.map_cons, run_cons, first, ih]
      · rw [System.update_update, System.update_nodes_self, System.update_world, List.foldl_cons]
      · rw [System.update_nodes_self]
        exact stays
      · rw [System.update_nodes_self]
        exact readable_handleItem n s.world readable item
  exact loop _ s running readable

end IotGateway.Gateway
