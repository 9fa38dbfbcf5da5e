import IotGateway.Protocol.RoundTrip
import IotGateway.Gateway.Delivery
import IotGateway.Gateway.Sessions

/-!
# Delivery of commands at least once

A node that has the device of a command on a connection of its own sends the command and
acknowledges it. A node that forwards the command acknowledges it as well, without a
frame having been sent by anyone, and so does a node whose frame cannot hold it. In runs
in which neither happens every acknowledged command was sent to its device, and a command
that was handed out stays pending until then.
-/

namespace IotGateway.Gateway
open Text Redis Storage Protocol Delivery
open GatewayServer (commandFrame commandTopic nextPacketId)

structure Carries (cmd : Command) (e : CommandEntry) : Prop where
  deviceId : cmd.deviceId = (entryCommand e).deviceId
  topic : commandTopic cmd = commandTopic (entryCommand e)
  payload : cmd.payload = (entryCommand e).payload
  streamId : cmd.streamId = e.id.text

theorem Carries.representable {cmd : Command} {e : CommandEntry} (carries : Carries cmd e) :
    Representable cmd ↔ Representable (entryCommand e) := by
  rw [Representable, carries.topic, carries.payload, Representable]

theorem Carries.isCommand {cmd : Command} {e : CommandEntry} (carries : Carries cmd e) {bytes : Bytes} :
    IsCommand cmd bytes ↔ IsCommand (entryCommand e) bytes := by
  rw [IsCommand, carries.topic, carries.payload, IsCommand]

theorem carries_of_readEntry {junk : RedisClient.Junk} {now : Nat} {e : CommandEntry} {cmd : Command}
    (read : RedisClient.readEntry junk now e = .ok cmd) : Carries cmd e := by
  simp only [RedisClient.readEntry, bind, Except.bind, pure, Except.pure] at read
  split at read
  · cases read
  · split at read
    · cases read
    · cases read
      exact ⟨rfl, rfl, rfl, rfl⟩

theorem carries_of_mapM {junk : RedisClient.Junk} {now : Nat} {entries : List CommandEntry} {commands : List Command}
    (read : entries.mapM (RedisClient.readEntry junk now) = .ok commands) :
    ∀ cmd ∈ commands, ∃ e ∈ entries, Carries cmd e := by
  intro cmd member
  obtain ⟨i, below, rfl⟩ := List.getElem_of_mem member
  have parsed := mapM_ok_iff.mp read
  have within : i < entries.length := parsed.length_eq ▸ below
  exact ⟨entries[i], List.getElem_mem within, carries_of_readEntry (parsed.get within below)⟩

section Node

variable (n : NodeId) (g : GatewayServer) (w : World)

/-! ### Handlers -/

theorem moves_note {action : Action} (other : ∀ id, action ≠ .xack id) : Moves (delivery w) (delivery (w.record action)) := by
  by_cases here : isDelivery action = true
  · have noted : delivery (w.record action) = { delivery w with log := action :: (delivery w).log } := by
      simp [delivery, World.record, here]
    rw [noted]
    exact .single (.note _ action other)
  · have same : delivery (w.record action) = delivery w := by simp [delivery, World.record, here]
    exact Moves.of_eq same

theorem moves_send (conn : ConnId) (bytes : Bytes) : Moves (delivery w) (delivery (g.send n w conn bytes)) := by
  unfold GatewayServer.send
  split
  · exact moves_note w fun id same => by cases same
  · exact .refl

theorem moves_sendAll (conns : List ConnId) (bytes : Bytes) :
    Moves (delivery w) (delivery (conns.foldl (fun w conn => g.send n w conn bytes) w)) := by
  induction conns generalizing w with
  | nil => exact .refl
  | cons conn conns ih => exact (moves_send n g w conn bytes).trans (ih _)

theorem moves_handleConnect (conn : ConnId) (payload : MqttConnectPayload) :
    Moves (delivery w) (delivery (g.handleConnect n w conn payload).2) := by
  unfold GatewayServer.handleConnect DeviceManager.deviceOnline
  dsimp only
  refine .trans ?_ (moves_send n _ _ conn _)
  refine .trans (Moves.of_eq ?_) (moves_note _ fun id same => by cases same)
  split
  · exact view_registerDevice _ w (Sees.blind sees_delivery rfl) _ _ _
  · rfl

theorem moves_handlePublish (conn : ConnId) (topic payload : Bytes) (qos : MqttQoS) (packetId : UInt16) :
    Moves (delivery w) (delivery (g.handlePublish n w conn topic payload qos packetId).2) := by
  have cached := fun clientId => view_cached g w (Sees.blind sees_delivery rfl) clientId topic payload
  unfold GatewayServer.handlePublish
  dsimp only
  split
  · exact (Moves.of_eq (cached _)).trans ((moves_sendAll n _ _ _ _).trans (moves_send n _ _ conn _))
  · exact (Moves.of_eq (cached _)).trans (moves_sendAll n _ _ _ _)

theorem moves_handleSubscribe (conn : ConnId) (packetId : UInt16) (filters : List MqttTopicFilter) :
    Moves (delivery w) (delivery (g.handleSubscribe n w conn packetId filters).2) := by
  unfold GatewayServer.handleSubscribe
  split
  · exact .refl
  · exact moves_send n _ w conn _

theorem moves_handlePingReq (conn : ConnId) : Moves (delivery w) (delivery (g.handlePingReq n w conn).2) := by
  obtain ⟨g', w', touched, answered⟩ := g.world_handlePingReq n w conn
  rw [answered]
  refine .trans (Moves.of_eq ?_) (moves_send n _ _ conn _)
  rcases touched with same | ⟨clientId, same⟩
  · rw [same]
  · rw [same]
    exact view_updateDeviceHeartbeat _ w (Sees.blind sees_delivery rfl) clientId

theorem moves_handleItem (conn : ConnId) (item : Item MqttEvent) :
    Moves (delivery w) (delivery (g.handleItem n w conn item).2) := by
  cases item with
  | failure => exact .refl
  | event e =>
    cases e with
    | connect payload => exact moves_handleConnect n g w conn payload
    | publish topic payload qos retain packetId => exact moves_handlePublish n g w conn topic payload qos packetId
    | subscribe packetId filters => exact moves_handleSubscribe n g w conn packetId filters
    | pingReq => exact moves_handlePingReq n g w conn
    | disconnect => exact Moves.of_eq (view_gone g w (Sees.blind sees_delivery rfl) rfl conn)
    | pubAck packetId => exact .refl

/-! ### Commands -/

/-- The owners in the table of a node have connected. -/
def Attests (log : List Action) : Prop := ∀ c k, (sessions g).owner c = some k → .connect n k c ∈ log

theorem moves_ackCommand (c : RedisClient) {streamId : Bytes}
    (sent : cstr streamId = [] ∨ ∃ e ∈ w.redis.commands.entries, e.id.text = cstr streamId ∧ Sent (delivery w).log e) :
    Moves (delivery w) (delivery (c.ackCommand w streamId)) := by
  unfold RedisClient.ackCommand
  split
  · exact .single (.ack (delivery w) (cstr streamId) sent)
  · exact .refl

theorem moves_sendCommandToDevice {cmd : Command} (attests : Attests n g (delivery w).log)
    (acks : cmd.streamId = [] ∨ Representable cmd ∧ ∃ e ∈ w.redis.commands.entries, Carries cmd e) :
    Moves (delivery w) (delivery (g.sendCommandToDevice n w cmd).2.2) := by
  cases found : g.deviceMgr_.findDevice g.conns cmd.deviceId with
  | none => rw [GatewayServer.sendCommandToDevice_none n found]
  | some device =>
    have entry := (DeviceManager.findDevice_some found).1
    have attested : .connect n device.connection cmd.deviceId ∈ (delivery w).log :=
      attests cmd.deviceId device.connection (by simp [sessions, entry])
    rw [GatewayServer.sendCommandToDevice_some n found]
    dsimp only
    have numbered := nextPacketId_ne_zero g.s_packetId
    generalize nextPacketId g.s_packetId = packetId at numbered ⊢
    -- the frame is logged, the status hash is no part of the delivery, then the entry is acknowledged
    have framed : Moves (delivery w) (delivery (w.record (.frame n device.connection (commandFrame cmd packetId)))) :=
      moves_note w fun id same => by cases same
    have marked := view_markCommandSent g.redisClient_ (w.record (.frame n device.connection
      (commandFrame cmd packetId))) (Sees.blind sees_delivery rfl) cmd.id
    refine framed.trans (.trans (Moves.of_eq marked) (moves_ackCommand _ _ ?_))
    rcases acks with nothing | ⟨fits, e, member, carries⟩
    · exact Or.inl (by rw [nothing]; rfl)
    · refine Or.inr ⟨e, ?_, ?_, ?_⟩
      · exact (congrArg (·.commands.entries) marked).symm ▸ member
      · rw [carries.streamId, cstr_of_no_nul e.id.text_no_nul]
      · rw [marked]
        refine ⟨n, device.connection, _, (delivery w).log, List.suffix_rfl, carries.deviceId ▸ attested, ?_⟩
        exact carries.isCommand.mp ((isCommand_commandFrame_iff cmd numbered).mpr fits)

/-- The route channel that a command for the device would be published on has a subscriber. -/
def reaches (c : RedisClient) (clientId : Bytes) : Bool :=
  (ClusterManager.forwardTarget n c w clientId).any fun target =>
    0 < RedisClient.receivers w.redis (RedisClient.routeChannel target)

theorem reaches_of_forwarded {c : RedisClient} {clientId : Bytes} {cmd : Command}
    (forwarded : (ClusterManager.forwardCommand n c w clientId cmd).1 = true) : reaches n w c clientId = true := by
  unfold ClusterManager.forwardCommand at forwarded
  split at forwarded
  · cases forwarded
  · split at forwarded
    · cases forwarded
    · rename_i target found
      unfold RedisClient.publishToNode at forwarded
      split at forwarded
      · simpa [reaches, found] using forwarded
      · cases forwarded

theorem moves_deliverCommand {cmd : Command} (attests : Attests n g (delivery w).log)
    (carried : ∃ e ∈ w.redis.commands.entries, Carries cmd e)
    (stays : (g.deviceMgr_.findDevice g.conns cmd.deviceId).isSome ∨ reaches n w g.redisClient_ cmd.deviceId = false)
    (fits : (g.deviceMgr_.findDevice g.conns cmd.deviceId).isSome → Representable cmd) :
    Moves (delivery w) (delivery (g.deliverCommand n w cmd).2) := by
  rcases g.deliverCommand_cases n w cmd with
    ⟨here, same⟩ | ⟨absent, ⟨reason, same⟩ | ⟨forwarded, -⟩ | ⟨-, same⟩⟩
  · rw [same]
    exact moves_sendCommandToDevice n _ w attests (Or.inr ⟨fits here, carried⟩)
  · rw [same]
    exact Moves.of_eq (view_markCommandFailed _ w (Sees.blind sees_delivery rfl) _ reason)
  · have reached := reaches_of_forwarded n w forwarded
    rw [stays.resolve_left (by simp [absent])] at reached
    cases reached
  · rw [same]
    exact Moves.of_eq ((view_markCommandFailed _ _ (Sees.blind sees_delivery rfl) _ _).trans
      (view_forwardCommand n _ w (Sees.blind sees_delivery rfl) _ cmd))

def routes (w : World) : Nat × Hash Bytes Bytes × List (NodeId × Bytes) :=
  (w.now, w.redis.devices, w.redis.subscriptions)

theorem sees_routes : Sees routes [.devices, .subscriptions] := by
  intro part other
  cases part <;> first | exact absurd (by decide) other | exact fun _ _ => rfl | exact fun _ _ _ => rfl

theorem reaches_of_routes {w w' : World} (same : routes w' = routes w) (c : RedisClient) (clientId : Bytes) :
    reaches n w' c clientId = reaches n w c clientId := by
  simp only [routes, Prod.mk.injEq] at same
  obtain ⟨now, devices, subscriptions⟩ := same
  have record : c.getDeviceGateway w' clientId = c.getDeviceGateway w clientId := by
    unfold RedisClient.getDeviceGateway
    rw [now, devices]
  unfold reaches ClusterManager.forwardTarget RedisClient.receivers
  rw [record, subscriptions]

theorem moves_deliverCommands {commands : List Command} (attests : Attests n g (delivery w).log)
    (carried : ∀ cmd ∈ commands, ∃ e ∈ w.redis.commands.entries, Carries cmd e)
    (stays : ∀ cmd ∈ commands, (g.deviceMgr_.findDevice g.conns cmd.deviceId).isSome ∨
      reaches n w g.redisClient_ cmd.deviceId = false)
    (fits : ∀ cmd ∈ commands, (g.deviceMgr_.findDevice g.conns cmd.deviceId).isSome → Representable cmd) :
    Moves (delivery w) (delivery (commands.foldl (fun s cmd => s.1.deliverCommand n s.2 cmd) (g, w)).2) := by
  induction commands generalizing g w with
  | nil => exact .refl
  | cons cmd commands ih =>
    have first := moves_deliverCommand n g w attests (carried cmd List.mem_cons_self) (stays cmd List.mem_cons_self)
      (fits cmd List.mem_cons_self)
    have same := view_deliverCommand n g w (Sees.blind sees_routes rfl) cmd
    have counted := counted_deliverCommand n g w cmd
    rw [List.foldl_cons]
    generalize g.deliverCommand n w cmd = after at first same counted ⊢
    obtain ⟨g', w'⟩ := after
    obtain ⟨_, _, _, rfl⟩ := counted
    refine first.trans (ih _ w' ?_ ?_ ?_ fun other member => fits other (List.mem_cons_of_mem _ member))
    · exact fun c k owned => first.grows.log.subset (attests c k owned)
    · intro other member
      obtain ⟨e, here, carries⟩ := carried other (List.mem_cons_of_mem _ member)
      exact ⟨e, first.grows.entries here, carries⟩
    · intro other member
      rw [reaches_of_routes n same]
      exact stays other (List.mem_cons_of_mem _ member)

theorem moves_processCommand (reach : Reach) (junk : RedisClient.Junk) (attests : Attests n g (delivery w).log)
    (stays : ∀ e ∈ w.redis.commands.fresh 10, (g.deviceMgr_.findDevice g.conns (entryCommand e).deviceId).isSome ∨
      reaches n w g.redisClient_ (entryCommand e).deviceId = false)
    (fits : g.redisClient_.answers = true → ∀ e ∈ w.redis.commands.fresh 10,
      (g.deviceMgr_.findDevice g.conns (entryCommand e).deviceId).isSome → Representable (entryCommand e)) :
    Moves (delivery w) (delivery (g.processCommand n reach junk w).2) := by
  unfold GatewayServer.processCommand
  split
  · exact .refl
  · rcases RedisClient.consumeCommands_cases n reach junk 10 g.redisClient_ w with
      ⟨-, idle⟩ | ⟨works, -, read⟩ | ⟨-, -, lost⟩
    · rw [idle]
    · have handed : Moves (delivery w) (delivery { w with redis :=
          { w.redis with commands := w.redis.commands.readGroup n.text 10 } }) := .single (.read (delivery w) n.text 10)
      rw [read]
      dsimp only
      split
      · exact handed
      · exact handed
      · rename_i commands _ parsed
        have carried := carries_of_mapM parsed
        dsimp only
        refine handed.trans (moves_deliverCommands n _ _ attests ?_ ?_ ?_)
        · intro cmd member
          obtain ⟨e, fresh, carries⟩ := carried cmd member
          exact ⟨e, w.redis.commands.fresh_subset 10 fresh, carries⟩
        · intro cmd member
          obtain ⟨e, fresh, carries⟩ := carried cmd member
          rw [carries.deviceId]
          exact stays e fresh
        · intro cmd member here
          obtain ⟨e, fresh, carries⟩ := carried cmd member
          rw [carries.deviceId] at here
          exact carries.representable.mpr (fits works.2 e fresh here)
    · rw [lost]
      exact Moves.of_eq (view_reconnect w (Sees.blind sees_delivery rfl) n reach)

theorem moves_enqueueCommand (grouped : g.redisClient_.connected_ = true → w.redis.commands.group ≠ none)
    (fate : RedisClient.XaddFate) (cmdId ts : Int) (deviceId command params : Bytes) :
    Moves (delivery w) (delivery (g.enqueueCommand fate cmdId ts w deviceId command params).2.2) := by
  unfold GatewayServer.enqueueCommand RedisClient.publishCommand
  dsimp only
  split
  · rename_i works
    cases fate with
    | answered | replyLost => exact .single (.add (delivery w) _ _ (grouped works.1))
    | refused => exact .refl
  · exact .refl

/-! ### Steps of a node -/

theorem deliveryMoves_nodeStep (e : NodeEvent) (attests : Attests n g (delivery w).log)
    (grouped : g.redisClient_.connected_ = true → w.redis.commands.group ≠ none)
    (stays : ∀ reach junk, e = .processCommand reach junk → ∀ entry ∈ w.redis.commands.fresh 10,
      (g.deviceMgr_.findDevice g.conns (entryCommand entry).deviceId).isSome ∨
        reaches n w g.redisClient_ (entryCommand entry).deviceId = false)
    (fits : ∀ reach junk, e = .processCommand reach junk → g.redisClient_.answers = true →
      ∀ entry ∈ w.redis.commands.fresh 10, (g.deviceMgr_.findDevice g.conns (entryCommand entry).deviceId).isSome →
        Representable (entryCommand entry)) :
    Moves (delivery w) (delivery (g.nodeStep n w e).2) := by
  cases e with
  | packet conn item =>
    simp only [GatewayServer.nodeStep]
    split
    · exact moves_handleItem n g w conn item
    · exact .refl
  | processCommand reach junk =>
    have moves := moves_processCommand n g w reach junk attests (stays reach junk rfl) (fits reach junk rfl)
    simp only [GatewayServer.nodeStep]
    split
    · rename_i done
      rw [done] at moves
      exact moves
    · rename_i failed
      rw [failed] at moves
      exact moves
  | crossNodeCommand cmd => exact moves_sendCommandToDevice n g w attests (Or.inl rfl)
  | enqueueCommand fate deviceId command params => exact moves_enqueueCommand g w grouped fate _ _ deviceId command params
  | _ => exact Moves.of_eq (view_nodeStep n g w (Sees.blind sees_delivery rfl))

theorem connected_consumeCommands {c : RedisClient} {reach : Reach} {junk : RedisClient.Junk} {count : Nat}
    (after : (c.consumeCommands n reach junk count w).2.1.connected_ = true) : c.connected_ = true := by
  rcases RedisClient.consumeCommands_cases n reach junk count c w with ⟨-, same⟩ | ⟨works, -⟩ | ⟨connected, -⟩
  · rw [same] at after
    exact after
  · exact works.1
  · exact connected

theorem connected_processCommand {reach : Reach} {junk : RedisClient.Junk} {g' : GatewayServer}
    (done : (g.processCommand n reach junk w).1 = .ok g') (after : g'.redisClient_.connected_ = true) :
    g.redisClient_.connected_ = true := by
  obtain ⟨client, counted, stats, ⟨_, _, _, rfl⟩, rfl, rfl | ⟨_, rfl⟩⟩ := processCommand_node n g w done
  · exact after
  · exact connected_consumeCommands n w after

/-- A node gets a connection to Redis only when it starts. -/
theorem connected_nodeStep {e : NodeEvent} (after : (g.nodeStep n w e).1.redisClient_.connected_ = true) :
    g.redisClient_.connected_ = true := by
  have of_power : ∀ g' : GatewayServer, power g' = power g → g'.redisClient_.connected_ = true →
      g.redisClient_.connected_ = true := by
    intro g' same here
    exact (congrArg (·.2.connected_) same).symm.trans here
  cases e with
  | accept conn =>
    simp only [GatewayServer.nodeStep] at after
    split at after <;> exact after
  | packet conn item =>
    simp only [GatewayServer.nodeStep] at after
    split at after
    · exact of_power _ (power_handleItem n g w conn item) after
    · exact after
  | close conn =>
    simp only [GatewayServer.nodeStep] at after
    split at after
    · exact of_power _ (power_dropConn (g.setConn conn .disconnected) w conn) after
    · exact after
  | processCommand reach junk =>
    simp only [GatewayServer.nodeStep] at after
    split at after
    · rename_i done
      exact connected_processCommand n g w (congrArg Prod.fst done) after
    · cases after
  | crossNodeCommand cmd => exact of_power _ (counted_sendCommandToDevice n g w _).power after
  | enqueueCommand fate deviceId command params =>
    simp only [GatewayServer.nodeStep, GatewayServer.enqueueCommand, RedisClient.publishCommand] at after
    split at after
    · cases fate <;> exact after
    · exact after
  | heartbeatCheck | join | sendHeartbeat | discoverNodes | failureDetection | leave | linkDown | subDown => exact after
  | stop | kill => cases after

theorem deliveryMoves_start (reach : Reach) (mqttPort : UInt16) :
    Moves (delivery w) (delivery (g.start n reach mqttPort w).2) := by
  rw [view_joined n g w (Sees.blind sees_delivery rfl)]
  refine .trans (Moves.of_eq (view_connect g.redisClient_ w (Sees.blind sees_delivery rfl) n reach)) ?_
  unfold RedisClient.initConsumerGroup
  split
  · exact .single (.createGroup (delivery _))
  · exact .refl

/-- A node that has connected at its start finds the consumer group or creates it. -/
theorem grouped_start {reach : Reach} {mqttPort : UInt16}
    (grouped : g.redisClient_.connected_ = true → w.redis.commands.group ≠ none)
    (after : (g.start n reach mqttPort w).1.redisClient_.connected_ = true) :
    (g.start n reach mqttPort w).2.redis.commands.group ≠ none := by
  have client : (g.start n reach mqttPort w).1.redisClient_ = (g.redisClient_.connect n reach w).1 := by
    unfold GatewayServer.start
    dsimp only
    split <;> rfl
  rw [client] at after
  by_cases before : g.redisClient_.connected_ = true
  · exact (deliveryMoves_start n g w reach mqttPort).grows.group (grouped before)
  · have up : g.redisClient_.connect n reach w =
        ({ connected_ := true, conn_ := some .up, subConn_ := some (.ofReach reach.sub) }, w) := by
      unfold RedisClient.connect at after ⊢
      rw [if_neg before] at after ⊢
      split
      · rfl
      · rename_i unreached
        rw [if_neg unreached] at after
        cases after
    have started := congrArg (·.commands.group) (view_joined n g w (Sees.blind sees_delivery rfl) reach mqttPort)
    rw [up] at started
    have created : (delivery (g.start n reach mqttPort w).2).commands.group = w.redis.commands.createGroup.group := started
    intro missing
    have nothing := created.symm.trans missing
    simp [Redis.Stream.createGroup] at nothing

end Node

/-! ### Runs -/

def Event.consumer? : Event → Option NodeId
  | .node n (.processCommand _ _) => some n
  | _ => none

/-- No command that a step consumes is forwarded: its device is connected here, or nobody listens on the route channel
of the node in its record. -/
def NoForward (s : System) (e : Event) : Prop :=
  ∀ n ∈ e.consumer?, ∀ entry ∈ s.world.redis.commands.fresh 10,
    ((s.nodes n).deviceMgr_.findDevice (s.nodes n).conns (entryCommand entry).deviceId).isSome ∨
      reaches n s.world (s.nodes n).redisClient_ (entryCommand entry).deviceId = false

instance (s : System) (e : Event) : Decidable (NoForward s e) := Option.decidableForallMem _

/-- MQTT can carry every command that a step consumes for a device which is connected here. -/
def Fitting (s : System) (e : Event) : Prop :=
  ∀ n ∈ e.consumer?, (s.nodes n).redisClient_.answers = true → ∀ entry ∈ s.world.redis.commands.fresh 10,
    ((s.nodes n).deviceMgr_.findDevice (s.nodes n).conns (entryCommand entry).deviceId).isSome →
      Representable (entryCommand entry)

instance (s : System) (e : Event) : Decidable (Fitting s e) := Option.decidableForallMem _

structure Ledger (s : System) : Prop where
  attests : ∀ n, Attests n (s.nodes n) s.world.log
  grouped : ∀ n, (s.nodes n).redisClient_.connected_ = true → s.world.redis.commands.group ≠ none
  accounted : Accounted (delivery s.world)

theorem ledger_new : Ledger System.new where
  attests := fun _ _ _ owned => by cases owned
  grouped := fun _ connected => by cases connected
  accounted := ⟨fun _ => rfl, fun _ _ acked => by simp [delivery, System.new] at acked, fun _ given => by cases given⟩

theorem owner_of_move {n : NodeId} {works : Bool} {e : NodeEvent} {s s' : Sessions ConnId Bytes} {r r' : Registry}
    (move : SessionMove n works e (s, r) (s', r')) :
    r.log ⊆ r'.log ∧ ∀ c k, s'.owner c = some k → s.owner c = some k ∨ .connect n k c ∈ r'.log := by
  cases move with
  | quiet => exact ⟨List.Subset.refl _, fun c k owned => Or.inl owned⟩
  | attach j payload =>
    refine ⟨List.subset_cons_self _ _, fun c k owned => ?_⟩
    by_cases same : c = payload.clientId
    · obtain rfl : j = k := by simpa [Sessions.attach, same] using owned
      exact Or.inr (by simp [Registry.record, same])
    · exact Or.inl (by simpa [Sessions.attach, same] using owned)
  | drop e j c s r action bound drops =>
    refine ⟨List.subset_cons_self _ _, fun c' k owned => Or.inl ?_⟩
    simp only [Sessions.detach] at owned
    split at owned
    · cases owned
    · exact owned
  | unbound => exact ⟨List.subset_cons_self _ _, fun c k owned => Or.inl owned⟩
  | touch => exact ⟨List.Subset.refl _, fun c k owned => Or.inl owned⟩
  | evict e gone s r owned =>
    refine ⟨List.subset_append_right _ _, fun c k owned => Or.inl ?_⟩
    simp only [Sessions.evict] at owned
    split at owned
    · cases owned
    · exact owned
  | exit => exact ⟨List.subset_cons_self _ _, fun c k owned => by cases owned⟩

theorem mem_registry {w : World} {action : Action} (here : isSession action = true) :
    action ∈ (registry w).log ↔ action ∈ w.log := by
  simp [registry, List.mem_filter, here]

theorem mem_delivery {w : World} {action : Action} (here : isDelivery action = true) :
    action ∈ (delivery w).log ↔ action ∈ w.log := by
  simp [delivery, List.mem_filter, here]

theorem attests_step (s : System) (e : Event) (attests : ∀ n, Attests n (s.nodes n) s.world.log) (n : NodeId) :
    Attests n ((s.step e).nodes n) (s.step e).world.log := by
  intro c k owned
  rw [← mem_registry rfl]
  rcases session_step s e with ⟨same, now, later⟩ | ⟨m, event, rfl, _, move, others⟩
  · rw [same] at owned
    rw [later]
    exact (mem_registry rfl).mpr (attests n c k owned)
  · obtain ⟨grows, owners⟩ := owner_of_move move
    rcases eq_or_ne n m with rfl | different
    · rcases owners c k owned with before | connected
      · exact grows ((mem_registry rfl).mpr (attests n c k before))
      · exact connected
    · rw [others n different] at owned
      exact grows ((mem_registry rfl).mpr (attests n c k owned))

theorem deliveryMoves_step (s : System) (e : Event) (ledger : Ledger s) (stays : NoForward s e) (fits : Fitting s e) :
    Moves (delivery s.world) (delivery (s.step e).world) := by
  cases e with
  | tick delta => exact .refl
  | start n reach mqttPort =>
    simp only [System.step]
    split
    · exact .refl
    · exact deliveryMoves_start n _ _ reach mqttPort
  | node n event =>
    simp only [System.step]
    split
    · refine deliveryMoves_nodeStep n _ _ event ?_ (ledger.grouped n) ?_ ?_
      · exact fun c k owned => (mem_delivery rfl).mpr (ledger.attests n c k owned)
      · rintro reach junk rfl
        exact stays n rfl
      · rintro reach junk rfl
        exact fits n rfl
    · exact .refl

theorem ledger_step (s : System) (e : Event) (ledger : Ledger s) (stays : NoForward s e ∧ Fitting s e) :
    Ledger (s.step e) := by
  have moves := deliveryMoves_step s e ledger stays.1 stays.2
  refine ⟨attests_step s e ledger.attests, fun n connected => ?_, ledger.accounted.moves moves⟩
  have kept : (s.nodes n).redisClient_.connected_ = true → (s.step e).world.redis.commands.group ≠ none :=
    fun before => moves.grows.group (ledger.grouped n before)
  rcases s.step_nodes_cases e n with same | ⟨reach, mqttPort, rfl, down, started⟩ | ⟨event, rfl, -, stepped⟩
  · rw [same] at connected
    exact kept connected
  · have fresh : s.step (.start n reach mqttPort) = s.update n ((s.nodes n).start n reach mqttPort s.world) :=
      if_neg (by rw [down]; exact Bool.false_ne_true)
    rw [started] at connected
    rw [fresh]
    exact grouped_start n _ _ (ledger.grouped n) connected
  · rw [stepped] at connected
    exact kept (connected_nodeStep n _ _ connected)

/-- In a run without forwards, whose commands for connected devices fit a packet, a command is acknowledged only after it
was sent to its device, and a command that was handed out is pending or was sent. -/
theorem delivered_at_least_once {events : List Event}
    (meets : Meets System.step (fun s e => NoForward s e ∧ Fitting s e) System.new events)
    (e : CommandEntry) (member : e ∈ (run System.step System.new events).world.redis.commands.entries) :
    (∀ earlier, (.xack e.id.text :: earlier) <:+ (run System.step System.new events).world.log → Sent earlier e) ∧
      (e ∈ (run System.step System.new events).world.redis.commands.given →
        ¬ (run System.step System.new events).world.redis.commands.Outstanding e.id →
        Sent (run System.step System.new events).world.log e) := by
  have ledger : Ledger (run System.step System.new events) := run_invariant System.step ledger_new ledger_step meets
  generalize run System.step System.new events = s at ledger member ⊢
  constructor
  · intro earlier acked
    have filtered : (.xack e.id.text :: earlier.filter isDelivery) <:+ (delivery s.world).log := acked.filter isDelivery
    exact sent_of_filter (ledger.accounted.sent_before_ack member filtered)
  · intro given settled
    exact sent_of_filter (ledger.accounted.sent_of_given given settled)

def switchOn : CommandEntry :=
  ⟨toLex (0, 1), RedisClient.xaddFields (GatewayServer.apiCommand 0 sensor (ascii "on") (ascii "1")) 0⟩

/-- A command for a device comes in at the first node and is consumed there. The device is at node `n`. -/
def commanding (n : NodeId) : List Event :=
  startBoth ++ arrive n 0 sensor ++
    [.node gateway1 (.enqueueCommand .answered sensor (ascii "on") (ascii "1")),
      .node gateway1 (.processCommand ⟨true, true⟩ ⟨0, 0⟩)]

theorem not_outstanding_of_pending {s : Redis.Stream (List (Bytes × Bytes)) Bytes} {id : StreamId}
    (nothing : s.group.map (·.pending) = some []) : ¬ s.Outstanding id := by
  rintro ⟨g, here, consumer, member⟩
  rw [here, Option.map_some, Option.some.injEq] at nothing
  rw [nothing] at member
  cases member

theorem delivered_at_least_once_switchOn :
    .xack switchOn.id.text ∈ (run System.step System.new (commanding gateway1)).world.log ∧
      Sent (run System.step System.new (commanding gateway1)).world.log switchOn := by
  have meets : Meets System.step (fun s e => NoForward s e ∧ Fitting s e) System.new (commanding gateway1) := by
    decide +kernel
  have given : (run System.step System.new (commanding gateway1)).world.redis.commands.given = [switchOn] := by rfl
  have member : switchOn ∈ (run System.step System.new (commanding gateway1)).world.redis.commands.given := by
    rw [given]
    exact List.mem_singleton_self _
  refine ⟨by decide +kernel, ?_⟩
  exact (delivered_at_least_once meets switchOn (Redis.Stream.given_subset _ member)).2 member
    (not_outstanding_of_pending rfl)

def frames (log : List Action) : List Bytes :=
  log.filterMap fun action =>
    match action with
    | .frame _ _ bytes => some bytes
    | _ => none

/-- The device is at the other node: the command is acknowledged, nowhere pending, and was never sent. All that any
connection was handed is the CONNACK. -/
theorem forwarded_acked_unsent :
    let s := run System.step System.new (commanding gateway2)
    switchOn ∈ s.world.redis.commands.given ∧ .xack switchOn.id.text ∈ s.world.log ∧
      ¬ s.world.redis.commands.Outstanding switchOn.id ∧ frames s.world.log = [[0x20, 2, 0, 0]] ∧
      ¬ Sent s.world.log switchOn := by
  intro s
  have given : s.world.redis.commands.given = [switchOn] := by rfl
  have connAck : frames s.world.log = [[0x20, 2, 0, 0]] := by decide +kernel
  refine ⟨?_, by decide +kernel, not_outstanding_of_pending rfl, connAck, ?_⟩
  · rw [given]
    exact List.mem_singleton_self _
  · intro ⟨n, k, bytes, earlier, framed, _, packetId, _, parsed⟩
    have listed : bytes ∈ frames s.world.log := List.mem_filterMap.mpr ⟨_, framed.subset List.mem_cons_self, rfl⟩
    rw [connAck, List.mem_singleton] at listed
    obtain ⟨buf', -, accepted⟩ := parsed (MqttCodec.received bytes) (MqttCodec.readable_received bytes)
    have events := congrArg (·.2.1) accepted
    rw [listed] at events
    have nothing : (MqttCodec.parse (MqttCodec.received [0x20, 2, 0, 0])).2.1 = [] := by decide +kernel
    cases nothing.symm.trans events

end IotGateway.Gateway
