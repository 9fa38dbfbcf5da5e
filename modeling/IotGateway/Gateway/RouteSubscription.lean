import IotGateway.Gateway.System

/-!
# The route subscription of a client

`subscribeRouteChannel` subscribes the connection `subConn_` of the moment. `reconnect`
replaces that connection, and nothing subscribes the new one. The runs here are sequences of
calls of one client with the changes that other nodes make to the store in between, and with
links that fail. No other node can touch the subscriptions of this connection.
-/

namespace IotGateway.Gateway
open Text Storage

/-- The calls of the public functions of a `RedisClient`, and what happens around them. -/
inductive ClientCall where
  | connect (reach : Reach)
  | disconnect
  | reconnect (reach : Reach)
  | initConsumerGroup
  | consumeCommands (reach : Reach) (junk : RedisClient.Junk) (batchSize : Nat)
  | ackCommand (streamId : Bytes)
  | publishCommand (fate : RedisClient.XaddFate) (ts : Int) (cmd : Command)
  | markCommandSent (commandId : Int)
  | markCommandFailed (commandId : Int) (reason : Bytes)
  | markCommandCompleted (commandId : Int) (response : Bytes)
  | registerDevice (clientId gatewayNodeId : Bytes) (keepAlive : Int)
  | unregisterDevice (clientId : Bytes)
  | updateDeviceHeartbeat (clientId : Bytes)
  | registerNode (nodeId : NodeId) (addr : Bytes) (mqttPort apiPort : UInt16)
  | sendNodeHeartbeat (nodeId : NodeId)
  | subscribeRouteChannel
  | publishToNode (targetNodeId : Bytes) (cmd : Command)
  | cacheTelemetry (clientId topic payload : Bytes)
  | sendCommand (junk : List Bytes) (cmd : Bytes)
  /-- Any of the functions that only read. -/
  | query
  /-- The main connection fails: commands on it get no reply any more. -/
  | linkDown
  /-- The subscription connection fails, and Redis forgets what it was subscribed to. -/
  | subDown
  | others (change : World → World)

structure Routing where
  client : RedisClient
  world : World

namespace Routing

variable (n : NodeId)

/-- What others make of the store, with the subscriptions of this client as they were. -/
def apart (change : World → World) (w : World) : World :=
  let after := change w
  let foreign := after.redis.subscriptions.filter fun s => s.1 ≠ n
  let own := w.redis.subscriptions.filter fun s => s.1 = n
  { after with redis := { after.redis with subscriptions := foreign ++ own } }

def step (s : Routing) : ClientCall → Routing
  | .connect reach =>
    let (client, world) := s.client.connect n reach s.world
    { client, world }
  | .disconnect =>
    let (client, world) := RedisClient.disconnect n s.world
    { client, world }
  | .reconnect reach =>
    let (client, world) := RedisClient.reconnect n reach s.world
    { client, world }
  | .initConsumerGroup => { s with world := s.client.initConsumerGroup s.world }
  | .consumeCommands reach junk batchSize =>
    let (_, client, world) := s.client.consumeCommands n reach junk batchSize s.world
    { client, world }
  | .ackCommand streamId => { s with world := s.client.ackCommand s.world streamId }
  | .publishCommand fate ts cmd =>
    let (_, client, world) := s.client.publishCommand s.world fate ts cmd
    { client, world }
  | .markCommandSent commandId => { s with world := s.client.markCommandSent s.world commandId }
  | .markCommandFailed commandId reason => { s with world := s.client.markCommandFailed s.world commandId reason }
  | .markCommandCompleted commandId response => { s with world := s.client.markCommandCompleted s.world commandId response }
  | .registerDevice clientId gateway keepAlive => { s with world := s.client.registerDevice s.world clientId gateway keepAlive }
  | .unregisterDevice clientId => { s with world := s.client.unregisterDevice s.world clientId }
  | .updateDeviceHeartbeat clientId => { s with world := s.client.updateDeviceHeartbeat s.world clientId }
  | .registerNode nodeId addr mqttPort apiPort =>
    { s with world := (s.client.registerNode s.world nodeId addr mqttPort apiPort).2 }
  | .sendNodeHeartbeat nodeId => { s with world := (s.client.sendNodeHeartbeat s.world nodeId).2 }
  | .subscribeRouteChannel => { s with world := (s.client.subscribeRouteChannel s.world n).2 }
  | .publishToNode target cmd => { s with world := (s.client.publishToNode s.world target cmd).2 }
  | .cacheTelemetry clientId topic payload => { s with world := s.client.cacheTelemetry s.world clientId topic payload }
  | .sendCommand junk cmd => { s with world := s.client.sendCommand junk s.world cmd }
  | .query => s
  | .linkDown => { s with client := { s.client with conn_ := s.client.conn_.map fun _ => .broken } }
  | .subDown =>
    let subscriptions := s.world.redis.subscriptions.filter fun sub => sub.1 ≠ n
    { client := { s.client with subConn_ := s.client.subConn_.map fun _ => .broken }
      world := { s.world with redis := { s.world.redis with subscriptions } } }
  | .others change => { s with world := apart n change s.world }

/-- A client right after `subscribeRouteChannel` has subscribed its connection. -/
def subscribed (link : Link) (w : World) : Routing :=
  let client : RedisClient := { connected_ := true, conn_ := some link, subConn_ := some .up }
  { client, world := (client.subscribeRouteChannel w n).2 }

/-- While the client is connected its subscription connection is subscribed, and a forwarded command has a receiver. -/
def Routed (s : Routing) : Prop :=
  s.client.connected_ = true →
    (s.client.subConn_ = some .up ∧ (n, RedisClient.routeChannel n.text) ∈ s.world.redis.subscriptions) ∧
      ∀ (other : RedisClient) (cmd : Command), other.connected_ = true → other.answers = true →
        (other.publishToNode s.world n.text cmd).1 = true

/-- The call replaces the connections by new ones, or the subscription connection of a connected client fails. -/
def Loses (s : Routing) : ClientCall → Prop
  | .connect reach => s.client.connected_ = false ∧ reach.main = true
  | .reconnect reach => reach.main = true
  | .consumeCommands reach _ batchSize =>
    -- `XREADGROUP` gets no reply
    s.client.connected_ = true ∧ reach.main = true ∧
      (s.client.answers = true → s.world.redis.commands.group ≠ none ∧ s.world.redis.commands.fresh batchSize = [])
  | .subDown => s.client.connected_ = true
  | _ => False

/-! ### What a call does to the subscription -/

/-- A client that is not connected has no subscription connection and no subscription. -/
def Closed (s : Routing) : Prop :=
  s.client.connected_ = false → s.client.subConn_ = none ∧ ∀ sub ∈ s.world.redis.subscriptions, sub.1 ≠ n

/-- The connections of the client stay, and so does what they are subscribed to. -/
structure Kept (s s' : Routing) : Prop where
  connected : s'.client.connected_ = s.client.connected_
  subConn : s'.client.subConn_ = s.client.subConn_
  subscriptions : ∀ sub ∈ s.world.redis.subscriptions, sub.1 = n → sub ∈ s'.world.redis.subscriptions
  closed : Closed n s → Closed n s'

/-- Both connections are closed, and with them the subscriptions. -/
structure Shut (s : Routing) : Prop where
  off : s.client.connected_ = false
  none : s.client.subConn_ = none
  foreign : ∀ sub ∈ s.world.redis.subscriptions, sub.1 ≠ n

/-- The client is connected and has no subscription. -/
structure Deaf (s : Routing) : Prop where
  on : s.client.connected_ = true
  foreign : ∀ sub ∈ s.world.redis.subscriptions, sub.1 ≠ n

/-- A call keeps the subscription, closes the connections, or loses the subscription of a connected client. -/
def Outcome (s : Routing) (call : ClientCall) : Prop :=
  ¬ Loses s call ∧ Kept n s (s.step n call) ∨ ¬ Loses s call ∧ Shut n (s.step n call) ∨
    Loses s call ∧ Deaf n (s.step n call)

variable {n}

theorem Kept.of_subscriptions {s s' : Routing} (connected : s'.client.connected_ = s.client.connected_)
    (subConn : s'.client.subConn_ = s.client.subConn_)
    (same : s'.world.redis.subscriptions = s.world.redis.subscriptions) : Kept n s s' where
  connected := connected
  subConn := subConn
  subscriptions := by
    intro sub member _
    rw [same]
    exact member
  closed := by
    intro closed
    unfold Closed
    rw [connected, subConn, same]
    exact closed

theorem kept_others (s : Routing) (change : World → World) : Kept n s (s.step n (.others change)) where
  connected := rfl
  subConn := rfl
  subscriptions := by
    intro sub member own
    exact List.mem_append_right _ (List.mem_filter.mpr ⟨member, by simpa using own⟩)
  closed := by
    intro closed off
    obtain ⟨none, foreign⟩ := closed off
    refine ⟨none, ?_⟩
    intro sub member
    rcases List.mem_append.mp member with other | own
    · simpa using (List.mem_filter.mp other).2
    · exact foreign sub (List.mem_filter.mp own).1

theorem kept_subscribe (s : Routing) : Kept n s (s.step n .subscribeRouteChannel) where
  connected := rfl
  subConn := rfl
  subscriptions := by
    intro sub member _
    simp only [step, RedisClient.subscribeRouteChannel]
    split
    · exact member
    · exact member
    · exact List.mem_cons_of_mem _ member
  closed := by
    intro closed off
    obtain ⟨none, foreign⟩ := closed off
    refine ⟨none, ?_⟩
    simp only [step, RedisClient.subscribeRouteChannel, none]
    exact foreign

theorem disconnect_foreign (w : World) : ∀ sub ∈ (RedisClient.disconnect n w).2.redis.subscriptions, sub.1 ≠ n := by
  intro sub member
  simpa using (List.mem_filter.mp member).2

theorem shut_disconnect (w : World) :
    Shut n ⟨(RedisClient.disconnect n w).1, (RedisClient.disconnect n w).2⟩ := ⟨rfl, rfl, disconnect_foreign w⟩

theorem reconnect_cases (reach : Reach) (w : World) :
    reach.main = false ∧ Shut n ⟨(RedisClient.reconnect n reach w).1, (RedisClient.reconnect n reach w).2⟩ ∨
      reach.main = true ∧ Deaf n ⟨(RedisClient.reconnect n reach w).1, (RedisClient.reconnect n reach w).2⟩ := by
  unfold RedisClient.reconnect RedisClient.connect
  cases reach.main with
  | false => exact .inl ⟨rfl, rfl, rfl, disconnect_foreign _⟩
  | true => exact .inr ⟨rfl, rfl, disconnect_foreign w⟩

theorem connect_cases {s : Routing} (closed : Closed n s) (reach : Reach) : Outcome n s (.connect reach) := by
  simp only [Outcome, step, RedisClient.connect, Loses]
  cases on : s.client.connected_ with
  | true => exact .inl ⟨by simp, .of_subscriptions rfl rfl rfl⟩
  | false =>
    cases reach.main with
    | true => exact .inr (.inr ⟨⟨rfl, rfl⟩, rfl, (closed on).2⟩)
    | false => exact .inr (.inl ⟨by simp, shut_disconnect s.world⟩)

theorem consumeCommands_outcome (s : Routing) (reach : Reach) (junk : RedisClient.Junk) (batchSize : Nat) :
    Outcome n s (.consumeCommands reach junk batchSize) := by
  simp only [Outcome, step, Loses]
  rcases RedisClient.consumeCommands_cases n reach junk batchSize s.client s.world with
    ⟨idle, same⟩ | ⟨works, some, same⟩ | ⟨connected, unread, same⟩
  · rw [same]
    refine .inl ⟨?_, .of_subscriptions rfl rfl rfl⟩
    intro loses
    rcases idle with off | ⟨answers, refused⟩
    · exact absurd loses.1 (by simp [off])
    · exact (loses.2.2 answers).1 refused
  · rw [same]
    exact .inl ⟨fun loses => some (loses.2.2 works.2).2, .of_subscriptions rfl rfl rfl⟩
  · rw [same]
    rcases reconnect_cases reach s.world with ⟨away, shut⟩ | ⟨reached, deaf⟩
    · exact .inr (.inl ⟨fun loses => by simp [away] at loses, shut⟩)
    · exact .inr (.inr ⟨⟨connected, reached, unread⟩, deaf⟩)

theorem subDown_outcome {s : Routing} (closed : Closed n s) : Outcome n s .subDown := by
  have foreign : ∀ sub ∈ (s.step n .subDown).world.redis.subscriptions, sub.1 ≠ n := by
    intro sub member
    simpa using (List.mem_filter.mp member).2
  unfold Outcome Loses
  by_cases on : s.client.connected_ = true
  · exact .inr (.inr ⟨on, on, foreign⟩)
  · have off : s.client.connected_ = false := Bool.eq_false_iff.mpr on
    refine .inr (.inl ⟨on, off, ?_, foreign⟩)
    simp only [step, (closed off).1, Option.map_none]

theorem step_cases {s : Routing} (closed : Closed n s) (call : ClientCall) : Outcome n s call := by
  have kept : ¬ Loses s call → Kept n s (s.step n call) → Outcome n s call := fun stays keeps => .inl ⟨stays, keeps⟩
  cases call with
  | connect reach => exact connect_cases closed reach
  | disconnect => exact .inr (.inl ⟨id, shut_disconnect s.world⟩)
  | reconnect reach =>
    rcases reconnect_cases reach s.world with ⟨away, shut⟩ | ⟨reached, deaf⟩
    · exact .inr (.inl ⟨fun loses => by simp [Loses, away] at loses, shut⟩)
    · exact .inr (.inr ⟨reached, deaf⟩)
  | consumeCommands reach junk batchSize => exact consumeCommands_outcome s reach junk batchSize
  | publishCommand fate ts cmd =>
    refine kept id ?_
    simp only [step, RedisClient.publishCommand]
    split
    · cases fate <;> exact .of_subscriptions rfl rfl rfl
    · exact .of_subscriptions rfl rfl rfl
  | subscribeRouteChannel => exact kept id (kept_subscribe s)
  | subDown => exact subDown_outcome closed
  | others change => exact kept id (kept_others s change)
  | sendCommand junk cmd =>
    refine kept id (.of_subscriptions rfl rfl ?_)
    simp only [step, RedisClient.sendCommand]
    split
    · split
      · split
        · rfl
        · split <;> rfl
      · rfl
    · rfl
  | registerNode nodeId addr mqttPort apiPort =>
    refine kept id (.of_subscriptions rfl rfl ?_)
    simp only [step, RedisClient.registerNode]
    split
    · rfl
    · split <;> rfl
  | sendNodeHeartbeat nodeId =>
    refine kept id (.of_subscriptions rfl rfl ?_)
    simp only [step, RedisClient.sendNodeHeartbeat]
    split
    · rfl
    · split <;> rfl
  | query | linkDown => exact kept id (.of_subscriptions rfl rfl rfl)
  | _ =>
    refine kept id (.of_subscriptions rfl rfl ?_)
    simp only [step, RedisClient.initConsumerGroup, RedisClient.ackCommand, RedisClient.markCommandSent,
      RedisClient.markCommandFailed, RedisClient.markCommandCompleted, RedisClient.registerDevice,
      RedisClient.unregisterDevice, RedisClient.updateDeviceHeartbeat, RedisClient.publishToNode,
      RedisClient.cacheTelemetry]
    split <;> rfl

theorem Closed.step {s : Routing} (closed : Closed n s) (call : ClientCall) : Closed n (s.step n call) := by
  rcases step_cases closed call with ⟨-, kept⟩ | ⟨-, shut⟩ | ⟨-, deaf⟩
  · exact kept.closed closed
  · exact fun _ => ⟨shut.none, shut.foreign⟩
  · intro off
    rw [deaf.on] at off
    cases off

/-! ### Runs -/

theorem routed_of_subscribed {s : Routing}
    (there : s.client.connected_ = true → s.client.subConn_ = some .up ∧
      (n, RedisClient.routeChannel n.text) ∈ s.world.redis.subscriptions) : Routed n s := by
  intro on
  refine ⟨there on, ?_⟩
  intro other cmd connected answers
  have received : 0 < RedisClient.receivers s.world.redis (RedisClient.routeChannel n.text) :=
    List.countP_pos_iff.mpr ⟨_, (there on).2, by simp⟩
  unfold RedisClient.publishToNode
  rw [if_pos ⟨connected, answers⟩]
  simpa using received

theorem routed_step {s : Routing} (closed : Closed n s) (routed : Routed n s) (call : ClientCall) :
    Routed n (s.step n call) ↔ ¬ Loses s call := by
  rcases step_cases closed call with ⟨stays, kept⟩ | ⟨stays, shut⟩ | ⟨loses, deaf⟩
  · refine iff_of_true (routed_of_subscribed fun on => ?_) stays
    rw [kept.connected] at on
    obtain ⟨up, member⟩ := (routed on).1
    exact ⟨kept.subConn.trans up, kept.subscriptions _ member rfl⟩
  · refine iff_of_true (fun on => ?_) stays
    rw [shut.off] at on
    cases on
  · refine iff_of_false (fun after => ?_) (not_not.mpr loses)
    exact deaf.foreign _ (after deaf.on).1.2 rfl

/-- A subscribed client stays subscribed whenever it is connected, in exactly those runs in which no call opens new
connections and the subscription connection of a connected client does not fail. -/
theorem routed_iff (n : NodeId) (link : Link) (w : World) (calls : List ClientCall) :
    (∀ before, before <+: calls → Routed n (run (step n) (subscribed n link w) before)) ↔
      Meets (step n) (fun s call => ¬ Loses s call) (subscribed n link w) calls := by
  have closed : Closed n (subscribed n link w) := fun off => by cases off
  have routed : Routed n (subscribed n link w) := routed_of_subscribed fun _ => ⟨rfl, List.mem_cons_self⟩
  exact prefixes_iff_meets (step n) closed routed (fun _ call closed => closed.step call)
    (fun _ call closed routed => routed_step closed routed call) calls

/-- One lost reply while Redis can be reached. -/
def recovered : List ClientCall := [.linkDown, .consumeCommands ⟨true, true⟩ ⟨0, 0⟩ 10]

theorem recovered_unsubscribed : ¬ Routed gateway1 (run (step gateway1) (subscribed gateway1 .up ⟨0, .new, []⟩) recovered) := by
  intro routed
  have on : (run (step gateway1) (subscribed gateway1 .up ⟨0, .new, []⟩) recovered).client.connected_ = true := by
    decide +kernel
  have gone : (gateway1, RedisClient.routeChannel gateway1.text) ∉
      (run (step gateway1) (subscribed gateway1 .up ⟨0, .new, []⟩) recovered).world.redis.subscriptions := by
    decide +kernel
  exact gone (routed on).1.2

end Routing
end IotGateway.Gateway
