import IotGateway.Gateway.AtLeastOnce
import IotGateway.Gateway.Membership

/-!
# Recovery from an outage of Redis

Only `consumeCommands` reconnects, and only while `connected_` is still set. A reconnect
that fails clears the flag, and from then on `consumeCommands` returns at once: the node
stays degraded for good, also when Redis is back.
-/

namespace IotGateway.Gateway
open Text Storage

/-- The periodic tasks once each, in one of the two orders, and one more heartbeat. -/
def recoveryRound (n : NodeId) (reach : Reach) (junk : RedisClient.Junk) (heartbeatFirst : Bool) : List Event :=
  if heartbeatFirst then [.node n .sendHeartbeat, .node n (.processCommand reach junk), .node n .sendHeartbeat]
  else [.node n (.processCommand reach junk), .node n .sendHeartbeat, .node n .sendHeartbeat]

structure Recovered (g : GatewayServer) : Prop where
  connected : g.redisClient_.connected_ = true
  online : g.clusterMgr_.localNode_.state = .online

/-- The commands that an answered `XREADGROUP` hands out have numbers that `stoll` and `stoi` take. -/
def Legible (junk : RedisClient.Junk) (g : GatewayServer) (w : World) : Prop :=
  g.redisClient_.answers = true →
    ∃ commands, (w.redis.commands.fresh 10).mapM (RedisClient.readEntry junk w.now) = .ok commands

/-! ### The state of the node -/

def NodeState.Serving (state : NodeState) : Prop := state = .online ∨ state = .degraded

/-- A joined node is running, and its state is `ONLINE` or `DEGRADED`. -/
def Seated (g : GatewayServer) : Prop :=
  g.clusterMgr_.joined_ = true → g.running_ = true ∧ g.clusterMgr_.localNode_.state.Serving

section Cluster

variable {n : NodeId} {cm : ClusterManager}

theorem state_sendHeartbeat (c : RedisClient) (w : World) :
    (cm.sendHeartbeat n c w).2.1.localNode_.state =
      if c.connected_ then (if cm.localNode_.state = .degraded then .online else cm.localNode_.state)
      else (if cm.localNode_.state = .online then .degraded else cm.localNode_.state) := by
  unfold ClusterManager.sendHeartbeat RedisClient.isConnected
  cases c.connected_ <;> rfl

theorem online_sendHeartbeat (serving : cm.localNode_.state.Serving) {c : RedisClient} (connected : c.connected_ = true)
    (w : World) : (cm.sendHeartbeat n c w).2.1.localNode_.state = .online := by
  rw [state_sendHeartbeat, if_pos connected]
  rcases serving with online | degraded
  · rw [online]
    rfl
  · rw [degraded]
    rfl

theorem serving_sendHeartbeat (serving : cm.localNode_.state.Serving) (c : RedisClient) (w : World) :
    (cm.sendHeartbeat n c w).2.1.localNode_.state.Serving := by
  cases connected : c.connected_ with
  | true => exact Or.inl (online_sendHeartbeat serving connected w)
  | false =>
    rw [state_sendHeartbeat, connected]
    rcases serving with online | degraded
    · rw [online]
      exact Or.inr rfl
    · rw [degraded]
      exact Or.inr rfl

theorem joined_sendHeartbeat (c : RedisClient) (w : World) : (cm.sendHeartbeat n c w).2.1.joined_ = cm.joined_ := by
  unfold ClusterManager.sendHeartbeat
  split <;> rfl

theorem serving_join (serving : cm.joined_ = true → cm.localNode_.state.Serving) (c : RedisClient) (w : World) :
    (cm.join n c w).2.1.joined_ = true → (cm.join n c w).2.1.localNode_.state.Serving := by
  rcases ClusterManager.join_cases n c cm w with ⟨-, same⟩ | ⟨-, same⟩
  · rw [same]
    exact serving
  · rw [same]
    exact fun _ => Or.inl rfl

theorem serving_discoverNodes (serving : cm.joined_ = true → cm.localNode_.state.Serving) (c : RedisClient) (w : World) :
    (cm.discoverNodes n c w).1.joined_ = true → (cm.discoverNodes n c w).1.localNode_.state.Serving := by
  unfold ClusterManager.discoverNodes
  split <;> exact serving

end Cluster

theorem seated_nodeStep {n : NodeId} {g : GatewayServer} (seated : Seated g) (running : g.running_ = true) (w : World)
    (e : NodeEvent) : Seated (g.nodeStep n w e).1 := by
  rcases seat_nodeStep n g w running e with ended | ⟨devices, consumed, moved⟩
  · intro joined
    rw [ended] at joined
    cases joined
  · have runs : (g.nodeStep n w e).1.running_ = true := congrArg Prod.fst moved
    have cluster : (g.nodeStep n w e).1.clusterMgr_ = _ := congrArg (fun s => s.2.2) moved
    have serving : g.clusterMgr_.joined_ = true → g.clusterMgr_.localNode_.state.Serving := fun joined => (seated joined).2
    intro joined
    refine ⟨runs, ?_⟩
    rw [cluster] at joined ⊢
    cases e with
    | join => exact serving_join serving _ _ joined
    | sendHeartbeat => exact serving_sendHeartbeat (serving ((joined_sendHeartbeat _ _).symm.trans joined)) _ _
    | discoverNodes => exact serving_discoverNodes serving _ _ joined
    | failureDetection junk => exact serving_discoverNodes serving _ _ joined
    | leave junk =>
      simp only [seatAfter, ClusterManager.leave] at joined ⊢
      split at joined
      · rename_i out
        exact absurd joined out
      · cases joined
    | _ => exact serving joined

theorem seated_start {n : NodeId} {g : GatewayServer} (out : g.clusterMgr_.joined_ = false) (reach : Reach)
    (mqttPort : UInt16) (w : World) : Seated (g.start n reach mqttPort w).1 := by
  unfold GatewayServer.start
  dsimp only
  split
  · intro joined
    refine ⟨rfl, ?_⟩
    dsimp only at joined ⊢
    obtain ⟨heartbeat, detection, timers⟩ := timers_set _
    rw [timers] at joined ⊢
    refine serving_join ?_ _ _ joined
    intro before
    rw [show (ClusterManager.init _ _ _ _ _).joined_ = _ from out] at before
    cases before
  · intro joined
    rw [show (ClusterManager.init _ _ _ _ _).joined_ = _ from out] at joined
    cases joined

theorem seated_run (events : List Event) (n : NodeId) : Seated ((run System.step System.new events).nodes n) := by
  refine System.node_invariant (fun joined => by cases joined) ?_ ?_ events n
  · intro n g w reach mqttPort down seated
    have out : g.clusterMgr_.joined_ = false := by
      by_contra joined
      have running := (seated (by simpa using joined)).1
      rw [down] at running
      cases running
    exact seated_start out reach mqttPort w
  · exact fun n g w e running seated => seated_nodeStep seated running w e

/-! ### One round -/

section Round

variable {n : NodeId} {g : GatewayServer} {w : World} {reach : Reach} {junk : RedisClient.Junk}

/-- With Redis in reach a client that is connected stays so, or is connected anew. -/
theorem consumeCommands_connected {c : RedisClient} (connected : c.connected_ = true) (reached : reach.main = true) :
    (c.consumeCommands n reach junk 10 w).2.1.connected_ = true := by
  rcases RedisClient.consumeCommands_cases n reach junk 10 c w with ⟨-, same⟩ | ⟨-, -, same⟩ | ⟨-, -, same⟩
  · rw [same]
    exact connected
  · rw [same]
    exact connected
  · rw [same]
    unfold RedisClient.reconnect RedisClient.connect
    rw [reached]
    rfl

theorem consumeCommands_ok_iff (connected : g.redisClient_.connected_ = true) :
    (∃ commands, (g.redisClient_.consumeCommands n reach junk 10 w).1 = .ok commands) ↔ Legible junk g w := by
  unfold Legible
  rcases RedisClient.consumeCommands_cases n reach junk 10 g.redisClient_ w with
    ⟨off | ⟨-, refused⟩, same⟩ | ⟨works, -, same⟩ | ⟨-, unread, same⟩
  · exact absurd connected (by simp [off])
  · have nothing : w.redis.commands.fresh 10 = [] := by simp [Redis.Stream.fresh, refused]
    rw [same, nothing]
    exact iff_of_true ⟨_, rfl⟩ fun _ => ⟨[], rfl⟩
  · rw [same]
    exact (imp_iff_right works.2).symm
  · rw [same]
    refine iff_of_true ⟨_, rfl⟩ fun answers => ⟨[], ?_⟩
    rw [(unread answers).2]
    rfl

theorem processCommand_ok_iff (running : g.running_ = true) (connected : g.redisClient_.connected_ = true) :
    (∃ g', (g.processCommand n reach junk w).1 = .ok g') ↔ Legible junk g w := by
  have consumed : (∃ commands, (g.redisClient_.consumeCommands n reach junk 10 w).1 = .ok commands) ↔ Legible junk g w :=
    consumeCommands_ok_iff connected
  rw [← consumed]
  unfold GatewayServer.processCommand
  rw [if_neg (not_not.mpr running)]
  dsimp only
  split
  · rename_i thrown
    simp [thrown]
  · rename_i nothing
    exact iff_of_true ⟨_, rfl⟩ ⟨_, nothing⟩
  · rename_i commands _ read
    exact iff_of_true ⟨_, rfl⟩ ⟨_, read⟩

end Round

section System

variable {s : System} {n : NodeId} {reach : Reach} {junk : RedisClient.Junk}

theorem connected_before {e : NodeEvent} (after : ((s.step (.node n e)).nodes n).redisClient_.connected_ = true) :
    (s.nodes n).redisClient_.connected_ = true := by
  simp only [System.step] at after
  split at after
  · rw [System.update_nodes_self] at after
    exact connected_nodeStep n _ _ after
  · exact after

theorem legible_sendHeartbeat (running : (s.nodes n).running_ = true) :
    Legible junk ((s.step (.node n .sendHeartbeat)).nodes n) (s.step (.node n .sendHeartbeat)).world ↔
      Legible junk (s.nodes n) s.world := by
  have quiet : ∀ {β : Type} {view : World → β}, Blind view [.heartbeat, .presence] →
      view ((s.nodes n).clusterMgr_.sendHeartbeat n (s.nodes n).redisClient_ s.world).2.2 = view s.world :=
    fun blind => view_sendHeartbeat n _ _ _ blind
  have commands := congrArg Delivery.commands (quiet (Sees.blind sees_delivery rfl))
  have now := congrArg Registry.now (quiet (Sees.blind sees_registry rfl))
  rw [System.step_running running, System.update_nodes_self, System.update_world]
  simp only [Legible, GatewayServer.nodeStep]
  rw [show World.now _ = s.world.now from now, show RedisServer.commands _ = s.world.redis.commands from commands]

/-- A running node that is connected and in service. -/
structure InService (g : GatewayServer) : Prop where
  running : g.running_ = true
  connected : g.redisClient_.connected_ = true
  serving : g.clusterMgr_.localNode_.state.Serving

theorem inService_sendHeartbeat (service : InService (s.nodes n)) : InService ((s.step (.node n .sendHeartbeat)).nodes n) := by
  rw [System.step_running service.running, System.update_nodes_self]
  exact ⟨service.running, service.connected, serving_sendHeartbeat service.serving _ _⟩

theorem recovered_sendHeartbeat (service : InService (s.nodes n)) : Recovered ((s.step (.node n .sendHeartbeat)).nodes n) := by
  rw [System.step_running service.running, System.update_nodes_self]
  exact ⟨service.connected, online_sendHeartbeat service.serving service.connected _⟩

theorem inService_processCommand (service : InService (s.nodes n)) (reached : reach.main = true)
    (legible : Legible junk (s.nodes n) s.world) : InService ((s.step (.node n (.processCommand reach junk))).nodes n) := by
  obtain ⟨g', done⟩ : ∃ g', ((s.nodes n).processCommand n reach junk s.world).1 = .ok g' :=
    (processCommand_ok_iff service.running service.connected).mpr legible
  have next : ((s.nodes n).nodeStep n s.world (.processCommand reach junk)).1 = g' := by
    simp only [GatewayServer.nodeStep]
    split
    · rename_i same
      exact Except.ok.inj ((congrArg Prod.fst same).symm.trans done)
    · rename_i thrown
      rw [thrown] at done
      cases done
  obtain ⟨devices, consumed, moved⟩ := seat_processCommand n _ s.world service.running done
  rw [System.step_running service.running, System.update_nodes_self, next]
  refine ⟨congrArg Prod.fst moved, ?_, ?_⟩
  · rw [show g'.redisClient_ = _ from congrArg (fun s => s.2.1) moved]
    exact consumeCommands_connected service.connected reached
  · rw [show g'.clusterMgr_ = _ from congrArg (fun s => s.2.2) moved]
    exact service.serving

/-- A command that cannot be read ends the process. -/
theorem legible_of_connected (running : (s.nodes n).running_ = true)
    (after : ((s.step (.node n (.processCommand reach junk))).nodes n).redisClient_.connected_ = true) :
    Legible junk (s.nodes n) s.world := by
  have consumed : (∃ g', ((s.nodes n).processCommand n reach junk s.world).1 = .ok g') ↔ Legible junk (s.nodes n) s.world :=
    processCommand_ok_iff running (connected_before after)
  rw [System.step_running running, System.update_nodes_self] at after
  simp only [GatewayServer.nodeStep] at after
  split at after
  · rename_i done
    exact consumed.mp ⟨_, congrArg Prod.fst done⟩
  · cases after

end System

/-- One round with Redis in reach brings a joined node back exactly if its client still has `connected_` set and the
commands that wait for it can be read. -/
theorem recovers_iff (events : List Event) (n : NodeId) (reach : Reach) (junk : RedisClient.Junk) (heartbeatFirst : Bool)
    (joined : ((run System.step System.new events).nodes n).clusterMgr_.joined_ = true) (reached : reach.main = true) :
    let s := run System.step System.new events
    Recovered ((run System.step s (recoveryRound n reach junk heartbeatFirst)).nodes n) ↔
      (s.nodes n).redisClient_.connected_ = true ∧ Legible junk (s.nodes n) s.world := by
  intro s
  obtain ⟨running, serving⟩ := seated_run events n joined
  cases heartbeatFirst with
  | true =>
    constructor
    · intro recovered
      have second := connected_before recovered.connected
      have connected := connected_before (connected_before second)
      have stillRunning : ((s.step (.node n .sendHeartbeat)).nodes n).running_ = true :=
        (inService_sendHeartbeat ⟨running, connected, serving⟩).running
      exact ⟨connected, (legible_sendHeartbeat running).mp (legible_of_connected stillRunning second)⟩
    · rintro ⟨connected, legible⟩
      have first := inService_sendHeartbeat ⟨running, connected, serving⟩
      have second := inService_processCommand first reached ((legible_sendHeartbeat running).mpr legible)
      exact recovered_sendHeartbeat second
  | false =>
    constructor
    · intro recovered
      have first := connected_before (connected_before recovered.connected)
      exact ⟨connected_before first, legible_of_connected running first⟩
    · rintro ⟨connected, legible⟩
      have first := inService_processCommand ⟨running, connected, serving⟩ reached legible
      exact recovered_sendHeartbeat (inService_sendHeartbeat first)

def shortOutage : List Event := [.start gateway1 ⟨true, true⟩ 1883, .node gateway1 .linkDown]

/-- Redis is still out of reach when the node next asks for commands. -/
def longOutage : List Event := shortOutage ++ [.node gateway1 (.processCommand ⟨false, false⟩ ⟨0, 0⟩)]

theorem recovers_iff_shortOutage :
    let s := run System.step System.new shortOutage
    ((s.nodes gateway1).clusterMgr_.joined_ = true ∧ (s.nodes gateway1).redisClient_.connected_ = true) ∧
      Recovered ((run System.step s (recoveryRound gateway1 ⟨true, true⟩ ⟨0, 0⟩ true)).nodes gateway1) := by
  have joined : ((run System.step System.new shortOutage).nodes gateway1).clusterMgr_.joined_ = true := by decide +kernel
  have connected : ((run System.step System.new shortOutage).nodes gateway1).redisClient_.connected_ = true := by
    decide +kernel
  have silent : ((run System.step System.new shortOutage).nodes gateway1).redisClient_.answers = false := by decide +kernel
  have legible : Legible ⟨0, 0⟩ ((run System.step System.new shortOutage).nodes gateway1)
      (run System.step System.new shortOutage).world := fun answers => by simp [silent] at answers
  exact ⟨⟨joined, connected⟩,
    (recovers_iff shortOutage gateway1 ⟨true, true⟩ ⟨0, 0⟩ true joined rfl).mpr ⟨connected, legible⟩⟩

/-- After a reconnect that failed the node stays without Redis. -/
theorem longOutage_not_recovered :
    let s := run System.step System.new longOutage
    ((s.nodes gateway1).running_ = true ∧ (s.nodes gateway1).clusterMgr_.joined_ = true) ∧
      ¬ Recovered ((run System.step s (recoveryRound gateway1 ⟨true, true⟩ ⟨0, 0⟩ true)).nodes gateway1) ∧
      ¬ Recovered ((run System.step s (recoveryRound gateway1 ⟨true, true⟩ ⟨0, 0⟩ false)).nodes gateway1) := by
  refine ⟨by decide +kernel, fun recovered => ?_, fun recovered => ?_⟩
  · exact absurd recovered.connected (by decide +kernel)
  · exact absurd recovered.connected (by decide +kernel)

end IotGateway.Gateway
