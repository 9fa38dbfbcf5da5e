import IotGateway.Gateway.Frame

/-!
# The seat of a node in the cluster

The Redis client and the cluster manager of a node, and what each event makes of them.
The counters that `processCommand` reports to the cluster manager are left open.
-/

namespace IotGateway.Gateway
open Text Storage Protocol

def seat (g : GatewayServer) : Bool × RedisClient × ClusterManager := (g.running_, g.redisClient_, g.clusterMgr_)

section Node

variable (n : NodeId) (g : GatewayServer) (w : World)

theorem seat_dropConn (k : ConnId) : seat (g.dropConn w k).1 = seat g := by
  unfold GatewayServer.dropConn
  split <;> rfl

theorem seat_handleItem (k : ConnId) (item : Item MqttEvent) : seat (g.handleItem n w k item).1 = seat g := by
  cases item with
  | failure =>
    simp only [GatewayServer.handleItem]
    split <;> rfl
  | event e =>
    cases e with
    | subscribe packetId filters =>
      simp only [GatewayServer.handleItem, GatewayServer.handleEvent, GatewayServer.handleSubscribe]
      split <;> rfl
    | pingReq =>
      simp only [GatewayServer.handleItem, GatewayServer.handleEvent, GatewayServer.handlePingReq]
      split <;> rfl
    | disconnect => exact seat_dropConn g w k
    | connect | publish | pubAck => rfl

theorem Counted.seat {g g' : GatewayServer} (counted : Counted g g') : seat g' = Gateway.seat g := by
  obtain ⟨_, _, _, rfl⟩ := counted
  rfl

theorem seat_processCommand {reach : Reach} {junk : RedisClient.Junk} {g' : GatewayServer} (running : g.running_ = true)
    (done : (g.processCommand n reach junk w).1 = .ok g') :
    ∃ devices consumed, seat g' =
      (true, (g.redisClient_.consumeCommands n reach junk 10 w).2.1, g.clusterMgr_.updateLocalStats devices consumed) := by
  unfold GatewayServer.processCommand at done
  rw [if_neg (not_not.mpr running)] at done
  dsimp only at done
  split at done
  · cases done
  · cases done
    refine ⟨g.clusterMgr_.localDeviceCount_, g.clusterMgr_.localCmdConsumed_, ?_⟩
    exact Prod.ext running rfl
  · rename_i commands _ _
    have counted := counted_deliverCommands n
      { g with redisClient_ := (g.redisClient_.consumeCommands n reach junk 10 w).2.1 }
      (g.redisClient_.consumeCommands n reach junk 10 w).2.2 commands
    generalize List.foldl _ _ commands = delivered at done counted
    obtain ⟨packetId, consumed, forwarded, after⟩ := counted
    cases done
    refine ⟨delivered.1.deviceMgr_.localOnlineCount, delivered.1.cmdConsumed_, ?_⟩
    rw [after, ← running]
    rfl

/-- The two timers change nothing else. -/
theorem timers_set (cm : ClusterManager) : ∃ heartbeat detection, cm.startHeartbeat.startFailureDetection =
    { cm with heartbeatTimer := heartbeat, failureDetectTimer := detection } := by
  unfold ClusterManager.startFailureDetection ClusterManager.startHeartbeat
  split
  · exact ⟨_, _, rfl⟩
  · exact ⟨_, _, rfl⟩

/-- The client and the cluster manager after an event that does not end the process. -/
def seatAfter : NodeEvent → RedisClient × ClusterManager
  | .processCommand reach junk => ((g.redisClient_.consumeCommands n reach junk 10 w).2.1, g.clusterMgr_)
  | .enqueueCommand fate deviceId command params =>
    ((g.enqueueCommand fate w.now w.now w deviceId command params).2.1.redisClient_, g.clusterMgr_)
  | .join => (g.redisClient_, (g.clusterMgr_.join n g.redisClient_ w).2.1)
  | .sendHeartbeat => (g.redisClient_, (g.clusterMgr_.sendHeartbeat n g.redisClient_ w).2.1)
  | .discoverNodes => (g.redisClient_, (g.clusterMgr_.discoverNodes n g.redisClient_ w).1)
  | .failureDetection junk => (g.redisClient_, (g.clusterMgr_.failureDetection n g.redisClient_ junk w).1)
  | .leave junk => (g.redisClient_, (g.clusterMgr_.leave n g.redisClient_ junk w).1)
  | .linkDown => ({ g.redisClient_ with conn_ := g.redisClient_.conn_.map fun _ => .broken }, g.clusterMgr_)
  | .subDown => ({ g.redisClient_ with subConn_ := g.redisClient_.subConn_.map fun _ => .broken }, g.clusterMgr_)
  | _ => (g.redisClient_, g.clusterMgr_)

theorem seat_nodeStep (running : g.running_ = true) (e : NodeEvent) :
    (g.nodeStep n w e).1 = g.exited ∨ ∃ devices consumed, seat (g.nodeStep n w e).1 =
      (true, (seatAfter n g w e).1, (seatAfter n g w e).2.updateLocalStats devices consumed) := by
  -- most events leave the counters as they are
  have plain : ∀ {g' : GatewayServer}, seat g' = (g.running_, seatAfter n g w e) → ∃ devices consumed, seat g' =
      (true, (seatAfter n g w e).1, (seatAfter n g w e).2.updateLocalStats devices consumed) := by
    intro g' same
    refine ⟨(seatAfter n g w e).2.localDeviceCount_, (seatAfter n g w e).2.localCmdConsumed_, ?_⟩
    rw [same, running]
    rfl
  cases e with
  | accept k =>
    refine .inr (plain ?_)
    simp only [GatewayServer.nodeStep]
    split <;> rfl
  | packet k item =>
    refine .inr (plain ?_)
    simp only [GatewayServer.nodeStep]
    split
    · exact seat_handleItem n g w k item
    · rfl
  | close k =>
    refine .inr (plain ?_)
    simp only [GatewayServer.nodeStep]
    split
    · exact seat_dropConn (g.setConn k .disconnected) w k
    · rfl
  | heartbeatCheck => exact .inr (plain rfl)
  | processCommand reach junk =>
    simp only [GatewayServer.nodeStep]
    split
    · rename_i g' w' done
      exact .inr (seat_processCommand n g w running (congrArg Prod.fst done))
    · exact .inl rfl
  | crossNodeCommand cmd => exact .inr (plain (counted_sendCommandToDevice n g w _).seat)
  | enqueueCommand | join | sendHeartbeat | discoverNodes | failureDetection | leave | linkDown | subDown =>
    exact .inr (plain rfl)
  | stop junk => exact .inl rfl
  | kill => exact .inl rfl

end Node

/-- A process that has ended or not begun has no connection and no membership. -/
def AtRest (g : GatewayServer) : Prop := g.running_ = false → seat g = (false, {}, {})

theorem atRest_step (s : System) (e : Event) (atRest : ∀ n, AtRest (s.nodes n)) (n : NodeId) : AtRest ((s.step e).nodes n) := by
  refine System.node_step ?_ ?_ s e atRest n
  · intro n g w reach mqttPort _ _ stopped
    unfold GatewayServer.start at stopped
    dsimp only at stopped
    split at stopped <;> cases stopped
  · intro n g w e running _ stopped
    rcases seat_nodeStep n g w running e with ended | ⟨devices, consumed, moved⟩
    · rw [ended]
      rfl
    · rw [show GatewayServer.running_ _ = true from congrArg Prod.fst moved] at stopped
      cases stopped

theorem atRest_run (events : List Event) (n : NodeId) : AtRest ((run System.step System.new events).nodes n) :=
  run_kept System.step (fun s => ∀ n, AtRest (s.nodes n)) (fun _ _ => rfl) atRest_step events n

end IotGateway.Gateway
