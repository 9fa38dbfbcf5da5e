import IotGateway.Lib.Run
import IotGateway.Gateway.GatewayServer

/-!
# A cluster of nodes

Any number of gateway servers around one store and one clock. An event is a step of the
clock, the start of a node's process, or something that happens at a running node. Nodes
take their steps one at a time. Timers may fire at any moment.
-/

namespace IotGateway.Gateway
open Text Storage Protocol

inductive NodeEvent where
  | accept (conn : ConnId)
  | packet (conn : ConnId) (item : Item MqttEvent)
  | close (conn : ConnId)
  | heartbeatCheck
  | processCommand (reach : Reach) (junk : RedisClient.Junk)
  /-- A command arrives from another node. The route message carries no stream id. -/
  | crossNodeCommand (cmd : Command)
  | enqueueCommand (fate : RedisClient.XaddFate) (deviceId command params : Bytes)
  | join
  | sendHeartbeat
  | discoverNodes
  | failureDetection (junk : List Bytes)
  | leave (junk : List Bytes)
  | linkDown
  | subDown
  | stop (junk : List Bytes)
  /-- The process ends without `stop`. -/
  | kill

inductive Event where
  | tick (delta : Nat)
  | start (node : NodeId) (reach : Reach) (mqttPort : UInt16)
  | node (node : NodeId) (event : NodeEvent)

def Event.at? : Event → Option NodeId
  | .tick _ => none
  | .start n _ _ => some n
  | .node n _ => some n

namespace GatewayServer

/-- A process that has ended. Nothing but the identities of its connections is remembered. -/
def exited (g : GatewayServer) : GatewayServer :=
  { conns := fun k => if g.conns k = .connecting then .connecting else .disconnected }

section Node

variable (nodeId_ : NodeId)

def exit (g : GatewayServer) (w : World) : GatewayServer × World :=
  (g.exited, ((RedisClient.disconnect nodeId_ w).2).record (.exit nodeId_))

/-- Reads go on until the connection is closed, also after a parse error. -/
def Readable (g : GatewayServer) (conn : ConnId) : Prop := g.conns conn = .connected ∨ g.conns conn = .disconnecting

instance (g : GatewayServer) (conn : ConnId) : Decidable (g.Readable conn) := inferInstanceAs (Decidable (_ ∨ _))

def nodeStep (g : GatewayServer) (w : World) : NodeEvent → GatewayServer × World
  | .accept conn => if g.conns conn = .connecting then (g.setConn conn .connected, w) else (g, w)
  | .packet conn item => if g.Readable conn then g.handleItem nodeId_ w conn item else (g, w)
  | .close conn => if g.Readable conn then g.onConnectionClosed nodeId_ w conn else (g, w)
  | .heartbeatCheck => g.startHeartbeatCheck nodeId_ w
  | .processCommand reach junk =>
    match g.processCommand nodeId_ reach junk w with
    | (.ok g, w) => (g, w)
    -- an exception leaves the event loop and ends the process
    | (.error _, w) => g.exit nodeId_ w
  | .crossNodeCommand cmd => g.processCrossNodeCommand nodeId_ w { cmd with streamId := [] }
  | .enqueueCommand fate deviceId command params => (g.enqueueCommand fate w.now w.now w deviceId command params).2
  | .join =>
    let (_, clusterMgr_, w) := g.clusterMgr_.join nodeId_ g.redisClient_ w
    ({ g with clusterMgr_ }, w)
  | .sendHeartbeat =>
    let (_, clusterMgr_, w) := g.clusterMgr_.sendHeartbeat nodeId_ g.redisClient_ w
    ({ g with clusterMgr_ }, w)
  | .discoverNodes =>
    let (clusterMgr_, w) := g.clusterMgr_.discoverNodes nodeId_ g.redisClient_ w
    ({ g with clusterMgr_ }, w)
  | .failureDetection junk =>
    let (clusterMgr_, w) := g.clusterMgr_.failureDetection nodeId_ g.redisClient_ junk w
    ({ g with clusterMgr_ }, w)
  | .leave junk =>
    let (clusterMgr_, w) := g.clusterMgr_.leave nodeId_ g.redisClient_ junk w
    ({ g with clusterMgr_ }, w)
  | .linkDown => ({ g with redisClient_ := { g.redisClient_ with conn_ := g.redisClient_.conn_.map fun _ => .broken } }, w)
  | .subDown =>
    let subscriptions := w.redis.subscriptions.filter fun s => s.1 ≠ nodeId_
    ({ g with redisClient_ := { g.redisClient_ with subConn_ := g.redisClient_.subConn_.map fun _ => .broken } },
      { w with redis := { w.redis with subscriptions } })
  | .stop junk =>
    let (g, w) := g.stop nodeId_ junk w
    g.exit nodeId_ w
  | .kill => g.exit nodeId_ w

end Node
end GatewayServer

structure System where
  world : World
  nodes : NodeId → GatewayServer

namespace System

def new : System := ⟨⟨0, .new, []⟩, fun _ => {}⟩

def update (s : System) (n : NodeId) (result : GatewayServer × World) : System :=
  ⟨result.2, fun m => if m = n then result.1 else s.nodes m⟩

def step (s : System) : Event → System
  | .tick delta => { s with world := { s.world with now := s.world.now + delta } }
  | .start n reach mqttPort =>
    if (s.nodes n).running_ then s else s.update n ((s.nodes n).start n reach mqttPort s.world)
  | .node n event => if (s.nodes n).running_ then s.update n ((s.nodes n).nodeStep n s.world event) else s

@[simp] theorem update_world (s : System) (n : NodeId) (result : GatewayServer × World) :
    (s.update n result).world = result.2 := rfl

@[simp] theorem update_nodes_self (s : System) (n : NodeId) (result : GatewayServer × World) :
    (s.update n result).nodes n = result.1 := if_pos rfl

theorem update_nodes_ne (s : System) {n m : NodeId} (result : GatewayServer × World) (different : m ≠ n) :
    (s.update n result).nodes m = s.nodes m := if_neg different

theorem update_self (s : System) (n : NodeId) : s.update n (s.nodes n, s.world) = s := by
  have nodes : (s.update n (s.nodes n, s.world)).nodes = s.nodes := by
    funext m
    rcases eq_or_ne m n with rfl | different
    · exact s.update_nodes_self m _
    · exact s.update_nodes_ne _ different
  exact congrArg (System.mk s.world) nodes

theorem update_update (s : System) (n : NodeId) (first second : GatewayServer × World) :
    (s.update n first).update n second = s.update n second := by
  simp only [update, System.mk.injEq, true_and]
  funext m
  split <;> rfl

theorem step_nodes_of_not_at (s : System) {e : Event} {m : NodeId} (away : e.at? ≠ some m) :
    (s.step e).nodes m = s.nodes m := by
  cases e with
  | tick delta => rfl
  | start n reach mqttPort =>
    have different : m ≠ n := fun same => away (congrArg some same.symm)
    simp only [step]
    split
    · rfl
    · exact s.update_nodes_ne _ different
  | node n event =>
    have different : m ≠ n := fun same => away (congrArg some same.symm)
    simp only [step]
    split
    · exact s.update_nodes_ne _ different
    · rfl

/-- What an event makes of one node: nothing, a start, or something that happens at it. -/
theorem step_nodes_cases (s : System) (e : Event) (n : NodeId) :
    (s.step e).nodes n = s.nodes n ∨
      (∃ reach mqttPort, e = .start n reach mqttPort ∧ (s.nodes n).running_ = false ∧
        (s.step e).nodes n = ((s.nodes n).start n reach mqttPort s.world).1) ∨
      ∃ event, e = .node n event ∧ (s.nodes n).running_ = true ∧
        (s.step e).nodes n = ((s.nodes n).nodeStep n s.world event).1 := by
  by_cases here : e.at? = some n
  · cases e with
    | tick delta => cases here
    | start m reach mqttPort =>
      obtain rfl : m = n := Option.some.inj here
      cases running : (s.nodes m).running_ with
      | true => exact .inl (by simp only [step, running, if_true])
      | false => exact .inr (.inl ⟨reach, mqttPort, rfl, rfl, by simp [step, running]⟩)
    | node m event =>
      obtain rfl : m = n := Option.some.inj here
      cases running : (s.nodes m).running_ with
      | true => exact .inr (.inr ⟨event, rfl, rfl, by simp [step, running]⟩)
      | false => exact .inl (by simp [step, running])
  · exact .inl (s.step_nodes_of_not_at here)

theorem step_running {s : System} {n : NodeId} (running : (s.nodes n).running_ = true) (e : NodeEvent) :
    s.step (.node n e) = s.update n ((s.nodes n).nodeStep n s.world e) := if_pos running

theorem run_nodes_of_not_at (s : System) {events : List Event} {m : NodeId} (away : ∀ e ∈ events, e.at? ≠ some m) :
    (run step s events).nodes m = s.nodes m := by
  induction events generalizing s with
  | nil => rfl
  | cons e events ih =>
    rw [run_cons, ih _ fun e' member => away e' (List.mem_cons_of_mem _ member)]
    exact s.step_nodes_of_not_at (away e List.mem_cons_self)

/-- What is kept by a start and by every event at a running node is kept by every step. -/
theorem node_step {inv : GatewayServer → Prop}
    (starts : ∀ n g w reach mqttPort, g.running_ = false → inv g → inv (g.start n reach mqttPort w).1)
    (steps : ∀ n g w e, g.running_ = true → inv g → inv (g.nodeStep n w e).1) (s : System) (e : Event)
    (kept : ∀ n, inv (s.nodes n)) (n : NodeId) : inv ((s.step e).nodes n) := by
  rcases s.step_nodes_cases e n with same | ⟨reach, mqttPort, -, down, started⟩ | ⟨event, -, running, stepped⟩
  · rw [same]
    exact kept n
  · rw [started]
    exact starts n _ _ _ _ down (kept n)
  · rw [stepped]
    exact steps n _ _ _ running (kept n)

/-- What holds of a fresh process, and is kept by a start and by every event at a running node, holds of every node. -/
theorem node_invariant {inv : GatewayServer → Prop} (fresh : inv {})
    (starts : ∀ n g w reach mqttPort, g.running_ = false → inv g → inv (g.start n reach mqttPort w).1)
    (steps : ∀ n g w e, g.running_ = true → inv g → inv (g.nodeStep n w e).1) (events : List Event) (n : NodeId) :
    inv ((run step new events).nodes n) :=
  run_kept step (fun s => ∀ n, inv (s.nodes n)) (fun _ => fresh) (node_step starts steps) events n

end System

/-! ### Names for concrete runs -/

def gateway1 : NodeId := ⟨ascii "gateway-1", by decide⟩

def gateway2 : NodeId := ⟨ascii "gateway-2", by decide⟩

def startBoth : List Event := [.start gateway1 ⟨true, true⟩ 1883, .start gateway2 ⟨true, true⟩ 1884]

def sensor : Bytes := ascii "sensor"

def lamp : Bytes := ascii "lamp"

def arrive (n : NodeId) (k : ConnId) (c : Bytes) : List Event :=
  [.node n (.accept k),
    .node n (.packet k (.event (.connect { protocolName := ascii "MQTT", flags := 2, clientId := c })))]

end IotGateway.Gateway
