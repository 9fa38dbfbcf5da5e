import IotGateway.Gateway.Presence

/-!
# The registry of the nodes

The hash `iot:nodes` is written by `registerNode`, when a node joins, and by `leave`. It
never gets an expiry time. Everything else leaves it alone.
-/

namespace IotGateway.Gateway
open Text Redis Storage Protocol

def nodeRegistry (w : World) : Hash Bytes Bytes := w.redis.nodes

theorem sees_nodeRegistry : Sees nodeRegistry [.nodes] := by
  intro part other
  cases part <;> first | exact absurd (by decide) other | exact fun _ _ => rfl | exact fun _ _ _ => rfl

section Cluster

variable (n : NodeId) (c : RedisClient) (cm : ClusterManager) (w : World)

/-! ### Joining and leaving -/

theorem registerNode_connected (connected : c.connected_ = true) (addr : Bytes) (mqttPort apiPort : UInt16) :
    ∃ info, nodeRegistry (c.registerNode w n addr mqttPort apiPort).2 =
      if c.answers then (nodeRegistry w).set w.now n.text info else nodeRegistry w := by
  unfold RedisClient.registerNode
  rw [if_neg (not_not.mpr connected), cstr_of_no_nul n.no_nul]
  cases c.answers with
  | true => exact ⟨_, rfl⟩
  | false => exact ⟨[], rfl⟩

/-- A node that joins gets its field, if the connection works. -/
theorem join_registers (out : cm.joined_ = false) (connected : c.connected_ = true) :
    ∃ info, nodeRegistry (cm.join n c w).2.2 =
      if c.answers then (nodeRegistry w).set w.now n.text info else nodeRegistry w := by
  obtain ⟨info, registered⟩ :=
    registerNode_connected n c w connected cm.localNode_.addr cm.localNode_.mqttPort cm.localNode_.apiPort
  refine ⟨info, ?_⟩
  have online : c.isConnected = true := connected
  rcases ClusterManager.join_cases n c cm w with ⟨idle, -⟩ | ⟨-, same⟩
  · simp [out, online] at idle
  · rw [same]
    dsimp only
    rw [view_discoverNodes n c _ _ (Sees.blind sees_nodeRegistry rfl),
      view_sendHeartbeat n c cm _ (Sees.blind sees_nodeRegistry rfl), registered]

theorem nodes_join : nodeRegistry (cm.join n c w).2.2 = nodeRegistry w ∨
    ∃ info, nodeRegistry (cm.join n c w).2.2 = (nodeRegistry w).set w.now n.text info := by
  rcases ClusterManager.join_cases n c cm w with ⟨-, same⟩ | ⟨⟨out, connected⟩, -⟩
  · rw [same]
    exact .inl rfl
  · obtain ⟨info, registered⟩ := join_registers n c cm w out connected
    cases answers : c.answers with
    | true => exact .inr ⟨info, by rw [registered, if_pos answers]⟩
    | false => exact .inl (by rw [registered, answers]; rfl)

/-- What `leave` deletes, if the connection works. -/
theorem leave_world (junk : List Bytes) (joined : cm.joined_ = true) (connected : c.connected_ = true)
    (answers : c.answers = true) :
    let fields := ClusterManager.leaveFields n junk
    (cm.leave n c junk w).2.redis =
      { w.redis with
        nodes := w.redis.nodes.eraseAll w.now fields
        heartbeat := w.redis.heartbeat.eraseAll w.now fields } ∧
      (cm.leave n c junk w).2.now = w.now := by
  obtain ⟨nodeWords, heartbeatWords⟩ := formatWords_leave n junk
  have otherKey : ascii "iot:nodes:heartbeat" ≠ ascii "iot:nodes" := by decide
  unfold ClusterManager.leave
  simp only [joined, RedisClient.isConnected, connected, not_true, if_false, if_true, RedisClient.sendCommand, answers,
    nodeWords, heartbeatWords, otherKey, and_true, and_false]
  exact ⟨rfl, rfl⟩

theorem nodes_leave (junk : List Bytes) : nodeRegistry (cm.leave n c junk w).2 = nodeRegistry w ∨
    ∃ fields, nodeRegistry (cm.leave n c junk w).2 = (nodeRegistry w).eraseAll w.now fields := by
  rcases ClusterManager.world_leave n c junk cm w with same | ⟨⟨joined, connected, answers⟩, -⟩
  · rw [same]
    exact .inl rfl
  · exact .inr ⟨_, congrArg RedisServer.nodes (leave_world n c cm w junk joined connected answers).1⟩

end Cluster

/-! ### Runs -/

/-- The event is one that deletes fields: a node leaves. -/
def Event.leaves : Event → Bool
  | .node _ (.leave _) => true
  | .node _ (.stop _) => true
  | _ => false

theorem nodes_start (n : NodeId) (g : GatewayServer) (w : World) (reach : Reach) (mqttPort : UInt16) :
    nodeRegistry (g.start n reach mqttPort w).2 = nodeRegistry w ∨
      ∃ info, nodeRegistry (g.start n reach mqttPort w).2 = (nodeRegistry w).set w.now n.text info := by
  rcases g.world_start n reach mqttPort w with ⟨-, same⟩ | ⟨-, cm, same⟩
  · exact .inl (same ▸ view_connect g.redisClient_ w (Sees.blind sees_nodeRegistry rfl) n reach)
  · rw [same, view_subscribeRoute n _ _ (Sees.blind sees_nodeRegistry rfl),
      ← view_opened n g w (Sees.blind sees_nodeRegistry rfl) reach, ← view_opened n g w (Sees.blind sees_now rfl) reach]
    exact nodes_join n _ cm _

/-- A node that starts with Redis in reach registers itself. -/
theorem start_registers (n : NodeId) {g : GatewayServer} (w : World) {reach : Reach} (mqttPort : UInt16)
    (off : g.redisClient_.connected_ = false) (out : g.clusterMgr_.joined_ = false) (reached : reach.main = true) :
    ∃ info, nodeRegistry (g.start n reach mqttPort w).2 = (nodeRegistry w).set w.now n.text info := by
  have opened : (g.redisClient_.connect n reach w).1.connected_ = true ∧ (g.redisClient_.connect n reach w).1.answers = true := by
    unfold RedisClient.connect
    rw [off, reached]
    exact ⟨rfl, rfl⟩
  unfold GatewayServer.start RedisClient.isConnected
  simp only [opened.1, if_true]
  rw [view_subscribeRoute n _ _ (Sees.blind sees_nodeRegistry rfl),
    ← view_opened n g w (Sees.blind sees_nodeRegistry rfl) reach, ← view_opened n g w (Sees.blind sees_now rfl) reach]
  obtain ⟨info, registered⟩ := join_registers n (g.redisClient_.connect n reach w).1
    (g.clusterMgr_.init ((g.redisClient_.connect n reach w).1.initConsumerGroup (g.redisClient_.connect n reach w).2).now
      (ascii "0.0.0.0") mqttPort 8080)
    ((g.redisClient_.connect n reach w).1.initConsumerGroup (g.redisClient_.connect n reach w).2) out opened.1
  exact ⟨info, registered.trans (if_pos opened.2)⟩

theorem nodes_nodeStep (n : NodeId) (g : GatewayServer) (w : World) (e : NodeEvent) :
    nodeRegistry (g.nodeStep n w e).2 = nodeRegistry w ∨
      (∃ info, nodeRegistry (g.nodeStep n w e).2 = (nodeRegistry w).set w.now n.text info) ∨
      Event.leaves (.node n e) = true ∧
        ∃ fields, nodeRegistry (g.nodeStep n w e).2 = (nodeRegistry w).eraseAll w.now fields := by
  cases e with
  | join =>
    rcases nodes_join n g.redisClient_ g.clusterMgr_ w with same | set
    · exact .inl same
    · exact .inr (.inl set)
  | leave junk | stop junk =>
    rcases nodes_leave n g.redisClient_ g.clusterMgr_ w junk with same | erased
    · exact .inl same
    · exact .inr (.inr ⟨rfl, erased⟩)
  | _ => exact .inl (view_nodeStep n g w (Sees.blind sees_nodeRegistry rfl))

/-- What an event of the system does to the hash. -/
theorem nodes_step (s : System) (e : Event) :
    nodeRegistry (s.step e).world = nodeRegistry s.world ∨
      (∃ n info, nodeRegistry (s.step e).world = (nodeRegistry s.world).set s.world.now n info) ∨
      e.leaves = true ∧ ∃ fields, nodeRegistry (s.step e).world = (nodeRegistry s.world).eraseAll s.world.now fields := by
  cases e with
  | tick delta => exact .inl rfl
  | start n reach mqttPort =>
    simp only [System.step]
    split
    · exact .inl rfl
    · rcases nodes_start n (s.nodes n) s.world reach mqttPort with same | ⟨info, set⟩
      · exact .inl same
      · exact .inr (.inl ⟨_, info, set⟩)
  | node n event =>
    simp only [System.step]
    split
    · rcases nodes_nodeStep n (s.nodes n) s.world event with same | ⟨info, set⟩ | erased
      · exact .inl same
      · exact .inr (.inl ⟨_, info, set⟩)
      · exact .inr (.inr erased)
    · exact .inl rfl

theorem nodes_persistent_step {s : System} (persistent : (nodeRegistry s.world).expireAt = none) (e : Event) :
    (nodeRegistry (s.step e).world).expireAt = none := by
  rcases nodes_step s e with same | ⟨n, info, set⟩ | ⟨-, fields, erased⟩
  · rw [same]
    exact persistent
  · rw [set]
    exact Hash.persistent_set persistent _ _ _
  · rw [erased]
    exact Hash.persistent_eraseAll persistent _ _

theorem nodes_persistent (events : List Event) :
    (nodeRegistry (run System.step System.new events).world).expireAt = none :=
  run_kept System.step (fun s => (nodeRegistry s.world).expireAt = none) rfl (fun _ e kept => nodes_persistent_step kept e)
    events

/-- The hash has the field, and no expiry time. -/
structure KeepsField (field : Bytes) (s : System) : Prop where
  persistent : (nodeRegistry s.world).expireAt = none
  member : field ∈ (nodeRegistry s.world).fields

theorem KeepsField.step {field : Bytes} {s : System} (kept : KeepsField field s) {e : Event} (stays : e.leaves = false) :
    KeepsField field (s.step e) where
  persistent := nodes_persistent_step kept.persistent e
  member := by
    rcases nodes_step s e with same | ⟨n, info, set⟩ | ⟨leaves, -⟩
    · rw [same]
      exact kept.member
    · rw [set, Hash.mem_set, Hash.persistent_live kept.persistent]
      exact Or.inr kept.member
    · rw [stays] at leaves
      cases leaves

/-- A field stays until a node leaves. -/
theorem KeepsField.run {field : Bytes} {s : System} (kept : KeepsField field s) {events : List Event}
    (stay : ∀ e ∈ events, e.leaves = false) : KeepsField field (run System.step s events) := by
  have meets : Meets System.step (fun _ e => e.leaves = false) s events :=
    Meets.of_events System.step (fun e here _ => stay e here) s
  exact run_invariant System.step kept (fun _ _ kept stays => kept.step stays) meets

end IotGateway.Gateway
