import IotGateway.Gateway.Membership
import Mathlib.Logic.Relation

/-!
# Heartbeats and failure detection

What the nodes of a cluster learn about each other goes through one hash with one time
to live. Every step of a node is a sequence of the four moves of `Presence.Move`, so
the invariants of the shared hash are proved for these moves and for the clock only.
-/

namespace IotGateway.Gateway
open Text Redis Storage Protocol
open RedisClient (kHeartbeatTtl)

namespace Presence

/-- What a node can do to the heartbeat hash, and what it can report after asking for it with the client `asker`. -/
inductive Move (n : NodeId) (asker : Option RedisClient) : Presence → Presence → Prop where
  | beat (v : Presence) :
    Move n asker v { v with
      heartbeat := (v.heartbeat.set v.now n.text (ascii "1")).expire v.now kHeartbeatTtl
      log := .heartbeat n v.now :: v.log }
  | leave (v : Presence) (junk : List Bytes) :
    Move n asker v { v with
      heartbeat := v.heartbeat.eraseAll v.now (ClusterManager.leaveFields n junk)
      log := .leave n (ClusterManager.leaveFields n junk) :: v.log }
  | lost (v : Presence) (reported : Bytes) {c : RedisClient} (asked : asker = some c) (connected : c.connected_ = true)
    (missing : c.answers = true → reported ∉ v.heartbeat.fieldNames v.now) :
    Move n asker v { v with log := .lost n reported v.now c.answers :: v.log }
  | failed (v : Presence) (reported : Bytes) {c : RedisClient} (asked : asker = some c) (connected : c.connected_ = true)
    (missing : c.answers = true → reported ∉ v.heartbeat.fieldNames v.now) :
    Move n asker v { v with log := .failed n reported v.now c.answers :: v.log }

abbrev Moves (n : NodeId) (asker : Option RedisClient) : Presence → Presence → Prop := Relation.ReflTransGen (Move n asker)

section Moves

variable {n : NodeId} {asker : Option RedisClient} {v v' : Presence}

theorem Moves.of_eq (same : v' = v) : Moves n asker v v' := same ▸ .refl

theorem Moves.invariant {inv : Presence → Prop} (kept : ∀ v v', Move n asker v v' → inv v → inv v')
    (path : Moves n asker v v') (holds : inv v) : inv v' := by
  induction path with
  | refl => exact holds
  | tail _ move ih => exact kept _ _ move ih

end Moves
end Presence

open Presence

section Cluster

variable (n : NodeId) {asker : Option RedisClient} (c : RedisClient) (cm : ClusterManager) (w : World)

theorem moves_sendNodeHeartbeat : Moves n asker (presence w) (presence (c.sendNodeHeartbeat w n).2) := by
  unfold RedisClient.sendNodeHeartbeat
  split
  · exact .refl
  · split
    · have beats : Move n asker (presence w) _ := .beat (presence w)
      rw [cstr_of_no_nul n.no_nul]
      exact .single beats
    · exact .refl

theorem moves_sendHeartbeat : Moves n asker (presence w) (presence (cm.sendHeartbeat n c w).2.2) := by
  unfold ClusterManager.sendHeartbeat
  split
  · exact .refl
  · exact moves_sendNodeHeartbeat n c w

theorem moves_reports (report : Bytes → Nat → Action) (ids : List Bytes)
    (moves : ∀ w id, (c.answers = true → id ∉ w.redis.heartbeat.fieldNames w.now) →
      Move n asker (presence w) (presence (w.record (report id w.now))))
    (missing : ∀ id ∈ ids, c.answers = true → id ∉ w.redis.heartbeat.fieldNames w.now) :
    Moves n asker (presence w) (presence (ids.foldl (fun w id => w.record (report id w.now)) w)) := by
  induction ids generalizing w with
  | nil => exact .refl
  | cons id ids ih =>
    have first := moves w id (missing id List.mem_cons_self)
    exact .head first (ih (w.record _) fun other member => missing other (List.mem_cons_of_mem _ member))

theorem not_mem_online {id : Bytes} (absent : id ∉ c.getOnlineNodes w) (answered : c.answers = true) :
    id ∉ w.redis.heartbeat.fieldNames w.now := by
  simpa [RedisClient.getOnlineNodes, answered] using absent

theorem moves_discoverNodes : Moves n (some c) (presence w) (presence (cm.discoverNodes n c w).2) := by
  unfold ClusterManager.discoverNodes
  split
  · exact .refl
  · rename_i connected
    refine moves_reports n c w (.lost n · · c.answers) _
      (fun w id missing => .lost (presence w) id rfl (not_not.mp connected) missing) ?_
    intro id member
    simp only [ClusterManager.nodeChanges, List.mem_filter, decide_eq_true_eq] at member
    exact not_mem_online c w member.2.2

theorem moves_failureDetection (junk : List Bytes) :
    Moves n (some c) (presence w) (presence (cm.failureDetection n c junk w).2) := by
  unfold ClusterManager.failureDetection
  dsimp only
  have failed : Moves n (some c) (presence w) (presence ((cm.detectFailedNodes n c w).foldl
      (fun w id => w.record (.failed n id w.now c.answers)) w)) := by
    cases connected : c.connected_ with
    | false =>
      rw [ClusterManager.detectFailedNodes, if_pos (by simp [RedisClient.isConnected, connected])]
      exact .refl
    | true =>
      refine moves_reports n c w (.failed n · · c.answers) _
        (fun w id missing => .failed (presence w) id rfl connected missing) ?_
      intro id member
      obtain ⟨-, -, -, missing⟩ := (ClusterManager.mem_detectFailedNodes n c).mp member
      exact not_mem_online c w missing
  refine failed.trans (.trans (Moves.of_eq ?_) (moves_discoverNodes n c cm _))
  exact view_foldl presence (fun w id => congrArg presence (world_claimPendingMessages c w junk id)) _ _

theorem formatWords_leave (junk : List Bytes) :
    RedisClient.formatWords junk (cstr (ascii "HDEL iot:nodes " ++ n.text)) [] =
        ascii "HDEL" :: ascii "iot:nodes" :: ClusterManager.leaveFields n junk ∧
      RedisClient.formatWords junk (cstr (ascii "HDEL iot:nodes:heartbeat " ++ n.text)) [] =
        ascii "HDEL" :: ascii "iot:nodes:heartbeat" :: ClusterManager.leaveFields n junk := by
  rw [cstr_append (by decide), cstr_append (by decide), cstr_of_no_nul n.no_nul]
  exact ⟨rfl, rfl⟩

theorem moves_leave (junk : List Bytes) : Moves n asker (presence w) (presence (cm.leave n c junk w).2) := by
  obtain ⟨nodeWords, heartbeatWords⟩ := formatWords_leave n junk
  rcases ClusterManager.world_leave n c junk cm w with same | ⟨⟨-, -, answers⟩, same⟩
  · rw [same]
  · have otherKey : ascii "iot:nodes:heartbeat" ≠ ascii "iot:nodes" := by decide
    have leaves : Move n asker (presence w) _ := .leave (presence w) junk
    refine .single ?_
    rw [same]
    simp only [RedisClient.sendCommand, answers, nodeWords, heartbeatWords, otherKey, if_true, and_true, and_false, if_false]
    exact leaves

theorem moves_join : Moves n (some c) (presence w) (presence (cm.join n c w).2.2) := by
  have registered := view_registerNode c w (Sees.blind sees_presence rfl) n cm.localNode_.addr cm.localNode_.mqttPort
    cm.localNode_.apiPort
  rcases ClusterManager.join_cases n c cm w with ⟨-, same⟩ | ⟨-, same⟩
  · rw [same]
  · rw [same]
    exact .trans (Moves.of_eq registered) (.trans (moves_sendHeartbeat n c cm _) (moves_discoverNodes n c _ _))

end Cluster

/-! ### Steps of a node -/

section Node

variable (n : NodeId) (g : GatewayServer) (w : World)

theorem moves_start (reach : Reach) (mqttPort : UInt16) :
    Moves n (some (g.redisClient_.connect n reach w).1) (presence w) (presence (g.start n reach mqttPort w).2) := by
  have connected := view_connect g.redisClient_ w (Sees.blind sees_presence rfl) n reach
  rcases g.world_start n reach mqttPort w with ⟨-, same⟩ | ⟨-, cm, same⟩
  · rw [same]
    exact Moves.of_eq connected
  · have grouped :=
      (view_initConsumerGroup (g.redisClient_.connect n reach w).1 _ (Sees.blind sees_presence rfl)).trans connected
    rw [same, view_subscribeRoute n _ _ (Sees.blind sees_presence rfl)]
    exact .trans (Moves.of_eq grouped) (moves_join n _ cm _)

theorem moves_stop {asker : Option RedisClient} (junk : List Bytes) : Moves n asker (presence w) (presence (g.stop n junk w).2) :=
  (moves_leave n g.redisClient_ g.clusterMgr_ w junk).trans
    (Moves.of_eq (view_disconnect _ (Sees.blind sees_presence rfl) n))

/-- The client with which an event asks for the heartbeats. -/
def NodeEvent.asker (c : RedisClient) : NodeEvent → Option RedisClient
  | .join | .discoverNodes | .failureDetection _ => some c
  | _ => none

theorem moves_nodeStep (e : NodeEvent) :
    Moves n (e.asker g.redisClient_) (presence w) (presence (g.nodeStep n w e).2) := by
  cases e with
  | join => exact moves_join n g.redisClient_ g.clusterMgr_ w
  | sendHeartbeat => exact moves_sendHeartbeat n g.redisClient_ g.clusterMgr_ w
  | discoverNodes => exact moves_discoverNodes n g.redisClient_ g.clusterMgr_ w
  | failureDetection junk => exact moves_failureDetection n g.redisClient_ g.clusterMgr_ w junk
  | leave junk => exact moves_leave n g.redisClient_ g.clusterMgr_ w junk
  | stop junk => exact moves_stop n g w junk
  | _ => exact Moves.of_eq (view_nodeStep n g w (Sees.blind sees_presence rfl))

end Node

/-- The client with which a step asks for the heartbeats. -/
def System.asker (s : System) : Event → Option RedisClient
  | .start n reach _ => if (s.nodes n).running_ then none else some ((s.nodes n).redisClient_.connect n reach s.world).1
  | .node n e => e.asker (s.nodes n).redisClient_
  | .tick _ => none

/-- A step of the system lets time pass, or is a sequence of moves of the node it happens at. -/
theorem presence_step (s : System) (e : Event) :
    (∃ delta, presence (s.step e).world = { presence s.world with now := s.world.now + delta }) ∨
      ∃ n, e.at? = some n ∧ Moves n (s.asker e) (presence s.world) (presence (s.step e).world) := by
  cases e with
  | tick delta => exact Or.inl ⟨delta, rfl⟩
  | start n reach mqttPort =>
    refine Or.inr ⟨n, rfl, ?_⟩
    simp only [System.step, System.asker]
    split
    · exact .refl
    · exact moves_start n (s.nodes n) s.world reach mqttPort
  | node n e =>
    refine Or.inr ⟨n, rfl, ?_⟩
    simp only [System.step]
    split
    · exact moves_nodeStep n (s.nodes n) s.world e
    · exact .refl

/-- An invariant of presence that time and the moves of admitted nodes and clients keep holds along every run of such
nodes and clients. -/
theorem presence_invariant (inv : Presence → Prop) (admitted : NodeId → Option RedisClient → Prop)
    (initially : inv (presence System.new.world)) (ticks : ∀ v delta, inv v → inv { v with now := v.now + delta })
    (moves : ∀ n asker v v', admitted n asker → Move n asker v v' → inv v → inv v') {events : List Event}
    (meets : Meets System.step (fun s e => ∀ n, e.at? = some n → admitted n (s.asker e)) System.new events) :
    inv (presence (run System.step System.new events).world) := by
  let holds (s : System) : Prop := inv (presence s.world)
  have kept : ∀ s e, holds s → (∀ n, e.at? = some n → admitted n (s.asker e)) → holds (s.step e) := by
    intro s e before admits
    rcases presence_step s e with ⟨delta, later⟩ | ⟨n, here, path⟩
    · change inv _
      rw [later]
      exact ticks _ delta before
    · exact path.invariant (fun v v' move => moves n _ v v' (admits n here) move) before
  exact run_invariant System.step (show holds System.new from initially) kept meets

end IotGateway.Gateway
