import IotGateway.Lib.Run
import IotGateway.Lib.Changes
import IotGateway.Gateway.ClusterManager

/-!
# Notifications of node changes

`discoverNodes` compares the online nodes with `knownNodes_` and calls `nodeChangeCb_`
for every other node that came or went. Both lists may hold the id of the node itself,
which is never compared. What is left are the changes between two snapshots.
-/

namespace IotGateway.Gateway
open Text Redis Storage

namespace ClusterManager

variable (nodeId_ : NodeId)

/-- The calls of `nodeChangeCb_` by one `discoverNodes`. -/
def notifications (redis_ : RedisClient) (cm : ClusterManager) (w : World) : List (Bytes × Bool) :=
  if ¬ redis_.isConnected then []
  else
    let (newNodes, lostNodes) := cm.nodeChanges nodeId_ (redis_.getOnlineNodes w)
    newNodes.map (·, true) ++ lostNodes.map (·, false)

/-- A cluster manager with all the notifications it has given. -/
structure Discovery where
  cluster : ClusterManager := {}
  notified : List (Bytes × Bool) := []

/-- One call of `discoverNodes`, with the client and the store as they are then. -/
def Discovery.step (d : Discovery) (call : RedisClient × World) : Discovery where
  cluster := (d.cluster.discoverNodes nodeId_ call.1 call.2).1
  notified := d.notified ++ d.cluster.notifications nodeId_ call.1 call.2

def others (ids : List Bytes) : List Bytes := ids.filter (· ≠ nodeId_.text)

theorem nodup_getOnlineNodes (redis_ : RedisClient) (w : World) : (redis_.getOnlineNodes w).Nodup := by
  unfold RedisClient.getOnlineNodes
  split
  · exact AList.keys_nodup _
  · exact List.nodup_nil

theorem knownNodes_discoverNodes (redis_ : RedisClient) (cm : ClusterManager) (w : World) :
    (cm.discoverNodes nodeId_ redis_ w).1.knownNodes_ =
      if redis_.isConnected then redis_.getOnlineNodes w else cm.knownNodes_ := by
  unfold discoverNodes
  cases redis_.isConnected <;> rfl

/-- Any list without duplicates is what some store answers. -/
theorem getOnlineNodes_of_nodup {redis_ : RedisClient} (answers : redis_.answers) {snapshot : List Bytes}
    (nodup : snapshot.Nodup) : ∃ w, redis_.getOnlineNodes w = snapshot := by
  let entries : List (Σ _ : Bytes, Bytes) := snapshot.map fun id => ⟨id, ascii "1"⟩
  have keys : entries.keys = snapshot := by simp [entries, List.keys, Function.comp_def]
  let heartbeat : Hash Bytes Bytes := ⟨⟨entries, by rw [List.NodupKeys, keys]; exact nodup⟩, none, fun _ => rfl⟩
  refine ⟨⟨0, { RedisServer.new with heartbeat }, []⟩, ?_⟩
  unfold RedisClient.getOnlineNodes
  rw [if_pos answers, Hash.fieldNames, Hash.persistent_live rfl]
  exact keys

/-- The notifications are the changes between the two snapshots of the other nodes. -/
theorem notifications_eq {redis_ : RedisClient} (connected : redis_.isConnected) (cm : ClusterManager) (w : World) :
    cm.notifications nodeId_ redis_ w =
      Changes.between (others nodeId_ cm.knownNodes_) (others nodeId_ (redis_.getOnlineNodes w)) := by
  have difference : ∀ new old : List Bytes, new.filter (fun id => id ≠ nodeId_.text ∧ id ∉ old) =
      Changes.missing (others nodeId_ new) (others nodeId_ old) := by
    intro new old
    rw [Changes.missing, others.eq_1 nodeId_ new, List.filter_filter]
    apply List.filter_congr
    intro id _
    simp only [others, List.mem_filter, decide_eq_true_eq, ← Bool.decide_and]
    apply decide_eq_decide.mpr
    tauto
  unfold notifications
  rw [if_neg (not_not.mpr connected)]
  simp only [nodeChanges, difference, Changes.between]

/-- The known nodes are a snapshot, and the notifications so far describe it. -/
structure Announced (d : Discovery) : Prop where
  nodup : d.cluster.knownNodes_.Nodup
  describe : Changes.Describe d.notified (others nodeId_ d.cluster.knownNodes_)
  foreign : ∀ change ∈ d.notified, change.1 ≠ nodeId_.text

theorem announced_new : Announced nodeId_ {} where
  nodup := List.nodup_nil
  describe := Changes.describe_nil
  foreign := fun _ member => absurd member List.not_mem_nil

theorem Announced.step {nodeId_ : NodeId} {d : Discovery} (announced : Announced nodeId_ d) (call : RedisClient × World) :
    Announced nodeId_ (d.step nodeId_ call) := by
  obtain ⟨redis_, w⟩ := call
  unfold Discovery.step
  dsimp only
  by_cases connected : redis_.isConnected
  · have known := (knownNodes_discoverNodes nodeId_ redis_ d.cluster w).trans (if_pos connected)
    have nodup := nodup_getOnlineNodes redis_ w
    refine ⟨?_, ?_, ?_⟩
    · rw [known]
      exact nodup
    · rw [known, notifications_eq nodeId_ connected]
      exact announced.describe.snapshot (announced.nodup.filter _) (nodup.filter _)
    · intro change member
      rcases List.mem_append.mp member with old | new
      · exact announced.foreign change old
      · unfold notifications at new
        rw [if_neg (not_not.mpr connected)] at new
        simp only [nodeChanges, List.mem_append, List.mem_map, List.mem_filter, decide_eq_true_eq] at new
        obtain ⟨id, found, rfl⟩ | ⟨id, found, rfl⟩ := new
        · exact found.2.1
        · exact found.2.1
  · -- without a connection the call returns at once
    have unchanged : (d.cluster.discoverNodes nodeId_ redis_ w).1 = d.cluster := by
      unfold discoverNodes
      rw [if_pos connected]
    have silent : d.cluster.notifications nodeId_ redis_ w = [] := if_pos connected
    rw [unchanged, silent, List.append_nil]
    exact announced

/-- Replaying the notifications gives the known nodes without the own one. Those of each node come in turns, and the own
node has none. -/
theorem notifications_describe_known (nodeId_ : NodeId) (calls : List (RedisClient × World)) :
    let d := run (Discovery.step nodeId_) {} calls
    Changes.replay ∅ d.notified = d.cluster.knownNodes_.toFinset.erase nodeId_.text ∧
      (∀ id, Changes.InTurns (Changes.about id d.notified)) ∧ ∀ change ∈ d.notified, change.1 ≠ nodeId_.text := by
  intro d
  have announced : Announced nodeId_ d := run_kept _ _ (announced_new nodeId_) (fun _ call before => before.step call) calls
  refine ⟨?_, announced.describe.inTurns, announced.foreign⟩
  rw [announced.describe.replayed]
  ext id
  simp [others, and_comm]

end ClusterManager
end IotGateway.Gateway
