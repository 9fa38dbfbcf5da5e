import IotGateway.Gateway.NodeChanges
import IotGateway.Gateway.System

/-!
# Cluster statistics

`getStats` adds one for the node itself to the length of `knownNodes_`, as if these were
the other nodes. `discoverNodes` fills `knownNodes_` with all fields of the heartbeat hash,
and after the heartbeat of `join` the node itself is one of them.
-/

namespace IotGateway.Gateway
open Text Redis Storage

namespace ClusterManager

variable (n : NodeId)

/-- The distinct ids in the heartbeat hash, this node included. -/
def clusterIds (w : World) : Finset Bytes := insert n.text (w.redis.heartbeat.fieldNames w.now).toFinset

structure CountsOnce (w : World) (stats : ClusterStats) : Prop where
  totalNodes : stats.totalNodes = (clusterIds n w).card
  onlineNodes : stats.onlineNodes = (clusterIds n w).card

theorem countsOnce_iff {c : RedisClient} {cm : ClusterManager} {w : World} (connected : c.isConnected = true)
    (joined : cm.joined_ = true) :
    CountsOnce n w (cm.getStats c w) ↔ cm.knownNodes_.length + 1 = (clusterIds n w).card := by
  have counted : (cm.getStats c w).totalNodes = cm.knownNodes_.length + 1 ∧
      (cm.getStats c w).onlineNodes = cm.knownNodes_.length + 1 := by
    simp [getStats, connected, joined]
  constructor
  · intro once
    exact counted.1.symm.trans once.totalNodes
  · intro same
    exact ⟨counted.1.trans same, counted.2.trans same⟩

/-! ### The count of a snapshot -/

variable {n} {c : RedisClient} {w : World}

/-- An answered snapshot with the node itself in it counts one node too many. -/
theorem length_of_listed (answers : c.answers = true) (listed : n.text ∈ w.redis.heartbeat.fieldNames w.now) :
    (c.getOnlineNodes w).length = (clusterIds n w).card := by
  have snapshot : c.getOnlineNodes w = w.redis.heartbeat.fieldNames w.now := if_pos answers
  have nodup := nodup_getOnlineNodes c w
  rw [clusterIds, Finset.insert_eq_of_mem (List.mem_toFinset.mpr listed), ← snapshot]
  exact (List.toFinset_card_of_nodup nodup).symm

theorem length_of_unlisted (answers : c.answers = true) (unlisted : n.text ∉ w.redis.heartbeat.fieldNames w.now) :
    (c.getOnlineNodes w).length + 1 = (clusterIds n w).card := by
  have snapshot : c.getOnlineNodes w = w.redis.heartbeat.fieldNames w.now := if_pos answers
  have nodup := nodup_getOnlineNodes c w
  have others : n.text ∉ (w.redis.heartbeat.fieldNames w.now).toFinset := by rwa [List.mem_toFinset]
  rw [clusterIds, Finset.card_insert_of_notMem others, ← snapshot, List.toFinset_card_of_nodup nodup]

theorem card_clusterIds_eq_one :
    1 = (clusterIds n w).card ↔ ∀ id ∈ w.redis.heartbeat.fieldNames w.now, id = n.text := by
  have own : n.text ∈ clusterIds n w := Finset.mem_insert_self _ _
  constructor
  · intro one id listed
    obtain ⟨only, single⟩ := Finset.card_eq_one.mp one.symm
    have other : id ∈ clusterIds n w := Finset.mem_insert_of_mem (List.mem_toFinset.mpr listed)
    rw [single, Finset.mem_singleton] at own other
    exact other.trans own.symm
  · intro alone
    have single : clusterIds n w = {n.text} := by
      apply Finset.eq_singleton_iff_unique_mem.mpr
      refine ⟨own, ?_⟩
      intro id member
      rcases Finset.mem_insert.mp member with same | listed
      · exact same
      · exact alone id (List.mem_toFinset.mp listed)
    rw [single, Finset.card_singleton]

/-- When a snapshot makes the statistics right. Without an answer it is empty. -/
def Countable (n : NodeId) (c : RedisClient) (w : World) : Prop :=
  if c.answers then n.text ∉ w.redis.heartbeat.fieldNames w.now
  else ∀ id ∈ w.redis.heartbeat.fieldNames w.now, id = n.text

instance : Decidable (Countable n c w) := by
  unfold Countable
  infer_instance

theorem snapshot_counts_once_iff {cm : ClusterManager} (connected : c.isConnected = true) (joined : cm.joined_ = true)
    (snapshot : cm.knownNodes_ = c.getOnlineNodes w) : CountsOnce n w (cm.getStats c w) ↔ Countable n c w := by
  rw [countsOnce_iff n connected joined, snapshot, Countable]
  cases answers : c.answers with
  | false =>
    have empty : c.getOnlineNodes w = [] := if_neg (by simp [answers])
    rw [empty]
    exact card_clusterIds_eq_one
  | true =>
    by_cases listed : n.text ∈ w.redis.heartbeat.fieldNames w.now
    · rw [length_of_listed answers listed]
      simp [listed]
    · rw [length_of_unlisted answers listed]
      simp [listed]

/-! ### The calls that take a snapshot -/

variable (n c w)

/-- A discovery leaves the clock and the store as they are. -/
theorem store_discoverNodes (cm : ClusterManager) :
    (cm.discoverNodes n c w).2.now = w.now ∧ (cm.discoverNodes n c w).2.redis = w.redis := by
  unfold discoverNodes
  split
  · exact ⟨rfl, rfl⟩
  · dsimp only
    generalize (cm.nodeChanges n (c.getOnlineNodes w)).2 = lostNodes
    induction lostNodes generalizing w with
    | nil => exact ⟨rfl, rfl⟩
    | cons id lostNodes ih => exact ih (w.record (.lost n id w.now c.answers))

theorem joined_discoverNodes (cm : ClusterManager) : (cm.discoverNodes n c w).1.joined_ = cm.joined_ := by
  unfold discoverNodes
  split <;> rfl

theorem countable_congr {n : NodeId} {c : RedisClient} {w w' : World} (now : w'.now = w.now)
    (redis : w'.redis = w.redis) : Countable n c w' ↔ Countable n c w := by
  unfold Countable
  rw [now, redis]

/-- Whatever flags are set after the snapshot of a discovery. -/
theorem discovery_counts_once_iff (cm : ClusterManager) {after : ClusterManager} (connected : c.isConnected = true)
    (joined : after.joined_ = true) (known : after.knownNodes_ = (cm.discoverNodes n c w).1.knownNodes_) :
    CountsOnce n (cm.discoverNodes n c w).2 (after.getStats c (cm.discoverNodes n c w).2) ↔ Countable n c w := by
  obtain ⟨now, redis⟩ := store_discoverNodes n c w cm
  rw [← countable_congr now redis]
  apply snapshot_counts_once_iff connected joined
  rw [known, knownNodes_discoverNodes, if_pos connected]
  unfold RedisClient.getOnlineNodes
  rw [now, redis]

/-- The heartbeat of `join` stores the id of the node before the discovery reads the hash. -/
theorem join_discovers (cm : ClusterManager) (connected : c.isConnected = true) (apart : cm.joined_ = false) :
    ∃ (before : ClusterManager) (w' : World),
      (cm.join n c w).2.1.joined_ = true ∧
      (cm.join n c w).2.1.knownNodes_ = (before.discoverNodes n c w').1.knownNodes_ ∧
      (cm.join n c w).2.2 = (before.discoverNodes n c w').2 ∧ w'.now = w.now ∧
      w'.redis.heartbeat =
        if c.answers then (w.redis.heartbeat.set w.now n.text (ascii "1")).expire w.now RedisClient.kHeartbeatTtl
        else w.redis.heartbeat := by
  have online : c.connected_ = true := connected
  have name : cstr n.text = n.text := cstr_of_no_nul n.no_nul
  rcases join_cases n c cm w with ⟨idle, -⟩ | ⟨-, same⟩
  · simp [apart, connected] at idle
  · rw [same]
    refine ⟨_, _, rfl, rfl, rfl, ?_⟩
    unfold sendHeartbeat RedisClient.sendNodeHeartbeat RedisClient.registerNode
    cases answers : c.answers <;> simp only [connected, online, name] <;> exact ⟨rfl, rfl⟩

/-- After `join` the own heartbeat is in the hash, unless the store could not be reached. -/
theorem join_counts_once_iff (cm : ClusterManager) (connected : c.isConnected = true) (apart : cm.joined_ = false) :
    CountsOnce n (cm.join n c w).2.2 ((cm.join n c w).2.1.getStats c (cm.join n c w).2.2) ↔
      c.answers = false ∧ ∀ id ∈ w.redis.heartbeat.fieldNames w.now, id = n.text := by
  obtain ⟨before, w', joined, known, store, now, heartbeat⟩ := join_discovers n c w cm connected apart
  rw [store, discovery_counts_once_iff n c w' before connected joined known, Countable, now, heartbeat]
  cases answers : c.answers with
  | false => simp
  | true =>
    let stored := (w.redis.heartbeat.set w.now n.text (ascii "1")).expire w.now RedisClient.kHeartbeatTtl
    have alive : stored.expired w.now = false := by
      simp [stored, Hash.expired, Hash.expireAt_set_expire]
    have listed : n.text ∈ stored.fieldNames w.now :=
      Hash.mem_fieldNames.mpr ⟨alive, Hash.mem_set_expire.mpr (Or.inl rfl)⟩
    simp [stored, listed]

/-- Right after a `join` or a later `discoverNodes`, the statistics count every node of the heartbeat hash once exactly
when the node itself is not in it, or when the store could not be reached and no other node is. -/
theorem stats_count_nodes_once_iff (n : NodeId) (c : RedisClient) (connected : c.isConnected = true)
    (cm : ClusterManager) (w : World) :
    (cm.joined_ = false →
      (CountsOnce n (cm.join n c w).2.2 ((cm.join n c w).2.1.getStats c (cm.join n c w).2.2) ↔
        c.answers = false ∧ ∀ id ∈ w.redis.heartbeat.fieldNames w.now, id = n.text)) ∧
    (cm.joined_ = true →
      (CountsOnce n (cm.discoverNodes n c w).2
          ((cm.discoverNodes n c w).1.getStats c (cm.discoverNodes n c w).2) ↔
        Countable n c w)) := by
  constructor
  · intro apart
    exact join_counts_once_iff n c w cm connected apart
  · intro joined
    apply discovery_counts_once_iff n c w cm connected _ rfl
    rw [joined_discoverNodes]
    exact joined

def linkedClient : RedisClient := { connected_ := true, conn_ := some .up }

/-- The first node of a cluster counts itself twice. -/
theorem first_node_counted_twice :
    let (_, cm, w) := ({} : ClusterManager).join gateway1 linkedClient ⟨0, .new, []⟩
    w.redis.heartbeat.fieldNames w.now = [gateway1.text] ∧ (cm.getStats linkedClient w).totalNodes = 2 ∧
      (cm.getStats linkedClient w).onlineNodes = 2 ∧ ¬ CountsOnce gateway1 w (cm.getStats linkedClient w) := by
  refine ⟨by decide, by decide, by decide, ?_⟩
  intro once
  exact absurd once.totalNodes (by decide)

/-- A node whose own heartbeat has lapsed, while the hash lists another node. -/
theorem lapsed_node_counted_once :
    let w : World := ⟨0, { RedisServer.new with heartbeat := Hash.empty.set 0 gateway2.text (ascii "1") }, []⟩
    let (cm, after) := ({ joined_ := true } : ClusterManager).discoverNodes gateway1 linkedClient w
    CountsOnce gateway1 after (cm.getStats linkedClient after) :=
  ((stats_count_nodes_once_iff gateway1 linkedClient rfl { joined_ := true } _).2 rfl).mpr (by decide)

end ClusterManager
end IotGateway.Gateway
