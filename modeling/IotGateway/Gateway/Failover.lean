import IotGateway.Gateway.Membership
import IotGateway.Gateway.NodeChanges

/-!
# Failover of lost nodes

The timer of `startFailureDetection` asks for the online nodes twice. Nodes missing in the
first answer are failed over; then `discoverNodes` asks again and drops those missing in the
second answer from `knownNodes_`. The store may change in between, so the timer step is cut
into its Redis commands here.
-/

namespace IotGateway.Gateway
open Text Storage

/-- A timer step that is going on. -/
structure Scan where
  /-- The answer to the first `HGETALL`. -/
  aliveNodes : List Bytes
  /-- What `detectFailedNodes` returned. -/
  failed : List Bytes
  /-- The calls of `claimPendingMessages` so far, and those to come. -/
  claimed : List Bytes
  left : List Bytes

/-- A timer step that is over, with the other nodes it removed from `knownNodes_`. -/
structure Loss where
  removed : List Bytes
  failed : List Bytes
  claimed : List Bytes

/-- Every removed node was failed over, once. -/
def Loss.Covered (loss : Loss) : Prop := ∀ id ∈ loss.removed, id ∈ loss.failed ∧ loss.claimed.count id = 1

instance (loss : Loss) : Decidable loss.Covered := inferInstanceAs (Decidable (∀ id ∈ loss.removed, _))

structure Failover where
  node : GatewayServer := {}
  world : World := ⟨0, .new, []⟩
  scan : Option Scan := none
  losses : List Loss := []

inductive FailoverEvent where
  /-- The clock, the expiry of keys and the commands of other nodes, between two commands of this one. -/
  | others (change : World → World)
  | linkDown
  | start (reach : Reach) (mqttPort : UInt16)
  | node (event : NodeEvent)
  | detect
  | claim (junk : List Bytes)
  | refresh

/-- The timer step as one event, which is cut into its commands here. -/
def NodeEvent.isFailureDetection : NodeEvent → Bool
  | .failureDetection _ => true
  | _ => false

namespace Failover

variable (n : NodeId)

def detect (s : Failover) : Failover :=
  let cluster := s.node.clusterMgr_
  let client := s.node.redisClient_
  let failed := cluster.detectFailedNodes n client s.world
  { s with
    world := failed.foldl (fun w id => w.record (.failed n id w.now client.answers)) s.world
    scan := some ⟨client.getOnlineNodes s.world, failed, [], failed⟩ }

def claim (s : Failover) (junk : List Bytes) (scan : Scan) (id : Bytes) (left : List Bytes) : Failover :=
  { s with
    world := (ClusterManager.claimPendingMessages s.node.redisClient_ junk s.world id).2
    scan := some { scan with claimed := scan.claimed ++ [id], left } }

/-- The other nodes that a discovery at this moment drops from `knownNodes_`. -/
def removed (s : Failover) : List Bytes :=
  let after := (s.node.clusterMgr_.discoverNodes n s.node.redisClient_ s.world).1
  s.node.clusterMgr_.knownNodes_.filter fun id => id ≠ n.text ∧ id ∉ after.knownNodes_

def refresh (s : Failover) (scan : Scan) : Failover :=
  let (clusterMgr_, world) := s.node.clusterMgr_.discoverNodes n s.node.redisClient_ s.world
  { node := { s.node with clusterMgr_ }
    world
    scan := none
    losses := ⟨s.removed n, scan.failed, scan.claimed⟩ :: s.losses }

/-- The node does one thing at a time: between the commands of a timer step it does nothing else. -/
def step (s : Failover) : FailoverEvent → Failover
  | .others change => { s with world := change s.world }
  | .linkDown =>
    let client := s.node.redisClient_
    { s with node := { s.node with redisClient_ := { client with conn_ := client.conn_.map fun _ => .broken } } }
  | .start reach mqttPort =>
    if s.scan.isSome ∨ s.node.running_ then s
    else
      let (node, world) := s.node.start n reach mqttPort s.world
      { s with node, world }
  | .node event =>
    if s.scan.isSome ∨ s.node.running_ = false ∨ event.isFailureDetection then s
    else
      let (node, world) := s.node.nodeStep n s.world event
      { s with node, world }
  | .detect => if s.scan.isSome ∨ s.node.running_ = false then s else s.detect n
  | .claim junk =>
    match s.scan with
    | none => s
    | some scan =>
      match scan.left with
      | [] => s
      | id :: left => s.claim junk scan id left
  | .refresh =>
    match s.scan with
    | none => s
    | some scan => if scan.left = [] then s.refresh n scan else s

/-! ### The timer step as one event -/

theorem run_claims (s : Failover) (junk : List Bytes) (scan : Scan) (found : s.scan = some scan) :
    run (step n) s (scan.left.map fun _ => .claim junk) =
      { s with
        world := scan.left.foldl
          (fun w id => (ClusterManager.claimPendingMessages s.node.redisClient_ junk w id).2) s.world
        scan := some { scan with claimed := scan.claimed ++ scan.left, left := [] } } := by
  obtain ⟨aliveNodes, failed, claimed, left⟩ := scan
  induction left generalizing s claimed with
  | nil =>
    rw [List.append_nil]
    rw [← found]
    rfl
  | cons id left ih =>
    have first : s.step n (.claim junk) = s.claim junk ⟨aliveNodes, failed, claimed, id :: left⟩ id left := by
      simp only [step, found]
    rw [List.map_cons, run_cons, first, ih _ (claimed ++ [id]) rfl, List.append_assoc]
    rfl

/-- With nothing in between, the commands of a timer step are `failureDetection`. -/
theorem run_failureDetection (s : Failover) (junk : List Bytes) (idle : s.scan = none) (running : s.node.running_ = true) :
    let failed := s.node.clusterMgr_.detectFailedNodes n s.node.redisClient_ s.world
    let after := run (step n) s (.detect :: failed.map (fun _ => .claim junk) ++ [.refresh])
    (after.node, after.world) = s.node.nodeStep n s.world (.failureDetection junk) := by
  have first : s.step n .detect = s.detect n := by simp [step, idle, running]
  dsimp only
  rw [List.cons_append, run_cons, first, run_append]
  rw [show s.node.clusterMgr_.detectFailedNodes n s.node.redisClient_ s.world =
    (Scan.mk (s.node.redisClient_.getOnlineNodes s.world)
      (s.node.clusterMgr_.detectFailedNodes n s.node.redisClient_ s.world) []
      (s.node.clusterMgr_.detectFailedNodes n s.node.redisClient_ s.world)).left from rfl]
  rw [run_claims n (s.detect n) junk _ rfl]
  rfl

/-! ### The known nodes -/

section Known

variable {n : NodeId}

theorem nodup_discoverNodes {cm : ClusterManager} (nodup : cm.knownNodes_.Nodup) (c : RedisClient) (w : World) :
    (cm.discoverNodes n c w).1.knownNodes_.Nodup := by
  rw [ClusterManager.knownNodes_discoverNodes]
  split
  · exact ClusterManager.nodup_getOnlineNodes c w
  · exact nodup

theorem knownNodes_sendHeartbeat (cm : ClusterManager) (c : RedisClient) (w : World) :
    (cm.sendHeartbeat n c w).2.1.knownNodes_ = cm.knownNodes_ := by
  unfold ClusterManager.sendHeartbeat
  split <;> rfl

theorem nodup_join {cm : ClusterManager} (nodup : cm.knownNodes_.Nodup) (c : RedisClient) (w : World) :
    (cm.join n c w).2.1.knownNodes_.Nodup := by
  rcases ClusterManager.join_cases n c cm w with ⟨-, same⟩ | ⟨-, same⟩
  · rw [same]
    exact nodup
  · rw [same]
    apply nodup_discoverNodes
    rw [knownNodes_sendHeartbeat]
    exact nodup

theorem nodup_start {g : GatewayServer} (nodup : g.clusterMgr_.knownNodes_.Nodup) (reach : Reach) (mqttPort : UInt16)
    (w : World) : (g.start n reach mqttPort w).1.clusterMgr_.knownNodes_.Nodup := by
  unfold GatewayServer.start
  dsimp only
  split
  · dsimp only
    obtain ⟨heartbeat, detection, timers⟩ := timers_set _
    rw [timers]
    refine nodup_join ?_ _ _
    exact nodup
  · exact nodup

theorem nodup_nodeStep {g : GatewayServer} (nodup : g.clusterMgr_.knownNodes_.Nodup) (running : g.running_ = true)
    (w : World) (e : NodeEvent) : (g.nodeStep n w e).1.clusterMgr_.knownNodes_.Nodup := by
  rcases seat_nodeStep n g w running e with ended | ⟨devices, consumed, moved⟩
  · rw [ended]
    exact List.nodup_nil
  · rw [show (g.nodeStep n w e).1.clusterMgr_ = _ from congrArg (fun s => s.2.2) moved]
    cases e with
    | join => exact nodup_join nodup _ _
    | sendHeartbeat => exact (knownNodes_sendHeartbeat _ _ _).symm ▸ nodup
    | discoverNodes => exact nodup_discoverNodes nodup _ _
    | failureDetection junk => exact nodup_discoverNodes nodup _ _
    | leave junk =>
      simp only [seatAfter, ClusterManager.leave]
      split <;> exact nodup
    | _ => exact nodup

end Known

/-! ### What a timer step covers -/

/-- No other known node that is in the first answer is missing in the second. -/
def Steady (s : Failover) : FailoverEvent → Prop
  | .refresh => ∀ scan ∈ s.scan, scan.left = [] → s.node.redisClient_.isConnected = true →
    ∀ id ∈ s.node.clusterMgr_.knownNodes_, id ≠ n.text → id ∈ scan.aliveNodes →
      id ∈ s.node.redisClient_.getOnlineNodes s.world
  | _ => True

structure Scanning (s : Failover) : Prop where
  nodup : s.node.clusterMgr_.knownNodes_.Nodup
  distinct : ∀ scan ∈ s.scan, scan.failed.Nodup
  split : ∀ scan ∈ s.scan, scan.failed = scan.claimed ++ scan.left
  failed : ∀ scan ∈ s.scan, s.node.redisClient_.isConnected = true → ∀ id, id ∈ scan.failed ↔
    id ∈ s.node.clusterMgr_.knownNodes_ ∧ id ≠ n.text ∧ id ∉ scan.aliveNodes

theorem scanning_new : Scanning n {} where
  nodup := List.nodup_nil
  distinct := fun _ none => by cases none
  split := fun _ none => by cases none
  failed := fun _ none => by cases none

variable {n}

theorem Scanning.idle {s : Failover} {node : GatewayServer} {world : World} (idle : ¬ s.scan.isSome = true)
    (nodup : node.clusterMgr_.knownNodes_.Nodup) : Scanning n { s with node, world } := by
  have none : s.scan = none := by simpa using idle
  refine ⟨nodup, ?_, ?_, ?_⟩ <;>
  · intro scan found
    rw [none] at found
    cases found

theorem Scanning.detect {s : Failover} (scanning : Scanning n s) : Scanning n (s.detect n) where
  nodup := scanning.nodup
  distinct := by
    intro scan found
    cases found
    exact ClusterManager.nodup_detectFailedNodes n _ _ scanning.nodup
  split := by
    intro scan found
    cases found
    exact (List.nil_append _).symm
  failed := by
    intro scan found connected id
    cases found
    have online : s.node.redisClient_.isConnected = true := connected
    simp [ClusterManager.mem_detectFailedNodes, Failover.detect, online]

theorem Scanning.claim {s : Failover} (scanning : Scanning n s) (junk : List Bytes) {scan : Scan} {id : Bytes}
    {left : List Bytes} (found : s.scan = some scan) (next : scan.left = id :: left) :
    Scanning n (s.claim junk scan id left) where
  nodup := scanning.nodup
  distinct := by
    intro _ same
    cases same
    exact scanning.distinct scan found
  split := by
    intro _ same
    cases same
    rw [scanning.split scan found, next, List.append_assoc]
    rfl
  failed := by
    intro _ same
    cases same
    exact scanning.failed scan found

theorem Scanning.step {s : Failover} (scanning : Scanning n s) (e : FailoverEvent) : Scanning n (s.step n e) := by
  cases e with
  | others change => exact ⟨scanning.nodup, scanning.distinct, scanning.split, scanning.failed⟩
  | linkDown => exact ⟨scanning.nodup, scanning.distinct, scanning.split, scanning.failed⟩
  | start reach mqttPort =>
    simp only [Failover.step]
    split
    · exact scanning
    · rename_i free
      exact Scanning.idle (fun busy => free (Or.inl busy)) (nodup_start scanning.nodup _ _ _)
  | node event =>
    simp only [Failover.step]
    split
    · exact scanning
    · rename_i free
      have running : s.node.running_ = true := by
        by_contra stopped
        exact free (Or.inr (Or.inl (by simpa using stopped)))
      exact Scanning.idle (fun busy => free (Or.inl busy)) (nodup_nodeStep scanning.nodup running _ _)
  | detect =>
    simp only [Failover.step]
    split
    · exact scanning
    · exact scanning.detect
  | claim junk =>
    simp only [Failover.step]
    split
    · exact scanning
    · rename_i scan found
      split
      · exact scanning
      · rename_i id left next
        exact scanning.claim junk found next
  | refresh =>
    simp only [Failover.step]
    split
    · exact scanning
    · split
      · refine ⟨nodup_discoverNodes scanning.nodup _ _, ?_, ?_, ?_⟩ <;>
        · intro _ none
          cases none
      · exact scanning

theorem mem_removed {s : Failover} (connected : s.node.redisClient_.isConnected = true) (id : Bytes) :
    id ∈ s.removed n ↔ id ∈ s.node.clusterMgr_.knownNodes_ ∧ id ≠ n.text ∧
      id ∉ s.node.redisClient_.getOnlineNodes s.world := by
  have known := (ClusterManager.knownNodes_discoverNodes n s.node.redisClient_ s.node.clusterMgr_ s.world).trans
    (if_pos connected)
  simp [removed, known]

theorem removed_disconnected {s : Failover} (connected : ¬ s.node.redisClient_.isConnected = true) : s.removed n = [] := by
  have known := (ClusterManager.knownNodes_discoverNodes n s.node.redisClient_ s.node.clusterMgr_ s.world).trans
    (if_neg connected)
  apply List.filter_eq_nil_iff.mpr
  intro id member
  simp [known, member]

/-- A timer step covers its losses exactly if nothing that the first answer shows is missing in the second. -/
theorem covered_iff {s : Failover} (scanning : Scanning n s) {scan : Scan} (found : s.scan = some scan)
    (done : scan.left = []) :
    Loss.Covered ⟨s.removed n, scan.failed, scan.claimed⟩ ↔ (s.node.redisClient_.isConnected = true →
      ∀ id ∈ s.node.clusterMgr_.knownNodes_, id ≠ n.text → id ∈ scan.aliveNodes →
        id ∈ s.node.redisClient_.getOnlineNodes s.world) := by
  by_cases connected : s.node.redisClient_.isConnected = true
  · have claimed : scan.failed = scan.claimed := by
      have split := scanning.split scan found
      rwa [done, List.append_nil] at split
    have failed := scanning.failed scan found connected
    constructor
    · intro covered _ id member foreign alive
      by_contra missing
      have lost := (covered id ((mem_removed connected id).mpr ⟨member, foreign, missing⟩)).1
      exact ((failed id).mp lost).2.2 alive
    · intro steady id lost
      obtain ⟨member, foreign, missing⟩ := (mem_removed connected id).mp lost
      have detected : id ∈ scan.failed :=
        (failed id).mpr ⟨member, foreign, fun alive => missing (steady connected id member foreign alive)⟩
      exact ⟨detected, claimed ▸ List.count_eq_one_of_mem (scanning.distinct scan found) detected⟩
  · have nothing : s.removed n = [] := removed_disconnected connected
    constructor
    · intro _ now
      exact absurd now connected
    · intro _ id lost
      rw [nothing] at lost
      cases lost

/-- Every node that a timer step has removed so far was failed over in that step. -/
def NoneEscaped (s : Failover) : Prop := ∀ loss ∈ s.losses, loss.Covered

instance (s : Failover) : Decidable s.NoneEscaped := inferInstanceAs (Decidable (∀ loss ∈ s.losses, _))

theorem noneEscaped_step {s : Failover} (scanning : Scanning n s) (e : FailoverEvent) :
    (s.step n e).NoneEscaped ↔ s.NoneEscaped ∧ Steady n s e := by
  have quiet : (s.step n e).losses = s.losses → Steady n s e →
      ((s.step n e).NoneEscaped ↔ s.NoneEscaped ∧ Steady n s e) := by
    intro same steady
    unfold NoneEscaped
    rw [same]
    exact (and_iff_left steady).symm
  cases e with
  | others | linkDown => exact quiet rfl trivial
  | start | node | detect =>
    refine quiet ?_ trivial
    simp only [Failover.step]
    split <;> rfl
  | claim junk =>
    refine quiet ?_ trivial
    simp only [Failover.step]
    split
    · rfl
    · split <;> rfl
  | refresh =>
    cases found : s.scan with
    | none =>
      refine quiet (by simp only [Failover.step, found]) ?_
      intro scan here
      rw [found] at here
      cases here
    | some scan =>
      by_cases done : scan.left = []
      · have finished : (s.step n .refresh).losses = ⟨s.removed n, scan.failed, scan.claimed⟩ :: s.losses := by
          simp only [Failover.step, found, if_pos done]
          rfl
        have steady : Steady n s .refresh ↔ Loss.Covered ⟨s.removed n, scan.failed, scan.claimed⟩ := by
          rw [covered_iff scanning found done]
          constructor
          · exact fun steady => steady scan found done
          · intro steady other here _
            obtain rfl := Option.some.inj (found.symm.trans here)
            exact steady
        unfold NoneEscaped
        rw [finished, List.forall_mem_cons, steady, and_comm]
      · refine quiet (by simp only [Failover.step, found, if_neg done]) ?_
        intro other here finished
        obtain rfl := Option.some.inj (found.symm.trans here)
        exact absurd finished done

/-- No lost node escapes failover in exactly those runs in which no other known node vanishes between the two questions
of one timer step. -/
theorem noneEscaped_iff (n : NodeId) (events : List FailoverEvent) :
    (run (step n) {} events).NoneEscaped ↔ Meets (step n) (Steady n) {} events := by
  have exact : (run (step n) {} events).NoneEscaped ↔ NoneEscaped {} ∧ Meets (step n) (Steady n) {} events :=
    run_iff_meets (step n) (scanning_new n) (fun _ e scanning => scanning.step e)
      (fun _ e scanning => noneEscaped_step scanning e) events
  exact exact.trans (and_iff_right fun _ none => absurd none List.not_mem_nil)

/-- The other node is there when the timer step asks first, and leaves before it asks again. -/
def vanishing : List FailoverEvent :=
  let online : RedisClient := { connected_ := true, conn_ := some .up, subConn_ := some .up }
  [.others fun w => (online.sendNodeHeartbeat w gateway2).2, .start ⟨true, true⟩ 1883, .detect,
    .others fun w => (ClusterManager.leave gateway2 online [] { joined_ := true } w).2, .refresh]

theorem vanishing_escapes : ¬ (run (step gateway1) {} vanishing).NoneEscaped := by decide +kernel

end Failover
end IotGateway.Gateway
