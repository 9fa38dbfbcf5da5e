import IotGateway.Storage.RedisClient

/-!
# Cluster membership

`ClusterManager.cpp`: joining and leaving, heartbeats, node discovery, failure
detection and the forwarding of commands. Timers are represented by whether they are
set; when they fire is up to the environment.
-/

namespace IotGateway.Gateway
open Text Storage

inductive NodeState where
  | offline
  | starting
  | online
  | degraded
  deriving DecidableEq, Repr

structure ClusterNode where
  addr : Bytes := []
  mqttPort : UInt16 := 0
  apiPort : UInt16 := 0
  state : NodeState := .offline
  lastHeartbeat : Nat := 0
  deriving DecidableEq, Repr

structure ClusterStats where
  totalNodes : Nat := 0
  onlineNodes : Nat := 0
  totalDevices : Nat := 0
  pendingCommands : Nat := 0
  uptimeSeconds : Int := 0
  deriving DecidableEq, Repr

structure ClusterManager where
  localNode_ : ClusterNode := {}
  joined_ : Bool := false
  heartbeatTimer : Bool := false
  failureDetectTimer : Bool := false
  knownNodes_ : List Bytes := []
  localDeviceCount_ : Nat := 0
  localCmdConsumed_ : Nat := 0
  deriving DecidableEq, Repr

namespace ClusterManager

/-- The value of a string member of a flat JSON text, empty when it is not found. -/
def extractJsonField (json key : Bytes) : Bytes :=
  let search := ascii "\"" ++ key ++ ascii "\":\""
  match find json search 0 with
  | none => []
  | some pos =>
    let pos := pos + search.length
    match find json (ascii "\"") pos with
    | none => []
    | some last => (json.drop pos).take (last - pos)

def init (cm : ClusterManager) (now : Nat) (addr : Bytes) (mqttPort apiPort : UInt16) : ClusterManager :=
  { cm with localNode_ := { addr, mqttPort, apiPort, state := .starting, lastHeartbeat := now } }

section Node

variable (nodeId_ : NodeId) (redis_ : RedisClient)

def sendHeartbeat (cm : ClusterManager) (w : World) : Bool × ClusterManager × World :=
  if ¬ redis_.isConnected then
    let state := if cm.localNode_.state = .online then .degraded else cm.localNode_.state
    (false, { cm with localNode_ := { cm.localNode_ with state } }, w)
  else
    let state := if cm.localNode_.state = .degraded then .online else cm.localNode_.state
    let (ok, w) := redis_.sendNodeHeartbeat w nodeId_
    let lastHeartbeat := if ok then w.now else cm.localNode_.lastHeartbeat
    (ok, { cm with localNode_ := { cm.localNode_ with state, lastHeartbeat } }, w)

/-- The nodes that a discovery would report as new, and those it would report as lost. -/
def nodeChanges (cm : ClusterManager) (onlineNodes : List Bytes) : List Bytes × List Bytes :=
  (onlineNodes.filter fun id => id ≠ nodeId_.text ∧ id ∉ cm.knownNodes_,
    cm.knownNodes_.filter fun id => id ≠ nodeId_.text ∧ id ∉ onlineNodes)

def discoverNodes (cm : ClusterManager) (w : World) : ClusterManager × World :=
  if ¬ redis_.isConnected then (cm, w)
  else
    let onlineNodes := redis_.getOnlineNodes w
    let lostNodes := (cm.nodeChanges nodeId_ onlineNodes).2
    ({ cm with knownNodes_ := onlineNodes },
      lostNodes.foldl (fun w id => w.record (.lost nodeId_ id w.now redis_.answers)) w)

def join (cm : ClusterManager) (w : World) : Bool × ClusterManager × World :=
  if cm.joined_ then (true, cm, w)
  else if ¬ redis_.isConnected then (false, cm, w)
  else
    let node := cm.localNode_
    let (ok, w) := redis_.registerNode w nodeId_ node.addr node.mqttPort node.apiPort
    if ¬ ok then (false, cm, w)
    else
      let (_, cm, w) := cm.sendHeartbeat nodeId_ redis_ w
      let (cm, w) := cm.discoverNodes nodeId_ redis_ w
      (true, { cm with localNode_ := { cm.localNode_ with state := .online }, joined_ := true }, w)

/-- A call of `join` does nothing, or it registers the node, sends a heartbeat and discovers the others. -/
theorem join_cases (cm : ClusterManager) (w : World) :
    (cm.joined_ = true ∨ redis_.isConnected = false) ∧ cm.join nodeId_ redis_ w = (cm.joined_, cm, w) ∨
      (cm.joined_ = false ∧ redis_.isConnected = true) ∧
        let node := cm.localNode_
        let beat := cm.sendHeartbeat nodeId_ redis_
          (redis_.registerNode w nodeId_ node.addr node.mqttPort node.apiPort).2
        let found := beat.2.1.discoverNodes nodeId_ redis_ beat.2.2
        cm.join nodeId_ redis_ w =
          (true, { found.1 with localNode_ := { found.1.localNode_ with state := .online }, joined_ := true }, found.2) := by
  unfold join
  cases joined : cm.joined_ with
  | true => exact Or.inl ⟨Or.inl rfl, rfl⟩
  | false =>
    cases connected : redis_.isConnected with
    | false => exact Or.inl ⟨Or.inr rfl, rfl⟩
    | true =>
      have registered : ∀ addr mqttPort apiPort, (redis_.registerNode w nodeId_ addr mqttPort apiPort).1 = true := by
        intro addr mqttPort apiPort
        have online : redis_.connected_ = true := connected
        unfold RedisClient.registerNode
        rw [if_neg (not_not.mpr online)]
        split <;> rfl
      right
      simp [registered]

def leaveFields (junk : List Bytes) : List Bytes := RedisClient.formatWords junk nodeId_.text []

def leave (junk : List Bytes) (cm : ClusterManager) (w : World) : ClusterManager × World :=
  if ¬ cm.joined_ then (cm, w)
  else
    let w :=
      if redis_.isConnected then
        let w := redis_.sendCommand junk w (ascii "HDEL iot:nodes " ++ nodeId_.text)
        let w := redis_.sendCommand junk w (ascii "HDEL iot:nodes:heartbeat " ++ nodeId_.text)
        if redis_.answers then w.record (.leave nodeId_ (leaveFields nodeId_ junk)) else w
      else w
    ({ cm with
        localNode_ := { cm.localNode_ with state := .offline }
        joined_ := false
        heartbeatTimer := false
        failureDetectTimer := false }, w)

/-- A call of `leave` sends its two commands, where there is a connection that works. -/
theorem world_leave (junk : List Bytes) (cm : ClusterManager) (w : World) :
    (cm.leave nodeId_ redis_ junk w).2 = w ∨
      (cm.joined_ = true ∧ redis_.isConnected = true ∧ redis_.answers = true) ∧
        (cm.leave nodeId_ redis_ junk w).2 = (redis_.sendCommand junk
          (redis_.sendCommand junk w (ascii "HDEL iot:nodes " ++ nodeId_.text))
          (ascii "HDEL iot:nodes:heartbeat " ++ nodeId_.text)).record (.leave nodeId_ (leaveFields nodeId_ junk)) := by
  unfold leave
  split
  · exact Or.inl rfl
  · rename_i joined
    dsimp only
    split
    · rename_i connected
      split
      · rename_i answers
        exact Or.inr ⟨⟨not_not.mp joined, connected, answers⟩, rfl⟩
      · rename_i silent
        left
        unfold RedisClient.sendCommand
        rw [if_neg silent, if_neg silent]
    · exact Or.inl rfl

def startHeartbeat (cm : ClusterManager) : ClusterManager :=
  if cm.joined_ then { cm with heartbeatTimer := true } else cm

def startFailureDetection (cm : ClusterManager) : ClusterManager :=
  if cm.joined_ then { cm with failureDetectTimer := true } else cm

def detectFailedNodes (cm : ClusterManager) (w : World) : List Bytes :=
  if ¬ redis_.isConnected then []
  else
    let aliveNodes := redis_.getOnlineNodes w
    cm.knownNodes_.filter fun id => id ≠ nodeId_.text ∧ id ∉ aliveNodes

theorem mem_detectFailedNodes {cm : ClusterManager} {w : World} {id : Bytes} :
    id ∈ cm.detectFailedNodes nodeId_ redis_ w ↔
      redis_.isConnected = true ∧ id ∈ cm.knownNodes_ ∧ id ≠ nodeId_.text ∧ id ∉ redis_.getOnlineNodes w := by
  unfold detectFailedNodes
  cases connected : redis_.isConnected <;> simp

theorem nodup_detectFailedNodes {cm : ClusterManager} (w : World) (nodup : cm.knownNodes_.Nodup) :
    (cm.detectFailedNodes nodeId_ redis_ w).Nodup := by
  unfold detectFailedNodes
  split
  · exact List.nodup_nil
  · exact nodup.filter _

/-- `claimPendingMessages`, which only queries the pending list. -/
def claimPendingMessages (junk : List Bytes) (w : World) (failedNodeId : Bytes) : Nat × World :=
  if ¬ redis_.isConnected then (0, w)
  else (0, redis_.sendCommand junk w (ascii "XPENDING device:commands gateway-group - + 100 " ++ failedNodeId))

def failureDetection (junk : List Bytes) (cm : ClusterManager) (w : World) : ClusterManager × World :=
  let failed := cm.detectFailedNodes nodeId_ redis_ w
  let w := failed.foldl (fun w id => w.record (.failed nodeId_ id w.now redis_.answers)) w
  let w := failed.foldl (fun w id => (claimPendingMessages redis_ junk w id).2) w
  cm.discoverNodes nodeId_ redis_ w

def getStats (cm : ClusterManager) (w : World) : ClusterStats :=
  let joined := if cm.joined_ then 1 else 0
  if redis_.isConnected then
    { totalNodes := cm.knownNodes_.length + 1
      onlineNodes := cm.knownNodes_.length + joined
      totalDevices := redis_.deviceCount w
      pendingCommands := redis_.pendingCount w }
  else { totalNodes := 1, onlineNodes := joined, totalDevices := cm.localDeviceCount_ }

def subscribeRouteChannel (w : World) : World :=
  if redis_.isConnected then (redis_.subscribeRouteChannel w nodeId_).2 else w

/-- Where `forwardCommand` sends a command for a device, if it gets that far. -/
def forwardTarget (w : World) (clientId : Bytes) : Option Bytes :=
  let record := redis_.getDeviceGateway w clientId
  if record = [] then none
  else
    let parsedNode := extractJsonField record (ascii "gateway")
    let targetNode := if parsedNode = [] then record else parsedNode
    if targetNode = nodeId_.text then none else some targetNode

def forwardCommand (w : World) (clientId : Bytes) (cmd : Command) : Bool × World :=
  if ¬ redis_.isConnected then (false, w)
  else
    match forwardTarget nodeId_ redis_ w clientId with
    | none => (false, w)
    | some targetNode => redis_.publishToNode w targetNode cmd

end Node

def updateLocalStats (cm : ClusterManager) (deviceCount cmdConsumed : Nat) : ClusterManager :=
  { cm with localDeviceCount_ := deviceCount, localCmdConsumed_ := cmdConsumed }

end ClusterManager
end IotGateway.Gateway
