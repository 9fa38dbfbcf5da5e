import IotGateway.Net.TcpConnection
import IotGateway.Storage.RedisClient

/-!
# Devices of a node

`DeviceManager.cpp`: the local device table, the subscription index with its inverse,
and their synchronisation with the registry in Redis. `std::set` is a list in
increasing order. The state of a connection is kept by the server, so the functions
that ask for it take it as an argument.
-/

namespace IotGateway.Gateway
open Text Net Storage

structure DeviceInfo where
  clientId : Bytes
  username : Bytes
  gatewayNodeId : Bytes
  lastHeartbeat : Nat
  onlineTime : Nat
  keepAlive : Nat
  connection : ConnId
  deriving DecidableEq, Repr

def DeviceInfo.isOnline (info : DeviceInfo) (conns : ConnId → ConnState) : Bool :=
  conns info.connection = .connected

/-- More than one and a half keep-alive intervals without a heartbeat. -/
def DeviceInfo.timedOut (info : DeviceInfo) (now : Nat) : Bool :=
  3 * (info.keepAlive * kSecond) < 2 * (now - info.lastHeartbeat)

structure DeviceManager where
  devices_ : AList fun _ : Bytes => DeviceInfo := ∅
  subscriptions_ : AList fun _ : Bytes => List Bytes := ∅
  topicSubscribers_ : AList fun _ : Bytes => List Bytes := ∅

namespace DeviceManager

/-- One round of the loop in `deviceOfflineLocked`: `clientId` is taken out of the subscribers of `topic`. -/
def dropSubscriber (clientId : Bytes) (subscribers : AList fun _ : Bytes => List Bytes) (topic : Bytes) :
    AList fun _ : Bytes => List Bytes :=
  let left := ((subscribers.lookup topic).getD []).erase clientId
  if left = [] then subscribers.erase topic else subscribers.insert topic left

def deviceOfflineLocked (d : DeviceManager) (clientId : Bytes) : DeviceManager :=
  let topics := (d.subscriptions_.lookup clientId).getD []
  { devices_ := d.devices_.erase clientId
    subscriptions_ := d.subscriptions_.erase clientId
    topicSubscribers_ := topics.foldl (dropSubscriber clientId) d.topicSubscribers_ }

section Node

variable (nodeId_ : NodeId) (redis_ : RedisClient)

def deviceOnline (d : DeviceManager) (w : World) (clientId : Bytes) (conn : ConnId) (keepAlive : Nat)
    (username : Bytes) : DeviceManager × World :=
  let info : DeviceInfo :=
    { clientId, username
      gatewayNodeId := nodeId_.text
      lastHeartbeat := w.now
      onlineTime := w.now
      keepAlive
      connection := conn }
  ({ d with devices_ := d.devices_.insert clientId info },
    if redis_.isConnected then redis_.registerDevice w clientId nodeId_.text keepAlive else w)

def deviceOffline (d : DeviceManager) (w : World) (clientId : Bytes) : DeviceManager × World :=
  (d.deviceOfflineLocked clientId, if redis_.isConnected then redis_.unregisterDevice w clientId else w)

def updateHeartbeat (d : DeviceManager) (w : World) (clientId : Bytes) : DeviceManager × World :=
  let devices_ :=
    match d.devices_.lookup clientId with
    | none => d.devices_
    | some info => d.devices_.insert clientId { info with lastHeartbeat := w.now }
  ({ d with devices_ }, if redis_.isConnected then redis_.updateDeviceHeartbeat w clientId else w)

def findDevice (d : DeviceManager) (conns : ConnId → ConnState) (clientId : Bytes) : Option DeviceInfo :=
  (d.devices_.lookup clientId).filter (·.isOnline conns)

/-- A device that is found is in the table, and its connection is up. -/
theorem findDevice_some {d : DeviceManager} {conns : ConnId → ConnState} {clientId : Bytes} {device : DeviceInfo}
    (found : d.findDevice conns clientId = some device) :
    d.devices_.lookup clientId = some device ∧ conns device.connection = .connected := by
  obtain ⟨entry, online⟩ := Option.filter_eq_some_iff.mp found
  exact ⟨entry, by simpa [DeviceInfo.isOnline] using online⟩

/-- `findDeviceNode`: the id of this node, or whatever the registry holds for the device. -/
def findDeviceNode (d : DeviceManager) (conns : ConnId → ConnState) (w : World) (clientId : Bytes) : Bytes :=
  if (d.findDevice conns clientId).isSome then nodeId_.text
  else if redis_.isConnected then redis_.getDeviceGateway w clientId
  else []

end Node

def subscribe (d : DeviceManager) (clientId topic : Bytes) : DeviceManager :=
  { d with
    subscriptions_ := d.subscriptions_.insert clientId (setInsert topic ((d.subscriptions_.lookup clientId).getD []))
    topicSubscribers_ :=
      d.topicSubscribers_.insert topic (setInsert clientId ((d.topicSubscribers_.lookup topic).getD [])) }

/-- `unsubscribe` on one of the two maps: take `value` out of the set of `key`, and the key with the last value. -/
def eraseFrom (sets : AList fun _ : Bytes => List Bytes) (key value : Bytes) : AList fun _ : Bytes => List Bytes :=
  match sets.lookup key with
  | none => sets
  | some set => if set.erase value = [] then sets.erase key else sets.insert key (set.erase value)

def unsubscribe (d : DeviceManager) (clientId topic : Bytes) : DeviceManager :=
  { d with
    subscriptions_ := eraseFrom d.subscriptions_ clientId topic
    topicSubscribers_ := eraseFrom d.topicSubscribers_ topic clientId }

def getSubscribers (d : DeviceManager) (conns : ConnId → ConnState) (topic : Bytes) : List ConnId :=
  ((d.topicSubscribers_.lookup topic).getD []).filterMap fun clientId =>
    (d.findDevice conns clientId).map (·.connection)

def timeoutDevices (d : DeviceManager) (now : Nat) : List Bytes :=
  (d.devices_.entries.filter fun device => device.2.timedOut now).map (·.1)

def checkHeartbeatTimeout (redis_ : RedisClient) (d : DeviceManager) (w : World) :
    List Bytes × DeviceManager × World :=
  let timedOut := d.timeoutDevices w.now
  let d := timedOut.foldl deviceOfflineLocked d
  (timedOut, d, if redis_.isConnected then timedOut.foldl redis_.unregisterDevice w else w)

def localOnlineCount (d : DeviceManager) : Nat := d.devices_.entries.length

end DeviceManager
end IotGateway.Gateway
