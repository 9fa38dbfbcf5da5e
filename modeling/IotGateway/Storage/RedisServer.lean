import IotGateway.Lib.Redis

/-!
# The shared store and the world around the nodes

The Redis keys that the gateway nodes share, the clock, and a log of what the nodes
have done, newest action first. The log is read by the theorems only: no node looks at
it. The clock counts microseconds.
-/

namespace IotGateway.Storage
open Text Redis

/-- The id of a gateway node. It comes from the command line or from `generateNodeId`, both C strings. -/
structure NodeId where
  text : Bytes
  no_nul : 0 ∉ text
  deriving DecidableEq

theorem NodeId.ext_text {n m : NodeId} (same : n.text = m.text) : n = m := by
  cases n
  cases m
  simpa using same

/-- The identity of a `TcpConnection`. Identities are not reused. -/
abbrev ConnId := Nat

def kSecond : Nat := 1000000

/-- The keys under `iot:` and the command stream. Keys with an id in their name are a function of it. -/
structure RedisServer where
  -- iot:devices
  devices : Hash Bytes Bytes
  -- iot:nodes
  nodes : Hash Bytes Bytes
  -- iot:nodes:heartbeat
  heartbeat : Hash Bytes Bytes
  -- iot:telemetry:{clientId}
  telemetry : Bytes → Hash Bytes Bytes
  -- iot:cmd:{id}
  cmd : Int → Hash Bytes Bytes
  -- iot:cmd:pending, members with their scores
  cmdPending : AList fun _ : Int => Int
  -- device:commands, whose consumers are named by the nodes
  commands : Redis.Stream (List (Bytes × Bytes)) Bytes
  -- The open subscriptions: who subscribed, and to which channel
  subscriptions : List (NodeId × Bytes)

def RedisServer.new : RedisServer where
  devices := .empty
  nodes := .empty
  heartbeat := .empty
  telemetry := fun _ => .empty
  cmd := fun _ => .empty
  cmdPending := ∅
  commands := .empty
  subscriptions := []

/-- What can be seen of a node from outside. -/
inductive Action where
  | connect (node : NodeId) (conn : ConnId) (clientId : Bytes)
  | disconnect (node : NodeId) (conn : ConnId)
  | close (node : NodeId) (conn : ConnId)
  | timeout (node : NodeId) (clientId : Bytes)
  | frame (node : NodeId) (conn : ConnId) (bytes : Bytes)
  | xack (streamId : Bytes)
  | publish (channel message : Bytes)
  | heartbeat (node : NodeId) (time : Nat)
  /-- The fields that a leaving node deleted from the heartbeat hash. -/
  | leave (node : NodeId) (fields : List Bytes)
  /-- `discoverNodes` reported a node as lost, after an `HGETALL` that was answered or not. -/
  | lost (node : NodeId) (reported : Bytes) (time : Nat) (answered : Bool)
  /-- `detectFailedNodes` returned a node, after an `HGETALL` that was answered or not. -/
  | failed (node : NodeId) (reported : Bytes) (time : Nat) (answered : Bool)
  | exit (node : NodeId)
  deriving DecidableEq

structure World where
  now : Nat
  redis : RedisServer
  log : List Action

namespace World

def record (w : World) (action : Action) : World := { w with log := action :: w.log }

end World

end IotGateway.Storage
