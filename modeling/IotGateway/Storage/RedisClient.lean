import IotGateway.Storage.RedisServer

/-!
# The Redis client of a node

`RedisClient.cpp`, function by function. A client whose context has failed gets no
reply and has no effect on the store. While the context works every command is executed
and answered; the exception is `XADD`, whose fate is a parameter.
-/

namespace IotGateway.Storage
open Text Redis

/-- A `redisContext`: usable, or with its error flag set. -/
inductive Link where
  | up
  | broken
  deriving DecidableEq, Repr

structure RedisClient where
  connected_ : Bool := false
  conn_ : Option Link := none
  subConn_ : Option Link := none
  deriving DecidableEq, Repr

structure Command where
  id : Int
  deviceId : Bytes
  topic : Bytes
  payload : Bytes
  timeout : Int
  streamId : Bytes
  createdAt : Int
  deriving DecidableEq, Repr

/-- What the network lets a new connection attempt find. -/
structure Reach where
  main : Bool
  sub : Bool
  deriving DecidableEq, Repr

def Link.ofReach (reached : Bool) : Link := if reached then .up else .broken

namespace RedisClient

def isConnected (c : RedisClient) : Bool := c.connected_

def answers (c : RedisClient) : Bool := c.conn_ = some .up

/-! ### Connection -/

def disconnect (owner : NodeId) (w : World) : RedisClient × World :=
  let subscriptions := w.redis.subscriptions.filter fun s => s.1 ≠ owner
  ({ connected_ := false, conn_ := none, subConn_ := none },
    { w with redis := { w.redis with subscriptions } })

def connect (owner : NodeId) (reach : Reach) (c : RedisClient) (w : World) : RedisClient × World :=
  if c.connected_ then (c, w)
  else if reach.main then
    ({ connected_ := true, conn_ := some .up, subConn_ := some (.ofReach reach.sub) }, w)
  else disconnect owner w

def reconnect (owner : NodeId) (reach : Reach) (w : World) : RedisClient × World :=
  let (c, w) := disconnect owner w
  connect owner reach c w

/-! ### Command stream -/

def initConsumerGroup (c : RedisClient) (w : World) : World :=
  if c.connected_ ∧ c.answers then
    { w with redis := { w.redis with commands := w.redis.commands.createGroup } }
  else w

/-- The last value of a field, as filling `fieldMap` in order leaves it. -/
def fieldValue (fields : List (Bytes × Bytes)) (key : Bytes) : Option Bytes := fields.reverse.lookup key

/-- What an uninitialised `Command` happens to hold. -/
structure Junk where
  id : Int
  timeout : Int
  deriving DecidableEq, Repr

def numberField (parse : Bytes → Except StdException Int) (junk : Int) (text : Option Bytes) :
    Except StdException Int :=
  match text with
  | none => .ok junk
  | some text => parse text

def readEntry (junk : Junk) (now : Nat) (entry : Entry (List (Bytes × Bytes))) : Except StdException Command := do
  let field := fieldValue entry.fields
  let id ← numberField stoll junk.id (field (ascii "id"))
  let timeout ← numberField stoi junk.timeout (field (ascii "timeout"))
  return {
    id
    deviceId := (field (ascii "device_id")).getD []
    topic := (field (ascii "topic")).getD []
    payload := (field (ascii "payload")).getD []
    timeout
    streamId := entry.id.text
    createdAt := now }

/-- `consumeCommands(batchSize, 0)`. `BLOCK 0` waits for an entry without limit, so with nothing to read it is the
socket timeout that ends the call, without a reply. -/
def consumeCommands (owner : NodeId) (reach : Reach) (junk : Junk) (batchSize : Nat) (c : RedisClient) (w : World) :
    Except StdException (List Command) × RedisClient × World :=
  if ¬ c.connected_ then (.ok [], c, w)
  else
    let entries := w.redis.commands.fresh batchSize
    if c.answers ∧ w.redis.commands.group = none then (.ok [], c, w)
    else if c.answers ∧ entries ≠ [] then
      let commands := w.redis.commands.readGroup owner.text batchSize
      (entries.mapM (readEntry junk w.now), c, { w with redis := { w.redis with commands } })
    else
      let (c, w) := reconnect owner reach w
      (.ok [], c, w)

/-- A call asks for nothing or is refused, or it reads a batch, or it goes without a reply and connects anew. -/
theorem consumeCommands_cases (owner : NodeId) (reach : Reach) (junk : Junk) (batchSize : Nat) (c : RedisClient) (w : World) :
    (c.connected_ = false ∨ c.answers = true ∧ w.redis.commands.group = none) ∧
        consumeCommands owner reach junk batchSize c w = (.ok [], c, w) ∨
      (c.connected_ = true ∧ c.answers = true) ∧ w.redis.commands.fresh batchSize ≠ [] ∧
        consumeCommands owner reach junk batchSize c w =
          ((w.redis.commands.fresh batchSize).mapM (readEntry junk w.now), c,
            { w with redis := { w.redis with commands := w.redis.commands.readGroup owner.text batchSize } }) ∨
      c.connected_ = true ∧
        (c.answers = true → w.redis.commands.group ≠ none ∧ w.redis.commands.fresh batchSize = []) ∧
        consumeCommands owner reach junk batchSize c w = (.ok [], reconnect owner reach w) := by
  unfold consumeCommands
  split
  · rename_i off
    exact Or.inl ⟨Or.inl (by simpa using off), rfl⟩
  · rename_i on
    have connected : c.connected_ = true := not_not.mp on
    dsimp only
    split
    · rename_i refused
      exact Or.inl ⟨Or.inr refused, rfl⟩
    · rename_i group
      split
      · rename_i read
        exact Or.inr (Or.inl ⟨⟨connected, read.1⟩, read.2, rfl⟩)
      · rename_i unread
        refine Or.inr (Or.inr ⟨connected, ?_, rfl⟩)
        intro answers
        exact ⟨fun none => group ⟨answers, none⟩, not_not.mp fun some => unread ⟨answers, some⟩⟩

def ackCommand (c : RedisClient) (w : World) (streamId : Bytes) : World :=
  if c.connected_ ∧ c.answers then
    World.record { w with redis := { w.redis with commands := w.redis.commands.ack (cstr streamId) } }
      (.xack (cstr streamId))
  else w

/-- `pendingCount`, which asks for the first thousand entries of the pending list and counts them. -/
def pendingCount (c : RedisClient) (w : World) : Nat :=
  if c.connected_ ∧ c.answers then
    match w.redis.commands.group with
    | none => 0
    | some group => min group.pending.length 1000
  else 0

inductive XaddFate where
  | answered
  | refused
  /-- Executed, but the connection fails before the answer. -/
  | replyLost
  deriving DecidableEq, Repr

def xaddFields (cmd : Command) (ts : Int) : List (Bytes × Bytes) :=
  [(ascii "id", decimal (if cmd.id ≠ 0 then cmd.id else ts)),
    (ascii "device_id", cstr cmd.deviceId),
    (ascii "topic", if cmd.topic = [] then cstr (ascii "/cmd/" ++ cmd.deviceId ++ ascii "/down") else cstr cmd.topic),
    (ascii "payload", cstr cmd.payload),
    (ascii "timeout", decimal (if cmd.timeout ≠ 0 then cmd.timeout else 30)),
    (ascii "created_at", decimal ts)]

/-- `publishCommand`: the stream id that it returns, empty when it has none. -/
def publishCommand (c : RedisClient) (w : World) (fate : XaddFate) (ts : Int) (cmd : Command) :
    Bytes × RedisClient × World :=
  if c.connected_ ∧ c.answers then
    let id := w.redis.commands.nextId (w.now / 1000)
    let commands := w.redis.commands.add (w.now / 1000) (xaddFields cmd ts)
    match fate with
    | .answered => (id.text, c, { w with redis := { w.redis with commands } })
    | .refused => ([], c, w)
    | .replyLost => ([], { c with conn_ := some .broken }, { w with redis := { w.redis with commands } })
  else ([], c, w)

/-! ### Command status -/

def setCmd (redis : RedisServer) (id : Int) (hash : Hash Bytes Bytes) : RedisServer :=
  { redis with cmd := fun i => if i = id then hash else redis.cmd i }

def markCommandSent (c : RedisClient) (w : World) (commandId : Int) : World :=
  if c.connected_ ∧ c.answers then
    let now : Int := w.now / kSecond
    let hash := ((w.redis.cmd commandId).set w.now (ascii "status") (ascii "sent")).set w.now (ascii "sent_at") (decimal now)
    { w with redis :=
        { setCmd w.redis commandId hash with cmdPending := w.redis.cmdPending.insert commandId (now + 30) } }
  else w

def markCommandFailed (c : RedisClient) (w : World) (commandId : Int) (reason : Bytes) : World :=
  if c.connected_ ∧ c.answers then
    let hash := ((w.redis.cmd commandId).set w.now (ascii "status") (ascii "failed")).set w.now (ascii "reason") (cstr reason)
    { w with redis := { setCmd w.redis commandId hash with cmdPending := w.redis.cmdPending.erase commandId } }
  else w

def markCommandCompleted (c : RedisClient) (w : World) (commandId : Int) (response : Bytes) : World :=
  if c.connected_ ∧ c.answers then
    let hash := ((w.redis.cmd commandId).set w.now (ascii "status") (ascii "completed")).set w.now (ascii "response")
      (cstr response)
    { w with redis :=
        { setCmd w.redis commandId (hash.expire w.now (3600 * kSecond)) with
          cmdPending := w.redis.cmdPending.erase commandId } }
  else w

/-- `scanTimeoutCommands`. Its argument is not read: what counts is the score in the set. -/
def scanTimeoutCommands (c : RedisClient) (w : World) (_timeoutUs : Int) : Except StdException (List Int) :=
  if c.connected_ ∧ c.answers then
    (rangeByScore decimal w.redis.cmdPending (w.now / kSecond)).mapM fun member => stoll (decimal member)
  else .ok []

/-! ### Device registry -/

def registryText (gatewayNodeId : Bytes) (heartbeat keepAlive : Int) : Bytes :=
  ascii "\x7b\"gateway\":\"" ++ cstr gatewayNodeId ++ ascii "\",\"heartbeat\":" ++ decimal heartbeat ++
    ascii ",\"keepalive\":" ++ decimal keepAlive ++ ascii "\x7d"

def registerDevice (c : RedisClient) (w : World) (clientId gatewayNodeId : Bytes) (keepAlive : Int) : World :=
  if c.connected_ ∧ c.answers then
    let json := snprintf 512 (registryText gatewayNodeId (w.now / kSecond) keepAlive)
    { w with redis := { w.redis with devices := w.redis.devices.set w.now (cstr clientId) json } }
  else w

def unregisterDevice (c : RedisClient) (w : World) (clientId : Bytes) : World :=
  if c.connected_ ∧ c.answers then
    { w with redis :=
        { w.redis with
          devices := w.redis.devices.erase w.now (cstr clientId)
          telemetry := fun id => if id = cstr clientId then .empty else w.redis.telemetry id } }
  else w

/-- `getDeviceGateway`: the registry record of a device, not the name of its gateway. -/
def getDeviceGateway (c : RedisClient) (w : World) (clientId : Bytes) : Bytes :=
  if c.connected_ ∧ c.answers then (w.redis.devices.get w.now (cstr clientId)).getD [] else []

def deviceCount (c : RedisClient) (w : World) : Nat :=
  if c.connected_ ∧ c.answers then (w.redis.devices.fieldNames w.now).length else 0

def replaceHeartbeat (json : Bytes) (now : Int) : Option Bytes :=
  match find json (ascii "\"heartbeat\":") 0 with
  | none => none
  | some pos =>
    let numStart := pos + 12
    match findFirstOf json (ascii ",\x7d") numStart with
    | none => none
    | some numEnd => some (json.take numStart ++ decimal now ++ json.drop numEnd)

def touchRecord (now : Nat) (clientId : Bytes) (devices : Hash Bytes Bytes) : Hash Bytes Bytes :=
  match (devices.get now clientId).bind (replaceHeartbeat · (now / kSecond)) with
  | none => devices
  | some json => devices.set now clientId (cstr json)

def updateDeviceHeartbeat (c : RedisClient) (w : World) (clientId : Bytes) : World :=
  if c.connected_ ∧ c.answers then
    { w with redis := { w.redis with devices := touchRecord w.now (cstr clientId) w.redis.devices } }
  else w

/-! ### Nodes -/

def nodeText (addr : Bytes) (mqttPort apiPort : UInt16) (startedAt : Int) : Bytes :=
  ascii "\x7b\"addr\":\"" ++ cstr addr ++ ascii "\",\"mqtt_port\":" ++ decimal mqttPort.toNat ++
    ascii ",\"api_port\":" ++ decimal apiPort.toNat ++ ascii ",\"started_at\":" ++ decimal startedAt ++ ascii "\x7d"

def registerNode (c : RedisClient) (w : World) (nodeId : NodeId) (addr : Bytes) (mqttPort apiPort : UInt16) :
    Bool × World :=
  if ¬ c.connected_ then (false, w)
  else if c.answers then
    let info := snprintf 256 (nodeText addr mqttPort apiPort (w.now / kSecond))
    (true, { w with redis := { w.redis with nodes := w.redis.nodes.set w.now (cstr nodeId.text) info } })
  else (true, w)

def kHeartbeatTtl : Nat := 15 * kSecond

/-- `sendNodeHeartbeat`, which reports success whatever its two commands are answered. -/
def sendNodeHeartbeat (c : RedisClient) (w : World) (nodeId : NodeId) : Bool × World :=
  if ¬ c.connected_ then (false, w)
  else if c.answers then
    let heartbeat := (w.redis.heartbeat.set w.now (cstr nodeId.text) (ascii "1")).expire w.now kHeartbeatTtl
    (true, World.record { w with redis := { w.redis with heartbeat } } (.heartbeat nodeId w.now))
  else (true, w)

def getOnlineNodes (c : RedisClient) (w : World) : List Bytes :=
  if c.answers then w.redis.heartbeat.fieldNames w.now else []

/-! ### Routing between nodes -/

def routeChannel (nodeId : Bytes) : Bytes := ascii "iot:route:" ++ cstr nodeId

def subscribeRouteChannel (c : RedisClient) (w : World) (nodeId : NodeId) : Bool × World :=
  match c.subConn_ with
  | none => (false, w)
  | some .broken => (true, w)
  | some .up =>
    let subscription := (nodeId, routeChannel nodeId.text)
    (true, { w with redis := { w.redis with subscriptions := subscription :: w.redis.subscriptions } })

def routeText (cmd : Command) : Bytes :=
  ascii "\x7b\"id\":" ++ decimal cmd.id ++ ascii ",\"device_id\":\"" ++ cstr cmd.deviceId ++
    ascii "\",\"topic\":\"" ++ cstr cmd.topic ++ ascii "\",\"payload\":" ++ cstr cmd.payload ++
    ascii ",\"timeout\":" ++ decimal cmd.timeout ++ ascii "\x7d"

def receivers (redis : RedisServer) (channel : Bytes) : Nat := redis.subscriptions.countP fun s => s.2 = channel

def publishToNode (c : RedisClient) (w : World) (targetNodeId : Bytes) (cmd : Command) : Bool × World :=
  if c.connected_ ∧ c.answers then
    let channel := routeChannel targetNodeId
    (0 < receivers w.redis channel, w.record (.publish channel (snprintf 1024 (routeText cmd))))
  else (false, w)

/-! ### Telemetry cache -/

def cacheTelemetry (c : RedisClient) (w : World) (clientId topic payload : Bytes) : World :=
  if c.connected_ ∧ c.answers then
    let hash := ((w.redis.telemetry (cstr clientId)).set w.now (cstr topic) (cstr payload)).expire w.now (300 * kSecond)
    { w with redis :=
        { w.redis with telemetry := fun id => if id = cstr clientId then hash else w.redis.telemetry id } }
  else w

/-! ### Plain commands -/

/-- How hiredis cuts a format string without arguments into words. From a directive on, whose argument is missing,
the words are `junk`. -/
def formatWords (junk : List Bytes) : Bytes → Bytes → List Bytes
  | [], word => if word = [] then [] else [word]
  | [37], word => [word ++ [37]]
  | 37 :: 37 :: format, word => formatWords junk format (word ++ [37])
  | 37 :: _ :: _, _ => junk
  | 32 :: format, word => if word = [] then formatWords junk format [] else word :: formatWords junk format []
  | b :: format, word => formatWords junk format (word ++ [b])

/-- `sendCommand`, as far as the words of the callers go: `HDEL` on the two node hashes. -/
def sendCommand (junk : List Bytes) (c : RedisClient) (w : World) (cmd : Bytes) : World :=
  if c.answers then
    match formatWords junk (cstr cmd) [] with
    | name :: key :: fields =>
      if name = ascii "HDEL" ∧ key = ascii "iot:nodes" then
        { w with redis := { w.redis with nodes := w.redis.nodes.eraseAll w.now fields } }
      else if name = ascii "HDEL" ∧ key = ascii "iot:nodes:heartbeat" then
        { w with redis := { w.redis with heartbeat := w.redis.heartbeat.eraseAll w.now fields } }
      else w
    | _ => w
  else w

end RedisClient
end IotGateway.Storage
