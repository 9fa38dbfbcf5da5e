import IotGateway.Gateway.Frame

/-!
# The last readings of the devices

Every node writes the readings of its devices to `iot:telemetry:{id}`, one field a topic,
and gives the whole key five more minutes. A device that goes takes its key along. What a
key holds at any moment of a run is what these edits, of all nodes together, make it hold.
-/

namespace IotGateway.Gateway
open Text Redis Storage Protocol

def readings (w : World) : Bytes → Hash Bytes Bytes := w.redis.telemetry

abbrev ReadingEdit := Hash.Edit Bytes Bytes

def kReadingTtl : Nat := 300 * kSecond

theorem sees_readings : Sees readings [.telemetry] := by
  intro part other
  cases part <;> first | exact absurd (by decide) other | exact fun _ _ => rfl | exact fun _ _ _ => rfl

/-! ### What changes them -/

def ofKey (key : Bytes) (edits : List (Bytes × ReadingEdit)) : List ReadingEdit :=
  edits.filterMap fun e => if e.1 = key then some e.2 else none

/-- Every key of `w'` is as the edits leave it that were made of it in `w`. -/
def Rewritten (w w' : World) (edits : List (Bytes × ReadingEdit)) : Prop :=
  ∀ key, readings w' key = (ofKey key edits).foldl (Hash.edit kReadingTtl) (readings w key)

theorem Rewritten.of_same {w w' : World} (same : readings w' = readings w) : Rewritten w w' [] := fun key => congrFun same key

theorem Rewritten.congr {w w' w'' : World} {edits : List (Bytes × ReadingEdit)} (rewritten : Rewritten w w' edits)
    (same : readings w'' = readings w') : Rewritten w w'' edits := fun key => (congrFun same key).trans (rewritten key)

theorem Rewritten.trans {w w' w'' : World} {first second : List (Bytes × ReadingEdit)} (before : Rewritten w w' first)
    (after : Rewritten w' w'' second) : Rewritten w w'' (first ++ second) := by
  intro key
  rw [after key, before key, ofKey, ofKey, ofKey, List.filterMap_append, List.foldl_append]

theorem rewritten_one {w w' : World} {key : Bytes} {e : ReadingEdit}
    (changed : readings w' = fun id => if id = key then (readings w key).edit kReadingTtl e else readings w id) :
    Rewritten w w' [(key, e)] := by
  intro other
  rw [changed]
  by_cases here : key = other
  · subst here
    simp [ofKey]
  · simp [ofKey, here, Ne.symm here]

/-- The edits of a call that reaches the store. -/
def editsOf (c : RedisClient) (edits : List (Bytes × ReadingEdit)) : List (Bytes × ReadingEdit) :=
  if c.connected_ ∧ c.answers then edits else []

section Client

variable (c : RedisClient) (w : World)

theorem rewritten_cacheTelemetry (clientId topic payload : Bytes) :
    Rewritten w (c.cacheTelemetry w clientId topic payload)
      (editsOf c [(cstr clientId, .put w.now (cstr topic) (cstr payload))]) := by
  unfold RedisClient.cacheTelemetry editsOf
  split
  · exact rewritten_one rfl
  · exact .of_same rfl

theorem rewritten_unregisterDevice (clientId : Bytes) :
    Rewritten w (c.unregisterDevice w clientId) (editsOf c [(cstr clientId, .clear)]) := by
  unfold RedisClient.unregisterDevice editsOf
  split
  · exact rewritten_one rfl
  · exact .of_same rfl

theorem rewritten_unregisterDevices (gone : List Bytes) :
    Rewritten w (gone.foldl c.unregisterDevice w) (editsOf c (gone.map fun clientId => (cstr clientId, .clear))) := by
  induction gone generalizing w with
  | nil =>
    unfold editsOf
    split <;> exact .of_same rfl
  | cons clientId gone ih =>
    have both := (rewritten_unregisterDevice c w clientId).trans (ih (c.unregisterDevice w clientId))
    unfold editsOf at both ⊢
    split
    · rename_i works
      rwa [if_pos works, if_pos works] at both
    · rename_i down
      rwa [if_neg down, if_neg down] at both

end Client

/-! ### Runs -/

/-- What an event at a node does to the readings, by their keys. -/
def nodeEdits (g : GatewayServer) (w : World) : NodeEvent → List (Bytes × ReadingEdit)
  | .packet k (.event (.publish topic payload _ _ _)) =>
    let clientId := (g.connClientMap.lookup k).getD (ascii "unknown")
    if g.Readable k then editsOf g.redisClient_ [(cstr clientId, .put w.now (cstr topic) (cstr payload))] else []
  | .packet k (.event .disconnect) | .close k =>
    if g.Readable k then editsOf g.redisClient_ ((g.connClientMap.lookup k).toList.map fun clientId => (cstr clientId, .clear))
    else []
  | .heartbeatCheck =>
    editsOf g.redisClient_ ((g.deviceMgr_.timeoutDevices w.now).map fun clientId => (cstr clientId, .clear))
  | _ => []

def readingEdits (s : System) : Event → List (Bytes × ReadingEdit)
  | .node n e => if (s.nodes n).running_ then nodeEdits (s.nodes n) s.world e else []
  | _ => []

section Node

variable (n : NodeId) (g : GatewayServer) (w : World)

theorem editsOf_offline {c : RedisClient} (offline : ¬ c.isConnected = true) (edits : List (Bytes × ReadingEdit)) :
    editsOf c edits = [] := if_neg fun works => offline works.1

theorem rewritten_handlePublish (k : ConnId) (topic payload : Bytes) (qos : MqttQoS) (packetId : UInt16) :
    Rewritten w (g.handlePublish n w k topic payload qos packetId).2 (editsOf g.redisClient_
      [(cstr ((g.connClientMap.lookup k).getD (ascii "unknown")), .put w.now (cstr topic) (cstr payload))]) := by
  have cached : ∀ clientId,
      Rewritten w (if g.redisClient_.isConnected then g.redisClient_.cacheTelemetry w clientId topic payload else w)
        (editsOf g.redisClient_ [(cstr clientId, .put w.now (cstr topic) (cstr payload))]) := by
    intro clientId
    split
    · exact rewritten_cacheTelemetry _ w clientId topic payload
    · rename_i offline
      rw [editsOf_offline offline]
      exact .of_same rfl
  refine (cached _).congr ?_
  unfold GatewayServer.handlePublish
  dsimp only
  split
  · rw [view_send n _ _ (Sees.blind sees_readings rfl),
      view_foldl readings fun w conn => view_send n _ w (Sees.blind sees_readings rfl) conn _]
  · rw [view_foldl readings fun w conn => view_send n _ w (Sees.blind sees_readings rfl) conn _]

theorem rewritten_dropConn (k : ConnId) :
    Rewritten w (g.dropConn w k).2
      (editsOf g.redisClient_ ((g.connClientMap.lookup k).toList.map fun clientId => (cstr clientId, .clear))) := by
  unfold GatewayServer.dropConn DeviceManager.deviceOffline
  split
  · rename_i unknown
    rw [unknown]
    unfold editsOf
    split <;> exact .of_same rfl
  · rename_i clientId known
    rw [known]
    dsimp only
    split
    · exact rewritten_unregisterDevice _ w clientId
    · rename_i offline
      rw [editsOf_offline offline]
      exact .of_same rfl

theorem rewritten_startHeartbeatCheck :
    Rewritten w (g.startHeartbeatCheck n w).2
      (editsOf g.redisClient_ ((g.deviceMgr_.timeoutDevices w.now).map fun clientId => (cstr clientId, .clear))) := by
  have noted : readings (g.startHeartbeatCheck n w).2 = readings (g.deviceMgr_.checkHeartbeatTimeout g.redisClient_ w).2.2 :=
    view_foldl readings (fun w clientId => Sees.record sees_readings (.timeout n clientId) rfl w) _ _
  refine Rewritten.congr ?_ noted
  unfold DeviceManager.checkHeartbeatTimeout
  dsimp only
  split
  · exact rewritten_unregisterDevices _ w _
  · rename_i offline
    rw [editsOf_offline offline]
    exact .of_same rfl

theorem rewritten_handleItem (k : ConnId) (item : Item MqttEvent) (readable : g.Readable k) :
    Rewritten w (g.handleItem n w k item).2 (nodeEdits g w (.packet k item)) := by
  cases item with
  | failure => exact .of_same rfl
  | event e =>
    cases e with
    | connect payload => exact .of_same (view_handleConnect n g w (Sees.blind sees_readings rfl) k payload)
    | publish topic payload qos retain packetId =>
      rw [nodeEdits, if_pos readable]
      exact rewritten_handlePublish n g w k topic payload qos packetId
    | subscribe packetId filters => exact .of_same (view_handleSubscribe n g w (Sees.blind sees_readings rfl) k packetId filters)
    | pingReq => exact .of_same (view_handlePingReq n g w (Sees.blind sees_readings rfl) k)
    | disconnect =>
      rw [nodeEdits, if_pos readable]
      exact (rewritten_dropConn g w k).congr rfl
    | pubAck packetId => exact .of_same rfl

theorem rewritten_nodeStep (e : NodeEvent) : Rewritten w (g.nodeStep n w e).2 (nodeEdits g w e) := by
  cases e with
  | packet conn item =>
    simp only [GatewayServer.nodeStep]
    split
    · rename_i readable
      exact rewritten_handleItem n g w conn item readable
    · rename_i closed
      have nothing : nodeEdits g w (.packet conn item) = [] := by
        cases item with
        | failure => rfl
        | event e => cases e <;> first | rfl | exact if_neg closed
      rw [nothing]
      exact .of_same rfl
  | close conn =>
    simp only [GatewayServer.nodeStep, nodeEdits]
    split
    · exact (rewritten_dropConn (g.setConn conn .disconnected) w conn).congr rfl
    · exact .of_same rfl
  | heartbeatCheck => exact rewritten_startHeartbeatCheck n g w
  | _ => exact .of_same (view_nodeStep n g w (Sees.blind sees_readings rfl))

end Node

theorem rewritten_step (s : System) (e : Event) : Rewritten s.world (s.step e).world (readingEdits s e) := by
  cases e with
  | tick delta => exact .of_same rfl
  | start n reach mqttPort =>
    simp only [System.step]
    split
    · exact .of_same rfl
    · exact .of_same (view_start n _ _ (Sees.blind sees_readings rfl) reach mqttPort)
  | node n event =>
    simp only [System.step, readingEdits]
    split
    · exact rewritten_nodeStep n _ _ event
    · exact .of_same rfl

end IotGateway.Gateway
