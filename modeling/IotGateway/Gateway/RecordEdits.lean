import IotGateway.Gateway.RegistryAgreement

/-!
# A registry record under heartbeat edits

A node registers a device, and from then on `updateDeviceHeartbeat` replaces the number
in the stored text, any number of times. The text keeps its shape. `forwardCommand` reads
the id of the node out of it; `findDeviceNode` returns the text itself.
-/

namespace IotGateway.Gateway
open Text Redis Storage

/-! ### The registry does not expire -/

theorem persistent_move {n : NodeId} {works : Bool} {e : NodeEvent} {s s' : Sessions ConnId Bytes} {r r' : Registry}
    (move : SessionMove n works e (s, r) (s', r')) (persistent : r.devices.expireAt = none) :
    r'.devices.expireAt = none := by
  cases works with
  | false => cases move <;> exact persistent
  | true =>
    cases move with
    | quiet | unbound | exit => exact persistent
    | attach => exact Hash.persistent_set persistent _ _ _
    | drop => exact Hash.persistent_erase persistent _ _
    | touch => exact persistent_touchRecord _ _ persistent
    | evict => exact persistent_foldl_erase persistent _ _

theorem persistent_devices (events : List Event) :
    (run System.step System.new events).world.redis.devices.expireAt = none := by
  have always : Meets System.step (fun _ _ => True) System.new events := .of_events _ (fun _ _ _ => trivial) _
  refine @run_invariant _ _ System.step _ (fun s => s.world.redis.devices.expireAt = none) _ _ rfl ?_ always
  intro s e persistent _
  rcases session_step s e with ⟨_, now, later⟩ | ⟨n, event, rfl, _, move, _⟩
  · have same : (s.step e).world.redis.devices = s.world.redis.devices := congrArg Registry.devices later
    rwa [same]
  · exact persistent_move move persistent

/-! ### Registering and touching -/

/-- A call of `updateDeviceHeartbeat`: how much later it comes, and what the client of the node is like then. -/
structure Touch where
  delta : Nat
  client : RedisClient

/-- The world, and when the record was last written. -/
structure Edited where
  world : World
  last : Nat

def touchStep (clientId : Bytes) (s : Edited) (t : Touch) : Edited :=
  let w := { s.world with now := s.world.now + t.delta }
  ⟨t.client.updateDeviceHeartbeat w clientId, if t.client.connected_ ∧ t.client.answers then w.now else s.last⟩

def registered (c : RedisClient) (w : World) (clientId : Bytes) (n : NodeId) (keepAlive : Int) : Edited :=
  ⟨c.registerDevice w clientId n.text keepAlive, w.now⟩

theorem plain_of_no_quote {n : NodeId} (quoteFree : 34 ∉ n.text) : PlainRecord n := by
  rintro ⟨before, after, split⟩
  have quotes := congrArg (List.count 34) split
  have inKey : List.count 34 heartbeatKey = 2 := by decide
  have inId : List.count 34 n.text = 0 := List.count_eq_zero.mpr quoteFree
  rw [List.count_append, List.count_append, inKey, List.count_cons_self, inId] at quotes
  omega

section Record

variable {clientId : Bytes} {n : NodeId} {keepAlive : Int}

/-- The record is the text that `registerDevice` would print at the last write. -/
structure WellEdited (clientId : Bytes) (n : NodeId) (keepAlive : Int) (s : Edited) : Prop where
  persistent : s.world.redis.devices.expireAt = none
  text : s.world.redis.devices.get s.world.now (cstr clientId) =
    some (RedisClient.registryText n.text (s.last / kSecond : Nat) keepAlive)

theorem wellEdited_registered {c : RedisClient} {w : World} (persistent : w.redis.devices.expireAt = none)
    (works : c.connected_ = true ∧ c.answers = true)
    (fits : (RedisClient.registryText n.text (w.now / kSecond : Nat) keepAlive).length ≤ 511) :
    WellEdited clientId n keepAlive (registered c w clientId n keepAlive) := by
  unfold registered RedisClient.registerDevice
  rw [if_pos works]
  refine ⟨Hash.persistent_set persistent _ _ _, ?_⟩
  have whole : snprintf 512 (RedisClient.registryText n.text (w.now / kSecond : Nat) keepAlive) =
      RedisClient.registryText n.text (w.now / kSecond : Nat) keepAlive := List.take_of_length_le fits
  exact (Hash.get_set_self _ _ _ _).trans (congrArg some whole)

theorem wellEdited_touchStep (quoteFree : 34 ∉ n.text) {s : Edited} (t : Touch) (recorded : WellEdited clientId n keepAlive s) :
    WellEdited clientId n keepAlive (touchStep clientId s t) := by
  obtain ⟨persistent, text⟩ := recorded
  -- the record does not depend on the clock
  have later : s.world.redis.devices.get (s.world.now + t.delta) (cstr clientId) =
      some (RedisClient.registryText n.text (s.last / kSecond : Nat) keepAlive) := by
    rw [Hash.get_of_persistent persistent] at text ⊢
    exact text
  unfold touchStep RedisClient.updateDeviceHeartbeat
  dsimp only
  by_cases works : t.client.connected_ = true ∧ t.client.answers = true
  · rw [if_pos works, if_pos works]
    refine ⟨persistent_touchRecord _ _ persistent, ?_⟩
    unfold RedisClient.touchRecord
    dsimp only
    rw [later, Option.bind_some, replaceHeartbeat_registryText (plain_of_no_quote quoteFree)]
    dsimp only
    rw [cstr_of_no_nul (registryText_no_nul n _ keepAlive)]
    exact Hash.get_set_self _ _ _ _
  · rw [if_neg works, if_neg works]
    exact ⟨persistent, later⟩

theorem wellEdited_touches (quoteFree : 34 ∉ n.text) (touches : List Touch) {s : Edited}
    (recorded : WellEdited clientId n keepAlive s) : WellEdited clientId n keepAlive (run (touchStep clientId) s touches) :=
  run_kept _ (WellEdited clientId n keepAlive) recorded (fun _ t before => wellEdited_touchStep quoteFree t before) touches

theorem quotable_of_fits (quoteFree : 34 ∉ n.text) {heartbeat : Int}
    (fits : (RedisClient.registryText n.text heartbeat keepAlive).length ≤ 511) : QuotableId n := by
  have head := (registryText_head n heartbeat keepAlive).length_le
  rw [length_recordHead] at head
  exact ⟨quoteFree, by omega⟩

end Record

section Run

variable {events : List Event} {clientId : Bytes} {n : NodeId} {keepAlive : Int} {c : RedisClient} {s : System}

/-- Whatever has happened before, from the registration on the record is the printed text with the second of the last
write, and the id of the node can be read out of it. -/
theorem record_after_touches (reached : s = run System.step System.new events)
    (works : c.connected_ = true ∧ c.answers = true) (quoteFree : 34 ∉ n.text)
    (fits : (RedisClient.registryText n.text (s.world.now / kSecond : Nat) keepAlive).length ≤ 511) (touches : List Touch) :
    let edited := run (touchStep clientId) (registered c s.world clientId n keepAlive) touches
    let text := RedisClient.registryText n.text (edited.last / kSecond : Nat) keepAlive
    edited.world.redis.devices.get edited.world.now (cstr clientId) = some text ∧
      ClusterManager.extractJsonField text (ascii "gateway") = n.text := by
  intro edited text
  have persistent : s.world.redis.devices.expireAt = none := reached ▸ persistent_devices events
  have recorded : WellEdited clientId n keepAlive edited :=
    wellEdited_touches quoteFree touches (wellEdited_registered persistent works fits)
  exact ⟨recorded.text, extractJsonField_head (quotable_of_fits quoteFree fits) (registryText_head n _ keepAlive)⟩

/-- On a node that does not have the device, `findDeviceNode` returns the id of the node that registered it exactly when
that id is empty and nothing can be asked of Redis. -/
theorem findDeviceNode_names_iff (reached : s = run System.step System.new events)
    (works : c.connected_ = true ∧ c.answers = true) (quoteFree : 34 ∉ n.text)
    (fits : (RedisClient.registryText n.text (s.world.now / kSecond : Nat) keepAlive).length ≤ 511) (touches : List Touch)
    (m : NodeId) (g : GatewayServer) (absent : g.deviceMgr_.findDevice g.conns clientId = none) :
    let edited := run (touchStep clientId) (registered c s.world clientId n keepAlive) touches
    let targetNode := g.deviceMgr_.findDeviceNode m g.redisClient_ g.conns edited.world clientId
    (targetNode = n.text ∧ (targetNode = m.text ↔ n = m)) ↔
      n.text = [] ∧ ¬ (g.redisClient_.connected_ = true ∧ g.redisClient_.answers = true) := by
  intro edited targetNode
  have persistent : s.world.redis.devices.expireAt = none := reached ▸ persistent_devices events
  have recorded : WellEdited clientId n keepAlive edited :=
    wellEdited_touches quoteFree touches (wellEdited_registered persistent works fits)
  have target : targetNode = if g.redisClient_.connected_ = true ∧ g.redisClient_.answers = true then
      RedisClient.registryText n.text (edited.last / kSecond : Nat) keepAlive else [] := by
    unfold targetNode DeviceManager.findDeviceNode RedisClient.getDeviceGateway RedisClient.isConnected
    rw [absent, recorded.text]
    by_cases connected : g.redisClient_.connected_ = true
    · simp [connected]
    · simp [connected]
  rw [target]
  by_cases asks : g.redisClient_.connected_ = true ∧ g.redisClient_.answers = true
  · rw [if_pos asks]
    refine iff_of_false ?_ fun both => both.2 asks
    rintro ⟨same, _⟩
    have longer := (registryText_head n (edited.last / kSecond : Nat) keepAlive).length_le
    rw [same, length_recordHead] at longer
    omega
  · rw [if_neg asks]
    constructor
    · rintro ⟨same, _⟩
      exact ⟨same.symm, asks⟩
    · rintro ⟨empty, _⟩
      rw [empty]
      refine ⟨rfl, fun same => NodeId.ext_text (empty.trans same), ?_⟩
      rintro rfl
      exact empty.symm

end Run

/-! ### A sensor that is registered and touched twice -/

def onlineClient : RedisClient := { connected_ := true, conn_ := some .up, subConn_ := some .up }

def twoTouches : List Touch := [⟨15 * kSecond, onlineClient⟩, ⟨16 * kSecond, onlineClient⟩]

def sensorEdited : Edited :=
  run (touchStep (ascii "sensor")) (registered onlineClient System.new.world (ascii "sensor") gateway1 60) twoTouches

def otherNode : GatewayServer := { redisClient_ := onlineClient }

theorem sensor_record_after_touches :
    sensorEdited.world.redis.devices.get sensorEdited.world.now (ascii "sensor") =
        some (ascii "\x7b\"gateway\":\"gateway-1\",\"heartbeat\":31,\"keepalive\":60\x7d") ∧
      ClusterManager.extractJsonField (ascii "\x7b\"gateway\":\"gateway-1\",\"heartbeat\":31,\"keepalive\":60\x7d")
        (ascii "gateway") = ascii "gateway-1" := by
  have text : RedisClient.registryText gateway1.text ((31 * kSecond) / kSecond : Nat) 60 =
      ascii "\x7b\"gateway\":\"gateway-1\",\"heartbeat\":31,\"keepalive\":60\x7d" := by decide +kernel
  rw [← text]
  exact @record_after_touches [] (ascii "sensor") gateway1 60 onlineClient System.new rfl (by decide) (by decide)
    (by decide +kernel) twoTouches

theorem sensor_node_not_named :
    ¬ (otherNode.deviceMgr_.findDeviceNode gateway2 otherNode.redisClient_ otherNode.conns sensorEdited.world
        (ascii "sensor") = gateway1.text ∧
      (otherNode.deviceMgr_.findDeviceNode gateway2 otherNode.redisClient_ otherNode.conns sensorEdited.world
        (ascii "sensor") = gateway2.text ↔ gateway1 = gateway2)) := by
  intro named
  have empty := ((@findDeviceNode_names_iff [] (ascii "sensor") gateway1 60 onlineClient System.new rfl (by decide)
    (by decide) (by decide +kernel) twoTouches gateway2 otherNode rfl).mp named).1
  exact absurd empty (by decide)

/-- The record is returned in place of the id in it, so the node in the record takes itself for another node. -/
theorem sensor_node_is_record :
    otherNode.deviceMgr_.findDevice otherNode.conns (ascii "sensor") = none ∧
      otherNode.deviceMgr_.findDeviceNode gateway1 otherNode.redisClient_ otherNode.conns sensorEdited.world
        (ascii "sensor") = ascii "\x7b\"gateway\":\"gateway-1\",\"heartbeat\":31,\"keepalive\":60\x7d" ∧
      otherNode.deviceMgr_.findDeviceNode gateway1 otherNode.redisClient_ otherNode.conns sensorEdited.world
        (ascii "sensor") ≠ gateway1.text := by
  have record : otherNode.deviceMgr_.findDeviceNode gateway1 otherNode.redisClient_ otherNode.conns sensorEdited.world
      (ascii "sensor") = ascii "\x7b\"gateway\":\"gateway-1\",\"heartbeat\":31,\"keepalive\":60\x7d" := by decide +kernel
  refine ⟨rfl, record, ?_⟩
  rw [record]
  decide

end IotGateway.Gateway
