import IotGateway.Api.Responses
import IotGateway.Api.PostedCommand

/-!
# The API server of a gateway

The callbacks that `gateway_main` injects, and the answers as JSON objects. Every number
is printed from a 64-bit integer, so every text with numbers only fits its buffer. The two
texts with a device id may be cut, and the id is printed without any escaping.
-/

namespace IotGateway.Gateway
open Storage

namespace DeviceManager

/-- `onlineCount`: of the whole cluster while there is a connection to the store. -/
def onlineCount (redis_ : RedisClient) (d : DeviceManager) (w : World) : Nat :=
  if redis_.isConnected then redis_.deviceCount w else d.localOnlineCount

end DeviceManager

namespace GatewayServer

def deviceCount (g : GatewayServer) (w : World) : Nat := g.deviceMgr_.onlineCount g.redisClient_ w

def localDeviceCount (g : GatewayServer) : Nat := g.deviceMgr_.localOnlineCount

def clusterStats (g : GatewayServer) (w : World) : ClusterStats := g.clusterMgr_.getStats g.redisClient_ w

/-- `cmdConsumed_` counts in an `int64_t`. -/
def consumedCommandCount (g : GatewayServer) : Int := Int.bmod g.cmdConsumed_ (2 ^ 64)

end GatewayServer
end IotGateway.Gateway

namespace IotGateway.Api
open Text Net Storage Gateway Json

/-- A count as a `size_t` has it. -/
def sizeT (n : Nat) : Nat := n % 2 ^ 64

/-- A gateway, and what its next command will find: the fate of the `XADD` and the two readings of the clock. -/
structure Served where
  gateway : GatewayServer
  world : World
  fate : RedisClient.XaddFate
  cmdId : Int
  ts : Int

namespace Served

/-- The members of the statistics, in the order in which `gateway_main` prints them. -/
def statsMembers (s : Served) : List (Bytes × Bytes) :=
  let stats := s.gateway.clusterStats s.world
  [(ascii "total_nodes", decimal (sizeT stats.totalNodes)),
    (ascii "online_nodes", decimal (sizeT stats.onlineNodes)),
    (ascii "total_devices", decimal (sizeT stats.totalDevices)),
    (ascii "pending_commands", decimal (sizeT stats.pendingCommands)),
    (ascii "local_devices", decimal (sizeT s.gateway.localDeviceCount)),
    (ascii "cmd_consumed", decimal s.gateway.consumedCommandCount)]

end Served

/-- The text that the callback of `setClusterStatsFn` prints, before `snprintf` cuts it. -/
def statsText (s : Served) : Bytes :=
  let stats := s.gateway.clusterStats s.world
  ascii "\x7b\"total_nodes\":" ++ decimal (sizeT stats.totalNodes) ++
    ascii ",\"online_nodes\":" ++ decimal (sizeT stats.onlineNodes) ++
    ascii ",\"total_devices\":" ++ decimal (sizeT stats.totalDevices) ++
    ascii ",\"pending_commands\":" ++ decimal (sizeT stats.pendingCommands) ++
    ascii ",\"local_devices\":" ++ decimal (sizeT s.gateway.localDeviceCount) ++
    ascii ",\"cmd_consumed\":" ++ decimal s.gateway.consumedCommandCount ++ ascii "\x7d"

/-- The API server as `gateway_main` sets it up. -/
def gatewayApi : ApiServer Served where
  deviceCountFn_ := some fun s => sizeT (s.gateway.deviceCount s.world)
  commandSenderFn_ := some fun deviceId command params s =>
    let (cmdId, gateway, world) := s.gateway.enqueueCommand s.fate s.cmdId s.ts s.world deviceId command params
    (cmdId, { s with gateway, world })
  clusterStatsFn_ := some fun s => snprintf 512 (statsText s)
  deviceDetailFn_ := none
  commandStatusFn_ := none

/-! ### The answers as objects -/

/-- What an answer says: its status, the members of its object, and the members of the objects among their values. -/
structure JsonAnswer where
  statusCode : Nat
  members : List (Bytes × Bytes)
  inner : List (List (Bytes × Bytes)) := []

/-- The text is the object, and the values that are meant to be objects are those. -/
structure JsonAnswer.Told (a : JsonAnswer) (json : Bytes) : Prop where
  outer : IsObject .unescaped a.members json
  inner : ∀ ms ∈ a.inner, IsObject .unescaped ms (objectText ms)

def codeZero : Bytes × Bytes := (ascii "code", decimal 0)

def codeMinusOne : Bytes × Bytes := (ascii "code", decimal (-1))

def onlineMembers (s : Served) : List (Bytes × Bytes) :=
  [(ascii "online_devices", decimal (sizeT (s.gateway.deviceCount s.world))), (ascii "uptime_seconds", decimal 0)]

def deviceMembers (deviceId : Bytes) : List (Bytes × Bytes) :=
  [(ascii "id", quoted deviceId), (ascii "status", quoted (ascii "unknown"))]

def Call.answer (s : Served) : Call → JsonAnswer
  | handlePostCommand body =>
    if requestedDevice body = [] ∨ requestedCommand body = [] then
      ⟨400, [codeMinusOne, (ascii "message", quoted (ascii "missing device_id or command"))], []⟩
    else
      ⟨200, [codeZero, (ascii "command_id", decimal s.cmdId), (ascii "device_id", quoted (requestedDevice body)),
        (ascii "status", quoted (ascii "enqueued")), (ascii "message", quoted (ascii "ok"))], []⟩
  | handleGetDevices => ⟨200, [codeZero, (ascii "online_devices", decimal (sizeT (s.gateway.deviceCount s.world)))], []⟩
  | handleGetStats =>
    ⟨200, [codeZero, (ascii "stats", objectText (onlineMembers s))], [onlineMembers s]⟩
  | handleGetCluster => ⟨200, [codeZero, (ascii "cluster", objectText s.statsMembers)], [s.statsMembers]⟩
  | handleGetNodes => ⟨200, [codeZero, (ascii "nodes", objectText s.statsMembers)], [s.statsMembers]⟩
  | handleGetHealth =>
    ⟨200, [(ascii "status", quoted (ascii "ok")), (ascii "service", quoted (ascii "iot-gateway")),
      (ascii "version", quoted (ascii "2.0.0"))], []⟩
  | handleGetDeviceDetail deviceId =>
    ⟨200, [codeZero, (ascii "device", objectText (deviceMembers deviceId))], [deviceMembers deviceId]⟩
  | handleGetCommandStatus commandId =>
    ⟨200, [codeZero, (ascii "command_id", decimal commandId), (ascii "status", quoted (ascii "unknown"))], []⟩
  | handleNotFound => ⟨404, [codeMinusOne, (ascii "message", quoted (ascii "not found"))], []⟩

/-- The device id that the answer repeats can stand in a string as it is, and there is room for it. -/
def Call.Printable (s : Served) : Call → Prop
  | handlePostCommand body =>
    requestedDevice body = [] ∨ requestedCommand body = [] ∨
      Content .unescaped (requestedDevice body) ∧ (decimal s.cmdId).length + (requestedDevice body).length ≤ 181
  | handleGetDeviceDetail deviceId => Content .unescaped deviceId ∧ deviceId.length ≤ 207
  | _ => True

/-! ### Printing an object -/

section Printing

variable {a : JsonAnswer}

/-- A member name of the answers. -/
theorem named {s : Bytes} (plain : ∀ b ∈ s, 32 ≤ b ∧ b ≠ 34 ∧ b ≠ 92) : Content .unescaped s := content_of_plain plain

theorem told_snprintf_iff (names : ∀ m ∈ a.members, Content .unescaped m.1) (some : a.members ≠ []) {size : Nat} (room : 0 < size) :
    a.Told (snprintf size (objectText a.members)) ↔
      ((∀ m ∈ a.members, Derives .unescaped .text m.2) ∧ ∀ ms ∈ a.inner, IsObject .unescaped ms (objectText ms)) ∧
        (objectText a.members).length < size := by
  constructor
  · intro told
    obtain ⟨values, fits⟩ := (isObject_snprintf_iff names some room).mp told.outer
    exact ⟨⟨values, told.inner⟩, fits⟩
  · intro both
    obtain ⟨⟨values, inner⟩, fits⟩ := both
    exact ⟨(isObject_snprintf_iff names some room).mpr ⟨values, fits⟩, inner⟩

/-- What can stand in a string has no NUL, so `%s` prints all of it. -/
theorem no_nul_of_unescaped {s : Bytes} (content : Content .unescaped s) : 0 ∉ s :=
  no_nul_of_content (fun plain : Charset.unescaped.plain 0 => absurd plain.1 (by decide)) content

theorem length_decimal_le {n : Int} (low : -2 ^ 63 ≤ n) (high : n < 2 ^ 64) : (decimal n).length ≤ 20 := by
  cases n with
  | ofNat n =>
    have below : (n : Int) < 2 ^ 64 := high
    exact length_decimalNat_le (k := 19) (by omega)
  | negSucc n =>
    have below : n + 1 ≤ 2 ^ 63 := by
      have bound : (n : Int) + 1 ≤ 2 ^ 63 := by
        rw [Int.negSucc_eq] at low
        omega
      exact_mod_cast bound
    have digits : (decimalNat (n + 1)).length ≤ 19 := length_decimalNat_le (k := 18) (by omega)
    rw [decimal, List.length_cons]
    omega

theorem length_sizeT (n : Nat) : (decimal (sizeT n)).length ≤ 20 := by
  have below : sizeT n < 2 ^ 64 := Nat.mod_lt _ (by decide)
  exact length_decimal_le (by omega) (by exact_mod_cast below)

end Printing

/-! ### The texts -/

section Texts

variable (s : Served)

theorem enqueuedText_object (cmdId : Int) {deviceId : Bytes} (clean : 0 ∉ deviceId) :
    enqueuedText cmdId deviceId = objectText [codeZero, (ascii "command_id", decimal cmdId),
      (ascii "device_id", quoted deviceId), (ascii "status", quoted (ascii "enqueued")),
      (ascii "message", quoted (ascii "ok"))] := by
  rw [enqueuedText, cstr_of_no_nul clean]
  simp only [objectText, membersText, quoted, List.append_assoc, List.cons_append, List.nil_append]
  rfl

theorem statsText_object : statsText s = objectText s.statsMembers := by
  have first : ascii "\x7b\"total_nodes\":" = 123 :: 34 :: (ascii "total_nodes" ++ [34, 58]) := rfl
  have online : ascii ",\"online_nodes\":" = 44 :: 34 :: (ascii "online_nodes" ++ [34, 58]) := rfl
  have devices : ascii ",\"total_devices\":" = 44 :: 34 :: (ascii "total_devices" ++ [34, 58]) := rfl
  have pending : ascii ",\"pending_commands\":" = 44 :: 34 :: (ascii "pending_commands" ++ [34, 58]) := rfl
  have here : ascii ",\"local_devices\":" = 44 :: 34 :: (ascii "local_devices" ++ [34, 58]) := rfl
  have consumed : ascii ",\"cmd_consumed\":" = 44 :: 34 :: (ascii "cmd_consumed" ++ [34, 58]) := rfl
  have last : ascii "\x7d" = [125] := rfl
  have printed : ∀ n₁ n₂ n₃ n₄ n₅ n₆ v₁ v₂ v₃ v₄ v₅ v₆ : Bytes,
      123 :: 34 :: (n₁ ++ [34, 58]) ++ v₁ ++ 44 :: 34 :: (n₂ ++ [34, 58]) ++ v₂ ++ 44 :: 34 :: (n₃ ++ [34, 58]) ++ v₃ ++
        44 :: 34 :: (n₄ ++ [34, 58]) ++ v₄ ++ 44 :: 34 :: (n₅ ++ [34, 58]) ++ v₅ ++ 44 :: 34 :: (n₆ ++ [34, 58]) ++ v₆ ++
        [125] = objectText [(n₁, v₁), (n₂, v₂), (n₃, v₃), (n₄, v₄), (n₅, v₅), (n₆, v₆)] := by
    intros
    simp [objectText, membersText, quoted]
  unfold statsText
  dsimp only
  rw [first, online, devices, pending, here, consumed, last]
  exact printed _ _ _ _ _ _ _ _ _ _ _ _

theorem length_statsText : (statsText s).length < 512 := by
  have consumed : (decimal s.gateway.consumedCommandCount).length ≤ 20 := by
    apply length_decimal_le
    · have low := Int.le_bmod (x := s.gateway.cmdConsumed_) (m := 2 ^ 64) (by decide)
      unfold GatewayServer.consumedCommandCount
      omega
    · have high := Int.bmod_lt (x := s.gateway.cmdConsumed_) (m := 2 ^ 64) (by decide)
      unfold GatewayServer.consumedCommandCount
      omega
  have total := length_sizeT (s.gateway.clusterStats s.world).totalNodes
  have online := length_sizeT (s.gateway.clusterStats s.world).onlineNodes
  have devices := length_sizeT (s.gateway.clusterStats s.world).totalDevices
  have pending := length_sizeT (s.gateway.clusterStats s.world).pendingCommands
  have here := length_sizeT s.gateway.localDeviceCount
  simp only [statsText, List.length_append, show (ascii "\x7b\"total_nodes\":").length = 15 from rfl,
    show (ascii ",\"online_nodes\":").length = 16 from rfl, show (ascii ",\"total_devices\":").length = 17 from rfl,
    show (ascii ",\"pending_commands\":").length = 20 from rfl, show (ascii ",\"local_devices\":").length = 17 from rfl,
    show (ascii ",\"cmd_consumed\":").length = 16 from rfl, show (ascii "\x7d").length = 1 from rfl]
  omega

theorem isObject_statsMembers : IsObject .unescaped s.statsMembers (objectText s.statsMembers) := by
  apply isObject_objectText
  · simp only [Served.statsMembers, List.forall_mem_cons, List.not_mem_nil, false_implies, implies_true, and_true]
    refine ⟨named ?_, named ?_, named ?_, named ?_, named ?_, named ?_⟩
    all_goals decide
  · simp only [Served.statsMembers, List.forall_mem_cons, List.not_mem_nil, false_implies, implies_true, and_true]
    exact ⟨derives_decimal _, derives_decimal _, derives_decimal _, derives_decimal _, derives_decimal _, derives_decimal _⟩

end Texts

/-! ### The answer of each handler -/

section Handlers

variable (s : Served)

/-- The names and values of an answer without a device id are in order, so it is told when there is room. -/
theorem told_of_fits {a : JsonAnswer} (object : ∀ m ∈ a.members, Content .unescaped m.1 ∧ Derives .unescaped .text m.2)
    (some : a.members ≠ []) (inner : ∀ ms ∈ a.inner, IsObject .unescaped ms (objectText ms)) {size : Nat}
    (fits : (objectText a.members).length < size) : a.Told (snprintf size (objectText a.members)) := by
  have names : ∀ m ∈ a.members, Content .unescaped m.1 := fun m member => (object m member).1
  have values : ∀ m ∈ a.members, Derives .unescaped .text m.2 := fun m member => (object m member).2
  exact (told_snprintf_iff names some (by omega)).mpr ⟨⟨values, inner⟩, fits⟩

theorem codeZero_object : Content .unescaped codeZero.1 ∧ Derives .unescaped .text codeZero.2 :=
  ⟨named (by decide), derives_decimal 0⟩

theorem codeMinusOne_object : Content .unescaped codeMinusOne.1 ∧ Derives .unescaped .text codeMinusOne.2 :=
  ⟨named (by decide), derives_decimal (-1)⟩

theorem string_object {name value : Bytes} (plain : ∀ b ∈ name, 32 ≤ b ∧ b ≠ 34 ∧ b ≠ 92)
    (content : Content .unescaped value) : Content .unescaped (name, quoted value).1 ∧
      Derives .unescaped .text (name, quoted value).2 := ⟨named plain, compact_string content⟩

theorem number_object {name : Bytes} (plain : ∀ b ∈ name, 32 ≤ b ∧ b ≠ 34 ∧ b ≠ 92) (n : Int) :
    Content .unescaped (name, decimal n).1 ∧ Derives .unescaped .text (name, decimal n).2 := ⟨named plain, derives_decimal n⟩

/-- The text of an accepted command. -/
theorem enqueued_told_iff (cmdId : Int) (deviceId : Bytes) :
    (JsonAnswer.mk 200 [codeZero, (ascii "command_id", decimal cmdId), (ascii "device_id", quoted deviceId),
        (ascii "status", quoted (ascii "enqueued")), (ascii "message", quoted (ascii "ok"))] []).Told
        (snprintf 256 (enqueuedText cmdId deviceId)) ↔
      Content .unescaped deviceId ∧ (decimal cmdId).length + deviceId.length ≤ 181 := by
  by_cases content : Content .unescaped deviceId
  swap
  · refine iff_of_false (fun told => content ?_) fun both => content both.1
    obtain ⟨t, derived, _⟩ := told.outer
    have value := derives_slot derived (ascii "device_id", quoted deviceId) (by simp)
    exact derives_quoted_iff.mp value
  have length : (enqueuedText cmdId deviceId).length = 74 + (decimal cmdId).length + deviceId.length := by
    rw [enqueuedText, cstr_of_no_nul (no_nul_of_unescaped content)]
    simp only [List.length_append, show (ascii "\x7b\"code\":0,\"command_id\":").length = 23 from rfl,
      show (ascii ",\"device_id\":\"").length = 14 from rfl,
      show (ascii "\",\"status\":\"enqueued\",\"message\":\"ok\"\x7d").length = 37 from rfl]
    omega
  have members : ∀ m ∈ [codeZero, (ascii "command_id", decimal cmdId), (ascii "device_id", quoted deviceId),
      (ascii "status", quoted (ascii "enqueued")), (ascii "message", quoted (ascii "ok"))],
      Content .unescaped m.1 ∧ Derives .unescaped .text m.2 := by
    simp only [List.forall_mem_cons, List.not_mem_nil, false_implies, implies_true, and_true]
    exact ⟨codeZero_object, number_object (by decide) cmdId, string_object (by decide) content,
      string_object (by decide) (named (by decide)), string_object (by decide) (named (by decide))⟩
  rw [enqueuedText_object cmdId (no_nul_of_unescaped content)] at length ⊢
  rw [told_snprintf_iff (fun m member => (members m member).1) (List.cons_ne_nil _ _) (by decide), length]
  constructor
  · intro both
    exact ⟨content, by omega⟩
  · intro both
    exact ⟨⟨fun m member => (members m member).2, List.forall_mem_nil _⟩, by omega⟩

theorem deviceMembers_object {deviceId : Bytes} (content : Content .unescaped deviceId) :
    IsObject .unescaped (deviceMembers deviceId) (objectText (deviceMembers deviceId)) ∧
      Derives .unescaped .text (objectText (deviceMembers deviceId)) := by
  have members : ∀ m ∈ deviceMembers deviceId, Content .unescaped m.1 ∧ Derives .unescaped .text m.2 := by
    simp only [deviceMembers, List.forall_mem_cons, List.not_mem_nil, false_implies, implies_true, and_true]
    exact ⟨string_object (by decide) content, string_object (by decide) (named (by decide))⟩
  have names : ∀ m ∈ deviceMembers deviceId, Content .unescaped m.1 := fun m member => (members m member).1
  have values : ∀ m ∈ deviceMembers deviceId, Derives .unescaped .text m.2 := fun m member => (members m member).2
  exact ⟨isObject_objectText names values, derives_objectText names values⟩

/-- The text of a device whose details no callback gives. -/
def deviceText (deviceId : Bytes) : Bytes :=
  ascii "\x7b\"code\":0,\"device\":\x7b\"id\":\"" ++ cstr deviceId ++ ascii "\",\"status\":\"unknown\"\x7d\x7d"

theorem deviceText_object {deviceId : Bytes} (clean : 0 ∉ deviceId) :
    deviceText deviceId = objectText [codeZero, (ascii "device", objectText (deviceMembers deviceId))] := by
  rw [deviceText, cstr_of_no_nul clean]
  simp only [deviceMembers, objectText, membersText, quoted, List.append_assoc, List.cons_append, List.nil_append]
  rfl

theorem device_told_iff (deviceId : Bytes) :
    (JsonAnswer.mk 200 [codeZero, (ascii "device", objectText (deviceMembers deviceId))] [deviceMembers deviceId]).Told
        (snprintf 256 (deviceText deviceId)) ↔ Content .unescaped deviceId ∧ deviceId.length ≤ 207 := by
  by_cases content : Content .unescaped deviceId
  swap
  · refine iff_of_false (fun told => content ?_) fun both => content both.1
    obtain ⟨t, derived, _⟩ := told.inner (deviceMembers deviceId) List.mem_cons_self
    have value := derives_slot derived (ascii "id", quoted deviceId) List.mem_cons_self
    exact derives_quoted_iff.mp value
  have clean := no_nul_of_unescaped content
  have length : (deviceText deviceId).length = 48 + deviceId.length := by
    rw [deviceText, cstr_of_no_nul clean]
    simp only [List.length_append, show (ascii "\x7b\"code\":0,\"device\":\x7b\"id\":\"").length = 26 from rfl,
      show (ascii "\",\"status\":\"unknown\"\x7d\x7d").length = 22 from rfl]
    omega
  obtain ⟨inner, value⟩ := deviceMembers_object content
  have members : ∀ m ∈ [codeZero, (ascii "device", objectText (deviceMembers deviceId))],
      Content .unescaped m.1 ∧ Derives .unescaped .text m.2 := by
    simp only [List.forall_mem_cons, List.not_mem_nil, false_implies, implies_true, and_true]
    exact ⟨codeZero_object, named (by decide), value⟩
  rw [deviceText_object clean] at length ⊢
  rw [told_snprintf_iff (fun m member => (members m member).1) (List.cons_ne_nil _ _) (by decide), length]
  constructor
  · intro both
    exact ⟨content, by omega⟩
  · intro both
    refine ⟨⟨fun m member => (members m member).2, ?_⟩, by omega⟩
    intro ms member
    rw [List.mem_singleton.mp member]
    exact inner

/-- A fixed text is not cut. -/
theorem told_whole {a : JsonAnswer} (object : ∀ m ∈ a.members, Content .unescaped m.1 ∧ Derives .unescaped .text m.2)
    (inner : ∀ ms ∈ a.inner, IsObject .unescaped ms (objectText ms)) : a.Told (objectText a.members) :=
  ⟨isObject_objectText (fun m member => (object m member).1) fun m member => (object m member).2, inner⟩

theorem onlineMembers_object : IsObject .unescaped (onlineMembers s) (objectText (onlineMembers s)) ∧
    Derives .unescaped .text (objectText (onlineMembers s)) := by
  have members : ∀ m ∈ onlineMembers s, Content .unescaped m.1 ∧ Derives .unescaped .text m.2 := by
    simp only [onlineMembers, List.forall_mem_cons, List.not_mem_nil, false_implies, implies_true, and_true]
    exact ⟨number_object (by decide) (sizeT (s.gateway.deviceCount s.world)), number_object (by decide) 0⟩
  have names : ∀ m ∈ onlineMembers s, Content .unescaped m.1 := fun m member => (members m member).1
  have values : ∀ m ∈ onlineMembers s, Derives .unescaped .text m.2 := fun m member => (members m member).2
  exact ⟨isObject_objectText names values, derives_objectText names values⟩

theorem devices_told (n : Nat) :
    (JsonAnswer.mk 200 [codeZero, (ascii "online_devices", decimal (sizeT n))] []).Told (snprintf 128
      (ascii "\x7b\"code\":0,\"online_devices\":" ++ decimal (sizeT n) ++ ascii "\x7d")) := by
  have number := length_sizeT n
  have text : ascii "\x7b\"code\":0,\"online_devices\":" ++ decimal (sizeT n) ++ ascii "\x7d" =
      objectText [codeZero, (ascii "online_devices", decimal (sizeT n))] := by
    simp only [objectText, membersText, quoted, List.append_assoc, List.cons_append, List.nil_append]
    rfl
  have length : (ascii "\x7b\"code\":0,\"online_devices\":" ++ decimal (sizeT n) ++ ascii "\x7d").length < 128 := by
    simp only [List.length_append, show (ascii "\x7b\"code\":0,\"online_devices\":").length = 27 from rfl,
      show (ascii "\x7d").length = 1 from rfl]
    omega
  rw [text] at length ⊢
  refine told_of_fits ?_ (List.cons_ne_nil _ _) (by simp) length
  simp only [List.forall_mem_cons, List.not_mem_nil, false_implies, implies_true, and_true]
  exact ⟨codeZero_object, number_object (by decide) (sizeT n)⟩

theorem stats_told : (JsonAnswer.mk 200 [codeZero, (ascii "stats", objectText (onlineMembers s))] [onlineMembers s]).Told
    (snprintf 256 (ascii "\x7b\"code\":0,\"stats\":\x7b\"online_devices\":" ++
      decimal (sizeT (s.gateway.deviceCount s.world)) ++ ascii ",\"uptime_seconds\":0\x7d\x7d")) := by
  have number := length_sizeT (s.gateway.deviceCount s.world)
  have text : ascii "\x7b\"code\":0,\"stats\":\x7b\"online_devices\":" ++ decimal (sizeT (s.gateway.deviceCount s.world)) ++
      ascii ",\"uptime_seconds\":0\x7d\x7d" = objectText [codeZero, (ascii "stats", objectText (onlineMembers s))] := by
    simp only [onlineMembers, objectText, membersText, quoted, List.append_assoc, List.cons_append, List.nil_append]
    rfl
  have length : (ascii "\x7b\"code\":0,\"stats\":\x7b\"online_devices\":" ++
      decimal (sizeT (s.gateway.deviceCount s.world)) ++ ascii ",\"uptime_seconds\":0\x7d\x7d").length < 256 := by
    simp only [List.length_append, show (ascii "\x7b\"code\":0,\"stats\":\x7b\"online_devices\":").length = 36 from rfl,
      show (ascii ",\"uptime_seconds\":0\x7d\x7d").length = 21 from rfl]
    omega
  obtain ⟨inner, value⟩ := onlineMembers_object s
  rw [text] at length ⊢
  refine told_of_fits ?_ (List.cons_ne_nil _ _) (by simpa using inner) length
  simp only [List.forall_mem_cons, List.not_mem_nil, false_implies, implies_true, and_true]
  exact ⟨codeZero_object, named (by decide), value⟩

theorem derives_statsMembers : Derives .unescaped .text (objectText s.statsMembers) := by
  obtain ⟨t, derived, same⟩ := isObject_statsMembers s
  rw [same]
  exact compact_object derived

/-- The statistics, under the name of the cluster or of its nodes. -/
theorem cluster_told (name : Bytes) (plain : ∀ b ∈ name, 32 ≤ b ∧ b ≠ 34 ∧ b ≠ 92) :
    (JsonAnswer.mk 200 [codeZero, (name, objectText s.statsMembers)] [s.statsMembers]).Told
      (objectText [codeZero, (name, snprintf 512 (statsText s))]) := by
  rw [snprintf_of_fits (length_statsText s), statsText_object]
  refine told_whole (a := JsonAnswer.mk 200 [codeZero, (name, objectText s.statsMembers)] [s.statsMembers]) ?_ ?_
  · simp only [List.forall_mem_cons, List.not_mem_nil, false_implies, implies_true, and_true]
    exact ⟨codeZero_object, named plain, derives_statsMembers s⟩
  · simpa using isObject_statsMembers s

theorem status_told {commandId : Int} (low : -2 ^ 63 ≤ commandId) (high : commandId < 2 ^ 63) :
    (JsonAnswer.mk 200 [codeZero, (ascii "command_id", decimal commandId), (ascii "status", quoted (ascii "unknown"))] []).Told
      (snprintf 128 (ascii "\x7b\"code\":0,\"command_id\":" ++ decimal commandId ++ ascii ",\"status\":\"" ++
        ascii "unknown\"\x7d")) := by
  have number : (decimal commandId).length ≤ 20 := length_decimal_le low (by omega)
  have text : ascii "\x7b\"code\":0,\"command_id\":" ++ decimal commandId ++ ascii ",\"status\":\"" ++ ascii "unknown\"\x7d" =
      objectText [codeZero, (ascii "command_id", decimal commandId), (ascii "status", quoted (ascii "unknown"))] := by
    simp only [objectText, membersText, quoted, List.append_assoc, List.cons_append, List.nil_append]
    rfl
  have length : (ascii "\x7b\"code\":0,\"command_id\":" ++ decimal commandId ++ ascii ",\"status\":\"" ++
      ascii "unknown\"\x7d").length < 128 := by
    simp only [List.length_append, show (ascii "\x7b\"code\":0,\"command_id\":").length = 23 from rfl,
      show (ascii ",\"status\":\"").length = 11 from rfl, show (ascii "unknown\"\x7d").length = 9 from rfl]
    omega
  rw [text] at length ⊢
  refine told_of_fits ?_ (List.cons_ne_nil _ _) (by simp) length
  simp only [List.forall_mem_cons, List.not_mem_nil, false_implies, implies_true, and_true]
  exact ⟨codeZero_object, number_object (by decide) commandId, string_object (by decide) (named (by decide))⟩

/-- The answer of every handler is the object it is meant to be, except where a device id is in the way. -/
theorem perform_told_iff (call : Call)
    (parsed : ∀ commandId, call = .handleGetCommandStatus commandId → -2 ^ 63 ≤ commandId ∧ commandId < 2 ^ 63) :
    ∃ json, (call.perform gatewayApi s).1 = sendJsonResponse (call.answer s).statusCode json ∧
      ((call.answer s).Told json ↔ call.Printable s) := by
  have number := length_sizeT (s.gateway.deviceCount s.world)
  cases call with
  | handlePostCommand body =>
    by_cases missing : requestedDevice body = [] ∨ requestedCommand body = []
    · refine ⟨objectText [codeMinusOne, (ascii "message", quoted (ascii "missing device_id or command"))], ?_, ?_⟩
      · have refused : (handlePostCommand gatewayApi body s).1 =
            sendJsonResponse 400 (ascii "\x7b\"code\":-1,\"message\":\"missing device_id or command\"\x7d") := by
          unfold handlePostCommand
          exact congrArg Prod.fst (if_pos missing)
        rw [Call.perform, refused, Call.answer, if_pos missing]
        rfl
      · have printable : (Call.handlePostCommand body).Printable s := missing.elim Or.inl fun empty => Or.inr (Or.inl empty)
        rw [Call.answer, if_pos missing]
        refine iff_of_true ?_ printable
        have members : ∀ m ∈ [codeMinusOne, (ascii "message", quoted (ascii "missing device_id or command"))],
            Content .unescaped m.1 ∧ Derives .unescaped .text m.2 := by
          simp only [List.forall_mem_cons, List.not_mem_nil, false_implies, implies_true, and_true]
          exact ⟨codeMinusOne_object, string_object (by decide) (named (by decide))⟩
        exact ⟨isObject_objectText (fun m member => (members m member).1) fun m member => (members m member).2,
          List.forall_mem_nil _⟩
    · refine ⟨snprintf 256 (enqueuedText s.cmdId (requestedDevice body)), ?_, ?_⟩
      · rw [Call.perform, Call.answer, if_neg missing]
        unfold handlePostCommand
        exact congrArg Prod.fst (if_neg missing)
      · rw [Call.answer, if_neg missing, enqueued_told_iff]
        have present : requestedDevice body ≠ [] ∧ requestedCommand body ≠ [] := not_or.mp missing
        simp only [Call.Printable, present.1, present.2, false_or]
  | handleGetDevices => exact ⟨_, rfl, iff_of_true (devices_told (s.gateway.deviceCount s.world)) trivial⟩
  | handleGetStats => exact ⟨_, rfl, iff_of_true (stats_told s) trivial⟩
  | handleGetCluster => exact ⟨_, rfl, iff_of_true (cluster_told s (ascii "cluster") (by decide)) trivial⟩
  | handleGetNodes => exact ⟨_, rfl, iff_of_true (cluster_told s (ascii "nodes") (by decide)) trivial⟩
  | handleGetHealth =>
    refine ⟨_, rfl, iff_of_true (told_whole (a := Call.answer s .handleGetHealth) ?_ (List.forall_mem_nil _)) trivial⟩
    simp only [Call.answer, List.forall_mem_cons, List.not_mem_nil, false_implies, implies_true, and_true]
    exact ⟨string_object (by decide) (named (by decide)), string_object (by decide) (named (by decide)),
      string_object (by decide) (named (by decide))⟩
  | handleGetDeviceDetail deviceId => exact ⟨_, rfl, device_told_iff deviceId⟩
  | handleGetCommandStatus commandId =>
    obtain ⟨low, high⟩ := parsed commandId rfl
    exact ⟨_, rfl, iff_of_true (status_told low high) trivial⟩
  | handleNotFound =>
    refine ⟨_, rfl, iff_of_true (told_whole (a := Call.answer s .handleNotFound) ?_ (List.forall_mem_nil _)) trivial⟩
    simp only [Call.answer, List.forall_mem_cons, List.not_mem_nil, false_implies, implies_true, and_true]
    exact ⟨codeMinusOne_object, string_object (by decide) (named (by decide))⟩

end Handlers

/-! ### A connection of the API server of a gateway -/

/-- The id in a status path was read by `std::stoll`. -/
theorem range_of_dispatch {request : Request} {commandId : Int}
    (chosen : dispatch request = .ok (.handleGetCommandStatus commandId)) : -2 ^ 63 ≤ commandId ∧ commandId < 2 ^ 63 := by
  have read : ∀ text : Bytes, Call.handleGetCommandStatus <$> stoll text = .ok (.handleGetCommandStatus commandId) →
      -2 ^ 63 ≤ commandId ∧ commandId < 2 ^ 63 := by
    intro text chosen
    cases parsed : stoll text with
    | error e =>
      rw [parsed] at chosen
      cases chosen
    | ok n =>
      rw [parsed] at chosen
      cases chosen
      unfold stoll stoInt at parsed
      split at parsed
      · cases parsed
      · split at parsed
        · rename_i inside
          cases parsed
          exact inside
        · cases parsed
  unfold dispatch at chosen
  dsimp only at chosen
  repeat
    split at chosen
    · cases chosen
  split at chosen
  · cases id : substr request.path 15 with
    | error e =>
      rw [id] at chosen
      cases chosen
    | ok deviceId =>
      rw [id] at chosen
      cases chosen
  split at chosen
  · cases id : substr request.path 18 with
    | error e =>
      rw [id] at chosen
      cases chosen
    | ok cmdIdStr =>
      rw [id] at chosen
      exact read cmdIdStr chosen
  · cases chosen

theorem sized_gatewayApi : Sized gatewayApi where
  deviceDetailFn_ := nofun
  clusterStatsFn_ := by
    intro stats injected s
    cases injected
    have cut : (snprintf 512 (statsText s)).length ≤ 511 := List.length_take_le _ _
    show (snprintf 512 (statsText s)).length + 32 < _
    omega

/-- What the handler of a gateway sends, for the call that was found in the buffer. -/
theorem handled_told_iff (buf : Buffer) (s : Served) {actions : List ConnAction} {s' : Served} (sends : actions ≠ [])
    (handled : (handleHttpRequest gatewayApi buf s).1 = .ok (actions, s')) :
    ∃ call json, called buf = .ok (some call) ∧ actions = sendJsonResponse (call.answer s).statusCode json ∧
      ((call.answer s).Told json ↔ call.Printable s) := by
  rw [handleHttpRequest_called] at handled
  cases reached : called buf with
  | error e =>
    rw [reached] at handled
    cases handled
  | ok call =>
    rw [reached] at handled
    cases call with
    | none =>
      cases handled
      exact absurd rfl sends
    | some call =>
      have parsed : ∀ commandId, call = .handleGetCommandStatus commandId → -2 ^ 63 ≤ commandId ∧ commandId < 2 ^ 63 := by
        intro commandId status
        subst status
        unfold called at reached
        split at reached
        · cases reached
        · rename_i request _
          cases chosen : dispatch request with
          | error e =>
            rw [chosen] at reached
            cases reached
          | ok call =>
            rw [chosen] at reached
            cases reached
            exact range_of_dispatch chosen
      obtain ⟨json, sent, told⟩ := perform_told_iff s call parsed
      refine ⟨call, json, rfl, ?_, told⟩
      rw [← sent]
      exact (congrArg Prod.fst (Except.ok.inj handled)).symm

theorem statusCode_lt (call : Call) (s : Served) : (call.answer s).statusCode < 1000 := by
  have refused : 400 < 1000 := by decide
  have done : 200 < 1000 := by decide
  cases call with
  | handlePostCommand body =>
    rw [Call.answer]
    split
    · exact refused
    · exact done
  | handleNotFound => exact (by decide : 404 < 1000)
  | handleGetDevices | handleGetStats | handleGetCluster | handleGetNodes | handleGetHealth => exact done
  | handleGetDeviceDetail deviceId | handleGetCommandStatus commandId => exact done

/-- Two sound responses that are written alike are the same. -/
theorem render_injective {r r' : Http.Response} (sound : r.Sound) (sound' : r'.Sound) (same : r.render = r'.render) :
    r = r' := by
  have first := Http.next_render sound []
  have second := Http.next_render sound' []
  rw [same, second] at first
  cases first
  rfl

/-- Once a gateway has shut a connection of its API, the client has read one response, and it is the answer to the call that
was found in the buffer at one of the reads. Its body is the JSON object of that call, except where the device id that it
repeats cannot stand in a string or leaves no room. -/
theorem gateway_answers_json (s : Served) {events : List (HttpEvent Served)} (healthy : ∀ e ∈ events, e.faults = false)
    (shut : fins (run (HttpConnection.step (handleHttpRequest gatewayApi)) (.new s) events).conn = 1) :
    ∃ before received writes after, events = before ++ .handleRead (.data received) writes :: after ∧
      let x := run (HttpConnection.step (handleHttpRequest gatewayApi)) (.new s) before
      ∃ call json, called (x.inputBuffer_.append received) = .ok (some call) ∧
        ((call.answer x.state).Told json ↔ call.Printable x.state) ∧
        ∀ pieces : List Bytes,
          pieces.flatten = written (run (HttpConnection.step (handleHttpRequest gatewayApi)) (.new s) events).conn.trace →
          Http.responses.feedAll pieces = ([.event (response (call.answer x.state).statusCode kJson json)], []) := by
  rcases one_response (handleHttpRequest_answers sized_gatewayApi) (fun _ answered => answered.sound) s healthy with
    none | ⟨r, ⟨answered, given⟩, _, _, read⟩
  · exact absurd (none.2.symm.trans shut) Nat.zero_ne_one
  obtain ⟨before, e, after, split, received, writes, state, rfl, handled⟩ := given
  refine ⟨before, received, writes, after, split, ?_⟩
  dsimp only
  generalize run (HttpConnection.step (handleHttpRequest gatewayApi)) (.new s) before = x at handled ⊢
  obtain ⟨call, json, reached, sent, told⟩ := handled_told_iff _ x.state (List.cons_ne_nil _ _) handled
  have same : r = response (call.answer x.state).statusCode kJson json := by
    have size : json.length < 2 ^ 64 := by
      obtain ⟨statusCode, json', rfl, _, size⟩ := answered
      have body := (List.cons.inj (List.cons.inj sent).2).1
      injection body with body
      exact body ▸ size
    rw [sendJsonResponse, sendHttpResponse_eq (statusCode_lt call x.state) (by decide) size] at sent
    simp only [List.cons.injEq, ConnAction.send.injEq, and_true] at sent
    refine render_injective answered.sound (response_sound (by decide)) ?_
    rw [Http.Response.render, Http.Response.render, sent.1, sent.2]
    rfl
  exact ⟨call, json, reached, told, fun pieces whole => same ▸ read shut pieces whole⟩

/-- A gateway without a connection to its store. -/
def idleGateway : Served := ⟨{}, ⟨0, .new, []⟩, .answered, 1, 1⟩

def askCluster : List (HttpEvent Served) :=
  [.connectEstablished, .handleRead (.data (ascii "GET /api/v1/cluster HTTP/1.1\r\n")) [],
    .handleRead (.data (ascii "GET /api/v1/cluster HTTP/1.1\r\nHost: gateway\r\n\r\n")) [.wrote 500, .wrote 20],
    .handleWrite (.wrote 500)]

theorem gateway_answers_json_cluster :
    let c := (run (HttpConnection.step (handleHttpRequest gatewayApi)) (.new idleGateway) askCluster).conn
    fins c = 1 ∧ ∃ (s : Served) (call : Call) (json : Bytes), ((call.answer s).Told json ↔ call.Printable s) ∧
      Http.responses.feedAll [written c.trace] = ([.event (response (call.answer s).statusCode kJson json)], []) := by
  have fin : fins (run (HttpConnection.step (handleHttpRequest gatewayApi)) (.new idleGateway) askCluster).conn = 1 := by
    decide +kernel
  have healthy : ∀ e ∈ askCluster, e.faults = false := by
    simp only [askCluster, List.forall_mem_cons, List.not_mem_nil, false_implies, implies_true, and_true]
    exact ⟨rfl, rfl, rfl, rfl⟩
  obtain ⟨before, received, writes, after, _, call, json, _, told, read⟩ := gateway_answers_json idleGateway healthy fin
  exact ⟨fin, _, call, json, told, read _ List.flatten_singleton⟩

end IotGateway.Api
