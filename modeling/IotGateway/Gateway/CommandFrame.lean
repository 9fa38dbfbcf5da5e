import IotGateway.Protocol.Bodies
import IotGateway.Gateway.Outcomes

/-!
# The frame of a command

`sendCommandToDevice` encodes a command as a PUBLISH and marks it as sent. A topic that
does not fit a 16-bit length or a packet that does not fit the remaining length is encoded
all the same, with the sizes cut to what the fields hold, and marked as well.
-/

namespace IotGateway.Gateway
open Text Net Redis Storage Protocol
open GatewayServer (commandFrame commandTopic nextPacketId)

/-- The bytes of the packet id are at one place, whatever the sizes. -/
theorem commandFrame_injective (cmd : Command) : Function.Injective (commandFrame cmd) := by
  intro first second same
  simp only [commandFrame, MqttCodec.encodePublish, Buffer.readable_append, reduceCtorEq, if_false] at same
  have field := List.append_cancel_left (List.append_cancel_right same)
  obtain ⟨high, low⟩ := List.cons_eq_cons.mp field
  rw [← MqttCodec.ntohs_htons first, ← MqttCodec.ntohs_htons second, high, List.head_eq_of_cons_eq low]

section Send

variable {n : NodeId} {g : GatewayServer} {cmd : Command} {device : DeviceInfo}

/-- A frame with the command is handed to the connection of the device. -/
def HandsOver (n : NodeId) (device : DeviceInfo) (cmd : Command) (w w' : World) : Prop :=
  ∃ later bytes, w'.log = later ++ .frame n device.connection bytes :: w.log ∧ IsCommand cmd bytes

/-- The status of no command has been touched. -/
def Unmarked (w w' : World) : Prop := w'.redis.cmd = w.redis.cmd ∧ w'.redis.cmdPending = w.redis.cmdPending

theorem log_sendCommandToDevice (found : g.deviceMgr_.findDevice g.conns cmd.deviceId = some device) (w : World) :
    ∃ later, (g.sendCommandToDevice n w cmd).2.2.log =
      later ++ .frame n device.connection (commandFrame cmd (nextPacketId g.s_packetId)) :: w.log := by
  rw [GatewayServer.sendCommandToDevice_some n found]
  simp only [RedisClient.markCommandSent, RedisClient.ackCommand]
  by_cases up : g.redisClient_.connected_ = true ∧ g.redisClient_.answers = true
  · simp only [if_pos up]
    exact ⟨[_], rfl⟩
  · simp only [if_neg up]
    exact ⟨[], rfl⟩

theorem handsOver_iff (found : g.deviceMgr_.findDevice g.conns cmd.deviceId = some device) (w : World) :
    HandsOver n device cmd w (g.sendCommandToDevice n w cmd).2.2 ↔ Representable cmd := by
  obtain ⟨later, logged⟩ := @log_sendCommandToDevice n g cmd device found w
  rw [← isCommand_commandFrame_iff cmd (nextPacketId_ne_zero g.s_packetId)]
  constructor
  · rintro ⟨later', bytes, logged', isCommand⟩
    have same := List.append_inj_right' (logged.symm.trans logged') (by simp)
    cases same
    exact isCommand
  · exact fun isCommand => ⟨later, _, logged, isCommand⟩

theorem unmarked_of_down (found : g.deviceMgr_.findDevice g.conns cmd.deviceId = some device)
    (down : ¬ (g.redisClient_.connected_ = true ∧ g.redisClient_.answers = true)) (w : World) :
    Unmarked w (g.sendCommandToDevice n w cmd).2.2 := by
  rw [GatewayServer.sendCommandToDevice_some n found]
  simp only [RedisClient.markCommandSent, RedisClient.ackCommand, if_neg down]
  exact ⟨rfl, rfl⟩

/-- In a store without commands the mark can be seen. -/
theorem marked_of_up (found : g.deviceMgr_.findDevice g.conns cmd.deviceId = some device)
    (up : g.redisClient_.connected_ = true ∧ g.redisClient_.answers = true) :
    ¬ Unmarked ⟨0, .new, []⟩ (g.sendCommandToDevice n ⟨0, .new, []⟩ cmd).2.2 := by
  rintro ⟨same, _⟩
  have effect := @effect_sendCommandToDevice n g ⟨0, .new, []⟩ cmd device up found
  cases effect with
  | sent device packetId found logged marked acked =>
    unfold heldStatus at marked
    rw [same] at marked
    cases marked.symm.trans (Hash.get_empty _ _)

/-- The device gets the command as it was consumed, or MQTT cannot carry it and it is not marked. -/
def Arrives (n : NodeId) (device : DeviceInfo) (cmd : Command) (w w' : World) : Prop :=
  HandsOver n device cmd w w' ∨ ¬ Representable cmd ∧ Unmarked w w'

theorem command_arrives_iff (found : g.deviceMgr_.findDevice g.conns cmd.deviceId = some device) :
    (∀ w, Arrives n device cmd w (g.sendCommandToDevice n w cmd).2.2) ↔
      Representable cmd ∨ ¬ (g.redisClient_.connected_ = true ∧ g.redisClient_.answers = true) := by
  constructor
  · intro always
    by_contra neither
    obtain ⟨unfit, up⟩ := not_or.mp neither
    rcases always ⟨0, .new, []⟩ with handed | ⟨_, unmarked⟩
    · exact unfit ((handsOver_iff found _).mp handed)
    · exact marked_of_up found (not_not.mp up) unmarked
  · intro condition w
    by_cases fit : Representable cmd
    · exact Or.inl ((handsOver_iff found w).mpr fit)
    · exact Or.inr ⟨fit, unmarked_of_down found (condition.resolve_left fit) w⟩

end Send

/-! ### Two commands for the sensor -/

def shortCommand : Command := ⟨1, ascii "sensor", [], ascii "on", 30, ascii "1-0", 0⟩

theorem short_command_arrives :
    Arrives gateway1 ⟨ascii "sensor", [], ascii "gateway-1", 0, 0, 60, 1⟩ shortCommand ⟨0, .new, []⟩
      (sensorNode.sendCommandToDevice gateway1 ⟨0, .new, []⟩ shortCommand).2.2 :=
  (command_arrives_iff (by decide)).mpr (Or.inl (by decide)) ⟨0, .new, []⟩

def longTopic : Bytes := List.replicate 65536 97

theorem length_longTopic : longTopic.length = 65536 := List.length_replicate

/-- The length of the topic is written as zero. -/
def longTopicCommand : Command := ⟨1, ascii "sensor", longTopic, ascii "on", 30, ascii "1-0", 0⟩

theorem long_topic_marked :
    sensorNode.deviceMgr_.findDevice sensorNode.conns longTopicCommand.deviceId =
        some ⟨ascii "sensor", [], ascii "gateway-1", 0, 0, 60, 1⟩ ∧
      ¬ Arrives gateway1 ⟨ascii "sensor", [], ascii "gateway-1", 0, 0, 60, 1⟩ longTopicCommand ⟨0, .new, []⟩
        (sensorNode.sendCommandToDevice gateway1 ⟨0, .new, []⟩ longTopicCommand).2.2 := by
  have found : sensorNode.deviceMgr_.findDevice sensorNode.conns longTopicCommand.deviceId =
      some ⟨ascii "sensor", [], ascii "gateway-1", 0, 0, 60, 1⟩ := by decide
  refine ⟨found, ?_⟩
  rintro (handed | ⟨_, unmarked⟩)
  · obtain ⟨short, _⟩ := (handsOver_iff found _).mp handed
    have given : longTopicCommand.topic ≠ [] := List.ne_nil_of_length_eq_add_one length_longTopic
    rw [commandTopic, if_neg given, show longTopicCommand.topic = longTopic from rfl, length_longTopic] at short
    omega
  · exact marked_of_up found (by decide) unmarked

end IotGateway.Gateway
