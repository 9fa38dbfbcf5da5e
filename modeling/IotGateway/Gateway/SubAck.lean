import IotGateway.Gateway.FanOut

/-!
# The answer to a SUBSCRIBE

`handleSubscribe` answers with the requested QoS bytes as its return codes and subscribes
to every filter. The parser takes any byte for a QoS, so the answer is one that MQTT knows
exactly when the client asked for QoS 0, 1 or 2.
-/

namespace IotGateway.Gateway
open Text Net Storage Protocol

/-- `MQTT_SUBACK_FAILURE`. -/
def subAckFailure : UInt8 := 0x80

/-- The three `MQTT_SUBACK_SUCCESS` codes and the failure. -/
def IsReturnCode (code : UInt8) : Prop := code ∈ [0, 1, 2, subAckFailure]

instance (code : UInt8) : Decidable (IsReturnCode code) := inferInstanceAs (Decidable (_ ∈ _))

/-- A SUBACK with these return codes, byte by byte. -/
def subAckBytes (packetId : UInt16) (codes : List UInt8) : Bytes :=
  MqttCodec.framed (mqttPacketTypeByte .suback 0) (MqttCodec.htons packetId ++ codes)

/-- The return code of a filter: one that MQTT knows, and a failure exactly when the client is not subscribed. -/
def Answers (d : DeviceManager) (c : Bytes) (filter : MqttTopicFilter) (code : UInt8) : Prop :=
  IsReturnCode code ∧ (filter.topic ∈ d.topicsOf c ↔ code ≠ subAckFailure)

/-- One SUBACK goes out, with the packet id and one code for each filter in turn. -/
def SubscribeAnswered (n : NodeId) (g : GatewayServer) (w : World) (k : ConnId) (c : Bytes) (packetId : UInt16)
    (filters : List MqttTopicFilter) : Prop :=
  let after := g.handleSubscribe n w k packetId filters
  ∃ codes, after.2.log = .frame n k (subAckBytes packetId codes) :: w.log ∧
    List.Forall₂ (Answers after.1.deviceMgr_ c) filters codes

theorem framed_injective {first : UInt8} {body body' : Bytes} (length : body.length = body'.length)
    (same : MqttCodec.framed first body = MqttCodec.framed first body') : body = body' := by
  unfold MqttCodec.framed at same
  rw [length] at same
  exact List.append_cancel_left (List.cons.inj same).2

theorem subAckBytes_injective {packetId : UInt16} {codes codes' : List UInt8} (length : codes.length = codes'.length)
    (same : subAckBytes packetId codes = subAckBytes packetId codes') : codes = codes' := by
  refine List.append_cancel_left (framed_injective ?_ same)
  rw [List.length_append, List.length_append, length]

section Subscribe

variable (n : NodeId) {g : GatewayServer} (w : World) {k : ConnId} {c : Bytes} (packetId : UInt16)
  {filters : List MqttTopicFilter} (bound : g.connClientMap.lookup k = some c)

include bound

theorem log_handleSubscribe (up : g.conns k = .connected) (small : 2 + filters.length < 2 ^ 28) :
    (g.handleSubscribe n w k packetId filters).2.log =
      .frame n k (subAckBytes packetId (filters.map (·.qos))) :: w.log := by
  have bytes : (MqttCodec.encodeSubAck newBuffer packetId (filters.map (·.qos))).readable =
      subAckBytes packetId (filters.map (·.qos)) := by
    rw [MqttCodec.readable_encodeSubAck _ _ (by rwa [List.length_map]), newBuffer, Buffer.readable_new]
    rfl
  simp only [GatewayServer.handleSubscribe, bound, GatewayServer.send]
  rw [if_pos up, bytes]
  rfl

theorem topic_mem_handleSubscribe {filter : MqttTopicFilter} (member : filter ∈ filters) :
    filter.topic ∈ (g.handleSubscribe n w k packetId filters).1.deviceMgr_.topicsOf c := by
  rw [handleSubscribe_bound n g w packetId filters bound]
  exact DeviceManager.mem_topicsOf_foldl_subscribe.mpr (.inr ⟨rfl, List.mem_map_of_mem member⟩)

/-- Every filter ends up in the table, so that the QoS itself has to be a code of success. -/
theorem subscribeAnswered_iff (up : g.conns k = .connected) (small : 2 + filters.length < 2 ^ 28) :
    SubscribeAnswered n g w k c packetId filters ↔
      ∀ filter ∈ filters, IsReturnCode filter.qos ∧ filter.qos ≠ subAckFailure := by
  have log := log_handleSubscribe n w packetId bound up small
  have subscribed := fun filter (member : filter ∈ filters) => topic_mem_handleSubscribe n w packetId bound member
  constructor
  · rintro ⟨codes, sent, answers⟩ filter member
    have frames : subAckBytes packetId (filters.map (·.qos)) = subAckBytes packetId codes := by
      rw [log] at sent
      injection sent with frame _
      injection frame
    obtain rfl : filters.map (·.qos) = codes :=
      subAckBytes_injective ((List.length_map _).trans answers.length_eq) frames
    have answer := List.forall₂_same.mp (List.forall₂_map_right_iff.mp answers) filter member
    exact ⟨answer.1, answer.2.mp (subscribed filter member)⟩
  · intro valid
    refine ⟨filters.map (·.qos), log, List.forall₂_map_right_iff.mpr (List.forall₂_same.mpr ?_)⟩
    intro filter member
    obtain ⟨known, success⟩ := valid filter member
    exact ⟨known, iff_of_true (subscribed filter member) success⟩

end Subscribe

theorem returnCode_iff (qos : UInt8) : IsReturnCode qos ∧ qos ≠ subAckFailure ↔ qos ≤ 2 := by
  simp only [IsReturnCode, subAckFailure, List.mem_cons, List.not_mem_nil, or_false, ne_eq, ← UInt8.toNat_inj,
    UInt8.le_iff_toNat_le, UInt8.reduceToNat]
  omega

theorem subscribe_answered_iff (n : NodeId) (g : GatewayServer) (w : World) (k : ConnId) (c : Bytes) (buf buf' : Buffer)
    (packetId : UInt16) (filters : List MqttTopicFilter)
    (parsed : MqttCodec.parse buf = (.ok, [.subscribe packetId filters], buf'))
    (bound : g.connClientMap.lookup k = some c) (up : g.conns k = .connected) :
    SubscribeAnswered n g w k c packetId filters ↔ ∀ filter ∈ filters, filter.qos ≤ 2 := by
  rw [subscribeAnswered_iff n w packetId bound up (MqttCodec.length_of_parsed parsed)]
  simp only [returnCode_iff]

theorem parse_subscribeLayout {packetId : UInt16} {filters : List MqttTopicFilter} {buf : Buffer}
    (short : ∀ filter ∈ filters, filter.topic.length ≤ 65535)
    (small : (MqttCodec.subscribeLayout packetId filters).length < 2 ^ 28)
    (arrived : buf.readable =
      MqttCodec.framed (mqttPacketTypeByte .subscribe 2) (MqttCodec.subscribeLayout packetId filters)) :
    ∃ buf', MqttCodec.parse buf = (.ok, [.subscribe packetId filters], buf') := by
  apply MqttCodec.parse_of_isPacket _ arrived
  apply MqttCodec.isPacket_framed small
  exact MqttCodec.parseSubscribe_layout packetId short

def sensorOnline : System := run System.step System.new (startBoth ++ arrive gateway1 1 sensor)

def subscribeNews (qos : UInt8) : Buffer :=
  MqttCodec.received (MqttCodec.framed (mqttPacketTypeByte .subscribe 2) (MqttCodec.subscribeLayout 7 [⟨news, qos⟩]))

theorem subscribe_answered_news :
    SubscribeAnswered gateway1 (sensorOnline.nodes gateway1) sensorOnline.world 1 sensor 7 [⟨news, 1⟩] := by
  obtain ⟨buf', parsed⟩ : ∃ buf', MqttCodec.parse (subscribeNews 1) = (.ok, [.subscribe 7 [⟨news, 1⟩]], buf') :=
    parse_subscribeLayout (by decide) (by decide) (MqttCodec.readable_received _)
  have answered := subscribe_answered_iff gateway1 (sensorOnline.nodes gateway1) sensorOnline.world 1 sensor _ buf' 7
    [⟨news, 1⟩] parsed (by decide) (by decide)
  exact answered.mpr (by decide)

/-- A QoS of three is returned as it came, and the client is subscribed. -/
theorem subscribe_qos_three :
    (∃ buf', MqttCodec.parse (subscribeNews 3) = (.ok, [.subscribe 7 [⟨news, 3⟩]], buf')) ∧
      (sensorOnline.nodes gateway1).connClientMap.lookup 1 = some sensor ∧
      (sensorOnline.nodes gateway1).conns 1 = .connected ∧
      ¬ SubscribeAnswered gateway1 (sensorOnline.nodes gateway1) sensorOnline.world 1 sensor 7 [⟨news, 3⟩] := by
  have bound : (sensorOnline.nodes gateway1).connClientMap.lookup 1 = some sensor := by decide
  have up : (sensorOnline.nodes gateway1).conns 1 = .connected := by decide
  refine ⟨parse_subscribeLayout (by decide) (by decide) (MqttCodec.readable_received _), bound, up, ?_⟩
  rw [subscribeAnswered_iff gateway1 sensorOnline.world 7 bound up (by decide)]
  decide

end IotGateway.Gateway
