import IotGateway.Protocol.Receive

/-!
# Encoded packets are parsed back

The encoders of the gateway and the simulator's own CONNECT encoder compute the
remaining length apart from the bytes they write. `parseMany_wire` shows that a stream
of encoded packets is cut at exactly the packet boundaries and that each packet fires
the callback it was encoded from.
-/

namespace IotGateway.Protocol
open Text Net

/-! ### The simulator's CONNECT -/

namespace Simulator

/-- The loop of `sendConnect` that fills `rlBytes`. -/
def rlBytes : Nat → Nat → Bytes
  | 0, _ => []
  | fuel + 1, tmp =>
    let byte := UInt8.ofNat (tmp % 128)
    let tmp := tmp / 128
    if 0 < tmp then (byte ||| 0x80) :: rlBytes fuel tmp else [byte]

/-- The bytes `MqttClient::sendConnect` builds. -/
def sendConnect (clientId : Bytes) : Buffer :=
  let buf := Buffer.new kInitialSize
  let remaining := (10 + 2 + clientId.length) % 2 ^ 32
  let buf := buf.append [mqttPacketTypeByte .connect 0]
  let buf := buf.append (rlBytes 5 remaining)
  let buf := buf.append ([0, 4] ++ ascii "MQTT")
  let buf := buf.append [4]
  let buf := buf.append [connectFlagCleanSession]
  let buf := buf.append (MqttCodec.htons 60)
  let buf := buf.append (MqttCodec.htons (UInt16.ofNat clientId.length))
  buf.append clientId

end Simulator

namespace MqttCodec

/-! ### Remaining length -/

theorem group_low {n : Nat} (small : n < 128) (more : Bool) :
    ((if more then UInt8.ofNat n ||| 0x80 else UInt8.ofNat n) &&& 0x7F).toNat = n := by
  interval_cases n <;> cases more <;> rfl

theorem group_last {n : Nat} (small : n < 128) : UInt8.ofNat n &&& 0x80 = 0 := by
  interval_cases n <;> rfl

theorem group_more {n : Nat} (small : n < 128) : (UInt8.ofNat n ||| 0x80) &&& 0x80 ≠ 0 := by
  interval_cases n <;> decide

theorem decodeLoop_rlBytes (fuel k i multiplier value n : Nat) (rest : Bytes) (room : fuel ≤ k)
    (small : n < 128 ^ fuel) (pos : 0 < fuel) (fits : value + n * multiplier < 2 ^ 32) :
    decodeLoop fuel i multiplier value (Simulator.rlBytes k n ++ rest) =
      (value + n * multiplier, i + (Simulator.rlBytes k n).length) := by
  induction fuel generalizing k i multiplier value n with
  | zero => omega
  | succ fuel ih =>
    obtain ⟨k, rfl⟩ : ∃ j, k = j + 1 := ⟨k - 1, by omega⟩
    have digit : n % 128 < 128 := Nat.mod_lt _ (by norm_num)
    have split : n % 128 * multiplier + n / 128 * (multiplier * 128) = n * multiplier := by
      calc n % 128 * multiplier + n / 128 * (multiplier * 128) = (128 * (n / 128) + n % 128) * multiplier := by ring
        _ = n * multiplier := by rw [Nat.div_add_mod]
    rw [Simulator.rlBytes]
    by_cases last : 0 < n / 128
    · have low := group_low digit true
      have bound : n / 128 < 128 ^ fuel := by
        rw [Nat.div_lt_iff_lt_mul (by norm_num), ← pow_succ]
        exact small
      have fuelPos : 0 < fuel := by
        rcases Nat.eq_zero_or_pos fuel with rfl | positive
        · simp only [pow_zero] at bound
          omega
        · exact positive
      simp only [if_true] at low
      simp only [last, if_true, List.cons_append, decodeLoop, low, group_more digit, if_false]
      rw [Nat.mod_eq_of_lt (by omega), ih k (i + 1) _ _ _ (by omega) bound fuelPos (by omega)]
      simp only [List.length_cons, Prod.mk.injEq]
      omega
    · have whole : n % 128 = n := Nat.mod_eq_of_lt (by omega)
      have low := group_low digit false
      simp only [Bool.false_eq_true, if_false] at low
      simp only [last, if_false, List.cons_append, List.nil_append, decodeLoop, low, group_last digit, if_true]
      rw [whole, Nat.mod_eq_of_lt fits]
      simp

theorem decodeRemainingLength_rlBytes {n : Nat} (small : n < 2 ^ 28) (rest : Bytes) :
    decodeRemainingLength (Simulator.rlBytes 5 n ++ rest) = (n, (Simulator.rlBytes 5 n).length) := by
  have decoded := decodeLoop_rlBytes 4 5 0 1 0 n rest (by norm_num) (by norm_num; omega) (by norm_num) (by omega)
  simpa [decodeRemainingLength] using decoded

theorem readable_encodeLoop (fuel : Nat) (out : Buffer) (len : Nat) :
    (encodeLoop fuel out len).readable = out.readable ++ Simulator.rlBytes fuel len := by
  induction fuel generalizing out len with
  | zero => simp [encodeLoop, Simulator.rlBytes]
  | succ fuel ih =>
    rw [encodeLoop, Simulator.rlBytes]
    by_cases more : 0 < len / 128
    · simp [more, ih]
    · simp [more]

@[simp] theorem readable_encodeRemainingLength (out : Buffer) {len : Nat} (small : len < 2 ^ 28) :
    (encodeRemainingLength out len).readable = out.readable ++ Simulator.rlBytes 5 len := by
  rw [encodeRemainingLength, Nat.mod_eq_of_lt (by omega), readable_encodeLoop]

/-! ### Strings and packet ids -/

theorem ntohs_htons (n : UInt16) :
    ntohs (UInt8.ofNat (n.toNat / 256)) (UInt8.ofNat (n.toNat % 256)) = n := by
  have bound := n.toNat_lt
  apply UInt16.toNat_inj.mp
  rw [ntohs, UInt16.toNat_ofNat', UInt8.toNat_ofNat', UInt8.toNat_ofNat']
  omega

theorem readMqttString_htons {str : Bytes} (short : str.length ≤ 65535) (rest : Bytes) :
    readMqttString (htons (UInt16.ofNat str.length) ++ (str ++ rest)) = (str, rest) := by
  have len : (UInt16.ofNat str.length).toNat = str.length := by
    rw [UInt16.toNat_ofNat']
    omega
  simp only [htons, List.cons_append, List.nil_append, readMqttString, ntohs_htons]
  rw [len, if_neg (by simp), List.take_left, List.drop_left]

/-! ### One packet -/

/-- A packet of the encoders, with the arguments the encoder is called with. -/
inductive Packet where
  | publish (topic payload : Bytes) (qos : MqttQoS) (packetId : UInt16) (retain : Bool)
  | pubAck (packetId : UInt16)
  | connAck (code : MqttConnAckCode)
  | subAck (packetId : UInt16) (returnCodes : List UInt8)
  | unsubAck (packetId : UInt16)
  | pingResp
  | connect (clientId : Bytes)

/-- The arguments for which the encoders promise a packet: strings and lengths that MQTT can carry. -/
def Packet.Sendable : Packet → Prop
  | .publish topic payload qos packetId _ =>
    topic.length ≤ 65535 ∧ qos ≠ .reserved ∧ (qos = .atMostOnce → packetId = 0) ∧
      publishRemaining topic payload qos < 2 ^ 28
  | .subAck _ returnCodes => 2 + returnCodes.length < 2 ^ 28
  | .connect clientId => clientId.length ≤ 65535
  | _ => True

def Packet.wire : Packet → Bytes
  | .publish topic payload qos packetId retain =>
    (encodePublish (Buffer.new kInitialSize) topic payload qos packetId retain).readable
  | .pubAck packetId => (encodePubAck (Buffer.new kInitialSize) packetId).readable
  | .connAck code => (encodeConnAck (Buffer.new kInitialSize) code).readable
  | .subAck packetId returnCodes => (encodeSubAck (Buffer.new kInitialSize) packetId returnCodes).readable
  | .unsubAck packetId => (encodeUnsubAck (Buffer.new kInitialSize) packetId).readable
  | .pingResp => (encodePingResp (Buffer.new kInitialSize)).readable
  | .connect clientId => (Simulator.sendConnect clientId).readable

def Packet.events : Packet → List MqttEvent
  | .publish topic payload qos packetId retain => [.publish topic payload qos retain packetId]
  | .pubAck packetId => [.pubAck packetId]
  | .connect clientId =>
    [.connect { protocolName := ascii "MQTT", protocolLevel := 4, flags := 2, keepAlive := 60, clientId }]
  | _ => []

def framed (first : UInt8) (body : Bytes) : Bytes := first :: (Simulator.rlBytes 5 body.length ++ body)

theorem firstPacket_framed (first : UInt8) {body : Bytes} (rest : Bytes) (small : body.length < 2 ^ 28) :
    firstPacket (framed first body ++ rest) =
      some ((framed first body).length, parseBody (mqttPacketTypeFromByte first) (mqttPacketFlags first) body) := by
  have header : decodeRemainingLength (framed first body ++ rest).tail =
      (body.length, (Simulator.rlBytes 5 body.length).length) := by
    rw [framed, List.cons_append, List.tail_cons, List.append_assoc]
    exact decodeRemainingLength_rlBytes small _
  have groups : 0 < (Simulator.rlBytes 5 body.length).length := by
    rw [Simulator.rlBytes]
    split <;> simp
  have size : (framed first body).length = 1 + (Simulator.rlBytes 5 body.length).length + body.length := by
    simp only [framed, List.length_cons, List.length_append]
    omega
  have total : totalLen (framed first body ++ rest) = (framed first body).length := by
    simp only [totalLen, header, size]
  have data : packetData (framed first body ++ rest) = body := by
    unfold packetData
    rw [header, framed, Nat.add_comm, List.cons_append, List.drop_succ_cons, List.append_assoc, List.drop_left,
      List.take_left]
  rw [firstPacket, if_neg (by rw [List.length_append, size]; omega),
    if_neg (by rw [total, List.length_append]; omega), total, data]
  rfl

/-- A byte sequence is one whole packet when a parse of it, whatever follows, accepts it, fires these
callbacks and uses exactly its bytes. -/
def IsPacket (bytes : Bytes) (events : List MqttEvent) : Prop :=
  ∀ rest, firstPacket (bytes ++ rest) = some (bytes.length, .ok, events)

theorem isPacket_framed {first : UInt8} {body : Bytes} {events : List MqttEvent} (small : body.length < 2 ^ 28)
    (accepted : parseBody (mqttPacketTypeFromByte first) (mqttPacketFlags first) body = (.ok, events)) :
    IsPacket (framed first body) events := by
  intro rest
  rw [firstPacket_framed first rest small, accepted]

/-! ### What each encoder writes -/

theorem readable_encodeConnAck (out : Buffer) (code : MqttConnAckCode) :
    (encodeConnAck out code).readable = out.readable ++ framed (mqttPacketTypeByte .connack 0) [0, code.value] := by
  simp [encodeConnAck, framed]

theorem readable_foldl_append (out : Buffer) (bytes : Bytes) :
    (bytes.foldl (fun out b => out.append [b]) out).readable = out.readable ++ bytes := by
  induction bytes generalizing out with
  | nil => simp
  | cons b bytes ih => simp [ih]

theorem readable_encodeSubAck (out : Buffer) (packetId : UInt16) {returnCodes : List UInt8}
    (small : 2 + returnCodes.length < 2 ^ 28) :
    (encodeSubAck out packetId returnCodes).readable =
      out.readable ++ framed (mqttPacketTypeByte .suback 0) (htons packetId ++ returnCodes) := by
  have length : (htons packetId ++ returnCodes).length = 2 + returnCodes.length := by
    simp only [htons, List.length_append, List.length_cons, List.length_nil]
  rw [encodeSubAck, readable_foldl_append, Buffer.readable_append, readable_encodeRemainingLength _ small,
    Buffer.readable_append, framed, length]
  simp

theorem readable_encodeIdPacket (type : MqttPacketType) (out : Buffer) (packetId : UInt16) :
    (encodeIdPacket type out packetId).readable =
      out.readable ++ framed (mqttPacketTypeByte type 0) (htons packetId) := by
  simp [encodeIdPacket, framed, htons]

theorem readable_encodePingResp (out : Buffer) :
    (encodePingResp out).readable = out.readable ++ framed (mqttPacketTypeByte .pingresp 0) [] := by
  simp [encodePingResp, framed, Simulator.rlBytes]

theorem publish_type (qos : MqttQoS) (retain : Bool) :
    mqttPacketTypeFromByte (mqttPacketTypeByte .publish (publishFlags qos retain)) = .publish := by
  cases qos <;> cases retain <;> rfl

theorem publish_flags (qos : MqttQoS) (retain : Bool) :
    (mqttPacketFlags (mqttPacketTypeByte .publish (publishFlags qos retain)) &&& 0x01 != 0) = retain ∧
    MqttQoS.ofValue ((mqttPacketFlags (mqttPacketTypeByte .publish (publishFlags qos retain)) >>> 1) &&& 0x03) = qos := by
  cases qos <;> cases retain <;> decide

def publishBody (topic payload : Bytes) (qos : MqttQoS) (packetId : UInt16) : Bytes :=
  htons (UInt16.ofNat topic.length) ++ (topic ++ ((if qos = .atMostOnce then [] else htons packetId) ++ payload))

theorem length_publishBody (topic payload : Bytes) (qos : MqttQoS) (packetId : UInt16) :
    (publishBody topic payload qos packetId).length = publishRemaining topic payload qos := by
  by_cases plain : qos = .atMostOnce <;> simp [plain, htons, publishBody, publishRemaining] <;> omega

theorem readable_encodePublish (out : Buffer) {topic payload : Bytes} {qos : MqttQoS} (packetId : UInt16)
    (retain : Bool) (small : publishRemaining topic payload qos < 2 ^ 28) :
    (encodePublish out topic payload qos packetId retain).readable = out.readable ++
      framed (mqttPacketTypeByte .publish (publishFlags qos retain)) (publishBody topic payload qos packetId) := by
  rw [framed, length_publishBody]
  by_cases plain : qos = .atMostOnce
  · simp only [encodePublish, writeMqttString, plain, if_true, Buffer.readable_append] at small ⊢
    rw [readable_encodeRemainingLength _ small]
    simp [publishBody]
  · simp only [encodePublish, writeMqttString, plain, if_false, Buffer.readable_append]
    rw [readable_encodeRemainingLength _ small]
    simp [publishBody, plain]

theorem parseBody_publish {topic payload : Bytes} {qos : MqttQoS} {packetId : UInt16} (retain : Bool)
    (short : topic.length ≤ 65535) (noId : qos = .atMostOnce → packetId = 0) :
    parseBody (mqttPacketTypeFromByte (mqttPacketTypeByte .publish (publishFlags qos retain)))
      (mqttPacketFlags (mqttPacketTypeByte .publish (publishFlags qos retain)))
      (publishBody topic payload qos packetId) = (.ok, [.publish topic payload qos retain packetId]) := by
  have flags := publish_flags qos retain
  rw [publish_type, parseBody, parsePublish]
  simp only [flags.1, flags.2, publishBody, readMqttString_htons short]
  by_cases plain : qos = .atMostOnce
  · simp [plain, noId plain]
  · simp only [plain, if_false, htons, List.cons_append, List.nil_append, ntohs_htons]

def connectBody (clientId : Bytes) : Bytes :=
  [0, 4] ++ ascii "MQTT" ++ ([4, connectFlagCleanSession] ++ htons 60 ++
    (htons (UInt16.ofNat clientId.length) ++ clientId))

theorem length_connectBody (clientId : Bytes) : (connectBody clientId).length = 10 + 2 + clientId.length := by
  simp [connectBody, htons, ascii]
  omega

theorem readable_sendConnect {clientId : Bytes} (short : clientId.length ≤ 65535) :
    (Simulator.sendConnect clientId).readable = framed (mqttPacketTypeByte .connect 0) (connectBody clientId) := by
  rw [framed, length_connectBody]
  simp [Simulator.sendConnect, connectBody, Nat.mod_eq_of_lt (show 10 + 2 + clientId.length < 4294967296 by omega)]

theorem parseBody_connect {clientId : Bytes} (short : clientId.length ≤ 65535) :
    parseBody (mqttPacketTypeFromByte (mqttPacketTypeByte .connect 0)) (mqttPacketFlags (mqttPacketTypeByte .connect 0))
      (connectBody clientId) = (.ok, (Packet.connect clientId).events) := by
  have name := readMqttString_htons (show (ascii "MQTT").length ≤ 65535 by decide)
    ([4, connectFlagCleanSession] ++ htons 60 ++ (htons (UInt16.ofNat clientId.length) ++ clientId))
  have id := readMqttString_htons short []
  rw [List.append_nil] at id
  rw [← List.append_assoc] at name
  show parseConnect (connectBody clientId) = _
  rw [parseConnect, show readMqttString (connectBody clientId) = _ from name]
  show (ParseResult.ok, [MqttEvent.connect (readConnectStrings _ (htons _ ++ clientId))]) = _
  unfold readConnectStrings
  rw [id]
  rfl

theorem isPacket_wire {packet : Packet} (sendable : packet.Sendable) : IsPacket packet.wire packet.events := by
  cases packet with
  | publish topic payload qos packetId retain =>
    obtain ⟨short, _, noId, small⟩ := sendable
    rw [Packet.wire, readable_encodePublish _ _ _ small, Buffer.readable_new]
    exact isPacket_framed (by rw [length_publishBody]; exact small) (parseBody_publish retain short noId)
  | pubAck packetId =>
    rw [Packet.wire, encodePubAck, readable_encodeIdPacket, Buffer.readable_new]
    refine isPacket_framed (by simp [htons]) ?_
    rw [show mqttPacketTypeFromByte (mqttPacketTypeByte .puback 0) = .puback by decide]
    simp [parseBody, parsePubAck, htons, ntohs_htons, Packet.events]
  | connAck code =>
    rw [Packet.wire, readable_encodeConnAck, Buffer.readable_new]
    exact isPacket_framed (by simp) rfl
  | subAck packetId returnCodes =>
    have small : 2 + returnCodes.length < 2 ^ 28 := sendable
    rw [Packet.wire, readable_encodeSubAck _ _ small, Buffer.readable_new]
    exact isPacket_framed (by simp [htons]; omega) rfl
  | unsubAck packetId =>
    rw [Packet.wire, encodeUnsubAck, readable_encodeIdPacket, Buffer.readable_new]
    exact isPacket_framed (by simp [htons]) rfl
  | pingResp =>
    rw [Packet.wire, readable_encodePingResp, Buffer.readable_new]
    exact isPacket_framed (by simp) rfl
  | connect clientId =>
    have short : clientId.length ≤ 65535 := sendable
    rw [Packet.wire, readable_sendConnect short]
    exact isPacket_framed (by rw [length_connectBody]; omega) (parseBody_connect short)

/-! ### Streams of packets -/

/-- `count` calls of `parse` in a row, with the result and the callbacks of each. -/
def parseMany : Nat → Buffer → List (ParseResult × List MqttEvent) × Buffer
  | 0, buf => ([], buf)
  | count + 1, buf =>
    let (result, events, buf) := parse buf
    let (results, buf) := parseMany count buf
    ((result, events) :: results, buf)

/-- Parsing undoes encoding on streams: one accepted packet for each that was written, with its own
callbacks, and the bytes after the last one stay unread. -/
theorem parseMany_wire (packets : List Packet) (sendable : ∀ packet ∈ packets, packet.Sendable) (t : Bytes)
    (buf : Buffer) (received : buf.readable = (packets.map Packet.wire).flatten ++ t) :
    (parseMany packets.length buf).1 = packets.map (fun packet => (.ok, packet.events)) ∧
      (parseMany packets.length buf).2.readable = t := by
  induction packets generalizing buf with
  | nil => simpa [parseMany] using received
  | cons packet packets ih =>
    have first := isPacket_wire (sendable packet List.mem_cons_self) ((packets.map Packet.wire).flatten ++ t)
    rw [List.map_cons, List.flatten_cons, List.append_assoc] at received
    have step : parse buf = (.ok, packet.events, buf.retrieve packet.wire.length) := by
      rw [parse, received, first]
    have left : (buf.retrieve packet.wire.length).readable = (packets.map Packet.wire).flatten ++ t := by
      rw [Buffer.readable_retrieve, received, List.drop_left]
    have tail := ih (fun p member => sendable p (List.mem_cons_of_mem _ member)) _ left
    rw [List.length_cons, parseMany, step]
    simp only [tail.1, tail.2, List.map_cons, and_self]

theorem parseMany_wire_session :
    let packets := [Packet.connect (ascii "dev"), .publish (ascii "t") (ascii "on") .atLeastOnce 7 false, .pingResp]
    let buf := (Buffer.new kInitialSize).append ((packets.map Packet.wire).flatten ++ [0x30])
    (parseMany 3 buf).1 = packets.map (fun packet => (.ok, packet.events)) ∧ (parseMany 3 buf).2.readable = [0x30] :=
  parseMany_wire
    [Packet.connect (ascii "dev"), .publish (ascii "t") (ascii "on") .atLeastOnce 7 false, .pingResp]
    (by
      intro packet member
      simp only [List.mem_cons, List.not_mem_nil, or_false] at member
      rcases member with rfl | rfl | rfl
      · simp [Packet.Sendable, ascii]
      · simp [Packet.Sendable, publishRemaining, ascii]
      · trivial)
    [0x30] _ (by simp)

end MqttCodec
end IotGateway.Protocol
