import IotGateway.Net.Buffer

/-!
# MQTT packets and their codec

The packet types of `MqttTypes.h` and the functions of `MqttCodec.cpp`. Body parsers
take the remaining-length bytes of one packet. Where the source moves a pointer `p`
up to `end`, the model passes the bytes from `p` to `end`. A callback of the codec is
an `MqttEvent` in the result.
-/

namespace IotGateway.Protocol
open Text Net

/-! ### Types -/

/-- The upper half of the first byte. The values 0 and 15 name no packet. -/
inductive MqttPacketType where
  | connect | connack | publish | puback | pubrec | pubrel | pubcomp | subscribe | suback
  | unsubscribe | unsuback | pingreq | pingresp | disconnect
  | unnamed (value : UInt8)
  deriving DecidableEq, Repr

def MqttPacketType.value : MqttPacketType → UInt8
  | .connect => 1 | .connack => 2 | .publish => 3 | .puback => 4 | .pubrec => 5 | .pubrel => 6
  | .pubcomp => 7 | .subscribe => 8 | .suback => 9 | .unsubscribe => 10 | .unsuback => 11
  | .pingreq => 12 | .pingresp => 13 | .disconnect => 14 | .unnamed value => value

def MqttPacketType.ofValue : UInt8 → MqttPacketType
  | 1 => .connect | 2 => .connack | 3 => .publish | 4 => .puback | 5 => .pubrec | 6 => .pubrel
  | 7 => .pubcomp | 8 => .subscribe | 9 => .suback | 10 => .unsubscribe | 11 => .unsuback
  | 12 => .pingreq | 13 => .pingresp | 14 => .disconnect | value => .unnamed value

def mqttPacketTypeByte (type : MqttPacketType) (flags : UInt8) : UInt8 :=
  (type.value <<< 4) ||| (flags &&& 0x0F)

def mqttPacketTypeFromByte (byte : UInt8) : MqttPacketType := .ofValue (byte >>> 4)

def mqttPacketFlags (byte : UInt8) : UInt8 := byte &&& 0x0F

/-- `MqttQoS` has two bits in a PUBLISH, and the cast accepts the fourth value too. -/
inductive MqttQoS where
  | atMostOnce | atLeastOnce | exactlyOnce | reserved
  deriving DecidableEq, Repr

def MqttQoS.value : MqttQoS → UInt8
  | .atMostOnce => 0 | .atLeastOnce => 1 | .exactlyOnce => 2 | .reserved => 3

def MqttQoS.ofValue (value : UInt8) : MqttQoS :=
  if value = 0 then .atMostOnce
  else if value = 1 then .atLeastOnce
  else if value = 2 then .exactlyOnce
  else .reserved

inductive MqttConnAckCode where
  | accepted | unacceptableProtocol | identifierRejected | serverUnavailable | badUsernamePassword | notAuthorized
  deriving DecidableEq, Repr

def MqttConnAckCode.value : MqttConnAckCode → UInt8
  | .accepted => 0 | .unacceptableProtocol => 1 | .identifierRejected => 2 | .serverUnavailable => 3
  | .badUsernamePassword => 4 | .notAuthorized => 5

def connectFlagUsername : UInt8 := 0x80
def connectFlagPassword : UInt8 := 0x40
def connectFlagWill : UInt8 := 0x04
def connectFlagCleanSession : UInt8 := 0x02

structure MqttConnectPayload where
  protocolName : Bytes := []
  protocolLevel : UInt8 := 4
  flags : UInt8 := 0
  keepAlive : UInt16 := 60
  clientId : Bytes := []
  willTopic : Bytes := []
  willMessage : Bytes := []
  username : Bytes := []
  password : Bytes := []
  deriving DecidableEq, Repr

structure MqttTopicFilter where
  topic : Bytes
  qos : UInt8
  deriving DecidableEq, Repr

inductive ParseResult where
  | ok | incomplete | error
  deriving DecidableEq, Repr

inductive MqttEvent where
  | connect (payload : MqttConnectPayload)
  | publish (topic payload : Bytes) (qos : MqttQoS) (retain : Bool) (packetId : UInt16)
  | subscribe (packetId : UInt16) (filters : List MqttTopicFilter)
  | pingReq
  | disconnect
  | pubAck (packetId : UInt16)
  deriving DecidableEq, Repr

namespace MqttCodec

/-! ### Remaining length and strings -/

/-- The loop of `decodeRemainingLength`, from byte `i` with `fuel = 4 - i`. -/
def decodeLoop : Nat → Nat → Nat → Nat → Bytes → Nat × Nat
  | 0, i, _, value, _ => (value, i + 1)
  | _ + 1, i, _, value, [] => (value, i + 1)
  | fuel + 1, i, multiplier, value, byte :: data =>
    let value := (value + (byte &&& 0x7F).toNat * multiplier) % 2 ^ 32
    if byte &&& 0x80 = 0 then (value, i + 1)
    else decodeLoop fuel (i + 1) (multiplier * 128) value data

/-- The value and the `consumed` count; running out of bytes counts one byte too many. -/
def decodeRemainingLength (data : Bytes) : Nat × Nat := decodeLoop 4 0 1 0 data

/-- The do-while loop of `encodeRemainingLength`; a 32-bit length has at most five groups. -/
def encodeLoop : Nat → Buffer → Nat → Buffer
  | 0, out, _ => out
  | fuel + 1, out, len =>
    let byte := UInt8.ofNat (len % 128)
    let len := len / 128
    let byte := if 0 < len then byte ||| 0x80 else byte
    let out := out.append [byte]
    if 0 < len then encodeLoop fuel out len else out

def encodeRemainingLength (out : Buffer) (len : Nat) : Buffer := encodeLoop 5 out (len % 2 ^ 32)

def htons (n : UInt16) : Bytes := [UInt8.ofNat (n.toNat / 256), UInt8.ofNat (n.toNat % 256)]

def ntohs (high low : UInt8) : UInt16 := UInt16.ofNat (high.toNat * 256 + low.toNat)

/-- `readMqttString(p, end)`: the string, and the bytes from the moved `p` on. -/
def readMqttString (p : Bytes) : Bytes × Bytes :=
  match p with
  | high :: low :: rest =>
    let len := (ntohs high low).toNat
    if rest.length < len then ([], rest) else (rest.take len, rest.drop len)
  | p => ([], p)

def writeMqttString (out : Buffer) (str : Bytes) : Buffer :=
  (out.append (htons (UInt16.ofNat str.length))).append str

/-! ### Packet bodies -/

/-- `readMqttString` where the flag bit is set, the empty default where it is not. -/
def readFlagged (flags bit : UInt8) (p : Bytes) : Bytes × Bytes :=
  if flags &&& bit = 0 then ([], p) else readMqttString p

/-- The client id and the optional strings that `parseConnect` reads after the keep-alive. -/
def readConnectStrings (payload : MqttConnectPayload) (p : Bytes) : MqttConnectPayload :=
  let (clientId, p) := readMqttString p
  let (willTopic, p) := readFlagged payload.flags connectFlagWill p
  let (willMessage, p) := readFlagged payload.flags connectFlagWill p
  let (username, p) := readFlagged payload.flags connectFlagUsername p
  let (password, _) := readFlagged payload.flags connectFlagPassword p
  { payload with clientId, willTopic, willMessage, username, password }

def parseConnect (data : Bytes) : ParseResult × List MqttEvent :=
  let (protocolName, p) := readMqttString data
  match p with
  | protocolLevel :: flags :: high :: low :: p =>
    let payload := readConnectStrings { protocolName, protocolLevel, flags, keepAlive := ntohs high low } p
    (.ok, [.connect payload])
  -- With one keep-alive byte left the source reads past the packet, moves `p` past `end` and fails.
  | _ => (.error, [])

def parsePublish (flags : UInt8) (data : Bytes) : ParseResult × List MqttEvent :=
  let retain := (flags &&& 0x01) != 0
  let qos := MqttQoS.ofValue ((flags >>> 1) &&& 0x03)
  let (topic, p) := readMqttString data
  if qos = .atMostOnce then (.ok, [.publish topic p qos retain 0])
  else
    match p with
    | high :: low :: p => (.ok, [.publish topic p qos retain (ntohs high low)])
    | _ => (.error, [])

/-- The filter loop of `parseSubscribe`. `none` is its `ERROR` return. -/
def parseFilters : Nat → Bytes → List MqttTopicFilter → Option (List MqttTopicFilter)
  | _, [], filters => some filters
  | 0, _ :: _, _ => none
  | fuel + 1, p, filters =>
    match readMqttString p with
    | (_, []) => none
    | (topic, qos :: p) => parseFilters fuel p (filters ++ [{ topic, qos }])

def parseSubscribe (data : Bytes) : ParseResult × List MqttEvent :=
  match data with
  | high :: low :: p =>
    match parseFilters p.length p [] with
    | some filters => (.ok, [.subscribe (ntohs high low) filters])
    | none => (.error, [])
  | _ => (.error, [])

def parsePubAck (data : Bytes) : ParseResult × List MqttEvent :=
  match data with
  | high :: low :: _ => (.ok, [.pubAck (ntohs high low)])
  | _ => (.error, [])

def parseBody (type : MqttPacketType) (flags : UInt8) (data : Bytes) : ParseResult × List MqttEvent :=
  match type with
  | .connect => parseConnect data
  | .publish => parsePublish flags data
  | .puback => parsePubAck data
  | .subscribe => parseSubscribe data
  | .pingreq => (.ok, [.pingReq])
  | .disconnect => (.ok, [.disconnect])
  | _ => (.ok, [])

/-- `totalLen` of `parse`: the type byte, the length bytes and the remaining length. -/
def totalLen (p : Bytes) : Nat :=
  1 + (decodeRemainingLength p.tail).2 + (decodeRemainingLength p.tail).1

def packetData (p : Bytes) : Bytes :=
  (p.drop (1 + (decodeRemainingLength p.tail).2)).take (decodeRemainingLength p.tail).1

/-- The first packet of the readable bytes: its total length and the result of its body, once
the whole packet has arrived. -/
def firstPacket (p : Bytes) : Option (Nat × ParseResult × List MqttEvent) :=
  if p.length < 2 then none
  else if p.length < totalLen p then none
  else
    let firstByte := p.headD 0
    some (totalLen p, parseBody (mqttPacketTypeFromByte firstByte) (mqttPacketFlags firstByte) (packetData p))

/-- `MqttCodec::parse`: the result, the callbacks fired and the buffer afterwards. -/
def parse (buf : Buffer) : ParseResult × List MqttEvent × Buffer :=
  match firstPacket buf.readable with
  | none => (.incomplete, [], buf)
  | some (len, result, events) => (result, events, buf.retrieve len)

/-! ### Encoders -/

def encodeConnAck (out : Buffer) (code : MqttConnAckCode) : Buffer :=
  let out := out.append [mqttPacketTypeByte .connack 0]
  let out := encodeRemainingLength out 2
  (out.append [0]).append [code.value]

def encodeSubAck (out : Buffer) (packetId : UInt16) (returnCodes : List UInt8) : Buffer :=
  let out := out.append [mqttPacketTypeByte .suback 0]
  let out := encodeRemainingLength out (2 + returnCodes.length)
  let out := out.append (htons packetId)
  returnCodes.foldl (fun out rc => out.append [rc]) out

def encodeIdPacket (type : MqttPacketType) (out : Buffer) (packetId : UInt16) : Buffer :=
  let out := out.append [mqttPacketTypeByte type 0]
  let out := encodeRemainingLength out 2
  out.append (htons packetId)

def encodePubAck (out : Buffer) (packetId : UInt16) : Buffer := encodeIdPacket .puback out packetId

def encodeUnsubAck (out : Buffer) (packetId : UInt16) : Buffer := encodeIdPacket .unsuback out packetId

/-- The flag bits of `encodePublish`; it never sets DUP. -/
def publishFlags (qos : MqttQoS) (retain : Bool) : UInt8 :=
  (if retain then (0x01 : UInt8) else 0x00) ||| (qos.value <<< 1)

def publishRemaining (topic payload : Bytes) (qos : MqttQoS) : Nat :=
  2 + topic.length + (if qos = .atMostOnce then 0 else 2) + payload.length

def encodePublish (out : Buffer) (topic payload : Bytes) (qos : MqttQoS) (packetId : UInt16) (retain : Bool) :
    Buffer :=
  let out := out.append [mqttPacketTypeByte .publish (publishFlags qos retain)]
  let out := encodeRemainingLength out (publishRemaining topic payload qos)
  let out := writeMqttString out topic
  let out := if qos = .atMostOnce then out else out.append (htons packetId)
  out.append payload

def encodePingResp (out : Buffer) : Buffer :=
  (out.append [mqttPacketTypeByte .pingresp 0]).append [0]

end MqttCodec
end IotGateway.Protocol
