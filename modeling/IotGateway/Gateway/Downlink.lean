import IotGateway.Net.Carried
import IotGateway.Gateway.AtLeastOnce
import IotGateway.Gateway.CommandFrame

/-!
# From the gateway to the device

Everything that a node hands to a connection is a whole MQTT packet, as long as the
commands it is given fit one. The connection writes it in pieces, among messages of other
threads. A device that cuts what it reads at the remaining lengths gets packets that were
handed over, none of them twice, and all of them when nothing waits any more.
-/

namespace IotGateway.Protocol.MqttCodec

/-- The packets of a stream as they stand there. Only the first byte and the remaining length are needed to cut them. -/
def nextFrame (p : Bytes) : Outcome UInt8 Bytes :=
  match firstPacket p with
  | none => .incomplete
  | some (len, _) => .emit [p.take len] (p.drop len)

theorem nextFrame_emit {p rest : Bytes} {packets : List Bytes} (emitted : nextFrame p = .emit packets rest) :
    ∃ len body, firstPacket p = some (len, body) ∧ packets = [p.take len] ∧ rest = p.drop len := by
  unfold nextFrame at emitted
  split at emitted
  · cases emitted
  · rename_i len body whole
    cases emitted
    exact ⟨len, body, whole, rfl, rfl⟩

theorem nextFrame_ne_fail {p rest : Bytes} : nextFrame p ≠ .fail rest := by
  unfold nextFrame
  split <;> exact nofun

theorem nextFrame_shorter {p rest : Bytes} {packets : List Bytes} (emitted : nextFrame p = .emit packets rest) :
    rest.length < p.length := by
  obtain ⟨len, body, whole, -, rfl⟩ := nextFrame_emit emitted
  have bounds := firstPacket_bounds whole
  rw [List.length_drop]
  omega

theorem nextFrame_append {p rest : Bytes} {packets : List Bytes} (t : Bytes) (emitted : nextFrame p = .emit packets rest) :
    nextFrame (p ++ t) = .emit packets (rest ++ t) := by
  obtain ⟨len, body, whole, rfl, rfl⟩ := nextFrame_emit emitted
  have inside := (firstPacket_bounds whole).2
  unfold nextFrame
  rw [firstPacket_append t whole, ← List.drop_append_of_le_length inside]
  dsimp only
  rw [List.take_append_of_le_length inside]

def packetsOf : Decoder UInt8 Bytes where
  next := nextFrame
  emit_shorter := nextFrame_shorter
  emit_append := nextFrame_append
  fail_append := fun _ failed => absurd failed nextFrame_ne_fail

theorem packetsOf_waits : packetsOf.next [] = .incomplete := rfl

theorem reads_packet {bytes : Bytes} {events : List MqttEvent} (packet : IsPacket bytes events) :
    packetsOf.Reads bytes [bytes] := by
  intro t
  show nextFrame (bytes ++ t) = _
  unfold nextFrame
  rw [packet t]
  dsimp only
  rw [List.take_left, List.drop_left]

end IotGateway.Protocol.MqttCodec

namespace IotGateway.Gateway
open Text Net Redis Storage Protocol
open GatewayServer (commandFrame commandTopic)

/-! ### Frames -/

def handed? : Action → Option (NodeId × ConnId × Bytes)
  | .frame n k bytes => some (n, k, bytes)
  | _ => none

def handed (w : World) : List (NodeId × ConnId × Bytes) := w.log.filterMap handed?

/-- What a node has handed to one of its connections, in order. -/
def framesTo (n : NodeId) (k : ConnId) (w : World) : List Bytes :=
  ((handed w).filterMap fun f => if f.1 = n ∧ f.2.1 = k then some f.2.2 else none).reverse

theorem sees_handed : Sees handed [.frame] := by
  intro part other
  cases part <;> first | exact absurd (by decide) other | exact fun _ _ => rfl | exact fun _ _ _ => rfl |
    exact fun w action kind => by cases action <;> first | rfl | cases kind

theorem mem_framesTo {n : NodeId} {k : ConnId} {w : World} {bytes : Bytes} (member : bytes ∈ framesTo n k w) :
    (n, k, bytes) ∈ handed w := by
  obtain ⟨f, listed, chosen⟩ := List.mem_filterMap.mp (List.mem_reverse.mp member)
  split at chosen
  · rename_i here
    obtain ⟨rfl, rfl⟩ := here
    cases chosen
    exact listed
  · cases chosen

/-- The bytes of a packet that the codec can encode. -/
def IsWire (bytes : Bytes) : Prop := ∃ packet : MqttCodec.Packet, packet.Sendable ∧ bytes = packet.wire

theorem packets_of_wires {wires : List Bytes} (whole : ∀ bytes ∈ wires, IsWire bytes) :
    ∃ packets : List MqttCodec.Packet, (∀ packet ∈ packets, packet.Sendable) ∧ wires = packets.map MqttCodec.Packet.wire := by
  induction wires with
  | nil => exact ⟨[], nofun, rfl⟩
  | cons bytes wires ih =>
    obtain ⟨packet, sendable, rfl⟩ := whole bytes List.mem_cons_self
    obtain ⟨packets, all, rfl⟩ := ih fun bytes member => whole bytes (List.mem_cons_of_mem _ member)
    exact ⟨packet :: packets, List.forall_mem_cons.mpr ⟨sendable, all⟩, rfl⟩

/-- The frames that have come to the log are whole packets. -/
def Adds (w w' : World) : Prop := ∃ new, handed w' = new ++ handed w ∧ ∀ f ∈ new, IsWire f.2.2

theorem Adds.of_handed {w w' : World} (same : handed w' = handed w) : Adds w w' := ⟨[], same, nofun⟩

theorem Adds.refl (w : World) : Adds w w := .of_handed rfl

theorem Adds.trans {w₁ w₂ w₃ : World} (first : Adds w₁ w₂) (second : Adds w₂ w₃) : Adds w₁ w₃ := by
  obtain ⟨new, grows, whole⟩ := first
  obtain ⟨new', grows', whole'⟩ := second
  refine ⟨new' ++ new, by rw [grows', grows, List.append_assoc], fun f member => ?_⟩
  exact (List.mem_append.mp member).elim (whole' f) (whole f)

theorem Adds.foldl {α : Type} {f : World → α → World} (kept : ∀ w a, Adds w (f w a)) (items : List α) (w : World) :
    Adds w (items.foldl f w) := by
  induction items generalizing w with
  | nil => exact .refl w
  | cons a items ih => exact (kept w a).trans (ih (f w a))

theorem isWire_commandFrame {cmd : Command} (fits : Representable cmd) (packetId : UInt16) :
    IsWire (commandFrame cmd packetId) :=
  ⟨.publish (commandTopic cmd) cmd.payload .atLeastOnce packetId false, ⟨fits.1, by decide, nofun, fits.2⟩, rfl⟩

theorem isWire_connAck : IsWire (MqttCodec.encodeConnAck newBuffer .accepted).readable := ⟨.connAck .accepted, trivial, rfl⟩

theorem isWire_pubAck (packetId : UInt16) : IsWire (MqttCodec.encodePubAck newBuffer packetId).readable :=
  ⟨.pubAck packetId, trivial, rfl⟩

theorem isWire_subAck (packetId : UInt16) {codes : List UInt8} (fits : 2 + codes.length < 2 ^ 28) :
    IsWire (MqttCodec.encodeSubAck newBuffer packetId codes).readable := by
  have sendable : (MqttCodec.Packet.subAck packetId codes).Sendable := fits
  exact ⟨_, sendable, rfl⟩

theorem isWire_pingResp : IsWire (MqttCodec.encodePingResp newBuffer).readable := ⟨.pingResp, trivial, rfl⟩

/-! ### What the functions of a node send -/

section Node

variable (n : NodeId) (g : GatewayServer) (w : World)

theorem adds_send {bytes : Bytes} (whole : IsWire bytes) (conn : ConnId) : Adds w (g.send n w conn bytes) := by
  unfold GatewayServer.send
  split
  · refine ⟨[(n, conn, bytes)], rfl, fun f member => ?_⟩
    rw [List.mem_singleton.mp member]
    exact whole
  · exact .refl w

theorem adds_handleConnect (conn : ConnId) (payload : MqttConnectPayload) :
    Adds w (g.handleConnect n w conn payload).2 := by
  unfold GatewayServer.handleConnect DeviceManager.deviceOnline
  dsimp only
  refine .trans (.of_handed ?_) (adds_send n _ _ isWire_connAck conn)
  rw [Sees.record sees_handed _ rfl]
  split
  · exact view_registerDevice _ w (Sees.blind sees_handed rfl) _ _ _
  · rfl

theorem adds_handlePublish (conn : ConnId) {topic payload : Bytes}
    (fits : (MqttCodec.Packet.publish topic payload .atMostOnce 0 false).Sendable) (qos : MqttQoS) (packetId : UInt16) :
    Adds w (g.handlePublish n w conn topic payload qos packetId).2 := by
  have cached := fun clientId => view_cached g w (Sees.blind sees_handed rfl) clientId topic payload
  have fans : ∀ (g : GatewayServer) (conns : List ConnId) (w : World), Adds w (conns.foldl (fun w conn => g.send n w conn
      (MqttCodec.encodePublish newBuffer topic payload .atMostOnce 0 false).readable) w) := by
    intro g conns w
    exact Adds.foldl (fun w conn => adds_send n g w ⟨_, fits, rfl⟩ conn) conns w
  unfold GatewayServer.handlePublish
  dsimp only
  split
  · exact (Adds.of_handed (cached _)).trans ((fans _ _ _).trans (adds_send n _ _ (isWire_pubAck packetId) conn))
  · exact (Adds.of_handed (cached _)).trans (fans _ _ _)

theorem adds_handleSubscribe (conn : ConnId) (packetId : UInt16) {filters : List MqttTopicFilter}
    (fits : 2 + filters.length < 2 ^ 28) : Adds w (g.handleSubscribe n w conn packetId filters).2 := by
  unfold GatewayServer.handleSubscribe
  split
  · exact .refl w
  · refine adds_send n _ w (isWire_subAck packetId ?_) conn
    rwa [List.length_map]

theorem adds_handlePingReq (conn : ConnId) : Adds w (g.handlePingReq n w conn).2 := by
  obtain ⟨g', w', touched, answered⟩ := g.world_handlePingReq n w conn
  rw [answered]
  refine .trans (.of_handed ?_) (adds_send n _ _ isWire_pingResp conn)
  rcases touched with same | ⟨clientId, same⟩
  · rw [same]
  · rw [same]
    exact view_updateDeviceHeartbeat _ w (Sees.blind sees_handed rfl) clientId

/-- A packet that the codec has accepted. -/
def Parsed (e : MqttEvent) : Prop := ∃ buf buf', MqttCodec.parse buf = (.ok, [e], buf')

theorem adds_handleItem (conn : ConnId) {item : Item MqttEvent} (parsed : ∀ e, item = .event e → Parsed e) :
    Adds w (g.handleItem n w conn item).2 := by
  cases item with
  | failure => exact .refl w
  | event e =>
    obtain ⟨buf, buf', parsed⟩ := parsed e rfl
    cases e with
    | connect payload => exact adds_handleConnect n g w conn payload
    | publish topic payload qos retain packetId =>
      exact adds_handlePublish n g w conn (MqttCodec.sendable_of_parsed parsed) qos packetId
    | subscribe packetId filters => exact adds_handleSubscribe n g w conn packetId (MqttCodec.length_of_parsed parsed)
    | pingReq => exact adds_handlePingReq n g w conn
    | disconnect => exact .of_handed (view_gone g w (Sees.blind sees_handed rfl) rfl conn)
    | pubAck packetId => exact .refl w

theorem adds_sendCommandToDevice {cmd : Command} (fits : Representable cmd) :
    Adds w (g.sendCommandToDevice n w cmd).2.2 := by
  cases found : g.deviceMgr_.findDevice g.conns cmd.deviceId with
  | none =>
    rw [GatewayServer.sendCommandToDevice_none n found]
    exact .refl w
  | some device =>
    rw [GatewayServer.sendCommandToDevice_some n found]
    refine ⟨[(n, device.connection, commandFrame cmd (GatewayServer.nextPacketId g.s_packetId))], ?_, fun f member => ?_⟩
    · rw [view_ackCommand _ _ (Sees.blind sees_handed rfl), view_markCommandSent _ _ (Sees.blind sees_handed rfl)]
      rfl
    · rw [List.mem_singleton.mp member]
      exact isWire_commandFrame fits _

theorem adds_deliverCommand {cmd : Command} (fits : Representable cmd) : Adds w (g.deliverCommand n w cmd).2 := by
  have forwarded := view_forwardCommand n g.redisClient_ w (Sees.blind sees_handed rfl) cmd.deviceId cmd
  rcases g.deliverCommand_cases n w cmd with ⟨-, same⟩ | ⟨-, ⟨reason, same⟩ | ⟨-, same⟩ | ⟨-, same⟩⟩
  · rw [same]
    exact adds_sendCommandToDevice n _ w fits
  · rw [same]
    exact .of_handed (view_markCommandFailed _ w (Sees.blind sees_handed rfl) _ reason)
  · rw [same]
    exact .of_handed ((view_ackCommand _ _ (Sees.blind sees_handed rfl) _).trans forwarded)
  · rw [same]
    exact .of_handed ((view_markCommandFailed _ _ (Sees.blind sees_handed rfl) _ _).trans forwarded)

theorem adds_deliverCommands {commands : List Command} (fits : ∀ cmd ∈ commands, Representable cmd) :
    Adds w (commands.foldl (fun s cmd => s.1.deliverCommand n s.2 cmd) (g, w)).2 := by
  induction commands generalizing g w with
  | nil => exact .refl w
  | cons cmd commands ih =>
    refine (adds_deliverCommand n g w (fits cmd List.mem_cons_self)).trans ?_
    exact ih _ _ fun cmd' member => fits cmd' (List.mem_cons_of_mem _ member)

/-- The commands that a node reads fit a packet. -/
def ReadsFit (reach : Reach) (junk : RedisClient.Junk) : Prop :=
  ∀ commands, (g.redisClient_.consumeCommands n reach junk 10 w).1 = .ok commands → ∀ cmd ∈ commands, Representable cmd

theorem adds_processCommand (reach : Reach) (junk : RedisClient.Junk) (fits : ReadsFit n g w reach junk) :
    Adds w (g.processCommand n reach junk w).2 := by
  have consumed := view_consumeCommands g.redisClient_ w (Sees.blind sees_handed rfl) n reach junk 10
  unfold ReadsFit at fits
  unfold GatewayServer.processCommand
  generalize g.redisClient_.consumeCommands n reach junk 10 w = outcome at consumed fits ⊢
  obtain ⟨commands, c, w'⟩ := outcome
  split
  · exact .refl w
  · dsimp only
    split
    · exact .of_handed consumed
    · exact .of_handed consumed
    · exact (Adds.of_handed consumed).trans (adds_deliverCommands n _ _ (fits _ rfl))

/-! ### Runs of the cluster -/

/-- Packets come out of the codec, and commands fit a packet. -/
def Fits (s : System) : Event → Prop
  | .node _ (.packet _ item) => ∀ e, item = .event e → Parsed e
  | .node n (.processCommand reach junk) => ReadsFit n (s.nodes n) s.world reach junk
  | .node _ (.crossNodeCommand cmd) => Representable cmd
  | _ => True

end Node

theorem adds_nodeStep {s : System} {n : NodeId} {e : NodeEvent} (fits : Fits s (.node n e)) :
    Adds s.world ((s.nodes n).nodeStep n s.world e).2 := by
  cases e with
  | packet conn item =>
    simp only [GatewayServer.nodeStep]
    split
    · exact adds_handleItem n _ _ conn fits
    · exact .refl _
  | processCommand reach junk =>
    have adds := adds_processCommand n _ _ reach junk fits
    simp only [GatewayServer.nodeStep]
    split
    · rename_i done
      rw [done] at adds
      exact adds
    · rename_i failed
      rw [failed] at adds
      exact adds.trans (.of_handed (view_exit n _ _ (Sees.blind sees_handed rfl)))
  | crossNodeCommand cmd => exact adds_sendCommandToDevice n _ _ fits
  | _ => exact .of_handed (view_nodeStep n _ _ (Sees.blind sees_handed rfl))

theorem adds_step {s : System} {e : Event} (fits : Fits s e) : Adds s.world (s.step e).world := by
  cases e with
  | tick delta => exact .refl _
  | start n reach mqttPort =>
    simp only [System.step]
    split
    · exact .refl _
    · exact .of_handed (view_start n _ _ (Sees.blind sees_handed rfl) reach mqttPort)
  | node n event =>
    simp only [System.step]
    split
    · exact adds_nodeStep fits
    · exact .refl _

/-- Whatever a cluster hands to its connections is whole packets. -/
theorem handed_whole {events : List Event} (fits : Meets System.step Fits System.new events) :
    ∀ f ∈ handed (run System.step System.new events).world, IsWire f.2.2 := by
  refine @run_invariant _ _ System.step _ (fun s => ∀ f ∈ handed s.world, IsWire f.2.2) _ _ nofun ?_ fits
  intro s e whole fits
  obtain ⟨new, grows, packets⟩ := adds_step fits
  rw [grows]
  intro f member
  exact (List.mem_append.mp member).elim (packets f) (whole f)

/-! ### What the device reads -/

/-- In every run of a cluster whose packets come out of the codec and whose commands fit a packet everything that is handed
to a connection is a whole packet. In every orderly interleaving of the threads of a connection in which `send` has accepted
what one node has handed to it a device that has read, in whatever pieces, what was written cuts it into whole packets of
the gateway, in the order in which they reached `sendInLoop` and none more often than it was handed over, and they are all
when the connection is up and nothing waits. -/
theorem packets_reach_device {events : List Event} (fits : Meets System.step Fits System.new events) (n : NodeId) (k : ConnId)
    (writeComplete : Bool) (highWater : Option Nat) {threads : List ThreadEvent}
    (orderly : Meets Threads.step Orderly (Threads.new writeComplete highWater) threads)
    (healthy : ∀ e ∈ threads, e.faults = false)
    (given : (accepted (run Threads.step (Threads.new writeComplete highWater) threads).conn.trace).Perm
      (framesTo n k (run System.step System.new events).world))
    {pieces : List Bytes}
    (read : pieces.flatten = written (run Threads.step (Threads.new writeComplete highWater) threads).conn.trace) :
    let t := run Threads.step (Threads.new writeComplete highWater) threads
    let sent := framesTo n k (run System.step System.new events).world
    (∀ f ∈ handed (run System.step System.new events).world, IsWire f.2.2) ∧
    ∃ packets : List MqttCodec.Packet, (∀ packet ∈ packets, packet.Sendable) ∧
      (MqttCodec.packetsOf.feedAll pieces).1 = packets.map (fun packet => .event packet.wire) ∧
      packets.map MqttCodec.Packet.wire <+: messages t.conn.trace ∧ (packets.map MqttCodec.Packet.wire).Subperm sent ∧
      (t.conn.state_ ≠ .disconnected → t.onTheWay = [] → t.conn.outputBuffer_.readable = [] →
        (packets.map MqttCodec.Packet.wire).Perm sent) := by
  intro t sent
  refine ⟨handed_whole fits, ?_⟩
  have carried : Carried t := carried_run writeComplete highWater orderly healthy
  have account : (messages t.conn.trace ++ t.onTheWay).Perm sent := carried.account.symm.trans given
  have whole : ∀ bytes ∈ messages t.conn.trace, IsWire bytes := by
    intro bytes member
    have listed : bytes ∈ sent := account.mem_iff.mp (List.mem_append_left _ member)
    exact handed_whole fits _ (mem_framesTo listed)
  obtain ⟨packets, sendable, same⟩ := packets_of_wires whole
  have reads : ∀ packet ∈ packets, MqttCodec.packetsOf.Reads packet.wire [packet.wire] :=
    fun packet member => MqttCodec.reads_packet (MqttCodec.isPacket_wire (sendable packet member))
  have early : pieces.flatten <+: (packets.map MqttCodec.Packet.wire).flatten := by
    rw [← same, read]
    exact carried.sent
  obtain ⟨seen, started, fed, all⟩ := MqttCodec.packetsOf.feedAll_prefix reads MqttCodec.packetsOf_waits early
  rw [← List.map_eq_flatMap, List.map_map] at fed
  have inOrder : seen.map MqttCodec.Packet.wire <+: messages t.conn.trace := by
    rw [same]
    exact started.map _
  refine ⟨seen, fun packet member => sendable packet (started.subset member), fed, inOrder, ?_, ?_⟩
  · exact (inOrder.sublist.subperm.trans (List.sublist_append_left _ _).subperm).trans account.subperm
  · intro up empty flushed
    have bytes := (carried.flows up).bytes
    rw [flushed, List.append_nil] at bytes
    rw [all (by rw [← same, ← bytes, read]), ← same]
    rw [empty, List.append_nil] at account
    exact account

/-- The sensor connects and asks whether the gateway is there. -/
def sensorPings : List Event := startBoth ++ arrive gateway1 0 sensor ++ [.node gateway1 (.packet 0 (.event .pingReq))]

def connAckBytes : Bytes := [0x20, 2, 0, 0]

def pingRespBytes : Bytes := [0xd0, 0]

/-- Another thread sends the first answer, of which the loop can write one byte. The second one waits behind it. -/
def answerInPieces : List ThreadEvent :=
  establish ++ [.call false (.send connAckBytes), .resume 0 .again, .poll {}, .swap, .functor (.wrote 1),
    .call true (.send pingRespBytes), .resume 0 .again, .poll { writable := true }, .handle .error (.wrote 4)]

theorem packets_reach_device_sensor :
    let pieces : List Bytes := [[0x20, 2], [0, 0, 0xd0]]
    (run Threads.step (Threads.new false none) answerInPieces).conn.outputBuffer_.readable = [0] ∧
      (∀ f ∈ handed (run System.step System.new sensorPings).world, IsWire f.2.2) ∧
      ∃ packets : List MqttCodec.Packet, (∀ packet ∈ packets, packet.Sendable) ∧
        (MqttCodec.packetsOf.feedAll pieces).1 = packets.map (fun packet => .event packet.wire) ∧
        (packets.map MqttCodec.Packet.wire).Subperm [connAckBytes, pingRespBytes] := by
  intro pieces
  have connects : Parsed (.connect { protocolName := ascii "MQTT", flags := 2, clientId := sensor }) := by
    have packet : MqttCodec.IsPacket (MqttCodec.Packet.connect sensor).wire _ :=
      MqttCodec.isPacket_wire (show sensor.length ≤ 65535 by decide)
    exact ⟨_, MqttCodec.parse_of_isPacket packet (MqttCodec.readable_received _)⟩
  have pings : Parsed .pingReq := by
    have packet : MqttCodec.IsPacket (MqttCodec.framed 0xc0 []) [.pingReq] := MqttCodec.isPacket_framed (by decide) rfl
    exact ⟨_, MqttCodec.parse_of_isPacket packet (MqttCodec.readable_received _)⟩
  have fits : Meets System.step Fits System.new sensorPings :=
    ⟨trivial, trivial, trivial, fun e same => by cases same; exact connects, fun e same => by cases same; exact pings, trivial⟩
  have orderly : Meets Threads.step Orderly (Threads.new false none) answerInPieces := by decide +kernel
  have healthy : ∀ e ∈ answerInPieces, e.faults = false := by decide +kernel
  have sent : framesTo gateway1 0 (run System.step System.new sensorPings).world = [connAckBytes, pingRespBytes] := by
    decide +kernel
  have given : (accepted (run Threads.step (Threads.new false none) answerInPieces).conn.trace).Perm
      (framesTo gateway1 0 (run System.step System.new sensorPings).world) := by
    rw [sent]
    decide +kernel
  have read : pieces.flatten = written (run Threads.step (Threads.new false none) answerInPieces).conn.trace := by
    decide +kernel
  obtain ⟨whole, packets, sendable, cut, _, among, _⟩ :=
    packets_reach_device fits gateway1 0 false none orderly healthy given read
  rw [sent] at among
  exact ⟨by decide +kernel, whole, packets, sendable, cut, among⟩

end IotGateway.Gateway
