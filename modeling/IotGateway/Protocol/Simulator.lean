import IotGateway.Net.Output
import IotGateway.Protocol.RoundTrip

/-!
# A simulated device

`MqttClient` of `simulator_main.cpp` on its loop. It sends a CONNECT as soon as its
connection is there and a PUBLISH with the same packet id whenever its timer asks for one.
It reads nothing of what the gateway answers. Nobody takes its connection out of epoll:
`closeCallback_` is not set.
-/

namespace IotGateway.Protocol.Simulator
open Text Net

structure MqttClient where
  clientId_ : Bytes
  conn_ : TcpConnection := {}
  inputBuffer_ : Buffer := Buffer.new kInitialSize
  connected_ : Bool := false
  msgCount_ : Nat := 0

inductive ClientEvent where
  | connectEstablished (result : WriteResult)
  | publish (topic payload : Bytes) (result : WriteResult)
  | disconnect
  | handleRead (result : ReadResult)
  | handleWrite (result : WriteResult)
  | handleClose

/-- A complete implementation would use the codec, says the source. -/
def handleMessage (buf : Buffer) : Buffer :=
  if 4 ≤ buf.readableBytes then buf.retrieve buf.readableBytes else buf

namespace MqttClient

/-- The connection callback says that the connection is there, and sends the CONNECT. -/
def connectEstablished (c : MqttClient) (result : WriteResult) : MqttClient :=
  let conn_ := c.conn_.connectEstablished
  if conn_.aborted then { c with conn_ }
  else { c with conn_ := conn_.send (sendConnect c.clientId_).readable result, connected_ := true }

/-- `TcpConnection::handleClose` without a close callback. -/
def handleClose (c : MqttClient) : MqttClient :=
  let conn_ := c.conn_.record .handleClose
  if conn_.state_ = .connected ∨ conn_.state_ = .disconnecting then
    let conn_ := conn_.setState .disconnected
    let conn_ := conn_.setChannel conn_.channel_.disableAll
    { c with conn_ := conn_.record (.connectionCallback conn_.connected), connected_ := conn_.connected }
  else { c with conn_ := conn_.abort }

/-- The count goes up whether or not `send` takes the bytes. -/
def publish (c : MqttClient) (topic payload : Bytes) (result : WriteResult) : MqttClient :=
  if c.connected_ then
    let buf := MqttCodec.encodePublish (Buffer.new kInitialSize) topic payload .atLeastOnce 1 false
    { c with conn_ := c.conn_.send buf.readable result, msgCount_ := c.msgCount_ + 1 }
  else c

def handleRead (c : MqttClient) : ReadResult → MqttClient
  | .data received =>
    { c with
        conn_ := c.conn_.record (.messageCallback received)
        inputBuffer_ := handleMessage (c.inputBuffer_.append received) }
  | .eof => c.handleClose
  | .error => c

def step (c : MqttClient) (e : ClientEvent) : MqttClient :=
  if c.conn_.aborted then c
  else
    match e with
    | .connectEstablished result => c.connectEstablished result
    | .publish topic payload result => c.publish topic payload result
    | .disconnect => { c with conn_ := c.conn_.shutdown }
    | .handleRead result => c.handleRead result
    | .handleWrite result => { c with conn_ := c.conn_.handleWrite result }
    | .handleClose => c.handleClose

end MqttClient

namespace ClientEvent

def faults : ClientEvent → Bool
  | .connectEstablished .fault | .publish _ _ .fault | .handleWrite .fault => true
  | _ => false

/-- What the timer asks to publish. -/
def asks : ClientEvent → Option (Bytes × Bytes)
  | .publish topic payload _ => some (topic, payload)
  | _ => none

end ClientEvent

/-- The reading that the timer asks for while the connection is up. -/
def MqttClient.sends (c : MqttClient) (e : ClientEvent) : List (Bytes × Bytes) :=
  if c.conn_.aborted = false ∧ c.conn_.state_ = .connected then e.asks.toList else []

theorem MqttClient.sends_sublist (c : MqttClient) (e : ClientEvent) : (c.sends e).Sublist e.asks.toList := by
  unfold sends
  split
  · exact List.Sublist.refl _
  · exact List.nil_sublist _

theorem MqttClient.sends_nil {c : MqttClient} {e : ClientEvent} (silent : e.asks = none) : c.sends e = [] := by
  rw [sends, silent]
  exact ite_self []

/-! ### What is said -/

def publishPacket (reading : Bytes × Bytes) : MqttCodec.Packet := .publish reading.1 reading.2 .atLeastOnce 1 false

/-- The packets of a device that has published these readings. -/
def packets (clientId : Bytes) (published : List (Bytes × Bytes)) : List MqttCodec.Packet :=
  .connect clientId :: published.map publishPacket

theorem wires_more (clientId : Bytes) (published : List (Bytes × Bytes)) (reading : Bytes × Bytes) :
    (packets clientId (published ++ [reading])).map MqttCodec.Packet.wire =
      (packets clientId published).map MqttCodec.Packet.wire ++ [(publishPacket reading).wire] := by
  simp [packets]

/-- A device has not been connected yet, or it is connected and has said what it counted, or it is cut off. -/
inductive Talk (c : MqttClient) (published : List (Bytes × Bytes)) : Prop where
  | unopened (early : c.conn_.state_ = .connecting) (off : c.connected_ = false) (unsaid : messages c.conn_.trace = [])
      (none : published = []) (count : c.msgCount_ = 0) (flowing : Flowing c.conn_)
  | opened (up : c.conn_.state_ = .connected ∨ c.conn_.state_ = .disconnecting) (on : c.connected_ = true)
      (said : messages c.conn_.trace = (packets c.clientId_ published).map MqttCodec.Packet.wire)
      (count : published.length ≤ c.msgCount_) (all : c.conn_.state_ = .connected → published.length = c.msgCount_)
      (flowing : Flowing c.conn_)
  | closed (down : c.conn_.state_ = .disconnected) (off : c.connected_ = false) (idle : c.conn_.channel_.isWriting = false)
      (said : messages c.conn_.trace = (packets c.clientId_ published).map MqttCodec.Packet.wire)
      (count : published.length ≤ c.msgCount_) (sent : written c.conn_.trace <+: (messages c.conn_.trace).flatten)

theorem talk_new (clientId : Bytes) : Talk { clientId_ := clientId } [] :=
  .unopened rfl rfl rfl rfl rfl ⟨by simp [written, messages], by simp⟩

section Step

variable {c : MqttClient} {published : List (Bytes × Bytes)}

theorem Talk.sent (talk : Talk c published) : written c.conn_.trace <+: (messages c.conn_.trace).flatten := by
  cases talk with
  | unopened early off unsaid none count flowing => exact ⟨_, flowing.bytes⟩
  | opened up on said count all flowing => exact ⟨_, flowing.bytes⟩
  | closed down off idle said count sent => exact sent

theorem Talk.said (talk : Talk c published) :
    messages c.conn_.trace <+: (packets c.clientId_ published).map MqttCodec.Packet.wire := by
  cases talk with
  | unopened early off unsaid none count flowing =>
    rw [unsaid]
    exact List.nil_prefix
  | opened up on said count all flowing => exact said ▸ List.prefix_rfl
  | closed down off idle said count sent => exact said ▸ List.prefix_rfl

/-- A step that changes nothing a gateway or a user of the client could tell. -/
theorem Talk.same (talk : Talk c published) (conn : TcpConnection) (state : conn.state_ = c.conn_.state_)
    (flow : conn.flow = c.conn_.flow) (inputBuffer_ : Buffer) : Talk { c with conn_ := conn, inputBuffer_ } published := by
  have parts := flow
  simp only [TcpConnection.flow, Prod.mk.injEq] at parts
  obtain ⟨out, msgs, _, writing⟩ := parts
  cases talk with
  | unopened early off unsaid none count flowing =>
    exact .unopened (state.trans early) off (msgs.trans unsaid) none count (flowing.of_flow flow)
  | opened up on said count all flowing =>
    refine .opened ?_ on (msgs.trans said) count (fun connected => all (state.symm.trans connected)) (flowing.of_flow flow)
    rw [state]
    exact up
  | closed down off idle said count sent =>
    refine .closed (state.trans down) off (writing.trans idle) (msgs.trans said) count ?_
    rw [out, msgs]
    exact sent

theorem send_connected {conn : TcpConnection} (connected : conn.state_ = .connected) (flowing : Flowing conn) (msg : Bytes)
    {result : WriteResult} (healthy : result ≠ .fault) :
    Flowing (conn.send msg result) ∧ messages (conn.send msg result).trace = messages conn.trace ++ [msg] ∧
      (conn.send msg result).state_ = .connected := by
  rw [TcpConnection.send, if_pos connected]
  have taken : Flowing (conn.record (.accepted msg)) := flowing.of_flow rfl
  have up : (conn.record (.accepted msg)).state_ ≠ .disconnected := by
    rw [show (conn.record (.accepted msg)).state_ = _ from connected]
    decide
  obtain ⟨entries, outputs, shape⟩ := Outputs.sendInLoop (conn.record (.accepted msg)) msg result
  refine ⟨taken.sendInLoop up msg healthy, ?_, outputs.state.trans connected⟩
  rw [outputs.trace]
  rcases shape with rfl | ⟨bytes, rfl⟩ <;> rfl

theorem Talk.connects (talk : Talk c published) (alive : c.conn_.aborted = false) {result : WriteResult}
    (healthy : result ≠ .fault) : Talk (c.connectEstablished result) published := by
  unfold MqttClient.connectEstablished
  dsimp only
  by_cases early : c.conn_.state_ = .connecting
  swap
  · have refused : c.conn_.connectEstablished = c.conn_.abort := if_neg early
    rw [refused, if_pos (show c.conn_.abort.aborted = true from rfl)]
    exact talk.same c.conn_.abort rfl rfl c.inputBuffer_
  have established : c.conn_.connectEstablished.state_ = .connected ∧ c.conn_.connectEstablished.flow = c.conn_.flow ∧
      c.conn_.connectEstablished.aborted = c.conn_.aborted := by
    rw [TcpConnection.connectEstablished, if_pos early]
    exact ⟨rfl, rfl, rfl⟩
  obtain ⟨connected, flow, unaborted⟩ := established
  rw [if_neg (by rw [unaborted, alive]; decide)]
  cases talk with
  | opened up => rcases up with up | up <;> cases early.symm.trans up
  | closed down => cases early.symm.trans down
  | unopened early off unsaid none count flowing =>
    obtain ⟨flowing, said, up⟩ := send_connected connected (flowing.of_flow flow) (sendConnect c.clientId_).readable healthy
    have before : messages c.conn_.connectEstablished.trace = [] := (congrArg (fun f => f.2.1) flow).trans unsaid
    rw [before] at said
    subst none
    exact .opened (Or.inl up) rfl said (Nat.zero_le _) (fun _ => count.symm) flowing

theorem Talk.publishes (talk : Talk c published) (alive : c.conn_.aborted = false) (topic payload : Bytes)
    {result : WriteResult} (healthy : result ≠ .fault) :
    Talk (c.publish topic payload result) (published ++ c.sends (.publish topic payload result)) := by
  unfold MqttClient.publish MqttClient.sends
  cases talk with
  | unopened early off unsaid none count flowing =>
    rw [if_neg (by rw [off]; decide), if_neg (by rw [early]; exact fun up => by cases up.2), List.append_nil]
    exact .unopened early off unsaid none count flowing
  | closed down off idle said count sent =>
    rw [if_neg (by rw [off]; decide), if_neg (by rw [down]; exact fun up => by cases up.2), List.append_nil]
    exact .closed down off idle said count sent
  | opened up on said count all flowing =>
    rw [if_pos on]
    rcases up with connected | disconnecting
    · obtain ⟨flowing, more, up⟩ := send_connected connected flowing
        (MqttCodec.encodePublish (Buffer.new kInitialSize) topic payload .atLeastOnce 1 false).readable healthy
      have counted := all connected
      have length : (published ++ [(topic, payload)]).length = c.msgCount_ + 1 := by
        rw [List.length_append, List.length_singleton, counted]
      rw [if_pos ⟨alive, connected⟩]
      refine .opened (Or.inl up) on ?_ length.le (fun _ => length) flowing
      rw [ClientEvent.asks, Option.toList_some, wires_more, ← said]
      exact more
    · -- nothing is sent any more, but it is counted
      have dropped : ∀ msg, c.conn_.send msg result = c.conn_ := by
        intro msg
        rw [TcpConnection.send, if_neg (by rw [disconnecting]; decide)]
      rw [if_neg (by rw [disconnecting]; exact fun up => by cases up.2), List.append_nil]
      dsimp only
      rw [dropped]
      refine .opened (Or.inr disconnecting) on said (by dsimp only; omega) ?_ flowing
      intro connected
      cases disconnecting.symm.trans connected

theorem Talk.disconnects (talk : Talk c published) : Talk { c with conn_ := c.conn_.shutdown } published := by
  unfold TcpConnection.shutdown
  split
  swap
  · exact talk
  rename_i connected
  cases talk with
  | unopened early => cases early.symm.trans connected
  | closed down => cases down.symm.trans connected
  | opened up on said count all flowing =>
    have flow : (c.conn_.setState .disconnecting).shutdownInLoop.flow = c.conn_.flow := flow_shutdownInLoop _
    have state : (c.conn_.setState .disconnecting).shutdownInLoop.state_ = .disconnecting :=
      congrArg Life.state_ (TcpConnection.life_shutdownInLoop (c.conn_.setState .disconnecting))
    refine .opened (Or.inr state) on ?_ count ?_ (flowing.of_flow flow)
    · exact (congrArg (fun f => f.2.1) flow).trans said
    · intro connected
      cases state.symm.trans connected

theorem Talk.closes (talk : Talk c published) : Talk c.handleClose published := by
  unfold MqttClient.handleClose
  dsimp only
  split
  · rename_i open_
    cases talk with
    | unopened early => rcases open_ with up | up <;> cases early.symm.trans up
    | closed down => rcases open_ with up | up <;> cases down.symm.trans up
    | opened up on said count all flowing =>
      exact .closed rfl rfl rfl said count ⟨_, flowing.bytes⟩
  · exact talk.same (c.conn_.record .handleClose).abort rfl rfl c.inputBuffer_

theorem Talk.writes (talk : Talk c published) (result : WriteResult) :
    Talk { c with conn_ := c.conn_.handleWrite result } published := by
  by_cases writing : c.conn_.channel_.isWriting = true
  swap
  · rw [TcpConnection.handleWrite_idle (Bool.eq_false_iff.mpr writing)]
    exact talk
  obtain ⟨entries, outputs, bytes, shape⟩ := Outputs.handleWrite writing result
  have state : (c.conn_.handleWrite result).state_ = c.conn_.state_ := outputs.state
  have same : messages (c.conn_.handleWrite result).trace = messages c.conn_.trace := by
    rw [outputs.trace]
    rcases shape with rfl | ⟨rfl, _⟩ <;> rfl
  cases talk with
  | unopened early off unsaid none count flowing =>
    exact .unopened (state.trans early) off (same.trans unsaid) none count (flowing.handleWrite result)
  | opened up on said count all flowing =>
    refine .opened ?_ on (same.trans said) count (fun connected => all (state.symm.trans connected)) (flowing.handleWrite result)
    rw [state]
    exact up
  | closed down off idle => cases writing.symm.trans idle

theorem Talk.reads (talk : Talk c published) (result : ReadResult) : Talk (c.handleRead result) published := by
  cases result with
  | data received => exact talk.same (c.conn_.record (.messageCallback received)) rfl rfl _
  | eof => exact talk.closes
  | error => exact talk

theorem Talk.step (talk : Talk c published) {e : ClientEvent} (healthy : e.faults = false) :
    Talk (c.step e) (published ++ c.sends e) := by
  have kept : ∀ {c' : MqttClient}, c.sends e = [] → Talk c' published → Talk c' (published ++ c.sends e) := by
    intro c' silent talk
    rwa [silent, List.append_nil]
  unfold MqttClient.step
  split
  · rename_i aborted
    apply kept
    · exact if_neg fun up => by cases aborted.symm.trans up.1
    · exact talk
  rename_i alive
  have alive : c.conn_.aborted = false := Bool.eq_false_iff.mpr alive
  cases e with
  | connectEstablished result =>
    refine kept (MqttClient.sends_nil rfl) (talk.connects alive ?_)
    rintro rfl
    cases healthy
  | publish topic payload result =>
    refine talk.publishes alive topic payload ?_
    rintro rfl
    cases healthy
  | disconnect => exact kept (MqttClient.sends_nil rfl) talk.disconnects
  | handleRead result => exact kept (MqttClient.sends_nil rfl) (talk.reads result)
  | handleWrite result => exact kept (MqttClient.sends_nil rfl) (talk.writes result)
  | handleClose => exact kept (MqttClient.sends_nil rfl) talk.closes

end Step

/-! ### What is kept of the answers -/

theorem readableBytes_handleMessage (buf : Buffer) : (handleMessage buf).readableBytes < 4 := by
  unfold handleMessage
  split
  · rw [← Buffer.length_readable, Buffer.readable_retrieve, List.length_drop, Buffer.length_readable]
    omega
  · omega

theorem unread_new : (Buffer.new kInitialSize).readableBytes < 4 := by decide

theorem unread_step {c : MqttClient} (short : c.inputBuffer_.readableBytes < 4) (e : ClientEvent) :
    (c.step e).inputBuffer_.readableBytes < 4 := by
  have closes : c.handleClose.inputBuffer_ = c.inputBuffer_ := by
    unfold MqttClient.handleClose
    dsimp only
    split <;> rfl
  unfold MqttClient.step
  split
  · exact short
  cases e with
  | connectEstablished result =>
    dsimp only [MqttClient.connectEstablished]
    split <;> exact short
  | publish topic payload result =>
    dsimp only [MqttClient.publish]
    split <;> exact short
  | disconnect => exact short
  | handleWrite result => exact short
  | handleClose =>
    dsimp only
    rw [closes]
    exact short
  | handleRead result =>
    cases result with
    | data received => exact readableBytes_handleMessage _
    | error => exact short
    | eof =>
      dsimp only [MqttClient.handleRead]
      rw [closes]
      exact short

theorem clientId_step (c : MqttClient) (e : ClientEvent) : (c.step e).clientId_ = c.clientId_ := by
  have closes : c.handleClose.clientId_ = c.clientId_ := by
    unfold MqttClient.handleClose
    dsimp only
    split <;> rfl
  unfold MqttClient.step
  split
  · rfl
  cases e with
  | connectEstablished result =>
    dsimp only [MqttClient.connectEstablished]
    split <;> rfl
  | publish topic payload result =>
    dsimp only [MqttClient.publish]
    split <;> rfl
  | disconnect | handleWrite => rfl
  | handleClose => exact closes
  | handleRead result =>
    cases result with
    | data | error => rfl
    | eof => exact closes

/-! ### Whole runs -/

theorem talk_run (clientId : Bytes) {events : List ClientEvent} (healthy : ∀ e ∈ events, e.faults = false) :
    let c := run MqttClient.step { clientId_ := clientId } events
    c.clientId_ = clientId ∧ Talk c (produced MqttClient.step MqttClient.sends { clientId_ := clientId } events) := by
  let talking (published : List (Bytes × Bytes)) (c : MqttClient) : Prop := c.clientId_ = clientId ∧ Talk c published
  have start : talking [] { clientId_ := clientId } := ⟨rfl, talk_new clientId⟩
  refine run_produced MqttClient.step start ?_ (.of_events _ (fun e member _ => healthy e member) _)
  exact fun published c e before healthy => ⟨(clientId_step c e).trans before.1, before.2.step healthy⟩

/-- The packets that the callbacks of the gateway get. -/
def understood (clientId : Bytes) (published : List (Bytes × Bytes)) : List MqttEvent :=
  .connect { protocolName := ascii "MQTT", protocolLevel := 4, flags := 2, keepAlive := 60, clientId } ::
    published.map fun reading => .publish reading.1 reading.2 .atLeastOnce false 1

theorem reads_events {bytes : Bytes} {events : List MqttEvent} (packet : MqttCodec.IsPacket bytes events) :
    MqttCodec.codec.Reads bytes events := by
  intro t
  show MqttCodec.nextPacket (bytes ++ t) = _
  unfold MqttCodec.nextPacket
  rw [packet t]
  dsimp only
  rw [List.drop_left]

theorem flatMap_events (clientId : Bytes) (published : List (Bytes × Bytes)) :
    (packets clientId published).flatMap MqttCodec.Packet.events = understood clientId published := by
  rw [packets, List.flatMap_cons, understood, List.flatMap_map]
  exact congrArg (_ :: ·) List.map_eq_flatMap.symm

/-- In every run of a device whose writes do not fail and whose readings fit a packet, the gateway, which gets what was
written in any pieces, sees the CONNECT and then the first of the readings that were asked for while the connection was up,
as they were given and in order, without a parse error, and all of them when the connection is up and nothing waits. They
are those counted, until the device disconnects, and of the answers at most three bytes are kept. -/
theorem device_understood {clientId : Bytes} (short : clientId.length ≤ 65535) {events : List ClientEvent}
    (healthy : ∀ e ∈ events, e.faults = false)
    (fits : ∀ e ∈ events, ∀ reading, e.asks = some reading → (publishPacket reading).Sendable) {chunks : List Bytes}
    (arrived : chunks.flatten = written (run MqttClient.step { clientId_ := clientId } events).conn_.trace) :
    let c := run MqttClient.step { clientId_ := clientId } events
    let published := produced MqttClient.step MqttClient.sends { clientId_ := clientId } events
    published.Sublist (events.filterMap ClientEvent.asks) ∧
      (∃ seen, seen <+: understood clientId published ∧ (MqttCodec.arrivals chunks).1 = seen.map .event ∧
        (c.connected_ = true → c.conn_.outputBuffer_.readable = [] → seen = understood clientId published)) ∧
      (c.conn_.state_ = .connected → c.msgCount_ = published.length) ∧ c.inputBuffer_.readableBytes < 4 := by
  intro c published
  obtain ⟨same, talk⟩ : c.clientId_ = clientId ∧ Talk c published := talk_run clientId healthy
  have among : published.Sublist (events.filterMap ClientEvent.asks) :=
    produced_sublist MqttClient.step MqttClient.sends_sublist _ events
  have unread : c.inputBuffer_.readableBytes < 4 :=
    run_kept MqttClient.step (fun c => c.inputBuffer_.readableBytes < 4) unread_new (fun c e short => unread_step short e) events
  have sendable : ∀ packet ∈ packets clientId published, packet.Sendable := by
    intro packet member
    rcases List.mem_cons.mp member with rfl | member
    · exact short
    · obtain ⟨reading, listed, rfl⟩ := List.mem_map.mp member
      obtain ⟨e, called, asked⟩ := List.mem_filterMap.mp (among.subset listed)
      exact fits e called reading asked
  have reads : ∀ packet ∈ packets clientId published, MqttCodec.codec.Reads packet.wire packet.events :=
    fun packet member => reads_events (MqttCodec.isPacket_wire (sendable packet member))
  have early : chunks.flatten <+: ((packets clientId published).map MqttCodec.Packet.wire).flatten := by
    have said := talk.said
    rw [same] at said
    rw [arrived]
    exact talk.sent.trans said.flatten
  obtain ⟨seen, started, fed, all⟩ := MqttCodec.codec.feedAll_prefix reads MqttCodec.codec_waits early
  refine ⟨among, ⟨seen.flatMap MqttCodec.Packet.events, ?_, ?_, ?_⟩, ?_, unread⟩
  · rw [← flatMap_events]
    exact started.flatMap _
  · exact (congrArg Prod.fst (MqttCodec.arrivals_feedAll chunks)).trans fed
  · intro on flushed
    rw [all, flatMap_events]
    cases talk with
    | unopened early off => cases on.symm.trans off
    | closed down off => cases on.symm.trans off
    | opened up on said count all flowing =>
      have bytes := flowing.bytes
      rw [flushed, List.append_nil, said, same] at bytes
      exact arrived.trans bytes
  · intro connected
    cases talk with
    | unopened early => cases early.symm.trans connected
    | closed down => cases down.symm.trans connected
    | opened up on said count all flowing => exact (all connected).symm

/-- The CONNECT has to wait until the socket is there, and the reading behind it gets out in part. -/
def slowSocket : List ClientEvent :=
  [.connectEstablished .again, .publish (ascii "t") (ascii "on") (.wrote 9), .handleWrite (.wrote 20),
    .handleRead (.data [0x20, 2, 0, 0]), .handleWrite .again]

def slowDevice : MqttClient := run MqttClient.step { clientId_ := ascii "dev" } slowSocket

theorem device_understood_slow :
    (written slowDevice.conn_.trace).length = 20 ∧
      ∃ seen, seen <+: understood (ascii "dev") [(ascii "t", ascii "on")] ∧ slowDevice.msgCount_ = 1 ∧
        (MqttCodec.arrivals [(written slowDevice.conn_.trace).take 5, (written slowDevice.conn_.trace).drop 5]).1 =
          seen.map .event := by
  have healthy : ∀ e ∈ slowSocket, e.faults = false := by decide
  have fits : ∀ e ∈ slowSocket, ∀ reading, e.asks = some reading → (publishPacket reading).Sendable := by
    simp only [slowSocket, List.forall_mem_cons, List.not_mem_nil, false_implies, implies_true, and_true]
    refine ⟨nofun, ?_, nofun, nofun, nofun⟩
    intro reading asked
    cases asked
    exact ⟨by decide, nofun, nofun, by decide⟩
  have arrived : ∀ bytes : Bytes, [bytes.take 5, bytes.drop 5].flatten = bytes := by
    intro bytes
    rw [List.flatten_cons, List.flatten_singleton, List.take_append_drop]
  have short : (ascii "dev").length ≤ 65535 := by decide
  have up : slowDevice.conn_.state_ = .connected := by decide +kernel
  have length : (written slowDevice.conn_.trace).length = 20 := by decide +kernel
  have sent : produced MqttClient.step MqttClient.sends { clientId_ := ascii "dev" } slowSocket =
      [(ascii "t", ascii "on")] := by decide +kernel
  unfold slowDevice at up length ⊢
  obtain ⟨_, ⟨seen, first, read, _⟩, counted, _⟩ := device_understood short healthy fits (arrived _)
  rw [sent] at first counted
  exact ⟨length, seen, first, counted up, read⟩

end IotGateway.Protocol.Simulator
