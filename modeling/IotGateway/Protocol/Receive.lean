import IotGateway.Lib.Decoder
import IotGateway.Protocol.MqttCodec

/-!
# The receive loop

`GatewayServer::onMessage` parses packets until the codec waits, fails or the buffer
is empty. Its verdict on a packet never depends on the bytes after it, so the loop is
a `Decoder` and TCP segmentation is invisible to the callbacks.
-/

namespace IotGateway.Protocol.MqttCodec
open Net

/-! ### A verdict is final -/

theorem decodeLoop_pos (fuel i multiplier value : Nat) (data : Bytes) :
    i < (decodeLoop fuel i multiplier value data).2 := by
  induction fuel generalizing i multiplier value data with
  | zero => simp [decodeLoop]
  | succ fuel ih =>
    cases data with
    | nil => simp [decodeLoop]
    | cons byte data =>
      simp only [decodeLoop]
      split
      · exact Nat.lt_succ_self i
      · exact Nat.lt_trans (Nat.lt_succ_self i) (ih _ _ _ _)

theorem decodeLoop_append (fuel i multiplier value : Nat) (data t : Bytes)
    (inside : (decodeLoop fuel i multiplier value data).2 ≤ i + data.length) :
    decodeLoop fuel i multiplier value (data ++ t) = decodeLoop fuel i multiplier value data := by
  induction fuel generalizing i multiplier value data with
  | zero => rfl
  | succ fuel ih =>
    cases data with
    | nil =>
      simp only [decodeLoop, List.length_nil] at inside
      omega
    | cons byte data =>
      simp only [List.cons_append, decodeLoop] at inside ⊢
      split
      · rfl
      · rename_i more
        rw [if_neg more, List.length_cons] at inside
        exact ih _ _ _ _ (by omega)

theorem two_le_totalLen (p : Bytes) : 2 ≤ totalLen p := by
  have pos := decodeLoop_pos 4 0 1 0 p.tail
  unfold totalLen decodeRemainingLength
  omega

theorem firstPacket_bounds {p : Bytes} {len : Nat} {body : ParseResult × List MqttEvent}
    (whole : firstPacket p = some (len, body)) : 2 ≤ len ∧ len ≤ p.length := by
  unfold firstPacket at whole
  split at whole
  · cases whole
  split at whole
  · cases whole
  · rename_i arrived
    obtain ⟨rfl, _⟩ := Prod.mk.inj (Option.some.inj whole)
    exact ⟨two_le_totalLen p, Nat.not_lt.mp arrived⟩

theorem decodeRemainingLength_tail_append {p : Bytes} (t : Bytes) (arrived : totalLen p ≤ p.length) :
    decodeRemainingLength (p ++ t).tail = decodeRemainingLength p.tail := by
  cases p with
  | nil =>
    have long := two_le_totalLen []
    simp only [List.length_nil] at arrived
    omega
  | cons firstByte rest =>
    simp only [totalLen, List.tail_cons, List.length_cons, decodeRemainingLength] at arrived
    exact decodeLoop_append 4 0 1 0 rest t (by omega)

theorem firstPacket_append {p : Bytes} {packet : Nat × ParseResult × List MqttEvent} (t : Bytes)
    (whole : firstPacket p = some packet) : firstPacket (p ++ t) = some packet := by
  unfold firstPacket at whole
  split at whole
  · cases whole
  rename_i long
  split at whole
  · cases whole
  rename_i arrived
  have header := decodeRemainingLength_tail_append t (Nat.not_lt.mp arrived)
  have total : totalLen (p ++ t) = totalLen p := by simp only [totalLen, header]
  have data : packetData (p ++ t) = packetData p := by
    unfold packetData
    rw [header, List.drop_append_of_le_length (by unfold totalLen at arrived; omega),
      List.take_append_of_le_length (by unfold totalLen at arrived; rw [List.length_drop]; omega)]
  have first : (p ++ t).headD 0 = p.headD 0 := by
    cases p with
    | nil => simp at long
    | cons firstByte rest => rfl
  rw [firstPacket, if_neg (by rw [List.length_append]; omega),
    if_neg (by rw [List.length_append, total]; omega), ← whole, total, data, first]

theorem parseConnect_verdict (data : Bytes) :
    (parseConnect data).1 ≠ .incomplete ∧ ((parseConnect data).1 = .error → (parseConnect data).2 = []) := by
  unfold parseConnect
  dsimp only
  split <;> simp

theorem parsePublish_verdict (flags : UInt8) (data : Bytes) :
    (parsePublish flags data).1 ≠ .incomplete ∧
      ((parsePublish flags data).1 = .error → (parsePublish flags data).2 = []) := by
  unfold parsePublish
  dsimp only
  split
  · simp
  · split <;> simp

theorem parseSubscribe_verdict (data : Bytes) :
    (parseSubscribe data).1 ≠ .incomplete ∧ ((parseSubscribe data).1 = .error → (parseSubscribe data).2 = []) := by
  unfold parseSubscribe
  split
  · split <;> simp
  · simp

theorem parsePubAck_verdict (data : Bytes) :
    (parsePubAck data).1 ≠ .incomplete ∧ ((parsePubAck data).1 = .error → (parsePubAck data).2 = []) := by
  unfold parsePubAck
  split <;> simp

/-- A packet body is accepted or refused at once, and a refused body fires no callback. -/
theorem parseBody_verdict (type : MqttPacketType) (flags : UInt8) (data : Bytes) :
    (parseBody type flags data).1 ≠ .incomplete ∧
      ((parseBody type flags data).1 = .error → (parseBody type flags data).2 = []) := by
  cases type with
  | connect => exact parseConnect_verdict data
  | publish => exact parsePublish_verdict flags data
  | puback => exact parsePubAck_verdict data
  | subscribe => exact parseSubscribe_verdict data
  | _ => simp [parseBody]

theorem firstPacket_verdict {p : Bytes} {len : Nat} {result : ParseResult} {events : List MqttEvent}
    (whole : firstPacket p = some (len, result, events)) :
    result ≠ .incomplete ∧ (result = .error → events = []) := by
  unfold firstPacket at whole
  split at whole
  · cases whole
  split at whole
  · cases whole
  have verdict := parseBody_verdict (mqttPacketTypeFromByte (p.headD 0)) (mqttPacketFlags (p.headD 0)) (packetData p)
  have body := (Prod.mk.inj (Option.some.inj whole)).2
  rw [body] at verdict
  exact verdict

/-! ### The codec as a decoder -/

def nextPacket (p : Bytes) : Outcome UInt8 MqttEvent :=
  match firstPacket p with
  | none => .incomplete
  | some (len, .error, _) => .fail (p.drop len)
  | some (len, _, events) => .emit events (p.drop len)

theorem nextPacket_emit {p rest : Bytes} {events : List MqttEvent} (emitted : nextPacket p = .emit events rest) :
    ∃ len result, firstPacket p = some (len, result, events) ∧ result ≠ .error ∧ rest = p.drop len := by
  unfold nextPacket at emitted
  split at emitted
  · cases emitted
  · cases emitted
  · rename_i len result events' notError whole
    cases emitted
    exact ⟨len, result, whole, notError, rfl⟩

theorem nextPacket_fail {p rest : Bytes} (failed : nextPacket p = .fail rest) :
    ∃ len events, firstPacket p = some (len, .error, events) ∧ rest = p.drop len := by
  unfold nextPacket at failed
  split at failed
  · cases failed
  · rename_i len events whole
    cases failed
    exact ⟨len, events, whole, rfl⟩
  · cases failed

def codec : Decoder UInt8 MqttEvent where
  next := nextPacket
  emit_shorter := by
    intro p rest events emitted
    obtain ⟨len, result, whole, _, rfl⟩ := nextPacket_emit emitted
    have bounds := firstPacket_bounds whole
    rw [List.length_drop]
    omega
  emit_append := by
    intro p rest events t emitted
    obtain ⟨len, result, whole, accepted, rfl⟩ := nextPacket_emit emitted
    unfold nextPacket
    rw [firstPacket_append t whole, ← List.drop_append_of_le_length (firstPacket_bounds whole).2]
    cases result with
    | error => exact absurd rfl accepted
    | ok => rfl
    | incomplete => rfl
  fail_append := by
    intro p rest t failed
    obtain ⟨len, events, whole, rfl⟩ := nextPacket_fail failed
    unfold nextPacket
    rw [firstPacket_append t whole, ← List.drop_append_of_le_length (firstPacket_bounds whole).2]

theorem codec_waits : codec.next [] = .incomplete := rfl

/-! ### The loop of `onMessage` -/

def receiveLoop : Nat → Buffer → List (Item MqttEvent) × Buffer
  | 0, buf => ([], buf)
  | fuel + 1, buf =>
    if buf.readableBytes = 0 then ([], buf)
    else
      match parse buf with
      | (.incomplete, events, buf) => (events.map .event, buf)
      | (.error, events, buf) => (events.map .event ++ [.failure], buf)
      | (.ok, events, buf) =>
        let (items, buf) := receiveLoop fuel buf
        (events.map .event ++ items, buf)

/-- The while loop of `GatewayServer::onMessage`: the callbacks in order, an `ERROR` as `failure`.
Every packet takes at least two bytes, so one round per readable byte is enough. -/
def receive (buf : Buffer) : List (Item MqttEvent) × Buffer := receiveLoop (buf.readableBytes + 1) buf

theorem receiveLoop_drainFuel (fuel : Nat) (buf : Buffer) :
    ((receiveLoop fuel buf).1, (receiveLoop fuel buf).2.readable) = codec.drainFuel fuel buf.readable := by
  induction fuel generalizing buf with
  | zero => rfl
  | succ fuel ih =>
    rw [Decoder.drainFuel, receiveLoop]
    by_cases empty : buf.readableBytes = 0
    · have none : buf.readable = [] := List.eq_nil_of_length_eq_zero (by rw [Buffer.length_readable, empty])
      rw [if_pos empty, none, codec_waits]
    rw [if_neg empty]
    rw [show codec.next buf.readable = nextPacket buf.readable from rfl]
    unfold parse nextPacket
    cases whole : firstPacket buf.readable with
    | none => rfl
    | some packet =>
      obtain ⟨len, result, events⟩ := packet
      have verdict := firstPacket_verdict whole
      cases result with
      | incomplete => exact absurd rfl verdict.1
      | error => simp [verdict.2 rfl]
      | ok =>
        have tail := ih (buf.retrieve len)
        rw [Buffer.readable_retrieve] at tail
        simp only [← tail]

theorem receive_drain (buf : Buffer) : ((receive buf).1, (receive buf).2.readable) = codec.drain buf.readable := by
  rw [receive, receiveLoop_drainFuel, Decoder.drain, Buffer.length_readable]

/-- A packet that is not accepted fires no callback. -/
theorem parse_silent {buf : Buffer} (refused : (parse buf).1 ≠ .ok) : (parse buf).2.1 = [] := by
  unfold parse at refused ⊢
  cases whole : firstPacket buf.readable with
  | none => rfl
  | some packet =>
    obtain ⟨len, result, events⟩ := packet
    have verdict := firstPacket_verdict whole
    rw [whole] at refused
    cases result with
    | incomplete => exact absurd rfl verdict.1
    | error => exact verdict.2 rfl
    | ok => exact absurd rfl refused

theorem parse_accepted {buf buf' : Buffer} {events : List MqttEvent} (accepted : parse buf = (.ok, events, buf')) :
    ∃ len, firstPacket buf.readable = some (len, .ok, events) ∧ buf' = buf.retrieve len := by
  unfold parse at accepted
  split at accepted
  · cases accepted
  · rename_i len result events' whole
    cases accepted
    exact ⟨len, whole, rfl⟩

/-- An accepted packet is taken off the front of what the loop still has to do. -/
theorem receive_parse {buf buf' : Buffer} {events : List MqttEvent} (accepted : parse buf = (.ok, events, buf')) :
    (receive buf).1 = events.map .event ++ (receive buf').1 := by
  have whole := congrArg Prod.fst (receive_drain buf)
  have rest := congrArg Prod.fst (receive_drain buf')
  dsimp only at whole rest
  obtain ⟨len, first, rfl⟩ := parse_accepted accepted
  have emitted : codec.next buf.readable = .emit events (buf.retrieve len).readable := by
    rw [Buffer.readable_retrieve]
    show nextPacket buf.readable = _
    simp only [nextPacket, first]
  rw [whole, rest, codec.drain_emit emitted]

theorem readableBytes_parse {buf buf' : Buffer} {events : List MqttEvent} (accepted : parse buf = (.ok, events, buf')) :
    buf'.readableBytes < buf.readableBytes := by
  obtain ⟨len, first, rfl⟩ := parse_accepted accepted
  have bounds := firstPacket_bounds first
  rw [← Buffer.length_readable, ← Buffer.length_readable, Buffer.readable_retrieve, List.length_drop]
  omega

/-- One arrival on a connection: the chunk goes to the input buffer and the loop runs. -/
def arrive (state : List (Item MqttEvent) × Buffer) (chunk : Bytes) : List (Item MqttEvent) × Buffer :=
  let (items, buf) := receive (state.2.append chunk)
  (state.1 ++ items, buf)

def arrivals (chunks : List Bytes) : List (Item MqttEvent) × Buffer :=
  chunks.foldl arrive ([], Buffer.new kInitialSize)

theorem foldl_arrive_feed (chunks : List Bytes) (state : List (Item MqttEvent) × Buffer) :
    ((chunks.foldl arrive state).1, (chunks.foldl arrive state).2.readable) =
      chunks.foldl codec.feed (state.1, state.2.readable) := by
  induction chunks generalizing state with
  | nil => rfl
  | cons chunk chunks ih =>
    have once := receive_drain (state.2.append chunk)
    rw [Buffer.readable_append] at once
    rw [List.foldl_cons, List.foldl_cons, ih, Decoder.feed, ← once]
    rfl

theorem arrivals_feedAll (chunks : List Bytes) :
    ((arrivals chunks).1, (arrivals chunks).2.readable) = codec.feedAll chunks := by
  rw [arrivals, foldl_arrive_feed, Buffer.readable_new]
  rfl

/-- Cutting a byte stream into chunks changes no callback up to the first `ERROR`, and without an
`ERROR` no unread byte. -/
theorem arrivals_segmentation (chunks : List Bytes) :
    upToFailure (arrivals chunks).1 = upToFailure (arrivals [chunks.flatten]).1 ∧
      (Item.failure ∉ (arrivals [chunks.flatten]).1 →
        (arrivals chunks).1 = (arrivals [chunks.flatten]).1 ∧
        (arrivals chunks).2.readable = (arrivals [chunks.flatten]).2.readable) := by
  have pieces := codec.feedAll_drain codec_waits chunks
  have whole : codec.feedAll [chunks.flatten] = codec.drain chunks.flatten := rfl
  rw [← whole, ← arrivals_feedAll, ← arrivals_feedAll] at pieces
  simpa only [Prod.mk.injEq] using pieces

end IotGateway.Protocol.MqttCodec
