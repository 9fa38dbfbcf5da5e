import IotGateway.Net.RawBuffer
import IotGateway.Protocol.RawCodec

/-!
# The receive loop ends

The while loop of `GatewayServer::onMessage` on the raw buffer, where the assertion of
`retrieve` is checked and a loop that has not ended has no result. Every packet takes at
least two bytes off the buffer and never more than there are, so the loop ends, no
assertion fails, and its result is the one of `receive`.
-/

namespace IotGateway.Protocol.RawCodec
open Net Reading

/-- `MqttCodec::parse` on the raw buffer. -/
def parseRaw (b : RawBuffer) : Except Fault (ParseResult × List MqttEvent × RawBuffer) :=
  match MqttCodec.firstPacket b.readable with
  | none => .ok (.incomplete, [], b)
  | some (len, result, events) => do
    let b ← b.retrieve len
    return (result, events, b)

/-- The loop of `onMessage`, if it ends within this number of rounds. -/
def onMessageLoop : Nat → RawBuffer → Option (Except Fault (List (Item MqttEvent) × RawBuffer))
  | 0, b => if b.readableBytes = 0 then some (.ok ([], b)) else none
  | rounds + 1, b =>
    if b.readableBytes = 0 then some (.ok ([], b))
    else
      match parseRaw b with
      | .error fault => some (.error fault)
      | .ok (.incomplete, events, b) => some (.ok (events.map .event, b))
      | .ok (.error, events, b) => some (.ok (events.map .event ++ [.failure], b))
      | .ok (.ok, events, b) =>
        (onMessageLoop rounds b).map fun result => result.map fun (items, b) => (events.map .event ++ items, b)

theorem parseRaw_eq (buf : Buffer) :
    parseRaw buf.raw = .ok ((MqttCodec.parse buf).1, (MqttCodec.parse buf).2.1, (MqttCodec.parse buf).2.2.raw) := by
  unfold parseRaw MqttCodec.parse
  rw [show buf.raw.readable = buf.readable from rfl]
  cases whole : MqttCodec.firstPacket buf.readable with
  | none => rfl
  | some packet =>
    obtain ⟨len, result, events⟩ := packet
    have bounds := MqttCodec.firstPacket_bounds whole
    rw [Buffer.length_readable] at bounds
    simp only [buf.raw_retrieve bounds.2]
    rfl

/-- A verdict takes two bytes or more off the buffer, and not more than are readable. -/
theorem parse_retrieves {buf : Buffer} (decided : (MqttCodec.parse buf).1 ≠ .incomplete) :
    ∃ len, 2 ≤ len ∧ len ≤ buf.readableBytes ∧ (MqttCodec.parse buf).2.2 = buf.retrieve len := by
  by_cases complete : MqttCodec.Complete buf.readable
  · have arrived := complete.2
    rw [Buffer.length_readable] at arrived
    refine ⟨MqttCodec.totalLen buf.readable, MqttCodec.two_le_totalLen _, arrived, ?_⟩
    rw [MqttCodec.parse_complete complete]
  · rw [MqttCodec.parse_incomplete complete] at decided
    exact absurd rfl decided

theorem parse_waits {buf : Buffer} (waits : (MqttCodec.parse buf).1 = .incomplete) :
    MqttCodec.parse buf = (.incomplete, [], buf) := by
  by_cases complete : MqttCodec.Complete buf.readable
  · have verdict := MqttCodec.parseBody_verdict (MqttCodec.packetType buf.readable) (MqttCodec.packetFlags buf.readable)
      (MqttCodec.packetData buf.readable)
    rw [MqttCodec.parse_complete complete] at waits
    exact absurd waits verdict.1
  · exact MqttCodec.parse_incomplete complete

/-- The number of rounds is bounded by the number of bytes. -/
theorem onMessageLoop_receiveLoop (rounds : Nat) (buf : Buffer) (enough : buf.readableBytes ≤ rounds) :
    onMessageLoop rounds buf.raw =
      some (.ok ((MqttCodec.receiveLoop (rounds + 1) buf).1, (MqttCodec.receiveLoop (rounds + 1) buf).2.raw)) := by
  induction rounds generalizing buf with
  | zero =>
    have empty : buf.readableBytes = 0 := by omega
    rw [onMessageLoop, MqttCodec.receiveLoop, if_pos empty, if_pos (show buf.raw.readableBytes = 0 from empty)]
  | succ rounds ih =>
    rw [onMessageLoop, MqttCodec.receiveLoop]
    by_cases empty : buf.readableBytes = 0
    · rw [if_pos empty, if_pos (show buf.raw.readableBytes = 0 from empty)]
    · rw [if_neg empty, if_neg (show ¬ buf.raw.readableBytes = 0 from empty), parseRaw_eq]
      cases parsed : MqttCodec.parse buf with
      | mk result rest =>
        obtain ⟨events, buf'⟩ := rest
        cases result with
        | incomplete => rfl
        | error => rfl
        | ok =>
          have less := MqttCodec.readableBytes_parse parsed
          have later := ih buf' (by omega)
          simp only [later]
          rfl

/-- The loop of `onMessage` ends without a failed assertion. Every verdict of the codec takes between two and all of the
readable bytes, waiting changes nothing, and every round of the filter loop moves its cursor on inside the packet. -/
theorem onMessage_ends (buf : Buffer) :
    onMessageLoop buf.readableBytes buf.raw =
        some (.ok ((MqttCodec.receive buf).1, (MqttCodec.receive buf).2.raw)) ∧
      ((MqttCodec.parse buf).1 ≠ .incomplete →
        ∃ len, 2 ≤ len ∧ len ≤ buf.readableBytes ∧ (MqttCodec.parse buf).2.2 = buf.retrieve len) ∧
      ((MqttCodec.parse buf).1 = .incomplete → (MqttCodec.parse buf).2.1 = [] ∧ (MqttCodec.parse buf).2.2 = buf) ∧
      ∀ (m : Nat → UInt8) (p last : Nat), p < last →
        p < ((filterRound p last).run m).1.2 ∧ ((filterRound p last).run m).1.2 ≤ last := by
  refine ⟨onMessageLoop_receiveLoop _ buf (Nat.le_refl _), parse_retrieves, fun waits => ?_, fun m p last more => ?_⟩
  · rw [parse_waits waits]
    exact ⟨rfl, rfl⟩
  · obtain ⟨forward, inside, -⟩ := run_filterRound m more
    exact ⟨forward, inside⟩

end IotGateway.Protocol.RawCodec
