import IotGateway.Protocol.Bodies
import IotGateway.Gateway.Frame
import Mathlib.Logic.Relation

/-!
# The way of a command

What the nodes do to the command stream, as a few moves. `Accounted` says where a
command can be: an acknowledged entry was sent before it was acknowledged, and an entry
that was handed out is pending until then. Every move keeps it, as long as an
acknowledgement comes after its frame.
-/

namespace IotGateway.Gateway
open Text Net Redis Storage Protocol
open GatewayServer (commandFrame commandTopic nextPacketId)

/-! ### What carries a command -/

/-- MQTT can carry the command in a PUBLISH with QoS 1. -/
def Representable (cmd : Command) : Prop :=
  (commandTopic cmd).length ≤ 65535 ∧ MqttCodec.publishRemaining (commandTopic cmd) cmd.payload .atLeastOnce < 2 ^ 28

instance (cmd : Command) : Decidable (Representable cmd) := inferInstanceAs (Decidable (_ ∧ _))

/-- The bytes are one PUBLISH with the command and a packet id, and nothing else. -/
def IsCommand (cmd : Command) (bytes : Bytes) : Prop :=
  ∃ packetId : UInt16, packetId ≠ 0 ∧ ∀ buf : Buffer, buf.readable = bytes → ∃ buf', buf'.readable = [] ∧
    MqttCodec.parse buf = (.ok, [.publish (commandTopic cmd) cmd.payload .atLeastOnce false packetId], buf')

theorem nextPacketId_ne_zero (last : UInt16) : nextPacketId last ≠ 0 := by
  unfold nextPacketId
  split
  · rename_i wrapped
    have next : last + 2 = 1 := by
      calc last + 2 = last + 1 + 1 := by rw [UInt16.add_assoc]; rfl
        _ = 1 := by rw [wrapped]; rfl
    rw [next]
    decide
  · assumption

theorem isCommand_commandFrame_iff (cmd : Command) {packetId : UInt16} (numbered : packetId ≠ 0) :
    IsCommand cmd (commandFrame cmd packetId) ↔ Representable cmd := by
  constructor
  · rintro ⟨other, _, parsed⟩
    obtain ⟨buf', _, accepted⟩ := parsed _ (MqttCodec.readable_received _)
    exact MqttCodec.sizes_of_parsed accepted
  · rintro ⟨short, small⟩
    refine ⟨packetId, numbered, fun buf arrived => ?_⟩
    have sendable : (MqttCodec.Packet.publish (commandTopic cmd) cmd.payload .atLeastOnce packetId false).Sendable :=
      ⟨short, by decide, nofun, small⟩
    rw [← List.append_nil (commandFrame cmd packetId)] at arrived
    obtain ⟨accepted, callback, rest⟩ := MqttCodec.parse_isPacket (MqttCodec.isPacket_wire sendable) arrived
    exact ⟨_, rest, Prod.ext accepted (Prod.ext callback rfl)⟩

abbrev CommandEntry := Entry (List (Bytes × Bytes))

/-- The command of an entry, as far as its delivery depends on it. -/
def entryCommand (e : CommandEntry) : Command where
  id := 0
  deviceId := (RedisClient.fieldValue e.fields (ascii "device_id")).getD []
  topic := (RedisClient.fieldValue e.fields (ascii "topic")).getD []
  payload := (RedisClient.fieldValue e.fields (ascii "payload")).getD []
  timeout := 0
  streamId := e.id.text
  createdAt := 0

/-- A PUBLISH with the command was handed to a connection on which its device had connected. -/
def Sent (log : List Action) (e : CommandEntry) : Prop :=
  ∃ n k bytes earlier, (.frame n k bytes :: earlier) <:+ log ∧ .connect n k (entryCommand e).deviceId ∈ earlier ∧
    IsCommand (entryCommand e) bytes

theorem Sent.mono {log log' : List Action} {e : CommandEntry} (sent : Sent log e) (grows : log <:+ log') : Sent log' e := by
  obtain ⟨n, k, bytes, earlier, framed, connected⟩ := sent
  exact ⟨n, k, bytes, earlier, framed.trans grows, connected⟩

theorem sent_of_filter {log : List Action} {e : CommandEntry} (sent : Sent (log.filter isDelivery) e) : Sent log e := by
  obtain ⟨n, k, bytes, earlier, ⟨later, framed⟩, connected, carried⟩ := sent
  obtain ⟨front, l, rfl, _, tail⟩ := List.filter_eq_append_iff.mp framed.symm
  obtain ⟨skipped, l', rfl, _, _, rest⟩ := List.filter_eq_cons_iff.mp tail
  refine ⟨n, k, bytes, l', ⟨front ++ skipped, by simp⟩, ?_, carried⟩
  rw [← rest] at connected
  exact List.mem_of_mem_filter connected

namespace Delivery

inductive Move : Delivery → Delivery → Prop where
  | note (d : Delivery) (action : Action) (other : ∀ id, action ≠ .xack id) : Move d { d with log := action :: d.log }
  | add (d : Delivery) (millis : Nat) (fields : List (Bytes × Bytes)) (grouped : d.commands.group ≠ none) :
    Move d { d with commands := d.commands.add millis fields }
  | createGroup (d : Delivery) : Move d { d with commands := d.commands.createGroup }
  | read (d : Delivery) (consumer : Bytes) (count : Nat) : Move d { d with commands := d.commands.readGroup consumer count }
  | ack (d : Delivery) (id : Bytes) (sent : id = [] ∨ ∃ e ∈ d.commands.entries, e.id.text = id ∧ Sent d.log e) :
    Move d { commands := d.commands.ack id, log := .xack id :: d.log }

abbrev Moves : Delivery → Delivery → Prop := Relation.ReflTransGen Move

theorem Moves.of_eq {d d' : Delivery} (same : d' = d) : Moves d d' := same ▸ .refl

/-- Nothing is taken from the log or from the stream, and the group stays. -/
structure Grows (d d' : Delivery) : Prop where
  log : d.log <:+ d'.log
  entries : d.commands.entries ⊆ d'.commands.entries
  group : d.commands.group ≠ none → d'.commands.group ≠ none

theorem Move.grows {d d' : Delivery} (move : Move d d') : Grows d d' := by
  cases move with
  | note action other => exact ⟨List.suffix_cons _ _, List.Subset.refl _, id⟩
  | add millis fields grouped => exact ⟨List.suffix_rfl, List.subset_append_left _ _, id⟩
  | createGroup =>
    refine ⟨List.suffix_rfl, List.Subset.refl _, fun _ => ?_⟩
    simp [Redis.Stream.createGroup]
  | read consumer count => exact ⟨List.suffix_rfl, List.Subset.refl _, by simp [Redis.Stream.readGroup]⟩
  | ack text sent => exact ⟨List.suffix_cons _ _, List.Subset.refl _, by simp [Redis.Stream.ack]⟩

theorem Moves.grows {d d' : Delivery} (moves : Moves d d') : Grows d d' := by
  induction moves with
  | refl => exact ⟨List.suffix_rfl, List.Subset.refl _, id⟩
  | tail _ move ih =>
    have last := move.grows
    exact ⟨ih.log.trans last.log, List.Subset.trans ih.entries last.entries, fun grouped => last.group (ih.group grouped)⟩

/-! ### Where a command can be -/

structure Accounted (d : Delivery) : Prop where
  grouped : d.commands.group = none → d.commands.entries = []
  acked : ∀ id earlier, (.xack id :: earlier) <:+ d.log →
    id = [] ∨ ∃ e ∈ d.commands.entries, e.id.text = id ∧ Sent earlier e
  given : ∀ e ∈ d.commands.given, d.commands.Outstanding e.id ∨ .xack e.id.text ∈ d.log

theorem Accounted.move {d d' : Delivery} (move : Move d d') (accounted : Accounted d) : Accounted d' := by
  cases move with
  | note action other =>
    refine ⟨accounted.grouped, fun id earlier suffix => ?_, fun e member => ?_⟩
    · rcases List.suffix_cons_iff.mp suffix with here | before
      · exact absurd (List.cons.inj here).1.symm (other id)
      · exact accounted.acked id earlier before
    · exact (accounted.given e member).imp_right (List.mem_cons_of_mem _)
  | add millis fields grouped =>
    refine ⟨fun none => absurd none grouped, fun id earlier suffix => ?_, fun e member => ?_⟩
    · refine (accounted.acked id earlier suffix).imp_right ?_
      rintro ⟨e, old, text, sent⟩
      exact ⟨e, List.mem_append_left _ old, text, sent⟩
    · rw [Redis.Stream.given_add] at member
      exact accounted.given e member
  | createGroup =>
    refine ⟨fun none => ?_, accounted.acked, fun e member => ?_⟩
    · simp [Redis.Stream.createGroup] at none
    · rw [Redis.Stream.given_createGroup _ accounted.grouped] at member
      exact (accounted.given e member).imp_left (·.createGroup)
  | read consumer count =>
    refine ⟨fun none => accounted.grouped (by simpa [Redis.Stream.readGroup] using none), accounted.acked,
      fun e member => ?_⟩
    rw [Redis.Stream.given_readGroup] at member
    rcases List.mem_append.mp member with before | fresh
    · exact (accounted.given e before).imp_left (·.readGroup consumer count)
    · exact Or.inl (Redis.Stream.outstanding_of_fresh fresh consumer)
  | ack text sent =>
    refine ⟨fun none => accounted.grouped (by simpa [Redis.Stream.ack] using none), fun id earlier suffix => ?_,
      fun e member => ?_⟩
    · rcases List.suffix_cons_iff.mp suffix with here | before
      · obtain ⟨action, rfl⟩ := List.cons.inj here
        cases action
        exact sent
      · exact accounted.acked id earlier before
    · rw [Redis.Stream.given_ack] at member
      by_cases this : e.id.text = text
      · exact Or.inr (by simp [this])
      · exact (accounted.given e member).imp (·.ack this) (List.mem_cons_of_mem _)

theorem Accounted.moves {d d' : Delivery} (moves : Moves d d') (accounted : Accounted d) : Accounted d' := by
  induction moves with
  | refl => exact accounted
  | tail _ move ih => exact ih.move move

theorem Accounted.sent_before_ack {d : Delivery} (accounted : Accounted d) {e : CommandEntry}
    (member : e ∈ d.commands.entries) {earlier : List Action} (acked : (.xack e.id.text :: earlier) <:+ d.log) :
    Sent earlier e := by
  rcases accounted.acked _ _ acked with nothing | ⟨e', member', text, sent⟩
  · exact absurd nothing e.id.text_ne_nil
  · rwa [← d.commands.eq_of_text member' member text]

theorem Accounted.sent_of_given {d : Delivery} (accounted : Accounted d) {e : CommandEntry} (member : e ∈ d.commands.given)
    (settled : ¬ d.commands.Outstanding e.id) : Sent d.log e := by
  have acked := (accounted.given e member).resolve_left settled
  obtain ⟨later, earlier, split⟩ := List.append_of_mem acked
  have suffix : (.xack e.id.text :: earlier) <:+ d.log := ⟨later, split.symm⟩
  exact (accounted.sent_before_ack (d.commands.given_subset member) suffix).mono ((List.suffix_cons _ _).trans suffix)

end Delivery

end IotGateway.Gateway
