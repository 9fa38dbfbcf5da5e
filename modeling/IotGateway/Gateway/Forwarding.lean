import IotGateway.Lib.Json
import IotGateway.Storage.StreamEntries
import IotGateway.Gateway.System

/-!
# Commands on the route channel

`publishToNode` prints a command as a JSON object into 1024 bytes. A longer object is
cut and published all the same.
-/

namespace IotGateway.Gateway
open Text Storage Json
open RedisClient (routeChannel routeText)

/-- The members of the object, with the texts of their values. -/
def commandMembers (cmd : Command) : List (Bytes × Bytes) :=
  [(ascii "id", decimal cmd.id),
    (ascii "device_id", quoted cmd.deviceId),
    (ascii "topic", quoted cmd.topic),
    (ascii "payload", cmd.payload),
    (ascii "timeout", decimal cmd.timeout)]

/-- The message is a JSON object with the members of the command and no others, in some order. -/
def IsForwarded (cmd : Command) (message : Bytes) : Prop :=
  ∃ ms ordered, IsObject .unescaped ms message ∧ ms.Perm ordered ∧
    List.Forall₂ (fun slot member => slot.1 = member.1 ∧ Holds member.2 slot.2) ordered (commandMembers cmd)

/-- The bytes of a command that differ from one command to another. -/
def printedLength (cmd : Command) : Nat :=
  (decimal cmd.id).length + cmd.deviceId.length + cmd.topic.length + cmd.payload.length + (decimal cmd.timeout).length

/-! ### What a whole object needs -/

section Needs

variable {cmd : Command} {message : Bytes}

theorem slot_of_isForwarded (forwarded : IsForwarded cmd message) {member : Bytes × Bytes}
    (listed : member ∈ commandMembers cmd) : ∃ slot, Holds member.2 slot ∧ Derives .unescaped .text slot := by
  obtain ⟨ms, ordered, ⟨t, derived, rfl⟩, same, matched⟩ := forwarded
  obtain ⟨i, h, rfl⟩ := List.getElem_of_mem listed
  have below : i < ordered.length := matched.length_eq ▸ h
  refine ⟨ordered[i].2, (matched.get below h).2, ?_⟩
  exact derives_slot derived _ (same.mem_iff.mpr (List.getElem_mem below))

theorem length_matched {ordered members : List (Bytes × Bytes)}
    (matched : List.Forall₂ (fun slot member => slot.1 = member.1 ∧ Holds member.2 slot.2) ordered members) :
    (members.map fun m => m.1.length + m.2.length + 4).sum ≤ (ordered.map fun m => m.1.length + m.2.length + 4).sum := by
  induction matched with
  | nil => exact Nat.le_refl _
  | cons first rest ih =>
    have longer := length_of_holds first.2
    simp only [List.map_cons, List.sum_cons, first.1]
    omega

theorem length_commandMembers (cmd : Command) :
    ((commandMembers cmd).map fun m => m.1.length + m.2.length + 4).sum = printedLength cmd + 54 := by
  simp only [commandMembers, quoted, printedLength, List.map_cons, List.map_nil, List.sum_cons, List.sum_nil,
    List.length_cons, List.length_append, List.length_nil, show (ascii "id").length = 2 from rfl,
    show (ascii "device_id").length = 9 from rfl, show (ascii "topic").length = 5 from rfl,
    show (ascii "payload").length = 7 from rfl, show (ascii "timeout").length = 7 from rfl]
  omega

theorem length_of_isForwarded (forwarded : IsForwarded cmd message) : printedLength cmd + 55 ≤ message.length := by
  obtain ⟨ms, ordered, object, same, matched⟩ := forwarded
  have members := length_matched matched
  have listed := (same.map fun m => m.1.length + m.2.length + 4).sum_eq
  have whole := object.length_le
  rw [length_commandMembers] at members
  omega

theorem plain_of_isForwarded (forwarded : IsForwarded cmd message) (name : Bytes) {value : Bytes}
    (listed : (name, quoted value) ∈ commandMembers cmd) (clean : ∀ b ∈ value, b ≠ 34 ∧ b ≠ 92) :
    ∀ b ∈ value, 32 ≤ b := by
  obtain ⟨slot, held, derived⟩ := slot_of_isForwarded forwarded listed
  have plain := plain_of_quoted held derived
    ⟨fun member => (clean 34 member).1 rfl, fun member => (clean 92 member).2 rfl⟩
  exact fun b member => (plain b member).1

end Needs

/-! ### What is printed -/

theorem content_ascii_unescaped {s : Bytes} (plain : ∀ b ∈ s, 32 ≤ b ∧ b ≠ 34 ∧ b ≠ 92) : Content .unescaped s :=
  content_of_plain plain

/-- What `publishToNode` prints when no field is cut at a NUL. -/
def commandObject (cmd : Command) : Bytes :=
  123 :: (quoted (ascii "id") ++ 58 :: decimal cmd.id ++ 44 :: (quoted (ascii "device_id") ++ 58 :: quoted cmd.deviceId ++
    44 :: (quoted (ascii "topic") ++ 58 :: quoted cmd.topic ++ 44 :: (quoted (ascii "payload") ++ 58 :: cmd.payload ++
    44 :: (quoted (ascii "timeout") ++ 58 :: decimal cmd.timeout)))) ++ [125])

theorem length_commandObject (cmd : Command) : (commandObject cmd).length = printedLength cmd + 55 := by
  simp only [commandObject, quoted, printedLength, List.length_cons, List.length_append, List.length_nil,
    show (ascii "id").length = 2 from rfl, show (ascii "device_id").length = 9 from rfl,
    show (ascii "topic").length = 5 from rfl, show (ascii "payload").length = 7 from rfl,
    show (ascii "timeout").length = 7 from rfl]
  omega

theorem routeText_eq {cmd : Command} (device : 0 ∉ cmd.deviceId) (topic : 0 ∉ cmd.topic) (payload : 0 ∉ cmd.payload) :
    routeText cmd = commandObject cmd := by
  have id : ascii "\x7b\"id\":" = 123 :: (quoted (ascii "id") ++ [58]) := rfl
  have deviceId : ascii ",\"device_id\":\"" = 44 :: (quoted (ascii "device_id") ++ [58, 34]) := rfl
  have topicName : ascii "\",\"topic\":\"" = 34 :: 44 :: (quoted (ascii "topic") ++ [58, 34]) := rfl
  have payloadName : ascii "\",\"payload\":" = 34 :: 44 :: (quoted (ascii "payload") ++ [58]) := rfl
  have timeout : ascii ",\"timeout\":" = 44 :: (quoted (ascii "timeout") ++ [58]) := rfl
  have closing : ascii "\x7d" = [125] := rfl
  unfold routeText commandObject
  rw [cstr_of_no_nul device, cstr_of_no_nul topic, cstr_of_no_nul payload, id, deviceId, topicName, payloadName, timeout,
    closing]
  simp [quoted]

section Printed

variable {cmd : Command}

theorem isForwarded_commandObject (value : Derives .unescaped .text cmd.payload)
    (device : Content .unescaped cmd.deviceId) (topic : Content .unescaped cmd.topic) :
    IsForwarded cmd (commandObject cmd) := by
  have timeout := compact_last (content_ascii_unescaped (show ∀ b ∈ ascii "timeout", _ by decide))
    (derives_decimal cmd.timeout)
  have payload := compact_member (content_ascii_unescaped (show ∀ b ∈ ascii "payload", _ by decide)) value timeout
  have topics := compact_member (content_ascii_unescaped (show ∀ b ∈ ascii "topic", _ by decide))
    (compact_string topic) payload
  have devices := compact_member (content_ascii_unescaped (show ∀ b ∈ ascii "device_id", _ by decide))
    (compact_string device) topics
  have whole := compact_member (content_ascii_unescaped (show ∀ b ∈ ascii "id", _ by decide)) (derives_decimal cmd.id) devices
  exact ⟨_, commandMembers cmd, ⟨_, whole, rfl⟩, .refl _, List.forall₂_same.mpr fun m _ => ⟨rfl, holds_self _⟩⟩

theorem published_text {c : RedisClient} {w : World} {target message : Bytes}
    (published : (c.publishToNode w target cmd).2.log = .publish (routeChannel target) message :: w.log) :
    message = snprintf 1024 (routeText cmd) := by
  unfold RedisClient.publishToNode at published
  split at published
  · cases published
    rfl
  · exact absurd (congrArg List.length published) (by simp)

/-- The message is the whole command exactly when the fields have no control characters and are short enough together. -/
theorem published_whole_iff {c : RedisClient} {w : World} {target message : Bytes}
    (published : (c.publishToNode w target cmd).2.log = .publish (routeChannel target) message :: w.log)
    (value : Derives .unescaped .text cmd.payload) (device : ∀ b ∈ cmd.deviceId, b ≠ 34 ∧ b ≠ 92)
    (topic : ∀ b ∈ cmd.topic, b ≠ 34 ∧ b ≠ 92) :
    IsForwarded cmd message ↔
      (∀ b ∈ cmd.deviceId, 32 ≤ b) ∧ (∀ b ∈ cmd.topic, 32 ≤ b) ∧ printedLength cmd ≤ 968 := by
  rw [published_text published]
  constructor
  · intro forwarded
    refine ⟨plain_of_isForwarded forwarded (ascii "device_id") (by simp [commandMembers]) device,
      plain_of_isForwarded forwarded (ascii "topic") (by simp [commandMembers]) topic, ?_⟩
    have long := length_of_isForwarded forwarded
    have cut : (snprintf 1024 (routeText cmd)).length ≤ 1023 := List.length_take_le _ _
    omega
  · rintro ⟨devicePrinted, topicPrinted, short⟩
    have devices : Content .unescaped cmd.deviceId :=
      content_of_plain fun b member => ⟨devicePrinted b member, device b member⟩
    have topics : Content .unescaped cmd.topic := content_of_plain fun b member => ⟨topicPrinted b member, topic b member⟩
    have printable : ¬ Charset.unescaped.plain 0 := fun plain => absurd plain.1 (by decide)
    have text : routeText cmd = commandObject cmd := routeText_eq (no_nul_of_content printable devices)
      (no_nul_of_content printable topics) (no_nul_of_derives printable value)
    have uncut : snprintf 1024 (commandObject cmd) = commandObject cmd := by
      apply List.take_of_length_le
      rw [length_commandObject]
      omega
    rw [text, uncut]
    exact isForwarded_commandObject value devices topics

end Printed

/-! ### Two commands for another gateway -/

/-- A store where the second gateway listens to its channel. -/
def listened : World := ⟨0, { RedisServer.new with subscriptions := [(gateway2, routeChannel gateway2.text)] }, []⟩

def shortForward : Command := ⟨1, ascii "sensor", ascii "/cmd/sensor/down", ascii "5", 30, ascii "1-0", 0⟩

theorem short_forward_whole :
    (linkedClient.publishToNode listened gateway2.text shortForward).2.log =
        [.publish (ascii "iot:route:gateway-2") (commandObject shortForward)] ∧
      IsForwarded shortForward (commandObject shortForward) := by
  have published : (linkedClient.publishToNode listened gateway2.text shortForward).2.log =
      [.publish (ascii "iot:route:gateway-2") (commandObject shortForward)] := by decide
  refine ⟨published, (published_whole_iff published (derives_decimal 5) ?_ ?_).mpr ?_⟩
  all_goals decide

/-- A string of a thousand bytes. -/
def longForward : Command :=
  ⟨1, ascii "sensor", ascii "/cmd/sensor/down", quoted (List.replicate 1000 97), 30, ascii "1-0", 0⟩

theorem long_forward_cut :
    Derives .unescaped .text longForward.payload ∧
      (linkedClient.publishToNode listened gateway2.text longForward).1 = true ∧
      ∃ message, (linkedClient.publishToNode listened gateway2.text longForward).2.log =
          [.publish (ascii "iot:route:gateway-2") message] ∧ ¬ IsForwarded longForward message := by
  have payload : longForward.payload.length = 1002 := by
    rw [show longForward.payload = quoted (List.replicate 1000 97) from rfl, quoted, List.length_cons, List.length_append,
      List.length_replicate]
    rfl
  have value : Derives .unescaped .text longForward.payload := by
    apply compact_string (content_of_plain fun b member => ?_)
    rw [List.eq_of_mem_replicate member]
    exact ⟨by decide, by decide, by decide⟩
  refine ⟨value, by decide, _, rfl, fun forwarded => ?_⟩
  have long := length_of_isForwarded forwarded
  have cut : (snprintf 1024 (routeText longForward)).length ≤ 1023 := List.length_take_le _ _
  unfold printedLength at long
  omega

end IotGateway.Gateway
