import IotGateway.Lib.Run
import IotGateway.Storage.RedisClient
import Mathlib.Data.PNat.Basic

/-!
# Entries of the command stream

What `consumeCommands` makes of an `XREADGROUP` reply, and that it undoes what
`publishCommand` has written. One entry whose number cannot be read ends the whole call
with an exception.
-/

namespace IotGateway.Storage
open Text Redis
open RedisClient (Junk fieldValue numberField readEntry xaddFields)

/-! ### A reply -/

/-- One message of a reply: its id, and its fields and values as one list of strings. -/
structure Message where
  streamId : Bytes
  fields : List Bytes
  deriving DecidableEq, Repr

/-- The pairs that the loop over the fields goes through. A last string without a partner is not looked at. -/
def fieldPairs : List Bytes → List (Bytes × Bytes)
  | key :: val :: rest => (key, val) :: fieldPairs rest
  | _ => []

def readMessage (junk : Junk) (now : Nat) (msg : Message) : Except StdException Command := do
  let field := fieldValue (fieldPairs msg.fields)
  let id ← numberField stoll junk.id (field (ascii "id"))
  let timeout ← numberField stoi junk.timeout (field (ascii "timeout"))
  return {
    id
    deviceId := (field (ascii "device_id")).getD []
    topic := (field (ascii "topic")).getD []
    payload := (field (ascii "payload")).getD []
    timeout
    streamId := msg.streamId
    createdAt := now }

def readReply (junk : Junk) (now : Nat) (reply : List Message) : Except StdException (List Command) :=
  reply.mapM (readMessage junk now)

def entryMessage (e : Entry (List (Bytes × Bytes))) : Message := ⟨e.id.text, e.fields.flatMap fun p => [p.1, p.2]⟩

theorem fieldPairs_flatMap (fields : List (Bytes × Bytes)) : fieldPairs (fields.flatMap fun p => [p.1, p.2]) = fields := by
  induction fields with
  | nil => rfl
  | cons p fields ih =>
    rw [List.flatMap_cons]
    exact congrArg (List.cons p) ih

theorem readMessage_entryMessage (junk : Junk) (now : Nat) (e : Entry (List (Bytes × Bytes))) :
    readMessage junk now (entryMessage e) = readEntry junk now e := by
  simp only [readMessage, entryMessage, fieldPairs_flatMap, readEntry]

section Consume

variable {owner : NodeId} {reach : Reach} {junk : Junk} {batchSize : Nat} {c : RedisClient} {w : World}

theorem consumeCommands_fresh (works : c.connected_ = true ∧ c.answers = true)
    (fresh : w.redis.commands.fresh batchSize ≠ []) :
    c.consumeCommands owner reach junk batchSize w =
      ((w.redis.commands.fresh batchSize).mapM (readEntry junk w.now), c,
        { w with redis := { w.redis with commands := w.redis.commands.readGroup owner.text batchSize } }) := by
  have grouped : w.redis.commands.group ≠ none := by
    intro none
    exact fresh (by simp [Redis.Stream.fresh, none])
  unfold RedisClient.consumeCommands
  simp [works, grouped, fresh]

/-- What `consumeCommands` returns is what it reads in the reply. -/
theorem consumeCommands_reply (works : c.connected_ = true ∧ c.answers = true)
    (fresh : w.redis.commands.fresh batchSize ≠ []) :
    (c.consumeCommands owner reach junk batchSize w).1 =
      readReply junk w.now ((w.redis.commands.fresh batchSize).map entryMessage) := by
  rw [consumeCommands_fresh works fresh, readReply, List.mapM_map]
  exact congrArg (fun f => List.mapM f _) (funext fun e => (readMessage_entryMessage junk w.now e).symm)

theorem consumeCommands_nothing (nothing : w.redis.commands.fresh batchSize = []) :
    (c.consumeCommands owner reach junk batchSize w).1 = .ok [] ∧
      (c.consumeCommands owner reach junk batchSize w).2.2.redis.commands = w.redis.commands := by
  rcases RedisClient.consumeCommands_cases owner reach junk batchSize c w with ⟨-, same⟩ | ⟨-, some, -⟩ | ⟨-, -, same⟩
  · rw [same]
    exact ⟨rfl, rfl⟩
  · exact absurd nothing some
  · rw [same]
    unfold RedisClient.reconnect RedisClient.connect RedisClient.disconnect
    cases reach.main <;> exact ⟨rfl, rfl⟩

end Consume

/-! ### Messages that can be read -/

/-- A decimal number of at most so many bits, with nothing around it. -/
def numeric (bits : Nat) (text : Bytes) : Option Int :=
  let (negative, digits) := splitSign text
  let value : Int := if negative then -(digitsValue digits : Int) else digitsValue digits
  if digits ≠ [] ∧ digits.all isDigit ∧ -(2 ^ (bits - 1)) ≤ value ∧ value < 2 ^ (bits - 1) then some value else none

/-- The command of a message whose id and timeout are present and numeric. -/
def numericCommand (now : Nat) (msg : Message) : Option Command := do
  let field := fieldValue (fieldPairs msg.fields)
  let id ← (field (ascii "id")).bind (numeric 64)
  let timeout ← (field (ascii "timeout")).bind (numeric 32)
  return {
    id
    deviceId := (field (ascii "device_id")).getD []
    topic := (field (ascii "topic")).getD []
    payload := (field (ascii "payload")).getD []
    timeout
    streamId := msg.streamId
    createdAt := now }

/-- The numbers of the message are missing or start with one that fits. -/
structure ReadableNumbers (msg : Message) : Prop where
  id : ∀ text, fieldValue (fieldPairs msg.fields) (ascii "id") = some text → ∃ n, stoll text = .ok n
  timeout : ∀ text, fieldValue (fieldPairs msg.fields) (ascii "timeout") = some text → ∃ n, stoi text = .ok n

theorem numberField_ok_iff {parse : Bytes → Except StdException Int} {junk : Int} {text : Option Bytes} :
    (∃ n, numberField parse junk text = .ok n) ↔ ∀ t, text = some t → ∃ n, parse t = .ok n := by
  cases text with
  | none => simp [numberField]
  | some text => simp [numberField]

theorem readMessage_ok_iff {junk : Junk} {now : Nat} {msg : Message} :
    (∃ cmd, readMessage junk now msg = .ok cmd) ↔ ReadableNumbers msg := by
  constructor
  · rintro ⟨cmd, read⟩
    simp only [readMessage, bind, Except.bind, pure, Except.pure] at read
    split at read
    · cases read
    · rename_i id first
      split at read
      · cases read
      · rename_i timeout second
        exact ⟨numberField_ok_iff.mp ⟨id, first⟩, numberField_ok_iff.mp ⟨timeout, second⟩⟩
  · rintro ⟨first, second⟩
    obtain ⟨id, idRead⟩ := numberField_ok_iff.mpr first
    obtain ⟨timeout, timeoutRead⟩ := numberField_ok_iff.mpr second
    simp only [readMessage, bind, Except.bind, pure, Except.pure]
    rw [idRead, timeoutRead]
    exact ⟨_, rfl⟩

theorem readReply_ok_iff {junk : Junk} {now : Nat} {reply : List Message} :
    (∃ commands, readReply junk now reply = .ok commands) ↔ ∀ msg ∈ reply, ReadableNumbers msg := by
  unfold readReply
  simp only [mapM_ok_iff]
  induction reply with
  | nil => exact ⟨fun _ msg member => absurd member List.not_mem_nil, fun _ => ⟨[], .nil⟩⟩
  | cons msg reply ih =>
    rw [List.forall_mem_cons, ← ih, ← @readMessage_ok_iff junk now]
    constructor
    · rintro ⟨commands, read⟩
      cases read with
      | cons first rest => exact ⟨⟨_, first⟩, _, rest⟩
    · rintro ⟨⟨cmd, first⟩, commands, rest⟩
      exact ⟨cmd :: commands, .cons first rest⟩

theorem strtoll_signed {text digits : Bytes} {negative : Bool} (split : splitSign text = (negative, digits))
    (some : digits ≠ []) (plain : ∀ b ∈ digits, isDigit b = true) :
    strtoll text = Option.some (if negative then -(digitsValue digits : Int) else digitsValue digits) := by
  have tight : text.dropWhile isSpace = text := by
    cases text with
    | nil =>
      cases split
      exact absurd rfl some
    | cons b text =>
      have solid : isSpace b = false := by
        unfold splitSign at split
        split at split
        · rename_i same
          rw [(List.cons.inj same).1]
          rfl
        · rename_i same
          rw [(List.cons.inj same).1]
          rfl
        · cases split
          exact (digit_plain (plain b List.mem_cons_self)).1
      simp [solid]
  have whole : digits.takeWhile isDigit = digits := List.takeWhile_eq_self_iff.mpr plain
  simp only [strtoll, tight, split, whole, if_neg some]

theorem stoInt_of_numeric {bits : Nat} {text : Bytes} {n : Int} (number : numeric bits text = some n) :
    stoInt bits text = .ok n := by
  unfold numeric at number
  generalize split : splitSign text = parts at number
  obtain ⟨negative, digits⟩ := parts
  simp only [Option.ite_none_right_eq_some, Option.some.injEq, List.all_eq_true] at number
  obtain ⟨⟨nonempty, plain, low, high⟩, rfl⟩ := number
  simp only [stoInt, strtoll_signed split nonempty plain]
  rw [if_pos ⟨low, high⟩]

theorem readMessage_numeric {junk : Junk} {now : Nat} {msg : Message} {cmd : Command}
    (numbers : numericCommand now msg = some cmd) : readMessage junk now msg = .ok cmd := by
  simp only [numericCommand, bind, Option.bind_eq_some_iff] at numbers
  obtain ⟨id, ⟨idText, idField, idNumber⟩, timeout, ⟨timeoutText, timeoutField, timeoutNumber⟩, same⟩ := numbers
  cases same
  have idRead : stoll idText = .ok id := stoInt_of_numeric idNumber
  have timeoutRead : stoi timeoutText = .ok timeout := stoInt_of_numeric timeoutNumber
  simp only [readMessage, idField, timeoutField, numberField, idRead, timeoutRead, bind, Except.bind, pure, Except.pure]

theorem numeric_sublist {junk : Junk} {now : Nat} {reply : List Message} {commands : List Command}
    (read : readReply junk now reply = .ok commands) : (reply.filterMap (numericCommand now)).Sublist commands := by
  replace read := mapM_ok_iff.mp read
  induction read with
  | nil => exact .slnil
  | @cons msg cmd reply commands first rest ih =>
    rw [List.filterMap_cons]
    split
    · exact ih.cons cmd
    · rename_i numbers
      rw [readMessage_numeric numbers] at first
      cases first
      exact ih.cons_cons cmd

/-- A reply is read without an exception and the commands of its numeric messages come out in order, exactly when no
message has an id or a timeout that cannot be read. -/
theorem readReply_whole_iff (junk : Junk) (now : Nat) (reply : List Message) :
    (∃ commands, readReply junk now reply = .ok commands ∧ (reply.filterMap (numericCommand now)).Sublist commands) ↔
      ∀ msg ∈ reply, ReadableNumbers msg := by
  rw [← @readReply_ok_iff junk now]
  constructor
  · rintro ⟨commands, read, _⟩
    exact ⟨commands, read⟩
  · rintro ⟨commands, read⟩
    exact ⟨commands, read, numeric_sublist read⟩

def goodMessage : Message :=
  ⟨ascii "1-0", [ascii "id", ascii "7", ascii "device_id", ascii "sensor", ascii "payload", ascii "on", ascii "timeout",
    ascii "30"]⟩

def badMessage : Message := ⟨ascii "2-0", [ascii "id", ascii "abc", ascii "timeout", ascii "30"]⟩

/-- One id that is not a number, and the good message before it is lost as well. -/
theorem bad_message_throws :
    numericCommand 0 goodMessage ≠ none ∧ readReply ⟨0, 0⟩ 0 [goodMessage, badMessage] = .error .invalidArgument ∧
      ¬ ∃ commands, readReply ⟨0, 0⟩ 0 [goodMessage, badMessage] = .ok commands ∧
        ([goodMessage, badMessage].filterMap (numericCommand 0)).Sublist commands := by
  have thrown : readReply ⟨0, 0⟩ 0 [goodMessage, badMessage] = .error .invalidArgument := by decide
  refine ⟨by decide, thrown, ?_⟩
  rintro ⟨commands, read, _⟩
  rw [thrown] at read
  cases read

/-! ### Publishing, then consuming -/

/-- A call of `publishCommand`: the command, the time that the call reads from its clock, and how much later it comes. -/
structure PublishCall where
  cmd : Command
  ts : Int
  delta : Nat
  id_fits : -(2 ^ 63) ≤ cmd.id ∧ cmd.id < 2 ^ 63
  timeout_fits : -(2 ^ 31) ≤ cmd.timeout ∧ cmd.timeout < 2 ^ 31
  ts_fits : -(2 ^ 63) ≤ ts ∧ ts < 2 ^ 63
  no_nul : 0 ∉ cmd.deviceId ∧ 0 ∉ cmd.topic ∧ 0 ∉ cmd.payload

/-- What is to be consumed of a call, apart from what the consumer adds. -/
def PublishCall.expected (call : PublishCall) : Command where
  id := if call.cmd.id ≠ 0 then call.cmd.id else call.ts
  deviceId := call.cmd.deviceId
  topic := if call.cmd.topic = [] then ascii "/cmd/" ++ call.cmd.deviceId ++ ascii "/down" else call.cmd.topic
  payload := call.cmd.payload
  timeout := if call.cmd.timeout ≠ 0 then call.cmd.timeout else 30
  streamId := []
  createdAt := 0

/-- A consumed command without its stream id and the time of the consumer. -/
def bare (cmd : Command) : Command := { cmd with streamId := [], createdAt := 0 }

def publishStep (c : RedisClient) (w : World) (call : PublishCall) : World :=
  (c.publishCommand { w with now := w.now + call.delta } .answered call.ts call.cmd).2.2

/-- A call of `consumeCommands`, with what a reconnect would find and what an uninitialised command holds. -/
structure ConsumeCall where
  size : ℕ+
  reach : Reach
  junk : Junk

/-- The results of calls of `consumeCommands`, one after another. -/
def consumeAll (owner : NodeId) : RedisClient → World → List ConsumeCall → List (Except StdException (List Command))
  | _, _, [] => []
  | c, w, call :: calls =>
    let (result, c, w) := c.consumeCommands owner call.reach call.junk call.size w
    result :: consumeAll owner c w calls

theorem fieldValue_xaddFields (cmd : Command) (ts : Int) :
    fieldValue (xaddFields cmd ts) (ascii "id") = some (decimal (if cmd.id ≠ 0 then cmd.id else ts)) ∧
      fieldValue (xaddFields cmd ts) (ascii "device_id") = some (cstr cmd.deviceId) ∧
      fieldValue (xaddFields cmd ts) (ascii "topic") =
        some (if cmd.topic = [] then cstr (ascii "/cmd/" ++ cmd.deviceId ++ ascii "/down") else cstr cmd.topic) ∧
      fieldValue (xaddFields cmd ts) (ascii "payload") = some (cstr cmd.payload) ∧
      fieldValue (xaddFields cmd ts) (ascii "timeout") =
        some (decimal (if cmd.timeout ≠ 0 then cmd.timeout else 30)) := ⟨rfl, rfl, rfl, rfl, rfl⟩

theorem readEntry_xaddFields (call : PublishCall) (junk : Junk) (now : Nat) (id : StreamId) :
    ∃ cmd, readEntry junk now ⟨id, xaddFields call.cmd call.ts⟩ = .ok cmd ∧ bare cmd = call.expected := by
  obtain ⟨cmd, ts, delta, id_fits, timeout_fits, ts_fits, device, topic, payload⟩ := call
  have number : stoll (decimal (if cmd.id ≠ 0 then cmd.id else ts)) = .ok (if cmd.id ≠ 0 then cmd.id else ts) := by
    apply stoInt_decimal
    split
    · exact id_fits
    · exact ts_fits
  have seconds : stoi (decimal (if cmd.timeout ≠ 0 then cmd.timeout else 30)) =
      .ok (if cmd.timeout ≠ 0 then cmd.timeout else 30) := by
    apply stoInt_decimal
    split
    · exact timeout_fits
    · decide
  have down : 0 ∉ ascii "/cmd/" ++ cmd.deviceId ++ ascii "/down" := by
    simp only [List.mem_append, not_or]
    exact ⟨⟨by decide, device⟩, by decide⟩
  obtain ⟨idField, deviceField, topicField, payloadField, timeoutField⟩ := fieldValue_xaddFields cmd ts
  simp only [readEntry, idField, deviceField, topicField, payloadField, timeoutField, numberField, number, seconds,
    cstr_of_no_nul device, cstr_of_no_nul topic, cstr_of_no_nul payload, cstr_of_no_nul down, bind, Except.bind, pure,
    Except.pure, Option.getD_some]
  exact ⟨_, rfl, rfl⟩

/-! ### What is left to be consumed -/

/-- The group exists, and what it has not handed out are the entries of these calls. -/
def Unread (calls : List PublishCall) (w : World) : Prop :=
  ∃ g ∈ w.redis.commands.group,
    (w.redis.commands.entries.drop g.delivered).map (·.fields) = calls.map fun call => xaddFields call.cmd call.ts

theorem unread_publishStep {c : RedisClient} (works : c.connected_ = true ∧ c.answers = true) {calls : List PublishCall}
    {w : World} (unread : Unread calls w) (call : PublishCall) : Unread (calls ++ [call]) (publishStep c w call) := by
  obtain ⟨g, grouped, fields⟩ := unread
  have within := w.redis.commands.delivered_le g grouped
  unfold publishStep RedisClient.publishCommand
  rw [if_pos works]
  refine ⟨g, grouped, ?_⟩
  simp only [Redis.Stream.add]
  rw [List.drop_append_of_le_length within, List.map_append, fields, List.map_append]
  rfl

theorem unread_publish {c : RedisClient} (works : c.connected_ = true ∧ c.answers = true) (calls : List PublishCall)
    {before : List PublishCall} {w : World} (unread : Unread before w) :
    Unread (before ++ calls) (run (publishStep c) w calls) := by
  induction calls generalizing before w with
  | nil => simpa using unread
  | cons call calls ih =>
    have next := ih (unread_publishStep works unread call)
    rwa [List.append_assoc] at next

theorem fresh_of_unread {calls : List PublishCall} {w : World} (unread : Unread calls w) (count : Nat) :
    (w.redis.commands.fresh count).map (·.fields) = (calls.take count).map fun call => xaddFields call.cmd call.ts := by
  obtain ⟨g, grouped, fields⟩ := unread
  unfold Redis.Stream.fresh
  rw [Option.mem_def.mp grouped]
  dsimp only
  rw [List.map_take, fields, ← List.map_take]

theorem unread_readGroup {calls : List PublishCall} {w : World} (unread : Unread calls w) (consumer : Bytes) (count : Nat) :
    Unread (calls.drop count)
      { w with redis := { w.redis with commands := w.redis.commands.readGroup consumer count } } := by
  have taken := fresh_of_unread unread count
  obtain ⟨g, grouped, fields⟩ := unread
  refine ⟨_, Option.mem_map_of_mem _ grouped, ?_⟩
  have many : (w.redis.commands.fresh count).length = (calls.take count).length := by
    simpa using congrArg List.length taken
  simp only [Redis.Stream.readGroup]
  rw [← List.drop_drop, List.map_drop, fields, many, ← List.map_drop, List.length_take]
  congr 1
  rcases Nat.le_total count calls.length with short | long
  · rw [Nat.min_eq_left short]
  · rw [Nat.min_eq_right long, List.drop_length, List.drop_eq_nil_of_le long]

theorem reads_of_fields {entries : List (Entry (List (Bytes × Bytes)))} {calls : List PublishCall} {junk : Junk} {now : Nat}
    (same : entries.map (·.fields) = calls.map fun call => xaddFields call.cmd call.ts) :
    ∃ commands, entries.mapM (readEntry junk now) = .ok commands ∧ commands.map bare = calls.map PublishCall.expected := by
  simp only [mapM_ok_iff]
  induction entries generalizing calls with
  | nil =>
    cases calls with
    | nil => exact ⟨[], .nil, rfl⟩
    | cons call calls => cases same
  | cons e entries ih =>
    cases calls with
    | nil => cases same
    | cons call calls =>
      have first : e.fields = xaddFields call.cmd call.ts := (List.cons.inj same).1
      obtain ⟨commands, read, expected⟩ := ih (List.cons.inj same).2
      obtain ⟨cmd, here, bareCmd⟩ := readEntry_xaddFields call junk now e.id
      rw [← first] at here
      exact ⟨cmd :: commands, .cons here read, congrArg₂ List.cons bareCmd expected⟩

/-- Once nothing is left the client may lose its connection; until then it works. -/
theorem consumeAll_unread (owner : NodeId) (reads : List ConsumeCall) {calls : List PublishCall} {c : RedisClient} {w : World}
    (works : calls ≠ [] → c.connected_ = true ∧ c.answers = true) (unread : Unread calls w) :
    ∃ batches : List (List Command), consumeAll owner c w reads = batches.map .ok ∧
      batches.flatten.map bare = (calls.take (reads.map fun read => (read.size : Nat)).sum).map PublishCall.expected := by
  induction reads generalizing calls c w with
  | nil => exact ⟨[], rfl, by simp⟩
  | cons read reads ih =>
    have taken := fresh_of_unread unread read.size
    by_cases none : calls = []
    · subst none
      have nothing : w.redis.commands.fresh read.size = [] := by simpa using taken
      obtain ⟨empty, same⟩ := @consumeCommands_nothing owner read.reach read.junk read.size c w nothing
      have still : Unread [] (c.consumeCommands owner read.reach read.junk read.size w).2.2 := by
        unfold Unread
        rw [same]
        exact unread
      obtain ⟨batches, rest, expected⟩ := ih (fun some => absurd rfl some) still
      refine ⟨[] :: batches, ?_, by simpa using expected⟩
      rw [List.map_cons, ← rest, ← empty]
      rfl
    · have some : w.redis.commands.fresh read.size ≠ [] := by
        intro nothing
        rw [nothing] at taken
        have few := congrArg List.length taken
        simp only [List.map_nil, List.length_nil, List.length_map, List.length_take] at few
        have positive := read.size.pos
        have many := List.length_pos_of_ne_nil none
        omega
      obtain ⟨commands, here, expected⟩ := @reads_of_fields _ _ read.junk w.now taken
      have result : c.consumeCommands owner read.reach read.junk read.size w = (.ok commands, c,
          { w with redis := { w.redis with commands := w.redis.commands.readGroup owner.text read.size } }) := by
        rw [consumeCommands_fresh (works none) some, here]
      obtain ⟨batches, rest, others⟩ := ih (fun _ => works none) (unread_readGroup unread owner.text read.size)
      refine ⟨commands :: batches, ?_, ?_⟩
      · rw [consumeAll, result, List.map_cons, ← rest]
      · rw [List.flatten_cons, List.map_append, expected, others, ← List.map_append, List.map_cons, List.sum_cons,
          List.take_add]

/-- Whatever is published while the group has nothing left to hand out is then consumed, in order and with the defaults
of `publishCommand` filled in. -/
theorem consumed_published {c c' : RedisClient} {w : World} (owner : NodeId)
    (publishes : c.connected_ = true ∧ c.answers = true) (consumes : c'.connected_ = true ∧ c'.answers = true)
    (caughtUp : ∃ g ∈ w.redis.commands.group, g.delivered = w.redis.commands.entries.length) (calls : List PublishCall)
    (reads : List ConsumeCall) :
    ∃ batches : List (List Command), consumeAll owner c' (run (publishStep c) w calls) reads = batches.map .ok ∧
      batches.flatten.map bare = (calls.map PublishCall.expected).take (reads.map fun read => (read.size : Nat)).sum := by
  obtain ⟨g, grouped, all⟩ := caughtUp
  have unread : Unread [] w := ⟨g, grouped, by simp [all]⟩
  have left := unread_publish publishes calls unread
  rw [← List.map_take]
  exact consumeAll_unread owner reads (fun _ => consumes) left

/-! ### Two commands -/

def linkedClient : RedisClient := { connected_ := true, conn_ := some .up, subConn_ := some .up }

theorem consumer_no_nul : 0 ∉ ascii "gateway-1" := by decide

def consumerNode : NodeId := ⟨ascii "gateway-1", consumer_no_nul⟩

/-- A command with nothing but a device and a payload. -/
def plainCall : PublishCall where
  cmd := ⟨0, ascii "sensor", [], ascii "on", 0, [], 0⟩
  ts := 1700000000000000
  delta := 1000
  id_fits := by decide
  timeout_fits := by decide
  ts_fits := by decide
  no_nul := by decide

def fullCall : PublishCall where
  cmd := ⟨-7, ascii "lamp", ascii "/lamp", ascii "off", 5, [], 0⟩
  ts := 1700000000000001
  delta := 1
  id_fits := by decide
  timeout_fits := by decide
  ts_fits := by decide
  no_nul := by decide

theorem two_commands_consumed :
    ∃ batches : List (List Command),
      consumeAll consumerNode linkedClient
        (run (publishStep linkedClient) ⟨0, { RedisServer.new with commands := Redis.Stream.empty.createGroup }, []⟩
          [plainCall, fullCall]) [⟨1, ⟨true, true⟩, ⟨9, 9⟩⟩, ⟨10, ⟨true, true⟩, ⟨9, 9⟩⟩] = batches.map .ok ∧
      batches.flatten.map bare =
        [⟨1700000000000000, ascii "sensor", ascii "/cmd/sensor/down", ascii "on", 30, [], 0⟩,
          ⟨-7, ascii "lamp", ascii "/lamp", ascii "off", 5, [], 0⟩] :=
  consumed_published consumerNode (by decide) (by decide) ⟨⟨0, []⟩, rfl, rfl⟩ [plainCall, fullCall]
    [⟨1, ⟨true, true⟩, ⟨9, 9⟩⟩, ⟨10, ⟨true, true⟩, ⟨9, 9⟩⟩]

end IotGateway.Storage
