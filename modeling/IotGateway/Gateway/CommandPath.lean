import IotGateway.Gateway.AtMostOnce
import IotGateway.Gateway.Downlink
import IotGateway.Storage.StreamEntries

/-!
# From a posted command to its frame

A command that the API of one node has taken goes through the stream to whichever node
reads it, and from there to the connection of its device, if that node has it. What the
nodes send in this way was posted before: the commands are sent in the order in which they
were posted, none of them twice, with the strings that were posted as far as `%s` takes
them.
-/

namespace IotGateway.Gateway
open Text Redis Storage Protocol
open GatewayServer (commandFrame)

/-- What `XADD` makes of a command, without what the consumer adds to it. -/
def asStored (cmd : Command) : Command where
  id := cmd.id
  deviceId := cstr cmd.deviceId
  topic := if cmd.topic = [] then cstr (ascii "/cmd/" ++ cmd.deviceId ++ ascii "/down") else cstr cmd.topic
  payload := cstr cmd.payload
  timeout := if cmd.timeout ≠ 0 then cmd.timeout else 30
  streamId := []
  createdAt := 0

theorem eq_of_stoInt_decimal {bits : Nat} {n m : Int} (read : stoInt bits (decimal n) = .ok m) : m = n := by
  simp only [stoInt, strtoll_decimal] at read
  split at read
  · exact (Except.ok.inj read).symm
  · cases read

theorem bare_of_readEntry {junk : RedisClient.Junk} {now : Nat} {id : StreamId} {post cmd : Command}
    (read : RedisClient.readEntry junk now ⟨id, RedisClient.xaddFields post post.id⟩ = .ok cmd) :
    bare cmd = asStored post := by
  obtain ⟨idField, deviceField, topicField, payloadField, timeoutField⟩ := fieldValue_xaddFields post post.id
  rw [ite_self] at idField
  simp only [RedisClient.readEntry, idField, deviceField, topicField, payloadField, timeoutField, RedisClient.numberField,
    bind, Except.bind, pure, Except.pure, Option.getD_some] at read
  split at read
  · cases read
  · rename_i number first
    split at read
    · cases read
    · rename_i seconds second
      obtain rfl := eq_of_stoInt_decimal first
      obtain rfl := eq_of_stoInt_decimal second
      cases read
      rfl

/-- What some of the elements of a list are related to, in order, is left of fewer of them. -/
theorem sublistForall₂_of_sublist {α β : Type} {R : α → β → Prop} {few some : List α} {all : List β}
    (among : few.Sublist some) (related : List.SublistForall₂ R some all) : List.SublistForall₂ R few all := by
  induction related generalizing few with
  | nil =>
    rw [List.sublist_nil.mp among]
    exact .nil
  | cons first rest ih =>
    rcases List.sublist_cons_iff.mp among with skipped | ⟨few', rfl, kept⟩
    · exact .cons_right (ih skipped)
    · exact .cons first (ih kept)
  | cons_right _ ih => exact .cons_right (ih among)

theorem sublistForall₂_imp {α β : Type} {R S : α → β → Prop} (implies : ∀ a b, R a b → S a b) {some : List α} {all : List β}
    (related : List.SublistForall₂ R some all) : List.SublistForall₂ S some all := by
  induction related with
  | nil => exact .nil
  | cons first _ ih => exact .cons (implies _ _ first) ih
  | cons_right _ ih => exact .cons_right ih

/-- The commands that the nodes take were posted, in this order. -/
theorem taken_as_posted (events : List Event) :
    List.SublistForall₂ (fun cmd post => bare cmd = asStored post)
      (produced System.step taken System.new events) (produced System.step posted System.new events) := by
  have once := once_run events
  obtain ⟨chosen, among, readIn⟩ := once.taken
  have whole : chosen.Sublist (run System.step System.new events).world.redis.commands.entries := by
    refine among.trans ?_
    unfold Redis.Stream.given
    split
    · exact List.nil_sublist _
    · exact List.take_sublist _ _
  let Fields (cmd : Command) (fields : List (Bytes × Bytes)) : Prop :=
    ∃ junk now id, RedisClient.readEntry junk now ⟨id, fields⟩ = .ok cmd
  have read : List.SublistForall₂ Fields (produced System.step taken System.new events)
      ((run System.step System.new events).world.redis.commands.entries.map (·.fields)) := by
    rw [List.sublistForall₂_map_right_iff, List.sublistForall₂_iff]
    refine ⟨chosen, readIn.imp ?_, whole⟩
    intro cmd e found
    obtain ⟨junk, now, read⟩ := found
    exact ⟨junk, now, e.id, read⟩
  rw [posted_run, List.sublistForall₂_map_right_iff] at read
  refine sublistForall₂_imp ?_ read
  intro cmd post found
  obtain ⟨junk, now, id, read⟩ := found
  exact bare_of_readEntry read

/-! ### Commands that are sent -/

structure Sending where
  node : NodeId
  conn : ConnId
  cmd : Command

/-- Of these commands a node sends those whose devices are on a connection of its own. -/
def sendable (n : NodeId) (g : GatewayServer) (commands : List Command) : List Sending :=
  commands.filterMap fun cmd => (g.deviceMgr_.findDevice g.conns cmd.deviceId).map fun device => ⟨n, device.connection, cmd⟩

def sendings (s : System) : Event → List Sending
  | .node n (.processCommand reach junk) => sendable n (s.nodes n) (taken s (.node n (.processCommand reach junk)))
  | _ => []

def FrameOf (sending : Sending) (f : NodeId × ConnId × Bytes) : Prop :=
  ∃ packetId, f = (sending.node, sending.conn, commandFrame sending.cmd packetId)

/-- The frames of these commands have come to the log, in order. -/
def Hands (w w' : World) (sent : List Sending) : Prop :=
  ∃ new, (handed w').reverse = (handed w).reverse ++ new ∧ List.SublistForall₂ FrameOf sent new

theorem Hands.of_handed {w w' : World} (same : handed w' = handed w) : Hands w w' [] :=
  ⟨[], by rw [same, List.append_nil], .nil⟩

theorem Hands.of_moves {w w' : World} (moves : Delivery.Moves (delivery w) (delivery w')) : Hands w w' [] := by
  have filtered : ∀ w : World, handed w = (delivery w).log.filterMap handed? := by
    intro w
    rw [handed, delivery, List.filterMap_filter]
    refine List.filterMap_congr fun a _ => ?_
    cases a <;> rfl
  obtain ⟨new, grown⟩ := moves.grows.log.filterMap handed?
  rw [← filtered, ← filtered] at grown
  exact ⟨new.reverse, by rw [← grown, List.reverse_append], .nil⟩

theorem Hands.trans {w w' w'' : World} {first second : List Sending} (before : Hands w w' first) (after : Hands w' w'' second) :
    Hands w w'' (first ++ second) := by
  obtain ⟨new, grown, frames⟩ := before
  obtain ⟨new', grown', frames'⟩ := after
  refine ⟨new ++ new', by rw [grown', grown, List.append_assoc], ?_⟩
  obtain ⟨l, related, among⟩ := List.sublistForall₂_iff.mp frames
  obtain ⟨l', related', among'⟩ := List.sublistForall₂_iff.mp frames'
  exact List.sublistForall₂_iff.mpr ⟨l ++ l', List.rel_append related related', among.append among'⟩

section Node

variable (n : NodeId) (g : GatewayServer) (w : World)

theorem hands_deliverCommand (cmd : Command) : Hands w (g.deliverCommand n w cmd).2 (sendable n g [cmd]) := by
  have forwarded := view_forwardCommand n g.redisClient_ w (Sees.blind sees_handed rfl) cmd.deviceId cmd
  rcases g.deliverCommand_cases n w cmd with ⟨online, same⟩ | ⟨absent, ⟨reason, same⟩ | ⟨-, same⟩ | ⟨-, same⟩⟩
  · obtain ⟨device, found⟩ := Option.isSome_iff_exists.mp online
    have sent := @GatewayServer.sendCommandToDevice_some n { g with cmdConsumed_ := g.cmdConsumed_ + 1 } cmd device found w
    have grown : handed (g.deliverCommand n w cmd).2 =
        (n, device.connection, commandFrame cmd (GatewayServer.nextPacketId g.s_packetId)) :: handed w := by
      rw [same, sent, view_ackCommand _ _ (Sees.blind sees_handed rfl),
        view_markCommandSent _ _ (Sees.blind sees_handed rfl)]
      rfl
    have one : sendable n g [cmd] = [⟨n, device.connection, cmd⟩] := by
      simp [sendable, found]
    rw [one]
    exact ⟨_, by rw [grown, List.reverse_cons], .cons ⟨_, rfl⟩ .nil⟩
  all_goals
    have none : sendable n g [cmd] = [] := by
      simp [sendable, absent]
    rw [none, same]
    refine .of_handed ?_
  · exact view_markCommandFailed _ w (Sees.blind sees_handed rfl) _ reason
  · exact (view_ackCommand _ _ (Sees.blind sees_handed rfl) _).trans forwarded
  · exact (view_markCommandFailed _ _ (Sees.blind sees_handed rfl) _ _).trans forwarded

theorem hands_deliverCommands (commands : List Command) :
    Hands w (commands.foldl (fun s cmd => s.1.deliverCommand n s.2 cmd) (g, w)).2 (sendable n g commands) := by
  induction commands generalizing g w with
  | nil => exact .of_handed rfl
  | cons cmd commands ih =>
    have first := hands_deliverCommand n g w cmd
    have rest := ih (g.deliverCommand n w cmd).1 (g.deliverCommand n w cmd).2
    -- a command changes counters, not what devices are there
    have tables : sendable n (g.deliverCommand n w cmd).1 commands = sendable n g commands := by
      obtain ⟨_, _, _, same⟩ := counted_deliverCommand n g w cmd
      rw [same]
      rfl
    rw [tables] at rest
    have both := first.trans rest
    rw [sendable, sendable, ← List.filterMap_append] at both
    exact both

theorem hands_processCommand (reach : Reach) (junk : RedisClient.Junk) (running : g.running_ = true) :
    Hands w (g.processCommand n reach junk w).2
      (sendable n g (batchOf (g.redisClient_.consumeCommands n reach junk 10 w).1)) := by
  have consumed := view_consumeCommands g.redisClient_ w (Sees.blind sees_handed rfl) n reach junk 10
  unfold GatewayServer.processCommand
  rw [if_neg (not_not.mpr running)]
  generalize g.redisClient_.consumeCommands n reach junk 10 w = outcome at consumed ⊢
  obtain ⟨commands, c, w'⟩ := outcome
  cases commands with
  | error failure => exact .of_handed consumed
  | ok commands =>
    cases commands with
    | nil => exact .of_handed consumed
    | cons cmd commands => exact (Hands.of_handed consumed).trans (hands_deliverCommands n { g with redisClient_ := c } w' _)

end Node

/-! ### Runs -/

/-- What the sending of commands rests on: who owns a device has connected, and a connected node has a consumer group. -/
structure Ready (s : System) : Prop where
  attests : ∀ n, Attests n (s.nodes n) s.world.log
  grouped : Grouped s

theorem Ready.step {s : System} (ready : Ready s) (e : Event) : Ready (s.step e) :=
  ⟨attests_step s e ready.attests, ready.grouped.step e⟩

theorem hands_step {s : System} (ready : Ready s) (e : Event) : Hands s.world (s.step e).world (sendings s e) := by
  cases e with
  | tick delta => exact .of_handed rfl
  | start n reach mqttPort =>
    simp only [System.step]
    split
    · exact .of_handed rfl
    · exact .of_moves (deliveryMoves_start n _ _ reach mqttPort)
  | node n event =>
    cases running : (s.nodes n).running_ with
    | false =>
      have still : s.step (.node n event) = s := if_neg (by rw [running]; exact Bool.false_ne_true)
      have nothing : sendings s (.node n event) = [] := by
        cases event with
        | processCommand => simp [sendings, taken, running, sendable]
        | _ => rfl
      rw [still, nothing]
      exact .of_handed rfl
    | true =>
      rw [System.step_running running]
      have attests : Attests n (s.nodes n) (delivery s.world).log :=
        fun c k owned => (mem_delivery rfl).mpr (ready.attests n c k owned)
      cases event with
      | processCommand reach junk =>
        have hands := hands_processCommand n _ s.world reach junk running
        simp only [sendings, taken, running, if_true, System.update_world, GatewayServer.nodeStep]
        split
        · rename_i done
          rw [done] at hands
          exact hands
        · rename_i failed
          rw [failed] at hands
          exact hands
      | _ =>
        apply Hands.of_moves
        refine deliveryMoves_nodeStep n _ _ _ attests (ready.grouped.group n) ?_ ?_
        · intro reach junk same
          cases same
        · intro reach junk same
          cases same

theorem sendings_sublist (s : System) (e : Event) : ((sendings s e).map (·.cmd)).Sublist (taken s e) := by
  have chosen : ∀ n g (commands : List Command), ((sendable n g commands).map (·.cmd)).Sublist commands := by
    intro n g commands
    induction commands with
    | nil => exact .slnil
    | cons cmd commands ih =>
      unfold sendable at ih ⊢
      rw [List.filterMap_cons]
      split
      · exact ih.cons _
      · rename_i sending found
        obtain ⟨device, -, rfl⟩ := Option.map_eq_some_iff.mp found
        exact ih.cons_cons _
  cases e with
  | node n event =>
    cases event with
    | processCommand reach junk => exact chosen n (s.nodes n) _
    | _ => exact List.nil_sublist _
  | _ => exact List.nil_sublist _

/-- In every run of a cluster: the commands that the nodes send from the stream to devices on their connections are
commands that were posted, in the order in which they were posted and none of them twice, with the strings that were
posted, up to their first NUL; and the connections were handed the frames of these commands, in this order. -/
theorem commands_sent_as_posted (events : List Event) :
    let sent := produced System.step sendings System.new events
    List.SublistForall₂ (fun (sending : Sending) post => bare sending.cmd = asStored post) sent
        (produced System.step posted System.new events) ∧
      List.SublistForall₂ FrameOf sent (handed (run System.step System.new events).world).reverse := by
  intro sent
  constructor
  · have few : ∀ (events : List Event) (s : System),
        ((produced System.step sendings s events).map (·.cmd)).Sublist (produced System.step taken s events) := by
      intro events
      induction events with
      | nil => exact fun _ => .slnil
      | cons e events ih =>
        intro s
        rw [produced, produced, List.map_append]
        exact (sendings_sublist s e).append (ih (s.step e))
    exact List.sublistForall₂_map_left_iff.mp (sublistForall₂_of_sublist (few events System.new) (taken_as_posted events))
  · let Sent : List Sending → System → Prop := fun sent s => Ready s ∧ Hands System.new.world s.world sent
    have start : Sent [] System.new := ⟨⟨fun _ _ _ owned => (by cases owned), once_new.grouped⟩, .of_handed rfl⟩
    have kept : ∀ sent s e, Sent sent s → Sent (sent ++ sendings s e) (s.step e) :=
      fun _ _ e before => ⟨before.1.step e, before.2.trans (hands_step before.1 e)⟩
    obtain ⟨-, new, grown, frames⟩ := run_produced_always System.step start kept events
    rw [grown]
    exact frames

end IotGateway.Gateway
