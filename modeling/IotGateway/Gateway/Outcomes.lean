import IotGateway.Gateway.AtLeastOnce
import IotGateway.Storage.CommandStatus
import IotGateway.Storage.StreamEntries

/-!
# What becomes of a consumed command

`processCommand` takes a batch of commands from the stream and handles them one by one.
With Redis answering, each command is sent to a device of this node, forwarded to another
node that listens, or marked as failed, and never two of these. The entries of the batch
that stay pending are those of the failed commands.
-/

namespace IotGateway.Gateway
open Text Redis Storage Protocol
open GatewayServer (commandFrame)
open RedisClient (routeChannel routeText)

inductive CommandOutcome where
  | sent
  | forwarded
  | failed
  deriving DecidableEq, Repr

def heldStatus (w : World) (id : Int) : Option Bytes := (w.redis.cmd id).get w.now (ascii "status")

/-- What the outcomes look like from outside, from the world before a command is handled to the world after; `online?` is
what the node has for the device. A failed command may have been published to a channel that nobody listens to. -/
inductive Effect (n : NodeId) (online? : Option DeviceInfo) (w : World) (cmd : Command) (w' : World) : CommandOutcome → Prop
  | sent (device : DeviceInfo) (packetId : UInt16) (found : online? = some device)
    (logged : w'.log =
      .xack (cstr cmd.streamId) :: .frame n device.connection (commandFrame cmd packetId) :: w.log)
    (marked : heldStatus w' cmd.id = some (ascii "sent"))
    (acked : w'.redis.commands = w.redis.commands.ack (cstr cmd.streamId)) : Effect n online? w cmd w' .sent
  | forwarded {target : Bytes} (elsewhere : target ≠ n.text) (heard : 0 < RedisClient.receivers w.redis (routeChannel target))
    (logged : w'.log =
      .xack (cstr cmd.streamId) :: .publish (routeChannel target) (snprintf 1024 (routeText cmd)) :: w.log)
    (unmarked : w'.redis.cmd = w.redis.cmd)
    (acked : w'.redis.commands = w.redis.commands.ack (cstr cmd.streamId)) : Effect n online? w cmd w' .forwarded
  | failed {attempts : List Action}
    (unheard : attempts = [] ∨ ∃ target, RedisClient.receivers w.redis (routeChannel target) = 0 ∧
      attempts = [.publish (routeChannel target) (snprintf 1024 (routeText cmd))])
    (logged : w'.log = attempts ++ w.log)
    (marked : heldStatus w' cmd.id = some (ascii "failed"))
    (kept : w'.redis.commands = w.redis.commands) : Effect n online? w cmd w' .failed

section Step

variable {n : NodeId} {g : GatewayServer} {w w' : World} {cmd : Command}

/-- The log tells the outcomes apart. -/
theorem Effect.unique {online? : Option DeviceInfo} {o o' : CommandOutcome} (first : Effect n online? w cmd w' o)
    (second : Effect n online? w cmd w' o') : o = o' := by
  have few : ∀ {attempts : List Action}, (attempts = [] ∨ ∃ target, RedisClient.receivers w.redis (routeChannel target) = 0 ∧
      attempts = [.publish (routeChannel target) (snprintf 1024 (routeText cmd))]) → attempts.length ≤ 1 := by
    rintro attempts (rfl | ⟨target, _, rfl⟩)
    · exact Nat.zero_le 1
    · exact le_rfl
  cases first with
  | sent device packetId found logged marked acked =>
    cases second with
    | sent => rfl
    | forwarded elsewhere heard logged' =>
      rw [logged] at logged'
      simp at logged'
    | failed unheard logged' =>
      have short := few unheard
      have same := congrArg List.length (logged.symm.trans logged')
      simp only [List.length_cons, List.length_append] at same
      omega
  | forwarded elsewhere heard logged unmarked acked =>
    cases second with
    | sent device packetId found logged' =>
      rw [logged] at logged'
      simp at logged'
    | forwarded => rfl
    | failed unheard logged' =>
      have short := few unheard
      have same := congrArg List.length (logged.symm.trans logged')
      simp only [List.length_cons, List.length_append] at same
      omega
  | failed unheard logged marked kept =>
    have short := few unheard
    cases second with
    | sent device packetId found logged' | forwarded elsewhere heard logged' =>
      have same := congrArg List.length (logged.symm.trans logged')
      simp only [List.length_cons, List.length_append] at same
      omega
    | failed => rfl

/-! ### One command -/

theorem heldStatus_hset (mark : Mark) (id : Int) (w : World) (other : mark.detail.1 ≠ ascii "status") :
    heldStatus (mark.hset id w) id = some mark.status := by
  unfold heldStatus Mark.hset RedisClient.setCmd
  simp only [if_true]
  rw [Hash.get_set_ne _ _ _ other.symm, Hash.get_set_self]

theorem markCommandSent_effect {c : RedisClient} (up : c.connected_ ∧ c.answers) (w : World) (id : Int) :
    heldStatus (c.markCommandSent w id) id = some (ascii "sent") ∧ (c.markCommandSent w id).log = w.log ∧
      (c.markCommandSent w id).redis.commands = w.redis.commands := by
  rw [markCommandSent_eq up]
  exact ⟨heldStatus_hset (.sent _) id w (show ascii "sent_at" ≠ _ by decide), rfl, rfl⟩

theorem markCommandFailed_effect {c : RedisClient} (up : c.connected_ ∧ c.answers) (w : World) (id : Int) (reason : Bytes) :
    heldStatus (c.markCommandFailed w id reason) id = some (ascii "failed") ∧
      (c.markCommandFailed w id reason).log = w.log ∧
      (c.markCommandFailed w id reason).redis.commands = w.redis.commands := by
  rw [markCommandFailed_eq up]
  exact ⟨heldStatus_hset (.failed _) id w (show ascii "reason" ≠ _ by decide), rfl, rfl⟩

theorem effect_sendCommandToDevice {device : DeviceInfo} (up : g.redisClient_.connected_ ∧ g.redisClient_.answers)
    (found : g.deviceMgr_.findDevice g.conns cmd.deviceId = some device) :
    Effect n (g.deviceMgr_.findDevice g.conns cmd.deviceId) w cmd (g.sendCommandToDevice n w cmd).2.2 .sent := by
  rw [GatewayServer.sendCommandToDevice_some n found]
  simp only [RedisClient.ackCommand, if_pos up]
  obtain ⟨marked, logged, kept⟩ := markCommandSent_effect up
    (w.record (.frame n device.connection (commandFrame cmd (GatewayServer.nextPacketId g.s_packetId)))) cmd.id
  refine .sent device (GatewayServer.nextPacketId g.s_packetId) found ?_ marked ?_
  · exact congrArg (List.cons _) logged
  · exact congrArg (Stream.ack · (cstr cmd.streamId)) kept

theorem forwardCommand_effect (up : g.redisClient_.connected_ ∧ g.redisClient_.answers) :
    (ClusterManager.forwardCommand n g.redisClient_ w cmd.deviceId cmd = (false, w)) ∨
      ∃ target, target ≠ n.text ∧ ClusterManager.forwardCommand n g.redisClient_ w cmd.deviceId cmd =
        (decide (0 < RedisClient.receivers w.redis (routeChannel target)),
          w.record (.publish (routeChannel target) (snprintf 1024 (routeText cmd)))) := by
  unfold ClusterManager.forwardCommand RedisClient.isConnected
  rw [if_neg (not_not.mpr up.1)]
  cases found : ClusterManager.forwardTarget n g.redisClient_ w cmd.deviceId with
  | none => exact Or.inl rfl
  | some target =>
    refine Or.inr ⟨target, ?_, ?_⟩
    · simp only [ClusterManager.forwardTarget, Option.ite_none_left_eq_some, Option.some.injEq] at found
      obtain ⟨_, other, rfl⟩ := found
      exact other
    · dsimp only
      rw [RedisClient.publishToNode, if_pos up]

/-- The outcome of a command, with what it does to the counters. -/
structure Handled (n : NodeId) (g : GatewayServer) (w : World) (cmd : Command) (o : CommandOutcome) : Prop where
  effect : Effect n (g.deviceMgr_.findDevice g.conns cmd.deviceId) w cmd (g.deliverCommand n w cmd).2 o
  consumed : (g.deliverCommand n w cmd).1.cmdConsumed_ = g.cmdConsumed_ + 1
  forwarded : (g.deliverCommand n w cmd).1.cmdForwarded_ = g.cmdForwarded_ + if o = .forwarded then 1 else 0

theorem effect_markCommandFailed (up : g.redisClient_.connected_ ∧ g.redisClient_.answers) (online? : Option DeviceInfo)
    (reason : Bytes) {attempts : List Action} (same : w'.redis = w.redis) (logged : w'.log = attempts ++ w.log)
    (unheard : attempts = [] ∨ ∃ target, RedisClient.receivers w.redis (routeChannel target) = 0 ∧
      attempts = [.publish (routeChannel target) (snprintf 1024 (routeText cmd))]) :
    Effect n online? w cmd (g.redisClient_.markCommandFailed w' cmd.id reason) .failed := by
  obtain ⟨marked, logged', kept⟩ := markCommandFailed_effect up w' cmd.id reason
  exact .failed unheard (logged'.trans logged) marked (kept.trans (congrArg (·.commands) same))

theorem handled_online (up : g.redisClient_.connected_ ∧ g.redisClient_.answers) {device : DeviceInfo}
    (found : g.deviceMgr_.findDevice g.conns cmd.deviceId = some device)
    (delivered : g.deliverCommand n w cmd =
      (({ g with cmdConsumed_ := g.cmdConsumed_ + 1 } : GatewayServer).sendCommandToDevice n w cmd).2) :
    Handled n g w cmd .sent := by
  have sent := @GatewayServer.sendCommandToDevice_some n { g with cmdConsumed_ := g.cmdConsumed_ + 1 } cmd device found w
  refine ⟨?_, ?_, ?_⟩
  · rw [delivered]
    exact @effect_sendCommandToDevice n { g with cmdConsumed_ := g.cmdConsumed_ + 1 } w cmd device up found
  · rw [delivered, sent]
  · rw [delivered, sent]
    rfl

/-- A command that is given up is marked as failed, after an attempt to forward it or without one. -/
theorem handled_failed (up : g.redisClient_.connected_ ∧ g.redisClient_.answers) {w' : World} {reason : Bytes}
    (delivered : g.deliverCommand n w cmd =
      ({ g with cmdConsumed_ := g.cmdConsumed_ + 1 }, g.redisClient_.markCommandFailed w' cmd.id reason))
    {attempts : List Action} (same : w'.redis = w.redis) (logged : w'.log = attempts ++ w.log)
    (unheard : attempts = [] ∨ ∃ target, RedisClient.receivers w.redis (routeChannel target) = 0 ∧
      attempts = [.publish (routeChannel target) (snprintf 1024 (routeText cmd))]) : Handled n g w cmd .failed := by
  refine ⟨?_, ?_, ?_⟩
  · rw [delivered]
    exact effect_markCommandFailed up _ reason same logged unheard
  · rw [delivered]
  · rw [delivered]
    rfl

theorem handled_deliverCommand (up : g.redisClient_.connected_ ∧ g.redisClient_.answers) : ∃ o, Handled n g w cmd o := by
  rcases g.deliverCommand_cases n w cmd with
    ⟨online, sent⟩ | ⟨-, ⟨reason, failed⟩ | ⟨forwarded, delivered⟩ | ⟨refused, failed⟩⟩
  · obtain ⟨device, found⟩ := Option.isSome_iff_exists.mp online
    exact ⟨.sent, handled_online up found sent⟩
  · exact ⟨.failed, handled_failed up failed rfl rfl (Or.inl rfl)⟩
  · rcases @forwardCommand_effect n g w cmd up with quiet | ⟨target, elsewhere, published⟩
    · rw [quiet] at forwarded
      cases forwarded
    · rw [published] at forwarded delivered
      have heard : 0 < RedisClient.receivers w.redis (routeChannel target) := by simpa using forwarded
      refine ⟨.forwarded, ?_, ?_, ?_⟩ <;> rw [delivered]
      · rw [RedisClient.ackCommand, if_pos up]
        exact .forwarded elsewhere heard rfl rfl rfl
      · rfl
  · rcases @forwardCommand_effect n g w cmd up with quiet | ⟨target, -, published⟩
    · rw [quiet] at failed
      exact ⟨.failed, handled_failed up failed rfl rfl (Or.inl rfl)⟩
    · rw [published] at refused failed
      have unheard : RedisClient.receivers w.redis (routeChannel target) = 0 := by simpa using refused
      exact ⟨.failed, handled_failed up failed rfl rfl (Or.inr ⟨target, unheard, rfl⟩)⟩

end Step

/-! ### A batch -/

/-- The loop over a batch: every command has the outcome beside it, and no other. -/
inductive Handles (n : NodeId) : GatewayServer × World → List (Command × CommandOutcome) → GatewayServer × World → Prop
  | done (s : GatewayServer × World) : Handles n s [] s
  | next {g : GatewayServer} {w : World} {cmd : Command} {o : CommandOutcome} {rest : List (Command × CommandOutcome)}
    {t : GatewayServer × World}
    (effect : Effect n (g.deviceMgr_.findDevice g.conns cmd.deviceId) w cmd (g.deliverCommand n w cmd).2 o)
    (only : ∀ o', Effect n (g.deviceMgr_.findDevice g.conns cmd.deviceId) w cmd (g.deliverCommand n w cmd).2 o' → o' = o)
    (others : Handles n (g.deliverCommand n w cmd) rest t) : Handles n (g, w) ((cmd, o) :: rest) t

section Batch

variable {n : NodeId}

theorem handles_batch {g : GatewayServer} {w : World} (commands : List Command)
    (up : g.redisClient_.connected_ ∧ g.redisClient_.answers) :
    ∃ batch, batch.map Prod.fst = commands ∧
      Handles n (g, w) batch (commands.foldl (fun s cmd => s.1.deliverCommand n s.2 cmd) (g, w)) ∧
      (commands.foldl (fun s cmd => s.1.deliverCommand n s.2 cmd) (g, w)).1.cmdConsumed_ = g.cmdConsumed_ + batch.length ∧
      (commands.foldl (fun s cmd => s.1.deliverCommand n s.2 cmd) (g, w)).1.cmdForwarded_ =
        g.cmdForwarded_ + (batch.map Prod.snd).count .forwarded := by
  induction commands generalizing g w with
  | nil => exact ⟨[], rfl, .done _, rfl, rfl⟩
  | cons cmd commands ih =>
    obtain ⟨o, effect, consumed, forwarded⟩ := @handled_deliverCommand n g w cmd up
    have client : (g.deliverCommand n w cmd).1.redisClient_ = g.redisClient_ := by
      obtain ⟨_, _, _, same⟩ := counted_deliverCommand n g w cmd
      rw [same]
    obtain ⟨batch, commands', handles, total, many⟩ := @ih (g.deliverCommand n w cmd).1 (g.deliverCommand n w cmd).2
      (client ▸ up)
    refine ⟨(cmd, o) :: batch, congrArg (List.cons cmd) commands', .next effect (fun o' other => other.unique effect) handles,
      ?_, ?_⟩
    · rw [List.foldl_cons, total, consumed, List.length_cons]
      omega
    · rw [List.foldl_cons, many, forwarded, List.map_cons, List.count_cons]
      simp only [beq_iff_eq]
      omega

/-- An entry is pending after the batch if it was before and no command with its id was sent or forwarded. -/
theorem Handles.outstanding {s t : GatewayServer × World} {batch : List (Command × CommandOutcome)}
    (handles : Handles n s batch t) (id : StreamId) :
    t.2.redis.commands.Outstanding id ↔
      s.2.redis.commands.Outstanding id ∧ ∀ p ∈ batch, p.2 ≠ .failed → id.text ≠ cstr p.1.streamId := by
  induction handles with
  | done => simp
  | @next g w cmd o rest t effect only others ih =>
    rw [ih, List.forall_mem_cons]
    cases effect with
    | sent device packetId found logged marked acked =>
      rw [acked, Redis.Stream.outstanding_ack_iff]
      simp [and_assoc]
    | forwarded elsewhere heard logged unmarked acked =>
      rw [acked, Redis.Stream.outstanding_ack_iff]
      simp [and_assoc]
    | failed unheard logged marked kept =>
      rw [kept]
      simp

/-! ### `processCommand` -/

theorem streamId_of_readEntry {junk : RedisClient.Junk} {now : Nat} {e : CommandEntry} {cmd : Command}
    (read : RedisClient.readEntry junk now e = .ok cmd) : cmd.streamId = e.id.text := (carries_of_readEntry read).streamId

/-- Of the entries of a batch those stay pending whose commands have failed. -/
theorem pending_failed {entries : List CommandEntry} {batch : List (Command × CommandOutcome)} {s t : GatewayServer × World}
    (handles : Handles n s batch t) (ordered : entries.Pairwise fun a b => a.id < b.id)
    (pending : ∀ e ∈ entries, s.2.redis.commands.Outstanding e.id)
    (ids : List.Forall₂ (fun (e : CommandEntry) p => p.1.streamId = e.id.text) entries batch) :
    List.Forall₂ (fun (e : CommandEntry) p => p.1.streamId = e.id.text ∧
      (t.2.redis.commands.Outstanding e.id ↔ p.2 = .failed)) entries batch := by
  obtain ⟨size, named⟩ := List.forall₂_iff_get.mp ids
  refine List.forall₂_iff_get.mpr ⟨size, fun i inEntries inBatch => ⟨named i inEntries inBatch, ?_⟩⟩
  have text : ∀ j (below : j < entries.length) (below' : j < batch.length),
      cstr (batch.get ⟨j, below'⟩).1.streamId = (entries.get ⟨j, below⟩).id.text := by
    intro j below below'
    rw [named j below below', cstr_of_no_nul (StreamId.text_no_nul _)]
  rw [handles.outstanding]
  constructor
  · rintro ⟨_, unacked⟩
    by_contra other
    exact unacked _ (List.get_mem _ _) other (text i inEntries inBatch).symm
  · intro failed
    refine ⟨pending _ (List.get_mem _ _), fun q member other same => ?_⟩
    obtain ⟨⟨j, below'⟩, rfl⟩ := List.get_of_mem member
    rw [text j (size ▸ below') below'] at same
    have id := StreamId.text_injective same
    rw [List.pairwise_iff_get] at ordered
    -- ids grow along the stream, so the two entries are the same one
    rcases Nat.lt_trichotomy i j with earlier | here | later
    · exact absurd id (ne_of_lt (ordered ⟨i, inEntries⟩ ⟨j, size ▸ below'⟩ earlier))
    · subst here
      exact other failed
    · exact absurd id (ne_of_gt (ordered ⟨j, size ▸ below'⟩ ⟨i, inEntries⟩ later))

theorem ordered_fresh {φ κ : Type} (s : Redis.Stream φ κ) (count : Nat) : (s.fresh count).Pairwise fun a b => a.id < b.id := by
  unfold Redis.Stream.fresh
  split
  · exact .nil
  · exact s.ordered.sublist ((List.take_sublist _ _).trans (List.drop_sublist _ _))

theorem processCommand_nothing {g : GatewayServer} {w : World} {reach : Reach} {junk : RedisClient.Junk}
    (running : g.running_ = true) (consumed : (g.redisClient_.consumeCommands n reach junk 10 w).1 = .ok []) :
    g.processCommand n reach junk w =
      (.ok { g with redisClient_ := (g.redisClient_.consumeCommands n reach junk 10 w).2.1 },
        (g.redisClient_.consumeCommands n reach junk 10 w).2.2) := by
  unfold GatewayServer.processCommand
  rw [if_neg (not_not.mpr running)]
  dsimp only
  rw [consumed]

theorem processCommand_batch {g : GatewayServer} {w w' : World} {reach : Reach} {junk : RedisClient.Junk}
    {commands : List Command} (running : g.running_ = true) (some : commands ≠ [])
    (consumed : g.redisClient_.consumeCommands n reach junk 10 w = (.ok commands, g.redisClient_, w')) :
    let last := commands.foldl (fun s cmd => s.1.deliverCommand n s.2 cmd) (g, w')
    g.processCommand n reach junk w =
      (.ok { last.1 with
        clusterMgr_ := last.1.clusterMgr_.updateLocalStats last.1.deviceMgr_.localOnlineCount last.1.cmdConsumed_ },
        last.2) := by
  unfold GatewayServer.processCommand
  rw [if_neg (not_not.mpr running)]
  dsimp only
  rw [consumed]
  cases commands with
  | nil => exact absurd rfl some
  | cons cmd commands => rfl

/-- Every command of a batch has exactly one outcome; the entries that stay pending are those of the failed commands, and
the counters count the batch and the forwarded commands in it. -/
theorem processCommand_outcomes {g : GatewayServer} {w : World} {reach : Reach} {junk : RedisClient.Junk}
    {commands : List Command} (running : g.running_ = true) (up : g.redisClient_.connected_ ∧ g.redisClient_.answers)
    (consumed : (g.redisClient_.consumeCommands n reach junk 10 w).1 = .ok commands) :
    let start := (g.redisClient_.consumeCommands n reach junk 10 w).2
    let result := g.processCommand n reach junk w
    ∃ batch last after, batch.map Prod.fst = commands ∧
      Handles n ({ g with redisClient_ := start.1 }, start.2) batch (last, result.2) ∧
      List.Forall₂ (fun (e : CommandEntry) p => p.1.streamId = e.id.text ∧
        (result.2.redis.commands.Outstanding e.id ↔ p.2 = .failed)) (w.redis.commands.fresh 10) batch ∧
      result.1 = .ok after ∧ after.cmdConsumed_ = g.cmdConsumed_ + commands.length ∧
      after.cmdForwarded_ = g.cmdForwarded_ + (batch.map Prod.snd).count .forwarded := by
  intro start result
  by_cases nothing : w.redis.commands.fresh 10 = []
  · obtain ⟨none, _⟩ := @consumeCommands_nothing n reach junk 10 g.redisClient_ w nothing
    obtain rfl : [] = commands := Except.ok.inj (none.symm.trans consumed)
    have idle : result = _ := processCommand_nothing running none
    rw [nothing, idle]
    exact ⟨[], _, _, rfl, .done _, .nil, rfl, rfl, rfl⟩
  · have whole := @consumeCommands_fresh n reach junk 10 g.redisClient_ w up nothing
    have read : (w.redis.commands.fresh 10).mapM (RedisClient.readEntry junk w.now) = .ok commands := by
      rw [← consumed, whole]
    have pairs := mapM_ok_iff.mp read
    have some : commands ≠ [] := by
      rintro rfl
      exact nothing (List.forall₂_nil_right_iff.mp pairs)
    rw [read] at whole
    have done : result = _ := processCommand_batch running some whole
    obtain ⟨batch, rfl, handles, total, many⟩ := @handles_batch n g
      { w with redis := { w.redis with commands := w.redis.commands.readGroup n.text 10 } } commands up
    have ids : List.Forall₂ (fun (e : CommandEntry) p => p.1.streamId = e.id.text) (w.redis.commands.fresh 10) batch :=
      (List.forall₂_map_right_iff.mp pairs).imp fun e p here => streamId_of_readEntry here
    have pending := pending_failed handles (ordered_fresh _ _)
      (fun e member => Redis.Stream.outstanding_of_fresh member n.text) ids
    dsimp only at done
    generalize (batch.map Prod.fst).foldl _ _ = last at handles total many pending done
    refine ⟨batch, last.1, _, rfl, ?_, ?_, congrArg Prod.fst done, ?_, many⟩
    · rw [done, show start = _ from congrArg Prod.snd whole]
      exact handles
    · rw [done]
      exact pending
    · rw [List.length_map]
      exact total

end Batch

/-! ### A batch with all three outcomes -/

/-- A node with a sensor on its first connection. -/
def sensorNode : GatewayServer where
  running_ := true
  redisClient_ := linkedClient
  deviceMgr_ :=
    { devices_ := AList.insert (ascii "sensor") ⟨ascii "sensor", [], ascii "gateway-1", 0, 0, 60, 1⟩ ∅ }
  conns := fun k => if k = 1 then .connected else .connecting

/-- Commands for the sensor, for a lamp of the second node and for a pump that nobody knows. -/
def threeCommands : World where
  now := kSecond
  redis := { RedisServer.new with
    devices := Redis.Hash.empty.set 0 (ascii "lamp") (RedisClient.registryText gateway2.text 0 60)
    commands := ((Redis.Stream.empty.createGroup.add 1 [(ascii "id", ascii "1"), (ascii "device_id", ascii "sensor"),
      (ascii "timeout", ascii "30")]).add 2 [(ascii "id", ascii "2"), (ascii "device_id", ascii "lamp"),
      (ascii "timeout", ascii "30")]).add 3 [(ascii "id", ascii "3"), (ascii "device_id", ascii "pump"),
      (ascii "timeout", ascii "30")]
    subscriptions := [(gateway2, routeChannel gateway2.text)] }
  log := []

def threeConsumed : List Command :=
  [⟨1, ascii "sensor", [], [], 30, ascii "1-0", kSecond⟩, ⟨2, ascii "lamp", [], [], 30, ascii "2-0", kSecond⟩,
    ⟨3, ascii "pump", [], [], 30, ascii "3-0", kSecond⟩]

theorem three_commands_outcomes :
    let start := (sensorNode.redisClient_.consumeCommands gateway1 ⟨true, true⟩ ⟨0, 0⟩ 10 threeCommands).2
    let result := sensorNode.processCommand gateway1 ⟨true, true⟩ ⟨0, 0⟩ threeCommands
    ∃ batch last after, batch.map Prod.fst = threeConsumed ∧
      Handles gateway1 ({ sensorNode with redisClient_ := start.1 }, start.2) batch (last, result.2) ∧
      List.Forall₂ (fun (e : CommandEntry) p => p.1.streamId = e.id.text ∧
        (result.2.redis.commands.Outstanding e.id ↔ p.2 = .failed)) (threeCommands.redis.commands.fresh 10) batch ∧
      result.1 = .ok after ∧ after.cmdConsumed_ = 3 ∧
      after.cmdForwarded_ = 0 + (batch.map Prod.snd).count .forwarded :=
  processCommand_outcomes rfl (by decide) (by decide +kernel)

end IotGateway.Gateway
