import IotGateway.Gateway.AtLeastOnce

/-!
# Delivery of commands at most once

`XREADGROUP` moves on in the stream with every batch, whichever node asks. Over a whole run
the commands that the nodes go through are, in order, commands of the stream, each of them
once. A node that ends in the middle drops its batch, and nobody takes it again. What is
acknowledged was taken before, so no command is acknowledged twice, and the entries that
stay pending are exactly those that were handed out and not acknowledged.
-/

namespace IotGateway.Gateway
open Text Redis Storage Protocol

/-- The commands that a step puts into the stream. -/
def posted (s : System) : Event → List Command
  | .node n (.enqueueCommand fate deviceId command params) =>
    let client := (s.nodes n).redisClient_
    if (s.nodes n).running_ ∧ (client.connected_ ∧ client.answers) ∧ fate ≠ .refused then
      [GatewayServer.apiCommand s.world.now deviceId command params]
    else []
  | _ => []

/-- An exception loses the batch. -/
def batchOf : Except StdException (List Command) → List Command
  | .ok commands => commands
  | .error _ => []

/-- The commands that a step takes from the stream and goes through one by one. -/
def taken (s : System) : Event → List Command
  | .node n (.processCommand reach junk) =>
    if (s.nodes n).running_ then batchOf ((s.nodes n).redisClient_.consumeCommands n reach junk 10 s.world).1 else []
  | _ => []

def acked? : Action → Option Bytes
  | .xack id => if id = [] then none else some id
  | _ => none

/-- The entries that were acknowledged, in order. The command of another node has no entry and an empty id. -/
def acked (w : World) : List Bytes := (w.log.filterMap acked?).reverse

/-! ### The stream and its acknowledgements -/

abbrev Tally := Redis.Stream (List (Bytes × Bytes)) Bytes × List Bytes

def tally (w : World) : Tally := (w.redis.commands, acked w)

theorem sees_tally : Sees tally [.commands, .xack] := by
  intro part other
  cases part <;> first | exact absurd (by decide) other | exact fun _ _ => rfl | exact fun _ _ _ => rfl |
    exact fun w action kind => by cases action <;> first | rfl | cases kind

def Tally.ack (t : Tally) (id : Bytes) : Tally := (t.1.ack id, if id = [] then t.2 else t.2 ++ [id])

/-- What has been added to the stream, read from it and acknowledged from one moment to another. -/
structure Progress (t t' : Tally) (added read : List CommandEntry) (acks : List Bytes) : Prop where
  entries : t'.1.entries = t.1.entries ++ added
  given : t'.1.given = t.1.given ++ read
  acked : t'.2 = t.2 ++ acks
  outstanding : ∀ id, t'.1.Outstanding id ↔ (t.1.Outstanding id ∨ id ∈ read.map (·.id)) ∧ id.text ∉ acks
  group : t.1.group ≠ none → t'.1.group ≠ none
  begun : (t.1.group = none → t.1.entries = []) → t'.1.group = none → t'.1.entries = []

namespace Progress

theorem refl (t : Tally) : Progress t t [] [] [] :=
  ⟨(List.append_nil _).symm, (List.append_nil _).symm, (List.append_nil _).symm, fun _ => by simp, id, id⟩

theorem of_eq {t t' : Tally} (same : t' = t) : Progress t t' [] [] [] := same ▸ refl t

theorem acks {t t' : Tally} {added read : List CommandEntry} {acks : List Bytes} (progress : Progress t t' added read acks)
    (id : Bytes) : Progress t (t'.ack id) added read (if id = [] then acks else acks ++ [id]) := by
  refine ⟨progress.entries, (Redis.Stream.given_ack _ _).trans progress.given, ?_, ?_, ?_, ?_⟩
  · show (if id = [] then t'.2 else t'.2 ++ [id]) = _
    rw [progress.acked]
    split
    · rfl
    · exact List.append_assoc _ _ _
  · intro other
    rw [show (t'.ack id).1 = t'.1.ack id from rfl, Redis.Stream.outstanding_ack_iff, progress.outstanding, and_assoc]
    refine and_congr_right fun _ => ?_
    by_cases empty : id = []
    · rw [if_pos empty, and_iff_left]
      rw [empty]
      exact other.text_ne_nil
    · rw [if_neg empty, List.mem_append, List.mem_singleton, not_or]
  · intro grouped missing
    exact progress.group grouped (Option.map_eq_none_iff.mp missing)
  · intro begun missing
    exact progress.begun begun (Option.map_eq_none_iff.mp missing)

end Progress

theorem progress_add (t : Tally) (millis : Nat) (fields : List (Bytes × Bytes)) (grouped : t.1.group ≠ none) :
    Progress t (t.1.add millis fields, t.2) [⟨t.1.nextId millis, fields⟩] [] [] where
  entries := rfl
  given := (Redis.Stream.given_add _ _ _).trans (List.append_nil _).symm
  acked := (List.append_nil _).symm
  outstanding := fun _ => ⟨fun here => ⟨Or.inl here, List.not_mem_nil⟩, fun here => here.1.resolve_right List.not_mem_nil⟩
  group := id
  begun := fun _ missing => absurd missing grouped

theorem progress_createGroup (t : Tally) (begun : t.1.group = none → t.1.entries = []) :
    Progress t (t.1.createGroup, t.2) [] [] [] where
  entries := (List.append_nil _).symm
  given := (Redis.Stream.given_createGroup _ begun).trans (List.append_nil _).symm
  acked := (List.append_nil _).symm
  outstanding := by
    intro id
    rw [Redis.Stream.outstanding_createGroup_iff]
    simp
  group := fun _ missing => by simp [Redis.Stream.createGroup] at missing
  begun := fun _ missing => by simp [Redis.Stream.createGroup] at missing

theorem progress_readGroup (t : Tally) (consumer : Bytes) (count : Nat) :
    Progress t (t.1.readGroup consumer count, t.2) [] (t.1.fresh count) [] where
  entries := (List.append_nil _).symm
  given := Redis.Stream.given_readGroup _ _ _
  acked := (List.append_nil _).symm
  outstanding := by
    intro id
    rw [Redis.Stream.outstanding_readGroup_iff]
    simp
  group := fun grouped missing => grouped (Option.map_eq_none_iff.mp missing)
  begun := fun begun missing => begun (Option.map_eq_none_iff.mp missing)

/-! ### Commands -/

section Node

variable (n : NodeId) (g : GatewayServer) (w : World)

theorem tally_ackCommand (c : RedisClient) (streamId : Bytes) :
    tally (c.ackCommand w streamId) = tally w ∨ tally (c.ackCommand w streamId) = (tally w).ack (cstr streamId) := by
  unfold RedisClient.ackCommand
  split
  · refine Or.inr (Prod.ext rfl ?_)
    show (List.filterMap acked? (.xack (cstr streamId) :: w.log)).reverse = if _ then _ else _
    by_cases empty : cstr streamId = []
    · rw [if_pos empty, empty]
      rfl
    · have named : acked? (.xack (cstr streamId)) = some (cstr streamId) := if_neg empty
      rw [if_neg empty, List.filterMap_cons_some named, List.reverse_cons]
      rfl
  · exact Or.inl rfl

theorem tally_sendCommandToDevice (cmd : Command) :
    tally (g.sendCommandToDevice n w cmd).2.2 = tally w ∨
      tally (g.sendCommandToDevice n w cmd).2.2 = (tally w).ack (cstr cmd.streamId) := by
  cases found : g.deviceMgr_.findDevice g.conns cmd.deviceId with
  | none =>
    rw [GatewayServer.sendCommandToDevice_none n found]
    exact Or.inl rfl
  | some device =>
    rw [GatewayServer.sendCommandToDevice_some n found]
    dsimp only
    have sent : ∀ bytes, tally (g.redisClient_.markCommandSent (w.record (.frame n device.connection bytes)) cmd.id) =
        tally w := by
      intro bytes
      exact (view_markCommandSent _ _ (Sees.blind sees_tally rfl) _).trans (Sees.record sees_tally _ rfl w)
    rw [← sent]
    exact tally_ackCommand _ _ _

theorem tally_deliverCommand (cmd : Command) :
    tally (g.deliverCommand n w cmd).2 = tally w ∨ tally (g.deliverCommand n w cmd).2 = (tally w).ack (cstr cmd.streamId) := by
  have forwarded := view_forwardCommand n g.redisClient_ w (Sees.blind sees_tally rfl) cmd.deviceId cmd
  rcases g.deliverCommand_cases n w cmd with ⟨-, same⟩ | ⟨-, ⟨reason, same⟩ | ⟨-, same⟩ | ⟨-, same⟩⟩
  · rw [same]
    exact tally_sendCommandToDevice n _ w cmd
  · rw [same]
    exact Or.inl (view_markCommandFailed _ w (Sees.blind sees_tally rfl) _ reason)
  · rw [same, ← forwarded]
    exact tally_ackCommand _ _ _
  · rw [same, ← forwarded]
    exact Or.inl (view_markCommandFailed _ _ (Sees.blind sees_tally rfl) _ _)

/-- A batch acknowledges some of its commands, in its order. -/
theorem progress_deliverCommands {t : Tally} {read : List CommandEntry} {before : List Bytes}
    (progress : Progress t (tally w) [] read before) {commands : List Command}
    (named : ∀ cmd ∈ commands, cstr cmd.streamId = cmd.streamId ∧ cmd.streamId ≠ []) :
    ∃ acks, acks.Sublist (commands.map (·.streamId)) ∧
      Progress t (tally (commands.foldl (fun s cmd => s.1.deliverCommand n s.2 cmd) (g, w)).2) [] read (before ++ acks) := by
  induction commands generalizing g w before with
  | nil => exact ⟨[], List.nil_sublist _, by rwa [List.append_nil]⟩
  | cons cmd commands ih =>
    obtain ⟨text, some⟩ := named cmd List.mem_cons_self
    have others := fun cmd' member => named cmd' (List.mem_cons_of_mem cmd member)
    rw [List.foldl_cons, List.map_cons]
    rcases tally_deliverCommand n g w cmd with same | acked
    · obtain ⟨acks, listed, later⟩ := @ih (g.deliverCommand n w cmd).1 (g.deliverCommand n w cmd).2 before
        (same ▸ progress) others
      exact ⟨acks, listed.cons _, later⟩
    · have next : Progress t (tally (g.deliverCommand n w cmd).2) [] read (before ++ [cmd.streamId]) := by
        have grown := progress.acks (cstr cmd.streamId)
        rw [text, if_neg some] at grown
        rwa [acked, text]
      obtain ⟨acks, listed, later⟩ := ih _ _ next others
      rw [List.append_assoc] at later
      exact ⟨cmd.streamId :: acks, listed.cons_cons _, later⟩

/-- The command that `consumeCommands` has read in an entry. -/
def ReadIn (cmd : Command) (e : CommandEntry) : Prop := ∃ junk now, RedisClient.readEntry junk now e = .ok cmd

theorem readIn_of_mapM {junk : RedisClient.Junk} {now : Nat} {entries : List CommandEntry} {commands : List Command}
    (read : entries.mapM (RedisClient.readEntry junk now) = .ok commands) : List.Forall₂ ReadIn commands entries :=
  ((mapM_ok_iff.mp read).imp fun _ _ parsed => ⟨junk, now, parsed⟩).flip

/-- What a step has done with the stream. It has added what was posted, the commands that it took are those of the entries
that it read, except for the ones that were lost, and what it has acknowledged is among them. -/
structure Dealt (t t' : Tally) (posts : List Command) (whole : Prop) (commands : List Command)
    (added read chosen : List CommandEntry) (acks : List Bytes) : Prop where
  progress : Progress t t' added read acks
  posts : added.map (·.fields) = posts.map fun cmd => RedisClient.xaddFields cmd cmd.id
  among : chosen.Sublist read
  whole : whole → chosen = read
  readIn : List.Forall₂ ReadIn commands chosen
  acks : acks.Sublist (commands.map (·.streamId))

def Takes (w w' : World) (posts : List Command) (whole : Prop) (commands : List Command) : Prop :=
  ∃ added read chosen acks, Dealt (tally w) (tally w') posts whole commands added read chosen acks

section Takes

variable {w w' : World} {whole : Prop}

theorem Takes.of_progress (progress : Progress (tally w) (tally w') [] [] []) : Takes w w' [] whole [] :=
  ⟨[], [], [], [], progress, rfl, .slnil, fun _ => rfl, .nil, .slnil⟩

theorem Takes.of_tally (same : tally w' = tally w) : Takes w w' [] whole [] := .of_progress (.of_eq same)

end Takes

/-- The reply can be read, so that the batch is not lost with the node. -/
def WholeBatch (reach : Reach) (junk : RedisClient.Junk) : Prop :=
  ∃ commands, (g.redisClient_.consumeCommands n reach junk 10 w).1 = .ok commands

theorem takes_processCommand (reach : Reach) (junk : RedisClient.Junk) (running : g.running_ = true) :
    Takes w (g.processCommand n reach junk w).2 [] (WholeBatch n g w reach junk)
      (batchOf (g.redisClient_.consumeCommands n reach junk 10 w).1) := by
  unfold GatewayServer.processCommand WholeBatch
  rw [if_neg (not_not.mpr running)]
  rcases RedisClient.consumeCommands_cases n reach junk 10 g.redisClient_ w with ⟨-, idle⟩ | ⟨-, -, read⟩ | ⟨-, -, lost⟩
  · rw [idle]
    exact .of_tally rfl
  · have progress : Progress (tally w) (tally { w with redis :=
        { w.redis with commands := w.redis.commands.readGroup n.text 10 } }) [] (w.redis.commands.fresh 10) [] :=
      progress_readGroup (tally w) n.text 10
    rw [read]
    dsimp only
    generalize parsed : (w.redis.commands.fresh 10).mapM (RedisClient.readEntry junk w.now) = outcome
    cases outcome with
    | error failure =>
      refine ⟨[], _, [], [], progress, rfl, List.nil_sublist _, ?_, .nil, .slnil⟩
      intro legible
      obtain ⟨commands, read⟩ := legible
      cases read
    | ok commands =>
      have named : ∀ cmd ∈ commands, cstr cmd.streamId = cmd.streamId ∧ cmd.streamId ≠ [] := by
        intro cmd member
        obtain ⟨e, _, carries⟩ := carries_of_mapM parsed cmd member
        rw [carries.streamId]
        exact ⟨cstr_of_no_nul e.id.text_no_nul, e.id.text_ne_nil⟩
      have readIn := readIn_of_mapM parsed
      cases commands with
      | nil => exact ⟨[], _, _, [], progress, rfl, List.Sublist.refl _, fun _ => rfl, readIn, List.nil_sublist _⟩
      | cons cmd commands =>
        obtain ⟨acks, listed, later⟩ := progress_deliverCommands n g _ progress named
        exact ⟨[], _, _, acks, later, rfl, List.Sublist.refl _, fun _ => rfl, readIn, listed⟩
  · rw [lost]
    exact .of_tally (view_reconnect w (Sees.blind sees_tally rfl) n reach)

theorem takes_enqueueCommand {whole : Prop} (grouped : g.redisClient_.connected_ = true → w.redis.commands.group ≠ none)
    (fate : RedisClient.XaddFate) (deviceId command params : Bytes) :
    Takes w (g.enqueueCommand fate w.now w.now w deviceId command params).2.2
      (if (g.redisClient_.connected_ ∧ g.redisClient_.answers) ∧ fate ≠ .refused then
        [GatewayServer.apiCommand w.now deviceId command params] else []) whole [] := by
  unfold GatewayServer.enqueueCommand RedisClient.publishCommand
  dsimp only
  by_cases works : g.redisClient_.connected_ ∧ g.redisClient_.answers
  · rw [if_pos works]
    have added := progress_add (tally w) (w.now / 1000)
      (RedisClient.xaddFields (GatewayServer.apiCommand w.now deviceId command params) w.now) (grouped works.1)
    cases fate with
    | answered | replyLost =>
      rw [if_pos ⟨works, by decide⟩]
      exact ⟨_, [], [], [], added, rfl, .slnil, fun _ => rfl, .nil, .slnil⟩
    | refused =>
      rw [if_neg fun both => both.2 rfl]
      exact .of_tally rfl
  · rw [if_neg works, if_neg fun both => works both.1]
    exact .of_tally rfl

theorem progress_crossNodeCommand (cmd : Command) :
    Progress (tally w) (tally (g.processCrossNodeCommand n w { cmd with streamId := [] }).2) [] [] [] := by
  rcases tally_sendCommandToDevice n g w { cmd with streamId := [] } with same | acked
  · exact .of_eq same
  · have nothing := (Progress.refl (tally w)).acks []
    rw [if_pos rfl] at nothing
    rw [show tally (g.processCrossNodeCommand n w { cmd with streamId := [] }).2 = (tally w).ack [] from acked]
    exact nothing

theorem progress_start (begun : w.redis.commands.group = none → w.redis.commands.entries = []) (reach : Reach)
    (mqttPort : UInt16) : Progress (tally w) (tally (g.start n reach mqttPort w).2) [] [] [] := by
  have connected := view_connect g.redisClient_ w (Sees.blind sees_tally rfl) n reach
  rw [view_joined n g w (Sees.blind sees_tally rfl), ← connected]
  have same : (g.redisClient_.connect n reach w).2.redis.commands = w.redis.commands := congrArg Prod.fst connected
  unfold RedisClient.initConsumerGroup
  split
  · refine progress_createGroup (tally _) ?_
    rw [show (tally (g.redisClient_.connect n reach w).2).1 = w.redis.commands from same]
    exact begun
  · exact .refl _

end Node

/-! ### Runs -/

/-- Every reply that a node reads can be read. -/
def WholeBatches (s : System) : Event → Prop
  | .node n (.processCommand reach junk) => WholeBatch n (s.nodes n) s.world reach junk
  | _ => True

theorem takes_nodeStep {s : System} {n : NodeId} (e : NodeEvent) (running : (s.nodes n).running_ = true)
    (grouped : (s.nodes n).redisClient_.connected_ = true → s.world.redis.commands.group ≠ none) :
    Takes s.world ((s.nodes n).nodeStep n s.world e).2 (posted s (.node n e)) (WholeBatches s (.node n e))
      (taken s (.node n e)) := by
  cases e with
  | processCommand reach junk =>
    have takes := takes_processCommand n _ s.world reach junk running
    simp only [GatewayServer.nodeStep, taken, running, if_true]
    split
    · rename_i done
      rw [done] at takes
      exact takes
    · rename_i failed
      rw [failed] at takes
      exact takes
  | crossNodeCommand cmd => exact .of_progress (progress_crossNodeCommand n _ _ cmd)
  | enqueueCommand fate deviceId command params =>
    have takes := @takes_enqueueCommand (s.nodes n) s.world (WholeBatches s (.node n (.enqueueCommand fate deviceId command
      params))) grouped fate deviceId command params
    simp only [posted, running, true_and]
    exact takes
  | _ => exact .of_tally (view_nodeStep n _ _ (Sees.blind sees_tally rfl))

/-- A node that is connected finds a consumer group, and nothing is in the stream before there is one. -/
structure Grouped (s : System) : Prop where
  group : ∀ n, (s.nodes n).redisClient_.connected_ = true → s.world.redis.commands.group ≠ none
  begun : s.world.redis.commands.group = none → s.world.redis.commands.entries = []

theorem takes_step {s : System} (grouped : Grouped s) (e : Event) :
    Takes s.world (s.step e).world (posted s e) (WholeBatches s e) (taken s e) := by
  cases e with
  | tick delta => exact .of_tally rfl
  | start n reach mqttPort =>
    simp only [System.step]
    split
    · exact .of_tally rfl
    · exact .of_progress (progress_start n _ _ grouped.begun reach mqttPort)
  | node n event =>
    simp only [System.step]
    split
    · rename_i running
      exact takes_nodeStep event running (grouped.group n)
    · rename_i down
      have nothing : posted s (.node n event) = [] ∧ taken s (.node n event) = [] := by
        cases event with
        | enqueueCommand => exact ⟨if_neg fun both => down both.1, rfl⟩
        | processCommand => exact ⟨rfl, if_neg down⟩
        | _ => exact ⟨rfl, rfl⟩
      rw [nothing.1, nothing.2]
      exact .of_tally rfl

theorem Grouped.step {s : System} (grouped : Grouped s) (e : Event) : Grouped (s.step e) := by
  obtain ⟨_, _, _, _, dealt⟩ := takes_step grouped e
  refine ⟨fun n connected => ?_, dealt.progress.begun grouped.begun⟩
  have kept : (s.nodes n).redisClient_.connected_ = true → (s.step e).world.redis.commands.group ≠ none :=
    fun before => dealt.progress.group (grouped.group n before)
  rcases s.step_nodes_cases e n with same | ⟨reach, mqttPort, rfl, down, started⟩ | ⟨event, rfl, -, stepped⟩
  · rw [same] at connected
    exact kept connected
  · have fresh : s.step (.start n reach mqttPort) = s.update n ((s.nodes n).start n reach mqttPort s.world) :=
      if_neg (by rw [down]; exact Bool.false_ne_true)
    rw [started] at connected
    rw [fresh]
    exact grouped_start n _ _ (grouped.group n) connected
  · rw [stepped] at connected
    exact kept (connected_nodeStep n _ _ connected)

/-- What the nodes have taken from the stream so far, and what has become of it. -/
structure Once (commands : List Command) (s : System) : Prop where
  grouped : Grouped s
  taken : ∃ chosen : List CommandEntry, chosen.Sublist s.world.redis.commands.given ∧ List.Forall₂ ReadIn commands chosen
  acked : (acked s.world).Sublist (commands.map (·.streamId))
  pending : ∀ e ∈ s.world.redis.commands.given, s.world.redis.commands.Outstanding e.id ↔ e.id.text ∉ Gateway.acked s.world

theorem once_new : Once [] System.new where
  grouped := ⟨fun _ connected => (by cases connected), fun _ => rfl⟩
  taken := ⟨[], List.nil_sublist _, .nil⟩
  acked := List.nil_sublist _
  pending := fun e given => by cases given

theorem streamIds_of_readIn {commands : List Command} {chosen : List CommandEntry}
    (readIn : List.Forall₂ ReadIn commands chosen) : commands.map (·.streamId) = chosen.map (·.id.text) := by
  induction readIn with
  | nil => rfl
  | cons first _ ih =>
    obtain ⟨junk, now, read⟩ := first
    rw [List.map_cons, List.map_cons, ih, (carries_of_readEntry read).streamId]

theorem Once.step {commands : List Command} {s : System} (once : Once commands s) (e : Event) :
    Once (commands ++ Gateway.taken s e) (s.step e) := by
  obtain ⟨added, read, chosen, acks, dealt⟩ := takes_step once.grouped e
  obtain ⟨before, early, readBefore⟩ := once.taken
  have given : (s.step e).world.redis.commands.given = s.world.redis.commands.given ++ read := dealt.progress.given
  have acked : Gateway.acked (s.step e).world = Gateway.acked s.world ++ acks := dealt.progress.acked
  have apart := (s.step e).world.redis.commands.nodup_given
  rw [given, List.map_append, List.nodup_append] at apart
  have old : ∀ e ∈ s.world.redis.commands.given, e.id ∉ read.map (·.id) :=
    fun e member again => apart.2.2 _ (List.mem_map_of_mem member) _ again rfl
  refine ⟨once.grouped.step e, ⟨before ++ chosen, ?_, List.rel_append readBefore dealt.readIn⟩, ?_, ?_⟩
  · rw [given]
    exact early.append dealt.among
  · rw [acked, List.map_append]
    exact once.acked.append dealt.acks
  · intro e member
    rw [given] at member
    rw [acked, List.mem_append, not_or]
    refine (dealt.progress.outstanding e.id).trans (and_congr_left fun _ => ?_)
    rcases List.mem_append.mp member with before | fresh
    · rw [or_iff_left (old e before)]
      exact once.pending e before
    · refine iff_of_true (Or.inr (List.mem_map_of_mem fresh)) fun acked => ?_
      -- what was acknowledged before this step had been read before it
      have named := once.acked.subset acked
      rw [streamIds_of_readIn readBefore] at named
      obtain ⟨e', member', same⟩ := List.mem_map.mp named
      exact old e' (early.subset member') (StreamId.text_injective same ▸ List.mem_map_of_mem fresh)

theorem once_run (events : List Event) :
    Once (produced System.step taken System.new events) (run System.step System.new events) :=
  run_produced_always System.step once_new (fun _ _ e once => once.step e) events

/-- As long as nothing is lost, every entry that was handed out was taken. -/
theorem readIn_step {commands : List Command} {s : System} (once : Once commands s) {e : Event} (legible : WholeBatches s e)
    (all : List.Forall₂ ReadIn commands s.world.redis.commands.given) :
    List.Forall₂ ReadIn (commands ++ Gateway.taken s e) (s.step e).world.redis.commands.given := by
  obtain ⟨added, read, chosen, acks, dealt⟩ := takes_step once.grouped e
  have given : (s.step e).world.redis.commands.given = s.world.redis.commands.given ++ read := dealt.progress.given
  rw [given, ← dealt.whole legible]
  exact List.rel_append all dealt.readIn

/-- The stream holds what was posted, in order. -/
theorem posted_run (events : List Event) :
    (run System.step System.new events).world.redis.commands.entries.map (·.fields) =
      (produced System.step posted System.new events).map fun cmd => RedisClient.xaddFields cmd cmd.id := by
  let Holds : List Command → System → Prop := fun posts s => Grouped s ∧
    s.world.redis.commands.entries.map (·.fields) = posts.map fun cmd => RedisClient.xaddFields cmd cmd.id
  have start : Holds [] System.new := ⟨once_new.grouped, rfl⟩
  have kept : ∀ posts s e, Holds posts s → Holds (posts ++ posted s e) (s.step e) := by
    intro posts s e before
    obtain ⟨added, _, _, _, dealt⟩ := takes_step before.1 e
    have entries : (s.step e).world.redis.commands.entries = s.world.redis.commands.entries ++ added :=
      dealt.progress.entries
    refine ⟨before.1.step e, ?_⟩
    rw [entries, List.map_append, List.map_append, before.2, dealt.posts]
  exact (run_produced_always System.step start kept events).2

end IotGateway.Gateway
