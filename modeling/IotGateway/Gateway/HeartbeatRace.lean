import IotGateway.Lib.Run
import IotGateway.Gateway.System
import IotGateway.Gateway.RegistryRecord

/-!
# Heartbeats between registrations

`updateDeviceHeartbeat` reads the record of a device, edits the text and writes it back.
The read and the write are two commands, and those of other nodes come between them: the
record written back may be one that has been removed or replaced. A device keeps the
record of its last registration as long as no write comes after a registration or a
removal that its read has not seen.
-/

namespace IotGateway.Gateway
open Text Redis Storage

/-- A command that `registerDevice` or `unregisterDevice` has executed for some device. -/
inductive RegistryCommand where
  | register (node : NodeId) (keepAlive : Int)
  | unregister
  deriving DecidableEq

/-- An `updateDeviceHeartbeat` between its two commands. -/
structure Heartbeat where
  field : Bytes
  json : Bytes
  /-- The number of registrations and removals of the device before the read. -/
  seen : Nat
  deriving DecidableEq

/-- The registry, the heartbeats that are going on, and the commands executed so far, newest first. -/
structure RegistryRace where
  world : World := ⟨0, .new, []⟩
  heartbeats : List Heartbeat := []
  executed : List (Bytes × RegistryCommand) := []

inductive RegistryEvent where
  | tick (delta : Nat)
  | registerDevice (clientId : Bytes) (node : NodeId) (keepAlive : Int)
  | unregisterDevice (clientId : Bytes)
  /-- The `HGET`, by a node that has read the clock before. -/
  | heartbeatRead (clientId : Bytes) (now : Int)
  /-- The `HSET` of the heartbeat at this position. -/
  | heartbeatWrite (i : Nat)

namespace RegistryRace

def working : RedisClient := { connected_ := true, conn_ := some .up, subConn_ := some .up }

def commandsFor (s : RegistryRace) (field : Bytes) : List RegistryCommand :=
  (s.executed.filter fun entry => entry.1 = field).map (·.2)

def record (s : RegistryRace) (field : Bytes) : Option Bytes := s.world.redis.devices.get s.world.now field

def execute (s : RegistryRace) (world : World) (field : Bytes) (command : RegistryCommand) : RegistryRace :=
  { s with world, executed := (field, command) :: s.executed }

def writeBack (s : RegistryRace) (i : Nat) (heartbeat : Heartbeat) : RegistryRace :=
  let devices := s.world.redis.devices.set s.world.now heartbeat.field heartbeat.json
  { s with
    world := { s.world with redis := { s.world.redis with devices } }
    heartbeats := s.heartbeats.eraseIdx i }

def step (s : RegistryRace) : RegistryEvent → RegistryRace
  | .tick delta => { s with world := { s.world with now := s.world.now + delta } }
  | .registerDevice clientId node keepAlive =>
    s.execute (working.registerDevice s.world clientId node.text keepAlive) (cstr clientId) (.register node keepAlive)
  | .unregisterDevice clientId =>
    s.execute (working.unregisterDevice s.world clientId) (cstr clientId) .unregister
  | .heartbeatRead clientId now =>
    match (s.record (cstr clientId)).bind (RedisClient.replaceHeartbeat · now) with
    | none => s
    | some json =>
      let field := cstr clientId
      { s with heartbeats := ⟨field, cstr json, (s.commandsFor field).length⟩ :: s.heartbeats }
  | .heartbeatWrite i =>
    match s.heartbeats[i]? with
    | none => s
    | some heartbeat => s.writeBack i heartbeat

/-- With nothing in between, the two commands are `updateDeviceHeartbeat`. -/
theorem read_write (s : RegistryRace) (clientId : Bytes)
    (found : ((s.record (cstr clientId)).bind (RedisClient.replaceHeartbeat · (s.world.now / kSecond))).isSome) :
    (run step s [.heartbeatRead clientId (s.world.now / kSecond), .heartbeatWrite 0]).world =
      working.updateDeviceHeartbeat s.world clientId := by
  obtain ⟨json, edited⟩ := Option.isSome_iff_exists.mp found
  have touched : RedisClient.touchRecord s.world.now (cstr clientId) s.world.redis.devices =
      s.world.redis.devices.set s.world.now (cstr clientId) (cstr json) := by
    unfold RedisClient.touchRecord
    rw [show s.world.redis.devices.get s.world.now (cstr clientId) = s.record (cstr clientId) from rfl, edited]
  rw [run_cons, run_cons, run_nil]
  simp only [step, edited, List.getElem?_cons_zero, writeBack, RedisClient.updateDeviceHeartbeat, touched]
  rfl

/-! ### The record of a device -/

/-- The device is registered if its last command was a registration, and then with the node and the keep-alive time
of that one. -/
def Registered (s : RegistryRace) (field : Bytes) : Prop :=
  match (s.commandsFor field).head? with
  | some (.register node keepAlive) =>
    ∃ heartbeat, s.record field = some (RedisClient.registryText node.text heartbeat keepAlive)
  | some .unregister | none => s.record field = none

/-- No write brings back a record older than the last registration or removal, and no registration prints a record that
is cut off or that hides the member `heartbeat`. -/
def Undisturbed (s : RegistryRace) : RegistryEvent → Prop
  | .registerDevice _ node keepAlive =>
    PlainRecord node ∧ (RedisClient.registryText node.text (s.world.now / kSecond) keepAlive).length ≤ 511
  | .heartbeatWrite i =>
    ∀ heartbeat ∈ s.heartbeats[i]?, heartbeat.seen = (s.commandsFor heartbeat.field).length
  | _ => True

instance (s : RegistryRace) : DecidablePred s.Undisturbed
  | .registerDevice _ _ _ => inferInstanceAs (Decidable (_ ∧ _))
  | .heartbeatWrite i => inferInstanceAs (Decidable (∀ heartbeat ∈ s.heartbeats[i]?, _))
  | .tick _ | .unregisterDevice _ | .heartbeatRead _ _ => isTrue trivial

structure Consistent (s : RegistryRace) : Prop where
  persistent : s.world.redis.devices.expireAt = none
  registered : ∀ field, s.Registered field
  plain : ∀ field node keepAlive, .register node keepAlive ∈ s.commandsFor field → PlainRecord node
  seen_le : ∀ heartbeat ∈ s.heartbeats, heartbeat.seen ≤ (s.commandsFor heartbeat.field).length
  -- what an undisturbed heartbeat is going to write
  current : ∀ heartbeat ∈ s.heartbeats, heartbeat.seen = (s.commandsFor heartbeat.field).length →
    ∃ node keepAlive time, (s.commandsFor heartbeat.field).head? = some (.register node keepAlive) ∧
      heartbeat.json = RedisClient.registryText node.text time keepAlive

theorem consistent_new : Consistent {} where
  persistent := rfl
  registered := fun _ => Hash.get_empty _ _
  plain := fun _ _ _ member => absurd member List.not_mem_nil
  seen_le := fun _ member => absurd member List.not_mem_nil
  current := fun _ member => absurd member List.not_mem_nil

theorem record_of_persistent {s : RegistryRace} (persistent : s.world.redis.devices.expireAt = none) (field : Bytes) :
    s.record field = s.world.redis.devices.fields.lookup field := Hash.get_of_persistent persistent _ _

theorem Consistent.tick {s : RegistryRace} (consistent : Consistent s) (delta : Nat) :
    Consistent { s with world := { s.world with now := s.world.now + delta } } where
  persistent := consistent.persistent
  registered := by
    intro field
    have same : record { s with world := { s.world with now := s.world.now + delta } } field = s.record field := by
      rw [record_of_persistent consistent.persistent]
      exact record_of_persistent (s := { s with world := { s.world with now := s.world.now + delta } })
        consistent.persistent field
    have before := consistent.registered field
    unfold Registered at before ⊢
    rw [same]
    exact before
  plain := consistent.plain
  seen_le := consistent.seen_le
  current := consistent.current

/-! ### One more command -/

section Execute

variable (s : RegistryRace) (world : World) (field : Bytes) (command : RegistryCommand)

theorem commandsFor_execute_self : (s.execute world field command).commandsFor field = command :: s.commandsFor field := by
  simp [execute, commandsFor]

theorem commandsFor_execute_ne {other : Bytes} (different : other ≠ field) :
    (s.execute world field command).commandsFor other = s.commandsFor other := by
  simp [execute, commandsFor, different.symm]

/-- What a command leaves in the registry for its device. -/
def Leaves : Option Bytes → RegistryCommand → Prop
  | record, .register node keepAlive => ∃ heartbeat, record = some (RedisClient.registryText node.text heartbeat keepAlive)
  | record, .unregister => record = none

variable {s world field command}

theorem Consistent.execute (consistent : Consistent s) (persistent : world.redis.devices.expireAt = none)
    (others : ∀ other ≠ field, world.redis.devices.get world.now other = s.record other)
    (here : Leaves (world.redis.devices.get world.now field) command)
    (plain : ∀ node keepAlive, command = .register node keepAlive → PlainRecord node) :
    Consistent (s.execute world field command) where
  persistent := persistent
  registered := by
    intro other
    rcases eq_or_ne other field with rfl | different
    · unfold Registered
      rw [commandsFor_execute_self, List.head?_cons]
      cases command with
      | register node keepAlive => exact here
      | unregister => exact here
    · have before := consistent.registered other
      unfold Registered at before ⊢
      rw [commandsFor_execute_ne _ _ _ _ different]
      rw [show (s.execute world field command).record other = s.record other from others other different]
      exact before
  plain := by
    intro other node keepAlive member
    rcases eq_or_ne other field with rfl | different
    · rw [commandsFor_execute_self] at member
      rcases List.mem_cons.mp member with new | old
      · exact plain node keepAlive new.symm
      · exact consistent.plain other node keepAlive old
    · rw [commandsFor_execute_ne _ _ _ _ different] at member
      exact consistent.plain other node keepAlive member
  seen_le := by
    intro heartbeat member
    have before := consistent.seen_le heartbeat member
    rcases eq_or_ne heartbeat.field field with same | different
    · rw [same] at before
      rw [same, commandsFor_execute_self, List.length_cons]
      omega
    · rw [commandsFor_execute_ne _ _ _ _ different]
      exact before
  current := by
    intro heartbeat member undisturbed
    rcases eq_or_ne heartbeat.field field with same | different
    · -- the read has not seen the new command
      have before := consistent.seen_le heartbeat member
      rw [same] at before
      rw [same, commandsFor_execute_self, List.length_cons] at undisturbed
      omega
    · rw [commandsFor_execute_ne _ _ _ _ different] at undisturbed ⊢
      exact consistent.current heartbeat member undisturbed

end Execute

theorem Consistent.registerDevice {s : RegistryRace} (consistent : Consistent s) (clientId : Bytes) {node : NodeId}
    {keepAlive : Int} (plain : PlainRecord node)
    (fits : (RedisClient.registryText node.text (s.world.now / kSecond) keepAlive).length ≤ 511) :
    Consistent (s.execute (working.registerDevice s.world clientId node.text keepAlive) (cstr clientId)
      (.register node keepAlive)) := by
  have whole : snprintf 512 (RedisClient.registryText node.text (s.world.now / kSecond) keepAlive) =
      RedisClient.registryText node.text (s.world.now / kSecond) keepAlive := List.take_of_length_le fits
  refine consistent.execute (Hash.persistent_set consistent.persistent _ _ _) ?_ ?_ ?_
  · intro other different
    exact Hash.get_set_ne _ _ _ different
  · refine ⟨s.world.now / kSecond, ?_⟩
    exact (Hash.get_set_self _ _ _ _).trans (congrArg some whole)
  · intro _ _ same
    cases same
    exact plain

theorem Consistent.unregisterDevice {s : RegistryRace} (consistent : Consistent s) (clientId : Bytes) :
    Consistent (s.execute (working.unregisterDevice s.world clientId) (cstr clientId) .unregister) := by
  refine consistent.execute (Hash.persistent_erase consistent.persistent _ _) ?_ ?_ ?_
  · intro other different
    exact Hash.get_erase_ne _ _ different
  · exact Hash.get_erase_self _ _ _
  · intro _ _ same
    cases same

/-! ### The two commands of a heartbeat -/

theorem Consistent.heartbeatRead {s : RegistryRace} (consistent : Consistent s) {field json : Bytes} {now : Int}
    (edited : (s.record field).bind (RedisClient.replaceHeartbeat · now) = some json) :
    Consistent { s with heartbeats := ⟨field, cstr json, (s.commandsFor field).length⟩ :: s.heartbeats } where
  persistent := consistent.persistent
  registered := consistent.registered
  plain := consistent.plain
  seen_le := by
    intro heartbeat member
    rcases List.mem_cons.mp member with rfl | old
    · exact le_rfl
    · exact consistent.seen_le heartbeat old
  current := by
    intro heartbeat member undisturbed
    rcases List.mem_cons.mp member with rfl | old
    · -- there is a record to edit, so the last command was a registration
      have registered := consistent.registered field
      unfold Registered at registered
      split at registered
      · rename_i node keepAlive last
        obtain ⟨time, found⟩ := registered
        have plain := consistent.plain field node keepAlive (List.mem_of_mem_head? last)
        refine ⟨node, keepAlive, now, last, ?_⟩
        rw [found, Option.bind_some, replaceHeartbeat_registryText plain] at edited
        obtain rfl := Option.some.inj edited
        exact cstr_of_no_nul (registryText_no_nul _ _ _)
      · rw [registered] at edited
        cases edited
      · rw [registered] at edited
        cases edited
    · exact consistent.current heartbeat old undisturbed

theorem Consistent.heartbeatWrite {s : RegistryRace} (consistent : Consistent s) {i : Nat} {heartbeat : Heartbeat}
    (found : s.heartbeats[i]? = some heartbeat) (undisturbed : heartbeat.seen = (s.commandsFor heartbeat.field).length) :
    Consistent (s.writeBack i heartbeat) where
  persistent := Hash.persistent_set consistent.persistent _ _ _
  registered := by
    intro field
    rcases eq_or_ne field heartbeat.field with rfl | different
    · obtain ⟨node, keepAlive, time, last, text⟩ :=
        consistent.current heartbeat (List.mem_of_getElem? found) undisturbed
      have written : (s.writeBack i heartbeat).record heartbeat.field =
          some (RedisClient.registryText node.text time keepAlive) := (Hash.get_set_self _ _ _ _).trans (congrArg some text)
      unfold Registered
      rw [show (s.writeBack i heartbeat).commandsFor = s.commandsFor from rfl, last]
      exact ⟨time, written⟩
    · have before := consistent.registered field
      have same : (s.writeBack i heartbeat).record field = s.record field := Hash.get_set_ne _ _ _ different
      unfold Registered at before ⊢
      rw [show (s.writeBack i heartbeat).commandsFor = s.commandsFor from rfl, same]
      exact before
  plain := consistent.plain
  seen_le := fun other member => consistent.seen_le other (List.mem_of_mem_eraseIdx member)
  current := fun other member => consistent.current other (List.mem_of_mem_eraseIdx member)

theorem Consistent.step {s : RegistryRace} (consistent : Consistent s) {e : RegistryEvent} (undisturbed : s.Undisturbed e) :
    Consistent (s.step e) := by
  cases e with
  | tick delta => exact consistent.tick delta
  | registerDevice clientId node keepAlive => exact consistent.registerDevice clientId undisturbed.1 undisturbed.2
  | unregisterDevice clientId => exact consistent.unregisterDevice clientId
  | heartbeatRead clientId now =>
    unfold RegistryRace.step
    dsimp only
    split
    · exact consistent
    · rename_i json edited
      exact consistent.heartbeatRead edited
  | heartbeatWrite i =>
    unfold RegistryRace.step
    dsimp only
    split
    · exact consistent
    · rename_i heartbeat found
      exact consistent.heartbeatWrite found (undisturbed heartbeat found)

/-- Heartbeats change nothing but the heartbeat, in every interleaving in which no write of a heartbeat comes after a
registration or a removal of the device that its read has not seen. -/
theorem heartbeat_keeps_registration (events : List RegistryEvent) (undisturbed : Meets step Undisturbed {} events)
    (clientId : Bytes) : (run step {} events).Registered (cstr clientId) := by
  have consistent : Consistent (run step {} events) :=
    run_invariant step consistent_new (fun _ _ consistent => consistent.step) undisturbed
  exact consistent.registered _

theorem heartbeat_keeps_registration_moved :
    let events := [RegistryEvent.registerDevice sensor gateway1 60, .heartbeatRead sensor 0, .heartbeatWrite 0,
      .registerDevice sensor gateway2 30, .tick 1000000, .heartbeatRead sensor 1, .heartbeatWrite 0]
    Meets step Undisturbed {} events ∧ (run step {} events).Registered (cstr sensor) := by
  have undisturbed : Meets step Undisturbed {} [RegistryEvent.registerDevice sensor gateway1 60, .heartbeatRead sensor 0,
      .heartbeatWrite 0, .registerDevice sensor gateway2 30, .tick 1000000, .heartbeatRead sensor 1,
      .heartbeatWrite 0] := by decide +kernel
  exact ⟨undisturbed, heartbeat_keeps_registration _ undisturbed sensor⟩

/-- The device leaves between the read and the write of its heartbeat. -/
def overtaken : List RegistryEvent :=
  [.registerDevice sensor gateway1 60, .heartbeatRead sensor 0, .unregisterDevice sensor, .heartbeatWrite 0]

theorem heartbeat_resurrects : ¬ (run step {} overtaken).Registered (cstr sensor) := by
  have last : ((run step {} overtaken).commandsFor (cstr sensor)).head? = some .unregister := by decide +kernel
  have found : (run step {} overtaken).record (cstr sensor) ≠ none := by decide +kernel
  intro registered
  unfold Registered at registered
  rw [last] at registered
  exact found registered

end RegistryRace
end IotGateway.Gateway
