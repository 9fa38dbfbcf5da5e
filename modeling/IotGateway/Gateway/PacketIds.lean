import IotGateway.Lib.Run
import IotGateway.Gateway.CommandFrame

/-!
# Packet ids of commands

`s_packetId` is a static variable of `sendCommandToDevice`. Nothing else touches it, so what
happens between two calls is left open.
-/

namespace IotGateway.Gateway
open Storage
open GatewayServer (commandFrame nextPacketId)

/-- A call of `sendCommandToDevice`, whatever the server and the world have become by then. -/
structure SendCall where
  node : NodeId
  server : GatewayServer
  world : World
  cmd : Command

/-- The static variable, and the frames that were given to connections with the commands they are for. -/
structure Sends where
  s_packetId : UInt16 := 0
  sent : List (Command × Bytes) := []

namespace Sends

/-- The frames that were given to connections from one moment to another. -/
def framesSince (w w' : World) : List Bytes :=
  (w'.log.take (w'.log.length - w.log.length)).filterMap fun
    | .frame _ _ bytes => some bytes
    | _ => none

/-- The server of a call, with the variable as the calls before have left it. -/
def callee (s : Sends) (call : SendCall) : GatewayServer := { call.server with s_packetId := s.s_packetId }

def step (s : Sends) (call : SendCall) : Sends :=
  let (_, g, w) := (s.callee call).sendCommandToDevice call.node call.world call.cmd
  ⟨g.s_packetId, s.sent ++ (framesSince call.world w).map fun bytes => (call.cmd, bytes)⟩

/-- The id of a send, counted from zero. -/
def packetIdAt (k : Nat) : UInt16 := UInt16.ofNat (k % 65535 + 1)

theorem toNat_packetIdAt (k : Nat) : (packetIdAt k).toNat = k % 65535 + 1 := by
  rw [packetIdAt, UInt16.toNat_ofNat']
  omega

/-- The counter goes around without zero. -/
theorem toNat_nextPacketId (last : UInt16) : (nextPacketId last).toNat = last.toNat % 65535 + 1 := by
  have bound := last.toNat_lt
  unfold nextPacketId
  split
  · rename_i wrapped
    have zero : (last + 1).toNat = 0 := by rw [wrapped]; rfl
    rw [UInt16.toNat_add] at zero ⊢
    simp only [UInt16.toNat_one, UInt16.reduceToNat] at zero ⊢
    omega
  · rename_i counted
    have nonzero : (last + 1).toNat ≠ 0 := fun zero => counted (UInt16.toNat_inj.mp zero)
    rw [UInt16.toNat_add] at nonzero ⊢
    simp only [UInt16.toNat_one] at nonzero ⊢
    omega

theorem framesSince_sendCommandToDevice {g : GatewayServer} {cmd : Command} {device : DeviceInfo} (n : NodeId)
    (found : g.deviceMgr_.findDevice g.conns cmd.deviceId = some device) (w : World) :
    framesSince w (g.sendCommandToDevice n w cmd).2.2 = [commandFrame cmd (nextPacketId g.s_packetId)] := by
  rw [GatewayServer.sendCommandToDevice_some n found]
  unfold framesSince RedisClient.markCommandSent RedisClient.ackCommand
  by_cases up : g.redisClient_.connected_ = true ∧ g.redisClient_.answers = true
  · have added : w.log.length + 1 + 1 - w.log.length = 2 := by omega
    simp [up, World.record, added]
  · simp [up, World.record]

/-- The frame that was sent for the command has this packet id. -/
def Carries (send : Command × Bytes) (id : UInt16) : Prop := send.2 = commandFrame send.1 id

theorem Carries.unique {send : Command × Bytes} {first second : UInt16} (one : Carries send first)
    (other : Carries send second) : first = second :=
  commandFrame_injective send.1 (one.symm.trans other)

/-- The frames carry the ids of their positions, and the counter stands at their number. -/
structure Counts (s : Sends) : Prop where
  frames : ∀ (k : Nat) (send : Command × Bytes), s.sent[k]? = some send → Carries send (packetIdAt k)
  counter : s.s_packetId.toNat % 65535 = s.sent.length % 65535

theorem counts_new : Counts {} where
  frames := by
    intro k send here
    cases here
  counter := rfl

theorem Counts.step {s : Sends} (counts : Counts s) (call : SendCall) : Counts (s.step call) := by
  cases found : (s.callee call).deviceMgr_.findDevice (s.callee call).conns call.cmd.deviceId with
  | none =>
    have same : s.step call = s := by
      unfold Sends.step
      rw [GatewayServer.sendCommandToDevice_none call.node found]
      simp [framesSince, callee]
    rw [same]
    exact counts
  | some device =>
    have sends : s.step call = ⟨nextPacketId s.s_packetId,
        s.sent ++ [(call.cmd, commandFrame call.cmd (nextPacketId s.s_packetId))]⟩ := by
      have frames := framesSince_sendCommandToDevice call.node found call.world
      unfold Sends.step
      dsimp only
      rw [frames, GatewayServer.sendCommandToDevice_some call.node found]
      rfl
    have next : nextPacketId s.s_packetId = packetIdAt s.sent.length := by
      apply UInt16.toNat_inj.mp
      rw [toNat_nextPacketId, toNat_packetIdAt, counts.counter]
    rw [sends]
    constructor
    · intro k send here
      by_cases earlier : k < s.sent.length
      · rw [List.getElem?_append_left earlier] at here
        exact counts.frames k send here
      · obtain ⟨inside, last⟩ := List.getElem?_eq_some_iff.mp here
        obtain rfl : k = s.sent.length := by
          rw [List.length_append, List.length_singleton] at inside
          omega
        rw [List.getElem_concat_length rfl] at last
        rw [← last, Carries, next]
    · rw [toNat_nextPacketId, counts.counter, List.length_append, List.length_singleton]
      omega

/-- Every frame of a command carries one id, which is not zero, and frames fewer than 65535 sends apart carry different
ones. -/
theorem packetIds_apart (calls : List SendCall) :
    let sent := (run step {} calls).sent
    (∀ send ∈ sent, (∃! id, Carries send id) ∧ ¬ Carries send 0) ∧
      ∀ (i j : Nat) (first second : Command × Bytes) (id : UInt16), i < j → j - i < 65535 →
        sent[i]? = some first → sent[j]? = some second → Carries first id → ¬ Carries second id := by
  intro sent
  have counts : Counts (run step {} calls) :=
    run_kept step Counts counts_new (fun _ call before => before.step call) calls
  constructor
  · intro send member
    obtain ⟨k, here⟩ := List.mem_iff_getElem?.mp member
    have numbered := counts.frames k send here
    refine ⟨⟨packetIdAt k, numbered, fun _ other => other.unique numbered⟩, ?_⟩
    intro zero
    have value := toNat_packetIdAt k
    rw [numbered.unique zero] at value
    cases value
  · intro i j first second id before near here there one other
    have same : packetIdAt i = packetIdAt j :=
      ((counts.frames i first here).unique one).trans (other.unique (counts.frames j second there))
    have positions := congrArg UInt16.toNat same
    rw [toNat_packetIdAt, toNat_packetIdAt] at positions
    omega

def twoSends : List SendCall := List.replicate 2 ⟨gateway1, sensorNode, ⟨0, .new, []⟩, shortCommand⟩

theorem twoSends_apart : ∃ second, (run step {} twoSends).sent[1]? = some second ∧ ¬ Carries second 1 := by
  have first : (run step {} twoSends).sent[0]? = some (shortCommand, commandFrame shortCommand 1) := by decide +kernel
  have second : (run step {} twoSends).sent[1]? = some (shortCommand, commandFrame shortCommand 2) := by decide +kernel
  have carries : Carries (shortCommand, commandFrame shortCommand 1) 1 := by simp only [Carries]
  obtain ⟨-, apart⟩ := packetIds_apart twoSends
  exact ⟨_, second, apart 0 1 _ _ 1 (by decide) (by decide) first second carries⟩

end Sends
end IotGateway.Gateway
