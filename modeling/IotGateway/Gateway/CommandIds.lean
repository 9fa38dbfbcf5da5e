import IotGateway.Storage.CommandStatus
import IotGateway.Gateway.System

/-!
# The ids of commands

`enqueueCommand` takes the id of a command from the clock, on every node for itself, and
the status of the command is kept under it. The ids tell the commands apart exactly when
the clock has advanced from each call to the next.
-/

namespace IotGateway.Gateway
open Text Storage

/-- A call of `enqueueCommand` on a node, with the two readings of the clock that it takes. -/
structure EnqueueCall where
  node : NodeId
  fate : RedisClient.XaddFate
  cmdId : Int
  ts : Int
  deviceId : Bytes
  command : Bytes
  params : Bytes

/-- What the calls return, one after another. -/
def returnedIds : System → List EnqueueCall → List Int
  | _, [] => []
  | s, call :: calls =>
    let (id, result) := (s.nodes call.node).enqueueCommand call.fate call.cmdId call.ts s.world call.deviceId call.command
      call.params
    id :: returnedIds (s.update call.node result) calls

theorem returnedIds_eq (s : System) (calls : List EnqueueCall) : returnedIds s calls = calls.map (·.cmdId) := by
  induction calls generalizing s with
  | nil => rfl
  | cons call calls ih => exact congrArg (List.cons call.cmdId) (ih _)

/-! ### Marks of different commands -/

/-- What the store keeps about a command is the same. -/
def SameCommand (id : Int) (w w' : World) : Prop :=
  w'.redis.cmd id = w.redis.cmd id ∧ w'.redis.cmdPending.lookup id = w.redis.cmdPending.lookup id

/-- No mark of the first command shows in what is kept about the second one. -/
def Apart (a b : Int) : Prop :=
  ∀ (c : RedisClient) (w : World) (text : Bytes), SameCommand b w (c.markCommandSent w a) ∧
    SameCommand b w (c.markCommandFailed w a text) ∧ SameCommand b w (c.markCommandCompleted w a text)

/-- The ids differ, and what is written under one of them belongs to its own command only. -/
def Identify (a b : Int) : Prop := a ≠ b ∧ Apart a b ∧ Apart b a

theorem sameCommand_hset (mark : Mark) {a b : Int} (different : b ≠ a) (w : World) : SameCommand b w (mark.hset a w) :=
  ⟨if_neg different, rfl⟩

theorem sameCommand_updatePending (mark : Mark) {a b : Int} (different : b ≠ a) (w : World) :
    SameCommand b w (mark.updatePending a w) := by
  refine ⟨rfl, ?_⟩
  cases mark with
  | sent now => exact AList.lookup_insert_ne different
  | failed | completed => exact AList.lookup_erase_ne different

theorem sameCommand_expire {a b : Int} (different : b ≠ a) (w : World) : SameCommand b w (Mark.expire a w) :=
  ⟨if_neg different, rfl⟩

theorem SameCommand.trans {id : Int} {w₁ w₂ w₃ : World} (first : SameCommand id w₁ w₂) (second : SameCommand id w₂ w₃) :
    SameCommand id w₁ w₃ := ⟨second.1.trans first.1, second.2.trans first.2⟩

theorem sameCommand_whole (mark : Mark) {a b : Int} (different : b ≠ a) (w : World) : SameCommand b w (mark.whole a w) := by
  have both := (sameCommand_hset mark different w).trans (sameCommand_updatePending mark different (mark.hset a w))
  cases mark with
  | sent | failed => exact both
  | completed => exact both.trans (sameCommand_expire different _)

theorem apart_of_ne {a b : Int} (different : b ≠ a) : Apart a b := by
  intro c w text
  by_cases up : c.connected_ ∧ c.answers
  · rw [markCommandSent_eq up, markCommandFailed_eq up, markCommandCompleted_eq up]
    exact ⟨sameCommand_whole _ different w, sameCommand_whole _ different w, sameCommand_whole _ different w⟩
  · rw [RedisClient.markCommandSent, RedisClient.markCommandFailed, RedisClient.markCommandCompleted, if_neg up, if_neg up,
      if_neg up]
    exact ⟨⟨rfl, rfl⟩, ⟨rfl, rfl⟩, ⟨rfl, rfl⟩⟩

theorem identify_iff {a b : Int} : Identify a b ↔ a ≠ b :=
  ⟨fun identify => identify.1, fun different => ⟨different, apart_of_ne different.symm, apart_of_ne different⟩⟩

/-- Any calls on any nodes, with a clock that does not go back. -/
theorem ids_identify_iff (s : System) (calls : List EnqueueCall) (forward : (calls.map (·.cmdId)).IsChain (· ≤ ·)) :
    (returnedIds s calls).Pairwise Identify ↔ (calls.map (·.cmdId)).IsChain (· < ·) := by
  rw [returnedIds_eq, List.isChain_iff_pairwise]
  have sorted := List.isChain_iff_pairwise.mp forward
  constructor
  · intro identified
    refine (sorted.and identified).imp ?_
    rintro a b ⟨le, identify⟩
    exact lt_of_le_of_ne le identify.1
  · intro increasing
    refine increasing.imp ?_
    intro a b less
    exact identify_iff.mpr less.ne

def lampOn (node : NodeId) (cmdId : Int) : EnqueueCall :=
  ⟨node, .answered, cmdId, cmdId, lamp, ascii "on", ascii "\x7b\x7d"⟩

theorem ids_identify_two_nodes :
    (returnedIds (run System.step System.new startBoth) [lampOn gateway1 1, lampOn gateway2 2]).Pairwise Identify :=
  (ids_identify_iff _ _ (by decide)).mpr (by decide)

/-- Two nodes that take a command in the same microsecond give it the same id. -/
theorem ids_same_microsecond :
    ([lampOn gateway1 1, lampOn gateway2 1].map (·.cmdId)).IsChain (· ≤ ·) ∧
      ¬ (returnedIds (run System.step System.new startBoth) [lampOn gateway1 1, lampOn gateway2 1]).Pairwise Identify := by
  refine ⟨by decide, ?_⟩
  intro identified
  have different := (List.pairwise_cons.mp identified).1 1 List.mem_cons_self
  exact different.1 rfl

end IotGateway.Gateway
