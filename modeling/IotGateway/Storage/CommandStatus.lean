import IotGateway.Lib.Run
import IotGateway.Storage.RedisClient

/-!
# The status of a command and the set of pending ones

`markCommandSent`, `markCommandFailed` and `markCommandCompleted` write the status of a
command with an `HSET` and then put it into `iot:cmd:pending`, or take it out, with a
second command. The commands of other calls come between the two. The set stays in step
with the status of a command as long as the call that is the last to change the set for
it was also the last to write its status, up to calls that write the same.
-/

namespace IotGateway.Storage
open Text Redis

/-- A call of one of the three functions. `sent` carries the second that the caller has read from its clock. -/
inductive Mark where
  | sent (now : Int)
  | failed (reason : Bytes)
  | completed (response : Bytes)
  deriving DecidableEq

namespace Mark

def status : Mark → Bytes
  | .sent _ => ascii "sent"
  | .failed _ => ascii "failed"
  | .completed _ => ascii "completed"

/-- The other field of the `HSET`. -/
def detail : Mark → Bytes × Bytes
  | .sent now => (ascii "sent_at", decimal now)
  | .failed reason => (ascii "reason", cstr reason)
  | .completed response => (ascii "response", cstr response)

def hset (mark : Mark) (id : Int) (w : World) : World :=
  let hash := ((w.redis.cmd id).set w.now (ascii "status") mark.status).set w.now mark.detail.1 mark.detail.2
  { w with redis := RedisClient.setCmd w.redis id hash }

/-- The `ZADD` or the `ZREM`. -/
def updatePending (mark : Mark) (id : Int) (w : World) : World :=
  let cmdPending :=
    match mark with
    | .sent now => w.redis.cmdPending.insert id (now + 30)
    | .failed _ | .completed _ => w.redis.cmdPending.erase id
  { w with redis := { w.redis with cmdPending } }

/-- The `EXPIRE` of `markCommandCompleted`. -/
def expire (id : Int) (w : World) : World :=
  { w with redis := RedisClient.setCmd w.redis id ((w.redis.cmd id).expire w.now (3600 * kSecond)) }

/-- A call with no other commands between its own. -/
def whole (mark : Mark) (id : Int) (w : World) : World :=
  match mark with
  | .completed _ => expire id (mark.updatePending id (mark.hset id w))
  | _ => mark.updatePending id (mark.hset id w)

end Mark

section Whole

variable {c : RedisClient} (up : c.connected_ ∧ c.answers) (w : World) (id : Int)

include up

theorem markCommandSent_eq : c.markCommandSent w id = (Mark.sent (w.now / kSecond)).whole id w := by
  rw [RedisClient.markCommandSent, if_pos up]
  rfl

theorem markCommandFailed_eq (reason : Bytes) : c.markCommandFailed w id reason = (Mark.failed reason).whole id w := by
  rw [RedisClient.markCommandFailed, if_pos up]
  rfl

theorem markCommandCompleted_eq (response : Bytes) :
    c.markCommandCompleted w id response = (Mark.completed response).whole id w := by
  rw [RedisClient.markCommandCompleted, if_pos up]
  simp only [Mark.whole, Mark.expire, Mark.updatePending, Mark.hset, RedisClient.setCmd, Mark.status, Mark.detail, if_true]
  congr 2
  funext i
  split <;> rfl

end Whole

/-! ### Calls that interleave -/

/-- The store, the calls whose `ZADD` or `ZREM` is still to come, and the completed commands whose `EXPIRE` is. The clock
of the store stands still, so that no key expires. -/
structure MarkRace where
  world : World := ⟨0, .new, []⟩
  outstanding : List (Int × Mark) := []
  expiring : List Int := []

/-- One Redis command: the first of a new call, or the next one of the call at this position. -/
inductive MarkEvent where
  | hset (id : Int) (mark : Mark)
  | updatePending (i : Nat)
  | expire (i : Nat)

namespace MarkRace

def step (s : MarkRace) : MarkEvent → MarkRace
  | .hset id mark => { s with world := mark.hset id s.world, outstanding := (id, mark) :: s.outstanding }
  | .updatePending i =>
    match s.outstanding[i]? with
    | none => s
    | some (id, mark) =>
      { world := mark.updatePending id s.world
        outstanding := s.outstanding.eraseIdx i
        expiring :=
          match mark with
          | .completed _ => id :: s.expiring
          | _ => s.expiring }
  | .expire i =>
    match s.expiring[i]? with
    | none => s
    | some id => { s with world := Mark.expire id s.world, expiring := s.expiring.eraseIdx i }

/-- The commands of one call, when no others come between them. -/
def alone (id : Int) (mark : Mark) : List MarkEvent :=
  match mark with
  | .completed _ => [.hset id mark, .updatePending 0, .expire 0]
  | _ => [.hset id mark, .updatePending 0]

theorem world_run_alone (s : MarkRace) (id : Int) (mark : Mark) :
    (run step s (alone id mark)).world = mark.whole id s.world := by
  cases mark <;> rfl

def status (s : MarkRace) (id : Int) : Option Bytes := (s.world.redis.cmd id).get s.world.now (ascii "status")

def InStep (s : MarkRace) (id : Int) : Prop := id ∈ s.world.redis.cmdPending ↔ s.status id = some (ascii "sent")

/-- No call is in progress. -/
def Quiescent (s : MarkRace) : Prop := s.outstanding = [] ∧ s.expiring = []

/-- No call has written the status of the command and not yet changed the set. -/
def Idle (s : MarkRace) (id : Int) : Prop := ∀ call ∈ s.outstanding, call.1 ≠ id

/-- A call that changes the set for a command while no other is about to do so finds the status it has written, or one
that says the same of the set. -/
def OwnStatus (s : MarkRace) : MarkEvent → Prop
  | .updatePending i => ∀ call ∈ s.outstanding[i]?, (∀ other ∈ s.outstanding.eraseIdx i, other.1 ≠ call.1) →
      (call.2.status = ascii "sent" ↔ s.status call.1 = some (ascii "sent"))
  | _ => True

/-! #### What each command does -/

theorem detail_ne_status (mark : Mark) : ascii "status" ≠ mark.detail.1 := by
  cases mark <;> exact fun same => absurd same (by simp only [Mark.detail]; decide)

theorem status_hset_self (mark : Mark) (id : Int) (w : World) :
    ((mark.hset id w).redis.cmd id).get w.now (ascii "status") = some mark.status := by
  simp only [Mark.hset, RedisClient.setCmd, if_true]
  rw [Hash.get_set_ne _ _ _ (detail_ne_status mark), Hash.get_set_self]

theorem cmd_hset_ne (mark : Mark) {id other : Int} (w : World) (different : other ≠ id) :
    (mark.hset id w).redis.cmd other = w.redis.cmd other := if_neg different

theorem status_expire (id other : Int) (w : World) :
    ((Mark.expire id w).redis.cmd other).get w.now (ascii "status") = (w.redis.cmd other).get w.now (ascii "status") := by
  simp only [Mark.expire, RedisClient.setCmd]
  split
  · rename_i same
    rw [same, Hash.get_expire]
  · rfl

theorem mem_updatePending_self (mark : Mark) (id : Int) (w : World) :
    id ∈ (mark.updatePending id w).redis.cmdPending ↔ mark.status = ascii "sent" := by
  cases mark with
  | sent now => exact iff_of_true (AList.mem_insert _ |>.mpr (.inl rfl)) rfl
  | failed | completed =>
    refine iff_of_false (fun member => (AList.mem_erase.mp member).1 rfl) ?_
    simp only [Mark.status]
    decide

theorem mem_updatePending_ne (mark : Mark) {id other : Int} (w : World) (different : other ≠ id) :
    other ∈ (mark.updatePending id w).redis.cmdPending ↔ other ∈ w.redis.cmdPending := by
  cases mark with
  | sent now => exact (AList.mem_insert _).trans (or_iff_right different)
  | failed | completed => exact AList.mem_erase.trans (and_iff_right different)

/-! #### Runs -/

/-- The set matches the status of every command that is idle. -/
def Matching (s : MarkRace) : Prop := ∀ id, s.Idle id → s.InStep id

theorem matching_new : Matching {} := by
  intro id _
  unfold InStep status
  rw [show (({} : MarkRace).world.redis.cmd id) = .empty from rfl, Hash.get_empty]
  exact iff_of_false (AList.notMem_empty id) (Option.some_ne_none _ ∘ Eq.symm)

theorem idle_of_eraseIdx {s : MarkRace} {i : Nat} {call : Int × Mark} (found : s.outstanding[i]? = some call) {id : Int}
    (different : id ≠ call.1) (idle : ∀ other ∈ s.outstanding.eraseIdx i, other.1 ≠ id) : s.Idle id := by
  obtain ⟨bound, rfl⟩ := List.getElem?_eq_some_iff.mp found
  intro other member
  rcases List.mem_cons.mp ((List.getElem_cons_eraseIdx_perm bound).mem_iff.mpr member) with rfl | left
  · exact different.symm
  · exact idle other left

theorem matching_step {s : MarkRace} (e : MarkEvent) (matching : s.Matching) : (s.step e).Matching ↔ s.OwnStatus e := by
  cases e with
  | hset id mark =>
    refine iff_of_true ?_ trivial
    intro other idle
    have different : other ≠ id := (idle (id, mark) List.mem_cons_self).symm
    have before := matching other fun call member => idle call (List.mem_cons_of_mem _ member)
    unfold InStep status at before ⊢
    rw [← cmd_hset_ne mark s.world different] at before
    exact before
  | updatePending i =>
    cases found : s.outstanding[i]? with
    | none =>
      simp only [step, OwnStatus, found]
      exact iff_of_true matching fun call member => by cases member
    | some call =>
      obtain ⟨id, mark⟩ := call
      simp only [step, OwnStatus, found, Option.mem_some_iff, forall_eq']
      constructor
      · intro after idle
        exact (mem_updatePending_self mark id s.world).symm.trans (after id idle)
      · intro own other idle
        rcases eq_or_ne other id with rfl | different
        · exact (mem_updatePending_self mark other s.world).trans (own idle)
        · have before := matching other (idle_of_eraseIdx found different idle)
          exact (mem_updatePending_ne mark s.world different).trans before
  | expire i =>
    refine iff_of_true ?_ trivial
    cases found : s.expiring[i]? with
    | none =>
      simp only [step, found]
      exact matching
    | some id =>
      simp only [step, found]
      intro other idle
      have before := matching other idle
      unfold InStep status at before ⊢
      rw [← status_expire id other s.world] at before
      exact before

/-- Calls that do not overlap find their own status. -/
theorem ownStatus_alone (s : MarkRace) (id : Int) (mark : Mark) : Meets step OwnStatus s (alone id mark) := by
  have own : (s.step (.hset id mark)).OwnStatus (.updatePending 0) := by
    intro call first _
    obtain rfl : (id, mark) = call := Option.some.inj first
    have written : (s.step (.hset id mark)).status id = some mark.status := status_hset_self mark id s.world
    rw [written, Option.some_inj]
  cases mark with
  | sent | failed => exact ⟨trivial, own, trivial⟩
  | completed => exact ⟨trivial, own, trivial, trivial⟩

theorem ownStatus_sequential (s : MarkRace) (calls : List (Int × Mark)) :
    Meets step OwnStatus s (calls.flatMap fun call => alone call.1 call.2) := by
  induction calls generalizing s with
  | nil => trivial
  | cons call calls ih =>
    rw [List.flatMap_cons, meets_append]
    exact ⟨s.ownStatus_alone call.1 call.2, ih _⟩

/-- The set matches the status in all runs, and only in those, in which every call that is the last to change the set for a
command finds its own status. In particular it matches whenever no call is in progress. -/
theorem pending_matches_status (events : List MarkEvent) :
    ((∀ before, before <+: events → ∀ id, (run step {} before).Idle id → (run step {} before).InStep id) ↔
        Meets step OwnStatus {} events) ∧
      (Meets step OwnStatus {} events →
        ∀ before, before <+: events → (run step {} before).Quiescent → ∀ id, (run step {} before).InStep id) := by
  have exactly : (∀ before, before <+: events → (run step {} before).Matching) ↔ Meets step OwnStatus {} events :=
    @prefixes_iff_meets _ _ step _ (fun _ => True) _ _ trivial matching_new (fun _ _ _ => trivial)
      (fun s e _ matching => matching_step e matching) events
  refine ⟨exactly, ?_⟩
  intro own before early quiescent id
  refine exactly.mpr own before early id ?_
  intro call member
  rw [quiescent.1] at member
  cases member

instance (s : MarkRace) (id : Int) : Decidable (s.InStep id) := inferInstanceAs (Decidable (_ ↔ _))

/-- A node marks the command as sent, and another one marks it as failed between the two commands of the first. -/
def overtaken : List MarkEvent :=
  [.hset 1 (.sent 0), .hset 1 (.failed (ascii "forward failed")), .updatePending 0, .updatePending 0]

theorem overtaken_out_of_step :
    ¬ ∀ before, before <+: overtaken → (run step {} before).Quiescent → ∀ id, (run step {} before).InStep id := by
  intro every
  have last : (run step {} overtaken).InStep 1 := every overtaken List.prefix_rfl ⟨rfl, rfl⟩ 1
  exact absurd last (by decide)

end MarkRace
end IotGateway.Storage
