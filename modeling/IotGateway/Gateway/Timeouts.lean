import IotGateway.Lib.Run
import IotGateway.Gateway.Outcomes

/-!
# Timeouts of commands

`scanTimeoutCommands` reports the commands in `iot:cmd:pending` whose score has passed.
`markCommandSent` sets the score to 30 seconds from now and does not see the timeout of the
command, so the scan is right for the commands whose earliest deadline is that far away.
-/

namespace IotGateway.Gateway
open Text Redis Storage

/-- A command with the id of an `int64_t` and a positive timeout. -/
structure TimedCommand where
  cmd : Command
  positive : 0 < cmd.timeout
  int64 : -(2 ^ 63) ≤ cmd.id ∧ cmd.id < 2 ^ 63

inductive TimeoutEvent where
  | tick (us : Nat)
  | send (n : NodeId) (g : GatewayServer) (timed : TimedCommand)
  | markFailed (c : RedisClient) (id : Int) (reason : Bytes)
  | markCompleted (c : RedisClient) (id : Int) (response : Bytes)

/-- The world, and the sends that nothing has resolved: the command of each, and when its own timeout ends. -/
structure Timeline where
  world : World
  unresolved : List (Int × Int)

namespace Timeline

def start (now : Nat) : Timeline := ⟨⟨now, .new, []⟩, []⟩

def second (s : Timeline) : Int := s.world.now / kSecond

def resolve (id : Int) (c : RedisClient) (unresolved : List (Int × Int)) : List (Int × Int) :=
  if c.connected_ ∧ c.answers then unresolved.filter fun send => send.1 ≠ id else unresolved

def step (s : Timeline) : TimeoutEvent → Timeline
  | .tick us => { s with world := { s.world with now := s.world.now + us } }
  | .send n g timed =>
    let (sent, _, world) := g.sendCommandToDevice n s.world timed.cmd
    let unresolved :=
      if sent then (timed.cmd.id, s.second + timed.cmd.timeout) :: s.unresolved else s.unresolved
    { world, unresolved }
  | .markFailed c id reason =>
    { world := c.markCommandFailed s.world id reason, unresolved := resolve id c s.unresolved }
  | .markCompleted c id response =>
    { world := c.markCommandCompleted s.world id response, unresolved := resolve id c s.unresolved }

/-- The ends of the timeouts of a command that are still open. -/
def deadlines (s : Timeline) (id : Int) : List Int := (s.unresolved.filter fun send => send.1 = id).map Prod.snd

/-- A send of the command at a time `s` with `s + timeout ≤ t` is not resolved. -/
def Due (s : Timeline) (id t : Int) : Prop := ∃ deadline ∈ s.deadlines id, deadline ≤ t

instance (s : Timeline) (id t : Int) : Decidable (s.Due id t) :=
  inferInstanceAs (Decidable (∃ deadline ∈ s.deadlines id, deadline ≤ t))

/-- From now on every scan through a working connection returns each command that is due, once, and no other. -/
def ScansDue (s : Timeline) : Prop :=
  ∀ (c : RedisClient) (later : Nat) (timeoutUs : Int), c.connected_ ∧ c.answers → s.world.now ≤ later →
    ∃ ids, c.scanTimeoutCommands { s.world with now := later } timeoutUs = .ok ids ∧ ids.Nodup ∧
      ∀ id, id ∈ ids ↔ s.Due id (later / kSecond)

/-- A send that Redis records: the earliest open deadline of the command, its own included, is 30 seconds away. One that
Redis does not record ends no sooner than an earlier send that is still open. -/
def Timely (s : Timeline) : TimeoutEvent → Prop
  | .send _ g timed => (g.deviceMgr_.findDevice g.conns timed.cmd.deviceId).isSome →
      let deadline := s.second + timed.cmd.timeout
      if g.redisClient_.connected_ ∧ g.redisClient_.answers then
        s.second + 30 ∈ deadline :: s.deadlines timed.cmd.id ∧
          ∀ other ∈ deadline :: s.deadlines timed.cmd.id, s.second + 30 ≤ other
      else ∃ other ∈ s.deadlines timed.cmd.id, other ≤ deadline
  | _ => True

/-! ### A score and the deadlines it stands for -/

/-- From `now` on, the score has passed exactly when one of the deadlines has. -/
def Tells (now : Int) (deadlines : List Int) (score : Option Int) : Prop :=
  ∀ t, now ≤ t → ((∃ deadline ∈ deadlines, deadline ≤ t) ↔ ∃ x, score = some x ∧ x ≤ t)

theorem Tells.later {now now' : Int} {deadlines : List Int} {score : Option Int} (tells : Tells now deadlines score)
    (ahead : now ≤ now') : Tells now' deadlines score := fun t after => tells t (ahead.trans after)

theorem tells_nil (now : Int) : Tells now [] none := by
  intro t _
  simp

theorem tells_some_iff {now x : Int} (ahead : now < x) (deadlines : List Int) :
    Tells now deadlines (some x) ↔ x ∈ deadlines ∧ ∀ deadline ∈ deadlines, x ≤ deadline := by
  constructor
  · intro tells
    have least : ∀ deadline ∈ deadlines, x ≤ deadline := by
      intro deadline member
      obtain ⟨y, same, passed⟩ := (tells (max now deadline) (le_max_left _ _)).mp ⟨deadline, member, le_max_right _ _⟩
      cases same
      exact (le_max_iff.mp passed).resolve_left (not_le.mpr ahead)
    obtain ⟨deadline, member, passed⟩ := (tells x ahead.le).mpr ⟨x, rfl, le_refl x⟩
    exact ⟨le_antisymm passed (least deadline member) ▸ member, least⟩
  · rintro ⟨member, least⟩ t _
    constructor
    · rintro ⟨deadline, listed, passed⟩
      exact ⟨x, rfl, (least deadline listed).trans passed⟩
    · rintro ⟨y, same, passed⟩
      cases same
      exact ⟨x, member, passed⟩

theorem tells_cons_iff {now deadline : Int} {deadlines : List Int} {score : Option Int}
    (tells : Tells now deadlines score) (ahead : now ≤ deadline) :
    Tells now (deadline :: deadlines) score ↔ ∃ other ∈ deadlines, other ≤ deadline := by
  constructor
  · intro after
    exact (tells deadline ahead).mpr ((after deadline ahead).mp ⟨deadline, List.mem_cons_self, le_refl deadline⟩)
  · rintro ⟨other, member, sooner⟩ t within
    rw [← tells t within]
    constructor
    · rintro ⟨d, listed, passed⟩
      rcases List.mem_cons.mp listed with rfl | listed
      · exact ⟨other, member, sooner.trans passed⟩
      · exact ⟨d, listed, passed⟩
    · rintro ⟨d, listed, passed⟩
      exact ⟨d, List.mem_cons_of_mem _ listed, passed⟩

/-! ### The scan and the scores -/

def score (s : Timeline) (id : Int) : Option Int := s.world.redis.cmdPending.lookup id

def Scored (s : Timeline) : Prop := ∀ id, Tells s.second (s.deadlines id) (s.score id)

def Fits (s : Timeline) : Prop := ∀ id ∈ s.world.redis.cmdPending, -(2 ^ 63) ≤ id ∧ id < 2 ^ 63

theorem scanTimeoutCommands_eq {c : RedisClient} (up : c.connected_ ∧ c.answers) {w : World} (timeoutUs : Int)
    (fits : ∀ id ∈ w.redis.cmdPending, -(2 ^ 63) ≤ id ∧ id < 2 ^ 63) :
    c.scanTimeoutCommands w timeoutUs = .ok (rangeByScore decimal w.redis.cmdPending (w.now / kSecond)) := by
  rw [RedisClient.scanTimeoutCommands, if_pos up, mapM_ok_iff]
  refine List.forall₂_same.mpr fun id member => ?_
  obtain ⟨score, held, _⟩ := mem_rangeByScore.mp member
  have present : id ∈ w.redis.cmdPending := AList.lookup_isSome.mp (by rw [held]; rfl)
  exact stoInt_decimal (fits id present)

theorem scansDue_iff_scored {s : Timeline} (fits : s.Fits) : s.ScansDue ↔ s.Scored := by
  constructor
  · intro scans id t ahead
    obtain ⟨later, clock, reading⟩ : ∃ later, s.world.now ≤ later ∧ ((later : Int) / kSecond) = t := by
      refine ⟨max s.world.now (t.toNat * kSecond), le_max_left _ _, ?_⟩
      unfold second kSecond at *
      omega
    have up : (⟨true, some .up, none⟩ : RedisClient).connected_ ∧ (⟨true, some .up, none⟩ : RedisClient).answers := by decide
    obtain ⟨ids, scanned, _, same⟩ := scans ⟨true, some .up, none⟩ later 0 up clock
    have listed := scanned.symm.trans (scanTimeoutCommands_eq up 0 fits)
    rw [← reading]
    exact (same id).symm.trans (Except.ok.inj listed ▸ mem_rangeByScore)
  · intro scored c later timeoutUs up clock
    refine ⟨_, scanTimeoutCommands_eq up timeoutUs fits, nodup_rangeByScore, fun id => ?_⟩
    have ahead : s.second ≤ later / kSecond := by
      unfold second kSecond
      omega
    exact mem_rangeByScore.trans (scored id _ ahead).symm

/-! ### What a step does to a command -/

theorem deadlines_cons_self (w : World) (id deadline : Int) (unresolved : List (Int × Int)) :
    (Timeline.mk w ((id, deadline) :: unresolved)).deadlines id = deadline :: (Timeline.mk w unresolved).deadlines id := by
  simp [deadlines]

theorem deadlines_cons_ne (w : World) {id other : Int} (different : other ≠ id) (deadline : Int)
    (unresolved : List (Int × Int)) :
    (Timeline.mk w ((id, deadline) :: unresolved)).deadlines other = (Timeline.mk w unresolved).deadlines other := by
  simp [deadlines, different.symm]

theorem deadlines_resolve_self (w : World) {c : RedisClient} (up : c.connected_ ∧ c.answers) (id : Int)
    (unresolved : List (Int × Int)) : (Timeline.mk w (resolve id c unresolved)).deadlines id = [] := by
  simp [deadlines, resolve, up]

theorem deadlines_resolve_ne (w : World) (c : RedisClient) {id other : Int} (different : other ≠ id)
    (unresolved : List (Int × Int)) :
    (Timeline.mk w (resolve id c unresolved)).deadlines other = (Timeline.mk w unresolved).deadlines other := by
  unfold deadlines resolve
  split
  · rw [List.filter_filter]
    congr 1
    apply List.filter_congr
    rintro ⟨id', _⟩ _
    by_cases same : id' = other
    · simp [same, different]
    · simp [same]
  · rfl

/-- A step that leaves the other commands alone is judged by the command it is about. -/
theorem scored_of_others {s s' : Timeline} (scored : s.Scored) (id : Int) (clock : s.second ≤ s'.second)
    (others : ∀ other, other ≠ id → s'.deadlines other = s.deadlines other ∧ s'.score other = s.score other) :
    s'.Scored ↔ Tells s'.second (s'.deadlines id) (s'.score id) := by
  refine ⟨fun scored' => scored' id, fun tells other => ?_⟩
  by_cases same : other = id
  · rw [same]
    exact tells
  · obtain ⟨deadlines, score⟩ := others other same
    rw [deadlines, score]
    exact (scored other).later clock

section Send

variable {n : NodeId} {g : GatewayServer} {w : World} {cmd : Command}

theorem recorded_sendCommandToDevice (found : (g.deviceMgr_.findDevice g.conns cmd.deviceId).isSome) :
    (g.sendCommandToDevice n w cmd).1 = true ∧ (g.sendCommandToDevice n w cmd).2.2.now = w.now ∧
      (g.sendCommandToDevice n w cmd).2.2.redis.cmdPending =
        if g.redisClient_.connected_ ∧ g.redisClient_.answers then
          w.redis.cmdPending.insert cmd.id ((w.now : Int) / kSecond + 30)
        else w.redis.cmdPending := by
  obtain ⟨device, here⟩ := Option.isSome_iff_exists.mp found
  rw [GatewayServer.sendCommandToDevice_some n here]
  simp only [RedisClient.markCommandSent, RedisClient.ackCommand]
  refine ⟨trivial, ?_, ?_⟩
  · split <;> rfl
  · split <;> rfl

end Send

section Step

variable {s : Timeline} {g : GatewayServer} {timed : TimedCommand}

theorem scored_send_iff (scored : s.Scored) (n : NodeId) (found : (g.deviceMgr_.findDevice g.conns timed.cmd.deviceId).isSome) :
    (s.step (.send n g timed)).Scored ↔ s.Timely (.send n g timed) := by
  obtain ⟨sent, clock, pending⟩ := @recorded_sendCommandToDevice n g s.world timed.cmd found
  have after : s.step (.send n g timed) = ⟨(g.sendCommandToDevice n s.world timed.cmd).2.2,
      (timed.cmd.id, s.second + timed.cmd.timeout) :: s.unresolved⟩ := by
    simp only [step, sent, if_true]
  have second : (s.step (.send n g timed)).second = s.second := by
    rw [after]
    simp only [Timeline.second, clock]
  have own : (s.step (.send n g timed)).deadlines timed.cmd.id =
      (s.second + timed.cmd.timeout) :: s.deadlines timed.cmd.id := by
    rw [after, deadlines_cons_self]
    rfl
  rw [scored_of_others scored timed.cmd.id second.ge, second, own]
  · simp only [Timely, found, true_implies]
    split
    · rename_i up
      have score : (s.step (.send n g timed)).score timed.cmd.id = some (s.second + 30) := by
        rw [after]
        simp only [Timeline.score, pending, if_pos up, AList.lookup_insert]
        rfl
      rw [score]
      exact tells_some_iff (by omega) _
    · rename_i down
      have score : (s.step (.send n g timed)).score timed.cmd.id = s.score timed.cmd.id := by
        rw [after]
        simp only [Timeline.score, pending, if_neg down]
      rw [score]
      exact tells_cons_iff (scored timed.cmd.id) (by have positive := timed.positive; omega)
  · intro other different
    rw [after, deadlines_cons_ne _ different]
    refine ⟨rfl, ?_⟩
    simp only [Timeline.score, pending]
    split
    · exact AList.lookup_insert_ne different
    · rfl

/-- Marking a command as failed or completed takes its score away with its deadlines. -/
theorem scored_mark (scored : s.Scored) {c : RedisClient} {id : Int} {w : World} (clock : w.now = s.world.now)
    (pending : w.redis.cmdPending =
      if c.connected_ ∧ c.answers then s.world.redis.cmdPending.erase id else s.world.redis.cmdPending) :
    (Timeline.mk w (resolve id c s.unresolved)).Scored := by
  have second : (Timeline.mk w (resolve id c s.unresolved)).second = s.second := by simp only [Timeline.second, clock]
  refine (scored_of_others scored id second.ge ?_).mpr ?_
  · intro other different
    rw [deadlines_resolve_ne _ c different]
    refine ⟨rfl, ?_⟩
    simp only [Timeline.score, pending]
    split
    · exact AList.lookup_erase_ne different
    · rfl
  · by_cases up : c.connected_ ∧ c.answers
    · rw [deadlines_resolve_self w up]
      simp only [Timeline.score, pending, if_pos up, AList.lookup_erase]
      exact tells_nil _
    · have same : (Timeline.mk w (resolve id c s.unresolved)).deadlines id = s.deadlines id := by
        simp only [deadlines, resolve, if_neg up]
      rw [second, same]
      simp only [Timeline.score, pending, if_neg up]
      exact scored id

theorem scored_step_iff (scored : s.Scored) (e : TimeoutEvent) : (s.step e).Scored ↔ s.Timely e := by
  cases e with
  | tick us =>
    refine iff_of_true (fun id => (scored id).later ?_) trivial
    simp only [step, second, kSecond]
    omega
  | send n g timed =>
    cases found : g.deviceMgr_.findDevice g.conns timed.cmd.deviceId with
    | none =>
      have same : s.step (.send n g timed) = s := by
        simp only [step, GatewayServer.sendCommandToDevice_none n found]
        rfl
      rw [same]
      refine iff_of_true scored ?_
      simp [Timely, found]
    | some device => exact scored_send_iff scored n (by rw [found]; rfl)
  | markFailed c id reason =>
    refine iff_of_true (scored_mark scored ?_ ?_) trivial
    all_goals
      unfold RedisClient.markCommandFailed
      split <;> rfl
  | markCompleted c id response =>
    refine iff_of_true (scored_mark scored ?_ ?_) trivial
    all_goals
      unfold RedisClient.markCommandCompleted
      split <;> rfl

theorem fits_step (fits : s.Fits) (e : TimeoutEvent) : (s.step e).Fits := by
  cases e with
  | tick us => exact fits
  | send n g timed =>
    cases found : g.deviceMgr_.findDevice g.conns timed.cmd.deviceId with
    | none =>
      simp only [step, GatewayServer.sendCommandToDevice_none n found]
      exact fits
    | some device =>
      obtain ⟨_, _, pending⟩ := @recorded_sendCommandToDevice n g s.world timed.cmd (by rw [found]; rfl)
      intro id member
      simp only [step, pending] at member
      split at member
      · rcases (AList.mem_insert _).mp member with rfl | earlier
        · exact timed.int64
        · exact fits id earlier
      · exact fits id member
  | markFailed c id reason =>
    intro other member
    simp only [step, RedisClient.markCommandFailed] at member
    split at member
    · exact fits other (AList.mem_erase.mp member).2
    · exact fits other member
  | markCompleted c id response =>
    intro other member
    simp only [step, RedisClient.markCommandCompleted] at member
    split at member
    · exact fits other (AList.mem_erase.mp member).2
    · exact fits other member

end Step

/-! ### Runs -/

/-- The scan is right along the whole run exactly when every send is timely. -/
theorem scans_due_iff (now : Nat) (events : List TimeoutEvent) :
    (∀ before, before <+: events → (run step (start now) before).ScansDue) ↔ Meets step Timely (start now) events := by
  have empty : (start now).Fits := fun id member => absurd member (AList.notMem_empty id)
  have nothing : (start now).ScansDue := (scansDue_iff_scored empty).mpr fun id => tells_nil _
  refine prefixes_iff_meets step empty nothing (fun s e => fits_step (s := s) (e := e)) ?_ events
  intro s e fits scans
  rw [scansDue_iff_scored (fits_step fits e)]
  exact scored_step_iff ((scansDue_iff_scored fits).mp scans) e

/-! ### A command with a short timeout -/

def quickCommand : TimedCommand := ⟨⟨1, ascii "sensor", [], ascii "on", 10, ascii "1-0", 0⟩, by decide, by decide⟩

/-- Ten seconds after the send the command is due, and the scan returns nothing. -/
theorem quick_command_missed :
    let s := (start 0).step (.send gateway1 sensorNode quickCommand)
    s.Due 1 10 ∧ linkedClient.scanTimeoutCommands { s.world with now := 10 * kSecond } 0 = .ok [] ∧ ¬ s.ScansDue := by
  refine ⟨by decide, rfl, fun scans => ?_⟩
  obtain ⟨ids, scanned, _, same⟩ := scans linkedClient (10 * kSecond) 0 (by decide) (by decide)
  have member := (same 1).mpr (by decide)
  cases (show (Except.ok [] : Except StdException (List Int)) = .ok ids from scanned)
  exact absurd member List.not_mem_nil

end Timeline
end IotGateway.Gateway
