import IotGateway.Net.Timers

/-!
# The timerfd stays armed

Outside of a batch the timerfd of a loop with timers is armed or has an expiration that
was not read, and it was set for the first timer or for an earlier time. A failed read
leaves this alone: whoever set the timerfd in the meantime has armed it.
-/

namespace IotGateway.Net

/-- What the clock shows when the timerfd expires, in nanoseconds, as far as the clock goes on regularly. -/
def TimerFd.deadline (fd : TimerFd) : Int := fd.setAt * 1000 + fd.it_value.nanoseconds

/-- The timerfd will be served, and was set for a time that is not later. A time less than 100 microseconds ahead
counts as one that far ahead. -/
structure TimerFd.Covers (fd : TimerFd) (time : Int) : Prop where
  served : fd.armed = true ∨ fd.unread = true
  inTime : fd.deadline ≤ max time (fd.setAt + 100) * 1000

theorem TimerFd.Covers.later {fd : TimerFd} {time later : Int} (covers : fd.Covers time) (le : time ≤ later) :
    fd.Covers later :=
  ⟨covers.served, covers.inTime.trans (Int.mul_le_mul_of_nonneg_right (max_le_max_right _ le) (by decide))⟩

namespace Timers

theorem covers_resetTimerFd (s : Timers) (expiration reading : Int) :
    (s.resetTimerFd expiration reading).timerFd_.Covers expiration := by
  have far : ∀ microSec : Int, 100 ≤ microSec → microSec ≤ max (expiration - reading) 100 →
      (TimerFd.settime ⟨microSec / 1000000, microSec % 1000000 * 1000⟩ reading).Covers expiration := by
    intro microSec floor bound
    refine ⟨Or.inl ?_, ?_⟩
    · simp only [TimerFd.settime, decide_eq_true_eq, ne_eq, Itimerspec.mk.injEq, not_and]
      omega
    · simp only [TimerFd.deadline, TimerFd.settime, Itimerspec.nanoseconds]
      omega
  unfold resetTimerFd
  dsimp only
  split
  · exact far 100 le_rfl (le_max_right _ _)
  · rename_i ahead
    exact far _ (by omega) (le_max_left _ _)

/-- The timerfd covers every timer. -/
def Armed (s : Timers) : Prop := ∀ entry ∈ s.timers_.entries, s.timerFd_.Covers entry.1

theorem armed_resetTimerFd {s : Timers} {first : Int} (begins : s.timers_.begin? = some first) (reading : Int) :
    Armed (s.resetTimerFd first reading) :=
  fun entry member => (s.covers_resetTimerFd first reading).later (Schedule.begin?_le begins entry member)

theorem Armed.schedule {s : Timers} (armed : Armed s) (key : Int) (timer : Timer) (reading : Int) :
    Armed (s.schedule key timer reading) := by
  unfold Timers.schedule
  dsimp only
  split
  · rename_i first
    exact armed_resetTimerFd first reading
  · rename_i behind
    -- the first timer stays, and the new one is not before it
    intro entry member
    have begins := (s.timers_.begin?_emplace key timer).resolve_left behind
    rcases List.mem_cons.mp ((s.timers_.perm_emplace key timer).mem_iff.mp member) with rfl | old
    · cases first : s.timers_.begin? with
      | none =>
        rw [first] at begins
        rw [Schedule.begin?_eq_none begins] at member
        cases member
      | some time =>
        obtain ⟨least, here, rfl⟩ : ∃ least ∈ s.timers_.entries, least.1 = time := by
          obtain ⟨least, head, same⟩ := Option.map_eq_some_iff.mp first
          exact ⟨least, List.mem_of_mem_head? head, same⟩
        exact (armed least here).later (Schedule.begin?_le (begins.trans first) _ member)
    · exact armed entry old

theorem armed_endBatch (s : Timers) (reading : Int) : Armed (s.endBatch reading) := by
  unfold endBatch
  dsimp only
  split
  · rename_i nothing
    intro entry member
    rw [show s.timers_.entries = [] from Schedule.begin?_eq_none nothing] at member
    cases member
  · rename_i first begins
    exact armed_resetTimerFd begins reading

theorem phase_schedule (s : Timers) (key : Int) (timer : Timer) (reading : Int) :
    (s.schedule key timer reading).phase = s.phase := by
  unfold schedule
  dsimp only
  split <;> rfl

/-- Between the steps of a batch nothing is asked of the timerfd. -/
def ArmedWhenIdle (s : Timers) : Prop := s.phase = .idle → Armed s

theorem ArmedWhenIdle.schedule {s : Timers} (armed : ArmedWhenIdle s) (key : Int) (timer : Timer) (reading : Int) :
    ArmedWhenIdle (s.schedule key timer reading) := by
  intro idle
  rw [phase_schedule] at idle
  exact (armed idle).schedule key timer reading

theorem armedWhenIdle_proceed {s : Timers} (armed : ArmedWhenIdle s) (now reading : Int) :
    ArmedWhenIdle (s.proceed now reading) := by
  unfold proceed
  cases phase : s.phase with
  | idle => exact armed
  | callback entry rest => exact fun idle => by cases idle
  | batch rest =>
    cases rest with
    | nil => exact fun _ => s.armed_endBatch reading
    | cons entry rest =>
      dsimp only
      split
      · exact fun idle => by cases idle
      · exact fun idle => by cases idle

theorem ArmedWhenIdle.step {s : Timers} (armed : ArmedWhenIdle s) (e : Event) : ArmedWhenIdle (s.step e) := by
  have issued : ∀ kind, ArmedWhenIdle (s.issue kind) := fun _ => armed
  cases e with
  | runAt due reading =>
    simp only [Timers.step]
    split
    · exact (issued _).schedule due _ reading
    · exact armed
  | runAfter delay now reading =>
    simp only [Timers.step]
    split
    · exact (issued _).schedule (now + delay) _ reading
    · exact armed
  | runEvery interval now reading =>
    simp only [Timers.step]
    split
    · exact (issued _).schedule (now + interval) _ reading
    · exact armed
  | cancelTimer id =>
    simp only [Timers.step, Timers.cancelTimer]
    split
    · split
      · exact armed
      · exact armed
    · exact armed
  | processTimers now =>
    simp only [Timers.step]
    split
    · exact fun idle => by cases idle
    · exact armed
  | handleTimerRead now =>
    simp only [Timers.step, Timers.handleTimerRead]
    split
    · split
      · exact fun idle => by cases idle
      · exact armed
    · exact armed
  | proceed now reading => exact armedWhenIdle_proceed armed now reading
  | expire =>
    simp only [Timers.step]
    split
    · exact fun idle entry member => ⟨Or.inr rfl, (armed idle entry member).inTime⟩
    · exact armed

/-- Whenever no operation is going on and there are timers, the timerfd is armed or has an expiration that was not
read, and it was last set for the smallest key or for an earlier time. -/
theorem timerfd_armed (events : List Event) {first : Int} :
    let s := run step {} events
    s.phase = .idle → s.timers_.begin? = some first →
      (s.timerFd_.armed = true ∨ s.timerFd_.unread = true) ∧
      s.timerFd_.deadline ≤ max first (s.timerFd_.setAt + 100) * 1000 := by
  intro s idle begins
  have armed : ArmedWhenIdle s :=
    run_kept step ArmedWhenIdle (fun _ _ member => absurd member List.not_mem_nil) (fun _ e armed => armed.step e) events
  obtain ⟨least, head, rfl⟩ := Option.map_eq_some_iff.mp begins
  have covers := armed idle least (List.mem_of_mem_head? head)
  exact ⟨covers.served, covers.inTime⟩

/-- A timer that sets another one for an earlier time, with a clock that has jumped back in between. -/
def setFromCallback : List Event :=
  [.runEvery 5000 1000 1000, .expire, .handleTimerRead 6000, .proceed 0 0, .runAt 3000 2000, .proceed 2500 2500, .proceed 0 2600]

theorem timerfd_armed_setFromCallback :
    let s := run step {} setFromCallback
    s.timers_.begin? = some 3000 ∧ (s.timerFd_.armed = true ∨ s.timerFd_.unread = true) ∧
      s.timerFd_.deadline ≤ max 3000 (s.timerFd_.setAt + 100) * 1000 :=
  ⟨by decide, timerfd_armed setFromCallback (by decide) (by decide)⟩

end Timers
end IotGateway.Net
