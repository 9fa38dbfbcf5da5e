import IotGateway.Lib.Run
import IotGateway.Lib.Schedule
import Mathlib.Order.Lattice
import Mathlib.Algebra.Order.Ring.Int

/-!
# The timers of an event loop

The timer part of `EventLoop.cpp`. Times are microseconds. Every reading of the clock is
an argument of the event in which it happens, so the clock may show anything. A callback
is opened by a step of the batch and closed by a later one; in between its code may call
`runAt`, `runAfter`, `runEvery` and `cancelTimer` as often as it wants.
-/

namespace IotGateway.Net

abbrev TimerId := Nat

/-- `every` has the interval that `runEvery` was given, as `Timestamp::operator+` rounds it. -/
inductive TimerKind where
  | once (due : Int)
  | every (interval : Int)
  deriving DecidableEq

/-- A wrapped callback. -/
structure Timer where
  id : TimerId
  kind : TimerKind
  deriving DecidableEq

/-! ### The timerfd -/

structure Itimerspec where
  tv_sec : Int
  tv_nsec : Int
  deriving DecidableEq

def Itimerspec.nanoseconds (t : Itimerspec) : Int := t.tv_sec * 1000000000 + t.tv_nsec

/-- A timerfd without interval. `unread` says that it has expired since it was set or read, `setAt` what the clock
showed when it was set. -/
structure TimerFd where
  armed : Bool := false
  unread : Bool := false
  it_value : Itimerspec := ⟨0, 0⟩
  setAt : Int := 0
  deriving DecidableEq

/-- `timerfd_settime`: a value of zero disarms. -/
def TimerFd.settime (it_value : Itimerspec) (setAt : Int) : TimerFd where
  armed := it_value ≠ ⟨0, 0⟩
  it_value := it_value
  setAt := setAt

/-! ### The loop -/

inductive Phase where
  | idle
  /-- In the loop of `processTimers`, with the callbacks that are left. -/
  | batch (rest : List (Int × Timer))
  /-- In a callback. -/
  | callback (current : Int × Timer) (rest : List (Int × Timer))
  deriving DecidableEq

/-- A callback was called: in which batch, when it was due, and what the clock showed when the batch was collected. -/
structure Start where
  id : TimerId
  due : Int
  now : Int
  batch : Nat
  deriving DecidableEq

/-- Every id has a token of its own. `timerCancelTokens_` are the ids whose token is in the map, `cancelled` those
whose token is set. The fields from `now` on are read by the theorems only. -/
structure Timers where
  timers_ : Schedule Int Timer := .empty
  expiredTimers_ : List (Int × Timer) := []
  nextTimerId_ : TimerId := 1
  timerCancelTokens_ : List TimerId := []
  cancelled : List TimerId := []
  timerFd_ : TimerFd := {}
  phase : Phase := .idle
  now : Int := 0
  batches : Nat := 0
  issued : List Timer := []
  starts : List Start := []

namespace Timers

def resetTimerFd (s : Timers) (expiration reading : Int) : Timers :=
  let microSec := expiration - reading
  let microSec := if microSec < 100 then 100 else microSec
  { s with timerFd_ := .settime ⟨microSec / 1000000, microSec % 1000000 * 1000⟩ reading }

/-- `timers_.emplace` and the test behind it. -/
def schedule (s : Timers) (key : Int) (timer : Timer) (reading : Int) : Timers :=
  let s := { s with timers_ := s.timers_.emplace key timer }
  if s.timers_.begin? = some key then s.resetTimerFd key reading else s

/-- The id and the token of a new timer. -/
def issue (s : Timers) (kind : TimerKind) : Timers :=
  { s with
    nextTimerId_ := s.nextTimerId_ + 1
    timerCancelTokens_ := s.nextTimerId_ :: s.timerCancelTokens_
    issued := ⟨s.nextTimerId_, kind⟩ :: s.issued }

def runAt (s : Timers) (due reading : Int) : Timers :=
  (s.issue (.once due)).schedule due ⟨s.nextTimerId_, .once due⟩ reading

def runAfter (s : Timers) (delay now reading : Int) : Timers := s.runAt (now + delay) reading

def runEvery (s : Timers) (interval now reading : Int) : Timers :=
  (s.issue (.every interval)).schedule (now + interval) ⟨s.nextTimerId_, .every interval⟩ reading

def cancelTimer (s : Timers) (id : TimerId) : Timers :=
  if id ∈ s.timerCancelTokens_ then
    { s with cancelled := id :: s.cancelled, timerCancelTokens_ := s.timerCancelTokens_.filter (· ≠ id) }
  else s

/-- `processTimers` up to its second loop. -/
def collect (s : Timers) (now : Int) : Timers :=
  let due := s.timers_.due now
  { s with
    timers_ := s.timers_.later now
    expiredTimers_ := s.expiredTimers_ ++ due
    phase := .batch (s.expiredTimers_ ++ due)
    now
    batches := s.batches + 1 }

/-- What a wrapper does behind the call of its callback. -/
def wrapUp (s : Timers) (timer : Timer) (now reading : Int) : Timers :=
  match timer.kind with
  | .once _ => { s with timerCancelTokens_ := s.timerCancelTokens_.filter (· ≠ timer.id) }
  | .every interval => if timer.id ∈ s.cancelled then s else s.schedule (now + interval) timer reading

/-- `processTimers` behind its second loop. -/
def endBatch (s : Timers) (reading : Int) : Timers :=
  let s := { s with expiredTimers_ := [], phase := .idle }
  match s.timers_.begin? with
  | none => s
  | some key => s.resetTimerFd key reading

/-- The batch goes on: a callback returns, the next one is called, or the batch ends. -/
def proceed (s : Timers) (now reading : Int) : Timers :=
  match s.phase with
  | .idle => s
  | .batch [] => s.endBatch reading
  | .batch (entry :: rest) =>
    if entry.2.id ∈ s.cancelled then { s.wrapUp entry.2 now reading with phase := .batch rest }
    else
      { s with
        phase := .callback entry rest
        starts := ⟨entry.2.id, entry.1, s.now, s.batches⟩ :: s.starts }
  | .callback entry rest => { s.wrapUp entry.2 now reading with phase := .batch rest }

/-- `handleTimerRead`. The read fails when the timerfd was set again since it was reported. -/
def handleTimerRead (s : Timers) (now : Int) : Timers :=
  if s.timerFd_.unread then { s with timerFd_ := { s.timerFd_ with unread := false } }.collect now else s

inductive Event where
  | runAt (due reading : Int)
  | runAfter (delay now reading : Int)
  | runEvery (interval now reading : Int)
  | cancelTimer (id : TimerId)
  | processTimers (now : Int)
  | handleTimerRead (now : Int)
  | proceed (now reading : Int)
  /-- The kernel lets the timerfd expire. -/
  | expire
  deriving DecidableEq

/-- The code of the user runs: outside of a batch, or in a callback. -/
def mayCall (s : Timers) : Bool :=
  match s.phase with
  | .idle | .callback _ _ => true
  | .batch _ => false

def step (s : Timers) : Event → Timers
  | .runAt due reading => if s.mayCall then s.runAt due reading else s
  | .runAfter delay now reading => if s.mayCall then s.runAfter delay now reading else s
  | .runEvery interval now reading => if s.mayCall then s.runEvery interval now reading else s
  | .cancelTimer id => if s.mayCall then s.cancelTimer id else s
  | .processTimers now => if s.phase = .idle then s.collect now else s
  | .handleTimerRead now => if s.phase = .idle then s.handleTimerRead now else s
  | .proceed now reading => s.proceed now reading
  | .expire =>
    if s.timerFd_.armed then { s with timerFd_ := { s.timerFd_ with armed := false, unread := true } } else s

end Timers
end IotGateway.Net
