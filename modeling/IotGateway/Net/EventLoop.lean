import IotGateway.Lib.Run

/-!
# The event loop between its threads

`EventLoop.cpp` without its timers, inside the thread function of `EventLoopThread.cpp`.
The thread of the loop goes from step to step: it enters `loop()`, tests `quit_`, waits
in `epoll_wait`, runs the handlers of what was reported and then the functors that were
queued by then. Other threads push functors and ask the loop to quit at any moment, and
so does the code of handlers and functors. The effect of such a call and its wakeup are
steps of their own. A step of any thread may follow a step of any other.
-/

namespace IotGateway.Net

/-- A functor in the queue. The fields behind `cb` say when it was pushed: how many pushes came before it, how many
calls of `doPendingFunctors` had begun, whether one was going on, and whether that one still had to take the queue. -/
structure Queued (φ : Type) where
  cb : φ
  ticket : Nat
  round : Nat
  during : Bool
  early : Bool
  deriving DecidableEq

namespace EventLoop

/-- An active channel. -/
inductive Ready where
  | wakeup
  /-- The timer or a channel of the user. -/
  | other
  deriving DecidableEq

/-- Where the thread of the loop stands. -/
inductive Pc (φ : Type) where
  /-- In `threadFunc`, before `loop_` is published. -/
  | starting
  | published
  /-- `looping_` is set, `quit_ = false` is next. -/
  | entered
  | test
  /-- About to wait in `epoll_wait`. -/
  | poll
  | dispatch (active : List Ready)
  /-- In the handler of a channel, with the channels behind it. -/
  | handler (active : List Ready)
  /-- `doPendingFunctors` has begun and has not taken the queue. -/
  | pending
  | calling (functors : List (Queued φ))
  /-- In a functor, with those behind it. -/
  | functor (functors : List (Queued φ))
  | left
  deriving DecidableEq

inductive Op where
  | queueInLoop
  | quit
  deriving DecidableEq

/-- A call that has pushed its functor or set `quit_`, and has not returned. -/
structure Call where
  inLoop : Bool
  op : Op
  deriving DecidableEq

end EventLoop

/-- `wakeupFd` is the counter of the eventfd. What stands behind `calls` is read by the theorems only. -/
structure EventLoop (φ : Type) where
  pc : EventLoop.Pc φ := .starting
  looping_ : Bool := false
  quit_ : Bool := false
  callingPendingFunctors_ : Bool := false
  pendingFunctors_ : List (Queued φ) := []
  wakeupFd : Nat := 0
  calls : List EventLoop.Call := []
  pushed : Nat := 0
  rounds : Nat := 0
  /-- The functors that were started, oldest first, with the rounds in which they were. -/
  executed : List (Queued φ × Nat) := []
  iterations : Nat := 0
  quitReturned : Bool := false
  deriving DecidableEq

namespace EventLoop

variable {φ : Type}

/-- An eventfd refuses to count further than this. -/
def kCounterMax : Nat := 0xfffffffffffffffe

def wakeup (s : EventLoop φ) : EventLoop φ :=
  { s with wakeupFd := if s.wakeupFd < kCounterMax then s.wakeupFd + 1 else s.wakeupFd }

def handleWakeupRead (s : EventLoop φ) : EventLoop φ := { s with wakeupFd := 0 }

/-- The thread of the loop is in a call of `queueInLoop` or `quit`. -/
def inCall (s : EventLoop φ) : Bool := s.calls.any (·.inLoop)

def Pc.inUserCode : Pc φ → Bool
  | .handler _ | .functor _ => true
  | _ => false

/-- The thread has not come to `quit_ = false`. -/
def Pc.beforeReset : Pc φ → Bool
  | .starting | .published | .entered => true
  | _ => false

/-- Other threads have the loop from `startLoop`. -/
def Pc.isPublished : Pc φ → Bool
  | .starting => false
  | _ => true

/-- Another thread calls whenever it wants, the thread of the loop from the handlers and functors that it runs. -/
def mayCall (s : EventLoop φ) (inLoop : Bool) : Bool := !inLoop || (s.pc.inUserCode && !s.inCall)

/-- `queueInLoop` up to the end of its lock. -/
def push (s : EventLoop φ) (inLoop : Bool) (cb : φ) : EventLoop φ :=
  let queued : Queued φ :=
    { cb
      ticket := s.pushed
      round := s.rounds
      during := s.callingPendingFunctors_
      early := match s.pc with
        | .pending => true
        | _ => false }
  { s with
    pendingFunctors_ := s.pendingFunctors_ ++ [queued]
    calls := s.calls ++ [{ inLoop, op := .queueInLoop }]
    pushed := s.pushed + 1 }

/-- `quit` up to its assignment. -/
def setQuit (s : EventLoop φ) (inLoop : Bool) : EventLoop φ :=
  { s with quit_ := true, calls := s.calls ++ [{ inLoop, op := .quit }] }

/-- The test at the end of `queueInLoop` and of `quit`. -/
def wakes (s : EventLoop φ) (call : Call) : Bool :=
  match call.op with
  | .queueInLoop => !call.inLoop || s.callingPendingFunctors_
  | .quit => !call.inLoop

/-- The rest of a call. -/
def finish (s : EventLoop φ) (i : Nat) (call : Call) : EventLoop φ :=
  { (if s.wakes call then s.wakeup else s) with
    calls := s.calls.eraseIdx i
    quitReturned := s.quitReturned || call.op = .quit }

/-- What `epoll_wait` may report of the eventfd. -/
def reports (s : EventLoop φ) (active : List Ready) : Bool := Ready.wakeup ∉ active || 0 < s.wakeupFd

/-- The next step of the thread of the loop. `active` is what `epoll_wait` returns. -/
def next (s : EventLoop φ) (active : List Ready) : EventLoop φ :=
  match s.pc with
  | .starting => { s with pc := .published }
  | .published => { s with pc := .entered, looping_ := true }
  | .entered => { s with pc := .test, quit_ := false }
  | .test =>
    if s.quit_ then { s with pc := .left, looping_ := false }
    else { s with pc := .poll, iterations := s.iterations + 1 }
  | .poll => if s.reports active then { s with pc := .dispatch active } else s
  | .dispatch [] => { s with pc := .pending, callingPendingFunctors_ := true, rounds := s.rounds + 1 }
  | .dispatch (.wakeup :: active) => { s.handleWakeupRead with pc := .dispatch active }
  | .dispatch (.other :: active) => { s with pc := .handler active }
  | .handler active => { s with pc := .dispatch active }
  | .pending => { s with pc := .calling s.pendingFunctors_, pendingFunctors_ := [] }
  | .calling [] => { s with pc := .test, callingPendingFunctors_ := false }
  | .calling (f :: functors) => { s with pc := .functor functors, executed := s.executed ++ [(f, s.rounds)] }
  | .functor functors => { s with pc := .calling functors }
  | .left => s

inductive Event (φ : Type) where
  | queueInLoop (inLoop : Bool) (cb : φ)
  | quit (inLoop : Bool)
  /-- The call at this place of `calls` goes on to its end. -/
  | finish (i : Nat)
  | loop (active : List Ready)

def step (s : EventLoop φ) : Event φ → EventLoop φ
  | .queueInLoop inLoop cb => if s.mayCall inLoop then s.push inLoop cb else s
  | .quit inLoop => if s.mayCall inLoop && s.pc.isPublished then s.setQuit inLoop else s
  | .finish i =>
    match s.calls[i]? with
    | none => s
    | some call => s.finish i call
  | .loop active => if s.inCall then s else s.next active

/-- Everything a step can be. -/
theorem step_cases (s : EventLoop φ) (e : Event φ) :
    s.step e = s ∨
    (∃ inLoop cb, e = .queueInLoop inLoop cb ∧ s.mayCall inLoop = true ∧ s.step e = s.push inLoop cb) ∨
    (∃ inLoop, e = .quit inLoop ∧ s.mayCall inLoop = true ∧ s.step e = s.setQuit inLoop) ∨
    (∃ i call, s.calls[i]? = some call ∧ s.step e = s.finish i call) ∨
    (∃ active, s.inCall = false ∧ s.step e = s.next active) := by
  cases e with
  | queueInLoop inLoop cb =>
    by_cases may : s.mayCall inLoop = true
    · exact Or.inr (Or.inl ⟨inLoop, cb, rfl, may, if_pos may⟩)
    · exact Or.inl (if_neg may)
  | quit inLoop =>
    by_cases may : (s.mayCall inLoop && s.pc.isPublished) = true
    · exact Or.inr (Or.inr (Or.inl ⟨inLoop, rfl, (Bool.and_eq_true_iff.mp may).1, if_pos may⟩))
    · exact Or.inl (if_neg may)
  | finish i =>
    cases found : s.calls[i]? with
    | none => exact Or.inl (by simp [step, found])
    | some call => exact Or.inr (Or.inr (Or.inr (Or.inl ⟨i, call, found, by simp [step, found]⟩)))
  | loop active =>
    by_cases busy : s.inCall = true
    · exact Or.inl (if_pos busy)
    · exact Or.inr (Or.inr (Or.inr (Or.inr ⟨active, Bool.eq_false_iff.mpr busy, if_neg busy⟩)))

end EventLoop
end IotGateway.Net
