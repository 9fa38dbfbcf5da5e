import IotGateway.Net.PendingFunctors

/-!
# Requests to quit

`loop()` sets `quit_` to false when it is entered, and `startLoop` hands the loop out
before that. A request that comes earlier is forgotten. Any later request ends the loop
with the iteration that is going on, and a loop that is about to wait for the last time
finds the eventfd readable.
-/

namespace IotGateway.Net
namespace EventLoop

variable {φ : Type}

/-- `quit_` is set after `loop()` has reset it. -/
def QuitInTime (s : EventLoop φ) : Event φ → Prop
  | .quit _ => s.pc.beforeReset = false
  | _ => True

instance (s : EventLoop φ) : DecidablePred (QuitInTime s)
  | .quit _ => inferInstanceAs (Decidable (_ = _))
  | .queueInLoop _ _ | .finish _ | .loop _ => isTrue trivial

/-- A quit has been asked for by a call that is going on or has returned. -/
def Asked (s : EventLoop φ) : Prop := s.quitReturned = true ∨ ∃ call ∈ s.calls, call.op = .quit

structure Remembers (s : EventLoop φ) : Prop where
  set : s.Asked → s.quit_ = true ∧ s.pc.beforeReset = false
  awake : s.quitReturned = true → s.pc = .poll → 0 < s.wakeupFd

theorem remembers_new : Remembers ({} : EventLoop φ) where
  set := by
    rintro (returned | ⟨call, member, -⟩)
    · cases returned
    · cases member
  awake := fun returned => by cases returned

theorem Remembers.push {s : EventLoop φ} (remembers : Remembers s) (inLoop : Bool) (cb : φ) :
    Remembers (s.push inLoop cb) where
  set := by
    rintro (returned | ⟨call, member, quits⟩)
    · exact remembers.set (Or.inl returned)
    · rcases List.mem_append.mp member with old | new
      · exact remembers.set (Or.inr ⟨call, old, quits⟩)
      · rw [List.mem_singleton.mp new] at quits
        cases quits
  awake := remembers.awake

theorem Remembers.setQuit {s : EventLoop φ} (remembers : Remembers s) (inTime : s.pc.beforeReset = false) (inLoop : Bool) :
    Remembers (s.setQuit inLoop) := ⟨fun _ => ⟨rfl, inTime⟩, remembers.awake⟩

theorem Remembers.finish {s : EventLoop φ} (remembers : Remembers s) (placed : Placed s) {i : Nat} {call : Call}
    (found : s.calls[i]? = some call) : Remembers (s.finish i call) where
  set := by
    intro asked
    have before : s.Asked := by
      rcases asked with returned | ⟨other, member, quits⟩
      · simp only [EventLoop.finish, Bool.or_eq_true, decide_eq_true_eq] at returned
        rcases returned with before | quits
        · exact Or.inl before
        · exact Or.inr ⟨call, List.mem_of_getElem? found, quits⟩
      · exact Or.inr ⟨other, List.mem_of_mem_eraseIdx member, quits⟩
    rw [finish_pc]
    refine ⟨?_, (remembers.set before).2⟩
    unfold EventLoop.finish
    dsimp only
    split <;> exact (remembers.set before).1
  awake := by
    intro returned waiting
    rw [finish_pc] at waiting
    cases wakes : s.wakes call with
    | true => simpa [EventLoop.finish, wakes] using s.wakeup_readable
    | false =>
      simp only [EventLoop.finish, wakes, Bool.or_eq_true, decide_eq_true_eq] at returned ⊢
      rcases returned with before | quits
      · exact remembers.awake before waiting
      · -- a call that does not wake is one by the thread of the loop, which then does not wait
        have inLoop : call.inLoop = true := by simpa [EventLoop.wakes, quits] using wakes
        have user := placed.inCall (List.any_eq_true.mpr ⟨call, List.mem_of_getElem? found, inLoop⟩)
        rw [waiting] at user
        cases user

theorem Remembers.moved {s s' : EventLoop φ} (remembers : Remembers s) (quit : s'.quit_ = s.quit_)
    (returned : s'.quitReturned = s.quitReturned) (calls : s'.calls = s.calls)
    (reset : s.pc.beforeReset = false → s'.pc.beforeReset = false) (busy : s'.pc ≠ .poll) : Remembers s' where
  set := by
    intro asked
    have before : s.Asked := by
      unfold Asked at asked ⊢
      rwa [returned, calls] at asked
    rw [quit]
    exact ⟨(remembers.set before).1, reset (remembers.set before).2⟩
  awake := fun _ waiting => absurd waiting busy

theorem Remembers.next {s : EventLoop φ} (remembers : Remembers s) (active : List Ready) : Remembers (s.next active) := by
  unfold EventLoop.next
  cases at_ : s.pc with
  | starting | published =>
    exact remembers.moved rfl rfl rfl (fun past => by rw [at_] at past; cases past) (fun waiting => by cases waiting)
  | entered =>
    -- nobody has asked yet
    have early : ¬ s.Asked := by
      intro asked
      have past := (remembers.set asked).2
      rw [at_] at past
      cases past
    exact ⟨fun asked => absurd asked early, fun _ waiting => by cases waiting⟩
  | test =>
    dsimp only
    split
    · exact remembers.moved rfl rfl rfl (fun _ => rfl) (fun waiting => by cases waiting)
    · rename_i goesOn
      have unasked : ¬ s.Asked := fun asked => goesOn (remembers.set asked).1
      exact ⟨fun asked => absurd asked unasked, fun returned => absurd (Or.inl returned) unasked⟩
  | poll =>
    dsimp only
    split
    · exact remembers.moved rfl rfl rfl (fun _ => rfl) (fun waiting => by cases waiting)
    · exact remembers
  | dispatch active =>
    cases active with
    | nil => exact remembers.moved rfl rfl rfl (fun _ => rfl) (fun waiting => by cases waiting)
    | cons first active =>
      cases first <;> exact remembers.moved rfl rfl rfl (fun _ => rfl) (fun waiting => by cases waiting)
  | handler active | pending | functor functors =>
    exact remembers.moved rfl rfl rfl (fun _ => rfl) (fun waiting => by cases waiting)
  | calling functors =>
    cases functors <;> exact remembers.moved rfl rfl rfl (fun _ => rfl) (fun waiting => by cases waiting)
  | left => exact remembers

theorem Remembers.step {s : EventLoop φ} (remembers : Remembers s) (placed : Placed s) {e : Event φ}
    (inTime : QuitInTime s e) : Remembers (s.step e) := by
  rcases s.step_cases e with same | ⟨inLoop, cb, -, -, pushed⟩ | ⟨inLoop, rfl, -, quits⟩ | ⟨i, call, found, finished⟩ |
    ⟨active, -, moved⟩
  · rw [same]
    exact remembers
  · rw [pushed]
    exact remembers.push inLoop cb
  · rw [quits]
    exact remembers.setQuit inTime inLoop
  · rw [finished]
    exact remembers.finish placed found
  · rw [moved]
    exact remembers.next active

/-! ### No further iteration -/

def NoFurther (s s' : EventLoop φ) : Prop := s'.iterations = s.iterations

theorem iterations_finish (s : EventLoop φ) (i : Nat) (call : Call) : (s.finish i call).iterations = s.iterations := by
  unfold finish
  dsimp only
  split <;> rfl

theorem iterations_next {s : EventLoop φ} (quit : s.quit_ = true) (active : List Ready) :
    (s.next active).iterations = s.iterations := by
  unfold EventLoop.next
  cases s.pc with
  | test => rw [quit]; rfl
  | poll =>
    dsimp only
    split <;> rfl
  | dispatch active => cases active with
    | nil => rfl
    | cons first active => cases first <;> rfl
  | calling functors => cases functors <;> rfl
  | _ => rfl

theorem iterations_step {s : EventLoop φ} (quit : s.quit_ = true) (e : Event φ) : (s.step e).iterations = s.iterations := by
  rcases s.step_cases e with same | ⟨_, _, -, -, pushed⟩ | ⟨_, -, -, quits⟩ | ⟨i, call, -, finished⟩ | ⟨active, -, moved⟩
  · rw [same]
  · rw [pushed]
    rfl
  · rw [quits]
    rfl
  · rw [finished]
    exact s.iterations_finish i call
  · rw [moved]
    exact iterations_next quit active

theorem quitReturned_next (s : EventLoop φ) (active : List Ready) : (s.next active).quitReturned = s.quitReturned := by
  unfold EventLoop.next
  cases s.pc with
  | test | poll =>
    dsimp only
    split <;> rfl
  | dispatch active => cases active with
    | nil => rfl
    | cons first active => cases first <;> rfl
  | calling functors => cases functors <;> rfl
  | _ => rfl

theorem quitReturned_step {s : EventLoop φ} (returned : s.quitReturned = true) (e : Event φ) :
    (s.step e).quitReturned = true := by
  rcases s.step_cases e with same | ⟨_, _, -, -, pushed⟩ | ⟨_, -, -, quits⟩ | ⟨i, call, -, finished⟩ | ⟨active, -, moved⟩
  · rw [same]
    exact returned
  · rw [pushed]
    exact returned
  · rw [quits]
    exact returned
  · rw [finished]
    simp [finish, returned]
  · rw [moved, quitReturned_next]
    exact returned

/-- In a run in which every `quit` comes after the reset of `quit_`, the loop starts no iteration once a `quit` has
returned, and it does not block in the one that is going on. -/
theorem quit_remembered (events more : List (Event φ)) (inTime : Meets step QuitInTime {} (events ++ more))
    (returned : (run step {} events).quitReturned = true) :
    let s := run step {} events
    let s' := run step s more
    s'.iterations = s.iterations ∧ (s'.pc = .poll → 0 < s'.wakeupFd) := by
  intro s s'
  obtain ⟨before, after⟩ := (meets_append step).mp inTime
  have kept : ∀ (s : EventLoop φ) e, Placed s ∧ Remembers s → QuitInTime s e → Placed (s.step e) ∧ Remembers (s.step e) :=
    fun s e both inTime => ⟨both.1.step e, both.2.step both.1 inTime⟩
  have start : Placed s ∧ Remembers s := run_invariant step ⟨placed_new, remembers_new⟩ kept before
  have keptOn : ∀ (s : EventLoop φ) e, (Placed s ∧ Remembers s) ∧ s.quitReturned = true → QuitInTime s e →
      ((Placed (s.step e) ∧ Remembers (s.step e)) ∧ (s.step e).quitReturned = true) ∧ NoFurther s (s.step e) :=
    fun s e holds inTime => ⟨⟨kept s e holds.1 inTime, quitReturned_step holds.2 e⟩,
      iterations_step (holds.1.2.set (Or.inl holds.2)).1 e⟩
  have last : (Placed s' ∧ Remembers s') ∧ s'.quitReturned = true :=
    run_invariant step ⟨start, returned⟩ (fun s e holds inTime => (keptOn s e holds inTime).1) after
  have none : NoFurther s s' :=
    run_relates step ⟨start, returned⟩ (fun _ => rfl) (fun first second => Eq.trans second first) keptOn after
  exact ⟨none, last.1.2.awake last.2⟩

/-- Four steps of the thread into its first wait, a `quit` from another thread, and the rest of the loop. -/
def quitWhileWaiting : List (Event Unit) := List.replicate 4 (.loop []) ++ [.quit false, .finish 0]

theorem quit_remembered_waiting :
    let s := run step ({} : EventLoop Unit) quitWhileWaiting
    let s' := run step s (List.replicate 5 (.loop []))
    s'.pc = .left ∧ s'.iterations = s.iterations ∧ (s'.pc = .poll → 0 < s'.wakeupFd) :=
  ⟨by decide, quit_remembered quitWhileWaiting (List.replicate 5 (.loop [])) (by decide) (by decide)⟩

/-- `startLoop` has returned, another thread calls `quit`, and then the thread of the loop enters `loop()`. -/
def quitBeforeLoop : List (Event Unit) := [.loop [], .quit false, .finish 0]

/-- The request is gone and the loop starts an iteration. -/
theorem quit_forgotten :
    let s := run step ({} : EventLoop Unit) quitBeforeLoop
    let s' := run step s (List.replicate 3 (.loop []))
    s.quitReturned = true ∧ s'.quit_ = false ∧ s'.iterations = s.iterations + 1 := by
  decide

end EventLoop
end IotGateway.Net
