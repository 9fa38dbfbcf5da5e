import IotGateway.Net.EventLoop

/-!
# Queued functors

Every push gets the next ticket, and the functors are started in the order of their
tickets. A functor that is pushed once `doPendingFunctors` has taken the queue runs in a
later round. The loop waits in `epoll_wait` with a filled queue only while the eventfd is
readable, or while the thread that filled it is on its way to `wakeup`.
-/

namespace IotGateway.Net

/-- The functor may run in this round. -/
def Queued.InTurn {φ : Type} (q : Queued φ) (round : Nat) : Prop := q.round ≤ round ∧ (q.early = false → q.round < round)

namespace EventLoop

variable {φ : Type}

/-- `doPendingFunctors` is going on. -/
def Pc.inPending : Pc φ → Bool
  | .pending | .calling _ | .functor _ => true
  | _ => false

/-- The queue is still to be taken in this iteration. -/
def Pc.servesQueue : Pc φ → Bool
  | .dispatch _ | .handler _ | .pending => true
  | _ => false

/-- The functors that were taken and not started. -/
def Pc.batch : Pc φ → List (Queued φ)
  | .calling functors | .functor functors => functors
  | _ => []

/-- The round that takes what is in the queue. -/
def nextRound (s : EventLoop φ) : Nat :=
  match s.pc with
  | .pending => s.rounds
  | _ => s.rounds + 1

/-- The flags go with the place of the thread. -/
structure Placed (s : EventLoop φ) : Prop where
  calling : s.callingPendingFunctors_ = s.pc.inPending
  inCall : s.inCall = true → s.pc.inUserCode = true

structure Orderly (s : EventLoop φ) : Prop where
  tickets : (s.executed.map Prod.fst ++ s.pc.batch ++ s.pendingFunctors_).map Queued.ticket = List.range s.pushed
  executed : ∀ f ∈ s.executed, f.1.InTurn f.2
  batch : ∀ q ∈ s.pc.batch, q.InTurn s.rounds
  queue : ∀ q ∈ s.pendingFunctors_, q.InTurn s.nextRound

/-- Some call has pushed its functor and will wake the loop. -/
def WakeupComing (s : EventLoop φ) : Prop := ∃ call ∈ s.calls, call.op = .queueInLoop ∧ s.wakes call = true

def Wakeful (s : EventLoop φ) : Prop :=
  s.pc.servesQueue = false → s.pendingFunctors_ ≠ [] → 0 < s.wakeupFd ∨ s.WakeupComing

/-! ### Calls -/

theorem wakeup_readable (s : EventLoop φ) : 0 < s.wakeup.wakeupFd := by
  unfold wakeup
  dsimp only
  split
  · exact Nat.succ_pos _
  · rename_i full
    exact Nat.lt_of_lt_of_le (by decide) (Nat.not_lt.mp full)

theorem inCall_append (s : EventLoop φ) (call : Call) :
    (s.calls ++ [call]).any (·.inLoop) = (s.inCall || call.inLoop) := by
  simp [inCall]

theorem Placed.calls {s s' : EventLoop φ} (placed : Placed s) (pc : s'.pc = s.pc)
    (calling : s'.callingPendingFunctors_ = s.callingPendingFunctors_)
    (inCall : s'.inCall = true → s.inCall = true ∨ s.pc.inUserCode = true) : Placed s' where
  calling := by rw [calling, pc, placed.calling]
  inCall := by
    intro busy
    rw [pc]
    exact (inCall busy).elim placed.inCall id

theorem Placed.called {s s' : EventLoop φ} (placed : Placed s) (call : Call) (may : s.mayCall call.inLoop = true)
    (pc : s'.pc = s.pc) (calling : s'.callingPendingFunctors_ = s.callingPendingFunctors_)
    (calls : s'.calls = s.calls ++ [call]) : Placed s' := by
  refine placed.calls pc calling fun busy => ?_
  rw [EventLoop.inCall, calls, inCall_append] at busy
  rcases Bool.or_eq_true_iff.mp busy with before | now
  · exact Or.inl before
  · simp only [mayCall, now, Bool.not_true, Bool.false_or, Bool.and_eq_true] at may
    exact Or.inr may.1

theorem finish_pc (s : EventLoop φ) (i : Nat) (call : Call) : (s.finish i call).pc = s.pc := by
  unfold finish
  dsimp only
  split <;> rfl

theorem finish_calling (s : EventLoop φ) (i : Nat) (call : Call) :
    (s.finish i call).callingPendingFunctors_ = s.callingPendingFunctors_ := by
  unfold finish
  dsimp only
  split <;> rfl

theorem Placed.finish {s : EventLoop φ} (placed : Placed s) (i : Nat) (call : Call) : Placed (s.finish i call) := by
  refine placed.calls (s.finish_pc i call) (s.finish_calling i call) fun busy => Or.inl ?_
  obtain ⟨other, member, inLoop⟩ := List.any_eq_true.mp busy
  exact List.any_eq_true.mpr ⟨other, List.mem_of_mem_eraseIdx member, inLoop⟩

theorem Placed.next {s : EventLoop φ} (placed : Placed s) (idle : s.inCall = false) (active : List Ready) :
    Placed (s.next active) := by
  have calling := placed.calling
  have quiet : ∀ s' : EventLoop φ, s'.calls = s.calls → s'.inCall = true → s'.pc.inUserCode = true := by
    intro s' same busy
    rw [EventLoop.inCall, same, show s.calls.any (·.inLoop) = false from idle] at busy
    cases busy
  unfold EventLoop.next
  cases at_ : s.pc with
  | starting | published | entered | handler | pending | functor | left =>
    rw [at_] at calling
    exact ⟨by first | exact calling | simpa [at_] using calling, quiet _ rfl⟩
  | test =>
    rw [at_] at calling
    dsimp only
    split
    · exact ⟨calling, quiet _ rfl⟩
    · exact ⟨calling, quiet _ rfl⟩
  | poll =>
    rw [at_] at calling
    dsimp only
    split
    · exact ⟨calling, quiet _ rfl⟩
    · exact placed
  | dispatch active =>
    rw [at_] at calling
    cases active with
    | nil => exact ⟨rfl, quiet _ rfl⟩
    | cons first active => cases first <;> exact ⟨calling, quiet _ rfl⟩
  | calling functors =>
    rw [at_] at calling
    cases functors with
    | nil => exact ⟨rfl, quiet _ rfl⟩
    | cons f functors => exact ⟨calling, quiet _ rfl⟩

theorem Placed.step {s : EventLoop φ} (placed : Placed s) (e : Event φ) : Placed (s.step e) := by
  rcases s.step_cases e with same | ⟨inLoop, cb, -, may, pushed⟩ | ⟨inLoop, -, may, quits⟩ | ⟨i, call, -, finished⟩ |
    ⟨active, idle, moved⟩
  · rw [same]
    exact placed
  · rw [pushed]
    exact placed.called ⟨inLoop, .queueInLoop⟩ may rfl rfl rfl
  · rw [quits]
    exact placed.called ⟨inLoop, .quit⟩ may rfl rfl rfl
  · rw [finished]
    exact placed.finish i call
  · rw [moved]
    exact placed.next idle active

/-! ### Order -/

theorem Orderly.push {s : EventLoop φ} (orderly : Orderly s) (inLoop : Bool) (cb : φ) : Orderly (s.push inLoop cb) where
  tickets := by
    have tickets := orderly.tickets
    simp only [EventLoop.push, ← List.append_assoc, List.map_append, List.map_cons, List.map_nil, List.range_succ]
    simp only [List.map_append] at tickets
    rw [tickets]
  executed := orderly.executed
  batch := orderly.batch
  queue := by
    intro q member
    rcases List.mem_append.mp member with old | new
    · exact orderly.queue q old
    · rw [List.mem_singleton.mp new]
      unfold Queued.InTurn EventLoop.nextRound EventLoop.push
      dsimp only
      cases s.pc <;> simp

theorem Orderly.of_same {s s' : EventLoop φ} (orderly : Orderly s) (batch : s'.pc.batch = s.pc.batch)
    (next : s'.nextRound = s.nextRound) (rounds : s.pc.batch ≠ [] → s'.rounds = s.rounds)
    (queue : s'.pendingFunctors_ = s.pendingFunctors_) (executed : s'.executed = s.executed)
    (pushed : s'.pushed = s.pushed) : Orderly s' where
  tickets := by rw [executed, batch, queue, pushed, orderly.tickets]
  executed := by rw [executed]; exact orderly.executed
  batch := by
    intro q member
    rw [batch] at member
    rw [rounds (List.ne_nil_of_mem member)]
    exact orderly.batch q member
  queue := by rw [queue, next]; exact orderly.queue

theorem Orderly.finish {s : EventLoop φ} (orderly : Orderly s) (i : Nat) (call : Call) : Orderly (s.finish i call) := by
  unfold EventLoop.finish
  dsimp only
  split
  · exact orderly.of_same rfl rfl (fun _ => rfl) rfl rfl rfl
  · exact orderly.of_same rfl rfl (fun _ => rfl) rfl rfl rfl

theorem Orderly.next {s : EventLoop φ} (orderly : Orderly s) (active : List Ready) : Orderly (s.next active) := by
  -- only the beginning of a round, the taking of the queue and the start of a functor move anything
  have quiet : ∀ s' : EventLoop φ, s'.pc.batch = s.pc.batch → s'.nextRound = s.nextRound → s'.rounds = s.rounds →
      s'.pendingFunctors_ = s.pendingFunctors_ → s'.executed = s.executed → s'.pushed = s.pushed → Orderly s' :=
    fun s' batch next rounds queue executed pushed =>
      orderly.of_same batch next (fun _ => rounds) queue executed pushed
  unfold EventLoop.next
  cases at_ : s.pc with
  | starting | published | entered | handler | functor =>
    exact quiet _ (by simp [Pc.batch, at_]) (by simp [nextRound, at_]) rfl rfl rfl rfl
  | left => exact orderly
  | test =>
    dsimp only
    split
    · exact quiet _ (by simp [Pc.batch, at_]) (by simp [nextRound, at_]) rfl rfl rfl rfl
    · exact quiet _ (by simp [Pc.batch, at_]) (by simp [nextRound, at_]) rfl rfl rfl rfl
  | poll =>
    dsimp only
    split
    · exact quiet _ (by simp [Pc.batch, at_]) (by simp [nextRound, at_]) rfl rfl rfl rfl
    · exact orderly
  | dispatch active =>
    cases active with
    | nil =>
      exact orderly.of_same (by simp [Pc.batch, at_]) (by simp [nextRound, at_]) (by simp [Pc.batch, at_]) rfl rfl rfl
    | cons first active =>
      cases first with
      | wakeup =>
        exact quiet _ (by simp [Pc.batch, at_]) (by simp [nextRound, at_, handleWakeupRead]) rfl rfl rfl rfl
      | other => exact quiet _ (by simp [Pc.batch, at_]) (by simp [nextRound, at_]) rfl rfl rfl rfl
  | pending =>
    have tickets := orderly.tickets
    have queue := orderly.queue
    rw [at_] at tickets
    simp only [nextRound, at_] at queue
    exact
      { tickets := by simpa [Pc.batch] using tickets
        executed := orderly.executed
        batch := queue
        queue := fun q member => absurd member List.not_mem_nil }
  | calling functors =>
    have tickets := orderly.tickets
    have queue := orderly.queue
    have batch := orderly.batch
    rw [at_] at tickets batch
    simp only [nextRound, at_] at queue
    cases functors with
    | nil =>
      exact
        { tickets := by simpa [Pc.batch] using tickets
          executed := orderly.executed
          batch := fun q member => absurd member List.not_mem_nil
          queue := queue }
    | cons f functors =>
      exact
        { tickets := by simpa [Pc.batch] using tickets
          executed := by
            intro g member
            rcases List.mem_append.mp member with old | new
            · exact orderly.executed g old
            · rw [List.mem_singleton.mp new]
              exact batch f List.mem_cons_self
          batch := fun q member => batch q (List.mem_cons_of_mem _ member)
          queue := queue }

theorem Orderly.step {s : EventLoop φ} (orderly : Orderly s) (e : Event φ) : Orderly (s.step e) := by
  rcases s.step_cases e with same | ⟨inLoop, cb, -, -, pushed⟩ | ⟨inLoop, -, -, quits⟩ | ⟨i, call, -, finished⟩ |
    ⟨active, -, moved⟩
  · rw [same]
    exact orderly
  · rw [pushed]
    exact orderly.push inLoop cb
  · rw [quits]
    exact orderly.of_same rfl rfl (fun _ => rfl) rfl rfl rfl
  · rw [finished]
    exact orderly.finish i call
  · rw [moved]
    exact orderly.next active

/-! ### Wakeups -/

theorem Wakeful.push {s : EventLoop φ} (placed : Placed s) {inLoop : Bool} (may : s.mayCall inLoop = true) (cb : φ) :
    Wakeful (s.push inLoop cb) := by
  intro idle _
  refine Or.inr ⟨⟨inLoop, .queueInLoop⟩, List.mem_append_right _ (List.mem_singleton_self _), rfl, ?_⟩
  cases inLoop with
  | false => rfl
  | true =>
    -- a call by the thread of the loop comes from a functor here, for the handlers run before the queue is taken
    have calling := placed.calling
    have user : s.pc.inUserCode = true := by
      simp only [mayCall, Bool.not_true, Bool.false_or, Bool.and_eq_true] at may
      exact may.1
    have idle : s.pc.servesQueue = false := idle
    cases at_ : s.pc with
    | functor functors =>
      rw [at_] at calling
      exact calling
    | handler active =>
      rw [at_] at idle
      cases idle
    | _ =>
      rw [at_] at user
      cases user

theorem WakeupComing.finish {s : EventLoop φ} {i : Nat} {call : Call} (found : s.calls[i]? = some call)
    (coming : s.WakeupComing) (sleeps : s.wakes call = false) : (s.finish i call).WakeupComing := by
  obtain ⟨other, member, op, wakes⟩ := coming
  obtain ⟨j, here⟩ := List.mem_iff_getElem?.mp member
  have different : j ≠ i := by
    rintro rfl
    obtain rfl : other = call := Option.some.inj (here.symm.trans found)
    rw [sleeps] at wakes
    cases wakes
  refine ⟨other, List.mem_eraseIdx_iff_getElem?.mpr ⟨j, different, here⟩, op, ?_⟩
  unfold EventLoop.wakes at wakes ⊢
  rw [finish_calling]
  exact wakes

theorem Wakeful.finish {s : EventLoop φ} (wakeful : Wakeful s) {i : Nat} {call : Call} (found : s.calls[i]? = some call) :
    Wakeful (s.finish i call) := by
  intro idle filled
  rw [finish_pc] at idle
  cases wakes : s.wakes call with
  | true =>
    left
    simpa [EventLoop.finish, wakes] using s.wakeup_readable
  | false =>
    have filled : s.pendingFunctors_ ≠ [] := by simpa [EventLoop.finish, wakes] using filled
    rcases wakeful idle filled with readable | coming
    · left
      simpa [EventLoop.finish, wakes] using readable
    · exact Or.inr (coming.finish found wakes)

theorem WakeupComing.of_idle {s s' : EventLoop φ} (coming : s.WakeupComing) (idle : s.inCall = false)
    (calls : s'.calls = s.calls) : s'.WakeupComing := by
  obtain ⟨call, member, op, -⟩ := coming
  have other : call.inLoop = false := by
    rw [EventLoop.inCall, List.any_eq_false] at idle
    exact Bool.eq_false_iff.mpr (idle call member)
  exact ⟨call, calls ▸ member, op, by simp [EventLoop.wakes, op, other]⟩

theorem Wakeful.next {s : EventLoop φ} (wakeful : Wakeful s) (idle : s.inCall = false) (active : List Ready) :
    Wakeful (s.next active) := by
  have carried : ∀ s' : EventLoop φ, s.pc.servesQueue = false → s'.pendingFunctors_ = s.pendingFunctors_ →
      s'.wakeupFd = s.wakeupFd → s'.calls = s.calls → Wakeful s' := by
    intro s' waits queue counter calls _ filled
    rw [queue] at filled
    rcases wakeful waits filled with readable | coming
    · exact Or.inl (counter ▸ readable)
    · exact Or.inr (coming.of_idle idle calls)
  have served : ∀ s' : EventLoop φ, s'.pc.servesQueue = true → Wakeful s' := by
    intro s' serves waits
    rw [serves] at waits
    cases waits
  unfold EventLoop.next
  cases at_ : s.pc with
  | starting | published | entered | functor => exact carried _ (by rw [at_]; rfl) rfl rfl rfl
  | left => exact wakeful
  | test =>
    dsimp only
    split
    · exact carried _ (by rw [at_]; rfl) rfl rfl rfl
    · exact carried _ (by rw [at_]; rfl) rfl rfl rfl
  | poll =>
    dsimp only
    split
    · exact served _ rfl
    · exact wakeful
  | dispatch active =>
    cases active with
    | nil => exact served _ rfl
    | cons first active => cases first <;> exact served _ rfl
  | handler active => exact served _ rfl
  | pending => exact fun _ filled => absurd rfl filled
  | calling functors => cases functors <;> exact carried _ (by rw [at_]; rfl) rfl rfl rfl

theorem Wakeful.step {s : EventLoop φ} (wakeful : Wakeful s) (placed : Placed s) (e : Event φ) : Wakeful (s.step e) := by
  rcases s.step_cases e with same | ⟨inLoop, cb, -, may, pushed⟩ | ⟨inLoop, -, -, quits⟩ | ⟨i, call, found, finished⟩ |
    ⟨active, idle, moved⟩
  · rw [same]
    exact wakeful
  · rw [pushed]
    exact Wakeful.push placed may cb
  · rw [quits]
    intro waits filled
    refine (wakeful waits filled).imp_right ?_
    rintro ⟨call, member, op, wakes⟩
    exact ⟨call, List.mem_append_left _ member, op, wakes⟩
  · rw [finished]
    exact wakeful.finish found
  · rw [moved]
    exact wakeful.next idle active

/-! ### Runs -/

theorem placed_new : Placed ({} : EventLoop φ) := ⟨rfl, fun busy => by cases busy⟩

theorem orderly_new : Orderly ({} : EventLoop φ) where
  tickets := rfl
  executed := fun _ member => absurd member List.not_mem_nil
  batch := fun _ member => absurd member List.not_mem_nil
  queue := fun _ member => absurd member List.not_mem_nil

theorem placed_run (events : List (Event φ)) : Placed (run step {} events) :=
  run_kept step Placed placed_new (fun _ e placed => placed.step e) events

theorem orderly_run (events : List (Event φ)) : Orderly (run step {} events) :=
  run_kept step Orderly orderly_new (fun _ e orderly => orderly.step e) events

theorem wakeful_run (events : List (Event φ)) : Wakeful (run step {} events) :=
  (run_kept step (fun s => Placed s ∧ Wakeful s) ⟨placed_new, fun _ filled => absurd rfl filled⟩
    (fun _ e both => ⟨both.1.step e, both.2.step both.1 e⟩) events).2

/-- Along every run the functors are started in the order of the pushes and each at most once, those that are pushed
after `doPendingFunctors` has taken the queue run in a later round, and the loop does not wait with a filled queue
unless the eventfd is readable or another thread is between its push and its wakeup. -/
theorem functors_in_order (events : List (Event φ)) :
    let s := run step ({} : EventLoop φ) events
    s.executed.map (·.1.ticket) = List.range s.executed.length ∧
      (∀ f ∈ s.executed, f.1.during = true → f.1.early = false → f.1.round < f.2) ∧
      (s.pc = .poll → s.pendingFunctors_ ≠ [] →
        0 < s.wakeupFd ∨ ∃ call ∈ s.calls, call.op = .queueInLoop ∧ call.inLoop = false) := by
  intro s
  have orderly : Orderly s := orderly_run events
  refine ⟨?_, fun f member _ late => (orderly.executed f member).2 late, fun waiting filled => ?_⟩
  · have tickets := orderly.tickets
    rw [List.append_assoc, List.map_append, List.map_map] at tickets
    have few : s.executed.length ≤ s.pushed := by
      have := congrArg List.length tickets
      simp only [List.length_append, List.length_map, List.length_range] at this
      omega
    have first := congrArg (List.take s.executed.length) tickets
    rw [List.take_left' (by simp), List.take_range, Nat.min_eq_left few] at first
    exact first
  · rcases wakeful_run events (by rw [show (run step {} events).pc = _ from waiting]; rfl) filled with
      readable | ⟨call, member, op, wakes⟩
    · exact Or.inl readable
    · refine Or.inr ⟨call, member, op, ?_⟩
      have calling : s.callingPendingFunctors_ = false := by
        rw [(placed_run events).calling, show (run step {} events).pc = _ from waiting]
        rfl
      cases inLoop : call.inLoop with
      | false => rfl
      | true => simp [EventLoop.wakes, op, inLoop, show (run step {} events).callingPendingFunctors_ = _ from calling] at wakes

/-- Another thread gets the lock after `doPendingFunctors` has begun and before it has taken the queue. -/
def pushedBeforeSwap : List (Event Unit) :=
  List.replicate 6 (.loop []) ++ [.queueInLoop false (), .finish 0, .loop [], .loop []]

/-- The functor was queued during `doPendingFunctors` and runs in the same round. -/
theorem runs_in_the_same_round :
    ∃ f ∈ (run step ({} : EventLoop Unit) pushedBeforeSwap).executed, f.1.during = true ∧ f.2 = f.1.round := by
  decide

end EventLoop
end IotGateway.Net
