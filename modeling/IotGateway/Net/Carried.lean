import IotGateway.Net.Shutdown

/-!
# What reaches the peer

Any thread may send on a connection, shut it down or force it closed, and the peer may go.
As long as nothing takes back a connection that is down, what has been written is the
beginning of the messages in the order in which they reached `sendInLoop`, and a message
that `send` has accepted has reached it or is on its way.
-/

namespace IotGateway.Net
open Text

/-- What a trace says of messages. -/
def TcpConnection.ledger (c : TcpConnection) : List Bytes × List Bytes × Bytes :=
  (accepted c.trace, messages c.trace, written c.trace)

structure Carried (s : Threads) : Prop where
  account : (accepted s.conn.trace).Perm (messages s.conn.trace ++ s.onTheWay)
  sent : written s.conn.trace <+: (messages s.conn.trace).flatten
  flows : FlowsUntilDown s.conn

theorem carried_new (writeComplete : Bool) (highWater : Option Nat) : Carried (Threads.new writeComplete highWater) where
  account := List.Perm.refl []
  sent := List.prefix_rfl
  flows := flowsUntilDown_newConnection writeComplete highWater

/-- A write that fails with EPIPE or ECONNRESET. -/
def ThreadEvent.faults : ThreadEvent → Bool
  | .resume _ .fault | .functor .fault | .handle _ .fault => true
  | _ => false

theorem At.idle {s : Threads} {stage : Stage} (at_ : At s stage) (down : s.conn.state_ = .disconnected) :
    s.conn.channel_.isWriting = false := by
  have closed := at_.down.mpr down
  have watches := at_.channel
  cases stage with
  | created | up => cases closed
  | closed | released | gone =>
    rw [show s.conn.channel_ = _ from watches]

/-! ### Functions of the connection -/

section Functions

variable (c : TcpConnection)

theorem ledger_handleClose : c.handleClose.ledger = c.ledger := by
  unfold TcpConnection.handleClose
  dsimp only
  split <;> rfl

theorem plans_handleClose : c.handleClose.plans = c.plans := by
  unfold TcpConnection.handleClose
  dsimp only
  split <;> rfl

theorem ledger_forceCloseInLoop : c.forceCloseInLoop.ledger = c.ledger ∧ c.forceCloseInLoop.plans = c.plans := by
  unfold TcpConnection.forceCloseInLoop
  split
  · exact ⟨ledger_handleClose c, plans_handleClose c⟩
  · exact ⟨rfl, rfl⟩

theorem ledger_connectEstablished :
    c.connectEstablished.ledger = c.ledger ∧ c.connectEstablished.plans = c.plans := by
  unfold TcpConnection.connectEstablished
  split <;> exact ⟨rfl, rfl⟩

theorem ledger_removeChannel : c.removeChannel.ledger = c.ledger ∧ c.removeChannel.plans = c.plans := by
  unfold TcpConnection.removeChannel
  split <;> exact ⟨rfl, rfl⟩

theorem ledger_connectDestroyed : c.connectDestroyed.ledger = c.ledger ∧ c.connectDestroyed.plans = c.plans := by
  unfold TcpConnection.connectDestroyed
  split
  · exact ledger_removeChannel _
  · exact ledger_removeChannel c

theorem ledger_shutdownInLoop : c.shutdownInLoop.ledger = c.ledger := by
  unfold TcpConnection.shutdownInLoop
  split <;> rfl

theorem ledger_removeConnectionInLoop :
    c.removeConnectionInLoop.ledger = c.ledger ∧ c.removeConnectionInLoop.plans = c.plans := by
  unfold TcpConnection.removeConnectionInLoop
  split
  · exact ⟨rfl, by simp [TcpConnection.plans, TcpConnection.queueInLoop, Functor.isPlan]⟩
  · exact ⟨rfl, rfl⟩

variable {c}

theorem FlowsUntilDown.forceCloseInLoop (flows : FlowsUntilDown c) : FlowsUntilDown c.forceCloseInLoop := by
  unfold TcpConnection.forceCloseInLoop
  split
  · exact flows.handleClose
  · exact flows

theorem FlowsUntilDown.removeConnectionInLoop (flows : FlowsUntilDown c) : FlowsUntilDown c.removeConnectionInLoop := by
  unfold TcpConnection.removeConnectionInLoop
  split
  · exact flows.of_flow rfl rfl
  · exact flows

theorem FlowsUntilDown.connectEstablished (flows : FlowsUntilDown c) (alive : c.aborted = false) :
    FlowsUntilDown c.connectEstablished := by
  have called : FlowsUntilDown (LoopCall.exec c .connectEstablished) := flows.exec rfl
  unfold LoopCall.exec at called
  rwa [if_neg (by rw [alive]; decide)] at called

theorem FlowsUntilDown.connectDestroyed (flows : FlowsUntilDown c) (alive : c.aborted = false) :
    FlowsUntilDown c.connectDestroyed := by
  have called : FlowsUntilDown (LoopCall.exec c .connectDestroyed) := flows.exec rfl
  unfold LoopCall.exec at called
  rwa [if_neg (by rw [alive]; decide)] at called

end Functions

/-! ### One step -/

section Step

variable {s s' : Threads}

/-- A step that neither writes nor asks for something to be written. -/
theorem Carried.same (carried : Carried s) (ledger : s'.conn.ledger = s.conn.ledger) (way : s.onTheWay.Perm s'.onTheWay)
    (flows : FlowsUntilDown s'.conn) : Carried s' := by
  simp only [TcpConnection.ledger, Prod.mk.injEq] at ledger
  obtain ⟨kept, reached, bytes⟩ := ledger
  refine ⟨?_, ?_, flows⟩
  · rw [kept, reached]
    exact carried.account.trans (way.append_left _)
  · rw [bytes, reached]
    exact carried.sent

theorem way_of_plans (plans : s'.conn.plans = s.conn.plans) (calls : s'.calls = s.calls) : s.onTheWay.Perm s'.onTheWay := by
  rw [s.onTheWay_plans, s'.onTheWay_plans, plans, calls]

/-- A message reaches `sendInLoop`, which drops it when the connection is down. -/
theorem Carried.sends (carried : Carried s) {c : TcpConnection} {msg : Bytes} {result : WriteResult}
    (healthy : result ≠ .fault) (conn : s'.conn = c.sendInLoop msg result) (ledger : c.ledger = s.conn.ledger)
    (flows : FlowsUntilDown c) (way : s.onTheWay.Perm (msg :: s'.onTheWay)) : Carried s' := by
  simp only [TcpConnection.ledger, Prod.mk.injEq] at ledger
  obtain ⟨kept, reached, bytes⟩ := ledger
  obtain ⟨entries, outputs, shape⟩ := Outputs.sendInLoop c msg result
  have after : FlowsUntilDown s'.conn := conn ▸ flows.sendInLoop msg healthy
  have said : accepted s'.conn.trace = accepted s.conn.trace ∧ messages s'.conn.trace = messages s.conn.trace ++ [msg] := by
    rw [conn, outputs.trace]
    rcases shape with rfl | ⟨written, rfl⟩
    · exact ⟨kept, congrArg (· ++ [msg]) reached⟩
    · exact ⟨kept, congrArg (· ++ [msg]) reached⟩
  refine ⟨?_, ?_, after⟩
  · rw [said.1, said.2, List.append_assoc]
    exact carried.account.trans (way.append_left _)
  · by_cases down : c.state_ = .disconnected
    · have dropped : s'.conn.trace = .sendInLoop msg :: c.trace := by
        rw [conn, TcpConnection.sendInLoop]
        dsimp only
        rw [if_pos (show (c.record (.sendInLoop msg)).state_ = .disconnected from down)]
        rfl
      rw [said.2, List.flatten_append, dropped]
      refine (show written c.trace <+: _ from ?_)
      rw [bytes]
      exact carried.sent.trans (List.prefix_append _ _)
    · have up : s'.conn.state_ ≠ .disconnected := by
        rw [conn, outputs.state]
        exact down
      exact ⟨_, (after up).bytes⟩

theorem Carried.call (carried : Carried s) (inLoop : Bool) (op : Op) : Carried (s.call inLoop op) := by
  unfold Threads.call
  split
  swap
  · exact carried
  cases op with
  | shutdown | forceClose =>
    refine carried.same rfl (List.Perm.of_eq ?_) (carried.flows.of_flow rfl rfl)
    simp [Threads.onTheWay, Threads.queue, Op.message?]
  | send msg =>
    refine ⟨?_, carried.sent, carried.flows.of_flow rfl rfl⟩
    have way : Threads.onTheWay ⟨s.conn.record (.accepted msg), s.polled, s.handlers, s.calls ++ [{ inLoop, op := .send msg }]⟩ =
        InFlight.messages s.calls ++ ([msg] ++ s.queue.filterMap Functor.message?) := by
      simp [Threads.onTheWay, Threads.queue, TcpConnection.record, InFlight.messages, Op.message?]
    rw [way]
    refine (carried.account.append_right [msg]).trans ?_
    rw [List.append_assoc]
    refine List.Perm.append_left _ ?_
    rw [Threads.onTheWay, List.append_assoc]
    exact List.perm_append_comm.append_left _

theorem Carried.resume (carried : Carried s) (i : Nat) {result : WriteResult} (healthy : result ≠ .fault)
    (orderly : Orderly s (.resume i result)) : Carried (s.resume i result) := by
  unfold Threads.resume
  split
  · exact carried
  rename_i call found
  split
  · rename_i sets
    have up : s.conn.state_ ≠ .disconnected := orderly call found sets
    refine carried.same rfl ?_ fun _ => (carried.flows up).of_flow rfl
    rw [s.onTheWay_plans, Threads.onTheWay_plans, InFlight.messages_set found]
    exact List.Perm.refl _
  have left := (InFlight.messages_erase found).append_right (s.conn.plans.filterMap Functor.message?)
  rw [← s.onTheWay_plans] at left
  have after : ∀ {c : TcpConnection} {plans : List Functor}, c.plans = plans →
      Threads.onTheWay ⟨c, s.polled, s.handlers, s.calls.eraseIdx i⟩ =
        InFlight.messages (s.calls.eraseIdx i) ++ plans.filterMap Functor.message? := by
    rintro c _ rfl
    exact Threads.onTheWay_plans _
  -- what is only queued
  have queued : ∀ f : Functor, f.isPlan = true → f.message? = call.op.message? →
      Carried ⟨s.conn.queueInLoop f, s.polled, s.handlers, s.calls.eraseIdx i⟩ := by
    intro f plan message
    refine carried.same rfl ?_ (carried.flows.of_flow rfl rfl)
    rw [after (s.conn.plans_queueInLoop_plan plan), List.filterMap_append, ← List.append_assoc]
    rw [List.append_assoc] at left
    refine left.trans ?_
    have one : [f].filterMap Functor.message? = call.op.message?.toList := by
      rw [← message, List.filterMap_cons]
      cases f.message? <;> rfl
    rw [one]
    exact List.perm_append_comm
  obtain ⟨inLoop, op, isSet⟩ := call
  cases op with
  | forceClose => exact queued .forceCloseInLoop rfl rfl
  | send msg =>
    cases inLoop with
    | false => exact queued (.sendInLoop msg) rfl rfl
    | true =>
      refine carried.sends healthy rfl rfl carried.flows ?_
      rw [after (c := InFlight.finish ⟨true, .send msg, isSet⟩ s.conn result) (s.conn.plans_sendInLoop msg result)]
      exact left
  | shutdown =>
    cases inLoop with
    | false => exact queued .shutdownInLoop rfl rfl
    | true =>
      refine carried.same (ledger_shutdownInLoop s.conn) ?_ carried.flows.shutdownInLoop
      rw [after (c := InFlight.finish ⟨true, .shutdown, isSet⟩ s.conn result) (Outputs.shutdownInLoop s.conn).plans]
      exact left

theorem Carried.handleWrite (carried : Carried s) {stage : Stage} (at_ : At s stage) (rest : List Handler)
    (write : WriteResult) : Carried { s with handlers := rest, conn := s.conn.handleWrite write } := by
  by_cases writing : s.conn.channel_.isWriting = true
  swap
  · rw [TcpConnection.handleWrite_idle (Bool.eq_false_iff.mpr writing)]
    exact carried.same rfl (List.Perm.refl _) carried.flows
  have up : s.conn.state_ ≠ .disconnected := by
    intro down
    rw [at_.idle down] at writing
    cases writing
  obtain ⟨entries, outputs, bytes, shape⟩ := Outputs.handleWrite writing write
  have flowing := (carried.flows up).handleWrite write
  have said : accepted (s.conn.handleWrite write).trace = accepted s.conn.trace ∧
      messages (s.conn.handleWrite write).trace = messages s.conn.trace := by
    rw [outputs.trace]
    rcases shape with rfl | ⟨rfl, _⟩ <;> exact ⟨rfl, rfl⟩
  refine ⟨?_, ⟨_, flowing.bytes⟩, fun _ => flowing⟩
  have way : s.onTheWay.Perm (Threads.onTheWay { s with handlers := rest, conn := s.conn.handleWrite write }) :=
    way_of_plans outputs.plans rfl
  rw [said.1, said.2]
  exact carried.account.trans (way.append_left _)

theorem Carried.handle (carried : Carried s) {stage : Stage} (at_ : At s stage) (read : ReadResult) (write : WriteResult) :
    Carried (s.handle read write) := by
  unfold Threads.handle
  split
  · exact carried
  rename_i handler rest handlers
  have closes : Carried { s with handlers := rest, conn := s.conn.handleClose } :=
    carried.same (ledger_handleClose s.conn) (way_of_plans (plans_handleClose s.conn) rfl) carried.flows.handleClose
  cases handler with
  | close => exact closes
  | error => exact carried.same rfl (List.Perm.refl _) carried.flows
  | read =>
    cases read with
    | data received => exact carried.same rfl (List.Perm.refl _) (carried.flows.of_flow rfl rfl)
    | eof => exact closes
    | error => exact carried.same rfl (List.Perm.refl _) carried.flows
  | write => exact carried.handleWrite at_ rest write

theorem Carried.functor (carried : Carried s) (alive : s.conn.aborted = false) {result : WriteResult}
    (healthy : result ≠ .fault) : Carried (s.functor result) := by
  unfold Threads.functor
  split
  · exact carried
  rename_i f functors batch
  have queue : s.conn.plans = if f.isPlan = true then f :: TcpConnection.plans { s.conn with functors }
      else TcpConnection.plans { s.conn with functors } := by
    simp only [TcpConnection.plans, batch, List.cons_append, List.filter_cons]
  have flows : FlowsUntilDown { s.conn with functors } := carried.flows.of_flow rfl rfl
  -- a functor that has no message
  have runs : ∀ c : TcpConnection, c.ledger = s.conn.ledger → c.plans = TcpConnection.plans { s.conn with functors } →
      f.message? = none → FlowsUntilDown c → Carried { s with conn := c } := by
    intro c ledger plans silent flows
    refine carried.same ledger ?_ flows
    rw [s.onTheWay_plans, Threads.onTheWay_plans, queue, plans]
    split
    · rw [List.filterMap_cons, silent]
    · exact List.Perm.refl _
  cases f with
  | connectEstablished =>
    obtain ⟨ledger, plans⟩ := ledger_connectEstablished { s.conn with functors }
    exact runs _ ledger plans rfl (flows.connectEstablished alive)
  | connectDestroyed =>
    obtain ⟨ledger, plans⟩ := ledger_connectDestroyed { s.conn with functors }
    exact runs _ ledger plans rfl (flows.connectDestroyed alive)
  | forceCloseInLoop =>
    obtain ⟨ledger, plans⟩ := ledger_forceCloseInLoop { s.conn with functors }
    exact runs _ ledger plans rfl flows.forceCloseInLoop
  | shutdownInLoop =>
    exact runs _ (ledger_shutdownInLoop { s.conn with functors }) (Outputs.shutdownInLoop _).plans rfl flows.shutdownInLoop
  | writeComplete | highWaterMark => exact runs _ rfl rfl rfl flows
  | sendInLoop msg =>
    refine carried.sends (c := { s.conn with functors }) healthy rfl rfl flows ?_
    have plans : (TcpConnection.runFunctor { s.conn with functors } result (.sendInLoop msg)).plans =
        TcpConnection.plans { s.conn with functors } := TcpConnection.plans_sendInLoop _ msg result
    rw [s.onTheWay_plans, Threads.onTheWay_plans, plans, queue]
    exact List.perm_middle

theorem Carried.step (carried : Carried s) {stage : Stage} (at_ : At s stage) {e : ThreadEvent} (orderly : Orderly s e)
    (healthy : e.faults = false) : Carried (s.step e) := by
  unfold Threads.step
  split
  · exact carried
  rename_i alive
  have alive : s.conn.aborted = false := Bool.eq_false_iff.mpr alive
  cases e with
  | call inLoop op =>
    dsimp only
    split
    · exact carried
    · exact carried.call inLoop op
  | resume i result =>
    refine carried.resume i ?_ orderly
    rintro rfl
    cases healthy
  | poll revents =>
    dsimp only
    split
    · exact carried.same rfl (List.Perm.refl _) carried.flows
    · exact carried
  | handle read write =>
    dsimp only
    split
    · exact carried.handle at_ read write
    · exact carried
  | swap =>
    dsimp only
    split
    · rename_i ready
      simp only [Bool.and_eq_true, List.isEmpty_iff] at ready
      refine carried.same rfl (way_of_plans ?_ rfl) (carried.flows.of_flow rfl rfl)
      simp only [TcpConnection.plans, ready.2, List.nil_append, List.append_nil]
    · exact carried
  | functor result =>
    dsimp only
    split
    · refine carried.functor alive ?_
      rintro rfl
      cases healthy
    · exact carried
  | mainLoop =>
    dsimp only
    split
    · obtain ⟨ledger, plans⟩ := ledger_removeConnectionInLoop { s.conn with removals := s.conn.removals - 1 }
      refine carried.same ledger (way_of_plans plans rfl) ?_
      exact FlowsUntilDown.removeConnectionInLoop (carried.flows.of_flow rfl rfl)
    · exact carried

end Step

/-! ### Whole runs -/

theorem carried_run (writeComplete : Bool) (highWater : Option Nat) {events : List ThreadEvent}
    (orderly : Meets Threads.step Orderly (Threads.new writeComplete highWater) events)
    (healthy : ∀ e ∈ events, e.faults = false) : Carried (run Threads.step (Threads.new writeComplete highWater) events) := by
  have calm : Meets Threads.step (fun _ e => e.faults = false) (Threads.new writeComplete highWater) events :=
    Meets.of_events Threads.step (fun e member _ => healthy e member) _
  refine (@run_invariant _ _ Threads.step _ (fun s => Staged s ∧ Carried s) _ _
    ⟨⟨.created, at_new writeComplete highWater⟩, carried_new writeComplete highWater⟩ ?_ (Meets.and Threads.step orderly calm)).2
  intro s e both meets
  obtain ⟨⟨stage, at_⟩, carried⟩ := both
  exact ⟨(at_.step meets.1).1, carried.step at_ meets.1 meets.2⟩

end IotGateway.Net
