import IotGateway.Net.Output
import IotGateway.Net.Lifecycle
import Mathlib.Data.List.Perm.Basic

/-!
# Nothing is written after the FIN

`send` and `shutdown` test the state in the thread of their caller. What they do next may
go through the queue of the loop, or happen at once, and `handleWrite` shuts the write
side as soon as the buffer is empty. So a message that `send` has accepted can be on its
way when the FIN goes out. As long as that does not happen, every accepted message is
written in full before the FIN and nothing is written after it.
-/

namespace IotGateway.Net
open Text

/-- The messages for which `send` found the connection up, in order. -/
def accepted : List Trace → List Bytes
  | [] => []
  | .accepted msg :: older => accepted older ++ [msg]
  | _ :: older => accepted older

def Op.message? : Op → Option Bytes
  | .send msg => some msg
  | .shutdown | .forceClose => none

def Functor.message? : Functor → Option Bytes
  | .sendInLoop msg => some msg
  | _ => none

namespace Threads

def queue (s : Threads) : List Functor := s.conn.functors ++ s.conn.pendingFunctors_

/-- The messages that `send` has accepted and that have not reached `sendInLoop`. -/
def onTheWay (s : Threads) : List Bytes :=
  (s.calls.map InFlight.op).filterMap Op.message? ++ s.queue.filterMap Functor.message?

/-- The step calls `shutdownWrite`. -/
def shutsWrite (s : Threads) : ThreadEvent → Bool
  | .resume i _ =>
    match s.calls[i]? with
    | none => false
    | some call => call.inLoop && call.op = .shutdown && call.set && !s.conn.channel_.isWriting
  | .functor _ =>
    s.loopFree && s.handlers.isEmpty && s.conn.functors.head? = some .shutdownInLoop && !s.conn.channel_.isWriting
  | .handle _ write =>
    s.loopFree && s.handlers.head? = some .write && s.conn.channel_.isWriting &&
      write.count s.conn.outputBuffer_.readableBytes = s.conn.outputBuffer_.readableBytes &&
      s.conn.state_ = .disconnecting
  | _ => false

end Threads

/-- When the write side is shut, no accepted message is on its way. -/
def Flushed (s : Threads) (e : ThreadEvent) : Prop := s.shutsWrite e = true → s.onTheWay = []

instance (s : Threads) (e : ThreadEvent) : Decidable (Flushed s e) := inferInstanceAs (Decidable (_ → _))

/-- Only `send` and `shutdown` are called, the peer does not close the connection, and no write fails with EPIPE or
ECONNRESET. -/
def Graceful : ThreadEvent → Prop
  | .call _ op => op ≠ .forceClose
  | .resume _ result | .functor result => result ≠ .fault
  | .poll revents => revents.hup = false
  | .handle read write => read ≠ .eof ∧ write ≠ .fault
  | .swap | .mainLoop => True

instance : DecidablePred Graceful
  | .call _ _ | .resume _ _ | .functor _ => inferInstanceAs (Decidable (_ ≠ _))
  | .poll _ => inferInstanceAs (Decidable (_ = _))
  | .handle _ _ => inferInstanceAs (Decidable (_ ∧ _))
  | .swap | .mainLoop => isTrue trivial

/-- Behind a FIN nothing is accepted or written, and before it the accepted messages were written in some order. -/
def Sealed : List Trace → Prop
  | [] => True
  | .write _ :: older | .accepted _ :: older => Sealed older ∧ .shutdownWrite ∉ older
  | .shutdownWrite :: older => Sealed older ∧ ∃ order : List Bytes, order.Perm (accepted older) ∧ order.flatten = written older
  | _ :: older => Sealed older

theorem Sealed.split {after before : List Trace} (closed : Sealed (after ++ .shutdownWrite :: before)) :
    (∀ bytes, .write bytes ∉ after) ∧ (∀ msg, .accepted msg ∉ after) ∧
      ∃ order : List Bytes, order.Perm (accepted before) ∧ order.flatten = written before := by
  induction after with
  | nil => exact ⟨fun _ => List.not_mem_nil, fun _ => List.not_mem_nil, closed.2⟩
  | cons t after ih =>
    have fin : Trace.shutdownWrite ∈ after ++ .shutdownWrite :: before := by simp
    cases t with
    | write bytes => exact absurd fin closed.2
    | accepted msg => exact absurd fin closed.2
    | shutdownWrite => simpa using ih closed.1
    | connectionCallback | messageCallback | closeCallback | sendInLoop | handleClose | epollDel => simpa using ih closed

/-! ### What the calls have queued -/

def Functor.isPlan : Functor → Bool
  | .sendInLoop _ | .shutdownInLoop | .forceCloseInLoop => true
  | _ => false

/-- The functors that come from calls of `send`, `shutdown` and `forceClose`. -/
def TcpConnection.plans (c : TcpConnection) : List Functor := (c.functors ++ c.pendingFunctors_).filter Functor.isPlan

theorem Outputs.plans {c c' : TcpConnection} {said : List Trace} (o : Outputs c c' said) : c'.plans = c.plans :=
  o.filter_queue fun f user => by cases f <;> first | rfl | cases user

theorem TcpConnection.plans_sendInLoop (c : TcpConnection) (data : Bytes) (result : WriteResult) :
    (c.sendInLoop data result).plans = c.plans := by
  obtain ⟨said, outputs, _⟩ := Outputs.sendInLoop c data result
  exact outputs.plans

/-! ### The invariant -/

def InFlight.messages (calls : List InFlight) : List Bytes := (calls.map InFlight.op).filterMap Op.message?

theorem Threads.onTheWay_plans (s : Threads) :
    s.onTheWay = InFlight.messages s.calls ++ s.conn.plans.filterMap Functor.message? := by
  have plan : ∀ f : Functor, (if f.isPlan = true then f.message? else none) = f.message? := by
    intro f
    cases f <;> rfl
  rw [TcpConnection.plans, List.filterMap_filter]
  simp only [plan]
  rfl

/-- No forced close is under way. A call that has set the state, or a shutdown in the queue, has left the connection
disconnecting. Every accepted message has reached `sendInLoop` or is on its way. After a FIN none is on its way and
nothing waits. -/
structure Draining (s : Threads) : Prop where
  up : s.conn.state_ ≠ .disconnected
  hangup : Handler.close ∉ s.handlers
  calls : ∀ call ∈ s.calls, call.op ≠ .forceClose ∧ (call.set = true → s.conn.state_ = .disconnecting)
  forced : Functor.forceCloseInLoop ∉ s.conn.plans
  closing : Functor.shutdownInLoop ∈ s.conn.plans → s.conn.state_ = .disconnecting
  flowing : Flowing s.conn
  account : (accepted s.conn.trace).Perm (messages s.conn.trace ++ s.onTheWay)
  shut : .shutdownWrite ∈ s.conn.trace →
    s.conn.state_ = .disconnecting ∧ s.onTheWay = [] ∧ s.conn.channel_.isWriting = false
  closed : Sealed s.conn.trace

theorem draining_new (writeComplete : Bool) (highWater : Option Nat) : Draining (Threads.new writeComplete highWater) where
  up := fun down => by cases down
  hangup := List.not_mem_nil
  calls := fun call member => by cases member
  forced := by simp [Threads.new, newConnection, TcpConnection.plans, Functor.isPlan]
  closing := by simp [Threads.new, newConnection, TcpConnection.plans, Functor.isPlan]
  flowing := flowsUntilDown_newConnection writeComplete highWater fun down => by cases down
  account := List.Perm.refl []
  shut := fun fin => by cases fin
  closed := trivial

/-- Entries of the trace that say nothing about messages and the FIN. -/
def Trace.isPlain : Trace → Bool
  | .accepted _ | .sendInLoop _ | .write _ | .shutdownWrite => false
  | _ => true

/-- A step that asks for nothing new. -/
theorem Draining.asks_less {s s' : Threads} (d : Draining s) (state : s'.conn.state_ = s.conn.state_)
    (hangup : Handler.close ∉ s'.handlers) (calls : s'.calls ⊆ s.calls) (plans : s'.conn.plans ⊆ s.conn.plans)
    (flowing : Flowing s'.conn) (account : (accepted s'.conn.trace).Perm (messages s'.conn.trace ++ s'.onTheWay))
    (shut : .shutdownWrite ∈ s'.conn.trace →
      s.conn.state_ = .disconnecting ∧ s'.onTheWay = [] ∧ s'.conn.channel_.isWriting = false)
    (closed : Sealed s'.conn.trace) : Draining s' where
  up := state ▸ d.up
  hangup := hangup
  calls := by rw [state]; exact fun call member => d.calls call (calls member)
  forced := fun member => d.forced (plans member)
  closing := by rw [state]; exact fun member => d.closing (plans member)
  flowing := flowing
  account := account
  shut := by rw [state]; exact shut
  closed := closed

/-- A step that touches neither messages nor the queue. -/
theorem Draining.of_plans {s s' : Threads} (d : Draining s) (state : s'.conn.state_ = s.conn.state_)
    (flow : s'.conn.flow = s.conn.flow) (plans : s'.conn.plans = s.conn.plans) (calls : s'.calls = s.calls)
    (hangup : Handler.close ∉ s'.handlers)
    (trace : s'.conn.trace = s.conn.trace ∨ ∃ t : Trace, t.isPlain = true ∧ s'.conn.trace = t :: s.conn.trace) :
    Draining s' := by
  have way : s'.onTheWay = s.onTheWay := by rw [s'.onTheWay_plans, s.onTheWay_plans, calls, plans]
  have writing : s'.conn.channel_.isWriting = s.conn.channel_.isWriting := congrArg (fun f => f.2.2.2) flow
  have msgs : messages s'.conn.trace = messages s.conn.trace := congrArg (fun f => f.2.1) flow
  have said : accepted s'.conn.trace = accepted s.conn.trace ∧
      (Trace.shutdownWrite ∈ s'.conn.trace ↔ Trace.shutdownWrite ∈ s.conn.trace) ∧ Sealed s'.conn.trace := by
    rcases trace with same | ⟨t, plain, more⟩
    · rw [same]
      exact ⟨rfl, Iff.rfl, d.closed⟩
    · rw [more]
      cases t with
      | accepted | sendInLoop | write | shutdownWrite => cases plain
      | connectionCallback | messageCallback | closeCallback | handleClose | epollDel =>
        exact ⟨rfl, by simp, d.closed⟩
  obtain ⟨kept, fin, closed⟩ := said
  refine d.asks_less state hangup (calls ▸ List.Subset.refl _) (plans ▸ List.Subset.refl _) (d.flowing.of_flow flow) ?_ ?_ closed
  · rw [kept, msgs, way]
    exact d.account
  · rw [fin, way, writing]
    exact d.shut

/-! ### One step -/

theorem InFlight.messages_set {calls : List InFlight} {i : Nat} {call : InFlight} (found : calls[i]? = some call) :
    messages (calls.set i { call with set := true }) = messages calls := by
  have ops : (calls.set i { call with set := true }).map InFlight.op = calls.map InFlight.op := by
    rw [List.map_set]
    refine List.ext_getElem? fun j => ?_
    rcases eq_or_ne i j with rfl | other
    · rw [List.getElem?_set_self (by simpa using (List.getElem?_eq_some_iff.mp found).1), List.getElem?_map, found]
      rfl
    · rw [List.getElem?_set_ne other]
  rw [messages, messages, ops]

theorem InFlight.messages_erase {calls : List InFlight} {i : Nat} {call : InFlight} (found : calls[i]? = some call) :
    (messages calls).Perm (call.op.message?.toList ++ messages (calls.eraseIdx i)) := by
  obtain ⟨inside, rfl⟩ := List.getElem?_eq_some_iff.mp found
  have split := ((List.getElem_cons_eraseIdx_perm inside).symm.map InFlight.op).filterMap Op.message?
  rw [List.map_cons, List.filterMap_cons] at split
  unfold messages
  cases message : calls[i].op.message? with
  | none | some msg =>
    rw [message] at split
    exact split

/-- A message reaches `sendInLoop`. -/
theorem Draining.sends {s s' : Threads} (d : Draining s) {c : TcpConnection} {msg : Bytes} {result : WriteResult}
    (healthy : result ≠ .fault) (conn : s'.conn = c.sendInLoop msg result) (state : c.state_ = s.conn.state_)
    (flow : c.flow = s.conn.flow) (trace : c.trace = s.conn.trace) (handlers : s'.handlers = s.handlers)
    (calls : s'.calls ⊆ s.calls) (plans : c.plans ⊆ s.conn.plans) (way : s.onTheWay.Perm (msg :: s'.onTheWay)) :
    Draining s' := by
  have open_ : Trace.shutdownWrite ∉ s.conn.trace := by
    intro fin
    rw [(d.shut fin).2.1] at way
    exact List.cons_ne_nil _ _ way.nil_eq.symm
  obtain ⟨entries, outputs, shape⟩ := Outputs.sendInLoop c msg result
  rw [← conn] at outputs
  have state' : s'.conn.state_ = s.conn.state_ := outputs.state.trans state
  have plans' : s'.conn.plans ⊆ s.conn.plans := by
    rw [outputs.plans]
    exact plans
  have said : accepted s'.conn.trace = accepted s.conn.trace ∧ messages s'.conn.trace = messages s.conn.trace ++ [msg] ∧
      Trace.shutdownWrite ∉ s'.conn.trace ∧ Sealed s'.conn.trace := by
    rw [outputs.trace, trace]
    rcases shape with rfl | ⟨bytes, rfl⟩
    · exact ⟨rfl, rfl, by simpa using open_, d.closed⟩
    · exact ⟨rfl, rfl, by simpa using open_, d.closed, by simpa using open_⟩
  obtain ⟨kept, reached, unshut, closed⟩ := said
  refine d.asks_less state' (handlers ▸ d.hangup) calls plans' ?_ ?_ (fun fin => absurd fin unshut) closed
  · rw [conn]
    exact (d.flowing.of_flow flow).sendInLoop (state ▸ d.up) msg healthy
  · rw [kept, reached, List.append_assoc]
    exact d.account.trans (way.append_left _)

/-- The write side is asked to shut while the connection is disconnecting. -/
theorem Draining.shuts {s s' : Threads} (d : Draining s) {c : TcpConnection} (conn : s'.conn = c.shutdownInLoop)
    (disconnecting : s.conn.state_ = .disconnecting) (state : c.state_ = s.conn.state_) (flow : c.flow = s.conn.flow)
    (trace : c.trace = s.conn.trace) (handlers : s'.handlers = s.handlers) (calls : s'.calls ⊆ s.calls)
    (plans : c.plans ⊆ s.conn.plans) (way : s.onTheWay.Perm s'.onTheWay)
    (flushed : c.channel_.isWriting = false → s.onTheWay = []) : Draining s' := by
  have flowing : Flowing c := d.flowing.of_flow flow
  have outputs := Outputs.shutdownInLoop c
  rw [← conn] at outputs
  have state' : s'.conn.state_ = s.conn.state_ := outputs.state.trans state
  have plans' : s'.conn.plans ⊆ s.conn.plans := by
    rw [outputs.plans]
    exact plans
  have writing : s'.conn.channel_ = c.channel_ := by rw [conn, TcpConnection.channel_shutdownInLoop]
  have account : (accepted c.trace).Perm (messages c.trace ++ s.onTheWay) := trace ▸ d.account
  have said : (accepted s'.conn.trace).Perm (messages s'.conn.trace ++ s.onTheWay) ∧ Sealed s'.conn.trace ∧
      (Trace.shutdownWrite ∈ s'.conn.trace → s.onTheWay = [] ∧ c.channel_.isWriting = false) := by
    rw [conn, TcpConnection.shutdownInLoop]
    split
    · refine ⟨account, trace ▸ d.closed, fun fin => ?_⟩
      have before := d.shut (trace ▸ fin)
      exact ⟨before.2.1, (congrArg (fun f => f.2.2.2) flow).trans before.2.2⟩
    · rename_i off
      have idle : c.channel_.isWriting = false := Bool.eq_false_iff.mpr off
      have empty : c.outputBuffer_.readable = [] := Classical.not_not.mp (mt flowing.interest.mpr off)
      refine ⟨account, ⟨trace ▸ d.closed, messages c.trace, ?_, ?_⟩, fun _ => ⟨flushed idle, idle⟩⟩
      · rw [flushed idle, List.append_nil] at account
        exact account.symm
      · rw [← flowing.bytes, empty, List.append_nil]
  obtain ⟨kept, closed, shut⟩ := said
  refine d.asks_less state' (handlers ▸ d.hangup) calls plans' ?_ (kept.trans (way.append_left _)) (fun fin => ?_) closed
  · rw [conn]
    exact flowing.of_flow (flow_shutdownInLoop c)
  · obtain ⟨none, idle⟩ := shut fin
    rw [none] at way
    exact ⟨disconnecting, way.nil_eq.symm, by rw [writing]; exact idle⟩

theorem TcpConnection.plans_queueInLoop_plan (c : TcpConnection) {f : Functor} (plan : f.isPlan = true) :
    (c.queueInLoop f).plans = c.plans ++ [f] := by
  simp [plans, queueInLoop, plan]

/-- A call of another thread ends with an entry in the queue. -/
theorem Draining.queues {s s' : Threads} (d : Draining s) {f : Functor} (plan : f.isPlan = true)
    (conn : s'.conn = s.conn.queueInLoop f) (handlers : s'.handlers = s.handlers) (calls : s'.calls ⊆ s.calls)
    (unforced : f ≠ .forceCloseInLoop) (closing : f = .shutdownInLoop → s.conn.state_ = .disconnecting)
    (way : s.onTheWay.Perm s'.onTheWay) : Draining s' := by
  have plans : s'.conn.plans = s.conn.plans ++ [f] := by rw [conn, s.conn.plans_queueInLoop_plan plan]
  have same : s'.conn.state_ = s.conn.state_ ∧ s'.conn.flow = s.conn.flow ∧ s'.conn.trace = s.conn.trace ∧
      s'.conn.channel_ = s.conn.channel_ := by
    rw [conn]
    exact ⟨rfl, rfl, rfl, rfl⟩
  obtain ⟨state, flow, trace, channel⟩ := same
  exact
    { up := state ▸ d.up
      hangup := handlers ▸ d.hangup
      calls := by rw [state]; exact fun call member => d.calls call (calls member)
      forced := by
        rw [plans, List.mem_append, List.mem_singleton]
        exact fun member => member.elim d.forced fun same => unforced same.symm
      closing := by
        rw [plans, List.mem_append, List.mem_singleton, state]
        exact fun member => member.elim d.closing fun same => closing same.symm
      flowing := d.flowing.of_flow flow
      account := by rw [trace]; exact d.account.trans (way.append_left _)
      shut := by
        rw [trace, state, channel]
        intro fin
        obtain ⟨disconnecting, none, idle⟩ := d.shut fin
        rw [none] at way
        exact ⟨disconnecting, way.nil_eq.symm, idle⟩
      closed := trace ▸ d.closed }

section Step

variable {s : Threads}

theorem Draining.call (d : Draining s) (inLoop : Bool) {op : Op} (gentle : op ≠ .forceClose) :
    Draining (s.call inLoop op) := by
  unfold Threads.call
  split
  swap
  · exact d
  rename_i wanted
  have connected : s.conn.state_ = .connected := by
    cases op with
    | send | shutdown => exact of_decide_eq_true wanted
    | forceClose => exact absurd rfl gentle
  have unshut : Trace.shutdownWrite ∉ s.conn.trace := by
    intro fin
    have disconnecting := (d.shut fin).1
    rw [connected] at disconnecting
    cases disconnecting
  have calls : ∀ call ∈ s.calls ++ [({ inLoop, op } : InFlight)],
      call.op ≠ .forceClose ∧ (call.set = true → s.conn.state_ = .disconnecting) := by
    intro call member
    rcases List.mem_append.mp member with before | new
    · exact d.calls call before
    · obtain rfl := List.mem_singleton.mp new
      exact ⟨gentle, fun set => by cases set⟩
  cases op with
  | forceClose => exact absurd rfl gentle
  | shutdown =>
    have way : Threads.onTheWay { s with calls := s.calls ++ [{ inLoop, op := .shutdown }] } = s.onTheWay := by
      simp [Threads.onTheWay, Threads.queue, Op.message?]
    exact { d with calls, account := way ▸ d.account, shut := fun fin => absurd fin unshut }
  | send msg =>
    refine
      { up := d.up, hangup := d.hangup, calls, forced := d.forced, closing := d.closing
        flowing := d.flowing.of_flow rfl
        account := ?_
        shut := fun fin => absurd fin (by simpa [TcpConnection.record] using unshut)
        closed := ⟨d.closed, unshut⟩ }
    have way : Threads.onTheWay ⟨s.conn.record (.accepted msg), s.polled, s.handlers, s.calls ++ [{ inLoop, op := .send msg }]⟩ =
        InFlight.messages s.calls ++ ([msg] ++ s.queue.filterMap Functor.message?) := by
      simp [Threads.onTheWay, Threads.queue, TcpConnection.record, InFlight.messages, Op.message?]
    rw [way]
    refine (d.account.append_right [msg]).trans ?_
    rw [List.append_assoc]
    refine List.Perm.append_left _ ?_
    rw [Threads.onTheWay, List.append_assoc]
    exact List.perm_append_comm.append_left _

theorem Draining.sets (d : Draining s) {i : Nat} {call : InFlight} (found : s.calls[i]? = some call) :
    Draining { s with conn := s.conn.setState .disconnecting, calls := s.calls.set i { call with set := true } } := by
  have way : Threads.onTheWay { s with
      conn := s.conn.setState .disconnecting, calls := s.calls.set i { call with set := true } } = s.onTheWay := by
    rw [Threads.onTheWay_plans, Threads.onTheWay_plans, InFlight.messages_set found]
    rfl
  exact
    { up := fun down => by cases down
      hangup := d.hangup
      calls := by
        intro call' member
        refine ⟨?_, fun _ => rfl⟩
        rcases List.mem_or_eq_of_mem_set member with before | rfl
        · exact (d.calls call' before).1
        · exact (d.calls call (List.mem_of_getElem? found)).1
      forced := d.forced
      closing := fun _ => rfl
      flowing := d.flowing.of_flow rfl
      account := way ▸ d.account
      shut := by rw [way]; exact fun fin => ⟨rfl, (d.shut fin).2⟩
      closed := d.closed }

theorem Draining.resume (d : Draining s) (i : Nat) {result : WriteResult} (healthy : result ≠ .fault)
    (flushed : Flushed s (.resume i result)) : Draining (s.resume i result) := by
  unfold Threads.resume
  split
  · exact d
  rename_i call found
  split
  · exact d.sets found
  rename_i done
  obtain ⟨gentle, set⟩ := d.calls call (List.mem_of_getElem? found)
  have fewer : s.calls.eraseIdx i ⊆ s.calls := fun _ => List.mem_of_mem_eraseIdx
  have left := (InFlight.messages_erase found).append_right (s.conn.plans.filterMap Functor.message?)
  rw [← s.onTheWay_plans] at left
  have after : ∀ {c : TcpConnection} {plans : List Functor}, c.plans = plans →
      Threads.onTheWay ⟨c, s.polled, s.handlers, s.calls.eraseIdx i⟩ =
        InFlight.messages (s.calls.eraseIdx i) ++ plans.filterMap Functor.message? := by
    rintro c _ rfl
    exact Threads.onTheWay_plans _
  obtain ⟨inLoop, op, isSet⟩ := call
  cases op with
  | forceClose => exact absurd rfl gentle
  | send msg =>
    cases inLoop with
    | true =>
      refine d.sends healthy rfl rfl rfl rfl rfl fewer (List.Subset.refl _) ?_
      have plans : (InFlight.finish ⟨true, .send msg, isSet⟩ s.conn result).plans = s.conn.plans :=
        s.conn.plans_sendInLoop msg result
      rw [after plans]
      exact left
    | false =>
      refine d.queues rfl rfl rfl fewer (fun forced => by cases forced) (fun shuts => by cases shuts) ?_
      have plans : (InFlight.finish ⟨false, .send msg, isSet⟩ s.conn result).plans = s.conn.plans ++ [.sendInLoop msg] :=
        s.conn.plans_queueInLoop_plan rfl
      rw [after plans, List.filterMap_append, ← List.append_assoc]
      rw [List.append_assoc] at left
      exact left.trans List.perm_append_comm
  | shutdown =>
    have isSet' : isSet = true := by simpa [InFlight.sets] using done
    cases inLoop with
    | true =>
      refine d.shuts rfl (set isSet') rfl rfl rfl rfl fewer (List.Subset.refl _) ?_ ?_
      · have plans : (InFlight.finish ⟨true, .shutdown, isSet⟩ s.conn result).plans = s.conn.plans :=
          (Outputs.shutdownInLoop s.conn).plans
        rw [after plans]
        exact left
      · intro idle
        exact flushed (by simp [Threads.shutsWrite, found, isSet', idle])
    | false =>
      refine d.queues rfl rfl rfl fewer (fun forced => by cases forced) (fun _ => set isSet') ?_
      have plans : (InFlight.finish ⟨false, .shutdown, isSet⟩ s.conn result).plans = s.conn.plans ++ [.shutdownInLoop] :=
        s.conn.plans_queueInLoop_plan rfl
      rw [after plans, List.filterMap_append, show [Functor.shutdownInLoop].filterMap Functor.message? = [] from rfl,
        List.append_nil]
      exact left

theorem Draining.poll (d : Draining s) {r : Revents} (calm : r.hup = false) :
    Draining { s with polled := true, handlers := r.handlers } := by
  refine d.of_plans rfl rfl rfl rfl ?_ (Or.inl rfl)
  simp [Revents.handlers, calm]

theorem Draining.swap (d : Draining s) (taken : s.conn.functors = []) :
    Draining { s with
      polled := false
      conn := { s.conn with functors := s.conn.pendingFunctors_, pendingFunctors_ := [] } } := by
  refine d.of_plans rfl rfl ?_ rfl d.hangup (Or.inl rfl)
  simp only [TcpConnection.plans, taken, List.nil_append, List.append_nil]

theorem Draining.handleWrite (d : Draining s) {rest : List Handler} (shorter : rest ⊆ s.handlers) (write : WriteResult)
    (flushed : s.conn.channel_.isWriting = true → s.conn.state_ = .disconnecting →
      write.count s.conn.outputBuffer_.readableBytes = s.conn.outputBuffer_.readableBytes → s.onTheWay = []) :
    Draining { s with handlers := rest, conn := s.conn.handleWrite write } := by
  have hangup : Handler.close ∉ rest := fun member => d.hangup (shorter member)
  by_cases writing : s.conn.channel_.isWriting = true
  swap
  · rw [TcpConnection.handleWrite_idle (Bool.eq_false_iff.mpr writing)]
    exact d.of_plans rfl rfl rfl rfl hangup (Or.inl rfl)
  have unshut : Trace.shutdownWrite ∉ s.conn.trace := by
    intro fin
    rw [(d.shut fin).2.2] at writing
    cases writing
  obtain ⟨entries, outputs, bytes, shape⟩ := Outputs.handleWrite writing write
  have plans := outputs.plans
  have way : Threads.onTheWay { s with handlers := rest, conn := s.conn.handleWrite write } = s.onTheWay := by
    rw [Threads.onTheWay_plans, plans, s.onTheWay_plans]
  have flowing := d.flowing.handleWrite write
  have said : accepted (s.conn.handleWrite write).trace = accepted s.conn.trace ∧
      messages (s.conn.handleWrite write).trace = messages s.conn.trace ∧ Sealed (s.conn.handleWrite write).trace ∧
      (Trace.shutdownWrite ∈ (s.conn.handleWrite write).trace →
        s.conn.state_ = .disconnecting ∧ s.onTheWay = [] ∧ (s.conn.handleWrite write).channel_.isWriting = false) := by
    have trace := outputs.trace
    rcases shape with rfl | ⟨rfl, idle, disconnecting, drained⟩
    · rw [trace]
      exact ⟨rfl, rfl, ⟨d.closed, unshut⟩, fun fin => absurd fin (by simpa using unshut)⟩
    · have none := flushed writing disconnecting drained
      have empty : (s.conn.handleWrite write).outputBuffer_.readable = [] :=
        Classical.not_not.mp (mt flowing.interest.mpr (Bool.eq_false_iff.mp idle))
      have bytes' := flowing.bytes
      rw [empty, List.append_nil, trace] at bytes'
      rw [trace]
      refine ⟨rfl, rfl, ⟨⟨d.closed, unshut⟩, messages s.conn.trace, ?_, bytes'.symm⟩, fun _ => ⟨disconnecting, none, idle⟩⟩
      have account := d.account
      rw [none, List.append_nil] at account
      exact account.symm
  obtain ⟨kept, reached, closed, shut⟩ := said
  refine d.asks_less outputs.state hangup (List.Subset.refl _) (plans ▸ List.Subset.refl _) flowing ?_ ?_ closed
  · rw [kept, reached, way]
    exact d.account
  · rw [way]
    exact shut

theorem Draining.handle (d : Draining s) {read : ReadResult} {write : WriteResult} (calm : read ≠ .eof)
    (free : s.loopFree = true) (flushed : Flushed s (.handle read write)) : Draining (s.handle read write) := by
  unfold Threads.handle
  split
  · exact d
  rename_i handler rest handlers
  have shorter : rest ⊆ s.handlers := handlers ▸ List.subset_cons_self handler rest
  have hangup : Handler.close ∉ rest := fun member => d.hangup (shorter member)
  cases handler with
  | close => exact absurd (handlers ▸ List.mem_cons_self) d.hangup
  | error => exact d.of_plans rfl rfl rfl rfl hangup (Or.inl rfl)
  | read =>
    cases read with
    | data received => exact d.of_plans rfl rfl rfl rfl hangup (Or.inr ⟨.messageCallback received, rfl, rfl⟩)
    | eof => exact absurd rfl calm
    | error => exact d.of_plans rfl rfl rfl rfl hangup (Or.inl rfl)
  | write =>
    refine d.handleWrite shorter write fun writing disconnecting drained => flushed ?_
    simp [Threads.shutsWrite, free, handlers, writing, disconnecting, drained]

/-- A connection that is not down waits for no removal. -/
theorem At.unremoved {stage : Stage} (at_ : At s stage) (up : s.conn.state_ ≠ .disconnected) :
    s.conn.removals = 0 ∧ Functor.connectDestroyed ∉ s.conn.functors := by
  have early : stage.down = false := by
    rw [← Bool.not_eq_true]
    exact mt at_.down.mp up
  have functors : (s.conn.functors ++ s.conn.pendingFunctors_).filter Functor.isLife = stage.functors :=
    congrArg Life.functors at_.life
  have removals : s.conn.removals = stage.removals := congrArg Life.removals at_.life
  have absent : stage.removals = 0 ∧ Functor.connectDestroyed ∉ stage.functors := by
    cases stage with
    | created | up => exact ⟨rfl, by decide⟩
    | closed | released | gone => cases early
  refine ⟨removals.trans absent.1, fun member => absent.2 ?_⟩
  rw [← functors]
  exact List.mem_filter.mpr ⟨List.mem_append_left _ member, rfl⟩

theorem Draining.connectEstablished (d : Draining s) {functors : List Functor}
    (plans : TcpConnection.plans { s.conn with functors } = s.conn.plans) :
    Draining { s with conn := { s.conn with functors }.connectEstablished } := by
  unfold TcpConnection.connectEstablished
  split
  swap
  · exact d.of_plans rfl rfl plans rfl d.hangup (Or.inl rfl)
  rename_i connecting
  have early : s.conn.state_ ≠ .disconnecting := by
    rw [show s.conn.state_ = .connecting from connecting]
    decide
  -- until now nothing has set the state or shut the write side
  have unshut : Trace.shutdownWrite ∉ s.conn.trace := fun fin => early (d.shut fin).1
  refine
    { up := fun down => by cases down
      hangup := d.hangup
      calls := fun call member => ⟨(d.calls call member).1, fun set => absurd ((d.calls call member).2 set) early⟩
      forced := fun member => d.forced (plans ▸ member)
      closing := fun member => absurd (d.closing (plans ▸ member)) early
      flowing := d.flowing.of_flow rfl
      account := ?_
      shut := fun fin => absurd fin (List.not_mem_cons_of_ne_of_not_mem (fun same => by cases same) unshut)
      closed := d.closed }
  have way : Threads.onTheWay ⟨{ s.conn with functors }, s.polled, s.handlers, s.calls⟩ = s.onTheWay := by
    rw [Threads.onTheWay_plans, plans, s.onTheWay_plans]
  have account := d.account
  rw [← way] at account
  exact account

theorem Draining.functor (d : Draining s) {stage : Stage} (at_ : At s stage) {result : WriteResult}
    (healthy : result ≠ .fault) (free : s.loopFree = true) (handled : s.handlers = [])
    (flushed : Flushed s (.functor result)) : Draining (s.functor result) := by
  unfold Threads.functor
  split
  · exact d
  rename_i f functors batch
  have head : f ∈ s.conn.functors := batch ▸ List.mem_cons_self
  have queue : s.conn.plans = if f.isPlan = true then f :: TcpConnection.plans { s.conn with functors }
      else TcpConnection.plans { s.conn with functors } := by
    simp only [TcpConnection.plans, batch, List.cons_append, List.filter_cons]
  have fewer : TcpConnection.plans { s.conn with functors } ⊆ s.conn.plans := by
    rw [queue]
    split
    · exact List.subset_cons_self _ _
    · exact List.Subset.refl _
  cases f with
  | connectEstablished => exact d.connectEstablished queue.symm
  | connectDestroyed => exact absurd head (at_.unremoved d.up).2
  | forceCloseInLoop => exact absurd (queue ▸ List.mem_cons_self) d.forced
  | writeComplete | highWaterMark => exact d.of_plans rfl rfl queue.symm rfl d.hangup (Or.inl rfl)
  | sendInLoop msg =>
    refine d.sends (c := { s.conn with functors }) healthy rfl rfl rfl rfl rfl (List.Subset.refl _) fewer ?_
    have plans : (TcpConnection.runFunctor { s.conn with functors } result (.sendInLoop msg)).plans =
        TcpConnection.plans { s.conn with functors } := TcpConnection.plans_sendInLoop _ msg result
    rw [s.onTheWay_plans, Threads.onTheWay_plans, plans, queue]
    exact List.perm_middle
  | shutdownInLoop =>
    have disconnecting : s.conn.state_ = .disconnecting := d.closing (queue ▸ List.mem_cons_self)
    refine d.shuts (c := { s.conn with functors }) rfl disconnecting rfl rfl rfl rfl (List.Subset.refl _) fewer ?_ ?_
    · have plans : (TcpConnection.runFunctor { s.conn with functors } result .shutdownInLoop).plans =
          TcpConnection.plans { s.conn with functors } := (Outputs.shutdownInLoop _).plans
      rw [s.onTheWay_plans, Threads.onTheWay_plans, plans, queue]
      exact List.Perm.refl _
    · intro idle
      refine flushed ?_
      simp only [Threads.shutsWrite, free, handled, batch]
      simpa using idle

theorem Draining.step (d : Draining s) {stage : Stage} (at_ : At s stage) {e : ThreadEvent} (graceful : Graceful e)
    (flushed : Flushed s e) : Draining (s.step e) := by
  unfold Threads.step
  split
  · exact d
  cases e with
  | call inLoop op =>
    dsimp only
    split
    · exact d
    · exact d.call inLoop graceful
  | resume i result => exact d.resume i graceful flushed
  | poll revents =>
    dsimp only
    split
    · exact d.poll graceful
    · exact d
  | handle read write =>
    dsimp only
    split
    · rename_i free
      exact d.handle graceful.1 free flushed
    · exact d
  | swap =>
    dsimp only
    split
    · rename_i ready
      simp only [Bool.and_eq_true, List.isEmpty_iff] at ready
      exact d.swap ready.2
    · exact d
  | functor result =>
    dsimp only
    split
    · rename_i ready
      simp only [Bool.and_eq_true, List.isEmpty_iff] at ready
      exact d.functor at_ graceful ready.1 ready.2 flushed
    · exact d
  | mainLoop =>
    dsimp only
    split
    · rename_i waiting
      rw [(at_.unremoved d.up).1] at waiting
      cases waiting
    · exact d

end Step

/-! ### Whole runs -/

theorem orderly_of_up {s : Threads} (up : s.conn.state_ ≠ .disconnected) (e : ThreadEvent) : Orderly s e := by
  cases e with
  | resume i result => exact fun _ _ _ => up
  | handle read write => exact fun _ => up
  | call | poll | swap | functor | mainLoop => trivial

theorem Draining.run {s : Threads} (staged : Staged s) (d : Draining s) {events : List ThreadEvent}
    (graceful : Meets Threads.step (fun _ e => Graceful e) s events) (flushed : Meets Threads.step Flushed s events) :
    Staged (run Threads.step s events) ∧ Draining (run Threads.step s events) := by
  refine @run_invariant _ _ Threads.step _ (fun s => Staged s ∧ Draining s) _ _ ⟨staged, d⟩ ?_
    (Meets.and Threads.step graceful flushed)
  rintro s e ⟨⟨stage, at_⟩, draining⟩ ⟨gentle, empty⟩
  exact ⟨(at_.step (orderly_of_up draining.up e)).1, draining.step at_ gentle empty⟩

/-- In every interleaving of `send` and `shutdown` in which no accepted message is on its way when the write side is shut,
every accepted message has been written in full before the FIN, and nothing is accepted or written behind it. -/
theorem nothing_behind_fin (writeComplete : Bool) (highWater : Option Nat) (events : List ThreadEvent)
    (graceful : ∀ e ∈ events, Graceful e) (flushed : Meets Threads.step Flushed (Threads.new writeComplete highWater) events)
    (after before : List Trace)
    (fin : (run Threads.step (Threads.new writeComplete highWater) events).conn.trace = after ++ .shutdownWrite :: before) :
    (∀ bytes, .write bytes ∉ after) ∧ (∀ msg, .accepted msg ∉ after) ∧
      ∃ order : List Bytes, order.Perm (accepted before) ∧ order.flatten = written before := by
  have calm : Meets Threads.step (fun _ e => Graceful e) (Threads.new writeComplete highWater) events :=
    Meets.of_events Threads.step (fun e member _ => graceful e member) _
  have draining : Staged _ ∧ Draining _ :=
    Draining.run ⟨.created, at_new writeComplete highWater⟩ (draining_new writeComplete highWater) calm flushed
  have closed := draining.2.closed
  rw [fin] at closed
  exact closed.split

/-- Another thread sends, the loop writes a part, and another thread shuts down. The FIN waits for the rest. -/
def sendThenShutdown : List ThreadEvent :=
  establish ++ [.call false (.send (ascii "temp")), .resume 0 .again, .poll {}, .swap, .functor (.wrote 1)] ++
    otherShutdown ++ [.poll { writable := true }, .handle .error (.wrote 3), .swap]

theorem nothing_behind_fin_drained :
    let before : List Trace := [.write (ascii "emp"), .write (ascii "t"), .sendInLoop (ascii "temp"), .accepted (ascii "temp"),
      .connectionCallback true]
    (run Threads.step (Threads.new false none) sendThenShutdown).conn.trace = [] ++ .shutdownWrite :: before ∧
      ∃ order : List Bytes, order.Perm (accepted before) ∧ order.flatten = written before := by
  intro before
  have graceful : ∀ e ∈ sendThenShutdown, Graceful e := by decide +kernel
  have flushed : Meets Threads.step Flushed (Threads.new false none) sendThenShutdown := by decide +kernel
  have fin : (run Threads.step (Threads.new false none) sendThenShutdown).conn.trace = [] ++ .shutdownWrite :: before := by
    decide +kernel
  exact ⟨fin, (nothing_behind_fin false none sendThenShutdown graceful flushed [] before fin).2.2⟩

/-- Another thread sends and its message is queued. The loop thread shuts the connection down at once. -/
def sendOvertaken : List ThreadEvent :=
  establish ++ [.call false (.send (ascii "temp")), .resume 0 .again, .call true .shutdown, .resume 0 .again,
    .resume 0 .again]

/-- The FIN goes out before the accepted message. The loop still calls `sendInLoop`, and its write fails with EPIPE. -/
theorem accepted_behind_fin :
    let before : List Trace := [.accepted (ascii "temp"), .connectionCallback true]
    let s := run Threads.step (Threads.new false none) sendOvertaken
    (∀ e ∈ sendOvertaken, Graceful e) ∧ s.conn.trace = [] ++ .shutdownWrite :: before ∧
      accepted before = [ascii "temp"] ∧ written before = [] ∧ s.onTheWay = [ascii "temp"] ∧
      (run Threads.step s [.poll {}, .swap, .functor .fault]).conn.trace =
        [.write [], .sendInLoop (ascii "temp")] ++ .shutdownWrite :: before := by
  intro before s
  exact ⟨by decide +kernel, by decide +kernel, rfl, rfl, by decide +kernel, by decide +kernel⟩

end IotGateway.Net
