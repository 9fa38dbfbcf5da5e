import IotGateway.Net.TcpServer
import IotGateway.Net.Lifecycle

/-!
# A connection in its surroundings

The part of a loop, of the main loop and of `connections_` that concerns one connection.
What runs on the connection alone neither reads nor loses what its surroundings hold for
it, so a step of the connection between its threads is a step of the connection by itself.
-/

namespace IotGateway.Net
open Text Gateway

namespace TcpConnection

/-- The connection when the loop and the server already hold something for it. -/
def within (c : TcpConnection) (functors queued : List Functor) (removals : Nat) (listed : Bool) : TcpConnection :=
  { c with functors, pendingFunctors_ := queued ++ c.pendingFunctors_, removals := removals + c.removals, listed }

section Within

variable (c : TcpConnection) (functors queued : List Functor) (removals : Nat) (listed : Bool)

@[simp] theorem within_state : (c.within functors queued removals listed).state_ = c.state_ := rfl

@[simp] theorem within_channel : (c.within functors queued removals listed).channel_ = c.channel_ := rfl

@[simp] theorem within_outputBuffer : (c.within functors queued removals listed).outputBuffer_ = c.outputBuffer_ := rfl

@[simp] theorem within_aborted : (c.within functors queued removals listed).aborted = c.aborted := rfl

@[simp] theorem within_record (t : Trace) :
    (c.within functors queued removals listed).record t = (c.record t).within functors queued removals listed := rfl

@[simp] theorem within_setState (state : ConnState) :
    (c.within functors queued removals listed).setState state = (c.setState state).within functors queued removals listed :=
  rfl

@[simp] theorem within_setChannel (ch : Channel) :
    (c.within functors queued removals listed).setChannel ch = (c.setChannel ch).within functors queued removals listed := rfl

@[simp] theorem within_closeCallback :
    (c.within functors queued removals listed).closeCallback = c.closeCallback.within functors queued removals listed := rfl

@[simp] theorem within_abort :
    (c.within functors queued removals listed).abort = c.abort.within functors queued removals listed := rfl

@[simp] theorem within_queueInLoop (f : Functor) :
    (c.within functors queued removals listed).queueInLoop f = (c.queueInLoop f).within functors queued removals listed := by
  simp [within, queueInLoop]

/-- Both branches of a choice find the same surroundings. -/
theorem ite_within {p : Prop} [Decidable p] {a b c d : TcpConnection}
    (yes : a = c.within functors queued removals listed) (no : b = d.within functors queued removals listed) :
    (if p then a else b) = (if p then c else d).within functors queued removals listed := by
  split
  · exact yes
  · exact no

@[simp] theorem within_writeCompleted :
    (c.within functors queued removals listed).writeCompleted = c.writeCompleted.within functors queued removals listed :=
  ite_within _ _ _ _ (c.within_queueInLoop _ _ _ _ _) rfl

@[simp] theorem within_shutdownInLoop :
    (c.within functors queued removals listed).shutdownInLoop = c.shutdownInLoop.within functors queued removals listed :=
  ite_within _ _ _ _ rfl rfl

@[simp] theorem within_handleClose :
    (c.within functors queued removals listed).handleClose = c.handleClose.within functors queued removals listed :=
  ite_within _ _ _ _ rfl rfl

@[simp] theorem within_buffered (rest : Bytes) :
    (c.within functors queued removals listed).buffered rest = (c.buffered rest).within functors queued removals listed := by
  have filled : ∀ c₁ : TcpConnection, _ = _ :=
    fun c₁ => ite_within functors queued removals listed (p := c₁.channel_.isWriting = true)
      (c := { c₁ with outputBuffer_ := c₁.outputBuffer_.append rest })
      (d := { c₁ with outputBuffer_ := c₁.outputBuffer_.append rest }.setChannel c₁.channel_.enableWriting) rfl rfl
  by_cases marked : c.highWaterMark_ ≤ c.outputBuffer_.readableBytes + rest.length ∧
      c.outputBuffer_.readableBytes < c.highWaterMark_ ∧ c.highWaterMarkCallback_ = true
  · have asked : (c.within functors queued removals listed).highWaterMark_ ≤
        (c.within functors queued removals listed).outputBuffer_.readableBytes + rest.length ∧
        (c.within functors queued removals listed).outputBuffer_.readableBytes <
          (c.within functors queued removals listed).highWaterMark_ ∧
        (c.within functors queued removals listed).highWaterMarkCallback_ = true := marked
    simp only [buffered, if_pos marked, if_pos asked, within_queueInLoop]
    exact filled (c.queueInLoop (.highWaterMark (c.outputBuffer_.readableBytes + rest.length)))
  · have asked : ¬ ((c.within functors queued removals listed).highWaterMark_ ≤
        (c.within functors queued removals listed).outputBuffer_.readableBytes + rest.length ∧
        (c.within functors queued removals listed).outputBuffer_.readableBytes <
          (c.within functors queued removals listed).highWaterMark_ ∧
        (c.within functors queued removals listed).highWaterMarkCallback_ = true) := marked
    simp only [buffered, if_neg marked, if_neg asked]
    exact filled c

theorem within_sendInLoop (data : Bytes) (result : WriteResult) :
    (c.within functors queued removals listed).sendInLoop data result =
      (c.sendInLoop data result).within functors queued removals listed := by
  refine ite_within _ _ _ _ rfl (ite_within _ _ _ _ (ite_within _ _ _ _ (ite_within _ _ _ _ ?_ rfl)
    (ite_within _ _ _ _ rfl ?_)) (ite_within _ _ _ _ rfl ?_))
  · rw [within_record, within_record, within_writeCompleted]
  · rw [within_record, within_record, within_buffered]
  · rw [within_record, within_buffered]

theorem within_handleWrite (result : WriteResult) :
    (c.within functors queued removals listed).handleWrite result =
      (c.handleWrite result).within functors queued removals listed := by
  have ended : ∀ c₁ c₂ : TcpConnection, c₂ = c₁.within functors queued removals listed →
      (if c₂.state_ = .disconnecting then c₂.shutdownInLoop else c₂) =
        (if c₁.state_ = .disconnecting then c₁.shutdownInLoop else c₁).within functors queued removals listed := by
    intro c₁ c₂ same
    subst same
    exact ite_within _ _ _ _ (c₁.within_shutdownInLoop _ _ _ _) rfl
  refine ite_within _ _ _ _ (ite_within _ _ _ _ (ite_within _ _ _ _ (ended _ _ ?_) rfl) rfl) rfl
  exact within_writeCompleted ({ c.record (.write (c.outputBuffer_.readable.take
    (result.count c.outputBuffer_.readableBytes))) with
      outputBuffer_ := c.outputBuffer_.retrieve (result.count c.outputBuffer_.readableBytes) }.setChannel
        c.channel_.disableWriting) functors queued removals listed

end Within
end TcpConnection

/-- What the loop, the main loop and `connections_` hold for a connection. -/
structure Surroundings where
  polled : Bool
  handlers : List Handler
  functors : List Functor
  queued : List Functor
  removals : Nat
  listed : Bool

namespace Surroundings

def around (w : Surroundings) (t : Threads) : Threads where
  conn := t.conn.within w.functors w.queued w.removals w.listed
  polled := w.polled
  handlers := w.handlers
  calls := t.calls

variable (w : Surroundings) (t : Threads)

theorem around_call (inLoop : Bool) (op : Op) : (w.around t).call inLoop op = w.around (t.call inLoop op) := by
  unfold Threads.call
  have state : (w.around t).conn.state_ = t.conn.state_ := rfl
  rw [state]
  split
  · cases op <;> rfl
  · rfl

theorem around_resume (i : Nat) (result : WriteResult) : (w.around t).resume i result = w.around (t.resume i result) := by
  unfold Threads.resume
  have calls : (w.around t).calls = t.calls := rfl
  rw [calls]
  split
  · rfl
  rename_i call found
  split
  · rfl
  have finished : call.finish (w.around t).conn result =
      (call.finish t.conn result).within w.functors w.queued w.removals w.listed := by
    unfold InFlight.finish
    split
    · split
      · exact TcpConnection.within_sendInLoop _ _ _ _ _ _ _
      · exact TcpConnection.within_queueInLoop _ _ _ _ _ _
    · split
      · exact TcpConnection.within_shutdownInLoop _ _ _ _ _
      · exact TcpConnection.within_queueInLoop _ _ _ _ _ _
    · exact TcpConnection.within_queueInLoop _ _ _ _ _ _
  rw [finished]
  rfl

theorem around_handle {handler : Handler} {handlers : List Handler} (next : w.handlers = handler :: handlers)
    (read : ReadResult) (write : WriteResult) :
    (w.around t).handle read write = { w with handlers }.around ({ t with handlers := [handler] }.handle read write) := by
  have waiting : (w.around t).handlers = handler :: handlers := next
  unfold Threads.handle
  rw [waiting]
  have ran : ∀ c c' : TcpConnection, c' = c.within w.functors w.queued w.removals w.listed →
      ({ w.around t with handlers, conn := c' } : Threads) =
        { w with handlers }.around { t with handlers := [], conn := c } := by
    intro c c' same
    rw [same]
    rfl
  apply ran
  cases handler with
  | close => exact TcpConnection.within_handleClose _ _ _ _ _
  | error => rfl
  | write => exact TcpConnection.within_handleWrite _ _ _ _ _ _
  | read =>
    cases read with
    | data | error => rfl
    | eof => exact TcpConnection.within_handleClose _ _ _ _ _

theorem around_functor {f : Functor} {functors : List Functor} (next : w.functors = f :: functors) (result : WriteResult) :
    (w.around t).functor result =
      { w with functors }.around ({ t with conn := { t.conn with functors := [f] } }.functor result) := by
  have waiting : (w.around t).conn.functors = f :: functors := next
  unfold Threads.functor
  rw [waiting]
  have ran : ∀ c c' : TcpConnection, c' = c.within functors w.queued w.removals w.listed →
      ({ w.around t with conn := c' } : Threads) = { w with functors }.around { t with conn := c } := by
    intro c c' same
    rw [same]
    rfl
  apply ran
  cases f with
  | connectEstablished => exact TcpConnection.ite_within _ _ _ _ rfl rfl
  | connectDestroyed =>
    exact TcpConnection.ite_within _ _ _ _ (TcpConnection.ite_within _ _ _ _ rfl rfl) (TcpConnection.ite_within _ _ _ _ rfl rfl)
  | sendInLoop msg => exact TcpConnection.within_sendInLoop { t.conn with functors := [] } _ _ _ _ _ _
  | shutdownInLoop => exact TcpConnection.within_shutdownInLoop { t.conn with functors := [] } _ _ _ _
  | forceCloseInLoop =>
    exact TcpConnection.ite_within _ _ _ _ (TcpConnection.within_handleClose { t.conn with functors := [] } _ _ _ _) rfl
  | writeComplete | highWaterMark => rfl

/-- What is new of a connection counts as held by its surroundings. -/
theorem around_tidy : w.around t =
    { w with queued := w.queued ++ t.conn.pendingFunctors_, removals := w.removals + t.conn.removals }.around
      { t with conn := { t.conn with pendingFunctors_ := [], removals := 0 } } := by
  simp [around, TcpConnection.within]

/-- `removeConnectionInLoop`. -/
def release : Surroundings :=
  if w.listed then { w with listed := false, queued := w.queued ++ [.connectDestroyed] } else w

theorem around_mainLoop {n : Nat} (waiting : w.removals = n + 1) (queued : t.conn.pendingFunctors_ = [])
    (removals : t.conn.removals = 0) (going : t.conn.aborted = false) :
    (w.around t).step .mainLoop = { w with removals := n }.release.around t := by
  have alive : (w.around t).conn.aborted = false := going
  have some : (w.around t).conn.removals = n + 1 := by
    show w.removals + t.conn.removals = n + 1
    rw [removals, waiting]
  have listed : (w.around t).conn.listed = w.listed := rfl
  simp only [Threads.step, alive, some, TcpConnection.removeConnectionInLoop, listed, release, Nat.add_sub_cancel,
    Nat.zero_lt_succ, if_true, Bool.false_eq_true, if_false]
  by_cases yes : w.listed = true
  · simp [yes, around, TcpConnection.within, TcpConnection.queueInLoop, queued, removals, going]
  · simp [yes, around, TcpConnection.within, removals, going]

end Surroundings

/-! ### Steps of one connection -/

/-- The second state is the end of a run of the connection from the first, an orderly one if asked for. -/
def Steps (orderly : Prop) (t t' : Threads) : Prop :=
  ∃ events, t' = run Threads.step t events ∧ (orderly → Meets Threads.step Orderly t events)

namespace Steps

variable {orderly : Prop} {t t' t'' : Threads}

theorem refl (t : Threads) : Steps orderly t t := ⟨[], rfl, fun _ => trivial⟩

theorem one (e : ThreadEvent) (stepped : t' = t.step e) (meets : orderly → Orderly t e) : Steps orderly t t' :=
  ⟨[e], stepped, fun holds => ⟨meets holds, trivial⟩⟩

theorem trans (first : Steps orderly t t') (second : Steps orderly t' t'') : Steps orderly t t'' := by
  obtain ⟨before, rfl, early⟩ := first
  obtain ⟨after, rfl, late⟩ := second
  refine ⟨before ++ after, (run_append _ _ _ _).symm, fun holds => ?_⟩
  exact (meets_append _).mpr ⟨early holds, late holds⟩

theorem weaken {orderly' : Prop} (weaker : orderly' → orderly) (steps : Steps orderly t t') : Steps orderly' t t' := by
  obtain ⟨events, same, meets⟩ := steps
  exact ⟨events, same, meets ∘ weaker⟩

end Steps

/-- A call of `removeConnection` is the last thing that happens to a connection in a step. -/
def Closes (c c' : TcpConnection) : Prop :=
  c'.removals = c.removals ∨ c'.removals = c.removals + 1 ∧ c'.aborted = c.aborted

namespace Closes

theorem outputs {c c' : TcpConnection} {said : List Trace} (o : Outputs c c' said) : Closes c c' :=
  Or.inl (congrArg (fun settled => settled.2.2.1) o.settled)

theorem handleClose (c : TcpConnection) : Closes c c.handleClose := by
  unfold TcpConnection.handleClose
  dsimp only
  split
  · exact Or.inr ⟨rfl, rfl⟩
  · exact Or.inl rfl

theorem handleWrite (c : TcpConnection) (result : WriteResult) : Closes c (c.handleWrite result) := by
  by_cases writing : c.channel_.isWriting = true
  · obtain ⟨said, o, _⟩ := Outputs.handleWrite writing result
    exact outputs o
  · rw [TcpConnection.handleWrite_idle (Bool.eq_false_iff.mpr writing)]
    exact Or.inl rfl

theorem sendInLoop (c : TcpConnection) (data : Bytes) (result : WriteResult) : Closes c (c.sendInLoop data result) := by
  obtain ⟨said, o, _⟩ := Outputs.sendInLoop c data result
  exact outputs o

theorem shutdownInLoop (c : TcpConnection) : Closes c c.shutdownInLoop := outputs (Outputs.shutdownInLoop c)

theorem call (t : Threads) (inLoop : Bool) (op : Op) : Closes t.conn (t.call inLoop op).conn := by
  unfold Threads.call
  split
  · cases op <;> exact Or.inl rfl
  · exact Or.inl rfl

theorem resume (t : Threads) (i : Nat) (result : WriteResult) : Closes t.conn (t.resume i result).conn := by
  unfold Threads.resume
  split
  · exact Or.inl rfl
  split
  · exact Or.inl rfl
  dsimp only
  unfold InFlight.finish
  split
  · split
    · exact sendInLoop _ _ _
    · exact Or.inl rfl
  · split
    · exact shutdownInLoop _
    · exact Or.inl rfl
  · exact Or.inl rfl

theorem handle (t : Threads) (read : ReadResult) (write : WriteResult) : Closes t.conn (t.handle read write).conn := by
  unfold Threads.handle
  split
  · exact Or.inl rfl
  rename_i handler handlers waiting
  cases handler with
  | close => exact handleClose _
  | error => exact Or.inl rfl
  | write => exact handleWrite _ _
  | read =>
    cases read with
    | data | error => exact Or.inl rfl
    | eof => exact handleClose _

theorem functor (t : Threads) (result : WriteResult) : Closes t.conn (t.functor result).conn := by
  unfold Threads.functor
  split
  · exact Or.inl rfl
  rename_i f functors waiting
  cases f with
  | connectEstablished =>
    dsimp only [TcpConnection.runFunctor, TcpConnection.connectEstablished]
    split <;> exact Or.inl rfl
  | connectDestroyed =>
    dsimp only [TcpConnection.runFunctor, TcpConnection.connectDestroyed, TcpConnection.removeChannel]
    split <;> split <;> exact Or.inl rfl
  | sendInLoop msg => exact sendInLoop { t.conn with functors } msg result
  | shutdownInLoop => exact shutdownInLoop { t.conn with functors }
  | forceCloseInLoop =>
    dsimp only [TcpConnection.runFunctor, TcpConnection.forceCloseInLoop]
    split
    · exact handleClose { t.conn with functors }
    · exact Or.inl rfl
  | writeComplete | highWaterMark => exact Or.inl rfl

end Closes

end IotGateway.Net
