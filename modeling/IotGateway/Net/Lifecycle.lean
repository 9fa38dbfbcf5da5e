import IotGateway.Net.Threads

/-!
# A connection comes up and goes down

The life of a connection has five stages. It is created, comes up, is closed, is released
by the main loop, and is gone once its channel has left epoll. Two kinds of step can break
this order: a `shutdown` or `forceClose` that sets the state after the connection went
down, and a hang-up that epoll reports again after `handleClose`. Without them every step
stays in its stage or goes on to the next.
-/

namespace IotGateway.Net
open Text

inductive Stage where
  | created
  | up
  | closed
  | released
  | gone
  deriving DecidableEq

namespace Stage

def functors : Stage → List Functor
  | .created => [.connectEstablished]
  | .released => [.connectDestroyed]
  | .up | .closed | .gone => []

def removals : Stage → Nat
  | .closed => 1
  | .created | .up | .released | .gone => 0

def listed : Stage → Bool
  | .created | .up | .closed => true
  | .released | .gone => false

def trace : Stage → List Trace
  | .created => []
  | .up => [.connectionCallback true]
  | .closed | .released => [.closeCallback, .connectionCallback false, .handleClose, .connectionCallback true]
  | .gone => [.epollDel, .closeCallback, .connectionCallback false, .handleClose, .connectionCallback true]

def down : Stage → Bool
  | .created | .up => false
  | .closed | .released | .gone => true

def Allows : Stage → ConnState → Prop
  | .created, state => state = .connecting
  | .up, state => state = .connected ∨ state = .disconnecting
  | .closed, state | .released, state | .gone, state => state = .disconnected

def Watches : Stage → Channel → Prop
  | .created, ch | .gone, ch => ch = {}
  | .up, ch => ch.added = true
  | .closed, ch | .released, ch => ch = { added := true }

end Stage

/-- Before it is established nothing is known of a connection, and nothing is asked of it. -/
structure Fresh (s : Threads) : Prop where
  calls : s.calls = []
  handlers : s.handlers = []
  functors : s.conn.functors ++ s.conn.pendingFunctors_ = [.connectEstablished]

/-- The connection is at a stage of its life. -/
structure At (s : Threads) (stage : Stage) : Prop where
  life : s.conn.life = ⟨s.conn.state_, stage.functors, stage.removals, stage.listed, false, stage.trace⟩
  state : stage.Allows s.conn.state_
  channel : stage.Watches s.conn.channel_
  handlers : ∃ r : Revents, s.handlers <:+ r.handlers
  early : stage = .created → Fresh s
  late : stage.down = true → Handler.read ∉ s.handlers

/-- No `shutdown` or `forceClose` sets the state of a connection that is down, and no hang-up is handled for one. -/
def Orderly (s : Threads) : ThreadEvent → Prop
  | .resume i _ => ∀ call ∈ s.calls[i]?, call.sets = true → s.conn.state_ ≠ .disconnected
  | .handle _ _ => s.handlers.head? = some .close → s.conn.state_ ≠ .disconnected
  | _ => True

instance (s : Threads) : (e : ThreadEvent) → Decidable (Orderly s e)
  | .resume i _ => inferInstanceAs (Decidable (∀ call ∈ s.calls[i]?, _))
  | .handle _ _ => inferInstanceAs (Decidable (_ → _))
  | .call _ _ | .poll _ | .swap | .functor _ | .mainLoop => isTrue trivial

theorem at_new (writeComplete : Bool) (highWater : Option Nat) : At (Threads.new writeComplete highWater) .created where
  life := rfl
  state := rfl
  channel := rfl
  handlers := ⟨{}, List.suffix_rfl⟩
  early := fun _ => ⟨rfl, rfl, rfl⟩
  late := fun down => by cases down

theorem At.up {s : Threads} {stage : Stage} (at_ : At s stage)
    (open_ : s.conn.state_ = .connected ∨ s.conn.state_ = .disconnecting) : stage = .up := by
  have state := at_.state
  cases stage with
  | up => rfl
  | created => rcases open_ with open_ | open_ <;> cases open_.symm.trans state
  | closed | released | gone => rcases open_ with open_ | open_ <;> cases open_.symm.trans state

theorem At.isOpen {s : Threads} {stage : Stage} (at_ : At s stage) (begun : stage ≠ .created)
    (up : s.conn.state_ ≠ .disconnected) : s.conn.state_ = .connected ∨ s.conn.state_ = .disconnecting := by
  have state := at_.state
  cases stage with
  | created => exact absurd rfl begun
  | up => exact state
  | closed | released | gone => exact absurd state up

theorem At.down {s : Threads} {stage : Stage} (at_ : At s stage) : stage.down = true ↔ s.conn.state_ = .disconnected := by
  have state := at_.state
  cases stage with
  | created => exact iff_of_false (fun down => by cases down) (by rw [show s.conn.state_ = .connecting from state]; decide)
  | up => exact iff_of_false (fun down => by cases down) (by rcases state with state | state <;> rw [state] <;> decide)
  | closed | released | gone => exact iff_of_true rfl state

/-- A step that leaves the life of the connection alone leaves it at its stage. -/
theorem At.of_life {s s' : Threads} {stage : Stage} (at_ : At s stage) (life : s'.conn.life = s.conn.life)
    (channel : stage.Watches s'.conn.channel_) (handlers : s'.handlers <:+ s.handlers)
    (early : stage = .created → Fresh s') : At s' stage := by
  have state : s'.conn.state_ = s.conn.state_ := congrArg Life.state_ life
  obtain ⟨r, suffix⟩ := at_.handlers
  exact
    { life := by rw [life, state]; exact at_.life
      state := by rw [state]; exact at_.state
      channel := channel
      handlers := ⟨r, handlers.trans suffix⟩
      early := early
      late := fun down member => at_.late down (handlers.mem member) }

/-! ### The channel while bytes are written -/

theorem channel_sendInLoop_down {c : TcpConnection} (down : c.state_ = .disconnected) (data : Bytes)
    (result : WriteResult) : (c.sendInLoop data result).channel_ = c.channel_ := by
  unfold TcpConnection.sendInLoop
  dsimp only
  rw [if_pos (show (c.record (.sendInLoop data)).state_ = .disconnected from down)]
  rfl

namespace Stage

theorem Watches.sendInLoop {stage : Stage} {c : TcpConnection} (watches : stage.Watches c.channel_)
    (allows : stage.Allows c.state_) (begun : stage ≠ .created) (data : Bytes) (result : WriteResult) :
    stage.Watches (c.sendInLoop data result).channel_ := by
  cases stage with
  | created => exact absurd rfl begun
  | up =>
    obtain ⟨said, outputs, _⟩ := Outputs.sendInLoop c data result
    exact outputs.added watches
  | closed | released | gone =>
    rw [channel_sendInLoop_down allows]
    exact watches

theorem Watches.handleWrite {stage : Stage} {c : TcpConnection} (watches : stage.Watches c.channel_)
    (result : WriteResult) : stage.Watches (c.handleWrite result).channel_ := by
  by_cases writing : c.channel_.isWriting = true
  swap
  · rw [TcpConnection.handleWrite_idle (Bool.eq_false_iff.mpr writing)]
    exact watches
  obtain ⟨said, outputs, _⟩ := Outputs.handleWrite writing result
  cases stage with
  | up => exact outputs.added watches
  | created | closed | released | gone =>
    rw [show c.channel_ = _ from watches] at writing
    cases writing

end Stage

/-! ### One step -/

/-- `kConnecting`, `kConnected`, `kDisconnecting`, `kDisconnected`, in this order. -/
def ConnState.rank : ConnState → Nat
  | .connecting => 0
  | .connected => 1
  | .disconnecting => 2
  | .disconnected => 3

def Staged (s : Threads) : Prop := ∃ stage, At s stage

def Forward (s s' : Threads) : Prop := s.conn.state_.rank ≤ s'.conn.state_.rank

/-- The step leaves the connection at a stage and does not take its state back. -/
def Goes (s s' : Threads) : Prop := Staged s' ∧ Forward s s'

theorem At.stays {s s' : Threads} {stage : Stage} (at_ : At s stage) (life : s'.conn.life = s.conn.life)
    (channel : stage.Watches s'.conn.channel_) (handlers : s'.handlers <:+ s.handlers)
    (early : stage = .created → Fresh s') : Goes s s' := by
  have state : s'.conn.state_ = s.conn.state_ := congrArg Life.state_ life
  exact ⟨⟨stage, at_.of_life life channel handlers early⟩, by rw [Forward, state]⟩

theorem At.same {s : Threads} {stage : Stage} (at_ : At s stage) : Goes s s := ⟨⟨stage, at_⟩, Nat.le_refl _⟩

theorem handleClose_open {c : TcpConnection} (open_ : c.state_ = .connected ∨ c.state_ = .disconnecting) :
    c.handleClose.life = ⟨.disconnected, c.life.functors, c.life.removals + 1, c.life.listed, c.life.aborted,
      .closeCallback :: .connectionCallback false :: .handleClose :: c.life.trace⟩ ∧
      c.handleClose.channel_ = { added := true } := by
  unfold TcpConnection.handleClose
  dsimp only
  have entered : (c.record .handleClose).state_ = .connected ∨ (c.record .handleClose).state_ = .disconnecting := open_
  rw [if_pos entered]
  exact ⟨rfl, rfl⟩

theorem At.closes {s s' : Threads} {stage : Stage} (at_ : At s stage)
    (open_ : s.conn.state_ = .connected ∨ s.conn.state_ = .disconnecting) (conn : s'.conn = s.conn.handleClose)
    (handlers : s'.handlers <:+ s.handlers) (read : Handler.read ∉ s'.handlers) : Goes s s' := by
  obtain rfl := at_.up open_
  obtain ⟨life, channel⟩ := handleClose_open open_
  obtain ⟨r, suffix⟩ := at_.handlers
  have state : s.conn.handleClose.state_ = .disconnected := congrArg Life.state_ life
  refine ⟨⟨.closed, ?_, ?_, ?_, ⟨r, handlers.trans suffix⟩, fun created => (by cases created), fun _ => read⟩, ?_⟩
  · rw [conn, life, state, at_.life]
    rfl
  · rw [conn]
    exact state
  · rw [conn]
    exact channel
  · rw [Forward, conn, state]
    cases s.conn.state_ <;> decide

theorem close_alone {r : Revents} {rest : List Handler} (suffix : Handler.close :: rest <:+ r.handlers) : rest = [] := by
  have member : Handler.close ∈ r.handlers := suffix.mem List.mem_cons_self
  unfold Revents.handlers at suffix member
  split at suffix
  · rcases List.suffix_cons_iff.mp suffix with same | short
    · exact (List.cons.inj same).2
    · cases List.suffix_nil.mp short
  · rename_i other
    rw [if_neg other] at member
    simp at member

theorem count_read (r : Revents) : r.handlers.count .read ≤ 1 := by
  unfold Revents.handlers
  split
  · decide
  · cases r.err <;> cases r.readable || r.pri <;> cases r.writable <;> decide

theorem read_once {r : Revents} {rest : List Handler} (suffix : Handler.read :: rest <:+ r.handlers) :
    Handler.read ∉ rest := by
  have few := Nat.le_trans (suffix.sublist.count_le Handler.read) (count_read r)
  rw [List.count_cons_self] at few
  exact List.count_eq_zero.mp (by omega)

theorem handlers_unknown {ch : Channel} {r : Revents} (reported : ch.reports r = true) (unknown : ch.added = false) :
    r.handlers = [] := by
  simp only [Channel.reports, unknown, Bool.false_or, Bool.and_eq_true, Bool.not_eq_true', Bool.or_eq_false_iff] at reported
  obtain ⟨⟨⟨⟨⟨⟨hup, err⟩, readable⟩, pri⟩, writable⟩, _⟩, _⟩ := reported
  simp [Revents.handlers, hup, err, readable, pri, writable]

theorem read_unwatched {ch : Channel} {r : Revents} (reported : ch.reports r = true) (off : ch.isReading = false) :
    Handler.read ∉ r.handlers := by
  simp only [Channel.reports, off, Bool.false_or, Bool.and_eq_true, Bool.not_eq_true', Bool.or_eq_false_iff] at reported
  obtain ⟨⟨_, readable, pri⟩, _⟩ := reported
  unfold Revents.handlers
  split
  · decide
  · simp [readable, pri]

theorem life_finish (call : InFlight) (c : TcpConnection) (result : WriteResult) : (call.finish c result).life = c.life := by
  unfold InFlight.finish
  split
  · split
    · exact c.life_sendInLoop _ result
    · exact c.life_queueInLoop rfl
  · split
    · exact c.life_shutdownInLoop
    · exact c.life_queueInLoop rfl
  · exact c.life_queueInLoop rfl

theorem Stage.Watches.finish {stage : Stage} {c : TcpConnection} (watches : stage.Watches c.channel_)
    (allows : stage.Allows c.state_) (begun : stage ≠ .created) (call : InFlight) (result : WriteResult) :
    stage.Watches (call.finish c result).channel_ := by
  unfold InFlight.finish
  split
  · split
    · exact watches.sendInLoop allows begun _ result
    · exact watches
  · split
    · rw [TcpConnection.channel_shutdownInLoop]
      exact watches
    · exact watches
  · exact watches

section Step

variable {s : Threads} {stage : Stage}

theorem At.call (at_ : At s stage) (inLoop : Bool) (op : Op) : Goes s (s.call inLoop op) := by
  unfold Threads.call
  split
  swap
  · exact at_.same
  rename_i wanted
  have open_ : s.conn.state_ = .connected ∨ s.conn.state_ = .disconnecting := by
    cases op with
    | send | shutdown => exact Or.inl (of_decide_eq_true wanted)
    | forceClose => exact of_decide_eq_true wanted
  obtain rfl := at_.up open_
  cases op with
  | send msg => exact at_.stays (s.conn.life_record rfl) at_.channel List.suffix_rfl fun created => by cases created
  | shutdown | forceClose => exact at_.stays rfl at_.channel List.suffix_rfl fun created => by cases created

theorem At.resume (at_ : At s stage) (i : Nat) (result : WriteResult) (orderly : Orderly s (.resume i result)) :
    Goes s (s.resume i result) := by
  unfold Threads.resume
  split
  · exact at_.same
  rename_i call found
  have begun : stage ≠ .created := by
    intro created
    rw [(at_.early created).calls] at found
    cases found
  split
  · rename_i sets
    have up : stage.down = false := by
      rw [← Bool.not_eq_true]
      exact fun down => orderly call found sets (at_.down.mp down)
    have life := at_.life
    cases stage with
    | created => exact absurd rfl begun
    | closed | released | gone => cases up
    | up =>
      refine ⟨⟨.up, ?_, Or.inr rfl, at_.channel, at_.handlers, fun created => (by cases created), fun down => by cases down⟩, ?_⟩
      · simp only [TcpConnection.life, Life.mk.injEq, TcpConnection.setState, true_and] at life ⊢
        exact life
      · show s.conn.state_.rank ≤ ConnState.disconnecting.rank
        rcases at_.state with state | state
        · rw [state]
          decide
        · rw [state]
  · exact at_.stays (life_finish call s.conn result) (at_.channel.finish at_.state begun call result) List.suffix_rfl
      fun created => absurd created begun

theorem At.poll (at_ : At s stage) {r : Revents} (reported : s.conn.channel_.reports r = true) :
    Goes s { s with polled := true, handlers := r.handlers } := by
  refine ⟨⟨stage, at_.life, at_.state, at_.channel, ⟨r, List.suffix_rfl⟩, fun created => ?_, fun down => ?_⟩, Nat.le_refl _⟩
  · have fresh := at_.early created
    subst created
    exact ⟨fresh.calls, handlers_unknown reported (by rw [show s.conn.channel_ = {} from at_.channel]), fresh.functors⟩
  · refine read_unwatched reported ?_
    have channel := at_.channel
    cases stage with
    | created | up => cases down
    | closed | released | gone => rw [show s.conn.channel_ = _ from channel]

theorem At.handle (at_ : At s stage) (read : ReadResult) (write : WriteResult) (orderly : Orderly s (.handle read write)) :
    Goes s (s.handle read write) := by
  unfold Threads.handle
  split
  · exact at_.same
  rename_i handler rest handlers
  obtain ⟨r, suffix⟩ := at_.handlers
  have shorter : rest <:+ s.handlers := handlers ▸ List.suffix_cons handler rest
  have begun : stage ≠ .created := by
    intro created
    rw [(at_.early created).handlers] at handlers
    cases handlers
  rw [handlers] at suffix
  cases handler with
  | close =>
    have up : s.conn.state_ ≠ .disconnected := orderly (by rw [handlers]; rfl)
    refine at_.closes (at_.isOpen begun up) rfl shorter ?_
    rw [close_alone suffix]
    exact List.not_mem_nil
  | error => exact at_.stays rfl at_.channel shorter fun created => absurd created begun
  | write =>
    exact at_.stays (s.conn.life_handleWrite write) (at_.channel.handleWrite write) shorter fun created => absurd created begun
  | read =>
    have up : s.conn.state_ ≠ .disconnected :=
      fun down => at_.late (at_.down.mpr down) (handlers ▸ List.mem_cons_self)
    cases read with
    | data received =>
      exact at_.stays (s.conn.life_record rfl) at_.channel shorter fun created => absurd created begun
    | eof => exact at_.closes (at_.isOpen begun up) rfl shorter (read_once suffix)
    | error => exact at_.stays rfl at_.channel shorter fun created => absurd created begun

theorem At.swap (at_ : At s stage) (taken : s.conn.functors = []) :
    Goes s { s with
      polled := false
      conn := { s.conn with functors := s.conn.pendingFunctors_, pendingFunctors_ := [] } } := by
  refine at_.stays ?_ at_.channel List.suffix_rfl fun created => ?_
  · simp only [TcpConnection.life, taken, List.nil_append, List.append_nil]
  · have fresh := at_.early created
    have queue := fresh.functors
    rw [taken, List.nil_append] at queue
    exact ⟨fresh.calls, fresh.handlers, by rw [queue, List.append_nil]⟩

theorem At.mainLoop (at_ : At s stage) (waiting : 0 < s.conn.removals) :
    Goes s { s with conn := { s.conn with removals := s.conn.removals - 1 }.removeConnectionInLoop } := by
  have life := at_.life
  simp only [TcpConnection.life, Life.mk.injEq, true_and] at life
  obtain ⟨functors, removals, listed, aborted, trace⟩ := life
  cases stage with
  | created | up | released | gone =>
    rw [removals] at waiting
    cases waiting
  | closed =>
    have released : { s.conn with removals := s.conn.removals - 1 }.removeConnectionInLoop =
        { s.conn with
          removals := 0
          listed := false
          pendingFunctors_ := s.conn.pendingFunctors_ ++ [.connectDestroyed] } := by
      unfold TcpConnection.removeConnectionInLoop
      rw [if_pos (show s.conn.listed = true from listed), removals]
      rfl
    rw [released]
    refine ⟨⟨.released, ?_, at_.state, at_.channel, at_.handlers, fun created => (by cases created), at_.late⟩, Nat.le_refl _⟩
    simp only [TcpConnection.life, ← List.append_assoc, List.filter_append, functors, aborted, trace]
    rfl

theorem At.connectEstablished (at_ : At s stage) {functors : List Functor}
    (batch : s.conn.functors = .connectEstablished :: functors) :
    Goes s { s with conn := { s.conn with functors }.connectEstablished } := by
  have life := at_.life
  simp only [TcpConnection.life, Life.mk.injEq, true_and, batch, List.cons_append, List.filter_cons_of_pos
    (show Functor.isLife .connectEstablished = true from rfl)] at life
  obtain ⟨queue, removals, listed, aborted, trace⟩ := life
  cases stage with
  | up | closed | released | gone => cases queue
  | created =>
    have rest := (List.cons.inj queue).2
    have established : { s.conn with functors }.connectEstablished =
        { s.conn with
          functors
          state_ := .connected
          channel_ := s.conn.channel_.enableReading
          trace := .connectionCallback true :: s.conn.trace } := by
      unfold TcpConnection.connectEstablished
      exact if_pos at_.state
    rw [established]
    refine ⟨⟨.up, ?_, Or.inl rfl, rfl, at_.handlers, fun created => (by cases created), fun down => by cases down⟩, ?_⟩
    · simp only [TcpConnection.life, rest, removals, listed, aborted, List.filter_cons_of_pos
        (show Trace.isLife (.connectionCallback true) = true from rfl), trace]
      rfl
    · rw [Forward, show s.conn.state_ = .connecting from at_.state]
      exact Nat.zero_le _

theorem At.connectDestroyed (at_ : At s stage) {functors : List Functor}
    (batch : s.conn.functors = .connectDestroyed :: functors) :
    Goes s { s with conn := { s.conn with functors }.connectDestroyed } := by
  have life := at_.life
  simp only [TcpConnection.life, Life.mk.injEq, true_and, batch, List.cons_append, List.filter_cons_of_pos
    (show Functor.isLife .connectDestroyed = true from rfl)] at life
  obtain ⟨queue, removals, listed, aborted, trace⟩ := life
  cases stage with
  | created | up | closed | gone => cases queue
  | released =>
    have rest := (List.cons.inj queue).2
    have down : s.conn.state_ = .disconnected := at_.state
    have channel : s.conn.channel_ = { added := true } := at_.channel
    have destroyed : { s.conn with functors }.connectDestroyed =
        { s.conn with functors, channel_ := {}, trace := .epollDel :: s.conn.trace } := by
      unfold TcpConnection.connectDestroyed TcpConnection.removeChannel
      dsimp only
      rw [if_neg (by rw [down]; decide), if_pos (by rw [channel]; rfl)]
      simp only [TcpConnection.setChannel, TcpConnection.record, channel]
      rfl
    rw [destroyed]
    refine ⟨⟨.gone, ?_, at_.state, rfl, at_.handlers, fun created => (by cases created), at_.late⟩, Nat.le_refl _⟩
    simp only [TcpConnection.life, rest, removals, listed, aborted, List.filter_cons_of_pos
      (show Trace.isLife .epollDel = true from rfl), trace]
    rfl

theorem At.functor (at_ : At s stage) (result : WriteResult) (handled : s.handlers = []) : Goes s (s.functor result) := by
  unfold Threads.functor
  split
  · exact at_.same
  rename_i f functors batch
  by_cases ofLife : f.isLife = true
  · cases f with
    | connectEstablished => exact at_.connectEstablished batch
    | connectDestroyed => exact at_.connectDestroyed batch
    | sendInLoop | shutdownInLoop | forceCloseInLoop | writeComplete | highWaterMark => cases ofLife
  -- without the functor the connection is where it was, and then the functor runs
  have begun : stage ≠ .created := by
    intro created
    have queue := (at_.early created).functors
    rw [batch, List.cons_append] at queue
    exact ofLife ((List.cons.inj queue).1 ▸ rfl)
  have taken : At { s with conn := { s.conn with functors } } stage := by
    refine at_.of_life ?_ at_.channel List.suffix_rfl fun created => absurd created begun
    simp only [TcpConnection.life, batch, List.cons_append, List.filter_cons_of_neg ofLife]
  have early : ∀ s' : Threads, stage = .created → Fresh s' := fun _ created => absurd created begun
  cases f with
  | connectEstablished | connectDestroyed => exact absurd rfl ofLife
  | sendInLoop msg =>
    exact taken.stays (TcpConnection.life_sendInLoop _ msg result) (taken.channel.sendInLoop taken.state begun msg result)
      List.suffix_rfl (early _)
  | shutdownInLoop =>
    refine taken.stays (TcpConnection.life_shutdownInLoop _) ?_ List.suffix_rfl (early _)
    rw [TcpConnection.runFunctor, TcpConnection.channel_shutdownInLoop]
    exact taken.channel
  | forceCloseInLoop =>
    simp only [TcpConnection.runFunctor, TcpConnection.forceCloseInLoop]
    split
    · rename_i open_
      refine taken.closes open_ rfl List.suffix_rfl ?_
      simp [handled]
    · exact taken.same
  | writeComplete | highWaterMark => exact taken.same

theorem At.step (at_ : At s stage) {e : ThreadEvent} (orderly : Orderly s e) : Goes s (s.step e) := by
  unfold Threads.step
  split
  · exact at_.same
  cases e with
  | call inLoop op =>
    dsimp only
    split
    · exact at_.same
    · exact at_.call inLoop op
  | resume i result => exact at_.resume i result orderly
  | poll revents =>
    dsimp only
    split
    · rename_i ready
      simp only [Bool.and_eq_true] at ready
      exact at_.poll ready.2
    · exact at_.same
  | handle read write =>
    dsimp only
    split
    · exact at_.handle read write orderly
    · exact at_.same
  | swap =>
    dsimp only
    split
    · rename_i ready
      simp only [Bool.and_eq_true, List.isEmpty_iff] at ready
      exact at_.swap ready.2
    · exact at_.same
  | functor result =>
    dsimp only
    split
    · rename_i ready
      simp only [Bool.and_eq_true, List.isEmpty_iff] at ready
      exact at_.functor result ready.2
    · exact at_.same
  | mainLoop =>
    dsimp only
    split
    · rename_i waiting
      exact at_.mainLoop waiting
    · exact at_.same

end Step

/-! ### Whole runs -/

theorem Staged.run {s : Threads} (staged : Staged s) {events : List ThreadEvent}
    (orderly : Meets Threads.step Orderly s events) : Staged (run Threads.step s events) := by
  refine run_invariant Threads.step staged ?_ orderly
  rintro s e ⟨stage, at_⟩ orderly
  exact (at_.step orderly).1

theorem Forward.run {s : Threads} (staged : Staged s) {events : List ThreadEvent}
    (orderly : Meets Threads.step Orderly s events) : Forward s (run Threads.step s events) := by
  refine run_relates Threads.step staged (fun _ => Nat.le_refl _) Nat.le_trans ?_ orderly
  rintro s e ⟨stage, at_⟩ orderly
  exact at_.step orderly

/-- What the trace says of the life of the connection is decided by the stage. -/
theorem At.count {s : Threads} {stage : Stage} (at_ : At s stage) {t : Trace} (ofLife : t.isLife = true) :
    s.conn.trace.count t = stage.trace.count t := by
  have trace : s.conn.trace.filter Trace.isLife = stage.trace := congrArg Life.trace at_.life
  rw [← trace, List.count_filter ofLife]

def Trace.callback? : Trace → Option Bool
  | .connectionCallback connected => some connected
  | _ => none

/-- The calls of `onConnection`, oldest first: whether the connection was up. -/
def callbacks (trace : List Trace) : List Bool := (trace.filterMap Trace.callback?).reverse

/-- `onConnection` is told that the connection is up and then that it is down, as the events `accept` and `close` of a
node have it. -/
theorem callbacks_in_order (writeComplete : Bool) (highWater : Option Nat) (events : List ThreadEvent)
    (orderly : Meets Threads.step Orderly (Threads.new writeComplete highWater) events) :
    callbacks (run Threads.step (Threads.new writeComplete highWater) events).conn.trace <+: [true, false] := by
  obtain ⟨stage, at_⟩ := Staged.run ⟨.created, at_new writeComplete highWater⟩ orderly
  have trace : _ = stage.trace := congrArg Life.trace at_.life
  have ofLife : ∀ t : Trace, (if t.isLife = true then t.callback? else none) = t.callback? := by
    intro t
    cases t <;> rfl
  have told : callbacks (run Threads.step (Threads.new writeComplete highWater) events).conn.trace = callbacks stage.trace := by
    rw [← trace]
    simp only [callbacks, TcpConnection.life, List.filterMap_filter, ofLife]
  rw [told]
  cases stage <;> decide

/-- In every interleaving in which no `shutdown` or `forceClose` sets the state of a connection that is down and no
hang-up is handled for one, the state never goes back, and a connection that is down stays down without another
`handleClose`. -/
theorem state_moves_forward (writeComplete : Bool) (highWater : Option Nat) (first second : List ThreadEvent)
    (orderly : Meets Threads.step Orderly (Threads.new writeComplete highWater) (first ++ second)) :
    let s := run Threads.step (Threads.new writeComplete highWater) first
    let s' := run Threads.step (Threads.new writeComplete highWater) (first ++ second)
    s.conn.state_.rank ≤ s'.conn.state_.rank ∧
      (s.conn.state_ = .disconnected → s'.conn.state_ = .disconnected ∧
        s'.conn.trace.count .handleClose = s.conn.trace.count .handleClose) := by
  intro s s'
  obtain ⟨before, after⟩ := (meets_append Threads.step).mp orderly
  obtain ⟨stage, at_⟩ := Staged.run ⟨.created, at_new writeComplete highWater⟩ before
  obtain ⟨stage', at'⟩ := Staged.run ⟨stage, at_⟩ after
  have forward := Forward.run ⟨stage, at_⟩ after
  have later : run Threads.step s second = s' := (run_append Threads.step _ first second).symm
  rw [later] at at' forward
  refine ⟨forward, fun down => ?_⟩
  have stays : s'.conn.state_ = .disconnected := by
    rw [Forward, down] at forward
    cases state : s'.conn.state_ with
    | disconnected => rfl
    | connecting | connected | disconnecting => rw [state] at forward; exact absurd forward (by decide)
  refine ⟨stays, ?_⟩
  have once : ∀ stage : Stage, stage.down = true → stage.trace.count .handleClose = 1 := by
    intro stage down
    cases stage with
    | created | up => cases down
    | closed | released | gone => rfl
  rw [at_.count rfl, at'.count rfl, once stage (at_.down.mpr down), once stage' (at'.down.mpr stays)]

/-- A connection that is established, told to shut down by another thread, closed by its peer and taken out of epoll. -/
def establish : List ThreadEvent := [.poll {}, .swap, .functor .again]

def peerCloses : List ThreadEvent := [.poll { readable := true }, .handle .eof .again]

def release : List ThreadEvent := [.swap, .functor .again, .mainLoop, .poll {}, .swap, .functor .again]

def otherShutdown : List ThreadEvent := [.call false .shutdown, .resume 0 .again, .resume 0 .again]

theorem state_moves_forward_shutdown :
    let s := run Threads.step (Threads.new false none) (establish ++ otherShutdown ++ peerCloses)
    let s' := run Threads.step (Threads.new false none) (establish ++ otherShutdown ++ peerCloses ++ release)
    s.conn.state_ = .disconnected ∧ s.conn.state_.rank ≤ s'.conn.state_.rank ∧
      (s.conn.state_ = .disconnected → s'.conn.state_ = .disconnected ∧
        s'.conn.trace.count .handleClose = s.conn.trace.count .handleClose) := by
  intro s s'
  have orderly : Meets Threads.step Orderly (Threads.new false none) (establish ++ otherShutdown ++ peerCloses ++ release) := by
    decide +kernel
  exact ⟨by decide +kernel, state_moves_forward false none (establish ++ otherShutdown ++ peerCloses) release orderly⟩

/-- `forceClose` tests the state, the peer closes the connection, and `forceClose` sets the state. A connection that was
down is disconnecting, and `handleClose` runs a second time. -/
theorem forceClose_takes_state_back :
    let s := run Threads.step (Threads.new false none) (establish ++ [.call false .forceClose] ++ peerCloses)
    let s' := s.step (.resume 0 .again)
    s.conn.state_ = .disconnected ∧ s'.conn.state_ = .disconnecting ∧ s'.conn.state_.rank < s.conn.state_.rank ∧
      (run Threads.step s' [.resume 0 .again, .swap, .functor .again]).conn.trace.count .handleClose = 2 := by
  intro s s'
  exact ⟨by decide +kernel, by decide +kernel, by decide +kernel, by decide +kernel⟩

/-- The counts of a stage: what is announced, and the one removal that is on its way or done. -/
theorem Stage.once (stage : Stage) :
    stage.trace.count (.connectionCallback false) ≤ 1 ∧ stage.trace.count .closeCallback ≤ 1 ∧
      stage.trace.count .epollDel ≤ 1 ∧
      stage.removals + stage.functors.count .connectDestroyed + stage.trace.count .epollDel = if stage.down then 1 else 0 := by
  cases stage <;> decide

/-- In the same interleavings the connection goes down once: the user and the server are told at most once, no assertion
fails, and once the connection is down exactly one removal of its channel from epoll is queued or done. -/
theorem goes_down_once (writeComplete : Bool) (highWater : Option Nat) (events : List ThreadEvent)
    (orderly : Meets Threads.step Orderly (Threads.new writeComplete highWater) events) :
    let c := (run Threads.step (Threads.new writeComplete highWater) events).conn
    c.trace.count (.connectionCallback false) ≤ 1 ∧ c.trace.count .closeCallback ≤ 1 ∧ c.aborted = false ∧
      c.trace.count .epollDel ≤ 1 ∧
      c.removals + (c.functors ++ c.pendingFunctors_).count .connectDestroyed + c.trace.count .epollDel =
        (if c.state_ = .disconnected then 1 else 0) ∧
      (c.trace.count .epollDel = 1 → c.channel_.added = false) := by
  intro c
  obtain ⟨stage, at_⟩ := Staged.run ⟨.created, at_new writeComplete highWater⟩ orderly
  obtain ⟨callbacks, closes, removed, total⟩ := stage.once
  have functors : (c.functors ++ c.pendingFunctors_).filter Functor.isLife = stage.functors := congrArg Life.functors at_.life
  have removals : c.removals = stage.removals := congrArg Life.removals at_.life
  have down : (if c.state_ = .disconnected then 1 else 0) = if stage.down then 1 else 0 := by
    simp only [at_.down]
    rfl
  rw [at_.count rfl, at_.count rfl, at_.count rfl, down, removals, ← List.count_filter (p := Functor.isLife) rfl, functors]
  refine ⟨callbacks, closes, congrArg Life.aborted at_.life, removed, total, fun gone => ?_⟩
  cases stage with
  | gone => exact congrArg Channel.added at_.channel
  | created | up | closed | released => cases gone

theorem goes_down_once_released :
    let c := (run Threads.step (Threads.new false none) (establish ++ otherShutdown ++ peerCloses ++ release)).conn
    c.trace.count .epollDel = 1 ∧ c.trace.count (.connectionCallback false) = 1 ∧ c.aborted = false := by
  intro c
  have orderly : Meets Threads.step Orderly (Threads.new false none) (establish ++ otherShutdown ++ peerCloses ++ release) := by
    decide +kernel
  exact ⟨by decide +kernel, by decide +kernel, (goes_down_once false none _ orderly).2.2.1⟩

/-- The peer closes and hangs up. `handleClose` leaves the descriptor in epoll with an empty mask, so epoll reports the
hang-up again before the main loop has released the connection, and the assertion of `handleClose` fails. -/
theorem hangup_reported_again :
    let s := run Threads.step (Threads.new false none)
      (establish ++ [.poll { readable := true, hup := true }, .handle .eof .again, .swap])
    s.conn.state_ = .disconnected ∧ s.conn.aborted = false ∧
      (run Threads.step s [.poll { hup := true }, .handle .eof .again]).conn.aborted = true := by
  intro s
  exact ⟨by decide +kernel, by decide +kernel, by decide +kernel⟩

end IotGateway.Net
