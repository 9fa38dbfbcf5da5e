import IotGateway.Net.Buffer

/-!
# A connection on its loop

`TcpConnection.cpp` with the part of `Channel` and `EventLoop` it drives. The functions
here run on the thread of the connection's loop. What they do to the world outside is
their trace: callbacks, writes to the socket, the FIN, and the removal from epoll. A
failed assertion ends the process. Calls to epoll are taken to succeed.
-/

namespace IotGateway.Net
open Text

/-- `TcpConnection::StateE`. A connection that has not been accepted yet counts as connecting. -/
inductive ConnState where
  | connecting
  | connected
  | disconnecting
  | disconnected
  deriving DecidableEq, Repr

/-- The interest in a descriptor. `added` says that epoll knows it (`index_` is not -1). -/
structure Channel where
  isReading : Bool := false
  isWriting : Bool := false
  added : Bool := false
  deriving DecidableEq

namespace Channel

/-- `update`: an unknown descriptor is added to epoll, a known one modified. -/
def update (ch : Channel) : Channel := { ch with added := true }

def enableReading (ch : Channel) : Channel := { ch with isReading := true }.update

def enableWriting (ch : Channel) : Channel := { ch with isWriting := true }.update

def disableWriting (ch : Channel) : Channel := { ch with isWriting := false }.update

/-- The descriptor stays in epoll, with an empty mask. -/
def disableAll (ch : Channel) : Channel := { ch with isReading := false, isWriting := false }.update

def isNoneEvent (ch : Channel) : Bool := !ch.isReading && !ch.isWriting

def remove (ch : Channel) : Channel := { ch with added := false }

end Channel

/-- The functors of the loop that concern the connection. -/
inductive Functor where
  | connectEstablished
  | connectDestroyed
  | sendInLoop (msg : Bytes)
  | shutdownInLoop
  | forceCloseInLoop
  | writeComplete
  | highWaterMark (total : Nat)
  deriving DecidableEq

/-- What `write` returned. `fault` is EPIPE or ECONNRESET, `again` EAGAIN, `error` any other failure. -/
inductive WriteResult where
  | wrote (n : Nat)
  | again
  | error
  | fault
  deriving DecidableEq

/-- How many of `len` bytes the kernel took. -/
def WriteResult.count (len : Nat) : WriteResult → Nat
  | .wrote n => min n len
  | .again | .error | .fault => 0

def WriteResult.succeeded : WriteResult → Bool
  | .wrote _ => true
  | .again | .error | .fault => false

inductive ReadResult where
  | data (received : Bytes)
  | eof
  | error
  deriving DecidableEq

/-- What others can see. The call of `send` that found the connection up (`accepted`) and the starts of `sendInLoop` and
`handleClose` are noted as well. -/
inductive Trace where
  | connectionCallback (connected : Bool)
  | messageCallback (received : Bytes)
  | closeCallback
  | accepted (msg : Bytes)
  | sendInLoop (msg : Bytes)
  | write (bytes : Bytes)
  | shutdownWrite
  | handleClose
  | epollDel
  deriving DecidableEq

/-- The connection and what surrounds it. `functors` is the batch that `doPendingFunctors` has taken out of the queue,
`removals` the calls of `removeConnectionInLoop` in the queue of the main loop, and `listed` says that `connections_`
holds the connection. The trace has the newest entry first. -/
structure TcpConnection where
  state_ : ConnState := .connecting
  channel_ : Channel := {}
  outputBuffer_ : Buffer := Buffer.new kInitialSize
  writeCompleteCallback_ : Bool := false
  highWaterMarkCallback_ : Bool := false
  highWaterMark_ : Nat := 64 * 1024 * 1024
  functors : List Functor := []
  pendingFunctors_ : List Functor := []
  removals : Nat := 0
  listed : Bool := true
  aborted : Bool := false
  trace : List Trace := []

namespace TcpConnection

def connected (c : TcpConnection) : Bool := c.state_ = .connected

def record (c : TcpConnection) (t : Trace) : TcpConnection := { c with trace := t :: c.trace }

def setState (c : TcpConnection) (state : ConnState) : TcpConnection := { c with state_ := state }

def setChannel (c : TcpConnection) (channel_ : Channel) : TcpConnection := { c with channel_ }

def queueInLoop (c : TcpConnection) (f : Functor) : TcpConnection :=
  { c with pendingFunctors_ := c.pendingFunctors_ ++ [f] }

/-- A failed assertion. -/
def abort (c : TcpConnection) : TcpConnection := { c with aborted := true }

/-! ### Up and down -/

def connectEstablished (c : TcpConnection) : TcpConnection :=
  if c.state_ = .connecting then
    let c := c.setState .connected
    let c := c.setChannel c.channel_.enableReading
    c.record (.connectionCallback c.connected)
  else c.abort

/-- `Channel::remove` asserts that the channel waits for nothing. -/
def removeChannel (c : TcpConnection) : TcpConnection :=
  if c.channel_.isNoneEvent then (c.setChannel c.channel_.remove).record .epollDel else c.abort

def connectDestroyed (c : TcpConnection) : TcpConnection :=
  if c.state_ = .connected then
    let c := c.setState .disconnected
    let c := c.setChannel c.channel_.disableAll
    (c.record (.connectionCallback c.connected)).removeChannel
  else c.removeChannel

/-- `closeCallback_` is `TcpServer::removeConnection`, which queues `removeConnectionInLoop` in the main loop. -/
def closeCallback (c : TcpConnection) : TcpConnection := { c.record .closeCallback with removals := c.removals + 1 }

def handleClose (c : TcpConnection) : TcpConnection :=
  let c := c.record .handleClose
  if c.state_ = .connected ∨ c.state_ = .disconnecting then
    let c := c.setState .disconnected
    let c := c.setChannel c.channel_.disableAll
    (c.record (.connectionCallback c.connected)).closeCallback
  else c.abort

def forceCloseInLoop (c : TcpConnection) : TcpConnection :=
  if c.state_ = .connected ∨ c.state_ = .disconnecting then c.handleClose else c

/-- `removeConnectionInLoop`, on the main loop. -/
def removeConnectionInLoop (c : TcpConnection) : TcpConnection :=
  if c.listed then { c with listed := false }.queueInLoop .connectDestroyed else c

/-! ### Reading and writing -/

/-- `handleRead`. The bytes go to `inputBuffer_`, which is the argument of the callback. `handleError` only logs. -/
def handleRead (c : TcpConnection) : ReadResult → TcpConnection
  | .data received => c.record (.messageCallback received)
  | .eof => c.handleClose
  | .error => c

def shutdownInLoop (c : TcpConnection) : TcpConnection :=
  if c.channel_.isWriting then c else c.record .shutdownWrite

def writeCompleted (c : TcpConnection) : TcpConnection :=
  if c.writeCompleteCallback_ then c.queueInLoop .writeComplete else c

def handleWrite (c : TcpConnection) (result : WriteResult) : TcpConnection :=
  if c.channel_.isWriting then
    let n := result.count c.outputBuffer_.readableBytes
    let c := c.record (.write (c.outputBuffer_.readable.take n))
    if 0 < n then
      let c := { c with outputBuffer_ := c.outputBuffer_.retrieve n }
      if c.outputBuffer_.readableBytes = 0 then
        let c := (c.setChannel c.channel_.disableWriting).writeCompleted
        if c.state_ = .disconnecting then c.shutdownInLoop else c
      else c
    else c
  else c

/-- The second half of `sendInLoop`: what could not be written goes to `outputBuffer_`. -/
def buffered (c : TcpConnection) (rest : Bytes) : TcpConnection :=
  let oldLen := c.outputBuffer_.readableBytes
  let c :=
    if c.highWaterMark_ ≤ oldLen + rest.length ∧ oldLen < c.highWaterMark_ ∧ c.highWaterMarkCallback_ then
      c.queueInLoop (.highWaterMark (oldLen + rest.length))
    else c
  let c := { c with outputBuffer_ := c.outputBuffer_.append rest }
  if c.channel_.isWriting then c else c.setChannel c.channel_.enableWriting

def sendInLoop (c : TcpConnection) (data : Bytes) (result : WriteResult) : TcpConnection :=
  let c := c.record (.sendInLoop data)
  if c.state_ = .disconnected then c
  else if ¬ c.channel_.isWriting ∧ c.outputBuffer_.readableBytes = 0 then
    let n := result.count data.length
    let c := c.record (.write (data.take n))
    let rest := data.drop n
    if rest = [] then if result.succeeded then c.writeCompleted else c
    else if result = .fault then c
    else c.buffered rest
  else if data = [] then c
  else c.buffered data

/-- A functor of the loop. The two callbacks of the user are not part of the connection. -/
def runFunctor (c : TcpConnection) (result : WriteResult) : Functor → TcpConnection
  | .connectEstablished => c.connectEstablished
  | .connectDestroyed => c.connectDestroyed
  | .sendInLoop msg => c.sendInLoop msg result
  | .shutdownInLoop => c.shutdownInLoop
  | .forceCloseInLoop => c.forceCloseInLoop
  | .writeComplete | .highWaterMark _ => c

/-! ### Calls by the thread of the loop -/

def send (c : TcpConnection) (msg : Bytes) (result : WriteResult) : TcpConnection :=
  if c.state_ = .connected then (c.record (.accepted msg)).sendInLoop msg result else c

def shutdown (c : TcpConnection) : TcpConnection :=
  if c.state_ = .connected then (c.setState .disconnecting).shutdownInLoop else c

def forceClose (c : TcpConnection) : TcpConnection :=
  if c.state_ = .connected ∨ c.state_ = .disconnecting then
    (c.setState .disconnecting).queueInLoop .forceCloseInLoop
  else c

end TcpConnection

/-! ### What writing leaves alone -/

def Functor.isLife : Functor → Bool
  | .connectEstablished | .connectDestroyed => true
  | _ => false

def Trace.isLife : Trace → Bool
  | .connectionCallback _ | .closeCallback | .handleClose | .epollDel => true
  | _ => false

/-- The part of a connection that has to do with coming up and going down. -/
structure Life where
  state_ : ConnState
  functors : List Functor
  removals : Nat
  listed : Bool
  aborted : Bool
  trace : List Trace

namespace TcpConnection

def life (c : TcpConnection) : Life :=
  ⟨c.state_, (c.functors ++ c.pendingFunctors_).filter Functor.isLife, c.removals, c.listed, c.aborted,
    c.trace.filter Trace.isLife⟩

theorem life_record (c : TcpConnection) {t : Trace} (other : t.isLife = false) : (c.record t).life = c.life := by
  simp [life, record, other]

theorem life_queueInLoop (c : TcpConnection) {f : Functor} (other : f.isLife = false) :
    (c.queueInLoop f).life = c.life := by
  simp [life, queueInLoop, other]

/-- What output does not touch. -/
def settled (c : TcpConnection) : ConnState × List Functor × Nat × Bool × Bool :=
  (c.state_, c.functors, c.removals, c.listed, c.aborted)

theorem channel_writeCompleted (c : TcpConnection) : c.writeCompleted.channel_ = c.channel_ := by
  unfold writeCompleted
  split <;> rfl

theorem channel_shutdownInLoop (c : TcpConnection) : c.shutdownInLoop.channel_ = c.channel_ := by
  unfold shutdownInLoop
  split <;> rfl

theorem handleWrite_idle {c : TcpConnection} (idle : c.channel_.isWriting = false) (result : WriteResult) :
    c.handleWrite result = c := by
  unfold handleWrite
  exact if_neg (Bool.eq_false_iff.mp idle)

end TcpConnection

theorem WriteResult.count_le (result : WriteResult) (len : Nat) : result.count len ≤ len := by
  cases result with
  | wrote n => exact Nat.min_le_right n len
  | again | error | fault => exact Nat.zero_le len

/-- Functors that only call the user. -/
def Functor.isNote : Functor → Bool
  | .writeComplete | .highWaterMark _ => true
  | _ => false

/-- A connection after some output: only its buffer and its interest in writability have changed, calls of the user
have been queued, and the trace has grown by `said`. -/
structure Outputs (c c' : TcpConnection) (said : List Trace) : Prop where
  settled : c'.settled = c.settled
  queue : ∃ notes, c'.pendingFunctors_ = c.pendingFunctors_ ++ notes ∧ ∀ f ∈ notes, f.isNote = true
  added : c.channel_.added = true → c'.channel_.added = true
  trace : c'.trace = said ++ c.trace

namespace Outputs

theorem silent {c c' : TcpConnection} (settled : c'.settled = c.settled) (queue : c'.pendingFunctors_ = c.pendingFunctors_)
    (added : c.channel_.added = true → c'.channel_.added = true) (trace : c'.trace = c.trace) : Outputs c c' [] where
  settled := settled
  queue := ⟨[], by rw [queue, List.append_nil], by simp⟩
  added := added
  trace := trace

theorem refl (c : TcpConnection) : Outputs c c [] := silent rfl rfl id rfl

theorem trans {c₁ c₂ c₃ : TcpConnection} {first second : List Trace} (before : Outputs c₁ c₂ first)
    (after : Outputs c₂ c₃ second) : Outputs c₁ c₃ (second ++ first) := by
  obtain ⟨notes, queue, user⟩ := before.queue
  obtain ⟨notes', queue', user'⟩ := after.queue
  refine ⟨after.settled.trans before.settled, ⟨notes ++ notes', ?_, ?_⟩, after.added ∘ before.added, ?_⟩
  · rw [queue', queue, List.append_assoc]
  · exact fun f member => (List.mem_append.mp member).elim (user f) (user' f)
  · rw [after.trace, before.trace, List.append_assoc]

theorem record (c : TcpConnection) (t : Trace) : Outputs c (c.record t) [t] :=
  ⟨rfl, ⟨[], (List.append_nil _).symm, by simp⟩, id, rfl⟩

theorem note (c : TcpConnection) {f : Functor} (user : f.isNote = true) : Outputs c (c.queueInLoop f) [] :=
  ⟨rfl, ⟨[f], rfl, by simpa using user⟩, id, rfl⟩

theorem setBuffer (c : TcpConnection) (outputBuffer_ : Buffer) : Outputs c { c with outputBuffer_ } [] :=
  silent rfl rfl id rfl

theorem setChannel (c : TcpConnection) {ch : Channel} (added : ch.added = true) : Outputs c (c.setChannel ch) [] :=
  silent rfl rfl (fun _ => added) rfl

section Derived

variable {c c' : TcpConnection} {said : List Trace}

theorem state (o : Outputs c c' said) : c'.state_ = c.state_ := congrArg Prod.fst o.settled

/-- Any part of the queue in which no call of the user stands is as it was. -/
theorem filter_queue (o : Outputs c c' said) {p : Functor → Bool} (other : ∀ f : Functor, f.isNote = true → p f = false) :
    (c'.functors ++ c'.pendingFunctors_).filter p = (c.functors ++ c.pendingFunctors_).filter p := by
  obtain ⟨notes, queue, user⟩ := o.queue
  have functors : c'.functors = c.functors := congrArg (fun settled => settled.2.1) o.settled
  have none : notes.filter p = [] := List.filter_eq_nil_iff.mpr fun f member => by simp [other f (user f member)]
  rw [functors, queue, ← List.append_assoc, List.filter_append, none, List.append_nil]

theorem life (o : Outputs c c' said) (other : ∀ t ∈ said, t.isLife = false) : c'.life = c.life := by
  have none : said.filter Trace.isLife = [] := List.filter_eq_nil_iff.mpr fun t member => by simp [other t member]
  have trace : c'.trace.filter Trace.isLife = c.trace.filter Trace.isLife := by
    rw [o.trace, List.filter_append, none, List.nil_append]
  have functors := o.filter_queue (p := Functor.isLife) fun f user => by cases f <;> first | rfl | cases user
  have settled := o.settled
  simp only [TcpConnection.settled, Prod.mk.injEq] at settled
  obtain ⟨state, _, removals, listed, aborted⟩ := settled
  rw [TcpConnection.life, TcpConnection.life, functors, state, removals, listed, aborted, trace]

end Derived

theorem writeCompleted (c : TcpConnection) : Outputs c c.writeCompleted [] := by
  unfold TcpConnection.writeCompleted
  split
  · exact note c rfl
  · exact refl c

theorem buffered (c : TcpConnection) (rest : Bytes) : Outputs c (c.buffered rest) [] := by
  unfold TcpConnection.buffered
  dsimp only
  have appended : ∀ c' : TcpConnection, Outputs c c' [] →
      Outputs c (if c'.channel_.isWriting = true then { c' with outputBuffer_ := c'.outputBuffer_.append rest }
        else { c' with outputBuffer_ := c'.outputBuffer_.append rest }.setChannel c'.channel_.enableWriting) [] := by
    intro c' before
    have filled := before.trans (setBuffer c' (c'.outputBuffer_.append rest))
    split
    · exact filled
    · exact filled.trans (setChannel _ rfl)
  split
  · exact appended _ (note c rfl)
  · exact appended c (refl c)

theorem shutdownInLoop (c : TcpConnection) :
    Outputs c c.shutdownInLoop (if c.channel_.isWriting then [] else [.shutdownWrite]) := by
  unfold TcpConnection.shutdownInLoop
  split
  · exact refl c
  · exact record c .shutdownWrite

theorem sendInLoop (c : TcpConnection) (data : Bytes) (result : WriteResult) :
    ∃ said, Outputs c (c.sendInLoop data result) said ∧
      (said = [.sendInLoop data] ∨ ∃ bytes, said = [.write bytes, .sendInLoop data]) := by
  unfold TcpConnection.sendInLoop
  have started := record c (.sendInLoop data)
  dsimp only
  split
  · exact ⟨_, started, Or.inl rfl⟩
  split
  · refine ⟨_, ?_, Or.inr ⟨data.take (result.count data.length), rfl⟩⟩
    have wrote := started.trans (record _ (.write (data.take (result.count data.length))))
    split
    · split
      · exact wrote.trans (writeCompleted _)
      · exact wrote
    split
    · exact wrote
    · exact wrote.trans (buffered _ _)
  · refine ⟨_, ?_, Or.inl rfl⟩
    split
    · exact started
    · exact started.trans (buffered _ _)

/-- `handleWrite` shuts the write side only when it has drained the buffer of a disconnecting connection. -/
theorem handleWrite {c : TcpConnection} (writing : c.channel_.isWriting = true) (result : WriteResult) :
    ∃ said, Outputs c (c.handleWrite result) said ∧ ∃ bytes, said = [.write bytes] ∨
      said = [.shutdownWrite, .write bytes] ∧ (c.handleWrite result).channel_.isWriting = false ∧
        c.state_ = .disconnecting ∧ result.count c.outputBuffer_.readableBytes = c.outputBuffer_.readableBytes := by
  unfold TcpConnection.handleWrite
  rw [if_pos writing]
  dsimp only
  generalize c.outputBuffer_.readable.take (result.count c.outputBuffer_.readableBytes) = bytes
  have wrote := record c (.write bytes)
  split
  swap
  · exact ⟨_, wrote, bytes, Or.inl rfl⟩
  have retrieved := wrote.trans (setBuffer _ (c.outputBuffer_.retrieve (result.count c.outputBuffer_.readableBytes)))
  split
  swap
  · exact ⟨_, retrieved, bytes, Or.inl rfl⟩
  rename_i drained
  have idle := retrieved.trans (setChannel _ (show c.channel_.disableWriting.added = true from rfl))
  have completed := idle.trans (writeCompleted _)
  split
  swap
  · exact ⟨_, completed, bytes, Or.inl rfl⟩
  rename_i disconnecting
  refine ⟨_, completed.trans (shutdownInLoop _), bytes, Or.inr ⟨?_, ?_, completed.state.symm.trans disconnecting, ?_⟩⟩
  · rw [TcpConnection.channel_writeCompleted]
    rfl
  · rw [TcpConnection.channel_shutdownInLoop, TcpConnection.channel_writeCompleted]
    rfl
  · have left : (c.outputBuffer_.retrieve (result.count c.outputBuffer_.readableBytes)).readable.length = 0 :=
      (Buffer.length_readable _).trans drained
    rw [Buffer.readable_retrieve, List.length_drop, Buffer.length_readable] at left
    exact Nat.le_antisymm (result.count_le _) (Nat.sub_eq_zero_iff_le.mp left)

end Outputs

namespace TcpConnection

theorem life_shutdownInLoop (c : TcpConnection) : c.shutdownInLoop.life = c.life := by
  refine (Outputs.shutdownInLoop c).life fun t member => ?_
  split at member
  · cases member
  · rw [List.mem_singleton.mp member]
    rfl

theorem life_sendInLoop (c : TcpConnection) (data : Bytes) (result : WriteResult) :
    (c.sendInLoop data result).life = c.life := by
  obtain ⟨said, outputs, rfl | ⟨bytes, rfl⟩⟩ := Outputs.sendInLoop c data result
  · exact outputs.life (by simp [Trace.isLife])
  · exact outputs.life (by simp [Trace.isLife])

theorem life_handleWrite (c : TcpConnection) (result : WriteResult) : (c.handleWrite result).life = c.life := by
  by_cases writing : c.channel_.isWriting = true
  · obtain ⟨said, outputs, bytes, rfl | ⟨rfl, _⟩⟩ := Outputs.handleWrite writing result
    · exact outputs.life (by simp [Trace.isLife])
    · exact outputs.life (by simp [Trace.isLife])
  · rw [handleWrite_idle (Bool.eq_false_iff.mpr writing)]

end TcpConnection

/-- `TcpServer::newConnection`: the connection is in `connections_` and its loop is asked to establish it. The mark is the
one of `setHighWaterMarkCallback`, when that is called. -/
def newConnection (writeComplete : Bool) (highWater : Option Nat) : TcpConnection where
  writeCompleteCallback_ := writeComplete
  highWaterMarkCallback_ := highWater.isSome
  highWaterMark_ := highWater.getD (64 * 1024 * 1024)
  pendingFunctors_ := [.connectEstablished]

end IotGateway.Net
