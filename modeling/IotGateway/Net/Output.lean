import IotGateway.Lib.Run
import IotGateway.Net.TcpConnection

/-!
# The bytes on the wire

A connection has two ways to write: `sendInLoop` at once when nothing waits, and
`handleWrite` from `outputBuffer_`. The channel waits for writability exactly while the
buffer holds bytes, so no message overtakes an earlier one and none is cut.
-/

namespace IotGateway.Net
open Text

/-- The bytes that the kernel has taken, in order. -/
def written : List Trace → Bytes
  | [] => []
  | .write bytes :: older => written older ++ bytes
  | _ :: older => written older

/-- The messages given to `sendInLoop`, in order. -/
def messages : List Trace → List Bytes
  | [] => []
  | .sendInLoop msg :: older => messages older ++ [msg]
  | _ :: older => messages older

/-- What has been written and what waits in `outputBuffer_` are the messages, and the channel waits for writability
exactly while bytes wait. -/
structure Flowing (c : TcpConnection) : Prop where
  bytes : written c.trace ++ c.outputBuffer_.readable = (messages c.trace).flatten
  interest : c.channel_.isWriting = true ↔ c.outputBuffer_.readable ≠ []

/-- What a flow depends on. -/
def TcpConnection.flow (c : TcpConnection) : Bytes × List Bytes × Bytes × Bool :=
  (written c.trace, messages c.trace, c.outputBuffer_.readable, c.channel_.isWriting)

open TcpConnection

theorem flowing_of_flow {c : TcpConnection} {out waiting : Bytes} {msgs : List Bytes} {writing : Bool}
    (flow : c.flow = (out, msgs, waiting, writing)) (bytes : out ++ waiting = msgs.flatten)
    (interest : writing = true ↔ waiting ≠ []) : Flowing c := by
  simp only [TcpConnection.flow, Prod.mk.injEq] at flow
  obtain ⟨rfl, rfl, rfl, rfl⟩ := flow
  exact ⟨bytes, interest⟩

theorem Flowing.of_flow {c c' : TcpConnection} (flowing : Flowing c) (same : c'.flow = c.flow) : Flowing c' :=
  flowing_of_flow same flowing.bytes flowing.interest

/-! ### One call -/

theorem flow_writeCompleted (c : TcpConnection) : c.writeCompleted.flow = c.flow := by
  unfold writeCompleted
  split <;> rfl

theorem flow_shutdownInLoop (c : TcpConnection) : c.shutdownInLoop.flow = c.flow := by
  unfold shutdownInLoop
  split <;> rfl

theorem flow_buffered (c : TcpConnection) (rest : Bytes) :
    (c.buffered rest).flow = (written c.trace, messages c.trace, c.outputBuffer_.readable ++ rest, true) := by
  have marked : ∀ c' : TcpConnection, c'.flow = c.flow →
      TcpConnection.flow (if c'.channel_.isWriting = true then { c' with outputBuffer_ := c'.outputBuffer_.append rest }
        else { c' with outputBuffer_ := c'.outputBuffer_.append rest }.setChannel c'.channel_.enableWriting) =
        (written c.trace, messages c.trace, c.outputBuffer_.readable ++ rest, true) := by
    intro c' same
    simp only [flow, Prod.mk.injEq] at same
    obtain ⟨out, msgs, waiting, writing⟩ := same
    rw [← out, ← msgs, ← waiting]
    split
    · rename_i on
      simp [flow, on]
    · simp [flow, setChannel, Channel.enableWriting, Channel.update]
  unfold buffered
  dsimp only
  split
  · exact marked (c.queueInLoop _) rfl
  · exact marked c rfl

theorem Flowing.buffered {c : TcpConnection} {rest : Bytes} (more : rest ≠ [])
    (bytes : written c.trace ++ c.outputBuffer_.readable ++ rest = (messages c.trace).flatten) :
    Flowing (c.buffered rest) := by
  refine flowing_of_flow (flow_buffered c rest) ?_ (iff_of_true rfl ?_)
  · rw [← List.append_assoc, bytes]
  · exact List.append_ne_nil_of_right_ne_nil _ more

theorem Flowing.sendInLoop {c : TcpConnection} (flowing : Flowing c) (up : c.state_ ≠ .disconnected) (data : Bytes)
    {result : WriteResult} (healthy : result ≠ .fault) : Flowing (c.sendInLoop data result) := by
  have bytes := flowing.bytes
  unfold TcpConnection.sendInLoop
  dsimp only
  rw [if_neg (show (c.record (.sendInLoop data)).state_ ≠ .disconnected from up)]
  split
  · rename_i direct
    have idle : c.channel_.isWriting = false := Bool.eq_false_iff.mpr direct.1
    have empty : c.outputBuffer_.readable = [] := by
      rw [← not_not (a := c.outputBuffer_.readable = []), ← ne_eq, ← flowing.interest, idle]
      exact Bool.false_ne_true
    rw [empty, List.append_nil] at bytes
    split
    · rename_i all
      have whole : data.take (result.count data.length) = data := by
        rw [← List.append_nil (List.take _ _), ← all, List.take_append_drop]
      have flow : ((c.record (.sendInLoop data)).record (.write (data.take (result.count data.length)))).flow =
          (written c.trace ++ data, messages c.trace ++ [data], [], false) := by
        simp only [TcpConnection.flow, record, written, messages, whole, empty, idle]
      have done : written c.trace ++ data ++ [] = (messages c.trace ++ [data]).flatten := by
        simp [bytes]
      have quiet : false = true ↔ ([] : Bytes) ≠ [] := by simp
      split
      · exact flowing_of_flow ((flow_writeCompleted _).trans flow) done quiet
      · exact flowing_of_flow flow done quiet
    · rename_i more
      refine Flowing.buffered more ?_
      simp [record, written, messages, empty, bytes]
  · split
    · rename_i nothing
      refine flowing_of_flow (c := c.record (.sendInLoop data)) rfl ?_ flowing.interest
      simp [record, written, messages, bytes, nothing]
    · rename_i more
      refine Flowing.buffered more ?_
      simp [record, written, messages, bytes]

theorem Flowing.handleWrite {c : TcpConnection} (flowing : Flowing c) (result : WriteResult) :
    Flowing (c.handleWrite result) := by
  have bytes := flowing.bytes
  unfold TcpConnection.handleWrite
  split
  swap
  · exact flowing
  rename_i writing
  generalize result.count c.outputBuffer_.readableBytes = n
  have cut : written c.trace ++ c.outputBuffer_.readable.take n ++ c.outputBuffer_.readable.drop n =
      (messages c.trace).flatten := by
    rw [List.append_assoc, List.take_append_drop, bytes]
  dsimp only
  split
  · split
    · rename_i drained
      have empty : c.outputBuffer_.readable.drop n = [] := by
        rw [← Buffer.readable_retrieve]
        exact List.eq_nil_of_length_eq_zero ((Buffer.length_readable _).trans drained)
      have quiet : false = true ↔ c.outputBuffer_.readable.drop n ≠ [] := by simp [empty]
      have flow : ∀ c' : TcpConnection,
          c' = ({ c.record (.write (c.outputBuffer_.readable.take n)) with
            outputBuffer_ := c.outputBuffer_.retrieve n }.setChannel c.channel_.disableWriting).writeCompleted →
          c'.flow = (written c.trace ++ c.outputBuffer_.readable.take n, messages c.trace,
            c.outputBuffer_.readable.drop n, false) := by
        rintro _ rfl
        rw [flow_writeCompleted]
        simp only [TcpConnection.flow, setChannel, record, written, messages, Buffer.readable_retrieve]
        rfl
      split
      · exact flowing_of_flow ((flow_shutdownInLoop _).trans (flow _ rfl)) cut quiet
      · exact flowing_of_flow (flow _ rfl) cut quiet
    · rename_i left
      refine flowing_of_flow rfl ?_ (iff_of_true writing fun none => left ?_)
      · simpa only [record, written, messages, Buffer.readable_retrieve] using cut
      · rw [← Buffer.length_readable]
        exact congrArg List.length none
  · rename_i none
    obtain rfl : n = 0 := by omega
    refine flowing.of_flow ?_
    simp [TcpConnection.flow, record, written, messages]

/-! ### Any sequence of calls -/

/-- The functions of a connection that its loop thread may call. -/
inductive LoopCall where
  | connectEstablished
  | connectDestroyed
  | send (msg : Bytes) (result : WriteResult)
  | sendInLoop (msg : Bytes) (result : WriteResult)
  | handleWrite (result : WriteResult)
  | handleRead (result : ReadResult)
  | handleClose
  | shutdown
  | shutdownInLoop
  | forceClose
  | forceCloseInLoop

namespace LoopCall

def exec (c : TcpConnection) (call : LoopCall) : TcpConnection :=
  if c.aborted then c
  else
    match call with
    | .connectEstablished => c.connectEstablished
    | .connectDestroyed => c.connectDestroyed
    | .send msg result => c.send msg result
    | .sendInLoop msg result => c.sendInLoop msg result
    | .handleWrite result => c.handleWrite result
    | .handleRead result => c.handleRead result
    | .handleClose => c.handleClose
    | .shutdown => c.shutdown
    | .shutdownInLoop => c.shutdownInLoop
    | .forceClose => c.forceClose
    | .forceCloseInLoop => c.forceCloseInLoop

def faults : LoopCall → Bool
  | .send _ .fault | .sendInLoop _ .fault | .handleWrite .fault => true
  | _ => false

end LoopCall

/-- A connection that is not down yet flows. -/
def FlowsUntilDown (c : TcpConnection) : Prop := c.state_ ≠ .disconnected → Flowing c

theorem flowsUntilDown_newConnection (writeComplete : Bool) (highWater : Option Nat) :
    FlowsUntilDown (newConnection writeComplete highWater) := by
  intro _
  exact ⟨by simp [newConnection, written, messages], by simp [newConnection]⟩

theorem FlowsUntilDown.of_flow {c c' : TcpConnection} (flows : FlowsUntilDown c) (state : c'.state_ = c.state_)
    (same : c'.flow = c.flow) : FlowsUntilDown c' := fun up => (flows (state ▸ up)).of_flow same

theorem FlowsUntilDown.handleClose {c : TcpConnection} (flows : FlowsUntilDown c) : FlowsUntilDown c.handleClose := by
  unfold TcpConnection.handleClose
  dsimp only
  split
  · exact fun up => absurd rfl up
  · exact flows.of_flow rfl rfl

theorem FlowsUntilDown.removeChannel {c : TcpConnection} (flows : FlowsUntilDown c) : FlowsUntilDown c.removeChannel := by
  unfold TcpConnection.removeChannel
  split <;> exact flows.of_flow rfl rfl

theorem FlowsUntilDown.sendInLoop {c : TcpConnection} (flows : FlowsUntilDown c) (data : Bytes) {result : WriteResult}
    (healthy : result ≠ .fault) : FlowsUntilDown (c.sendInLoop data result) := by
  have state : (c.sendInLoop data result).state_ = c.state_ := congrArg Life.state_ (c.life_sendInLoop data result)
  intro up
  rw [state] at up
  exact (flows up).sendInLoop up data healthy

theorem FlowsUntilDown.handleWrite {c : TcpConnection} (flows : FlowsUntilDown c) (result : WriteResult) :
    FlowsUntilDown (c.handleWrite result) := by
  have state : (c.handleWrite result).state_ = c.state_ := congrArg Life.state_ (c.life_handleWrite result)
  intro up
  rw [state] at up
  exact (flows up).handleWrite result

theorem FlowsUntilDown.shutdownInLoop {c : TcpConnection} (flows : FlowsUntilDown c) :
    FlowsUntilDown c.shutdownInLoop :=
  flows.of_flow (congrArg Life.state_ c.life_shutdownInLoop) (flow_shutdownInLoop c)

theorem FlowsUntilDown.exec {c : TcpConnection} (flows : FlowsUntilDown c) {call : LoopCall} (healthy : call.faults = false) :
    FlowsUntilDown (LoopCall.exec c call) := by
  unfold LoopCall.exec
  split
  · exact flows
  cases call with
  | connectEstablished =>
    simp only [TcpConnection.connectEstablished]
    split
    · rename_i connecting
      have up : c.state_ ≠ .disconnected := by simp [connecting]
      exact fun _ => (flows up).of_flow rfl
    · exact flows.of_flow rfl rfl
  | connectDestroyed =>
    simp only [TcpConnection.connectDestroyed]
    split
    · refine FlowsUntilDown.removeChannel fun up => ?_
      exact absurd rfl up
    · exact flows.removeChannel
  | send msg result =>
    simp only [TcpConnection.send]
    split
    · have accepted : FlowsUntilDown (c.record (.accepted msg)) := flows.of_flow rfl rfl
      exact accepted.sendInLoop msg (by rintro rfl; cases healthy)
    · exact flows
  | sendInLoop msg result => exact flows.sendInLoop msg (by rintro rfl; cases healthy)
  | handleWrite result => exact flows.handleWrite result
  | handleRead result =>
    cases result with
    | data received => exact flows.of_flow rfl rfl
    | eof => exact flows.handleClose
    | error => exact flows
  | handleClose => exact flows.handleClose
  | shutdown =>
    simp only [TcpConnection.shutdown]
    split
    · rename_i connected
      have up : c.state_ ≠ .disconnected := by simp [connected]
      exact FlowsUntilDown.shutdownInLoop fun _ => (flows up).of_flow rfl
    · exact flows
  | shutdownInLoop => exact flows.shutdownInLoop
  | forceClose =>
    simp only [TcpConnection.forceClose]
    split
    · rename_i open_
      have up : c.state_ ≠ .disconnected := by
        intro down
        simp [down] at open_
      exact fun _ => (flows up).of_flow rfl
    · exact flows
  | forceCloseInLoop =>
    simp only [TcpConnection.forceCloseInLoop]
    split
    · exact flows.handleClose
    · exact flows

/-- Along every sequence of calls on the loop thread without an EPIPE or ECONNRESET, as long as the connection is up, the
bytes that the kernel took and those that wait are the messages in the order of their `sendInLoop` calls, and the channel
waits for writability exactly while bytes wait. -/
theorem output_in_order (writeComplete : Bool) (highWater : Option Nat) (calls : List LoopCall)
    (healthy : ∀ call ∈ calls, call.faults = false) :
    let c := run LoopCall.exec (newConnection writeComplete highWater) calls
    c.state_ = .connected ∨ c.state_ = .disconnecting →
      written c.trace ++ c.outputBuffer_.readable = (messages c.trace).flatten ∧
        (c.channel_.isWriting = true ↔ c.outputBuffer_.readable ≠ []) := by
  intro c up
  have meets : Meets LoopCall.exec (fun _ call => call.faults = false) (newConnection writeComplete highWater) calls :=
    Meets.of_events LoopCall.exec (fun call member _ => healthy call member) _
  have flows : FlowsUntilDown c :=
    run_invariant LoopCall.exec (flowsUntilDown_newConnection writeComplete highWater)
      (fun _ _ flows healthy => flows.exec healthy) meets
  have flowing : Flowing c := flows (by rcases up with up | up <;> simp [up])
  exact ⟨flowing.bytes, flowing.interest⟩

/-- A short write, a message behind it, and two rounds of `handleWrite` with an EAGAIN between them. -/
def shortWrites : List LoopCall :=
  [.connectEstablished, .sendInLoop (ascii "temp=23;") (.wrote 5), .sendInLoop (ascii "ok") (.wrote 2),
    .handleWrite (.wrote 4), .handleWrite .again]

def shortOutput : TcpConnection := run LoopCall.exec (newConnection true none) shortWrites

theorem output_in_order_short :
    written shortOutput.trace = ascii "temp=23;o" ∧ shortOutput.outputBuffer_.readable = ascii "k" ∧
      written shortOutput.trace ++ shortOutput.outputBuffer_.readable = (messages shortOutput.trace).flatten ∧
        (shortOutput.channel_.isWriting = true ↔ shortOutput.outputBuffer_.readable ≠ []) := by
  have up : shortOutput.state_ = .connected := by decide +kernel
  have healthy : ∀ call ∈ shortWrites, call.faults = false := by decide
  refine ⟨by decide +kernel, by decide +kernel, ?_⟩
  unfold shortOutput at up ⊢
  exact output_in_order true none shortWrites healthy (Or.inl up)

end IotGateway.Net
