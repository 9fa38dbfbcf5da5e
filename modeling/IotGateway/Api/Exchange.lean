import IotGateway.Lib.Http
import IotGateway.Net.Output
import IotGateway.Api.ApiServer

/-!
# One answer on a connection

A connection of an HTTP server on its loop, from the accept to the FIN. What arrives goes
to the input buffer and to the handler, and what the handler asks for happens at once. A
handler shuts the connection down behind its answer, and `send` looks at the state first,
so whatever the client sends after its first request is read and not answered.
-/

namespace IotGateway.Api
open Text Net

/-- `handleHttpRequest` of a server whose callbacks act on `σ`. What it may throw, or die of, is `ε`. -/
abbrev Handler (ε σ : Type) := Buffer → σ → Except ε (List ConnAction × σ) × Buffer

/-- The calls that the actions of a handler make, with what the socket takes of each message. -/
def calls : List ConnAction → List WriteResult → List LoopCall
  | [], _ => []
  | .send data :: actions, results => .send data (results.headD .again) :: calls actions results.tail
  | .shutdown :: actions, results => .shutdown :: calls actions results

structure HttpConnection (σ : Type) where
  conn : TcpConnection
  inputBuffer_ : Buffer := Buffer.new kInitialSize
  state : σ
  terminated : Bool := false

inductive HttpEvent (σ : Type) where
  | connectEstablished
  | handleRead (result : ReadResult) (writes : List WriteResult)
  | handleWrite (result : WriteResult)
  | handleClose
  | connectDestroyed
  /-- Another part of the program changes what the callbacks look at. -/
  | elsewhere (change : σ → σ)

namespace HttpConnection

variable {ε σ : Type}

/-- An accepted connection. The HTTP servers set neither of the two write callbacks. -/
def new (s : σ) : HttpConnection σ where
  conn := newConnection false none
  state := s

/-- `onMessage`. An exception of the handler ends the process. -/
def onMessage (handler : Handler ε σ) (writes : List WriteResult) (x : HttpConnection σ) : HttpConnection σ :=
  match handler x.inputBuffer_ x.state with
  | (.ok (actions, state), inputBuffer_) =>
    { x with conn := run LoopCall.exec x.conn (calls actions writes), inputBuffer_, state }
  | (.error _, inputBuffer_) => { x with inputBuffer_, terminated := true }

def step (handler : Handler ε σ) (x : HttpConnection σ) (e : HttpEvent σ) : HttpConnection σ :=
  if x.terminated then x
  else
    match e with
    | .connectEstablished => { x with conn := LoopCall.exec x.conn .connectEstablished }
    | .handleRead (.data received) writes =>
      { x with
          conn := LoopCall.exec x.conn (.handleRead (.data received))
          inputBuffer_ := x.inputBuffer_.append received }.onMessage handler writes
    | .handleRead result _ => { x with conn := LoopCall.exec x.conn (.handleRead result) }
    | .handleWrite result => { x with conn := LoopCall.exec x.conn (.handleWrite result) }
    | .handleClose => { x with conn := LoopCall.exec x.conn .handleClose }
    | .connectDestroyed => { x with conn := LoopCall.exec x.conn .connectDestroyed }
    | .elsewhere change => { x with state := change x.state }

end HttpConnection

/-- A write of this event fails with EPIPE or ECONNRESET. -/
def HttpEvent.faults {σ : Type} : HttpEvent σ → Bool
  | .handleRead _ writes => writes.contains .fault
  | .handleWrite result => result = .fault
  | _ => false

/-- The handler does nothing, or it sends a whole answer and shuts the connection down. -/
def Answers {ε σ : Type} (handler : Handler ε σ) (answer : Http.Response → Prop) : Prop :=
  ∀ buf s, match (handler buf s).1 with
    | .ok (actions, _) => actions = [] ∨ ∃ r, answer r ∧ actions = [.send r.head, .send r.body, .shutdown]
    | .error _ => True

/-! ### How far a connection is with its answer -/

def fins (c : TcpConnection) : Nat := c.trace.count .shutdownWrite

inductive Phase (answer : Http.Response → Prop) (c : TcpConnection) : Prop where
  | waiting (up : c.state_ = .connecting ∨ c.state_ = .connected) (flowing : Flowing c) (unsent : messages c.trace = [])
      (open_ : fins c = 0)
  | answering (r : Http.Response) (answered : answer r) (closing : c.state_ = .disconnecting) (flowing : Flowing c)
      (sent : messages c.trace = [r.head, r.body]) (shut : fins c = if c.channel_.isWriting then 0 else 1)
  | gone (down : c.state_ = .disconnected) (idle : c.channel_.isWriting = false)
      (left : (written c.trace = [] ∧ fins c = 0) ∨ ∃ r, answer r ∧ written c.trace <+: r.render ∧
        (fins c = 0 ∨ fins c = 1 ∧ written c.trace = r.render))

section Phases

variable {answer : Http.Response → Prop} {c : TcpConnection}

/-- What a client can tell of a phase. -/
theorem Phase.seen (phase : Phase answer c) : (written c.trace = [] ∧ fins c = 0) ∨
    ∃ r, answer r ∧ written c.trace <+: r.render ∧ (fins c = 0 ∨ fins c = 1 ∧ written c.trace = r.render) := by
  cases phase with
  | waiting up flowing unsent open_ =>
    have bytes := flowing.bytes
    rw [unsent, List.flatten_nil, List.append_eq_nil_iff] at bytes
    exact Or.inl ⟨bytes.1, open_⟩
  | answering r answered closing flowing sent shut =>
    have bytes : written c.trace ++ c.outputBuffer_.readable = r.render := by
      rw [flowing.bytes, sent]
      simp [Http.Response.render]
    refine Or.inr ⟨r, answered, ⟨_, bytes⟩, ?_⟩
    cases writing : c.channel_.isWriting with
    | true =>
      rw [writing] at shut
      exact Or.inl shut
    | false =>
      have drained : c.outputBuffer_.readable = [] := by
        by_contra waits
        rw [flowing.interest.mpr waits] at writing
        cases writing
      rw [writing] at shut
      rw [drained, List.append_nil] at bytes
      exact Or.inr ⟨shut, bytes⟩
  | gone down idle left => exact left

/-- A phase depends on the state, the flow and the FINs. -/
theorem Phase.congr {c' : TcpConnection} (phase : Phase answer c) (state : c'.state_ = c.state_) (flow : c'.flow = c.flow)
    (fin : fins c' = fins c) : Phase answer c' := by
  have parts := flow
  simp only [TcpConnection.flow, Prod.mk.injEq] at parts
  obtain ⟨out, msgs, -, writing⟩ := parts
  cases phase with
  | waiting up flowing unsent open_ =>
    exact .waiting (by rwa [state]) (flowing.of_flow flow) (msgs.trans unsent) (fin.trans open_)
  | answering r answered closing flowing sent shut =>
    refine .answering r answered (state.trans closing) (flowing.of_flow flow) (msgs.trans sent) ?_
    rw [fin, writing, shut]
  | gone down idle left =>
    refine .gone (state.trans down) (writing.trans idle) ?_
    rw [out, fin]
    exact left

theorem Phase.mono {answer' : Http.Response → Prop} (phase : Phase answer c) (more : ∀ r, answer r → answer' r) :
    Phase answer' c := by
  cases phase with
  | waiting up flowing unsent open_ => exact .waiting up flowing unsent open_
  | answering r answered closing flowing sent shut => exact .answering r (more r answered) closing flowing sent shut
  | gone down idle left =>
    refine .gone down idle (left.imp_right ?_)
    intro told
    obtain ⟨r, answered, rest⟩ := told
    exact ⟨r, more r answered, rest⟩

/-- Whatever the phase was, a connection that goes down has said what it had said. -/
theorem Phase.down {c' : TcpConnection} (phase : Phase answer c) (down : c'.state_ = .disconnected)
    (idle : c'.channel_.isWriting = false) (out : written c'.trace = written c.trace) (fin : fins c' = fins c) :
    Phase answer c' := by
  refine .gone down idle ?_
  rw [out, fin]
  exact phase.seen

theorem Phase.handleClose (phase : Phase answer c) : Phase answer c.handleClose := by
  unfold TcpConnection.handleClose
  dsimp only
  split
  · exact phase.down rfl rfl rfl rfl
  · exact phase.congr rfl rfl rfl

theorem Phase.removeChannel (phase : Phase answer c) : Phase answer c.removeChannel := by
  unfold TcpConnection.removeChannel
  split
  · exact phase.congr rfl rfl rfl
  · exact phase.congr rfl rfl rfl

/-- The write side of a connection that closes is shut when its buffer has drained. -/
theorem fins_handleWrite (writing : c.channel_.isWriting = true) (closing : c.state_ = .disconnecting) (result : WriteResult) :
    fins (c.handleWrite result) = fins c + if (c.handleWrite result).channel_.isWriting then 0 else 1 := by
  have drained : ∀ d : TcpConnection, d.state_ = .disconnecting → d.channel_.isWriting = false → fins d = fins c →
      let ended := if d.writeCompleted.state_ = .disconnecting then d.writeCompleted.shutdownInLoop else d.writeCompleted
      fins ended = fins c + if ended.channel_.isWriting then 0 else 1 := by
    intro d state idle before
    have completed := Outputs.writeCompleted d
    have quiet : d.writeCompleted.channel_.isWriting = false := by rw [TcpConnection.channel_writeCompleted, idle]
    have said := (Outputs.shutdownInLoop d.writeCompleted).trace
    dsimp only
    rw [if_pos (completed.state.trans state), TcpConnection.channel_shutdownInLoop, quiet, ← before, fins, fins, said,
      completed.trace, quiet]
    simp
  unfold TcpConnection.handleWrite
  rw [if_pos writing]
  dsimp only
  split
  swap
  · simp [fins, TcpConnection.record, writing]
  split
  swap
  · simp [fins, TcpConnection.record, writing]
  refine drained _ closing rfl ?_
  simp [fins, TcpConnection.record, TcpConnection.setChannel]

theorem Phase.handleWrite (phase : Phase answer c) (result : WriteResult) : Phase answer (c.handleWrite result) := by
  by_cases writing : c.channel_.isWriting = true
  swap
  · rw [TcpConnection.handleWrite_idle (Bool.eq_false_iff.mpr writing)]
    exact phase
  cases phase with
  | waiting up flowing unsent open_ =>
    -- nothing was sent, so nothing waits
    have bytes := flowing.bytes
    rw [unsent, List.flatten_nil, List.append_eq_nil_iff] at bytes
    exact absurd bytes.2 (flowing.interest.mp writing)
  | gone down idle left => exact absurd writing (Bool.eq_false_iff.mp idle)
  | answering r answered closing flowing sent shut =>
    obtain ⟨said, outputs, bytes, spoken⟩ := Outputs.handleWrite writing result
    have none : fins c = 0 := shut.trans (if_pos writing)
    have sent' : messages (c.handleWrite result).trace = [r.head, r.body] := by
      rw [outputs.trace]
      rcases spoken with rfl | ⟨rfl, _⟩
      · exact sent
      · exact sent
    refine .answering r answered (outputs.state.trans closing) (flowing.handleWrite result) sent' ?_
    rw [fins_handleWrite writing closing, none, Nat.zero_add]

/-! ### The calls of an answer -/

theorem messages_sendInLoop (c : TcpConnection) (data : Bytes) (result : WriteResult) :
    messages (c.sendInLoop data result).trace = messages c.trace ++ [data] ∧ fins (c.sendInLoop data result) = fins c := by
  obtain ⟨said, outputs, rfl | ⟨bytes, rfl⟩⟩ := Outputs.sendInLoop c data result
  · rw [fins, outputs.trace]
    exact ⟨rfl, by simp [fins]⟩
  · rw [fins, outputs.trace]
    exact ⟨rfl, by simp [fins]⟩

/-- A message that a connection takes is behind those it has taken. -/
theorem send_connected (connected : c.state_ = .connected) (flowing : Flowing c) (data : Bytes) {result : WriteResult}
    (healthy : result ≠ .fault) :
    (c.send data result).state_ = .connected ∧ Flowing (c.send data result) ∧
      messages (c.send data result).trace = messages c.trace ++ [data] ∧ fins (c.send data result) = fins c ∧
      (c.send data result).aborted = c.aborted := by
  unfold TcpConnection.send
  rw [if_pos connected]
  have taken : Flowing (c.record (.accepted data)) := flowing.of_flow rfl
  have up : (c.record (.accepted data)).state_ ≠ .disconnected := by
    show c.state_ ≠ _
    simp [connected]
  obtain ⟨said, outputs, _⟩ := Outputs.sendInLoop (c.record (.accepted data)) data result
  obtain ⟨msgs, fin⟩ := messages_sendInLoop (c.record (.accepted data)) data result
  refine ⟨outputs.state.trans connected, taken.sendInLoop up data healthy, msgs, ?_, ?_⟩
  · rw [fin]
    simp [fins, TcpConnection.record]
  · exact congrArg (fun settled => settled.2.2.2.2) outputs.settled

theorem shutdown_connected (connected : c.state_ = .connected) :
    c.shutdown.state_ = .disconnecting ∧ c.shutdown.flow = c.flow ∧
      fins c.shutdown = fins c + if c.shutdown.channel_.isWriting then 0 else 1 := by
  unfold TcpConnection.shutdown
  rw [if_pos connected]
  have outputs := Outputs.shutdownInLoop (c.setState .disconnecting)
  have channel : (c.setState .disconnecting).shutdownInLoop.channel_ = c.channel_ :=
    TcpConnection.channel_shutdownInLoop _
  refine ⟨outputs.state, flow_shutdownInLoop _, ?_⟩
  rw [channel, fins, outputs.trace, List.count_append, Nat.add_comm]
  have same : (c.setState .disconnecting).channel_.isWriting = c.channel_.isWriting := rfl
  rw [same]
  cases c.channel_.isWriting <;> rfl

/-- The whole answer, on a connection that is up. -/
theorem answer_calls (connected : c.state_ = .connected) (flowing : Flowing c) (unsent : messages c.trace = [])
    (open_ : fins c = 0) (going : c.aborted = false) {r : Http.Response} (answered : answer r) {writes : List WriteResult}
    (healthy : WriteResult.fault ∉ writes) :
    Phase answer (run LoopCall.exec c (calls [.send r.head, .send r.body, .shutdown] writes)) := by
  have sound : ∀ results : List WriteResult, .fault ∉ results → results.headD .again ≠ .fault := by
    intro results clean
    cases results with
    | nil => simp
    | cons result results => exact fun same => clean (same ▸ List.mem_cons_self)
  have first := sound writes healthy
  have second := sound writes.tail fun member => healthy (List.mem_of_mem_tail member)
  obtain ⟨state₁, flowing₁, sent₁, fins₁, going₁⟩ := send_connected connected flowing r.head first
  obtain ⟨state₂, flowing₂, sent₂, fins₂, going₂⟩ := send_connected state₁ flowing₁ r.body second
  obtain ⟨state₃, flow₃, fins₃⟩ := shutdown_connected state₂
  have unfolded : run LoopCall.exec c (calls [.send r.head, .send r.body, .shutdown] writes) =
      ((c.send r.head (writes.headD .again)).send r.body (writes.tail.headD .again)).shutdown := by
    simp only [calls, run_cons, run_nil, LoopCall.exec, going, going₁, going₂, Bool.false_eq_true, if_false]
  have msgs := congrArg (fun flow => flow.2.1) flow₃
  rw [unfolded]
  refine .answering r answered state₃ (flowing₂.of_flow flow₃) (msgs.trans ?_) ?_
  · show messages _ = _
    rw [sent₂, sent₁, unsent]
    rfl
  · rw [fins₃, fins₂, fins₁, open_, Nat.zero_add]

/-- A connection that is not up takes nothing, and is not shut down again. -/
theorem calls_ignored (down : c.state_ ≠ .connected) (actions : List ConnAction) (writes : List WriteResult) :
    run LoopCall.exec c (calls actions writes) = c := by
  induction actions generalizing writes with
  | nil => rfl
  | cons action actions ih =>
    cases action with
    | send data =>
      rw [calls, run_cons]
      have ignored : LoopCall.exec c (.send data (writes.headD .again)) = c := by
        simp [LoopCall.exec, TcpConnection.send, down]
      rw [ignored, ih]
    | shutdown =>
      rw [calls, run_cons]
      have ignored : LoopCall.exec c .shutdown = c := by simp [LoopCall.exec, TcpConnection.shutdown, down]
      rw [ignored, ih]

/-! ### Any sequence of events -/

theorem Phase.connectEstablished (phase : Phase answer c) : Phase answer c.connectEstablished := by
  unfold TcpConnection.connectEstablished
  split
  swap
  · exact phase.congr rfl rfl rfl
  rename_i connecting
  cases phase with
  | waiting up flowing unsent open_ => exact .waiting (Or.inr rfl) (flowing.of_flow rfl) unsent open_
  | answering r answered closing _ _ _ =>
    rw [closing] at connecting
    cases connecting
  | gone down _ _ =>
    rw [down] at connecting
    cases connecting

theorem Phase.connectDestroyed (phase : Phase answer c) : Phase answer c.connectDestroyed := by
  unfold TcpConnection.connectDestroyed
  split
  · exact Phase.removeChannel (phase.down rfl rfl rfl rfl)
  · exact phase.removeChannel

theorem Phase.handleRead (phase : Phase answer c) (result : ReadResult) : Phase answer (c.handleRead result) := by
  cases result with
  | data received => exact phase.congr rfl rfl rfl
  | eof => exact phase.handleClose
  | error => exact phase

/-- A failed assertion has ended the process, or the call is made. -/
theorem Phase.unless {c' : TcpConnection} (phase : Phase answer c) (next : Phase answer c') :
    Phase answer (if c.aborted then c else c') := by
  split
  · exact phase
  · exact next

theorem calls_aborted (aborted : c.aborted = true) (actions : List ConnAction) (writes : List WriteResult) :
    run LoopCall.exec c (calls actions writes) = c := by
  induction actions generalizing writes with
  | nil => rfl
  | cons action actions ih =>
    have ended : ∀ call, LoopCall.exec c call = c := fun _ => if_pos aborted
    cases action with
    | send data => rw [calls, run_cons, ended, ih]
    | shutdown => rw [calls, run_cons, ended, ih]

/-- Whatever a handler that answers asks for, a phase is followed by a phase. -/
theorem Phase.answers (phase : Phase answer c) {actions : List ConnAction}
    (asked : actions = [] ∨ ∃ r, answer r ∧ actions = [.send r.head, .send r.body, .shutdown]) {writes : List WriteResult}
    (healthy : WriteResult.fault ∉ writes) : Phase answer (run LoopCall.exec c (calls actions writes)) := by
  rcases asked with rfl | ⟨r, answered, rfl⟩
  · exact phase
  cases aborted : c.aborted with
  | true =>
    rw [calls_aborted aborted]
    exact phase
  | false =>
    by_cases connected : c.state_ = .connected
    swap
    · rw [calls_ignored connected]
      exact phase
    cases phase with
    | waiting up flowing unsent open_ => exact answer_calls connected flowing unsent open_ aborted answered healthy
    | answering _ _ closing _ _ _ =>
      rw [closing] at connected
      cases connected
    | gone down _ _ =>
      rw [down] at connected
      cases connected

end Phases

section Exchange

variable {ε σ : Type} {handler : Handler ε σ} {answer told : Http.Response → Prop}

/-- The connection is in one of the phases. -/
def Phased (answer : Http.Response → Prop) (x : HttpConnection σ) : Prop := Phase answer x.conn

/-- What the handler makes of the input buffer at this event is this response. -/
def Given (handler : Handler ε σ) (x : HttpConnection σ) (e : HttpEvent σ) (r : Http.Response) : Prop :=
  ∃ received writes state, e = .handleRead (.data received) writes ∧
    (handler (x.inputBuffer_.append received) x.state).1 = .ok ([.send r.head, .send r.body, .shutdown], state)

theorem phase_new (s : σ) : Phased answer (HttpConnection.new s) := by
  apply Phase.waiting (Or.inl rfl)
  · exact ⟨rfl, by simp [HttpConnection.new, newConnection]⟩
  · rfl
  · rfl

theorem phase_onMessage {x : HttpConnection σ} (phase : Phased told x)
    (asked : ∀ actions state, (handler x.inputBuffer_ x.state).1 = .ok (actions, state) →
      actions = [] ∨ ∃ r, told r ∧ actions = [.send r.head, .send r.body, .shutdown])
    {writes : List WriteResult} (healthy : WriteResult.fault ∉ writes) : Phased told (x.onMessage handler writes) := by
  unfold HttpConnection.onMessage
  generalize handler x.inputBuffer_ x.state = outcome at asked
  obtain ⟨result, inputBuffer_⟩ := outcome
  cases result with
  | error e => exact phase
  | ok done => exact Phase.answers phase (asked done.1 done.2 rfl) healthy

theorem phase_step (answers : Answers handler answer) {x : HttpConnection σ} (phase : Phased told x) {e : HttpEvent σ}
    (healthy : e.faults = false) (given : ∀ r, answer r → Given handler x e r → told r) : Phased told (x.step handler e) := by
  unfold HttpConnection.step
  split
  · exact phase
  cases e with
  | connectEstablished => exact Phase.unless phase (Phase.connectEstablished phase)
  | handleRead result writes =>
    have read : Phase told (LoopCall.exec x.conn (.handleRead result)) := Phase.unless phase (Phase.handleRead phase result)
    cases result with
    | data received =>
      have stored : Phased told { x with
          conn := LoopCall.exec x.conn (.handleRead (.data received))
          inputBuffer_ := x.inputBuffer_.append received } := read
      refine phase_onMessage stored ?_ (by simpa [HttpEvent.faults] using healthy)
      intro actions state asked
      have cases_ := answers (x.inputBuffer_.append received) x.state
      rw [asked] at cases_
      rcases cases_ with none | ⟨r, answered, same⟩
      · exact Or.inl none
      · subst same
        exact Or.inr ⟨r, given r answered ⟨received, writes, state, rfl, asked⟩, rfl⟩
    | eof | error => exact read
  | handleWrite result => exact Phase.unless phase (Phase.handleWrite phase result)
  | handleClose => exact Phase.unless phase (Phase.handleClose phase)
  | connectDestroyed => exact Phase.unless phase (Phase.connectDestroyed phase)
  | elsewhere change => exact phase

/-- The response is the one that the handler gave at one of the events. -/
def GivenIn (handler : Handler ε σ) (s : σ) (events : List (HttpEvent σ)) (r : Http.Response) : Prop :=
  ∃ before e after, events = before ++ e :: after ∧
    Given handler (run (HttpConnection.step handler) (HttpConnection.new s) before) e r

theorem phase_run (answers : Answers handler answer) (s : σ) {events : List (HttpEvent σ)}
    (healthy : ∀ e ∈ events, e.faults = false) :
    Phased (fun r => answer r ∧ GivenIn handler s events r) (run (HttpConnection.step handler) (HttpConnection.new s) events) := by
  induction events using List.reverseRecOn with
  | nil => exact phase_new s
  | append_singleton events e ih =>
    have before := ih fun e member => healthy e (List.mem_append_left _ member)
    rw [run_append]
    refine phase_step answers (Phase.mono before ?_) (healthy e (by simp)) ?_
    · intro r told
      obtain ⟨answered, first, e', after, same, given⟩ := told
      exact ⟨answered, first, e', after ++ [e], by simp [same], given⟩
    · intro r answered given
      exact ⟨answered, events, e, [], rfl, given⟩

/-- Along every run in which no write fails with EPIPE or ECONNRESET, a connection of a server whose handler answers with
sound responses has written nothing yet, or a part of the response to one of its reads and nothing behind it. The write
side is shut once at most, and only behind the whole response, which a client reads whatever pieces it comes in. -/
theorem one_response (answers : Answers handler answer) (sound : ∀ r, answer r → r.Sound) (s : σ) {events : List (HttpEvent σ)}
    (healthy : ∀ e ∈ events, e.faults = false) :
    let c := (run (HttpConnection.step handler) (HttpConnection.new s) events).conn
    (written c.trace = [] ∧ fins c = 0) ∨ ∃ r, (answer r ∧ GivenIn handler s events r) ∧ written c.trace <+: r.render ∧
      fins c ≤ 1 ∧ (fins c = 1 → ∀ pieces : List Bytes, pieces.flatten = written c.trace →
        Http.responses.feedAll pieces = ([.event r], [])) := by
  intro c
  have phase : Phase _ c := phase_run answers s healthy
  rcases phase.seen with none | ⟨r, answered, taken, fin⟩
  · exact Or.inl none
  · refine Or.inr ⟨r, answered, taken, ?_, ?_⟩
    · rcases fin with open_ | ⟨shut, _⟩
      · exact open_ ▸ Nat.zero_le 1
      · exact Nat.le_of_eq shut
    · intro shut pieces split
      have whole : written c.trace = r.render := by
        rcases fin with open_ | ⟨_, whole⟩
        · exact absurd (open_.symm.trans shut) Nat.zero_ne_one
        · exact whole
      have one : ∀ r' ∈ [r], Http.Response.Sound r' := by simpa using sound r answered.1
      refine Http.feedAll_render one ?_
      rw [split, whole]
      simp

end Exchange

end IotGateway.Api
