import IotGateway.Gateway.Frame
import IotGateway.Protocol.RoundTrip

/-!
# Several loops in one server

All worker loops of a server share one codec and one `currentConn_`. `onMessage` sets
`currentConn_` once, then parses packet by packet, and every callback of the codec is
handed `currentConn_` as it is at that moment. A step is the start of an `onMessage`, one
round of its loop, or an event of the node that is not a packet. The loops take their
steps in any order.
-/

namespace IotGateway.Gateway
open Text Net Storage Protocol

structure EventLoopThreadPool where
  numThreads_ : Nat
  next_ : Nat := 0

/-- Round robin over the workers. Without workers every connection lives on the base loop, which is number zero. -/
def EventLoopThreadPool.getNextLoop (pool : EventLoopThreadPool) : Nat × EventLoopThreadPool :=
  if pool.numThreads_ = 0 then (0, pool)
  else (pool.next_, { pool with next_ := if pool.numThreads_ ≤ pool.next_ + 1 then 0 else pool.next_ + 1 })

/-- A callback of the codec: whose bytes were parsed, and the connection that the handler was given. -/
structure Call where
  parsed : ConnId
  handled : Option ConnId
  event : MqttEvent

/-- `tasks` holds the loops that are inside `onMessage`, each with the connection it works on. -/
structure Reactor where
  server : GatewayServer
  world : World
  threadPool_ : EventLoopThreadPool
  ioLoop : ConnId → Option Nat := fun _ => none
  inputs : ConnId → Buffer := fun _ => newBuffer
  currentConn_ : Option ConnId := none
  tasks : AList fun _ : Nat => ConnId := ∅
  calls : List Call := []

inductive LoopEvent where
  | accept (conn : ConnId)
  /-- `handleRead` got `received` and calls `onMessage`, which sets `currentConn_`. -/
  | message (conn : ConnId) (received : Bytes)
  /-- One round of the while loop of `onMessage`. -/
  | parse (loop : Nat)
  | close (conn : ConnId)
  | node (event : NodeEvent)

/-- `start` gives the codec a callback for every packet it reports but PUBACK. -/
def hasCallback : MqttEvent → Bool
  | .pubAck _ => false
  | _ => true

/-- Connections are accepted, read and closed by the loops, everything else happens apart from them. -/
def elsewhere : NodeEvent → Bool
  | .accept _ | .packet .. | .close _ => false
  | _ => true

namespace Reactor

def new (server : GatewayServer) (world : World) (threads : Nat) : Reactor :=
  { server, world, threadPool_ := ⟨threads, 0⟩ }

section Node

variable (nodeId_ : NodeId)

def fire (conn : ConnId) (r : Reactor) (e : MqttEvent) : Reactor :=
  if hasCallback e then
    let r := { r with calls := ⟨conn, r.currentConn_, e⟩ :: r.calls }
    match r.currentConn_ with
    -- the handlers would be given a null pointer
    | none => r
    | some current =>
      let (server, world) := r.server.handleEvent nodeId_ r.world current e
      { r with server, world }
  else r

def setInput (r : Reactor) (conn : ConnId) (buf : Buffer) : Reactor :=
  { r with inputs := fun k => if k = conn then buf else r.inputs k }

def leave (r : Reactor) (loop : Nat) : Reactor := { r with tasks := r.tasks.erase loop }

def onMessageRound (r : Reactor) (loop : Nat) (conn : ConnId) : Reactor :=
  if (r.inputs conn).readableBytes = 0 then r.leave loop
  else
    let (result, events, buf) := MqttCodec.parse (r.inputs conn)
    let r := events.foldl (fire nodeId_ conn) (r.setInput conn buf)
    match result with
    | .ok => r
    | .incomplete => r.leave loop
    | .error =>
      -- `forceClose` is called on the connection itself, not on `currentConn_`
      let (server, world) := r.server.handleItem nodeId_ r.world conn .failure
      { r with server, world }.leave loop

def nodeStep (r : Reactor) (event : NodeEvent) : Reactor :=
  let (server, world) := r.server.nodeStep nodeId_ r.world event
  { r with server, world }

def idle (r : Reactor) (conn : ConnId) : Bool :=
  match r.ioLoop conn with
  | none => false
  | some loop => (r.tasks.lookup loop).isNone

def loopStep (r : Reactor) : LoopEvent → Reactor
  | .accept conn =>
    if r.ioLoop conn = none then
      let (ioLoop, threadPool_) := r.threadPool_.getNextLoop
      { r with threadPool_, ioLoop := fun k => if k = conn then some ioLoop else r.ioLoop k }.nodeStep nodeId_ (.accept conn)
    else r
  | .message conn received =>
    match r.ioLoop conn with
    | none => r
    | some loop =>
      if (r.tasks.lookup loop).isNone ∧ r.server.Readable conn then
        { r.setInput conn ((r.inputs conn).readFd received) with
          currentConn_ := some conn, tasks := r.tasks.insert loop conn }
      else r
  | .parse loop =>
    match r.tasks.lookup loop with
    | none => r
    | some conn => r.onMessageRound nodeId_ loop conn
  | .close conn => if r.idle conn then r.nodeStep nodeId_ (.close conn) else r
  | .node event => if elsewhere event then r.nodeStep nodeId_ event else r

/-- Nothing happens in a process that has ended. -/
def step (r : Reactor) (e : LoopEvent) : Reactor := if r.server.running_ then r.loopStep nodeId_ e else r

end Node

/-! ### One loop on its own -/

/-- What the handlers of packets leave alone. -/
def control (r : Reactor) :
    EventLoopThreadPool × (ConnId → Option Nat) × (ConnId → Buffer) × Option ConnId × AList fun _ : Nat => ConnId :=
  (r.threadPool_, r.ioLoop, r.inputs, r.currentConn_, r.tasks)

section Node

variable (n : NodeId) (conn : ConnId)

theorem control_fire (r : Reactor) (e : MqttEvent) : (r.fire n conn e).control = r.control := by
  unfold fire
  split
  · dsimp only
    split <;> rfl
  · rfl

theorem control_foldl_fire (r : Reactor) (events : List MqttEvent) :
    (events.foldl (fire n conn) r).control = r.control := view_foldl control (control_fire n conn) events r

theorem running_foldl_fire (r : Reactor) (events : List MqttEvent) :
    (events.foldl (fire n conn) r).server.running_ = r.server.running_ := by
  have once : ∀ (r : Reactor) (e : MqttEvent), (r.fire n conn e).server.running_ = r.server.running_ := by
    intro r e
    unfold fire
    split
    · dsimp only
      split
      · rfl
      · rename_i current _
        exact congrArg Prod.fst (power_handleItem n r.server r.world current (.event e))
    · rfl
  exact view_foldl (fun r : Reactor => r.server.running_) once events r

/-- While `currentConn_` is the connection whose bytes are parsed, the callbacks do what the handlers do for it. -/
theorem fire_own {r : Reactor} (own : r.currentConn_ = some conn) (e : MqttEvent) :
    ((r.fire n conn e).server, (r.fire n conn e).world) = r.server.handleItem n r.world conn (.event e) := by
  unfold fire
  by_cases fires : hasCallback e = true
  · simp only [if_pos fires, own]
    rfl
  · rw [if_neg fires]
    cases e with
    | pubAck packetId => rfl
    | connect | publish | subscribe | pingReq | disconnect => exact absurd rfl fires

theorem foldl_fire_own {r : Reactor} (own : r.currentConn_ = some conn) (events : List MqttEvent) :
    ((events.foldl (fire n conn) r).server, (events.foldl (fire n conn) r).world) =
      (events.map Item.event).foldl (fun s item => s.1.handleItem n s.2 conn item) (r.server, r.world) := by
  induction events generalizing r with
  | nil => rfl
  | cons e events ih =>
    have still : (r.fire n conn e).currentConn_ = some conn :=
      (congrArg (fun c => c.2.2.2.1) (control_fire n conn r e)).trans own
    rw [List.foldl_cons, ih still, List.map_cons, List.foldl_cons, fire_own n conn own]

/-- A loop that is not inside `onMessage` has nothing to parse. -/
theorem run_parse_left {r : Reactor} {loop : Nat} (left : r.tasks.lookup loop = none) (rounds : Nat) :
    run (step n) r (List.replicate rounds (.parse loop)) = r := by
  have stays : r.step n (.parse loop) = r := by
    simp only [step, loopStep, left, ite_self]
  induction rounds with
  | zero => rfl
  | succ rounds ih => rw [List.replicate_succ, run_cons, stays, ih]

theorem run_parse_receiveLoop (rounds : Nat) {r : Reactor} {loop : Nat} (running : r.server.running_ = true)
    (task : r.tasks.lookup loop = some conn) (own : r.currentConn_ = some conn) :
    let r' := run (step n) r (List.replicate rounds (.parse loop))
    let received := MqttCodec.receiveLoop rounds (r.inputs conn)
    (r'.server, r'.world) = received.1.foldl (fun s item => s.1.handleItem n s.2 conn item) (r.server, r.world) ∧
      r'.inputs conn = received.2 ∧ ((r.inputs conn).readableBytes < rounds → r'.tasks.lookup loop = none) := by
  induction rounds generalizing r with
  | zero => exact ⟨rfl, rfl, fun few => absurd few (Nat.not_lt_zero _)⟩
  | succ rounds ih =>
    have first : r.step n (.parse loop) = r.onMessageRound n loop conn := by
      simp only [step, if_pos running, loopStep, task]
    have leaves : ∀ r' : Reactor, (r'.leave loop).tasks.lookup loop = none := fun r' => AList.lookup_erase loop r'.tasks
    simp only [List.replicate_succ, run_cons, first]
    unfold onMessageRound MqttCodec.receiveLoop
    by_cases empty : (r.inputs conn).readableBytes = 0
    · rw [if_pos empty, if_pos empty, run_parse_left n (leaves r)]
      exact ⟨rfl, rfl, fun _ => leaves r⟩
    rw [if_neg empty, if_neg empty]
    rcases parsed : MqttCodec.parse (r.inputs conn) with ⟨result, events, buf⟩
    have same := control_foldl_fire n conn (r.setInput conn buf) events
    have handled := foldl_fire_own n conn (r := r.setInput conn buf) own events
    change _ = (events.map Item.event).foldl _ (r.server, r.world) at handled
    have input : (events.foldl (fire n conn) (r.setInput conn buf)).inputs conn = buf := by
      rw [show (events.foldl (fire n conn) (r.setInput conn buf)).inputs = _ from congrArg (fun c => c.2.2.1) same]
      exact if_pos rfl
    cases result with
    | incomplete =>
      simp only
      rw [run_parse_left n (leaves _)]
      exact ⟨handled, input, fun _ => leaves _⟩
    | error =>
      simp only
      rw [run_parse_left n (leaves _)]
      refine ⟨?_, input, fun _ => leaves _⟩
      rw [List.foldl_append, ← handled]
      rfl
    | ok =>
      have shorter := MqttCodec.readableBytes_parse parsed
      generalize after : events.foldl (fire n conn) (r.setInput conn buf) = r' at same handled input
      have goes : r'.server.running_ = true := by
        rw [← after, running_foldl_fire]
        exact running
      have rest := ih goes ((congrArg (fun c => c.2.2.2.2.lookup loop) same).trans task)
        ((congrArg (fun c => c.2.2.2.1) same).trans own)
      rw [input, handled] at rest
      simp only [after]
      rw [List.foldl_append]
      exact ⟨rest.1, rest.2.1, fun few => rest.2.2 (by omega)⟩

/-- A loop that is left alone while it is inside `onMessage` does what `onMessage` does. -/
theorem run_parse_onMessage {r : Reactor} {loop : Nat} (running : r.server.running_ = true)
    (task : r.tasks.lookup loop = some conn) (own : r.currentConn_ = some conn) :
    let r' := run (step n) r (List.replicate ((r.inputs conn).readableBytes + 1) (.parse loop))
    ((r'.server, r'.world), r'.inputs conn) = r.server.onMessage n r.world conn (r.inputs conn) ∧
      r'.tasks.lookup loop = none := by
  obtain ⟨state, input, left⟩ := run_parse_receiveLoop n conn ((r.inputs conn).readableBytes + 1) running task own
  exact ⟨Prod.ext state input, left (Nat.lt_succ_self _)⟩

end Node

/-! ### Whose packet it is -/

/-- No packet that waits in the buffer fires a callback. -/
def firesNothing (buf : Buffer) : Bool :=
  (MqttCodec.receive buf).1.all fun
    | .event e => !hasCallback e
    | .failure => true

/-- `currentConn_` is set while no other loop inside `onMessage` has a callback left to fire. -/
def Exclusive (r : Reactor) : LoopEvent → Prop
  | .message conn _ =>
    ∀ loop ∈ r.ioLoop conn, ∀ task ∈ r.tasks.entries, task.1 ≠ loop → firesNothing (r.inputs task.2) = true
  | _ => True

instance (r : Reactor) : (e : LoopEvent) → Decidable (r.Exclusive e)
  | .message _ _ => inferInstanceAs (Decidable (∀ loop ∈ _, _))
  | .accept _ | .parse _ | .close _ | .node _ => isTrue trivial

/-- The callbacks fired so far were given the connection whose bytes were parsed. A loop inside `onMessage` finds its own
connection in `currentConn_`, or fires nothing more. -/
structure Attributed (r : Reactor) : Prop where
  calls : ∀ call ∈ r.calls, call.handled = some call.parsed
  tasks : ∀ loop conn, r.tasks.lookup loop = some conn →
    r.ioLoop conn = some loop ∧ (r.currentConn_ = some conn ∨ firesNothing (r.inputs conn) = true)

theorem attributed_new (g : GatewayServer) (w : World) (threads : Nat) : Attributed (new g w threads) where
  calls := fun call fired => by cases fired
  tasks := fun loop conn task => by cases task

theorem Attributed.of_control {r r' : Reactor} (attributed : Attributed r) (same : r'.control = r.control)
    (calls : ∀ call ∈ r'.calls, call.handled = some call.parsed) : Attributed r' := by
  simp only [control, Prod.mk.injEq] at same
  obtain ⟨-, ioLoop, inputs, current, tasks⟩ := same
  exact ⟨calls, by rw [ioLoop, inputs, current, tasks]; exact attributed.tasks⟩

theorem Attributed.leave {r : Reactor} (attributed : Attributed r) (loop : Nat) : Attributed (r.leave loop) where
  calls := attributed.calls
  tasks := by
    intro loop' conn task
    rcases eq_or_ne loop' loop with rfl | different
    · rw [Reactor.leave, AList.lookup_erase] at task
      cases task
    · rw [Reactor.leave, AList.lookup_erase_ne different] at task
      exact attributed.tasks loop' conn task

theorem Attributed.setInput {r : Reactor} (attributed : Attributed r) {conn : ConnId} {buf : Buffer}
    (fresh : ∀ loop, r.tasks.lookup loop = some conn → r.currentConn_ = some conn ∨ firesNothing buf = true) :
    Attributed (r.setInput conn buf) where
  calls := attributed.calls
  tasks := by
    intro loop conn' task
    obtain ⟨placed, mine⟩ := attributed.tasks loop conn' task
    refine ⟨placed, ?_⟩
    rcases eq_or_ne conn' conn with rfl | other
    · simpa only [Reactor.setInput, if_pos] using fresh loop task
    · simpa only [Reactor.setInput, if_neg other] using mine

section Node

variable (n : NodeId)

theorem calls_foldl_fire {conn : ConnId} {r : Reactor} {events : List MqttEvent}
    (mine : r.currentConn_ = some conn ∨ ∀ e ∈ events, hasCallback e = false)
    (calls : ∀ call ∈ r.calls, call.handled = some call.parsed) :
    ∀ call ∈ (events.foldl (fire n conn) r).calls, call.handled = some call.parsed := by
  induction events generalizing r with
  | nil => exact calls
  | cons e events ih =>
    have current : (r.fire n conn e).currentConn_ = r.currentConn_ :=
      congrArg (fun c => c.2.2.2.1) (control_fire n conn r e)
    refine ih (mine.imp current.trans fun silent e' member => silent e' (List.mem_cons_of_mem _ member)) ?_
    rcases mine with own | silent
    · unfold fire
      split
      · simp only [own]
        exact List.forall_mem_cons.mpr ⟨rfl, calls⟩
      · exact calls
    · rw [fire, if_neg (Bool.eq_false_iff.mp (silent e List.mem_cons_self))]
      exact calls

theorem firesNothing_parse {buf buf' : Buffer} {events : List MqttEvent} (silent : firesNothing buf = true)
    (accepted : MqttCodec.parse buf = (.ok, events, buf')) :
    (∀ e ∈ events, hasCallback e = false) ∧ firesNothing buf' = true := by
  unfold firesNothing at silent ⊢
  rw [MqttCodec.receive_parse accepted, List.all_append, List.all_map, Bool.and_eq_true] at silent
  refine ⟨fun e member => ?_, silent.2⟩
  simpa using List.all_eq_true.mp silent.1 e member

theorem Attributed.onMessageRound {r : Reactor} (attributed : Attributed r) {loop : Nat} {conn : ConnId}
    (task : r.tasks.lookup loop = some conn) : Attributed (r.onMessageRound n loop conn) := by
  obtain ⟨placed, mine⟩ := attributed.tasks loop conn task
  -- once the loop has left, no loop works on the connection
  have left : ∀ buf, Attributed ((r.setInput conn buf).leave loop) := by
    intro buf
    show Attributed ((r.leave loop).setInput conn buf)
    refine (attributed.leave loop).setInput fun loop' task' => ?_
    obtain rfl : loop = loop' := Option.some.inj (placed.symm.trans ((attributed.leave loop).tasks loop' conn task').1)
    rw [Reactor.leave, AList.lookup_erase] at task'
    cases task'
  unfold Reactor.onMessageRound
  split
  · exact attributed.leave loop
  rcases parsed : MqttCodec.parse (r.inputs conn) with ⟨result, events, buf⟩
  have silent : result ≠ .ok → events = [] := by
    have refused : (MqttCodec.parse (r.inputs conn)).1 ≠ .ok → (MqttCodec.parse (r.inputs conn)).2.1 = [] :=
      MqttCodec.parse_silent
    rwa [parsed] at refused
  cases result with
  | incomplete =>
    rw [silent ParseResult.noConfusion]
    exact left buf
  | error =>
    rw [silent ParseResult.noConfusion]
    exact (left buf).of_control rfl (left buf).calls
  | ok =>
    have after : r.currentConn_ = some conn ∨ (∀ e ∈ events, hasCallback e = false) ∧ firesNothing buf = true :=
      mine.imp_right fun silent => firesNothing_parse silent parsed
    have fresh : Attributed (r.setInput conn buf) := attributed.setInput fun _ _ => after.imp_right And.right
    exact fresh.of_control (control_foldl_fire n conn _ events)
      (calls_foldl_fire n (after.imp_right And.left) attributed.calls)

theorem Attributed.message {r : Reactor} (attributed : Attributed r) {loop : Nat} {conn : ConnId} (received : Bytes)
    (placed : r.ioLoop conn = some loop) (idle : r.tasks.lookup loop = none)
    (exclusive : r.Exclusive (.message conn received)) :
    Attributed { r.setInput conn ((r.inputs conn).readFd received) with
      currentConn_ := some conn, tasks := r.tasks.insert loop conn } where
  calls := attributed.calls
  tasks := by
    intro loop' conn' task
    rcases eq_or_ne loop' loop with rfl | different
    · obtain rfl : conn = conn' := Option.some.inj ((AList.lookup_insert r.tasks).symm.trans task)
      exact ⟨placed, Or.inl rfl⟩
    · have before : r.tasks.lookup loop' = some conn' := (AList.lookup_insert_ne different).symm.trans task
      have apart : r.ioLoop conn' = some loop' := (attributed.tasks loop' conn' before).1
      have other : conn' ≠ conn := fun same => different (Option.some.inj ((same ▸ apart).symm.trans placed))
      refine ⟨apart, Or.inr ?_⟩
      simp only [Reactor.setInput, if_neg other]
      exact exclusive loop placed ⟨loop', conn'⟩ (AList.mem_lookup_iff.mp before) different

/-- A new connection is given a loop. No loop works on it yet. -/
theorem Attributed.place {r : Reactor} (attributed : Attributed r) {conn : ConnId} (unplaced : r.ioLoop conn = none)
    (loop : Nat) (threadPool_ : EventLoopThreadPool) :
    Attributed { r with threadPool_, ioLoop := fun k => if k = conn then some loop else r.ioLoop k } where
  calls := attributed.calls
  tasks := by
    intro loop' conn' task
    obtain ⟨placed, mine⟩ := attributed.tasks loop' conn' task
    have other : conn' ≠ conn := by
      rintro rfl
      exact Option.some_ne_none loop' (placed.symm.trans unplaced)
    exact ⟨(if_neg other).trans placed, mine⟩

theorem Attributed.nodeStep {r : Reactor} (attributed : Attributed r) (event : NodeEvent) :
    Attributed (r.nodeStep n event) := attributed.of_control rfl attributed.calls

theorem Attributed.step {r : Reactor} (attributed : Attributed r) {e : LoopEvent} (exclusive : r.Exclusive e) :
    Attributed (r.step n e) := by
  unfold Reactor.step
  split
  swap
  · exact attributed
  cases e with
  | accept conn =>
    simp only [loopStep]
    split
    · rename_i unplaced
      exact (attributed.place unplaced _ _).nodeStep n _
    · exact attributed
  | message conn received =>
    simp only [loopStep]
    split
    · exact attributed
    · rename_i loop placed
      split
      · rename_i may
        exact attributed.message received placed (Option.isNone_iff_eq_none.mp may.1) exclusive
      · exact attributed
  | parse loop =>
    simp only [loopStep]
    split
    · exact attributed
    · rename_i conn task
      exact attributed.onMessageRound n task
  | close conn =>
    simp only [loopStep]
    split
    · exact attributed.nodeStep n _
    · exact attributed
  | node event =>
    simp only [loopStep]
    split
    · exact attributed.nodeStep n event
    · exact attributed

/-- Only an accepted connection is given a loop, the next one of the pool. -/
theorem placement_step (r : Reactor) (e : LoopEvent) :
    ((r.step n e).threadPool_, (r.step n e).ioLoop) = (r.threadPool_, r.ioLoop) ∨
      ∃ conn, ((r.step n e).threadPool_, (r.step n e).ioLoop) =
        (r.threadPool_.getNextLoop.2, fun k => if k = conn then some r.threadPool_.getNextLoop.1 else r.ioLoop k) := by
  have fired : ∀ conn (r : Reactor) (events : List MqttEvent),
      ((events.foldl (fire n conn) r).threadPool_, (events.foldl (fire n conn) r).ioLoop) = (r.threadPool_, r.ioLoop) :=
    fun conn r events => congrArg (fun c => (c.1, c.2.1)) (control_foldl_fire n conn r events)
  unfold Reactor.step
  split
  swap
  · exact Or.inl rfl
  cases e with
  | accept conn =>
    simp only [loopStep]
    split
    · exact Or.inr ⟨conn, rfl⟩
    · exact Or.inl rfl
  | message conn received =>
    left
    simp only [loopStep]
    split
    · rfl
    · split <;> rfl
  | parse loop =>
    left
    simp only [loopStep]
    split
    · rfl
    · rename_i conn _
      unfold Reactor.onMessageRound
      split
      · rfl
      rcases MqttCodec.parse (r.inputs conn) with ⟨result, events, buf⟩
      cases result with
      | ok | incomplete | error => exact fired conn (r.setInput conn buf) events
  | close | node =>
    left
    simp only [loopStep]
    split <;> rfl

/-- All connections live on loop zero. -/
structure OneLoop (r : Reactor) : Prop where
  threads : r.threadPool_.numThreads_ ≤ 1
  next : r.threadPool_.next_ = 0
  placed : ∀ conn loop, r.ioLoop conn = some loop → loop = 0

theorem OneLoop.step {r : Reactor} (one : OneLoop r) (e : LoopEvent) : OneLoop (r.step n e) := by
  have pool : r.threadPool_.getNextLoop.1 = 0 ∧ r.threadPool_.getNextLoop.2.numThreads_ ≤ 1 ∧
      r.threadPool_.getNextLoop.2.next_ = 0 := by
    have few := one.threads
    have first := one.next
    unfold EventLoopThreadPool.getNextLoop
    split
    · exact ⟨rfl, few, first⟩
    · exact ⟨first, few, if_pos (by omega)⟩
  rcases placement_step n r e with same | ⟨conn, placed⟩
  · obtain ⟨threads, loops⟩ := Prod.mk.inj same
    exact ⟨threads ▸ one.threads, threads ▸ one.next, loops ▸ one.placed⟩
  · obtain ⟨threads, loops⟩ := Prod.mk.inj placed
    refine ⟨threads ▸ pool.2.1, threads ▸ pool.2.2, fun conn' loop at' => ?_⟩
    rw [loops] at at'
    dsimp only at at'
    split at at'
    · exact (Option.some.inj at').symm.trans pool.1
    · exact one.placed conn' loop at'

theorem OneLoop.exclusive {r : Reactor} (one : OneLoop r) (attributed : Attributed r) (e : LoopEvent) : r.Exclusive e := by
  cases e with
  | message conn received =>
    intro loop placed task member different
    have where_ := (attributed.tasks task.1 task.2 (AList.mem_lookup_iff.mpr member)).1
    exact absurd ((one.placed _ _ where_).trans (one.placed conn loop placed).symm) different
  | accept | parse | close | node => trivial

end Node
end Reactor

/-- In every interleaving in which `currentConn_` is only set while no other loop has a callback left to fire, every
handler is given the connection whose bytes were parsed. -/
theorem packets_attributed (n : NodeId) (g : GatewayServer) (w : World) (threads : Nat) (events : List LoopEvent)
    (exclusive : Meets (Reactor.step n) Reactor.Exclusive (Reactor.new g w threads) events) :
    ∀ call ∈ (run (Reactor.step n) (Reactor.new g w threads) events).calls, call.handled = some call.parsed :=
  (run_invariant (Reactor.step n) (Reactor.attributed_new g w threads) (fun _ _ attributed => attributed.step n)
    exclusive).calls

/-- With at most one worker there is nothing to interleave. -/
theorem packets_attributed_one_loop (n : NodeId) (g : GatewayServer) (w : World) {threads : Nat} (few : threads ≤ 1)
    (events : List LoopEvent) :
    ∀ call ∈ (run (Reactor.step n) (Reactor.new g w threads) events).calls, call.handled = some call.parsed := by
  have start : (Reactor.new g w threads).OneLoop ∧ (Reactor.new g w threads).Attributed :=
    ⟨⟨few, rfl, fun conn loop placed => by cases placed⟩, Reactor.attributed_new g w threads⟩
  have kept : ∀ (r : Reactor) e, r.OneLoop ∧ r.Attributed → (r.step n e).OneLoop ∧ (r.step n e).Attributed :=
    fun r e both => ⟨both.1.step n e, both.2.step n (both.1.exclusive both.2 e)⟩
  exact (run_kept (Reactor.step n) (fun r => r.OneLoop ∧ r.Attributed) start kept events).2.calls

/-- Two workers and two connections, which the workers share out between them. -/
def twoWorkers : Reactor := Reactor.new { running_ := true } ⟨0, .new, []⟩ 2

def bothAccepted : List LoopEvent := [.accept 0, .accept 1]

def sensorConnect : Bytes := (Simulator.sendConnect sensor).readable

theorem packets_attributed_in_turn :
    let events := bothAccepted ++ [.message 0 sensorConnect, .parse 0, .message 1 [0xC0, 0x00], .parse 1]
    (run (Reactor.step gateway1) twoWorkers events).calls.map Call.parsed = [1, 0] ∧
      ∀ call ∈ (run (Reactor.step gateway1) twoWorkers events).calls, call.handled = some call.parsed := by
  intro events
  exact ⟨by decide +kernel,
    packets_attributed gateway1 { running_ := true } ⟨0, .new, []⟩ 2 events (by decide +kernel)⟩

/-- Connection 1 gets a byte while the CONNECT of `sensor` waits on connection 0. The CONNECT is handled for connection 1,
which is then bound to `sensor`. -/
theorem connect_misattributed :
    let r := run (Reactor.step gateway1) twoWorkers
      (bothAccepted ++ [.message 0 sensorConnect, .message 1 [0xC0], .parse 0])
    (∃ call ∈ r.calls, call.parsed = 0 ∧ call.handled = some 1) ∧ r.server.connClientMap.lookup 1 = some sensor ∧
      r.server.connClientMap.lookup 0 = none := by
  intro r
  exact ⟨by decide +kernel, by decide +kernel, by decide +kernel⟩

end IotGateway.Gateway
