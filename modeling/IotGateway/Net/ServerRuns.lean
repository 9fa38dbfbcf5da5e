import IotGateway.Net.ServerSteps
import Mathlib.Data.Int.CardIntervalMod

/-!
# Runs of a server

In a run of a server every connection makes a run of its own, so what holds of a
connection between its threads holds of each of many. `connections_` holds the connections
that have not been released, and the loops share them out in turn.
-/

namespace IotGateway.Net
open Text Gateway
namespace TcpServer

/-- A server before its first connection. -/
def start (listenAddr : InetAddress) (numThreads : Nat) (writeComplete : Bool) (highWater : Option Nat) : TcpServer :=
  { listenAddr, threadPool_ := { numThreads_ := numThreads }, writeComplete, highWater }

section Runs

variable (listenAddr : InetAddress) (numThreads : Nat) (writeComplete : Bool) (highWater : Option Nat)

theorem tidy_start : Tidy (start listenAddr numThreads writeComplete highWater) where
  next := rfl
  small := by norm_num [start]
  name := fun j c there => by cases there
  key := fun name j held => by cases held
  settled := fun j c there => by cases there
  known := fun loop j member => by cases member
  waiting := fun j member => by cases member

/-- What holds of the server and, for every connection, of its own run. -/
structure Follows (s : TcpServer) (orderly : Prop) : Prop where
  tidy : Tidy s
  settings : s.settings = (start listenAddr numThreads writeComplete highWater).settings
  alone : ∀ (j : Nat) (c : Conn), s.conns[j]? = some c →
    Net.Steps orderly (Threads.new writeComplete highWater) (s.view j c)

variable {listenAddr numThreads writeComplete highWater}

theorem Follows.moves {s s' : TcpServer} {orderly : Prop} (follows : Follows listenAddr numThreads writeComplete highWater s orderly)
    (moves : Moves s s' orderly) : Follows listenAddr numThreads writeComplete highWater s' orderly where
  tidy := moves.tidy
  settings := moves.settings.trans follows.settings
  alone := by
    intro j c there
    cases before : s.conns[j]? with
    | some d =>
      obtain ⟨c', there', steps⟩ := moves.each j d before
      obtain rfl := Option.some.inj (there'.symm.trans there)
      exact (follows.alone j d before).trans steps
    | none =>
      have fresh := moves.fresh j c before there
      have settings := follows.settings
      simp only [TcpServer.settings, start, Prod.mk.injEq] at settings
      rw [settings.2.1, settings.2.2.1] at fresh
      exact fresh

theorem follows (events : List ServerEvent)
    (counts : Meets step Counts (start listenAddr numThreads writeComplete highWater) events) :
    Follows listenAddr numThreads writeComplete highWater (run step (start listenAddr numThreads writeComplete highWater) events)
      (Meets step Orderly (start listenAddr numThreads writeComplete highWater) events) := by
  induction events using List.reverseRecOn with
  | nil => exact ⟨tidy_start _ _ _ _, rfl, fun j c there => by cases there⟩
  | append_singleton events e ih =>
    obtain ⟨early, late⟩ := (meets_append step).mp counts
    rw [run_append]
    have before := ih early
    have weaker : Follows listenAddr numThreads writeComplete highWater
        (run step (start listenAddr numThreads writeComplete highWater) events)
        (Meets step Orderly (start listenAddr numThreads writeComplete highWater) (events ++ [e])) :=
      { before with
        alone := fun j c there => (before.alone j c there).weaken fun holds => ((meets_append step).mp holds).1 }
    exact weaker.moves (step_moves before.tidy late.1 fun holds => ((meets_append step).mp holds).2.1)

/-- In every run of a server, whatever its loops and other threads do, each of its connections makes a run of its own between
its threads, and an orderly one when the run of the server is orderly. -/
theorem connection_alone (events : List ServerEvent)
    (counts : Meets step Counts (start listenAddr numThreads writeComplete highWater) events) {conn : Nat} {c : Conn}
    (there : (run step (start listenAddr numThreads writeComplete highWater) events).conns[conn]? = some c) :
    ∃ own, (run step (start listenAddr numThreads writeComplete highWater) events).view conn c =
        run Threads.step (Threads.new writeComplete highWater) own ∧
      (Meets step Orderly (start listenAddr numThreads writeComplete highWater) events →
        Meets Threads.step Net.Orderly (Threads.new writeComplete highWater) own) :=
  (follows events counts).alone conn c there

/-- A server with two workers: three connections come, the first one goes, and its loop takes it out of epoll. -/
def comeAndGo : List ServerEvent :=
  [.newConnection, .newConnection, .newConnection, .poll 0 [], .swap 0, .functor 0 .again, .functor 0 .again,
    .poll 1 [], .swap 1, .functor 1 .again, .poll 0 [(0, { readable := true })], .handle 0 .eof .again, .mainLoop,
    .swap 0, .functor 0 .again]

def twoWorkers : TcpServer := start { port := 1883 } 2 false none

theorem comeAndGo_counts : Meets step Counts twoWorkers comeAndGo := by decide +kernel

theorem comeAndGo_orderly : Meets step Orderly twoWorkers comeAndGo := by decide +kernel

theorem connection_alone_first :
    ∃ c, (run step twoWorkers comeAndGo).conns[0]? = some c ∧ ∃ own,
      (run step twoWorkers comeAndGo).view 0 c = run Threads.step (Threads.new false none) own ∧
        Meets Threads.step Net.Orderly (Threads.new false none) own := by
  obtain ⟨c, there⟩ : ∃ c, (run step twoWorkers comeAndGo).conns[0]? = some c := Option.isSome_iff_exists.mp (by decide +kernel)
  obtain ⟨own, same, meets⟩ := connection_alone comeAndGo comeAndGo_counts there
  exact ⟨c, there, own, same, meets comeAndGo_orderly⟩

/-! ### What `connections_` holds -/

/-- Nothing waits in the queue of any loop. -/
def Quiet (s : TcpServer) : Prop :=
  s.removals = [] ∧ ∀ loop, (s.loops loop).functors = [] ∧ (s.loops loop).pendingFunctors_ = []

/-- The calls of `connectDestroyed` that a loop holds for a connection. -/
def destroying (s : TcpServer) (conn : Nat) (c : Conn) : Nat :=
  (own conn ((s.loops c.ioLoop).functors ++ (s.loops c.ioLoop).pendingFunctors_)).count .connectDestroyed

section Stages

variable {events : List ServerEvent} {conn : Nat} {c : Conn}

theorem staged (counts : Meets step Counts (start listenAddr numThreads writeComplete highWater) events)
    (orderly : Meets step Orderly (start listenAddr numThreads writeComplete highWater) events)
    (there : (run step (start listenAddr numThreads writeComplete highWater) events).conns[conn]? = some c) :
    ∃ stage, At ((run step (start listenAddr numThreads writeComplete highWater) events).view conn c) stage := by
  obtain ⟨own, same, meets⟩ := connection_alone events counts there
  rw [same]
  exact Staged.run ⟨.created, at_new writeComplete highWater⟩ (meets orderly)

/-- The stage of a connection, in terms of the server. -/
theorem stage_parts {s : TcpServer} {stage : Stage} (tidy : Tidy s) (there : s.conns[conn]? = some c)
    (at_ : At (s.view conn c) stage) :
    s.removals.count conn = stage.removals ∧ s.destroying conn c = stage.functors.count .connectDestroyed ∧
      decide (s.connections_.lookup c.name = some conn) = stage.listed ∧ c.tcp.aborted = false ∧
      c.tcp.trace.filter Trace.isLife = stage.trace := by
  obtain ⟨queued, removals⟩ := tidy.settled conn c there
  have life := at_.life
  simp only [TcpConnection.life, Life.mk.injEq, true_and] at life
  obtain ⟨functors, waiting, listed, aborted, trace⟩ := life
  refine ⟨?_, ?_, listed, aborted, trace⟩
  · rw [← waiting]
    show _ = s.removals.count conn + c.tcp.removals
    rw [removals, Nat.add_zero]
  · rw [← functors, List.count_filter rfl]
    show _ = (own conn _ ++ (own conn _ ++ c.tcp.pendingFunctors_)).count _
    rw [queued, List.append_nil, ← own_append]
    rfl

theorem callbacks_of_stage {trace : List Trace} {stage : Stage} (life : trace.filter Trace.isLife = stage.trace) :
    callbacks trace = callbacks stage.trace := by
  have ofLife : ∀ t : Trace, (if t.isLife = true then t.callback? else none) = t.callback? := by
    intro t
    cases t <;> rfl
  rw [← life]
  simp only [callbacks, List.filterMap_filter, ofLife]

end Stages

/-- In every orderly run `connections_` holds a connection, under its own name, exactly until it is released. Once nothing
waits in any queue it holds exactly the connections that are open, and of every other one the user was told that it came up
and went down, and epoll knows nothing any more. -/
theorem connections_held (events : List ServerEvent)
    (counts : Meets step Counts (start listenAddr numThreads writeComplete highWater) events)
    (orderly : Meets step Orderly (start listenAddr numThreads writeComplete highWater) events) :
    let s := run step (start listenAddr numThreads writeComplete highWater) events
    (∀ name conn, s.connections_.lookup name = some conn → ∃ c, s.conns[conn]? = some c ∧ c.name = name) ∧
      ∀ conn c, s.conns[conn]? = some c →
        (s.connections_.lookup c.name = some conn ↔ s.destroying conn c + c.tcp.trace.count .epollDel = 0) ∧
        (s.Quiet → (s.connections_.lookup c.name = some conn ↔ c.tcp.state_ = .connected ∨ c.tcp.state_ = .disconnecting) ∧
          (s.connections_.lookup c.name ≠ some conn →
            callbacks c.tcp.trace = [true, false] ∧ c.tcp.channel_.added = false)) := by
  intro s
  have tidy : Tidy s := (follows events counts).tidy
  refine ⟨tidy.key, fun conn c there => ?_⟩
  obtain ⟨stage, at_⟩ := staged counts orderly there
  obtain ⟨removals, destroying, listed, _, life⟩ := stage_parts tidy there at_
  have held : s.connections_.lookup c.name = some conn ↔ stage.listed = true := by rw [← listed, decide_eq_true_iff]
  have gone : c.tcp.trace.count .epollDel = stage.trace.count .epollDel := at_.count rfl
  have state : stage.Allows c.tcp.state_ := at_.state
  constructor
  · rw [held, destroying, gone]
    cases stage <;> decide
  · intro quiet
    -- without a functor or a removal on its way a connection is up or gone
    have settled : stage = .up ∨ stage = .gone := by
      have functors : (s.view conn c).conn.life.functors = [] := by
        obtain ⟨batch, queue⟩ := quiet.2 c.ioLoop
        show ((own conn (s.loops c.ioLoop).functors) ++ (own conn (s.loops c.ioLoop).pendingFunctors_ ++
          c.tcp.pendingFunctors_)).filter Functor.isLife = []
        rw [batch, queue, (tidy.settled conn c there).1]
        rfl
      have none : stage.functors = [] := by
        rw [← functors, at_.life]
      have waits : stage.removals = 0 := by rw [← removals, quiet.1, List.count_nil]
      cases stage with
      | up => exact Or.inl rfl
      | gone => exact Or.inr rfl
      | created | released => cases none
      | closed => cases waits
    rw [held]
    rcases settled with rfl | rfl
    · exact ⟨iff_of_true rfl state, fun off => absurd (held.mpr rfl) off⟩
    · have down : c.tcp.state_ = .disconnected := state
      refine ⟨iff_of_false Bool.false_ne_true (by rw [down]; decide), fun _ => ⟨?_, ?_⟩⟩
      · rw [callbacks_of_stage life]
        rfl
      · exact congrArg Channel.added at_.channel

theorem connections_held_comeAndGo :
    let s := run step twoWorkers comeAndGo
    ∃ c d, s.conns[0]? = some c ∧ s.conns[1]? = some d ∧ s.connections_.lookup c.name = none ∧
      s.connections_.lookup d.name = some 1 ∧ (s.connections_.lookup d.name = some 1 ↔
        s.destroying 1 d + d.tcp.trace.count .epollDel = 0) := by
  intro s
  obtain ⟨c, there⟩ : ∃ c, s.conns[0]? = some c := Option.isSome_iff_exists.mp (by decide +kernel)
  obtain ⟨d, there'⟩ : ∃ d, s.conns[1]? = some d := Option.isSome_iff_exists.mp (by decide +kernel)
  have gone : ∀ c ∈ s.conns[0]?, s.connections_.lookup c.name = none := by decide +kernel
  have held : ∀ d ∈ s.conns[1]?, s.connections_.lookup d.name = some 1 := by decide +kernel
  exact ⟨c, d, there, there', gone c there, held d there',
    ((connections_held comeAndGo comeAndGo_counts comeAndGo_orderly).2 1 d there').1⟩

/-- In every orderly run no assertion fails, and every connection is announced up and then down, at most once each, and
released at most once: while it is down exactly one of its removals is queued in the main loop, queued in its own loop, or
done. -/
theorem each_released_once (events : List ServerEvent)
    (counts : Meets step Counts (start listenAddr numThreads writeComplete highWater) events)
    (orderly : Meets step Orderly (start listenAddr numThreads writeComplete highWater) events) :
    let s := run step (start listenAddr numThreads writeComplete highWater) events
    s.aborted = false ∧ ∀ conn c, s.conns[conn]? = some c →
      callbacks c.tcp.trace <+: [true, false] ∧ c.tcp.trace.count .closeCallback ≤ 1 ∧
        s.removals.count conn + s.destroying conn c + c.tcp.trace.count .epollDel =
          if c.tcp.state_ = .disconnected then 1 else 0 := by
  intro s
  have tidy : Tidy s := (follows events counts).tidy
  have parts : ∀ (conn : Nat) (c : Conn), s.conns[conn]? = some c → ∃ stage, At (s.view conn c) stage :=
    fun conn c there => staged counts orderly there
  constructor
  · unfold aborted
    rw [List.any_eq_false]
    intro c member
    obtain ⟨conn, inside, same⟩ := List.getElem_of_mem member
    have there : s.conns[conn]? = some c := by rw [List.getElem?_eq_getElem inside, same]
    obtain ⟨stage, at_⟩ := parts conn c there
    rw [(stage_parts tidy there at_).2.2.2.1]
    exact Bool.false_ne_true
  · intro conn c there
    obtain ⟨stage, at_⟩ := parts conn c there
    obtain ⟨removals, destroying, _, _, life⟩ := stage_parts tidy there at_
    obtain ⟨_, closes, _, total⟩ := stage.once
    have gone : c.tcp.trace.count .epollDel = stage.trace.count .epollDel := at_.count rfl
    have closed : c.tcp.trace.count .closeCallback = stage.trace.count .closeCallback := at_.count rfl
    have down : (if c.tcp.state_ = .disconnected then 1 else 0) = if stage.down then 1 else 0 := by
      simp only [at_.down]
      rfl
    refine ⟨?_, by rw [closed]; exact closes, by rw [removals, destroying, gone, total, down]⟩
    rw [callbacks_of_stage life]
    cases stage <;> decide

theorem each_released_once_comeAndGo :
    let s := run step twoWorkers comeAndGo
    s.aborted = false ∧ ∀ c ∈ s.conns[0]?, c.tcp.state_ = .disconnected ∧ c.tcp.trace.count .epollDel = 1 ∧
      callbacks c.tcp.trace <+: [true, false] := by
  intro s
  have released := each_released_once comeAndGo comeAndGo_counts comeAndGo_orderly
  have down : ∀ c ∈ s.conns[0]?, c.tcp.state_ = .disconnected ∧ c.tcp.trace.count .epollDel = 1 := by decide +kernel
  exact ⟨released.1, fun c there => ⟨(down c there).1, (down c there).2, (released.2 0 c there).1⟩⟩

/-! ### Sharing out -/

/-- The pool, and the loops of the connections in the order of their numbers. -/
def placed (s : TcpServer) : EventLoopThreadPool × List Nat := (s.threadPool_, s.conns.map Conn.ioLoop)

theorem placed_enqueue (s : TcpServer) (loop : Nat) (functors : List (Nat × Functor)) :
    (s.enqueue loop functors).placed = s.placed := rfl

theorem placed_removeConnectionInLoop (s : TcpServer) (conn : Nat) : (s.removeConnectionInLoop conn).placed = s.placed := by
  unfold removeConnectionInLoop
  split
  · rfl
  · split <;> rfl

theorem placed_removeConnection (s : TcpServer) (conn : Nat) : (s.removeConnection conn).placed = s.placed := by
  unfold removeConnection
  split
  · exact s.placed_removeConnectionInLoop conn
  · rfl

theorem placed_settle (s : TcpServer) {conn : Nat} {c d : Conn} (there : s.conns[conn]? = some d)
    (loop : c.ioLoop = d.ioLoop) : (s.settle conn c).placed = s.placed := by
  have stored : ∀ c' : Conn, c'.ioLoop = d.ioLoop → (s.conns.set conn c').map Conn.ioLoop = s.conns.map Conn.ioLoop := by
    intro c' same
    rw [List.map_set, same]
    apply List.ext_getElem?
    intro j
    rw [getElem?_set_there (a := d.ioLoop) (by rw [List.getElem?_map, there]; rfl)]
    split
    · rename_i here
      rw [here, List.getElem?_map, there]
      rfl
    · rfl
  unfold settle
  dsimp only
  split
  · rw [placed_removeConnection, placed_enqueue]
    exact Prod.ext rfl (stored _ loop)
  · rw [placed_enqueue]
    exact Prod.ext rfl (stored _ loop)

theorem placed_onConn (s : TcpServer) (conn : Nat) (handlers : List Handler) (functors : List Functor)
    (f : Threads → Threads) : (s.onConn conn handlers functors f).placed = s.placed := by
  unfold onConn
  split
  · rfl
  · rename_i c there
    exact placed_settle s there rfl

/-- Only a new connection is placed, on the loop whose turn it is. -/
theorem placed_step (s : TcpServer) (e : ServerEvent) :
    (s.step e).placed = s.placed ∨
      (s.step e).placed = (s.threadPool_.getNextLoop.2, s.conns.map Conn.ioLoop ++ [s.threadPool_.getNextLoop.1]) := by
  have taken : ∀ (loop : Nat) (l : Loop), (s.setLoop loop l).placed = s.placed := fun _ _ => rfl
  unfold step
  split
  · exact Or.inl rfl
  cases e with
  | newConnection =>
    dsimp only
    split
    · exact Or.inl rfl
    · refine Or.inr ?_
      have added : s.accepted.placed =
          (s.threadPool_.getNextLoop.2, s.conns.map Conn.ioLoop ++ [s.threadPool_.getNextLoop.1]) := by
        simp [placed, accepted]
      rw [newConnection_eq]
      split
      · rw [placed_onConn, added]
      · rw [placed_enqueue, added]
  | call conn inLoop op =>
    dsimp only
    split
    · exact Or.inl rfl
    · split
      · exact Or.inl rfl
      · exact Or.inl (placed_onConn _ _ _ _ _)
  | resume conn i result => exact Or.inl (placed_onConn _ _ _ _ _)
  | poll loop active =>
    dsimp only
    split <;> exact Or.inl rfl
  | handle loop read write =>
    dsimp only
    split
    · exact Or.inl rfl
    · split
      · exact Or.inl ((placed_onConn _ _ _ _ _).trans (taken _ _))
      · exact Or.inl rfl
  | swap loop =>
    dsimp only
    split <;> exact Or.inl rfl
  | functor loop result =>
    dsimp only
    split
    · exact Or.inl rfl
    · split
      · exact Or.inl ((placed_onConn _ _ _ _ _).trans (taken _ _))
      · exact Or.inl rfl
  | mainLoop =>
    dsimp only
    split
    · exact Or.inl rfl
    · exact Or.inl (placed_removeConnectionInLoop _ _)

/-- With workers the turn goes round. -/
def InTurn (numThreads : Nat) (s : TcpServer) : Prop :=
  ∃ k, s.placed = ({ numThreads_ := numThreads, next_ := k % numThreads }, (List.range k).map (· % numThreads))

theorem getNextLoop_turn {n : Nat} (workers : 0 < n) (k : Nat) :
    EventLoopThreadPool.getNextLoop { numThreads_ := n, next_ := k % n } =
      (k % n, { numThreads_ := n, next_ := (k + 1) % n }) := by
  have inside : k % n < n := Nat.mod_lt k workers
  have round : (if n ≤ k % n + 1 then 0 else k % n + 1) = (k + 1) % n := by
    have sum : (k + 1) % n = (k % n + 1) % n := (Nat.mod_add_mod k n 1).symm
    rw [sum]
    split
    · rw [show k % n + 1 = n by omega, Nat.mod_self]
    · rw [Nat.mod_eq_of_lt (show k % n + 1 < n by omega)]
  unfold EventLoopThreadPool.getNextLoop
  rw [if_neg (show ¬ n = 0 by omega)]
  simp only [round]

theorem inTurn_step {n : Nat} (workers : 0 < n) {s : TcpServer} (turn : InTurn n s) (e : ServerEvent) : InTurn n (s.step e) := by
  obtain ⟨k, same⟩ := turn
  rcases s.placed_step e with kept | added
  · exact ⟨k, kept.trans same⟩
  · refine ⟨k + 1, ?_⟩
    have pool : s.threadPool_ = { numThreads_ := n, next_ := k % n } := congrArg Prod.fst same
    have loops : s.conns.map Conn.ioLoop = (List.range k).map (· % n) := congrArg Prod.snd same
    rw [added, pool, loops, getNextLoop_turn workers, List.range_succ, List.map_append]
    rfl

/-- How many connections a loop was given. -/
def load (s : TcpServer) (loop : Nat) : Nat := s.conns.countP fun c => c.ioLoop = loop

/-- In every run of a server with workers the connections are dealt out in turn, so that the loads of two loops never differ
by more than one, and a loop holds handlers and functors of its own connections only. -/
theorem shared_out (workers : 0 < numThreads) (events : List ServerEvent)
    (counts : Meets step Counts (start listenAddr numThreads writeComplete highWater) events) :
    let s := run step (start listenAddr numThreads writeComplete highWater) events
    (∀ conn c, s.conns[conn]? = some c → c.ioLoop = conn % numThreads) ∧
      (∀ loop < numThreads, ∀ loop' < numThreads, s.load loop ≤ s.load loop' + 1) ∧
      ∀ loop, ∀ conn ∈ (s.loops loop).about, ∃ c, s.conns[conn]? = some c ∧ c.ioLoop = loop := by
  intro s
  obtain ⟨k, same⟩ : InTurn numThreads s :=
    run_kept step (InTurn numThreads) ⟨0, rfl⟩ (fun s e turn => inTurn_step workers turn e) events
  have loops : s.conns.map Conn.ioLoop = (List.range k).map (· % numThreads) := congrArg Prod.snd same
  refine ⟨?_, ?_, (follows events counts).tidy.known⟩
  · intro conn c there
    have placed : (s.conns.map Conn.ioLoop)[conn]? = some c.ioLoop := by rw [List.getElem?_map, there]; rfl
    rw [loops, List.getElem?_map] at placed
    obtain ⟨j, found, same⟩ := Option.map_eq_some_iff.mp placed
    obtain ⟨inside, rfl⟩ := List.getElem?_eq_some_iff.mp found
    rw [← same, List.getElem_range]
  · have share : ∀ loop < numThreads, s.load loop = k / numThreads + if loop < k % numThreads then 1 else 0 := by
      intro loop inside
      have count : s.load loop = Nat.count (· ≡ loop [MOD numThreads]) k := by
        have mapped : s.load loop = (s.conns.map Conn.ioLoop).countP (· = loop) := by
          rw [List.countP_map]
          rfl
        rw [mapped, loops, List.countP_map, Nat.count]
        apply List.countP_congr
        intro j _
        simp [Nat.ModEq, Nat.mod_eq_of_lt inside]
      rw [count, Nat.count_modEq_card k workers, Nat.mod_eq_of_lt inside]
    intro loop inside loop' inside'
    rw [share loop inside, share loop' inside']
    split <;> split <;> omega

theorem shared_out_comeAndGo :
    let s := run step twoWorkers comeAndGo
    s.load 0 = 2 ∧ s.load 1 = 1 ∧ s.load 0 ≤ s.load 1 + 1 := by
  intro s
  have shared := shared_out (by decide) comeAndGo comeAndGo_counts
  exact ⟨by decide +kernel, by decide +kernel, shared.2.1 0 (by decide) 1 (by decide)⟩

end Runs
end TcpServer
end IotGateway.Net
