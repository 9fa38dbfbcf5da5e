import IotGateway.Lib.Run
import IotGateway.Net.TcpConnection

/-!
# A connection between its threads

The loop of a connection waits in epoll, runs the handlers of what was reported, then the
functors that were queued by then. Other threads call `send`, `shutdown` and `forceClose`
at any moment: the test of `state_`, the new state and the entry in the queue are steps
of their own. The main loop takes the connection out of `connections_`. A step of any
thread may follow a step of any other.
-/

namespace IotGateway.Net
open Text

/-- The callbacks of a channel. -/
inductive Handler where
  | close
  | error
  | read
  | write
  deriving DecidableEq

/-- `revents_`, as epoll reported them. -/
structure Revents where
  hup : Bool := false
  err : Bool := false
  readable : Bool := false
  pri : Bool := false
  writable : Bool := false
  deriving DecidableEq

/-- `Channel::handleEventWithGuard`: the callbacks in the order in which they run. -/
def Revents.handlers (r : Revents) : List Handler :=
  if r.hup && !r.readable then [.close]
  else
    (if r.err then [.error] else []) ++ (if r.readable || r.pri then [.read] else []) ++
      if r.writable then [.write] else []

/-- What epoll may report. A hang-up and an error are reported for every descriptor it knows, whatever the mask. -/
def Channel.reports (ch : Channel) (r : Revents) : Bool :=
  (ch.added || !(r.hup || r.err || r.readable || r.pri || r.writable)) && (ch.isReading || !(r.readable || r.pri)) &&
    (ch.isWriting || !r.writable)

inductive Op where
  | send (msg : Bytes)
  | shutdown
  | forceClose
  deriving DecidableEq

/-- A call that has found `state_` as it wants it. `set` says that it has also set the new state. -/
structure InFlight where
  inLoop : Bool
  op : Op
  set : Bool := false
  deriving DecidableEq

/-- `runInLoop` and `queueInLoop` differ only for a call by the thread of the loop. -/
def InFlight.finish (call : InFlight) (c : TcpConnection) (result : WriteResult) : TcpConnection :=
  match call.op with
  | .send msg => if call.inLoop then c.sendInLoop msg result else c.queueInLoop (.sendInLoop msg)
  | .shutdown => if call.inLoop then c.shutdownInLoop else c.queueInLoop .shutdownInLoop
  | .forceClose => c.queueInLoop .forceCloseInLoop

/-- The call is about to set the state to disconnecting. -/
def InFlight.sets (call : InFlight) : Bool :=
  match call.op with
  | .send _ => false
  | .shutdown | .forceClose => !call.set

/-- `polled` says that `epoll_wait` has returned and `doPendingFunctors` is still to come, `handlers` are those of the
channel that have not run yet. -/
structure Threads where
  conn : TcpConnection
  polled : Bool := false
  handlers : List Handler := []
  calls : List InFlight := []

inductive ThreadEvent where
  /-- A call by the thread of the loop or by another one, up to its test of `state_`. -/
  | call (inLoop : Bool) (op : Op)
  /-- The next step of a call. -/
  | resume (i : Nat) (result : WriteResult)
  | poll (revents : Revents)
  /-- The next handler. -/
  | handle (read : ReadResult) (write : WriteResult)
  /-- `doPendingFunctors` takes the queue. -/
  | swap
  /-- The next functor of the batch. -/
  | functor (result : WriteResult)
  /-- The main loop runs `removeConnectionInLoop`. -/
  | mainLoop

namespace Threads

def new (writeComplete : Bool) (highWater : Option Nat) : Threads := { conn := newConnection writeComplete highWater }

/-- The thread of the loop is not inside a call. -/
def loopFree (s : Threads) : Bool := s.calls.all fun call => !call.inLoop

def wants (state : ConnState) : Op → Bool
  | .send _ | .shutdown => state = .connected
  | .forceClose => state = .connected ∨ state = .disconnecting

def call (s : Threads) (inLoop : Bool) (op : Op) : Threads :=
  if wants s.conn.state_ op then
    { s with
      conn := match op with
        | .send msg => s.conn.record (.accepted msg)
        | .shutdown | .forceClose => s.conn
      calls := s.calls ++ [{ inLoop, op }] }
  else s

def resume (s : Threads) (i : Nat) (result : WriteResult) : Threads :=
  match s.calls[i]? with
  | none => s
  | some call =>
    if call.sets then
      { s with conn := s.conn.setState .disconnecting, calls := s.calls.set i { call with set := true } }
    else { s with conn := call.finish s.conn result, calls := s.calls.eraseIdx i }

def handle (s : Threads) (read : ReadResult) (write : WriteResult) : Threads :=
  match s.handlers with
  | [] => s
  | handler :: handlers =>
    { s with
      handlers
      conn := match handler with
        | .close => s.conn.handleClose
        -- `handleError` only logs
        | .error => s.conn
        | .read => s.conn.handleRead read
        | .write => s.conn.handleWrite write }

def functor (s : Threads) (result : WriteResult) : Threads :=
  match s.conn.functors with
  | [] => s
  | f :: functors => { s with conn := { s.conn with functors }.runFunctor result f }

def step (s : Threads) (e : ThreadEvent) : Threads :=
  if s.conn.aborted then s
  else
    match e with
    | .call inLoop op => if inLoop && !s.loopFree then s else s.call inLoop op
    | .resume i result => s.resume i result
    | .poll revents =>
      if s.loopFree && !s.polled && s.handlers.isEmpty && s.conn.functors.isEmpty && s.conn.channel_.reports revents then
        { s with polled := true, handlers := revents.handlers }
      else s
    | .handle read write => if s.loopFree then s.handle read write else s
    | .swap =>
      if s.loopFree && s.polled && s.handlers.isEmpty && s.conn.functors.isEmpty then
        { s with polled := false, conn := { s.conn with functors := s.conn.pendingFunctors_, pendingFunctors_ := [] } }
      else s
    | .functor result => if s.loopFree && s.handlers.isEmpty then s.functor result else s
    | .mainLoop =>
      if 0 < s.conn.removals then
        { s with conn := { s.conn with removals := s.conn.removals - 1 }.removeConnectionInLoop }
      else s

end Threads
end IotGateway.Net
