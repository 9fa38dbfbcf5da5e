import IotGateway.Gateway.Workers
import IotGateway.Net.Threads

/-!
# A server and its connections

`TcpServer.cpp` over `EventLoopThreadPool` and the loops. Every loop has one batch of
handlers and one queue of functors for all of its connections, and `connections_` knows
them by name. Without worker threads the main loop is the loop of every connection, and
then `runInLoop` runs at once what it would otherwise queue. A step of any loop or of
another thread may follow any other.
-/

namespace IotGateway.Net
open Text Gateway

/-- An IPv4 address with its port, the first byte of the dotted form first. -/
structure InetAddress where
  addr : UInt8 × UInt8 × UInt8 × UInt8 := (0, 0, 0, 0)
  port : UInt16
  deriving DecidableEq

namespace InetAddress

def toIp (a : InetAddress) : Bytes :=
  decimalNat a.addr.1.toNat ++ 46 :: decimalNat a.addr.2.1.toNat ++ 46 :: decimalNat a.addr.2.2.1.toNat ++
    46 :: decimalNat a.addr.2.2.2.toNat

def toIpPort (a : InetAddress) : Bytes := snprintf 64 (cstr a.toIp ++ 58 :: decimalNat a.port.toNat)

end InetAddress

/-- The name that `newConnection` prints, `nextConnId_` being what it was before the call. -/
def connName (ipPort_ : Bytes) (nextConnId_ : Nat) : Bytes := snprintf 64 (cstr ipPort_ ++ 35 :: decimalNat nextConnId_)

theorem length_toIpPort_le (a : InetAddress) : a.toIpPort.length ≤ 21 := by
  have byte : ∀ b : UInt8, (decimalNat b.toNat).length ≤ 3 :=
    fun b => length_decimalNat_le (k := 2) (Nat.lt_of_lt_of_le b.toNat_lt (by norm_num))
  have port : (decimalNat a.port.toNat).length ≤ 5 :=
    length_decimalNat_le (k := 4) (Nat.lt_of_lt_of_le a.port.toNat_lt (by norm_num))
  have dotted : a.toIp.length ≤ 15 := by
    have first := byte a.addr.1
    have second := byte a.addr.2.1
    have third := byte a.addr.2.2.1
    have fourth := byte a.addr.2.2.2
    simp only [InetAddress.toIp, List.length_append, List.length_cons]
    omega
  have shown : (cstr a.toIp).length ≤ a.toIp.length := (List.takeWhile_prefix _).length_le
  have cut : a.toIpPort.length ≤ (cstr a.toIp ++ 58 :: decimalNat a.port.toNat).length :=
    (List.take_prefix _ _).length_le
  simp only [List.length_append, List.length_cons] at cut
  omega

/-- The buffer of 64 bytes holds every name, as long as the counter is an `int`. -/
theorem connName_injective {a : InetAddress} {i j : Nat} (left : i < 2 ^ 31) (right : j < 2 ^ 31)
    (same : connName a.toIpPort i = connName a.toIpPort j) : i = j := by
  have whole : ∀ k < 2 ^ 31, connName a.toIpPort k = cstr a.toIpPort ++ 35 :: decimalNat k := by
    intro k below
    apply snprintf_of_fits
    have digits : (decimalNat k).length ≤ 10 := length_decimalNat_le (k := 9) (Nat.lt_of_lt_of_le below (by norm_num))
    have shown : (cstr a.toIpPort).length ≤ a.toIpPort.length := (List.takeWhile_prefix _).length_le
    have address := length_toIpPort_le a
    simp only [List.length_append, List.length_cons]
    omega
  rw [whole i left, whole j right] at same
  exact decimalNat_injective (List.cons.inj (List.append_cancel_left same)).2

/-- A connection as the server made it, with the calls of `send`, `shutdown` and `forceClose` that are on their way. -/
structure Conn where
  name : Bytes
  ioLoop : Nat
  tcp : TcpConnection
  calls : List InFlight := []

/-- A loop: the handlers and functors that it still has to run in this iteration, and the queue for the next. -/
structure Loop where
  polled : Bool := false
  handlers : List (Nat × Handler) := []
  functors : List (Nat × Functor) := []
  pendingFunctors_ : List (Nat × Functor) := []

/-- Connections are numbered as they are accepted. `removals` is the queue of the main loop when it has worker loops
beside it: the connections for which `removeConnectionInLoop` is still to be called. -/
structure TcpServer where
  listenAddr : InetAddress
  threadPool_ : EventLoopThreadPool
  writeComplete : Bool
  highWater : Option Nat
  nextConnId_ : Nat := 1
  connections_ : AList fun _ : Bytes => Nat := ∅
  conns : List Conn := []
  loops : Nat → Loop := fun _ => {}
  removals : List Nat := []

inductive ServerEvent where
  /-- The acceptor hands over a descriptor. -/
  | newConnection
  | call (conn : Nat) (inLoop : Bool) (op : Op)
  | resume (conn : Nat) (i : Nat) (result : WriteResult)
  /-- `epoll_wait` returns with these channels, in this order. -/
  | poll (loop : Nat) (active : List (Nat × Revents))
  | handle (loop : Nat) (read : ReadResult) (write : WriteResult)
  | swap (loop : Nat)
  | functor (loop : Nat) (result : WriteResult)
  /-- The main loop runs the next `removeConnectionInLoop`. -/
  | mainLoop

namespace TcpServer

def ipPort_ (s : TcpServer) : Bytes := s.listenAddr.toIpPort

/-- There are no worker threads, or `setThreadNum` was not called. -/
def single (s : TcpServer) : Bool := s.threadPool_.numThreads_ = 0

def aborted (s : TcpServer) : Bool := s.conns.any fun c => c.tcp.aborted

/-- The thread of the loop is not inside a call on one of its connections. -/
def loopFree (s : TcpServer) (loop : Nat) : Bool :=
  s.conns.all fun c => c.ioLoop ≠ loop || c.calls.all fun call => !call.inLoop

def setLoop (s : TcpServer) (loop : Nat) (l : Loop) : TcpServer := { s with loops := Function.update s.loops loop l }

def enqueue (s : TcpServer) (loop : Nat) (functors : List (Nat × Functor)) : TcpServer :=
  let l := s.loops loop
  s.setLoop loop { l with pendingFunctors_ := l.pendingFunctors_ ++ functors }

def removeConnectionInLoop (s : TcpServer) (conn : Nat) : TcpServer :=
  match s.conns[conn]? with
  | none => s
  | some c =>
    -- `erase` says how many entries went, and the source goes on only after one
    if c.name ∈ s.connections_ then
      { s with connections_ := s.connections_.erase c.name }.enqueue c.ioLoop [(conn, .connectDestroyed)]
    else s

/-- `runInLoop` of the main loop, called on the loop of the connection. -/
def removeConnection (s : TcpServer) (conn : Nat) : TcpServer :=
  if s.single then s.removeConnectionInLoop conn else { s with removals := s.removals ++ [conn] }

/-- What a connection has asked of its surroundings goes to its loop and to the server. -/
def settle (s : TcpServer) (conn : Nat) (c : Conn) : TcpServer :=
  let tcp := { c.tcp with pendingFunctors_ := [], removals := 0 }
  let s := { s with conns := s.conns.set conn { c with tcp } }.enqueue c.ioLoop (c.tcp.pendingFunctors_.map (conn, ·))
  if 0 < c.tcp.removals then s.removeConnection conn else s

/-- Runs something on one connection, with the handlers and functors that it is about. -/
def onConn (s : TcpServer) (conn : Nat) (handlers : List Handler) (functors : List Functor)
    (f : Threads → Threads) : TcpServer :=
  match s.conns[conn]? with
  | none => s
  | some c =>
    let t := f { conn := { c.tcp with functors }, handlers, calls := c.calls }
    s.settle conn { c with tcp := t.conn, calls := t.calls }

def newConnection (s : TcpServer) : TcpServer :=
  let (ioLoop, threadPool_) := s.threadPool_.getNextLoop
  let conn := s.conns.length
  let name := connName s.ipPort_ s.nextConnId_
  let tcp := { Net.newConnection s.writeComplete s.highWater with pendingFunctors_ := [] }
  let c : Conn := { name, ioLoop, tcp }
  let s := { s with
    threadPool_
    nextConnId_ := s.nextConnId_ + 1
    connections_ := s.connections_.insert name conn
    conns := s.conns ++ [c] }
  if s.single then s.onConn conn [] [.connectEstablished] (·.functor .again)
  else s.enqueue ioLoop [(conn, .connectEstablished)]

/-- What `epoll_wait` may return: each channel once, and what it reports may be reported. -/
def mayReport (s : TcpServer) (loop : Nat) (active : List (Nat × Revents)) : Bool :=
  (active.map Prod.fst).Nodup && active.all fun p =>
    match s.conns[p.1]? with
    | none => false
    | some c => c.ioLoop = loop && c.tcp.channel_.reports p.2

def step (s : TcpServer) (e : ServerEvent) : TcpServer :=
  if s.aborted then s
  else
    match e with
    | .newConnection =>
      -- the acceptor is a channel of the main loop, so with one loop it is a handler like the others
      if s.single && !(s.loopFree 0 && (s.loops 0).polled && (s.loops 0).functors.isEmpty) then s else s.newConnection
    | .call conn inLoop op =>
      match s.conns[conn]? with
      | none => s
      | some c => if inLoop && !s.loopFree c.ioLoop then s else s.onConn conn [] [] (·.call inLoop op)
    | .resume conn i result => s.onConn conn [] [] (·.resume i result)
    | .poll loop active =>
      let l := s.loops loop
      if s.loopFree loop && !l.polled && l.handlers.isEmpty && l.functors.isEmpty && s.mayReport loop active then
        s.setLoop loop { l with polled := true, handlers := active.flatMap fun p => p.2.handlers.map (p.1, ·) }
      else s
    | .handle loop read write =>
      let l := s.loops loop
      match l.handlers with
      | [] => s
      | (conn, handler) :: handlers =>
        if s.loopFree loop then
          (s.setLoop loop { l with handlers }).onConn conn [handler] [] (·.handle read write)
        else s
    | .swap loop =>
      let l := s.loops loop
      if s.loopFree loop && l.polled && l.handlers.isEmpty && l.functors.isEmpty then
        s.setLoop loop { polled := false, handlers := [], functors := l.pendingFunctors_, pendingFunctors_ := [] }
      else s
    | .functor loop result =>
      let l := s.loops loop
      match l.functors with
      | [] => s
      | (conn, f) :: functors =>
        if s.loopFree loop && l.handlers.isEmpty then
          (s.setLoop loop { l with functors }).onConn conn [] [f] (·.functor result)
        else s
    | .mainLoop =>
      match s.removals with
      | [] => s
      | conn :: removals => { s with removals }.removeConnectionInLoop conn

end TcpServer
end IotGateway.Net
