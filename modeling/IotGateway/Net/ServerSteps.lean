import IotGateway.Net.Surroundings

/-!
# Steps of a server

What one step of a server is for each of its connections: nothing, or a step or two of the
connection between its threads. A connection that is accepted begins a run of its own.
-/

namespace IotGateway.Net
open Text Gateway

/-! ### One connection of many -/

/-- The entries of a shared list that concern one connection. -/
def own {α : Type} (conn : Nat) (l : List (Nat × α)) : List α := l.filterMap fun p => if p.1 = conn then some p.2 else none

section Own

variable {α : Type} (conn : Nat)

@[simp] theorem own_nil : own conn ([] : List (Nat × α)) = [] := rfl

@[simp] theorem own_append (l l' : List (Nat × α)) : own conn (l ++ l') = own conn l ++ own conn l' := List.filterMap_append

@[simp] theorem own_cons_self (a : α) (l : List (Nat × α)) : own conn ((conn, a) :: l) = a :: own conn l := by simp [own]

theorem own_cons_ne {j : Nat} (other : j ≠ conn) (a : α) (l : List (Nat × α)) : own conn ((j, a) :: l) = own conn l := by
  simp [own, other]

@[simp] theorem own_map_self (l : List α) : own conn (l.map (conn, ·)) = l := by
  induction l with
  | nil => rfl
  | cons a l ih => rw [List.map_cons, own_cons_self, ih]

theorem own_map_ne {j : Nat} (other : j ≠ conn) (l : List α) : own conn (l.map (j, ·)) = [] := by
  induction l with
  | nil => rfl
  | cons a l ih => rw [List.map_cons, own_cons_ne conn other, ih]

theorem own_of_absent {conn : Nat} {l : List (Nat × α)} (absent : conn ∉ l.map Prod.fst) : own conn l = [] := by
  induction l with
  | nil => rfl
  | cons p l ih =>
    obtain ⟨j, a⟩ := p
    simp only [List.map_cons, List.mem_cons, not_or] at absent
    rw [own_cons_ne conn (Ne.symm absent.1), ih absent.2]

end Own

theorem getElem?_set_there {α : Type} {l : List α} {i : Nat} {a : α} (there : l[i]? = some a) (b : α) (j : Nat) :
    (l.set i b)[j]? = if j = i then some b else l[j]? := by
  have inside : i < l.length := (List.getElem?_eq_some_iff.mp there).1
  by_cases same : j = i
  · rw [if_pos same, same, List.getElem?_set_self inside]
  · rw [if_neg same, List.getElem?_set_ne (Ne.symm same)]

def Loop.about (l : Loop) : List Nat :=
  l.handlers.map Prod.fst ++ l.functors.map Prod.fst ++ l.pendingFunctors_.map Prod.fst

namespace TcpServer

def surroundings (s : TcpServer) (conn : Nat) (c : Conn) : Surroundings where
  polled := (s.loops c.ioLoop).polled
  handlers := own conn (s.loops c.ioLoop).handlers
  functors := own conn (s.loops c.ioLoop).functors
  queued := own conn (s.loops c.ioLoop).pendingFunctors_
  removals := s.removals.count conn
  listed := s.connections_.lookup c.name = some conn

def view (s : TcpServer) (conn : Nat) (c : Conn) : Threads :=
  (s.surroundings conn c).around { conn := c.tcp, calls := c.calls }

/-- What no step changes. -/
def settings (s : TcpServer) : InetAddress × Bool × Option Nat × Nat :=
  (s.listenAddr, s.writeComplete, s.highWater, s.threadPool_.numThreads_)

/-- Connections are named after their numbers, `connections_` holds only these names, and what a loop holds is about its own
connections. -/
structure Tidy (s : TcpServer) : Prop where
  next : s.nextConnId_ = s.conns.length + 1
  small : s.nextConnId_ < 2 ^ 31
  name : ∀ (j : Nat) (c : Conn), s.conns[j]? = some c → c.name = connName s.listenAddr.toIpPort (j + 1)
  key : ∀ (name : Bytes) (j : Nat), s.connections_.lookup name = some j → ∃ c : Conn, s.conns[j]? = some c ∧ c.name = name
  settled : ∀ (j : Nat) (c : Conn), s.conns[j]? = some c → c.tcp.pendingFunctors_ = [] ∧ c.tcp.removals = 0
  known : ∀ loop, ∀ j ∈ (s.loops loop).about, ∃ c : Conn, s.conns[j]? = some c ∧ c.ioLoop = loop
  waiting : ∀ j ∈ s.removals, ∃ c : Conn, s.conns[j]? = some c

/-- A step on one connection. -/
structure Alone (s s' : TcpServer) (conn : Nat) : Prop where
  tidy : Tidy s'
  settings : s'.settings = s.settings
  length : s'.conns.length = s.conns.length
  others : ∀ (j : Nat) (c : Conn), j ≠ conn → s.conns[j]? = some c → s'.conns[j]? = some c ∧ s'.surroundings j c = s.surroundings j c

section Steps

variable {s : TcpServer} {conn : Nat} {c : Conn}

theorem Tidy.name_injective (tidy : Tidy s) {i j : Nat} {c d : Conn} (left : s.conns[i]? = some c)
    (right : s.conns[j]? = some d) (same : c.name = d.name) : i = j := by
  have inside := (List.getElem?_eq_some_iff.mp left).1
  have inside' := (List.getElem?_eq_some_iff.mp right).1
  have next := tidy.next
  have small := tidy.small
  rw [tidy.name i c left, tidy.name j d right] at same
  have numbers := connName_injective (by omega) (by omega) same
  omega

theorem Tidy.listed_iff (tidy : Tidy s) (there : s.conns[conn]? = some c) :
    c.name ∈ s.connections_ ↔ s.connections_.lookup c.name = some conn := by
  constructor
  · intro member
    obtain ⟨j, found⟩ := Option.isSome_iff_exists.mp (AList.lookup_isSome.mpr member)
    obtain ⟨d, there', named⟩ := tidy.key _ _ found
    rw [found, tidy.name_injective there' there named]
  · intro found
    exact AList.lookup_isSome.mp (by rw [found]; rfl)

theorem surroundings_enqueue (loop : Nat) (functors : List (Nat × Functor)) (j : Nat) (d : Conn) :
    (s.enqueue loop functors).surroundings j d = { s.surroundings j d with
      queued := (s.surroundings j d).queued ++ if d.ioLoop = loop then own j functors else [] } := by
  by_cases same : d.ioLoop = loop
  · subst same
    simp only [surroundings, enqueue, setLoop, Function.update_self, own_append, if_true]
    rfl
  · simp only [surroundings, enqueue, setLoop, Function.update_of_ne same, if_neg same, List.append_nil]
    rfl

theorem Tidy.enqueue (tidy : Tidy s) {loop : Nat} {functors : List (Nat × Functor)}
    (known : ∀ j ∈ functors.map Prod.fst, ∃ c, s.conns[j]? = some c ∧ c.ioLoop = loop) : Tidy (s.enqueue loop functors) where
  next := tidy.next
  small := tidy.small
  name := tidy.name
  key := tidy.key
  settled := tidy.settled
  waiting := tidy.waiting
  known := by
    intro loop' j member
    by_cases same : loop' = loop
    · subst same
      simp only [TcpServer.enqueue, setLoop, Function.update_self, Loop.about, List.map_append, ← List.append_assoc] at member
      rcases List.mem_append.mp member with old | new
      · exact tidy.known loop' j old
      · exact known j new
    · simp only [TcpServer.enqueue, setLoop, Function.update_of_ne same] at member
      exact tidy.known loop' j member

theorem removeConnectionInLoop_alone (tidy : Tidy s) (there : s.conns[conn]? = some c) :
    Alone s (s.removeConnectionInLoop conn) conn ∧ (s.removeConnectionInLoop conn).conns = s.conns ∧
      (s.removeConnectionInLoop conn).surroundings conn c = (s.surroundings conn c).release := by
  unfold removeConnectionInLoop
  rw [there]
  dsimp only
  by_cases listed : c.name ∈ s.connections_
  swap
  · have off : (s.surroundings conn c).listed = false := decide_eq_false (mt (tidy.listed_iff there).mpr listed)
    rw [if_neg listed]
    refine ⟨⟨tidy, rfl, rfl, fun j d other there' => ⟨there', rfl⟩⟩, rfl, ?_⟩
    rw [Surroundings.release, if_neg (by rw [off]; exact Bool.false_ne_true)]
  rw [if_pos listed]
  have on : (s.surroundings conn c).listed = true := decide_eq_true ((tidy.listed_iff there).mp listed)
  have erased : Tidy { s with connections_ := s.connections_.erase c.name } :=
    { tidy with
      key := by
        intro name j found
        by_cases same : name = c.name
        · rw [same, AList.lookup_erase] at found
          cases found
        · rw [AList.lookup_erase_ne same] at found
          exact tidy.key name j found }
  refine ⟨⟨erased.enqueue ?_, rfl, rfl, ?_⟩, rfl, ?_⟩
  · intro j member
    obtain rfl : j = conn := by simpa using member
    exact ⟨c, there, rfl⟩
  · intro j d other there'
    refine ⟨there', ?_⟩
    have different : d.name ≠ c.name := fun same => other (tidy.name_injective there' there same)
    rw [surroundings_enqueue, own_cons_ne j (Ne.symm other), own_nil, ite_self, List.append_nil]
    simp only [surroundings, AList.lookup_erase_ne different]
  · rw [surroundings_enqueue, if_pos rfl, own_cons_self, own_nil, Surroundings.release, if_pos on]
    simp [surroundings, AList.lookup_erase]

/-- `removeConnection` of a connection is the last step of its run so far. -/
theorem removeConnection_steps (orderly : Prop) (tidy : Tidy s) (there : s.conns[conn]? = some c)
    (going : c.tcp.aborted = false) :
    Alone s (s.removeConnection conn) conn ∧ (s.removeConnection conn).conns = s.conns ∧
      Net.Steps orderly
        ({ s.surroundings conn c with removals := (s.surroundings conn c).removals + 1 }.around
          { conn := c.tcp, calls := c.calls })
        ((s.removeConnection conn).view conn c) := by
  obtain ⟨queued, removals⟩ := tidy.settled conn c there
  unfold removeConnection
  split
  · obtain ⟨alone, conns, released⟩ := removeConnectionInLoop_alone tidy there
    refine ⟨alone, conns, .one .mainLoop ?_ fun _ => trivial⟩
    rw [Surroundings.around_mainLoop _ _ rfl queued removals going, view, released]
  · refine ⟨⟨{ tidy with waiting := ?_ }, rfl, rfl, ?_⟩, rfl, ?_⟩
    · intro j member
      rcases List.mem_append.mp member with old | new
      · exact tidy.waiting j old
      · exact ⟨c, List.mem_singleton.mp new ▸ there⟩
    · intro j d other there'
      refine ⟨there', ?_⟩
      simp [surroundings, List.count_append, Ne.symm other]
    · have same : { s.surroundings conn c with removals := (s.surroundings conn c).removals + 1 } =
          { s with removals := s.removals ++ [conn] }.surroundings conn c := by
        simp [surroundings, List.count_append]
      rw [same]
      exact .refl _

theorem surroundings_congr {d : Conn} (name : c.name = d.name) (loop : c.ioLoop = d.ioLoop) :
    s.surroundings conn c = s.surroundings conn d := by
  unfold surroundings
  rw [name, loop]

/-- A connection is stored again under its number. -/
theorem Tidy.set (tidy : Tidy s) {c₀ : Conn} (there : s.conns[conn]? = some c₀) (name : c.name = c₀.name)
    (loop : c.ioLoop = c₀.ioLoop) (settled : c.tcp.pendingFunctors_ = [] ∧ c.tcp.removals = 0) :
    Tidy { s with conns := s.conns.set conn c } := by
  have found : ∀ (j : Nat) (d : Conn), s.conns[j]? = some d →
      ∃ d', (s.conns.set conn c)[j]? = some d' ∧ d'.name = d.name ∧ d'.ioLoop = d.ioLoop := by
    intro j d there'
    rw [getElem?_set_there there]
    by_cases same : j = conn
    · subst same
      obtain rfl := Option.some.inj (there.symm.trans there')
      exact ⟨c, if_pos rfl, name, loop⟩
    · exact ⟨d, by rw [if_neg same, there'], rfl, rfl⟩
  have stored : ∀ (j : Nat) (d : Conn), (s.conns.set conn c)[j]? = some d → j = conn ∧ d = c ∨ s.conns[j]? = some d := by
    intro j d there'
    rw [getElem?_set_there there] at there'
    split at there'
    · rename_i same
      exact Or.inl ⟨same, (Option.some.inj there').symm⟩
    · exact Or.inr there'
  constructor
  · rw [List.length_set]
    exact tidy.next
  · exact tidy.small
  · intro j d there'
    rcases stored j d there' with ⟨rfl, rfl⟩ | there'
    · rw [name, tidy.name j c₀ there]
    · exact tidy.name j d there'
  · intro key j held
    obtain ⟨d, there', rfl⟩ := tidy.key key j held
    obtain ⟨d', there'', same, _⟩ := found j d there'
    exact ⟨d', there'', same⟩
  · intro j d there'
    rcases stored j d there' with ⟨_, rfl⟩ | there'
    · exact settled
    · exact tidy.settled j d there'
  · intro loop' j member
    obtain ⟨d, there', rfl⟩ := tidy.known loop' j member
    obtain ⟨d', there'', _, same⟩ := found j d there'
    exact ⟨d', there'', same⟩
  · intro j member
    obtain ⟨d, there'⟩ := tidy.waiting j member
    obtain ⟨d', there'', _⟩ := found j d there'
    exact ⟨d', there''⟩

/-- What a step leaves of a connection is handed to its loop and to the server. -/
theorem settle_steps (tidy : Tidy s) {c₀ : Conn} (there : s.conns[conn]? = some c₀) (name : c.name = c₀.name)
    (loop : c.ioLoop = c₀.ioLoop) (closes : c.tcp.removals = 0 ∨ c.tcp.removals = 1 ∧ c.tcp.aborted = false)
    {orderly : Prop} :
    Alone s (s.settle conn c) conn ∧ ∃ c', (s.settle conn c).conns[conn]? = some c' ∧
      Net.Steps orderly ((s.surroundings conn c₀).around { conn := c.tcp, calls := c.calls })
        ((s.settle conn c).view conn c') := by
  unfold settle
  dsimp only
  generalize after : ({ c with tcp := { c.tcp with pendingFunctors_ := [], removals := 0 } } : Conn) = c'
  have named : c'.name = c₀.name := by
    rw [← after]
    exact name
  have looped : c'.ioLoop = c₀.ioLoop := by
    rw [← after]
    exact loop
  have tidy₁ : Tidy { s with conns := s.conns.set conn c' } := by
    apply tidy.set there named looped
    rw [← after]
    exact ⟨rfl, rfl⟩
  have conns := getElem?_set_there there c'
  have here : (s.conns.set conn c')[conn]? = some c' := by rw [conns, if_pos rfl]
  -- the state before `removeConnection`
  generalize stored : { s with conns := s.conns.set conn c' }.enqueue c.ioLoop (c.tcp.pendingFunctors_.map (conn, ·)) = s₂
  have held : s₂.conns = s.conns.set conn c' := by
    rw [← stored]
    rfl
  have alone₂ : Alone s s₂ conn := by
    refine ⟨?_, by rw [← stored]; rfl, by rw [held, List.length_set], ?_⟩
    · rw [← stored]
      apply tidy₁.enqueue
      intro j member
      simp only [List.map_map, List.mem_map, Function.comp_apply, exists_and_right] at member
      obtain ⟨_, rfl⟩ := member
      exact ⟨c', here, looped.trans loop.symm⟩
    · intro j d other there'
      refine ⟨by rw [held, conns, if_neg other, there'], ?_⟩
      rw [← stored, surroundings_enqueue, own_map_ne j (Ne.symm other), ite_self, List.append_nil]
      rfl
  have surrounded : s₂.surroundings conn c' =
      { s.surroundings conn c₀ with queued := (s.surroundings conn c₀).queued ++ c.tcp.pendingFunctors_ } := by
    rw [← stored, surroundings_enqueue, if_pos (looped.trans loop.symm), own_map_self, ← surroundings_congr named looped]
    rfl
  have before := Surroundings.around_tidy (s.surroundings conn c₀) { conn := c.tcp, calls := c.calls }
  have kept : ({ conn := { c.tcp with pendingFunctors_ := [], removals := 0 }, calls := c.calls } : Threads) =
      { conn := c'.tcp, calls := c'.calls } := by rw [← after]
  rw [kept] at before
  have there₂ : s₂.conns[conn]? = some c' := by rw [held, here]
  rw [before]
  rcases closes with none | ⟨once, going⟩
  · rw [if_neg (by omega)]
    refine ⟨alone₂, c', there₂, ?_⟩
    rw [none, Nat.add_zero, view, surrounded]
    exact .refl _
  · rw [if_pos (by omega)]
    have alive : c'.tcp.aborted = false := by
      rw [← after]
      exact going
    obtain ⟨alone, same, steps⟩ := removeConnection_steps orderly alone₂.tidy there₂ alive
    refine ⟨⟨alone.tidy, alone.settings.trans alone₂.settings, alone.length.trans alone₂.length, ?_⟩, c', ?_, ?_⟩
    · intro j d other there'
      obtain ⟨still, unchanged⟩ := alone₂.others j d other there'
      obtain ⟨still', unchanged'⟩ := alone.others j d other still
      exact ⟨still', unchanged'.trans unchanged⟩
    · rw [same]
      exact there₂
    · rw [once]
      rw [surrounded] at steps
      exact steps

/-- Whatever runs on a connection alone is a step of its run. -/
theorem onConn_steps (orderly : Prop) (handlers : List Handler) (functors : List Functor) {f : Threads → Threads}
    (tidy : Tidy s) (there : s.conns[conn]? = some c) (going : c.tcp.aborted = false)
    (closes : ∀ t : Threads, Closes t.conn (f t).conn) :
    Alone s (s.onConn conn handlers functors f) conn ∧ ∃ c', (s.onConn conn handlers functors f).conns[conn]? = some c' ∧
      Net.Steps orderly
        ((s.surroundings conn c).around (f { conn := { c.tcp with functors }, handlers, calls := c.calls }))
        ((s.onConn conn handlers functors f).view conn c') := by
  unfold onConn
  rw [there]
  dsimp only
  generalize ran : f { conn := { c.tcp with functors }, handlers, calls := c.calls } = t
  have ends : t.conn.removals = 0 ∨ t.conn.removals = 1 ∧ t.conn.aborted = false := by
    have closes := closes { conn := { c.tcp with functors }, handlers, calls := c.calls }
    rw [ran] at closes
    have removals := (tidy.settled conn c there).2
    rcases closes with same | ⟨more, same⟩
    · exact Or.inl (same.trans removals)
    · exact Or.inr ⟨more.trans (congrArg (· + 1) removals), same.trans going⟩
  exact settle_steps tidy there (c := { c with tcp := t.conn, calls := t.calls }) rfl rfl ends

end Steps

/-! ### One step of the server -/

/-- No `shutdown` or `forceClose` sets the state of a connection that is down, and no hang-up is handled for one. -/
def Orderly (s : TcpServer) : ServerEvent → Prop
  | .resume conn i _ => ∀ c ∈ s.conns[conn]?, ∀ call ∈ c.calls[i]?, call.sets = true → c.tcp.state_ ≠ .disconnected
  | .handle loop _ _ =>
    ∀ p ∈ (s.loops loop).handlers.head?, p.2 = .close → ∀ c ∈ s.conns[p.1]?, c.tcp.state_ ≠ .disconnected
  | _ => True

/-- `nextConnId_` is an `int`. -/
def Counts (s : TcpServer) : ServerEvent → Prop
  | .newConnection => s.nextConnId_ + 1 < 2 ^ 31
  | _ => True

instance (s : TcpServer) : (e : ServerEvent) → Decidable (Orderly s e)
  | .resume conn i _ => inferInstanceAs (Decidable (∀ c ∈ s.conns[conn]?, ∀ call ∈ c.calls[i]?, _ → _))
  | .handle loop _ _ => inferInstanceAs (Decidable (∀ p ∈ (s.loops loop).handlers.head?, _ → ∀ c ∈ s.conns[p.1]?, _))
  | .newConnection | .call _ _ _ | .poll _ _ | .swap _ | .functor _ _ | .mainLoop => isTrue trivial

instance (s : TcpServer) : (e : ServerEvent) → Decidable (Counts s e)
  | .newConnection => inferInstanceAs (Decidable (_ < _))
  | .handle _ _ _ | .resume _ _ _ | .call _ _ _ | .poll _ _ | .swap _ | .functor _ _ | .mainLoop => isTrue trivial

/-- A step of the server is a part of a run for each of its connections, and the first part for a new one. -/
structure Moves (s s' : TcpServer) (orderly : Prop) : Prop where
  tidy : Tidy s'
  settings : s'.settings = s.settings
  each : ∀ (j : Nat) (c : Conn), s.conns[j]? = some c →
    ∃ c', s'.conns[j]? = some c' ∧ Net.Steps orderly (s.view j c) (s'.view j c')
  fresh : ∀ (j : Nat) (c : Conn), s.conns[j]? = none → s'.conns[j]? = some c →
    Net.Steps orderly (Threads.new s.writeComplete s.highWater) (s'.view j c)

section Step

variable {s : TcpServer} {conn : Nat} {c : Conn} {orderly : Prop}

theorem Moves.refl (tidy : Tidy s) : Moves s s orderly where
  tidy := tidy
  settings := rfl
  each := fun j c there => ⟨c, there, .refl _⟩
  fresh := fun j c none some => by rw [none] at some; cases some

theorem view_congr {s' : TcpServer} (same : s'.surroundings conn c = s.surroundings conn c) :
    s'.view conn c = s.view conn c := by
  rw [view, view, same]

/-- The connections that a step leaves alone have made no step. -/
theorem Moves.of_alone {s' : TcpServer} (alone : Alone s s' conn)
    (each : ∀ c, s.conns[conn]? = some c → ∃ c', s'.conns[conn]? = some c' ∧
      Net.Steps orderly (s.view conn c) (s'.view conn c')) : Moves s s' orderly where
  tidy := alone.tidy
  settings := alone.settings
  each := by
    intro j c there
    by_cases same : j = conn
    · subst same
      exact each c there
    · obtain ⟨still, unchanged⟩ := alone.others j c same there
      exact ⟨c, still, by rw [view_congr unchanged]; exact .refl _⟩
  fresh := by
    intro j c none some
    have inside := (List.getElem?_eq_some_iff.mp some).1
    have outside := List.getElem?_eq_none_iff.mp none
    have length := alone.length
    omega

theorem surroundings_setLoop (loop : Nat) (l : Loop) (j : Nat) (d : Conn) :
    (s.setLoop loop l).surroundings j d =
      if d.ioLoop = loop then { s.surroundings j d with
        polled := l.polled
        handlers := own j l.handlers
        functors := own j l.functors
        queued := own j l.pendingFunctors_ }
      else s.surroundings j d := by
  by_cases same : d.ioLoop = loop
  · subst same
    simp only [surroundings, setLoop, Function.update_self, if_true]
    rfl
  · simp only [surroundings, setLoop, Function.update_of_ne same, if_neg same]
    rfl

theorem view_setLoop_ne {loop : Nat} (other : c.ioLoop ≠ loop) (l : Loop) : (s.setLoop loop l).view conn c = s.view conn c :=
  view_congr (by rw [surroundings_setLoop, if_neg other])

theorem Tidy.setLoop (tidy : Tidy s) {loop : Nat} {l : Loop}
    (known : ∀ j ∈ l.about, ∃ c, s.conns[j]? = some c ∧ c.ioLoop = loop) : Tidy (s.setLoop loop l) :=
  { tidy with
    known := by
      intro loop' j member
      by_cases same : loop' = loop
      · subst same
        simp only [TcpServer.setLoop, Function.update_self] at member
        exact known j member
      · simp only [TcpServer.setLoop, Function.update_of_ne same] at member
        exact tidy.known loop' j member }

theorem alive (going : s.aborted = false) (there : s.conns[conn]? = some c) : c.tcp.aborted = false := by
  unfold aborted at going
  rw [List.any_eq_false] at going
  exact Bool.eq_false_iff.mpr (going c (List.mem_of_getElem? there))

theorem loopFree_view {loop : Nat} (free : s.loopFree loop = true) (there : s.conns[conn]? = some c)
    (loops : c.ioLoop = loop) : (s.view conn c).loopFree = true := by
  unfold loopFree at free
  have here := List.all_eq_true.mp free c (List.mem_of_getElem? there)
  rw [loops] at here
  simpa [Threads.loopFree, view, Surroundings.around] using here

theorem call_moves (tidy : Tidy s) (going : s.aborted = false) (there : s.conns[conn]? = some c) (inLoop : Bool) (op : Op)
    (free : (inLoop && !s.loopFree c.ioLoop) = false) :
    Moves s (s.onConn conn [] [] (·.call inLoop op)) orderly := by
  have alive := alive going there
  obtain ⟨alone, c', there', steps⟩ := onConn_steps orderly [] [] tidy there alive
    (fun t => Closes.call t inLoop op)
  refine .of_alone alone fun d same => ?_
  obtain rfl := Option.some.inj (there.symm.trans same)
  refine ⟨c', there', .trans (.one (.call inLoop op) ?_ fun _ => trivial) steps⟩
  have free' : (inLoop && !(s.view conn c).loopFree) = false := by
    cases inLoop with
    | false => rfl
    | true =>
      have loops : s.loopFree c.ioLoop = true := by simpa using free
      rw [loopFree_view loops there rfl]
      rfl
  rw [← Surroundings.around_call]
  simp only [Threads.step, show (s.view conn c).conn.aborted = false from alive, free', Bool.false_eq_true, if_false]
  rfl

theorem resume_moves (tidy : Tidy s) (going : s.aborted = false) (i : Nat) (result : WriteResult)
    (orderly' : orderly → s.Orderly (.resume conn i result)) :
    Moves s (s.onConn conn [] [] (·.resume i result)) orderly := by
  cases there : s.conns[conn]? with
  | none =>
    unfold onConn
    rw [there]
    exact .refl tidy
  | some c =>
    have alive := alive going there
    obtain ⟨alone, c', there', steps⟩ := onConn_steps orderly [] [] tidy there alive
      (fun t => Closes.resume t i result)
    refine .of_alone alone fun d same => ?_
    obtain rfl := Option.some.inj (there.symm.trans same)
    refine ⟨c', there', .trans (.one (.resume i result) ?_ fun holds => orderly' holds c there) steps⟩
    rw [← Surroundings.around_resume]
    simp only [Threads.step, show (s.view conn c).conn.aborted = false from alive, Bool.false_eq_true, if_false]
    rfl

/-- An entry of its loop that is taken for one connection concerns no other. -/
theorem Alone.after_setLoop {s' : TcpServer} {loop : Nat} {l : Loop} (alone : Alone (s.setLoop loop l) s' conn)
    (polled : l.polled = (s.loops loop).polled)
    (same : ∀ j, j ≠ conn → own j l.handlers = own j (s.loops loop).handlers ∧
      own j l.functors = own j (s.loops loop).functors ∧ own j l.pendingFunctors_ = own j (s.loops loop).pendingFunctors_) :
    Alone s s' conn where
  tidy := alone.tidy
  settings := alone.settings
  length := alone.length
  others := by
    intro j d other there
    obtain ⟨still, unchanged⟩ := alone.others j d other there
    refine ⟨still, unchanged.trans ?_⟩
    rw [surroundings_setLoop]
    split
    · rename_i loops
      obtain ⟨handlers, functors, queued⟩ := same j other
      rw [polled, handlers, functors, queued, ← loops]
      rfl
    · rfl

theorem handle_moves (tidy : Tidy s) (going : s.aborted = false) {loop : Nat} {handler : Handler}
    {handlers : List (Nat × Handler)} (waiting : (s.loops loop).handlers = (conn, handler) :: handlers)
    (free : s.loopFree loop = true) (read : ReadResult) (write : WriteResult)
    (orderly' : orderly → s.Orderly (.handle loop read write)) :
    Moves s ((s.setLoop loop { s.loops loop with handlers }).onConn conn [handler] [] (·.handle read write)) orderly := by
  obtain ⟨c, there, loops⟩ := tidy.known loop conn (by simp [Loop.about, waiting])
  have alive := alive going there
  have tidy₁ : Tidy (s.setLoop loop { s.loops loop with handlers }) := by
    refine tidy.setLoop fun j member => tidy.known loop j ?_
    simp only [Loop.about, waiting, List.map_cons, List.mem_append, List.mem_cons] at member ⊢
    tauto
  obtain ⟨alone, c', there', steps⟩ := onConn_steps orderly [handler] [] tidy₁ there alive
    (fun t => Closes.handle t read write)
  have own_handlers : (s.surroundings conn c).handlers = handler :: own conn handlers := by
    rw [← own_cons_self conn handler handlers, ← waiting, ← loops]
    rfl
  refine .of_alone (alone.after_setLoop rfl fun j other => ⟨?_, rfl, rfl⟩) fun d same => ?_
  · rw [waiting, own_cons_ne j (Ne.symm other)]
  obtain rfl := Option.some.inj (there.symm.trans same)
  refine ⟨c', there', .trans (.one (.handle read write) ?_ fun holds => ?_) steps⟩
  · have taken : (s.setLoop loop { s.loops loop with handlers }).surroundings conn c =
        { s.surroundings conn c with handlers := own conn handlers } := by
      rw [surroundings_setLoop, if_pos loops, ← loops]
      rfl
    rw [taken]
    simp only [Threads.step, show (s.view conn c).conn.aborted = false from alive, loopFree_view free there loops,
      Bool.false_eq_true, if_false, if_true]
    exact (Surroundings.around_handle _ { conn := { c.tcp with functors := [] }, calls := c.calls } own_handlers read write).symm
  · intro close
    refine orderly' holds (conn, handler) (by rw [waiting]; rfl) ?_ c there
    have first : (s.view conn c).handlers = handler :: own conn handlers := own_handlers
    rw [first] at close
    exact Option.some.inj close

theorem functor_moves (tidy : Tidy s) (going : s.aborted = false) {loop : Nat} {f : Functor}
    {functors : List (Nat × Functor)} (waiting : (s.loops loop).functors = (conn, f) :: functors)
    (free : s.loopFree loop = true) (handled : (s.loops loop).handlers = []) (result : WriteResult) :
    Moves s ((s.setLoop loop { s.loops loop with functors }).onConn conn [] [f] (·.functor result)) orderly := by
  obtain ⟨c, there, loops⟩ := tidy.known loop conn (by simp [Loop.about, waiting])
  have alive := alive going there
  have tidy₁ : Tidy (s.setLoop loop { s.loops loop with functors }) := by
    refine tidy.setLoop fun j member => tidy.known loop j ?_
    simp only [Loop.about, waiting, List.map_cons, List.mem_append, List.mem_cons] at member ⊢
    tauto
  obtain ⟨alone, c', there', steps⟩ := onConn_steps orderly [] [f] tidy₁ there alive
    (fun t => Closes.functor t result)
  have own_functors : (s.surroundings conn c).functors = f :: own conn functors := by
    rw [← own_cons_self conn f functors, ← waiting, ← loops]
    rfl
  refine .of_alone (alone.after_setLoop rfl fun j other => ⟨rfl, ?_, rfl⟩) fun d same => ?_
  · rw [waiting, own_cons_ne j (Ne.symm other)]
  obtain rfl := Option.some.inj (there.symm.trans same)
  refine ⟨c', there', .trans (.one (.functor result) ?_ fun _ => trivial) steps⟩
  have taken : (s.setLoop loop { s.loops loop with functors }).surroundings conn c =
      { s.surroundings conn c with functors := own conn functors } := by
    rw [surroundings_setLoop, if_pos loops, ← loops]
    rfl
  have none : (s.view conn c).handlers = [] := by
    show own conn (s.loops c.ioLoop).handlers = []
    rw [loops, handled, own_nil]
  rw [taken]
  simp only [Threads.step, show (s.view conn c).conn.aborted = false from alive, loopFree_view free there loops, none,
    Bool.false_eq_true, if_false, List.isEmpty_nil, Bool.and_self, if_true]
  exact (Surroundings.around_functor _ { conn := c.tcp, calls := c.calls } own_functors result).symm

theorem mainLoop_moves (tidy : Tidy s) (going : s.aborted = false) {removals : List Nat}
    (waiting : s.removals = conn :: removals) :
    Moves s ({ s with removals }.removeConnectionInLoop conn) orderly := by
  obtain ⟨c, there⟩ := tidy.waiting conn (by simp [waiting])
  have alive := alive going there
  obtain ⟨queued, none⟩ := tidy.settled conn c there
  have tidy₁ : Tidy { s with removals } :=
    { tidy with waiting := fun j member => tidy.waiting j (by rw [waiting]; exact List.mem_cons_of_mem _ member) }
  obtain ⟨alone, conns, released⟩ := removeConnectionInLoop_alone tidy₁ there
  have alone' : Alone s ({ s with removals }.removeConnectionInLoop conn) conn := by
    refine ⟨alone.tidy, alone.settings, alone.length, fun j d other there' => ?_⟩
    obtain ⟨still, unchanged⟩ := alone.others j d other there'
    refine ⟨still, unchanged.trans ?_⟩
    simp only [surroundings, waiting, List.count_cons_of_ne (Ne.symm other)]
  refine .of_alone alone' fun d same => ?_
  obtain rfl := Option.some.inj (there.symm.trans same)
  refine ⟨c, by rw [conns, there], .one .mainLoop ?_ fun _ => trivial⟩
  have count : (s.surroundings conn c).removals = removals.count conn + 1 := by
    show s.removals.count conn = _
    rw [waiting, List.count_cons_self]
  rw [view, view, released, Surroundings.around_mainLoop _ _ count queued none alive]
  rfl

theorem own_active (j : Nat) {active : List (Nat × Revents)} (once : (active.map Prod.fst).Nodup) :
    own j (active.flatMap fun p => p.2.handlers.map (p.1, ·)) = ((active.lookup j).getD {}).handlers := by
  induction active with
  | nil => rfl
  | cons p active ih =>
    obtain ⟨k, r⟩ := p
    obtain ⟨absent, once⟩ := List.nodup_cons.mp once
    rw [List.flatMap_cons, own_append, ih once]
    by_cases same : k = j
    · subst same
      have none : active.lookup k = none := by
        rw [List.lookup_eq_none_iff]
        intro p member
        have other : p.1 ≠ k := fun same => absent (List.mem_map.mpr ⟨p, member, same⟩)
        simpa using Ne.symm other
      rw [own_map_self, none, List.lookup_cons_self]
      exact List.append_nil _
    · rw [own_map_ne j same, List.nil_append, List.lookup_cons, show (j == k) = false from beq_false_of_ne (Ne.symm same)]

theorem reports_nothing (ch : Channel) : ch.reports {} = true := by
  simp [Channel.reports]

/-- `epoll_wait` returns to every connection of the loop, with nothing for most of them. -/
theorem poll_moves (tidy : Tidy s) (going : s.aborted = false) {loop : Nat} {active : List (Nat × Revents)}
    (free : s.loopFree loop = true) (idle : (s.loops loop).polled = false) (handled : (s.loops loop).handlers = [])
    (ran : (s.loops loop).functors = []) (may : s.mayReport loop active = true) :
    Moves s (s.setLoop loop { s.loops loop with
      polled := true, handlers := active.flatMap fun p => p.2.handlers.map (p.1, ·) }) orderly where
  settings := rfl
  tidy := by
    simp only [mayReport, Bool.and_eq_true, List.all_eq_true] at may
    refine tidy.setLoop fun j member => ?_
    simp only [Loop.about, List.map_flatMap, List.map_map, List.mem_append, List.mem_flatMap, List.mem_map,
      Function.comp_apply] at member
    rcases member with (⟨p, listed, _, _, rfl⟩ | old) | old
    · have reported := may.2 p listed
      split at reported
      · cases reported
      · rename_i c there
        simp only [Bool.and_eq_true, decide_eq_true_eq] at reported
        exact ⟨c, there, reported.1⟩
    · exact tidy.known loop j (List.mem_append_left _ (List.mem_append_right _ (List.mem_map.mpr old)))
    · exact tidy.known loop j (List.mem_append_right _ (List.mem_map.mpr old))
  fresh := fun j c none some => by
    rw [show (s.setLoop loop _).conns = s.conns from rfl, none] at some
    cases some
  each := by
    intro j c there
    refine ⟨c, there, ?_⟩
    by_cases loops : c.ioLoop = loop
    swap
    · rw [view_setLoop_ne loops]
      exact .refl _
    simp only [mayReport, Bool.and_eq_true, List.all_eq_true, decide_eq_true_eq] at may
    obtain ⟨once, every⟩ := may
    have reported : c.tcp.channel_.reports ((active.lookup j).getD {}) = true := by
      cases found : active.lookup j with
      | none => exact reports_nothing _
      | some r =>
        obtain ⟨before, after, split, _⟩ := List.lookup_eq_some_iff.mp found
        have listed := every (j, r) (by simp [split])
        rw [there] at listed
        simp only [Bool.and_eq_true] at listed
        exact listed.2
    refine .one (.poll ((active.lookup j).getD {})) ?_ fun _ => trivial
    have alive : (s.view j c).conn.aborted = false := alive going there
    have polled : (s.view j c).polled = false := by rw [← idle, ← loops]; rfl
    have handlers : (s.view j c).handlers = [] := by
      show own j (s.loops c.ioLoop).handlers = []
      rw [loops, handled, own_nil]
    have functors : (s.view j c).conn.functors = [] := by
      show own j (s.loops c.ioLoop).functors = []
      rw [loops, ran, own_nil]
    have channel : (s.view j c).conn.channel_ = c.tcp.channel_ := rfl
    simp only [Threads.step, alive, loopFree_view free there loops, polled, handlers, functors, channel, reported,
      Bool.false_eq_true, if_false, List.isEmpty_nil, Bool.not_false, Bool.and_self, if_true]
    rw [view, surroundings_setLoop, if_pos loops, own_active j once, ← loops]
    rfl

/-- `doPendingFunctors` takes the queue, for every connection of the loop at once. -/
theorem swap_moves (tidy : Tidy s) (going : s.aborted = false) {loop : Nat} (free : s.loopFree loop = true)
    (polled : (s.loops loop).polled = true) (handled : (s.loops loop).handlers = []) (ran : (s.loops loop).functors = []) :
    Moves s (s.setLoop loop
      { polled := false, handlers := [], functors := (s.loops loop).pendingFunctors_, pendingFunctors_ := [] }) orderly where
  settings := rfl
  tidy := by
    refine tidy.setLoop fun j member => tidy.known loop j ?_
    simp only [Loop.about, List.map_nil, List.nil_append, List.append_nil, List.mem_append] at member ⊢
    exact Or.inr member
  fresh := fun j c none some => by
    rw [show (s.setLoop loop _).conns = s.conns from rfl, none] at some
    cases some
  each := by
    intro j c there
    refine ⟨c, there, ?_⟩
    by_cases loops : c.ioLoop = loop
    swap
    · rw [view_setLoop_ne loops]
      exact .refl _
    refine .one .swap ?_ fun _ => trivial
    have alive : (s.view j c).conn.aborted = false := alive going there
    have polled' : (s.view j c).polled = true := by rw [← polled, ← loops]; rfl
    have handlers : (s.view j c).handlers = [] := by
      show own j (s.loops c.ioLoop).handlers = []
      rw [loops, handled, own_nil]
    have functors : (s.view j c).conn.functors = [] := by
      show own j (s.loops c.ioLoop).functors = []
      rw [loops, ran, own_nil]
    have queued : (s.view j c).conn.pendingFunctors_ = own j (s.loops loop).pendingFunctors_ := by
      show own j (s.loops c.ioLoop).pendingFunctors_ ++ c.tcp.pendingFunctors_ = _
      rw [(tidy.settled j c there).1, List.append_nil, loops]
    simp only [Threads.step, alive, loopFree_view free there loops, polled', handlers, functors, queued,
      Bool.false_eq_true, if_false, List.isEmpty_nil, Bool.and_self, if_true]
    rw [view, surroundings_setLoop, if_pos loops]
    simp [Surroundings.around, TcpConnection.within, (tidy.settled j c there).1, view, surroundings,
      show c.tcp.aborted = false from alive]

/-- The server once a connection has its number, its name and its loop. -/
def accepted (s : TcpServer) : TcpServer :=
  let tcp := { Net.newConnection s.writeComplete s.highWater with pendingFunctors_ := [] }
  let c : Conn := { name := connName s.ipPort_ s.nextConnId_, ioLoop := s.threadPool_.getNextLoop.1, tcp }
  { s with
    threadPool_ := s.threadPool_.getNextLoop.2
    nextConnId_ := s.nextConnId_ + 1
    connections_ := s.connections_.insert c.name s.conns.length
    conns := s.conns ++ [c] }

theorem getNextLoop_numThreads (pool : EventLoopThreadPool) : pool.getNextLoop.2.numThreads_ = pool.numThreads_ := by
  unfold EventLoopThreadPool.getNextLoop
  split <;> rfl

theorem newConnection_eq (s : TcpServer) : s.newConnection =
    if s.single then s.accepted.onConn s.conns.length [] [.connectEstablished] (·.functor .again)
    else s.accepted.enqueue s.threadPool_.getNextLoop.1 [(s.conns.length, .connectEstablished)] := by
  have single : s.accepted.single = s.single := by
    show decide (s.threadPool_.getNextLoop.2.numThreads_ = 0) = _
    rw [getNextLoop_numThreads]
    rfl
  rw [← single]
  rfl

theorem accepted_cases (s : TcpServer) (j : Nat) (c : Conn) (there : s.accepted.conns[j]? = some c) :
    s.conns[j]? = some c ∨ j = s.conns.length ∧ s.conns[j]? = none ∧
      c = { name := connName s.ipPort_ s.nextConnId_, ioLoop := s.threadPool_.getNextLoop.1,
            tcp := { Net.newConnection s.writeComplete s.highWater with pendingFunctors_ := [] } } := by
  have stored : s.accepted.conns = s.conns ++ [_] := rfl
  rw [stored, List.getElem?_append] at there
  split at there
  · exact Or.inl there
  · rename_i outside
    obtain ⟨inside, same⟩ := List.getElem?_eq_some_iff.mp there
    have last : j - s.conns.length = 0 := by simpa using inside
    refine Or.inr ⟨by omega, List.getElem?_eq_none (by omega), ?_⟩
    rw [← same]
    simp [last]

theorem Tidy.accepted (tidy : Tidy s) (counts : s.nextConnId_ + 1 < 2 ^ 31) : Tidy s.accepted := by
  have kept : ∀ (j : Nat) (d : Conn), s.conns[j]? = some d → s.accepted.conns[j]? = some d := by
    intro j d there
    have inside := (List.getElem?_eq_some_iff.mp there).1
    rw [show s.accepted.conns = s.conns ++ [_] from rfl, List.getElem?_append_left inside, there]
  constructor
  · have length : s.accepted.conns.length = s.conns.length + 1 := by simp [TcpServer.accepted]
    rw [length, ← tidy.next]
    rfl
  · exact counts
  · intro j d there
    rcases s.accepted_cases j d there with old | ⟨rfl, _, rfl⟩
    · exact tidy.name j d old
    · show connName s.ipPort_ s.nextConnId_ = _
      rw [tidy.next]
      rfl
  · intro name j held
    by_cases same : name = connName s.ipPort_ s.nextConnId_
    · subst same
      have number : s.accepted.connections_.lookup (connName s.ipPort_ s.nextConnId_) = some s.conns.length :=
        AList.lookup_insert _
      obtain rfl := Option.some.inj (number.symm.trans held)
      exact ⟨_, List.getElem?_concat_length, rfl⟩
    · have old : s.connections_.lookup name = some j := by
        rw [← held]
        exact (AList.lookup_insert_ne same).symm
      obtain ⟨d, there, named⟩ := tidy.key name j old
      exact ⟨d, kept j d there, named⟩
  · intro j d there
    rcases s.accepted_cases j d there with old | ⟨_, _, rfl⟩
    · exact tidy.settled j d old
    · exact ⟨rfl, rfl⟩
  · intro loop j member
    obtain ⟨d, there, loops⟩ := tidy.known loop j member
    exact ⟨d, kept j d there, loops⟩
  · intro j member
    obtain ⟨d, there⟩ := tidy.waiting j member
    exact ⟨d, kept j d there⟩

theorem accepted_old (tidy : Tidy s) (counts : s.nextConnId_ + 1 < 2 ^ 31) {j : Nat} {d : Conn}
    (there : s.conns[j]? = some d) :
    s.accepted.conns[j]? = some d ∧ s.accepted.surroundings j d = s.surroundings j d := by
  have inside := (List.getElem?_eq_some_iff.mp there).1
  refine ⟨by rw [show s.accepted.conns = s.conns ++ [_] from rfl, List.getElem?_append_left inside, there], ?_⟩
  have different : d.name ≠ connName s.ipPort_ s.nextConnId_ := by
    rw [tidy.name j d there]
    intro same
    have next := tidy.next
    have numbers := connName_injective (by omega) (by omega) same
    omega
  simp only [surroundings, accepted, AList.lookup_insert_ne different]

/-- Nothing is known of a connection before it is accepted. -/
theorem accepted_new (tidy : Tidy s) {d : Conn} (there : s.accepted.conns[s.conns.length]? = some d) :
    s.accepted.surroundings s.conns.length d =
      { polled := (s.loops d.ioLoop).polled, handlers := [], functors := [], queued := [], removals := 0, listed := true } ∧
    d.ioLoop = s.threadPool_.getNextLoop.1 ∧ d.calls = [] ∧
    d.tcp = { Net.newConnection s.writeComplete s.highWater with pendingFunctors_ := [] } := by
  have nowhere : s.conns[s.conns.length]? = none := List.getElem?_eq_none (Nat.le_refl _)
  rcases s.accepted_cases _ d there with old | ⟨_, _, rfl⟩
  · rw [nowhere] at old
    cases old
  have absent : ∀ loop, s.conns.length ∉ (s.loops loop).about := by
    intro loop member
    obtain ⟨d, there, _⟩ := tidy.known loop _ member
    rw [nowhere] at there
    cases there
  have waits : s.conns.length ∉ s.removals := by
    intro member
    obtain ⟨d, there⟩ := tidy.waiting _ member
    rw [nowhere] at there
    cases there
  refine ⟨?_, rfl, rfl, rfl⟩
  have parts := absent s.threadPool_.getNextLoop.1
  simp only [Loop.about, List.mem_append, not_or] at parts
  simp only [surroundings, accepted, own_of_absent parts.1.1, own_of_absent parts.1.2, own_of_absent parts.2,
    List.count_eq_zero_of_not_mem waits, AList.lookup_insert, decide_true]

/-- A new connection, once its loop is in an iteration or not. -/
theorem new_steps (writeComplete : Bool) (highWater : Option Nat) (polled : Bool) :
    Net.Steps orderly (Threads.new writeComplete highWater)
      ({ polled, handlers := [], functors := [], queued := [.connectEstablished], removals := 0, listed := true :
          Surroundings }.around { conn := { Net.newConnection writeComplete highWater with pendingFunctors_ := [] } }) := by
  cases polled with
  | false => exact .refl _
  | true => exact .one (.poll {}) rfl fun _ => trivial

/-- In a server with one loop the connection is established at once. -/
theorem established_steps (writeComplete : Bool) (highWater : Option Nat) :
    Net.Steps orderly (Threads.new writeComplete highWater)
      ({ polled := true, handlers := [], functors := [], queued := [], removals := 0, listed := true : Surroundings }.around
        (({ conn := { Net.newConnection writeComplete highWater with
          functors := [.connectEstablished], pendingFunctors_ := [] } } : Threads).functor .again)) :=
  ⟨[.poll {}, .swap, .functor .again, .poll {}], rfl, fun _ => ⟨trivial, trivial, trivial, trivial, trivial⟩⟩

theorem newConnection_moves (tidy : Tidy s) (counts : s.nextConnId_ + 1 < 2 ^ 31)
    (polled : s.single = true → (s.loops 0).polled = true) : Moves s s.newConnection orderly := by
  have tidy₁ := tidy.accepted counts
  obtain ⟨d, there⟩ : ∃ d, s.accepted.conns[s.conns.length]? = some d := ⟨_, List.getElem?_concat_length⟩
  obtain ⟨around, loops, calls, tcp⟩ := accepted_new tidy there
  have settings : s.accepted.settings = s.settings := by
    simp only [TcpServer.settings, accepted, getNextLoop_numThreads]
  have old : ∀ (j : Nat) (c : Conn), s.conns[j]? = some c → j ≠ s.conns.length := by
    intro j c there'
    have inside := (List.getElem?_eq_some_iff.mp there').1
    omega
  have last : ∀ j : Nat, s.conns[j]? = none → j < s.conns.length + 1 → j = s.conns.length := by
    intro j none inside
    have outside := List.getElem?_eq_none_iff.mp none
    omega
  have length : s.accepted.conns.length = s.conns.length + 1 := by simp [accepted]
  rw [newConnection_eq]
  split
  · rename_i single
    have alive : d.tcp.aborted = false := by
      rw [tcp]
      rfl
    obtain ⟨alone, d', there', steps⟩ := onConn_steps orderly [] [.connectEstablished] tidy₁ there alive
      (fun t => Closes.functor t .again)
    refine ⟨alone.tidy, alone.settings.trans settings, fun j c before => ?_, fun j c before after => ?_⟩
    · obtain ⟨still, same⟩ := accepted_old tidy counts before
      obtain ⟨still', same'⟩ := alone.others j c (old j c before) still
      exact ⟨c, still', by rw [view_congr (same'.trans same)]; exact .refl _⟩
    · obtain rfl := last j before (by
        have inside := (List.getElem?_eq_some_iff.mp after).1
        have length' := alone.length
        omega)
      obtain rfl := Option.some.inj (there'.symm.trans after)
      have base : s.threadPool_.getNextLoop.1 = 0 := by
        unfold EventLoopThreadPool.getNextLoop
        rw [if_pos (of_decide_eq_true single)]
      rw [around, loops, base, polled single, calls, tcp] at steps
      exact .trans (established_steps s.writeComplete s.highWater) steps
  · refine ⟨tidy₁.enqueue ?_, settings, fun j c before => ?_, fun j c before after => ?_⟩
    · intro j member
      obtain rfl : j = s.conns.length := by simpa using member
      exact ⟨d, there, loops⟩
    · obtain ⟨still, same⟩ := accepted_old tidy counts before
      refine ⟨c, still, ?_⟩
      have unchanged : (s.accepted.enqueue s.threadPool_.getNextLoop.1
          [(s.conns.length, .connectEstablished)]).surroundings j c = s.surroundings j c := by
        rw [surroundings_enqueue, own_cons_ne j (Ne.symm (old j c before)), own_nil, ite_self, List.append_nil, same]
      rw [view_congr unchanged]
      exact .refl _
    · have inside := (List.getElem?_eq_some_iff.mp after).1
      obtain rfl := last j before (by rw [← length]; exact inside)
      obtain rfl := Option.some.inj (there.symm.trans after)
      rw [view, surroundings_enqueue, around, if_pos loops, own_cons_self, own_nil, List.nil_append, calls, tcp]
      exact new_steps s.writeComplete s.highWater _

theorem step_moves (tidy : Tidy s) {e : ServerEvent} (counts : s.Counts e) (orderly' : orderly → s.Orderly e) :
    Moves s (s.step e) orderly := by
  unfold step
  split
  · exact .refl tidy
  rename_i going
  have going : s.aborted = false := Bool.eq_false_iff.mpr going
  cases e with
  | newConnection =>
    dsimp only
    split
    · exact .refl tidy
    · rename_i ready
      refine newConnection_moves tidy counts fun single => ?_
      rw [single] at ready
      simp only [Bool.true_and, Bool.not_eq_true', Bool.not_eq_false, Bool.and_eq_true] at ready
      exact ready.1.2
  | call conn inLoop op =>
    dsimp only
    split
    · exact .refl tidy
    · rename_i c there
      split
      · exact .refl tidy
      · rename_i free
        exact call_moves tidy going there inLoop op (Bool.eq_false_iff.mpr free)
  | resume conn i result => exact resume_moves tidy going i result orderly'
  | poll loop active =>
    dsimp only
    split
    · rename_i ready
      simp only [Bool.and_eq_true, Bool.not_eq_true', List.isEmpty_iff] at ready
      obtain ⟨⟨⟨⟨free, idle⟩, handled⟩, ran⟩, may⟩ := ready
      exact poll_moves tidy going free idle handled ran may
    · exact .refl tidy
  | handle loop read write =>
    dsimp only
    split
    · exact .refl tidy
    · rename_i conn handler handlers waiting
      split
      · rename_i free
        exact handle_moves tidy going waiting free read write orderly'
      · exact .refl tidy
  | swap loop =>
    dsimp only
    split
    · rename_i ready
      simp only [Bool.and_eq_true, List.isEmpty_iff] at ready
      obtain ⟨⟨⟨free, polled⟩, handled⟩, ran⟩ := ready
      exact swap_moves tidy going free polled handled ran
    · exact .refl tidy
  | functor loop result =>
    dsimp only
    split
    · exact .refl tidy
    · rename_i conn f functors waiting
      split
      · rename_i ready
        simp only [Bool.and_eq_true, List.isEmpty_iff] at ready
        exact functor_moves tidy going waiting ready.1 ready.2 result
      · exact .refl tidy
  | mainLoop =>
    dsimp only
    split
    · exact .refl tidy
    · rename_i conn removals waiting
      exact mainLoop_moves tidy going waiting

end Step

end TcpServer
end IotGateway.Net
