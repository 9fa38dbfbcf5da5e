import IotGateway.Lib.Run
import Mathlib.Logic.Function.Basic
import Mathlib.Data.List.Basic

/-!
# Accepting connections until the descriptors run out

`Acceptor.cpp` with the table of descriptors of the process. `handleRead` goes from one
system call to the next, and the other threads open and close descriptors of their own in
between. `idleFd_` is kept in reserve: when no descriptor is left it is given up, so that a
waiting connection can be accepted and closed at once.
-/

namespace IotGateway.Net

/-- What an open descriptor is. -/
inductive Owner where
  /-- The `/dev/null` of the acceptor. -/
  | reserve
  /-- A connection that was accepted in order to close it. -/
  | refused
  /-- A connection that was handed over, or something else of the process. -/
  | other
  deriving DecidableEq

namespace Acceptor

/-- The next system call of `handleRead`. -/
inductive Pc where
  | waiting
  | accepting
  /-- There is no `newConnectionCallback_`. -/
  | dropping (connFd : Nat)
  | closingIdle
  | acceptingSpare
  | closingSpare
  | reopening
  deriving DecidableEq

inductive Accepted where
  | connection (fd : Nat)
  | emfile
  /-- `EAGAIN`, or any other error. -/
  | failed

end Acceptor

/-- `table` has the open descriptors of the process, of which there are at most `limit`; `backlog` is the queue of the
listening socket. An `idleFd_` of -1 is `none`. The fields behind `backlog` are read by the theorems only: `closes` is what
every `close` of the acceptor found, `starved` counts the second calls of `accept` that ran into EMFILE as well. -/
structure Acceptor where
  limit : Nat
  table : Nat → Option Owner
  newConnectionCallback_ : Bool
  idleFd_ : Option Nat := none
  pc : Acceptor.Pc := .waiting
  backlog : Nat := 0
  arrived : Nat := 0
  handed : Nat := 0
  refused : Nat := 0
  starved : Nat := 0
  closes : List (Option Owner) := []

namespace Acceptor

/-- The number that the kernel gives to a new descriptor. -/
def freeFd (a : Acceptor) : Option Nat := (List.range a.limit).find? fun fd => (a.table fd).isNone

def assign (a : Acceptor) (fd : Nat) (owner : Option Owner) : Acceptor := { a with table := Function.update a.table fd owner }

/-- `close` of a number, which fails for -1. -/
def close (a : Acceptor) : Option Nat → Acceptor
  | none => a
  | some fd => { a.assign fd none with closes := a.table fd :: a.closes }

/-- `Socket::accept`. The number comes before the connection: without one it is EMFILE. -/
def accept (a : Acceptor) (fails : Bool) : Accepted :=
  if fails then .failed
  else
    match a.freeFd with
    | none => .emfile
    | some fd => if a.backlog = 0 then .failed else .connection fd

/-- `open("/dev/null")` into `idleFd_`. -/
def openIdle (a : Acceptor) (fails : Bool) : Acceptor :=
  match if fails then none else a.freeFd with
  | none => { a with idleFd_ := none }
  | some fd => { a.assign fd (some .reserve) with idleFd_ := some fd }

/-- The constructor, in a process that has these descriptors open. -/
def new (limit : Nat) (opened : Nat → Bool) (newConnectionCallback_ : Bool) : Acceptor :=
  openIdle { limit, table := fun fd => if opened fd then some .other else none, newConnectionCallback_ } false

/-- `handleRead` from one system call to the next. -/
def next (a : Acceptor) (fails : Bool) : Acceptor :=
  match a.pc with
  | .waiting => a
  | .accepting =>
    match a.accept fails with
    | .connection connFd =>
      if a.newConnectionCallback_ then
        { a.assign connFd (some .other) with backlog := a.backlog - 1, handed := a.handed + 1, pc := .waiting }
      else
        { a.assign connFd (some .refused) with backlog := a.backlog - 1, refused := a.refused + 1, pc := .dropping connFd }
    | .emfile => { a with pc := .closingIdle }
    | .failed => { a with pc := .waiting }
  | .dropping connFd => { a.close (some connFd) with pc := .waiting }
  | .closingIdle => { a.close a.idleFd_ with pc := .acceptingSpare }
  | .acceptingSpare =>
    match a.accept fails with
    | .connection connFd =>
      { a.assign connFd (some .refused) with
        idleFd_ := some connFd, backlog := a.backlog - 1, refused := a.refused + 1, pc := .closingSpare }
    | .emfile => { a with idleFd_ := none, starved := a.starved + 1, pc := .closingSpare }
    | .failed => { a with idleFd_ := none, pc := .closingSpare }
  | .closingSpare => { a.close a.idleFd_ with pc := .reopening }
  | .reopening => { a.openIdle fails with pc := .waiting }

inductive Event where
  /-- A connection gets into the queue of the listening socket. -/
  | arrive
  /-- The loop calls `handleRead`. -/
  | handleRead
  /-- Its next system call, which may fail for another reason than those of the table. -/
  | next (fails : Bool)
  /-- Another thread opens a descriptor, if it can. -/
  | acquire
  /-- A connection or another part of the process closes a descriptor of its own. -/
  | release (fd : Nat)

def step (a : Acceptor) : Event → Acceptor
  | .arrive => { a with backlog := a.backlog + 1, arrived := a.arrived + 1 }
  | .handleRead => if a.pc = .waiting then { a with pc := .accepting } else a
  | .next fails => a.next fails
  | .acquire =>
    match a.freeFd with
    | none => a
    | some fd => a.assign fd (some .other)
  | .release fd => if a.table fd = some .other then a.assign fd none else a

theorem freeFd_some {a : Acceptor} {fd : Nat} (free : a.freeFd = some fd) : fd < a.limit ∧ a.table fd = none := by
  have below := List.mem_of_find?_eq_some free
  have empty := List.find?_some free
  exact ⟨List.mem_range.mp below, Option.isNone_iff_eq_none.mp empty⟩

theorem freeFd_ne_none {a : Acceptor} {fd : Nat} (below : fd < a.limit) (empty : a.table fd = none) : a.freeFd ≠ none := by
  intro full
  have taken := List.find?_eq_none.mp full fd (List.mem_range.mpr below)
  rw [empty] at taken
  exact taken rfl

/-- A call of `accept` brings a connection under a free number, or it runs into EMFILE, or it fails otherwise. -/
theorem accept_cases (a : Acceptor) (fails : Bool) :
    (∃ fd, a.freeFd = some fd ∧ 0 < a.backlog ∧ a.accept fails = .connection fd) ∨
      a.freeFd = none ∧ a.accept fails = .emfile ∨ a.accept fails = .failed := by
  unfold accept
  cases fails with
  | true => exact .inr (.inr rfl)
  | false =>
    cases free : a.freeFd with
    | none => exact .inr (.inl ⟨rfl, rfl⟩)
    | some fd =>
      by_cases waits : a.backlog = 0
      · exact .inr (.inr (if_pos waits))
      · exact .inl ⟨fd, rfl, Nat.pos_of_ne_zero waits, if_neg waits⟩

/-! ### Whose descriptors are closed -/

/-- These are the descriptors of the acceptor, as the table has them. -/
def Owned (table : Nat → Option Owner) (own : List (Nat × Owner)) : Prop :=
  ∀ fd o, (fd, o) ∈ own ↔ table fd = some o ∧ o ≠ .other

namespace Owned

variable {table : Nat → Option Owner} {own : List (Nat × Owner)} {fd : Nat}

theorem assign {o : Owner} (owned : Owned table own) (free : table fd = none) (mine : o ≠ .other) :
    Owned (Function.update table fd (some o)) ((fd, o) :: own) := by
  intro fd' o'
  by_cases same : fd' = fd
  · subst same
    have fresh : (fd', o') ∉ own := fun member => by cases free.symm.trans ((owned fd' o').mp member).1
    rw [Function.update_self, List.mem_cons, or_iff_left fresh, Prod.mk.injEq, Option.some.injEq]
    constructor
    · intro ⟨_, same⟩
      exact ⟨same.symm, same ▸ mine⟩
    · intro ⟨same, _⟩
      exact ⟨rfl, same.symm⟩
  · have elsewhere : (fd', o') ≠ (fd, o) := fun equal => same (congrArg Prod.fst equal)
    rw [Function.update_of_ne same, List.mem_cons, or_iff_right elsewhere]
    exact owned fd' o'

/-- What the rest of the process does with numbers that are free or its own. -/
theorem elsewhere {o : Option Owner} (owned : Owned table own) (foreign : table fd = none ∨ table fd = some .other)
    (stays : o = none ∨ o = some .other) : Owned (Function.update table fd o) own := by
  intro fd' o'
  by_cases same : fd' = fd
  · subst same
    have before : (fd', o') ∉ own := by
      intro member
      obtain ⟨here, mine⟩ := (owned fd' o').mp member
      rcases foreign with free | other
      · cases free.symm.trans here
      · exact mine (Option.some.inj (here.symm.trans other))
    rw [Function.update_self]
    refine iff_of_false before fun ⟨here, mine⟩ => ?_
    rcases stays with rfl | rfl
    · cases here
    · exact mine (Option.some.inj here).symm
  · rw [Function.update_of_ne same]
    exact owned fd' o'

theorem close {o : Owner} (owned : Owned table ((fd, o) :: own)) (once : (fd, o) ∉ own) :
    Owned (Function.update table fd none) own := by
  obtain ⟨here, mine⟩ := (owned fd o).mp List.mem_cons_self
  intro fd' o'
  by_cases same : fd' = fd
  · subst same
    rw [Function.update_self]
    refine iff_of_false (fun member => once ?_) fun gone => by cases gone.1
    have also := ((owned fd' o').mp (List.mem_cons_of_mem _ member)).1
    cases here.symm.trans also
    exact member
  · have elsewhere : (fd', o') ≠ (fd, o) := fun equal => same (congrArg Prod.fst equal)
    rw [Function.update_of_ne same, ← owned fd' o', List.mem_cons, or_iff_right elsewhere]

end Owned

/-- The descriptors that the acceptor has open, by where `handleRead` stands. Between two calls `idleFd_` may be the
number of a descriptor that it has closed. -/
def own (a : Acceptor) : List (Nat × Owner) :=
  match a.pc with
  | .waiting | .accepting | .closingIdle => a.idleFd_.toList.map (·, .reserve)
  | .dropping connFd => (connFd, .refused) :: a.idleFd_.toList.map (·, .reserve)
  | .closingSpare => a.idleFd_.toList.map (·, .refused)
  | .acceptingSpare | .reopening => []

/-- What `close` found is a descriptor of the acceptor. -/
def OfAcceptor (found : Option Owner) : Prop := found = some .reserve ∨ found = some .refused

structure Careful (a : Acceptor) : Prop where
  owned : Owned a.table a.own
  closes : ∀ found ∈ a.closes, OfAcceptor found
  counted : a.arrived = a.backlog + a.handed + a.refused

namespace Careful

variable {a : Acceptor}

/-- `close(idleFd_)`, where `idleFd_` is all that the acceptor has open. -/
theorem close_idle {o : Owner} (careful : Careful a) (mine : OfAcceptor (some o)) (spare : a.own = a.idleFd_.toList.map (·, o)) :
    Owned (a.close a.idleFd_).table [] ∧ ∀ found ∈ (a.close a.idleFd_).closes, OfAcceptor found := by
  have owned := careful.owned
  rw [spare] at owned
  cases idle : a.idleFd_ with
  | none =>
    rw [idle] at owned
    exact ⟨owned, careful.closes⟩
  | some fd =>
    rw [idle] at owned
    refine ⟨owned.close List.not_mem_nil, List.forall_mem_cons.mpr ⟨?_, careful.closes⟩⟩
    have here := ((owned fd o).mp List.mem_cons_self).1
    rw [here]
    exact mine

theorem openIdle (owned : Owned a.table []) (closes : ∀ found ∈ a.closes, OfAcceptor found)
    (counted : a.arrived = a.backlog + a.handed + a.refused) (fails : Bool) :
    Careful { a.openIdle fails with pc := .waiting } := by
  unfold Acceptor.openIdle
  split
  · exact ⟨owned, closes, counted⟩
  · rename_i fd found
    have free : a.freeFd = some fd := by
      cases fails with
      | true => cases found
      | false => exact found
    exact ⟨owned.assign (freeFd_some free).2 (fun same => by cases same), closes, counted⟩

theorem next (careful : Careful a) (fails : Bool) : Careful (a.next fails) := by
  have owned := careful.owned
  have counted := careful.counted
  unfold own at owned
  cases here : a.pc with
  | waiting =>
    rw [show a.next fails = a by simp only [Acceptor.next, here]]
    exact careful
  | accepting =>
    rw [here] at owned
    simp only [Acceptor.next, here]
    rcases a.accept_cases fails with ⟨fd, free, waits, got⟩ | ⟨-, got⟩ | got
    · have empty := (freeFd_some free).2
      rw [got]
      dsimp only
      split
      · refine ⟨owned.elsewhere (.inl empty) (.inr rfl), careful.closes, ?_⟩
        show a.arrived = a.backlog - 1 + (a.handed + 1) + a.refused
        omega
      · refine ⟨owned.assign empty (fun same => by cases same), careful.closes, ?_⟩
        show a.arrived = a.backlog - 1 + a.handed + (a.refused + 1)
        omega
    · rw [got]
      exact ⟨owned, careful.closes, counted⟩
    · rw [got]
      exact ⟨owned, careful.closes, counted⟩
  | dropping connFd =>
    rw [here] at owned
    simp only [Acceptor.next, here]
    have distinct : (connFd, Owner.refused) ∉ a.idleFd_.toList.map (·, Owner.reserve) := by
      intro member
      obtain ⟨fd, -, same⟩ := List.mem_map.mp member
      cases same
    refine ⟨owned.close distinct, List.forall_mem_cons.mpr ⟨.inr ?_, careful.closes⟩, counted⟩
    exact ((owned connFd .refused).mp List.mem_cons_self).1
  | closingIdle =>
    obtain ⟨gone, closes⟩ := careful.close_idle (.inl rfl) (by rw [own, here])
    simp only [Acceptor.next, here]
    refine ⟨gone, closes, ?_⟩
    cases a.idleFd_ <;> exact counted
  | acceptingSpare =>
    rw [here] at owned
    simp only [Acceptor.next, here]
    rcases a.accept_cases fails with ⟨fd, free, waits, got⟩ | ⟨-, got⟩ | got
    · rw [got]
      refine ⟨owned.assign (freeFd_some free).2 (fun same => by cases same), careful.closes, ?_⟩
      show a.arrived = a.backlog - 1 + a.handed + (a.refused + 1)
      omega
    · rw [got]
      exact ⟨owned, careful.closes, counted⟩
    · rw [got]
      exact ⟨owned, careful.closes, counted⟩
  | closingSpare =>
    obtain ⟨gone, closes⟩ := careful.close_idle (.inr rfl) (by rw [own, here])
    simp only [Acceptor.next, here]
    refine ⟨gone, closes, ?_⟩
    cases a.idleFd_ <;> exact counted
  | reopening =>
    simp only [Acceptor.next, here]
    rw [here] at owned
    exact openIdle owned careful.closes counted fails

theorem step (careful : Careful a) (e : Event) : Careful (a.step e) := by
  cases e with
  | arrive =>
    refine ⟨careful.owned, careful.closes, ?_⟩
    have counted := careful.counted
    show a.arrived + 1 = a.backlog + 1 + a.handed + a.refused
    omega
  | handleRead =>
    rw [Acceptor.step]
    split
    · rename_i waiting
      have owned := careful.owned
      rw [own, waiting] at owned
      exact ⟨owned, careful.closes, careful.counted⟩
    · exact careful
  | next fails => exact careful.next fails
  | acquire =>
    rw [Acceptor.step]
    split
    · exact careful
    · rename_i fd free
      exact ⟨careful.owned.elsewhere (.inl (freeFd_some free).2) (.inr rfl), careful.closes, careful.counted⟩
  | release fd =>
    rw [Acceptor.step]
    split
    · rename_i other
      exact ⟨careful.owned.elsewhere (.inr other) (.inl rfl), careful.closes, careful.counted⟩
    · exact careful

theorem new (limit : Nat) (opened : Nat → Bool) (callback : Bool) : Careful (Acceptor.new limit opened callback) := by
  have rest : Acceptor.new limit opened callback = { Acceptor.new limit opened callback with pc := .waiting } := by
    unfold Acceptor.new Acceptor.openIdle
    split <;> rfl
  rw [rest]
  refine openIdle ?_ (List.forall_mem_nil _) rfl false
  intro fd o
  refine iff_of_false List.not_mem_nil fun ⟨here, mine⟩ => ?_
  dsimp only at here
  split at here
  · exact mine (Option.some.inj here).symm
  · cases here

theorem run (careful : Careful a) (events : List Event) : Careful (IotGateway.run Acceptor.step a events) := by
  induction events generalizing a with
  | nil => exact careful
  | cons e events ih => exact ih (careful.step e)

end Careful

/-- In every run, whatever other threads open and close between the system calls of the acceptor: every descriptor that it
closes is one that it has open, every connection that arrived waits, was handed over or was taken to be closed, and outside
of `handleRead` the acceptor has nothing open but `idleFd_`. -/
theorem closes_its_own (limit : Nat) (opened : Nat → Bool) (callback : Bool) (events : List Event) :
    let a := run step (new limit opened callback) events
    (∀ found ∈ a.closes, OfAcceptor found) ∧ a.arrived = a.backlog + a.handed + a.refused ∧
      (a.pc = .waiting → ∀ fd, a.table fd ≠ some .refused ∧ (a.table fd = some .reserve ↔ a.idleFd_ = some fd)) := by
  intro a
  have careful : Careful a := (Careful.new limit opened callback).run events
  refine ⟨careful.closes, careful.counted, fun waiting fd => ?_⟩
  have owned := careful.owned
  rw [own, waiting] at owned
  have mine : ∀ o, (fd, o) ∈ a.idleFd_.toList.map (·, Owner.reserve) ↔ a.idleFd_ = some fd ∧ o = .reserve := by
    intro o
    cases a.idleFd_ <;> simp [eq_comm]
  constructor
  · intro refused
    obtain ⟨-, same⟩ := (mine .refused).mp ((owned fd .refused).mpr ⟨refused, fun same => by cases same⟩)
    cases same
  · constructor
    · intro reserve
      exact ((mine .reserve).mp ((owned fd .reserve).mpr ⟨reserve, fun same => by cases same⟩)).1
    · intro idle
      exact ((owned fd .reserve).mp ((mine .reserve).mpr ⟨idle, rfl⟩)).1

/-! ### The reserve -/

def Room (a : Acceptor) : Prop := ∃ fd < a.limit, a.table fd = none

theorem freeFd_of_room {a : Acceptor} (room : a.Room) : ∃ fd, a.freeFd = some fd := by
  obtain ⟨fd, below, empty⟩ := room
  exact Option.ne_none_iff_exists'.mp (freeFd_ne_none below empty)

/-- No other thread opens a descriptor while the acceptor has none, and `/dev/null` can be opened under a free number. -/
def Undisturbed (a : Acceptor) : Event → Prop
  | .acquire => a.own ≠ []
  | .next fails => a.pc = .reopening → fails = false
  | .arrive | .handleRead | .release _ => True

instance (a : Acceptor) : ∀ e, Decidable (a.Undisturbed e)
  | .acquire => inferInstanceAs (Decidable (a.own ≠ []))
  | .next fails => inferInstanceAs (Decidable (a.pc = .reopening → fails = false))
  | .arrive | .handleRead | .release _ => isTrue trivial

/-- Where `idleFd_` is the reserve. -/
def Pc.keepsIdle : Pc → Bool
  | .waiting | .accepting | .dropping _ | .closingIdle => true
  | .acceptingSpare | .closingSpare | .reopening => false

/-- There is a number that the acceptor has, or one that it can have. -/
structure Provided (a : Acceptor) : Prop where
  below : ∀ entry ∈ a.own, entry.1 < a.limit
  room : a.own = [] → a.Room
  reserved : a.pc.keepsIdle = true → ∃ fd, a.idleFd_ = some fd
  fed : a.starved = 0

namespace Provided

variable {a : Acceptor}

/-- `close(idleFd_)`, where `idleFd_` is all that the acceptor has open. -/
theorem close_idle {o : Owner} (provided : Provided a) (spare : a.own = a.idleFd_.toList.map (·, o)) :
    (a.close a.idleFd_).Room := by
  have below := provided.below
  have room := provided.room
  rw [spare] at below room
  cases idle : a.idleFd_ with
  | none => exact room (by rw [idle]; rfl)
  | some fd =>
    rw [idle] at below
    exact ⟨fd, below (fd, o) List.mem_cons_self, Function.update_self ..⟩

theorem next (provided : Provided a) {fails : Bool} (calm : a.Undisturbed (.next fails)) : Provided (a.next fails) := by
  have below := provided.below
  have room := provided.room
  have reserved := provided.reserved
  have fed := provided.fed
  unfold own at below room
  cases here : a.pc with
  | waiting =>
    rw [show a.next fails = a by simp only [Acceptor.next, here]]
    exact provided
  | accepting =>
    rw [here] at below reserved
    obtain ⟨idle, there⟩ := reserved rfl
    have something : a.idleFd_.toList.map (·, Owner.reserve) ≠ [] := by
      rw [there]
      exact List.cons_ne_nil _ _
    simp only [Acceptor.next, here]
    rcases a.accept_cases fails with ⟨fd, free, waits, got⟩ | ⟨-, got⟩ | got
    · rw [got]
      dsimp only
      split
      · exact ⟨below, fun nothing => absurd nothing something, fun _ => ⟨idle, there⟩, fed⟩
      · refine ⟨List.forall_mem_cons.mpr ⟨(freeFd_some free).1, below⟩, ?_, fun _ => ⟨idle, there⟩, fed⟩
        exact fun nothing => absurd nothing (List.cons_ne_nil _ _)
    · rw [got]
      exact ⟨below, fun nothing => absurd nothing something, fun _ => ⟨idle, there⟩, fed⟩
    · rw [got]
      exact ⟨below, fun nothing => absurd nothing something, fun _ => ⟨idle, there⟩, fed⟩
  | dropping connFd =>
    rw [here] at below reserved
    obtain ⟨idle, there⟩ := reserved rfl
    simp only [Acceptor.next, here]
    refine ⟨(List.forall_mem_cons.mp below).2, fun nothing => ?_, fun _ => ⟨idle, there⟩, fed⟩
    rw [own] at nothing
    dsimp only [close, Acceptor.assign] at nothing
    rw [there] at nothing
    cases nothing
  | closingIdle =>
    have room := provided.close_idle (by rw [own, here])
    simp only [Acceptor.next, here]
    refine ⟨List.forall_mem_nil _, fun _ => room, fun keeps => (by cases keeps), ?_⟩
    cases a.idleFd_ <;> exact fed
  | acceptingSpare =>
    rw [here] at room
    obtain ⟨free, found⟩ := freeFd_of_room (room rfl)
    simp only [Acceptor.next, here]
    rcases a.accept_cases fails with ⟨fd, free, waits, got⟩ | ⟨full, got⟩ | got
    · rw [got]
      refine ⟨List.forall_mem_cons.mpr ⟨(freeFd_some free).1, List.forall_mem_nil _⟩, ?_, fun keeps => (by cases keeps), fed⟩
      exact fun nothing => absurd nothing (List.cons_ne_nil _ _)
    · cases full.symm.trans found
    · rw [got]
      exact ⟨List.forall_mem_nil _, fun _ => room rfl, fun keeps => (by cases keeps), fed⟩
  | closingSpare =>
    have room := provided.close_idle (by rw [own, here])
    simp only [Acceptor.next, here]
    refine ⟨List.forall_mem_nil _, fun _ => room, fun keeps => (by cases keeps), ?_⟩
    cases a.idleFd_ <;> exact fed
  | reopening =>
    rw [here] at room
    obtain ⟨fd, found⟩ := freeFd_of_room (room rfl)
    have opens : fails = false := calm here
    subst opens
    simp only [Acceptor.next, here, Acceptor.openIdle, Bool.false_eq_true, if_false, found]
    refine ⟨List.forall_mem_cons.mpr ⟨(freeFd_some found).1, List.forall_mem_nil _⟩, ?_, fun _ => ⟨fd, rfl⟩, fed⟩
    exact fun nothing => absurd nothing (List.cons_ne_nil _ _)

theorem step (provided : Provided a) {e : Event} (calm : a.Undisturbed e) : Provided (a.step e) := by
  cases e with
  | arrive => exact ⟨provided.below, provided.room, provided.reserved, provided.fed⟩
  | handleRead =>
    rw [Acceptor.step]
    split
    · rename_i waiting
      have below := provided.below
      have room := provided.room
      have reserved := provided.reserved
      rw [own, waiting] at below room
      rw [waiting] at reserved
      exact ⟨below, room, reserved, provided.fed⟩
    · exact provided
  | next fails => exact provided.next calm
  | acquire =>
    rw [Acceptor.step]
    split
    · exact provided
    · exact ⟨provided.below, fun nothing => absurd nothing calm, provided.reserved, provided.fed⟩
  | release fd =>
    rw [Acceptor.step]
    split
    · refine ⟨provided.below, fun nothing => ?_, provided.reserved, provided.fed⟩
      obtain ⟨free, below, empty⟩ := provided.room nothing
      refine ⟨free, below, ?_⟩
      show Function.update a.table fd none free = none
      by_cases same : free = fd
      · rw [same, Function.update_self]
      · rw [Function.update_of_ne same, empty]
    · exact provided

theorem new {limit : Nat} {opened : Nat → Bool} (room : ∃ fd < limit, opened fd = false) (callback : Bool) :
    Provided (Acceptor.new limit opened callback) := by
  obtain ⟨fd, below, closed⟩ := room
  let before : Acceptor :=
    { limit, table := fun fd => if opened fd then some .other else none, newConnectionCallback_ := callback }
  have empty : before.table fd = none := if_neg (by rw [closed]; exact Bool.false_ne_true)
  obtain ⟨idle, found⟩ := freeFd_of_room (a := before) ⟨fd, below, empty⟩
  have made : Acceptor.new limit opened callback = { before.assign idle (some .reserve) with idleFd_ := some idle } := by
    show before.openIdle false = _
    simp only [Acceptor.openIdle, Bool.false_eq_true, if_false, found]
  rw [made]
  refine ⟨List.forall_mem_cons.mpr ⟨(freeFd_some found).1, List.forall_mem_nil _⟩, ?_, fun _ => ⟨idle, rfl⟩, rfl⟩
  exact fun nothing => absurd nothing (List.cons_ne_nil _ _)

end Provided

/-- As long as no other thread opens a descriptor while the acceptor has none: whenever `handleRead` is done `idleFd_` is
open again, and once it is given up a connection that waits can be accepted, so that no round ends with EMFILE twice. -/
theorem reserve_kept {limit : Nat} {opened : Nat → Bool} (room : ∃ fd < limit, opened fd = false) (callback : Bool)
    {events : List Event} (calm : Meets step Undisturbed (new limit opened callback) events) :
    let a := run step (new limit opened callback) events
    (a.pc = .waiting → ∃ fd, a.idleFd_ = some fd ∧ a.table fd = some .reserve) ∧
      (a.pc = .acceptingSpare → 0 < a.backlog → ∃ fd, a.accept false = .connection fd) ∧ a.starved = 0 := by
  intro a
  have provided : Provided a :=
    run_invariant step (Provided.new room callback) (fun _ _ provided calm => provided.step calm) calm
  have owned := ((Careful.new limit opened callback).run events).owned
  refine ⟨fun waiting => ?_, fun spare waits => ?_, provided.fed⟩
  · obtain ⟨fd, idle⟩ := provided.reserved (by rw [waiting]; rfl)
    refine ⟨fd, idle, ((owned fd .reserve).mp ?_).1⟩
    show (fd, Owner.reserve) ∈ a.own
    rw [own, waiting]
    exact List.mem_map.mpr ⟨fd, Option.mem_toList.mpr idle, rfl⟩
  · obtain ⟨fd, free⟩ := freeFd_of_room (provided.room (by rw [own, spare]))
    have waiting : a.backlog ≠ 0 := Nat.pos_iff_ne_zero.mp waits
    refine ⟨fd, ?_⟩
    simp only [accept, Bool.false_eq_true, if_false, free, waiting]

/-- Three of four descriptors are open before the acceptor takes the last one. -/
def lastOne (fd : Nat) : Bool := fd < 3

/-- A round of `handleRead` that finds the table full. -/
def refuseOne : List Event := .handleRead :: List.replicate 5 (.next false)

theorem reserve_kept_lastOne :
    let a := run step (new 4 lastOne true) (.arrive :: .release 2 :: .acquire :: refuseOne)
    (∃ fd, a.idleFd_ = some fd ∧ a.table fd = some .reserve) ∧ a.refused = 1 := by
  have calm : Meets step Undisturbed (new 4 lastOne true) (.arrive :: .release 2 :: .acquire :: refuseOne) := by decide
  exact ⟨(reserve_kept ⟨3, by decide, rfl⟩ true calm).1 (by decide), by decide⟩

/-! ### Without the reserve -/

/-- Since `before` the table is full and `idleFd_` is -1, and no connection was accepted. -/
structure Stalled (before a : Acceptor) : Prop where
  full : a.freeFd = none
  bare : a.idleFd_ = none
  empty : ∀ connFd, a.pc ≠ .dropping connFd
  handed : a.handed = before.handed
  refused : a.refused = before.refused
  waiting : a.backlog + before.arrived = before.backlog + a.arrived

namespace Stalled

variable {before a : Acceptor}

theorem stays (stalled : Stalled before a) {pc : Pc} (empty : ∀ connFd, pc ≠ .dropping connFd) :
    Stalled before { a with pc } :=
  ⟨stalled.full, stalled.bare, empty, stalled.handed, stalled.refused, stalled.waiting⟩

theorem moved (stalled : Stalled before a) {pc : Pc} (empty : ∀ connFd, pc ≠ .dropping connFd) (starved : Nat) :
    Stalled before { a with idleFd_ := none, starved, pc } :=
  ⟨stalled.full, rfl, empty, stalled.handed, stalled.refused, stalled.waiting⟩

theorem next (stalled : Stalled before a) (fails : Bool) : Stalled before (a.next fails) := by
  have full := stalled.full
  have bare := stalled.bare
  cases here : a.pc with
  | waiting =>
    rw [show a.next fails = a by simp only [Acceptor.next, here]]
    exact stalled
  | accepting =>
    simp only [Acceptor.next, here]
    rcases a.accept_cases fails with ⟨fd, free, -⟩ | ⟨-, got⟩ | got
    · cases full.symm.trans free
    · rw [got]
      exact stalled.stays (fun _ equal => by cases equal)
    · rw [got]
      exact stalled.stays (fun _ equal => by cases equal)
  | dropping connFd => exact absurd here (stalled.empty connFd)
  | closingIdle =>
    simp only [Acceptor.next, here, bare, close]
    exact stalled.moved (fun _ equal => by cases equal) _
  | acceptingSpare =>
    simp only [Acceptor.next, here]
    rcases a.accept_cases fails with ⟨fd, free, -⟩ | ⟨-, got⟩ | got
    · cases full.symm.trans free
    · rw [got]
      exact stalled.moved (fun _ equal => by cases equal) _
    · rw [got]
      exact stalled.moved (fun _ equal => by cases equal) _
  | closingSpare =>
    simp only [Acceptor.next, here, bare, close]
    exact stalled.moved (fun _ equal => by cases equal) _
  | reopening =>
    simp only [Acceptor.next, here, openIdle, full, ite_self]
    exact stalled.moved (fun _ equal => by cases equal) _

theorem step (stalled : Stalled before a) {e : Event} (kept : ∀ fd, e ≠ .release fd) : Stalled before (a.step e) := by
  cases e with
  | arrive =>
    refine ⟨stalled.full, stalled.bare, stalled.empty, stalled.handed, stalled.refused, ?_⟩
    have waiting := stalled.waiting
    show a.backlog + 1 + before.arrived = before.backlog + (a.arrived + 1)
    omega
  | handleRead =>
    rw [Acceptor.step]
    split
    · exact stalled.stays (fun _ equal => by cases equal)
    · exact stalled
  | next fails => exact stalled.next fails
  | acquire =>
    rw [Acceptor.step, stalled.full]
    exact stalled
  | release fd => exact absurd rfl (kept fd)

end Stalled

/-- Once the reserve is lost and the table is full: until a descriptor is closed somewhere else, no connection is accepted,
neither to be handed over nor to be closed, and everything that arrives goes on waiting. -/
theorem stalled_without_reserve {a : Acceptor} (waiting : a.pc = .waiting) (full : a.freeFd = none)
    (bare : a.idleFd_ = none) {events : List Event} (kept : ∀ fd, Event.release fd ∉ events) :
    let later := run step a events
    later.idleFd_ = none ∧ later.handed = a.handed ∧ later.refused = a.refused ∧
      later.backlog + a.arrived = a.backlog + later.arrived := by
  intro later
  have start : Stalled a a := ⟨full, bare, fun _ => by rw [waiting]; exact fun equal => (by cases equal), rfl, rfl, rfl⟩
  have calm : Meets step (fun _ e => ∀ fd, e ≠ .release fd) a events := by
    apply Meets.of_events
    intro e member _ fd equal
    rw [equal] at member
    exact kept fd member
  have stalled := run_invariant step start (fun _ _ stalled kept => stalled.step kept) calm
  exact ⟨stalled.bare, stalled.handed, stalled.refused, stalled.waiting⟩

/-- Another thread takes the number of the reserve before the second `accept`. -/
def loseReserve : List Event :=
  [.arrive, .handleRead, .next false, .next false, .acquire, .next false, .next false, .next false]

theorem stalled_without_reserve_taken :
    let lost := run step (new 4 lastOne true) loseReserve
    let later := run step lost (.arrive :: refuseOne)
    later.idleFd_ = none ∧ later.handed = 0 ∧ later.refused = 0 ∧ later.backlog = 2 := by
  intro lost later
  have kept : ∀ fd, Event.release fd ∉ .arrive :: refuseOne := by
    intro fd
    simp [refuseOne]
  obtain ⟨bare, handed, refused, waiting⟩ := stalled_without_reserve (a := lost) (by decide) (by decide) (by decide) kept
  refine ⟨bare, handed.trans (by decide), refused.trans (by decide), ?_⟩
  have counts : lost.arrived = 1 ∧ lost.backlog = 1 ∧ later.arrived = 2 := by decide
  have balance : later.backlog + lost.arrived = lost.backlog + later.arrived := waiting
  omega

end Acceptor
end IotGateway.Net
