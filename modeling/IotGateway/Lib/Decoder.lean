import Mathlib.Data.List.Basic

/-!
# Decoders fed in pieces

A decoder looks at the unread input and either waits, emits events and drops the
input it used, or fails. `drain` repeats it as a receive loop does. When a verdict
on some input stays the same after more input arrives, feeding a stream in pieces
gives what feeding it whole gives, up to the first failure (`feedAll_drain`).
-/

namespace IotGateway

inductive Outcome (α ε : Type) where
  | incomplete
  | emit (events : List ε) (rest : List α)
  | fail (rest : List α)

/-- A decoder whose verdicts are final: more input only extends what is left over. -/
structure Decoder (α ε : Type) where
  next : List α → Outcome α ε
  emit_shorter : ∀ {s rest es}, next s = .emit es rest → rest.length < s.length
  emit_append : ∀ {s rest es} (t : List α), next s = .emit es rest → next (s ++ t) = .emit es (rest ++ t)
  fail_append : ∀ {s rest} (t : List α), next s = .fail rest → next (s ++ t) = .fail (rest ++ t)

inductive Item (ε : Type) where
  | event (e : ε)
  | failure
  deriving DecidableEq

/-- The items up to and including the first failure. -/
def upToFailure {ε : Type} : List (Item ε) → List (Item ε)
  | [] => []
  | .failure :: _ => [.failure]
  | .event e :: items => .event e :: upToFailure items

theorem upToFailure_append_failed {ε : Type} {a b : List (Item ε)} (failed : Item.failure ∈ a) :
    upToFailure (a ++ b) = upToFailure a := by
  induction a with
  | nil => simp at failed
  | cons item a ih =>
    cases item with
    | failure => rfl
    | event e => rw [List.cons_append, upToFailure, upToFailure, ih (by simpa using failed)]

namespace Decoder

variable {α ε : Type} (d : Decoder α ε)

def drainFuel : Nat → List α → List (Item ε) × List α
  | 0, s => ([], s)
  | fuel + 1, s =>
    match d.next s with
    | .incomplete => ([], s)
    | .emit es rest =>
      let (items, left) := drainFuel fuel rest
      (es.map .event ++ items, left)
    | .fail rest => ([.failure], rest)

/-- The receive loop: decode until the decoder waits or fails. -/
def drain (s : List α) : List (Item ε) × List α := d.drainFuel (s.length + 1) s

theorem drainFuel_eq (fuel : Nat) (s : List α) (enough : s.length < fuel) : d.drainFuel fuel s = d.drain s := by
  induction fuel using Nat.strongRecOn generalizing s with
  | ind fuel ih =>
    obtain ⟨fuel, rfl⟩ : ∃ n, fuel = n + 1 := ⟨fuel - 1, by omega⟩
    rw [drain, drainFuel, drainFuel]
    cases verdict : d.next s with
    | incomplete => rfl
    | fail rest => rfl
    | emit es rest =>
      have shorter := d.emit_shorter verdict
      have left := ih fuel (by omega) rest (by omega)
      by_cases same : s.length = fuel
      · rw [same]
      · have right := ih s.length (by omega) rest shorter
        simp only [left, right]

theorem drain_incomplete {s : List α} (verdict : d.next s = .incomplete) : d.drain s = ([], s) := by
  rw [drain, drainFuel, verdict]

theorem drain_fail {s rest : List α} (verdict : d.next s = .fail rest) : d.drain s = ([.failure], rest) := by
  rw [drain, drainFuel, verdict]

theorem drain_emit {s rest : List α} {es : List ε} (verdict : d.next s = .emit es rest) :
    d.drain s = (es.map .event ++ (d.drain rest).1, (d.drain rest).2) := by
  rw [drain, drainFuel, verdict]
  simp only [d.drainFuel_eq s.length rest (d.emit_shorter verdict)]

/-- Draining a longer input continues from where draining the shorter one stopped. -/
theorem drain_append (s t : List α) :
    (Item.failure ∈ (d.drain s).1 → (d.drain (s ++ t)).1 = (d.drain s).1) ∧
    (Item.failure ∉ (d.drain s).1 → d.drain (s ++ t) =
      ((d.drain s).1 ++ (d.drain ((d.drain s).2 ++ t)).1, (d.drain ((d.drain s).2 ++ t)).2)) := by
  induction size : s.length using Nat.strongRecOn generalizing s with
  | ind size ih =>
    cases verdict : d.next s with
    | incomplete => simp [d.drain_incomplete verdict]
    | fail rest => simp [d.drain_fail verdict, d.drain_fail (d.fail_append t verdict)]
    | emit es rest =>
      have tail := ih rest.length (size ▸ d.emit_shorter verdict) rest rfl
      rw [d.drain_emit verdict, d.drain_emit (d.emit_append t verdict)]
      have plain : Item.failure ∈ es.map Item.event ++ (d.drain rest).1 ↔ Item.failure ∈ (d.drain rest).1 := by
        simp
      rw [plain]
      refine ⟨fun failed => ?_, fun clean => ?_⟩
      · rw [tail.1 failed]
      · rw [tail.2 clean]
        simp

/-- Whatever follows the message, it is read off with these events. -/
def Reads (message : List α) (events : List ε) : Prop := ∀ t, d.next (message ++ t) = .emit events t

variable {d}

theorem Reads.incomplete {message p : List α} {events : List ε} (reads : d.Reads message events) (early : p <+: message)
    (cut : p ≠ message) : d.next p = .incomplete := by
  obtain ⟨t, rfl⟩ := early
  have more : t ≠ [] := fun none => cut (by rw [none, List.append_nil])
  have whole := reads []
  rw [List.append_nil] at whole
  cases verdict : d.next p with
  | incomplete => rfl
  | emit es rest =>
    rw [d.emit_append t verdict] at whole
    injection whole with _ nothing
    exact absurd (List.append_eq_nil_iff.mp nothing).2 more
  | fail rest =>
    rw [d.fail_append t verdict] at whole
    cases whole

theorem Reads.drain {message : List α} {events : List ε} (reads : d.Reads message events) (t : List α) :
    d.drain (message ++ t) = (events.map .event ++ (d.drain t).1, (d.drain t).2) := d.drain_emit (reads t)

/-- The beginning of a stream of messages is cut into the first of them, and what is left over is no message yet. -/
theorem drain_prefix {κ : Type} {message : κ → List α} {events : κ → List ε} {said : List κ}
    (reads : ∀ m ∈ said, d.Reads (message m) (events m)) (waits : d.next [] = .incomplete) {p : List α}
    (early : p <+: (said.map message).flatten) :
    ∃ seen left, seen <+: said ∧ d.drain p = ((seen.flatMap events).map .event, left) ∧
      (p = (said.map message).flatten → seen = said) := by
  induction said generalizing p with
  | nil =>
    rw [List.map_nil, List.flatten_nil, List.prefix_nil] at early
    rw [early]
    exact ⟨[], [], List.prefix_rfl, d.drain_incomplete waits, fun _ => rfl⟩
  | cons m said ih =>
    have first := reads m List.mem_cons_self
    rw [List.map_cons, List.flatten_cons] at early ⊢
    by_cases whole : message m <+: p
    · obtain ⟨q, rfl⟩ := whole
      obtain ⟨seen, left, started, drained, all⟩ :=
        ih (fun m' member => reads m' (List.mem_cons_of_mem _ member)) ((List.prefix_append_right_inj _).mp early)
      refine ⟨m :: seen, left, List.cons_prefix_cons.mpr ⟨rfl, started⟩, ?_, fun same => ?_⟩
      · rw [first.drain, drained, List.flatMap_cons, List.map_append]
      · rw [all (List.append_cancel_left same)]
    · have inside : p <+: message m := (List.prefix_or_prefix_of_prefix early (List.prefix_append _ _)).resolve_right whole
      have cut : p ≠ message m := fun same => whole (same ▸ List.prefix_rfl)
      refine ⟨[], p, List.nil_prefix, d.drain_incomplete (first.incomplete inside cut), fun same => ?_⟩
      exact absurd ⟨_, same.symm⟩ whole

variable (d)

def feed (state : List (Item ε) × List α) (piece : List α) : List (Item ε) × List α :=
  let (items, left) := d.drain (state.2 ++ piece)
  (state.1 ++ items, left)

def feedAll (pieces : List (List α)) : List (Item ε) × List α := pieces.foldl d.feed ([], [])

theorem upToFailure_foldl_feed (pieces : List (List α)) (state : List (Item ε) × List α)
    (failed : Item.failure ∈ state.1) : upToFailure (pieces.foldl d.feed state).1 = upToFailure state.1 := by
  induction pieces generalizing state with
  | nil => rfl
  | cons piece pieces ih =>
    rw [List.foldl_cons, ih _ (by simp [feed, failed])]
    exact upToFailure_append_failed failed

theorem foldl_feed_drain (pieces : List (List α)) (s : List α) :
    upToFailure (pieces.foldl d.feed (d.drain s)).1 = upToFailure (d.drain (s ++ pieces.flatten)).1 ∧
      (Item.failure ∉ (d.drain (s ++ pieces.flatten)).1 →
        pieces.foldl d.feed (d.drain s) = d.drain (s ++ pieces.flatten)) := by
  induction pieces generalizing s with
  | nil => simp
  | cons piece pieces ih =>
    have whole := d.drain_append s (piece ++ pieces.flatten)
    rw [List.flatten_cons, List.foldl_cons]
    by_cases failed : Item.failure ∈ (d.drain s).1
    · rw [d.upToFailure_foldl_feed _ _ (by simp [feed, failed]), whole.1 failed]
      refine ⟨upToFailure_append_failed failed, fun clean => absurd failed clean⟩
    · have step : d.feed (d.drain s) piece = d.drain (s ++ piece) := ((d.drain_append s piece).2 failed).symm
      rw [step, ← List.append_assoc]
      exact ih (s ++ piece)

/-- Feeding a stream in any pieces shows the same items as draining it whole, up to the first
failure, and without one leaves the same input unread. -/
theorem feedAll_drain (waits : d.next [] = .incomplete) (pieces : List (List α)) :
    upToFailure (d.feedAll pieces).1 = upToFailure (d.drain pieces.flatten).1 ∧
      (Item.failure ∉ (d.drain pieces.flatten).1 → d.feedAll pieces = d.drain pieces.flatten) := by
  have start := d.foldl_feed_drain pieces []
  rw [d.drain_incomplete waits, List.nil_append] at start
  exact start

/-- Whatever the pieces, the beginning of a stream of messages is read as the first of them. -/
theorem feedAll_prefix {κ : Type} {message : κ → List α} {events : κ → List ε} {said : List κ}
    (reads : ∀ m ∈ said, d.Reads (message m) (events m)) (waits : d.next [] = .incomplete) {pieces : List (List α)}
    (early : pieces.flatten <+: (said.map message).flatten) :
    ∃ seen, seen <+: said ∧ (d.feedAll pieces).1 = (seen.flatMap events).map .event ∧
      (pieces.flatten = (said.map message).flatten → seen = said) := by
  obtain ⟨seen, left, started, drained, all⟩ := drain_prefix reads waits early
  refine ⟨seen, started, ?_, all⟩
  rw [(d.feedAll_drain waits pieces).2 (by simp [drained]), drained]

end Decoder
end IotGateway
