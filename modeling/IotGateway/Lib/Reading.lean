/-!
# Programs that read a memory

A `Reading` looks at a memory with any contents and remembers which addresses it has
looked at. `Scans` says that such a program moves a cursor over a part of the memory in
the way a function on lists takes values off a list, and that it looks at nothing outside
of that part.
-/

namespace IotGateway

/-- The contents of the addresses from `first` on. -/
def segment {ν : Type} (m : Nat → ν) (first : Nat) : Nat → List ν
  | 0 => []
  | count + 1 => m first :: segment m (first + 1) count

section Segment

variable {ν : Type} (m : Nat → ν)

@[simp] theorem length_segment (first count : Nat) : (segment m first count).length = count := by
  induction count generalizing first with
  | zero => rfl
  | succ count ih => rw [segment, List.length_cons, ih]

theorem segment_add (first left right : Nat) :
    segment m first (left + right) = segment m first left ++ segment m (first + left) right := by
  induction left generalizing first with
  | zero => simp [segment]
  | succ left ih => rw [Nat.succ_add, segment, segment, ih, Nat.add_right_comm, Nat.add_assoc first, List.cons_append]

theorem drop_segment (first count skipped : Nat) :
    (segment m first count).drop skipped = segment m (first + skipped) (count - skipped) := by
  by_cases inside : skipped ≤ count
  · obtain ⟨rest, rfl⟩ := Nat.exists_eq_add_of_le inside
    rw [segment_add, List.drop_left' (length_segment m first skipped), Nat.add_sub_cancel_left]
  · rw [List.drop_eq_nil_of_le (by rw [length_segment]; omega), show count - skipped = 0 by omega, segment]

theorem take_segment {first count taken : Nat} (inside : taken ≤ count) :
    (segment m first count).take taken = segment m first taken := by
  obtain ⟨rest, rfl⟩ := Nat.exists_eq_add_of_le inside
  rw [segment_add, List.take_left' (length_segment m first taken)]

theorem segment_cons {first last : Nat} (more : first < last) :
    segment m first (last - first) = m first :: segment m (first + 1) (last - (first + 1)) := by
  obtain ⟨count, rfl⟩ := Nat.exists_eq_add_of_lt more
  rw [show first + count + 1 - first = count + 1 by omega, show first + count + 1 - (first + 1) = count by omega, segment]

/-- A memory that holds a list shows it. -/
theorem segment_getD {bytes : List ν} {outside : Nat → ν} {first count : Nat} (inside : first + count ≤ bytes.length) :
    segment (fun i => bytes.getD (first + i) (outside i)) 0 count = (bytes.drop first).take count := by
  have later : ∀ k, first + k + count ≤ bytes.length →
      segment (fun i => bytes.getD (first + i) (outside i)) k count = (bytes.drop (first + k)).take count := by
    clear inside
    induction count with
    | zero => exact fun k _ => rfl
    | succ count ih =>
      intro k inside
      have here : first + k < bytes.length := by omega
      rw [segment, ih (k + 1) (by omega), List.drop_eq_getElem_cons here, List.take_succ_cons, List.getD_eq_getElem?_getD,
        List.getElem?_eq_getElem here]
      rfl
  exact later 0 inside

theorem segment_nil {first last : Nat} (none : last ≤ first) : segment m first (last - first) = [] := by
  rw [Nat.sub_eq_zero_of_le none, segment]

end Segment

/-- `run` gives the result for a memory, and the addresses that were read on the way. -/
structure Reading (ν α : Type) where
  run : (Nat → ν) → α × List Nat

namespace Reading

variable {ν α β : Type}

instance : Monad (Reading ν) where
  pure a := ⟨fun _ => (a, [])⟩
  bind x f := ⟨fun m => (((f (x.run m).1).run m).1, (x.run m).2 ++ ((f (x.run m).1).run m).2)⟩

def byteAt (p : Nat) : Reading ν ν := ⟨fun m => (m p, [p])⟩

def bytesAt (p count : Nat) : Reading ν (List ν) := ⟨fun m => (segment m p count, List.range' p count)⟩

@[simp] theorem run_pure (a : α) (m : Nat → ν) : (pure a : Reading ν α).run m = (a, []) := rfl

@[simp] theorem run_bind (x : Reading ν α) (f : α → Reading ν β) (m : Nat → ν) :
    (x >>= f).run m = (((f (x.run m).1).run m).1, (x.run m).2 ++ ((f (x.run m).1).run m).2) := rfl

@[simp] theorem run_byteAt (p : Nat) (m : Nat → ν) : (byteAt p).run m = (m p, [p]) := rfl

@[simp] theorem run_bytesAt (p count : Nat) (m : Nat → ν) :
    (bytesAt p count).run m = (segment m p count, List.range' p count) := rfl

/-- Only addresses from `first` to before `last` are read. -/
def Within (first last : Nat) (reads : List Nat) : Prop := ∀ a ∈ reads, first ≤ a ∧ a < last

instance (first last : Nat) (reads : List Nat) : Decidable (Within first last reads) :=
  inferInstanceAs (Decidable (∀ a ∈ reads, _))

theorem within_nil (first last : Nat) : Within first last [] := fun _ member => absurd member List.not_mem_nil

theorem within_append {first last : Nat} {left right : List Nat} :
    Within first last (left ++ right) ↔ Within first last left ∧ Within first last right := List.forall_mem_append

theorem within_cons {first last a : Nat} {reads : List Nat} :
    Within first last (a :: reads) ↔ (first ≤ a ∧ a < last) ∧ Within first last reads := List.forall_mem_cons

theorem within_range {first last p count : Nat} (below : first ≤ p) (inside : p + count ≤ last) :
    Within first last (List.range' p count) := by
  intro a member
  rw [List.mem_range'_1] at member
  omega

theorem Within.mono {first last first' last' : Nat} {reads : List Nat} (within : Within first last reads)
    (below : first' ≤ first) (above : last ≤ last') : Within first' last' reads := by
  intro a member
  obtain ⟨low, high⟩ := within a member
  omega

/-- Between `p` and `last`, the program takes off the memory what the function has taken off the list of its bytes:
`scan` is the outcome of the program, with the cursor, and `result` the one of the function, with the list that is left. -/
structure Scans (m : Nat → ν) (p last : Nat) (scan : (α × Nat) × List Nat) (result : α × List ν) : Prop where
  value : scan.1.1 = result.1
  rest : result.2 = segment m scan.1.2 (last - scan.1.2)
  forward : p ≤ scan.1.2
  inside : scan.1.2 ≤ last
  reads : Within p last scan.2

end Reading
end IotGateway
