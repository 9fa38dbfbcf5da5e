import Mathlib.Data.List.DropRight

/-!
# The last elements of a list

A bounded buffer holds the last elements of all that ever went in, whether it makes room
before an element is appended or after, and also when it drops from its old end.
-/

namespace IotGateway.Recent

variable {α : Type} (l : List α) (x : α) (k : Nat)

theorem length_rtake : (l.rtake k).length = min k l.length := by
  rw [List.rtake, List.length_drop]
  omega

theorem rtake_of_length_le {l : List α} {k : Nat} (short : l.length ≤ k) : l.rtake k = l := by
  rw [List.rtake, Nat.sub_eq_zero_of_le short, List.drop_zero]

theorem rtake_rtake (m : Nat) : (l.rtake m).rtake k = l.rtake (min k m) := by
  rw [List.rtake, length_rtake, List.rtake, List.drop_drop, List.rtake]
  congr 1
  omega

theorem mem_of_mem_rtake {l : List α} {x : α} {k : Nat} (member : x ∈ l.rtake k) : x ∈ l := List.mem_of_mem_drop member

theorem rtake_cons_of_le {k : Nat} (more : k ≤ l.length) : (x :: l).rtake k = l.rtake k := by
  rw [List.rtake, List.rtake, List.length_cons, Nat.succ_sub more, List.drop_succ_cons]

theorem tail_rtake (enough : k < l.length) : (l.rtake (k + 1)).tail = l.rtake k := by
  rw [List.rtake, List.tail_drop, List.rtake]
  congr 1
  omega

/-- Making room first. -/
theorem append_after_room {k : Nat} (positive : 0 < k) :
    (if k ≤ (l.rtake k).length then (l.rtake k).tail else l.rtake k) ++ [x] = (l ++ [x]).rtake k := by
  obtain ⟨k, rfl⟩ := Nat.exists_eq_add_one.mpr positive
  rw [List.rtake_concat_succ, length_rtake]
  split
  · rename_i full
    rw [tail_rtake l k (by omega)]
  · rename_i room
    rw [rtake_of_length_le (by omega), rtake_of_length_le (by omega)]

/-- Making room afterwards. -/
theorem room_after_append :
    (if k < (l.rtake k ++ [x]).length then (l.rtake k ++ [x]).tail else l.rtake k ++ [x]) = (l ++ [x]).rtake k := by
  cases k with
  | zero => simp [List.rtake]
  | succ k =>
    rw [List.rtake_concat_succ, List.length_append, length_rtake]
    split
    · rename_i full
      rw [List.tail_append_of_ne_nil, tail_rtake l k (by simp at full; omega)]
      intro empty
      have length := length_rtake l (k + 1)
      rw [empty] at length
      simp at full length
      omega
    · rename_i room
      simp only [List.length_singleton] at room
      rw [rtake_of_length_le (by omega), rtake_of_length_le (by omega)]

/-- Where what is dropped is older than what is kept, dropping and bounding can be exchanged. -/
theorem filter_rtake {p : α → Bool} {l : List α} (older : l.Pairwise fun a b => p a → p b) :
    (l.rtake k).filter p = (l.filter p).rtake k := by
  induction l with
  | nil => simp only [List.rtake_nil, List.filter_nil]
  | cons a l ih =>
    obtain ⟨first, rest⟩ := List.pairwise_cons.mp older
    cases kept : p a with
    | true =>
      have all : ∀ b ∈ a :: l, p b = true := by
        intro b member
        rcases List.mem_cons.mp member with rfl | later
        · exact kept
        · exact first b later kept
      rw [List.filter_eq_self.mpr all]
      exact List.filter_eq_self.mpr fun b member => all b (mem_of_mem_rtake member)
    | false =>
      rw [List.filter_cons_of_neg (by simp [kept])]
      by_cases more : k ≤ l.length
      · rw [rtake_cons_of_le l a more]
        exact ih rest
      · have shorter : (l.filter p).length ≤ l.length := List.length_filter_le p l
        rw [rtake_of_length_le (by rw [List.length_cons]; omega), List.filter_cons_of_neg (by simp [kept]),
          rtake_of_length_le (by omega)]

theorem getLast?_of_rtake {l : List α} {x : α} {k : Nat} (last : (l.rtake k).getLast? = some x) : l.getLast? = some x := by
  rw [List.rtake, List.getLast?_drop] at last
  split at last
  · cases last
  · exact last

/-- As long as anything is kept, the last element is. -/
theorem getLast?_of_filter {p : α → Bool} {l : List α} (older : l.Pairwise fun a b => p a → p b) {x : α}
    (last : (l.filter p).getLast? = some x) : l.getLast? = some x := by
  have member : x ∈ l ∧ p x = true := List.mem_filter.mp (List.mem_of_getLast? last)
  cases found : l.getLast? with
  | none =>
    rw [List.getLast?_eq_none_iff.mp found] at member
    cases member.1
  | some y =>
    obtain ⟨before, rfl⟩ := List.getLast?_eq_some_iff.mp found
    have kept : p y = true := by
      rcases List.mem_append.mp member.1 with earlier | same
      · exact (List.pairwise_append.mp older).2.2 x earlier y (List.mem_singleton_self y) member.2
      · rw [← List.mem_singleton.mp same]
        exact member.2
    rw [List.filter_append, List.filter_cons_of_pos kept, List.filter_nil, List.getLast?_concat] at last
    exact last

end IotGateway.Recent
