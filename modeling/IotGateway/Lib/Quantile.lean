import Mathlib.Data.List.Sort
import Mathlib.Order.Bounds.Basic

/-!
# Ranks in a sorted list

The element at a position of a sorted list, said without the list: the least value with
enough values up to it. Values come from any linear order and may repeat.
-/

namespace IotGateway.Quantile

variable {α : Type} [LinearOrder α]

/-- The least of the values that have at least `rank` values up to them. -/
def HasRank (values : List α) (rank : Nat) (v : α) : Prop :=
  IsLeast {v | v ∈ values ∧ rank ≤ values.countP (· ≤ v)} v

theorem HasRank.perm {values others : List α} (same : values.Perm others) {rank : Nat} {v : α}
    (ranked : HasRank values rank v) : HasRank others rank v := by
  unfold HasRank at ranked ⊢
  simpa only [same.mem_iff, same.countP_eq] using ranked

variable {sorted : List α} (ordered : sorted.Pairwise (· ≤ ·))
include ordered

/-- The values up to the one at a position include those before it. -/
theorem count_up_to {i : Nat} (inside : i < sorted.length) : i + 1 ≤ sorted.countP (· ≤ sorted[i]) := by
  have first : (sorted.take (i + 1)).countP (· ≤ sorted[i]) = i + 1 := by
    rw [List.countP_eq_length.mpr, List.length_take_of_le inside]
    intro v member
    obtain ⟨j, below, rfl⟩ := List.mem_take_iff_getElem.mp member
    simpa using ordered.sortedLE.getElem_le_getElem_of_le (by omega : j ≤ i)
  rw [← first]
  exact (List.take_sublist _ _).countP_le

theorem count_below {i : Nat} (inside : i < sorted.length) {v : α} (below : v < sorted[i]) :
    sorted.countP (· ≤ v) ≤ i := by
  have rest : (sorted.drop i).countP (· ≤ v) = 0 := by
    rw [List.countP_eq_zero]
    intro u member
    obtain ⟨j, bound, rfl⟩ := List.mem_drop_iff_getElem.mp member
    have above : sorted[i] ≤ sorted[i + j] := ordered.sortedLE.getElem_le_getElem_of_le (Nat.le_add_right i j)
    simpa using below.trans_le above
  calc sorted.countP (· ≤ v)
      = (sorted.take i).countP (· ≤ v) + (sorted.drop i).countP (· ≤ v) := by
        rw [← List.countP_append, List.take_append_drop]
    _ = (sorted.take i).countP (· ≤ v) := by rw [rest, Nat.add_zero]
    _ ≤ (sorted.take i).length := List.countP_le_length
    _ ≤ i := List.length_take_le i sorted

theorem hasRank_getElem {i : Nat} (inside : i < sorted.length) : HasRank sorted (i + 1) sorted[i] := by
  refine ⟨⟨List.getElem_mem inside, count_up_to ordered inside⟩, ?_⟩
  rintro v ⟨-, enough⟩
  by_contra smaller
  have few := count_below ordered inside (not_le.mp smaller)
  omega

theorem isLeast_headD (nonempty : sorted ≠ []) (default : α) : IsLeast {v | v ∈ sorted} (sorted.headD default) := by
  cases sorted with
  | nil => exact absurd rfl nonempty
  | cons first sorted =>
    refine ⟨List.mem_cons_self, ?_⟩
    intro v member
    rcases List.mem_cons.mp member with rfl | later
    · exact le_refl _
    · exact (List.pairwise_cons.mp ordered).1 v later

theorem isGreatest_getLastD (nonempty : sorted ≠ []) (default : α) :
    IsGreatest {v | v ∈ sorted} (sorted.getLastD default) := by
  have some := List.length_pos_of_ne_nil nonempty
  have last : sorted.getLastD default = sorted[sorted.length - 1] := by
    rw [List.getLastD_eq_getLast?, List.getLast?_eq_getElem?, List.getElem?_eq_getElem (by omega)]
    rfl
  rw [last]
  refine ⟨List.getElem_mem _, ?_⟩
  intro v member
  obtain ⟨j, inside, rfl⟩ := List.mem_iff_getElem.mp member
  apply ordered.sortedLE.getElem_le_getElem_of_le
  omega

end IotGateway.Quantile
