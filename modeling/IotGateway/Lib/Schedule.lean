import Mathlib.Data.List.TakeWhile
import Mathlib.Order.Lattice

/-!
# Schedules

A multimap from times to values, as a list in the order of the times. Entries with equal
times stand in the order in which they came.
-/

namespace IotGateway

structure Schedule (κ α : Type) [LinearOrder κ] where
  entries : List (κ × α)
  sorted : entries.Pairwise fun a b => a.1 ≤ b.1

namespace Schedule

variable {κ α : Type} [LinearOrder κ]

def empty : Schedule κ α := ⟨[], List.Pairwise.nil⟩

/-- The first key. -/
def begin? (s : Schedule κ α) : Option κ := s.entries.head?.map Prod.fst

theorem begin?_le {s : Schedule κ α} {first : κ} (here : s.begin? = some first) : ∀ e ∈ s.entries, first ≤ e.1 := by
  obtain ⟨entries, sorted⟩ := s
  cases entries with
  | nil => cases here
  | cons e entries =>
    obtain rfl : e.1 = first := Option.some.inj here
    intro e' member
    rcases List.mem_cons.mp member with rfl | later
    · exact le_rfl
    · exact (List.pairwise_cons.mp sorted).1 e' later

theorem begin?_eq_none {s : Schedule κ α} (nothing : s.begin? = none) : s.entries = [] := by
  simpa [begin?] using nothing

/-- The entries up to a time. -/
def due (s : Schedule κ α) (now : κ) : List (κ × α) := s.entries.takeWhile (·.1 ≤ now)

def later (s : Schedule κ α) (now : κ) : Schedule κ α :=
  ⟨s.entries.dropWhile (·.1 ≤ now), s.sorted.sublist (List.dropWhile_sublist _)⟩

theorem due_append_later (s : Schedule κ α) (now : κ) : s.due now ++ (s.later now).entries = s.entries :=
  List.takeWhile_append_dropWhile

theorem due_le {s : Schedule κ α} {now : κ} : ∀ e ∈ s.due now, e.1 ≤ now :=
  fun _ member => by simpa using List.mem_takeWhile_imp member

theorem due_sorted (s : Schedule κ α) (now : κ) : (s.due now).Pairwise fun a b => a.1 ≤ b.1 :=
  s.sorted.sublist (List.takeWhile_sublist _)

theorem lt_later (s : Schedule κ α) (now : κ) : ∀ e ∈ (s.later now).entries, now < e.1 := by
  obtain ⟨entries, sorted⟩ := s
  induction entries with
  | nil => exact fun e member => absurd member List.not_mem_nil
  | cons first entries ih =>
    obtain ⟨least, rest⟩ := List.pairwise_cons.mp sorted
    intro e member
    simp only [later, List.dropWhile_cons] at member
    split at member
    · exact ih rest e member
    · rename_i beyond
      have after : now < first.1 := by simpa using beyond
      rcases List.mem_cons.mp member with rfl | tail
      · exact after
      · exact after.trans_le (least e tail)

/-- `emplace` puts an entry behind all those that are not later. -/
def emplace (s : Schedule κ α) (key : κ) (value : α) : Schedule κ α where
  entries := s.due key ++ (key, value) :: (s.later key).entries
  sorted := by
    refine List.pairwise_append.mpr ⟨s.due_sorted key, List.pairwise_cons.mpr ⟨?_, (s.later key).sorted⟩, ?_⟩
    · exact fun e member => (s.lt_later key e member).le
    · intro a before b after
      rcases List.mem_cons.mp after with rfl | behind
      · exact due_le a before
      · exact (due_le a before).trans (s.lt_later key b behind).le

theorem perm_emplace (s : Schedule κ α) (key : κ) (value : α) : (s.emplace key value).entries.Perm ((key, value) :: s.entries) := by
  rw [emplace, ← s.due_append_later key]
  exact List.perm_middle

/-- A new entry comes first, or the first one stays. -/
theorem begin?_emplace (s : Schedule κ α) (key : κ) (value : α) :
    (s.emplace key value).begin? = some key ∨ (s.emplace key value).begin? = s.begin? := by
  cases before : s.due key with
  | nil => exact Or.inl (by simp [begin?, emplace, before])
  | cons e rest =>
    right
    have entries := s.due_append_later key
    rw [before] at entries
    simp [begin?, emplace, before, ← entries]

end Schedule
end IotGateway
