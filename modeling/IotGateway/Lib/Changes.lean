import Mathlib.Data.Finset.Dedup
import Mathlib.Data.Finset.Insert
import Mathlib.Data.Finset.Erase

/-!
# Announced changes of a set

A set is known through snapshots, and each new snapshot is announced as the members that
came and those that went. Replaying all announcements gives the last snapshot, and those
about one member come and go in turns.
-/

namespace IotGateway.Changes

variable {α : Type} [DecidableEq α]

/-- The members of the first list that are missing in the second. -/
def missing (expected present : List α) : List α := expected.filter (· ∉ present)

/-- The changes from one snapshot to the next: who came, marked `true`, and who went. -/
def between (old new : List α) : List (α × Bool) :=
  (missing new old).map (·, true) ++ (missing old new).map (·, false)

def apply (s : Finset α) (change : α × Bool) : Finset α := if change.2 then insert change.1 s else s.erase change.1

def replay (s : Finset α) (changes : List (α × Bool)) : Finset α := changes.foldl apply s

/-- What was announced about one member. -/
def about (a : α) (changes : List (α × Bool)) : List Bool := (changes.filter (·.1 = a)).map (·.2)

/-- Coming and going in turns, coming first. -/
def InTurns (changes : List Bool) : Prop :=
  ∀ (i : Nat) (came : Bool), changes[i]? = some came → (came ↔ i % 2 = 0)

/-! ### Replaying -/

theorem replay_append (s : Finset α) (first second : List (α × Bool)) :
    replay s (first ++ second) = replay (replay s first) second := List.foldl_append

theorem mem_replay_came (s : Finset α) (came : List α) (a : α) :
    a ∈ replay s (came.map (·, true)) ↔ a ∈ s ∨ a ∈ came := by
  induction came generalizing s with
  | nil => simp [replay]
  | cons b came ih =>
    have rest := ih (insert b s)
    rw [Finset.mem_insert] at rest
    rw [List.mem_cons]
    exact rest.trans (by tauto)

theorem mem_replay_went (s : Finset α) (went : List α) (a : α) :
    a ∈ replay s (went.map (·, false)) ↔ a ∈ s ∧ a ∉ went := by
  induction went generalizing s with
  | nil => simp [replay]
  | cons b went ih =>
    have rest := ih (s.erase b)
    rw [Finset.mem_erase] at rest
    rw [List.mem_cons]
    exact rest.trans (by tauto)

/-- Replaying the changes between two snapshots leads from one to the other. -/
theorem replay_between (old new : List α) : replay old.toFinset (between old new) = new.toFinset := by
  ext a
  rw [between, replay_append, mem_replay_went, mem_replay_came]
  simp only [missing, List.mem_toFinset, List.mem_filter, decide_eq_true_eq]
  tauto

/-! ### One member -/

theorem about_append (a : α) (first second : List (α × Bool)) :
    about a (first ++ second) = about a first ++ about a second := by simp [about]

theorem about_map (a : α) (members : List α) (nodup : members.Nodup) (came : Bool) :
    about a (members.map (·, came)) = if a ∈ members then [came] else [] := by
  induction members with
  | nil => rfl
  | cons b members ih =>
    obtain ⟨absent, rest⟩ := List.nodup_cons.mp nodup
    have tail := ih rest
    rcases eq_or_ne b a with rfl | different
    · simp only [about, absent, if_false] at tail
      simp [about, tail]
    · have others : about a ((b :: members).map (·, came)) = about a (members.map (·, came)) := by
        simp [about, different]
      rw [others, tail]
      simp [different.symm]

/-- Between two snapshots there is one announcement about a member that came or went, and none about any other. -/
theorem about_between (a : α) {old new : List α} (nodup : old.Nodup) (nodup' : new.Nodup) :
    about a (between old new) =
      if a ∈ new ∧ a ∉ old then [true] else if a ∈ old ∧ a ∉ new then [false] else [] := by
  rw [between, missing, missing, about_append, about_map _ _ (nodup'.filter _), about_map _ _ (nodup.filter _)]
  simp only [List.mem_filter, decide_eq_true_eq]
  by_cases here : a ∈ new <;> by_cases before : a ∈ old <;> simp [here, before]

theorem inTurns_nil : InTurns [] := fun _ _ found => by simp at found

theorem InTurns.concat {changes : List Bool} (turns : InTurns changes) {came : Bool}
    (next : came ↔ changes.length % 2 = 0) : InTurns (changes ++ [came]) := by
  intro i other found
  rcases Nat.lt_or_ge i changes.length with below | beyond
  · rw [List.getElem?_append_left below] at found
    exact turns i other found
  · rw [List.getElem?_append_right beyond, List.getElem?_singleton] at found
    split at found
    · rename_i first
      obtain rfl : i = changes.length := by omega
      rw [← Option.some.inj found]
      exact next
    · cases found

/-! ### Any number of snapshots -/

/-- The announcements so far describe the snapshot. -/
structure Describe (changes : List (α × Bool)) (known : List α) : Prop where
  replayed : replay ∅ changes = known.toFinset
  inTurns : ∀ a, InTurns (about a changes)
  -- who is there came once more than went
  parity : ∀ a, a ∈ known ↔ (about a changes).length % 2 = 1

theorem describe_nil : Describe [] ([] : List α) where
  replayed := rfl
  inTurns := fun _ => inTurns_nil
  parity := fun _ => by simp [about]

theorem Describe.snapshot {changes : List (α × Bool)} {old new : List α} (describe : Describe changes old)
    (nodup : old.Nodup) (nodup' : new.Nodup) : Describe (changes ++ between old new) new where
  replayed := by
    rw [replay_append, describe.replayed]
    exact replay_between old new
  inTurns := by
    intro a
    have turns := describe.inTurns a
    have parity := describe.parity a
    rw [about_append, about_between a nodup nodup']
    split
    · rename_i came
      refine turns.concat ?_
      have even : (about a changes).length % 2 = 0 := by
        have odd := mt parity.mpr came.2
        omega
      simp [even]
    · split
      · rename_i went
        refine turns.concat ?_
        simp [parity.mp went.1]
      · rw [List.append_nil]
        exact turns
  parity := by
    intro a
    have parity := describe.parity a
    rw [about_append, about_between a nodup nodup', List.length_append]
    by_cases here : a ∈ new <;> by_cases before : a ∈ old <;> simp only [here, before] at parity ⊢ <;> simp at parity ⊢ <;>
      omega

end IotGateway.Changes
