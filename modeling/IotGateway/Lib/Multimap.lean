import Mathlib.Data.List.AList

/-!
# Maps to sets and their inverse

A map from keys to sets, a set being a list without duplicates. No key is kept for an
empty set. Two such maps are inverse when each holds the pairs of the other turned round;
taking out a pair on both sides, or a key together with everything it occurs in, keeps
them so.
-/

namespace IotGateway.Multimap

variable {α β : Type} [DecidableEq α] [BEq β]

def members (m : AList fun _ : α => List β) (a : α) : List β := (m.lookup a).getD []

def Proper (m : AList fun _ : α => List β) : Prop := ∀ a bs, m.lookup a = some bs → bs ≠ [] ∧ bs.Nodup

/-- Take a value out of the set of a key, and the key with the last value. -/
def remove (b : β) (m : AList fun _ : α => List β) (a : α) : AList fun _ : α => List β :=
  if (members m a).erase b = [] then m.erase a else m.insert a ((members m a).erase b)

omit [BEq β] in
theorem proper_empty : Proper (∅ : AList fun _ : α => List β) := by
  intro a bs found
  simp at found

omit [BEq β] in
theorem Proper.nodup {m : AList fun _ : α => List β} (proper : Proper m) (a : α) : (members m a).Nodup := by
  unfold members
  cases found : m.lookup a with
  | none => exact List.nodup_nil
  | some bs => exact (proper a bs found).2

omit [BEq β] in
theorem members_insert (m : AList fun _ : α => List β) (a a' : α) (bs : List β) :
    members (m.insert a bs) a' = if a' = a then bs else members m a' := by
  unfold members
  split
  · rename_i same
    rw [same, AList.lookup_insert]
    rfl
  · rename_i different
    rw [AList.lookup_insert_ne different]

omit [BEq β] in
theorem members_erase (m : AList fun _ : α => List β) (a a' : α) :
    members (m.erase a) a' = if a' = a then [] else members m a' := by
  unfold members
  split
  · rename_i same
    rw [same, AList.lookup_erase]
    rfl
  · rename_i different
    rw [AList.lookup_erase_ne different]

theorem members_remove (m : AList fun _ : α => List β) (a a' : α) (b : β) :
    members (remove b m a) a' = if a' = a then (members m a).erase b else members m a' := by
  unfold remove
  split
  · rename_i nobody
    rw [members_erase, nobody]
  · exact members_insert m a a' _

omit [BEq β] in
theorem Proper.insert {m : AList fun _ : α => List β} (proper : Proper m) {a : α} {bs : List β} (filled : bs ≠ [])
    (nodup : bs.Nodup) : Proper (m.insert a bs) := by
  intro a' bs' found
  rcases eq_or_ne a' a with rfl | different
  · rw [AList.lookup_insert] at found
    obtain rfl := Option.some.inj found
    exact ⟨filled, nodup⟩
  · rw [AList.lookup_insert_ne different] at found
    exact proper a' bs' found

omit [BEq β] in
theorem Proper.erase {m : AList fun _ : α => List β} (proper : Proper m) (a : α) : Proper (m.erase a) := by
  intro a' bs' found
  rcases eq_or_ne a' a with rfl | different
  · rw [AList.lookup_erase] at found
    cases found
  · rw [AList.lookup_erase_ne different] at found
    exact proper a' bs' found

variable [LawfulBEq β]

theorem Proper.remove {m : AList fun _ : α => List β} (proper : Proper m) (a : α) (b : β) : Proper (remove b m a) := by
  unfold Multimap.remove
  split
  · exact proper.erase a
  · rename_i left
    exact proper.insert left ((proper.nodup a).erase b)

/-! ### One value out of many sets -/

theorem mem_remove {m : AList fun _ : α => List β} (proper : Proper m) {a a' : α} {b b' : β} :
    b' ∈ members (remove b m a) a' ↔ b' ∈ members m a' ∧ ¬ (a' = a ∧ b' = b) := by
  rw [members_remove]
  split
  · rename_i same
    subst same
    rw [(proper.nodup a').mem_erase_iff]
    tauto
  · rename_i different
    simp [different]

theorem Proper.foldl_remove {m : AList fun _ : α => List β} (proper : Proper m) (b : β) (keys : List α) :
    Proper (keys.foldl (Multimap.remove b) m) := by
  induction keys generalizing m with
  | nil => exact proper
  | cons a keys ih => exact ih (proper.remove a b)

theorem mem_foldl_remove {m : AList fun _ : α => List β} (proper : Proper m) {b b' : β} {keys : List α} {a' : α} :
    b' ∈ members (keys.foldl (remove b) m) a' ↔ b' ∈ members m a' ∧ ¬ (a' ∈ keys ∧ b' = b) := by
  induction keys generalizing m with
  | nil => simp
  | cons a keys ih =>
    rw [List.foldl_cons, ih (proper.remove a b), mem_remove proper, List.mem_cons]
    tauto

theorem mem_foldl_remove_of_ne {m : AList fun _ : α => List β} {b b' : β} (different : b' ≠ b) (keys : List α) (a' : α) :
    b' ∈ members (keys.foldl (remove b) m) a' ↔ b' ∈ members m a' := by
  induction keys generalizing m with
  | nil => exact Iff.rfl
  | cons a keys ih =>
    rw [List.foldl_cons, ih, members_remove]
    split
    · rename_i same
      rw [same, List.mem_erase_of_ne different]
    · exact Iff.rfl

/-! ### Inverse maps -/

section Inverse

variable {α β : Type} [DecidableEq α] [DecidableEq β]

def Inverse (m : AList fun _ : α => List β) (m' : AList fun _ : β => List α) : Prop :=
  ∀ a b, b ∈ members m a ↔ a ∈ members m' b

theorem inverse_empty : Inverse (∅ : AList fun _ : α => List β) (∅ : AList fun _ : β => List α) := by
  intro a b
  simp [members]

theorem Inverse.insert {m : AList fun _ : α => List β} {m' : AList fun _ : β => List α} (inverse : Inverse m m')
    {a : α} {b : β} {bs : List β} {as : List α} (adds : ∀ x, x ∈ bs ↔ x = b ∨ x ∈ members m a)
    (adds' : ∀ x, x ∈ as ↔ x = a ∨ x ∈ members m' b) : Inverse (m.insert a bs) (m'.insert b as) := by
  intro a' b'
  rw [members_insert, members_insert]
  by_cases here : a' = a <;> by_cases there : b' = b
  · simp [here, there, adds, adds']
  · simpa [here, there, adds] using inverse a b'
  · simpa [here, there, adds'] using inverse a' b
  · simpa [here, there] using inverse a' b'

variable [BEq α] [LawfulBEq α]

/-- Dropping a key, and the key from the sets of all its values. -/
theorem Inverse.dropKey {m : AList fun _ : α => List β} {m' : AList fun _ : β => List α} (inverse : Inverse m m')
    (proper' : Proper m') (a : α) : Inverse (m.erase a) ((members m a).foldl (Multimap.remove a) m') := by
  intro a' b'
  rw [members_erase, mem_foldl_remove proper', ← inverse a' b']
  split
  · rename_i same
    simp [same]
  · rename_i different
    simp [different]

variable [BEq β] [LawfulBEq β]

theorem Inverse.remove {m : AList fun _ : α => List β} {m' : AList fun _ : β => List α} (inverse : Inverse m m')
    (proper : Proper m) (proper' : Proper m') (a : α) (b : β) : Inverse (remove b m a) (Multimap.remove a m' b) := by
  intro a' b'
  rw [mem_remove proper, mem_remove proper', inverse a' b']
  tauto

end Inverse
end IotGateway.Multimap
