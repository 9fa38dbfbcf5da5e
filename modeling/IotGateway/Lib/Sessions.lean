import Mathlib.Logic.Function.Basic

/-!
# Two tables of sessions

A server keeps, for every connection, the client that it is bound to, and for every
client the connection that owns it. The tables are written together when a client
attaches and cleared together when a connection goes or a client is evicted. They agree
as long as no client attaches while another connection is bound to it.
-/

namespace IotGateway

structure Sessions (κ γ : Type) where
  bound : κ → Option γ
  owner : γ → Option κ

namespace Sessions

variable {κ γ : Type} [DecidableEq κ] [DecidableEq γ]

def empty : Sessions κ γ := ⟨fun _ => none, fun _ => none⟩

def attach (s : Sessions κ γ) (k : κ) (c : γ) : Sessions κ γ :=
  ⟨Function.update s.bound k (some c), Function.update s.owner c (some k)⟩

def evict (s : Sessions κ γ) (clients : List γ) : Sessions κ γ :=
  { s with owner := fun c => if c ∈ clients then none else s.owner c }

/-- A connection goes, and with it the owner of its client, whoever that is. -/
def detach (s : Sessions κ γ) (k : κ) : Sessions κ γ :=
  ⟨Function.update s.bound k none, fun c => if s.bound k = some c then none else s.owner c⟩

/-- A client is only owned by a connection that is bound to it, if any is. -/
def Consistent (s : Sessions κ γ) : Prop := ∀ k c k', s.bound k = some c → s.owner c = some k' → k' = k

omit [DecidableEq κ] [DecidableEq γ] in
theorem consistent_empty : (empty : Sessions κ γ).Consistent := fun _ _ _ bound => by cases bound

theorem Consistent.attach {s : Sessions κ γ} (consistent : s.Consistent) {k : κ} {c : γ}
    (free : ∀ k', k' ≠ k → s.bound k' ≠ some c) : (s.attach k c).Consistent := by
  intro k₁ c₁ k₂ bound owner
  by_cases here : k₁ = k
  · subst here
    obtain rfl : c = c₁ := by simpa [Sessions.attach] using bound
    simpa [Sessions.attach, eq_comm] using owner
  · have before : s.bound k₁ = some c₁ := by simpa [Sessions.attach, here] using bound
    have other : c₁ ≠ c := by
      rintro rfl
      exact free k₁ here before
    exact consistent k₁ c₁ k₂ before (by simpa [Sessions.attach, other] using owner)

theorem Consistent.detach {s : Sessions κ γ} (consistent : s.Consistent) (k : κ) : (s.detach k).Consistent := by
  intro k₁ c₁ k₂ bound owner
  by_cases here : k₁ = k
  · simp [Sessions.detach, here] at bound
  · simp only [Sessions.detach] at owner
    split at owner
    · cases owner
    · exact consistent k₁ c₁ k₂ (by simpa [Sessions.detach, here] using bound) owner

omit [DecidableEq κ] in
theorem Consistent.evict {s : Sessions κ γ} (consistent : s.Consistent) (clients : List γ) :
    (s.evict clients).Consistent := by
  intro k₁ c₁ k₂ bound owner
  simp only [Sessions.evict] at owner
  split at owner
  · cases owner
  · exact consistent k₁ c₁ k₂ bound owner

omit [DecidableEq κ] [DecidableEq γ] in
theorem Consistent.bound_ne {s : Sessions κ γ} (consistent : s.Consistent) {k k' : κ} {c : γ}
    (owned : s.owner c = some k') (other : k' ≠ k) : s.bound k ≠ some c :=
  fun bound => other (consistent k c k' bound owned)

/-! ### Clients in the tables -/

def Known (s : Sessions κ γ) (c : γ) : Prop := (∃ k, s.bound k = some c) ∨ s.owner c ≠ none

omit [DecidableEq κ] [DecidableEq γ] in
theorem not_known_empty (c : γ) : ¬ (empty : Sessions κ γ).Known c := by
  rintro (⟨k, bound⟩ | owned)
  · cases bound
  · exact owned rfl

theorem known_of_attach {s : Sessions κ γ} {k : κ} {c c' : γ} (known : (s.attach k c).Known c') : c' = c ∨ s.Known c' := by
  rcases known with ⟨k', bound⟩ | owned
  · by_cases here : k' = k
    · left
      simpa [attach, here, eq_comm] using bound
    · exact Or.inr (Or.inl ⟨k', by simpa [attach, here] using bound⟩)
  · by_cases same : c' = c
    · exact Or.inl same
    · exact Or.inr (Or.inr (by simpa [attach, same] using owned))

theorem known_of_detach {s : Sessions κ γ} {k : κ} {c : γ} (known : (s.detach k).Known c) : s.Known c := by
  rcases known with ⟨k', bound⟩ | owned
  · by_cases here : k' = k
    · simp [detach, here] at bound
    · exact Or.inl ⟨k', by simpa [detach, here] using bound⟩
  · right
    intro free
    simp [detach, free] at owned

omit [DecidableEq κ] in
theorem known_of_evict {s : Sessions κ γ} {clients : List γ} {c : γ} (known : (s.evict clients).Known c) : s.Known c := by
  rcases known with bound | owned
  · exact Or.inl bound
  · right
    intro free
    simp [evict, free] at owned

end Sessions
end IotGateway
