/-!
# Runs of a deterministic system

A run applies events one after another. `Meets` restricts a run to steps that satisfy
a condition on the state before the step. `run_invariant` carries an invariant along
such a run, and `run_simulation` a relation along the runs of two systems. `produced` lists
what the steps of a run bring forth.
-/

namespace IotGateway

section Run

variable {σ ε : Type} (step : σ → ε → σ)

def run (s : σ) (events : List ε) : σ := events.foldl step s

@[simp] theorem run_nil (s : σ) : run step s [] = s := rfl

@[simp] theorem run_cons (s : σ) (e : ε) (events : List ε) : run step s (e :: events) = run step (step s e) events := rfl

theorem run_append (s : σ) (first second : List ε) :
    run step s (first ++ second) = run step (run step s first) second := List.foldl_append

/-- Every step of the run satisfies the condition in the state it starts from. -/
def Meets (cond : σ → ε → Prop) : σ → List ε → Prop
  | _, [] => True
  | s, e :: events => cond s e ∧ Meets cond (step s e) events

instance Meets.decidable (cond : σ → ε → Prop) [∀ s e, Decidable (cond s e)] :
    ∀ (s : σ) (events : List ε), Decidable (Meets step cond s events)
  | _, [] => isTrue trivial
  | s, e :: events =>
    have := Meets.decidable cond (step s e) events
    inferInstanceAs (Decidable (cond s e ∧ Meets step cond (step s e) events))

theorem meets_append {cond : σ → ε → Prop} {s : σ} {first second : List ε} :
    Meets step cond s (first ++ second) ↔ Meets step cond s first ∧ Meets step cond (run step s first) second := by
  induction first generalizing s with
  | nil => exact ⟨fun meets => ⟨trivial, meets⟩, fun both => both.2⟩
  | cons e first ih => exact (and_congr_right fun _ => ih).trans and_assoc.symm

theorem Meets.and {cond cond' : σ → ε → Prop} {s : σ} {events : List ε} (first : Meets step cond s events)
    (second : Meets step cond' s events) : Meets step (fun s e => cond s e ∧ cond' s e) s events := by
  induction events generalizing s with
  | nil => trivial
  | cons e events ih => exact ⟨⟨first.1, second.1⟩, ih first.2 second.2⟩

theorem Meets.imp {cond cond' : σ → ε → Prop} {s : σ} {events : List ε} (weaker : ∀ s e, cond s e → cond' s e)
    (meets : Meets step cond s events) : Meets step cond' s events := by
  induction events generalizing s with
  | nil => trivial
  | cons e events ih => exact ⟨weaker s e meets.1, ih meets.2⟩

theorem Meets.of_events {cond : σ → ε → Prop} {events : List ε} (every : ∀ e ∈ events, ∀ s, cond s e) (s : σ) :
    Meets step cond s events := by
  induction events generalizing s with
  | nil => trivial
  | cons e events ih =>
    exact ⟨every e List.mem_cons_self s, ih (fun e member => every e (List.mem_cons_of_mem _ member)) (step s e)⟩

/-- Two conditions that agree in every state of an invariant are met by the same runs. -/
theorem meets_congr {cond cond' : σ → ε → Prop} {inv : σ → Prop} {s : σ} (initially : inv s)
    (kept : ∀ s e, inv s → inv (step s e)) (agree : ∀ s e, inv s → (cond s e ↔ cond' s e)) (events : List ε) :
    Meets step cond s events ↔ Meets step cond' s events := by
  induction events generalizing s with
  | nil => exact Iff.rfl
  | cons e events ih => exact and_congr (agree s e initially) (ih (kept s e initially))

/-- What holds at the start and is kept by every step holds at the end. -/
theorem run_invariant {cond : σ → ε → Prop} {inv : σ → Prop} {s : σ} {events : List ε} (initially : inv s)
    (kept : ∀ s e, inv s → cond s e → inv (step s e)) (meets : Meets step cond s events) : inv (run step s events) := by
  induction events generalizing s with
  | nil => exact initially
  | cons e events ih => exact ih (kept s e initially meets.1) meets.2

/-- When every step from a state of the invariant keeps it and is related by a preorder, so are the ends of a run. -/
theorem run_relates {cond : σ → ε → Prop} {inv : σ → Prop} {rel : σ → σ → Prop} {s : σ} {events : List ε} (initially : inv s)
    (refl : ∀ s, rel s s) (trans : ∀ {s t u}, rel s t → rel t u → rel s u)
    (kept : ∀ s e, inv s → cond s e → inv (step s e) ∧ rel s (step s e)) (meets : Meets step cond s events) :
    rel s (run step s events) := by
  induction events generalizing s with
  | nil => exact refl s
  | cons e events ih =>
    obtain ⟨next, related⟩ := kept s e initially meets.1
    exact trans related (ih next meets.2)

/-- What every step keeps holds along every run. -/
theorem run_kept (inv : σ → Prop) {s : σ} (initially : inv s) (kept : ∀ s e, inv s → inv (step s e)) (events : List ε) :
    inv (run step s events) := by
  induction events generalizing s with
  | nil => exact initially
  | cons e events ih => exact ih (kept s e initially)

/-- What no pass of a loop changes is as it was after the loop. -/
theorem view_foldl {β : Type} (view : σ → β) {f : σ → ε → σ} (kept : ∀ s e, view (f s e) = view s) (events : List ε) (s : σ) :
    view (events.foldl f s) = view s := by
  induction events generalizing s with
  | nil => rfl
  | cons e events ih => rw [List.foldl_cons, ih, kept]

/-- A property that a step keeps exactly when it meets the condition holds at the end of exactly those runs. -/
theorem run_iff_meets {cond : σ → ε → Prop} {inv prop : σ → Prop} {s : σ} (initially : inv s)
    (kept : ∀ s e, inv s → inv (step s e)) (exact : ∀ s e, inv s → (prop (step s e) ↔ prop s ∧ cond s e))
    (events : List ε) : prop (run step s events) ↔ prop s ∧ Meets step cond s events := by
  induction events generalizing s with
  | nil => exact (iff_of_eq (and_true _)).symm
  | cons e events ih =>
    rw [run_cons, ih (kept s e initially), exact s e initially]
    exact and_assoc

/-- When a good state stays good in exactly those steps that meet the condition, the runs with good states only are those
that meet it. -/
theorem prefixes_iff_meets {cond : σ → ε → Prop} {inv good : σ → Prop} {s : σ} (initially : inv s) (start : good s)
    (kept : ∀ s e, inv s → inv (step s e)) (exact : ∀ s e, inv s → good s → (good (step s e) ↔ cond s e))
    (events : List ε) : (∀ before, before <+: events → good (run step s before)) ↔ Meets step cond s events := by
  induction events generalizing s with
  | nil =>
    refine ⟨fun _ => trivial, ?_⟩
    intro _ before early
    rw [List.prefix_nil.mp early]
    exact start
  | cons e events ih =>
    constructor
    · intro every
      have next : good (step s e) := every [e] (List.cons_prefix_cons.mpr ⟨rfl, List.nil_prefix⟩)
      refine ⟨(exact s e initially start).mp next, (ih (kept s e initially) next).mp ?_⟩
      intro before early
      exact every (e :: before) (List.cons_prefix_cons.mpr ⟨rfl, early⟩)
    · rintro ⟨here, later⟩ before early
      have next : good (step s e) := (exact s e initially start).mpr here
      cases before with
      | nil => exact start
      | cons first before =>
        obtain ⟨rfl, rest⟩ := List.cons_prefix_cons.mp early
        exact (ih (kept s first initially) next).mpr later before rest

/-- What the steps of a run bring forth, in order. -/
def produced {ω : Type} (out : σ → ε → List ω) : σ → List ε → List ω
  | _, [] => []
  | s, e :: events => out s e ++ produced out (step s e) events

/-- A relation of the state to what was brought forth that every step keeps holds along every run. -/
theorem run_produced {ω : Type} {out : σ → ε → List ω} {cond : σ → ε → Prop} {rel : List ω → σ → Prop} {before : List ω}
    {s : σ} {events : List ε} (initially : rel before s)
    (kept : ∀ before s e, rel before s → cond s e → rel (before ++ out s e) (step s e)) (meets : Meets step cond s events) :
    rel (before ++ produced step out s events) (run step s events) := by
  induction events generalizing before s with
  | nil => rwa [produced, List.append_nil]
  | cons e events ih =>
    rw [produced, ← List.append_assoc]
    exact ih (kept before s e initially meets.1) meets.2

theorem run_produced_always {ω : Type} {out : σ → ε → List ω} {rel : List ω → σ → Prop} {before : List ω} {s : σ}
    (initially : rel before s) (kept : ∀ before s e, rel before s → rel (before ++ out s e) (step s e))
    (events : List ε) : rel (before ++ produced step out s events) (run step s events) := by
  have always : Meets step (fun _ _ => True) s events := .of_events step (fun _ _ _ => trivial) s
  exact run_produced step initially (fun before s e holds _ => kept before s e holds) always

theorem produced_sublist {ω : Type} {out : σ → ε → List ω} {asked : ε → Option ω}
    (each : ∀ s e, (out s e).Sublist (asked e).toList) (s : σ) (events : List ε) :
    (produced step out s events).Sublist (events.filterMap asked) := by
  induction events generalizing s with
  | nil => exact .slnil
  | cons e events ih =>
    have both := (each s e).append (ih (step s e))
    rw [produced, List.filterMap_cons]
    cases found : asked e with
    | none => rwa [found] at both
    | some _ => rwa [found] at both

/-- Two systems that are related at the start and kept so by every step are related at the end. -/
theorem run_simulation {τ : Type} {step' : τ → ε → τ} {cond : σ → ε → Prop} {related : σ → τ → Prop} {s : σ} {t : τ}
    {events : List ε} (initially : related s t)
    (kept : ∀ s t e, related s t → cond s e → related (step s e) (step' t e)) (meets : Meets step cond s events) :
    related (run step s events) (run step' t events) := by
  induction events generalizing s t with
  | nil => exact initially
  | cons e events ih => exact ih (kept s t e initially meets.1) meets.2

end Run
end IotGateway
