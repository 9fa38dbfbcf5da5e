import IotGateway.Platform.AlertEngine

/-!
# Disabled rules

Rules may share a name. `removeRule` removes all of them, but `enableRule` stops at the first
one. The others keep firing under the name that was disabled.
-/

namespace IotGateway.Platform
open Text

namespace AlertEngine

variable {δ : Type}

/-- The rules of a name that `enableRule` does not reach. -/
def laterRules (name : Bytes) (rules : List (AlertRule δ)) : List (AlertRule δ) :=
  (rules.filter fun rule => rule.name = name).tail

/-- The alerts under this rule name, in the order in which they were fired. -/
def alertsOf (name : Bytes) (s : AlertEngine δ) : List AlertEvent :=
  (s.fired.map fun alert => alert.2).filter fun event => event.ruleName = name

/-- The calls that may make rules of this name fire again. -/
def Reenables (name : Bytes) : AlertCall δ → Prop
  | .addRule rule => rule.name = name
  | .enableRule other enabled => other = name ∧ enabled = true
  | _ => False

variable [Double δ] {name : Bytes}

/-- No value makes the rule fire under this name. -/
def Quiet (name : Bytes) (rule : AlertRule δ) : Prop :=
  rule.name = name → rule.enabled = true → ∀ value, triggered rule value = false

/-! ### Which rules stay -/

theorem quiet_setEnabled_iff (rules : List (AlertRule δ)) :
    (∀ rule ∈ setEnabled name false rules, Quiet name rule) ↔
      ∀ rule ∈ laterRules name rules, rule.enabled = true → ∀ value, triggered rule value = false := by
  induction rules with
  | nil => simp [setEnabled, laterRules]
  | cons first rules ih =>
    by_cases same : first.name = name
    · have disabled : Quiet name { first with enabled := false } := fun _ enabled => absurd enabled (by simp)
      have others : laterRules name (first :: rules) = rules.filter fun rule => rule.name = name := by
        simp [laterRules, same]
      rw [setEnabled, if_pos same, others, List.forall_mem_cons, and_iff_right disabled]
      simp only [Quiet, List.mem_filter, decide_eq_true_eq, and_imp]
    · have silent : Quiet name first := fun named => absurd named same
      have others : laterRules name (first :: rules) = laterRules name rules := by
        simp [laterRules, same]
      rw [setEnabled, if_neg same, others, List.forall_mem_cons, and_iff_right silent]
      exact ih

omit [Double δ] in
theorem mem_setEnabled {other : Bytes} {enabled : Bool} {rules : List (AlertRule δ)} {rule : AlertRule δ}
    (member : rule ∈ setEnabled other enabled rules) :
    rule ∈ rules ∨ rule.name = other ∧ rule.enabled = enabled := by
  induction rules with
  | nil => exact Or.inl member
  | cons first rules ih =>
    unfold setEnabled at member
    split at member
    · rename_i same
      rcases List.mem_cons.mp member with rfl | rest
      · exact Or.inr ⟨same, rfl⟩
      · exact Or.inl (List.mem_cons_of_mem first rest)
    · rcases List.mem_cons.mp member with rfl | rest
      · exact Or.inl List.mem_cons_self
      · exact (ih rest).imp_left (List.mem_cons_of_mem first)

theorem rules_evaluateRule (s : AlertEngine δ) (rule : AlertRule δ) (reading : Reading δ) :
    (s.evaluateRule rule reading).rules_ = s.rules_ ∧ (s.evaluateRule rule reading).metrics_ = s.metrics_ := by
  rcases s.evaluateRule_cases rule reading with ⟨now, moved, -⟩ | ⟨-, -, -, fires⟩
  · rw [moved]
    exact ⟨rfl, rfl⟩
  · rw [fires]
    exact ⟨rfl, rfl⟩

theorem rules_evaluateRules (s : AlertEngine δ) (rules : List (AlertRule δ)) (readings : Nat → Reading δ) :
    (s.evaluateRules rules readings).rules_ = s.rules_ := by
  induction rules generalizing s readings with
  | nil => rfl
  | cons rule rules ih =>
    rw [evaluateRules, ih]
    exact (s.rules_evaluateRule rule (readings 0)).1

theorem quiet_step {s : AlertEngine δ} (quiet : ∀ rule ∈ s.rules_, Quiet name rule) {call : AlertCall δ}
    (idle : ¬ Reenables name call) : ∀ rule ∈ (s.step call).rules_, Quiet name rule := by
  intro rule member
  cases call with
  | addRule added =>
    rcases List.mem_append.mp member with old | new
    · exact quiet rule old
    · obtain rfl := List.mem_singleton.mp new
      exact fun named => absurd named idle
  | removeRule removed => exact quiet rule (List.mem_of_mem_filter member)
  | enableRule other enabled =>
    rcases mem_setEnabled member with old | ⟨named, flag⟩
    · exact quiet rule old
    · intro same active
      exact absurd ⟨named.symm.trans same, flag.symm.trans active⟩ idle
  | registerMetric metric => exact quiet rule member
  | evaluate readings =>
    rw [step, evaluate, rules_evaluateRules] at member
    exact quiet rule member

/-! ### Which alerts are fired -/

theorem alertsOf_fireAlert (s : AlertEngine δ) (rule : AlertRule δ) (value : δ) (detail : Bytes) :
    alertsOf name (s.fireAlert rule value detail) =
      alertsOf name s ++ if rule.name = name then [s.alertEvent rule value detail] else [] := by
  unfold alertsOf fireAlert
  rw [List.map_append, List.filter_append]
  congr 1
  by_cases same : rule.name = name <;> simp [same, alertEvent]

theorem alertsOf_evaluateRule (s : AlertEngine δ) (rule : AlertRule δ) (reading : Reading δ) :
    alertsOf name s <+: alertsOf name (s.evaluateRule rule reading) := by
  rcases s.evaluateRule_cases rule reading with ⟨now, moved, -⟩ | ⟨-, -, -, fires⟩
  · rw [moved]
    exact List.prefix_rfl
  · rw [fires, alertsOf_fireAlert]
    exact List.prefix_append _ _

theorem alertsOf_evaluateRules (s : AlertEngine δ) (rules : List (AlertRule δ)) (readings : Nat → Reading δ) :
    alertsOf name s <+: alertsOf name (s.evaluateRules rules readings) := by
  induction rules generalizing s readings with
  | nil => exact List.prefix_rfl
  | cons rule rules ih => exact (s.alertsOf_evaluateRule rule _).trans (ih _ _)

theorem alertsOf_quiet {rule : AlertRule δ} (quiet : Quiet name rule) (s : AlertEngine δ) (reading : Reading δ) :
    alertsOf name (s.evaluateRule rule reading) = alertsOf name s := by
  rcases s.evaluateRule_cases rule reading with ⟨now, moved, -⟩ | ⟨enabled, exceeds, -, fires⟩
  · rw [moved]
    rfl
  · have other : rule.name ≠ name := by
      intro same
      rw [quiet same enabled reading.value] at exceeds
      cases exceeds
    rw [fires, alertsOf_fireAlert, if_neg other, List.append_nil]
    rfl

theorem alertsOf_quiet_rules {rules : List (AlertRule δ)} (quiet : ∀ rule ∈ rules, Quiet name rule) (s : AlertEngine δ)
    (readings : Nat → Reading δ) : alertsOf name (s.evaluateRules rules readings) = alertsOf name s := by
  induction rules generalizing s readings with
  | nil => rfl
  | cons rule rules ih =>
    obtain ⟨first, rest⟩ := List.forall_mem_cons.mp quiet
    rw [evaluateRules, ih rest, alertsOf_quiet first]

theorem alertsOf_step {s : AlertEngine δ} (quiet : ∀ rule ∈ s.rules_, Quiet name rule) (call : AlertCall δ) :
    alertsOf name (s.step call) = alertsOf name s := by
  cases call with
  | evaluate readings => exact alertsOf_quiet_rules quiet s readings
  | addRule | removeRule | enableRule | registerMetric => rfl

theorem alertsOf_run {s : AlertEngine δ} (quiet : ∀ rule ∈ s.rules_, Quiet name rule) {later : List (AlertCall δ)}
    (idle : ∀ call ∈ later, ¬ Reenables name call) : alertsOf name (run step s later) = alertsOf name s := by
  induction later generalizing s with
  | nil => rfl
  | cons call later ih =>
    obtain ⟨first, rest⟩ := List.forall_mem_cons.mp idle
    rw [run_cons, ih (quiet_step quiet first) rest, alertsOf_step quiet]

/-! ### A rule that still fires -/

omit [Double δ] in
theorem cooldown_ends (s : AlertEngine δ) (ruleName : Bytes) (cooldownSec : Int) :
    ∃ wait, isInCooldown { s with now := s.now + wait } ruleName cooldownSec = false := by
  unfold isInCooldown
  cases found : s.cooldowns_.lookup ruleName with
  | none => exact ⟨0, by rw [found]⟩
  | some last =>
    refine ⟨last + cooldownSec * kMicros - s.now, ?_⟩
    simp only [found, decide_eq_false_iff_not]
    omega

theorem fires_after_cooldown (s : AlertEngine δ) {rule : AlertRule δ} (enabled : rule.enabled = true)
    (registered : rule.metric ∈ s.metrics_) {value : δ} (exceeds : triggered rule value = true) :
    ∃ wait, alertsOf rule.name (s.evaluateRule rule ⟨wait, value, 0⟩) ≠ alertsOf rule.name s := by
  obtain ⟨wait, ready⟩ := s.cooldown_ends rule.name rule.cooldownSec
  refine ⟨wait, ?_⟩
  unfold evaluateRule
  rw [if_neg (by simp [enabled])]
  dsimp only
  rw [if_neg (by simp [ready]), if_neg (not_not.mpr registered), if_pos exceeds, alertsOf_fireAlert, if_pos rfl]
  intro same
  have longer := congrArg List.length same
  simp [alertsOf] at longer

theorem heard (rules : List (AlertRule δ)) (s : AlertEngine δ) (registered : ∀ rule ∈ rules, rule.metric ∈ s.metrics_)
    (loud : ∃ rule ∈ rules, ¬ Quiet name rule) :
    ∃ readings, alertsOf name (s.evaluateRules rules readings) ≠ alertsOf name s := by
  induction rules generalizing s with
  | nil =>
    obtain ⟨rule, member, -⟩ := loud
    cases member
  | cons first rules ih =>
    obtain ⟨known, rest⟩ := List.forall_mem_cons.mp registered
    by_cases quiet : Quiet name first
    · obtain ⟨rule, member, noisy⟩ := loud
      have later : rule ∈ rules := by
        rcases List.mem_cons.mp member with rfl | later
        · exact absurd quiet noisy
        · exact later
      obtain ⟨value, -⟩ : ∃ value, triggered rule value = true := by
        simp only [Quiet, not_forall] at noisy
        obtain ⟨_, _, value, exceeds⟩ := noisy
        exact ⟨value, by simpa using exceeds⟩
      obtain ⟨readings, grows⟩ := ih (s.evaluateRule first ⟨0, value, 0⟩)
        (by rw [(s.rules_evaluateRule first _).2]; exact rest) ⟨rule, later, noisy⟩
      refine ⟨fun i => i.casesOn ⟨0, value, 0⟩ readings, ?_⟩
      rw [alertsOf_quiet quiet] at grows
      exact grows
    · simp only [Quiet, not_forall] at quiet
      obtain ⟨rfl, enabled, value, exceeds⟩ := quiet
      obtain ⟨wait, grows⟩ := s.fires_after_cooldown enabled known (by simpa using exceeds)
      refine ⟨fun _ => ⟨wait, value, 0⟩, ?_⟩
      intro same
      have before : alertsOf first.name s <+: alertsOf first.name (s.evaluateRule first ⟨wait, value, 0⟩) :=
        s.alertsOf_evaluateRule first _
      have after : alertsOf first.name (s.evaluateRule first ⟨wait, value, 0⟩) <+: alertsOf first.name s :=
        same ▸ (s.evaluateRule first _).alertsOf_evaluateRules rules _
      exact grows (after.eq_of_length (Nat.le_antisymm after.length_le before.length_le))

theorem run_registerMetric (rules : List (AlertRule δ)) (s : AlertEngine δ) :
    let s' := run step s (rules.map fun rule => .registerMetric rule.metric)
    s'.rules_ = s.rules_ ∧ s'.fired = s.fired ∧ s.metrics_ ⊆ s'.metrics_ ∧
      ∀ rule ∈ rules, rule.metric ∈ s'.metrics_ := by
  induction rules generalizing s with
  | nil => exact ⟨rfl, rfl, Finset.Subset.refl _, fun _ member => absurd member List.not_mem_nil⟩
  | cons first rules ih =>
    obtain ⟨same, silent, kept, registered⟩ := ih (s.registerMetric first.metric)
    refine ⟨same, silent, (Finset.subset_insert _ _).trans kept, ?_⟩
    exact List.forall_mem_cons.mpr ⟨kept (Finset.mem_insert_self _ _), registered⟩

/-- After `enableRule(name, false)` no later calls fire an alert under the name, up to one that enables or adds such a rule,
exactly when no other rule of the name is enabled that some value could trigger. -/
theorem disabled_silent_iff (s : AlertEngine δ) (name : Bytes) :
    (∀ later : List (AlertCall δ), (∀ call ∈ later, ¬ Reenables name call) →
        alertsOf name (run step (s.enableRule name false) later) = alertsOf name s) ↔
      ∀ rule ∈ laterRules name s.rules_, rule.enabled = true → ∀ value, triggered rule value = false := by
  rw [← quiet_setEnabled_iff]
  constructor
  · intro silent
    by_contra loud
    push Not at loud
    let disabled := s.enableRule name false
    obtain ⟨same, before, -, registered⟩ := disabled.run_registerMetric disabled.rules_
    obtain ⟨readings, grows⟩ := heard _ _ registered loud
    have stays := silent (disabled.rules_.map (fun rule => .registerMetric rule.metric) ++ [.evaluate readings]) (by
      intro call member
      rcases List.mem_append.mp member with registering | last
      · obtain ⟨rule, -, rfl⟩ := List.mem_map.mp registering
        exact not_false
      · obtain rfl := List.mem_singleton.mp last
        exact not_false)
    rw [run_append, run_cons, run_nil, step, evaluate, same] at stays
    apply grows
    rw [stays]
    unfold alertsOf
    rw [before]
    rfl
  · intro quiet later idle
    exact alertsOf_run quiet idle

/-- A rule that was added twice fires once more after it was disabled. -/
theorem disabled_rule_fires :
    let s := run step (new 0) [.registerMetric (ascii "temp"), .addRule hotRule, .addRule hotRule,
      .enableRule (ascii "hot") false]
    alertsOf (ascii "hot") s = [] ∧
      (alertsOf (ascii "hot") (run step s [.evaluate fun _ => ⟨0, 40, 0⟩])).map AlertEvent.message =
        [ascii "[WARN] hot: metric=temp value=40.00 threshold=30.0"] := by
  decide +kernel

end AlertEngine
end IotGateway.Platform
