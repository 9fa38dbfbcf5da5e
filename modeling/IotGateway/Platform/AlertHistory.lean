import IotGateway.Lib.Recent
import IotGateway.Platform.AlertEngine

/-!
# Alerts over a whole run

Cooldowns are kept by rule name, and a pass over the rules may fire several of one name. The
history makes room before it takes an alert.
-/

namespace IotGateway.Platform
open Text

/-- The clock does not go back during a call. -/
def AlertCall.Forward {δ : Type} : AlertCall δ → Prop
  | .evaluate readings => ∀ i, 0 ≤ (readings i).wait ∧ 0 ≤ (readings i).delay
  | _ => True

namespace AlertEngine

variable {δ : Type}

/-- When a rule fires a second alert of its name, its cooldown is over. -/
def Spaced (earlier later : AlertRule δ × AlertEvent) : Prop :=
  earlier.2.ruleName = later.2.ruleName → earlier.2.timestamp + later.1.cooldownSec * kMicros ≤ later.2.timestamp

/-- The fields of the engine describe the alerts that were fired. -/
structure Describes (s : AlertEngine δ) : Prop where
  ids : s.fired.map (fun alert => alert.2.id) = (List.range s.fired.length).map fun i : Nat => (i : Int) + 1
  next : s.nextAlertId_ = s.fired.length + 1
  history : s.alertHistory_ = (s.fired.map Prod.snd).rtake kMaxHistorySize
  spaced : s.fired.Pairwise Spaced
  cooldown : ∀ alert ∈ s.fired, ∃ last, s.cooldowns_.lookup alert.2.ruleName = some last ∧ alert.2.timestamp ≤ last
  past : ∀ name last, s.cooldowns_.lookup name = some last → last ≤ s.now

theorem Describes.later {s : AlertEngine δ} (describes : Describes s) {now : Int} (later : s.now ≤ now) :
    Describes { s with now } :=
  { describes with past := fun name last found => (describes.past name last found).trans later }

variable [Double δ]

theorem describes_new (now : Int) : Describes (new now : AlertEngine δ) where
  ids := rfl
  next := rfl
  history := (List.rtake_nil _).symm
  spaced := List.Pairwise.nil
  cooldown := fun _ member => absurd member List.not_mem_nil
  past := fun _ _ found => by cases found

theorem Describes.fireAlert {s : AlertEngine δ} (describes : Describes s) {rule : AlertRule δ} {now : Int}
    (later : s.now ≤ now)
    (ready : ∀ last, s.cooldowns_.lookup rule.name = some last → last + rule.cooldownSec * kMicros ≤ now)
    (value : δ) (detail : Bytes) : Describes ({ s with now }.fireAlert rule value detail) where
  ids := by
    simp only [AlertEngine.fireAlert, List.map_append, List.length_append, List.range_succ, List.length_singleton,
      describes.ids]
    simp [alertEvent, describes.next]
  next := by
    simp only [AlertEngine.fireAlert, describes.next, List.length_append, List.length_singleton]
    push_cast
    ring
  history := by
    simp only [AlertEngine.fireAlert, List.map_append, describes.history]
    exact Recent.append_after_room _ _ (by decide)
  spaced := by
    refine List.pairwise_append.mpr ⟨describes.spaced, List.pairwise_singleton _ _, ?_⟩
    intro earlier old fresh new same
    obtain rfl := List.mem_singleton.mp new
    obtain ⟨last, found, bound⟩ := describes.cooldown earlier old
    rw [same] at found
    exact (Int.add_le_add_right bound _).trans (ready last found)
  cooldown := by
    intro alert member
    simp only [AlertEngine.fireAlert]
    by_cases same : alert.2.ruleName = rule.name
    · refine ⟨now, by rw [same]; exact AList.lookup_insert _, ?_⟩
      rcases List.mem_append.mp member with old | new
      · obtain ⟨last, found, bound⟩ := describes.cooldown alert old
        exact bound.trans ((describes.past _ last found).trans later)
      · obtain rfl := List.mem_singleton.mp new
        exact le_refl now
    · rw [AList.lookup_insert_ne same]
      rcases List.mem_append.mp member with old | new
      · exact describes.cooldown alert old
      · obtain rfl := List.mem_singleton.mp new
        exact absurd rfl same
  past := by
    intro name last found
    simp only [AlertEngine.fireAlert] at found
    by_cases same : name = rule.name
    · subst same
      rw [AList.lookup_insert] at found
      exact (Option.some.inj found).symm.le
    · rw [AList.lookup_insert_ne same] at found
      exact (describes.past name last found).trans later

theorem Describes.evaluateRule {s : AlertEngine δ} (describes : Describes s) (rule : AlertRule δ) {reading : Reading δ}
    (forward : 0 ≤ reading.wait ∧ 0 ≤ reading.delay) : Describes (s.evaluateRule rule reading) := by
  obtain ⟨wait, delay⟩ := forward
  rcases s.evaluateRule_cases rule reading with ⟨now, moved, clock⟩ | ⟨-, -, ready, fires⟩
  · rw [moved]
    exact describes.later (by omega)
  · rw [fires]
    apply describes.fireAlert (by omega)
    intro last found
    have elapsed := ready last found
    omega

theorem Describes.evaluateRules {s : AlertEngine δ} (describes : Describes s) (rules : List (AlertRule δ))
    {readings : Nat → Reading δ} (forward : ∀ i, 0 ≤ (readings i).wait ∧ 0 ≤ (readings i).delay) :
    Describes (s.evaluateRules rules readings) := by
  induction rules generalizing s readings with
  | nil => exact describes
  | cons rule rules ih => exact ih (describes.evaluateRule rule (forward 0)) fun i => forward (i + 1)

theorem Describes.step {s : AlertEngine δ} (describes : Describes s) {call : AlertCall δ} (forward : call.Forward) :
    Describes (s.step call) := by
  cases call with
  | evaluate readings => exact describes.evaluateRules s.rules_ forward
  | addRule | removeRule | enableRule | registerMetric => exact { describes with }

/-- Whatever the rules and the values, alerts of one name keep the cooldown of the later rule, ids count the alerts, and
the history is the last of them. -/
theorem alerts_spaced_and_kept (start : Int) (calls : List (AlertCall δ)) (forward : ∀ call ∈ calls, call.Forward) :
    let s := run step (new start) calls
    let alerts := s.fired.map Prod.snd
    let n := alerts.length
    s.fired.Pairwise Spaced ∧ alerts.map AlertEvent.id = (List.range n).map (fun i : Nat => (i : Int) + 1) ∧
      s.alertHistory_ = alerts.rtake (min n 1000) ∧
      ∀ limit : Nat, s.getRecentAlerts limit = alerts.rtake (min limit (min n 1000)) := by
  intro s alerts n
  have describes : Describes s :=
    run_invariant step (describes_new start) (fun _ _ before ahead => before.step ahead)
      (Meets.of_events step (fun call member _ => forward call member) _)
  have history : s.alertHistory_ = alerts.rtake (min n 1000) := by
    rw [describes.history, Nat.min_comm, ← Recent.rtake_rtake, Recent.rtake_of_length_le (le_refl n)]
    rfl
  refine ⟨describes.spaced, ?_, history, ?_⟩
  · rw [List.map_map, show n = s.fired.length from List.length_map _]
    exact describes.ids
  · intro limit
    have size : s.alertHistory_.length = min n 1000 := by
      rw [history, Recent.length_rtake]
      omega
    rw [getRecentAlerts, ← Recent.rtake_rtake, ← history, List.rtake]
    congr 1
    omega

/-- The second evaluation falls into the cooldown of the first. -/
def hotRun : List (AlertCall Int) :=
  [.registerMetric (ascii "temp"), .addRule hotRule, .evaluate fun _ => ⟨1, 40, 0⟩, .evaluate fun _ => ⟨1000, 45, 0⟩,
    .evaluate fun _ => ⟨300 * kMicros, 41, 5⟩]

theorem hot_alerts_spaced :
    let s := run step (new 0) hotRun
    s.fired.Pairwise Spaced ∧ s.alertHistory_.map AlertEvent.id = [1, 2] ∧
      (s.getRecentAlerts 1).map AlertEvent.timestamp = [1500005010] := by
  have forward : ∀ call ∈ hotRun, call.Forward := by
    simp [hotRun, AlertCall.Forward, kMicros]
  obtain ⟨spaced, ids, history, recent⟩ := alerts_spaced_and_kept 0 hotRun forward
  refine ⟨spaced, ?_, ?_⟩
  · rw [history]
    decide +kernel
  · have latest := recent 1
    rw [Nat.cast_one] at latest
    rw [latest]
    decide +kernel

end AlertEngine
end IotGateway.Platform
