import IotGateway.Lib.Run
import IotGateway.Lib.Text
import Mathlib.Data.List.AList
import Mathlib.Data.Finset.Insert

/-!
# The alert engine

`AlertEngine.cpp`: rules over metrics, the alerts they fire, and a cooldown for each rule
name. Logging is left out. Of a `double` the engine needs the operations of `Double` only;
time differences are compared exactly. The clock counts microseconds and is the last time
that was read.
-/

namespace IotGateway.Platform
open Text

class Double (δ : Type) where
  ofInt : Int → δ
  lt : δ → δ → Bool
  le : δ → δ → Bool
  /-- `std::abs(a - b) < 0.001`. -/
  near : δ → δ → Bool
  /-- What `printf` prints with this many decimals. -/
  fixed : Nat → δ → Bytes

instance : Double Int where
  ofInt n := n
  lt a b := a < b
  le a b := a ≤ b
  near a b := a = b
  fixed decimals n := decimal n ++ ascii "." ++ List.replicate decimals 48

inductive AlertLevel where
  | info
  | warn
  | critical
  | fatal
  deriving DecidableEq, Repr

structure AlertRule (δ : Type) where
  name : Bytes
  metric : Bytes
  condition : Bytes
  threshold : δ
  level : AlertLevel := .warn
  cooldownSec : Int := 300
  enabled : Bool := true
  deriving DecidableEq, Repr

structure AlertEvent where
  id : Int
  ruleName : Bytes
  metric : Bytes
  level : AlertLevel
  message : Bytes
  detail : Bytes
  timestamp : Int
  resolved : Bool := false
  resolvedAt : Int := 0
  deriving DecidableEq, Repr

structure AlertEngine (δ : Type) where
  rules_ : List (AlertRule δ) := []
  /-- The names that have a provider. What a provider returns is up to the environment. -/
  metrics_ : Finset Bytes := ∅
  alertHistory_ : List AlertEvent := []
  cooldowns_ : AList fun _ : Bytes => Int := ∅
  nextAlertId_ : Int := 1
  now : Int
  /-- Every alert so far with the rule that fired it. Only theorems look at it. -/
  fired : List (AlertRule δ × AlertEvent) := []

/-- What the environment contributes to the evaluation of one rule: the time until the cooldown is checked, the value of
the metric, and the time until the alert is stamped. -/
structure Reading (δ : Type) where
  wait : Int
  value : δ
  delay : Int
  deriving DecidableEq, Repr

namespace AlertEngine

def kMaxHistorySize : Nat := 1000

def kMicros : Int := 1000000

variable {δ : Type}

/-! ### Rules -/

def addRule (s : AlertEngine δ) (rule : AlertRule δ) : AlertEngine δ := { s with rules_ := s.rules_ ++ [rule] }

def removeRule (s : AlertEngine δ) (name : Bytes) : AlertEngine δ :=
  { s with rules_ := s.rules_.filter fun rule => rule.name ≠ name }

/-- The loop of `enableRule`, which stops at the first rule of the name. -/
def setEnabled (name : Bytes) (enabled : Bool) : List (AlertRule δ) → List (AlertRule δ)
  | [] => []
  | rule :: rules => if rule.name = name then { rule with enabled } :: rules else rule :: setEnabled name enabled rules

def enableRule (s : AlertEngine δ) (name : Bytes) (enabled : Bool) : AlertEngine δ :=
  { s with rules_ := setEnabled name enabled s.rules_ }

def registerMetric (s : AlertEngine δ) (name : Bytes) : AlertEngine δ := { s with metrics_ := insert name s.metrics_ }

/-! ### Evaluation -/

section Evaluation

variable [Double δ]

def triggered (rule : AlertRule δ) (value : δ) : Bool :=
  if rule.condition = ascii ">" then Double.lt rule.threshold value
  else if rule.condition = ascii "<" then Double.lt value rule.threshold
  else if rule.condition = ascii "==" then Double.near value rule.threshold
  else if rule.condition = ascii ">=" then Double.le rule.threshold value
  else false

def isInCooldown (s : AlertEngine δ) (ruleName : Bytes) (cooldownSec : Int) : Bool :=
  match s.cooldowns_.lookup ruleName with
  | none => false
  | some last => s.now - last < cooldownSec * kMicros

def levelStr : AlertLevel → Bytes
  | .info => ascii "INFO"
  | .warn => ascii "WARN"
  | .critical => ascii "CRITICAL"
  | .fatal => ascii "FATAL"

def messageText (rule : AlertRule δ) (currentValue : δ) : Bytes :=
  ascii "[" ++ levelStr rule.level ++ ascii "] " ++ cstr rule.name ++ ascii ": metric=" ++ cstr rule.metric ++
    ascii " value=" ++ Double.fixed 2 currentValue ++ ascii " threshold=" ++ Double.fixed 1 rule.threshold

def detailText (rule : AlertRule δ) (value : δ) : Bytes :=
  ascii "\x7b\"metric\":\"" ++ cstr rule.metric ++ ascii "\",\"value\":" ++ Double.fixed 2 value ++
    ascii ",\"threshold\":" ++ Double.fixed 2 rule.threshold ++ ascii "\x7d"

/-- The event that `fireAlert` builds. -/
def alertEvent (s : AlertEngine δ) (rule : AlertRule δ) (currentValue : δ) (detail : Bytes) : AlertEvent where
  id := s.nextAlertId_
  ruleName := rule.name
  metric := rule.metric
  level := rule.level
  message := snprintf 256 (messageText rule currentValue)
  detail
  timestamp := s.now

def fireAlert (s : AlertEngine δ) (rule : AlertRule δ) (currentValue : δ) (detail : Bytes) : AlertEngine δ :=
  let event := s.alertEvent rule currentValue detail
  { s with
    nextAlertId_ := s.nextAlertId_ + 1
    cooldowns_ := s.cooldowns_.insert rule.name event.timestamp
    alertHistory_ :=
      (if kMaxHistorySize ≤ s.alertHistory_.length then s.alertHistory_.tail else s.alertHistory_) ++ [event]
    fired := s.fired ++ [(rule, event)] }

/-- One pass of the loop of `evaluate`. -/
def evaluateRule (s : AlertEngine δ) (rule : AlertRule δ) (reading : Reading δ) : AlertEngine δ :=
  if ¬ rule.enabled then s
  else
    let s := { s with now := s.now + reading.wait }
    if s.isInCooldown rule.name rule.cooldownSec then s
    else if rule.metric ∉ s.metrics_ then s
    else if triggered rule reading.value then
      let s := { s with now := s.now + reading.delay }
      s.fireAlert rule reading.value (snprintf 256 (detailText rule reading.value))
    else s

/-- The loop of `evaluate`, with a reading for each rule. -/
def evaluateRules (s : AlertEngine δ) : List (AlertRule δ) → (Nat → Reading δ) → AlertEngine δ
  | [], _ => s
  | rule :: rules, readings => (s.evaluateRule rule (readings 0)).evaluateRules rules fun i => readings (i + 1)

def evaluate (s : AlertEngine δ) (readings : Nat → Reading δ) : AlertEngine δ := s.evaluateRules s.rules_ readings

end Evaluation

def getRecentAlerts (s : AlertEngine δ) (limit : Int) : List AlertEvent :=
  let start := max 0 ((s.alertHistory_.length : Int) - limit)
  s.alertHistory_.drop start.toNat

/-- The constructor, with its built-in rules. -/
def new [Double δ] (now : Int) : AlertEngine δ :=
  let rule (name metric condition : String) (threshold : Int) (level : AlertLevel) (cooldownSec : Int) : AlertRule δ :=
    { name := ascii name, metric := ascii metric, condition := ascii condition, threshold := Double.ofInt threshold, level,
      cooldownSec }
  let engine : AlertEngine δ := { now }
  let engine := engine.addRule (rule "device_offline_rate" "gateway.devices.offline" ">" 5 .warn 300)
  let engine := engine.addRule (rule "high_pending_commands" "gateway.commands.pending" ">" 1000 .warn 120)
  let engine := engine.addRule (rule "node_count_low" "cluster.nodes.online" "<" 1 .critical 60)
  engine.addRule (rule "redis_disconnected" "redis.connected" "==" 0 .fatal 30)

end AlertEngine

inductive AlertCall (δ : Type) where
  | addRule (rule : AlertRule δ)
  | removeRule (name : Bytes)
  | enableRule (name : Bytes) (enabled : Bool)
  | registerMetric (name : Bytes)
  | evaluate (readings : Nat → Reading δ)

namespace AlertEngine

variable {δ : Type} [Double δ]

def step (s : AlertEngine δ) : AlertCall δ → AlertEngine δ
  | .addRule rule => s.addRule rule
  | .removeRule name => s.removeRule name
  | .enableRule name enabled => s.enableRule name enabled
  | .registerMetric name => s.registerMetric name
  | .evaluate readings => s.evaluate readings

/-- The evaluation of a rule moves the clock and no more, or it fires an alert after the cooldown of the name. -/
theorem evaluateRule_cases (s : AlertEngine δ) (rule : AlertRule δ) (reading : Reading δ) :
    (∃ now, s.evaluateRule rule reading = { s with now } ∧ (now = s.now ∨ now = s.now + reading.wait)) ∨
      rule.enabled = true ∧ triggered rule reading.value = true ∧
        (∀ last, s.cooldowns_.lookup rule.name = some last → last + rule.cooldownSec * kMicros ≤ s.now + reading.wait) ∧
        s.evaluateRule rule reading =
          { s with now := s.now + reading.wait + reading.delay }.fireAlert rule reading.value
            (snprintf 256 (detailText rule reading.value)) := by
  unfold evaluateRule
  split
  · exact Or.inl ⟨s.now, rfl, Or.inl rfl⟩
  · rename_i enabled
    dsimp only
    split
    · exact Or.inl ⟨_, rfl, Or.inr rfl⟩
    · rename_i ready
      split
      · exact Or.inl ⟨_, rfl, Or.inr rfl⟩
      · split
        · rename_i exceeds
          refine Or.inr ⟨by simpa using enabled, exceeds, ?_, rfl⟩
          intro last found
          simp only [isInCooldown, found, decide_eq_true_eq] at ready
          omega
        · exact Or.inl ⟨_, rfl, Or.inr rfl⟩

def hotRule : AlertRule Int where
  name := ascii "hot"
  metric := ascii "temp"
  condition := ascii ">"
  threshold := 30

end AlertEngine
end IotGateway.Platform
