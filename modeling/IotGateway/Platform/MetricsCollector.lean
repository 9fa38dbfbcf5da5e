import IotGateway.Lib.Text
import Mathlib.Data.List.Sort

/-!
# The metrics collector

`MetricsCollector.cpp`: samples of named metrics, bounded in number and in age, and what
is computed of a window of them. Values come from any type with an order and arithmetic,
without laws for the latter. The clock counts microseconds.
-/

namespace IotGateway.Platform
open Text

structure MetricSample (δ : Type) where
  name : Bytes
  value : δ
  timestamp : Int
  tags : List (Bytes × Bytes) := []
  deriving DecidableEq, Repr

structure AggregatedMetric (δ : Type) where
  name : Bytes
  min : δ
  max : δ
  avg : δ
  p50 : δ
  p95 : δ
  p99 : δ
  sampleCount : Int := 0
  windowStart : Int := 0
  windowEnd : Int := 0
  deriving DecidableEq, Repr

structure SampleData (δ : Type) where
  samples : List (MetricSample δ) := []
  latestValue : δ
  counterValue : δ
  deriving DecidableEq, Repr

/-- `data_` maps a name to what is kept under it, if anything is. -/
structure MetricsCollector (δ : Type) where
  data_ : Bytes → Option (SampleData δ) := fun _ => none
  now : Int

namespace MetricsCollector

def kMaxSamplesPerMetric : Nat := 2000

def kMicros : Int := 1000000

variable {δ : Type}

section Recording

variable [Zero δ]

/-- `data_[name]`, which creates what is not there. -/
def dataAt (s : MetricsCollector δ) (name : Bytes) : SampleData δ := (s.data_ name).getD { latestValue := 0, counterValue := 0 }

def setData (s : MetricsCollector δ) (name : Bytes) (data : SampleData δ) : MetricsCollector δ :=
  { s with data_ := fun other => if other = name then some data else s.data_ other }

/-- A new sample goes in at the end, and the oldest one goes when there are too many. -/
def pushSample (samples : List (MetricSample δ)) (sample : MetricSample δ) : List (MetricSample δ) :=
  if kMaxSamplesPerMetric < (samples ++ [sample]).length then (samples ++ [sample]).tail else samples ++ [sample]

def record (s : MetricsCollector δ) (name : Bytes) (value : δ) (tags : List (Bytes × Bytes)) : MetricsCollector δ :=
  let data := s.dataAt name
  s.setData name
    { data with samples := pushSample data.samples ⟨name, value, s.now, tags⟩, latestValue := value }

def increment [Add δ] (s : MetricsCollector δ) (name : Bytes) (delta : δ) : MetricsCollector δ :=
  let data := s.dataAt name
  let counterValue := data.counterValue + delta
  s.setData name
    { samples := pushSample data.samples ⟨name, counterValue, s.now, []⟩, latestValue := counterValue, counterValue }

def setGauge (s : MetricsCollector δ) (name : Bytes) (value : δ) : MetricsCollector δ := s.record name value []

end Recording

def pruneOldSamples (s : MetricsCollector δ) : MetricsCollector δ :=
  let cutoff := s.now - 3600 * kMicros
  let prune (data : SampleData δ) : SampleData δ :=
    { data with samples := data.samples.filter fun sample => ¬ sample.timestamp < cutoff }
  { s with data_ := fun name => (s.data_ name).map prune }

def getLatest [Zero δ] (s : MetricsCollector δ) (name : Bytes) : δ := ((s.data_ name).map (·.latestValue)).getD 0

section Aggregation

variable [LinearOrder δ] [Zero δ] [Add δ] [Div δ] [NatCast δ]

/-- The lambda of `getAggregated`, for a share in percent. There are values, so the index does not go below zero. -/
def percentile (values : List δ) (percent : Nat) : δ :=
  let idx := (percent * values.length + 99) / 100 - 1
  let idx := if values.length ≤ idx then values.length - 1 else idx
  values.getD idx 0

def getAggregated (s : MetricsCollector δ) (name : Bytes) (windowSec : Int) : AggregatedMetric δ :=
  let agg : AggregatedMetric δ := { name, min := 0, max := 0, avg := 0, p50 := 0, p95 := 0, p99 := 0 }
  match s.data_ name with
  | none => agg
  | some data =>
    if data.samples = [] then agg
    else
      let cutoff := s.now - windowSec * kMicros
      let agg := { agg with windowStart := cutoff, windowEnd := s.now }
      let values := (data.samples.filter fun sample => cutoff ≤ sample.timestamp).map (·.value)
      if values = [] then agg
      else
        let values := values.insertionSort (· ≤ ·)
        { agg with
          sampleCount := values.length
          min := values.headD 0
          max := values.getLastD 0
          avg := values.foldl (· + ·) 0 / (values.length : δ)
          p50 := percentile values 50
          p95 := percentile values 95
          p99 := percentile values 99 }

end Aggregation

end MetricsCollector
end IotGateway.Platform
