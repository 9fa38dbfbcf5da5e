import IotGateway.Lib.Run
import IotGateway.Lib.Recent
import IotGateway.Lib.Quantile
import IotGateway.Platform.MetricsCollector

/-!
# Aggregates of a window

What a metric keeps are the last of its samples that were not pruned. An aggregate is about
those of them that are in the window.
-/

namespace IotGateway.Platform
open Text Quantile

/-- A call, after some time has passed. -/
inductive MetricsCall (δ : Type) where
  | record (name : Bytes) (value : δ) (tags : List (Bytes × Bytes))
  | increment (name : Bytes) (delta : δ)
  | setGauge (name : Bytes) (value : δ)
  | pruneOldSamples

namespace MetricsCollector

variable {δ : Type}

def wait (s : MetricsCollector δ) (time : Nat) : MetricsCollector δ := { s with now := s.now + time }

section Kept

variable [Zero δ]

def call [Add δ] (s : MetricsCollector δ) : MetricsCall δ → MetricsCollector δ
  | .record name value tags => s.record name value tags
  | .increment name delta => s.increment name delta
  | .setGauge name value => s.setGauge name value
  | .pruneOldSamples => s.pruneOldSamples

/-- A collector with all the samples it was given, less the pruned ones. -/
structure Collection (δ : Type) where
  collector : MetricsCollector δ
  unpruned : List (MetricSample δ) := []

/-- The samples that have been given and not pruned, after a call. -/
def after [Add δ] (s : MetricsCollector δ) (unpruned : List (MetricSample δ)) : MetricsCall δ → List (MetricSample δ)
  | .record name value tags => unpruned ++ [⟨name, value, s.now, tags⟩]
  | .increment name delta => unpruned ++ [⟨name, (s.dataAt name).counterValue + delta, s.now, []⟩]
  | .setGauge name value => unpruned ++ [⟨name, value, s.now, []⟩]
  | .pruneOldSamples => unpruned.filter fun sample => s.now - 3600 * kMicros ≤ sample.timestamp

/-- The clock moves on, and then there is a call. -/
def Collection.step [Add δ] (s : Collection δ) (event : Nat × MetricsCall δ) : Collection δ :=
  let collector := s.collector.wait event.1
  ⟨collector.call event.2, collector.after s.unpruned event.2⟩

/-- The samples of a name that are retained: the last 2000 of those not pruned. -/
def Collection.retained (s : Collection δ) (name : Bytes) : List (MetricSample δ) :=
  (s.unpruned.filter fun sample => sample.name = name).rtake kMaxSamplesPerMetric

/-- What the collector stores of every name are the retained samples, and time has not gone back. -/
structure Stores (s : Collection δ) : Prop where
  samples : ∀ name, (s.collector.dataAt name).samples = s.retained name
  ordered : s.unpruned.Pairwise fun earlier later => earlier.timestamp ≤ later.timestamp
  past : ∀ sample ∈ s.unpruned, sample.timestamp ≤ s.collector.now

theorem stores_new (start : Int) : Stores (δ := δ) ⟨{ now := start }, []⟩ where
  samples := fun _ => (List.rtake_nil _).symm
  ordered := List.Pairwise.nil
  past := fun _ member => absurd member List.not_mem_nil

theorem Stores.wait {s : Collection δ} (stores : Stores s) (time : Nat) :
    Stores { s with collector := s.collector.wait time } :=
  { stores with past := fun sample member => (stores.past sample member).trans (by simp [MetricsCollector.wait]) }

theorem Stores.push {s : Collection δ} (stores : Stores s) (sample : MetricSample δ) (data : SampleData δ)
    (current : sample.timestamp = s.collector.now)
    (pushed : data.samples = pushSample (s.collector.dataAt sample.name).samples sample) :
    Stores ⟨s.collector.setData sample.name data, s.unpruned ++ [sample]⟩ where
  samples := by
    intro name
    unfold Collection.retained
    rw [List.filter_append]
    by_cases same : name = sample.name
    · subst same
      have stored : ((s.collector.setData sample.name data).dataAt sample.name).samples = data.samples := by
        simp [dataAt, setData]
      have mine : [sample].filter (fun other => other.name = sample.name) = [sample] := by simp
      rw [stored, pushed, mine, pushSample, stores.samples sample.name]
      exact Recent.room_after_append _ sample kMaxSamplesPerMetric
    · have stored : ((s.collector.setData sample.name data).dataAt name).samples = (s.collector.dataAt name).samples := by
        simp [dataAt, setData, same]
      have other : [sample].filter (fun other => other.name = name) = [] := by simp [Ne.symm same]
      rw [stored, other, List.append_nil]
      exact stores.samples name
  ordered := by
    refine List.pairwise_append.mpr ⟨stores.ordered, List.pairwise_singleton _ _, ?_⟩
    intro earlier old later new
    obtain rfl := List.mem_singleton.mp new
    rw [current]
    exact stores.past earlier old
  past := by
    intro other member
    rcases List.mem_append.mp member with old | new
    · exact stores.past other old
    · obtain rfl := List.mem_singleton.mp new
      exact current.le

theorem Stores.prune [Add δ] {s : Collection δ} (stores : Stores s) :
    Stores ⟨s.collector.pruneOldSamples, s.collector.after s.unpruned .pruneOldSamples⟩ where
  samples := by
    intro name
    have pruned : (s.collector.pruneOldSamples.dataAt name).samples = (s.collector.dataAt name).samples.filter
        fun sample => s.collector.now - 3600 * kMicros ≤ sample.timestamp := by
      unfold dataAt pruneOldSamples
      cases found : s.collector.data_ name <;> simp [found]
    rw [pruned, stores.samples name]
    unfold Collection.retained after
    -- what is pruned is older than what is not
    rw [Recent.filter_rtake, List.filter_filter, List.filter_filter]
    · simp only [Bool.and_comm]
    · refine (stores.ordered.filter _).imp ?_
      intro earlier later order fresh
      simp only [decide_eq_true_eq] at fresh ⊢
      omega
  ordered := stores.ordered.filter _
  past := fun sample member => stores.past sample (List.mem_of_mem_filter member)

theorem Stores.step [Add δ] {s : Collection δ} (stores : Stores s) (event : Nat × MetricsCall δ) : Stores (s.step event) := by
  obtain ⟨time, call⟩ := event
  have later := stores.wait time
  cases call with
  | record name value tags => exact later.push ⟨name, value, _, tags⟩ _ rfl rfl
  | increment name delta => exact later.push ⟨name, _, _, []⟩ _ rfl rfl
  | setGauge name value => exact later.push ⟨name, value, _, []⟩ _ rfl rfl
  | pruneOldSamples => exact later.prune

/-- The latest value of every name is that of its newest sample, as long as it has one. -/
def Newest (s : Collection δ) : Prop :=
  ∀ name sample, (s.unpruned.filter fun sample => sample.name = name).getLast? = some sample →
    s.collector.getLatest name = sample.value

theorem Newest.push {s : Collection δ} (newest : Newest s) (sample : MetricSample δ) (data : SampleData δ)
    (latest : data.latestValue = sample.value) :
    Newest ⟨s.collector.setData sample.name data, s.unpruned ++ [sample]⟩ := by
  intro name last found
  rw [List.filter_append] at found
  by_cases same : sample.name = name
  · subst same
    have mine : [sample].filter (fun other => other.name = sample.name) = [sample] := by simp
    rw [mine, List.getLast?_concat] at found
    obtain rfl := Option.some.inj found
    simpa [getLatest, setData] using latest
  · have other : [sample].filter (fun other => other.name = name) = [] := by simp [same]
    rw [other, List.append_nil] at found
    have before := newest name last found
    simpa [getLatest, setData, Ne.symm same] using before

theorem Newest.prune [Add δ] {s : Collection δ} (newest : Newest s) (stores : Stores s) :
    Newest ⟨s.collector.pruneOldSamples, s.collector.after s.unpruned .pruneOldSamples⟩ := by
  intro name last found
  have kept : s.collector.pruneOldSamples.getLatest name = s.collector.getLatest name := by
    unfold getLatest pruneOldSamples
    simp only [Option.map_map]
    rfl
  rw [kept]
  apply newest
  unfold after at found
  rw [List.filter_comm] at found
  apply Recent.getLast?_of_filter _ found
  refine (stores.ordered.filter _).imp ?_
  intro earlier later order fresh
  simp only [decide_eq_true_eq] at fresh ⊢
  omega

theorem Newest.step [Add δ] {s : Collection δ} (newest : Newest s) (stores : Stores s) (event : Nat × MetricsCall δ) :
    Newest (s.step event) := by
  obtain ⟨time, call⟩ := event
  have later : Newest { s with collector := s.collector.wait time } := newest
  cases call with
  | record name value tags => exact later.push ⟨name, value, _, tags⟩ _ rfl
  | increment name delta => exact later.push ⟨name, _, _, []⟩ _ rfl
  | setGauge name value => exact later.push ⟨name, value, _, []⟩ _ rfl
  | pruneOldSamples => exact later.prune (stores.wait time)

/-- `getLatest` answers with the newest retained sample. -/
theorem latest_is_newest [Add δ] (start : Int) (events : List (Nat × MetricsCall δ)) {name : Bytes}
    {sample : MetricSample δ} (found : ((run Collection.step ⟨{ now := start }, []⟩ events).retained name).getLast? = some sample) :
    (run Collection.step ⟨{ now := start }, []⟩ events).collector.getLatest name = sample.value := by
  obtain ⟨-, newest⟩ := run_kept Collection.step (fun s => Stores s ∧ Newest s)
    ⟨stores_new start, fun _ _ nothing => by cases nothing⟩
    (fun _ event before => ⟨before.1.step event, before.2.step before.1 event⟩) events
  exact newest name sample (Recent.getLast?_of_rtake found)

end Kept

/-! ### What is computed of a window -/

section Window

/-- The least of the values such that at least this percentage of them is not above it. -/
def Covers [LinearOrder δ] (values : List δ) (percent : Nat) (v : δ) : Prop :=
  IsLeast {v | v ∈ values ∧ percent * values.length ≤ 100 * values.countP (· ≤ v)} v

structure Summarizes [LinearOrder δ] (values : List δ) (agg : AggregatedMetric δ) : Prop where
  min : IsLeast {v | v ∈ values} agg.min
  max : IsGreatest {v | v ∈ values} agg.max
  p50 : Covers values 50 agg.p50
  p95 : Covers values 95 agg.p95
  p99 : Covers values 99 agg.p99
  order : agg.min ≤ agg.p50 ∧ agg.p50 ≤ agg.p95 ∧ agg.p95 ≤ agg.p99 ∧ agg.p99 ≤ agg.max

section Coverage

variable [LinearOrder δ] {values : List δ} {percent : Nat} {v : δ}

theorem covers_iff : Covers values percent v ↔ HasRank values ((percent * values.length + 99) / 100) v := by
  have share : ∀ count, percent * values.length ≤ 100 * count ↔ (percent * values.length + 99) / 100 ≤ count := by
    intro count
    omega
  unfold Covers HasRank
  simp only [share]

theorem Covers.perm (covers : Covers values percent v) {others : List δ} (same : values.Perm others) :
    Covers others percent v := by
  rw [covers_iff] at covers ⊢
  rw [← same.length_eq]
  exact covers.perm same

theorem Covers.le {more : Nat} {u : δ} (covers : Covers values percent v) (order : percent ≤ more)
    (above : Covers values more u) : v ≤ u := by
  obtain ⟨member, enough⟩ := above.1
  apply covers.2
  exact ⟨member, (Nat.mul_le_mul_right _ order).trans enough⟩

end Coverage

variable [LinearOrder δ] [Zero δ]

omit [LinearOrder δ] in
/-- The index of a percentile is inside, and one less than the rank that the percentage asks for. -/
theorem percentile_eq {sorted : List δ} (nonempty : 0 < sorted.length) {percent : Nat} (positive : 0 < percent)
    (atMost : percent ≤ 100) :
    ∃ (idx : Nat) (inside : idx < sorted.length), idx + 1 = (percent * sorted.length + 99) / 100 ∧
      percentile sorted percent = sorted[idx] := by
  have lower : 0 < percent * sorted.length := Nat.mul_pos positive nonempty
  have upper : percent * sorted.length ≤ 100 * sorted.length := Nat.mul_le_mul_right _ atMost
  have inside : (percent * sorted.length + 99) / 100 - 1 < sorted.length := by omega
  refine ⟨_, inside, by omega, ?_⟩
  rw [percentile, if_neg (Nat.not_le.mpr inside), List.getD_eq_getElem?_getD, List.getElem?_eq_getElem inside]
  rfl

theorem covers_percentile {sorted : List δ} (ordered : sorted.Pairwise (· ≤ ·)) (nonempty : sorted ≠ []) {percent : Nat}
    (positive : 0 < percent) (atMost : percent ≤ 100) : Covers sorted percent (percentile sorted percent) := by
  obtain ⟨idx, inside, rank, same⟩ := percentile_eq (List.length_pos_of_ne_nil nonempty) positive atMost
  rw [covers_iff, ← rank, same]
  exact hasRank_getElem ordered inside

/-- What `getAggregated` computes of the values in the window, once they are sorted. -/
theorem summarizes_sorted {values sorted : List δ} (same : sorted.Perm values) (ordered : sorted.Pairwise (· ≤ ·))
    (nonempty : values ≠ []) {agg : AggregatedMetric δ} (min : agg.min = sorted.headD 0) (max : agg.max = sorted.getLastD 0)
    (p50 : agg.p50 = percentile sorted 50) (p95 : agg.p95 = percentile sorted 95)
    (p99 : agg.p99 = percentile sorted 99) : Summarizes values agg := by
  have some : sorted ≠ [] := by
    rintro rfl
    exact nonempty same.symm.eq_nil
  have covers : ∀ percent, 0 < percent → percent ≤ 100 → Covers values percent (percentile sorted percent) := by
    intro percent positive atMost
    exact (covers_percentile ordered some positive atMost).perm same
  have least : IsLeast {v | v ∈ values} agg.min := by
    rw [min]
    simpa only [same.mem_iff] using isLeast_headD ordered some 0
  have greatest : IsGreatest {v | v ∈ values} agg.max := by
    rw [max]
    simpa only [same.mem_iff] using isGreatest_getLastD ordered some 0
  have fifty : Covers values 50 agg.p50 := by
    rw [p50]
    exact covers 50 (by decide) (by decide)
  have ninetyFive : Covers values 95 agg.p95 := by
    rw [p95]
    exact covers 95 (by decide) (by decide)
  have ninetyNine : Covers values 99 agg.p99 := by
    rw [p99]
    exact covers 99 (by decide) (by decide)
  refine ⟨least, greatest, fifty, ninetyFive, ninetyNine, ?_, ?_, ?_, ?_⟩
  · exact least.2 fifty.1.1
  · exact fifty.le (by decide) ninetyFive
  · exact ninetyFive.le (by decide) ninetyNine
  · exact greatest.2 ninetyNine.1.1

variable [Add δ] [Div δ] [NatCast δ]

/-- The values of a name that are in the window of a query. -/
def windowValues (now : Int) (windowSec : Int) (samples : List (MetricSample δ)) : List δ :=
  (samples.filter fun sample => now - windowSec * kMicros ≤ sample.timestamp).map fun sample => sample.value

theorem getAggregated_describes (s : MetricsCollector δ) (name : Bytes) (windowSec : Int) :
    let values := windowValues s.now windowSec (s.dataAt name).samples
    (s.getAggregated name windowSec).sampleCount = values.length ∧
      (values ≠ [] → Summarizes values (s.getAggregated name windowSec)) := by
  intro values
  cases found : s.data_ name with
  | none =>
    have nothing : values = [] := by simp [values, windowValues, dataAt, found]
    have empty : (s.getAggregated name windowSec).sampleCount = 0 := by simp [getAggregated, found]
    rw [empty, nothing]
    exact ⟨rfl, fun some => absurd rfl some⟩
  | some data =>
    have stored : values = windowValues s.now windowSec data.samples := by simp [values, dataAt, found]
    by_cases empty : values = []
    · have none : (s.getAggregated name windowSec).sampleCount = 0 := by
        rw [stored, windowValues] at empty
        simp only [getAggregated, found, if_pos empty]
        split <;> rfl
      rw [none, empty]
      exact ⟨rfl, fun some => absurd rfl some⟩
    · have samples : data.samples ≠ [] := by
        intro nothing
        rw [stored, nothing] at empty
        exact empty rfl
      have sorted := List.perm_insertionSort (· ≤ ·) values
      have ordered := List.pairwise_insertionSort (· ≤ ·) values
      rw [← sorted.length_eq]
      rw [stored, windowValues] at empty sorted ordered ⊢
      unfold getAggregated
      simp only [found, if_neg samples, if_neg empty]
      exact ⟨trivial, fun some => summarizes_sorted sorted ordered some rfl rfl rfl rfl rfl⟩

/-- Whatever was recorded and pruned, an aggregate is about the retained samples in its window. -/
theorem aggregates_describe_window (start : Int) (events : List (Nat × MetricsCall δ)) (time : Nat) (name : Bytes)
    (windowSec : Int) :
    let s := run Collection.step ⟨{ now := start }, []⟩ events
    let query := s.collector.wait time
    let values := windowValues query.now windowSec (s.retained name)
    (query.getAggregated name windowSec).sampleCount = values.length ∧
      (values ≠ [] → Summarizes values (query.getAggregated name windowSec)) := by
  intro s query values
  have stores : Stores s := run_kept Collection.step Stores (stores_new start) (fun _ event before => before.step event) events
  have retained : (query.dataAt name).samples = s.retained name := stores.samples name
  have described := query.getAggregated_describes name windowSec
  rw [retained] at described
  exact described

end Window

/-- Four samples, one of them too old for the window, another one old enough to be pruned. -/
def temperatures : List (Nat × MetricsCall Int) :=
  [(0, .record (ascii "temp") 7 []), (4000 * 1000000, .pruneOldSamples), (0, .increment (ascii "temp") 3),
    (90 * 1000000, .setGauge (ascii "temp") 5), (1, .record (ascii "temp") 4 [])]

example : (run Collection.step ⟨{ now := 0 }, []⟩ temperatures).collector.getAggregated (ascii "temp") 60 =
    { name := ascii "temp", min := 4, max := 5, avg := 4, p50 := 4, p95 := 5, p99 := 5, sampleCount := 2,
      windowStart := 4030000001, windowEnd := 4090000001 } := by
  decide +kernel

end MetricsCollector
end IotGateway.Platform
