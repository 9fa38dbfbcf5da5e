import IotGateway.Lib.Run
import IotGateway.Storage.TsdbClient

/-!
# Batches of telemetry

The batch is a buffer and a counter that are kept apart. Behind them stands a list of
accepted lines, cut into the bodies that were posted and the lines still held.
-/

namespace IotGateway.Storage
open Text

inductive TsdbCall where
  | connect
  | writeDeviceData (now : Nat) (deviceId measurement value : Bytes)
  | flush
  | disconnect

namespace TsdbClient

def call (t : TsdbClient) : TsdbCall → TsdbClient
  | .connect => t.connect
  | .writeDeviceData now deviceId measurement value => t.writeDeviceData now deviceId measurement value
  | .flush => t.flush
  | .disconnect => t.disconnect

/-- The line that a call adds to the batch, if any. -/
def accepts (t : TsdbClient) : TsdbCall → List Bytes
  | .writeDeviceData now deviceId measurement value =>
    if t.connected_ then [lineText deviceId measurement value (now * 1000)].filter (Fits ·) else []
  | _ => []

/-- A client with the lines it has accepted, in order. -/
structure Batching where
  client : TsdbClient
  accepted : List Bytes := []

def Batching.step (s : Batching) (call : TsdbCall) : Batching :=
  ⟨s.client.call call, s.accepted ++ s.client.accepts call⟩

/-- What may be posted in one body. -/
structure Postable (body : List Bytes) : Prop where
  nonempty : body.flatten ≠ []
  count : body.length ≤ kMaxBatchSize
  size : body.flatten.length < kMaxBatchBytes + 4095

/-- The posted bodies and the batch of a client, as lists of lines. -/
structure Holds (t : TsdbClient) (bodies : List (List Bytes)) (held : List Bytes) : Prop where
  posted : t.posted.reverse = bodies.map List.flatten
  buffer : t.batchBuffer_ = held.flatten
  count : t.batchCount_ = held.length
  postable : ∀ body ∈ bodies, Postable body
  lines : ∀ line ∈ held, line ≠ []

/-- A batch below both thresholds. -/
structure Open (t : TsdbClient) : Prop where
  count : t.batchCount_ < kMaxBatchSize
  size : t.batchBuffer_.length < kMaxBatchBytes

def addLine (t : TsdbClient) (line : Bytes) : TsdbClient :=
  { t with batchBuffer_ := t.batchBuffer_ ++ line, batchCount_ := t.batchCount_ + 1 }

/-- A write is dropped, or it fills the batch, or it stays below both thresholds. -/
theorem write_cases (t : TsdbClient) (now : Nat) (deviceId measurement value : Bytes) :
    let t' := t.writeDeviceData now deviceId measurement value
    let lines := t.accepts (.writeDeviceData now deviceId measurement value)
    t' = t ∧ lines = [] ∨ ∃ line, line ≠ [] ∧ Fits line ∧ lines = [line] ∧
      (t' = (t.addLine line).flush ∨ t' = t.addLine line ∧ Open (t.addLine line)) := by
  have nonempty := lineText_ne_nil deviceId measurement value (now * 1000)
  simp only [writeDeviceData, accepts]
  generalize lineText deviceId measurement value (now * 1000) = line at nonempty
  by_cases on : t.connected_ = true
  · rw [if_neg (not_not.mpr on), if_pos on]
    by_cases long : 4096 ≤ line.length
    · have drops : ¬ Fits line := Nat.not_lt.mpr long
      rw [if_pos long]
      exact Or.inl ⟨rfl, by simp [drops]⟩
    · have fits : Fits line := Nat.not_le.mp long
      rw [if_neg long]
      refine Or.inr ⟨line, nonempty, fits, by simp [fits], ?_⟩
      split
      · exact Or.inl rfl
      · rename_i small
        push Not at small
        exact Or.inr ⟨rfl, small.1, small.2⟩
  · rw [if_pos on, if_neg on]
    exact Or.inl ⟨rfl, rfl⟩

section Batch

variable {t : TsdbClient} {bodies : List (List Bytes)} {held : List Bytes}

theorem Holds.empty_iff (holds : Holds t bodies held) : t.batchBuffer_ = [] ↔ held = [] := by
  rw [holds.buffer]
  constructor
  · intro nothing
    apply List.eq_nil_iff_forall_not_mem.mpr
    intro line member
    exact holds.lines line member (List.flatten_eq_nil_iff.mp nothing line member)
  · intro none
    rw [none]
    rfl

/-- Posting a batch makes the held lines a body. -/
theorem Holds.flush (holds : Holds t bodies held) (count : t.batchCount_ ≤ kMaxBatchSize)
    (size : t.batchBuffer_.length < kMaxBatchBytes + 4095) :
    Open t.flush ∧ ∃ bodies', Holds t.flush bodies' [] ∧ bodies'.flatten = bodies.flatten ++ held := by
  by_cases empty : t.batchBuffer_ = []
  · have none := holds.empty_iff.mp empty
    subst none
    have same : t.flush = t := if_pos empty
    rw [same]
    refine ⟨⟨?_, ?_⟩, bodies, holds, (List.append_nil _).symm⟩
    · rw [holds.count]
      decide
    · rw [empty]
      decide
  · have post : t.flush = { t with posted := t.batchBuffer_ :: t.posted, batchBuffer_ := [], batchCount_ := 0 } :=
      if_neg empty
    rw [post]
    have reset : Open { t with posted := t.batchBuffer_ :: t.posted, batchBuffer_ := [], batchCount_ := 0 } :=
      ⟨Nat.zero_lt_succ _, Nat.zero_lt_succ _⟩
    refine ⟨reset, bodies ++ [held], ⟨?_, rfl, rfl, ?_, by simp⟩, by simp⟩
    · simp [holds.posted, holds.buffer]
    · intro body member
      rcases List.mem_append.mp member with old | new
      · exact holds.postable body old
      · obtain rfl := List.mem_singleton.mp new
        rw [holds.buffer] at empty size
        rw [holds.count] at count
        exact ⟨empty, count, size⟩

theorem Holds.flush_open (holds : Holds t bodies held) (below : Open t) :
    Open t.flush ∧ ∃ bodies', Holds t.flush bodies' [] ∧ bodies'.flatten = bodies.flatten ++ held := by
  apply holds.flush below.count.le
  exact below.size.trans (by decide)

theorem Holds.add (holds : Holds t bodies held) {line : Bytes} (nonempty : line ≠ []) :
    Holds (t.addLine line) bodies (held ++ [line]) := by
  refine ⟨holds.posted, ?_, ?_, holds.postable, ?_⟩
  · simp [addLine, holds.buffer]
  · simp [addLine, holds.count]
  · intro other member
    rcases List.mem_append.mp member with old | new
    · exact holds.lines other old
    · obtain rfl := List.mem_singleton.mp new
      exact nonempty

theorem Holds.write (holds : Holds t bodies held) (below : Open t) (now : Nat) (deviceId measurement value : Bytes) :
    let t' := t.writeDeviceData now deviceId measurement value
    Open t' ∧ ∃ bodies' held', Holds t' bodies' held' ∧
      bodies'.flatten ++ held' = bodies.flatten ++ held ++ t.accepts (.writeDeviceData now deviceId measurement value) := by
  intro t'
  rcases t.write_cases now deviceId measurement value with ⟨same, nothing⟩ | ⟨line, nonempty, fits, one, full | room⟩
  · rw [show t' = t from same, nothing]
    exact ⟨below, bodies, held, holds, (List.append_nil _).symm⟩
  · rw [show t' = (t.addLine line).flush from full, one]
    -- before the write the batch was below both thresholds
    have size : (t.addLine line).batchBuffer_.length < kMaxBatchBytes + 4095 := by
      have before := below.size
      simp only [addLine, List.length_append, Fits] at fits ⊢
      omega
    obtain ⟨opened, bodies', holds', flattened⟩ := (holds.add nonempty).flush below.count size
    exact ⟨opened, bodies', [], holds', by simp [flattened]⟩
  · obtain ⟨kept, opened⟩ := room
    rw [show t' = t.addLine line from kept, one]
    exact ⟨opened, bodies, held ++ [line], holds.add nonempty, by simp⟩

end Batch

/-- The accepted lines are those of the bodies and then those held. -/
structure Accounted (s : Batching) : Prop where
  below : Open s.client
  lines : ∃ bodies held, Holds s.client bodies held ∧ s.accepted = bodies.flatten ++ held

theorem accounted_new : Accounted ⟨connect {}, []⟩ where
  below := ⟨by decide, by decide⟩
  lines := ⟨[], [], ⟨rfl, rfl, rfl, by simp, by simp⟩, rfl⟩

theorem Accounted.step {s : Batching} (accounted : Accounted s) (call : TsdbCall) : Accounted (s.step call) := by
  obtain ⟨below, bodies, held, holds, lines⟩ := accounted
  unfold Batching.step
  cases call with
  | connect =>
    refine ⟨⟨below.count, below.size⟩, bodies, held, ?_, by simpa [accepts] using lines⟩
    exact ⟨holds.posted, holds.buffer, holds.count, holds.postable, holds.lines⟩
  | writeDeviceData now deviceId measurement value =>
    obtain ⟨opened, bodies', held', holds', same⟩ := holds.write below now deviceId measurement value
    exact ⟨opened, bodies', held', holds', by rw [same, lines]⟩
  | flush =>
    obtain ⟨opened, bodies', holds', same⟩ := holds.flush_open below
    exact ⟨opened, bodies', [], holds', by simp [accepts, lines, same]⟩
  | disconnect =>
    obtain ⟨opened, bodies', holds', same⟩ := holds.flush_open below
    refine ⟨⟨opened.count, opened.size⟩, bodies', [], ?_, by simp [accepts, lines, same]⟩
    exact ⟨holds'.posted, holds'.buffer, holds'.count, holds'.postable, holds'.lines⟩

/-- The posted bodies and the batch are the accepted lines in order, cut between lines. The counter is the number of lines
held, and every body keeps the bounds. -/
theorem batches_keep_order_and_bounds (calls : List TsdbCall) :
    let s := run Batching.step ⟨connect {}, []⟩ calls
    s.client.posted.reverse.flatten ++ s.client.batchBuffer_ = s.accepted.flatten ∧
      ∃ (bodies : List (List Bytes)) (held : List Bytes), s.accepted = bodies.flatten ++ held ∧
        s.client.posted.reverse = bodies.map List.flatten ∧ s.client.batchBuffer_ = held.flatten ∧
        s.client.batchCount_ = held.length ∧ s.client.batchCount_ < 100 ∧
        ∀ body ∈ bodies, body.flatten ≠ [] ∧ body.length ≤ 100 ∧ body.flatten.length < 1024 * 1024 + 4095 := by
  intro s
  obtain ⟨below, bodies, held, holds, lines⟩ : Accounted s :=
    run_kept Batching.step Accounted accounted_new (fun _ call accounted => accounted.step call) calls
  refine ⟨?_, bodies, held, lines, holds.posted, holds.buffer, holds.count, below.count, ?_⟩
  · rw [holds.posted, holds.buffer, lines, List.flatten_append, List.flatten_flatten]
  · intro body member
    obtain ⟨nonempty, count, size⟩ := holds.postable body member
    exact ⟨nonempty, count, size⟩

end TsdbClient
end IotGateway.Storage
