import IotGateway.Lib.Text

/-!
# The time series client

`TsdbClient.cpp`: lines are collected in a batch that is posted when it is full.
-/

namespace IotGateway.Storage
open Text

/-- `posted` are the bodies given to `sendHttpPost`, newest first. -/
structure TsdbClient where
  connected_ : Bool := false
  batchBuffer_ : Bytes := []
  batchCount_ : Nat := 0
  posted : List Bytes := []
  deriving DecidableEq, Repr

namespace TsdbClient

def kMaxBatchSize : Nat := 100

def kMaxBatchBytes : Nat := 1024 * 1024

/-- `connect`: InfluxDB needs no connection, so this only sets the flag. -/
def connect (t : TsdbClient) : TsdbClient := { t with connected_ := true }

def flush (t : TsdbClient) : TsdbClient :=
  if t.batchBuffer_ = [] then t
  else { t with posted := t.batchBuffer_ :: t.posted, batchBuffer_ := [], batchCount_ := 0 }

/-- Quotes and backslashes get a backslash. -/
def escapeValue (value : Bytes) : Bytes := value.flatMap fun c => if c = 34 ∨ c = 92 then [92, c] else [c]

def lineText (deviceId measurement value : Bytes) (tsNs : Int) : Bytes :=
  ascii "device_data,device_id=" ++ cstr deviceId ++ ascii ",topic=" ++ cstr measurement ++ ascii " value=\"" ++
    cstr (escapeValue value) ++ ascii "\" " ++ decimal tsNs ++ ascii "\n"

def writeDeviceData (t : TsdbClient) (now : Nat) (deviceId measurement value : Bytes) : TsdbClient :=
  if ¬ t.connected_ then t
  else
    let line := lineText deviceId measurement value (now * 1000)
    if 4096 ≤ line.length then t
    else
      let t := { t with batchBuffer_ := t.batchBuffer_ ++ line, batchCount_ := t.batchCount_ + 1 }
      if kMaxBatchSize ≤ t.batchCount_ ∨ kMaxBatchBytes ≤ t.batchBuffer_.length then t.flush else t

def disconnect (t : TsdbClient) : TsdbClient := { t.flush with connected_ := false }

/-! ### What has been written -/

/-- The bodies given to `sendHttpPost` so far, followed by the batch. -/
def written (t : TsdbClient) : Bytes := t.posted.reverse.flatten ++ t.batchBuffer_

def Fits (line : Bytes) : Prop := line.length < 4096

instance (line : Bytes) : Decidable (Fits line) := inferInstanceAs (Decidable (_ < _))

theorem lineText_ne_nil (deviceId measurement value : Bytes) (tsNs : Int) : lineText deviceId measurement value tsNs ≠ [] := by
  simp [lineText, ascii]

@[simp] theorem written_flush (t : TsdbClient) : t.flush.written = t.written := by
  unfold flush
  split
  · rfl
  · simp [written]

theorem connected_flush (t : TsdbClient) : t.flush.connected_ = t.connected_ := by
  unfold flush
  split <;> rfl

@[simp] theorem written_disconnect (t : TsdbClient) : t.disconnect.written = t.written := t.written_flush

/-- A client that is not connected drops the line. -/
theorem writeDeviceData_disconnected {t : TsdbClient} (off : t.connected_ = false) (now : Nat)
    (deviceId measurement value : Bytes) : t.writeDeviceData now deviceId measurement value = t :=
  if_pos (by simp [off])

/-- A client that is connected keeps a line that fits, in the batch or in what it posts. -/
theorem writeDeviceData_connected {t : TsdbClient} (on : t.connected_ = true) (now : Nat)
    (deviceId measurement value : Bytes) :
    (t.writeDeviceData now deviceId measurement value).connected_ = true ∧
      (t.writeDeviceData now deviceId measurement value).written =
        t.written ++ ([lineText deviceId measurement value (now * 1000)].filter (Fits ·)).flatten := by
  unfold writeDeviceData
  rw [if_neg (by simp [on])]
  dsimp only
  generalize lineText deviceId measurement value (now * 1000) = line
  by_cases long : 4096 ≤ line.length
  · have drops : ¬ Fits line := Nat.not_lt.mpr long
    simp [long, drops, on]
  · have fits : Fits line := Nat.not_le.mp long
    rw [if_neg long]
    split
    · rw [connected_flush, written_flush]
      exact ⟨on, by simp [written, fits]⟩
    · exact ⟨on, by simp [written, fits]⟩

/-- Nothing is lost between `connect` and `disconnect`, whenever the batch happens to be posted. -/
theorem written_run (writes : List (Nat × Bytes × Bytes × Bytes)) :
    let t := writes.foldl (fun (t : TsdbClient) w => t.writeDeviceData w.1 w.2.1 w.2.2.1 w.2.2.2) (connect {})
    t.disconnect.written =
      ((writes.map fun w => lineText w.2.1 w.2.2.1 w.2.2.2 (w.1 * 1000)).filter (Fits ·)).flatten := by
  have loop : ∀ (t : TsdbClient), t.connected_ = true →
      (writes.foldl (fun (t : TsdbClient) w => t.writeDeviceData w.1 w.2.1 w.2.2.1 w.2.2.2) t).written = t.written ++
        ((writes.map fun w => lineText w.2.1 w.2.2.1 w.2.2.2 (w.1 * 1000)).filter (Fits ·)).flatten := by
    induction writes with
    | nil => simp
    | cons w writes ih =>
      intro t on
      obtain ⟨still, first⟩ := writeDeviceData_connected on w.1 w.2.1 w.2.2.1 w.2.2.2
      rw [List.foldl_cons, ih _ still, first, List.map_cons, List.append_assoc, ← List.flatten_append, ← List.filter_append]
      rfl
  intro t
  rw [written_disconnect]
  exact loop _ rfl

end TsdbClient
end IotGateway.Storage
