import IotGateway.Gateway.Frame

/-!
# Telemetry of a node

A PUBLISH ends as a line in the batch of the time series client, if that client is
connected. `start` never connects it, so no line is ever written, while a connected
client keeps every line that fits (`TsdbClient.written_run`).
-/

namespace IotGateway.Gateway
open Text Storage Protocol

/-- The line of a PUBLISH that an event passes to `handlePublish` at node `n`, if it fits. -/
def publishedLine (n : NodeId) (s : System) : Event → List Bytes
  | .node m (.packet k (.event (.publish topic payload _ _ _))) =>
    if m = n ∧ (s.nodes n).running_ ∧ (s.nodes n).Readable k then
      [TsdbClient.lineText (((s.nodes n).connClientMap.lookup k).getD (ascii "unknown")) topic payload
        (s.world.now * 1000)].filter (TsdbClient.Fits ·)
    else []
  | _ => []

/-- The system with the lines that the present process of node `n` has been given, in order. -/
def telemetryStep (n : NodeId) (state : System × List Bytes) (e : Event) : System × List Bytes :=
  (state.1.step e, if ((state.1.step e).nodes n).running_ then state.2 ++ publishedLine n state.1 e else [])

section Node

variable (n : NodeId) (w : World)

theorem tsdb_handleItem {g : GatewayServer} (off : g.tsdbClient_ = {}) (k : ConnId) (item : Item MqttEvent) :
    (g.handleItem n w k item).1.tsdbClient_ = {} := by
  cases item with
  | failure =>
    simp only [GatewayServer.handleItem]
    split <;> exact off
  | event e =>
    cases e with
    | publish topic payload qos retain packetId =>
      simp only [GatewayServer.handleItem, GatewayServer.handleEvent, GatewayServer.handlePublish, off]
      exact TsdbClient.writeDeviceData_disconnected rfl _ _ _ _
    | subscribe packetId filters =>
      simp only [GatewayServer.handleItem, GatewayServer.handleEvent, GatewayServer.handleSubscribe]
      split <;> exact off
    | pingReq =>
      simp only [GatewayServer.handleItem, GatewayServer.handleEvent, GatewayServer.handlePingReq]
      split <;> exact off
    | disconnect =>
      simp only [GatewayServer.handleItem, GatewayServer.handleEvent, GatewayServer.onDisconnect, GatewayServer.dropConn]
      split <;> exact off
    | connect | pubAck => exact off

theorem tsdb_nodeStep {g : GatewayServer} (off : g.tsdbClient_ = {}) (e : NodeEvent) :
    (g.nodeStep n w e).1.tsdbClient_ = {} := by
  rcases nodeStep_cases n g w e with same | exited | ⟨k, rfl, _, step⟩ | ⟨k, item, rfl, _, step⟩ | ⟨k, rfl, _, step⟩ |
    ⟨rfl, step⟩
  · obtain ⟨-, -, -, batch⟩ := eq_of_tables same
    exact batch.trans off
  · rw [exited]
    rfl
  · rw [step]
    exact off
  · rw [step]
    exact tsdb_handleItem n w off k item
  · rw [step]
    simp only [GatewayServer.onConnectionClosed, GatewayServer.dropConn]
    split <;> exact off
  · rw [step]
    exact off

end Node

/-- The client of a node is never connected and never holds anything. -/
theorem tsdb_step (n : NodeId) (s : System) (e : Event) (off : (s.nodes n).tsdbClient_ = {}) :
    ((s.step e).nodes n).tsdbClient_ = {} := by
  rcases s.step_nodes_cases e n with same | ⟨reach, mqttPort, -, -, started⟩ | ⟨event, -, -, stepped⟩
  · rw [same]
    exact off
  · obtain ⟨-, -, -, batch⟩ := eq_of_tables (tables_start n (s.nodes n) s.world reach mqttPort)
    rw [started]
    exact batch.trans off
  · rw [stepped]
    exact tsdb_nodeStep n s.world off event

/-- The lines of a process are kept exactly as long as it has been given none. -/
theorem telemetry_kept_iff (n : NodeId) (events : List Event) :
    let state := run (telemetryStep n) (System.new, []) events
    (state.1.nodes n).tsdbClient_.written = state.2.flatten ↔ state.2 = [] := by
  intro state
  let inv (state : System × List Bytes) : Prop := (state.1.nodes n).tsdbClient_ = {} ∧ ∀ line ∈ state.2, line ≠ []
  have kept : ∀ state e, inv state → inv (telemetryStep n state e) := by
    rintro state e ⟨off, lines⟩
    refine ⟨tsdb_step n state.1 e off, fun line member => ?_⟩
    simp only [telemetryStep] at member
    split at member
    · rcases List.mem_append.mp member with before | new
      · exact lines line before
      · unfold publishedLine at new
        split at new
        · split at new
          · obtain rfl := List.mem_singleton.mp (List.mem_filter.mp new).1
            exact TsdbClient.lineText_ne_nil _ _ _ _
          · cases new
        · cases new
    · cases member
  obtain ⟨off, lines⟩ : inv state := run_kept (telemetryStep n) inv ⟨rfl, fun _ member => absurd member List.not_mem_nil⟩ kept
      events
  rw [off]
  constructor
  · intro nothing
    cases given : state.2 with
    | nil => rfl
    | cons line rest =>
      have empty : line = [] := List.flatten_eq_nil_iff.mp nothing.symm line (by rw [given]; exact List.mem_cons_self)
      exact absurd empty (lines line (by rw [given]; exact List.mem_cons_self))
  · intro none
    rw [none]
    rfl

/-- A device connects and publishes a reading. -/
def reading : List Event :=
  [.start gateway1 ⟨true, true⟩ 1883] ++ arrive gateway1 0 sensor ++
    [.node gateway1 (.packet 0 (.event (.publish (ascii "/temp") (ascii "23") .atMostOnce false 0)))]

theorem reading_dropped :
    let state := run (telemetryStep gateway1) (System.new, []) reading
    state.2 = [ascii "device_data,device_id=sensor,topic=/temp value=\"23\" 0\n"] ∧
      (state.1.nodes gateway1).tsdbClient_.written = [] := by
  decide +kernel

end IotGateway.Gateway
