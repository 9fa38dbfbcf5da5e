import IotGateway.Platform.WebDashboard
import IotGateway.Gateway.RegistryAgreement

/-!
# The device list of the dashboard

`serveApiDevices` puts the registry record of a device between quotes, as if it were the
name of its gateway. The record is a JSON object itself, so its own quotes end the string,
and the list is no JSON text as soon as a device is in it.
-/

namespace IotGateway.Platform
open Text Redis Storage Gateway Api Json

/-! ### How a record begins -/

def recordStart : Bytes := ascii "\x7b\"gateway\":\""

/-- Every record begins as `registerDevice` writes it. -/
structure Started (r : Registry) : Prop where
  persistent : r.devices.expireAt = none
  records : ∀ id record, r.devices.get r.now id = some record → recordStart <+: record

theorem started_registryText (nodeId : Bytes) (heartbeat keepAlive : Int) :
    recordStart <+: snprintf 512 (RedisClient.registryText nodeId heartbeat keepAlive) := by
  refine List.prefix_take_iff.mpr ⟨?_, by decide⟩
  unfold RedisClient.registryText
  simp only [List.append_assoc]
  exact List.prefix_append _ _

/-- The edit of a heartbeat begins behind the word it looks for, which is longer. -/
theorem started_replaceHeartbeat {record edited : Bytes} {now : Int} (started : recordStart <+: record)
    (edit : RedisClient.replaceHeartbeat record now = some edited) : recordStart <+: cstr edited := by
  unfold RedisClient.replaceHeartbeat at edit
  split at edit
  · cases edit
  · rename_i pos found
    dsimp only at edit
    split at edit
    · cases edit
    · cases edit
      have length : recordStart.length = 12 := rfl
      have kept : recordStart <+: record.take (pos + 12) := List.prefix_take_iff.mpr ⟨started, by omega⟩
      obtain ⟨rest, whole⟩ := kept
      rw [← whole, List.append_assoc, List.append_assoc, cstr_append (by decide)]
      exact List.prefix_append _ _

theorem Started.edit {r : Registry} (started : Started r) {works : Bool} {change : Hash Bytes Bytes → Hash Bytes Bytes}
    (persistent : (change r.devices).expireAt = none)
    (records : ∀ id record, (change r.devices).get r.now id = some record → recordStart <+: record) :
    Started (r.edit works change) := by
  cases works with
  | false => exact started
  | true => exact ⟨persistent, records⟩

theorem Started.record {r : Registry} (started : Started r) (action : Action) : Started (r.record action) :=
  ⟨started.persistent, started.records⟩

theorem Started.erase {r : Registry} (started : Started r) (clients : List Bytes) (works : Bool) :
    Started (r.edit works fun devices => clients.foldl (fun d id => d.erase r.now (cstr id)) devices) := by
  refine started.edit (persistent_foldl_erase started.persistent r.now clients) ?_
  have erased : ∀ (clients : List Bytes) (devices : Hash Bytes Bytes),
      (∀ id record, devices.get r.now id = some record → recordStart <+: record) → ∀ id record,
      (clients.foldl (fun d id => d.erase r.now (cstr id)) devices).get r.now id = some record → recordStart <+: record := by
    intro clients
    induction clients with
    | nil => exact fun devices before => before
    | cons c clients ih =>
      intro devices before
      refine ih (devices.erase r.now (cstr c)) ?_
      intro id record found
      rcases eq_or_ne id (cstr c) with rfl | different
      · rw [Hash.get_erase_self] at found
        cases found
      · rw [Hash.get_erase_ne _ _ different] at found
        exact before id record found
  exact erased clients r.devices started.records

theorem Started.touch {r : Registry} (started : Started r) (works : Bool) (c : Bytes) :
    Started (r.edit works (RedisClient.touchRecord r.now (cstr c))) := by
  refine started.edit (persistent_touchRecord r.now (cstr c) started.persistent) ?_
  intro id record found
  rcases eq_or_ne id (cstr c) with rfl | different
  · unfold RedisClient.touchRecord at found
    split at found
    · exact started.records _ record found
    · rename_i edited edit
      obtain ⟨old, before, edit⟩ := Option.bind_eq_some_iff.mp edit
      rw [Hash.get_set_self] at found
      cases found
      exact started_replaceHeartbeat (started.records _ old before) edit
  · rw [get_touchRecord_ne r.now (cstr c) different] at found
    exact started.records id record found

theorem Started.register {r : Registry} (started : Started r) (works : Bool) (c nodeId : Bytes) (keepAlive : Int) :
    Started (r.edit works (·.set r.now (cstr c) (snprintf 512
      (RedisClient.registryText nodeId (r.now / kSecond) keepAlive)))) := by
  have persistent := Hash.persistent_set started.persistent r.now (cstr c)
    (snprintf 512 (RedisClient.registryText nodeId (r.now / kSecond) keepAlive))
  refine started.edit persistent ?_
  intro id record found
  rcases eq_or_ne id (cstr c) with rfl | different
  · rw [Hash.get_set_self] at found
    cases found
    exact started_registryText nodeId _ keepAlive
  · rw [Hash.get_set_ne _ _ _ different] at found
    exact started.records id record found

theorem Started.move {n : NodeId} {works : Bool} {e : NodeEvent} {s s' : Sessions ConnId Bytes} {r r' : Registry}
    (started : Started r) (move : SessionMove n works e (s, r) (s', r')) : Started r' := by
  cases move with
  | quiet => exact started
  | attach k payload => exact (started.register works payload.clientId n.text _).record _
  | drop e k c s r action bound drops => exact (started.erase [c] works).record action
  | unbound e k s r action drops => exact started.record action
  | touch e k c => exact started.touch works c
  | evict e clients =>
    have erased := started.erase clients works
    exact ⟨erased.persistent, erased.records⟩
  | exit => exact started.record _

theorem started_run (events : List Event) : Started (registry (run System.step System.new events).world) := by
  refine run_kept System.step (fun s => Started (registry s.world)) ?_ ?_ events
  · refine ⟨rfl, fun id record found => ?_⟩
    simp [registry, System.new, RedisServer.new] at found
  · intro s e started
    rcases session_step s e with ⟨_, now, later⟩ | ⟨n, event, rfl, _, move, _⟩
    · rw [later]
      refine ⟨started.persistent, fun id record found => started.records id record ?_⟩
      rw [Hash.get_of_persistent started.persistent] at found ⊢
      exact found
    · exact started.move move

/-! ### The list -/

namespace WebDashboard

/-- The registry as the store lists it. -/
def registered (w : World) : List (Bytes × Bytes) := (w.redis.devices.live w.now).fields.entries.map fun e => (e.1, e.2)

theorem mem_registered {w : World} {id record : Bytes} (listed : (id, record) ∈ registered w) :
    (registry w).devices.get (registry w).now id = some record := by
  obtain ⟨e, there, same⟩ := List.mem_map.mp listed
  obtain ⟨rfl, rfl⟩ := Prod.mk.inj same
  exact AList.mem_lookup_iff.mpr there

theorem length_registered (w : World) : (registered w).length = (w.redis.devices.fieldNames w.now).length := by
  simp [registered, Hash.fieldNames, AList.keys, List.keys]

theorem objectText_devices (count : Nat) : devicesText count [] =
    objectText [codeZero, (ascii "count", decimal count), (ascii "devices", [91, 93])] := by
  simp only [devicesText, deviceList, objectText, membersText, quoted, List.append_assoc, List.cons_append, List.nil_append]
  rfl

/-- An empty list is fine. -/
theorem derives_no_devices (count : Nat) : Derives .unescaped .text (devicesText count []) := by
  have empty : Derives .unescaped .text [91, 93] := Derives.array isSpaces_nil isSpaces_nil (.noElements isSpaces_nil)
  rw [objectText_devices]
  apply derives_objectText
  · simp only [List.forall_mem_cons, List.not_mem_nil, false_implies, implies_true, and_true]
    exact ⟨codeZero_object.1, named (by decide), named (by decide)⟩
  · simp only [List.forall_mem_cons, List.not_mem_nil, false_implies, implies_true, and_true]
    exact ⟨codeZero_object.2, derives_decimal count, empty⟩

/-- A record in quotes ends its string at once, and its first name follows without a comma or a colon. -/
theorem not_derives_devices {count : Nat} {id record : Bytes} {devices : List (Bytes × Bytes)} (started : recordStart <+: record)
    (plain : 92 ∉ devicesText count ((id, record) :: devices)) :
    ¬ Derives .unescaped .text (devicesText count ((id, record) :: devices)) := by
  intro derived
  obtain ⟨l, tail, spaced⟩ := isSpaced_of_derives derived plain
  obtain ⟨rest, rfl⟩ := started
  have start : recordStart = 123 :: 34 :: (ascii "gateway" ++ [34, 58, 34]) := rfl
  have gateway : ascii "\",\"gateway\":\"" = ascii "\",\"gateway\":" ++ [34] := rfl
  have shape : ∃ x y, devicesText count ((id, recordStart ++ rest) :: devices) =
      x ++ 34 :: ([123] ++ 34 :: (ascii "gateway" ++ 34 :: y)) := by
    refine ⟨ascii "\x7b\"code\":0,\"count\":" ++ (decimal count ++ (ascii ",\"devices\":[" ++ (ascii "\x7b\"id\":\"" ++
      (id ++ ascii "\",\"gateway\":")))), 58 :: 34 :: (rest ++ (ascii "\",\"status\":\"online\"\x7d" ++
      ((devices.flatMap fun device => ascii "," ++ deviceObject device) ++ ascii "]\x7d"))), ?_⟩
    rw [devicesText, deviceList]
    generalize (devices.flatMap fun device => ascii "," ++ deviceObject device) = others
    rw [deviceObject, start, gateway]
    simp only [List.append_assoc, List.cons_append, List.nil_append]
  obtain ⟨x, y, same⟩ := shape
  rw [same] at spaced
  rcases marked_between spaced (by decide) with (comma | colon) | comma | colon
  · exact absurd comma (by decide)
  · exact absurd colon (by decide)
  · exact absurd comma (by decide)
  · exact absurd colon (by decide)

/-- In every reachable state of the cluster the device list, asked through a client that is connected and answered, has
the registered devices with their number, and without a backslash in it it is a JSON text exactly when no device is
registered. -/
theorem device_list_json_iff (events : List Event) (d : WebDashboard) {redis : RedisClient} (asks : d.redis_ = some redis)
    (connected : redis.isConnected = true) (answers : redis.answers = true) :
    let w := (run System.step System.new events).world
    d.served w (ascii "/api/dashboard/devices") = .ok (200, kJson, devicesText (sizeT (registered w).length) (registered w)) ∧
      (92 ∉ devicesText (sizeT (registered w).length) (registered w) →
        (Derives .unescaped .text (devicesText (sizeT (registered w).length) (registered w)) ↔
          ∀ id, w.redis.devices.get w.now id = none)) := by
  intro w
  have started : Started (registry w) := started_run events
  constructor
  · have link : redis.conn_ = some .up := of_decide_eq_true answers
    have listed : d.allDevices w = .ok (registered w) := by
      unfold allDevices
      rw [asks]
      dsimp only
      unfold RedisClient.getAllDevices
      rw [link]
      rfl
    have count : d.deviceCount w = sizeT (registered w).length := by
      unfold deviceCount
      rw [asks, length_registered]
      dsimp only
      unfold RedisClient.deviceCount
      rw [if_pos ⟨connected, answers⟩]
    unfold served
    rw [if_neg (by decide), if_pos rfl, listed, count]
    rfl
  · intro plain
    have nobody : (∀ id, w.redis.devices.get w.now id = none) ↔ registered w = [] := by
      constructor
      · intro none
        by_contra some
        obtain ⟨⟨id, record⟩, there⟩ := List.exists_mem_of_ne_nil _ some
        have found : w.redis.devices.get w.now id = Option.some record := mem_registered there
        rw [none id] at found
        cases found
      · intro empty id
        have entries : (w.redis.devices.live w.now).fields.entries = [] := List.map_eq_nil_iff.mp empty
        unfold Hash.get
        rw [AList.lookup, entries]
        rfl
    rw [nobody]
    cases listed : registered w with
    | nil => exact iff_of_true (derives_no_devices _) rfl
    | cons device devices =>
      obtain ⟨id, record⟩ := device
      rw [listed] at plain
      have first : (id, record) ∈ registered w := by
        rw [listed]
        exact List.mem_cons_self
      have found := mem_registered first
      refine iff_of_false (not_derives_devices (started.records id record found) plain) (List.cons_ne_nil _ _)

theorem length_emptyPage : (ascii "<html></html>").length < 2 ^ 64 := by
  decide

/-- A dashboard with a client of the store that works. -/
def fullDashboard : WebDashboard :=
  ⟨some { connected_ := true, conn_ := some .up, subConn_ := some .up }, ⟨ascii "<html></html>", length_emptyPage⟩⟩

theorem device_list_json_iff_sensor :
    let w := (run System.step System.new (startBoth ++ arrive gateway1 0 sensor)).world
    ∃ text, fullDashboard.served w (ascii "/api/dashboard/devices") = .ok (200, kJson, text) ∧
      ¬ Derives .unescaped .text text := by
  intro w
  obtain ⟨serves, json⟩ := device_list_json_iff (startBoth ++ arrive gateway1 0 sensor) fullDashboard rfl rfl rfl
  refine ⟨_, serves, fun derived => ?_⟩
  have registered : w.redis.devices.get w.now sensor ≠ none := by decide +kernel
  exact registered ((json (by decide +kernel)).mp derived sensor)

end WebDashboard

end IotGateway.Platform
