import IotGateway.Gateway.Subscriptions
import IotGateway.Gateway.RegistryAgreement

/-!
# Closed connections

A connection may carry several CONNECT packets, and `connClientMap` keeps the client of
the last one only. As long as every CONNECT finds its connection bound to no other client
and its client bound to no other connection of the node, the map and the device table
belong together, and a connection that has closed leaves nothing behind: no entry, no
subscription, and no record of the node.
-/

namespace IotGateway.Gateway
open Text Redis Storage Protocol

/-- A CONNECT finds the connection bound to no other client and the client bound to no other connection of the node. -/
def ConnectsAlone (s : System) (e : Event) : Prop :=
  ∀ x ∈ e.connect?, ∀ b ∈ (s.nodes x.1).connClientMap.entries, b.1 = x.2.1 ↔ b.2 = x.2.2

instance (s : System) (e : Event) : Decidable (ConnectsAlone s e) := Option.decidableForallMem _

/-! ### Entries and connections belong together -/

/-- Entries belong to bound connections, and clients are bound where they connected last. -/
structure Paired (n : NodeId) (s : Sessions ConnId Bytes) (log : List Action) : Prop where
  owner : ∀ c k, s.owner c = some k → s.bound k = some c
  recent : ∀ k c, s.bound k = some c → lastConnect n c log = some k

theorem paired_empty (n : NodeId) (log : List Action) : Paired n .empty log :=
  ⟨fun _ _ owned => (by cases owned), fun _ _ bound => (by cases bound)⟩

theorem Paired.move {n : NodeId} {works : Bool} {e : NodeEvent} {s s' : Sessions ConnId Bytes} {r r' : Registry}
    (move : SessionMove n works e (s, r) (s', r')) (paired : Paired n s r.log)
    (alone : ∀ k payload, e = .packet k (.event (.connect payload)) →
      ∀ k' c', s.bound k' = some c' → (k' = k ↔ c' = payload.clientId)) : Paired n s' r'.log := by
  cases move with
  | quiet => exact paired
  | attach k payload =>
    have apart := alone k payload rfl
    constructor
    · intro c k' owned
      rcases eq_or_ne c payload.clientId with rfl | different
      · obtain rfl : k = k' := by simpa [Sessions.attach] using owned
        simp [Sessions.attach]
      · have before := paired.owner c k' (by simpa [Sessions.attach, different] using owned)
        have other : k' ≠ k := fun same => different ((apart k' c before).mp same)
        simpa [Sessions.attach, other] using before
    · intro k' c bound
      rcases eq_or_ne k' k with rfl | other
      · obtain rfl : payload.clientId = c := by simpa [Sessions.attach] using bound
        exact if_pos ⟨rfl, rfl⟩
      · have before : s.bound k' = some c := by simpa [Sessions.attach, other] using bound
        have different : ¬ (n = n ∧ payload.clientId = c) := fun same => other ((apart k' c before).mpr same.2.symm)
        exact (if_neg different).trans (paired.recent k' c before)
  | drop e k c s r action bound drops =>
    constructor
    · intro c' k' owned
      simp only [Sessions.detach] at owned ⊢
      split at owned
      · cases owned
      · rename_i stays
        have before := paired.owner c' k' owned
        have other : k' ≠ k := by
          rintro rfl
          exact stays before
        rwa [Function.update_of_ne other]
    · intro k' c' after
      simp only [Registry.record, Registry.edit, lastConnect_drop drops]
      rcases eq_or_ne k' k with rfl | other
      · simp [Sessions.detach] at after
      · exact paired.recent k' c' (by simpa [Sessions.detach, other] using after)
  | unbound e k s r action drops =>
    refine ⟨paired.owner, fun k' c' bound => ?_⟩
    simp only [Registry.record, lastConnect_drop drops]
    exact paired.recent k' c' bound
  | touch => exact ⟨paired.owner, paired.recent⟩
  | evict e clients s r owned =>
    constructor
    · intro c k' owner
      simp only [Sessions.evict] at owner
      split at owner
      · cases owner
      · exact paired.owner c k' owner
    · intro k' c bound
      simp only [lastConnect_timeouts]
      exact paired.recent k' c bound
  | exit => exact paired_empty n _

/-- Subscriptions belong to bound clients, and a connection that is down is bound to none. -/
structure Cleared (g : GatewayServer) : Prop where
  indexed : g.deviceMgr_.Indexed
  topics : ∀ c, g.deviceMgr_.topicsOf c ≠ [] → ∃ k, (sessions g).bound k = some c
  closed : ∀ k, g.conns k = .disconnected → (sessions g).bound k = none

theorem cleared_fresh {g : GatewayServer} (manager : g.deviceMgr_ = {}) (map : g.connClientMap = ∅) : Cleared g where
  indexed := manager ▸ DeviceManager.indexed_new
  topics := fun c topics => absurd (by rw [manager]; rfl) topics
  closed := fun k _ => by simp [sessions, map]

theorem Cleared.of_tables {g g' : GatewayServer} (cleared : Cleared g) (manager : g'.deviceMgr_ = g.deviceMgr_)
    (map : g'.connClientMap = g.connClientMap)
    (down : ∀ k, g'.conns k = .disconnected → g.conns k = .disconnected ∨ (sessions g).bound k = none) : Cleared g' := by
  have same : (sessions g').bound = (sessions g).bound := by simp only [sessions, map]
  refine ⟨manager ▸ cleared.indexed, fun c topics => ?_, fun k closed => ?_⟩
  · rw [same]
    exact cleared.topics c (manager ▸ topics)
  · rw [same]
    exact (down k closed).elim (cleared.closed k) id

theorem topicsOf_offline_ne_nil {d : DeviceManager} {gone : List Bytes} {c : Bytes}
    (topics : (gone.foldl DeviceManager.deviceOfflineLocked d).topicsOf c ≠ []) : c ∉ gone ∧ d.topicsOf c ≠ [] := by
  unfold DeviceManager.topicsOf Multimap.members at topics
  rw [DeviceManager.topics_foldl_offline] at topics
  by_cases left : c ∈ gone
  · simp [left] at topics
  · exact ⟨left, by rwa [if_neg left] at topics⟩

/-- The connection that goes is the only one that may be down and still bound. -/
theorem cleared_dropConn {g : GatewayServer} (w : World) {k : ConnId} (indexed : g.deviceMgr_.Indexed)
    (topics : ∀ c, g.deviceMgr_.topicsOf c ≠ [] → ∃ k, (sessions g).bound k = some c)
    (closed : ∀ k', k' ≠ k → g.conns k' = .disconnected → (sessions g).bound k' = none) : Cleared (g.dropConn w k).1 := by
  have conns := conns_dropConn g w k
  cases bound : g.connClientMap.lookup k with
  | none =>
    rw [dropConn_unbound g w bound]
    refine ⟨indexed, topics, fun k' down => ?_⟩
    rcases eq_or_ne k' k with rfl | other
    · exact bound
    · exact closed k' other down
  | some c =>
    have detached := (dropConn_bound g w bound).1
    have manager : (g.dropConn w k).1.deviceMgr_ = [c].foldl DeviceManager.deviceOfflineLocked g.deviceMgr_ := by
      simp only [GatewayServer.dropConn, bound]
      rfl
    refine ⟨manager ▸ indexed.foldl_offline [c], fun c' held => ?_, fun k' down => ?_⟩
    · rw [manager] at held
      obtain ⟨different, before⟩ := topicsOf_offline_ne_nil held
      obtain ⟨k', bound'⟩ := topics c' before
      have other : k' ≠ k := by
        rintro rfl
        exact different (List.mem_singleton.mpr (Option.some.inj (bound'.symm.trans bound)))
      exact ⟨k', by simpa [detached, Sessions.detach, other] using bound'⟩
    · rw [detached]
      rcases eq_or_ne k' k with rfl | other
      · simp [Sessions.detach]
      · rw [conns] at down
        simpa [Sessions.detach, other] using closed k' other down

section Node

variable (n : NodeId) {g : GatewayServer} (w : World)

theorem Cleared.handleConnect (cleared : Cleared g) {k : ConnId} (up : g.conns k ≠ .disconnected) {payload : MqttConnectPayload}
    (alone : ∀ k' c', (sessions g).bound k' = some c' → (k' = k ↔ c' = payload.clientId)) :
    Cleared (g.handleConnect n w k payload).1 := by
  have attached := sessions_handleConnect n g w k payload
  refine ⟨cleared.indexed.of_maps rfl rfl, ?_, ?_⟩
  · intro c topics
    obtain ⟨k', bound⟩ := cleared.topics c topics
    refine ⟨k', ?_⟩
    rw [attached]
    rcases eq_or_ne k' k with rfl | other
    · simp [Sessions.attach, (alone k' c bound).mp rfl]
    · simpa [Sessions.attach, other] using bound
  · intro k' down
    have other : k' ≠ k := by
      rintro rfl
      exact up down
    rw [attached]
    simpa [Sessions.attach, other] using cleared.closed k' down

theorem Cleared.handleSubscribe (cleared : Cleared g) (k : ConnId) (packetId : UInt16) (filters : List MqttTopicFilter) :
    Cleared (g.handleSubscribe n w k packetId filters).1 := by
  have same := sessions_handleSubscribe n g w k packetId filters
  cases bound : g.connClientMap.lookup k with
  | none =>
    have unchanged : (g.handleSubscribe n w k packetId filters).1 = g := by simp only [GatewayServer.handleSubscribe, bound]
    rw [unchanged]
    exact cleared
  | some c =>
    have manager := handleSubscribe_bound n g w packetId filters bound
    have conns : (g.handleSubscribe n w k packetId filters).1.conns = g.conns := by
      simp only [GatewayServer.handleSubscribe, bound]
    refine ⟨manager ▸ cleared.indexed.foldl_subscribe c _, ?_, ?_⟩
    · intro c' topics
      obtain ⟨t, member⟩ := List.exists_mem_of_ne_nil _ topics
      rw [manager] at member
      rw [same]
      rcases DeviceManager.mem_topicsOf_foldl_subscribe.mp member with before | ⟨rfl, _⟩
      · exact cleared.topics c' (List.ne_nil_of_mem before)
      · exact ⟨k, bound⟩
    · intro k' down
      rw [conns] at down
      rw [same]
      exact cleared.closed k' down

theorem Cleared.handleItem (cleared : Cleared g) {k : ConnId} (readable : g.Readable k) {item : Item MqttEvent}
    (alone : ∀ payload, item = .event (.connect payload) →
      ∀ k' c', (sessions g).bound k' = some c' → (k' = k ↔ c' = payload.clientId)) :
    Cleared (g.handleItem n w k item).1 := by
  have up : g.conns k ≠ .disconnected := by
    rcases readable with state | state <;> simp [state]
  cases item with
  | failure =>
    simp only [GatewayServer.handleItem]
    split
    · refine cleared.of_tables rfl rfl fun k' down => ?_
      simp only [GatewayServer.setConn] at down
      split at down
      · cases down
      · exact Or.inl down
    · exact cleared
  | event e =>
    cases e with
    | connect payload => exact cleared.handleConnect n w up (alone payload rfl)
    | publish topic payload qos retain packetId => exact cleared.of_tables rfl rfl fun k' down => Or.inl down
    | subscribe packetId filters => exact cleared.handleSubscribe n w k packetId filters
    | pingReq =>
      simp only [GatewayServer.handleItem, GatewayServer.handleEvent, GatewayServer.handlePingReq]
      split
      · exact cleared
      · exact ⟨cleared.indexed.of_maps rfl rfl, cleared.topics, cleared.closed⟩
    | disconnect => exact cleared_dropConn w cleared.indexed cleared.topics fun k' _ => cleared.closed k'
    | pubAck packetId => exact cleared

theorem Cleared.nodeStep (cleared : Cleared g) {e : NodeEvent}
    (alone : ∀ k payload, e = .packet k (.event (.connect payload)) →
      ∀ k' c', (sessions g).bound k' = some c' → (k' = k ↔ c' = payload.clientId)) :
    Cleared (g.nodeStep n w e).1 := by
  rcases nodeStep_cases n g w e with same | exited | ⟨k, rfl, _, step⟩ | ⟨k, item, rfl, readable, step⟩ |
    ⟨k, rfl, _, step⟩ | ⟨rfl, step⟩
  · obtain ⟨manager, map, conns, -⟩ := eq_of_tables same
    refine cleared.of_tables manager map fun k down => Or.inl ?_
    exact (congrFun conns k).symm.trans down
  · rw [exited]
    exact cleared_fresh rfl rfl
  · rw [step]
    refine cleared.of_tables rfl rfl fun k' down => ?_
    simp only [GatewayServer.setConn] at down
    split at down
    · cases down
    · exact Or.inl down
  · rw [step]
    refine cleared.handleItem n w readable ?_
    rintro payload rfl
    exact alone k payload rfl
  · rw [step]
    refine cleared_dropConn (g := g.setConn k .disconnected) w cleared.indexed cleared.topics fun k' other down => ?_
    exact cleared.closed k' ((if_neg other).symm.trans down)
  · rw [step]
    refine ⟨cleared.indexed.foldl_offline _, fun c topics => ?_, cleared.closed⟩
    exact cleared.topics c (topicsOf_offline_ne_nil topics).2

end Node

/-! ### Runs -/

structure InOrder (s : System) : Prop where
  paired : ∀ n, Paired n (sessions (s.nodes n)) (registry s.world).log
  cleared : ∀ n, Cleared (s.nodes n)

theorem inOrder_new : InOrder System.new where
  paired := fun n => paired_empty n _
  cleared := fun _ => cleared_fresh rfl rfl

theorem alone_bound {s : System} {n : NodeId} {k : ConnId} {payload : MqttConnectPayload}
    (alone : ConnectsAlone s (.node n (.packet k (.event (.connect payload))))) (k' : ConnId) (c' : Bytes)
    (bound : (sessions (s.nodes n)).bound k' = some c') : k' = k ↔ c' = payload.clientId :=
  alone (n, k, payload.clientId) rfl ⟨k', c'⟩ (AList.mem_lookup_iff.mp bound)

theorem paired_step (s : System) (e : Event) (inOrder : InOrder s) (alone : ConnectsAlone s e) (n : NodeId) :
    Paired n (sessions ((s.step e).nodes n)) (registry (s.step e).world).log := by
  rcases session_step s e with ⟨same, now, later⟩ | ⟨m, event, rfl, _, move, others⟩
  · rw [same, later]
    exact inOrder.paired n
  · rcases eq_or_ne n m with rfl | different
    · refine (inOrder.paired n).move move ?_
      rintro k payload rfl
      exact alone_bound alone
    · rw [others n different]
      refine ⟨(inOrder.paired n).owner, fun k c bound => ?_⟩
      rw [lastConnect_of_move move different]
      exact (inOrder.paired n).recent k c bound

theorem cleared_step (s : System) (e : Event) (inOrder : InOrder s) (alone : ConnectsAlone s e) (n : NodeId) :
    Cleared ((s.step e).nodes n) := by
  rcases s.step_nodes_cases e n with same | ⟨reach, mqttPort, -, -, started⟩ | ⟨event, rfl, -, stepped⟩
  · rw [same]
    exact inOrder.cleared n
  · obtain ⟨manager, map, conns, -⟩ := eq_of_tables (tables_start n (s.nodes n) s.world reach mqttPort)
    rw [started]
    refine (inOrder.cleared n).of_tables manager map fun k down => ?_
    exact Or.inl ((congrFun conns k).symm.trans down)
  · rw [stepped]
    refine (inOrder.cleared n).nodeStep n s.world ?_
    rintro k payload rfl
    exact alone_bound alone

/-! ### The registry -/

/-- Redis is up, and the ids of clients and nodes survive the way into a record and back. -/
def RecordsNamed (_ : System) (e : Event) : Prop := RedisUp e ∧ ∀ x ∈ e.connect?, 0 ∉ x.2.2 ∧ QuotableId x.1

/-- A record names a node that the client is bound at, or whose process has ended since. -/
structure Recorded (tables : Tables) (r : Registry) : Prop where
  persistent : r.devices.expireAt = none
  clean : ∀ m k c, (tables m).bound k = some c → 0 ∉ c
  named : ∀ f record, r.devices.get r.now f = some record → ∃ m, QuotableId m ∧ recordHead m <+: record ∧
    (lastConnect m f r.log = none ∨ ∃ k, (tables m).bound k = some f)

theorem recorded_new : Recorded System.new.tables (registry System.new.world) where
  persistent := rfl
  clean := fun _ _ _ bound => by cases bound
  named := fun f record found => by simp [registry, System.new, RedisServer.new] at found

section Moves

variable {tables : Tables} {r : Registry} {n : NodeId}

theorem Recorded.attach (recorded : Recorded tables r) {k : ConnId} {c : Bytes} (keepAlive : Int) (no_nul : 0 ∉ c)
    (quotable : QuotableId n) (alone : ∀ k' c', (tables n).bound k' = some c' → (k' = k ↔ c' = c)) :
    Recorded (Function.update tables n ((tables n).attach k c))
      ((r.edit true (·.set r.now (cstr c) (snprintf 512
        (RedisClient.registryText n.text (r.now / kSecond) keepAlive)))).record (.connect n k c)) where
  persistent := Hash.persistent_set recorded.persistent _ _ _
  clean := by
    intro m k' c' bound
    rcases eq_or_ne c' c with rfl | different
    · exact no_nul
    · exact recorded.clean m k' c' (bound_of_attach (Or.inr different) bound)
  named := by
    intro f record found
    have same : (r.devices.set r.now (cstr c) (snprintf 512 (RedisClient.registryText n.text (r.now / kSecond)
      keepAlive))).get r.now f = some record := found
    rw [cstr_of_no_nul no_nul] at same
    rcases eq_or_ne f c with rfl | different
    · rw [Hash.get_set_self] at same
      obtain rfl := Option.some.inj same
      refine ⟨n, quotable, registered_head quotable _ _, Or.inr ⟨k, ?_⟩⟩
      rw [Function.update_self]
      simp [Sessions.attach]
    · rw [Hash.get_set_ne _ _ _ different] at same
      obtain ⟨m, quotes, names, place⟩ := recorded.named f record same
      refine ⟨m, quotes, names, place.imp (fun ended => ?_) fun there => ?_⟩
      · exact (if_neg fun here => different here.2.symm).trans ended
      · obtain ⟨k', bound⟩ := there
        refine ⟨k', ?_⟩
        rcases eq_or_ne m n with rfl | elsewhere
        · have other : k' ≠ k := fun same => different ((alone k' f bound).mp same)
          rw [Function.update_self]
          simpa [Sessions.attach, other] using bound
        · rwa [Function.update_of_ne elsewhere]

/-- A move that keeps or deletes records and keeps the connections of clients whose records stay. -/
theorem Recorded.keep (recorded : Recorded tables r) {table : Sessions ConnId Bytes} {r' : Registry}
    (persistent : r'.devices.expireAt = none) (bound : ∀ k c, table.bound k = some c → (tables n).bound k = some c)
    (records : ∀ f record, r'.devices.get r'.now f = some record →
      r.devices.get r.now f = some record ∧ ∀ k, (tables n).bound k = some f → table.bound k = some f)
    (last : ∀ m f, lastConnect m f r'.log = lastConnect m f r.log) :
    Recorded (Function.update tables n table) r' where
  persistent := persistent
  clean := by
    intro m k c here
    rcases eq_or_ne m n with rfl | elsewhere
    · rw [Function.update_self] at here
      exact recorded.clean m k c (bound k c here)
    · rw [Function.update_of_ne elsewhere] at here
      exact recorded.clean m k c here
  named := by
    intro f record found
    obtain ⟨before, stays⟩ := records f record found
    obtain ⟨m, quotes, names, place⟩ := recorded.named f record before
    refine ⟨m, quotes, names, place.imp (fun ended => (last m f).trans ended) fun ⟨k, here⟩ => ⟨k, ?_⟩⟩
    rcases eq_or_ne m n with rfl | elsewhere
    · rw [Function.update_self]
      exact stays k here
    · rwa [Function.update_of_ne elsewhere]

theorem Recorded.drop (recorded : Recorded tables r) {k : ConnId} {c : Bytes} {action : Action}
    (bound : (tables n).bound k = some c) (drops : action = .disconnect n k ∨ action = .close n k) :
    Recorded (Function.update tables n ((tables n).detach k)) ((r.edit true (·.erase r.now (cstr c))).record action) := by
  refine recorded.keep (Hash.persistent_erase recorded.persistent _ _) ?_ ?_ fun m f => lastConnect_drop drops _
  · intro k' c' here
    rcases eq_or_ne k' k with rfl | other
    · simp [Sessions.detach] at here
    · simpa [Sessions.detach, other] using here
  · intro f record found
    have same : (r.devices.erase r.now (cstr c)).get r.now f = some record := found
    rw [cstr_of_no_nul (recorded.clean n k c bound)] at same
    rcases eq_or_ne f c with rfl | different
    · rw [Hash.get_erase_self] at same
      cases same
    · rw [Hash.get_erase_ne _ _ different] at same
      refine ⟨same, fun k' here => ?_⟩
      have other : k' ≠ k := by
        rintro rfl
        exact different (Option.some.inj (here.symm.trans bound))
      simpa [Sessions.detach, other] using here

theorem get_of_foldl_erase {devices : Hash Bytes Bytes} {now : Nat} {clients : List Bytes} {f record : Bytes}
    (found : (clients.foldl (fun d id => d.erase now (cstr id)) devices).get now f = some record) :
    devices.get now f = some record := by
  induction clients generalizing devices with
  | nil => exact found
  | cons c clients ih =>
    have before := ih found
    rcases eq_or_ne f (cstr c) with rfl | different
    · rw [Hash.get_erase_self] at before
      cases before
    · rwa [Hash.get_erase_ne _ _ different] at before

theorem Recorded.touch (recorded : Recorded tables r) (c : Bytes) :
    Recorded tables (r.edit true (RedisClient.touchRecord r.now (cstr c))) where
  persistent := persistent_touchRecord _ _ recorded.persistent
  clean := recorded.clean
  named := by
    intro f record found
    have touched : (RedisClient.touchRecord r.now (cstr c) r.devices).get r.now f = some record := found
    rcases eq_or_ne f (cstr c) with rfl | different
    · cases before : r.devices.get r.now (cstr c) with
      | none =>
        have untouched : RedisClient.touchRecord r.now (cstr c) r.devices = r.devices := by
          simp [RedisClient.touchRecord, before]
        rw [untouched, before] at touched
        cases touched
      | some old =>
        obtain ⟨m, quotes, names, place⟩ := recorded.named _ old before
        obtain ⟨new, here, head⟩ := head_touchRecord r.now (cstr c) quotes ⟨old, before, names⟩
        obtain rfl : new = record := Option.some.inj (here.symm.trans touched)
        exact ⟨m, quotes, head, place⟩
    · rw [get_touchRecord_ne r.now (cstr c) different] at touched
      exact recorded.named f record touched

theorem Recorded.exit (recorded : Recorded tables r) :
    Recorded (Function.update tables n .empty) (r.record (.exit n)) where
  persistent := recorded.persistent
  clean := by
    intro m k c here
    rcases eq_or_ne m n with rfl | elsewhere
    · rw [Function.update_self] at here
      cases here
    · rw [Function.update_of_ne elsewhere] at here
      exact recorded.clean m k c here
  named := by
    intro f record found
    obtain ⟨m, quotes, names, place⟩ := recorded.named f record found
    refine ⟨m, quotes, names, ?_⟩
    rcases eq_or_ne n m with rfl | elsewhere
    · exact Or.inl (if_pos rfl)
    · rw [Function.update_of_ne elsewhere.symm]
      exact place.imp_left fun ended => (if_neg elsewhere).trans ended

end Moves

theorem Recorded.move {tables : Tables} {r r' : Registry} {n : NodeId} {e : NodeEvent} {table : Sessions ConnId Bytes}
    (move : SessionMove n true e (tables n, r) (table, r')) (recorded : Recorded tables r)
    (connects : ∀ k payload, e = .packet k (.event (.connect payload)) → (0 ∉ payload.clientId ∧ QuotableId n) ∧
      ∀ k' c', (tables n).bound k' = some c' → (k' = k ↔ c' = payload.clientId)) :
    Recorded (Function.update tables n table) r' := by
  generalize here : tables n = s at move
  cases move with
  | quiet =>
    rw [← here, Function.update_eq_self]
    exact recorded
  | attach k payload =>
    subst here
    obtain ⟨⟨no_nul, quotable⟩, alone⟩ := connects k payload rfl
    exact recorded.attach _ no_nul quotable alone
  | drop e k c s r action bound drops =>
    subst here
    exact recorded.drop bound drops
  | unbound e k s r action drops =>
    subst here
    exact recorded.keep recorded.persistent (fun k c bound => bound) (fun f record found => ⟨found, fun k bound => bound⟩)
      fun m f => lastConnect_drop drops _
  | touch e k c =>
    rw [← here, Function.update_eq_self]
    exact recorded.touch c
  | evict e clients s r owned =>
    subst here
    exact recorded.keep (persistent_foldl_erase recorded.persistent _ _) (fun k c bound => bound)
      (fun f record found => ⟨get_of_foldl_erase found, fun k bound => bound⟩) fun m f => lastConnect_timeouts m n f clients _
  | exit => exact recorded.exit

structure Filed (s : System) : Prop where
  inOrder : InOrder s
  steady : ∀ n, Steady (s.nodes n)
  recorded : Recorded s.tables (registry s.world)

theorem recorded_step (s : System) (e : Event) (filed : Filed s) (alone : ConnectsAlone s e) (named : RecordsNamed s e) :
    Recorded (s.step e).tables (registry (s.step e).world) := by
  rcases session_step s e with ⟨same, now, later⟩ | ⟨n, event, rfl, running, move, others⟩
  · have tables : (s.step e).tables = s.tables := funext same
    rw [tables, later]
    refine ⟨filed.recorded.persistent, filed.recorded.clean, fun f record found => filed.recorded.named f record ?_⟩
    rw [Hash.get_of_persistent filed.recorded.persistent] at found ⊢
    exact found
  · have works : working (s.nodes n).redisClient_ = true := (filed.steady n).working running
    rw [works] at move
    rw [tables_update s others]
    refine filed.recorded.move move ?_
    rintro k payload rfl
    exact ⟨named.2 (n, k, payload.clientId) rfl, alone_bound alone⟩

theorem inOrder_run {events : List Event} (meets : Meets System.step ConnectsAlone System.new events) :
    InOrder (run System.step System.new events) :=
  run_invariant System.step inOrder_new
    (fun s e inOrder alone => ⟨paired_step s e inOrder alone, cleared_step s e inOrder alone⟩) meets

theorem filed_run {events : List Event} (meets : Meets System.step ConnectsAlone System.new events)
    (named : Meets System.step RecordsNamed System.new events) : Filed (run System.step System.new events) := by
  have start : Filed System.new := ⟨inOrder_new, fun _ => Or.inr ⟨rfl, rfl⟩, recorded_new⟩
  have kept : ∀ s e, Filed s → ConnectsAlone s e ∧ RecordsNamed s e → Filed (s.step e) := fun s e filed both =>
    ⟨⟨paired_step s e filed.inOrder both.1, cleared_step s e filed.inOrder both.1⟩,
      steady_step s e filed.steady both.2.1, recorded_step s e filed both.1 both.2⟩
  exact run_invariant System.step start kept (meets.and System.step named)

/-- In a run in which clients connect alone, a connection that has closed is the connection of no entry, and a client
that connected on it last is neither subscribed nor, as long as Redis is up, on record for the node. -/
theorem closed_leaves_nothing {events : List Event} (meets : Meets System.step ConnectsAlone System.new events)
    (n : NodeId) (k : ConnId) (closed : ((run System.step System.new events).nodes n).conns k = .disconnected) :
    let s := run System.step System.new events
    (∀ c info, (s.nodes n).deviceMgr_.devices_.lookup c = some info → info.connection ≠ k) ∧
      ∀ c, lastConnect n c s.world.log = some k →
        c ∉ (s.nodes n).deviceMgr_.subscriptions_ ∧ (∀ t, c ∉ (s.nodes n).deviceMgr_.subscribersOf t) ∧
          (Meets System.step RecordsNamed System.new events →
            ∀ record, s.world.redis.devices.get s.world.now c = some record →
              ClusterManager.extractJsonField record (ascii "gateway") ≠ n.text) := by
  intro s
  have inOrder : InOrder s := inOrder_run meets
  have unbound : (sessions (s.nodes n)).bound k = none := (inOrder.cleared n).closed k closed
  have absent : ∀ c, lastConnect n c s.world.log = some k → ¬ ∃ k', (sessions (s.nodes n)).bound k' = some c := by
    rintro c last ⟨k', bound⟩
    have recent := (inOrder.paired n).recent k' c bound
    have same : some k = some k' := by
      rw [← last, ← lastConnect_filter]
      exact recent
    obtain rfl := Option.some.inj same
    rw [unbound] at bound
    cases bound
  refine ⟨fun c info found here => ?_, fun c last => ⟨?_, fun t member => ?_, fun named record found names => ?_⟩⟩
  · have owned : (sessions (s.nodes n)).owner c = some k := by simp [sessions, found, here]
    have bound := (inOrder.paired n).owner c k owned
    rw [unbound] at bound
    cases bound
  · intro key
    obtain ⟨ts, found⟩ := Option.isSome_iff_exists.mp (AList.lookup_isSome.mpr key)
    refine absent c last ((inOrder.cleared n).topics c ?_)
    simpa [DeviceManager.topicsOf, Multimap.members, found] using ((inOrder.cleared n).indexed.topics c ts found).1
  · exact absent c last ((inOrder.cleared n).topics c
      (List.ne_nil_of_mem (((inOrder.cleared n).indexed.inverse c t).mpr member)))
  · obtain ⟨m, quotes, head, place⟩ := (filed_run meets named).recorded.named c record found
    obtain rfl : m = n := NodeId.ext_text ((extractJsonField_head quotes head).symm.trans names)
    rcases place with ended | bound
    · have nowhere : some k = none := by
        rw [← last, ← lastConnect_filter]
        exact ended
      cases nowhere
    · exact absent c last bound

/-- A device connects, subscribes and is closed. -/
def visit : List Event :=
  [.start gateway1 ⟨true, true⟩ 1883] ++ arrive gateway1 0 sensor ++
    [.node gateway1 (.packet 0 (.event (.subscribe 1 [⟨ascii "/cmd", 0⟩]))), .node gateway1 (.close 0)]

theorem closed_leaves_nothing_visit :
    let s := run System.step System.new visit
    sensor ∉ (s.nodes gateway1).deviceMgr_.subscriptions_ ∧
      (∀ t, sensor ∉ (s.nodes gateway1).deviceMgr_.subscribersOf t) ∧
        ∀ record, s.world.redis.devices.get s.world.now sensor = some record →
          ClusterManager.extractJsonField record (ascii "gateway") ≠ gateway1.text := by
  intro s
  have meets : Meets System.step ConnectsAlone System.new visit := by decide +kernel
  have named : Meets System.step RecordsNamed System.new visit := by
    refine ⟨⟨rfl, nofun⟩, ⟨trivial, nofun⟩, ⟨trivial, fun x connects => ?_⟩, ⟨trivial, nofun⟩, ⟨trivial, nofun⟩, trivial⟩
    cases connects
    exact ⟨by decide, by decide⟩
  obtain ⟨topics, subscribers, records⟩ :=
    (closed_leaves_nothing meets gateway1 0 (by decide +kernel)).2 sensor (by decide +kernel)
  exact ⟨topics, subscribers, records named⟩

/-- Two CONNECT packets with different client ids on one connection. -/
def renamed : List Event :=
  [.start gateway1 ⟨true, true⟩ 1883] ++ arrive gateway1 0 sensor ++
    [.node gateway1 (.packet 0 (.event (.subscribe 1 [⟨ascii "/cmd", 0⟩]))),
      .node gateway1 (.packet 0 (.event (.connect { protocolName := ascii "MQTT", flags := 2, clientId := lamp }))),
      .node gateway1 (.close 0)]

/-- The closing takes the second client offline, and the first keeps its entry, its subscription and its record. -/
theorem renamed_leaves_entry :
    let s := run System.step System.new renamed
    (s.nodes gateway1).conns 0 = .disconnected ∧
      ((s.nodes gateway1).deviceMgr_.devices_.lookup sensor).map (·.connection) = some 0 ∧
      lastConnect gateway1 sensor s.world.log = some 0 ∧ sensor ∈ (s.nodes gateway1).deviceMgr_.subscriptions_ ∧
      (s.world.redis.devices.get s.world.now sensor).map (ClusterManager.extractJsonField · (ascii "gateway")) =
        some gateway1.text := by
  decide +kernel

end IotGateway.Gateway
