import IotGateway.Gateway.Subscriptions
import IotGateway.Gateway.Sessions

/-!
# Acknowledged subscriptions

A node serves a subscription through three tables: the client of the connection, the
entry of the client, and the subscription index. The heartbeat check takes a client out
of the last two and leaves the connection bound to it. As long as no client goes offline
while a connection is bound to it, every client in the index has an entry, and a
subscription that was acknowledged is served.
-/

namespace IotGateway.Gateway
open Text Storage Protocol

/-- An event of one node, with the clock and the store as the event finds them. -/
structure Input where
  now : Nat
  redis : RedisServer
  event : NodeEvent

def serveStep (n : NodeId) (s : GatewayServer × World) (i : Input) : GatewayServer × World :=
  s.1.nodeStep n ⟨i.now, i.redis, s.2.log⟩ i.event

/-- A client that the event takes offline has no connection left that is bound to it. -/
def OfflineUnbinds (s : GatewayServer × World) (i : Input) : Prop :=
  match i.event with
  | .close k | .packet k (.event .disconnect) =>
    ∀ b ∈ s.1.connClientMap.entries, b.1 = k → ∀ b' ∈ s.1.connClientMap.entries, b'.2 = b.2 → b'.1 = k
  | .heartbeatCheck => ∀ b ∈ s.1.connClientMap.entries, b.2 ∉ s.1.deviceMgr_.timeoutDevices i.now
  | _ => True

/-- Connections are bound to clients with an entry, and the index holds only such clients. -/
structure Listed (g : GatewayServer) : Prop where
  indexed : g.deviceMgr_.Indexed
  bound : ∀ k c, (sessions g).bound k = some c → (sessions g).owner c ≠ none
  topics : ∀ c, g.deviceMgr_.topicsOf c ≠ [] → (sessions g).owner c ≠ none

theorem listed_new : Listed {} where
  indexed := DeviceManager.indexed_new
  bound := fun k c bound => by cases bound
  topics := fun c topics => absurd rfl topics

theorem Listed.of_tables {g g' : GatewayServer} (listed : Listed g) (manager : g'.deviceMgr_ = g.deviceMgr_)
    (map : g'.connClientMap = g.connClientMap) : Listed g' := by
  have same : sessions g' = sessions g := by simp only [sessions, manager, map]
  exact ⟨manager ▸ listed.indexed, same ▸ listed.bound, by rw [same, manager]; exact listed.topics⟩

/-- Some clients go offline, and no connection stays bound to one of them. -/
theorem Listed.offline {g g' : GatewayServer} (listed : Listed g) (gone : List Bytes)
    (manager : g'.deviceMgr_ = gone.foldl DeviceManager.deviceOfflineLocked g.deviceMgr_)
    (unbinds : ∀ k c, (sessions g').bound k = some c → (sessions g).bound k = some c ∧ c ∉ gone) : Listed g' := by
  have owner : ∀ c, (sessions g').owner c = if c ∈ gone then none else (sessions g).owner c := by
    intro c
    simp only [sessions, manager]
    exact owner_foldl_offline g.deviceMgr_ gone c
  refine ⟨manager ▸ listed.indexed.foldl_offline gone, fun k c bound => ?_, fun c topics => ?_⟩
  · obtain ⟨before, stays⟩ := unbinds k c bound
    rw [owner, if_neg stays]
    exact listed.bound k c before
  · have held : (if c ∈ gone then none else g.deviceMgr_.subscriptions_.lookup c).getD [] ≠ [] := by
      rw [← DeviceManager.topics_foldl_offline gone c, ← manager]
      exact topics
    by_cases left : c ∈ gone
    · simp [left] at held
    · rw [if_neg left] at held
      rw [owner, if_neg left]
      exact listed.topics c held

theorem Listed.handleConnect {g : GatewayServer} (listed : Listed g) (n : NodeId) (w : World) (k : ConnId)
    (payload : MqttConnectPayload) : Listed (g.handleConnect n w k payload).1 := by
  have attached := sessions_handleConnect n g w k payload
  have owner : ∀ c, (sessions g).owner c ≠ none ∨ c = payload.clientId →
      (sessions (g.handleConnect n w k payload).1).owner c ≠ none := by
    intro c known
    rw [attached]
    rcases eq_or_ne c payload.clientId with rfl | different
    · simp [Sessions.attach]
    · simpa [Sessions.attach, different] using known.resolve_right different
  refine ⟨listed.indexed.of_maps rfl rfl, fun k' c bound => owner c ?_, fun c topics => owner c (Or.inl (listed.topics c topics))⟩
  rw [attached] at bound
  rcases eq_or_ne k' k with rfl | other
  · right
    simpa [Sessions.attach, eq_comm] using bound
  · left
    exact listed.bound k' c (by simpa [Sessions.attach, other] using bound)

theorem Listed.handleSubscribe {g : GatewayServer} (listed : Listed g) (n : NodeId) (w : World) (k : ConnId)
    (packetId : UInt16) (filters : List MqttTopicFilter) : Listed (g.handleSubscribe n w k packetId filters).1 := by
  have same := sessions_handleSubscribe n g w k packetId filters
  cases bound : g.connClientMap.lookup k with
  | none =>
    have unchanged : (g.handleSubscribe n w k packetId filters).1 = g := by simp only [GatewayServer.handleSubscribe, bound]
    rw [unchanged]
    exact listed
  | some c =>
    have manager := handleSubscribe_bound n g w packetId filters bound
    refine ⟨?_, by rw [same]; exact listed.bound, fun c' topics => ?_⟩
    · rw [manager]
      exact listed.indexed.foldl_subscribe c _
    · rw [same]
      obtain ⟨t, member⟩ := List.exists_mem_of_ne_nil _ topics
      rw [manager] at member
      rcases DeviceManager.mem_topicsOf_foldl_subscribe.mp member with before | ⟨rfl, _⟩
      · exact listed.topics c' (List.ne_nil_of_mem before)
      · exact listed.bound k c' bound

theorem Listed.dropConn {g : GatewayServer} (listed : Listed g) (w : World) {k : ConnId}
    (unbinds : ∀ c, (sessions g).bound k = some c → ∀ k', (sessions g).bound k' = some c → k' = k) :
    Listed (g.dropConn w k).1 := by
  cases bound : g.connClientMap.lookup k with
  | none =>
    rw [dropConn_unbound g w bound]
    exact listed
  | some c =>
    refine listed.offline [c] ?_ fun k' c' after => ?_
    · simp only [GatewayServer.dropConn, bound, DeviceManager.deviceOffline]
      rfl
    · rw [(dropConn_bound g w bound).1] at after
      rcases eq_or_ne k' k with rfl | other
      · simp [Sessions.detach] at after
      · have before : (sessions g).bound k' = some c' := by simpa [Sessions.detach, other] using after
        refine ⟨before, fun gone => other (unbinds c bound k' ?_)⟩
        rwa [List.mem_singleton.mp gone] at before

theorem Listed.handleItem {g : GatewayServer} (listed : Listed g) (n : NodeId) (w : World) (k : ConnId)
    (item : Item MqttEvent)
    (unbinds : item = .event .disconnect →
      ∀ c, (sessions g).bound k = some c → ∀ k', (sessions g).bound k' = some c → k' = k) :
    Listed (g.handleItem n w k item).1 := by
  cases item with
  | failure =>
    simp only [GatewayServer.handleItem]
    split <;> exact listed.of_tables rfl rfl
  | event e =>
    cases e with
    | connect payload => exact listed.handleConnect n w k payload
    | publish topic payload qos retain packetId => exact listed.of_tables rfl rfl
    | subscribe packetId filters => exact listed.handleSubscribe n w k packetId filters
    | pingReq =>
      have same := sessions_handlePingReq n g w k
      simp only [GatewayServer.handleItem, GatewayServer.handleEvent]
      refine ⟨?_, by rw [same]; exact listed.bound, ?_⟩
      · simp only [GatewayServer.handlePingReq]
        split
        · exact listed.indexed
        · exact listed.indexed.of_maps rfl rfl
      · intro c topics
        rw [same]
        apply listed.topics c
        simp only [GatewayServer.handlePingReq] at topics
        split at topics <;> exact topics
    | disconnect => exact listed.dropConn w (unbinds rfl)
    | pubAck packetId => exact listed

/-- Every bound connection of a client that goes offline is the one that goes. -/
theorem bound_eq_of_entries {g : GatewayServer} {k : ConnId}
    (alone : ∀ b ∈ g.connClientMap.entries, b.1 = k → ∀ b' ∈ g.connClientMap.entries, b'.2 = b.2 → b'.1 = k) (c : Bytes)
    (bound : (sessions g).bound k = some c) (k' : ConnId) (bound' : (sessions g).bound k' = some c) : k' = k :=
  alone ⟨k, c⟩ (AList.mem_lookup_iff.mp bound) rfl ⟨k', c⟩ (AList.mem_lookup_iff.mp bound') rfl

theorem listed_step (n : NodeId) (s : GatewayServer × World) (i : Input) (listed : Listed s.1) (cond : OfflineUnbinds s i) :
    Listed (serveStep n s i).1 := by
  obtain ⟨now, redis, e⟩ := i
  unfold serveStep
  rcases nodeStep_cases n s.1 ⟨now, redis, s.2.log⟩ e with same | exited | ⟨k, rfl, _, step⟩ | ⟨k, item, rfl, _, step⟩ |
    ⟨k, rfl, _, step⟩ | ⟨rfl, step⟩
  · obtain ⟨manager, map, -⟩ := eq_of_tables same
    exact listed.of_tables manager map
  · rw [exited]
    exact listed_new.of_tables rfl rfl
  · rw [step]
    exact listed.of_tables rfl rfl
  · rw [step]
    refine listed.handleItem n _ k item ?_
    rintro rfl
    exact bound_eq_of_entries cond
  · rw [step]
    have closed : Listed (s.1.setConn k .disconnected) := listed.of_tables rfl rfl
    exact closed.dropConn _ (bound_eq_of_entries cond)
  · rw [step]
    refine listed.offline (s.1.deviceMgr_.timeoutDevices now) rfl fun k c bound => ⟨bound, fun evicted => ?_⟩
    exact cond ⟨k, c⟩ (AList.mem_lookup_iff.mp bound) evicted

/-! ### A subscription from its acknowledgement on -/

/-- While the connection is up it is bound to the client and the client is subscribed to the topic. -/
structure Holds (k : ConnId) (c t : Bytes) (g : GatewayServer) : Prop where
  accepted : g.conns k ≠ .connecting
  up : g.conns k = .connected → (sessions g).bound k = some c ∧ t ∈ g.deviceMgr_.topicsOf c

/-- A CONNECT or a DISCONNECT on the connection. -/
def NodeEvent.Rebinds (k : ConnId) : NodeEvent → Prop
  | .packet k' (.event (.connect _)) | .packet k' (.event .disconnect) => k' = k
  | _ => False

section Holds

variable {k : ConnId} {c t : Bytes} {g : GatewayServer}

theorem Holds.of_tables {g' : GatewayServer} (holds : Holds k c t g) (conns : g'.conns k = g.conns k)
    (bound : (sessions g').bound k = (sessions g).bound k) (topics : t ∈ g.deviceMgr_.topicsOf c → t ∈ g'.deviceMgr_.topicsOf c) :
    Holds k c t g' := by
  refine ⟨by rw [conns]; exact holds.accepted, fun up => ?_⟩
  rw [conns] at up
  rw [bound]
  exact ⟨(holds.up up).1, topics (holds.up up).2⟩

theorem Holds.down {g' : GatewayServer} (down : g'.conns k = .disconnecting ∨ g'.conns k = .disconnected) :
    Holds k c t g' := by
  rcases down with state | state
  · exact ⟨by simp [state], fun up => by simp [state] at up⟩
  · exact ⟨by simp [state], fun up => by simp [state] at up⟩

/-- Another connection goes, whose client is not this one while the connection is up. -/
theorem Holds.dropConn (holds : Holds k c t g) (w : World) {k' : ConnId} (other : k' ≠ k)
    (unbinds : ∀ c', (sessions g).bound k' = some c' → ∀ j, (sessions g).bound j = some c' → j = k') :
    Holds k c t (g.dropConn w k').1 := by
  refine ⟨by rw [conns_dropConn]; exact holds.accepted, fun up => ?_⟩
  rw [conns_dropConn] at up
  obtain ⟨bound, member⟩ := holds.up up
  cases dropped : g.connClientMap.lookup k' with
  | none =>
    rw [dropConn_unbound g w dropped]
    exact ⟨bound, member⟩
  | some c' =>
    have different : c ≠ c' := by
      rintro rfl
      exact other (unbinds c dropped k bound).symm
    rw [(dropConn_bound g w dropped).1]
    refine ⟨by simpa [Sessions.detach, other.symm] using bound, ?_⟩
    simp only [GatewayServer.dropConn, dropped, DeviceManager.deviceOffline, DeviceManager.topicsOf, Multimap.members]
    rw [DeviceManager.topics_offline, if_neg different]
    exact member

theorem Holds.handleItem (holds : Holds k c t g) (n : NodeId) (w : World) {k' : ConnId} {item : Item MqttEvent}
    (rebinds : ¬ NodeEvent.Rebinds k (.packet k' item))
    (unbinds : item = .event .disconnect →
      ∀ c', (sessions g).bound k' = some c' → ∀ j, (sessions g).bound j = some c' → j = k') :
    Holds k c t (g.handleItem n w k' item).1 := by
  cases item with
  | failure =>
    simp only [GatewayServer.handleItem]
    split
    · rcases eq_or_ne k k' with rfl | other
      · exact .down (Or.inl (if_pos rfl))
      · exact holds.of_tables (if_neg other) rfl id
    · exact holds
  | event e =>
    cases e with
    | connect payload =>
      have other : k ≠ k' := fun same => rebinds same.symm
      have bound : (sessions (g.handleConnect n w k' payload).1).bound k = (sessions g).bound k := by
        rw [sessions_handleConnect]
        simp [Sessions.attach, other]
      exact holds.of_tables rfl bound id
    | publish topic payload qos retain packetId => exact holds.of_tables rfl rfl id
    | subscribe packetId filters =>
      have conns : (g.handleSubscribe n w k' packetId filters).1.conns = g.conns := by
        simp only [GatewayServer.handleSubscribe]
        split <;> rfl
      refine holds.of_tables (congrFun conns k) ?_ fun member => ?_
      · exact congrFun (congrArg Sessions.bound (sessions_handleSubscribe n g w k' packetId filters)) k
      · simp only [GatewayServer.handleItem, GatewayServer.handleEvent]
        cases bound : g.connClientMap.lookup k' with
        | none => simpa only [GatewayServer.handleSubscribe, bound] using member
        | some c' =>
          rw [handleSubscribe_bound n g w packetId filters bound]
          exact DeviceManager.mem_topicsOf_foldl_subscribe.mpr (Or.inl member)
    | pingReq =>
      simp only [GatewayServer.handleItem, GatewayServer.handleEvent, GatewayServer.handlePingReq]
      split
      · exact holds
      · exact holds.of_tables rfl rfl id
    | disconnect => exact holds.dropConn w (fun same => rebinds same) (unbinds rfl)
    | pubAck packetId => exact holds

end Holds

theorem holds_step (n : NodeId) {k : ConnId} {c t : Bytes} (s : GatewayServer × World) (i : Input) (holds : Holds k c t s.1)
    (cond : OfflineUnbinds s i) (rebinds : ¬ i.event.Rebinds k) : Holds k c t (serveStep n s i).1 := by
  obtain ⟨now, redis, e⟩ := i
  unfold serveStep
  rcases nodeStep_cases n s.1 ⟨now, redis, s.2.log⟩ e with same | exited | ⟨k', rfl, fresh, step⟩ | ⟨k', item, rfl, _, step⟩ |
    ⟨k', rfl, _, step⟩ | ⟨rfl, step⟩
  · obtain ⟨manager, map, conns, -⟩ := eq_of_tables same
    exact holds.of_tables (congrFun conns k) (by simp only [sessions, map])
      fun member => by rwa [manager]
  · rw [exited]
    exact .down (Or.inr (if_neg holds.accepted))
  · rw [step]
    have other : k ≠ k' := by
      rintro rfl
      exact holds.accepted fresh
    exact holds.of_tables (if_neg other) rfl id
  · rw [step]
    refine holds.handleItem n _ rebinds ?_
    rintro rfl
    exact bound_eq_of_entries cond
  · rw [step]
    rcases eq_or_ne k k' with rfl | other
    · refine .down (Or.inr ?_)
      simp only [GatewayServer.onConnectionClosed, conns_dropConn]
      exact if_pos rfl
    · have closed : Holds k c t (s.1.setConn k' .disconnected) := holds.of_tables (if_neg other) rfl id
      exact closed.dropConn _ other.symm (bound_eq_of_entries cond)
  · rw [step]
    refine ⟨holds.accepted, fun up => ⟨(holds.up up).1, ?_⟩⟩
    have stays : c ∉ s.1.deviceMgr_.timeoutDevices now :=
      cond ⟨k, c⟩ (AList.mem_lookup_iff.mp (holds.up up).1)
    show t ∈ (((s.1.deviceMgr_.timeoutDevices now).foldl DeviceManager.deviceOfflineLocked s.1.deviceMgr_).subscriptions_.lookup
      c).getD []
    rw [DeviceManager.topics_foldl_offline, if_neg stays]
    exact (holds.up up).2

theorem holds_run (n : NodeId) {k : ConnId} {c t : Bytes} {s : GatewayServer × World} {inputs : List Input}
    (holds : Holds k c t s.1) (meets : Meets (serveStep n) OfflineUnbinds s inputs)
    (rebinds : ∀ i ∈ inputs, ¬ i.event.Rebinds k) : Holds k c t (run (serveStep n) s inputs).1 := by
  induction inputs generalizing s with
  | nil => exact holds
  | cons i inputs ih =>
    exact ih (holds_step n s i holds meets.1 (rebinds i List.mem_cons_self)) meets.2
      fun j member => rebinds j (List.mem_cons_of_mem _ member)

/-- The event is a SUBSCRIBE to the topic on a connection of the client, and `handleSubscribe` sends a SUBACK for it. -/
structure Acknowledged (n : NodeId) (s : GatewayServer × World) (i : Input) (k : ConnId) (c t : Bytes) : Prop where
  client : s.1.connClientMap.lookup k = some c
  sent : ∃ packetId filters, i.event = .packet k (.event (.subscribe packetId filters)) ∧ t ∈ filters.map (·.topic) ∧
    (serveStep n s i).2.log =
      .frame n k (MqttCodec.encodeSubAck newBuffer packetId (filters.map (·.qos))).readable :: s.2.log

theorem Acknowledged.holds {n : NodeId} {s : GatewayServer × World} {i : Input} {k : ConnId} {c t : Bytes}
    (acknowledged : Acknowledged n s i k c t) : Holds k c t (serveStep n s i).1 := by
  obtain ⟨client, packetId, filters, event, member, sent⟩ := acknowledged
  obtain ⟨now, redis, e⟩ := i
  obtain rfl : e = _ := event
  have grows : ∀ (frame : Action) (log : List Action), log ≠ frame :: log := fun frame log same => by
    simpa using congrArg List.length same
  simp only [serveStep, GatewayServer.nodeStep] at sent ⊢
  split
  · rename_i readable
    rw [if_pos readable] at sent
    simp only [GatewayServer.handleItem, GatewayServer.handleEvent, GatewayServer.handleSubscribe, client,
      GatewayServer.send] at sent
    have up : s.1.conns k = .connected := by
      by_contra down
      rw [if_neg down] at sent
      exact grows _ _ sent
    have conns : (s.1.handleSubscribe n ⟨now, redis, s.2.log⟩ k packetId filters).1.conns = s.1.conns := by
      simp only [GatewayServer.handleSubscribe, client]
    refine ⟨?_, fun _ => ⟨?_, ?_⟩⟩
    · show (s.1.handleSubscribe n _ k packetId filters).1.conns k ≠ _
      rw [conns, up]
      exact fun different => by cases different
    · exact (congrFun (congrArg Sessions.bound (sessions_handleSubscribe n s.1 _ k packetId filters)) k).trans client
    · show t ∈ (s.1.handleSubscribe n _ k packetId filters).1.deviceMgr_.topicsOf c
      rw [handleSubscribe_bound n s.1 _ packetId filters client]
      exact DeviceManager.mem_topicsOf_foldl_subscribe.mpr (Or.inr ⟨rfl, member⟩)
  · rename_i closed
    rw [if_neg closed] at sent
    exact absurd sent (grows _ _)

/-! ### Runs -/

theorem recent_step (n : NodeId) (s : GatewayServer × World) (i : Input)
    (recent : Recent n (sessions s.1) (s.2.log.filter isSession)) :
    Recent n (sessions (serveStep n s i).1) ((serveStep n s i).2.log.filter isSession) :=
  Recent.move (sessionMove_nodeStep n s.1 ⟨i.now, i.redis, s.2.log⟩ i.event) recent

/-- A client with an entry on a connection that is up, subscribed to a topic, is served. -/
theorem mem_getSubscribers {g : GatewayServer} {k : ConnId} {c t : Bytes} (indexed : g.deviceMgr_.Indexed)
    (owned : (sessions g).owner c = some k) (up : g.conns k = .connected) (member : t ∈ g.deviceMgr_.topicsOf c) :
    k ∈ g.deviceMgr_.getSubscribers g.conns t := by
  obtain ⟨info, found, connection⟩ := Option.map_eq_some_iff.mp owned
  refine List.mem_filterMap.mpr ⟨c, (indexed.inverse c t).mp member, ?_⟩
  rw [DeviceManager.findDevice, found, Option.filter_some]
  simp [DeviceInfo.isOnline, connection, up]

/-- In a run in which no client goes offline while a connection is bound to it, every client of the index has an entry,
and a subscription that was acknowledged on a connection is served on it until the connection goes, its client changes
or connects elsewhere. -/
theorem subscriptions_served (n : NodeId) (reach : Reach) (mqttPort : UInt16) (w : World) (inputs : List Input)
    (meets : Meets (serveStep n) OfflineUnbinds (GatewayServer.start n reach mqttPort {} w) inputs) :
    let start := GatewayServer.start n reach mqttPort {} w
    let s := run (serveStep n) start inputs
    (∀ c, (c ∈ s.1.deviceMgr_.subscriptions_ ∨ ∃ t, c ∈ s.1.deviceMgr_.subscribersOf t) → c ∈ s.1.deviceMgr_.devices_) ∧
      ∀ before i after k c t, inputs = before ++ i :: after →
        Acknowledged n (run (serveStep n) start before) i k c t → (∀ j ∈ after, ¬ j.event.Rebinds k) →
        s.1.conns k = .connected → lastConnect n c s.2.log = some k →
        k ∈ s.1.deviceMgr_.getSubscribers s.1.conns t := by
  intro start s
  have fresh : tables start.1 = tables {} := tables_start n {} w reach mqttPort
  obtain ⟨manager, map, -⟩ := eq_of_tables fresh
  have listed : Listed s.1 := run_invariant (serveStep n)
    (show (fun s : GatewayServer × World => Listed s.1) start from listed_new.of_tables manager map)
    (listed_step n) meets
  have recent : Recent n (sessions s.1) (s.2.log.filter isSession) :=
    run_kept (serveStep n) (fun s => Recent n (sessions s.1) (s.2.log.filter isSession))
      (fun c k owned => by simp [sessions, manager] at owned) (recent_step n) inputs
  have entry : ∀ c, (sessions s.1).owner c ≠ none → c ∈ s.1.deviceMgr_.devices_ := by
    intro c owned
    by_contra absent
    exact owned (by simp [sessions, AList.lookup_eq_none.mpr absent])
  refine ⟨fun c occurs => entry c (listed.topics c ?_), ?_⟩
  · rcases occurs with key | ⟨t, member⟩
    · obtain ⟨ts, found⟩ := Option.isSome_iff_exists.mp (AList.lookup_isSome.mpr key)
      simpa [DeviceManager.topicsOf, Multimap.members, found] using (listed.indexed.topics c ts found).1
    · exact List.ne_nil_of_mem ((listed.indexed.inverse c t).mpr member)
  · intro before i after k c t split acknowledged rebinds up last
    have rest : Meets (serveStep n) OfflineUnbinds (run (serveStep n) start before) (i :: after) :=
      (meets_append (serveStep n)).mp (split ▸ meets) |>.2
    have final : s = run (serveStep n) (serveStep n (run (serveStep n) start before) i) after := by
      show run (serveStep n) start inputs = _
      rw [split, run_append, run_cons]
    have holds : Holds k c t s.1 := by
      rw [final]
      exact holds_run n acknowledged.holds rest.2 rebinds
    obtain ⟨bound, member⟩ := holds.up up
    obtain ⟨k', owned⟩ := Option.ne_none_iff_exists'.mp (listed.bound k c bound)
    have same : some k' = some k := by
      rw [← recent c k' owned, lastConnect_filter]
      exact last
    obtain rfl := Option.some.inj same
    exact mem_getSubscribers listed.indexed owned up member

/-! ### Concrete runs -/

def soloStart : GatewayServer × World := GatewayServer.start gateway1 ⟨true, true⟩ 1883 {} ⟨0, .new, []⟩

def joins : List Input :=
  [⟨0, .new, .accept 0⟩,
    ⟨0, .new, .packet 0 (.event (.connect { protocolName := ascii "MQTT", flags := 2, clientId := sensor }))⟩]

def subscribes (now : Nat) : Input := ⟨now, .new, .packet 0 (.event (.subscribe 1 [⟨ascii "/cmd", 0⟩]))⟩

def checks (now : Nat) : Input := ⟨now, .new, .heartbeatCheck⟩

theorem subscriptions_served_cmd :
    let s := run (serveStep gateway1) soloStart (joins ++ subscribes 0 :: [checks (60 * kSecond)])
    0 ∈ s.1.deviceMgr_.getSubscribers s.1.conns (ascii "/cmd") := by
  intro s
  have quiet : ∀ b ∈ (run (serveStep gateway1) soloStart (joins ++ [subscribes 0])).1.connClientMap.entries,
      b.2 ∉ (run (serveStep gateway1) soloStart (joins ++ [subscribes 0])).1.deviceMgr_.timeoutDevices (60 * kSecond) := by
    decide +kernel
  have meets : Meets (serveStep gateway1) OfflineUnbinds soloStart (joins ++ subscribes 0 :: [checks (60 * kSecond)]) :=
    ⟨trivial, trivial, trivial, quiet, trivial⟩
  have acknowledged : Acknowledged gateway1 (run (serveStep gateway1) soloStart joins) (subscribes 0) 0 sensor (ascii "/cmd") :=
    ⟨by decide +kernel, 1, [⟨ascii "/cmd", 0⟩], rfl, by decide, by decide +kernel⟩
  refine (subscriptions_served gateway1 ⟨true, true⟩ 1883 ⟨0, .new, []⟩ _ meets).2 joins (subscribes 0)
    [checks (60 * kSecond)] 0 sensor (ascii "/cmd") rfl acknowledged ?_ (by decide +kernel) (by decide +kernel)
  intro j member
  obtain rfl := List.mem_singleton.mp member
  exact id

/-- The heartbeat check evicts the device and leaves its connection open and bound. The next SUBSCRIBE is acknowledged
for a client without an entry, and is not served. -/
theorem evicted_acknowledged_unserved :
    let before := joins ++ [checks (91 * kSecond)]
    let s := run (serveStep gateway1) soloStart (before ++ [subscribes (91 * kSecond)])
    Acknowledged gateway1 (run (serveStep gateway1) soloStart before) (subscribes (91 * kSecond)) 0 sensor (ascii "/cmd") ∧
      s.1.conns 0 = .connected ∧ lastConnect gateway1 sensor s.2.log = some 0 ∧
      sensor ∈ s.1.deviceMgr_.subscriptions_ ∧ sensor ∉ s.1.deviceMgr_.devices_ ∧
      0 ∉ s.1.deviceMgr_.getSubscribers s.1.conns (ascii "/cmd") := by
  intro before s
  exact ⟨⟨by decide +kernel, 1, [⟨ascii "/cmd", 0⟩], rfl, by decide, by decide +kernel⟩, by decide +kernel,
    by decide +kernel, by decide +kernel, by decide +kernel, by decide +kernel⟩

end IotGateway.Gateway
