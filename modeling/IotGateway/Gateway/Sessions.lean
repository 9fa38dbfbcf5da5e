import IotGateway.Lib.Sessions
import IotGateway.Gateway.Frame

/-!
# Connections, devices and the registry

`sessions` reads the two tables of a node, `connClientMap` and `devices_`. The lemmas of
this module say once what each event of a node does to these tables and to the device
registry (`sessionMove_nodeStep`).
-/

namespace IotGateway.Gateway
open Text Redis Storage Protocol

/-! ### The device table -/

namespace DeviceManager

theorem devices_deviceOfflineLocked (d : DeviceManager) (clientId c : Bytes) :
    (d.deviceOfflineLocked clientId).devices_.lookup c = if c = clientId then none else d.devices_.lookup c := by
  unfold deviceOfflineLocked
  split
  · rename_i same
    rw [same, AList.lookup_erase]
  · rename_i different
    rw [AList.lookup_erase_ne different]

theorem devices_foldl_offline (d : DeviceManager) (clients : List Bytes) (c : Bytes) :
    (clients.foldl deviceOfflineLocked d).devices_.lookup c = if c ∈ clients then none else d.devices_.lookup c := by
  induction clients generalizing d with
  | nil => simp
  | cons clientId clients ih =>
    rw [List.foldl_cons, ih, devices_deviceOfflineLocked]
    by_cases same : c = clientId <;> simp [same]

theorem mem_timeoutDevices {d : DeviceManager} {now : Nat} {c : Bytes} :
    c ∈ d.timeoutDevices now ↔ ∃ info, d.devices_.lookup c = some info ∧ info.timedOut now = true := by
  simp only [timeoutDevices, List.mem_map, List.mem_filter]
  constructor
  · rintro ⟨⟨id, info⟩, ⟨listed, late⟩, rfl⟩
    exact ⟨info, AList.mem_lookup_iff.mpr listed, late⟩
  · rintro ⟨info, found, late⟩
    exact ⟨⟨c, info⟩, ⟨AList.mem_lookup_iff.mp found, late⟩, rfl⟩

end DeviceManager

/-! ### What a node says of its connections -/

/-- Which connection a node takes for which client, and back. -/
def sessions (g : GatewayServer) : Sessions ConnId Bytes where
  bound := fun k => g.connClientMap.lookup k
  owner := fun c => (g.deviceMgr_.devices_.lookup c).map (·.connection)

def working (c : RedisClient) : Bool := c.connected_ && c.answers

/-- A change of the registry that needs a working client. -/
def Registry.edit (r : Registry) (works : Bool) (change : Hash Bytes Bytes → Hash Bytes Bytes) : Registry :=
  { r with devices := if works then change r.devices else r.devices }

def Registry.record (r : Registry) (action : Action) : Registry := { r with log := action :: r.log }

section Client

variable (c : RedisClient) (w : World)

theorem working_iff : working c = true ↔ c.connected_ = true ∧ c.answers = true := by simp [working]

theorem registry_registerDevice (clientId gateway : Bytes) (keepAlive : Int) :
    registry (c.registerDevice w clientId gateway keepAlive) =
      (registry w).edit (working c) (·.set w.now (cstr clientId)
        (snprintf 512 (RedisClient.registryText gateway (w.now / kSecond) keepAlive))) := by
  unfold RedisClient.registerDevice
  split
  · rename_i works
    simp [registry, Registry.edit, (working_iff c).mpr works]
  · rename_i fails
    simp [Registry.edit, mt (working_iff c).mp fails]

theorem registry_unregisterDevice (clientId : Bytes) :
    registry (c.unregisterDevice w clientId) = (registry w).edit (working c) (·.erase w.now (cstr clientId)) := by
  unfold RedisClient.unregisterDevice
  split
  · rename_i works
    simp [registry, Registry.edit, (working_iff c).mpr works]
  · rename_i fails
    simp [Registry.edit, mt (working_iff c).mp fails]

theorem registry_updateDeviceHeartbeat (clientId : Bytes) :
    registry (c.updateDeviceHeartbeat w clientId) =
      (registry w).edit (working c) (RedisClient.touchRecord w.now (cstr clientId)) := by
  unfold RedisClient.updateDeviceHeartbeat
  split
  · rename_i works
    simp [registry, Registry.edit, (working_iff c).mpr works]
  · rename_i fails
    simp [Registry.edit, mt (working_iff c).mp fails]

/-- Guarding a change by `isConnected` adds nothing, since a client that works is connected. -/
theorem registry_guarded {changed : World} {change : Hash Bytes Bytes → Hash Bytes Bytes}
    (changes : registry changed = (registry w).edit (working c) change) :
    registry (if c.isConnected then changed else w) = (registry w).edit (working c) change := by
  split
  · exact changes
  · rename_i disconnected
    have fails : working c = false := by simpa [working, RedisClient.isConnected] using fun h => absurd h disconnected
    simp [Registry.edit, fails]

end Client

/-! ### Handlers -/

section Node

variable (n : NodeId) (g : GatewayServer) (w : World)

theorem dropConn_bound {conn : ConnId} {clientId : Bytes} (bound : g.connClientMap.lookup conn = some clientId) :
    sessions (g.dropConn w conn).1 = (sessions g).detach conn ∧
      registry (g.dropConn w conn).2 =
        (registry w).edit (working g.redisClient_) (·.erase w.now (cstr clientId)) := by
  unfold GatewayServer.dropConn
  rw [bound]
  constructor
  · simp only [sessions, Sessions.detach, Sessions.mk.injEq, bound]
    constructor
    · funext k
      rcases eq_or_ne k conn with rfl | here
      · rw [AList.lookup_erase, Function.update_self]
      · rw [AList.lookup_erase_ne here, Function.update_of_ne here]
    · funext c
      have removed := g.deviceMgr_.devices_deviceOfflineLocked clientId c
      rw [show (g.deviceMgr_.deviceOffline g.redisClient_ w clientId).1 = g.deviceMgr_.deviceOfflineLocked clientId from rfl,
        removed]
      split
      · rename_i same
        simp [same]
      · rename_i different
        simp [Ne.symm different]
  · exact registry_guarded _ w (registry_unregisterDevice _ w clientId)

theorem dropConn_unbound {conn : ConnId} (unbound : g.connClientMap.lookup conn = none) :
    g.dropConn w conn = (g, w) := by
  unfold GatewayServer.dropConn
  rw [unbound]

theorem sessions_handleConnect (conn : ConnId) (payload : MqttConnectPayload) :
    sessions (g.handleConnect n w conn payload).1 = (sessions g).attach conn payload.clientId := by
  simp only [sessions, GatewayServer.handleConnect, DeviceManager.deviceOnline, Sessions.attach, Sessions.mk.injEq]
  constructor
  · funext k
    rcases eq_or_ne k conn with rfl | here
    · rw [AList.lookup_insert, Function.update_self]
    · rw [AList.lookup_insert_ne here, Function.update_of_ne here]
  · funext c
    rcases eq_or_ne c payload.clientId with rfl | here
    · rw [AList.lookup_insert, Function.update_self]
      rfl
    · rw [AList.lookup_insert_ne here, Function.update_of_ne here]

theorem registry_handleConnect (conn : ConnId) (payload : MqttConnectPayload) :
    registry (g.handleConnect n w conn payload).2 =
      ((registry w).edit (working g.redisClient_) (·.set w.now (cstr payload.clientId) (snprintf 512
        (RedisClient.registryText n.text (w.now / kSecond) payload.keepAlive.toNat)))).record
        (.connect n conn payload.clientId) := by
  have registered := registry_guarded g.redisClient_ w
    (registry_registerDevice g.redisClient_ w payload.clientId n.text payload.keepAlive.toNat)
  unfold GatewayServer.handleConnect DeviceManager.deviceOnline
  dsimp only
  rw [view_send n _ _ (Sees.blind sees_registry rfl), ← registered]
  rfl

theorem sessions_subscribe (d : DeviceManager) (clientId : Bytes) (filters : List MqttTopicFilter) :
    (filters.foldl (fun d filter => d.subscribe clientId filter.topic) d).devices_ = d.devices_ := by
  induction filters generalizing d with
  | nil => rfl
  | cons filter filters ih =>
    rw [List.foldl_cons, ih]
    rfl

theorem sessions_handleSubscribe (conn : ConnId) (packetId : UInt16) (filters : List MqttTopicFilter) :
    sessions (g.handleSubscribe n w conn packetId filters).1 = sessions g := by
  unfold GatewayServer.handleSubscribe
  split
  · rfl
  · simp only [sessions, sessions_subscribe]

theorem handleSubscribe_bound {conn : ConnId} {clientId : Bytes} (packetId : UInt16) (filters : List MqttTopicFilter)
    (bound : g.connClientMap.lookup conn = some clientId) :
    (g.handleSubscribe n w conn packetId filters).1.deviceMgr_ =
      (filters.map (·.topic)).foldl (fun d topic => d.subscribe clientId topic) g.deviceMgr_ := by
  simp only [GatewayServer.handleSubscribe, bound, List.foldl_map]

theorem owner_updateHeartbeat (c : RedisClient) (d : DeviceManager) (clientId other : Bytes) :
    ((d.updateHeartbeat c w clientId).1.devices_.lookup other).map (·.connection) =
      (d.devices_.lookup other).map (·.connection) := by
  unfold DeviceManager.updateHeartbeat
  dsimp only
  split
  · rfl
  · rename_i info found
    rcases eq_or_ne other clientId with rfl | different
    · rw [AList.lookup_insert, found]
      rfl
    · rw [AList.lookup_insert_ne different]

theorem sessions_handlePingReq (conn : ConnId) : sessions (g.handlePingReq n w conn).1 = sessions g := by
  unfold GatewayServer.handlePingReq
  dsimp only
  split
  · rfl
  · simp only [sessions, owner_updateHeartbeat]

theorem registry_handlePingReq_unbound {conn : ConnId} (unbound : g.connClientMap.lookup conn = none) :
    registry (g.handlePingReq n w conn).2 = registry w := by
  unfold GatewayServer.handlePingReq
  dsimp only
  rw [view_send n _ _ (Sees.blind sees_registry rfl), unbound]

theorem registry_handlePingReq_bound {conn : ConnId} {clientId : Bytes}
    (bound : g.connClientMap.lookup conn = some clientId) :
    registry (g.handlePingReq n w conn).2 =
      (registry w).edit (working g.redisClient_) (RedisClient.touchRecord w.now (cstr clientId)) := by
  unfold GatewayServer.handlePingReq
  dsimp only
  rw [view_send n _ _ (Sees.blind sees_registry rfl), bound]
  exact registry_guarded _ w (registry_updateDeviceHeartbeat _ w _)

theorem owner_foldl_offline (d : DeviceManager) (clients : List Bytes) (c : Bytes) :
    ((clients.foldl DeviceManager.deviceOfflineLocked d).devices_.lookup c).map (·.connection) =
      if c ∈ clients then none else (d.devices_.lookup c).map (·.connection) := by
  rw [DeviceManager.devices_foldl_offline]
  split <;> rfl

theorem sessions_startHeartbeatCheck :
    sessions (g.startHeartbeatCheck n w).1 = (sessions g).evict (g.deviceMgr_.timeoutDevices w.now) := by
  simp only [sessions, Sessions.evict, GatewayServer.startHeartbeatCheck, DeviceManager.checkHeartbeatTimeout,
    Sessions.mk.injEq, true_and]
  funext c
  rw [owner_foldl_offline]
  split_ifs <;> rfl

theorem registry_foldl_unregister (c : RedisClient) (clients : List Bytes) :
    registry (clients.foldl c.unregisterDevice w) =
      (registry w).edit (working c) fun devices => clients.foldl (fun d id => d.erase w.now (cstr id)) devices := by
  induction clients generalizing w with
  | nil => simp [Registry.edit]
  | cons clientId clients ih =>
    have first := registry_unregisterDevice c w clientId
    have clock : (c.unregisterDevice w clientId).now = w.now := congrArg Registry.now first
    rw [List.foldl_cons, ih, first, clock]
    cases works : working c <;> simp [Registry.edit]

theorem registry_foldl_timeout (clients : List Bytes) :
    registry (clients.foldl (fun w clientId => w.record (.timeout n clientId)) w) =
      { registry w with log := (clients.map (.timeout n)).reverse ++ (registry w).log } := by
  induction clients generalizing w with
  | nil => rfl
  | cons clientId clients ih =>
    rw [List.foldl_cons, ih]
    simp [registry, World.record, List.filter_cons, isSession]

theorem registry_startHeartbeatCheck :
    registry (g.startHeartbeatCheck n w).2 =
      { (registry w).edit (working g.redisClient_) fun devices =>
          (g.deviceMgr_.timeoutDevices w.now).foldl (fun d id => d.erase w.now (cstr id)) devices with
        log := ((g.deviceMgr_.timeoutDevices w.now).map (.timeout n)).reverse ++ (registry w).log } := by
  have erased := registry_guarded g.redisClient_ w
    (registry_foldl_unregister w g.redisClient_ (g.deviceMgr_.timeoutDevices w.now))
  unfold GatewayServer.startHeartbeatCheck DeviceManager.checkHeartbeatTimeout
  dsimp only
  rw [registry_foldl_timeout, erased]
  rfl

end Node

/-! ### Events -/

/-- What an event of node `n` does to the tables of the node and to the registry. `works` says whether the commands of
the node are executed. -/
inductive SessionMove (n : NodeId) (works : Bool) :
    NodeEvent → Sessions ConnId Bytes × Registry → Sessions ConnId Bytes × Registry → Prop where
  | quiet (e : NodeEvent) (s : Sessions ConnId Bytes) (r : Registry) : SessionMove n works e (s, r) (s, r)
  | attach (k : ConnId) (payload : MqttConnectPayload) (s : Sessions ConnId Bytes) (r : Registry) :
    SessionMove n works (.packet k (.event (.connect payload))) (s, r)
      (s.attach k payload.clientId,
        (r.edit works (·.set r.now (cstr payload.clientId) (snprintf 512
          (RedisClient.registryText n.text (r.now / kSecond) payload.keepAlive.toNat)))).record
          (.connect n k payload.clientId))
  | drop (e : NodeEvent) (k : ConnId) (c : Bytes) (s : Sessions ConnId Bytes) (r : Registry) (action : Action)
    (bound : s.bound k = some c) (drops : action = .disconnect n k ∨ action = .close n k) :
    SessionMove n works e (s, r) (s.detach k, (r.edit works (·.erase r.now (cstr c))).record action)
  | unbound (e : NodeEvent) (k : ConnId) (s : Sessions ConnId Bytes) (r : Registry) (action : Action)
    (drops : action = .disconnect n k ∨ action = .close n k) : SessionMove n works e (s, r) (s, r.record action)
  | touch (e : NodeEvent) (k : ConnId) (c : Bytes) (s : Sessions ConnId Bytes) (r : Registry)
    (bound : s.bound k = some c) :
    SessionMove n works e (s, r) (s, r.edit works (RedisClient.touchRecord r.now (cstr c)))
  | evict (e : NodeEvent) (clients : List Bytes) (s : Sessions ConnId Bytes) (r : Registry)
    (owned : ∀ c ∈ clients, s.owner c ≠ none) :
    SessionMove n works e (s, r) (s.evict clients,
      { r.edit works fun devices => clients.foldl (fun d id => d.erase r.now (cstr id)) devices with
        log := (clients.map (.timeout n)).reverse ++ r.log })
  | exit (e : NodeEvent) (s : Sessions ConnId Bytes) (r : Registry) :
    SessionMove n works e (s, r) (.empty, r.record (.exit n))

section Node

variable (n : NodeId) (g : GatewayServer) (w : World)

theorem sessionMove_of_eq {works : Bool} {e : NodeEvent} {s s' : Sessions ConnId Bytes} {r r' : Registry}
    (sameTables : s' = s) (sameRegistry : r' = r) : SessionMove n works e (s, r) (s', r') := by
  rw [sameTables, sameRegistry]
  exact .quiet e s r

theorem Counted.sessions {g g' : GatewayServer} (counted : Counted g g') : sessions g' = Gateway.sessions g := by
  obtain ⟨_, _, _, rfl⟩ := counted
  rfl

theorem sessions_processCommand {reach : Reach} {junk : RedisClient.Junk} {g' : GatewayServer}
    (done : (g.processCommand n reach junk w).1 = .ok g') : sessions g' = sessions g := by
  obtain ⟨client, after, stats, counted, rfl, _⟩ := processCommand_node n g w done
  exact counted.sessions

theorem registry_exit : registry (g.exit n w).2 = (registry w).record (.exit n) := rfl

theorem owner_of_timedOut {c : Bytes} (member : c ∈ g.deviceMgr_.timeoutDevices w.now) : (sessions g).owner c ≠ none := by
  obtain ⟨info, found, -⟩ := DeviceManager.mem_timeoutDevices.mp member
  simp [sessions, found]

theorem sessionMove_dropConn {e : NodeEvent} {k : ConnId} {action : Action} (session : isSession action = true)
    (drops : action = .disconnect n k ∨ action = .close n k) :
    SessionMove n (working g.redisClient_) e (sessions g, registry w)
      (sessions (g.dropConn w k).1, registry ((g.dropConn w k).2.record action)) := by
  have logged : ∀ w : World, registry (w.record action) = (registry w).record action := by
    intro w
    simp [registry, World.record, Registry.record, session]
  rw [logged]
  cases bound : g.connClientMap.lookup k with
  | none =>
    rw [dropConn_unbound g w bound]
    exact .unbound e k _ _ action drops
  | some c =>
    obtain ⟨tables, erased⟩ := dropConn_bound g w bound
    rw [tables, erased]
    exact .drop e k c _ _ action bound drops

theorem sessionMove_handleItem (k : ConnId) (item : Item MqttEvent) :
    SessionMove n (working g.redisClient_) (.packet k item) (sessions g, registry w)
      (sessions (g.handleItem n w k item).1, registry (g.handleItem n w k item).2) := by
  cases item with
  | failure =>
    refine sessionMove_of_eq n ?_ rfl
    simp only [GatewayServer.handleItem]
    split <;> rfl
  | event e =>
    cases e with
    | connect payload =>
      simp only [GatewayServer.handleItem, GatewayServer.handleEvent]
      rw [sessions_handleConnect, registry_handleConnect]
      exact .attach k payload _ _
    | publish topic payload qos retain packetId =>
      exact sessionMove_of_eq n rfl (view_handlePublish n g w (Sees.blind sees_registry rfl) k topic payload qos packetId)
    | subscribe packetId filters =>
      exact sessionMove_of_eq n (sessions_handleSubscribe n g w k packetId filters)
        (view_handleSubscribe n g w (Sees.blind sees_registry rfl) k packetId filters)
    | pingReq =>
      simp only [GatewayServer.handleItem, GatewayServer.handleEvent]
      rw [sessions_handlePingReq]
      cases bound : g.connClientMap.lookup k with
      | none => exact sessionMove_of_eq n rfl (registry_handlePingReq_unbound n g w bound)
      | some c =>
        rw [registry_handlePingReq_bound n g w bound]
        exact .touch _ k c _ _ bound
    | disconnect => exact sessionMove_dropConn n g w rfl (Or.inl rfl)
    | pubAck packetId => exact .quiet _ _ _

theorem sessionMove_nodeStep (e : NodeEvent) :
    SessionMove n (working g.redisClient_) e (sessions g, registry w)
      (sessions (g.nodeStep n w e).1, registry (g.nodeStep n w e).2) := by
  cases e with
  | accept conn =>
    simp only [GatewayServer.nodeStep]
    split <;> exact .quiet _ _ _
  | packet conn item =>
    simp only [GatewayServer.nodeStep]
    split
    · exact sessionMove_handleItem n g w conn item
    · exact .quiet _ _ _
  | close conn =>
    simp only [GatewayServer.nodeStep]
    split
    · exact sessionMove_dropConn n (g.setConn conn .disconnected) w rfl (Or.inr rfl)
    · exact .quiet _ _ _
  | heartbeatCheck =>
    simp only [GatewayServer.nodeStep]
    rw [sessions_startHeartbeatCheck, registry_startHeartbeatCheck]
    exact .evict _ _ _ _ fun c member => owner_of_timedOut g w member
  | processCommand reach junk =>
    have same := view_processCommand n g w (Sees.blind sees_registry rfl) reach junk
    simp only [GatewayServer.nodeStep]
    split
    · rename_i g' w' done
      rw [done] at same
      exact sessionMove_of_eq n (sessions_processCommand n g w (congrArg Prod.fst done)) same
    · rename_i exception w' failed
      rw [failed] at same
      rw [registry_exit, same]
      exact .exit _ _ _
  | crossNodeCommand cmd =>
    refine sessionMove_of_eq n (counted_sendCommandToDevice n g w _).sessions ?_
    exact view_nodeStep n g w (Sees.blind sees_registry rfl)
  | enqueueCommand | join | sendHeartbeat | discoverNodes | failureDetection | leave | linkDown | subDown =>
    exact sessionMove_of_eq n rfl (view_nodeStep n g w (Sees.blind sees_registry rfl))
  | stop junk =>
    have left := view_leave n g.redisClient_ g.clusterMgr_ w (Sees.blind sees_registry rfl) junk
    have stopped : registry (g.stop n junk w).2 = registry w :=
      (view_disconnect _ (Sees.blind sees_registry rfl) n).trans left
    simp only [GatewayServer.nodeStep]
    rw [registry_exit, stopped]
    exact .exit _ _ _
  | kill => exact .exit _ _ _

theorem sessions_start (reach : Reach) (mqttPort : UInt16) : sessions (g.start n reach mqttPort w).1 = sessions g := by
  unfold GatewayServer.start
  dsimp only
  split <;> rfl

end Node

/-- A step of the system leaves the tables and the registry alone but for the clock, or it is an event of one node. -/
theorem session_step (s : System) (e : Event) :
    ((∀ n, sessions ((s.step e).nodes n) = sessions (s.nodes n)) ∧
      ∃ now, registry (s.step e).world = { registry s.world with now := now }) ∨
    ∃ n event, e = .node n event ∧ (s.nodes n).running_ = true ∧
      SessionMove n (working (s.nodes n).redisClient_) event (sessions (s.nodes n), registry s.world)
        (sessions ((s.step e).nodes n), registry (s.step e).world) ∧
      ∀ m, m ≠ n → (s.step e).nodes m = s.nodes m := by
  cases e with
  | tick delta => exact Or.inl ⟨fun n => rfl, _, rfl⟩
  | start n reach mqttPort =>
    refine Or.inl ?_
    simp only [System.step]
    split
    · exact ⟨fun m => rfl, _, rfl⟩
    · have same := view_start n (s.nodes n) s.world (Sees.blind sees_registry rfl) reach mqttPort
      refine ⟨fun m => ?_, (registry s.world).now, same⟩
      rcases eq_or_ne m n with rfl | different
      · rw [System.update_nodes_self]
        exact sessions_start m (s.nodes m) s.world reach mqttPort
      · rw [System.update_nodes_ne _ _ different]
  | node n event =>
    simp only [System.step]
    split
    · rename_i running
      refine Or.inr ⟨n, event, rfl, running, ?_, fun m different => System.update_nodes_ne _ _ different⟩
      rw [System.update_nodes_self]
      exact sessionMove_nodeStep n (s.nodes n) s.world event
    · exact Or.inl ⟨fun m => rfl, _, rfl⟩

/-! ### The last connection of a client -/

/-- The connection on which the present process of node `n` accepted the last CONNECT of a client. -/
def lastConnect (n : NodeId) (c : Bytes) : List Action → Option ConnId
  | [] => none
  | .connect m k c' :: log => if m = n ∧ c' = c then some k else lastConnect n c log
  | .exit m :: log => if m = n then none else lastConnect n c log
  | _ :: log => lastConnect n c log

theorem lastConnect_filter (n : NodeId) (c : Bytes) (log : List Action) :
    lastConnect n c (log.filter isSession) = lastConnect n c log := by
  induction log with
  | nil => rfl
  | cons action log ih => cases action <;> simp [List.filter_cons, isSession, lastConnect, ih]

theorem lastConnect_drop {n m : NodeId} {c : Bytes} {k : ConnId} {action : Action}
    (drops : action = .disconnect m k ∨ action = .close m k) (log : List Action) :
    lastConnect n c (action :: log) = lastConnect n c log := by
  rcases drops with rfl | rfl <;> rfl

theorem lastConnect_timeouts (n m : NodeId) (c : Bytes) (clients : List Bytes) (log : List Action) :
    lastConnect n c ((clients.map (.timeout m)).reverse ++ log) = lastConnect n c log := by
  induction clients generalizing log with
  | nil => rfl
  | cons c' clients ih =>
    rw [List.map_cons, List.reverse_cons, List.append_assoc, ih]
    rfl

/-- The owner of a client is the connection on which the client connected last. -/
def Recent (n : NodeId) (s : Sessions ConnId Bytes) (log : List Action) : Prop :=
  ∀ c k, s.owner c = some k → lastConnect n c log = some k

theorem Recent.move {n : NodeId} {works : Bool} {e : NodeEvent} {s s' : Sessions ConnId Bytes} {r r' : Registry}
    (move : SessionMove n works e (s, r) (s', r')) (recent : Recent n s r.log) : Recent n s' r'.log := by
  cases move with
  | quiet => exact recent
  | attach k payload =>
    intro c k' owned
    simp only [Registry.record, Registry.edit, lastConnect, true_and]
    rcases eq_or_ne c payload.clientId with rfl | different
    · simpa [Sessions.attach] using owned
    · rw [if_neg different.symm]
      exact recent c k' (by simpa [Sessions.attach, different] using owned)
  | drop e k c s r action bound drops =>
    intro c' k' owned
    simp only [Registry.record, Registry.edit, lastConnect_drop drops]
    simp only [Sessions.detach] at owned
    split at owned
    · cases owned
    · exact recent c' k' owned
  | unbound e k s r action drops =>
    intro c' k' owned
    simp only [Registry.record, lastConnect_drop drops]
    exact recent c' k' owned
  | touch => exact recent
  | evict e clients s r owned =>
    intro c k' owner
    simp only [lastConnect_timeouts]
    simp only [Sessions.evict] at owner
    split at owner
    · cases owner
    · exact recent c k' owner
  | exit => exact fun _ _ owned => by cases owned

/-- An event of one node does not change where clients connected to another. -/
theorem lastConnect_of_move {n m : NodeId} {works : Bool} {e : NodeEvent} {s s' : Sessions ConnId Bytes} {r r' : Registry}
    (move : SessionMove n works e (s, r) (s', r')) (other : m ≠ n) (c : Bytes) :
    lastConnect m c r'.log = lastConnect m c r.log := by
  cases move with
  | quiet | touch => rfl
  | attach k payload => exact if_neg fun here => other here.1.symm
  | drop e k c s r action bound drops => exact lastConnect_drop drops _
  | unbound e k s r action drops => exact lastConnect_drop drops _
  | evict e clients s r owned => exact lastConnect_timeouts m n c clients _
  | exit => exact if_neg fun here => other here.symm

end IotGateway.Gateway
