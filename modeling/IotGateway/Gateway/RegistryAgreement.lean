import IotGateway.Gateway.RegistryRecord
import IotGateway.Gateway.Takeover

/-!
# Agreement of the registry

The registry has one record for each client, which every node that knows the client may
overwrite or delete. It names the node of the client's last connection as long as no
client connects while another connection, on any node, is bound to it and no other node
still has it in its table.
-/

namespace IotGateway.Gateway
open Text Redis Storage Protocol

/-! ### The last session of a client -/

/-- The connection that accepted the last CONNECT of the client, until it ends or times out. -/
def session (c : Bytes) : List Action → Option (NodeId × ConnId)
  | [] => none
  | .connect n k c' :: log => if c' = c then some (n, k) else session c log
  | .disconnect n k :: log | .close n k :: log => (session c log).filter (· ≠ (n, k))
  | .timeout n c' :: log => if c' = c then (session c log).filter (·.1 ≠ n) else session c log
  | .exit n :: log => (session c log).filter (·.1 ≠ n)
  | _ :: log => session c log

theorem session_filter (c : Bytes) (log : List Action) : session c (log.filter isSession) = session c log := by
  induction log with
  | nil => rfl
  | cons action log ih => cases action <;> simp [List.filter_cons, isSession, session, ih]

theorem session_of_drop {c : Bytes} {n m : NodeId} {k j : ConnId} {action : Action} {log : List Action}
    (drops : action = .disconnect n k ∨ action = .close n k) (after : session c (action :: log) = some (m, j)) :
    session c log = some (m, j) ∧ (m, j) ≠ (n, k) := by
  have filtered : (session c log).filter (· ≠ (n, k)) = some (m, j) := by
    rcases drops with rfl | rfl <;> exact after
  obtain ⟨before, other⟩ := Option.filter_eq_some_iff.mp filtered
  exact ⟨before, of_decide_eq_true other⟩

theorem session_of_timeouts {c : Bytes} {n m : NodeId} {j : ConnId} {clients : List Bytes} {log : List Action}
    (after : session c ((clients.map (.timeout n)).reverse ++ log) = some (m, j)) :
    session c log = some (m, j) ∧ (c ∈ clients → m ≠ n) := by
  induction clients generalizing log with
  | nil => exact ⟨after, fun member => absurd member List.not_mem_nil⟩
  | cons c' clients ih =>
    rw [List.map_cons, List.reverse_cons, List.append_assoc, List.singleton_append] at after
    obtain ⟨first, rest⟩ := ih after
    unfold session at first
    split at first
    · rename_i same
      obtain ⟨before, elsewhere⟩ := Option.filter_eq_some_iff.mp first
      exact ⟨before, fun _ => by simpa using elsewhere⟩
    · rename_i different
      refine ⟨first, fun member => rest ?_⟩
      exact (List.mem_cons.mp member).resolve_left (Ne.symm different)

/-! ### The invariant -/

abbrev Tables := NodeId → Sessions ConnId Bytes

/-- A client may connect to node `n` on connection `k`: no other connection is bound to it, no other node has it in
its table, and both ids survive the way into a record and back. -/
structure Exclusive (tables : Tables) (n : NodeId) (k : ConnId) (c : Bytes) : Prop where
  bound : ∀ m j, (tables m).bound j = some c → m = n ∧ j = k
  owner : ∀ m, (tables m).owner c ≠ none → m = n
  no_nul : 0 ∉ c
  quotable : QuotableId n

structure Held (tables : Tables) (r : Registry) (c : Bytes) (n : NodeId) (k : ConnId) : Prop
    extends Exclusive tables n k c where
  named : ∃ record, r.devices.get r.now c = some record ∧ recordHead n <+: record

structure Agreement (tables : Tables) (r : Registry) : Prop where
  persistent : r.devices.expireAt = none
  clean : ∀ m c, (tables m).Known c → 0 ∉ c
  held : ∀ c n k, session c r.log = some (n, k) → Held tables r c n k

theorem agreement_new : Agreement (fun _ => .empty) (registry System.new.world) where
  persistent := rfl
  clean := fun _ c known => absurd known (Sessions.not_known_empty c)
  held := fun _ _ _ online => by cases online

section Moves

variable {tables : Tables} {r : Registry} {n : NodeId}

/-- A move that adds nothing to the tables, starts no session and leaves the names in the records of sessions alone. -/
theorem Agreement.keep (agree : Agreement tables r) {table : Sessions ConnId Bytes} {r' : Registry}
    (persistent : r'.devices.expireAt = none)
    (bound : ∀ c j, table.bound j = some c → (tables n).bound j = some c)
    (owner : ∀ c, table.owner c ≠ none → (tables n).owner c ≠ none)
    (online : ∀ c m k, session c r'.log = some (m, k) → session c r.log = some (m, k))
    (named : ∀ c m k, session c r'.log = some (m, k) → Held tables r c m k →
      ∃ record, r'.devices.get r'.now c = some record ∧ recordHead m <+: record) :
    Agreement (Function.update tables n table) r' := by
  have bound' : ∀ m c j, (Function.update tables n table m).bound j = some c → (tables m).bound j = some c := by
    intro m c j here
    rcases eq_or_ne m n with rfl | different
    · exact bound c j (by rwa [Function.update_self] at here)
    · rwa [Function.update_of_ne different] at here
  have owner' : ∀ m c, (Function.update tables n table m).owner c ≠ none → (tables m).owner c ≠ none := by
    intro m c here
    rcases eq_or_ne m n with rfl | different
    · exact owner c (by rwa [Function.update_self] at here)
    · rwa [Function.update_of_ne different] at here
  refine ⟨persistent, fun m c known => agree.clean m c ?_, fun c m k after => ?_⟩
  · exact known.imp (fun ⟨j, here⟩ => ⟨j, bound' m c j here⟩) (owner' m c)
  · have held := agree.held c m k (online c m k after)
    exact ⟨⟨fun m' j here => held.bound m' j (bound' m' c j here), fun m' here => held.owner m' (owner' m' c here),
      held.no_nul, held.quotable⟩, named c m k after held⟩

theorem bound_of_attach {m : NodeId} {j k : ConnId} {c c' : Bytes} (other : (m, j) ≠ (n, k) ∨ c' ≠ c)
    (here : (Function.update tables n ((tables n).attach k c) m).bound j = some c') :
    (tables m).bound j = some c' := by
  rcases eq_or_ne m n with rfl | different
  · rw [Function.update_self] at here
    by_cases same : j = k
    · subst same
      have client : c = c' := by simpa [Sessions.attach] using here
      rcases other with pair | different
      · exact absurd rfl pair
      · exact absurd client.symm different
    · simpa [Sessions.attach, same] using here
  · rwa [Function.update_of_ne different] at here

theorem owner_of_attach {m : NodeId} {k : ConnId} {c c' : Bytes} (other : m ≠ n ∨ c' ≠ c)
    (here : (Function.update tables n ((tables n).attach k c) m).owner c' ≠ none) : (tables m).owner c' ≠ none := by
  rcases eq_or_ne m n with rfl | different
  · have client : c' ≠ c := other.resolve_left fun elsewhere => elsewhere rfl
    rw [Function.update_self] at here
    simpa [Sessions.attach, client] using here
  · rwa [Function.update_of_ne different] at here

theorem Agreement.attach (agree : Agreement tables r) {k : ConnId} {c : Bytes} (keepAlive : Int)
    (exclusive : Exclusive tables n k c) :
    Agreement (Function.update tables n ((tables n).attach k c))
      ((r.edit true (·.set r.now (cstr c) (snprintf 512
        (RedisClient.registryText n.text (r.now / kSecond) keepAlive)))).record (.connect n k c)) where
  persistent := Hash.persistent_set agree.persistent _ _ _
  clean := by
    intro m c' known
    rcases eq_or_ne c' c with rfl | different
    · exact exclusive.no_nul
    · apply agree.clean m c'
      exact known.imp (fun ⟨j, here⟩ => ⟨j, bound_of_attach (Or.inr different) here⟩) (owner_of_attach (Or.inr different))
  held := by
    intro c' m j online
    simp only [Registry.record, Registry.edit, session] at online
    split at online
    · rename_i same
      subst same
      obtain ⟨rfl, rfl⟩ : n = m ∧ k = j := by simpa using online
      refine ⟨⟨fun m j here => ?_, fun m here => ?_, exclusive.no_nul, exclusive.quotable⟩, ?_⟩
      · by_contra other
        have pair : (m, j) ≠ (n, k) := by simpa using other
        exact other (exclusive.bound m j (bound_of_attach (Or.inl pair) here))
      · by_contra other
        exact other (exclusive.owner m (owner_of_attach (Or.inl other) here))
      · refine ⟨_, ?_, registered_head exclusive.quotable (r.now / kSecond) keepAlive⟩
        have written := r.devices.get_set_self r.now (cstr c) (snprintf 512
          (RedisClient.registryText n.text (r.now / kSecond) keepAlive))
        rwa [cstr_of_no_nul exclusive.no_nul] at written ⊢
    · rename_i different
      have held := agree.held c' m j online
      refine ⟨⟨fun m j here => held.bound m j (bound_of_attach (Or.inr (Ne.symm different)) here),
        fun m here => held.owner m (owner_of_attach (Or.inr (Ne.symm different)) here), held.no_nul, held.quotable⟩, ?_⟩
      have field : c' ≠ cstr c := by
        rw [cstr_of_no_nul exclusive.no_nul]
        exact Ne.symm different
      obtain ⟨record, found, names⟩ := held.named
      exact ⟨record, (Hash.get_set_ne _ _ _ field).trans found, names⟩

theorem Agreement.drop (agree : Agreement tables r) {k : ConnId} {c : Bytes} {action : Action}
    (bound : (tables n).bound k = some c) (drops : action = .disconnect n k ∨ action = .close n k) :
    Agreement (Function.update tables n ((tables n).detach k)) ((r.edit true (·.erase r.now (cstr c))).record action) := by
  refine agree.keep (Hash.persistent_erase agree.persistent _ _) ?_ ?_ ?_ ?_
  · intro c' j here
    by_cases same : j = k
    · simp [Sessions.detach, same] at here
    · simpa [Sessions.detach, same] using here
  · intro c' here free
    simp [Sessions.detach, free] at here
  · exact fun c' m j after => (session_of_drop drops after).1
  · intro c' m j after held
    have different : c' ≠ c := by
      rintro rfl
      obtain ⟨rfl, rfl⟩ := held.bound n k bound
      exact (session_of_drop drops after).2 rfl
    have field : c' ≠ cstr c := by
      rwa [cstr_of_no_nul (agree.clean n c (Or.inl ⟨k, bound⟩))]
    obtain ⟨record, found, names⟩ := held.named
    exact ⟨record, (Hash.get_erase_ne _ _ field).trans found, names⟩

theorem Agreement.unbound (agree : Agreement tables r) {k : ConnId} {action : Action}
    (drops : action = .disconnect n k ∨ action = .close n k) : Agreement tables (r.record action) where
  persistent := agree.persistent
  clean := agree.clean
  held := fun c m j after => by
    have held := agree.held c m j (session_of_drop drops after).1
    exact ⟨held.toExclusive, held.named⟩

theorem Agreement.touch (agree : Agreement tables r) (c : Bytes) :
    Agreement tables (r.edit true (RedisClient.touchRecord r.now (cstr c))) where
  persistent := persistent_touchRecord _ _ agree.persistent
  clean := agree.clean
  held := by
    intro c' m j online
    have held := agree.held c' m j online
    refine ⟨held.toExclusive, ?_⟩
    rcases eq_or_ne c' (cstr c) with same | different
    · rw [← same]
      exact head_touchRecord r.now c' held.quotable held.named
    · obtain ⟨record, found, names⟩ := held.named
      exact ⟨record, (get_touchRecord_ne r.now (cstr c) different).trans found, names⟩

theorem get_foldl_erase (devices : Hash Bytes Bytes) (now : Nat) {clients : List Bytes} {c : Bytes}
    (elsewhere : ∀ c' ∈ clients, c ≠ cstr c') :
    (clients.foldl (fun d id => d.erase now (cstr id)) devices).get now c = devices.get now c := by
  induction clients generalizing devices with
  | nil => rfl
  | cons c' clients ih =>
    rw [List.foldl_cons, ih _ fun other member => elsewhere other (List.mem_cons_of_mem _ member)]
    exact Hash.get_erase_ne _ _ (elsewhere c' List.mem_cons_self)

theorem persistent_foldl_erase {devices : Hash Bytes Bytes} (persistent : devices.expireAt = none) (now : Nat)
    (clients : List Bytes) : (clients.foldl (fun d id => d.erase now (cstr id)) devices).expireAt = none :=
  run_kept _ (fun devices : Hash Bytes Bytes => devices.expireAt = none) persistent
    (fun _ _ before => Hash.persistent_erase before _ _) clients

theorem Agreement.evict (agree : Agreement tables r) {clients : List Bytes}
    (owned : ∀ c ∈ clients, (tables n).owner c ≠ none) :
    Agreement (Function.update tables n ((tables n).evict clients))
      { r.edit true fun devices => clients.foldl (fun d id => d.erase r.now (cstr id)) devices with
        log := (clients.map (.timeout n)).reverse ++ r.log } := by
  refine agree.keep (persistent_foldl_erase agree.persistent _ _) (fun c j here => here) ?_ ?_ ?_
  · intro c here free
    simp [Sessions.evict, free] at here
  · exact fun c m k after => (session_of_timeouts after).1
  · intro c m k after held
    have remains : c ∉ clients := fun member =>
      (session_of_timeouts after).2 member (held.owner n (owned c member)).symm
    have elsewhere : ∀ c' ∈ clients, c ≠ cstr c' := by
      rintro c' member same
      rw [cstr_of_no_nul (agree.clean n c' (Or.inr (owned c' member)))] at same
      exact remains (same ▸ member)
    obtain ⟨record, found, names⟩ := held.named
    exact ⟨record, (get_foldl_erase _ _ elsewhere).trans found, names⟩

theorem Agreement.exit (agree : Agreement tables r) :
    Agreement (Function.update tables n .empty) (r.record (.exit n)) := by
  refine agree.keep agree.persistent (fun c j here => by cases here) (fun c here => absurd rfl here) ?_ ?_
  · exact fun c m k after => (Option.filter_eq_some_iff.mp after).1
  · exact fun c m k after held => held.named

end Moves

theorem Agreement.move {tables : Tables} {r r' : Registry} {n : NodeId} {e : NodeEvent} {table : Sessions ConnId Bytes}
    (move : SessionMove n true e (tables n, r) (table, r')) (agree : Agreement tables r)
    (exclusive : ∀ k payload, e = .packet k (.event (.connect payload)) → Exclusive tables n k payload.clientId) :
    Agreement (Function.update tables n table) r' := by
  generalize here : tables n = s at move
  cases move with
  | quiet =>
    rw [← here, Function.update_eq_self]
    exact agree
  | attach k payload =>
    subst here
    exact agree.attach _ (exclusive k payload rfl)
  | drop e k c s r action bound drops =>
    subst here
    exact agree.drop bound drops
  | unbound e k s r action drops =>
    rw [← here, Function.update_eq_self]
    exact agree.unbound drops
  | touch e k c =>
    rw [← here, Function.update_eq_self]
    exact agree.touch c
  | evict e clients s r owned =>
    subst here
    exact agree.evict owned
  | exit => exact agree.exit

/-! ### Redis stays connected -/

/-- Redis is in reach, and it executes and answers every command. -/
def RedisUp : Event → Prop
  | .start _ reach _ => reach.main = true
  | .node _ (.processCommand reach _) => reach.main = true
  | .node _ (.enqueueCommand fate _ _ _) => fate = .answered
  | .node _ .linkDown => False
  | _ => True

/-- The client works while the node runs and has no connection otherwise. -/
def Steady (g : GatewayServer) : Prop :=
  (g.running_ = true ∧ working g.redisClient_ = true) ∨ (g.running_ = false ∧ g.redisClient_.connected_ = false)

theorem Steady.of_power {g g' : GatewayServer} (steady : Steady g) (same : power g' = power g) : Steady g' := by
  have running : g'.running_ = g.running_ := congrArg Prod.fst same
  have client : g'.redisClient_ = g.redisClient_ := congrArg Prod.snd same
  unfold Steady at steady ⊢
  rwa [running, client]

theorem Steady.working {g : GatewayServer} (steady : Steady g) (running : g.running_ = true) :
    working g.redisClient_ = true := by
  rcases steady with ⟨_, works⟩ | ⟨stopped, _⟩
  · exact works
  · rw [running] at stopped
    cases stopped

theorem steady_exited (g : GatewayServer) : Steady g.exited := Or.inr ⟨rfl, rfl⟩

section Node

variable (n : NodeId) (g : GatewayServer) (w : World)

theorem working_connect {c : RedisClient} {reach : Reach} (up : reach.main = true) (down : c.connected_ = false) :
    working (c.connect n reach w).1 = true := by
  simp [RedisClient.connect, down, up, working, RedisClient.answers]

theorem working_consumeCommands {c : RedisClient} {reach : Reach} (works : working c = true) (up : reach.main = true)
    (junk : RedisClient.Junk) (batchSize : Nat) :
    working (c.consumeCommands n reach junk batchSize w).2.1 = true := by
  rcases RedisClient.consumeCommands_cases n reach junk batchSize c w with ⟨-, same⟩ | ⟨-, -, same⟩ | ⟨-, -, same⟩
  · rw [same]
    exact works
  · rw [same]
    exact works
  · rw [same]
    exact working_connect n _ up rfl

theorem steady_processCommand {reach : Reach} {junk : RedisClient.Junk} {g' : GatewayServer} (steady : Steady g)
    (up : reach.main = true) (done : (g.processCommand n reach junk w).1 = .ok g') : Steady g' := by
  obtain ⟨client, after, stats, counted, rfl, same | ⟨running, consumed⟩⟩ := processCommand_node n g w done
  · subst same
    exact steady.of_power counted.power
  · have works : working g.redisClient_ = true := steady.working running
    have consumes : Steady { g with redisClient_ := client } :=
      Or.inl ⟨running, consumed ▸ working_consumeCommands n w works up junk 10⟩
    exact consumes.of_power counted.power

theorem steady_nodeStep {e : NodeEvent} (steady : Steady g) (up : RedisUp (.node n e)) : Steady (g.nodeStep n w e).1 := by
  cases e with
  | accept conn =>
    simp only [GatewayServer.nodeStep]
    split <;> exact steady
  | packet conn item =>
    simp only [GatewayServer.nodeStep]
    split
    · exact steady.of_power (power_handleItem n g w conn item)
    · exact steady
  | close conn =>
    simp only [GatewayServer.nodeStep]
    split
    · exact steady.of_power (power_dropConn (g.setConn conn .disconnected) w conn)
    · exact steady
  | processCommand reach junk =>
    simp only [GatewayServer.nodeStep]
    split
    · rename_i done
      exact steady_processCommand n g w steady up (congrArg Prod.fst done)
    · exact steady_exited g
  | crossNodeCommand cmd => exact steady.of_power (counted_sendCommandToDevice n g w _).power
  | enqueueCommand fate deviceId command params =>
    obtain rfl : fate = .answered := up
    simp only [GatewayServer.nodeStep, GatewayServer.enqueueCommand, RedisClient.publishCommand]
    split <;> exact steady
  | heartbeatCheck | join | sendHeartbeat | discoverNodes | failureDetection | leave | subDown => exact steady
  | linkDown => exact absurd up id
  | stop | kill => exact steady_exited _

theorem steady_start {reach : Reach} (steady : Steady g) (stopped : g.running_ = false) (up : reach.main = true)
    (mqttPort : UInt16) : Steady (g.start n reach mqttPort w).1 := by
  have down : g.redisClient_.connected_ = false := by
    rcases steady with ⟨running, _⟩ | ⟨_, down⟩
    · rw [running] at stopped
      cases stopped
    · exact down
  have works := working_connect n w up down
  unfold GatewayServer.start
  dsimp only
  split <;> exact Or.inl ⟨rfl, works⟩

end Node

theorem steady_step (s : System) (e : Event) (steady : ∀ n, Steady (s.nodes n)) (up : RedisUp e) (n : NodeId) :
    Steady ((s.step e).nodes n) := by
  cases e with
  | tick delta => exact steady n
  | start m reach mqttPort =>
    simp only [System.step]
    split
    · exact steady n
    · rename_i stopped
      rcases eq_or_ne n m with rfl | different
      · rw [System.update_nodes_self]
        exact steady_start n _ _ (steady n) (by simpa using stopped) up mqttPort
      · rw [System.update_nodes_ne _ _ different]
        exact steady n
  | node m event =>
    simp only [System.step]
    split
    · rcases eq_or_ne n m with rfl | different
      · rw [System.update_nodes_self]
        exact steady_nodeStep n _ _ (steady n) up
      · rw [System.update_nodes_ne _ _ different]
        exact steady n
    · exact steady n

/-! ### Runs -/

def System.tables (s : System) : Tables := fun n => sessions (s.nodes n)

theorem tables_update (s : System) {n : NodeId} {e : Event} (others : ∀ m, m ≠ n → (s.step e).nodes m = s.nodes m) :
    (s.step e).tables = Function.update s.tables n (sessions ((s.step e).nodes n)) := by
  funext m
  rcases eq_or_ne m n with rfl | different
  · rw [Function.update_self]
    rfl
  · rw [Function.update_of_ne different]
    exact congrArg sessions (others m different)

/-- Redis is up, and a client that connects has no other session anywhere. -/
def ConnectsExclusively (s : System) (e : Event) : Prop :=
  RedisUp e ∧ ∀ x ∈ e.connect?, Exclusive s.tables x.1 x.2.1 x.2.2

structure Agrees (s : System) : Prop where
  steady : ∀ n, Steady (s.nodes n)
  agreement : Agreement s.tables (registry s.world)

theorem agrees_new : Agrees System.new := ⟨fun _ => Or.inr ⟨rfl, rfl⟩, agreement_new⟩

theorem Agreement.later {tables : Tables} {r : Registry} (agree : Agreement tables r) (now : Nat) :
    Agreement tables { r with now := now } where
  persistent := agree.persistent
  clean := agree.clean
  held := by
    intro c n k online
    have held := agree.held c n k online
    obtain ⟨record, found, names⟩ := held.named
    refine ⟨held.toExclusive, record, ?_, names⟩
    rw [Hash.get_of_persistent agree.persistent] at found ⊢
    exact found

theorem agrees_step (s : System) (e : Event) (agrees : Agrees s) (meets : ConnectsExclusively s e) : Agrees (s.step e) := by
  refine ⟨steady_step s e agrees.steady meets.1, ?_⟩
  rcases session_step s e with ⟨same, now, later⟩ | ⟨n, event, rfl, running, move, others⟩
  · have tables : (s.step e).tables = s.tables := funext same
    rw [tables, later]
    exact agrees.agreement.later now
  · have works : working (s.nodes n).redisClient_ = true := (agrees.steady n).working running
    rw [works] at move
    rw [tables_update s others]
    refine agrees.agreement.move move ?_
    rintro k payload rfl
    exact meets.2 (n, k, payload.clientId) rfl

/-- In a run in which Redis is up and clients connect exclusively, the record of a client with a session names the node
of the session. -/
theorem registry_names_session {events : List Event} (meets : Meets System.step ConnectsExclusively System.new events)
    (c : Bytes) (n : NodeId) (k : ConnId) (online : session c (run System.step System.new events).world.log = some (n, k)) :
    ∃ record, (run System.step System.new events).world.redis.devices.get
        (run System.step System.new events).world.now c = some record ∧
      ClusterManager.extractJsonField record (ascii "gateway") = n.text := by
  have agrees : Agrees (run System.step System.new events) := run_invariant System.step agrees_new agrees_step meets
  generalize run System.step System.new events = s at agrees online ⊢
  rw [← session_filter] at online
  have held := agrees.agreement.held c n k online
  obtain ⟨record, found, names⟩ := held.named
  exact ⟨record, found, extractJsonField_head held.quotable names⟩

theorem exclusive_of_unknown {tables : Tables} {n : NodeId} {k : ConnId} {c : Bytes}
    (unknown : ∀ m, ¬ (tables m).Known c) (no_nul : 0 ∉ c) (quotable : QuotableId n) : Exclusive tables n k c where
  bound := fun m j here => absurd (Or.inl ⟨j, here⟩) (unknown m)
  owner := fun m here => absurd (Or.inr here) (unknown m)
  no_nul := no_nul
  quotable := quotable

def roaming : List Event :=
  startBoth ++ arrive gateway1 0 sensor ++ [.node gateway1 (.close 0)] ++ arrive gateway2 0 sensor

theorem registry_names_session_roaming :
    session sensor (run System.step System.new roaming).world.log = some (gateway2, 0) ∧
      ∃ record, (run System.step System.new roaming).world.redis.devices.get
          (run System.step System.new roaming).world.now sensor = some record ∧
        ClusterManager.extractJsonField record (ascii "gateway") = gateway2.text := by
  have online : session sensor (run System.step System.new roaming).world.log = some (gateway2, 0) := by decide +kernel
  -- both times the device connects, no table knows it
  have unknown : ∀ events : List Event, (∀ e ∈ events, e.at? = some gateway1 ∨ e.at? = some gateway2) →
      clients ((run System.step System.new events).nodes gateway1) = [] →
      clients ((run System.step System.new events).nodes gateway2) = [] →
      ∀ m, ¬ ((run System.step System.new events).tables m).Known sensor := by
    intro events here first second m known
    have listed : sensor ∈ clients ((run System.step System.new events).nodes m) := mem_clients.mpr known
    by_cases one : m = gateway1
    · rw [one, first] at listed
      cases listed
    · by_cases two : m = gateway2
      · rw [two, second] at listed
        cases listed
      · have away : ∀ e ∈ events, e.at? ≠ some m := by
          intro e member at_m
          rcases here e member with at_one | at_two
          · exact one (Option.some.inj (at_m.symm.trans at_one))
          · exact two (Option.some.inj (at_m.symm.trans at_two))
        rw [System.run_nodes_of_not_at _ away] at listed
        cases listed
  have first := exclusive_of_unknown (n := gateway1) (k := 0)
    (unknown (startBoth ++ [.node gateway1 (.accept 0)]) (by decide) (by decide +kernel) (by decide +kernel))
    (by decide) (by decide)
  have second := exclusive_of_unknown (n := gateway2) (k := 0)
    (unknown (startBoth ++ arrive gateway1 0 sensor ++ [.node gateway1 (.close 0), .node gateway2 (.accept 0)])
      (by decide) (by decide +kernel) (by decide +kernel))
    (by decide) (by decide)
  have meets : Meets System.step ConnectsExclusively System.new roaming :=
    ⟨⟨rfl, nofun⟩, ⟨rfl, nofun⟩, ⟨trivial, nofun⟩,
      ⟨trivial, fun x connects => by cases connects; exact first⟩, ⟨trivial, nofun⟩, ⟨trivial, nofun⟩,
      ⟨trivial, fun x connects => by cases connects; exact second⟩, trivial⟩
  exact ⟨online, registry_names_session meets sensor gateway2 0 online⟩

/-- The device connects to the second node before the first notices that its connection is gone. -/
theorem late_close_removes_record :
    let s := run System.step System.new (startBoth ++ arrive gateway1 0 sensor ++ arrive gateway2 0 sensor ++
      [.node gateway1 (.close 0)])
    session sensor s.world.log = some (gateway2, 0) ∧ (s.nodes gateway2).conns 0 = .connected ∧
      s.world.redis.devices.get s.world.now sensor = none := by
  decide +kernel

end IotGateway.Gateway
