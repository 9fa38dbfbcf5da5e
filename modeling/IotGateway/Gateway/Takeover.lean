import IotGateway.Lib.Multimap
import IotGateway.Gateway.Sessions

/-!
# Session takeover on one node

The two tables of a node agree as long as no client connects while another connection
of the node is bound to it. Then the end of a connection leaves every client that
another connection owns alone. `deviceOffline` itself does not look at the connection,
so without that condition it removes whatever entry the client has.
-/

namespace IotGateway.Gateway
open Text Redis Storage Protocol

def clients (g : GatewayServer) : List Bytes := g.connClientMap.entries.map (·.2) ++ g.deviceMgr_.devices_.keys

theorem mem_clients {g : GatewayServer} {c : Bytes} : c ∈ clients g ↔ (sessions g).Known c := by
  unfold clients Sessions.Known sessions
  rw [List.mem_append, ← AList.mem_keys, ← AList.lookup_isSome]
  apply or_congr
  · constructor
    · intro member
      obtain ⟨⟨k, _⟩, listed, rfl⟩ := List.mem_map.mp member
      exact ⟨k, AList.mem_lookup_iff.mpr listed⟩
    · rintro ⟨k, bound⟩
      exact List.mem_map.mpr ⟨⟨k, c⟩, AList.mem_lookup_iff.mp bound, rfl⟩
  · simp [Option.isSome_iff_ne_none]

/-- No other connection of the node is bound to the client, and no other client has the same field in the registry. -/
def GatewayServer.Free (g : GatewayServer) (k : ConnId) (c : Bytes) : Prop :=
  (∀ b ∈ g.connClientMap.entries, b.2 = c → b.1 = k) ∧ ∀ c' ∈ clients g, cstr c' = cstr c → c' = c

instance (g : GatewayServer) (k : ConnId) (c : Bytes) : Decidable (g.Free k c) := inferInstanceAs (Decidable (_ ∧ _))

def Event.connect? : Event → Option (NodeId × ConnId × Bytes)
  | .node n (.packet k (.event (.connect payload))) => some (n, k, payload.clientId)
  | _ => none

/-- A step that delivers a CONNECT finds the client free on its node. -/
def ConnectsFree (s : System) (e : Event) : Prop := ∀ x ∈ e.connect?, (s.nodes x.1).Free x.2.1 x.2.2

instance (s : System) (e : Event) : Decidable (ConnectsFree s e) := Option.decidableForallMem _

/-! ### The tables stay in agreement -/

structure Tidy (s : Sessions ConnId Bytes) : Prop where
  consistent : s.Consistent
  keys : ∀ c c', s.Known c → s.Known c' → cstr c = cstr c' → c = c'

theorem tidy_empty : Tidy .empty := ⟨Sessions.consistent_empty, fun c _ known => absurd known (Sessions.not_known_empty c)⟩

theorem Tidy.attach {s : Sessions ConnId Bytes} (tidy : Tidy s) {k : ConnId} {c : Bytes}
    (free : ∀ k', k' ≠ k → s.bound k' ≠ some c) (keys : ∀ c', s.Known c' → cstr c' = cstr c → c' = c) :
    Tidy (s.attach k c) := by
  refine ⟨tidy.consistent.attach free, fun c₁ c₂ known₁ known₂ same => ?_⟩
  rcases Sessions.known_of_attach known₁ with rfl | before₁
  · rcases Sessions.known_of_attach known₂ with rfl | before₂
    · rfl
    · exact (keys c₂ before₂ same.symm).symm
  · rcases Sessions.known_of_attach known₂ with rfl | before₂
    · exact keys c₁ before₁ same
    · exact tidy.keys c₁ c₂ before₁ before₂ same

theorem Tidy.move {n : NodeId} {works : Bool} {e : NodeEvent} {s s' : Sessions ConnId Bytes} {r r' : Registry}
    (move : SessionMove n works e (s, r) (s', r')) (tidy : Tidy s)
    (free : ∀ k payload, e = .packet k (.event (.connect payload)) →
      (∀ k', k' ≠ k → s.bound k' ≠ some payload.clientId) ∧
        ∀ c', s.Known c' → cstr c' = cstr payload.clientId → c' = payload.clientId) : Tidy s' := by
  cases move with
  | quiet => exact tidy
  | attach k payload => exact tidy.attach (free k payload rfl).1 (free k payload rfl).2
  | drop e k c s r action bound drops =>
    exact ⟨tidy.consistent.detach k, fun c c' known known' =>
      tidy.keys c c' (Sessions.known_of_detach known) (Sessions.known_of_detach known')⟩
  | unbound => exact tidy
  | touch => exact tidy
  | evict e gone s r owned =>
    exact ⟨tidy.consistent.evict gone, fun c c' known known' =>
      tidy.keys c c' (Sessions.known_of_evict known) (Sessions.known_of_evict known')⟩
  | exit => exact tidy_empty

theorem free_bound {g : GatewayServer} {k k' : ConnId} {c : Bytes} (free : g.Free k c) (other : k' ≠ k) :
    (sessions g).bound k' ≠ some c :=
  fun bound => other (free.1 ⟨k', c⟩ (AList.mem_lookup_iff.mp bound) rfl)

theorem tidy_step (s : System) (e : Event) (tidy : ∀ n, Tidy (sessions (s.nodes n))) (free : ConnectsFree s e) (n : NodeId) :
    Tidy (sessions ((s.step e).nodes n)) := by
  rcases session_step s e with ⟨same, _⟩ | ⟨m, event, rfl, _, move, others⟩
  · rw [same]
    exact tidy n
  · rcases eq_or_ne n m with rfl | different
    · refine (tidy n).move move ?_
      rintro k payload rfl
      have here := free (n, k, payload.clientId) rfl
      exact ⟨fun k' other => free_bound here other, fun c' known => here.2 c' (mem_clients.mpr known)⟩
    · rw [others n different]
      exact tidy n

theorem tidy_run {events : List Event} (meets : Meets System.step ConnectsFree System.new events) (n : NodeId) :
    Tidy (sessions ((run System.step System.new events).nodes n)) := by
  have initially : ∀ n, Tidy (sessions (System.new.nodes n)) := fun _ => tidy_empty
  exact run_invariant System.step initially tidy_step meets n

/-! ### The end of a connection -/

/-- What a node and the registry hold for a client is unchanged. -/
structure Undisturbed (c : Bytes) (before after : GatewayServer × World) : Prop where
  entry : after.1.deviceMgr_.devices_.lookup c = before.1.deviceMgr_.devices_.lookup c
  topics : after.1.deviceMgr_.subscriptions_.lookup c = before.1.deviceMgr_.subscriptions_.lookup c
  subscriber : ∀ topic, c ∈ (after.1.deviceMgr_.topicSubscribers_.lookup topic).getD [] ↔
    c ∈ (before.1.deviceMgr_.topicSubscribers_.lookup topic).getD []
  record : after.2.redis.devices.get after.2.now (cstr c) = before.2.redis.devices.get before.2.now (cstr c)

theorem Undisturbed.refl (c : Bytes) (state : GatewayServer × World) : Undisturbed c state state := ⟨rfl, rfl, fun _ => Iff.rfl, rfl⟩

/-- The end of a connection leaves a client alone that the connection is not bound to. -/
theorem undisturbed_dropConn {g : GatewayServer} (w : World) {k : ConnId} {c : Bytes} (tidy : Tidy (sessions g))
    (known : (sessions g).Known c) (unbound : (sessions g).bound k ≠ some c) : Undisturbed c (g, w) (g.dropConn w k) := by
  cases bound : g.connClientMap.lookup k with
  | none =>
    rw [dropConn_unbound g w bound]
    exact .refl c _
  | some c' =>
    have different : c ≠ c' := by
      rintro rfl
      exact unbound bound
    have field : cstr c ≠ cstr c' := fun same => different (tidy.keys c c' known (Or.inl ⟨k, bound⟩) same)
    have erased := congrArg Registry.devices (dropConn_bound g w bound).2
    have clock := congrArg Registry.now (dropConn_bound g w bound).2
    simp only [registry, Registry.edit] at erased clock
    refine ⟨?_, ?_, fun topic => ?_, ?_⟩
    · simp only [GatewayServer.dropConn, bound, DeviceManager.deviceOffline, DeviceManager.deviceOfflineLocked]
      exact AList.lookup_erase_ne different
    · simp only [GatewayServer.dropConn, bound, DeviceManager.deviceOffline, DeviceManager.deviceOfflineLocked]
      exact AList.lookup_erase_ne different
    · simp only [GatewayServer.dropConn, bound, DeviceManager.deviceOffline, DeviceManager.deviceOfflineLocked]
      exact Multimap.mem_foldl_remove_of_ne different _ topic
    · rw [erased, clock]
      split
      · exact Hash.get_erase_ne _ _ field
      · rfl

def NodeEvent.Ends (k : ConnId) (e : NodeEvent) : Prop := e = .close k ∨ e = .packet k (.event .disconnect)

theorem undisturbed_nodeStep (n : NodeId) {g : GatewayServer} (w : World) {k : ConnId} {c : Bytes} {e : NodeEvent}
    (ends : e.Ends k) (tidy : Tidy (sessions g)) (known : (sessions g).Known c)
    (unbound : (sessions g).bound k ≠ some c) : Undisturbed c (g, w) (g.nodeStep n w e) := by
  rcases ends with rfl | rfl
  · simp only [GatewayServer.nodeStep]
    split
    · have kept := undisturbed_dropConn (g := g.setConn k .disconnected) w tidy known unbound
      exact ⟨kept.entry, kept.topics, kept.subscriber, kept.record⟩
    · exact .refl c _
  · simp only [GatewayServer.nodeStep]
    split
    · have kept := undisturbed_dropConn w tidy known unbound
      exact ⟨kept.entry, kept.topics, kept.subscriber, kept.record⟩
    · exact .refl c _

/-! ### Runs -/

/-- In a run in which clients only connect where they are free, a DISCONNECT on a connection or its closing leaves
everything in place that is kept for a client whose entry has another connection. -/
theorem other_connection_kept {events : List Event} (meets : Meets System.step ConnectsFree System.new events)
    (n : NodeId) (k : ConnId) (c : Bytes) (info : DeviceInfo) (e : NodeEvent) (ends : e.Ends k)
    (found : ((run System.step System.new events).nodes n).deviceMgr_.devices_.lookup c = some info)
    (other : info.connection ≠ k) :
    Undisturbed c ((run System.step System.new events).nodes n, (run System.step System.new events).world)
      ((run System.step System.new (events ++ [.node n e])).nodes n,
        (run System.step System.new (events ++ [.node n e])).world) := by
  have tidy := tidy_run meets n
  rw [run_append, run_cons, run_nil]
  generalize run System.step System.new events = s at found tidy ⊢
  have owned : (sessions (s.nodes n)).owner c = some info.connection := by
    simp [sessions, found]
  have known : (sessions (s.nodes n)).Known c := Or.inr (by simp [owned])
  have kept := undisturbed_nodeStep n s.world ends tidy known (tidy.consistent.bound_ne owned other)
  simp only [System.step]
  split
  · rw [System.update_nodes_self, System.update_world]
    exact kept
  · exact .refl c _

def twoDevices : List Event := startBoth ++ arrive gateway1 0 sensor ++ arrive gateway1 1 lamp

theorem other_connection_kept_lamp :
    Undisturbed lamp ((run System.step System.new twoDevices).nodes gateway1, (run System.step System.new twoDevices).world)
      ((run System.step System.new (twoDevices ++ [.node gateway1 (.close 0)])).nodes gateway1,
        (run System.step System.new (twoDevices ++ [.node gateway1 (.close 0)])).world) := by
  have meets : Meets System.step ConnectsFree System.new twoDevices := by decide +kernel
  have found : ((run System.step System.new twoDevices).nodes gateway1).deviceMgr_.devices_.lookup lamp =
      some ⟨lamp, [], gateway1.text, 0, 0, 60, 1⟩ := by
    decide +kernel
  exact other_connection_kept meets gateway1 0 lamp _ (.close 0) (Or.inl rfl) found (by decide)

/-- A device connects again while its first connection is still open, and then the first connection closes. -/
def takeover : List Event :=
  startBoth ++ arrive gateway1 0 sensor ++ arrive gateway1 1 sensor ++
    [.node gateway1 (.packet 1 (.event (.subscribe 1 [⟨ascii "/cmd", 0⟩])))]

/-- The new connection is up, and yet its entry, its subscription and its registry record are gone. -/
theorem takeover_loses_entry :
    let s := run System.step System.new takeover
    let s' := run System.step System.new (takeover ++ [.node gateway1 (.close 0)])
    ((s.nodes gateway1).deviceMgr_.devices_.lookup sensor).map (·.connection) = some 1 ∧
      (s.nodes gateway1).deviceMgr_.subscriptions_.lookup sensor = some [ascii "/cmd"] ∧
      (s.world.redis.devices.get s.world.now sensor).isSome ∧
      (s'.nodes gateway1).conns 1 = .connected ∧
      (s'.nodes gateway1).deviceMgr_.devices_.lookup sensor = none ∧
      (s'.nodes gateway1).deviceMgr_.subscriptions_.lookup sensor = none ∧
      s'.world.redis.devices.get s'.world.now sensor = none := by
  decide +kernel

end IotGateway.Gateway
