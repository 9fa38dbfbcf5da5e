import IotGateway.Gateway.NodeRegistry
import IotGateway.Gateway.Recovery

/-!
# Leaving the cluster

`registerNode` and `sendNodeHeartbeat` pass the id of the node as one argument, `leave`
puts it into the text of the command, which hiredis cuts at blanks and searches for
directives. What is deleted is the field of the node only if its id is one word. The
devices that are still connected stay in the registry in any case.
-/

namespace IotGateway.Gateway
open Text Redis Storage

/-! ### Ids of one word -/

/-- What hiredis takes for one word as it is: no blank, and no `%` but at the end. -/
def OneWord (text : Bytes) : Prop := text ≠ [] ∧ 32 ∉ text ∧ 37 ∉ text.dropLast

instance (text : Bytes) : Decidable (OneWord text) := inferInstanceAs (Decidable (_ ∧ _))

theorem formatWords_word (junk : List Bytes) {text : Bytes} (noBlank : 32 ∉ text) (noDirective : 37 ∉ text.dropLast)
    (word : Bytes) :
    RedisClient.formatWords junk text word = if word ++ text = [] then [] else [word ++ text] := by
  induction text generalizing word with
  | nil => simp [RedisClient.formatWords]
  | cons b text ih =>
    have blank : b ≠ 32 := fun same => noBlank (same ▸ List.mem_cons_self)
    by_cases last : text = []
    · subst last
      by_cases percent : b = 37
      · simp [percent, RedisClient.formatWords]
      · rw [RedisClient.formatWords]
        · simp [RedisClient.formatWords]
        all_goals simp_all
    · have percent : b ≠ 37 := by
        rintro rfl
        exact noDirective (by rw [List.dropLast_cons_of_ne_nil last]; exact List.mem_cons_self)
      rw [List.dropLast_cons_of_ne_nil last] at noDirective
      have rest := ih (fun member => noBlank (List.mem_cons_of_mem _ member))
        (fun member => noDirective (List.mem_cons_of_mem _ member)) (word ++ [b])
      rw [RedisClient.formatWords]
      · simpa using rest
      all_goals simp_all

/-- Without junk words, no word is longer than the text, and one as long is the text as it is. -/
theorem oneWord_of_long {text word other : Bytes} (member : other ∈ RedisClient.formatWords [] text word) :
    other.length ≤ word.length + text.length ∧
      (other.length = word.length + text.length → 32 ∉ text ∧ 37 ∉ text.dropLast) := by
  fun_induction RedisClient.formatWords [] text word with
  | case1 => simp at member
  | case2 word some =>
    rw [List.mem_singleton.mp member]
    simp
  | case3 word =>
    rw [List.mem_singleton.mp member]
    simp
  | case4 word format ih =>
    have shorter := (ih member).1
    rw [List.length_append, List.length_singleton] at shorter
    simp only [List.length_cons]
    exact ⟨by omega, fun same => by omega⟩
  | case5 => simp at member
  | case6 format ih =>
    have shorter := (ih member).1
    simp only [List.length_cons, List.length_nil] at shorter ⊢
    exact ⟨by omega, fun same => by omega⟩
  | case7 format word some ih =>
    simp only [List.length_cons]
    rcases List.mem_cons.mp member with rfl | later
    · exact ⟨by omega, fun same => by omega⟩
    · have shorter := (ih later).1
      simp only [List.length_nil] at shorter
      exact ⟨by omega, fun same => by omega⟩
  | case8 b format word notLast _ notDirective notBlank ih =>
    obtain ⟨shorter, exact⟩ := ih member
    rw [List.length_append, List.length_singleton] at shorter exact
    rw [List.length_cons]
    refine ⟨by omega, fun same => ?_⟩
    obtain ⟨noBlank, noDirective⟩ := exact (by omega)
    refine ⟨by simp [noBlank, Ne.symm (show b ≠ 32 from notBlank)], ?_⟩
    cases format with
    | nil => simp
    | cons head tail =>
      have percent : b ≠ 37 := fun same => notDirective head tail same rfl
      rw [List.dropLast_cons_of_ne_nil (List.cons_ne_nil head tail)]
      simp [noDirective, percent.symm]

theorem leaveFields_oneWord {n : NodeId} (oneWord : OneWord n.text) (junk : List Bytes) :
    ClusterManager.leaveFields n junk = [n.text] := by
  rw [ClusterManager.leaveFields, formatWords_word junk oneWord.2.1 oneWord.2.2, List.nil_append, if_neg oneWord.1]

theorem oneWord_of_mem {n : NodeId} (member : n.text ∈ ClusterManager.leaveFields n []) : OneWord n.text := by
  obtain ⟨-, exact⟩ := oneWord_of_long member
  refine ⟨?_, exact (by simp)⟩
  intro empty
  rw [ClusterManager.leaveFields, empty] at member
  cases member

/-! ### What is left after the stop -/

/-- The record of a device names the node as its gateway. -/
def NamedBy (n : NodeId) (w : World) : Prop :=
  ∃ clientId record, w.redis.devices.get w.now clientId = some record ∧
    ClusterManager.extractJsonField record (ascii "gateway") = n.text

/-- The node is gone from the store, and nothing else is. -/
structure CleanedUp (n : NodeId) (before after : World) : Prop where
  node : n.text ∉ after.redis.nodes.fieldNames after.now
  heartbeat : n.text ∉ after.redis.heartbeat.fieldNames after.now
  devices : ¬ NamedBy n after
  otherNodes : ∀ other ≠ n.text, after.redis.nodes.get after.now other = before.redis.nodes.get before.now other
  otherHeartbeats : ∀ other ≠ n.text,
    after.redis.heartbeat.get after.now other = before.redis.heartbeat.get before.now other
  otherDevices : ∀ clientId record, before.redis.devices.get before.now clientId = some record →
    ClusterManager.extractJsonField record (ascii "gateway") ≠ n.text →
    after.redis.devices.get after.now clientId = some record

/-- A joined node with a working connection. -/
structure CanLeave (g : GatewayServer) : Prop where
  joined : g.clusterMgr_.joined_ = true
  connected : g.redisClient_.connected_ = true
  answers : g.redisClient_.answers = true

section Stop

variable {n : NodeId} {s : System}

theorem stop_world (running : (s.nodes n).running_ = true) (leaving : CanLeave (s.nodes n)) (junk : List Bytes) :
    let after := (s.step (.node n (.stop junk))).world
    after.redis.nodes = s.world.redis.nodes.eraseAll s.world.now (ClusterManager.leaveFields n junk) ∧
      after.redis.heartbeat = s.world.redis.heartbeat.eraseAll s.world.now (ClusterManager.leaveFields n junk) ∧
      after.redis.devices = s.world.redis.devices ∧ after.now = s.world.now := by
  obtain ⟨redis, now⟩ := leave_world n (s.nodes n).redisClient_ (s.nodes n).clusterMgr_ s.world junk leaving.joined
    leaving.connected leaving.answers
  have devices : ((s.nodes n).clusterMgr_.leave n (s.nodes n).redisClient_ junk s.world).2.redis.devices =
      s.world.redis.devices := by rw [redis]
  rw [System.step_running running, System.update_world]
  exact ⟨congrArg RedisServer.nodes redis, congrArg RedisServer.heartbeat redis, devices, now⟩

theorem not_mem_eraseAll {h : Hash Bytes Bytes} {now : Nat} {fields : List Bytes} {field : Bytes} (member : field ∈ fields) :
    field ∉ (h.eraseAll now fields).fieldNames now := by
  rw [Hash.mem_fieldNames, Hash.mem_eraseAll]
  exact fun left => left.2.1 member

theorem cleanedUp_oneWord (running : (s.nodes n).running_ = true) (leaving : CanLeave (s.nodes n)) (junk : List Bytes)
    (oneWord : OneWord n.text) (unnamed : ¬ NamedBy n s.world) :
    CleanedUp n s.world (s.step (.node n (.stop junk))).world := by
  obtain ⟨nodes, heartbeat, devices, now⟩ := stop_world running leaving junk
  rw [leaveFields_oneWord oneWord] at nodes heartbeat
  constructor
  · rw [nodes, now]
    exact not_mem_eraseAll List.mem_cons_self
  · rw [heartbeat, now]
    exact not_mem_eraseAll List.mem_cons_self
  · unfold NamedBy
    rw [devices, now]
    exact unnamed
  · intro other different
    rw [nodes, now]
    exact Hash.get_eraseAll_single _ _ different
  · intro other different
    rw [heartbeat, now]
    exact Hash.get_eraseAll_single _ _ different
  · intro clientId record found _
    rw [devices, now]
    exact found

theorem cleanedUp_stop_iff (running : (s.nodes n).running_ = true) (leaving : CanLeave (s.nodes n))
    (kept : KeepsField n.text s) :
    (∀ junk, CleanedUp n s.world (s.step (.node n (.stop junk))).world) ↔ OneWord n.text ∧ ¬ NamedBy n s.world := by
  constructor
  · intro clean
    obtain ⟨nodes, -, devices, now⟩ := stop_world running leaving []
    constructor
    · apply oneWord_of_mem
      by_contra missing
      have persistent : s.world.redis.nodes.expireAt = none := kept.persistent
      refine (clean []).node ?_
      rw [nodes, now, Hash.mem_fieldNames, Hash.mem_eraseAll, Hash.persistent_live persistent]
      exact ⟨Hash.eraseAll_alive _ _ _, missing, kept.member⟩
    · have unnamed := (clean []).devices
      unfold NamedBy at unnamed
      rw [devices, now] at unnamed
      exact unnamed
  · rintro ⟨oneWord, unnamed⟩ junk
    exact cleanedUp_oneWord running leaving junk oneWord unnamed

end Stop

/-! ### The life of a node -/

theorem keepsField_start {s : System} {n : NodeId} {reach : Reach} (mqttPort : UInt16)
    (persistent : (nodeRegistry s.world).expireAt = none) (down : (s.nodes n).running_ = false)
    (atRest : AtRest (s.nodes n)) (reached : reach.main = true) : KeepsField n.text (s.step (.start n reach mqttPort)) where
  persistent := nodes_persistent_step persistent _
  member := by
    have seat := atRest down
    have off : (s.nodes n).redisClient_.connected_ = false := congrArg (fun s => s.2.1.connected_) seat
    have out : (s.nodes n).clusterMgr_.joined_ = false := congrArg (fun s => s.2.2.joined_) seat
    obtain ⟨info, registered⟩ := start_registers n s.world mqttPort off out reached
    have started : s.step (.start n reach mqttPort) = s.update n ((s.nodes n).start n reach mqttPort s.world) :=
      if_neg (by rw [down]; exact Bool.false_ne_true)
    rw [started, System.update_world, registered, Hash.mem_set]
    exact Or.inl rfl

/-- A node cleans up after itself exactly if its id is one word and no device is registered with it any more when it
stops. -/
theorem cleans_up_iff (n : NodeId) (before own : List Event) (reach : Reach) (mqttPort : UInt16)
    (down : ((run System.step System.new before).nodes n).running_ = false) (reached : reach.main = true)
    (stay : ∀ e ∈ own, e.leaves = false)
    (leaving : CanLeave ((run System.step System.new (before ++ .start n reach mqttPort :: own)).nodes n)) :
    let s := run System.step System.new (before ++ .start n reach mqttPort :: own)
    (∀ junk, CleanedUp n s.world (s.step (.node n (.stop junk))).world) ↔ OneWord n.text ∧ ¬ NamedBy n s.world := by
  intro s
  have started : KeepsField n.text ((run System.step System.new before).step (.start n reach mqttPort)) :=
    keepsField_start mqttPort (nodes_persistent before) down (atRest_run before n) reached
  have kept : KeepsField n.text s := by
    have later := started.run stay
    rwa [← run_cons, ← run_append] at later
  exact cleanedUp_stop_iff (seated_run _ n leaving.joined).1 leaving kept

theorem not_namedBy_of_empty {n : NodeId} {w : World} (empty : w.redis.devices.fieldNames w.now = []) : ¬ NamedBy n w := by
  rintro ⟨clientId, record, found, -⟩
  have member : clientId ∈ w.redis.devices.fieldNames w.now := by
    apply AList.mem_keys.mp
    apply AList.lookup_isSome.mp
    exact Option.isSome_iff_exists.mpr ⟨record, found⟩
  rw [empty] at member
  cases member

/-- A device connects to the node, and is gone again when the node stops. -/
def servedOnce : List Event := arrive gateway1 1 sensor ++ [.node gateway1 (.close 1)]

theorem cleans_up_iff_servedOnce :
    let s := run System.step System.new (.start gateway1 ⟨true, true⟩ 1883 :: servedOnce)
    CanLeave (s.nodes gateway1) ∧
      ∀ junk, CleanedUp gateway1 s.world (s.step (.node gateway1 (.stop junk))).world := by
  have stay : ∀ e ∈ servedOnce, e.leaves = false := by decide
  have leaving : CanLeave ((run System.step System.new (.start gateway1 ⟨true, true⟩ 1883 :: servedOnce)).nodes gateway1) :=
    ⟨by decide +kernel, by decide +kernel, by decide +kernel⟩
  have empty : (run System.step System.new (.start gateway1 ⟨true, true⟩ 1883 :: servedOnce)).world.redis.devices.fieldNames
      (run System.step System.new (.start gateway1 ⟨true, true⟩ 1883 :: servedOnce)).world.now = [] := by decide +kernel
  exact ⟨leaving, (cleans_up_iff gateway1 [] servedOnce ⟨true, true⟩ 1883 rfl rfl stay leaving).mpr
    ⟨by decide, not_namedBy_of_empty empty⟩⟩

/-- A device that is still connected when the node stops stays registered with the node. -/
theorem stopped_still_named :
    let s := run System.step System.new (.start gateway1 ⟨true, true⟩ 1883 :: arrive gateway1 1 sensor)
    CanLeave (s.nodes gateway1) ∧ ¬ CleanedUp gateway1 s.world (s.step (.node gateway1 (.stop []))).world := by
  refine ⟨⟨by decide +kernel, by decide +kernel, by decide +kernel⟩, fun clean => clean.devices ?_⟩
  have named : ((run System.step System.new (.start gateway1 ⟨true, true⟩ 1883 :: arrive gateway1 1 sensor ++
      [.node gateway1 (.stop [])])).world.redis.devices.get 0 sensor).map
        (ClusterManager.extractJsonField · (ascii "gateway")) = some gateway1.text := by decide +kernel
  obtain ⟨record, found, names⟩ := Option.map_eq_some_iff.mp named
  exact ⟨sensor, record, found, names⟩

end IotGateway.Gateway
