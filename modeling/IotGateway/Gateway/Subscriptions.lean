import IotGateway.Lib.Run
import IotGateway.Lib.Multimap
import IotGateway.Gateway.DeviceManager

/-!
# The subscription index and its inverse

`subscriptions_` and `topicSubscribers_` are two maps that four operations update one
after the other. They stay inverse to each other and hold no empty set, whatever calls a
`DeviceManager` gets and whatever the clock reads.
-/

namespace IotGateway.Gateway
open Text Storage Multimap

namespace DeviceManager

def topicsOf (d : DeviceManager) (clientId : Bytes) : List Bytes := members d.subscriptions_ clientId

def subscribersOf (d : DeviceManager) (topic : Bytes) : List Bytes := members d.topicSubscribers_ topic

structure Indexed (d : DeviceManager) : Prop where
  topics : Proper d.subscriptions_
  subscribers : Proper d.topicSubscribers_
  inverse : Inverse d.subscriptions_ d.topicSubscribers_

theorem indexed_new : Indexed {} := ⟨proper_empty, proper_empty, inverse_empty⟩

theorem Indexed.of_maps {d d' : DeviceManager} (indexed : d.Indexed) (topics : d'.subscriptions_ = d.subscriptions_)
    (subscribers : d'.topicSubscribers_ = d.topicSubscribers_) : d'.Indexed := by
  constructor
  · rw [topics]
    exact indexed.topics
  · rw [subscribers]
    exact indexed.subscribers
  · rw [topics, subscribers]
    exact indexed.inverse

theorem eraseFrom_eq (sets : AList fun _ : Bytes => List Bytes) (key value : Bytes) :
    eraseFrom sets key value = remove value sets key := by
  unfold eraseFrom remove members
  cases found : sets.lookup key with
  | none =>
    have absent : key ∉ sets := AList.lookup_eq_none.mp found
    exact (AList.ext (List.kerase_of_notMem_keys absent)).symm
  | some set => rfl

/-! ### What each operation does to the two maps -/

section Operations

variable {d : DeviceManager} (indexed : d.Indexed)

include indexed

theorem Indexed.subscribe (clientId topic : Bytes) : (d.subscribe clientId topic).Indexed where
  topics := indexed.topics.insert (List.ne_nil_of_mem (mem_setInsert.mpr (Or.inl rfl)))
    (nodup_setInsert (indexed.topics.nodup clientId) topic)
  subscribers := indexed.subscribers.insert (List.ne_nil_of_mem (mem_setInsert.mpr (Or.inl rfl)))
    (nodup_setInsert (indexed.subscribers.nodup topic) clientId)
  inverse := indexed.inverse.insert (fun _ => mem_setInsert) fun _ => mem_setInsert

theorem Indexed.foldl_subscribe (clientId : Bytes) (topics : List Bytes) :
    (topics.foldl (fun d topic => d.subscribe clientId topic) d).Indexed :=
  run_kept _ Indexed indexed (fun _ topic before => before.subscribe clientId topic) topics

omit indexed in
theorem mem_topicsOf_foldl_subscribe {clientId c t : Bytes} {topics : List Bytes} :
    t ∈ (topics.foldl (fun d topic => d.subscribe clientId topic) d).topicsOf c ↔
      t ∈ d.topicsOf c ∨ c = clientId ∧ t ∈ topics := by
  induction topics generalizing d with
  | nil => simp
  | cons topic topics ih =>
    have first : t ∈ (d.subscribe clientId topic).topicsOf c ↔ t ∈ d.topicsOf c ∨ c = clientId ∧ t = topic := by
      unfold DeviceManager.subscribe topicsOf
      rw [members_insert]
      split
      · rename_i same
        rw [mem_setInsert, same]
        simp only [true_and]
        exact or_comm
      · rename_i different
        simp [different]
    rw [List.foldl_cons, ih, first, List.mem_cons]
    tauto

theorem Indexed.unsubscribe (clientId topic : Bytes) : (d.unsubscribe clientId topic).Indexed := by
  unfold DeviceManager.unsubscribe
  rw [eraseFrom_eq, eraseFrom_eq]
  exact ⟨indexed.topics.remove clientId topic, indexed.subscribers.remove topic clientId,
    indexed.inverse.remove indexed.topics indexed.subscribers clientId topic⟩

theorem Indexed.deviceOfflineLocked (clientId : Bytes) : (d.deviceOfflineLocked clientId).Indexed where
  topics := indexed.topics.erase clientId
  subscribers := indexed.subscribers.foldl_remove clientId _
  inverse := indexed.inverse.dropKey indexed.subscribers clientId

theorem Indexed.foldl_offline (clients : List Bytes) : (clients.foldl DeviceManager.deviceOfflineLocked d).Indexed :=
  run_kept _ Indexed indexed (fun _ clientId before => before.deviceOfflineLocked clientId) clients

theorem subscribersOf_offline {clientId c topic : Bytes} :
    c ∈ (d.deviceOfflineLocked clientId).subscribersOf topic ↔ c ∈ d.subscribersOf topic ∧ c ≠ clientId := by
  have dropped : c ∈ members ((d.topicsOf clientId).foldl (remove clientId) d.topicSubscribers_) topic ↔ _ :=
    mem_foldl_remove indexed.subscribers
  refine dropped.trans (and_congr_right fun member => ?_)
  constructor
  · rintro kept rfl
    exact kept ⟨(indexed.inverse c topic).mpr member, rfl⟩
  · exact fun different gone => different gone.2

omit indexed in
theorem topics_offline (clientId c : Bytes) :
    (d.deviceOfflineLocked clientId).subscriptions_.lookup c = if c = clientId then none else d.subscriptions_.lookup c := by
  unfold DeviceManager.deviceOfflineLocked
  split
  · rename_i same
    rw [same, AList.lookup_erase]
  · rename_i different
    rw [AList.lookup_erase_ne different]

theorem subscribersOf_foldl_offline {clients : List Bytes} {c topic : Bytes} :
    c ∈ (clients.foldl DeviceManager.deviceOfflineLocked d).subscribersOf topic ↔ c ∈ d.subscribersOf topic ∧ c ∉ clients := by
  induction clients generalizing d with
  | nil => simp
  | cons clientId clients ih =>
    rw [List.foldl_cons, ih (indexed.deviceOfflineLocked clientId), subscribersOf_offline indexed, List.mem_cons]
    tauto

omit indexed in
theorem topics_foldl_offline (clients : List Bytes) (c : Bytes) :
    (clients.foldl DeviceManager.deviceOfflineLocked d).subscriptions_.lookup c =
      if c ∈ clients then none else d.subscriptions_.lookup c := by
  induction clients generalizing d with
  | nil => simp
  | cons clientId clients ih =>
    rw [List.foldl_cons, ih, topics_offline]
    by_cases same : c = clientId <;> simp [same]

end Operations

/-! ### Runs of calls -/

inductive Call where
  | deviceOnline (clientId : Bytes) (conn : ConnId) (keepAlive : Nat) (username : Bytes)
  | deviceOffline (clientId : Bytes)
  | updateHeartbeat (clientId : Bytes)
  | subscribe (clientId topic : Bytes)
  | unsubscribe (clientId topic : Bytes)
  | checkHeartbeatTimeout

/-- A call with the reading of the clock and the state of the Redis client that it finds. -/
structure TimedCall where
  now : Nat
  redis_ : RedisClient
  call : Call

def perform (nodeId_ : NodeId) (s : DeviceManager × World) (timed : TimedCall) : DeviceManager × World :=
  let w := { s.2 with now := timed.now }
  match timed.call with
  | .deviceOnline clientId conn keepAlive username =>
    s.1.deviceOnline nodeId_ timed.redis_ w clientId conn keepAlive username
  | .deviceOffline clientId => s.1.deviceOffline timed.redis_ w clientId
  | .updateHeartbeat clientId => s.1.updateHeartbeat timed.redis_ w clientId
  | .subscribe clientId topic => (s.1.subscribe clientId topic, w)
  | .unsubscribe clientId topic => (s.1.unsubscribe clientId topic, w)
  | .checkHeartbeatTimeout => (s.1.checkHeartbeatTimeout timed.redis_ w).2

theorem indexed_perform (nodeId_ : NodeId) (s : DeviceManager × World) (timed : TimedCall) (indexed : s.1.Indexed) :
    (perform nodeId_ s timed).1.Indexed := by
  obtain ⟨now, redis_, call⟩ := timed
  cases call with
  | deviceOnline clientId conn keepAlive username => exact indexed.of_maps rfl rfl
  | deviceOffline clientId => exact indexed.deviceOfflineLocked clientId
  | updateHeartbeat clientId => exact indexed.of_maps rfl rfl
  | subscribe clientId topic => exact indexed.subscribe clientId topic
  | unsubscribe clientId topic => exact indexed.unsubscribe clientId topic
  | checkHeartbeatTimeout => exact indexed.foldl_offline _

/-- The clients of a list have left both maps, and what the maps hold for the others is unchanged. -/
structure Left (gone : List Bytes) (before after : DeviceManager) : Prop where
  topics : ∀ c ∈ gone, after.subscriptions_.lookup c = none
  subscriber : ∀ c ∈ gone, ∀ topic, c ∉ after.subscribersOf topic
  otherTopics : ∀ c ∉ gone, after.subscriptions_.lookup c = before.subscriptions_.lookup c
  otherSubscriber : ∀ c ∉ gone, ∀ topic, c ∈ after.subscribersOf topic ↔ c ∈ before.subscribersOf topic

theorem left_foldl_offline {d : DeviceManager} (indexed : d.Indexed) (clients : List Bytes) :
    Left clients d (clients.foldl deviceOfflineLocked d) where
  topics := fun c gone => (topics_foldl_offline clients c).trans (if_pos gone)
  subscriber := fun _ gone _ member => ((subscribersOf_foldl_offline indexed).mp member).2 gone
  otherTopics := fun c stays => (topics_foldl_offline clients c).trans (if_neg stays)
  otherSubscriber := fun _ stays _ => (subscribersOf_foldl_offline indexed).trans (and_iff_left stays)

/-- After any calls the two maps are inverse and without empty sets; a device that goes offline or is evicted leaves
both of them, and nothing changes for the others. -/
theorem subscriptions_inverse (nodeId_ : NodeId) (w : World) (calls : List TimedCall) :
    let s := run (perform nodeId_) ({}, w) calls
    (∀ c t, t ∈ s.1.topicsOf c ↔ c ∈ s.1.subscribersOf t) ∧
      (∀ c ts, s.1.subscriptions_.lookup c = some ts → ts ≠ []) ∧
      (∀ t cs, s.1.topicSubscribers_.lookup t = some cs → cs ≠ []) ∧
      (∀ now redis_ c, Left [c] s.1 (perform nodeId_ s ⟨now, redis_, .deviceOffline c⟩).1) ∧
      ∀ now redis_, Left (s.1.timeoutDevices now) s.1 (perform nodeId_ s ⟨now, redis_, .checkHeartbeatTimeout⟩).1 := by
  intro s
  have indexed : s.1.Indexed :=
    run_kept (perform nodeId_) (fun s => s.1.Indexed) indexed_new (fun s timed => indexed_perform nodeId_ s timed) calls
  exact ⟨indexed.inverse, fun c ts found => (indexed.topics c ts found).1,
    fun t cs found => (indexed.subscribers t cs found).1,
    fun now redis_ c => left_foldl_offline indexed [c],
    fun now redis_ => left_foldl_offline indexed _⟩

end DeviceManager
end IotGateway.Gateway
