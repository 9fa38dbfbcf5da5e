import IotGateway.Gateway.Presence

/-!
# Who is declared failed

All heartbeats share one key. Its time to live is renewed by every heartbeat of every
node, so a node that beats is not taken for lost by a node whose query is answered, and a
node that has stopped is found only once all nodes have been silent for the time to live,
or after a `leave`. A query that is not answered counts as an empty list, and then every
known node is taken for lost.
-/

namespace IotGateway.Gateway
open Text Redis Storage Presence
open RedisClient (kHeartbeatTtl)

/-! ### Nodes that beat -/

/-- The time of the last heartbeat of a node that has not left since. -/
def lastHeartbeat (m : NodeId) : List Action → Option Nat
  | [] => none
  | .heartbeat n time :: log => if n = m then some time else lastHeartbeat m log
  | .leave n _ :: log => if n = m then none else lastHeartbeat m log
  | _ :: log => lastHeartbeat m log

theorem lastHeartbeat_filter (m : NodeId) (log : List Action) :
    lastHeartbeat m (log.filter isPresence) = lastHeartbeat m log := by
  induction log with
  | nil => rfl
  | cons action log ih => cases action <;> simp [List.filter_cons, isPresence, lastHeartbeat, ih]

/-- The node has sent a heartbeat less than the time to live ago, and has not left since. -/
def Beating (m : NodeId) (now : Nat) (log : List Action) : Prop :=
  ∃ time, lastHeartbeat m log = some time ∧ now < time + kHeartbeatTtl

theorem beating_filter {m : NodeId} {now : Nat} {log : List Action} :
    Beating m now (log.filter isPresence) ↔ Beating m now log := by
  simp only [Beating, lastHeartbeat_filter]

/-- The field of a node stays in the hash for the time to live after its heartbeat. -/
def Kept (v : Presence) : Prop :=
  ∀ m time, lastHeartbeat m v.log = some time → time ≤ v.now ∧
    (v.now ≤ time + kHeartbeatTtl →
      m.text ∈ v.heartbeat.fields ∧ ∀ expiry, v.heartbeat.expireAt = some expiry → time + kHeartbeatTtl ≤ expiry)

theorem Kept.alive {v : Presence} (kept : Kept v) {m : NodeId} {time : Nat} (beat : lastHeartbeat m v.log = some time)
    (recent : v.now ≤ time + kHeartbeatTtl) : v.heartbeat.expired v.now = false := by
  rw [← Bool.not_eq_true, Hash.expired_iff]
  rintro ⟨expiry, set, past⟩
  have later := ((kept m time beat).2 recent).2 expiry set
  omega

theorem Kept.mem_fieldNames {v : Presence} (kept : Kept v) {m : NodeId} (beating : Beating m v.now v.log) :
    m.text ∈ v.heartbeat.fieldNames v.now := by
  obtain ⟨time, beat, recent⟩ := beating
  exact Hash.mem_fieldNames.mpr ⟨kept.alive beat recent.le, ((kept m time beat).2 recent.le).1⟩

/-- No blank and no percent sign, as in the ids of `generateNodeId`. -/
def PlainId (n : NodeId) : Prop := 32 ∉ n.text ∧ 37 ∉ n.text

theorem formatWords_plain (junk : List Bytes) {format : Bytes} (noBlank : 32 ∉ format) (noPercent : 37 ∉ format)
    (word : Bytes) :
    RedisClient.formatWords junk format word = if word ++ format = [] then [] else [word ++ format] := by
  induction format generalizing word with
  | nil => simp [RedisClient.formatWords]
  | cons b format ih =>
    have blank : b ≠ 32 := fun same => noBlank (same ▸ List.mem_cons_self)
    have percent : b ≠ 37 := fun same => noPercent (same ▸ List.mem_cons_self)
    have rest := ih (fun member => noBlank (List.mem_cons_of_mem _ member))
      (fun member => noPercent (List.mem_cons_of_mem _ member)) (word ++ [b])
    rw [RedisClient.formatWords]
    · simpa using rest
    all_goals simp_all

theorem leaveFields_plain {n : NodeId} (plain : PlainId n) (junk : List Bytes) {field : Bytes}
    (member : field ∈ ClusterManager.leaveFields n junk) : field = n.text := by
  rw [ClusterManager.leaveFields, formatWords_plain junk plain.1 plain.2] at member
  split at member
  · exact absurd member List.not_mem_nil
  · simpa using member

theorem kept_move {n : NodeId} {asker : Option RedisClient} {v v' : Presence} (plain : PlainId n) (move : Move n asker v v')
    (kept : Kept v) : Kept v' := by
  cases move with
  | beat =>
    intro m time beat
    simp only [lastHeartbeat] at beat
    split at beat
    · rename_i same
      cases beat
      subst same
      exact ⟨le_rfl, fun _ => ⟨Hash.mem_set_expire.mpr (Or.inl rfl), fun expiry set => by
        rw [Hash.expireAt_set_expire] at set
        cases set
        exact le_rfl⟩⟩
    · refine ⟨(kept m time beat).1, fun recent => ⟨?_, fun expiry set => ?_⟩⟩
      · exact Hash.mem_set_expire.mpr (Or.inr (Hash.mem_live.mpr
          ⟨kept.alive beat recent, ((kept m time beat).2 recent).1⟩))
      · rw [Hash.expireAt_set_expire] at set
        cases set
        exact Nat.add_le_add_right (kept m time beat).1 _
  | leave junk =>
    intro m time beat
    simp only [lastHeartbeat] at beat
    split at beat
    · cases beat
    · rename_i different
      refine ⟨(kept m time beat).1, fun recent => ?_⟩
      have alive := kept.alive beat recent
      have stays : m.text ∈ (v.heartbeat.eraseAll v.now (ClusterManager.leaveFields n junk)).fields := by
        refine Hash.mem_eraseAll.mpr ⟨fun member => different ?_, Hash.mem_live.mpr
          ⟨alive, ((kept m time beat).2 recent).1⟩⟩
        exact NodeId.ext_text (leaveFields_plain plain junk member).symm
      refine ⟨stays, fun expiry set => ?_⟩
      rw [Hash.expireAt_eraseAll_of_mem stays, Hash.live_of_not_expired alive] at set
      exact ((kept m time beat).2 recent).2 expiry set
  | lost | failed => exact kept

theorem kept_tick (v : Presence) (delta : Nat) (kept : Kept v) : Kept { v with now := v.now + delta } := by
  intro m time beat
  obtain ⟨past, holds⟩ := kept m time beat
  exact ⟨Nat.le_add_right_of_le past, fun recent => holds (by dsimp only at recent; omega)⟩

/-- Every report that rests on an answered `HGETALL` names a node that was not beating. -/
def ReportsSound (log : List Action) : Prop :=
  ∀ after before n (m : NodeId) time,
    log = after ++ .lost n m.text time true :: before ∨ log = after ++ .failed n m.text time true :: before →
    ¬ Beating m time before

theorem ReportsSound.cons {log : List Action} (sound : ReportsSound log) {action : Action}
    (newest : ∀ n (m : NodeId) time, action = .lost n m.text time true ∨ action = .failed n m.text time true →
      ¬ Beating m time log) : ReportsSound (action :: log) := by
  intro after before n m time reported
  cases after with
  | nil =>
    simp only [List.nil_append, List.cons.injEq] at reported
    rcases reported with ⟨lost, rfl⟩ | ⟨failed, rfl⟩
    · exact newest n m time (Or.inl lost)
    · exact newest n m time (Or.inr failed)
  | cons first after =>
    simp only [List.cons_append, List.cons.injEq] at reported
    exact sound after before n m time (reported.imp And.right And.right)

theorem reportsSound_move {n : NodeId} {asker : Option RedisClient} {v v' : Presence} (move : Move n asker v v') (kept : Kept v)
    (sound : ReportsSound v.log) : ReportsSound v'.log := by
  have report : ∀ {reported : Bytes} {answered : Bool},
      (answered = true → reported ∉ v.heartbeat.fieldNames v.now) →
      ∀ m : NodeId, reported = m.text → answered = true → ¬ Beating m v.now v.log := by
    rintro reported answered missing m rfl answers beating
    exact missing answers (kept.mem_fieldNames beating)
  cases move with
  | beat => exact sound.cons (by simp)
  | leave junk => exact sound.cons (by simp)
  | lost reported asked connected missing =>
    refine sound.cons ?_
    rintro n' m time (same | same)
    · obtain ⟨-, named, rfl, answered⟩ := Action.lost.inj same
      exact report missing m named answered
    · cases same
  | failed reported asked connected missing =>
    refine sound.cons ?_
    rintro n' m time (same | same)
    · cases same
    · obtain ⟨-, named, rfl, answered⟩ := Action.failed.inj same
      exact report missing m named answered

theorem reportsSound_of_filter {log : List Action} (sound : ReportsSound (log.filter isPresence)) : ReportsSound log := by
  intro after before n m time reported
  rw [← beating_filter]
  refine sound (after.filter isPresence) _ n m time ?_
  rcases reported with lost | failed
  · left
    rw [lost, List.filter_append, List.filter_cons_of_pos rfl]
  · right
    rw [failed, List.filter_append, List.filter_cons_of_pos rfl]

theorem kept_run (events : List Event) (plain : ∀ e ∈ events, ∀ n, e.at? = some n → PlainId n) :
    Kept (presence (run System.step System.new events).world) ∧
      ReportsSound (presence (run System.step System.new events).world).log := by
  refine presence_invariant (fun v => Kept v ∧ ReportsSound v.log) (fun n _ => PlainId n) ?_ ?_ ?_
    (.of_events _ (fun e member _ => plain e member) _)
  · refine ⟨fun m time beat => absurd beat (by simp [presence, System.new, lastHeartbeat]),
      fun after before n m time reported => ?_⟩
    rcases reported with lost | failed
    · exact absurd lost (by simp [presence, System.new])
    · exact absurd failed (by simp [presence, System.new])
  · exact fun v delta holds => ⟨kept_tick v delta holds.1, holds.2⟩
  · exact fun n asker v v' plain move holds =>
      ⟨kept_move plain move holds.1, reportsSound_move move holds.1 holds.2⟩

/-- The heartbeats that a running node asks for in this step are answered, if it asks at all. -/
def Answered (s : System) : Event → Prop
  | .node n e => ∀ c ∈ e.asker (s.nodes n).redisClient_, c.isConnected = true → c.answers = true
  | .tick _ | .start .. => True

instance (s : System) : ∀ e, Decidable (Answered s e)
  | .node _ _ => Option.decidableForallMem _
  | .tick _ | .start .. => isTrue trivial

/-- A node that starts has no connection yet, and one that it gets works. -/
theorem asker_answers {s : System} {e : Event} (atRest : ∀ n, AtRest (s.nodes n)) (answered : Answered s e) {c : RedisClient}
    (asked : s.asker e = some c) (connected : c.connected_ = true) : c.answers = true := by
  cases e with
  | tick delta => cases asked
  | node n event => exact answered c asked connected
  | start n reach mqttPort =>
    cases running : (s.nodes n).running_ with
    | true =>
      rw [System.asker, if_pos running] at asked
      cases asked
    | false =>
      have fresh : (s.nodes n).redisClient_ = {} := congrArg (·.2.1) (atRest n running)
      rw [System.asker, running, if_neg Bool.false_ne_true, fresh] at asked
      obtain ⟨main, sub⟩ := reach
      cases main <;> cases asked
      · cases connected
      · rfl

/-- Every report rests on an answered query. -/
def ReportsAnswered (log : List Action) : Prop := ∀ n id time, .lost n id time false ∉ log ∧ .failed n id time false ∉ log

theorem reportsAnswered_move {n : NodeId} {asker : Option RedisClient} {v v' : Presence}
    (works : ∀ c, asker = some c → c.connected_ = true → c.answers = true) (move : Move n asker v v')
    (answered : ReportsAnswered v.log) : ReportsAnswered v'.log := by
  intro n' id time
  obtain ⟨lost, failed⟩ := answered n' id time
  cases move with
  | beat | leave =>
    rw [List.mem_cons, List.mem_cons, or_iff_right nofun, or_iff_right nofun]
    exact ⟨lost, failed⟩
  | lost reported asked connected | failed reported asked connected =>
    rw [works _ asked connected, List.mem_cons, List.mem_cons, or_iff_right nofun, or_iff_right nofun]
    exact ⟨lost, failed⟩

theorem reportsAnswered_run {events : List Event} (answered : Meets System.step Answered System.new events) :
    ReportsAnswered (presence (run System.step System.new events).world).log := by
  have works : ∀ s e, (∀ n, AtRest (s.nodes n)) → (Answered s e ↔ Answered s e ∧
      ∀ c, s.asker e = some c → c.connected_ = true → c.answers = true) :=
    fun s e atRest => ⟨fun answered => ⟨answered, fun _ => asker_answers atRest answered⟩, And.left⟩
  have meets := (meets_congr System.step (fun _ _ => rfl) atRest_step works events).mp answered
  refine presence_invariant (fun v => ReportsAnswered v.log)
    (fun _ asker => ∀ c, asker = some c → c.connected_ = true → c.answers = true) ?_ (fun _ _ holds => holds) ?_
    (meets.imp _ (fun _ _ both _ _ => both.2))
  · exact fun _ _ _ => ⟨List.not_mem_nil, List.not_mem_nil⟩
  · exact fun n asker v v' works move holds => reportsAnswered_move works move holds

/-- No report names a node that was beating. -/
def Unreported (log : List Action) : Prop :=
  ∀ after before n (m : NodeId) time answered,
    log = after ++ .lost n m.text time answered :: before ∨ log = after ++ .failed n m.text time answered :: before →
    ¬ Beating m time before

theorem unreported_of_answered {log : List Action} (sound : ReportsSound log)
    (answered : ReportsAnswered (log.filter isPresence)) : Unreported log := by
  intro after before n m time flag reported
  cases flag with
  | true => exact sound after before n m time reported
  | false =>
    obtain ⟨lost, failed⟩ := answered n m.text time
    rcases reported with rfl | rfl
    · exact absurd (List.mem_filter.mpr ⟨List.mem_append_right _ List.mem_cons_self, rfl⟩) lost
    · exact absurd (List.mem_filter.mpr ⟨List.mem_append_right _ List.mem_cons_self, rfl⟩) failed

/-- A call of `detectFailedNodes` at this node returns `m`, or a call of `discoverNodes` reports it as lost. -/
def Declares (n : NodeId) (g : GatewayServer) (w : World) (m : NodeId) : Prop :=
  m.text ∈ g.clusterMgr_.detectFailedNodes n g.redisClient_ w ∨
    g.redisClient_.isConnected = true ∧ m.text ∈ (g.clusterMgr_.nodeChanges n (g.redisClient_.getOnlineNodes w)).2

/-- A node that beats is never declared failed or lost in a run whose queries are answered, and in every run not in a
report that rests on an answered query. Whatever went before, the next call names a node that beats exactly when the
caller knows it, is another node, and has a connection on which its query is not answered. -/
theorem beating_never_reported (events : List Event) (plain : ∀ e ∈ events, ∀ n, e.at? = some n → PlainId n) :
    let s := run System.step System.new events
    (Meets System.step Answered System.new events → Unreported s.world.log) ∧ ReportsSound s.world.log ∧
      ∀ n m, Beating m s.world.now s.world.log → (¬ Declares n (s.nodes n) s.world m ↔
        ((s.nodes n).redisClient_.isConnected = true → m.text ∈ (s.nodes n).clusterMgr_.knownNodes_ → n ≠ m →
          (s.nodes n).redisClient_.answers = true)) := by
  intro s
  obtain ⟨kept, sound⟩ := kept_run events plain
  have sound := reportsSound_of_filter sound
  refine ⟨fun answered => unreported_of_answered sound (reportsAnswered_run answered), sound, fun n m beating => ?_⟩
  have listed : m.text ∈ (s.nodes n).redisClient_.getOnlineNodes s.world ↔ (s.nodes n).redisClient_.answers = true := by
    unfold RedisClient.getOnlineNodes
    split
    · rename_i answers
      exact iff_of_true (kept.mem_fieldNames (beating_filter.mpr beating)) answers
    · rename_i silent
      exact iff_of_false List.not_mem_nil silent
  have self : m.text ≠ n.text ↔ n ≠ m :=
    not_congr ⟨fun same => NodeId.ext_text same.symm, fun same => same ▸ rfl⟩
  rw [Declares, ClusterManager.mem_detectFailedNodes, ClusterManager.nodeChanges, List.mem_filter, decide_eq_true_eq, self,
    listed]
  tauto

def beatingFirst : List Event :=
  startBoth ++ [.tick (10 * kSecond), .node gateway1 .sendHeartbeat, .tick (14 * kSecond),
    .node gateway2 (.failureDetection [])]

theorem plain_beatingFirst : ∀ e ∈ beatingFirst, ∀ n, e.at? = some n → PlainId n := by
  unfold PlainId
  simp only [beatingFirst, startBoth, List.cons_append, List.nil_append, List.forall_mem_cons]
  simp [Event.at?]
  decide

theorem beatingFirst_not_reported :
    let s := run System.step System.new beatingFirst
    Beating gateway1 s.world.now s.world.log ∧ gateway1.text ∈ (s.nodes gateway2).clusterMgr_.knownNodes_ ∧
      Unreported s.world.log ∧ ¬ Declares gateway2 (s.nodes gateway2) s.world gateway1 := by
  intro s
  have beating : Beating gateway1 s.world.now s.world.log := ⟨10 * kSecond, by decide +kernel, by decide +kernel⟩
  obtain ⟨unreported, -, declared⟩ := beating_never_reported beatingFirst plain_beatingFirst
  refine ⟨beating, by decide +kernel, unreported (by decide +kernel), ?_⟩
  exact (declared gateway2 gateway1 beating).mpr (fun _ _ _ => by decide +kernel)

/-- The connection of the second node to Redis breaks. -/
def unanswered : List Event :=
  startBoth ++ [.tick (1 * kSecond), .node gateway2 .linkDown]

/-- The first node has sent a heartbeat a second ago. The second one, which gets no answer, has it failed and lost. -/
theorem beating_reported_unanswered :
    let s := run System.step System.new unanswered
    let later := s.step (.node gateway2 (.failureDetection []))
    Beating gateway1 s.world.now s.world.log ∧ Declares gateway2 (s.nodes gateway2) s.world gateway1 ∧
      ¬ Unreported later.world.log := by
  intro s later
  have beating : Beating gateway1 s.world.now s.world.log := ⟨0, by decide +kernel, by decide +kernel⟩
  refine ⟨beating, Or.inl (by decide +kernel), fun unreported => ?_⟩
  have logged : later.world.log = .lost gateway2 gateway1.text (1 * kSecond) false ::
      .failed gateway2 gateway1.text (1 * kSecond) false :: s.world.log := by decide +kernel
  have time : s.world.now = 1 * kSecond := by decide +kernel
  rw [time] at beating
  exact unreported [_] s.world.log gateway2 gateway1 _ false (Or.inr logged) beating

/-! ### Nodes that have stopped -/

/-- The times of all heartbeats since the last one of `m`, newest first and that one included. `none` when `m` has
never sent one, or when a `leave` has deleted its field since. -/
def heartbeatsSince (m : NodeId) : List Action → Option (List Nat)
  | [] => none
  | .heartbeat n time :: log => if n = m then some [time] else (heartbeatsSince m log).map (time :: ·)
  | .leave _ fields :: log => if m.text ∈ fields then none else heartbeatsSince m log
  | _ :: log => heartbeatsSince m log

/-- Since the last heartbeat of `m`, no two heartbeats in a row are further apart than the time to live, and the last
of them is not further back. -/
def Remembered (m : NodeId) (now : Nat) (log : List Action) : Prop :=
  ∃ times, heartbeatsSince m log = some times ∧
    (now :: times).IsChain fun later earlier => later ≤ earlier + kHeartbeatTtl

theorem heartbeatsSince_filter (m : NodeId) (log : List Action) :
    heartbeatsSince m (log.filter isPresence) = heartbeatsSince m log := by
  induction log with
  | nil => rfl
  | cons action log ih => cases action <;> simp [List.filter_cons, isPresence, heartbeatsSince, ih]

theorem remembered_filter {m : NodeId} {now : Nat} {log : List Action} :
    Remembered m now (log.filter isPresence) ↔ Remembered m now log := by
  simp only [Remembered, heartbeatsSince_filter]

def latestHeartbeat : List Action → Option Nat
  | [] => none
  | .heartbeat _ time :: _ => some time
  | _ :: log => latestHeartbeat log

theorem head_heartbeatsSince {m : NodeId} {log : List Action} {times : List Nat}
    (since : heartbeatsSince m log = some times) : ∃ time rest, times = time :: rest ∧ latestHeartbeat log = some time := by
  induction log generalizing times with
  | nil => cases since
  | cons action log ih =>
    cases action with
    | heartbeat n time =>
      simp only [heartbeatsSince] at since
      split at since
      · cases since
        exact ⟨time, [], rfl, rfl⟩
      · obtain ⟨earlier, _, rfl⟩ := Option.map_eq_some_iff.mp since
        exact ⟨time, earlier, rfl, rfl⟩
    | leave n fields =>
      simp only [heartbeatsSince] at since
      split at since
      · cases since
      · exact ih since
    | _ => exact ih since

/-- The hash holds exactly the nodes that are remembered, and expires with the last heartbeat. -/
structure Exact (v : Presence) : Prop where
  fields : ∀ m : NodeId, m.text ∈ (v.heartbeat.live v.now).fields ↔ Remembered m v.now v.log
  expiry : ∀ field ∈ v.heartbeat.fields, ∃ time, latestHeartbeat v.log = some time ∧
    v.heartbeat.expireAt = some (time + kHeartbeatTtl)
  past : ∀ time, latestHeartbeat v.log = some time → time ≤ v.now

theorem exact_tick (v : Presence) (delta : Nat) (exact : Exact v) : Exact { v with now := v.now + delta } := by
  refine ⟨fun m => ?_, exact.expiry, fun time latest => Nat.le_add_right_of_le (exact.past time latest)⟩
  rw [Hash.mem_live]
  constructor
  · rintro ⟨alive, member⟩
    obtain ⟨time, latest, set⟩ := exact.expiry _ member
    have notYet : ¬ time + kHeartbeatTtl < v.now + delta := fun past =>
      absurd (Hash.expired_iff.mpr ⟨_, set, past⟩) (by simp [alive])
    have aliveNow : v.heartbeat.expired v.now = false := by
      rw [← Bool.not_eq_true, Hash.expired_iff]
      rintro ⟨expiry, same, past⟩
      obtain rfl : time + kHeartbeatTtl = expiry := Option.some.inj (set.symm.trans same)
      omega
    obtain ⟨times, since, chain⟩ := (exact.fields m).mp (Hash.mem_live.mpr ⟨aliveNow, member⟩)
    obtain ⟨first, rest, rfl, same⟩ := head_heartbeatsSince since
    obtain rfl : time = first := Option.some.inj (latest.symm.trans same)
    refine ⟨_, since, ?_⟩
    rw [List.isChain_cons_cons] at chain ⊢
    exact ⟨not_lt.mp notYet, chain.2⟩
  · rintro ⟨times, since, chain⟩
    obtain ⟨time, rest, rfl, latest⟩ := head_heartbeatsSince since
    rw [List.isChain_cons_cons] at chain
    have remembered : Remembered m v.now v.log := by
      refine ⟨_, since, ?_⟩
      rw [List.isChain_cons_cons]
      exact ⟨by have := chain.1; dsimp only at this; omega, chain.2⟩
    obtain ⟨_, member⟩ := Hash.mem_live.mp ((exact.fields m).mpr remembered)
    obtain ⟨other, same, set⟩ := exact.expiry _ member
    obtain rfl : time = other := Option.some.inj (latest.symm.trans same)
    refine ⟨?_, member⟩
    rw [← Bool.not_eq_true, Hash.expired_iff]
    rintro ⟨expiry, equal, past⟩
    obtain rfl : time + kHeartbeatTtl = expiry := Option.some.inj (set.symm.trans equal)
    exact absurd chain.1 (not_le.mpr past)

theorem exact_move {n : NodeId} {asker : Option RedisClient} {v v' : Presence} (move : Move n asker v v') (exact : Exact v) :
    Exact v' := by
  cases move with
  | beat =>
    refine ⟨fun m => ?_, fun field member => ⟨v.now, rfl, Hash.expireAt_set_expire _ _ _ _ _⟩, ?_⟩
    · have alive : ((v.heartbeat.set v.now n.text (ascii "1")).expire v.now kHeartbeatTtl).expired v.now = false := by
        rw [← Bool.not_eq_true, Hash.expired_iff, Hash.expireAt_set_expire]
        rintro ⟨expiry, same, past⟩
        cases same
        omega
      rw [Hash.live_of_not_expired alive, Hash.mem_set_expire, exact.fields m]
      by_cases same : n = m
      · subst same
        simp [Remembered, heartbeatsSince]
      · have different : m.text ≠ n.text := fun equal => same (NodeId.ext_text equal).symm
        simp only [different, false_or, Remembered, heartbeatsSince, same, if_false]
        constructor
        · rintro ⟨times, since, chain⟩
          exact ⟨v.now :: times, by simp [since], List.isChain_cons_cons.mpr ⟨Nat.le_add_right _ _, chain⟩⟩
        · rintro ⟨times, since, chain⟩
          obtain ⟨earlier, before, rfl⟩ := Option.map_eq_some_iff.mp since
          exact ⟨earlier, before, (List.isChain_cons_cons.mp chain).2⟩
    · intro time latest
      cases latest
      exact le_rfl
  | leave junk =>
    refine ⟨fun m => ?_, fun field member => ?_, exact.past⟩
    · rw [Hash.live_of_not_expired (v.heartbeat.eraseAll_alive v.now _), Hash.mem_eraseAll, exact.fields m]
      by_cases named : m.text ∈ ClusterManager.leaveFields n junk
      · simp [Remembered, heartbeatsSince, named]
      · simp [Remembered, heartbeatsSince, named]
    · obtain ⟨alive, before⟩ := Hash.mem_live.mp (Hash.mem_eraseAll.mp member).2
      rw [Hash.expireAt_eraseAll_of_mem member, Hash.live_of_not_expired alive]
      exact exact.expiry field before
  | lost | failed => exact ⟨exact.fields, exact.expiry, exact.past⟩

theorem exact_run (events : List Event) : Exact (presence (run System.step System.new events).world) := by
  refine presence_invariant Exact (fun _ _ => True) ?_ exact_tick ?_ (.of_events _ (fun _ _ _ _ _ => trivial) _)
  · refine ⟨fun m => ?_, fun field member => absurd member (AList.notMem_empty field), fun time latest => ?_⟩
    · have nothing : m.text ∉ ((presence System.new.world).heartbeat.live 0).fields := AList.notMem_empty _
      simpa [Remembered, heartbeatsSince, presence, System.new] using nothing
    · cases latest
  · exact fun n asker v v' _ move holds => exact_move move holds

/-- The time of the last heartbeat of a node, whether it has left since or not. -/
def lastSent (m : NodeId) : List Action → Option Nat
  | [] => none
  | .heartbeat n time :: log => if n = m then some time else lastSent m log
  | _ :: log => lastSent m log

/-- No heartbeat for more than the time to live. -/
def Silent (m : NodeId) (now : Nat) (log : List Action) : Prop :=
  ∀ time, lastSent m log = some time → time + kHeartbeatTtl < now

/-- A silent node is off the list of online nodes, and a node that knows it detects its failure, exactly when the
shared key has forgotten the silent node (no heartbeat was sent, a `leave` deleted it, or at some time since all
nodes were silent for longer than the time to live), or the query is not answered; and the node that looks for
failures is connected and is not the silent node itself. -/
theorem silent_detected_iff (events : List Event) (n m : NodeId) :
    let s := run System.step System.new events
    let c := (s.nodes n).redisClient_
    let cm := (s.nodes n).clusterMgr_
    (Silent m s.world.now s.world.log →
      m.text ∉ c.getOnlineNodes s.world ∧ (m.text ∈ cm.knownNodes_ → m.text ∈ cm.detectFailedNodes n c s.world)) ↔
    (Silent m s.world.now s.world.log →
      (c.answers = true → ¬ Remembered m s.world.now s.world.log) ∧
        (m.text ∈ cm.knownNodes_ → c.isConnected = true ∧ n ≠ m)) := by
  intro s c cm
  have listed : m.text ∈ c.getOnlineNodes s.world ↔ c.answers = true ∧ Remembered m s.world.now s.world.log := by
    have fields : m.text ∈ (s.world.redis.heartbeat.live s.world.now).fields ↔
        Remembered m s.world.now (s.world.log.filter isPresence) := (exact_run events).fields m
    rw [remembered_filter] at fields
    unfold RedisClient.getOnlineNodes
    split
    · rename_i answers
      rw [Hash.fieldNames, ← AList.mem_keys]
      simpa [answers] using fields
    · rename_i silent
      simp [silent]
  have self : m.text ≠ n.text ↔ n ≠ m :=
    not_congr ⟨fun same => NodeId.ext_text same.symm, fun same => same ▸ rfl⟩
  refine imp_congr_right fun _ => ?_
  rw [ClusterManager.mem_detectFailedNodes, self, listed, not_and]
  refine and_congr_right fun forgotten => ?_
  constructor
  · intro detects known
    obtain ⟨connected, _, other, _⟩ := detects known
    exact ⟨connected, other⟩
  · intro may known
    obtain ⟨connected, other⟩ := may known
    exact ⟨connected, known, other, forgotten⟩

def silentFirst : List Event :=
  startBoth ++ [.tick (10 * kSecond), .node gateway2 .sendHeartbeat, .tick (6 * kSecond)]

/-- The silent node is still listed, and its failure is not detected by a node that knows it. -/
theorem silentFirst_undetected :
    let s := run System.step System.new silentFirst
    let c := (s.nodes gateway2).redisClient_
    let cm := (s.nodes gateway2).clusterMgr_
    Silent gateway1 s.world.now s.world.log ∧
      gateway1.text ∈ c.getOnlineNodes s.world ∧ gateway1.text ∈ cm.knownNodes_ ∧
      gateway1.text ∉ cm.detectFailedNodes gateway2 c s.world := by
  intro s c cm
  have last : lastSent gateway1 s.world.log = some 0 := by decide +kernel
  have silent : Silent gateway1 s.world.now s.world.log := by
    intro time sent
    obtain rfl : 0 = time := Option.some.inj (last.symm.trans sent)
    decide +kernel
  exact ⟨silent, by decide +kernel⟩

end IotGateway.Gateway
