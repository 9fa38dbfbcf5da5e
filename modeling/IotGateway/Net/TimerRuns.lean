import IotGateway.Net.Timers
import Mathlib.Data.List.Nodup

/-!
# What timers promise

A timer is somewhere in one place: in `timers_`, among the collected callbacks that are
left, or running. A one-shot timer is nowhere once its callback has run, and a periodic
one comes back to `timers_` unless its token is set. Tokens are set once and for all, and
no id is given out twice.
-/

namespace IotGateway.Net

def Phase.rest : Phase → List (Int × Timer)
  | .idle => []
  | .batch rest | .callback _ rest => rest

def Phase.current : Phase → List (Int × Timer)
  | .idle | .batch _ => []
  | .callback entry _ => [entry]

namespace Timers

/-- The timers that can still be started. -/
def held (s : Timers) : List (Int × Timer) := s.timers_.entries ++ s.phase.rest

/-- Those and the one that is running. -/
def pool (s : Timers) : List (Int × Timer) := s.held ++ s.phase.current

/-- What a step can do, without the timerfd. -/
inductive Moves (s : Timers) : Timers → Prop where
  | same (fd : TimerFd) : Moves s { s with timerFd_ := fd }
  | added (kind : TimerKind) (key : Int) (fd : TimerFd) (onTime : ∀ due, kind = .once due → key = due) :
    Moves s { s.issue kind with timers_ := s.timers_.emplace key ⟨s.nextTimerId_, kind⟩, timerFd_ := fd }
  | cancelled (id : TimerId) (known : id ∈ s.timerCancelTokens_) : Moves s (s.cancelTimer id)
  | collected (now : Int) (fd : TimerFd) (idle : s.phase = .idle) : Moves s { s.collect now with timerFd_ := fd }
  | ended (fd : TimerFd) (done : s.phase = .batch []) :
    Moves s { s with expiredTimers_ := [], phase := .idle, timerFd_ := fd }
  | started (entry : Int × Timer) (rest : List (Int × Timer)) (next : s.phase = .batch (entry :: rest))
    (uncancelled : entry.2.id ∉ s.cancelled) :
    Moves s
      { s with
        phase := .callback entry rest
        starts := ⟨entry.2.id, entry.1, s.now, s.batches⟩ :: s.starts }
  /-- A wrapper ends without scheduling its timer again. -/
  | finished (entry : Int × Timer) (rest : List (Int × Timer)) (tokens : List TimerId)
    (open_ : s.phase = .callback entry rest ∨ s.phase = .batch (entry :: rest))
    (past : ∀ interval, entry.2.kind = .every interval → entry.2.id ∈ s.cancelled)
    (kept : ∀ id, id ≠ entry.2.id → id ∈ s.timerCancelTokens_ → id ∈ tokens) (fewer : tokens ⊆ s.timerCancelTokens_) :
    Moves s { s with timerCancelTokens_ := tokens, phase := .batch rest }
  | renewed (entry : Int × Timer) (rest : List (Int × Timer)) (interval key : Int) (fd : TimerFd)
    (open_ : s.phase = .callback entry rest) (periodic : entry.2.kind = .every interval) :
    Moves s { s with timers_ := s.timers_.emplace key entry.2, timerFd_ := fd, phase := .batch rest }

theorem schedule_eq (s : Timers) (key : Int) (timer : Timer) (reading : Int) :
    ∃ fd, s.schedule key timer reading = { s with timers_ := s.timers_.emplace key timer, timerFd_ := fd } := by
  unfold schedule resetTimerFd
  dsimp only
  split
  · exact ⟨_, rfl⟩
  · exact ⟨_, rfl⟩

theorem moves_runAt (s : Timers) (due reading : Int) : Moves s (s.runAt due reading) := by
  obtain ⟨fd, same⟩ := schedule_eq (s.issue (.once due)) due ⟨s.nextTimerId_, .once due⟩ reading
  unfold runAt
  rw [same]
  exact .added (.once due) due fd fun _ once => TimerKind.once.inj once

theorem moves_runEvery (s : Timers) (interval now reading : Int) : Moves s (s.runEvery interval now reading) := by
  obtain ⟨fd, same⟩ := schedule_eq (s.issue (.every interval)) (now + interval) ⟨s.nextTimerId_, .every interval⟩ reading
  unfold runEvery
  rw [same]
  exact .added (.every interval) (now + interval) fd fun _ once => by cases once

theorem moves_wrapUp {s : Timers} {entry : Int × Timer} {rest : List (Int × Timer)}
    (open_ : s.phase = .callback entry rest ∨ s.phase = .batch (entry :: rest) ∧ entry.2.id ∈ s.cancelled) (now reading : Int) :
    Moves s { s.wrapUp entry.2 now reading with phase := .batch rest } := by
  unfold wrapUp
  cases kind : entry.2.kind with
  | once due =>
    refine .finished entry rest _ (open_.imp_right And.left) (fun interval every => ?_) (fun id other member => ?_)
      (List.filter_sublist.subset)
    · rw [kind] at every
      cases every
    · exact List.mem_filter.mpr ⟨member, by simpa using other⟩
  | every interval =>
    dsimp only
    split
    · rename_i set
      exact .finished entry rest _ (open_.imp_right And.left) (fun _ _ => set) (fun _ _ member => member) (List.Subset.refl _)
    · rename_i unset
      obtain ⟨fd, same⟩ := schedule_eq s (now + interval) entry.2 reading
      rw [same]
      exact .renewed entry rest interval (now + interval) fd (open_.resolve_right fun both => unset both.2) kind

theorem moves_proceed (s : Timers) (now reading : Int) : Moves s (s.proceed now reading) := by
  unfold proceed
  cases phase : s.phase with
  | idle => exact .same s.timerFd_
  | callback entry rest => exact moves_wrapUp (Or.inl phase) now reading
  | batch rest =>
    cases rest with
    | nil =>
      unfold endBatch resetTimerFd
      dsimp only
      split
      · exact .ended s.timerFd_ phase
      · exact .ended _ phase
    | cons entry rest =>
      dsimp only
      split
      · rename_i set
        exact moves_wrapUp (Or.inr ⟨phase, set⟩) now reading
      · rename_i unset
        exact .started entry rest phase unset

theorem moves_step (s : Timers) (e : Event) : Moves s (s.step e) := by
  cases e with
  | runAt due reading =>
    simp only [step]
    split
    · exact s.moves_runAt due reading
    · exact .same s.timerFd_
  | runAfter delay now reading =>
    simp only [step]
    split
    · exact s.moves_runAt (now + delay) reading
    · exact .same s.timerFd_
  | runEvery interval now reading =>
    simp only [step]
    split
    · exact s.moves_runEvery interval now reading
    · exact .same s.timerFd_
  | cancelTimer id =>
    simp only [step]
    split
    · by_cases known : id ∈ s.timerCancelTokens_
      · exact .cancelled id known
      · rw [cancelTimer, if_neg known]
        exact .same s.timerFd_
    · exact .same s.timerFd_
  | processTimers now =>
    simp only [step]
    split
    · rename_i idle
      exact .collected now s.timerFd_ idle
    · exact .same s.timerFd_
  | handleTimerRead now =>
    simp only [step, handleTimerRead]
    split
    · rename_i idle
      split
      · exact .collected now _ idle
      · exact .same s.timerFd_
    · exact .same s.timerFd_
  | proceed now reading => exact s.moves_proceed now reading
  | expire =>
    simp only [step]
    split
    · exact .same _
    · exact .same s.timerFd_

/-! ### Where timers are -/

/-- An entry of the pool is a timer that was issued, its token can be found or is set, and a one-shot timer stands
at its time. -/
structure Known (s : Timers) (entry : Int × Timer) : Prop where
  issued : entry.2 ∈ s.issued
  token : entry.2.id ∈ s.timerCancelTokens_ ∨ entry.2.id ∈ s.cancelled
  onTime : ∀ due, entry.2.kind = .once due → entry.1 = due

structure Sound (s : Timers) : Prop where
  idle : s.phase = .idle → s.expiredTimers_ = []
  nodup : (s.pool.map (·.2.id)).Nodup
  known : ∀ entry ∈ s.pool, Known s entry
  fresh : ∀ timer ∈ s.issued, timer.id < s.nextTimerId_
  unique : (s.issued.map Timer.id).Nodup
  tokens : ∀ id, id ∈ s.timerCancelTokens_ ∨ id ∈ s.cancelled → id < s.nextTimerId_
  periodic : ∀ timer ∈ s.issued, ∀ interval, timer.kind = .every interval → timer.id ∉ s.cancelled →
    timer ∈ s.pool.map Prod.snd

theorem sound_new : Sound {} where
  idle := fun _ => rfl
  nodup := List.nodup_nil
  known := fun _ member => absurd member List.not_mem_nil
  fresh := fun _ member => absurd member List.not_mem_nil
  unique := List.nodup_nil
  tokens := fun _ member => member.elim (fun here => absurd here List.not_mem_nil) fun here => absurd here List.not_mem_nil
  periodic := fun _ member => absurd member List.not_mem_nil

/-- A step that only moves timers between their places. -/
theorem Sound.rearranged {s s' : Timers} (sound : Sound s) (idle : s'.phase = .idle → s'.expiredTimers_ = [])
    (pool : s'.pool.Perm s.pool) (issued : s'.issued = s.issued) (next : s'.nextTimerId_ = s.nextTimerId_)
    (tokens : s'.timerCancelTokens_ = s.timerCancelTokens_) (cancelled : s'.cancelled = s.cancelled) : Sound s' where
  idle := idle
  nodup := (pool.map _).nodup_iff.mpr sound.nodup
  known := by
    intro entry member
    obtain ⟨known, token, onTime⟩ := sound.known entry (pool.mem_iff.mp member)
    exact ⟨issued ▸ known, by rw [tokens, cancelled]; exact token, onTime⟩
  fresh := by rw [issued, next]; exact sound.fresh
  unique := by rw [issued]; exact sound.unique
  tokens := by rw [tokens, cancelled, next]; exact sound.tokens
  periodic := by
    rw [issued, cancelled]
    intro timer member interval every unset
    exact (pool.map _).mem_iff.mpr (sound.periodic timer member interval every unset)

theorem pool_emplaced (s : Timers) (key : Int) (timer : Timer) (rest current : List (Int × Timer)) :
    ((s.timers_.emplace key timer).entries ++ rest ++ current).Perm ((key, timer) :: (s.timers_.entries ++ rest ++ current)) :=
  ((s.timers_.perm_emplace key timer).append_right rest).append_right current

theorem Sound.added {s : Timers} (sound : Sound s) (kind : TimerKind) (key : Int) (fd : TimerFd)
    (onTime : ∀ due, kind = .once due → key = due) :
    Sound { s.issue kind with timers_ := s.timers_.emplace key ⟨s.nextTimerId_, kind⟩, timerFd_ := fd } := by
  have pool := s.pool_emplaced key ⟨s.nextTimerId_, kind⟩ s.phase.rest s.phase.current
  have older : ∀ entry ∈ s.pool, entry.2.id < s.nextTimerId_ := fun entry member =>
    sound.fresh _ (sound.known entry member).issued
  exact
    { idle := sound.idle
      nodup := by
        refine (pool.map _).nodup_iff.mpr (List.nodup_cons.mpr ⟨fun member => ?_, sound.nodup⟩)
        obtain ⟨entry, inPool, same⟩ := List.mem_map.mp member
        exact absurd same (Nat.ne_of_lt (older entry inPool))
      known := by
        intro entry member
        rcases List.mem_cons.mp (pool.mem_iff.mp member) with rfl | old
        · exact ⟨List.mem_cons_self, Or.inl List.mem_cons_self, onTime⟩
        · obtain ⟨issued, token, onTime⟩ := sound.known entry old
          exact ⟨List.mem_cons_of_mem _ issued, token.imp_left (List.mem_cons_of_mem _), onTime⟩
      fresh := by
        intro timer member
        rcases List.mem_cons.mp member with rfl | old
        · exact Nat.lt_succ_self _
        · exact Nat.lt_succ_of_lt (sound.fresh timer old)
      unique := by
        refine List.nodup_cons.mpr ⟨fun member => ?_, sound.unique⟩
        obtain ⟨timer, old, same⟩ := List.mem_map.mp member
        exact absurd same (Nat.ne_of_lt (sound.fresh timer old))
      tokens := by
        rintro id (token | set)
        · rcases List.mem_cons.mp token with rfl | old
          · exact Nat.lt_succ_self _
          · exact Nat.lt_succ_of_lt (sound.tokens id (Or.inl old))
        · exact Nat.lt_succ_of_lt (sound.tokens id (Or.inr set))
      periodic := by
        intro timer member interval every unset
        refine (pool.map _).mem_iff.mpr ?_
        rcases List.mem_cons.mp member with rfl | old
        · exact List.mem_cons_self
        · exact List.mem_cons_of_mem _ (sound.periodic timer old interval every unset) }

theorem Sound.cancelled {s : Timers} (sound : Sound s) {id : TimerId} (known : id ∈ s.timerCancelTokens_) :
    Sound (s.cancelTimer id) := by
  rw [cancelTimer, if_pos known]
  exact
    { idle := sound.idle
      nodup := sound.nodup
      known := by
        intro entry member
        obtain ⟨issued, token, onTime⟩ := sound.known entry member
        refine ⟨issued, ?_, onTime⟩
        rcases eq_or_ne entry.2.id id with same | other
        · exact Or.inr (same ▸ List.mem_cons_self)
        · exact token.imp (fun here => List.mem_filter.mpr ⟨here, by simpa using other⟩) (List.mem_cons_of_mem _)
      fresh := sound.fresh
      unique := sound.unique
      tokens := by
        rintro other (token | set)
        · exact sound.tokens other (Or.inl (List.mem_of_mem_filter token))
        · rcases List.mem_cons.mp set with rfl | old
          · exact sound.tokens _ (Or.inl known)
          · exact sound.tokens other (Or.inr old)
      periodic := fun timer member interval every unset =>
        sound.periodic timer member interval every fun set => unset (List.mem_cons_of_mem _ set) }

/-- The entry whose wrapper is at work, at the head of the pool. -/
theorem pool_open {s : Timers} {entry : Int × Timer} {rest : List (Int × Timer)}
    (open_ : s.phase = .callback entry rest ∨ s.phase = .batch (entry :: rest)) :
    s.pool.Perm (entry :: (s.timers_.entries ++ rest)) := by
  unfold pool held
  rcases open_ with callback | batch
  · rw [callback]
    exact List.perm_append_singleton _ _
  · rw [batch]
    simp only [Phase.rest, Phase.current, List.append_nil]
    exact List.perm_middle

theorem pool_started {s : Timers} {entry : Int × Timer} {rest : List (Int × Timer)} (next : s.phase = .batch (entry :: rest))
    (starts : List Start) : (Timers.pool { s with phase := .callback entry rest, starts }).Perm s.pool := by
  have open_ : Timers.phase { s with phase := .callback entry rest, starts } = .callback entry rest := rfl
  exact (pool_open (Or.inl open_)).trans (pool_open (Or.inr next)).symm

theorem held_collected {s : Timers} (idle : s.phase = .idle) (nothing : s.expiredTimers_ = []) (now : Int) :
    ((s.timers_.later now).entries ++ (s.expiredTimers_ ++ s.timers_.due now)).Perm s.held := by
  rw [held, idle, nothing, List.nil_append, ← s.timers_.due_append_later now]
  simpa [Phase.rest] using List.perm_append_comm

theorem Sound.finished {s : Timers} (sound : Sound s) {entry : Int × Timer} {rest : List (Int × Timer)} {tokens : List TimerId}
    (open_ : s.phase = .callback entry rest ∨ s.phase = .batch (entry :: rest))
    (past : ∀ interval, entry.2.kind = .every interval → entry.2.id ∈ s.cancelled)
    (kept : ∀ id, id ≠ entry.2.id → id ∈ s.timerCancelTokens_ → id ∈ tokens) (fewer : tokens ⊆ s.timerCancelTokens_) :
    Sound { s with timerCancelTokens_ := tokens, phase := .batch rest } := by
  have pool := pool_open open_
  have left : Timers.pool { s with timerCancelTokens_ := tokens, phase := .batch rest } = s.timers_.entries ++ rest := by
    simp [Timers.pool, held, Phase.rest, Phase.current]
  have nodup := (pool.map (·.2.id)).nodup_iff.mp sound.nodup
  rw [List.map_cons, List.nodup_cons] at nodup
  exact
    { idle := fun idle => by cases idle
      nodup := by
        rw [left]
        exact nodup.2
      known := by
        rw [left]
        intro other member
        obtain ⟨issued, token, onTime⟩ := sound.known other (pool.mem_iff.mpr (List.mem_cons_of_mem _ member))
        have different : other.2.id ≠ entry.2.id := fun same => nodup.1 (List.mem_map.mpr ⟨other, member, same⟩)
        exact ⟨issued, token.imp_left (kept _ different), onTime⟩
      fresh := sound.fresh
      unique := sound.unique
      tokens := fun id here => sound.tokens id (here.imp_left (@fewer id))
      periodic := by
        rw [left]
        intro timer member interval every unset
        have before := (pool.map Prod.snd).mem_iff.mp (sound.periodic timer member interval every unset)
        rcases List.mem_cons.mp before with rfl | stays
        · exact absurd (past interval every) unset
        · exact stays }

theorem Sound.renewed {s : Timers} (sound : Sound s) {entry : Int × Timer} {rest : List (Int × Timer)} {interval : Int}
    (key : Int) (fd : TimerFd) (open_ : s.phase = .callback entry rest) (periodic : entry.2.kind = .every interval) :
    Sound { s with timers_ := s.timers_.emplace key entry.2, timerFd_ := fd, phase := .batch rest } := by
  have before := pool_open (Or.inl open_)
  have after : (Timers.pool { s with timers_ := s.timers_.emplace key entry.2, timerFd_ := fd, phase := .batch rest }).Perm
      ((key, entry.2) :: (s.timers_.entries ++ rest)) := by
    simpa [Timers.pool, held, Phase.rest, Phase.current] using s.pool_emplaced key entry.2 rest []
  exact
    { idle := fun idle => by cases idle
      nodup := (after.map _).nodup_iff.mpr ((before.map _).nodup_iff.mp sound.nodup)
      known := by
        intro other member
        rcases List.mem_cons.mp (after.mem_iff.mp member) with rfl | stays
        · obtain ⟨issued, token, -⟩ := sound.known entry (before.mem_iff.mpr List.mem_cons_self)
          refine ⟨issued, token, fun due once => ?_⟩
          rw [show entry.2.kind = _ from once] at periodic
          cases periodic
        · obtain ⟨issued, token, onTime⟩ := sound.known other (before.mem_iff.mpr (List.mem_cons_of_mem _ stays))
          exact ⟨issued, token, onTime⟩
      fresh := sound.fresh
      unique := sound.unique
      tokens := sound.tokens
      periodic := fun timer member interval every unset =>
        (after.map _).mem_iff.mpr ((before.map _).mem_iff.mp (sound.periodic timer member interval every unset)) }

theorem Sound.moves {s s' : Timers} (sound : Sound s) (move : Moves s s') : Sound s' := by
  cases move with
  | same fd => exact sound.rearranged sound.idle (List.Perm.refl _) rfl rfl rfl rfl
  | added kind key fd onTime => exact sound.added kind key fd onTime
  | cancelled id known => exact sound.cancelled known
  | collected now fd idle =>
    refine sound.rearranged (fun idle => by cases idle) ?_ rfl rfl rfl rfl
    have moved := held_collected idle (sound.idle idle) now
    simpa [pool, Phase.current, idle, held, collect, Phase.rest] using moved
  | ended fd done =>
    refine sound.rearranged (fun _ => rfl) ?_ rfl rfl rfl rfl
    simp [pool, held, Phase.rest, Phase.current, done]
  | started entry rest next uncancelled =>
    exact sound.rearranged (fun idle => by cases idle) (pool_started next _) rfl rfl rfl rfl
  | finished entry rest tokens open_ past kept fewer => exact sound.finished open_ past kept fewer
  | renewed entry rest interval key fd open_ periodic => exact sound.renewed key fd open_ periodic

/-! ### One batch -/

structure Batched (s : Timers) : Prop where
  rest : ∀ entry ∈ s.phase.rest, entry.1 ≤ s.now ∧ entry ∈ s.expiredTimers_
  current : ∀ entry ∈ s.phase.current, entry ∈ s.expiredTimers_
  sorted : s.phase.rest.Pairwise fun a b => a.1 ≤ b.1
  order : s.starts.Pairwise fun newer older => newer.batch = older.batch → older.due ≤ newer.due
  past : ∀ start ∈ s.starts, start.batch ≤ s.batches
  ahead : ∀ start ∈ s.starts, start.batch = s.batches → ∀ entry ∈ s.phase.rest, start.due ≤ entry.1

theorem batched_new : Batched {} where
  rest := fun _ member => absurd member List.not_mem_nil
  current := fun _ member => absurd member List.not_mem_nil
  sorted := List.Pairwise.nil
  order := List.Pairwise.nil
  past := fun _ member => absurd member List.not_mem_nil
  ahead := fun _ member => absurd member List.not_mem_nil

/-- A step within a batch that starts nothing. -/
theorem Batched.shrinks {s s' : Timers} (batched : Batched s) (rest : s'.phase.rest.Sublist s.phase.rest)
    (current : s'.phase.current ⊆ s.phase.current)
    (expired : s'.expiredTimers_ = s.expiredTimers_ ∨ s'.phase.rest = [] ∧ s'.phase.current = [])
    (now : s'.now = s.now) (starts : s'.starts = s.starts) (batches : s'.batches = s.batches) : Batched s' where
  rest := by
    intro entry member
    obtain ⟨due, collected⟩ := batched.rest entry (rest.subset member)
    rcases expired with same | ⟨nothing, -⟩
    · exact ⟨now ▸ due, same ▸ collected⟩
    · rw [nothing] at member
      cases member
  current := by
    intro entry member
    rcases expired with same | ⟨-, nothing⟩
    · exact same ▸ batched.current entry (current member)
    · rw [nothing] at member
      cases member
  sorted := batched.sorted.sublist rest
  order := by rw [starts]; exact batched.order
  past := by rw [starts, batches]; exact batched.past
  ahead := by
    rw [starts, batches]
    exact fun start member here entry left => batched.ahead start member here entry (rest.subset left)

theorem Batched.collected {s : Timers} (batched : Batched s) (nothing : s.expiredTimers_ = []) (now : Int) (fd : TimerFd) :
    Batched { s.collect now with timerFd_ := fd } := by
  have due : Phase.rest (.batch (s.expiredTimers_ ++ s.timers_.due now)) = s.timers_.due now := by
    rw [nothing]
    rfl
  exact
    { rest := by
        intro entry member
        have here : entry ∈ s.timers_.due now := due ▸ member
        exact ⟨Schedule.due_le entry here, member⟩
      current := fun _ member => absurd member List.not_mem_nil
      sorted := due.symm ▸ s.timers_.due_sorted now
      order := batched.order
      past := fun start member => Nat.le_succ_of_le (batched.past start member)
      ahead := fun start member here => absurd (batched.past start member) (by
        rw [show start.batch = s.batches + 1 from here]
        exact Nat.not_succ_le_self _) }

theorem Batched.started {s : Timers} (batched : Batched s) {entry : Int × Timer} {rest : List (Int × Timer)}
    (next : s.phase = .batch (entry :: rest)) :
    Batched
      { s with
        phase := .callback entry rest
        starts := ⟨entry.2.id, entry.1, s.now, s.batches⟩ :: s.starts } := by
  obtain ⟨restIn, -, sorted, order, past, ahead⟩ := batched
  rw [next] at restIn sorted ahead
  obtain ⟨least, tail⟩ := List.pairwise_cons.mp sorted
  exact
    { rest := fun other member => restIn other (List.mem_cons_of_mem _ member)
      current := by
        intro other member
        rw [List.mem_singleton.mp member]
        exact (restIn entry List.mem_cons_self).2
      sorted := tail
      order := List.pairwise_cons.mpr
        ⟨fun older member same => ahead older member same.symm entry List.mem_cons_self, order⟩
      past := by
        intro start member
        rcases List.mem_cons.mp member with rfl | old
        · exact le_rfl
        · exact past start old
      ahead := by
        intro start member here other left
        rcases List.mem_cons.mp member with rfl | old
        · exact least other left
        · exact ahead start old here other (List.mem_cons_of_mem _ left) }

theorem Batched.moves {s s' : Timers} (batched : Batched s) (sound : Sound s) (move : Moves s s') : Batched s' := by
  cases move with
  | same | added => exact batched.shrinks (List.Sublist.refl _) (List.Subset.refl _) (Or.inl rfl) rfl rfl rfl
  | cancelled id known =>
    rw [cancelTimer, if_pos known]
    exact batched.shrinks (List.Sublist.refl _) (List.Subset.refl _) (Or.inl rfl) rfl rfl rfl
  | collected now fd idle => exact batched.collected (sound.idle idle) now fd
  | ended fd done =>
    exact batched.shrinks (List.nil_sublist _) (List.nil_subset _) (Or.inr ⟨rfl, rfl⟩) rfl rfl rfl
  | started entry rest next uncancelled => exact batched.started next
  | finished entry rest tokens open_ past kept fewer =>
    refine batched.shrinks ?_ (List.nil_subset _) (Or.inl rfl) rfl rfl rfl
    rcases open_ with callback | batch
    · rw [callback]
      exact List.Sublist.refl _
    · rw [batch]
      exact List.sublist_cons_self _ _
  | renewed entry rest interval key fd open_ periodic =>
    refine batched.shrinks ?_ (List.nil_subset _) (Or.inl rfl) rfl rfl rfl
    rw [open_]
    exact List.Sublist.refl _

/-! ### One-shot timers -/

structure Counted (s : Timers) : Prop where
  starts : ∀ start ∈ s.starts, start.due ≤ start.now ∧
    ∃ timer ∈ s.issued, timer.id = start.id ∧ ∀ due, timer.kind = .once due → start.due = due
  past : ∀ start ∈ s.starts, ∀ entry ∈ s.held, entry.2.id = start.id → ∀ due, entry.2.kind ≠ .once due
  once : ∀ timer ∈ s.issued, ∀ due, timer.kind = .once due → s.starts.countP (·.id = timer.id) ≤ 1

theorem counted_new : Counted {} where
  starts := fun _ member => absurd member List.not_mem_nil
  past := fun _ member => absurd member List.not_mem_nil
  once := fun _ member => absurd member List.not_mem_nil

theorem Sound.timer_eq {s : Timers} (sound : Sound s) {first second : Timer} (here : first ∈ s.issued)
    (there : second ∈ s.issued) (same : first.id = second.id) : first = second :=
  List.inj_on_of_nodup_map sound.unique here there same

/-- A step that starts nothing and puts no one-shot timer back. -/
theorem Counted.of_held {s s' : Timers} (counted : Counted s)
    (held : ∀ entry ∈ s'.held, entry ∈ s.held ∨ ∀ due, entry.2.kind ≠ .once due) (issued : s'.issued = s.issued)
    (starts : s'.starts = s.starts) : Counted s' where
  starts := by rw [starts, issued]; exact counted.starts
  past := by
    rw [starts]
    intro start member entry here same
    exact (held entry here).elim (fun before => counted.past start member entry before same) id
  once := by rw [starts, issued]; exact counted.once

theorem Counted.added {s : Timers} (counted : Counted s) (sound : Sound s) (kind : TimerKind) (key : Int) (fd : TimerFd) :
    Counted { s.issue kind with timers_ := s.timers_.emplace key ⟨s.nextTimerId_, kind⟩, timerFd_ := fd } := by
  have older : ∀ start ∈ s.starts, start.id < s.nextTimerId_ := by
    intro start member
    obtain ⟨-, timer, issued, same, -⟩ := counted.starts start member
    exact same ▸ sound.fresh timer issued
  exact
    { starts := by
        intro start member
        obtain ⟨due, timer, issued, same, once⟩ := counted.starts start member
        exact ⟨due, timer, List.mem_cons_of_mem _ issued, same, once⟩
      past := by
        intro start member entry here same
        have held := ((s.timers_.perm_emplace key ⟨s.nextTimerId_, kind⟩).append_right s.phase.rest).mem_iff.mp here
        rcases List.mem_cons.mp held with rfl | before
        · exact absurd same.symm (Nat.ne_of_lt (older start member))
        · exact counted.past start member entry before same
      once := by
        intro timer member due once
        rcases List.mem_cons.mp member with rfl | old
        · rw [List.countP_eq_zero.mpr]
          · exact Nat.zero_le 1
          · exact fun start here => by simpa using Nat.ne_of_lt (older start here)
        · exact counted.once timer old due once }

theorem Counted.started {s : Timers} (counted : Counted s) (sound : Sound s) (batched : Batched s) {entry : Int × Timer}
    {rest : List (Int × Timer)} (next : s.phase = .batch (entry :: rest)) :
    Counted
      { s with
        phase := .callback entry rest
        starts := ⟨entry.2.id, entry.1, s.now, s.batches⟩ :: s.starts } := by
  have pool := pool_open (Or.inr next)
  have here : entry ∈ s.held := by
    unfold held
    rw [next]
    exact List.mem_append_right _ List.mem_cons_self
  have nodup := (pool.map (·.2.id)).nodup_iff.mp sound.nodup
  rw [List.map_cons, List.nodup_cons] at nodup
  obtain ⟨issued, -, onTime⟩ := sound.known entry (List.mem_append_left _ here)
  have due : entry.1 ≤ s.now := (batched.rest entry (by rw [next]; exact List.mem_cons_self)).1
  exact
    { starts := by
        intro start member
        rcases List.mem_cons.mp member with rfl | old
        · exact ⟨due, entry.2, issued, rfl, onTime⟩
        · exact counted.starts start old
      past := by
        intro start member other left same
        rcases List.mem_cons.mp member with rfl | old
        · exact absurd (List.mem_map.mpr ⟨other, left, same⟩) nodup.1
        · refine counted.past start old other ?_ same
          unfold held
          rw [next]
          exact (List.append_subset.mpr ⟨List.subset_append_left _ _,
            List.subset_append_of_subset_right _ (List.subset_cons_self _ _)⟩) left
      once := by
        intro timer member time once
        rw [List.countP_cons]
        dsimp only
        rcases eq_or_ne entry.2.id timer.id with same | other
        · have none : s.starts.countP (·.id = timer.id) = 0 := by
            rw [List.countP_eq_zero]
            intro start old
            obtain rfl := sound.timer_eq issued member same
            simpa using fun here' : start.id = entry.2.id => counted.past start old entry here here'.symm time once
          rw [none]
          split <;> omega
        · rw [if_neg (by simpa using other)]
          exact counted.once timer member time once }

theorem Counted.moves {s s' : Timers} (counted : Counted s) (sound : Sound s) (batched : Batched s) (move : Moves s s') :
    Counted s' := by
  cases move with
  | same fd => exact counted.of_held (fun _ here => Or.inl here) rfl rfl
  | added kind key fd onTime => exact counted.added sound kind key fd
  | cancelled id known =>
    rw [cancelTimer, if_pos known]
    exact counted.of_held (fun _ here => Or.inl here) rfl rfl
  | collected now fd idle =>
    exact counted.of_held (fun entry here => Or.inl ((held_collected idle (sound.idle idle) now).mem_iff.mp here)) rfl rfl
  | ended fd done =>
    refine counted.of_held (fun entry here => Or.inl ?_) rfl rfl
    simpa [held, Phase.rest, done] using here
  | started entry rest next uncancelled => exact counted.started sound batched next
  | finished entry rest tokens open_ past kept fewer =>
    refine counted.of_held (fun other here => Or.inl ?_) rfl rfl
    refine (List.mem_append.mp here).elim (List.mem_append_left _) fun left => List.mem_append_right _ ?_
    rcases open_ with callback | batch
    · rw [callback]
      exact left
    · rw [batch]
      exact List.mem_cons_of_mem _ left
  | renewed entry rest interval key fd open_ periodic =>
    refine counted.of_held (fun other here => ?_) rfl rfl
    have perm := (s.timers_.perm_emplace key entry.2).append_right rest
    rcases List.mem_cons.mp (perm.mem_iff.mp here) with rfl | stays
    · right
      intro due once
      rw [show entry.2.kind = _ from once] at periodic
      cases periodic
    · left
      unfold held
      rw [open_]
      exact stays

/-! ### Cancellation -/

/-- The id was given out, and its timer will not be started any more. -/
def Dead (s : Timers) (id : TimerId) : Prop :=
  id < s.nextTimerId_ ∧ (id ∈ s.cancelled ∨ ∀ entry ∈ s.pool, entry.2.id ≠ id)

def startsOf (s : Timers) (id : TimerId) : List Start := s.starts.filter (·.id = id)

theorem dead_cancelTimer {s : Timers} (sound : Sound s) {timer : Timer} (issued : timer ∈ s.issued) :
    Dead (s.cancelTimer timer.id) timer.id := by
  unfold cancelTimer
  split
  · exact ⟨sound.fresh timer issued, Or.inl List.mem_cons_self⟩
  · rename_i unknown
    refine ⟨sound.fresh timer issued, ?_⟩
    by_cases set : timer.id ∈ s.cancelled
    · exact Or.inl set
    · refine Or.inr fun entry member same => ?_
      rcases (sound.known entry member).token with token | cancelled
      · exact unknown (same ▸ token)
      · exact set (same ▸ cancelled)

theorem Dead.of_pool {s s' : Timers} {id : TimerId} (dead : Dead s id) (next : s.nextTimerId_ ≤ s'.nextTimerId_)
    (cancelled : s.cancelled ⊆ s'.cancelled)
    (pool : ∀ entry ∈ s'.pool, entry.2.id = s.nextTimerId_ ∨ ∃ before ∈ s.pool, before.2.id = entry.2.id) : Dead s' id := by
  obtain ⟨old, gone⟩ := dead
  refine ⟨Nat.lt_of_lt_of_le old next, gone.imp (@cancelled id) fun absent entry member same => ?_⟩
  rcases pool entry member with new | ⟨before, here, equal⟩
  · exact absurd (same.symm.trans new) (Nat.ne_of_lt old)
  · exact absent before here (equal.trans same)

/-- A step never starts a dead timer. -/
theorem Dead.moves {s s' : Timers} {id : TimerId} (dead : Dead s id) (sound : Sound s) (move : Moves s s') :
    Dead s' id ∧ s'.startsOf id = s.startsOf id := by
  cases move with
  | same fd => exact ⟨dead, rfl⟩
  | added kind key fd onTime =>
    refine ⟨dead.of_pool (Nat.le_succ _) (List.Subset.refl _) fun entry member => ?_, rfl⟩
    have pool := s.pool_emplaced key ⟨s.nextTimerId_, kind⟩ s.phase.rest s.phase.current
    rcases List.mem_cons.mp (pool.mem_iff.mp member) with rfl | old
    · exact Or.inl rfl
    · exact Or.inr ⟨entry, old, rfl⟩
  | cancelled other known =>
    rw [cancelTimer, if_pos known]
    exact ⟨dead.of_pool le_rfl (List.subset_cons_self _ _) fun entry member => Or.inr ⟨entry, member, rfl⟩, rfl⟩
  | collected now fd idle =>
    refine ⟨dead.of_pool le_rfl (List.Subset.refl _) fun entry member => Or.inr ⟨entry, ?_, rfl⟩, rfl⟩
    have here := (List.mem_append.mp member).resolve_right List.not_mem_nil
    exact List.mem_append_left _ ((held_collected idle (sound.idle idle) now).mem_iff.mp here)
  | ended fd done =>
    refine ⟨dead.of_pool le_rfl (List.Subset.refl _) fun entry member => Or.inr ⟨entry, ?_, rfl⟩, rfl⟩
    simpa [pool, held, Phase.rest, Phase.current, done] using member
  | started entry rest next uncancelled =>
    have perm := pool_open (Or.inr next)
    have here : entry ∈ s.pool := perm.mem_iff.mpr List.mem_cons_self
    have other : entry.2.id ≠ id := by
      rintro rfl
      exact dead.2.elim uncancelled fun absent => absent entry here rfl
    refine ⟨dead.of_pool le_rfl (List.Subset.refl _) fun before member => Or.inr ⟨before, ?_, rfl⟩, ?_⟩
    · exact (pool_started next _).mem_iff.mp member
    · simp [startsOf, other]
  | finished entry rest tokens open_ past kept fewer =>
    refine ⟨dead.of_pool le_rfl (List.Subset.refl _) fun before member => Or.inr ⟨before, ?_, rfl⟩, rfl⟩
    refine (pool_open open_).mem_iff.mpr (List.mem_cons_of_mem _ ?_)
    simpa [pool, held, Phase.rest, Phase.current] using member
  | renewed entry rest interval key fd open_ periodic =>
    have perm := pool_open (Or.inl open_)
    refine ⟨dead.of_pool le_rfl (List.Subset.refl _) fun other member => Or.inr ?_, rfl⟩
    have after := s.pool_emplaced key entry.2 rest []
    rcases List.mem_cons.mp (after.mem_iff.mp member) with rfl | stays
    · exact ⟨entry, perm.mem_iff.mpr List.mem_cons_self, rfl⟩
    · exact ⟨other, perm.mem_iff.mpr (List.mem_cons_of_mem _ (by simpa using stays)), rfl⟩

/-! ### Runs -/

structure Regular (s : Timers) : Prop where
  sound : Sound s
  batched : Batched s
  counted : Counted s

theorem Regular.step {s : Timers} (regular : Regular s) (e : Event) : Regular (s.step e) where
  sound := regular.sound.moves (s.moves_step e)
  batched := regular.batched.moves regular.sound (s.moves_step e)
  counted := regular.counted.moves regular.sound regular.batched (s.moves_step e)

theorem regular_run (events : List Event) : Regular (run step {} events) :=
  run_kept step Regular ⟨sound_new, batched_new, counted_new⟩ (fun _ e regular => regular.step e) events

theorem Dead.run {s : Timers} {id : TimerId} (dead : Dead s id) (sound : Sound s) (events : List Event) :
    (run step s events).startsOf id = s.startsOf id := by
  induction events generalizing s with
  | nil => rfl
  | cons e events ih =>
    obtain ⟨still, same⟩ := dead.moves sound (s.moves_step e)
    rw [run_cons, ih still (sound.moves (s.moves_step e)), same]

/-- Exactly one entry of `timers_` is that of an uncancelled periodic timer which is not in the batch. -/
theorem Regular.one_entry {s : Timers} (regular : Regular s) {timer : Timer} {interval : Int} (issued : timer ∈ s.issued)
    (every : timer.kind = .every interval) (unset : timer.id ∉ s.cancelled)
    (outside : timer ∉ s.expiredTimers_.map Prod.snd) : s.timers_.entries.countP (·.2.id = timer.id) = 1 := by
  obtain ⟨entry, member, rfl⟩ := List.mem_map.mp (regular.sound.periodic timer issued interval every unset)
  have queued : entry ∈ s.timers_.entries := by
    rcases List.mem_append.mp member with held | current
    · refine (List.mem_append.mp held).resolve_right fun rest => ?_
      exact outside (List.mem_map_of_mem (regular.batched.rest entry rest).2)
    · exact absurd (List.mem_map_of_mem (regular.batched.current entry current)) outside
  have nodup : (s.timers_.entries.map (·.2.id)).Nodup := by
    have all := regular.sound.nodup
    rw [pool, held, List.append_assoc, List.map_append] at all
    exact all.of_append_left
  have count : (s.timers_.entries.map (·.2.id)).count entry.2.id = 1 :=
    List.count_eq_one_of_mem nodup (List.mem_map_of_mem queued)
  rw [List.count, List.countP_map] at count
  simpa only [Function.comp_def, beq_eq_decide] using count

/-- After `cancelTimer` has returned the callback of its timer is never started again. A one-shot callback is started
at most once, and not before its time. Outside of the batch that contains it an uncancelled periodic timer has exactly
one entry. The callbacks of a batch are started in the order of their times. -/
theorem timers_as_promised (events : List Event) :
    let s := run step {} events
    (∀ timer ∈ s.issued, s.mayCall = true → ∀ more,
      (run step (s.step (.cancelTimer timer.id)) more).startsOf timer.id = s.startsOf timer.id) ∧
    (∀ timer ∈ s.issued, ∀ due, timer.kind = .once due →
      (s.startsOf timer.id).length ≤ 1 ∧ ∀ start ∈ s.startsOf timer.id, due ≤ start.now) ∧
    (∀ timer ∈ s.issued, ∀ interval, timer.kind = .every interval → timer.id ∉ s.cancelled →
      timer ∉ s.expiredTimers_.map Prod.snd → s.timers_.entries.countP (·.2.id = timer.id) = 1) ∧
    s.starts.Pairwise fun newer older => newer.batch = older.batch → older.due ≤ newer.due := by
  intro s
  have regular : Regular s := regular_run events
  refine ⟨fun timer issued may more => ?_, fun timer issued due once => ⟨?_, fun start member => ?_⟩,
    fun timer issued interval every unset outside => regular.one_entry issued every unset outside, regular.batched.order⟩
  · have cancels : s.step (.cancelTimer timer.id) = s.cancelTimer timer.id := if_pos may
    have same : (s.cancelTimer timer.id).startsOf timer.id = s.startsOf timer.id := by
      unfold cancelTimer
      split <;> rfl
    rw [cancels, ← same]
    exact (dead_cancelTimer regular.sound issued).run (cancels ▸ (regular.step (.cancelTimer timer.id)).sound) more
  · rw [startsOf, ← List.countP_eq_length_filter]
    exact regular.counted.once timer issued due once
  · obtain ⟨here, same⟩ := List.mem_filter.mp member
    obtain ⟨inTime, other, issued', equal, onTime⟩ := regular.counted.starts start here
    obtain rfl := regular.sound.timer_eq issued issued' (by simpa using (equal.trans (by simpa using same)).symm)
    rw [← onTime due once]
    exact inTime

end Timers
end IotGateway.Net
