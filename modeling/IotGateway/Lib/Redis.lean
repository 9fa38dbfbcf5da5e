import IotGateway.Lib.Text
import Mathlib.Data.List.AList
import Mathlib.Data.Prod.Lex

/-!
# The store

The part of Redis that the gateways rely on, over arbitrary types of fields, values and
consumers: hashes whose key may expire, streams read through one consumer group, and
sorted sets. Times are natural numbers.
-/

namespace IotGateway.Redis

/-! ### Hashes -/

section Hash

variable {φ ν : Type} [DecidableEq φ]

/-- A hash key. The key exists while it has fields, and only then can it carry an expiry time. -/
structure Hash (φ ν : Type) [DecidableEq φ] where
  fields : AList fun _ : φ => ν
  expireAt : Option Nat
  expiry_of_key : fields = ∅ → expireAt = none

namespace Hash

def empty : Hash φ ν := ⟨∅, none, fun _ => rfl⟩

def expired (h : Hash φ ν) (now : Nat) : Bool :=
  match h.expireAt with
  | none => false
  | some time => time < now

def live (h : Hash φ ν) (now : Nat) : Hash φ ν := if h.expired now then empty else h

def get (h : Hash φ ν) (now : Nat) (field : φ) : Option ν := (h.live now).fields.lookup field

/-- `HGETALL`, without the values. -/
def fieldNames (h : Hash φ ν) (now : Nat) : List φ := (h.live now).fields.keys

/-- `HSET`, which keeps the expiry time of the key. -/
def set (h : Hash φ ν) (now : Nat) (field : φ) (value : ν) : Hash φ ν where
  fields := (h.live now).fields.insert field value
  expireAt := (h.live now).expireAt
  expiry_of_key := by
    intro nothing
    have member : field ∈ (h.live now).fields.insert field value := AList.mem_insert _ |>.mpr (Or.inl rfl)
    rw [nothing] at member
    exact absurd member (AList.notMem_empty field)

/-- `HDEL` of one field. The key goes with its last field. -/
def erase (h : Hash φ ν) (now : Nat) (field : φ) : Hash φ ν where
  fields := (h.live now).fields.erase field
  expireAt := if ((h.live now).fields.erase field).keys = [] then none else (h.live now).expireAt
  expiry_of_key := by
    intro nothing
    rw [nothing]
    rfl

def eraseAll (h : Hash φ ν) (now : Nat) (fields : List φ) : Hash φ ν := fields.foldl (·.erase now ·) (h.live now)

/-- `EXPIRE`, which does nothing to a key that does not exist. -/
def expire (h : Hash φ ν) (now ttl : Nat) : Hash φ ν where
  fields := (h.live now).fields
  expireAt := if (h.live now).fields.keys = [] then none else some (now + ttl)
  expiry_of_key := by
    intro nothing
    rw [nothing]
    rfl

/-! #### What a field needs to survive -/

theorem live_of_not_expired {h : Hash φ ν} {now : Nat} (alive : h.expired now = false) : h.live now = h := by
  simp [live, alive]

theorem expired_iff {h : Hash φ ν} {now : Nat} : h.expired now = true ↔ ∃ time, h.expireAt = some time ∧ time < now := by
  unfold expired
  cases h.expireAt with
  | none => simp
  | some time => simp

theorem mem_fieldNames {h : Hash φ ν} {now : Nat} {field : φ} :
    field ∈ h.fieldNames now ↔ h.expired now = false ∧ field ∈ h.fields := by
  unfold fieldNames live
  rw [← AList.mem_keys]
  cases h.expired now with
  | false => simp
  | true => simp [empty]

theorem mem_live {h : Hash φ ν} {now : Nat} {field : φ} :
    field ∈ (h.live now).fields ↔ h.expired now = false ∧ field ∈ h.fields :=
  AList.mem_keys.trans mem_fieldNames

@[simp] theorem mem_set {h : Hash φ ν} {now : Nat} {field other : φ} {value : ν} :
    other ∈ (h.set now field value).fields ↔ other = field ∨ other ∈ (h.live now).fields := AList.mem_insert _

@[simp] theorem mem_erase {h : Hash φ ν} {now : Nat} {field other : φ} :
    other ∈ (h.erase now field).fields ↔ other ≠ field ∧ other ∈ (h.live now).fields := AList.mem_erase

@[simp] theorem mem_expire {h : Hash φ ν} {now ttl : Nat} {field : φ} :
    field ∈ (h.expire now ttl).fields ↔ field ∈ (h.live now).fields := Iff.rfl

theorem live_alive (h : Hash φ ν) (now : Nat) : (h.live now).expired now = false := by
  unfold live
  cases alive : h.expired now with
  | false => simpa using alive
  | true => simp [empty, expired]

theorem set_alive (h : Hash φ ν) (now : Nat) (field : φ) (value : ν) : (h.set now field value).expired now = false :=
  h.live_alive now

omit [DecidableEq φ] in
theorem keys_ne_nil_of_mem {s : AList fun _ : φ => ν} {field : φ} (member : field ∈ s) : s.keys ≠ [] := by
  intro nothing
  rw [AList.mem_keys, nothing] at member
  exact absurd member List.not_mem_nil

theorem expireAt_expire_of_mem {h : Hash φ ν} {now ttl : Nat} {field : φ} (member : field ∈ (h.live now).fields) :
    (h.expire now ttl).expireAt = some (now + ttl) := if_neg (keys_ne_nil_of_mem member)

theorem expireAt_set_expire (h : Hash φ ν) (now ttl : Nat) (field : φ) (value : ν) :
    ((h.set now field value).expire now ttl).expireAt = some (now + ttl) := by
  have member : field ∈ ((h.set now field value).live now).fields := by
    rw [live_of_not_expired (h.set_alive now field value)]
    exact mem_set.mpr (Or.inl rfl)
  exact expireAt_expire_of_mem member

theorem mem_set_expire {h : Hash φ ν} {now ttl : Nat} {field other : φ} {value : ν} :
    other ∈ ((h.set now field value).expire now ttl).fields ↔ other = field ∨ other ∈ (h.live now).fields := by
  rw [mem_expire, live_of_not_expired (h.set_alive now field value), mem_set]

theorem erase_alive (h : Hash φ ν) (now : Nat) (field : φ) : (h.erase now field).expired now = false := by
  have alive := h.live_alive now
  unfold erase
  unfold expired at alive ⊢
  dsimp only
  split <;> rename_i time
  · rfl
  · split at time
    · cases time
    · rw [time] at alive
      exact alive

theorem mem_foldl_erase {h : Hash φ ν} {now : Nat} {fields : List φ} {other : φ} (alive : h.expired now = false) :
    other ∈ (fields.foldl (·.erase now ·) h).fields ↔ other ∉ fields ∧ other ∈ h.fields := by
  induction fields generalizing h with
  | nil => simp
  | cons field fields ih =>
    rw [List.foldl_cons, ih (h.erase_alive now field), mem_erase, live_of_not_expired alive, List.mem_cons]
    tauto

theorem mem_eraseAll {h : Hash φ ν} {now : Nat} {fields : List φ} {other : φ} :
    other ∈ (h.eraseAll now fields).fields ↔ other ∉ fields ∧ other ∈ (h.live now).fields :=
  mem_foldl_erase (h.live_alive now)

theorem eraseAll_alive (h : Hash φ ν) (now : Nat) (fields : List φ) : (h.eraseAll now fields).expired now = false := by
  have loop : ∀ h : Hash φ ν, h.expired now = false → (fields.foldl (·.erase now ·) h).expired now = false := by
    induction fields with
    | nil => exact fun h alive => alive
    | cons field fields ih => exact fun h _ => ih (h.erase now field) (h.erase_alive now field)
  exact loop (h.live now) (h.live_alive now)

theorem expireAt_foldl_erase {h : Hash φ ν} {now : Nat} {fields : List φ} {other : φ} (alive : h.expired now = false)
    (member : other ∈ (fields.foldl (·.erase now ·) h).fields) :
    (fields.foldl (·.erase now ·) h).expireAt = h.expireAt := by
  induction fields generalizing h with
  | nil => rfl
  | cons field fields ih =>
    rw [List.foldl_cons] at member ⊢
    have left : other ∈ (h.erase now field).fields := ((mem_foldl_erase (h.erase_alive now field)).mp member).2
    rw [ih (h.erase_alive now field) member]
    rw [show (h.erase now field).expireAt = _ from if_neg (keys_ne_nil_of_mem left), live_of_not_expired alive]

theorem expireAt_eraseAll_of_mem {h : Hash φ ν} {now : Nat} {fields : List φ} {other : φ}
    (member : other ∈ (h.eraseAll now fields).fields) : (h.eraseAll now fields).expireAt = (h.live now).expireAt :=
  expireAt_foldl_erase (h.live_alive now) member

/-! #### What a field holds -/

@[simp] theorem get_empty (now : Nat) (field : φ) : (empty : Hash φ ν).get now field = none := by
  simp [get, live, empty, expired]

theorem get_set_self (h : Hash φ ν) (now : Nat) (field : φ) (value : ν) :
    (h.set now field value).get now field = some value := by
  rw [get, live_of_not_expired (h.set_alive now field value)]
  exact AList.lookup_insert _

theorem get_set_ne (h : Hash φ ν) (now : Nat) {field other : φ} (value : ν) (different : other ≠ field) :
    (h.set now field value).get now other = h.get now other := by
  rw [get, live_of_not_expired (h.set_alive now field value)]
  exact AList.lookup_insert_ne different

theorem get_expire (h : Hash φ ν) (now ttl : Nat) (field : φ) : (h.expire now ttl).get now field = h.get now field := by
  have alive : (h.expire now ttl).expired now = false := by
    unfold expired expire
    dsimp only
    split
    · rfl
    · rename_i time expiry
      split at expiry
      · cases expiry
      · cases expiry
        exact decide_eq_false (by omega)
  rw [get, live_of_not_expired alive]
  rfl

theorem get_erase_self (h : Hash φ ν) (now : Nat) (field : φ) : (h.erase now field).get now field = none := by
  rw [get, live_of_not_expired (h.erase_alive now field)]
  exact AList.lookup_erase _ _

theorem get_erase_ne (h : Hash φ ν) (now : Nat) {field other : φ} (different : other ≠ field) :
    (h.erase now field).get now other = h.get now other := by
  rw [get, live_of_not_expired (h.erase_alive now field)]
  exact AList.lookup_erase_ne different

theorem get_eraseAll_single (h : Hash φ ν) (now : Nat) {field other : φ} (different : other ≠ field) :
    (h.eraseAll now [field]).get now other = h.get now other := by
  have same : (h.live now).get now other = h.get now other := by
    rw [get, get, live_of_not_expired (h.live_alive now)]
  exact (get_erase_ne (h.live now) now different).trans same

theorem persistent_live {h : Hash φ ν} (persistent : h.expireAt = none) (now : Nat) : h.live now = h :=
  live_of_not_expired (by simp [expired, persistent])

theorem get_of_persistent {h : Hash φ ν} (persistent : h.expireAt = none) (now : Nat) (field : φ) :
    h.get now field = h.fields.lookup field := by
  rw [get, persistent_live persistent]

theorem persistent_set {h : Hash φ ν} (persistent : h.expireAt = none) (now : Nat) (field : φ) (value : ν) :
    (h.set now field value).expireAt = none := by
  show (h.live now).expireAt = none
  rw [persistent_live persistent, persistent]

theorem persistent_erase {h : Hash φ ν} (persistent : h.expireAt = none) (now : Nat) (field : φ) :
    (h.erase now field).expireAt = none := by
  show (if ((h.live now).fields.erase field).keys = [] then none else (h.live now).expireAt) = none
  rw [persistent_live persistent, persistent, ite_self]

theorem persistent_eraseAll {h : Hash φ ν} (persistent : h.expireAt = none) (now : Nat) (fields : List φ) :
    (h.eraseAll now fields).expireAt = none := by
  have loop : ∀ h : Hash φ ν, h.expireAt = none → (fields.foldl (·.erase now ·) h).expireAt = none := by
    induction fields with
    | nil => exact fun h none => none
    | cons field fields ih => exact fun h none => ih (h.erase now field) (persistent_erase none now field)
  exact loop (h.live now) (by rw [persistent_live persistent, persistent])

/-! #### Values that are kept as long as the key is written -/

/-- A write that extends the life of the whole key, or `DEL` of the key. -/
inductive Edit (φ ν : Type) where
  | put (time : Nat) (field : φ) (value : ν)
  | clear

/-- `HSET` with `EXPIRE` behind it, or `DEL`. -/
def edit (ttl : Nat) (h : Hash φ ν) : Edit φ ν → Hash φ ν
  | .put time field value => (h.set time field value).expire time ttl
  | .clear => empty

/-- What a field holds after a history of edits, the last one first: its last value, unless there is a `DEL` in between,
or a time longer than the life of the key in which nothing was written to any of its fields. -/
def lastKept (ttl now : Nat) (field : φ) : List (Edit φ ν) → Option ν
  | [] => none
  | .clear :: _ => none
  | .put time other value :: earlier =>
    if time + ttl < now then none else if other = field then some value else lastKept ttl time field earlier

theorem get_set_expire (h : Hash φ ν) (time ttl now : Nat) (other field : φ) (value : ν) :
    ((h.set time other value).expire time ttl).get now field =
      if time + ttl < now then none else if other = field then some value else h.get time field := by
  have life := expireAt_set_expire h time ttl other value
  by_cases late : time + ttl < now
  · have gone : ((h.set time other value).expire time ttl).expired now = true := expired_iff.mpr ⟨_, life, late⟩
    rw [if_pos late, get, live, if_pos gone]
    exact AList.lookup_empty field
  · have alive : ((h.set time other value).expire time ttl).expired now = false := by
      apply Bool.eq_false_iff.mpr
      intro gone
      obtain ⟨end_, same, passed⟩ := expired_iff.mp gone
      rw [life] at same
      cases same
      exact late passed
    rw [if_neg late, get, live_of_not_expired alive]
    show ((h.set time other value).live time).fields.lookup field = _
    rw [live_of_not_expired (h.set_alive time other value)]
    by_cases same : other = field
    · rw [if_pos same, ← same]
      exact AList.lookup_insert _
    · rw [if_neg same]
      exact AList.lookup_insert_ne (Ne.symm same)

theorem get_edits (ttl now : Nat) (field : φ) (edits : List (Edit φ ν)) :
    (edits.foldl (edit ttl) empty).get now field = lastKept ttl now field edits.reverse := by
  rw [← List.foldr_reverse]
  induction edits.reverse generalizing now with
  | nil => exact get_empty now field
  | cons e earlier ih =>
    cases e with
    | clear => exact get_empty now field
    | put time other value =>
      rw [List.foldr_cons, edit, get_set_expire, ih, lastKept]

end Hash
end Hash

/-! ### Streams -/

abbrev StreamId := Nat ×ₗ Nat

namespace StreamId

def text (id : StreamId) : Bytes :=
  Text.decimalNat (ofLex id).1 ++ [45] ++ Text.decimalNat (ofLex id).2

theorem text_ne_nil (id : StreamId) : id.text ≠ [] := by simp [text]

theorem text_no_nul (id : StreamId) : 0 ∉ id.text := by
  have digits : ∀ n, (0 : UInt8) ∉ Text.decimalNat n := fun n member => absurd (Text.decimalNat_digits n 0 member) (by decide)
  simp [text, digits]

theorem text_injective {a b : StreamId} (same : a.text = b.text) : a = b := by
  have digits : ∀ n, (45 : UInt8) ∉ Text.decimalNat n := fun n member => absurd (Text.decimalNat_digits n 45 member) (by decide)
  have aligned : Text.decimalNat (ofLex a).1 ++ 45 :: Text.decimalNat (ofLex a).2 =
      Text.decimalNat (ofLex b).1 ++ 45 :: Text.decimalNat (ofLex b).2 := by
    simpa [text] using same
  have first : (ofLex a).1 = (ofLex b).1 := by
    apply Text.decimalNat_injective
    exact (Text.prefix_of_separated (digits _) (digits _) (by rw [aligned])).1
  have second : (ofLex a).2 = (ofLex b).2 := by
    apply Text.decimalNat_injective
    simpa [first] using aligned
  exact congrArg toLex (Prod.ext first second)

end StreamId

section Stream

variable {φ κ : Type}

structure Entry (φ : Type) where
  id : StreamId
  fields : φ

/-- A consumer group: how many entries were handed out, and which of them are not acknowledged. -/
structure Group (κ : Type) where
  delivered : Nat
  pending : List (StreamId × κ)

/-- A stream with its one consumer group. Identifiers grow from entry to entry. -/
structure Stream (φ κ : Type) where
  entries : List (Entry φ)
  lastId : StreamId
  group : Option (Group κ)
  ordered : entries.Pairwise fun a b => a.id < b.id
  bounded : ∀ e ∈ entries, e.id ≤ lastId
  delivered_le : ∀ g ∈ group, g.delivered ≤ entries.length

namespace Stream

def empty : Stream φ κ := ⟨[], toLex (0, 0), none, List.Pairwise.nil, by simp, by simp⟩

def nextId (s : Stream φ κ) (millis : Nat) : StreamId :=
  if (ofLex s.lastId).1 < millis then toLex (millis, 0)
  else toLex ((ofLex s.lastId).1, (ofLex s.lastId).2 + 1)

theorem lastId_lt_nextId (s : Stream φ κ) (millis : Nat) : s.lastId < s.nextId millis := by
  unfold nextId
  rw [Prod.Lex.lt_iff]
  split
  · rename_i later
    exact Or.inl later
  · exact Or.inr ⟨rfl, Nat.lt_succ_self _⟩

/-- `XADD` with an identifier chosen by the server. -/
def add (s : Stream φ κ) (millis : Nat) (fields : φ) : Stream φ κ where
  entries := s.entries ++ [⟨s.nextId millis, fields⟩]
  lastId := s.nextId millis
  group := s.group
  ordered := by
    rw [List.pairwise_append]
    refine ⟨s.ordered, List.pairwise_singleton _ _, ?_⟩
    intro a old b new
    rw [List.mem_singleton.mp new]
    exact (s.bounded a old).trans_lt (s.lastId_lt_nextId millis)
  bounded := by
    intro e member
    rcases List.mem_append.mp member with old | new
    · exact (s.bounded e old).trans (s.lastId_lt_nextId millis).le
    · rw [List.mem_singleton.mp new]
  delivered_le := by
    intro g here
    have := s.delivered_le g here
    rw [List.length_append]
    omega

/-- `XGROUP CREATE ... $`: an existing group stays. -/
def createGroup (s : Stream φ κ) : Stream φ κ :=
  { s with
    group := s.group.or (some ⟨s.entries.length, []⟩)
    delivered_le := by
      intro g here
      cases old : s.group with
      | none =>
        obtain rfl : ⟨s.entries.length, []⟩ = g := by simpa [old] using here
        exact le_rfl
      | some g' =>
        obtain rfl : g' = g := by simpa [old] using here
        exact s.delivered_le g' old }

/-- The entries that no consumer of the group has been given, at most `count` of them. -/
def fresh (s : Stream φ κ) (count : Nat) : List (Entry φ) :=
  match s.group with
  | none => []
  | some g => (s.entries.drop g.delivered).take count

theorem fresh_subset (s : Stream φ κ) (count : Nat) : s.fresh count ⊆ s.entries := by
  unfold fresh
  split
  · exact List.nil_subset _
  · exact List.Subset.trans (List.take_subset _ _) (List.drop_subset _ _)

/-- `XREADGROUP` with `>`: the fresh entries go to the consumer and to the pending list. -/
def readGroup (s : Stream φ κ) (consumer : κ) (count : Nat) : Stream φ κ :=
  { s with
    group := s.group.map fun g =>
      { delivered := g.delivered + (s.fresh count).length
        pending := g.pending ++ (s.fresh count).map fun e => (e.id, consumer) }
    delivered_le := by
      intro g here
      obtain ⟨g', old, rfl⟩ := Option.map_eq_some_iff.mp here
      have := s.delivered_le g' old
      simp only [fresh, old, List.length_take, List.length_drop]
      omega }

def ack (s : Stream φ κ) (id : Bytes) : Stream φ κ :=
  { s with
    group := s.group.map fun g => { g with pending := g.pending.filter fun p => p.1.text ≠ id }
    delivered_le := by
      intro g here
      obtain ⟨g', old, rfl⟩ := Option.map_eq_some_iff.mp here
      exact s.delivered_le g' old }

/-! #### Where an entry is -/

theorem eq_of_text (s : Stream φ κ) {a b : Entry φ} (here : a ∈ s.entries) (there : b ∈ s.entries)
    (same : a.id.text = b.id.text) : a = b := by
  have distinct : (s.entries.map (·.id)).Nodup := List.pairwise_map.mpr (s.ordered.imp fun less => ne_of_lt less)
  exact List.inj_on_of_nodup_map distinct here there (StreamId.text_injective same)

def given (s : Stream φ κ) : List (Entry φ) :=
  match s.group with
  | none => []
  | some g => s.entries.take g.delivered

theorem given_subset (s : Stream φ κ) : s.given ⊆ s.entries := by
  unfold given
  split
  · exact List.nil_subset _
  · exact List.take_subset _ _

theorem nodup_given (s : Stream φ κ) : (s.given.map (·.id)).Nodup := by
  have ids : (s.entries.map (·.id)).Nodup := List.pairwise_map.mpr (s.ordered.imp fun less => ne_of_lt less)
  unfold given
  split
  · exact .nil
  · exact ids.sublist ((List.take_sublist _ _).map _)

/-- Handed out and not acknowledged: the entry is in the pending list of some consumer. -/
def Outstanding (s : Stream φ κ) (id : StreamId) : Prop := ∃ g ∈ s.group, ∃ consumer, (id, consumer) ∈ g.pending

theorem given_add (s : Stream φ κ) (millis : Nat) (fields : φ) : (s.add millis fields).given = s.given := by
  unfold given
  cases old : s.group with
  | none => simp [add, old]
  | some g => simp [add, old, List.take_append_of_le_length (s.delivered_le g old)]

theorem given_createGroup (s : Stream φ κ) (nothing : s.group = none → s.entries = []) : s.createGroup.given = s.given := by
  unfold given
  cases old : s.group with
  | none => simp [createGroup, old, nothing old]
  | some g => simp [createGroup, old]

theorem given_readGroup (s : Stream φ κ) (consumer : κ) (count : Nat) :
    (s.readGroup consumer count).given = s.given ++ s.fresh count := by
  cases old : s.group with
  | none => simp [given, readGroup, fresh, old]
  | some g =>
    simp only [given, readGroup, fresh, old, Option.map_some, List.take_add, List.length_take, List.append_cancel_left_eq]
    exact (List.take_eq_take_min ..).symm

theorem given_ack (s : Stream φ κ) (id : Bytes) : (s.ack id).given = s.given := by
  unfold given
  cases old : s.group with
  | none => simp [ack, old]
  | some g => simp [ack, old]

theorem Outstanding.readGroup {s : Stream φ κ} {id : StreamId} (here : s.Outstanding id) (consumer : κ) (count : Nat) :
    (s.readGroup consumer count).Outstanding id := by
  obtain ⟨g, old, owner, member⟩ := here
  exact ⟨_, Option.mem_map_of_mem _ old, owner, List.mem_append_left _ member⟩

theorem outstanding_of_fresh {s : Stream φ κ} {e : Entry φ} {count : Nat} (member : e ∈ s.fresh count) (consumer : κ) :
    (s.readGroup consumer count).Outstanding e.id := by
  cases old : s.group with
  | none => simp [fresh, old] at member
  | some g =>
    refine ⟨_, Option.mem_map_of_mem _ old, consumer, List.mem_append_right _ ?_⟩
    exact List.mem_map.mpr ⟨e, member, rfl⟩

theorem outstanding_readGroup_iff (s : Stream φ κ) (consumer : κ) (count : Nat) (id : StreamId) :
    (s.readGroup consumer count).Outstanding id ↔ s.Outstanding id ∨ id ∈ (s.fresh count).map (·.id) := by
  constructor
  · intro here
    obtain ⟨g, found, owner, member⟩ := here
    obtain ⟨g', old, rfl⟩ := Option.map_eq_some_iff.mp found
    rcases List.mem_append.mp member with before | fresh
    · exact Or.inl ⟨g', old, owner, before⟩
    · obtain ⟨e, listed, same⟩ := List.mem_map.mp fresh
      exact Or.inr (List.mem_map.mpr ⟨e, listed, (Prod.mk.inj same).1⟩)
  · intro either
    rcases either with before | fresh
    · exact before.readGroup consumer count
    · obtain ⟨e, listed, rfl⟩ := List.mem_map.mp fresh
      exact outstanding_of_fresh listed consumer

theorem Outstanding.ack {s : Stream φ κ} {id : StreamId} (here : s.Outstanding id) {text : Bytes} (other : id.text ≠ text) :
    (s.ack text).Outstanding id := by
  obtain ⟨g, old, owner, member⟩ := here
  exact ⟨_, Option.mem_map_of_mem _ old, owner, List.mem_filter.mpr ⟨member, by simpa using other⟩⟩

theorem outstanding_ack_iff (s : Stream φ κ) (text : Bytes) (id : StreamId) :
    (s.ack text).Outstanding id ↔ s.Outstanding id ∧ id.text ≠ text := by
  constructor
  · rintro ⟨g, here, owner, member⟩
    obtain ⟨g', old, rfl⟩ := Option.map_eq_some_iff.mp here
    obtain ⟨before, other⟩ := List.mem_filter.mp member
    exact ⟨⟨g', old, owner, before⟩, by simpa using other⟩
  · rintro ⟨before, other⟩
    exact before.ack other

theorem Outstanding.createGroup {s : Stream φ κ} {id : StreamId} (here : s.Outstanding id) : s.createGroup.Outstanding id := by
  obtain ⟨g, old, owner, member⟩ := here
  refine ⟨g, ?_, owner, member⟩
  rw [Option.mem_def] at old ⊢
  simp [Stream.createGroup, old]

theorem outstanding_createGroup_iff (s : Stream φ κ) (id : StreamId) : s.createGroup.Outstanding id ↔ s.Outstanding id := by
  refine ⟨?_, Outstanding.createGroup⟩
  intro here
  obtain ⟨g, found, owner, member⟩ := here
  cases old : s.group with
  | none =>
    obtain rfl : ⟨s.entries.length, []⟩ = g := by simpa [Stream.createGroup, old] using found
    cases member
  | some g' =>
    obtain rfl : g' = g := by simpa [Stream.createGroup, old] using found
    exact ⟨g', old, owner, member⟩

end Stream
end Stream

/-! ### Sorted sets -/

section SortedSet

variable {α : Type}

/-- `ZRANGEBYSCORE` from `-inf`: by score, and those of one score in the order of their texts. -/
def rangeByScore (text : α → Bytes) (set : AList fun _ : α => Int) (max : Int) : List α :=
  ((set.entries.filter fun e => e.2 ≤ max).insertionSort fun a b => a.2 < b.2 ∨ a.2 = b.2 ∧ text a.1 ≤ text b.1).map
    Sigma.fst

variable {text : α → Bytes} {set : AList fun _ : α => Int} {max : Int}

theorem mem_rangeByScore [DecidableEq α] {x : α} : x ∈ rangeByScore text set max ↔ ∃ score, set.lookup x = some score ∧ score ≤ max := by
  unfold rangeByScore
  constructor
  · intro member
    obtain ⟨⟨y, score⟩, sorted, rfl⟩ := List.mem_map.mp member
    have listed := List.mem_filter.mp ((List.mem_insertionSort _).mp sorted)
    exact ⟨score, AList.mem_lookup_iff.mpr listed.1, by simpa using listed.2⟩
  · rintro ⟨score, held, low⟩
    refine List.mem_map.mpr ⟨⟨x, score⟩, (List.mem_insertionSort _).mpr ?_, rfl⟩
    exact List.mem_filter.mpr ⟨AList.mem_lookup_iff.mp held, by simpa using low⟩

theorem nodup_rangeByScore : (rangeByScore text set max).Nodup := by
  have sorted := (List.perm_insertionSort (fun a b : Sigma fun _ : α => Int => a.2 < b.2 ∨ a.2 = b.2 ∧ text a.1 ≤ text b.1)
    (set.entries.filter fun e => e.2 ≤ max)).map Sigma.fst
  refine sorted.nodup_iff.mpr (List.Sublist.nodup ?_ set.keys_nodup)
  exact List.filter_sublist.map Sigma.fst

end SortedSet

end IotGateway.Redis
