import IotGateway.Gateway.ClusterManager

/-!
# Records of the device registry

`registerDevice` prints a JSON text, `updateDeviceHeartbeat` replaces a number in it,
and `forwardCommand` reads its member `gateway`. All three agree on the text up to the
quote that ends the id of the node, provided that the id has no quote of its own and
is not cut by `snprintf`.
-/

namespace IotGateway.Gateway
open Text Redis Storage

/-- An id that `registerDevice` prints so that `extractJsonField` reads it back. -/
structure QuotableId (n : NodeId) : Prop where
  no_quote : 34 ∉ n.text
  fits : n.text.length ≤ 498

instance (n : NodeId) : Decidable (QuotableId n) :=
  decidable_of_iff (34 ∉ n.text ∧ n.text.length ≤ 498) ⟨fun h => ⟨h.1, h.2⟩, fun h => ⟨h.no_quote, h.fits⟩⟩

def recordHead (n : NodeId) : Bytes := ascii "\x7b\"gateway\":\"" ++ n.text ++ [34]

theorem length_recordHead (n : NodeId) : (recordHead n).length = n.text.length + 13 := by
  simp [recordHead, show (ascii "\x7b\"gateway\":\"").length = 12 from rfl]
  omega

theorem recordHead_no_nul (n : NodeId) : 0 ∉ recordHead n := by
  have opening : (0 : UInt8) ∉ ascii "\x7b\"gateway\":\"" := by decide
  simp [recordHead, opening, n.no_nul]

theorem registryText_head (n : NodeId) (heartbeat keepAlive : Int) :
    recordHead n <+: RedisClient.registryText n.text heartbeat keepAlive := by
  unfold RedisClient.registryText
  rw [cstr_of_no_nul n.no_nul]
  have quote : ascii "\",\"heartbeat\":" = [34] ++ ascii ",\"heartbeat\":" := rfl
  rw [quote]
  simp only [List.append_assoc]
  rw [← List.append_assoc _ n.text, ← List.append_assoc (_ ++ n.text)]
  exact List.prefix_append _ _

theorem registered_head {n : NodeId} (quotable : QuotableId n) (heartbeat keepAlive : Int) :
    recordHead n <+: snprintf 512 (RedisClient.registryText n.text heartbeat keepAlive) := by
  have fits : (recordHead n).length ≤ 511 := by
    have := quotable.fits
    rw [length_recordHead]
    omega
  exact List.prefix_take_iff.mpr ⟨registryText_head n heartbeat keepAlive, fits⟩

/-- The member `gateway` of a record that names a node is the id of the node. -/
theorem extractJsonField_head {n : NodeId} (quotable : QuotableId n) {record : Bytes} (names : recordHead n <+: record) :
    ClusterManager.extractJsonField record (ascii "gateway") = n.text := by
  obtain ⟨rest, rfl⟩ := names
  have search : ascii "\"" ++ ascii "gateway" ++ ascii "\":\"" = ascii "\"gateway\":\"" := rfl
  have layout : recordHead n ++ rest = [123] ++ (ascii "\"gateway\":\"" ++ (n.text ++ 34 :: rest)) := by
    simp [recordHead, show ascii "\x7b\"gateway\":\"" = 123 :: ascii "\"gateway\":\"" from rfl]
  have first : indexOf (ascii "\"gateway\":\"") (recordHead n ++ rest) = some 1 := by
    rw [layout]
    refine indexOf_append [123] (List.prefix_append _ _) fun i below => ?_
    obtain rfl : i = 0 := by simpa using below
    intro here
    exact absurd (List.cons_prefix_cons.mp here).1 (by decide)
  have value : (recordHead n ++ rest).drop 12 = n.text ++ 34 :: rest := by
    rw [layout]
    rfl
  have last : indexOf [34] (n.text ++ 34 :: rest) = some n.text.length := indexOf_byte quotable.no_quote
  have long : 1 + (ascii "\"gateway\":\"").length ≤ (recordHead n ++ rest).length := by
    rw [List.length_append, length_recordHead, show (ascii "\"gateway\":\"").length = 11 from rfl]
    omega
  unfold ClusterManager.extractJsonField
  rw [search]
  simp only [find, Nat.zero_le, if_true, List.drop_zero, first, Option.map_some, Nat.add_zero, if_pos long]
  simp [show (ascii "\"gateway\":\"").length = 11 from rfl, value, show ascii "\"" = [34] from rfl, last]

/-! ### The heartbeat edit -/

/-- The member `heartbeat` of a record that names a node does not end before the name does. -/
theorem heartbeat_after_head {n : NodeId} (quotable : QuotableId n) {rest : Bytes} {pos : Nat}
    (here : ascii "\"heartbeat\":" <+: (recordHead n ++ rest).drop pos) : (recordHead n).length ≤ pos + 12 := by
  by_contra short
  rw [length_recordHead] at short
  -- the quote after the word falls into the id, or the word starts in the fixed text before the id
  have byte : ∀ i < 12, (recordHead n ++ rest)[pos + i]? = (ascii "\"heartbeat\":")[i]? := by
    intro i below
    obtain ⟨tail, split⟩ := here
    rw [← List.getElem?_drop, ← split, List.getElem?_append_left below]
  have layout : recordHead n ++ rest = ascii "\x7b\"gateway\":\"" ++ (n.text ++ ([34] ++ rest)) := by
    simp [recordHead]
  rw [layout] at byte
  by_cases inside : 12 ≤ pos + 10
  · have quote := byte 10 (by omega)
    rw [List.getElem?_append_right inside, List.getElem?_append_left (by
      rw [show (ascii "\x7b\"gateway\":\"").length = 12 from rfl]
      omega)] at quote
    exact quotable.no_quote (List.mem_of_getElem? quote)
  · obtain rfl | rfl : pos = 0 ∨ pos = 1 := by omega
    · exact absurd (Option.some.inj (byte 0 (by omega))) (by decide)
    · exact absurd (Option.some.inj (byte 1 (by omega))) (by decide)

theorem replaceHeartbeat_head {n : NodeId} (quotable : QuotableId n) {record edited : Bytes} {now : Int}
    (names : recordHead n <+: record) (edit : RedisClient.replaceHeartbeat record now = some edited) :
    recordHead n <+: cstr edited := by
  obtain ⟨rest, rfl⟩ := names
  unfold RedisClient.replaceHeartbeat at edit
  split at edit
  · cases edit
  · rename_i pos found
    dsimp only at edit
    split at edit
    · cases edit
    · rename_i numEnd _
      have first : indexOf (ascii "\"heartbeat\":") (recordHead n ++ rest) = some pos := by simpa [find] using found
      have after := heartbeat_after_head quotable (prefix_of_indexOf first)
      cases edit
      rw [List.take_append, List.take_of_length_le after, List.append_assoc, List.append_assoc,
        cstr_append (recordHead_no_nul n)]
      exact List.prefix_append _ _

/-- The word before the number. -/
def heartbeatKey : Bytes := ascii "\"heartbeat\":"

/-- The id of the node has no `"heartbeat":` that could be taken for the member. -/
def PlainRecord (n : NodeId) : Prop := ¬ heartbeatKey <:+: 34 :: n.text

instance (n : NodeId) : Decidable (PlainRecord n) := inferInstanceAs (Decidable (¬ _))

theorem registryText_layout (n : NodeId) (heartbeat keepAlive : Int) :
    RedisClient.registryText n.text heartbeat keepAlive =
      (ascii "\x7b\"gateway\":" ++ ((34 :: n.text) ++ [34, 44])) ++
        (heartbeatKey ++ (decimal heartbeat ++ (44 :: (ascii "\"keepalive\":" ++ (decimal keepAlive ++ [125]))))) := by
  have opening : ascii "\x7b\"gateway\":\"" = ascii "\x7b\"gateway\":" ++ [34] := rfl
  have key : ascii "\",\"heartbeat\":" = [34, 44] ++ heartbeatKey := rfl
  have member : ascii ",\"keepalive\":" = 44 :: ascii "\"keepalive\":" := rfl
  have closing : ascii "\x7d" = [125] := rfl
  unfold RedisClient.registryText
  rw [cstr_of_no_nul n.no_nul, opening, key, member, closing]
  simp only [List.append_assoc, List.cons_append, List.nil_append]

theorem registryText_no_nul (n : NodeId) (heartbeat keepAlive : Int) :
    0 ∉ RedisClient.registryText n.text heartbeat keepAlive := by
  have number : ∀ k : Int, (0 : UInt8) ∉ decimal k := fun k member => absurd (decimal_bytes k 0 member) (by decide)
  have before : (0 : UInt8) ∉ ascii "\x7b\"gateway\":" := by decide
  have key : (0 : UInt8) ∉ heartbeatKey := by decide
  have after : (0 : UInt8) ∉ ascii "\"keepalive\":" := by decide
  rw [registryText_layout]
  simp [before, key, after, number, n.no_nul]

/-- The key starts neither in the id of a plain record nor at the quote that ends it. -/
theorem heartbeatKey_not_in_id {n : NodeId} (plain : PlainRecord n) (rest : Bytes) {j : Nat} (below : j < n.text.length + 3) :
    ¬ heartbeatKey <+: ((34 :: n.text) ++ (34 :: 44 :: rest)).drop j := by
  intro here
  have byte : ∀ k < 12, ((34 :: n.text) ++ (34 :: 44 :: rest))[j + k]? = heartbeatKey[k]? := by
    intro k small
    obtain ⟨tail, split⟩ := here
    rw [← List.getElem?_drop, ← split, List.getElem?_append_left small]
  have quote : ((34 :: n.text) ++ (34 :: 44 :: rest))[n.text.length + 1]? = some 34 := by simp
  have comma : ((34 :: n.text) ++ (34 :: 44 :: rest))[n.text.length + 2]? = some 44 := by
    rw [List.getElem?_append_right (by simp)]
    simp
  by_cases inside : j + 12 ≤ n.text.length + 1
  · refine plain (infix_iff_prefix_drop.mpr ⟨j, ?_⟩)
    rw [List.drop_append_of_le_length (by simp; omega)] at here
    exact List.prefix_of_prefix_length_le here (List.prefix_append _ _) (by
      rw [show heartbeatKey.length = 12 from rfl]
      simp
      omega)
  · by_cases atComma : j = n.text.length + 2
    · subst atComma
      exact absurd ((byte 0 (by omega)).symm.trans comma) (by decide)
    -- the closing quote is one of the two quotes of the key, and what follows it is no comma there
    · obtain ⟨k, small, last⟩ : ∃ k < 12, j + k = n.text.length + 1 := ⟨n.text.length + 1 - j, by omega, by omega⟩
      have first := (byte k small).symm.trans (last ▸ quote)
      have next : k < 11 → heartbeatKey[k + 1]? = some 44 := fun room =>
        (byte (k + 1) (by omega)).symm.trans (by rw [← comma]; congr 1; omega)
      interval_cases k <;> first | exact absurd first (by decide) | exact absurd (next (by omega)) (by decide)

/-- The first `"heartbeat":` of a plain record is that of the member. -/
theorem indexOf_heartbeat {n : NodeId} (plain : PlainRecord n) (rest : Bytes) :
    indexOf heartbeatKey ((ascii "\x7b\"gateway\":" ++ ((34 :: n.text) ++ [34, 44])) ++ (heartbeatKey ++ rest)) =
      some (ascii "\x7b\"gateway\":" ++ ((34 :: n.text) ++ [34, 44])).length := by
  refine indexOf_append _ (List.prefix_append _ _) fun i below here => ?_
  have split : (ascii "\x7b\"gateway\":" ++ ((34 :: n.text) ++ [34, 44])) ++ (heartbeatKey ++ rest) =
      ascii "\x7b\"gateway\":" ++ ((34 :: n.text) ++ (34 :: 44 :: (heartbeatKey ++ rest))) := by simp
  have opening : (ascii "\x7b\"gateway\":").length = 11 := rfl
  rw [split] at here
  rw [List.length_append, opening, List.length_append, List.length_cons, List.length_cons, List.length_singleton] at below
  by_cases fixed : i < 11
  · -- the two bytes there belong to the fixed text
    obtain ⟨tail, text⟩ := here
    have byte : ∀ k < 2, (ascii "\x7b\"gateway\":" ++ [34])[i + k]? = heartbeatKey[k]? := by
      intro k small
      have longer : ascii "\x7b\"gateway\":" ++ ((34 :: n.text) ++ (34 :: 44 :: (heartbeatKey ++ rest))) =
          (ascii "\x7b\"gateway\":" ++ [34]) ++ (n.text ++ (34 :: 44 :: (heartbeatKey ++ rest))) := by simp
      have bound : i + k < (ascii "\x7b\"gateway\":" ++ [34]).length := by
        rw [List.length_append, opening, List.length_singleton]
        omega
      rw [← List.getElem?_append_left bound, ← longer, ← List.getElem?_drop, ← text,
        List.getElem?_append_left (by rw [show heartbeatKey.length = 12 from rfl]; omega)]
    have first := byte 0 (by omega)
    have second := byte 1 (by omega)
    interval_cases i <;> first | exact absurd first (by decide) | exact absurd second (by decide)
  · have inside : i = 11 + (i - 11) := by omega
    rw [inside, ← opening, List.drop_length_add_append] at here
    exact heartbeatKey_not_in_id plain _ (by omega) here

/-- A number ends at the comma or brace that follows it. -/
theorem findIdx?_decimal (number : Int) (rest : Bytes) :
    (decimal number ++ 44 :: rest).findIdx? (· ∈ ascii ",\x7d") = some (decimal number).length := by
  have digits : ∀ b ∈ decimal number, decide (b ∈ ascii ",\x7d") = false := by
    intro b member
    have byte := decimal_bytes number b member
    refine decide_eq_false fun separator => ?_
    have comma : b = 44 ∨ b = 125 := by simpa [show ascii ",\x7d" = [44, 125] from rfl] using separator
    rcases comma with rfl | rfl
    · exact absurd byte (by decide)
    · exact absurd byte (by decide)
  have comma : decide ((44 : UInt8) ∈ ascii ",\x7d") = true := by decide
  rw [List.findIdx?_append, List.findIdx?_eq_none_iff.mpr digits, Option.none_or, List.findIdx?_cons, if_pos comma,
    Option.map_some, Nat.zero_add]

/-- Editing the heartbeat of a plain record leaves the id of the node and the keep-alive time as they are. -/
theorem replaceHeartbeat_registryText {n : NodeId} (plain : PlainRecord n) (heartbeat keepAlive now : Int) :
    RedisClient.replaceHeartbeat (RedisClient.registryText n.text heartbeat keepAlive) now =
      some (RedisClient.registryText n.text now keepAlive) := by
  rw [registryText_layout, registryText_layout]
  have first := indexOf_heartbeat plain
    (decimal heartbeat ++ (44 :: (ascii "\"keepalive\":" ++ (decimal keepAlive ++ [125]))))
  generalize ascii "\x7b\"gateway\":" ++ ((34 :: n.text) ++ [34, 44]) = before at first ⊢
  generalize ascii "\"keepalive\":" ++ (decimal keepAlive ++ [125]) = after at first ⊢
  have regroup : ∀ number : Bytes, before ++ (heartbeatKey ++ number) = (before ++ heartbeatKey) ++ number :=
    fun number => (List.append_assoc _ _ _).symm
  have start : before.length + 12 = (before ++ heartbeatKey).length := by
    rw [List.length_append, show heartbeatKey.length = 12 from rfl]
  have key : ascii "\"heartbeat\":" = heartbeatKey := rfl
  unfold RedisClient.replaceHeartbeat
  simp only [find, Nat.zero_le, if_true, List.drop_zero, key, first, Option.map_some, Nat.add_zero, findFirstOf]
  rw [start, regroup, List.drop_left, findIdx?_decimal]
  simp only [Option.map_some]
  rw [List.take_left, Nat.add_comm, List.drop_length_add_append, List.drop_left, regroup, List.append_assoc]

section Touch

variable {devices : Hash Bytes Bytes} (now : Nat) (field : Bytes)

theorem persistent_touchRecord (persistent : devices.expireAt = none) :
    (RedisClient.touchRecord now field devices).expireAt = none := by
  unfold RedisClient.touchRecord
  split
  · exact persistent
  · exact Hash.persistent_set persistent _ _ _

theorem get_touchRecord_ne {other : Bytes} (different : other ≠ field) :
    (RedisClient.touchRecord now field devices).get now other = devices.get now other := by
  unfold RedisClient.touchRecord
  split
  · rfl
  · exact Hash.get_set_ne _ _ _ different

theorem head_touchRecord {n : NodeId} (quotable : QuotableId n)
    (named : ∃ record, devices.get now field = some record ∧ recordHead n <+: record) :
    ∃ record, (RedisClient.touchRecord now field devices).get now field = some record ∧ recordHead n <+: record := by
  obtain ⟨record, found, names⟩ := named
  unfold RedisClient.touchRecord
  rw [found, Option.bind_some]
  split
  · exact ⟨record, found, names⟩
  · rename_i edited edit
    exact ⟨cstr edited, Hash.get_set_self _ _ _ _, replaceHeartbeat_head quotable names edit⟩

end Touch

end IotGateway.Gateway
