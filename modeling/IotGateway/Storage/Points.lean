import IotGateway.Lib.LineProtocol
import IotGateway.Storage.TsdbClient

/-!
# Telemetry lines as points

`writeDeviceData` escapes the payload, but it copies the device id and the topic into the
tags as they are. A device that chooses them well adds points of its own making.
-/

namespace IotGateway.Storage
open Text LineProtocol

namespace TsdbClient

/-- The text is one point with these tags and this field. -/
def IsPointOf (dialect : Dialect) (text deviceId topic value : Bytes) : Prop :=
  ∃ point, parse dialect text = some [point] ∧
    point.tags = [(ascii "device_id", deviceId), (ascii "topic", topic)] ∧ point.fields = [(ascii "value", .string value)]

/-- A tag value that survives as it is, in a C string and between delimiters. -/
structure TagSafe (dialect : Dialect) (text : Bytes) : Prop where
  plain : Plain keyEnds text
  no_nul : 0 ∉ text
  accepted : dialect.emptyTagValue = true ∨ text ≠ []

structure StringSafe (dialect : Dialect) (text : Bytes) : Prop where
  no_nul : 0 ∉ text
  accepted : dialect.newlineInString = true ∨ 10 ∉ text

/-! ### The line, part by part -/

/-- What `%s` leaves out is nothing exactly when there is no NUL. -/
theorem cstr_lost (text : Bytes) : ∃ lost, text = cstr text ++ lost ∧ (lost = [] ↔ 0 ∉ text) := by
  refine ⟨text.dropWhile (· ≠ 0), List.takeWhile_append_dropWhile.symm, ?_⟩
  rw [List.dropWhile_eq_nil_iff]
  constructor
  · intro nonzero member
    simpa using nonzero 0 member
  · intro clean b member
    have different : b ≠ 0 := fun same => clean (same ▸ member)
    simpa using different

theorem cstr_escapeValue (value : Bytes) : cstr (escapeValue value) = escapeString (cstr value) := by
  induction value with
  | nil => rfl
  | cons b value ih =>
    by_cases nul : b = 0
    · subst nul
      rfl
    · have first : cstr (b :: value) = b :: cstr value := by
        simp [cstr, nul]
      have clean : (0 : UInt8) ∉ if b = 34 ∨ b = 92 then [92, b] else [b] := by
        split <;> simp [Ne.symm nul]
      rw [first, escapeString, List.flatMap_cons, ← escapeString, ← ih]
      exact cstr_append clean _

/-- The tags of a line, from the first comma on. -/
def tagText (deviceId topic more : Bytes) : Bytes :=
  44 :: (ascii "device_id" ++ 61 :: (cstr deviceId ++ 44 :: (ascii "topic" ++ 61 :: (cstr topic ++ 32 :: more))))

def fieldText (value : Bytes) (tsNs : Int) : Bytes :=
  ascii "value" ++ 61 :: 34 :: (escapeString (cstr value) ++ 34 :: 32 :: (decimal tsNs ++ [10]))

theorem lineText_split (deviceId topic value : Bytes) (tsNs : Int) :
    lineText deviceId topic value tsNs = ascii "device_data" ++ tagText deviceId topic (fieldText value tsNs) := by
  have opening : ascii "device_data,device_id=" = ascii "device_data" ++ 44 :: (ascii "device_id" ++ [61]) := by decide
  have second : ascii ",topic=" = 44 :: (ascii "topic" ++ [61]) := by decide
  have field : ascii " value=\"" = 32 :: (ascii "value" ++ [61, 34]) := by decide
  have closing : ascii "\" " = [34, 32] := by decide
  have newline : ascii "\n" = [10] := by decide
  rw [lineText, cstr_escapeValue, opening, second, field, closing, newline]
  simp only [tagText, fieldText, List.append_assoc, List.cons_append, List.nil_append]

/-- The part that is written is read as a plain value, and it is the whole value. -/
theorem tagSafe_iff (dialect : Dialect) {text lost : Bytes} (split : text = cstr text ++ lost) (whole : lost = [] ↔ 0 ∉ text) :
    (Plain keyEnds (cstr text) ∧ (dialect.emptyTagValue = true ∨ cstr text ≠ [])) ∧ lost = [] ↔ TagSafe dialect text := by
  constructor
  · intro written
    obtain ⟨⟨plain, accepted⟩, rfl⟩ := written
    rw [List.append_nil] at split
    rw [← split] at plain accepted
    exact ⟨plain, whole.mp rfl, accepted⟩
  · intro safe
    rw [cstr_of_no_nul safe.no_nul]
    exact ⟨⟨safe.plain, safe.accepted⟩, whole.mpr safe.no_nul⟩

theorem tags_tagText_iff (dialect : Dialect) (bound : Nat) (deviceId topic more rest : Bytes) :
    tags dialect (bound + 2) (tagText deviceId topic more) =
        some ([(ascii "device_id", deviceId), (ascii "topic", topic)], rest) ↔
      TagSafe dialect deviceId ∧ TagSafe dialect topic ∧ rest = 32 :: more := by
  obtain ⟨lost, split, whole⟩ := cstr_lost deviceId
  obtain ⟨lost', split', whole'⟩ := cstr_lost topic
  have first := tags_cons_iff (by decide : Plain keyEnds (ascii "device_id")) (by decide) (by decide : 44 ∈ keyEnds) dialect
    (bound + 1) (cstr deviceId) lost (ascii "topic" ++ 61 :: (cstr topic ++ 32 :: more)) [(ascii "topic", topic)] rest
  have second := tags_cons_iff (by decide : Plain keyEnds (ascii "topic")) (by decide) (by decide : 32 ∈ keyEnds) dialect
    bound (cstr topic) lost' more [] rest
  rw [← split, tagSafe_iff dialect split whole] at first
  rw [← split', tagSafe_iff dialect split' whole', tags_end (by decide : (32 : UInt8) ≠ 44)] at second
  rw [tagText, first, second]
  simp [eq_comm]

theorem fields_fieldText (dialect : Dialect) (bound : Nat) (value : Bytes) (tsNs : Int) :
    fields dialect (bound + 1) (fieldText value tsNs) =
      if dialect.newlineInString = true ∨ 10 ∉ cstr value then
        some ([(ascii "value", .string (cstr value))], 32 :: (decimal tsNs ++ [10]))
      else none :=
  fields_string (by decide) (by decide) dialect bound (cstr value) (decimal tsNs ++ [10])

theorem stringSafe_iff (dialect : Dialect) (value : Bytes) :
    StringSafe dialect value ↔ (dialect.newlineInString = true ∨ 10 ∉ cstr value) ∧ cstr value = value := by
  constructor
  · intro safe
    have whole := cstr_of_no_nul safe.no_nul
    rw [whole]
    exact ⟨safe.accepted, rfl⟩
  · intro safe
    obtain ⟨accepted, whole⟩ := safe
    rw [whole] at accepted
    exact ⟨whole ▸ no_nul_cstr value, accepted⟩

/-! ### The line as a point -/

section Line

variable {dialect : Dialect} {deviceId topic value : Bytes} {tsNs : Int}

theorem point_lineText_iff (read : Point) (rest : Bytes) :
    (point dialect (lineText deviceId topic value tsNs) = some (read, rest) ∧
        read.tags = [(ascii "device_id", deviceId), (ascii "topic", topic)] ∧
        read.fields = [(ascii "value", .string value)]) ↔
      (TagSafe dialect deviceId ∧ TagSafe dialect topic ∧ StringSafe dialect value) ∧
        read = ⟨ascii "device_data", [(ascii "device_id", deviceId), (ascii "topic", topic)],
          [(ascii "value", .string value)], some (decimal tsNs)⟩ ∧ rest = [10] := by
  have stamp : timestamp (32 :: (decimal tsNs ++ [10])) = some (some (decimal tsNs), [10]) := by
    apply timestamp_line (isInteger_decimal tsNs)
    intro newline
    exact absurd (decimal_bytes tsNs 10 newline) (by decide)
  obtain ⟨bound, enough⟩ : ∃ bound, (tagText deviceId topic (fieldText value tsNs)).tail.length + 1 = bound + 2 :=
    ⟨_, (Nat.sub_add_cancel (by simp [tagText]; omega)).symm⟩
  obtain ⟨bound', enough'⟩ : ∃ bound, (fieldText value tsNs).length = bound + 1 :=
    ⟨_, (Nat.sub_add_cancel (by simp [fieldText]; omega)).symm⟩
  have parts := point_eq_some_iff (by decide : Plain measurementEnds (ascii "device_data")) (by decide)
    (by decide : 44 ∈ measurementEnds) dialect (tagText deviceId topic (fieldText value tsNs)).tail read rest
  rw [enough, show (44 : UInt8) :: (tagText deviceId topic (fieldText value tsNs)).tail =
    tagText deviceId topic (fieldText value tsNs) from rfl, ← lineText_split] at parts
  have content := stringSafe_iff dialect value
  have tagged := tags_tagText_iff dialect bound deviceId topic (fieldText value tsNs)
  have filled := fields_fieldText dialect bound' value tsNs
  rw [parts]
  constructor
  · intro meant
    obtain ⟨⟨measured, s₁, s₂, tags, fields, timed⟩, tagList, fieldList⟩ := meant
    rw [tagList] at tags
    obtain ⟨device, name, same⟩ := (tagged _).mp tags
    obtain rfl := List.tail_eq_of_cons_eq same
    rw [enough', filled, fieldList] at fields
    split at fields
    · rename_i accepted
      simp only [Option.some.injEq, Prod.mk.injEq, List.cons.injEq, FieldValue.string.injEq, and_true, true_and] at fields
      obtain ⟨whole, rfl⟩ := fields
      rw [stamp] at timed
      obtain ⟨same, rfl⟩ := Prod.mk.inj (Option.some.inj timed)
      refine ⟨⟨device, name, content.mpr ⟨accepted, whole⟩⟩, ?_, rfl⟩
      cases read
      simp_all
    · cases fields
  · intro safe
    obtain ⟨⟨device, name, string⟩, rfl, rfl⟩ := safe
    obtain ⟨accepted, whole⟩ := content.mp string
    rw [if_pos accepted, whole] at filled
    refine ⟨⟨rfl, fieldText value tsNs, _, (tagged _).mpr ⟨device, name, rfl⟩, ?_, stamp⟩, rfl, rfl⟩
    rw [enough']
    exact filled

/-- A line is one point with the given values exactly when none of them needs an escape that is not made. -/
theorem isPointOf_lineText_iff :
    IsPointOf dialect (lineText deviceId topic value tsNs) deviceId topic value ↔
      TagSafe dialect deviceId ∧ TagSafe dialect topic ∧ StringSafe dialect value := by
  constructor
  · intro meant
    obtain ⟨read, parsed, tagList, fieldList⟩ := meant
    obtain ⟨rest, found⟩ := point_of_parse parsed
    exact ((point_lineText_iff read rest).mp ⟨found, tagList, fieldList⟩).1
  · intro safe
    obtain ⟨found, tagList, fieldList⟩ := (point_lineText_iff _ _).mpr ⟨safe, rfl, rfl⟩
    exact ⟨_, parse_line found, tagList, fieldList⟩

end Line

/-- What a write appends is its line. -/
theorem appended_line {t : TsdbClient} {now : Nat} {deviceId measurement value text : Bytes}
    (appended : (t.writeDeviceData now deviceId measurement value).written = t.written ++ text) (something : text ≠ []) :
    text = lineText deviceId measurement value (now * 1000) := by
  cases on : t.connected_ with
  | false =>
    rw [writeDeviceData_disconnected on] at appended
    exact absurd (List.self_eq_append_right.mp appended) something
  | true =>
    rw [(writeDeviceData_connected on now deviceId measurement value).2] at appended
    rw [← List.append_cancel_left appended] at something ⊢
    by_cases fits : Fits (lineText deviceId measurement value (now * 1000))
    · simp [fits]
    · simp [fits] at something

/-- Whatever a write appends to the batch is one point with its arguments exactly when the device id and the topic need
no escapes and nothing has a NUL. -/
theorem write_is_point_iff (dialect : Dialect) (t : TsdbClient) (now : Nat) (deviceId measurement value text : Bytes)
    (appended : (t.writeDeviceData now deviceId measurement value).written = t.written ++ text) (something : text ≠ []) :
    IsPointOf dialect text deviceId measurement value ↔
      TagSafe dialect deviceId ∧ TagSafe dialect measurement ∧ StringSafe dialect value := by
  rw [appended_line appended something]
  exact isPointOf_lineText_iff

theorem reading_is_point :
    IsPointOf ⟨false, false⟩ (ascii "device_data,device_id=sensor,topic=/temp value=\"23 \\\"C\\\"\" 0\n") (ascii "sensor")
      (ascii "/temp") (ascii "23 \"C\"") :=
  (write_is_point_iff ⟨false, false⟩ (connect {}) 0 (ascii "sensor") (ascii "/temp") (ascii "23 \"C\"") _
    (by decide +kernel) (by decide +kernel)).mpr
    ⟨⟨by decide, by decide, by decide⟩, ⟨by decide, by decide, by decide⟩, ⟨by decide, by decide⟩⟩

/-- A topic that ends its own point and begins one of another device. -/
def forgedTopic : Bytes := ascii "/temp value=\"0\" 0\ndevice_data,device_id=victim,topic=/temp"

theorem forged_point :
    let text := ((connect {}).writeDeviceData 0 (ascii "attacker") forgedTopic (ascii "99")).written
    let forged (id value : String) : Point := ⟨ascii "device_data", [(ascii "device_id", ascii id),
      (ascii "topic", ascii "/temp")], [(ascii "value", .string (ascii value))], some (ascii "0")⟩
    parse ⟨false, false⟩ text = some [forged "attacker" "0", forged "victim" "99"] ∧
      ¬ IsPointOf ⟨false, false⟩ text (ascii "attacker") forgedTopic (ascii "99") := by
  intro text forged
  have two : parse ⟨false, false⟩ text = some [forged "attacker" "0", forged "victim" "99"] := by decide +kernel
  refine ⟨two, ?_⟩
  intro meant
  obtain ⟨only, one, -, -⟩ := meant
  rw [two] at one
  simp at one

end TsdbClient
end IotGateway.Storage
