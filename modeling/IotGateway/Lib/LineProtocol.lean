import IotGateway.Lib.Text

/-!
# The line protocol

Points as text: a measurement, tags, fields and a timestamp, one point a line. In names and
tag values a backslash before a delimiter is an escape, and nothing escapes a newline. In a
string it is an escape before a quote or a backslash. Anywhere else a backslash stands for
itself. Where readers differ, a `Dialect` decides. Bare values are not interpreted.
-/

namespace IotGateway.LineProtocol
open Text

structure Dialect where
  /-- A string may hold a newline. -/
  newlineInString : Bool
  /-- A tag may have an empty value. -/
  emptyTagValue : Bool
  deriving DecidableEq, Repr

inductive FieldValue where
  | string (text : Bytes)
  | bare (text : Bytes)
  deriving DecidableEq, Repr

structure Point where
  measurement : Bytes
  tags : List (Bytes × Bytes)
  fields : List (Bytes × FieldValue)
  timestamp : Option Bytes
  deriving DecidableEq, Repr

/-! ### Reading -/

-- comma and space
def measurementEnds : Bytes := [44, 32]

-- comma, space and equals sign
def keyEnds : Bytes := [44, 32, 61]

/-- A name or a tag value with its escapes resolved, and the text from the byte on that ends it. -/
def token (ends : Bytes) : Bytes → Bytes × Bytes
  | [] => ([], [])
  | [b] => if b ∈ 10 :: ends then ([], [b]) else ([b], [])
  | b :: c :: s =>
    if b = 92 ∧ c ∈ ends then
      let (text, rest) := token ends s
      (c :: text, rest)
    else if b ∈ 10 :: ends then ([], b :: c :: s)
    else
      let (text, rest) := token ends (c :: s)
      (b :: text, rest)

/-- A string after its opening quote. -/
def string (dialect : Dialect) : Bytes → Option (Bytes × Bytes)
  | [] => none
  | [b] => if b = 34 then some ([], []) else none
  | b :: c :: s =>
    if b = 34 then some ([], c :: s)
    else if b = 92 ∧ (c = 34 ∨ c = 92) then (string dialect s).map fun (text, rest) => (c :: text, rest)
    else if b = 10 ∧ ¬ dialect.newlineInString then none
    else (string dialect (c :: s)).map fun (text, rest) => (b :: text, rest)

/-- A tag after its comma. -/
def tag (dialect : Dialect) (s : Bytes) : Option ((Bytes × Bytes) × Bytes) :=
  match token keyEnds s with
  | (key, 61 :: s) =>
    let (value, rest) := token keyEnds s
    if key = [] ∨ value = [] ∧ ¬ dialect.emptyTagValue then none else some ((key, value), rest)
  | _ => none

/-- The tags, each after a comma. The first argument bounds their number. -/
def tags (dialect : Dialect) : Nat → Bytes → Option (List (Bytes × Bytes) × Bytes)
  | _, [] => some ([], [])
  | 0, b :: s => if b = 44 then none else some ([], b :: s)
  | bound + 1, b :: s =>
    if b = 44 then
      (tag dialect s).bind fun (tag, s) => (tags dialect bound s).map fun (more, rest) => (tag :: more, rest)
    else some ([], b :: s)

def fieldValue (dialect : Dialect) : Bytes → Option (FieldValue × Bytes)
  | 34 :: s => (string dialect s).map fun (text, rest) => (.string text, rest)
  | s =>
    let (text, rest) := token keyEnds s
    if text = [] then none else some (.bare text, rest)

def field (dialect : Dialect) (s : Bytes) : Option ((Bytes × FieldValue) × Bytes) :=
  match token keyEnds s with
  | (key, 61 :: s) => if key = [] then none else (fieldValue dialect s).map fun (value, rest) => ((key, value), rest)
  | _ => none

/-- The fields, with commas between them. The first argument bounds their number. -/
def fields (dialect : Dialect) : Nat → Bytes → Option (List (Bytes × FieldValue) × Bytes)
  | 0, _ => none
  | bound + 1, s =>
    (field dialect s).bind fun
      | (field, 44 :: s) => (fields dialect bound s).map fun (more, rest) => (field :: more, rest)
      | (field, rest) => some ([field], rest)

def IsInteger (text : Bytes) : Prop :=
  let digits := if text.head? = some 45 then text.tail else text
  digits ≠ [] ∧ ∀ b ∈ digits, isDigit b = true

instance (text : Bytes) : Decidable (IsInteger text) := inferInstanceAs (Decidable (_ ∧ _))

def timestamp : Bytes → Option (Option Bytes × Bytes)
  | 32 :: s =>
    let (text, rest) := s.span (· ≠ 10)
    if IsInteger text then some (some text, rest) else none
  | s => some (none, s)

def point (dialect : Dialect) (s : Bytes) : Option (Point × Bytes) :=
  let (measurement, s) := token measurementEnds s
  if measurement = [] then none
  else
    (tags dialect s.length s).bind fun
      | (tags, 32 :: s) =>
        (fields dialect s.length s).bind fun (fields, s) =>
          (timestamp s).map fun (timestamp, rest) => (⟨measurement, tags, fields, timestamp⟩, rest)
      | _ => none

/-- The points, with newlines between them. The first argument bounds their number. -/
def points (dialect : Dialect) : Nat → Bytes → Option (List Point)
  | _, [] => some []
  | 0, _ => none
  | bound + 1, s =>
    (point dialect s).bind fun
      | (point, []) => some [point]
      | (point, 10 :: s) => (points dialect bound s).map (point :: ·)
      | _ => none

/-- Every point takes at least one byte, so the length of the text is bound enough. -/
def parse (dialect : Dialect) (text : Bytes) : Option (List Point) := points dialect text.length text

/-! ### Tokens as they were written -/

/-- A text that can be written without an escape, whatever delimiter comes next. -/
structure Plain (ends text : Bytes) : Prop where
  no_end : ∀ b ∈ text, b ∉ 10 :: ends
  no_escape : text.getLast? ≠ some 92

instance (ends text : Bytes) : Decidable (Plain ends text) :=
  decidable_of_iff ((∀ b ∈ text, b ∉ 10 :: ends) ∧ text.getLast? ≠ some 92)
    ⟨fun plain => ⟨plain.1, plain.2⟩, fun plain => ⟨plain.no_end, plain.no_escape⟩⟩

theorem plain_nil (ends : Bytes) : Plain ends [] := ⟨by simp, by simp⟩

theorem plain_cons {ends text : Bytes} {b : UInt8} (inner : b ∉ 10 :: ends) (last : text = [] → b ≠ 92) :
    Plain ends (b :: text) ↔ Plain ends text := by
  have ending : (b :: text).getLast? ≠ some 92 ↔ text.getLast? ≠ some 92 := by
    cases text with
    | nil => simpa using last rfl
    | cons c text => rw [List.getLast?_cons_cons]
  constructor
  · intro plain
    exact ⟨fun c member => plain.no_end c (List.mem_cons_of_mem b member), ending.mp plain.no_escape⟩
  · intro plain
    refine ⟨?_, ending.mpr plain.no_escape⟩
    intro c member
    rcases List.mem_cons.mp member with rfl | old
    · exact inner
    · exact plain.no_end c old

section Token

variable {ends : Bytes} (solid : 92 ∉ ends)
include solid

theorem token_stop {b : UInt8} (stop : b ∈ 10 :: ends) (s : Bytes) : token ends (b :: s) = ([], b :: s) := by
  have other : b ≠ 92 := by
    rintro rfl
    simp [solid] at stop
  cases s with
  | nil => rw [token, if_pos stop]
  | cons c s =>
    rw [token, if_neg (fun escape => other escape.1), if_pos stop]

omit solid in
theorem token_escape {c : UInt8} (ending : c ∈ ends) (s : Bytes) :
    token ends (92 :: c :: s) = (c :: (token ends s).1, (token ends s).2) := by
  rw [token, if_pos ⟨rfl, ending⟩]

omit solid in
theorem token_inner {b c : UInt8} (inner : b ∉ 10 :: ends) (literal : ¬ (b = 92 ∧ c ∈ ends)) (s : Bytes) :
    token ends (b :: c :: s) = (b :: (token ends (c :: s)).1, (token ends (c :: s)).2) := by
  rw [token, if_neg literal, if_neg inner]

/-- A text before a delimiter is read as the beginning of what was meant only where it is plain, and then it is all
that was meant. -/
theorem token_eq_iff {c : UInt8} (ending : c ∈ ends) (text lost more rest : Bytes) :
    token ends (text ++ c :: more) = (text ++ lost, rest) ↔ Plain ends text ∧ lost = [] ∧ rest = c :: more := by
  induction text with
  | nil =>
    rw [List.nil_append, token_stop solid (List.mem_cons_of_mem 10 ending)]
    simp [plain_nil, eq_comm]
  | cons b text ih =>
    obtain ⟨next, s, split⟩ : ∃ next s, text ++ c :: more = next :: s := List.exists_cons_of_ne_nil (by simp)
    rw [List.cons_append, List.cons_append, split]
    by_cases stop : b ∈ 10 :: ends
    · rw [token_stop solid stop]
      constructor
      · intro same
        simp at same
      · intro plain
        exact absurd stop (plain.1.no_end b List.mem_cons_self)
    · by_cases escape : b = 92 ∧ next ∈ ends
      · obtain ⟨rfl, delimiter⟩ := escape
        rw [token_escape delimiter]
        constructor
        · -- the delimiter is read in place of the backslash
          intro same
          have swallowed : next = 92 := by
            simp only [Prod.mk.injEq, List.cons.injEq] at same
            exact same.1.1
          exact absurd (swallowed ▸ delimiter) solid
        · intro plain
          cases text with
          | nil => exact absurd rfl plain.1.no_escape
          | cons d text =>
            obtain ⟨rfl, -⟩ := List.cons.inj split
            exact absurd (List.mem_cons_of_mem 10 delimiter) (plain.1.no_end d (by simp))
      · have last : text = [] → b ≠ 92 := by
          rintro rfl rfl
          obtain ⟨rfl, -⟩ := List.cons.inj split
          exact escape ⟨rfl, ending⟩
        rw [token_inner stop escape, ← split, plain_cons stop last, ← ih]
        simp [Prod.ext_iff]

theorem token_of_plain {text : Bytes} (plain : Plain ends text) {c : UInt8} (ending : c ∈ ends) (more : Bytes) :
    token ends (text ++ c :: more) = (text, c :: more) := by
  have whole := (token_eq_iff solid ending text [] more (c :: more)).mpr ⟨plain, rfl, rfl⟩
  rwa [List.append_nil] at whole

end Token

/-! ### Tags -/

theorem tags_end {b : UInt8} (other : b ≠ 44) (dialect : Dialect) (bound : Nat) (s : Bytes) :
    tags dialect bound (b :: s) = some ([], b :: s) := by
  cases bound <;> rw [tags, if_neg other]

/-- A tag that was written without escapes is read as it was meant exactly when its value is plain. -/
theorem tag_eq_iff {key : Bytes} (plain : Plain keyEnds key) (named : key ≠ []) {c : UInt8} (ending : c ∈ keyEnds)
    (dialect : Dialect) (value lost more rest : Bytes) :
    tag dialect (key ++ 61 :: (value ++ c :: more)) = some ((key, value ++ lost), rest) ↔
      (Plain keyEnds value ∧ (dialect.emptyTagValue = true ∨ value ≠ [])) ∧ lost = [] ∧ rest = c :: more := by
  have name : token keyEnds (key ++ 61 :: (value ++ c :: more)) = (key, 61 :: (value ++ c :: more)) :=
    token_of_plain (by decide) plain (by decide) _
  have reads := token_eq_iff (by decide) ending value lost more rest
  simp only [tag, name]
  constructor
  · intro read
    split at read
    · cases read
    · rename_i acceptable
      have found := Option.some.inj read
      simp only [Prod.mk.injEq, true_and] at found
      obtain ⟨clean, rfl, remainder⟩ := reads.mp (Prod.ext found.1 found.2)
      rw [found.1, List.append_nil] at acceptable
      refine ⟨⟨clean, ?_⟩, rfl, remainder⟩
      tauto
  · intro meant
    obtain ⟨⟨clean, acceptable⟩, rfl, remainder⟩ := meant
    have found := reads.mpr ⟨clean, rfl, remainder⟩
    rw [List.append_nil] at found ⊢
    rw [found]
    exact if_neg (by tauto)

theorem tags_cons_iff {key : Bytes} (plain : Plain keyEnds key) (named : key ≠ []) {c : UInt8} (ending : c ∈ keyEnds)
    (dialect : Dialect) (bound : Nat) (value lost more : Bytes) (others : List (Bytes × Bytes)) (rest : Bytes) :
    tags dialect (bound + 1) (44 :: (key ++ 61 :: (value ++ c :: more))) = some ((key, value ++ lost) :: others, rest) ↔
      ((Plain keyEnds value ∧ (dialect.emptyTagValue = true ∨ value ≠ [])) ∧ lost = []) ∧
        tags dialect bound (c :: more) = some (others, rest) := by
  have first := tag_eq_iff plain named ending dialect value lost more
  rw [tags, if_pos rfl]
  constructor
  · intro read
    obtain ⟨⟨head, s⟩, found, following⟩ := Option.bind_eq_some_iff.mp read
    obtain ⟨⟨later, left⟩, remainder, same⟩ := Option.map_eq_some_iff.mp following
    simp only [Prod.mk.injEq, List.cons.injEq] at same
    obtain ⟨⟨rfl, rfl⟩, rfl⟩ := same
    obtain ⟨clean, whole, rfl⟩ := (first s).mp found
    exact ⟨⟨clean, whole⟩, remainder⟩
  · intro meant
    obtain ⟨⟨clean, whole⟩, remainder⟩ := meant
    rw [(first _).mpr ⟨clean, whole, rfl⟩]
    simp only [Option.bind_some, remainder, Option.map_some]

/-! ### Strings -/

/-- How a string is written between its quotes. -/
def escapeString (text : Bytes) : Bytes := text.flatMap fun b => if b = 34 ∨ b = 92 then [92, b] else [b]

theorem string_escapeString (dialect : Dialect) (text more : Bytes) :
    string dialect (escapeString text ++ 34 :: more) =
      if dialect.newlineInString = true ∨ 10 ∉ text then some (text, more) else none := by
  induction text with
  | nil => cases more <;> simp [escapeString, string]
  | cons b text ih =>
    obtain ⟨next, s, split⟩ : ∃ next s, escapeString text ++ 34 :: more = next :: s :=
      List.exists_cons_of_ne_nil (by simp)
    by_cases special : b = 34 ∨ b = 92
    · have here : escapeString (b :: text) ++ 34 :: more = 92 :: b :: (escapeString text ++ 34 :: more) := by
        simp [escapeString, special]
      have inner : (10 : UInt8) ∈ b :: text ↔ 10 ∈ text := by
        rcases special with rfl | rfl <;> simp
      rw [here, string, if_neg (by decide), if_pos ⟨rfl, special⟩, ih]
      simp only [inner]
      split <;> rfl
    · have here : escapeString (b :: text) ++ 34 :: more = b :: next :: s := by
        rw [← split]
        simp [escapeString, special]
      push Not at special
      rw [here, string, if_neg special.1, if_neg (fun escape => special.2 escape.1), ← split, ih]
      by_cases newline : b = 10
      · subst newline
        cases dialect.newlineInString <;> simp
      · rw [if_neg (fun refused => newline refused.1)]
        simp only [List.mem_cons, Ne.symm newline, false_or]
        split <;> rfl

theorem fields_string {key : Bytes} (plain : Plain keyEnds key) (named : key ≠ []) (dialect : Dialect) (bound : Nat)
    (text more : Bytes) :
    fields dialect (bound + 1) (key ++ 61 :: 34 :: (escapeString text ++ 34 :: 32 :: more)) =
      if dialect.newlineInString = true ∨ 10 ∉ text then some ([(key, .string text)], 32 :: more) else none := by
  have name : token keyEnds (key ++ 61 :: 34 :: (escapeString text ++ 34 :: 32 :: more)) =
      (key, 61 :: 34 :: (escapeString text ++ 34 :: 32 :: more)) := token_of_plain (by decide) plain (by decide) _
  have value := string_escapeString dialect text (32 :: more)
  simp only [fields, field, name, if_neg named, fieldValue, value]
  split <;> rfl

/-! ### Points -/

theorem timestamp_line {digits : Bytes} (number : IsInteger digits) (solid : 10 ∉ digits) :
    timestamp (32 :: (digits ++ [10])) = some (some digits, [10]) := by
  have cut : (digits ++ [10]).span (· ≠ 10) = (digits, [10]) := by
    rw [List.span_eq_takeWhile_dropWhile, List.takeWhile_append_of_pos, List.dropWhile_append_of_pos]
    · simp
    · intro b member
      simpa using fun same : b = 10 => solid (same ▸ member)
    · intro b member
      simpa using fun same : b = 10 => solid (same ▸ member)
  unfold timestamp
  simp only [cut, if_pos number]

theorem isInteger_decimalNat (n : Nat) : IsInteger (decimalNat n) := by
  have digits := decimalNat_digits n
  have unsigned : (decimalNat n).head? ≠ some 45 := by
    intro minus
    exact absurd (digits 45 (List.mem_of_mem_head? minus)) (by decide)
  unfold IsInteger
  rw [if_neg unsigned]
  exact ⟨decimalNat_ne_nil n, digits⟩

theorem isInteger_decimal (n : Int) : IsInteger (decimal n) := by
  cases n with
  | ofNat n => exact isInteger_decimalNat n
  | negSucc n =>
    unfold IsInteger
    exact ⟨decimalNat_ne_nil (n + 1), decimalNat_digits (n + 1)⟩

/-- A point after a plain measurement is its tags, its fields and its timestamp. -/
theorem point_eq_some_iff {measurement : Bytes} (plain : Plain measurementEnds measurement) (named : measurement ≠ [])
    {c : UInt8} (ending : c ∈ measurementEnds) (dialect : Dialect) (s : Bytes) (only : Point) (rest : Bytes) :
    point dialect (measurement ++ c :: s) = some (only, rest) ↔
      only.measurement = measurement ∧ ∃ s₁ s₂, tags dialect (s.length + 1) (c :: s) = some (only.tags, 32 :: s₁) ∧
        fields dialect s₁.length s₁ = some (only.fields, s₂) ∧ timestamp s₂ = some (only.timestamp, rest) := by
  rw [point, token_of_plain (by decide) plain ending]
  simp only [if_neg named, List.length_cons]
  constructor
  · intro read
    obtain ⟨⟨tagList, s₁⟩, tagged, following⟩ := Option.bind_eq_some_iff.mp read
    split at following
    · rename_i s₁ split
      obtain ⟨rfl, rfl⟩ := Prod.mk.inj split
      obtain ⟨⟨fieldList, s₂⟩, filled, stamped⟩ := Option.bind_eq_some_iff.mp following
      obtain ⟨⟨stamp, left⟩, timed, same⟩ := Option.map_eq_some_iff.mp stamped
      obtain ⟨rfl, rfl⟩ := Prod.mk.inj same
      exact ⟨rfl, s₁, s₂, tagged, filled, timed⟩
    · cases following
  · intro parts
    obtain ⟨rfl, s₁, s₂, tagged, filled, timed⟩ := parts
    simp only [tagged, Option.bind_some, filled, timed, Option.map_some]

theorem parse_line {dialect : Dialect} {b : UInt8} {text : Bytes} {first : Point}
    (read : point dialect (b :: text) = some (first, [10])) : parse dialect (b :: text) = some [first] := by
  have nothing : points dialect text.length [] = some [] := by rw [points]
  rw [parse, List.length_cons, points, read]
  · simp only [Option.bind_some, nothing, Option.map_some]
  · simp

theorem point_of_parse {dialect : Dialect} {text : Bytes} {only : Point} (read : parse dialect text = some [only]) :
    ∃ rest, point dialect text = some (only, rest) := by
  cases text with
  | nil => simp [parse, points] at read
  | cons b text =>
    rw [parse, List.length_cons, points] at read
    · obtain ⟨⟨first, rest⟩, found, following⟩ := Option.bind_eq_some_iff.mp read
      refine ⟨rest, ?_⟩
      have same : first = only := by
        split at following
        · rename_i last
          obtain ⟨rfl, -⟩ := Prod.mk.inj last
          simpa using following
        · rename_i newline
          obtain ⟨rfl, -⟩ := Prod.mk.inj newline
          obtain ⟨more, -, same⟩ := Option.map_eq_some_iff.mp following
          exact (List.cons.inj same).1
        · cases following
      rw [found, same]
    · simp

end IotGateway.LineProtocol
