import IotGateway.Lib.Text
import IotGateway.Lib.Decoder

/-!
# HTTP responses

What a client makes of the bytes of a connection: a status line and header lines up to an
empty line, then as many bytes as `Content-Length` says. A response that is written with
its true length is read back as it is, whatever follows, and in whatever pieces it comes.
-/

namespace IotGateway.Http
open Text

def crlf : Bytes := [13, 10]

structure Response where
  status : Nat
  reason : Bytes
  headers : List (Bytes × Bytes)
  body : Bytes
  deriving DecidableEq, Repr

/-! ### Writing -/

def statusLine (status : Nat) (reason : Bytes) : Bytes := ascii "HTTP/1.1 " ++ (decimalNat status ++ 32 :: reason)

def headerLine (h : Bytes × Bytes) : Bytes := h.1 ++ 58 :: 32 :: h.2

/-- Lines with their ends, and the empty line. -/
def block (lines : List Bytes) : Bytes := lines.flatMap (· ++ crlf) ++ crlf

def Response.head (r : Response) : Bytes := block (statusLine r.status r.reason :: r.headers.map headerLine)

def Response.render (r : Response) : Bytes := r.head ++ r.body

/-! ### Reading -/

/-- The lines up to an empty one, and what follows it. -/
def readLines : Nat → Bytes → Option (List Bytes × Bytes)
  | 0, _ => none
  | fuel + 1, s =>
    match indexOf crlf s with
    | none => none
    | some i =>
      if i = 0 then some ([], s.drop 2)
      else (readLines fuel (s.drop (i + 2))).map fun (lines, rest) => (s.take i :: lines, rest)

def readStatus (line : Bytes) : Option (Nat × Bytes) :=
  let start := ascii "HTTP/1.1 "
  if start <+: line then
    let digits := (line.drop start.length).takeWhile isDigit
    match (line.drop start.length).dropWhile isDigit with
    | 32 :: reason => if digits = [] then none else some (digitsValue digits, reason)
    | _ => none
  else none

/-- A name, a colon, and the value after the blanks. -/
def readHeader (line : Bytes) : Option (Bytes × Bytes) :=
  match indexOf [58] line with
  | none => none
  | some i => if i = 0 then none else some (line.take i, (line.drop (i + 1)).dropWhile (· = 32))

def lower (b : UInt8) : UInt8 := if 65 ≤ b && b ≤ 90 then b + 32 else b

def isContentLength (h : Bytes × Bytes) : Bool := h.1.map lower = ascii "content-length"

def contentLength (headers : List (Bytes × Bytes)) : Option Nat :=
  match headers.find? isContentLength with
  | none => none
  | some h => if h.2 ≠ [] ∧ h.2.all isDigit then some (digitsValue h.2) else none

structure Head where
  status : Nat
  reason : Bytes
  headers : List (Bytes × Bytes)
  length : Nat

def readHead : List Bytes → Option Head
  | [] => none
  | first :: lines => do
    let (status, reason) ← readStatus first
    let headers ← lines.mapM readHeader
    let length ← contentLength headers
    return { status, reason, headers, length }

def next (s : Bytes) : Outcome UInt8 Response :=
  match readLines (s.length + 1) s with
  | none => .incomplete
  | some (lines, rest) =>
    match readHead lines with
    | none => .fail rest
    | some head =>
      if head.length ≤ rest.length then
        .emit [{ status := head.status, reason := head.reason, headers := head.headers, body := rest.take head.length }]
          (rest.drop head.length)
      else .incomplete

/-! ### More input -/

/-- What was found is still the first match when more input has come. -/
theorem indexOf_more {pat s : Bytes} {i : Nat} (found : indexOf pat s = some i) (t : Bytes) :
    indexOf pat (s ++ t) = some i := by
  have here := prefix_of_indexOf found
  by_cases inside : i ≤ s.length
  swap
  · -- only the empty pattern is found behind the end
    have none : pat = [] := by
      rw [List.drop_eq_nil_of_le (by omega)] at here
      exact List.prefix_nil.mp here
    subst none
    have first : indexOf [] s = some 0 := indexOf_start List.nil_prefix
    have same := found.symm.trans first
    injection same with same
    omega
  have long := here.length_le
  rw [List.length_drop] at long
  have split : s ++ t = s.take i ++ (s.drop i ++ t) := by rw [← List.append_assoc, List.take_append_drop]
  have length : (s.take i).length = i := List.length_take_of_le inside
  rw [split, indexOf_append (s.take i) (here.trans (List.prefix_append _ _)), length]
  intro j below early
  rw [length] at below
  rw [← split, List.drop_append_of_le_length (by omega)] at early
  apply not_prefix_before_indexOf found below
  refine List.prefix_of_prefix_length_le early (List.prefix_append _ t) ?_
  rw [List.length_drop]
  omega

theorem length_of_indexOf {pat s : Bytes} {i : Nat} (found : indexOf pat s = some i) (some : pat ≠ []) :
    i + pat.length ≤ s.length := by
  have here := (prefix_of_indexOf found).length_le
  have positive := List.length_pos_iff.mpr some
  rw [List.length_drop] at here
  omega

theorem readLines_more {fuel : Nat} {s rest : Bytes} {lines : List Bytes} (read : readLines fuel s = some (lines, rest))
    (t : Bytes) {fuel' : Nat} (enough : fuel ≤ fuel') : readLines fuel' (s ++ t) = some (lines, rest ++ t) := by
  induction fuel generalizing fuel' s lines with
  | zero => cases read
  | succ fuel ih =>
    obtain ⟨fuel', rfl⟩ : ∃ n, fuel' = n + 1 := ⟨fuel' - 1, by omega⟩
    unfold readLines at read ⊢
    cases found : indexOf crlf s with
    | none =>
      rw [found] at read
      cases read
    | some i =>
      have inside : i + 2 ≤ s.length := length_of_indexOf found (by decide)
      rw [found] at read
      rw [indexOf_more found t]
      dsimp only at read ⊢
      split
      · rename_i first
        rw [if_pos first] at read
        cases read
        rw [List.drop_append_of_le_length (by omega)]
      · rename_i later
        rw [if_neg later] at read
        obtain ⟨⟨others, rest'⟩, tail, same⟩ := Option.map_eq_some_iff.mp read
        cases same
        rw [List.drop_append_of_le_length inside, ih tail (by omega), List.take_append_of_le_length (by omega)]
        rfl

theorem readLines_shorter {fuel : Nat} {s rest : Bytes} {lines : List Bytes} (read : readLines fuel s = some (lines, rest)) :
    rest.length < s.length := by
  induction fuel generalizing s lines with
  | zero => cases read
  | succ fuel ih =>
    unfold readLines at read
    cases found : indexOf crlf s with
    | none =>
      rw [found] at read
      cases read
    | some i =>
      have inside : i + 2 ≤ s.length := length_of_indexOf found (by decide)
      rw [found] at read
      dsimp only at read
      split at read
      · cases read
        rw [List.length_drop]
        omega
      · obtain ⟨⟨others, rest'⟩, tail, same⟩ := Option.map_eq_some_iff.mp read
        cases same
        have shorter := ih tail
        rw [List.length_drop] at shorter
        omega

theorem next_cases (s : Bytes) :
    next s = .incomplete ∨
      (∃ lines rest, readLines (s.length + 1) s = some (lines, rest) ∧ readHead lines = none ∧ next s = .fail rest) ∨
      ∃ lines rest head, readLines (s.length + 1) s = some (lines, rest) ∧ readHead lines = some head ∧
        head.length ≤ rest.length ∧ next s = .emit
          [{ status := head.status, reason := head.reason, headers := head.headers, body := rest.take head.length }]
          (rest.drop head.length) := by
  unfold next
  cases read : readLines (s.length + 1) s with
  | none => exact Or.inl rfl
  | some found =>
    obtain ⟨lines, rest⟩ := found
    dsimp only
    cases head : readHead lines with
    | none => exact Or.inr (Or.inl ⟨lines, rest, rfl, head, rfl⟩)
    | some head' =>
      dsimp only
      split
      · rename_i whole
        exact Or.inr (Or.inr ⟨lines, rest, head', rfl, head, whole, rfl⟩)
      · exact Or.inl rfl

/-- The reader of responses, as a decoder fed in pieces. -/
def responses : Decoder UInt8 Response where
  next := next
  emit_shorter := by
    intro s rest es emitted
    rcases next_cases s with wait | ⟨lines, rest', _, _, failed⟩ | ⟨lines, rest', head, read, _, _, taken⟩
    · rw [wait] at emitted
      cases emitted
    · rw [failed] at emitted
      cases emitted
    · rw [taken] at emitted
      cases emitted
      have shorter := readLines_shorter read
      rw [List.length_drop]
      omega
  emit_append := by
    intro s rest es t emitted
    rcases next_cases s with wait | ⟨lines, rest', _, _, failed⟩ | ⟨lines, rest', head, read, parsed, whole, taken⟩
    · rw [wait] at emitted
      cases emitted
    · rw [failed] at emitted
      cases emitted
    · rw [taken] at emitted
      cases emitted
      unfold next
      rw [readLines_more read t (by simp)]
      dsimp only
      rw [parsed]
      dsimp only
      rw [if_pos (by rw [List.length_append]; omega), List.take_append_of_le_length whole, List.drop_append_of_le_length whole]
  fail_append := by
    intro s rest t failed
    rcases next_cases s with wait | ⟨lines, rest', read, parsed, failed'⟩ | ⟨lines, rest', head, _, _, _, taken⟩
    · rw [wait] at failed
      cases failed
    · rw [failed'] at failed
      cases failed
      unfold next
      rw [readLines_more read t (by simp)]
      dsimp only
      rw [parsed]
    · rw [taken] at failed
      cases failed

/-! ### What was written is read -/

/-- A response whose parts can be told apart and whose length is what it says. -/
structure Response.Sound (r : Response) : Prop where
  reason : 13 ∉ r.reason
  name : ∀ h ∈ r.headers, h.1 ≠ [] ∧ 13 ∉ h.1 ∧ 58 ∉ h.1
  value : ∀ h ∈ r.headers, 13 ∉ h.2 ∧ h.2.head? ≠ some 32
  length : ∃ h, r.headers.find? isContentLength = some h ∧ h.2 = decimalNat r.body.length

theorem indexOf_line {line : Bytes} (plain : 13 ∉ line) (rest : Bytes) : indexOf crlf (line ++ crlf ++ rest) = some line.length := by
  rw [List.append_assoc]
  exact indexOf_append line (List.prefix_append _ _) fun _ below => not_prefix_where_absent plain below

theorem readLines_block {lines : List Bytes} (plain : ∀ line ∈ lines, line ≠ [] ∧ 13 ∉ line) (rest : Bytes) {fuel : Nat}
    (enough : lines.length < fuel) : readLines fuel (block lines ++ rest) = some (lines, rest) := by
  induction lines generalizing fuel with
  | nil =>
    obtain ⟨fuel, rfl⟩ : ∃ n, fuel = n + 1 := ⟨fuel - 1, by omega⟩
    have first : indexOf crlf (crlf ++ rest) = some 0 := indexOf_start (List.prefix_append _ _)
    have shape : block [] ++ rest = crlf ++ rest := rfl
    rw [shape, readLines, first]
    rfl
  | cons line lines ih =>
    obtain ⟨fuel, rfl⟩ : ∃ n, fuel = n + 1 := ⟨fuel - 1, by omega⟩
    obtain ⟨some, clean⟩ := plain line List.mem_cons_self
    have shape : block (line :: lines) ++ rest = line ++ crlf ++ (block lines ++ rest) := by
      simp [block]
    have later : line.length ≠ 0 := fun zero => some (List.length_eq_zero_iff.mp zero)
    rw [shape, readLines, indexOf_line clean]
    dsimp only
    rw [if_neg later]
    have dropped : (line ++ crlf ++ (block lines ++ rest)).drop (line.length + 2) = block lines ++ rest := by
      rw [show line.length + 2 = (line ++ crlf).length by simp [crlf], List.drop_left]
    rw [dropped, ih (fun other member => plain other (List.mem_cons_of_mem _ member)) (by simp at enough; omega)]
    simp

theorem readStatus_statusLine (status : Nat) (reason : Bytes) : readStatus (statusLine status reason) = some (status, reason) := by
  unfold readStatus statusLine
  dsimp only
  rw [if_pos (List.prefix_append _ _), List.drop_left]
  have digits : ∀ b ∈ decimalNat status, isDigit b = true := decimalNat_digits status
  have last : isDigit 32 = false := by decide
  rw [List.takeWhile_append_of_pos digits, List.dropWhile_append_of_pos digits]
  simp [last, decimalNat_ne_nil, digitsValue_decimalNat]

theorem readHeader_headerLine {h : Bytes × Bytes} (name : h.1 ≠ [] ∧ 58 ∉ h.1) (value : h.2.head? ≠ some 32) :
    readHeader (headerLine h) = some h := by
  unfold readHeader headerLine
  have later : h.1.length ≠ 0 := fun zero => name.1 (List.length_eq_zero_iff.mp zero)
  have dropped : (h.1 ++ 58 :: 32 :: h.2).drop (h.1.length + 1) = 32 :: h.2 := by
    rw [← List.drop_drop, List.drop_left]
    rfl
  have kept : (32 :: h.2).dropWhile (fun b => decide (b = 32)) = h.2 := by
    rw [List.dropWhile_cons_of_pos (by simp)]
    cases text : h.2 with
    | nil => rfl
    | cons b s =>
      rw [text] at value
      have other : b ≠ 32 := fun same => value (by rw [same]; rfl)
      rw [List.dropWhile_cons_of_neg (by simpa using other)]
  rw [indexOf_byte name.2]
  dsimp only
  rw [if_neg later, dropped, kept, List.take_left]

theorem mapM_readHeader {headers : List (Bytes × Bytes)} (sound : ∀ h ∈ headers, (h.1 ≠ [] ∧ 58 ∉ h.1) ∧ h.2.head? ≠ some 32) :
    (headers.map headerLine).mapM readHeader = some headers := by
  induction headers with
  | nil => rfl
  | cons h headers ih =>
    have first := sound h List.mem_cons_self
    rw [List.map_cons, List.mapM_cons, readHeader_headerLine first.1 first.2,
      ih fun other member => sound other (List.mem_cons_of_mem _ member)]
    rfl

theorem contentLength_of_sound {r : Response} (sound : r.Sound) : contentLength r.headers = some r.body.length := by
  obtain ⟨h, found, value⟩ := sound.length
  have digits : (decimalNat r.body.length).all isDigit = true := List.all_eq_true.mpr (decimalNat_digits _)
  rw [contentLength, found]
  dsimp only
  rw [value, if_pos ⟨decimalNat_ne_nil _, digits⟩, digitsValue_decimalNat]

/-- One response is read off, and what follows it is left. -/
theorem next_render {r : Response} (sound : r.Sound) (rest : Bytes) : next (r.render ++ rest) = .emit [r] rest := by
  have lines : ∀ line ∈ statusLine r.status r.reason :: r.headers.map headerLine, line ≠ [] ∧ 13 ∉ line := by
    intro line member
    rcases List.mem_cons.mp member with rfl | member
    · refine ⟨by simp [statusLine, ascii], ?_⟩
      have number : (13 : UInt8) ∉ decimalNat r.status := not_mem_decimalNat (by decide) _
      simp only [statusLine, List.mem_append, List.mem_cons, not_or]
      exact ⟨by decide, number, by decide, sound.reason⟩
    · obtain ⟨h, there, rfl⟩ := List.mem_map.mp member
      have name := sound.name h there
      have value := sound.value h there
      refine ⟨by simp [headerLine], ?_⟩
      simp only [headerLine, List.mem_append, List.mem_cons, not_or]
      exact ⟨name.2.1, by decide, by decide, value.1⟩
  have long : (statusLine r.status r.reason :: r.headers.map headerLine).length < (r.render ++ rest).length + 1 := by
    have each : ∀ lines : List Bytes, lines.length ≤ (block lines).length := by
      intro lines
      induction lines with
      | nil => exact Nat.zero_le _
      | cons line lines ih =>
        have shape : block (line :: lines) = line ++ crlf ++ block lines := by simp [block]
        rw [shape]
        simp only [List.length_cons, List.length_append]
        have two : crlf.length = 2 := rfl
        omega
    have whole := each (statusLine r.status r.reason :: r.headers.map headerLine)
    simp only [Response.render, Response.head, List.length_append] at whole ⊢
    omega
  have read : readHead (statusLine r.status r.reason :: r.headers.map headerLine) =
      some { status := r.status, reason := r.reason, headers := r.headers, length := r.body.length } := by
    have headers : (r.headers.map headerLine).mapM readHeader = some r.headers :=
      mapM_readHeader fun h member =>
        ⟨⟨(sound.name h member).1, (sound.name h member).2.2⟩, (sound.value h member).2⟩
    rw [readHead, readStatus_statusLine]
    simp [headers, contentLength_of_sound sound]
  unfold next
  have split : r.render ++ rest = r.head ++ (r.body ++ rest) := List.append_assoc _ _ _
  rw [split] at long ⊢
  rw [Response.head, readLines_block lines _ (by rw [Response.head] at long; exact long)]
  dsimp only
  rw [read]
  dsimp only
  rw [if_pos (by rw [List.length_append]; omega), List.take_left, List.drop_left]

/-- Responses that come one after the other, in any pieces, are read one by one and nothing is left. -/
theorem feedAll_render {rs : List Response} (sound : ∀ r ∈ rs, r.Sound) {pieces : List Bytes}
    (sent : pieces.flatten = rs.flatMap Response.render) : responses.feedAll pieces = (rs.map .event, []) := by
  have waits : responses.next [] = .incomplete := rfl
  have drained : responses.drain (rs.flatMap Response.render) = (rs.map .event, []) := by
    clear sent
    induction rs with
    | nil => exact responses.drain_incomplete waits
    | cons r rs ih =>
      have first : responses.next (r.render ++ rs.flatMap Response.render) = .emit [r] (rs.flatMap Response.render) :=
        next_render (sound r List.mem_cons_self) _
      rw [List.flatMap_cons, responses.drain_emit first, ih fun other member => sound other (List.mem_cons_of_mem _ member)]
      rfl
  have fed := (responses.feedAll_drain waits pieces).2
  rw [sent, drained] at fed
  exact fed (by simp)

end IotGateway.Http
