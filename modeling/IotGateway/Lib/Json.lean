import IotGateway.Lib.Text

/-!
# JSON texts

The grammar of RFC 8259 over bytes, with the members of an object kept as pairs of a
name and the text of its value. A value that is held in quotes is made of bytes that may
stand in a string, and an object is as long as its members need. What a text holds in quotes
can be read off by counting quotes once no string has an escape: `pieces` writes a text as
strings and gaps, and in a JSON text every gap between two strings has a comma or a colon.
-/

namespace IotGateway.Json
open Text

/-- The bytes that may stand in a string as they are. -/
structure Charset where
  plain : UInt8 → Prop
  no_quote : ¬ plain 34
  no_backslash : ¬ plain 92

/-- Every byte but the two that end a string or start an escape. -/
def Charset.bytes : Charset := ⟨fun b => b ≠ 34 ∧ b ≠ 92, by decide, by decide⟩

/-- The standard's: no control characters either. -/
def Charset.unescaped : Charset := ⟨fun b => 32 ≤ b ∧ b ≠ 34 ∧ b ≠ 92, by decide, by decide⟩

/-! ### Grammar -/

def IsSpaces (s : Bytes) : Prop := ∀ b ∈ s, b = 32 ∨ b = 9 ∨ b = 10 ∨ b = 13

def IsDigits (s : Bytes) : Prop := s ≠ [] ∧ ∀ b ∈ s, isDigit b = true

def isHex (b : UInt8) : Bool := isDigit b || (65 ≤ b && b ≤ 70) || (97 ≤ b && b ≤ 102)

/-- The text between the quotes of a string. -/
inductive Content (cs : Charset) : Bytes → Prop
  | nil : Content cs []
  | plain {b : UInt8} {s : Bytes} (allowed : cs.plain b) (rest : Content cs s) : Content cs (b :: s)
  | escape {e : UInt8} {s : Bytes} (known : e ∈ ascii "\"\\/bfnrt") (rest : Content cs s) : Content cs (92 :: e :: s)
  | unicode {hex s : Bytes} (four : hex.length = 4) (digits : ∀ b ∈ hex, isHex b = true) (rest : Content cs s) :
      Content cs (92 :: 117 :: (hex ++ s))

inductive Fraction : Bytes → Prop
  | none : Fraction []
  | some {digits : Bytes} (some : IsDigits digits) : Fraction (46 :: digits)

inductive Exponent : Bytes → Prop
  | none : Exponent []
  | some {e : UInt8} {sign digits : Bytes} (letter : e = 69 ∨ e = 101) (signed : sign = [] ∨ sign = [43] ∨ sign = [45])
      (some : IsDigits digits) : Exponent (e :: (sign ++ digits))

/-- The integer part, without leading zeros. -/
inductive Whole : Bytes → Prop
  | zero : Whole [48]
  | some {d : UInt8} {digits : Bytes} (first : isDigit d = true) (nonzero : d ≠ 48)
      (rest : ∀ b ∈ digits, isDigit b = true) : Whole (d :: digits)

inductive Scalar : Bytes → Prop
  | true : Scalar (ascii "true")
  | false : Scalar (ascii "false")
  | null : Scalar (ascii "null")
  | number {sign whole fraction exponent : Bytes} (signed : sign = [] ∨ sign = [45]) (digits : Whole whole)
      (fractional : Fraction fraction) (scaled : Exponent exponent) : Scalar (sign ++ whole ++ fraction ++ exponent)

def quoted (s : Bytes) : Bytes := 34 :: (s ++ [34])

/-- What a text can be read as. A value comes with the whitespace around it, an array and an object come as what stands
between their brackets. -/
inductive Part where
  | text
  | elements (values : List Bytes)
  | members (ms : List (Bytes × Bytes))

inductive Derives (cs : Charset) : Part → Bytes → Prop
  | scalar {u a v : Bytes} (left : IsSpaces u) (right : IsSpaces v) (value : Scalar a) : Derives cs .text (u ++ a ++ v)
  | string {u s v : Bytes} (left : IsSpaces u) (right : IsSpaces v) (value : Content cs s) :
      Derives cs .text (u ++ quoted s ++ v)
  | array {u t v : Bytes} {values : List Bytes} (left : IsSpaces u) (right : IsSpaces v)
      (value : Derives cs (.elements values) t) : Derives cs .text (u ++ (91 :: (t ++ [93])) ++ v)
  | object {u t v : Bytes} {ms : List (Bytes × Bytes)} (left : IsSpaces u) (right : IsSpaces v)
      (value : Derives cs (.members ms) t) : Derives cs .text (u ++ (123 :: (t ++ [125])) ++ v)
  | noElements {w : Bytes} (spaces : IsSpaces w) : Derives cs (.elements []) w
  | lastElement {t : Bytes} (value : Derives cs .text t) : Derives cs (.elements [t]) t
  | element {t rest next : Bytes} {values : List Bytes} (value : Derives cs .text t)
      (others : Derives cs (.elements (next :: values)) rest) :
      Derives cs (.elements (t :: next :: values)) (t ++ 44 :: rest)
  | noMembers {w : Bytes} (spaces : IsSpaces w) : Derives cs (.members []) w
  | lastMember {u name v t : Bytes} (left : IsSpaces u) (right : IsSpaces v) (named : Content cs name)
      (value : Derives cs .text t) : Derives cs (.members [(name, t)]) (u ++ quoted name ++ v ++ 58 :: t)
  | member {u name v t rest : Bytes} {next : Bytes × Bytes} {ms : List (Bytes × Bytes)} (left : IsSpaces u)
      (right : IsSpaces v) (named : Content cs name) (value : Derives cs .text t)
      (others : Derives cs (.members (next :: ms)) rest) :
      Derives cs (.members ((name, t) :: next :: ms)) (u ++ quoted name ++ v ++ 58 :: t ++ 44 :: rest)

/-- The text is an object with these members, in this order. -/
def IsObject (cs : Charset) (ms : List (Bytes × Bytes)) (text : Bytes) : Prop :=
  ∃ t, Derives cs (.members ms) t ∧ text = 123 :: (t ++ [125])

/-! ### Bytes of a text -/

theorem isSpaces_nil : IsSpaces [] := by
  intro b member
  cases member

theorem no_quote_of_isSpaces {s : Bytes} (spaces : IsSpaces s) : 34 ∉ s :=
  fun member => absurd (spaces 34 member) (by decide)

/-- Neither whitespace nor a control character nor a quote. -/
def Solid (s : Bytes) : Prop := ∀ b ∈ s, 32 < b ∧ b ≠ 34

instance (s : Bytes) : Decidable (Solid s) := inferInstanceAs (Decidable (∀ b ∈ s, 32 < b ∧ b ≠ 34))

theorem solid_nil : Solid [] := by
  intro b member
  cases member

theorem solid_cons {b : UInt8} {s : Bytes} (first : 32 < b ∧ b ≠ 34) (rest : Solid s) : Solid (b :: s) :=
  List.forall_mem_cons.mpr ⟨first, rest⟩

theorem solid_append {s t : Bytes} (left : Solid s) (right : Solid t) : Solid (s ++ t) :=
  List.forall_mem_append.mpr ⟨left, right⟩

theorem solid_of_isDigit {b : UInt8} (digit : isDigit b = true) : 32 < b ∧ b ≠ 34 := by
  simp only [isDigit, Bool.and_eq_true, decide_eq_true_eq, UInt8.le_iff_toNat_le, UInt8.reduceToNat] at digit
  simp only [UInt8.lt_iff_toNat_lt, ne_eq, ← UInt8.toNat_inj, UInt8.reduceToNat]
  omega

theorem solid_of_digits {s : Bytes} (digits : ∀ b ∈ s, isDigit b = true) : Solid s :=
  fun b member => solid_of_isDigit (digits b member)

theorem solid_of_scalar {s : Bytes} (scalar : Scalar s) : Solid s := by
  cases scalar with
  | true | false | null => decide
  | number signed digits fractional scaled =>
    refine solid_append (solid_append (solid_append ?_ ?_) ?_) ?_
    · rcases signed with rfl | rfl
      all_goals decide
    · cases digits with
      | zero => decide
      | some first nonzero rest => exact solid_cons (solid_of_isDigit first) (solid_of_digits rest)
    · cases fractional with
      | none => exact solid_nil
      | some digits => exact solid_cons (by decide) (solid_of_digits digits.2)
    · cases scaled with
      | none => exact solid_nil
      | some letter signed digits =>
        refine solid_cons ?_ (solid_append ?_ (solid_of_digits digits.2))
        · rcases letter with rfl | rfl
          all_goals decide
        · rcases signed with rfl | rfl | rfl
          all_goals decide

theorem no_quote_of_scalar {s : Bytes} (scalar : Scalar s) : 34 ∉ s :=
  fun member => (solid_of_scalar scalar 34 member).2 rfl

theorem no_quote_of_content {cs : Charset} {s : Bytes} (content : Content cs s) (plain : 92 ∉ s) : 34 ∉ s := by
  induction content with
  | nil => exact List.not_mem_nil
  | plain allowed rest ih =>
    simp only [List.mem_cons, not_or] at plain ⊢
    refine ⟨?_, ih plain.2⟩
    rintro rfl
    exact cs.no_quote allowed
  | escape known rest ih => exact absurd List.mem_cons_self plain
  | unicode four digits rest ih => exact absurd List.mem_cons_self plain

theorem content_of_plain {cs : Charset} {s : Bytes} (plain : ∀ b ∈ s, cs.plain b) : Content cs s := by
  induction s with
  | nil => exact .nil
  | cons b s ih => exact .plain (plain b List.mem_cons_self) (ih fun c member => plain c (List.mem_cons_of_mem _ member))

/-- Without NUL as a plain byte there is none in a text. -/
theorem no_nul_of_content {cs : Charset} (printable : ¬ cs.plain 0) {s : Bytes} (content : Content cs s) : 0 ∉ s := by
  induction content with
  | nil => exact List.not_mem_nil
  | plain allowed rest ih =>
    simp only [List.mem_cons, not_or]
    refine ⟨?_, ih⟩
    rintro rfl
    exact printable allowed
  | escape known rest ih =>
    simp only [List.mem_cons, not_or]
    refine ⟨by decide, ?_, ih⟩
    rintro rfl
    exact absurd known (by decide)
  | unicode four digits rest ih =>
    simp only [List.mem_cons, List.mem_append, not_or]
    refine ⟨by decide, by decide, fun member => ?_, ih⟩
    exact absurd (digits 0 member) (by decide)

theorem no_nul_of_isSpaces {s : Bytes} (spaces : IsSpaces s) : 0 ∉ s :=
  fun member => absurd (spaces 0 member) (by decide)

theorem no_nul_of_derives {cs : Charset} (printable : ¬ cs.plain 0) {part : Part} {text : Bytes}
    (derived : Derives cs part text) : 0 ∉ text := by
  induction derived with
  | scalar left right value =>
    simp only [List.mem_append, not_or]
    refine ⟨⟨no_nul_of_isSpaces left, fun member => ?_⟩, no_nul_of_isSpaces right⟩
    exact absurd (solid_of_scalar value 0 member).1 (by decide)
  | string left right value =>
    have inner := no_nul_of_content printable value
    simp [quoted, no_nul_of_isSpaces left, no_nul_of_isSpaces right, inner]
  | array left right value ih | object left right value ih =>
    simp [no_nul_of_isSpaces left, no_nul_of_isSpaces right, ih]
  | noElements spaces | noMembers spaces => exact no_nul_of_isSpaces spaces
  | lastElement value ih => exact ih
  | element value others first rest => simp [first, rest]
  | lastMember left right named value ih =>
    have name := no_nul_of_content printable named
    simp [quoted, no_nul_of_isSpaces left, no_nul_of_isSpaces right, name, ih]
  | member left right named value others first rest =>
    have name := no_nul_of_content printable named
    simp [quoted, no_nul_of_isSpaces left, no_nul_of_isSpaces right, name, first, rest]

/-! ### Members of an object -/

/-- The text of a value, with the whitespace around it. -/
def Holds (value slot : Bytes) : Prop := ∃ u v, IsSpaces u ∧ IsSpaces v ∧ slot = u ++ value ++ v

theorem holds_self (value : Bytes) : Holds value value := ⟨[], [], isSpaces_nil, isSpaces_nil, by simp⟩

theorem length_of_holds {value slot : Bytes} (held : Holds value slot) : value.length ≤ slot.length := by
  obtain ⟨u, v, _, _, rfl⟩ := held
  simp only [List.length_append]
  omega

section Members

variable {cs : Charset} {ms : List (Bytes × Bytes)} {t : Bytes}

theorem derives_slot (derived : Derives cs (.members ms) t) : ∀ m ∈ ms, Derives cs .text m.2 := by
  induction ms generalizing t with
  | nil => exact nofun
  | cons first ms ih =>
    cases derived with
    | lastMember left right named value => simpa using value
    | member left right named value others => exact List.forall_mem_cons.mpr ⟨value, ih others⟩

/-- Each member takes its quotes, its colon and a comma, the last one no comma. -/
theorem length_members (derived : Derives cs (.members ms) t) :
    (ms.map fun m => m.1.length + m.2.length + 4).sum ≤ t.length + 1 := by
  induction ms generalizing t with
  | nil => simp
  | cons first ms ih =>
    cases derived with
    | lastMember left right named value =>
      simp only [quoted, List.map_cons, List.map_nil, List.sum_cons, List.sum_nil, List.length_append, List.length_cons,
        List.length_nil]
      omega
    | member left right named value others =>
      have rest := ih others
      simp only [quoted, List.map_cons, List.sum_cons, List.length_append, List.length_cons, List.length_nil] at rest ⊢
      omega

theorem IsObject.length_le {text : Bytes} (object : IsObject cs ms text) :
    (ms.map fun m => m.1.length + m.2.length + 4).sum + 1 ≤ text.length := by
  obtain ⟨t, derived, rfl⟩ := object
  have inner := length_members derived
  simp only [List.length_cons, List.length_append, List.length_nil]
  omega

end Members

/-! ### A value in quotes -/

section Quoted

variable {cs : Charset} {s d : Bytes}

/-- What is read up to the first quote has no escape, so each of its bytes stands for itself. -/
theorem plain_of_content (content : Content cs s) (clean : 34 ∉ d ∧ 92 ∉ d) {x y : Bytes}
    (same : s ++ 34 :: x = d ++ 34 :: y) : ∀ b ∈ d, cs.plain b := by
  induction content generalizing d with
  | nil =>
    cases d with
    | nil => exact nofun
    | cons b d => exact absurd (List.cons.inj same).1 (fun quote => clean.1 (quote ▸ List.mem_cons_self))
  | plain allowed rest ih =>
    cases d with
    | nil => exact nofun
    | cons b d =>
      obtain ⟨rfl, after⟩ := List.cons.inj same
      simp only [List.mem_cons, not_or] at clean
      exact List.forall_mem_cons.mpr ⟨allowed, ih ⟨clean.1.2, clean.2.2⟩ after⟩
  | escape known rest ih | unicode four digits rest ih =>
    cases d with
    | nil => exact nofun
    | cons b d => exact absurd (List.cons.inj same).1 (fun backslash => clean.2 (backslash ▸ List.mem_cons_self))

/-- Whitespace ends at the first byte that is none. -/
theorem spaces_end {u u' x y : Bytes} {b c : UInt8} (left : IsSpaces u) (right : IsSpaces u') (solid : 32 < b)
    (solid' : 32 < c) (same : u ++ b :: x = u' ++ c :: y) : b = c ∧ x = y := by
  have light : ∀ {e : UInt8}, e = 32 ∨ e = 9 ∨ e = 10 ∨ e = 13 → e ≤ 32 := by
    rintro e (rfl | rfl | rfl | rfl)
    all_goals decide
  have drop : ∀ {w z : Bytes} {e : UInt8}, IsSpaces w → 32 < e → (w ++ e :: z).dropWhile (fun a => decide (a ≤ 32)) = e :: z := by
    intro w z e spaces solid
    rw [List.dropWhile_append_of_pos fun a member => by simpa using light (spaces a member)]
    exact List.dropWhile_cons_of_neg (by simpa using solid)
  have ends := congrArg (List.dropWhile fun a => decide (a ≤ 32)) same
  rw [drop left solid, drop right solid'] at ends
  exact List.cons.inj ends

/-- A text in quotes that is a value is a string, so its bytes may stand in one. -/
theorem plain_of_quoted {slot : Bytes} (held : Holds (quoted d) slot) (derived : Derives cs .text slot)
    (clean : 34 ∉ d ∧ 92 ∉ d) : ∀ b ∈ d, cs.plain b := by
  obtain ⟨u, v, left, right, whole⟩ := held
  have shape : slot = u ++ 34 :: (d ++ 34 :: v) := by simp [whole, quoted]
  clear whole
  cases derived with
  | scalar left' right' value =>
    have quote : 34 ∈ u ++ 34 :: (d ++ 34 :: v) := List.mem_append_right _ List.mem_cons_self
    rw [← shape] at quote
    simp only [List.mem_append] at quote
    rcases quote with (quote | quote) | quote
    · exact absurd quote (no_quote_of_isSpaces left')
    · exact absurd quote (no_quote_of_scalar value)
    · exact absurd quote (no_quote_of_isSpaces right')
  | string left' right' value =>
    simp only [quoted, List.append_assoc, List.cons_append, List.nil_append] at shape
    exact plain_of_content value clean (spaces_end left' left (by decide) (by decide) shape).2
  | array left' right' value | object left' right' value =>
    simp only [List.append_assoc, List.cons_append, List.nil_append] at shape
    exact absurd (spaces_end left' left (by decide) (by decide) shape).1 (by decide)

end Quoted

/-! ### Strings and gaps -/

/-- The strings of a text, each after its gap, and what follows the last of them. -/
def pieces : List (Bytes × Bytes) → Bytes → Bytes
  | [], tail => tail
  | (gap, s) :: l, tail => gap ++ (quoted s ++ pieces l tail)

structure Spaced (l : List (Bytes × Bytes)) (tail text : Bytes) : Prop where
  whole : text = pieces l tail
  unquoted : ∀ p ∈ l, 34 ∉ p.1 ∧ 34 ∉ p.2
  ending : 34 ∉ tail
  marked : ∀ p ∈ l.tail, 44 ∈ p.1 ∨ 58 ∈ p.1

def IsSpaced (text : Bytes) : Prop := ∃ l tail, Spaced l tail text

theorem pieces_append (l₁ l₂ : List (Bytes × Bytes)) (gap s tail : Bytes) :
    pieces (l₁ ++ (gap, s) :: l₂) tail = pieces l₁ gap ++ (quoted s ++ pieces l₂ tail) := by
  induction l₁ with
  | nil => rfl
  | cons p l₁ ih => simp [pieces, ih]

theorem pieces_tail (l : List (Bytes × Bytes)) (tail more : Bytes) : pieces l (tail ++ more) = pieces l tail ++ more := by
  induction l with
  | nil => rfl
  | cons p l ih => simp [pieces, ih]

theorem isSpaced_of_no_quote {text : Bytes} (clean : 34 ∉ text) : IsSpaced text :=
  ⟨[], text, rfl, by simp, clean, by simp⟩

theorem isSpaced_quoted {s : Bytes} (clean : 34 ∉ s) : IsSpaced (quoted s) :=
  ⟨[([], s)], [], by simp [pieces], by simpa using clean, by simp, by simp⟩

theorem IsSpaced.prepend {u text : Bytes} (spaced : IsSpaced text) (clean : 34 ∉ u) : IsSpaced (u ++ text) := by
  obtain ⟨l, tail, rfl, unquoted, ending, marked⟩ := spaced
  cases l with
  | nil =>
    apply isSpaced_of_no_quote
    simp only [pieces, List.mem_append, not_or]
    exact ⟨clean, ending⟩
  | cons p l =>
    refine ⟨(u ++ p.1, p.2) :: l, tail, by simp [pieces], ?_, ending, marked⟩
    intro q member
    rcases List.mem_cons.mp member with rfl | member
    · have first := unquoted p List.mem_cons_self
      simp only [List.mem_append, not_or]
      exact ⟨⟨clean, first.1⟩, first.2⟩
    · exact unquoted q (List.mem_cons_of_mem _ member)

theorem IsSpaced.append {v text : Bytes} (spaced : IsSpaced text) (clean : 34 ∉ v) : IsSpaced (text ++ v) := by
  obtain ⟨l, tail, rfl, unquoted, ending, marked⟩ := spaced
  refine ⟨l, tail ++ v, (pieces_tail l tail v).symm, unquoted, ?_, marked⟩
  simp only [List.mem_append, not_or]
  exact ⟨ending, clean⟩

/-- Two texts with a comma or a colon between them. -/
theorem IsSpaced.join {a b : Bytes} {mark : UInt8} (left : IsSpaced a) (right : IsSpaced b)
    (marks : mark = 44 ∨ mark = 58) : IsSpaced (a ++ mark :: b) := by
  have byte : (34 : UInt8) ∉ [mark] := by rcases marks with rfl | rfl <;> decide
  obtain ⟨l, tail, rfl, unquoted, ending, marked⟩ := left
  obtain ⟨l', tail', rfl, unquoted', ending', marked'⟩ := right
  cases l' with
  | nil =>
    have rest : 34 ∉ mark :: tail' := by
      simp only [List.mem_cons, not_or]
      exact ⟨by simpa using byte, ending'⟩
    exact IsSpaced.append ⟨l, tail, rfl, unquoted, ending, marked⟩ rest
  | cons p l' =>
    have gap : 34 ∉ tail ++ mark :: p.1 := by
      simp only [List.mem_append, List.mem_cons, not_or]
      exact ⟨ending, by simpa using byte, (unquoted' p List.mem_cons_self).1⟩
    refine ⟨l ++ (tail ++ mark :: p.1, p.2) :: l', tail', ?_, ?_, ending', ?_⟩
    · rw [pieces_append, pieces_tail]
      simp [pieces]
    · intro q member
      rcases List.mem_append.mp member with member | member
      · exact unquoted q member
      · rcases List.mem_cons.mp member with rfl | member
        · exact ⟨gap, (unquoted' p List.mem_cons_self).2⟩
        · exact unquoted' q (List.mem_cons_of_mem _ member)
    · have joint : 44 ∈ tail ++ mark :: p.1 ∨ 58 ∈ tail ++ mark :: p.1 := by
        rcases marks with rfl | rfl
        · exact Or.inl (List.mem_append_right _ List.mem_cons_self)
        · exact Or.inr (List.mem_append_right _ List.mem_cons_self)
      intro q member
      cases l with
      | nil => exact marked' q member
      | cons first l =>
        rcases List.mem_append.mp member with member | member
        · exact marked q member
        · rcases List.mem_cons.mp member with rfl | member
          · exact joint
          · exact marked' q member

/-- In a JSON text without escapes a comma or a colon stands between any two strings. -/
theorem isSpaced_of_derives {cs : Charset} {part : Part} {text : Bytes} (derived : Derives cs part text)
    (plain : 92 ∉ text) : IsSpaced text := by
  induction derived with
  | scalar left right value =>
    apply isSpaced_of_no_quote
    simp only [List.mem_append, not_or]
    exact ⟨⟨no_quote_of_isSpaces left, no_quote_of_scalar value⟩, no_quote_of_isSpaces right⟩
  | string left right value =>
    simp only [quoted, List.mem_append, List.mem_cons, not_or] at plain
    have inner := isSpaced_quoted (no_quote_of_content value plain.1.2.2.1)
    exact (inner.prepend (no_quote_of_isSpaces left)).append (no_quote_of_isSpaces right)
  | array left right value ih =>
    simp only [List.mem_append, List.mem_cons, not_or] at plain
    have inner := ((ih plain.1.2.2.1).append (show (34 : UInt8) ∉ [93] by decide)).prepend
      (show (34 : UInt8) ∉ [91] by decide)
    exact (inner.prepend (no_quote_of_isSpaces left)).append (no_quote_of_isSpaces right)
  | object left right value ih =>
    simp only [List.mem_append, List.mem_cons, not_or] at plain
    have inner := ((ih plain.1.2.2.1).append (show (34 : UInt8) ∉ [125] by decide)).prepend
      (show (34 : UInt8) ∉ [123] by decide)
    exact (inner.prepend (no_quote_of_isSpaces left)).append (no_quote_of_isSpaces right)
  | noElements spaces | noMembers spaces => exact isSpaced_of_no_quote (no_quote_of_isSpaces spaces)
  | lastElement value ih => exact ih plain
  | element value others first rest =>
    simp only [List.mem_append, List.mem_cons, not_or] at plain
    exact (first plain.1).join (rest plain.2.2) (Or.inl rfl)
  | lastMember left right named value ih =>
    simp only [quoted, List.mem_append, List.mem_cons, not_or] at plain
    have inner := isSpaced_quoted (no_quote_of_content named plain.1.1.2.2.1)
    have outer := (inner.prepend (no_quote_of_isSpaces left)).append (no_quote_of_isSpaces right)
    exact outer.join (ih plain.2.2) (Or.inr rfl)
  | member left right named value others first rest =>
    simp only [quoted, List.mem_append, List.mem_cons, not_or] at plain
    have inner := isSpaced_quoted (no_quote_of_content named plain.1.1.1.2.2.1)
    have outer := (inner.prepend (no_quote_of_isSpaces left)).append (no_quote_of_isSpaces right)
    exact (outer.join (first plain.1.2.2) (Or.inr rfl)).join (rest plain.2.2) (Or.inl rfl)

/-- The first quote of a text can only be at one place. -/
theorem split_at_quote {a b x y : Bytes} (left : 34 ∉ a) (right : 34 ∉ b) (same : a ++ 34 :: x = b ++ 34 :: y) : a = b ∧ x = y := by
  have ends := prefix_of_separated left right ⟨[], by rw [List.append_nil]; exact same⟩
  obtain ⟨rfl, _⟩ := ends
  exact ⟨rfl, (List.cons.inj (List.append_cancel_left same)).2⟩

/-- Between three quotes that follow each other in a JSON text without escapes there is a comma or a colon: whichever of
the two stretches is not a string separates two strings. -/
theorem marked_between {a b x y : Bytes} {l : List (Bytes × Bytes)} {tail : Bytes}
    (spaced : Spaced l tail (x ++ 34 :: (a ++ 34 :: (b ++ 34 :: y)))) (clean : 34 ∉ a ∧ 34 ∉ b) :
    (44 ∈ a ∨ 58 ∈ a) ∨ 44 ∈ b ∨ 58 ∈ b := by
  obtain ⟨whole, unquoted, ending, marked⟩ := spaced
  -- the gap in front of the next string, when the text goes on with it
  have gap : ∀ {l : List (Bytes × Bytes)} {c z : Bytes}, (∀ p ∈ l, 34 ∉ p.1 ∧ 34 ∉ p.2) → 34 ∉ c →
      (∀ p ∈ l, 44 ∈ p.1 ∨ 58 ∈ p.1) → c ++ 34 :: z = pieces l tail → 44 ∈ c ∨ 58 ∈ c := by
    intro l c z unquoted clean marked same
    cases l with
    | nil =>
      have quote : 34 ∈ c ++ 34 :: z := List.mem_append_right _ List.mem_cons_self
      rw [same] at quote
      exact absurd quote ending
    | cons p l =>
      simp only [pieces, quoted, List.cons_append] at same
      obtain ⟨rfl, _⟩ := split_at_quote clean (unquoted p List.mem_cons_self).1 same
      exact marked p List.mem_cons_self
  induction l generalizing x with
  | nil =>
    have quote : 34 ∈ x ++ 34 :: (a ++ 34 :: (b ++ 34 :: y)) := List.mem_append_right _ List.mem_cons_self
    rw [whole] at quote
    exact absurd quote ending
  | cons p l ih =>
    obtain ⟨first, second⟩ := unquoted p List.mem_cons_self
    have unquoted' : ∀ q ∈ l, 34 ∉ q.1 ∧ 34 ∉ q.2 := fun q member => unquoted q (List.mem_cons_of_mem _ member)
    have marked' : ∀ q ∈ l, 44 ∈ q.1 ∨ 58 ∈ q.1 := marked
    have shape : pieces (p :: l) tail = p.1 ++ 34 :: (p.2 ++ 34 :: pieces l tail) := by simp [pieces, quoted]
    rw [shape] at whole
    by_cases before : 34 ∈ x
    · obtain ⟨u, x', rfl, clean'⟩ := List.eq_append_cons_of_mem before
      rw [List.append_assoc, List.cons_append] at whole
      obtain ⟨rfl, rest⟩ := split_at_quote clean' first whole
      -- the string ends inside of `x`, or where `a` begins
      by_cases inside : 34 ∈ x'
      · obtain ⟨u', x'', rfl, clean''⟩ := List.eq_append_cons_of_mem inside
        rw [List.append_assoc, List.cons_append] at rest
        obtain ⟨rfl, rest'⟩ := split_at_quote clean'' second rest
        exact ih rest' unquoted' fun q member => marked' q (List.mem_of_mem_tail member)
      · obtain ⟨rfl, rest'⟩ := split_at_quote inside second rest
        exact Or.inl (gap unquoted' clean.1 marked' rest')
    · obtain ⟨rfl, rest⟩ := split_at_quote before first whole
      obtain ⟨rfl, rest'⟩ := split_at_quote clean.1 second rest
      exact Or.inr (gap unquoted' clean.2 marked' rest')

/-! ### The strings of a text -/

/-- The strings of a text without escapes, in order; the second argument is what has been read of an open one. -/
def strings : Option Bytes → Bytes → List Bytes
  | _, [] => []
  | none, b :: s => if b = 34 then strings (some []) s else strings none s
  | some read, b :: s => if b = 34 then read :: strings none s else strings (some (read ++ [b])) s

theorem strings_gap {gap : Bytes} (clean : 34 ∉ gap) (rest : Bytes) :
    strings none (gap ++ 34 :: rest) = strings (some []) rest := by
  induction gap with
  | nil => rfl
  | cons b gap ih =>
    simp only [List.mem_cons, not_or] at clean
    rw [List.cons_append, strings, if_neg (Ne.symm clean.1), ih clean.2]

theorem strings_string {s : Bytes} (clean : 34 ∉ s) (read rest : Bytes) :
    strings (some read) (s ++ 34 :: rest) = (read ++ s) :: strings none rest := by
  induction s generalizing read with
  | nil => simp [strings]
  | cons b s ih =>
    simp only [List.mem_cons, not_or] at clean
    rw [List.cons_append, strings, if_neg (Ne.symm clean.1), ih clean.2, List.append_assoc, List.singleton_append]

theorem strings_ending {tail : Bytes} (clean : 34 ∉ tail) : strings none tail = [] := by
  induction tail with
  | nil => rfl
  | cons b tail ih =>
    simp only [List.mem_cons, not_or] at clean
    rw [strings, if_neg (Ne.symm clean.1), ih clean.2]

theorem strings_pieces {l : List (Bytes × Bytes)} {tail : Bytes} (unquoted : ∀ p ∈ l, 34 ∉ p.1 ∧ 34 ∉ p.2)
    (ending : 34 ∉ tail) : strings none (pieces l tail) = l.map Prod.snd := by
  induction l with
  | nil => exact strings_ending ending
  | cons p l ih =>
    obtain ⟨gap, clean⟩ := unquoted p List.mem_cons_self
    have rest := ih fun q member => unquoted q (List.mem_cons_of_mem _ member)
    simp only [pieces, quoted, List.cons_append, List.append_assoc, List.nil_append]
    rw [strings_gap gap, strings_string clean, rest]
    rfl

/-- The string that follows the first one that reads `key`, or nothing. -/
def stringAfter (key : Bytes) : List Bytes → Bytes
  | [] => []
  | s :: rest => if s = key then rest.headD [] else stringAfter key rest

/-! ### Searching for a quoted name -/

section Search

variable {key gap s rest : Bytes}

/-- Before the second quote of a string that reads something else, `"key"` does not start. -/
theorem not_prefix_in_piece (unmarked : 34 ∉ key) (clean : 34 ∉ gap) (whole : 34 ∉ s) (other : s ≠ key) {i : Nat}
    (before : i < (gap ++ 34 :: s).length) : ¬ quoted key <+: ((gap ++ 34 :: s) ++ 34 :: rest).drop i := by
  rcases Nat.lt_trichotomy i gap.length with inGap | atQuote | inString
  · rw [List.append_assoc]
    exact not_prefix_where_absent clean inGap
  · subst atQuote
    intro here
    rw [List.append_assoc, List.drop_left] at here
    exact other (prefix_of_separated unmarked whole (List.cons_prefix_cons.mp here).2).1.symm
  · obtain ⟨j, rfl⟩ : ∃ j, i = (gap ++ [34]).length + j := ⟨i - (gap.length + 1), by simp; omega⟩
    have inside : j < s.length := by
      simp only [List.length_append, List.length_cons, List.length_nil] at before
      omega
    rw [show gap ++ 34 :: s ++ 34 :: rest = (gap ++ [34]) ++ (s ++ 34 :: rest) by simp, List.drop_length_add_append]
    exact not_prefix_where_absent whole inside

end Search

/-- What a reader finds that takes the next two quotes for those of a string. -/
def firstString (text : Bytes) : Bytes :=
  match indexOf [34] text with
  | none => []
  | some i =>
    match indexOf [34] (text.drop (i + 1)) with
    | none => []
    | some j => (text.drop (i + 1)).take j

/-- What a reader finds that looks for a name in quotes and takes the string after it. -/
def searchString (key text : Bytes) : Bytes :=
  match indexOf (quoted key) text with
  | none => []
  | some i => firstString (text.drop (i + (quoted key).length))

theorem firstString_pieces {l : List (Bytes × Bytes)} {tail : Bytes} (unquoted : ∀ p ∈ l, 34 ∉ p.1 ∧ 34 ∉ p.2)
    (ending : 34 ∉ tail) : firstString (pieces l tail) = (l.map Prod.snd).headD [] := by
  cases l with
  | nil => simp [firstString, pieces, indexOf_of_absent ending]
  | cons p l =>
    obtain ⟨gap, clean⟩ := unquoted p List.mem_cons_self
    have shape : pieces (p :: l) tail = p.1 ++ 34 :: (p.2 ++ 34 :: pieces l tail) := by simp [pieces, quoted]
    have rest : (p.1 ++ 34 :: (p.2 ++ 34 :: pieces l tail)).drop (p.1.length + 1) = p.2 ++ 34 :: pieces l tail := by
      simp [List.drop_append]
    simp [firstString, shape, indexOf_byte gap, rest, indexOf_byte clean]

theorem searchString_skip {key a rest : Bytes} (early : ∀ i < a.length, ¬ quoted key <+: (a ++ rest).drop i) :
    searchString key (a ++ rest) = searchString key rest := by
  unfold searchString
  rw [indexOf_skip a early]
  cases indexOf (quoted key) rest with
  | none => rfl
  | some i =>
    have shift : (a ++ rest).drop (i + a.length + (quoted key).length) = rest.drop (i + (quoted key).length) := by
      rw [show i + a.length + (quoted key).length = a.length + (i + (quoted key).length) by omega,
        List.drop_length_add_append]
    exact congrArg firstString shift

theorem searchString_here {key gap rest : Bytes} (clean : 34 ∉ gap) :
    searchString key (gap ++ (quoted key ++ rest)) = firstString rest := by
  have found : indexOf (quoted key) (gap ++ (quoted key ++ rest)) = some gap.length := by
    apply indexOf_append gap (List.prefix_append _ _)
    exact fun i inGap => not_prefix_where_absent clean inGap
  unfold searchString
  rw [found]
  dsimp only
  rw [← List.length_append, ← List.append_assoc, List.drop_left]

/-- The search finds names and values alike, but never what stands between two strings. -/
theorem searchString_spaced {key : Bytes} (unmarked : 34 ∉ key ∧ 44 ∉ key ∧ 58 ∉ key) {l : List (Bytes × Bytes)}
    {tail text : Bytes} (spaced : Spaced l tail text) : searchString key text = stringAfter key (l.map Prod.snd) := by
  obtain ⟨rfl, unquoted, ending, marked⟩ := spaced
  induction l with
  | nil => simp [searchString, pieces, quoted, indexOf_of_absent ending, stringAfter]
  | cons p l ih =>
    obtain ⟨gap, clean⟩ := unquoted p List.mem_cons_self
    have unquoted' : ∀ q ∈ l, 34 ∉ q.1 ∧ 34 ∉ q.2 := fun q member => unquoted q (List.mem_cons_of_mem _ member)
    by_cases same : p.2 = key
    · subst same
      simp only [pieces, List.map_cons, stringAfter, if_true]
      rw [searchString_here gap, firstString_pieces unquoted' ending]
    · have rest := ih unquoted' fun q member => marked q (List.mem_of_mem_tail member)
      have closing : ¬ quoted key <+: 34 :: pieces l tail := by
        intro here
        have start := (List.cons_prefix_cons.mp here).2
        cases l with
        | nil => exact ending (start.subset (List.mem_append_right _ List.mem_cons_self))
        | cons q l =>
          simp only [pieces, quoted, List.cons_append] at start
          obtain ⟨equal, _⟩ := prefix_of_separated unmarked.1 (unquoted' q List.mem_cons_self).1 start
          rcases marked q List.mem_cons_self with comma | colon
          · exact unmarked.2.1 (equal ▸ comma)
          · exact unmarked.2.2 (equal ▸ colon)
      have shape : pieces (p :: l) tail = (p.1 ++ 34 :: (p.2 ++ [34])) ++ pieces l tail := by simp [pieces, quoted]
      rw [shape, searchString_skip, rest, List.map_cons, stringAfter, if_neg same]
      intro i below
      have flat : p.1 ++ 34 :: (p.2 ++ [34]) ++ pieces l tail = (p.1 ++ 34 :: p.2) ++ 34 :: pieces l tail := by simp
      rw [flat]
      by_cases before : i < (p.1 ++ 34 :: p.2).length
      · exact not_prefix_in_piece unmarked.1 gap clean same before
      · have last : i = (p.1 ++ 34 :: p.2).length := by
          simp only [List.length_append, List.length_cons, List.length_nil] at below before ⊢
          omega
        rw [last, List.drop_left]
        exact closing

/-- Searching a JSON text without escapes for a name. -/
theorem searchString_derives {cs : Charset} {part : Part} {key text : Bytes} (unmarked : 34 ∉ key ∧ 44 ∉ key ∧ 58 ∉ key)
    (derived : Derives cs part text) (plain : 92 ∉ text) :
    searchString key text = stringAfter key (strings none text) := by
  obtain ⟨l, tail, spaced⟩ := isSpaced_of_derives derived plain
  rw [searchString_spaced unmarked spaced, spaced.whole, strings_pieces spaced.unquoted spaced.ending]

/-! ### Numbers as they are printed -/

theorem whole_decimalNat (n : Nat) : Whole (decimalNat n) := by
  by_cases zero : n = 0
  · rw [zero]
    exact .zero
  · have digits := decimalNat_digits n
    obtain ⟨d, ds, split, nonzero⟩ := decimalNat_head zero
    rw [split] at digits ⊢
    exact .some (digits d List.mem_cons_self) nonzero fun b member => digits b (List.mem_cons_of_mem _ member)

theorem scalar_decimal (n : Int) : Scalar (decimal n) := by
  cases n with
  | ofNat n => simpa [decimal] using Scalar.number (Or.inl rfl) (whole_decimalNat n) .none .none
  | negSucc n => simpa [decimal] using Scalar.number (Or.inr rfl) (whole_decimalNat (n + 1)) .none .none

theorem derives_decimal {cs : Charset} (n : Int) : Derives cs .text (decimal n) := by
  simpa using Derives.scalar isSpaces_nil isSpaces_nil (scalar_decimal n)

/-! ### Texts without whitespace -/

section Compact

variable {cs : Charset} {name t rest : Bytes}

theorem compact_last (named : Content cs name) (value : Derives cs .text t) :
    Derives cs (.members [(name, t)]) (quoted name ++ 58 :: t) := by
  simpa using Derives.lastMember isSpaces_nil isSpaces_nil named value

theorem compact_member {next : Bytes × Bytes} {ms : List (Bytes × Bytes)} (named : Content cs name)
    (value : Derives cs .text t) (others : Derives cs (.members (next :: ms)) rest) :
    Derives cs (.members ((name, t) :: next :: ms)) (quoted name ++ 58 :: t ++ 44 :: rest) := by
  simpa using Derives.member isSpaces_nil isSpaces_nil named value others

theorem compact_string (value : Content cs name) : Derives cs .text (quoted name) := by
  simpa using Derives.string isSpaces_nil isSpaces_nil value

theorem compact_object {ms : List (Bytes × Bytes)} (value : Derives cs (.members ms) t) :
    Derives cs .text (123 :: (t ++ [125])) := by
  simpa using Derives.object isSpaces_nil isSpaces_nil value

end Compact

/-! ### Objects as they are printed -/

/-- The members without whitespace between them. -/
def membersText : List (Bytes × Bytes) → Bytes
  | [] => []
  | [m] => quoted m.1 ++ 58 :: m.2
  | m :: next :: ms => quoted m.1 ++ 58 :: m.2 ++ 44 :: membersText (next :: ms)

def objectText (ms : List (Bytes × Bytes)) : Bytes := 123 :: (membersText ms ++ [125])

section Printed

variable {cs : Charset} {ms : List (Bytes × Bytes)}

theorem length_membersText (some : ms ≠ []) :
    (membersText ms).length + 1 = (ms.map fun m => m.1.length + m.2.length + 4).sum := by
  induction ms with
  | nil => exact absurd rfl some
  | cons m ms ih =>
    cases ms with
    | nil =>
      simp only [membersText, quoted, List.length_append, List.length_cons, List.length_nil, List.map_cons, List.map_nil,
        List.sum_cons, List.sum_nil]
      omega
    | cons next ms =>
      have rest := ih (List.cons_ne_nil _ _)
      rw [List.map_cons, List.sum_cons, ← rest]
      simp only [membersText, quoted, List.length_append, List.length_cons, List.length_nil]
      omega

theorem derives_membersText (named : ∀ m ∈ ms, Content cs m.1) (values : ∀ m ∈ ms, Derives cs .text m.2) :
    Derives cs (.members ms) (membersText ms) := by
  induction ms with
  | nil => exact .noMembers isSpaces_nil
  | cons m ms ih =>
    have name := named m List.mem_cons_self
    have value := values m List.mem_cons_self
    cases ms with
    | nil => exact compact_last name value
    | cons next ms =>
      exact compact_member name value
        (ih (fun m member => named m (List.mem_cons_of_mem _ member)) fun m member => values m (List.mem_cons_of_mem _ member))

theorem isObject_objectText (named : ∀ m ∈ ms, Content cs m.1) (values : ∀ m ∈ ms, Derives cs .text m.2) :
    IsObject cs ms (objectText ms) := ⟨_, derives_membersText named values, rfl⟩

theorem derives_objectText (named : ∀ m ∈ ms, Content cs m.1) (values : ∀ m ∈ ms, Derives cs .text m.2) :
    Derives cs .text (objectText ms) := compact_object (derives_membersText named values)

/-- What is left of an object that was cut is not that object. -/
theorem isObject_snprintf_iff (named : ∀ m ∈ ms, Content cs m.1) (some : ms ≠ []) {size : Nat} (room : 0 < size) :
    IsObject cs ms (snprintf size (objectText ms)) ↔
      (∀ m ∈ ms, Derives cs .text m.2) ∧ (objectText ms).length < size := by
  constructor
  · intro object
    have long := object.length_le
    have short : (snprintf size (objectText ms)).length ≤ size - 1 := List.length_take_le _ _
    have whole : (objectText ms).length = (ms.map fun m => m.1.length + m.2.length + 4).sum + 1 := by
      rw [← length_membersText some, objectText, List.length_cons, List.length_append]
      rfl
    obtain ⟨t, derived, _⟩ := object
    exact ⟨derives_slot derived, by omega⟩
  · intro both
    obtain ⟨values, fits⟩ := both
    rw [snprintf_of_fits fits]
    exact isObject_objectText named values

/-- Something in quotes is a value exactly when what stands between the quotes may stand there. -/
theorem derives_quoted_iff {s : Bytes} : Derives cs .text (quoted s) ↔ Content cs s := by
  refine ⟨fun derived => ?_, compact_string⟩
  generalize shape : quoted s = text at derived
  have solid : ∀ {u x : Bytes} (b : UInt8), 32 < b → IsSpaces u → 34 :: (s ++ [34]) = u ++ b :: x → 34 = b ∧ s ++ [34] = x :=
    fun b ink spaces same => spaces_end isSpaces_nil spaces (by decide) ink same
  cases derived with
  | scalar left right value =>
    have quote : 34 ∈ quoted s := List.mem_cons_self
    rw [shape] at quote
    simp only [List.mem_append] at quote
    rcases quote with (quote | quote) | quote
    · exact absurd quote (no_quote_of_isSpaces left)
    · exact absurd quote (no_quote_of_scalar value)
    · exact absurd quote (no_quote_of_isSpaces right)
  | string left right value =>
    rename_i u s' v
    have same : s ++ [34] = s' ++ 34 :: v := by
      refine (solid 34 (by decide) left ?_).2
      simpa [quoted] using shape
    -- the last byte is a quote, and no whitespace follows it
    rcases List.eq_nil_or_concat v with rfl | ⟨w, b, rfl⟩
    · rwa [List.append_cancel_right same]
    · have last := congrArg List.getLast? same
      rw [List.concat_eq_append, ← List.cons_append, ← List.append_assoc, List.getLast?_concat, List.getLast?_concat] at last
      have space := right b (by simp)
      rw [← Option.some.inj last] at space
      exact absurd space (by decide)
  | array left right value =>
    have same := (solid 91 (by decide) left (by simpa [quoted] using shape)).1
    exact absurd same (by decide)
  | object left right value =>
    have same := (solid 123 (by decide) left (by simpa [quoted] using shape)).1
    exact absurd same (by decide)

end Printed

end IotGateway.Json
