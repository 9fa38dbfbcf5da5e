import Mathlib.Data.Nat.Digits.Defs
import Mathlib.Data.Nat.Digits.Lemmas
import Mathlib.Data.List.Basic
import Mathlib.Data.List.Forall2
import Mathlib.Data.List.Infix
import Mathlib.Data.List.Sort
import Mathlib.Data.List.TakeWhile

/-!
# Byte strings and the C++ text functions over them

`std::string` is a list of bytes. The functions below follow the documented
behaviour of the standard library: searching and cutting, NUL-terminated views,
`snprintf` into a fixed buffer, decimal printing, `std::stoll`, and word
extraction from a stream.
-/

namespace IotGateway

abbrev Bytes := List UInt8

namespace Text

def ascii (s : String) : Bytes := s.toList.map fun c => UInt8.ofNat c.toNat

instance decidableAllBytes (p : UInt8 → Prop) [DecidablePred p] (s : Bytes) : Decidable (∀ b ∈ s, p b) :=
  List.decidableBAll p s

/-- What a function that takes `s.c_str()` sees: the bytes before the first NUL. -/
def cstr (s : Bytes) : Bytes := s.takeWhile (· ≠ 0)

theorem cstr_of_no_nul {s : Bytes} (clean : 0 ∉ s) : cstr s = s := by
  apply List.takeWhile_eq_self_iff.mpr
  intro b member
  have different : b ≠ 0 := fun same => clean (same ▸ member)
  simpa using different

theorem cstr_append {a : Bytes} (clean : 0 ∉ a) (b : Bytes) : cstr (a ++ b) = a ++ cstr b := by
  apply List.takeWhile_append_of_pos
  intro x member
  have different : x ≠ 0 := fun same => clean (same ▸ member)
  simpa using different

theorem no_nul_cstr (s : Bytes) : 0 ∉ cstr s := by
  intro member
  have kept := List.mem_takeWhile_imp member
  simp at kept

/-- `snprintf` into a buffer of `size` bytes keeps one byte for the terminator. -/
def snprintf (size : Nat) (text : Bytes) : Bytes := text.take (size - 1)

theorem snprintf_of_fits {size : Nat} {text : Bytes} (fits : text.length < size) : snprintf size text = text :=
  List.take_of_length_le (by omega)

instance decidableMemTexts (x : Bytes) (s : List Bytes) : Decidable (x ∈ s) := inferInstance

/-- `std::set<std::string>::insert`, on the members in increasing order. -/
def setInsert (x : Bytes) (s : List Bytes) : List Bytes := if x ∈ s then s else s.orderedInsert (· ≤ ·) x

theorem mem_setInsert {x y : Bytes} {s : List Bytes} : y ∈ setInsert x s ↔ y = x ∨ y ∈ s := by
  unfold setInsert
  split
  · rename_i present
    constructor
    · exact Or.inr
    · rintro (rfl | member)
      · exact present
      · exact member
  · exact List.mem_orderedInsert (· ≤ ·)

theorem nodup_setInsert {s : List Bytes} (nodup : s.Nodup) (x : Bytes) : (setInsert x s).Nodup := by
  unfold setInsert
  split
  · exact nodup
  · rename_i absent
    exact (List.perm_orderedInsert (· ≤ ·) x s).nodup_iff.mpr (List.nodup_cons.mpr ⟨absent, nodup⟩)

/-! ### Searching -/

def indexOf (pat : Bytes) : Bytes → Option Nat
  | [] => if pat = [] then some 0 else none
  | b :: s => if pat.isPrefixOf (b :: s) then some 0 else (indexOf pat s).map (· + 1)

def find (s pat : Bytes) (pos : Nat) : Option Nat :=
  if pos ≤ s.length then (indexOf pat (s.drop pos)).map (· + pos) else none

def findFirstOf (s set : Bytes) (pos : Nat) : Option Nat := ((s.drop pos).findIdx? (· ∈ set)).map (· + pos)

theorem indexOf_start {pat s : Bytes} (here : pat <+: s) : indexOf pat s = some 0 := by
  cases s with
  | nil => simp [indexOf, List.prefix_nil.mp here]
  | cons b s => simp [indexOf, List.isPrefixOf_iff_prefix.mpr here]

/-- No match starts in the first part, so the search goes on in the second. -/
theorem indexOf_skip {pat rest : Bytes} (a : Bytes) (early : ∀ i < a.length, ¬ pat <+: (a ++ rest).drop i) :
    indexOf pat (a ++ rest) = (indexOf pat rest).map (· + a.length) := by
  induction a with
  | nil => simp
  | cons b a ih =>
    have absent : pat.isPrefixOf (b :: (a ++ rest)) = false := by
      have first := early 0 (by simp)
      simpa [← List.isPrefixOf_iff_prefix] using first
    have tail := ih fun i below => by simpa using early (i + 1) (by simpa using below)
    simp [indexOf, absent, tail, Option.map_map, Function.comp_def, Nat.add_assoc]

theorem indexOf_append {pat rest : Bytes} (a : Bytes) (here : pat <+: rest)
    (early : ∀ i < a.length, ¬ pat <+: (a ++ rest).drop i) :
    indexOf pat (a ++ rest) = some a.length := by
  rw [indexOf_skip a early, indexOf_start here, Option.map_some, Nat.zero_add]

theorem prefix_of_indexOf {pat s : Bytes} {i : Nat} (found : indexOf pat s = some i) : pat <+: s.drop i := by
  induction s generalizing i with
  | nil =>
    by_cases empty : pat = []
    · simp [empty]
    · simp [indexOf, empty] at found
  | cons b s ih =>
    unfold indexOf at found
    split at found
    · rename_i here
      obtain rfl : 0 = i := by simpa using found
      exact List.isPrefixOf_iff_prefix.mp here
    · obtain ⟨j, tail, rfl⟩ := Option.map_eq_some_iff.mp found
      simpa using ih tail

theorem not_prefix_before_indexOf {pat s : Bytes} {i j : Nat} (found : indexOf pat s = some i) (before : j < i) :
    ¬ pat <+: s.drop j := by
  induction s generalizing i j with
  | nil =>
    by_cases empty : pat = []
    · simp only [indexOf, empty, if_true, Option.some.injEq] at found
      omega
    · simp [indexOf, empty] at found
  | cons b s ih =>
    unfold indexOf at found
    split at found
    · simp only [Option.some.injEq] at found
      omega
    · rename_i absent
      obtain ⟨k, tail, rfl⟩ := Option.map_eq_some_iff.mp found
      cases j with
      | zero => simpa [List.isPrefixOf_iff_prefix] using absent
      | succ j => simpa using ih tail (by omega)

theorem not_prefix_of_indexOf_none {pat s : Bytes} (nowhere : indexOf pat s = none) (j : Nat) :
    ¬ pat <+: s.drop j := by
  induction s generalizing j with
  | nil =>
    intro here
    rw [List.drop_nil] at here
    rw [indexOf_start here] at nowhere
    cases nowhere
  | cons b s ih =>
    unfold indexOf at nowhere
    split at nowhere
    · cases nowhere
    · rename_i absent
      cases j with
      | zero => simpa [List.isPrefixOf_iff_prefix] using absent
      | succ j => simpa using ih (Option.map_eq_none_iff.mp nowhere) j

theorem infix_iff_prefix_drop {pat s : Bytes} : pat <:+: s ↔ ∃ j, pat <+: s.drop j := by
  constructor
  · rintro ⟨before, after, rfl⟩
    exact ⟨before.length, after, by simp⟩
  · rintro ⟨j, here⟩
    exact here.isInfix.trans (List.drop_suffix j s).isInfix

/-- A match cannot start where its first byte does not occur. -/
theorem not_prefix_where_absent {c : UInt8} {pat a rest : Bytes} (absent : c ∉ a) {i : Nat} (below : i < a.length) :
    ¬ c :: pat <+: (a ++ rest).drop i := by
  intro here
  rw [List.drop_append_of_le_length below.le, List.drop_eq_getElem_cons below] at here
  have same : c = a[i] := (List.cons_prefix_cons.mp here).1
  exact absent (same ▸ List.getElem_mem below)

theorem indexOf_byte {c : UInt8} {a rest : Bytes} (absent : c ∉ a) :
    indexOf [c] (a ++ c :: rest) = some a.length :=
  indexOf_append a (by simp) fun _ below => not_prefix_where_absent absent below

theorem indexOf_of_absent {c : UInt8} {pat s : Bytes} (absent : c ∉ s) : indexOf (c :: pat) s = none := by
  have skipped : indexOf (c :: pat) (s ++ []) = (indexOf (c :: pat) []).map (· + s.length) :=
    indexOf_skip s fun _ below => not_prefix_where_absent absent below
  rwa [List.append_nil] at skipped

theorem not_mem_take_of_indexOf {c : UInt8} {s : Bytes} {i : Nat} (found : indexOf [c] s = some i) : c ∉ s.take i := by
  intro member
  obtain ⟨j, below, here⟩ := List.mem_take_iff_getElem.mp member
  have inside : j < s.length := by omega
  refine not_prefix_before_indexOf found (by omega : j < i) ?_
  rw [List.drop_eq_getElem_cons inside, here]
  exact List.cons_prefix_cons.mpr ⟨rfl, List.nil_prefix⟩

theorem prefix_of_separated {c : UInt8} {a b x y : Bytes} (left : c ∉ a) (right : c ∉ b)
    (start : a ++ c :: x <+: b ++ c :: y) : a = b ∧ x <+: y := by
  induction a generalizing b with
  | nil =>
    cases b with
    | nil => exact ⟨rfl, (List.cons_prefix_cons.mp start).2⟩
    | cons d b => exact absurd (List.cons_prefix_cons.mp start).1 fun same => right (same ▸ List.mem_cons_self)
  | cons d a ih =>
    cases b with
    | nil => exact absurd (List.cons_prefix_cons.mp start).1 fun same => left (same ▸ List.mem_cons_self)
    | cons e b =>
      obtain ⟨rfl, rest⟩ := List.cons_prefix_cons.mp start
      obtain ⟨rfl, tail⟩ := ih (fun member => left (List.mem_cons_of_mem _ member))
        (fun member => right (List.mem_cons_of_mem _ member)) rest
      exact ⟨rfl, tail⟩

/-! ### Cutting and conversion -/

/-- The exceptions of the standard library that the modelled code can raise. -/
inductive StdException where
  | invalidArgument
  | outOfRange
  deriving DecidableEq, Repr

def substr (s : Bytes) (pos : Nat) : Except StdException Bytes :=
  if pos ≤ s.length then .ok (s.drop pos) else .error .outOfRange

/-- A loop that converts element by element is through when every conversion is. -/
theorem mapM_ok_iff {α β : Type} {f : α → Except StdException β} {l : List α} {l' : List β} :
    l.mapM f = .ok l' ↔ List.Forall₂ (fun a b => f a = .ok b) l l' := by
  induction l generalizing l' with
  | nil => cases l' <;> simp [pure, Except.pure]
  | cons a l ih =>
    rw [List.mapM_cons, List.forall₂_cons_left_iff]
    constructor
    · intro read
      cases first : f a with
      | error e =>
        rw [first] at read
        cases read
      | ok b =>
        rw [first] at read
        change (l.mapM f).bind (fun bs => .ok (b :: bs)) = _ at read
        cases rest : l.mapM f with
        | error e =>
          rw [rest] at read
          cases read
        | ok bs =>
          rw [rest] at read
          cases read
          exact ⟨b, bs, rfl, ih.mp rest, rfl⟩
    · rintro ⟨b, bs, first, rest, rfl⟩
      rw [first, ih.mpr rest]
      rfl

def isSpace (b : UInt8) : Bool := b == 32 || (9 ≤ b && b ≤ 13)

def isDigit (b : UInt8) : Bool := 48 ≤ b && b ≤ 57

def digitsValue (digits : Bytes) : Nat := digits.foldl (fun value b => value * 10 + (b.toNat - 48)) 0

def splitSign : Bytes → Bool × Bytes
  | 45 :: s => (true, s)
  | 43 :: s => (false, s)
  | s => (false, s)

/-- `strtoll` in base 10 before the range check: `none` when no digit is found. -/
def strtoll (s : Bytes) : Option Int :=
  let (negative, rest) := splitSign (s.dropWhile isSpace)
  let digits := rest.takeWhile isDigit
  if digits = [] then none
  else some (if negative then -(digitsValue digits : Int) else digitsValue digits)

/-- `std::stoll` and `std::stoi`, which differ in the width of the result. -/
def stoInt (bits : Nat) (s : Bytes) : Except StdException Int :=
  match strtoll s with
  | none => .error .invalidArgument
  | some n => if -(2 ^ (bits - 1)) ≤ n ∧ n < 2 ^ (bits - 1) then .ok n else .error .outOfRange

def stoll (s : Bytes) : Except StdException Int := stoInt 64 s

def stoi (s : Bytes) : Except StdException Int := stoInt 32 s

/-- `stream >> word`: the word, and what the stream still holds. -/
def extractWord (s : Bytes) : Bytes × Bytes :=
  let rest := s.dropWhile isSpace
  (rest.takeWhile (!isSpace ·), rest.dropWhile (!isSpace ·))

/-! ### Decimal printing -/

def decimalNat (n : Nat) : Bytes :=
  if n = 0 then [48] else (Nat.digits 10 n).reverse.map fun d => UInt8.ofNat (48 + d)

/-- `%lld`, `%d` and `std::to_string`. -/
def decimal : Int → Bytes
  | .ofNat n => decimalNat n
  | .negSucc n => 45 :: decimalNat (n + 1)

theorem decimalNat_digits (n : Nat) : ∀ b ∈ decimalNat n, isDigit b = true := by
  intro b member
  unfold decimalNat at member
  split at member
  · obtain rfl := List.mem_singleton.mp member
    rfl
  · obtain ⟨d, digit, rfl⟩ := List.mem_map.mp member
    have small : d < 10 := Nat.digits_lt_base (by norm_num) (List.mem_reverse.mp digit)
    interval_cases d <;> rfl

theorem digitsValue_append (ds : Bytes) (b : UInt8) :
    digitsValue (ds ++ [b]) = digitsValue ds * 10 + (b.toNat - 48) := by
  simp [digitsValue]

theorem digitsValue_cons (d : UInt8) (ds : Bytes) :
    digitsValue (d :: ds) = (d.toNat - 48) * 10 ^ ds.length + digitsValue ds := by
  induction ds using List.reverseRecOn with
  | nil => simp [digitsValue]
  | append_singleton ds b ih =>
    rw [← List.cons_append, digitsValue_append, ih, digitsValue_append, List.length_append, List.length_singleton]
    ring

theorem digitsValue_ofDigits {ds : List Nat} (small : ∀ d ∈ ds, d < 10) :
    digitsValue (ds.reverse.map fun d => UInt8.ofNat (48 + d)) = Nat.ofDigits 10 ds := by
  induction ds with
  | nil => rfl
  | cons d ds ih =>
    have digit : d < 10 := small d List.mem_cons_self
    have byte : (UInt8.ofNat (48 + d)).toNat - 48 = d := by
      rw [UInt8.toNat_ofNat']
      omega
    rw [List.reverse_cons, List.map_append, List.map_singleton, digitsValue_append,
      ih fun e member => small e (List.mem_cons_of_mem _ member), byte, Nat.ofDigits_cons]
    ring

theorem digitsValue_decimalNat (n : Nat) : digitsValue (decimalNat n) = n := by
  unfold decimalNat
  split
  · rename_i zero
    rw [zero]
    rfl
  · rw [digitsValue_ofDigits fun d member => Nat.digits_lt_base (by norm_num) member, Nat.ofDigits_digits]

theorem decimalNat_injective {m n : Nat} (same : decimalNat m = decimalNat n) : m = n := by
  rw [← digitsValue_decimalNat m, same, digitsValue_decimalNat]

theorem decimal_injective {m n : Int} (same : decimal m = decimal n) : m = n := by
  have signed : ∀ i j : Nat, decimalNat i ≠ 45 :: decimalNat j := by
    intro i j h
    have digit := decimalNat_digits i 45 (h ▸ List.mem_cons_self)
    exact absurd digit (by decide)
  cases m with
  | ofNat i =>
    cases n with
    | ofNat j => exact congrArg Int.ofNat (decimalNat_injective same)
    | negSucc j => exact absurd same (signed i (j + 1))
  | negSucc i =>
    cases n with
    | ofNat j => exact absurd same.symm (signed j (i + 1))
    | negSucc j =>
      have digits := decimalNat_injective (List.cons.inj same).2
      rw [Nat.succ.inj digits]

theorem decimal_bytes (n : Int) : ∀ b ∈ decimal n, b = 45 ∨ isDigit b = true := by
  intro b member
  cases n with
  | ofNat n => exact Or.inr (decimalNat_digits n b member)
  | negSucc n =>
    rcases List.mem_cons.mp member with sign | digit
    · exact Or.inl sign
    · exact Or.inr (decimalNat_digits _ b digit)

/-- A number is printed without leading zeros. -/
theorem decimalNat_head {n : Nat} (nonzero : n ≠ 0) : ∃ d ds, decimalNat n = d :: ds ∧ d ≠ 48 := by
  have some : Nat.digits 10 n ≠ [] := Nat.digits_ne_nil_iff_ne_zero.mpr nonzero
  obtain ⟨low, top, split⟩ := List.eq_nil_or_concat (Nat.digits 10 n) |>.resolve_left some
  have last : (Nat.digits 10 n).getLast some = top := by simp [split]
  have small : top < 10 := Nat.digits_lt_base (by norm_num) (show top ∈ Nat.digits 10 n by simp [split])
  have leading : top ≠ 0 := last ▸ Nat.getLast_digit_ne_zero 10 nonzero
  refine ⟨UInt8.ofNat (48 + top), low.reverse.map fun d => UInt8.ofNat (48 + d), ?_, ?_⟩
  · simp [decimalNat, nonzero, split]
  · interval_cases top
    all_goals first | exact absurd rfl leading | decide

theorem decimalNat_ne_nil (n : Nat) : decimalNat n ≠ [] := by
  by_cases zero : n = 0
  · simp [decimalNat, zero]
  · obtain ⟨d, ds, split, _⟩ := decimalNat_head zero
    simp [split]

theorem length_decimalNat_le {n k : Nat} (below : n < 10 ^ (k + 1)) : (decimalNat n).length ≤ k + 1 := by
  unfold decimalNat
  split
  · exact Nat.le_add_left 1 k
  · rw [List.length_map, List.length_reverse]
    exact (Nat.digits_length_le_iff (by norm_num) n).mpr below

theorem not_mem_decimalNat {b : UInt8} (other : isDigit b = false) (n : Nat) : b ∉ decimalNat n := by
  intro member
  have digit := decimalNat_digits n b member
  rw [other] at digit
  cases digit

/-! ### Reading back what was printed -/

theorem digit_plain {b : UInt8} (digit : isDigit b = true) : isSpace b = false ∧ b ≠ 45 ∧ b ≠ 43 := by
  simp only [isDigit, Bool.and_eq_true, decide_eq_true_eq, UInt8.le_iff_toNat_le, UInt8.reduceToNat] at digit
  simp only [isSpace, Bool.or_eq_false_iff, Bool.and_eq_false_iff, beq_eq_false_iff_ne, decide_eq_false_iff_not, ne_eq,
    UInt8.le_iff_toNat_le, ← UInt8.toNat_inj, UInt8.reduceToNat]
  omega

theorem strtoll_digits {ds : Bytes} (nonempty : ds ≠ []) (digits : ∀ b ∈ ds, isDigit b = true) :
    strtoll ds = some (digitsValue ds : Int) := by
  have whole : ds.takeWhile isDigit = ds := List.takeWhile_eq_self_iff.mpr digits
  cases ds with
  | nil => exact absurd rfl nonempty
  | cons b ds =>
    obtain ⟨space, minus, plus⟩ := digit_plain (digits b List.mem_cons_self)
    have unsigned : splitSign (b :: ds) = (false, b :: ds) := by
      unfold splitSign
      split
      · rename_i same
        exact absurd (List.cons.inj same).1 minus
      · rename_i same
        exact absurd (List.cons.inj same).1 plus
      · rfl
    simp [strtoll, space, unsigned, whole]

theorem strtoll_decimal (n : Int) : strtoll (decimal n) = some n := by
  cases n with
  | ofNat n =>
    rw [decimal, strtoll_digits (decimalNat_ne_nil n) (decimalNat_digits n), digitsValue_decimalNat]
    rfl
  | negSucc n =>
    have whole : (decimalNat (n + 1)).takeWhile isDigit = decimalNat (n + 1) :=
      List.takeWhile_eq_self_iff.mpr (decimalNat_digits (n + 1))
    have minus : isSpace 45 = false := by decide
    simp [strtoll, decimal, minus, splitSign, whole, decimalNat_ne_nil, digitsValue_decimalNat, Int.negSucc_eq]

theorem stoInt_decimal {bits : Nat} {n : Int} (fits : -(2 ^ (bits - 1)) ≤ n ∧ n < 2 ^ (bits - 1)) :
    stoInt bits (decimal n) = .ok n := by
  simp only [stoInt, strtoll_decimal]
  rw [if_pos fits]

/-! ### Words -/

theorem extractWord_skip {b : UInt8} (space : isSpace b = true) (s : Bytes) : extractWord (b :: s) = extractWord s := by
  simp [extractWord, space]

theorem extractWord_word {word : Bytes} (nonempty : word ≠ []) (solid : ∀ b ∈ word, isSpace b = false) {b : UInt8}
    (space : isSpace b = true) (rest : Bytes) : extractWord (word ++ b :: rest) = (word, b :: rest) := by
  have kept : (word ++ b :: rest).dropWhile isSpace = word ++ b :: rest := by
    cases word with
    | nil => exact absurd rfl nonempty
    | cons c word => simp [solid c List.mem_cons_self]
  have solid' : ∀ c ∈ word, (!isSpace c) = true := fun c member => by simp [solid c member]
  simp [extractWord, kept, List.takeWhile_append_of_pos solid', List.dropWhile_append_of_pos solid', space]

end Text
end IotGateway
