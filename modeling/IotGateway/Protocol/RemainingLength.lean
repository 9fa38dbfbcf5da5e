import IotGateway.Protocol.Bodies

/-!
# The remaining length

Encoder and decoder agree on every length of four groups of seven bits. A header that is
cut short is told by `consumed` alone, which then counts a byte that is not there.
-/

namespace IotGateway.Protocol.MqttCodec
open Text Net

/-! ### Arithmetic without overflow -/

/-- A product that an `int` can hold. -/
def intMul (a b : Nat) : Option Nat := if a * b < 2 ^ 31 then some (a * b) else none

/-- A sum that a `uint32_t` can hold. -/
def uint32Add (a b : Nat) : Option Nat := if a + b < 2 ^ 32 then some (a + b) else none

/-- The loop of `decodeRemainingLength`, stopped by the first operation that overflows. -/
def checkedLoop : Nat → Nat → Nat → Nat → Bytes → Option (Nat × Nat)
  | 0, i, _, value, _ => some (value, i + 1)
  | _ + 1, i, _, value, [] => some (value, i + 1)
  | fuel + 1, i, multiplier, value, byte :: data =>
    (intMul (byte &&& 0x7F).toNat multiplier).bind fun group =>
      (uint32Add value group).bind fun value =>
        (intMul multiplier 128).bind fun multiplier =>
          if byte &&& 0x80 = 0 then some (value, i + 1) else checkedLoop fuel (i + 1) multiplier value data

theorem checkedLoop_eq (fuel i multiplier value : Nat) (data : Bytes) (below : value < multiplier)
    (bound : multiplier * 128 ^ fuel ≤ 2 ^ 28) :
    checkedLoop fuel i multiplier value data = some (decodeLoop fuel i multiplier value data) := by
  induction fuel generalizing i multiplier value data with
  | zero => rfl
  | succ fuel ih =>
    cases data with
    | nil => rfl
    | cons byte data =>
      have low := low_lt byte
      have group : (byte &&& 0x7F).toNat * multiplier ≤ 127 * multiplier := Nat.mul_le_mul_right _ (by omega)
      have next : multiplier * 128 * 128 ^ fuel ≤ 2 ^ 28 := by rwa [Nat.mul_assoc, ← pow_succ']
      have power : multiplier * 128 * 1 ≤ multiplier * 128 * 128 ^ fuel :=
        Nat.mul_le_mul_left _ (Nat.one_le_pow _ _ (by norm_num))
      have product : intMul (byte &&& 0x7F).toNat multiplier = some ((byte &&& 0x7F).toNat * multiplier) :=
        if_pos (by omega)
      have sum : uint32Add value ((byte &&& 0x7F).toNat * multiplier) =
          some (value + (byte &&& 0x7F).toNat * multiplier) := if_pos (by omega)
      have scale : intMul multiplier 128 = some (multiplier * 128) := if_pos (by omega)
      rw [checkedLoop, decodeLoop, product, Option.bind_some, sum, Option.bind_some, scale, Option.bind_some,
        Nat.mod_eq_of_lt (by omega)]
      split
      · rfl
      · exact ih _ _ _ _ (by omega) next

/-! ### The shortest encoding -/

/-- A value takes all the bytes that were consumed. -/
theorem decodeLoop_lt (fuel i multiplier value : Nat) (data : Bytes) :
    (decodeLoop fuel i multiplier value data).1 + multiplier ≤
      value + 128 ^ ((decodeLoop fuel i multiplier value data).2 - i) * multiplier := by
  have single : ∀ value, value + multiplier ≤ value + 128 ^ (i + 1 - i) * multiplier := by
    intro value
    rw [Nat.add_sub_cancel_left, pow_one]
    omega
  induction fuel generalizing i multiplier value data with
  | zero => exact single value
  | succ fuel ih =>
    cases data with
    | nil => exact single value
    | cons byte data =>
      have low := low_lt byte
      have group : (byte &&& 0x7F).toNat * multiplier ≤ 127 * multiplier := Nat.mul_le_mul_right _ (by omega)
      have digit := Nat.mod_le (value + (byte &&& 0x7F).toNat * multiplier) (2 ^ 32)
      rw [decodeLoop]
      split
      · rw [Nat.add_sub_cancel_left, pow_one]
        omega
      · generalize (value + (byte &&& 0x7F).toNat * multiplier) % 2 ^ 32 = value' at digit ⊢
        have later := ih (i + 1) (multiplier * 128) value' data fun value => by
          rw [Nat.add_sub_cancel_left, pow_one]
          omega
        have further := decodeLoop_pos fuel (i + 1) (multiplier * 128) value' data
        generalize decodeLoop fuel (i + 1) (multiplier * 128) value' data = result at later further ⊢
        have power : 128 ^ (result.2 - i) * multiplier = 128 ^ (result.2 - (i + 1)) * (multiplier * 128) := by
          rw [show result.2 - i = result.2 - (i + 1) + 1 by omega, pow_succ]
          ring
        omega

theorem rlBytes_bounds (k n : Nat) (room : 0 < k) (small : n < 128 ^ k) :
    0 < (Simulator.rlBytes k n).length ∧
      ((Simulator.rlBytes k n).length = 1 ∨ 128 ^ ((Simulator.rlBytes k n).length - 1) ≤ n) := by
  induction k generalizing n with
  | zero => omega
  | succ k ih =>
    rw [Simulator.rlBytes]
    by_cases more : 0 < n / 128
    · have bound : n / 128 < 128 ^ k := by
        rw [Nat.div_lt_iff_lt_mul (by norm_num), ← pow_succ]
        exact small
      have room : 0 < k := by
        rcases Nat.eq_zero_or_pos k with rfl | positive
        · rw [pow_zero] at bound
          omega
        · exact positive
      obtain ⟨some, least⟩ := ih (n / 128) room bound
      simp only [more, if_true, List.length_cons]
      generalize (Simulator.rlBytes k (n / 128)).length = rest at some least ⊢
      refine ⟨Nat.succ_pos rest, Or.inr ?_⟩
      rw [Nat.add_sub_cancel]
      rcases least with one | least
      · rw [one, pow_one]
        omega
      · have power : 128 ^ rest = 128 ^ (rest - 1) * 128 := by
          rw [← pow_succ, show rest - 1 + 1 = rest by omega]
        omega
    · simp only [more, if_false, List.length_singleton]
      exact ⟨Nat.one_pos, Or.inl trivial⟩

section Header

variable {n : Nat} (small : n < 2 ^ 28)
include small

theorem rlBytes_length_le : (Simulator.rlBytes 5 n).length ≤ 4 := by
  obtain ⟨some, one | least⟩ := rlBytes_bounds 5 n (by norm_num) (by norm_num; omega)
  · omega
  · have below : 128 ^ ((Simulator.rlBytes 5 n).length - 1) < 128 ^ 4 := least.trans_lt (by norm_num; omega)
    have shorter := (Nat.pow_lt_pow_iff_right (by norm_num)).mp below
    omega

/-- No other bytes that are read as the same length are fewer. -/
theorem rlBytes_shortest {other rest : Bytes} (same : decodeRemainingLength (other ++ rest) = (n, other.length)) :
    (Simulator.rlBytes 5 n).length ≤ other.length := by
  have bound := decodeLoop_lt 4 0 1 0 (other ++ rest)
  have taken := decodeLoop_pos 4 0 1 0 (other ++ rest)
  rw [show decodeLoop 4 0 1 0 (other ++ rest) = (n, other.length) from same] at bound taken
  obtain ⟨some, one | least⟩ := rlBytes_bounds 5 n (by norm_num) (by norm_num; omega)
  · rw [one]
    exact taken
  · have below : 128 ^ ((Simulator.rlBytes 5 n).length - 1) < 128 ^ other.length := by
      simp only [Nat.sub_zero, mul_one, Nat.zero_add] at bound
      omega
    have shorter := (Nat.pow_lt_pow_iff_right (by norm_num)).mp below
    omega

/-- A header that is cut short is counted as longer than it is: else what is missing would not matter. -/
theorem consumed_of_cut {before missing : Bytes} (whole : before ++ missing = Simulator.rlBytes 5 n)
    (cut : missing ≠ []) : before.length < (decodeRemainingLength before).2 := by
  by_contra inside
  have same := decodeLoop_append 4 0 1 0 before missing (by
    rw [Nat.zero_add]
    exact Nat.not_lt.mp inside)
  have decoded := decodeRemainingLength_rlBytes small []
  rw [List.append_nil, ← whole, decodeRemainingLength, same] at decoded
  rw [decodeRemainingLength, decoded, List.length_append] at inside
  have some := List.length_pos_of_ne_nil cut
  omega

end Header

theorem incomplete_of_consumed {before : Bytes} (cut : before.length < (decodeRemainingLength before).2) {buf : Buffer}
    {firstByte : UInt8} (arrived : buf.readable = firstByte :: before) : (parse buf).1 = .incomplete := by
  have missing : firstPacket buf.readable = none := by
    have total : buf.readable.length < totalLen buf.readable := by
      rw [arrived, totalLen, List.length_cons, List.tail_cons]
      omega
    unfold firstPacket
    rw [if_pos total, ite_self]
  unfold parse
  rw [missing]

/-- The remaining length is written in as few bytes as possible and read back from them, from all of them only, and no
arithmetic on the way overflows, whatever the bytes. -/
theorem remainingLength_exact {n : Nat} (small : n < 2 ^ 28) :
    ∃ bytes : Bytes, (∀ out : Buffer, (encodeRemainingLength out n).readable = out.readable ++ bytes) ∧
      (1 ≤ bytes.length ∧ bytes.length ≤ 4) ∧
      (∀ other rest, decodeRemainingLength (other ++ rest) = (n, other.length) → bytes.length ≤ other.length) ∧
      (∀ rest, decodeRemainingLength (bytes ++ rest) = (n, bytes.length)) ∧
      (∀ before, before <+: bytes → before ≠ bytes → before.length < (decodeRemainingLength before).2 ∧
        ∀ (buf : Buffer) (firstByte : UInt8), buf.readable = firstByte :: before → (parse buf).1 = .incomplete) ∧
      ∀ data, checkedLoop 4 0 1 0 data = some (decodeRemainingLength data) := by
  refine ⟨Simulator.rlBytes 5 n, fun out => readable_encodeRemainingLength out small, ⟨?_, rlBytes_length_le small⟩,
    fun _ _ same => rlBytes_shortest small same, decodeRemainingLength_rlBytes small, ?_, ?_⟩
  · exact (rlBytes_bounds 5 n (by norm_num) (by norm_num; omega)).1
  · rintro before ⟨missing, whole⟩ proper
    have cut : missing ≠ [] := by
      rintro rfl
      exact proper ((List.append_nil before).symm.trans whole)
    have beyond := consumed_of_cut small whole cut
    exact ⟨beyond, fun _ _ arrived => incomplete_of_consumed beyond arrived⟩
  · intro data
    exact checkedLoop_eq 4 0 1 0 data (by norm_num) (by norm_num)

theorem remainingLength_321 :
    decodeRemainingLength [0xC1, 0x02, 0x07] = (321, 2) ∧ 1 < (decodeRemainingLength [0xC1]).2 := by
  obtain ⟨bytes, written, -, -, decoded, cut, -⟩ := remainingLength_exact (by norm_num : 321 < 2 ^ 28)
  have same : bytes = [0xC1, 0x02] := by
    have both := (written (Buffer.new kInitialSize)).symm.trans (readable_encodeRemainingLength _ (by norm_num))
    rw [List.append_cancel_left both]
    decide
  subst same
  exact ⟨decoded [0x07], (cut [0xC1] (by decide) (by decide)).1⟩

end IotGateway.Protocol.MqttCodec
