import IotGateway.Lib.Reading
import IotGateway.Protocol.Bodies

/-!
# The codec in memory

`MqttCodec::parse` and the body parsers once more, with the pointers of the source: an
address is an offset from `peek()`, and behind the readable bytes the memory goes on with
anything. The functions compute what those of `MqttCodec` compute. They read bytes of the
packet only, with one exception, the keep-alive time of a CONNECT that ends in the middle
of it.
-/

namespace IotGateway.Protocol.RawCodec
open Text Net Reading

/-! ### The functions of the source -/

def readUInt16 (p : Nat) : Reading UInt8 UInt16 := do
  let high ← byteAt p
  let low ← byteAt (p + 1)
  return MqttCodec.ntohs high low

/-- The loop of `decodeRemainingLength`, from byte `i` with `fuel = 4 - i`. -/
def decodeLoop (data len : Nat) : Nat → Nat → Nat → Nat → Reading UInt8 (Nat × Nat)
  | 0, i, _, value => pure (value, i + 1)
  | fuel + 1, i, multiplier, value =>
    if len ≤ i then pure (value, i + 1)
    else do
      let byte ← byteAt (data + i)
      let value := (value + (byte &&& 0x7F).toNat * multiplier) % 2 ^ 32
      if byte &&& 0x80 = 0 then pure (value, i + 1)
      else decodeLoop data len fuel (i + 1) (multiplier * 128) value

def decodeRemainingLength (data len : Nat) : Reading UInt8 (Nat × Nat) := decodeLoop data len 4 0 1 0

def readMqttString (p last : Nat) : Reading UInt8 (Bytes × Nat) :=
  if last < p + 2 then pure ([], p)
  else do
    let len ← readUInt16 p
    if last < p + 2 + len.toNat then pure ([], p + 2)
    else do
      let result ← bytesAt (p + 2) len.toNat
      return (result, p + 2 + len.toNat)

def readFlagged (flags bit : UInt8) (p last : Nat) : Reading UInt8 (Bytes × Nat) :=
  if flags &&& bit = 0 then pure ([], p) else readMqttString p last

def readConnectStrings (payload : MqttConnectPayload) (p last : Nat) : Reading UInt8 MqttConnectPayload := do
  let (clientId, p) ← readMqttString p last
  let (willTopic, p) ← readFlagged payload.flags connectFlagWill p last
  let (willMessage, p) ← readFlagged payload.flags connectFlagWill p last
  let (username, p) ← readFlagged payload.flags connectFlagUsername p last
  let (password, _) ← readFlagged payload.flags connectFlagPassword p last
  return { payload with clientId, willTopic, willMessage, username, password }

def parseConnect (data remaining : Nat) : Reading UInt8 (ParseResult × List MqttEvent) := do
  let last := data + remaining
  let (protocolName, p) ← readMqttString data last
  if last ≤ p then pure (.error, [])
  else do
    let protocolLevel ← byteAt p
    if last ≤ p + 1 then pure (.error, [])
    else do
      let flags ← byteAt (p + 1)
      if last ≤ p + 2 then pure (.error, [])
      else do
        let keepAlive ← readUInt16 (p + 2)
        if last < p + 4 then pure (.error, [])
        else do
          let payload ← readConnectStrings { protocolName, protocolLevel, flags, keepAlive } (p + 4) last
          return (.ok, [.connect payload])

def parsePublish (flags : UInt8) (data remaining : Nat) : Reading UInt8 (ParseResult × List MqttEvent) := do
  let last := data + remaining
  let retain := (flags &&& 0x01) != 0
  let qos := MqttQoS.ofValue ((flags >>> 1) &&& 0x03)
  let (topic, p) ← readMqttString data last
  if qos = .atMostOnce then do
    let payload ← bytesAt p (last - p)
    return (.ok, [.publish topic payload qos retain 0])
  else if last < p + 2 then pure (.error, [])
  else do
    let packetId ← readUInt16 p
    let payload ← bytesAt (p + 2) (last - (p + 2))
    return (.ok, [.publish topic payload qos retain packetId])

/-- One round of the filter loop of `parseSubscribe`: the filter, if it has a QoS byte, and the cursor. -/
def filterRound (p last : Nat) : Reading UInt8 (Option MqttTopicFilter × Nat) := do
  let (topic, p) ← readMqttString p last
  if last ≤ p then pure (none, p)
  else do
    let qos ← byteAt p
    return (some { topic, qos }, p + 1)

def parseFilters (last : Nat) : Nat → Nat → List MqttTopicFilter → Reading UInt8 (Option (List MqttTopicFilter))
  | 0, p, filters => if last ≤ p then pure (some filters) else pure none
  | fuel + 1, p, filters =>
    if last ≤ p then pure (some filters)
    else do
      match ← filterRound p last with
      | (none, _) => pure none
      | (some filter, p) => parseFilters last fuel p (filters ++ [filter])

def parseSubscribe (data remaining : Nat) : Reading UInt8 (ParseResult × List MqttEvent) :=
  if data + remaining < data + 2 then pure (.error, [])
  else do
    let packetId ← readUInt16 data
    match ← parseFilters (data + remaining) (remaining - 2) (data + 2) [] with
    | some filters => pure (.ok, [.subscribe packetId filters])
    | none => pure (.error, [])

def parsePubAck (data remaining : Nat) : Reading UInt8 (ParseResult × List MqttEvent) :=
  if remaining < 2 then pure (.error, [])
  else do
    let packetId ← readUInt16 data
    return (.ok, [.pubAck packetId])

def parseBody (type : MqttPacketType) (flags : UInt8) (data remaining : Nat) :
    Reading UInt8 (ParseResult × List MqttEvent) :=
  match type with
  | .connect => parseConnect data remaining
  | .publish => parsePublish flags data remaining
  | .puback => parsePubAck data remaining
  | .subscribe => parseSubscribe data remaining
  | .pingreq => pure (.ok, [.pingReq])
  | .disconnect => pure (.ok, [.disconnect])
  | _ => pure (.ok, [])

/-- `parse` up to its `retrieve`: the length of the first packet and the result of its body. -/
def parse (readableBytes : Nat) : Reading UInt8 (Option (Nat × ParseResult × List MqttEvent)) :=
  if readableBytes < 2 then pure none
  else do
    let firstByte ← byteAt 0
    let (remainingLen, rlBytes) ← decodeRemainingLength 1 (readableBytes - 1)
    let totalLen := 1 + rlBytes + remainingLen
    if readableBytes < totalLen then pure none
    else do
      let body ← parseBody (mqttPacketTypeFromByte firstByte) (mqttPacketFlags firstByte) (1 + rlBytes) remainingLen
      return some (totalLen, body)

/-! ### They compute what the functions on lists compute -/

section Memory

variable (m : Nat → UInt8)

theorem run_readUInt16 (p : Nat) : (readUInt16 p).run m = (MqttCodec.ntohs (m p) (m (p + 1)), [p, p + 1]) := rfl

theorem scans_readMqttString {p last : Nat} (inside : p ≤ last) :
    Scans m p last ((readMqttString p last).run m) (MqttCodec.readMqttString (segment m p (last - p))) := by
  unfold readMqttString
  split
  · rename_i short
    have same : MqttCodec.readMqttString (segment m p (last - p)) = ([], segment m p (last - p)) := by
      obtain none | one : last - p = 0 ∨ last - p = 1 := by omega
      · rw [none]
        rfl
      · rw [one]
        rfl
    rw [same]
    exact ⟨rfl, rfl, Nat.le_refl p, inside, within_nil p last⟩
  · rename_i long
    have prefixed : segment m p (last - p) = m p :: m (p + 1) :: segment m (p + 2) (last - (p + 2)) := by
      rw [segment_cons m (show p < last by omega), segment_cons m (show p + 1 < last by omega)]
    obtain ⟨len, read, number⟩ : ∃ len, (readUInt16 p).run m = (len, [p, p + 1]) ∧ MqttCodec.ntohs (m p) (m (p + 1)) = len :=
      ⟨_, rfl, rfl⟩
    have lengthRead : Within p last [p, p + 1] := by
      rw [within_cons, within_cons]
      exact ⟨by omega, by omega, within_nil p last⟩
    rw [prefixed, run_bind, read]
    simp only [MqttCodec.readMqttString, number, length_segment]
    by_cases cut : last < p + 2 + len.toNat
    · rw [if_pos cut, if_pos (by omega)]
      refine ⟨rfl, rfl, Nat.le_add_right p 2, Nat.not_lt.mp long, ?_⟩
      rw [within_append]
      exact ⟨lengthRead, within_nil p last⟩
    · rw [if_neg cut, if_neg (by omega)]
      refine ⟨(take_segment m (by omega)).symm, ?_, by simp only [run_bind, run_pure]; omega, Nat.not_lt.mp cut, ?_⟩
      · simp only [drop_segment, run_bind, run_pure, Nat.sub_sub]
      · simp only [run_bind, run_bytesAt, run_pure, List.append_nil]
        rw [within_append]
        exact ⟨lengthRead, within_range (by omega) (by omega)⟩

/-- The same, taken apart: the string, the cursor behind it and the addresses that were read. -/
theorem run_readMqttString {p last : Nat} (inside : p ≤ last) :
    ∃ str p' reads, (readMqttString p last).run m = ((str, p'), reads) ∧
      MqttCodec.readMqttString (segment m p (last - p)) = (str, segment m p' (last - p')) ∧
      p ≤ p' ∧ p' ≤ last ∧ Within p last reads := by
  obtain ⟨value, rest, forward, behind, within⟩ := scans_readMqttString m inside
  exact ⟨_, _, _, rfl, Prod.ext value.symm rest, forward, behind, within⟩

theorem scans_readFlagged (flags bit : UInt8) {p last : Nat} (inside : p ≤ last) :
    Scans m p last ((readFlagged flags bit p last).run m) (MqttCodec.readFlagged flags bit (segment m p (last - p))) := by
  unfold readFlagged MqttCodec.readFlagged
  split
  · exact ⟨rfl, rfl, Nat.le_refl p, inside, within_nil p last⟩
  · exact scans_readMqttString m inside

/-- The strings behind the keep-alive time stay inside the packet. -/
theorem run_readConnectStrings (payload : MqttConnectPayload) {p last : Nat} (inside : p ≤ last) :
    ((readConnectStrings payload p last).run m).1 = MqttCodec.readConnectStrings payload (segment m p (last - p)) ∧
      Within p last ((readConnectStrings payload p last).run m).2 := by
  have client := scans_readMqttString m inside
  have topic := scans_readFlagged m payload.flags connectFlagWill client.inside
  have message := scans_readFlagged m payload.flags connectFlagWill topic.inside
  have username := scans_readFlagged m payload.flags connectFlagUsername message.inside
  have password := scans_readFlagged m payload.flags connectFlagPassword username.inside
  constructor
  · simp only [readConnectStrings, MqttCodec.readConnectStrings, run_bind, run_pure]
    rw [← client.value, client.rest, ← topic.value, topic.rest, ← message.value, message.rest, ← username.value,
      username.rest, ← password.value]
  · have second := client.forward
    have third := Nat.le_trans second topic.forward
    have fourth := Nat.le_trans third message.forward
    have fifth := Nat.le_trans fourth username.forward
    simp only [readConnectStrings, run_bind, run_pure, List.append_nil, within_append]
    exact ⟨client.reads, topic.reads.mono second (Nat.le_refl _), message.reads.mono third (Nat.le_refl _),
      username.reads.mono fourth (Nat.le_refl _), password.reads.mono fifth (Nat.le_refl _)⟩

/-- A CONNECT is read outside of its packet exactly if it ends one byte into the keep-alive time. -/
theorem run_parseConnect (data remaining : Nat) :
    ((parseConnect data remaining).run m).1 = MqttCodec.parseConnect (segment m data remaining) ∧
      (Within data (data + remaining) ((parseConnect data remaining).run m).2 ↔
        (MqttCodec.readMqttString (segment m data remaining)).2.length ≠ 3) := by
  obtain ⟨protocolName, p, reads, read, name, forward, inside, within⟩ :=
    run_readMqttString m (Nat.le_add_right data remaining)
  rw [Nat.add_sub_cancel_left] at name
  unfold parseConnect MqttCodec.parseConnect
  rw [run_bind, read, name]
  generalize data + remaining = last at *
  dsimp only
  obtain ⟨k, rfl⟩ := Nat.exists_eq_add_of_le inside
  rw [Nat.add_sub_cancel_left, length_segment]
  match k with
  | 0 => simpa [segment] using within
  | 1 =>
    simp [segment, within_append, within_cons, within_nil, within]
    omega
  | 2 =>
    simp [segment, within_append, within_cons, within_nil, within]
    omega
  | 3 =>
    simp [segment, within_append, within_cons, within_nil, within, run_readUInt16]
  | k + 4 =>
    have strings := run_readConnectStrings m
      { protocolName
        protocolLevel := m p
        flags := m (p + 1)
        keepAlive := MqttCodec.ntohs (m (p + 2)) (m (p + 3)) } (show p + 4 ≤ p + (k + 4) by omega)
    rw [show p + (k + 4) - (p + 4) = k by omega] at strings
    rw [if_neg (by omega), run_bind, run_byteAt, if_neg (by omega), run_bind, run_byteAt, if_neg (by omega), run_bind,
      run_readUInt16, if_neg (by omega), run_bind, run_pure]
    constructor
    · rw [show k + 4 = k + 1 + 1 + 1 + 1 from rfl, segment, segment, segment, segment]
      simp only [strings.1]
    · refine iff_of_true ?_ (by omega)
      simp only [within_append, within_cons]
      refine ⟨within, ⟨by omega, within_nil _ _⟩, ⟨by omega, within_nil _ _⟩, ⟨by omega, by omega, within_nil _ _⟩, ?_,
        within_nil _ _⟩
      exact strings.2.mono (by omega) (Nat.le_refl _)

theorem run_parsePublish (flags : UInt8) (data remaining : Nat) :
    ((parsePublish flags data remaining).run m).1 = MqttCodec.parsePublish flags (segment m data remaining) ∧
      Within data (data + remaining) ((parsePublish flags data remaining).run m).2 := by
  obtain ⟨topic, p, reads, read, list, forward, inside, within⟩ :=
    run_readMqttString m (Nat.le_add_right data remaining)
  rw [Nat.add_sub_cancel_left] at list
  unfold parsePublish MqttCodec.parsePublish
  rw [run_bind, read, list]
  generalize data + remaining = last at *
  dsimp only
  split
  · refine ⟨rfl, ?_⟩
    rw [within_append]
    exact ⟨within, within_append.mpr ⟨within_range forward (by omega), within_nil _ _⟩⟩
  · by_cases short : last < p + 2
    · rw [if_pos short]
      constructor
      · obtain none | one : last - p = 0 ∨ last - p = 1 := by omega
        · rw [none]
          rfl
        · rw [one]
          rfl
      · rw [within_append]
        exact ⟨within, within_nil _ _⟩
    · rw [if_neg short, run_bind, run_readUInt16, run_bind, run_bytesAt, run_pure, segment_cons m (show p < last by omega),
        segment_cons m (show p + 1 < last by omega)]
      refine ⟨rfl, ?_⟩
      simp only [within_append, within_cons]
      exact ⟨within, ⟨by omega, by omega, within_nil _ _⟩, within_range (by omega) (by omega), within_nil _ _⟩

/-- A round of the filter loop moves the cursor on, by one byte at least and not past the end. -/
theorem run_filterRound {p last : Nat} (more : p < last) :
    p < ((filterRound p last).run m).1.2 ∧ ((filterRound p last).run m).1.2 ≤ last ∧
      Within p last ((filterRound p last).run m).2 ∧
      match ((filterRound p last).run m).1 with
      | (none, _) => (MqttCodec.readMqttString (segment m p (last - p))).2 = []
      | (some filter, p') => MqttCodec.readMqttString (segment m p (last - p)) =
          (filter.topic, filter.qos :: segment m p' (last - p')) := by
  obtain ⟨topic, p', reads, read, list, forward, inside, within⟩ := run_readMqttString m (Nat.le_of_lt more)
  unfold filterRound
  rw [run_bind, read, list]
  dsimp only
  by_cases ends : last ≤ p'
  · rw [if_pos ends, run_pure]
    refine ⟨by dsimp only; omega, inside, ?_, segment_nil m ends⟩
    rw [within_append]
    exact ⟨within, within_nil _ _⟩
  · rw [if_neg ends, run_bind, run_byteAt, run_pure]
    refine ⟨by dsimp only; omega, by dsimp only; omega, ?_, by rw [segment_cons m (by omega)]⟩
    simp only [within_append, within_cons]
    exact ⟨within, ⟨by omega, within_nil _ _⟩, within_nil _ _⟩

theorem run_parseFilters (last fuel p : Nat) (filters : List MqttTopicFilter) (inside : p ≤ last) :
    ((parseFilters last fuel p filters).run m).1 = MqttCodec.parseFilters fuel (segment m p (last - p)) filters ∧
      Within p last ((parseFilters last fuel p filters).run m).2 := by
  induction fuel generalizing p filters with
  | zero =>
    unfold parseFilters
    split
    · rename_i ends
      rw [segment_nil m ends]
      exact ⟨rfl, within_nil _ _⟩
    · rename_i more
      rw [segment_cons m (by omega)]
      exact ⟨rfl, within_nil _ _⟩
  | succ fuel ih =>
    rw [parseFilters]
    split
    · rename_i ends
      rw [segment_nil m ends]
      exact ⟨rfl, within_nil _ _⟩
    · rename_i more
      obtain ⟨forward, beyond, within, outcome⟩ := run_filterRound m (Nat.not_le.mp more)
      rw [run_bind, MqttCodec.parseFilters]
      · generalize (filterRound p last).run m = scan at *
        obtain ⟨⟨filter, p'⟩, reads⟩ := scan
        generalize MqttCodec.readMqttString (segment m p (last - p)) = result at *
        obtain ⟨topic, rest⟩ := result
        cases filter with
        | none =>
          obtain rfl : rest = [] := outcome
          refine ⟨rfl, ?_⟩
          rw [within_append]
          exact ⟨within, within_nil _ _⟩
        | some filter =>
          obtain ⟨rfl, rfl⟩ := Prod.mk.inj outcome
          obtain ⟨value, later⟩ := ih p' (filters ++ [filter]) beyond
          refine ⟨value, ?_⟩
          rw [within_append]
          exact ⟨within, later.mono (Nat.le_of_lt forward) (Nat.le_refl last)⟩
      · rw [segment_cons m (by omega)]
        exact List.cons_ne_nil _ _

theorem run_parseSubscribe (data remaining : Nat) :
    ((parseSubscribe data remaining).run m).1 = MqttCodec.parseSubscribe (segment m data remaining) ∧
      Within data (data + remaining) ((parseSubscribe data remaining).run m).2 := by
  unfold parseSubscribe
  split
  · rename_i short
    obtain none | one : remaining = 0 ∨ remaining = 1 := by omega
    · rw [none]
      exact ⟨rfl, within_nil _ _⟩
    · rw [one]
      exact ⟨rfl, within_nil _ _⟩
  · rename_i long
    obtain ⟨count, rfl⟩ : ∃ count, remaining = count + 2 := ⟨remaining - 2, by omega⟩
    obtain ⟨value, within⟩ := run_parseFilters m (data + (count + 2)) (count + 2 - 2) (data + 2) [] (by omega)
    rw [show data + (count + 2) - (data + 2) = count by omega, Nat.add_sub_cancel] at value
    rw [Nat.add_sub_cancel] at within ⊢
    rw [run_bind, run_readUInt16, run_bind, segment, segment]
    simp only [MqttCodec.parseSubscribe, length_segment, ← value]
    generalize (parseFilters (data + (count + 2)) count (data + 2) []).run m = scan at within ⊢
    obtain ⟨filters, reads⟩ := scan
    have all : Within data (data + (count + 2)) ([data, data + 1] ++ (reads ++ [])) := by
      simp only [within_append, within_cons]
      exact ⟨⟨by omega, by omega, within_nil _ _⟩, within.mono (by omega) (Nat.le_refl _), within_nil _ _⟩
    cases filters with
    | none => exact ⟨rfl, all⟩
    | some filters => exact ⟨rfl, all⟩

theorem run_parsePubAck (data remaining : Nat) :
    ((parsePubAck data remaining).run m).1 = MqttCodec.parsePubAck (segment m data remaining) ∧
      Within data (data + remaining) ((parsePubAck data remaining).run m).2 := by
  unfold parsePubAck
  split
  · rename_i short
    obtain none | one : remaining = 0 ∨ remaining = 1 := by omega
    · rw [none]
      exact ⟨rfl, within_nil _ _⟩
    · rw [one]
      exact ⟨rfl, within_nil _ _⟩
  · rename_i long
    obtain ⟨count, rfl⟩ : ∃ count, remaining = count + 2 := ⟨remaining - 2, by omega⟩
    rw [run_bind, run_readUInt16, run_pure, segment, segment]
    refine ⟨rfl, ?_⟩
    simp only [within_append, within_cons]
    exact ⟨⟨by omega, by omega, within_nil _ _⟩, within_nil _ _⟩

/-- The body of a CONNECT that ends with the level, the flags and one byte of the keep-alive time. -/
def CutKeepAlive (type : MqttPacketType) (body : Bytes) : Prop :=
  type = .connect ∧ (MqttCodec.readMqttString body).2.length = 3

instance (type : MqttPacketType) (body : Bytes) : Decidable (CutKeepAlive type body) :=
  inferInstanceAs (Decidable (_ ∧ _))

theorem run_parseBody (type : MqttPacketType) (flags : UInt8) (data remaining : Nat) :
    ((parseBody type flags data remaining).run m).1 = MqttCodec.parseBody type flags (segment m data remaining) ∧
      (Within data (data + remaining) ((parseBody type flags data remaining).run m).2 ↔
        ¬ CutKeepAlive type (segment m data remaining)) := by
  cases type with
  | connect =>
    obtain ⟨value, within⟩ := run_parseConnect m data remaining
    refine ⟨value, within.trans (not_congr ?_)⟩
    exact ⟨fun cut => ⟨rfl, cut⟩, fun cut => cut.2⟩
  | publish =>
    obtain ⟨value, within⟩ := run_parsePublish m flags data remaining
    exact ⟨value, iff_of_true within fun cut => by cases cut.1⟩
  | subscribe =>
    obtain ⟨value, within⟩ := run_parseSubscribe m data remaining
    exact ⟨value, iff_of_true within fun cut => by cases cut.1⟩
  | puback =>
    obtain ⟨value, within⟩ := run_parsePubAck m data remaining
    exact ⟨value, iff_of_true within fun cut => by cases cut.1⟩
  | _ => exact ⟨rfl, iff_of_true (within_nil _ _) fun cut => by cases cut.1⟩

theorem run_decodeLoop (data len fuel i multiplier value : Nat) :
    ((decodeLoop data len fuel i multiplier value).run m).1 =
        MqttCodec.decodeLoop fuel i multiplier value (segment m (data + i) (len - i)) ∧
      Within data (data + len) ((decodeLoop data len fuel i multiplier value).run m).2 := by
  induction fuel generalizing i multiplier value with
  | zero => exact ⟨rfl, within_nil _ _⟩
  | succ fuel ih =>
    rw [decodeLoop]
    split
    · rename_i ends
      rw [Nat.sub_eq_zero_of_le ends]
      exact ⟨rfl, within_nil _ _⟩
    · rename_i more
      have read : Within data (data + len) [data + i] := by
        rw [within_cons]
        exact ⟨by omega, within_nil _ _⟩
      obtain ⟨count, left⟩ : ∃ count, len - i = count + 1 := ⟨len - i - 1, by omega⟩
      rw [run_bind, run_byteAt, left, segment, MqttCodec.decodeLoop]
      dsimp only
      by_cases last : m (data + i) &&& 0x80 = 0
      · rw [if_pos last, if_pos last]
        exact ⟨rfl, within_append.mpr ⟨read, within_nil _ _⟩⟩
      · rw [if_neg last, if_neg last]
        obtain ⟨decoded, within⟩ := ih (i + 1) (multiplier * 128)
          ((value + (m (data + i) &&& 0x7F).toNat * multiplier) % 2 ^ 32)
        rw [show len - (i + 1) = count by omega, ← Nat.add_assoc] at decoded
        exact ⟨decoded, within_append.mpr ⟨read, within⟩⟩

theorem run_decodeRemainingLength (data len : Nat) :
    ((decodeRemainingLength data len).run m).1 = MqttCodec.decodeRemainingLength (segment m data len) ∧
      Within data (data + len) ((decodeRemainingLength data len).run m).2 := run_decodeLoop m data len 4 0 1 0

/-- Where the body of the first packet begins. -/
def bodyStart (p : Bytes) : Nat := 1 + (MqttCodec.decodeRemainingLength p.tail).2

def bodyLength (p : Bytes) : Nat := (MqttCodec.decodeRemainingLength p.tail).1

def bodyReads (p : Bytes) : List Nat :=
  ((parseBody (MqttCodec.packetType p) (MqttCodec.packetFlags p) (bodyStart p) (bodyLength p)).run m).2

theorem packetData_segment {n : Nat} (arrived : MqttCodec.totalLen (segment m 0 n) ≤ n) :
    MqttCodec.packetData (segment m 0 n) = segment m (bodyStart (segment m 0 n)) (bodyLength (segment m 0 n)) := by
  unfold MqttCodec.totalLen at arrived
  show ((segment m 0 n).drop (bodyStart (segment m 0 n))).take (bodyLength (segment m 0 n)) = _
  rw [drop_segment, take_segment m (by unfold bodyStart bodyLength; omega), Nat.zero_add]

/-- The pointers compute what the lists compute, and `parse` reads the header before the body. -/
theorem run_parse (n : Nat) :
    let p := segment m 0 n
    ((parse n).run m).1 = MqttCodec.firstPacket p ∧
      ∃ header, Within 0 n header ∧
        ((parse n).run m).2 = header ++ (if n < 2 ∨ n < MqttCodec.totalLen p then [] else bodyReads m p) := by
  intro p
  have length : p.length = n := length_segment m 0 n
  unfold parse MqttCodec.firstPacket
  by_cases two : n < 2
  · rw [if_pos two, if_pos (by omega), if_pos (Or.inl two)]
    exact ⟨rfl, [], within_nil _ _, rfl⟩
  rw [if_neg two, if_neg (by omega)]
  obtain ⟨count, rfl⟩ : ∃ count, n = count + 1 := ⟨n - 1, by omega⟩
  have tail : p.tail = segment m 1 count := rfl
  obtain ⟨decoded, headerRead⟩ := run_decodeRemainingLength m 1 count
  rw [← tail] at decoded
  have firstRead : Within 0 (count + 1) ([0] ++ ((decodeRemainingLength 1 count).run m).2) := by
    rw [within_append, within_cons]
    exact ⟨⟨by omega, within_nil _ _⟩, headerRead.mono (by omega) (by omega)⟩
  rw [run_bind, run_byteAt, run_bind, Nat.add_sub_cancel]
  generalize (decodeRemainingLength 1 count).run m = scan at decoded firstRead ⊢
  obtain ⟨⟨remainingLen, rlBytes⟩, reads⟩ := scan
  have start : bodyStart p = 1 + rlBytes := by rw [bodyStart, ← decoded]
  have size : bodyLength p = remainingLen := by rw [bodyLength, ← decoded]
  have total : MqttCodec.totalLen p = 1 + rlBytes + remainingLen := by rw [MqttCodec.totalLen, ← decoded]
  dsimp only
  by_cases missing : count + 1 < 1 + rlBytes + remainingLen
  · rw [if_pos missing, if_pos (by omega), if_pos (by omega)]
    exact ⟨rfl, _, firstRead, by simp⟩
  · have data : MqttCodec.packetData p = segment m (1 + rlBytes) remainingLen := by
      rw [← start, ← size]
      exact packetData_segment m (by rw [← total] at missing; exact Nat.not_lt.mp missing)
    have body := (run_parseBody m (MqttCodec.packetType p) (MqttCodec.packetFlags p) (1 + rlBytes) remainingLen).1
    rw [if_neg missing, if_neg (by omega), if_neg (by omega), run_bind, run_pure, data, total]
    refine ⟨congrArg (fun result => some (1 + rlBytes + remainingLen, result)) body, _, firstRead, ?_⟩
    rw [bodyReads, start, size, List.append_nil, List.append_assoc]
    rfl

end Memory

/-! ### What is read -/

/-- The memory from `peek()` on. Behind the vector of the buffer it holds anything. -/
def memory (buf : Buffer) (outside : Nat → UInt8) (i : Nat) : UInt8 := buf.buffer_.getD (buf.readerIndex_ + i) (outside i)

theorem segment_memory (buf : Buffer) (outside : Nat → UInt8) :
    segment (memory buf outside) 0 buf.readableBytes = buf.readable := by
  have order := buf.reader_le_writer
  have size := buf.writer_le_size
  unfold memory
  rw [segment_getD (by unfold Buffer.readableBytes; omega), Buffer.readable, List.drop_take]
  rfl

/-- Every byte that `parse` reads is readable and every byte that a body parser reads is in the packet, exactly if the
packet is not a CONNECT that ends in the middle of its keep-alive time. -/
theorem reads_inside_iff (buf : Buffer) (outside : Nat → UInt8) :
    let p := buf.readable
    let m := memory buf outside
    (Within 0 buf.readableBytes ((parse buf.readableBytes).run m).2 ∧
      (MqttCodec.Complete p → Within (bodyStart p) (MqttCodec.totalLen p) (bodyReads m p))) ↔
      ¬ (MqttCodec.Complete p ∧ CutKeepAlive (MqttCodec.packetType p) (MqttCodec.packetData p)) := by
  intro p m
  have same : segment m 0 buf.readableBytes = p := segment_memory buf outside
  have length : p.length = buf.readableBytes := buf.length_readable
  obtain ⟨-, header, headerRead, reads⟩ := run_parse m buf.readableBytes
  rw [same] at reads
  have total : MqttCodec.totalLen p = bodyStart p + bodyLength p := rfl
  by_cases complete : MqttCodec.Complete p
  · have arrived : MqttCodec.totalLen p ≤ buf.readableBytes := by rw [← length]; exact complete.2
    have data : MqttCodec.packetData p = segment m (bodyStart p) (bodyLength p) := by
      rw [← same]
      exact packetData_segment m (by rw [same]; exact arrived)
    have body : Within (bodyStart p) (MqttCodec.totalLen p) (bodyReads m p) ↔ _ :=
      (run_parseBody m (MqttCodec.packetType p) (MqttCodec.packetFlags p) (bodyStart p) (bodyLength p)).2
    have two : 2 ≤ buf.readableBytes := by rw [← length]; exact complete.1
    rw [reads, if_neg (by omega), within_append, data, ← not_congr (and_iff_right complete).symm, ← body]
    constructor
    · rintro ⟨-, inside⟩
      exact inside complete
    · intro inside
      exact ⟨⟨headerRead, inside.mono (Nat.zero_le _) arrived⟩, fun _ => inside⟩
  · have missing : buf.readableBytes < 2 ∨ buf.readableBytes < MqttCodec.totalLen p := by
      by_contra all
      exact complete ⟨by omega, by omega⟩
    rw [reads, if_pos missing, List.append_nil]
    exact ⟨fun _ both => complete both.1, fun _ => ⟨headerRead, fun whole => absurd whole complete⟩⟩

/-- A CONNECT of nine bytes: the protocol name, the level, the flags and half of the keep-alive time. -/
def cutConnect : Bytes := [0x10, 9, 0, 4, 77, 81, 84, 84, 4, 2, 0]

/-- The last byte that `parse` reads is behind the packet and behind the readable bytes. -/
theorem cutConnect_read_outside :
    let buf := MqttCodec.received cutConnect
    ¬ Within 0 buf.readableBytes ((parse buf.readableBytes).run (memory buf fun _ => 0)).2 := by
  decide +kernel

end IotGateway.Protocol.RawCodec
