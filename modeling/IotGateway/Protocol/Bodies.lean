import IotGateway.Protocol.RoundTrip

/-!
# Packet bodies

The layouts that MQTT prescribes for the bodies of CONNECT, PUBLISH and SUBSCRIBE. The
parser decodes every body that is laid out so. Of the others it refuses those that end
where it looks for the end: a string that is cut off anywhere else is taken for an empty
one.
-/

namespace IotGateway.Protocol.MqttCodec
open Text Net

/-! ### Strings -/

/-- A string with its length in front. -/
def stringField (str : Bytes) : Bytes := htons (UInt16.ofNat str.length) ++ str

/-- The bytes begin with a whole string. -/
def StartsWithString (p : Bytes) : Prop := ∃ str rest, str.length ≤ 65535 ∧ p = stringField str ++ rest

theorem htons_ntohs (high low : UInt8) : htons (ntohs high low) = [high, low] := by
  have highBound := high.toNat_lt
  have lowBound := low.toNat_lt
  have value : (ntohs high low).toNat = high.toNat * 256 + low.toNat := by
    rw [ntohs, UInt16.toNat_ofNat']
    omega
  rw [htons, value, show (high.toNat * 256 + low.toNat) / 256 = high.toNat by omega,
    show (high.toNat * 256 + low.toNat) % 256 = low.toNat by omega, UInt8.ofNat_toNat, UInt8.ofNat_toNat]

theorem readMqttString_field {str : Bytes} (short : str.length ≤ 65535) (rest : Bytes) :
    readMqttString (stringField str ++ rest) = (str, rest) := by
  rw [stringField, List.append_assoc]
  exact readMqttString_htons short rest

/-- A string that is not whole is read as an empty one, and the cursor moves past the length if there is one. -/
theorem readMqttString_damaged {p : Bytes} (damaged : ¬ StartsWithString p) :
    readMqttString p = ([], if p.length < 2 then p else p.drop 2) := by
  match p with
  | [] => rfl
  | [_] => rfl
  | high :: low :: rest =>
    by_cases cut : rest.length < (ntohs high low).toNat
    · simp [readMqttString, cut]
    · exfalso
      have bound := (ntohs high low).toNat_lt
      have length : (rest.take (ntohs high low).toNat).length = (ntohs high low).toNat := by
        rw [List.length_take]
        omega
      apply damaged
      refine ⟨rest.take (ntohs high low).toNat, rest.drop (ntohs high low).toNat, by omega, ?_⟩
      rw [stringField, length, UInt16.ofNat_toNat, htons_ntohs, List.append_assoc, List.take_append_drop]
      rfl

theorem length_readMqttString (p : Bytes) : (readMqttString p).2.length ≤ p.length := by
  by_cases whole : StartsWithString p
  · obtain ⟨str, rest, short, rfl⟩ := whole
    rw [readMqttString_field short, List.length_append]
    exact Nat.le_add_left _ _
  · rw [readMqttString_damaged whole]
    split
    · exact Nat.le_refl _
    · rw [List.length_drop]
      omega

/-! ### Layouts -/

def flaggedField (flags bit : UInt8) (str : Bytes) : Bytes := if flags &&& bit = 0 then [] else stringField str

/-- The client id and the optional strings behind the keep-alive time. -/
def connectStrings (payload : MqttConnectPayload) : Bytes :=
  stringField payload.clientId ++ (flaggedField payload.flags connectFlagWill payload.willTopic ++
    (flaggedField payload.flags connectFlagWill payload.willMessage ++
      (flaggedField payload.flags connectFlagUsername payload.username ++
        flaggedField payload.flags connectFlagPassword payload.password)))

def connectLayout (payload : MqttConnectPayload) : Bytes :=
  stringField payload.protocolName ++ ([payload.protocolLevel, payload.flags] ++ (htons payload.keepAlive ++
    connectStrings payload))

/-- A string that MQTT can carry, absent where its flag is not set. -/
def Carried (flags bit : UInt8) (str : Bytes) : Prop := str.length ≤ 65535 ∧ (flags &&& bit = 0 → str = [])

/-- The strings of a CONNECT can be carried, and those without a flag are absent. -/
structure LegalConnect (payload : MqttConnectPayload) : Prop where
  protocolName : payload.protocolName.length ≤ 65535
  clientId : payload.clientId.length ≤ 65535
  willTopic : Carried payload.flags connectFlagWill payload.willTopic
  willMessage : Carried payload.flags connectFlagWill payload.willMessage
  username : Carried payload.flags connectFlagUsername payload.username
  password : Carried payload.flags connectFlagPassword payload.password

def filterLayout (filter : MqttTopicFilter) : Bytes := stringField filter.topic ++ [filter.qos]

def subscribeLayout (packetId : UInt16) (filters : List MqttTopicFilter) : Bytes :=
  htons packetId ++ filters.flatMap filterLayout

def publishQos (flags : UInt8) : MqttQoS := .ofValue ((flags >>> 1) &&& 0x03)

/-- The body is a sequence of the fields that its packet type prescribes. -/
def WellFormed (type : MqttPacketType) (flags : UInt8) (body : Bytes) : Prop :=
  match type with
  | .connect => ∃ payload, LegalConnect payload ∧ body = connectLayout payload
  | .publish => publishQos flags ≠ .reserved ∧
      ∃ topic payload packetId, topic.length ≤ 65535 ∧ body = publishBody topic payload (publishQos flags) packetId
  | .subscribe => ∃ packetId filters, (∀ filter ∈ filters, filter.topic.length ≤ 65535) ∧
      body = subscribeLayout packetId filters
  | _ => True

/-! ### What is laid out so is decoded -/

theorem readFlagged_field {flags bit : UInt8} {str : Bytes} (carried : Carried flags bit str) (rest : Bytes) :
    readFlagged flags bit (flaggedField flags bit str ++ rest) = (str, rest) := by
  obtain ⟨short, absent⟩ := carried
  unfold readFlagged flaggedField
  split
  · rename_i unset
    rw [absent unset, List.nil_append]
  · exact readMqttString_field short rest

theorem readConnectStrings_layout {payload : MqttConnectPayload} (legal : LegalConnect payload) :
    readConnectStrings
      { protocolName := payload.protocolName
        protocolLevel := payload.protocolLevel
        flags := payload.flags
        keepAlive := payload.keepAlive } (connectStrings payload) = payload := by
  have password := readFlagged_field legal.password []
  rw [List.append_nil] at password
  unfold readConnectStrings connectStrings
  rw [readMqttString_field legal.clientId]
  dsimp only
  rw [readFlagged_field legal.willTopic]
  dsimp only
  rw [readFlagged_field legal.willMessage]
  dsimp only
  rw [readFlagged_field legal.username]
  dsimp only
  rw [password]

theorem parseConnect_layout {payload : MqttConnectPayload} (legal : LegalConnect payload) :
    parseConnect (connectLayout payload) = (.ok, [.connect payload]) := by
  unfold parseConnect connectLayout
  rw [readMqttString_field legal.protocolName]
  simp only [htons, List.cons_append, List.nil_append, ntohs_htons]
  rw [readConnectStrings_layout legal]

theorem parseFilters_layout {filters : List MqttTopicFilter} (short : ∀ filter ∈ filters, filter.topic.length ≤ 65535)
    (fuel : Nat) (seen : List MqttTopicFilter) (enough : (filters.flatMap filterLayout).length ≤ fuel) :
    parseFilters fuel (filters.flatMap filterLayout) seen = some (seen ++ filters) := by
  induction filters generalizing fuel seen with
  | nil => cases fuel <;> simp [parseFilters]
  | cons filter filters ih =>
    have first := short filter List.mem_cons_self
    rw [List.flatMap_cons, filterLayout, List.append_assoc] at enough ⊢
    cases fuel with
    | zero => simp [stringField, htons] at enough
    | succ fuel =>
      have read := readMqttString_field first ([filter.qos] ++ filters.flatMap filterLayout)
      have later := ih (fun f member => short f (List.mem_cons_of_mem _ member)) fuel (seen ++ [filter]) (by
        simp only [List.length_append, List.length_cons] at enough
        omega)
      rw [parseFilters]
      · rw [read]
        simp only [List.cons_append, List.nil_append]
        rw [later, List.append_assoc]
        rfl
      · simp [stringField, htons]

theorem parseSubscribe_layout (packetId : UInt16) {filters : List MqttTopicFilter}
    (short : ∀ filter ∈ filters, filter.topic.length ≤ 65535) :
    parseSubscribe (subscribeLayout packetId filters) = (.ok, [.subscribe packetId filters]) := by
  unfold parseSubscribe subscribeLayout
  simp only [htons, List.cons_append, List.nil_append, ntohs_htons]
  rw [parseFilters_layout short _ [] (Nat.le_refl _), List.nil_append]

/-! ### What the parser refuses -/

/-- The last string of a filter list ends with the body, and the QoS byte behind it is missing. -/
inductive EndsAtTopic : Bytes → Prop where
  | last {p : Bytes} (more : p ≠ []) (nothing : (readMqttString p).2 = []) : EndsAtTopic p
  | next {p rest : Bytes} {qos : UInt8} (more : p ≠ []) (behind : (readMqttString p).2 = qos :: rest)
    (later : EndsAtTopic rest) : EndsAtTopic p

/-- The body ends at a place where the parser looks for the end. -/
def CutShort (type : MqttPacketType) (flags : UInt8) (body : Bytes) : Prop :=
  match type with
  | .connect => (readMqttString body).2.length < 4
  | .publish => publishQos flags ≠ .atMostOnce ∧ (readMqttString body).2.length < 2
  | .subscribe => body.length < 2 ∨ EndsAtTopic (body.drop 2)
  | .puback => body.length < 2
  | _ => False

theorem parseConnect_error_iff (body : Bytes) : (parseConnect body).1 = .error ↔ (readMqttString body).2.length < 4 := by
  unfold parseConnect
  generalize readMqttString body = read
  obtain ⟨protocolName, p⟩ := read
  match p with
  | [] | [_] | [_, _] | [_, _, _] => simp
  | _ :: _ :: _ :: _ :: _ => simp

theorem parsePublish_error_iff (flags : UInt8) (body : Bytes) :
    (parsePublish flags body).1 = .error ↔ publishQos flags ≠ .atMostOnce ∧ (readMqttString body).2.length < 2 := by
  unfold parsePublish publishQos
  generalize readMqttString body = read
  obtain ⟨topic, p⟩ := read
  dsimp only
  split
  · rename_i plain
    simp [plain]
  · rename_i acknowledged
    match p with
    | [] | [_] => simp [acknowledged]
    | _ :: _ :: _ => simp

theorem parseFilters_none_iff (fuel : Nat) (p : Bytes) (seen : List MqttTopicFilter) (enough : p.length ≤ fuel) :
    parseFilters fuel p seen = none ↔ EndsAtTopic p := by
  induction fuel generalizing p seen with
  | zero =>
    obtain rfl : p = [] := List.eq_nil_of_length_eq_zero (by omega)
    refine ⟨fun none => by simp [parseFilters] at none, fun ends => ?_⟩
    cases ends <;> exact absurd rfl ‹_›
  | succ fuel ih =>
    cases p with
    | nil =>
      refine ⟨fun none => by simp [parseFilters] at none, fun ends => ?_⟩
      cases ends <;> exact absurd rfl ‹_›
    | cons b p =>
      have shorter := length_readMqttString (b :: p)
      rw [parseFilters]
      · cases read : readMqttString (b :: p) with
        | mk topic behind =>
          rw [read] at shorter
          cases behind with
          | nil => exact ⟨fun _ => .last (by simp) (by rw [read]), fun _ => rfl⟩
          | cons qos rest =>
            simp only [List.length_cons] at shorter enough
            rw [ih rest _ (by omega)]
            refine ⟨fun later => .next (by simp) (by rw [read]) later, fun ends => ?_⟩
            cases ends with
            | last more nothing =>
              rw [read] at nothing
              cases nothing
            | next more behind later =>
              rw [read] at behind
              cases behind
              exact later
      · exact fun empty => by cases empty

theorem parseSubscribe_error_iff (body : Bytes) :
    (parseSubscribe body).1 = .error ↔ body.length < 2 ∨ EndsAtTopic (body.drop 2) := by
  match body with
  | [] | [_] => simp [parseSubscribe]
  | high :: low :: p =>
    have ends := parseFilters_none_iff p.length p [] (Nat.le_refl _)
    rw [List.drop_succ_cons, List.drop_succ_cons, List.drop_zero, ← ends]
    cases found : parseFilters p.length p [] <;> simp [parseSubscribe, found]

theorem parseBody_error_iff (type : MqttPacketType) (flags : UInt8) (body : Bytes) :
    (parseBody type flags body).1 = .error ↔ CutShort type flags body := by
  cases type with
  | connect => exact parseConnect_error_iff body
  | publish => exact parsePublish_error_iff flags body
  | subscribe => exact parseSubscribe_error_iff body
  | puback =>
    match body with
    | [] | [_] => simp [parseBody, parsePubAck, CutShort]
    | _ :: _ :: _ => simp [parseBody, parsePubAck, CutShort]
  | _ => simp [parseBody, CutShort]

/-! ### Packets in the buffer -/

/-- `parse` finds a whole packet at the front of the readable bytes. -/
def Complete (p : Bytes) : Prop := 2 ≤ p.length ∧ totalLen p ≤ p.length

instance (p : Bytes) : Decidable (Complete p) := inferInstanceAs (Decidable (_ ∧ _))

def packetType (p : Bytes) : MqttPacketType := mqttPacketTypeFromByte (p.headD 0)

def packetFlags (p : Bytes) : UInt8 := mqttPacketFlags (p.headD 0)

theorem parse_complete {buf : Buffer} (complete : Complete buf.readable) :
    parse buf = ((parseBody (packetType buf.readable) (packetFlags buf.readable) (packetData buf.readable)).1,
      (parseBody (packetType buf.readable) (packetFlags buf.readable) (packetData buf.readable)).2,
      buf.retrieve (totalLen buf.readable)) := by
  obtain ⟨two, arrived⟩ := complete
  rw [parse, firstPacket, if_neg (Nat.not_lt.mpr two), if_neg (Nat.not_lt.mpr arrived)]
  rfl

theorem parse_incomplete {buf : Buffer} (incomplete : ¬ Complete buf.readable) : parse buf = (.incomplete, [], buf) := by
  have none : firstPacket buf.readable = none := by
    unfold firstPacket
    split
    · rfl
    · split
      · rfl
      · rename_i two arrived
        exact absurd ⟨Nat.not_lt.mp two, Nat.not_lt.mp arrived⟩ incomplete
  rw [parse, none]

/-- A packet that is refused fires no callback. -/
theorem parse_refused {buf : Buffer} (refused : (parse buf).1 = .error) : (parse buf).2.1 = [] :=
  parse_silent (by rw [refused]; exact fun ok => by cases ok)

theorem parse_error_iff {buf : Buffer} (complete : Complete buf.readable) :
    (parse buf).1 = .error ↔ CutShort (packetType buf.readable) (packetFlags buf.readable) (packetData buf.readable) := by
  rw [parse_complete complete]
  exact parseBody_error_iff _ _ _

/-- A body that is not well formed is refused exactly if it ends where the parser looks for the end. -/
theorem malformed_rejected_iff (buf : Buffer) (complete : Complete buf.readable) :
    let type := packetType buf.readable
    let flags := packetFlags buf.readable
    let body := packetData buf.readable
    (((parse buf).2.1 ≠ [] → WellFormed type flags body) ∧
      (¬ WellFormed type flags body → (parse buf).1 = .error ∧ (parse buf).2.1 = [])) ↔
      WellFormed type flags body ∨ CutShort type flags body := by
  intro type flags body
  have refused := parse_error_iff complete
  constructor
  · rintro ⟨-, rejects⟩
    by_cases wellFormed : WellFormed type flags body
    · exact Or.inl wellFormed
    · exact Or.inr (refused.mp (rejects wellFormed).1)
  · rintro (wellFormed | cut)
    · exact ⟨fun _ => wellFormed, fun malformed => absurd wellFormed malformed⟩
    · have error := refused.mpr cut
      exact ⟨fun fired => absurd (parse_refused error) fired, fun _ => ⟨error, parse_refused error⟩⟩

def received (bytes : Bytes) : Buffer := (Buffer.new kInitialSize).append bytes

@[simp] theorem readable_received (bytes : Bytes) : (received bytes).readable = bytes := by
  rw [received, Buffer.readable_append, Buffer.readable_new, List.nil_append]

/-- A SUBSCRIBE whose only filter has no QoS byte. -/
def missingQos : Bytes := [0x82, 5, 0, 1, 0, 1, 116]

theorem malformed_rejected_missingQos :
    Complete (received missingQos).readable ∧
      (¬ WellFormed .subscribe 2 [0, 1, 0, 1, 116] →
        (parse (received missingQos)).1 = .error ∧ (parse (received missingQos)).2.1 = []) := by
  have complete : Complete (received missingQos).readable := by
    rw [readable_received]
    decide
  have type : packetType (received missingQos).readable = .subscribe := by
    rw [readable_received]
    rfl
  have flags : packetFlags (received missingQos).readable = 2 := by
    rw [readable_received]
    rfl
  have body : packetData (received missingQos).readable = [0, 1, 0, 1, 116] := by
    rw [readable_received]
    rfl
  have iff := malformed_rejected_iff (received missingQos) complete
  rw [type, flags, body] at iff
  exact ⟨complete, (iff.mpr (Or.inr (Or.inr (.last (by decide) (by decide))))).2⟩

/-- A CONNECT whose client id should have five bytes and has one. -/
def shortClientId : Bytes := [0x10, 13, 0, 4, 77, 81, 84, 84, 4, 2, 0, 60, 0, 5, 97]

theorem shortClientId_accepted :
    let buf := received shortClientId
    Complete buf.readable ∧ ¬ WellFormed (packetType buf.readable) (packetFlags buf.readable) (packetData buf.readable) ∧
      (parse buf).1 = .ok ∧ (parse buf).2.1 ≠ [] := by
  intro buf
  have parsed : parseConnect (packetData shortClientId) =
      (.ok, [.connect { protocolName := ascii "MQTT", flags := 2, keepAlive := 60 }]) := by decide
  have complete : Complete buf.readable := by
    rw [readable_received]
    decide
  have malformed : ¬ WellFormed .connect 0 (packetData shortClientId) := by
    rintro ⟨payload, legal, laid⟩
    have decoded := parseConnect_layout legal
    rw [← laid, parsed] at decoded
    cases decoded
    exact absurd laid (by decide)
  refine ⟨complete, ?_, ?_⟩
  · rw [readable_received]
    exact malformed
  · have body : parseBody (packetType shortClientId) (packetFlags shortClientId) (packetData shortClientId) = _ := parsed
    rw [parse_complete complete, readable_received, body]
    exact ⟨rfl, List.cons_ne_nil _ _⟩

/-! ### Legal CONNECT and SUBSCRIBE packets -/

theorem length_stringField {str : Bytes} : (stringField str).length = 2 + str.length := by
  simp only [stringField, htons, List.length_append, List.length_cons, List.length_nil]

theorem length_flaggedField {flags bit : UInt8} {str : Bytes} (carried : Carried flags bit str) :
    (flaggedField flags bit str).length ≤ 65537 := by
  unfold flaggedField
  split
  · simp
  · have short := carried.1
    rw [length_stringField]
    omega

theorem length_connectLayout {payload : MqttConnectPayload} (legal : LegalConnect payload) :
    (connectLayout payload).length < 2 ^ 28 := by
  have name := legal.protocolName
  have client := legal.clientId
  have willTopic := length_flaggedField legal.willTopic
  have willMessage := length_flaggedField legal.willMessage
  have username := length_flaggedField legal.username
  have password := length_flaggedField legal.password
  simp only [connectLayout, connectStrings, htons, List.length_append, List.length_cons, List.length_nil,
    length_stringField]
  omega

theorem parse_isPacket {bytes rest : Bytes} {events : List MqttEvent} {buf : Buffer} (packet : IsPacket bytes events)
    (arrived : buf.readable = bytes ++ rest) :
    (parse buf).1 = .ok ∧ (parse buf).2.1 = events ∧ (parse buf).2.2.readable = rest := by
  rw [parse, arrived, packet rest]
  refine ⟨rfl, rfl, ?_⟩
  rw [Buffer.readable_retrieve, arrived, List.drop_left]

theorem parse_of_isPacket {bytes : Bytes} {events : List MqttEvent} {buf : Buffer} (packet : IsPacket bytes events)
    (arrived : buf.readable = bytes) : ∃ buf', parse buf = (.ok, events, buf') := by
  rw [← List.append_nil bytes] at arrived
  obtain ⟨accepted, callback, -⟩ := parse_isPacket packet arrived
  exact ⟨_, Prod.ext accepted (Prod.ext callback rfl)⟩

/-- A CONNECT or a SUBSCRIBE in the layout of MQTT is accepted, whatever follows it: its callback gets the values that
were laid out, and exactly its bytes are taken. -/
theorem legal_decoded (buf : Buffer) (rest : Bytes) :
    (∀ payload, LegalConnect payload →
      buf.readable = framed (mqttPacketTypeByte .connect 0) (connectLayout payload) ++ rest →
      (parse buf).1 = .ok ∧ (parse buf).2.1 = [.connect payload] ∧ (parse buf).2.2.readable = rest) ∧
    ∀ packetId filters, filters ≠ [] → (∀ filter ∈ filters, filter.topic.length ≤ 65535) →
      (subscribeLayout packetId filters).length < 2 ^ 28 →
      buf.readable = framed (mqttPacketTypeByte .subscribe 2) (subscribeLayout packetId filters) ++ rest →
      (parse buf).1 = .ok ∧ (parse buf).2.1 = [.subscribe packetId filters] ∧ (parse buf).2.2.readable = rest := by
  constructor
  · intro payload legal arrived
    apply parse_isPacket _ arrived
    apply isPacket_framed (length_connectLayout legal)
    rw [show mqttPacketTypeFromByte (mqttPacketTypeByte .connect 0) = .connect by decide]
    exact parseConnect_layout legal
  · intro packetId filters _ short small arrived
    apply parse_isPacket _ arrived
    apply isPacket_framed small
    rw [show mqttPacketTypeFromByte (mqttPacketTypeByte .subscribe 2) = .subscribe by decide]
    exact parseSubscribe_layout packetId short

def lastWill : MqttConnectPayload where
  protocolName := ascii "MQTT"
  flags := 0x84
  clientId := ascii "sensor"
  willTopic := ascii "gone"
  username := ascii "iot"

def twoFilters : List MqttTopicFilter := [⟨ascii "a/b", 1⟩, ⟨[], 0⟩]

theorem legal_decoded_both :
    let connect := received (framed (mqttPacketTypeByte .connect 0) (connectLayout lastWill) ++ [0xC0])
    let subscribe := received (framed (mqttPacketTypeByte .subscribe 2) (subscribeLayout 7 twoFilters) ++ [])
    ((parse connect).1 = .ok ∧ (parse connect).2.1 = [.connect lastWill] ∧ (parse connect).2.2.readable = [0xC0]) ∧
      (parse subscribe).1 = .ok ∧ (parse subscribe).2.1 = [.subscribe 7 twoFilters] ∧
      (parse subscribe).2.2.readable = [] := by
  intro connect subscribe
  have legal : LegalConnect lastWill := by
    constructor
    · decide
    · decide
    · exact ⟨by decide, fun unset => absurd unset (by decide)⟩
    · exact ⟨by decide, fun _ => rfl⟩
    · exact ⟨by decide, fun unset => absurd unset (by decide)⟩
    · exact ⟨by decide, fun _ => rfl⟩
  exact ⟨(legal_decoded connect [0xC0]).1 lastWill legal (readable_received _),
    (legal_decoded subscribe []).2 7 twoFilters (by decide) (by decide) (by decide) (readable_received _)⟩

/-! ### Lengths of more than four bytes -/

/-- The four bytes that a length may have all announce another one. -/
def Overlong (p : Bytes) : Prop := 5 ≤ p.length ∧ ∀ i ∈ [1, 2, 3, 4], p.getD i 0 &&& 0x80 ≠ 0

instance (p : Bytes) : Decidable (Overlong p) := inferInstanceAs (Decidable (_ ∧ _))

/-- The number in the seven low bits of these four bytes. -/
def overlongValue (p : Bytes) : Nat :=
  (p.getD 1 0 &&& 0x7F).toNat + (p.getD 2 0 &&& 0x7F).toNat * 128 + (p.getD 3 0 &&& 0x7F).toNat * 128 ^ 2 +
    (p.getD 4 0 &&& 0x7F).toNat * 128 ^ 3

theorem low_lt (b : UInt8) : (b &&& 0x7F).toNat < 128 := by
  rw [UInt8.toNat_and]
  exact Nat.and_lt_two_pow _ (by decide : (0x7F : UInt8).toNat < 2 ^ 7)

theorem decodeRemainingLength_overlong {p : Bytes} (overlong : Overlong p) :
    decodeRemainingLength p.tail = (overlongValue p, 5) := by
  obtain ⟨long, more⟩ := overlong
  match p with
  | [] | [_] | [_, _] | [_, _, _] | [_, _, _, _] => simp at long
  | first :: b1 :: b2 :: b3 :: b4 :: rest =>
    simp only [List.mem_cons, List.not_mem_nil, or_false, forall_eq_or_imp, forall_eq, List.getD_cons_succ,
      List.getD_cons_zero] at more
    obtain ⟨more1, more2, more3, more4⟩ := more
    have low1 := low_lt b1
    have low2 := low_lt b2
    have low3 := low_lt b3
    have low4 := low_lt b4
    simp only [decodeRemainingLength, List.tail_cons, decodeLoop, more1, more2, more3, more4, if_false, overlongValue,
      List.getD_cons_succ, List.getD_cons_zero, Prod.mk.injEq, and_true]
    omega

/-- A PUBACK without a packet id, under a length of five bytes. -/
def overlongPubAck : Bytes := [0x40, 0x80, 0x80, 0x80, 0x80, 0]

/-- A PINGREQ under a length of five bytes. -/
def overlongPingReq : Bytes := [0xC0, 0x80, 0x80, 0x80, 0x80, 0]

theorem decodeLoop_le (fuel i multiplier value : Nat) (data : Bytes) :
    (decodeLoop fuel i multiplier value data).1 ≤ value + (128 ^ fuel - 1) * multiplier := by
  induction fuel generalizing i multiplier value data with
  | zero => simp [decodeLoop]
  | succ fuel ih =>
    cases data with
    | nil => simp [decodeLoop]
    | cons byte data =>
      have low := low_lt byte
      have small : (byte &&& 0x7F).toNat * multiplier ≤ 127 * multiplier := Nat.mul_le_mul_right _ (by omega)
      have digit := Nat.mod_le (value + (byte &&& 0x7F).toNat * multiplier) (2 ^ 32)
      have positive : 1 ≤ 128 ^ fuel := Nat.one_le_two_pow.trans (Nat.pow_le_pow_left (by norm_num) fuel)
      have groups : 127 * multiplier + (128 ^ fuel - 1) * (multiplier * 128) = (128 ^ (fuel + 1) - 1) * multiplier := by
        obtain ⟨k, power⟩ : ∃ k, 128 ^ fuel = k + 1 := ⟨128 ^ fuel - 1, by omega⟩
        rw [pow_succ, power, Nat.add_sub_cancel, show (k + 1) * 128 - 1 = k * 128 + 127 by omega]
        ring
      rw [decodeLoop]
      split
      · have spare : 127 * multiplier ≤ (128 ^ (fuel + 1) - 1) * multiplier := by omega
        dsimp only
        omega
      · have later := ih (i + 1) (multiplier * 128) ((value + (byte &&& 0x7F).toNat * multiplier) % 2 ^ 32) data
        omega

theorem length_packetData (p : Bytes) : (packetData p).length < 2 ^ 28 := by
  have bound := decodeLoop_le 4 0 1 0 p.tail
  rw [packetData, List.length_take]
  unfold decodeRemainingLength
  omega

theorem readMqttString_sizes (p : Bytes) :
    (readMqttString p).1.length ≤ 65535 ∧ 2 + (readMqttString p).1.length + (readMqttString p).2.length ≤ max p.length 3 := by
  by_cases whole : StartsWithString p
  · obtain ⟨str, rest, short, rfl⟩ := whole
    rw [readMqttString_field short, List.length_append, length_stringField]
    exact ⟨short, by dsimp only; omega⟩
  · rw [readMqttString_damaged whole]
    refine ⟨Nat.zero_le _, ?_⟩
    dsimp only
    split
    · simp only [List.length_nil]
      omega
    · rw [List.length_drop, List.length_nil]
      omega

theorem parse_body {buf buf' : Buffer} {events : List MqttEvent} (parsed : parse buf = (.ok, events, buf')) :
    parseBody (packetType buf.readable) (packetFlags buf.readable) (packetData buf.readable) = (.ok, events) := by
  by_cases complete : Complete buf.readable
  · rw [parse_complete complete] at parsed
    simp only [Prod.mk.injEq] at parsed
    exact Prod.ext parsed.1 parsed.2.1
  · rw [parse_incomplete complete] at parsed
    cases parsed

/-- The type of the packet that fires a callback. -/
def eventType : MqttEvent → MqttPacketType
  | .connect _ => .connect
  | .publish .. => .publish
  | .subscribe .. => .subscribe
  | .pingReq => .pingreq
  | .disconnect => .disconnect
  | .pubAck _ => .puback

theorem parseBody_type {type : MqttPacketType} {flags : UInt8} {data : Bytes} {e : MqttEvent}
    (body : parseBody type flags data = (.ok, [e])) : type = eventType e := by
  cases type with
  | connect =>
    simp only [parseBody, parseConnect] at body
    split at body <;> cases body
    rfl
  | publish =>
    simp only [parseBody, parsePublish] at body
    split at body
    · cases body
      rfl
    · split at body <;> cases body
      rfl
  | subscribe =>
    simp only [parseBody, parseSubscribe] at body
    split at body
    · split at body <;> cases body
      rfl
    · cases body
  | puback =>
    simp only [parseBody, parsePubAck] at body
    split at body <;> cases body
    rfl
  | pingreq | disconnect =>
    cases body
    rfl
  | _ => cases body

/-- What was parsed from a PUBLISH has sizes that MQTT can carry. -/
theorem sizes_of_parsed {buf buf' : Buffer} {topic payload : Bytes} {qos : MqttQoS} {retain : Bool} {packetId : UInt16}
    (parsed : parse buf = (.ok, [.publish topic payload qos retain packetId], buf')) :
    topic.length ≤ 65535 ∧ publishRemaining topic payload qos < 2 ^ 28 := by
  have body := parse_body parsed
  rw [parseBody_type body] at body
  change parsePublish _ _ = _ at body
  have bound := length_packetData buf.readable
  obtain ⟨short, sizes⟩ := readMqttString_sizes (packetData buf.readable)
  unfold parsePublish at body
  generalize readMqttString (packetData buf.readable) = read at body short sizes
  obtain ⟨topicText, p⟩ := read
  dsimp only at body short sizes
  unfold publishRemaining
  split at body
  · rename_i plain
    cases body
    rw [if_pos plain]
    exact ⟨short, by omega⟩
  · rename_i numbered
    split at body
    · cases body
      rw [if_neg numbered]
      simp only [List.length_cons] at sizes
      exact ⟨short, by omega⟩
    · cases body

/-- What was parsed from a PUBLISH can be sent on without a packet id. -/
theorem sendable_of_parsed {buf buf' : Buffer} {topic payload : Bytes} {qos : MqttQoS} {retain : Bool} {packetId : UInt16}
    (parsed : parse buf = (.ok, [.publish topic payload qos retain packetId], buf')) :
    (Packet.publish topic payload .atMostOnce 0 false).Sendable := by
  obtain ⟨short, sizes⟩ := sizes_of_parsed parsed
  refine ⟨short, by decide, fun _ => rfl, ?_⟩
  unfold publishRemaining at sizes ⊢
  simp only [if_true]
  omega

theorem length_parseFilters {fuel : Nat} {p : Bytes} {seen filters : List MqttTopicFilter}
    (found : parseFilters fuel p seen = some filters) : filters.length ≤ seen.length + p.length := by
  induction fuel generalizing p seen with
  | zero =>
    cases p with
    | nil =>
      obtain rfl : seen = filters := by simpa [parseFilters] using found
      exact Nat.le_add_right _ _
    | cons b p => simp [parseFilters] at found
  | succ fuel ih =>
    cases p with
    | nil =>
      obtain rfl : seen = filters := by simpa [parseFilters] using found
      exact Nat.le_add_right _ _
    | cons b p =>
      have shorter := length_readMqttString (b :: p)
      rw [parseFilters] at found
      · cases read : readMqttString (b :: p) with
        | mk topic behind =>
          rw [read] at shorter found
          cases behind with
          | nil => cases found
          | cons qos rest =>
            have later := ih found
            simp only [List.length_append, List.length_cons, List.length_nil] at later shorter ⊢
            omega
      · exact fun empty => by cases empty

/-- A SUBACK with one code for each filter of a parsed SUBSCRIBE fits in a packet. -/
theorem length_of_parsed {buf buf' : Buffer} {packetId : UInt16} {filters : List MqttTopicFilter}
    (parsed : parse buf = (.ok, [.subscribe packetId filters], buf')) : 2 + filters.length < 2 ^ 28 := by
  have body := parse_body parsed
  rw [parseBody_type body] at body
  change parseSubscribe _ = _ at body
  have bound := length_packetData buf.readable
  generalize packetData buf.readable = data at body bound
  match data with
  | [] | [_] => cases body
  | high :: low :: p =>
    simp only [parseSubscribe] at body
    split at body
    · rename_i filters' found
      cases body
      have count := length_parseFilters found
      simp only [List.length_cons, List.length_nil] at bound count
      omega
    · cases body

end IotGateway.Protocol.MqttCodec
