import IotGateway.Api.ApiServer

/-!
# What the API server reads and answers

The reading half of `handleHttpRequest` is brought down to a function of the bytes.
Over it: a complete header block is always answered unless the command id of a status
path cannot be read, and the effect of cutting a request into several deliveries.
-/

namespace IotGateway.Api
open Text Net Buffer

/-! ### Reading, on bytes -/

theorem length_drop_line {bytes : Bytes} {i : Nat} (found : indexOf kCRLF bytes = some i) :
    (bytes.drop (i + 2)).length < bytes.length := by
  have within : kCRLF.length ≤ (bytes.drop i).length := (prefix_of_indexOf found).length_le
  simp only [kCRLF, List.length_cons, List.length_nil, List.length_drop] at within ⊢
  omega

/-- The header loop on bytes: `true` once an empty line has been consumed. -/
def dropHeaders (bytes : Bytes) : Bool × Bytes :=
  match found : indexOf kCRLF bytes with
  | none => (false, bytes)
  | some lineEnd => if lineEnd = 0 then (true, bytes.drop 2) else dropHeaders (bytes.drop (lineEnd + 2))
termination_by bytes.length
decreasing_by exact length_drop_line found

theorem dropHeaders_none {bytes : Bytes} (nowhere : indexOf kCRLF bytes = none) :
    dropHeaders bytes = (false, bytes) := by
  rw [dropHeaders]
  split
  · rfl
  · rename_i found
    rw [nowhere] at found
    cases found

theorem dropHeaders_some {bytes : Bytes} {lineEnd : Nat} (found : indexOf kCRLF bytes = some lineEnd) :
    dropHeaders bytes = if lineEnd = 0 then (true, bytes.drop 2) else dropHeaders (bytes.drop (lineEnd + 2)) := by
  rw [dropHeaders]
  split
  · rename_i nowhere
    rw [nowhere] at found
    cases found
  · rename_i other
    obtain rfl : _ = lineEnd := Option.some.inj (other.symm.trans found)
    rfl

theorem skipHeaders_readable (fuel : Nat) (buf : Buffer) (enough : buf.readable.length < fuel) :
    (skipHeaders fuel buf).1 = (dropHeaders buf.readable).1 ∧
      (skipHeaders fuel buf).2.readable = (dropHeaders buf.readable).2 := by
  induction fuel generalizing buf with
  | zero => omega
  | succ fuel ih =>
    unfold skipHeaders findCRLF
    cases found : indexOf kCRLF buf.readable with
    | none => simp [dropHeaders_none found]
    | some lineEnd =>
      rw [dropHeaders_some found]
      by_cases empty : lineEnd = 0
      · simp [empty]
      · have shorter := length_drop_line found
        have rest := ih (buf.retrieveUntil (lineEnd + 2)) (by rw [readable_retrieveUntil]; omega)
        simpa [empty] using rest

def requestLine (bytes : Bytes) : Bytes :=
  match indexOf kCRLF bytes with
  | none => bytes
  | some crlf => bytes.take crlf

def requestMethod (line : Bytes) : Bytes := (extractWord line).1

def requestPath (line : Bytes) : Bytes := (extractWord (extractWord line).2).1

def finishRequest (line : Bytes) : Bool × Bytes → Option Request × Bytes
  | (false, rest) => (none, rest)
  | (true, body) => (some ⟨requestMethod line, requestPath line, body⟩, [])

/-- `readRequest` on bytes: the request, and the bytes left unread. -/
def takeRequest (bytes : Bytes) : Option Request × Bytes :=
  match indexOf kCRLF bytes with
  | none => (none, bytes)
  | some crlf => finishRequest (requestLine bytes) (dropHeaders (bytes.drop (crlf + 2)))

theorem takeRequest_none {bytes : Bytes} (nowhere : indexOf kCRLF bytes = none) : takeRequest bytes = (none, bytes) := by
  simp [takeRequest, nowhere]

theorem takeRequest_some {bytes : Bytes} {crlf : Nat} (found : indexOf kCRLF bytes = some crlf) :
    takeRequest bytes = finishRequest (requestLine bytes) (dropHeaders (bytes.drop (crlf + 2))) := by
  simp [takeRequest, found]

theorem readRequest_readable (buf : Buffer) :
    (readRequest buf).1 = (takeRequest buf.readable).1 ∧
      (readRequest buf).2.readable = (takeRequest buf.readable).2 := by
  unfold readRequest takeRequest findCRLF
  cases found : indexOf kCRLF buf.readable with
  | none => simp
  | some crlf =>
    have loop := skipHeaders_readable ((buf.retrieveUntil (crlf + 2)).readableBytes + 1)
      (buf.retrieveUntil (crlf + 2)) (by rw [length_readable]; omega)
    rw [readable_retrieveUntil] at loop
    dsimp only
    revert loop
    generalize skipHeaders _ (buf.retrieveUntil (crlf + 2)) = skipped
    generalize dropHeaders (buf.readable.drop (crlf + 2)) = dropped
    obtain ⟨done, rest⟩ := skipped
    obtain ⟨done', rest'⟩ := dropped
    rintro ⟨rfl, rfl⟩
    cases done <;> simp [finishRequest, requestMethod, requestPath, requestLine, found]

/-! ### Complete header blocks -/

def kBlankLine : Bytes := kCRLF ++ kCRLF

theorem drop_of_prefix_crlf {bytes : Bytes} (here : kCRLF <+: bytes) : bytes = kCRLF ++ bytes.drop 2 := by
  obtain ⟨rest, rfl⟩ := here
  simp [kCRLF]

theorem blankLine_after_line {bytes : Bytes} {i : Nat} (found : indexOf kCRLF bytes = some i) :
    kBlankLine <:+: bytes ↔ kCRLF <+: bytes.drop (i + 2) ∨ kBlankLine <:+: bytes.drop (i + 2) := by
  have line : bytes.drop i = kCRLF ++ bytes.drop (i + 2) := by
    have split := drop_of_prefix_crlf (prefix_of_indexOf found)
    rwa [List.drop_drop] at split
  constructor
  · intro blank
    obtain ⟨j, here⟩ := infix_iff_prefix_drop.mp blank
    have crlf : kCRLF <+: bytes.drop j := (List.prefix_append _ _).trans here
    have later : i ≤ j := not_lt.mp fun before => not_prefix_before_indexOf found before crlf
    obtain ⟨d, rfl⟩ := Nat.exists_eq_add_of_le later
    rw [← List.drop_drop, line] at here crlf
    match d with
    | 0 =>
      left
      exact (List.prefix_append_right_inj kCRLF).mp here
    | 1 =>
      -- the second byte of the CRLF cannot start another one
      simp [kCRLF] at crlf
    | d + 2 =>
      right
      refine infix_iff_prefix_drop.mpr ⟨d, ?_⟩
      simpa [kCRLF] using here
  · rintro (next | further)
    · refine infix_iff_prefix_drop.mpr ⟨i, ?_⟩
      rw [line]
      exact (List.prefix_append_right_inj kCRLF).mpr next
    · exact further.trans (List.drop_suffix _ _).isInfix

theorem no_blankLine {bytes : Bytes} (nowhere : indexOf kCRLF bytes = none) : ¬ kBlankLine <:+: bytes := by
  intro blank
  obtain ⟨j, here⟩ := infix_iff_prefix_drop.mp blank
  exact not_prefix_of_indexOf_none nowhere j ((List.prefix_append _ _).trans here)

theorem dropHeaders_complete_iff (bytes : Bytes) :
    (dropHeaders bytes).1 = true ↔ kCRLF <+: bytes ∨ kBlankLine <:+: bytes := by
  generalize size : bytes.length = n
  induction n using Nat.strongRecOn generalizing bytes with
  | ind n ih =>
    cases found : indexOf kCRLF bytes with
    | none =>
      rw [dropHeaders_none found]
      have start := not_prefix_of_indexOf_none found 0
      simp [no_blankLine found, show ¬ kCRLF <+: bytes from start]
    | some lineEnd =>
      rw [dropHeaders_some found]
      by_cases empty : lineEnd = 0
      · subst empty
        have start : kCRLF <+: bytes := prefix_of_indexOf found
        simp [start]
      · have start : ¬ kCRLF <+: bytes := not_prefix_before_indexOf found (Nat.pos_of_ne_zero empty)
        have shorter := length_drop_line found
        rw [if_neg empty, ih _ (by omega) _ rfl, blankLine_after_line found]
        simp [start]

theorem takeRequest_incomplete {bytes : Bytes} (incomplete : ¬ kBlankLine <:+: bytes) : (takeRequest bytes).1 = none := by
  cases found : indexOf kCRLF bytes with
  | none => rw [takeRequest_none found]
  | some crlf =>
    rw [blankLine_after_line found, ← dropHeaders_complete_iff, Bool.not_eq_true] at incomplete
    obtain ⟨rest, dropped⟩ : ∃ rest, dropHeaders (bytes.drop (crlf + 2)) = (false, rest) :=
      ⟨_, Prod.ext incomplete rfl⟩
    rw [takeRequest_some found, dropped]
    rfl

theorem takeRequest_complete {bytes : Bytes} (complete : kBlankLine <:+: bytes) :
    ∃ body, (takeRequest bytes).1 = some ⟨requestMethod (requestLine bytes), requestPath (requestLine bytes), body⟩ := by
  cases found : indexOf kCRLF bytes with
  | none => exact absurd complete (no_blankLine found)
  | some crlf =>
    rw [blankLine_after_line found, ← dropHeaders_complete_iff] at complete
    obtain ⟨body, dropped⟩ : ∃ body, dropHeaders (bytes.drop (crlf + 2)) = (true, body) := ⟨_, Prod.ext complete rfl⟩
    rw [takeRequest_some found, dropped]
    exact ⟨body, rfl⟩

/-! ### Every complete request is answered -/

/-- An optional sign and a run of digits, not empty, whose value `long long` holds; more text may follow. -/
def StartsWithInt64 (text : Bytes) : Prop :=
  let (negative, rest) := splitSign text
  let digits := rest.takeWhile isDigit
  digits ≠ [] ∧ if negative then digitsValue digits ≤ 2 ^ 63 else digitsValue digits < 2 ^ 63

theorem stoll_ok_iff_range (text : Bytes) :
    (∃ n, stoll text = .ok n) ↔ ∃ n, strtoll text = some n ∧ -(2 ^ 63) ≤ n ∧ n < 2 ^ 63 := by
  unfold stoll stoInt
  cases strtoll text with
  | none => simp
  | some value =>
    dsimp only
    split
    · rename_i inside
      exact ⟨fun _ => ⟨value, rfl, inside⟩, fun _ => ⟨value, rfl⟩⟩
    · rename_i outside
      constructor
      · rintro ⟨n, ⟨⟩⟩
      · rintro ⟨n, same, inside⟩
        cases same
        exact absurd inside outside

theorem stoll_ok_iff {text : Bytes} (tight : ∀ b ∈ text, isSpace b = false) :
    (∃ n, stoll text = .ok n) ↔ StartsWithInt64 text := by
  have whole : text.dropWhile isSpace = text := by
    cases text with
    | nil => rfl
    | cons b text => simp [tight b List.mem_cons_self]
  rw [stoll_ok_iff_range]
  unfold strtoll StartsWithInt64
  rw [whole]
  obtain ⟨negative, rest⟩ := splitSign text
  dsimp only
  by_cases empty : rest.takeWhile isDigit = []
  · simp [empty]
  · rw [if_neg empty]
    cases negative
    · simp only [Option.some.injEq, exists_eq_left', ne_eq, empty, not_false_iff, true_and, Bool.false_eq_true,
        if_false]
      omega
    · simp only [Option.some.injEq, exists_eq_left', ne_eq, empty, not_false_iff, true_and, if_true]
      omega

theorem extractWord_no_space (s : Bytes) : ∀ b ∈ (extractWord s).1, isSpace b = false := by
  intro b member
  simpa using List.mem_takeWhile_imp member

theorem find_zero_iff (s pat : Bytes) : find s pat 0 = some 0 ↔ pat <+: s := by
  unfold find
  constructor
  · intro found
    have start : indexOf pat s = some 0 := by simpa using found
    simpa using prefix_of_indexOf start
  · intro here
    simp [indexOf_start here]

theorem kCommandPrefix_ne {path : Bytes} (status : kCommandPrefix <+: path) (other : Bytes)
    (different : ¬ kCommandPrefix <+: other) : path ≠ other := by
  rintro rfl
  exact different status

theorem route_status {σ : Type} (api : ApiServer σ) (request : Request) (s : σ) (get : request.method = kGet)
    (status : kCommandPrefix <+: request.path) :
    route api request s = do
      let cmdIdStr ← substr request.path 18
      let commandId ← stoll cmdIdStr
      return (handleGetCommandStatus api commandId s, s) := by
  have notPost : kGet ≠ ascii "POST" := by decide
  have notDevice : ¬ kDevicePrefix <+: request.path := by
    intro device
    exact absurd (List.prefix_of_prefix_length_le device status (by decide)) (by decide)
  unfold route
  simp only [get, notPost, false_and, if_false, true_and, find_zero_iff, notDevice, status, if_true,
    kCommandPrefix_ne status (ascii "/api/v1/devices") (by decide),
    kCommandPrefix_ne status (ascii "/api/v1/stats") (by decide),
    kCommandPrefix_ne status (ascii "/api/v1/cluster") (by decide),
    kCommandPrefix_ne status (ascii "/api/v1/nodes") (by decide),
    kCommandPrefix_ne status (ascii "/api/v1/health") (by decide)]

def AnsweredOnce {σ : Type} (result : Except StdException (List ConnAction × σ)) : Prop :=
  ∃ statusCode json s', result = .ok (sendJsonResponse statusCode json, s')

theorem handlePostCommand_once {σ : Type} (api : ApiServer σ) (body : Bytes) (s : σ) :
    AnsweredOnce (.ok (handlePostCommand api body s)) := by
  unfold handlePostCommand
  dsimp only
  split
  · exact ⟨_, _, _, rfl⟩
  · exact ⟨_, _, _, rfl⟩

theorem handleGetCommandStatus_once {σ : Type} (api : ApiServer σ) (commandId : Int) (s : σ) :
    AnsweredOnce (.ok (handleGetCommandStatus api commandId s, s)) := by
  unfold handleGetCommandStatus
  dsimp only
  split <;> exact ⟨_, _, _, rfl⟩

theorem route_other {σ : Type} (api : ApiServer σ) (request : Request) (s : σ)
    (other : ¬ (request.method = kGet ∧ kCommandPrefix <+: request.path)) : AnsweredOnce (route api request s) := by
  unfold route
  simp only [find_zero_iff, other, if_false]
  split_ifs with post devices stats cluster nodes health device
  · exact handlePostCommand_once api request.body s
  · exact ⟨_, _, _, rfl⟩
  · exact ⟨_, _, _, rfl⟩
  · unfold handleGetCluster
    split <;> exact ⟨_, _, _, rfl⟩
  · unfold handleGetNodes
    split <;> exact ⟨_, _, _, rfl⟩
  · exact ⟨_, _, _, rfl⟩
  · have within : 15 ≤ request.path.length := device.2.length_le
    simp only [substr, within, if_true]
    unfold handleGetDeviceDetail
    split <;> exact ⟨_, _, _, rfl⟩
  · exact ⟨_, _, _, rfl⟩

/-- The paths whose command id `handleHttpRequest` can read, counted from the offset it uses. -/
def CommandIdReadable (path : Bytes) : Prop := 18 ≤ path.length ∧ StartsWithInt64 (path.drop 18)

theorem route_status_iff {σ : Type} (api : ApiServer σ) (request : Request) (s : σ) (get : request.method = kGet)
    (status : kCommandPrefix <+: request.path) (word : ∀ b ∈ request.path, isSpace b = false) :
    AnsweredOnce (route api request s) ↔ CommandIdReadable request.path := by
  have tight : ∀ b ∈ request.path.drop 18, isSpace b = false := fun b member => word b (List.mem_of_mem_drop member)
  rw [route_status api request s get status]
  unfold CommandIdReadable
  rw [← stoll_ok_iff tight]
  by_cases long : 18 ≤ request.path.length
  · simp only [substr, long, if_true, true_and, bind, Except.bind]
    cases parsed : stoll (request.path.drop 18) with
    | ok commandId => exact ⟨fun _ => ⟨commandId, rfl⟩, fun _ => handleGetCommandStatus_once api commandId s⟩
    | error e =>
      constructor
      · rintro ⟨_, _, _, ⟨⟩⟩
      · rintro ⟨_, ⟨⟩⟩
  · simp only [substr, long, if_false, false_and, iff_false]
    rintro ⟨_, _, _, ⟨⟩⟩

/-- Requests are answered once and nothing is thrown, exactly when no complete request asks for the status of a
command whose id cannot be read from the nineteenth character of the path on. -/
theorem handleHttpRequest_answers_iff {σ : Type} (api : ApiServer σ) (buf : Buffer) (s : σ) :
    ((¬ kBlankLine <:+: buf.readable → (handleHttpRequest api buf s).1 = .ok ([], s)) ∧
      (kBlankLine <:+: buf.readable → AnsweredOnce (handleHttpRequest api buf s).1)) ↔
    (kBlankLine <:+: buf.readable → requestMethod (requestLine buf.readable) = kGet →
      kCommandPrefix <+: requestPath (requestLine buf.readable) →
      CommandIdReadable (requestPath (requestLine buf.readable))) := by
  have reading := (readRequest_readable buf).1
  have result : (handleHttpRequest api buf s).1 =
      match (takeRequest buf.readable).1 with
      | none => .ok ([], s)
      | some request => route api request s := by
    unfold handleHttpRequest
    rw [← reading]
    generalize readRequest buf = outcome
    obtain ⟨request, rest⟩ := outcome
    cases request <;> rfl
  rw [result]
  by_cases complete : kBlankLine <:+: buf.readable
  · obtain ⟨body, taken⟩ := takeRequest_complete complete
    simp only [complete, not_true, false_imp_iff, true_imp_iff, true_and, taken]
    by_cases status : requestMethod (requestLine buf.readable) = kGet ∧
        kCommandPrefix <+: requestPath (requestLine buf.readable)
    · rw [route_status_iff api _ s status.1 status.2 (extractWord_no_space _)]
      simp [status]
    · refine ⟨fun _ get isPrefix => absurd ⟨get, isPrefix⟩ status, fun _ => route_other api _ s status⟩
  · simp [complete, takeRequest_incomplete complete]

/-- A status request without a command id throws `std::out_of_range`. -/
theorem handleHttpRequest_status_throws :
    let api : ApiServer Unit := ⟨none, none, none, none, none⟩
    let buf := (Buffer.new kInitialSize).append (ascii "GET /api/v1/commands/ HTTP/1.1\r\n\r\n")
    kBlankLine <:+: buf.readable ∧ (handleHttpRequest api buf ()).1 = .error .outOfRange := by
  intro api buf
  have bytes : buf.readable = ascii "GET /api/v1/commands/ HTTP/1.1\r\n\r\n" := by simp [buf]
  exact ⟨bytes ▸ by decide, by decide +kernel⟩

end IotGateway.Api
