import IotGateway.Api.Requests

/-!
# Which handler a request reaches

The routing half of `handleHttpRequest` as a choice of a handler with its argument. The
id of a status path is cut off one character too far, at 18 where the path before it has
17, so a status query never reaches the command that it names.
-/

namespace IotGateway.Api
open Text Net Buffer

inductive Call where
  | handlePostCommand (body : Bytes)
  | handleGetDevices
  | handleGetStats
  | handleGetCluster
  | handleGetNodes
  | handleGetHealth
  | handleGetDeviceDetail (deviceId : Bytes)
  | handleGetCommandStatus (commandId : Int)
  | handleNotFound
  deriving DecidableEq, Repr

def Call.perform {σ : Type} (api : ApiServer σ) (s : σ) : Call → List ConnAction × σ
  | handlePostCommand body => Api.handlePostCommand api body s
  | handleGetDevices => (Api.handleGetDevices api s, s)
  | handleGetStats => (Api.handleGetStats api s, s)
  | handleGetCluster => (Api.handleGetCluster api s, s)
  | handleGetNodes => (Api.handleGetNodes api s, s)
  | handleGetHealth => (Api.handleGetHealth, s)
  | handleGetDeviceDetail deviceId => (Api.handleGetDeviceDetail api deviceId s, s)
  | handleGetCommandStatus commandId => (Api.handleGetCommandStatus api commandId s, s)
  | handleNotFound => (Api.handleNotFound, s)

/-- The choice that `route` makes. -/
def dispatch (request : Request) : Except StdException Call :=
  let method := request.method
  let path := request.path
  if method = ascii "POST" ∧ path = ascii "/api/v1/commands" then .ok (.handlePostCommand request.body)
  else if method = kGet ∧ path = ascii "/api/v1/devices" then .ok .handleGetDevices
  else if method = kGet ∧ path = ascii "/api/v1/stats" then .ok .handleGetStats
  else if method = kGet ∧ path = ascii "/api/v1/cluster" then .ok .handleGetCluster
  else if method = kGet ∧ path = ascii "/api/v1/nodes" then .ok .handleGetNodes
  else if method = kGet ∧ path = ascii "/api/v1/health" then .ok .handleGetHealth
  else if method = kGet ∧ find path kDevicePrefix 0 = some 0 then .handleGetDeviceDetail <$> substr path 15
  else if method = kGet ∧ find path kCommandPrefix 0 = some 0 then do
    let cmdIdStr ← substr path 18
    .handleGetCommandStatus <$> stoll cmdIdStr
  else .ok .handleNotFound

theorem ite_map {α β ε : Type} {c : Prop} [Decidable c] {f : α → β} {a b : Except ε α} {a' b' : Except ε β}
    (yes : a' = a.map f) (no : b' = b.map f) : (if c then a' else b') = (if c then a else b).map f := by
  split
  · exact yes
  · exact no

theorem route_eq_dispatch {σ : Type} (api : ApiServer σ) (request : Request) (s : σ) :
    route api request s = (dispatch request).map fun call => call.perform api s := by
  unfold route dispatch
  dsimp only
  refine ite_map rfl (ite_map rfl (ite_map rfl (ite_map rfl (ite_map rfl (ite_map rfl (ite_map ?_ (ite_map ?_ rfl)))))))
  · cases substr request.path 15 <;> rfl
  · cases substr request.path 18 with
    | error e => rfl
    | ok cmdIdStr =>
      simp only [bind, Except.bind]
      cases stoll cmdIdStr <;> rfl

/-- The handler that a delivery reaches, if the buffer then holds a complete request. -/
def called (buf : Buffer) : Except StdException (Option Call) :=
  match (readRequest buf).1 with
  | none => .ok none
  | some request => some <$> dispatch request

theorem handleHttpRequest_called {σ : Type} (api : ApiServer σ) (buf : Buffer) (s : σ) :
    (handleHttpRequest api buf s).1 = (called buf).map fun call => (call.map (Call.perform api s)).getD ([], s) := by
  unfold handleHttpRequest called
  generalize readRequest buf = outcome
  obtain ⟨request, rest⟩ := outcome
  cases request with
  | none => rfl
  | some request =>
    dsimp only
    rw [route_eq_dispatch]
    cases dispatch request <;> rfl

/-! ### Two kinds of queries -/

inductive Query where
  | status (commandId : Nat)
  | device (deviceId : Bytes)
  deriving DecidableEq, Repr

namespace Query

def path : Query → Bytes
  | status commandId => kCommandPrefix ++ decimalNat commandId
  | device deviceId => kDevicePrefix ++ deviceId

def asked : Query → Call
  | status commandId => .handleGetCommandStatus commandId
  | device deviceId => .handleGetDeviceDetail deviceId

/-- A command id is an `int64_t`, and a device id in a path has no whitespace. -/
def Valid : Query → Prop
  | status commandId => commandId < 2 ^ 63
  | device deviceId => ∀ b ∈ deviceId, isSpace b = false

def line (q : Query) : Bytes := kGet ++ 32 :: (q.path ++ 32 :: ascii "HTTP/1.1")

/-- The request line, header lines, the blank line, and whatever follows. -/
def text (q : Query) (headers : List Bytes) (rest : Bytes) : Bytes :=
  q.line ++ (kCRLF ++ (headers.flatMap (· ++ kCRLF) ++ (kCRLF ++ rest)))

end Query

section Reading

variable {q : Query}

theorem path_solid (valid : q.Valid) : ∀ b ∈ q.path, isSpace b = false := by
  cases q with
  | status commandId =>
    intro b member
    rcases List.mem_append.mp member with fixed | digit
    · exact (show ∀ b ∈ kCommandPrefix, isSpace b = false by decide) b fixed
    · exact (digit_plain (decimalNat_digits commandId b digit)).1
  | device deviceId =>
    intro b member
    rcases List.mem_append.mp member with fixed | own
    · exact (show ∀ b ∈ kDevicePrefix, isSpace b = false by decide) b fixed
    · exact valid b own

theorem path_nonempty : q.path ≠ [] := by
  cases q with
  | status commandId => exact List.append_ne_nil_of_left_ne_nil (by decide) _
  | device deviceId => exact List.append_ne_nil_of_left_ne_nil (by decide) _

theorem line_no_return (valid : q.Valid) : 13 ∉ q.line := by
  have path : 13 ∉ q.path := fun member => absurd (path_solid valid 13 member) (by decide)
  simp only [Query.line, List.mem_append, List.mem_cons, not_or]
  exact ⟨by decide, by decide, path, by decide, by decide⟩

theorem requestLine_text (valid : q.Valid) (headers : List Bytes) (rest : Bytes) :
    requestLine (q.text headers rest) = q.line := by
  have found : indexOf kCRLF (q.text headers rest) = some q.line.length :=
    indexOf_append q.line (List.prefix_append _ _) fun i below => not_prefix_where_absent (line_no_return valid) below
  simp only [requestLine, found]
  exact List.take_left

theorem requestMethod_line : requestMethod q.line = kGet := by
  unfold requestMethod Query.line
  rw [extractWord_word (by decide) (by decide) (by decide)]

theorem requestPath_line (valid : q.Valid) : requestPath q.line = q.path := by
  unfold requestPath Query.line
  rw [extractWord_word (show kGet ≠ [] by decide) (by decide) (by decide), extractWord_skip (by decide),
    extractWord_word path_nonempty (path_solid valid) (by decide)]

theorem blankLine_text (headers : List Bytes) (rest : Bytes) : kBlankLine <:+: q.text headers rest := by
  -- the last CRLF before the blank line ends the last header line, or the request line
  obtain ⟨before, ended⟩ : ∃ before, kCRLF ++ headers.flatMap (· ++ kCRLF) = before ++ kCRLF := by
    rcases List.eq_nil_or_concat headers with rfl | ⟨first, last, rfl⟩
    · exact ⟨[], by simp⟩
    · exact ⟨kCRLF ++ (first.flatMap (· ++ kCRLF) ++ last), by simp⟩
  refine ⟨q.line ++ before, rest, ?_⟩
  rw [Query.text, kBlankLine, ← List.append_assoc kCRLF, ended]
  simp

/-- A query that is delivered whole is dispatched by its path. -/
theorem called_text (valid : q.Valid) (headers : List Bytes) (rest : Bytes) {buf : Buffer}
    (delivered : buf.readable = q.text headers rest) : ∃ body, called buf = some <$> dispatch ⟨kGet, q.path, body⟩ := by
  obtain ⟨body, taken⟩ := takeRequest_complete (@blankLine_text q headers rest)
  refine ⟨body, ?_⟩
  unfold called
  rw [(readRequest_readable buf).1, delivered, taken, requestLine_text valid, requestMethod_line, requestPath_line valid]

end Reading

/-! ### What is dispatched -/

/-- The paths that are compared as a whole. -/
def fixedPaths : List Bytes :=
  [ascii "/api/v1/devices", ascii "/api/v1/stats", ascii "/api/v1/cluster", ascii "/api/v1/nodes", ascii "/api/v1/health"]

theorem not_fixed {start path : Bytes} (here : start <+: path) (absent : ∀ fixed ∈ fixedPaths, ¬ start <+: fixed) :
    ∀ fixed ∈ fixedPaths, path ≠ fixed := by
  rintro fixed listed rfl
  exact absent path listed here

/-- A `GET` of another path is dispatched by its prefix. -/
theorem dispatch_get {path : Bytes} (other : ∀ fixed ∈ fixedPaths, path ≠ fixed) (body : Bytes) :
    dispatch ⟨kGet, path, body⟩ =
      if kDevicePrefix <+: path then .handleGetDeviceDetail <$> substr path 15
      else if kCommandPrefix <+: path then
        (substr path 18).bind fun cmdIdStr => .handleGetCommandStatus <$> stoll cmdIdStr
      else .ok .handleNotFound := by
  have notPost : ¬ (kGet = ascii "POST" ∧ path = ascii "/api/v1/commands") := fun post => absurd post.1 (by decide)
  simp only [fixedPaths, List.forall_mem_cons] at other
  obtain ⟨devices, stats, cluster, nodes, health, _⟩ := other
  unfold dispatch
  dsimp only
  rw [if_neg notPost, if_neg fun both => devices both.2, if_neg fun both => stats both.2, if_neg fun both => cluster both.2,
    if_neg fun both => nodes both.2, if_neg fun both => health both.2]
  simp only [true_and, find_zero_iff]
  rfl

theorem dispatch_device (deviceId body : Bytes) :
    dispatch ⟨kGet, kDevicePrefix ++ deviceId, body⟩ = .ok (.handleGetDeviceDetail deviceId) := by
  have here : kDevicePrefix <+: kDevicePrefix ++ deviceId := List.prefix_append _ _
  have within : 15 ≤ (kDevicePrefix ++ deviceId).length := here.length_le
  have rest : (kDevicePrefix ++ deviceId).drop 15 = deviceId := @List.drop_left _ kDevicePrefix deviceId
  rw [dispatch_get (not_fixed here (by decide)), if_pos here, substr, if_pos within, rest]
  rfl

theorem dispatch_status {path : Bytes} (status : kCommandPrefix <+: path) (body : Bytes) :
    dispatch ⟨kGet, path, body⟩ =
      (substr path 18).bind fun cmdIdStr => .handleGetCommandStatus <$> stoll cmdIdStr := by
  have notDevice : ¬ kDevicePrefix <+: path := by
    intro device
    exact absurd (List.prefix_of_prefix_length_le device status (by decide)) (by decide)
  rw [dispatch_get (not_fixed status (by decide)), if_neg notDevice, if_pos status]

/-- Without its first digit a printed number does not read as itself. -/
theorem stoll_without_first (n : Nat) : stoll ((decimalNat n).drop 1) ≠ .ok n := by
  intro read
  by_cases zero : n = 0
  · subst zero
    exact absurd read (by decide)
  · obtain ⟨d, ds, split, nonzero⟩ := decimalNat_head zero
    have digits : ∀ b ∈ d :: ds, isDigit b = true := split ▸ decimalNat_digits n
    have value : (d.toNat - 48) * 10 ^ ds.length + digitsValue ds = n := by
      rw [← digitsValue_cons, ← split, digitsValue_decimalNat]
    rw [split, List.drop_one, List.tail_cons] at read
    by_cases empty : ds = []
    · rw [empty, show stoll [] = .error .invalidArgument from rfl] at read
      cases read
    · have same : digitsValue ds = n := by
        simp only [stoll, stoInt,
          strtoll_digits empty fun b member => digits b (List.mem_cons_of_mem _ member)] at read
        split at read
        · exact Int.ofNat.inj (Except.ok.inj read)
        · cases read
      have leading : (d.toNat - 48) * 10 ^ ds.length = 0 := by omega
      have small : d.toNat - 48 = 0 := (Nat.mul_eq_zero.mp leading).resolve_right (by positivity)
      have digit := digits d List.mem_cons_self
      simp only [isDigit, Bool.and_eq_true, decide_eq_true_eq, UInt8.le_iff_toNat_le, UInt8.reduceToNat] at digit
      exact nonzero (UInt8.toNat_inj.mp (show d.toNat = 48 by omega))

theorem dispatch_status_other (commandId : Nat) (body : Bytes) :
    dispatch ⟨kGet, kCommandPrefix ++ decimalNat commandId, body⟩ ≠ .ok (.handleGetCommandStatus commandId) := by
  rw [dispatch_status (List.prefix_append _ _)]
  have rest : (kCommandPrefix ++ decimalNat commandId).drop 18 = (decimalNat commandId).drop 1 := by
    rw [show 18 = kCommandPrefix.length + 1 from rfl, List.drop_length_add_append]
  intro asked
  unfold substr at asked
  split at asked
  · rw [rest] at asked
    simp only [Except.bind] at asked
    cases read : stoll ((decimalNat commandId).drop 1) with
    | error e =>
      rw [read] at asked
      cases asked
    | ok n =>
      rw [read] at asked
      cases asked
      exact stoll_without_first commandId read
  · cases asked

/-- Of the two kinds of queries it is the device queries that reach what they ask for. -/
theorem called_asked_iff {q : Query} (valid : q.Valid) (headers : List Bytes) (rest : Bytes) {buf : Buffer}
    (delivered : buf.readable = q.text headers rest) :
    called buf = .ok (some q.asked) ↔ ∃ deviceId, q = .device deviceId := by
  obtain ⟨body, dispatched⟩ := called_text valid headers rest delivered
  rw [dispatched]
  cases q with
  | device deviceId =>
    refine iff_of_true ?_ ⟨deviceId, rfl⟩
    rw [Query.path, dispatch_device]
    rfl
  | status commandId =>
    refine iff_of_false ?_ (by simp)
    intro asked
    have other := dispatch_status_other commandId body
    rw [Query.path] at asked
    cases chosen : dispatch ⟨kGet, kCommandPrefix ++ decimalNat commandId, body⟩ with
    | error e =>
      rw [chosen] at asked
      cases asked
    | ok call =>
      rw [chosen] at asked other
      cases asked
      exact other rfl

/-! ### Two deliveries -/

def deliveredQuery (q : Query) : Buffer := (Buffer.new kInitialSize).append (q.text [ascii "Host: localhost"] [])

theorem readable_deliveredQuery (q : Query) : (deliveredQuery q).readable = q.text [ascii "Host: localhost"] [] := by
  simp [deliveredQuery]

theorem sensor_query_called :
    called (deliveredQuery (.device (ascii "sensor"))) = .ok (some (.handleGetDeviceDetail (ascii "sensor"))) := by
  have valid : (Query.device (ascii "sensor")).Valid := show ∀ b ∈ ascii "sensor", isSpace b = false by decide
  exact (called_asked_iff valid _ _ (readable_deliveredQuery _)).mpr ⟨_, rfl⟩

/-- The status of command 1700000000000000 is asked for, and that of 700000000000000 is answered. -/
theorem status_query_called_otherwise :
    (Query.status 1700000000000000).Valid ∧
      (deliveredQuery (.status 1700000000000000)).readable =
        (Query.status 1700000000000000).text [ascii "Host: localhost"] [] ∧
      called (deliveredQuery (.status 1700000000000000)) = .ok (some (.handleGetCommandStatus 700000000000000)) ∧
      called (deliveredQuery (.status 1700000000000000)) ≠ .ok (some (Query.status 1700000000000000).asked) := by
  have other : called (deliveredQuery (.status 1700000000000000)) =
      .ok (some (.handleGetCommandStatus 700000000000000)) := by decide +kernel
  refine ⟨show 1700000000000000 < 2 ^ 63 by decide, readable_deliveredQuery _, other, ?_⟩
  rw [other]
  decide

end IotGateway.Api
