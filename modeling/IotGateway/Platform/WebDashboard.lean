import IotGateway.Api.GatewayApi

/-!
# The dashboard

`WebDashboard.cpp`: a second HTTP server, with a page and three queries. It asks the store
itself, through the client that it was given. `getAllDevices` does not look whether that
client has a connection.
-/

namespace IotGateway.Storage
open Text Redis

/-- A command was sent through a context that is not there. -/
inductive NullContext where
  | nullContext
  deriving DecidableEq

/-- `HGETALL iot:devices`, the ids with their records. -/
def RedisClient.getAllDevices (c : RedisClient) (w : World) : Except NullContext (List (Bytes × Bytes)) :=
  match c.conn_ with
  | none => .error .nullContext
  | some .broken => .ok []
  | some .up => .ok ((w.redis.devices.live w.now).fields.entries.map fun e => (e.1, e.2))

end IotGateway.Storage

namespace IotGateway.Platform
open Text Net Storage Api Json

/-- The text of the page is a constant of the source, of some 9000 bytes. -/
structure WebDashboard where
  redis_ : Option RedisClient
  buildDashboardHtml : { html : Bytes // html.length < 2 ^ 64 }

namespace WebDashboard

/-! ### Responses -/

def statusText (statusCode : Nat) : Bytes :=
  if statusCode = 200 then ascii "OK" else if statusCode = 404 then ascii "Not Found" else ascii "Error"

def sendHttpResponse (statusCode : Nat) (contentType body : Bytes) : List ConnAction :=
  let header := snprintf 512
    (ascii "HTTP/1.1 " ++ decimal statusCode ++ ascii " " ++ statusText statusCode ++ ascii "\r\nContent-Type: " ++
      contentType ++ ascii "\r\nContent-Length: " ++ decimal body.length ++
      ascii "\r\nConnection: close\r\nAccess-Control-Allow-Origin: *\r\n\r\n")
  [.send header, .send body, .shutdown]

def kHtml : Bytes := ascii "text/html; charset=utf-8"

def sendHtml (statusCode : Nat) (html : Bytes) : List ConnAction := sendHttpResponse statusCode kHtml html

/-! ### Pages -/

section Pages

variable (d : WebDashboard) (w : World)

def serveIndex : List ConnAction := sendHtml 200 d.buildDashboardHtml.val

def deviceCount : Nat :=
  match d.redis_ with
  | none => 0
  | some redis => sizeT (redis.deviceCount w)

def deviceObject (device : Bytes × Bytes) : Bytes :=
  ascii "\x7b\"id\":\"" ++ device.1 ++ ascii "\",\"gateway\":\"" ++ device.2 ++ ascii "\",\"status\":\"online\"\x7d"

/-- A comma before every device but the first. -/
def deviceList : List (Bytes × Bytes) → Bytes
  | [] => []
  | first :: devices => deviceObject first ++ devices.flatMap fun device => ascii "," ++ deviceObject device

/-- What `serveApiDevices` puts into its stream. -/
def devicesText (count : Nat) (devices : List (Bytes × Bytes)) : Bytes :=
  ascii "\x7b\"code\":0,\"count\":" ++ decimal count ++ ascii ",\"devices\":[" ++ deviceList devices ++ ascii "]\x7d"

def allDevices : Except NullContext (List (Bytes × Bytes)) :=
  match d.redis_ with
  | none => .ok []
  | some redis => redis.getAllDevices w

def serveApiDevices : Except NullContext (List ConnAction) := do
  let devices ← d.allDevices w
  return sendHttpResponse 200 kJson (devicesText (d.deviceCount w) devices)

/-- The count comes back as an `int64_t`. -/
def pendingCount : Int :=
  match d.redis_ with
  | none => 0
  | some redis => redis.pendingCount w

def serveApiCluster : List ConnAction :=
  sendHttpResponse 200 kJson (snprintf 512
    (ascii "\x7b\"code\":0,\"cluster\":\x7b\"devices\":" ++ decimal (d.deviceCount w) ++ ascii ",\"pending_commands\":" ++
      decimal (d.pendingCount w) ++ ascii ",\"mode\":\"distributed\"\x7d\x7d"))

def serveApiAlerts : List ConnAction := sendHttpResponse 200 kJson (ascii "\x7b\"code\":0,\"alerts\":[]\x7d")

def serveNotFound : List ConnAction := sendHtml 404 (ascii "<h1>404 Not Found</h1>")

/-- The routing half of `handleHttpRequest`. It looks at the path only. -/
def route (path : Bytes) : Except NullContext (List ConnAction) :=
  if path = ascii "/" ∨ path = ascii "/dashboard" ∨ path = ascii "/index.html" then .ok d.serveIndex
  else if path = ascii "/api/dashboard/devices" then d.serveApiDevices w
  else if path = ascii "/api/dashboard/cluster" then .ok (d.serveApiCluster w)
  else if path = ascii "/api/dashboard/alerts" then .ok serveApiAlerts
  else .ok serveNotFound

end Pages

/-- What is listed of the registry takes less room than there is. -/
def RegistryFits (w : World) : Prop :=
  ((w.redis.devices.live w.now).fields.entries.map fun e => e.1.length + e.2.length + 64).sum < 2 ^ 63

/-- The store that the dashboard asks. -/
abbrev Store := { w : World // RegistryFits w }

/-- The reading half is, statement for statement, that of the API server, which keeps the body. -/
def handleHttpRequest (d : WebDashboard) (buf : Buffer) (w : Store) : Except NullContext (List ConnAction × Store) × Buffer :=
  match readRequest buf with
  | (none, buf) => (.ok ([], w), buf)
  | (some request, buf) => ((d.route w.val request.path).map fun actions => (actions, w), buf)

/-! ### One answer on a connection -/

/-- The status, the type and the body that are served under a path. -/
def served (d : WebDashboard) (w : World) (path : Bytes) : Except NullContext (Nat × Bytes × Bytes) :=
  if path = ascii "/" ∨ path = ascii "/dashboard" ∨ path = ascii "/index.html" then
    .ok (200, kHtml, d.buildDashboardHtml.val)
  else if path = ascii "/api/dashboard/devices" then
    (d.allDevices w).map fun devices => (200, kJson, devicesText (d.deviceCount w) devices)
  else if path = ascii "/api/dashboard/cluster" then
    .ok (200, kJson, snprintf 512 (ascii "\x7b\"code\":0,\"cluster\":\x7b\"devices\":" ++ decimal (d.deviceCount w) ++
      ascii ",\"pending_commands\":" ++ decimal (d.pendingCount w) ++ ascii ",\"mode\":\"distributed\"\x7d\x7d"))
  else if path = ascii "/api/dashboard/alerts" then .ok (200, kJson, ascii "\x7b\"code\":0,\"alerts\":[]\x7d")
  else .ok (404, kHtml, ascii "<h1>404 Not Found</h1>")

theorem route_eq_served (d : WebDashboard) (w : World) (path : Bytes) :
    d.route w path = (d.served w path).map fun page => sendHttpResponse page.1 page.2.1 page.2.2 := by
  unfold route served
  refine ite_map rfl (ite_map ?_ (ite_map rfl (ite_map rfl rfl)))
  unfold serveApiDevices
  cases d.allDevices w <;> rfl

/-- The responses of the dashboard. -/
def response (page : Nat × Bytes × Bytes) : Http.Response :=
  responseWith (statusText page.1) [(ascii "Access-Control-Allow-Origin", ascii "*")] page.1 page.2.1 page.2.2

section Sent

variable {page : Nat × Bytes × Bytes}

theorem sendHttpResponse_eq (code : page.1 ∈ [200, 404]) (type : page.2.1 ∈ [kHtml, kJson]) (size : page.2.2.length < 2 ^ 64) :
    sendHttpResponse page.1 page.2.1 page.2.2 = [.send (response page).head, .send (response page).body, .shutdown] := by
  obtain ⟨statusCode, contentType, body⟩ := page
  have end_ : ascii "\r\nConnection: close\r\nAccess-Control-Allow-Origin: *\r\n\r\n" =
      ascii "\r\nConnection: close\r\n" ++ Http.block ([(ascii "Access-Control-Allow-Origin", ascii "*")].map Http.headerLine) :=
    rfl
  have head : (response (statusCode, contentType, body)).head =
      ascii "HTTP/1.1 " ++ decimal statusCode ++ ascii " " ++ statusText statusCode ++ ascii "\r\nContent-Type: " ++
        contentType ++ ascii "\r\nContent-Length: " ++ decimal body.length ++
        ascii "\r\nConnection: close\r\nAccess-Control-Allow-Origin: *\r\n\r\n" := by
    rw [response, head_responseWith, end_]
    simp only [List.append_assoc]
    rfl
  have small : statusCode < 1000 ∧ (statusText statusCode).length ≤ 9 := by
    simp only [List.mem_cons, List.not_mem_nil, or_false] at code
    rcases code with rfl | rfl
    · decide
    · decide
  have short : contentType.length ≤ 24 := by
    simp only [List.mem_cons, List.not_mem_nil, or_false] at type
    rcases type with rfl | rfl
    · decide
    · decide
  have long := length_head (statusText statusCode) contentType [(ascii "Access-Control-Allow-Origin", ascii "*")] small.1 size
  have added : (Http.block ([(ascii "Access-Control-Allow-Origin", ascii "*")].map Http.headerLine)).length = 34 := by decide
  rw [added] at long
  have fits : (response (statusCode, contentType, body)).head.length < 512 := by
    unfold response
    dsimp only at long ⊢
    omega
  unfold sendHttpResponse
  dsimp only
  rw [← head, snprintf_of_fits fits]
  rfl

theorem response_sound (code : page.1 ∈ [200, 404]) (type : page.2.1 ∈ [kHtml, kJson]) : (response page).Sound := by
  have reason : 13 ∉ statusText page.1 := by
    simp only [List.mem_cons, List.not_mem_nil, or_false] at code
    rcases code with same | same
    · rw [same]
      decide
    · rw [same]
      decide
  have plain : ∀ contentType ∈ [kHtml, kJson], 13 ∉ contentType ∧ contentType.head? ≠ some 32 := by decide
  refine responseWith_sound reason (plain _ type) ?_
  intro h member
  rw [List.mem_singleton.mp member]
  decide

end Sent

/-! ### What is served -/

section Served

variable (d : WebDashboard) (w : World)

theorem length_deviceObject (device : Bytes × Bytes) : (deviceObject device).length = device.1.length + device.2.length + 40 := by
  simp only [deviceObject, List.length_append, show (ascii "\x7b\"id\":\"").length = 7 from rfl,
    show (ascii "\",\"gateway\":\"").length = 13 from rfl,
    show (ascii "\",\"status\":\"online\"\x7d").length = 20 from rfl]
  omega

theorem length_deviceList (devices : List (Bytes × Bytes)) :
    (deviceList devices).length ≤ (devices.map fun e => e.1.length + e.2.length + 64).sum := by
  have more : ∀ devices : List (Bytes × Bytes), (devices.flatMap fun device => ascii "," ++ deviceObject device).length ≤
      (devices.map fun e => e.1.length + e.2.length + 64).sum := by
    intro devices
    induction devices with
    | nil => exact Nat.le_refl _
    | cons device devices ih =>
      rw [List.flatMap_cons, List.length_append, List.length_append, length_deviceObject, List.map_cons, List.sum_cons]
      have comma : (ascii ",").length = 1 := rfl
      omega
  cases devices with
  | nil => exact Nat.le_refl _
  | cons device devices =>
    have rest := more devices
    rw [deviceList, List.length_append, length_deviceObject, List.map_cons, List.sum_cons]
    omega

theorem length_devicesText {count : Nat} (small : count < 2 ^ 64) {devices : List (Bytes × Bytes)}
    (fits : (devices.map fun e => e.1.length + e.2.length + 64).sum < 2 ^ 63) :
    (devicesText count devices).length < 2 ^ 64 := by
  have listed := length_deviceList devices
  have digits : (decimal count).length ≤ 20 := length_decimalNat_le (k := 19) (by omega)
  simp only [devicesText, List.length_append, show (ascii "\x7b\"code\":0,\"count\":").length = 18 from rfl,
    show (ascii ",\"devices\":[").length = 12 from rfl, show (ascii "]\x7d").length = 2 from rfl]
  omega

theorem deviceCount_lt : d.deviceCount w < 2 ^ 64 := by
  unfold deviceCount
  split
  · decide
  · exact Nat.mod_lt _ (by decide)

/-- The devices that are listed are those of the registry, or none. -/
theorem allDevices_ok {devices : List (Bytes × Bytes)} (listed : d.allDevices w = .ok devices) :
    devices = [] ∨ devices = (w.redis.devices.live w.now).fields.entries.map fun e => (e.1, e.2) := by
  unfold allDevices at listed
  split at listed
  · cases listed
    exact Or.inl rfl
  · unfold RedisClient.getAllDevices at listed
    split at listed
    · cases listed
    · cases listed
      exact Or.inl rfl
    · cases listed
      exact Or.inr rfl

theorem served_plain (fits : RegistryFits w) {path : Bytes} {page : Nat × Bytes × Bytes} (serves : d.served w path = .ok page) :
    page.1 ∈ [200, 404] ∧ page.2.1 ∈ [kHtml, kJson] ∧ page.2.2.length < 2 ^ 64 := by
  have good : 200 ∈ [200, 404] := List.mem_cons_self
  have html : kHtml ∈ [kHtml, kJson] := List.mem_cons_self
  have json : kJson ∈ [kHtml, kJson] := List.mem_cons_of_mem _ List.mem_cons_self
  unfold served at serves
  split at serves
  · cases serves
    exact ⟨good, html, d.buildDashboardHtml.property⟩
  split at serves
  · cases listed : d.allDevices w with
    | error e =>
      rw [listed] at serves
      cases serves
    | ok devices =>
      rw [listed] at serves
      cases serves
      refine ⟨good, json, length_devicesText (d.deviceCount_lt w) ?_⟩
      rcases d.allDevices_ok w listed with rfl | rfl
      · decide
      · unfold RegistryFits at fits
        rw [List.map_map]
        exact fits
  split at serves
  · cases serves
    exact ⟨good, json, snprintf_size (by decide) (by decide) _⟩
  split at serves
  · cases serves
    exact ⟨by decide, by decide, by decide⟩
  · cases serves
    exact ⟨by decide, by decide, by decide⟩

/-- What the handler does with a buffer, for the request that was found in it. -/
theorem handled (buf : Buffer) (w : Store) :
    (d.handleHttpRequest buf w).1 = .ok ([], w) ∨ (∃ e, (d.handleHttpRequest buf w).1 = .error e) ∨
      ∃ request page, (readRequest buf).1 = some request ∧ d.served w.val request.path = .ok page ∧
        (d.handleHttpRequest buf w).1 = .ok ([.send (response page).head, .send (response page).body, .shutdown], w) := by
  unfold handleHttpRequest
  generalize readRequest buf = outcome
  obtain ⟨request, rest⟩ := outcome
  cases request with
  | none => exact Or.inl rfl
  | some request =>
    dsimp only
    rw [route_eq_served]
    cases serves : d.served w.val request.path with
    | error e => exact Or.inr (Or.inl ⟨e, rfl⟩)
    | ok page =>
      obtain ⟨code, type, size⟩ := d.served_plain w.val w.property serves
      refine Or.inr (Or.inr ⟨request, page, rfl, serves, ?_⟩)
      rw [← sendHttpResponse_eq code type size]
      rfl

end Served

/-- The responses to what is served. -/
def IsPage (r : Http.Response) : Prop := ∃ page, r = response page ∧ page.1 ∈ [200, 404] ∧ page.2.1 ∈ [kHtml, kJson]

theorem handleHttpRequest_answers (d : WebDashboard) : Answers d.handleHttpRequest IsPage := by
  intro buf w
  rcases d.handled buf w with none | ⟨e, died⟩ | ⟨request, page, _, serves, sent⟩
  · rw [none]
    exact Or.inl rfl
  · rw [died]
    trivial
  · rw [sent]
    obtain ⟨code, type, _⟩ := d.served_plain w.val w.property serves
    exact Or.inr ⟨_, ⟨page, rfl, code, type⟩, rfl⟩

/-- Once the dashboard has shut a connection, the client has read one response, and it is what is served under the path of a
request that was found in the buffer at one of the reads, with the store as it was then. The method is not looked at. -/
theorem dashboard_answers (d : WebDashboard) (w : Store) {events : List (HttpEvent Store)}
    (healthy : ∀ e ∈ events, e.faults = false)
    (shut : fins (run (HttpConnection.step d.handleHttpRequest) (.new w) events).conn = 1) :
    ∃ before received writes after, events = before ++ .handleRead (.data received) writes :: after ∧
      let x := run (HttpConnection.step d.handleHttpRequest) (.new w) before
      ∃ request page, (readRequest (x.inputBuffer_.append received)).1 = some request ∧
        d.served x.state.val request.path = .ok page ∧
        ∀ pieces : List Bytes,
          pieces.flatten = written (run (HttpConnection.step d.handleHttpRequest) (.new w) events).conn.trace →
          Http.responses.feedAll pieces = ([.event (response page)], []) := by
  have sound : ∀ r, IsPage r → r.Sound := by
    intro r answered
    obtain ⟨page, rfl, code, type⟩ := answered
    exact response_sound code type
  rcases one_response d.handleHttpRequest_answers sound w healthy with none | ⟨r, ⟨answered, given⟩, _, _, read⟩
  · exact absurd (none.2.symm.trans shut) Nat.zero_ne_one
  obtain ⟨before, e, after, split, received, writes, state, rfl, asked⟩ := given
  refine ⟨before, received, writes, after, split, ?_⟩
  dsimp only
  generalize run (HttpConnection.step d.handleHttpRequest) (.new w) before = x at asked ⊢
  rcases d.handled (x.inputBuffer_.append received) x.state with none | ⟨e, died⟩ | ⟨request, page, found, serves, sent⟩
  · rw [none] at asked
    cases asked
  · rw [died] at asked
    cases asked
  · obtain ⟨code, type, _⟩ := d.served_plain x.state.val x.state.property serves
    rw [sent] at asked
    have same : r = response page := by
      simp only [Except.ok.injEq, Prod.mk.injEq, List.cons.injEq, ConnAction.send.injEq, and_true] at asked
      refine render_injective (sound r answered) (response_sound code type) ?_
      rw [Http.Response.render, Http.Response.render, asked.1.1, asked.1.2]
    exact ⟨request, page, found, serves, fun pieces whole => same ▸ read shut pieces whole⟩

/-- A dashboard without a store. -/
def bareDashboard : WebDashboard := ⟨none, ⟨ascii "<html></html>", by decide⟩⟩

/-- The page is asked for with a method that is none. -/
def askPage : List (HttpEvent Store) :=
  [.connectEstablished, .handleRead (.data (ascii "FETCH /dashboard HTTP/1.1\r\n\r\n")) [.wrote 40], .handleWrite (.wrote 500)]

def emptyStore : Store := ⟨⟨0, .new, []⟩, show ([] : List Nat).sum < 2 ^ 63 by decide⟩

theorem dashboard_answers_page :
    let c := (run (HttpConnection.step bareDashboard.handleHttpRequest) (.new emptyStore) askPage).conn
    fins c = 1 ∧ ∃ (w : Store) (path : Bytes) (page : Nat × Bytes × Bytes), bareDashboard.served w.val path = .ok page ∧
      Http.responses.feedAll [written c.trace] = ([.event (response page)], []) := by
  have fin : fins (run (HttpConnection.step bareDashboard.handleHttpRequest) (.new emptyStore) askPage).conn = 1 := by
    decide +kernel
  have healthy : ∀ e ∈ askPage, e.faults = false := by
    simp only [askPage, List.forall_mem_cons, List.not_mem_nil, false_implies, implies_true, and_true]
    exact ⟨rfl, rfl, rfl⟩
  obtain ⟨before, received, writes, after, _, request, page, _, serves, read⟩ :=
    bareDashboard.dashboard_answers emptyStore healthy fin
  exact ⟨fin, _, request.path, page, serves, read _ List.flatten_singleton⟩

end WebDashboard
end IotGateway.Platform
