import IotGateway.Api.Exchange
import IotGateway.Api.Routing

/-!
# Responses as they are sent

`sendHttpResponse` prints a head into 512 bytes, with the length of the body, and sends
the body behind it. Every head that the servers print fits.
-/

namespace IotGateway.Api
open Text Net

/-- The message that `sendHttpResponse` means, with the header lines that a server adds to its three. -/
def responseWith (reason : Bytes) (more : List (Bytes × Bytes)) (statusCode : Nat) (contentType body : Bytes) : Http.Response where
  status := statusCode
  reason := reason
  headers := [(ascii "Content-Type", contentType), (ascii "Content-Length", decimalNat body.length),
    (ascii "Connection", ascii "close")] ++ more
  body := body

def response (statusCode : Nat) (contentType body : Bytes) : Http.Response :=
  responseWith (statusText statusCode) [] statusCode contentType body

section Head

variable {statusCode : Nat} {reason contentType body : Bytes} {more : List (Bytes × Bytes)}

/-- The lines of a head one after the other. -/
theorem head_responseWith : (responseWith reason more statusCode contentType body).head =
    ascii "HTTP/1.1 " ++ decimalNat statusCode ++ ascii " " ++ reason ++ ascii "\r\nContent-Type: " ++ contentType ++
      ascii "\r\nContent-Length: " ++ decimalNat body.length ++ ascii "\r\nConnection: close\r\n" ++
      Http.block (more.map Http.headerLine) := by
  have type : ascii "\r\nContent-Type: " = Http.crlf ++ (ascii "Content-Type" ++ [58, 32]) := rfl
  have length : ascii "\r\nContent-Length: " = Http.crlf ++ (ascii "Content-Length" ++ [58, 32]) := rfl
  have close : ascii "\r\nConnection: close\r\n" = Http.crlf ++ (ascii "Connection" ++ ([58, 32] ++ (ascii "close" ++ Http.crlf))) := rfl
  have space : ascii " " = [32] := rfl
  rw [type, length, close, space]
  simp only [Http.Response.head, responseWith, Http.block, Http.statusLine, Http.headerLine, List.map_cons, List.flatMap_cons,
    List.append_assoc, List.cons_append, List.nil_append]

theorem length_head (reason contentType : Bytes) (more : List (Bytes × Bytes)) (code : statusCode < 1000)
    (size : body.length < 2 ^ 64) :
    (responseWith reason more statusCode contentType body).head.length ≤
      91 + reason.length + contentType.length + (Http.block (more.map Http.headerLine)).length := by
  have digits : (decimalNat statusCode).length ≤ 3 := length_decimalNat_le (k := 2) (by omega)
  have count : (decimalNat body.length).length ≤ 20 := length_decimalNat_le (k := 19) (by omega)
  rw [head_responseWith]
  simp only [List.length_append, show (ascii "HTTP/1.1 ").length = 9 from rfl, show (ascii " ").length = 1 from rfl,
    show (ascii "\r\nContent-Type: ").length = 16 from rfl, show (ascii "\r\nContent-Length: ").length = 18 from rfl,
    show (ascii "\r\nConnection: close\r\n").length = 21 from rfl]
  omega

theorem responseWith_sound (named : 13 ∉ reason) (type : 13 ∉ contentType ∧ contentType.head? ≠ some 32)
    (others : ∀ h ∈ more, (h.1 ≠ [] ∧ 13 ∉ h.1 ∧ 58 ∉ h.1) ∧ 13 ∉ h.2 ∧ h.2.head? ≠ some 32) :
    (responseWith reason more statusCode contentType body).Sound where
  reason := named
  name := by
    intro h member
    rcases List.mem_append.mp member with own | added
    · have names : ∀ name ∈ [ascii "Content-Type", ascii "Content-Length", ascii "Connection"],
          name ≠ [] ∧ 13 ∉ name ∧ 58 ∉ name := by decide
      simp only [List.mem_cons, List.not_mem_nil, or_false] at own
      apply names
      rcases own with rfl | rfl | rfl
      all_goals simp
    · exact (others h added).1
  value := by
    intro h member
    rcases List.mem_append.mp member with own | added
    · simp only [List.mem_cons, List.not_mem_nil, or_false] at own
      rcases own with rfl | rfl | rfl
      · exact type
      · refine ⟨not_mem_decimalNat (by decide) _, ?_⟩
        intro blank
        have member := List.mem_of_mem_head? (Option.mem_def.mpr blank)
        exact absurd (decimalNat_digits _ 32 member) (by decide)
      · decide
    · exact (others h added).2
  length := by
    refine ⟨(ascii "Content-Length", decimalNat body.length), ?_, rfl⟩
    have other : Http.isContentLength (ascii "Content-Type", contentType) = false :=
      show decide ((ascii "Content-Type").map Http.lower = _) = false from rfl
    have found : Http.isContentLength (ascii "Content-Length", decimalNat body.length) = true :=
      show decide ((ascii "Content-Length").map Http.lower = _) = true from rfl
    simp only [responseWith, List.cons_append, List.find?_cons, other, found]

end Head

/-! ### The API server -/

section Sent

variable {statusCode : Nat} {contentType body : Bytes}

theorem statusText_plain (statusCode : Nat) : 13 ∉ statusText statusCode ∧ (statusText statusCode).length ≤ 11 := by
  unfold statusText
  split
  · decide
  split
  · decide
  split
  · decide
  · decide

theorem sendHttpResponse_eq (code : statusCode < 1000) (type : contentType.length ≤ 100) (size : body.length < 2 ^ 64) :
    sendHttpResponse statusCode contentType body =
      [.send (response statusCode contentType body).head, .send (response statusCode contentType body).body, .shutdown] := by
  have end_ : ascii "\r\nConnection: close\r\n\r\n" = ascii "\r\nConnection: close\r\n" ++ Http.block [] := rfl
  have head : (response statusCode contentType body).head =
      ascii "HTTP/1.1 " ++ decimal statusCode ++ ascii " " ++ statusText statusCode ++ ascii "\r\nContent-Type: " ++
        contentType ++ ascii "\r\nContent-Length: " ++ decimal body.length ++ ascii "\r\nConnection: close\r\n\r\n" := by
    rw [response, head_responseWith, end_]
    simp only [List.append_assoc]
    rfl
  have long := length_head (statusText statusCode) contentType [] code size
  have short := (statusText_plain statusCode).2
  have empty : (Http.block ([].map Http.headerLine)).length = 2 := rfl
  rw [empty] at long
  have fits : (response statusCode contentType body).head.length < 512 := by
    rw [response]
    omega
  unfold sendHttpResponse
  dsimp only
  rw [← head, snprintf_of_fits fits]
  rfl

theorem response_sound (type : 13 ∉ contentType ∧ contentType.head? ≠ some 32) :
    (response statusCode contentType body).Sound :=
  responseWith_sound (statusText_plain statusCode).1 type nofun

end Sent

/-! ### What the handlers send -/

/-- The texts of the injected callbacks, which are strings, leave room for what is printed around them. -/
structure Sized {σ : Type} (api : ApiServer σ) : Prop where
  deviceDetailFn_ : ∀ detail ∈ api.deviceDetailFn_, ∀ deviceId s, (detail deviceId s).length < 2 ^ 64
  clusterStatsFn_ : ∀ stats ∈ api.clusterStatsFn_, ∀ s, (stats s).length + 32 < 2 ^ 64

def kJson : Bytes := ascii "application/json"

/-- The responses of the API server. -/
def IsApiResponse (r : Http.Response) : Prop :=
  ∃ statusCode json, r = response statusCode kJson json ∧ statusCode ∈ [200, 400, 404] ∧ json.length < 2 ^ 64

theorem IsApiResponse.sound {r : Http.Response} (answered : IsApiResponse r) : r.Sound := by
  obtain ⟨statusCode, json, rfl, _, _⟩ := answered
  exact response_sound (by decide)

theorem sendJsonResponse_answers {statusCode : Nat} {json : Bytes} (code : statusCode ∈ [200, 400, 404])
    (size : json.length < 2 ^ 64) :
    ∃ r, IsApiResponse r ∧ sendJsonResponse statusCode json = [.send r.head, .send r.body, .shutdown] := by
  have small : statusCode < 1000 := by
    simp only [List.mem_cons, List.not_mem_nil, or_false] at code
    omega
  exact ⟨_, ⟨statusCode, json, rfl, code, size⟩, sendHttpResponse_eq small (by decide) size⟩

theorem snprintf_size {size : Nat} (small : size ≤ 2 ^ 64) (room : 0 < size) (text : Bytes) :
    (snprintf size text).length < 2 ^ 64 := by
  have cut : (snprintf size text).length ≤ size - 1 := List.length_take_le _ _
  omega

section Handlers

variable {σ : Type} {api : ApiServer σ}

/-- Whatever handler a request reaches, it sends one response and shuts the connection down. -/
theorem perform_answers (sized : Sized api) (s : σ) (call : Call) :
    ∃ r, IsApiResponse r ∧ (call.perform api s).1 = [.send r.head, .send r.body, .shutdown] := by
  cases call with
  | handlePostCommand body =>
    unfold Call.perform handlePostCommand
    dsimp only
    split
    · exact sendJsonResponse_answers (by decide) (by decide)
    · exact sendJsonResponse_answers (by decide) (snprintf_size (by decide) (by decide) _)
  | handleGetDevices | handleGetStats =>
    exact sendJsonResponse_answers (by decide) (snprintf_size (by decide) (by decide) _)
  | handleGetCluster =>
    simp only [Call.perform, handleGetCluster]
    cases stats : api.clusterStatsFn_ with
    | none => exact sendJsonResponse_answers (by decide) (by decide)
    | some f =>
      have size := sized.clusterStatsFn_ f stats s
      refine sendJsonResponse_answers (by decide) ?_
      simp only [List.length_append, show (ascii "\x7b\"code\":0,\"cluster\":").length = 20 from rfl,
        show (ascii "\x7d").length = 1 from rfl]
      omega
  | handleGetNodes =>
    simp only [Call.perform, handleGetNodes]
    cases stats : api.clusterStatsFn_ with
    | none => exact sendJsonResponse_answers (by decide) (by decide)
    | some f =>
      have size := sized.clusterStatsFn_ f stats s
      refine sendJsonResponse_answers (by decide) ?_
      simp only [List.length_append, show (ascii "\x7b\"code\":0,\"nodes\":").length = 18 from rfl,
        show (ascii "\x7d").length = 1 from rfl]
      omega
  | handleGetHealth | handleNotFound => exact sendJsonResponse_answers (by decide) (by decide)
  | handleGetDeviceDetail deviceId =>
    simp only [Call.perform, handleGetDeviceDetail]
    cases detail : api.deviceDetailFn_ with
    | none => exact sendJsonResponse_answers (by decide) (snprintf_size (by decide) (by decide) _)
    | some f => exact sendJsonResponse_answers (by decide) (sized.deviceDetailFn_ f detail deviceId s)
  | handleGetCommandStatus commandId =>
    simp only [Call.perform, handleGetCommandStatus]
    cases api.commandStatusFn_ with
    | none => exact sendJsonResponse_answers (by decide) (snprintf_size (by decide) (by decide) _)
    | some f => exact sendJsonResponse_answers (by decide) (snprintf_size (by decide) (by decide) _)

theorem handleHttpRequest_answers (sized : Sized api) : Answers (handleHttpRequest api) IsApiResponse := by
  intro buf s
  rw [handleHttpRequest_called]
  cases called buf with
  | error e => trivial
  | ok call =>
    cases call with
    | none => exact Or.inl rfl
    | some call => exact Or.inr (perform_answers sized s call)

end Handlers

/-! ### A connection of the API server -/

/-- Whatever a client sends, in whatever pieces, and whatever the socket takes at a time: it reads nothing, or the beginning
of one response, given to one of the reads, and once the write side is shut it has read that response and nothing else. -/
theorem answered_once {σ : Type} {api : ApiServer σ} (sized : Sized api) (s : σ) {events : List (HttpEvent σ)}
    (healthy : ∀ e ∈ events, e.faults = false) :
    let c := (run (HttpConnection.step (handleHttpRequest api)) (HttpConnection.new s) events).conn
    (written c.trace = [] ∧ fins c = 0) ∨
      ∃ r, (IsApiResponse r ∧ GivenIn (handleHttpRequest api) s events r) ∧ written c.trace <+: r.render ∧ fins c ≤ 1 ∧
        (fins c = 1 → ∀ pieces : List Bytes, pieces.flatten = written c.trace →
          Http.responses.feedAll pieces = ([.event r], [])) :=
  one_response (handleHttpRequest_answers sized) (fun _ answered => answered.sound) s healthy

/-- No callback is injected. -/
def bareApi : ApiServer Unit := ⟨none, none, none, none, none⟩

/-- A request in two pieces, a second one behind it, and a socket that takes the answer bit by bit. -/
def twoRequests : List (HttpEvent Unit) :=
  [.connectEstablished, .handleRead (.data (ascii "GET /api/v1/hea")) [],
    .handleRead (.data (ascii "lth HTTP/1.1\r\nHost: gateway\r\n\r\n")) [.wrote 17, .again],
    .handleRead (.data (ascii "GET /api/v1/devices HTTP/1.1\r\n\r\n")) [], .handleWrite (.wrote 100), .handleWrite (.wrote 100)]

def healthJson : Bytes := ascii "\x7b\"status\":\"ok\",\"service\":\"iot-gateway\",\"version\":\"2.0.0\"\x7d"

theorem answered_once_health :
    let c := (run (HttpConnection.step (handleHttpRequest bareApi)) (HttpConnection.new ()) twoRequests).conn
    fins c = 1 ∧ written c.trace = (response 200 kJson healthJson).render ∧
      ∃ r, IsApiResponse r ∧ written c.trace <+: r.render ∧
        Http.responses.feedAll [written c.trace] = ([.event r], []) := by
  intro c
  have fin : fins c = 1 := by decide +kernel
  have sized : Sized bareApi := ⟨nofun, nofun⟩
  have healthy : ∀ e ∈ twoRequests, e.faults = false := by decide
  refine ⟨fin, by decide +kernel, ?_⟩
  rcases answered_once sized () healthy with none | ⟨r, answered, taken, _, whole⟩
  · exact absurd (none.2.symm.trans fin) Nat.zero_ne_one
  · exact ⟨r, answered.1, taken, whole fin _ List.flatten_singleton⟩

end IotGateway.Api
