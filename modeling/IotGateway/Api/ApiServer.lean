import IotGateway.Net.Buffer

/-!
# The HTTP API server

`ApiServer.cpp`: reading a request out of the input buffer, routing it, and the
handlers. The callbacks injected by `gateway_main` act on a state `σ` of the caller's
choosing. A handler answers with the actions it performs on the connection.
-/

namespace IotGateway.Api
open Text Net

inductive ConnAction where
  | send (data : Bytes)
  | shutdown
  deriving DecidableEq, Repr

/-- The injected callbacks; `none` is an empty `std::function`. -/
structure ApiServer (σ : Type) where
  deviceCountFn_ : Option (σ → Nat)
  commandSenderFn_ : Option (Bytes → Bytes → Bytes → σ → Int × σ)
  clusterStatsFn_ : Option (σ → Bytes)
  deviceDetailFn_ : Option (Bytes → σ → Bytes)
  commandStatusFn_ : Option (Int → σ → Bytes)

/-! ### Responses -/

def statusText (statusCode : Nat) : Bytes :=
  if statusCode = 200 then ascii "OK"
  else if statusCode = 400 then ascii "Bad Request"
  else if statusCode = 404 then ascii "Not Found"
  else ascii "Error"

def sendHttpResponse (statusCode : Nat) (contentType body : Bytes) : List ConnAction :=
  let header := snprintf 512
    (ascii "HTTP/1.1 " ++ decimal statusCode ++ ascii " " ++ statusText statusCode ++ ascii "\r\nContent-Type: " ++
      contentType ++ ascii "\r\nContent-Length: " ++ decimal body.length ++ ascii "\r\nConnection: close\r\n\r\n")
  [.send header, .send body, .shutdown]

def sendJsonResponse (statusCode : Nat) (json : Bytes) : List ConnAction :=
  sendHttpResponse statusCode (ascii "application/json") json

/-! ### Handlers -/

def extractJsonStr (body key : Bytes) : Bytes :=
  let search := ascii "\"" ++ key ++ ascii "\""
  match find body search 0 with
  | none => []
  | some pos =>
    match find body (ascii "\"") (pos + search.length) with
    | none => []
    | some pos =>
      match find body (ascii "\"") (pos + 1) with
      | none => []
      | some last => (body.drop (pos + 1)).take (last - pos - 1)

/-- The text `handlePostCommand` prints for an accepted command, before `snprintf` cuts it. -/
def enqueuedText (cmdId : Int) (deviceId : Bytes) : Bytes :=
  ascii "\x7b\"code\":0,\"command_id\":" ++ decimal cmdId ++ ascii ",\"device_id\":\"" ++ cstr deviceId ++
    ascii "\",\"status\":\"enqueued\",\"message\":\"ok\"\x7d"

section Handlers

variable {σ : Type} (api : ApiServer σ)

def handlePostCommand (body : Bytes) (s : σ) : List ConnAction × σ :=
  let deviceId := extractJsonStr body (ascii "device_id")
  let command := extractJsonStr body (ascii "command")
  let params := extractJsonStr body (ascii "params")
  let params := if params = [] then ascii "\x7b\x7d" else params
  if deviceId = [] ∨ command = [] then
    (sendJsonResponse 400 (ascii "\x7b\"code\":-1,\"message\":\"missing device_id or command\"\x7d"), s)
  else
    let (cmdId, s) :=
      match api.commandSenderFn_ with
      | some sender => sender deviceId command params s
      | none => (0, s)
    (sendJsonResponse 200 (snprintf 256 (enqueuedText cmdId deviceId)), s)

def deviceCount (s : σ) : Nat :=
  match api.deviceCountFn_ with
  | some count => count s
  | none => 0

def handleGetDevices (s : σ) : List ConnAction :=
  sendJsonResponse 200
    (snprintf 128 (ascii "\x7b\"code\":0,\"online_devices\":" ++ decimal (deviceCount api s) ++ ascii "\x7d"))

def handleGetDeviceDetail (deviceId : Bytes) (s : σ) : List ConnAction :=
  match api.deviceDetailFn_ with
  | some detail => sendJsonResponse 200 (detail deviceId s)
  | none =>
    sendJsonResponse 200 (snprintf 256
      (ascii "\x7b\"code\":0,\"device\":\x7b\"id\":\"" ++ cstr deviceId ++ ascii "\",\"status\":\"unknown\"\x7d\x7d"))

def handleGetCommandStatus (commandId : Int) (s : σ) : List ConnAction :=
  let head := ascii "\x7b\"code\":0,\"command_id\":" ++ decimal commandId ++ ascii ",\"status\":\""
  match api.commandStatusFn_ with
  | some status => sendJsonResponse 200 (snprintf 256 (head ++ cstr (status commandId s) ++ ascii "\"\x7d"))
  | none => sendJsonResponse 200 (snprintf 128 (head ++ ascii "unknown\"\x7d"))

def handleGetStats (s : σ) : List ConnAction :=
  sendJsonResponse 200 (snprintf 256
    (ascii "\x7b\"code\":0,\"stats\":\x7b\"online_devices\":" ++ decimal (deviceCount api s) ++
      ascii ",\"uptime_seconds\":0\x7d\x7d"))

def handleGetCluster (s : σ) : List ConnAction :=
  match api.clusterStatsFn_ with
  | some stats => sendJsonResponse 200 (ascii "\x7b\"code\":0,\"cluster\":" ++ stats s ++ ascii "\x7d")
  | none => sendJsonResponse 200 (ascii "\x7b\"code\":0,\"cluster\":\x7b\"mode\":\"standalone\"\x7d\x7d")

def handleGetNodes (s : σ) : List ConnAction :=
  match api.clusterStatsFn_ with
  | some stats => sendJsonResponse 200 (ascii "\x7b\"code\":0,\"nodes\":" ++ stats s ++ ascii "\x7d")
  | none =>
    sendJsonResponse 200 (ascii "\x7b\"code\":0,\"nodes\":[\x7b\"id\":\"standalone\",\"status\":\"online\"\x7d]\x7d")

def handleGetHealth : List ConnAction :=
  sendJsonResponse 200 (ascii "\x7b\"status\":\"ok\",\"service\":\"iot-gateway\",\"version\":\"2.0.0\"\x7d")

def handleNotFound : List ConnAction :=
  sendJsonResponse 404 (ascii "\x7b\"code\":-1,\"message\":\"not found\"\x7d")

end Handlers

/-! ### Requests -/

structure Request where
  method : Bytes
  path : Bytes
  body : Bytes
  deriving DecidableEq, Repr

def kGet : Bytes := ascii "GET"
def kDevicePrefix : Bytes := ascii "/api/v1/device/"
def kCommandPrefix : Bytes := ascii "/api/v1/commands/"

/-- The routing half of `handleHttpRequest`. -/
def route {σ : Type} (api : ApiServer σ) (request : Request) (s : σ) : Except StdException (List ConnAction × σ) :=
  let method := request.method
  let path := request.path
  if method = ascii "POST" ∧ path = ascii "/api/v1/commands" then .ok (handlePostCommand api request.body s)
  else if method = kGet ∧ path = ascii "/api/v1/devices" then .ok (handleGetDevices api s, s)
  else if method = kGet ∧ path = ascii "/api/v1/stats" then .ok (handleGetStats api s, s)
  else if method = kGet ∧ path = ascii "/api/v1/cluster" then .ok (handleGetCluster api s, s)
  else if method = kGet ∧ path = ascii "/api/v1/nodes" then .ok (handleGetNodes api s, s)
  else if method = kGet ∧ path = ascii "/api/v1/health" then .ok (handleGetHealth, s)
  else if method = kGet ∧ find path kDevicePrefix 0 = some 0 then do
    let deviceId ← substr path 15
    return (handleGetDeviceDetail api deviceId s, s)
  else if method = kGet ∧ find path kCommandPrefix 0 = some 0 then do
    let cmdIdStr ← substr path 18
    let commandId ← stoll cmdIdStr
    return (handleGetCommandStatus api commandId s, s)
  else .ok (handleNotFound, s)

/-- The header loop: `true` once an empty line has been consumed. Every round consumes a line. -/
def skipHeaders : Nat → Buffer → Bool × Buffer
  | 0, buf => (false, buf)
  | fuel + 1, buf =>
    match buf.findCRLF with
    | none => (false, buf)
    | some lineEnd =>
      let buf := buf.retrieveUntil (lineEnd + 2)
      if lineEnd = 0 then (true, buf) else skipHeaders fuel buf

/-- The reading half of `handleHttpRequest`: the request that is dispatched, if any. -/
def readRequest (buf : Buffer) : Option Request × Buffer :=
  match buf.findCRLF with
  | none => (none, buf)
  | some crlf =>
    let requestLine := buf.readable.take crlf
    let buf := buf.retrieveUntil (crlf + 2)
    let (method, iss) := extractWord requestLine
    let (path, _) := extractWord iss
    match skipHeaders (buf.readableBytes + 1) buf with
    | (false, buf) => (none, buf)
    | (true, buf) => (some { method, path, body := buf.readable }, buf.retrieveAll)

def handleHttpRequest {σ : Type} (api : ApiServer σ) (buf : Buffer) (s : σ) :
    Except StdException (List ConnAction × σ) × Buffer :=
  match readRequest buf with
  | (none, buf) => (.ok ([], s), buf)
  | (some request, buf) => (route api request s, buf)

end IotGateway.Api
