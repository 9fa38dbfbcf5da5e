import IotGateway.Api.ApiServer
import IotGateway.Gateway.GatewayServer

/-!
# Commands that the API accepts

`handlePostCommand` with the callback of `gateway_main`, down to the `XADD`. The answer
says "enqueued" whatever became of the `XADD`, since `enqueueCommand` does not look at
the stream id that `publishCommand` returns.
-/

namespace IotGateway.Api
open Text Storage Gateway
open RedisClient (XaddFate fieldValue xaddFields)

/-- `POST /api/v1/commands`, with `enqueueCommand` injected by `setCommandSenderFn`. -/
def postCommand (api : ApiServer (GatewayServer × World)) (fate : XaddFate) (cmdId ts : Int) (body : Bytes)
    (s : GatewayServer × World) : List ConnAction × GatewayServer × World :=
  let sender deviceId command params s := GatewayServer.enqueueCommand fate cmdId ts s.1 s.2 deviceId command params
  handlePostCommand { api with commandSenderFn_ := some sender } body s

/-! ### What is asked and what is answered -/

def requestedDevice (body : Bytes) : Bytes := extractJsonStr body (ascii "device_id")

def requestedCommand (body : Bytes) : Bytes := extractJsonStr body (ascii "command")

def enqueuedHead (i : Int) (deviceId : Bytes) : Bytes :=
  ascii "\x7b\"code\":0,\"command_id\":" ++ (decimal i ++ (ascii ",\"device_id\":\"" ++ (deviceId ++
    ascii "\",\"status\":\"enqueued\"")))

/-- The response has code 0, status enqueued and this command id. -/
def AnswersEnqueued (actions : List ConnAction) (i : Int) : Prop :=
  ∃ deviceId json, actions = sendJsonResponse 200 json ∧ enqueuedHead i deviceId <+: json

/-- The command stream has got an entry with this id for this device. -/
def Appended (before after : World) (i : Int) (deviceId : Bytes) : Prop :=
  ∃ e, after.redis.commands.entries = before.redis.commands.entries ++ [e] ∧
    fieldValue e.fields (ascii "id") = some (decimal i) ∧ fieldValue e.fields (ascii "device_id") = some deviceId

theorem sendJsonResponse_body {code code' : Nat} {json json' : Bytes}
    (same : sendJsonResponse code json = sendJsonResponse code' json') : json = json' := by
  simp only [sendJsonResponse, sendHttpResponse, List.cons.injEq, ConnAction.send.injEq] at same
  exact same.2.1

theorem enqueuedText_head (cmdId : Int) (deviceId : Bytes) :
    enqueuedText cmdId deviceId = enqueuedHead cmdId (cstr deviceId) ++ ascii ",\"message\":\"ok\"\x7d" := by
  have split : ascii "\",\"status\":\"enqueued\",\"message\":\"ok\"\x7d" =
      ascii "\",\"status\":\"enqueued\"" ++ ascii ",\"message\":\"ok\"\x7d" := rfl
  simp only [enqueuedText, enqueuedHead, split, List.append_assoc]

theorem extractJsonStr_no_quote (body key : Bytes) : 34 ∉ extractJsonStr body key := by
  unfold extractJsonStr
  dsimp only
  split
  · exact List.not_mem_nil
  · split
    · exact List.not_mem_nil
    · split
      · exact List.not_mem_nil
      · rename_i pos opened _ last found
        unfold find at found
        split at found
        · obtain ⟨i, first, rfl⟩ := Option.map_eq_some_iff.mp found
          rw [show i + (pos + 1) - pos - 1 = i by omega]
          exact not_mem_take_of_indexOf first
        · cases found

/-! ### The answer -/

theorem decimal_no_comma (n : Int) : 44 ∉ decimal n := by
  intro member
  rcases decimal_bytes n 44 member with sign | digit
  · exact absurd sign (by decide)
  · exact absurd digit (by decide)

section Answer

variable {i cmdId : Int} {answered deviceId : Bytes}

theorem answer_fields (head : enqueuedHead i answered <+: enqueuedText cmdId deviceId) :
    i = cmdId ∧ answered ++ ascii "\",\"status\":\"enqueued\"" <+:
      cstr deviceId ++ ascii "\",\"status\":\"enqueued\",\"message\":\"ok\"\x7d" := by
  simp only [enqueuedText, enqueuedHead, List.append_assoc, List.prefix_append_right_inj] at head
  obtain ⟨same, rest⟩ := prefix_of_separated (decimal_no_comma i) (decimal_no_comma cmdId) head
  exact ⟨decimal_injective same, (List.prefix_append_right_inj (ascii "\"device_id\":\"")).mp rest⟩

/-- The status cannot come before the end of the device id, which has no quote. -/
theorem answer_length (noQuote : 34 ∉ deviceId) (head : enqueuedHead i answered <+: enqueuedText cmdId deviceId) :
    (enqueuedHead cmdId (cstr deviceId)).length ≤ (enqueuedHead i answered).length := by
  obtain ⟨rfl, ⟨rest, split⟩⟩ := answer_fields head
  have long : (cstr deviceId).length ≤ answered.length := by
    by_contra short
    have quote := congrArg (·[answered.length]?) split
    simp only [List.append_assoc, List.getElem?_append_right le_rfl, Nat.sub_self,
      List.getElem?_append_left (not_le.mp short)] at quote
    have member : 34 ∈ cstr deviceId := List.mem_of_getElem? quote.symm
    exact noQuote ((List.takeWhile_subset _) member)
  simp only [enqueuedHead, List.length_append]
  omega

end Answer

theorem answersEnqueued_id {i cmdId : Int} {deviceId : Bytes}
    (answers : AnswersEnqueued (sendJsonResponse 200 (snprintf 256 (enqueuedText cmdId deviceId))) i) : i = cmdId := by
  obtain ⟨answered, json, same, head⟩ := answers
  obtain rfl := sendJsonResponse_body same
  exact (answer_fields (head.trans (List.take_prefix _ _))).1

theorem answersEnqueued_iff (cmdId : Int) {deviceId : Bytes} (noQuote : 34 ∉ deviceId) :
    (∃ i, AnswersEnqueued (sendJsonResponse 200 (snprintf 256 (enqueuedText cmdId deviceId))) i) ↔
      (enqueuedHead cmdId (cstr deviceId)).length ≤ 255 := by
  constructor
  · rintro ⟨i, answered, json, same, head⟩
    obtain rfl := sendJsonResponse_body same
    have shown := head.length_le
    have whole := answer_length noQuote (head.trans (List.take_prefix _ _))
    simp only [snprintf, List.length_take] at shown
    omega
  · intro fits
    refine ⟨cmdId, cstr deviceId, _, rfl, ?_⟩
    rw [enqueuedText_head]
    exact List.prefix_take_iff.mpr ⟨List.prefix_append _ _, fits⟩

theorem not_answersEnqueued_refused (i : Int) :
    ¬ AnswersEnqueued (sendJsonResponse 400 (ascii "\x7b\"code\":-1,\"message\":\"missing device_id or command\"\x7d")) i := by
  rintro ⟨answered, json, same, head⟩
  obtain rfl := sendJsonResponse_body same
  have code : ascii "\x7b\"code\":0" <+: enqueuedHead i answered := by
    rw [enqueuedHead, show ascii "\x7b\"code\":0,\"command_id\":" = ascii "\x7b\"code\":0" ++ ascii ",\"command_id\":"
      from rfl, List.append_assoc]
    exact List.prefix_append _ _
  exact absurd (code.trans head) (by decide)

/-! ### The stream -/

section Stream

variable (fate : XaddFate) (cmdId ts : Int) (g : GatewayServer) (w : World) (deviceId command params : Bytes)

/-- An `XADD` that is executed appends the fields of the command, and nothing else touches the stream. -/
theorem entries_enqueueCommand :
    (g.enqueueCommand fate cmdId ts w deviceId command params).2.2.redis.commands.entries =
      if g.redisClient_.connected_ ∧ g.redisClient_.answers ∧ fate ≠ .refused then
        w.redis.commands.entries ++ [⟨w.redis.commands.nextId (w.now / 1000),
          xaddFields (GatewayServer.apiCommand cmdId deviceId command params) ts⟩]
      else w.redis.commands.entries := by
  unfold GatewayServer.enqueueCommand RedisClient.publishCommand
  dsimp only
  by_cases works : g.redisClient_.connected_ = true ∧ g.redisClient_.answers = true
  · rw [if_pos works]
    cases fate with
    | answered | replyLost => simp [works, Redis.Stream.add]
    | refused => simp
  · rw [if_neg works, if_neg fun all => works ⟨all.1, all.2.1⟩]

theorem appended_enqueueCommand :
    Appended w (g.enqueueCommand fate cmdId ts w deviceId command params).2.2 cmdId deviceId ↔
      (g.redisClient_.connected_ ∧ g.redisClient_.answers ∧ fate ≠ .refused) ∧ 0 ∉ deviceId ∧ (cmdId ≠ 0 ∨ ts = 0) := by
  have idField : fieldValue (xaddFields (GatewayServer.apiCommand cmdId deviceId command params) ts) (ascii "id") =
      some (decimal (if cmdId ≠ 0 then cmdId else ts)) := rfl
  have deviceField : fieldValue (xaddFields (GatewayServer.apiCommand cmdId deviceId command params) ts)
      (ascii "device_id") = some (cstr deviceId) := rfl
  unfold Appended
  rw [entries_enqueueCommand]
  split
  · rename_i executed
    have clean : cstr deviceId = deviceId ↔ 0 ∉ deviceId :=
      ⟨fun whole member => no_nul_cstr deviceId (whole.symm ▸ member), cstr_of_no_nul⟩
    have number : decimal (if cmdId ≠ 0 then cmdId else ts) = decimal cmdId ↔ cmdId ≠ 0 ∨ ts = 0 := by
      constructor
      · intro same
        by_contra neither
        obtain ⟨zero, stamped⟩ := not_or.mp neither
        rw [if_neg zero, not_not.mp zero] at same
        exact stamped (decimal_injective same)
      · rintro (nonzero | zero)
        · rw [if_pos nonzero]
        · split
          · rfl
          · rename_i also
            rw [zero, not_not.mp also]
    constructor
    · rintro ⟨e, last, id, device⟩
      obtain rfl : _ = e := List.singleton_inj.mp (List.append_cancel_left last)
      rw [idField, Option.some.injEq, number] at id
      rw [deviceField, Option.some.injEq, clean] at device
      exact ⟨executed, device, id⟩
    · rintro ⟨_, device, id⟩
      exact ⟨_, rfl, idField.trans (congrArg some (number.mpr id)), deviceField.trans (congrArg some (clean.mpr device))⟩
  · rename_i skipped
    constructor
    · rintro ⟨e, last, _⟩
      exact absurd (congrArg List.length last) (by simp)
    · exact fun all => absurd all.1 skipped

end Stream

/-! ### Answer and stream together -/

section Post

variable (api : ApiServer (GatewayServer × World)) (fate : XaddFate) (cmdId ts : Int) (body : Bytes)
  (g : GatewayServer) (w : World)

theorem postCommand_refused (refused : requestedDevice body = [] ∨ requestedCommand body = []) :
    (postCommand api fate cmdId ts body (g, w)).1 =
      sendJsonResponse 400 (ascii "\x7b\"code\":-1,\"message\":\"missing device_id or command\"\x7d") :=
  congrArg Prod.fst (if_pos refused)

theorem postCommand_accepted (accepted : ¬ (requestedDevice body = [] ∨ requestedCommand body = [])) :
    ∃ params, postCommand api fate cmdId ts body (g, w) =
      (sendJsonResponse 200 (snprintf 256 (enqueuedText cmdId (requestedDevice body))),
        (g.enqueueCommand fate cmdId ts w (requestedDevice body) (requestedCommand body) params).2) :=
  ⟨_, if_neg accepted⟩

/-- A request that is answered as enqueued is in the stream, exactly when the request is refused, or its answer is cut
before the status, or the `XADD` is executed with the id that is answered and a device id without NUL. -/
theorem enqueued_iff :
    (∀ i, AnswersEnqueued (postCommand api fate cmdId ts body (g, w)).1 i →
        Appended w (postCommand api fate cmdId ts body (g, w)).2.2 i (requestedDevice body)) ↔
      (requestedDevice body = [] ∨ requestedCommand body = []) ∨
        255 < (enqueuedHead cmdId (cstr (requestedDevice body))).length ∨
        (g.redisClient_.connected_ ∧ g.redisClient_.answers ∧ fate ≠ .refused) ∧ 0 ∉ requestedDevice body ∧
          (cmdId ≠ 0 ∨ ts = 0) := by
  by_cases refused : requestedDevice body = [] ∨ requestedCommand body = []
  · rw [postCommand_refused api fate cmdId ts body g w refused]
    exact iff_of_true (fun i answers => absurd answers (not_answersEnqueued_refused i)) (Or.inl refused)
  · obtain ⟨params, accepted⟩ := postCommand_accepted api fate cmdId ts body g w refused
    have said := answersEnqueued_iff cmdId (extractJsonStr_no_quote body (ascii "device_id"))
    have appended := appended_enqueueCommand fate cmdId ts g w (requestedDevice body) (requestedCommand body) params
    rw [accepted, ← appended]
    constructor
    · intro kept
      by_cases cut : 255 < (enqueuedHead cmdId (cstr (requestedDevice body))).length
      · exact Or.inr (Or.inl cut)
      · obtain ⟨i, answers⟩ := said.mpr (not_lt.mp cut)
        have entry := kept i answers
        rw [answersEnqueued_id answers] at entry
        exact Or.inr (Or.inr entry)
    · rintro (empty | cut | entry) i answers
      · exact absurd empty refused
      · exact absurd (said.mp ⟨i, answers⟩) (not_le.mpr cut)
      · rw [answersEnqueued_id answers]
        exact entry

end Post

def switchOnBody : Bytes := ascii "\x7b\"device_id\":\"sensor\",\"command\":\"on\"\x7d"

/-- A node that never reached Redis answers that the command is enqueued, and the stream is empty. -/
theorem unconnected_answers_enqueued :
    let after := postCommand ⟨none, none, none, none, none⟩ .answered 1 1 switchOnBody ({}, ⟨1, .new, []⟩)
    AnswersEnqueued after.1 1 ∧ ¬ Appended ⟨1, .new, []⟩ after.2.2 1 (requestedDevice switchOnBody) := by
  intro after
  have nothing : after.2.2.redis.commands.entries = [] := rfl
  have answer : after.1 = sendJsonResponse 200 (enqueuedHead 1 (ascii "sensor") ++ ascii ",\"message\":\"ok\"\x7d") := by
    decide +kernel
  refine ⟨⟨_, _, answer, List.prefix_append _ _⟩, ?_⟩
  rintro ⟨e, last, _⟩
  rw [nothing] at last
  cases last

end IotGateway.Api
