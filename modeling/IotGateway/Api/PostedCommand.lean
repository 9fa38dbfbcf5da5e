import IotGateway.Lib.Json
import IotGateway.Api.Enqueue

/-!
# From the posted body to the published command

What `POST /api/v1/commands` hands to `publishCommand`, for a body that is a JSON object.
`extractJsonStr` looks for a name in quotes anywhere in the body and takes the next string,
whatever that is the name or the value of, so a value that is not a string is passed over.
-/

namespace IotGateway.Api
open Text Storage Gateway Json
open RedisClient (XaddFate)

/-! ### The command that is handed over -/

/-- An API server whose command callback keeps what `enqueueCommand` passes to `publishCommand`. -/
def recorder (cmdId : Int) : ApiServer (List Command) where
  deviceCountFn_ := none
  commandSenderFn_ := some fun deviceId command params handed =>
    (cmdId, handed ++ [GatewayServer.apiCommand cmdId deviceId command params])
  clusterStatsFn_ := none
  deviceDetailFn_ := none
  commandStatusFn_ := none

def handed (cmdId : Int) (body : Bytes) : List Command := (handlePostCommand (recorder cmdId) body []).2

def requestedParams (body : Bytes) : Bytes :=
  let params := extractJsonStr body (ascii "params")
  if params = [] then ascii "\x7b\x7d" else params

theorem handed_eq (cmdId : Int) (body : Bytes) :
    handed cmdId body =
      if requestedDevice body = [] ∨ requestedCommand body = [] then []
      else [GatewayServer.apiCommand cmdId (requestedDevice body) (requestedCommand body) (requestedParams body)] := by
  unfold handed handlePostCommand
  change Prod.snd (if requestedDevice body = [] ∨ requestedCommand body = [] then _ else _) = _
  split
  · rfl
  · rfl

/-- Posting a command publishes what is handed over. -/
theorem postCommand_handed (api : ApiServer (GatewayServer × World)) (fate : XaddFate) (cmdId ts : Int) (body : Bytes)
    (g : GatewayServer) (w : World) :
    (postCommand api fate cmdId ts body (g, w)).2 =
      (handed cmdId body).foldl (fun s cmd =>
        let (_, redisClient_, w) := s.1.redisClient_.publishCommand s.2 fate ts cmd
        ({ s.1 with redisClient_ }, w)) (g, w) := by
  rw [handed_eq]
  unfold postCommand handlePostCommand
  change Prod.snd (if requestedDevice body = [] ∨ requestedCommand body = [] then _ else _) = _
  split
  · rfl
  · rfl

/-! ### The search, on a JSON text -/

theorem find_start (s pat : Bytes) : find s pat 0 = indexOf pat s := by
  simp [find]

theorem extractJsonStr_eq (body key : Bytes) : extractJsonStr body key = searchString key body := by
  have search : ascii "\"" ++ key ++ ascii "\"" = quoted key := rfl
  have mark : ascii "\"" = [34] := rfl
  unfold extractJsonStr searchString
  dsimp only
  rw [search, mark, find_start]
  cases named : indexOf (quoted key) body with
  | none => rfl
  | some pos =>
    have inside : pos + (quoted key).length ≤ body.length := by
      have fits := (prefix_of_indexOf named).length_le
      have positive : 0 < (quoted key).length := Nat.succ_pos _
      rw [List.length_drop] at fits
      omega
    dsimp only
    rw [firstString, find, if_pos inside]
    cases opening : indexOf [34] (body.drop (pos + (quoted key).length)) with
    | none => rfl
    | some i =>
      have within : i + (pos + (quoted key).length) + 1 ≤ body.length := by
        have fits := (prefix_of_indexOf opening).length_le
        rw [List.length_drop, List.length_drop, List.length_singleton] at fits
        omega
      have rest : body.drop (i + (pos + (quoted key).length) + 1) =
          (body.drop (pos + (quoted key).length)).drop (i + 1) := by
        rw [List.drop_drop]
        congr 1
        omega
      simp only [Option.map_some]
      rw [find, if_pos within, rest]
      cases indexOf [34] ((body.drop (pos + (quoted key).length)).drop (i + 1)) with
      | none => rfl
      | some j =>
        simp only [Option.map_some]
        congr 1
        omega

/-! ### A posted object -/

/-- The object has one member of this name, and this is its value. -/
def HasMember (ms : List (Bytes × Bytes)) (name value : Bytes) : Prop :=
  ∃ slot, ms.filter (fun m => m.1 = name) = [(name, slot)] ∧ Holds value slot

/-- The body is a JSON object with these members, among others, and no string in it has a quote or a backslash. -/
structure Posted (deviceId command : Bytes) (params : Option Bytes) (body : Bytes) : Prop where
  members : ∃ ms text, IsObject .bytes ms text ∧ Holds text body ∧
    HasMember ms (ascii "device_id") (quoted deviceId) ∧ HasMember ms (ascii "command") (quoted command) ∧
    match params with
    | none => ∀ m ∈ ms, m.1 ≠ ascii "params"
    | some object => HasMember ms (ascii "params") object ∧ ∃ inner, IsObject .bytes inner object
  backslash : 92 ∉ body
  quote : 34 ∉ deviceId ∧ 34 ∉ command

def noParams : Bytes := ascii "\x7b\x7d"

/-- `{"command":"c","params":P}`. -/
def commandPayload (command params : Bytes) : Bytes :=
  ascii "\x7b\"command\":\"" ++ command ++ ascii "\",\"params\":" ++ params ++ ascii "\x7d"

section Posted

variable {deviceId command body : Bytes} {params : Option Bytes}

theorem Posted.derives (posted : Posted deviceId command params body) : Derives .bytes .text body := by
  obtain ⟨ms, text, ⟨t, derived, rfl⟩, ⟨u, v, left, right, rfl⟩, _⟩ := posted.members
  exact .object left right derived

theorem Posted.extractJsonStr (posted : Posted deviceId command params body) {key : Bytes}
    (unmarked : 34 ∉ key ∧ 44 ∉ key ∧ 58 ∉ key) : extractJsonStr body key = stringAfter key (strings none body) := by
  rw [extractJsonStr_eq]
  exact searchString_derives unmarked posted.derives posted.backslash

theorem commandPayload_inj {c c' p p' : Bytes} (clean : 34 ∉ c) (clean' : 34 ∉ c')
    (same : commandPayload c p = commandPayload c' p') : c = c' ∧ p = p' := by
  simp only [commandPayload, List.append_assoc] at same
  have values : c ++ 34 :: (ascii ",\"params\":" ++ (p ++ ascii "\x7d")) =
      c' ++ 34 :: (ascii ",\"params\":" ++ (p' ++ ascii "\x7d")) := List.append_cancel_left same
  obtain ⟨rfl, _⟩ := prefix_of_separated clean clean' ⟨[], (List.append_nil _).trans values⟩
  have texts := List.append_cancel_left (List.cons.inj (List.append_cancel_left values)).2
  exact ⟨rfl, List.append_cancel_right texts⟩

theorem extracted_unmarked :
    (34 ∉ ascii "device_id" ∧ 44 ∉ ascii "device_id" ∧ 58 ∉ ascii "device_id") ∧
      (34 ∉ ascii "command" ∧ 44 ∉ ascii "command" ∧ 58 ∉ ascii "command") ∧
      (34 ∉ ascii "params" ∧ 44 ∉ ascii "params" ∧ 58 ∉ ascii "params") := by decide

/-- What the strings of a body say for a name, where nothing stands for a default. -/
def stringOr (default key body : Bytes) : Bytes :=
  let s := stringAfter key (strings none body)
  if s = [] then default else s

/-- A posted command is handed over as it was posted exactly when its device and its command are not empty, and in the
sequence of all strings of the body the first `device_id` is followed by the device, the first `command` by the command,
and the first `params` by a string that reads as the posted object (where nothing or an empty string follows, that object
is `{}`). -/
theorem handed_iff (posted : Posted deviceId command params body) (cmdId : Int) :
    (∃ cmd, handed cmdId body = [cmd] ∧ cmd.deviceId = deviceId ∧
        cmd.payload = commandPayload command (params.getD noParams)) ↔
      deviceId ≠ [] ∧ command ≠ [] ∧ stringAfter (ascii "device_id") (strings none body) = deviceId ∧
        stringAfter (ascii "command") (strings none body) = command ∧
        stringOr noParams (ascii "params") body = params.getD noParams := by
  obtain ⟨markedDevice, markedCommand, markedParams⟩ := extracted_unmarked
  have device : requestedDevice body = _ := posted.extractJsonStr markedDevice
  have order : requestedCommand body = _ := posted.extractJsonStr markedCommand
  have object : requestedParams body = stringOr noParams (ascii "params") body := by
    unfold requestedParams stringOr
    rw [posted.extractJsonStr markedParams]
    rfl
  have clean : 34 ∉ requestedCommand body := extractJsonStr_no_quote body (ascii "command")
  rw [handed_eq, ← device, ← order, ← object]
  constructor
  · rintro ⟨cmd, only, rfl, payload⟩
    split at only
    · cases only
    · rename_i present
      obtain rfl := List.singleton_inj.mp only
      obtain ⟨same, text⟩ := commandPayload_inj clean posted.quote.2 payload
      exact ⟨fun empty => present (Or.inl empty), fun empty => present (Or.inr (same.trans empty)), rfl, same, text⟩
  · rintro ⟨someDevice, someCommand, rfl, rfl, text⟩
    rw [if_neg (not_or.mpr ⟨someDevice, someCommand⟩)]
    refine ⟨_, rfl, rfl, ?_⟩
    rw [← text]
    rfl

end Posted

/-! ### Two bodies -/

theorem content_ascii {s : Bytes} (plain : ∀ b ∈ s, b ≠ 34 ∧ b ≠ 92) : Content .bytes s := content_of_plain plain

theorem posted_switchOnBody : Posted (ascii "sensor") (ascii "on") none switchOnBody := by
  have order := compact_last (content_ascii (show ∀ b ∈ ascii "command", _ by decide))
    (compact_string (content_ascii (show ∀ b ∈ ascii "on", _ by decide)))
  have device := compact_member (content_ascii (show ∀ b ∈ ascii "device_id", _ by decide))
    (compact_string (content_ascii (show ∀ b ∈ ascii "sensor", _ by decide))) order
  refine ⟨⟨_, _, ⟨_, device, rfl⟩, holds_self _, ⟨_, rfl, holds_self _⟩, ⟨_, rfl, holds_self _⟩, ?_⟩, ?_, ?_⟩
  all_goals decide

theorem switchOn_handed :
    ∃ cmd, handed 1 switchOnBody = [cmd] ∧ cmd.deviceId = ascii "sensor" ∧
      cmd.payload = commandPayload (ascii "on") noParams :=
  (handed_iff posted_switchOnBody 1).mpr (by decide)

/-- The example of the README. -/
def rebootBody : Bytes := ascii "\x7b\"device_id\":\"sim-device-00001\",\"command\":\"reboot\",\"params\":\x7b\"delay\":5\x7d\x7d"

def rebootParams : Bytes := ascii "\x7b\"delay\":5\x7d"

theorem posted_rebootBody : Posted (ascii "sim-device-00001") (ascii "reboot") (some rebootParams) rebootBody := by
  have inner := compact_last (content_ascii (show ∀ b ∈ ascii "delay", _ by decide)) (derives_decimal 5)
  have object := compact_last (content_ascii (show ∀ b ∈ ascii "params", _ by decide)) (compact_object inner)
  have order := compact_member (content_ascii (show ∀ b ∈ ascii "command", _ by decide))
    (compact_string (content_ascii (show ∀ b ∈ ascii "reboot", _ by decide))) object
  have device := compact_member (content_ascii (show ∀ b ∈ ascii "device_id", _ by decide))
    (compact_string (content_ascii (show ∀ b ∈ ascii "sim-device-00001", _ by decide))) order
  refine ⟨⟨_, _, ⟨_, device, rfl⟩, holds_self _, ⟨_, rfl, holds_self _⟩, ⟨_, rfl, holds_self _⟩,
    ⟨_, rfl, holds_self _⟩, _, _, inner, rfl⟩, ?_, ?_⟩
  all_goals decide

/-- The params of the README's example are lost: the payload has the name of their first member in their place. -/
theorem reboot_handed_otherwise :
    Posted (ascii "sim-device-00001") (ascii "reboot") (some rebootParams) rebootBody ∧
      (handed 1 rebootBody).map (fun cmd => cmd.payload) = [commandPayload (ascii "reboot") (ascii "delay")] ∧
      ¬ ∃ cmd, handed 1 rebootBody = [cmd] ∧ cmd.deviceId = ascii "sim-device-00001" ∧
        cmd.payload = commandPayload (ascii "reboot") rebootParams := by
  have lost : (handed 1 rebootBody).map (fun cmd => cmd.payload) = [commandPayload (ascii "reboot") (ascii "delay")] := by
    decide +kernel
  refine ⟨posted_rebootBody, lost, ?_⟩
  rintro ⟨cmd, only, _, payload⟩
  rw [only, List.map_singleton, payload] at lost
  exact absurd lost (by decide)

end IotGateway.Api
