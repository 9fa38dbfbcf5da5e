import IotGateway.Api.Requests

/-!
# Requests cut into deliveries

`handleHttpRequest` consumes the request line and the header lines before it knows
whether the request is complete, and keeps nothing between calls. A well-formed request
delivered in pieces is therefore dispatched as sent only when no piece ends between the
end of its request line and its last byte.
-/

namespace IotGateway.Api
open Text Net Buffer

/-! ### Well-formed requests -/

/-- A header line: a name without blanks or colons, and a value on one line. -/
structure Header where
  name : Bytes
  value : Bytes
  name_nonempty : name ≠ []
  name_token : ∀ b ∈ name, isSpace b = false ∧ b ≠ 58
  value_line : ∀ b ∈ value, b ≠ 13 ∧ b ≠ 10

def Header.line (header : Header) : Bytes := header.name ++ [58] ++ header.value

/-- A request as a client writes it. The server never reads `Content-Length`, so any body may follow any headers. -/
structure HttpRequest where
  method : Bytes
  path : Bytes
  version : Bytes
  headers : List Header
  body : Bytes
  method_nonempty : method ≠ []
  method_token : ∀ b ∈ method, isSpace b = false ∧ b ≠ 58
  path_nonempty : path ≠ []
  path_word : ∀ b ∈ path, isSpace b = false
  version_word : ∀ b ∈ version, isSpace b = false

namespace HttpRequest

def line (request : HttpRequest) : Bytes := request.method ++ [32] ++ request.path ++ [32] ++ request.version

end HttpRequest

def headerBlock : List Header → Bytes
  | [] => []
  | header :: headers => header.line ++ kCRLF ++ headerBlock headers

namespace HttpRequest

def render (request : HttpRequest) : Bytes :=
  request.line ++ kCRLF ++ (headerBlock request.headers ++ (kCRLF ++ request.body))

/-- What the server has to dispatch. -/
def dispatched (request : HttpRequest) : Request := ⟨request.method, request.path, request.body⟩

end HttpRequest

/-- The requests dispatched while the chunks arrive one by one. -/
def deliver : Buffer → List Bytes → List Request
  | _, [] => []
  | buf, chunk :: chunks =>
    let (request, buf) := readRequest (buf.append chunk)
    request.toList ++ deliver buf chunks

def dispatches (chunks : List Bytes) : List Request := deliver (Buffer.new kInitialSize) chunks

def deliverBytes : Bytes → List Bytes → List Request
  | _, [] => []
  | unread, chunk :: chunks =>
    (takeRequest (unread ++ chunk)).1.toList ++ deliverBytes (takeRequest (unread ++ chunk)).2 chunks

theorem deliver_readable (buf : Buffer) (chunks : List Bytes) : deliver buf chunks = deliverBytes buf.readable chunks := by
  induction chunks generalizing buf with
  | nil => rfl
  | cons chunk chunks ih =>
    obtain ⟨request, rest⟩ := readRequest_readable (buf.append chunk)
    rw [readable_append] at request rest
    simp only [deliver, deliverBytes, ih, request, rest]

/-! ### Lines -/

theorem indexOf_crlf {text : Bytes} (rest : Bytes) (noCr : 13 ∉ text) :
    indexOf kCRLF (text ++ kCRLF ++ rest) = some text.length := by
  rw [List.append_assoc]
  apply indexOf_append text (List.prefix_append _ _)
  intro i below here
  rw [List.drop_append_of_le_length below.le, List.drop_eq_getElem_cons below] at here
  have same : 13 = text[i] := (List.cons_prefix_cons.mp here).1
  exact noCr (same ▸ List.getElem_mem below)

theorem indexOf_crlf_none {text : Bytes} (noCr : 13 ∉ text.dropLast) : indexOf kCRLF text = none := by
  rcases found : indexOf kCRLF text with _ | i
  · rfl
  · obtain ⟨rest, split⟩ := prefix_of_indexOf found
    have whole : text = text.take i ++ ([13] ++ (10 :: rest)) := by
      conv_lhs => rw [← List.take_append_drop i text, ← split]
      rfl
    refine absurd ?_ noCr
    rw [whole, List.dropLast_append_of_ne_nil (by simp), List.dropLast_append_of_ne_nil (by simp)]
    simp

theorem arrived_line_cases {line rest part future : Bytes} (noCr : 13 ∉ line)
    (whole : part ++ future = line ++ kCRLF ++ rest) :
    (part.length < line.length + 2 ∧ indexOf kCRLF part = none) ∨
      ∃ more, part = line ++ kCRLF ++ more ∧ more ++ future = rest ∧ indexOf kCRLF part = some line.length := by
  by_cases short : part.length < line.length + 2
  · left
    refine ⟨short, indexOf_crlf_none fun member => noCr ?_⟩
    have start : part.dropLast = line.take part.dropLast.length := by
      have cut := congrArg (List.take part.dropLast.length) whole
      have inside : part.dropLast.length ≤ part.length := by simp
      have inLine : part.dropLast.length ≤ line.length := by
        rw [List.length_dropLast]
        omega
      rw [List.take_append_of_le_length inside, List.append_assoc, List.take_append_of_le_length inLine,
        List.length_dropLast, ← List.dropLast_eq_take] at cut
      simpa using cut
    rw [start] at member
    exact List.mem_of_mem_take member
  · right
    have sizes : (line ++ kCRLF).length ≤ part.length := by
      simp only [kCRLF, List.length_append, List.length_cons, List.length_nil]
      omega
    obtain ⟨more, rfl⟩ : line ++ kCRLF <+: part :=
      List.prefix_of_prefix_length_le (List.prefix_append _ rest) (whole ▸ List.prefix_append part future) sizes
    refine ⟨more, rfl, ?_, indexOf_crlf more noCr⟩
    rw [List.append_assoc] at whole
    exact List.append_cancel_left whole

/-! ### The words of a line -/

theorem extractWord_word {word rest : Bytes} (nonempty : word ≠ []) (clean : ∀ b ∈ word, isSpace b = false)
    (ends : ∀ b ∈ rest.head?, isSpace b = true) : extractWord (word ++ rest) = (word, rest) := by
  have start : (word ++ rest).dropWhile isSpace = word ++ rest := by
    cases word with
    | nil => exact absurd rfl nonempty
    | cons b word => simp [clean b List.mem_cons_self]
  have words : ∀ b ∈ word, (!isSpace b) = true := fun b member => by simp [clean b member]
  have stops : rest.takeWhile (!isSpace ·) = [] ∧ rest.dropWhile (!isSpace ·) = rest := by
    cases rest with
    | nil => simp
    | cons b rest => simp [ends b rfl]
  unfold extractWord
  simp only [start, List.takeWhile_append_of_pos words, List.dropWhile_append_of_pos words, stops, List.append_nil]

theorem extractWord_blank (rest : Bytes) : extractWord (32 :: rest) = extractWord rest := by
  simp [extractWord, isSpace]

namespace HttpRequest

theorem line_method (request : HttpRequest) : (extractWord request.line).1 = request.method := by
  unfold line
  rw [List.append_assoc, List.append_assoc, List.append_assoc,
    extractWord_word request.method_nonempty (fun b member => (request.method_token b member).1) (by simp [isSpace])]

theorem line_path (request : HttpRequest) : (extractWord (extractWord request.line).2).1 = request.path := by
  unfold line
  rw [List.append_assoc, List.append_assoc, List.append_assoc,
    extractWord_word request.method_nonempty (fun b member => (request.method_token b member).1) (by simp [isSpace])]
  dsimp only
  rw [List.singleton_append, extractWord_blank,
    extractWord_word request.path_nonempty request.path_word (by simp [isSpace])]

theorem line_no_cr (request : HttpRequest) : 13 ∉ request.line := by
  intro member
  have blank : isSpace 13 = true := by decide
  simp only [line, List.mem_append, List.mem_singleton] at member
  rcases member with (((inMethod | sep) | inPath) | sep) | inVersion
  · exact absurd blank (by simp [(request.method_token 13 inMethod).1])
  · exact absurd sep (by decide)
  · exact absurd blank (by simp [request.path_word 13 inPath])
  · exact absurd sep (by decide)
  · exact absurd blank (by simp [request.version_word 13 inVersion])

end HttpRequest

namespace Header

theorem line_no_cr (header : Header) : 13 ∉ header.line := by
  intro member
  have blank : isSpace 13 = true := by decide
  simp only [line, List.mem_append, List.mem_singleton] at member
  rcases member with (inName | colon) | inValue
  · exact absurd blank (by simp [(header.name_token 13 inName).1])
  · exact absurd colon (by decide)
  · exact (header.value_line 13 inValue).1 rfl

theorem line_length_pos (header : Header) : header.line.length ≠ 0 := by
  simp [line]

/-- Read as a request line, a header line has a colon in its first word. -/
theorem colon_mem_method (header : Header) : 58 ∈ (extractWord header.line).1 := by
  have start : header.line.dropWhile isSpace = header.line := by
    obtain ⟨b, name, same⟩ := List.exists_cons_of_ne_nil header.name_nonempty
    have first : isSpace b = false := (header.name_token b (same ▸ List.mem_cons_self)).1
    simp [line, same, first]
  have words : ∀ b ∈ header.name ++ [58], (!isSpace b) = true := by
    intro b member
    rcases List.mem_append.mp member with inName | colon
    · simp [(header.name_token b inName).1]
    · rw [List.mem_singleton.mp colon]
      rfl
  simp only [extractWord, start]
  rw [line, List.takeWhile_append_of_pos words]
  simp

end Header

/-! ### Reading a part of the request -/

theorem dropHeaders_suffix (bytes : Bytes) : (dropHeaders bytes).2 <:+ bytes := by
  generalize size : bytes.length = n
  induction n using Nat.strongRecOn generalizing bytes with
  | ind n ih =>
    cases found : indexOf kCRLF bytes with
    | none => rw [dropHeaders_none found]
    | some lineEnd =>
      have shorter := length_drop_line found
      rw [dropHeaders_some found]
      split
      · exact List.drop_suffix 2 bytes
      · exact (ih _ (by omega) _ rfl).trans (List.drop_suffix _ bytes)

theorem dropHeaders_line {line : Bytes} (more : Bytes) (noCr : 13 ∉ line) (nonempty : line.length ≠ 0) :
    dropHeaders (line ++ kCRLF ++ more) = dropHeaders more := by
  rw [dropHeaders_some (indexOf_crlf more noCr), if_neg nonempty]
  simp [kCRLF]

theorem dropHeaders_blank (more : Bytes) : dropHeaders (kCRLF ++ more) = (true, more) := by
  have found : indexOf kCRLF (kCRLF ++ more) = some 0 := indexOf_start (List.prefix_append _ _)
  rw [dropHeaders_some found]
  rfl

theorem dropHeaders_block {headers : List Header} {body part future : Bytes}
    (whole : part ++ future = headerBlock headers ++ (kCRLF ++ body)) :
    (∃ left rest, dropHeaders part = (false, rest) ∧ rest ++ future = headerBlock left ++ (kCRLF ++ body)) ∨
      ∃ rest, dropHeaders part = (true, rest) ∧ rest ++ future = body := by
  induction headers generalizing part with
  | nil =>
    rcases arrived_line_cases List.not_mem_nil whole with ⟨_, nowhere⟩ | ⟨more, rfl, rest, _⟩
    · exact Or.inl ⟨[], part, dropHeaders_none nowhere, whole⟩
    · exact Or.inr ⟨more, dropHeaders_blank more, rest⟩
  | cons header headers ih =>
    have lines : part ++ future = header.line ++ kCRLF ++ (headerBlock headers ++ (kCRLF ++ body)) := by
      rw [whole, headerBlock, List.append_assoc]
    rcases arrived_line_cases header.line_no_cr lines with ⟨_, nowhere⟩ | ⟨more, rfl, rest, _⟩
    · exact Or.inl ⟨header :: headers, part, dropHeaders_none nowhere, whole⟩
    · rw [dropHeaders_line more header.line_no_cr header.line_length_pos]
      exact ih rest

theorem takeRequest_line {line : Bytes} (more : Bytes) (noCr : 13 ∉ line) :
    takeRequest (line ++ kCRLF ++ more) = finishRequest line (dropHeaders more) := by
  have found := indexOf_crlf more noCr
  have after : (line ++ kCRLF ++ more).drop (line.length + 2) = more := by simp [kCRLF]
  have before : (line ++ kCRLF ++ more).take line.length = line := by simp
  simp only [takeRequest_some found, requestLine, found, after, before]

/-! ### Requests that are lost -/

/-- The bytes still to be read no longer hold the request line: they start at a header line, at the blank line or
in the body. -/
def Lost (request : HttpRequest) (unread : Bytes) : Prop :=
  (∃ left, unread = headerBlock left ++ (kCRLF ++ request.body)) ∨ unread <:+ request.body

theorem Lost.finish_body {request : HttpRequest} {line part future : Bytes} (outcome : Bool × Bytes)
    (inBody : part ++ future <:+ request.body) (tail : outcome.2 <:+ part) :
    Lost request ((finishRequest line outcome).2 ++ future) := by
  obtain ⟨done, rest⟩ := outcome
  right
  cases done with
  | false => exact (List.suffix_append_self_iff.mpr tail).trans inBody
  | true => exact (List.suffix_append part future).trans inBody

/-- Once the request line is gone, a call cannot dispatch the request, nor bring it back. -/
theorem Lost.step {request : HttpRequest} {part future : Bytes} (lost : Lost request (part ++ future)) :
    Lost request ((takeRequest part).2 ++ future) ∧ (takeRequest part).1 ≠ some request.dispatched := by
  rcases lost with ⟨left, whole⟩ | inBody
  · cases left with
    | nil =>
      -- the blank line is taken for a request line without words
      rcases arrived_line_cases List.not_mem_nil whole with ⟨_, nowhere⟩ | ⟨more, rfl, rest, _⟩
      · rw [takeRequest_none nowhere]
        exact ⟨Or.inl ⟨[], whole⟩, by simp⟩
      · rw [takeRequest_line more List.not_mem_nil]
        refine ⟨Lost.finish_body _ (rest ▸ List.suffix_refl _) (dropHeaders_suffix more), ?_⟩
        obtain ⟨done, kept⟩ := dropHeaders more
        cases done with
        | false => simp [finishRequest]
        | true =>
          intro same
          have method := congrArg Request.method (Option.some.inj same)
          exact request.method_nonempty method.symm
    | cons header left =>
      have lines : part ++ future = header.line ++ kCRLF ++ (headerBlock left ++ (kCRLF ++ request.body)) := by
        rw [whole, headerBlock, List.append_assoc]
      rcases arrived_line_cases header.line_no_cr lines with ⟨_, nowhere⟩ | ⟨more, rfl, rest, _⟩
      · rw [takeRequest_none nowhere]
        exact ⟨Or.inl ⟨header :: left, whole⟩, by simp⟩
      · rw [takeRequest_line more header.line_no_cr]
        rcases dropHeaders_block rest with ⟨later, kept, dropped, same⟩ | ⟨body, dropped, same⟩
        · rw [dropped]
          exact ⟨Or.inl ⟨later, same⟩, by simp [finishRequest]⟩
        · rw [dropped]
          refine ⟨Or.inr (same ▸ List.suffix_append body future), ?_⟩
          intro equal
          have method : requestMethod header.line = request.method := congrArg Request.method (Option.some.inj equal)
          exact (request.method_token 58 (method ▸ header.colon_mem_method)).2 rfl
  · cases found : indexOf kCRLF part with
    | none =>
      rw [takeRequest_none found]
      exact ⟨Or.inr inBody, by simp⟩
    | some crlf =>
      have tail := dropHeaders_suffix (part.drop (crlf + 2))
      have shorter := length_drop_line found
      have room := inBody.length_le
      rw [takeRequest_some found]
      refine ⟨Lost.finish_body _ inBody (tail.trans (List.drop_suffix _ part)), ?_⟩
      have size := tail.length_le
      revert size
      obtain ⟨done, kept⟩ := dropHeaders (part.drop (crlf + 2))
      intro size same
      cases done with
      | false => cases same
      | true =>
        have body : kept = request.body := congrArg Request.body (Option.some.inj same)
        rw [List.length_append, ← body] at room
        dsimp only at size
        omega

theorem Lost.not_dispatched {request : HttpRequest} {unread : Bytes} {chunks : List Bytes}
    (lost : Lost request (unread ++ chunks.flatten)) : request.dispatched ∉ deliverBytes unread chunks := by
  induction chunks generalizing unread with
  | nil => simp [deliverBytes]
  | cons chunk chunks ih =>
    rw [List.flatten_cons, ← List.append_assoc] at lost
    obtain ⟨still, notNow⟩ := lost.step
    simp only [deliverBytes, List.mem_append, Option.mem_toList, not_or]
    exact ⟨notNow, ih still⟩

/-! ### Deliveries -/

namespace HttpRequest

variable (request : HttpRequest)

theorem takeRequest_render : takeRequest request.render = (some request.dispatched, []) := by
  have block : dropHeaders (headerBlock request.headers ++ (kCRLF ++ request.body)) = (true, request.body) := by
    induction request.headers with
    | nil => exact dropHeaders_blank request.body
    | cons header headers ih =>
      rw [headerBlock, List.append_assoc, dropHeaders_line _ header.line_no_cr header.line_length_pos, ih]
  rw [render, takeRequest_line _ request.line_no_cr, block]
  simp [finishRequest, requestMethod, requestPath, request.line_method, request.line_path, dispatched]

theorem takeRequest_part {part future : Bytes} (whole : part ++ future = request.render) (more : future ≠ [])
    (line : request.line.length + 2 ≤ part.length) :
    (takeRequest part).1 ≠ some request.dispatched ∧
      ((takeRequest part).1 = none → Lost request ((takeRequest part).2 ++ future)) := by
  rcases arrived_line_cases request.line_no_cr whole with ⟨short, _⟩ | ⟨rest, rfl, after, _⟩
  · omega
  · rw [takeRequest_line rest request.line_no_cr]
    rcases dropHeaders_block after with ⟨left, kept, dropped, same⟩ | ⟨body, dropped, same⟩
    · rw [dropped]
      exact ⟨by simp [finishRequest], fun _ => Or.inl ⟨left, same⟩⟩
    · rw [dropped]
      refine ⟨fun equal => more ?_, fun absurdly => by simp [finishRequest] at absurdly⟩
      have cut : body = request.body := congrArg Request.body (Option.some.inj equal)
      rw [← cut] at same
      exact List.self_eq_append_right.mp same.symm

theorem deliverBytes_empty {chunks : List Bytes} (nothing : chunks.flatten = []) : deliverBytes [] chunks = [] := by
  induction chunks with
  | nil => rfl
  | cons chunk chunks ih =>
    obtain ⟨rfl, rest⟩ := List.append_eq_nil_iff.mp (List.flatten_cons ▸ nothing)
    have none : takeRequest [] = (none, []) := takeRequest_none rfl
    simp [deliverBytes, none, ih rest]

theorem line_lt_render : request.line.length + 2 < request.render.length := by
  simp only [render, kCRLF, List.length_append, List.length_cons, List.length_nil]
  omega

/-- What has arrived after a delivery stops inside the request line, or is the whole request. -/
def CutSafely (arrived : Bytes) : Prop :=
  arrived.length < request.line.length + 2 ∨ arrived.length = request.render.length

theorem takeRequest_pending {part future : Bytes} (whole : part ++ future = request.render)
    (short : part.length < request.line.length + 2) : takeRequest part = (none, part) := by
  rcases arrived_line_cases request.line_no_cr whole with ⟨_, nowhere⟩ | ⟨more, rfl, _⟩
  · exact takeRequest_none nowhere
  · simp only [kCRLF, List.length_append, List.length_cons, List.length_nil] at short
    omega

/-- When the request line is complete and the request is not, it is not dispatched any more. -/
theorem deliverBytes_cut {part : Bytes} {chunks : List Bytes} (whole : part ++ chunks.flatten = request.render)
    (more : chunks.flatten ≠ []) (line : request.line.length + 2 ≤ part.length) :
    (takeRequest part).1.toList ++ deliverBytes (takeRequest part).2 chunks ≠ [request.dispatched] := by
  obtain ⟨notNow, lost⟩ := request.takeRequest_part whole more line
  intro once
  cases taken : (takeRequest part).1 with
  | none =>
    rw [taken, Option.toList_none, List.nil_append] at once
    exact absurd (once ▸ List.mem_singleton_self _) (lost taken).not_dispatched
  | some other =>
    rw [taken, Option.toList_some, List.singleton_append, List.cons.injEq] at once
    exact absurd (once.1 ▸ taken) notNow

theorem cutSafely_cons {seen : Bytes} (pending : seen.length < request.line.length + 2) (chunk : Bytes)
    (chunks : List Bytes) :
    (∀ k ≤ (chunk :: chunks).length, request.CutSafely (seen ++ ((chunk :: chunks).take k).flatten)) ↔
      ∀ k ≤ chunks.length, request.CutSafely (seen ++ chunk ++ (chunks.take k).flatten) := by
  constructor
  · intro safe k bound
    simpa using safe (k + 1) (by simpa using bound)
  · intro safe k bound
    cases k with
    | zero => exact Or.inl (by simpa using pending)
    | succ k => simpa using safe k (by simpa using bound)

theorem deliverBytes_iff {seen : Bytes} {chunks : List Bytes} (pending : seen.length < request.line.length + 2)
    (whole : seen ++ chunks.flatten = request.render) :
    deliverBytes seen chunks = [request.dispatched] ↔
      ∀ k ≤ chunks.length, request.CutSafely (seen ++ (chunks.take k).flatten) := by
  induction chunks generalizing seen with
  | nil =>
    have size := request.line_lt_render
    rw [← whole, List.flatten_nil, List.append_nil] at size
    omega
  | cons chunk chunks ih =>
    rw [List.flatten_cons, ← List.append_assoc] at whole
    rw [request.cutSafely_cons pending]
    simp only [deliverBytes]
    by_cases short : (seen ++ chunk).length < request.line.length + 2
    · rw [request.takeRequest_pending whole short, Option.toList_none, List.nil_append]
      exact ih short whole
    · by_cases nothing : chunks.flatten = []
      · rw [nothing, List.append_nil] at whole
        rw [whole, takeRequest_render]
        have silent := deliverBytes_empty nothing
        simp only [Option.toList_some, silent, List.append_nil, true_iff]
        intro k _
        right
        have rest : (chunks.take k).flatten = [] := by
          rw [List.flatten_eq_nil_iff] at nothing ⊢
          exact fun chunk member => nothing chunk (List.mem_of_mem_take member)
        rw [rest, List.append_nil]
      · have never := request.deliverBytes_cut whole nothing (by omega)
        refine iff_of_false never ?_
        intro safe
        have now := safe 0 (Nat.zero_le _)
        rw [List.take_zero, List.flatten_nil, List.append_nil] at now
        obtain before | complete := now
        · exact absurd before short
        · have sizes := congrArg List.length whole
          rw [List.length_append] at sizes
          have empty : chunks.flatten.length = 0 := by omega
          exact absurd (List.eq_nil_of_length_eq_zero empty) nothing

end HttpRequest

/-- A request cut into chunks is dispatched once and as sent, exactly when every chunk ends inside the request line
or at the end of the request. -/
theorem dispatches_iff (request : HttpRequest) (chunks : List Bytes) (whole : chunks.flatten = request.render) :
    dispatches [request.render] = [request.dispatched] ∧
    (dispatches chunks = dispatches [request.render] ↔
      ∀ k ≤ chunks.length, request.CutSafely (chunks.take k).flatten) := by
  have start : ([] : Bytes).length < request.line.length + 2 := by simp
  have single : dispatches [request.render] = [request.dispatched] := by
    rw [dispatches, deliver_readable, readable_new]
    simp [deliverBytes, request.takeRequest_render]
  refine ⟨single, ?_⟩
  rw [single, dispatches, deliver_readable, readable_new]
  have cuts := request.deliverBytes_iff start ((List.nil_append _).trans whole)
  simpa only [List.nil_append] using cuts

def commandRequest : HttpRequest where
  method := ascii "POST"
  path := ascii "/api/v1/commands"
  version := ascii "HTTP/1.1"
  headers := [⟨ascii "Content-Length", ascii " 33", by decide +kernel, by decide +kernel, by decide +kernel⟩]
  body := ascii "\x7b\"device_id\":\"d1\",\"command\":\"on\"\x7d"
  method_nonempty := by decide +kernel
  method_token := by decide +kernel
  path_nonempty := by decide +kernel
  path_word := by decide +kernel
  version_word := by decide +kernel

theorem dispatches_commandRequest_line :
    let chunks := [commandRequest.render.take 9, commandRequest.render.drop 9]
    chunks.flatten = commandRequest.render ∧ dispatches chunks = dispatches [commandRequest.render] := by
  intro chunks
  have whole : chunks.flatten = commandRequest.render := by decide +kernel
  have safe : ∀ k ≤ chunks.length, commandRequest.CutSafely (chunks.take k).flatten := by
    unfold HttpRequest.CutSafely
    decide +kernel
  exact ⟨whole, (dispatches_iff commandRequest chunks whole).2.mpr safe⟩

/-- Cut after the request line, its first header is taken for a request of its own. -/
theorem dispatches_commandRequest_header :
    let chunks := [commandRequest.line ++ kCRLF, commandRequest.render.drop (commandRequest.line.length + 2)]
    chunks.flatten = commandRequest.render ∧
      dispatches [commandRequest.render] = [commandRequest.dispatched] ∧
      dispatches chunks = [⟨ascii "Content-Length:", ascii "33", commandRequest.body⟩] := by
  decide +kernel

end IotGateway.Api
