import NewApi.Lib.Lists
import NewApi.Lib.Text

/-!
# Chat requests as Responses requests

The messages of a request become input items and instructions
(`service/openaicompat/chat_to_responses.go`). A call keeps its id as it is while the id of an
output is trimmed, and calls without a name or of another type are dropped.
-/

namespace NewApi.Requests.ToResponses

open Lib List

/-- `ToolCallRequest` with the name and the arguments of its function. -/
structure ToolCall where
  id : String
  type : String := ""
  name : String
  arguments : String := ""
  deriving DecidableEq

/-- `MediaContent`. The image, audio, file or video is of any type. -/
structure MediaContent (Media : Type) where
  type : String
  text : String := ""
  media : Option Media := none
  deriving DecidableEq

inductive Content (Media : Type)
  | null
  | string (text : String)
  | media (parts : List (MediaContent Media))
  deriving DecidableEq

structure Message (Media : Type) where
  role : String
  content : Content Media := .null
  toolCalls : List ToolCall := []
  toolCallId : String := ""

inductive InputItem (Media : Type)
  | message (role : String) (content : Content Media)
  | functionCall (callId name arguments : String)
  | functionCallOutput (callId output : String)
  deriving DecidableEq

structure ChatRequest (Media : Type) where
  model : String
  n : Option Int := none
  messages : List (Message Media)

structure ResponsesRequest (Media : Type) where
  model : String
  input : List (InputItem Media)
  instructions : Option String

section

variable {Media : Type}

def contentPart (role : String) (part : MediaContent Media) : MediaContent Media :=
  if part.type = "text" then
    { type := if role = "assistant" then "output_text" else "input_text", text := part.text }
  else if part.type = "image_url" then { type := "input_image", media := part.media }
  else if part.type = "input_audio" then { type := "input_audio", media := part.media }
  else if part.type = "file" then { type := "input_file", media := part.media }
  else if part.type = "video_url" then { type := "input_video", media := part.media }
  else { type := part.type }

def Content.convert (role : String) : Content Media → Content Media
  | .null => .string ""
  | .string text => .string text
  | .media parts => .media (parts.map (contentPart role))

/-- The text of a system message, empty if it is blank. -/
def Content.instruction : Content Media → String
  | .null => ""
  | .string text => trimSpace text
  | .media parts => trimSpace ("\n".intercalate ((parts.filter fun part =>
      part.type = "text" ∧ trimSpace part.text ≠ "").map (·.text)))

def Content.output (marshal : List (MediaContent Media) → String) : Content Media → String
  | .null => ""
  | .string text => text
  | .media parts => marshal parts

def functionCalls (toolCalls : List ToolCall) : List (InputItem Media) :=
  toolCalls.filterMap fun tc =>
    if trimSpace tc.id = "" then none
    else if tc.type ≠ "" ∧ tc.type ≠ "function" then none
    else if trimSpace tc.name = "" then none
    else some (.functionCall tc.id (trimSpace tc.name) tc.arguments)

/-- One turn of the loop: the parts of the instructions and the input items so far. -/
def convertMessage (marshal : List (MediaContent Media) → String)
    (done : List String × List (InputItem Media)) (message : Message Media) :
    List String × List (InputItem Media) :=
  let role := trimSpace message.role
  if role = "" then done
  else if role = "tool" ∨ role = "function" then
    let callID := trimSpace message.toolCallId
    let output := message.content.output marshal
    if callID = "" then
      (done.1, done.2 ++ [.message "user" (.string ("[tool_output_missing_call_id] " ++ output))])
    else (done.1, done.2 ++ [.functionCallOutput callID output])
  else if role = "system" ∨ role = "developer" then
    if message.content.instruction = "" then done
    else (done.1 ++ [message.content.instruction], done.2)
  else
    (done.1, done.2 ++ .message role (message.content.convert role) ::
      if role = "assistant" then functionCalls message.toolCalls else [])

def chatCompletionsRequestToResponsesRequest (marshal : List (MediaContent Media) → String)
    (req : ChatRequest Media) : Except String (ResponsesRequest Media) :=
  if req.model = "" then .error "model is required"
  else if req.n.getD 1 > 1 then
    .error "n>1 is not supported in responses compatibility mode"
  else
    let (instructionsParts, inputItems) := req.messages.foldl (convertMessage marshal) ([], [])
    .ok
      { model := req.model
        input := inputItems
        instructions :=
          if instructionsParts = [] then none
          else some ("\n\n".intercalate instructionsParts) }

/-! ## The structure of the conversation -/

def Message.IsOutput (message : Message Media) : Prop :=
  trimSpace message.role = "tool" ∨ trimSpace message.role = "function"
  deriving Decidable

def Message.IsSystem (message : Message Media) : Prop :=
  trimSpace message.role = "system" ∨ trimSpace message.role = "developer"
  deriving Decidable

/-- The item for a message that is not of the system. -/
def Message.item (marshal : List (MediaContent Media) → String) (msg : Message Media) :
    InputItem Media :=
  if msg.IsOutput then
    if trimSpace msg.toolCallId = "" then
      .message "user"
        (.string ("[tool_output_missing_call_id] " ++ msg.content.output marshal))
    else .functionCallOutput (trimSpace msg.toolCallId) (msg.content.output marshal)
  else .message (trimSpace msg.role) (msg.content.convert (trimSpace msg.role))

/-- The calls of an assistant. -/
def Message.calls (message : Message Media) : List ToolCall :=
  if trimSpace message.role = "assistant" then message.toolCalls else []

def conversation (messages : List (Message Media)) : List (Message Media) :=
  messages.filter fun message => trimSpace message.role ≠ "" ∧ ¬message.IsSystem

def instructionTexts (messages : List (Message Media)) : List String :=
  ((messages.filter fun message => message.IsSystem).map (·.content.instruction)).filter (· ≠ "")

def ToolCall.item (call : ToolCall) : InputItem Media :=
  .functionCall call.id (trimSpace call.name) call.arguments

/-- The items for a message that is not of the system: its own and those of all its calls. -/
def Message.items (marshal : List (MediaContent Media) → String) (msg : Message Media) :
    List (InputItem Media) :=
  msg.item marshal :: msg.calls.map ToolCall.item

/-- A call with a name and an id that are not blank, of the type of functions. -/
def ToolCall.Emitted (call : ToolCall) : Prop :=
  trimSpace call.id ≠ "" ∧ (call.type = "" ∨ call.type = "function") ∧ trimSpace call.name ≠ ""
  deriving Decidable

theorem length_functionCalls_le (calls : List ToolCall) :
    (@functionCalls Media calls).length ≤ (calls.map (@ToolCall.item Media)).length := by
  rw [length_map]
  exact length_filterMap_le _ _

theorem functionCalls_eq_iff {calls : List ToolCall} :
    functionCalls calls = calls.map (@ToolCall.item Media) ↔ ∀ call ∈ calls, call.Emitted := by
  unfold functionCalls
  rw [filterMap_eq_map_iff_forall_eq_some]
  refine forall₂_congr fun call _ => ?_
  unfold ToolCall.Emitted ToolCall.item
  split_ifs with hid htype hname
  · exact iff_of_false nofun fun h => h.1 hid
  · exact iff_of_false nofun fun h => h.2.1.elim htype.1 htype.2
  · exact iff_of_false nofun fun h => h.2.2 hname
  · exact iff_of_true rfl ⟨hid, or_iff_not_and_not.mpr htype, hname⟩

variable (marshal : List (MediaContent Media) → String)

/-- One turn adds the instruction of a system message, or the item of another message and its
calls. -/
theorem convertMessage_eq :
    convertMessage marshal done msg =
      (done.1 ++ instructionTexts [msg],
        done.2 ++ (conversation [msg]).flatMap fun msg =>
          msg.item marshal :: functionCalls msg.calls) := by
  unfold convertMessage instructionTexts conversation Message.item Message.calls Message.IsOutput
    Message.IsSystem
  by_cases hempty : trimSpace msg.role = ""
  · simp [hempty]
  by_cases hout : trimSpace msg.role = "tool" ∨ trimSpace msg.role = "function"
  · by_cases hid : trimSpace msg.toolCallId = ""
    all_goals obtain hrole | hrole := hout <;> simp [hrole, hid, functionCalls]
  by_cases hsystem : trimSpace msg.role = "system" ∨ trimSpace msg.role = "developer"
  · by_cases htext : msg.content.instruction = ""
    all_goals obtain hrole | hrole := hsystem <;> simp [hrole, htext]
  · by_cases hcalls : trimSpace msg.role = "assistant"
    · simp [hcalls]
    · rw [not_or] at hsystem
      simp [hempty, hout, hsystem, hcalls, functionCalls]

theorem foldl_convertMessage :
    messages.foldl (convertMessage marshal) ([], []) =
      (instructionTexts messages, (conversation messages).flatMap fun message =>
        message.item marshal :: functionCalls message.calls) := by
  induction messages using List.reverseRecOn with
  | nil => rfl
  | append_singleton messages message ih =>
    rw [foldl_concat, ih, convertMessage_eq]
    simp [instructionTexts, conversation]

theorem converted_eq {req : ChatRequest Media} {out : ResponsesRequest Media}
    (h : chatCompletionsRequestToResponsesRequest marshal req = .ok out) :
    out.input = (conversation req.messages).flatMap
        (fun message => message.item marshal :: functionCalls message.calls) ∧
      out.instructions =
        if instructionTexts req.messages = [] then none
        else some ("\n\n".intercalate (instructionTexts req.messages)) := by
  unfold chatCompletionsRequestToResponsesRequest at h
  rw [foldl_convertMessage] at h
  by_cases hmodel : req.model = ""
  · rw [if_pos hmodel] at h
    cases h
  by_cases hn : req.n.getD 1 > 1
  · rw [if_neg hmodel, if_pos hn] at h
    cases h
  · rw [if_neg hmodel, if_neg hn] at h
    cases h
    exact ⟨rfl, rfl⟩

/-- The conversation is preserved: the items are the messages in order with their calls right
behind, an output for an earlier call is preceded by a call of its id, and the instructions are the
system texts. -/
structure ConversationKept (messages : List (Message Media)) (out : ResponsesRequest Media) :
    Prop where
  input : out.input = (conversation messages).flatMap (Message.items marshal)
  linked : ∀ before message after call, messages = before ++ message :: after → message.IsOutput →
    call ∈ before.flatMap Message.calls → call.id ≠ "" → message.toolCallId = call.id →
    ∃ callId post, out.input = (conversation before).flatMap (Message.items marshal) ++
        .functionCallOutput callId (message.content.output marshal) :: post ∧
      ∃ name arguments, .functionCall callId name arguments ∈
        (conversation before).flatMap (Message.items marshal)
  instructions : out.instructions =
    if instructionTexts messages = [] then none
    else some ("\n\n".intercalate (instructionTexts messages))

/-- An output for an earlier call names, without the spaces around, the id of an earlier call. -/
def OutputsNamed (messages : List (Message Media)) : Prop :=
  ∀ before message after call, messages = before ++ message :: after → message.IsOutput →
    call ∈ before.flatMap Message.calls → message.toolCallId = call.id →
    ∃ other ∈ before.flatMap Message.calls, other.id = trimSpace call.id

section

variable {messages before after : List (Message Media)} {message caller : Message Media}

theorem role_of_mem_calls {call : ToolCall} (h : call ∈ caller.calls) :
    trimSpace caller.role = "assistant" := by
  by_contra hne
  simp [Message.calls, hne] at h

theorem mem_conversation_of_mem_calls {call : ToolCall} (hmem : caller ∈ messages)
    (h : call ∈ caller.calls) : caller ∈ conversation messages := by
  simp [conversation, Message.IsSystem, hmem, role_of_mem_calls h]

/-- The call items among the items of messages are those of their calls. -/
theorem functionCall_mem_iff {callId : String} :
    (∃ name arguments, .functionCall callId name arguments ∈
        (conversation messages).flatMap (Message.items marshal)) ↔
      ∃ call ∈ messages.flatMap Message.calls, call.id = callId := by
  constructor
  · rintro ⟨name, arguments, hitem⟩
    obtain ⟨caller, hcaller, hitem⟩ := mem_flatMap.mp hitem
    rcases mem_cons.mp hitem with hown | hcall
    · -- the item of a message itself is no call
      unfold Message.item at hown
      split_ifs at hown
    · obtain ⟨call, hcall, heq⟩ := mem_map.mp hcall
      refine ⟨call, mem_flatMap.mpr ⟨caller, (mem_filter.mp hcaller).1, hcall⟩, ?_⟩
      cases heq
      rfl
  · rintro ⟨call, hcall, rfl⟩
    obtain ⟨caller, hcaller, hcall⟩ := mem_flatMap.mp hcall
    refine ⟨trimSpace call.name, call.arguments, mem_flatMap.mpr
      ⟨caller, mem_conversation_of_mem_calls hcaller hcall, ?_⟩⟩
    exact mem_cons_of_mem _ (mem_map_of_mem hcall)

/-- The items around an output. -/
theorem items_split (hsplit : messages = before ++ message :: after) (hout : message.IsOutput) :
    (conversation messages).flatMap (Message.items marshal) =
      (conversation before).flatMap (Message.items marshal) ++
        message.item marshal :: (conversation after).flatMap (Message.items marshal) := by
  have hcalls : message.calls = [] := by
    unfold Message.calls
    obtain hrole | hrole := hout <;> simp [hrole]
  have hthere : conversation messages = conversation before ++ message :: conversation after := by
    rw [hsplit]
    unfold conversation Message.IsSystem
    obtain hrole | hrole := hout <;> simp [hrole]
  have hitems : message.items marshal = [message.item marshal] := by
    rw [Message.items, hcalls, map_nil]
  rw [hthere, flatMap_append, flatMap_cons, hitems, singleton_append]

end

/-- The conversation of an accepted request is preserved exactly if every call has a name, an id
and the type of functions, and every output for an earlier call names one also when its id is
trimmed. -/
theorem conversation_kept_iff {req : ChatRequest Media} {out : ResponsesRequest Media}
    (h : chatCompletionsRequestToResponsesRequest marshal req = .ok out) :
    ConversationKept marshal req.messages out ↔
      (∀ message ∈ req.messages, ∀ call ∈ message.calls, call.Emitted) ∧
        OutputsNamed req.messages := by
  obtain ⟨hconverted, hinstructions⟩ := converted_eq marshal h
  -- every call is emitted exactly if the items are all there
  have hinput : out.input = (conversation req.messages).flatMap (Message.items marshal) ↔
      ∀ message ∈ req.messages, ∀ call ∈ message.calls, call.Emitted := by
    have hlength : ∀ message ∈ conversation req.messages,
        (message.item marshal :: functionCalls message.calls).length ≤
          (message.items marshal).length :=
      fun message _ => Nat.succ_le_succ (length_functionCalls_le message.calls)
    rw [hconverted, flatMap_eq_flatMap_iff hlength]
    simp only [Message.items, cons.injEq, true_and, functionCalls_eq_iff]
    refine ⟨fun hall message hmsg call hcall => ?_,
      fun hall message hmsg => hall message (mem_filter.mp hmsg).1⟩
    exact hall message (mem_conversation_of_mem_calls hmsg hcall) call hcall
  constructor
  · intro hkept
    refine ⟨hinput.mp hkept.input, fun before message after call hsplit hout hcall hid => ?_⟩
    obtain ⟨caller, hcaller, hmem⟩ := mem_flatMap.mp hcall
    have hemitted := hinput.mp hkept.input caller (by simp [hsplit, hcaller]) call hmem
    have hne : call.id ≠ "" := fun hempty => hemitted.1 (by rw [hempty]; rfl)
    obtain ⟨callId, post, hitems, hbefore⟩ :=
      hkept.linked before message after call hsplit hout hcall hne hid
    rw [hkept.input, items_split marshal hsplit hout] at hitems
    have hitem := (cons.inj (append_cancel_left hitems)).1
    unfold Message.item at hitem
    rw [if_pos hout, hid, if_neg hemitted.1] at hitem
    obtain ⟨rfl, -⟩ := InputItem.functionCallOutput.inj hitem
    exact (functionCall_mem_iff marshal).mp hbefore
  · rintro ⟨hemitted, hnamed⟩
    have hall := hinput.mpr hemitted
    refine ⟨hall, fun before message after call hsplit hout hcall _ hid => ?_, hinstructions⟩
    obtain ⟨caller, hcaller, hmem⟩ := mem_flatMap.mp hcall
    have hid' := (hemitted caller (by simp [hsplit, hcaller]) call hmem).1
    have hitem : message.item marshal =
        .functionCallOutput (trimSpace call.id) (message.content.output marshal) := by
      unfold Message.item
      rw [if_pos hout, hid, if_neg hid']
    refine ⟨trimSpace call.id, (conversation after).flatMap (Message.items marshal), ?_,
      (functionCall_mem_iff marshal).mpr (hnamed before message after call hsplit hout hcall hid)⟩
    rw [hall, items_split marshal hsplit hout, hitem]

def weatherRequest (id : String) : ChatRequest Unit where
  model := "m"
  messages :=
    [{ role := "system", content := .string "Be brief." },
      { role := "assistant", toolCalls := [{ id, name := "weather" }] },
      { role := "tool", toolCallId := id, content := .string "sunny" }]

theorem outputsNamed_weatherRequest : OutputsNamed (weatherRequest "c1").messages := by
  intro before message after call hsplit hout hcall _
  -- the only call has its id without spaces
  have hmem : call ∈ (weatherRequest "c1").messages.flatMap Message.calls := by
    rw [hsplit, flatMap_append]
    exact mem_append_left _ hcall
  have hcalls : (weatherRequest "c1").messages.flatMap Message.calls =
      [{ id := "c1", name := "weather" }] := by
    decide +kernel
  rw [hcalls, mem_singleton] at hmem
  exact ⟨call, hcall, by rw [hmem]; decide +kernel⟩

theorem weather_output_linked :
    ∃ out, chatCompletionsRequestToResponsesRequest (fun _ => "") (weatherRequest "c1") = .ok out ∧
      ConversationKept (fun _ => "") (weatherRequest "c1").messages out ∧
      out.input = [.message "assistant" (.string ""), .functionCall "c1" "weather" "",
        .functionCallOutput "c1" "sunny"] := by
  have hkept := (@conversation_kept_iff Unit (fun _ => "") (weatherRequest "c1") _ rfl).mpr
    ⟨by decide +kernel, outputsNamed_weatherRequest⟩
  refine ⟨_, rfl, hkept, hkept.input.trans ?_⟩
  decide +kernel

/-- With a space behind the id the output follows no call of its id. -/
theorem spaced_id_not_linked :
    (chatCompletionsRequestToResponsesRequest (fun _ => "") (weatherRequest "c1 ")).map
        ResponsesRequest.input =
      .ok [.message "assistant" (.string ""), .functionCall "c1 " "weather" "",
        .functionCallOutput "c1" "sunny"] := by
  decide +kernel

end

end NewApi.Requests.ToResponses
