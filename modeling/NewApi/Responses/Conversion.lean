import NewApi.Responses.Handler
import NewApi.Streams.ClaudeToOpenAI

/-!
# Complete Responses responses, and their streams

A complete response is converted to its text, or to its function calls if there is none. `Rendition`
relates a response to the events that stream it.
-/

namespace NewApi.Responses

open Lib Streams

/-! ## The conversion of a complete response -/

/-- The texts that `ExtractOutputTextFromResponses` prefers: those of the assistant. -/
def ResponsesOutput.assistantTexts (out : ResponsesOutput) : List String :=
  if out.type ≠ "message" then []
  else if out.role ≠ "" ∧ out.role ≠ "assistant" then []
  else (out.content.filter (·.type = "output_text")).map (·.text)

def extractOutputTextFromResponses (output : List ResponsesOutput) : String :=
  let preferred := String.join (output.flatMap (·.assistantTexts))
  if preferred ≠ "" then preferred
  else String.join (output.flatMap fun out => out.content.map (·.text))

def ResponsesOutput.toolCall? (out : ResponsesOutput) : Option ToolCallResponse :=
  if out.type ≠ "function_call" then none
  else if trimSpace out.name = "" then none
  else
    some
      { id := out.canonicalID, type := "function"
        function := { name := trimSpace out.name, arguments := out.arguments } }

def responsesResponseToChatCompletionsResponse (resp : OpenAIResponsesResponse) (id : String) :
    OpenAITextResponse :=
  let text := extractOutputTextFromResponses resp.output
  let toolCalls := if text = "" then resp.output.filterMap (·.toolCall?) else []
  { id
    model := resp.model
    finishReason := if toolCalls = [] then "stop" else "tool_calls"
    message :=
      { role := "assistant"
        content := if toolCalls = [] then text else ""
        toolCalls } }

/-! ## The events of a response -/

inductive PartRendition : ResponsesOutputContent → List ResponsesStreamResponse → Prop
  | text (pieces : List String) :
      PartRendition ⟨"output_text", String.join pieces⟩ (pieces.map textEvent)
  | other (part : ResponsesOutputContent) (htype : part.type ≠ "output_text") (name : String)
      (pieces : List String) :
      PartRendition part (pieces.map fun piece => { type := .other name, delta := piece })

/-- The events of the parts of a message, one after the other, with other events such as
`response.content_part.added` between them. -/
inductive PartsRendition : List ResponsesOutputContent → List ResponsesStreamResponse → Prop
  | nil : PartsRendition [] []
  | skip (name : String) {parts : List ResponsesOutputContent}
      {rest : List ResponsesStreamResponse} (hrest : PartsRendition parts rest) :
      PartsRendition parts ({ type := .other name } :: rest)
  | cons {part : ResponsesOutputContent} {parts : List ResponsesOutputContent}
      {events rest : List ResponsesStreamResponse} (hpart : PartRendition part events)
      (hrest : PartsRendition parts rest) : PartsRendition (part :: parts) (events ++ rest)

/-- `response.output_item.added`. -/
def itemAdded (item : ResponsesOutput) : ResponsesStreamResponse where
  type := .outputItemAdded
  item := some item

/-- `response.output_item.done`. -/
def itemDone (item : ResponsesOutput) : ResponsesStreamResponse where
  type := .outputItemDone
  item := some item

/-- `response.function_call_arguments.delta`. -/
def argumentsEvent (itemID delta : String) : ResponsesStreamResponse where
  type := .functionCallArgumentsDelta
  itemID := itemID
  delta := delta

/-- `response.function_call_arguments.done`. -/
def argumentsDone (itemID : String) : ResponsesStreamResponse where
  type := .functionCallArgumentsDone
  itemID := itemID

inductive ItemRendition : ResponsesOutput → List ResponsesStreamResponse → Prop
  | message (item : ResponsesOutput) (htype : item.type = "message")
      {events : List ResponsesStreamResponse} (hparts : PartsRendition item.content events) :
      ItemRendition item ([itemAdded { item with content := [] }] ++ events ++ [itemDone item])
  | call (item : ResponsesOutput) (htype : item.type = "function_call") (pieces : List String)
      (hpieces : String.join pieces = item.arguments) :
      ItemRendition item
        ([itemAdded { item with arguments := "" }] ++ pieces.map (argumentsEvent item.id) ++
          [argumentsDone item.id, itemDone item])

/-- The events of items, one after the other, with other events such as `response.in_progress`
between them. -/
inductive ItemsRendition : List ResponsesOutput → List ResponsesStreamResponse → Prop
  | nil : ItemsRendition [] []
  | skip (name : String) {items : List ResponsesOutput} {rest : List ResponsesStreamResponse}
      (hrest : ItemsRendition items rest) :
      ItemsRendition items ({ type := .other name } :: rest)
  | cons {item : ResponsesOutput} {items : List ResponsesOutput}
      {events rest : List ResponsesStreamResponse} (hitem : ItemRendition item events)
      (hrest : ItemsRendition items rest) : ItemsRendition (item :: items) (events ++ rest)

inductive Rendition (response : OpenAIResponsesResponse) : List ResponsesStreamResponse → Prop
  | intro {events : List ResponsesStreamResponse} (hitems : ItemsRendition response.output events) :
      Rendition response
        ([{ type := .created, response := some { response with output := [] } }] ++ events ++
          [{ type := .completed, response := some response }])

/-! ## What the client has in the end -/

def clientChunks (messages : List OpenAIMessage) : List ChatCompletionsStreamResponse :=
  messages.filterMap fun
    | .chunk chunk => some chunk
    | .done => none

def finishReasonOf (chunks : List ChatCompletionsStreamResponse) : Option String :=
  (chunks.filterMap fun chunk => chunk.choices.head?.bind (·.finished?)).getLast?

def SameCompletion (chunks : List ChatCompletionsStreamResponse) (complete : OpenAITextResponse) :
    Prop :=
  (accumulate chunks).text = complete.completion.text ∧
    (accumulate chunks).toolCalls = complete.completion.toolCalls ∧
    finishReasonOf chunks = some complete.finishReason

/-! ## What the stream makes of the items -/

structure FunctionCall where
  id : String
  hasItemID : Bool
  name : String
  arguments : String
  deriving DecidableEq

def ResponsesOutput.call? (item : ResponsesOutput) : Option FunctionCall :=
  if item.type = "function_call" then
    some ⟨item.canonicalID, trimSpace item.id ≠ "", trimSpace item.name, item.arguments⟩
  else none

/-- The text that the stream of an item sends, whatever its role. -/
def ResponsesOutput.streamedText (item : ResponsesOutput) : String :=
  if item.type = "message" then
    String.join ((item.content.filter (·.type = "output_text")).map (·.text))
  else ""

def streamedTextOf (items : List ResponsesOutput) : String :=
  String.join (items.map (·.streamedText))

/-- What has been sent for the calls with one id: the first name, and the arguments. `known` are the
arguments that the handler has noted last. -/
structure Progress where
  name : String := ""
  known : String := ""
  sent : String := ""
  deriving DecidableEq

def Progress.add (progress : Progress) (call : FunctionCall) : Progress where
  name := if progress.name = "" then call.name else progress.name
  known := if call.arguments = "" then progress.known else call.arguments
  sent := progress.sent ++ (if call.hasItemID then call.arguments else "") ++
    if call.arguments = "" then ""
    else argumentsDelta (if call.hasItemID then progress.known ++ call.arguments
      else progress.known) call.arguments

def progressOf (calls : List FunctionCall) (id : String) : Progress :=
  (calls.filter (·.id = id)).foldl Progress.add {}

def idsOf (calls : List FunctionCall) : List String :=
  calls.foldl (fun ids call => withID ids call.id) []

/-- The calls that the stream sends: those with an id, up to the first text. -/
def sentCalls : List ResponsesOutput → List FunctionCall
  | [] => []
  | item :: rest =>
    if item.streamedText ≠ "" then []
    else (item.call?.filter (·.id ≠ "")).toList ++ sentCalls rest

/-- The calls that the complete response has, if it has no text: those with a name. -/
def namedCalls (items : List ResponsesOutput) : List FunctionCall :=
  (items.filterMap (·.call?)).filter (·.name ≠ "")

/-- The stream and the complete response have the same calls: the calls with an id are for the
named ones in their order, and the arguments that are sent for the id of a named call are its
own. -/
structure CallsAgree (items : List ResponsesOutput) : Prop where
  ids : idsOf (sentCalls items) = (namedCalls items).map (·.id)
  arguments : ∀ call ∈ namedCalls items,
    (progressOf (sentCalls items) call.id).sent = call.arguments

end NewApi.Responses
