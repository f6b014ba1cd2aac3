import Mathlib.Logic.Function.Basic
import NewApi.Relay.ApiError
import NewApi.Streams.OpenAIToClaude

/-!
# Responses streams for chat clients

`OaiResponsesToChatStreamHandler`: the first chunk has the role, the one with the finish reason is
sent at `response.completed` or after the last event. Tool calls are sent as long as there is no
text. For a client of Claude every chunk goes through `HandleStreamFormat`.
-/

namespace NewApi.Responses

open Lib Streams Relay
open Billing (Usage InputTokenDetails)

/-! ## Events -/

structure ResponsesOutputContent where
  type : String
  text : String := ""
  deriving DecidableEq

/-- The arguments are what `ArgumentsString` returns. -/
structure ResponsesOutput where
  type : String
  id : String := ""
  role : String := ""
  content : List ResponsesOutputContent := []
  callId : String := ""
  name : String := ""
  arguments : String := ""
  deriving DecidableEq

structure ResponsesUsage where
  inputTokens : Int := 0
  outputTokens : Int := 0
  totalTokens : Int := 0
  inputTokensDetails : Option InputTokenDetails := none
  deriving DecidableEq

structure OpenAIResponsesResponse where
  model : String := ""
  output : List ResponsesOutput := []
  usage : Option ResponsesUsage := none
  error : Option OpenAIError := none

inductive ResponsesEventType where
  | created
  | reasoningSummaryTextDelta
  | reasoningSummaryTextDone
  | outputTextDelta
  | outputItemAdded
  | outputItemDone
  | functionCallArgumentsDelta
  | functionCallArgumentsDone
  | completed
  | error
  | failed
  | other (name : String)
  deriving DecidableEq

structure ResponsesStreamResponse where
  type : ResponsesEventType
  response : Option OpenAIResponsesResponse := none
  delta : String := ""
  item : Option ResponsesOutput := none
  itemID : String := ""

/-- `response.output_text.delta`. -/
def textEvent (delta : String) : ResponsesStreamResponse where
  type := .outputTextDelta
  delta := delta

def ResponsesOutput.canonicalID (item : ResponsesOutput) : String :=
  if trimSpace item.callId = "" then trimSpace item.id else trimSpace item.callId

/-! ## The handler's state -/

inductive ClientFormat where
  | openAI
  | claude
  deriving DecidableEq

/-- What the handler reads of the request. `responseText2Usage` estimates the usage of a text, with
its total. -/
structure HandlerContext where
  format : ClientFormat
  responseId : String
  upstreamModelName : String
  shouldIncludeUsage : Bool
  responseText2Usage : String → Usage × Int
  /-- What `HandleStreamFormat` reads. -/
  stream : StreamContext

/-- The variables of the handler. A map of Go returns the zero value for an absent key; the ids of
`toolCallIndexByID` are listed in the order of their indices. `chunks` are the chunks that were
given to `sendChatChunk`, `events` what a client of Claude got for them. -/
structure HandlerState where
  model : String
  usage : Usage := { promptTokens := 0, completionTokens := 0 }
  totalTokens : Int := 0
  outputText : String := ""
  usageText : String := ""
  sentStart : Bool := false
  sentStop : Bool := false
  sawToolCall : Bool := false
  streamErr : Option NewAPIError := none
  toolCallIDs : List String := []
  toolCallNameByID : String → String := fun _ => ""
  toolCallArgsByID : String → String := fun _ => ""
  toolCallNameSent : String → Bool := fun _ => false
  toolCallCanonicalIDByItemID : String → String := fun _ => ""
  hasSentReasoningSummary : Bool := false
  needsReasoningSummarySeparator : Bool := false
  info : RelayInfo := {}
  chunks : List ChatCompletionsStreamResponse := []
  events : List ClaudeResponse := []

section

variable (ctx : HandlerContext)

/-- What `HandleStreamFormat` sends for a chunk, for a client of Claude. -/
def deliver (chunk : ChatCompletionsStreamResponse) (info : RelayInfo) :
    List ClaudeResponse × RelayInfo :=
  match ctx.format with
  | .openAI => ([], info)
  | .claude => handleStreamFormat ctx.stream chunk info

def sendChatChunk (chunk : ChatCompletionsStreamResponse) (state : HandlerState) : HandlerState :=
  { state with
    chunks := state.chunks ++ [chunk]
    events := state.events ++ (deliver ctx chunk state.info).1
    info := (deliver ctx chunk state.info).2 }

def deltaChunk (model : String) (delta : ChatCompletionsStreamResponseChoiceDelta) :
    ChatCompletionsStreamResponse where
  id := ctx.responseId
  model := model
  choices := [{ delta }]

/-- `sendStartIfNeeded`, with `GenerateStartEmptyResponse`. -/
def sendStartIfNeeded (state : HandlerState) : HandlerState :=
  if state.sentStart then state
  else
    { sendChatChunk ctx (deltaChunk ctx state.model { role := "assistant", content := some "" })
        state with sentStart := true }

theorem sendStartIfNeeded_of_sent (h : state.sentStart = true) :
    sendStartIfNeeded ctx state = state :=
  if_pos h

theorem sendStartIfNeeded_of_not_sent (h : state.sentStart = false) :
    sendStartIfNeeded ctx state =
      { sendChatChunk ctx (deltaChunk ctx state.model { role := "assistant", content := some "" })
          state with sentStart := true } :=
  if_neg (by rw [h]; exact Bool.false_ne_true)

def separated (needsSeparator : Bool) (delta : String) : String :=
  if needsSeparator then
    if startsWith delta "\n\n" then delta
    else if startsWith delta "\n" then "\n" ++ delta
    else "\n\n" ++ delta
  else delta

def sendReasoningSummaryDelta (delta : String) (state : HandlerState) : HandlerState :=
  if delta = "" then state
  else
    let delta := separated state.needsReasoningSummarySeparator delta
    let state := sendStartIfNeeded ctx { state with needsReasoningSummarySeparator := false }
    let state := { state with usageText := state.usageText ++ delta }
    { sendChatChunk ctx (deltaChunk ctx state.model { reasoningContent := some delta }) state with
      hasSentReasoningSummary := true }

/-- `response.output_text.delta`. -/
def sendTextDelta (delta : String) (state : HandlerState) : HandlerState :=
  let state := sendStartIfNeeded ctx state
  if delta = "" then state
  else
    sendChatChunk ctx (deltaChunk ctx state.model { content := some delta })
      { state with outputText := state.outputText ++ delta, usageText := state.usageText ++ delta }

def withID (ids : List String) (callID : String) : List String :=
  if callID ∈ ids then ids else ids ++ [callID]

def HandlerState.namesWith (state : HandlerState) (callID name : String) : String → String :=
  if name ≠ "" then Function.update state.toolCallNameByID callID name
  else state.toolCallNameByID

/-- The name in a piece: it is sent with the first piece that is sent when it is known. -/
def HandlerState.sentName (state : HandlerState) (callID name : String) : String :=
  if state.namesWith callID name callID ≠ "" ∧ state.toolCallNameSent callID = false then
    state.namesWith callID name callID
  else ""

def toolPiece (callID name argsDelta : String) (state : HandlerState) : ToolCallResponse where
  index := some ((withID state.toolCallIDs callID).idxOf callID)
  id := callID
  type := "function"
  function := { name := state.sentName callID name, arguments := argsDelta }

/-- What `sendToolCallDelta` notes of a piece. -/
def noteTool (callID name argsDelta : String) (state : HandlerState) : HandlerState :=
  { state with
    toolCallIDs := withID state.toolCallIDs callID
    toolCallNameByID := state.namesWith callID name
    toolCallNameSent :=
      if state.sentName callID name ≠ "" then Function.update state.toolCallNameSent callID true
      else state.toolCallNameSent
    sawToolCall := true
    usageText := state.usageText ++ state.sentName callID name ++ argsDelta }

/-- The part of `sendToolCallDelta` after its two guards. -/
def sendToolChunk (callID name argsDelta : String) (state : HandlerState) : HandlerState :=
  let state := sendStartIfNeeded ctx state
  let tool := toolPiece callID name argsDelta state
  noteTool callID name argsDelta
    (sendChatChunk ctx (deltaChunk ctx state.model { toolCalls := [tool] }) state)

/-- Nothing is sent for a call without an id, or after some text. -/
def sendToolCallDelta (callID name argsDelta : String) (state : HandlerState) : HandlerState :=
  if callID = "" then state
  else if state.outputText ≠ "" then state
  else sendToolChunk ctx callID name argsDelta state

def HandlerState.finishReason (state : HandlerState) : String :=
  if state.sawToolCall && state.outputText = "" then "tool_calls" else "stop"

/-- `GenerateStopResponse`. -/
def stopChunk (state : HandlerState) : ChatCompletionsStreamResponse where
  id := ctx.responseId
  model := state.model
  choices := [{ finishReason := some state.finishReason }]

/-- The assignment to `ClaudeConvertInfo.Usage`, for a client of Claude. -/
def noteConvertUsage (usage : Usage) (state : HandlerState) : HandlerState :=
  if ctx.format = .claude then
    { state with info := { state.info with
        claudeConvertInfo := state.info.claudeConvertInfo.withUsage (some usage) } }
  else state

/-- The stop chunk, unless it has been sent. -/
def sendStopIfNeeded (usage : Usage) (state : HandlerState) : HandlerState :=
  if state.sentStop then state
  else
    { sendChatChunk ctx (stopChunk ctx state) (noteConvertUsage ctx usage state) with
      sentStop := true }

end

/-! ## One event -/

section

variable (ctx : HandlerContext)

/-- `newArgs[len(prevArgs):]` if the old arguments are the start of the new ones, and otherwise all
the new ones. -/
def argumentsDelta (prevArgs newArgs : String) : String :=
  if startsWith newArgs prevArgs then String.ofList (newArgs.toList.drop prevArgs.length)
  else newArgs

def noteItem (item : ResponsesOutput) (state : HandlerState) : HandlerState :=
  { state with
    toolCallCanonicalIDByItemID :=
      if trimSpace item.id ≠ "" ∧ item.canonicalID ≠ "" then
        Function.update state.toolCallCanonicalIDByItemID (trimSpace item.id) item.canonicalID
      else state.toolCallCanonicalIDByItemID
    toolCallNameByID := state.namesWith item.canonicalID (trimSpace item.name)
    toolCallArgsByID :=
      if item.arguments ≠ "" then
        Function.update state.toolCallArgsByID item.canonicalID item.arguments
      else state.toolCallArgsByID }

def itemDelta (item : ResponsesOutput) (state : HandlerState) : String :=
  if item.arguments = "" then ""
  else argumentsDelta (state.toolCallArgsByID item.canonicalID) item.arguments

/-- `response.output_item.added` and `response.output_item.done`. -/
def handleOutputItem (item : ResponsesOutput) (state : HandlerState) : HandlerState :=
  if item.type ≠ "function_call" then state
  else
    sendToolCallDelta ctx item.canonicalID (trimSpace item.name) (itemDelta item state)
      (noteItem item state)

def HandlerState.callOf (state : HandlerState) (itemID : String) : String :=
  let canonicalID := state.toolCallCanonicalIDByItemID (trimSpace itemID)
  if canonicalID = "" then trimSpace itemID else canonicalID

def noteArguments (callID delta : String) (state : HandlerState) : HandlerState :=
  { state with toolCallArgsByID :=
      Function.update state.toolCallArgsByID callID (state.toolCallArgsByID callID ++ delta) }

/-- `response.function_call_arguments.delta`. -/
def handleArgumentsDelta (itemID delta : String) (state : HandlerState) : HandlerState :=
  if state.callOf itemID = "" then state
  else
    sendToolCallDelta ctx (state.callOf itemID) "" delta
      (noteArguments (state.callOf itemID) delta state)

def HandlerState.noteModel (state : HandlerState) (response : Option OpenAIResponsesResponse) :
    HandlerState :=
  match response with
  | some response => if response.model = "" then state else { state with model := response.model }
  | none => state

def HandlerState.noteUsage (state : HandlerState) (response : Option OpenAIResponsesResponse) :
    HandlerState :=
  match response.bind (·.usage) with
  | none => state
  | some reported =>
    let usage :=
      { state.usage with
        promptTokens :=
          if reported.inputTokens = 0 then state.usage.promptTokens else reported.inputTokens
        completionTokens :=
          if reported.outputTokens = 0 then state.usage.completionTokens
          else reported.outputTokens }
    let details := match reported.inputTokensDetails with
      | none => usage.promptTokensDetails
      | some details =>
        { usage.promptTokensDetails with
          cachedTokens := details.cachedTokens
          imageTokens := details.imageTokens
          audioTokens := details.audioTokens }
    { state with
      usage := { usage with promptTokensDetails := details }
      totalTokens :=
        if reported.totalTokens = 0 then usage.promptTokens + usage.completionTokens
        else reported.totalTokens }

def ResponsesEventType.errorName : ResponsesEventType → String
  | .error => "response.error"
  | _ => "response.failed"

/-- The error of `response.error` and `response.failed`. -/
def streamError (event : ResponsesStreamResponse) : NewAPIError :=
  match event.response.bind (·.error) with
  | some oaiErr =>
    if oaiErr.type ≠ "" then withOpenAIError oaiErr 500
    else ⟨"bad_response", "responses stream error: " ++ event.type.errorName, 500, false⟩
  | none => ⟨"bad_response", "responses stream error: " ++ event.type.errorName, 500, false⟩

def handleEvent (event : ResponsesStreamResponse) (state : HandlerState) : HandlerState :=
  match event.type with
  | .created => state.noteModel event.response
  | .reasoningSummaryTextDelta => sendReasoningSummaryDelta ctx event.delta state
  | .reasoningSummaryTextDone =>
    if state.hasSentReasoningSummary then { state with needsReasoningSummarySeparator := true }
    else state
  | .outputTextDelta => sendTextDelta ctx event.delta state
  | .outputItemAdded | .outputItemDone =>
    match event.item with
    | none => state
    | some item => handleOutputItem ctx item state
  | .functionCallArgumentsDelta => handleArgumentsDelta ctx event.itemID event.delta state
  | .completed =>
    let state := (state.noteModel event.response).noteUsage event.response
    sendStopIfNeeded ctx state.usage (sendStartIfNeeded ctx state)
  | .error | .failed => { state with streamErr := some (streamError event) }
  | .functionCallArgumentsDone | .other _ => state

def handleEvents : List ResponsesStreamResponse → HandlerState → HandlerState
  | [], state => state
  | event :: rest, state =>
    let next := handleEvent ctx event state
    if next.streamErr.isSome then next else handleEvents rest next

end

/-! ## The whole stream -/

inductive OpenAIMessage where
  | chunk (chunk : ChatCompletionsStreamResponse)
  | done

/-- What the handler has sent, by the format of the client, and the error that it returns. The info
of the request is kept for a further attempt. -/
structure HandlerResult where
  chunks : List OpenAIMessage
  events : List ClaudeResponse
  info : RelayInfo
  error : Option NewAPIError

section

variable (ctx : HandlerContext)

/-- `GenerateFinalUsageResponse`, for a client of OpenAI that has asked for it. -/
def usageChunks (usage : Usage) (state : HandlerState) : List ChatCompletionsStreamResponse :=
  if ctx.shouldIncludeUsage then
    [{ id := ctx.responseId, model := state.model, usage := some usage }]
  else []

/-- The usage at the end of the stream: an estimate if none was reported. -/
def HandlerState.finalUsage (state : HandlerState) : Usage :=
  if state.totalTokens = 0 then (ctx.responseText2Usage state.usageText).1 else state.usage

def finishStream (state : HandlerState) : HandlerState :=
  sendStopIfNeeded ctx (state.finalUsage ctx) (sendStartIfNeeded ctx state)

/-- What the handler does after the last event: the chunks that are still due, the usage and
`[DONE]`, unless there was an error. -/
def endStream (state : HandlerState) : HandlerResult :=
  match state.streamErr, ctx.format with
  | some err, .openAI => ⟨state.chunks.map .chunk, [], state.info, some err⟩
  | some err, .claude => ⟨[], state.events, state.info, some err⟩
  | none, .openAI =>
    let final := finishStream ctx state
    ⟨(final.chunks ++ usageChunks ctx (state.finalUsage ctx) final).map .chunk ++ [.done], [],
      final.info, none⟩
  | none, .claude =>
    let final := finishStream ctx state
    ⟨[], final.events, final.info, none⟩

/-- `OaiResponsesToChatStreamHandler`, with the info that earlier attempts have left. -/
def oaiResponsesToChatStreamHandler (info : RelayInfo) (events : List ResponsesStreamResponse) :
    HandlerResult :=
  endStream ctx (handleEvents ctx events { model := ctx.upstreamModelName, info })

end

end NewApi.Responses
