import NewApi.Streams.ClaudeToOpenAI

/-!
# Gemini responses for clients of OpenAI

`relay/channel/gemini/relay-gemini.go`: a candidate becomes the choice with its index. The stream
handler numbers the tool calls of every choice and sends the names of those of the first response
ahead. A client puts the chunks together (`clientChoice`).
-/

namespace NewApi.Gemini

open Lib Streams
open Billing (Usage)

/-- The ids that `common.GetUUID` hands out one after the other. -/
structure Uuids where
  uuid : Nat → String
  injective : Function.Injective uuid

structure GeminiInlineData where
  mimeType : String
  data : String
  deriving DecidableEq

/-- The arguments are represented by their JSON text. -/
structure FunctionCall where
  functionName : String
  arguments : String
  deriving DecidableEq

structure GeminiPartExecutableCode where
  language : String
  code : String
  deriving DecidableEq

/-- Of the result of executed code its output. -/
structure GeminiPart where
  text : String := ""
  thought : Bool := false
  inlineData : Option GeminiInlineData := none
  functionCall : Option FunctionCall := none
  executableCode : Option GeminiPartExecutableCode := none
  codeExecutionResult : Option String := none
  deriving DecidableEq

structure GeminiChatCandidate where
  parts : List GeminiPart := []
  finishReason : Option String := none
  index : Int := 0
  deriving DecidableEq

structure GeminiChatResponse where
  candidates : List GeminiChatCandidate := []
  deriving DecidableEq

/-- `getResponseToolCall` with the next id. -/
def getResponseToolCall (uuids : Uuids) (nextUuid : Nat) (call : FunctionCall) :
    ToolCallResponse where
  id := "call_" ++ uuids.uuid nextUuid
  type := "function"
  function := { name := call.functionName, arguments := call.arguments }

def GeminiInlineData.imgText (inlineData : GeminiInlineData) : String :=
  "![image](data:" ++ inlineData.mimeType ++ ";base64," ++ inlineData.data ++ ")"

def finishReasonOf : String → String
  | "STOP" => "stop"
  | "MAX_TOKENS" => "length"
  | _ => "content_filter"

/-! ## The complete response -/

structure OpenAITextResponseChoice where
  index : Int
  message : Message
  finishReason : String
  deriving DecidableEq

structure CompleteRead where
  texts : List String := []
  toolCalls : List ToolCallResponse := []
  reasoningContent : Option String := none
  hasCall : Bool := false
  nextUuid : Nat

/-- One round of the loop over the parts in `responseGeminiChat2OpenAI`. -/
def CompleteRead.part (uuids : Uuids) (read : CompleteRead) (part : GeminiPart) : CompleteRead :=
  match part.inlineData, part.functionCall with
  | some inlineData, _ =>
    if startsWith inlineData.mimeType "image" then
      { read with texts := read.texts ++ [inlineData.imgText] }
    else
      { read with
        texts := read.texts ++
          ["[media](data:" ++ inlineData.mimeType ++ ";base64," ++ inlineData.data ++ ")"] }
  | none, some call =>
    { read with
      hasCall := true
      toolCalls := read.toolCalls ++ [getResponseToolCall uuids read.nextUuid call]
      nextUuid := read.nextUuid + 1 }
  | none, none =>
    if part.thought then { read with reasoningContent := some part.text }
    else
      match part.executableCode, part.codeExecutionResult with
      | some code, _ =>
        { read with
          texts := read.texts ++ ["```" ++ code.language ++ "\n" ++ code.code ++ "\n```"] }
      | none, some output =>
        { read with texts := read.texts ++ ["```output\n" ++ output ++ "\n```"] }
      | none, none =>
        if part.text ≠ "\n" then { read with texts := read.texts ++ [part.text] } else read

def completeChoices (uuids : Uuids) (nextUuid : Nat) (isToolCall : Bool) :
    List GeminiChatCandidate → List OpenAITextResponseChoice
  | [] => []
  | candidate :: rest =>
    let read := candidate.parts.foldl (CompleteRead.part uuids) { nextUuid }
    let isToolCall := isToolCall || !read.toolCalls.isEmpty
    let finishReason :=
      match candidate.finishReason with
      | some reason => finishReasonOf reason
      | none => if read.hasCall then "tool_calls" else "stop"
    { index := candidate.index
      message :=
        { role := "assistant"
          content := "\n".intercalate read.texts
          reasoningContent := read.reasoningContent
          toolCalls := read.toolCalls }
      finishReason := if isToolCall then "tool_calls" else finishReason } ::
      completeChoices uuids read.nextUuid isToolCall rest

def responseGeminiChat2OpenAI (uuids : Uuids) (response : GeminiChatResponse) :
    List OpenAITextResponseChoice :=
  completeChoices uuids 0 false response.candidates

/-! ## The stream -/

/-- `ChatCompletionsStreamResponseChoice` with its index. -/
structure Choice extends ChatCompletionsStreamResponseChoice where
  index : Int := 0
  deriving DecidableEq

/-- `ChatCompletionsStreamResponse` with choices that have an index. -/
structure Chunk where
  id : String := ""
  model : String := ""
  choices : List Choice := []
  usage : Option Usage := none
  deriving DecidableEq

/-- What the loop over the parts of a candidate of a stream has read. -/
structure StreamRead where
  texts : List String := []
  toolCalls : List ToolCallResponse := []
  isTools : Bool := false
  isThought : Bool := false
  nextUuid : Nat

/-- One round of the loop over the parts in `streamResponseGeminiChat2OpenAI`. -/
def StreamRead.part (uuids : Uuids) (read : StreamRead) (part : GeminiPart) : StreamRead :=
  match part.inlineData, part.functionCall with
  | some inlineData, _ =>
    if startsWith inlineData.mimeType "image" then
      { read with texts := read.texts ++ [inlineData.imgText] }
    else read
  | none, some call =>
    { read with
      isTools := true
      toolCalls := read.toolCalls ++
        [{ getResponseToolCall uuids read.nextUuid call with
            index := some read.toolCalls.length }]
      nextUuid := read.nextUuid + 1 }
  | none, none =>
    if part.thought then { read with isThought := true, texts := read.texts ++ [part.text] }
    else
      match part.executableCode, part.codeExecutionResult with
      | some code, _ =>
        { read with
          texts := read.texts ++ ["```" ++ code.language ++ "\n" ++ code.code ++ "\n```\n"] }
      | none, some output =>
        { read with texts := read.texts ++ ["```output\n" ++ output ++ "\n```\n"] }
      | none, none =>
        if part.text ≠ "\n" then { read with texts := read.texts ++ [part.text] } else read

def GeminiChatCandidate.read (uuids : Uuids) (nextUuid : Nat) (candidate : GeminiChatCandidate) :
    StreamRead :=
  candidate.parts.foldl (StreamRead.part uuids) { nextUuid }

def GeminiChatCandidate.choice (uuids : Uuids) (nextUuid : Nat) (candidate : GeminiChatCandidate) :
    Choice :=
  let read := candidate.read uuids nextUuid
  let text := "\n".intercalate read.texts
  { index := candidate.index
    delta :=
      { content := if read.isThought then none else some text
        reasoningContent := if read.isThought then some text else none
        toolCalls := read.toolCalls }
    finishReason :=
      if read.isTools then some "tool_calls"
      else (candidate.finishReason.filter (· ≠ "STOP")).map finishReasonOf }

/-- The choices that `streamResponseGeminiChat2OpenAI` returns, with the next id. -/
def streamChoices (uuids : Uuids) (nextUuid : Nat) :
    List GeminiChatCandidate → List Choice × Nat
  | [] => ([], nextUuid)
  | candidate :: rest =>
    let (choices, next) := streamChoices uuids (candidate.read uuids nextUuid).nextUuid rest
    (candidate.choice uuids nextUuid :: choices, next)

/-- The flag that `streamResponseGeminiChat2OpenAI` returns. -/
def GeminiChatResponse.isStop (response : GeminiChatResponse) : Bool :=
  response.candidates.any fun candidate => candidate.finishReason = some "STOP"

/-- Only the first choice is looked at. -/
def Chunk.isToolCall (chunk : Chunk) : Bool :=
  match chunk.choices with
  | [] => false
  | choice :: _ => !choice.delta.toolCalls.isEmpty

def Chunk.isFinished (chunk : Chunk) : Bool :=
  match chunk.choices with
  | [] => false
  | choice :: _ => choice.finishReason.getD "" ≠ ""

def Choice.mapToolCalls (f : ToolCallResponse → ToolCallResponse) (choice : Choice) : Choice :=
  { choice with delta := { choice.delta with toolCalls := choice.delta.toolCalls.map f } }

/-- A tool call of which only the index and the arguments are left. -/
def clearToolCall (toolCall : ToolCallResponse) : ToolCallResponse :=
  { toolCall with id := "", type := "", function := { toolCall.function with name := "" } }

/-- The tool calls of all choices are cleared if the first choice has some. -/
def Chunk.clearToolCalls (chunk : Chunk) : Chunk :=
  if chunk.isToolCall then
    { chunk with choices := chunk.choices.map (Choice.mapToolCalls clearToolCall) }
  else chunk

/-- The variables of `GeminiChatStreamHandler`. The two maps of indices are represented by the ids
of the tool calls of every choice: the index of an id is its position, the next index is their
number. -/
structure HandlerState where
  sendResponseCount : Nat := 0
  finishReason : String := "stop"
  toolCallIDs : Int → List String := fun _ => []
  nextUuid : Nat := 0
  sent : List Chunk := []

def assignIndex (ids : List String) (tool : ToolCallResponse) : List String × ToolCallResponse :=
  if tool.id = "" then (ids, tool)
  else if tool.id ∈ ids then (ids, { tool with index := some (ids.idxOf tool.id) })
  else (ids ++ [tool.id], { tool with index := some ids.length })

def assignIndices (ids : List String) :
    List ToolCallResponse → List String × List ToolCallResponse
  | [] => (ids, [])
  | tool :: rest =>
    let (ids, tool) := assignIndex ids tool
    let (ids, rest) := assignIndices ids rest
    (ids, tool :: rest)

def assignChoices (ids : Int → List String) : List Choice → (Int → List String) × List Choice
  | [] => (ids, [])
  | choice :: rest =>
    let (choiceIDs, toolCalls) := assignIndices (ids choice.index) choice.delta.toolCalls
    let (ids, rest) := assignChoices (Function.update ids choice.index choiceIDs) rest
    (ids, { choice with delta := { choice.delta with toolCalls } } :: rest)

structure HandlerInfo where
  id : String
  upstreamModelName : String
  shouldIncludeUsage : Bool

def HandlerState.handleStream (state : HandlerState) (chunk : Chunk) : HandlerState :=
  { state with
    sendResponseCount := state.sendResponseCount + 1
    sent := state.sent ++ [chunk] }

/-- `GenerateStartEmptyResponse` with tool calls. -/
def generateStartEmptyResponse (info : HandlerInfo) (toolCalls : List ToolCallResponse) :
    Chunk where
  id := info.id
  model := info.upstreamModelName
  choices := [{ delta := { role := "assistant", content := some "", toolCalls } }]

def generateStopResponse (info : HandlerInfo) (finishReason : String) : Chunk where
  id := info.id
  model := info.upstreamModelName
  choices := [{ finishReason := some finishReason }]

def HandlerState.sendFirst (info : HandlerInfo) (state : HandlerState) (response : Chunk) :
    HandlerState × Chunk :=
  match response.choices with
  | choice :: _ =>
    if choice.delta.toolCalls.isEmpty then
      (state.handleStream (generateStartEmptyResponse info []), response)
    else
      let copiedToolCalls := choice.delta.toolCalls.map fun toolCall =>
        { toolCall with function := { toolCall.function with arguments := "" } }
      let cleared := response.clearToolCalls
      ({ state with finishReason := "tool_calls" }.handleStream
          (generateStartEmptyResponse info copiedToolCalls),
        if cleared.isFinished then
          { cleared with
            choices := cleared.choices.modifyHead fun choice =>
              { choice with finishReason := none } }
        else cleared)
  | [] => (state.handleStream (generateStartEmptyResponse info []), response)

/-- The callback of `GeminiChatStreamHandler` for one response of the stream. -/
def HandlerState.receive (uuids : Uuids) (info : HandlerInfo) (state : HandlerState)
    (geminiResponse : GeminiChatResponse) : HandlerState :=
  let (converted, nextUuid) := streamChoices uuids state.nextUuid geminiResponse.candidates
  let (toolCallIDs, choices) := assignChoices state.toolCallIDs converted
  let state := { state with nextUuid, toolCallIDs }
  let response : Chunk := { id := info.id, model := info.upstreamModelName, choices }
  let (state, response) :=
    if state.sendResponseCount = 0 then state.sendFirst info response else (state, response)
  let state := state.handleStream response
  if geminiResponse.isStop then
    state.handleStream (generateStopResponse info state.finishReason)
  else state

/-- The chunks that `GeminiChatStreamHandler` sends to a client of OpenAI for the responses of a
stream. The last one has the usage, if the client asked for it. -/
def geminiChatStreamHandler (uuids : Uuids) (info : HandlerInfo) (usage : Usage)
    (responses : List GeminiChatResponse) : List Chunk :=
  (responses.foldl (HandlerState.receive uuids info) {}).sent ++
    if info.shouldIncludeUsage then
      [{ id := info.id, model := info.upstreamModelName, usage := some usage }]
    else []

/-! ## The client -/

def deltasOf (index : Int) (chunks : List Chunk) : List ChatCompletionsStreamResponseChoiceDelta :=
  ((chunks.flatMap (·.choices)).filter (·.index = index)).map (·.delta)

def clientChoice (index : Int) (chunks : List Chunk) : Completion where
  text := String.join ((deltasOf index chunks).map (·.getContentString))
  reasoning := String.join ((deltasOf index chunks).map (·.getReasoningContent))
  toolCalls :=
    ((((deltasOf index chunks).flatMap (·.toolPieces)).map fun piece =>
      (piece.1, piece.2.call)).foldl addPiece []).map Prod.snd

def OpenAITextResponseChoice.completion (choice : OpenAITextResponseChoice) : Completion where
  text := choice.message.content
  reasoning := choice.message.reasoningContent.getD ""
  toolCalls := choice.message.toolCalls.map (·.call)

end NewApi.Gemini
