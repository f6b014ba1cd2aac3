import NewApi.Lib.Text
import NewApi.Streams.Formats

/-!
# Claude responses for OpenAI clients

`ResponseClaude2OpenAI` converts a complete message, `StreamResponseClaude2OpenAI` one event of its
stream. A stream sends every block of a message in pieces of any size (`Rendition`), and the client
puts the chunks together (`accumulate`).
-/

namespace NewApi.Streams

open Lib

def claudeStopReasonToOpenAIFinishReason (stopReason : String) : String :=
  match toLower stopReason with
  | "stop_sequence" => "stop"
  | "end_turn" => "stop"
  | "max_tokens" => "length"
  | "tool_use" => "tool_calls"
  | "refusal" => "content_filter"
  | _ => stopReason

section

/-- The chunk at the end of `StreamResponseClaude2OpenAI`: tool calls replace the content. -/
def claudeChunk (model : String) (delta : ChatCompletionsStreamResponseChoiceDelta)
    (tools : List ToolCallResponse) : ChatCompletionsStreamResponse where
  model := model
  choices := [{
    delta := if tools.length > 0 then { delta with content := none, toolCalls := tools }
      else delta }]

/-- The index of a tool call in a chunk: that of its block without the first block. -/
def fcIdx (index : Option Int) : Int :=
  match index with
  | some index => if index - 1 < 0 then 0 else index - 1
  | none => 0

/-- The inner `none` is the nil that is not sent, the outer one the panic at an `input_json_delta`
without a text. -/
def streamResponseClaude2OpenAI (claudeResponse : ClaudeResponse) :
    Option (Option ChatCompletionsStreamResponse) :=
  let model := claudeResponse.model
  let fcIdx := fcIdx claudeResponse.index
  match claudeResponse.type with
  | .messageStart =>
    let delta : ChatCompletionsStreamResponseChoiceDelta :=
      { content := some "", role := "assistant" }
    match claudeResponse.message with
    | some message => some (some { claudeChunk message.model delta [] with id := message.id })
    | none => some (some (claudeChunk model delta []))
  | .contentBlockStart =>
    match claudeResponse.contentBlock with
    | none => some none
    | some block =>
      let delta : ChatCompletionsStreamResponseChoiceDelta :=
        if block.type = .text ∧ block.text ≠ none then { content := block.text } else {}
      let tools : List ToolCallResponse :=
        if block.type = .toolUse then
          [{ index := some fcIdx, id := block.id, type := "function",
             function := { name := block.name } }]
        else []
      some (some (claudeChunk model delta tools))
  | .contentBlockDelta =>
    match claudeResponse.delta with
    | none => some (some (claudeChunk model {} []))
    | some delta =>
      match delta.type with
      | .inputJsonDelta =>
        delta.partialJson.map fun arguments => some (claudeChunk model
          { content := delta.text }
          [{ index := some fcIdx, type := "function", function := { arguments } }])
      | .signatureDelta =>
        some (some (claudeChunk model
          { content := delta.text, reasoningContent := some "\n" } []))
      | .thinkingDelta =>
        some (some (claudeChunk model
          { content := delta.text, reasoningContent := delta.thinking } []))
      | _ => some (some (claudeChunk model { content := delta.text } []))
  | .messageDelta =>
    let finishReason := do
      let delta ← claudeResponse.delta
      let stopReason ← delta.stopReason
      let finishReason := claudeStopReasonToOpenAIFinishReason stopReason
      if finishReason ≠ "null" then some finishReason else none
    some (some { model := model, choices := [{ finishReason }] })
  | _ => some none

/-- `dto.Message`, the fields that a converted response has. -/
structure Message where
  role : String
  content : String
  reasoningContent : Option String := none
  toolCalls : List ToolCallResponse := []
  deriving DecidableEq

/-- `OpenAITextResponse` with its only choice. -/
structure OpenAITextResponse where
  id : String
  model : String
  message : Message
  finishReason : String
  deriving DecidableEq

end

section

structure ToolCall where
  id : String
  name : String
  arguments : String
  deriving DecidableEq

@[ext]
structure Completion where
  text : String
  reasoning : String
  toolCalls : List ToolCall
  deriving DecidableEq

def ToolCallResponse.call (toolCall : ToolCallResponse) : ToolCall :=
  ⟨toolCall.id, toolCall.function.name, toolCall.function.arguments⟩

/-- A further piece of a call: its arguments are appended, an id or a name replaces the old. -/
def ToolCall.extend (call piece : ToolCall) : ToolCall where
  id := if piece.id = "" then call.id else piece.id
  name := if piece.name = "" then call.name else piece.name
  arguments := call.arguments ++ piece.arguments

/-- A client of a stream keeps the calls by their index, in the order of their first pieces. -/
def addPiece (calls : List (Int × ToolCall)) (piece : Int × ToolCall) : List (Int × ToolCall) :=
  match calls with
  | [] => [piece]
  | call :: rest =>
    if call.1 = piece.1 then (call.1, call.2.extend piece.2) :: rest
    else call :: addPiece rest piece

def addChunkCalls (calls : List (Int × ToolCall)) (chunk : ChatCompletionsStreamResponse) :
    List (Int × ToolCall) :=
  (chunk.toolPieces.map fun piece => (piece.1, piece.2.call)).foldl addPiece calls

def accumulate (chunks : List ChatCompletionsStreamResponse) : Completion where
  text := String.join (chunks.map (·.contentText))
  reasoning := String.join (chunks.map (·.reasoningText))
  toolCalls := (chunks.foldl addChunkCalls []).map Prod.snd

def OpenAITextResponse.completion (response : OpenAITextResponse) : Completion where
  text := response.message.content
  reasoning := response.message.reasoningContent.getD ""
  toolCalls := response.message.toolCalls.map (·.call)

def convertEvents : List ClaudeResponse → Option (List ChatCompletionsStreamResponse)
  | [] => some []
  | event :: rest => do
      let chunk ← streamResponseClaude2OpenAI event
      let chunks ← convertEvents rest
      some (chunk.toList ++ chunks)

end

section

inductive ContentBlock where
  | text (words : String)
  | thinking (thought signature : String)
  | toolUse (id name input : String)
  deriving DecidableEq

def ContentBlock.media : ContentBlock → ClaudeMediaMessage
  | .text words => { type := .text, text := some words }
  | .thinking thought signature => { type := .thinking, thinking := some thought, signature }
  | .toolUse id name input => { type := .toolUse, id, name, input }

/-- `content_block_start`. -/
def blockStart (index : Nat) (block : ClaudeMediaMessage) : ClaudeResponse where
  type := .contentBlockStart
  index := some index
  contentBlock := some block

/-- `content_block_delta`. -/
def blockDelta (index : Nat) (delta : ClaudeMediaMessage) : ClaudeResponse where
  type := .contentBlockDelta
  index := some index
  delta := some delta

/-- `content_block_stop`. -/
def blockStop (index : Nat) : ClaudeResponse where
  type := .contentBlockStop
  index := some index

def signatureDeltas (index : Nat) (signature : String) : List ClaudeResponse :=
  if signature = "" then []
  else [blockDelta index { type := .signatureDelta, signature }]

inductive BlockRendition (index : Nat) : ContentBlock → List ClaudeResponse → Prop
  | text (first : String) (pieces : List String) :
      BlockRendition index (.text (first ++ String.join pieces))
        ([blockStart index { type := .text, text := some first }] ++
          pieces.map (fun piece => blockDelta index { type := .textDelta, text := some piece }) ++
          [blockStop index])
  | thinking (pieces : List String) (signature : String) :
      BlockRendition index (.thinking (String.join pieces) signature)
        ([blockStart index { type := .thinking, thinking := some "" }] ++
          pieces.map (fun piece =>
            blockDelta index { type := .thinkingDelta, thinking := some piece }) ++
          signatureDeltas index signature ++ [blockStop index])
  | toolUse (id name : String) (pieces : List String) :
      BlockRendition index (.toolUse id name (String.join pieces))
        ([blockStart index { type := .toolUse, id, name, input := "\x7b\x7d" }] ++
          pieces.map (fun piece =>
            blockDelta index { type := .inputJsonDelta, partialJson := some piece }) ++
          [blockStop index])

/-- The events that send blocks one after the other, numbered from `index`. -/
inductive BlocksRendition : Nat → List ContentBlock → List ClaudeResponse → Prop
  | nil (index : Nat) : BlocksRendition index [] []
  | cons {index : Nat} {block : ContentBlock} {blocks : List ContentBlock}
      {events rest : List ClaudeResponse} (hblock : BlockRendition index block events)
      (hrest : BlocksRendition (index + 1) blocks rest) :
      BlocksRendition index (block :: blocks) (events ++ rest)

/-- `message_start`. -/
def messageStart (id model : String) : ClaudeResponse where
  type := .messageStart
  message := some { type := .message, id, model, role := "assistant" }

/-- `message_delta`. -/
def messageDelta (stopReason : String) : ClaudeResponse where
  type := .messageDelta
  delta := some { stopReason := some stopReason }

/-- `message_stop`. -/
def messageStop : ClaudeResponse where
  type := .messageStop

inductive Rendition (id model stopReason : String) (blocks : List ContentBlock) :
    List ClaudeResponse → Prop
  | intro {events : List ClaudeResponse} (hblocks : BlocksRendition 0 blocks events) :
      Rendition id model stopReason blocks
        ([messageStart id model] ++ events ++ [messageDelta stopReason, messageStop])

def ContentBlock.events (index : Nat) : ContentBlock → List ClaudeResponse
  | .text words =>
    [blockStart index { type := .text, text := some "" },
      blockDelta index { type := .textDelta, text := some words }, blockStop index]
  | .thinking thought signature =>
    [blockStart index { type := .thinking, thinking := some "" },
      blockDelta index { type := .thinkingDelta, thinking := some thought }] ++
      signatureDeltas index signature ++ [blockStop index]
  | .toolUse id name input =>
    [blockStart index { type := .toolUse, id, name, input := "\x7b\x7d" },
      blockDelta index { type := .inputJsonDelta, partialJson := some input }, blockStop index]

def blocksEvents (index : Nat) : List ContentBlock → List ClaudeResponse
  | [] => []
  | block :: rest => block.events index ++ blocksEvents (index + 1) rest

def messageEvents (id model stopReason : String) (blocks : List ContentBlock) :
    List ClaudeResponse :=
  [messageStart id model] ++ blocksEvents 0 blocks ++ [messageDelta stopReason, messageStop]

theorem ContentBlock.rendition_events (blk : ContentBlock) :
    BlockRendition idx blk (blk.events idx) := by
  cases blk with
  | text ws =>
    have h : BlockRendition idx _ _ := .text "" [ws]
    simpa [ContentBlock.events] using h
  | thinking tht sig =>
    have h : BlockRendition idx _ _ := .thinking [tht] sig
    simpa [ContentBlock.events] using h
  | toolUse id nm inp =>
    have h : BlockRendition idx _ _ := .toolUse id nm [inp]
    simpa [ContentBlock.events] using h

theorem blocksRendition_blocksEvents (idx : Nat) :
    BlocksRendition idx bs (blocksEvents idx bs) := by
  induction bs generalizing idx with
  | nil => exact .nil idx
  | cons blk rs ih => exact .cons (blk.rendition_events) (ih (idx + 1))

theorem rendition_messageEvents (id sr : String) :
    Rendition id mdl sr bs (messageEvents id mdl sr bs) :=
  .intro (blocksRendition_blocksEvents 0)

end

end NewApi.Streams
