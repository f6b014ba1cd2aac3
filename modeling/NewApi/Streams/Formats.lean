import Mathlib.Data.List.Induction
import NewApi.Billing.TokenParams

/-!
# Messages of the two stream formats

The records that the converters between OpenAI and Claude read and write. A nil pointer is `none`, a
field that JSON leaves out has its zero value.
-/

namespace NewApi.Streams

open Billing (Usage)

structure FunctionResponse where
  name : String := ""
  arguments : String := ""
  deriving DecidableEq

structure ToolCallResponse where
  index : Option Int := none
  id : String := ""
  type : String := ""
  function : FunctionResponse := {}
  deriving DecidableEq

structure ChatCompletionsStreamResponseChoiceDelta where
  content : Option String := none
  reasoningContent : Option String := none
  reasoning : Option String := none
  role : String := ""
  toolCalls : List ToolCallResponse := []
  deriving DecidableEq

def ChatCompletionsStreamResponseChoiceDelta.getContentString
    (delta : ChatCompletionsStreamResponseChoiceDelta) : String :=
  delta.content.getD ""

/-- The field `reasoning` is read only if there is no `reasoning_content`. -/
def ChatCompletionsStreamResponseChoiceDelta.getReasoningContent
    (delta : ChatCompletionsStreamResponseChoiceDelta) : String :=
  match delta.reasoningContent, delta.reasoning with
  | some reasoningContent, _ => reasoningContent
  | none, some reasoning => reasoning
  | none, none => ""

def ChatCompletionsStreamResponseChoiceDelta.toolPieces
    (delta : ChatCompletionsStreamResponseChoiceDelta) : List (Int × ToolCallResponse) :=
  delta.toolCalls.zipIdx.map fun (toolCall, i) => (toolCall.index.getD i, toolCall)

structure ChatCompletionsStreamResponseChoice where
  delta : ChatCompletionsStreamResponseChoiceDelta := {}
  finishReason : Option String := none
  deriving DecidableEq

/-- `ChatCompletionsStreamResponse`, one chunk of a streamed chat completion. -/
structure ChatCompletionsStreamResponse where
  id : String := ""
  model : String := ""
  choices : List ChatCompletionsStreamResponseChoice := []
  usage : Option Usage := none
  deriving DecidableEq

namespace ChatCompletionsStreamResponse

def contentText (chunk : ChatCompletionsStreamResponse) : String :=
  String.join (chunk.choices.map (·.delta.getContentString))

def reasoningText (chunk : ChatCompletionsStreamResponse) : String :=
  String.join (chunk.choices.map (·.delta.getReasoningContent))

def toolPieces (chunk : ChatCompletionsStreamResponse) : List (Int × ToolCallResponse) :=
  chunk.choices.flatMap (·.delta.toolPieces)

end ChatCompletionsStreamResponse

/-- The variables of the callback of `OaiStreamHandler`: what was relayed, and the two chunks that
were read last. -/
structure OaiStream (Relayed Chunk : Type) where
  relayed : Relayed
  lastStreamData : Option Chunk := none
  secondLastStreamData : Option Chunk := none

/-- The callback for a chunk: `HandleStreamFormat` relays the chunk before, and the new one is held
back. -/
def OaiStream.receive {Relayed Chunk : Type} (handleStreamFormat : Relayed → Chunk → Relayed)
    (stream : OaiStream Relayed Chunk) (data : Chunk) : OaiStream Relayed Chunk where
  relayed := stream.lastStreamData.elim stream.relayed (handleStreamFormat stream.relayed)
  lastStreamData := some data
  secondLastStreamData := stream.lastStreamData

/-- At the end all chunks but the last have been relayed. -/
theorem OaiStream.foldl_receive_concat {Relayed Chunk : Type}
    (handleStreamFormat : Relayed → Chunk → Relayed) (start : Relayed) (chunks : List Chunk)
    (last : Chunk) :
    (chunks ++ [last]).foldl (receive handleStreamFormat) { relayed := start } =
      ⟨chunks.foldl handleStreamFormat start, some last, chunks.getLast?⟩ := by
  induction chunks using List.reverseRecOn generalizing last with
  | nil => rfl
  | append_singleton chunks previous ih =>
    rw [List.foldl_append, ih, List.foldl_append, List.getLast?_concat]
    rfl

/-- The last field holds the 5 minute and the 1 hour tokens. -/
structure ClaudeUsage where
  inputTokens : Int := 0
  outputTokens : Int := 0
  cacheCreationInputTokens : Int := 0
  cacheReadInputTokens : Int := 0
  cacheCreation : Option (Int × Int) := none
  deriving DecidableEq

/-- `ClaudeMediaMessage.Type`. -/
inductive MediaType where
  | message
  | text
  | thinking
  | toolUse
  | textDelta
  | thinkingDelta
  | inputJsonDelta
  | signatureDelta
  | other (name : String)
  deriving DecidableEq

/-- The input of a tool is represented by its JSON text. -/
structure ClaudeMediaMessage where
  type : MediaType := .other ""
  text : Option String := none
  model : String := ""
  usage : Option ClaudeUsage := none
  stopReason : Option String := none
  partialJson : Option String := none
  role : String := ""
  thinking : Option String := none
  signature : String := ""
  id : String := ""
  name : String := ""
  input : String := "null"
  deriving DecidableEq

def ClaudeMediaMessage.getText (message : ClaudeMediaMessage) : String :=
  message.text.getD ""

/-- `ClaudeResponse.Type`. -/
inductive EventType where
  | messageStart
  | contentBlockStart
  | contentBlockDelta
  | contentBlockStop
  | messageDelta
  | messageStop
  | other (name : String)
  deriving DecidableEq

/-- `ClaudeResponse`, a complete message or one event of a stream. -/
structure ClaudeResponse where
  type : EventType
  id : String := ""
  content : List ClaudeMediaMessage := []
  stopReason : String := ""
  model : String := ""
  usage : Option ClaudeUsage := none
  index : Option Int := none
  contentBlock : Option ClaudeMediaMessage := none
  delta : Option ClaudeMediaMessage := none
  message : Option ClaudeMediaMessage := none
  deriving DecidableEq

end NewApi.Streams
