import NewApi.Lib.Text
import NewApi.Streams.Formats

/-!
# OpenAI streams for Claude clients

`StreamResponseOpenAI2Claude` converts chunks to events and remembers in `ClaudeConvertInfo` which
block is open. `OaiStreamHandler` passes on a chunk when the next one arrives; the last one is left
to `HandleFinalResponse`, which converts it without counting it.
-/

namespace NewApi.Streams

open Lib List ChatCompletionsStreamResponse
open Billing (Usage normalizeCacheCreationSplit)

/-- `OpenAIFinishReasonToClaudeStopReason`, which is `stopReasonOpenAI2Claude`. -/
def stopReasonOpenAI2Claude (finishReason : String) : String :=
  match toLower finishReason with
  | "stop" => "end_turn"
  | "stop_sequence" => "stop_sequence"
  | "length" => "max_tokens"
  | "max_tokens" => "max_tokens"
  | "content_filter" => "refusal"
  | "tool_calls" => "tool_use"
  | _ => finishReason

def buildClaudeUsageFromOpenAIUsage (oaiUsage : Usage) : ClaudeUsage :=
  let (cacheCreation5m, cacheCreation1h) := normalizeCacheCreationSplit
    oaiUsage.promptTokensDetails.cachedCreationTokens oaiUsage.claudeCacheCreation5mTokens
    oaiUsage.claudeCacheCreation1hTokens
  { inputTokens := oaiUsage.promptTokens
    outputTokens := oaiUsage.completionTokens
    cacheCreationInputTokens := oaiUsage.promptTokensDetails.cachedCreationTokens
    cacheReadInputTokens := oaiUsage.promptTokensDetails.cachedTokens
    cacheCreation :=
      if cacheCreation5m > 0 ∨ cacheCreation1h > 0 then some (cacheCreation5m, cacheCreation1h)
      else none }

section

/-- `message_start`, with the estimated prompt tokens. -/
def startMessage (chunk : ChatCompletionsStreamResponse) (estimatePromptTokens : Int) :
    ClaudeResponse where
  type := .messageStart
  message := some {
    id := chunk.id, model := chunk.model, type := .message, role := "assistant"
    usage := some { inputTokens := estimatePromptTokens, outputTokens := 0 } }

/-- `content_block_start`. -/
def startBlock (index : Int) (block : ClaudeMediaMessage) : ClaudeResponse where
  type := .contentBlockStart
  index := some index
  contentBlock := some block

/-- `content_block_delta`. -/
def deltaBlock (index : Int) (delta : ClaudeMediaMessage) : ClaudeResponse where
  type := .contentBlockDelta
  index := some index
  delta := some delta

def generateStopBlock (index : Int) : ClaudeResponse where
  type := .contentBlockStop
  index := some index

/-- `message_delta`. -/
def stopReasonDelta (usage : Usage) (stopReason : String) : ClaudeResponse where
  type := .messageDelta
  usage := some (buildClaudeUsageFromOpenAIUsage usage)
  delta := some { stopReason := some stopReason }

/-- `message_stop`. -/
def stopMessage : ClaudeResponse where
  type := .messageStop

def toolUseBlock (toolCall : ToolCallResponse) : ClaudeMediaMessage where
  id := toolCall.id
  type := .toolUse
  name := toolCall.function.name
  input := "\x7b\x7d"

def inputJsonDelta (toolCall : ToolCallResponse) : ClaudeMediaMessage where
  type := .inputJsonDelta
  partialJson := some toolCall.function.arguments

def thinkingBlock : ClaudeMediaMessage where
  type := .thinking
  thinking := some ""

def thinkingDelta (reasoning : String) : ClaudeMediaMessage where
  type := .thinkingDelta
  thinking := some reasoning

def textBlock : ClaudeMediaMessage where
  type := .text
  text := some ""

def textDelta (content : String) : ClaudeMediaMessage where
  type := .textDelta
  text := some content

end

/-- `LastMessagesType`. -/
inductive LastMessageType where
  | none
  | text
  | tools
  | thinking
  deriving DecidableEq

structure ClaudeConvertInfo where
  lastMessagesType : LastMessageType := .none
  index : Int := 0
  usage : Option Usage := none
  finishReason : String := ""
  done : Bool := false
  toolCallBaseIndex : Int := 0
  toolCallMaxIndexOffset : Int := 0
  deriving DecidableEq

/-- The assignment to `ClaudeConvertInfo.Usage`. -/
def ClaudeConvertInfo.withUsage (info : ClaudeConvertInfo) (usage : Option Usage) :
    ClaudeConvertInfo :=
  { info with usage }

/-- A part of the conversion: the events it appends and the info it leaves. -/
abbrev Emit := ClaudeConvertInfo → List ClaudeResponse × ClaudeConvertInfo

def Emit.andThen (first second : Emit) : Emit := fun info =>
  let (events, info) := first info
  let (later, info) := second info
  (events ++ later, info)

theorem Emit.andThen_events (first second : Emit) :
    (first.andThen second inf).1 = (first inf).1 ++ (second (first inf).2).1 := rfl

theorem Emit.andThen_info (first second : Emit) :
    (first.andThen second inf).2 = (second (first inf).2).2 := rfl

section

/-- A text or thinking block, or all blocks of parallel tool calls. -/
def stopOpenBlocks (info : ClaudeConvertInfo) : List ClaudeResponse :=
  match info.lastMessagesType with
  | .text | .thinking => [generateStopBlock info.index]
  | .tools =>
    (List.range (info.toolCallMaxIndexOffset + 1).toNat).map fun (offset : Nat) =>
      generateStopBlock (info.toolCallBaseIndex + offset)
  | .none => []

def stopOpenBlocksAndAdvance : Emit := fun info =>
  match info.lastMessagesType with
  | .none => ([], info)
  | .tools =>
    (stopOpenBlocks info,
      { info with
        index := info.toolCallBaseIndex + info.toolCallMaxIndexOffset + 1
        toolCallBaseIndex := 0
        toolCallMaxIndexOffset := 0
        lastMessagesType := .none })
  | _ => (stopOpenBlocks info, { info with index := info.index + 1, lastMessagesType := .none })

/-- Stop the open blocks unless the last message has this type. -/
def advanceUnless (kind : LastMessageType) : Emit := fun info =>
  if info.lastMessagesType ≠ kind then stopOpenBlocksAndAdvance info else ([], info)

/-- The end of a message: the stop reason is sent only with a usage. -/
def endMessage (chunk : ChatCompletionsStreamResponse) : Emit := fun info =>
  let oaiUsage := chunk.usage <|> info.usage
  (stopOpenBlocks info ++
    (match oaiUsage with
      | some usage => [stopReasonDelta usage (stopReasonOpenAI2Claude info.finishReason)]
      | none => []) ++ [stopMessage],
    { info with done := true })

def ChatCompletionsStreamResponseChoice.finished? (choice : ChatCompletionsStreamResponseChoice) :
    Option String :=
  choice.finishReason.filter (· ≠ "")

/-- The first chunk starts a block for its first tool call, whatever its index. -/
def firstToolCall (chunk : ChatCompletionsStreamResponse) : Emit := fun info =>
  match chunk.choices with
  | [] => ([], info)
  | choice :: _ =>
    match choice.delta.toolCalls with
    | [] => ([], info)
    | toolCall :: _ =>
      -- the other calls of the chunk are not looked at
      ([startBlock 0 (toolUseBlock toolCall)] ++
        (if toolCall.function.arguments ≠ "" then [deltaBlock 0 (inputJsonDelta toolCall)]
          else []),
        { info with
          lastMessagesType := .tools
          toolCallBaseIndex := 0
          toolCallMaxIndexOffset := 0 })

def openBlock (kind : LastMessageType) (block delta : ClaudeMediaMessage) : Emit := fun info =>
  ([startBlock info.index block, deltaBlock info.index delta],
    { info with lastMessagesType := kind })

def firstContent (chunk : ChatCompletionsStreamResponse) : Emit := fun info =>
  match chunk.choices with
  | [] => ([], info)
  | choice :: _ =>
    let reasoning := choice.delta.getReasoningContent
    let content := choice.delta.getContentString
    if reasoning ≠ "" then
      (advanceUnless .thinking).andThen
        (openBlock .thinking thinkingBlock (thinkingDelta reasoning)) info
    else if content ≠ "" then
      (advanceUnless .text).andThen (openBlock .text textBlock (textDelta content)) info
    else ([], info)

def firstFinish (chunk : ChatCompletionsStreamResponse) : Emit := fun info =>
  match chunk.choices with
  | [] => ([], info)
  | choice :: _ =>
    match choice.finished? with
    | some finishReason => endMessage chunk { info with finishReason }
    | none => ([], info)

def convertFirst (estimatePromptTokens : Int) (chunk : ChatCompletionsStreamResponse) : Emit :=
  Emit.andThen (fun info => ([startMessage chunk estimatePromptTokens], info))
    ((firstToolCall chunk).andThen ((firstContent chunk).andThen (firstFinish chunk)))

/-- The events of one tool call: only a piece with a name starts a block. -/
def toolCallEvents (index : Int) (toolCall : ToolCallResponse) : List ClaudeResponse :=
  (if toolCall.function.name ≠ "" then [startBlock index (toolUseBlock toolCall)] else []) ++
    (if toolCall.function.arguments.length > 0 then [deltaBlock index (inputJsonDelta toolCall)]
      else [])

/-- The loop over the tool calls of a chunk; a call without an index has that of its position. -/
def toolCallLoop (base : Int) : List (ToolCallResponse × Nat) → Int → List ClaudeResponse × Int
  | [], maxOffset => ([], maxOffset)
  | (toolCall, i) :: rest, maxOffset =>
    let offset := toolCall.index.getD i
    let maxOffset := if offset > maxOffset then offset else maxOffset
    let (later, maxOffset) := toolCallLoop base rest maxOffset
    (toolCallEvents (base + offset) toolCall ++ later, maxOffset)

def enterTools : Emit := fun info =>
  if info.lastMessagesType ≠ .tools then
    let (events, info) := stopOpenBlocksAndAdvance info
    (events, { info with toolCallBaseIndex := info.index, toolCallMaxIndexOffset := 0 })
  else ([], info)

def relayToolCalls (toolCalls : List ToolCallResponse) : Emit :=
  enterTools.andThen fun info =>
    let base := info.toolCallBaseIndex
    let (events, maxOffset) := toolCallLoop base toolCalls.zipIdx info.toolCallMaxIndexOffset
    (events,
      { info with
        lastMessagesType := .tools
        toolCallMaxIndexOffset := maxOffset
        index := base + maxOffset })

def relayPiece (kind : LastMessageType) (block delta : ClaudeMediaMessage) : Emit := fun info =>
  let (events, info) :=
    if info.lastMessagesType ≠ kind then
      let (events, info) := stopOpenBlocksAndAdvance info
      (events ++ [startBlock info.index block], info)
    else ([], info)
  (events ++ [deltaBlock info.index delta], { info with lastMessagesType := kind })

/-- The content of a later chunk: tool calls go before reasoning, and that before text. -/
def relayDelta (delta : ChatCompletionsStreamResponseChoiceDelta) : Emit :=
  if delta.toolCalls.length > 0 then relayToolCalls delta.toolCalls
  else if delta.getReasoningContent ≠ "" then
    relayPiece .thinking thinkingBlock (thinkingDelta delta.getReasoningContent)
  else if delta.getContentString ≠ "" then
    relayPiece .text textBlock (textDelta delta.getContentString)
  else fun info => ([], info)

def endWithUsage (usage : Usage) : Emit := fun info =>
  let stopReason := stopReasonOpenAI2Claude info.finishReason
  (stopOpenBlocks info ++
    [stopReasonDelta usage (if stopReason = "" then "end_turn" else stopReason), stopMessage],
    { info with done := true })

/-- The conversion of a later chunk. A finish reason without a usage in the same chunk is only
remembered. -/
def convertLater (chunk : ChatCompletionsStreamResponse) : Emit := fun info =>
  match chunk.choices with
  | [] =>
    match chunk.usage <|> info.usage with
    | some usage => endWithUsage usage info
    | none => ([], info)
  | chosenChoice :: _ =>
    match chosenChoice.finished? with
    | some finishReason =>
      let info := { info with finishReason }
      match chunk.usage with
      -- the delta of such a chunk is dropped
      | none => ([], info)
      | some _ => (relayDelta chosenChoice.delta).andThen (endMessage chunk) info
    | none => relayDelta chosenChoice.delta info

def streamResponseOpenAI2Claude (sendResponseCount : Nat) (estimatePromptTokens : Int)
    (chunk : ChatCompletionsStreamResponse) : Emit := fun info =>
  if info.done then ([], info)
  else if sendResponseCount = 1 then convertFirst estimatePromptTokens chunk info
  else convertLater chunk info

end

section

def ChatCompletionsStreamResponse.finished (chunk : ChatCompletionsStreamResponse) : Bool :=
  match chunk.choices with
  | [] => false
  | choice :: _ => choice.finished?.isSome

def firstPart (estimatePromptTokens : Int) (chunk : ChatCompletionsStreamResponse) : Emit :=
  Emit.andThen (fun info => ([startMessage chunk estimatePromptTokens], info))
    ((firstToolCall chunk).andThen (firstContent chunk))

/-- The first choice is the only one that is relayed. -/
def ChatCompletionsStreamResponse.firstDelta (chunk : ChatCompletionsStreamResponse) :
    ChatCompletionsStreamResponseChoiceDelta :=
  (chunk.choices.head?.map (·.delta)).getD {}

theorem firstDelta_of_cons {chunk : ChatCompletionsStreamResponse}
    {cho : ChatCompletionsStreamResponseChoice} {os : List ChatCompletionsStreamResponseChoice}
    (h : chunk.choices = cho :: os) : chunk.firstDelta = cho.delta := by
  simp [firstDelta, h]

theorem relayDelta_cases (d : ChatCompletionsStreamResponseChoiceDelta) :
    (d.toolCalls ≠ [] ∧ relayDelta d = relayToolCalls d.toolCalls) ∨
    (d.toolCalls = [] ∧ d.getReasoningContent ≠ "" ∧
      relayDelta d = relayPiece .thinking thinkingBlock (thinkingDelta d.getReasoningContent)) ∨
    (d.toolCalls = [] ∧ d.getReasoningContent = "" ∧ d.getContentString ≠ "" ∧
      relayDelta d = relayPiece .text textBlock (textDelta d.getContentString)) ∨
    (d.toolCalls = [] ∧ d.getReasoningContent = "" ∧ d.getContentString = "" ∧
      relayDelta d = fun inf => ([], inf)) := by
  unfold relayDelta
  by_cases hcs : d.toolCalls = []
  · by_cases hre : d.getReasoningContent = ""
    · by_cases hco : d.getContentString = ""
      · simp [hcs, hre, hco]
      · simp [hcs, hre, hco]
    · simp [hcs, hre]
  · simp [hcs, length_pos_iff]

theorem usageKnown_of_orElse {chunk : ChatCompletionsStreamResponse} {inf : ClaudeConvertInfo}
    {u : Usage} {uk il : Bool} (hkn : inf.usage.isSome = (uk || chunk.usage.isSome || il))
    (h : (chunk.usage <|> inf.usage) = some u) : (uk || chunk.usage.isSome || il) = true := by
  cases hck : chunk.usage with
  | some other => simp
  | none =>
    have hin : inf.usage = some u := by simpa [hck] using h
    rw [← hck, ← hkn, hin]
    rfl

theorem firstFinish_of_not_finished (h : chunk.finished = false) (inf : ClaudeConvertInfo) :
    firstFinish chunk inf = ([], inf) := by
  unfold finished at h
  unfold firstFinish
  cases hch : chunk.choices with
  | nil => rfl
  | cons cho os =>
    rw [hch] at h
    have hn : cho.finished? = none := by simpa using h
    simp only [hn]

theorem relayPiece_of_ne (blk d : ClaudeMediaMessage) (h : inf.lastMessagesType ≠ last) :
    relayPiece last blk d inf =
      ((stopOpenBlocksAndAdvance inf).1 ++
        [startBlock (stopOpenBlocksAndAdvance inf).2.index blk,
          deltaBlock (stopOpenBlocksAndAdvance inf).2.index d],
        { (stopOpenBlocksAndAdvance inf).2 with lastMessagesType := last }) := by
  simp [relayPiece, h]

variable (ept : Int) (chunk : ChatCompletionsStreamResponse) (inf : ClaudeConvertInfo)

theorem convertLater_cases :
    (chunk.choices = [] ∧ ∃ u, (chunk.usage <|> inf.usage) = some u ∧
      convertLater chunk inf = endWithUsage u inf) ∨
    (chunk.choices = [] ∧ chunk.usage = none ∧ inf.usage = none ∧
      convertLater chunk inf = ([], inf)) ∨
    ∃ cho os, chunk.choices = cho :: os ∧
      ((cho.finished? = none ∧ convertLater chunk inf = relayDelta cho.delta inf) ∨
      ∃ finishReason, cho.finished? = some finishReason ∧
        ((chunk.usage = none ∧ convertLater chunk inf = ([], { inf with finishReason })) ∨
        ∃ u, chunk.usage = some u ∧ convertLater chunk inf =
          (relayDelta cho.delta).andThen (endMessage chunk) { inf with finishReason })) := by
  unfold convertLater
  cases chunk.choices with
  | nil =>
    cases hkn : (chunk.usage <|> inf.usage) with
    | some u => exact .inl ⟨rfl, u, rfl, rfl⟩
    | none =>
      obtain ⟨hck, hin⟩ : chunk.usage = none ∧ inf.usage = none := by simpa using hkn
      exact .inr (.inl ⟨rfl, hck, hin, rfl⟩)
  | cons cho os =>
    refine .inr (.inr ⟨cho, os, rfl, ?_⟩)
    dsimp only
    cases cho.finished? with
    | none => exact .inl ⟨rfl, rfl⟩
    | some finishReason =>
      refine .inr ⟨finishReason, rfl, ?_⟩
      cases chunk.usage with
      | none => exact .inl ⟨rfl, rfl⟩
      | some u => exact .inr ⟨u, rfl, rfl⟩

theorem firstContent_cases :
    (chunk.firstDelta.getReasoningContent ≠ "" ∧
      firstContent chunk inf = (advanceUnless .thinking).andThen (openBlock .thinking thinkingBlock
        (thinkingDelta chunk.firstDelta.getReasoningContent)) inf) ∨
    (chunk.firstDelta.getReasoningContent = "" ∧ chunk.firstDelta.getContentString ≠ "" ∧
      firstContent chunk inf = (advanceUnless .text).andThen
        (openBlock .text textBlock (textDelta chunk.firstDelta.getContentString)) inf) ∨
    (chunk.firstDelta.getReasoningContent = "" ∧ chunk.firstDelta.getContentString = "" ∧
      firstContent chunk inf = ([], inf)) := by
  unfold firstContent
  cases hch : chunk.choices with
  | nil =>
    rw [firstDelta, hch]
    exact .inr (.inr ⟨rfl, rfl, rfl⟩)
  | cons cho os =>
    rw [firstDelta_of_cons hch]
    by_cases hre : cho.delta.getReasoningContent = ""
    · by_cases hco : cho.delta.getContentString = ""
      · simp [hre, hco]
      · simp [hre, hco]
    · simp [hre]

theorem firstToolCall_cases :
    (chunk.firstDelta.toolCalls = [] ∧ firstToolCall chunk inf = ([], inf)) ∨
    ∃ tc tcs, chunk.firstDelta.toolCalls = tc :: tcs ∧
      firstToolCall chunk inf =
        ([startBlock 0 (toolUseBlock tc)] ++
          (if tc.function.arguments ≠ "" then [deltaBlock 0 (inputJsonDelta tc)]
            else []),
          { inf with
            lastMessagesType := .tools
            toolCallBaseIndex := 0
            toolCallMaxIndexOffset := 0 }) := by
  unfold firstToolCall
  cases hch : chunk.choices with
  | nil =>
    rw [firstDelta, hch]
    exact .inl ⟨rfl, rfl⟩
  | cons cho os =>
    rw [firstDelta_of_cons hch]
    dsimp only
    cases cho.delta.toolCalls with
    | nil => exact .inl ⟨rfl, rfl⟩
    | cons tc tcs => exact .inr ⟨tc, tcs, rfl, rfl⟩

def ClaudeConvertInfo.message (info : ClaudeConvertInfo) : Bool × Option Usage × String :=
  (info.done, info.usage, info.finishReason)

theorem message_stopOpenBlocksAndAdvance :
    (stopOpenBlocksAndAdvance inf).2.message = inf.message := by
  unfold stopOpenBlocksAndAdvance
  cases inf.lastMessagesType <;> rfl

theorem message_relayPiece (d : ClaudeMediaMessage)
    (inf : ClaudeConvertInfo) : (relayPiece last blk d inf).2.message = inf.message := by
  by_cases hl : inf.lastMessagesType = last
  · simp only [relayPiece, hl, ne_eq, not_true_eq_false, if_false]
    rfl
  · rw [relayPiece_of_ne blk d hl]
    exact message_stopOpenBlocksAndAdvance inf

theorem message_relayToolCalls : (relayToolCalls tcs inf).2.message = inf.message := by
  show (enterTools inf).2.message = inf.message
  unfold enterTools
  split
  · exact message_stopOpenBlocksAndAdvance inf
  · rfl

theorem message_relayDelta (d : ChatCompletionsStreamResponseChoiceDelta)
    (inf : ClaudeConvertInfo) : (relayDelta d inf).2.message = inf.message := by
  rcases relayDelta_cases d with ⟨_, heq⟩ | ⟨_, _, heq⟩ | ⟨_, _, _, heq⟩ | ⟨_, _, _, heq⟩
  · rw [heq]
    exact message_relayToolCalls inf
  · rw [heq]
    exact message_relayPiece _ inf
  · rw [heq]
    exact message_relayPiece _ inf
  · rw [heq]

theorem message_firstToolCall : (firstToolCall chunk inf).2.message = inf.message := by
  rcases firstToolCall_cases chunk inf with ⟨_, heq⟩ | ⟨toolCall, tcs, _, heq⟩
  · rw [heq]
  · rw [heq]
    rfl

theorem message_advanceUnless : (advanceUnless kd inf).2.message = inf.message := by
  unfold advanceUnless
  split
  · exact message_stopOpenBlocksAndAdvance inf
  · rfl

theorem message_firstContent : (firstContent chunk inf).2.message = inf.message := by
  rcases firstContent_cases chunk inf with ⟨_, heq⟩ | ⟨_, _, heq⟩ | ⟨_, _, heq⟩
  · rw [heq]
    exact message_advanceUnless inf
  · rw [heq]
    exact message_advanceUnless inf
  · rw [heq]

theorem message_firstPart : (firstPart ept chunk inf).2.message = inf.message :=
  (message_firstContent chunk _).trans (message_firstToolCall chunk inf)

theorem convertFirst_eq :
    convertFirst ept chunk inf = (firstPart ept chunk).andThen (firstFinish chunk) inf := by
  simp [convertFirst, firstPart, Emit.andThen]

theorem done_convertFirst : (convertFirst ept chunk inf).2.done = (inf.done || chunk.finished) := by
  have hms := message_firstPart ept chunk inf
  have hpa : (firstPart ept chunk inf).2.done = inf.done := congrArg (fun message => message.1) hms
  rw [convertFirst_eq, Emit.andThen_info, ← hpa]
  unfold firstFinish finished
  cases chunk.choices with
  | nil => simp
  | cons cho os =>
    dsimp only
    cases cho.finished? with
    | none => simp
    | some fr => simp [endMessage]

theorem usage_convertFirst : (convertFirst ept chunk inf).2.usage = inf.usage := by
  have hms := message_firstPart ept chunk inf
  have hpa : (firstPart ept chunk inf).2.usage = inf.usage :=
    congrArg (fun message => message.2.1) hms
  rw [convertFirst_eq, Emit.andThen_info, ← hpa]
  unfold firstFinish
  split
  · rfl
  · split
    · rfl
    · rfl

end

section

/-- The parts of `RelayInfo` that the handler changes. -/
structure RelayInfo where
  sendResponseCount : Nat := 0
  claudeConvertInfo : ClaudeConvertInfo := {}
  deriving DecidableEq

/-- What the handler reads of a request and of the channel. The last two fields count the tokens
of a response without a usage and adjust a usage to the type of the channel. -/
structure StreamContext where
  estimatePromptTokens : Int
  isAudioModel : Bool
  responseText2Usage : List ChatCompletionsStreamResponse → Usage
  applyUsagePostProcessing : ChatCompletionsStreamResponse → Usage → Usage

variable (ctx : StreamContext)

/-- `HandleStreamFormat` for a Claude client, with `handleClaudeFormat`. -/
def handleStreamFormat (chunk : ChatCompletionsStreamResponse) (info : RelayInfo) :
    List ClaudeResponse × RelayInfo :=
  let sendResponseCount := info.sendResponseCount + 1
  let convertInfo := info.claudeConvertInfo.withUsage (chunk.usage <|> info.claudeConvertInfo.usage)
  let (events, convertInfo) :=
    streamResponseOpenAI2Claude sendResponseCount ctx.estimatePromptTokens chunk convertInfo
  (events, { sendResponseCount, claudeConvertInfo := convertInfo })

/-- `HandleFinalResponse` for a Claude client: the last chunk is not counted. -/
def handleFinalResponse (lastStreamData : ChatCompletionsStreamResponse) (usage : Usage)
    (info : RelayInfo) : List ClaudeResponse :=
  (streamResponseOpenAI2Claude info.sendResponseCount ctx.estimatePromptTokens lastStreamData
    (info.claudeConvertInfo.withUsage (some usage))).1

def validUsage (usage : Usage) : Bool :=
  usage.promptTokens ≠ 0 || usage.completionTokens ≠ 0

/-- What `OaiStreamHandler` has for a Claude client: the events that were sent and the state of the
conversion. -/
abbrev ClaudeRelay : Type :=
    OaiStream (List ClaudeResponse × RelayInfo) ChatCompletionsStreamResponse

/-- `HandleStreamFormat` sends the events of a chunk. -/
def relayChunk (relayed : List ClaudeResponse × RelayInfo) (chunk : ChatCompletionsStreamResponse) :
    List ClaudeResponse × RelayInfo :=
  let (events, info) := handleStreamFormat ctx chunk relayed.2
  (relayed.1 ++ events, info)

/-- The usage that the handler ends with: that of the last chunk, for an audio model that of the
chunk before, or an estimate. -/
def finalUsage (state : ClaudeRelay) (last : ChatCompletionsStreamResponse)
    (chunks : List ChatCompletionsStreamResponse) : Usage :=
  let audioUsage :=
    if ctx.isAudioModel then (state.secondLastStreamData.bind (·.usage)).filter validUsage
    else none
  let streamUsage := last.usage.filter validUsage <|> audioUsage
  ctx.applyUsagePostProcessing last (streamUsage.getD (ctx.responseText2Usage chunks))

/-- `OaiStreamHandler` for a Claude client: the events it sends for the chunks of an upstream that
ends normally. -/
def oaiStreamHandler (chunks : List ChatCompletionsStreamResponse) : List ClaudeResponse :=
  let state : ClaudeRelay :=
    chunks.foldl (OaiStream.receive (relayChunk ctx)) ⟨([], {}), none, none⟩
  match state.lastStreamData with
  | none => state.relayed.1
  | some last =>
    state.relayed.1 ++
      handleFinalResponse ctx last (finalUsage ctx state last chunks) state.relayed.2

/-- The events from a point on at which `chunk` is the next to be relayed. -/
def relayFrom (usage : Usage) (info : RelayInfo) (chunk : ChatCompletionsStreamResponse) :
    List ChatCompletionsStreamResponse → List ClaudeResponse
  | [] => handleFinalResponse ctx chunk usage info
  | next :: rest =>
    (handleStreamFormat ctx chunk info).1 ++
      relayFrom usage (handleStreamFormat ctx chunk info).2 next rest

open OaiStream

theorem foldl_receive (rest : List ChatCompletionsStreamResponse) (state : ClaudeRelay)
    (hlast : state.lastStreamData = some ck) :
    let final := rest.foldl (receive (relayChunk ctx)) state
    ∃ last, final.lastStreamData = some last ∧
      ∀ usage, final.relayed.1 ++ handleFinalResponse ctx last usage final.relayed.2 =
        state.relayed.1 ++ relayFrom ctx usage state.relayed.2 ck rest := by
  -- the state holds back the chunk that was read last, so `ck` goes out with the next one
  induction rest generalizing state ck with
  | nil => exact ⟨ck, hlast, fun usage => rfl⟩
  | cons next rest ih =>
    have hreceive : state.receive (relayChunk ctx) next =
        ⟨relayChunk ctx state.relayed ck, some next, some ck⟩ := by
      simp only [receive, hlast, Option.elim_some]
    obtain ⟨last, hfinal, hevents⟩ := ih (state.receive (relayChunk ctx) next) (by rw [hreceive])
    refine ⟨last, hfinal, fun usage => ?_⟩
    rw [foldl_cons, hevents, hreceive, relayFrom, ← append_assoc]
    rfl

theorem exists_relayFrom (chunk : ChatCompletionsStreamResponse)
    (rs : List ChatCompletionsStreamResponse) :
    ∃ u, oaiStreamHandler ctx (chunk :: rs) = relayFrom ctx u {} chunk rs := by
  obtain ⟨last, hlast, hevents⟩ := foldl_receive ctx rs ⟨([], {}), some chunk, none⟩ rfl
  have hfirst : (chunk :: rs).foldl (receive (relayChunk ctx)) ⟨([], {}), none, none⟩ =
      rs.foldl (receive (relayChunk ctx)) ⟨([], {}), some chunk, none⟩ := rfl
  refine ⟨finalUsage ctx (rs.foldl (receive (relayChunk ctx)) ⟨([], {}), some chunk, none⟩) last
    (chunk :: rs), ?_⟩
  simp only [oaiStreamHandler, hfirst, hlast, hevents, nil_append]

theorem relayFrom_of_done (inf : RelayInfo) (hd : inf.claudeConvertInfo.done = true)
    (u : Usage) (chunk : ChatCompletionsStreamResponse) : relayFrom ctx u inf chunk rs = [] := by
  have he : ∀ u, (inf.claudeConvertInfo.withUsage u).done = true := fun _ => hd
  induction rs generalizing inf chunk with
  | nil => simp [relayFrom, handleFinalResponse, streamResponseOpenAI2Claude, he]
  | cons next rs ih =>
    have hfo : handleStreamFormat ctx chunk inf = ([],
        { sendResponseCount := inf.sendResponseCount + 1
          claudeConvertInfo := inf.claudeConvertInfo.withUsage
            (chunk.usage <|> inf.claudeConvertInfo.usage) }) := by
      simp [handleStreamFormat, streamResponseOpenAI2Claude, he]
    rw [relayFrom, hfo, nil_append]
    refine ih _ ?_ next ?_
    · exact hd
    · exact fun _ => hd

theorem handleStreamFormat_later (chunk : ChatCompletionsStreamResponse)
    (hd : inf.claudeConvertInfo.done = false) (hcn : 1 ≤ inf.sendResponseCount) :
    handleStreamFormat ctx chunk inf =
      let ci := inf.claudeConvertInfo.withUsage (chunk.usage <|> inf.claudeConvertInfo.usage)
      ((convertLater chunk ci).1,
        { sendResponseCount := inf.sendResponseCount + 1
          claudeConvertInfo := (convertLater chunk ci).2 }) := by
  have hne : inf.sendResponseCount ≠ 0 := by omega
  have ho : ∀ u, (inf.claudeConvertInfo.withUsage u).done = false := fun _ => hd
  simp [handleStreamFormat, streamResponseOpenAI2Claude, ho, hne]

theorem handleFinalResponse_later (inf : RelayInfo) (chunk : ChatCompletionsStreamResponse)
    (u : Usage) (hd : inf.claudeConvertInfo.done = false) (hcn : inf.sendResponseCount ≠ 1) :
    handleFinalResponse ctx chunk u inf =
      (convertLater chunk (inf.claudeConvertInfo.withUsage (some u))).1 := by
  have ho : ∀ u, (inf.claudeConvertInfo.withUsage u).done = false := fun _ => hd
  simp [handleFinalResponse, streamResponseOpenAI2Claude, ho, hcn]

def firstInfo (chunk : ChatCompletionsStreamResponse) : ClaudeConvertInfo :=
  ({} : ClaudeConvertInfo).withUsage chunk.usage

theorem handleStreamFormat_first (chunk : ChatCompletionsStreamResponse) :
    handleStreamFormat ctx chunk {} =
      ((convertFirst ctx.estimatePromptTokens chunk (firstInfo chunk)).1,
        { sendResponseCount := 1
          claudeConvertInfo :=
            (convertFirst ctx.estimatePromptTokens chunk (firstInfo chunk)).2 }) := by
  have hu : (chunk.usage <|> ({} : ClaudeConvertInfo).usage) = chunk.usage := by
    cases chunk.usage <;> rfl
  have ho : (({} : ClaudeConvertInfo).withUsage chunk.usage).done = false := rfl
  simp [handleStreamFormat, hu, streamResponseOpenAI2Claude, ho, firstInfo]

theorem handleFinalResponse_first (inf : ClaudeConvertInfo) (hd : inf.done = false) :
    handleFinalResponse ctx chunk u ⟨1, inf⟩ =
      (convertFirst ctx.estimatePromptTokens chunk (inf.withUsage (some u))).1 := by
  have ho : (inf.withUsage (some u)).done = false := hd
  simp [handleFinalResponse, streamResponseOpenAI2Claude, ho]

end

section

/-- A context for the examples: the tokens are not counted. -/
def plainContext : StreamContext where
  estimatePromptTokens := 10
  isAudioModel := false
  responseText2Usage := fun _ => { promptTokens := 10, completionTokens := 5 }
  applyUsagePostProcessing := fun _ usage => usage

def chunkOf (delta : ChatCompletionsStreamResponseChoiceDelta) (finishReason : Option String)
    (usage : Option Usage) : ChatCompletionsStreamResponse where
  id := "chatcmpl-1"
  model := "gpt-4o"
  choices := [{ delta, finishReason }]
  usage := usage

/-- A piece of a call of the tool `add`. -/
def addCall (name arguments : String) : ToolCallResponse where
  index := some 0
  id := "call_1"
  type := "function"
  function := { name, arguments }

def plainChunks : List ChatCompletionsStreamResponse :=
  [chunkOf { role := "assistant", content := some "" } none none,
    chunkOf { content := some "Adding." } none none,
    chunkOf { toolCalls := [addCall "add" ""] } none none,
    chunkOf { toolCalls := [addCall "" "[1,2]"] } none none,
    chunkOf {} (some "tool_calls") none,
    { id := "chatcmpl-1", usage := some { promptTokens := 10, completionTokens := 5 } }]

end

end NewApi.Streams
