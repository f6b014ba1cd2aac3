import NewApi.Gemini.Agreement

/-!
# The finish reason of a Gemini stream

A chunk with function calls has the finish reason `tool_calls`, a candidate that stopped gets a stop
chunk. Only the first response has its own reason taken back when it has calls, and only then the
stop chunk says `tool_calls`.
-/

namespace NewApi.Gemini

open Lib Streams List GeminiChatCandidate
open Billing (Usage)

def Chunk.finishes (chunk : Chunk) : List String :=
  chunk.choices.filterMap (·.finishReason)

variable {uuids : Uuids} {info : HandlerInfo} {state : HandlerState}
  {candidate : GeminiChatCandidate} {reason : String}

/-- The finish reason in the choice of a candidate. -/
def GeminiChatCandidate.ownReason (candidate : GeminiChatCandidate) : Option String :=
  if candidate.calls.isEmpty then (candidate.finishReason.filter (· ≠ "STOP")).map finishReasonOf
  else some "tool_calls"

/-- The finish reasons that are sent for a response: that of its chunk, unless it is the first one
and has calls, and that of the stop chunk. -/
def GeminiChatCandidate.finishes (isFirst : Prop) [Decidable isFirst] (stopReason : String)
    (candidate : GeminiChatCandidate) : List String :=
  (if isFirst ∧ candidate.calls ≠ [] then [] else candidate.ownReason.toList) ++
    if candidate.finishReason = some "STOP" then [stopReason] else []

/-- The choice of a response with one candidate, with the indices of its calls. -/
def HandlerState.numbered (uuids : Uuids) (state : HandlerState)
    (candidate : GeminiChatCandidate) : Choice :=
  let choice := candidate.choice uuids state.nextUuid
  { choice with delta := { choice.delta with toolCalls :=
    (assignIndices (state.toolCallIDs choice.index) choice.delta.toolCalls).2 } }

/-- No chunk that was sent has a finish reason. -/
def HandlerState.Quiet (state : HandlerState) : Prop :=
  ∀ chunk ∈ state.sent, chunk.finishes = []

end NewApi.Gemini
