import Mathlib.Data.List.Nodup
import NewApi.Gemini.Numbering
import NewApi.Streams.ClaudeAgreement

/-!
# OpenAI responses for clients of Gemini

`ResponseOpenAI2Gemini` and `StreamResponseOpenAI2Gemini`. The latter keeps nothing between chunks,
so every fragment of a tool call becomes a function call of its own (`gemini_events_agree_iff`).
-/

namespace NewApi.Gemini

open Lib Streams List

/-- What `encoding/json` does with the arguments of a tool call. `unmarshal` reads a text into a
map, which is represented by the text that is written for it; `wrapped` is the map whose only entry
has the key `arguments`. -/
structure ArgumentsJson where
  unmarshal : String → Option String
  wrapped : String → String

/-- The fields of `ChatCompletionsStreamResponseChoice` that the conversion reads. A list of tool
calls may be there and empty. -/
structure OpenAIChoice where
  index : Int := 0
  content : Option String := none
  toolCalls : Option (List ToolCallResponse) := none
  finishReason : Option String := none
  deriving DecidableEq

/-- The fields of `dto.Usage` that the conversion reads. -/
structure OpenAIUsage where
  promptTokens : Int
  completionTokens : Int
  totalTokens : Int
  deriving DecidableEq

structure OpenAIChunk where
  choices : List OpenAIChoice := []
  usage : Option OpenAIUsage := none
  deriving DecidableEq

structure OpenAIResponse where
  choices : List OpenAITextResponseChoice
  promptTokens : Int
  completionTokens : Int
  deriving DecidableEq

structure GeminiUsageMetadata where
  promptTokenCount : Int
  candidatesTokenCount : Int
  totalTokenCount : Int
  deriving DecidableEq

/-- `GeminiChatResponse` with its usage. -/
structure GeminiEvent extends GeminiChatResponse where
  usageMetadata : GeminiUsageMetadata
  deriving DecidableEq

def geminiFinishReason : String → String
  | "stop" => "STOP"
  | "length" => "MAX_TOKENS"
  | "content_filter" => "SAFETY"
  | "tool_calls" => "STOP"
  | _ => "STOP"

def OpenAIChoice.getContentString (choice : OpenAIChoice) : String :=
  choice.content.getD ""

section

variable (json : ArgumentsJson) (estimatePromptTokens ept : Int)

def argumentsOf (arguments : String) : String :=
  if arguments = "" then "\x7b\x7d"
  else (json.unmarshal arguments).getD (json.wrapped arguments)

def callPart (toolCall : ToolCallResponse) : GeminiPart where
  functionCall := some ⟨toolCall.function.name, argumentsOf json toolCall.function.arguments⟩

def textParts (text : String) : List GeminiPart :=
  if text ≠ "" then [{ text }] else []

def completeCandidate (choice : OpenAITextResponseChoice) : GeminiChatCandidate where
  index := choice.index
  finishReason := some (geminiFinishReason choice.finishReason)
  parts :=
    if choice.message.toolCalls ≠ [] then choice.message.toolCalls.map (callPart json)
    else textParts choice.message.content

def responseOpenAI2Gemini (response : OpenAIResponse) : GeminiEvent where
  candidates := response.choices.map (completeCandidate json)
  usageMetadata :=
    { promptTokenCount := response.promptTokens
      candidatesTokenCount := response.completionTokens
      totalTokenCount := response.promptTokens + response.completionTokens }

/-- A chunk without content and finish reason, as at the start of a stream, is left out. -/
def OpenAIChunk.hasEvent (chunk : OpenAIChunk) : Bool :=
  (chunk.choices.any fun choice =>
    choice.getContentString ≠ "" || !(choice.toolCalls.getD []).isEmpty) ||
    chunk.choices.any (·.finishReason.isSome)

def streamCandidate (choice : OpenAIChoice) : GeminiChatCandidate where
  index := choice.index
  finishReason := choice.finishReason.map geminiFinishReason
  parts :=
    match choice.toolCalls with
    | some toolCalls => toolCalls.map (callPart json)
    | none => textParts choice.getContentString

def OpenAIChunk.usageMetadata (chunk : OpenAIChunk) : GeminiUsageMetadata :=
  match chunk.usage with
  | some usage =>
    { promptTokenCount := usage.promptTokens
      candidatesTokenCount := usage.completionTokens
      totalTokenCount := usage.totalTokens }
  | none =>
    { promptTokenCount := estimatePromptTokens
      candidatesTokenCount := 0
      totalTokenCount := estimatePromptTokens }

def streamResponseOpenAI2Gemini (chunk : OpenAIChunk) : Option GeminiEvent :=
  if chunk.hasEvent then
    some
      { candidates := chunk.choices.map (streamCandidate json)
        usageMetadata := chunk.usageMetadata estimatePromptTokens }
  else none

/-- `OaiStreamHandler` for a client of Gemini: `handleGeminiFormat` sends the event of a chunk, if
it has one, and `HandleFinalResponse` that of the last chunk. -/
def oaiStreamHandlerGemini (chunks : List OpenAIChunk) : List GeminiEvent :=
  let event := fun chunk => (streamResponseOpenAI2Gemini json estimatePromptTokens chunk).toList
  let state := chunks.foldl (OaiStream.receive fun events chunk => events ++ event chunk)
    { relayed := [] }
  state.relayed ++ state.lastStreamData.toList.flatMap event

theorem oaiStreamHandlerGemini_eq :
    oaiStreamHandlerGemini json ept chunks =
      chunks.filterMap (streamResponseOpenAI2Gemini json ept) := by
  rw [filterMap_eq_flatMap_toList]
  induction chunks using reverseRecOn with
  | nil => rfl
  | append_singleton chunks last _ =>
    rw [oaiStreamHandlerGemini, OaiStream.foldl_receive_concat, ← flatMap_eq_foldl, flatMap_append]
    rfl

end

/-! ## The client -/

def partsOf (index : Int) (candidates : List GeminiChatCandidate) : List GeminiPart :=
  (candidates.filter (·.index = index)).flatMap (·.parts)

def textOf (parts : List GeminiPart) : String :=
  String.join (parts.map (·.text))

def callsOf (parts : List GeminiPart) : List FunctionCall :=
  parts.filterMap (·.functionCall)

def choicesOf (index : Int) (chunks : List OpenAIChunk) : List OpenAIChoice :=
  (chunks.flatMap (·.choices)).filter (·.index = index)

def OpenAIChoice.fragments (choice : OpenAIChoice) : List (Int × ToolCall) :=
  ((choice.toolCalls.getD []).zipIdx.map fun (toolCall, i) =>
    (toolCall.index.getD i, toolCall.call))

def fragmentsOf (index : Int) (chunks : List OpenAIChunk) : List (Int × ToolCall) :=
  (choicesOf index chunks).flatMap (·.fragments)

def reportedUsage (chunks : List OpenAIChunk) : Option OpenAIUsage :=
  (chunks.filterMap (·.usage)).getLast?

/-- A stream that is the complete response in pieces: for every choice the texts and the fragments
of tool calls make up those of its message, and its finish reason is in some chunk. -/
structure SplitStream (complete : OpenAIResponse) (chunks : List OpenAIChunk) : Prop where
  text : ∀ choice ∈ complete.choices,
    String.join ((choicesOf choice.index chunks).map (·.getContentString)) = choice.message.content
  toolCalls : ∀ choice ∈ complete.choices,
    ((fragmentsOf choice.index chunks).foldl addPiece []).map Prod.snd =
      choice.message.toolCalls.map (·.call)
  finishReason : ∀ choice ∈ complete.choices,
    ((choicesOf choice.index chunks).filterMap (·.finishReason)).getLast? =
      some choice.finishReason

/-- The events carry what the conversion of the complete response has, and the last event has its
finish reasons and the usage that the stream reports. -/
structure EventsAgree (json : ArgumentsJson) (complete : OpenAIResponse) (chunks : List OpenAIChunk)
    (events : List GeminiEvent) : Prop where
  text : ∀ candidate ∈ (responseOpenAI2Gemini json complete).candidates,
    textOf (partsOf candidate.index (events.flatMap (·.candidates))) = textOf candidate.parts
  calls : ∀ candidate ∈ (responseOpenAI2Gemini json complete).candidates,
    callsOf (partsOf candidate.index (events.flatMap (·.candidates))) = callsOf candidate.parts
  last : ∃ event, events.getLast? = some event ∧
    (∀ candidate ∈ (responseOpenAI2Gemini json complete).candidates,
      ∃ final ∈ event.candidates, final.index = candidate.index ∧
        final.finishReason = candidate.finishReason) ∧
    ∀ usage, reportedUsage chunks = some usage →
      event.usageMetadata = ⟨usage.promptTokens, usage.completionTokens, usage.totalTokens⟩

/-! ## What the events carry -/

open OpenAIChoice

section

variable (json : ArgumentsJson) (ept : Int)

def functionCallOf (call : ToolCall) : FunctionCall :=
  ⟨call.name, argumentsOf json call.arguments⟩

/-- What is sent of the text of a choice: nothing if there is a list of tool calls. -/
def OpenAIChoice.sentText (choice : OpenAIChoice) : String :=
  if choice.toolCalls.isSome then "" else choice.getContentString

theorem textOf_textParts : textOf (textParts tx) = tx := by
  unfold textParts textOf
  by_cases ht : tx = "" <;> simp [ht]

theorem callsOf_textParts : callsOf (textParts tx) = [] := by
  unfold textParts callsOf
  by_cases ht : tx = "" <;> simp [ht]

theorem textOf_callParts (tcs : List ToolCallResponse) : textOf (tcs.map (callPart json)) = "" := by
  simp [textOf, join_eq_empty_iff, callPart]

theorem callsOf_callParts (tcs : List ToolCallResponse) :
    callsOf (tcs.map (callPart json)) = (tcs.map (·.call)).map (functionCallOf json) := by
  rw [callsOf, filterMap_map, map_map, ← filterMap_eq_map]
  rfl

theorem textOf_streamCandidate : textOf (streamCandidate json cho).parts = cho.sentText := by
  unfold streamCandidate sentText
  cases cho.toolCalls with
  | none => exact textOf_textParts
  | some tcs => exact textOf_callParts json tcs

theorem callsOf_streamCandidate :
    callsOf (streamCandidate json cho).parts =
      cho.fragments.map fun frag => functionCallOf json frag.2 := by
  have hfr : cho.fragments.map Prod.snd = (cho.toolCalls.getD []).map (·.call) := by
    rw [fragments, map_map]
    show map ((·.call) ∘ Prod.fst) (cho.toolCalls.getD []).zipIdx = _
    rw [← map_map, zipIdx_map_fst]
  have hcs : callsOf (streamCandidate json cho).parts =
      ((cho.toolCalls.getD []).map (·.call)).map (functionCallOf json) := by
    unfold streamCandidate
    cases cho.toolCalls with
    | none => exact callsOf_textParts
    | some tcs => exact callsOf_callParts json tcs
  rw [hcs, ← hfr, map_map]
  rfl

theorem parts_of_not_hasEvent {chunk : OpenAIChunk} (h : chunk.hasEvent = false)
    {cho : OpenAIChoice}
    (hm : cho ∈ chunk.choices) : (streamCandidate json cho).parts = [] := by
  simp only [OpenAIChunk.hasEvent, Bool.or_eq_false_iff, any_eq_false] at h
  have hch := h.1 cho hm
  simp only [decide_not, Bool.or_eq_true, Bool.not_eq_eq_eq_not, Bool.not_true,
    decide_eq_false_iff_not, isEmpty_eq_false_iff, not_or, not_not] at hch
  obtain ⟨ht, hcs⟩ := hch
  unfold streamCandidate
  cases htl : cho.toolCalls with
  | none => simp [textParts, ht]
  | some tcs =>
    rw [htl] at hcs
    simpa using hcs

theorem partsOf_map_streamCandidate (chos : List OpenAIChoice) :
    partsOf idx (chos.map (streamCandidate json)) =
      (chos.filter (·.index = idx)).flatMap fun cho => (streamCandidate json cho).parts := by
  rw [partsOf, filter_map, flatMap_map]
  rfl

theorem partsOf_events :
    partsOf idx
        ((oaiStreamHandlerGemini json ept chunks).flatMap (·.candidates)) =
      (choicesOf idx chunks).flatMap fun cho => (streamCandidate json cho).parts := by
  rw [oaiStreamHandlerGemini_eq]
  induction chunks with
  | nil => rfl
  | cons chunk rs ih =>
    have hck : partsOf idx
        ((streamResponseOpenAI2Gemini json ept chunk).toList.flatMap
          (·.candidates)) = partsOf idx (chunk.choices.map (streamCandidate json)) := by
      unfold streamResponseOpenAI2Gemini
      cases hev : chunk.hasEvent with
      | true => simp
      | false =>
        -- nothing is sent, and nothing would be in it
        rw [partsOf_map_streamCandidate, eq_comm, if_neg Bool.false_ne_true]
        refine flatMap_eq_nil_iff.mpr fun cho hch => ?_
        exact parts_of_not_hasEvent json hev (mem_of_mem_filter hch)
    have hap : ∀ can os : List GeminiChatCandidate,
        partsOf idx (can ++ os) = partsOf idx can ++ partsOf idx os := by
      intro can os
      simp [partsOf]
    rw [filterMap_cons_toList, flatMap_append, hap, hck, ih, partsOf_map_streamCandidate, choicesOf,
      choicesOf, flatMap_cons, filter_append, flatMap_append]

theorem textOf_events :
    textOf (partsOf idx
        ((oaiStreamHandlerGemini json ept chunks).flatMap (·.candidates))) =
      String.join ((choicesOf idx chunks).map (·.sentText)) := by
  rw [partsOf_events]
  induction choicesOf idx chunks with
  | nil => rfl
  | cons cho rs ih =>
    rw [flatMap_cons, map_cons, String.join_cons, ← ih, ← textOf_streamCandidate json]
    simp [textOf]

theorem callsOf_events :
    callsOf (partsOf idx
        ((oaiStreamHandlerGemini json ept chunks).flatMap (·.candidates))) =
      (fragmentsOf idx chunks).map fun frag => functionCallOf json frag.2 := by
  rw [partsOf_events, fragmentsOf]
  induction choicesOf idx chunks with
  | nil => rfl
  | cons cho rs ih =>
    rw [flatMap_cons, flatMap_cons, map_append, ← ih, ← callsOf_streamCandidate]
    simp [callsOf]

end

/-! ## When they agree -/

theorem length_addPiece (h : pc.1 ∈ cs.map Prod.fst) : (addPiece cs pc).length = cs.length := by
  induction cs with
  | nil => simp at h
  | cons call rs ih =>
    rw [addPiece]
    by_cases hi : call.1 = pc.1
    · rw [if_pos hi]
      rfl
    have hr : pc.1 ∈ rs.map Prod.fst := by
      rcases mem_cons.mp h with heq | hr
      · exact absurd heq.symm hi
      · exact hr
    rw [if_neg hi, length_cons, ih hr, length_cons]

theorem addPiece_of_not_mem (h : pc.1 ∉ cs.map Prod.fst) : addPiece cs pc = cs ++ [pc] :=
  addPiece_of_absent fun _ hc heq => h (mem_map.mpr ⟨_, hc, heq⟩)

theorem length_foldl_addPiece_le (cs pcs : List (Int × ToolCall)) :
    (pcs.foldl addPiece cs).length ≤ cs.length + pcs.length := by
  induction pcs generalizing cs with
  | nil => simp
  | cons pc rs ih =>
    have hr := ih (addPiece cs pc)
    rw [foldl_cons, length_cons]
    by_cases hm : pc.1 ∈ cs.map Prod.fst
    · rw [length_addPiece hm] at hr
      omega
    · rw [addPiece_of_not_mem hm, length_append, length_singleton] at hr
      rw [addPiece_of_not_mem hm]
      omega

theorem nodup_of_length_foldl_addPiece {cs pcs : List (Int × ToolCall)}
    (hcs : (cs.map Prod.fst).Nodup) (hl : (pcs.foldl addPiece cs).length = cs.length + pcs.length) :
    ((cs ++ pcs).map Prod.fst).Nodup := by
  induction pcs generalizing cs with
  | nil => simpa using hcs
  | cons pc rs ih =>
    rw [foldl_cons, length_cons] at hl
    by_cases hm : pc.1 ∈ cs.map Prod.fst
    · have hle := length_foldl_addPiece_le (addPiece cs pc) rs
      rw [length_addPiece hm] at hle
      omega
    rw [addPiece_of_not_mem hm] at hl
    have hno : ((cs ++ [pc]).map Prod.fst).Nodup := by
      rw [map_append]
      exact hcs.append (nodup_singleton _) (by simpa using hm)
    have hr := ih hno (by rw [hl, length_append, length_singleton]; omega)
    simpa using hr

/-- A choice of a stream that can be converted chunk by chunk: every tool call comes in one
fragment; a message with tool calls has no text outside the chunks with tool calls, one without
has no text in a chunk with a list of tool calls. -/
structure SentWhole (chunks : List OpenAIChunk) (choice : OpenAITextResponseChoice) : Prop where
  calls : ((fragmentsOf choice.index chunks).map Prod.fst).Nodup
  noText : choice.message.toolCalls ≠ [] →
    ∀ sent ∈ choicesOf choice.index chunks, sent.toolCalls = none → sent.getContentString = ""
  noCalls : choice.message.toolCalls = [] →
    ∀ sent ∈ choicesOf choice.index chunks, sent.toolCalls.isSome → sent.getContentString = ""

def EndsTogether (estimatePromptTokens : Int) (complete : OpenAIResponse)
    (chunks : List OpenAIChunk) : Prop :=
  ∃ last, (chunks.filter (·.hasEvent)).getLast? = some last ∧
    (∀ choice ∈ complete.choices, ∃ final ∈ last.choices, final.index = choice.index ∧
      final.finishReason.map geminiFinishReason = some (geminiFinishReason choice.finishReason)) ∧
    ∀ usage, reportedUsage chunks = some usage →
      last.usage.getD ⟨estimatePromptTokens, 0, estimatePromptTokens⟩ = usage

section

variable {json : ArgumentsJson} {estimatePromptTokens ept : Int} {complete : OpenAIResponse}
  {chunks : List OpenAIChunk}

theorem text_agrees_iff (h : SplitStream complete chunks) (hch : cho ∈ complete.choices) :
    textOf (partsOf cho.index
        ((oaiStreamHandlerGemini json ept chunks).flatMap (·.candidates))) =
        textOf (completeCandidate json cho).parts ↔
      (cho.message.toolCalls ≠ [] →
        ∀ sn ∈ choicesOf cho.index chunks, sn.toolCalls = none → sn.getContentString = "") ∧
      (cho.message.toolCalls = [] →
        ∀ sn ∈ choicesOf cho.index chunks, sn.toolCalls.isSome → sn.getContentString = "") := by
  rw [textOf_events]
  unfold completeCandidate
  by_cases hcs : cho.message.toolCalls = []
  · have hse : ∀ sn : OpenAIChoice, sn.sentText.length ≤ sn.getContentString.length := by
      intro sn
      unfold sentText
      split <;> simp
    rw [if_neg (not_not.mpr hcs), textOf_textParts, ← h.text cho hch,
      join_map_eq_iff _ fun sn _ => hse sn]
    simp only [hcs, ne_eq, not_true_eq_false, false_implies, true_and, forall_const]
    refine forall₂_congr fun sn _ => ?_
    unfold sentText
    cases sn.toolCalls.isSome with
    | false => simp
    | true => simp only [if_true, true_implies, eq_comm]
  · rw [if_pos hcs, textOf_callParts, join_eq_empty_iff]
    simp only [hcs, ne_eq, not_false_eq_true, forall_const, false_implies, and_true, forall_mem_map]
    refine forall₂_congr fun sn _ => ?_
    unfold sentText
    cases sn.toolCalls <;> simp

theorem calls_agree_iff (h : SplitStream complete chunks) {cho : OpenAITextResponseChoice}
    (hch : cho ∈ complete.choices) :
    callsOf (partsOf cho.index
        ((oaiStreamHandlerGemini json ept chunks).flatMap (·.candidates))) =
        callsOf (completeCandidate json cho).parts ↔
      ((fragmentsOf cho.index chunks).map Prod.fst).Nodup := by
  have hco : callsOf (completeCandidate json cho).parts =
      (cho.message.toolCalls.map (·.call)).map (functionCallOf json) := by
    unfold completeCandidate
    by_cases hcs : cho.message.toolCalls = []
    · rw [if_neg (not_not.mpr hcs), callsOf_textParts, hcs]
      rfl
    · rw [if_pos hcs, callsOf_callParts]
  rw [callsOf_events, hco, ← h.toolCalls cho hch]
  constructor
  · intro heq
    have hl := congrArg length heq
    simp only [length_map] at hl
    have hno := @nodup_of_length_foldl_addPiece [] (fragmentsOf cho.index chunks)
      nodup_nil (by rw [← hl, length_nil, Nat.zero_add])
    rwa [nil_append] at hno
  · intro hno
    rw [foldl_addPiece_of_nodup (by simpa using hno), nil_append, map_map]
    rfl

theorem getLast?_events :
    (oaiStreamHandlerGemini json estimatePromptTokens chunks).getLast? =
      (chunks.filter (·.hasEvent)).getLast?.map fun chunk =>
        { candidates := chunk.choices.map (streamCandidate json)
          usageMetadata := chunk.usageMetadata estimatePromptTokens } := by
  have hco : ∀ chunks : List OpenAIChunk,
      chunks.filterMap (streamResponseOpenAI2Gemini json estimatePromptTokens) =
        (chunks.filter (·.hasEvent)).map fun chunk =>
          { candidates := chunk.choices.map (streamCandidate json)
            usageMetadata := chunk.usageMetadata estimatePromptTokens } := by
    intro chunks
    induction chunks with
    | nil => rfl
    | cons chunk rs ih =>
      rw [filterMap_cons_toList, filter_cons, ih, streamResponseOpenAI2Gemini]
      cases chunk.hasEvent <;> rfl
  rw [oaiStreamHandlerGemini_eq, hco, getLast?_map]

theorem usageMetadata_eq_iff (chunk : OpenAIChunk) :
    chunk.usageMetadata ept =
        ⟨u.promptTokens, u.completionTokens, u.totalTokens⟩ ↔
      chunk.usage.getD ⟨ept, 0, ept⟩ = u := by
  unfold OpenAIChunk.usageMetadata
  rcases u with ⟨pro, completion, tot⟩
  cases chunk.usage with
  | none => simp
  | some sn =>
    rcases sn with ⟨pro', comp', tot'⟩
    simp

theorem last_agrees_iff :
    (∃ ev, (oaiStreamHandlerGemini json ept chunks).getLast? = some ev ∧
      (∀ cd ∈ (responseOpenAI2Gemini json complete).candidates,
        ∃ fin ∈ ev.candidates, fin.index = cd.index ∧ fin.finishReason = cd.finishReason) ∧
      ∀ u, reportedUsage chunks = some u →
        ev.usageMetadata = ⟨u.promptTokens, u.completionTokens, u.totalTokens⟩) ↔
      EndsTogether ept complete chunks := by
  unfold EndsTogether responseOpenAI2Gemini
  rw [getLast?_events]
  simp only [Option.map_eq_some_iff, forall_mem_map, exists_exists_and_eq_and]
  refine exists_congr fun last => and_congr_right fun _ => and_congr ?_ ?_
  · refine forall₂_congr fun cho _ => ?_
    simp only [mem_map, exists_exists_and_eq_and, streamCandidate, completeCandidate,
      Option.map_eq_some_iff]
  · exact forall₂_congr fun u _ => usageMetadata_eq_iff last

/-- The events for a stream agree with the conversion of the complete response just if every choice
can be converted chunk by chunk, and the last chunk that is converted ends all choices and has the
usage. -/
theorem gemini_events_agree_iff (h : SplitStream complete chunks) :
    EventsAgree json complete chunks (oaiStreamHandlerGemini json estimatePromptTokens chunks) ↔
      (∀ choice ∈ complete.choices, SentWhole chunks choice) ∧
        EndsTogether estimatePromptTokens complete chunks := by
  constructor
  · intro hag
    refine ⟨fun choice hch => ?_, last_agrees_iff.mp hag.last⟩
    have hm : completeCandidate json choice ∈ (responseOpenAI2Gemini json complete).candidates :=
      mem_map_of_mem hch
    obtain ⟨hnt, hno⟩ := (text_agrees_iff h hch).mp (hag.text _ hm)
    exact ⟨(calls_agree_iff h hch).mp (hag.calls _ hm), hnt, hno⟩
  rintro ⟨hwh, hen⟩
  refine ⟨?_, ?_, last_agrees_iff.mpr hen⟩
  · refine forall_mem_map.mpr fun choice hch => ?_
    exact (text_agrees_iff h hch).mpr ⟨(hwh choice hch).noText,
      (hwh choice hch).noCalls⟩
  · refine forall_mem_map.mpr fun choice hch => ?_
    exact (calls_agree_iff h hch).mpr (hwh choice hch).calls

end

/-- `encoding/json` for the arguments `{"day":1}`, the only ones below. A text that is no map is
wrapped as it is, which is right if it has nothing to escape. -/
def dayJson : ArgumentsJson where
  unmarshal := fun arguments =>
    if arguments = "\x7b\"day\":1\x7d" then some arguments else none
  wrapped := fun arguments => "\x7b\"arguments\":\"" ++ arguments ++ "\"\x7d"

/-- A message of two chunks whose last chunk has the finish reason and the usage. -/
theorem answer_in_two_chunks_agrees :
    EventsAgree dayJson
      ⟨[⟨0, { role := "assistant", content := "It is sunny." }, "stop"⟩], 10, 5⟩
      [{ choices := [{ content := some "It is " }] },
        { choices := [{ content := some "sunny.", finishReason := some "stop" }]
          usage := some ⟨10, 5, 15⟩ }]
      (oaiStreamHandlerGemini dayJson 12
        [{ choices := [{ content := some "It is " }] },
          { choices := [{ content := some "sunny.", finishReason := some "stop" }]
            usage := some ⟨10, 5, 15⟩ }]) := by
  refine (gemini_events_agree_iff ⟨?_, ?_, ?_⟩).mpr ⟨?_, ?_⟩
  · decide +kernel
  · decide +kernel
  · decide +kernel
  · simp only [mem_singleton, forall_eq]
    exact ⟨by decide +kernel, by decide +kernel, by decide +kernel⟩
  refine ⟨_, rfl, by decide +kernel, ?_⟩
  rintro usage hus
  cases hus
  rfl

def lookupChunks : List OpenAIChunk :=
  let header : ToolCallResponse :=
    { index := some 0, id := "call_1", type := "function", function := { name := "lookup" } }
  let arguments : ToolCallResponse :=
    { index := some 0, function := { arguments := "\x7b\"day\":1\x7d" } }
  [{ choices := [{ toolCalls := some [header] }] },
    { choices := [{ toolCalls := some [arguments] }] },
    { choices := [{ finishReason := some "tool_calls" }], usage := some ⟨10, 5, 15⟩ }]

/-- The complete response for `lookupChunks`. -/
def lookupResponse : OpenAIResponse :=
  let toolCall : ToolCallResponse :=
    { id := "call_1", type := "function", function := ⟨"lookup", "\x7b\"day\":1\x7d"⟩ }
  ⟨[⟨0, { role := "assistant", content := "", toolCalls := [toolCall] }, "tool_calls"⟩], 10, 5⟩

/-- One tool call becomes two function calls, one without arguments and one without a name. -/
theorem lookup_becomes_two_calls :
    SplitStream lookupResponse lookupChunks ∧
      callsOf (partsOf 0
          ((oaiStreamHandlerGemini dayJson 12 lookupChunks).flatMap (·.candidates))) =
        [⟨"lookup", "\x7b\x7d"⟩, ⟨"", "\x7b\"day\":1\x7d"⟩] ∧
      ¬EventsAgree dayJson lookupResponse lookupChunks
        (oaiStreamHandlerGemini dayJson 12 lookupChunks) := by
  have hca : callsOf (partsOf 0
      ((oaiStreamHandlerGemini dayJson 12 lookupChunks).flatMap (·.candidates))) =
        [⟨"lookup", "\x7b\x7d"⟩, ⟨"", "\x7b\"day\":1\x7d"⟩] := by
    decide +kernel
  refine ⟨⟨by decide +kernel, by decide +kernel, by decide +kernel⟩, hca, fun hag => ?_⟩
  have hs := hag.calls _ mem_cons_self
  have hle := congrArg length (hca.symm.trans hs)
  exact absurd (show 2 = 1 from hle) (by decide)

end NewApi.Gemini
