import NewApi.Streams.OpenAIToClaude

/-!
# OpenAI streams for OpenAI clients

`OaiStreamHandler` relays a chunk when the next one arrives. A client that has not asked for the
usage does not get a last chunk with a usage and without text (`handleLastResponse`); a tool call or
a finish reason in it is withheld too.
-/

namespace NewApi.Streams

open List Option ChatCompletionsStreamResponse
open Billing (Usage)

/-! ## The handler -/

/-- What `OaiStreamHandler` has for a client of OpenAI: the chunks that were sent. -/
abbrev DelayedState : Type :=
  OaiStream (List ChatCompletionsStreamResponse) ChatCompletionsStreamResponse

/-- The chunks go through the callback of `OaiStreamHandler`. -/
def delayed (chunks : List ChatCompletionsStreamResponse) : DelayedState :=
  chunks.foldl (OaiStream.receive fun relayed chunk => relayed ++ [chunk]) { relayed := [] }

structure OpenAIClient extends StreamContext where
  shouldIncludeUsage : Bool
  upstreamModelName : String

/-- The usage in a chunk, if `ValidUsage` accepts it. -/
def ChatCompletionsStreamResponse.validUsage? (chunk : ChatCompletionsStreamResponse) :
    Option Usage :=
  chunk.usage.filter validUsage

def ChatCompletionsStreamResponse.hasContent (chunk : ChatCompletionsStreamResponse) : Bool :=
  chunk.choices.any fun choice =>
    choice.delta.getContentString ≠ "" || choice.delta.getReasoningContent ≠ ""

section

variable (client : OpenAIClient)

/-- The flag `shouldSendLastResp` that `handleLastResponse` leaves. -/
def shouldSendLastResp (last : ChatCompletionsStreamResponse) : Bool :=
  if last.validUsage?.isSome && !client.shouldIncludeUsage then last.hasContent else true

/-- The usage that the stream contains: that of the last chunk, or for an audio model that of the
chunk before. -/
def streamUsage (state : DelayedState) : Option Usage :=
  state.lastStreamData.bind (·.validUsage?) <|>
    if client.isAudioModel then state.secondLastStreamData.bind (·.validUsage?) else none

/-- The usage that the handler ends with: an estimate if the stream does not contain one. -/
def reportedUsage (chunks : List ChatCompletionsStreamResponse) (state : DelayedState) : Usage :=
  (streamUsage client state).getD (client.applyUsagePostProcessing
    (state.lastStreamData.getD {}) (client.responseText2Usage chunks))

/-- `GenerateFinalUsageResponse` in `HandleFinalResponse`, for a client that has asked for the usage
if the stream does not contain one. -/
def finalUsageResponse (chunks : List ChatCompletionsStreamResponse) (state : DelayedState) :
    List ChatCompletionsStreamResponse :=
  if client.shouldIncludeUsage && (streamUsage client state).isNone then
    [{ id := (state.lastStreamData.map (·.id)).getD ""
       model := (state.lastStreamData.map (·.model)).getD client.upstreamModelName
       usage := some (reportedUsage client chunks state) }]
  else []

/-- `OaiStreamHandler` for a client of OpenAI: the chunks that are sent before `[DONE]`. -/
def oaiStreamHandlerOpenAI (chunks : List ChatCompletionsStreamResponse) :
    List ChatCompletionsStreamResponse :=
  let state := delayed chunks
  state.relayed ++ state.lastStreamData.toList.filter (shouldSendLastResp client) ++
    finalUsageResponse client chunks state

end

/-! ## What the client should get -/

inductive Delta where
  | content (text : String)
  | reasoning (text : String)
  | toolCall (toolCall : ToolCallResponse)
  | finishReason (reason : String)
  deriving DecidableEq

def textDeltas (delta : String → Delta) (text : Option String) : List Delta :=
  ((text.filter (· ≠ "")).map delta).toList

def ChatCompletionsStreamResponseChoice.deltas (choice : ChatCompletionsStreamResponseChoice) :
    List Delta :=
  textDeltas .content choice.delta.content ++ textDeltas .reasoning choice.delta.reasoningContent ++
    textDeltas .reasoning choice.delta.reasoning ++ choice.delta.toolCalls.map .toolCall ++
    (choice.finished?.map .finishReason).toList

def ChatCompletionsStreamResponse.deltas (chunk : ChatCompletionsStreamResponse) : List Delta :=
  chunk.choices.flatMap (·.deltas)

/-- The chunk carries nothing but a usage. -/
def ChatCompletionsStreamResponse.OnlyUsage (chunk : ChatCompletionsStreamResponse) : Prop :=
  chunk.usage.isSome ∧ chunk.deltas = []

structure DeliveredRight (client : OpenAIClient)
    (chunks sent : List ChatCompletionsStreamResponse) : Prop where
  /-- Every delta is delivered once, in order. -/
  deltas : sent.flatMap (·.deltas) = chunks.flatMap (·.deltas)
  /-- What is withheld carries nothing but a usage, and so does what is added. -/
  withheld : ∃ passed withheld added, chunks = passed ++ withheld ∧ sent = passed ++ added ∧
    ∀ chunk ∈ withheld ++ added, chunk.OnlyUsage
  /-- A client that has asked finds the usage in the last chunk. -/
  asked : client.shouldIncludeUsage = true → ∃ last, sent.getLast? = some last ∧
    last.usage = some (reportedUsage client chunks (delayed chunks))
  /-- A client that has not asked gets no last chunk for the usage. -/
  notAsked : client.shouldIncludeUsage = false →
    ∀ last, sent.getLast? = some last → ¬last.OnlyUsage

/-- The chunk is not sent to a client that has not asked for the usage, if it is the last. -/
def ChatCompletionsStreamResponse.withholdable (chunk : ChatCompletionsStreamResponse) : Bool :=
  chunk.validUsage?.isSome && !chunk.hasContent

structure EndsWell (client : OpenAIClient) (chunks : List ChatCompletionsStreamResponse) :
    Prop where
  /-- A client that has not asked: a last chunk that is withheld has no tool calls, no finish reason
  and no hidden reasoning, and the chunk before it is not one for the usage. -/
  withheld : client.shouldIncludeUsage = false → ∀ last, chunks.getLast? = some last →
    last.withholdable = true →
    last.deltas = [] ∧ ∀ previous, chunks.dropLast.getLast? = some previous → ¬previous.OnlyUsage
  /-- A last chunk that is sent has more than a usage of no tokens. -/
  sent : client.shouldIncludeUsage = false → ∀ last, chunks.getLast? = some last →
    last.withholdable = false → ¬last.OnlyUsage
  /-- A client that has asked: if an audio model reports the usage in the chunk before the last, it
  reports one in the last chunk too. -/
  audio : client.shouldIncludeUsage = true → client.isAudioModel = true →
    ∀ last previous, chunks.getLast? = some last → chunks.dropLast.getLast? = some previous →
    previous.validUsage?.isSome → last.validUsage?.isSome

/-! ## The end of the stream -/

variable (chunks : List ChatCompletionsStreamResponse) (last : ChatCompletionsStreamResponse)

theorem delayed_concat : delayed (chunks ++ [last]) = ⟨chunks, some last, chunks.getLast?⟩ := by
  rw [delayed, OaiStream.foldl_receive_concat, ← flatMap_eq_foldl, flatMap_singleton']

section

variable {client : OpenAIClient}

theorem oaiStreamHandlerOpenAI_concat :
    oaiStreamHandlerOpenAI client (chunks ++ [last]) =
      chunks ++ [last].filter (shouldSendLastResp client) ++
        finalUsageResponse client (chunks ++ [last]) ⟨chunks, some last, chunks.getLast?⟩ := by
  unfold oaiStreamHandlerOpenAI
  rw [delayed_concat]
  rfl

theorem sent_notAsked (has : client.shouldIncludeUsage = false) :
    oaiStreamHandlerOpenAI client (chunks ++ [last]) =
      if last.withholdable then chunks else chunks ++ [last] := by
  have hn : ∀ state, finalUsageResponse client (chunks ++ [last]) state = [] := fun state =>
    if_neg (by simp [has])
  have hse : shouldSendLastResp client last = !last.withholdable := by
    unfold shouldSendLastResp withholdable
    cases last.validUsage?.isSome <;> simp [has]
  rw [oaiStreamHandlerOpenAI_concat, hn, append_nil]
  cases hhe : last.withholdable <;> simp [hse, hhe]

theorem sent_asked (has : client.shouldIncludeUsage = true) :
    oaiStreamHandlerOpenAI client (chunks ++ [last]) =
      chunks ++ [last] ++
        finalUsageResponse client (chunks ++ [last]) ⟨chunks, some last, chunks.getLast?⟩ := by
  have hse : shouldSendLastResp client last = true := by
    simp [shouldSendLastResp, has]
  rw [oaiStreamHandlerOpenAI_concat]
  simp [hse]

theorem onlyUsage_of_final {chunks : List ChatCompletionsStreamResponse} {state : DelayedState} :
    ∀ chunk ∈ finalUsageResponse client chunks state, chunk.OnlyUsage := by
  unfold finalUsageResponse
  split
  · exact forall_mem_singleton.mpr ⟨rfl, rfl⟩
  · exact forall_mem_nil _

theorem flatMap_deltas_of_onlyUsage {chunks : List ChatCompletionsStreamResponse}
    (h : ∀ chunk ∈ chunks, chunk.OnlyUsage) : chunks.flatMap (·.deltas) = [] :=
  flatMap_eq_nil_iff.mpr fun chunk hck => (h chunk hck).2

theorem deltas_of_split {pas wit add : List ChatCompletionsStreamResponse}
    (h : ∀ chunk ∈ wit ++ add, chunk.OnlyUsage) :
    (pas ++ add).flatMap (·.deltas) = (pas ++ wit).flatMap (·.deltas) := by
  rw [forall_mem_append] at h
  rw [flatMap_append, flatMap_append, flatMap_deltas_of_onlyUsage h.1,
    flatMap_deltas_of_onlyUsage h.2]

section

variable (has : client.shouldIncludeUsage = true)
include has

theorem deliveredRight_asked_iff_usage :
    DeliveredRight client (chunks ++ [last]) (oaiStreamHandlerOpenAI client (chunks ++ [last])) ↔
      ∃ fin, (oaiStreamHandlerOpenAI client (chunks ++ [last])).getLast? = some fin ∧
        fin.usage = some (reportedUsage client (chunks ++ [last])
          ⟨chunks, some last, chunks.getLast?⟩) := by
  rw [← delayed_concat chunks last]
  constructor
  · exact fun h => h.asked has
  intro h
  have had : ∀ chunk ∈ [] ++ finalUsageResponse client (chunks ++ [last])
      ⟨chunks, some last, chunks.getLast?⟩, chunk.OnlyUsage := onlyUsage_of_final
  refine ⟨?_, ⟨chunks ++ [last], [], _, (append_nil _).symm, sent_asked chunks last has,
    had⟩, fun _ => h, fun hno => ?_⟩
  · rw [sent_asked _ _ has, deltas_of_split had, append_nil]
  · rw [has] at hno
    cases hno

theorem lastUsage_asked_iff (all : List ChatCompletionsStreamResponse)
    (last : ChatCompletionsStreamResponse) :
    (∃ fin, (sn ++ [last] ++ finalUsageResponse client all state).getLast? = some fin ∧
        fin.usage = some (reportedUsage client all state)) ↔
      ∀ u, streamUsage client state = some u → last.usage = some u := by
  cases hst : streamUsage client state with
  | none =>
    have hon : finalUsageResponse client all state = [_] := if_pos (by simp [hst, has])
    rw [hon, getLast?_concat]
    exact iff_of_true ⟨_, rfl, rfl⟩ fun _ hn => by cases hn
  | some u =>
    have hn : finalUsageResponse client all state = [] := if_neg (by simp [hst])
    have hre : reportedUsage client all state = u := by
      unfold reportedUsage
      rw [hst]
      rfl
    rw [hn, append_nil, getLast?_concat, hre]
    constructor
    · rintro ⟨fin, hfi, hu⟩ other hot
      rw [Option.some.inj hfi, hu]
      exact hot
    · exact fun h => ⟨last, rfl, h u rfl⟩

theorem deliveredRight_asked_iff :
    DeliveredRight client (chunks ++ [last]) (oaiStreamHandlerOpenAI client (chunks ++ [last])) ↔
      (client.isAudioModel = true → ∀ prev, chunks.getLast? = some prev →
        prev.validUsage?.isSome → last.validUsage?.isSome) := by
  rw [deliveredRight_asked_iff_usage _ _ has, sent_asked _ _ has, lastUsage_asked_iff has]
  have hst : streamUsage client ⟨chunks, some last, chunks.getLast?⟩ =
      (last.validUsage? <|>
        if client.isAudioModel then chunks.getLast?.bind (·.validUsage?) else none) := rfl
  rw [hst]
  cases hva : last.validUsage? with
  | some u =>
    -- the last chunk has the usage
    refine iff_of_true (fun other hot => ?_) fun _ _ _ _ => rfl
    rw [← hot]
    exact (filter_eq_some_iff.mp hva).1
  | none =>
    constructor
    · -- a usage of the chunk before the last would have to be in the last
      intro h hau prev hpr hso
      obtain ⟨u, hu⟩ := isSome_iff_exists.mp hso
      have hl := h u (by rw [if_pos hau, hpr]; exact hu)
      have hok : validUsage u = true := (filter_eq_some_iff.mp hu).2
      rw [show last.validUsage? = some u from filter_eq_some_iff.mpr ⟨hl, hok⟩] at hva
      cases hva
    intro h u hfn
    by_cases hau : client.isAudioModel = true
    · rw [if_pos hau] at hfn
      obtain ⟨prev, hpr, hu⟩ := bind_eq_some_iff.mp hfn
      have hfa := h hau prev hpr (by rw [hu]; rfl)
      cases hfa
    · rw [if_neg hau] at hfn
      cases hfn

end

theorem deliveredRight_notAsked_iff (has : client.shouldIncludeUsage = false) :
    DeliveredRight client (chunks ++ [last]) (oaiStreamHandlerOpenAI client (chunks ++ [last])) ↔
      (last.withholdable = true → last.deltas = [] ∧
        ∀ prev, chunks.getLast? = some prev → ¬prev.OnlyUsage) ∧
      (last.withholdable = false → ¬last.OnlyUsage) := by
  have hne : client.shouldIncludeUsage ≠ true := by rw [has]; exact Bool.false_ne_true
  rw [sent_notAsked _ _ has]
  cases hhe : last.withholdable with
  | false =>
    rw [if_neg Bool.false_ne_true]
    constructor
    · intro h
      exact ⟨nofun, fun _ => h.notAsked has last getLast?_concat⟩
    rintro ⟨-, hl⟩
    refine ⟨rfl, ⟨chunks ++ [last], [], [], by simp, by simp, by simp⟩,
      fun hye => absurd hye hne, fun _ fin hfi => ?_⟩
    rw [getLast?_concat] at hfi
    exact Option.some.inj hfi ▸ hl rfl
  | true =>
    rw [if_pos rfl]
    have hu : last.usage.isSome := by
      unfold withholdable at hhe
      rw [Bool.and_eq_true] at hhe
      obtain ⟨usage, hso⟩ := isSome_iff_exists.mp hhe.1
      rw [(filter_eq_some_iff.mp hso).1]
      rfl
    constructor
    · intro h
      have hds := h.deltas
      rw [flatMap_append, flatMap_singleton] at hds
      exact ⟨fun _ => ⟨self_eq_append_right.mp hds, h.notAsked has⟩, nofun⟩
    rintro ⟨hl, -⟩
    obtain ⟨hn, hpr⟩ := hl rfl
    have hsp : ∀ chunk ∈ [last] ++ [], chunk.OnlyUsage := by
      rw [append_nil]
      exact forall_mem_singleton.mpr ⟨hu, hn⟩
    refine ⟨?_, ⟨chunks, [last], [], rfl, (append_nil _).symm, hsp⟩,
      fun hye => absurd hye hne, fun _ => hpr⟩
    rw [← deltas_of_split hsp, append_nil]

end

/-- Every client of OpenAI gets what it should of every stream exactly if the stream ends well. -/
theorem openAI_stream_delivered_iff (client : OpenAIClient)
    (chunks : List ChatCompletionsStreamResponse) :
    DeliveredRight client chunks (oaiStreamHandlerOpenAI client chunks) ↔
      EndsWell client chunks := by
  rcases eq_nil_or_concat' chunks with rfl | ⟨before, last, rfl⟩
  · -- nothing is read, and a client that has asked gets an estimate
    refine iff_of_true ?_ ⟨by simp, by simp, by simp⟩
    have hsp : ∀ chunk ∈ [] ++ finalUsageResponse client [] (delayed []), chunk.OnlyUsage :=
      onlyUsage_of_final
    refine ⟨?_, ⟨[], [], _, rfl, rfl, hsp⟩, fun has => ?_, fun has last hl => ?_⟩
    · exact deltas_of_split hsp
    · have hon : oaiStreamHandlerOpenAI client [] = [_] :=
        if_pos (by simp [has, streamUsage, delayed])
      rw [hon]
      exact ⟨_, rfl, rfl⟩
    · have hn : oaiStreamHandlerOpenAI client [] = [] := if_neg (by rw [has]; exact nofun)
      rw [hn] at hl
      cases hl
  · cases has : client.shouldIncludeUsage with
    | true =>
      rw [deliveredRight_asked_iff _ _ has]
      constructor
      · intro h
        refine ⟨fun hno => ?_, fun hno => ?_, fun _ hmo final previous hfi hpr => ?_⟩
        · rw [has] at hno
          cases hno
        · rw [has] at hno
          cases hno
        · rw [getLast?_concat] at hfi
          rw [dropLast_concat] at hpr
          exact Option.some.inj hfi ▸ h hmo previous hpr
      · intro h hmo previous hpr
        refine h.audio has hmo last previous getLast?_concat ?_
        rw [dropLast_concat, hpr]
    | false =>
      rw [deliveredRight_notAsked_iff _ _ has]
      constructor
      · rintro ⟨hhe, hse⟩
        refine ⟨fun _ final hfi => ?_, fun _ final hfi => ?_, fun hye => ?_⟩
        · rw [getLast?_concat] at hfi
          rw [dropLast_concat, ← Option.some.inj hfi]
          exact hhe
        · rw [getLast?_concat] at hfi
          exact Option.some.inj hfi ▸ hse
        · rw [has] at hye
          cases hye
      · intro h
        have hhe := h.withheld has last getLast?_concat
        rw [dropLast_concat] at hhe
        exact ⟨hhe, h.sent has last getLast?_concat⟩

def finishWithUsage : List ChatCompletionsStreamResponse :=
  [chunkOf { content := some "Hi" } none none,
    chunkOf {} (some "stop") (some { promptTokens := 10, completionTokens := 5 })]

/-- A client that has not asked for the usage does not get the finish reason. -/
theorem finish_reason_withheld : let client : OpenAIClient :=
      { plainContext with shouldIncludeUsage := false, upstreamModelName := "gpt-4o" }
    (oaiStreamHandlerOpenAI client finishWithUsage).flatMap (·.deltas) = [.content "Hi"] ∧
      ¬DeliveredRight client finishWithUsage (oaiStreamHandlerOpenAI client finishWithUsage) := by
  intro client
  have hse : (oaiStreamHandlerOpenAI client finishWithUsage).flatMap (·.deltas) =
      [.content "Hi"] := by decide +kernel
  have ha : finishWithUsage.flatMap (·.deltas) = [.content "Hi", .finishReason "stop"] := by
    decide +kernel
  refine ⟨hse, fun h => ?_⟩
  have hde := h.deltas
  rw [hse, ha] at hde
  cases hde

end NewApi.Streams
