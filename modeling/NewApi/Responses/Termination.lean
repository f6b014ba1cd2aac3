import NewApi.Responses.Handler
import NewApi.Streams.ClaudeStream

/-!
# The end of a Responses stream

An event adds content chunks, or the stop chunk at the first `response.completed`. A client of
OpenAI gets content after it if the upstream goes on; a client of Claude never gets the end of its
message, since the stop chunk has no usage.
-/

namespace NewApi.Responses

open Lib Streams Relay List HandlerState ResponsesStreamResponse
open ChatCompletionsStreamResponseChoiceDelta
open Billing (Usage)

/-! ## Terminated streams -/

/-- A client of OpenAI has got exactly one chunk with a finish reason, no choices after it, and
then `[DONE]`. -/
def OpenAITerminated (messages : List OpenAIMessage) : Prop :=
  ∃ before stop after, messages = (before ++ stop :: after).map .chunk ++ [.done] ∧
    (∀ chunk ∈ before, chunk.finished = false) ∧ stop.finished = true ∧
    ∀ chunk ∈ after, chunk.choices = []

/-- A client of Claude has got a stop for every block that was started, and then exactly one
`message_delta` with a stop reason and one `message_stop`. -/
def ClaudeTerminated (events : List ClaudeResponse) : Prop :=
  ∃ body delta stop, events = body ++ [delta, stop] ∧
    (∀ event ∈ body, event.type ≠ .messageDelta ∧ event.type ≠ .messageStop) ∧
    (∀ event ∈ body, event.type = .contentBlockStart →
      ∃ other ∈ body, other.type = .contentBlockStop ∧ other.index = event.index) ∧
    delta.givesStopReason = true ∧ stop.type = .messageStop

def Terminated (ctx : HandlerContext) (result : HandlerResult) : Prop :=
  match ctx.format with
  | .openAI => OpenAITerminated result.chunks
  | .claude => ClaudeTerminated result.events

/-- The event is `response.error` or `response.failed`. -/
def ResponsesStreamResponse.isError (event : ResponsesStreamResponse) : Bool :=
  event.type = .error || event.type = .failed

def ResponsesStreamResponse.isText (event : ResponsesStreamResponse) : Bool :=
  event.type = .outputTextDelta && event.delta ≠ ""

/-- The event makes the handler send a chunk, once the start has been sent. After some text it does
not send tool calls. -/
def ResponsesStreamResponse.sendsChunk (hasText : Bool) (event : ResponsesStreamResponse) : Bool :=
  match event.type with
  | .reasoningSummaryTextDelta | .outputTextDelta => event.delta ≠ ""
  | .outputItemAdded | .outputItemDone =>
    !hasText && event.item.any fun item =>
      item.type = "function_call" && item.canonicalID ≠ ""
  | .functionCallArgumentsDelta => !hasText && trimSpace event.itemID ≠ ""
  | _ => false

/-- The events before the first `response.completed`. -/
def beforeCompleted (events : List ResponsesStreamResponse) : List ResponsesStreamResponse :=
  events.takeWhile (·.type ≠ .completed)

/-- The events after the first `response.completed`. -/
def afterCompleted (events : List ResponsesStreamResponse) : List ResponsesStreamResponse :=
  (events.dropWhile (·.type ≠ .completed)).tail

/-! ## What an event sends -/

inductive Sending where
  | nothing
  | start
  | delta (delta : ChatCompletionsStreamResponseChoiceDelta)

def send (ctx : HandlerContext) (sending : Sending) (state : HandlerState) : HandlerState :=
  match sending with
  | .nothing => state
  | .start => sendStartIfNeeded ctx state
  | .delta delta =>
    sendChatChunk ctx (deltaChunk ctx state.model delta) (sendStartIfNeeded ctx state)

/-- The states agree in what was sent and in what is sent next. The map of item ids has no entry
for the empty id. -/
structure SameStream (s t : HandlerState) : Prop where
  chunks : t.chunks = s.chunks
  events : t.events = s.events
  info : t.info = s.info
  sentStart : t.sentStart = s.sentStart
  sentStop : t.sentStop = s.sentStop
  streamErr : t.streamErr = s.streamErr
  canonical : s.toolCallCanonicalIDByItemID "" = "" → t.toolCallCanonicalIDByItemID "" = ""

theorem SameStream.refl (s : HandlerState) : SameStream s s := ⟨rfl, rfl, rfl, rfl, rfl, rfl, id⟩

def HandlerState.hasText (state : HandlerState) : Bool :=
  state.outputText ≠ ""

/-- What an event that is no error and not `response.completed` does: it changes what the handler
knows, and then sends a delta, the start or nothing. -/
structure Contributes (event : ResponsesStreamResponse) (s : HandlerState) (sending : Sending)
    (t : HandlerState) : Prop where
  same : SameStream s t
  text : t.outputText = s.outputText ++ if event.isText then event.delta else ""
  delta_iff : (∃ delta, sending = .delta delta) ↔
    event.sendsChunk s.hasText = true

variable {s t : HandlerState} {event ev : ResponsesStreamResponse}

section

variable (ctx : HandlerContext)

theorem sendReasoningSummaryDelta_eq (ht : event.type = .reasoningSummaryTextDelta) :
    ∃ sdg t, sendReasoningSummaryDelta ctx event.delta s = send ctx sdg t ∧
      Contributes event s sdg t := by
  have hte : event.isText = false := by simp [isText, ht]
  unfold sendReasoningSummaryDelta
  by_cases hem : event.delta = ""
  · refine ⟨.nothing, s, by rw [if_pos hem]; rfl, .refl s, by simp [hte], ?_⟩
    simp [sendsChunk, ht, hem]
  let d := separated s.needsReasoningSummarySeparator event.delta
  refine ⟨.delta { reasoningContent := some d },
    { s with
      needsReasoningSummarySeparator := false
      usageText := s.usageText ++ d
      hasSentReasoningSummary := true }, ?_, ⟨rfl, rfl, rfl, rfl, rfl, rfl, id⟩, ?_, ?_⟩
  · rw [if_neg hem]
    dsimp only [send]
    rcases Bool.eq_false_or_eq_true s.sentStart with hs0 | hs0
    · rw [sendStartIfNeeded_of_sent ctx (by exact hs0),
        sendStartIfNeeded_of_sent ctx (by exact hs0)]
      rfl
    · rw [sendStartIfNeeded_of_not_sent ctx (by exact hs0),
        sendStartIfNeeded_of_not_sent ctx (by exact hs0)]
      rfl
  · simp [hte]
  · simp [sendsChunk, ht, hem]

theorem sendTextDelta_of_nonempty (hem : d ≠ "") :
    sendTextDelta ctx d s =
      send ctx (.delta { content := some d })
        { s with
          outputText := s.outputText ++ d
          usageText := s.usageText ++ d } := by
  dsimp only [sendTextDelta, send]
  rw [if_neg hem]
  rcases Bool.eq_false_or_eq_true s.sentStart with hs0 | hs0
  · rw [sendStartIfNeeded_of_sent ctx (by exact hs0), sendStartIfNeeded_of_sent ctx (by exact hs0)]
  · rw [sendStartIfNeeded_of_not_sent ctx (by exact hs0),
      sendStartIfNeeded_of_not_sent ctx (by exact hs0)]
    rfl

theorem sendTextDelta_eq (ht : event.type = .outputTextDelta) :
    ∃ sdg t, sendTextDelta ctx event.delta s = send ctx sdg t ∧ Contributes event s sdg t := by
  by_cases hem : event.delta = ""
  · refine ⟨.start, s, by rw [sendTextDelta, if_pos hem]; rfl, .refl s, by simp [hem], ?_⟩
    simp [sendsChunk, ht, hem]
  have hte : event.isText = true := by simp [isText, ht, hem]
  refine ⟨_, _, sendTextDelta_of_nonempty ctx hem, ⟨rfl, rfl, rfl, rfl, rfl, rfl, id⟩, ?_, ?_⟩
  · simp [hte]
  · simp [sendsChunk, ht, hem]

theorem sendToolChunk_eq :
    sendToolChunk ctx cid nm ars s =
      send ctx (.delta { toolCalls := [toolPiece cid nm ars s] }) (noteTool cid nm ars s) := by
  dsimp only [send, sendToolChunk]
  rcases Bool.eq_false_or_eq_true s.sentStart with hs0 | hs0
  · rw [sendStartIfNeeded_of_sent ctx (by exact hs0), sendStartIfNeeded_of_sent ctx (by exact hs0)]
    rfl
  · rw [sendStartIfNeeded_of_not_sent ctx (by exact hs0),
      sendStartIfNeeded_of_not_sent ctx (by exact hs0)]
    rfl

theorem sendToolCallDelta_eq (s : HandlerState) :
    ∃ sdg t, sendToolCallDelta ctx cid nm ars s = send ctx sdg t ∧
      SameStream s t ∧ t.outputText = s.outputText ∧
      ((∃ d, sdg = .delta d) ↔ cid ≠ "" ∧ s.hasText = false) := by
  unfold sendToolCallDelta hasText
  by_cases hid : cid = ""
  · exact ⟨.nothing, s, by rw [if_pos hid]; rfl, .refl s, rfl, by simp [hid]⟩
  by_cases ht : s.outputText = ""
  · rw [if_neg hid, if_neg (not_not.mpr ht), sendToolChunk_eq]
    exact ⟨_, _, rfl, ⟨rfl, rfl, rfl, rfl, rfl, rfl, id⟩, rfl, by simp [hid, ht]⟩
  · refine ⟨.nothing, s, ?_, .refl s, rfl, by simp [hid, ht]⟩
    rw [if_neg hid, if_pos ht]
    rfl

theorem SameStream.trans {u : HandlerState} (hst : SameStream s t) (htu : SameStream t u) :
    SameStream s u where
  chunks := htu.chunks.trans hst.chunks
  events := htu.events.trans hst.events
  info := htu.info.trans hst.info
  sentStart := htu.sentStart.trans hst.sentStart
  sentStop := htu.sentStop.trans hst.sentStop
  streamErr := htu.streamErr.trans hst.streamErr
  canonical := fun h => htu.canonical (hst.canonical h)

theorem contributes_nothing (ht : ev.isText = false) (hqu : ev.sendsChunk s.hasText = false)
    (hs : SameStream s t) (hou : t.outputText = s.outputText) : Contributes ev s .nothing t where
  same := hs
  text := by simp [ht, hou]
  delta_iff := by simp [hqu]

theorem noteItem_sameStream (item : ResponsesOutput) (s : HandlerState) :
    SameStream s (noteItem item s) ∧ (noteItem item s).outputText = s.outputText := by
  unfold noteItem
  refine ⟨⟨rfl, rfl, rfl, rfl, rfl, rfl, fun hca => ?_⟩, rfl⟩
  dsimp only
  split
  next hid => rw [Function.update_of_ne (Ne.symm hid.1), hca]
  next => exact hca

theorem handleOutputItem_eq (ht : event.type = .outputItemAdded ∨ event.type = .outputItemDone)
    {item : ResponsesOutput} (hit : event.item = some item) :
    ∃ sdg t, handleOutputItem ctx item s = send ctx sdg t ∧ Contributes event s sdg t := by
  have hte : event.isText = false := by
    rcases ht with ht | ht <;> simp [isText, ht]
  have hse : event.sendsChunk s.hasText =
      (!s.hasText && (item.type = "function_call" && item.canonicalID ≠ "")) := by
    rcases ht with ht | ht <;> simp [sendsChunk, ht, hit]
  unfold handleOutputItem
  by_cases hc : item.type = "function_call"
  · rw [if_neg (not_not.mpr hc)]
    obtain ⟨sdg, t, heq, hs, hou, hif⟩ := sendToolCallDelta_eq ctx _
    obtain ⟨hnt, hno⟩ := noteItem_sameStream item s
    refine ⟨sdg, t, heq, hnt.trans hs, ?_, ?_⟩
    · rw [hou, hte, hno]
      simp
    · rw [hif, hse, hasText, hno]
      simp [hc, and_comm, hasText]
  · rw [if_pos hc]
    exact ⟨.nothing, s, rfl, contributes_nothing hte (by simp [hse, hc]) (.refl s) rfl⟩

theorem handleArgumentsDelta_eq
    (hty : event.type = .functionCallArgumentsDelta) (hca : s.toolCallCanonicalIDByItemID "" = "") :
    ∃ sdg t, handleArgumentsDelta ctx event.itemID event.delta s = send ctx sdg t ∧
      Contributes event s sdg t := by
  have ht : event.isText = false := by simp [isText, hty]
  have hse : event.sendsChunk s.hasText =
      (!s.hasText && trimSpace event.itemID ≠ "") := by
    simp [sendsChunk, hty]
  -- the call has no id exactly if the item has none
  have hid : s.callOf event.itemID = "" ↔ trimSpace event.itemID = "" := by
    dsimp only [callOf]
    constructor
    · intro h
      split at h
      · exact h
      next hne => exact absurd h hne
    · intro h
      rw [h, hca, if_pos rfl]
  unfold handleArgumentsDelta
  by_cases hit : trimSpace event.itemID = ""
  · rw [if_pos (hid.mpr hit)]
    exact ⟨.nothing, s, rfl, contributes_nothing ht (by simp [hse, hit]) (.refl s) rfl⟩
  rw [if_neg (mt hid.mp hit)]
  obtain ⟨sdg, t, heq, hs, hou, hif⟩ := sendToolCallDelta_eq ctx _
  refine ⟨sdg, t, heq, SameStream.trans ?_ hs, ?_, ?_⟩
  · exact ⟨rfl, rfl, rfl, rfl, rfl, rfl, id⟩
  · rw [hou, ht]
    simp [noteArguments]
  · rw [hif, hse]
    show s.callOf event.itemID ≠ "" ∧ s.hasText = false ↔ _
    simp [hid, hit]

theorem handleEvent_eq (her : ev.isError = false) (hcp : ev.type ≠ .completed)
    (hca : s.toolCallCanonicalIDByItemID "" = "") :
    ∃ sdg t, handleEvent ctx ev s = send ctx sdg t ∧ Contributes ev s sdg t := by
  have hno : ∀ t, ev.isText = false → ev.sendsChunk s.hasText = false →
      SameStream s t → t.outputText = s.outputText →
      ∃ sdg u, t = send ctx sdg u ∧ Contributes ev s sdg u :=
    fun t hte hqu hs hou => ⟨.nothing, t, rfl, contributes_nothing hte hqu hs hou⟩
  unfold handleEvent
  cases ht : ev.type with
  | created =>
    refine hno _ (by simp [isText, ht]) (by simp [sendsChunk, ht]) ?_ ?_
    · dsimp only [noteModel]
      repeat' split
      all_goals exact ⟨rfl, rfl, rfl, rfl, rfl, rfl, id⟩
    · dsimp only [noteModel]
      repeat' split
      all_goals rfl
  | reasoningSummaryTextDelta => exact sendReasoningSummaryDelta_eq ctx ht
  | reasoningSummaryTextDone =>
    refine hno _ (by simp [isText, ht]) (by simp [sendsChunk, ht]) ?_ ?_
    · dsimp only
      split <;> exact ⟨rfl, rfl, rfl, rfl, rfl, rfl, id⟩
    · dsimp only
      split <;> rfl
  | outputTextDelta => exact sendTextDelta_eq ctx ht
  | outputItemAdded | outputItemDone =>
    dsimp only
    split
    next hit =>
      exact hno s (by simp [isText, ht]) (by simp [sendsChunk, ht, hit]) (.refl s) rfl
    next item hit => exact handleOutputItem_eq ctx (by simp [ht]) hit
  | functionCallArgumentsDelta => exact handleArgumentsDelta_eq ctx ht hca
  | completed => exact absurd ht hcp
  | error | failed => simp [isError, ht] at her
  | functionCallArgumentsDone | other nm =>
    exact hno s (by simp [isText, ht]) (by simp [sendsChunk, ht]) (.refl s) rfl

end

/-! ## The chunks of a stream -/

def IsContent (chunk : ChatCompletionsStreamResponse) : Prop :=
  chunk.finished = false ∧ chunk.choices ≠ []

theorem isContent_deltaChunk : IsContent (deltaChunk ctx mdl d) :=
  ⟨rfl, cons_ne_nil _ _⟩

/-- What content does to the state: the chunks in `new` are sent. -/
structure ContentSent (s next : HandlerState) (new : List ChatCompletionsStreamResponse) :
    Prop where
  chunks : next.chunks = s.chunks ++ new
  content : ∀ chunk ∈ new, IsContent chunk
  sentStart : s.sentStart = true → next.sentStart = true
  sentStop : next.sentStop = s.sentStop
  streamErr : next.streamErr = s.streamErr
  canonical : s.toolCallCanonicalIDByItemID "" = "" → next.toolCallCanonicalIDByItemID "" = ""

theorem ContentSent.trans {u : HandlerState} {first second : List ChatCompletionsStreamResponse}
    (hst : ContentSent s t first)
    (htu : ContentSent t u second) : ContentSent s u (first ++ second) where
  chunks := by rw [htu.chunks, hst.chunks, append_assoc]
  content := forall_mem_append.mpr ⟨hst.content, htu.content⟩
  sentStart := fun h => htu.sentStart (hst.sentStart h)
  sentStop := htu.sentStop.trans hst.sentStop
  streamErr := htu.streamErr.trans hst.streamErr
  canonical := fun h => htu.canonical (hst.canonical h)

theorem SameStream.contentSent (h : SameStream s t) : ContentSent s t [] where
  chunks := by rw [h.chunks, append_nil]
  content := forall_mem_nil _
  sentStart := fun hs0 => h.sentStart.trans hs0
  sentStop := h.sentStop
  streamErr := h.streamErr
  canonical := h.canonical

/-- The content in `new` and then the stop chunk are sent. -/
structure StopSent (s next : HandlerState) (new : List ChatCompletionsStreamResponse)
    (stop : ChatCompletionsStreamResponse) : Prop where
  chunks : next.chunks = s.chunks ++ new ++ [stop]
  content : ∀ chunk ∈ new, IsContent chunk
  finished : stop.finished = true
  sentStart : next.sentStart = true
  sentStop : next.sentStop = true
  streamErr : next.streamErr = s.streamErr
  canonical : s.toolCallCanonicalIDByItemID "" = "" → next.toolCallCanonicalIDByItemID "" = ""
  text : next.hasText = s.hasText

variable {events evs : List ResponsesStreamResponse}

section

variable (ctx : HandlerContext)

theorem sendStartIfNeeded_sent :
    ∃ new, ContentSent s (sendStartIfNeeded ctx s) new ∧ (s.sentStart = true → new = []) ∧
      (sendStartIfNeeded ctx s).sentStart = true ∧
      (sendStartIfNeeded ctx s).outputText = s.outputText := by
  rcases Bool.eq_false_or_eq_true s.sentStart with hs0 | hs0
  · rw [sendStartIfNeeded_of_sent ctx hs0]
    exact ⟨[], (SameStream.refl s).contentSent, fun _ => rfl, hs0, rfl⟩
  · rw [sendStartIfNeeded_of_not_sent ctx hs0]
    refine ⟨_, ⟨rfl, ?_, fun _ => rfl, rfl, rfl, id⟩, fun h => absurd (hs0 ▸ h) nofun, rfl, rfl⟩
    exact forall_mem_singleton.mpr (isContent_deltaChunk)

theorem send_sent :
    ∃ new, ContentSent t (send ctx sdg t) new ∧
      (t.sentStart = true → (new = [] ↔ ¬∃ d, sdg = .delta d)) ∧
      (send ctx sdg t).outputText = t.outputText := by
  obtain ⟨sta, hst, hn, -, ht⟩ := sendStartIfNeeded_sent ctx
  cases sdg with
  | nothing => exact ⟨[], (SameStream.refl t).contentSent, fun _ => by simp, rfl⟩
  | start => exact ⟨sta, hst, fun h => by simp [hn h], ht⟩
  | delta d =>
    have hck : ContentSent (sendStartIfNeeded ctx t) (send ctx (.delta d) t)
        [deltaChunk ctx t.model d] := by
      refine ⟨rfl, ?_, id, rfl, rfl, id⟩
      exact forall_mem_singleton.mpr (isContent_deltaChunk)
    refine ⟨_, hst.trans hck, fun h => by simp, ht⟩

theorem noteResponse_same (response : Option OpenAIResponsesResponse) :
    SameStream s ((s.noteModel response).noteUsage response) ∧
      ((s.noteModel response).noteUsage response).outputText = s.outputText := by
  have hu : ∀ t : HandlerState, SameStream t (t.noteUsage response) ∧
      (t.noteUsage response).outputText = t.outputText := by
    intro t
    unfold noteUsage
    split
    all_goals exact ⟨⟨rfl, rfl, rfl, rfl, rfl, rfl, id⟩, rfl⟩
  have hmd : SameStream s (s.noteModel response) ∧
      (s.noteModel response).outputText = s.outputText := by
    unfold noteModel
    repeat' split
    all_goals exact ⟨⟨rfl, rfl, rfl, rfl, rfl, rfl, id⟩, rfl⟩
  exact ⟨hmd.1.trans (hu _).1, (hu _).2.trans hmd.2⟩

theorem handleEvent_sent (her : ev.isError = false)
    (hcp : ev.type = .completed → s.sentStart = true ∧ s.sentStop = true)
    (hca : s.toolCallCanonicalIDByItemID "" = "") :
    ∃ new, ContentSent s (handleEvent ctx ev s) new ∧
      (s.sentStart = true → (new = [] ↔ ev.sendsChunk s.hasText = false)) ∧
      (handleEvent ctx ev s).hasText = (s.hasText || ev.isText) := by
  by_cases ht : ev.type = .completed
  · -- the stop chunk has been sent, only the model and the usage are noted
    obtain ⟨hs0, hst⟩ := hcp ht
    have hno : ∀ t, t.sentStart = true → t.sentStop = true →
        sendStopIfNeeded ctx t.usage (sendStartIfNeeded ctx t) = t := by
      intro t htt hts
      rw [sendStartIfNeeded_of_sent ctx htt, sendStopIfNeeded, if_pos hts]
    obtain ⟨hs, hte⟩ := noteResponse_same ev.response
    have heq : handleEvent ctx ev s =
        (s.noteModel ev.response).noteUsage ev.response := by
      unfold handleEvent
      rw [ht]
      exact hno _ (hs.sentStart.trans hs0) (hs.sentStop.trans hst)
    rw [heq]
    refine ⟨[], hs.contentSent, fun _ => ?_, ?_⟩
    · simp [sendsChunk, ht]
    · rw [hasText, hte]
      simp [hasText, isText, ht]
  · obtain ⟨sdg, t, heq, h⟩ := handleEvent_eq ctx her ht hca
    obtain ⟨new, hn, hsi, hte⟩ := send_sent ctx
    rw [heq]
    refine ⟨new, ?_, fun hs0 => ?_, ?_⟩
    · simpa using h.same.contentSent.trans hn
    · rw [hsi (h.same.sentStart.trans hs0), h.delta_iff, Bool.not_eq_true]
    rw [hasText, hte, h.text]
    by_cases hev : ev.isText = true
    · have hd : ev.delta ≠ "" := by
        have := hev
        simp only [isText, Bool.and_eq_true, decide_eq_true_eq] at this
        exact this.2
      simp [hev, hd, String.append_eq_empty_iff]
    · simp [hev, hasText]

theorem isText_eq_false_of_silent (h : ev.sendsChunk has = false) : ev.isText = false := by
  unfold isText
  by_cases ht : ev.type = .outputTextDelta
  · simpa [sendsChunk, ht] using h
  · simp [ht]

theorem handleEvents_append (h : (handleEvents ctx first s).streamErr = none) :
    handleEvents ctx (first ++ second) s = handleEvents ctx second (handleEvents ctx first s) := by
  induction first generalizing s with
  | nil => rfl
  | cons event rs ih =>
    simp only [cons_append, handleEvents] at h ⊢
    split
    next her => rw [if_pos her] at h; simp [h] at her
    next her =>
      rw [if_neg her] at h
      rw [ih h]

theorem handleEvents_sent (her : ∀ event ∈ evs, event.isError = false)
    (hcp : (s.sentStart = true ∧ s.sentStop = true) ∨ ∀ event ∈ evs, event.type ≠ .completed)
    (hno : s.streamErr = none) (hca : s.toolCallCanonicalIDByItemID "" = "") :
    ∃ new, ContentSent s (handleEvents ctx evs s) new ∧
      (s.sentStart = true → (new = [] ↔ ∀ event ∈ evs, event.sendsChunk s.hasText = false)) ∧
      (handleEvents ctx evs s).hasText = (s.hasText || evs.any (·.isText)) := by
  induction evs generalizing s with
  | nil => exact ⟨[], (SameStream.refl s).contentSent, fun _ => by simp, by simp [handleEvents]⟩
  | cons event rs ih =>
    rw [forall_mem_cons] at her
    have hfi : event.type = .completed → s.sentStart = true ∧ s.sentStop = true := by
      intro hty
      rcases hcp with hse | hne
      · exact hse
      · exact absurd hty (hne event mem_cons_self)
    obtain ⟨new, hn, hsi, ht⟩ := handleEvent_sent ctx her.1 hfi hca
    have hx : (handleEvent ctx event s).streamErr = none := hn.streamErr.trans hno
    have hlt : ((handleEvent ctx event s).sentStart = true ∧
          (handleEvent ctx event s).sentStop = true) ∨
        ∀ event ∈ rs, event.type ≠ .completed := by
      rcases hcp with hse | hne
      · exact .inl ⟨hn.sentStart hse.1, hn.sentStop.trans hse.2⟩
      · exact .inr fun other hot => hne other (mem_cons_of_mem _ hot)
    obtain ⟨more, hmo, hsi', ht'⟩ := ih her.2 hlt hx (hn.canonical hca)
    have hr : handleEvents ctx (event :: rs) s =
        handleEvents ctx rs (handleEvent ctx event s) := by
      simp [handleEvents, hx]
    rw [hr]
    refine ⟨new ++ more, hn.trans hmo, fun hs0 => ?_, ?_⟩
    · rw [append_eq_nil_iff, hsi hs0, hsi' (hn.sentStart hs0), forall_mem_cons]
      refine and_congr_right fun hqu => ?_
      rw [ht, isText_eq_false_of_silent hqu, Bool.or_false]
    · rw [ht', ht, any_cons, Bool.or_assoc]

theorem finished_stopChunk : (stopChunk ctx s).finished = true := by
  show ((some s.finishReason).filter (· ≠ "")).isSome = true
  unfold finishReason
  split <;> rfl

theorem startAndStop_sent (h : s.sentStop = false) :
    ∃ new stop, StopSent s (sendStopIfNeeded ctx u (sendStartIfNeeded ctx s)) new stop := by
  obtain ⟨new, hn, -, hs0, ht⟩ := sendStartIfNeeded_sent ctx
  refine ⟨new, stopChunk ctx (sendStartIfNeeded ctx s), ?_⟩
  unfold sendStopIfNeeded noteConvertUsage
  rw [if_neg (by rw [hn.sentStop, h]; exact Bool.false_ne_true)]
  -- noting the usage changes nothing that is looked at
  split
  all_goals exact
    { chunks := congrArg (· ++ [_]) hn.chunks
      content := hn.content
      finished := finished_stopChunk ctx
      sentStart := hs0
      sentStop := rfl
      streamErr := hn.streamErr
      canonical := hn.canonical
      text := congrArg (fun tx : String => decide (tx ≠ "")) ht }

theorem handleEvent_completed_sent (hty : ev.type = .completed) (h : s.sentStop = false) :
    ∃ new stop, StopSent s (handleEvent ctx ev s) new stop := by
  obtain ⟨hs, ht⟩ := noteResponse_same ev.response
  obtain ⟨new, stop, hse⟩ :=
    startAndStop_sent ctx
      (hs.sentStop.trans h)
  have heq : handleEvent ctx ev s =
      sendStopIfNeeded ctx ((s.noteModel ev.response).noteUsage ev.response).usage
        (sendStartIfNeeded ctx ((s.noteModel ev.response).noteUsage ev.response)) := by
    unfold handleEvent
    rw [hty]
  rw [heq]
  exact ⟨new, stop,
    { hse with
      chunks := by rw [hse.chunks, hs.chunks]
      streamErr := hse.streamErr.trans hs.streamErr
      canonical := fun hem => hse.canonical (hs.canonical hem)
      text := hse.text.trans (congrArg (fun tx : String => decide (tx ≠ "")) ht) }⟩

theorem handleEvent_canonical (her : ev.isError = false)
    (hca : s.toolCallCanonicalIDByItemID "" = "") :
    (handleEvent ctx ev s).toolCallCanonicalIDByItemID "" = "" := by
  by_cases ht : ev.type = .completed
  · rcases Bool.eq_false_or_eq_true s.sentStop with hs | hs
    · -- only the start may be due
      obtain ⟨hsa, -⟩ := noteResponse_same ev.response
      obtain ⟨new, hn, -⟩ := sendStartIfNeeded_sent ctx
      unfold handleEvent
      rw [ht]
      dsimp only [sendStopIfNeeded]
      rw [if_pos (hn.sentStop.trans (hsa.sentStop.trans hs))]
      exact hn.canonical (hsa.canonical hca)
    · obtain ⟨new, stop, hse⟩ := handleEvent_completed_sent ctx ht hs
      exact hse.canonical hca
  · obtain ⟨new, hn, -⟩ := handleEvent_sent ctx her (fun h => absurd h ht) hca
    exact hn.canonical hca

end

/-! ## Clients of OpenAI -/

def StopsOnce (chunks : List ChatCompletionsStreamResponse) : Prop :=
  ∃ before stop after, chunks = before ++ stop :: after ∧
    (∀ chunk ∈ before, chunk.finished = false) ∧ stop.finished = true ∧
    ∀ chunk ∈ after, chunk.choices = []

theorem openAITerminated_iff : OpenAITerminated (cks.map .chunk ++ [.done]) ↔ StopsOnce cks := by
  have hin : Function.Injective OpenAIMessage.chunk := fun _ _ h => by cases h; rfl
  constructor
  · rintro ⟨pre, stop, after, heq, hr⟩
    have hma := append_cancel_right heq
    exact ⟨pre, stop, after, map_injective_iff.mpr hin hma, hr⟩
  · rintro ⟨pre, stop, after, rfl, hr⟩
    exact ⟨pre, stop, after, rfl, hr⟩

theorem stopsOnce_iff (hpr : ∀ ck ∈ pre, IsContent ck) (hs : stop.finished = true)
    (hn : ∀ ck ∈ new, IsContent ck) (haf : ∀ ck ∈ aft, ck.choices = []) :
    StopsOnce (pre ++ stop :: (new ++ aft)) ↔ new = [] := by
  have hdr : ∀ first (ck : ChatCompletionsStreamResponse) second,
      (∀ ck ∈ first, ck.finished = false) → ck.finished = true →
      (first ++ ck :: second).dropWhile (fun ck => !ck.finished) = ck :: second := by
    intro first ck second hfi hck
    rw [dropWhile_append_of_pos (fun other hot => by simp [hfi other hot]),
      dropWhile_cons_of_neg (by simp [hck])]
  constructor
  · rintro ⟨pre', stop', aft', heq, hpr', hs', haf'⟩
    -- both decompositions are at the first chunk with a finish reason
    have hcu := congrArg (List.dropWhile fun ck => !ck.finished) heq
    rw [hdr _ _ _ (fun ck hck => (hpr ck hck).1) hs, hdr _ _ _ hpr' hs'] at hcu
    obtain ⟨-, rfl⟩ := List.cons.inj hcu
    cases new with
    | nil => rfl
    | cons ck rs =>
      have hch := haf' ck mem_cons_self
      exact absurd hch (hn ck mem_cons_self).2
  · rintro rfl
    exact ⟨pre, stop, aft, rfl, fun ck hck => (hpr ck hck).1, hs, haf⟩

theorem events_split :
    (afterCompleted events = [] ∧ events = beforeCompleted events) ∨
      ∃ cpd, cpd.type = .completed ∧
        events = beforeCompleted events ++ cpd :: afterCompleted events := by
  unfold beforeCompleted afterCompleted
  have hap := @takeWhile_append_dropWhile _ (fun e => decide (e.type ≠ .completed)) events
  cases hdr : events.dropWhile (fun e => decide (e.type ≠ .completed)) with
  | nil =>
    rw [hdr, append_nil] at hap
    exact .inl ⟨rfl, hap.symm⟩
  | cons cpd rs =>
    rw [hdr] at hap
    have hne : events.dropWhile (fun e => decide (e.type ≠ .completed)) ≠ [] := by
      rw [hdr]
      exact cons_ne_nil _ _
    have hhe := head_dropWhile_not _ hne
    simp only [hdr, head_cons, decide_eq_false_iff_not, not_not] at hhe
    exact .inr ⟨cpd, hhe, hap.symm⟩

theorem beforeCompleted_ne_completed : ∀ event ∈ beforeCompleted evs, event.type ≠ .completed := by
  intro event hev
  simpa using mem_takeWhile_imp hev

section

variable (ctx : HandlerContext)

theorem choices_usageChunks : ∀ chunk ∈ usageChunks ctx u s, chunk.choices = [] := by
  unfold usageChunks
  split
  · exact forall_mem_singleton.mpr rfl
  · exact forall_mem_nil _

def initialState : HandlerState :=
  { model := ctx.upstreamModelName }

theorem finishStream_chunks (her : ∀ event ∈ evs, event.isError = false) :
    (handleEvents ctx evs (initialState ctx)).streamErr = none ∧
    ∃ pre stop new, (∀ ck ∈ pre, IsContent ck) ∧ stop.finished = true ∧
      (∀ ck ∈ new, IsContent ck) ∧
      (finishStream ctx (handleEvents ctx evs (initialState ctx))).chunks = pre ++ stop :: new ∧
      (new = [] ↔ ∀ event ∈ afterCompleted evs,
        event.sendsChunk ((beforeCompleted evs).any (·.isText)) = false) := by
  have heb : ∀ event ∈ beforeCompleted evs, event.isError = false :=
    fun event hev => her event ((takeWhile_sublist _).subset hev)
  obtain ⟨pre, hpr, -, ht⟩ := handleEvents_sent ctx heb
    (.inr beforeCompleted_ne_completed) (by rfl : (initialState ctx).streamErr = none) rfl
  have hck : (handleEvents ctx (beforeCompleted evs) (initialState ctx)).chunks = pre := hpr.chunks
  rcases events_split with ⟨haf, heq⟩ | ⟨completed, hty, heq⟩
  · -- without the event the stop chunk is sent at the end
    rw [← heq] at hpr hck
    obtain ⟨sta, stop, hs⟩ := startAndStop_sent ctx hpr.sentStop
    refine ⟨hpr.streamErr, pre ++ sta, stop, [],
      forall_mem_append.mpr ⟨hpr.content, hs.content⟩, hs.finished,
      forall_mem_nil _, ?_, ?_⟩
    · rw [finishStream, hs.chunks, hck]
    · simp [haf]
  · have hea : ∀ event ∈ afterCompleted evs, event.isError = false := fun event hev =>
      her event (heq ▸ mem_append_right _ (mem_cons_of_mem _ hev))
    obtain ⟨sta, stop, hs⟩ := handleEvent_completed_sent ctx hty hpr.sentStop
    have hno := hs.streamErr.trans hpr.streamErr
    obtain ⟨new, hn, hsi, -⟩ := handleEvents_sent ctx hea
      (.inl ⟨hs.sentStart, hs.sentStop⟩) hno (hs.canonical (hpr.canonical rfl))
    -- the three parts of the stream are handled one after the other
    have hr : handleEvents ctx evs (initialState ctx) =
        handleEvents ctx (afterCompleted evs) (handleEvent ctx completed
          (handleEvents ctx (beforeCompleted evs) (initialState ctx))) := by
      conv_lhs => rw [heq]
      rw [handleEvents_append ctx hpr.streamErr]
      exact if_neg (by rw [hno]; exact Bool.false_ne_true)
    rw [← hr] at hn
    refine ⟨hn.streamErr.trans hno, pre ++ sta, stop, new,
      forall_mem_append.mpr ⟨hpr.content, hs.content⟩, hs.finished, hn.content,
      ?_, ?_⟩
    · -- nothing is due any more
      rw [finishStream, sendStartIfNeeded_of_sent ctx (hn.sentStart hs.sentStart), sendStopIfNeeded,
        if_pos (hn.sentStop.trans hs.sentStop), hn.chunks, hs.chunks, hck]
      simp
    · rw [hsi hs.sentStart, hs.text, ht]
      rfl

theorem openAI_terminated_iff (hformat : ctx.format = .openAI)
    (her : ∀ event ∈ evs, event.isError = false) :
    OpenAITerminated (oaiResponsesToChatStreamHandler ctx {} evs).chunks ↔
      ∀ event ∈ afterCompleted evs,
        event.sendsChunk ((beforeCompleted evs).any (·.isText)) = false := by
  obtain ⟨hn, pre, stop, new, hpr, hs, hne, hck, hif⟩ := finishStream_chunks ctx her
  let fin := handleEvents ctx evs (initialState ctx)
  have hr : (oaiResponsesToChatStreamHandler ctx {} evs).chunks =
      ((finishStream ctx fin).chunks ++
        usageChunks ctx (fin.finalUsage ctx) (finishStream ctx fin)).map .chunk ++ [.done] := by
    show (endStream ctx fin).chunks = _
    unfold endStream
    rw [hn, hformat]
  rw [hr, openAITerminated_iff, hck, append_assoc, cons_append,
    stopsOnce_iff hpr hs hne (choices_usageChunks ctx), hif]

end

/-! ## Clients of Claude -/

def InMessage (event : ClaudeResponse) : Prop :=
  event.type ≠ .messageDelta ∧ event.type ≠ .messageStop

theorem inMessage_of_type {event : ClaudeResponse} (type : EventType) (ht : event.type = type)
    (h : type ≠ .messageDelta ∧ type ≠ .messageStop) : InMessage event := by
  rw [InMessage, ht]
  exact h

theorem inMessage_stopOpenBlocks : ∀ event ∈ stopOpenBlocks inf, InMessage event := by
  have hs : ∀ idx, InMessage (generateStopBlock idx) := fun _ =>
    inMessage_of_type .contentBlockStop rfl (by decide)
  unfold stopOpenBlocks
  split
  · exact forall_mem_singleton.mpr (hs _)
  · exact forall_mem_singleton.mpr (hs _)
  · exact forall_mem_map.mpr fun off _ => hs _
  · exact forall_mem_nil _

theorem inMessage_stopOpenBlocksAndAdvance :
    ∀ event ∈ (stopOpenBlocksAndAdvance inf).1, InMessage event := by
  unfold stopOpenBlocksAndAdvance
  split
  · exact forall_mem_nil _
  · exact inMessage_stopOpenBlocks
  · exact inMessage_stopOpenBlocks

theorem inMessage_relayPiece
    (inf : ClaudeConvertInfo) : ∀ event ∈ (relayPiece last blk d inf).1, InMessage event := by
  by_cases hl : inf.lastMessagesType = last
  · simp only [relayPiece, hl, ne_eq, not_true_eq_false, if_false, nil_append]
    exact forall_mem_singleton.mpr (inMessage_of_type .contentBlockDelta rfl (by decide))
  · rw [relayPiece_of_ne blk d hl]
    refine forall_mem_append.mpr ⟨inMessage_stopOpenBlocksAndAdvance, ?_⟩
    simp [InMessage, startBlock, deltaBlock]

theorem inMessage_toolCallLoop
    (mo : Int) : ∀ event ∈ (toolCallLoop bs cs mo).1, InMessage event := by
  induction cs generalizing mo with
  | nil => exact forall_mem_nil _
  | cons call rs ih =>
    refine forall_mem_append.mpr ⟨?_, ih _⟩
    intro event hev
    rcases mem_append.mp hev with hs0 | hpc
    · split at hs0
      · rw [mem_singleton.mp hs0]
        exact inMessage_of_type .contentBlockStart rfl (by decide)
      · cases hs0
    split at hpc
    · rw [mem_singleton.mp hpc]
      exact inMessage_of_type .contentBlockDelta rfl (by decide)
    · cases hpc

theorem inMessage_relayDelta : ∀ event ∈ (relayDelta d inf).1, InMessage event := by
  rcases relayDelta_cases d with ⟨-, heq⟩ | ⟨-, -, heq⟩ | ⟨-, -, -, heq⟩ | ⟨-, -, -, heq⟩
  · rw [heq]
    show ∀ event ∈ (enterTools inf).1 ++ (toolCallLoop _ _ _).1, InMessage event
    refine forall_mem_append.mpr ⟨?_, inMessage_toolCallLoop _⟩
    unfold enterTools
    split
    · exact inMessage_stopOpenBlocksAndAdvance
    · exact forall_mem_nil _
  · rw [heq]
    exact inMessage_relayPiece inf
  · rw [heq]
    exact inMessage_relayPiece inf
  · rw [heq]
    exact forall_mem_nil _

theorem convertLater_inMessage (hu : chunk.usage = none)
    (hch : chunk.choices ≠ []) (ho : inf.done = false) :
    (∀ event ∈ (convertLater chunk inf).1, InMessage event) ∧
      (convertLater chunk inf).2.done = false := by
  rcases convertLater_cases chunk inf with ⟨hni, -⟩ | ⟨hni, -⟩ | ⟨choice, os, -, hca⟩
  · exact absurd hni hch
  · exact absurd hni hch
  rcases hca with ⟨-, heq⟩ | ⟨finishReason, -, ⟨-, heq⟩ | ⟨usage, hso, -⟩⟩
  · rw [heq]
    refine ⟨inMessage_relayDelta, ?_⟩
    have hd := congrArg Prod.fst (message_relayDelta choice.delta inf)
    exact hd.trans ho
  · -- the finish reason is remembered until a usage comes
    rw [heq]
    exact ⟨forall_mem_nil _, ho⟩
  · rw [hu] at hso
    cases hso

/-- The message of a client of Claude has not been ended. Its first chunk is the start. -/
structure Unended (s : HandlerState) : Prop where
  fresh : s.sentStart = false → s.info = {}
  counted : s.sentStart = true → 1 ≤ s.info.sendResponseCount
  notDone : s.info.claudeConvertInfo.done = false
  events : ∀ event ∈ s.events, InMessage event

theorem SameStream.unended (h : SameStream s t) (hs : Unended s) : Unended t where
  fresh := fun hs0 => h.info ▸ hs.fresh (h.sentStart ▸ hs0)
  counted := fun hs0 => h.info ▸ hs.counted (h.sentStart ▸ hs0)
  notDone := h.info ▸ hs.notDone
  events := h.events ▸ hs.events

section

variable {ctx : HandlerContext} (hformat : ctx.format = .claude)

include hformat

theorem Unended.start (hs : Unended s) : Unended (sendStartIfNeeded ctx s) := by
  rcases Bool.eq_false_or_eq_true s.sentStart with hs0 | hs0
  · rw [sendStartIfNeeded_of_sent ctx hs0]
    exact hs
  rw [sendStartIfNeeded_of_not_sent ctx hs0]
  let ck := deltaChunk ctx s.model { role := "assistant", content := some "" }
  -- the first chunk only starts the message
  have hco : convertFirst ctx.stream.estimatePromptTokens ck (firstInfo ck) =
      ([startMessage ck ctx.stream.estimatePromptTokens], firstInfo ck) := by
    simp [convertFirst, Emit.andThen, firstToolCall, firstContent, firstFinish, ck, deltaChunk,
      getReasoningContent,
      getContentString,
      ChatCompletionsStreamResponseChoice.finished?]
  have hde : deliver ctx ck s.info =
      ([startMessage ck ctx.stream.estimatePromptTokens],
        { sendResponseCount := 1, claudeConvertInfo := firstInfo ck }) := by
    rw [deliver, hformat, hs.fresh hs0]
    rw [handleStreamFormat_first, hco]
  refine ⟨fun h => absurd h Bool.true_eq_false.mp, fun _ => ?_, ?_, ?_⟩
  · show 1 ≤ (deliver ctx ck s.info).2.sendResponseCount
    rw [hde]
  · show (deliver ctx ck s.info).2.claudeConvertInfo.done = false
    rw [hde]
    rfl
  show ∀ event ∈ s.events ++ (deliver ctx ck s.info).1, InMessage event
  rw [hde]
  exact forall_mem_append.mpr
    ⟨hs.events, forall_mem_singleton.mpr (inMessage_of_type .messageStart rfl (by decide))⟩

theorem Unended.chunk (hs : Unended s) (hs0 : s.sentStart = true)
    {chunk : ChatCompletionsStreamResponse} (hu : chunk.usage = none)
    (hch : chunk.choices ≠ []) : Unended (sendChatChunk ctx chunk s) := by
  have hde : deliver ctx chunk s.info = handleStreamFormat ctx.stream chunk s.info := by
    rw [deliver, hformat]
  have hlt := handleStreamFormat_later ctx.stream chunk hs.notDone (hs.counted hs0)
  let inf := s.info.claudeConvertInfo.withUsage (chunk.usage <|> s.info.claudeConvertInfo.usage)
  have ho : inf.done = false := hs.notDone
  obtain ⟨hev, hd⟩ := convertLater_inMessage hu hch ho
  refine ⟨fun h => absurd (hs0.symm.trans h) nofun, fun _ => ?_, ?_, ?_⟩
  · show 1 ≤ (deliver ctx chunk s.info).2.sendResponseCount
    rw [hde, hlt]
    exact Nat.le_add_left 1 _
  · show (deliver ctx chunk s.info).2.claudeConvertInfo.done = false
    rw [hde, hlt]
    exact hd
  · show ∀ event ∈ s.events ++ (deliver ctx chunk s.info).1, InMessage event
    rw [hde, hlt]
    exact forall_mem_append.mpr ⟨hs.events, hev⟩

theorem Unended.send (ht : Unended t) (sdg : Sending) : Unended (send ctx sdg t) := by
  obtain ⟨-, -, -, hs0, -⟩ := sendStartIfNeeded_sent ctx
  cases sdg with
  | nothing => exact ht
  | start => exact ht.start hformat
  | delta d => exact (ht.start hformat).chunk hformat hs0 rfl (cons_ne_nil _ _)

theorem Unended.stop (hs : Unended s) (u : Usage) :
    Unended (sendStopIfNeeded ctx u (sendStartIfNeeded ctx s)) := by
  obtain ⟨-, -, -, hs0, -⟩ := sendStartIfNeeded_sent ctx
  have hst := hs.start hformat
  unfold sendStopIfNeeded
  split
  · exact hst
  have hnt : Unended (noteConvertUsage ctx u (sendStartIfNeeded ctx s)) := by
    unfold noteConvertUsage
    rw [if_pos hformat]
    exact ⟨fun h => absurd (hs0.symm.trans h) nofun, hst.counted, hst.notDone, hst.events⟩
  have hno : (noteConvertUsage ctx u (sendStartIfNeeded ctx s)).sentStart = true := by
    unfold noteConvertUsage
    rw [if_pos hformat]
    exact hs0
  have hse := @Unended.chunk _ ctx hformat hnt hno
    (stopChunk ctx (sendStartIfNeeded ctx s)) rfl (cons_ne_nil _ _)
  exact ⟨hse.fresh, hse.counted, hse.notDone, hse.events⟩

theorem Unended.handleEvent (hs : Unended s) (her : ev.isError = false)
    (hca : s.toolCallCanonicalIDByItemID "" = "") : Unended (handleEvent ctx ev s) := by
  by_cases ht : ev.type = .completed
  · have hno := (noteResponse_same ev.response).1.unended hs
    unfold Responses.handleEvent
    rw [ht]
    exact hno.stop hformat _
  · obtain ⟨sdg, t, heq, h⟩ := handleEvent_eq ctx her ht hca
    rw [heq]
    exact (h.same.unended hs).send hformat sdg

theorem Unended.handleEvents (hs : Unended s) (her : ∀ event ∈ evs, event.isError = false)
    (hca : s.toolCallCanonicalIDByItemID "" = "") : Unended (handleEvents ctx evs s) := by
  induction evs generalizing s with
  | nil => exact hs
  | cons event rs ih =>
    rw [forall_mem_cons] at her
    have hx := hs.handleEvent hformat her.1 hca
    dsimp only [Responses.handleEvents]
    split
    · exact hx
    · exact ih hx her.2 (handleEvent_canonical ctx her.1 hca)

theorem not_claudeTerminated (her : ∀ event ∈ evs, event.isError = false) :
    ¬ClaudeTerminated (oaiResponsesToChatStreamHandler ctx {} evs).events := by
  have hin : Unended (initialState ctx) := ⟨fun _ => rfl, nofun, rfl, forall_mem_nil _⟩
  have hfi := (hin.handleEvents hformat her rfl).stop hformat
    ((Responses.handleEvents ctx evs (initialState ctx)).finalUsage ctx)
  have hr : (oaiResponsesToChatStreamHandler ctx {} evs).events =
      (finishStream ctx (Responses.handleEvents ctx evs (initialState ctx))).events := by
    show (endStream ctx (Responses.handleEvents ctx evs (initialState ctx))).events = _
    unfold endStream
    rw [(finishStream_chunks ctx her).1, hformat]
  rw [hr]
  rintro ⟨bdy, delta, stop, heq, -, -, -, hs⟩
  have hm : stop ∈ bdy ++ [delta, stop] := by simp
  exact (hfi.events stop (heq ▸ hm)).2 hs

end

/-- For every stream of events without an error, the handler ends the client's stream as its format
demands exactly if the client is one of OpenAI and no event after the first `response.completed`
sends a chunk. -/
theorem responses_stream_terminated_iff (ctx : HandlerContext)
    {events : List ResponsesStreamResponse} (herror : ∀ event ∈ events, event.isError = false) :
    Terminated ctx (oaiResponsesToChatStreamHandler ctx {} events) ↔
      ctx.format = .openAI ∧ ∀ event ∈ afterCompleted events,
        event.sendsChunk ((beforeCompleted events).any (·.isText)) = false := by
  unfold Terminated
  cases hformat : ctx.format with
  | openAI => simpa using openAI_terminated_iff ctx hformat herror
  | claude => simpa using not_claudeTerminated hformat herror

def plainHandler (format : ClientFormat) : HandlerContext where
  format := format
  responseId := "chatcmpl-1"
  upstreamModelName := "gpt-5"
  shouldIncludeUsage := false
  responseText2Usage _ := ({ promptTokens := 10, completionTokens := 5 }, 15)
  stream := plainContext

/-- `response.completed` with a usage. -/
def completedEvent : ResponsesStreamResponse where
  type := .completed
  response := some { usage := some { inputTokens := 10, outputTokens := 5, totalTokens := 15 } }

/-- A text for a client of OpenAI is ended once. -/
theorem plain_text_terminated :
    Terminated (plainHandler .openAI)
      (oaiResponsesToChatStreamHandler
        (plainHandler .openAI) {} [textEvent "Hi", completedEvent]) :=
  (responses_stream_terminated_iff (plainHandler .openAI) (by decide)).mpr ⟨rfl, by decide⟩

/-- The same text leaves a client of Claude with an open block and no end, and a piece of text
after `response.completed` reaches a client of OpenAI after the finish reason. -/
theorem stream_not_terminated :
    (oaiResponsesToChatStreamHandler (plainHandler .claude) {}
        [textEvent "Hi", completedEvent]).events.map (·.type) =
      [.messageStart, .contentBlockStart, .contentBlockDelta] ∧
    ¬Terminated (plainHandler .claude)
      (oaiResponsesToChatStreamHandler (plainHandler .claude) {} [textEvent "Hi", completedEvent]) ∧
    ¬Terminated (plainHandler .openAI)
      (oaiResponsesToChatStreamHandler (plainHandler .openAI) {}
        [textEvent "Hi", completedEvent, textEvent "!"]) := by
  refine ⟨by decide +kernel, ?_, ?_⟩
  · exact not_claudeTerminated rfl (by decide)
  · exact mt (openAI_terminated_iff (plainHandler .openAI) rfl (by decide)).mp (by decide)

end NewApi.Responses
