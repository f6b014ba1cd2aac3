import NewApi.Relay.Attempts
import NewApi.Responses.Handler
import NewApi.Streams.ClaudeToOpenAI

/-!
# Streams that fail on the way

An error in the middle of a stream is returned as one before the first byte is, and the loop of
`Relay` decides about a further attempt from the error alone.
-/

namespace NewApi.Relay

open Lib Lib.Ranking Channels Streams Responses Option

/-! ## Claude streams -/

/-- The data of an event of a Claude stream: it cannot be parsed, or it is a response with or
without an error. -/
inductive ClaudeStreamData where
  | unparsable (message : String)
  | parsed (response : ClaudeResponse) (error : Option ClaudeError := none)

/-- What is written to the client. A chunk that is nil is written as `null`. -/
inductive Written where
  | event (response : ClaudeResponse)
  | chunk (chunk : Option ChatCompletionsStreamResponse)
  | done

/-- What the handler does with an event. A panic ends the reading of the stream. -/
inductive DataResult where
  | written (messages : List Written)
  | failed (error : NewAPIError)
  | panicked

/-- The result of `FormatClaudeResponseInfo`. -/
def formatClaudeResponseInfo (claudeResponse : ClaudeResponse) : Bool :=
  match claudeResponse.type with
  | .messageStart | .contentBlockDelta | .messageDelta | .contentBlockStart => true
  | _ => false

def handleStreamResponseData (format : ClientFormat) (data : ClaudeStreamData) : DataResult :=
  match data with
  | .unparsable message => .failed { errorCode := "bad_response_body", message }
  | .parsed claudeResponse error =>
    match error.filter (·.type ≠ "") with
    | some claudeError => .failed (withClaudeError claudeError 500)
    | none =>
      match format with
      | .claude => .written [.event claudeResponse]
      | .openAI =>
        match streamResponseClaude2OpenAI claudeResponse with
        | none => .panicked
        | some response =>
          if formatClaudeResponseInfo claudeResponse then .written [.chunk response]
          else .written []

def handleStreamData (format : ClientFormat) :
    List ClaudeStreamData → List Written × Option NewAPIError
  | [] => ([], none)
  | data :: rest =>
    match handleStreamResponseData format data with
    | .written messages =>
      let (later, error) := handleStreamData format rest
      (messages ++ later, error)
    | .failed error => ([], some error)
    | .panicked => ([], none)

/-- The usage, if the client has asked for it, and `[DONE]`. -/
def handleStreamFinalResponse (ctx : HandlerContext) (usage : Billing.Usage) : List Written :=
  match ctx.format with
  | .claude => []
  | .openAI =>
    (if ctx.shouldIncludeUsage then
      [.chunk (some
        { id := ctx.responseId, model := ctx.upstreamModelName, usage := some usage })]
    else []) ++ [.done]

/-- The usage that is reported in the end is given. -/
def claudeStreamHandler (ctx : HandlerContext) (usage : Billing.Usage)
    (events : List ClaudeStreamData) : List Written × Option NewAPIError :=
  match handleStreamData ctx.format events with
  | (messages, some error) => (messages, some error)
  | (messages, none) => (messages ++ handleStreamFinalResponse ctx usage, none)

/-! ## One attempt -/

inductive Upstream where
  /-- There is an error before the stream. -/
  | refused (error : NewAPIError)
  | claude (events : List ClaudeStreamData) (usage : Billing.Usage)
  | responses (events : List ResponsesStreamResponse)
  /-- The body of the request cannot be read again. -/
  | aborted

/-- An attempt as the outside world determines it. `statusCodeMapping` is that of the channel. -/
structure StreamTrial where
  cache : ChannelCache
  intn : Lib.Pick.Intn
  context : HandlerContext
  statusCodeMapping : Int → Option Int := fun _ => none
  upstream : Upstream

def resetStatusCode (statusCodeMapping : Int → Option Int) (err : NewAPIError) : NewAPIError :=
  if err.statusCode = 200 then err
  else { err with statusCode := (statusCodeMapping err.statusCode).getD err.statusCode }

def NewAPIError.relayError (err : NewAPIError) : RelayError where
  isChannelError := startsWith err.errorCode "channel:"
  skipRetry := err.skipRetry
  statusCode := err.statusCode
  alwaysSkipRetryCode := err.errorCode = "bad_response_body"

/-- What an attempt has come to: whether a chunk was written to the client, and its result. -/
structure StreamOutcome where
  written : Bool
  result : AttemptResult
  info : RelayInfo

/-- The result of an attempt with this error, after `NormalizeViolationFeeError`. -/
def attemptResult (error : Option NewAPIError) : AttemptResult :=
  match error with
  | none => .success
  | some err => .failed (normalizeViolationFeeError err).relayError

def streamAttempt (format : ClientFormat) (trial : StreamTrial) (info : RelayInfo) :
    StreamOutcome :=
  let ctx := { trial.context with format }
  match trial.upstream with
  | .refused error => ⟨false, attemptResult (some error), info⟩
  | .claude events usage =>
    let (messages, error) := claudeStreamHandler ctx usage events
    ⟨!messages.isEmpty, attemptResult (error.map (resetStatusCode trial.statusCodeMapping)), info⟩
  | .responses events =>
    let result := oaiResponsesToChatStreamHandler ctx info events
    ⟨!result.chunks.isEmpty || !result.events.isEmpty,
      attemptResult (result.error.map (resetStatusCode trial.statusCodeMapping)), result.info⟩
  | .aborted => ⟨false, .aborted, info⟩

/-! ## All attempts -/

structure StreamRequest where
  call : RelayCall
  channels : List Channel
  format : ClientFormat
  trials : Nat → StreamTrial

namespace StreamRequest

def infoBefore (request : StreamRequest) : Nat → RelayInfo
  | 0 => {}
  | n + 1 => (streamAttempt request.format (request.trials n) (request.infoBefore n)).info

def outcome (request : StreamRequest) (n : Nat) : StreamOutcome :=
  streamAttempt request.format (request.trials n) (request.infoBefore n)

def trial (request : StreamRequest) (n : Nat) : Trial where
  cache := (request.trials n).cache
  intn := (request.trials n).intn
  result := (request.outcome n).result

/-- The loop after `n` iterations. -/
def run (request : StreamRequest) (n : Nat) : RelayState :=
  relayRun request.call request.channels request.trial n

end StreamRequest

/-! ## Errors after the first chunk -/

/-- An event of the stream fails with this error, after an event for which something is written. -/
def FailsLate {Event : Type} (writes : Event → Prop) (fails : Event → NewAPIError → Prop)
    (events : List Event) (error : NewAPIError) : Prop :=
  ∃ before event after, events = before ++ event :: after ∧ fails event error ∧
    ∃ earlier ∈ before, writes earlier

def claudeWrites (format : ClientFormat) (data : ClaudeStreamData) : Prop :=
  ∃ messages, messages ≠ [] ∧ handleStreamResponseData format data = .written messages

def claudeFails (format : ClientFormat) (data : ClaudeStreamData) (error : NewAPIError) : Prop :=
  handleStreamResponseData format data = .failed error

/-- The types of the events for which chunks are written. -/
def responsesWrites (event : ResponsesStreamResponse) : Prop :=
  event.type = .reasoningSummaryTextDelta ∨ event.type = .outputTextDelta ∨
    event.type = .outputItemAdded ∨ event.type = .outputItemDone ∨
    event.type = .functionCallArgumentsDelta ∨ event.type = .completed

def responsesFails (event : ResponsesStreamResponse) (error : NewAPIError) : Prop :=
  (event.type = .error ∨ event.type = .failed) ∧ error = streamError event

/-- The errors that come after a chunk in what the upstream sends. -/
def Upstream.LateError (format : ClientFormat) : Upstream → NewAPIError → Prop
  | .claude events _ => FailsLate (claudeWrites format) (claudeFails format) events
  | .responses events => FailsLate responsesWrites responsesFails events
  | .refused _ | .aborted => fun _ => False

section

variable {ctx : HandlerContext} {format : ClientFormat} {error : NewAPIError}

theorem handleStreamData_failsLate {events : List ClaudeStreamData} {messages : List Written}
    (h : handleStreamData format events = (messages, some error)) :
    ∃ before data after, events = before ++ data :: after ∧ claudeFails format data error ∧
      (messages ≠ [] → ∃ earlier ∈ before, claudeWrites format earlier) := by
  induction events generalizing messages with
  | nil => cases h
  | cons data rest ih =>
    rw [handleStreamData] at h
    split at h
    next written hdata =>
      cases hrest : handleStreamData format rest with
      | mk later failed =>
        rw [hrest] at h
        cases h
        obtain ⟨before, failing, after, rfl, hfails, hwrites⟩ := ih hrest
        refine ⟨data :: before, failing, after, rfl, hfails, fun hne => ?_⟩
        -- something was written for this event or for a later one
        by_cases hnil : written = []
        · obtain ⟨earlier, hmem, hearlier⟩ := hwrites (by simpa [hnil] using hne)
          exact ⟨earlier, List.mem_cons_of_mem _ hmem, hearlier⟩
        · exact ⟨data, List.mem_cons_self, written, hnil, hdata⟩
    next failed hdata =>
      cases h
      exact ⟨[], data, rest, rfl, hdata, fun hne => absurd rfl hne⟩
    next => cases h

theorem sendStartIfNeeded_streamErr (state : Responses.HandlerState) :
    (sendStartIfNeeded ctx state).streamErr = state.streamErr := by
  unfold sendStartIfNeeded
  split <;> rfl

theorem sendToolCallDelta_streamErr (callID name delta : String) (state : Responses.HandlerState) :
    (sendToolCallDelta ctx callID name delta state).streamErr = state.streamErr := by
  unfold sendToolCallDelta
  split
  · rfl
  split
  · rfl
  · exact sendStartIfNeeded_streamErr state

theorem sendReasoningSummaryDelta_streamErr (delta : String) (state : Responses.HandlerState) :
    (sendReasoningSummaryDelta ctx delta state).streamErr = state.streamErr := by
  unfold sendReasoningSummaryDelta
  split
  · rfl
  · exact sendStartIfNeeded_streamErr _

theorem sendTextDelta_streamErr (delta : String) (state : Responses.HandlerState) :
    (sendTextDelta ctx delta state).streamErr = state.streamErr := by
  unfold sendTextDelta
  dsimp only
  split
  · exact sendStartIfNeeded_streamErr state
  · exact sendStartIfNeeded_streamErr state

theorem sendStopIfNeeded_streamErr (usage : Billing.Usage) (state : Responses.HandlerState) :
    (sendStopIfNeeded ctx usage state).streamErr = state.streamErr := by
  unfold sendStopIfNeeded noteConvertUsage
  split
  · rfl
  · split <;> rfl

theorem noteResponse_streamErr (response : Option OpenAIResponsesResponse)
    (state : Responses.HandlerState) :
    ((state.noteModel response).noteUsage response).streamErr = state.streamErr := by
  unfold Responses.HandlerState.noteUsage Responses.HandlerState.noteModel
  repeat' split
  all_goals rfl

/-- What an event can do: it fails, or it leaves the error alone and writes only by its type. -/
theorem handleEvent_cases (ctx : HandlerContext) (event : ResponsesStreamResponse)
    (state : Responses.HandlerState) :
    (responsesFails event (streamError event) ∧
        handleEvent ctx event state = { state with streamErr := some (streamError event) }) ∨
      (handleEvent ctx event state).streamErr = state.streamErr ∧
        (¬responsesWrites event → (handleEvent ctx event state).chunks = state.chunks ∧
          (handleEvent ctx event state).events = state.events) := by
  unfold handleEvent
  cases htype : event.type with
  | created =>
    refine .inr ?_
    unfold Responses.HandlerState.noteModel
    dsimp only
    repeat' split
    all_goals exact ⟨rfl, fun _ => ⟨rfl, rfl⟩⟩
  | reasoningSummaryTextDone =>
    refine .inr ?_
    dsimp only
    split <;> exact ⟨rfl, fun _ => ⟨rfl, rfl⟩⟩
  | functionCallArgumentsDone | other => exact .inr ⟨rfl, fun _ => ⟨rfl, rfl⟩⟩
  | error | failed => exact .inl ⟨⟨by simp [htype], rfl⟩, rfl⟩
  | reasoningSummaryTextDelta =>
    exact .inr ⟨sendReasoningSummaryDelta_streamErr _ _,
      fun h => absurd (by simp [responsesWrites, htype]) h⟩
  | outputTextDelta =>
    exact .inr ⟨sendTextDelta_streamErr _ _, fun h => absurd (by simp [responsesWrites, htype]) h⟩
  | functionCallArgumentsDelta =>
    refine .inr ⟨?_, fun h => absurd (by simp [responsesWrites, htype]) h⟩
    dsimp only [handleArgumentsDelta]
    split
    · rfl
    · exact sendToolCallDelta_streamErr _ _ _ _
  | outputItemAdded | outputItemDone =>
    refine .inr ⟨?_, fun h => absurd (by simp [responsesWrites, htype]) h⟩
    dsimp only [handleOutputItem]
    split
    · rfl
    · split
      · rfl
      · exact sendToolCallDelta_streamErr _ _ _ _
  | completed =>
    refine .inr ⟨?_, fun h => absurd (by simp [responsesWrites, htype]) h⟩
    exact (sendStopIfNeeded_streamErr _ _).trans
      ((sendStartIfNeeded_streamErr _).trans (noteResponse_streamErr _ state))

theorem handleEvents_failsLate {events : List ResponsesStreamResponse}
    {state : Responses.HandlerState}
    (hnone : state.streamErr = none)
    (h : (handleEvents ctx events state).streamErr = some error) :
    ∃ before event after, events = before ++ event :: after ∧ responsesFails event error ∧
      ((¬∃ earlier ∈ before, responsesWrites earlier) →
        (handleEvents ctx events state).chunks = state.chunks ∧
          (handleEvents ctx events state).events = state.events) := by
  induction events generalizing state with
  | nil => rw [handleEvents, hnone] at h; cases h
  | cons event rest ih =>
    rw [handleEvents] at h ⊢
    rcases handleEvent_cases ctx event state with ⟨hfails, heq⟩ | ⟨herror, hsilent⟩
    · rw [heq] at h ⊢
      obtain rfl : streamError event = error := Option.some.inj h
      exact ⟨[], event, rest, rfl, hfails, fun _ => ⟨rfl, rfl⟩⟩
    rw [if_neg (by simp [herror, hnone])] at h ⊢
    obtain ⟨before, failing, after, rfl, hfails, hsame⟩ := ih (herror.trans hnone) h
    refine ⟨event :: before, failing, after, rfl, hfails, fun hno => ?_⟩
    obtain ⟨hchunks, hevents⟩ := hsilent fun hw => hno ⟨event, List.mem_cons_self, hw⟩
    obtain ⟨hchunks', hevents'⟩ := hsame fun ⟨earlier, hmem, hw⟩ =>
      hno ⟨earlier, List.mem_cons_of_mem _ hmem, hw⟩
    exact ⟨hchunks'.trans hchunks, hevents'.trans hevents⟩

theorem claudeStreamHandler_late {usage : Billing.Usage} {events : List ClaudeStreamData}
    {messages : List Written} (h : claudeStreamHandler ctx usage events = (messages, some error))
    (hwritten : messages ≠ []) :
    FailsLate (claudeWrites ctx.format) (claudeFails ctx.format) events error := by
  unfold claudeStreamHandler at h
  split at h
  next written failed hdata =>
    cases h
    obtain ⟨before, data, after, heq, hfails, hwrites⟩ := handleStreamData_failsLate hdata
    exact ⟨before, data, after, heq, hfails, hwrites hwritten⟩
  next => cases h

theorem oaiResponsesToChatStreamHandler_late {info : RelayInfo}
    {events : List ResponsesStreamResponse}
    (h : (oaiResponsesToChatStreamHandler ctx info events).error = some error)
    (hwritten : (oaiResponsesToChatStreamHandler ctx info events).chunks ≠ [] ∨
      (oaiResponsesToChatStreamHandler ctx info events).events ≠ []) :
    FailsLate responsesWrites responsesFails events error := by
  unfold oaiResponsesToChatStreamHandler at h hwritten
  cases herror : (handleEvents ctx events
      { model := ctx.upstreamModelName, info }).streamErr with
  | none => cases hformat : ctx.format <;> simp [endStream, herror, hformat] at h
  | some failed =>
    obtain ⟨before, event, after, heq, hfails, hsame⟩ := handleEvents_failsLate rfl herror
    -- without an event that writes there are no chunks before the failure
    have hwrites : ∃ earlier ∈ before, responsesWrites earlier := by
      by_contra hno
      obtain ⟨hchunks, hevents⟩ := hsame hno
      cases hformat : ctx.format <;>
        simp [endStream, herror, hformat, hchunks, hevents] at hwritten
    obtain rfl : failed = error := by
      cases hformat : ctx.format <;> simpa [endStream, herror, hformat] using h
    exact ⟨before, event, after, heq, hfails, hwrites⟩

/-- The error of an attempt, as `shouldRetry` gets it. -/
def StreamTrial.relayError (trial : StreamTrial) (error : NewAPIError) : RelayError :=
  (normalizeViolationFeeError (resetStatusCode trial.statusCodeMapping error)).relayError

theorem attemptResult_failed {trial : StreamTrial} {returned : Option NewAPIError}
    {failed : RelayError}
    (h : attemptResult (returned.map (resetStatusCode trial.statusCodeMapping)) = .failed failed) :
    ∃ error, returned = some error ∧ failed = trial.relayError error := by
  cases returned with
  | none => cases h
  | some error => exact ⟨error, rfl, (AttemptResult.failed.inj h).symm⟩

/-- An attempt that writes a chunk and fails has met a late error. -/
theorem streamAttempt_late {trial : StreamTrial} {info : RelayInfo} {failed : RelayError}
    (hwritten : (streamAttempt format trial info).written = true)
    (h : (streamAttempt format trial info).result = .failed failed) :
    ∃ error, trial.upstream.LateError format error ∧ failed = trial.relayError error := by
  unfold streamAttempt at hwritten h
  cases hupstream : trial.upstream with
  | refused | aborted => simp [hupstream] at hwritten
  | claude events usage =>
    simp only [hupstream] at hwritten h
    obtain ⟨error, hreturned, hfailed⟩ := attemptResult_failed h
    exact ⟨error, claudeStreamHandler_late (Prod.ext rfl hreturned) (by simpa using hwritten),
      hfailed⟩
  | responses events =>
    simp only [hupstream] at hwritten h
    obtain ⟨error, hreturned, hfailed⟩ := attemptResult_failed h
    exact ⟨error, oaiResponsesToChatStreamHandler_late hreturned (by simpa using hwritten),
      hfailed⟩

end

theorem shouldRetry_mono {request : RelayRequest} {error : RelayError} {retries more : Int}
    (hle : retries ≤ more) (h : shouldRetry request error retries = true) :
    shouldRetry request error more = true := by
  unfold shouldRetry at h ⊢
  by_cases hpos : retries ≤ 0
  · rw [if_pos hpos] at h
    repeat' split at h
    all_goals simp_all
  · rw [if_neg hpos] at h
    have hmore : ¬more ≤ 0 := by omega
    rw [if_neg hmore]
    exact h

namespace StreamRequest

variable (request : StreamRequest)

/-- No attempt follows one that has written a chunk. -/
def WritesOnce (n : Nat) : Prop :=
  ∀ i, i + 1 < (request.run n).attempts.length → (request.outcome i).written = false

/-- `shouldRetry` refuses every error that comes after a chunk in what the upstream of attempt `i`
sends. -/
def LateErrorsRefused (i : Nat) : Prop :=
  ∀ error, (request.trials i).upstream.LateError request.format error →
    shouldRetry request.call.toRelayRequest ((request.trials i).relayError error)
      request.call.retryTimes = false

end StreamRequest

/-- In every run of every streaming request no attempt follows one that has written to the client,
if `shouldRetry` refuses the errors that come after a chunk. -/
theorem stream_writes_once (request : StreamRequest) (n : Nat)
    (hrefused : ∀ i, i + 1 < n → request.LateErrorsRefused i) : request.WritesOnce n := by
  intro i hi
  have hfollowed := followed_run request.call request.channels request.trial n
  have hlt : i + 1 < n := Nat.lt_of_lt_of_le hi hfollowed.length_le
  have hat := List.getElem?_eq_getElem (Nat.lt_of_succ_lt hi)
  obtain ⟨failed, retry, hresult, -, hretried⟩ := hfollowed.retried i _ hat (.inl hi)
  rw [← Bool.not_eq_true]
  intro hwritten
  obtain ⟨error, hlate, rfl⟩ := streamAttempt_late hwritten hresult
  have hle : request.call.retryTimes - retry ≤ request.call.retryTimes := by omega
  have hrefused := hrefused i hlt error hlate
  rw [shouldRetry_mono hle hretried] at hrefused
  cases hrefused

def overloadedRequest : StreamRequest where
  call :=
    { modelName := "gpt-4o", autoGroupSetting := [], usableGroups := ["default"], retryTimes := 1
      crossGroupRetry := false, usingGroup := "default", tokenGroup := "default" }
  channels := pinnableTables.channels
  format := .claude
  trials n :=
    { cache := (overrideTrial n).cache
      intn := .const 0
      context :=
        { format := .claude, responseId := "msg_1", upstreamModelName := "gpt-4o"
          shouldIncludeUsage := false
          responseText2Usage := fun _ => ({ promptTokens := 10, completionTokens := 5 }, 15)
          stream := plainContext }
      upstream :=
        if n = 0 then
          .claude [.parsed { type := .messageStart },
            .parsed { type := .other "error" } (some { type := "overloaded_error" })]
            { promptTokens := 10, completionTokens := 5 }
        else .claude [.parsed { type := .messageStart }]
          { promptTokens := 10, completionTokens := 5 } }

/-- Both attempts write to the client. -/
theorem overloaded_stream_written_twice :
    (overloadedRequest.outcome 0).written = true ∧ (overloadedRequest.outcome 1).written = true ∧
      ¬overloadedRequest.WritesOnce 2 := by
  have hwritten : (overloadedRequest.outcome 0).written = true ∧
      (overloadedRequest.outcome 1).written = true := by
    decide +kernel
  have htwice : (overloadedRequest.run 2).attempts.length = 2 := by
    decide +kernel
  refine ⟨hwritten.1, hwritten.2, fun h => ?_⟩
  have hfirst := h 0 (by omega)
  rw [hwritten.1] at hfirst
  cases hfirst

/-- The stream of the first attempt fails at once; that of the second has an event that cannot be
parsed after a chunk. -/
def brokenEvents : Nat → List ClaudeStreamData
  | 0 => [.parsed { type := .other "error" } (some { type := "overloaded_error" })]
  | _ => [.parsed { type := .messageStart }, .unparsable "unexpected end"]

def brokenRequest : StreamRequest :=
  { overloadedRequest with
    call := { overloadedRequest.call with retryTimes := 2 }
    trials := fun n =>
      { overloadedRequest.trials n with
        upstream := .claude (brokenEvents n) { promptTokens := 10, completionTokens := 5 } } }

theorem brokenRequest_lateErrorsRefused (i : Nat) : brokenRequest.LateErrorsRefused i := by
  intro error hlate
  have hlate : FailsLate (claudeWrites .claude) (claudeFails .claude) (brokenEvents i) error :=
    hlate
  obtain ⟨before, data, after, heq, hfails, earlier, hmem, -⟩ := hlate
  -- only the second event of the second stream comes after a chunk
  match before, i, heq with
  | [], _, _ => cases hmem
  | _ :: _, 0, heq => simp [brokenEvents] at heq
  | _ :: _ :: _, _ + 1, heq => simp [brokenEvents] at heq
  | [_], _ + 1, heq =>
    obtain rfl : .unparsable "unexpected end" = data := by simp_all [brokenEvents]
    obtain rfl := DataResult.failed.inj hfails
    show shouldRetry brokenRequest.call.toRelayRequest
      ((brokenRequest.trials 1).relayError
        { errorCode := "bad_response_body", message := "unexpected end" }) 2 = false
    decide +kernel

/-- The first attempt is retried, the second one is not. -/
theorem broken_stream_written_once :
    (brokenRequest.run 3).attempts.length = 2 ∧
      (brokenRequest.outcome 1).written = true ∧ brokenRequest.WritesOnce 3 :=
  ⟨by decide +kernel, by decide +kernel,
    stream_writes_once _ 3 fun i _ => brokenRequest_lateErrorsRefused i⟩

end NewApi.Relay
