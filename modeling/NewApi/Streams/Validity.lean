import NewApi.Streams.Tracking

/-!
# When Claude clients get a valid stream

`claude_stream_valid_iff`: the lists of chunks for which the handler sends a valid stream. One chunk
is not started, two are started twice, and a stream without a usage is not ended.
-/

namespace NewApi.Streams

open Lib Lib.BlockStream List Option ChatCompletionsStreamResponse
open Billing (Usage)

variable {chunk : ChatCompletionsStreamResponse}

section

variable {inf : ClaudeConvertInfo} {bs : Blocks BlockType} {run : Option ToolRun}

def firstCallRun (delta : ChatCompletionsStreamResponseChoiceDelta) : Option ToolRun :=
  if delta.toolCalls.length > 0 then some ⟨1, 0⟩ else none

theorem Tracks.firstToolCall (h : Tracks inf [] none) (hl : inf.lastMessagesType = .none) :
    ∃ next, acceptor.run (.streaming []) (firstToolCall chunk inf).1 = some (.streaming next) ∧
      Tracks (firstToolCall chunk inf).2 next (firstCallRun chunk.firstDelta) ∧
      (firstToolCall chunk inf).2.lastMessagesType.block? = none := by
  rcases firstToolCall_cases chunk inf with ⟨hcs, heq⟩ | ⟨toolCall, tcs, hcs, heq⟩
  · rw [heq, firstCallRun, hcs]
    refine ⟨[], rfl, h, ?_⟩
    show inf.lastMessagesType.block? = none
    rw [hl]
    rfl
  rw [heq, firstCallRun, hcs]
  refine ⟨[(.toolUse, true)], ?_, ?_, rfl⟩
  · by_cases har : toolCall.function.arguments = ""
    · simp only [har, ne_eq, not_true_eq_false, if_false, append_nil]
      rfl
    · simp only [har, ne_eq, not_false_eq_true, if_true]
      rfl
  · exact @Tracks.tools _ [] ⟨1, 0⟩ rfl rfl rfl (by simp [Closed]) (by decide) (by decide)

theorem Tracks.open_block (h : Tracks inf bs run) (hco : complete run = true)
    (hki : last.block? = some kd) (hbl : blk.type.blockType? = some kd)
    (hd : d.type.deltaType? = some kd) (hot : inf.lastMessagesType.block? = none) :
    ∃ next, acceptor.run (.streaming bs)
        ((advanceUnless last).andThen (openBlock last blk d) inf).1 = some (.streaming next) ∧
      Tracks ((advanceUnless last).andThen (openBlock last blk d) inf).2 next none := by
  have hne : inf.lastMessagesType ≠ last := by
    rintro rfl
    rw [hot] at hki
    cases hki
  have had : advanceUnless last inf = stopOpenBlocksAndAdvance inf := if_pos hne
  obtain ⟨closed, hr, hcl, hi, _⟩ := h.advance hco
  simp only [Emit.andThen, openBlock, had]
  refine ⟨closed ++ [(kd, true)], ?_, .piece hki hi hcl⟩
  rw [System.run_append, hr, hi]
  exact run_openBlock hbl hd

theorem firstRun_eq :
    firstRun chunk =
      if chunk.firstDelta.getReasoningContent = "" ∧ chunk.firstDelta.getContentString = "" then
        firstCallRun chunk.firstDelta
      else none := by
  unfold firstRun firstCallRun
  cases hch : chunk.choices with
  | nil =>
    rw [firstDelta, hch]
    rfl
  | cons cho os =>
    rw [firstDelta_of_cons hch]
    by_cases hco : cho.delta.getReasoningContent = "" ∧ cho.delta.getContentString = ""
    · simp only [hco, and_self, and_true, if_true]
    · simp only [hco, and_false, if_false]

theorem Tracks.firstContent (h : Tracks inf bs (firstCallRun chunk.firstDelta))
    (hot : inf.lastMessagesType.block? = none) :
    ∃ next, acceptor.run (.streaming bs) (firstContent chunk inf).1 = some (.streaming next) ∧
      Tracks (firstContent chunk inf).2 next (firstRun chunk) := by
  have hcm : complete (firstCallRun chunk.firstDelta) = true := by
    unfold firstCallRun
    split
    · rfl
    · rfl
  rw [firstRun_eq]
  rcases firstContent_cases chunk inf with ⟨hre, heq⟩ | ⟨hre, hco, heq⟩ | ⟨hre, hco, heq⟩
  · rw [heq, if_neg fun hem => hre hem.1]
    exact h.open_block hcm rfl rfl rfl hot
  · rw [heq, if_neg fun hem => hco hem.2]
    exact h.open_block hcm rfl rfl rfl hot
  · rw [heq, if_pos ⟨hre, hco⟩]
    exact ⟨bs, rfl, h⟩

end

section

def NoStart (events : List ClaudeResponse) : Prop :=
  ∀ event ∈ events, event.type ≠ .messageStart

theorem noStart_append (hfi : NoStart first) (hsc : NoStart second) : NoStart (first ++ second) :=
  forall_mem_append.mpr ⟨hfi, hsc⟩

theorem noStart_stopOpenBlocks : NoStart (stopOpenBlocks info) := by
  unfold stopOpenBlocks
  cases info.lastMessagesType <;> simp [NoStart, generateStopBlock]

theorem noStart_advance : NoStart (stopOpenBlocksAndAdvance info).1 := by
  unfold stopOpenBlocksAndAdvance
  cases info.lastMessagesType with
  | none => simp [NoStart]
  | text | tools | thinking => exact noStart_stopOpenBlocks

theorem noStart_toolCallLoop (mo : Int) : NoStart (toolCallLoop base cs mo).1 := by
  induction cs generalizing mo with
  | nil => simp [NoStart, toolCallLoop]
  | cons call rs ih =>
    refine noStart_append ?_ (ih _)
    unfold toolCallEvents
    split <;> split <;> simp [NoStart, startBlock, deltaBlock]

theorem noStart_relayDelta : NoStart (relayDelta d info).1 := by
  have hpc : ∀ last blk d, NoStart (relayPiece last blk d info).1 := by
    intro last blk d
    by_cases hl : info.lastMessagesType = last
    · simp [NoStart, relayPiece, hl, deltaBlock]
    · rw [relayPiece_of_ne blk d hl]
      exact noStart_append (noStart_advance) (by simp [NoStart, startBlock, deltaBlock])
  rcases relayDelta_cases d with ⟨_, heq⟩ | ⟨_, _, heq⟩ | ⟨_, _, _, heq⟩ | ⟨_, _, _, heq⟩
  · rw [heq, relayToolCalls, Emit.andThen_events]
    refine noStart_append ?_ (noStart_toolCallLoop _)
    unfold enterTools
    split
    · exact noStart_advance
    · simp [NoStart]
  · rw [heq]
    exact hpc _ _ _
  · rw [heq]
    exact hpc _ _ _
  · rw [heq]
    simp [NoStart]

theorem noStart_convertLater : NoStart (convertLater chunk info).1 := by
  rcases convertLater_cases chunk info with ⟨_, usage, _, heq⟩ | ⟨_, _, _, heq⟩ |
    ⟨choice, _, _, ⟨_, heq⟩ | ⟨finishReason, _, ⟨_, heq⟩ | ⟨usage, _, heq⟩⟩⟩
  · rw [heq]
    exact noStart_append (noStart_stopOpenBlocks)
      (by simp [NoStart, stopReasonDelta, stopMessage])
  · rw [heq]
    simp [NoStart]
  · rw [heq]
    exact noStart_relayDelta
  · rw [heq]
    simp [NoStart]
  rw [heq]
  refine noStart_append (noStart_relayDelta) (noStart_append (noStart_append
    (noStart_stopOpenBlocks) ?_) (by simp [NoStart, stopMessage]))
  split
  · simp [NoStart, stopReasonDelta]
  · simp [NoStart]

theorem NoStart.ne_ended (h : NoStart evs) : acceptor.run .fresh evs ≠ some .ended := by
  cases evs with
  | nil => simp
  | cons ev rs =>
    have hs : acceptor.step .fresh ev = none := if_neg (h ev mem_cons_self)
    rw [System.run_cons, hs]
    simp

end

section

variable (ctx : StreamContext)

theorem relayFrom_ended_iff (chunk : ChatCompletionsStreamResponse) (info : RelayInfo)
    (h : Tracks info.claudeConvertInfo blocks run) (hd : info.claudeConvertInfo.done = false)
    (hcn : 1 ≤ info.sendResponseCount) (hl : rs = [] → info.sendResponseCount ≠ 1) :
    acceptor.run (.streaming blocks) (relayFrom ctx u info chunk rs) = some .ended ↔
      ∃ ds, relayedDeltas info.claudeConvertInfo.usage.isSome (chunk :: rs) = some ds ∧
        orderlyCalls run ds = true := by
  have htr : ∀ u, Tracks (info.claudeConvertInfo.withUsage u) blocks run :=
    fun _ => h.congr rfl rfl rfl rfl
  induction rs generalizing chunk info blocks run with
  | nil =>
    rw [relayFrom, handleFinalResponse_later ctx info chunk u hd (hl rfl)]
    rcases (htr (some u)).convertLater hd []
        (show true = _ by simp) with
      ⟨ds, hdeltas, _, hr⟩ | ⟨sent, hsent, _, _, hreads, hfails⟩
    · rw [hdeltas, hr]
      simp
    -- the last chunk does not end the message
    rw [hsent]
    cases hre : sent.foldlM readDelta run with
    | none => simp [hfails hre, relayedDeltas]
    | some ltr =>
      obtain ⟨next, hr, _⟩ := hreads ltr hre
      simp [hr, relayedDeltas]
  | cons next rs ih =>
    have hkn : (chunk.usage <|> info.claudeConvertInfo.usage).isSome =
        (info.claudeConvertInfo.usage.isSome || chunk.usage.isSome) := by
      cases chunk.usage <;> simp
    rw [relayFrom, handleStreamFormat_later ctx chunk hd hcn]
    rw [System.run_append]
    rcases (htr (chunk.usage <|> info.claudeConvertInfo.usage)).convertLater hd
        (next :: rs) (show _ = _ by rw [isEmpty_cons, Bool.or_false, ← hkn]; rfl) with
      ⟨ds, hdeltas, hended, hr⟩ | ⟨sent, hsent, hopen, hsame, hreads, hfails⟩
    · -- this chunk ends the message and nothing is sent after it
      rw [relayFrom_of_done ctx _ hended, hdeltas, hr]
      by_cases hor : orderlyCalls run ds = true
      · simp [hor]
      · simp [hor]
    rw [hsent]
    cases hre : sent.foldlM readDelta run with
    | none =>
      -- the client has failed, and the calls are not orderly whatever comes later
      rw [hfails hre]
      simp [orderlyCalls_append, hre]
    | some ltr =>
      obtain ⟨mid, hr, hmi⟩ := hreads ltr hre
      rw [hr, bind_some]
      refine (ih next _ hmi hopen (Nat.le_add_left 1 _) ?_ ?_).trans ?_
      · intro _
        dsimp only
        omega
      · exact fun _ => hmi.congr rfl rfl rfl rfl
      have hu : (convertLater chunk (info.claudeConvertInfo.withUsage
          (chunk.usage <|> info.claudeConvertInfo.usage))).2.usage.isSome =
          (info.claudeConvertInfo.usage.isSome || chunk.usage.isSome) := by
        rw [hsame, ← hkn]
        rfl
      rw [hu]
      cases relayedDeltas (info.claudeConvertInfo.usage.isSome || chunk.usage.isSome)
          (next :: rs) with
      | none => simp
      | some ds => simp [orderlyCalls_append, hre]

theorem exists_first :
    ∃ blocks,
      acceptor.run .fresh (firstPart ctx.estimatePromptTokens chunk (firstInfo chunk)).1 =
        some (.streaming blocks) ∧
      Tracks (firstPart ctx.estimatePromptTokens chunk (firstInfo chunk)).2 blocks
        (firstRun chunk) := by
  have hin : Tracks (firstInfo chunk) [] none := .idle rfl rfl (by simp [Closed])
  obtain ⟨mid, hc, hmi, hl⟩ := hin.firstToolCall rfl
  obtain ⟨next, hco, hx⟩ := hmi.firstContent hl
  refine ⟨next, ?_, hx⟩
  show acceptor.run (.streaming []) ((firstToolCall chunk (firstInfo chunk)).1 ++
    (firstContent chunk (firstToolCall chunk (firstInfo chunk)).2).1) = _
  rw [System.run_append, hc]
  exact hco

theorem complete_firstRun : complete (firstRun chunk) = true := by
  unfold firstRun
  cases chunk.choices with
  | nil => rfl
  | cons cho os =>
    dsimp only
    split
    · rfl
    · rfl

theorem first_finished (h : chunk.finished = true) :
    acceptor.run .fresh (convertFirst ctx.estimatePromptTokens chunk (firstInfo chunk)).1 =
      if chunk.usage.isSome then some .ended else none := by
  obtain ⟨blocks, hr, htr⟩ := exists_first ctx
  have hms := message_firstPart ctx.estimatePromptTokens chunk (firstInfo chunk)
  obtain ⟨cho, os, hch, finishReason, hfi⟩ : ∃ cho os,
      chunk.choices = cho :: os ∧ ∃ rsn, cho.finished? = some rsn := by
    unfold finished at h
    cases hch : chunk.choices with
    | nil => simp [hch] at h
    | cons cho os =>
      rw [hch] at h
      exact ⟨cho, os, rfl, isSome_iff_exists.mp h⟩
  have hrs : finishReason ≠ "" := by
    simpa using (filter_eq_some_iff.mp hfi).2
  have hfn : ∀ info, firstFinish chunk info = endMessage chunk { info with finishReason } := by
    intro info
    simp only [firstFinish, hch, hfi]
  rw [convertFirst_eq, Emit.andThen_events, hfn, System.run_append, hr, bind_some]
  generalize (firstPart ctx.estimatePromptTokens chunk (firstInfo chunk)).2 = info at htr hms
  have hs : info.usage = chunk.usage := congrArg (fun msg => msg.2.1) hms
  have hfr : Tracks { info with finishReason } blocks (firstRun chunk) := htr.congr rfl rfl rfl rfl
  cases hu : chunk.usage with
  | none =>
    -- without a usage the message is stopped without a stop reason
    obtain ⟨closed, hst, _⟩ := hfr.stop (complete_firstRun)
    have hev : (endMessage chunk { info with finishReason }).1 =
        stopOpenBlocks { info with finishReason } ++ [stopMessage] := by
      simp [endMessage, hu, hs]
    rw [hev, System.run_append, hst]
    rfl
  | some u =>
    have hev : (endMessage chunk { info with finishReason }).1 =
        stopOpenBlocks { info with finishReason } ++
          [stopReasonDelta u (stopReasonOpenAI2Claude finishReason), stopMessage] := by
      simp [endMessage, hu]
    rw [hev, hfr.end_message (stopReason_ne_empty hrs), complete_firstRun]
    rfl

theorem first_not_finished (h : chunk.finished = false) :
    ∃ blocks,
      acceptor.run .fresh (convertFirst ctx.estimatePromptTokens chunk (firstInfo chunk)).1 =
        some (.streaming blocks) ∧
      Tracks (convertFirst ctx.estimatePromptTokens chunk
        (firstInfo chunk)).2 blocks (firstRun chunk) := by
  obtain ⟨blocks, hr, htr⟩ := exists_first ctx
  rw [convertFirst_eq, Emit.andThen_events, Emit.andThen_info, firstFinish_of_not_finished h,
    append_nil]
  exact ⟨blocks, hr, htr⟩

theorem second_start_fails (hd : info.done = false) :
    acceptor.run (.streaming blocks) (handleFinalResponse ctx chunk u ⟨1, info⟩) = none := by
  rw [handleFinalResponse_first ctx info hd]
  rfl

/-- For every list of chunks of an upstream that ends normally, the handler sends a valid stream
exactly if the chunks are well relayed. -/
theorem claude_stream_valid_iff (chunks : List ChatCompletionsStreamResponse) :
    ValidStream (oaiStreamHandler ctx chunks) ↔ wellRelayed chunks = true := by
  rw [validStream_iff]
  match chunks with
  | [] => simp [oaiStreamHandler, wellRelayed]
  | [chunk] =>
    obtain ⟨usage, hha⟩ := exists_relayFrom ctx chunk []
    have hev := handleFinalResponse_later ctx {} chunk usage rfl (by decide)
    exact iff_of_false (noStart_convertLater).ne_ended (by simp [wellRelayed])
  | first :: second :: rest =>
    obtain ⟨usage, hha⟩ := exists_relayFrom ctx first (second :: rest)
    have hd : (convertFirst ctx.estimatePromptTokens first (firstInfo first)).2.done =
        first.finished :=
      done_convertFirst ctx.estimatePromptTokens first (firstInfo first)
    rw [hha, relayFrom, handleStreamFormat_first, System.run_append, wellRelayed]
    cases hfi : first.finished with
    | true =>
      rw [relayFrom_of_done ctx _ (hd.trans hfi), first_finished ctx hfi]
      cases first.usage.isSome <;> simp
    | false =>
      obtain ⟨blocks, hr, htr⟩ := first_not_finished ctx hfi
      rw [hfi] at hd
      rw [hr, bind_some]
      cases rest with
      | nil =>
        rw [relayFrom, second_start_fails ctx hd]
        cases relayedDeltas first.usage.isSome [second] <;> simp
      | cons third rest =>
        rw [relayFrom_ended_iff ctx second _ htr hd
          (Nat.le_refl 1) (by simp), usage_convertFirst]
        cases hde : relayedDeltas first.usage.isSome (second :: third :: rest) with
        | none | some => simp [firstInfo, ClaudeConvertInfo.withUsage, hde]

theorem plainChunks_valid : ValidStream (oaiStreamHandler plainContext plainChunks) :=
  (claude_stream_valid_iff plainContext plainChunks).mpr (by decide +kernel)

/-- A stream without a usage is not ended, one of two chunks is started twice. -/
theorem stream_without_usage_not_ended :
    (oaiStreamHandler plainContext
        [chunkOf { role := "assistant", content := some "" } none none,
          chunkOf { content := some "Hi" } none none, chunkOf {} (some "stop") none]).map (·.type) =
      [.messageStart, .contentBlockStart, .contentBlockDelta] ∧
    ¬ ValidStream (oaiStreamHandler plainContext
        [chunkOf { role := "assistant", content := some "" } none none,
          chunkOf { content := some "Hi" } none none, chunkOf {} (some "stop") none]) ∧
    (oaiStreamHandler plainContext
        [chunkOf { content := some "Hi" } none none,
          chunkOf {} (some "stop") (some { promptTokens := 10, completionTokens := 5 })]).map
        (·.type) =
      [.messageStart, .contentBlockStart, .contentBlockDelta, .messageStart, .contentBlockStop,
        .messageDelta, .messageStop] ∧
    ¬ ValidStream (oaiStreamHandler plainContext
        [chunkOf { content := some "Hi" } none none,
          chunkOf {} (some "stop") (some { promptTokens := 10, completionTokens := 5 })]) := by
  simp only [validStream_iff]
  decide +kernel

end

end NewApi.Streams
