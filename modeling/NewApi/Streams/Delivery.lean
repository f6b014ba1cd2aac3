import NewApi.Streams.OpenAIToClaude

/-!
# What is relayed of a stream

`conversions` says how the handler converts each chunk: as the first of a message, as a later one,
or not at all. `Relays` is the rule by which a property of the chunks and events so far holds at the
end of every stream. With it the text and reasoning of the client are determined chunk by chunk.
-/

namespace NewApi.Streams

open Lib List ChatCompletionsStreamResponse ClaudeMediaMessage
open Billing (Usage)

section

/-- How a chunk is converted. Of a chunk that is skipped no content is sent. -/
inductive Conversion where
  | skipped
  | first
  | later
  deriving DecidableEq

def skipAll (chunks : List ChatCompletionsStreamResponse) :
    List (Conversion × ChatCompletionsStreamResponse) :=
  chunks.map (Prod.mk .skipped)

/-- How the later chunks are converted: none after the closing events. -/
def laterConversions (usageKnown : Bool) : List ChatCompletionsStreamResponse →
    List (Conversion × ChatCompletionsStreamResponse)
  | [] => []
  | chunk :: rest =>
    match chunk.choices with
    | [] =>
      (.skipped, chunk) ::
        if usageKnown || chunk.usage.isSome || rest.isEmpty then skipAll rest
        else laterConversions usageKnown rest
    | choice :: _ =>
      if choice.finished?.isSome then
        -- the content of a chunk with a finish reason is relayed only with a usage
        if chunk.usage.isSome then (.later, chunk) :: skipAll rest
        else (.skipped, chunk) :: laterConversions usageKnown rest
      else (.later, chunk) :: laterConversions (usageKnown || chunk.usage.isSome) rest

/-- How each chunk of a stream is converted. -/
def conversions : List ChatCompletionsStreamResponse →
    List (Conversion × ChatCompletionsStreamResponse)
  | [] => []
  | [chunk] => laterConversions false [chunk]
  | first :: second :: rest =>
    (.first, first) ::
      if first.finished then skipAll (second :: rest)
      else if rest.isEmpty then [(.first, second)]
      else laterConversions first.usage.isSome (second :: rest)

theorem map_snd_laterConversions : (laterConversions uk chunks).map Prod.snd = chunks := by
  have hsk : ∀ chunks, (skipAll chunks).map Prod.snd = chunks := by simp [skipAll]
  induction chunks generalizing uk with
  | nil => rfl
  | cons chunk rs ih =>
    unfold laterConversions
    repeat' split
    all_goals simp [ih, hsk]

theorem map_snd_conversions (chunks : List ChatCompletionsStreamResponse) :
    (conversions chunks).map Prod.snd = chunks := by
  match chunks with
  | [] => rfl
  | [chunk] => exact map_snd_laterConversions
  | first :: second :: rest =>
    rw [conversions, map_cons]
    congr 1
    split
    · simp [skipAll]
    · split
      next hr => simp [isEmpty_iff.mp hr]
      next => exact map_snd_laterConversions

end

section

def ClaudeConvertInfo.openBlocks (info : ClaudeConvertInfo) : LastMessageType × Int × Int × Int :=
  (info.lastMessagesType, info.index, info.toolCallBaseIndex, info.toolCallMaxIndexOffset)

/-- The events open no block and carry no delta. -/
def Silent (events : List ClaudeResponse) : Prop :=
  ∀ event ∈ events, event.type ≠ .contentBlockStart ∧ event.type ≠ .contentBlockDelta

/-- The rule of the handler: `inv` survives each conversion and silence. -/
structure Relays (inv : List (Conversion × ChatCompletionsStreamResponse) → List ClaudeResponse →
    ClaudeConvertInfo → Prop) : Prop where
  silent : ∀ {seen events info later} more, inv seen events info → Silent more →
    later.openBlocks = info.openBlocks → inv seen (events ++ more) later
  skipped : ∀ {seen events info} chunk, inv seen events info →
    inv (seen ++ [(.skipped, chunk)]) events info
  first : ∀ {seen events info} chunk, (∀ item ∈ seen, item.1 = .first) → inv seen events info →
    inv (seen ++ [(.first, chunk)])
      (events ++ ((firstToolCall chunk).andThen (firstContent chunk) info).1)
      ((firstToolCall chunk).andThen (firstContent chunk) info).2
  later : ∀ {seen events info} chunk, inv seen events info →
    inv (seen ++ [(.later, chunk)]) (events ++ (relayDelta chunk.firstDelta info).1)
      (relayDelta chunk.firstDelta info).2

theorem silent_append (hfi : Silent first) (hsc : Silent second) : Silent (first ++ second) :=
  forall_mem_append.mpr ⟨hfi, hsc⟩

theorem silent_stopOpenBlocks (info : ClaudeConvertInfo) : Silent (stopOpenBlocks info) := by
  unfold stopOpenBlocks
  cases info.lastMessagesType <;> simp [Silent, generateStopBlock]

theorem silent_stopOpenBlocksAndAdvance : Silent (stopOpenBlocksAndAdvance info).1 := by
  have hs := silent_stopOpenBlocks info
  unfold stopOpenBlocksAndAdvance
  cases info.lastMessagesType with
  | none => simp [Silent]
  | text | tools | thinking => exact hs

theorem silent_advanceUnless (info : ClaudeConvertInfo) : Silent (advanceUnless kd info).1 := by
  unfold advanceUnless
  split
  · exact silent_stopOpenBlocksAndAdvance
  · simp [Silent]

theorem silent_endMessage : Silent (endMessage chunk info).1 := by
  refine silent_append (silent_append (silent_stopOpenBlocks info) ?_) ?_
  · split <;> simp [Silent, stopReasonDelta]
  · simp [Silent, stopMessage]

theorem silent_endWithUsage : Silent (endWithUsage u info).1 :=
  silent_append (silent_stopOpenBlocks info) (by simp [Silent, stopReasonDelta, stopMessage])

variable {inv : List (Conversion × ChatCompletionsStreamResponse) → List ClaudeResponse →
  ClaudeConvertInfo → Prop}
variable {seen : List (Conversion × ChatCompletionsStreamResponse)} {events evs :
  List ClaudeResponse}
variable {info inf : ClaudeConvertInfo}

theorem Relays.congr (h : Relays inv) (hi : inv seen evs inf)
    (ho : ltr.openBlocks = inf.openBlocks) : inv seen evs ltr := by
  have hs := h.silent [] hi (by simp [Silent]) ho
  rwa [append_nil] at hs

theorem Relays.skipAll (h : Relays inv) (hi : inv seen evs inf) :
    inv (seen ++ Streams.skipAll chunks) evs inf := by
  induction chunks generalizing seen with
  | nil => simpa [Streams.skipAll] using hi
  | cons chunk rs ih => simpa [Streams.skipAll] using ih (h.skipped chunk hi)

theorem Relays.convertLater (h : Relays inv) (hi : inv seen evs inf) (hdo : inf.done = false)
    (rs : List ChatCompletionsStreamResponse)
    (hkn : inf.usage.isSome = (uk || ck.usage.isSome || rs.isEmpty)) :
    ∃ con aft, laterConversions uk (ck :: rs) =
        (con, ck) :: aft ∧
      inv (seen ++ [(con, ck)]) (evs ++ (convertLater ck inf).1) (convertLater ck inf).2 ∧
      ((convertLater ck inf).2.done = true ∧ aft = Streams.skipAll rs ∨
        (convertLater ck inf).2.done = false ∧ (convertLater ck inf).2.usage = inf.usage ∧
          aft = laterConversions (uk || ck.usage.isSome) rs) := by
  rcases convertLater_cases ck inf with ⟨hch, usage, hu, heq⟩ |
    ⟨hch, hck, hn, heq⟩ | ⟨choice, os, hch, ⟨hfi, heq⟩ |
      ⟨finishReason, hfi, ⟨hu, heq⟩ | ⟨usage, hu, heq⟩⟩⟩
  · -- a chunk without choices ends the message
    have hfl := usageKnown_of_orElse hkn hu
    rw [heq]
    refine ⟨.skipped, Streams.skipAll rs, ?_, ?_, Or.inl ⟨rfl, rfl⟩⟩
    · simp only [laterConversions, hch, hfl, if_true]
    · exact h.silent _ (h.skipped ck hi) (silent_endWithUsage) rfl
  · -- no usage is known, so the chunk is not the last
    rw [hn, hck] at hkn
    have hfl : uk = false ∧ rs.isEmpty = false := by simpa using hkn
    rw [heq]
    refine ⟨.skipped, laterConversions uk rs, ?_, ?_, Or.inr ⟨hdo, rfl, ?_⟩⟩
    · simp [laterConversions, hch, hck, hfl.1, hfl.2]
    · exact h.silent [] (h.skipped ck hi) (by simp [Silent]) rfl
    · simp [hck]
  · -- no finish reason: the delta is relayed
    have hms := message_relayDelta choice.delta inf
    have hd := h.later ck hi
    rw [firstDelta_of_cons hch] at hd
    rw [heq]
    refine ⟨.later, laterConversions (uk || ck.usage.isSome) rs, ?_, hd, Or.inr ⟨?_, ?_, rfl⟩⟩
    · simp [laterConversions, hch, hfi]
    · exact (congrArg (fun msg => msg.1) hms).trans hdo
    · exact congrArg (fun msg => msg.2.1) hms
  · -- the finish reason is only remembered
    have hfn : inv seen evs { inf with finishReason } := h.congr hi rfl
    rw [heq]
    refine ⟨.skipped, laterConversions uk rs, ?_, ?_, Or.inr ⟨hdo, rfl, ?_⟩⟩
    · simp [laterConversions, hch, hfi, hu]
    · exact h.silent [] (h.skipped ck hfn) (by simp [Silent]) rfl
    · simp [hu]
  · -- a finish reason with a usage: the delta is relayed and the message ended
    have hfn : inv seen evs { inf with finishReason } := h.congr hi rfl
    have hd := h.later ck hfn
    rw [firstDelta_of_cons hch] at hd
    rw [heq]
    refine ⟨.later, Streams.skipAll rs, ?_, ?_, Or.inl ⟨rfl, rfl⟩⟩
    · simp [laterConversions, hch, hfi, hu]
    · rw [Emit.andThen_events, Emit.andThen_info, ← append_assoc]
      exact h.silent _ hd (silent_endMessage) rfl

variable (ctx : StreamContext)

/-- The rule along the chunks after the first. -/
theorem Relays.relayFrom (h : Relays inv) (u : Usage) (rs : List ChatCompletionsStreamResponse)
    (chunk : ChatCompletionsStreamResponse) (cnt : Nat) (hi : inv seen events info)
    (hd : info.done = false) (hcn : rs ≠ [] → 1 ≤ cnt) (hl : rs = [] → cnt ≠ 1) :
    ∃ fin, inv (seen ++ laterConversions info.usage.isSome (chunk :: rs))
      (events ++ relayFrom ctx u ⟨cnt, info⟩ chunk rs) fin := by
  induction rs generalizing chunk info cnt seen events with
  | nil =>
    have ho : inv seen events (info.withUsage (some u)) := h.congr hi rfl
    obtain ⟨con, after, hco, hx, haf⟩ :=
      h.convertLater ho hd [] (show true = _ by rw [isEmpty_nil, Bool.or_true])
    have hni : after = [] := by
      rcases haf with ⟨_, hsk⟩ | ⟨_, _, hr⟩
      · exact hsk
      · exact hr
    rw [Streams.relayFrom, handleFinalResponse_later ctx ⟨cnt, info⟩ chunk u hd (hl rfl), hco, hni]
    exact ⟨_, hx⟩
  | cons next rs ih =>
    have hkn : (chunk.usage <|> info.usage).isSome =
        (info.usage.isSome || chunk.usage.isSome) := by
      cases chunk.usage <;> simp
    have ho : inv seen events (info.withUsage (chunk.usage <|> info.usage)) := h.congr hi rfl
    obtain ⟨con, after, hco, hx, haf⟩ :=
      h.convertLater ho hd (next :: rs)
        (show _ = _ by rw [isEmpty_cons, Bool.or_false, ← hkn]; rfl)
    rw [Streams.relayFrom,
      @handleStreamFormat_later ctx ⟨cnt, info⟩ chunk hd (hcn (cons_ne_nil _ _)),
      hco]
    dsimp only
    rw [append_cons, ← append_assoc]
    rcases haf with ⟨he, rfl⟩ | ⟨hgo, hs, rfl⟩
    · rw [relayFrom_of_done ctx _ he, append_nil]
      exact ⟨_, h.skipAll hx⟩
    have hu : (info.usage.isSome || chunk.usage.isSome) = (Streams.convertLater chunk
        (info.withUsage (chunk.usage <|> info.usage))).2.usage.isSome := by
      rw [hs, ← hkn]
      rfl
    rw [hu]
    exact ih next (cnt + 1) hx hgo (fun _ => Nat.le_add_left 1 _)
      (fun _ => by have := hcn (cons_ne_nil _ _); omega)

theorem Relays.convertFirst (h : Relays inv) (hse : ∀ item ∈ seen, item.1 = .first)
    (hi : inv seen evs info) (ept : Int) (chunk : ChatCompletionsStreamResponse) :
    inv (seen ++ [(.first, chunk)]) (evs ++ (convertFirst ept chunk info).1)
      (convertFirst ept chunk info).2 := by
  have hs0 : inv seen (evs ++ [startMessage chunk ept]) info :=
    h.silent _ hi (by simp [Silent, startMessage]) rfl
  have hco := h.first chunk hse hs0
  have hs : ∀ info, (firstFinish chunk info).2.openBlocks = info.openBlocks := by
    intro info
    unfold firstFinish
    repeat' split
    all_goals rfl
  have hsi : ∀ info, Silent (firstFinish chunk info).1 := by
    intro info
    unfold firstFinish
    repeat' split
    · simp [Silent]
    · exact silent_endMessage
    · simp [Silent]
  simp only [Streams.convertFirst, Emit.andThen_events, Emit.andThen_info, ← append_assoc]
  simp only [Emit.andThen_events, Emit.andThen_info, ← append_assoc] at hco
  exact h.silent _ hco (hsi _) (hs _)

/-- The rule along a whole stream. -/
theorem Relays.handler (h : Relays inv) (hs0 : inv [] [] {})
    (chunks : List ChatCompletionsStreamResponse) :
    ∃ fin, inv (conversions chunks) (oaiStreamHandler ctx chunks) fin := by
  match chunks with
  | [] => exact ⟨_, hs0⟩
  | [chunk] =>
    -- a single chunk is the last one, and no chunk has been counted before it
    obtain ⟨usage, hha⟩ := exists_relayFrom ctx chunk []
    rw [hha]
    exact h.relayFrom ctx usage [] chunk 0 hs0 rfl (fun hne => absurd rfl hne) (by simp)
  | first :: scd :: rs =>
    obtain ⟨usage, hha⟩ := exists_relayFrom ctx first (scd :: rs)
    have hin : inv [] [] (firstInfo first) := h.congr hs0 rfl
    have hfi := h.convertFirst (by simp) hin ctx.estimatePromptTokens first
    have hd : (Streams.convertFirst ctx.estimatePromptTokens first (firstInfo first)).2.done =
        first.finished :=
      done_convertFirst ctx.estimatePromptTokens first (firstInfo first)
    rw [hha, Streams.relayFrom, handleStreamFormat_first, conversions]
    cases hfn : first.finished with
    | true =>
      rw [relayFrom_of_done ctx _ (hd.trans hfn), append_nil]
      exact ⟨_, h.skipAll hfi⟩
    | false =>
      rw [hfn] at hd
      cases rs with
      | nil =>
        -- only one chunk has been counted, so the second is converted as the first again
        have hkn := h.congr hfi (show ClaudeConvertInfo.openBlocks
          (ClaudeConvertInfo.withUsage _ (some usage)) = _ from rfl)
        rw [Streams.relayFrom, handleFinalResponse_first ctx _ hd]
        exact ⟨_, h.convertFirst (by simp) hkn ctx.estimatePromptTokens scd⟩
      | cons thi rs =>
        have hr := h.relayFrom ctx usage (thi :: rs) scd 1 hfi hd (fun _ => Nat.le_refl 1) (by simp)
        rw [usage_convertFirst] at hr
        exact hr

end

open Conversion

section

/-- The text a converted chunk sends. -/
def Conversion.sentText : Conversion → ChatCompletionsStreamResponse → String
  | .skipped, _ => ""
  | .first, chunk =>
    if chunk.firstDelta.getReasoningContent = "" then chunk.firstDelta.getContentString else ""
  | .later, chunk =>
    if chunk.firstDelta.toolCalls = [] ∧ chunk.firstDelta.getReasoningContent = "" then
      chunk.firstDelta.getContentString
    else ""

/-- The reasoning a converted chunk sends. -/
def Conversion.sentReasoning : Conversion → ChatCompletionsStreamResponse → String
  | .skipped, _ => ""
  | .first, chunk => chunk.firstDelta.getReasoningContent
  | .later, chunk =>
    if chunk.firstDelta.toolCalls = [] then chunk.firstDelta.getReasoningContent else ""

/-- The values of all deltas in order. -/
def collect (value : ClaudeMediaMessage → String) (events : List ClaudeResponse) : String :=
  String.join (events.map fun event =>
    if event.type = .contentBlockDelta then (event.delta.map value).getD "" else "")

/-- The text in a `text_delta`. -/
def ClaudeMediaMessage.textPiece (delta : ClaudeMediaMessage) : String :=
  if delta.type = .textDelta then delta.getText else ""

/-- The reasoning in a `thinking_delta`. -/
def ClaudeMediaMessage.thinkingPiece (delta : ClaudeMediaMessage) : String :=
  if delta.type = .thinkingDelta then delta.thinking.getD "" else ""

def pieceValue (value : ClaudeMediaMessage → String)
    (delta : ChatCompletionsStreamResponseChoiceDelta) : String :=
  if delta.getReasoningContent ≠ "" then value (thinkingDelta delta.getReasoningContent)
  else if delta.getContentString ≠ "" then value (textDelta delta.getContentString)
  else ""

def Conversion.value (value : ClaudeMediaMessage → String) :
    Conversion → ChatCompletionsStreamResponse → String
  | .skipped, _ => ""
  | .first, chunk => pieceValue value chunk.firstDelta
  | .later, chunk =>
    if chunk.firstDelta.toolCalls = [] then pieceValue value chunk.firstDelta else ""

theorem Conversion.value_textPiece (con : Conversion) :
    con.value textPiece chunk = con.sentText chunk := by
  have hpc : ∀ d, pieceValue textPiece d =
      if d.getReasoningContent = "" then d.getContentString else "" := by
    intro d
    unfold pieceValue
    by_cases hre : d.getReasoningContent = ""
    · by_cases hco : d.getContentString = ""
      · simp [hre, hco]
      · simp [hre, hco, textPiece, textDelta, getText]
    · simp [hre, textPiece, thinkingDelta]
  cases con with
  | skipped => rfl
  | first => exact hpc chunk.firstDelta
  | later => simp only [value, sentText, hpc, ite_and]

theorem Conversion.value_thinkingPiece (con : Conversion) :
    con.value thinkingPiece chunk = con.sentReasoning chunk := by
  have hpc : ∀ d, pieceValue thinkingPiece d =
      d.getReasoningContent := by
    intro d
    unfold pieceValue
    by_cases hre : d.getReasoningContent = ""
    · simp [hre, thinkingPiece, textDelta]
    · simp [hre, thinkingPiece, thinkingDelta]
  cases con with
  | skipped => rfl
  | first => exact hpc chunk.firstDelta
  | later => simp only [value, sentReasoning, hpc]

section

variable {va : ClaudeMediaMessage → String}

theorem collect_append (first : List ClaudeResponse) :
    collect va (first ++ second) = collect va first ++ collect va second := by
  simp [collect]

theorem Silent.collect (h : Silent events) : collect va events = "" := by
  refine join_eq_empty_iff.mpr ?_
  intro pc hpc
  obtain ⟨ev, hev, rfl⟩ := mem_map.mp hpc
  exact if_neg (h ev hev).2

theorem collect_startBlock : collect va [startBlock idx blk] = "" := by
  simp [collect, startBlock]

theorem collect_deltaBlock : collect va [deltaBlock idx d] = va d := by
  simp [collect, deltaBlock]

theorem collect_openBlock :
    collect va ((advanceUnless kd).andThen (openBlock kd blk d) info).1 = va d := by
  rw [Emit.andThen_events, collect_append, (silent_advanceUnless info).collect, openBlock,
    ← singleton_append, collect_append, collect_startBlock, collect_deltaBlock]
  simp

theorem collect_relayPiece : collect va (relayPiece kd blk d info).1 = va d := by
  by_cases hl : info.lastMessagesType = kd
  · simp only [relayPiece, hl, ne_eq, not_true_eq_false, if_false, nil_append]
    exact collect_deltaBlock
  rw [relayPiece_of_ne blk d hl, collect_append, (silent_stopOpenBlocksAndAdvance).collect,
    ← singleton_append, collect_append, collect_startBlock, collect_deltaBlock]
  simp

variable (hjson : ∀ toolCall, va (inputJsonDelta toolCall) = "")

include hjson

theorem collect_toolCallLoop : collect va (toolCallLoop bs cs mo).1 = "" := by
  induction cs generalizing mo with
  | nil => rfl
  | cons call rs ih =>
    have hc : ∀ idx, collect va (toolCallEvents idx call.1) = "" := by
      intro idx
      unfold toolCallEvents
      split <;> split <;> simp [collect, startBlock, deltaBlock, hjson]
    rw [toolCallLoop, collect_append, hc, ih]
    rfl

theorem collect_relayToolCalls : collect va (relayToolCalls tcs info).1 = "" := by
  have hsi : Silent (enterTools info).1 := by
    unfold enterTools
    split
    · exact silent_stopOpenBlocksAndAdvance
    · simp [Silent]
  rw [relayToolCalls, Emit.andThen_events, collect_append, hsi.collect, collect_toolCallLoop hjson]
  rfl

theorem collect_relayDelta :
    collect va (relayDelta d info).1 =
      if d.toolCalls = [] then pieceValue va d else "" := by
  rcases relayDelta_cases d with ⟨hcs, heq⟩ | ⟨hcs, hre, heq⟩ |
    ⟨hcs, hre, hco, heq⟩ | ⟨hcs, hre, hco, heq⟩
  · rw [heq, if_neg hcs]
    exact collect_relayToolCalls hjson
  · rw [heq, if_pos hcs, collect_relayPiece]
    simp [pieceValue, hre]
  · rw [heq, if_pos hcs, collect_relayPiece]
    simp [pieceValue, hre, hco]
  · rw [heq, if_pos hcs]
    simp [pieceValue, hre, hco, collect]

theorem collect_firstToolCall : collect va (firstToolCall chunk info).1 = "" := by
  rcases firstToolCall_cases chunk info with ⟨_, heq⟩ | ⟨toolCall, tcs, _, heq⟩
  · rw [heq]
    rfl
  · rw [heq, collect_append, collect_startBlock]
    split <;> simp [collect, deltaBlock, hjson]

omit hjson in
theorem collect_firstContent :
    collect va (firstContent chunk info).1 = pieceValue va chunk.firstDelta := by
  rcases firstContent_cases chunk info with ⟨hre, heq⟩ | ⟨hre, hco, heq⟩ | ⟨hre, hco, heq⟩
  · rw [heq, collect_openBlock]
    simp [pieceValue, hre]
  · rw [heq, collect_openBlock]
    simp [pieceValue, hre, hco]
  · rw [heq]
    simp [pieceValue, hre, hco, collect]

theorem relays_collect : Relays fun seen events _ =>
    collect va events = String.join (seen.map fun (con, chunk) => con.value va chunk) where
  silent := by
    intro seen events info ltr more hi hsi _
    rw [collect_append, hsi.collect, String.append_empty, hi]
  skipped := by
    intro seen events info chunk hi
    simp [hi, value]
  first := by
    intro seen events info chunk _ hi
    rw [Emit.andThen_events, collect_append, collect_append, collect_firstToolCall hjson,
      collect_firstContent, hi]
    simp [value]
  later := by
    intro seen events info chunk hi
    rw [collect_append, collect_relayDelta hjson, hi]
    simp [value]

end

variable (ctx : StreamContext) (chunks : List ChatCompletionsStreamResponse)

def sentText (events : List ClaudeResponse) : String :=
  collect ClaudeMediaMessage.textPiece events

def sentReasoning (events : List ClaudeResponse) : String :=
  collect ClaudeMediaMessage.thinkingPiece events

/-- The client reads the text of the converted chunks. -/
theorem sentText_handler : sentText (oaiStreamHandler ctx chunks) =
    String.join ((conversions chunks).map fun (con, chunk) => con.sentText chunk) := by
  obtain ⟨_, hse⟩ := (@relays_collect textPiece fun _ => rfl).handler ctx rfl chunks
  simp only [sentText, hse, value_textPiece]

theorem sentReasoning_handler : sentReasoning (oaiStreamHandler ctx chunks) =
    String.join ((conversions chunks).map fun (con, chunk) => con.sentReasoning chunk) := by
  obtain ⟨_, hse⟩ := (@relays_collect thinkingPiece fun _ => rfl).handler ctx rfl chunks
  simp only [sentReasoning, hse, value_thinkingPiece]

theorem Conversion.length_sentText_le (con : Conversion) :
    (con.sentText chunk).length ≤ chunk.contentText.length := by
  have hfi : chunk.firstDelta.getContentString.length ≤ chunk.contentText.length := by
    unfold firstDelta contentText
    cases chunk.choices with
    | nil => exact Nat.zero_le _
    | cons cho os => exact length_le_join (by simp)
  cases con with
  | skipped => exact Nat.zero_le _
  | first | later =>
    rw [sentText]
    split
    · exact hfi
    · exact Nat.zero_le _

theorem Conversion.length_sentReasoning_le (con : Conversion) :
    (con.sentReasoning chunk).length ≤ chunk.reasoningText.length := by
  have hfi : chunk.firstDelta.getReasoningContent.length ≤ chunk.reasoningText.length := by
    unfold firstDelta reasoningText
    cases chunk.choices with
    | nil => exact Nat.zero_le _
    | cons cho os => exact length_le_join (by simp)
  cases con with
  | skipped => exact Nat.zero_le _
  | first => exact hfi
  | later =>
    rw [sentReasoning]
    split
    · exact hfi
    · exact Nat.zero_le _

theorem sentText_eq_iff :
    sentText (oaiStreamHandler ctx chunks) = String.join (chunks.map (·.contentText)) ↔
      ∀ item ∈ conversions chunks, item.1.sentText item.2 = item.2.contentText := by
  have hgv : chunks.map (·.contentText) =
      (conversions chunks).map fun item => item.2.contentText := by
    conv_lhs => rw [← map_snd_conversions chunks]
    rw [map_map]
    rfl
  rw [sentText_handler, hgv]
  exact join_map_eq_iff _ fun item _ => item.1.length_sentText_le

theorem sentReasoning_eq_iff :
    sentReasoning (oaiStreamHandler ctx chunks) = String.join (chunks.map (·.reasoningText)) ↔
      ∀ item ∈ conversions chunks, item.1.sentReasoning item.2 = item.2.reasoningText := by
  have hgv : chunks.map (·.reasoningText) =
      (conversions chunks).map fun item => item.2.reasoningText := by
    conv_lhs => rw [← map_snd_conversions chunks]
    rw [map_map]
    rfl
  rw [sentReasoning_handler, hgv]
  exact join_map_eq_iff _ fun item _ => item.1.length_sentReasoning_le

end

end NewApi.Streams
