import NewApi.Gemini.ToOpenAI

/-!
# The usage of a Gemini response

The usage that the two chat handlers return. Where the metadata lacks counts the prompt is the
estimate and the completion the rest of the total. Only the stream handler replaces a completion
that is not positive.
-/

namespace NewApi.Gemini.Metadata

open Lib
open Billing (Usage)

structure GeminiPromptTokensDetails where
  modality : String
  tokenCount : Int
  deriving DecidableEq

structure GeminiUsageMetadata where
  promptTokenCount : Int := 0
  toolUsePromptTokenCount : Int := 0
  candidatesTokenCount : Int := 0
  totalTokenCount : Int := 0
  thoughtsTokenCount : Int := 0
  cachedContentTokenCount : Int := 0
  promptTokensDetails : List GeminiPromptTokensDetails := []
  toolUsePromptTokensDetails : List GeminiPromptTokensDetails := []
  candidatesTokensDetails : List GeminiPromptTokensDetails := []
  deriving DecidableEq

def modalityTokens (modality : String) (details : List GeminiPromptTokensDetails) : Int :=
  Int64.wrap ((details.filter (·.modality = modality)).map (·.tokenCount)).sum

def buildUsageFromGeminiMetadata (metadata : GeminiUsageMetadata) (fallbackPromptTokens : Int) :
    Usage :=
  let counted := Int64.wrap (metadata.promptTokenCount + metadata.toolUsePromptTokenCount)
  let promptTokens :=
    if counted ≤ 0 ∧ fallbackPromptTokens > 0 then fallbackPromptTokens else counted
  let completionTokens := Int64.wrap (metadata.candidatesTokenCount + metadata.thoughtsTokenCount)
  { promptTokens
    completionTokens :=
      if metadata.totalTokenCount > 0 ∧ completionTokens ≤ 0 then
        Int64.wrap (metadata.totalTokenCount - promptTokens)
      else completionTokens
    promptTokensDetails :=
      { cachedTokens := metadata.cachedContentTokenCount
        audioTokens := modalityTokens "AUDIO"
          (metadata.promptTokensDetails ++ metadata.toolUsePromptTokensDetails) }
    completionTokenDetails :=
      { imageTokens := modalityTokens "IMAGE" metadata.candidatesTokensDetails
        audioTokens := modalityTokens "AUDIO" metadata.candidatesTokensDetails } }

/-- The usage that `GeminiChatHandler` returns, also for a response without candidates. -/
def geminiChatHandler (metadata : GeminiUsageMetadata) (estimatePromptTokens : Int) : Usage :=
  buildUsageFromGeminiMetadata metadata estimatePromptTokens

/-- The variables of `geminiStreamHandler`. -/
structure StreamUsage where
  usage : Usage := { promptTokens := 0, completionTokens := 0 }
  imageCount : Nat := 0
  responseText : String := ""

def StreamUsage.receive (estimatePromptTokens : Int) (s : StreamUsage)
    (event : GeminiChatResponse × GeminiUsageMetadata) : StreamUsage :=
  let parts := event.1.candidates.flatMap (·.parts)
  { usage :=
      if event.2.totalTokenCount ≠ 0 then
        buildUsageFromGeminiMetadata event.2 estimatePromptTokens
      else s.usage
    imageCount := s.imageCount +
      parts.countP fun part => part.inlineData.any (·.mimeType ≠ "")
    responseText := s.responseText ++ String.join (parts.map (·.text)) }

/-- A response of images only is billed by their number. -/
def StreamUsage.withImages (s : StreamUsage) : Usage :=
  if s.imageCount ≠ 0 ∧ s.usage.completionTokens = 0 then
    { s.usage with completionTokens := Int64.wrap (s.imageCount * 1400) }
  else s.usage

/-- The usage that `geminiStreamHandler` returns. `estimateToken` is `EstimateTokenByModel` for the
model of the request. -/
def geminiStreamHandler (estimateToken : String → Nat) (estimatePromptTokens : Int)
    (receivedResponseCount : Nat) (events : List (GeminiChatResponse × GeminiUsageMetadata)) :
    Usage :=
  let s := events.foldl (StreamUsage.receive estimatePromptTokens) {}
  if s.withImages.completionTokens ≤ 0 then
    if receivedResponseCount > 0 then
      { promptTokens := estimatePromptTokens
        completionTokens := estimateToken s.responseText }
    else { promptTokens := 0, completionTokens := 0 }
  else s.withImages

/-- The last metadata of a stream; a total of zero is none. -/
def lastMetadata (events : List (GeminiChatResponse × GeminiUsageMetadata)) :
    Option GeminiUsageMetadata :=
  ((events.map Prod.snd).filter (·.totalTokenCount ≠ 0)).getLast?

/-- Counts that are not negative and whose sums are not either. -/
structure GeminiUsageMetadata.Counted (metadata : GeminiUsageMetadata) : Prop where
  prompt : 0 ≤ metadata.promptTokenCount
  toolUse : 0 ≤ metadata.toolUsePromptTokenCount
  promptFits : metadata.promptTokenCount + metadata.toolUsePromptTokenCount < 2 ^ 63
  candidates : 0 ≤ metadata.candidatesTokenCount
  thoughts : 0 ≤ metadata.thoughtsTokenCount
  completionFits : metadata.candidatesTokenCount + metadata.thoughtsTokenCount < 2 ^ 63
  total : 0 ≤ metadata.totalTokenCount
  totalFits : metadata.totalTokenCount < 2 ^ 63

structure GeminiUsageMetadata.Balanced (metadata : GeminiUsageMetadata) : Prop where
  prompt : 0 < metadata.promptTokenCount
  completion : 0 < metadata.candidatesTokenCount + metadata.thoughtsTokenCount
  total : metadata.totalTokenCount = metadata.promptTokenCount +
    metadata.toolUsePromptTokenCount + metadata.candidatesTokenCount + metadata.thoughtsTokenCount

/-- The count of the prompt and of the tools in it; the estimate stands in for a count of zero. -/
def GeminiUsageMetadata.promptCount (metadata : GeminiUsageMetadata) (estimate : Int) : Int :=
  if metadata.promptTokenCount + metadata.toolUsePromptTokenCount = 0 then estimate
  else metadata.promptTokenCount + metadata.toolUsePromptTokenCount

variable {metadata : GeminiUsageMetadata} {estimate : Int}

section

variable (h : metadata.Counted)
include h

theorem promptTokens_buildUsage :
    (buildUsageFromGeminiMetadata metadata estimate).promptTokens =
      if metadata.promptTokenCount + metadata.toolUsePromptTokenCount ≤ 0 ∧ estimate > 0 then
        estimate
      else metadata.promptTokenCount + metadata.toolUsePromptTokenCount := by
  have := h.prompt
  have := h.toolUse
  dsimp only [buildUsageFromGeminiMetadata]
  rw [Int64.wrap_of_inRange ⟨by omega, h.promptFits⟩]

theorem completionTokens_buildUsage (hestimate : 0 ≤ estimate) (hfits : estimate < 2 ^ 63) :
    (buildUsageFromGeminiMetadata metadata estimate).completionTokens =
      if metadata.totalTokenCount > 0 ∧
          metadata.candidatesTokenCount + metadata.thoughtsTokenCount ≤ 0 then
        metadata.totalTokenCount - (buildUsageFromGeminiMetadata metadata estimate).promptTokens
      else metadata.candidatesTokenCount + metadata.thoughtsTokenCount := by
  obtain ⟨hpo, htotal, hprompt, hca, hth, hcompletion, htt, htf⟩ := h
  dsimp only [buildUsageFromGeminiMetadata]
  rw [Int64.wrap_of_inRange ⟨by omega, hcompletion⟩, Int64.wrap_of_inRange ⟨by omega, hprompt⟩]
  split
  · rw [Int64.wrap_of_inRange]
    constructor <;> split <;> omega
  · rfl

theorem promptTokens_nonneg :
    0 ≤ (buildUsageFromGeminiMetadata metadata estimate).promptTokens := by
  have := h.prompt
  have := h.toolUse
  rw [promptTokens_buildUsage h]
  split <;> omega

theorem promptTokens_eq_promptCount (hestimate : 0 ≤ estimate) :
    (buildUsageFromGeminiMetadata metadata estimate).promptTokens =
      metadata.promptCount estimate := by
  have := h.prompt
  have := h.toolUse
  rw [promptTokens_buildUsage h, GeminiUsageMetadata.promptCount]
  split <;> split <;> omega

theorem completionTokens_nonneg_iff (hestimate : 0 ≤ estimate) (hfits : estimate < 2 ^ 63) :
    0 ≤ (buildUsageFromGeminiMetadata metadata estimate).completionTokens ↔
      metadata.totalTokenCount = 0 ∨
        0 < metadata.candidatesTokenCount + metadata.thoughtsTokenCount ∨
        metadata.promptCount estimate ≤ metadata.totalTokenCount := by
  have := h.total
  have := h.candidates
  have := h.thoughts
  rw [completionTokens_buildUsage h hestimate hfits, promptTokens_eq_promptCount h hestimate]
  split <;> omega

theorem balanced_sum (hestimate : 0 ≤ estimate) (hfits : estimate < 2 ^ 63)
    (hbalanced : metadata.Balanced) :
    0 < (buildUsageFromGeminiMetadata metadata estimate).completionTokens ∧
      (buildUsageFromGeminiMetadata metadata estimate).promptTokens +
        (buildUsageFromGeminiMetadata metadata estimate).completionTokens =
        metadata.totalTokenCount := by
  obtain ⟨hprompt, hcompletion, htotal⟩ := hbalanced
  have := h.toolUse
  rw [completionTokens_buildUsage h hestimate hfits, promptTokens_buildUsage h, if_neg (by omega),
    if_neg (by omega)]
  omega

end

variable {events : List (GeminiChatResponse × GeminiUsageMetadata)}

theorem usage_foldl (s : StreamUsage) :
    (events.foldl (StreamUsage.receive estimate) s).usage =
      (lastMetadata events).elim s.usage (buildUsageFromGeminiMetadata · estimate) := by
  induction events using List.reverseRecOn with
  | nil => rfl
  | append_singleton events ev ih =>
    have hlast : lastMetadata (events ++ [ev]) =
        if ev.2.totalTokenCount ≠ 0 then some ev.2 else lastMetadata events := by
      by_cases htotal : ev.2.totalTokenCount = 0 <;> simp [lastMetadata, htotal]
    rw [List.foldl_append, hlast]
    show (if ev.2.totalTokenCount ≠ 0 then _ else _) = _
    split
    · rfl
    · exact ih

theorem StreamUsage.promptTokens_withImages (s : StreamUsage) :
    s.withImages.promptTokens = s.usage.promptTokens := by
  unfold withImages
  split <;> rfl

theorem StreamUsage.withImages_of_pos {s : StreamUsage} (h : 0 < s.usage.completionTokens) :
    s.withImages = s.usage :=
  if_neg fun han => h.ne' han.2

theorem mem_of_lastMetadata (h : lastMetadata events = some metadata) :
    ∃ ev ∈ events, ev.2 = metadata := by
  have hmem := (List.mem_filter.mp (List.mem_of_getLast? h)).1
  simpa using hmem

theorem promptTokens_foldl_nonneg (hestimate : ∀ ev ∈ events, ev.2.Counted) :
    0 ≤ (events.foldl (StreamUsage.receive estimate) {}).usage.promptTokens := by
  rw [usage_foldl]
  cases hlast : lastMetadata events with
  | none => exact Int.le_refl 0
  | some metadata =>
    obtain ⟨ev, hevent, rfl⟩ := mem_of_lastMetadata hlast
    exact promptTokens_nonneg (hestimate ev hevent)

/-- The stream never returns a negative count; the other handler does exactly if it takes the
completion from a total below the prompt. Both return the total of balanced metadata. -/
theorem gemini_usage_signs_and_totals (estimateToken : String → Nat) (received : Nat)
    (h : metadata.Counted) (hevents : ∀ event ∈ events, event.2.Counted) (hestimate : 0 ≤ estimate)
    (hfits : estimate < 2 ^ 63) :
    let chat := geminiChatHandler metadata estimate
    let stream := geminiStreamHandler estimateToken estimate received events
    0 ≤ chat.promptTokens ∧
      (0 ≤ chat.completionTokens ↔ metadata.totalTokenCount = 0 ∨
        0 < metadata.candidatesTokenCount + metadata.thoughtsTokenCount ∨
        metadata.promptCount estimate ≤ metadata.totalTokenCount) ∧
      0 ≤ stream.promptTokens ∧ 0 ≤ stream.completionTokens ∧
      (metadata.Balanced →
        chat.promptTokens + chat.completionTokens = metadata.totalTokenCount) ∧
      ∀ last, lastMetadata events = some last → last.Balanced →
        stream.promptTokens + stream.completionTokens = last.totalTokenCount := by
  refine ⟨promptTokens_nonneg h, completionTokens_nonneg_iff h hestimate hfits, ?_, ?_,
    fun hbalanced => (balanced_sum h hestimate hfits hbalanced).2, fun last hlast hbalanced => ?_⟩
  · unfold geminiStreamHandler
    dsimp only
    split
    · split
      · exact hestimate
      · exact Int.le_refl 0
    · rw [StreamUsage.promptTokens_withImages]
      exact promptTokens_foldl_nonneg hevents
  · unfold geminiStreamHandler
    dsimp only
    split
    · split
      · exact Int.natCast_nonneg _
      · exact Int.le_refl 0
    · omega
  · obtain ⟨event, hevent, rfl⟩ := mem_of_lastMetadata hlast
    obtain ⟨hpositive, hsum⟩ := balanced_sum (hevents event hevent) hestimate hfits hbalanced
    have husage := @usage_foldl estimate events {}
    rw [hlast, Option.elim] at husage
    -- a positive completion is neither replaced by the images nor by the text
    have himages := StreamUsage.withImages_of_pos (husage.symm ▸ hpositive)
    have hstream : geminiStreamHandler estimateToken estimate received events =
        buildUsageFromGeminiMetadata event.2 estimate := by
      unfold geminiStreamHandler
      dsimp only
      rw [himages, husage, if_neg (not_le.mpr hpositive)]
    rw [hstream]
    exact hsum

def balancedMetadata : GeminiUsageMetadata where
  promptTokenCount := 10
  toolUsePromptTokenCount := 2
  candidatesTokenCount := 5
  thoughtsTokenCount := 3
  totalTokenCount := 20

theorem balanced_usage_sums_to_total :
    (geminiChatHandler balancedMetadata 7).promptTokens +
        (geminiChatHandler balancedMetadata 7).completionTokens = 20 ∧
      (geminiStreamHandler (fun _ => 1) 7 1 [({}, balancedMetadata)]).promptTokens +
        (geminiStreamHandler (fun _ => 1) 7 1 [({}, balancedMetadata)]).completionTokens = 20 := by
  have hcompletion : balancedMetadata.Counted := by constructor <;> decide
  have hbalanced : balancedMetadata.Balanced := by constructor <;> decide
  obtain ⟨-, -, -, -, hchat, hstream⟩ := @gemini_usage_signs_and_totals balancedMetadata 7
    [({}, balancedMetadata)] (fun _ => 1) 1 hcompletion (by simpa using hcompletion) (by decide)
    (by decide)
  exact ⟨hchat hbalanced, hstream balancedMetadata rfl hbalanced⟩

/-- The metadata has only a total, which is below the estimate: minus 95 tokens are billed. -/
theorem total_below_estimate_is_negative :
    (geminiChatHandler { totalTokenCount := 5 } 100).completionTokens = -95 := by
  decide

end NewApi.Gemini.Metadata
