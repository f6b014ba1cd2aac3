import NewApi.Billing.TextQuota
import NewApi.Streams.Formats

/-!
# Tokens of cache creation in the two billing modes

A Claude upstream reports the tokens written to its cache as a total and as a split by lifetime.
Ratios charge the split and the rest of the total, a billing expression only the split
(`creation_tokens_agree_iff`).
-/

namespace NewApi.Billing

open Streams (ClaudeUsage ClaudeResponse)

/-! ## The usage of a Claude upstream -/

def getCacheCreation5mTokens (reported : ClaudeUsage) : Int :=
  (reported.cacheCreation.map Prod.fst).getD 0

def getCacheCreation1hTokens (reported : ClaudeUsage) : Int :=
  (reported.cacheCreation.map Prod.snd).getD 0

def Usage.replacedBy (usage : Usage) (reported : ClaudeUsage) : Usage :=
  { usage with
    promptTokens := reported.inputTokens
    completionTokens := reported.outputTokens
    usageSemantic := .anthropic
    promptTokensDetails :=
      { usage.promptTokensDetails with
        cachedTokens := reported.cacheReadInputTokens
        cachedCreationTokens := reported.cacheCreationInputTokens }
    claudeCacheCreation5mTokens := getCacheCreation5mTokens reported
    claudeCacheCreation1hTokens := getCacheCreation1hTokens reported }

/-- The latest count: one that is not positive is not reported. -/
def latest (reported known : Int) : Int :=
  if reported > 0 then reported else known

/-- The usage with the positive counts of the report of a `message_delta`. -/
def Usage.updatedBy (usage : Usage) (reported : ClaudeUsage) : Usage :=
  let details := usage.promptTokensDetails
  { usage with
    promptTokens := latest reported.inputTokens usage.promptTokens
    completionTokens := latest reported.outputTokens usage.completionTokens
    usageSemantic := .anthropic
    promptTokensDetails :=
      { details with
        cachedTokens := latest reported.cacheReadInputTokens details.cachedTokens
        cachedCreationTokens :=
          latest reported.cacheCreationInputTokens details.cachedCreationTokens }
    claudeCacheCreation5mTokens :=
      latest (getCacheCreation5mTokens reported) usage.claudeCacheCreation5mTokens
    claudeCacheCreation1hTokens :=
      latest (getCacheCreation1hTokens reported) usage.claudeCacheCreation1hTokens }

/-- `ClaudeResponseInfo`, what is read from a stream. -/
structure ClaudeResponseInfo where
  responseText : String := ""
  usage : Usage := { promptTokens := 0, completionTokens := 0 }
  done : Bool := false

/-- `FormatClaudeResponseInfo` for one event. -/
def ClaudeResponseInfo.format (claudeInfo : ClaudeResponseInfo) (claudeResponse : ClaudeResponse) :
    ClaudeResponseInfo :=
  match claudeResponse.type with
  | .messageStart =>
    match claudeResponse.message.bind (·.usage) with
    | some reported => { claudeInfo with usage := claudeInfo.usage.replacedBy reported }
    | none => claudeInfo
  | .contentBlockDelta =>
    match claudeResponse.delta with
    | some delta =>
      { claudeInfo with
        responseText :=
          claudeInfo.responseText ++ delta.text.getD "" ++ delta.thinking.getD "" }
    | none => claudeInfo
  | .messageDelta =>
    match claudeResponse.usage with
    | some reported =>
      { claudeInfo with usage := claudeInfo.usage.updatedBy reported, done := true }
    | none => { claudeInfo with done := true }
  | _ => claudeInfo

/-- `HandleStreamFinalResponse`: missing counts of text are estimated. -/
def ClaudeResponseInfo.finalUsage (responseText2Usage : String → Usage)
    (claudeInfo : ClaudeResponseInfo) : Usage :=
  let usage := claudeInfo.usage
  let fallback := responseText2Usage claudeInfo.responseText
  let counted :=
    if usage.completionTokens = 0 ∨ claudeInfo.done = false then
      { usage with
        completionTokens :=
          if usage.completionTokens = 0 ∨
              claudeInfo.done = false ∧ fallback.completionTokens > usage.completionTokens then
            fallback.completionTokens
          else usage.completionTokens
        promptTokens :=
          if usage.promptTokens = 0 then fallback.promptTokens else usage.promptTokens }
    else usage
  { counted with usageSemantic := .anthropic }

/-- The usage that `ClaudeStreamHandler` returns for the events of a stream without an error. -/
def claudeStreamUsage (responseText2Usage : String → Usage) (events : List ClaudeResponse) :
    Usage :=
  (events.foldl ClaudeResponseInfo.format {}).finalUsage responseText2Usage

/-- The usage that `HandleClaudeResponseData` reads from a body. -/
def claudeResponseUsage (claudeResponse : ClaudeResponse) : Usage :=
  match claudeResponse.usage with
  | some reported => Usage.replacedBy { promptTokens := 0, completionTokens := 0 } reported
  | none => { promptTokens := 0, completionTokens := 0 }

inductive ClaudeReported : Usage → Prop
  | body (claudeResponse : ClaudeResponse) : ClaudeReported (claudeResponseUsage claudeResponse)
  | stream (responseText2Usage : String → Usage) (events : List ClaudeResponse) :
      ClaudeReported (claudeStreamUsage responseText2Usage events)

def Usage.creationTotal (usage : Usage) : Int :=
  usage.promptTokensDetails.cachedCreationTokens

def Usage.creationSplit (usage : Usage) : Int :=
  usage.claudeCacheCreation5mTokens + usage.claudeCacheCreation1hTokens

theorem ClaudeReported.anthropic_or_empty (h : ClaudeReported usage) :
    usage.usageSemantic = .anthropic ∨ usage = { promptTokens := 0, completionTokens := 0 } := by
  cases h with
  | body cr =>
    unfold claudeResponseUsage
    cases cr.usage with
    | none => exact .inr rfl
    | some repo => exact .inl rfl
  | stream rtu evs => exact .inl rfl

/-! ## The tokens that are charged -/

variable {Request : Type}

def CountsApart (call : TextCall Request) (usage : Usage) : Prop :=
  usageSemanticFromUsage call.claudeFormat usage = .anthropic ∨
    isLegacyClaudeDerivedOpenAIUsage call.claudeFormat usage
  deriving Decidable

def HasCreation (cacheCreationTokens : Int) (usage : Usage) : Prop :=
  cacheCreationTokens ≠ 0 ∨ 0 < usage.claudeCacheCreation5mTokens ∨
    0 < usage.claudeCacheCreation1hTokens
  deriving Decidable

/-- The tokens that `calculateTextQuotaSummary` multiplies by the ratios of cache creation: by the
common ratio, by that for five minutes and by that for an hour. -/
def ratioCreation (call : TextCall Request) (usage : Usage) : Int × Int × Int :=
  let tokens5m := usage.claudeCacheCreation5mTokens
  let tokens1h := usage.claudeCacheCreation1hTokens
  if ¬HasCreation (summaryTokens call usage).2 usage then (0, 0, 0)
  else if CountsApart call usage then
    (max ((summaryTokens call usage).2 - tokens5m - tokens1h) 0, tokens5m, tokens1h)
  else ((summaryTokens call usage).2, 0, 0)

def otherWeightedTokens (call : TextCall Request) (usage : Usage) : ℚ :=
  let details := usage.promptTokensDetails
  let baseTokens : Int :=
    (summaryTokens call usage).1 - (if CountsApart call usage then 0 else details.cachedTokens) -
      (if HasCreation (summaryTokens call usage).2 usage ∧ ¬CountsApart call usage then
        (summaryTokens call usage).2 else 0) - details.imageTokens -
      (if 0 < call.audioInputPrice then details.audioTokens else 0)
  baseTokens + details.cachedTokens * call.price.cacheRatio +
    details.imageTokens * call.price.imageRatio +
    usage.completionTokens * call.price.completionRatio

theorem weightedTokens_eq :
    weightedTokens call usage = otherWeightedTokens call usage +
      ((ratioCreation call usage).1 * call.price.cacheCreationRatio +
        (ratioCreation call usage).2.1 * call.price.cacheCreation5mRatio +
        (ratioCreation call usage).2.2 * call.price.cacheCreation1hRatio) := by
  unfold weightedTokens otherWeightedTokens ratioCreation HasCreation CountsApart
  generalize summaryTokens call usage = tok
  obtain ⟨pt, cct⟩ := tok
  by_cases hap : usageSemanticFromUsage call.claudeFormat usage = .anthropic ∨
      isLegacyClaudeDerivedOpenAIUsage call.claudeFormat usage
  all_goals
    by_cases hha : cct ≠ 0 ∨ 0 < usage.claudeCacheCreation5mTokens ∨
      0 < usage.claudeCacheCreation1hTokens
    all_goals
      simp only [hap, hha, not_true_eq_false, not_false_eq_true, and_true, and_false, if_true,
        if_false]
      ring

section

variable {call : TextCall Request} {usage : Usage}

def ratioCreationTokens (call : TextCall Request) (usage : Usage) : Int :=
  (ratioCreation call usage).1 + (ratioCreation call usage).2.1 + (ratioCreation call usage).2.2

theorem summaryTokens_creation (hch : call.openRouter = false) :
    (summaryTokens call u).2 = u.creationTotal := by
  unfold summaryTokens
  rw [hch]
  rfl

theorem ratioCreationTokens_eq_max (hch : call.openRouter = false) (h : ClaudeReported u) :
    ratioCreationTokens call u = max u.creationTotal u.creationSplit := by
  unfold ratioCreationTokens ratioCreation HasCreation
  rw [summaryTokens_creation hch]
  rcases h.anthropic_or_empty with hse | rfl
  · have hap : CountsApart call u := .inl (by simp [usageSemanticFromUsage, hse])
    unfold Usage.creationSplit
    split_ifs <;> dsimp only <;> omega
  · rfl

theorem tieredParams_creation (h : ClaudeReported u) :
    (tieredParams call.claudeFormat uv u).cc +
      (tieredParams call.claudeFormat uv u).cc1h = u.creationSplit := by
  rcases h.anthropic_or_empty with hse | rfl
  · simp [tieredParams, buildTieredTokenParams, hse, Usage.creationSplit]
  · simp [tieredParams, buildTieredTokenParams, Usage.creationSplit]

/-- For every usage of a Claude upstream, ratio mode charges the tokens of cache creation at their
three ratios, in all the greater of the total and the split, and an expression has the same number
of tokens exactly if the split is complete. -/
theorem creation_tokens_agree_iff (usedVars : ExprVar → Bool) (hchannel : call.openRouter = false)
    (h : ClaudeReported usage) :
    weightedTokens call usage = otherWeightedTokens call usage +
        ((ratioCreation call usage).1 * call.price.cacheCreationRatio +
          (ratioCreation call usage).2.1 * call.price.cacheCreation5mRatio +
          (ratioCreation call usage).2.2 * call.price.cacheCreation1hRatio) ∧
      ratioCreationTokens call usage = max usage.creationTotal usage.creationSplit ∧
      ((tieredParams call.claudeFormat usedVars usage).cc +
          (tieredParams call.claudeFormat usedVars usage).cc1h = ratioCreationTokens call usage ↔
        usage.creationTotal ≤ usage.creationSplit) := by
  have hra := ratioCreationTokens_eq_max hchannel h
  refine ⟨weightedTokens_eq, hra, ?_⟩
  rw [tieredParams_creation h, hra, Int.cast_inj, eq_comm, max_eq_right_iff]

end

def reportedUsage (total : Int) (split : Option (Int × Int)) : Usage :=
  claudeResponseUsage
    { type := .other "message"
      usage := some
        { inputTokens := 10, outputTokens := 5, cacheCreationInputTokens := total
          cacheCreation := split } }

def unpricedCall : TextCall Unit where
  modelName := "claude-sonnet-4"
  claudeFormat := true
  usage := none
  request := ()

/-- With a complete split, both modes charge all tokens. -/
theorem split_creation_agrees :
    (tieredParams true (fun _ => true) (reportedUsage 1000 (some (600, 400)))).cc +
        (tieredParams true (fun _ => true) (reportedUsage 1000 (some (600, 400)))).cc1h =
      ratioCreationTokens unpricedCall (reportedUsage 1000 (some (600, 400))) :=
  (@creation_tokens_agree_iff _ unpricedCall _ (fun _ => true) rfl (.body _)).2.2.mpr (by decide)

/-- Without a split, an expression has no tokens of cache creation. -/
theorem unsplit_creation_lost :
    ratioCreationTokens unpricedCall (reportedUsage 1000 none) = 1000 ∧
      (tieredParams true (fun _ => true) (reportedUsage 1000 none)).cc = 0 ∧
      (tieredParams true (fun _ => true) (reportedUsage 1000 none)).cc1h = 0 := by
  decide +kernel

end NewApi.Billing
