import NewApi.Billing.TokenParams

/-!
# The charge for a text request

`service/text_quota.go`: the quota that a served text request costs, by ratios or by a billing
expression with the frozen group ratio. Tool calls are charged on top with the group ratio of the
price data. Decimals are exact rationals.
-/

namespace NewApi.Billing

open Lib

/-- The ratios and prices of a model in `types.PriceData`, apart from the group ratio. -/
structure TextPrice where
  modelRatio : ℚ := 0
  completionRatio : ℚ := 0
  cacheRatio : ℚ := 0
  imageRatio : ℚ := 0
  cacheCreationRatio : ℚ := 0
  cacheCreation5mRatio : ℚ := 0
  cacheCreation1hRatio : ℚ := 0
  modelPrice : ℚ := 0
  usePrice : Bool := false
  otherRatios : List ℚ := []

structure ToolCalls where
  /-- The call counts of `BuiltInTools`, if there is a `ResponsesUsageInfo`. -/
  webSearchPreview : Option Int := none
  fileSearch : Option Int := none
  hasResponsesUsageInfo : Bool := false
  claudeWebSearchRequests : Int := 0
  imageGenerationCall : Bool := false
  webSearchPreviewPrice : ℚ := 0
  webSearchPrice : ℚ := 0
  fileSearchPrice : ℚ := 0
  imageGenerationPrice : ℚ := 0

/-- A served text request: what its charge is computed from. -/
structure TextCall (Request : Type) where
  modelName : String
  price : TextPrice := {}
  tools : ToolCalls := {}
  /-- The final request format is that of Claude. -/
  claudeFormat : Bool := false
  /-- The channel is one of OpenRouter. -/
  openRouter : Bool := false
  /-- `usage.Cost`. -/
  cost : ℚ := 0
  /-- `hasCustomModelRatio`. -/
  customModelRatio : Bool := false
  usage : Option Usage
  estimatePromptTokens : Int := 0
  maxTokens : Int := 0
  quotaPerUnit : ℚ := 500000
  /-- `GetGeminiInputAudioPricePerMillionTokens`. -/
  audioInputPrice : ℚ := 0
  /-- The quota was not pre-consumed for a trusted user. -/
  trusted : Bool := false
  enableFreeModelPreConsume : Bool := true
  /-- The billing expression of a tiered model. -/
  expr : Option (BillingExpr Request) := none
  request : Request

variable {Request : Type}

/-! ## Tool calls -/

def calculateTextToolCallSurcharge (call : TextCall Request) (groupRatio : ℚ) : ℚ :=
  let perThousand (price : ℚ) (calls : Int) : ℚ :=
    price * calls / 1000 * groupRatio * call.quotaPerUnit
  let counted (price : ℚ) : Option Int → ℚ
    | none => 0
    | some calls => if 0 < calls then perThousand price calls else 0
  let webSearch :=
    if call.tools.hasResponsesUsageInfo then
      counted call.tools.webSearchPreviewPrice call.tools.webSearchPreview
    else if "search-preview".toList.isSuffixOf call.modelName.toList then
      perThousand call.tools.webSearchPreviewPrice 1
    else 0
  let claudeWebSearch := counted call.tools.webSearchPrice (some call.tools.claudeWebSearchRequests)
  let fileSearch :=
    if call.tools.hasResponsesUsageInfo then
      counted call.tools.fileSearchPrice call.tools.fileSearch
    else 0
  let imageGeneration :=
    if call.tools.imageGenerationCall then
      call.tools.imageGenerationPrice * groupRatio * call.quotaPerUnit
    else 0
  webSearch + claudeWebSearch + fileSearch + imageGeneration

/-! ## Ratios -/

def isLegacyClaudeDerivedOpenAIUsage (claudeFormat : Bool) (usage : Usage) : Bool :=
  !claudeFormat && usage.usageSource = "" && usage.usageSemantic = .unset &&
    (0 < usage.claudeCacheCreation5mTokens || 0 < usage.claudeCacheCreation1hTokens)

/-- A quotient by zero converts to the smallest integer. -/
def calcOpenRouterCacheCreateTokens (call : TextCall Request) (usage : Usage) : Int :=
  if call.price.cacheCreationRatio = 1 then 0
  else
    let quotaPrice := call.price.modelRatio / call.quotaPerUnit
    let promptCacheCreatePrice := quotaPrice * call.price.cacheCreationRatio
    let promptCacheReadPrice := quotaPrice * call.price.cacheRatio
    let completionPrice := quotaPrice * call.price.completionRatio
    if promptCacheCreatePrice - quotaPrice = 0 then -(2 ^ 63)
    else
      Int64.ofRat (Int64.roundHalfAway ((call.cost - usage.promptTokens * quotaPrice +
        usage.promptTokensDetails.cachedTokens * (quotaPrice - promptCacheReadPrice) -
        usage.completionTokens * completionPrice) / (promptCacheCreatePrice - quotaPrice)))

/-- The prompt and cache creation tokens of `calculateTextQuotaSummary`. OpenRouter counts cached
tokens in the prompt tokens, and reports the tokens of cache creation only through the cost. The
guard `usage.Cost != 0` compares with the integer zero, which a decoded number never is. -/
def summaryTokens (call : TextCall Request) (usage : Usage) : Int × Int :=
  let promptTokens := usage.promptTokens
  let cacheCreationTokens := usage.promptTokensDetails.cachedCreationTokens
  if call.openRouter && usageSemanticFromUsage call.claudeFormat usage = .anthropic then
    let promptTokens := promptTokens - usage.promptTokensDetails.cachedTokens
    let guess := calcOpenRouterCacheCreateTokens call usage
    let isUsingCustomSettings := call.price.usePrice || call.customModelRatio
    let cacheCreationTokens :=
      if cacheCreationTokens = 0 ∧ call.price.cacheCreationRatio ≠ 1 ∧
          ¬ isUsingCustomSettings ∧ 0 ≤ guess ∧ guess ≤ promptTokens then guess
      else cacheCreationTokens
    (promptTokens - cacheCreationTokens, cacheCreationTokens)
  else (promptTokens, cacheCreationTokens)

/-- The weighted tokens of `calculateTextQuotaSummary`, before the model and group ratio. -/
def weightedTokens (call : TextCall Request) (usage : Usage) : ℚ :=
  let (promptTokens, cacheCreationTokens) := summaryTokens call usage
  let details := usage.promptTokensDetails
  let separate := usageSemanticFromUsage call.claudeFormat usage = .anthropic ∨
    isLegacyClaudeDerivedOpenAIUsage call.claudeFormat usage
  let tokens5m := usage.claudeCacheCreation5mTokens
  let tokens1h := usage.claudeCacheCreation1hTokens
  let hasCreation := cacheCreationTokens ≠ 0 ∨ 0 < tokens5m ∨ 0 < tokens1h
  let baseTokens : Int :=
    promptTokens - (if separate then 0 else details.cachedTokens) -
      (if hasCreation ∧ ¬ separate then cacheCreationTokens else 0) - details.imageTokens -
      (if 0 < call.audioInputPrice then details.audioTokens else 0)
  let creation : ℚ :=
    if ¬ hasCreation then 0
    else if separate then
      (max (cacheCreationTokens - tokens5m - tokens1h) 0 : Int) * call.price.cacheCreationRatio +
        tokens5m * call.price.cacheCreation5mRatio + tokens1h * call.price.cacheCreation1hRatio
    else cacheCreationTokens * call.price.cacheCreationRatio
  baseTokens + details.cachedTokens * call.price.cacheRatio +
    details.imageTokens * call.price.imageRatio + creation +
    usage.completionTokens * call.price.completionRatio

/-- The usage that is charged: a missing one counts as the estimated prompt. -/
def TextCall.chargedUsage (call : TextCall Request) : Usage :=
  call.usage.getD { promptTokens := call.estimatePromptTokens, completionTokens := 0 }

/-- `summary.Quota` of `calculateTextQuotaSummary`. -/
def calculateTextQuota (call : TextCall Request) (groupRatio : ℚ) : Int :=
  let usage := call.chargedUsage
  let ratio := call.price.modelRatio * groupRatio
  let surcharge := calculateTextToolCallSurcharge call groupRatio
  let quota :=
    if call.price.usePrice then
      let exact := (call.price.modelPrice * call.quotaPerUnit * groupRatio + surcharge) *
        call.price.otherRatios.prod
      Int64.wrap (Int64.roundHalfAway exact)
    else
      let audioInput :=
        if 0 < call.audioInputPrice then
          call.audioInputPrice / 1000000 * usage.promptTokensDetails.audioTokens * groupRatio *
            call.quotaPerUnit
        else 0
      let exact := (weightedTokens call usage * ratio + surcharge + audioInput) *
        call.price.otherRatios.prod
      Int64.wrap (Int64.roundHalfAway (if ratio ≠ 0 ∧ exact ≤ 0 then 1 else exact))
  if usage.promptTokens + usage.completionTokens = 0 then 0
  else if ratio ≠ 0 ∧ quota = 0 then 1
  else quota

/-! ## Expressions -/

/-- What the session has pre-consumed for a snapshot. -/
def TextCall.preConsumed (call : TextCall Request) (snap : BillingSnapshot Request) : Int :=
  if call.trusted then 0 else snap.estimatedQuotaAfterGroup

end NewApi.Billing
