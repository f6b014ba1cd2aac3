import NewApi.Billing.Expression

/-!
# Token counts for billing expressions

`BuildTieredTokenParams` turns a usage into the variables of a billing expression. In the format of
OpenAI the prompt tokens count cached tokens, in that of Claude they do not.
`token_params_agree_iff` says for which requests the formats agree.
-/

namespace NewApi.Billing

open Lib List

inductive UsageSemantic where
  | unset
  | openai
  | anthropic
  | other (text : String)
  deriving DecidableEq, Repr

structure InputTokenDetails where
  cachedTokens : Int := 0
  cachedCreationTokens : Int := 0
  imageTokens : Int := 0
  audioTokens : Int := 0
  deriving DecidableEq

structure OutputTokenDetails where
  imageTokens : Int := 0
  audioTokens : Int := 0
  deriving DecidableEq

structure Usage where
  promptTokens : Int
  completionTokens : Int
  usageSemantic : UsageSemantic := .unset
  usageSource : String := ""
  promptTokensDetails : InputTokenDetails := {}
  completionTokenDetails : OutputTokenDetails := {}
  claudeCacheCreation5mTokens : Int := 0
  claudeCacheCreation1hTokens : Int := 0
  deriving DecidableEq

/-- `usageSemanticFromUsage`, for a request whose final format is that of Claude or not. -/
def usageSemanticFromUsage (claudeFormat : Bool) (usage : Usage) : UsageSemantic :=
  if usage.usageSemantic ≠ .unset then usage.usageSemantic
  else if claudeFormat then .anthropic
  else .openai

def buildTieredTokenParams (usage : Usage) (isClaudeUsageSemantic : Bool)
    (usedVars : ExprVar → Bool) : TokenParams :=
  let cr : ℚ := usage.promptTokensDetails.cachedTokens
  let cc5m : ℚ :=
    if usage.usageSemantic = .anthropic then usage.claudeCacheCreation5mTokens
    else usage.promptTokensDetails.cachedCreationTokens
  let cc1h : ℚ :=
    if usage.usageSemantic = .anthropic then usage.claudeCacheCreation1hTokens else 0
  let img : ℚ := usage.promptTokensDetails.imageTokens
  let ai : ℚ := usage.promptTokensDetails.audioTokens
  let imgO : ℚ := usage.completionTokenDetails.imageTokens
  let ao : ℚ := usage.completionTokenDetails.audioTokens
  -- the part of a sub-category that the expression prices on its own
  let priced (name : ExprVar) (tokens : ℚ) : ℚ :=
    if !isClaudeUsageSemantic && usedVars name then tokens else 0
  let p := (usage.promptTokens : ℚ) - priced .cr cr - priced .cc cc5m - priced .cc1h cc1h -
    priced .img img - priced .ai ai
  let c := (usage.completionTokens : ℚ) - priced .imgO imgO - priced .ao ao
  { p := if p < 0 then 0 else p
    c := if c < 0 then 0 else c
    len :=
      if isClaudeUsageSemantic then usage.promptTokens + cr + cc5m + cc1h else usage.promptTokens
    cr, cc := cc5m, cc1h, img, imgO, ai, ao }

/-- The variables of the expression for a reported usage, as `PostTextConsumeQuota` builds them. -/
def tieredParams (claudeFormat : Bool) (usedVars : ExprVar → Bool) (usage : Usage) : TokenParams :=
  buildTieredTokenParams usage (usageSemanticFromUsage claudeFormat usage = .anthropic) usedVars

/-! ## The tokens by variable -/

section

variable (usage : Usage) (usedVars : ExprVar → Bool)

end

structure Breakdown where
  text : Nat
  cacheRead : Nat
  cacheCreation5m : Nat
  cacheCreation1h : Nat
  completion : Nat
  deriving DecidableEq

def Breakdown.claudeUsage (b : Breakdown) : Usage where
  promptTokens := b.text
  completionTokens := b.completion
  usageSemantic := .anthropic
  promptTokensDetails :=
    { cachedTokens := b.cacheRead
      cachedCreationTokens := b.cacheCreation5m + b.cacheCreation1h }
  claudeCacheCreation5mTokens := b.cacheCreation5m
  claudeCacheCreation1hTokens := b.cacheCreation1h

def cacheCreationTokensForOpenAIUsage (usage : Usage) : Int :=
  let split := usage.claudeCacheCreation5mTokens + usage.claudeCacheCreation1hTokens
  if split = 0 then usage.promptTokensDetails.cachedCreationTokens
  else if usage.promptTokensDetails.cachedCreationTokens > split then
    usage.promptTokensDetails.cachedCreationTokens
  else split

def normalizeCacheCreationSplit (totalTokens tokens5m tokens1h : Int) : Int × Int :=
  (tokens5m + max (totalTokens - tokens5m - tokens1h) 0, tokens1h)

/-- The prompt tokens include all categories, and all tokens of cache creation are in one of the
details. -/
def buildOpenAIStyleUsageFromClaudeUsage (usage : Usage) : Usage :=
  let split := normalizeCacheCreationSplit usage.promptTokensDetails.cachedCreationTokens
    usage.claudeCacheCreation5mTokens usage.claudeCacheCreation1hTokens
  { usage with
    promptTokens := usage.promptTokens + usage.promptTokensDetails.cachedTokens +
      cacheCreationTokensForOpenAIUsage usage
    usageSemantic := .openai
    usageSource := "anthropic"
    claudeCacheCreation5mTokens := split.1
    claudeCacheCreation1hTokens := split.2 }

def Breakdown.gptUsage (b : Breakdown) : Usage :=
  buildOpenAIStyleUsageFromClaudeUsage b.claudeUsage

/-- The same `P`, `C` and `Len`, and the same values of the variables that the expression uses. -/
structure AgreeOn (usedVars : ExprVar → Bool) (first second : TokenParams) : Prop where
  p : first.p = second.p
  c : first.c = second.c
  len : first.len = second.len
  used : ∀ name, usedVars name → first.value name = second.value name

open Breakdown

section

variable (b : Breakdown) (claudeFormat : Bool) (usedVars uv : ExprVar → Bool)

theorem gptUsage_promptTokens :
    b.gptUsage.promptTokens = b.text + b.cacheRead + (b.cacheCreation5m + b.cacheCreation1h) := by
  have hsu : cacheCreationTokensForOpenAIUsage b.claudeUsage =
      b.cacheCreation5m + b.cacheCreation1h := by
    simp [cacheCreationTokensForOpenAIUsage, claudeUsage]
  show b.claudeUsage.promptTokens + b.claudeUsage.promptTokensDetails.cachedTokens +
    cacheCreationTokensForOpenAIUsage b.claudeUsage = _
  rw [hsu]
  rfl

theorem tieredParams_claudeUsage :
    tieredParams claudeFormat uv b.claudeUsage =
      { p := b.text, c := b.completion,
        len := b.text + b.cacheRead + b.cacheCreation5m + b.cacheCreation1h,
        cr := b.cacheRead, cc := b.cacheCreation5m, cc1h := b.cacheCreation1h,
        img := 0, imgO := 0, ai := 0, ao := 0 } := by
  simp [tieredParams, usageSemanticFromUsage, buildTieredTokenParams, claudeUsage]

def Breakdown.unpriced : ℚ :=
  b.text + (if usedVars .cr then 0 else (b.cacheRead : ℚ)) +
    if usedVars .cc then 0 else (b.cacheCreation5m + b.cacheCreation1h : ℚ)

theorem unpriced_eq_sub :
    b.unpriced uv = (b.text + b.cacheRead + (b.cacheCreation5m + b.cacheCreation1h) : ℚ) -
      (if uv .cr then (b.cacheRead : ℚ) else 0) -
      if uv .cc then (b.cacheCreation5m + b.cacheCreation1h : ℚ) else 0 := by
  unfold unpriced
  split <;> split <;> ring

theorem unpriced_nonneg : 0 ≤ b.unpriced uv := by
  unfold unpriced
  split <;> split <;> positivity

theorem tieredParams_gptUsage :
    tieredParams claudeFormat uv b.gptUsage =
      { p := b.unpriced uv, c := b.completion,
        len := b.text + b.cacheRead + (b.cacheCreation5m + b.cacheCreation1h),
        cr := b.cacheRead, cc := b.cacheCreation5m + b.cacheCreation1h, cc1h := 0,
        img := 0, imgO := 0, ai := 0, ao := 0 } := by
  have hse : b.gptUsage.usageSemantic = .openai := rfl
  have hde : b.gptUsage.promptTokensDetails = b.claudeUsage.promptTokensDetails := rfl
  have hou : b.gptUsage.completionTokenDetails = {} := rfl
  have hco : b.gptUsage.completionTokens = b.completion := rfl
  simp only [tieredParams, usageSemanticFromUsage, buildTieredTokenParams, hse, hde, hou, hco,
    gptUsage_promptTokens]
  simp [claudeUsage, ← unpriced_eq_sub, not_lt.mpr (unpriced_nonneg b uv)]

theorem unpriced_eq_text_iff :
    b.unpriced uv = b.text ↔
      (uv .cr ∨ b.cacheRead = 0) ∧ (uv .cc ∨ b.cacheCreation5m = 0 ∧ b.cacheCreation1h = 0) := by
  unfold unpriced
  by_cases hcr : uv .cr <;> by_cases hcc : uv .cc <;>
    simp only [hcr, hcc, if_true, if_false, true_or, false_or, and_true, true_and,
      Bool.false_eq_true]
  · simp
  · rw [← Nat.add_eq_zero_iff, ← @Nat.cast_eq_zero ℚ]
    push_cast
    constructor <;> intro h <;> linarith
  · rw [← @Nat.cast_eq_zero ℚ]
    constructor <;> intro h <;> linarith
  · rw [← Nat.add_eq_zero_iff, ← Nat.add_eq_zero_iff, ← @Nat.cast_eq_zero ℚ]
    push_cast
    constructor <;> intro h <;> linarith

/-- For every breakdown of the tokens of a request and every set of variables, the two formats
give the same `P`, `C` and `Len` and the same values of the used variables exactly if there is no
cache creation for an hour, and the tokens read from the cache and the other cache creation are
absent or priced by the expression. Then every expression charges the same for both. -/
theorem token_params_agree_iff :
    (AgreeOn usedVars (tieredParams claudeFormat usedVars b.gptUsage)
        (tieredParams claudeFormat usedVars b.claudeUsage) ↔
      b.cacheCreation1h = 0 ∧ (usedVars .cr ∨ b.cacheRead = 0) ∧
        (usedVars .cc ∨ b.cacheCreation5m = 0)) ∧
    ∀ (Request : Type) (request : Request) (snap : BillingSnapshot Request),
      AgreeOn (snap.expr.uses ·) (tieredParams claudeFormat (snap.expr.uses ·) b.gptUsage)
        (tieredParams claudeFormat (snap.expr.uses ·) b.claudeUsage) →
      computeTieredQuotaWithRequest snap
          (tieredParams claudeFormat (snap.expr.uses ·) b.gptUsage) request =
        computeTieredQuotaWithRequest snap
          (tieredParams claudeFormat (snap.expr.uses ·) b.claudeUsage) request := by
  refine ⟨?_, fun Request request snap hag => ?_⟩
  · rw [tieredParams_gptUsage, tieredParams_claudeUsage]
    constructor
    · intro hag
      obtain ⟨hcr, hcc⟩ := (unpriced_eq_text_iff b usedVars).mp hag.p
      have hho : b.cacheCreation1h = 0 := by
        rcases hcc with hcc | hcc
        · have hva : (b.cacheCreation5m + b.cacheCreation1h : ℚ) = b.cacheCreation5m :=
            hag.used .cc hcc
          exact_mod_cast add_eq_left.mp hva
        · exact hcc.2
      exact ⟨hho, hcr, hcc.imp_right And.left⟩
    · rintro ⟨hho, hcr, hcc⟩
      refine ⟨?_, rfl, by simp [hho], fun name _ => ?_⟩
      · exact (unpriced_eq_text_iff b usedVars).mpr
          ⟨hcr, hcc.imp_right fun h => ⟨h, hho⟩⟩
      · cases name <;> simp [TokenParams.value, hho, unpriced_eq_text_iff, hcr, hcc]
  · unfold computeTieredQuotaWithRequest
    rw [snap.expr.eval_congr request hag.used]

end

def readRequest : Breakdown where
  text := 800
  cacheRead := 200
  cacheCreation5m := 0
  cacheCreation1h := 0
  completion := 100

/-- An expression that prices the tokens read from the cache charges the same in both formats. -/
theorem readRequest_agrees :
    AgreeOn (· = .cr) (tieredParams false (· = .cr) readRequest.gptUsage)
        (tieredParams false (· = .cr) readRequest.claudeUsage) ∧
      (tieredParams false (· = .cr) readRequest.gptUsage).p = 800 := by
  refine ⟨(token_params_agree_iff readRequest false (· = .cr)).1.mpr ⟨rfl, .inl rfl, .inr rfl⟩, ?_⟩
  decide +kernel

def cachedRequest : Breakdown where
  text := 800
  cacheRead := 200
  cacheCreation5m := 0
  cacheCreation1h := 50
  completion := 100

/-- With an expression that prices no cached tokens they are free in the format of Claude. With
one that prices the tokens written for an hour, those are free in the format of OpenAI. -/
theorem cached_tokens_free_in_one_format :
    (tieredParams false (fun _ => false) cachedRequest.gptUsage).p = 1050 ∧
      (tieredParams false (fun _ => false) cachedRequest.claudeUsage).p = 800 ∧
      (tieredParams false (· = .cc1h) cachedRequest.gptUsage).cc1h = 0 ∧
      (tieredParams false (· = .cc1h) cachedRequest.claudeUsage).cc1h = 50 := by
  decide +kernel

end NewApi.Billing
