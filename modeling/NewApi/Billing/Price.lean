import NewApi.Billing.Request

/-!
# Prices

The quotas of `relay/helper/price.go`. Ratios, prices and floating-point results are exact
rationals; the conversion to `int` and the sum of token counts are those of the machine.
-/

namespace NewApi.Billing

open Lib

/-- `billing_setting.GetBillingMode`. A tiered model has an expression, unless its entry is
missing; the expression returns a price for prompt and completion tokens, or fails. -/
inductive BillingMode where
  | ratio
  | tieredExpr (expr : Option (ℚ → ℚ → Option ℚ))

structure PriceSettings where
  modelName : String
  isAdmin : Bool := false
  /-- `GetGroupGroupRatio`. -/
  groupGroupRatio : Option ℚ := none
  /-- `GetGroupRatio`. -/
  usingGroupRatio : ℚ := 1
  billingMode : BillingMode := .ratio
  /-- `GetModelPrice`. -/
  modelPrice : Option ℚ := none
  /-- `GetDefaultModelPriceMap`. -/
  defaultModelPrice : Option ℚ := none
  /-- `GetModelRatio` with its success flag. -/
  modelRatio : ℚ := 75 / 2
  modelRatioFound : Bool := true
  acceptUnsetRatioModel : Bool := false
  /-- `common.PreConsumedQuota`. -/
  preConsumedQuota : Int := 500
  /-- `common.QuotaPerUnit`. -/
  quotaPerUnit : ℚ := 500000
  enableFreeModelPreConsume : Bool := true

def modelPriceNotConfiguredError (s : PriceSettings) : String :=
  if s.isAdmin then
    s!"模型 {s.modelName} 的价格未配置。请前往「系统设置 → 运营设置」开启自用模式，或在「系统设置 → 分组与模型定价设置」中为该模型配置价格；" ++
    s!"Model {s.modelName} price not configured. Go to System Settings → Operation Settings " ++
    "to enable self-use mode, or configure the model price in System Settings → " ++
    "Group & Model Pricing."
  else
    s!"模型 {s.modelName} 的价格尚未由管理员配置，暂时无法使用，请联系站点管理员开启该模型；" ++
    s!"Model {s.modelName} has not been priced by the administrator yet. " ++
    "Please contact the site administrator to enable this model."

/-- The fields of `types.PriceData` that billing reads. -/
structure PriceData where
  freeModel : Bool := false
  modelPrice : ℚ := 0
  modelRatio : ℚ := 0
  groupRatio : ℚ
  usePrice : Bool := false
  quota : Int := 0
  quotaToPreConsume : Int := 0
  otherRatios : List (String × ℚ) := []
  deriving DecidableEq

/-- The special ratio of the user's group, or the ratio of the group used. -/
def handleGroupRatio (s : PriceSettings) : ℚ :=
  s.groupGroupRatio.getD s.usingGroupRatio

/-- Half away from zero. -/
def quotaRound (x : ℚ) : Int :=
  Int64.ofRat (Int64.roundHalfAway x)

def modelPriceHelperTiered (s : PriceSettings) (expr : Option (ℚ → ℚ → Option ℚ))
    (promptTokens : Int) (tokenMeta : TokenCountMeta) : Except String PriceData :=
  match expr with
  | none =>
    .error s!"model {s.modelName} is configured as tiered_expr but has no billing expression"
  | some expr =>
    match expr promptTokens tokenMeta.maxTokens with
    | none => .error s!"model {s.modelName} tiered expr run failed"
    | some rawCost =>
      let groupRatio := handleGroupRatio s
      let freeModel : Bool := ¬ s.enableFreeModelPreConsume ∧ groupRatio = 0
      .ok
        { freeModel
          groupRatio
          quotaToPreConsume :=
            if freeModel then 0
            else quotaRound (rawCost / 1000000 * s.quotaPerUnit * groupRatio) }

def preConsumedTokens (s : PriceSettings) (promptTokens maxTokens : Int) : Int :=
  let tokens := max promptTokens s.preConsumedQuota
  if maxTokens ≠ 0 then Int64.wrap (tokens + maxTokens) else tokens

def scaledPrice (tokenMeta : TokenCountMeta) (price : ℚ) : ℚ :=
  if tokenMeta.imagePriceRatio ≠ 0 then price * tokenMeta.imagePriceRatio else price

/-- A model without a price or a ratio, unless free models pre-consume, too. -/
def isFreeModel (s : PriceSettings) (tokenMeta : TokenCountMeta) : Bool :=
  !s.enableFreeModelPreConsume &&
    (handleGroupRatio s = 0 ||
      match s.modelPrice with
      | some price => scaledPrice tokenMeta price = 0
      | none => s.modelRatio = 0)

def modelPriceHelper (s : PriceSettings) (promptTokens : Int) (tokenMeta : TokenCountMeta) :
    Except String PriceData :=
  match s.billingMode with
  | .tieredExpr expr => modelPriceHelperTiered s expr promptTokens tokenMeta
  | .ratio =>
    let groupRatio := handleGroupRatio s
    let freeModel := isFreeModel s tokenMeta
    match s.modelPrice with
    | some price =>
      let modelPrice := scaledPrice tokenMeta price
      .ok
        { freeModel
          modelPrice
          groupRatio
          usePrice := true
          quotaToPreConsume :=
            if freeModel then 0
            else Int64.ofRat (modelPrice * s.quotaPerUnit * groupRatio) }
    | none =>
      if ¬ s.modelRatioFound ∧ ¬ s.acceptUnsetRatioModel then
        .error (modelPriceNotConfiguredError s)
      else
        .ok
          { freeModel
            modelPrice := -1
            modelRatio := s.modelRatio
            groupRatio
            quotaToPreConsume :=
              if freeModel then 0
              else Int64.ofRat (preConsumedTokens s promptTokens tokenMeta.maxTokens *
                (s.modelRatio * groupRatio)) }

/-- The price of a task, from the price of the model, its default price, or half its ratio. -/
def modelPriceHelperPerCall (s : PriceSettings) : Except String PriceData :=
  let groupRatio := handleGroupRatio s
  match s.modelPrice.or s.defaultModelPrice with
  | some modelPrice =>
    let freeModel : Bool :=
      ¬ s.enableFreeModelPreConsume ∧ (groupRatio = 0 ∨ modelPrice = 0)
    .ok
      { freeModel
        modelPrice
        usePrice := true
        quota := if freeModel then 0
          else Int64.ofRat (modelPrice * s.quotaPerUnit * groupRatio)
        groupRatio }
  | none =>
    if ¬ s.modelRatioFound ∧ ¬ s.acceptUnsetRatioModel then
      .error (modelPriceNotConfiguredError s)
    else
      let freeModel : Bool :=
        ¬ s.enableFreeModelPreConsume ∧ (groupRatio = 0 ∨ s.modelRatio = 0)
      .ok
        { freeModel
          modelPrice := -1
          modelRatio := s.modelRatio
          quota := if freeModel then 0
            else Int64.ofRat (s.modelRatio / 2 * s.quotaPerUnit * groupRatio)
          groupRatio }

/-! ## When the quota is not negative -/

theorem quotaRound_nonneg_iff : 0 ≤ quotaRound x ↔ -1 / 2 < x ∧ x < 2 ^ 63 - 1 / 2 := by
  unfold quotaRound
  rw [Int64.ofRat_nonneg_iff, Int64.roundHalfAway]
  split
  · rename_i hx
    have hfl : (0 : ℚ) ≤ (⌊x + 1 / 2⌋ : Int) := by
      exact_mod_cast Int.floor_nonneg.mpr (by linarith)
    have hlt : ((⌊x + 1 / 2⌋ : Int) : ℚ) < 2 ^ 63 ↔ x + 1 / 2 < 2 ^ 63 := by
      have h := @Int.floor_lt ℚ _ _ _ (2 ^ 63) (x + 1 / 2)
      exact_mod_cast h
    rw [hlt]
    constructor
    · rintro ⟨-, h⟩
      exact ⟨by linarith, by linarith⟩
    · rintro ⟨-, h⟩
      exact ⟨by linarith, by linarith⟩
  · rename_i hx
    have hlt : (-1 : ℚ) < (⌈x - 1 / 2⌉ : Int) ↔ (-1 : ℚ) < x - 1 / 2 := by
      have h := @Int.lt_ceil ℚ _ _ _ (-1) (x - 1 / 2)
      exact_mod_cast h
    have hce : ((⌈x - 1 / 2⌉ : Int) : ℚ) ≤ 0 := by
      exact_mod_cast Int.ceil_le.mpr (by push_cast; linarith)
    rw [hlt]
    constructor
    · rintro ⟨h, -⟩
      exact ⟨by linarith, by linarith⟩
    · rintro ⟨h, -⟩
      exact ⟨by linarith, by linarith⟩

end NewApi.Billing
