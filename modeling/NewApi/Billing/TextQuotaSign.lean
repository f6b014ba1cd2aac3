import Mathlib.Algebra.BigOperators.Group.List.Basic
import Mathlib.Algebra.Order.BigOperators.GroupWithZero.List
import NewApi.Billing.TextQuota

/-!
# The sign of the charge for a text request

The weighted tokens of an inconsistent usage can be negative. A charge by ratios that is not
positive is set to one unless the ratio is zero; a price per request and the surcharges of a request
whose ratio is zero are not guarded.
-/

namespace NewApi.Billing

open Lib

variable {Request : Type} (call : TextCall Request) (groupRatio : ℚ)

def TextCall.ratio : ℚ :=
  call.price.modelRatio * groupRatio

def TextCall.totalTokens : Int :=
  call.chargedUsage.promptTokens + call.chargedUsage.completionTokens

def TextCall.audioInputQuota : ℚ :=
  if 0 < call.audioInputPrice then
    call.audioInputPrice / 1000000 * call.chargedUsage.promptTokensDetails.audioTokens *
      groupRatio * call.quotaPerUnit
  else 0

/-- What a negative count of audio tokens would be worth. -/
def TextCall.audioRefund : ℚ :=
  call.audioInputPrice / 1000000 * -call.chargedUsage.promptTokensDetails.audioTokens *
    groupRatio * call.quotaPerUnit

/-- `quotaCalculateDecimal` before it is compared with zero. -/
def TextCall.decimal : ℚ :=
  (if call.price.usePrice then
    call.price.modelPrice * call.quotaPerUnit * groupRatio +
      calculateTextToolCallSurcharge call groupRatio
  else
    weightedTokens call call.chargedUsage * call.ratio groupRatio +
      calculateTextToolCallSurcharge call groupRatio + call.audioInputQuota groupRatio) *
    call.price.otherRatios.prod

/-- The charge is guarded: one by ratios that is not positive is set to one. -/
def TextCall.Guarded : Prop :=
  call.price.usePrice = false ∧ call.ratio groupRatio ≠ 0
  deriving Decidable

/-- `quotaCalculateDecimal` as it is rounded. -/
def TextCall.guardedDecimal : ℚ :=
  if call.Guarded groupRatio ∧ call.decimal groupRatio ≤ 0 then 1 else call.decimal groupRatio

theorem calculateTextQuota_eq :
    calculateTextQuota call groupRatio =
      if call.totalTokens = 0 then 0
      else if call.ratio groupRatio ≠ 0 ∧
          Int64.wrap (Int64.roundHalfAway (call.guardedDecimal groupRatio)) = 0 then 1
      else Int64.wrap (Int64.roundHalfAway (call.guardedDecimal groupRatio)) := by
  have hquota : (if call.price.usePrice then
        Int64.wrap (Int64.roundHalfAway (call.decimal groupRatio))
      else Int64.wrap (Int64.roundHalfAway
        (if call.ratio groupRatio ≠ 0 ∧ call.decimal groupRatio ≤ 0 then 1
          else call.decimal groupRatio))) =
      Int64.wrap (Int64.roundHalfAway (call.guardedDecimal groupRatio)) := by
    unfold TextCall.guardedDecimal TextCall.Guarded
    by_cases hprice : call.price.usePrice <;> simp [hprice]
  rw [← hquota]
  unfold calculateTextQuota TextCall.decimal TextCall.audioInputQuota TextCall.ratio
    TextCall.totalTokens
  cases call.price.usePrice with
  | true => rfl
  | false => rfl

theorem calculateTextQuota_otherRatios {ratios : List ℚ}
    (h : ratios.prod = call.price.otherRatios.prod) :
    calculateTextQuota { call with price := { call.price with otherRatios := ratios } } groupRatio =
      calculateTextQuota call groupRatio := by
  unfold calculateTextQuota
  rw [h]
  rfl

/-- A charge as it should be: not negative, zero without tokens, at least one with tokens and a
ratio, and the same for every order of the other ratios. -/
structure TextCall.Charged : Prop where
  nonneg : 0 ≤ calculateTextQuota call groupRatio
  free : call.totalTokens = 0 → calculateTextQuota call groupRatio = 0
  positive : call.totalTokens ≠ 0 → call.ratio groupRatio ≠ 0 →
    1 ≤ calculateTextQuota call groupRatio
  anyOrder : ∀ ratios : List ℚ, ratios.Perm call.price.otherRatios →
    calculateTextQuota { call with price := { call.price with otherRatios := ratios } } groupRatio =
      calculateTextQuota call groupRatio

variable {call groupRatio}

theorem guardedDecimal_gt_iff :
    -(1 / 2) < call.guardedDecimal groupRatio ↔
      call.Guarded groupRatio ∨ -(1 / 2) < call.decimal groupRatio := by
  unfold TextCall.guardedDecimal
  split
  next h => exact iff_of_true (by norm_num) (.inl h.1)
  next h =>
    refine ⟨.inr, ?_⟩
    rintro (hguarded | hdecimal)
    · have hpos : 0 < call.decimal groupRatio := not_le.mp fun hle => h ⟨hguarded, hle⟩
      linarith
    · exact hdecimal

theorem charged_iff (hfits : Int64.InRange (Int64.roundHalfAway (call.guardedDecimal groupRatio)))
    (htokens : call.totalTokens ≠ 0) :
    call.Charged groupRatio ↔ -(1 / 2) < call.guardedDecimal groupRatio := by
  have hquota := calculateTextQuota_eq call groupRatio
  rw [if_neg htokens, Int64.wrap_of_inRange hfits] at hquota
  rw [← Int64.roundHalfAway_nonneg_iff]
  constructor
  · intro h
    have hnonneg := h.nonneg
    rw [hquota] at hnonneg
    split at hnonneg
    next hone => exact hone.2.ge
    next => exact hnonneg
  intro hround
  refine ⟨?_, fun hzero => absurd hzero htokens, fun _ hratio => ?_, fun ratios hperm =>
    calculateTextQuota_otherRatios call groupRatio hperm.prod_eq⟩
  · rw [hquota]
    split
    · exact Int.one_nonneg
    · exact hround
  rw [hquota]
  split
  · exact le_rfl
  next hne =>
    have hne : Int64.roundHalfAway (call.guardedDecimal groupRatio) ≠ 0 :=
      fun hzero => hne ⟨hratio, hzero⟩
    omega

theorem charged_of_no_tokens (htokens : call.totalTokens = 0) : call.Charged groupRatio := by
  have hquota := calculateTextQuota_eq call groupRatio
  rw [if_pos htokens] at hquota
  exact ⟨hquota.ge, fun _ => hquota, fun hne => absurd htokens hne, fun ratios hperm =>
    calculateTextQuota_otherRatios call groupRatio hperm.prod_eq⟩

/-- No price and ratio is negative; `AddOtherRatio` keeps only positive ratios. The usage is
arbitrary. -/
structure TextCall.NonnegPrices (call : TextCall Request) (groupRatio : ℚ) : Prop where
  groupRatio : 0 ≤ groupRatio
  modelPrice : 0 ≤ call.price.modelPrice
  quotaPerUnit : 0 ≤ call.quotaPerUnit
  webSearchPreviewPrice : 0 ≤ call.tools.webSearchPreviewPrice
  webSearchPrice : 0 ≤ call.tools.webSearchPrice
  fileSearchPrice : 0 ≤ call.tools.fileSearchPrice
  imageGenerationPrice : 0 ≤ call.tools.imageGenerationPrice
  otherRatios : ∀ ratio ∈ call.price.otherRatios, 0 < ratio

namespace TextCall.NonnegPrices

variable (h : call.NonnegPrices groupRatio)
include h

theorem surcharge : 0 ≤ calculateTextToolCallSurcharge call groupRatio := by
  have hgroup := h.groupRatio
  have hunit := h.quotaPerUnit
  have hcalls : ∀ {price : ℚ} {calls : Int}, 0 ≤ price → 0 ≤ calls →
      0 ≤ price * calls / 1000 * groupRatio * call.quotaPerUnit := by
    intro price calls hprice hcalls
    positivity
  have hcounted : ∀ {price : ℚ} (calls : Int), 0 ≤ price →
      0 ≤ if 0 < calls then price * calls / 1000 * groupRatio * call.quotaPerUnit else 0 := by
    intro price calls hprice
    split
    next hpos => exact hcalls hprice hpos.le
    next => exact le_rfl
  refine add_nonneg (add_nonneg (add_nonneg ?_ ?_) ?_) ?_
  · split
    · cases call.tools.webSearchPreview with
      | none => exact le_rfl
      | some calls => exact hcounted calls h.webSearchPreviewPrice
    · split
      · exact hcalls h.webSearchPreviewPrice Int.one_nonneg
      · exact le_rfl
  · exact hcounted _ h.webSearchPrice
  · split
    · cases call.tools.fileSearch with
      | none => exact le_rfl
      | some calls => exact hcounted calls h.fileSearchPrice
    · exact le_rfl
  · split
    · have hprice := h.imageGenerationPrice
      positivity
    · exact le_rfl

/-- With a price per request the charge is not negative. -/
theorem decimal_of_usePrice (hprice : call.price.usePrice = true) :
    -(1 / 2) < call.decimal groupRatio := by
  have hratios : 0 < call.price.otherRatios.prod := List.prod_pos h.otherRatios
  have hsurcharge := h.surcharge
  have hmodel := h.modelPrice
  have hgroup := h.groupRatio
  have hunit := h.quotaPerUnit
  have hnonneg : 0 ≤ call.decimal groupRatio := by
    unfold TextCall.decimal
    rw [if_pos hprice]
    positivity
  linarith

/-- With a ratio of zero only a negative count of audio tokens can take something away. -/
theorem decimal_of_ratio_zero (hprice : call.price.usePrice = false)
    (hratio : call.ratio groupRatio = 0) :
    -(1 / 2) < call.decimal groupRatio ↔ call.audioInputPrice ≤ 0 ∨
      0 ≤ call.chargedUsage.promptTokensDetails.audioTokens ∨ call.audioRefund groupRatio <
        calculateTextToolCallSurcharge call groupRatio + 1 / (2 * call.price.otherRatios.prod) := by
  have hratios : 0 < call.price.otherRatios.prod := List.prod_pos h.otherRatios
  have hsurcharge := h.surcharge
  have hgroup := h.groupRatio
  have hunit := h.quotaPerUnit
  have hhalf : 0 < 1 / (2 * call.price.otherRatios.prod) := by positivity
  have hcancel : 1 / (2 * call.price.otherRatios.prod) * call.price.otherRatios.prod = 1 / 2 := by
    field_simp
  unfold TextCall.decimal TextCall.audioInputQuota
  rw [if_neg (by simp [hprice]), hratio, mul_zero, zero_add]
  by_cases haudio : 0 < call.audioInputPrice
  · rw [if_pos haudio, or_iff_right (not_le.mpr haudio)]
    have hrefund : call.audioInputPrice / 1000000 *
        call.chargedUsage.promptTokensDetails.audioTokens * groupRatio * call.quotaPerUnit =
          -call.audioRefund groupRatio := by
      unfold TextCall.audioRefund
      ring
    rw [hrefund]
    constructor
    · intro hlt
      right
      by_contra hle
      have := mul_le_mul_of_nonneg_right (not_lt.mp hle) hratios.le
      linarith
    · intro hcovered
      have hlt : call.audioRefund groupRatio <
          calculateTextToolCallSurcharge call groupRatio +
            1 / (2 * call.price.otherRatios.prod) := by
        refine hcovered.elim (fun htokens => ?_) id
        have htokens : (0 : ℚ) ≤ call.chargedUsage.promptTokensDetails.audioTokens := by
          exact_mod_cast htokens
        have hnone : 0 ≤ -call.audioRefund groupRatio := by
          rw [← hrefund]
          positivity
        linarith
      have := mul_lt_mul_of_pos_right hlt hratios
      linarith
  · rw [if_neg haudio, add_zero]
    have : 0 ≤ calculateTextToolCallSurcharge call groupRatio * call.price.otherRatios.prod := by
      positivity
    exact iff_of_true (by linarith) (.inl (not_lt.mp haudio))

end TextCall.NonnegPrices

/-- For every usage whose charge fits and prices that are not negative, the charge is right exactly
if there are no tokens, or it is by a price per request or a ratio that is not zero, or the count of
audio tokens takes less away than the surcharges and half a unit. -/
theorem text_quota_charged_iff
    (hfits : Int64.InRange (Int64.roundHalfAway (call.guardedDecimal groupRatio)))
    (hprices : call.NonnegPrices groupRatio) :
    call.Charged groupRatio ↔ call.totalTokens = 0 ∨ call.price.usePrice = true ∨
      call.ratio groupRatio ≠ 0 ∨ call.audioInputPrice ≤ 0 ∨
      0 ≤ call.chargedUsage.promptTokensDetails.audioTokens ∨ call.audioRefund groupRatio <
        calculateTextToolCallSurcharge call groupRatio + 1 / (2 * call.price.otherRatios.prod) := by
  by_cases htokens : call.totalTokens = 0
  · exact iff_of_true (charged_of_no_tokens htokens) (.inl htokens)
  rw [charged_iff hfits htokens, guardedDecimal_gt_iff, or_iff_right htokens]
  by_cases hprice : call.price.usePrice = true
  · exact iff_of_true (.inr (hprices.decimal_of_usePrice hprice)) (.inl hprice)
  rw [or_iff_right hprice]
  have hprice := Bool.eq_false_iff.mpr hprice
  by_cases hratio : call.ratio groupRatio = 0
  · rw [or_iff_right fun hguarded => hguarded.2 hratio, or_iff_right (not_not.mpr hratio)]
    exact hprices.decimal_of_ratio_zero hprice hratio
  · exact iff_of_true (.inl ⟨hprice, hratio⟩) (.inl hratio)

def freeAudioCall (audioTokens : Int) : TextCall Unit where
  modelName := "gemini-2.5-flash"
  audioInputPrice := 1
  usage := some
    { promptTokens := 100, completionTokens := 20, promptTokensDetails := { audioTokens } }
  request := ()

/-- Audio tokens are charged although the ratio is zero. -/
theorem audio_tokens_charged :
    calculateTextQuota (freeAudioCall 10) 1 = 5 ∧ 0 ≤ calculateTextQuota (freeAudioCall 10) 1 := by
  have hcharged : (freeAudioCall 10).Charged 1 :=
    (text_quota_charged_iff (by decide +kernel) (by constructor <;> decide +kernel)).mpr
      (.inr (.inr (.inr (.inr (.inl (by decide +kernel))))))
  exact ⟨by decide +kernel, hcharged.nonneg⟩

/-- A negative count of audio tokens is refunded. -/
theorem negative_audio_refunded : calculateTextQuota (freeAudioCall (-10)) 1 = -5 := by
  decide +kernel

end NewApi.Billing
