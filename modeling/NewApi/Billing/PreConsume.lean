import NewApi.Billing.Account
import NewApi.Billing.Price

/-!
# Pre-consumption of a priced request

From the output-token limit of a client over the price to the session. The quota is negative when
the limit, converted to `int`, makes the token count negative, and when the amount leaves the range
of `int`.
-/

namespace NewApi.Billing

open Lib

/-! ## The inputs -/

/-- The output limit that the client sent and pricing reads, zero if it sent none. -/
def AcceptedRequest.limit (accepted : AcceptedRequest) (needTexts : Bool) : Nat :=
  match accepted.request with
  | .openAI _ request =>
    max (request.maxTokens.getD 0).toNat (request.maxCompletionTokens.getD 0).toNat
  | .claude request => (request.maxTokens.getD 0).toNat
  | .responses request => (request.maxOutputTokens.getD 0).toNat
  | .gemini request => if needTexts then (request.maxOutputTokens.getD 0).toNat else 0

theorem AcceptedRequest.limit_lt (accepted : AcceptedRequest) (needTexts : Bool) :
    accepted.limit needTexts < 2 ^ 64 := by
  unfold limit
  split
  · exact max_lt (UInt64.toNat_lt _) (UInt64.toNat_lt _)
  · exact UInt64.toNat_lt _
  · exact UInt64.toNat_lt _
  · split
    · exact UInt64.toNat_lt _
    · decide

/-- The limit is converted to `int`, in every format. -/
theorem AcceptedRequest.tokenMeta_eq (accepted : AcceptedRequest) (needTexts : Bool) :
    accepted.tokenMeta needTexts = { maxTokens := Int64.wrap (accepted.limit needTexts) } := by
  unfold tokenMeta limit
  cases hrequest : accepted.request with
  | openAI mode request =>
    have hlimit : request.outputLimit = Int64.wrap (max (request.maxTokens.getD 0).toNat
        (request.maxCompletionTokens.getD 0).toNat : Nat) := by
      unfold GeneralOpenAIRequest.outputLimit limitToInt
      split
      · rename_i hlt
        rw [max_eq_right (UInt64.le_iff_toNat_le.mp (UInt64.le_of_lt hlt))]
      · rename_i hle
        rw [max_eq_left (UInt64.le_iff_toNat_le.mp (UInt64.not_lt.mp hle))]
    simp only [getTokenCountMeta, fastTokenCountMetaForPricing, hlimit, ite_self]
  | claude request => cases needTexts <;> rfl
  | responses request => cases needTexts <;> rfl
  | gemini request =>
    cases needTexts with
    | false =>
      have hzero : Int64.wrap 0 = 0 := by decide
      simp [fastTokenCountMetaForPricing, hzero]
    | true => rfl

/-- No ratio or price is negative, and the least number of tokens is an `int`. -/
structure PriceSettings.Valid (s : PriceSettings) : Prop where
  groupGroupRatio : ∀ ratio ∈ s.groupGroupRatio, 0 ≤ ratio
  usingGroupRatio : 0 ≤ s.usingGroupRatio
  modelPrice : ∀ price ∈ s.modelPrice, 0 ≤ price
  modelRatio : 0 ≤ s.modelRatio
  quotaPerUnit : 0 ≤ s.quotaPerUnit
  preConsumedQuota : Int64.InRange s.preConsumedQuota

theorem PriceSettings.Valid.groupRatio {s : PriceSettings} (h : s.Valid) :
    0 ≤ handleGroupRatio s := by
  unfold handleGroupRatio
  cases hratio : s.groupGroupRatio with
  | none => exact h.usingGroupRatio
  | some ratio => exact h.groupGroupRatio ratio hratio

/-- The tokens and the limit of the client give an amount in the range of `int` at the rates of the
model. A sum from `2 ^ 63` on is a negative `int`, which is harmless only for tiny rates; from
`2 ^ 64` on it is a small number again. -/
def QuotaFits (s : PriceSettings) (promptTokens : Int) (limit : Nat) : Prop :=
  match s.billingMode with
  | .tieredExpr expr =>
    (s.enableFreeModelPreConsume = false ∧ handleGroupRatio s = 0) ∨
      ∀ rawCost, expr.bind (fun run => run promptTokens (Int64.wrap limit)) = some rawCost →
        -1 / 2 < rawCost / 1000000 * s.quotaPerUnit * handleGroupRatio s ∧
          rawCost / 1000000 * s.quotaPerUnit * handleGroupRatio s < 2 ^ 63 - 1 / 2
  | .ratio =>
    match s.modelPrice with
    | some price => price * s.quotaPerUnit * handleGroupRatio s < 2 ^ 63
    | none =>
      let tokens := max promptTokens s.preConsumedQuota + limit
      let rate := s.modelRatio * handleGroupRatio s
      if tokens < 2 ^ 63 then tokens * rate < 2 ^ 63
      else if tokens < 2 ^ 64 then (2 ^ 64 - tokens) * rate < 1
      else (tokens - 2 ^ 64) * rate < 2 ^ 63

/-- The quota is not negative; a session opened for it has taken from its source what it says; and
a settlement with a non-negative amount leaves exactly that amount, as long as no used amount of a
subscription overflows. -/
def PreConsumeExact (quota : Int) : Prop :=
  0 ≤ quota ∧
    ∀ (env : BillingEnv) (info : RelayInfo) (input : OpenInput) (start store : Store)
      (session : BillingSession), StoreOk info start → start.HasRoom quota →
      newBillingSession env info input quota start = (store, .ok session) →
      fundingDebit (opening env start session) session.funding store =
          session.preConsumedQuota ∧
        ∀ (faults : Faults) (actualQuota : Int) (session' : BillingSession) (store' : Store)
          (err : Option SettleError), 0 ≤ actualQuota → Int64.InRange actualQuota →
          start.HasRoom actualQuota →
            session.settle info faults actualQuota store = (session', store', err) →
          err ≠ some .funding →
          fundingDebit (opening env start session) session'.funding store' = actualQuota

section

variable {s : PriceSettings} {price : PriceData}

theorem inRange_quota (h : modelPriceHelper s pt tm = .ok price) :
    Int64.InRange price.quotaToPreConsume := by
  have hz : Int64.InRange 0 := by decide
  unfold modelPriceHelper at h
  split at h
  · unfold modelPriceHelperTiered at h
    split at h
    · cases h
    split at h
    · cases h
    cases h
    split
    · exact hz
    · exact Int64.inRange_ofRat
  · split at h
    · cases h
      split
      · exact hz
      · exact Int64.inRange_ofRat
    split at h
    · cases h
    cases h
    split
    · exact hz
    · exact Int64.inRange_ofRat

theorem tieredQuota_nonneg_iff {run : ℚ → ℚ → Option ℚ} {promptTokens : Int}
    {tokenMeta : TokenCountMeta} {rawCost : ℚ}
    (hcost : run promptTokens tokenMeta.maxTokens = some rawCost)
    (h : modelPriceHelperTiered s (some run) promptTokens tokenMeta = .ok price) :
    0 ≤ price.quotaToPreConsume ↔
      (s.enableFreeModelPreConsume = false ∧ handleGroupRatio s = 0) ∨
        -1 / 2 < rawCost / 1000000 * s.quotaPerUnit * handleGroupRatio s ∧
          rawCost / 1000000 * s.quotaPerUnit * handleGroupRatio s < 2 ^ 63 - 1 / 2 := by
  simp only [modelPriceHelperTiered, hcost] at h
  cases h
  rw [← quotaRound_nonneg_iff]
  by_cases hfree : s.enableFreeModelPreConsume = false ∧ handleGroupRatio s = 0
  · simp [hfree]
  · have hfree' : ¬ (¬ s.enableFreeModelPreConsume = true ∧ handleGroupRatio s = 0) := by
      simpa using hfree
    simp only [hfree, hfree', decide_false, Bool.false_eq_true, if_false, false_or]

/-- The sum of the tokens and the limit as an `int`. -/
theorem preConsumedTokens_eq {promptTokens : Int} {limit : Nat} (hs : s.Valid)
    (hprompt : 0 ≤ promptTokens) (hrange : Int64.InRange promptTokens) (hlimit : limit < 2 ^ 64) :
    preConsumedTokens s promptTokens (Int64.wrap limit) =
      let tokens := max promptTokens s.preConsumedQuota + limit
      if tokens < 2 ^ 63 then tokens else tokens - 2 ^ 64 := by
  have hquota := hs.preConsumedQuota.2
  have hprompt' := hrange.2
  have hwrap : ∀ n : Int, 0 ≤ n → n < 2 ^ 63 + 2 ^ 64 →
      Int64.wrap n = if n < 2 ^ 63 then n else n - 2 ^ 64 := by
    intro n hnonneg hlt
    unfold Int64.wrap
    rw [Int.bmod_eq_iff (by decide)]
    split <;> omega
  have hsum : Int64.wrap (max promptTokens s.preConsumedQuota + Int64.wrap limit) =
      Int64.wrap (max promptTokens s.preConsumedQuota + limit) := Int.add_bmod_bmod
  unfold preConsumedTokens
  dsimp only
  split
  · rw [hsum, hwrap _ (by omega) (by omega)]
  · rename_i hzero
    -- without a limit nothing is added
    have hzero : Int64.wrap limit = 0 := not_not.mp hzero
    rw [hwrap limit (by omega) (by omega)] at hzero
    have : (limit : Int) = 0 := by
      split at hzero <;> omega
    rw [this, if_pos (by omega), Int.add_zero]

/-- A model that pre-consumes nothing because it is free has no price or no rate. -/
theorem amount_of_free {tokenMeta : TokenCountMeta} (himage : tokenMeta.imagePriceRatio = 0)
    (hfree : isFreeModel s tokenMeta = true) :
    (∀ modelPrice, s.modelPrice = some modelPrice →
        modelPrice * s.quotaPerUnit * handleGroupRatio s = 0) ∧
      (s.modelPrice = none → s.modelRatio * handleGroupRatio s = 0) := by
  simp only [isFreeModel, scaledPrice, himage, Bool.and_eq_true, Bool.or_eq_true,
    decide_eq_true_eq] at hfree
  refine ⟨fun modelPrice hprice => ?_, fun hprice => ?_⟩
  · rcases hfree.2 with hzero | hzero
    · rw [hzero, mul_zero]
    · simp only [hprice, decide_eq_true_eq] at hzero
      simp_all
  · rcases hfree.2 with hzero | hzero
    · rw [hzero, mul_zero]
    · simp only [hprice, decide_eq_true_eq] at hzero
      rw [hzero, zero_mul]

/-- The quota is not negative just if the limit and the rates fit. -/
theorem quota_nonneg_iff {promptTokens : Int} {limit : Nat} (hs : s.Valid)
    (hprompt : 0 ≤ promptTokens) (hrange : Int64.InRange promptTokens) (hlimit : limit < 2 ^ 64)
    (h : modelPriceHelper s promptTokens { maxTokens := Int64.wrap limit } = .ok price) :
    0 ≤ price.quotaToPreConsume ↔ QuotaFits s promptTokens limit := by
  unfold modelPriceHelper at h
  unfold QuotaFits
  cases hmode : s.billingMode with
  | tieredExpr expr =>
    simp only [hmode] at h ⊢
    cases expr with
    | none => cases h
    | some run =>
      generalize Int64.wrap limit = maxTokens at h ⊢
      cases hcost : run promptTokens maxTokens with
      | none =>
        simp only [modelPriceHelperTiered, hcost] at h
        cases h
      | some rawCost =>
        rw [tieredQuota_nonneg_iff hcost h]
        simp only [Option.bind_some, hcost, Option.some.injEq, forall_eq']
  | ratio =>
    simp only [hmode] at h ⊢
    have hgroup := hs.groupRatio
    have hfree := @amount_of_free s { maxTokens := Int64.wrap limit } rfl
    cases hprice : s.modelPrice with
    | some modelPrice =>
      have hnonneg : 0 ≤ modelPrice * s.quotaPerUnit * handleGroupRatio s :=
        mul_nonneg (mul_nonneg (hs.modelPrice modelPrice hprice) hs.quotaPerUnit) hgroup
      simp only [hprice, scaledPrice] at h ⊢
      cases h
      cases hmodel : isFreeModel s { maxTokens := Int64.wrap limit } with
      | true => simp [(hfree hmodel).1 modelPrice hprice]
      | false =>
        simp only [Bool.false_eq_true, if_false, ne_eq, not_true_eq_false, Int64.ofRat_nonneg_iff]
        exact and_iff_right (by linarith)
    | none =>
      have hrate : 0 ≤ s.modelRatio * handleGroupRatio s := mul_nonneg hs.modelRatio hgroup
      simp only [hprice] at h ⊢
      split at h
      · cases h
      cases h
      cases hmodel : isFreeModel s { maxTokens := Int64.wrap limit } with
      | true => simp [(hfree hmodel).2 hprice]
      | false =>
        have htokens : (0 : Int) ≤ max promptTokens s.preConsumedQuota + limit := by omega
        simp only [Bool.false_eq_true, if_false, Int64.ofRat_nonneg_iff,
          preConsumedTokens_eq hs hprompt hrange hlimit]
        generalize max promptTokens s.preConsumedQuota + (limit : Int) = tokens at htokens
        generalize s.modelRatio * handleGroupRatio s = rate at hrate
        split
        · have : 0 ≤ (tokens : ℚ) * rate := mul_nonneg (by exact_mod_cast htokens) hrate
          exact and_iff_right (by linarith)
        split
        · rename_i hlt
          have hle : ((tokens : ℚ) - 2 ^ 64) * rate ≤ 0 :=
            mul_nonpos_of_nonpos_of_nonneg (by
              have : (tokens : ℚ) < 2 ^ 64 := by exact_mod_cast hlt
              linarith) hrate
          push_cast
          constructor
          · intro hbounds
            linarith
          · intro hbound
            constructor <;> linarith
        · rename_i hle
          have : 0 ≤ ((tokens : ℚ) - 2 ^ 64) * rate := mul_nonneg (by
            have : (2 ^ 64 : ℚ) ≤ tokens := by exact_mod_cast not_lt.mp hle
            linarith) hrate
          push_cast
          exact and_iff_right (by linarith)

end

theorem preConsumeExact_of_nonneg (hq : 0 ≤ q) (hra : Int64.InRange q) : PreConsumeExact q := by
  refine ⟨hq, ?_⟩
  intro env inf inp s0 store ses hs0 hro ho
  have hhe := held_of_open hq hs0 hro ho
  obtain ⟨hs, hfu, -, hta⟩ := newBillingSession_open ho
  refine ⟨hhe.funding.debit, ?_⟩
  intro fts aq ses' store' err hac har hra hse her
  have hd : Int64.InRange (aq - ses.preConsumedQuota) := by
    unfold Int64.InRange at *
    omega
  rcases hhe.settle hs hfu hd (fun _ _ => hra.usedBefore_lt har.2 env ses) hse with
    ⟨hfa, -, -⟩ | ⟨-, -, -, hsr, hde, -⟩
  · exact absurd hfa her
  · rw [hsr, hde, hhe.funding.settledDebit_of_nonneg hac]

/-- For every accepted request and valid prices: the pre-consumption is exact if and only if the
limit of the client and the rates give an amount in the range of `int`. -/
theorem preConsume_exact_iff (s : PriceSettings) (accepted : AcceptedRequest) (needTexts : Bool)
    (promptTokens : Int) {price : PriceData} (hvalid : s.Valid) (hprompt : 0 ≤ promptTokens)
    (hrange : Int64.InRange promptTokens)
    (hprice : modelPriceHelper s promptTokens (accepted.tokenMeta needTexts) = .ok price) :
    PreConsumeExact price.quotaToPreConsume ↔
      QuotaFits s promptTokens (accepted.limit needTexts) := by
  have hquota : Int64.InRange price.quotaToPreConsume := inRange_quota hprice
  rw [accepted.tokenMeta_eq] at hprice
  rw [← quota_nonneg_iff hvalid hprompt hrange (accepted.limit_lt needTexts) hprice]
  exact ⟨And.left, fun hnonneg => preConsumeExact_of_nonneg hnonneg hquota⟩

def unitModel : PriceSettings where
  modelName := "claude-sonnet-4"
  modelRatio := 1

def claudeRequest : AcceptedRequest where
  pathModel := ""
  received := .claude { model := "claude-sonnet-4", messages := 1, maxTokens := some 1000 }
  request := .claude { model := "claude-sonnet-4", messages := 1, maxTokens := some 1000 }
  accepted := rfl

/-- The pre-consumption of that request is exact. -/
theorem claudeRequest_exact : PreConsumeExact 1500 := by
  have hpr : modelPriceHelper unitModel 0 (claudeRequest.tokenMeta false) =
      .ok { groupRatio := 1, modelPrice := -1, modelRatio := 1, quotaToPreConsume := 1500 } := by
    decide +kernel
  have hvalid : unitModel.Valid := by
    refine ⟨nofun, ?_, nofun, ?_, ?_, ?_⟩ <;> decide +kernel
  have hfits : (1500 : ℚ) * (1 * handleGroupRatio unitModel) < 2 ^ 63 := by decide +kernel
  exact (preConsume_exact_iff unitModel claudeRequest false 0 hvalid (by decide) (by decide)
    hpr).mpr hfits

def richStore : Store where
  userQuota := 5000000
  tokenQuota := 5000000
  subs := { subs := [] }

/-- A Claude request with the limit `2 ^ 64 - 1000500` is accepted, and its quota is minus one
million. The session records that amount with nothing taken, so that a settlement with 10 takes
1000010 from the wallet. -/
theorem huge_limit_overcharged :
    let request : TextRequest := .claude
      { model := "claude-sonnet-4", messages := 1, maxTokens := some 18446744073708551116 }
    let env : BillingEnv :=
      { usage := ⟨Subscriptions.plainCalendar, fun _ => none, 0⟩, now := 0, trustQuota := 0 }
    let info : RelayInfo := { userId := 7, requestId := "r1", billingPreference := .walletOnly }
    let opened := newBillingSession env info
      { userQuota := some 5000000, hasActiveSubscription := some false } (-1000000) richStore
    getAndValidateRequest "" request = .ok request ∧
    (modelPriceHelper unitModel 0 (fastTokenCountMetaForPricing request)).map
      PriceData.quotaToPreConsume = .ok (-1000000) ∧
    opened.2.map BillingSession.preConsumedQuota = .ok (-1000000) ∧
    richStore.userQuota - opened.1.userQuota = 0 ∧
    opened.2.map (fun session =>
      richStore.userQuota - (session.settle info {} 10 opened.1).2.1.userQuota) = .ok 1000010 := by
  decide +kernel

end NewApi.Billing
