import NewApi.Billing.OriginTask
import NewApi.Billing.Settle

/-!
# Submission of a task

`RelayTask` and `RelayTaskSubmit`: the first attempt that gets as far opens the billing session and
every later one uses it; a request that fails is refunded, one that succeeds is settled and its task
stored. `task_row_has_net_debit_iff` says when the row has the quota that was lost,
`completion_ratio_eq_stored_iff` when the completion of the task applies the stored group ratio.
-/

namespace NewApi.Billing

open Lib Subscriptions

/-! ## One attempt -/

/-- What one call of `RelayTaskSubmit` meets: the answers of the adaptor of the platform, of the
settings, of the stores and of the upstream. -/
structure SubmitInput where
  platform : Tasks.TaskPlatform
  /-- `GetTaskAdaptor` returned one. -/
  adaptorFound : Bool := true
  /-- `ValidateRequestAndSetAction`. -/
  validateError : Option TaskError := none
  /-- `ModelMappedHelper` returned an error. -/
  mappingFails : Bool := false
  price : PriceSettings
  /-- `EstimateBilling` for `relayInfo.Action`, `none` where `EstimateBillingWithError` fails. -/
  estimateBilling : String → Option (List (String × ℚ)) := fun _ => some []
  /-- The model is one of `constant.TaskPricePatches`. -/
  pricePatch : Bool := false
  env : BillingEnv
  openInput : OpenInput
  /-- `BuildRequestBody` returned an error. -/
  buildFails : Bool := false
  /-- `DoRequest` returned an error. -/
  requestFails : Bool := false
  responseStatus : Nat := 200
  /-- `DoResponse`: the upstream task id and the task data. -/
  response : Except TaskError (String × List UInt8)
  /-- `AdjustBillingOnSubmit`. -/
  adjustedRatios : List (String × ℚ) := []

/-- `TaskSubmitResult`, with the name of the model and whether it is one of the price patches. -/
structure TaskSubmitResult where
  upstreamTaskID : String
  taskData : List UInt8
  platform : Tasks.TaskPlatform
  quota : Int
  pricePatch : Bool
  originModelName : String

/-- The same product as that of a recalculation by tokens. -/
def otherRatiosProduct (ratios : List (String × ℚ)) : ℚ :=
  Tasks.otherMultiplier ratios

def applyOtherRatiosToQuota (quota : Int) (ratios : List (String × ℚ)) : Int :=
  Int64.ofRat (quota * otherRatiosProduct ratios)

def recalcQuotaFromRatios (price : PriceData) (ratios : List (String × ℚ)) : Int :=
  let oldMultiplier := otherRatiosProduct price.otherRatios
  let baseQuota : ℚ := if oldMultiplier > 0 then price.quota / oldMultiplier else price.quota
  Int64.ofRat (baseQuota * otherRatiosProduct ratios)

namespace SubmitInput

/-- Steps 1 and 2: the adaptor, the request and the name of the model. -/
def checkRequest (input : SubmitInput) : Option TaskError :=
  if ¬ input.adaptorFound then some (taskErrorWrapperLocal "invalid_api_platform" 400)
  else input.validateError.or
    (if input.mappingFails then some (taskErrorWrapperLocal "model_mapping_failed" 400) else none)

/-- Step 6. -/
def applyRatios (input : SubmitInput) (price : PriceData) : PriceData :=
  if input.pricePatch then price
  else { price with quota := applyOtherRatiosToQuota price.quota price.otherRatios }

/-- Steps 8 to 11: the request to the upstream. -/
def sendRequest (input : SubmitInput) : Except TaskError (String × List UInt8) :=
  if input.buildFails then .error (taskErrorWrapper "build_request_failed" 500)
  else if input.requestFails then .error (taskErrorWrapper "do_request_failed" 500)
  else if input.responseStatus ≠ 200 then
    .error (taskErrorWrapper "fail_to_fetch_task" input.responseStatus)
  else input.response

def adjustPrice (input : SubmitInput) (price : PriceData) : PriceData :=
  if input.adjustedRatios.isEmpty then price
  else
    { price with
      otherRatios := input.adjustedRatios
      quota := recalcQuotaFromRatios price input.adjustedRatios }

end SubmitInput

/-- `relayInfo.Billing`, `relayInfo.PriceData` and the stores during a request. `opening` are the
balances from before the session was opened, `asked` the quotas that `PreConsumeBilling` was called
with. -/
structure SubmitState where
  session : Option BillingSession := none
  price : PriceData
  store : Store
  opening : Opening
  asked : List Int := []

def SubmitState.start (store : Store) (price : PriceData) : SubmitState where
  price := price
  store := store
  opening :=
    { userQuota := store.userQuota, tokenQuota := store.tokenQuota, usedBefore := 0 }

/-- Step 7: the pre-consumption, unless an earlier attempt made it or the model is free. -/
def preConsumeOnce (info : RelayInfo) (input : SubmitInput) (s : SubmitState) :
    SubmitState × Option TaskError :=
  if s.session.isSome ∨ s.price.freeModel then (s, none)
  else
    let asked := s.asked ++ [s.price.quota]
    match newBillingSession input.env { info with forcePreConsume := true } input.openInput
      s.price.quota s.store with
    | (store, .error code) => ({ s with store, asked }, some (taskErrorFromAPIError code))
    | (store, .ok session) =>
      ({ s with
          session := some session
          store
          opening := opening input.env s.store session
          asked }, none)

/-- Steps 7 to 11, with the price that the estimate gives. -/
def submitPriced (info : RelayInfo) (input : SubmitInput) (s : SubmitState) :
    SubmitState × Except TaskError TaskSubmitResult :=
  match preConsumeOnce info input s with
  | (s, some taskErr) => (s, .error taskErr)
  | (s, none) =>
    match input.sendRequest with
    | .error taskErr => (s, .error taskErr)
    | .ok response =>
      let price := input.adjustPrice s.price
      ({ s with price },
        .ok
          { upstreamTaskID := response.1
            taskData := response.2
            platform := input.platform
            quota := price.quota
            pricePatch := input.pricePatch
            originModelName := input.price.modelName })

/-- `RelayTaskSubmit`: the price that the request has so far is replaced. -/
def relayTaskSubmit (info : RelayInfo) (action : String) (input : SubmitInput)
    (s : SubmitState) : SubmitState × Except TaskError TaskSubmitResult :=
  match input.checkRequest with
  | some taskErr => (s, .error taskErr)
  | none =>
    match modelPriceHelperPerCall input.price with
    | .error _ => (s, .error (taskErrorWrapper "model_price_error" 400))
    | .ok price =>
      match input.estimateBilling action with
      | none => ({ s with price }, .error (taskErrorWrapper "model_price_error" 400))
      | some estimatedRatios =>
        submitPriced info input
          { s with price := input.applyRatios (price.addOtherRatios estimatedRatios) }

/-! ## The loop over channels -/

structure Attempt where
  /-- `getChannel`, or the setup of a locked channel, returned an error. -/
  channelFails : Bool := false
  /-- `GetBodyStorage` returned an error; the flag says that the body is too large. -/
  bodyError : Option Bool := none
  /-- `ShouldSkipRetryAfterChannelAffinityFailure`. -/
  skipRetry : Bool := false
  submit : SubmitInput

/-- The fields of the request that the task row takes over, and the key that the database gives. -/
structure TaskRelayInfo where
  id : Int
  publicTaskID : String
  usingGroup : String
  channelId : Int
  tokenId : Int
  /-- `UpstreamKindFromPath`. -/
  upstreamKind : String := ""
  submitTime : Int

/-- What a run of `RelayTask` meets. -/
structure RelayTaskInput where
  origin : OriginRequest
  /-- `common.RetryTimes`. -/
  retryTimes : Nat
  attempts : Nat → Attempt
  /-- `specific_channel_id` is set. -/
  specificChannel : Bool := false
  /-- `operation_setting.IsAlwaysSkipRetryStatusCode`. -/
  alwaysSkipRetryStatusCode : Nat → Bool := fun _ => false
  settleFaults : Faults := {}
  insertFails : Bool := false
  /-- The time at which the refund runs. -/
  refundTime : Int := 0
  relay : TaskRelayInfo

/-- The channel of a pass: a locked one is set up again on a retry only. -/
def Attempt.channelError (lockedChannel : Option Int) (retry : Nat) (attempt : Attempt) :
    Option TaskError :=
  if ¬ attempt.channelFails then none
  else if lockedChannel.isSome then
    if retry > 0 then some (taskErrorWrapperLocal "setup_locked_channel_failed" 500) else none
  else some (taskErrorWrapperLocal "get_channel_failed" 500)

def Attempt.readError (attempt : Attempt) : Option TaskError :=
  attempt.bodyError.map fun tooLarge =>
    taskErrorWrapperLocal "read_request_body_failed" (if tooLarge then 413 else 400)

def shouldRetryTaskRelay (input : RelayTaskInput) (skipRetry : Bool) (taskErr : TaskError)
    (retryTimes : Nat) : Bool :=
  if skipRetry then false
  else if retryTimes = 0 then false
  else if input.specificChannel then false
  else if taskErr.statusCode = 429 then true
  else if taskErr.statusCode = 307 then true
  else if taskErr.statusCode / 100 = 5 then
    !input.alwaysSkipRetryStatusCode taskErr.statusCode
  else if taskErr.statusCode = 400 then false
  else if taskErr.statusCode = 408 then false
  else if taskErr.localError then false
  else if taskErr.statusCode / 100 = 2 then false
  else true

/-- The loop of `RelayTask` from pass `retry` on, with `remaining` passes left after it. -/
def submitLoop (info : RelayInfo) (input : RelayTaskInput) (resolved : OriginInfo) :
    Nat → Nat → SubmitState → SubmitState × Except TaskError TaskSubmitResult
  | remaining, retry, s =>
    let attempt := input.attempts retry
    match (attempt.channelError resolved.lockedChannel retry).or attempt.readError with
    | some taskErr => (s, .error taskErr)
    | none =>
      match relayTaskSubmit info resolved.action attempt.submit s, remaining with
      | (s, .ok result), _ => (s, .ok result)
      | (s, .error taskErr), 0 => (s, .error taskErr)
      | (s, .error taskErr), remaining + 1 =>
        if shouldRetryTaskRelay input attempt.skipRetry taskErr (remaining + 1) then
          submitLoop info input resolved remaining (retry + 1) s
        else (s, .error taskErr)

/-- `RelayTask` up to the end of its loop. -/
def submitTask (info : RelayInfo) (input : RelayTaskInput) (store : Store) :
    SubmitState × Except TaskError TaskSubmitResult :=
  match resolveOriginTask input.origin with
  | .error taskErr => (.start store { groupRatio := 0 }, .error taskErr)
  | .ok resolved =>
    submitLoop info input resolved input.retryTimes 0 (.start store resolved.price)

/-! ## The end of a request -/

/-- `relayInfo.BillingSource`. -/
def billingSourceText : Option BillingSession → String
  | none => ""
  | some session =>
    match session.funding with
    | .wallet _ => "wallet"
    | .subscription _ => "subscription"

/-- The row of a task: `InitTask`, and what `RelayTask` fills in. -/
def initTask (info : RelayInfo) (relay : TaskRelayInfo) (price : PriceData)
    (session : Option BillingSession) (result : TaskSubmitResult) : Tasks.Task where
  id := relay.id
  taskID := relay.publicTaskID
  platform := result.platform
  userId := info.userId
  group := relay.usingGroup
  channelId := relay.channelId
  quota := result.quota
  status := .notStart
  submitTime := relay.submitTime
  progress := "0%"
  originModelName := result.originModelName
  privateData :=
    { upstreamTaskID := result.upstreamTaskID
      upstreamKind := relay.upstreamKind
      billingSource := billingSourceText session
      subscriptionId := session.elim 0 (·.funding.subscriptionId)
      tokenId := relay.tokenId
      billingContext := some
        { groupRatio := price.groupRatio
          otherRatios := price.otherRatios
          originModelName := result.originModelName
          perCallBilling := result.pricePatch || price.usePrice } }
  data := result.taskData

/-- What `RelayTask` leaves behind once its refund has run. `asked` are the quotas that
`PreConsumeBilling` was called with, `settled` the one that `SettleBilling` was. -/
structure RelayTaskOutcome where
  taskErr : Option TaskError := none
  session : Option BillingSession
  opening : Opening
  store : Store
  asked : List Int
  settled : Option Int := none
  row : Option Tasks.Task := none

/-- The deferred `Refund` of a failed request and the goroutine that it starts. -/
def refundBilling (info : RelayInfo) (now : Int) (session : Option BillingSession)
    (store : Store) : Store :=
  match session.bind fun s => (s.refund info).2 with
  | none => store
  | some job => job.run now store

def abortTask (info : RelayInfo) (input : RelayTaskInput) (taskErr : TaskError)
    (s : SubmitState) : RelayTaskOutcome where
  taskErr := some taskErr
  session := s.session
  opening := s.opening
  store := refundBilling info input.refundTime s.session s.store
  asked := s.asked

/-- A successful request is settled and its task stored; the errors of both are only logged. -/
def completeTask (info : RelayInfo) (input : RelayTaskInput) (result : TaskSubmitResult)
    (s : SubmitState) : RelayTaskOutcome :=
  let settled := settleBilling info input.settleFaults result.quota s.store s.session
  { session := settled.1
    opening := s.opening
    store := settled.2.1
    asked := s.asked
    settled := some result.quota
    row :=
      if input.insertFails then none
      else some (initTask info input.relay s.price settled.1 result) }

def relayTask (info : RelayInfo) (input : RelayTaskInput) (store : Store) : RelayTaskOutcome :=
  match submitTask info input store with
  | (s, .error taskErr) => abortTask info input taskErr s
  | (s, .ok result) => completeTask info input result s

/-- What the user's funding source lost in a run: the wallet since its start, a subscription since
the reset that was due when the session was opened. -/
def RelayTaskOutcome.netDebit (start : Store) (out : RelayTaskOutcome) : Int :=
  fundingDebit { out.opening with userQuota := start.userQuota } (billingSource out.session)
    out.store

def RelayTaskOutcome.rowQuota (out : RelayTaskOutcome) : Int :=
  out.row.elim 0 Tasks.Task.quota

/-- What a later `RefundTaskQuota` of the stored task gives back. -/
def RelayTaskOutcome.refunded (env : Tasks.BillingEnv) (out : RelayTaskOutcome) : Int :=
  out.row.elim 0 fun task => -Tasks.fundingDebit (Tasks.refundTaskQuota env task)

/-! ## When a settlement is refused -/

/-- The charge takes a subscription over its total amount. -/
def exceedsTotal (store : Store) (delta : Int) : Funding → Bool
  | .wallet _ => false
  | .subscription sub =>
    (findSub store.subs.subs sub.subscriptionId).any fun row =>
      0 < row.amountTotal ∧ row.amountTotal < row.amountUsed + delta

/-- The settlement has to move an amount that the database, or the subscription, does not take. -/
def SubmitState.Refuses (s : SubmitState) (faults : Faults) (quota : Int) : Prop :=
  quota ≠ finalPreConsumedQuota s.session ∧
    (faults.funding = true ∨
      exceedsTotal s.store (quota - finalPreConsumedQuota s.session) (billingSource s.session) =
        true)
  deriving Decidable

section

variable {info : RelayInfo} {opened : Opening} {store : Store} {pre extra delta quota : Int}

theorem quotaUpdate_eq_none {fails : Bool} {updated : Store} (hquota : 0 ≤ quota) :
    quotaUpdate fails quota updated = none ↔ fails = true := by
  have hneg : ¬ quota < 0 := by omega
  cases fails <;> simp [quotaUpdate, hneg]

theorem postConsumeDelta_eq_none {id : Int} {row : UserSubscription} {fails : Bool} (hid : 0 < id)
    (hrow : findSub store.subs.subs id = some row) (hdelta : delta ≠ 0)
    (hused : 0 ≤ row.amountUsed + delta) (hrange : row.amountUsed + delta < 2 ^ 63) :
    postConsumeDelta fails id delta store = none ↔
      fails = true ∨ 0 < row.amountTotal ∧ row.amountTotal < row.amountUsed + delta := by
  cases fails with
  | true => simp [postConsumeDelta]
  | false =>
    have hwrap : Int64.wrap (row.amountUsed + delta) = row.amountUsed + delta :=
      Int64.wrap_of_inRange ⟨by omega, hrange⟩
    simp only [postConsumeDelta, postConsumeUserSubscriptionDelta, Int.not_le.mpr hid, hdelta, hrow,
      hwrap, Int.not_lt.mpr hused, if_false, Bool.false_eq_true, false_or]
    by_cases hover : row.amountTotal > 0 ∧ row.amountUsed + delta > row.amountTotal
    · rw [if_pos hover]
      simpa using hover
    · rw [if_neg hover]
      simpa using hover

/-- The charge of a source that holds what was pre-consumed fails with the database, or because a
subscription is too small. -/
theorem FundingBacked.settle_eq_none {fails : Bool} {funding : Funding}
    (h : FundingBacked opened pre extra store funding) (hpre : 0 ≤ pre) (hlt : pre < 2 ^ 63)
    (hquota : 0 ≤ quota) (hdelta : quota - pre ≠ 0)
    (hroom : ∀ sub, funding = .subscription sub → opened.usedBefore + quota < 2 ^ 63) :
    funding.settle fails (quota - pre) store = none ↔
      fails = true ∨ exceedsTotal store (quota - pre) funding = true := by
  cases funding with
  | wallet consumed =>
    simp only [Funding.settle, exceedsTotal, hdelta, if_false, Bool.false_eq_true, or_false]
    split
    · exact quotaUpdate_eq_none (by omega)
    · have hwrap : Int64.wrap (-(quota - pre)) = -(quota - pre) :=
        Int64.wrap_of_inRange ⟨by omega, by omega⟩
      rw [increaseUserQuota, hwrap]
      exact quotaUpdate_eq_none (by omega)
  | subscription sub =>
    obtain ⟨row, hrow, hused, -⟩ := SubscriptionBacked.row h
    have hbefore := SubscriptionBacked.before_nonneg h
    have hroom := hroom sub rfl
    simp only [Funding.settle, exceedsTotal, hdelta, if_false, hrow, Option.any_some,
      decide_eq_true_eq]
    exact postConsumeDelta_eq_none (SubscriptionBacked.id_pos h) hrow hdelta (by omega) (by omega)

/-- A settlement is refused if it has to move an amount that the source does not take. -/
theorem Owed.settleBilling_refused {s : SubmitState} {faults : Faults}
    (h : Owed info opened s.store s.session) (hlt : finalPreConsumedQuota s.session < 2 ^ 63)
    (hquota : 0 ≤ quota) (hsmall : quota < 2 ^ 63)
    (hroom : ∀ sub, billingSource s.session = .subscription sub →
      opened.usedBefore + quota < 2 ^ 63) :
    (Billing.settleBilling info faults quota s.store s.session).2.2 = some .funding ↔
      s.Refuses faults quota := by
  have hpre := h.nonneg
  have hfunding := fun hdelta =>
    @FundingBacked.settle_eq_none _ _ _ _ _ faults.funding _ h.funding hpre hlt hquota hdelta hroom
  have hwrap : Int64.wrap (quota - finalPreConsumedQuota s.session) =
      quota - finalPreConsumedQuota s.session :=
    Int64.wrap_of_inRange ⟨by omega, by omega⟩
  have hzero : quota - finalPreConsumedQuota s.session = 0 ↔
      quota = finalPreConsumedQuota s.session := by omega
  unfold SubmitState.Refuses
  by_cases hsame : quota - finalPreConsumedQuota s.session = 0
  · refine iff_of_false ?_ fun hrefuses => hrefuses.1 (hzero.mp hsame)
    cases hsession : s.session with
    | none =>
      rw [hsession] at hwrap hsame
      simp [Billing.settleBilling, hwrap.trans hsame]
    | some session =>
      rw [hsession] at hwrap hsame
      simp only [Billing.settleBilling, BillingSession.settle]
      rw [show Int64.wrap (quota - session.preConsumedQuota) = 0 from hwrap.trans hsame]
      split <;> simp
  rw [and_iff_right (fun heq => hsame (hzero.mpr heq)), ← hfunding hsame]
  cases hsession : s.session with
  | none =>
    rw [hsession] at hwrap hsame
    have hcharge : ∀ amount : Int, amount ≠ 0 →
        postConsumeFunding (billingSource none) faults.funding amount s.store =
          (billingSource none).settle faults.funding amount s.store := by
      intro amount hamount
      simp [postConsumeFunding, billingSource, Funding.settle, hamount]
    simp only [Billing.settleBilling, hwrap, hsame, if_false, postConsumeQuota, hcharge _ hsame]
    cases (billingSource none).settle faults.funding (quota - finalPreConsumedQuota none)
        s.store with
    | none => simp
    | some charged =>
      dsimp only
      split <;> simp
  | some session =>
    rw [hsession] at hwrap hsame
    obtain ⟨-, -, hopen, hunsettled, -⟩ := h.isOpen session hsession
    have hwrap : Int64.wrap (quota - session.preConsumedQuota) =
        quota - session.preConsumedQuota := hwrap
    have hsame : ¬ quota - session.preConsumedQuota = 0 := hsame
    simp only [Billing.settleBilling, BillingSession.settle, hopen, hunsettled, hwrap, hsame,
      Bool.false_eq_true, if_false, finalPreConsumedQuota, billingSource]
    cases session.funding.settle faults.funding (quota - session.preConsumedQuota) s.store with
    | none => simp
    | some charged =>
      dsimp only
      split <;> simp

end

/-! ## What an attempt keeps -/

/-- The quotas of an attempt are not negative, as no price is and the amounts fit into the integers
that they are converted to, and the used amounts have room for them. -/
def SubmitInput.QuotaFits (input : SubmitInput) (action : String) (start : Store) : Prop :=
  ∀ base estimated, modelPriceHelperPerCall input.price = .ok base →
    input.estimateBilling action = some estimated →
      let price := input.applyRatios (base.addOtherRatios estimated)
      (0 ≤ price.quota ∧ start.HasRoom price.quota) ∧
        0 ≤ (input.adjustPrice price).quota ∧ start.HasRoom (input.adjustPrice price).quota

/-- The account of a request between two attempts. -/
structure SubmitInv (info : RelayInfo) (start : Store) (s : SubmitState) : Prop where
  owed : Owed info s.opening s.store s.session
  user : s.opening.userQuota = start.userQuota
  fresh : s.session = none → s.store = start
  small : finalPreConsumedQuota s.session < 2 ^ 63
  room : ∀ quota, quota < 2 ^ 63 → start.HasRoom quota → s.opening.usedBefore + quota < 2 ^ 63

/-- What is known of the quota of an accepted task. -/
def TaskSubmitResult.Fits (result : TaskSubmitResult) (start : Store) : Prop :=
  0 ≤ result.quota ∧ result.quota < 2 ^ 63 ∧ start.HasRoom result.quota

section

variable {info : RelayInfo} {start : Store} {s s' : SubmitState} {input : SubmitInput}
  {price : PriceData} {action : String} {outcome : Except TaskError TaskSubmitResult}

theorem SubmitInv.init : SubmitInv info start (.start start price) where
  owed := .of_none rfl rfl
  user := rfl
  fresh := fun _ => rfl
  small := by
    show (0 : Int) < 2 ^ 63
    decide
  room := by
    intro quota hlt _
    show 0 + quota < 2 ^ 63
    omega

theorem SubmitInv.withPrice (h : SubmitInv info start s) (price : PriceData) :
    SubmitInv info start { s with price } :=
  ⟨h.owed, h.user, h.fresh, h.small, h.room⟩

theorem inRange_modelPriceHelperPerCall {settings : PriceSettings}
    (h : modelPriceHelperPerCall settings = .ok price) : Int64.InRange price.quota := by
  have hzero : Int64.InRange 0 := by decide
  unfold modelPriceHelperPerCall at h
  split at h
  · cases h
    split
    · exact hzero
    · exact Int64.inRange_ofRat
  split at h
  · cases h
  cases h
  split
  · exact hzero
  · exact Int64.inRange_ofRat

theorem PriceData.addOtherRatios_quota (price : PriceData) (ratios : List (String × ℚ)) :
    (price.addOtherRatios ratios).quota = price.quota := by
  induction ratios generalizing price with
  | nil => rfl
  | cons ratio ratios ih =>
    refine (ih (price.addOtherRatio ratio)).trans ?_
    unfold addOtherRatio
    split <;> rfl

theorem SubmitInput.inRange_applyRatios (h : Int64.InRange price.quota) :
    Int64.InRange (input.applyRatios price).quota := by
  unfold applyRatios
  split
  · exact h
  · exact Int64.inRange_ofRat

theorem SubmitInput.inRange_adjustPrice (h : Int64.InRange price.quota) :
    Int64.InRange (input.adjustPrice price).quota := by
  unfold adjustPrice
  split
  · exact h
  · exact Int64.inRange_ofRat

/-- An attempt stops before it has a price, or goes on with the price of the estimate. -/
theorem relayTaskSubmit_cases (h : relayTaskSubmit info action input s = (s', outcome)) :
    (∃ price taskErr, s' = { s with price } ∧ outcome = .error taskErr) ∨
      ∃ base estimated, modelPriceHelperPerCall input.price = .ok base ∧
        input.estimateBilling action = some estimated ∧
        submitPriced info input
          { s with price := input.applyRatios (base.addOtherRatios estimated) } =
            (s', outcome) := by
  unfold relayTaskSubmit at h
  split at h
  · cases h
    exact .inl ⟨s.price, _, rfl, rfl⟩
  split at h
  · cases h
    exact .inl ⟨s.price, _, rfl, rfl⟩
  rename_i base hbase
  split at h
  · cases h
    exact .inl ⟨base, _, rfl, rfl⟩
  rename_i estimated hestimated
  exact .inr ⟨base, estimated, hbase, hestimated, h⟩

/-- The price of an attempt stays what the estimate made it until the task is accepted. -/
theorem submitPriced_cases (h : submitPriced info input s = (s', outcome)) :
    (∃ taskErr, s' = (preConsumeOnce info input s).1 ∧ outcome = .error taskErr) ∨
      ∃ result, s' = { (preConsumeOnce info input s).1 with
          price := input.adjustPrice (preConsumeOnce info input s).1.price } ∧
        outcome = .ok result ∧ result.quota = s'.price.quota := by
  unfold submitPriced at h
  split at h
  · rename_i mid taskErr hmid
    cases h
    exact .inl ⟨taskErr, by rw [hmid], rfl⟩
  rename_i mid hmid
  split at h
  · rename_i taskErr _
    cases h
    exact .inl ⟨taskErr, by rw [hmid], rfl⟩
  · cases h
    exact .inr ⟨_, by rw [hmid], rfl, rfl⟩

theorem preConsumeOnce_price : (preConsumeOnce info input s).1.price = s.price := by
  unfold preConsumeOnce
  split
  · rfl
  dsimp only
  split <;> rfl

theorem SubmitInv.preConsumeOnce (hstart : StoreOk info start) (hs : SubmitInv info start s)
    (hquota : 0 ≤ s.price.quota) (hrange : Int64.InRange s.price.quota)
    (hroom : start.HasRoom s.price.quota) :
    SubmitInv info start (preConsumeOnce info input s).1 := by
  unfold Billing.preConsumeOnce
  split
  · exact hs
  rename_i hfirst
  have hnone : s.session = none := by
    cases hsession : s.session with
    | none => rfl
    | some session => simp [hsession] at hfirst
  have hstore := hs.fresh hnone
  dsimp only
  split
  · rename_i store code hfails
    obtain rfl := newBillingSession_error hfails
    exact ⟨hs.owed, hs.user, hs.fresh, hs.small, hs.room⟩
  rename_i store session hopen
  rw [hstore] at hopen
  obtain ⟨hsettled, hfunding, hrefunded, hpre⟩ := newBillingSession_open hopen
  -- a forced pre-consumption changes neither the playground flag nor the request id
  have hstart' : StoreOk { info with forcePreConsume := true } start :=
    ⟨hstart.ids, hstart.pos, hstart.used, hstart.fresh⟩
  have howed := Owed.of_held (held_of_open hquota hstart' hroom hopen) hsettled hfunding hrefunded
  rw [hstore]
  refine ⟨⟨howed.nonneg, howed.token, howed.funding, howed.isOpen⟩, rfl, nofun, ?_, ?_⟩
  · change session.preConsumedQuota < 2 ^ 63
    have := hrange.2
    omega
  · intro quota hlt hquotaRoom
    exact hquotaRoom.usedBefore_lt hlt input.env session

theorem SubmitInv.relayTaskSubmit (hstart : StoreOk info start)
    (hfits : input.QuotaFits action start) (hs : SubmitInv info start s)
    (h : relayTaskSubmit info action input s = (s', outcome)) :
    SubmitInv info start s' ∧ ∀ result, outcome = .ok result → result.Fits start := by
  rcases relayTaskSubmit_cases h with
    ⟨price, taskErr, rfl, rfl⟩ | ⟨base, estimated, hbase, hestimated, hpriced⟩
  · exact ⟨hs.withPrice price, nofun⟩
  obtain ⟨⟨hquota, hroom⟩, hadjusted, hadjustedRoom⟩ := hfits base estimated hbase hestimated
  have hrange : Int64.InRange (input.applyRatios (base.addOtherRatios estimated)).quota := by
    apply SubmitInput.inRange_applyRatios
    rw [PriceData.addOtherRatios_quota]
    exact inRange_modelPriceHelperPerCall hbase
  have hpre := @SubmitInv.preConsumeOnce _ _ _ input hstart
    (hs.withPrice (input.applyRatios (base.addOtherRatios estimated))) hquota hrange hroom
  rcases submitPriced_cases hpriced with ⟨taskErr, rfl, rfl⟩ | ⟨result, rfl, rfl, hresult⟩
  · exact ⟨hpre, nofun⟩
  refine ⟨hpre.withPrice _, fun accepted haccepted => ?_⟩
  obtain rfl := Except.ok.inj haccepted
  simp only [preConsumeOnce_price] at hresult
  rw [TaskSubmitResult.Fits, hresult]
  exact ⟨hadjusted, (SubmitInput.inRange_adjustPrice hrange).2, hadjustedRoom⟩

end

/-! ## What a run leaves -/

section

variable {info : RelayInfo} {start store : Store} {s s' : SubmitState} {input : RelayTaskInput}
  {resolved : OriginInfo} {outcome : Except TaskError TaskSubmitResult}
  {result : TaskSubmitResult}

/-- The loop stops without an attempt, with one, or goes on after one that failed. -/
theorem submitLoop_cases {remaining retry : Nat}
    (h : submitLoop info input resolved remaining retry s = (s', outcome)) :
    (s' = s ∧ ∃ taskErr, outcome = .error taskErr) ∨
      relayTaskSubmit info resolved.action (input.attempts retry).submit s = (s', outcome) ∨
      ∃ mid taskErr left, remaining = left + 1 ∧
        relayTaskSubmit info resolved.action (input.attempts retry).submit s =
          (mid, .error taskErr) ∧
        submitLoop info input resolved left (retry + 1) mid = (s', outcome) := by
  unfold submitLoop at h
  dsimp only at h
  split at h
  · cases h
    exact .inl ⟨rfl, _, rfl⟩
  split at h
  · rename_i hsubmit
    exact .inr (.inl (hsubmit.trans h))
  · rename_i hsubmit
    exact .inr (.inl (hsubmit.trans h))
  rename_i mid taskErr left hsubmit
  split at h
  · exact .inr (.inr ⟨mid, taskErr, left, rfl, hsubmit, h⟩)
  · exact .inr (.inl (hsubmit.trans h))

/-- What every attempt keeps holds after the loop, and what every accepted attempt gives holds of
the result. -/
theorem submitLoop_rule {P : SubmitState → Prop} {Q : TaskSubmitResult → Prop}
    (hstep : ∀ retry s s' outcome, P s →
      relayTaskSubmit info resolved.action (input.attempts retry).submit s = (s', outcome) →
        P s' ∧ ∀ result, outcome = .ok result → Q result)
    (remaining retry : Nat) (hs : P s)
    (h : submitLoop info input resolved remaining retry s = (s', outcome)) :
    P s' ∧ ∀ result, outcome = .ok result → Q result := by
  induction remaining generalizing retry s with
  | zero =>
    rcases submitLoop_cases h with ⟨rfl, taskErr, rfl⟩ | hlast | ⟨_, _, _, hleft, _⟩
    · exact ⟨hs, nofun⟩
    · exact hstep retry _ _ _ hs hlast
    · cases hleft
  | succ remaining ih =>
    rcases submitLoop_cases h with ⟨rfl, taskErr, rfl⟩ | hlast | ⟨mid, _, _, hleft, hfirst, hrest⟩
    · exact ⟨hs, nofun⟩
    · exact hstep retry _ _ _ hs hlast
    · cases hleft
      exact ih (retry + 1) (hstep retry _ _ _ hs hfirst).1 hrest

/-- The same for the requests that name a task which is not there. -/
theorem submitTask_rule {P : SubmitState → Prop} {Q : TaskSubmitResult → Prop}
    (hinit : ∀ price, P (.start start price))
    (hstep : ∀ resolved retry s s' outcome, resolveOriginTask input.origin = .ok resolved → P s →
      relayTaskSubmit info resolved.action (input.attempts retry).submit s = (s', outcome) →
        P s' ∧ ∀ result, outcome = .ok result → Q result)
    (h : submitTask info input start = (s', outcome)) :
    P s' ∧ ∀ result, outcome = .ok result → Q result := by
  unfold submitTask at h
  split at h
  · cases h
    exact ⟨hinit _, nofun⟩
  · rename_i resolved hresolved
    exact submitLoop_rule (fun retry s s' outcome => hstep resolved retry s s' outcome hresolved)
      _ _ (hinit _) h

theorem Owed.refundBilling {opened : Opening} {session : Option BillingSession}
    (h : Owed info opened store session) (now : Int) :
    fundingDebit opened (billingSource session) (refundBilling info now session store) = 0 := by
  cases session with
  | none => exact h.funding.debit
  | some session =>
    obtain ⟨-, -, hsettled, hfunding, hrefunded⟩ := h.isOpen session rfl
    by_cases hneeds : session.needsRefund
    · have hjob : Billing.refundBilling info now (some session) store = RefundJob.run now
          { tokenConsumed := session.tokenConsumed, extraReserved := session.extraReserved
            isPlayground := info.isPlayground, funding := session.funding } store := by
        simp [Billing.refundBilling, BillingSession.refund, hsettled, hrefunded, hneeds]
      rw [hjob]
      exact (h.held.refund now rfl).1
    have hkept : Billing.refundBilling info now (some session) store = store := by
      simp [Billing.refundBilling, BillingSession.refund, hneeds]
    -- nothing is refunded because nothing was consumed
    have hnone : session.tokenConsumed ≤ 0 := by
      simp only [BillingSession.needsRefund, hsettled, hrefunded, hfunding] at hneeds
      by_contra hpos
      simp [Int.not_le.mp hpos] at hneeds
    have hpre : 0 ≤ session.preConsumedQuota := h.nonneg
    have hconsumed := h.held.tokenConsumed
    rw [hkept]
    refine h.funding.debit.trans ?_
    show session.preConsumedQuota = 0
    omega

section

variable (hs : SubmitInv info start s)
include hs

theorem SubmitInv.opening_eq : { s.opening with userQuota := start.userQuota } = s.opening := by
  rw [← hs.user]

theorem SubmitInv.netDebit_abortTask (taskErr : TaskError) :
    (abortTask info input taskErr s).netDebit start = 0 := by
  unfold RelayTaskOutcome.netDebit
  rw [show (abortTask info input taskErr s).opening = s.opening from rfl, hs.opening_eq]
  exact hs.owed.refundBilling input.refundTime

theorem SubmitInv.netDebit_completeTask (hresult : result.Fits start) :
    (completeTask info input result s).netDebit start =
      if s.Refuses input.settleFaults result.quota then finalPreConsumedQuota s.session
      else result.quota := by
  obtain ⟨hquota, hsmall, hroom⟩ := hresult
  have hnonneg := hs.owed.nonneg
  have hpre := hs.small
  have hrange : Int64.InRange (result.quota - finalPreConsumedQuota s.session) := by
    constructor <;> omega
  have hlt := hs.room result.quota hsmall hroom
  have hrefused := @Owed.settleBilling_refused info _ _ _ input.settleFaults hs.owed hpre hquota
    hsmall fun _ _ => hlt
  rw [← if_congr hrefused (Eq.refl (finalPreConsumedQuota s.session)) (Eq.refl result.quota)]
  cases hsettle : settleBilling info input.settleFaults result.quota s.store s.session with
  | mk session' rest =>
    obtain ⟨store', err⟩ := rest
    have hdebit : (completeTask info input result s).netDebit start =
        fundingDebit s.opening (billingSource session') store' := by
      simp only [RelayTaskOutcome.netDebit, completeTask, hsettle, hs.opening_eq]
    rw [hdebit]
    rcases hs.owed.settleBilling hquota hrange (fun _ _ => hlt) hsettle with
      ⟨rfl, rfl, rfl⟩ | ⟨herr, hsource, hcharged, -⟩
    · exact hs.owed.funding.debit
    · rw [if_neg herr, hsource]
      exact hcharged

end

theorem RelayTaskOutcome.refunded_le_rowQuota (out : RelayTaskOutcome)
    (hquota : ∀ task, out.row = some task → 0 ≤ task.quota) (env : Tasks.BillingEnv) :
    out.refunded env ≤ out.rowQuota := by
  unfold refunded rowQuota
  cases hrow : out.row with
  | none => exact Int.le_refl 0
  | some task =>
    have := hquota task hrow
    simp only [Option.elim, Tasks.refundTaskQuota_debit]
    split <;> omega

theorem SubmitInv.right_completeTask (hs : SubmitInv info start s) (hresult : result.Fits start) :
    ((completeTask info input result s).netDebit start =
        (completeTask info input result s).rowQuota ∧
      ∀ env, (completeTask info input result s).refunded env ≤
        (completeTask info input result s).netDebit start) ↔
      if input.insertFails then
        if s.Refuses input.settleFaults result.quota then finalPreConsumedQuota s.session = 0
        else result.quota = 0
      else ¬ s.Refuses input.settleFaults result.quota := by
  have hdebit := @SubmitInv.netDebit_completeTask info start s input result hs hresult
  have hrefund := (completeTask info input result s).refunded_le_rowQuota fun task htask => by
    unfold completeTask at htask
    split at htask
    · cases htask
    · cases htask
      exact hresult.1
  rw [and_iff_left_of_imp fun h env => (hrefund env).trans_eq h.symm, hdebit]
  simp only [RelayTaskOutcome.rowQuota, completeTask]
  cases input.insertFails with
  | true =>
    by_cases hrefuses : s.Refuses input.settleFaults result.quota <;> simp [hrefuses]
  | false =>
    by_cases hrefuses : s.Refuses input.settleFaults result.quota
    · simp [hrefuses, initTask, hrefuses.1.symm]
    · simp [hrefuses, initTask]

/-- The task row of a request has the quota that the funding source lost, and a later refund of it
returns at most that, exactly if the settlement of a task that is stored is not refused, and a task
that cannot be stored costs nothing: it is settled for nothing, or its settlement is refused and
nothing was pre-consumed. -/
theorem task_row_has_net_debit_iff (hstart : StoreOk info start)
    (hfits : ∀ action retry, (input.attempts retry).submit.QuotaFits action start) :
    ((relayTask info input start).netDebit start = (relayTask info input start).rowQuota ∧
      ∀ env, (relayTask info input start).refunded env ≤
        (relayTask info input start).netDebit start) ↔
      ∀ s result, submitTask info input start = (s, .ok result) →
        if input.insertFails then
          if s.Refuses input.settleFaults result.quota then finalPreConsumedQuota s.session = 0
          else result.quota = 0
        else ¬ s.Refuses input.settleFaults result.quota := by
  unfold relayTask
  cases hsubmit : submitTask info input start with
  | mk s outcome =>
    have hstep : ∀ resolved retry s s' outcome, resolveOriginTask input.origin = .ok resolved →
        SubmitInv info start s →
        relayTaskSubmit info resolved.action (input.attempts retry).submit s = (s', outcome) →
          SubmitInv info start s' ∧ ∀ result, outcome = .ok result → result.Fits start :=
      fun resolved retry s s' outcome _ hs h =>
        hs.relayTaskSubmit hstart (hfits resolved.action retry) h
    obtain ⟨hs, hresult⟩ := submitTask_rule (fun _ => SubmitInv.init) hstep hsubmit
    cases outcome with
    | error taskErr =>
      have hdebit := @SubmitInv.netDebit_abortTask info start s input hs taskErr
      dsimp only
      refine iff_of_true ⟨hdebit, fun env => ?_⟩ fun s' result heq => ?_
      · rw [hdebit]
        exact Int.le_refl 0
      · cases (Prod.mk.inj heq).2
    | ok result =>
      dsimp only
      rw [hs.right_completeTask (hresult result rfl)]
      constructor
      · intro h s' result' heq
        obtain ⟨rfl, hok⟩ := Prod.mk.inj heq
        obtain rfl := Except.ok.inj hok
        exact h
      · exact fun h => h s result rfl

end

/-- A request without an earlier task. -/
def plainOrigin : OriginRequest where
  path := "/suno/submit/music"
  getByTaskId := fun _ => .ok none
  getChannelById := fun _ => none

/-- A task of 100 at the ratio of the group. -/
def exampleSubmit (usingGroupRatio : ℚ) : SubmitInput where
  platform := .suno
  price := { modelName := "suno_music", modelPrice := some (1 / 5000), usingGroupRatio }
  env := exampleEnv
  openInput := exampleInput
  response := .ok ("up-1", [])

/-- The first channel fails; the second one is in a group with the given ratio. -/
def exampleTask (retryRatio : ℚ) : RelayTaskInput where
  origin := plainOrigin
  retryTimes := 2
  attempts := fun retry => { submit :=
    { exampleSubmit (if retry = 0 then 1 else retryRatio) with
      requestFails := decide (retry = 0) } }
  relay :=
    { id := 1, publicTaskID := "task_1", usingGroup := "default", channelId := 3, tokenId := 5
      submitTime := 1000 }

theorem exampleTask_fits (action : String) (retry : Nat) :
    ((exampleTask (3 / 2)).attempts retry).submit.QuotaFits action exampleStore := by
  intro base estimated hbase hestimated
  obtain rfl := Option.some.inj (hestimated : some [] = some estimated)
  obtain rfl := Except.ok.inj hbase
  by_cases hretry : retry = 0
  · subst hretry
    decide +kernel
  · simp only [exampleTask, hretry, if_false, decide_false]
    decide +kernel

/-- The second channel accepts the task in a group where it costs 150, and so does the row. -/
theorem retried_task_has_net_debit :
    let out := relayTask (exampleRequest .walletOnly) (exampleTask (3 / 2)) exampleStore
    out.asked = [100] ∧ out.rowQuota = 150 ∧ out.netDebit exampleStore = 150 := by
  have hright := (task_row_has_net_debit_iff (exampleStore_ok .walletOnly) exampleTask_fits).mpr
    (by
      intro s result hsubmit
      have hrefuses : ((submitTask (exampleRequest .walletOnly) (exampleTask (3 / 2))
          exampleStore).2.toOption.any fun result => decide ((submitTask
            (exampleRequest .walletOnly) (exampleTask (3 / 2)) exampleStore).1.Refuses
              (exampleTask (3 / 2)).settleFaults result.quota)) = false := by decide +kernel
      rw [hsubmit] at hrefuses
      exact of_decide_eq_false hrefuses)
  have hrow : (relayTask (exampleRequest .walletOnly) (exampleTask (3 / 2))
      exampleStore).rowQuota = 150 := by decide +kernel
  exact ⟨by decide +kernel, hrow, hright.1.trans hrow⟩

/-- A subscription of 120 that has pre-consumed 100 refuses a settlement of 150, but the row is
stored with 150; and a task that cannot be stored has been paid for. -/
theorem refused_settlement_and_failed_insertion :
    let limited : Store := { exampleStore with
      subs := { subs := [{ id := 1, userId := 7, planId := 1, amountTotal := 120
                           endTime := 2000 }] } }
    let refused := relayTask (exampleRequest .subscriptionOnly) (exampleTask (3 / 2)) limited
    let lost := relayTask (exampleRequest .walletOnly)
      { exampleTask 1 with insertFails := true } exampleStore
    (refused.netDebit limited = 100 ∧ refused.rowQuota = 150 ∧
      refused.refunded { fundingFails := false, tokenKey := "sk", tokenFails := false } = 150) ∧
      lost.netDebit exampleStore = 100 ∧ lost.row = none := by
  decide +kernel

/-! ## The group ratio of a task -/

/-- An attempt whose price is read from the ratio tables. -/
def SubmitInput.pricedBy (input : SubmitInput) (settings : Tasks.RatioSettings)
    (userGroup usingGroup : String) : SubmitInput :=
  { input with
    price := { input.price with
      groupGroupRatio := settings.groupGroupRatio userGroup usingGroup
      usingGroupRatio := settings.groupRatio usingGroup } }

theorem modelPriceHelperPerCall_groupRatio {settings : PriceSettings} {price : PriceData}
    (h : modelPriceHelperPerCall settings = .ok price) :
    price.groupRatio = handleGroupRatio settings := by
  unfold modelPriceHelperPerCall at h
  split at h
  · cases h
    rfl
  split at h
  · cases h
  · cases h
    rfl

/-- An accepted attempt leaves the group ratio of its own price. -/
theorem groupRatio_relayTaskSubmit {info : RelayInfo} {action : String} {input : SubmitInput}
    {s s' : SubmitState} {result : TaskSubmitResult}
    (h : relayTaskSubmit info action input s = (s', .ok result)) :
    s'.price.groupRatio = handleGroupRatio input.price := by
  rcases relayTaskSubmit_cases h with ⟨_, _, -, hfails⟩ | ⟨base, estimated, hbase, -, hpriced⟩
  · cases hfails
  rcases submitPriced_cases hpriced with ⟨_, -, hfails⟩ | ⟨_, rfl, -, -⟩
  · cases hfails
  have hadjust : ∀ price, (input.adjustPrice price).groupRatio = price.groupRatio := by
    intro price
    unfold SubmitInput.adjustPrice
    split <;> rfl
  have happly : ∀ price, (input.applyRatios price).groupRatio = price.groupRatio := by
    intro price
    unfold SubmitInput.applyRatios
    split <;> rfl
  simp only [hadjust, preConsumeOnce_price, happly, PriceData.addOtherRatios_groupRatio]
  exact modelPriceHelperPerCall_groupRatio hbase

/-- The completion of a task multiplies its tokens by the group ratio of the task's group for
itself. That is the ratio stored at submission exactly if the tables give it, too, for the user's
group in the group used. -/
theorem completion_ratio_eq_stored_iff (settings : Tasks.RatioSettings) (userGroup : String)
    {info : RelayInfo} {relay : TaskRelayInfo} {action : String} {input : SubmitInput}
    {s s' : SubmitState} {result : TaskSubmitResult} (session : Option BillingSession)
    (h : relayTaskSubmit info action (input.pricedBy settings userGroup relay.usingGroup) s =
      (s', .ok result)) :
    let task := initTask info relay s'.price session result
    let group := if relay.usingGroup = "" then (settings.userGroup info.userId).getD ""
      else relay.usingGroup
    ∃ context, task.privateData.billingContext = some context ∧
      (group ≠ "" → ∀ env totalTokens modelRatio, 0 < totalTokens → 0 < modelRatio →
        settings.modelRatio (Tasks.taskModelName task) = some modelRatio →
          Tasks.recalculateTaskQuotaByTokens settings env task totalTokens =
            Tasks.recalculateTaskQuota env task (Int64.ofRat (totalTokens * modelRatio *
              Tasks.completionGroupRatio settings task *
                Tasks.otherMultiplier context.otherRatios))) ∧
      (Tasks.completionGroupRatio settings task = context.groupRatio ↔
        (settings.groupGroupRatio group group).getD (settings.groupRatio group) =
          (settings.groupGroupRatio userGroup relay.usingGroup).getD
            (settings.groupRatio relay.usingGroup)) := by
  intro task group
  refine ⟨_, rfl, ?_, ?_⟩
  · intro hgroup env totalTokens modelRatio htokens hpos hratio
    exact Tasks.recalculateTaskQuotaByTokens_eq env task htokens hratio hpos hgroup
  · show _ = s'.price.groupRatio ↔ _
    rw [groupRatio_relayTaskSubmit h]
    exact Iff.rfl

/-- Tables with a special ratio for users of `vip`, also in the group `default`. -/
def exampleRatios : Tasks.RatioSettings where
  modelRatio := fun _ => some (1 / 1000)
  groupRatio := fun _ => 1
  groupGroupRatio := fun userGroup usingGroup =>
    if userGroup = "vip" ∧ usingGroup ∈ ["vip", "default"] then some (1 / 2) else none
  userGroup := fun _ => none

/-- A task of a model that has a ratio and no price. -/
def exampleRatioSubmit (userGroup usingGroup : String) : SubmitInput :=
  SubmitInput.pricedBy
    { exampleSubmit 1 with price := { modelName := "video-1", modelRatio := 1 / 1000 } }
    exampleRatios userGroup usingGroup

def exampleRelay (usingGroup : String) : TaskRelayInfo :=
  { (exampleTask 1).relay with usingGroup }

/-- The task of a submission with its completion at the given number of tokens: the stored group
ratio, and the quota after the completion. -/
def ratioAndQuota (userGroup usingGroup : String) (totalTokens : Int) : Option (Option ℚ × Int) :=
  let submitted := relayTaskSubmit (exampleRequest .walletOnly) ""
    (exampleRatioSubmit userGroup usingGroup) (.start exampleStore { groupRatio := 0 })
  submitted.2.toOption.map fun result =>
    let task := initTask (exampleRequest .walletOnly) (exampleRelay usingGroup) submitted.1.price
      none result
    (task.privateData.billingContext.map Tasks.TaskBillingContext.groupRatio,
      (Tasks.recalculateTaskQuotaByTokens exampleRatios
        { fundingFails := false, tokenKey := "sk", tokenFails := false } task totalTokens).1.quota)

/-- A task of a user of `vip` in `vip` is completed with the ratio that was stored. -/
theorem vip_task_keeps_ratio :
    ∃ s result, relayTaskSubmit (exampleRequest .walletOnly) "" (exampleRatioSubmit "vip" "vip")
        (.start exampleStore { groupRatio := 0 }) = (s, .ok result) ∧
      ∀ env totalTokens, 0 < totalTokens →
        let task := initTask (exampleRequest .walletOnly) (exampleRelay "vip") s.price none result
        Tasks.recalculateTaskQuotaByTokens exampleRatios env task totalTokens =
          Tasks.recalculateTaskQuota env task (Int64.ofRat (totalTokens * (1 / 1000) *
            s.price.groupRatio * Tasks.otherMultiplier s.price.otherRatios)) := by
  have hok : (relayTaskSubmit (exampleRequest .walletOnly) "" (exampleRatioSubmit "vip" "vip")
      (.start exampleStore { groupRatio := 0 })).2.toOption.isSome = true := by decide +kernel
  cases hsubmit : relayTaskSubmit (exampleRequest .walletOnly) "" (exampleRatioSubmit "vip" "vip")
    (.start exampleStore { groupRatio := 0 }) with
  | mk s outcome =>
    cases outcome with
    | error taskErr =>
      rw [hsubmit] at hok
      cases hok
    | ok result =>
      obtain ⟨context, hcontext, hquota, hratio⟩ := @completion_ratio_eq_stored_iff exampleRatios
        "vip" _ (exampleRelay "vip") _ _ _ _ _ none hsubmit
      obtain rfl := Option.some.inj hcontext
      refine ⟨s, result, rfl, fun env totalTokens htokens => ?_⟩
      have hstored := hratio.mpr rfl
      dsimp only
      rw [hquota (by decide) env totalTokens (1 / 1000) htokens (by norm_num) rfl, hstored]

/-- A user of `vip` in the group `default` is charged half at submission; the completion looks up
the special ratio of `default` for itself, which is not set, and charges 40 instead of 20. -/
theorem vip_task_in_default_loses_ratio :
    ratioAndQuota "vip" "default" 40000 = some (some (1 / 2), 40) := by
  decide +kernel

end NewApi.Billing
