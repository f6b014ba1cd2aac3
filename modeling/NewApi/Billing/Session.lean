import NewApi.Subscriptions.Usage

/-!
# Billing sessions

`service/billing_session.go` and `service/funding_source.go`: the charge of one request, on the
wallet, the token and the subscription tables of its user. Store calls may fail; rollbacks and
refunds, whose failures are only logged, do not. Differences of `int` values wrap around.
-/

namespace NewApi.Billing

open Lib Subscriptions

/-! ## The stores -/

structure Store where
  userQuota : Int
  tokenQuota : Int
  subs : Tables
  deriving DecidableEq

/-- The quota functions of `model/user.go` and `model/token.go` reject a negative amount; otherwise
the statement updates the store unless the database fails. -/
def quotaUpdate (fails : Bool) (quota : Int) (updated : Store) : Option Store :=
  if quota < 0 ∨ fails then none else some updated

def decreaseUserQuota (fails : Bool) (quota : Int) (store : Store) : Option Store :=
  quotaUpdate fails quota { store with userQuota := store.userQuota - quota }

def increaseUserQuota (fails : Bool) (quota : Int) (store : Store) : Option Store :=
  quotaUpdate fails quota { store with userQuota := store.userQuota + quota }

def decreaseTokenQuota (fails : Bool) (quota : Int) (store : Store) : Option Store :=
  quotaUpdate fails quota { store with tokenQuota := store.tokenQuota - quota }

def increaseTokenQuota (fails : Bool) (quota : Int) (store : Store) : Option Store :=
  quotaUpdate fails quota { store with tokenQuota := store.tokenQuota + quota }

/-- `model.PostConsumeUserSubscriptionDelta` on the store. -/
def postConsumeDelta (fails : Bool) (subscriptionId delta : Int) (store : Store) :
    Option Store :=
  if fails then none
  else
    match postConsumeUserSubscriptionDelta subscriptionId delta store.subs with
    | .error _ => none
    | .ok subs => some { store with subs }

/-! ## The session -/

/-- `common.NormalizeBillingPreference`. -/
inductive BillingPreference where
  | subscriptionFirst
  | walletFirst
  | subscriptionOnly
  | walletOnly
  deriving DecidableEq, Repr

/-- The fields of `RelayInfo`, and the token quota of the request context, that billing reads. -/
structure RelayInfo where
  userId : Int
  requestId : String
  isPlayground : Bool := false
  tokenUnlimited : Bool := false
  forcePreConsume : Bool := false
  billingPreference : BillingPreference := .subscriptionFirst
  contextTokenQuota : Int := 0
  deriving DecidableEq

structure SubscriptionFunding where
  requestId : String
  userId : Int
  amount : Int
  subscriptionId : Int := 0
  preConsumed : Int := 0
  amountTotal : Int := 0
  amountUsedAfter : Int := 0
  deriving DecidableEq

/-- `FundingSource`: a wallet with its `consumed` field, or a subscription. -/
inductive Funding where
  | wallet (consumed : Int)
  | subscription (sub : SubscriptionFunding)
  deriving DecidableEq

/-- `relayInfo.SubscriptionId`. -/
def Funding.subscriptionId : Funding → Int
  | .wallet _ => 0
  | .subscription sub => sub.subscriptionId

structure BillingSession where
  funding : Funding
  preConsumedQuota : Int := 0
  tokenConsumed : Int := 0
  extraReserved : Int := 0
  trusted : Bool := false
  fundingSettled : Bool := false
  settled : Bool := false
  refunded : Bool := false
  deriving DecidableEq

structure Faults where
  funding : Bool := false
  tokenRead : Bool := false
  token : Bool := false
  deriving DecidableEq

/-- The surroundings of a pre-consumption: what the subscription transactions read, the time, and
`common.GetTrustQuota`. -/
structure BillingEnv where
  usage : UsageEnv
  now : Int
  trustQuota : Int

/-- `PreConsumeTokenQuota`, `none` on an error. -/
def preConsumeTokenQuota (info : RelayInfo) (faults : Faults) (quota : Int) (store : Store) :
    Option Store :=
  if quota < 0 then none
  else if info.isPlayground then some store
  else if faults.tokenRead then none
  else if ¬ info.tokenUnlimited ∧ store.tokenQuota < quota then none
  else decreaseTokenQuota faults.token quota store

/-- A subscription ignores the amount and takes its own. -/
def Funding.preConsume (env : BillingEnv) (fails : Bool) (amount : Int) (store : Store) :
    Funding → Except UsageError (Funding × Store)
  | .wallet consumed =>
    if amount ≤ 0 then .ok (.wallet consumed, store)
    else
      match decreaseUserQuota fails amount store with
      | none => .error .database
      | some store => .ok (.wallet amount, store)
  | .subscription sub =>
    if fails then .error .database
    else
      match preConsumeUserSubscription env.usage sub.requestId sub.userId env.now sub.amount
        store.subs with
      | .error e => .error e
      | .ok (subs, result) =>
        .ok (.subscription { sub with
          subscriptionId := result.userSubscriptionId
          preConsumed := result.preConsumed
          amountTotal := result.amountTotal
          amountUsedAfter := result.amountUsedAfter }, { store with subs })

def Funding.settle (fails : Bool) (delta : Int) (store : Store) : Funding → Option Store
  | .wallet _ =>
    if delta = 0 then some store
    else if delta > 0 then decreaseUserQuota fails delta store
    else increaseUserQuota fails (Int64.wrap (-delta)) store
  | .subscription sub =>
    if delta = 0 then some store else postConsumeDelta fails sub.subscriptionId delta store

/-- A failure is only logged. -/
def Funding.refund (now : Int) (store : Store) : Funding → Store
  | .wallet consumed =>
    if consumed ≤ 0 then store else (increaseUserQuota false consumed store).getD store
  | .subscription sub =>
    if sub.preConsumed ≤ 0 then store
    else { store with
      subs := (refundSubscriptionPreConsume sub.requestId now false store.subs).1 }

def shouldTrust (env : BillingEnv) (info : RelayInfo) (userQuota : Int) (funding : Funding) :
    Bool :=
  !info.forcePreConsume && env.trustQuota > 0 &&
  (info.tokenUnlimited || info.contextTokenQuota > env.trustQuota) &&
  match funding with
  | .wallet _ => userQuota > env.trustQuota
  | .subscription _ => false

inductive ErrorCode where
  | queryDataError
  | updateDataError
  | insufficientUserQuota
  | preConsumeTokenQuotaFailed
  deriving DecidableEq, Repr

def fundingErrorCode : UsageError → ErrorCode
  | .noActiveSubscription | .quotaInsufficient _ => .insufficientUserQuota
  | _ => .updateDataError

/-- The amount that `preConsume` takes: nothing from a trusted user. -/
def effectiveQuota (env : BillingEnv) (info : RelayInfo) (userQuota quota : Int)
    (funding : Funding) : Int :=
  if shouldTrust env info userQuota funding then 0 else quota

/-- `preConsume` of a session that was just built: trust bypass, token, funding source. A failure
of the funding source takes the token charge back. -/
def preConsume (env : BillingEnv) (info : RelayInfo) (faults : Faults) (userQuota quota : Int)
    (funding : Funding) (store : Store) : Store × Except ErrorCode BillingSession :=
  let effective := effectiveQuota env info userQuota quota funding
  match (if effective > 0 then preConsumeTokenQuota info faults effective store
    else some store) with
  | none => (store, .error .preConsumeTokenQuotaFailed)
  | some charged =>
    let tokenConsumed := if effective > 0 then effective else 0
    match funding.preConsume env faults.funding effective charged with
    | .error e =>
      let rolledBack :=
        if tokenConsumed > 0 ∧ ¬ info.isPlayground then
          (increaseTokenQuota false tokenConsumed charged).getD charged
        else charged
      (rolledBack, .error (fundingErrorCode e))
    | .ok (funding', store) =>
      (store, .ok
        { funding := funding'
          preConsumedQuota := effective
          tokenConsumed
          trusted := shouldTrust env info userQuota funding })

/-- What `NewBillingSession` reads, and the store calls that fail in its two attempts. -/
structure OpenInput where
  /-- `model.GetUserQuota`, `none` on an error. -/
  userQuota : Option Int
  /-- `model.HasActiveUserSubscription`, `none` on an error. -/
  hasActiveSubscription : Option Bool
  walletFaults : Faults := {}
  subscriptionFaults : Faults := {}

section

variable (env : BillingEnv) (info : RelayInfo) (input : OpenInput) (preConsumedQuota : Int)

def tryWallet (store : Store) : Store × Except ErrorCode BillingSession :=
  match input.userQuota with
  | none => (store, .error .queryDataError)
  | some userQuota =>
    if userQuota ≤ 0 then (store, .error .insufficientUserQuota)
    else if Int64.wrap (userQuota - preConsumedQuota) < 0 then
      (store, .error .insufficientUserQuota)
    else preConsume env info input.walletFaults userQuota preConsumedQuota (.wallet 0) store

/-- At least one unit is pre-consumed. -/
def trySubscription (store : Store) : Store × Except ErrorCode BillingSession :=
  let subConsume := if preConsumedQuota ≤ 0 then 1 else preConsumedQuota
  preConsume env info input.subscriptionFaults 0 subConsume
    (.subscription { requestId := info.requestId, userId := info.userId, amount := subConsume })
    store

def orElse (first second : Store → Store × Except ErrorCode BillingSession) (store : Store) :
    Store × Except ErrorCode BillingSession :=
  match first store with
  | (store', .error .insufficientUserQuota) => second store'
  | outcome => outcome

def newBillingSession (store : Store) : Store × Except ErrorCode BillingSession :=
  let wallet := tryWallet env info input preConsumedQuota
  let subscription := trySubscription env info input preConsumedQuota
  match info.billingPreference with
  | .subscriptionOnly => subscription store
  | .walletOnly => wallet store
  | .walletFirst => orElse wallet subscription store
  | .subscriptionFirst =>
    match input.hasActiveSubscription with
    | none => (store, .error .queryDataError)
    | some false => wallet store
    | some true => orElse subscription wallet store

end

/-! ## The calls on an open session -/

/-- The result of `Settle`: `none` is success, a token error leaves the funding settled. -/
inductive SettleError where
  | funding
  | token
  deriving DecidableEq, Repr

/-- The token adjustment of `Settle` and of `PostConsumeQuota`, `none` on an error. -/
def adjustToken (info : RelayInfo) (fails : Bool) (delta : Int) (store : Store) : Option Store :=
  if info.isPlayground then some store
  else if delta > 0 then decreaseTokenQuota fails delta store
  else increaseTokenQuota fails (Int64.wrap (-delta)) store

def BillingSession.settle (info : RelayInfo) (faults : Faults) (actualQuota : Int)
    (s : BillingSession) (store : Store) : BillingSession × Store × Option SettleError :=
  let delta := Int64.wrap (actualQuota - s.preConsumedQuota)
  if s.settled then (s, store, none)
  else if delta = 0 then ({ s with settled := true }, store, none)
  else
    match (if s.fundingSettled then some store else s.funding.settle faults.funding delta store)
      with
    | none => (s, store, some .funding)
    | some store =>
      let done := { s with fundingSettled := true, settled := true }
      match adjustToken info faults.token delta store with
      | none => (done, store, some .token)
      | some store => (done, store, none)

/-- `needsRefundLocked`. -/
def BillingSession.needsRefund (s : BillingSession) : Bool :=
  !(s.settled || s.refunded || s.fundingSettled) &&
  (s.tokenConsumed > 0 ||
    match s.funding with
    | .wallet _ => false
    | .subscription sub => sub.preConsumed > 0)

/-- The goroutine that `Refund` starts, with the values it captured. -/
structure RefundJob where
  tokenConsumed : Int
  extraReserved : Int
  isPlayground : Bool
  funding : Funding
  deriving DecidableEq

/-- The session and the goroutine it starts, if any. -/
def BillingSession.refund (info : RelayInfo) (s : BillingSession) :
    BillingSession × Option RefundJob :=
  if s.settled ∨ s.refunded ∨ ¬ s.needsRefund then (s, none)
  else ({ s with refunded := true }, some
    { tokenConsumed := s.tokenConsumed
      extraReserved := s.extraReserved
      isPlayground := info.isPlayground
      funding := s.funding })

/-- The refund of the reservations of a subscription; a failure is only logged. -/
def RefundJob.refundExtra (job : RefundJob) (store : Store) : Store :=
  match job.funding with
  | .wallet _ => store
  | .subscription sub =>
    if job.extraReserved > 0 ∧ sub.subscriptionId > 0 then
      (postConsumeDelta false sub.subscriptionId (-job.extraReserved) store).getD store
    else store

def RefundJob.run (now : Int) (job : RefundJob) (store : Store) : Store :=
  let store := job.refundExtra (job.funding.refund now store)
  if job.tokenConsumed > 0 ∧ ¬ job.isPlayground then
    (increaseTokenQuota false job.tokenConsumed store).getD store
  else store

/-- `reserveFunding`, `none` on an error. -/
def reserveFunding (fails : Bool) (delta : Int) (store : Store) :
    Funding → Option (Funding × Store)
  | .wallet consumed =>
    (decreaseUserQuota fails delta store).map fun store => (.wallet (consumed + delta), store)
  | .subscription sub =>
    (postConsumeDelta fails sub.subscriptionId delta store).map
      fun store => (.subscription sub, store)

def rollbackFundingReserve (delta : Int) (store : Store) : Funding → Funding × Store
  | .wallet consumed =>
    match increaseUserQuota false delta store with
    | none => (.wallet consumed, store)
    | some store => (.wallet (consumed - delta), store)
  | .subscription sub =>
    (.subscription sub, (postConsumeDelta false sub.subscriptionId (-delta) store).getD store)

/-- `reserveToken`, `none` on an error. -/
def reserveToken (info : RelayInfo) (faults : Faults) (delta : Int) (store : Store) :
    Option Store :=
  if delta ≤ 0 ∨ info.isPlayground then some store
  else preConsumeTokenQuota info faults delta store

/-- The flag says whether it returned without an error. -/
def BillingSession.reserve (info : RelayInfo) (faults : Faults) (targetQuota : Int)
    (s : BillingSession) (store : Store) : BillingSession × Store × Bool :=
  let delta := Int64.wrap (targetQuota - s.preConsumedQuota)
  if s.settled ∨ s.refunded ∨ s.trusted ∨ targetQuota ≤ s.preConsumedQuota ∨ delta ≤ 0 then
    (s, store, true)
  else
    match reserveFunding faults.funding delta store s.funding with
    | none => (s, store, false)
    | some (funding, reserved) =>
      match reserveToken info faults delta reserved with
      | none =>
        let (funding, store) := rollbackFundingReserve delta reserved funding
        ({ s with funding }, store, false)
      | some store =>
        ({ s with
            funding
            preConsumedQuota := s.preConsumedQuota + delta
            tokenConsumed := s.tokenConsumed + delta
            extraReserved := s.extraReserved + delta }, store, true)

/-! ## What the store calls do -/

section

variable {store : Store}

theorem quotaUpdate_eq_some :
    quotaUpdate fails quota ud = some store' ↔ 0 ≤ quota ∧ fails = false ∧ ud = store' := by
  unfold quotaUpdate
  split
  · rename_i h
    rcases h with h | h
    · exact ⟨nofun, fun h' => by omega⟩
    · simp [h]
  · rename_i h
    simp only [not_or, Int.not_lt, Bool.not_eq_true] at h
    simp [h.1, h.2]

theorem quotaUpdate_of_nonneg (h : 0 ≤ quota) : quotaUpdate false quota ud = some ud :=
  quotaUpdate_eq_some.mpr ⟨h, rfl, rfl⟩

def Store.setUsed (store : Store) (row : UserSubscription) (used : Int) : Store :=
  { store with subs := { store.subs with subs := saveSub (row.withUsed used) store.subs.subs } }

theorem Store.findSub_setUsed {id : Int} {row : UserSubscription}
    (h : findSub store.subs.subs id = some row) :
    findSub (store.setUsed row used).subs.subs id = some (row.withUsed used) := by
  have hid : row.id = id := Table.get?_key h
  subst hid
  exact @findSub_saveSub_self (row.withUsed used) row store.subs.subs h

theorem postConsumeDelta_eq_some {id d : Int} {row : UserSubscription}
    (hr : findSub store.subs.subs id = some row) (hd : d ≠ 0)
    (hra : Int64.InRange (row.amountUsed + d)) (h : postConsumeDelta fails id d store =
      some store') :
    store' = store.setUsed row (max (row.amountUsed + d) 0) ∧
      (row.amountTotal > 0 → max (row.amountUsed + d) 0 ≤ row.amountTotal) := by
  unfold postConsumeDelta at h
  split at h
  · cases h
  split at h
  · cases h
  rename_i sbs hsu
  cases h
  obtain ⟨hz, -⟩ | ⟨-, sub, hs, hfi, rfl⟩ := postConsume_spec hsu
  · exact absurd hz hd
  · rw [hr] at hs
    obtain rfl := Option.some.inj hs
    rw [Int64.wrap_of_inRange hra] at hfi ⊢
    exact ⟨rfl, hfi⟩

theorem postConsumeDelta_credit {id amt : Int} {row : UserSubscription} (hid : 0 < id)
    (hr : findSub store.subs.subs id = some row) (ham : 0 < amt) (hus : amt ≤ row.amountUsed)
    (hlt : row.amountUsed < 2 ^ 63)
    (hfi : row.amountTotal > 0 → row.amountUsed ≤ row.amountTotal) :
    postConsumeDelta false id (-amt) store = some (store.setUsed row (row.amountUsed - amt)) := by
  have hcr := postConsume_credit hid hr ham (by constructor <;> omega) hfi
  rw [max_eq_left (by omega)] at hcr
  simp only [postConsumeDelta, hcr, Bool.false_eq_true, if_false]
  rfl

theorem preConsumeTokenQuota_eq_some (h : preConsumeTokenQuota info fts quota store = some store') :
    store' = { store with
      tokenQuota := store.tokenQuota - if info.isPlayground then 0 else quota } := by
  unfold preConsumeTokenQuota at h
  split at h
  · cases h
  split at h
  · rename_i hpl
    cases h
    simp [hpl]
  rename_i hpl
  split at h
  · cases h
  split at h
  · cases h
  · obtain ⟨-, -, rfl⟩ := quotaUpdate_eq_some.mp h
    simp [hpl]

theorem preConsume_error (h : preConsume env info fts uq quota fd store = (store', .error code)) :
    store' = store := by
  unfold preConsume at h
  dsimp only at h
  generalize effectiveQuota env info uq quota fd = eff at h
  split at h
  · exact (Prod.mk.inj h).1.symm
  rename_i chd hch
  split at h
  · rw [← (Prod.mk.inj h).1]
    by_cases hp : eff > 0
    · simp only [hp, if_true] at hch ⊢
      rw [preConsumeTokenQuota_eq_some hch]
      cases hpl : info.isPlayground with
      | true => simp
      | false =>
        simp [increaseTokenQuota, quotaUpdate_of_nonneg (Int.le_of_lt hp)]
    · simp only [hp, if_false] at hch ⊢
      exact (Option.some.inj hch).symm
  · cases (Prod.mk.inj h).2

theorem preConsume_ok (heffective : effectiveQuota env info uq quota fd = eff)
    (h : preConsume env info faults uq quota fd store = (store', .ok session)) :
    ∃ fd', fd.preConsume env faults.funding eff { store with
          tokenQuota := store.tokenQuota - if info.isPlayground then 0 else max eff 0 } =
        .ok (fd', store') ∧
      session = { funding := fd', preConsumedQuota := eff
                  tokenConsumed := max eff 0
                  trusted := shouldTrust env info uq fd } := by
  unfold preConsume at h
  dsimp only at h
  rw [heffective] at h
  split at h
  · cases (Prod.mk.inj h).2
  rename_i charged hcharged
  have hstore : charged = { store with
      tokenQuota := store.tokenQuota - if info.isPlayground then 0 else max eff 0 } := by
    by_cases hpos : eff > 0
    · rw [if_pos hpos] at hcharged
      rw [preConsumeTokenQuota_eq_some hcharged, max_eq_left (by omega)]
    · rw [if_neg hpos] at hcharged
      rw [max_eq_right (by omega), ← Option.some.inj hcharged]
      simp
  have htoken : (if eff > 0 then eff else 0) = max eff 0 := by
    split <;> omega
  split at h
  · cases (Prod.mk.inj h).2
  rename_i fd' store'' hfunding
  obtain ⟨rfl, hsession⟩ := Prod.mk.inj h
  rw [htoken] at hsession
  exact ⟨fd', hstore ▸ hfunding, (Except.ok.inj hsession).symm⟩

theorem orElse_eq_ok (hfi : ∀ store' code, first store = (store', .error code) → store' = store)
    (h : orElse first second store = (store', .ok session)) :
    first store = (store', .ok session) ∨ second store = (store', .ok session) := by
  unfold orElse at h
  split at h
  · rename_i mid hmi
    exact .inr (hfi _ _ hmi ▸ h)
  · exact .inl h

theorem orElse_eq_error (hfi : ∀ store' code, first store = (store', .error code) → store' = store)
    (hsc : ∀ store' code, second store = (store', .error code) → store' = store)
    (h : orElse first second store = (store', .error code)) : store' = store := by
  unfold orElse at h
  split at h
  · rename_i mid hmi
    exact hsc _ _ (hfi _ _ hmi ▸ h)
  · exact hfi _ _ h

section

variable {q : Int}

theorem tryWallet_error (h : tryWallet env info input q store = (store', .error code)) :
    store' = store := by
  unfold tryWallet at h
  split at h
  · exact (Prod.mk.inj h).1.symm
  split at h
  · exact (Prod.mk.inj h).1.symm
  split at h
  · exact (Prod.mk.inj h).1.symm
  · exact preConsume_error h

theorem newBillingSession_error
    (h : newBillingSession env info input q store = (store', .error code)) :
    store' = store := by
  unfold newBillingSession at h
  split at h
  · exact preConsume_error h
  · exact tryWallet_error h
  · exact orElse_eq_error (fun _ _ => tryWallet_error) (fun _ _ => preConsume_error) h
  split at h
  · exact (Prod.mk.inj h).1.symm
  · exact tryWallet_error h
  · exact orElse_eq_error (fun _ _ => preConsume_error) (fun _ _ => tryWallet_error) h

theorem newBillingSession_eq_ok (h : newBillingSession env info input q store = (store', .ok ses)) :
    tryWallet env info input q store = (store', .ok ses) ∨
      trySubscription env info input q store = (store', .ok ses) := by
  unfold newBillingSession at h
  split at h
  · exact .inr h
  · exact .inl h
  · exact orElse_eq_ok (fun _ _ => tryWallet_error) h
  split at h
  · cases (Prod.mk.inj h).2
  · exact .inl h
  · exact (orElse_eq_ok (fun _ _ => preConsume_error) h).symm

theorem effectiveQuota_eq (uq quota : Int) (fd : Funding) :
    effectiveQuota env info uq quota fd = quota ∨ effectiveQuota env info uq quota fd = 0 := by
  unfold effectiveQuota
  split
  · exact .inr rfl
  · exact .inl rfl

theorem newBillingSession_open (h : newBillingSession env info input q store = (store', .ok ses)) :
    ses.settled = false ∧ ses.fundingSettled = false ∧ ses.refunded = false ∧
      (ses.preConsumedQuota = q ∨ ses.preConsumedQuota = 0 ∨ ses.preConsumedQuota = 1) := by
  rcases newBillingSession_eq_ok h with h | h
  · unfold tryWallet at h
    split at h
    · cases (Prod.mk.inj h).2
    split at h
    · cases (Prod.mk.inj h).2
    split at h
    · cases (Prod.mk.inj h).2
    · obtain ⟨fd, -, rfl⟩ := preConsume_ok rfl h
      exact ⟨rfl, rfl, rfl, (effectiveQuota_eq _ _ _).elim .inl (.inr ∘ .inl)⟩
  · unfold trySubscription at h
    have hconsume : (if q ≤ 0 then 1 else q) = q ∨
        (if q ≤ 0 then 1 else q) = 1 := by
      split <;> simp
    generalize (if q ≤ 0 then 1 else q) = sc at h hconsume
    obtain ⟨fd, -, rfl⟩ := preConsume_ok rfl h
    refine ⟨rfl, rfl, rfl, ?_⟩
    rcases effectiveQuota_eq 0 sc (.subscription
      { requestId := info.requestId, userId := info.userId, amount := sc }) with h | h
    · rw [h]
      exact hconsume.imp_right .inr
    · exact .inr (.inl h)

end

end

end NewApi.Billing
