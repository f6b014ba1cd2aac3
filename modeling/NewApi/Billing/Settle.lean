import NewApi.Billing.Account

/-!
# Settlement of a request

`PostConsumeQuota` and `SettleBilling`. `Owed` is the account of a request before it is settled,
with a session or, for a free model, without one.
-/

namespace NewApi.Billing

open Lib Subscriptions SubscriptionBacked

/-- `relayInfo.BillingSource` with the subscription id: the source of the session, or the wallet. -/
def billingSource : Option BillingSession → Funding
  | some session => session.funding
  | none => .wallet 0

def finalPreConsumedQuota : Option BillingSession → Int
  | some session => session.preConsumedQuota
  | none => 0

/-- The charge of `PostConsumeQuota` to the funding source, `none` on an error. -/
def postConsumeFunding (source : Funding) (fails : Bool) (quota : Int) (store : Store) :
    Option Store :=
  match source with
  | .subscription sub =>
    if sub.subscriptionId = 0 then none
    else if quota = 0 then some store
    else postConsumeDelta fails sub.subscriptionId quota store
  | .wallet _ =>
    if quota > 0 then decreaseUserQuota fails quota store
    else increaseUserQuota fails (Int64.wrap (-quota)) store

/-- When the token cannot be adjusted, the funding source stays charged. -/
def postConsumeQuota (info : RelayInfo) (source : Funding) (faults : Faults) (quota : Int)
    (store : Store) : Store × Option SettleError :=
  match postConsumeFunding source faults.funding quota store with
  | none => (store, some .funding)
  | some charged =>
    match adjustToken info faults.token quota charged with
    | none => (charged, some .token)
    | some adjusted => (adjusted, none)

def settleBilling (info : RelayInfo) (faults : Faults) (actualQuota : Int) (store : Store) :
    Option BillingSession → Option BillingSession × Store × Option SettleError
  | some session =>
    let outcome := session.settle info faults actualQuota store
    (some outcome.1, outcome.2)
  | none =>
    let quotaDelta := Int64.wrap (actualQuota - finalPreConsumedQuota none)
    if quotaDelta = 0 then (none, store, none)
    else (none, postConsumeQuota info (billingSource none) faults quotaDelta store)

/-! ## The account of a request -/

def sourceLoss (source : Funding) (before after : Store) : Int :=
  match source with
  | .wallet _ => before.userQuota - after.userQuota
  | .subscription sub =>
    usedOf after.subs sub.subscriptionId - usedOf before.subs sub.subscriptionId

def tokenLoss (before after : Store) : Int :=
  before.tokenQuota - after.tokenQuota

def Opening.charge (o : Opening) (funding token : Int) : Opening where
  userQuota := o.userQuota - funding
  tokenQuota := o.tokenQuota - token
  usedBefore := o.usedBefore + funding

theorem fundingDebit_charge :
    fundingDebit (o.charge fd tok) src store = fundingDebit o src store - fd := by
  cases src with
  | wallet csm =>
    change o.userQuota - fd - store.userQuota = o.userQuota - store.userQuota - fd
    omega
  | subscription sub =>
    change usedOf store.subs sub.subscriptionId - (o.usedBefore + fd) =
      usedOf store.subs sub.subscriptionId - o.usedBefore - fd
    omega

theorem tokenDebit_charge : tokenDebit (o.charge fd tok) store = tokenDebit o store - tok := by
  change o.tokenQuota - tok - store.tokenQuota = o.tokenQuota - store.tokenQuota - tok
  omega

/-- `extraReserved` of the session. -/
def extraReserved : Option BillingSession → Int
  | some session => session.extraReserved
  | none => 0

structure Owed (info : RelayInfo) (o : Opening) (store : Store)
    (session : Option BillingSession) : Prop where
  nonneg : 0 ≤ finalPreConsumedQuota session
  token : tokenDebit o store = if info.isPlayground then 0 else finalPreConsumedQuota session
  funding : FundingBacked o (finalPreConsumedQuota session) (extraReserved session) store
    (billingSource session)
  isOpen : ∀ s, session = some s → s.tokenConsumed = s.preConsumedQuota ∧ 0 ≤ s.extraReserved ∧
    s.settled = false ∧ s.fundingSettled = false ∧ s.refunded = false

section

variable {o : Opening}

theorem Owed.of_held (h : Held inf o s store) (hse : s.settled = false)
    (hfu : s.fundingSettled = false) (hre : s.refunded = false) : Owed inf o store (some s) where
  nonneg := h.nonneg
  token := h.token
  funding := h.funding
  isOpen := by
    intro s' hs
    cases hs
    exact ⟨h.tokenConsumed, h.extra_nonneg, hse, hfu, hre⟩

theorem Owed.of_none (hus : o.userQuota = store.userQuota)
    (ht : o.tokenQuota = store.tokenQuota) : Owed inf o store none where
  nonneg := Int.le_refl 0
  token := by
    simp only [tokenDebit, finalPreConsumedQuota, ite_self]
    omega
  funding := ⟨rfl, by simp only [finalPreConsumedQuota]; omega⟩
  isOpen := fun s hs => by cases hs

theorem Owed.held (h : Owed inf o store (some s)) : Held inf o s store where
  nonneg := h.nonneg
  tokenConsumed := (h.isOpen s rfl).1
  extra_nonneg := (h.isOpen s rfl).2.1
  token := h.token
  funding := h.funding

theorem FundingBacked.postConsume (h : FundingBacked o pre ex store src) (hpr : 0 ≤ pre)
    (hq : 0 ≤ q)
    (hlt : ∀ sub, src = .subscription sub →
      o.usedBefore + (pre + q) < 2 ^ 63) (hch :
        postConsumeFunding src fl q store = some store') (tok :
        Int) :
    FundingBacked (o.charge q tok) pre ex store' src ∧
      sourceLoss src store store' = q ∧ store'.tokenQuota = store.tokenQuota := by
  cases src with
  | wallet csm =>
    obtain ⟨hcs, hde⟩ := h
    simp only [postConsumeFunding] at hch
    split at hch
    · obtain ⟨-, -, rfl⟩ := quotaUpdate_eq_some.mp hch
      refine ⟨⟨hcs, ?_⟩, ?_, rfl⟩
      · change o.userQuota - q - (store.userQuota - q) = pre
        omega
      · change store.userQuota - (store.userQuota - q) = q
        omega
    -- nothing is taken: the wallet is increased by zero
    have hz : q = 0 := by omega
    have hwr : Int64.wrap (-q) = 0 := by simp [hz, Int64.wrap]
    rw [hwr] at hch
    obtain ⟨-, -, rfl⟩ := quotaUpdate_eq_some.mp hch
    refine ⟨⟨hcs, ?_⟩, ?_, rfl⟩
    · change o.userQuota - q - (store.userQuota + 0) = pre
      omega
    · change store.userQuota - (store.userQuota + 0) = q
      omega
  | subscription sub =>
    obtain ⟨row, hr, hus, hfi⟩ := SubscriptionBacked.row h
    have hbe := before_nonneg h
    simp only [postConsumeFunding] at hch
    split at hch
    · cases hch
    split at hch
    · rename_i hz
      subst hz
      cases hch
      refine ⟨SubscriptionBacked.congr h (Int.add_zero _), ?_, rfl⟩
      simp [sourceLoss]
    rename_i hne
    have hlt := hlt sub rfl
    have hra : Int64.InRange (row.amountUsed + q) := by constructor <;> omega
    obtain ⟨rfl, hfi'⟩ := postConsumeDelta_eq_some hr hne hra hch
    have hn : max (row.amountUsed + q) 0 = (o.charge q tok).usedBefore + pre := by
      change max (row.amountUsed + q) 0 = o.usedBefore + q + pre
      omega
    rw [hn] at hfi' ⊢
    refine ⟨setUsed h hr rfl ?_ ?_ hfi', ?_, rfl⟩
    · omega
    · change o.usedBefore + q + pre < 2 ^ 63
      omega
    · simp only [sourceLoss, usedOf_of_find hr, usedOf_of_find (Store.findSub_setUsed hr),
        UserSubscription.withUsed_amountUsed]
      omega

theorem sourceLoss_congr (hus : aft.userQuota = store'.userQuota) (hsu : aft.subs = store'.subs) :
    sourceLoss src store aft = sourceLoss src store store' := by
  cases src <;> simp [sourceLoss, hus, hsu]

theorem Opening.charge_charge :
    (o.charge fd tok).charge fd' tok' = o.charge (fd + fd') (tok + tok') := by
  simp only [Opening.charge, Opening.mk.injEq]
  omega

theorem Opening.charge_zero : o.charge 0 0 = o := by
  simp [Opening.charge]

section

variable (h : Owed inf o sto ses)
include h

theorem Owed.charge (hfu : FundingBacked (o.charge fd tok) (finalPreConsumedQuota ses)
      (extraReserved ses) sto' (billingSource ses)) (ht : tokenLoss sto sto' = tok) :
    Owed inf (o.charge fd tok) sto' ses where
  nonneg := h.nonneg
  token := by
    rw [tokenDebit_charge, ← h.token, ← ht]
    simp only [tokenDebit, tokenLoss]
    omega
  funding := hfu
  isOpen := h.isOpen

theorem Owed.postConsume_cases (hq : 0 ≤ q) (hra : Int64.InRange q)
    (hlt : ∀ sub, billingSource ses = .subscription sub →
      o.usedBefore + (finalPreConsumedQuota ses + q) < 2 ^ 63) (hch :
        postConsumeQuota inf (billingSource ses) fts q sto = (sto', err)) :
    (err = some .funding ∧ sto' = sto) ∨
      ∃ tok, err ≠ some .funding ∧ Owed inf (o.charge q tok) sto' ses ∧
        sourceLoss (billingSource ses) sto sto' = q ∧
        tokenLoss sto sto' = tok ∧ 0 ≤ tok ∧
        (inf.isPlayground = false → err ≠ some .token → tok = q) := by
  unfold postConsumeQuota at hch
  split at hch
  · cases hch
    exact .inl ⟨rfl, rfl⟩
  rename_i chd hcd
  have hba := fun tok => h.funding.postConsume h.nonneg hq hlt hcd tok
  have hlo := (hba 0).2.1
  have hk := (hba 0).2.2
  split at hch
  · obtain ⟨rfl, rfl⟩ := Prod.mk.inj hch
    have ht : tokenLoss sto chd = 0 := by
      simp only [tokenLoss]
      omega
    exact .inr ⟨0, nofun, h.charge (hba 0).1 ht, hlo, ht, Int.le_refl 0,
      fun _ her => absurd rfl her⟩
  rename_i adju had
  have had := adjustToken_eq_some hra had
  obtain ⟨rfl, rfl⟩ := Prod.mk.inj hch
  have ht : tokenLoss sto adju = if inf.isPlayground then 0 else q := by
    simp only [tokenLoss, had]
    omega
  refine .inr ⟨if inf.isPlayground then 0 else q, nofun, ?_, ?_, ht, ?_, ?_⟩
  · exact h.charge ((hba _).1.congr (by rw [had]) (by rw [had])) ht
  · exact (sourceLoss_congr (by rw [had]) (by rw [had])).trans hlo
  · split <;> omega
  · intro hpl _
    simp [hpl]

theorem Owed.settleBilling (hac : 0 ≤ aq) (hra : Int64.InRange (aq - finalPreConsumedQuota ses))
    (hlt : ∀ sub, billingSource ses = .subscription sub → o.usedBefore + aq < 2 ^ 63)
    (hs : settleBilling inf fts aq sto ses = (ses', sto', err)) :
    (err = some .funding ∧ ses' = ses ∧ sto' = sto) ∨
      (err ≠ some .funding ∧ billingSource ses' = billingSource ses ∧
        fundingDebit o (billingSource ses) sto' = aq ∧
        (inf.isPlayground = false → err ≠ some .token → tokenDebit o sto' = aq)) := by
  cases ses with
  | some s =>
    obtain ⟨-, -, hse, hfu, -⟩ := h.isOpen s rfl
    obtain ⟨rfl, hr⟩ := Prod.mk.inj hs
    have hr : s.settle inf fts aq sto = ((s.settle inf fts aq sto).1, sto', err) := Prod.ext rfl hr
    rcases h.held.settle hse hfu hra hlt hr with
      ⟨her, hsa, rfl⟩ | ⟨her, -, -, hsr, hde, ht⟩
    · exact .inl ⟨her, congrArg some hsa, rfl⟩
    · exact .inr ⟨her, hsr, hde.trans (h.funding.settledDebit_of_nonneg hac), ht⟩
  | none =>
    -- without a session the amount is charged directly
    have ht : tokenDebit o sto = 0 := by simpa [finalPreConsumedQuota] using h.token
    have hde : fundingDebit o (billingSource none) sto = 0 := h.funding.debit
    have hd : Int64.wrap (aq - finalPreConsumedQuota none) = aq := by
      rw [Int64.wrap_of_inRange hra]
      exact Int.sub_zero aq
    have hra : Int64.InRange aq := hd ▸ Int64.inRange_wrap _
    simp only [Billing.settleBilling, hd] at hs
    split at hs
    · rename_i hz
      cases hs
      exact .inr ⟨nofun, rfl, hde.trans hz.symm, fun _ _ => ht.trans hz.symm⟩
    obtain ⟨rfl, hr⟩ := Prod.mk.inj hs
    rcases h.postConsume_cases hac hra nofun hr with
      ⟨her, rfl⟩ | ⟨tok, her, how, hlo, hlt, -, had⟩
    · exact .inl ⟨her, rfl, rfl⟩
    have hfu := how.funding.debit
    have ht' := how.token
    rw [fundingDebit_charge] at hfu
    simp only [tokenDebit_charge, finalPreConsumedQuota, ite_self] at hfu ht'
    refine .inr ⟨her, rfl, by omega, fun hpl hok => ?_⟩
    have := had hpl hok
    omega

end

end

/-! ## Opening the account of a request -/

end NewApi.Billing
