import NewApi.Billing.Session

/-!
# The account of a billing session

What the funding source and the token of a session have lost since it was opened. `Held` is the
account of an open session: what was lost is what the session says it took, and the rows that a
refund needs are there.
-/

namespace NewApi.Billing

open Lib Subscriptions Option UserSubscription

/-! ## What the sources have lost -/

structure Opening where
  userQuota : Int
  tokenQuota : Int
  /-- The used amount of the session's subscription. -/
  usedBefore : Int

def usedOf (db : Tables) (subscriptionId : Int) : Int :=
  match findSub db.subs subscriptionId with
  | none => 0
  | some row => row.amountUsed

/-- The used amount of the subscription that a session charges, as the pre-consumption found it:
a subscription whose reset was due is reset first. -/
def usedBefore (env : BillingEnv) (start : Store) (sub : SubscriptionFunding) : Int :=
  if sub.subscriptionId ∈ resetIds env.usage env.now sub.amount
      (activeSubs sub.userId env.now start.subs.subs) then 0
  else usedOf start.subs sub.subscriptionId

def opening (env : BillingEnv) (start : Store) (session : BillingSession) : Opening where
  userQuota := start.userQuota
  tokenQuota := start.tokenQuota
  usedBefore :=
    match session.funding with
    | .wallet _ => 0
    | .subscription sub => usedBefore env start sub

/-- What the funding source has lost since the opening. -/
def fundingDebit (o : Opening) (funding : Funding) (store : Store) : Int :=
  match funding with
  | .wallet _ => o.userQuota - store.userQuota
  | .subscription sub => usedOf store.subs sub.subscriptionId - o.usedBefore

def tokenDebit (o : Opening) (store : Store) : Int :=
  o.tokenQuota - store.tokenQuota

/-- The net debit that a settlement of `actualQuota` leaves. The used amount of a subscription does
not go below zero, so a negative settlement gives back at most what others had used. -/
def settledDebit (o : Opening) (funding : Funding) (actualQuota : Int) : Int :=
  match funding with
  | .wallet _ => actualQuota
  | .subscription _ => max actualQuota (-o.usedBefore)

/-! ## The account of an open session -/

/-- The rows behind a subscription session: the used amount with the session's debits, and the
record of the pre-consumption. -/
structure SubscriptionBacked (o : Opening) (sub : SubscriptionFunding)
    (preConsumedQuota extraReserved : Int) (db : Tables) : Prop where
  id_pos : 0 < sub.subscriptionId
  request : trimSpace sub.requestId ≠ ""
  preConsumed_pos : 0 < sub.preConsumed
  total : sub.preConsumed + extraReserved = preConsumedQuota
  before_nonneg : 0 ≤ o.usedBefore
  small : o.usedBefore + preConsumedQuota < 2 ^ 63
  row : ∃ row, findSub db.subs sub.subscriptionId = some row ∧
    row.amountUsed = o.usedBefore + preConsumedQuota ∧
    (row.amountTotal > 0 → row.amountUsed ≤ row.amountTotal)
  record : ∃ record, findRecord db.records sub.requestId = some record ∧
    record.status = .consumed ∧ record.preConsumed = sub.preConsumed ∧
    record.userSubscriptionId = sub.subscriptionId

def FundingBacked (o : Opening) (preConsumedQuota extraReserved : Int) (store : Store) :
    Funding → Prop
  | .wallet consumed => consumed = preConsumedQuota ∧
      o.userQuota - store.userQuota = preConsumedQuota
  | .subscription sub =>
    SubscriptionBacked o sub preConsumedQuota extraReserved store.subs

structure Held (info : RelayInfo) (o : Opening) (s : BillingSession) (store : Store) : Prop where
  nonneg : 0 ≤ s.preConsumedQuota
  tokenConsumed : s.tokenConsumed = s.preConsumedQuota
  extra_nonneg : 0 ≤ s.extraReserved
  token : tokenDebit o store = if info.isPlayground then 0 else s.preConsumedQuota
  funding : FundingBacked o s.preConsumedQuota s.extraReserved store s.funding

open SubscriptionBacked

section

variable {store : Store} {fd : Funding}

theorem usedOf_of_find {db : Tables} {id : Int} {row : UserSubscription}
    (h : findSub db.subs id = some row) : usedOf db id = row.amountUsed := by
  simp [usedOf, h]

theorem FundingBacked.debit (h : FundingBacked o pre ex store fd) :
    fundingDebit o fd store = pre := by
  cases fd with
  | wallet csm => exact h.2
  | subscription sub =>
    obtain ⟨row, hr, hus, -⟩ := row h
    simp only [fundingDebit, usedOf_of_find hr]
    omega

theorem fundingDebit_congr (hus : store'.userQuota = store.userQuota)
    (hsu : store'.subs = store.subs) :
    fundingDebit o fd store' = fundingDebit o fd store := by
  cases fd <;> simp [fundingDebit, hus, hsu]

theorem FundingBacked.congr (h : FundingBacked o pre ex store fd)
    (hus : store'.userQuota = store.userQuota) (hsu : store'.subs = store.subs) :
    FundingBacked o pre ex store' fd := by
  cases fd with
  | wallet csm => exact ⟨h.1, hus ▸ h.2⟩
  | subscription sub =>
    unfold FundingBacked at h ⊢
    rw [hsu]
    exact h

theorem SubscriptionBacked.setUsed {sub : SubscriptionFunding} {pre' ex' : Int} {o' : Opening}
    (h : SubscriptionBacked o sub pre ex store.subs) {row : UserSubscription}
    (hr : findSub store.subs.subs sub.subscriptionId = some row) (hpr : pre' - ex' = pre - ex)
    (hbe : 0 ≤ o'.usedBefore) (hsm : o'.usedBefore + pre' < 2 ^ 63)
    (hfi : row.amountTotal > 0 → o'.usedBefore + pre' ≤ row.amountTotal) :
    SubscriptionBacked o' sub pre' ex' (store.setUsed row (o'.usedBefore + pre')).subs where
  id_pos := h.id_pos
  request := h.request
  preConsumed_pos := h.preConsumed_pos
  total := by have := h.total; omega
  before_nonneg := hbe
  small := hsm
  row := ⟨_, Store.findSub_setUsed hr, rfl, hfi⟩
  record := h.record

theorem SubscriptionBacked.congr (h : SubscriptionBacked o sub pre ex db)
    (hpr : o'.usedBefore = o.usedBefore) : SubscriptionBacked o' sub pre ex db where
  id_pos := h.id_pos
  request := h.request
  preConsumed_pos := h.preConsumed_pos
  total := h.total
  before_nonneg := hpr ▸ h.before_nonneg
  small := hpr ▸ h.small
  row := hpr ▸ h.row
  record := h.record

theorem FundingBacked.reserve (h : FundingBacked o pre ex store fd) (hpr : 0 ≤ pre) (hd : 0 < d)
    (hlt : ∀ sub, fd = .subscription sub →
      o.usedBefore + (pre + d) < 2 ^ 63) (hr : reserveFunding fl d store fd = some (fd', store')) :
    FundingBacked o (pre + d) (ex + d) store' fd' ∧ store'.tokenQuota = store.tokenQuota := by
  cases fd with
  | wallet csm =>
    obtain ⟨charged, hch, heq⟩ := map_eq_some_iff.mp hr
    obtain ⟨rfl, rfl⟩ := Prod.mk.inj heq
    obtain ⟨-, -, rfl⟩ := quotaUpdate_eq_some.mp hch
    obtain ⟨hcs, hde⟩ := h
    refine ⟨⟨by omega, ?_⟩, rfl⟩
    change o.userQuota - (store.userQuota - d) = pre + d
    omega
  | subscription sub =>
    obtain ⟨charged, hch, heq⟩ := map_eq_some_iff.mp hr
    obtain ⟨rfl, rfl⟩ := Prod.mk.inj heq
    obtain ⟨row, hro, hus, -⟩ := row h
    have hbe := before_nonneg h
    have hlt := hlt sub rfl
    have hra : Int64.InRange (row.amountUsed + d) := by constructor <;> omega
    obtain ⟨rfl, hfi⟩ := postConsumeDelta_eq_some hro (by omega) hra hch
    have hn : max (row.amountUsed + d) 0 = o.usedBefore + (pre + d) := by omega
    rw [hn] at hfi ⊢
    exact ⟨setUsed h hro (by omega) hbe hlt hfi, rfl⟩

theorem FundingBacked.rollback (h : FundingBacked o (pre + d) (ex + d) store fd) (hpr : 0 ≤ pre)
    (hd : 0 < d) (hro : rollbackFundingReserve d store fd = (fd', store')) :
    FundingBacked o pre ex store' fd' ∧ store'.tokenQuota = store.tokenQuota := by
  cases fd with
  | wallet csm =>
    simp only [rollbackFundingReserve, increaseUserQuota,
      quotaUpdate_of_nonneg (Int.le_of_lt hd)] at hro
    obtain ⟨rfl, rfl⟩ := Prod.mk.inj hro
    obtain ⟨hcs, hde⟩ := h
    refine ⟨⟨by omega, ?_⟩, rfl⟩
    change o.userQuota - (store.userQuota + d) = pre
    omega
  | subscription sub =>
    obtain ⟨row, hr, hus, hfi⟩ := row h
    have hbe := before_nonneg h
    have hsm := small h
    simp only [rollbackFundingReserve, postConsumeDelta_credit (id_pos h) hr
      hd (by omega) (by omega) hfi, getD_some] at hro
    obtain ⟨rfl, rfl⟩ := Prod.mk.inj hro
    have hn : row.amountUsed - d = o.usedBefore + pre := by omega
    rw [hn]
    exact ⟨setUsed h hr (by omega) hbe (by omega) (by omega), rfl⟩

theorem reserveToken_eq_some (hd : 0 < d) (h : reserveToken inf fts d store = some store') :
    store' = { store with
      tokenQuota := store.tokenQuota - if inf.isPlayground then 0 else d } := by
  unfold reserveToken at h
  split at h
  · rename_i hpl
    have hpl : inf.isPlayground = true := by
      rcases hpl with hle | hpl
      · omega
      · exact hpl
    cases h
    simp [hpl]
  · exact preConsumeTokenQuota_eq_some h

theorem FundingBacked.settle (h : FundingBacked o pre ex store fd) (hpr : 0 ≤ pre) (hd : d ≠ 0)
    (hra : Int64.InRange d)
    (hlt : ∀ sub, fd = .subscription sub →
      o.usedBefore + (pre + d) < 2 ^ 63) (hs : fd.settle fl d store = some store') :
    fundingDebit o fd store' = settledDebit o fd (pre + d) ∧
      store'.tokenQuota = store.tokenQuota := by
  cases fd with
  | wallet csm =>
    have hde := h.2
    simp only [Funding.settle, hd, if_false] at hs
    split at hs
    · obtain ⟨-, -, rfl⟩ := quotaUpdate_eq_some.mp hs
      refine ⟨?_, rfl⟩
      change o.userQuota - (store.userQuota - d) = pre + d
      omega
    obtain ⟨hno, -, rfl⟩ := quotaUpdate_eq_some.mp hs
    refine ⟨?_, rfl⟩
    change o.userQuota - (store.userQuota + Int64.wrap (-d)) = pre + d
    rw [Int64.wrap_neg_of_nonneg hra (by omega) hno]
    omega
  | subscription sub =>
    obtain ⟨row, hr, hus, -⟩ := row h
    have hbe := before_nonneg h
    have hlt := hlt sub rfl
    have hsum : Int64.InRange (row.amountUsed + d) := by
      unfold Int64.InRange at hra ⊢
      omega
    simp only [Funding.settle, hd, if_false] at hs
    obtain ⟨rfl, -⟩ := postConsumeDelta_eq_some hr hd hsum hs
    refine ⟨?_, rfl⟩
    simp only [fundingDebit, settledDebit, usedOf_of_find (Store.findSub_setUsed hr),
      withUsed_amountUsed]
    omega

theorem adjustToken_eq_some (hra : Int64.InRange d) (h : adjustToken inf fl d store = some store') :
    store' = { store with
      tokenQuota := store.tokenQuota - if inf.isPlayground then 0 else d } := by
  unfold adjustToken at h
  split at h
  · rename_i hpl
    cases h
    simp [hpl]
  rename_i hpl
  split at h
  · obtain ⟨-, -, rfl⟩ := quotaUpdate_eq_some.mp h
    simp [hpl]
  · obtain ⟨hno, -, rfl⟩ := quotaUpdate_eq_some.mp h
    rw [Int64.wrap_neg_of_nonneg hra (by omega) hno]
    simp [hpl, Int.sub_eq_add_neg]

theorem settledDebit_of_nonneg {aq : Int} (hbe : 0 ≤ o.usedBefore) (hac : 0 ≤ aq) :
    settledDebit o fd aq = aq := by
  cases fd with
  | wallet csm => rfl
  | subscription sub =>
    simp only [settledDebit]
    omega

theorem FundingBacked.settledDebit_of_nonneg (h : FundingBacked o pre ex store fd) (hac : 0 ≤ aq) :
    settledDebit o fd aq = aq := by
  cases fd with
  | wallet csm => rfl
  | subscription sub => exact Billing.settledDebit_of_nonneg (before_nonneg h) hac

theorem SubscriptionBacked.refund
    (h : SubscriptionBacked o sub pre ex store.subs) (hex : 0 ≤ ex) (now : Int) :
    ∃ row, findSub (Funding.refund now store (.subscription sub)).subs.subs sub.subscriptionId =
        some row ∧ row.amountUsed = o.usedBefore + ex ∧
      (row.amountTotal > 0 → row.amountUsed ≤ row.amountTotal) := by
  obtain ⟨row, hr, hus, hfi⟩ := h.row
  obtain ⟨record, hrc, hst, hpr, hs⟩ := h.record
  have hp := h.preConsumed_pos
  have hto := h.total
  have hpe := h.before_nonneg
  have hsm := h.small
  have hcr := postConsume_credit h.id_pos hr hp (by constructor <;> omega) hfi
  rw [max_eq_left (by omega)] at hcr
  have hre : (refundSubscriptionPreConsume sub.requestId now false store.subs).1.subs =
      saveSub (row.withUsed (row.amountUsed - sub.preConsumed)) store.subs.subs := by
    simp [refundSubscriptionPreConsume, h.request, hrc, hst, hpr, hs, Int.not_le.mpr hp, hcr]
  refine ⟨row.withUsed (row.amountUsed - sub.preConsumed), ?_, ?_, ?_⟩
  · simp only [Funding.refund, Int.not_le.mpr hp, if_false, hre]
    exact Store.findSub_setUsed hr
  · simp only [withUsed_amountUsed]
    omega
  · simp only [withUsed_amountUsed, withUsed_amountTotal]
    omega

theorem FundingBacked.refund (h : FundingBacked o pre ex store fd) (hpr : 0 ≤ pre) (hex : 0 ≤ ex)
    (job : RefundJob) (hfu : job.funding = fd) (hjo : job.extraReserved = ex) :
    fundingDebit o fd (job.refundExtra (fd.refund now store)) = 0 ∧
      (job.refundExtra (fd.refund now store)).tokenQuota = store.tokenQuota := by
  cases fd with
  | wallet csm =>
    obtain ⟨rfl, hde⟩ := h
    simp only [RefundJob.refundExtra, hfu, Funding.refund]
    split
    · exact ⟨by simp only [fundingDebit]; omega, rfl⟩
    rw [increaseUserQuota, quotaUpdate_of_nonneg hpr, getD_some]
    refine ⟨?_, rfl⟩
    change o.userQuota - (store.userQuota + csm) = 0
    omega
  | subscription sub =>
    obtain ⟨row, hr, hus, hfi⟩ := refund h hex now
    have hid := id_pos h
    have hbe := before_nonneg h
    have hsm := small h
    have hto := total h
    have hpp := preConsumed_pos h
    have ht : (Funding.refund now store (.subscription sub)).tokenQuota =
        store.tokenQuota := by
      simp only [Funding.refund]
      split <;> rfl
    simp only [RefundJob.refundExtra, hfu, hjo, gt_iff_lt, hid, and_true]
    split
    · rename_i hre
      rw [postConsumeDelta_credit hid hr hre (by omega) (by omega) hfi, getD_some]
      refine ⟨?_, ht⟩
      simp only [fundingDebit, usedOf_of_find (Store.findSub_setUsed hr), withUsed_amountUsed]
      omega
    · refine ⟨?_, ht⟩
      simp only [fundingDebit, usedOf_of_find hr]
      omega

end

/-! ## Calls on an open session -/

section

variable {inf : RelayInfo} {o : Opening} {s : BillingSession} {store store' : Store}

theorem reserve_of_closed (h : s.settled = true ∨ s.refunded = true) :
    s.reserve inf fts tq store = (s, store, true) := by
  unfold BillingSession.reserve
  rw [if_pos]
  tauto

theorem Held.reserve (h : Held inf o s store) (htg : Int64.InRange tq)
    (hlt : ∀ sub, s.funding = .subscription sub → o.usedBefore + tq < 2 ^ 63)
    (hr : s.reserve inf fts tq store = (s', store', done)) :
    Held inf o s' store' ∧ s'.settled = s.settled ∧ s'.refunded = s.refunded ∧
      s'.fundingSettled = s.fundingSettled := by
  have hpr := h.nonneg
  unfold BillingSession.reserve at hr
  dsimp only at hr
  split at hr
  · cases hr
    exact ⟨h, rfl, rfl, rfl⟩
  rename_i ho
  have hwr : Int64.wrap (tq - s.preConsumedQuota) =
      tq - s.preConsumedQuota := by
    apply Int64.wrap_of_inRange
    unfold Int64.InRange at htg ⊢
    omega
  rw [hwr] at hr
  have hd : 0 < tq - s.preConsumedQuota := by omega
  have hlt : ∀ sub, s.funding = .subscription sub →
      o.usedBefore + (s.preConsumedQuota + (tq - s.preConsumedQuota)) < 2 ^ 63 := by
    intro sub hsub
    have := hlt sub hsub
    omega
  generalize tq - s.preConsumedQuota = d at hr hd hlt
  split at hr
  · cases hr
    exact ⟨h, rfl, rfl, rfl⟩
  rename_i funding rese hfu
  obtain ⟨hba, ht⟩ := h.funding.reserve hpr hd hlt hfu
  have hhe := h.token
  unfold tokenDebit at hhe
  split at hr
  · -- the token could not be charged: the source is rolled back
    cases hro : rollbackFundingReserve d rese funding with
    | mk fd' rb =>
      obtain ⟨hbc, ht'⟩ := hba.rollback hpr hd hro
      rw [hro] at hr
      cases hr
      exact ⟨⟨hpr, h.tokenConsumed, h.extra_nonneg,
        by rw [tokenDebit, ht', ht]; exact hhe, hbc⟩, rfl, rfl, rfl⟩
  rename_i chd hch
  have hch := reserveToken_eq_some hd hch
  cases hr
  have hcs := h.tokenConsumed
  have hex := h.extra_nonneg
  refine ⟨⟨?_, ?_, ?_, ?_, ?_⟩, rfl, rfl, rfl⟩
  · change 0 ≤ s.preConsumedQuota + d
    omega
  · change s.tokenConsumed + d = s.preConsumedQuota + d
    omega
  · change 0 ≤ s.extraReserved + d
    omega
  · rw [hch]
    change o.tokenQuota - (rese.tokenQuota - if inf.isPlayground then 0 else d) =
      if inf.isPlayground then 0 else s.preConsumedQuota + d
    split at hhe
    · rename_i hpl
      rw [if_pos hpl, if_pos hpl]
      omega
    · rename_i hpl
      rw [if_neg hpl, if_neg hpl]
      omega
  · exact hba.congr (by rw [hch]) (by rw [hch])

theorem Held.settle (h : Held inf o s store) (ho : s.settled = false)
    (hfu : s.fundingSettled = false)
    (hra : Int64.InRange (aq - s.preConsumedQuota))
    (hlt : ∀ sub, s.funding = .subscription sub → o.usedBefore + aq < 2 ^ 63)
    (hs : s.settle inf fts aq store = (s', store', err)) :
    (err = some .funding ∧ s' = s ∧ store' = store) ∨
      (err ≠ some .funding ∧ s'.settled = true ∧ s'.refunded = s.refunded ∧
        s'.funding = s.funding ∧
        fundingDebit o s.funding store' = settledDebit o s.funding aq ∧
        (inf.isPlayground = false → err ≠ some .token → tokenDebit o store' = aq)) := by
  have ht := h.token
  unfold BillingSession.settle at hs
  rw [Int64.wrap_of_inRange hra] at hs
  simp only [ho, hfu, Bool.false_eq_true, if_false] at hs
  split at hs
  · rename_i hz
    have hac : aq = s.preConsumedQuota := by omega
    cases hs
    refine .inr ⟨nofun, rfl, rfl, rfl, ?_, ?_⟩
    · rw [h.funding.settledDebit_of_nonneg (hac ▸ h.nonneg), h.funding.debit, hac]
    · intro hpl _
      rw [ht, hpl, hac]
      rfl
  rename_i hd
  split at hs
  · cases hs
    exact .inl ⟨rfl, rfl, rfl⟩
  rename_i sett hse
  have hac : s.preConsumedQuota + (aq - s.preConsumedQuota) = aq := by omega
  obtain ⟨hde, hk⟩ := h.funding.settle h.nonneg hd hra (hac.symm ▸ hlt) hse
  rw [hac] at hde
  split at hs
  · -- the token could not be adjusted, the funding source is settled all the same
    cases hs
    exact .inr ⟨nofun, rfl, rfl, rfl, hde, fun _ her => absurd rfl her⟩
  rename_i adju had
  have had := adjustToken_eq_some hra had
  cases hs
  refine .inr ⟨nofun, rfl, rfl, rfl, ?_, ?_⟩
  · exact (fundingDebit_congr (by rw [had]) (by rw [had])).trans hde
  · intro hpl _
    simp only [tokenDebit, had, hpl, hk, Bool.false_eq_true, if_false] at ht ⊢
    omega

theorem Held.refund (h : Held inf o s store) {job : RefundJob} (now : Int)
    (hjob : job = { tokenConsumed := s.tokenConsumed, extraReserved := s.extraReserved
                    isPlayground := inf.isPlayground, funding := s.funding }) :
    fundingDebit o s.funding (job.run now store) = 0 ∧ tokenDebit o (job.run now store) = 0 := by
  have htok := h.token
  have hcsm := h.tokenConsumed
  have hpre := h.nonneg
  obtain ⟨hdeb, hkept⟩ := h.funding.refund hpre h.extra_nonneg job (by rw [hjob]) (by rw [hjob])
  have hfund : job.funding = s.funding := by rw [hjob]
  unfold RefundJob.run
  dsimp only
  rw [hfund]
  split
  · rename_i hback
    rw [increaseTokenQuota, quotaUpdate_of_nonneg (by omega), getD_some]
    refine ⟨(fundingDebit_congr rfl rfl).trans hdeb, ?_⟩
    have hplay : inf.isPlayground = false := by simpa [hjob] using hback.2
    have hamt : job.tokenConsumed = s.tokenConsumed := by rw [hjob]
    simp only [tokenDebit, hkept, hplay, Bool.false_eq_true, if_false] at htok ⊢
    omega
  rename_i hback
  refine ⟨hdeb, ?_⟩
  simp only [tokenDebit, hkept] at htok ⊢
  rw [htok]
  split
  · rfl
  · rename_i hplay
    have hnone : ¬ s.tokenConsumed > 0 := fun hpos => hback (by rw [hjob]; exact ⟨hpos, hplay⟩)
    omega

end

/-! ## Opening a session -/

/-- A user's store before a session: keys are distinct and positive, no usage is negative, and the
request id is new. -/
structure StoreOk (info : RelayInfo) (store : Store) : Prop where
  ids : (store.subs.subs.map UserSubscription.id).Nodup
  pos : ∀ row ∈ store.subs.subs, 0 < row.id
  used : ∀ row ∈ store.subs.subs, 0 ≤ row.amountUsed
  fresh : findRecord store.subs.records info.requestId = none

/-- A quota can be added to every used amount; a subscription is charged at least one. -/
def Store.HasRoom (store : Store) (quota : Int) : Prop :=
  ∀ row ∈ store.subs.subs, row.amountUsed + max quota 1 < 2 ^ 63
  deriving Decidable

section

variable {env : BillingEnv} {inf : RelayInfo} {store : Store}
  {s : BillingSession}

theorem StoreOk.usedBefore_nonneg {start : Store} (h : StoreOk inf start) (env : BillingEnv)
    (session : BillingSession) : 0 ≤ (opening env start session).usedBefore := by
  cases hfunding : session.funding with
  | wallet consumed => simp [opening, hfunding]
  | subscription sub =>
    simp only [opening, hfunding]
    unfold usedBefore usedOf
    split
    · exact le_rfl
    split
    · exact le_rfl
    · rename_i row hrow
      exact h.used row (Table.get?_mem hrow)

theorem Store.HasRoom.usedBefore_lt {start : Store} {quota : Int} (h : start.HasRoom quota)
    (hquota : quota < 2 ^ 63) (env : BillingEnv) (session : BillingSession) :
    (opening env start session).usedBefore + quota < 2 ^ 63 := by
  have hzero : (0 : Int) + quota < 2 ^ 63 := by omega
  cases hfunding : session.funding with
  | wallet consumed => simpa only [opening, hfunding] using hzero
  | subscription sub =>
    simp only [opening, hfunding]
    unfold usedBefore usedOf
    split
    · exact hzero
    split
    · exact hzero
    · rename_i row hrow
      have := h row (Table.get?_mem hrow)
      omega

theorem SubscriptionBacked.of_charged {sub : SubscriptionFunding} {db : Tables}
    {res : PreConsumeResult} (hs0 : StoreOk inf s0) (hre : sub.requestId = inf.requestId)
    (hro : ∀ row ∈ s0.subs.subs, row.amountUsed + sub.amount < 2 ^ 63)
    (hcg : preConsumeUserSubscription env.usage sub.requestId sub.userId env.now sub.amount
      s0.subs = .ok (db, res)) {o : Opening}
    (ho : o.usedBefore = usedBefore env s0 { sub with subscriptionId := res.userSubscriptionId }) :
    SubscriptionBacked o
      { sub with
        subscriptionId := res.userSubscriptionId
        preConsumed := res.preConsumed
        amountTotal := res.amountTotal
        amountUsedAfter := res.amountUsedAfter } sub.amount 0 db := by
  obtain ⟨ham, ⟨exis, hex, -⟩ | ⟨hn, hch⟩⟩ := preConsume_spec hs0.ids hcg
  · -- the request id is new, so the charge is not a repetition
    rw [hre, hs0.fresh] at hex
    cases hex
  obtain ⟨old, hol, hbe, hfi⟩ := hch.charged
  obtain ⟨row, hr, hto, hus⟩ := hch.rows _ old hol
  have hid : old.id = res.userSubscriptionId := Table.get?_key hol
  have hpr : o.usedBefore = res.amountUsedBefore := by
    rw [ho, usedBefore, usedOf_of_find hol, ← hbe, resetUsed, hid]
  have hno := hs0.used old (Table.get?_mem hol)
  have hlt := hro old (Table.get?_mem hol)
  have hbd : 0 ≤ res.amountUsedBefore ∧ res.amountUsedBefore ≤ old.amountUsed := by
    rw [← hbe, resetUsed]
    split <;> omega
  rw [if_pos rfl, hch.used, Int64.wrap_of_inRange (by constructor <;> omega), ← hpr] at hus
  rw [← hpr, ← hus, ← hto] at hfi
  refine ⟨?_, ?_, ?_, ?_, by omega, by omega, ⟨row, hr, hus, hfi⟩,
    ⟨{ requestId := sub.requestId, userId := sub.userId, preConsumed := sub.amount
       userSubscriptionId := res.userSubscriptionId, updatedAt := env.now },
      ?_, rfl, hch.preConsumed.symm, rfl⟩⟩
  · have hp := hs0.pos old (Table.get?_mem hol)
    rwa [(Table.get?_key hol : old.id = res.userSubscriptionId)] at hp
  · intro hem
    simp only [preConsumeUserSubscription, hem] at hcg
    split at hcg
    · cases hcg
    · simp at hcg
  · rw [hch.preConsumed]
    exact ham
  · rw [hch.preConsumed, Int.add_zero]
  · rw [hch.records]
    unfold findRecord Table.get? at hn ⊢
    rw [List.find?_append, hn]
    simp

theorem held_of_tryWallet (hq : 0 ≤ q) (h : tryWallet env inf inp q s0 = (store, .ok s)) :
    Held inf (opening env s0 s) s store := by
  unfold tryWallet at h
  split at h
  · cases (Prod.mk.inj h).2
  split at h
  · cases (Prod.mk.inj h).2
  split at h
  · cases (Prod.mk.inj h).2
  rename_i uq _ _ _
  obtain ⟨funding, hfu, rfl⟩ := preConsume_ok rfl h
  have hef : 0 ≤ effectiveQuota env inf uq q (.wallet 0) := by
    unfold effectiveQuota
    split <;> omega
  generalize effectiveQuota env inf uq q (.wallet 0) = eff at hfu hef
  rw [max_eq_left hef] at hfu ⊢
  have hde : ∀ paid : Int, paid = (if inf.isPlayground then 0 else eff) →
      s0.tokenQuota - (s0.tokenQuota - paid) =
        if inf.isPlayground then 0 else eff := by
    intro paid hpa
    omega
  simp only [Funding.preConsume] at hfu
  split at hfu
  · -- the wallet is not touched for an amount of zero
    obtain ⟨rfl, rfl⟩ := Prod.mk.inj (Except.ok.inj hfu)
    have hz : eff = 0 := by omega
    refine ⟨hef, rfl, Int.le_refl 0, hde _ rfl, hz.symm, ?_⟩
    change s0.userQuota - s0.userQuota = eff
    omega
  split at hfu
  · cases hfu
  rename_i chd hch
  obtain ⟨rfl, rfl⟩ := Prod.mk.inj (Except.ok.inj hfu)
  obtain ⟨-, -, rfl⟩ := quotaUpdate_eq_some.mp hch
  refine ⟨hef, rfl, Int.le_refl 0, hde _ rfl, rfl, ?_⟩
  change s0.userQuota - (s0.userQuota - eff) = eff
  omega

theorem held_of_trySubscription (hstart : StoreOk inf s0) (hroom : s0.HasRoom q)
    (h : trySubscription env inf inp q s0 = (store, .ok s)) :
      Held inf (opening env s0 s) s store := by
  unfold trySubscription at h
  have hpos : 0 < if q ≤ 0 then 1 else q := by split <;> omega
  have hadd : ∀ row ∈ s0.subs.subs, row.amountUsed + (if q ≤ 0 then 1 else q) < 2 ^ 63 := by
    intro row hrow
    have := hroom row hrow
    split <;> omega
  generalize (if q ≤ 0 then 1 else q) = subConsume at h hpos hadd
  have heffective : ∀ sub, effectiveQuota env inf 0 subConsume (.subscription sub) =
      subConsume := by
    simp [effectiveQuota, shouldTrust]
  obtain ⟨funding, hfunding, rfl⟩ := preConsume_ok (heffective _) h
  rw [max_eq_left (Int.le_of_lt hpos)] at hfunding ⊢
  simp only [Funding.preConsume] at hfunding
  split at hfunding
  · cases hfunding
  split at hfunding
  · cases hfunding
  rename_i db result hcharge
  obtain ⟨rfl, rfl⟩ := Prod.mk.inj (Except.ok.inj hfunding)
  refine ⟨Int.le_of_lt hpos, rfl, Int.le_refl 0, ?_, ?_⟩
  · change s0.tokenQuota - (s0.tokenQuota - if inf.isPlayground then 0 else subConsume) =
      if inf.isPlayground then 0 else subConsume
    omega
  · exact @SubscriptionBacked.of_charged env inf s0
      { requestId := inf.requestId, userId := inf.userId, amount := subConsume }
      db result hstart rfl hadd hcharge _ rfl

theorem held_of_open (hq : 0 ≤ q) (hs0 : StoreOk inf s0) (hro : s0.HasRoom q)
    (h : newBillingSession env inf inp q s0 = (store, .ok s)) :
    Held inf (opening env s0 s) s store := by
  rcases newBillingSession_eq_ok h with h | h
  · exact held_of_tryWallet hq h
  · exact held_of_trySubscription hs0 hro h

end

/-! ## An example request -/

def exampleStore : Store where
  userQuota := 1000
  tokenQuota := 500
  subs := { subs := [{ id := 1, userId := 7, planId := 1, amountTotal := 0, endTime := 2000 }] }

def exampleEnv : BillingEnv where
  usage :=
    { calendar := plainCalendar
      plans := fun id => some { id }
      fuel := 0 }
  now := 1000
  trustQuota := 0

def exampleRequest (billingPreference : BillingPreference) : RelayInfo where
  userId := 7
  requestId := "r1"
  billingPreference := billingPreference

theorem exampleStore_ok (pref : BillingPreference) :
    StoreOk (exampleRequest pref) exampleStore := by
  refine ⟨?_, ?_, ?_, rfl⟩ <;> simp [exampleStore]

def exampleInput : OpenInput where
  userQuota := some 1000
  hasActiveSubscription := some true

end NewApi.Billing
