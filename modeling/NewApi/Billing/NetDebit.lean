import NewApi.Billing.Account
import NewApi.Lib.Transition

/-!
# The net debit of a billing session

A session receives any sequence of `Reserve`, `Settle` and `Refund` calls, with the goroutine of a
refund running at any later time. `session_net_debit`: in the end the settled amount is lost, or
nothing after a refund.
-/

namespace NewApi.Billing

open Lib BillingSession

/-! ## The calls of a session -/

inductive SessionAction where
  | reserve (faults : Faults) (targetQuota : Int)
  | settle (faults : Faults) (actualQuota : Int)
  | refund
  | runRefund (now : Int)

/-- A session with its stores. `settledWith` is the amount of the first settlement that was
committed, with a flag for its token adjustment; `reservedSince` is what was reserved after the
last call of `Refund`. -/
structure SessionState where
  session : BillingSession
  store : Store
  job : Option RefundJob := none
  settledWith : Option (Int × Bool) := none
  refundCalled : Bool := false
  reservedSince : Int := 0
  deriving DecidableEq

/-- The state after a call of `Reserve`. -/
def SessionState.afterReserve (s : SessionState) (outcome : BillingSession × Store × Bool) :
    SessionState :=
  { s with
    session := outcome.1
    store := outcome.2.1
    reservedSince := s.reservedSince +
      (outcome.1.preConsumedQuota - s.session.preConsumedQuota) }

/-- The state after a call of `Settle`. -/
def SessionState.afterSettle (s : SessionState) (actualQuota : Int)
    (outcome : BillingSession × Store × Option SettleError) : SessionState :=
  { s with
    session := outcome.1
    store := outcome.2.1
    settledWith := s.settledWith.or
      (if outcome.1.settled then some (actualQuota, outcome.2.2 != some .token) else none) }

/-- The state after a call of `Refund`. -/
def SessionState.afterRefund (s : SessionState) (outcome : BillingSession × Option RefundJob) :
    SessionState :=
  { s with
    session := outcome.1
    job := s.job.or outcome.2
    refundCalled := true
    reservedSince := 0 }

def sessionSystem (info : RelayInfo) : System SessionState SessionAction where
  step s
    | .reserve faults targetQuota =>
      some (s.afterReserve (s.session.reserve info faults targetQuota s.store))
    | .settle faults actualQuota =>
      some (s.afterSettle actualQuota (s.session.settle info faults actualQuota s.store))
    | .refund => some (s.afterRefund (s.session.refund info))
    | .runRefund now =>
      s.job.map fun job => { s with store := job.run now s.store, job := none }

/-- The used amount of the session's subscription does not overflow if a quota takes the place of
what was pre-consumed. -/
def SessionState.HasRoom (s : SessionState) (quota : Int) : Prop :=
  ∀ row ∈ Subscriptions.findSub s.store.subs.subs s.session.funding.subscriptionId,
    row.amountUsed + (quota - s.session.preConsumedQuota) < 2 ^ 63
  deriving Decidable

/-- `Settle` is not called after `Refund`, the arguments are values of `int` whose difference to the
amount taken is one, too, and no used amount overflows. -/
def CallOk (s : SessionState) : SessionAction → Prop
  | .reserve _ targetQuota => Int64.InRange targetQuota ∧ s.HasRoom targetQuota
  | .settle _ actualQuota =>
    s.refundCalled = false ∧ Int64.InRange (actualQuota - s.session.preConsumedQuota) ∧
      s.HasRoom actualQuota
  | .refund => True
  | .runRefund _ => True

/-- `CallOk` is decidable by comparisons. -/
instance (s : SessionState) (action : SessionAction) : Decidable (CallOk s action) := by
  delta CallOk
  split <;> infer_instance

/-! ## The phases of a session -/

inductive SessionInv (info : RelayInfo) (o : Opening) (s : SessionState) : Prop where
  | held (hsettled : s.session.settled = false) (hfunding : s.session.fundingSettled = false)
      (hrefunded : s.session.refunded = false) (hwith : s.settledWith = none)
      (hjob : s.job = none) (hheld : Held info o s.session s.store)
      (hreserved : s.refundCalled = true → s.reservedSince = s.session.preConsumedQuota)
  | settled (actualQuota : Int) (tokenAdjusted : Bool) (hsettled : s.session.settled = true)
      (hrefunded : s.session.refunded = false)
      (hwith : s.settledWith = some (actualQuota, tokenAdjusted)) (hjob : s.job = none)
      (hdebit : fundingDebit o s.session.funding s.store =
        settledDebit o s.session.funding actualQuota)
      (htoken : info.isPlayground = false → tokenAdjusted = true →
        tokenDebit o s.store = actualQuota)
  | refunding (hsettled : s.session.settled = false) (hrefunded : s.session.refunded = true)
      (hwith : s.settledWith = none)
      (hjob : s.job = some
        { tokenConsumed := s.session.tokenConsumed
          extraReserved := s.session.extraReserved
          isPlayground := info.isPlayground
          funding := s.session.funding })
      (hheld : Held info o s.session s.store) (hcalled : s.refundCalled = true)
      (hreserved : s.reservedSince = 0)
  | refunded (hsettled : s.session.settled = false) (hrefunded : s.session.refunded = true)
      (hwith : s.settledWith = none) (hjob : s.job = none)
      (hdebit : fundingDebit o s.session.funding s.store = 0) (htoken : tokenDebit o s.store = 0)
      (hcalled : s.refundCalled = true) (hreserved : s.reservedSince = 0)

open SessionState

section

variable {info : RelayInfo} {o : Opening} {s' : SessionState}

theorem SessionState.HasRoom.usedBefore_lt {s : SessionState} {quota : Int} (h : s.HasRoom quota)
    (hheld : Held info o s.session s.store) (sub : SubscriptionFunding)
    (hsub : s.session.funding = .subscription sub) : o.usedBefore + quota < 2 ^ 63 := by
  have hbacked := hheld.funding
  unfold HasRoom at h
  rw [hsub] at hbacked h
  obtain ⟨row, hrow, hused, -⟩ := SubscriptionBacked.row hbacked
  have := h row hrow
  omega

theorem SessionInv.reserve (hi : SessionInv info o s) (hok : CallOk s (.reserve fts tq))
    (hst : (sessionSystem info).step s (.reserve fts tq) = some s') : SessionInv info o s' := by
  obtain rfl := Option.some.inj hst
  have hcl : s.session.settled = true ∨ s.session.refunded = true →
      s.session.reserve info fts tq s.store = (s.session, s.store, true) :=
    reserve_of_closed
  cases hi with
  | held hs hfu hre hwi hjo hhe hr =>
    cases hrs : s.session.reserve info fts tq s.store with
    | mk ses rs =>
      obtain ⟨hhe', hs', hre', hfu'⟩ := hhe.reserve hok.1 (hok.2.usedBefore_lt hhe) hrs
      refine .held (hs'.trans hs) (hfu'.trans hfu) (hre'.trans hre) hwi hjo hhe' ?_
      intro hca
      have hpr := hr hca
      change s.reservedSince + (ses.preConsumedQuota - s.session.preConsumedQuota) =
        ses.preConsumedQuota
      omega
  | settled aq ta hs hre hwi hjo hde ht =>
    rw [hcl (.inl hs)]
    exact .settled aq ta hs hre hwi hjo hde ht
  | refunding hs hre hwi hjo hhe hca hr =>
    rw [hcl (.inr hre)]
    exact .refunding hs hre hwi hjo hhe hca (by simp [afterReserve, hr])
  | refunded hs hre hwi hjo hde ht hca hr =>
    rw [hcl (.inr hre)]
    exact .refunded hs hre hwi hjo hde ht hca (by simp [afterReserve, hr])

theorem SessionInv.settle (hi : SessionInv info o s) (hok : CallOk s (.settle fts aq))
    (hst : (sessionSystem info).step s (.settle fts aq) = some s') : SessionInv info o s' := by
  obtain ⟨hno, hra, hro⟩ := hok
  obtain rfl := Option.some.inj hst
  cases hi with
  | held hs hfu hre hwi hjo hhe hr =>
    cases hse : s.session.settle info fts aq s.store with
    | mk ses rs =>
      obtain ⟨store, err⟩ := rs
      rcases hhe.settle hs hfu hra (hro.usedBefore_lt hhe) hse with
        ⟨-, rfl, rfl⟩ | ⟨-, hs', hre', hfu', hde, ht⟩
      · refine .held hs hfu hre ?_ hjo hhe hr
        simp [afterSettle, hwi, hs]
      refine .settled aq (err != some .token) hs' (hre'.trans hre) ?_ hjo ?_ ?_
      · simp [afterSettle, hwi, hs']
      · change fundingDebit o ses.funding store = settledDebit o ses.funding aq
        rw [hfu']
        exact hde
      · intro hpl had
        exact ht hpl (bne_iff_ne.mp had)
  | settled sq ta hs hre hwi hjo hde ht =>
    have hse : s.session.settle info fts aq s.store =
        (s.session, s.store, none) := by
      simp [settle, hs]
    rw [hse]
    exact .settled sq ta hs hre (by simp [afterSettle, hwi]) hjo hde ht
  | refunding hs hre hwi hjo hhe hca hr | refunded hs hre hwi hjo hde ht hca hr =>
    exact absurd hca (by simp [hno])

theorem refund_of_closed {ses : BillingSession} (h : ses.settled = true ∨ ses.refunded = true) :
    ses.refund info = (ses, none) := by
  unfold refund
  rw [if_pos (by tauto)]

theorem SessionInv.refund (hi : SessionInv info o s)
    (hst : (sessionSystem info).step s .refund = some s') : SessionInv info o s' := by
  obtain rfl := Option.some.inj hst
  cases hi with
  | held hs hfu hre hwi hjo hhe hr =>
    cases hne : s.session.needsRefund with
    | true =>
      have hrf : ¬ (s.session.settled = true ∨ s.session.refunded = true ∨
          ¬ s.session.needsRefund = true) := by
        simp [hs, hre, hne]
      simp only [refund, hrf, if_false]
      exact .refunding hs rfl hwi (by simp [afterRefund, hjo])
        ⟨hhe.nonneg, hhe.tokenConsumed, hhe.extra_nonneg, hhe.token, hhe.funding⟩
        rfl rfl
    | false =>
      -- the session stays open, and later reservations are not given back
      have hno : s.session.preConsumedQuota = 0 := by
        have hta := hhe.tokenConsumed
        have hnn := hhe.nonneg
        simp only [needsRefund, hs, hre, hfu, Bool.or_self,
          Bool.not_false, Bool.true_and, Bool.or_eq_false_iff, decide_eq_false_iff_not]
          at hne
        omega
      have hrf : s.session.refund info = (s.session, none) := by
        unfold refund
        rw [if_pos (by simp [hne])]
      rw [hrf]
      exact .held hs hfu hre hwi
        (by simp [afterRefund, hjo]) hhe
        (fun _ => hno.symm)
  | settled aq ta hs hre hwi hjo hde ht =>
    rw [refund_of_closed (.inl hs)]
    exact .settled aq ta hs hre hwi
      (by simp [afterRefund, hjo]) hde
      ht
  | refunding hs hre hwi hjo hhe hca hr =>
    rw [refund_of_closed (.inr hre)]
    exact .refunding hs hre hwi (by simp [afterRefund, hjo]) hhe rfl rfl
  | refunded hs hre hwi hjo hde ht hca hr =>
    rw [refund_of_closed (.inr hre)]
    exact .refunded hs hre hwi (by simp [afterRefund, hjo]) hde ht rfl rfl

theorem SessionInv.runRefund (hi : SessionInv info o s)
    (hs : (sessionSystem info).step s (.runRefund now) = some s') : SessionInv info o s' := by
  obtain ⟨job, hjo, rfl⟩ := Option.map_eq_some_iff.mp hs
  cases hi with
  | held _ _ _ _ hn _ _ | settled _ _ _ _ _ hn _ _ | refunded _ _ _ hn _ _ _ _ => simp [hn] at hjo
  | refunding hse hre hwi hst hhe hca hr =>
    rw [hst] at hjo
    obtain ⟨hde, ht⟩ := hhe.refund now (Option.some.inj hjo).symm
    exact .refunded hse hre hwi rfl hde ht hca hr

theorem SessionInv.step (hi : SessionInv info o s) (hok : CallOk s act)
    (hs : (sessionSystem info).step s act = some s') : SessionInv info o s' := by
  cases act with
  | reserve fts tq => exact hi.reserve hok hs
  | settle fts aq => exact hi.settle hok hs
  | refund => exact hi.refund hs
  | runRefund now => exact hi.runRefund hs

end

/-! ## Runs -/

/-- For every session opened for a non-negative amount and every sequence of calls, once no refund
is running: the source has lost the amount of the first settlement that was committed, if it is not
negative or the source is a wallet, and so has the token if its adjustment did not fail; after a
`Refund` without a settlement both have lost what was reserved since, which is nothing unless the
refund found nothing to give back; and a settlement and a refund are never both applied. -/
theorem session_net_debit {env : BillingEnv} {info : RelayInfo} {input : OpenInput} {quota : Int}
    {start store : Store} {session : BillingSession} {actions : List SessionAction}
    {final : SessionState} (hquota : 0 ≤ quota) (hstart : StoreOk info start)
    (hroom : start.HasRoom quota)
    (hopen : newBillingSession env info input quota start = (store, .ok session))
    (hok : (sessionSystem info).Guarded CallOk { session, store } actions)
    (hrun : (sessionSystem info).run { session, store } actions = some final)
    (hidle : final.job = none) :
    (∀ actualQuota tokenAdjusted, final.settledWith = some (actualQuota, tokenAdjusted) →
      fundingDebit (opening env start session) final.session.funding final.store =
        settledDebit (opening env start session) final.session.funding actualQuota ∧
      (0 ≤ actualQuota → settledDebit (opening env start session) final.session.funding
        actualQuota = actualQuota) ∧
      (info.isPlayground = false → tokenAdjusted = true →
        tokenDebit (opening env start session) final.store = actualQuota)) ∧
    (final.settledWith = none → final.refundCalled = true →
      fundingDebit (opening env start session) final.session.funding final.store =
        final.reservedSince ∧
      (info.isPlayground = false →
        tokenDebit (opening env start session) final.store = final.reservedSince) ∧
      (final.session.refunded = true → final.reservedSince = 0)) ∧
    ¬ (final.settledWith.isSome ∧ final.session.refunded = true) := by
  have hhe := held_of_open hquota hstart hroom hopen
  obtain ⟨hse, hfu, hre, -⟩ := newBillingSession_open hopen
  have hi := (sessionSystem info).guarded_run_preserves
    (SessionInv info (opening env start session))
    (fun _ _ _ hi hok hs => hi.step hok hs)
    (.held hse hfu hre rfl rfl hhe (fun h => by cases h)) hok hrun
  cases hi with
  | held hse hfu hre hwi hjo hhe hrs =>
    refine ⟨by simp [hwi], fun _ hca => ⟨?_, ?_, by simp [hre]⟩, by simp [hwi]⟩
    · rw [hhe.funding.debit, hrs hca]
    · intro hpl
      rw [hhe.token, hrs hca, hpl]
      rfl
  | settled actualQuota tokenAdjusted hse hre hwi hjo hde hto =>
    refine ⟨?_, by simp [hwi], by simp [hre]⟩
    intro actual adjusted hac
    rw [hwi] at hac
    cases hac
    exact ⟨hde, settledDebit_of_nonneg (hstart.usedBefore_nonneg env session), hto⟩
  | refunding _ _ _ hjo _ _ _ => simp [hidle] at hjo
  | refunded hse hre hwi hjo hde hto hca hrs =>
    exact ⟨by simp [hwi], fun _ _ => ⟨by rw [hde, hrs],
      fun _ => by rw [hto, hrs], fun _ => hrs⟩, by simp [hwi]⟩

def exampleDebits (preference : BillingPreference) (quota : Int) (actions : List SessionAction) :
    Option (Int × Int) :=
  let info := exampleRequest preference
  match newBillingSession exampleEnv info exampleInput quota exampleStore with
  | (_, .error _) => none
  | (store, .ok session) =>
    ((sessionSystem info).run { session, store } actions).map fun final =>
      let o := opening exampleEnv exampleStore session
      (fundingDebit o final.session.funding final.store, tokenDebit o final.store)

/-- A session is opened for 30, reserves up to 100, and is settled with 70: the wallet and the
token have lost 70. -/
theorem session_net_debit_example :
    exampleDebits .walletOnly 30 [.reserve {} 100, .settle {} 70, .refund] = some (70, 70) := by
  have hst := exampleStore_ok .walletOnly
  obtain ⟨hfu, -, hto⟩ := (@session_net_debit exampleEnv (exampleRequest .walletOnly)
    exampleInput 30 exampleStore _ _ [.reserve {} 100, .settle {} 70, .refund] _ (by decide) hst
    (by decide) rfl (by decide) rfl rfl).1 70 true rfl
  exact congrArg some (Prod.ext hfu (hto rfl rfl))

/-- A settlement of `-5` on a subscription that was charged 1 leaves a debit of 0, since the used
amount stops at zero; and a `Refund` that finds nothing to give back does not close the session,
so that a later reservation stays debited. -/
theorem negative_settlement_clamped_and_reserve_after_refund_kept :
    exampleDebits .subscriptionOnly 0 [.settle {} (-5)] = some (0, -5) ∧
    exampleDebits .walletOnly 0 [.refund, .reserve {} 100] = some (100, 100) := by
  decide

end NewApi.Billing
