import Mathlib.Algebra.BigOperators.Group.List.Basic
import NewApi.Lib.Transition
import NewApi.TopUps.Order

/-!
# Credits of top-up orders

Callbacks, expiries, failures and manual completions in any order, each with failing statements: an
order is credited at most once. Its status says whether it was only while no step is `Lost`.
-/

namespace NewApi.TopUps

open Lib List Lib.Table TopUp

/-! ## The system -/

/-- The tables, and the orders whose creating request is still running, as it holds them. -/
structure TopUpState where
  db : TopUpTables
  creating : List TopUp

def TopUpState.start (users : Int → Option User) : TopUpState where
  db := { orders := [], users, credits := [] }
  creating := []

/-- A step: an order is created, its request ends, a handler is called, or a user is deleted. -/
inductive TopUpAction where
  | createOrder (topUp : TopUp)
  | paymentCreated (tradeNo : String)
  | creationFailed (topUp : TopUp) (faults : TopUpFaults)
  | epayNotify (notification : EpayNotification) (faults : TopUpFaults)
  | fulfillOrder (referenceId customerId : String) (now : Int) (faults : TopUpFaults)
  | sessionAsyncPaymentFailed (referenceId : String) (faults : TopUpFaults)
  | sessionExpired (referenceId : String) (faults : TopUpFaults)
  | creemCheckoutCompleted (requestId orderType customerEmail : String) (now : Int)
      (faults : TopUpFaults)
  | waffoPayment (orderStatus merchantOrderId : String) (now : Int) (faults : TopUpFaults)
  | waffoPancakeCompleted (tradeNo : String) (now : Int) (faults : TopUpFaults)
  | binancePaySuccess (tradeNo : String) (now : Int) (faults : TopUpFaults)
  | adminCompleteTopUp (tradeNo : String) (now : Int) (faults : TopUpFaults)
  | deleteUser (id : Int)
  deriving DecidableEq

def PaymentProvider.StoresFailedCreation (provider : PaymentProvider) : Prop :=
  provider = .waffo ∨ provider = .waffoPancake ∨ provider = .binancePay
  deriving Decidable

/-- The tables after a call; a failed transaction is rolled back. -/
def TopUpTables.after (db : TopUpTables) : Except String TopUpTables → TopUpTables
  | .ok db' => db'
  | .error _ => db

def TopUpState.insert (s : TopUpState) (topUp : TopUp) : TopUpState where
  db := { s.db with orders := s.db.orders ++ [topUp] }
  creating := s.creating ++ [topUp]

def TopUpState.call (s : TopUpState) (db : TopUpTables) : TopUpState :=
  { s with db }

def TopUpState.endRequest (s : TopUpState) (tradeNo : String) : TopUpState :=
  { s with creating := s.creating.filter fun copy => copy.tradeNo ≠ tradeNo }

def TopUpTables.deleteUser (db : TopUpTables) (id : Int) : TopUpTables :=
  { db with users := Function.update db.users id none }

variable (quotaPerUnit qpu : ℚ)

def topUpStep (s : TopUpState) : TopUpAction → Option TopUpState
  | .createOrder topUp =>
    if topUp.tradeNo ∈ s.db.orders.map TopUp.tradeNo then none
    else some (s.insert { topUp with completeTime := 0, status := .pending })
  | .paymentCreated tradeNo => some (s.endRequest tradeNo)
  | .creationFailed topUp faults =>
    if topUp ∈ s.creating ∧ topUp.paymentProvider.StoresFailedCreation then
      some ((s.call (storeFailedCreation topUp faults s.db)).endRequest topUp.tradeNo)
    else none
  | .epayNotify notification faults =>
    some (s.call (epayNotify quotaPerUnit notification faults s.db))
  | .fulfillOrder referenceId customerId now faults =>
    some (s.call (s.db.after (recharge quotaPerUnit referenceId customerId now faults s.db)))
  | .sessionAsyncPaymentFailed referenceId faults =>
    some (s.call (sessionAsyncPaymentFailed referenceId faults s.db))
  | .sessionExpired referenceId faults =>
    some (s.call (s.db.after (sessionExpired referenceId faults s.db)))
  | .creemCheckoutCompleted requestId orderType customerEmail now faults =>
    some (s.call
      (s.db.after (handleCheckoutCompleted requestId orderType customerEmail now faults s.db)))
  | .waffoPayment orderStatus merchantOrderId now faults =>
    some (s.call
      (s.db.after (handleWaffoPayment quotaPerUnit orderStatus merchantOrderId now faults s.db)))
  | .waffoPancakeCompleted tradeNo now faults =>
    some (s.call (s.db.after (rechargeWaffoPancake quotaPerUnit tradeNo now faults s.db)))
  | .binancePaySuccess tradeNo now faults =>
    some (s.call (s.db.after (rechargeBinancePay quotaPerUnit tradeNo now faults s.db)))
  | .adminCompleteTopUp tradeNo now faults =>
    some (s.call (s.db.after (manualCompleteTopUp quotaPerUnit tradeNo now faults s.db)))
  | .deleteUser id => some (s.call (s.db.deleteUser id))

def topUpSystem : System TopUpState TopUpAction where
  step := topUpStep quotaPerUnit

/-- The step completes an order without a credit, or stores a failure over a completed one. -/
def Lost (s : TopUpState) : TopUpAction → Prop
  | .createOrder _ | .paymentCreated _ | .deleteUser _ => False
  | .sessionAsyncPaymentFailed _ _ | .sessionExpired _ _ => False
  | .creationFailed topUp _ =>
    ∃ stored ∈ Table.get? TopUp.tradeNo s.db.orders topUp.tradeNo, stored.status = .success
  | .epayNotify notification faults => EpayUnpaid quotaPerUnit notification faults s.db
  | .fulfillOrder referenceId _ _ _ => NoPayee s.db referenceId
  | .creemCheckoutCompleted requestId _ _ _ _ => NoPayee s.db requestId
  | .waffoPayment _ merchantOrderId _ _ => NoPayee s.db merchantOrderId
  | .waffoPancakeCompleted tradeNo _ _ => NoPayee s.db tradeNo
  | .binancePaySuccess tradeNo _ _ => NoPayee s.db tradeNo
  | .adminCompleteTopUp tradeNo _ _ => NoPayee s.db tradeNo

/-- Each case is a search of the order and finitely many comparisons. -/
instance (s : TopUpState) (action : TopUpAction) : Decidable (Lost quotaPerUnit s action) := by
  delta Lost
  split <;> infer_instance

/-! ## Invariants -/

def creditedTo (credits : List Credit) (id : Int) : ℚ :=
  ((credits.filter fun credit => credit.userId = id).map Credit.amount).sum

def creditCount (credits : List Credit) (tradeNo : String) : Nat :=
  (credits.map Credit.tradeNo).count tradeNo

structure CreditInv (start : Int → Option User) (db : TopUpTables) : Prop where
  keys : (db.orders.map TopUp.tradeNo).Nodup
  once : (db.credits.map Credit.tradeNo).Nodup
  origin : ∀ credit ∈ db.credits, ∃ topUp,
    Table.get? TopUp.tradeNo db.orders credit.tradeNo = some topUp ∧ topUp.status ≠ .pending ∧
      credit.userId = topUp.userId ∧ credit.source.MayCredit topUp
  quotas : ∀ id user, db.users id = some user → ∃ first, start id = some first ∧
    user.quota = first.quota + creditedTo db.credits id

def Settled (db : TopUpTables) : Prop :=
  ∀ tradeNo topUp, Table.get? TopUp.tradeNo db.orders tradeNo = some topUp →
    (topUp.status = .success ↔ tradeNo ∈ db.credits.map Credit.tradeNo)

section

variable {s0 : Int → Option User} {db db' : TopUpTables} {old new : TopUp} {lost : Prop}

theorem Replaces.get?_saveOrder (h : Replaces db old new) :
    get? tradeNo (db.saveOrder new).orders tno =
      if tno = new.tradeNo then some new
      else get? tradeNo db.orders tno := by
  unfold TopUpTables.saveOrder
  rw [get?_replace]
  split
  next htr =>
    rw [htr, h.found]
    have ho : old.tradeNo = new.tradeNo := get?_key h.found
    simp [ho]
  next htr =>
    cases hg : get? tradeNo db.orders tno with
    | none => rfl
    | some row =>
      have hr : row.tradeNo ≠ new.tradeNo := by rwa [get?_key hg]
      simp [hr]

theorem CreditInv.not_credited (hi : CreditInv s0 db) (hg : get? tradeNo db.orders tno = some old)
    (hpe : old.status = .pending) : tno ∉ db.credits.map Credit.tradeNo := by
  intro hm
  obtain ⟨credit, hcr, rfl⟩ := mem_map.mp hm
  obtain ⟨tu, hto, hst, -⟩ := hi.origin credit hcr
  rw [hg] at hto
  cases hto
  exact hst hpe

theorem CreditInv.saveOrder (hi : CreditInv s0 db) (hre : Replaces db old new)
    (hst : new.status ≠ .pending) : CreditInv s0 (db.saveOrder new) where
  keys := by
    unfold TopUpTables.saveOrder
    rw [map_key_replace]
    exact hi.keys
  once := hi.once
  origin := by
    intro crd hcr
    obtain ⟨tu, hg, hcl, hus, hsr⟩ := hi.origin crd hcr
    rw [hre.get?_saveOrder]
    split
    next htr =>
      -- the stored order is the same order of the same provider
      rw [htr, hre.found] at hg
      cases hg
      refine ⟨new, rfl, hst, ?_, ?_⟩
      · rw [hus, hre.userId]
      · unfold CreditSource.MayCredit
        rw [hre.paymentProvider]
        exact hsr
    · exact ⟨tu, hg, hcl, hus, hsr⟩
  quotas := hi.quotas

theorem creditedTo_append (id : Int) :
    creditedTo (crds ++ [crd]) id =
      creditedTo crds id + if crd.userId = id then crd.amount else 0 := by
  unfold creditedTo
  by_cases h : crd.userId = id <;> simp [h]

theorem CreditInv.addCredit (hi : CreditInv s0 db)
    (hfr : crd.tradeNo ∉ db.credits.map Credit.tradeNo)
    (hg : get? tradeNo db.orders crd.tradeNo = some tu) (hcl : tu.status ≠ .pending)
    (hui : crd.userId = tu.userId) (hsr : crd.source.MayCredit tu)
    (hus : db.users crd.userId = some user) (hq : row.quota = user.quota + crd.amount) :
    CreditInv s0 (db.addCredit crd row) where
  keys := hi.keys
  once := nodup_append_row hi.once hfr
  origin := by
    intro other hot
    rcases mem_append.mp hot with ho | hn
    · exact hi.origin other ho
    · cases mem_singleton.mp hn
      exact ⟨tu, hg, hcl, hui, hsr⟩
  quotas := by
    intro id cur hcu
    show ∃ first, s0 id = some first ∧ cur.quota = first.quota + creditedTo (db.credits ++ [crd]) id
    rw [creditedTo_append]
    by_cases hid : crd.userId = id
    · subst hid
      have hr : row = cur := by
        simpa [TopUpTables.addCredit] using hcu
      obtain ⟨first, hfi, hsu⟩ := hi.quotas _ user hus
      refine ⟨first, hfi, ?_⟩
      rw [if_pos rfl, ← hr, hq, hsu, add_assoc]
    have hs : db.users id = some cur := by
      simpa [TopUpTables.addCredit, Function.update_of_ne (Ne.symm hid)] using hcu
    rw [if_neg hid, add_zero]
    exact hi.quotas id cur hs

theorem CreditInv.effect (hi : CreditInv s0 db) (hef : OrderEffect lost db db') :
    CreditInv s0 db' := by
  cases hef with
  | kept => exact hi
  | closed hre _ hst =>
    refine hi.saveOrder hre ?_
    rcases hst with hst | hst <;> simp [hst]
  | @completed old new user row credit hre hpe hst htr hui hsr hus
      hquota =>
      have hcl : new.status ≠ .pending := by simp [hst]
      refine (hi.saveOrder hre hcl).addCredit ?_ ?_ hcl ?_ ?_ hus hquota
      · rw [htr]
        exact hi.not_credited hre.found hpe
      · rw [hre.get?_saveOrder, if_pos htr]
      · rw [hui, hre.userId]
      · unfold CreditSource.MayCredit
        rw [hre.paymentProvider]
        exact hsr
  | unpaid _ hre hst => exact hi.saveOrder hre (by simp [hst])
  | overwritten _ hre hst => exact hi.saveOrder hre (by simp [hst])

theorem Settled.effect (hs : Settled db) (hlo : ¬lost)
    (hef : OrderEffect lost db db') : Settled db' := by
  cases hef with
  | kept => exact hs
  | closed hre ho hst =>
    intro tno tu hg
    rw [hre.get?_saveOrder] at hg
    split at hg
    next htr =>
      cases hg
      subst htr
      refine iff_of_false ?_ (mt (hs _ _ hre.found).mpr ho)
      rcases hst with hst | hst <;> simp [hst]
    · exact hs tno tu hg
  | @completed old new user row crd hre hpe hst htr =>
    intro tno tu hg
    show tu.status = .success ↔ tno ∈ (db.credits ++ [crd]).map Credit.tradeNo
    rw [map_append, mem_append, map_singleton, mem_singleton, htr]
    replace hg : get? tradeNo (db.saveOrder new).orders tno = some tu := hg
    rw [hre.get?_saveOrder] at hg
    split at hg
    next hsa =>
      cases hg
      exact ⟨fun _ => .inr hsa, fun _ => hst⟩
    next hot =>
      rw [hs tno tu hg]
      exact ⟨.inl, fun h => h.resolve_right hot⟩
  | unpaid h | overwritten h => exact absurd h hlo

theorem OrderEffect.orders (hef : OrderEffect lost db db') :
    db'.orders = db.orders ∨
      ∃ old new, Replaces db old new ∧ db'.orders = (db.saveOrder new).orders := by
  cases hef with
  | kept => exact .inl rfl
  | closed hre | completed hre | unpaid _ hre | overwritten _ hre => exact .inr ⟨_, _, hre, rfl⟩

theorem Replaces.effect (hco : Replaces db std cp)
    (hef : OrderEffect lost db db') : ∃ std', Replaces db' std' cp := by
  rcases hef.orders with hor | ⟨old, new, hre, hor⟩
  · refine ⟨std, ?_, hco.userId, hco.paymentProvider⟩
    rw [hor]
    exact hco.found
  by_cases htr : cp.tradeNo = new.tradeNo
  · have hs : std = old := by
      have hfn := hco.found
      rw [htr, hre.found] at hfn
      exact (Option.some.inj hfn).symm
    subst hs
    refine ⟨new, ?_, ?_, ?_⟩
    · rw [hor, hre.get?_saveOrder, if_pos htr]
    · rw [hco.userId, hre.userId]
    · rw [hco.paymentProvider, hre.paymentProvider]
  · refine ⟨std, ?_, hco.userId, hco.paymentProvider⟩
    rw [hor, hre.get?_saveOrder, if_neg htr]
    exact hco.found

theorem OrderEffect.after (h : ∀ db', res = .ok db' → OrderEffect lost db db') :
    OrderEffect lost db (db.after res) := by
  cases res with
  | error e => exact .kept
  | ok db' => exact h db' rfl

end

/-! ## Steps -/

def Copies (s : TopUpState) : Prop :=
  ∀ copy ∈ s.creating, ∃ stored, Replaces s.db stored copy

section

variable {qpu : ℚ} {s0 : Int → Option User} {s next : TopUpState} {act : TopUpAction}

theorem topUpStep_cases (hco : Copies s) (h : topUpStep qpu s act = some next) :
    (OrderEffect (Lost qpu s act) s.db next.db ∧ next.creating ⊆ s.creating) ∨
      (∃ tu, tu.tradeNo ∉ s.db.orders.map tradeNo ∧ tu.status = .pending ∧ next = s.insert tu) ∨
      ∃ id, next = s.call (s.db.deleteUser id) := by
  cases act with
  | createOrder tu =>
    simp only [topUpStep] at h
    split at h
    · cases h
    next hfr =>
      cases h
      exact .inr (.inl ⟨{ tu with completeTime := 0, status := .pending }, hfr, rfl, rfl⟩)
  | paymentCreated tno =>
    cases h
    exact .inl ⟨.kept, filter_subset_self _⟩
  | creationFailed tu fts =>
    simp only [topUpStep] at h
    split at h
    next hcr =>
      cases h
      -- the copy is written over whatever has happened to the order since
      obtain ⟨stored, hre⟩ := hco tu hcr.1
      refine .inl ⟨?_, filter_subset_self _⟩
      have hlo : Lost qpu s (.creationFailed tu fts) ↔
          stored.status = .success := by
        simp [Lost, hre.found]
      rw [hlo]
      exact storeFailedCreation_effect hre
    · cases h
  | epayNotify ntf fts =>
    cases h
    exact .inl ⟨epayNotify_effect, List.Subset.refl _⟩
  | fulfillOrder ri ci now fts =>
    cases h
    exact .inl ⟨.after fun _ => recharge_effect, List.Subset.refl _⟩
  | sessionAsyncPaymentFailed ri fts =>
    cases h
    exact .inl ⟨sessionAsyncPaymentFailed_effect, List.Subset.refl _⟩
  | sessionExpired ri fts =>
    cases h
    exact .inl ⟨.after fun _ => updatePendingTopUpStatus_effect (.inr rfl), List.Subset.refl _⟩
  | creemCheckoutCompleted rid ot mail now fts =>
    cases h
    exact .inl ⟨.after fun _ => handleCheckoutCompleted_effect, List.Subset.refl _⟩
  | waffoPayment os moi now fts =>
    cases h
    exact .inl ⟨.after fun _ => handleWaffoPayment_effect, List.Subset.refl _⟩
  | waffoPancakeCompleted | binancePaySuccess =>
    cases h
    exact .inl ⟨.after fun _ => rechargeOnce_effect, List.Subset.refl _⟩
  | adminCompleteTopUp tno now fts =>
    cases h
    exact .inl ⟨.after fun _ => manualCompleteTopUp_effect, List.Subset.refl _⟩
  | deleteUser id =>
    cases h
    exact .inr (.inr ⟨id, rfl⟩)

theorem get?_insert (hfr : tu.tradeNo ∉ s.db.orders.map tradeNo) :
    get? tradeNo (s.insert tu).db.orders tno =
      if tno = tu.tradeNo then some tu
      else get? tradeNo s.db.orders tno := by
  show get? tradeNo (s.db.orders ++ [tu]) tno = _
  split
  next htr =>
    have hn := Table.get?_eq_none_iff.mpr hfr
    rw [htr]
    unfold get? at hn ⊢
    simp [find?_append, hn]
  next htr =>
    unfold get?
    simp [find?_append, Ne.symm htr]

theorem get?_insert_of_some (hfr : tu.tradeNo ∉ s.db.orders.map tradeNo)
    (hg : get? tradeNo s.db.orders tno = some std) :
    get? tradeNo (s.insert tu).db.orders tno = some std := by
  rw [get?_insert hfr, if_neg, hg]
  rintro rfl
  exact hfr (isSome_get?_iff.mp (by simp [hg]))

theorem CreditInv.insert (hi : CreditInv s0 s.db) (hfr : tu.tradeNo ∉ s.db.orders.map tradeNo) :
    CreditInv s0 (s.insert tu).db where
  keys := nodup_append_row hi.keys hfr
  once := hi.once
  origin := by
    intro crd hcr
    obtain ⟨stored, hg, hor⟩ := hi.origin crd hcr
    exact ⟨stored, get?_insert_of_some hfr hg, hor⟩
  quotas := hi.quotas

theorem CreditInv.deleteUser (hi : CreditInv s0 s.db) (id : Int) :
    CreditInv s0 (s.db.deleteUser id) where
  keys := hi.keys
  once := hi.once
  origin := hi.origin
  quotas := by
    intro other user hus
    refine hi.quotas other user ?_
    by_cases hid : other = id
    · subst hid
      simp [TopUpTables.deleteUser] at hus
    · simpa [TopUpTables.deleteUser, Function.update_of_ne hid] using hus

theorem Copies.step (hcp : Copies s) (h : topUpStep qpu s act = some next) : Copies next := by
  rcases topUpStep_cases hcp h with ⟨hef, hs⟩ | ⟨tu, hfr, -, rfl⟩ | ⟨id, rfl⟩
  · intro cp hco
    obtain ⟨stored, hst⟩ := hcp cp (hs hco)
    exact hst.effect hef
  · intro cp hco
    rcases mem_append.mp hco with ho | hn
    · obtain ⟨stored, hst⟩ := hcp cp ho
      exact ⟨stored, get?_insert_of_some hfr hst.found, hst.userId, hst.paymentProvider⟩
    · cases mem_singleton.mp hn
      exact ⟨tu, by rw [get?_insert hfr, if_pos rfl], rfl, rfl⟩
  · intro cp hco
    obtain ⟨stored, hst⟩ := hcp cp hco
    exact ⟨stored, hst.found, hst.userId, hst.paymentProvider⟩

theorem CreditInv.step (hi : CreditInv s0 s.db) (hco : Copies s)
    (h : topUpStep qpu s act = some next) : CreditInv s0 next.db := by
  rcases topUpStep_cases hco h with ⟨hef, -⟩ | ⟨tu, hfr, -, rfl⟩ | ⟨id, rfl⟩
  · exact hi.effect hef
  · exact hi.insert hfr
  · exact hi.deleteUser id

theorem Settled.step (hs : Settled s.db) (hi : CreditInv s0 s.db) (hco : Copies s)
    (hk : ¬Lost qpu s act) (h : topUpStep qpu s act = some next) : Settled next.db := by
  rcases topUpStep_cases hco h with ⟨hef, -⟩ | ⟨tu, hfr, hpe, rfl⟩ | ⟨id, rfl⟩
  · exact hs.effect hk hef
  · intro tno std hg
    rw [get?_insert hfr] at hg
    split at hg
    next htr =>
      -- a credit of the new order would belong to an order that exists already
      cases hg
      refine iff_of_false (by simp [hpe]) fun hm => ?_
      obtain ⟨credit, hcr, rfl⟩ := mem_map.mp hm
      obtain ⟨old, ho, -⟩ := hi.origin credit hcr
      exact hfr (htr ▸ isSome_get?_iff.mp (by simp [ho]))
    · exact hs tno std hg
  · exact hs

theorem copies_start : Copies (.start users) := by
  intro cp hco
  cases hco

theorem settled_start : Settled (TopUpState.start users).db := by
  intro tno tu hg
  cases hg

theorem creditInv_start : CreditInv users (TopUpState.start users).db where
  keys := .nil
  once := .nil
  origin := fun _ hm => by cases hm
  quotas := fun _ user hus => ⟨user, hus, by simp [creditedTo, TopUpState.start]⟩

end

/-! ## Runs -/

section

variable {quotaPerUnit qpu : ℚ} {users us : Int → Option User} {actions : List TopUpAction}
  {s : TopUpState}

theorem creditInv_of_run (hr : (topUpSystem qpu).run (.start us) actions = some s) :
    Copies s ∧ CreditInv us s.db := by
  refine (topUpSystem qpu).run_preserves (fun s => Copies s ∧ CreditInv us s.db) ?_ ?_ hr
  · intro s action next hi hs
    exact ⟨hi.1.step hs, hi.2.step hi.1 hs⟩
  · exact ⟨copies_start, creditInv_start⟩

theorem settled_of_run
    (hk : (topUpSystem qpu).Guarded (fun s action => ¬Lost qpu s action) (.start us) actions)
    (hr : (topUpSystem qpu).run (.start us) actions = some s) : Settled s.db := by
  -- the step needs the invariant of the credits as well
  have ha := (topUpSystem qpu).guarded_run_preserves
    (fun s => Copies s ∧ CreditInv us s.db ∧ Settled s.db) ?_ ?_ hk hr
  · exact ha.2.2
  · intro s action next hi hok hs
    obtain ⟨hco, hcr, hse⟩ := hi
    exact ⟨hco.step hs, hcr.step hco hs, hse.step hcr hco hok hs⟩
  · exact ⟨copies_start, creditInv_start, settled_start⟩

/-- After every run of callbacks, closings and manual completions, each with any statement
failing, an order has been credited at most once, to its user, by an admin or by a callback of its
own provider, and the quotas are those of the start with the credits. If no step loses a credit or
overwrites a completed order, the status is success exactly for the credited orders. -/
theorem orders_credited_once
    (hrun : (topUpSystem quotaPerUnit).run (.start users) actions = some s) :
    (∀ tradeNo, creditCount s.db.credits tradeNo ≤ 1) ∧
      (∀ credit ∈ s.db.credits, ∃ topUp,
        Table.get? TopUp.tradeNo s.db.orders credit.tradeNo = some topUp ∧
          credit.userId = topUp.userId ∧ credit.source.MayCredit topUp) ∧
      (∀ id user, s.db.users id = some user → ∃ first, users id = some first ∧
        user.quota = first.quota + creditedTo s.db.credits id) ∧
      ((topUpSystem quotaPerUnit).Guarded (fun s action => ¬Lost quotaPerUnit s action)
          (.start users) actions →
        ∀ topUp ∈ s.db.orders,
          topUp.status = .success ↔ creditCount s.db.credits topUp.tradeNo = 1) := by
  obtain ⟨-, hi⟩ := creditInv_of_run hrun
  refine ⟨fun tradeNo => nodup_iff_count_le_one.mp hi.once tradeNo, ?_, hi.quotas, ?_⟩
  · intro credit hcr
    obtain ⟨topUp, hg, -, hus, hso⟩ := hi.origin credit hcr
    exact ⟨topUp, hg, hus, hso⟩
  intro hk topUp hto
  have hg := get?_of_mem hi.keys hto
  rw [settled_of_run hk hrun topUp.tradeNo topUp hg]
  refine ⟨fun hm => count_eq_one_of_mem hi.once hm, fun hon => ?_⟩
  apply count_pos_iff.mp
  show 0 < creditCount s.db.credits topUp.tradeNo
  omega

end

def exampleUsers (id : Int) : Option User :=
  if id = 1 then some { quota := 100 } else none

def exampleOrder (tradeNo : String) (paymentProvider : PaymentProvider) : TopUp where
  tradeNo := tradeNo
  userId := 1
  amount := 2
  money := 2
  paymentMethod := ""
  paymentProvider := paymentProvider

def paidNotification (tradeNo : String) : EpayNotification where
  verifyStatus := true
  tradeSuccess := true
  serviceTradeNo := tradeNo
  type := "alipay"

def ordersInTurn : List TopUpAction :=
  [.createOrder (exampleOrder "e" .epay), .createOrder (exampleOrder "w" .waffo),
    .createOrder (exampleOrder "s" .stripe), .createOrder (exampleOrder "b" .binancePay),
    .fulfillOrder "e" "customer" 10 {}, .epayNotify (paidNotification "e") { save := true },
    .epayNotify (paidNotification "e") {}, .epayNotify (paidNotification "e") {},
    .waffoPayment "PAY_SUCCESS" "w" 11 { credit := true }, .waffoPayment "PAY_SUCCESS" "w" 12 {},
    .waffoPayment "PAY_SUCCESS" "w" 13 {}, .adminCompleteTopUp "s" 14 {}, .sessionExpired "s" {},
    .creationFailed (exampleOrder "b" .binancePay) {}, .binancePaySuccess "b" 15 {}]

def topUpOutcome (actions : List TopUpAction) :
    Option (List TopUpStatus × List (String × CreditSource)) :=
  ((topUpSystem 50).run (.start exampleUsers) actions).map fun s =>
    (s.db.orders.map TopUp.status, s.db.credits.map fun credit => (credit.tradeNo, credit.source))

/-- The three orders that were paid have one credit each, and the one that failed has none. -/
theorem ordersInTurn_credited :
    ∃ s, (topUpSystem 50).run (.start exampleUsers) ordersInTurn = some s ∧
      (∀ tradeNo, creditCount s.db.credits tradeNo ≤ 1) ∧
      (∀ topUp ∈ s.db.orders,
        topUp.status = .success ↔ creditCount s.db.credits topUp.tradeNo = 1) ∧
      topUpOutcome ordersInTurn = some ([.success, .success, .success, .failed],
        [("e", .callback .epay), ("w", .callback .waffo), ("s", .admin)]) := by
  obtain ⟨s, hs⟩ : ∃ s, (topUpSystem 50).run (.start exampleUsers) ordersInTurn = some s :=
    Option.isSome_iff_exists.mp (by decide +kernel)
  obtain ⟨hon, -, -, hst⟩ := orders_credited_once hs
  exact ⟨s, hs, hon, hst (by decide +kernel), by decide +kernel⟩

/-- The credit of an Epay notification fails: the order is completed, nobody is credited, and no
later notification or admin makes up for it. A Waffo order is paid and credited before its request
gives up on the creation: it is credited and failed. -/
theorem uncredited_success_and_credited_failure :
    topUpOutcome [.createOrder (exampleOrder "e" .epay),
      .epayNotify (paidNotification "e") { credit := true },
      .epayNotify (paidNotification "e") {}, .adminCompleteTopUp "e" 10 {}] =
        some ([.success], []) ∧
    topUpOutcome [.createOrder (exampleOrder "w" .waffo), .waffoPayment "PAY_SUCCESS" "w" 10 {},
      .creationFailed (exampleOrder "w" .waffo) {}] =
        some ([.failed], [("w", .callback .waffo)]) := by
  decide +kernel

end NewApi.TopUps
