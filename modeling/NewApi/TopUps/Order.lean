import Mathlib.Logic.Function.Basic
import NewApi.Lib.Int64
import NewApi.Lib.Outcome
import NewApi.Lib.Table

/-!
# Top-up orders

The orders of `model/topup.go` and the handlers that complete or close one. A completion is one
transaction, except in `epayNotify`. The calls for one order hold its lock, so each of them is one
step; `OrderEffect` lists what it can do.
-/

namespace NewApi.TopUps

open Lib

/-- The `payment_provider` column. Old orders have none. -/
inductive PaymentProvider where
  | epay
  | stripe
  | creem
  | waffo
  | waffoPancake
  | binancePay
  | other (text : String)
  deriving DecidableEq, Repr

/-- The `status` column. -/
inductive TopUpStatus where
  | pending
  | success
  | failed
  | expired
  deriving DecidableEq, Repr

/-- The trade number is unique, and stands for the primary key here. -/
structure TopUp where
  tradeNo : String
  userId : Int
  amount : Int
  money : ℚ
  paymentMethod : String
  paymentProvider : PaymentProvider
  createTime : Int := 0
  completeTime : Int := 0
  status : TopUpStatus := .pending
  deriving DecidableEq

/-- The columns of `users` that a completed order writes. -/
structure User where
  quota : ℚ
  email : String := ""
  stripeCustomer : String := ""
  deriving DecidableEq

/-- Who made a credit: a callback of a provider, or an admin. -/
inductive CreditSource where
  | callback (provider : PaymentProvider)
  | admin
  deriving DecidableEq, Repr

structure Credit where
  tradeNo : String
  userId : Int
  amount : ℚ
  source : CreditSource
  deriving DecidableEq

/-- The tables `top_ups` and `users`, and the credits made so far. -/
structure TopUpTables where
  orders : List TopUp
  users : Int → Option User
  credits : List Credit

/-- Which statements of a call fail: the read of the order, its save, the statements on the user
and the commit. -/
structure TopUpFaults where
  read : Bool := false
  save : Bool := false
  credit : Bool := false
  deriving DecidableEq

/-! ## Statements -/

/-- The order with a trade number, `none` where it cannot be read. -/
def TopUpTables.findOrder (db : TopUpTables) (faults : TopUpFaults) (tradeNo : String) :
    Option TopUp :=
  if faults.read then none else Table.get? TopUp.tradeNo db.orders tradeNo

/-- `Save`: every column is written, whatever the row holds. -/
def TopUpTables.saveOrder (db : TopUpTables) (topUp : TopUp) : TopUpTables :=
  { db with
    orders := Table.updateWhere (fun row => row.tradeNo = topUp.tradeNo) (fun _ => topUp)
      db.orders }

def TopUpTables.addCredit (db : TopUpTables) (credit : Credit) (row : User) : TopUpTables :=
  { db with
    users := Function.update db.users credit.userId (some row)
    credits := db.credits ++ [credit] }

def TopUp.credit (topUp : TopUp) (amount : ℚ) (source : CreditSource) : Credit where
  tradeNo := topUp.tradeNo
  userId := topUp.userId
  amount := amount
  source := source

/-- `UPDATE users SET quota = quota + …`, with other columns. No row is hit, and nothing is
reported, if the user has been deleted. -/
def TopUpTables.creditUser (db : TopUpTables) (topUp : TopUp) (amount : ℚ)
    (source : CreditSource) (columns : User → User) : TopUpTables :=
  match db.users topUp.userId with
  | none => db
  | some user =>
    db.addCredit (topUp.credit amount source)
      { columns user with quota := user.quota + amount }

def TopUp.complete (topUp : TopUp) (now : Int) : TopUp :=
  { topUp with completeTime := now, status := .success }

/-- The end of every completing transaction: both statements succeed, or neither is kept. -/
def TopUpTables.settleOrder (db : TopUpTables) (faults : TopUpFaults) (now : Int) (topUp : TopUp)
    (amount : ℚ) (source : CreditSource) (columns : User → User) : Except String TopUpTables :=
  if faults.save ∨ faults.credit then .error "database error"
  else .ok ((db.saveOrder (topUp.complete now)).creditUser topUp amount source columns)

/-! ## Transactions -/

def errPaymentMethodMismatch : String := "payment method mismatch"

def updatePendingTopUpStatus (tradeNo : String) (expectedPaymentProvider : PaymentProvider)
    (targetStatus : TopUpStatus) (faults : TopUpFaults) (db : TopUpTables) :
    Except String TopUpTables :=
  if tradeNo = "" then .error "未提供支付单号"
  else
    match db.findOrder faults tradeNo with
    | none => .error "topup not found"
    | some topUp =>
      if expectedPaymentProvider ≠ .other "" ∧
          topUp.paymentProvider ≠ expectedPaymentProvider then
        .error errPaymentMethodMismatch
      else if topUp.status ≠ .pending then .error "topup status invalid"
      else if faults.save then .error "database error"
      else .ok (db.saveOrder { topUp with status := targetStatus })

/-- The result of a recharge: every error of its transaction is answered with the same text. -/
def rechargeResult : Except String TopUpTables → Except String TopUpTables
  | .ok db => .ok db
  | .error _ => .error "充值失败，请稍后重试"

section

variable (quotaPerUnit : ℚ)

/-- `int(decimal.NewFromInt(amount).Mul(quotaPerUnit).IntPart())`. -/
def quotaToAdd (amount : ℚ) : Int :=
  Int64.wrap (Int64.trunc (amount * quotaPerUnit))

/-- A completed order is an error, and the quota is not checked. -/
def recharge (referenceId customerId : String) (now : Int) (faults : TopUpFaults)
    (db : TopUpTables) : Except String TopUpTables :=
  if referenceId = "" then .error "未提供支付单号"
  else
    rechargeResult <|
      match db.findOrder faults referenceId with
      | none => .error "充值订单不存在"
      | some topUp =>
        if topUp.paymentProvider ≠ .stripe then .error errPaymentMethodMismatch
        else if topUp.status ≠ .pending then .error "充值订单状态错误"
        else
          db.settleOrder faults now topUp (topUp.money * quotaPerUnit) (.callback .stripe)
            fun user => { user with stripeCustomer := customerId }

/-- The amount is the quota, and an empty email of the user is filled in. -/
def rechargeCreem (referenceId customerEmail : String) (now : Int) (faults : TopUpFaults)
    (db : TopUpTables) : Except String TopUpTables :=
  if referenceId = "" then .error "未提供支付单号"
  else
    rechargeResult <|
      match db.findOrder faults referenceId with
      | none => .error "充值订单不存在"
      | some topUp =>
        if topUp.paymentProvider ≠ .creem then .error errPaymentMethodMismatch
        else if topUp.status ≠ .pending then .error "充值订单状态错误"
        else if customerEmail ≠ "" ∧ db.users topUp.userId = none then
          .error "record not found"
        else
          db.settleOrder faults now topUp topUp.amount (.callback .creem) fun user =>
            if customerEmail ≠ "" ∧ user.email = "" then { user with email := customerEmail }
            else user

/-- The transaction of `RechargeWaffo`, `RechargeWaffoPancake` and `RechargeBinancePay`: a
completed order is left alone, and the quota has to be positive. -/
def rechargeOnce (provider : PaymentProvider) (tradeNo : String) (now : Int)
    (faults : TopUpFaults) (db : TopUpTables) : Except String TopUpTables :=
  if tradeNo = "" then .error "未提供支付单号"
  else
    rechargeResult <|
      match db.findOrder faults tradeNo with
      | none => .error "充值订单不存在"
      | some topUp =>
        if topUp.paymentProvider ≠ provider then .error errPaymentMethodMismatch
        else if topUp.status = .success then .ok db
        else if topUp.status ≠ .pending then .error "充值订单状态错误"
        else if quotaToAdd quotaPerUnit topUp.amount ≤ 0 then .error "无效的充值额度"
        else
          db.settleOrder faults now topUp (quotaToAdd quotaPerUnit topUp.amount)
            (.callback provider) id

def rechargeWaffo (tradeNo : String) : Int → TopUpFaults → TopUpTables →
    Except String TopUpTables :=
  rechargeOnce quotaPerUnit .waffo tradeNo

def rechargeWaffoPancake (tradeNo : String) : Int → TopUpFaults → TopUpTables →
    Except String TopUpTables :=
  rechargeOnce quotaPerUnit .waffoPancake tradeNo

def rechargeBinancePay (tradeNo : String) : Int → TopUpFaults → TopUpTables →
    Except String TopUpTables :=
  rechargeOnce quotaPerUnit .binancePay tradeNo

/-- The quota of a manual completion: the money of a Stripe order, the amount of any other. -/
def manualQuota (topUp : TopUp) : Int :=
  if topUp.paymentProvider = .stripe then quotaToAdd quotaPerUnit topUp.money
  else quotaToAdd quotaPerUnit topUp.amount

/-- The provider is not checked. -/
def manualCompleteTopUp (tradeNo : String) (now : Int) (faults : TopUpFaults)
    (db : TopUpTables) : Except String TopUpTables :=
  if tradeNo = "" then .error "未提供订单号"
  else
    match db.findOrder faults tradeNo with
    | none => .error "充值订单不存在"
    | some topUp =>
      if topUp.status = .success then .ok db
      else if topUp.status ≠ .pending then .error "订单状态不是待支付，无法补单"
      else if manualQuota quotaPerUnit topUp ≤ 0 then .error "无效的充值额度"
      else db.settleOrder faults now topUp (manualQuota quotaPerUnit topUp) .admin id

/-! ## Handlers -/

/-- What `EpayNotify` reads of a notification. -/
structure EpayNotification where
  verifyStatus : Bool
  tradeSuccess : Bool
  serviceTradeNo : String
  type : String
  deriving DecidableEq

/-- `IncreaseUserQuota`, called for an order. -/
def increaseUserQuota (topUp : TopUp) (quota : Int) (faults : TopUpFaults) (db : TopUpTables) :
    Except String TopUpTables :=
  if quota < 0 then .error "quota 不能为负数！"
  else if faults.credit then .error "database error"
  else .ok (db.creditUser topUp quota (.callback .epay) id)

/-- The two statements of `EpayNotify`: the status is stored before the user is credited, and
stays when the credit fails. -/
def storeAndCredit (topUp : TopUp) (type : String) (faults : TopUpFaults) (db : TopUpTables) :
    TopUpTables :=
  let stored := db.saveOrder { topUp with paymentMethod := type, status := .success }
  match increaseUserQuota topUp (quotaToAdd quotaPerUnit topUp.amount) faults stored with
  | .ok credited => credited
  | .error _ => stored

def epayNotify (notification : EpayNotification) (faults : TopUpFaults) (db : TopUpTables) :
    TopUpTables :=
  if notification.verifyStatus ∧ notification.tradeSuccess then
    match db.findOrder faults notification.serviceTradeNo with
    | none => db
    | some topUp =>
      if topUp.paymentProvider ≠ .epay then db
      else if topUp.status ≠ .pending then db
      else if faults.save then db
      else storeAndCredit quotaPerUnit topUp notification.type faults db
  else db

/-- `handleCheckoutCompleted`, for a paid order: only a pending order is handed on. -/
def handleCheckoutCompleted (requestId orderType customerEmail : String) (now : Int)
    (faults : TopUpFaults) (db : TopUpTables) : Except String TopUpTables :=
  if requestId = "" ∨ orderType ≠ "onetime" then .ok db
  else
    match db.findOrder faults requestId with
    | none => .error "bad request"
    | some topUp =>
      if topUp.status ≠ .pending then .ok db
      else rechargeCreem requestId customerEmail now faults db

def handleWaffoPayment (orderStatus merchantOrderId : String) (now : Int) (faults : TopUpFaults)
    (db : TopUpTables) : Except String TopUpTables :=
  if orderStatus ≠ "PAY_SUCCESS" then
    updatePendingTopUpStatus merchantOrderId .waffo .failed faults db
  else rechargeWaffo quotaPerUnit merchantOrderId now faults db

end

def sessionExpired (referenceId : String) (faults : TopUpFaults) (db : TopUpTables) :
    Except String TopUpTables :=
  updatePendingTopUpStatus referenceId .stripe .expired faults db

def sessionAsyncPaymentFailed (referenceId : String) (faults : TopUpFaults) (db : TopUpTables) :
    TopUpTables :=
  if referenceId = "" then db
  else
    match db.findOrder faults referenceId with
    | none => db
    | some topUp =>
      if topUp.paymentProvider ≠ .stripe then db
      else if topUp.status ≠ .pending then db
      else if faults.save then db
      else db.saveOrder { topUp with status := .failed }

/-- The end of a request whose payment could not be created: the order it inserted is stored
again as failed, from the copy that the request holds. -/
def storeFailedCreation (topUp : TopUp) (faults : TopUpFaults) (db : TopUpTables) : TopUpTables :=
  if faults.save then db else db.saveOrder { topUp with status := .failed }

/-! ## What a call does to the tables -/

/-- `new` can be stored for the order `old`: it is the same order of the same user. -/
structure Replaces (db : TopUpTables) (old new : TopUp) : Prop where
  found : Table.get? TopUp.tradeNo db.orders new.tradeNo = some old
  userId : new.userId = old.userId
  paymentProvider : new.paymentProvider = old.paymentProvider

def CreditSource.MayCredit (source : CreditSource) (topUp : TopUp) : Prop :=
  source = .admin ∨ source = .callback topUp.paymentProvider

/-- What a call can do to the tables: nothing, close an order that is not
completed, or complete a pending one and credit its user. Only where `lost` holds it can also
complete an order without a credit, or store a failure over a completed one. -/
inductive OrderEffect (lost : Prop) (db : TopUpTables) : TopUpTables → Prop where
  | kept : OrderEffect lost db db
  | closed {old new : TopUp} (hreplaces : Replaces db old new) (hold : old.status ≠ .success)
      (hstatus : new.status = .failed ∨ new.status = .expired) :
      OrderEffect lost db (db.saveOrder new)
  | completed {old new : TopUp} {user row : User} {credit : Credit}
      (hreplaces : Replaces db old new) (hpending : old.status = .pending)
      (hstatus : new.status = .success) (htrade : credit.tradeNo = new.tradeNo)
      (huserId : credit.userId = old.userId) (hsource : credit.source.MayCredit old)
      (huser : db.users credit.userId = some user)
      (hquota : row.quota = user.quota + credit.amount) :
      OrderEffect lost db ((db.saveOrder new).addCredit credit row)
  | unpaid {old new : TopUp} (hlost : lost) (hreplaces : Replaces db old new)
      (hstatus : new.status = .success) : OrderEffect lost db (db.saveOrder new)
  | overwritten {old new : TopUp} (hlost : lost) (hreplaces : Replaces db old new)
      (hstatus : new.status = .failed) : OrderEffect lost db (db.saveOrder new)

def NoPayee (db : TopUpTables) (tradeNo : String) : Prop :=
  ∃ topUp ∈ Table.get? TopUp.tradeNo db.orders tradeNo,
    topUp.status = .pending ∧ db.users topUp.userId = none
  deriving Decidable

def EpayUnpaid (quotaPerUnit : ℚ) (notification : EpayNotification) (faults : TopUpFaults)
    (db : TopUpTables) : Prop :=
  notification.verifyStatus ∧ notification.tradeSuccess ∧ faults.save = false ∧
    ∃ topUp ∈ db.findOrder faults notification.serviceTradeNo,
      topUp.paymentProvider = .epay ∧ topUp.status = .pending ∧
        (db.users topUp.userId = none ∨ faults.credit ∨
          quotaToAdd quotaPerUnit topUp.amount < 0)
  deriving Decidable

variable {now : Int}

section

variable {db db' : TopUpTables} {fts : TopUpFaults} {tno : String} {old new : TopUp} {lost : Prop}

theorem findOrder_eq_some (h : db.findOrder fts tno = some old) :
    Table.get? TopUp.tradeNo db.orders tno = some old := by
  unfold TopUpTables.findOrder at h
  split at h
  · cases h
  · exact h

theorem Replaces.of_findOrder (h : db.findOrder fts tno = some old)
    (htr : new.tradeNo = old.tradeNo) (hus : new.userId = old.userId)
    (hpr : new.paymentProvider = old.paymentProvider) : Replaces db old new where
  found := by
    have hg := findOrder_eq_some h
    rw [htr, Table.get?_key hg]
    exact hg
  userId := hus
  paymentProvider := hpr

theorem creditUser_effect (hre : Replaces db old new) (htr : new.tradeNo = old.tradeNo)
    (hpe : old.status = .pending) (hst : new.status = .success) (hsr : src.MayCredit old)
    (hlo : db.users old.userId = none → lost) :
    OrderEffect lost db ((db.saveOrder new).creditUser old amt src cols) := by
  have hus : (db.saveOrder new).users = db.users := rfl
  unfold TopUpTables.creditUser
  rw [hus]
  cases hue : db.users old.userId with
  | none => exact .unpaid (hlo hue) hre hst
  | some user =>
    exact .completed hre hpe hst htr.symm rfl hsr hue rfl

theorem settleOrder_effect (hf : db.findOrder fts tno = some old) (hpe : old.status = .pending)
    (hsr : src.MayCredit old) (h : db.settleOrder fts now old amt src cols = .ok db') :
    OrderEffect (NoPayee db tno) db db' := by
  obtain ⟨-, h⟩ := check_eq_ok h
  cases h
  have hre : Replaces db old (old.complete now) := .of_findOrder hf rfl rfl rfl
  refine creditUser_effect hre rfl hpe rfl hsr fun hus => ?_
  exact ⟨old, findOrder_eq_some hf, hpe, hus⟩

theorem updatePendingTopUpStatus_effect (hst : status = .failed ∨ status = .expired)
    (h : updatePendingTopUpStatus tno prov status fts db = .ok db') : OrderEffect lost db db' := by
  obtain ⟨-, h⟩ := check_eq_ok h
  split at h
  · cases h
  next tu hf =>
    obtain ⟨-, h⟩ := check_eq_ok h
    obtain ⟨hpe, h⟩ := check_eq_ok h
    obtain ⟨-, h⟩ := check_eq_ok h
    cases h
    exact .closed (.of_findOrder hf rfl rfl rfl) (by simp [not_not.mp hpe]) hst

theorem rechargeResult_eq_ok (h : rechargeResult x = .ok db') : x = .ok db' := by
  cases x with
  | error e => cases h
  | ok db => exact h

theorem recharge_effect (h : recharge quotaPerUnit tno ci now fts db = .ok db') :
    OrderEffect (NoPayee db tno) db db' := by
  obtain ⟨-, h⟩ := check_eq_ok h
  replace h := rechargeResult_eq_ok h
  split at h
  · cases h
  next tu hf =>
    obtain ⟨hpr, h⟩ := check_eq_ok h
    obtain ⟨hpe, h⟩ := check_eq_ok h
    exact settleOrder_effect hf (not_not.mp hpe) (.inr (by rw [not_not.mp hpr])) h

theorem rechargeCreem_effect (h : rechargeCreem tno mail now fts db = .ok db') :
    OrderEffect (NoPayee db tno) db db' := by
  obtain ⟨-, h⟩ := check_eq_ok h
  replace h := rechargeResult_eq_ok h
  split at h
  · cases h
  next tu hf =>
    obtain ⟨hpr, h⟩ := check_eq_ok h
    obtain ⟨hpe, h⟩ := check_eq_ok h
    obtain ⟨-, h⟩ := check_eq_ok h
    exact settleOrder_effect hf (not_not.mp hpe) (.inr (by rw [not_not.mp hpr])) h

theorem rechargeOnce_effect (h : rechargeOnce quotaPerUnit prov tno now fts db = .ok db') :
    OrderEffect (NoPayee db tno) db db' := by
  obtain ⟨-, h⟩ := check_eq_ok h
  replace h := rechargeResult_eq_ok h
  split at h
  · cases h
  next tu hf =>
    obtain ⟨hpr, h⟩ := check_eq_ok h
    split at h
    · -- a repeated callback
      cases h
      exact .kept
    · obtain ⟨hpe, h⟩ := check_eq_ok h
      obtain ⟨-, h⟩ := check_eq_ok h
      exact settleOrder_effect hf (not_not.mp hpe) (.inr (by rw [not_not.mp hpr])) h

theorem manualCompleteTopUp_effect (h : manualCompleteTopUp quotaPerUnit tno now fts db = .ok db') :
    OrderEffect (NoPayee db tno) db db' := by
  obtain ⟨-, h⟩ := check_eq_ok h
  split at h
  · cases h
  next tu hf =>
    split at h
    · cases h
      exact .kept
    · obtain ⟨hpe, h⟩ := check_eq_ok h
      obtain ⟨-, h⟩ := check_eq_ok h
      exact settleOrder_effect hf (not_not.mp hpe) (.inl rfl) h

theorem handleCheckoutCompleted_effect
    (h : handleCheckoutCompleted tno ot mail now fts db = .ok db') :
    OrderEffect (NoPayee db tno) db db' := by
  unfold handleCheckoutCompleted at h
  split at h
  · cases h
    exact .kept
  split at h
  · cases h
  next tu _ =>
    split at h
    · cases h
      exact .kept
    · exact rechargeCreem_effect h

theorem handleWaffoPayment_effect
    (h : handleWaffoPayment quotaPerUnit os tno now fts db = .ok db') :
    OrderEffect (NoPayee db tno) db db' := by
  unfold handleWaffoPayment at h
  split at h
  · exact updatePendingTopUpStatus_effect (.inl rfl) h
  · exact rechargeOnce_effect h

theorem sessionAsyncPaymentFailed_effect :
    OrderEffect lost db (sessionAsyncPaymentFailed tno fts db) := by
  unfold sessionAsyncPaymentFailed
  split
  · exact .kept
  split
  · exact .kept
  next tu hf =>
    split
    · exact .kept
    split
    · exact .kept
    next hpe =>
      split
      · exact .kept
      · have ho : tu.status ≠ .success := by simp [not_not.mp hpe]
        exact .closed (.of_findOrder hf rfl rfl rfl) ho (.inl rfl)

theorem increaseUserQuota_cases (tu : TopUp) (q : Int) (fts : TopUpFaults) (db : TopUpTables) :
    increaseUserQuota tu q fts db = .ok (db.creditUser tu q (.callback .epay) id) ∨
      (fts.credit ∨ q < 0) ∧ ∃ e, increaseUserQuota tu q fts db = .error e := by
  unfold increaseUserQuota
  by_cases hq : q < 0
  · exact .inr ⟨.inr hq, _, if_pos hq⟩
  rw [if_neg hq]
  by_cases hcr : fts.credit = true
  · exact .inr ⟨.inl hcr, _, if_pos hcr⟩
  · exact .inl (if_neg hcr)

theorem storeAndCredit_effect (hf : db.findOrder fts tno = some old)
    (hpr : old.paymentProvider = .epay) (hpe : old.status = .pending)
    (hlo : db.users old.userId = none ∨ fts.credit ∨
      quotaToAdd quotaPerUnit old.amount < 0 → lost) :
    OrderEffect lost db (storeAndCredit quotaPerUnit old type fts db) := by
  have hre : Replaces db old { old with paymentMethod := type, status := .success } :=
    .of_findOrder hf rfl rfl rfl
  unfold storeAndCredit
  rcases increaseUserQuota_cases old (quotaToAdd quotaPerUnit old.amount) fts
    (db.saveOrder { old with paymentMethod := type, status := .success })
    with hok | ⟨hfailed, e, herror⟩
  · simp only [hok]
    exact creditUser_effect hre rfl hpe rfl (.inr (by rw [hpr])) fun hus => hlo (.inl hus)
  · simp only [herror]
    exact .unpaid (hlo (.inr hfailed)) hre rfl

theorem epayNotify_effect :
    OrderEffect (EpayUnpaid quotaPerUnit ntf fts db) db (epayNotify quotaPerUnit ntf fts db) := by
  unfold epayNotify
  split
  next hno =>
    split
    · exact .kept
    next tu hf =>
      split
      · exact .kept
      next hpr =>
        split
        · exact .kept
        next hpe =>
          split
          · exact .kept
          next hsa =>
            have hpr := not_not.mp hpr
            have hpe := not_not.mp hpe
            refine storeAndCredit_effect hf hpr hpe fun hun => ?_
            exact ⟨hno.1, hno.2, by simpa using hsa, tu, hf, hpr, hpe, hun⟩
  · exact .kept

theorem storeFailedCreation_effect (hre : Replaces db old new) :
    OrderEffect (old.status = .success) db (storeFailedCreation new fts db) := by
  unfold storeFailedCreation
  split
  · exact .kept
  have hfa : Replaces db old { new with status := .failed } :=
    ⟨hre.found, hre.userId, hre.paymentProvider⟩
  by_cases ho : old.status = .success
  · exact .overwritten ho hfa rfl
  · exact .closed hfa ho (.inl rfl)

end

end NewApi.TopUps
