import NewApi.TopUps.CreditOnce

/-!
# Manual completion against the callback of the provider

The six providers store their orders in different units. A manual completion converts what is stored
in one of two ways, a callback in the way of its provider (`manual_credit_eq_callback_iff`).
-/

namespace NewApi.TopUps

open Lib TopUpTables TopUp

/-! ## Creation of orders -/

structure CreemProduct where
  productId : String
  price : ℚ
  quota : Int
  deriving DecidableEq

structure PaymentSettings where
  quotaPerUnit : ℚ
  /-- Amounts are entered in tokens. -/
  displayTokens : Bool
  minTopUp : PaymentProvider → Int
  payMethods : List String
  creemProducts : List CreemProduct

inductive PaymentRequest where
  | epay (amount : Int) (paymentMethod : String) (payMoney : ℚ)
  | stripe (amount : Int) (topupGroupRatio : ℚ)
  | creem (productId : String)
  | waffo (amount : Int) (payMoney : ℚ)
  | waffoPancake (amount : Int) (payMoney : ℚ)
  | binancePay (amount : Int) (payMoney : ℚ)

def PaymentRequest.tradeNo (userId : Int) (unique : String) : PaymentRequest → String
  | .epay _ _ _ => "USR" ++ toString userId ++ "NO" ++ unique
  | .stripe _ _ => "ref_" ++ unique
  | .creem _ => "ref_" ++ unique
  | .waffo _ _ => "WAFFO-" ++ toString userId ++ "-" ++ unique
  | .waffoPancake _ _ => "WAFFO_PANCAKE-" ++ toString userId ++ "-" ++ unique
  | .binancePay _ _ => "BP" ++ toString userId ++ unique

/-- A ratio of zero counts as one. -/
def getChargedAmount (count topupGroupRatio : ℚ) : ℚ :=
  count * if topupGroupRatio = 0 then 1 else topupGroupRatio

def amountInUnits (settings : PaymentSettings) (amount : Int) : Int :=
  if settings.displayTokens then Int64.wrap (Int64.trunc (amount / settings.quotaPerUnit))
  else amount

/-- `normalizeWaffoPancakeTopUpAmount` and `normalizeBinancePayTopUpAmount`. -/
def normalizeTopUpAmount (settings : PaymentSettings) (amount : Int) : Int :=
  if settings.displayTokens then max (amountInUnits settings amount) 1 else amount

def waffoAmount (settings : PaymentSettings) (amount : Int) : Int :=
  if settings.displayTokens then max (Int64.ofRat (amount / settings.quotaPerUnit)) 1 else amount

def tooFew (settings : PaymentSettings) (provider : PaymentProvider) : String :=
  s!"充值数量不能小于 {settings.minTopUp provider}"

/-- `RequestEpay`, the `RequestPay` of Stripe and Creem, `RequestWaffoPay`,
`RequestWaffoPancakePay` and `RequestBinancePay`, up to the order they insert. -/
def createTopUp (settings : PaymentSettings) (userId : Int) (unique : String) (now : Int)
    (request : PaymentRequest) : Except String TopUp :=
  let order (amount : Int) (money : ℚ) (paymentMethod : String) (provider : PaymentProvider) :
      Except String TopUp :=
    .ok { tradeNo := request.tradeNo userId unique, userId, amount, money, paymentMethod,
          paymentProvider := provider, createTime := now }
  match request with
  | .epay amount paymentMethod payMoney =>
    if amount < settings.minTopUp .epay then .error (tooFew settings .epay)
    else if payMoney < 1 / 100 then .error "充值金额过低"
    else if paymentMethod ∉ settings.payMethods then .error "支付方式不存在"
    else order (amountInUnits settings amount) payMoney paymentMethod .epay
  | .stripe amount topupGroupRatio =>
    if amount < settings.minTopUp .stripe then .error (tooFew settings .stripe)
    else if amount > 10000 then .error "充值数量不能大于 10000"
    else order amount (getChargedAmount amount topupGroupRatio) "stripe" .stripe
  | .creem productId =>
    if productId = "" then .error "请选择产品"
    else
      match settings.creemProducts.find? fun product => product.productId = productId with
      | none => .error "产品不存在"
      | some product => order product.quota product.price "creem" .creem
  | .waffo amount payMoney =>
    if amount < settings.minTopUp .waffo then .error (tooFew settings .waffo)
    else if payMoney < 1 / 100 then .error "充值金额过低"
    else order (waffoAmount settings amount) payMoney "waffo" .waffo
  | .waffoPancake amount payMoney =>
    if amount < settings.minTopUp .waffoPancake then .error (tooFew settings .waffoPancake)
    else if payMoney < 1 / 100 then .error "充值金额过低"
    else order (normalizeTopUpAmount settings amount) payMoney "waffo_pancake" .waffoPancake
  | .binancePay amount payMoney =>
    if amount < settings.minTopUp .binancePay then .error (tooFew settings .binancePay)
    else if payMoney < 1 / 100 then .error "充值金额过低"
    else order (normalizeTopUpAmount settings amount) payMoney "binance_pay" .binancePay

/-! ## The two completions -/

structure Payer where
  customerId : String
  customerEmail : String
  type : String

section

variable (quotaPerUnit : ℚ)

def completeByCallback (payer : Payer) (now : Int) (topUp : TopUp) (db : TopUpTables) :
    TopUpTables :=
  match topUp.paymentProvider with
  | .epay =>
    epayNotify quotaPerUnit
      { verifyStatus := true, tradeSuccess := true, serviceTradeNo := topUp.tradeNo,
        type := payer.type } {} db
  | .stripe => db.after (recharge quotaPerUnit topUp.tradeNo payer.customerId now {} db)
  | .creem =>
    db.after (handleCheckoutCompleted topUp.tradeNo "onetime" payer.customerEmail now {} db)
  | .waffo => db.after (handleWaffoPayment quotaPerUnit "PAY_SUCCESS" topUp.tradeNo now {} db)
  | .waffoPancake => db.after (rechargeWaffoPancake quotaPerUnit topUp.tradeNo now {} db)
  | .binancePay => db.after (rechargeBinancePay quotaPerUnit topUp.tradeNo now {} db)
  | .other _ => db

end

def TopUpTables.quotaOf (db : TopUpTables) (id : Int) : ℚ :=
  match db.users id with
  | none => 0
  | some user => user.quota

def TopUpTables.gain (db db' : TopUpTables) (id : Int) : ℚ :=
  db'.quotaOf id - db.quotaOf id

/-- What a credit comes to: nothing for a deleted user. -/
def TopUpTables.payable (db : TopUpTables) (id : Int) (amount : ℚ) : ℚ :=
  if (db.users id).isSome then amount else 0

def callbackQuota (quotaPerUnit : ℚ) (topUp : TopUp) : ℚ :=
  match topUp.paymentProvider with
  | .stripe => topUp.money * quotaPerUnit
  | .creem => topUp.amount
  | .other _ => 0
  | _ => max (quotaToAdd quotaPerUnit topUp.amount) 0

/-! ## What the completions credit -/

theorem createTopUp_eq_ok (h : createTopUp settings uid uni now req = .ok topUp) :
    topUp.status = .pending ∧ topUp.tradeNo ≠ "" ∧ ∀ tx, topUp.paymentProvider ≠ .other tx := by
  have hle : ∀ {s0 rs : String}, s0 ≠ "" → s0 ++ rs ≠ "" :=
    fun hs0 hem => hs0 (String.append_eq_empty_iff.mp hem).1
  have htr : req.tradeNo uid uni ≠ "" := by
    -- every provider has a fixed text in front
    cases req with
    | epay | waffo | waffoPancake => exact hle (hle (hle (by decide)))
    | stripe | creem => exact hle (by decide)
    | binancePay => exact hle (hle (by decide))
  cases req with
  | epay amt pam pm =>
    obtain ⟨-, h⟩ := check_eq_ok h
    obtain ⟨-, h⟩ := check_eq_ok h
    obtain ⟨-, h⟩ := check_eq_ok h
    cases h
    exact ⟨rfl, htr, nofun⟩
  | stripe | waffo | waffoPancake | binancePay =>
    obtain ⟨-, h⟩ := check_eq_ok h
    obtain ⟨-, h⟩ := check_eq_ok h
    cases h
    exact ⟨rfl, htr, nofun⟩
  | creem pi =>
    obtain ⟨-, h⟩ := check_eq_ok h
    split at h
    · cases h
    · cases h
      exact ⟨rfl, htr, nofun⟩

section

variable {quotaPerUnit : ℚ} {db : TopUpTables} {topUp tu : TopUp}

theorem gain_self (id : Int) : db.gain db id = 0 := sub_self _

theorem payable_zero (id : Int) : db.payable id 0 = 0 := by
  simp [payable]

theorem gain_saveOrder (id : Int) : db.gain (db.saveOrder new) id = 0 :=
  sub_self _

theorem gain_creditUser (src : CreditSource) (cols : User → User) :
    db.gain ((db.saveOrder new).creditUser tu amt src cols) tu.userId =
      db.payable tu.userId amt := by
  have hus : (db.saveOrder new).users = db.users := rfl
  unfold creditUser payable
  rw [hus]
  cases hue : db.users tu.userId with
  | none => simpa [hue] using gain_saveOrder tu.userId
  | some user =>
    simp [gain, quotaOf, addCredit, credit, hue]

theorem gain_settleOrder :
    db.gain (db.after (db.settleOrder {} now tu amt src cols)) tu.userId =
      db.payable tu.userId amt := by
  have hok : db.settleOrder {} now tu amt src cols =
      .ok ((db.saveOrder (tu.complete now)).creditUser tu amt src cols) := by
    simp [settleOrder]
  exact gain_creditUser src cols

theorem gain_settlePositive (q : Int) :
    db.gain (db.after (if q ≤ 0 then .error why else db.settleOrder {} now tu q src cols))
      tu.userId = db.payable tu.userId (max q 0) := by
  by_cases hq : q ≤ 0
  · rw [if_pos hq, max_eq_right (by exact_mod_cast hq), payable_zero]
    exact gain_self tu.userId
  · rw [if_neg hq, max_eq_left (by exact_mod_cast (not_le.mp hq).le)]
    exact gain_settleOrder

theorem after_rechargeResult : db.after (rechargeResult res) = db.after res := by
  cases res <;> rfl

theorem findOrder_of_get? (hf : Table.get? tradeNo db.orders tno = some tu) :
    db.findOrder {} tno = some tu := by
  simpa [findOrder] using hf

section

variable (hf : db.findOrder {} tu.tradeNo = some tu) (hpe : tu.status = .pending)
include hf hpe

theorem gain_epayNotify (hpa : ntf.verifyStatus ∧ ntf.tradeSuccess)
    (hnu : ntf.serviceTradeNo = tu.tradeNo) (hpr : tu.paymentProvider = .epay) :
    db.gain (epayNotify quotaPerUnit ntf {} db) tu.userId =
      db.payable tu.userId (max (quotaToAdd quotaPerUnit tu.amount) 0) := by
  unfold epayNotify
  rw [if_pos hpa, hnu]
  simp only [hf, hpr, hpe, ne_eq, not_true_eq_false, if_false, Bool.false_eq_true]
  unfold storeAndCredit increaseUserQuota
  by_cases hq : quotaToAdd quotaPerUnit tu.amount < 0
  · simp only [hq, if_true]
    rw [max_eq_right (by exact_mod_cast hq.le), payable_zero]
    exact gain_saveOrder tu.userId
  · simp only [hq, if_false, Bool.false_eq_true]
    rw [max_eq_left (by exact_mod_cast not_lt.mp hq)]
    exact gain_creditUser _ _

variable (now : Int) (htr : tu.tradeNo ≠ "")
include htr

theorem gain_rechargeOnce :
    db.gain (db.after
      (rechargeOnce quotaPerUnit tu.paymentProvider tu.tradeNo now {} db)) tu.userId =
      db.payable tu.userId (max (quotaToAdd quotaPerUnit tu.amount) 0) := by
  unfold rechargeOnce
  rw [if_neg htr, after_rechargeResult]
  simp only [hf, hpe, reduceCtorEq, ne_eq, not_true_eq_false, if_false]
  exact gain_settlePositive _

theorem gain_recharge (hpr : tu.paymentProvider = .stripe) :
    db.gain (db.after (recharge quotaPerUnit tu.tradeNo ci now {} db)) tu.userId =
      db.payable tu.userId (tu.money * quotaPerUnit) := by
  unfold recharge
  rw [if_neg htr, after_rechargeResult]
  simp only [hf, hpr, hpe, ne_eq, not_true_eq_false, if_false]
  exact gain_settleOrder

theorem gain_handleCheckoutCompleted (hpr : tu.paymentProvider = .creem) :
    db.gain (db.after (handleCheckoutCompleted tu.tradeNo "onetime" mail now {} db)) tu.userId =
      db.payable tu.userId tu.amount := by
  unfold handleCheckoutCompleted
  simp only [htr, hf, hpe, ne_eq, not_true_eq_false, or_self, if_false]
  unfold rechargeCreem
  rw [if_neg htr, after_rechargeResult]
  simp only [hf, hpr, hpe, ne_eq, not_true_eq_false, if_false]
  by_cases hmi : ¬mail = "" ∧ db.users tu.userId = none
  · rw [if_pos hmi]
    have hno : db.payable tu.userId tu.amount = 0 := by
      simp [payable, hmi.2]
    rw [hno]
    exact gain_self tu.userId
  · rw [if_neg hmi]
    exact gain_settleOrder

theorem gain_completeByCallback :
    db.gain (completeByCallback quotaPerUnit pay now tu db) tu.userId =
      db.payable tu.userId (callbackQuota quotaPerUnit tu) := by
  have hon := @gain_rechargeOnce quotaPerUnit db tu hf hpe now htr
  unfold completeByCallback callbackQuota
  cases hpr : tu.paymentProvider with
  | epay => exact gain_epayNotify hf hpe ⟨rfl, rfl⟩ rfl hpr
  | stripe => exact gain_recharge hf hpe now htr hpr
  | creem => exact gain_handleCheckoutCompleted hf hpe now htr hpr
  | waffo =>
    rw [hpr] at hon
    simpa [handleWaffoPayment, rechargeWaffo] using hon
  | waffoPancake | binancePay =>
    rw [hpr] at hon
    exact hon
  | other tx =>
    rw [payable_zero]
    exact gain_self tu.userId

end

end

def exampleSettings : PaymentSettings where
  quotaPerUnit := 500000
  displayTokens := false
  minTopUp := fun _ => 1
  payMethods := ["alipay"]
  creemProducts := [{ productId := "p", price := 5, quota := 500000 }]

def orderTables (topUp : TopUp) : TopUpTables where
  orders := [topUp]
  users := exampleUsers
  credits := []

end NewApi.TopUps
