import NewApi.Subscriptions.Orders

/-!
# Buying a plan

A user orders a plan through one of three payment providers. The handlers refuse a user who has as
many subscriptions as the plan allows; open orders are not counted. The callback completes the order
under the same limit, and an admin can grant a plan. Each of them is one step, whose statements do
not fail.
-/

namespace NewApi.Subscriptions

open Lib
open TopUps (PaymentProvider TopUp TopUpStatus)

/-! ## Requests to pay for a plan -/

/-- The columns of a plan that only the orders read. -/
structure PlanOffer extends SubscriptionPlan where
  enabled : Bool := true
  priceAmount : ℚ
  stripePriceId : String := ""
  creemProductId : String := ""

structure PaymentSettings where
  payMethods : List String := []
  callbackAddressValid : Bool := true
  epayConfigured : Bool := true
  stripeApiSecret : String := ""
  stripeWebhookSecret : String := ""
  creemWebhookSecret : String := ""
  creemTestMode : Bool := false

/-- The provider that a user asks to pay through, for Epay with a method. -/
inductive PaymentRequest where
  | epay (paymentMethod : String)
  | stripe
  | creem

/-- The provider and the method that go into the order. -/
def PaymentRequest.provider : PaymentRequest → PaymentProvider
  | epay _ => .epay
  | stripe => .stripe
  | creem => .creem

@[inherit_doc PaymentRequest.provider]
def PaymentRequest.method : PaymentRequest → String
  | epay paymentMethod => paymentMethod
  | stripe => "stripe"
  | creem => "creem"

/-- The number of a new order; the random part is a text or the digest of one. -/
def PaymentRequest.tradeNo (userId : Int) (random : String) (now : Int) : PaymentRequest → String
  | epay _ => "SUBUSR" ++ s!"{userId}NO{random}{now}"
  | stripe | creem => "sub_ref_" ++ random

def IsOrderNo (tradeNo : String) : Prop :=
  startsWith tradeNo "SUBUSR" ∨ startsWith tradeNo "sub_ref_"
  deriving Decidable

def getSubscriptionPlanById (plans : List PlanOffer) (id : Int) : Except String PlanOffer :=
  if id ≤ 0 then .error "invalid plan id"
  else
    match Table.get? (fun offer : PlanOffer => offer.id) plans id with
    | none => .error "record not found"
    | some offer => .ok offer

/-- The number of subscriptions of a plan that a user has, whatever their status. -/
def planCount (userId planId : Int) (subs : List UserSubscription) : Nat :=
  subs.countP fun sub => sub.userId = userId ∧ sub.planId = planId

def countUserSubscriptionsByPlan (userId planId : Int) (subs : List UserSubscription) :
    Except String Nat :=
  if userId ≤ 0 ∨ planId ≤ 0 then .error "invalid userId or planId"
  else .ok (planCount userId planId subs)

def checkPurchaseLimit (offer : PlanOffer) (userId : Int) (subs : List UserSubscription) :
    Except String Unit :=
  if offer.maxPurchasePerUser > 0 then
    match countUserSubscriptionsByPlan userId offer.id subs with
    | .error err => .error err
    | .ok count =>
      if count ≥ offer.maxPurchasePerUser then .error "已达到该套餐购买上限" else .ok ()
  else .ok ()

def PaymentRequest.check (settings : PaymentSettings) (offer : PlanOffer) :
    PaymentRequest → Except String Unit
  | epay paymentMethod =>
    if offer.priceAmount < 1 / 100 then .error "套餐金额过低"
    else if paymentMethod ∉ settings.payMethods then .error "支付方式不存在"
    else .ok ()
  | stripe =>
    if offer.stripePriceId = "" then .error "该套餐未配置 StripePriceId"
    else if ¬startsWith settings.stripeApiSecret "sk_" ∧
        ¬startsWith settings.stripeApiSecret "rk_" then .error "Stripe 未配置或密钥无效"
    else if settings.stripeWebhookSecret = "" then .error "Stripe Webhook 未配置"
    else .ok ()
  | creem =>
    if offer.creemProductId = "" then .error "该套餐未配置 CreemProductId"
    else if settings.creemWebhookSecret = "" ∧ ¬settings.creemTestMode then
      .error "Creem Webhook 未配置"
    else .ok ()

/-- The beginning of the three handlers: the plan that the user may order. -/
def requestPlan (settings : PaymentSettings) (plans : List PlanOffer) (request : PaymentRequest)
    (userId planId : Int) (subs : List UserSubscription) : Except String PlanOffer :=
  if planId ≤ 0 then .error "参数错误"
  else
    match getSubscriptionPlanById plans planId with
    | .error err => .error err
    | .ok offer =>
      if ¬offer.enabled then .error "套餐未启用"
      else
        match request.check settings offer with
        | .error err => .error err
        | .ok () =>
          match checkPurchaseLimit offer userId subs with
          | .error err => .error err
          | .ok () => .ok offer

def PaymentRequest.order (request : PaymentRequest) (userId : Int) (offer : PlanOffer)
    (random : String) (now : Int) : SubscriptionOrder where
  tradeNo := request.tradeNo userId random now
  userId := userId
  planId := offer.id
  money := offer.priceAmount
  paymentMethod := request.method
  paymentProvider := request.provider
  createTime := now

/-- `Insert` of an order; the unique index refuses a trade number that is in use. -/
def OrderTables.insert (tables : OrderTables) (order : SubscriptionOrder) :
    Except String OrderTables :=
  if order.tradeNo ∈ tables.orders.map SubscriptionOrder.tradeNo then .error "创建订单失败"
  else .ok { tables with orders := tables.orders ++ [order] }

structure RequestOutcome where
  tables : OrderTables
  answer : Except String Unit

/-- A user asks for an order: the plan, and what the program and the provider add. -/
structure OrderInput where
  userId : Int
  planId : Int
  random : String
  /-- The provider gives no link to pay. -/
  linkFails : Bool := false
  now : Int

/-- An order without a link is expired at once. -/
def subscriptionRequestEpay (settings : PaymentSettings) (plans : List PlanOffer)
    (paymentMethod : String) (input : OrderInput) (tables : OrderTables) : RequestOutcome :=
  let request := PaymentRequest.epay paymentMethod
  match requestPlan settings plans request input.userId input.planId tables.db.subs with
  | .error err => ⟨tables, .error err⟩
  | .ok offer =>
    if ¬settings.callbackAddressValid then ⟨tables, .error "回调地址配置错误"⟩
    else if ¬settings.epayConfigured then ⟨tables, .error "当前管理员未配置支付信息"⟩
    else
      let order := request.order input.userId offer input.random input.now
      match tables.insert order with
      | .error err => ⟨tables, .error err⟩
      | .ok inserted =>
        if input.linkFails then
          ⟨inserted.commit (expireSubscriptionOrder {}
            { tradeNo := order.tradeNo, expectedPaymentProvider := some .epay } input.now
            inserted), .error "拉起支付失败"⟩
        else ⟨inserted, .ok ()⟩

/-- The link is made before the order. -/
def subscriptionRequestStripePay (settings : PaymentSettings) (plans : List PlanOffer)
    (input : OrderInput) (tables : OrderTables) : RequestOutcome :=
  match requestPlan settings plans .stripe input.userId input.planId tables.db.subs with
  | .error err => ⟨tables, .error err⟩
  | .ok offer =>
    if input.linkFails then ⟨tables, .error "拉起支付失败"⟩
    else
      match tables.insert (PaymentRequest.stripe.order input.userId offer input.random
        input.now) with
      | .error err => ⟨tables, .error err⟩
      | .ok inserted => ⟨inserted, .ok ()⟩

/-- An order without a link stays. -/
def subscriptionRequestCreemPay (settings : PaymentSettings) (plans : List PlanOffer)
    (input : OrderInput) (tables : OrderTables) : RequestOutcome :=
  match requestPlan settings plans .creem input.userId input.planId tables.db.subs with
  | .error err => ⟨tables, .error err⟩
  | .ok offer =>
    match tables.insert (PaymentRequest.creem.order input.userId offer input.random
      input.now) with
    | .error err => ⟨tables, .error err⟩
    | .ok inserted =>
      if input.linkFails then ⟨inserted, .error "拉起支付失败"⟩ else ⟨inserted, .ok ()⟩

def PaymentRequest.handle (settings : PaymentSettings) (plans : List PlanOffer)
    (input : OrderInput) (tables : OrderTables) : PaymentRequest → RequestOutcome
  | epay paymentMethod => subscriptionRequestEpay settings plans paymentMethod input tables
  | stripe => subscriptionRequestStripePay settings plans input tables
  | creem => subscriptionRequestCreemPay settings plans input tables

/-! ## Payments and grants -/

/-- The plan that `CompleteSubscriptionOrder` reads for an order. -/
def orderPlan (plans : List PlanOffer) (tables : OrderTables) (tradeNo : String) :
    Except String SubscriptionPlan :=
  match Table.get? SubscriptionOrder.tradeNo tables.orders tradeNo with
  | none => .error "record not found"
  | some order =>
    (getSubscriptionPlanById plans order.planId).map PlanOffer.toSubscriptionPlan

/-- `CompleteSubscriptionOrder` as the callback of a provider calls it. -/
def completePaid (calendar : Calendar) (plans : List PlanOffer) (callback : OrderCallback)
    (subId now : Int) (tables : OrderTables) : Except String OrderTables :=
  completeSubscriptionOrder calendar {} callback (orderPlan plans tables callback.tradeNo) subId
    now tables

def adminBindSubscription (calendar : Calendar) (plans : List PlanOffer) (userId planId : Int)
    (subId now : Int) (tables : OrderTables) : Except String OrderTables :=
  if userId ≤ 0 ∨ planId ≤ 0 then .error "invalid userId or planId"
  else
    match getSubscriptionPlanById plans planId with
    | .error err => .error err
    | .ok offer =>
      createFor calendar {} .admin subId userId offer.toSubscriptionPlan true now tables

structure PurchaseState where
  tables : OrderTables
  accepted : List String

inductive PurchaseAction where
  | request (request : PaymentRequest) (input : OrderInput)
  | callback (callback : OrderCallback) (subId now : Int)
  | grant (userId planId subId now : Int)

namespace PurchaseState

def SubIdUsed (state : PurchaseState) (subId : Int) : Prop :=
  subId ∈ state.tables.db.subs.map UserSubscription.id
  deriving Decidable

def afterRequest (settings : PaymentSettings) (plans : List PlanOffer) (state : PurchaseState)
    (request : PaymentRequest) (input : OrderInput) : PurchaseState :=
  let outcome := request.handle settings plans input state.tables
  { tables := outcome.tables
    accepted :=
      match outcome.answer with
      | .ok () => state.accepted ++ [request.tradeNo input.userId input.random input.now]
      | .error _ => state.accepted }

def step (calendar : Calendar) (settings : PaymentSettings) (plans : List PlanOffer)
    (state : PurchaseState) : PurchaseAction → Option PurchaseState
  | .request request input => some (state.afterRequest settings plans request input)
  | .callback callback subId now =>
    if state.SubIdUsed subId then none
    else
      some { state with
        tables := state.tables.commit
          (completePaid calendar plans callback subId now state.tables) }
  | .grant userId planId subId now =>
    if state.SubIdUsed subId then none
    else
      some { state with
        tables := state.tables.commit
          (adminBindSubscription calendar plans userId planId subId now state.tables) }

end PurchaseState

def purchaseSystem (calendar : Calendar) (settings : PaymentSettings) (plans : List PlanOffer) :
    System PurchaseState PurchaseAction where
  step := PurchaseState.step calendar settings plans

def PurchaseState.start (db : GroupTables) (topUps : List TopUp) : PurchaseState where
  tables := .start db topUps
  accepted := []

end NewApi.Subscriptions
