import NewApi.Subscriptions.Group
import NewApi.TopUps.Order

/-!
# Subscription orders and Stripe invoices

`CompleteSubscriptionOrder` creates the subscription of a paid order, `ExpireSubscriptionOrder`
closes an order, `CompleteStripeSubscriptionInvoice` records every invoice once
(`model/subscription.go`). Callbacks come in any order and number; transactions on one row are
serialised (`subscription_orders_sound`).
-/

namespace NewApi.Subscriptions

open Lib List Table
open TopUps (PaymentProvider TopUp TopUpStatus)

/-! ## The tables -/

/-- The trade number is unique, and stands for the primary key here. -/
structure SubscriptionOrder where
  tradeNo : String
  userId : Int
  planId : Int
  money : ℚ
  paymentMethod : String
  paymentProvider : PaymentProvider
  status : TopUpStatus := .pending
  createTime : Int := 0
  completeTime : Int := 0
  providerPayload : String := ""

/-- The `StripeInvoiceResult` texts. -/
inductive InvoiceStatus where
  | processed
  | duplicate
  | missingPlan
  | missingUser
  | initialInvoice
  | ignored
  deriving DecidableEq

/-- The columns of `StripeSubscriptionInvoice` that are read again. -/
structure StripeSubscriptionInvoice where
  id : Int
  provider : PaymentProvider
  invoiceId : String
  userId : Int
  planId : Int
  billingReason : String
  status : InvoiceStatus

def StripeSubscriptionInvoice.key (invoice : StripeSubscriptionInvoice) :
    PaymentProvider × String :=
  (invoice.provider, invoice.invoiceId)

inductive SubscriptionOrigin where
  | order (tradeNo : String)
  | invoice (provider : PaymentProvider) (invoiceId : String)
  | admin
  deriving DecidableEq

/-- The tables, and for every subscription created so far its id and what it was created for. -/
structure OrderTables where
  db : GroupTables
  orders : List SubscriptionOrder
  topUps : List TopUp
  invoices : List StripeSubscriptionInvoice
  origins : List (Int × SubscriptionOrigin)

/-- No order and no invoice yet; the other tables are as they are. -/
def OrderTables.start (db : GroupTables) (topUps : List TopUp) : OrderTables where
  db := db
  orders := []
  topUps := topUps
  invoices := []
  origins := []

/-- Which statements of a transaction fail: the read of the order, the insertion of the
subscription or of the invoice, the statements on the top-up, and the save or the commit. -/
structure OrderFaults where
  read : Bool := false
  create : Bool := false
  topUp : Bool := false
  save : Bool := false

namespace OrderTables

/-- The order with a trade number; a read that fails finds none. -/
def findOrder (tables : OrderTables) (faults : OrderFaults) (tradeNo : String) :
    Option SubscriptionOrder :=
  if faults.read then none
  else Table.get? SubscriptionOrder.tradeNo tables.orders tradeNo

/-- `Save` of an order. -/
def saveOrder (tables : OrderTables) (order : SubscriptionOrder) : OrderTables :=
  { tables with
    orders := Table.updateWhere (fun row => row.tradeNo = order.tradeNo) (fun _ => order)
      tables.orders }

end OrderTables

/-! ## The transactions -/

/-- `createUserSubscriptionFromPlanTx` for an origin; `subId` is the key of the row. -/
def createFor (calendar : Calendar) (faults : OrderFaults) (origin : SubscriptionOrigin)
    (subId userId : Int) (plan : SubscriptionPlan) (enforcePurchaseLimit : Bool) (now : Int)
    (tables : OrderTables) : Except String OrderTables :=
  if faults.create then .error "create failed"
  else
    (createUserSubscriptionFromPlanTx calendar subId userId plan enforcePurchaseLimit now
      tables.db).map fun db => { tables with db, origins := tables.origins ++ [(subId, origin)] }

/-- A mirrored top-up has no provider. -/
def upsertSubscriptionTopUpTx (faults : OrderFaults) (order : SubscriptionOrder) (now : Int)
    (topUps : List TopUp) : Except String (List TopUp) :=
  if faults.topUp then .error "statement failed"
  else
    match Table.get? TopUp.tradeNo topUps order.tradeNo with
    | none =>
      .ok (topUps ++
        [{ tradeNo := order.tradeNo
           userId := order.userId
           amount := 0
           money := order.money
           paymentMethod := order.paymentMethod
           paymentProvider := .other ""
           createTime := order.createTime
           completeTime := now
           status := .success }])
    | some topUp =>
      if topUp.paymentMethod ≠ "" ∧ topUp.paymentMethod ≠ order.paymentMethod then
        .error "payment method mismatch"
      else
        let saved :=
          { topUp with
            money := order.money
            paymentMethod := order.paymentMethod
            createTime := if topUp.createTime = 0 then order.createTime else topUp.createTime
            completeTime := now
            status := .success }
        .ok (Table.updateWhere (fun row => row.tradeNo = saved.tradeNo) (fun _ => saved) topUps)

def SubscriptionOrder.completed (order : SubscriptionOrder) (providerPayload : String)
    (actualPaymentMethod : String) (now : Int) : SubscriptionOrder :=
  { order with
    status := .success
    completeTime := now
    providerPayload := if providerPayload ≠ "" then providerPayload else order.providerPayload
    paymentMethod :=
      if actualPaymentMethod ≠ "" then actualPaymentMethod else order.paymentMethod }

/-- What a callback brings: the trade number, the payload, the provider that the order must have,
and the payment method that was really used. -/
structure OrderCallback where
  tradeNo : String
  providerPayload : String := ""
  expectedPaymentProvider : Option PaymentProvider := none
  actualPaymentMethod : String := ""

def readOrder (faults : OrderFaults) (callback : OrderCallback) (tables : OrderTables) :
    Except String SubscriptionOrder :=
  if callback.tradeNo = "" then .error "tradeNo is empty"
  else
    match tables.findOrder faults callback.tradeNo with
    | none => .error "subscription order not found"
    | some order =>
      if callback.expectedPaymentProvider ≠ none ∧
          callback.expectedPaymentProvider ≠ some order.paymentProvider then
        .error "payment method mismatch"
      else .ok order

/-- `CompleteSubscriptionOrder`, with the plan that the order names as it could be read. -/
def completeSubscriptionOrder (calendar : Calendar) (faults : OrderFaults)
    (callback : OrderCallback) (plan : Except String SubscriptionPlan) (subId now : Int)
    (tables : OrderTables) : Except String OrderTables :=
  match readOrder faults callback tables with
  | .error err => .error err
  | .ok order =>
    if order.status = .success then .ok tables
    else if order.status ≠ .pending then .error "subscription order status invalid"
    else
      match plan with
      | .error err => .error err
      | .ok plan =>
        match createFor calendar faults (.order order.tradeNo) subId order.userId plan true now
          tables with
        | .error err => .error err
        | .ok created =>
          match upsertSubscriptionTopUpTx faults order now created.topUps with
          | .error err => .error err
          | .ok topUps =>
            if faults.save then .error "save failed"
            else
              .ok ({ created with topUps }.saveOrder
                (order.completed callback.providerPayload callback.actualPaymentMethod now))

def expireSubscriptionOrder (faults : OrderFaults) (callback : OrderCallback) (now : Int)
    (tables : OrderTables) : Except String OrderTables :=
  match readOrder faults callback tables with
  | .error err => .error err
  | .ok order =>
    if order.status ≠ .pending then .ok tables
    else if faults.save then .error "save failed"
    else .ok (tables.saveOrder { order with status := .expired, completeTime := now })

/-- The fields of `StripeSubscriptionInvoiceInput` that decide what is done, with the plan of the
price and the user of the customer as they could be read. -/
structure InvoiceInput where
  invoiceId : String
  billingReason : String
  plan : Except String (Option SubscriptionPlan)
  user : Except String (Option Int)

/-- `StripeSubscriptionInvoiceResult`. -/
structure InvoiceResult where
  created : Bool
  status : InvoiceStatus
  userId : Int
  planId : Int
  invoiceRecordId : Int
  renewalPurchaseEligible : Bool

/-- What an invoice is for: a renewal names a plan and a user. -/
inductive InvoicePurpose where
  | renewal (plan : SubscriptionPlan) (userId : Int)
  | other (status : InvoiceStatus) (planId : Int)

def InvoicePurpose.status : InvoicePurpose → InvoiceStatus
  | renewal _ _ => .processed
  | other status _ => status

/-- The ids that go into the record; 0 stands for none. -/
def InvoicePurpose.userId : InvoicePurpose → Int
  | renewal _ userId => userId
  | other _ _ => 0

@[inherit_doc InvoicePurpose.userId]
def InvoicePurpose.planId : InvoicePurpose → Int
  | renewal plan _ => plan.id
  | other _ planId => planId

/-- The first part of `CompleteStripeSubscriptionInvoice`: the billing reason, and for a renewal the
plan and the user. -/
def invoicePurpose (input : InvoiceInput) : Except String InvoicePurpose :=
  let reason := trimSpace input.billingReason
  if reason = "subscription_create" then .ok (.other .initialInvoice 0)
  else if reason ≠ "subscription_cycle" ∧ reason ≠ "subscription" then .ok (.other .ignored 0)
  else
    match input.plan with
    | .error err => .error err
    | .ok none => .ok (.other .missingPlan 0)
    | .ok (some plan) =>
      match input.user with
      | .error err => .error err
      | .ok none => .ok (.other .missingUser plan.id)
      | .ok (some userId) => .ok (.renewal plan userId)

/-- `getExistingStripeSubscriptionInvoiceResult`. -/
def existingInvoiceResult (faults : OrderFaults) (invoiceId : String) (tables : OrderTables) :
    Except String InvoiceResult :=
  if faults.read then .error "read failed"
  else
    match Table.get? StripeSubscriptionInvoice.key tables.invoices (.stripe, invoiceId) with
    | none => .error "record not found"
    | some invoice =>
      .ok
        { created := false
          status := .duplicate
          userId := invoice.userId
          planId := invoice.planId
          invoiceRecordId := invoice.id
          renewalPurchaseEligible :=
            invoice.status = .processed ∧ invoice.billingReason = "subscription_cycle" }

/-- `recordId` and `subId` are the keys of the rows that it may insert. The unique index refuses an
invoice that is recorded already. -/
def completeStripeSubscriptionInvoice (calendar : Calendar) (faults : OrderFaults)
    (input : InvoiceInput) (recordId subId now : Int) (tables : OrderTables) :
    Except String (InvoiceResult × OrderTables) :=
  let invoiceId := trimSpace input.invoiceId
  if invoiceId = "" then .error "invoice id is empty"
  else
    match invoicePurpose input with
    | .error err => .error err
    | .ok purpose =>
      let record : StripeSubscriptionInvoice :=
        { id := recordId
          provider := .stripe
          invoiceId
          userId := purpose.userId
          planId := purpose.planId
          billingReason := trimSpace input.billingReason
          status := purpose.status }
      let result (created : Bool) : InvoiceResult :=
        { created
          status := purpose.status
          userId := purpose.userId
          planId := purpose.planId
          invoiceRecordId := recordId
          renewalPurchaseEligible := purpose.status = .processed ∧
            trimSpace input.billingReason = "subscription_cycle" }
      if record.key ∈ tables.invoices.map StripeSubscriptionInvoice.key then
        (existingInvoiceResult faults invoiceId tables).map fun existing => (existing, tables)
      else
        let recorded := { tables with invoices := tables.invoices ++ [record] }
        match purpose with
        | .other _ _ =>
          if faults.save then .error "commit failed" else .ok (result false, recorded)
        | .renewal plan userId =>
          match createFor calendar faults (.invoice .stripe invoiceId) subId userId plan false
            now recorded with
          | .error err => .error err
          | .ok created =>
            if faults.save then .error "commit failed" else .ok (result true, created)

/-! ## Callbacks in any order -/

inductive OrderAction where
  | placeOrder (order : SubscriptionOrder)
  | complete (faults : OrderFaults) (callback : OrderCallback)
      (plan : Except String SubscriptionPlan) (subId now : Int)
  | expire (faults : OrderFaults) (callback : OrderCallback) (now : Int)
  | invoice (faults : OrderFaults) (input : InvoiceInput) (recordId subId now : Int)
  | adminBind (faults : OrderFaults) (userId : Int) (plan : SubscriptionPlan) (subId now : Int)
  | changeTopUps (topUps : List TopUp)

namespace OrderTables

def commit (tables : OrderTables) (result : Except String OrderTables) : OrderTables :=
  match result with
  | .error _ => tables
  | .ok next => next

/-- A new order is pending; the unique index refuses a trade number that is in use. -/
def placeOrder (tables : OrderTables) (order : SubscriptionOrder) : OrderTables :=
  if order.tradeNo ∈ tables.orders.map SubscriptionOrder.tradeNo then tables
  else { tables with orders := tables.orders ++ [{ order with status := .pending }] }

def after (calendar : Calendar) (tables : OrderTables) : OrderAction → OrderTables
  | .placeOrder order => tables.placeOrder order
  | .complete faults callback plan subId now =>
    tables.commit (completeSubscriptionOrder calendar faults callback plan subId now tables)
  | .expire faults callback now =>
    tables.commit (expireSubscriptionOrder faults callback now tables)
  | .invoice faults input recordId subId now =>
    tables.commit ((completeStripeSubscriptionInvoice calendar faults input recordId subId now
      tables).map Prod.snd)
  | .adminBind faults userId plan subId now =>
    tables.commit (createFor calendar faults .admin subId userId plan true now tables)
  | .changeTopUps topUps => { tables with topUps }

end OrderTables

def orderSystem (calendar : Calendar) : System OrderTables OrderAction where
  step tables action := some (tables.after calendar action)

/-! ## What an action can do -/

structure CreatedFor (origin : SubscriptionOrigin) (tables next : OrderTables) : Prop where
  origins : ∃ id, next.origins = tables.origins ++ [(id, origin)] ∧
    id ∈ next.db.subs.map UserSubscription.id
  subs : ∀ id ∈ tables.db.subs.map UserSubscription.id,
    id ∈ next.db.subs.map UserSubscription.id

inductive OrderEffect (tables : OrderTables) : OrderTables → Prop
  | none (next : OrderTables) (horders : next.orders = tables.orders)
      (hinvoices : next.invoices = tables.invoices) (horigins : next.origins = tables.origins)
      (hdb : next.db = tables.db) : OrderEffect tables next
  | placed (order : SubscriptionOrder)
      (hfresh : order.tradeNo ∉ tables.orders.map SubscriptionOrder.tradeNo)
      (hstatus : order.status = .pending) :
      OrderEffect tables { tables with orders := tables.orders ++ [order] }
  | completed (next : OrderTables) (order saved : SubscriptionOrder)
      (horder : Table.get? SubscriptionOrder.tradeNo tables.orders order.tradeNo = some order)
      (hpending : order.status = .pending) (hkey : saved.tradeNo = order.tradeNo)
      (hsuccess : saved.status = .success) (horders : next.orders = (tables.saveOrder saved).orders)
      (hinvoices : next.invoices = tables.invoices)
      (hcreated : CreatedFor (.order order.tradeNo) tables next) : OrderEffect tables next
  | expired (order saved : SubscriptionOrder)
      (horder : Table.get? SubscriptionOrder.tradeNo tables.orders order.tradeNo = some order)
      (hpending : order.status = .pending) (hkey : saved.tradeNo = order.tradeNo)
      (hexpired : saved.status = .expired) : OrderEffect tables (tables.saveOrder saved)
  | recorded (record : StripeSubscriptionInvoice)
      (hfresh : record.key ∉ tables.invoices.map StripeSubscriptionInvoice.key) :
      OrderEffect tables { tables with invoices := tables.invoices ++ [record] }
  | renewed (next : OrderTables) (record : StripeSubscriptionInvoice)
      (hfresh : record.key ∉ tables.invoices.map StripeSubscriptionInvoice.key)
      (horders : next.orders = tables.orders)
      (hinvoices : next.invoices = tables.invoices ++ [record])
      (hcreated : CreatedFor (.invoice record.provider record.invoiceId) tables next) :
      OrderEffect tables next
  | bound (next : OrderTables) (horders : next.orders = tables.orders)
      (hinvoices : next.invoices = tables.invoices)
      (hcreated : CreatedFor .admin tables next) : OrderEffect tables next

variable {org : SubscriptionOrigin} {si now : Int} {cb : OrderCallback}
  {order : SubscriptionOrder}

open SubscriptionOrder

section

variable {calendar : Calendar} {fts : OrderFaults} {tables next : OrderTables}

theorem createFor_eq_ok (h : createFor calendar fts org si uid pln epl now tables = .ok next) :
    next.orders = tables.orders ∧ next.invoices = tables.invoices ∧ CreatedFor org tables next := by
  obtain ⟨-, h⟩ := check_eq_ok h
  obtain ⟨db, hdb, rfl⟩ := map_eq_ok h
  obtain ⟨eu, pg, -, hsu, -⟩ := createUserSubscriptionFromPlanTx_eq_ok hdb
  refine ⟨rfl, rfl, ⟨si, rfl, ?_⟩, ?_⟩
  · rw [hsu, map_append]
    exact mem_append_right _ (by simp [newSubscription])
  · intro id hid
    rw [hsu, map_append]
    exact mem_append_left _ hid

theorem readOrder_eq_ok (h : readOrder fts cb tables = .ok order) :
    get? tradeNo tables.orders cb.tradeNo = some order := by
  obtain ⟨-, h⟩ := check_eq_ok h
  split at h
  next => cases h
  next fnd hf =>
    obtain ⟨-, h⟩ := check_eq_ok h
    cases h
    unfold OrderTables.findOrder at hf
    split at hf
    · cases hf
    · exact hf

theorem completeSubscriptionOrder_eq_ok
    (h : completeSubscriptionOrder calendar fts cb pln si now tables = .ok next) :
    ∃ order, get? tradeNo tables.orders cb.tradeNo = some order ∧
      (order.status = .success ∧ next = tables ∨
        order.status = .pending ∧ ∃ rd crt topUps, pln = .ok rd ∧
          createFor calendar fts (.order order.tradeNo) si order.userId rd true now tables =
            .ok crt ∧
          upsertSubscriptionTopUpTx fts order now crt.topUps = .ok topUps ∧
          next = { crt with topUps }.saveOrder
            (order.completed cb.providerPayload cb.actualPaymentMethod now)) := by
  unfold completeSubscriptionOrder at h
  split at h
  next => cases h
  next order hor =>
    refine ⟨order, readOrder_eq_ok hor, ?_⟩
    split at h
    next hsu =>
      cases h
      exact .inl ⟨hsu, rfl⟩
    next =>
      obtain ⟨hpe, h⟩ := check_eq_ok h
      split at h
      next => cases h
      next rd _ =>
        split at h
        next => cases h
        next crt hcr =>
          split at h
          next => cases h
          next topUps hto =>
            obtain ⟨-, h⟩ := check_eq_ok h
            cases h
            exact .inr ⟨not_not.mp hpe, rd, crt, topUps, rfl, hcr, hto, rfl⟩

theorem completeSubscriptionOrder_effect
    (h : completeSubscriptionOrder calendar fts cb pln si now tables = .ok next) :
    OrderEffect tables next := by
  obtain ⟨order, hor, hca⟩ := completeSubscriptionOrder_eq_ok h
  rcases hca with ⟨-, rfl⟩ | ⟨hpe, read, created, tus, -, hcr, -, rfl⟩
  · -- a replay of a callback that was processed
    exact .none next rfl rfl rfl rfl
  obtain ⟨hod, hi, hcr⟩ := createFor_eq_ok hcr
  have hk : order.tradeNo = cb.tradeNo := get?_key hor
  rw [← hk] at hor
  refine .completed _ order
    (order.completed cb.providerPayload cb.actualPaymentMethod now)
    hor hpe rfl rfl ?_ hi ⟨hcr.origins, hcr.subs⟩
  simp only [OrderTables.saveOrder, hod]

theorem expireSubscriptionOrder_eq_ok (h : expireSubscriptionOrder fts cb now tables = .ok next) :
    ∃ order, get? tradeNo tables.orders cb.tradeNo = some order ∧
      (next = tables ∨ order.status = .pending ∧
        next = tables.saveOrder { order with status := .expired, completeTime := now }) := by
  unfold expireSubscriptionOrder at h
  split at h
  next => cases h
  next order hor =>
    refine ⟨order, readOrder_eq_ok hor, ?_⟩
    split at h
    · cases h
      exact .inl rfl
    next hpe =>
      obtain ⟨-, h⟩ := check_eq_ok h
      cases h
      exact .inr ⟨not_not.mp hpe, rfl⟩

theorem expireSubscriptionOrder_effect (h : expireSubscriptionOrder fts cb now tables = .ok next) :
    OrderEffect tables next := by
  obtain ⟨order, hor, rfl | ⟨hpe, rfl⟩⟩ := expireSubscriptionOrder_eq_ok h
  · exact .none next rfl rfl rfl rfl
  · have hk : order.tradeNo = cb.tradeNo := get?_key hor
    rw [← hk] at hor
    exact .expired order _ hor hpe rfl rfl

theorem completeStripeSubscriptionInvoice_effect
    (h : completeStripeSubscriptionInvoice calendar fts inp ri si now tables = .ok (res, next)) :
    OrderEffect tables next := by
  obtain ⟨-, h⟩ := check_eq_ok h
  split at h
  next => cases h
  next purp _ =>
    dsimp only at h
    split at h
    · -- the unique index refuses the record
      obtain ⟨exis, -, hpa⟩ := map_eq_ok h
      cases hpa
      exact .none tables rfl rfl rfl rfl
    next hfr =>
      split at h
      · obtain ⟨-, h⟩ := check_eq_ok h
        cases h
        exact .recorded _ hfr
      split at h
      next => cases h
      next crt hcr =>
        obtain ⟨-, h⟩ := check_eq_ok h
        cases h
        obtain ⟨hor, hi, hcr⟩ := createFor_eq_ok hcr
        exact .renewed _ _ hfr hor hi ⟨hcr.origins, hcr.subs⟩

theorem after_effect :
    OrderEffect tables (tables.after calendar act) := by
  have hn : OrderEffect tables tables := .none tables rfl rfl rfl rfl
  have hco : ∀ res : Except String OrderTables,
      (∀ next, res = .ok next → OrderEffect tables next) →
      OrderEffect tables (tables.commit res) := by
    intro res hef
    cases res with
    | error err => exact hn
    | ok next => exact hef next rfl
  cases act with
  | placeOrder order =>
    show OrderEffect tables (tables.placeOrder order)
    unfold OrderTables.placeOrder
    split
    · exact hn
    next hfr => exact .placed { order with status := .pending } hfr rfl
  | complete => exact hco _ fun next h => completeSubscriptionOrder_effect h
  | expire => exact hco _ fun next h => expireSubscriptionOrder_effect h
  | invoice =>
    refine hco _ fun next h => ?_
    obtain ⟨⟨res, tbl'⟩, hr, rfl⟩ := map_eq_ok h
    exact completeStripeSubscriptionInvoice_effect hr
  | adminBind =>
    refine hco _ fun next h => ?_
    obtain ⟨hor, hi, hcr⟩ := createFor_eq_ok h
    exact .bound next hor hi hcr
  | changeTopUps => exact .none _ rfl rfl rfl rfl

end

/-! ## The invariant -/

namespace OrderTables

def createdCount (tables : OrderTables) (origin : SubscriptionOrigin) : Nat :=
  (tables.origins.map Prod.snd).count origin

def HasSubscription (tables : OrderTables) (origin : SubscriptionOrigin) : Prop :=
  ∃ sub ∈ tables.db.subs, (sub.id, origin) ∈ tables.origins

def statusOf (tables : OrderTables) (tradeNo : String) : Option TopUpStatus :=
  (Table.get? SubscriptionOrder.tradeNo tables.orders tradeNo).map SubscriptionOrder.status

/-- Every order that is there stays there, and its status changes only from pending to success or
to expired. -/
def StatusMoves (tables next : OrderTables) : Prop :=
  ∀ tradeNo status, tables.statusOf tradeNo = some status →
    next.statusOf tradeNo = some status ∨
      status = .pending ∧
        (next.statusOf tradeNo = some .success ∨ next.statusOf tradeNo = some .expired)

/-- The statuses, the invoices and the subscriptions fit together. -/
structure Inv (tables : OrderTables) : Prop where
  nodup : (tables.orders.map SubscriptionOrder.tradeNo).Nodup
  rows : ∀ entry ∈ tables.origins, entry.1 ∈ tables.db.subs.map UserSubscription.id
  created_iff : ∀ tradeNo, 0 < tables.createdCount (.order tradeNo) ↔
    tables.statusOf tradeNo = some .success
  recorded : ∀ provider invoiceId, 0 < tables.createdCount (.invoice provider invoiceId) →
    (provider, invoiceId) ∈ tables.invoices.map StripeSubscriptionInvoice.key
  once : ∀ origin, origin ≠ .admin → tables.createdCount origin ≤ 1

variable {tables next : OrderTables}

theorem createdCount_of_eq (h : next.origins = tables.origins) :
    next.createdCount org = tables.createdCount org := by
  rw [createdCount, h, createdCount]

theorem statusOf_of_eq (h : next.orders = tables.orders) :
    next.statusOf tno = tables.statusOf tno := by
  rw [statusOf, h, statusOf]

theorem createdCount_of_created (hcr : CreatedFor org tables next) :
    next.createdCount other = tables.createdCount other + if org = other then 1 else 0 := by
  obtain ⟨id, hor, -⟩ := hcr.origins
  simp only [createdCount, hor, map_append, count_append, map_singleton,
    count_singleton, beq_iff_eq]

theorem rows_of_created (hcr : CreatedFor org tables next)
    (hro : ∀ ent ∈ tables.origins, ent.1 ∈ tables.db.subs.map UserSubscription.id) :
    ∀ ent ∈ next.origins, ent.1 ∈ next.db.subs.map UserSubscription.id := by
  obtain ⟨id, hor, hid⟩ := hcr.origins
  intro ent hen
  rw [hor] at hen
  rcases mem_append.mp hen with ho | hn
  · exact hcr.subs _ (hro ent ho)
  · obtain rfl := mem_singleton.mp hn
    exact hid

theorem statusOf_saveOrder (hor : get? tradeNo tables.orders order.tradeNo = some order)
    (hk : sv.tradeNo = order.tradeNo) (hod : next.orders = (tables.saveOrder sv).orders) :
    next.statusOf tno =
      if tno = order.tradeNo then some sv.status else tables.statusOf tno := by
  simp only [statusOf, hod, saveOrder]
  rw [get?_replace]
  split
  next heq =>
    rw [heq, hor, Option.map_some, if_pos hk.symm]
    rfl
  next hne =>
    cases hg : get? tradeNo tables.orders tno with
    | none => rfl
    | some row =>
      have hr : row.tradeNo ≠ sv.tradeNo := by
        rw [get?_key hg, hk]
        exact hne
      rw [Option.map_some, if_neg hr]

theorem statusOf_placed (hfr : order.tradeNo ∉ tables.orders.map tradeNo) (tno : String) :
    statusOf { tables with orders := tables.orders ++ [order] } tno =
      if tno = order.tradeNo then some order.status else tables.statusOf tno := by
  unfold statusOf
  rw [get?_append_row hfr]
  split <;> rfl

theorem statusMoves_of_effect (hef : OrderEffect tables next) : StatusMoves tables next := by
  intro tno status hst
  cases hef with
  | none next hor | renewed next record hfr hor | bound next hor =>
    exact .inl (by rw [statusOf_of_eq hor, hst])
  | placed order hfr =>
    left
    have hne : tno ≠ order.tradeNo := by
      rintro rfl
      rw [statusOf, get?_eq_none_iff.mpr hfr] at hst
      cases hst
    rw [statusOf_placed hfr, if_neg hne, hst]
  | completed next order sv hod hpe hk hsu hor =>
    rw [statusOf_saveOrder hod hk hor]
    split
    next heq =>
      subst heq
      rw [statusOf, hod] at hst
      cases hst
      exact .inr ⟨hpe, .inl (by rw [hsu])⟩
    next => exact .inl hst
  | expired order sv hod hpe hk hex =>
    rw [statusOf_saveOrder hod hk rfl]
    split
    next heq =>
      subst heq
      rw [statusOf, hod] at hst
      cases hst
      exact .inr ⟨hpe, .inr (by rw [hex])⟩
    next => exact .inl hst
  | recorded => exact .inl hst

theorem nodup_saveOrder (hno : (tables.orders.map tradeNo).Nodup) :
    ((tables.saveOrder sv).orders.map tradeNo).Nodup := by
  have hke : (tables.saveOrder sv).orders.map tradeNo =
      tables.orders.map tradeNo := map_key_replace
  rw [hke]
  exact hno

theorem Inv.kept (h : tables.Inv) (hor : next.origins = tables.origins)
    (hdb : next.db = tables.db) (hno : (next.orders.map tradeNo).Nodup)
    (hst : ∀ tno, next.statusOf tno = some .success ↔ tables.statusOf tno = some .success)
    (hi : ∀ key ∈ tables.invoices.map StripeSubscriptionInvoice.key,
      key ∈ next.invoices.map StripeSubscriptionInvoice.key) : next.Inv := by
  refine ⟨hno, by rw [hor, hdb]; exact h.rows, ?_, ?_, ?_⟩
  · intro tno
    rw [createdCount_of_eq hor, hst]
    exact h.created_iff tno
  · intro prov iid hp
    rw [createdCount_of_eq hor] at hp
    exact hi _ (h.recorded prov iid hp)
  · intro org hog
    rw [createdCount_of_eq hor]
    exact h.once org hog

theorem Inv.created (h : tables.Inv) (hcr : CreatedFor org tables next)
    (hno : (next.orders.map tradeNo).Nodup) (hfi : org ≠ .admin → ¬0 < tables.createdCount org)
    (hst : ∀ tno, next.statusOf tno = some .success ↔
      org = .order tno ∨ tables.statusOf tno = some .success)
    (hi : ∀ prov iid, org = .invoice prov iid ∨
        (prov, iid) ∈ tables.invoices.map StripeSubscriptionInvoice.key →
      (prov, iid) ∈ next.invoices.map StripeSubscriptionInvoice.key) : next.Inv := by
  refine ⟨hno, rows_of_created hcr h.rows, ?_, ?_, ?_⟩
  · intro tno
    rw [createdCount_of_created hcr, hst, ← h.created_iff]
    split
    next heq => simp [heq]
    next hne => simp [hne]
  · intro prov iid hp
    rw [createdCount_of_created hcr] at hp
    split at hp
    next heq => exact hi prov iid (.inl heq)
    next => exact hi prov iid (.inr (h.recorded prov iid hp))
  intro other hot
  rw [createdCount_of_created hcr]
  split
  next heq =>
    subst heq
    have := hfi hot
    omega
  next => exact h.once other hot

theorem Inv.of_effect (h : tables.Inv) (hef : OrderEffect tables next) : next.Inv := by
  cases hef with
  | none next hor hi hoi hdb =>
    refine h.kept hoi hdb (by rw [hor]; exact h.nodup) ?_ ?_
    · exact fun tno => by rw [statusOf_of_eq hor]
    · exact fun key hk => by rwa [hi]
  | placed order hfr hst =>
    refine h.kept rfl rfl (nodup_append_row h.nodup hfr) ?_ fun _ hk => hk
    intro tno
    rw [statusOf_placed hfr]
    split
    next heq =>
      -- there was no order with the number
      rw [hst, statusOf, heq, get?_eq_none_iff.mpr hfr]
      simp
    next => exact Iff.rfl
  | completed next order sv hod hpe hk hsu hor hi hcr =>
    -- the order was pending, so this is its first creation
    have ho : tables.statusOf order.tradeNo = some .pending := by
      rw [statusOf, hod, Option.map_some, hpe]
    refine h.created hcr (by rw [hor]; exact nodup_saveOrder h.nodup) ?_ ?_ ?_
    · intro _
      rw [h.created_iff, ho]
      simp
    · intro tno
      rw [statusOf_saveOrder hod hk hor]
      by_cases heq : tno = order.tradeNo
      · simp [heq, hsu]
      · simp [heq, Ne.symm heq]
    · rintro prov iid (hog | hre)
      · cases hog
      · rwa [hi]
  | expired order sv hod hpe hk hex =>
    refine h.kept rfl rfl (nodup_saveOrder h.nodup) ?_ fun _ hk => hk
    intro tno
    rw [statusOf_saveOrder hod hk rfl]
    split
    next heq =>
      rw [hex, statusOf, heq, hod, Option.map_some, hpe]
      simp
    next => exact Iff.rfl
  | recorded rcd hfr =>
    refine h.kept rfl rfl h.nodup (fun _ => Iff.rfl) fun key hk => ?_
    rw [map_append]
    exact mem_append_left _ hk
  | renewed next rcd hfr hor hi hcr =>
    refine h.created hcr (by rw [hor]; exact h.nodup) ?_ ?_ ?_
    · -- the record is new, so nothing was created for the invoice
      exact fun _ hp => hfr (h.recorded _ _ hp)
    · intro tno
      rw [statusOf_of_eq hor]
      simp
    intro prov iid hog
    rw [hi, map_append]
    rcases hog with heq | ho
    · cases heq
      exact mem_append_right _ (by simp [StripeSubscriptionInvoice.key])
    · exact mem_append_left _ ho
  | bound next hor hi hcr =>
    refine h.created hcr (by rw [hor]; exact h.nodup) (fun hne => absurd rfl hne) ?_ ?_
    · intro tno
      rw [statusOf_of_eq hor]
      simp
    · rintro prov iid (hog | hre)
      · cases hog
      · rwa [hi]

theorem Inv.hasSubscription_iff (h : tables.Inv) :
    tables.HasSubscription org ↔ 0 < tables.createdCount org := by
  rw [createdCount, count_pos_iff]
  constructor
  · rintro ⟨sub, -, hen⟩
    exact mem_map_of_mem (f := Prod.snd) hen
  intro hm
  obtain ⟨⟨id, other⟩, hen, rfl⟩ := mem_map.mp hm
  obtain ⟨sub, hs, rfl⟩ := mem_map.mp (h.rows _ hen)
  exact ⟨sub, hs, hen⟩

theorem inv_start (db : GroupTables) : (start db tus).Inv := by
  refine ⟨nodup_nil, ?_, ?_, ?_, ?_⟩ <;> simp [start, createdCount, statusOf, get?]

end OrderTables

/-- Over every sequence of orders placed, callbacks and invoices: at most one subscription is
created for an order and for an invoice; an order has a subscription exactly if its status is
success; and at every step the status of an order stays, or goes from pending to success or to
expired. -/
theorem subscription_orders_sound (calendar : Calendar) (db : GroupTables) (topUps : List TopUp)
    (actions : List OrderAction) :
    (∀ final, (orderSystem calendar).run (.start db topUps) actions = some final →
        (∀ tradeNo, final.createdCount (.order tradeNo) ≤ 1) ∧
        (∀ provider invoiceId, final.createdCount (.invoice provider invoiceId) ≤ 1) ∧
        ∀ order ∈ final.orders,
          final.HasSubscription (.order order.tradeNo) ↔ order.status = .success) ∧
      (orderSystem calendar).Guarded (fun tables action => ∀ next,
        (orderSystem calendar).step tables action = some next → tables.StatusMoves next)
        (.start db topUps) actions := by
  constructor
  · intro final hr
    have hi : final.Inv := by
      refine (orderSystem calendar).run_preserves OrderTables.Inv ?_
        (OrderTables.inv_start db) hr
      rintro tables action next h ⟨⟩
      exact h.of_effect (after_effect)
    refine ⟨fun tradeNo => hi.once _ (by simp), fun provider invoiceId => hi.once _ (by simp),
      fun order hor => ?_⟩
    rw [hi.hasSubscription_iff, hi.created_iff, OrderTables.statusOf,
      get?_of_mem hi.nodup hor]
    simp
  · refine (orderSystem calendar).guarded_of_forall ?_ _
    rintro tables action next ⟨⟩
    exact OrderTables.statusMoves_of_effect (after_effect)

end NewApi.Subscriptions
