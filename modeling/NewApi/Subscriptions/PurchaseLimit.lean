import NewApi.Subscriptions.Purchase

/-!
# The purchase limit of a plan

Open orders count neither when an order is created nor when its payment arrives, so a user can pay
for an order that the second check refuses. `paid_orders_completed_iff` says when every paid order
is completed.
-/

namespace NewApi.Subscriptions

open Lib Table List
open TopUps (PaymentProvider TopUp TopUpStatus)

/-! ## Paid orders -/

namespace PurchaseState

/-- The order that a callback tells the payment of, with its plan: one that was accepted, for a plan
with a limit, and that is paid at its own provider. -/
def paidOrder (plans : List PlanOffer) (state : PurchaseState) (callback : OrderCallback) :
    Option (SubscriptionOrder × PlanOffer) :=
  if callback.tradeNo ∈ state.accepted then
    match Table.get? SubscriptionOrder.tradeNo state.tables.orders callback.tradeNo with
    | none => none
    | some order =>
      match getSubscriptionPlanById plans order.planId with
      | .error _ => none
      | .ok offer =>
        if callback.expectedPaymentProvider = some order.paymentProvider ∧
            0 < offer.maxPurchasePerUser then some (order, offer)
        else none
  else none

def Completes (calendar : Calendar) (plans : List PlanOffer) (state : PurchaseState)
    (callback : OrderCallback) (subId now : Int) : Prop :=
  ∃ next, completePaid calendar plans callback subId now state.tables = .ok next ∧
    next.statusOf callback.tradeNo = some .success ∧
    next.HasSubscription (.order callback.tradeNo)

def PaidCompletes (calendar : Calendar) (plans : List PlanOffer) (state : PurchaseState) :
    PurchaseAction → Prop
  | .callback callback subId now =>
    ¬state.SubIdUsed subId → ∀ _paid ∈ state.paidOrder plans callback,
      state.Completes calendar plans callback subId now
  | .request _ _ | .grant _ _ _ _ => True

def HasRoom (calendar : Calendar) (plans : List PlanOffer) (state : PurchaseState) :
    PurchaseAction → Prop
  | .callback callback subId now =>
    ¬state.SubIdUsed subId → ∀ paid ∈ state.paidOrder plans callback,
      paid.1.status = .pending →
        planCount paid.1.userId paid.2.id state.tables.db.subs < paid.2.maxPurchasePerUser ∧
          (calcPlanEndTime calendar now paid.2.toSubscriptionPlan).isOk
  | .request _ _ | .grant _ _ _ _ => True

/-- `HasRoom` is decidable: it looks only at callbacks. -/
instance (calendar : Calendar) (plans : List PlanOffer) (state : PurchaseState)
    (action : PurchaseAction) : Decidable (state.HasRoom calendar plans action) := by
  delta PurchaseState.HasRoom
  split <;> infer_instance

end PurchaseState

variable {userId uid : Int} {pln pl : SubscriptionPlan} {topUps : List TopUp}

section

variable {calendar : Calendar} {plans : List PlanOffer} {tb next : OrderTables} {state :
  PurchaseState}
  {cb : OrderCallback} {order : SubscriptionOrder} {ofr : PlanOffer} {si now : Int}

theorem getSubscriptionPlanById_eq_ok {id : Int}
    (h : getSubscriptionPlanById plans id = .ok ofr) : 0 < id ∧ ofr.id = id := by
  obtain ⟨hp, h⟩ := check_eq_ok h
  split at h
  next => cases h
  next fnd hfn =>
    cases h
    have hk := get?_key hfn
    exact ⟨not_le.mp hp, hk⟩

theorem paidOrder_eq_some (h : state.paidOrder plans cb = some (order, ofr)) :
    cb.tradeNo ∈ state.accepted ∧
      get? SubscriptionOrder.tradeNo state.tables.orders cb.tradeNo = some order ∧
      getSubscriptionPlanById plans order.planId = .ok ofr ∧
      cb.expectedPaymentProvider = some order.paymentProvider ∧
      0 < ofr.maxPurchasePerUser := by
  unfold PurchaseState.paidOrder at h
  split at h
  next hac =>
    split at h
    next => cases h
    next fnd hfn =>
      split at h
      next => cases h
      next rd hre =>
        split at h
        next hpa =>
          cases h
          exact ⟨hac, hfn, hre, hpa.1, hpa.2⟩
        next => cases h
  next => cases h

theorem createUserSubscriptionFromPlanTx_isOk_iff {id : Int} {db : GroupTables} (hpl : pl.id ≠ 0)
    (hus : 0 < uid) (hli : 0 < pl.maxPurchasePerUser) :
    (∃ db', createUserSubscriptionFromPlanTx calendar id uid pl true now db = .ok db') ↔
      planCount uid pl.id db.subs < pl.maxPurchasePerUser ∧
        (calcPlanEndTime calendar now pl).isOk := by
  unfold createUserSubscriptionFromPlanTx
  rw [if_neg hpl, if_neg (not_le.mpr hus)]
  split
  next hfu =>
    have hcn : ¬(planCount uid pl.id db.subs : Int) < pl.maxPurchasePerUser := not_lt.mpr hfu.2.2
    simp [hcn]
  next hro =>
    have hcn : (planCount uid pl.id db.subs : Int) < pl.maxPurchasePerUser := by
      by_contra hfu
      exact hro ⟨rfl, hli, not_lt.mp hfu⟩
    cases calcPlanEndTime calendar now pl with
    | error err => simp [Except.isOk, Except.toBool]
    | ok eu =>
      refine iff_of_true ?_ ⟨hcn, rfl⟩
      dsimp only
      split <;> exact ⟨_, rfl⟩

theorem createFor_topUps
    (h : createFor calendar fts org si uid pl epl now tb = .ok next) : next.topUps = tb.topUps := by
  obtain ⟨-, h⟩ := check_eq_ok h
  obtain ⟨db, -, rfl⟩ := map_eq_ok h
  rfl

theorem upsertSubscriptionTopUpTx_of_fresh (now : Int)
    (hfr : order.tradeNo ∉ topUps.map TopUp.tradeNo) :
    ∃ tus', upsertSubscriptionTopUpTx {} order now topUps = .ok tus' := by
  unfold upsertSubscriptionTopUpTx
  rw [get?_eq_none_iff.mpr hfr]
  exact ⟨_, rfl⟩

theorem mem_upsertSubscriptionTopUpTx
    (h : upsertSubscriptionTopUpTx fts order now topUps = .ok tus')
    (hm : tu ∈ tus') : tu.tradeNo ∈ topUps.map TopUp.tradeNo ∨ tu.tradeNo = order.tradeNo := by
  obtain ⟨-, h⟩ := check_eq_ok h
  split at h
  next =>
    cases h
    rcases mem_append.mp hm with ho | hn
    · exact .inl (mem_map_of_mem ho)
    · obtain rfl := mem_singleton.mp hn
      exact .inr rfl
  next fnd _ =>
    obtain ⟨-, h⟩ := check_eq_ok h
    cases h
    left
    have hk := mem_map_of_mem (f := TopUp.tradeNo) hm
    rwa [map_key_replace] at hk

theorem readOrder_of_paid (hne : cb.tradeNo ≠ "")
    (hg : get? SubscriptionOrder.tradeNo tb.orders cb.tradeNo = some order)
    (hpr : cb.expectedPaymentProvider = some order.paymentProvider) :
    readOrder {} cb tb = .ok order := by
  have hf : tb.findOrder {} cb.tradeNo = some order := hg
  unfold readOrder
  rw [if_neg hne, hf]
  exact if_neg fun hmi => hmi.2 hpr

theorem completeSubscriptionOrder_isOk_iff (hre : readOrder {} cb tb = .ok order)
    (hpe : order.status = .pending) (hfr : order.tradeNo ∉ tb.topUps.map TopUp.tradeNo) :
    (∃ next, completeSubscriptionOrder calendar {} cb (.ok pl) si now tb =
        .ok next) ↔
      ∃ db, createUserSubscriptionFromPlanTx calendar si order.userId pl true now tb.db =
        .ok db := by
  unfold completeSubscriptionOrder createFor
  simp only [hre, hpe, ne_eq, not_true_eq_false, if_false, Bool.false_eq_true]
  cases createUserSubscriptionFromPlanTx calendar si order.userId pl true now tb.db with
  | error err => simp [Except.map]
  | ok db =>
    obtain ⟨topUps, hto⟩ := upsertSubscriptionTopUpTx_of_fresh now hfr
    simp only [Except.map, hto]
    exact iff_of_true ⟨_, rfl⟩ ⟨db, rfl⟩

end

/-! ## The invariant -/

/-- No order is lost: it stays with its user and its plan, and its status stays or becomes
success. -/
def OrdersKept (tables next : OrderTables) : Prop :=
  ∀ tradeNo order, Table.get? SubscriptionOrder.tradeNo tables.orders tradeNo = some order →
    ∃ order', Table.get? SubscriptionOrder.tradeNo next.orders tradeNo = some order' ∧
      order'.userId = order.userId ∧ order'.planId = order.planId ∧
      (order'.status = order.status ∨ order'.status = .success)

/-- An accepted order is there, pending or successful; with a limit its user has a valid id. -/
def AcceptedOrder (plans : List PlanOffer) (tables : OrderTables) (tradeNo : String) : Prop :=
  IsOrderNo tradeNo ∧
    ∃ order, Table.get? SubscriptionOrder.tradeNo tables.orders tradeNo = some order ∧
      (order.status = .pending ∨ order.status = .success) ∧
      ∀ offer, getSubscriptionPlanById plans order.planId = .ok offer →
        0 < offer.maxPurchasePerUser → 0 < order.userId

/-- The tables are sound, only the top-up of a successful order has the number of an order, and the
accepted orders are there. -/
structure PurchaseInv (plans : List PlanOffer) (state : PurchaseState) : Prop where
  tables : state.tables.Inv
  mirrored : ∀ topUp ∈ state.tables.topUps, IsOrderNo topUp.tradeNo →
    state.tables.statusOf topUp.tradeNo = some .success
  accepted : ∀ tradeNo ∈ state.accepted, AcceptedOrder plans state.tables tradeNo

variable {request req : PaymentRequest}

open OrderTables

open PaymentRequest

section

variable {calendar : Calendar} {settings : PaymentSettings} {plans : List PlanOffer}
  {tables tb next : OrderTables} {state state' : PurchaseState} {callback cb : OrderCallback}
  {order ord : SubscriptionOrder} {ofr : PlanOffer} {subId si now : Int} {tradeNo tno : String}

theorem statusOf_eq_some_iff :
    tb.statusOf tno = some status ↔
      ∃ order, get? SubscriptionOrder.tradeNo tb.orders tno = some order ∧
        order.status = status := by
  simp [statusOf]

theorem get?_saveOrder
    (hg : get? SubscriptionOrder.tradeNo tb.orders tno = some order) :
    get? SubscriptionOrder.tradeNo (tb.saveOrder sv).orders tno =
      some (if order.tradeNo = sv.tradeNo then sv else order) := by
  rw [saveOrder, get?_replace, hg, Option.map_some]

namespace OrdersKept

theorem of_eq (h : next.orders = tb.orders) : OrdersKept tb next := by
  intro tradeNo order hg
  exact ⟨order, by rwa [h], rfl, rfl, .inl rfl⟩

theorem placed (hfr : order.tradeNo ∉ tb.orders.map SubscriptionOrder.tradeNo) :
    OrdersKept tb { tb with orders := tb.orders ++ [order] } := by
  intro tradeNo row hg
  have hne : tradeNo ≠ order.tradeNo := by
    rintro rfl
    rw [get?_eq_none_iff.mpr hfr] at hg
    cases hg
  refine ⟨row, ?_, rfl, rfl, .inl rfl⟩
  rw [get?_append_row hfr, if_neg hne, hg]

theorem saved (hg : get? SubscriptionOrder.tradeNo tb.orders sv.tradeNo = some order)
    (hus : sv.userId = order.userId) (hpl : sv.planId = order.planId) (hst : sv.status = .success)
    (hor : next.orders = (tb.saveOrder sv).orders) : OrdersKept tb next := by
  intro tradeNo row hr
  have hx : get? SubscriptionOrder.tradeNo next.orders tradeNo =
      some (if row.tradeNo = sv.tradeNo then sv else row) := by
    rw [hor, get?_saveOrder hr]
  refine ⟨_, hx, ?_⟩
  split
  next heq =>
    rw [← heq, get?_key hr, hr] at hg
    cases hg
    exact ⟨hus, hpl, .inr hst⟩
  next => exact ⟨rfl, rfl, .inl rfl⟩

theorem statusOf_success (h : OrdersKept tb next) (hst : tb.statusOf tno = some .success) :
    next.statusOf tno = some .success := by
  obtain ⟨order, hg, hsu⟩ := statusOf_eq_some_iff.mp hst
  obtain ⟨order', hg', -, -, hst'⟩ := h tno order hg
  refine statusOf_eq_some_iff.mpr ⟨order', hg', ?_⟩
  rcases hst' with hs | hd
  · rw [hs, hsu]
  · exact hd

theorem acceptedOrder (h : OrdersKept tb next)
    (hac : AcceptedOrder plans tb tno) : AcceptedOrder plans next tno := by
  obtain ⟨hno, order, hg, hst, hus⟩ := hac
  obtain ⟨order', hg', hus', hpl', hst'⟩ := h tno order hg
  refine ⟨hno, order', hg', ?_, ?_⟩
  · rcases hst' with hs | hd
    · rwa [hs]
    · exact .inr hd
  · rw [hpl', hus']
    exact hus

end OrdersKept

theorem PurchaseInv.of_kept (h : PurchaseInv plans state) (hi : state'.tables.Inv)
    (hk : OrdersKept state.tables state'.tables) (hmi : ∀ tu ∈ state'.tables.topUps,
      tu.tradeNo ∈ state.tables.topUps.map TopUp.tradeNo ∨
        state'.tables.statusOf tu.tradeNo = some .success)
    (hac : ∀ tradeNo ∈ state'.accepted, tradeNo ∈ state.accepted ∨
      AcceptedOrder plans state'.tables tradeNo) :
    PurchaseInv plans state' := by
  refine ⟨hi, ?_, ?_⟩
  · intro tu hm hno
    rcases hmi tu hm with ho | hsu
    · obtain ⟨old, ho, hke⟩ := mem_map.mp ho
      rw [← hke] at hno ⊢
      exact hk.statusOf_success (h.mirrored old ho hno)
    · exact hsu
  intro tradeNo hm
  rcases hac tradeNo hm with ho | hn
  · exact hk.acceptedOrder (h.accepted tradeNo ho)
  · exact hn

theorem completePaid_eq_ok (h : completePaid calendar plans cb si now tb = .ok next) :
    OrdersKept tb next ∧ next.statusOf cb.tradeNo = some .success ∧
      ∀ tu ∈ next.topUps, tu.tradeNo ∈ tb.topUps.map TopUp.tradeNo ∨ tu.tradeNo = cb.tradeNo := by
  obtain ⟨order, hg, hca⟩ := completeSubscriptionOrder_eq_ok h
  have hke : order.tradeNo = cb.tradeNo := get?_key hg
  rcases hca with ⟨hsu, rfl⟩ | ⟨-, pln, created, topUps, -, hcr, hto, hx⟩
  · refine ⟨.of_eq rfl, statusOf_eq_some_iff.mpr ⟨order, hg, hsu⟩, ?_⟩
    exact fun tu hm => .inl (mem_map_of_mem hm)
  let sv := order.completed cb.providerPayload cb.actualPaymentMethod now
  have hor : next.orders = (tb.saveOrder sv).orders := by
    rw [hx]
    simp only [saveOrder, (createFor_eq_ok hcr).1, sv]
  rw [createFor_topUps hcr] at hto
  rw [← hke] at hg ⊢
  have hsv : get? SubscriptionOrder.tradeNo tb.orders sv.tradeNo = some order := hg
  refine ⟨.saved hsv rfl rfl rfl hor, ?_, ?_⟩
  · have hk : sv.tradeNo = order.tradeNo := rfl
    rw [statusOf_saveOrder hg hk hor, if_pos rfl]
    rfl
  · intro tu hm
    rw [hx] at hm
    exact mem_upsertSubscriptionTopUpTx hto hm

theorem completePaid_inv (hi : tb.Inv)
    (h : completePaid calendar plans cb si now tb = .ok next) : next.Inv :=
  hi.of_effect (completeSubscriptionOrder_effect h)

theorem PurchaseInv.paid (h : PurchaseInv plans state) :
    PurchaseInv plans { state with
      tables := state.tables.commit (completePaid calendar plans cb si now state.tables) } := by
  cases hr : completePaid calendar plans cb si now state.tables with
  | error err => exact h
  | ok next =>
    obtain ⟨hk, hsu, hto⟩ := completePaid_eq_ok hr
    refine h.of_kept (completePaid_inv h.tables hr) hk ?_ fun _ hm => .inl hm
    intro tu hm
    rcases hto tu hm with ho | hn
    · exact .inl ho
    · rw [hn]
      exact .inr hsu

theorem PurchaseInv.granted (h : PurchaseInv plans state) :
    PurchaseInv plans { state with
      tables := state.tables.commit
        (adminBindSubscription calendar plans uid pid si now state.tables) } := by
  cases hr : adminBindSubscription calendar plans uid pid si now state.tables with
  | error err => exact h
  | ok next =>
    obtain ⟨-, hr⟩ := check_eq_ok hr
    split at hr
    next => cases hr
    next ofr _ =>
      obtain ⟨hor, hi, hcr⟩ := createFor_eq_ok hr
      refine h.of_kept (h.tables.of_effect (.bound _ hor hi hcr))
        (.of_eq hor) ?_ fun _ hm => .inl hm
      intro tu hm
      left
      rw [← createFor_topUps hr]
      exact mem_map_of_mem hm

/-! ## Requests -/

theorem checkPurchaseLimit_eq_ok (h : checkPurchaseLimit ofr uid sbs = .ok ())
    (hli : 0 < ofr.maxPurchasePerUser) : 0 < uid := by
  unfold checkPurchaseLimit at h
  rw [if_pos hli] at h
  split at h
  next => cases h
  next cnt hcn =>
    obtain ⟨hva, -⟩ := check_eq_ok hcn
    omega

theorem requestPlan_eq_ok {pi : Int} {sbs : List UserSubscription}
    (h : requestPlan settings plans req uid pi sbs = .ok ofr) :
    getSubscriptionPlanById plans ofr.id = .ok ofr ∧ (0 < ofr.maxPurchasePerUser → 0 < uid) := by
  obtain ⟨-, h⟩ := check_eq_ok h
  split at h
  next => cases h
  next rd hre =>
    obtain ⟨-, h⟩ := check_eq_ok h
    split at h
    next => cases h
    next =>
      split at h
      next => cases h
      next hli =>
        cases h
        rw [(getSubscriptionPlanById_eq_ok hre).2]
        exact ⟨hre, checkPurchaseLimit_eq_ok hli⟩

theorem isOrderNo_tradeNo : IsOrderNo (request.tradeNo userId rnd now) := by
  cases request with
  | epay pm =>
    left
    simp [tradeNo, startsWith]
  | stripe | creem =>
    right
    simp [tradeNo, startsWith]

theorem OrdersKept.expired (hfr : order.tradeNo ∉ tb.orders.map SubscriptionOrder.tradeNo)
    (hcb : cb.tradeNo = order.tradeNo)
    (h : expireSubscriptionOrder {} cb now { tb with orders := tb.orders ++ [order] } = .ok next) :
    OrdersKept tb next ∧ next.topUps = tb.topUps := by
  obtain ⟨row, hr, hx⟩ := expireSubscriptionOrder_eq_ok h
  rcases hx with rfl | ⟨-, rfl⟩
  · exact ⟨.placed hfr, rfl⟩
  refine ⟨?_, rfl⟩
  have hke : row.tradeNo = order.tradeNo := (get?_key hr).trans hcb
  intro tradeNo old ho
  obtain ⟨old', ho', hk⟩ := OrdersKept.placed hfr tradeNo old ho
  have hne : old'.tradeNo ≠ row.tradeNo := by
    rw [get?_key ho', hke]
    rintro rfl
    rw [get?_eq_none_iff.mpr hfr] at ho
    cases ho
  refine ⟨old', (get?_saveOrder ho').trans ?_, hk⟩
  exact congrArg some (if_neg hne)

theorem PaymentRequest.handle_cases :
    (request.handle settings plans inp tables).tables = tables ∧
        (∃ err, (request.handle settings plans inp tables).answer = .error err) ∨
      ∃ ofr pld,
        requestPlan settings plans request inp.userId inp.planId tables.db.subs = .ok ofr ∧
        tables.insert (request.order inp.userId ofr inp.random inp.now) = .ok pld ∧
        ((request.handle settings plans inp tables).tables = pld ∨
          (∃ err, (request.handle settings plans inp tables).answer = .error err) ∧
          (request.handle settings plans inp tables).tables =
            pld.commit (expireSubscriptionOrder {}
              { tradeNo := request.tradeNo inp.userId inp.random inp.now
                expectedPaymentProvider := some .epay } inp.now pld)) := by
  cases request with
  | epay pm =>
    unfold handle subscriptionRequestEpay
    dsimp only
    split
    next => exact .inl ⟨rfl, _, rfl⟩
    next ofr hof =>
      split
      · exact .inl ⟨rfl, _, rfl⟩
      split
      · exact .inl ⟨rfl, _, rfl⟩
      split
      next => exact .inl ⟨rfl, _, rfl⟩
      next pld hpl =>
        refine .inr ⟨ofr, pld, hof, hpl, ?_⟩
        split
        · exact .inr ⟨⟨_, rfl⟩, rfl⟩
        · exact .inl rfl
  | stripe =>
    unfold handle subscriptionRequestStripePay
    dsimp only
    split
    next => exact .inl ⟨rfl, _, rfl⟩
    next ofr hof =>
      split
      · exact .inl ⟨rfl, _, rfl⟩
      split
      next => exact .inl ⟨rfl, _, rfl⟩
      next pld hpl => exact .inr ⟨ofr, pld, hof, hpl, .inl rfl⟩
  | creem =>
    unfold handle subscriptionRequestCreemPay
    dsimp only
    split
    next => exact .inl ⟨rfl, _, rfl⟩
    next ofr hof =>
      split
      next => exact .inl ⟨rfl, _, rfl⟩
      next pld hpl =>
        refine .inr ⟨ofr, pld, hof, hpl, .inl ?_⟩
        split <;> rfl

theorem OrderTables.insert_eq_ok (h : tb.insert order = .ok next) :
    order.tradeNo ∉ tb.orders.map SubscriptionOrder.tradeNo ∧
      next = { tb with orders := tb.orders ++ [order] } := by
  obtain ⟨hfr, h⟩ := check_eq_ok h
  exact ⟨hfr, (Except.ok.inj h).symm⟩

theorem acceptedOrder_placed {inp : OrderInput}
    (hof : requestPlan settings plans req inp.userId inp.planId tb.db.subs = .ok ofr)
    (hpl : tb.insert (req.order inp.userId ofr inp.random inp.now) = .ok next) :
    AcceptedOrder plans next (req.tradeNo inp.userId inp.random inp.now) := by
  obtain ⟨hfr, rfl⟩ := insert_eq_ok hpl
  obtain ⟨hre, hus⟩ := requestPlan_eq_ok hof
  refine ⟨isOrderNo_tradeNo .., req.order inp.userId ofr inp.random inp.now, ?_, .inl rfl, ?_⟩
  · exact (get?_append_row hfr).trans (if_pos rfl)
  · intro other hot hli
    obtain rfl := Except.ok.inj (hre.symm.trans hot)
    exact hus hli

theorem mem_afterRequest_accepted
    (hm : tno ∈ (state.afterRequest settings plans req inp).accepted) :
    tno ∈ state.accepted ∨
      (req.handle settings plans inp state.tables).answer = .ok () ∧
        tno = req.tradeNo inp.userId inp.random inp.now := by
  unfold PurchaseState.afterRequest at hm
  dsimp only at hm
  split at hm
  next han =>
    rcases mem_append.mp hm with ho | hn
    · exact .inl ho
    · exact .inr ⟨han, mem_singleton.mp hn⟩
  next => exact .inl hm

theorem PaymentRequest.handle_spec (hi : tb.Inv) :
    (request.handle settings plans inp tb).tables.Inv ∧
      OrdersKept tb (request.handle settings plans inp tb).tables ∧
      (request.handle settings plans inp tb).tables.topUps = tb.topUps ∧
      ((request.handle settings plans inp tb).answer = .ok () →
        AcceptedOrder plans (request.handle settings plans inp tb).tables
          (request.tradeNo inp.userId inp.random inp.now)) := by
  rcases handle_cases with
    ⟨hs, err, her⟩ | ⟨ofr, placed, hof, hpd, hca⟩
  · rw [hs, her]
    exact ⟨hi, .of_eq rfl, rfl, fun hok => by cases hok⟩
  have hac := acceptedOrder_placed hof hpd
  obtain ⟨hfr, rfl⟩ := insert_eq_ok hpd
  have hpl := hi.of_effect (.placed _ hfr rfl)
  rcases hca with heq | ⟨⟨err, her⟩, heq⟩
  · rw [heq]
    exact ⟨hpl, .placed hfr, rfl, fun _ => hac⟩
  rw [her, heq]
  generalize hex : expireSubscriptionOrder _ _ _ _ = res
  cases res with
  | error err => exact ⟨hpl, .placed hfr, rfl, fun hok => by cases hok⟩
  | ok next =>
    obtain ⟨hk, hto⟩ := OrdersKept.expired hfr rfl hex
    exact ⟨hpl.of_effect (expireSubscriptionOrder_effect hex), hk, hto, fun hok => by cases hok⟩

theorem PurchaseInv.requested (h : PurchaseInv plans state) :
    PurchaseInv plans (state.afterRequest settings plans request inp) := by
  obtain ⟨hi, hk, hto, hac⟩ := handle_spec h.tables
  refine h.of_kept hi hk ?_ ?_
  · intro tu hm
    left
    rw [← hto]
    exact mem_map_of_mem hm
  intro tradeNo hm
  rcases mem_afterRequest_accepted hm with ho | ⟨hok, rfl⟩
  · exact .inl ho
  · exact .inr (hac hok)

theorem PurchaseInv.step (h : PurchaseInv plans state)
    (hs : state.step calendar settings plans act = some state') :
    PurchaseInv plans state' := by
  cases act with
  | request request inp =>
    cases hs
    exact h.requested
  | callback callback subId now =>
    rw [PurchaseState.step] at hs
    split at hs
    · cases hs
    · cases hs
      exact h.paid
  | grant userId pi subId now =>
    rw [PurchaseState.step] at hs
    split at hs
    · cases hs
    · cases hs
      exact h.granted

theorem purchaseInv_start (db : GroupTables)
    (hto : ∀ tu ∈ topUps, ¬IsOrderNo tu.tradeNo) : PurchaseInv plans (.start db topUps) where
  tables := inv_start db
  mirrored := fun tu hm hno => absurd hno (hto tu hm)
  accepted := forall_mem_nil _

/-! ## When a paid order is completed -/

theorem completes_iff (h : PurchaseInv plans state) :
    state.Completes calendar plans cb si now ↔
      ∃ next, completePaid calendar plans cb si now state.tables = .ok next := by
  constructor
  · rintro ⟨next, hx, -⟩
    exact ⟨next, hx⟩
  rintro ⟨next, hx⟩
  obtain ⟨-, hsu, -⟩ := completePaid_eq_ok hx
  have hi := completePaid_inv h.tables hx
  refine ⟨next, hx, hsu, ?_⟩
  rw [hi.hasSubscription_iff, hi.created_iff]
  exact hsu

theorem IsOrderNo.ne_empty (h : IsOrderNo tno) : tno ≠ "" := by
  rintro rfl
  exact absurd h (by decide)

theorem completes_paidOrder_iff (h : PurchaseInv plans state)
    (hpa : state.paidOrder plans cb = some (ord, ofr)) :
    state.Completes calendar plans cb si now ↔
      (ord.status = .pending →
        planCount ord.userId ofr.id state.tables.db.subs < ofr.maxPurchasePerUser ∧
          (calcPlanEndTime calendar now ofr.toSubscriptionPlan).isOk) := by
  obtain ⟨hac, hg, hof, hpr, hli⟩ := paidOrder_eq_some hpa
  obtain ⟨hno, fnd, hfn, hst, hus⟩ := h.accepted _ hac
  obtain rfl := Option.some.inj (hg.symm.trans hfn)
  have hre := readOrder_of_paid hno.ne_empty hg hpr
  have hpl : orderPlan plans state.tables cb.tradeNo = .ok ofr.toSubscriptionPlan := by
    unfold orderPlan
    rw [hg]
    dsimp only
    rw [hof]
    rfl
  rw [completes_iff h]
  unfold completePaid
  rw [hpl]
  rcases hst with hpe | hsu
  · have hfr : ord.tradeNo ∉ state.tables.topUps.map TopUp.tradeNo := by
      -- only the top-up of a successful order has the number of an order
      intro hm
      obtain ⟨tu, hm, hk⟩ := mem_map.mp hm
      rw [get?_key hg] at hk
      have hd := h.mirrored tu hm (by rwa [hk])
      rw [hk, statusOf, hg, Option.map_some, hpe] at hd
      cases hd
    obtain ⟨hp, hid⟩ := getSubscriptionPlanById_eq_ok hof
    have hpi : ofr.id ≠ 0 := by omega
    rw [completeSubscriptionOrder_isOk_iff hre hpe hfr,
      createUserSubscriptionFromPlanTx_isOk_iff hpi (hus ofr hof hli) hli]
    exact ⟨fun hro _ => hro, fun hro => hro hpe⟩
  · refine iff_of_true ⟨state.tables, ?_⟩ fun hpe => ?_
    · unfold completeSubscriptionOrder
      rw [hre]
      exact if_pos hsu
    · rw [hsu] at hpe
      cases hpe

end

/-- Every accepted and paid order of a plan with a limit is completed by its callbacks exactly in
the sequences in which, whenever the payment of a pending order arrives, the user has fewer
subscriptions of the plan than it allows and the plan has a valid duration. -/
theorem paid_orders_completed_iff (calendar : Calendar) (settings : PaymentSettings)
    (plans : List PlanOffer) (db : GroupTables) (topUps : List TopUp)
    (htopUps : ∀ topUp ∈ topUps, ¬IsOrderNo topUp.tradeNo) (actions : List PurchaseAction) :
    (purchaseSystem calendar settings plans).Guarded
        (fun state action => state.PaidCompletes calendar plans action) (.start db topUps) actions ↔
      (purchaseSystem calendar settings plans).Guarded
        (fun state action => state.HasRoom calendar plans action) (.start db topUps) actions := by
  refine System.guarded_iff _ (PurchaseInv plans) ?_ ?_ (purchaseInv_start db htopUps)
  · intro state action hi
    cases action with
    | request | grant => exact Iff.rfl
    | callback callback subId now =>
      refine forall_congr' fun _ => ?_
      refine forall_congr' fun paid => forall_congr' fun hpa => ?_
      exact completes_paidOrder_iff hi hpa
  · exact fun state action next hi _ hs => hi.step hs

def oncePlan : PlanOffer where
  id := 1
  durationUnit := .day
  durationValue := 30
  maxPurchasePerUser := 1
  priceAmount := 10

def orderOnce (random : String) (now : Int) : PurchaseAction :=
  .request (.epay "alipay") { userId := 7, planId := 1, random, now }

def oncePaid (random : String) (now : Int) : OrderCallback where
  tradeNo := (PaymentRequest.epay "alipay").tradeNo 7 random now
  providerPayload := "paid"
  expectedPaymentProvider := some .epay
  actualPaymentMethod := "alipay"

def onceSystem : System PurchaseState PurchaseAction :=
  purchaseSystem plainCalendar { payMethods := ["alipay"] } [oncePlan]

def plainTopUp : TopUp where
  tradeNo := "USR7NOx0"
  userId := 7
  amount := 1
  money := 1
  paymentMethod := "alipay"
  paymentProvider := .epay

/-- An order, its payment and a second callback for it: each callback completes the order. -/
theorem single_order_completed :
    onceSystem.Guarded (fun state action => state.PaidCompletes plainCalendar [oncePlan] action)
      (.start defaultGroups.db [plainTopUp])
      [orderOnce "a" 10, .callback (oncePaid "a" 10) 1 20, .callback (oncePaid "a" 10) 2 30] :=
  (paid_orders_completed_iff plainCalendar { payMethods := ["alipay"] } [oncePlan] defaultGroups.db
    [plainTopUp] (by decide +kernel) _).mpr (by decide +kernel)

def paymentError (actions : List PurchaseAction) (callback : OrderCallback) (subId now : Int) :
    Option String :=
  (onceSystem.run (.start defaultGroups.db []) actions).bind fun final =>
    if (final.paidOrder [oncePlan] callback).isSome then
      match completePaid plainCalendar [oncePlan] callback subId now final.tables with
      | .error err => some err
      | .ok _ => none
    else none

theorem paymentError_eq_some (h : paymentError acts callback subId now = some err) :
    ∃ fin, onceSystem.run (.start defaultGroups.db []) acts = some fin ∧
      (fin.paidOrder [oncePlan] callback).isSome ∧
      completePaid plainCalendar [oncePlan] callback subId now fin.tables = .error err := by
  obtain ⟨fin, hr, h⟩ := Option.bind_eq_some_iff.mp h
  refine ⟨fin, hr, ?_⟩
  split at h
  next hpa =>
    split at h
    next err' her =>
      cases h
      exact ⟨hpa, her⟩
    next => cases h
  next => cases h

/-- Two orders of a plan that can be bought once are accepted and paid: the second one is refused.
So is an order that is paid after an admin has granted the plan. -/
theorem second_paid_order_refused :
    (∃ final, onceSystem.run (.start defaultGroups.db [])
        [orderOnce "a" 10, orderOnce "b" 11, .callback (oncePaid "a" 10) 1 20] = some final ∧
      (final.paidOrder [oncePlan] (oncePaid "b" 11)).isSome ∧
      completePaid plainCalendar [oncePlan] (oncePaid "b" 11) 2 21 final.tables =
        .error "已达到该套餐购买上限") ∧
    ∃ final, onceSystem.run (.start defaultGroups.db [])
        [orderOnce "a" 10, .grant 7 1 1 15] = some final ∧
      (final.paidOrder [oncePlan] (oncePaid "a" 10)).isSome ∧
      completePaid plainCalendar [oncePlan] (oncePaid "a" 10) 2 20 final.tables =
        .error "已达到该套餐购买上限" :=
  ⟨paymentError_eq_some (by decide +kernel), paymentError_eq_some (by decide +kernel)⟩

end NewApi.Subscriptions
