import NewApi.TopUps.ManualCredit

/-!
# What an Epay order is credited with

In the display in tokens `RequestEpay` charges for the tokens requested, but stores a whole number
of units. `epay_credit_eq_paid_iff`: what was asked for is credited exactly if the units are whole
and fit into an `int`, and paid for to the cent exactly if the price is one of whole cents too.
-/

namespace NewApi.TopUps

open Lib Int64

structure PayPricing where
  /-- `operation_setting.Price`. -/
  price : ℚ
  /-- `GetTopupGroupRatio` of the user's group. -/
  topupGroupRatio : ℚ
  amountDiscount : Int → Option ℚ := fun _ => none

def PayPricing.discount (pricing : PayPricing) (amount : Int) : ℚ :=
  match pricing.amountDiscount amount with
  | some ds => if 0 < ds then ds else 1
  | none => 1

def getPayMoney (settings : PaymentSettings) (pricing : PayPricing) (amount : Int) : ℚ :=
  let dAmount : ℚ := if settings.displayTokens then amount / settings.quotaPerUnit else amount
  let topupGroupRatio := if pricing.topupGroupRatio = 0 then 1 else pricing.topupGroupRatio
  dAmount * pricing.price * topupGroupRatio * pricing.discount amount

/-- The money of the purchase, `strconv.FormatFloat(payMoney, 'f', 2, 64)`: the nearest number of
cents, an even one for a tie. -/
def purchaseMoney (payMoney : ℚ) : ℚ :=
  let cents := ⌊100 * payMoney⌋
  let rest := 100 * payMoney - cents
  (if rest < 1 / 2 ∨ rest = 1 / 2 ∧ cents % 2 = 0 then cents else cents + 1 : Int) / 100

def WholeCents (money : ℚ) : Prop :=
  (⌊100 * money⌋ : ℚ) = 100 * money
  deriving Decidable

/-- The quota that the user asks for. -/
def requestedQuota (settings : PaymentSettings) (amount : Int) : ℚ :=
  if settings.displayTokens then amount else amount * settings.quotaPerUnit

/-- A number that is stored in an `int` as it is. -/
def Whole (x : ℚ) : Prop :=
  (Int64.trunc x : ℚ) = x ∧ Int64.InRange (Int64.trunc x)
  deriving Decidable

/-- The stored units, or the quota in the display in money, are whole. -/
def ExactUnits (settings : PaymentSettings) (amount : Int) : Prop :=
  Whole (if settings.displayTokens then amount / settings.quotaPerUnit
    else amount * settings.quotaPerUnit)
  deriving Decidable

theorem purchaseMoney_eq_self_iff {money : ℚ} : purchaseMoney money = money ↔ WholeCents money := by
  unfold purchaseMoney WholeCents
  dsimp only
  constructor
  · intro h
    rw [div_eq_iff (by norm_num), mul_comm money] at h
    rw [← h, Int.floor_intCast]
  · intro h
    rw [h, sub_self, if_pos (.inl (by norm_num)), h, mul_div_cancel_left₀ _ (by norm_num)]

theorem trunc_le_of_nonneg {x : ℚ} (h : 0 ≤ x) : (Int64.trunc x : ℚ) ≤ x := by
  rw [Int64.trunc, if_pos h]
  exact Int.floor_le x

theorem max_wrap_trunc_eq_iff {x : ℚ} (hx : 0 < x) :
    max (Int64.wrap (Int64.trunc x) : ℚ) 0 = x ↔ Whole x := by
  rw [max_eq_iff]
  constructor
  · rintro (⟨hwr, -⟩ | ⟨hz, -⟩)
    · have htr : Int64.trunc x = Int64.wrap (Int64.trunc x) := by
        conv_lhs => rw [← hwr, trunc_intCast]
      exact ⟨htr ▸ hwr, wrap_eq_self_iff.mp htr.symm⟩
    · exact absurd hz hx.ne
  rintro ⟨htr, hratio⟩
  rw [wrap_of_inRange hratio]
  refine .inl ⟨htr, ?_⟩
  rw [htr]
  exact hx.le

section

variable {amount units : Int} {quotaPerUnit : ℚ}

theorem max_quotaToAdd_eq_iff (hamount : 0 < amount) (hrange : Int64.InRange amount)
    (hlow : -(2 ^ 63) < units * quotaPerUnit) (hle : units * quotaPerUnit ≤ amount) :
    max (quotaToAdd quotaPerUnit units : ℚ) 0 = amount ↔ units * quotaPerUnit = amount := by
  have hpos : (0 : ℚ) < amount := by exact_mod_cast hamount
  constructor
  · intro h
    have htop : (amount : ℚ) < 2 ^ 63 := by exact_mod_cast hrange.2
    have hquota : Int64.InRange (Int64.trunc (units * quotaPerUnit)) := by
      refine ⟨?_, (trunc_lt_iff (by decide)).mpr (by push_cast; linarith)⟩
      by_cases hneg : 0 ≤ units * quotaPerUnit
      · exact le_trans (by decide) (trunc_nonneg_iff.mpr (by linarith))
      rw [Int64.trunc, if_neg hneg]
      refine Int.le_of_lt (Int.lt_ceil.mpr ?_)
      push_cast
      exact hlow
    rw [quotaToAdd, wrap_of_inRange hquota] at h
    have htrunc : (Int64.trunc (units * quotaPerUnit) : ℚ) = amount := by
      rcases max_eq_iff.mp h with ⟨htrunc, -⟩ | ⟨hzero, -⟩
      · exact htrunc
      · exact absurd hzero hpos.ne
    have htrunc' : Int64.trunc (units * quotaPerUnit) = amount := by exact_mod_cast htrunc
    have hnonneg : 0 ≤ units * quotaPerUnit := by
      by_contra hneg
      rw [Int64.trunc, if_neg hneg] at htrunc'
      have hceil : ⌈units * quotaPerUnit⌉ ≤ 0 := Int.ceil_le.mpr (by push_cast; linarith)
      omega
    exact le_antisymm hle (htrunc ▸ trunc_le_of_nonneg hnonneg)
  · intro h
    rw [quotaToAdd, h, trunc_intCast, wrap_of_inRange hrange, max_eq_left hpos.le]

theorem max_quotaToAdd_units_eq_iff (hamount : 0 < amount) (hrange : Int64.InRange amount)
    (hunit : 0 < quotaPerUnit) :
    max (quotaToAdd quotaPerUnit (Int64.wrap (Int64.trunc (amount / quotaPerUnit))) : ℚ) 0 =
      amount ↔ Whole (amount / quotaPerUnit) := by
  have hpos : (0 : ℚ) < amount := by exact_mod_cast hamount
  have htop : (amount : ℚ) < 2 ^ 63 := by exact_mod_cast hrange.2
  have hnonneg : 0 ≤ amount / quotaPerUnit := by positivity
  have hfloor := trunc_le_of_nonneg hnonneg
  have htrunc : 0 ≤ Int64.trunc (amount / quotaPerUnit) := trunc_nonneg_iff.mpr (by linarith)
  unfold Whole
  generalize Int64.trunc (amount / quotaPerUnit) = units at hfloor htrunc ⊢
  rw [eq_div_iff hunit.ne']
  rw [le_div_iff₀ hunit] at hfloor
  by_cases hunits : Int64.InRange units
  · rw [wrap_of_inRange hunits, and_iff_left hunits]
    refine max_quotaToAdd_eq_iff hamount hrange ?_ hfloor
    have : (0 : ℚ) ≤ units * quotaPerUnit := by positivity
    linarith
  -- a unit is worth less than one, and the stored number of units is a smaller one
  have hmany : (2 : ℚ) ^ 63 ≤ units := by
    unfold Int64.InRange at hunits
    have : (2 : Int) ^ 63 ≤ units := by omega
    exact_mod_cast this
  have hcheap : 2 ^ 63 * quotaPerUnit ≤ amount :=
    (mul_le_mul_of_nonneg_right hmany hunit.le).trans hfloor
  have hwrap := inRange_wrap units
  have hless : (Int64.wrap units : ℚ) < 2 ^ 63 := by exact_mod_cast hwrap.2
  have hmore : -(2 ^ 63) ≤ (Int64.wrap units : ℚ) := by exact_mod_cast hwrap.1
  have hworth : Int64.wrap units * quotaPerUnit < amount :=
    (mul_lt_mul_of_pos_right hless hunit).trans_le hcheap
  have hlow : -(2 ^ 63) < Int64.wrap units * quotaPerUnit := by
    have := mul_le_mul_of_nonneg_right hmore hunit.le
    linarith
  refine iff_of_false (fun h => ?_) fun h => hunits h.2
  exact hworth.ne ((max_quotaToAdd_eq_iff hamount hrange hlow hworth.le).mp h)

end

section

variable {settings : PaymentSettings} {pricing : PayPricing} {amount : Int}

theorem getPayMoney_eq (hratio : 0 < pricing.topupGroupRatio) (hunit : 0 < settings.quotaPerUnit) :
    getPayMoney settings pricing amount = requestedQuota settings amount / settings.quotaPerUnit *
      pricing.price * pricing.topupGroupRatio * pricing.discount amount := by
  have hquota : (if settings.displayTokens then amount / settings.quotaPerUnit else (amount : ℚ)) =
      requestedQuota settings amount / settings.quotaPerUnit := by
    unfold requestedQuota
    split
    · rfl
    · rw [mul_div_cancel_right₀ _ hunit.ne']
  unfold getPayMoney
  rw [if_neg hratio.ne', hquota]

theorem PayPricing.discount_pos : 0 < pricing.discount amount := by
  unfold discount
  split
  · split
    · assumption
    · exact one_pos
  · exact one_pos

theorem max_callbackQuota_eq_iff (hunit : 0 < settings.quotaPerUnit) (hpos : 0 < amount)
    (hratio : Int64.InRange amount) :
    max (quotaToAdd settings.quotaPerUnit (amountInUnits settings amount) : ℚ) 0 =
      requestedQuota settings amount ↔ ExactUnits settings amount := by
  unfold amountInUnits requestedQuota ExactUnits
  split
  · exact max_quotaToAdd_units_eq_iff hpos hratio hunit
  · have hp : (0 : ℚ) < amount := by exact_mod_cast hpos
    exact max_wrap_trunc_eq_iff (mul_pos hp hunit)

theorem amount_pos_of_createTopUp {userId created : Int} {unique paymentMethod : String}
    {topUp : TopUp} (hunit : 0 < settings.quotaPerUnit) (hprice : 0 < pricing.price)
    (hratio : 0 < pricing.topupGroupRatio) (h : createTopUp settings userId unique created
      (.epay amount paymentMethod (getPayMoney settings pricing amount)) = .ok topUp) :
    0 < amount ∧ topUp.amount = amountInUnits settings amount ∧
      topUp.money = getPayMoney settings pricing amount ∧ topUp.paymentProvider = .epay := by
  obtain ⟨-, h⟩ := check_eq_ok h
  obtain ⟨hmoney, h⟩ := check_eq_ok h
  obtain ⟨-, h⟩ := check_eq_ok h
  cases h
  refine ⟨?_, rfl, rfl, rfl⟩
  by_contra hneg
  have hpos : (amount : ℚ) ≤ 0 := by exact_mod_cast not_lt.mp hneg
  have hquota : requestedQuota settings amount / settings.quotaPerUnit ≤ 0 := by
    refine div_nonpos_of_nonpos_of_nonneg ?_ hunit.le
    unfold requestedQuota
    split
    · exact hpos
    · exact mul_nonpos_of_nonpos_of_nonneg hpos hunit.le
  have hpa : getPayMoney settings pricing amount ≤ 0 := by
    rw [getPayMoney_eq hratio hunit]
    refine mul_nonpos_of_nonpos_of_nonneg ?_ PayPricing.discount_pos.le
    exact mul_nonpos_of_nonpos_of_nonneg (mul_nonpos_of_nonpos_of_nonneg hquota hprice.le) hratio.le
  linarith

/-- The notification of an accepted order credits the quota that was asked for exactly if the
units are whole; this and the money of the credit, charged without a discount, are right exactly if
that is also a number of whole cents. -/
theorem epay_credit_eq_paid_iff {userId created now : Int} {unique paymentMethod : String}
    {topUp : TopUp} {db : TopUpTables} (payer : Payer) (hunit : 0 < settings.quotaPerUnit)
    (hprice : 0 < pricing.price) (hratio : 0 < pricing.topupGroupRatio)
    (hrange : Int64.InRange amount) (hcreate : createTopUp settings userId unique created
      (.epay amount paymentMethod (getPayMoney settings pricing amount)) = .ok topUp)
    (hfind : Table.get? TopUp.tradeNo db.orders topUp.tradeNo = some topUp)
    (huser : (db.users topUp.userId).isSome) :
    let credited := db.gain (completeByCallback settings.quotaPerUnit payer now topUp db)
      topUp.userId
    (credited = requestedQuota settings amount ↔ ExactUnits settings amount) ∧
      (credited = requestedQuota settings amount ∧
          (pricing.discount amount = 1 → purchaseMoney topUp.money =
            credited / settings.quotaPerUnit * pricing.price * pricing.topupGroupRatio) ↔
        ExactUnits settings amount ∧
          (pricing.discount amount = 1 → WholeCents (getPayMoney settings pricing amount))) := by
  obtain ⟨hpending, htrade, -⟩ := createTopUp_eq_ok hcreate
  obtain ⟨hpos, hunits, hmoney, hprovider⟩ :=
    amount_pos_of_createTopUp hunit hprice hratio hcreate
  have hcredit := @max_callbackQuota_eq_iff settings amount hunit hpos hrange
  rw [gain_completeByCallback (findOrder_of_get? hfind) hpending now htrade, TopUpTables.payable,
    if_pos huser, callbackQuota, hprovider, hunits]
  dsimp only
  rw [hcredit, hmoney]
  refine ⟨Iff.rfl, and_congr_right fun hexact => forall_congr' fun hdiscount => ?_⟩
  -- without a discount the money of the credit is what `getPayMoney` returns
  have heq : requestedQuota settings amount / settings.quotaPerUnit * pricing.price *
      pricing.topupGroupRatio = getPayMoney settings pricing amount := by
    rw [getPayMoney_eq hratio hunit, hdiscount]
    ring
  rw [hcredit.mpr hexact, heq, purchaseMoney_eq_self_iff]

end

def tokenSettings : PaymentSettings :=
  { exampleSettings with displayTokens := true, minTopUp := fun _ => 500000 }

def exampleEpay (settings : PaymentSettings) (amount : Int) : TopUp where
  tradeNo := "USR1NOx"
  userId := 1
  amount := amountInUnits settings amount
  money := getPayMoney settings { price := 7, topupGroupRatio := 1 } amount
  paymentMethod := "alipay"
  paymentProvider := .epay
  createTime := 10

def epayGain (settings : PaymentSettings) (amount : Int) : ℚ :=
  let order := exampleEpay settings amount
  (orderTables order).gain (completeByCallback 500000 ⟨"", "", "alipay"⟩ 20 order
    (orderTables order)) 1

theorem whole_units_credited : epayGain tokenSettings 1000000 = 1000000 :=
  ((epay_credit_eq_paid_iff ⟨"", "", "alipay"⟩
    (show 0 < tokenSettings.quotaPerUnit by decide +kernel)
    (by decide +kernel) (by decide +kernel) (by decide)
    (show createTopUp tokenSettings 1 "x" 10 (.epay 1000000 "alipay" (getPayMoney tokenSettings
      { price := 7, topupGroupRatio := 1 } 1000000)) = .ok (exampleEpay tokenSettings 1000000) by
        decide +kernel) rfl rfl).1.mpr (by decide +kernel)).trans (by decide +kernel)

/-- 999999 tokens cost almost two units and are credited as one. A price of 7.333 is charged as
7.33. -/
theorem part_of_unit_lost :
    createTopUp tokenSettings 1 "x" 10 (.epay 999999 "alipay" (getPayMoney tokenSettings
        { price := 7, topupGroupRatio := 1 } 999999)) = .ok (exampleEpay tokenSettings 999999) ∧
      (exampleEpay tokenSettings 999999).money = 6999993 / 500000 ∧
      epayGain tokenSettings 999999 = 500000 ∧
      purchaseMoney (getPayMoney exampleSettings { price := 7333 / 1000, topupGroupRatio := 1 } 1) =
        733 / 100 := by
  decide +kernel

end NewApi.TopUps
