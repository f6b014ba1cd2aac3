import NewApi.Lib.Int64
import NewApi.Lib.Table

/-!
# Subscription plans and user subscriptions

The data of `model/subscription.go` that billing and group changes use, with `calcPlanEndTime` and
`calcNextResetTime`. The calendar of the server is a parameter; `time.Duration` overflows.
-/

namespace NewApi.Subscriptions

open Lib Table

/-- The `duration_unit` column. -/
inductive DurationUnit where
  | year
  | month
  | day
  | hour
  | custom
  | other (text : String)
  deriving DecidableEq, Repr

/-- The `quota_reset_period` column as `NormalizeResetPeriod` reads it. -/
inductive ResetPeriod where
  | never
  | daily
  | weekly
  | monthly
  | custom
  deriving DecidableEq, Repr

/-- The amount of an unlimited plan is a value of `int64`. -/
theorem noAmount_lt : (0 : Int) < 2 ^ 63 := by decide

structure SubscriptionPlan where
  id : Int
  durationUnit : DurationUnit := .month
  durationValue : Int := 1
  customSeconds : Int := 0
  maxPurchasePerUser : Int := 0
  upgradeGroup : String := ""
  totalAmount : Int := 0
  quotaResetPeriod : ResetPeriod := .never
  quotaResetCustomSeconds : Int := 0
  totalAmount_lt : totalAmount < 2 ^ 63 := by first | exact noAmount_lt | decide
  deriving DecidableEq

/-- The `status` column of a subscription. -/
inductive SubscriptionStatus where
  | active
  | expired
  | cancelled
  deriving DecidableEq, Repr

structure UserSubscription where
  id : Int
  userId : Int
  planId : Int
  amountTotal : Int
  amountUsed : Int := 0
  startTime : Int := 0
  endTime : Int
  status : SubscriptionStatus := .active
  lastResetTime : Int := 0
  nextResetTime : Int := 0
  upgradeGroup : String := ""
  prevUserGroup : String := ""
  amountTotal_lt : amountTotal < 2 ^ 63 := by first | exact noAmount_lt | decide
  deriving DecidableEq

def UserSubscription.withUsed (sub : UserSubscription) (used : Int) : UserSubscription :=
  { sub with amountUsed := used }

@[simp]
theorem UserSubscription.withUsed_id (sub : UserSubscription) :
    (sub.withUsed used).id = sub.id := rfl

@[simp]
theorem UserSubscription.withUsed_amountUsed (sub : UserSubscription) (used : Int) :
    (sub.withUsed used).amountUsed = used := rfl

@[simp]
theorem UserSubscription.withUsed_amountTotal (sub : UserSubscription) (used : Int) :
    (sub.withUsed used).amountTotal = sub.amountTotal := rfl

/-- What the `time` package computes in the server's time zone, on Unix seconds. -/
structure Calendar where
  /-- `Year`, `Month` and `Day`. -/
  date : Int → Int × Int × Int
  /-- `Weekday`, with 0 for Sunday. -/
  weekday : Int → Int
  /-- `time.Date` at midnight. -/
  midnight : Int × Int × Int → Int
  /-- `AddDate` by years, months and days. -/
  addDate : Int → Int → Int → Int → Int

/-- `time.Unix(base, 0).Add(d).Unix()` for a duration given in seconds. The duration is a number
of nanoseconds in 64 bits. -/
def addSeconds (base seconds : Int) : Int :=
  base + Int64.wrap (seconds * 1000000000) / 1000000000

def calcPlanEndTime (calendar : Calendar) (start : Int) (plan : SubscriptionPlan) :
    Except String Int :=
  if plan.durationValue ≤ 0 ∧ plan.durationUnit ≠ .custom then
    .error "duration_value must be > 0"
  else
    match plan.durationUnit with
    | .year => .ok (calendar.addDate start plan.durationValue 0 0)
    | .month => .ok (calendar.addDate start 0 plan.durationValue 0)
    | .day => .ok (addSeconds start (plan.durationValue * 86400))
    | .hour => .ok (addSeconds start (plan.durationValue * 3600))
    | .custom =>
      if plan.customSeconds ≤ 0 then .error "custom_seconds must be > 0"
      else .ok (addSeconds start plan.customSeconds)
    | .other text => .error s!"invalid duration_unit: {text}"

/-- `0` means no further reset. -/
def calcNextResetTime (calendar : Calendar) (base : Int) (plan : SubscriptionPlan)
    (endUnix : Int) : Int :=
  let bounded := fun next : Int => if endUnix > 0 ∧ next > endUnix then 0 else next
  match plan.quotaResetPeriod with
  | .never => 0
  | .daily => bounded (calendar.addDate (calendar.midnight (calendar.date base)) 0 0 1)
  | .weekly =>
    let weekday := if calendar.weekday base = 0 then 7 else calendar.weekday base
    bounded (calendar.addDate (calendar.midnight (calendar.date base)) 0 0 (8 - weekday))
  | .monthly =>
    let (year, month, _) := calendar.date base
    bounded (calendar.addDate (calendar.midnight (year, month, 1)) 0 1 0)
  | .custom =>
    if plan.quotaResetCustomSeconds ≤ 0 then 0
    else bounded (addSeconds base plan.quotaResetCustomSeconds)

/-- UTC with one endless month. -/
def plainCalendar : Calendar where
  date := fun t => (1970, 1, t / 86400 + 1)
  weekday := fun t => (t / 86400 + 4) % 7
  midnight := fun (_, _, day) => (day - 1) * 86400
  addDate := fun t _ _ days => t + days * 86400

def findSub (subs : List UserSubscription) (id : Int) : Option UserSubscription :=
  Table.get? UserSubscription.id subs id

/-- `tx.Save(&sub)`. -/
def saveSub (sub : UserSubscription) (subs : List UserSubscription) : List UserSubscription :=
  Table.updateWhere (fun row => row.id = sub.id) (fun _ => sub) subs

theorem exists_findSub {sbs : List UserSubscription} {id : Int}
    (h : id ∈ sbs.map UserSubscription.id) : ∃ row, findSub sbs id = some row :=
  Option.isSome_iff_exists.mp (isSome_get?_iff.mpr h)

theorem findSub_saveSub {sub row : UserSubscription} {sbs : List UserSubscription} {id : Int}
    (h : findSub sbs id = some row) :
    findSub (saveSub sub sbs) id = some (if id = sub.id then sub else row) := by
  have hid : row.id = id := get?_key h
  refine (get?_replace sbs).trans ?_
  rw [show Table.get? UserSubscription.id sbs id = some row from h, Option.map_some, hid]

theorem findSub_saveSub_self {sub row : UserSubscription} {sbs : List UserSubscription}
    (h : findSub sbs sub.id = some row) : findSub (saveSub sub sbs) sub.id = some sub := by
  rw [findSub_saveSub h, if_pos rfl]

theorem mem_saveSub (h : row ∈ saveSub sub sbs) : row = sub ∨ row ∈ sbs ∧ row.id ≠ sub.id := by
  obtain ⟨old, ho, hr⟩ := mem_updateWhere.mp h
  split at hr
  · exact .inl hr.symm
  · rename_i hne
    subst hr
    exact .inr ⟨ho, by simpa using hne⟩

theorem mem_saveSub_of_ne (h : row.id ≠ sub.id) : row ∈ saveSub sub sbs ↔ row ∈ sbs := by
  refine ⟨fun hr => ?_, fun hr => ?_⟩
  · rcases mem_saveSub hr with rfl | ho
    · exact absurd rfl h
    · exact ho.1
  · exact mem_updateWhere.mpr ⟨row, hr, by simp [h]⟩

theorem map_id_saveSub :
    (saveSub sub sbs).map UserSubscription.id = sbs.map UserSubscription.id := by
  refine map_key_updateWhere ?_
  intro row h
  exact (of_decide_eq_true h).symm

end NewApi.Subscriptions
