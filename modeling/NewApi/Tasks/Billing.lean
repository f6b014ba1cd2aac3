import Mathlib.Algebra.BigOperators.Group.List.Basic
import NewApi.Lib.Int64
import NewApi.Tasks.Row

/-!
# Billing of asynchronous tasks

The functions of `service/task_billing.go` return the quota calls that took effect; the failures of
the stores are inputs. A refund gives the whole quota back, a recalculation moves the balance by the
difference.
-/

namespace NewApi.Tasks

open Lib

/-- A call of the `model` package that changes a balance. -/
inductive QuotaCall where
  | postConsumeUserSubscriptionDelta (subscriptionId delta : Int)
  | decreaseUserQuota (userId quota : Int)
  | increaseUserQuota (userId quota : Int)
  | decreaseTokenQuota (tokenId quota : Int)
  | increaseTokenQuota (tokenId quota : Int)
  deriving DecidableEq, Repr

def QuotaCall.fundingDebit : QuotaCall → Int
  | .postConsumeUserSubscriptionDelta _ delta => delta
  | .decreaseUserQuota _ quota => quota
  | .increaseUserQuota _ quota => -quota
  | .decreaseTokenQuota _ _ | .increaseTokenQuota _ _ => 0

def fundingDebit (calls : List QuotaCall) : Int :=
  (calls.map QuotaCall.fundingDebit).sum

/-- The outcome of the database calls that one billing function makes. -/
structure BillingEnv where
  /-- `taskAdjustFunding` returns an error. -/
  fundingFails : Bool
  /-- The result of `resolveTokenKey`, empty when the token cannot be read. -/
  tokenKey : String
  /-- The token update returns an error. -/
  tokenFails : Bool
  deriving DecidableEq

def taskIsSubscription (task : Task) : Bool :=
  task.privateData.billingSource == "subscription" && task.privateData.subscriptionId > 0

/-- The call it makes. -/
def taskAdjustFunding (task : Task) (delta : Int) : QuotaCall :=
  if taskIsSubscription task then
    .postConsumeUserSubscriptionDelta task.privateData.subscriptionId delta
  else if delta > 0 then .decreaseUserQuota task.userId delta
  else .increaseUserQuota task.userId (-delta)

/-- An error of the token update is only logged. -/
def taskAdjustTokenQuota (env : BillingEnv) (task : Task) (delta : Int) : List QuotaCall :=
  if task.privateData.tokenId ≤ 0 ∨ delta = 0 ∨ env.tokenKey = "" ∨ env.tokenFails then []
  else if delta > 0 then [.decreaseTokenQuota task.privateData.tokenId delta]
  else [.increaseTokenQuota task.privateData.tokenId (-delta)]

def taskModelName (task : Task) : String :=
  match task.privateData.billingContext with
  | some bc => if bc.originModelName ≠ "" then bc.originModelName else task.originModelName
  | none => task.originModelName

def refundTaskQuota (env : BillingEnv) (task : Task) : List QuotaCall :=
  if task.quota = 0 then []
  else if env.fundingFails then []
  else taskAdjustFunding task (-task.quota) :: taskAdjustTokenQuota env task (-task.quota)

/-- The copy in memory takes the actual quota, the row does not. -/
def recalculateTaskQuota (env : BillingEnv) (task : Task) (actualQuota : Int) :
    Task × List QuotaCall :=
  let quotaDelta := actualQuota - task.quota
  if actualQuota ≤ 0 then (task, [])
  else if quotaDelta = 0 then (task, [])
  else if env.fundingFails then (task, [])
  else
    ({ task with quota := actualQuota },
      taskAdjustFunding task quotaDelta :: taskAdjustTokenQuota env task quotaDelta)

/-- The settings and the user table that a recalculation by tokens reads. -/
structure RatioSettings where
  /-- `GetModelRatio`, `none` when the model has no ratio setting. -/
  modelRatio : String → Option ℚ
  groupRatio : String → ℚ
  /-- `GetGroupGroupRatio`. -/
  groupGroupRatio : String → String → Option ℚ
  /-- The group of a user, `none` when the user cannot be read. -/
  userGroup : Int → Option String

/-- The product of the ratios that count: neither `1` nor non-positive. -/
def otherMultiplier (ratios : List (String × ℚ)) : ℚ :=
  ((ratios.map Prod.snd).filter fun r => r ≠ 1 ∧ 0 < r).prod

def taskGroup (settings : RatioSettings) (task : Task) : String :=
  if task.group = "" then (settings.userGroup task.userId).getD "" else task.group

/-- The group ratio is the one of the task's group for itself where such a ratio is set. -/
def recalculateTaskQuotaByTokens (settings : RatioSettings) (env : BillingEnv) (task : Task)
    (totalTokens : Int) : Task × List QuotaCall :=
  if totalTokens ≤ 0 then (task, [])
  else
    match settings.modelRatio (taskModelName task) with
    | none => (task, [])
    | some modelRatio =>
      let group := taskGroup settings task
      if modelRatio ≤ 0 ∨ group = "" then (task, [])
      else
        let finalGroupRatio := (settings.groupGroupRatio group group).getD
          (settings.groupRatio group)
        let others := task.privateData.billingContext.elim 1 fun bc =>
          otherMultiplier bc.otherRatios
        recalculateTaskQuota env task
          (Int64.ofRat (totalTokens * modelRatio * finalGroupRatio * others))

/-- The group ratio of `RecalculateTaskQuotaByTokens`. -/
def completionGroupRatio (settings : RatioSettings) (task : Task) : ℚ :=
  let group := taskGroup settings task
  (settings.groupGroupRatio group group).getD (settings.groupRatio group)

/-- `settleTaskBillingOnComplete`, with the result of `AdjustBillingOnComplete` as an input. -/
def settleTaskBillingOnComplete (settings : RatioSettings) (env : BillingEnv)
    (adjustBillingOnComplete : Int) (task : Task) (taskResult : TaskInfo) :
    Task × List QuotaCall :=
  if task.privateData.billingContext.elim false TaskBillingContext.perCallBilling then (task, [])
  else if adjustBillingOnComplete > 0 then recalculateTaskQuota env task adjustBillingOnComplete
  else if taskResult.totalTokens > 0 then
    recalculateTaskQuotaByTokens settings env task taskResult.totalTokens
  else (task, [])

variable (env : BillingEnv) (task : Task)

theorem recalculateTaskQuotaByTokens_eq (ht : 0 < tt)
    (hmd : settings.modelRatio (taskModelName task) = some mr) (hp : 0 <
      mr) (hg : taskGroup settings task ≠ "") :
    recalculateTaskQuotaByTokens settings env task tt = recalculateTaskQuota env task
      (Int64.ofRat (tt * mr * completionGroupRatio settings task *
        task.privateData.billingContext.elim 1 fun bc => otherMultiplier bc.otherRatios)) := by
  unfold recalculateTaskQuotaByTokens
  rw [if_neg (by omega), hmd]
  dsimp only
  rw [if_neg (not_or.mpr ⟨not_le.mpr hp, hg⟩)]
  rfl

/-! ## What the functions do to the balance -/

@[simp]
theorem fundingDebit_nil : fundingDebit [] = 0 := rfl

@[simp]
theorem fundingDebit_cons : fundingDebit (call :: cs) = call.fundingDebit + fundingDebit cs := rfl

@[simp]
theorem taskAdjustFunding_debit : (taskAdjustFunding task d).fundingDebit = d := by
  unfold taskAdjustFunding
  split
  · rfl
  · split <;> simp [QuotaCall.fundingDebit]

@[simp]
theorem taskAdjustTokenQuota_debit : fundingDebit (taskAdjustTokenQuota env task d) = 0 := by
  unfold taskAdjustTokenQuota
  split
  · rfl
  · split <;> rfl

theorem refundTaskQuota_debit :
    fundingDebit (refundTaskQuota env task) = if env.fundingFails then 0 else -task.quota := by
  unfold refundTaskQuota
  by_cases hq : task.quota = 0
  · simp [hq]
  · cases env.fundingFails <;> simp [hq]

end NewApi.Tasks
