import NewApi.Billing.Price
import NewApi.Billing.Session
import NewApi.Lib.Assoc
import NewApi.Tasks.Billing

/-!
# The task that a request is made from

`ResolveOriginTask`: a remix names an earlier task, whose channel it is locked to and whose ratios
are written into the price of the request (`relay/relay_task.go`). The Sora adaptor relies on them
and estimates nothing for a remix.
-/

namespace NewApi.Billing

open Lib List

/-! ## Errors -/

/-- The fields of `dto.TaskError` that decide what happens next. -/
structure TaskError where
  code : String
  statusCode : Nat
  localError : Bool := false
  deriving DecidableEq, Repr

def taskErrorWrapper (code : String) (statusCode : Nat) : TaskError :=
  { code, statusCode }

def taskErrorWrapperLocal (code : String) (statusCode : Nat) : TaskError :=
  { taskErrorWrapper code statusCode with localError := true }

/-- `TaskErrorFromAPIError`, for the errors of `PreConsumeBilling`. -/
def taskErrorFromAPIError : ErrorCode → TaskError
  | .queryDataError => { code := "query_data_error", statusCode := 500 }
  | .updateDataError => { code := "update_data_error", statusCode := 500 }
  | .insufficientUserQuota => { code := "insufficient_user_quota", statusCode := 403 }
  | .preConsumeTokenQuotaFailed =>
    { code := "pre_consume_token_quota_failed", statusCode := 403 }

/-! ## Ratios of a price -/

/-- A ratio that is not positive is ignored. -/
def PriceData.addOtherRatio (price : PriceData) (entry : String × ℚ) : PriceData :=
  if entry.2 ≤ 0 then price
  else { price with otherRatios := Assoc.set price.otherRatios entry.1 entry.2 }

def PriceData.addOtherRatios (price : PriceData) (ratios : List (String × ℚ)) : PriceData :=
  ratios.foldl PriceData.addOtherRatio price

/-! ## The task that a request is made from -/

def taskActionRemix : String := "remixGenerate"

/-- The fields of the data of a task as `ResolveOriginTask` reads them; a field that is missing, or
is no number, is empty or zero. -/
structure OriginData where
  model : String := ""
  seconds : Int := 0
  size : String := ""

/-- The task with a public id: its row, its upstream model and its data. -/
structure OriginTask where
  task : Tasks.Task
  upstreamModelName : String := ""
  data : OriginData := {}

/-- The channel of a task, with the status of the error where `GetNextEnabledKey` finds no key. -/
structure OriginChannel where
  enabled : Bool := true
  keyError : Option Nat := none

/-- What `ResolveOriginTask` meets: the request, and the answers of the store. -/
structure OriginRequest where
  path : String
  /-- The path parameter `video_id`. -/
  videoID : String := ""
  action : String := ""
  originTaskID : String := ""
  originModelName : String := ""
  channelId : Int := 0
  /-- `GetByTaskId`, an error, no task, or one of the user. -/
  getByTaskId : String → Except String (Option OriginTask)
  /-- `GetChannelById`, `none` on an error. -/
  getChannelById : Int → Option OriginChannel

/-- The fields of `relayInfo` that `ResolveOriginTask` writes. The price of a new request is
empty. -/
structure OriginInfo where
  action : String
  originTaskID : String
  originModelName : String
  channelId : Int
  lockedChannel : Option Int := none
  price : PriceData := { groupRatio := 0 }
  deriving DecidableEq

namespace OriginRequest

def resolvedAction (request : OriginRequest) : String :=
  if contains request.path "/v1/videos/" ∧ "/remix".toList.isSuffixOf request.path.toList then
    taskActionRemix
  else request.action

def resolvedTaskID (request : OriginRequest) : Except TaskError String :=
  if request.resolvedAction = taskActionRemix then
    if trimSpace request.videoID = "" then .error (taskErrorWrapperLocal "invalid_request" 400)
    else .ok request.videoID
  else .ok request.originTaskID

def resolvedModelName (request : OriginRequest) (origin : OriginTask) : String :=
  if request.originModelName ≠ "" then request.originModelName
  else if origin.task.originModelName ≠ "" then origin.task.originModelName
  else if origin.upstreamModelName ≠ "" then origin.upstreamModelName
  else origin.data.model

def lockChannel (request : OriginRequest) (channelId : Int) : Option TaskError :=
  match request.getChannelById channelId with
  | none => some (taskErrorWrapperLocal "channel_not_found" 400)
  | some channel =>
    if ¬channel.enabled then some (taskErrorWrapperLocal "task_channel_disable" 400)
    else if channelId ≠ request.channelId then
      channel.keyError.map (taskErrorWrapper "channel_no_available_key")
    else none

end OriginRequest

/-- The ratios of a remix: those that were frozen with the task, and for an old task the ones that
its data give. -/
def OriginTask.remixPrice (origin : OriginTask) (price : PriceData) : PriceData :=
  match origin.task.privateData.billingContext with
  | some context => price.addOtherRatios context.otherRatios
  | none =>
    let seconds := if origin.data.seconds ≤ 0 then 4 else origin.data.seconds
    let size : ℚ :=
      if origin.data.size = "1792x1024" ∨ origin.data.size = "1024x1792" then 1666667 / 1000000
      else 1
    { price with
      otherRatios := Assoc.set (Assoc.set price.otherRatios "seconds" seconds) "size" size }

def resolveOriginTask (request : OriginRequest) : Except TaskError OriginInfo :=
  match request.resolvedTaskID with
  | .error taskErr => .error taskErr
  | .ok originTaskID =>
    let info : OriginInfo :=
      { action := request.resolvedAction
        originTaskID
        originModelName := request.originModelName
        channelId := request.channelId }
    if originTaskID = "" then .ok info
    else
      match request.getByTaskId originTaskID with
      | .error _ => .error (taskErrorWrapper "get_origin_task_failed" 500)
      | .ok none => .error (taskErrorWrapperLocal "task_not_exist" 400)
      | .ok (some origin) =>
        match request.lockChannel origin.task.channelId with
        | some taskErr => .error taskErr
        | none =>
          .ok
            { info with
              originModelName := request.resolvedModelName origin
              channelId := origin.task.channelId
              lockedChannel := some origin.task.channelId
              price :=
                if info.action = taskActionRemix then origin.remixPrice info.price
                else info.price }

/-! ## The estimate of the Sora adaptor -/

section

variable {request : OriginRequest} {resolved : OriginInfo} {origin : OriginTask}
  {ratios : List (String × ℚ)}

theorem PriceData.addOtherRatios_groupRatio (price : PriceData) (ratios : List (String × ℚ)) :
    (price.addOtherRatios ratios).groupRatio = price.groupRatio := by
  induction ratios generalizing price with
  | nil => rfl
  | cons ratio ratios ih =>
    refine (ih (price.addOtherRatio ratio)).trans ?_
    unfold addOtherRatio
    split <;> rfl

end

end NewApi.Billing
