import NewApi.Lib.Assoc
import NewApi.Tasks.Billing

/-!
# What the writers of a task compute

What `service/task_polling.go` and `tryRealtimeFetch` compute between two database statements, on
the copy of the row that a writer holds. Upstream responses are inputs; the statements and their
interleaving are in `NewApi.Tasks.Machine`.
-/

namespace NewApi.Tasks

open Lib

structure Settings where
  serverAddress : String
  taskTimeoutMinutes : Int
  ratios : RatioSettings
  /-- `common.Marshal` of a raw JSON text. -/
  marshal : List UInt8 → List UInt8

def buildProxyURL (settings : Settings) (taskID : String) : String :=
  settings.serverAddress ++ "/v1/videos/" ++ taskID ++ "/content"

/-! ## The timeout sweeper -/

def legacyTaskCutoff : Int := 1740182400

def Task.isLegacy (task : Task) : Bool :=
  task.submitTime > 0 && task.submitTime < legacyTaskCutoff

/-- The body of the loop of `sweepTimedOutTasks` up to the conditional update. -/
def timeOut (settings : Settings) (now : Int) (task : Task) : Task :=
  { task with
    status := .failure
    progress := "100%"
    finishTime := now
    failReason :=
      if task.isLegacy then "任务超时（旧系统遗留任务，不进行退款，请联系管理员）"
      else s!"任务超时（{settings.taskTimeoutMinutes}分钟）" }

/-! ## The grouping of a polling pass -/

/-- The loaded tasks by platform. -/
def platformTask (tasks : List Task) : List (TaskPlatform × List Task) :=
  tasks.foldl (fun m task => Assoc.push m task.platform task) []

/-- The maps that `TaskPollingLoop` builds for one platform. -/
structure PlatformWork where
  taskChannelM : List (Int × List String) := []
  taskM : List (String × Task) := []
  nullTaskIds : List Int := []

/-- One turn of the loop that fills the maps. A later task with the same upstream id takes the
place of an earlier one in `taskM`, and the id is then listed twice in `taskChannelM`. -/
def PlatformWork.add (work : PlatformWork) (task : Task) : PlatformWork :=
  let upstreamID := task.getUpstreamTaskID
  if upstreamID = "" then { work with nullTaskIds := work.nullTaskIds ++ [task.id] }
  else
    { work with
      taskM := Assoc.set work.taskM upstreamID task
      taskChannelM := Assoc.push work.taskChannelM task.channelId upstreamID }

def platformWork (tasks : List Task) : PlatformWork :=
  tasks.foldl PlatformWork.add {}

/-- The primary keys that `updateVideoTasks` and `updateSunoTasks` collect for the bulk update of
a missing channel. -/
def failedIDs (taskM : List (String × Task)) (taskIds : List String) : List Int :=
  taskIds.filterMap fun upstreamID => (Assoc.get? taskM upstreamID).map Task.id

/-! ## One video task -/

/-- The reading of a response body as `GeneralErrorResponse`. -/
inductive ErrorBody where
  | unparsable
  /-- `TryToOpenAIError` finds an error; its code is `none` when it is not a text. -/
  | openAIError (code : Option String)
  | unrecognized
  deriving DecidableEq

structure NewApiTask where
  status : TaskStatus
  resultURL : String
  progress : String
  failReason : String

structure VideoResponse where
  /-- The body is a successful response in the format of this program. -/
  newApi : Option NewApiTask
  /-- `ParseTaskResult`, `none` on an error. -/
  parseTaskResult : Option TaskInfo
  errorBody : ErrorBody
  /-- `redactVideoResponseBody`. -/
  redacted : List UInt8
  /-- `ExtractImageURLFromJSONBytes`. -/
  imageURL : String

/-- The task result, `none` when the body cannot be parsed. -/
def VideoResponse.taskResult (response : VideoResponse) : Option TaskInfo :=
  match response.newApi with
  | some t => some
      { status := t.status, url := t.resultURL, progress := t.progress, reason := t.failReason }
  | none => response.parseTaskResult

/-- A result without status: an error body becomes a failure, `none` is the rate limit. -/
def VideoResponse.resolve (response : VideoResponse) (taskResult : TaskInfo) : Option TaskInfo :=
  if taskResult.status ≠ .empty then some taskResult
  else
    match response.errorBody with
    | .unparsable => some taskResult
    | .openAIError code =>
      if code = some "429" then none else some (failTaskInfo "upstream returned error")
    | .unrecognized => some (failTaskInfo "upstream returned unrecognized message")

def resultURL (settings : Settings) (response : VideoResponse) (taskResult : TaskInfo)
    (task : Task) : String :=
  if "data:".isPrefixOf taskResult.url then buildProxyURL settings task.taskID
  else if taskResult.url ≠ "" then taskResult.url
  else if task.privateData.upstreamKind = "image" ∧ response.imageURL ≠ "" then response.imageURL
  else buildProxyURL settings task.taskID

/-- The `switch` over the reported status; `none` is its `default` branch. -/
def applyStatus (settings : Settings) (now : Int) (response : VideoResponse)
    (taskResult : TaskInfo) (task : Task) : Option Task :=
  match taskResult.status with
  | .submitted => some { task with progress := "10%" }
  | .queued => some { task with progress := "20%" }
  | .inProgress => some { task with
      progress := "30%"
      startTime := if task.startTime = 0 then now else task.startTime }
  | .success => some { task with
      progress := "100%"
      finishTime := if task.finishTime = 0 then now else task.finishTime
      privateData := { task.privateData with
        resultURL := resultURL settings response taskResult task } }
  | .failure => some { task with
      progress := "100%"
      finishTime := if task.finishTime = 0 then now else task.finishTime
      failReason := taskResult.reason }
  | _ => none

/-- What `updateVideoSingleTask` does after the `switch`: the conditional update from
`fromStatus`, whose loss cancels the billing only if it is `guarded`, and the billing. -/
structure VideoUpdate where
  task : Task
  taskResult : TaskInfo
  fromStatus : TaskStatus
  write : Bool
  guarded : Bool
  shouldSettle : Bool
  shouldRefund : Bool

/-- `updateVideoSingleTask` up to the conditional update: the copy in memory, which an early
return leaves half updated, and the rest of the work unless it returned early. -/
def updateVideoSingleTask (settings : Settings) (now : Int) (response : VideoResponse)
    (task : Task) : Task × Option VideoUpdate :=
  match response.taskResult with
  | none => (task, none)
  | some parsed =>
    let withData := { task with data := response.redacted }
    match response.resolve parsed with
    | none => (withData, none)
    | some taskResult =>
      let withStatus := { withData with status := taskResult.status }
      match applyStatus settings now response taskResult withStatus with
      | none => (withStatus, none)
      | some applied =>
        -- the failure branch sets the reported progress to 100% before it is copied
        let reported :=
          if taskResult.status = .failure then "100%" else taskResult.progress
        let updated :=
          if reported ≠ "" then { applied with progress := reported } else applied
        let guarded := updated.status.isDone && task.status != updated.status
        (updated, some
          { task := updated
            taskResult := taskResult
            fromStatus := task.status
            write := guarded || decide (task.snapshot ≠ updated.snapshot)
            guarded := guarded
            shouldSettle := decide (taskResult.status = .success)
            shouldRefund := decide (taskResult.status = .failure ∧ task.quota ≠ 0) })

/-- What the rest of `updateVideoSingleTask` relies on: the stored copy is the polled task with a
new status, a terminal status that differs from the old one is guarded by the conditional
update, and the billing follows the status that is stored. -/
structure VideoUpdate.Sound (task : Task) (update : VideoUpdate) : Prop where
  id : update.task.id = task.id
  quota : update.task.quota = task.quota
  submitTime : update.task.submitTime = task.submitTime
  fromStatus : update.fromStatus = task.status
  guarded : update.guarded = true ↔
    update.task.status.isDone = true ∧ update.task.status ≠ task.status
  write : update.guarded = true → update.write = true
  shouldSettle : update.shouldSettle = true ↔ update.task.status = .success
  shouldRefund : update.shouldRefund = true ↔ update.task.status = .failure ∧ task.quota ≠ 0

variable {task : Task} {settings : Settings}

theorem applyStatus_frame (h : applyStatus settings now response tr task = some apd) :
    apd.id = task.id ∧ apd.status = task.status ∧ apd.quota = task.quota ∧
      apd.submitTime = task.submitTime := by
  unfold applyStatus at h
  split at h <;> cases h
  all_goals exact ⟨rfl, rfl, rfl, rfl⟩

theorem updateVideoSingleTask_sound
    (h : updateVideoSingleTask settings now response task = (me, some upd)) :
    upd.Sound task := by
  unfold updateVideoSingleTask at h
  cases hpa : response.taskResult with
  | none => simp [hpa] at h
  | some par =>
    cases hr : response.resolve par with
    | none => simp [hpa, hr] at h
    | some tr =>
      simp only [hpa, hr] at h
      split at h
      · cases h
      rename_i apd hap
      obtain ⟨hid, hst, hq, hs⟩ := applyStatus_frame hap
      obtain ⟨-, hup⟩ := Prod.mk.inj h
      obtain rfl := Option.some.inj hup
      -- copying the reported progress touches none of the fields below
      have hfr : ∀ repo : String,
          let ud := if repo ≠ "" then { apd with progress := repo } else apd
          ud.id = task.id ∧ ud.status = tr.status ∧
            ud.quota = task.quota ∧ ud.submitTime = task.submitTime := by
        intro repo
        split
        · exact ⟨hid, hst, hq, hs⟩
        · exact ⟨hid, hst, hq, hs⟩
      obtain ⟨hid', hst', hq', hs'⟩ := hfr (if tr.status = .failure then "100%" else tr.progress)
      constructor
      · exact hid'
      · exact hq'
      · exact hs'
      · rfl
      · simp only [Bool.and_eq_true, bne_iff_ne, ne_eq]
        exact and_congr_right fun _ => not_congr eq_comm
      · intro hgu
        simp only [Bool.or_eq_true]
        exact .inl hgu
      · simp only [decide_eq_true_eq, hst']
      · simp only [decide_eq_true_eq, hst']

/-! ## One Suno item -/

structure SunoDataResponse where
  taskID : String
  status : TaskStatus
  failReason : String := ""
  submitTime : Int := 0
  startTime : Int := 0
  finishTime : Int := 0
  data : List UInt8 := []

/-- The two data texts are compared as multisets of bytes. -/
def taskNeedsUpdate (settings : Settings) (oldTask : Task) (newTask : SunoDataResponse) : Bool :=
  oldTask.submitTime != newTask.submitTime || oldTask.startTime != newTask.startTime ||
  oldTask.finishTime != newTask.finishTime || oldTask.status != newTask.status ||
  oldTask.failReason != newTask.failReason ||
  (oldTask.status.isDone && oldTask.progress != "100%") ||
  (settings.marshal oldTask.data).insertionSort (· ≤ ·) !=
    (settings.marshal newTask.data).insertionSort (· ≤ ·)

def applySunoItem (task : Task) (item : SunoDataResponse) : Task :=
  let status := if item.status ≠ .empty then item.status else task.status
  { task with
    status := status
    failReason := if item.failReason ≠ "" then item.failReason else task.failReason
    submitTime := if item.submitTime ≠ 0 then item.submitTime else task.submitTime
    startTime := if item.startTime ≠ 0 then item.startTime else task.startTime
    finishTime := if item.finishTime ≠ 0 then item.finishTime else task.finishTime
    progress :=
      if item.failReason ≠ "" ∨ status = .failure ∨ item.status = .success then "100%"
      else task.progress
    data := item.data }

def sunoRefunds (task : Task) (item : SunoDataResponse) : Bool :=
  item.failReason ≠ "" || (applySunoItem task item).status = .failure

/-! ## The realtime fetch -/

/-- The channel types that a realtime fetch serves: Gemini, Vertex and Tencent VOD. -/
def realtimeChannelTypes : List Int := [24, 41, 62]

/-- What a realtime fetch reads from the upstream: the parsed result and the body, `none` when
the body is blank. -/
structure RealtimeReport where
  info : TaskInfo
  body : Option (List UInt8)

def applyRealtimeReport (settings : Settings) (report : RealtimeReport) (task : Task) : Task :=
  let status := if report.info.status ≠ .empty then report.info.status else task.status
  { task with
    status := status
    progress := if report.info.progress ≠ "" then report.info.progress else task.progress
    data := report.body.getD task.data
    privateData := { task.privateData with
      resultURL :=
        if "data:".isPrefixOf report.info.url then task.privateData.resultURL
        else if report.info.url ≠ "" then report.info.url
        else if status = .success ∧ task.platform ≠ .other "62" then
          buildProxyURL settings task.taskID
        else task.privateData.resultURL } }

/-- The comparison of the snapshots around a realtime fetch. The new body is appended to
`task.Data[:0]`, the array the snapshot also points to: bodies of one length compare equal. -/
def realtimeChanged (task updated : Task) : Bool :=
  decide ({ task.snapshot with data := updated.data } ≠ updated.snapshot) ||
    decide (task.data.length ≠ updated.data.length)

/-- `tryRealtimeFetch` up to the conditional update: the copy to store, if it is stored. -/
def tryRealtimeFetch (settings : Settings) (channelType : Int) (report : Option RealtimeReport)
    (task : Task) : Option Task :=
  match report with
  | none => none
  | some report =>
    let updated := applyRealtimeReport settings report task
    if channelType ∈ realtimeChannelTypes ∧ realtimeChanged task updated then some updated
    else none

theorem tryRealtimeFetch_frame (h : tryRealtimeFetch settings cty rep task = some ud) :
    ud.id = task.id ∧ ud.quota = task.quota ∧ ud.submitTime = task.submitTime := by
  cases rep with
  | none => cases h
  | some rep =>
    simp only [tryRealtimeFetch] at h
    split at h
    · obtain rfl := Option.some.inj h
      exact ⟨rfl, rfl, rfl⟩
    · cases h

end NewApi.Tasks
