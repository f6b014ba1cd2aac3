import Mathlib.Data.Rat.Defs
import NewApi.Lib.Table

/-!
# Rows of the `tasks` table

The columns of `model/task.go` that the writers of a task use, the unconditional updates `update`
and `taskBulkUpdateByID`, and `updateWithStatus`, which compares only the status column and writes
every column.
-/

namespace NewApi.Tasks

open Lib Table

/-- The column is a string: `other` is every text that is not a declared constant, the empty one
included. -/
inductive TaskStatus where
  | notStart
  | submitted
  | queued
  | inProgress
  | failure
  | success
  | unknown
  | other (text : String)
  deriving DecidableEq, Repr

def TaskStatus.empty : TaskStatus := .other ""

/-- `SUCCESS` or `FAILURE`. -/
def TaskStatus.isDone : TaskStatus → Bool
  | .success | .failure => true
  | _ => false

inductive TaskPlatform where
  | suno
  | midjourney
  | other (name : String)
  deriving DecidableEq, Repr

/-- The billing parameters frozen at submission. -/
structure TaskBillingContext where
  groupRatio : ℚ := 0
  otherRatios : List (String × ℚ)
  originModelName : String
  perCallBilling : Bool
  deriving DecidableEq

structure TaskPrivateData where
  upstreamTaskID : String := ""
  upstreamKind : String := ""
  resultURL : String := ""
  billingSource : String := ""
  subscriptionId : Int := 0
  tokenId : Int := 0
  billingContext : Option TaskBillingContext := none
  deriving DecidableEq

/-- One row of the table, and equally the copy of it that a writer holds in memory. -/
structure Task where
  id : Int
  taskID : String
  platform : TaskPlatform
  userId : Int
  group : String := ""
  channelId : Int
  quota : Int
  status : TaskStatus
  failReason : String := ""
  submitTime : Int
  startTime : Int := 0
  finishTime : Int := 0
  progress : String
  originModelName : String := ""
  privateData : TaskPrivateData := {}
  data : List UInt8 := []
  deriving DecidableEq

/-- Old rows have no upstream id of their own. -/
def Task.getUpstreamTaskID (t : Task) : String :=
  if t.privateData.upstreamTaskID ≠ "" then t.privateData.upstreamTaskID else t.taskID

structure TaskSnapshot where
  status : TaskStatus
  progress : String
  startTime : Int
  finishTime : Int
  failReason : String
  resultURL : String
  data : List UInt8
  deriving DecidableEq

/-- `taskSnapshot.Equal` is equality of the results. -/
def Task.snapshot (t : Task) : TaskSnapshot where
  status := t.status
  progress := t.progress
  startTime := t.startTime
  finishTime := t.finishTime
  failReason := t.failReason
  resultURL := t.privateData.resultURL
  data := t.data

/-- What an adaptor reads out of an upstream response. -/
structure TaskInfo where
  status : TaskStatus
  reason : String := ""
  url : String := ""
  progress : String := ""
  totalTokens : Int := 0
  deriving DecidableEq

def failTaskInfo (reason : String) : TaskInfo :=
  { status := .failure, reason }

/-! ## Statements -/

def find (rows : List Task) (id : Int) : Option Task :=
  Table.get? Task.id rows id

/-- `status NOT IN (FAILURE, SUCCESS) AND progress != '100%'`, the condition that
`GetTimedOutUnfinishedTasks` and `GetAllUnFinishSyncTasks` share. -/
def Task.unfinished (t : Task) : Bool :=
  t.progress != "100%" && !t.status.isDone

def getTimedOutUnfinishedTasks (cutoffUnix : Int) (limit : Nat) (rows : List Task) : List Task :=
  ((rows.filter fun t => t.unfinished && t.submitTime < cutoffUnix).insertionSort
    fun a b => a.submitTime ≤ b.submitTime).take limit

def getAllUnFinishSyncTasks (limit : Nat) (rows : List Task) : List Task :=
  ((rows.filter Task.unfinished).insertionSort fun a b => a.id ≤ b.id).take limit

/-- `Save` rewrites the row whatever its status is. -/
def update (t : Task) (rows : List Task) : List Task :=
  Table.updateWhere (fun row => row.id = t.id) (fun _ => t) rows

/-- Every column is written, in the row with the task's id, if its status is still `fromStatus`. The
flag says whether a row was hit. -/
def updateWithStatus (t : Task) (fromStatus : TaskStatus) (rows : List Task) :
    List Task × Bool :=
  let hit := fun row : Task => decide (row.id = t.id ∧ row.status = fromStatus)
  (Table.updateWhere hit (fun _ => t) rows, rows.any hit)

/-- `TaskBulkUpdateByID` with the parameters every caller passes: `status` and `progress`, and
`fail_reason` when one is given. -/
def taskBulkUpdateByID (ids : List Int) (failReason : Option String) (rows : List Task) :
    List Task :=
  Table.updateWhere (fun row => decide (row.id ∈ ids))
    (fun row => { row with
      failReason := failReason.getD row.failReason, status := .failure, progress := "100%" })
    rows

/-! ## What a statement does to one task -/

theorem mem_getTimedOutUnfinishedTasks
    (h : t ∈ getTimedOutUnfinishedTasks cut lim rows) : t ∈ rows ∧ t.status.isDone = false := by
  have hse := List.mem_of_mem_take h
  rw [List.mem_insertionSort, List.mem_filter] at hse
  simp only [Task.unfinished, Bool.and_eq_true, Bool.not_eq_true'] at hse
  exact ⟨hse.1, hse.2.1.2⟩

theorem update_find (id : Int) :
    find (update t rows) id = (find rows id).map fun row => if row.id = t.id then t else row :=
  get?_replace rows

theorem updateWithStatus_find (id : Int) :
    find (updateWithStatus t frm rows).1 id =
      (find rows id).map fun row =>
        if row.id = t.id ∧ row.status = frm then t else row := by
  refine (get?_updateWhere ?_).trans ?_
  · intro row h
    exact (of_decide_eq_true h).1.symm
  · simp [find]

theorem updateWithStatus_won (his : (rows.map Task.id).Nodup) :
    (updateWithStatus t frm rows).2 = true ↔
      ∃ row, find rows t.id = some row ∧ row.status = frm := by
  simp only [updateWithStatus, List.any_eq_true, decide_eq_true_eq]
  constructor
  · rintro ⟨row, hr, hid, hst⟩
    exact ⟨row, hid ▸ get?_of_mem his hr, hst⟩
  · rintro ⟨row, hr, hst⟩
    exact ⟨row, get?_mem hr, get?_key hr, hst⟩

theorem taskBulkUpdateByID_find (id : Int) :
    find (taskBulkUpdateByID ids fr rows) id =
      (find rows id).map fun row =>
        if row.id ∈ ids then
          { row with
            failReason := fr.getD row.failReason, status := .failure, progress := "100%" }
        else row := by
  refine (get?_updateWhere ?_).trans ?_
  · intro row _
    rfl
  · simp [find]

theorem map_id_updateWithStatus :
    (updateWithStatus t frm rows).1.map Task.id = rows.map Task.id := by
  refine map_key_updateWhere ?_
  intro row h
  exact (of_decide_eq_true h).1.symm

theorem map_id_taskBulkUpdateByID :
    (taskBulkUpdateByID ids fr rows).map Task.id = rows.map Task.id := by
  refine map_key_updateWhere ?_
  intro row _
  rfl

end NewApi.Tasks
