import NewApi.Lib.Processes
import NewApi.Lib.Transition
import NewApi.Tasks.Polling

/-!
# Concurrent writers of the `tasks` table

Any number of timeout sweepers, polling passes and realtime fetches, each with copies of the rows it
has read. An action is what one writer does up to one database statement or billing call. `refunds`
and `settlements` log the billing calls.
-/

namespace NewApi.Tasks

open Lib Option

inductive Effect where
  | settle (upstreamID : String) (task : Task) (taskResult : TaskInfo)
  | refund (task : Task)
  | save (task : Task)

/-- A run of `sweepTimedOutTasks`: the copies still to be handled, and the refund that a won
update has made due. -/
structure Sweeper where
  todo : List Task
  refund : Option Task := none

/-- A pass of `TaskPollingLoop`: the platforms not yet visited, the current platform with its
`taskM` and its channels not yet visited, the upstream ids or the Suno items of the current
channel not yet handled, and the calls that the last one has made due. -/
structure Poller where
  platforms : List (TaskPlatform × List Task)
  platform : TaskPlatform := .other ""
  taskM : List (String × Task) := []
  channels : List (Int × List String) := []
  queue : List String := []
  items : List SunoDataResponse := []
  effects : List Effect := []

/-- A call of a billing function: the copy it was made with and the quota calls it led to. -/
structure BillingCall where
  task : Task
  calls : List QuotaCall

/-- The table, the writers at work and the log of the billing calls. -/
structure State where
  rows : List Task
  sweepers : List Sweeper := []
  pollers : List Poller := []
  fetches : List Task := []
  refunds : List BillingCall := []
  settlements : List BillingCall := []

/-- What `updateVideoTasks` and `updateSunoTasks` find for a channel. The items are those of a
successful Suno response. -/
inductive ChannelReply where
  | missing
  | noAdaptor
  | found (items : List SunoDataResponse)

/-- The steps of the writers. A writer is named by its position; `n` picks the next entry of a
map, whose order is not fixed. -/
inductive Action where
  | sweepLoad (now : Int)
  | sweepTask (i : Nat) (now : Int) (dbError : Bool)
  | sweepRefund (i : Nat) (env : BillingEnv)
  | pollLoad (limit : Nat)
  | pollPlatform (i n : Nat) (dbError : Bool)
  | pollChannel (i n : Nat) (reply : ChannelReply) (dbError : Bool)
  | pollVideo (i : Nat) (response : Option VideoResponse) (now : Int) (dbError : Bool)
  | pollSuno (i : Nat)
  | pollEffect (i : Nat) (env : BillingEnv) (adjust : Int) (dbError : Bool)
  | fetchLoad (id : Int)
  | fetchStore (i : Nat) (channelType : Int) (report : Option RealtimeReport) (dbError : Bool)

def conditionalUpdate (dbError : Bool) (t : Task) (fromStatus : TaskStatus) (rows : List Task) :
    List Task × Bool :=
  if dbError then (rows, false) else updateWithStatus t fromStatus rows

def bulkUpdate (dbError : Bool) (ids : List Int) (failReason : Option String)
    (rows : List Task) : List Task :=
  if dbError then rows else taskBulkUpdateByID ids failReason rows

def missingChannelReason (platform : TaskPlatform) (channelId : Int) : String :=
  if platform = .suno then s!"获取渠道信息失败，请联系管理员，渠道ID：{channelId}"
  else s!"Failed to get channel info, channel ID: {channelId}"

/-- The billing that `updateVideoSingleTask` does after the conditional update, whose result is
`won`. -/
def VideoUpdate.effects (update : VideoUpdate) (upstreamID : String) (won : Bool) :
    List Effect :=
  let bill := won || !update.guarded
  (if bill && update.shouldSettle then [.settle upstreamID update.task update.taskResult]
    else []) ++
    (if bill && update.shouldRefund then [.refund update.task] else [])

section

variable (settings : Settings)

/-- `sweepTimedOutTasks` reads the tasks. -/
def sweepLoad (now : Int) (s : State) : Option State :=
  if settings.taskTimeoutMinutes ≤ 0 then none
  else
    let cutoff := now - settings.taskTimeoutMinutes * 60
    some { s with
      sweepers := s.sweepers ++ [{ todo := getTimedOutUnfinishedTasks cutoff 100 s.rows }] }

def sweepTask (i : Nat) (now : Int) (dbError : Bool) (s : State) : Option State :=
  match s.sweepers[i]? with
  | some { todo := task :: rest, refund := none } =>
    let updated := timeOut settings now task
    let (rows, won) := conditionalUpdate dbError updated task.status s.rows
    let refund :=
      if won ∧ ¬ task.isLegacy ∧ task.quota ≠ 0 then some updated else none
    some { s with rows, sweepers := s.sweepers.set i { todo := rest, refund } }
  | _ => none

def sweepRefund (i : Nat) (env : BillingEnv) (s : State) : Option State :=
  match s.sweepers[i]? with
  | some { todo, refund := some task } =>
    some { s with
      refunds := ⟨task, refundTaskQuota env task⟩ :: s.refunds
      sweepers := s.sweepers.set i { todo } }
  | _ => none

/-- `TaskPollingLoop` reads the tasks. -/
def pollLoad (limit : Nat) (s : State) : Option State :=
  some { s with
    pollers := s.pollers ++ [{ platforms := platformTask (getAllUnFinishSyncTasks limit s.rows) }] }

def Poller.betweenChannels (p : Poller) : Bool :=
  p.queue.isEmpty && p.items.isEmpty && p.effects.isEmpty

/-- `TaskPollingLoop` turns to a platform and fails the tasks without upstream id. -/
def pollPlatform (i n : Nat) (dbError : Bool) (s : State) : Option State := do
  let p ← s.pollers[i]?
  let (platform, tasks) ← p.platforms[n]?
  if p.betweenChannels ∧ p.channels = [] then
    let work := platformWork tasks
    some { s with
      rows :=
        if work.nullTaskIds = [] then s.rows else bulkUpdate dbError work.nullTaskIds none s.rows
      pollers := s.pollers.set i
        { platforms := p.platforms.eraseIdx n
          platform
          taskM := work.taskM
          -- Midjourney tasks are polled elsewhere
          channels := if platform = .midjourney then [] else work.taskChannelM } }
  else none

/-- `updateVideoTasks` or `updateSunoTasks` turns to a channel and fails its tasks if the channel
is missing. -/
def pollChannel (i n : Nat) (reply : ChannelReply) (dbError : Bool) (s : State) :
    Option State := do
  let p ← s.pollers[i]?
  let (channelId, taskIds) ← p.channels[n]?
  if p.betweenChannels then
    let left := { p with channels := p.channels.eraseIdx n }
    match reply with
    | .missing => some { s with
        rows := bulkUpdate dbError (failedIDs p.taskM taskIds)
          (some (missingChannelReason p.platform channelId)) s.rows
        pollers := s.pollers.set i left }
    | .noAdaptor => some { s with pollers := s.pollers.set i left }
    | .found items => some { s with
        pollers := s.pollers.set i
          (if p.platform = .suno then { left with items } else { left with queue := taskIds }) }
  else none

/-- `updateVideoSingleTask` up to the billing. A response `none` is a failed fetch. -/
def pollVideo (i : Nat) (response : Option VideoResponse) (now : Int) (dbError : Bool)
    (s : State) : Option State := do
  let p ← s.pollers[i]?
  match p.effects, p.queue with
  | [], upstreamID :: rest =>
    let skip := some { s with pollers := s.pollers.set i { p with queue := rest } }
    match Assoc.get? p.taskM upstreamID, response with
    | none, _ => skip
    | _, none => skip
    | some task, some response =>
      let (memory, update?) := updateVideoSingleTask settings now response task
      let left := { p with queue := rest, taskM := Assoc.set p.taskM upstreamID memory }
      match update? with
      | none => some { s with pollers := s.pollers.set i left }
      | some update =>
        let (rows, won) :=
          if update.write then
            conditionalUpdate dbError update.task update.fromStatus s.rows
          else (s.rows, false)
        some { s with
          rows
          pollers := s.pollers.set i { left with effects := update.effects upstreamID won } }
  | _, _ => none

/-- `updateSunoTasks` handles an item. An item of an unknown task is a nil dereference, which
ends the pass. -/
def pollSuno (i : Nat) (s : State) : Option State := do
  let p ← s.pollers[i]?
  match p.effects, p.items with
  | [], item :: rest =>
    match Assoc.get? p.taskM item.taskID with
    | none => some { s with pollers := s.pollers.set i { platforms := [] } }
    | some task =>
      let left := { p with items := rest }
      if taskNeedsUpdate settings task item then
        let updated := applySunoItem task item
        let effects :=
          (if sunoRefunds task item then [Effect.refund updated] else []) ++
            [Effect.save updated]
        some { s with
          pollers := s.pollers.set i
            { left with taskM := Assoc.set p.taskM item.taskID updated, effects } }
      else some { s with pollers := s.pollers.set i left }
  | _, _ => none

def pollEffect (i : Nat) (env : BillingEnv) (adjust : Int) (dbError : Bool) (s : State) :
    Option State := do
  let p ← s.pollers[i]?
  match p.effects with
  | [] => none
  | .refund task :: rest => some { s with
      refunds := ⟨task, refundTaskQuota env task⟩ :: s.refunds
      pollers := s.pollers.set i { p with effects := rest } }
  | .settle upstreamID task taskResult :: rest =>
    let (settled, calls) :=
      settleTaskBillingOnComplete settings.ratios env adjust task taskResult
    some { s with
      settlements := ⟨task, calls⟩ :: s.settlements
      pollers := s.pollers.set i
        { p with effects := rest, taskM := Assoc.set p.taskM upstreamID settled } }
  | .save task :: rest => some { s with
      rows := if dbError then s.rows else update task s.rows
      pollers := s.pollers.set i { p with effects := rest } }

def fetchLoad (id : Int) (s : State) : Option State := do
  let task ← find s.rows id
  some { s with fetches := s.fetches ++ [task] }

/-- A realtime fetch stores what it read from the upstream. The result of the update is ignored. -/
def fetchStore (i : Nat) (channelType : Int) (report : Option RealtimeReport) (dbError : Bool)
    (s : State) : Option State := do
  let task ← s.fetches[i]?
  let fetches := s.fetches.eraseIdx i
  match tryRealtimeFetch settings channelType report task with
  | none => some { s with fetches }
  | some updated =>
    some { s with rows := (conditionalUpdate dbError updated task.status s.rows).1, fetches }

def machine : System State Action where
  step s
    | .sweepLoad now => sweepLoad settings now s
    | .sweepTask i now dbError => sweepTask settings i now dbError s
    | .sweepRefund i env => sweepRefund i env s
    | .pollLoad limit => pollLoad limit s
    | .pollPlatform i n dbError => pollPlatform i n dbError s
    | .pollChannel i n reply dbError => pollChannel i n reply dbError s
    | .pollVideo i response now dbError => pollVideo settings i response now dbError s
    | .pollSuno i => pollSuno settings i s
    | .pollEffect i env adjust dbError => pollEffect settings i env adjust dbError s
    | .fetchLoad id => fetchLoad id s
    | .fetchStore i channelType report dbError =>
      fetchStore settings i channelType report dbError s

end

/-! ## The statements with their errors -/

theorem conditionalUpdate_find (id : Int) :
    find (conditionalUpdate dbe t frm rows).1 id =
      (find rows id).map fun row =>
        if dbe = false ∧ row.id = t.id ∧ row.status = frm then t else row := by
  cases dbe with
  | false => simpa [conditionalUpdate] using updateWithStatus_find id
  | true => simp [conditionalUpdate]

variable {dbe : Bool} {rows : List Task}

theorem conditionalUpdate_row {t : Task} {frm : TaskStatus} {id : Int} {row : Task}
    (h : find (conditionalUpdate dbe t frm rows).1 id = some row) :
    find rows id = some row ∨
      row = t ∧ t.id = id ∧ (conditionalUpdate dbe t frm rows).2 = true := by
  rw [conditionalUpdate_find] at h
  obtain ⟨old, ho, hr⟩ := map_eq_some_iff.mp h
  split at hr
  · rename_i hhi
    obtain ⟨rfl, hid, hst⟩ := hhi
    refine .inr ⟨hr.symm, hid ▸ Table.get?_key ho, ?_⟩
    exact List.any_eq_true.mpr ⟨old, Table.get?_mem ho, by simp [hid, hst]⟩
  · exact .inl (hr ▸ ho)

theorem conditionalUpdate_won (hid : (rows.map Task.id).Nodup)
    (hwo : (conditionalUpdate dbe t frm rows).2 = true) :
    dbe = false ∧ ∃ row, find rows t.id = some row ∧ row.status = frm := by
  cases dbe with
  | false => exact ⟨rfl, (updateWithStatus_won hid).mp hwo⟩
  | true => cases hwo

theorem map_id_conditionalUpdate :
    (conditionalUpdate dbe t frm rows).1.map Task.id = rows.map Task.id := by
  cases dbe with
  | false => exact map_id_updateWithStatus
  | true => rfl

theorem bulkUpdate_find (ids : List Int) (fr : Option String) {id : Int} {row : Task}
    (h : find rows id = some row) :
    ∃ row', find (bulkUpdate dbe ids fr rows) id = some row' ∧
      (row' = row ∨ row.id ∈ ids ∧ row' = { row with
        failReason := fr.getD row.failReason, status := .failure, progress := "100%" }) := by
  cases dbe with
  | true => exact ⟨row, h, .inl rfl⟩
  | false =>
    simp only [bulkUpdate, Bool.false_eq_true, if_false, taskBulkUpdateByID_find, h, map_some]
    split
    next hm => exact ⟨_, rfl, .inr ⟨hm, rfl⟩⟩
    next => exact ⟨row, rfl, .inl rfl⟩

theorem map_id_bulkUpdate : (bulkUpdate dbe ids fr rows).map Task.id = rows.map Task.id := by
  cases dbe with
  | false => exact map_id_taskBulkUpdateByID
  | true => rfl

/-! ## What a step does -/

theorem save_notMem_effects (upd : VideoUpdate) (won : Bool) :
    Effect.save task ∉ upd.effects up won := by
  unfold VideoUpdate.effects
  dsimp only
  split <;> split <;> simp

variable {now : Int} {i : Nat}

section

variable {settings : Settings} {s s' : State}

theorem sweepLoad_eq_some (h : sweepLoad settings now s = some s') :
    ∃ cut, s' = { s with
      sweepers := s.sweepers ++ [{ todo := getTimedOutUnfinishedTasks cut 100 s.rows }] } := by
  unfold sweepLoad at h
  split at h
  · cases h
  · exact ⟨_, (Option.some.inj h).symm⟩

theorem sweepTask_eq_some (h : sweepTask settings i now dbe s = some s') :
    ∃ task rs, s.sweepers[i]? = some { todo := task :: rs } ∧
      s' = { s with
        rows := (conditionalUpdate dbe (timeOut settings now task) task.status s.rows).1
        sweepers := s.sweepers.set i
          { todo := rs
            refund :=
              if (conditionalUpdate dbe (timeOut settings now task) task.status s.rows).2 ∧
                ¬ task.isLegacy ∧ task.quota ≠ 0 then some (timeOut settings now task)
              else none } } := by
  unfold sweepTask at h
  split at h
  · rename_i task rs hg
    exact ⟨task, rs, hg, (Option.some.inj h).symm⟩
  · cases h

theorem sweepRefund_eq_some (h : sweepRefund i env s = some s') :
    ∃ todo task, s.sweepers[i]? = some { todo, refund := some task } ∧
      s' = { s with
        refunds := ⟨task, refundTaskQuota env task⟩ :: s.refunds
        sweepers := s.sweepers.set i { todo } } := by
  unfold sweepRefund at h
  split at h
  · rename_i todo task hg
    exact ⟨todo, task, hg, (Option.some.inj h).symm⟩
  · cases h

theorem pollPlatform_eq_some (h : pollPlatform i n dbe s = some s') :
    ∃ p plat tks p', s.pollers[i]? = some p ∧ p.platforms[n]? = some (plat, tks) ∧
      p.effects = [] ∧
      s' = { s with
        rows :=
          if (platformWork tks).nullTaskIds = [] then s.rows
          else bulkUpdate dbe (platformWork tks).nullTaskIds none s.rows
        pollers := s.pollers.set i p' } ∧
      p'.effects = [] := by
  simp only [pollPlatform, bind_eq_bind, bind_eq_some_iff, Prod.exists] at h
  obtain ⟨p, hp, plat, tks, hpl, h⟩ := h
  split at h
  · rename_i hid
    have hef : p.effects = [] := by
      have hbe := hid.1
      simp only [Poller.betweenChannels, Bool.and_eq_true, List.isEmpty_iff] at hbe
      exact hbe.2
    exact ⟨p, plat, tks, _, hp, hpl, hef, (Option.some.inj h).symm, rfl⟩
  · cases h

theorem pollChannel_eq_some (h : pollChannel i n rpl dbe s = some s') :
    ∃ p cid ti p', s.pollers[i]? = some p ∧
      p.channels[n]? = some (cid, ti) ∧ p.effects = [] ∧
      s' = { s with
        rows :=
          match rpl with
          | .missing => bulkUpdate dbe (failedIDs p.taskM ti)
              (some (missingChannelReason p.platform cid)) s.rows
          | _ => s.rows
        pollers := s.pollers.set i p' } ∧
      p'.effects = [] := by
  simp only [pollChannel, bind_eq_bind, bind_eq_some_iff, Prod.exists] at h
  obtain ⟨p, hp, cid, ti, hch, h⟩ := h
  split at h
  · rename_i hbe
    have hef : p.effects = [] := by
      simp only [Poller.betweenChannels, Bool.and_eq_true, List.isEmpty_iff] at hbe
      exact hbe.2
    refine ⟨p, cid, ti, ?_⟩
    cases rpl with
    | missing | noAdaptor => exact ⟨_, hp, hch, hef, (Option.some.inj h).symm, hef⟩
    | found xs =>
      refine ⟨_, hp, hch, hef, (Option.some.inj h).symm, ?_⟩
      split
      · exact hef
      · exact hef
  · cases h

theorem pollVideo_eq_some (h : pollVideo settings i response now dbe s = some s') :
    ∃ p, s.pollers[i]? = some p ∧ p.effects = [] ∧
      ((∃ p', s' = { s with pollers := s.pollers.set i p' } ∧ p'.effects = []) ∨
        ∃ up rs task, ∃ upd : VideoUpdate, ∃ p',
          p.queue = up :: rs ∧ Assoc.get? p.taskM up = some task ∧
          upd.Sound task ∧
          s' = { s with
            rows :=
              if upd.write then
                (conditionalUpdate dbe upd.task task.status s.rows).1
              else s.rows
            pollers := s.pollers.set i p' } ∧
          p'.effects = upd.effects up (upd.write &&
            (conditionalUpdate dbe upd.task task.status s.rows).2)) := by
  simp only [pollVideo, bind_eq_bind, bind_eq_some_iff] at h
  obtain ⟨p, hp, h⟩ := h
  refine ⟨p, hp, ?_⟩
  split at h
  · rename_i up rs hef hqu
    refine ⟨hef, ?_⟩
    split at h
    · exact .inl ⟨_, (Option.some.inj h).symm, hef⟩
    · exact .inl ⟨_, (Option.some.inj h).symm, hef⟩
    rename_i task response hta
    cases hvi : updateVideoSingleTask settings now response task with
    | mk memory update? =>
      rw [hvi] at h
      cases update? with
      | none => exact .inl ⟨_, (Option.some.inj h).symm, hef⟩
      | some upd =>
        have hso := updateVideoSingleTask_sound hvi
        refine .inr ⟨up, rs, task, upd, ?_⟩
        simp only [hso.fromStatus] at h
        cases hwr : upd.write with
        | false =>
          simp only [hwr, Bool.false_eq_true, if_false] at h
          exact ⟨_, hqu, hta, hso, by simpa using (Option.some.inj h).symm, rfl⟩
        | true =>
          simp only [hwr, if_true] at h
          exact ⟨_, hqu, hta, hso, by simpa using (Option.some.inj h).symm, rfl⟩
  · cases h

theorem pollSuno_eq_some (h : pollSuno settings i s = some s') :
    ∃ p p', s.pollers[i]? = some p ∧ p.effects = [] ∧
      s' = { s with pollers := s.pollers.set i p' } ∧
      (p'.effects = [] ∨
        ∃ item rs task, p.items = item :: rs ∧ Assoc.get? p.taskM item.taskID = some task ∧
          p'.effects =
            (if sunoRefunds task item then [Effect.refund (applySunoItem task item)] else []) ++
              [Effect.save (applySunoItem task item)]) := by
  simp only [pollSuno, bind_eq_bind, bind_eq_some_iff] at h
  obtain ⟨p, hp, h⟩ := h
  split at h
  · rename_i item rs hef hxs
    split at h
    · exact ⟨p, _, hp, hef, (Option.some.inj h).symm, .inl rfl⟩
    rename_i task hta
    split at h
    · exact ⟨p, _, hp, hef, (Option.some.inj h).symm, .inr ⟨item, rs, task, hxs, hta, rfl⟩⟩
    · exact ⟨p, _, hp, hef, (Option.some.inj h).symm, .inl hef⟩
  · cases h

theorem pollEffect_eq_some (h : pollEffect settings i env adj dbe s = some s') :
    ∃ p ef p', s.pollers[i]? = some p ∧
      (s' = match ef with
        | .refund task => { s with
            refunds := ⟨task, refundTaskQuota env task⟩ :: s.refunds
            pollers := s.pollers.set i p' }
        | .settle _ task tr => { s with
            settlements :=
              ⟨task, (settleTaskBillingOnComplete settings.ratios env adj task tr).2⟩ ::
                s.settlements
            pollers := s.pollers.set i p' }
        | .save task => { s with
            rows := if dbe then s.rows else update task s.rows
            pollers := s.pollers.set i p' }) ∧
      p.effects = ef :: p'.effects := by
  simp only [pollEffect, bind_eq_bind, bind_eq_some_iff] at h
  obtain ⟨p, hp, h⟩ := h
  split at h
  · cases h
  · rename_i task rs hef
    exact ⟨p, .refund task, _, hp, (Option.some.inj h).symm, hef⟩
  · rename_i up task tr rs hef
    exact ⟨p, .settle up task tr, _, hp, (Option.some.inj h).symm, hef⟩
  · rename_i task rs hef
    exact ⟨p, .save task, _, hp, (Option.some.inj h).symm, hef⟩

theorem fetchLoad_eq_some {id : Int} (h : fetchLoad id s = some s') :
    ∃ task, find s.rows id = some task ∧ s' = { s with fetches := s.fetches ++ [task] } := by
  simp only [fetchLoad, bind_eq_bind, bind_eq_some_iff] at h
  obtain ⟨task, hta, h⟩ := h
  exact ⟨task, hta, (Option.some.inj h).symm⟩

theorem fetchStore_eq_some (h : fetchStore settings i cty rep dbe s = some s') :
    ∃ task, s.fetches[i]? = some task ∧
      s' = { s with
        rows :=
          match tryRealtimeFetch settings cty rep task with
          | none => s.rows
          | some ud => (conditionalUpdate dbe ud task.status s.rows).1
        fetches := s.fetches.eraseIdx i } := by
  simp only [fetchStore, bind_eq_bind, bind_eq_some_iff] at h
  obtain ⟨task, hta, h⟩ := h
  refine ⟨task, hta, ?_⟩
  cases hfe : tryRealtimeFetch settings cty rep task with
  | none | some =>
    rw [hfe] at h
    exact (Option.some.inj h).symm

end

/-- A start of the program: distinct primary keys, no writer at work and nothing billed yet. -/
structure State.Fresh (s : State) : Prop where
  ids : (s.rows.map Task.id).Nodup
  sweepers : s.sweepers = []
  pollers : s.pollers = []
  fetches : s.fetches = []
  refunds : s.refunds = []
  settlements : s.settlements = []

/-! ## A task on a Gemini channel -/

def dayTimeout : Settings where
  serverAddress := "https://example.com"
  taskTimeoutMinutes := 1440
  ratios :=
    { modelRatio := fun _ => none
      groupRatio := fun _ => 1
      groupGroupRatio := fun _ _ => none
      userGroup := fun _ => none }
  marshal := id

def geminiTask : Task where
  id := 1
  taskID := "task_1"
  platform := .other "24"
  userId := 7
  channelId := 3
  quota := 500
  status := .inProgress
  submitTime := 1800000000
  progress := "30%"

def storesUp : BillingEnv where
  fundingFails := false
  tokenKey := "key"
  tokenFails := false

def timedOut : List Action :=
  [.sweepLoad 1800100000, .sweepTask 0 1800100000 false, .sweepRefund 0 storesUp]

end NewApi.Tasks
