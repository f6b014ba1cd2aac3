import Mathlib.Data.List.Induction
import NewApi.Tasks.Machine

/-!
# One polling pass

A pass of `TaskPollingLoop` over one platform, without other writers. Tasks are found by their
upstream ids: of two tasks with one id only the later one is in `taskM`. The Suno poller refunds
before it stores and takes the items of the response on trust.
-/

namespace NewApi.Tasks

open Lib List Assoc

/-! ## Copies of tasks -/

variable {tasks : List Task} {task tk : Task} {key : String}

theorem platformWork_append : platformWork (tasks ++ [task]) = (platformWork tasks).add task := by
  unfold platformWork
  rw [foldl_append]
  rfl

/-- A copy in `taskM` is one of the tasks, under its own upstream id. -/
theorem mem_of_taskM (h : get? (platformWork tasks).taskM key = some task) :
    task ∈ tasks ∧ task.getUpstreamTaskID = key := by
  induction tasks using reverseRecOn with
  | nil => cases h
  | append_singleton tasks last ih =>
    have hearlier (h : get? (platformWork tasks).taskM key = some task) :=
      And.imp_left (mem_append_left [last]) (ih h)
    rw [platformWork_append, PlatformWork.add] at h
    split at h
    · exact hearlier h
    rw [get?_set] at h
    split at h
    · rename_i hkey
      cases h
      exact ⟨mem_append_right _ (mem_singleton_self _), hkey.symm⟩
    · exact hearlier h

/-- What `updateVideoSingleTask` meets: the response, `none` when the request fails, and the
outcome of its statements. -/
structure VideoAnswer where
  response : Option VideoResponse
  now : Int
  dbError : Bool
  env : BillingEnv
  adjust : Int

namespace VideoAnswer

/-- The copy in memory and the update, if the answer leads to one. -/
def read (settings : Settings) (answer : VideoAnswer) (task : Task) : Task × Option VideoUpdate :=
  match answer.response with
  | none => (task, none)
  | some response => updateVideoSingleTask settings answer.now response task

/-- The rows after the answer was applied to a task, and whether its conditional update won. -/
def store (settings : Settings) (answer : VideoAnswer) (task : Task) (rows : List Task) :
    List Task × Bool :=
  match (answer.read settings task).2 with
  | none => (rows, false)
  | some update =>
    if update.write then conditionalUpdate answer.dbError update.task update.fromStatus rows
    else (rows, false)

/-- The billing that the answer leads to. -/
def effects (settings : Settings) (answer : VideoAnswer) (upstreamID : String) (task : Task)
    (rows : List Task) : List Effect :=
  match (answer.read settings task).2 with
  | none => []
  | some update => update.effects upstreamID (answer.store settings task rows).2

end VideoAnswer

/-- The billing of a poll: the copy that a settlement leaves. -/
def Effect.settledCopy (settings : Settings) (answer : VideoAnswer) (memory : Task) :
    Effect → Task
  | .settle _ task taskResult =>
    (settleTaskBillingOnComplete settings.ratios answer.env answer.adjust task taskResult).1
  | _ => memory

/-- A question about an upstream id that is put to a channel, and its answer. -/
structure Question where
  channelId : Int
  upstreamID : String
  answer : VideoAnswer

/-- The channel and the upstream id of a question. -/
def Question.entry (question : Question) : Int × String :=
  (question.channelId, question.upstreamID)

/-- The pass and what it has done: the channel that was asked for an upstream id and the task that
took the answer, and the tasks whose billing was settled or refunded. -/
structure VideoPass where
  taskM : List (String × Task)
  rows : List Task
  asked : List (Int × String × Int) := []
  billed : List Int := []

/-- `updateVideoSingleTask`. -/
def VideoPass.ask (settings : Settings) (s : VideoPass) (question : Question) : VideoPass :=
  match Assoc.get? s.taskM question.upstreamID with
  | none => s
  | some task =>
    let answer := question.answer
    let effects := answer.effects settings question.upstreamID task s.rows
    { taskM := Assoc.set s.taskM question.upstreamID
        (effects.foldl (Effect.settledCopy settings answer) (answer.read settings task).1)
      rows := (answer.store settings task s.rows).1
      asked := s.asked ++ [(question.channelId, question.upstreamID, task.id)]
      billed := s.billed ++ effects.map fun _ => task.id }

section

variable {settings : Settings} {platform : TaskPlatform} {s s' s'' : VideoPass}

/-- The tasks that take the answers of a list of questions. -/
def takers (taskM : List (String × Task)) (entries : List (Int × String)) :
    List (Int × String × Int) :=
  entries.flatMap fun entry => (Assoc.get? taskM entry.2).toList.map fun task =>
    (entry.1, entry.2, task.id)

/-- A part of a pass that puts these questions: each answer is taken by the copy of its upstream
id, which is billed at most once for it, and the copies are still those of the same tasks. -/
structure Asks (s s' : VideoPass) (entries : List (Int × String)) : Prop where
  asked : s'.asked = s.asked ++ takers s.taskM entries
  billed : ∃ billed, billed.Sublist ((takers s.taskM entries).map (·.2.2)) ∧
    s'.billed = s.billed ++ billed
  copies : ∀ key, (get? s'.taskM key).map Task.id = (get? s.taskM key).map Task.id

theorem Asks.of_rows (rows : List Task) : Asks s { s with rows } [] where
  asked := (append_nil _).symm
  billed := ⟨[], nil_sublist _, (append_nil _).symm⟩
  copies := fun _ => rfl

theorem takers_congr {taskM taskM' : List (String × Task)}
    (h : ∀ key, (get? taskM' key).map Task.id = (get? taskM key).map Task.id)
    (entries : List (Int × String)) : takers taskM' entries = takers taskM entries := by
  unfold takers
  congr 1
  funext entry
  have hid := h entry.2
  cases hnew : get? taskM' entry.2 <;> cases hold : get? taskM entry.2 <;> simp_all

theorem Asks.trans {first rest : List (Int × String)} (h : Asks s s' first)
    (h' : Asks s' s'' rest) : Asks s s'' (first ++ rest) := by
  have htakers := takers_congr h.copies rest
  obtain ⟨billed, hsub, hbilled⟩ := h.billed
  obtain ⟨billed', hsub', hbilled'⟩ := h'.billed
  have happend : takers s.taskM (first ++ rest) = takers s.taskM first ++ takers s.taskM rest :=
    flatMap_append
  refine ⟨?_, ⟨billed ++ billed', ?_, ?_⟩, fun key => (h'.copies key).trans (h.copies key)⟩
  · rw [h'.asked, h.asked, htakers, happend, append_assoc]
  · rw [happend, map_append]
    exact hsub.append (htakers ▸ hsub')
  · rw [hbilled', hbilled, append_assoc]

theorem Asks.foldl {α : Type} {turn : VideoPass → α → VideoPass}
    {entries : α → List (Int × String)} (h : ∀ s a, Asks s (turn s a) (entries a)) (as : List α)
    (s : VideoPass) : Asks s (as.foldl turn s) (as.flatMap entries) := by
  induction as generalizing s with
  | nil => exact .of_rows s.rows
  | cons a as ih => exact (h s a).trans (ih (turn s a))

variable {channels : List (Int × List String)} {replies : Int → VideoReply}

end

/-- An item of a response, and the outcome of its statements. -/
structure SunoItem where
  item : SunoDataResponse
  env : BillingEnv
  updateFails : Bool := false

/-- `Update`, whose error is only logged. -/
def SunoItem.store (input : SunoItem) (task : Task) (rows : List Task) : List Task :=
  if input.updateFails then rows else update task rows

/-- The poller and the tasks for which it has given quota back. -/
structure SunoPass where
  taskM : List (String × Task)
  rows : List Task
  refunds : List Int := []

/-- One turn of the loop of `updateSunoTasks`; `none` is the nil dereference in
`taskNeedsUpdate`. -/
def SunoPass.handle (settings : Settings) (s : SunoPass) (input : SunoItem) : Option SunoPass :=
  match Assoc.get? s.taskM input.item.taskID with
  | none => none
  | some task =>
    if taskNeedsUpdate settings task input.item then
      let updated := applySunoItem task input.item
      some
        { taskM := Assoc.set s.taskM input.item.taskID updated
          rows := input.store updated s.rows
          refunds :=
            if sunoRefunds task input.item ∧ refundTaskQuota input.env updated ≠ [] then
              s.refunds ++ [task.id]
            else s.refunds }
    else some s

def sunoTasks (limit : Nat) (rows : List Task) : List Task :=
  (getAllUnFinishSyncTasks limit rows).filter (·.platform = .suno)

/-- A pass with the items that the channels return. -/
def sunoPass (settings : Settings) (limit : Nat) (items : List SunoItem) (s : SunoPass) :
    Option SunoPass :=
  items.foldlM (SunoPass.handle settings)
    { s with taskM := (platformWork (sunoTasks limit s.rows)).taskM }

def sunoPolls (settings : Settings) (limit : Nat) (passes : List (List SunoItem))
    (s : SunoPass) : Option SunoPass :=
  passes.foldlM (fun s items => sunoPass settings limit items s) s

/-- Items that the poller can take on trust: one for each of some tasks of the pass, a reason only
with a failure, and a failure that is stored. -/
structure CleanItems (taskM : List (String × Task)) (items : List SunoItem) : Prop where
  known : ∀ input ∈ items, (Assoc.get? taskM input.item.taskID).isSome
  nodup : (items.map (·.item.taskID)).Nodup
  failure : ∀ input ∈ items, input.item.failReason ≠ "" → input.item.status = .failure
  stored : ∀ input ∈ items, input.item.status = .failure → input.updateFails = false

/-- Every pass of a run gets clean items. -/
def CleanPolls (settings : Settings) (limit : Nat) : List (List SunoItem) → SunoPass → Prop
  | [], _ => True
  | items :: rest, s =>
    CleanItems (platformWork (sunoTasks limit s.rows)).taskM items ∧
      ∀ next, sunoPass settings limit items s = some next → CleanPolls settings limit rest next

/-- The refunded tasks are different ones and stored as failures. -/
structure RefundsStored (s : SunoPass) : Prop where
  ids : (s.rows.map Task.id).Nodup
  nodup : s.refunds.Nodup
  failed : ∀ id ∈ s.refunds, ∃ row, find s.rows id = some row ∧ row.status = .failure

/-- The copies are those of the loaded tasks, and `todo` are tasks that have not failed yet. -/
structure Loaded (loaded : List Task) (todo : List String) (s : SunoPass) : Prop where
  ids : (loaded.map Task.id).Nodup
  copies : ∀ key task, Assoc.get? s.taskM key = some task →
    ∃ row ∈ loaded, row.id = task.id ∧ row.getUpstreamTaskID = key
  fresh : ∀ key ∈ todo, ∃ task row, Assoc.get? s.taskM key = some task ∧
    task.status ≠ .failure ∧ find s.rows task.id = some row ∧ row.status ≠ .failure

section

variable {settings : Settings} {limit : Nat} {s s' : SunoPass} {ld : List Task}
  {inp : SunoItem} {todo : List String}

theorem key_eq_of_id_eq (h : Loaded ld todo s) (hk : get? s.taskM key = some task)
    (hk' : get? s.taskM key' = some other) (hid : other.id = task.id) : key' = key := by
  obtain ⟨row, hr, hro, rfl⟩ := h.copies key task hk
  obtain ⟨row', hr', hro', rfl⟩ := h.copies key' other hk'
  have hs : row' = row := inj_on_of_nodup_map h.ids hr' hr (hro'.trans (hid.trans hro.symm))
  rw [hs]

theorem status_applySunoItem (ho : task.status ≠ .failure) :
    (applySunoItem task item).status = .failure ↔ item.status = .failure := by
  show (if item.status ≠ .empty then item.status else task.status) = .failure ↔ _
  split
  · rfl
  · rename_i hem
    rw [not_not.mp hem]
    exact iff_of_false ho (by decide)

theorem find_store_of_ne {rows : List Task} {id : Int} (h : id ≠ task.id) :
    find (inp.store task rows) id = find rows id := by
  unfold SunoItem.store
  split
  · rfl
  rw [update_find]
  cases hr : find rows id with
  | none => rfl
  | some row =>
    have hid : row.id = id := Table.get?_key hr
    simp [hid, h]

theorem find_store_self (hok : inp.updateFails = false)
    (hr : find rows task.id = some row) : find (inp.store task rows) task.id = some task := by
  have hid : row.id = task.id := Table.get?_key hr
  rw [SunoItem.store, hok, if_neg (by decide), update_find, hr]
  simp [hid]

theorem RefundsStored.store (hi : RefundsStored s) {ud row : Task} {refu : Prop} [Decidable refu]
    (hr : find s.rows ud.id = some row) (hst : row.status ≠ .failure)
    (hrf : refu → ud.status = .failure ∧ inp.updateFails = false) (tm : List (String × Task)) :
    RefundsStored ⟨tm, inp.store ud s.rows,
      if refu then s.refunds ++ [ud.id] else s.refunds⟩ := by
  have hn : ud.id ∉ s.refunds := by
    intro hm
    obtain ⟨row', hr', hfa⟩ := hi.failed _ hm
    rw [hr] at hr'
    cases hr'
    exact hst hfa
  have ho : ∀ id ∈ s.refunds, ∃ row, find (inp.store ud s.rows) id = some row ∧
      row.status = .failure := by
    intro id hm
    rw [find_store_of_ne fun heq => hn (heq ▸ hm)]
    exact hi.failed id hm
  refine ⟨?_, ?_, ?_⟩
  · dsimp only [SunoItem.store]
    split
    · exact hi.ids
    · rw [update, Table.map_key_replace]
      exact hi.ids
  · dsimp only
    split
    · refine nodup_append.mpr ⟨hi.nodup, nodup_singleton _, fun id hm other hl => ?_⟩
      rw [mem_singleton.mp hl]
      exact fun heq => hn (heq ▸ hm)
    · exact hi.nodup
  dsimp only
  split
  · rename_i hre
    intro id hm
    rcases mem_append.mp hm with hm | hl
    · exact ho id hm
    · rw [mem_singleton.mp hl]
      exact ⟨ud, find_store_self (hrf hre).2 hr, (hrf hre).1⟩
  · exact ho

theorem Loaded.store (h : Loaded ld (key :: todo) s) (hn : key ∉ todo)
    (hk : get? s.taskM key = some task) {ud : Task} (hid : ud.id = task.id) (refs : List Int) :
    Loaded ld todo ⟨set s.taskM key ud, inp.store ud s.rows, refs⟩ := by
  refine ⟨h.ids, fun other cp hco => ?_, fun other hm => ?_⟩
  · rw [get?_set] at hco
    split at hco
    · rename_i heq
      cases hco
      rw [heq, hid]
      exact h.copies key task hk
    · exact h.copies other cp hco
  obtain ⟨cp, row, hco, hst, hr, hro⟩ := h.fresh other (mem_cons_of_mem _ hm)
  have hne : other ≠ key := fun heq => hn (heq ▸ hm)
  refine ⟨cp, row, ?_, hst, ?_, hro⟩
  · rw [get?_set, if_neg hne, hco]
  · rw [find_store_of_ne fun heq => hne (key_eq_of_id_eq h hk hco (heq.trans hid)), hr]

theorem handle_keeps (hi : RefundsStored s) (hld : Loaded ld (inp.item.taskID :: todo) s)
    (hn : inp.item.taskID ∉ todo) (hfi : inp.item.failReason ≠ "" → inp.item.status = .failure)
    (hst : inp.item.status = .failure → inp.updateFails = false) :
    ∃ s', s.handle settings inp = some s' ∧ RefundsStored s' ∧ Loaded ld todo s' := by
  obtain ⟨task, row, hf, ho, hr, hro⟩ := hld.fresh _ mem_cons_self
  unfold SunoPass.handle
  simp only [hf]
  split
  · refine ⟨_, rfl, @RefundsStored.store s inp hi (applySunoItem task inp.item) row _ _ hr
      hro (fun hre => ?_) _,
      @Loaded.store _ _ s ld inp todo hld hn hf (applySunoItem task inp.item) rfl _⟩
    have hrs := hre.1
    simp only [sunoRefunds, Bool.or_eq_true, decide_eq_true_eq, status_applySunoItem ho] at hrs
    have hfa : inp.item.status = .failure := hrs.elim hfi fun h => h
    exact ⟨(status_applySunoItem ho).mpr hfa, hst hfa⟩
  · exact ⟨s, rfl, hi, hld.ids, hld.copies, fun key hm => hld.fresh key (mem_cons_of_mem _ hm)⟩

theorem foldlM_handle_keeps {xs : List SunoItem} (hi : RefundsStored s)
    (hld : Loaded ld (xs.map (·.item.taskID)) s) (hno : (xs.map (·.item.taskID)).Nodup)
    (hfa : ∀ inp ∈ xs, inp.item.failReason ≠ "" → inp.item.status = .failure)
    (hst : ∀ inp ∈ xs, inp.item.status = .failure → inp.updateFails = false) :
    ∃ s', xs.foldlM (SunoPass.handle settings) s = some s' ∧ RefundsStored s' := by
  induction xs generalizing s with
  | nil => exact ⟨s, rfl, hi⟩
  | cons inp xs ih =>
    rw [map_cons, nodup_cons] at hno
    rw [forall_mem_cons] at hfa hst
    rw [map_cons] at hld
    obtain ⟨next, hs, hx, hr⟩ := @handle_keeps settings s ld inp
      (xs.map (·.item.taskID)) hi hld hno.1 hfa.1 hst.1
    obtain ⟨fin, hru, hfi⟩ := ih hx hr hno.2 hfa.2 hst.2
    exact ⟨fin, by rw [foldlM_cons, hs]; exact hru, hfi⟩

theorem loaded_of_rows (hid : (s.rows.map Task.id).Nodup)
    (hkn : ∀ key ∈ ks, (get? (platformWork (sunoTasks limit s.rows)).taskM key).isSome) :
    Loaded (sunoTasks limit s.rows) ks
      { s with taskM := (platformWork (sunoTasks limit s.rows)).taskM } := by
  have hm : ∀ task ∈ sunoTasks limit s.rows, task ∈ s.rows ∧ task.status.isDone = false := by
    intro task hta
    have hse := mem_of_mem_take (mem_of_mem_filter hta)
    rw [mem_insertionSort, mem_filter] at hse
    simp only [Task.unfinished, Bool.and_eq_true, Bool.not_eq_true'] at hse
    exact ⟨hse.1, hse.2.2⟩
  refine ⟨?_, fun key task h => ?_, fun key hk => ?_⟩
  · have hso : (((s.rows.filter Task.unfinished).insertionSort
        fun a b => a.id ≤ b.id).map Task.id).Nodup :=
      ((perm_insertionSort _ _).map Task.id).nodup_iff.mpr ((filter_sublist.map Task.id).nodup hid)
    exact ((filter_sublist.trans (take_sublist _ _)).map Task.id).nodup hso
  · obtain ⟨hta, hk⟩ := mem_of_taskM h
    exact ⟨task, hta, rfl, hk⟩
  obtain ⟨task, hta⟩ := Option.isSome_iff_exists.mp (hkn key hk)
  obtain ⟨hr, hst⟩ := hm task (mem_of_taskM hta).1
  have ho : task.status ≠ .failure := fun heq => by rw [heq] at hst; cases hst
  exact ⟨task, task, hta, ho, Table.get?_of_mem hid hr, ho⟩

/-- With clean items the poller runs to its end, refunds no task twice, and every task that it has
refunded is stored as a failure. -/
theorem clean_suno_polls {passes : List (List SunoItem)} (hids : (s.rows.map Task.id).Nodup)
    (hstart : s.refunds = []) (hclean : CleanPolls settings limit passes s) :
    ∃ final, sunoPolls settings limit passes s = some final ∧ final.refunds.Nodup ∧
      ∀ id ∈ final.refunds, ∃ row, find final.rows id = some row ∧ row.status = .failure := by
  have hin : RefundsStored s := by
    refine ⟨hids, ?_, fun id hm => ?_⟩
    · rw [hstart]
      exact nodup_nil
    · rw [hstart] at hm
      cases hm
  suffices ∃ final, sunoPolls settings limit passes s = some final ∧ RefundsStored final by
    obtain ⟨final, hr, hfi⟩ := this
    exact ⟨final, hr, hfi.nodup, hfi.failed⟩
  clear hids hstart
  induction passes generalizing s with
  | nil => exact ⟨s, rfl, hin⟩
  | cons items passes ih =>
    obtain ⟨hit, hre⟩ := hclean
    have hlo := @loaded_of_rows limit s (items.map (·.item.taskID)) hin.ids
      (by simpa using hit.known)
    obtain ⟨next, hpa, hx⟩ := @foldlM_handle_keeps settings
      { s with taskM := (platformWork (sunoTasks limit s.rows)).taskM } _ items
      ⟨hin.ids, hin.nodup, hin.failed⟩ hlo hit.nodup hit.failure hit.stored
    obtain ⟨final, hr, hfi⟩ := ih (hre next hpa) hx
    exact ⟨final, by rw [sunoPolls, foldlM_cons, sunoPass, hpa]; exact hr, hfi⟩

end

def sunoTask : Task :=
  { geminiTask with platform := .suno, privateData := { upstreamTaskID := "song" } }

def failedSong (status : TaskStatus) (finishTime : Int) : SunoItem where
  item := { taskID := "song", status, failReason := "out of credits", finishTime }
  env := storesUp

theorem failed_song_refunded_once :
    ∃ final, sunoPolls dayTimeout 10 [[failedSong .failure 5]] ⟨[], [sunoTask], []⟩ =
        some final ∧ final.refunds.Nodup := by
  have hcl : CleanItems (platformWork (sunoTasks 10 [sunoTask])).taskM
      [failedSong .failure 5] := by
    constructor <;> decide
  obtain ⟨final, hr, hno, -⟩ := @clean_suno_polls dayTimeout 10 ⟨[], [sunoTask], []⟩
    [[failedSong .failure 5]] (by decide) rfl ⟨hcl, fun _ _ => trivial⟩
  exact ⟨final, hr, hno⟩

/-- A reason with the status `IN_PROGRESS` is refunded while the task is not stored as a failure;
when storing the failure fails, the next poll refunds it again; an item for an unknown task ends
the poller. -/
theorem suno_poller_trusts_items :
    (sunoPolls dayTimeout 10 [[failedSong .inProgress 5]] ⟨[], [sunoTask], []⟩).map
        (fun s => (s.refunds, s.rows.map Task.status)) = some ([1], [.inProgress]) ∧
      (sunoPolls dayTimeout 10 [[{ failedSong .failure 5 with updateFails := true }],
        [failedSong .failure 5]] ⟨[], [sunoTask], []⟩).map (·.refunds) = some [1, 1] ∧
      (sunoPolls dayTimeout 10 [[failedSong .failure 5]] ⟨[], [], []⟩).isNone := by
  decide

end NewApi.Tasks
