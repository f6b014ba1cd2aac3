import NewApi.Tasks.Machine

/-!
# A task is refunded at most once

`SafeStep` is the condition under which the conditional update protects the billing: then a task is
refunded at most once and its terminal status never moves (`refund_at_most_once`). Without it a
realtime fetch reopens a task that has timed out.
-/

namespace NewApi.Tasks

open Lib List Processes

/-! ## Terminal rows -/

def KeepsDone (rows rows' : List Task) : Prop :=
  ∀ id row, find rows id = some row → row.status.isDone = true →
    ∃ row', find rows' id = some row' ∧ row'.status = row.status

/-- `1` if the row of the task is terminal. -/
def closed (rows : List Task) (id : Int) : Nat :=
  match find rows id with
  | some row => if row.status.isDone then 1 else 0
  | none => 0

theorem keepsDone_refl : KeepsDone rows rows := fun _ row hr _ => ⟨row, hr, rfl⟩

variable {rows : List Task}

theorem keepsDone_trans (h : KeepsDone rows rows')
    (h' : KeepsDone rows' rws'') : KeepsDone rows rws'' := by
  intro id row hr hd
  obtain ⟨row', hr', hst⟩ := h id row hr hd
  obtain ⟨row'', hr'', hst'⟩ := h' id row' hr' (hst ▸ hd)
  exact ⟨row'', hr'', hst'.trans hst⟩

variable {dbe : Bool}

theorem keepsDone_conditionalUpdate (h : frm.isDone = false ∨ t.status = frm) :
    KeepsDone rows (conditionalUpdate dbe t frm rows).1 := by
  intro id row hr hd
  rw [conditionalUpdate_find, hr]
  refine ⟨_, rfl, ?_⟩
  dsimp only
  split
  · rename_i hhi
    rcases h with ho | hs
    · rw [hhi.2.2, ho] at hd
      cases hd
    · rw [hs, hhi.2.2]
  · rfl

def NoneSucceeded (rows : List Task) (ids : List Int) : Prop :=
  ∀ id ∈ ids, ∀ row, find rows id = some row → row.status ≠ .success

theorem keepsDone_bulkUpdate (dbe : Bool) (fr : Option String) (h : NoneSucceeded rows ids) :
    KeepsDone rows (bulkUpdate dbe ids fr rows) := by
  intro id row hr hd
  obtain ⟨row', hr', rfl | ⟨hm, rfl⟩⟩ := bulkUpdate_find ids fr hr
  · exact ⟨row', hr', rfl⟩
  refine ⟨_, hr', ?_⟩
  have hid : row.id = id := Table.get?_key hr
  have hne := h id (hid ▸ hm) row hr
  cases hst : row.status <;> simp_all [TaskStatus.isDone]

theorem closed_le_one (rows : List Task) (id : Int) : closed rows id ≤ 1 := by
  unfold closed
  split
  · split <;> omega
  · omega

theorem closed_of_find {id : Int} {row : Task} (h : find rows id = some row) :
    closed rows id = if row.status.isDone then 1 else 0 := by
  simp [closed, h]

theorem closed_mono (h : KeepsDone rows rows') (id : Int) : closed rows id ≤ closed rows' id := by
  cases hr : find rows id with
  | none => simp [closed, hr]
  | some row =>
    rw [closed_of_find hr]
    split
    · rename_i hd
      obtain ⟨row', hr', hst⟩ := h id row hr hd
      rw [closed_of_find hr', hst, hd]
      simp
    · omega

theorem closed_add_claim {t : Task} {frm : TaskStatus} {id : Int} {cla : Nat}
    (his : (rows.map Task.id).Nodup) (ho : frm.isDone = false)
    (hcl : cla = 0 ∨ cla = 1 ∧ t.id = id ∧ t.status.isDone = true ∧
      (conditionalUpdate dbe t frm rows).2 = true) :
    closed rows id + cla ≤ closed (conditionalUpdate dbe t frm rows).1 id := by
  rcases hcl with rfl | ⟨rfl, rfl, hd, hwo⟩
  · exact closed_mono (keepsDone_conditionalUpdate (.inl ho)) id
  obtain ⟨rfl, row, hr, hst⟩ := conditionalUpdate_won his hwo
  have hr' : find (conditionalUpdate false t frm rows).1 t.id = some t := by
    have hid : row.id = t.id := Table.get?_key hr
    rw [conditionalUpdate_find, hr]
    simp [hid, hst]
  rw [closed_of_find hr, closed_of_find hr', hst, ho, hd]
  simp

/-! ## Refunds due and made -/

def Effect.isRefundOf (id : Int) : Effect → Bool
  | .refund task => task.id = id
  | _ => false

def Sweeper.refundsDue (id : Int) (sweeper : Sweeper) : Nat :=
  if (sweeper.refund.map Task.id) = some id then 1 else 0

def Poller.refundsDue (id : Int) (p : Poller) : Nat :=
  p.effects.countP (Effect.isRefundOf id)

/-- The executions of `RefundTaskQuota` for the task. -/
def refundCount (id : Int) (s : State) : Nat :=
  s.refunds.countP fun call => call.task.id = id

def refundsClaimed (id : Int) (s : State) : Nat :=
  refundCount id s + (s.sweepers.map (Sweeper.refundsDue id)).sum +
    (s.pollers.map (Poller.refundsDue id)).sum

/-! ## Safe steps -/

/-- The condition under which a step cannot break the billing of a task. The Suno poller is left
out: it stores its copies without a condition. -/
def SafeStep (settings : Settings) (s : State) : Action → Prop
  | .pollPlatform i n _ => ∀ p platform tasks, s.pollers[i]? = some p →
      p.platforms[n]? = some (platform, tasks) →
      NoneSucceeded s.rows (platformWork tasks).nullTaskIds
  | .pollChannel i n .missing _ => ∀ p channelId taskIds, s.pollers[i]? = some p →
      p.channels[n]? = some (channelId, taskIds) →
      NoneSucceeded s.rows (failedIDs p.taskM taskIds)
  | .pollVideo i _ _ _ => ∀ p upstreamID rest task, s.pollers[i]? = some p →
      p.queue = upstreamID :: rest → Assoc.get? p.taskM upstreamID = some task →
      task.status.isDone = false
  | .pollSuno _ => False
  | .fetchStore i channelType report _ => ∀ task updated, s.fetches[i]? = some task →
      tryRealtimeFetch settings channelType report task = some updated →
      task.status.isDone = false ∨ updated.status = task.status
  | _ => True

/-- What safe steps preserve for a task: at most one refund is claimed, and none while the row is
not terminal. Sweepers only hold unfinished copies, and no Suno copy waits to be stored. -/
structure RefundInv (id : Int) (s : State) : Prop where
  ids : (s.rows.map Task.id).Nodup
  unfinished : ∀ sweeper ∈ s.sweepers, ∀ task ∈ sweeper.todo, task.status.isDone = false
  noSave : ∀ p ∈ s.pollers, ∀ task, Effect.save task ∉ p.effects
  claimed : refundsClaimed id s ≤ closed s.rows id

variable {i : Nat} {now : Int}

section

variable {settings : Settings} {id : Int} {s s' : State}

section

variable (hi : RefundInv id s)
include hi

theorem RefundInv.replaceSweeper (ho : s.sweepers[i]? = some old)
    (hid : rows.map Task.id = s.rows.map Task.id) (hto : ∀ task ∈ new.todo, task ∈ old.todo)
    (hcl : closed s.rows id + new.refundsDue id +
        (refunds.countP fun call => call.task.id = id) ≤
      closed rows id + old.refundsDue id + refundCount id s) :
    RefundInv id { s with rows, refunds, sweepers := s.sweepers.set i new } := by
  have hsu := sum_map_set (Sweeper.refundsDue id) ho new
  constructor
  · rw [hid]
    exact hi.ids
  · apply forall_mem_set hi.unfinished
    intro task hta
    exact hi.unfinished old (mem_of_getElem? ho) task (hto task hta)
  · exact hi.noSave
  · have hca := hi.claimed
    simp only [refundsClaimed, refundCount] at hca hcl hsu ⊢
    omega

theorem RefundInv.replacePoller (ho : s.pollers[i]? = some old)
    (hid : rows.map Task.id = s.rows.map Task.id) (hsa : ∀ task, Effect.save task ∉ new.effects)
    (hcl : closed s.rows id + new.refundsDue id +
        (refunds.countP fun call => call.task.id = id) ≤
      closed rows id + old.refundsDue id + refundCount id s) :
    RefundInv id { s with rows, refunds, settlements, pollers := s.pollers.set i new } := by
  have hsu := sum_map_set (Poller.refundsDue id) ho new
  constructor
  · rw [hid]
    exact hi.ids
  · exact hi.unfinished
  · exact forall_mem_set hi.noSave hsa
  · have hca := hi.claimed
    simp only [refundsClaimed, refundCount] at hca hcl hsu ⊢
    omega

theorem RefundInv.keepPoller (ho : s.pollers[i]? = some old)
    (hid : rows.map Task.id = s.rows.map Task.id) (hke : KeepsDone s.rows rows)
    (hn : new.effects = []) : RefundInv id { s with rows, pollers := s.pollers.set i new } := by
  refine hi.replacePoller ho hid ?_ ?_
  · simp [hn]
  · have hmo := closed_mono hke id
    simp only [Poller.refundsDue, hn, countP_nil, refundCount]
    omega

theorem RefundInv.sweepLoad (hs : sweepLoad settings now s = some s') :
    RefundInv id s' ∧ KeepsDone s.rows s'.rows := by
  obtain ⟨cut, rfl⟩ := sweepLoad_eq_some hs
  refine ⟨⟨hi.ids, ?_, hi.noSave, ?_⟩, keepsDone_refl⟩
  · apply forall_mem_append hi.unfinished
    intro task hta
    exact (mem_getTimedOutUnfinishedTasks hta).2
  · simpa [refundsClaimed, refundCount, Sweeper.refundsDue] using hi.claimed

theorem RefundInv.sweepTask (hs : sweepTask settings i now dbe s = some s') :
    RefundInv id s' ∧ KeepsDone s.rows s'.rows := by
  obtain ⟨task, rest, hg, rfl⟩ := sweepTask_eq_some hs
  have ho : task.status.isDone = false := hi.unfinished _ (mem_of_getElem? hg) task (by simp)
  refine ⟨hi.replaceSweeper hg (map_id_conditionalUpdate ..) ?_ ?_,
    keepsDone_conditionalUpdate (.inl ho)⟩
  · intro t ht
    exact mem_cons_of_mem task ht
  have hn : Sweeper.refundsDue id { todo := task :: rest } = 0 := rfl
  rw [hn, refundCount]
  refine Nat.add_le_add_right (closed_add_claim hi.ids ho ?_) _
  unfold Sweeper.refundsDue
  split
  · rename_i hre
    by_cases hid : task.id = id
    · exact .inr ⟨by simp [timeOut, hid], hid, rfl, hre.1⟩
    · exact .inl (by simp [timeOut, hid])
  · exact .inl rfl

theorem RefundInv.sweepRefund (hs : sweepRefund i env s = some s') :
    RefundInv id s' ∧ KeepsDone s.rows s'.rows := by
  obtain ⟨todo, task, hg, rfl⟩ := sweepRefund_eq_some hs
  refine ⟨hi.replaceSweeper hg rfl ?_ ?_, keepsDone_refl⟩
  · exact fun _ ht => ht
  · simp only [Sweeper.refundsDue, refundCount, countP_cons, Option.map_none,
      Option.map_some, Option.some.injEq, decide_eq_true_eq, reduceCtorEq, if_false]
    omega

theorem RefundInv.pollLoad
    (hs : pollLoad lim s = some s') : RefundInv id s' ∧ KeepsDone s.rows s'.rows := by
  obtain rfl := Option.some.inj hs
  refine ⟨⟨hi.ids, hi.unfinished, ?_, ?_⟩, keepsDone_refl⟩
  · apply forall_mem_append hi.noSave
    simp
  · simpa [refundsClaimed, refundCount, Poller.refundsDue] using hi.claimed

theorem RefundInv.pollPlatform (hsa : SafeStep settings s (.pollPlatform i n dbe))
    (hs : pollPlatform i n dbe s = some s') : RefundInv id s' ∧ KeepsDone s.rows s'.rows := by
  obtain ⟨p, plat, tks, p', hp, hpl, -, rfl, hef⟩ := pollPlatform_eq_some hs
  have hn := hsa p plat tks hp hpl
  have hke : KeepsDone s.rows
      (if (platformWork tks).nullTaskIds = [] then s.rows
        else bulkUpdate dbe (platformWork tks).nullTaskIds none s.rows) := by
    split
    · exact keepsDone_refl
    · exact keepsDone_bulkUpdate dbe none hn
  refine ⟨hi.keepPoller hp ?_ hke hef, hke⟩
  split
  · rfl
  · exact map_id_bulkUpdate ..

theorem RefundInv.pollChannel (hsa : SafeStep settings s (.pollChannel i n rpl dbe))
    (hs : pollChannel i n rpl dbe s = some s') : RefundInv id s' ∧ KeepsDone s.rows s'.rows := by
  obtain ⟨p, cid, ti, p', hp, hch, -, rfl, hef⟩ := pollChannel_eq_some hs
  cases rpl with
  | missing =>
    have hke := keepsDone_bulkUpdate dbe
      (some (missingChannelReason p.platform cid)) (hsa p cid ti hp hch)
    exact ⟨hi.keepPoller hp (map_id_bulkUpdate ..) hke hef, hke⟩
  | noAdaptor | found =>
    exact ⟨hi.keepPoller hp rfl (keepsDone_refl) hef, keepsDone_refl⟩

end

theorem countP_effects (upd : VideoUpdate) :
    (upd.effects up won).countP (Effect.isRefundOf id) =
      if ((won || !upd.guarded) && upd.shouldRefund) = true ∧ upd.task.id = id then 1
      else 0 := by
  unfold VideoUpdate.effects
  rw [countP_append]
  have hs : (if (won || !upd.guarded) && upd.shouldSettle then
      [Effect.settle up upd.task upd.taskResult] else []).countP (Effect.isRefundOf id) = 0 := by
    split <;> rfl
  rw [hs]
  by_cases hbi : ((won || !upd.guarded) && upd.shouldRefund) = true
  · simp [hbi, Effect.isRefundOf, countP_cons]
  · simp [hbi]

section

variable (hi : RefundInv id s)
include hi

theorem RefundInv.pollVideo {response : Option VideoResponse}
    (hsa : SafeStep settings s (.pollVideo i response now dbe))
    (hst : pollVideo settings i response now dbe s = some s') :
    RefundInv id s' ∧ KeepsDone s.rows s'.rows := by
  obtain ⟨p, hp, hn, ⟨p', rfl, hef⟩ |
    ⟨up, rest, task, update, p', hqu, hta, hso, rfl, hef⟩⟩ := pollVideo_eq_some hst
  · exact ⟨hi.keepPoller hp rfl (keepsDone_refl) hef, keepsDone_refl⟩
  have ho := hsa p up rest task hp hqu hta
  have hke : KeepsDone s.rows (if update.write then
      (conditionalUpdate dbe update.task task.status s.rows).1 else s.rows) := by
    split
    · exact keepsDone_conditionalUpdate (.inl ho)
    · exact keepsDone_refl
  refine ⟨hi.replacePoller hp ?_ ?_ ?_, hke⟩
  · split
    · exact map_id_conditionalUpdate ..
    · rfl
  · rw [hef]
    exact fun _ => save_notMem_effects update _
  have hol : p.refundsDue id = 0 := by simp [Poller.refundsDue, hn]
  rw [hol, refundCount, Poller.refundsDue, hef, countP_effects]
  refine Nat.add_le_add_right ?_ _
  split
  · rename_i hcl
    simp only [Bool.and_eq_true, Bool.or_eq_true, Bool.not_eq_true'] at hcl
    obtain ⟨⟨hbi, hre⟩, hid⟩ := hcl
    -- a failed task is done and its copy was not, so the update was guarded and won
    have hfa := (hso.shouldRefund.mp hre).1
    have hd : update.task.status.isDone = true := by rw [hfa]; rfl
    have hgu : update.guarded = true := by
      refine hso.guarded.mpr ⟨hd, ?_⟩
      intro hs
      rw [← hs, hd] at ho
      cases ho
    have hwo := hbi.resolve_right (by simp [hgu])
    rw [if_pos (hso.write hgu)]
    exact closed_add_claim hi.ids ho (.inr ⟨rfl, hid, hd, hwo.2⟩)
  · exact closed_mono hke id

theorem RefundInv.pollEffect (hs : pollEffect settings i env adj dbe s = some s') :
    RefundInv id s' ∧ KeepsDone s.rows s'.rows := by
  obtain ⟨p, effect, p', hp, rfl, hef⟩ := pollEffect_eq_some hs
  have hsa := hi.noSave p (mem_of_getElem? hp)
  rw [hef] at hsa
  have hsa' : ∀ task, Effect.save task ∉ p'.effects :=
    fun task hm => hsa task (mem_cons_of_mem effect hm)
  have hdu : p.refundsDue id = p'.refundsDue id + if effect.isRefundOf id then 1 else 0 := by
    rw [Poller.refundsDue, Poller.refundsDue, hef, countP_cons]
  cases effect with
  | refund task =>
    refine ⟨hi.replacePoller hp rfl hsa' ?_, keepsDone_refl⟩
    simp only [Effect.isRefundOf, decide_eq_true_eq] at hdu
    simp only [refundCount, countP_cons, decide_eq_true_eq]
    omega
  | settle up task tr =>
    refine ⟨hi.replacePoller hp rfl hsa' ?_, keepsDone_refl⟩
    simp only [Effect.isRefundOf] at hdu
    simp only [refundCount]
    omega
  | save task => exact absurd (mem_cons_self ..) (hsa task)

theorem RefundInv.fetchLoad
    (hs : fetchLoad fet s = some s') : RefundInv id s' ∧ KeepsDone s.rows s'.rows := by
  obtain ⟨task, -, rfl⟩ := fetchLoad_eq_some hs
  exact ⟨⟨hi.ids, hi.unfinished, hi.noSave, hi.claimed⟩, keepsDone_refl⟩

theorem RefundInv.fetchStore (hsa : SafeStep settings s (.fetchStore i cty rep dbe))
    (hs : fetchStore settings i cty rep dbe s = some s') :
    RefundInv id s' ∧ KeepsDone s.rows s'.rows := by
  obtain ⟨task, hta, rfl⟩ := fetchStore_eq_some hs
  cases hfe : tryRealtimeFetch settings cty rep task with
  | none => exact ⟨⟨hi.ids, hi.unfinished, hi.noSave, hi.claimed⟩, keepsDone_refl⟩
  | some ud =>
    have hke : KeepsDone s.rows (conditionalUpdate dbe ud task.status s.rows).1 :=
      keepsDone_conditionalUpdate (hsa task ud hta hfe)
    refine ⟨⟨?_, hi.unfinished, hi.noSave, ?_⟩, hke⟩
    · rw [map_id_conditionalUpdate]
      exact hi.ids
    · exact hi.claimed.trans (closed_mono hke id)

theorem RefundInv.step (hsa : SafeStep settings s act)
    (hs : (machine settings).step s act = some s') :
    RefundInv id s' ∧ KeepsDone s.rows s'.rows := by
  cases act with
  | sweepLoad now => exact hi.sweepLoad hs
  | sweepTask i now dbe => exact hi.sweepTask hs
  | sweepRefund i env => exact hi.sweepRefund hs
  | pollLoad lim => exact hi.pollLoad hs
  | pollPlatform i n dbe => exact hi.pollPlatform hsa hs
  | pollChannel i n rpl dbe => exact hi.pollChannel hsa hs
  | pollVideo i response now dbe => exact hi.pollVideo hsa hs
  | pollSuno i => exact hsa.elim
  | pollEffect i env adj dbe => exact hi.pollEffect hs
  | fetchLoad fet => exact hi.fetchLoad hs
  | fetchStore i cty rep dbe => exact hi.fetchStore hsa hs

end

end

/-! ## Runs -/

theorem RefundInv.of_fresh (h : s.Fresh) (id : Int) : RefundInv id s := by
  refine ⟨h.ids, ?_, ?_, ?_⟩
  · simp [h.sweepers]
  · simp [h.pollers]
  · simp [refundsClaimed, refundCount, h.sweepers, h.pollers, h.refunds]

/-- In every run whose steps are safe, the refund of a task is executed at most once, and a row
that is terminal at some point keeps its status to the end. -/
theorem refund_at_most_once {settings : Settings} {initial middle final : State}
    {first second : List Action} (hfresh : initial.Fresh)
    (hsafe : (machine settings).Guarded (SafeStep settings) initial (first ++ second))
    (hfirst : (machine settings).run initial first = some middle)
    (hsecond : (machine settings).run middle second = some final) (id : Int) :
    refundCount id final ≤ 1 ∧
      ∀ row, find middle.rows id = some row → row.status.isDone = true →
        ∃ row', find final.rows id = some row' ∧ row'.status = row.status := by
  have hmi : RefundInv id middle :=
    (machine settings).guarded_run_preserves (RefundInv id)
      (fun _ _ _ hi hok hs => (hi.step hok hs).1) (RefundInv.of_fresh hfresh id)
      ((machine settings).guarded_append_left hsafe) hfirst
  have hfi : RefundInv id final ∧ KeepsDone middle.rows final.rows := by
    refine (machine settings).guarded_run_preserves
      (fun s => RefundInv id s ∧ KeepsDone middle.rows s.rows) ?_
      ⟨hmi, keepsDone_refl⟩
      ((machine settings).guarded_append_right hsafe hfirst) hsecond
    intro s action s' hi hok hs
    obtain ⟨hi', hke⟩ := hi.1.step hok hs
    exact ⟨hi', keepsDone_trans hi.2 hke⟩
  constructor
  · have hcl := hfi.1.claimed
    have hco := closed_le_one final.rows id
    unfold refundsClaimed at hcl
    omega
  · exact hfi.2 id

/-! ## A task that times out on a Gemini channel -/

def reopened : List Action :=
  [.fetchLoad 1,
    .fetchStore 0 24 (some
      { info := { status := .inProgress, progress := "50%" }, body := some [123, 125] }) false]

def timedOutAgain : List Action :=
  [.sweepLoad 1800200000, .sweepTask 1 1800200000 false, .sweepRefund 1 storesUp]

/-- A run with one safe sweep. -/
theorem timed_out_refunded_once :
    ∃ middle final, (machine dayTimeout).run { rows := [geminiTask] } timedOut = some middle ∧
      (machine dayTimeout).run middle [.sweepLoad 1800200000] = some final ∧
      refundCount 1 final ≤ 1 ∧
      ∃ row', find final.rows 1 = some row' ∧ row'.status = .failure := by
  have hfr : State.Fresh { rows := [geminiTask] } := ⟨by decide, rfl, rfl, rfl, rfl, rfl⟩
  refine ⟨_, _, rfl, rfl, ?_⟩
  obtain ⟨hco, hke⟩ := @refund_at_most_once dayTimeout { rows := [geminiTask] } _ _ timedOut
    [.sweepLoad 1800200000] hfr
    ⟨trivial, fun _ _ => ⟨trivial, fun _ _ => ⟨trivial, fun _ _ => ⟨trivial, fun _ _ =>
      trivial⟩⟩⟩⟩ rfl rfl 1
  exact ⟨hco, hke _ rfl rfl⟩

/-- The realtime fetch moves the task out of `FAILURE`, and the next sweep refunds it a second
time. -/
theorem reopened_task_refunded_twice :
    ((machine dayTimeout).run { rows := [geminiTask] } timedOut).map
        (fun s => (find s.rows 1).map Task.status) = some (some .failure) ∧
      ((machine dayTimeout).run { rows := [geminiTask] } (timedOut ++ reopened)).map
        (fun s => (find s.rows 1).map Task.status) = some (some .inProgress) ∧
      ((machine dayTimeout).run { rows := [geminiTask] }
        (timedOut ++ reopened ++ timedOutAgain)).map (refundCount 1) = some 2 := by
  decide

end NewApi.Tasks
