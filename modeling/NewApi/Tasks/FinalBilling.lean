import NewApi.Tasks.Machine

/-!
# The final billing of a task

The sweeper and the video poller pair every terminal status they store with a refund or a
settlement, the Suno poller only the failures, the realtime fetch and the bulk updates nothing.
`BilledStep` excludes the unpaired writes.
-/

namespace NewApi.Tasks

open Lib List Processes

/-! ## Billing made and due -/

/-- `RefundTaskQuota` was executed for the task and returned the quota. -/
def RefundMade (id : Int) (s : State) : Prop :=
  ∃ call ∈ s.refunds, call.task.id = id ∧ fundingDebit call.calls = -call.task.quota

/-- A writer that stored the failure of the task is about to call `RefundTaskQuota`. -/
def RefundDue (id : Int) (s : State) : Prop :=
  (∃ sweeper ∈ s.sweepers, ∃ task, sweeper.refund = some task ∧ task.id = id) ∨
    ∃ p ∈ s.pollers, ∃ task, Effect.refund task ∈ p.effects ∧ task.id = id

/-- `settleTaskBillingOnComplete` was executed for the task. -/
def SettlementMade (id : Int) (s : State) : Prop :=
  ∃ call ∈ s.settlements, call.task.id = id

/-- A writer that stored the success of the task is about to call
`settleTaskBillingOnComplete`. -/
def SettlementDue (id : Int) (s : State) : Prop :=
  ∃ p ∈ s.pollers, ∃ upstreamID task taskResult,
    Effect.settle upstreamID task taskResult ∈ p.effects ∧ task.id = id

structure Billed (id : Int) (s : State) (task : Task) : Prop where
  failure : task.status = .failure → task.isLegacy = false → task.quota ≠ 0 →
    RefundMade id s ∨ RefundDue id s
  success : task.status = .success → SettlementMade id s ∨ SettlementDue id s

structure BillingKept (id : Int) (s s' : State) : Prop where
  refund : RefundMade id s ∨ RefundDue id s → RefundMade id s' ∨ RefundDue id s'
  settlement : SettlementMade id s ∨ SettlementDue id s → SettlementMade id s' ∨ SettlementDue id s'

variable {task : Task}

theorem Billed.mono {id : Int} {s s' : State} (hk : BillingKept id s s') (h : Billed id s task) :
    Billed id s' task :=
  ⟨fun hst hle hq => hk.refund (h.failure hst hle hq), fun hst => hk.settlement (h.success hst)⟩

theorem Billed.of_not_done {id : Int} {s : State} (h : task.status.isDone = false) :
    Billed id s task := by
  constructor
  · intro hst
    rw [hst] at h
    cases h
  · intro hst
    rw [hst] at h
    cases h

def Effect.Made (refunds settlements : List BillingCall) : Effect → Prop
  | .refund task => ∃ call ∈ refunds, call.task = task ∧ fundingDebit call.calls = -task.quota
  | .settle _ task _ => ∃ call ∈ settlements, call.task = task
  | .save _ => True

variable {old new : Poller} {rows : List Task} {refunds : List BillingCall}

section

variable {id : Int} {s : State} {i : Nat}

theorem BillingKept.replacePoller (ho : s.pollers[i]? = some old)
    (hre : s.refunds ⊆ refunds) (hse : s.settlements ⊆ settlements)
    (hef : ∀ ef ∈ old.effects, ef ∈ new.effects ∨ ef.Made refunds settlements) :
    BillingKept id s { s with rows, refunds, settlements, pollers := s.pollers.set i new } := by
  have hn := mem_set_self ho new
  constructor
  · rintro (⟨call, hc, hid⟩ | ⟨swp, hsw, hdu⟩ | ⟨p, hp, task, hm, hid⟩)
    · exact .inl ⟨call, hre hc, hid⟩
    · exact .inr (.inl ⟨swp, hsw, hdu⟩)
    rcases eq_or_mem_set ho hp with rfl | hp'
    · rcases hef _ hm with hdu | ⟨call, hc, rfl, hde⟩
      · exact .inr (.inr ⟨new, hn, task, hdu, hid⟩)
      · exact .inl ⟨call, hc, hid, hde⟩
    · exact .inr (.inr ⟨p, hp', task, hm, hid⟩)
  rintro (⟨call, hc, hid⟩ | ⟨p, hp, up, task, taskResult, hm, hid⟩)
  · exact .inl ⟨call, hse hc, hid⟩
  rcases eq_or_mem_set ho hp with rfl | hp'
  · rcases hef _ hm with hdu | ⟨call, hc, rfl⟩
    · exact .inr ⟨new, hn, up, task, taskResult, hdu, hid⟩
    · exact .inl ⟨call, hc, hid⟩
  · exact .inr ⟨p, hp', up, task, taskResult, hm, hid⟩

theorem BillingKept.idlePoller (ho : s.pollers[i]? = some old) (hid : old.effects = []) :
    BillingKept id s { s with rows, pollers := s.pollers.set i new } :=
  BillingKept.replacePoller ho (List.Subset.refl _) (List.Subset.refl _) (by simp [hid])

theorem BillingKept.replaceSweeper {old new : Sweeper} (ho : s.sweepers[i]? = some old)
    (hre : s.refunds ⊆ refunds)
    (hma : ∀ task, old.refund = some task → (Effect.refund task).Made refunds s.settlements) :
    BillingKept id s { s with rows, refunds, sweepers := s.sweepers.set i new } := by
  constructor
  · rintro (⟨call, hc, hid⟩ | ⟨swp, hsw, task, hdu, hid⟩ | hpo)
    · exact .inl ⟨call, hre hc, hid⟩
    · rcases eq_or_mem_set ho hsw with rfl | hsw'
      · obtain ⟨call, hc, rfl, hde⟩ := hma task hdu
        exact .inl ⟨call, hc, hid, hde⟩
      · exact .inr (.inl ⟨swp, hsw', task, hdu, hid⟩)
    · exact .inr (.inr hpo)
  · exact fun h => h

theorem BillingKept.start (hsw : s.sweepers ⊆ sweepers) (hpo : s.pollers ⊆ pollers) :
    BillingKept id s { s with rows, fetches, sweepers, pollers } := by
  constructor
  · rintro (hma | ⟨swp, hsp, hdu⟩ | ⟨p, hp, hdu⟩)
    · exact .inl hma
    · exact .inr (.inl ⟨swp, hsw hsp, hdu⟩)
    · exact .inr (.inr ⟨p, hpo hp, hdu⟩)
  · rintro (hma | ⟨p, hp, hdu⟩)
    · exact .inl hma
    · exact .inr ⟨p, hpo hp, hdu⟩

end

/-! ## Billed steps -/

/-- No bulk update of these rows can leave a refundable task without its refund: they have
failed already, or nothing is to be refunded. -/
def NoneRefundable (rows : List Task) (ids : List Int) : Prop :=
  ∀ id ∈ ids, ∀ row, find rows id = some row →
    row.status = .failure ∨ row.isLegacy = true ∨ row.quota = 0

/-- The condition under which a step leaves no terminal status without its billing: bulk updates
fail no refundable task, the Suno poller stores no success, a realtime fetch stores no new
terminal status, and the stores accept the refunds. -/
def BilledStep (settings : Settings) (s : State) : Action → Prop
  | .sweepRefund _ env => env.fundingFails = false
  | .pollPlatform i n _ => ∀ p platform tasks, s.pollers[i]? = some p →
      p.platforms[n]? = some (platform, tasks) →
      NoneRefundable s.rows (platformWork tasks).nullTaskIds
  | .pollChannel i n .missing _ => ∀ p channelId taskIds, s.pollers[i]? = some p →
      p.channels[n]? = some (channelId, taskIds) →
      NoneRefundable s.rows (failedIDs p.taskM taskIds)
  | .pollSuno i => ∀ p item rest task, s.pollers[i]? = some p → p.items = item :: rest →
      Assoc.get? p.taskM item.taskID = some task → (applySunoItem task item).status ≠ .success
  | .pollEffect i env _ _ => ∀ p task rest, s.pollers[i]? = some p →
      p.effects = .refund task :: rest → env.fundingFails = false
  | .fetchStore i channelType report _ => ∀ task updated, s.fetches[i]? = some task →
      tryRealtimeFetch settings channelType report task = some updated →
      updated.status.isDone = false ∨ updated.status = task.status
  | _ => True

/-- What billed steps preserve for a task: its row, the copies of realtime fetches and the copies
that the Suno poller is about to store have their billing. -/
structure BillingInv (id : Int) (s : State) : Prop where
  row : ∀ row, find s.rows id = some row → Billed id s row
  fetches : ∀ task ∈ s.fetches, task.id = id → Billed id s task
  saves : ∀ p ∈ s.pollers, ∀ task, Effect.save task ∈ p.effects → task.id = id → Billed id s task

variable {dbe : Bool} {now : Int}

section

variable {settings : Settings} {id : Int} {s s' : State}

section

variable (hi : BillingInv id s)
include hi

theorem BillingInv.of_kept (hk : BillingKept id s s')
    (hr : ∀ row, find s'.rows id = some row → find s.rows id = some row ∨ Billed id s' row)
    (hfe : ∀ task ∈ s'.fetches, task.id = id → task ∈ s.fetches ∨ Billed id s' task)
    (hsa : ∀ p ∈ s'.pollers, ∀ task, Effect.save task ∈ p.effects → task.id = id →
      (∃ q ∈ s.pollers, Effect.save task ∈ q.effects) ∨ Billed id s' task) : BillingInv id s' := by
  constructor
  · intro row h
    rcases hr row h with ho | hbi
    · exact (hi.row row ho).mono hk
    · exact hbi
  · intro task hm hid
    rcases hfe task hm hid with ho | hbi
    · exact (hi.fetches task ho hid).mono hk
    · exact hbi
  intro p hp task hm hid
  rcases hsa p hp task hm hid with ⟨q, hq, ho⟩ | hbi
  · exact (hi.saves q hq task ho hid).mono hk
  · exact hbi

theorem BillingInv.replacePoller (ho : s.pollers[i]? = some old)
    (hk : BillingKept id s { s with rows, refunds, settlements, pollers := s.pollers.set i new })
    (hr : ∀ row, find rows id = some row → find s.rows id = some row ∨
      Billed id { s with rows, refunds, settlements, pollers := s.pollers.set i new } row)
    (hsv : ∀ task, Effect.save task ∈ new.effects → task.id = id →
      Effect.save task ∈ old.effects ∨
      Billed id { s with rows, refunds, settlements, pollers := s.pollers.set i new } task) :
    BillingInv id { s with rows, refunds, settlements, pollers := s.pollers.set i new } := by
  refine hi.of_kept hk hr (fun task hm _ => .inl hm) ?_
  intro p hp task hm hid
  rcases mem_or_eq_of_mem_set hp with hp' | rfl
  · exact .inl ⟨p, hp', hm⟩
  · rcases hsv task hm hid with hsa | hbi
    · exact .inl ⟨old, mem_of_getElem? ho, hsa⟩
    · exact .inr hbi

theorem billed_bulkUpdate (hn : NoneRefundable s.rows ids) (hk : BillingKept id s s')
    (hr : find (bulkUpdate dbe ids fr s.rows) id = some row) :
    find s.rows id = some row ∨ Billed id s' row := by
  cases ho : find s.rows id with
  | none =>
    cases dbe with
    | true => exact .inl (ho ▸ hr)
    | false => simp [bulkUpdate, taskBulkUpdateByID_find, ho] at hr
  | some old =>
    obtain ⟨row', hr', hca⟩ := bulkUpdate_find ids fr ho
    obtain rfl : row' = row := Option.some.inj (hr'.symm.trans hr)
    rcases hca with rfl | ⟨hm, rfl⟩
    · exact .inl rfl
    refine .inr ⟨fun _ hle hq => ?_, fun hst => by cases hst⟩
    have hid : old.id = id := Table.get?_key ho
    rcases hn id (hid ▸ hm) old ho with hfa | hle' | hq'
    · exact hk.refund ((hi.row old ho).failure hfa hle hq)
    · exact absurd (hle'.symm.trans hle) (by decide)
    · exact absurd hq' hq

theorem BillingInv.sweepLoad (hs : sweepLoad settings now s = some s') : BillingInv id s' := by
  obtain ⟨cut, rfl⟩ := sweepLoad_eq_some hs
  have hk : BillingKept id s { s with sweepers := s.sweepers ++
      [{ todo := getTimedOutUnfinishedTasks cut 100 s.rows }] } :=
    BillingKept.start (subset_append_left ..) (List.Subset.refl _)
  exact hi.of_kept hk (fun _ h => .inl h) (fun _ h _ => .inl h)
    (fun p hp task h _ => .inl ⟨p, hp, h⟩)

theorem BillingInv.sweepTask (hs : sweepTask settings i now dbe s = some s') :
    BillingInv id s' := by
  obtain ⟨task, rest, hg, rfl⟩ := sweepTask_eq_some hs
  refine hi.of_kept (BillingKept.replaceSweeper hg (List.Subset.refl _) ?_) ?_
    (fun _ h _ => .inl h) (fun p hp _ h _ => .inl ⟨p, hp, h⟩)
  · intro task hdu
    cases hdu
  intro row hr
  rcases conditionalUpdate_row hr with ho | ⟨rfl, hid, hwo⟩
  · exact .inl ho
  refine .inr ⟨fun _ hle hq => .inr (.inl ?_), fun hst => by cases hst⟩
  have hle' : ¬ task.isLegacy = true := by
    rw [show task.isLegacy = false from hle]
    decide
  refine ⟨_, mem_set_self hg _, timeOut settings now task, ?_, hid⟩
  exact if_pos ⟨hwo, hle', hq⟩

theorem BillingInv.sweepRefund (hok : env.fundingFails = false)
    (hs : sweepRefund i env s = some s') : BillingInv id s' := by
  obtain ⟨todo, task, hg, rfl⟩ := sweepRefund_eq_some hs
  refine hi.of_kept (BillingKept.replaceSweeper hg (subset_cons_self ..) ?_)
    (fun _ h => .inl h) (fun _ h _ => .inl h) (fun p hp _ h _ => .inl ⟨p, hp, h⟩)
  intro due hdu
  obtain rfl := Option.some.inj hdu
  refine ⟨_, mem_cons_self .., rfl, ?_⟩
  simp [refundTaskQuota_debit, hok]

theorem BillingInv.pollLoad (hs : pollLoad lim s = some s') : BillingInv id s' := by
  obtain rfl := Option.some.inj hs
  refine hi.of_kept (BillingKept.start (List.Subset.refl _) (subset_append_left ..))
    (fun _ h => .inl h) (fun _ h _ => .inl h) ?_
  intro p hp task hm _
  rcases mem_append.mp hp with hp' | hl
  · exact .inl ⟨p, hp', hm⟩
  · obtain rfl := mem_singleton.mp hl
    cases hm

theorem BillingInv.pollPlatform (hok : BilledStep settings s (.pollPlatform i n dbe))
    (hs : pollPlatform i n dbe s = some s') : BillingInv id s' := by
  obtain ⟨p, plat, tks, p', hp, hpl, hn, rfl, hef⟩ := pollPlatform_eq_some hs
  refine hi.replacePoller hp (BillingKept.idlePoller hp hn) ?_ (by simp [hef])
  intro row hr
  split at hr
  · exact .inl hr
  · exact billed_bulkUpdate hi (hok p plat tks hp hpl) (BillingKept.idlePoller hp hn) hr

theorem BillingInv.pollChannel (hok : BilledStep settings s (.pollChannel i n rpl dbe))
    (hs : pollChannel i n rpl dbe s = some s') : BillingInv id s' := by
  obtain ⟨p, cid, ti, p', hp, hch, hn, rfl, hef⟩ := pollChannel_eq_some hs
  refine hi.replacePoller hp (BillingKept.idlePoller hp hn) ?_ (by simp [hef])
  intro row hr
  cases rpl with
  | missing =>
    exact billed_bulkUpdate hi (hok p cid ti hp hch) (BillingKept.idlePoller hp hn) hr
  | noAdaptor | found => exact .inl hr

end

theorem VideoUpdate.Sound.billed {upd : VideoUpdate} (hso : upd.Sound task) :
    (upd.task.status = .failure → upd.task.quota ≠ 0 →
      Effect.refund upd.task ∈ upd.effects up true) ∧
    (upd.task.status = .success →
      Effect.settle up upd.task upd.taskResult ∈ upd.effects up true) := by
  constructor
  · intro hfa hq
    have hre := hso.shouldRefund.mpr ⟨hfa, hso.quota ▸ hq⟩
    simp [VideoUpdate.effects, hre]
  · intro hsu
    have hs := hso.shouldSettle.mpr hsu
    simp [VideoUpdate.effects, hs]

section

variable (hi : BillingInv id s)
include hi

theorem BillingInv.pollVideo {i : Nat} {response : Option VideoResponse}
    (hs : pollVideo settings i response now dbe s = some s') : BillingInv id s' := by
  obtain ⟨p, hp, hn, ⟨p', rfl, hef⟩ |
    ⟨up, rest, task, update, p', hqu, hta, hso, rfl, hef⟩⟩ := pollVideo_eq_some hs
  · exact hi.replacePoller hp (BillingKept.idlePoller hp hn) (fun _ h => .inl h) (by simp [hef])
  refine hi.replacePoller hp (BillingKept.idlePoller hp hn) ?_ ?_
  · intro row hr
    split at hr
    · rename_i hwr
      rcases conditionalUpdate_row hr with ho | ⟨rfl, hid, hwo⟩
      · exact .inl ho
      rw [hwr, hwo, Bool.and_self] at hef
      obtain ⟨hfa, hsu⟩ := hso.billed
      rw [← hef] at hfa hsu
      have hne := mem_set_self hp p'
      exact .inr ⟨fun hst _ hq =>
        .inr (.inr ⟨p', hne, _, hfa hst hq, hid⟩),
        fun hst => .inr ⟨p', hne, _, _, _, hsu hst, hid⟩⟩
    · exact .inl hr
  · intro t hm
    rw [hef] at hm
    exact absurd hm (save_notMem_effects update _)

theorem BillingInv.pollSuno (hok : BilledStep settings s (.pollSuno i))
    (hs : pollSuno settings i s = some s') : BillingInv id s' := by
  obtain ⟨p, p', hp, hn, rfl, hni | ⟨item, rest, task, hxs, hta, hef⟩⟩ := pollSuno_eq_some hs
  · exact hi.replacePoller hp (BillingKept.idlePoller hp hn) (fun _ h => .inl h) (by simp [hni])
  refine hi.replacePoller hp (BillingKept.idlePoller hp hn) (fun _ h => .inl h) ?_
  intro t hm hid
  have ht : t = applySunoItem task item := by
    rw [hef] at hm
    split at hm <;> simpa using hm
  subst ht
  refine .inr ⟨fun hst _ _ => .inr (.inr ?_), fun hst => ?_⟩
  · refine ⟨p', mem_set_self hp p', applySunoItem task item, ?_, hid⟩
    have hre : sunoRefunds task item = true := by simp [sunoRefunds, hst]
    simp [hef, hre]
  · exact absurd hst (hok p item rest task hp hxs hta)

theorem BillingInv.pollEffect (hok : BilledStep settings s (.pollEffect i env adj dbe))
    (hs : pollEffect settings i env adj dbe s = some s') : BillingInv id s' := by
  obtain ⟨p, effect, p', hp, rfl, hef⟩ := pollEffect_eq_some hs
  have hsa : ∀ task, Effect.save task ∈ p'.effects → Effect.save task ∈ p.effects := by
    intro task hm
    rw [hef]
    exact mem_cons_of_mem effect hm
  have hma : ∀ refunds setl, effect.Made refunds setl →
      ∀ e ∈ p.effects, e ∈ p'.effects ∨ e.Made refunds setl := by
    intro refunds setl hma e hm
    rw [hef] at hm
    rcases mem_cons.mp hm with rfl | hm'
    · exact .inr hma
    · exact .inl hm'
  cases effect with
  | refund task =>
    refine hi.replacePoller hp (BillingKept.replacePoller hp (subset_cons_self ..)
      (List.Subset.refl _) (hma _ _ ⟨_, mem_cons_self .., rfl, ?_⟩))
      (fun _ h => .inl h) (fun t h _ => .inl (hsa t h))
    simp [refundTaskQuota_debit, hok p task p'.effects hp hef]
  | settle up task tr =>
    exact hi.replacePoller hp (BillingKept.replacePoller hp (List.Subset.refl _)
      (subset_cons_self ..) (hma _ _ ⟨_, mem_cons_self .., rfl⟩))
      (fun _ h => .inl h) (fun t h _ => .inl (hsa t h))
  | save task =>
    have hk : ∀ rows,
        BillingKept id s { s with rows, pollers := s.pollers.set i p' } := fun rows =>
      BillingKept.replacePoller hp (List.Subset.refl _) (List.Subset.refl _) (hma _ _ trivial)
    refine hi.replacePoller hp (hk _) ?_ (fun t h _ => .inl (hsa t h))
    intro row hr
    split at hr
    · exact .inl hr
    rw [update_find] at hr
    obtain ⟨old, ho, hr⟩ := Option.map_eq_some_iff.mp hr
    split at hr
    · -- the row is the stored copy, whose billing was made before it was saved
      rename_i hid
      subst hr
      have hsv := hi.saves p (mem_of_getElem? hp) task
        (hef ▸ mem_cons_self ..) (hid ▸ Table.get?_key ho)
      exact .inr (hsv.mono (hk _))
    · exact .inl (hr ▸ ho)

theorem BillingInv.fetchLoad (hs : fetchLoad fet s = some s') : BillingInv id s' := by
  obtain ⟨task, hta, rfl⟩ := fetchLoad_eq_some hs
  have hk : BillingKept id s { s with fetches := s.fetches ++ [task] } :=
    BillingKept.start (List.Subset.refl _) (List.Subset.refl _)
  refine hi.of_kept hk (fun _ h => .inl h) ?_ (fun p hp _ h _ => .inl ⟨p, hp, h⟩)
  intro t hm hid
  rcases mem_append.mp hm with ho | hl
  · exact .inl ho
  · obtain rfl := mem_singleton.mp hl
    have hfe : t.id = fet := Table.get?_key hta
    exact .inr ((hi.row t (by rw [← hid, hfe]; exact hta)).mono hk)

theorem BillingInv.fetchStore {i : Nat} {cty : Int} {rep : Option RealtimeReport}
    (hok : BilledStep settings s (.fetchStore i cty rep dbe))
    (hst : fetchStore settings i cty rep dbe s = some s') : BillingInv id s' := by
  obtain ⟨task, hta, rfl⟩ := fetchStore_eq_some hst
  have hk : ∀ rows, BillingKept id s { s with rows, fetches := s.fetches.eraseIdx i } :=
    fun rows => BillingKept.start (List.Subset.refl _) (List.Subset.refl _)
  refine hi.of_kept (hk _) ?_ (fun t h _ => .inl (mem_of_mem_eraseIdx h))
    (fun p hp _ h _ => .inl ⟨p, hp, h⟩)
  intro row hr
  cases hfe : tryRealtimeFetch settings cty rep task with
  | none =>
    simp only [hfe] at hr
    exact .inl hr
  | some ud =>
    simp only [hfe] at hr
    rcases conditionalUpdate_row hr with hol | ⟨rfl, hid, -⟩
    · exact .inl hol
    rcases hok task row hta hfe with ho | hs
    · exact .inr (Billed.of_not_done ho)
    -- the copy was read with this status, so its billing was made or due then
    obtain ⟨hid', hq, hsu⟩ := tryRealtimeFetch_frame hfe
    have hbi := hi.fetches task (mem_of_getElem? hta) (hid' ▸ hid)
    have hle : row.isLegacy = task.isLegacy := by
      unfold Task.isLegacy
      rw [hsu]
    refine .inr (Billed.mono (hk _) ⟨?_, ?_⟩)
    · rw [hs, hle, hq]
      exact hbi.failure
    · rw [hs]
      exact hbi.success

theorem BillingInv.step (hok : BilledStep settings s act)
    (hs : (machine settings).step s act = some s') :
    BillingInv id s' := by
  cases act with
  | sweepLoad now => exact hi.sweepLoad hs
  | sweepTask i now dbe => exact hi.sweepTask hs
  | sweepRefund i env => exact hi.sweepRefund hok hs
  | pollLoad lim => exact hi.pollLoad hs
  | pollPlatform i n dbe => exact hi.pollPlatform hok hs
  | pollChannel i n rpl dbe => exact hi.pollChannel hok hs
  | pollVideo i response now dbe => exact hi.pollVideo hs
  | pollSuno i => exact hi.pollSuno hok hs
  | pollEffect i env adj dbe => exact hi.pollEffect hok hs
  | fetchLoad fet => exact hi.fetchLoad hs
  | fetchStore i cty rep dbe => exact hi.fetchStore hok hs

end

end

/-! ## Runs -/

/-- In every run whose steps are billed, and for every task that starts unfinished: once the
stored status is `FAILURE` the quota of a task that is not legacy is refunded, and once it is
`SUCCESS` the completion settlement is executed, by the writer that stored the status, at the
latest in its next step. -/
theorem final_billing {settings : Settings} {initial final : State} {actions : List Action}
    {id : Int} (hfresh : initial.Fresh)
    (hopen : ∀ row, find initial.rows id = some row → row.status.isDone = false)
    (hok : (machine settings).Guarded (BilledStep settings) initial actions)
    (hrun : (machine settings).run initial actions = some final) {row : Task}
    (hrow : find final.rows id = some row) :
    (row.status = .failure → row.isLegacy = false → row.quota ≠ 0 →
      RefundMade id final ∨ RefundDue id final) ∧
    (row.status = .success → SettlementMade id final ∨ SettlementDue id final) := by
  have hin : BillingInv id initial := by
    refine ⟨fun row hrow => Billed.of_not_done (hopen row hrow), ?_, ?_⟩
    · simp [hfresh.fetches]
    · simp [hfresh.pollers]
  have hfi := (machine settings).guarded_run_preserves (BillingInv id)
    (fun _ _ _ hi hok hs => hi.step hok hs) hin hok hrun
  exact ⟨(hfi.row row hrow).failure, (hfi.row row hrow).success⟩

/-- A run with one sweep, which stores the failure and refunds it. -/
theorem swept_task_billed :
    ∃ final, (machine dayTimeout).run { rows := [geminiTask] } timedOut = some final ∧
      (RefundMade 1 final ∨ RefundDue 1 final) := by
  have hfr : State.Fresh { rows := [geminiTask] } := ⟨by decide, rfl, rfl, rfl, rfl, rfl⟩
  refine ⟨_, rfl, ?_⟩
  refine (@final_billing dayTimeout { rows := [geminiTask] } _ timedOut 1 hfr ?_
    ⟨trivial, fun _ _ => ⟨trivial, fun _ _ => ⟨rfl, fun _ _ => trivial⟩⟩⟩ rfl _ rfl).1 rfl
    (by decide) (by decide)
  intro row hr
  obtain rfl := Option.some.inj hr
  rfl

def failedRealtime : List Action :=
  [.fetchLoad 1,
    .fetchStore 0 24 (some
      { info := { status := .failure, progress := "100%" }, body := some [123, 125] }) false]

/-- The realtime fetch stores the failure of the task. No writer is left, nothing is refunded,
and neither the sweeper nor the poller will load the task again. -/
theorem realtime_failure_not_refunded :
    ((machine dayTimeout).run { rows := [geminiTask] } failedRealtime).map
      (fun s => ((find s.rows 1).map Task.status, s.refunds.length)) = some (some .failure, 0) ∧
    ((machine dayTimeout).run { rows := [geminiTask] } failedRealtime).map
      (fun s => (s.sweepers.length, s.pollers.length, s.fetches.length)) = some (0, 0, 0) ∧
    ((machine dayTimeout).run { rows := [geminiTask] } failedRealtime).map
      (fun s => (getTimedOutUnfinishedTasks 1900000000 100 s.rows,
        getAllUnFinishSyncTasks 100 s.rows)) = some ([], []) := by
  decide

end NewApi.Tasks
