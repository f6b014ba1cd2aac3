import Mathlib.Logic.Function.Basic
import NewApi.Lib.Transition
import NewApi.Subscriptions.Usage

/-!
# Runs of usage transactions

Requests call the transactions of `Usage.lean` in any order, with resets and cleanups between them.
The state also keeps what the runs are judged by. `UsageChange` says what a transaction does to all
used amounts.
-/

namespace NewApi.Subscriptions

open Lib Table

structure UsageState where
  db : Tables
  /-- What a request has pre-consumed, with its later deltas. -/
  amount : String → Int
  /-- The period of its subscription in which a request pre-consumed. -/
  opened : String → Nat
  /-- The number of resets of a subscription. -/
  period : Int → Nat
  /-- The requests and subscriptions of the pre-consumptions whose record is kept. -/
  debits : List (String × Int)

def UsageState.start (db : Tables) : UsageState where
  db := db
  amount := fun _ => 0
  opened := fun _ => 0
  period := fun _ => 0
  debits := []

/-- A transaction on the used amounts. A delta is made on behalf of a request. -/
inductive UsageAction where
  | preConsume (requestId : String) (userId now amount : Int)
  | delta (requestId : String) (userSubscriptionId delta : Int)
  | refund (requestId : String) (now : Int) (saveFails : Bool)
  | reset (userSubscriptionId now : Int)
  | cleanup (cutoff : Int)
  deriving DecidableEq

/-- The subscriptions in `ids` begin a new period. -/
def UsageState.nextPeriod (s : UsageState) (ids : List Int) (id : Int) : Nat :=
  if id ∈ ids then s.period id + 1 else s.period id

section

variable (env : UsageEnv)

def UsageState.afterPreConsume (requestId : String) (userId now amount : Int) (s : UsageState)
    (outcome : Tables × PreConsumeResult) : UsageState :=
  -- a repeated request is answered from its record
  if (findRecord s.db.records requestId).isSome then { s with db := outcome.1 }
  else
    let period := s.nextPeriod (resetIds env now amount (activeSubs userId now s.db.subs))
    { db := outcome.1
      amount := Function.update s.amount requestId amount
      opened := Function.update s.opened requestId (period outcome.2.userSubscriptionId)
      period
      debits := s.debits ++ [(requestId, outcome.2.userSubscriptionId)] }

def resetDueIds (id now : Int) (db : Tables) : List Int :=
  match findSub db.subs id with
  | none => []
  | some sub =>
    if sub.nextResetTime > 0 ∧ sub.nextResetTime ≤ now then
      match env.plans sub.planId with
      | none => []
      | some plan => if resetAdvances env sub plan now then [id] else []
    else []

def usageStep (s : UsageState) : UsageAction → UsageState
  | .preConsume requestId userId now amount =>
    match preConsumeUserSubscription env requestId userId now amount s.db with
    | .error _ => s
    | .ok outcome => s.afterPreConsume env requestId userId now amount outcome
  | .delta requestId userSubscriptionId delta =>
    match postConsumeUserSubscriptionDelta userSubscriptionId delta s.db with
    | .error _ => s
    | .ok db =>
      { s with
        db, amount := Function.update s.amount requestId (s.amount requestId + delta) }
  | .refund requestId now saveFails =>
    { s with db := (refundSubscriptionPreConsume requestId now saveFails s.db).1 }
  | .reset id now =>
    match resetDueSubscription env id now s.db with
    | .error _ => s
    | .ok db => { s with db, period := s.nextPeriod (resetDueIds env id now s.db) }
  | .cleanup cutoff =>
    let db := cleanupSubscriptionPreConsumeRecords cutoff s.db
    { s with
      db, debits := s.debits.filter fun debit => (findRecord db.records debit.1).isSome }

def usageSystem : System UsageState UsageAction where
  step := fun s action => some (usageStep env s action)

end

/-! ## What a transaction does to the used amounts -/

/-- Every subscription keeps its key and its total, and its used amount becomes `f` of its row. -/
structure UsageChange (f : UserSubscription → Int) (db db' : Tables) : Prop where
  ids : db'.subs.map UserSubscription.id = db.subs.map UserSubscription.id
  rows : ∀ id sub, findSub db.subs id = some sub →
    ∃ sub', findSub db'.subs id = some sub' ∧ sub'.amountTotal = sub.amountTotal ∧
      sub'.amountUsed = f sub

section

variable {env : UsageEnv} {f : UserSubscription → Int} {db db' : Tables}

theorem UsageChange.refl (db : Tables) : UsageChange UserSubscription.amountUsed db db where
  ids := rfl
  rows := fun _ sub hs => ⟨sub, hs, rfl, rfl⟩

theorem UsageChange.row (h : UsageChange f db db') (hs : sub' ∈ db'.subs)
    (hid : (db.subs.map UserSubscription.id).Nodup) :
    ∃ sub ∈ db.subs, sub'.id = sub.id ∧ sub'.amountTotal = sub.amountTotal ∧
      sub'.amountUsed = f sub := by
  have hm : sub'.id ∈ db.subs.map UserSubscription.id := h.ids ▸ List.mem_map_of_mem hs
  obtain ⟨sub, hf⟩ := exists_findSub hm
  obtain ⟨row, hr, hto, hus⟩ := h.rows _ sub hf
  have hse : findSub db'.subs sub'.id = some sub' := get?_of_mem (h.ids ▸ hid) hs
  obtain rfl : sub' = row := Option.some.inj (hse.symm.trans hr)
  exact ⟨sub, get?_mem hf, (get?_key hf).symm, hto, hus⟩

theorem UsageChange.save (old : UserSubscription)
    (hf : findSub db.subs sub.id = some old) (hto : sub.amountTotal = old.amountTotal)
    (hse : f old = sub.amountUsed) (hot : ∀ row, row.id ≠ sub.id → f row = row.amountUsed) :
    UsageChange f db { db with subs := saveSub sub db.subs } where
  ids := map_id_saveSub
  rows := by
    intro id row hr
    have hid : row.id = id := get?_key hr
    refine ⟨_, findSub_saveSub hr, ?_⟩
    by_cases heq : id = sub.id
    · obtain rfl : row = old := Option.some.inj (hr.symm.trans (heq ▸ hf))
      rw [if_pos heq]
      exact ⟨hto, hse.symm⟩
    · rw [if_neg heq]
      exact ⟨rfl, (hot row (hid ▸ heq)).symm⟩

def deltaUsed (id delta : Int) (sub : UserSubscription) : Int :=
  if sub.id = id ∧ delta ≠ 0 then max (Int64.wrap (sub.amountUsed + delta)) 0
  else sub.amountUsed

theorem postConsume_change {id d : Int} (h : postConsumeUserSubscriptionDelta id d db = .ok db') :
    db'.records = db.records ∧ UsageChange (deltaUsed id d) db db' ∧
      ∀ sub, findSub db.subs id = some sub → d ≠ 0 → sub.amountTotal > 0 →
        deltaUsed id d sub ≤ sub.amountTotal := by
  rcases postConsume_spec h with ⟨hz, rfl⟩ | ⟨hd, sub, hs, hfi, rfl⟩
  · have hsa : deltaUsed id d = UserSubscription.amountUsed := by
      funext sub
      simp [deltaUsed, hz]
    exact ⟨rfl, hsa ▸ .refl db', fun _ _ hne => absurd hz hne⟩
  have hid : sub.id = id := get?_key hs
  have hus : deltaUsed id d sub = max (Int64.wrap (sub.amountUsed + d)) 0 := by
    simp [deltaUsed, hid, hd]
  refine ⟨rfl, .save sub (hid ▸ hs) rfl hus fun row hne => ?_, ?_⟩
  · have hne : row.id ≠ id := hid ▸ hne
    simp [deltaUsed, hne]
  intro row hr _ hto
  obtain rfl : sub = row := Option.some.inj (hs.symm.trans hr)
  rw [hus]
  exact hfi hto

theorem Charged.change (h : Charged env rid uid now amt can db db' res) :
    UsageChange (fun sub => if sub.id = res.userSubscriptionId then res.amountUsedAfter
      else resetUsed (resetIds env now amt can) sub) db db' where
  ids := h.ids
  rows := by
    intro id sub hs
    obtain ⟨sub', hs', hto, hus⟩ := h.rows id sub hs
    rw [← (get?_key hs : sub.id = id)] at hus
    exact ⟨sub', hs', hto, hus⟩

theorem refund_change {rid : String} {now : Int} {sf : Bool} {oc : Except UsageError Unit}
    (h : refundSubscriptionPreConsume rid now sf db = (db', oc)) :
    db' = db ∨
      ∃ rcd, findRecord db.records rid = some rcd ∧ rcd.status ≠ .refunded ∧
        (db'.records = if sf then db.records else markRefunded rid now db.records) ∧
        UsageChange (deltaUsed rcd.userSubscriptionId (-max rcd.preConsumed 0)) db db' ∧
        ∀ sub, findSub db.subs rcd.userSubscriptionId = some sub → 0 < rcd.preConsumed →
          sub.amountTotal > 0 →
            deltaUsed rcd.userSubscriptionId (-max rcd.preConsumed 0) sub ≤ sub.amountTotal := by
  rcases refund_spec h with hs | ⟨rcd, crd, hrc, hst, hcr, hdb⟩
  · exact .inl hs
  refine .inr ⟨rcd, hrc, hst, ?_⟩
  have hsu : db'.subs = crd.subs := by
    rw [hdb]
    split <;> rfl
  have hcd : crd.records = db.records ∧
      UsageChange (deltaUsed rcd.userSubscriptionId (-max rcd.preConsumed 0)) db crd ∧
      ∀ sub, findSub db.subs rcd.userSubscriptionId = some sub → 0 < rcd.preConsumed →
        sub.amountTotal > 0 → deltaUsed rcd.userSubscriptionId (-max rcd.preConsumed 0) sub ≤
          sub.amountTotal := by
    split at hcr
    · -- a record of nothing gives nothing back
      rename_i hpr
      cases hcr
      have hs : deltaUsed rcd.userSubscriptionId (-max rcd.preConsumed 0) =
          UserSubscription.amountUsed := by
        funext sub
        simp [deltaUsed, Int.max_eq_right hpr]
      exact ⟨rfl, hs ▸ .refl db, fun _ _ hp => by omega⟩
    rename_i hpr
    rw [Int.max_eq_left (by omega)]
    obtain ⟨hre, hch, hfi⟩ := postConsume_change hcr
    exact ⟨hre, hch, fun sub hsb _ => hfi sub hsb (by omega)⟩
  obtain ⟨hre, hch, hfi⟩ := hcd
  refine ⟨?_, ⟨hsu ▸ hch.ids, hsu ▸ hch.rows⟩, hfi⟩
  rw [hdb]
  split <;> simp [hre]

theorem map_requestId_markRefunded :
    (markRefunded rid now rcs).map PreConsumeRecord.requestId =
      rcs.map PreConsumeRecord.requestId := by
  refine map_key_updateWhere ?_
  intro record _
  rfl

theorem resetDue_change {id now : Int} (h : resetDueSubscription env id now db = .ok db') :
    db'.records = db.records ∧ UsageChange (resetUsed (resetDueIds env id now db)) db db' := by
  unfold resetDueIds
  unfold resetDueSubscription at h
  cases hs : findSub db.subs id with
  | none =>
    simp only [hs] at h ⊢
    cases h
    exact ⟨rfl, .refl db⟩
  | some sub =>
    have hid : sub.id = id := get?_key hs
    simp only [hs] at h ⊢
    by_cases hdu : sub.nextResetTime > 0 ∧ sub.nextResetTime ≤ now
    · rw [if_pos hdu] at h ⊢
      cases hpl : env.plans sub.planId with
      | none =>
        simp only [hpl] at h ⊢
        cases h
        exact ⟨rfl, .refl db⟩
      | some pln =>
        simp only [hpl] at h ⊢
        cases hr : maybeResetUserSubscriptionWithPlanTx env sub pln now with
        | error e =>
          rw [hr] at h
          cases h
        | ok res =>
          rw [hr] at h
          cases h
          obtain ⟨lr, nr, rfl⟩ := maybeReset_spec hr
          refine ⟨rfl, .save sub ?_ rfl ?_ ?_⟩
          · exact hid ▸ hs
          · cases resetAdvances env sub pln now <;> simp [resetUsed, hid]
          · intro row hne
            have hne : row.id ≠ id := hid ▸ hne
            cases resetAdvances env sub pln now <;> simp [resetUsed, hne]
    · rw [if_neg hdu] at h ⊢
      cases h
      exact ⟨rfl, .refl db⟩

end

/-! ## An example subscription -/

def periodEnv : UsageEnv where
  calendar := plainCalendar
  plans := fun id => some { id, quotaResetPeriod := .custom, quotaResetCustomSeconds := 100 }
  fuel := 5

def periodTables : Tables where
  subs := [{ id := 1, userId := 7, planId := 1, amountTotal := 50, startTime := 1000
             endTime := 9000, lastResetTime := 1000, nextResetTime := 1100 }]

end NewApi.Subscriptions
