import NewApi.Lib.Text
import NewApi.Subscriptions.Plan

/-!
# Usage of subscriptions

The transactions of `model/subscription.go` that change a used amount: pre-consumption, settlement
delta, refund and reset. An error leaves the tables as they were, except in
`refundSubscriptionPreConsume`, whose delta is a transaction of its own.
-/

namespace NewApi.Subscriptions

open Lib List UserSubscription

/-- The `status` column of a pre-consume record. -/
inductive RecordStatus where
  | consumed
  | refunded
  deriving DecidableEq, Repr

/-- `SubscriptionPreConsumeRecord`. -/
structure PreConsumeRecord where
  requestId : String
  userId : Int
  userSubscriptionId : Int
  preConsumed : Int
  status : RecordStatus := .consumed
  updatedAt : Int := 0
  deriving DecidableEq

/-- The tables that the transactions read and write. The request id is a unique key of the
records. -/
structure Tables where
  subs : List UserSubscription
  records : List PreConsumeRecord := []
  deriving DecidableEq

/-- `SubscriptionPreConsumeResult`. -/
structure PreConsumeResult where
  userSubscriptionId : Int
  preConsumed : Int
  amountTotal : Int
  amountUsedBefore : Int
  amountUsedAfter : Int
  deriving DecidableEq

inductive UsageError where
  | invalidUserId
  | requestIdEmpty
  | amountNotPositive
  | alreadyRefunded
  | noActiveSubscription
  | quotaInsufficient (need : Int)
  | invalidUserSubscriptionId
  | exceedsTotal (used total : Int)
  | notFound
  | database
  /-- The catch-up loop of a reset has not ended yet, so the transaction has not either. -/
  | unfinished
  deriving DecidableEq, Repr

def UsageError.message : UsageError → String
  | .invalidUserId => "invalid userId"
  | .requestIdEmpty => "requestId is empty"
  | .amountNotPositive => "amount must be > 0"
  | .alreadyRefunded => "subscription pre-consume already refunded"
  | .noActiveSubscription => "no active subscription"
  | .quotaInsufficient need => s!"subscription quota insufficient, need={need}"
  | .invalidUserSubscriptionId => "invalid userSubscriptionId"
  | .exceedsTotal used total => s!"subscription used exceeds total, used={used} total={total}"
  | .notFound => "record not found"
  | .database => "database error"
  | .unfinished => "unfinished"

/-- What the transactions read besides the two tables: the calendar, the plans, and a bound on
the turns of the catch-up loop. -/
structure UsageEnv where
  calendar : Calendar
  plans : Int → Option SubscriptionPlan
  fuel : Nat

section

variable (env : UsageEnv)

/-- The catch-up loop of a reset: the last boundary passed and the next one. -/
def catchUp (plan : SubscriptionPlan) (endTime now : Int) : Nat → Int → Int → Option (Int × Int)
  | 0, base, next => if next > 0 ∧ next ≤ now then none else some (base, next)
  | fuel + 1, base, next =>
    if next > 0 ∧ next ≤ now then
      catchUp plan endTime now fuel next (calcNextResetTime env.calendar next plan endTime)
    else some (base, next)

def resetBase (sub : UserSubscription) : Int :=
  if sub.lastResetTime ≤ 0 then sub.startTime else sub.lastResetTime

/-- The row it saves. -/
def maybeResetUserSubscriptionWithPlanTx (sub : UserSubscription) (plan : SubscriptionPlan)
    (now : Int) : Except UsageError UserSubscription :=
  if sub.nextResetTime > 0 ∧ sub.nextResetTime > now then .ok sub
  else if plan.quotaResetPeriod = .never then .ok sub
  else
    let next := calcNextResetTime env.calendar (resetBase sub) plan sub.endTime
    match catchUp env plan sub.endTime now env.fuel (resetBase sub) next with
    | none => .error .unfinished
    | some (lastReset, nextReset) =>
      if next > 0 ∧ next ≤ now then
        .ok { sub with
          amountUsed := 0, lastResetTime := lastReset, nextResetTime := nextReset }
      else if sub.nextResetTime = 0 ∧ nextReset > 0 then
        .ok { sub with lastResetTime := lastReset, nextResetTime := nextReset }
      else .ok sub

/-- `user_id = ? AND status = 'active' AND end_time > ? ORDER BY end_time, id`. -/
def activeSubs (userId now : Int) (subs : List UserSubscription) : List UserSubscription :=
  (subs.filter fun sub => sub.userId = userId ∧ sub.status = .active ∧ sub.endTime > now)
    |>.insertionSort fun a b => a.endTime < b.endTime ∨ a.endTime = b.endTime ∧ a.id ≤ b.id

/-- The loop of `PreConsumeUserSubscription` over the candidates: each one is reset if it is due,
and the first with enough quota left is charged. The sum overflows, and can do so without a total;
the difference does not, since a used amount below a total is not negative. -/
def consumeFirst (requestId : String) (userId now amount : Int) :
    List UserSubscription → Tables → Except UsageError (Tables × PreConsumeResult)
  | [], _ => .error (.quotaInsufficient amount)
  | candidate :: rest, db =>
    match env.plans candidate.planId with
    | none => .error .notFound
    | some plan =>
      match maybeResetUserSubscriptionWithPlanTx env candidate plan now with
      | .error e => .error e
      | .ok sub =>
        if sub.amountTotal > 0 ∧ sub.amountTotal - sub.amountUsed < amount then
          consumeFirst requestId userId now amount rest
            { db with subs := saveSub sub db.subs }
        else
          .ok
            ({ subs := saveSub (sub.withUsed (Int64.wrap (sub.amountUsed + amount))) db.subs
               records := db.records ++
                 [{ requestId, userId, userSubscriptionId := sub.id,
                    preConsumed := amount, updatedAt := now }] },
             { userSubscriptionId := sub.id
               preConsumed := amount
               amountTotal := sub.amountTotal
               amountUsedBefore := sub.amountUsed
               amountUsedAfter := Int64.wrap (sub.amountUsed + amount) })

def findRecord (records : List PreConsumeRecord) (requestId : String) :
    Option PreConsumeRecord :=
  Table.get? PreConsumeRecord.requestId records requestId

/-- A repeated request is answered from its record. -/
def preConsumeUserSubscription (requestId : String) (userId now amount : Int) (db : Tables) :
    Except UsageError (Tables × PreConsumeResult) :=
  if userId ≤ 0 then .error .invalidUserId
  else if trimSpace requestId = "" then .error .requestIdEmpty
  else if amount ≤ 0 then .error .amountNotPositive
  else
    match findRecord db.records requestId with
    | some existing =>
      if existing.status = .refunded then .error .alreadyRefunded
      else
        match findSub db.subs existing.userSubscriptionId with
        | none => .error .notFound
        | some sub =>
          .ok (db,
            { userSubscriptionId := sub.id
              preConsumed := existing.preConsumed
              amountTotal := sub.amountTotal
              amountUsedBefore := sub.amountUsed
              amountUsedAfter := sub.amountUsed })
    | none =>
      let subs := activeSubs userId now db.subs
      if subs = [] then .error .noActiveSubscription
      else consumeFirst env requestId userId now amount subs db

/-- The used amount overflows, is then clamped at zero and may not exceed a positive total. -/
def postConsumeUserSubscriptionDelta (userSubscriptionId delta : Int) (db : Tables) :
    Except UsageError Tables :=
  if userSubscriptionId ≤ 0 then .error .invalidUserSubscriptionId
  else if delta = 0 then .ok db
  else
    match findSub db.subs userSubscriptionId with
    | none => .error .notFound
    | some sub =>
      let newUsed := Int64.wrap (sub.amountUsed + delta)
      let newUsed := if newUsed < 0 then 0 else newUsed
      if sub.amountTotal > 0 ∧ newUsed > sub.amountTotal then
        .error (.exceedsTotal newUsed sub.amountTotal)
      else .ok { db with subs := saveSub (sub.withUsed newUsed) db.subs }

def markRefunded (requestId : String) (now : Int) (records : List PreConsumeRecord) :
    List PreConsumeRecord :=
  Table.updateWhere (fun r => r.requestId = requestId)
    (fun r => { r with status := .refunded, updatedAt := now }) records

/-- The delta commits on its own: when the save of the record fails afterwards, the amount is given
back and the record still says it is not. -/
def refundSubscriptionPreConsume (requestId : String) (now : Int) (saveFails : Bool)
    (db : Tables) : Tables × Except UsageError Unit :=
  if trimSpace requestId = "" then (db, .error .requestIdEmpty)
  else
    match findRecord db.records requestId with
    | none => (db, .error .notFound)
    | some record =>
      if record.status = .refunded then (db, .ok ())
      else
        let credited :=
          if record.preConsumed ≤ 0 then .ok db
          else postConsumeUserSubscriptionDelta record.userSubscriptionId
            (-record.preConsumed) db
        match credited with
        | .error e => (db, .error e)
        | .ok db' =>
          if saveFails then (db', .error .database)
          else ({ db' with records := markRefunded requestId now db'.records }, .ok ())

/-- The transaction of `ResetDueSubscriptions` for one subscription. -/
def resetDueSubscription (id now : Int) (db : Tables) : Except UsageError Tables :=
  match findSub db.subs id with
  | none => .ok db
  | some sub =>
    if sub.nextResetTime > 0 ∧ sub.nextResetTime ≤ now then
      match env.plans sub.planId with
      | none => .ok db
      | some plan =>
        match maybeResetUserSubscriptionWithPlanTx env sub plan now with
        | .error e => .error e
        | .ok reset => .ok { db with subs := saveSub reset db.subs }
    else .ok db

/-- `CleanupSubscriptionPreConsumeRecords` with its cutoff. -/
def cleanupSubscriptionPreConsumeRecords (cutoff : Int) (db : Tables) : Tables :=
  { db with records := db.records.filter fun r => ¬ r.updatedAt < cutoff }

end

/-! ## What the transactions do -/

section

variable {env : UsageEnv}

/-- A reset boundary has passed, so that `maybeResetUserSubscriptionWithPlanTx` sets the used
amount to zero. -/
def resetAdvances (env : UsageEnv) (sub : UserSubscription) (plan : SubscriptionPlan)
    (now : Int) : Bool :=
  let next := calcNextResetTime env.calendar (resetBase sub) plan sub.endTime
  ¬ (sub.nextResetTime > 0 ∧ sub.nextResetTime > now) ∧ plan.quotaResetPeriod ≠ .never ∧
    next > 0 ∧ next ≤ now

def resetIds (env : UsageEnv) (now amount : Int) : List UserSubscription → List Int
  | [] => []
  | candidate :: rest =>
    match env.plans candidate.planId with
    | none => []
    | some plan =>
      match maybeResetUserSubscriptionWithPlanTx env candidate plan now with
      | .error _ => []
      | .ok sub =>
        let here := if resetAdvances env candidate plan now then [candidate.id] else []
        if sub.amountTotal > 0 ∧ sub.amountTotal - sub.amountUsed < amount then
          here ++ resetIds env now amount rest
        else here

theorem maybeReset_spec (h : maybeResetUserSubscriptionWithPlanTx env sub pln now = .ok re) :
    ∃ lr nr, re = { sub with
      amountUsed := if resetAdvances env sub pln now then 0 else sub.amountUsed
      lastResetTime := lr
      nextResetTime := nr } := by
  unfold maybeResetUserSubscriptionWithPlanTx at h
  dsimp only at h
  unfold resetAdvances
  split at h
  · rename_i hea
    cases h
    exact ⟨sub.lastResetTime, sub.nextResetTime, by simp [hea]⟩
  rename_i hea
  split at h
  · rename_i hne
    cases h
    exact ⟨sub.lastResetTime, sub.nextResetTime, by simp [hne]⟩
  rename_i hne
  split at h
  · cases h
  rename_i lr nr _
  split at h
  · rename_i had
    cases h
    exact ⟨lr, nr, by simp [hea, hne, had]⟩
  rename_i had
  split at h
  · cases h
    exact ⟨lr, nr, by simp [had]⟩
  · cases h
    exact ⟨sub.lastResetTime, sub.nextResetTime, by simp [had]⟩

theorem postConsume_spec {id d : Int} {db db' : Tables}
    (h : postConsumeUserSubscriptionDelta id d db = .ok db') :
    d = 0 ∧ db' = db ∨
      d ≠ 0 ∧ ∃ sub, findSub db.subs id = some sub ∧
        (sub.amountTotal > 0 → max (Int64.wrap (sub.amountUsed + d)) 0 ≤ sub.amountTotal) ∧
        db' = { db with
          subs := saveSub (sub.withUsed (max (Int64.wrap (sub.amountUsed + d)) 0)) db.subs } := by
  unfold postConsumeUserSubscriptionDelta at h
  split at h
  · cases h
  split at h
  · rename_i hd
    cases h
    exact .inl ⟨hd, rfl⟩
  rename_i hd
  split at h
  · cases h
  rename_i sub hs
  have hma : (if Int64.wrap (sub.amountUsed + d) < 0 then 0
      else Int64.wrap (sub.amountUsed + d)) = max (Int64.wrap (sub.amountUsed + d)) 0 := by
    split <;> omega
  simp only [hma] at h
  split at h
  · cases h
  · rename_i hfi
    cases h
    exact .inr ⟨hd, sub, hs, by omega, rfl⟩

/-- A credit of a row within its total is not refused. -/
theorem postConsume_credit {id amount : Int} {db : Tables} {row : UserSubscription} (hid : 0 < id)
    (hrow : findSub db.subs id = some row) (hamount : 0 < amount)
    (hrange : Int64.InRange (row.amountUsed - amount))
    (hfits : row.amountTotal > 0 → row.amountUsed ≤ row.amountTotal) :
    postConsumeUserSubscriptionDelta id (-amount) db =
      .ok { db with subs := saveSub (row.withUsed (max (row.amountUsed - amount) 0)) db.subs } := by
  have hpos : ¬ id ≤ 0 := by omega
  have hdelta : ¬ -amount = 0 := by omega
  have hclamp : (if row.amountUsed - amount < 0 then 0 else row.amountUsed - amount) =
      max (row.amountUsed - amount) 0 := by
    split <;> omega
  have htotal : ¬ (row.amountTotal > 0 ∧ max (row.amountUsed - amount) 0 > row.amountTotal) := by
    omega
  simp only [postConsumeUserSubscriptionDelta, hpos, hdelta, hrow, ← Int.sub_eq_add_neg,
    Int64.wrap_of_inRange hrange, hclamp, htotal, if_false]

/-- The used amount of a row after the resets of the given subscriptions. -/
def resetUsed (ids : List Int) (sub : UserSubscription) : Int :=
  if sub.id ∈ ids then 0 else sub.amountUsed

/-- What the charge of a request does to the tables. -/
structure Charged (env : UsageEnv) (requestId : String) (userId now amount : Int)
    (candidates : List UserSubscription) (db db' : Tables) (result : PreConsumeResult) :
    Prop where
  records : db'.records = db.records ++ [{
    requestId, userId, userSubscriptionId := result.userSubscriptionId,
    preConsumed := amount, updatedAt := now }]
  preConsumed : result.preConsumed = amount
  used : result.amountUsedAfter = Int64.wrap (result.amountUsedBefore + amount)
  charged : ∃ sub, findSub db.subs result.userSubscriptionId = some sub ∧
    resetUsed (resetIds env now amount candidates) sub = result.amountUsedBefore ∧
    (sub.amountTotal > 0 → result.amountUsedBefore + amount ≤ sub.amountTotal)
  ids : db'.subs.map UserSubscription.id = db.subs.map UserSubscription.id
  rows : ∀ id sub, findSub db.subs id = some sub →
    ∃ sub', findSub db'.subs id = some sub' ∧ sub'.amountTotal = sub.amountTotal ∧
      sub'.amountUsed =
        if id = result.userSubscriptionId then result.amountUsedAfter
        else resetUsed (resetIds env now amount candidates) sub

theorem maybeReset_fields (h : maybeResetUserSubscriptionWithPlanTx env sub pln now = .ok re) :
    re.id = sub.id ∧ re.amountTotal = sub.amountTotal ∧
      re.amountUsed = if resetAdvances env sub pln now then 0 else sub.amountUsed := by
  obtain ⟨lr, nr, rfl⟩ := maybeReset_spec h
  exact ⟨rfl, rfl, rfl⟩

section

variable {requestId : String} {userId now amt : Int} {cd sub : UserSubscription}
variable {rs : List UserSubscription} {pl : SubscriptionPlan} {db db' : Tables}
variable {res : PreConsumeResult}

/-- A row after the reset of the first candidate and of those after it. -/
theorem resetUsed_cons (hca : findSub db.subs cd.id = some cd)
    (hpl : env.plans cd.planId = some pl)
    (hre : maybeResetUserSubscriptionWithPlanTx env cd pl now = .ok sub)
    (hsk : sub.amountTotal > 0 ∧ sub.amountTotal - sub.amountUsed < amt) {id : Int}
    {row : UserSubscription} (hr : findSub db.subs id = some row) :
    resetUsed (resetIds env now amt (cd :: rs)) row =
      resetUsed (resetIds env now amt rs) (if id = sub.id then sub else row) := by
  obtain ⟨hid, -, hus⟩ := maybeReset_fields hre
  have hrow : row.id = id := Table.get?_key hr
  unfold resetUsed
  simp only [resetIds, hpl, hre, hsk, and_self, if_true, mem_append]
  by_cases heq : id = sub.id
  · rw [heq, hid, hca] at hr
    obtain rfl := Option.some.inj hr
    cases had : resetAdvances env cd pl now <;> simp [heq, hus, had, hid]
  · have hne : row.id ≠ cd.id := hrow ▸ hid ▸ heq
    cases had : resetAdvances env cd pl now <;> simp [heq, hne]

theorem Charged.pass (hca : findSub db.subs cd.id = some cd) (hpl : env.plans cd.planId = some pl)
    (hre : maybeResetUserSubscriptionWithPlanTx env cd pl now = .ok sub)
    (hsk : sub.amountTotal > 0 ∧ sub.amountTotal - sub.amountUsed < amt)
    (h : Charged env requestId userId now amt rs { db with subs := saveSub sub db.subs } db' res) :
    Charged env requestId userId now amt (cd :: rs) db db' res := by
  obtain ⟨hid, hto, -⟩ := maybeReset_fields hre
  have hids : (saveSub sub db.subs).map UserSubscription.id = db.subs.map UserSubscription.id :=
    map_id_saveSub
  have htotal : ∀ {id row}, findSub db.subs id = some row →
      (if id = sub.id then sub else row).amountTotal = row.amountTotal := by
    intro id row hr
    split
    · rename_i heq
      rw [heq, hid, hca] at hr
      rw [hto, Option.some.inj hr]
    · rfl
  refine ⟨h.records, h.preConsumed, h.used, ?_, h.ids.trans hids, ?_⟩
  · obtain ⟨found, hf, hbe, hfi⟩ := h.charged
    have hm : res.userSubscriptionId ∈ db.subs.map UserSubscription.id :=
      hids ▸ (Table.get?_key hf : found.id = _) ▸ mem_map_of_mem (Table.get?_mem hf)
    obtain ⟨row, hr⟩ := exists_findSub hm
    obtain rfl : (if res.userSubscriptionId = sub.id then sub else row) = found :=
      Option.some.inj ((findSub_saveSub hr).symm.trans hf)
    exact ⟨row, hr, (resetUsed_cons hca hpl hre hsk hr).trans hbe, htotal hr ▸ hfi⟩
  intro id row hr
  obtain ⟨row', hr', hto', hus'⟩ := h.rows id _ (findSub_saveSub hr)
  refine ⟨row', hr', hto'.trans (htotal hr), ?_⟩
  rw [hus', resetUsed_cons hca hpl hre hsk hr]

theorem charged_candidate (hca : findSub db.subs cd.id = some cd)
    (hpl : env.plans cd.planId = some pl)
    (hre : maybeResetUserSubscriptionWithPlanTx env cd pl now = .ok sub)
    (hfi : ¬ (sub.amountTotal > 0 ∧ sub.amountTotal - sub.amountUsed < amt)) :
    Charged env requestId userId now amt (cd :: rs) db
      { subs := saveSub (sub.withUsed (Int64.wrap (sub.amountUsed + amt))) db.subs
        records := db.records ++
          [{ requestId, userId, userSubscriptionId := sub.id, preConsumed := amt,
             updatedAt := now }] }
      { userSubscriptionId := sub.id
        preConsumed := amt
        amountTotal := sub.amountTotal
        amountUsedBefore := sub.amountUsed
        amountUsedAfter := Int64.wrap (sub.amountUsed + amt) } := by
  obtain ⟨hid, hto, hus⟩ := maybeReset_fields hre
  refine ⟨rfl, rfl, rfl, ⟨cd, hid ▸ hca, ?_, ?_⟩, map_id_saveSub, ?_⟩
  · unfold resetUsed
    simp only [resetIds, hpl, hre, hfi, if_false]
    cases had : resetAdvances env cd pl now <;> simp [hus, had]
  · dsimp only
    omega
  intro id row hr
  have hrow : row.id = id := Table.get?_key hr
  refine ⟨_, findSub_saveSub hr, ?_⟩
  unfold resetUsed
  simp only [withUsed_id, resetIds, hpl, hre, hfi, if_false]
  by_cases heq : id = sub.id
  · rw [heq, hid, hca] at hr
    obtain rfl := Option.some.inj hr
    simp [heq, hto]
  · have hne : row.id ≠ cd.id := hrow ▸ hid ▸ heq
    cases had : resetAdvances env cd pl now <;> simp [heq, hne]

end

theorem consumeFirst_spec {requestId : String} {userId now amt : Int} {can : List UserSubscription}
    {db db' : Tables} {res : PreConsumeResult} (hno : (can.map UserSubscription.id).Nodup)
    (hf : ∀ cd ∈ can, findSub db.subs cd.id = some cd)
    (h : consumeFirst env requestId userId now amt can db = .ok (db', res)) :
    Charged env requestId userId now amt can db db' res := by
  induction can generalizing db with
  | nil => cases h
  | cons cd rs ih =>
    have hca := hf cd (by simp)
    simp only [map_cons, nodup_cons] at hno
    cases hpl : env.plans cd.planId with
    | none => simp [consumeFirst, hpl] at h
    | some pln =>
      cases hr : maybeResetUserSubscriptionWithPlanTx env cd pln now with
      | error e => simp [consumeFirst, hpl, hr] at h
      | ok sub =>
        simp only [consumeFirst, hpl, hr] at h
        by_cases hsk : sub.amountTotal > 0 ∧ sub.amountTotal - sub.amountUsed < amt
        · rw [if_pos hsk] at h
          refine Charged.pass hca hpl hr hsk (ih hno.2 ?_ h)
          -- the candidates after this one are still in the table
          intro next hx
          have hne : next.id ≠ sub.id := fun heq =>
            hno.1 ((maybeReset_fields hr).1 ▸ heq ▸ mem_map_of_mem hx)
          rw [findSub_saveSub (hf next (mem_cons_of_mem cd hx))]
          simp [hne]
        · rw [if_neg hsk] at h
          obtain ⟨rfl, rfl⟩ := Prod.mk.inj (Except.ok.inj h)
          exact charged_candidate hca hpl hr hsk

theorem mem_activeSubs {userId now : Int} {sbs : List UserSubscription} {sub : UserSubscription}
    (h : sub ∈ activeSubs userId now sbs) : sub ∈ sbs := by
  unfold activeSubs at h
  rw [mem_insertionSort] at h
  exact mem_of_mem_filter h

theorem nodup_activeSubs {userId now : Int} {sbs : List UserSubscription}
    (h : (sbs.map UserSubscription.id).Nodup) :
    ((activeSubs userId now sbs).map UserSubscription.id).Nodup := by
  unfold activeSubs
  rw [((perm_insertionSort _ _).map _).nodup_iff]
  exact h.sublist (filter_sublist.map _)

theorem preConsume_spec {requestId : String} {userId now amt : Int} {db db' : Tables}
    {res : PreConsumeResult} (his : (db.subs.map UserSubscription.id).Nodup)
    (h : preConsumeUserSubscription env requestId userId now amt db = .ok (db', res)) :
    0 < amt ∧
      ((∃ exis, findRecord db.records requestId = some exis ∧ db' = db ∧
          res.userSubscriptionId = exis.userSubscriptionId ∧
          res.preConsumed = exis.preConsumed ∧
          res.amountUsedAfter = res.amountUsedBefore) ∨
        findRecord db.records requestId = none ∧
          Charged env requestId userId now amt (activeSubs userId now db.subs) db db' res) := by
  unfold preConsumeUserSubscription at h
  split at h
  · cases h
  split at h
  · cases h
  split at h
  · cases h
  rename_i ham
  refine ⟨by omega, ?_⟩
  split at h
  · rename_i exis hex
    split at h
    · cases h
    split at h
    · cases h
    rename_i sub hs
    obtain ⟨rfl, rfl⟩ := Prod.mk.inj (Except.ok.inj h)
    have hid : sub.id = exis.userSubscriptionId := Table.get?_key hs
    exact .inl ⟨exis, hex, rfl, hid, rfl, rfl⟩
  · rename_i hn
    dsimp only at h
    split at h
    · cases h
    · refine .inr ⟨hn, consumeFirst_spec (nodup_activeSubs his) ?_ h⟩
      intro cd hca
      exact Table.get?_of_mem his (mem_activeSubs hca)

theorem refund_spec (h : refundSubscriptionPreConsume requestId now sf db = (db', oc)) :
    db' = db ∨
      ∃ record crd, findRecord db.records requestId = some record ∧
        record.status ≠ .refunded ∧
        (if record.preConsumed ≤ 0 then .ok db
          else postConsumeUserSubscriptionDelta record.userSubscriptionId
            (-record.preConsumed) db) = .ok crd ∧
        db' = if sf then crd
          else { crd with records := markRefunded requestId now crd.records } := by
  unfold refundSubscriptionPreConsume at h
  split at h
  · exact .inl (Prod.mk.inj h).1.symm
  split at h
  · exact .inl (Prod.mk.inj h).1.symm
  rename_i record hrc
  split at h
  · exact .inl (Prod.mk.inj h).1.symm
  rename_i hst
  dsimp only at h
  split at h
  · exact .inl (Prod.mk.inj h).1.symm
  rename_i crd hcr
  refine .inr ⟨record, crd, hrc, hst, hcr, ?_⟩
  split at h
  · rename_i hfl
    rw [if_pos hfl]
    exact (Prod.mk.inj h).1.symm
  · rename_i hfl
    rw [if_neg hfl]
    exact (Prod.mk.inj h).1.symm

end

end NewApi.Subscriptions
