import NewApi.Subscriptions.Ledger

/-!
# Usage in a reset period

The used amount against the requests that pre-consumed since the last reset. They agree in runs in
which a request is settled and refunded in the period in which it pre-consumed (`used_eq_usage`).
-/

namespace NewApi.Subscriptions

open Lib List Function UsageState Table

/-- What a recorded request counts for: nothing once it is refunded. -/
def requestNet (amount : String → Int) (record : PreConsumeRecord) : Int :=
  if record.status = .refunded then 0 else amount record.requestId

def requestUsage (amount : String → Int) (opened : String → Nat) (period : Nat) (id : Int)
    (record : PreConsumeRecord) : Int :=
  if record.userSubscriptionId = id ∧ opened record.requestId = period then
    requestNet amount record
  else 0

/-- The sum of the requests that pre-consumed from a subscription since its last reset. -/
def UsageState.usage (s : UsageState) (id : Int) : Int :=
  (s.db.records.map (requestUsage s.amount s.opened (s.period id) id)).sum

/-- A request is settled and refunded in the period in which it pre-consumed: a delta is for a
request that is not refunded, a refund for one without deltas, neither gives back more than was
used, and the record of a refund is saved. No record is cleaned up, and no used amount overflows. -/
def InPeriod (s : UsageState) : UsageAction → Prop
  | .preConsume _ _ _ amount =>
    Int64.InRange amount ∧ ∀ sub ∈ s.db.subs, Int64.InRange (sub.amountUsed + amount)
  | .reset _ _ => True
  | .delta requestId id delta =>
    delta = 0 ∨ ∃ record ∈ findRecord s.db.records requestId,
      record.userSubscriptionId = id ∧ record.status ≠ .refunded ∧
      s.opened requestId = s.period id ∧
      ∀ sub ∈ findSub s.db.subs id, 0 ≤ sub.amountUsed + delta ∧ sub.amountUsed + delta < 2 ^ 63
  | .refund requestId _ saveFails =>
    saveFails = false ∧ ∀ record ∈ findRecord s.db.records requestId,
      record.status = .refunded ∨
        s.opened requestId = s.period record.userSubscriptionId ∧
        s.amount requestId = record.preConsumed ∧
        ∀ sub ∈ findSub s.db.subs record.userSubscriptionId,
          record.preConsumed ≤ sub.amountUsed
  | .cleanup _ => False

/-- `InPeriod` is decidable: it looks at one record and one subscription. -/
instance (s : UsageState) (action : UsageAction) : Decidable (InPeriod s action) := by
  delta InPeriod
  split <;> infer_instance

structure PeriodInv (s : UsageState) : Prop where
  ids : (s.db.subs.map UserSubscription.id).Nodup
  requests : (s.db.records.map PreConsumeRecord.requestId).Nodup
  preConsumed : ∀ record ∈ s.db.records, 0 < record.preConsumed
  opened : ∀ record ∈ s.db.records,
    s.opened record.requestId ≤ s.period record.userSubscriptionId
  small : ∀ sub ∈ s.db.subs, sub.amountUsed < 2 ^ 63
  used : ∀ sub ∈ s.db.subs, sub.amountUsed = s.usage sub.id

variable {record rcd : PreConsumeRecord} {requestId rid : String}

section

variable {env : UsageEnv} {s : UsageState} {db db' : Tables} {records : List PreConsumeRecord}
  {amount : String → Int} {opened : String → Nat} {period : Nat} {id : Int}

theorem requestUsage_of_lt (h : opened record.requestId < period) :
    requestUsage amount opened period id record = 0 :=
  if_neg fun hcu => absurd hcu.2 (Nat.ne_of_lt h)

theorem PeriodInv.usage_nextPeriod (h : PeriodInv s) (ids : List Int) :
    (s.db.records.map (requestUsage s.amount s.opened (s.nextPeriod ids id) id)).sum =
      if id ∈ ids then 0 else s.usage id := by
  by_cases hid : id ∈ ids
  · rw [if_pos hid]
    have hz : s.db.records.map (requestUsage s.amount s.opened (s.nextPeriod ids id) id) =
        s.db.records.map fun _ => 0 := by
      refine map_congr_left fun record hrc => ?_
      by_cases how : record.userSubscriptionId = id
      · refine requestUsage_of_lt ?_
        have hop := h.opened record hrc
        rw [how] at hop
        simp only [nextPeriod, hid, if_true]
        omega
      · exact if_neg fun hcu => how hcu.1
    rw [hz]
    simp
  · rw [if_neg hid, usage]
    simp only [nextPeriod, hid, if_false]

theorem PeriodInv.small_of_change (h : PeriodInv s) {f : UserSubscription → Int} {s' : UsageState}
    (hch : UsageChange f s.db s'.db)
    (hf : ∀ sub ∈ s.db.subs, sub.amountUsed < 2 ^ 63 → f sub < 2 ^ 63) :
    ∀ sub ∈ s'.db.subs, sub.amountUsed < 2 ^ 63 := by
  intro sub' hs'
  obtain ⟨sub, hs, -, -, hus⟩ := hch.row hs' h.ids
  rw [hus]
  exact hf sub hs (h.small sub hs)

theorem resetUsed_lt {sub : UserSubscription} (ids : List Int) (h : sub.amountUsed < 2 ^ 63) :
    resetUsed ids sub < 2 ^ 63 := by
  unfold resetUsed
  split
  · decide
  · exact h

theorem deltaUsed_lt {sub : UserSubscription} (id delta : Int) (h : sub.amountUsed < 2 ^ 63) :
    deltaUsed id delta sub < 2 ^ 63 := by
  have hwrap := (Int64.inRange_wrap (sub.amountUsed + delta)).2
  unfold deltaUsed
  split <;> omega

theorem PeriodInv.used_of_change (h : PeriodInv s) {f : UserSubscription → Int} {s' : UsageState}
    (hch : UsageChange f s.db s'.db)
    (hu : ∀ sub ∈ s.db.subs, sub.amountUsed = s.usage sub.id → f sub = s'.usage sub.id) :
    ∀ sub ∈ s'.db.subs, sub.amountUsed = s'.usage sub.id := by
  intro sub' hs'
  obtain ⟨sub, hs, hid, -, hus⟩ := hch.row hs' h.ids
  rw [hus, hid]
  exact hu sub hs (h.used sub hs)

theorem PeriodInv.of_change (h : PeriodInv s) (hch : UsageChange f s.db s'.db)
    (hreq : s'.db.records.map PreConsumeRecord.requestId =
      s.db.records.map PreConsumeRecord.requestId)
    (hre : ∀ record ∈ s'.db.records, ∃ old ∈ s.db.records,
      record.requestId = old.requestId ∧ record.userSubscriptionId = old.userSubscriptionId ∧
        record.preConsumed = old.preConsumed) (hop : s'.opened = s.opened)
    (hpr : ∀ id, s.period id ≤ s'.period id)
    (hf : ∀ sub ∈ s.db.subs, sub.amountUsed < 2 ^ 63 → f sub < 2 ^ 63)
    (hu : ∀ sub ∈ s.db.subs, sub.amountUsed = s.usage sub.id → f sub = s'.usage sub.id) :
    PeriodInv s' where
  ids := hch.ids ▸ h.ids
  requests := hreq ▸ h.requests
  preConsumed := by
    intro record hrc
    obtain ⟨old, ho, -, -, hpe⟩ := hre record hrc
    exact hpe ▸ h.preConsumed old ho
  opened := by
    intro record hrc
    obtain ⟨old, ho, hrq, how, -⟩ := hre record hrc
    rw [hop, hrq, how]
    exact (h.opened old ho).trans (hpr _)
  small := h.small_of_change hch hf
  used := h.used_of_change hch hu

theorem sum_requestUsage_charged (hn : findRecord records new.requestId = none)
    (hst : new.status ≠ .refunded) :
    ((records ++ [new]).map (requestUsage (update amount new.requestId csm)
        (update opened new.requestId cur) period id)).sum =
      (records.map (requestUsage amount opened period id)).sum +
        if new.userSubscriptionId = id ∧ cur = period then csm else 0 := by
  have ho : records.map (requestUsage (update amount new.requestId csm)
      (update opened new.requestId cur) period id) =
        records.map (requestUsage amount opened period id) := by
    refine map_congr_left fun record hrc => ?_
    have hne : record.requestId ≠ new.requestId := fun heq =>
      get?_eq_none_iff.mp hn (heq ▸ mem_map_of_mem hrc)
    simp only [requestUsage, requestNet, update_of_ne hne]
  rw [map_append, sum_append, ho]
  simp [requestUsage, requestNet, hst]

section

variable (h : PeriodInv s)
include h

/-- The charge of a request adds its amount to what the subscription had after the resets. -/
theorem PeriodInv.used_charged (hok : InPeriod s (.preConsume rid uid now csm))
    (hch : Charged env rid uid now csm can s.db db' res) {sub : UserSubscription}
    (hs : sub ∈ s.db.subs) (how : sub.id = res.userSubscriptionId) :
    res.amountUsedAfter = resetUsed (resetIds env now csm can) sub + csm := by
  obtain ⟨charged, hfound, hbefore, -⟩ := hch.charged
  obtain rfl : sub = charged :=
    Option.some.inj ((get?_of_mem h.ids hs).symm.trans (how ▸ hfound))
  rw [hch.used, ← hbefore]
  refine Int64.wrap_of_inRange ?_
  unfold resetUsed
  split
  · rw [Int.zero_add]
    exact hok.1
  · exact hok.2 sub hs

theorem PeriodInv.charge (hok : InPeriod s (.preConsume rid uid now csm))
    (hn : findRecord s.db.records rid = none) (hcs : 0 < csm)
    (hch : Charged env rid uid now csm (activeSubs uid now s.db.subs) s.db db' res) :
    PeriodInv (s.afterPreConsume env rid uid now csm (db', res)) := by
  rw [afterPreConsume, if_neg (by simp [hn])]
  obtain ⟨new, hre, rfl, hnw, hpr, hst⟩ : ∃ new : PreConsumeRecord,
      db'.records = s.db.records ++ [new] ∧ new.requestId = rid ∧
        new.userSubscriptionId = res.userSubscriptionId ∧ new.preConsumed = csm ∧
        new.status ≠ .refunded :=
    ⟨_, hch.records, rfl, rfl, rfl, by simp⟩
  have hm : ∀ record ∈ db'.records, record ∈ s.db.records ∨ record = new := by
    intro record hrc
    rw [hre, mem_append, mem_singleton] at hrc
    exact hrc
  refine ⟨?_, ?_, ?_, ?_, ?_, ?_⟩
  · rw [hch.ids]
    exact h.ids
  · rw [hre]
    exact nodup_append_row h.requests (get?_eq_none_iff.mp hn)
  · intro record hrc
    rcases hm record hrc with ho | rfl
    · exact h.preConsumed record ho
    · exact hpr ▸ hcs
  · intro record hrc
    rcases hm record hrc with ho | rfl
    · -- the request of an older record is another one
      have hop := h.opened record ho
      have hne : record.requestId ≠ new.requestId := fun heq =>
        get?_eq_none_iff.mp hn (heq ▸ mem_map_of_mem ho)
      simp only [update_of_ne hne, nextPeriod]
      split <;> omega
    · simp [hnw]
  · refine h.small_of_change hch.change fun sub hs hlt => ?_
    split
    · rw [hch.used]
      exact (Int64.inRange_wrap _).2
    · exact resetUsed_lt _ hlt
  · refine h.used_of_change hch.change fun sub hs hu => ?_
    rw [usage]
    rw [hre, sum_requestUsage_charged hn hst, h.usage_nextPeriod, hnw]
    by_cases how : sub.id = res.userSubscriptionId
    · rw [if_pos how, h.used_charged hok hch hs how, resetUsed, hu]
      simp [how]
    · simp [resetUsed, hu, how, Ne.symm how]

theorem PeriodInv.preConsume (hok : InPeriod s (.preConsume rid uid now csm)) :
    PeriodInv (usageStep env s (.preConsume rid uid now csm)) := by
  simp only [usageStep]
  split
  · exact h
  rename_i oc hpre
  obtain ⟨db', res⟩ := oc
  obtain ⟨hcs, ⟨record, hre, rfl, -⟩ | ⟨hn, hch⟩⟩ := preConsume_spec h.ids hpre
  · rw [afterPreConsume, if_pos (by simp [hre])]
    exact h
  · exact h.charge hok hn hcs hch

theorem PeriodInv.usage_update (hrc : record ∈ s.db.records) (hst : record.status ≠ .refunded)
    (hop : s.opened record.requestId = s.period record.userSubscriptionId) :
    (s.db.records.map (requestUsage (update s.amount record.requestId
      (s.amount record.requestId + d)) s.opened (s.period id) id)).sum =
      s.usage id + if record.userSubscriptionId = id then d else 0 := by
  rw [sum_map_of_key (f := requestUsage s.amount s.opened (s.period id) id) h.requests hrc, usage]
  · by_cases how : record.userSubscriptionId = id
    · subst how
      simp [requestUsage, requestNet, hst, hop]
      omega
    · simp [requestUsage, how]
  · intro other _ hne
    simp only [requestUsage, requestNet, update_of_ne hne]

theorem PeriodInv.delta (hok : InPeriod s (.delta rid id d)) :
    PeriodInv (usageStep env s (.delta rid id d)) := by
  simp only [usageStep]
  split
  · exact h
  rename_i db' hpo
  obtain ⟨hre, hch, -⟩ := postConsume_change hpo
  refine h.of_change hch (congrArg _ hre) (fun record hrc => ?_) rfl
    (fun _ => Nat.le_refl _) (fun sub _ => deltaUsed_lt id d) fun sub hs hu => ?_
  · exact ⟨record, hre ▸ hrc, rfl, rfl, rfl⟩
  rcases hok with rfl | ⟨record, hf, rfl, hst, hop, hus⟩
  · simp [deltaUsed, usage, hre, hu]
  obtain rfl : record.requestId = rid := get?_key hf
  have hr := hus sub
  rw [usage, hre, h.usage_update (get?_mem hf) hst hop, ← hu]
  by_cases how : sub.id = record.userSubscriptionId
  · have hno := hr (how ▸ get?_of_mem h.ids hs)
    by_cases hz : d = 0
    · simp [deltaUsed, hz]
    · rw [deltaUsed, if_pos ⟨how, hz⟩, if_pos how.symm,
        Int64.wrap_of_inRange (by constructor <;> omega)]
      omega
  · rw [deltaUsed, if_neg fun hse => how hse.1, if_neg (Ne.symm how)]
    omega

theorem PeriodInv.usage_markRefunded (hrc : record ∈ s.db.records) (hst : record.status ≠ .refunded)
    (hop : s.opened record.requestId = s.period record.userSubscriptionId) :
    ((markRefunded record.requestId now s.db.records).map
      (requestUsage s.amount s.opened (s.period id) id)).sum =
      s.usage id - if record.userSubscriptionId = id then s.amount record.requestId else 0 := by
  rw [markRefunded, Table.updateWhere, map_map, sum_map_of_key
    (f := requestUsage s.amount s.opened (s.period id) id) h.requests hrc, usage]
  · by_cases how : record.userSubscriptionId = id
    · subst how
      simp [requestUsage, requestNet, hst, hop]
    · simp [requestUsage, how]
  · intro other _ hne
    simp [hne]

theorem PeriodInv.refund (hok : InPeriod s (.refund rid now sf)) :
    PeriodInv (usageStep env s (.refund rid now sf)) := by
  obtain ⟨rfl, hpr⟩ := hok
  simp only [usageStep]
  cases hrf : refundSubscriptionPreConsume rid now false s.db with
  | mk db' oc =>
    rcases refund_change hrf with rfl | ⟨rcd, hf, hst, hre, hch, -⟩
    · exact h
    obtain ⟨hop, ham, hus⟩ := (hpr rcd hf).resolve_left hst
    obtain rfl : rcd.requestId = rid := get?_key hf
    have hm := get?_mem hf
    have hpe := h.preConsumed rcd hm
    rw [if_neg (by decide)] at hre
    refine h.of_change hch ?_ (fun row hr => ?_) rfl (fun _ => Nat.le_refl _)
      (fun sub _ => deltaUsed_lt _ _) fun sub hs hu => ?_
    · exact (congrArg _ hre).trans (map_requestId_markRefunded)
    · -- every record after the refund is an old one with another status
      obtain ⟨old, ho, rfl⟩ := mem_updateWhere.mp (hre ▸ hr)
      refine ⟨old, ho, ?_⟩
      split <;> exact ⟨rfl, rfl, rfl⟩
    rw [usage, hre, h.usage_markRefunded hm hst hop, ← hu, ham]
    by_cases how : sub.id = rcd.userSubscriptionId
    · have hle := hus sub (how ▸ get?_of_mem h.ids hs)
      have hlt := h.small sub hs
      rw [deltaUsed, if_pos ⟨how, by omega⟩, if_pos how.symm,
        Int64.wrap_of_inRange (by constructor <;> omega)]
      omega
    · rw [deltaUsed, if_neg fun hse => how hse.1, if_neg (Ne.symm how)]
      omega

theorem PeriodInv.reset (id now : Int) : PeriodInv (usageStep env s (.reset id now)) := by
  simp only [usageStep]
  split
  · exact h
  rename_i db' hr
  obtain ⟨hre, hch⟩ := resetDue_change hr
  refine h.of_change hch (congrArg _ hre) (fun record hrc => ?_) rfl
    (fun other => ?_) (fun sub _ => resetUsed_lt _) fun sub hs hu => ?_
  · exact ⟨record, hre ▸ hrc, rfl, rfl, rfl⟩
  · show s.period other ≤ s.nextPeriod _ other
    unfold nextPeriod
    split <;> omega
  · rw [usage]
    rw [hre, h.usage_nextPeriod, resetUsed, hu]

theorem PeriodInv.step (hok : InPeriod s act) : PeriodInv (usageStep env s act) := by
  cases act with
  | preConsume requestId uid now csm => exact h.preConsume hok
  | delta requestId id d => exact h.delta hok
  | refund requestId now sf => exact h.refund hok
  | reset id now => exact h.reset id now
  | cleanup cut => exact hok.elim

end

/-- From unused subscriptions, after any run in which every request is settled and refunded in its
period, the used amount of a subscription is the sum of the requests that pre-consumed since its
last reset. -/
theorem used_eq_usage {final : UsageState} {actions : List UsageAction}
    (hids : (db.subs.map UserSubscription.id).Nodup) (hunused : ∀ sub ∈ db.subs, sub.amountUsed = 0)
    (hrecords : db.records = []) (hok : (usageSystem env).Guarded InPeriod (.start db) actions)
    (hrun : (usageSystem env).run (.start db) actions = some final) :
    ∀ sub ∈ final.db.subs, sub.amountUsed = final.usage sub.id := by
  have hin : PeriodInv (.start db) := by
    refine ⟨hids, ?_, ?_, ?_, ?_, ?_⟩ <;> simp only [start, hrecords]
    · exact nodup_nil
    · exact fun record hre => by cases hre
    · exact fun record hre => by cases hre
    · intro sub hsu
      rw [hunused sub hsu]
      decide
    · intro sub hsu
      simp [usage, hrecords, hunused sub hsu]
  have hs : ∀ s action next, PeriodInv s → InPeriod s action →
      (usageSystem env).step s action = some next → PeriodInv next := by
    intro s action next hi hok hx
    cases hx
    exact hi.step hok
  exact ((usageSystem env).guarded_run_preserves PeriodInv hs hin hok hrun).used

end

def periodOutcome (actions : List UsageAction) : Option (List Int × Int) :=
  ((usageSystem periodEnv).run (.start periodTables) actions).map fun final =>
    (final.db.subs.map UserSubscription.amountUsed, final.usage 1)

def requestsInPeriod : List UsageAction :=
  [.preConsume "r1" 7 1000 10, .delta "r1" 1 5, .reset 1 1100, .preConsume "r2" 7 1150 7,
    .preConsume "r3" 7 1160 4, .refund "r3" 1170 false]

/-- The other one is what the subscription has used. -/
theorem requestsInPeriod_used :
    ∃ final, (usageSystem periodEnv).run (.start periodTables) requestsInPeriod = some final ∧
      (∀ sub ∈ final.db.subs, sub.amountUsed = final.usage sub.id) ∧ final.usage 1 = 7 := by
  refine ⟨_, rfl, ?_, by decide +kernel⟩
  exact @used_eq_usage periodEnv periodTables _ requestsInPeriod (by decide) (by decide) rfl
    (by decide +kernel) rfl

/-- A request pre-consumes 10, the subscription is reset, another request pre-consumes 7. A refund
of the first one sets the used amount to 0, and a settlement of it with 4 less to 3. -/
theorem late_refund_lowers_usage :
    periodOutcome [.preConsume "r1" 7 1000 10, .reset 1 1100, .preConsume "r2" 7 1150 7,
      .refund "r1" 1160 false] = some ([0], 7) ∧
    periodOutcome [.preConsume "r1" 7 1000 10, .reset 1 1100, .preConsume "r2" 7 1150 7,
      .delta "r1" 1 (-4)] = some ([3], 7) := by
  decide +kernel

end NewApi.Subscriptions
