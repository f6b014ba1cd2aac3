import NewApi.Subscriptions.Ledger

/-!
# Bounds of the used amount

Whatever transactions run, the used amount of a limited subscription stays between zero and its
total, and a request debits one subscription once as long as its record is kept.
-/

namespace NewApi.Subscriptions

open Lib List UsageState

def UserSubscription.WithinTotal (sub : UserSubscription) : Prop :=
  sub.amountTotal > 0 → 0 ≤ sub.amountUsed ∧ sub.amountUsed ≤ sub.amountTotal
  deriving Decidable

/-- How often a request has debited a subscription since its record was last cleaned up. -/
def UsageState.debitCount (s : UsageState) (requestId : String) : Nat :=
  (s.debits.map Prod.fst).count requestId

structure BoundsInv (s : UsageState) : Prop where
  ids : (s.db.subs.map UserSubscription.id).Nodup
  bounds : ∀ sub ∈ s.db.subs, sub.WithinTotal
  once : (s.debits.map Prod.fst).Nodup
  recorded : ∀ debit ∈ s.debits, debit.1 ∈ s.db.records.map PreConsumeRecord.requestId

section

variable {env : UsageEnv} {s : UsageState} {db db' : Tables}

theorem resetUsed_bounds (hto : sub.amountTotal > 0)
    (hno : 0 ≤ sub.amountUsed) (hle : sub.amountUsed ≤ sub.amountTotal) :
    0 ≤ resetUsed ids sub ∧ resetUsed ids sub ≤ sub.amountTotal := by
  unfold resetUsed
  split
  · exact ⟨Int.le_refl 0, Int.le_of_lt hto⟩
  · exact ⟨hno, hle⟩

theorem deltaUsed_bounds {id d : Int} (hid : (db.subs.map UserSubscription.id).Nodup)
    (hfi : ∀ sub, findSub db.subs id = some sub → d ≠ 0 → sub.amountTotal > 0 →
      deltaUsed id d sub ≤ sub.amountTotal) {sub : UserSubscription} (hs : sub ∈ db.subs)
    (hto : sub.amountTotal > 0) (hno : 0 ≤ sub.amountUsed)
    (hle : sub.amountUsed ≤ sub.amountTotal) :
    0 ≤ deltaUsed id d sub ∧ deltaUsed id d sub ≤ sub.amountTotal := by
  by_cases hch : sub.id = id ∧ d ≠ 0
  · refine ⟨?_, hfi sub (hch.1 ▸ Table.get?_of_mem hid hs) hch.2 hto⟩
    rw [deltaUsed, if_pos hch]
    omega
  · rw [deltaUsed, if_neg hch]
    exact ⟨hno, hle⟩

theorem Charged.withinTotal (h : Charged env rid uid now amt can db db' res) (ham : 0 < amt)
    (his : (db.subs.map UserSubscription.id).Nodup) (hbo : ∀ sub ∈ db.subs, sub.WithinTotal) :
    ∀ sub ∈ db'.subs, sub.WithinTotal := by
  intro sub' hs' hto'
  obtain ⟨sub, hs, hid, hto, hus⟩ := h.change.row hs' his
  rw [hto] at hto'
  obtain ⟨hno, hle⟩ := hbo sub hs hto'
  have hr := @resetUsed_bounds (resetIds env now amt can) sub hto' hno hle
  rw [hus]
  by_cases how : sub.id = res.userSubscriptionId
  · obtain ⟨charged, hch, hbe, hfi⟩ := h.charged
    have hse : findSub db.subs res.userSubscriptionId = some sub :=
      how ▸ Table.get?_of_mem his hs
    obtain rfl : sub = charged := Option.some.inj (hse.symm.trans hch)
    have hle := hfi hto'
    have hlt := sub.amountTotal_lt
    rw [if_pos how, h.used, ← hbe, Int64.wrap_of_inRange (by constructor <;> omega)]
    omega
  · rw [if_neg how]
    omega

section

variable (h : BoundsInv s)
include h

theorem BoundsInv.of_change (hch : UsageChange f s.db s'.db) (hde : s'.debits = s.debits)
    (hre : s'.db.records.map PreConsumeRecord.requestId =
      s.db.records.map PreConsumeRecord.requestId)
    (hf : ∀ sub ∈ s.db.subs, sub.amountTotal > 0 → 0 ≤ sub.amountUsed →
      sub.amountUsed ≤ sub.amountTotal → 0 ≤ f sub ∧ f sub ≤ sub.amountTotal) : BoundsInv s' where
  ids := hch.ids ▸ h.ids
  bounds := by
    intro sub' hs' hto'
    obtain ⟨sub, hs, -, hto, hus⟩ := hch.row hs' h.ids
    rw [hto] at hto'
    obtain ⟨hno, hle⟩ := h.bounds sub hs hto'
    rw [hus, hto]
    exact hf sub hs hto' hno hle
  once := hde ▸ h.once
  recorded := by
    rw [hde, hre]
    exact h.recorded

theorem BoundsInv.preConsume (rid : String) (uid now amt : Int) :
    BoundsInv (usageStep env s (.preConsume rid uid now amt)) := by
  simp only [usageStep]
  split
  · exact h
  rename_i oc hok
  obtain ⟨db', res⟩ := oc
  obtain ⟨ham, ⟨record, hre, rfl, -⟩ | ⟨hn, hch⟩⟩ := preConsume_spec h.ids hok
  · rw [afterPreConsume, if_pos (by simp [hre])]
    exact h
  rw [afterPreConsume, if_neg (by simp [hn])]
  refine ⟨hch.ids ▸ h.ids, hch.withinTotal ham h.ids h.bounds, ?_, ?_⟩
  · -- the request had no record, and so no debit
    refine Table.nodup_append_row h.once fun hde => ?_
    obtain ⟨deb, hm, heq⟩ := mem_map.mp hde
    refine Table.get?_eq_none_iff.mp hn ?_
    rw [← show deb.1 = rid from heq]
    exact h.recorded deb hm
  intro deb hde
  rw [hch.records, map_append, mem_append]
  rcases mem_append.mp hde with ho | hne
  · exact .inl (h.recorded deb ho)
  · rw [mem_singleton.mp hne]
    exact .inr (by simp)

theorem BoundsInv.delta (rid : String) (id d : Int) :
    BoundsInv (usageStep env s (.delta rid id d)) := by
  simp only [usageStep]
  split
  · exact h
  rename_i db' hpo
  obtain ⟨hre, hch, hfi⟩ := postConsume_change hpo
  exact h.of_change hch rfl (congrArg _ hre) fun sub hs => deltaUsed_bounds h.ids hfi hs

theorem BoundsInv.refund (rid : String) (now : Int) (sf : Bool) :
    BoundsInv (usageStep env s (.refund rid now sf)) := by
  simp only [usageStep]
  cases hrf : refundSubscriptionPreConsume rid now sf s.db with
  | mk db' oc =>
    rcases refund_change hrf with rfl | ⟨record, -, -, hre, hch, hfi⟩
    · exact h
    refine h.of_change hch rfl ?_ fun sub hs => deltaUsed_bounds h.ids ?_ hs
    · rw [hre]
      split
      · rfl
      · exact map_requestId_markRefunded
    · intro row hr hd
      exact hfi row hr (by omega)

theorem BoundsInv.reset (id now : Int) : BoundsInv (usageStep env s (.reset id now)) := by
  simp only [usageStep]
  split
  · exact h
  rename_i db' hr
  obtain ⟨hre, hch⟩ := resetDue_change hr
  exact h.of_change hch rfl (congrArg _ hre) fun _ _ => resetUsed_bounds

theorem BoundsInv.cleanup (cut : Int) : BoundsInv (usageStep env s (.cleanup cut)) := by
  refine ⟨h.ids, h.bounds, h.once.sublist (filter_sublist.map _), ?_⟩
  intro deb hde
  exact Table.isSome_get?_iff.mp (mem_filter.mp hde).2

theorem BoundsInv.step (act : UsageAction) : BoundsInv (usageStep env s act) := by
  cases act with
  | preConsume rid uid now amt => exact h.preConsume rid uid now amt
  | delta rid id d => exact h.delta rid id d
  | refund rid now sf => exact h.refund rid now sf
  | reset id now => exact h.reset id now
  | cleanup cut => exact h.cleanup cut

theorem BoundsInv.preConsume_debits (amt : Int)
    (hs' : sub' ∈ (usageStep env s (.preConsume rid uid now amt)).db.subs) :
    ∃ sub ∈ s.db.subs, sub.id = sub'.id ∧
      (sub'.amountUsed = sub.amountUsed ∨ sub'.amountUsed = 0 ∨
        (usageStep env s (.preConsume rid uid now amt)).debits = s.debits ++ [(rid, sub.id)]) := by
  simp only [usageStep] at hs' ⊢
  split at hs'
  · exact ⟨sub', hs', rfl, .inl rfl⟩
  rename_i oc hok
  obtain ⟨db', res⟩ := oc
  obtain ⟨-, ⟨record, hre, rfl, -⟩ | ⟨hn, hch⟩⟩ := preConsume_spec h.ids hok
  · rw [afterPreConsume, if_pos (by simp [hre])] at hs'
    exact ⟨sub', hs', rfl, .inl rfl⟩
  rw [afterPreConsume, if_neg (by simp [hn])] at hs' ⊢
  obtain ⟨sub, hsu, hid, -, hr⟩ := hch.change.row hs' h.ids
  refine ⟨sub, hsu, hid.symm, ?_⟩
  by_cases how : sub.id = res.userSubscriptionId
  · exact .inr (.inr (by rw [how]))
  rw [if_neg how, resetUsed] at hr
  split at hr
  · exact .inr (.inl hr)
  · exact .inl hr

end

/-- From subscriptions within their totals, after any run of transactions: every limited
subscription is within its total; a request has debited at most one subscription, once, since its
record was last cleaned up; and a further pre-consumption changes no used amount that it does not
reset or add to the debits. -/
theorem usage_bounded {final : UsageState} {actions : List UsageAction}
    (hids : (db.subs.map UserSubscription.id).Nodup) (hbounds : ∀ sub ∈ db.subs, sub.WithinTotal)
    (hrun : (usageSystem env).run (.start db) actions = some final) :
    (∀ sub ∈ final.db.subs, sub.WithinTotal) ∧
      (∀ requestId, final.debitCount requestId ≤ 1) ∧
      ∀ requestId userId now amount,
        ∀ sub' ∈ (usageStep env final (.preConsume requestId userId now amount)).db.subs,
          ∃ sub ∈ final.db.subs, sub.id = sub'.id ∧
            (sub'.amountUsed = sub.amountUsed ∨ sub'.amountUsed = 0 ∨
              (usageStep env final (.preConsume requestId userId now amount)).debits =
                final.debits ++ [(requestId, sub.id)]) := by
  have hin : BoundsInv (.start db) :=
    ⟨hids, hbounds, nodup_nil, fun debit hde => by cases hde⟩
  have hs : ∀ s action next, BoundsInv s → (usageSystem env).step s action = some next →
      BoundsInv next := by
    intro s action next hi hx
    cases hx
    exact hi.step action
  have hfi := (usageSystem env).run_preserves BoundsInv hs hin hrun
  refine ⟨hfi.bounds, nodup_iff_count_le_one.mp hfi.once, ?_⟩
  intro requestId userId now amount sub' hs'
  exact hfi.preConsume_debits amount hs'

end

/-- A request that is repeated, settled with too much and with too little, and refunded without its
record being saved, with a reset in between. -/
def repeatedRequest : List UsageAction :=
  [.preConsume "r1" 7 1000 30, .preConsume "r1" 7 1001 30, .delta "r1" 1 100, .delta "r1" 1 (-40),
    .reset 1 1100, .preConsume "r1" 7 1110 30, .preConsume "r2" 7 1120 50,
    .refund "r1" 1130 true]

/-- It has debited the subscription once, which is within its total of 50. -/
theorem repeatedRequest_bounded :
    ∃ final, (usageSystem periodEnv).run (.start periodTables) repeatedRequest = some final ∧
      (∀ sub ∈ final.db.subs, sub.WithinTotal) ∧ final.debitCount "r1" ≤ 1 ∧
      final.debits = [("r1", 1), ("r2", 1)] := by
  refine ⟨_, rfl, ?_⟩
  obtain ⟨hbo, hon, -⟩ := @usage_bounded periodEnv periodTables _ repeatedRequest (by decide)
    (by decide) rfl
  exact ⟨hbo, hon "r1", by decide +kernel⟩

end NewApi.Subscriptions
