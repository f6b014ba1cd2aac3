import NewApi.Subscriptions.Usage

/-!
# Retried refunds of a pre-consumption

`SubscriptionFunding.Refund` calls `RefundSubscriptionPreConsume` up to three times. The delta that
gives the amount back is a transaction of its own: when the record cannot be saved afterwards, the
next attempt gives the amount back again. `refunded_once_iff` says for which fault points it does.
-/

namespace NewApi.Subscriptions

open Lib UserSubscription

/-- The statement or commit of an attempt that fails. -/
inductive FaultPoint where
  | beginTx
  | readRecord
  | deltaBegin
  | readSub
  | saveSub
  | deltaCommit
  | saveRecord
  | commitTx
  deriving DecidableEq, Repr

/-- The fault comes after the inner transaction is committed. -/
def FaultPoint.late : FaultPoint → Bool
  | .saveRecord | .commitTx => true
  | .beginTx | .readRecord | .deltaBegin | .readSub | .saveSub | .deltaCommit => false

/-- `PostConsumeUserSubscriptionDelta` with a failing statement. -/
def postConsumeDeltaWithFault (userSubscriptionId delta : Int) (fault : Option FaultPoint)
    (db : Tables) : Except UsageError Tables :=
  if userSubscriptionId ≤ 0 then .error .invalidUserSubscriptionId
  else if delta = 0 then .ok db
  else if fault = some .deltaBegin ∨ fault = some .readSub then .error .database
  else
    match postConsumeUserSubscriptionDelta userSubscriptionId delta db with
    | .error e => .error e
    | .ok db' =>
      if fault = some .saveSub ∨ fault = some .deltaCommit then .error .database else .ok db'

/-- `RefundSubscriptionPreConsume` with a failing statement. -/
def refundAttempt (requestId : String) (now : Int) (fault : Option FaultPoint) (db : Tables) :
    Tables × Except UsageError Unit :=
  if trimSpace requestId = "" then (db, .error .requestIdEmpty)
  else if fault = some .beginTx ∨ fault = some .readRecord then (db, .error .database)
  else
    match findRecord db.records requestId with
    | none => (db, .error .notFound)
    | some record =>
      if record.status = .refunded then
        (db, if fault = some .commitTx then .error .database else .ok ())
      else
        let credited :=
          if record.preConsumed ≤ 0 then .ok db
          else postConsumeDeltaWithFault record.userSubscriptionId (-record.preConsumed) fault db
        match credited with
        | .error e => (db, .error e)
        | .ok db' =>
          if fault.any FaultPoint.late then (db', .error .database)
          else ({ db' with records := markRefunded requestId now db'.records }, .ok ())

/-! ## Calls of `Refund` -/

/-- The tables, and whether an attempt has returned without an error. -/
structure RefundState where
  db : Tables
  succeeded : Bool := false

/-- The time of an attempt and its fault. -/
abbrev Attempt : Type := Int × Option FaultPoint

def RefundState.attempt (requestId : String) (s : RefundState) (attempt : Attempt) :
    RefundState × Except UsageError Unit :=
  let result := refundAttempt requestId attempt.1 attempt.2 s.db
  ({ db := result.1, succeeded := s.succeeded || result.2.isOk }, result.2)

/-- The loop of `refundWithRetry`, before its `i`-th attempt with some attempts left. -/
def refundLoop (fn : Nat → RefundState → RefundState × Except UsageError Unit) :
    Nat → Nat → RefundState → RefundState × Except UsageError Unit
  | 0, _, s => (s, .ok ())
  | remaining + 1, i, s =>
    match fn i s with
    | (next, .ok _) => (next, .ok ())
    | (next, .error e) =>
      if remaining = 0 then (next, .error e) else refundLoop fn remaining (i + 1) next

def refundWithRetry (fn : Nat → RefundState → RefundState × Except UsageError Unit)
    (s : RefundState) : RefundState × Except UsageError Unit :=
  refundLoop fn 3 0 s

/-- `SubscriptionFunding.Refund`, for what was pre-consumed and the attempts as they turn out. -/
def subscriptionRefund (requestId : String) (preConsumed : Int) (attempts : Nat → Attempt)
    (s : RefundState) : RefundState × Except UsageError Unit :=
  if preConsumed ≤ 0 then (s, .ok ())
  else refundWithRetry (fun i s => s.attempt requestId (attempts i)) s

/-- Repeated calls of `Refund`. -/
def refundCalls (requestId : String) (preConsumed : Int) (calls : List (Nat → Attempt))
    (s : RefundState) : RefundState :=
  calls.foldl (fun s attempts => (subscriptionRefund requestId preConsumed attempts s).1) s

def Tables.usedOf (db : Tables) (id : Int) : Option Int :=
  (findSub db.subs id).map UserSubscription.amountUsed

/-! ## How often the faults let an amount be given back -/

/-- The faults of the attempts that calls can make, in order. -/
def faultsOf (calls : List (Nat → Attempt)) : List (Option FaultPoint) :=
  calls.flatMap fun attempts => [0, 1, 2].map fun i => (attempts i).2

/-- The attempts that give an amount back: the first one without a fault, and those before it that
fail late. -/
def credits : List (Option FaultPoint) → Nat
  | [] => 0
  | none :: _ => 1
  | some point :: rest => point.late.toNat + credits rest

theorem credits_append (first second : List (Option FaultPoint)) :
    credits (first ++ second) =
      if none ∈ first then credits first else credits first + credits second := by
  induction first with
  | nil => simp [credits]
  | cons fault rest ih =>
    cases fault with
    | none => simp [credits]
    | some point =>
      simp only [List.cons_append, credits, ih, List.mem_cons, reduceCtorEq, false_or]
      split <;> omega

theorem credits_pos {faults : List (Option FaultPoint)} (h : none ∈ faults) :
    credits faults ≠ 0 := by
  induction faults with
  | nil => cases h
  | cons fault rest ih =>
    cases fault with
    | none => exact Nat.one_ne_zero
    | some point =>
      have hrest := ih (by simpa using h)
      simp only [credits]
      omega

/-- What is left of a used amount when an amount is given back a number of times. -/
def usedAfter (used amount : Int) (count : Nat) : Int :=
  if count = 0 then used else max (used - count * amount) 0

theorem usedAfter_succ {used amount : Int} (count : Nat) (h : 0 ≤ amount) :
    usedAfter used amount (count + 1) = max (usedAfter used amount count - amount) 0 := by
  unfold usedAfter
  rw [if_neg (Nat.succ_ne_zero count), Int.natCast_succ, Int.add_mul, Int.one_mul]
  split
  next hzero =>
    rw [hzero, Int.natCast_zero, Int.zero_mul, Int.zero_add]
  next => omega

theorem usedAfter_bounds {used amount : Int} (count : Nat) (hused : 0 ≤ used)
    (hamount : 0 ≤ amount) :
    0 ≤ usedAfter used amount count ∧ usedAfter used amount count ≤ used := by
  have hmul : 0 ≤ (count : Int) * amount := Int.mul_nonneg (Int.natCast_nonneg count) hamount
  unfold usedAfter
  split <;> omega

/-! ## What an attempt does -/

/-- A record with a positive amount, of a subscription that is in the table with a used amount that
is not negative and within its total. -/
structure Refundable (record : PreConsumeRecord) (sub : UserSubscription) : Prop where
  request : trimSpace record.requestId ≠ ""
  id_pos : 0 < record.userSubscriptionId
  positive : 0 < record.preConsumed
  small : record.preConsumed < 2 ^ 63
  used : 0 ≤ sub.amountUsed ∧ sub.amountUsed < 2 ^ 63
  fits : sub.amountTotal > 0 → sub.amountUsed ≤ sub.amountTotal

/-- The record is refunded just if an attempt has succeeded, and the subscription has the used
amount that a number of credits leave. -/
structure Refunding (record : PreConsumeRecord) (sub : UserSubscription) (count : Nat)
    (s : RefundState) : Prop where
  row : ∃ row, findRecord s.db.records record.requestId = some row ∧
    row.preConsumed = record.preConsumed ∧
    row.userSubscriptionId = record.userSubscriptionId ∧
    (row.status = .refunded ↔ s.succeeded = true)
  used : ∃ row, findSub s.db.subs record.userSubscriptionId = some row ∧
    row.amountTotal = sub.amountTotal ∧
    row.amountUsed = usedAfter sub.amountUsed record.preConsumed count

theorem findRecord_markRefunded {requestId : String} {now : Int}
    {records : List PreConsumeRecord} :
    findRecord (markRefunded requestId now records) requestId =
      (findRecord records requestId).map fun record =>
        { record with status := .refunded, updatedAt := now } := by
  refine (Table.get?_updateWhere ?_).trans ?_
  · intro record _
    rfl
  · refine Option.map_congr fun record hrecord => ?_
    rw [if_pos (decide_eq_true (Table.get?_key hrecord))]

section

variable {record : PreConsumeRecord} {sub : UserSubscription} {count : Nat} {s : RefundState}

/-- The inner transaction gives the amount back. -/
theorem Refunding.credit (h : Refunding record sub count s) (hrecord : Refundable record sub) :
    ∃ db, postConsumeUserSubscriptionDelta record.userSubscriptionId (-record.preConsumed) s.db =
        .ok db ∧ db.records = s.db.records ∧
      ∃ row, findSub db.subs record.userSubscriptionId = some row ∧
        row.amountTotal = sub.amountTotal ∧
        row.amountUsed = usedAfter sub.amountUsed record.preConsumed (count + 1) := by
  obtain ⟨row, hrow, htotal, hused⟩ := h.used
  have hbounds := usedAfter_bounds count hrecord.used.1 hrecord.positive.le
  have hpos := hrecord.positive
  have hsmall := hrecord.small
  have hlt := hrecord.used.2
  have hfits := hrecord.fits
  refine ⟨_, postConsume_credit hrecord.id_pos hrow hpos ?_ ?_, rfl, ?_⟩
  · constructor <;> omega
  · omega
  · refine ⟨row.withUsed (max (row.amountUsed - record.preConsumed) 0), ?_, htotal, ?_⟩
    · have hid : row.id = record.userSubscriptionId := Table.get?_key hrow
      have hsaved := findSub_saveSub_self
        (show findSub s.db.subs (row.withUsed (max (row.amountUsed - record.preConsumed) 0)).id =
          some row by rw [withUsed_id, hid, hrow])
      rwa [withUsed_id, hid] at hsaved
    · rw [withUsed_amountUsed, usedAfter_succ count hpos.le, hused]

/-- Once an attempt has succeeded, the others change nothing. -/
theorem Refunding.attempt_of_succeeded (h : Refunding record sub count s)
    (hsucceeded : s.succeeded = true) (attempt : Attempt) :
    (s.attempt record.requestId attempt).1 = s := by
  obtain ⟨row, hrow, -, -, hstatus⟩ := h.row
  have hdb : (refundAttempt record.requestId attempt.1 attempt.2 s.db).1 = s.db := by
    unfold refundAttempt
    split
    · rfl
    split
    · rfl
    · simp only [hrow, hstatus.mpr hsucceeded, if_true]
  simp only [RefundState.attempt, hdb, hsucceeded, Bool.true_or]
  cases s
  cases hsucceeded
  rfl

/-- Before that, an attempt without a fault gives the amount back and succeeds; one with a fault
fails, and gives it back just if the fault is late. -/
theorem Refunding.attempt (h : Refunding record sub count s) (hrecord : Refundable record sub)
    (hopen : s.succeeded = false) (now : Int) (fault : Option FaultPoint) :
    Refunding record sub (count + credits [fault]) (s.attempt record.requestId (now, fault)).1 ∧
      (s.attempt record.requestId (now, fault)).1.succeeded = fault.isNone ∧
      (s.attempt record.requestId (now, fault)).2.isOk = fault.isNone := by
  obtain ⟨row, hrow, hamount, hid, hstatus⟩ := h.row
  obtain ⟨db, hdelta, hrecords, hused⟩ := h.credit hrecord
  have hconsumed : row.status ≠ .refunded := fun hrefunded => by simp [hopen, hstatus] at hrefunded
  have hpos : ¬record.preConsumed ≤ 0 := not_le.mpr hrecord.positive
  have hidPos : ¬record.userSubscriptionId ≤ 0 := not_le.mpr hrecord.id_pos
  have hnonzero : ¬-record.preConsumed = 0 := by have := hrecord.positive; omega
  have hkept : Refunding record sub count { db := s.db, succeeded := false } :=
    ⟨⟨row, hrow, hamount, hid, by simpa [hopen] using hstatus⟩, h.used⟩
  have hlate : Refunding record sub (count + 1) { db, succeeded := false } :=
    ⟨⟨row, hrecords ▸ hrow, hamount, hid, iff_of_false hconsumed Bool.false_ne_true⟩, hused⟩
  have hdone : Refunding record sub (count + 1)
      { db := { db with records := markRefunded record.requestId now db.records }
        succeeded := true } := by
    refine ⟨⟨{ row with status := .refunded, updatedAt := now }, ?_, hamount, hid,
      iff_of_true rfl rfl⟩, hused⟩
    rw [hrecords, findRecord_markRefunded, hrow, Option.map_some]
  unfold RefundState.attempt refundAttempt postConsumeDeltaWithFault
  simp only [hrecord.request, hrow, hconsumed, hamount, hid, hpos, hidPos, hnonzero, hdelta, hopen,
    if_false]
  cases fault with
  | none => exact ⟨hdone, rfl, rfl⟩
  | some point =>
    cases point with
    | beginTx | readRecord | deltaBegin | readSub | saveSub | deltaCommit => exact ⟨hkept, rfl, rfl⟩
    | saveRecord | commitTx => exact ⟨hlate, rfl, rfl⟩

/-! ## What calls of `Refund` do -/

theorem Refunding.loop_of_succeeded (h : Refunding record sub count s)
    (hsucceeded : s.succeeded = true) (attempts : Nat → Attempt) (remaining i : Nat) :
    (refundLoop (fun i s => s.attempt record.requestId (attempts i)) remaining i s).1 = s := by
  induction remaining generalizing i with
  | zero => rfl
  | succ remaining ih =>
    have hsame := h.attempt_of_succeeded hsucceeded (attempts i)
    unfold refundLoop
    generalize s.attempt record.requestId (attempts i) = result at hsame
    obtain ⟨next, e | _⟩ := result
    · subst hsame
      dsimp only
      split
      · rfl
      · exact ih (i + 1)
    · exact hsame

theorem Refunding.loop (h : Refunding record sub count s) (hrecord : Refundable record sub)
    (hopen : s.succeeded = false) (attempts : Nat → Attempt) (remaining i : Nat) :
    let faults := (List.range' i remaining).map fun j => (attempts j).2
    let final := (refundLoop (fun i s => s.attempt record.requestId (attempts i)) remaining i s).1
    Refunding record sub (count + credits faults) final ∧
      (final.succeeded = true ↔ none ∈ faults) := by
  induction remaining generalizing i count s with
  | zero => exact ⟨h, by simp [refundLoop, hopen]⟩
  | succ remaining ih =>
    obtain ⟨hnext, hsucceeded, hok⟩ := h.attempt hrecord hopen (attempts i).1 (attempts i).2
    rw [List.range'_succ, List.map_cons]
    unfold refundLoop
    generalize s.attempt record.requestId (attempts i) = result at hnext hsucceeded hok
    obtain ⟨next, e | _⟩ := result
    · obtain ⟨point, hfault⟩ : ∃ point, (attempts i).2 = some point := by
        cases hfault : (attempts i).2 with
        | none =>
          rw [hfault] at hok
          cases hok
        | some point => exact ⟨point, rfl⟩
      rw [hfault] at hnext hsucceeded ⊢
      have hlast := ih hnext hsucceeded (i + 1)
      simp only [credits, Nat.add_zero, Nat.add_assoc] at hlast ⊢
      cases remaining with
      | zero => exact ⟨hnext, iff_of_false (ne_true_of_eq_false hsucceeded) (by simp)⟩
      | succ remaining =>
        rw [if_neg (Nat.succ_ne_zero _)]
        refine ⟨hlast.1, hlast.2.trans ?_⟩
        simp
    · have hfault : (attempts i).2 = none := by
        cases hfault : (attempts i).2 with
        | none => rfl
        | some point =>
          rw [hfault] at hok
          cases hok
      rw [hfault] at hnext hsucceeded ⊢
      exact ⟨hnext, iff_of_true hsucceeded (by simp)⟩

theorem Refunding.calls (h : Refunding record sub count s) (hrecord : Refundable record sub)
    (calls : List (Nat → Attempt)) :
    let final := refundCalls record.requestId record.preConsumed calls s
    if s.succeeded then final = s
    else Refunding record sub (count + credits (faultsOf calls)) final ∧
      (final.succeeded = true ↔ none ∈ faultsOf calls) := by
  have hpos : ¬record.preConsumed ≤ 0 := not_le.mpr hrecord.positive
  induction calls generalizing count s with
  | nil =>
    cases hopen : s.succeeded with
    | true => simp [refundCalls]
    | false => exact ⟨h, by simp [refundCalls, faultsOf, hopen]⟩
  | cons attempts rest ih =>
    have hcall : subscriptionRefund record.requestId record.preConsumed attempts s =
        refundLoop (fun i s => s.attempt record.requestId (attempts i)) 3 0 s := if_neg hpos
    have hfaults : faultsOf (attempts :: rest) =
        ((List.range' 0 3).map fun i => (attempts i).2) ++ faultsOf rest := rfl
    simp only [refundCalls, List.foldl_cons, hcall]
    cases hopen : s.succeeded with
    | true =>
      rw [h.loop_of_succeeded hopen attempts 3 0]
      have hrest := ih h
      simp only [hopen, if_true] at hrest ⊢
      exact hrest
    | false =>
      obtain ⟨hnext, hsucceeded⟩ := h.loop hrecord hopen attempts 3 0
      have hrest := ih hnext
      rw [hfaults, credits_append]
      generalize (refundLoop (fun i s => s.attempt record.requestId (attempts i)) 3 0 s).1 = next
        at hnext hsucceeded hrest
      simp only [Bool.false_eq_true, if_false, List.mem_append]
      cases hdone : next.succeeded with
      | true =>
        have hclean := hsucceeded.mp hdone
        simp only [hdone, if_true] at hrest
        unfold refundCalls at hrest
        rw [hrest, if_pos hclean]
        exact ⟨hnext, iff_of_true hdone (.inl hclean)⟩
      | false =>
        have hclean := fun hmem => Bool.false_ne_true (hdone.symm.trans (hsucceeded.mpr hmem))
        simp only [hdone, Bool.false_eq_true, if_false] at hrest
        rw [if_neg hclean, ← Nat.add_assoc]
        exact ⟨hrest.1, hrest.2.trans (or_iff_right hclean).symm⟩

/-- The amount has been given back at most once, and once if an attempt has succeeded. -/
structure RefundedOnce (record : PreConsumeRecord) (used : Int) (s : RefundState) : Prop where
  atMostOnce : s.db.usedOf record.userSubscriptionId = some used ∨
    s.db.usedOf record.userSubscriptionId = some (used - record.preConsumed)
  onceIfSucceeded : s.succeeded = true →
    s.db.usedOf record.userSubscriptionId = some (used - record.preConsumed)

theorem Refunding.once_iff (h : Refunding record sub count s) (hrecord : Refundable record sub)
    (hcredited : s.succeeded = true → count ≠ 0) :
    RefundedOnce record sub.amountUsed s ↔
      count = 0 ∨ sub.amountUsed = record.preConsumed ∨
        (count = 1 ∧ record.preConsumed ≤ sub.amountUsed) ∨
        (sub.amountUsed = 0 ∧ s.succeeded = false) := by
  obtain ⟨row, hrow, -, hused⟩ := h.used
  have husedOf : s.db.usedOf record.userSubscriptionId =
      some (usedAfter sub.amountUsed record.preConsumed count) := by
    rw [Tables.usedOf, hrow, Option.map_some, hused]
  have hiff : RefundedOnce record sub.amountUsed s ↔
      (usedAfter sub.amountUsed record.preConsumed count = sub.amountUsed ∨
        usedAfter sub.amountUsed record.preConsumed count =
          sub.amountUsed - record.preConsumed) ∧
      (s.succeeded = true → usedAfter sub.amountUsed record.preConsumed count =
        sub.amountUsed - record.preConsumed) := by
    constructor
    · rintro ⟨hmost, honce⟩
      simp only [husedOf, Option.some.injEq] at hmost honce
      exact ⟨hmost, honce⟩
    rintro ⟨hmost, honce⟩
    constructor
    · simpa only [husedOf, Option.some.injEq] using hmost
    · simpa only [husedOf, Option.some.injEq] using honce
  have hpos := hrecord.positive
  have hnonneg := hrecord.used.1
  rw [hiff]
  unfold usedAfter
  rcases Nat.lt_trichotomy count 1 with hnone | hone | hmany
  · obtain hzero : count = 0 := by omega
    have hfailed : s.succeeded = false := Bool.eq_false_iff.mpr fun hs => hcredited hs hzero
    simp [hzero, hfailed]
  · rw [hone, if_neg Nat.one_ne_zero]
    cases s.succeeded <;> simp <;> omega
  -- the amount is given back at least twice
  have htwice : 2 * record.preConsumed ≤ count * record.preConsumed :=
    Int.mul_le_mul_of_nonneg_right (by omega) hpos.le
  cases s.succeeded <;> simp <;> omega

/-- For a record that is not refunded and calls of `Refund` with any faults, the amount is given
back at most once, and once if an attempt succeeds, exactly if by the fault points no attempt gives
it back, or one does and that much was in use, or just that much was in use, or nothing was in use
and every attempt has a fault. -/
theorem refunded_once_iff {db : Tables} (hrecord : Refundable record sub)
    (hfound : findRecord db.records record.requestId = some record)
    (hstatus : record.status = .consumed)
    (hsub : findSub db.subs record.userSubscriptionId = some sub) (calls : List (Nat → Attempt)) :
    RefundedOnce record sub.amountUsed
        (refundCalls record.requestId record.preConsumed calls { db }) ↔
      credits (faultsOf calls) = 0 ∨ sub.amountUsed = record.preConsumed ∨
        (credits (faultsOf calls) = 1 ∧ record.preConsumed ≤ sub.amountUsed) ∨
        (sub.amountUsed = 0 ∧ none ∉ faultsOf calls) := by
  have hstart : Refunding record sub 0 { db } := by
    refine ⟨⟨record, hfound, rfl, rfl, ?_⟩, ⟨sub, hsub, rfl, rfl⟩⟩
    rw [hstatus]
    exact iff_of_false (by decide) Bool.false_ne_true
  have hcalls := hstart.calls hrecord calls
  simp only [Bool.false_eq_true, if_false, Nat.zero_add] at hcalls
  obtain ⟨hfinal, hsucceeded⟩ := hcalls
  rw [hfinal.once_iff hrecord fun hs => credits_pos (hsucceeded.mp hs), ← hsucceeded,
    Bool.not_eq_true]

end

def requestRecord : PreConsumeRecord where
  requestId := "req"
  userId := 7
  userSubscriptionId := 1
  preConsumed := 20

def requestTables : Tables where
  subs := [{ id := 1, userId := 7, planId := 1, amountTotal := 100, amountUsed := 50
             endTime := 9000 }]
  records := [requestRecord]

/-- A call of `Refund` whose first attempt fails at a statement. -/
def refundAfterFault (point : FaultPoint) : RefundState :=
  refundCalls "req" 20 [fun i => (1000, if i = 0 then some point else none)]
    { db := requestTables }

/-- If the first attempt cannot read the subscription, the amount is given back once. -/
theorem retried_refund_once : RefundedOnce requestRecord 50 (refundAfterFault .readSub) := by
  refine (@refunded_once_iff requestRecord _ requestTables ⟨?_, ?_, ?_, ?_, ?_, ?_⟩ ?_ rfl rfl
    [fun i => (1000, if i = 0 then some .readSub else none)]).mpr ?_ <;> decide +kernel

/-- If the first attempt cannot save the record, the amount is given back twice. -/
theorem retried_refund_twice :
    (refundAfterFault .saveRecord).db.usedOf 1 = some 10 ∧
      (refundAfterFault .saveRecord).succeeded = true := by
  decide +kernel

end NewApi.Subscriptions
