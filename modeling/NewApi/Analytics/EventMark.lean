import NewApi.Lib.Processes
import NewApi.Lib.Transition

/-!
# Delivery marks of analytics events

`BeginAnalyticsEventDelivery` (`model/analytics_event_mark.go`) claims the delivery of an event by
inserting its mark, or by a guarded update of a mark that failed or is stale. The final marks are
not guarded: `sent_event_reopened` is a worker that was overtaken and marks a sent event failed.
`sent_event_stays_sent` holds while every worker ends within the sending timeout.
-/

namespace NewApi.Analytics

open Lib Processes

inductive EventStatus
  | pending | sending | sent | failed
deriving DecidableEq

structure AnalyticsEventMark where
  id : Int
  status : EventStatus
  updatedAt : Int
deriving DecidableEq

def analyticsEventSendingTimeoutSeconds : Int := 300

/-- Also the condition that the guarded update repeats in its `WHERE`. -/
def isAnalyticsEventDeliveryRetryable (mark : AnalyticsEventMark) (now : Int) : Bool :=
  match mark.status with
  | .pending | .failed => true
  | .sending => mark.updatedAt ≤ now - analyticsEventSendingTimeoutSeconds
  | .sent => false

/-- A worker before the insert, the query or the update of its begin, which read the time `now`, or
while it delivers the event. -/
inductive Worker
  | creating (now : Int)
  | reading (now : Int)
  | claiming (id now : Int)
  | delivering (id now : Int)
  | ended
deriving DecidableEq

/-- The row of one subject and event name (the unique index allows no second one) and the ids that
begins have returned. -/
structure MarkState where
  clock : Int
  mark : Option AnalyticsEventMark := none
  nextId : Int := 1
  workers : List Worker := []
  returned : List Int := []

namespace MarkState

def setWorker (state : MarkState) (i : Nat) (worker : Worker) : MarkState :=
  { state with workers := state.workers.set i worker }

/-- The begin of worker `i` returns `mark.id` with the row stored. -/
def claim (state : MarkState) (i : Nat) (mark : AnalyticsEventMark) : MarkState :=
  { state with mark := some mark, returned := state.returned ++ [mark.id] }.setWorker i
    (.delivering mark.id mark.updatedAt)

/-- The next statement of `BeginAnalyticsEventDelivery`; a failed insert is not told from a refused
one. -/
def statement (state : MarkState) (i : Nat) (fails : Bool) : Worker → Option MarkState
  | .creating now =>
    if state.mark = none ∧ fails = false then some (state.claim i ⟨state.nextId, .sending, now⟩)
    else some (state.setWorker i (.reading now))
  | .reading now =>
    match state.mark with
    | none => some (state.setWorker i .ended)
    | some mark =>
      if fails = false ∧ isAnalyticsEventDeliveryRetryable mark now then
        some (state.setWorker i (.claiming mark.id now))
      else some (state.setWorker i .ended)
  | .claiming id now =>
    match state.mark with
    | none => some (state.setWorker i .ended)
    | some mark =>
      if fails = false ∧ mark.id = id ∧ isAnalyticsEventDeliveryRetryable mark now then
        some (state.claim i { mark with status := .sending, updatedAt := now })
      else some (state.setWorker i .ended)
  | .delivering .. | .ended => none

/-- `updateAnalyticsEventStatus`. -/
def updateAnalyticsEventStatus (state : MarkState) (id : Int) (status : EventStatus) : MarkState :=
  { state with mark := state.mark.map fun mark =>
      if mark.id = id then { mark with status, updatedAt := state.clock } else mark }

end MarkState

/-- Time passes, a begin reads the clock, a begin runs its next statement, and a worker whose
delivery has ended marks the event. -/
inductive MarkAction
  | tick (seconds : Nat)
  | start
  | statement (i : Nat) (fails : Bool)
  | finish (i : Nat) (delivered fails : Bool)

def markSystem : System MarkState MarkAction where
  step state
    | .tick seconds => some { state with clock := state.clock + seconds }
    | .start => some { state with workers := state.workers ++ [.creating state.clock] }
    | .statement i fails => state.workers[i]?.bind (state.statement i fails)
    | .finish i delivered fails =>
      match state.workers[i]? with
      | some (.delivering id _) =>
        let ended := state.setWorker i .ended
        let status := if delivered then EventStatus.sent else .failed
        some (if fails then ended else ended.updateAnalyticsEventStatus id status)
      | _ => none

/-- The worker marks the event before its claim is stale. -/
def InTime (state : MarkState) : MarkAction → Bool
  | .finish i _ _ =>
    match state.workers[i]? with
    | some (.delivering _ now) => state.clock < now + analyticsEventSendingTimeoutSeconds
    | _ => true
  | _ => true

/-! ## Claims in time -/

def MarkState.Sent (state : MarkState) : Prop :=
  state.mark.map (·.status) = some .sent

def Worker.Begun (clock : Int) : Worker → Prop
  | .creating now | .reading now | .claiming _ now | .delivering _ now => now ≤ clock
  | .ended => True

/-- Worker `i` delivers the event and its claim is not stale. -/
def MarkState.Fresh (state : MarkState) (i : Nat) (id now : Int) : Prop :=
  state.workers[i]? = some (.delivering id now) ∧
    state.clock < now + analyticsEventSendingTimeoutSeconds

/-- At most one claim is not stale, and its worker has the row. -/
structure MarkInv (state : MarkState) : Prop where
  begun : ∀ worker ∈ state.workers, worker.Begun state.clock
  held : ∀ i id now, state.Fresh i id now → state.mark = some ⟨id, .sending, now⟩
  alone : ∀ i j id now id' now', state.Fresh i id now → state.Fresh j id' now' → i = j

/-- What a step in time keeps. -/
structure Kept (state next : MarkState) : Prop where
  inv : MarkInv next
  sent : state.Sent → next.Sent ∧ next.returned = state.returned

variable {state next : MarkState}

theorem MarkInv.of_fresh (h : MarkInv state) (hma : next.mark = state.mark)
    (hbe : ∀ worker ∈ next.workers, worker.Begun next.clock)
    (hfr : ∀ i id now, next.Fresh i id now → state.Fresh i id now) : MarkInv next where
  begun := hbe
  held := fun i id now hi => hma.trans (h.held i id now (hfr i id now hi))
  alone := fun i j id now id' now' hi hj =>
    h.alone i j id now id' now' (hfr i id now hi) (hfr j id' now' hj)

theorem MarkInv.quiet (h : MarkInv state) (hne : ∀ id now, new ≠ .delivering id now)
    (hbe : new.Begun state.clock) : Kept state (state.setWorker i new) := by
  refine ⟨h.of_fresh rfl (forall_mem_set h.begun hbe) ?_, fun hse => ⟨hse, rfl⟩⟩
  rintro j id now ⟨hj, hlt⟩
  rcases getElem?_set_cases hj with ⟨-, heq⟩ | ⟨-, hj⟩
  · exact absurd heq.symm (hne id now)
  · exact ⟨hj, hlt⟩

theorem MarkInv.claim {mark : AnalyticsEventMark} (h : MarkInv state) (hms : mark.status = .sending)
    (hbe : mark.updatedAt ≤ state.clock)
    (hfr : ∀ m, state.mark = some m → isAnalyticsEventDeliveryRetryable m mark.updatedAt) :
    MarkInv (state.claim i mark) := by
  -- a mark that can be claimed is held by no claim that is not stale
  have hno : ∀ j id now, ¬state.Fresh j id now := by
    intro j id now hj
    have hre := of_decide_eq_true (hfr _ (h.held j id now hj))
    have hlt := hj.2
    dsimp only at hre
    omega
  have hon : ∀ j id now, (state.claim i mark).Fresh j id now →
      j = i ∧ id = mark.id ∧ now = mark.updatedAt := by
    rintro j id now ⟨hj, hlt⟩
    rcases getElem?_set_cases hj with ⟨rfl, heq⟩ | ⟨-, hj⟩
    · cases heq
      exact ⟨rfl, rfl, rfl⟩
    · exact absurd ⟨hj, hlt⟩ (hno j id now)
  refine ⟨forall_mem_set h.begun hbe, fun j id now hj => ?_, fun j k _ _ _ _ hj hk => ?_⟩
  · obtain ⟨-, rfl, rfl⟩ := hon j id now hj
    rw [← hms]
    rfl
  · exact (hon j _ _ hj).1.trans (hon k _ _ hk).1.symm

theorem not_retryable_of_sent (h : state.Sent) (hma : state.mark = some mark) :
    isAnalyticsEventDeliveryRetryable mark now = false := by
  unfold MarkState.Sent at h
  rw [hma] at h
  unfold isAnalyticsEventDeliveryRetryable
  rw [show mark.status = .sent from Option.some.inj h]

theorem MarkInv.statement (h : MarkInv state) (hold : state.workers[i]? = some old)
    (hs : state.statement i fails old = some next) : Kept state next := by
  have hbe := h.begun old (List.mem_of_getElem? hold)
  have hend : Kept state (state.setWorker i .ended) := h.quiet nofun trivial
  unfold MarkState.statement at hs
  split at hs
  · split at hs <;> cases hs
    next hno =>
      refine ⟨h.claim rfl hbe fun m hm => ?_, fun hse => ?_⟩
      · cases hno.1.symm.trans hm
      · rw [MarkState.Sent, hno.1] at hse
        cases hse
    next => exact h.quiet nofun hbe
  · split at hs
    · cases hs
      exact hend
    · split at hs <;> cases hs
      · exact h.quiet nofun hbe
      · exact hend
  · split at hs
    · cases hs
      exact hend
    next mark hma =>
      split at hs <;> cases hs
      next hre =>
        refine ⟨h.claim rfl hbe fun m hm => ?_, fun hse => ?_⟩
        · cases hma.symm.trans hm
          exact hre.2.2
        · cases hre.2.2.symm.trans (not_retryable_of_sent hse hma)
      next => exact hend
  · cases hs
  · cases hs

theorem MarkInv.step (h : MarkInv state) (hok : InTime state act)
    (hs : markSystem.step state act = some next) : Kept state next := by
  cases act with
  | tick seconds =>
    cases hs
    refine ⟨h.of_fresh rfl (fun worker hm => ?_) fun i id now hi => ⟨hi.1, ?_⟩,
      fun hse => ⟨hse, rfl⟩⟩
    · have hbe := h.begun worker hm
      cases worker <;> simp only [Worker.Begun] at hbe ⊢ <;> omega
    · have hlt := hi.2
      dsimp only at hlt
      omega
  | start =>
    cases hs
    refine ⟨h.of_fresh rfl (forall_mem_append h.begun (Int.le_refl _)) fun i id now hi => ?_,
      fun hse => ⟨hse, rfl⟩⟩
    rcases getElem?_append_cases hi.1 with hj | heq
    · exact ⟨hj, hi.2⟩
    · cases heq
  | statement i fails =>
    obtain ⟨old, hold, hs⟩ := Option.bind_eq_some_iff.mp hs
    exact h.statement hold hs
  | finish i delivered fails =>
    have hend : Kept state (state.setWorker i .ended) := h.quiet nofun trivial
    unfold markSystem at hs
    unfold InTime at hok
    dsimp only at hs hok
    split at hs
    next id now hold =>
      rw [hold] at hok
      have hfr : state.Fresh i id now := ⟨hold, of_decide_eq_true hok⟩
      cases hs
      cases fails with
      | true => exact hend
      | false =>
        -- the claim that ends was the only one that is not stale
        have hno : ∀ j id' now', ¬((state.setWorker i .ended).updateAnalyticsEventStatus id
            (if delivered then .sent else .failed)).Fresh j id' now' := by
          rintro j id' now' ⟨hj, hlt⟩
          rcases getElem?_set_cases hj with ⟨-, heq⟩ | ⟨hne, hj⟩
          · cases heq
          · exact hne (h.alone j i _ _ _ _ ⟨hj, hlt⟩ hfr)
        refine ⟨⟨hend.inv.begun, fun j _ _ hj => absurd hj (hno j _ _),
          fun j _ _ _ _ _ hj => absurd hj (hno j _ _)⟩, fun hse => ?_⟩
        rw [MarkState.Sent, h.held i id now hfr] at hse
        cases hse
    next => cases hs

theorem MarkInv.run (hwo : state.workers = []) (hok : markSystem.Guarded (InTime · ·) state acts)
    (hr : markSystem.run state acts = some fin) : MarkInv fin := by
  have hno : ∀ i id now, ¬state.Fresh i id now := by
    rintro i id now ⟨hi, -⟩
    rw [hwo] at hi
    cases hi
  refine markSystem.guarded_run_preserves MarkInv (fun _ _ _ h hok hs => (h.step hok hs).inv)
    ⟨?_, fun i _ _ hi => absurd hi (hno i _ _), fun i _ _ _ _ _ hi => absurd hi (hno i _ _)⟩ hok hr
  rw [hwo]
  exact nofun

/-- While every worker marks the event within the sending timeout, at most one worker delivers it
under a claim that is not stale, and the row is the one it claimed. -/
theorem fresh_claim_alone {state fin : MarkState} {acts : List MarkAction} {i j : Nat}
    {id now id' now' : Int} (hworkers : state.workers = [])
    (htime : markSystem.Guarded (InTime · ·) state acts) (hrun : markSystem.run state acts =
      some fin)
    (hi : fin.Fresh i id now) (hj : fin.Fresh j id' now') :
    i = j ∧ fin.mark = some ⟨id, .sending, now⟩ := by
  have hinv := MarkInv.run hworkers htime hrun
  exact ⟨hinv.alone i j id now id' now' hi hj, hinv.held i id now hi⟩

/-- A worker begins, inserts the mark and has 300 seconds passed before a second one begins and
claims the stale mark. -/
def takeover : List MarkAction :=
  [.start, .statement 0 false, .tick 300, .start, .statement 1 false, .statement 1 false,
    .statement 1 false]

/-- The second worker marks the event failed in time, and a third one claims it. -/
def retaking : List MarkAction :=
  [.finish 1 false false, .start, .statement 2 false, .statement 2 false, .statement 2 false]

/-- The first worker still delivers the event under its stale claim; the third one is alone with a
claim that is not stale. -/
theorem third_claim_alone :
    ∃ fin, markSystem.run { clock := 0 } (takeover ++ retaking) = some fin ∧
      fin.workers[0]? = some (.delivering 1 0) ∧ fin.Fresh 2 1 300 ∧
      (∀ j id now, fin.Fresh j id now → j = 2) ∧ fin.mark = some ⟨1, .sending, 300⟩ := by
  refine ⟨_, rfl, rfl, ⟨rfl, by decide⟩, fun j id now hj => ?_, rfl⟩
  exact (@fresh_claim_alone { clock := 0 } _ (takeover ++ retaking) j 2 id now 1 300 rfl
    (by decide) rfl hj ⟨rfl, by decide⟩).1

/-- While every worker marks the event within the sending timeout, an event that was marked sent
stays sent, and no later begin returns an id for it. -/
theorem sent_event_stays_sent {state mid fin : MarkState} {first later : List MarkAction}
    (hworkers : state.workers = [])
    (htime : markSystem.Guarded (InTime · ·) state (first ++ later))
    (hfirst : markSystem.run state first = some mid) (hsent : mid.Sent)
    (hlater : markSystem.run mid later = some fin) :
    fin.Sent ∧ fin.returned = mid.returned := by
  have hmid := MarkInv.run hworkers (markSystem.guarded_append_left htime) hfirst
  have hall := markSystem.guarded_run_preserves
    (fun state => MarkInv state ∧ state.Sent ∧ state.returned = mid.returned) ?_ ⟨hmid, hsent, rfl⟩
    (markSystem.guarded_append_right htime hfirst) hlater
  · exact hall.2
  · rintro state act next ⟨h, hse, hret⟩ hok hs
    obtain ⟨hx, hke⟩ := h.step hok hs
    exact ⟨hx, (hke hse).1, (hke hse).2.trans hret⟩

/-- The worker that claimed the stale mark marks the event sent. -/
def overtaking : List MarkAction :=
  takeover ++ [.finish 1 true false]

/-- A third worker is then refused. -/
theorem sent_event_stays_sent_once :
    ∃ mid fin, markSystem.run { clock := 0 } overtaking = some mid ∧ mid.Sent ∧
      markSystem.run mid [.start, .statement 2 false, .statement 2 false] = some fin ∧
      fin.Sent ∧ fin.returned = mid.returned := by
  refine ⟨_, _, rfl, rfl, rfl, ?_⟩
  exact @sent_event_stays_sent { clock := 0 } _ _ overtaking
    [.start, .statement 2 false, .statement 2 false] rfl (by decide) rfl rfl rfl

/-- The first worker then marks it failed, and a third one begins. -/
def reopening : List MarkAction :=
  [.finish 0 false false, .start, .statement 2 false, .statement 2 false, .statement 2 false]

/-- A worker that was overtaken marks the sent event failed, and it is claimed again. -/
theorem sent_event_reopened :
    (markSystem.run { clock := 0 } overtaking).map (fun state => (state.mark, state.returned)) =
        some (some ⟨1, .sent, 300⟩, [1, 1]) ∧
      (markSystem.run { clock := 0 } (overtaking ++ reopening)).map
        (fun state => (state.mark, state.returned)) =
          some (some ⟨1, .sending, 300⟩, [1, 1, 1]) := by
  decide

end NewApi.Analytics
