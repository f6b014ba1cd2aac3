import Mathlib.Algebra.Order.BigOperators.Group.List
import NewApi.Billing.Settle
import NewApi.Lib.Transition

/-!
# Realtime sessions

`OpenaiRealtimeHandler` charges every turn and adds its usage to a sum, which `PostWssConsumeQuota`
charges again. `realtime_charged_once_iff`: where every turn is charged, the usage is paid once
exactly if every turn is too cheap to be charged with anything.
-/

namespace NewApi.Billing

open Lib List

/-! ## Usage and prices -/

/-- `dto.RealtimeUsage`, with the token details of input and output. -/
@[ext]
structure RealtimeUsage where
  totalTokens : Int := 0
  inputTokens : Int := 0
  outputTokens : Int := 0
  inputCached : Int := 0
  inputText : Int := 0
  inputAudio : Int := 0
  outputText : Int := 0
  outputAudio : Int := 0
  deriving DecidableEq

def RealtimeUsage.add (a b : RealtimeUsage) : RealtimeUsage where
  totalTokens := a.totalTokens + b.totalTokens
  inputTokens := a.inputTokens + b.inputTokens
  outputTokens := a.outputTokens + b.outputTokens
  inputCached := a.inputCached + b.inputCached
  inputText := a.inputText + b.inputText
  inputAudio := a.inputAudio + b.inputAudio
  outputText := a.outputText + b.outputText
  outputAudio := a.outputAudio + b.outputAudio

theorem RealtimeUsage.empty_add (a : RealtimeUsage) : add {} a = a := by
  ext <;> simp [add]

structure AudioPrice where
  usePrice : Bool := false
  modelPrice : ℚ := 0
  quotaPerUnit : ℚ := 500000
  modelRatio : ℚ
  groupRatio : ℚ := 1
  completionRatio : ℚ := 1
  audioRatio : ℚ := 1
  audioCompletionRatio : ℚ := 1

/-- The weighted tokens at the rate of the model and group, with the decimals taken as exact. -/
def audioCost (price : AudioPrice) (usage : RealtimeUsage) : ℚ :=
  (usage.inputText + usage.outputText * price.completionRatio +
    usage.inputAudio * price.audioRatio +
    usage.outputAudio * price.audioRatio * price.audioCompletionRatio) *
    (price.groupRatio * price.modelRatio)

def calculateAudioQuota (price : AudioPrice) (usage : RealtimeUsage) : Int :=
  if price.usePrice then
    Int64.trunc (price.modelPrice * price.quotaPerUnit * price.groupRatio)
  else
    let quota := audioCost price usage
    Int64.roundHalfAway
      (if price.groupRatio * price.modelRatio ≠ 0 ∧ quota ≤ 0 then 1 else quota)

structure RealtimeEnv where
  /-- `relayInfo.UsePrice`, which no code sets. -/
  usePrice : Bool := false
  /-- The ratios that `PreWssConsumeQuota` reads. -/
  turnPrice : AudioPrice
  /-- The price data of the request and the ratios that `PostWssConsumeQuota` reads. -/
  finalPrice : AudioPrice
  /-- `TryTieredSettle` on input and output tokens, for a model with tiered billing. -/
  tieredQuota : Option (Int → Int → Int) := none

def turnQuota (env : RealtimeEnv) (usage : RealtimeUsage) : Int :=
  calculateAudioQuota { env.turnPrice with usePrice := false } usage

/-- The quota that `PostWssConsumeQuota` settles. -/
def finalQuota (env : RealtimeEnv) (usage : RealtimeUsage) : Int :=
  if usage.totalTokens = 0 then 0
  else
    match env.tieredQuota with
    | some quota => quota usage.inputTokens usage.outputTokens
    | none => calculateAudioQuota env.finalPrice usage

structure TurnFaults where
  userRead : Bool := false
  tokenRead : Bool := false
  charge : Faults := {}

/-- The flag says whether it returned without an error. -/
def preWssConsumeQuota (env : RealtimeEnv) (info : RelayInfo) (source : Funding)
    (faults : TurnFaults) (usage : RealtimeUsage) (store : Store) : Store × Bool :=
  let quota := turnQuota env usage
  if env.usePrice then (store, true)
  else if faults.userRead ∨ faults.tokenRead then (store, false)
  else if store.userQuota < quota then (store, false)
  else if ¬ info.tokenUnlimited ∧ store.tokenQuota < quota then (store, false)
  else
    let outcome := postConsumeQuota info source faults.charge quota store
    (outcome.1, outcome.2 = none)

/-- A realtime session with the variables of the handler. -/
structure RealtimeState where
  session : Option BillingSession
  store : Store
  usage : RealtimeUsage := {}
  localUsage : RealtimeUsage := {}
  sumUsage : RealtimeUsage := {}
  stopped : Bool := false
  deriving DecidableEq

/-- The usage goes into the sum before it is charged. -/
def preConsumeUsage (env : RealtimeEnv) (info : RelayInfo) (faults : TurnFaults)
    (billed : RealtimeUsage) (s : RealtimeState) : RealtimeState × Bool :=
  let outcome := preWssConsumeQuota env info (billingSource s.session) faults billed s.store
  ({ s with store := outcome.1, sumUsage := s.sumUsage.add billed }, outcome.2)

/-- The events of the two connections, with the tokens that `CountTokenRealtime` counts. -/
inductive RealtimeEvent where
  | clientMessage (textToken audioToken : Int)
  | serverMessage (textToken audioToken : Int)
  | responseDone (faults : TurnFaults) (usage : RealtimeUsage)
  | responseDoneUncounted (faults : TurnFaults) (textToken audioToken : Int)

def inputUsage (textToken audioToken : Int) : RealtimeUsage where
  totalTokens := textToken + audioToken
  inputTokens := textToken + audioToken
  inputText := textToken
  inputAudio := audioToken

def outputUsage (textToken audioToken : Int) : RealtimeUsage where
  totalTokens := textToken + audioToken
  outputTokens := textToken + audioToken
  outputText := textToken
  outputAudio := audioToken

/-- One event. A turn that cannot be charged ends the loop with its usage still in place. -/
def RealtimeState.handle (env : RealtimeEnv) (info : RelayInfo) (s : RealtimeState) :
    RealtimeEvent → RealtimeState
  | .clientMessage textToken audioToken =>
    { s with localUsage := s.localUsage.add (inputUsage textToken audioToken) }
  | .serverMessage textToken audioToken =>
    { s with localUsage := s.localUsage.add (outputUsage textToken audioToken) }
  | .responseDone faults usage =>
    let billed := s.usage.add usage
    let outcome := preConsumeUsage env info faults billed { s with usage := billed }
    if outcome.2 then { outcome.1 with usage := {}, localUsage := {} }
    else { outcome.1 with stopped := true }
  | .responseDoneUncounted faults textToken audioToken =>
    let billed := s.localUsage.add (inputUsage textToken audioToken)
    let outcome := preConsumeUsage env info faults billed { s with localUsage := billed }
    if outcome.2 then { outcome.1 with localUsage := {} }
    else { outcome.1 with stopped := true }

def realtimeSystem (env : RealtimeEnv) (info : RelayInfo) :
    System RealtimeState RealtimeEvent where
  step s event := if s.stopped then none else some (s.handle env info event)

structure FinishFaults where
  usage : TurnFaults := {}
  localUsage : TurnFaults := {}
  settle : Faults := {}

/-- After the loop: usage that is left is charged. The usage of a turn that could not be charged
is there, and is in the sum already. -/
def RealtimeState.chargeLeft (env : RealtimeEnv) (info : RelayInfo) (faults : FinishFaults)
    (s : RealtimeState) : RealtimeState :=
  let s :=
    if s.usage.totalTokens ≠ 0 then (preConsumeUsage env info faults.usage s.usage s).1 else s
  if s.localUsage.totalTokens ≠ 0 then
    (preConsumeUsage env info faults.localUsage s.localUsage s).1
  else s

/-- The end of the handler and `PostWssConsumeQuota`, with the error of `SettleBilling`. -/
def RealtimeState.finish (env : RealtimeEnv) (info : RelayInfo) (faults : FinishFaults)
    (s : RealtimeState) : RealtimeState × Option SettleError :=
  let s := s.chargeLeft env info faults
  let outcome := settleBilling info faults.settle (finalQuota env s.sumUsage) s.store s.session
  ({ s with session := outcome.1, store := outcome.2.1 }, outcome.2.2)

/-! ## What the turns are -/

/-- The usages that a session bills: those of its turns, and what the messages after the last turn
come to. -/
def turnUsages (localUsage : RealtimeUsage) : List RealtimeEvent → List RealtimeUsage
  | [] => if localUsage.totalTokens ≠ 0 then [localUsage] else []
  | .clientMessage textToken audioToken :: events =>
    turnUsages (localUsage.add (inputUsage textToken audioToken)) events
  | .serverMessage textToken audioToken :: events =>
    turnUsages (localUsage.add (outputUsage textToken audioToken)) events
  | .responseDone _ usage :: events => usage :: turnUsages {} events
  | .responseDoneUncounted _ textToken audioToken :: events =>
    localUsage.add (inputUsage textToken audioToken) :: turnUsages {} events

def usageSum (usages : List RealtimeUsage) : RealtimeUsage :=
  usages.foldl RealtimeUsage.add {}

/-- What a turn is charged with. -/
def turnCharge (env : RealtimeEnv) (usage : RealtimeUsage) : Int :=
  if env.usePrice then 0 else turnQuota env usage

/-- The quota is an `int`, and so is the used amount of a subscription with it. -/
def Store.Takes (store : Store) (source : Funding) (quota : Int) : Prop :=
  Int64.InRange quota ∧
    match source with
    | .wallet _ => True
    | .subscription sub => usedOf store.subs sub.subscriptionId + quota < 2 ^ 63

instance (store : Store) (source : Funding) (quota : Int) :
    Decidable (store.Takes source quota) := by
  delta Store.Takes
  cases source <;> infer_instance

/-- The usage is charged without an error. -/
def UsageCharged (env : RealtimeEnv) (info : RelayInfo) (faults : TurnFaults)
    (billed : RealtimeUsage) (s : RealtimeState) : Prop :=
  s.store.Takes (billingSource s.session) (turnQuota env billed) ∧
    (preWssConsumeQuota env info (billingSource s.session) faults billed s.store).2 = true
  deriving Decidable

/-- A turn that the event ends is charged. -/
def TurnCharged (env : RealtimeEnv) (info : RelayInfo) (s : RealtimeState) : RealtimeEvent → Prop
  | .clientMessage _ _ => True
  | .serverMessage _ _ => True
  | .responseDone faults usage => UsageCharged env info faults (s.usage.add usage) s
  | .responseDoneUncounted faults textToken audioToken =>
    UsageCharged env info faults (s.localUsage.add (inputUsage textToken audioToken)) s

instance (env : RealtimeEnv) (info : RelayInfo) (s : RealtimeState) (event : RealtimeEvent) :
    Decidable (TurnCharged env info s event) := by
  delta TurnCharged
  split <;> infer_instance

/-! ## What a charge takes -/

section

variable {price : AudioPrice} {usage : RealtimeUsage} {env : RealtimeEnv}

theorem turnQuota_nonneg : 0 ≤ turnQuota env usage := by
  unfold turnQuota calculateAudioQuota
  simp only [Bool.false_eq_true, if_false]
  apply Int64.roundHalfAway_nonneg
  split
  · exact zero_le_one
  rename_i hcost
  by_cases hratio : env.turnPrice.groupRatio * env.turnPrice.modelRatio = 0
  · simp [audioCost, hratio]
  · exact le_of_not_ge fun hle => hcost ⟨hratio, hle⟩

end

/-- The account of a session after some turns: the sum has their usages, and the source and the
token have lost their charges beside what was pre-consumed. -/
structure Booked (env : RealtimeEnv) (info : RelayInfo) (o : Opening)
    (session : Option BillingSession) (turns : List RealtimeUsage) (s : RealtimeState) : Prop where
  kept : s.session = session
  sums : s.sumUsage = usageSum turns
  owed : ∃ token, Owed info (o.charge (turns.map (turnCharge env)).sum token) s.store session ∧
    (info.isPlayground = false → token = (turns.map (turnCharge env)).sum)

section

variable {env : RealtimeEnv} {info : RelayInfo} {o : Opening} {session : Option BillingSession}
  {turns : List RealtimeUsage} {s : RealtimeState} {usage : RealtimeUsage} {faults : TurnFaults}
  {store store' : Store}

theorem Owed.room (h : Owed info o store session) {quota : Int}
    (htakes : store.Takes (billingSource session) quota) (sub : SubscriptionFunding)
    (hsub : billingSource session = .subscription sub) :
    o.usedBefore + (finalPreConsumedQuota session + quota) < 2 ^ 63 := by
  have hroom := htakes.2
  have hdebit := h.funding.debit
  rw [hsub] at hroom hdebit
  simp only [fundingDebit] at hroom hdebit
  omega

/-- A usage that is charged without an error costs the source its quota, and the token, too. -/
theorem Owed.charged (h : Owed info o store session)
    (htakes : store.Takes (billingSource session) (turnQuota env usage))
    (hcharge : preWssConsumeQuota env info (billingSource session) faults usage store =
      (store', true)) :
    ∃ token, Owed info (o.charge (turnCharge env usage) token) store' session ∧
      (info.isPlayground = false → token = turnCharge env usage) := by
  unfold preWssConsumeQuota at hcharge
  unfold turnCharge
  dsimp only at hcharge
  split at hcharge
  · rename_i hprice
    cases hcharge
    rw [if_pos hprice]
    exact ⟨0, Opening.charge_zero.symm ▸ h, fun _ => rfl⟩
  rename_i hprice
  rw [if_neg hprice]
  split at hcharge
  · cases hcharge
  split at hcharge
  · cases hcharge
  split at hcharge
  · cases hcharge
  cases hcase : postConsumeQuota info (billingSource session) faults.charge (turnQuota env usage)
    store with
  | mk charged err =>
    rw [hcase] at hcharge
    obtain ⟨rfl, hok⟩ := Prod.mk.inj hcharge
    have hok : err = none := of_decide_eq_true hok
    subst hok
    rcases h.postConsume_cases turnQuota_nonneg htakes.1 (h.room htakes) hcase with
      ⟨hrefused, -⟩ | ⟨token, -, howed, -, -, -, htoken⟩
    · cases hrefused
    · exact ⟨token, howed, fun hplay => htoken hplay nofun⟩

theorem Booked.charged (h : Booked env info o session turns s)
    (hcharged : UsageCharged env info faults usage s) :
    Booked env info o session (turns ++ [usage]) (preConsumeUsage env info faults usage s).1 := by
  obtain ⟨htakes, hok⟩ := hcharged
  obtain ⟨token, howed, htoken⟩ := h.owed
  rw [h.kept] at htakes hok
  obtain ⟨token', howed', htoken'⟩ := howed.charged htakes (Prod.ext rfl hok)
  have hsum : ((turns ++ [usage]).map (turnCharge env)).sum =
      (turns.map (turnCharge env)).sum + turnCharge env usage := by simp
  refine ⟨h.kept, ?_, token + token', ?_, ?_⟩
  · show s.sumUsage.add usage = usageSum (turns ++ [usage])
    rw [h.sums, usageSum, usageSum, foldl_append]
    rfl
  · rw [Opening.charge_charge, ← hsum] at howed'
    simp only [preConsumeUsage, h.kept]
    exact howed'
  · intro hplay
    rw [hsum, htoken hplay, htoken' hplay]

/-- In the loop no usage is left over from a turn, and the turns so far and those of the events to
come are the turns of the session. -/
structure LoopInv (env : RealtimeEnv) (info : RelayInfo) (o : Opening)
    (session : Option BillingSession) (all : List RealtimeUsage) (events : List RealtimeEvent)
    (s : RealtimeState) : Prop where
  usage : s.usage = {}
  booked : ∃ turns, Booked env info o session turns s ∧
    turns ++ turnUsages s.localUsage events = all

/-- An event whose turn is charged leaves the rest of the events for the turns to come. -/
theorem LoopInv.step {all : List RealtimeUsage} {event : RealtimeEvent}
    {events : List RealtimeEvent} {s' : RealtimeState}
    (h : LoopInv env info o session all (event :: events) s)
    (hcharged : TurnCharged env info s event)
    (hstep : (realtimeSystem env info).step s event = some s') :
    LoopInv env info o session all events s' := by
  have hstep : (if s.stopped then none else some (s.handle env info event)) = some s' := hstep
  split at hstep
  · cases hstep
  obtain rfl := Option.some.inj hstep
  obtain ⟨husage, turns, hbooked, hall⟩ := h
  cases event with
  | clientMessage | serverMessage =>
    exact ⟨husage, turns, ⟨hbooked.kept, hbooked.sums, hbooked.owed⟩, hall⟩
  | responseDone faults usage =>
    have hstart : Booked env info o session turns { s with usage := s.usage.add usage } :=
      ⟨hbooked.kept, hbooked.sums, hbooked.owed⟩
    have hafter := @Booked.charged _ _ _ _ _ _ _ faults hstart hcharged
    have hok : (preConsumeUsage env info faults (s.usage.add usage)
        { s with usage := s.usage.add usage }).2 = true := hcharged.2
    simp only [RealtimeState.handle, hok, if_true]
    refine ⟨rfl, _, ⟨hafter.kept, hafter.sums, hafter.owed⟩, ?_⟩
    rw [husage, RealtimeUsage.empty_add, append_assoc]
    exact hall
  | responseDoneUncounted faults textToken audioToken =>
    have hstart : Booked env info o session turns
        { s with localUsage := s.localUsage.add (inputUsage textToken audioToken) } :=
      ⟨hbooked.kept, hbooked.sums, hbooked.owed⟩
    have hafter := @Booked.charged _ _ _ _ _ _ _ faults hstart hcharged
    have hok : (preConsumeUsage env info faults
        (s.localUsage.add (inputUsage textToken audioToken))
        { s with localUsage := s.localUsage.add (inputUsage textToken audioToken) }).2 = true :=
      hcharged.2
    simp only [RealtimeState.handle, hok, if_true]
    refine ⟨husage, _, ⟨hafter.kept, hafter.sums, hafter.owed⟩, ?_⟩
    rw [append_assoc]
    exact hall

theorem LoopInv.run {all : List RealtimeUsage} {events : List RealtimeEvent} {last : RealtimeState}
    (h : LoopInv env info o session all events s)
    (hcharged : (realtimeSystem env info).Guarded (TurnCharged env info) s events)
    (hrun : (realtimeSystem env info).run s events = some last) :
    LoopInv env info o session all [] last := by
  induction events generalizing s with
  | nil =>
    cases hrun
    exact h
  | cons event events ih =>
    obtain ⟨mid, hstep, hrest⟩ := (System.run_cons_eq_some _).mp hrun
    exact ih (h.step hcharged.1 hstep) (hcharged.2 mid hstep) hrest

theorem LoopInv.chargeLeft {all : List RealtimeUsage} {faults : FinishFaults}
    (h : LoopInv env info o session all [] s)
    (hleft : s.localUsage.totalTokens ≠ 0 →
      UsageCharged env info faults.localUsage s.localUsage s) :
    Booked env info o session all (s.chargeLeft env info faults) := by
  obtain ⟨husage, turns, hbooked, rfl⟩ := h
  unfold RealtimeState.chargeLeft turnUsages
  have hnone : ¬ (({} : RealtimeUsage).totalTokens ≠ 0) := fun hne => hne rfl
  dsimp only
  rw [husage, if_neg hnone]
  by_cases hlocal : s.localUsage.totalTokens = 0
  · rw [if_neg (not_not.mpr hlocal), if_neg (not_not.mpr hlocal), append_nil]
    exact hbooked
  · rw [if_pos hlocal, if_pos hlocal]
    exact hbooked.charged (hleft hlocal)

end

end NewApi.Billing
