import NewApi.Channels.Selection

/-!
# The retry loop of a relayed request

`distribute` chooses the first channel of an auto request, `cacheGetRandomSatisfiedChannel` that of
every retry, and `relayLoop` tries channels until one serves the request. What the outside world
does is a sequence of trials: the cache, the random number and the result of an attempt.
-/

namespace NewApi.Relay

open Lib Lib.Pick Channels List

structure RelayError where
  /-- The error code starts with `channel:`. -/
  isChannelError : Bool := false
  skipRetry : Bool := false
  statusCode : Int := 500
  /-- `IsAlwaysSkipRetryCode` of the error code. -/
  alwaysSkipRetryCode : Bool := false

/-- What an attempt comes to. An attempt is aborted if the channel cannot be set up or the body
cannot be read again. -/
inductive AttemptResult where
  | success
  | aborted
  | failed (error : RelayError)

structure Trial where
  cache : ChannelCache
  intn : Intn
  result : AttemptResult

/-- A request with a token of the group `auto`, and the settings that its retries depend on. -/
structure RelayRequest where
  modelName : String
  /-- `setting.GetAutoGroups`. -/
  autoGroupSetting : List String
  /-- The keys of `GetUserUsableGroups`. -/
  usableGroups : List String
  /-- `common.RetryTimes`. -/
  retryTimes : Int
  crossGroupRetry : Bool
  /-- The enabled channel that `GetPreferredChannelByAffinity` names. -/
  preferred : Option Channel := none
  /-- `ShouldSkipRetryAfterChannelAffinityFailure`. -/
  affinitySkipRetry : Bool := false
  /-- The context has a `specific_channel_id`. -/
  specificChannel : Bool := false
  /-- `ShouldRetryByStatusCode`. -/
  retryStatusCode : Int → Bool := fun code => 500 ≤ code

/-- `GetUserAutoGroup`. -/
def RelayRequest.autoGroups (req : RelayRequest) : List String :=
  req.autoGroupSetting.filter (· ∈ req.usableGroups)

/-- The `RetryParam` and the keys of the request context that the selector uses. -/
structure RetryContext where
  autoGroup : Option String := none
  autoGroupIndex : Option Nat := none
  retry : Nat := 0
  resetNextTry : Bool := false
  deriving DecidableEq

def RetryContext.increaseRetry (ctx : RetryContext) : RetryContext :=
  if ctx.resetNextTry then { ctx with resetNextTry := false }
  else { ctx with retry := ctx.retry + 1 }

structure Selection where
  channel : Channel
  group : String
  groupIndex : Nat
  deriving DecidableEq

/-! ## The selector -/

/-- The context after a channel of the `i`-th group has been chosen: the group is left for the next
try if its retries are used up. -/
def prepareNextTry (req : RelayRequest) (ctx : RetryContext) (group : String) (i : Nat)
    (priorityRetry : Nat) : RetryContext :=
  if req.crossGroupRetry ∧ req.retryTimes ≤ priorityRetry then
    { autoGroup := some group, autoGroupIndex := some (i + 1), retry := 0, resetNextTry := true }
  else { ctx with autoGroup := some group, autoGroupIndex := some i }

/-- The loop over the groups from the `i`-th on. A failed selection counts as no channel. -/
def selectAutoGroup (req : RelayRequest) (cache : ChannelCache) (intn : Intn)
    (startGroupIndex : Nat) : List String → Nat → RetryContext → RetryContext × Option Selection
  | [], _, ctx => (ctx, none)
  | group :: rest, i, ctx =>
    let priorityRetry := if startGroupIndex < i then 0 else ctx.retry
    match getRandomSatisfiedChannel cache intn group req.modelName priorityRetry with
    | .ok (some channel) =>
      (prepareNextTry req ctx group i priorityRetry, some ⟨channel, group, i⟩)
    | _ =>
      selectAutoGroup req cache intn startGroupIndex rest (i + 1)
        { ctx with autoGroupIndex := some (i + 1), retry := 0 }

/-- `CacheGetRandomSatisfiedChannel` for the group `auto`. -/
def cacheGetRandomSatisfiedChannel (req : RelayRequest) (cache : ChannelCache) (intn : Intn)
    (ctx : RetryContext) : RetryContext × Except String (Option Selection) :=
  if req.autoGroupSetting = [] then (ctx, .error "auto groups is not enabled")
  else
    let startGroupIndex := ctx.autoGroupIndex.getD 0
    let (ctx, selection) := selectAutoGroup req cache intn startGroupIndex
      (req.autoGroups.drop startGroupIndex) startGroupIndex ctx
    (ctx, .ok selection)

/-! ## The first channel -/

/-- `IsChannelEnabledForGroupModel` with the memory cache. -/
def isChannelEnabledForGroupModel (cache : ChannelCache) (group model : String) (id : Int) :
    Bool :=
  if group = "" ∨ model = "" ∨ id ≤ 0 then false
  else if id ∈ cache.list group model then true
  else
    let normalized := formatMatchingModelName model
    normalized ≠ "" ∧ normalized ≠ model ∧ id ∈ cache.list group normalized

def preferredSelection (req : RelayRequest) (cache : ChannelCache) (channel : Channel) :
    Option Selection :=
  let i := req.autoGroups.findIdx fun group =>
    isChannelEnabledForGroupModel cache group req.modelName channel.id
  req.autoGroups[i]?.map fun group => ⟨channel, group, i⟩

/-- The choice of the first channel in `Distribute`. The preferred channel sets only the group of
the context; the counters of the selector's parameter are lost. -/
def distribute (req : RelayRequest) (trial : Trial) : Option (RetryContext × Selection) :=
  match req.preferred.bind (preferredSelection req trial.cache) with
  | some selection => some ({ autoGroup := some selection.group }, selection)
  | none =>
    match cacheGetRandomSatisfiedChannel req trial.cache trial.intn {} with
    | (ctx, .ok (some selection)) =>
      some ({ ctx with retry := 0, resetNextTry := false }, selection)
    | _ => none

/-! ## The loop -/

def shouldRetry (req : RelayRequest) (error : RelayError) (retryTimes : Int) : Bool :=
  if req.affinitySkipRetry then false
  else if error.isChannelError then true
  else if error.skipRetry then false
  else if retryTimes ≤ 0 then false
  else if req.specificChannel then false
  else if 200 ≤ error.statusCode ∧ error.statusCode < 300 then false
  else if error.statusCode < 100 ∨ 599 < error.statusCode then true
  else if error.alwaysSkipRetryCode then false
  else req.retryStatusCode error.statusCode

inductive LoopEnd where
  | served
  | aborted
  | gaveUp
  | retriesUsedUp
  | noChannel (message : String)
  /-- The distributor has found no channel, and the loop has not been entered. -/
  | notDistributed
  deriving DecidableEq

/-- The state of the loop. The first attempt has its channel from the distributor; `usingGroup` is
the group of the price data's ratio. -/
structure LoopState where
  ctx : RetryContext
  distributed : Option Selection
  usingGroup : String
  attempts : List Selection

structure RelayOutcome where
  attempts : List Selection
  usingGroup : String
  ended : LoopEnd

/-- What `getChannel` makes of a choice: its errors name the group and the model. -/
def requireChannel {α : Type} (group model : String) :
    Except String (Option α) → Except String α
  | .error e => .error s!"获取分组 {group} 下模型 {model} 的可用渠道失败（retry）: {e}"
  | .ok none => .error s!"分组 {group} 下模型 {model} 的可用渠道不存在（retry）"
  | .ok (some channel) => .ok channel

/-- The distributor's channel for the first attempt, and otherwise a new choice, after which the
group ratio of the price data is that of the context's group. -/
def getChannel (req : RelayRequest) (trial : Trial) (state : LoopState) :
    RetryContext × String × Except String Selection :=
  match state.distributed with
  | some selection => (state.ctx, state.usingGroup, .ok selection)
  | none =>
    let (ctx, chosen) :=
      cacheGetRandomSatisfiedChannel req trial.cache trial.intn state.ctx
    (ctx, ctx.autoGroup.getD state.usingGroup, requireChannel "auto" req.modelName chosen)

/-- How an attempt ends the loop, unless it is followed by a retry. -/
def attemptEnd (req : RelayRequest) (result : AttemptResult) (retryTimes : Int) :
    Option LoopEnd :=
  match result with
  | .success => some .served
  | .aborted => some .aborted
  | .failed error => if shouldRetry req error retryTimes then none else some .gaveUp

/-- The loop of `Relay`, for at most `fuel` iterations; attempt `n` meets trial `n`. -/
def relayLoop (req : RelayRequest) (trials : Nat → Trial) :
    Nat → Nat → LoopState → Option RelayOutcome
  | 0, _, _ => none
  | fuel + 1, n, state =>
    if req.retryTimes < state.ctx.retry then
      some ⟨state.attempts, state.usingGroup, .retriesUsedUp⟩
    else
      match getChannel req (trials n) state with
      | (_, usingGroup, .error e) => some ⟨state.attempts, usingGroup, .noChannel e⟩
      | (ctx, usingGroup, .ok selection) =>
        let attempts := state.attempts ++ [selection]
        match attemptEnd req (trials n).result (req.retryTimes - ctx.retry) with
        | some ended => some ⟨attempts, usingGroup, ended⟩
        | none =>
          relayLoop req trials fuel (n + 1)
            { ctx := ctx.increaseRetry, distributed := none, usingGroup, attempts }

/-- A request: the distributor, the price, which reads the ratio of the context's group, and the
loop. -/
def relay (req : RelayRequest) (trials : Nat → Trial) (fuel : Nat) : Option RelayOutcome :=
  match distribute req (trials 0) with
  | none => some ⟨[], "auto", .notDistributed⟩
  | some (ctx, selection) =>
    relayLoop req trials fuel 0
      { ctx, distributed := some selection, usingGroup := ctx.autoGroup.getD "auto",
        attempts := [] }

/-! ## What a choice does -/

variable {ctx next : RetryContext} {sel : Selection} {tri : Trial} {state : LoopState}

section

variable {req : RelayRequest} {cache : ChannelCache} {intn : Intn}

/-- The selection found no channel for the group, whatever the retry. -/
def NoChannelFor (req : RelayRequest) (cache : ChannelCache) (intn : Intn) (group : String) :
    Prop :=
  ∃ retry, ∀ channel,
    getRandomSatisfiedChannel cache intn group req.modelName retry ≠ .ok (some channel)

theorem selectAutoGroup_some (hs0 : s0 ≤ i) (hrt : s0 < i → ctx.retry = 0)
    (h : selectAutoGroup req cache intn s0 grps i ctx = (next, some sel)) :
    ∃ k, sel.groupIndex = i + k ∧ grps[k]? = some sel.group ∧
      (∀ j < k, ∀ grp, grps[j]? = some grp → NoChannelFor req cache intn grp) ∧
      let retry := if k = 0 then ctx.retry else 0
      getRandomSatisfiedChannel cache intn sel.group req.modelName retry =
          .ok (some sel.channel) ∧
        next = prepareNextTry req { ctx with retry } sel.group sel.groupIndex retry := by
  induction grps generalizing i ctx with
  | nil => cases h
  | cons grp rs ih =>
    -- only the group at which the search starts is asked with the retry counter
    have hpr : (if s0 < i then 0 else ctx.retry) = ctx.retry := by
      split
      next hlt => rw [hrt hlt]
      · rfl
    rw [selectAutoGroup] at h
    rw [hpr] at h
    split at h
    next ch hch =>
      cases h
      exact ⟨0, rfl, rfl, fun j hj => absurd hj (Nat.not_lt_zero j), hch, rfl⟩
    next hn =>
      obtain ⟨k, hi, hg, hsk, hch, hx⟩ := ih (Nat.le_succ_of_le hs0) (fun _ => rfl) h
      refine ⟨k + 1, by omega, hg, ?_, ?_⟩
      · intro j hj other hot
        cases j with
        | zero =>
          cases hot
          exact ⟨ctx.retry, fun ch hso => hn ch hso⟩
        | succ j => exact hsk j (by omega) other hot
      · simp only [ite_self] at hch hx
        refine ⟨hch, hx.trans ?_⟩
        rfl

theorem selectAutoGroup_none (h : selectAutoGroup req cache intn s0 grps i ctx = (next, none)) :
    ∀ grp ∈ grps, NoChannelFor req cache intn grp := by
  induction grps generalizing i ctx with
  | nil => exact fun grp hg => absurd hg not_mem_nil
  | cons grp rs ih =>
    rw [selectAutoGroup] at h
    split at h
    · cases h
    next hn =>
      intro other hot
      rcases mem_cons.mp hot with rfl | hr
      · exact ⟨_, fun ch hso => hn ch hso⟩
      · exact ih h other hr

def RetryContext.start (ctx : RetryContext) : Nat :=
  ctx.autoGroupIndex.getD 0

/-- The priority level that a choice asks the `i`-th group for. -/
def RetryContext.levelFor (ctx : RetryContext) (i : Nat) : Nat :=
  if i = ctx.start then ctx.retry else 0

/-- What a choice has done: it starts at the current group, passes over groups without a channel
and prepares the next try. -/
structure Chosen (req : RelayRequest) (cache : ChannelCache) (intn : Intn) (ctx : RetryContext)
    (selection : Selection) (next : RetryContext) : Prop where
  start_le : ctx.start ≤ selection.groupIndex
  group : req.autoGroups[selection.groupIndex]? = some selection.group
  passed : ∀ j group, ctx.start ≤ j → j < selection.groupIndex →
    req.autoGroups[j]? = some group → NoChannelFor req cache intn group
  channel : getRandomSatisfiedChannel cache intn selection.group req.modelName
    (ctx.levelFor selection.groupIndex) = .ok (some selection.channel)
  next : next = prepareNextTry req
    { ctx with retry := ctx.levelFor selection.groupIndex } selection.group
    selection.groupIndex (ctx.levelFor selection.groupIndex)

theorem chosen_of_ok
    (h : cacheGetRandomSatisfiedChannel req cache intn ctx = (next, .ok (some sel))) :
    Chosen req cache intn ctx sel next := by
  unfold cacheGetRandomSatisfiedChannel at h
  split at h
  · cases h
  cases hse : selectAutoGroup req cache intn (ctx.autoGroupIndex.getD 0)
      (req.autoGroups.drop (ctx.autoGroupIndex.getD 0)) (ctx.autoGroupIndex.getD 0) ctx with
  | mk aft chn =>
    simp only [hse, Prod.mk.injEq, Except.ok.injEq] at h
    obtain ⟨rfl, rfl⟩ := h
    obtain ⟨k, hi, hg, hpa, hch, hx⟩ :=
      selectAutoGroup_some (Nat.le_refl _) (fun h => absurd h (Nat.lt_irrefl _)) hse
    have hlv : ctx.levelFor sel.groupIndex = if k = 0 then ctx.retry else 0 := by
      have hif : sel.groupIndex = ctx.start ↔ k = 0 := by
        rw [hi]
        show ctx.start + k = ctx.start ↔ k = 0
        omega
      simp only [RetryContext.levelFor, hif]
    rw [getElem?_drop] at hg
    refine ⟨?_, hi ▸ hg, ?_, hlv ▸ hch, by rw [hlv]; exact hx⟩
    · rw [hi]
      exact Nat.le_add_right ..
    intro j grp hle hlt hj
    refine hpa (j - ctx.start) ?_ grp ?_
    · have : sel.groupIndex = ctx.start + k := hi
      omega
    · rw [getElem?_drop]
      show req.autoGroups[ctx.start + (j - ctx.start)]? = some grp
      rwa [Nat.add_sub_cancel' hle]

theorem noChannelFor_of_none (h : cacheGetRandomSatisfiedChannel req cache intn ctx = (next, chn))
    (hn : ∀ sel, chn ≠ .ok (some sel)) (hj : ctx.start ≤ j) (hg : req.autoGroups[j]? = some grp) :
    NoChannelFor req cache intn grp := by
  unfold cacheGetRandomSatisfiedChannel at h
  split at h
  next hem =>
    have hgr : req.autoGroups = [] := by simp [RelayRequest.autoGroups, hem]
    simp [hgr] at hg
  · cases hse : selectAutoGroup req cache intn (ctx.autoGroupIndex.getD 0)
        (req.autoGroups.drop (ctx.autoGroupIndex.getD 0)) (ctx.autoGroupIndex.getD 0) ctx with
    | mk aft fnd =>
      simp only [hse, Prod.mk.injEq] at h
      obtain ⟨rfl, rfl⟩ := h
      cases fnd with
      | some sel => exact absurd rfl (hn sel)
      | none =>
        refine selectAutoGroup_none hse grp ?_
        rw [mem_iff_getElem?]
        refine ⟨j - ctx.start, ?_⟩
        rw [getElem?_drop]
        show req.autoGroups[ctx.start + (j - ctx.start)]? = some grp
        rwa [Nat.add_sub_cancel' hj]

theorem Chosen.increaseRetry_cases (h : Chosen req cache intn ctx sel next)
    (hr : ctx.resetNextTry = false) :
    next.increaseRetry.resetNextTry = false ∧
      next.increaseRetry.autoGroup = some sel.group ∧
      ((req.crossGroupRetry ∧ req.retryTimes ≤ ctx.levelFor sel.groupIndex ∧
          next.increaseRetry.start = sel.groupIndex + 1 ∧ next.increaseRetry.retry = 0) ∨
        (¬ (req.crossGroupRetry ∧ req.retryTimes ≤ ctx.levelFor sel.groupIndex) ∧
          next.increaseRetry.start = sel.groupIndex ∧
          next.increaseRetry.retry = ctx.levelFor sel.groupIndex + 1)) := by
  rw [h.next, prepareNextTry]
  split
  next hus => exact ⟨rfl, rfl, .inl ⟨hus.1, hus.2, rfl, rfl⟩⟩
  next hle =>
    rw [RetryContext.increaseRetry, if_neg (by simp [hr])]
    exact ⟨hr, rfl, .inr ⟨hle, rfl, rfl⟩⟩

theorem getChannel_eq_ok (hfi : state.distributed = none)
    (h : getChannel req tri state = (next, ug, .ok sel)) :
    Chosen req tri.cache tri.intn state.ctx sel next ∧
      ug = next.autoGroup.getD state.usingGroup := by
  unfold getChannel at h
  simp only [hfi] at h
  cases hch : cacheGetRandomSatisfiedChannel req tri.cache tri.intn state.ctx with
  | mk aft chn =>
    simp only [hch, Prod.mk.injEq] at h
    obtain ⟨rfl, rfl, hok⟩ := h
    unfold requireChannel at hok
    split at hok
    · cases hok
    · cases hok
    · cases hok
      exact ⟨chosen_of_ok hch, rfl⟩

theorem getChannel_eq_error (h : getChannel req tri state = (next, ug, .error e))
    (hj : state.ctx.start ≤ j) (hg : req.autoGroups[j]? = some grp) :
    NoChannelFor req tri.cache tri.intn grp := by
  unfold getChannel at h
  cases hfi : state.distributed with
  | some sel =>
    simp only [hfi, Prod.mk.injEq] at h
    cases h.2.2
  | none =>
    simp only [hfi] at h
    cases hch : cacheGetRandomSatisfiedChannel req tri.cache tri.intn state.ctx with
    | mk aft chn =>
      simp only [hch, Prod.mk.injEq] at h
      refine noChannelFor_of_none hch ?_ hj hg
      rintro sel rfl
      cases h.2.2

end

/-! ## Rules for the loop -/

section

variable {req : RelayRequest} {trs : Nat → Trial}

theorem relayLoop_rule (inv : LoopState → Prop) (post : RelayOutcome → Prop)
    (hus : ∀ state, inv state → req.retryTimes < state.ctx.retry →
      post ⟨state.attempts, state.usingGroup, .retriesUsedUp⟩)
    (hn : ∀ n state ctx ug e, inv state → state.ctx.retry ≤ req.retryTimes →
      getChannel req (trs n) state = (ctx, ug, .error e) →
      post ⟨state.attempts, ug, .noChannel e⟩) (he : ∀ n state ctx ug sel ended, inv state →
      state.ctx.retry ≤ req.retryTimes →
      getChannel req (trs n) state = (ctx, ug, .ok sel) →
      attemptEnd req (trs n).result (req.retryTimes - ctx.retry) = some ended →
      post ⟨state.attempts ++ [sel], ug, ended⟩) (hx : ∀ n state ctx ug sel, inv state →
      state.ctx.retry ≤ req.retryTimes →
      getChannel req (trs n) state = (ctx, ug, .ok sel) →
      attemptEnd req (trs n).result (req.retryTimes - ctx.retry) = none →
      inv ⟨ctx.increaseRetry, none, ug, state.attempts ++ [sel]⟩) (hst : inv state)
    (h : relayLoop req trs fl n state = some oc) : post oc := by
  induction fl generalizing n state with
  | zero => cases h
  | succ fl ih =>
    rw [relayLoop] at h
    split at h
    next hlt =>
      cases h
      exact hus state hst hlt
    next hle =>
      have hle := Int.not_lt.mp hle
      split at h
      next ctx ug e hg =>
        cases h
        exact hn n state ctx ug e hst hle hg
      next ctx ug sel hg =>
        split at h
        next ended hen =>
          cases h
          exact he n state ctx ug sel ended hst hle hg hen
        next hrt => exact ih (hx n state ctx ug sel hst hle hg hrt) h

/-- The iterations that are left: `RetryTimes + 1` for every group that is left, and those of the
current group. -/
def iterationsLeft (req : RelayRequest) (ctx : RetryContext) : Nat :=
  (req.autoGroups.length - ctx.start) * (req.retryTimes.toNat + 1) +
    (req.retryTimes.toNat + 1 - ctx.retry)

theorem Chosen.iterationsLeft_lt (h : Chosen req cache intn ctx sel next)
    (hr : ctx.resetNextTry = false) (hrt : ctx.retry ≤ req.retryTimes) :
    iterationsLeft req next.increaseRetry < iterationsLeft req ctx := by
  have hl : sel.groupIndex < req.autoGroups.length := by
    by_contra hge
    have hg := h.group
    rw [List.getElem?_eq_none (Nat.le_of_not_lt hge)] at hg
    cases hg
  have hs0 := h.start_le
  have hwi : ∀ grps, grps + 1 ≤ req.autoGroups.length - ctx.start →
      grps * (req.retryTimes.toNat + 1) + (req.retryTimes.toNat + 1) ≤
        (req.autoGroups.length - ctx.start) * (req.retryTimes.toNat + 1) := by
    intro grps hle
    rw [← Nat.succ_mul]
    exact Nat.mul_le_mul_right _ hle
  unfold iterationsLeft
  obtain ⟨-, -, ⟨-, -, hx, hz⟩ | ⟨-, hx, hsu⟩⟩ := h.increaseRetry_cases hr
  · rw [hx, hz]
    have := hwi (req.autoGroups.length - (sel.groupIndex + 1)) (by omega)
    omega
  rw [hx, hsu, RetryContext.levelFor]
  split
  next heq =>
    rw [heq]
    omega
  next hne =>
    have := hwi (req.autoGroups.length - sel.groupIndex) (by omega)
    omega

theorem relayLoop_terminates (hfi : state.distributed = none)
    (hr : state.ctx.resetNextTry = false) (hbd : iterationsLeft req state.ctx < bd) :
    ∃ oc, ∀ ex, relayLoop req trs (bd + ex) n state = some oc := by
  induction bd generalizing n state with
  | zero => exact absurd hbd (Nat.not_lt_zero _)
  | succ bd ih =>
    simp only [Nat.succ_add, relayLoop]
    by_cases hlt : req.retryTimes < state.ctx.retry
    · exact ⟨_, fun _ => if_pos hlt⟩
    simp only [hlt, if_false]
    cases hg : getChannel req (trs n) state with
    | mk ctx rs =>
      obtain ⟨ug, chn⟩ := rs
      cases chn with
      | error e => exact ⟨_, fun _ => rfl⟩
      | ok sel =>
        dsimp only
        cases attemptEnd req (trs n).result (req.retryTimes - ctx.retry) with
        | some ended => exact ⟨_, fun _ => rfl⟩
        | none =>
          -- the attempt is followed by a retry
          obtain ⟨hch, -⟩ := getChannel_eq_ok hfi hg
          have hle := hch.iterationsLeft_lt hr (Int.not_lt.mp hlt)
          exact ih rfl (hch.increaseRetry_cases hr).1
            (Nat.lt_of_lt_of_le hle (Nat.le_of_lt_succ hbd))

theorem distribute_eq_some (h : distribute req tri = some (ctx, sel)) :
    ctx.retry = 0 ∧ ctx.resetNextTry = false ∧ ctx.autoGroup = some sel.group := by
  unfold distribute at h
  split at h
  · cases h
    exact ⟨rfl, rfl, rfl⟩
  split at h
  next aft chn hco =>
    cases h
    refine ⟨rfl, rfl, ?_⟩
    have hch := chosen_of_ok hco
    rw [hch.next, prepareNextTry]
    split <;> rfl
  · cases h

def RelayRequest.fuelBound (req : RelayRequest) : Nat :=
  (req.autoGroups.length + 1) * (req.retryTimes.toNat + 1) + 2

theorem iterationsLeft_lt_fuelBound (ctx : RetryContext) :
    iterationsLeft req ctx + 1 < req.fuelBound := by
  have hle : (req.autoGroups.length - ctx.start) * (req.retryTimes.toNat + 1) ≤
      req.autoGroups.length * (req.retryTimes.toNat + 1) :=
    Nat.mul_le_mul_right _ (Nat.sub_le ..)
  rw [RelayRequest.fuelBound, Nat.succ_mul, iterationsLeft]
  omega

theorem relayLoop_first (ug : String) (hrt : ctx.retry ≤ req.retryTimes) :
    relayLoop req trs (fl + 1) n ⟨ctx, some sel, ug, []⟩ =
      match attemptEnd req (trs n).result (req.retryTimes - ctx.retry) with
      | some ended => some ⟨[sel], ug, ended⟩
      | none =>
        relayLoop req trs fl (n + 1) ⟨ctx.increaseRetry, none, ug, [sel]⟩ := by
  rw [relayLoop, if_neg (Int.not_lt.mpr hrt)]
  rfl

theorem relay_terminates (trs : Nat → Trial) :
    ∃ oc, ∀ fl, req.fuelBound ≤ fl → relay req trs fl = some oc := by
  unfold relay
  cases hfi : distribute req (trs 0) with
  | none => exact ⟨_, fun _ _ => rfl⟩
  | some fnd =>
    obtain ⟨ctx, sel⟩ := fnd
    obtain ⟨hrt, hr, -⟩ := distribute_eq_some hfi
    -- one iteration for the attempt of the distributor, and the rest for the loop
    have hfu : ∀ fl, req.fuelBound ≤ fl →
        ∃ ex, fl = req.fuelBound - 1 + ex + 1 := by
      intro fl hle
      have hp := @iterationsLeft_lt_fuelBound req ctx
      exact ⟨fl - req.fuelBound, by omega⟩
    dsimp only
    by_cases hlt : req.retryTimes < ctx.retry
    · refine ⟨⟨[], ctx.autoGroup.getD "auto", .retriesUsedUp⟩, fun fl hle => ?_⟩
      obtain ⟨ex, rfl⟩ := hfu fl hle
      rw [relayLoop, if_pos hlt]
    cases he : attemptEnd req (trs 0).result (req.retryTimes - ctx.retry) with
    | some ended =>
      refine ⟨⟨[sel], ctx.autoGroup.getD "auto", ended⟩, fun fl hle => ?_⟩
      obtain ⟨ex, rfl⟩ := hfu fl hle
      rw [relayLoop_first _ (Int.not_lt.mp hlt), he]
    | none =>
      have hin : ctx.increaseRetry.resetNextTry = false := by
        rw [RetryContext.increaseRetry, if_neg (by simp [hr])]
        exact hr
      have hls := @iterationsLeft_lt_fuelBound req ctx.increaseRetry
      obtain ⟨oc, hoc⟩ := @relayLoop_terminates
        ⟨ctx.increaseRetry, none, ctx.autoGroup.getD "auto", [sel]⟩ req trs
        (req.fuelBound - 1) 1 rfl hin (Nat.lt_sub_of_add_lt hls)
      refine ⟨oc, fun fl hle => ?_⟩
      obtain ⟨ex, rfl⟩ := hfu fl hle
      rw [relayLoop_first _ (Int.not_lt.mp hlt), he]
      exact hoc ex

theorem relay_cases (h : relay req trs fl = some oc) :
    (distribute req (trs 0) = none ∧ oc = ⟨[], "auto", .notDistributed⟩) ∨
    ∃ ctx sel, distribute req (trs 0) = some (ctx, sel) ∧
      ((req.retryTimes < 0 ∧ oc = ⟨[], sel.group, .retriesUsedUp⟩) ∨
        (∃ ended, attemptEnd req (trs 0).result req.retryTimes = some ended ∧
          oc = ⟨[sel], sel.group, ended⟩) ∨
        (attemptEnd req (trs 0).result req.retryTimes = none ∧ ∃ fl,
          relayLoop req trs fl 1 ⟨ctx.increaseRetry, none, sel.group, [sel]⟩ = some oc)) := by
  unfold relay at h
  cases hfi : distribute req (trs 0) with
  | none =>
    simp only [hfi, Option.some.injEq] at h
    exact .inl ⟨rfl, h.symm⟩
  | some fnd =>
    obtain ⟨ctx, sel⟩ := fnd
    obtain ⟨hrt, -, hg⟩ := distribute_eq_some hfi
    simp only [hfi, hg, Option.getD_some] at h
    refine .inr ⟨ctx, sel, rfl, ?_⟩
    cases fl with
    | zero => cases h
    | succ fl =>
      by_cases hlt : req.retryTimes < 0
      · rw [relayLoop, if_pos (by rw [hrt]; exact hlt)] at h
        exact .inl ⟨hlt, (Option.some.inj h).symm⟩
      rw [relayLoop_first _ (by rw [hrt]; exact Int.not_lt.mp hlt), hrt, Nat.cast_zero,
        Int.sub_zero] at h
      cases he : attemptEnd req (trs 0).result req.retryTimes with
      | some ended =>
        simp only [he, Option.some.injEq] at h
        exact .inr (.inl ⟨ended, rfl, h.symm⟩)
      | none =>
        simp only [he] at h
        exact .inr (.inr ⟨rfl, fl, h⟩)

theorem chosen_of_distribute (hpr : req.preferred = none)
    (h : distribute req tri = some (ctx, sel)) :
    ∃ next, Chosen req tri.cache tri.intn {} sel next ∧
      ctx = { next with retry := 0, resetNextTry := false } := by
  unfold distribute at h
  simp only [hpr, Option.bind_none] at h
  split at h
  next aft chn hch =>
    cases h
    exact ⟨aft, chosen_of_ok hch, rfl⟩
  · cases h

end

end NewApi.Relay
