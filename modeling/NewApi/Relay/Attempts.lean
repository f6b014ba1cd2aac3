import Mathlib.Data.List.Chain
import NewApi.Relay.Retry

/-!
# The attempts of a request

The loop of `Relay` for any group and for a token that may pin a channel. Every attempt that is
followed by another one ended with an error that `shouldRetry` has let pass; it tests for a channel
error before the skip-retry mark and the pinned channel (`RespectsMarks`). For the group `auto` the
loop is that of `relay` (`relay_eq_relayRun`).
-/

namespace NewApi.Relay

open Lib Lib.Pick Lib.Ranking Channels List Option

/-- A request for any group. `usingGroup` is the group that the distributor uses, `tokenGroup` the
one of the retries. -/
structure RelayCall extends RelayRequest where
  usingGroup : String
  tokenGroup : String
  /-- The value of `specific_channel_id`. -/
  specificChannelId : Option Int := none
  specificChannel_eq : specificChannel = specificChannelId.isSome := by rfl

structure Attempt where
  channel : Channel
  error : Option RelayError

/-- The state of the loop. `distributed` is the channel of the distributor, until it has been
used; `ended` says why the loop is over. -/
structure RelayState where
  ctx : RetryContext := {}
  distributed : Option Channel := none
  attempts : List Attempt := []
  ended : Option LoopEnd := none

/-! ## The first channel -/

def distributeGroup (call : RelayCall) (trial : Trial) : Option Channel :=
  let preferred := call.preferred.filter fun channel =>
    isChannelEnabledForGroupModel trial.cache call.usingGroup call.modelName channel.id
  match preferred with
  | some channel => some channel
  | none =>
    match getRandomSatisfiedChannel trial.cache trial.intn call.usingGroup call.modelName 0 with
    | .ok channel => channel
    | .error _ => none

/-- `Distribute`: the pinned channel if there is one and it is enabled, and otherwise a choice in
the group of the request. `channels` is the `channels` table. -/
def distributeCall (call : RelayCall) (channels : List Channel) (trial : Trial) :
    Option (RetryContext × Channel) :=
  match call.specificChannelId with
  | some id =>
    match Table.get? Channel.id channels id with
    | some channel => if channel.status = .enabled then some ({}, channel) else none
    | none => none
  | none =>
    if call.usingGroup = "auto" then
      (distribute call.toRelayRequest trial).map fun (ctx, selection) => (ctx, selection.channel)
    else (distributeGroup call trial).map fun channel => ({}, channel)

/-! ## The loop -/

/-- `CacheGetRandomSatisfiedChannel`. -/
def selectChannel (call : RelayCall) (trial : Trial) (ctx : RetryContext) :
    RetryContext × Except String (Option Channel) :=
  if call.tokenGroup = "auto" then
    let (ctx, chosen) :=
      cacheGetRandomSatisfiedChannel call.toRelayRequest trial.cache trial.intn ctx
    (ctx, chosen.map fun selection => selection.map Selection.channel)
  else
    (ctx, getRandomSatisfiedChannel trial.cache trial.intn call.tokenGroup call.modelName ctx.retry)

/-- `getChannel`. -/
def getCallChannel (call : RelayCall) (trial : Trial) (state : RelayState) :
    RetryContext × Except String Channel :=
  match state.distributed with
  | some channel => (state.ctx, .ok channel)
  | none =>
    let (ctx, chosen) := selectChannel call trial state.ctx
    (ctx, requireChannel call.tokenGroup call.modelName chosen)

/-- What the result of an attempt with `channel` does to the loop. An attempt that is aborted sends
nothing. -/
def finishAttempt (call : RelayCall) (state : RelayState) (ctx : RetryContext) (channel : Channel)
    (result : AttemptResult) : RelayState :=
  match result with
  | .aborted => { state with ctx, ended := some .aborted }
  | .success =>
    { state with ctx, attempts := state.attempts ++ [⟨channel, none⟩], ended := some .served }
  | .failed error =>
    let attempts := state.attempts ++ [⟨channel, some error⟩]
    if shouldRetry call.toRelayRequest error (call.retryTimes - ctx.retry) then
      { ctx := ctx.increaseRetry, attempts }
    else { state with ctx, attempts, ended := some .gaveUp }

/-- One iteration of the loop of `Relay`. -/
def relayStep (call : RelayCall) (trial : Trial) (state : RelayState) : RelayState :=
  if state.ended.isSome then state
  else if call.retryTimes < state.ctx.retry then { state with ended := some .retriesUsedUp }
  else
    match getCallChannel call trial state with
    | (ctx, .error e) => { state with ctx, ended := some (.noChannel e) }
    | (ctx, .ok channel) => finishAttempt call state ctx channel trial.result

def relayStart (call : RelayCall) (channels : List Channel) (trial : Trial) : RelayState :=
  match distributeCall call channels trial with
  | none => { ended := some .notDistributed }
  | some (ctx, channel) => { ctx, distributed := some channel }

/-- The request after `n` iterations of the loop; iteration `n` meets trial `n`. -/
def relayRun (call : RelayCall) (channels : List Channel) (trials : Nat → Trial) :
    Nat → RelayState
  | 0 => relayStart call channels (trials 0)
  | n + 1 => relayStep call (trials n) (relayRun call channels trials n)

/-! ## What an iteration does -/

section

variable {call : RelayCall} {channels : List Channel} {trial : Trial} {trials : Nat → Trial}
  {state : RelayState} {ctx : RetryContext} {channel : Channel} {attempt : Attempt}
  {first : Option Channel} {n : Nat}

/-- The attempt met this trial and failed with an error that `shouldRetry` has let pass. -/
def Attempt.Retried (call : RelayCall) (trial : Trial) (attempt : Attempt) : Prop :=
  ∃ error, ∃ retry : Nat, trial.result = .failed error ∧ attempt.error = some error ∧
    shouldRetry call.toRelayRequest error (call.retryTimes - retry) = true

/-- What an iteration does: it stops the loop without an attempt, it makes the last attempt, or it
makes one that is retried. -/
inductive Iterates (call : RelayCall) (trial : Trial) (state : RelayState) : RelayState → Prop
  | stops (next : RelayState) : next.attempts = state.attempts → next.ended ≠ none →
      Iterates call trial state next
  | last (next : RelayState) (ctx : RetryContext) (attempt : Attempt) :
      (state.ctx.retry : Int) ≤ call.retryTimes →
      getCallChannel call trial state = (ctx, .ok attempt.channel) →
      next.attempts = state.attempts ++ [attempt] → next.ended ≠ none →
      Iterates call trial state next
  | retries (ctx : RetryContext) (attempt : Attempt) :
      (state.ctx.retry : Int) ≤ call.retryTimes →
      getCallChannel call trial state = (ctx, .ok attempt.channel) →
      attempt.Retried call trial →
      Iterates call trial state
        { ctx := ctx.increaseRetry, attempts := state.attempts ++ [attempt] }

theorem relayStep_iterates : Iterates call trial state (relayStep call trial state) := by
  unfold relayStep
  split
  case isTrue hended => exact .stops _ rfl (isSome_iff_ne_none.mp hended)
  case isFalse =>
    split
    case isTrue => exact .stops _ rfl nofun
    case isFalse hretry =>
      have hle : (state.ctx.retry : Int) ≤ call.retryTimes := by omega
      split
      case h_1 => exact .stops _ rfl nofun
      case h_2 ctx channel hchannel =>
        cases hresult : trial.result with
        | aborted => exact .stops _ rfl nofun
        | success => exact .last _ ctx ⟨channel, none⟩ hle hchannel rfl nofun
        | failed error =>
          dsimp only [finishAttempt]
          split_ifs with hretried
          · exact .retries ctx ⟨channel, some error⟩ hle hchannel
              ⟨error, ctx.retry, hresult, rfl, hretried⟩
          · exact .last _ ctx ⟨channel, some error⟩ hle hchannel rfl nofun

theorem relayStep_of_ended (h : state.ended ≠ none) : relayStep call trial state = state :=
  if_pos (isSome_iff_ne_none.mpr h)

/-- The rule of the loop, for invariants that count its iterations. -/
theorem relayRun_rule (inv : Nat → RelayState → Prop)
    (hstart : inv 0 (relayStart call channels (trials 0)))
    (hstep : ∀ n state next, inv n state → state.ended = none →
      Iterates call (trials n) state next → inv (n + 1) next)
    (hover : ∀ n state, inv n state → state.ended ≠ none → inv (n + 1) state) (n : Nat) :
    inv n (relayRun call channels trials n) := by
  induction n with
  | zero => exact hstart
  | succ n ih =>
    show inv (n + 1) (relayStep call (trials n) (relayRun call channels trials n))
    by_cases hended : (relayRun call channels trials n).ended = none
    · exact hstep n _ _ ih hended relayStep_iterates
    · rw [relayStep_of_ended hended]
      exact hover n _ ih hended

theorem relayStart_attempts : (relayStart call channels trial).attempts = [] := by
  unfold relayStart
  split <;> rfl

/-! ## Retried attempts -/

/-- After `n` iterations: every attempt that is followed by another one was retried at its trial,
and while the loop goes on every iteration has made an attempt that was; the first attempt went to
the distributed channel. -/
structure Followed (call : RelayCall) (trials : Nat → Trial) (first : Option Channel) (n : Nat)
    (state : RelayState) : Prop where
  length_le : state.attempts.length ≤ n
  length_eq : state.ended = none → state.attempts.length = n
  retried : ∀ i attempt, state.attempts[i]? = some attempt →
    i + 1 < state.attempts.length ∨ state.ended = none → attempt.Retried call (trials i)
  distributed : state.ended = none → state.attempts = [] → state.distributed = first
  head : ∀ attempt ∈ state.attempts.head?, some attempt.channel = first

/-- An attempt of an earlier iteration stays one that was retried. -/
theorem Followed.retried_concat (h : Followed call trials first n state)
    (hopen : state.ended = none) (last : Attempt) (i : Nat) (hi : i < state.attempts.length)
    (hat : (state.attempts ++ [last])[i]? = some attempt) : attempt.Retried call (trials i) := by
  rw [getElem?_append_left hi] at hat
  exact h.retried i attempt hat (.inr hopen)

theorem Followed.head_concat (h : Followed call trials first n state) (hopen : state.ended = none)
    (hfirst : first.isSome)
    (hchannel : getCallChannel call trial state = (ctx, .ok attempt.channel)) :
    ∀ other ∈ (state.attempts ++ [attempt]).head?, some other.channel = first := by
  intro other hother
  cases hattempts : state.attempts with
  | cons earlier rest =>
    refine h.head other ?_
    simpa [hattempts] using hother
  | nil =>
    have hdistributed := h.distributed hopen hattempts
    obtain ⟨channel, rfl⟩ := isSome_iff_exists.mp hfirst
    rw [getCallChannel, hdistributed] at hchannel
    simp only [Prod.mk.injEq, Except.ok.injEq] at hchannel
    simp only [hattempts, nil_append, head?_cons, mem_def, Option.some.injEq] at hother
    rw [← hother, hchannel.2]

def firstChannel (call : RelayCall) (channels : List Channel) (trial : Trial) : Option Channel :=
  (distributeCall call channels trial).map Prod.snd

theorem Followed.iterates (h : Followed call trials first n state) (hopen : state.ended = none)
    (hfirst : first.isSome) {next : RelayState} (hnext : Iterates call (trials n) state next) :
    Followed call trials first (n + 1) next := by
  have hlength := h.length_eq hopen
  cases hnext with
  | stops _ hattempts hended =>
    refine ⟨by rw [hattempts]; omega, fun hn => absurd hn hended, ?_,
      fun hn => absurd hn hended, hattempts ▸ h.head⟩
    intro i attempt hat _
    exact h.retried i attempt (hattempts ▸ hat) (.inr hopen)
  | last _ ctx last _ hchannel hattempts hended =>
    refine ⟨by simp [hattempts, hlength], fun hn => absurd hn hended, ?_,
      fun hn => absurd hn hended, hattempts ▸ h.head_concat hopen hfirst hchannel⟩
    intro i attempt hat hi
    have hlt : i < state.attempts.length := by
      simpa [hattempts, hended] using hi
    exact h.retried_concat hopen last i hlt (hattempts ▸ hat)
  | retries ctx last _ hchannel hretried =>
    refine ⟨by simp [hlength], fun _ => by simp [hlength], ?_, fun _ hnil => by simp at hnil,
      h.head_concat hopen hfirst hchannel⟩
    intro i attempt hat _
    by_cases hlt : i < state.attempts.length
    · exact h.retried_concat hopen last i hlt hat
    -- the attempt of this iteration
    obtain ⟨hi, -⟩ := List.getElem?_eq_some_iff.mp hat
    rw [length_append, length_singleton] at hi
    obtain rfl : i = n := by omega
    rw [getElem?_append_right (by omega), hlength, Nat.sub_self] at hat
    obtain rfl : last = attempt := Option.some.inj hat
    exact hretried

theorem followed_run (call : RelayCall) (channels : List Channel) (trials : Nat → Trial) (n : Nat) :
    Followed call trials (firstChannel call channels (trials 0)) n
      (relayRun call channels trials n) := by
  -- the loop is entered only with a channel of the distributor
  refine (relayRun_rule (fun n state =>
    (state.ended = none → (firstChannel call channels (trials 0)).isSome) ∧
      Followed call trials (firstChannel call channels (trials 0)) n state) ?_ ?_ ?_ n).2
  · unfold relayStart firstChannel
    cases distributeCall call channels (trials 0) with
    | none => exact ⟨nofun, by simp, by simp, by simp, by simp, by simp⟩
    | some found => exact ⟨fun _ => rfl, by simp, by simp, by simp, fun _ _ => rfl, by simp⟩
  · rintro m state next ⟨hfirst, h⟩ hopen hnext
    exact ⟨fun _ => hfirst hopen, h.iterates hopen (hfirst hopen) hnext⟩
  · rintro m state ⟨hfirst, h⟩ hended
    exact ⟨hfirst, h.length_le.trans (Nat.le_succ m), fun hn => absurd hn hended, h.retried,
      h.distributed, h.head⟩

/-! ## The number of attempts -/

structure Counted (call : RelayCall) (state : RelayState) : Prop where
  counter : state.ended = none →
    state.attempts.length = state.ctx.retry ∧ state.ctx.resetNextTry = false
  bound : state.attempts.length ≤ (call.retryTimes + 1).toNat

theorem distributeCall_ctx (h : distributeCall call channels trial = some (ctx, channel)) :
    ctx.retry = 0 ∧ ctx.resetNextTry = false := by
  unfold distributeCall at h
  split at h
  · split at h
    · split at h
      · cases h; exact ⟨rfl, rfl⟩
      · cases h
    · cases h
  split at h
  · obtain ⟨⟨found, selection⟩, hdistribute, heq⟩ := map_eq_some_iff.mp h
    cases heq
    exact ⟨(distribute_eq_some hdistribute).1, (distribute_eq_some hdistribute).2.1⟩
  · obtain ⟨found, -, heq⟩ := map_eq_some_iff.mp h
    cases heq
    exact ⟨rfl, rfl⟩

theorem getCallChannel_ctx (hgroup : call.tokenGroup ≠ "auto")
    (h : getCallChannel call trial state = (ctx, .ok channel)) : ctx = state.ctx := by
  unfold getCallChannel at h
  split at h
  · cases h; rfl
  have hselect : (selectChannel call trial state.ctx).1 = state.ctx := by
    simp [selectChannel, hgroup]
  exact (congrArg Prod.fst h).symm.trans hselect

theorem counted_run (hgroup : call.tokenGroup ≠ "auto") :
    Counted call (relayRun call channels trials n) := by
  refine relayRun_rule (fun _ => Counted call) ?_ ?_ (fun _ _ h _ => h) n
  · refine ⟨?_, by rw [relayStart_attempts]; exact Nat.zero_le _⟩
    intro hopen
    unfold relayStart at hopen ⊢
    cases hfirst : distributeCall call channels (trials 0) with
    | none => rw [hfirst] at hopen; cases hopen
    | some found =>
      obtain ⟨ctx, channel⟩ := found
      obtain ⟨hretry, hreset⟩ := distributeCall_ctx hfirst
      exact ⟨hretry.symm, hreset⟩
  · intro m state next h hopen hnext
    obtain ⟨hcounter, hreset⟩ := h.counter hopen
    cases hnext with
    | stops _ hattempts hended => exact ⟨fun hn => absurd hn hended, hattempts ▸ h.bound⟩
    | last _ ctx last hle hchannel hattempts hended =>
      refine ⟨fun hn => absurd hn hended, ?_⟩
      rw [hattempts, length_append, length_singleton]
      omega
    | retries ctx last hle hchannel hretried =>
      have hincrease : ctx.increaseRetry = { state.ctx with retry := state.ctx.retry + 1 } := by
        rw [getCallChannel_ctx hgroup hchannel, RetryContext.increaseRetry,
          if_neg (by simp [hreset])]
      constructor
      · intro _
        rw [hincrease]
        exact ⟨by simp [hcounter], hreset⟩
      · rw [length_append, length_singleton]
        omega

end

/-! ## Requests of the group `auto` -/

section

variable {call : RelayCall} {channels : List Channel} {trials : Nat → Trial} {loop : LoopState}
  {state : RelayState} {outcome : RelayOutcome}

/-- The two embeddings of the loop are at the same point. -/
structure SameLoop (loop : LoopState) (state : RelayState) : Prop where
  ctx : state.ctx = loop.ctx
  distributed : state.distributed = loop.distributed.map Selection.channel
  attempts : state.attempts.map Attempt.channel = loop.attempts.map Selection.channel
  ended : state.ended = none

/-- The loop has ended as `relayLoop` does, which counts an attempt that is aborted. -/
structure SameEnd (outcome : RelayOutcome) (state : RelayState) : Prop where
  ended : state.ended = some outcome.ended
  attempts : state.attempts.map Attempt.channel =
    (if outcome.ended = .aborted then outcome.attempts.dropLast else outcome.attempts).map
      Selection.channel

theorem SameLoop.getCallChannel_eq (h : SameLoop loop state) (hgroup : call.tokenGroup = "auto")
    (trial : Trial) :
    getCallChannel call trial state =
      ((getChannel call.toRelayRequest trial loop).1,
        (getChannel call.toRelayRequest trial loop).2.2.map Selection.channel) := by
  unfold getCallChannel getChannel
  rw [h.distributed, h.ctx]
  cases loop.distributed with
  | some selection => rfl
  | none =>
    simp only [Option.map_none, selectChannel, hgroup, if_true]
    rcases cacheGetRandomSatisfiedChannel call.toRelayRequest trial.cache trial.intn loop.ctx with
      ⟨ctx, message | found | selection⟩ <;> rfl

theorem relayLoop_sameEnd (hgroup : call.tokenGroup = "auto") {fuel n : Nat}
    (h : relayLoop call.toRelayRequest trials fuel n loop = some outcome)
    (hsame : SameLoop loop (relayRun call channels trials n)) :
    ∃ m, SameEnd outcome (relayRun call channels trials m) := by
  induction fuel generalizing n loop with
  | zero => cases h
  | succ fuel ih =>
    have hstep : relayRun call channels trials (n + 1) =
        relayStep call (trials n) (relayRun call channels trials n) := rfl
    have hchannel := hsame.getCallChannel_eq hgroup (trials n)
    rw [relayStep, if_neg (by simp [hsame.ended]), hsame.ctx, hchannel] at hstep
    rw [relayLoop] at h
    split at h
    next hused =>
      rw [if_pos hused] at hstep
      cases h
      exact ⟨n + 1, by rw [hstep], by rw [hstep]; exact hsame.attempts⟩
    next hle =>
    rw [if_neg hle] at hstep
    split at h
    next ctx usingGroup message hget =>
      rw [hget] at hstep
      cases h
      exact ⟨n + 1, by rw [hstep]; rfl, by rw [hstep]; exact hsame.attempts⟩
    next ctx usingGroup selection hget =>
    rw [hget] at hstep
    simp only [Except.map] at hstep
    have hattempts (error : Option RelayError) :
        ((relayRun call channels trials n).attempts ++
            [({ channel := selection.channel, error } : Attempt)]).map Attempt.channel =
          (loop.attempts ++ [selection]).map Selection.channel := by
      rw [map_append, map_append, hsame.attempts]
      rfl
    cases hresult : (trials n).result with
    | success =>
      rw [hresult] at hstep h
      cases h
      exact ⟨n + 1, by rw [hstep]; rfl, by rw [hstep]; exact hattempts none⟩
    | aborted =>
      rw [hresult] at hstep h
      cases h
      refine ⟨n + 1, by rw [hstep]; rfl, ?_⟩
      rw [hstep, if_pos rfl, dropLast_concat]
      exact hsame.attempts
    | failed error =>
      simp only [hresult, attemptEnd, finishAttempt] at hstep h
      by_cases hretried :
          shouldRetry call.toRelayRequest error (call.retryTimes - ctx.retry) = true
      · rw [if_pos hretried] at hstep h
        refine ih h ?_
        rw [hstep]
        exact ⟨rfl, rfl, hattempts (some error), rfl⟩
      · rw [if_neg hretried] at hstep h
        cases h
        exact ⟨n + 1, by rw [hstep], by rw [hstep]; exact hattempts (some error)⟩

end

/-- For a request of the group `auto` that pins no channel the loop ends as that of `relay` does,
after the attempts with the same channels. -/
theorem relay_eq_relayRun (call : RelayCall) (channels : List Channel) (trials : Nat → Trial)
    (husing : call.usingGroup = "auto") (htoken : call.tokenGroup = "auto")
    (hpinned : call.specificChannelId = none) {fuel : Nat} {outcome : RelayOutcome}
    (h : relay call.toRelayRequest trials fuel = some outcome) :
    ∃ n, SameEnd outcome (relayRun call channels trials n) := by
  have hstart : relayRun call channels trials 0 = relayStart call channels (trials 0) := rfl
  simp only [relayStart, distributeCall, hpinned, husing, if_true] at hstart
  unfold relay at h
  cases hdistribute : distribute call.toRelayRequest (trials 0) with
  | none =>
    rw [hdistribute] at hstart h
    cases h
    exact ⟨0, by rw [hstart]; rfl, by rw [hstart]; rfl⟩
  | some found =>
    rw [hdistribute] at hstart h
    refine relayLoop_sameEnd htoken h ?_
    rw [hstart]
    exact ⟨rfl, rfl, rfl, rfl⟩

/-! ## Pinned channels and skipped retries -/

/-- The attempts of a request are as they should be: a pinned request is sent to its channel only,
nothing follows an error that is marked skip-retry, and a fixed group has at most one attempt more
than it has retries. -/
structure AttemptsRight (call : RelayCall) (attempts : List Attempt) : Prop where
  pinned : ∀ id, call.specificChannelId = some id →
    ∀ attempt ∈ attempts, attempt.channel.id = id
  skipRetry : attempts.IsChain fun attempt _ =>
    ∀ error, attempt.error = some error → error.skipRetry = false
  bounded : call.tokenGroup ≠ "auto" → attempts.length ≤ (call.retryTimes + 1).toNat

/-- `shouldRetry` asks for the skip-retry mark and the pinned channel before it lets the error
pass, or has nothing to ask for. -/
def RespectsMarks (call : RelayCall) (error : RelayError) : Prop :=
  error.isChannelError = true →
    call.affinitySkipRetry = true ∨ error.skipRetry = false ∧ call.specificChannelId = none

theorem RespectsMarks.of_shouldRetry {call : RelayCall} {error : RelayError} {retries : Int}
    (hmarks : RespectsMarks call error)
    (h : shouldRetry call.toRelayRequest error retries = true) :
    error.skipRetry = false ∧ call.specificChannelId = none := by
  have hspecific := call.specificChannel_eq
  unfold shouldRetry at h
  split at h
  · cases h
  next haffinity =>
  split at h
  next hchannel => exact (hmarks hchannel).resolve_left haffinity
  split at h
  · cases h
  next hskip =>
  split at h
  · cases h
  split at h
  · cases h
  next hpinned =>
  rw [hspecific, Bool.not_eq_true, isSome_eq_false_iff, isNone_iff_eq_none] at hpinned
  exact ⟨eq_false_of_ne_true hskip, hpinned⟩

theorem firstChannel_pinned {call : RelayCall} {channels : List Channel} {trial : Trial}
    {channel : Channel} {id : Int} (hid : call.specificChannelId = some id)
    (h : firstChannel call channels trial = some channel) : channel.id = id := by
  unfold firstChannel distributeCall at h
  rw [hid] at h
  cases hget : Table.get? Channel.id channels id with
  | none => simp [hget] at h
  | some found =>
    simp only [hget, map_eq_some_iff] at h
    obtain ⟨⟨ctx, chosen⟩, hchosen, rfl⟩ := h
    split at hchosen
    · cases hchosen
      exact Table.get?_key hget
    · cases hchosen

/-- The attempts of every request are as they should be after any number of iterations if the
errors that its attempts but the last one return respect the marks. -/
theorem attempts_right (call : RelayCall) (channels : List Channel) (trials : Nat → Trial) (n : Nat)
    (hmarks : ∀ i error, i + 1 < n → (trials i).result = .failed error →
      RespectsMarks call error) :
    AttemptsRight call (relayRun call channels trials n).attempts := by
  have hfollowed := followed_run call channels trials n
  -- an attempt that another one follows was retried, so its error has been asked for the marks
  have hretried : ∀ i attempt, (relayRun call channels trials n).attempts[i]? = some attempt →
      i + 1 < (relayRun call channels trials n).attempts.length →
      call.specificChannelId = none ∧ ∀ error, attempt.error = some error →
        error.skipRetry = false := by
    intro i attempt hat hi
    obtain ⟨error, retry, hresult, herror, hagain⟩ := hfollowed.retried i attempt hat (.inl hi)
    have hlt : i + 1 < n := Nat.lt_of_lt_of_le hi hfollowed.length_le
    obtain ⟨hskip, hnone⟩ := (hmarks i error hlt hresult).of_shouldRetry hagain
    refine ⟨hnone, fun other hother => ?_⟩
    obtain rfl : error = other := Option.some.inj (herror.symm.trans hother)
    exact hskip
  refine ⟨fun id hid attempt hmem => ?_, ?_, fun hgroup => (counted_run hgroup).bound⟩
  · -- a pinned request has one attempt, the one with the distributed channel
    cases hattempts : (relayRun call channels trials n).attempts with
    | nil => simp [hattempts] at hmem
    | cons head rest =>
      rw [hattempts] at hmem hretried
      cases rest with
      | nil =>
        rw [mem_singleton.mp hmem]
        exact firstChannel_pinned hid (hfollowed.head head (by simp [hattempts])).symm
      | cons second rest =>
        rw [(hretried 0 head rfl (by simp)).1] at hid
        cases hid
  · exact isChain_iff_getElem.mpr fun i hi =>
      (hretried i _ (getElem?_eq_getElem (by omega)) hi).2

/-- Two channels of the group `default`. -/
def pinnableTables : ChannelTables :=
  .ofChannels
    [{ id := 1, models := "gpt-4o", group := "default", priority := some 10 },
      { id := 2, models := "gpt-4o", group := "default", priority := some 5 }]
    (by decide)

def pinnedCall : RelayCall where
  modelName := "gpt-4o"
  autoGroupSetting := []
  usableGroups := ["default"]
  retryTimes := 1
  crossGroupRetry := false
  specificChannel := true
  usingGroup := "default"
  tokenGroup := "default"
  specificChannelId := some 1

/-- Every attempt ends with the error of `newAPIErrorFromParamOverride`: the code
`channel:param_override_invalid`, marked skip-retry. -/
def overrideTrial (_ : Nat) : Trial where
  cache := (initChannelCache (DescSort.insertion Int) pinnableTables).get (by decide +kernel)
  intn := .const 0
  result := .failed { isChannelError := true, skipRetry := true }

def unpinnedCall : RelayCall :=
  { pinnedCall with
    retryTimes := 2, specificChannel := false, specificChannelId := none
    specificChannel_eq := rfl }

/-- A channel error without a mark, and then errors that are marked. -/
def markedTrial (n : Nat) : Trial :=
  { overrideTrial n with
    result := .failed { isChannelError := decide (n = 0), skipRetry := decide (n ≠ 0) } }

/-- The request goes on to the other channel, and ends at the marked error. -/
theorem unpinned_request_respects_marks :
    ((relayRun unpinnedCall pinnableTables.channels markedTrial 3).attempts.map fun attempt =>
        (attempt.channel.id, attempt.error.map RelayError.skipRetry)) =
      [(1, some false), (2, some true)] ∧
    AttemptsRight unpinnedCall
      (relayRun unpinnedCall pinnableTables.channels markedTrial 3).attempts := by
  refine ⟨by decide +kernel, attempts_right _ _ _ 3 fun i error _ hresult hchannel => ?_⟩
  obtain rfl : _ = error := AttemptResult.failed.inj hresult
  obtain rfl : i = 0 := of_decide_eq_true hchannel
  exact .inr ⟨rfl, rfl⟩

/-- The error is followed by an attempt with the other channel. -/
theorem pinned_request_leaves_channel :
    ((relayRun pinnedCall pinnableTables.channels overrideTrial 2).attempts.map fun attempt =>
        (attempt.channel.id, attempt.error.map RelayError.skipRetry)) =
      [(1, some true), (2, some true)] ∧
    ¬AttemptsRight pinnedCall
      (relayRun pinnedCall pinnableTables.channels overrideTrial 2).attempts := by
  have hat : ((relayRun pinnedCall pinnableTables.channels overrideTrial 2).attempts.map
      fun attempt => (attempt.channel.id, attempt.error.map RelayError.skipRetry)) =
        [(1, some true), (2, some true)] := by
    decide +kernel
  refine ⟨hat, fun h => ?_⟩
  have hse : ((2 : Int), some true) ∈
      (relayRun pinnedCall pinnableTables.channels overrideTrial 2).attempts.map
        fun attempt => (attempt.channel.id, attempt.error.map RelayError.skipRetry) := by
    exact mem_cons_of_mem _ (mem_singleton_self _)
  obtain ⟨attempt, hm, heq⟩ := mem_map.mp hse
  have hpi := h.pinned 1 rfl attempt hm
  have hid := congrArg Prod.fst heq
  omega

end NewApi.Relay
