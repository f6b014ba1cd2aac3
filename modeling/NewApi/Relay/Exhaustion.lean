import NewApi.Relay.Retry

/-!
# Groups are left when they are exhausted

`CacheGetRandomSatisfiedChannel` documents that each auto group exhausts its priorities before the
next one is tried. But a group is left after `RetryTimes + 1` attempts, as
`GetRandomSatisfiedChannel` repeats the lowest priority. So it holds exactly if no group has more
levels, or there are no retries.
-/

namespace NewApi.Relay

open Lib Lib.Ranking Lib.Pick Channels List Channel

/-- The channels of the `i`-th auto group. -/
def groupChannels (req : RelayRequest) (channels : List Channel) (i : Nat) : List Channel :=
  match req.autoGroups[i]? with
  | none => []
  | some group => candidateChannels channels group req.modelName

/-- Every priority level of the `i`-th group has been tried. -/
def Exhausted (req : RelayRequest) (channels : List Channel) (attempts : List Selection)
    (i : Nat) : Prop :=
  ∀ channel ∈ groupChannels req channels i, ∃ attempt ∈ attempts,
    attempt.groupIndex = i ∧ attempt.channel.getPriority = channel.getPriority

def LeavesExhausted (req : RelayRequest) (channels : List Channel) (attempts : List Selection) :
    Prop :=
  ∀ before attempt after, attempts = before ++ attempt :: after →
    ∀ i < attempt.groupIndex, Exhausted req channels before i

/-- Groups are tried in order and left when they are exhausted; when the loop finds no channel any
more, all groups are exhausted. -/
structure Orderly (req : RelayRequest) (channels : List Channel) (outcome : RelayOutcome) :
    Prop where
  inOrder : (outcome.attempts.map Selection.groupIndex).Pairwise (· ≤ ·)
  leavesExhausted : LeavesExhausted req channels outcome.attempts
  atEnd : ∀ message, outcome.ended = .noChannel message →
    ∀ i, Exhausted req channels outcome.attempts i

variable {i : Nat} {sel : Selection} {ctx : RetryContext}

section

variable {req : RelayRequest} {channels : List Channel} {atts : List Selection}

theorem Exhausted.mono (h : Exhausted req channels atts i) :
    Exhausted req channels (atts ++ more) i := by
  intro ch hch
  obtain ⟨attempt, hm, hat⟩ := h ch hch
  exact ⟨attempt, mem_append_left _ hm, hat⟩

theorem LeavesExhausted.concat (h : LeavesExhausted req channels atts)
    (hpr : ∀ i < sel.groupIndex, Exhausted req channels atts i) :
    LeavesExhausted req channels (atts ++ [sel]) := by
  intro pre att aft heq
  rcases eq_nil_or_concat aft with rfl | ⟨rest, last, rfl⟩
  · obtain ⟨rfl, hl⟩ := append_inj' heq rfl
    cases hl
    exact hpr
  have hsp : atts ++ [sel] = (pre ++ att :: rest) ++ [last] := by
    rw [heq]
    simp
  obtain ⟨rfl, -⟩ := append_inj' hsp rfl
  exact h pre att rest rfl

theorem inOrder_concat (h : (atts.map Selection.groupIndex).Pairwise (· ≤ ·))
    (hl : ∀ att ∈ atts, att.groupIndex ≤ sel.groupIndex) :
    ((atts ++ [sel]).map Selection.groupIndex).Pairwise (· ≤ ·) := by
  rw [map_append, pairwise_append]
  refine ⟨h, by simp, fun i hi j hj => ?_⟩
  obtain ⟨att, hat, rfl⟩ := mem_map.mp hi
  rw [map_singleton, mem_singleton] at hj
  exact hj ▸ hl att hat

theorem exhausted_of_noChannelFor (hca : CacheOf channels cache)
    (h : ∀ grp, req.autoGroups[i]? = some grp → NoChannelFor req cache itn grp) :
    Exhausted req channels atts i := by
  intro ch hch
  unfold groupChannels at hch
  split at hch
  · cases hch
  next grp hg =>
    obtain ⟨retry, hn⟩ := h grp hg
    obtain ⟨fnd, hfn, -⟩ := hca.getRandomSatisfiedChannel_ok (ne_nil_of_mem hch)
    exact absurd hfn (hn fnd)

theorem Chosen.level {cache : ChannelCache} {itn : Intn} (hca : CacheOf channels cache)
    {next : RetryContext} (h : Chosen req cache itn ctx sel next) :
    levelAt ((groupChannels req channels sel.groupIndex).map getPriority)
      (ctx.levelFor sel.groupIndex) = some sel.channel.getPriority := by
  have hse := hca.canReturn_cached_iff.mp ⟨itn, h.channel⟩
  simp only [groupChannels, h.group]
  exact hse.2.1

end

/-! ## The groups are tried in order -/

variable {tri : Trial} {fuel : Nat} {outcome oc : RelayOutcome}

open RetryContext

section

variable {req : RelayRequest} {trials : Nat → Trial}

/-- The attempts so far are in order, and none is past the current group. -/
structure InOrder (state : LoopState) : Prop where
  distributed : state.distributed = none
  reset : state.ctx.resetNextTry = false
  sorted : (state.attempts.map Selection.groupIndex).Pairwise (· ≤ ·)
  upTo : ∀ attempt ∈ state.attempts, attempt.groupIndex ≤ state.ctx.start

theorem Chosen.groupIndex_le {cache : ChannelCache} {itn : Intn} {next : RetryContext}
    (h : Chosen req cache itn ctx sel next) : sel.groupIndex ≤ next.start := by
  rw [h.next, prepareNextTry]
  split
  · exact Nat.le_succ _
  · exact Nat.le_refl _

theorem RetryContext.start_increaseRetry : ctx.increaseRetry.start = ctx.start := by
  unfold increaseRetry
  split <;> rfl

theorem InOrder.sorted_concat (h : InOrder state) (hch : Chosen req cache itn state.ctx sel nxt) :
    ((state.attempts ++ [sel]).map Selection.groupIndex).Pairwise (· ≤ ·) :=
  inOrder_concat h.sorted fun att hat => (h.upTo att hat).trans hch.start_le

theorem InOrder.afterRetry {state : LoopState} (h : InOrder state) {cache : ChannelCache}
    {itn : Intn}
    {next : RetryContext} (hch : Chosen req cache itn state.ctx sel next) (ug : String) :
    InOrder ⟨next.increaseRetry, none, ug, state.attempts ++ [sel]⟩ := by
  refine ⟨rfl, (hch.increaseRetry_cases h.reset).1, h.sorted_concat hch, ?_⟩
  intro att hat
  rw [start_increaseRetry]
  rcases mem_append.mp hat with ho | hn
  · exact ((h.upTo att ho).trans hch.start_le).trans hch.groupIndex_le
  · rw [mem_singleton.mp hn]
    exact hch.groupIndex_le

theorem inOrder_start : InOrder ⟨{}, none, ug, []⟩ :=
  ⟨rfl, rfl, List.Pairwise.nil, fun _ hat => absurd hat not_mem_nil⟩

section

variable (hpr : req.preferred = none)
include hpr

theorem chosen_of_distribute_of_pos (hp : 0 < req.retryTimes)
    (h : distribute req tri = some (ctx, sel)) : Chosen req tri.cache tri.intn {} sel ctx := by
  obtain ⟨next, hch, hct⟩ := chosen_of_distribute hpr h
  have hle : levelFor {} sel.groupIndex = 0 := by
    unfold levelFor
    split <;> rfl
  have hs : ctx = next := by
    rw [hct, hch.next, prepareNextTry, if_neg, hle]
    rw [hle]
    exact fun hus => absurd hus.2 (Int.not_le.mpr hp)
  rw [hs]
  exact hch

theorem inOrder_first (h : distribute req tri = some (ctx, sel)) :
    InOrder ⟨ctx.increaseRetry, none, ug, [sel]⟩ := by
  obtain ⟨-, hr, -⟩ := distribute_eq_some h
  obtain ⟨next, hch, hct⟩ := chosen_of_distribute hpr h
  refine ⟨rfl, ?_, by simp, ?_⟩
  · rw [increaseRetry, if_neg (by simp [hr])]
    exact hr
  · intro att hat
    rw [mem_singleton.mp hat, start_increaseRetry, hct]
    exact hch.groupIndex_le

theorem relay_inOrder (h : relay req trials fuel = some outcome) :
    (outcome.attempts.map Selection.groupIndex).Pairwise (· ≤ ·) := by
  obtain ⟨-, rfl⟩ | ⟨ctx, sel, hfi, ⟨-, rfl⟩ | ⟨ended, -, rfl⟩ | ⟨-, fuel, hlo⟩⟩ := relay_cases h
  · exact List.Pairwise.nil
  · exact List.Pairwise.nil
  · simp
  refine relayLoop_rule InOrder
    (fun outcome => (outcome.attempts.map Selection.groupIndex).Pairwise (· ≤ ·))
    ?_ ?_ ?_ ?_ (inOrder_first hpr hfi) hlo
  · exact fun state hst _ => hst.sorted
  · exact fun n state ctx ug e hst _ _ => hst.sorted
  · intro n state ctx ug sel ended hst _ hg _
    exact hst.sorted_concat (getChannel_eq_ok hst.distributed hg).1
  · intro n state ctx ug sel hst _ hg _
    exact hst.afterRetry (getChannel_eq_ok hst.distributed hg).1 ug

end

end

/-! ## Groups with few levels are exhausted -/

variable {ended en : LoopEnd}

section

variable {req : RelayRequest} {channels : List Channel} {trials : Nat → Trial}

def FewLevels (req : RelayRequest) (channels : List Channel) : Prop :=
  ∀ i, ((levels ((groupChannels req channels i).map Channel.getPriority)).length : Int) ≤
    req.retryTimes + 1

structure TriedLevels (req : RelayRequest) (channels : List Channel) (state : LoopState) : Prop
    extends InOrder state where
  retry_le : state.ctx.retry ≤ req.retryTimes
  leaves : LeavesExhausted req channels state.attempts
  before : ∀ i < state.ctx.start, Exhausted req channels state.attempts i
  levels : ∀ k < state.ctx.retry, ∀ priority,
    levelAt ((groupChannels req channels state.ctx.start).map Channel.getPriority) k =
      some priority →
    ∃ attempt ∈ state.attempts, attempt.groupIndex = state.ctx.start ∧
      attempt.channel.getPriority = priority

section

variable {st : LoopState} {cac : ChannelCache} {itn : Intn} {next : RetryContext} {sel : Selection}

section

variable (h : TriedLevels req channels st)
include h

theorem TriedLevels.exhausted_before (hca : CacheOf channels cac)
    (hch : Chosen req cac itn st.ctx sel next) :
    ∀ i < sel.groupIndex, Exhausted req channels st.attempts i := by
  intro i hi
  rcases Nat.lt_or_ge i st.ctx.start with hlt | hge
  · exact h.before i hlt
  · exact exhausted_of_noChannelFor hca fun grp hg => hch.passed i grp hge hi hg

theorem TriedLevels.tried_upTo
    (hca : CacheOf channels cac) (hch : Chosen req cac itn st.ctx sel next)
    {k : Nat} (hk : k ≤ st.ctx.levelFor sel.groupIndex) {prio : Int}
    (hle : levelAt ((groupChannels req channels sel.groupIndex).map getPriority) k = some prio) :
    ∃ att ∈ st.attempts ++ [sel], att.groupIndex = sel.groupIndex ∧
      att.channel.getPriority = prio := by
  rcases Nat.eq_or_lt_of_le hk with rfl | hlt
  · refine ⟨sel, by simp, rfl, ?_⟩
    rw [hch.level hca] at hle
    exact Option.some.inj hle
  -- lower levels have been asked for only if the group is the current one
  unfold levelFor at hlt
  split at hlt
  next hs =>
    rw [hs] at hle ⊢
    obtain ⟨att, hm, hat⟩ := h.levels k hlt prio hle
    exact ⟨att, mem_append_left _ hm, hat⟩
  · cases hlt

theorem TriedLevels.afterRetry (hfe : FewLevels req channels) (hcr : req.crossGroupRetry = true)
    (hp : 0 < req.retryTimes) (hca : CacheOf channels cac)
    (hcn : Chosen req cac itn st.ctx sel next) :
    TriedLevels req channels ⟨next.increaseRetry, none, ug, st.attempts ++ [sel]⟩ := by
  have hpr := h.exhausted_before hca hcn
  have htr := fun k hk prio => @TriedLevels.tried_upTo req channels st cac itn next
    sel h hca hcn k hk prio
  have hor := h.toInOrder.afterRetry hcn ug
  have hla := h.leaves.concat hpr
  obtain ⟨-, -, ⟨-, hus, hs0, hrt⟩ | ⟨hlf, hs0, hrt⟩⟩ := hcn.increaseRetry_cases h.reset
  · -- the group is left: its levels are no more than the attempts it has had
    refine ⟨hor, ?_, hla, ?_, ?_⟩
    · show (next.increaseRetry.retry : Int) ≤ req.retryTimes
      omega
    · rw [hs0]
      intro i hi
      rcases Nat.eq_or_lt_of_le (Nat.le_of_lt_succ hi) with rfl | hlt
      · intro ch hch
        obtain ⟨k, hk, hlv⟩ := exists_levelAt (mem_map_of_mem hch)
        refine htr k ?_ _ hlv
        have hct := hfe sel.groupIndex
        omega
      · exact (hpr i hlt).mono
    · rw [hrt]
      exact fun k hk => absurd hk (Nat.not_lt_zero k)
  · -- the group stays: one more level has been tried
    refine ⟨hor, ?_, hla, ?_, ?_⟩
    · show (next.increaseRetry.retry : Int) ≤ req.retryTimes
      have hlt : ¬ req.retryTimes ≤ st.ctx.levelFor sel.groupIndex := fun hle => hlf ⟨hcr, hle⟩
      omega
    · rw [hs0]
      exact fun i hi => (hpr i hi).mono
    · rw [hrt, hs0]
      exact fun k hk prio hlv => htr k (Nat.le_of_lt_succ hk) prio hlv

end

end

theorem attemptEnd_ne_noChannel (h : attemptEnd req res rt = some en) (msg : String) :
    en ≠ .noChannel msg := by
  rintro rfl
  unfold attemptEnd at h
  split at h
  · cases h
  · cases h
  · split at h <;> cases h

theorem attemptEnd_ne_none (hsk : req.affinitySkipRetry = true) : attemptEnd req res rt ≠ none := by
  cases res <;> simp [attemptEnd, shouldRetry, hsk]

theorem orderly_nil (he : ∀ message, ended ≠ .noChannel message) :
    Orderly req channels ⟨[], ug, ended⟩ := by
  refine ⟨List.Pairwise.nil, ?_, fun message h => absurd h (he message)⟩
  intro pre att aft heq
  cases pre <;> cases heq

section

variable (hpr : req.preferred = none)
include hpr

theorem orderly_single (hca : CacheOf channels tri.cache) (h : distribute req tri = some (ctx, sel))
    (he : ∀ message, ended ≠ .noChannel message) : Orderly req channels ⟨[sel], ug, ended⟩ := by
  obtain ⟨next, hch, -⟩ := chosen_of_distribute hpr h
  refine ⟨by simp, ?_, fun message h => absurd h (he message)⟩
  refine (@orderly_nil ended req channels ug he).leavesExhausted.concat ?_
  intro i hi
  exact exhausted_of_noChannelFor hca fun grp hg => hch.passed i grp (Nat.zero_le i) hi hg

theorem triedLevels_first (hfe : FewLevels req channels) (hcr : req.crossGroupRetry = true)
    (hp : 0 < req.retryTimes) (hca : CacheOf channels tri.cache)
    (h : distribute req tri = some (ctx, sel)) :
    TriedLevels req channels ⟨ctx.increaseRetry, none, ug, [sel]⟩ := by
  have hch := chosen_of_distribute_of_pos hpr hp h
  have hs0 : TriedLevels req channels ⟨{}, none, ug, []⟩ :=
    { toInOrder := inOrder_start
      retry_le := Int.le_of_lt hp
      leaves := (@orderly_nil .served req channels ug (fun _ => nofun)).leavesExhausted
      before := fun i hi => absurd hi (Nat.not_lt_zero i)
      levels := fun k hk => absurd hk (Nat.not_lt_zero k) }
  exact hs0.afterRetry hfe hcr hp hca hch

theorem relay_orderly (hcr : req.crossGroupRetry = true)
    (hca : ∀ n, CacheOf channels (trials n).cache)
    (hco : req.affinitySkipRetry = true ∨ req.retryTimes ≤ 0 ∨ FewLevels req channels)
    (h : relay req trials fuel = some oc) : Orderly req channels oc := by
  obtain ⟨-, rfl⟩ |
      ⟨ctx, sel, hfi, ⟨-, rfl⟩ | ⟨ended, he, rfl⟩ | ⟨hre, fuel, hlo⟩⟩ :=
    relay_cases h
  · exact orderly_nil fun _ => nofun
  · exact orderly_nil fun _ => nofun
  · exact orderly_single hpr (hca 0) hfi (attemptEnd_ne_noChannel he)
  by_cases hz : req.retryTimes ≤ 0
  · -- the counter is past `RetryTimes` after the first attempt
    obtain ⟨hrt, hr, -⟩ := distribute_eq_some hfi
    have hon : ctx.increaseRetry.retry = 1 := by
      rw [increaseRetry, if_neg (by simp [hr])]
      exact congrArg (· + 1) hrt
    cases fuel with
    | zero => cases hlo
    | succ fuel =>
      rw [relayLoop, if_pos (by rw [hon]; omega)] at hlo
      cases hlo
      exact orderly_single hpr (hca 0) hfi fun _ => nofun
  · have hp := Int.not_le.mp hz
    rcases hco with hsk | hz' | hfe
    · exact absurd hre (attemptEnd_ne_none hsk)
    · exact absurd hz' hz
    refine relayLoop_rule (TriedLevels req channels) (Orderly req channels) ?_ ?_ ?_ ?_
      (triedLevels_first hpr hfe hcr hp (hca 0) hfi) hlo
    · intro state hst hlt
      exact absurd hst.retry_le (Int.not_le.mpr hlt)
    · intro n state ctx ug e hst _ hg
      refine ⟨hst.sorted, hst.leaves, fun _ _ i => ?_⟩
      rcases Nat.lt_or_ge i state.ctx.start with hlt | hge
      · exact hst.before i hlt
      · exact exhausted_of_noChannelFor (hca n) fun grp hgr => getChannel_eq_error hg hge hgr
    · intro n state ctx ug sel ended hst _ hg he
      have hch := (getChannel_eq_ok hst.distributed hg).1
      exact ⟨hst.sorted_concat hch,
        hst.leaves.concat (hst.exhausted_before (hca n) hch),
        fun message h => absurd h (attemptEnd_ne_noChannel he message)⟩
    · intro n state ctx ug sel hst _ hg _
      exact hst.afterRetry hfe hcr hp (hca n) (getChannel_eq_ok hst.distributed hg).1

end

end

/-! ## Groups with more levels are not exhausted -/

section

variable {req : RelayRequest} {channels : List Channel}

/-- The number of attempts with the `i`-th group. -/
def countIn (attempts : List Selection) (i : Nat) : Nat :=
  attempts.countP (·.groupIndex = i)

theorem Exhausted.levels_le (h : Exhausted req channels attempts i) :
    (levels ((groupChannels req channels i).map getPriority)).length ≤ countIn attempts i := by
  have hs : levels ((groupChannels req channels i).map getPriority) ⊆
      (attempts.filter (·.groupIndex = i)).map (·.channel.getPriority) := by
    intro rank hra
    obtain ⟨channel, hch, rfl⟩ := mem_map.mp (mem_levels.mp hra)
    obtain ⟨attempt, hm, hi, hpr⟩ := h channel hch
    exact mem_map.mpr ⟨attempt, mem_filter.mpr ⟨hm, decide_eq_true hi⟩, hpr⟩
  have hl := (subperm_of_subset (nodup_levels) hs).length_le
  rwa [length_map, ← countP_eq_length_filter] at hl

/-- A group gets as many attempts as the retry counter says, and never more than
`RetryTimes + 1`. -/
structure CountedAttempts (req : RelayRequest) (state : LoopState) : Prop
    extends InOrder state where
  retry_le : state.ctx.retry ≤ req.retryTimes
  current : countIn state.attempts state.ctx.start = state.ctx.retry
  all : ∀ i, (countIn state.attempts i : Int) ≤ req.retryTimes + 1

theorem CountedAttempts.afterRetry {state : LoopState} (h : CountedAttempts req state)
    (hcr : req.crossGroupRetry = true) {cache : ChannelCache} {itn : Intn} {next : RetryContext}
    (hch : Chosen req cache itn state.ctx sel next) :
    CountedAttempts req ⟨next.increaseRetry, none, ug, state.attempts ++ [sel]⟩ := by
  -- the groups after the current one have not been tried
  have hn : ∀ i, state.ctx.start < i → countIn state.attempts i = 0 := by
    intro i hi
    refine countP_eq_zero.mpr fun att hat hid => ?_
    have hle := h.upTo att hat
    have heq := of_decide_eq_true hid
    omega
  have hcn : ∀ i, countIn (state.attempts ++ [sel]) i =
      countIn state.attempts i + if sel.groupIndex = i then 1 else 0 := by
    intro i
    simp only [countIn, countP_append, countP_singleton, decide_eq_true_eq]
  have hcc : countIn state.attempts sel.groupIndex =
      state.ctx.levelFor sel.groupIndex := by
    unfold levelFor
    split
    next hs => rw [hs, h.current]
    next hne => exact hn _ (Nat.lt_of_le_of_ne hch.start_le (Ne.symm hne))
  have hlv : (state.ctx.levelFor sel.groupIndex : Int) ≤ req.retryTimes := by
    have hle := h.retry_le
    unfold levelFor
    split <;> omega
  have ha : ∀ i, (countIn (state.attempts ++ [sel]) i : Int) ≤ req.retryTimes + 1 := by
    intro i
    rw [hcn]
    split
    next heq =>
      rw [← heq, hcc]
      omega
    · simpa using h.all i
  have hor := h.toInOrder.afterRetry hch ug
  obtain ⟨-, -, ⟨-, -, hs0, hrt⟩ | ⟨hlf, hs0, hrt⟩⟩ := hch.increaseRetry_cases h.reset
  · -- the retries of the group are used up, and the next attempt is in the group after it
    refine ⟨hor, ?_, ?_, ha⟩
    · show (next.increaseRetry.retry : Int) ≤ req.retryTimes
      omega
    · rw [hs0, hrt, hcn, hn _ (Nat.lt_succ_of_le hch.start_le), if_neg (by omega)]
  refine ⟨hor, ?_, ?_, ha⟩
  · show (next.increaseRetry.retry : Int) ≤ req.retryTimes
    have hlt : ¬ req.retryTimes ≤ state.ctx.levelFor sel.groupIndex := fun hle => hlf ⟨hcr, hle⟩
    omega
  · rw [hs0, hrt, hcn, hcc, if_pos rfl]

def failingTrial (cache : ChannelCache) : Trial where
  cache := cache
  intn := Intn.const 0
  result := .failed { isChannelError := true }

theorem attemptEnd_failingTrial (hsk : req.affinitySkipRetry = false) (cache : ChannelCache)
    (retry : Int) : attemptEnd req (failingTrial cache).result retry = none := by
  simp [attemptEnd, failingTrial, shouldRetry, hsk]

theorem failing_relay (hpr : req.preferred = none) (hcr : req.crossGroupRetry = true)
    (hsk : req.affinitySkipRetry = false) (hp : 0 < req.retryTimes)
    (h : relay req (fun _ => failingTrial cache) fuel = some outcome) :
    distribute req (failingTrial cache) = none ∨
      (∃ message, outcome.ended = .noChannel message) ∧
        ∀ i, (countIn outcome.attempts i : Int) ≤ req.retryTimes + 1 := by
  have hre := attemptEnd_failingTrial hsk cache
  obtain ⟨hn, -⟩ | ⟨ctx, sel, hfi, ⟨hne, -⟩ | ⟨ended, he, -⟩ | ⟨-, fuel, hlo⟩⟩ := relay_cases h
  · exact .inl hn
  · omega
  · rw [hre] at he
    cases he
  refine .inr ?_
  refine relayLoop_rule (CountedAttempts req) (fun outcome =>
    (∃ message, outcome.ended = .noChannel message) ∧
      ∀ i, (countIn outcome.attempts i : Int) ≤ req.retryTimes + 1) ?_ ?_ ?_ ?_ ?_ hlo
  · intro state hst hlt
    exact absurd hst.retry_le (Int.not_le.mpr hlt)
  · intro n state ctx ug e hst _ _
    exact ⟨⟨e, rfl⟩, hst.all⟩
  · intro n state ctx ug sel ended _ _ _ he
    rw [hre] at he
    cases he
  · intro n state ctx ug sel hst _ hg _
    exact hst.afterRetry hcr (getChannel_eq_ok hst.distributed hg).1
  have hs0 : CountedAttempts req ⟨{}, none, sel.group, []⟩ :=
    { toInOrder := inOrder_start
      retry_le := Int.le_of_lt hp
      current := rfl
      all := fun i => by
        show (0 : Int) ≤ req.retryTimes + 1
        omega }
  exact hs0.afterRetry hcr (chosen_of_distribute_of_pos hpr hp hfi)

theorem distribute_ne_none (hpr : req.preferred = none) (hca : CacheOf channels tri.cache)
    (hne : groupChannels req channels i ≠ []) : distribute req tri ≠ none := by
  intro hn
  obtain ⟨channel, hch⟩ := exists_mem_of_ne_nil _ hne
  unfold distribute at hn
  simp only [hpr, Option.bind_none] at hn
  split at hn
  · cases hn
  next hco =>
    have hno : ∀ grp, req.autoGroups[i]? = some grp →
        NoChannelFor req tri.cache tri.intn grp := fun grp hg =>
      noChannelFor_of_none rfl (fun sel hso => hco _ sel (Prod.ext rfl hso)) (Nat.zero_le i) hg
    have hex : Exhausted req channels [] i := exhausted_of_noChannelFor hca hno
    obtain ⟨attempt, hat, -⟩ := hex channel hch
    cases hat

end

/-- For every request the loop ends. Without a preferred channel the groups are tried in order. If
moreover the channels do not change during the request, then with cross-group retry every pattern
of attempts leaves groups only when they are exhausted exactly if the request is not retried at all
or no group has more than `RetryTimes + 1` levels. -/
theorem retry_loop_orderly_iff (req : RelayRequest) :
    (∀ trials, ∃ outcome, ∀ fuel, req.fuelBound ≤ fuel → relay req trials fuel = some outcome) ∧
    (req.preferred = none →
      (∀ trials fuel outcome, relay req trials fuel = some outcome →
        (outcome.attempts.map Selection.groupIndex).Pairwise (· ≤ ·)) ∧
      ∀ channels cache, CacheOf channels cache → req.crossGroupRetry = true →
        ((∀ trials : Nat → Trial, (∀ n, CacheOf channels (trials n).cache) →
            ∀ fuel outcome, relay req trials fuel = some outcome →
              Orderly req channels outcome) ↔
          req.affinitySkipRetry = true ∨ req.retryTimes ≤ 0 ∨ FewLevels req channels)) := by
  refine ⟨relay_terminates, fun hpr => ⟨fun trials fuel outcome =>
    relay_inOrder hpr, fun channels cache hca hcr => ⟨fun hor => ?_,
    fun hco trials hcc fuel outcome => relay_orderly hpr hcr hcc hco⟩⟩⟩
  by_contra hco
  rw [not_or, not_or, Bool.not_eq_true, Int.not_le] at hco
  obtain ⟨hsk, hpo, hfe⟩ := hco
  refine hfe fun i => ?_
  -- run the request whose attempts all fail, and count its attempts with the group
  obtain ⟨outcome, hou⟩ := relay_terminates fun _ => failingTrial cache
  have hre := hou req.fuelBound (Nat.le_refl _)
  have hex := hor _ (fun _ => hca) _ _ hre
  rcases failing_relay hpr hcr hsk hpo hre with
    hn | ⟨⟨message, hen⟩, hcu⟩
  · have he : groupChannels req channels i = [] := by
      by_contra hne
      exact distribute_ne_none hpr hca hne hn
    rw [he]
    show (0 : Int) ≤ req.retryTimes + 1
    omega
  · have hle := (hex.atEnd message hen i).levels_le
    have := hcu i
    omega

/-- Three channels of different priorities for `vip`, and one for `default`. -/
def leveledTables : ChannelTables :=
  .ofChannels
    [{ id := 1, models := "gpt-4o", group := "vip", priority := some 10 },
      { id := 2, models := "gpt-4o", group := "vip", priority := some 5 },
      { id := 3, models := "gpt-4o", group := "vip" },
      { id := 4, models := "gpt-4o", group := "default" }]
    (by decide)

def leveledCache : ChannelCache :=
  (initChannelCache (DescSort.insertion Int) leveledTables).get (by decide +kernel)

/-- A request for `vip`, and then for `default`. -/
def leveledRequest (retryTimes : Int) : RelayRequest where
  modelName := "gpt-4o"
  autoGroupSetting := ["vip", "default"]
  usableGroups := ["default", "vip"]
  retryTimes := retryTimes
  crossGroupRetry := true

theorem leveledCache_of_init : CacheOf leveledTables.channels leveledCache :=
  CacheOf.of_init (Option.some_get _).symm

/-- With two retries, the three levels of `vip` are tried before `default`. -/
theorem leveledRequest_two_retries_orderly :
    ∃ outcome, relay (leveledRequest 2) (fun _ => failingTrial leveledCache) 11 = some outcome ∧
      Orderly (leveledRequest 2) leveledTables.channels outcome ∧
      outcome.attempts.map (·.channel.id) = [1, 2, 3, 4, 4, 4] := by
  obtain ⟨hte, hor⟩ := retry_loop_orderly_iff (leveledRequest 2)
  have hfe : FewLevels (leveledRequest 2) leveledTables.channels
    | 0 => by decide +kernel
    | 1 => by decide +kernel
    | i + 2 => by
        show ((levels []).length : Int) ≤ 3
        decide
  obtain ⟨outcome, hou⟩ := hte fun _ => failingTrial leveledCache
  have hre := hou 11 (by decide)
  refine ⟨outcome, hre, ?_, ?_⟩
  · exact ((hor rfl).2 _ leveledCache leveledCache_of_init rfl).mpr (.inr (.inr hfe)) _
      (fun _ => leveledCache_of_init) _ _ hre
  have hat : (relay (leveledRequest 2) (fun _ => failingTrial leveledCache) 11).map
      (·.attempts.map (·.channel.id)) = some [1, 2, 3, 4, 4, 4] := by
    decide +kernel
  rw [hre] at hat
  exact Option.some.inj hat

/-- The channel for `default`, preferred. -/
def preferringRequest : RelayRequest :=
  { leveledRequest 1 with preferred := some { id := 4, models := "gpt-4o", group := "default" } }

/-- With one retry, `vip` is left although its third level has not been tried. After the preferred
channel of the second group, the loop goes back to the first group, past its first level. -/
theorem third_level_skipped_and_group_index_decreases :
    (relay (leveledRequest 1) (fun _ => failingTrial leveledCache) 9).map
        (·.attempts.map fun attempt => (attempt.groupIndex, attempt.channel.id)) =
      some [(0, 1), (0, 2), (1, 4), (1, 4)] ∧
    (groupChannels (leveledRequest 1) leveledTables.channels 0).map Channel.getPriority =
      [10, 5, 0] ∧
    (relay preferringRequest (fun _ => failingTrial leveledCache) 9).map
        (·.attempts.map fun attempt => (attempt.groupIndex, attempt.channel.id)) =
      some [(1, 4), (0, 2), (1, 4), (1, 4)] := by
  decide +kernel

end NewApi.Relay
