import NewApi.RateLimit.ModelRequest

/-!
# The two variants of the limit on model requests

Every queue in memory and the list in Redis hold what is left of a log (`Tracks`), so each decision
is about the number of times in the last window. `variants_right_iff` says for which requests both
variants decide as they should.
-/

namespace NewApi.RateLimit

open Lib List

/-! ## What the limits mean -/

/-- The cleaner, if there is one, drops no time that is still in the window. -/
def LimitConfig.Covers (config : LimitConfig) : Prop :=
  config.expiration = 0 ∨ config.duration ≤ config.expiration + 1

namespace LimiterState

variable (config : LimitConfig) (state : LimiterState)

def SuccessReached (log : RequestLog) (now : Nat) : Prop :=
  0 < config.successMaxCount ∧
    config.successMaxCount ≤ Window.recent config.duration now log.succeeded

def WindowsKept (log : RequestLog) : Prop :=
  0 < config.totalMaxCount →
    ∀ moment, Window.recent config.duration moment log.admitted ≤ config.totalMaxCount

/-- A request that arrives now is treated as it should be: both variants admit it or neither, each
refuses it for the limit on successful requests exactly if the limit is reached, and afterwards both
have kept the limit on all requests. -/
structure RightArrival (now : Nat) : Prop where
  same : state.memoryDecision config now = .admitted ↔ state.redisDecision config now = .admitted
  memorySuccess :
    state.memoryDecision config now = .successLimit ↔ SuccessReached config state.memoryLog now
  redisSuccess :
    state.redisDecision config now = .successLimit ↔ SuccessReached config state.redisLog now
  memoryWindows : WindowsKept config (state.arrive config now).memoryLog
  redisWindows : WindowsKept config (state.arrive config now).redisLog

def RightStep (action : LimiterAction) : Prop :=
  ∀ wait, action = .arrive wait → (state.step config action).isSome →
    state.RightArrival config (state.clock + wait)

def TotalReached (now : Nat) : Prop :=
  0 < config.totalMaxCount ∧
    config.totalMaxCount ≤ Window.recent config.duration now state.passed

/-- As many requests as may succeed, and at least one, were admitted in the last window. -/
def AdmittedReached (now : Nat) : Prop :=
  max 1 config.successMaxCount ≤ Window.recent config.duration now state.memoryLog.admitted

def BucketEmpty (now : Nat) : Prop :=
  0 < config.totalMaxCount ∧ state.redis.tokens config now < config.duration

/-- The condition on a request: if the limit on successful requests is reached, the queue of all
requests is not full and as many requests were admitted. If it is not, the bucket is empty exactly
when this queue is full, and unless it is full fewer requests were admitted. -/
def ArrivalOk (now : Nat) : Prop :=
  (SuccessReached config state.memoryLog now →
      ¬state.TotalReached config now ∧ state.AdmittedReached config now) ∧
    (¬SuccessReached config state.memoryLog now →
      (state.BucketEmpty config now ↔ state.TotalReached config now) ∧
        (state.AdmittedReached config now → state.TotalReached config now))

def StepOk (action : LimiterAction) : Prop :=
  ∀ wait, action = .arrive wait → (state.step config action).isSome →
    state.ArrivalOk config (state.clock + wait)

instance decidableArrivalOk (now : Nat) : Decidable (state.ArrivalOk config now) := by
  unfold ArrivalOk SuccessReached TotalReached AdmittedReached BucketEmpty
  infer_instance

instance decidableStepOk : (action : LimiterAction) → Decidable (state.StepOk config action)
  | .arrive wait =>
    decidable_of_iff
      ((state.step config (.arrive wait)).isSome → state.ArrivalOk config (state.clock + wait))
      ⟨fun hok _ harrive => by cases harrive; exact hok, fun hok => hok wait rfl⟩
  | .finish _ _ => isTrue nofun
  | .clear _ => isTrue nofun

end LimiterState

/-! ## The queues in memory -/

structure QueueKeeps (duration limit now : Nat) (log : List Nat) (queue : Option (List Nat)) :
    Prop where
  keeps : Window.Keeps duration limit now log (queue.getD [])
  nonempty : queue ≠ some []

namespace QueueKeeps

variable {duration mrn lim now ltr : Nat} {log : List Nat}
  {que : Option (List Nat)}

theorem mono (h : QueueKeeps duration lim now log queue) (hle : now ≤ ltr) :
    QueueKeeps duration lim ltr log queue :=
  ⟨h.keeps.mono hle, h.nonempty⟩

theorem mem_log (h : QueueKeeps duration lim now log queue) (hm : tm ∈ queue.getD []) :
    tm ∈ log := by
  obtain ⟨old, hlo, -⟩ := h.keeps.kept
  rw [hlo]
  exact mem_append_right _ hm

section

variable (h : QueueKeeps duration (max 1 mrn) now log que)
include h

theorem request_eq :
    request mrn duration now que =
      if max 1 mrn ≤ (que.getD []).length ∧ now < (que.getD []).headD 0 + duration
      then (false, que)
      else (true, some ((if (que.getD []).length < max 1 mrn then que.getD []
        else (que.getD []).tail) ++ [now])) := by
  cases que with
  | none => simp [request]
  | some tms =>
    show request mrn duration now (some tms) =
      if max 1 mrn ≤ tms.length ∧ now < tms.headD 0 + duration then
        (false, some tms)
      else (true, some ((if tms.length < max 1 mrn then tms else tms.tail) ++ [now]))
    have hp : 0 < tms.length := by
      rw [length_pos_iff]
      rintro rfl
      exact h.nonempty rfl
    have hhe : tms.headD 0 ≤ now := by
      cases tms with
      | nil => exact absurd hp (Nat.lt_irrefl 0)
      | cons first rs => exact h.keeps.past first (h.mem_log mem_cons_self)
    rw [request]
    by_cases hro : tms.length < mrn
    · rw [if_pos hro, if_neg (by omega), if_pos (by omega)]
    rw [if_neg hro, if_neg (show ¬tms.length < max 1 mrn by omega)]
    by_cases hin : now < tms.headD 0 + duration
    · rw [if_neg (by omega), if_pos ⟨by omega, hin⟩]
    · rw [if_pos (by omega), if_neg fun hbo => hin hbo.2]

theorem request_eq_false_iff :
    (request mrn duration now que).1 = false ↔ max 1 mrn ≤ Window.recent duration now log := by
  rw [h.keeps.full_iff (by omega), h.request_eq]
  split
  next hfu => exact iff_of_true rfl hfu
  next hro => exact iff_of_false Bool.true_eq_false.mp hro

theorem request_push :
    QueueKeeps duration (max 1 mrn) now
      (if (request mrn duration now que).1 then log ++ [now] else log)
      (request mrn duration now que).2 := by
  rw [h.request_eq]
  split
  next => exact h
  next => exact ⟨h.keeps.push (by omega), by simp⟩

end

theorem clear (h : QueueKeeps duration lim now log queue) (hex : duration ≤ exp + 1) :
    QueueKeeps duration lim now log (clearExpired exp now queue) := by
  cases queue with
  | none => exact h
  | some times =>
    rw [clearExpired]
    split
    next hst =>
      refine ⟨h.keeps.clear fun tm hm => ?_, by simp⟩
      obtain ⟨earlier, last, rfl⟩ : ∃ earlier last, times = earlier ++ [last] :=
        (eq_nil_or_concat' times).resolve_left fun hni => h.nonempty (hni ▸ rfl)
      have hl : exp < now - last := by
        simpa using hst
      have hle : tm ≤ last := by
        have hso := h.keeps.sorted
        obtain ⟨old, hlo, -⟩ := h.keeps.kept
        rw [hlo, Option.getD_some, pairwise_append, pairwise_append] at hso
        rcases mem_append.mp hm with her | hl
        · exact hso.2.1.2.2 tm her last mem_cons_self
        · exact Nat.le_of_eq (mem_singleton.mp hl)
      omega
    next => exact h

end QueueKeeps

/-! ## The list in Redis -/

/-- The list holds what is left of a log, and its key lives as long as a time is in the window. -/
structure ListKeeps (duration limit now : Nat) (log : List Nat) (store : RedisStore) : Prop where
  keeps : Window.Keeps duration limit now log store.successes.reverse
  expires : ∀ time ∈ store.successes, time + duration ≤ store.expiresAt

namespace ListKeeps

variable {config : LimitConfig} {lim now ltr : Nat} {log : List Nat} {sto : RedisStore}

section

variable (h : ListKeeps config.duration lim now log sto)
include h

theorem mono (hle : now ≤ ltr) : ListKeeps config.duration lim ltr log sto :=
  ⟨h.keeps.mono hle, h.expires⟩

theorem times : Window.Keeps config.duration lim now log (sto.times now).reverse := by
  unfold RedisStore.times
  split
  next => exact h.keeps
  next hex =>
    refine h.keeps.clear fun tm hm => ?_
    exact Nat.le_trans (h.expires tm (mem_reverse.mp hm)) (Nat.le_of_not_lt hex)

theorem past (hm : tm ∈ sto.times now) : tm ≤ now := by
  obtain ⟨old, hlo, -⟩ := h.times.kept
  refine h.times.past tm ?_
  rw [hlo]
  exact mem_append_right _ (mem_reverse.mpr hm)

end

theorem check_eq_false_iff (hma : 0 < config.successMaxCount)
    (h : ListKeeps config.duration config.successMaxCount now log sto) :
    (sto.checkRedisRateLimit config now).1 = false ↔
      config.successMaxCount ≤ Window.recent config.duration now log := by
  rw [h.times.full_iff hma, length_reverse]
  unfold RedisStore.checkRedisRateLimit
  rw [if_neg (by omega)]
  by_cases hro : (sto.times now).length < config.successMaxCount
  · rw [if_pos hro]
    exact iff_of_false Bool.true_eq_false.mp (by omega)
  rw [if_neg hro]
  obtain ⟨new, lst, htm⟩ : ∃ new lst, sto.times now = new ++ [lst] := by
    refine (eq_nil_or_concat' (sto.times now)).resolve_left fun hni => ?_
    rw [hni] at hro
    exact hro hma
  have hpa : lst ≤ now := h.past (htm ▸ mem_append_right _ mem_cons_self)
  have ho : (sto.times now).getLastD 0 = lst := by rw [htm, getLastD_concat]
  have hhe : (sto.times now).reverse.headD 0 = lst := by
    rw [htm, reverse_append]
    rfl
  rw [ho, hhe]
  by_cases hin : now - lst < config.duration
  · rw [if_pos hin]
    exact iff_of_true rfl ⟨by omega, by omega⟩
  · rw [if_neg hin]
    exact iff_of_false Bool.true_eq_false.mp (by omega)

theorem check (h : ListKeeps config.duration lim now log store) :
    ListKeeps config.duration lim now log (store.checkRedisRateLimit config now).2 := by
  unfold RedisStore.checkRedisRateLimit
  split
  · exact h
  split
  · exact h
  · split
    · exact ⟨h.times, fun tm hm => Nat.add_le_add_right (h.past hm) _⟩
    · exact h

theorem record (hma : 0 < config.successMaxCount)
    (h : ListKeeps config.duration config.successMaxCount now log sto) :
    ListKeeps config.duration config.successMaxCount now (log ++ [now])
      (sto.recordRedisRequest config now) := by
  have hpu := h.times.push hma
  have hl := h.times.length_le
  rw [length_reverse] at hpu hl
  obtain ⟨rs, hr⟩ : ∃ rs, config.successMaxCount = rs + 1 := ⟨config.successMaxCount - 1, by omega⟩
  have hta : ((now :: sto.times now).take config.successMaxCount).reverse =
      (if (sto.times now).length < config.successMaxCount then (sto.times now).reverse
        else (sto.times now).reverse.tail) ++ [now] := by
    rw [hr, take_succ_cons, reverse_cons]
    by_cases hro : (sto.times now).length < rs + 1
    · rw [if_pos hro, take_of_length_le (by omega)]
    · rw [if_neg hro, tail_reverse, dropLast_eq_take]
      congr 3
      omega
  unfold RedisStore.recordRedisRequest
  rw [if_neg (by omega)]
  constructor
  · rw [hta]
    exact hpu
  intro tm hm
  have hle : tm ≤ now := by
    rcases mem_cons.mp (mem_of_mem_take hm) with rfl | hm
    · exact Nat.le_refl _
    · exact h.past hm
  exact Nat.add_le_add_right hle _

end ListKeeps

/-! ## The decisions -/

namespace LimiterState

variable {config : LimitConfig} {state st : LimiterState} {now : Nat}

/-- Both variants have seen the same requests, and their queues and the list hold what is left of
the logs. -/
structure Tracks (config : LimitConfig) (state : LimiterState) : Prop where
  same : state.memoryLog = state.redisLog
  total : 0 < config.totalMaxCount →
    QueueKeeps config.duration (max 1 config.totalMaxCount) state.clock state.passed
      state.memory.total
  check : QueueKeeps config.duration (max 1 config.successMaxCount) state.clock
    state.memoryLog.admitted state.memory.check
  success : 0 < config.successMaxCount →
    ListKeeps config.duration config.successMaxCount state.clock state.redisLog.succeeded
      state.redis
  windows : 0 < config.totalMaxCount →
    ∀ moment, Window.recent config.duration moment state.passed ≤ config.totalMaxCount
  admitted : state.memoryLog.admitted.Sublist state.passed

theorem memoryDecision_eq : state.memoryDecision config now =
    if (state.memory.requestTotal config now).1 then
      if (request config.successMaxCount config.duration now state.memory.check).1 then .admitted
      else .successLimit
    else .totalLimit := by
  unfold memoryDecision MemoryStore.arrive
  dsimp only
  split <;> rfl

theorem checkRedisRateLimit_bucket (store : RedisStore) :
    (store.checkRedisRateLimit config now).2.bucket = store.bucket := by
  unfold RedisStore.checkRedisRateLimit
  split
  · rfl
  · split
    · rfl
    · split <;> rfl

theorem takeTokens_fst (store : RedisStore) :
    (store.takeTokens config now).1 = decide (config.duration ≤ store.tokens config now) := by
  unfold RedisStore.takeTokens
  dsimp only
  split
  next hta => exact (decide_eq_true hta).symm
  next hem => exact (decide_eq_false hem).symm

theorem redisDecision_eq : state.redisDecision config now =
    if (state.redis.checkRedisRateLimit config now).1 then
      if 0 < config.totalMaxCount then
        if config.duration ≤ state.redis.tokens config now then .admitted else .totalLimit
      else .admitted
    else .successLimit := by
  have ht : (state.redis.checkRedisRateLimit config now).2.tokens config now =
      state.redis.tokens config now := by
    unfold RedisStore.tokens
    rw [checkRedisRateLimit_bucket]
  unfold redisDecision RedisStore.arrive
  dsimp only
  split
  · split
    · simp only [takeTokens_fst, ht, decide_eq_true_eq]
    · rfl
  · rfl

theorem memory_arrive_total :
    (state.arrive config now).memory.total = (state.memory.requestTotal config now).2 := by
  show (state.memory.arrive config now).2.total = _
  unfold MemoryStore.arrive
  dsimp only
  split <;> rfl

theorem memory_arrive_check :
    (state.arrive config now).memory.check =
      if (state.memory.requestTotal config now).1 then
        (request config.successMaxCount config.duration now state.memory.check).2
      else state.memory.check := by
  show (state.memory.arrive config now).2.check = _
  unfold MemoryStore.arrive
  dsimp only
  split <;> rfl

theorem arrive_admitted :
    (state.arrive config now).memoryLog.admitted =
      if (state.memory.requestTotal config now).1 = true ∧
          (request config.successMaxCount config.duration now state.memory.check).1 = true then
        state.memoryLog.admitted ++ [now]
      else state.memoryLog.admitted := by
  show (state.memoryLog.arrive now (state.memoryDecision config now)).admitted = _
  rw [memoryDecision_eq]
  cases (state.memory.requestTotal config now).1 with
  | false => rfl
  | true =>
    cases (request config.successMaxCount config.duration now state.memory.check).1 <;> rfl

theorem redis_arrive_list (now : Nat) :
    (state.arrive config now).redis.successes =
        (state.redis.checkRedisRateLimit config now).2.successes ∧
      (state.arrive config now).redis.expiresAt =
        (state.redis.checkRedisRateLimit config now).2.expiresAt := by
  show (state.redis.arrive config now).2.successes = _ ∧
    (state.redis.arrive config now).2.expiresAt = _
  unfold RedisStore.arrive RedisStore.takeTokens
  dsimp only
  split
  · split
    · split <;> exact ⟨rfl, rfl⟩
    · exact ⟨rfl, rfl⟩
  · exact ⟨rfl, rfl⟩

theorem arrive_succeeded :
    (state.arrive config now).redisLog.succeeded = state.redisLog.succeeded := by
  show (state.redisLog.arrive now _).succeeded = _
  unfold RequestLog.arrive
  split <;> rfl

theorem decisions_agree_iff {suc tot adm buc : Prop} :
    (¬tot ∧ ¬adm ↔ ¬suc ∧ ¬buc) ∧ (¬tot ∧ adm ↔ suc) ↔
      (suc → ¬tot ∧ adm) ∧ (¬suc → (buc ↔ tot) ∧ (adm → tot)) := by
  by_cases suc <;> by_cases tot <;> by_cases adm <;> by_cases buc <;> simp [*]

theorem finish_memory (now : Nat) (suc : Bool) :
    (state.finish config now suc).memory.total = state.memory.total ∧
      (state.finish config now suc).memory.check = state.memory.check := by
  unfold finish MemoryStore.finish
  split
  · split <;> exact ⟨rfl, rfl⟩
  · exact ⟨rfl, rfl⟩

theorem finish_admitted :
    (state.finish config now suc).memoryLog.admitted = state.memoryLog.admitted := by
  unfold finish RequestLog.finish
  split <;> rfl

theorem Tracks.windowsKept (h : Tracks config state) : WindowsKept config state.memoryLog := by
  intro hma mom
  exact Nat.le_trans (Window.recent_le_of_sublist h.admitted) (h.windows hma mom)

/-! ## Decisions and actions while the stores hold the logs -/

section

variable (h : Tracks config st) (hle : st.clock ≤ now)
include h hle

theorem requestTotal_eq_false_iff :
    (st.memory.requestTotal config now).1 = false ↔ st.TotalReached config now := by
  unfold MemoryStore.requestTotal TotalReached
  by_cases hma : 0 < config.totalMaxCount
  · rw [if_pos hma, ((h.total hma).mono hle).request_eq_false_iff]
    constructor
    · exact fun hfu => ⟨hma, by omega⟩
    · exact fun hfu => by omega
  · rw [if_neg hma]
    exact iff_of_false Bool.true_eq_false.mp fun hre => hma hre.1

theorem memoryDecision_iff :
    (st.memoryDecision config now = .totalLimit ↔ st.TotalReached config now) ∧
      (st.memoryDecision config now = .successLimit ↔
        ¬st.TotalReached config now ∧ st.AdmittedReached config now) ∧
      (st.memoryDecision config now = .admitted ↔
        ¬st.TotalReached config now ∧ ¬st.AdmittedReached config now) := by
  have hto := requestTotal_eq_false_iff h hle
  have hch : _ ↔ st.AdmittedReached config now := (h.check.mono hle).request_eq_false_iff
  rw [← hto, ← hch, memoryDecision_eq]
  cases (st.memory.requestTotal config now).1 with
  | false => simp
  | true =>
    cases (request config.successMaxCount config.duration now st.memory.check).1 <;> simp

theorem check_eq_false_iff :
    (st.redis.checkRedisRateLimit config now).1 = false ↔
      SuccessReached config st.redisLog now := by
  by_cases hma : 0 < config.successMaxCount
  · rw [((h.success hma).mono hle).check_eq_false_iff hma]
    exact ⟨fun hfu => ⟨hma, hfu⟩, fun hre => hre.2⟩
  · unfold RedisStore.checkRedisRateLimit
    rw [if_pos (by omega)]
    exact iff_of_false Bool.true_eq_false.mp fun hre => hma hre.1

theorem redisDecision_iff :
    (st.redisDecision config now = .successLimit ↔ SuccessReached config st.redisLog now) ∧
      (st.redisDecision config now = .admitted ↔
        ¬SuccessReached config st.redisLog now ∧ ¬st.BucketEmpty config now) := by
  rw [← check_eq_false_iff h hle, redisDecision_eq]
  unfold BucketEmpty
  cases (st.redis.checkRedisRateLimit config now).1 with
  | false => simp
  | true =>
    by_cases hma : 0 < config.totalMaxCount
    · by_cases hta : config.duration ≤ st.redis.tokens config now
      · simp [hma, hta]
      · simp [hma, hta]
    · simp [hma]

theorem arrive_passed :
    (st.arrive config now).passed =
      if (st.memory.requestTotal config now).1 then st.passed ++ [now]
      else st.passed := by
  have hto := (memoryDecision_iff h hle).1
  rw [← requestTotal_eq_false_iff h hle] at hto
  show (if st.memoryDecision config now = .totalLimit then st.passed
    else st.passed ++ [now]) = _
  cases hpa : (st.memory.requestTotal config now).1 with
  | false => rw [if_pos (hto.mpr hpa), if_neg Bool.false_ne_true]
  | true =>
    rw [if_neg fun hde => absurd (hpa.symm.trans (hto.mp hde)) (by decide), if_pos rfl]

theorem Tracks.arrive
    (hs : st.memoryDecision config now = .admitted ↔ st.redisDecision config now = .admitted) :
    Tracks config (st.arrive config now) := by
  have hpa := arrive_passed h hle
  refine ⟨?_, fun hma => ?_, ?_, fun hma => ?_, fun hma => ?_, ?_⟩
  · show st.memoryLog.arrive now _ = st.redisLog.arrive now _
    unfold RequestLog.arrive
    rw [h.same]
    simp only [hs]
  · rw [memory_arrive_total, hpa]
    unfold MemoryStore.requestTotal
    rw [if_pos hma]
    exact ((h.total hma).mono hle).request_push
  · rw [memory_arrive_check, arrive_admitted]
    show QueueKeeps _ _ now _ _
    cases (st.memory.requestTotal config now).1 with
    | false => simpa using h.check.mono hle
    | true => simpa using (h.check.mono hle).request_push
  · obtain ⟨hsu, hex⟩ := redis_arrive_list now
    have hch := ((h.success hma).mono hle).check
    rw [arrive_succeeded]
    constructor
    · rw [hsu]
      exact hch.keeps
    · rw [hsu, hex]
      exact hch.expires
  · intro mom
    rw [hpa]
    split
    next hps =>
      have hro : ¬st.TotalReached config now := by
        rw [← requestTotal_eq_false_iff h hle, hps]
        exact Bool.true_eq_false.mp
      refine Window.recent_push_le ?_ ?_ (h.windows hma) mom
      · exact ((h.total hma).mono hle).keeps.past
      · exact Nat.lt_of_not_le fun hfu => hro ⟨hma, hfu⟩
    next => exact h.windows hma mom
  · rw [hpa, arrive_admitted]
    cases (st.memory.requestTotal config now).1 with
    | false => simpa using h.admitted
    | true =>
      cases (request config.successMaxCount config.duration now st.memory.check).1 with
      | false => exact h.admitted.trans (sublist_append_left _ _)
      | true => exact h.admitted.append (List.Sublist.refl _)

theorem rightArrival_iff : st.RightArrival config now ↔ st.ArrivalOk config now := by
  obtain ⟨-, hms, hme⟩ := memoryDecision_iff h hle
  obtain ⟨hr, hre⟩ := redisDecision_iff h hle
  have hlo : st.redisLog = st.memoryLog := h.same.symm
  rw [hlo] at hr hre
  unfold ArrivalOk
  rw [← decisions_agree_iff, ← hme, ← hre, ← hms]
  constructor
  · exact fun hri => ⟨hri.same, hri.memorySuccess⟩
  rintro ⟨hs, hsu⟩
  have hx := h.arrive hle hs
  refine ⟨hs, hsu, ?_, hx.windowsKept, ?_⟩
  · rw [hlo]
    exact hr
  · rw [← hx.same]
    exact hx.windowsKept

theorem Tracks.finish_success (hma : 0 < config.successMaxCount) :
    ListKeeps config.duration config.successMaxCount now
      (st.finish config now suc).redisLog.succeeded
      (st.finish config now suc).redis := by
  have hli := (h.success hma).mono hle
  unfold LimiterState.finish RequestLog.finish RedisStore.finish
  cases st.redisLog.serving with
  | false => exact hli
  | true =>
    cases suc with
    | false => exact hli
    | true => exact hli.record hma

theorem Tracks.finish (suc : Bool) : Tracks config (st.finish config now suc) := by
  obtain ⟨hto, hch⟩ := finish_memory now suc
  refine ⟨?_, fun hma => ?_, ?_, h.finish_success hle, h.windows, ?_⟩
  · unfold LimiterState.finish
    rw [h.same]
  · rw [hto]
    exact (h.total hma).mono hle
  · rw [hch, finish_admitted]
    exact h.check.mono hle
  · rw [finish_admitted]
    exact h.admitted

theorem Tracks.clear (hcovers : config.duration ≤ config.expiration + 1) :
    Tracks config { st with clock := now, memory := st.memory.clear config now } :=
  { same := h.same
    total := fun hma => ((h.total hma).mono hle).clear hcovers
    check := (h.check.mono hle).clear hcovers
    success := fun hma => (h.success hma).mono hle
    windows := h.windows
    admitted := h.admitted }

end

theorem tracks_start : Tracks config {} where
  same := rfl
  total := fun _ => ⟨Window.Keeps.nil, by simp⟩
  check := ⟨Window.Keeps.nil, by simp⟩
  success := fun _ => ⟨Window.Keeps.nil, forall_mem_nil _⟩
  windows := fun _ _ => Nat.zero_le _
  admitted := List.Sublist.refl _

theorem Tracks.step (hcovers : config.Covers) (h : Tracks config state)
    (hri : state.RightStep config act) (hs : state.step config act = some nxt) :
    Tracks config nxt := by
  cases act with
  | arrive wait =>
    have har := hri wait rfl (by rw [hs]; rfl)
    rw [LimiterState.step] at hs
    split at hs
    · cases hs
    · cases hs
      exact h.arrive (Nat.le_add_right _ _) har.same
  | finish wait suc =>
    rw [LimiterState.step] at hs
    split at hs
    · cases hs
      exact h.finish (Nat.le_add_right _ _) suc
    · cases hs
  | clear wait =>
    rw [LimiterState.step] at hs
    split at hs
    · cases hs
    · rename_i hexpiration
      cases hs
      exact h.clear (Nat.le_add_right _ _) (hcovers.resolve_left hexpiration)

end LimiterState

/-- For all limits whose window the expiration covers and every sequence of requests, the two
variants admit the same requests, refuse exactly those that find the limit on successful requests
reached for this limit, and keep the limit on all requests in every window, exactly if every request
that arrives meets the condition. -/
theorem variants_right_iff (config : LimitConfig) (hcovers : config.Covers)
    (actions : List LimiterAction) :
    (limiterSystem config).Guarded (fun state => state.RightStep config) {} actions ↔
      (limiterSystem config).Guarded (fun state => state.StepOk config) {} actions := by
  refine System.guarded_iff _ (LimiterState.Tracks config) ?_ ?_ LimiterState.tracks_start
  · intro state action htr
    refine forall_congr' fun wait => forall_congr' fun _ => forall_congr' fun _ => ?_
    exact LimiterState.rightArrival_iff htr (Nat.le_add_right _ _)
  · exact fun state action next htr hri hs => htr.step hcovers hri hs

def admittedTimes (config : LimitConfig) (actions : List LimiterAction) :
    Option (List Nat × List Nat) :=
  ((limiterSystem config).run {} actions).map fun final =>
    (final.memoryLog.admitted, final.redisLog.admitted)

/-- One request a minute may succeed: a request that succeeds, a turn of the cleaner, a request
that both variants refuse for this limit, and one that both admit when the minute is over. -/
theorem one_success_a_minute_kept :
    (limiterSystem ⟨60, 0, 1, 1200⟩).Guarded (fun state => state.RightStep ⟨60, 0, 1, 1200⟩) {}
        [.arrive 0, .finish 0 true, .clear 1, .arrive 29, .arrive 30] ∧
      admittedTimes ⟨60, 0, 1, 1200⟩ [.arrive 0, .finish 0 true, .clear 1, .arrive 29, .arrive 30] =
        some ([0, 60], [0, 60]) := by
  exact ⟨(variants_right_iff _ (Or.inr (by decide)) _).mpr (by decide +kernel), by decide +kernel⟩

/-- With a limit of one successful request, a failed request makes the variant in memory refuse the
next one. Without limits it refuses the second request as well. With a limit of two requests in 60
seconds the variant in Redis admits three in 30 seconds. With a window of an hour the cleaner, whose
expiration is the 20 minutes of the other limits, makes the variant in memory forget a request. -/
theorem failed_request_counted :
    ¬(limiterSystem ⟨60, 0, 1, 1200⟩).Guarded (fun state => state.RightStep ⟨60, 0, 1, 1200⟩) {}
        [.arrive 0, .finish 0 false, .arrive 1] ∧
      admittedTimes ⟨60, 0, 1, 1200⟩ [.arrive 0, .finish 0 false, .arrive 1] =
        some ([0], [0, 1]) ∧
      admittedTimes ⟨60, 0, 0, 1200⟩ [.arrive 0, .finish 0 true, .arrive 1] =
        some ([0], [0, 1]) ∧
      admittedTimes ⟨60, 2, 100, 1200⟩
        [.arrive 0, .finish 0 true, .arrive 0, .finish 0 true, .arrive 30] =
          some ([0, 0], [0, 0, 30]) ∧
      admittedTimes ⟨3600, 0, 1, 1200⟩ [.arrive 0, .finish 0 true, .clear 2400, .arrive 0] =
        some ([0, 2400], [0]) := by
  refine ⟨fun hgu => ?_, by decide +kernel, by decide +kernel, by decide +kernel,
    by decide +kernel⟩
  have har := ((hgu.2 _ rfl).2 _ rfl).1 1 rfl rfl
  exact absurd (har.same.mpr (by decide +kernel)) (by decide +kernel)

end NewApi.RateLimit
