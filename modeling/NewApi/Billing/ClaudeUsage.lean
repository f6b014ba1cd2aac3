import NewApi.Billing.CacheCreation
import NewApi.Streams.OpenAIToClaude

/-!
# The usage that a client of Claude sees

An upstream of OpenAI counts cached tokens as prompt tokens, Claude counts them apart. The usage is
converted without taking them out of the prompt tokens. The `message_delta` events of a Claude
upstream are completed with the counts of earlier events (`message_delta_usage`).
-/

namespace NewApi.Billing

open List
open Streams (ClaudeUsage ClaudeResponse buildClaudeUsageFromOpenAIUsage)

/-! ## Both conversions -/

/-- The usage converted for a client of Claude and read back as that of a Claude upstream. -/
def Usage.roundTrip (usage : Usage) : Usage :=
  buildOpenAIStyleUsageFromClaudeUsage
    (Usage.replacedBy { promptTokens := 0, completionTokens := 0 }
      (buildClaudeUsageFromOpenAIUsage usage))

structure Usage.SameCounts (a b : Usage) : Prop where
  prompt : a.promptTokens = b.promptTokens
  cached : a.promptTokensDetails.cachedTokens = b.promptTokensDetails.cachedTokens
  creation : a.creationTotal = b.creationTotal
  completion : a.completionTokens = b.completionTokens

/-- The prompt tokens include the cached tokens and those of cache creation. -/
structure Usage.Inclusive (usage : Usage) : Prop where
  cached : 0 ≤ usage.promptTokensDetails.cachedTokens
  creation : 0 ≤ usage.creationTotal
  tokens5m : 0 ≤ usage.claudeCacheCreation5mTokens
  tokens1h : 0 ≤ usage.claudeCacheCreation1hTokens
  included : usage.promptTokensDetails.cachedTokens + usage.creationTotal ≤ usage.promptTokens

theorem converted_split (h : u.Inclusive) :
    getCacheCreation5mTokens (buildClaudeUsageFromOpenAIUsage u) +
      getCacheCreation1hTokens (buildClaudeUsageFromOpenAIUsage u) =
    max u.creationTotal u.creationSplit := by
  obtain ⟨-, hto, h5m, h1h, -⟩ := h
  have htotal : u.creationTotal = u.promptTokensDetails.cachedCreationTokens := rfl
  have hs : (normalizeCacheCreationSplit u.creationTotal u.claudeCacheCreation5mTokens
      u.claudeCacheCreation1hTokens).1 = u.claudeCacheCreation5mTokens +
        max (u.creationTotal - u.claudeCacheCreation5mTokens - u.claudeCacheCreation1hTokens) 0 :=
    rfl
  by_cases hp : (normalizeCacheCreationSplit u.creationTotal u.claudeCacheCreation5mTokens
      u.claudeCacheCreation1hTokens).1 > 0 ∨ u.claudeCacheCreation1hTokens > 0
  · have hc : (buildClaudeUsageFromOpenAIUsage u).cacheCreation = some _ := if_pos hp
    simp only [getCacheCreation5mTokens, getCacheCreation1hTokens, hc, Option.map_some,
      Option.getD_some, Usage.creationSplit]
    omega
  · have hc : (buildClaudeUsageFromOpenAIUsage u).cacheCreation = none := if_neg hp
    simp only [getCacheCreation5mTokens, getCacheCreation1hTokens, hc, Option.map_none,
      Option.getD_none, Usage.creationSplit]
    omega

theorem roundTrip_promptTokens {u : Usage} (h : u.Inclusive) :
    u.roundTrip.promptTokens = u.promptTokens + u.promptTokensDetails.cachedTokens +
      max u.creationTotal u.creationSplit := by
  have hsplit := converted_split h
  have hto : 0 ≤ u.creationTotal := h.creation
  show u.promptTokens + u.promptTokensDetails.cachedTokens +
    cacheCreationTokensForOpenAIUsage (Usage.replacedBy _ _) = _
  simp only [cacheCreationTokensForOpenAIUsage, Usage.replacedBy, hsplit]
  show _ + (if _ then u.creationTotal else if u.creationTotal > _ then u.creationTotal else _) = _
  split_ifs
  · omega
  · omega
  · rfl

/-- The counts come back, and a client of Claude sees the prompt tokens as the sum of its counts,
exactly if there are no cached tokens and none of cache creation. -/
theorem usage_round_trip_iff {usage : Usage} (h : usage.Inclusive) :
    (usage.roundTrip.SameCounts usage ↔ usage.promptTokensDetails.cachedTokens = 0 ∧
      usage.creationTotal = 0 ∧ usage.creationSplit = 0) ∧
    ((buildClaudeUsageFromOpenAIUsage usage).inputTokens +
        (buildClaudeUsageFromOpenAIUsage usage).cacheReadInputTokens +
        (buildClaudeUsageFromOpenAIUsage usage).cacheCreationInputTokens = usage.promptTokens ↔
      usage.promptTokensDetails.cachedTokens = 0 ∧ usage.creationTotal = 0) := by
  have hp := roundTrip_promptTokens h
  obtain ⟨hca, hto, h5m, h1h, -⟩ := h
  have hsplit : 0 ≤ usage.creationSplit := Int.add_nonneg h5m h1h
  refine ⟨⟨fun hs => ?_, fun hz => ⟨?_, rfl, rfl, rfl⟩⟩, ?_⟩
  · have := hs.prompt
    omega
  · omega
  · show usage.promptTokens + usage.promptTokensDetails.cachedTokens + usage.creationTotal = _ ↔ _
    omega

theorem plain_usage_round_trip :
    Usage.SameCounts (Usage.roundTrip { promptTokens := 12, completionTokens := 3 })
      { promptTokens := 12, completionTokens := 3 } :=
  (usage_round_trip_iff (by constructor <;> decide)).1.mpr (by decide)

/-- Of 1000 prompt tokens 900 were cached: the client of Claude sees 1900. -/
theorem cached_tokens_counted_twice : let usage : Usage :=
      { promptTokens := 1000, completionTokens := 5
        promptTokensDetails := { cachedTokens := 900 } }
    usage.Inclusive ∧ usage.roundTrip.promptTokens = 1900 ∧
      ¬usage.roundTrip.SameCounts usage := by
  refine ⟨by constructor <;> decide, by decide, fun h => ?_⟩
  exact absurd h.prompt (by decide)

/-! ## The usage of `message_delta` -/

/-- The paths of the counts in the usage of an event. -/
inductive UsagePath
  | inputTokens
  | outputTokens
  | cacheReadInputTokens
  | cacheCreationInputTokens
  | ephemeral5mInputTokens
  | ephemeral1hInputTokens
  deriving DecidableEq

/-- The usage in the JSON of an event, each count of which may be missing. -/
structure UsageData where
  inputTokens : Option Int := none
  outputTokens : Option Int := none
  cacheReadInputTokens : Option Int := none
  cacheCreationInputTokens : Option Int := none
  cacheCreation : Option (Option Int × Option Int) := none

namespace UsageData

def get? (data : UsageData) : UsagePath → Option Int
  | .inputTokens => data.inputTokens
  | .outputTokens => data.outputTokens
  | .cacheReadInputTokens => data.cacheReadInputTokens
  | .cacheCreationInputTokens => data.cacheCreationInputTokens
  | .ephemeral5mInputTokens => data.cacheCreation.bind Prod.fst
  | .ephemeral1hInputTokens => data.cacheCreation.bind Prod.snd

def set (data : UsageData) (value : Int) : UsagePath → UsageData
  | .inputTokens => { data with inputTokens := some value }
  | .outputTokens => { data with outputTokens := some value }
  | .cacheReadInputTokens => { data with cacheReadInputTokens := some value }
  | .cacheCreationInputTokens => { data with cacheCreationInputTokens := some value }
  | .ephemeral5mInputTokens =>
    { data with cacheCreation := some (some value, data.cacheCreation.bind Prod.snd) }
  | .ephemeral1hInputTokens =>
    { data with cacheCreation := some (data.cacheCreation.bind Prod.fst, some value) }

/-- The decoded usage: a missing count is zero. -/
def decode (data : UsageData) : ClaudeUsage where
  inputTokens := data.inputTokens.getD 0
  outputTokens := data.outputTokens.getD 0
  cacheReadInputTokens := data.cacheReadInputTokens.getD 0
  cacheCreationInputTokens := data.cacheCreationInputTokens.getD 0
  cacheCreation := data.cacheCreation.map fun split => (split.1.getD 0, split.2.getD 0)

theorem get?_set (data : UsageData) :
    (data.set v path).get? q = if q = path then some v else data.get? q := by
  cases path <;> cases q <;> rfl

end UsageData

/-- The count at a path of an event, zero where it is missing. -/
def countAt (data : Option UsageData) (path : UsagePath) : Int :=
  ((data.bind (·.get? path)).getD 0)

def reportedCount (usage : ClaudeUsage) : UsagePath → Int
  | .inputTokens => usage.inputTokens
  | .outputTokens => usage.outputTokens
  | .cacheReadInputTokens => usage.cacheReadInputTokens
  | .cacheCreationInputTokens => usage.cacheCreationInputTokens
  | .ephemeral5mInputTokens => getCacheCreation5mTokens usage
  | .ephemeral1hInputTokens => getCacheCreation1hTokens usage

def Usage.count (usage : Usage) : UsagePath → Int
  | .inputTokens => usage.promptTokens
  | .outputTokens => usage.completionTokens
  | .cacheReadInputTokens => usage.promptTokensDetails.cachedTokens
  | .cacheCreationInputTokens => usage.promptTokensDetails.cachedCreationTokens
  | .ephemeral5mInputTokens => usage.claudeCacheCreation5mTokens
  | .ephemeral1hInputTokens => usage.claudeCacheCreation1hTokens

/-- An event of the stream: the usage of a `message_delta` as in its JSON, the rest decoded. -/
structure StreamData where
  response : ClaudeResponse
  usage : Option UsageData := none

def StreamData.claudeResponse (event : StreamData) : ClaudeResponse :=
  { event.response with usage := event.usage.map UsageData.decode }

def buildMessageDeltaPatchUsage (claudeResponse : ClaudeResponse)
    (claudeInfo : ClaudeResponseInfo) : ClaudeUsage :=
  let usage := claudeResponse.usage.getD {}
  let known (sent counted : Int) := if sent = 0 ∧ counted > 0 then counted else sent
  let details := claudeInfo.usage.promptTokensDetails
  let cacheCreationInputTokens := known usage.cacheCreationInputTokens details.cachedCreationTokens
  let sent := usage.cacheCreation.getD
    (claudeInfo.usage.claudeCacheCreation5mTokens, claudeInfo.usage.claudeCacheCreation1hTokens)
  let split := normalizeCacheCreationSplit cacheCreationInputTokens sent.1 sent.2
  { usage with
    inputTokens := known usage.inputTokens claudeInfo.usage.promptTokens
    cacheReadInputTokens := known usage.cacheReadInputTokens details.cachedTokens
    cacheCreationInputTokens
    cacheCreation :=
      if usage.cacheCreation.isSome ∨ split.1 > 0 ∨ split.2 > 0 then some split else none }

def setMessageDeltaUsageInt (data : Option UsageData) (path : UsagePath) (localValue : Int) :
    Option UsageData :=
  if localValue ≤ 0 then data
  else if countAt data path > 0 then data
  else some ((data.getD {}).set localValue path)

def patchClaudeMessageDeltaUsageData (data : Option UsageData) (usage : ClaudeUsage) :
    Option UsageData :=
  let data := setMessageDeltaUsageInt data .inputTokens usage.inputTokens
  let data := setMessageDeltaUsageInt data .cacheReadInputTokens usage.cacheReadInputTokens
  let data := setMessageDeltaUsageInt data .cacheCreationInputTokens usage.cacheCreationInputTokens
  match usage.cacheCreation with
  | none => data
  | some (tokens5m, tokens1h) =>
    setMessageDeltaUsageInt (setMessageDeltaUsageInt data .ephemeral5mInputTokens tokens5m)
      .ephemeral1hInputTokens tokens1h

/-- `HandleStreamResponseData` for a client of Claude without pass-through: what is counted, and the
usage in the JSON that is sent. -/
def handleStreamResponseData (claudeInfo : ClaudeResponseInfo) (event : StreamData) :
    ClaudeResponseInfo × Option UsageData :=
  let claudeInfo := claudeInfo.format event.claudeResponse
  (claudeInfo,
    if event.response.type = .messageDelta then
      patchClaudeMessageDeltaUsageData event.usage
        (buildMessageDeltaPatchUsage event.claudeResponse claudeInfo)
    else event.usage)

/-- What has been counted after the events. -/
def countedAfter (events : List StreamData) : ClaudeResponseInfo :=
  events.foldl (fun claudeInfo event => (handleStreamResponseData claudeInfo event).1) {}

/-- The count that an event reports at a path. -/
def StreamData.reported (event : StreamData) (path : UsagePath) : Int :=
  match event.response.type with
  | .messageStart => (event.response.message.bind (·.usage)).elim 0 (reportedCount · path)
  | .messageDelta => countAt event.usage path
  | _ => 0

def latestPositive (counts : List Int) : Int :=
  (counts.filter (0 < ·)).getLast?.getD 0

/-- Only the first event may be `message_start`, and no count is negative. -/
structure StreamOk (events : List StreamData) : Prop where
  start : ∀ event ∈ events.tail, event.response.type ≠ .messageStart
  nonneg : ∀ event ∈ events, ∀ path, 0 ≤ event.reported path

theorem latestPositive_concat :
    latestPositive (counts ++ [n]) = latest n (latestPositive counts) := by
  unfold latestPositive latest
  rw [filter_append]
  split
  · simp [*]
  · simp [*]

section

variable (data : Option UsageData) (usage : ClaudeUsage) (path q : UsagePath)

theorem countAt_setMessageDeltaUsageInt :
    countAt (setMessageDeltaUsageInt data path v) q =
      if q = path then latest (countAt data q) (latest v (countAt data q))
      else countAt data q := by
  have hset : countAt (some ((data.getD {}).set v path)) q =
      if q = path then v else countAt data q := by
    simp only [countAt, Option.bind_some, UsageData.get?_set]
    split
    · rfl
    · cases data with
      | none => cases q <;> rfl
      | some data => rfl
  unfold setMessageDeltaUsageInt latest
  by_cases hq : q = path
  · subst hq
    split_ifs <;> simp_all
    omega
  · split_ifs <;> simp_all

/-- A count that is not positive is replaced by a positive one of the patch. -/
theorem countAt_patch (hout : usage.outputTokens = countAt data .outputTokens) :
    countAt (patchClaudeMessageDeltaUsageData data usage) path =
      latest (countAt data path) (latest (reportedCount usage path) (countAt data path)) := by
  have hsame (n : Int) : latest n (latest n n) = n := by simp [latest]
  have hzero (n : Int) : latest n (latest 0 n) = n := by simp [latest]
  unfold patchClaudeMessageDeltaUsageData
  cases hc : usage.cacheCreation with
  | none =>
    cases path <;>
      simp [countAt_setMessageDeltaUsageInt, reportedCount, getCacheCreation5mTokens,
        getCacheCreation1hTokens, hc, hsame, hzero, hout]
  | some split =>
    cases path <;>
      simp [countAt_setMessageDeltaUsageInt, reportedCount, getCacheCreation5mTokens,
        getCacheCreation1hTokens, hc, hsame, hout]

end

theorem reportedCount_decode : reportedCount data.decode path = countAt (some data) path := by
  obtain ⟨_, _, _, _, cacheCreation⟩ := data
  cases path <;> cases cacheCreation <;> rfl

open StreamData

theorem count_format (info : ClaudeResponseInfo) {event : StreamData}
    (hn : event.response.type ≠ .messageStart) :
    (info.format event.claudeResponse).usage.count path =
      latest (event.reported path) (info.usage.count path) := by
  have hzero (n : Int) : latest 0 n = n := by simp [latest]
  have hupdate (data : UsageData) : (info.usage.updatedBy data.decode).count path =
      latest (countAt (some data) path) (info.usage.count path) := by
    rw [← reportedCount_decode]
    cases path <;> rfl
  unfold ClaudeResponseInfo.format reported claudeResponse
  cases ht : event.response.type with
  | messageStart => exact absurd ht hn
  | messageDelta =>
    cases event.usage with
    | none => exact (hzero _).symm
    | some data => exact hupdate data
  | contentBlockDelta => cases hd : event.response.delta <;> simp [hzero]
  | _ => exact (hzero _).symm

theorem count_start {event : StreamData} (hs : event.response.type = .messageStart) :
    (ClaudeResponseInfo.format {} event.claudeResponse).usage.count path = event.reported path := by
  unfold ClaudeResponseInfo.format reported claudeResponse
  simp only [hs]
  cases event.response.message.bind (·.usage) with
  | none | some => cases path <;> rfl

theorem counted_latest {events : List StreamData} (h : StreamOk events) :
    (countedAfter events).usage.count path = latestPositive (events.map (·.reported path)) := by
  induction events using reverseRecOn with
  | nil => cases path <;> rfl
  | append_singleton before event ih =>
    have hok : StreamOk before :=
      ⟨fun e he => h.start e (by
        cases before with
        | nil => cases he
        | cons => simp_all),
        fun e he => h.nonneg e (mem_append_left _ he)⟩
    rw [countedAfter, foldl_concat, map_append, map_singleton, latestPositive_concat, ← ih hok]
    by_cases hs : event.response.type = .messageStart
    · -- only the first event starts the message
      obtain rfl : before = [] := by
        cases before with
        | nil => rfl
        | cons first rest => exact absurd hs (h.start event (by simp))
      have hn := h.nonneg event (by simp) path
      have hzero : (countedAfter []).usage.count path = 0 := by cases path <;> rfl
      refine (count_start hs).trans ?_
      rw [hzero, latest]
      split <;> omega
    · exact count_format _ hs

theorem latestPositive_nonneg : 0 ≤ latestPositive counts := by
  induction counts using reverseRecOn with
  | nil => exact Int.le_refl 0
  | append_singleton counts n ih =>
    rw [latestPositive_concat, latest]
    split <;> omega

theorem latestPositive_eq_zero (h : ∀ n ∈ counts, n = 0) : latestPositive counts = 0 := by
  have hnone : counts.filter (0 < ·) = [] := filter_eq_nil_iff.mpr fun n hn => by simp [h n hn]
  rw [latestPositive, hnone]
  rfl

def billedPaths : List UsagePath :=
  [.inputTokens, .cacheReadInputTokens, .cacheCreationInputTokens]

theorem reportedCount_build (event : StreamData) (hp : path ∈ billedPaths) :
    reportedCount (buildMessageDeltaPatchUsage event.claudeResponse info) path =
      if countAt event.usage path = 0 ∧ info.usage.count path > 0 then info.usage.count path
      else countAt event.usage path := by
  unfold claudeResponse
  cases event.usage <;> cases path <;> first | rfl | exact absurd hp (by decide)

/-- Without a split the details of the patch are all tokens of cache creation and zero. -/
theorem split_build {event : StreamData} {info : ClaudeResponseInfo}
    (h5m : countAt event.usage .ephemeral5mInputTokens = 0)
    (h1h : countAt event.usage .ephemeral1hInputTokens = 0)
    (hi5m : info.usage.claudeCacheCreation5mTokens = 0)
    (hi1h : info.usage.claudeCacheCreation1hTokens = 0)
    {patch : ClaudeUsage} (hb : buildMessageDeltaPatchUsage event.claudeResponse info = patch)
    (hle : 0 ≤ patch.cacheCreationInputTokens) :
    reportedCount patch .ephemeral5mInputTokens = patch.cacheCreationInputTokens ∧
      reportedCount patch .ephemeral1hInputTokens = 0 := by
  have hknown : (event.claudeResponse.usage.getD {}).cacheCreation.getD
      (info.usage.claudeCacheCreation5mTokens, info.usage.claudeCacheCreation1hTokens) =
        (0, 0) := by
    unfold claudeResponse
    rw [hi5m, hi1h]
    cases hu : event.usage with
    | none => rfl
    | some data =>
      rw [hu, ← reportedCount_decode] at h5m h1h
      show data.decode.cacheCreation.getD _ = _
      cases hc : data.decode.cacheCreation with
      | none => rfl
      | some sent =>
        simp only [reportedCount, getCacheCreation5mTokens, getCacheCreation1hTokens, hc] at h5m h1h
        exact Prod.ext h5m h1h
  have hsplit : normalizeCacheCreationSplit patch.cacheCreationInputTokens 0 0 =
      (patch.cacheCreationInputTokens, 0) := by
    refine Prod.ext ?_ rfl
    show 0 + max (patch.cacheCreationInputTokens - 0 - 0) 0 = _
    omega
  have hpatch : patch.cacheCreation =
      if (event.claudeResponse.usage.getD {}).cacheCreation.isSome ∨
          (normalizeCacheCreationSplit patch.cacheCreationInputTokens 0 0).1 > 0 ∨
          (normalizeCacheCreationSplit patch.cacheCreationInputTokens 0 0).2 > 0 then
        some (normalizeCacheCreationSplit patch.cacheCreationInputTokens 0 0)
      else none := by
    rw [← hb]
    show (if _ ∨ (normalizeCacheCreationSplit _ _ _).1 > 0 ∨ _ then _ else _) = _
    rw [hknown]
    rfl
  rw [hsplit] at hpatch
  simp only [reportedCount, getCacheCreation5mTokens, getCacheCreation1hTokens, hpatch]
  split
  · exact ⟨rfl, rfl⟩
  · refine ⟨?_, rfl⟩
    show 0 = _
    omega

/-- Every `message_delta` that is sent has the latest positive counts, which are those that are
billed, keeps the positive counts of the upstream, and has the tokens of cache creation in its
details if the upstream never sends these. -/
theorem message_delta_usage {before : List StreamData} {event : StreamData}
    (h : StreamOk (before ++ [event])) (hdelta : event.response.type = .messageDelta) :
    let handled := handleStreamResponseData (countedAfter before) event
    (∀ path ∈ billedPaths,
      countAt handled.2 path = latestPositive ((before ++ [event]).map (·.reported path)) ∧
      countAt handled.2 path = handled.1.usage.count path) ∧
    (∀ path, 0 < countAt event.usage path →
      countAt handled.2 path = countAt event.usage path) ∧
    ((∀ e ∈ before ++ [event],
        e.reported .ephemeral5mInputTokens = 0 ∧ e.reported .ephemeral1hInputTokens = 0) →
      countAt handled.2 .ephemeral5mInputTokens + countAt handled.2 .ephemeral1hInputTokens =
        countAt handled.2 .cacheCreationInputTokens) := by
  intro handled
  have hreported (path) : event.reported path = countAt event.usage path := by
    simp only [StreamData.reported, hdelta]
  have hcounted (path) : handled.1.usage.count path =
      latestPositive ((before ++ [event]).map (·.reported path)) := by
    rw [← counted_latest h, countedAfter, foldl_concat]
    rfl
  have hle (path) : 0 ≤ handled.1.usage.count path := by
    rw [hcounted path]
    exact latestPositive_nonneg
  have hup (path) : 0 ≤ countAt event.usage path := by
    rw [← hreported path]
    exact h.nonneg event (by simp) path
  have hlatest (path) : handled.1.usage.count path =
      latest (countAt event.usage path) ((countedAfter before).usage.count path) := by
    rw [← hreported path]
    exact count_format _ (by simp [hdelta])
  have hsent (path) := countAt_patch event.usage
    (buildMessageDeltaPatchUsage event.claudeResponse handled.1) path (by
      unfold StreamData.claudeResponse
      cases event.usage <;> rfl)
  have heq : handled.2 = patchClaudeMessageDeltaUsageData event.usage
      (buildMessageDeltaPatchUsage event.claudeResponse handled.1) := if_pos hdelta
  have hbuilt : ∀ path ∈ billedPaths,
      reportedCount (buildMessageDeltaPatchUsage event.claudeResponse handled.1) path =
        handled.1.usage.count path := by
    intro path hp
    have hl := hle path
    have hu := hup path
    have hc := hlatest path
    rw [reportedCount_build event hp]
    unfold latest at hc
    split_ifs at * <;> omega
  have hbilled : ∀ path ∈ billedPaths,
      countAt handled.2 path = handled.1.usage.count path := by
    intro path hp
    have hl := hle path
    have hu := hup path
    have hc := hlatest path
    rw [heq, hsent path, hbuilt path hp]
    unfold latest at *
    split_ifs at * <;> omega
  refine ⟨fun path hp => ⟨(hbilled path hp).trans (hcounted path), hbilled path hp⟩,
    fun path hpos => ?_, fun hnone => ?_⟩
  · rw [heq, hsent path, latest, if_pos hpos]
  · have hzero (path) (hz : ∀ e ∈ before ++ [event], e.reported path = 0) :
        handled.1.usage.count path = 0 := by
      rw [hcounted path]
      exact latestPositive_eq_zero (forall_mem_map.mpr hz)
    have hup5m := (hreported _).symm.trans (hnone event (by simp)).1
    have hup1h := (hreported _).symm.trans (hnone event (by simp)).2
    have hcreation := hbuilt .cacheCreationInputTokens (by decide)
    have hl := hle .cacheCreationInputTokens
    obtain ⟨h5m, h1h⟩ := split_build hup5m hup1h
      (hzero .ephemeral5mInputTokens fun e he => (hnone e he).1)
      (hzero .ephemeral1hInputTokens fun e he => (hnone e he).2) rfl (hl.trans_eq hcreation.symm)
    rw [hbilled .cacheCreationInputTokens (by decide), heq, hsent, hsent, h5m, h1h, hup5m, hup1h]
    show latest 0 (latest (reportedCount _ .cacheCreationInputTokens) 0) + _ = _
    rw [hcreation]
    unfold latest
    split_ifs <;> omega

def startEvent : StreamData where
  response :=
    { type := .messageStart
      message := some { usage := some { inputTokens := 10, cacheCreationInputTokens := 4 } } }

def deltaEvent : StreamData where
  response := { type := .messageDelta }
  usage := some { outputTokens := some 3 }

theorem missing_counts_patched :
    let sent := (handleStreamResponseData (countedAfter [startEvent]) deltaEvent).2
    countAt sent .inputTokens = 10 ∧ countAt sent .outputTokens = 3 ∧
      countAt sent .ephemeral5mInputTokens + countAt sent .ephemeral1hInputTokens = 4 := by
  have hok : StreamOk ([startEvent] ++ [deltaEvent]) := by
    refine ⟨by decide, fun event hevent path => ?_⟩
    obtain rfl | rfl := by simpa using hevent
    all_goals cases path <;> decide
  obtain ⟨hbilled, hkept, hsplit⟩ := message_delta_usage hok rfl
  exact ⟨(hbilled .inputTokens (by decide)).1, hkept .outputTokens (by decide),
    (hsplit (by decide)).trans (hbilled .cacheCreationInputTokens (by decide)).1⟩

end NewApi.Billing
