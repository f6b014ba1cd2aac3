import Mathlib.Tactic.Ring
import NewApi.Channels.Cache
import NewApi.Lib.Pick

/-!
# Choosing a channel

A channel for a group and a model is chosen from the cache (`model/channel_cache.go`) or from the
tables (`model/ability.go`): the priority level of the number of retries, then at random by weight.
The channels that each can return have a closed form (`canReturn_cached_iff`,
`canReturn_stored_iff`).
-/

namespace NewApi.Channels

open Lib Lib.Ranking Lib.Pick List Ability

/-! ## The rows of a channel -/

/-- The row of a channel for a group and a model. A missing priority is stored as the column's
default, zero. -/
def Channel.ability (channel : Channel) (group model : String) : Ability where
  group := group
  model := model
  channelId := channel.id
  enabled := channel.status = .enabled
  priority := channel.getPriority
  weight := channel.getWeight
  tag := channel.tag

def abilityKey (pair : String × String) : String :=
  pair.1 ++ "|" ++ pair.2

def Channel.abilitiesFor (channel : Channel) :
    List (String × String) → List String → List Ability
  | [], _ => []
  | pair :: rest, abilitySet =>
    if abilityKey pair ∈ abilitySet then channel.abilitiesFor rest abilitySet
    else channel.ability pair.1 pair.2 ::
      channel.abilitiesFor rest (abilityKey pair :: abilitySet)

/-- The rows that `AddAbilities` creates: the groups of the first model, of the second and so
on. -/
def Channel.addAbilities (channel : Channel) : List Ability :=
  channel.abilitiesFor
    (channel.modelList.flatMap fun model => channel.groupList.map fun group => (group, model)) []

def ChannelTables.ofChannels (channels : List Channel)
    (hids : (channels.map Channel.id).Nodup) : ChannelTables where
  channels := channels
  abilities := channels.flatMap Channel.addAbilities
  nodup_ids := hids

/-! ## Choosing from the cache -/

def handleThinkingBudgetModel (name start wildcard : String) : String :=
  if startsWith name start ∧ contains name "-thinking-" then wildcard else name

def formatMatchingModelName (name : String) : String :=
  let name :=
    if startsWith name "gemini-2.5-flash-lite" then
      handleThinkingBudgetModel name "gemini-2.5-flash-lite" "gemini-2.5-flash-lite-thinking-*"
    else if startsWith name "gemini-2.5-flash" then
      handleThinkingBudgetModel name "gemini-2.5-flash" "gemini-2.5-flash-thinking-*"
    else if startsWith name "gemini-2.5-pro" then
      handleThinkingBudgetModel name "gemini-2.5-pro" "gemini-2.5-pro-thinking-*"
    else name
  let name := if startsWith name "gpt-4-gizmo" then "gpt-4-gizmo-*" else name
  if startsWith name "gpt-4o-gizmo" then "gpt-4o-gizmo-*" else name

/-- `channelsIDM[id]`. -/
def ChannelCache.lookup (cache : ChannelCache) (id : Int) : Except String Channel :=
  match Table.get? Channel.id cache.channelsIDM id with
  | some channel => .ok channel
  | none => .error ("数据库一致性错误，渠道# " ++ toString id ++ " 不存在，请联系管理员修复")

def smoothing (channels : List Channel) : Nat × Nat :=
  let sumWeight := (channels.map Channel.getWeight).sum
  if sumWeight = 0 then (1, 100)
  else if sumWeight / channels.length < 10 then (100, 0)
  else (1, 0)

def smoothWeight (channels : List Channel) (channel : Channel) : Nat :=
  channel.getWeight * (smoothing channels).1 + (smoothing channels).2

def totalWeight (channels : List Channel) : Nat :=
  let sumWeight := (channels.map Channel.getWeight).sum
  (if sumWeight = 0 then channels.length * 100 else sumWeight) * (smoothing channels).1

/-- The channels to choose from: those for the model's own name, or for its normalised name. -/
def ChannelCache.candidates (cache : ChannelCache) (group model : String) : List Int :=
  if cache.list group model = [] then cache.list group (formatMatchingModelName model)
  else cache.list group model

def chooseTarget (intn : Intn) (group model : String) (channels : List Channel)
    (targetPriority : Int) : Except String (Option Channel) :=
  let targetChannels := channels.filter (·.getPriority = targetPriority)
  if targetChannels = [] then
    .error ("no channel found, group: " ++ group ++ ", model: " ++ model ++ ", priority: " ++
      toString targetPriority)
  else
    match pickBelow (smoothWeight targetChannels) targetChannels
        (intn.value (totalWeight targetChannels)) with
    | some channel => .ok (some channel)
    | none => .error "channel not found"

/-- `GetRandomSatisfiedChannel` with the memory cache. -/
def getRandomSatisfiedChannel (cache : ChannelCache) (intn : Intn) (group model : String)
    (retry : Nat) : Except String (Option Channel) :=
  match cache.candidates group model with
  | [] => .ok none
  | [id] => (cache.lookup id).map some
  | ids =>
    match ids.mapM cache.lookup with
    | .error e => .error e
    | .ok channels =>
      match levelAt (channels.map Channel.getPriority) retry with
      -- there are at least two ids, so there is a level
      | none => .error "index out of range [-1]"
      | some targetPriority => chooseTarget intn group model channels targetPriority

/-! ## Choosing from the tables -/

/-- The rows `WHERE group = ? and model = ? and enabled = true`. -/
def ChannelTables.enabledRows (db : ChannelTables) (group model : String) : List Ability :=
  db.abilities.filter fun row => row.group = group ∧ row.model = model ∧ row.enabled

def ChannelTables.getPriority (db : ChannelTables) (group model : String) (retry : Nat) :
    Except String Int :=
  match levelAt ((db.enabledRows group model).map Ability.priority) retry with
  | none => .error "数据库一致性被破坏"
  | some priority => .ok priority

/-- The rows of the greatest priority, or of the level of the retry. -/
def ChannelTables.getChannelQuery (db : ChannelTables) (group model : String) (retry : Nat) :
    Except String (List Ability) :=
  let rows := db.enabledRows group model
  if retry = 0 then
    .ok (rows.filter fun row => (rows.map Ability.priority).max? = some row.priority)
  else
    match db.getPriority group model retry with
    | .error e => .error e
    | .ok priority => .ok (rows.filter (·.priority = priority))

def Ability.drawWeight (row : Ability) : Nat :=
  row.weight + 10

def getChannel (db : ChannelTables) (order : DescSort Ability) (intn : Intn)
    (group model : String) (retry : Nat) : Except String (Option Channel) :=
  match db.getChannelQuery group model retry with
  | .error e => .error e
  | .ok rows =>
    if rows = [] then .ok none
    else
      let abilities := order.run (fun row => row.weight) rows
      let id :=
        match pickUpTo Ability.drawWeight abilities
            (intn.value (abilities.map Ability.drawWeight).sum) with
        | some row => row.channelId
        | none => 0
      match Table.get? Channel.id db.channels id with
      | some channel => .ok (some channel)
      | none => .error "record not found"

/-! ## What the cache can return -/

def served (channels : List Channel) (group model : String) : List Channel :=
  channels.filter (·.Serves group model)

variable {channel ch : Channel}

@[simp]
theorem mem_served {channels : List Channel} {group model : String} :
    ch ∈ served channels group model ↔ ch ∈ channels ∧ ch.Serves group model := by
  simp [served]

def candidateChannels (channels : List Channel) (group model : String) : List Channel :=
  if served channels group model = [] then
    served channels group (formatMatchingModelName model)
  else served channels group model

structure CacheOf (channels : List Channel) (cache : ChannelCache) : Prop where
  nodup_ids : (channels.map Channel.id).Nodup
  channelsIDM : cache.channelsIDM = channels
  mem_list : ∀ group model id, id ∈ cache.list group model ↔
    ∃ channel ∈ served channels group model, channel.id = id

variable {db : ChannelTables}

theorem CacheOf.of_init
    (h : initChannelCache sort db = some cache) : CacheOf db.channels cache := by
  obtain ⟨hch, hcn, -⟩ := initChannelCache_eq_some h
  refine ⟨db.nodup_ids, hch, fun group model id => ?_⟩
  rw [← count_pos_iff, hcn, mentions_pos_iff db.nodup_ids]
  constructor
  · rintro ⟨ch, hm, hid, hse⟩
    exact ⟨ch, mem_served.mpr ⟨hm, hse⟩, hid⟩
  · rintro ⟨ch, hm, hid⟩
    obtain ⟨hm, hse⟩ := mem_served.mp hm
    exact ⟨ch, hm, hid, hse⟩

/-- The channel can be chosen among `channels`: it is of the right level, and has a positive
weight unless no channel of the level has. -/
def Selectable (channels : List Channel) (retry : Nat) (channel : Channel) : Prop :=
  channel ∈ channels ∧
    levelAt (channels.map Channel.getPriority) retry = some channel.getPriority ∧
    (0 < channel.getWeight ∨
      ∀ other ∈ channels, other.getPriority = channel.getPriority → other.getWeight = 0)
  deriving Decidable

theorem Selectable.congr (h : ∀ channel, channel ∈ first ↔ channel ∈ second) :
    Selectable first retry channel ↔ Selectable second retry channel := by
  have hrk : ∀ rank, rank ∈ first.map Channel.getPriority ↔
      rank ∈ second.map Channel.getPriority := by
    intro rank
    simp only [mem_map, h]
  simp only [Selectable, h, levelAt_congr hrk]

section

variable {channels : List Channel}

theorem sum_getWeight_eq_zero_iff :
    (channels.map Channel.getWeight).sum = 0 ↔ ∀ channel ∈ channels, channel.getWeight = 0 := by
  induction channels with
  | nil => simp
  | cons head rs ih =>
    rw [map_cons, sum_cons, Nat.add_eq_zero_iff, ih, forall_mem_cons]

theorem smoothWeight_pos_iff :
    0 < smoothWeight channels ch ↔ 0 < ch.getWeight ∨ ∀ other ∈ channels, other.getWeight = 0 := by
  rw [← sum_getWeight_eq_zero_iff]
  unfold smoothWeight smoothing
  dsimp only
  split
  next hz => simp [hz]
  next hsu =>
    split <;> simp [hsu]

theorem totalWeight_eq_sum : totalWeight channels = (channels.map (smoothWeight channels)).sum := by
  have hsu : ∀ (fac adju : Nat) (xs : List Channel),
      (xs.map fun channel => channel.getWeight * fac + adju).sum =
        (xs.map Channel.getWeight).sum * fac + xs.length * adju := by
    intro fac adju xs
    induction xs with
    | nil => simp
    | cons head rs ih =>
      simp only [map_cons, sum_cons, length_cons, ih]
      ring
  show totalWeight channels = (channels.map fun channel =>
    channel.getWeight * (smoothing channels).1 + (smoothing channels).2).sum
  rw [hsu]
  unfold totalWeight smoothing
  dsimp only
  split
  next hz => simp [hz]
  · split <;> simp

variable {rt : Nat} {tgt : Int}

theorem totalWeight_pos (hne : channels ≠ []) : 0 < totalWeight channels := by
  have hl : 0 < channels.length := length_pos_iff.mpr hne
  unfold totalWeight smoothing
  dsimp only
  split
  · omega
  next hsu =>
    split <;> omega

theorem selectable_iff (hle : levelAt (channels.map Channel.getPriority) rt = some tgt) :
    Selectable channels rt ch ↔
      ch ∈ channels.filter (·.getPriority = tgt) ∧
        0 < smoothWeight (channels.filter (·.getPriority = tgt)) ch := by
  rw [smoothWeight_pos_iff, Selectable, hle]
  simp only [mem_filter, decide_eq_true_eq, Option.some.injEq]
  constructor
  · rintro ⟨hm, rfl, hwt⟩
    exact ⟨⟨hm, rfl⟩, hwt.imp_right fun h other hot => h other hot.1 hot.2⟩
  · rintro ⟨⟨hm, rfl⟩, hwt⟩
    exact ⟨hm, rfl, hwt.imp_right fun h other hot hs => h other ⟨hot, hs⟩⟩

/-- The level that a retry asks for has a channel. -/
theorem targetChannels_ne_nil (hle : levelAt (channels.map Channel.getPriority) rt = some tgt) :
    channels.filter (·.getPriority = tgt) ≠ [] := by
  obtain ⟨channel, hm, hpr⟩ := mem_map.mp (levelAt_mem hle)
  exact ne_nil_of_mem (mem_filter.mpr ⟨hm, by simpa using hpr⟩)

theorem chooseTarget_ok (itn : Intn) (group model : String)
    (hle : levelAt (channels.map Channel.getPriority) rt = some tgt) :
    ∃ channel, chooseTarget itn group model channels tgt = .ok (some channel) ∧
      Selectable channels rt channel := by
  have hne := targetChannels_ne_nil hle
  have htk := itn.value_lt _ (totalWeight_pos hne)
  nth_rewrite 2 [totalWeight_eq_sum] at htk
  obtain ⟨channel, hpi⟩ := Option.isSome_iff_exists.mp (pickBelow_isSome htk)
  refine ⟨channel, ?_, (selectable_iff hle).mpr (pickBelow_mem hpi)⟩
  simp only [chooseTarget, hne, if_false, hpi]

theorem exists_chooseTarget (group model : String)
    (hle : levelAt (channels.map Channel.getPriority) rt = some tgt)
    (hch : Selectable channels rt ch) :
    ∃ itn, chooseTarget itn group model channels tgt = .ok (some ch) := by
  obtain ⟨hm, hp⟩ := (selectable_iff hle).mp hch
  obtain ⟨task, hlt, hpi⟩ := exists_pickBelow hm hp
  rw [← totalWeight_eq_sum] at hlt
  refine ⟨Intn.const task, ?_⟩
  simp only [chooseTarget, ne_nil_of_mem hm, if_false, Intn.const_value hlt, hpi]

end

section

variable {channels : List Channel} {cache : ChannelCache}

section

variable (h : CacheOf channels cache)
include h

theorem CacheOf.lookup_id (hm : ch ∈ channels) : cache.lookup ch.id = .ok ch := by
  rw [ChannelCache.lookup, h.channelsIDM, Table.get?_of_mem h.nodup_ids hm]

theorem CacheOf.mapM_lookup (ids : List Int)
    (hids : ∀ id ∈ ids, ∃ channel ∈ channels, channel.id = id) :
    ∃ fnd, ids.mapM cache.lookup = .ok fnd ∧
      ∀ channel, channel ∈ fnd ↔ channel ∈ channels ∧ channel.id ∈ ids := by
  induction ids with
  | nil => exact ⟨[], rfl, by simp⟩
  | cons id rs ih =>
    obtain ⟨fnd, hfn, hm⟩ := ih fun other hot => hids other (mem_cons_of_mem _ hot)
    obtain ⟨channel, hch, rfl⟩ := hids id mem_cons_self
    refine ⟨channel :: fnd, ?_, fun other => ?_⟩
    · rw [mapM_cons, h.lookup_id hch, hfn]
      rfl
    rw [mem_cons, hm, mem_cons]
    constructor
    · rintro (rfl | ⟨hot, hr⟩)
      · exact ⟨hch, .inl rfl⟩
      · exact ⟨hot, .inr hr⟩
    · rintro ⟨hot, hs | hr⟩
      · exact .inl (inj_on_of_nodup_map h.nodup_ids hot hch hs)
      · exact .inr ⟨hot, hr⟩

theorem CacheOf.mem_candidates {group model : String} {id : Int} :
    id ∈ cache.candidates group model ↔
      ∃ channel ∈ candidateChannels channels group model, channel.id = id := by
  have hem : cache.list group model = [] ↔ served channels group model = [] := by
    rw [eq_nil_iff_forall_not_mem, eq_nil_iff_forall_not_mem]
    constructor
    · intro hli channel hch
      exact hli channel.id ((h.mem_list ..).mpr ⟨channel, hch, rfl⟩)
    · intro hse id hid
      obtain ⟨channel, hch, -⟩ := (h.mem_list ..).mp hid
      exact hse channel hch
  unfold ChannelCache.candidates candidateChannels
  by_cases hse : served channels group model = []
  · rw [if_pos hse, if_pos (hem.mpr hse), h.mem_list]
  · rw [if_neg hse, if_neg (mt hem.mp hse), h.mem_list]

end

theorem candidateChannels_subset {group model : String}
    (hm : ch ∈ candidateChannels channels group model) : ch ∈ channels := by
  unfold candidateChannels at hm
  split at hm <;> exact (mem_served.mp hm).1

theorem selectable_of_unique (hm : ch ∈ channels) (hun : ∀ other ∈ channels, other = ch) :
    Selectable channels retry ch := by
  refine ⟨hm, ?_, ?_⟩
  · cases hle : levelAt (channels.map Channel.getPriority) retry with
    | none =>
      rw [levelAt_eq_none_iff, map_eq_nil_iff] at hle
      rw [hle] at hm
      cases hm
    | some rank =>
      obtain ⟨other, hot, hra⟩ := mem_map.mp (levelAt_mem hle)
      rw [← hra, hun other hot]
  · rcases Nat.eq_zero_or_pos ch.getWeight with hz | hp
    · exact .inr fun other hot _ => by rw [hun other hot, hz]
    · exact .inl hp

theorem CacheOf.getRandomSatisfiedChannel_cases (h : CacheOf channels cache) (group model : String)
    (retry : Nat) :
    let can := candidateChannels channels group model
    (can = [] ∧ ∀ itn, getRandomSatisfiedChannel cache itn group model retry = .ok none) ∨
    (∃ channel ∈ can, (∀ other ∈ can, other = channel) ∧
      ∀ itn, getRandomSatisfiedChannel cache itn group model retry = .ok (some channel)) ∨
    ∃ fnd tgt, (∀ channel, channel ∈ fnd ↔ channel ∈ can) ∧
      levelAt (fnd.map Channel.getPriority) retry = some tgt ∧
      ∀ itn, getRandomSatisfiedChannel cache itn group model retry =
        chooseTarget itn group model fnd tgt := by
  intro can
  have hm : ∀ id, id ∈ cache.candidates group model ↔ ∃ channel ∈ can, channel.id = id :=
    fun id => h.mem_candidates
  have hin : ∀ first ∈ can, ∀ second ∈ can, first.id = second.id → first = second :=
    fun first hfi second hsc hid => inj_on_of_nodup_map h.nodup_ids
      (candidateChannels_subset hfi) (candidateChannels_subset hsc) hid
  unfold getRandomSatisfiedChannel
  cases hids : cache.candidates group model with
  | nil =>
    refine .inl ⟨eq_nil_iff_forall_not_mem.mpr fun channel hch => ?_, fun _ => rfl⟩
    have hid := (hm channel.id).mpr ⟨channel, hch, rfl⟩
    rw [hids] at hid
    cases hid
  | cons id rs =>
    obtain ⟨channel, hch, rfl⟩ := (hm id).mp (by rw [hids]; exact mem_cons_self)
    cases rs with
    | nil =>
      -- the only id: no level and no weight is looked at
      refine .inr (.inl ⟨channel, hch, fun other hot => ?_, fun _ => ?_⟩)
      · have hid := (hm other.id).mpr ⟨other, hot, rfl⟩
        rw [hids, mem_singleton] at hid
        exact hin other hot channel hch hid
      · dsimp only
        rw [h.lookup_id (candidateChannels_subset hch)]
        rfl
    | cons second rs =>
      obtain ⟨fnd, hfn, ha⟩ := h.mapM_lookup (cache.candidates group model)
        fun id hid => by
          obtain ⟨other, hot, heq⟩ := (hm id).mp hid
          exact ⟨other, candidateChannels_subset hot, heq⟩
      have hs : ∀ other, other ∈ fnd ↔ other ∈ can := by
        intro other
        rw [ha, hm]
        constructor
        · rintro ⟨hot, ent, hen, hid⟩
          rwa [← inj_on_of_nodup_map h.nodup_ids (candidateChannels_subset hen) hot hid]
        · intro hot
          exact ⟨candidateChannels_subset hot, other, hot, rfl⟩
      cases hle : levelAt (fnd.map Channel.getPriority) retry with
      | none =>
        rw [levelAt_eq_none_iff, map_eq_nil_iff] at hle
        rw [hle] at hs
        cases (hs channel).mpr hch
      | some tgt =>
        rw [hids] at hfn
        refine .inr (.inr ⟨fnd, tgt, hs, hle, fun itn => ?_⟩)
        simp only [hfn, hle]

variable {grp mdl : String} {retry : Nat}

section

variable (h : CacheOf channels cache)
include h

theorem CacheOf.getRandomSatisfiedChannel_ok (hne : candidateChannels channels grp mdl ≠ []) :
    ∃ channel, getRandomSatisfiedChannel cache itn grp mdl retry = .ok (some channel) ∧
      Selectable (candidateChannels channels grp mdl) retry channel := by
  obtain ⟨hni, -⟩ | ⟨channel, hm, hun, hr⟩ | ⟨fnd, tgt, hs, hle, hr⟩ :=
    h.getRandomSatisfiedChannel_cases grp mdl retry
  · exact absurd hni hne
  · exact ⟨channel, hr itn, selectable_of_unique hm hun⟩
  · obtain ⟨channel, hch, hse⟩ := chooseTarget_ok itn grp mdl hle
    exact ⟨channel, (hr itn).trans hch, (Selectable.congr hs).mp hse⟩

theorem CacheOf.getRandomSatisfiedChannel_none (hni : candidateChannels channels grp mdl = []) :
    getRandomSatisfiedChannel cache itn grp mdl retry = .ok none := by
  obtain ⟨-, hr⟩ | ⟨ch, hm, -⟩ | ⟨fnd, tgt, hs, hle, -⟩ :=
    h.getRandomSatisfiedChannel_cases grp mdl retry
  · exact hr itn
  · rw [hni] at hm
    cases hm
  · obtain ⟨ch, hm, -⟩ := mem_map.mp (levelAt_mem hle)
    rw [hs, hni] at hm
    cases hm

theorem CacheOf.canReturn_cached_iff :
    (∃ itn, getRandomSatisfiedChannel cache itn grp mdl retry = .ok (some ch)) ↔
      Selectable (candidateChannels channels grp mdl) retry ch := by
  constructor
  · rintro ⟨itn, hre⟩
    by_cases hni : candidateChannels channels grp mdl = []
    · rw [h.getRandomSatisfiedChannel_none hni] at hre
      cases hre
    obtain ⟨other, hot, hse⟩ := h.getRandomSatisfiedChannel_ok hni
    rw [hre] at hot
    cases hot
    exact hse
  intro hse
  obtain ⟨hni, -⟩ | ⟨only, -, hun, hr⟩ | ⟨fnd, tgt, hs, hle, hr⟩ :=
    h.getRandomSatisfiedChannel_cases grp mdl retry
  · exact absurd hse.1 (hni ▸ not_mem_nil)
  · rw [hun ch hse.1]
    exact ⟨Intn.const 0, hr _⟩
  · obtain ⟨itn, hch⟩ := exists_chooseTarget grp mdl hle ((Selectable.congr hs).mpr hse)
    exact ⟨itn, (hr itn).trans hch⟩

end

end

/-! ## What the tables can return -/

def Channel.Stored (channel : Channel) (group model : String) : Prop :=
  channel.status = .enabled ∧
    ∃ row ∈ channel.addAbilities, row.group = group ∧ row.model = model
  deriving Decidable

def stored (channels : List Channel) (group model : String) : List Channel :=
  channels.filter (·.Stored group model)

variable {row : Ability}

theorem mem_abilitiesFor (h : row ∈ ch.abilitiesFor prs sn) :
    ∃ pr ∈ prs, row = ch.ability pr.1 pr.2 := by
  induction prs generalizing sn with
  | nil => cases h
  | cons pr rs ih =>
    rw [Channel.abilitiesFor] at h
    split at h
    · obtain ⟨other, hm, hr⟩ := ih h
      exact ⟨other, mem_cons_of_mem _ hm, hr⟩
    rcases mem_cons.mp h with hr | hre
    · exact ⟨pr, mem_cons_self, hr⟩
    · obtain ⟨other, hm, hr⟩ := ih hre
      exact ⟨other, mem_cons_of_mem _ hm, hr⟩

theorem mem_addAbilities (h : row ∈ ch.addAbilities) :
    row = ch.ability row.group row.model ∧ row.group ∈ ch.groupList ∧ row.model ∈ ch.modelList := by
  obtain ⟨pr, hpa, rfl⟩ := mem_abilitiesFor h
  obtain ⟨model, hmd, hpa⟩ := mem_flatMap.mp hpa
  obtain ⟨group, hg, rfl⟩ := mem_map.mp hpa
  exact ⟨rfl, hg, hmd⟩

theorem Channel.Stored.serves {group model : String} (h : ch.Stored group model) :
    ch.Serves group model := by
  obtain ⟨hen, row, hr, rfl, rfl⟩ := h
  obtain ⟨-, hg, hmd⟩ := mem_addAbilities hr
  exact ⟨hen, hg, hmd⟩

theorem ability_mem_abilitiesFor
    (hin : ∀ first ∈ prs, ∀ second ∈ prs, abilityKey first = abilityKey second → first = second)
    (hpa : pr ∈ prs) (hfr : abilityKey pr ∉ sn) :
    ch.ability pr.1 pr.2 ∈ ch.abilitiesFor (prs ++ rs) sn := by
  induction prs generalizing sn with
  | nil => cases hpa
  | cons head tail ih =>
    have hit : ∀ first ∈ tail, ∀ second ∈ tail,
        abilityKey first = abilityKey second → first = second :=
      fun first hfi second hsc => hin first (mem_cons_of_mem _ hfi) second (mem_cons_of_mem _ hsc)
    rw [cons_append, Channel.abilitiesFor]
    split
    next hse =>
      rcases mem_cons.mp hpa with rfl | hm
      · exact absurd hse hfr
      · exact ih hit hm hfr
    next hse =>
      by_cases heq : pr = head
      · rw [heq]
        exact mem_cons_self
      have hm := (mem_cons.mp hpa).resolve_left heq
      have hk : abilityKey pr ≠ abilityKey head := fun hk => heq (hin pr hpa head mem_cons_self hk)
      refine mem_cons_of_mem _ (ih hit hm ?_)
      rw [mem_cons, not_or]
      exact ⟨hk, hfr⟩

theorem exists_row_of_group {group : String} (hg : group ∈ ch.groupList) :
    ∃ row ∈ ch.addAbilities, row.group = group := by
  unfold Channel.addAbilities
  cases hmo : ch.modelList with
  | nil => exact absurd hmo (split_ne_nil ',' ch.models)
  | cons model mo =>
    have hpa : (group, model) ∈ ch.groupList.map fun group => (group, model) :=
      mem_map.mpr ⟨group, hg, rfl⟩
    refine ⟨_, ability_mem_abilitiesFor ?_ hpa not_mem_nil, rfl⟩
    intro first hfi second hsc hk
    obtain ⟨left, -, rfl⟩ := mem_map.mp hfi
    obtain ⟨right, -, rfl⟩ := mem_map.mp hsc
    simp only [abilityKey, String.append_left_inj] at hk
    rw [hk]

variable {rws : List Ability}

section

variable {channels : List Channel} {hids : (channels.map Channel.id).Nodup}
  {group grp model mdl : String} {retry : Nat}

theorem isSome_initChannelCache_ofChannels (sort : DescSort Int) :
    (initChannelCache sort (.ofChannels channels hids)).isSome := by
  rw [initChannelCache_isSome_iff]
  intro channel hm _ group hg
  obtain ⟨row, hr, rfl⟩ := exists_row_of_group hg
  exact mem_map_of_mem (mem_flatMap.mpr ⟨channel, hm, hr⟩)

theorem mem_enabledRows :
    row ∈ (ChannelTables.ofChannels channels hids).enabledRows grp mdl ↔
      ∃ channel ∈ stored channels grp mdl, row = channel.ability grp mdl := by
  simp only [ChannelTables.enabledRows, ChannelTables.ofChannels, stored, mem_filter, mem_flatMap,
    decide_eq_true_eq]
  constructor
  · rintro ⟨⟨channel, hm, hr⟩, rfl, rfl, hen⟩
    obtain ⟨heq, -⟩ := mem_addAbilities hr
    rw [heq] at hen
    exact ⟨channel, ⟨hm, by simpa [Channel.ability] using hen, row, hr, rfl, rfl⟩, heq⟩
  rintro ⟨channel, ⟨hm, hen, row, hr, rfl, rfl⟩, rfl⟩
  rw [← (mem_addAbilities hr).1]
  refine ⟨⟨channel, hm, hr⟩, rfl, rfl, ?_⟩
  rw [(mem_addAbilities hr).1]
  simpa [Channel.ability] using hen

theorem mem_stored : ch ∈ stored channels grp mdl ↔ ch ∈ channels ∧ ch.Stored grp mdl := by
  simp [stored]

theorem levelAt_enabledRows (retry : Nat) :
    levelAt (((ChannelTables.ofChannels channels hids).enabledRows group model).map
        priority) retry =
      levelAt ((stored channels group model).map Channel.getPriority) retry := by
  refine levelAt_congr (fun rank => ?_)
  simp only [mem_map, mem_enabledRows]
  constructor
  · rintro ⟨row, ⟨ch, hm, rfl⟩, rfl⟩
    exact ⟨ch, hm, rfl⟩
  · rintro ⟨ch, hm, rfl⟩
    exact ⟨ch.ability group model, ⟨ch, hm, rfl⟩, rfl⟩

theorem getChannelQuery_of_level
    (hle : levelAt ((db.enabledRows grp mdl).map priority) retry = some prio) :
    db.getChannelQuery grp mdl retry =
      .ok ((db.enabledRows grp mdl).filter (·.priority = prio)) := by
  unfold ChannelTables.getChannelQuery
  split
  next hz =>
    rw [hz, levelAt_zero] at hle
    simp only [hle, Option.some.injEq, eq_comm]
  · simp only [ChannelTables.getPriority, hle]

theorem getChannelQuery_of_nil (hni : db.enabledRows grp mdl = [])
    (h : db.getChannelQuery grp mdl retry = .ok rws) : rws = [] := by
  unfold ChannelTables.getChannelQuery at h
  rw [hni] at h
  split at h
  · cases h
    rfl
  have hle : levelAt (([] : List Ability).map priority) retry = none := levelAt_eq_none_iff.mpr rfl
  simp only [ChannelTables.getPriority, hni, hle] at h
  cases h

theorem get?_ability (hm : ch ∈ stored channels grp mdl) :
    Table.get? Channel.id (ChannelTables.ofChannels channels hids).channels
      (ch.ability grp mdl).channelId = some ch :=
  Table.get?_of_mem hids (mem_stored.mp hm).1

theorem draw_mem (order : DescSort Ability) (itn : Intn) (hne : rws ≠ []) :
    ∃ row ∈ rws, pickUpTo drawWeight (order.run (fun row => row.weight) rws)
      (itn.value ((order.run (fun row => row.weight) rws).map drawWeight).sum) = some row := by
  have hpe := order.perm (fun row => row.weight) rws
  generalize order.run (fun row => row.weight) rws = sor at hpe
  have hsu : 0 < (sor.map drawWeight).sum := by
    cases sor with
    | nil => exact absurd hpe.nil_eq.symm hne
    | cons head rs =>
      rw [map_cons, sum_cons, drawWeight]
      omega
  obtain ⟨row, hpi⟩ := Option.isSome_iff_exists.mp (pickUpTo_isSome (itn.value_lt _ hsu))
  exact ⟨row, hpe.mem_iff.mp (pickUpTo_mem hpi), hpi⟩

theorem exists_draw (order : DescSort Ability) (hr : row ∈ rws) :
    ∃ itn : Intn, pickUpTo drawWeight (order.run (fun row => row.weight) rws)
      (itn.value ((order.run (fun row => row.weight) rws).map drawWeight).sum) = some row := by
  have hpe := order.perm (fun row => row.weight) rws
  generalize order.run (fun row => row.weight) rws = sor at hpe
  have hwt : ∀ other ∈ sor, 2 ≤ other.drawWeight := by
    intro other _
    rw [drawWeight]
    omega
  obtain ⟨task, hlt, -, hpi⟩ := exists_pickUpTo (hpe.mem_iff.mpr hr) hwt
  exact ⟨Intn.const task, by rw [Intn.const_value hlt, hpi]⟩

theorem canReturn_stored_iff :
    (∃ itn, getChannel (.ofChannels channels hids) order itn grp mdl retry =
        .ok (some channel)) ↔
      channel ∈ stored channels grp mdl ∧
        levelAt ((stored channels grp mdl).map Channel.getPriority) retry =
          some channel.getPriority := by
  rw [← @levelAt_enabledRows channels hids]
  generalize hdb : ChannelTables.ofChannels channels hids = db
  have hm : ∀ row, row ∈ db.enabledRows grp mdl ↔
      ∃ channel ∈ stored channels grp mdl, row = channel.ability grp mdl := by
    intro row
    rw [← hdb, mem_enabledRows]
  have hg : ∀ other ∈ stored channels grp mdl,
      Table.get? Channel.id db.channels (other.ability grp mdl).channelId = some other := by
    intro other hot
    rw [← hdb, get?_ability hot]
  constructor
  · rintro ⟨itn, hre⟩
    unfold getChannel at hre
    cases hle : levelAt ((db.enabledRows grp mdl).map priority) retry with
    | none =>
      -- no rows: the query fails or returns none
      rw [levelAt_eq_none_iff, map_eq_nil_iff] at hle
      cases hqu : db.getChannelQuery grp mdl retry with
      | error e => simp [hqu] at hre
      | ok rws => simp [hqu, getChannelQuery_of_nil hle hqu] at hre
    | some prio =>
      simp only [getChannelQuery_of_level hle] at hre
      split at hre
      · cases hre
      next hne =>
        obtain ⟨row, hr, hpi⟩ := draw_mem order itn hne
        rw [mem_filter, hm] at hr
        obtain ⟨⟨other, hot, rfl⟩, hpr⟩ := hr
        simp only [hpi, hg other hot, Except.ok.injEq, Option.some.injEq] at hre
        subst hre
        exact ⟨hot, congrArg some (of_decide_eq_true hpr).symm⟩
  · rintro ⟨hst, hle⟩
    have hr : channel.ability grp mdl ∈
        (db.enabledRows grp mdl).filter (·.priority = channel.getPriority) :=
      mem_filter.mpr ⟨(hm _).mpr ⟨channel, hst, rfl⟩, decide_eq_true rfl⟩
    obtain ⟨itn, hpi⟩ := exists_draw order hr
    refine ⟨itn, ?_⟩
    simp only [getChannel, getChannelQuery_of_level hle, ne_nil_of_mem hr, if_false, hpi,
      hg channel hst]

end

/-! ## When both can return the same channels -/

/-- The conditions under which the cache and the tables can return the same channels: the
normalised model name is not needed, both have the same level, and at that level the channels with
a row are those with a positive weight, or all if no channel has one. -/
structure SameSupport (channels : List Channel) (group model : String) (retry : Nat) : Prop where
  ownName : served channels group model = [] →
    served channels group (formatMatchingModelName model) = []
  sameLevel : levelAt ((served channels group model).map Channel.getPriority) retry =
    levelAt ((stored channels group model).map Channel.getPriority) retry
  weights : ∀ channel ∈ served channels group model,
    levelAt ((served channels group model).map Channel.getPriority) retry =
      some channel.getPriority →
    (channel.Stored group model ↔ 0 < channel.getWeight ∨
      ∀ other ∈ served channels group model, other.getPriority = channel.getPriority →
        other.getWeight = 0)

theorem exists_selectable (hne : channels ≠ []) : ∃ channel, Selectable channels retry channel := by
  cases hle : levelAt (channels.map Channel.getPriority) retry with
  | none =>
    rw [levelAt_eq_none_iff, map_eq_nil_iff] at hle
    exact absurd hle hne
  | some tgt =>
    obtain ⟨channel, -, hse⟩ := chooseTarget_ok (Intn.const 0) "" "" hle
    exact ⟨channel, hse⟩

theorem stored_eq_nil {channels : List Channel} {group model : String}
    (h : served channels group model = []) : stored channels group model = [] := by
  refine eq_nil_iff_forall_not_mem.mpr fun channel hm => ?_
  obtain ⟨hm, hst⟩ := mem_stored.mp hm
  have hse := mem_served.mpr ⟨hm, hst.serves⟩
  rw [h] at hse
  cases hse

theorem selectable_iff_stored_iff (group model : String) :
    (∀ channel, Selectable (candidateChannels channels group model) retry channel ↔
      channel ∈ stored channels group model ∧
        levelAt ((stored channels group model).map Channel.getPriority) retry =
          some channel.getPriority) ↔
      SameSupport channels group model retry := by
  by_cases hse : served channels group model = []
  · -- no channel serves the model under its own name, so none has a row
    rw [candidateChannels, if_pos hse, stored_eq_nil hse]
    constructor
    · intro hs
      refine ⟨fun _ => ?_, by rw [hse, stored_eq_nil hse], by simp [hse]⟩
      by_contra hne
      obtain ⟨channel, hsl⟩ := exists_selectable hne
      cases ((hs channel).mp hsl).1
    · intro hs channel
      rw [hs.ownName hse]
      exact ⟨fun h => absurd h.1 not_mem_nil, fun h => absurd h.1 not_mem_nil⟩
  · rw [candidateChannels, if_neg hse]
    constructor
    · intro hs
      obtain ⟨chn, hch⟩ := exists_selectable hse
      have hle := hch.2.1.trans ((hs chn).mp hch).2.symm
      refine ⟨fun h => absurd h hse, hle, fun channel hm hpr => ?_⟩
      constructor
      · intro hst
        have hr := mem_stored.mpr ⟨(mem_served.mp hm).1, hst⟩
        exact ((hs channel).mpr ⟨hr, hle ▸ hpr⟩).2.2
      · intro hwt
        exact (mem_stored.mp ((hs channel).mp ⟨hm, hpr, hwt⟩).1).2
    · rintro ⟨-, hle, hwe⟩ channel
      constructor
      · rintro ⟨hm, hpr, hwt⟩
        exact ⟨mem_stored.mpr ⟨(mem_served.mp hm).1, (hwe channel hm hpr).mpr hwt⟩, hle ▸ hpr⟩
      rintro ⟨hst, hpr⟩
      obtain ⟨hm, hst⟩ := mem_stored.mp hst
      have hm := mem_served.mpr ⟨hm, hst.serves⟩
      rw [← hle] at hpr
      exact ⟨hm, hpr, (hwe channel hm hpr).mp hst⟩

/-- Over the abilities that the channels add, a fresh cache and the tables can return the same
channels exactly under the conditions of `SameSupport`. -/
theorem selection_support_iff (sort : DescSort Int) (order : DescSort Ability)
    (channels : List Channel) (hids : (channels.map Channel.id).Nodup) (group model : String)
    (retry : Nat) :
    ∃ cache, initChannelCache sort (.ofChannels channels hids) = some cache ∧
      ((∀ channel,
        (∃ intn, getRandomSatisfiedChannel cache intn group model retry = .ok (some channel)) ↔
          ∃ intn, getChannel (.ofChannels channels hids) order intn group model retry =
            .ok (some channel)) ↔
        SameSupport channels group model retry) := by
  obtain ⟨cache, hca⟩ := Option.isSome_iff_exists.mp
    (@isSome_initChannelCache_ofChannels channels hids sort)
  refine ⟨cache, hca, ?_⟩
  have hcc : CacheOf channels cache := CacheOf.of_init hca
  rw [← selectable_iff_stored_iff]
  refine forall_congr' fun channel => ?_
  rw [hcc.canReturn_cached_iff, canReturn_stored_iff]

def weightedChannels : List Channel :=
  [{ id := 1, models := "gpt-4o", group := "vip", weight := some 20, priority := some 5 },
    { id := 2, models := "gpt-4o,o3", group := "default,vip", weight := some 1,
      priority := some 5 },
    { id := 3, models := "gpt-4o", group := "vip" }]

/-- Both selections can return the two weighted channels, and no other. -/
theorem weightedChannels_same_support :
    ∃ cache,
      initChannelCache (DescSort.insertion Int)
        (.ofChannels weightedChannels (by decide)) = some cache ∧
      (∀ channel,
        (∃ intn, getRandomSatisfiedChannel cache intn "vip" "gpt-4o" 0 = .ok (some channel)) ↔
          ∃ intn, getChannel (.ofChannels weightedChannels (by decide))
            (DescSort.insertion Ability) intn "vip" "gpt-4o" 0 = .ok (some channel)) := by
  obtain ⟨cache, hca, hif⟩ := selection_support_iff (DescSort.insertion Int)
    (DescSort.insertion Ability) weightedChannels (by decide) "vip" "gpt-4o" 0
  exact ⟨cache, hca, hif.mpr ⟨by decide +kernel, by decide +kernel, by decide +kernel⟩⟩

def weightlessChannel : Channel where
  id := 1
  models := "gpt-4o"
  group := "vip"

def wildcardChannel : Channel where
  id := 2
  models := "gpt-4o,gpt-4-gizmo-*"
  group := "vip"
  weight := some 10

/-- The cache never returns the channel without weight, the tables do. The cache returns the
channel for a model of the family, the tables find none. -/
theorem weightless_and_wildcard_channels_differ :
    ∃ cache,
      initChannelCache (DescSort.insertion Int)
        (.ofChannels [weightlessChannel, wildcardChannel] (by decide)) = some cache ∧
      (∀ intn, getRandomSatisfiedChannel cache intn "vip" "gpt-4o" 0 ≠
        .ok (some weightlessChannel)) ∧
      (∃ intn, getChannel (.ofChannels [weightlessChannel, wildcardChannel] (by decide))
        (DescSort.insertion Ability) intn "vip" "gpt-4o" 0 = .ok (some weightlessChannel)) ∧
      (∃ intn, getRandomSatisfiedChannel cache intn "vip" "gpt-4-gizmo-g-1" 0 =
        .ok (some wildcardChannel)) ∧
      ∀ intn channel, getChannel (.ofChannels [weightlessChannel, wildcardChannel] (by decide))
        (DescSort.insertion Ability) intn "vip" "gpt-4-gizmo-g-1" 0 ≠ .ok (some channel) := by
  obtain ⟨cache, hcc⟩ := Option.isSome_iff_exists.mp
    (@isSome_initChannelCache_ofChannels [weightlessChannel, wildcardChannel] (by decide)
      (DescSort.insertion Int))
  have hca : CacheOf [weightlessChannel, wildcardChannel] cache := CacheOf.of_init hcc
  refine ⟨cache, hcc, ?_, ?_, ?_, ?_⟩
  · intro intn hre
    exact absurd (hca.canReturn_cached_iff.mp ⟨intn, hre⟩) (by decide +kernel)
  · exact canReturn_stored_iff.mpr (by decide +kernel)
  · exact hca.canReturn_cached_iff.mpr (by decide +kernel)
  intro intn channel hre
  have hst := (canReturn_stored_iff.mp ⟨intn, hre⟩).1
  have hni : stored [weightlessChannel, wildcardChannel] "vip" "gpt-4-gizmo-g-1" = [] := by
    decide +kernel
  cases hst

end NewApi.Channels
