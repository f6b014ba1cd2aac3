import Mathlib.Data.List.Count
import Mathlib.Data.List.Perm.Basic
import Mathlib.Logic.Function.Basic
import NewApi.Lib.Loop
import NewApi.Lib.Ranking
import NewApi.Lib.Table
import NewApi.Lib.Text

/-!
# The channel cache

`model/channel_cache.go`: for every group and model the ids of the enabled channels that serve it,
by priority. The groups come from the abilities, the entries from the columns of the channels.
`initChannelCache` is `none` where the program panics: it assigns into a map that was never made.
-/

namespace NewApi.Channels

open Lib Lib.Ranking List Table Option

/-- The `ChannelStatus` constants. -/
inductive ChannelStatus where
  | unknown
  | enabled
  | manuallyDisabled
  | autoDisabled
  deriving DecidableEq

structure Channel where
  id : Int
  status : ChannelStatus := .enabled
  weight : Option Nat := none
  models : String
  group : String
  priority : Option Int := none
  tag : Option String := none
  deriving DecidableEq

namespace Channel

def getPriority (channel : Channel) : Int :=
  channel.priority.getD 0

def getWeight (channel : Channel) : Nat :=
  channel.weight.getD 0

def groupList (channel : Channel) : List String :=
  split ',' channel.group

def modelList (channel : Channel) : List String :=
  split ',' channel.models

def Serves (channel : Channel) (group model : String) : Prop :=
  channel.status = .enabled ∧ group ∈ channel.groupList ∧ model ∈ channel.modelList
  deriving Decidable

end Channel

structure Ability where
  group : String
  model : String
  channelId : Int
  enabled : Bool
  priority : Int
  weight : Nat
  tag : Option String := none
  deriving DecidableEq

/-- The two tables; the id is the primary key of a channel. -/
structure ChannelTables where
  channels : List Channel
  abilities : List Ability
  nodup_ids : (channels.map Channel.id).Nodup

/-- `map[string]map[string][]int`; a model without an entry has no channels. -/
abbrev GroupModelChannels : Type := String → Option (String → List Int)

/-- `m[group][model]`, which is empty for a group without a map. -/
def GroupModelChannels.list (m : GroupModelChannels) (group model : String) : List Int :=
  match m group with
  | none => []
  | some model2channels => model2channels model

/-- The state of the cache: the lists of enabled channels and all channels by id. -/
structure ChannelCache where
  group2model2channels : GroupModelChannels
  channelsIDM : List Channel

/-! ## Building the cache -/

def priorityOf (channels : List Channel) (id : Int) : Int :=
  match Table.get? Channel.id channels id with
  | none => 0
  | some channel => channel.getPriority

def makeGroups (abilities : List Ability) : GroupModelChannels := fun group =>
  if group ∈ abilities.map Ability.group then some fun _ => [] else none

/-- `m[group][model] = append(m[group][model], id)`. An assignment into a nil map panics. -/
def appendChannel (id : Int) (group : String) (m : GroupModelChannels) (model : String) :
    Option GroupModelChannels :=
  match m group with
  | none => none
  | some model2channels =>
    some (Function.update m group
      (some (Function.update model2channels model (model2channels model ++ [id]))))

def appendModels (channel : Channel) (m : GroupModelChannels) (group : String) :
    Option GroupModelChannels :=
  channel.modelList.foldlM (appendChannel channel.id group) m

def addChannel (m : GroupModelChannels) (channel : Channel) : Option GroupModelChannels :=
  if channel.status ≠ .enabled then some m
  else channel.groupList.foldlM (appendModels channel) m

def sortLists (sort : DescSort Int) (channels : List Channel) (m : GroupModelChannels) :
    GroupModelChannels := fun group =>
  (m group).map fun model2channels model => sort.run (priorityOf channels) (model2channels model)

def initChannelCache (sort : DescSort Int) (db : ChannelTables) : Option ChannelCache :=
  (db.channels.foldlM addChannel (makeGroups db.abilities)).map fun m =>
    { group2model2channels := sortLists sort db.channels m
      channelsIDM := db.channels }

def setStatus (id : Int) (status : ChannelStatus) (channels : List Channel) : List Channel :=
  Table.updateWhere (·.id = id) (fun channel => { channel with status }) channels

/-- A channel that is not enabled is taken out of every list, where the loop stops at its first
occurrence. -/
def cacheUpdateChannelStatus (cache : ChannelCache) (id : Int) (status : ChannelStatus) :
    ChannelCache where
  channelsIDM := setStatus id status cache.channelsIDM
  group2model2channels :=
    if status = .enabled then cache.group2model2channels
    else fun group => (cache.group2model2channels group).map fun model2channels model =>
      (model2channels model).erase id

def ChannelCache.list (cache : ChannelCache) (group model : String) : List Int :=
  cache.group2model2channels.list group model

/-! ## What the loop adds -/

def HasGroups (groups : List String) (m : GroupModelChannels) : Prop :=
  ∀ group, (m group).isSome ↔ group ∈ groups

theorem hasGroups_makeGroups (abil : List Ability) :
    HasGroups (abil.map Ability.group) (makeGroups abil) := by
  intro grp
  unfold makeGroups
  split <;> simp_all

theorem flatMap_ite_replicate {α : Type} [DecidableEq α] (va : List α) (valu : α) (id : Int) :
    (va.flatMap fun other => if valu = other then replicate n id else []) =
      replicate (va.count valu * n) id := by
  induction va with
  | nil => simp
  | cons head rs ih =>
    rw [flatMap_cons, ih]
    by_cases heq : valu = head
    · subst heq
      rw [if_pos rfl, count_cons_self, ← replicate_add, Nat.succ_mul, Nat.add_comm]
    · rw [if_neg heq, count_cons_of_ne (Ne.symm heq), nil_append]

theorem appendChannel_eq_some {id : Int} {grp mdl : String} {m : GroupModelChannels}
    (h : appendChannel id grp m mdl = some nxt) (hm : HasGroups grps m) : HasGroups grps nxt := by
  unfold appendChannel at h
  cases hg : m grp with
  | none => simp [hg] at h
  | some mode =>
    simp only [hg, Option.some.injEq] at h
    subst h
    intro other
    by_cases hot : other = grp
    · subst hot
      rw [Function.update_self, ← hm, hg]
      exact Iff.rfl
    · rw [Function.update_of_ne hot, ← hm]

open GroupModelChannels

theorem appendChannel_appends (id : Int) {grp : String} (hg : grp ∈ grps) {m : GroupModelChannels}
    (hm : HasGroups grps m) (mdl : String) :
    ∃ next, appendChannel id grp m mdl = some next ∧ HasGroups grps next ∧
      ∀ key : String × String, next.list key.1 key.2 = m.list key.1 key.2 ++
        if key.2 = mdl then replicate (if key.1 = grp then 1 else 0) id else [] := by
  obtain ⟨mode, hma⟩ := isSome_iff_exists.mp ((hm grp).mpr hg)
  have hap : appendChannel id grp m mdl = some (Function.update m grp
      (some (Function.update mode mdl (mode mdl ++ [id])))) := by
    rw [appendChannel, hma]
  refine ⟨_, hap, appendChannel_eq_some hap hm, ?_⟩
  rintro ⟨other, nm⟩
  by_cases hot : other = grp
  · subst hot
    by_cases hna : nm = mdl
    · subst hna
      simp [list, hma]
    · simp [list, hma, hna]
  · simp [list, hot]

theorem appendModels_eq_some {ch : Channel} {grp : String} {m : GroupModelChannels}
    (h : appendModels ch m grp = some nxt) (hm : HasGroups grps m) : HasGroups grps nxt :=
  Loop.foldlM_preserves (fun _ _ _ hm h => appendChannel_eq_some h hm) hm h

theorem appendModels_appends {grp : String} (hg : grp ∈ grps)
    {m : GroupModelChannels} (hm : HasGroups grps m) :
    ∃ next, appendModels ch m grp = some next ∧ HasGroups grps next ∧
      ∀ key : String × String, next.list key.1 key.2 = m.list key.1 key.2 ++
        if key.1 = grp then replicate (ch.modelList.count key.2) ch.id
        else [] := by
  obtain ⟨next, hx, hk, had⟩ := Loop.foldlM_appends
    (fun mdl (_ : mdl ∈ ch.modelList) m hm => appendChannel_appends ch.id hg hm mdl) hm
  refine ⟨next, hx, hk, ?_⟩
  intro key
  rw [had, flatMap_ite_replicate]
  split <;> simp

theorem appendModels_eq_none (hg : grp ∉ grps) (hm : HasGroups grps m) :
    appendModels ch m grp = none := by
  obtain ⟨mdl, hmd⟩ := exists_mem_of_ne_nil _ (split_ne_nil ',' ch.models)
  refine Loop.foldlM_eq_none hmd (fun _ _ _ hm h => appendChannel_eq_some h hm) ?_ hm
  intro m hm
  have hma : m grp = none := by
    rw [← not_isSome_iff_eq_none, hm]
    exact hg
  rw [appendChannel, hma]

def Channel.added (channel : Channel) (key : String × String) : List Int :=
  if channel.status = .enabled then
    List.replicate (channel.groupList.count key.1 * channel.modelList.count key.2) channel.id
  else []

def GroupsKnown (groups : List String) (channels : List Channel) : Prop :=
  ∀ channel ∈ channels, channel.status = .enabled → ∀ group ∈ channel.groupList, group ∈ groups

theorem addChannel_eq_some (h : addChannel m ch = some nxt) (hm : HasGroups grps m) :
    HasGroups grps nxt := by
  unfold addChannel at h
  split at h
  · cases h; exact hm
  · exact Loop.foldlM_preserves (fun _ _ _ hm h => appendModels_eq_some h hm) hm h

theorem addChannel_appends {ch : Channel}
    (hgr : ch.status = .enabled → ∀ grp ∈ ch.groupList, grp ∈ grps) {m : GroupModelChannels}
    (hm : HasGroups grps m) :
    ∃ next, addChannel m ch = some next ∧ HasGroups grps next ∧
      ∀ key : String × String, next.list key.1 key.2 = m.list key.1 key.2 ++ ch.added key := by
  unfold addChannel Channel.added
  by_cases hen : ch.status = .enabled
  · obtain ⟨next, hx, hk, had⟩ := Loop.foldlM_appends
      (fun grp hg m hm => appendModels_appends (hgr hen grp hg) hm) hm
    refine ⟨next, by rw [if_neg (not_not.mpr hen), hx], hk, ?_⟩
    intro key
    rw [had, flatMap_ite_replicate, if_pos hen]
  · exact ⟨m, by rw [if_pos hen], hm, by simp [hen]⟩

theorem addChannel_eq_none (hen : ch.status = .enabled) (hme : grp ∈ ch.groupList) (hg : grp ∉ grps)
    (hm : HasGroups grps m) : addChannel m ch = none := by
  rw [addChannel, if_neg (not_not.mpr hen)]
  refine Loop.foldlM_eq_none hme (fun _ _ _ hm h => appendModels_eq_some h hm) ?_ hm
  intro m hm
  exact appendModels_eq_none hg hm

theorem initChannelCache_isSome_iff (db : ChannelTables) :
    (initChannelCache sort db).isSome ↔
      GroupsKnown (db.abilities.map Ability.group) db.channels := by
  have hs0 := hasGroups_makeGroups db.abilities
  rw [initChannelCache, isSome_map]
  constructor
  · intro hso ch hch hen grp hme
    by_contra hgroup
    have hn : db.channels.foldlM addChannel (makeGroups db.abilities) = none := by
      refine Loop.foldlM_eq_none hch (fun _ _ _ hm h => addChannel_eq_some h hm) ?_ hs0
      intro m hm
      exact addChannel_eq_none hen hme hgroup hm
    rw [hn] at hso
    cases hso
  intro hkn
  obtain ⟨m, hm, -⟩ := Loop.foldlM_appends
    (fun ch hch m hm => addChannel_appends (hkn ch hch) hm) hs0
  rw [hm]
  rfl

/-! ## The lists of a fresh cache -/

def mentions (channels : List Channel) (group model : String) (id : Int) : Nat :=
  match Table.get? Channel.id channels id with
  | none => 0
  | some channel =>
    if channel.status = .enabled then
      channel.groupList.count group * channel.modelList.count model
    else 0

theorem count_flatMap_added (hid : (chs.map Channel.id).Nodup) (id : Int) :
    (chs.flatMap (·.added (grp, mdl))).count id = mentions chs grp mdl id := by
  induction chs with
  | nil => rfl
  | cons ch rs ih =>
    simp only [map_cons, nodup_cons] at hid
    rw [flatMap_cons, count_append, ih hid.2]
    by_cases heq : ch.id = id
    · have hr : get? Channel.id rs id = none := by
        rw [get?_eq_none_iff, ← heq]
        exact hid.1
      have hse : get? Channel.id (ch :: rs) id = some ch := by
        simp [get?, heq]
      simp only [mentions, hr, hse, Channel.added]
      split <;> simp [heq]
    have hot :
        get? Channel.id (ch :: rs) id = get? Channel.id rs id := by
      simp [get?, heq]
    have hn : (ch.added (grp, mdl)).count id = 0 := by
      unfold Channel.added
      split <;> simp [count_replicate, heq]
    simp only [mentions, hot, hn, Nat.zero_add]

@[simp]
theorem list_makeGroups : (makeGroups abil).list grp mdl = [] := by
  unfold GroupModelChannels.list makeGroups
  split
  · rfl
  next mode hma =>
    split at hma <;> cases hma
    rfl

theorem list_sortLists :
    ((sortLists sort chs m).list grp mdl).Perm (m.list grp mdl) ∧
      ((sortLists sort chs m).list grp mdl).Pairwise fun first second =>
        priorityOf chs second ≤ priorityOf chs first := by
  unfold list sortLists
  cases m grp with
  | none => exact ⟨List.Perm.refl _, List.Pairwise.nil⟩
  | some mode => exact ⟨sort.perm _ _, sort.sorted _ _⟩

variable {db : ChannelTables}

theorem initChannelCache_eq_some {sort : DescSort Int} {cac : ChannelCache}
    (h : initChannelCache sort db = some cac) :
    cac.channelsIDM = db.channels ∧
      (∀ grp mdl id, (cac.list grp mdl).count id = mentions db.channels grp mdl id) ∧
      ∀ grp mdl, (cac.list grp mdl).Pairwise fun first second =>
        priorityOf db.channels second ≤ priorityOf db.channels first := by
  have hkn := (initChannelCache_isSome_iff db).mp (by rw [h]; rfl)
  obtain ⟨m, hm, -, had⟩ := Loop.foldlM_appends
    (fun ch hch m hm => addChannel_appends (hkn ch hch) hm)
    (hasGroups_makeGroups db.abilities)
  simp only [initChannelCache, hm, map_some, Option.some.injEq] at h
  subst h
  refine ⟨rfl, fun grp mdl id => ?_, fun grp mdl => (list_sortLists ..).2⟩
  have hli := had (grp, mdl)
  rw [list_makeGroups, nil_append] at hli
  show ((sortLists sort db.channels m).list grp mdl).count id = _
  rw [(list_sortLists ..).1.count_eq, hli, count_flatMap_added db.nodup_ids]

theorem mentions_pos_iff {chs : List Channel} (his : (chs.map Channel.id).Nodup) {grp mdl : String}
    {id : Int} : 0 < mentions chs grp mdl id ↔ ∃ ch ∈ chs, ch.id = id ∧ ch.Serves grp mdl := by
  unfold mentions
  cases hg : get? Channel.id chs id with
  | none =>
    have hn := get?_eq_none_iff.mp hg
    simp only [Nat.lt_irrefl, false_iff]
    rintro ⟨ch, hm, hid, -⟩
    exact hn (hid ▸ mem_map_of_mem hm)
  | some ch =>
    constructor
    · intro hp
      refine ⟨ch, get?_mem hg, get?_key hg, ?_⟩
      by_cases hen : ch.status = .enabled
      · refine ⟨hen, count_pos_iff.mp (Nat.pos_of_ne_zero ?_),
          count_pos_iff.mp (Nat.pos_of_ne_zero ?_)⟩ <;>
        · intro hz
          simp [hz] at hp
      · simp [hen] at hp
    rintro ⟨other, hm, hid, hen, hgr, hmd⟩
    have hs : some ch = some other := by
      rw [← hg, ← hid, get?_of_mem his hm]
    cases hs
    simp only [hen, if_true]
    exact Nat.mul_pos (count_pos_iff.mpr hgr) (count_pos_iff.mpr hmd)

/-! ## Changing the status of a channel -/

theorem map_id_setStatus (id : Int) :
    (setStatus id status chs).map Channel.id = chs.map Channel.id := by
  refine map_key_updateWhere ?_
  intro ch _
  rfl

theorem get?_setStatus (id : Int) :
    get? Channel.id (setStatus id status chs) other =
      (get? Channel.id chs other).map fun ch =>
        if ch.id = id then { ch with status } else ch := by
  rw [setStatus, get?_updateWhere]
  · simp only [decide_eq_true_eq]
  · intro ch _
    rfl

def ChannelTables.setStatus (db : ChannelTables) (id : Int) (status : ChannelStatus) :
    ChannelTables where
  channels := Channels.setStatus id status db.channels
  abilities := db.abilities
  nodup_ids := by
    rw [map_id_setStatus]
    exact db.nodup_ids

variable {status : ChannelStatus}

theorem list_cacheUpdateChannelStatus (hst : status ≠ .enabled) (id : Int) :
    (cacheUpdateChannelStatus cac id status).list grp mdl = (cac.list grp mdl).erase id := by
  simp only [ChannelCache.list, list, cacheUpdateChannelStatus, hst, if_false]
  cases cac.group2model2channels grp <;> rfl

theorem mentions_setStatus (hst : status ≠ .enabled) (id : Int) (mdl : String) :
    mentions (db.setStatus id status).channels grp mdl other =
      if other = id then 0 else mentions db.channels grp mdl other := by
  unfold mentions ChannelTables.setStatus
  rw [get?_setStatus]
  cases hg : get? Channel.id db.channels other with
  | none => simp
  | some ch =>
    have hid := get?_key hg
    by_cases heq : other = id
    · simp [hid, heq, hst]
    · simp [hid, heq]

theorem GroupsKnown.setStatus (h : GroupsKnown grps db.channels) (hst : status ≠ .enabled)
    (id : Int) : GroupsKnown grps (db.setStatus id status).channels := by
  intro ch hm hen
  obtain ⟨old, ho, rfl⟩ := mem_updateWhere.mp hm
  split at hen
  · exact absurd hen hst
  next hne =>
    rw [if_neg hne]
    exact h old ho hen

/-! ## When the cache is right -/

structure ListsEnabledOnce (channels : List Channel) (cache : ChannelCache) : Prop where
  once : ∀ group model id, (cache.list group model).count id =
    if ∃ channel ∈ channels, channel.id = id ∧ channel.Serves group model then 1 else 0
  sorted : ∀ group model, (cache.list group model).Pairwise fun first second =>
    priorityOf channels second ≤ priorityOf channels first

/-- Taking a channel out of the cache when it is disabled is as good as building the cache anew,
up to the order of channels with the same priority. -/
def UpdateAgreesWithRebuild (db : ChannelTables) (cache : ChannelCache) : Prop :=
  ∀ id status, status ≠ .enabled → ∀ sort : DescSort Int, ∃ rebuilt,
    initChannelCache sort (db.setStatus id status) = some rebuilt ∧
      (cacheUpdateChannelStatus cache id status).channelsIDM = rebuilt.channelsIDM ∧
      ∀ group model,
        let updated := (cacheUpdateChannelStatus cache id status).list group model
        id ∉ updated ∧ updated.Perm (rebuilt.list group model) ∧
          updated.Pairwise fun first second =>
            priorityOf db.channels second ≤ priorityOf db.channels first

def CleanColumns (db : ChannelTables) : Prop :=
  ∀ channel ∈ db.channels, channel.status = .enabled →
    channel.groupList.Nodup ∧ channel.modelList.Nodup ∧
      ∀ group ∈ channel.groupList, ∃ ability ∈ db.abilities, ability.group = group

theorem CleanColumns.groupsKnown (h : CleanColumns db) :
    GroupsKnown (db.abilities.map Ability.group) db.channels := by
  intro ch hm hen grp hg
  exact mem_map.mpr ((h ch hm hen).2.2 grp hg)

theorem CleanColumns.mentions_le_one (h : CleanColumns db) (grp mdl : String) (id : Int) :
    mentions db.channels grp mdl id ≤ 1 := by
  unfold mentions
  cases hg : get? Channel.id db.channels id with
  | none => exact Nat.zero_le 1
  | some ch =>
    dsimp only
    split
    next hen =>
      obtain ⟨hgr, hmo, -⟩ := h ch (get?_mem hg) hen
      exact Nat.mul_le_mul (nodup_iff_count_le_one.mp hgr grp) (nodup_iff_count_le_one.mp hmo mdl)
    · exact Nat.zero_le 1

theorem nodup_of_mentions_le_one (h : ∀ grp mdl id, mentions db.channels grp mdl id ≤ 1)
    (hm : ch ∈ db.channels) (hen : ch.status = .enabled) :
    ch.groupList.Nodup ∧ ch.modelList.Nodup := by
  have hcn : ∀ grp mdl,
      ch.groupList.count grp * ch.modelList.count mdl ≤ 1 := by
    intro grp mdl
    have hme := h grp mdl ch.id
    simpa only [mentions, get?_of_mem db.nodup_ids hm, hen, if_true] using hme
  obtain ⟨sg, hg⟩ := exists_mem_of_ne_nil _ (split_ne_nil ',' ch.group)
  obtain ⟨sm, hmd⟩ := exists_mem_of_ne_nil _ (split_ne_nil ',' ch.models)
  constructor
  · refine nodup_iff_count_le_one.mpr fun grp => ?_
    calc ch.groupList.count grp
        ≤ ch.groupList.count grp * ch.modelList.count sm :=
          Nat.le_mul_of_pos_right _ (count_pos_iff.mpr hmd)
      _ ≤ 1 := hcn grp sm
  refine nodup_iff_count_le_one.mpr fun mdl => ?_
  calc ch.modelList.count mdl
      ≤ ch.groupList.count sg * ch.modelList.count mdl :=
        Nat.le_mul_of_pos_left _ (count_pos_iff.mpr hg)
    _ ≤ 1 := hcn sg mdl

theorem CleanColumns.updateAgreesWithRebuild (h : CleanColumns db)
    (hca : initChannelCache sort db = some cac) : UpdateAgreesWithRebuild db cac := by
  intro id status hst sort
  obtain ⟨hch, hcn, hso⟩ := initChannelCache_eq_some hca
  obtain ⟨reb, hre⟩ := isSome_iff_exists.mp
    ((initChannelCache_isSome_iff (db.setStatus id status)).mpr
      (h.groupsKnown.setStatus hst id))
  obtain ⟨hch', hcn', -⟩ := initChannelCache_eq_some hre
  refine ⟨reb, hre, ?_, fun grp mdl => ?_⟩
  · show setStatus id status cac.channelsIDM = reb.channelsIDM
    rw [hch, hch']
    rfl
  rw [list_cacheUpdateChannelStatus hst]
  refine ⟨?_, ?_, (hso grp mdl).sublist erase_sublist⟩
  · -- the id is listed at most once, and that occurrence is erased
    rw [← count_eq_zero, count_erase_self, hcn]
    have hle := h.mentions_le_one grp mdl id
    omega
  rw [perm_iff_count]
  intro other
  rw [hcn', mentions_setStatus hst, count_erase, hcn]
  have hle := h.mentions_le_one grp mdl id
  by_cases heq : other = id
  · subst heq
    simp only [beq_self_eq_true, if_true]
    omega
  · simp [heq, Ne.symm heq]

/-- Building the cache does not panic and gives the right lists, and disabling a channel agrees
with building the cache anew, exactly for tables with clean columns. -/
theorem channel_cache_correct_iff (sort : DescSort Int) (db : ChannelTables) :
    (∃ cache, initChannelCache sort db = some cache ∧ ListsEnabledOnce db.channels cache ∧
      UpdateAgreesWithRebuild db cache) ↔ CleanColumns db := by
  constructor
  · rintro ⟨cache, hca, hli, -⟩
    obtain ⟨-, hco, -⟩ := initChannelCache_eq_some hca
    have hkn := (initChannelCache_isSome_iff db).mp (by rw [hca]; rfl)
    have hle : ∀ group model id, mentions db.channels group model id ≤ 1 := by
      intro group model id
      rw [← hco, hli.once]
      split <;> omega
    intro channel hm hen
    obtain ⟨hgr, hmo⟩ := nodup_of_mentions_le_one hle hm hen
    exact ⟨hgr, hmo, fun group hgo =>
      mem_map.mp (hkn channel hm hen group hgo)⟩
  · intro hcl
    obtain ⟨cache, hca⟩ := isSome_iff_exists.mp
      ((initChannelCache_isSome_iff db).mpr hcl.groupsKnown)
    obtain ⟨-, hco, hso⟩ := initChannelCache_eq_some hca
    refine ⟨cache, hca, ⟨fun group model id => ?_, hso⟩,
      hcl.updateAgreesWithRebuild hca⟩
    have hp := @mentions_pos_iff db.channels db.nodup_ids group model id
    have hle := hcl.mentions_le_one group model id
    rw [hco]
    split
    next hse => exact Nat.le_antisymm hle (hp.mpr hse)
    next hse =>
      have hz := mt hp.mp hse
      omega

/-- Two channels for `vip`, the second with the higher priority, and their abilities. -/
def vipTables : ChannelTables where
  channels :=
    [{ id := 1, models := "gpt-4o,o3", group := "default,vip" },
      { id := 2, models := "gpt-4o", group := "vip", priority := some 5 }]
  abilities :=
    [{ group := "default", model := "gpt-4o", channelId := 1, enabled := true, priority := 0,
       weight := 0 },
      { group := "vip", model := "gpt-4o", channelId := 2, enabled := true, priority := 5,
        weight := 0 }]
  nodup_ids := by decide

/-- The cache of the two channels is right. -/
theorem vipTables_cache_correct :
    (∃ cache, initChannelCache (DescSort.insertion Int) vipTables = some cache ∧
      ListsEnabledOnce vipTables.channels cache ∧ UpdateAgreesWithRebuild vipTables cache) ∧
    (initChannelCache (DescSort.insertion Int) vipTables).map (·.list "vip" "gpt-4o") =
      some [2, 1] := by
  refine ⟨(channel_cache_correct_iff (DescSort.insertion Int) vipTables).mpr ?_, ?_⟩
  · unfold CleanColumns
    decide +kernel
  · decide +kernel

def unknownGroupTables : ChannelTables where
  channels := [{ id := 1, models := "gpt-4o", group := "vip" }]
  abilities := []
  nodup_ids := by decide

def repeatedGroupTables : ChannelTables where
  channels := [{ id := 1, models := "gpt-4o", group := "vip,vip" }]
  abilities :=
    [{ group := "vip", model := "gpt-4o", channelId := 1, enabled := true, priority := 0,
       weight := 0 }]
  nodup_ids := by decide

/-- A group without abilities makes the build panic. A group named twice lists the channel twice,
and disabling the channel leaves one of the two entries. -/
theorem unknown_group_panics_and_repeated_group_stays :
    initChannelCache (DescSort.insertion Int) unknownGroupTables = none ∧
      (initChannelCache (DescSort.insertion Int) repeatedGroupTables).map (fun cache =>
        (cache.list "vip" "gpt-4o",
          (cacheUpdateChannelStatus cache 1 .manuallyDisabled).list "vip" "gpt-4o")) =
        some ([1, 1], [1]) := by
  refine ⟨?_, by decide +kernel⟩
  decide +kernel

end NewApi.Channels
