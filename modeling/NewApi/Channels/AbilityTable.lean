import NewApi.Channels.MultiKey
import NewApi.Channels.Selection
import NewApi.Lib.Transition

/-!
# The table of abilities

The database keeps a row for every channel, group and model with a copy of columns of the channel
(`model/ability.go`), which every operation on channels looks after in its own way. `AbilitiesRight`
is what the table is for; each operation keeps it exactly under a condition of its own.
-/

namespace NewApi.Channels

open Lib List Table

/-! ## The source -/

/-- The entries of the keys before a position. -/
def KeyMap.below {Value : Type} (map : KeyMap Value) (size : Nat) : KeyMap Value where
  entries := map.entries.filter (·.1 < size)
  nodupKeys := Multiset.nodup_keys.mp
    (Multiset.nodup_of_le (Multiset.map_le_map (Multiset.filter_le _ _))
      (Multiset.nodup_keys.mpr map.nodupKeys))

/-- The keys that `Update` counts: an array without elements is read as lines. -/
def countedKeys (decodeArray : String → Option (List String)) (column : String) : List String :=
  let lines := split '\n' (trimNewlines column)
  if column = "" then []
  else if startsWith (trimSpace column) "[" then
    match decodeArray (trimSpace column) with
    | some keys => if keys = [] then lines else keys
    | none => lines
  else lines

/-- `Channel.Update` of a channel with the key and the channel info of a request. -/
def KeyedChannel.update (decodeArray : String → Option (List String)) (row : KeyedChannel)
    (key : String) (info : ChannelInfo) : KeyedChannel :=
  let column := if key ≠ "" then key else row.key
  let size := (countedKeys decodeArray column).length
  { row with
    key := column
    channelInfo :=
      if info.isMultiKey then
        { info with
          multiKeySize := size
          multiKeyStatusList := KeyMap.below info.multiKeyStatusList size }
      else info }

/-- The channels with their keys, and the abilities; the id is the primary key of a channel. -/
structure KeyedTables where
  channels : List KeyedChannel
  abilities : List Ability
  nodup_ids : (channels.map (·.id)).Nodup

theorem KeyedTables.nodup_ids_updateWhere (tables : KeyedTables)
    (hid : ∀ ch, cnd ch = true → (f ch).id = ch.id) :
    ((Table.updateWhere cnd f tables.channels).map (·.id)).Nodup := by
  rw [map_key_updateWhere hid]
  exact tables.nodup_ids

def Ability.primaryKey (row : Ability) : String × String × Int :=
  (row.group, row.model, row.channelId)

/-- `AddAbilities`: rows whose key is taken are left alone. -/
def insertAbilities (channel : Channel) (abilities : List Ability) : List Ability :=
  Table.insertIgnore Ability.primaryKey abilities channel.addAbilities

/-- The rows of the channel are deleted and built again. -/
def updateAbilities (channel : Channel) (abilities : List Ability) : List Ability :=
  insertAbilities channel (abilities.filter (·.channelId ≠ channel.id))

/-- `UpdateAbilities` for one channel after the other. -/
def updateAllAbilities (channels : List KeyedChannel) (abilities : List Ability) :
    List Ability :=
  channels.foldl (fun abilities channel => updateAbilities channel.toChannel abilities) abilities

/-- The row of a new channel: where a field is zero, the default of the column is stored. -/
def KeyedChannel.created (channel : KeyedChannel) : KeyedChannel :=
  { channel with
    status := if channel.status = .unknown then .enabled else channel.status
    weight := some channel.getWeight
    group := if channel.group = "" then "default" else channel.group
    priority := some channel.getPriority }

/-- An id that is taken fails. -/
def batchInsertChannels (new : List KeyedChannel) (tables : KeyedTables) : Option KeyedTables :=
  let rows := new.map KeyedChannel.created
  if hids : ((tables.channels ++ rows).map (·.id)).Nodup then
    some
      { channels := tables.channels ++ rows
        abilities :=
          rows.foldl (fun abilities channel => insertAbilities channel.toChannel abilities)
            tables.abilities
        nodup_ids := hids }
  else none

structure TagEdit where
  newTag : Option String := none
  models : Option String := none
  group : Option String := none
  priority : Option Int := none
  weight : Option Nat := none

namespace TagEdit

variable (tag : String) (edit : TagEdit)

/-- `updateData.Tag`: a tag that does not change is not written. -/
def tagColumn : Option String :=
  edit.newTag.filter (· ≠ tag)

def updatedTag : String :=
  (edit.tagColumn tag).getD tag

/-- `updateData.Models`. -/
def modelsColumn : Option String :=
  edit.models.filter (· ≠ "")

/-- `updateData.Group`. -/
def groupColumn : Option String :=
  edit.group.filter (· ≠ "")

def shouldReCreateAbilities : Bool :=
  edit.modelsColumn.isSome || edit.groupColumn.isSome

/-- `Updates(updateData)` on the row of a channel. -/
def apply (channel : KeyedChannel) : KeyedChannel :=
  { channel with
    tag := (edit.tagColumn tag).or channel.tag
    models := edit.modelsColumn.getD channel.models
    group := edit.groupColumn.getD channel.group
    priority := edit.priority.or channel.priority
    weight := edit.weight.or channel.weight }

/-- `Updates(ability)` on a row of the abilities. The weight is not a pointer there, so a zero is
not written. -/
def applyAbility (row : Ability) : Ability :=
  let weight := edit.weight.getD 0
  { row with
    tag := edit.newTag.or row.tag
    priority := edit.priority.getD row.priority
    weight := if weight ≠ 0 then weight else row.weight }

end TagEdit

def updateAbilityByTag (tag : String) (edit : TagEdit) (abilities : List Ability) :
    List Ability :=
  Table.updateWhere (·.tag = some tag) edit.applyAbility abilities

def editChannelByTag (tag : String) (edit : TagEdit) (tables : KeyedTables) : KeyedTables :=
  let channels := Table.updateWhere (·.tag = some tag) (edit.apply tag) tables.channels
  { channels := channels
    abilities :=
      if edit.shouldReCreateAbilities then
        updateAllAbilities (channels.filter (·.tag = some (edit.updatedTag tag))) tables.abilities
      else updateAbilityByTag tag edit tables.abilities
    nodup_ids := tables.nodup_ids_updateWhere fun _ _ => rfl }

def updateAbilityStatusByTag (tag : String) (enabled : Bool) (abilities : List Ability) :
    List Ability :=
  Table.updateWhere (·.tag = some tag) (fun row => { row with enabled }) abilities

def setStatusByTag (tag : String) (status : ChannelStatus) (enabled : Bool)
    (tables : KeyedTables) : KeyedTables where
  channels := Table.updateWhere (·.tag = some tag) (fun channel => { channel with status })
    tables.channels
  abilities := updateAbilityStatusByTag tag enabled tables.abilities
  nodup_ids := tables.nodup_ids_updateWhere fun _ _ => rfl

def enableChannelByTag (tag : String) : KeyedTables → KeyedTables :=
  setStatusByTag tag .enabled true

def disableChannelByTag (tag : String) : KeyedTables → KeyedTables :=
  setStatusByTag tag .manuallyDisabled false

def batchDeleteChannels (ids : List Int) (tables : KeyedTables) : KeyedTables where
  channels := tables.channels.filter (·.id ∉ ids)
  abilities := tables.abilities.filter (·.channelId ∉ ids)
  nodup_ids := tables.nodup_ids.sublist (filter_sublist.map _)

/-- `Channel.Delete`; a deletion without an id has no condition and is refused. -/
def deleteChannel (id : Int) (tables : KeyedTables) : Option KeyedTables :=
  if id = 0 then none else some (batchDeleteChannels [id] tables)

/-- The channels that `DeleteDisabledChannel` selects. -/
def Channel.Disabled (channel : Channel) : Prop :=
  channel.status = .autoDisabled ∨ channel.status = .manuallyDisabled
  deriving Decidable

def deleteDisabledChannel (tables : KeyedTables) : KeyedTables where
  channels := tables.channels.filter (¬ ·.Disabled)
  abilities := tables.abilities
  nodup_ids := tables.nodup_ids.sublist (filter_sublist.map _)

inductive ChannelOperation where
  | insert (new : List KeyedChannel)
  | update (patch : KeyedChannel)
  | editByTag (tag : String) (edit : TagEdit)
  | enableByTag (tag : String)
  | disableByTag (tag : String)
  | updateStatus (channelId : Int) (usingKey : String) (status : ChannelStatus)
      (reason : String) (now : Int)
  | delete (id : Int)
  | batchDelete (ids : List Int)
  | deleteDisabled

section

variable (decodeArray : String → Option (List String))

/-- `Updates(channel)` on the row of a channel: fields that are zero are not written. -/
def KeyedChannel.merge (row patch : KeyedChannel) : KeyedChannel :=
  { row.update decodeArray patch.key patch.channelInfo with
    status := if patch.status = .unknown then row.status else patch.status
    weight := patch.weight.or row.weight
    models := if patch.models = "" then row.models else patch.models
    group := if patch.group = "" then row.group else patch.group
    priority := patch.priority.or row.priority
    tag := patch.tag.or row.tag
    otherInfo := patch.otherInfo.or row.otherInfo }

def KeyedTables.replace (tables : KeyedTables) (saved : KeyedChannel)
    (abilities : List Ability) : KeyedTables where
  channels := Table.updateWhere (fun row => row.id = saved.id) (fun _ => saved) tables.channels
  abilities := abilities
  nodup_ids := tables.nodup_ids_updateWhere fun _ hrow => (of_decide_eq_true hrow).symm

def KeyedTables.get? (tables : KeyedTables) (id : Int) : Option KeyedChannel :=
  Table.get? (fun row : KeyedChannel => row.id) tables.channels id

theorem KeyedTables.get?_mem {tables : KeyedTables} {id : Int} {row : KeyedChannel}
    (h : tables.get? id = some row) : row ∈ tables.channels :=
  Table.get?_mem h

theorem KeyedTables.get?_id {tables : KeyedTables} {id : Int} {row : KeyedChannel}
    (h : tables.get? id = some row) : row.id = id := by
  simpa using List.find?_some h

/-- `Channel.Update`; the request for a channel that does not exist is refused. -/
def updateChannel (patch : KeyedChannel) (tables : KeyedTables) : Option KeyedTables :=
  (tables.get? patch.id).map fun row =>
    let saved := row.merge decodeArray patch
    tables.replace saved (updateAbilities saved.toChannel tables.abilities)

/-- `UpdateChannelStatus` on the database; none of its statements fails. -/
def updateTablesStatus (channelId : Int) (update : StatusUpdate) (tables : KeyedTables) :
    Option KeyedTables :=
  let copies : ChannelCopies :=
    { cached := none, stored := tables.get? channelId, abilities := tables.abilities }
  match updateStoredStatus decodeArray channelId update copies with
  | (false, _) => none
  | (true, after) => after.stored.map fun saved => tables.replace saved after.abilities

/-- One operation; `none` if it does not succeed. -/
def applyChannelOperation (tables : KeyedTables) : ChannelOperation → Option KeyedTables
  | .insert new => batchInsertChannels new tables
  | .update patch => updateChannel decodeArray patch tables
  | .editByTag tag edit => some (editChannelByTag tag edit tables)
  | .enableByTag tag => some (enableChannelByTag tag tables)
  | .disableByTag tag => some (disableChannelByTag tag tables)
  | .updateStatus channelId usingKey status reason now =>
    updateTablesStatus decodeArray channelId { usingKey, status, reason, now } tables
  | .delete id => deleteChannel id tables
  | .batchDelete ids => some (batchDeleteChannels ids tables)
  | .deleteDisabled => some (deleteDisabledChannel tables)

def channelTableSystem : System KeyedTables ChannelOperation where
  step := applyChannelOperation decodeArray

end

/-! ## What the table is for -/

def RowsRight (abilities : List Ability) (channel : Channel) : Prop :=
  ∀ group ∈ channel.groupList, ∀ model ∈ channel.modelList,
    Table.select Ability.primaryKey abilities (group, model, channel.id) =
      [channel.ability group model]

structure AbilitiesRight (tables : KeyedTables) : Prop where
  rows : ∀ channel ∈ tables.channels, RowsRight tables.abilities channel.toChannel
  owned : ∀ row ∈ tables.abilities, row.channelId ∈ tables.channels.map (·.id)

def Channel.pairs (channel : Channel) : List (String × String) :=
  channel.modelList.flatMap fun model => channel.groupList.map fun group => (group, model)

/-- Different pairs of the channel have different keys, so the loop takes none for another. -/
def Channel.KeysDistinct (channel : Channel) : Prop :=
  ∀ first ∈ channel.pairs, ∀ second ∈ channel.pairs,
    abilityKey first = abilityKey second → first = second
  deriving Decidable

theorem Channel.mem_pairs {ch : Channel} {grp mdl : String} :
    (grp, mdl) ∈ ch.pairs ↔ grp ∈ ch.groupList ∧ mdl ∈ ch.modelList := by
  simp [Channel.pairs, and_comm]

theorem Channel.exists_listed (ch : Channel) : ∃ grp ∈ ch.groupList, ∃ mdl, mdl ∈ ch.modelList := by
  obtain ⟨grp, grps, hgr⟩ := exists_cons_of_ne_nil (split_ne_nil ',' ch.group)
  obtain ⟨mdl, mo, hmo⟩ := exists_cons_of_ne_nil (split_ne_nil ',' ch.models)
  refine ⟨grp, ?_, mdl, ?_⟩
  · rw [Channel.groupList, hgr]
    exact mem_cons_self
  · rw [Channel.modelList, hmo]
    exact mem_cons_self

/-! ## Building the rows of a channel -/

section

variable {ch : Channel} {abilities : List Ability}

theorem channelId_of_primaryKey {row : Ability} {grp mdl : String} {id : Int}
    (h : row.primaryKey = (grp, mdl, id)) : row.channelId = id :=
  congrArg (fun key => key.2.2) h

theorem channelId_of_mem_addAbilities (h : row ∈ ch.addAbilities) : row.channelId = ch.id := by
  rw [(mem_addAbilities h).1]
  rfl

theorem nodup_abilityKey_abilitiesFor (ch : Channel) (pairs : List (String × String))
    (sn : List String) :
    ((ch.abilitiesFor pairs sn).map fun row => abilityKey (row.group, row.model)).Nodup ∧
      ∀ row ∈ ch.abilitiesFor pairs sn, abilityKey (row.group, row.model) ∉ sn := by
  induction pairs generalizing sn with
  | nil => exact ⟨nodup_nil, forall_mem_nil _⟩
  | cons pr rs ih =>
    rw [Channel.abilitiesFor]
    split
    next => exact ih sn
    next hfresh =>
      obtain ⟨hnodup, hnew⟩ := ih (abilityKey pr :: sn)
      constructor
      · rw [map_cons, nodup_cons]
        refine ⟨fun hmem => ?_, hnodup⟩
        obtain ⟨row, hrow, hkey⟩ := mem_map.mp hmem
        exact hnew row hrow (hkey ▸ mem_cons_self)
      intro row hrow
      rcases mem_cons.mp hrow with rfl | hrest
      · exact hfresh
      · exact fun hseen => hnew row hrest (mem_cons_of_mem _ hseen)

theorem nodup_primaryKey_addAbilities : (ch.addAbilities.map Ability.primaryKey).Nodup := by
  have hkeys := (nodup_abilityKey_abilitiesFor ch ch.pairs []).1
  refine List.Nodup.of_map (fun key => abilityKey (key.1, key.2.1)) ?_
  rw [map_map]
  exact hkeys

theorem insertAbilities_eq (hn : ∀ row ∈ abilities, row.channelId ≠ ch.id) :
    insertAbilities ch abilities = abilities ++ ch.addAbilities := by
  refine insertIgnore_eq_append nodup_primaryKey_addAbilities ?_
  intro row hr hm
  obtain ⟨old, ho, hk⟩ := mem_map.mp hm
  exact hn old ho ((channelId_of_primaryKey hk).trans (channelId_of_mem_addAbilities hr))

theorem updateAbilities_eq :
    updateAbilities ch abilities = abilities.filter (·.channelId ≠ ch.id) ++ ch.addAbilities :=
  insertAbilities_eq fun _ hr => of_decide_eq_true (mem_filter.mp hr).2

theorem mem_updateAbilities (hr : row ∈ updateAbilities ch abilities) :
    row.channelId = ch.id ∨ row ∈ abilities := by
  rw [updateAbilities_eq, mem_append] at hr
  rcases hr with ho | hn
  · exact .inr (mem_filter.mp ho).1
  · exact .inl (channelId_of_mem_addAbilities hn)

theorem select_updateAbilities_of_ne {id : Int} (hid : id ≠ ch.id) :
    Table.select Ability.primaryKey (updateAbilities ch abilities) (grp, mdl, id) =
      Table.select Ability.primaryKey abilities (grp, mdl, id) := by
  have hn : Table.select Ability.primaryKey ch.addAbilities (grp, mdl, id) = [] := by
    rw [select_eq_nil_iff]
    intro row hr hk
    exact hid ((channelId_of_primaryKey hk).symm.trans (channelId_of_mem_addAbilities hr))
  have hke : ∀ row : Ability, row.primaryKey = (grp, mdl, id) →
      decide (row.channelId ≠ ch.id) = true := by
    intro row hk
    rw [channelId_of_primaryKey hk]
    exact decide_eq_true hid
  rw [updateAbilities_eq, select_append, select_filter hke, hn, append_nil]

theorem rowsRight_updateAbilities_iff :
    RowsRight (updateAbilities ch abilities) ch ↔ ch.KeysDistinct := by
  have hselect : ∀ group model,
      Table.select Ability.primaryKey (updateAbilities ch abilities)
          (group, model, ch.id) =
        Table.select Ability.primaryKey ch.addAbilities (group, model, ch.id) := by
    intro group model
    rw [updateAbilities_eq, select_append, select_eq_nil_iff.mpr, nil_append]
    intro row hrow hkey
    exact of_decide_eq_true (mem_filter.mp hrow).2 (channelId_of_primaryKey hkey)
  constructor
  · intro hright first hfirst second hsecond hkey
    have hrow : ∀ pr ∈ ch.pairs,
        ch.ability pr.1 pr.2 ∈ ch.addAbilities := by
      intro pr hpair
      obtain ⟨hgroup, hmodel⟩ := Channel.mem_pairs.mp hpair
      have hone := hright pr.1 hgroup pr.2 hmodel
      rw [hselect] at hone
      exact mem_of_mem_filter (hone ▸ mem_cons_self)
    have hsame := inj_on_of_nodup_map
      (nodup_abilityKey_abilitiesFor ch ch.pairs []).1
      (hrow first hfirst) (hrow second hsecond) hkey
    exact Prod.ext (congrArg Ability.group hsame) (congrArg Ability.model hsame)
  · intro hkeys group hgroup model hmodel
    have hpair : (group, model) ∈ ch.pairs := Channel.mem_pairs.mpr ⟨hgroup, hmodel⟩
    have hrow : ch.ability group model ∈ ch.addAbilities := by
      have hmem : ch.ability group model ∈ ch.abilitiesFor (ch.pairs ++ []) [] :=
        ability_mem_abilitiesFor hkeys hpair not_mem_nil
      rwa [append_nil] at hmem
    rw [hselect]
    exact select_of_mem nodup_primaryKey_addAbilities hrow

theorem rowsRight_congr
    (hs : ∀ grp mdl, Table.select Ability.primaryKey abilities (grp, mdl, ch.id) =
      Table.select Ability.primaryKey other (grp, mdl, ch.id)) :
    RowsRight abilities ch ↔ RowsRight other ch := by
  unfold RowsRight
  simp only [hs]

theorem rowsRight_updateWhere_iff (hk : ∀ row, (f row).primaryKey = row.primaryKey)
    (hid : aft.id = ch.id) (hgr : aft.groupList = ch.groupList) (hmo : aft.modelList = ch.modelList)
    (hri : RowsRight abilities ch) :
    RowsRight (Table.updateWhere cnd f abilities) aft ↔
      ∀ grp ∈ ch.groupList, ∀ mdl ∈ ch.modelList,
        (if cnd (ch.ability grp mdl) then f (ch.ability grp mdl)
          else ch.ability grp mdl) = aft.ability grp mdl := by
  unfold RowsRight
  rw [hgr, hmo, hid]
  refine forall₂_congr fun grp hg => forall₂_congr fun mdl hmd => ?_
  rw [select_updateWhere hk, hri grp hg mdl hmd]
  simp [Table.updateWhere]

end

section

variable {abilities : List Ability}

theorem mem_updateAllAbilities (hr : row ∈ updateAllAbilities chs abilities) :
    row.channelId ∈ chs.map (·.id) ∨ row ∈ abilities := by
  induction chs generalizing abilities with
  | nil => exact .inr hr
  | cons head tail ih =>
    rcases ih hr with hta | hhe
    · exact .inl (mem_cons_of_mem _ hta)
    · rcases mem_updateAbilities hhe with how | ho
      · exact .inl (how ▸ mem_cons_self)
      · exact .inr ho

theorem select_updateAllAbilities_of_notMem {id : Int} (hid : id ∉ chs.map (·.id)) :
    Table.select Ability.primaryKey (updateAllAbilities chs abilities) (grp, mdl, id) =
      Table.select Ability.primaryKey abilities (grp, mdl, id) := by
  induction chs generalizing abilities with
  | nil => rfl
  | cons head tail ih =>
    rw [map_cons, mem_cons, not_or] at hid
    exact (ih hid.2).trans (select_updateAbilities_of_ne hid.1)

theorem rowsRight_updateAllAbilities_iff (hno : (chs.map (·.id)).Nodup) {ch : KeyedChannel}
    (hm : ch ∈ chs) :
    RowsRight (updateAllAbilities chs abilities) ch.toChannel ↔ ch.KeysDistinct := by
  induction chs generalizing abilities with
  | nil => cases hm
  | cons head tail ih =>
    rw [map_cons, nodup_cons] at hno
    rcases mem_cons.mp hm with rfl | hta
    · -- no later channel has its id
      rw [← @rowsRight_updateAbilities_iff ch.toChannel abilities]
      exact rowsRight_congr fun grp mdl => select_updateAllAbilities_of_notMem hno.1
    · exact ih hno.2 hta

theorem foldl_insertAbilities_eq (hno : (chs.map (·.id)).Nodup)
    (hfr : ∀ row ∈ abilities, row.channelId ∉ chs.map (·.id)) :
    chs.foldl (fun abilities ch => insertAbilities ch.toChannel abilities)
      abilities = updateAllAbilities chs abilities := by
  induction chs generalizing abilities with
  | nil => rfl
  | cons head tail ih =>
    rw [map_cons, nodup_cons] at hno
    have hhe : updateAbilities head.toChannel abilities =
        insertAbilities head.toChannel abilities := by
      rw [updateAbilities, filter_eq_self.mpr]
      intro row hr
      exact decide_eq_true fun heq => hfr row hr (heq ▸ mem_cons_self)
    have hta : ∀ row ∈ updateAbilities head.toChannel abilities,
        row.channelId ∉ tail.map (·.id) := by
      intro row hr hm
      rcases mem_updateAbilities hr with how | ho
      · exact hno.1 (how ▸ hm)
      · exact hfr row ho (mem_cons_of_mem _ hm)
    unfold updateAllAbilities
    rw [foldl_cons, foldl_cons, ← hhe]
    exact ih hno.2 hta

end

/-! ## The three ways to look after the rows -/

section

variable {tables tb next : KeyedTables}

theorem KeyedTables.eq_of_id (tables : KeyedTables) (hch : ch ∈ tables.channels)
    (hot : other ∈ tables.channels) (hid : ch.id = other.id) : ch = other :=
  inj_on_of_nodup_map tables.nodup_ids hch hot hid

theorem right_rebuild_iff {reb : List KeyedChannel} (hs : reb.Sublist next.channels)
    (hab : next.abilities = updateAllAbilities reb tb.abilities)
    (ho : ∀ ch ∈ next.channels, ch ∉ reb → ch ∈ tb.channels)
    (his : ∀ ch ∈ tb.channels, ch.id ∈ next.channels.map (·.id)) (hri : AbilitiesRight tb) :
    AbilitiesRight next ↔ ∀ ch ∈ reb, ch.KeysDistinct := by
  have hno : (reb.map (·.id)).Nodup := next.nodup_ids.sublist (hs.map _)
  constructor
  · intro hx ch hm
    have hro := hx.rows ch (hs.subset hm)
    rw [hab] at hro
    exact (rowsRight_updateAllAbilities_iff hno hm).mp hro
  intro hke
  constructor
  · intro ch hm
    rw [hab]
    by_cases hre : ch ∈ reb
    · exact (rowsRight_updateAllAbilities_iff hno hre).mpr (hke ch hre)
    have hid : ch.id ∉ reb.map (·.id) := by
      intro hid
      obtain ⟨other, hot, heq⟩ := mem_map.mp hid
      exact hre (next.eq_of_id (hs.subset hot) hm heq ▸ hot)
    refine (rowsRight_congr fun grp mdl => ?_).mpr (hri.rows ch (ho ch hm hre))
    exact select_updateAllAbilities_of_notMem hid
  · intro row hr
    rw [hab] at hr
    rcases mem_updateAllAbilities hr with hn | hr
    · exact (hs.map _).subset hn
    · obtain ⟨ch, hm, hid⟩ := mem_map.mp (hri.owned row hr)
      exact hid ▸ his ch hm

theorem right_inPlace_iff (hch : next.channels = Table.updateWhere sele edit tb.channels)
    (hab : next.abilities = Table.updateWhere cnd f tb.abilities)
    (hco : ∀ (ch : KeyedChannel) (grp mdl : String), cnd (ch.ability grp mdl) = sele ch)
    (hk : ∀ row, (f row).primaryKey = row.primaryKey) (hed : ∀ ch ∈ tb.channels, sele ch = true →
      (edit ch).id = ch.id ∧ (edit ch).groupList = ch.groupList ∧
        (edit ch).modelList = ch.modelList) (hri : AbilitiesRight tb) :
    AbilitiesRight next ↔ ∀ ch ∈ tb.channels, sele ch = true →
      ∀ grp ∈ ch.groupList, ∀ mdl ∈ ch.modelList,
        f (ch.ability grp mdl) = (edit ch).ability grp mdl := by
  have hot : ∀ ch ∈ tb.channels, sele ch = false →
      RowsRight next.abilities ch.toChannel := by
    intro ch hm hse
    rw [hab]
    refine (rowsRight_updateWhere_iff hk rfl rfl rfl (hri.rows ch hm)).mpr ?_
    intro grp _ mdl _
    rw [hco, hse]
    rfl
  have hro : ∀ ch ∈ tb.channels, sele ch = true →
      (RowsRight next.abilities (edit ch).toChannel ↔ ∀ grp ∈ ch.groupList,
        ∀ mdl ∈ ch.modelList, f (ch.ability grp mdl) = (edit ch).ability grp mdl) := by
    intro ch hm hse
    obtain ⟨hid, hgr, hmo⟩ := hed ch hm hse
    rw [hab, rowsRight_updateWhere_iff hk hid hgr hmo (hri.rows ch hm)]
    simp only [hco, hse, if_true]
  constructor
  · intro hx ch hm hse
    refine (hro ch hm hse).mp (hx.rows (edit ch) ?_)
    rw [hch]
    exact mem_updateWhere.mpr ⟨ch, hm, if_pos hse⟩
  intro ha
  constructor
  · intro aft haf
    rw [hch] at haf
    obtain ⟨ch, hm, heq⟩ := mem_updateWhere.mp haf
    cases hse : sele ch with
    | false =>
      rw [hse] at heq
      exact heq ▸ hot ch hm hse
    | true =>
      rw [if_pos hse] at heq
      exact heq ▸ (hro ch hm hse).mpr (ha ch hm hse)
  · intro row hr
    rw [hab] at hr
    obtain ⟨old, ho, hr⟩ := mem_updateWhere.mp hr
    have hs : row.channelId = old.channelId := by
      rw [← hr]
      split
      · exact congrArg (fun key => key.2.2) (hk old)
      · rfl
    obtain ⟨ch, hm, hid⟩ := mem_map.mp (hri.owned old ho)
    rw [hs, ← hid, hch]
    refine mem_map.mpr ⟨_, mem_updateWhere.mpr ⟨ch, hm, rfl⟩, ?_⟩
    split
    · exact (hed ch hm ‹_›).1
    · rfl

theorem AbilitiesRight.batchDeleteChannels (hri : AbilitiesRight tb) (ids : List Int) :
    AbilitiesRight (batchDeleteChannels ids tb) := by
  constructor
  · intro ch hm
    obtain ⟨hm, hk⟩ := mem_filter.mp hm
    refine (rowsRight_congr fun grp mdl => ?_).mpr (hri.rows ch hm)
    refine select_filter (fun row hke => ?_)
    rw [channelId_of_primaryKey hke]
    exact hk
  intro row hr
  obtain ⟨hr, hk⟩ := mem_filter.mp hr
  obtain ⟨ch, hm, hid⟩ := mem_map.mp (hri.owned row hr)
  refine mem_map.mpr ⟨ch, mem_filter.mpr ⟨hm, ?_⟩, hid⟩
  show decide (ch.id ∉ ids) = true
  rw [hid]
  exact hk

theorem AbilitiesRight.exists_row (hri : AbilitiesRight tb)
    (hm : ch ∈ tb.channels) : ∃ row ∈ tb.abilities, row.channelId = ch.id := by
  obtain ⟨grp, hg, mdl, hmd⟩ := ch.exists_listed
  have hon := hri.rows ch hm grp hg mdl hmd
  exact ⟨ch.ability grp mdl, mem_of_mem_filter (hon ▸ mem_cons_self), rfl⟩

/-! ## The operations -/

theorem right_batchInsertChannels_iff (h : batchInsertChannels new tb = some next)
    (hri : AbilitiesRight tb) : AbilitiesRight next ↔ ∀ ch ∈ new, ch.created.KeysDistinct := by
  unfold batchInsertChannels at h
  dsimp only at h
  split at h
  next hid =>
    cases h
    rw [map_append] at hid
    obtain ⟨-, hn, hdi⟩ := nodup_append.mp hid
    have hfr : ∀ row ∈ tb.abilities,
        row.channelId ∉ (new.map KeyedChannel.created).map (·.id) :=
      fun row hr hm => hdi _ (hri.owned row hr) _ hm rfl
    rw [right_rebuild_iff (sublist_append_right _ (new.map KeyedChannel.created))
      (foldl_insertAbilities_eq hn hfr) ?_ ?_ hri]
    · simp only [forall_mem_map]
    · intro ch hm ho
      exact (mem_append.mp hm).resolve_right ho
    · intro ch hm
      exact mem_map_of_mem (mem_append_left _ hm)
  next => cases h

theorem mem_replace (hm : ch ∈ (tb.replace sv abilities).channels) (hne : ch ≠ sv) :
    ch ∈ tb.channels := by
  obtain ⟨old, ho, heq⟩ := mem_updateWhere.mp hm
  split at heq
  · exact absurd heq.symm hne
  · exact heq ▸ ho

theorem map_id_replace : (tb.replace sv abilities).channels.map (·.id) = tb.channels.map (·.id) :=
  map_key_updateWhere (fun _ hr => (of_decide_eq_true hr).symm)

theorem right_rebuildOne_iff (hr : row ∈ tb.channels)
    (hid : row.id = sv.id) (hri : AbilitiesRight tb) :
    AbilitiesRight (tb.replace sv (updateAbilities sv.toChannel tb.abilities)) ↔
      sv.KeysDistinct := by
  have hsv : sv ∈ (tb.replace sv
      (updateAbilities sv.toChannel tb.abilities)).channels :=
    mem_updateWhere.mpr ⟨row, hr, if_pos (decide_eq_true hid)⟩
  rw [right_rebuild_iff (singleton_sublist.mpr hsv) rfl ?_ ?_ hri]
  · exact forall_mem_singleton
  · intro ch hm hne
    exact mem_replace hm fun heq => hne (heq ▸ mem_cons_self)
  · intro ch hm
    rw [map_id_replace]
    exact mem_map_of_mem hm

theorem AbilitiesRight.setStatusByTag (hri : AbilitiesRight tb)
    (hen : decide (status = .enabled) = enab) :
      AbilitiesRight (setStatusByTag tag status enab tb) := by
  refine (right_inPlace_iff rfl rfl ?_ ?_ ?_ hri).mpr ?_
  · intro ch grp mdl
    rfl
  · intro row
    rfl
  · intro ch _ _
    exact ⟨rfl, rfl, rfl⟩
  intro ch _ _ grp _ mdl _
  show (⟨grp, mdl, ch.id, enab, ch.getPriority, ch.getWeight,
    ch.tag⟩ : Ability) = ⟨grp, mdl, ch.id, decide (status = .enabled),
      ch.getPriority, ch.getWeight, ch.tag⟩
  rw [hen]

theorem applyAbility_eq_iff {tag : String} {edit : TagEdit} {ch : KeyedChannel}
    (htg : ch.tag = some tag) :
    edit.applyAbility (ch.ability grp mdl) = (edit.apply tag ch).ability grp mdl ↔
      (edit.weight = some 0 → ch.getWeight = 0) := by
  have hta : edit.newTag.or ch.tag = (edit.tagColumn tag).or ch.tag := by
    rw [htg, TagEdit.tagColumn]
    cases edit.newTag with
    | none => rfl
    | some new =>
      by_cases hn : new = tag
      · simp [Option.filter, hn]
      · simp [Option.filter, hn]
  have hpr : edit.priority.getD ch.getPriority =
      (edit.priority.or ch.priority).getD 0 := by
    cases edit.priority <;> rfl
  have hwt : (if edit.weight.getD 0 ≠ 0 then edit.weight.getD 0 else ch.getWeight) =
      (edit.weight.or ch.weight).getD 0 ↔ (edit.weight = some 0 → ch.getWeight = 0) := by
    cases hed : edit.weight with
    | none => simp [Channel.getWeight]
    | some wt =>
      by_cases hz : wt = 0
      · simp [hz]
      · simp [hz]
  rw [← hwt]
  constructor
  · exact fun hs => congrArg Ability.weight hs
  · intro hs
    rw [Ability.mk.injEq]
    exact ⟨rfl, rfl, rfl, rfl, hpr, hs, hta⟩

theorem right_editChannelByTag_iff {tag : String} {edit : TagEdit}
    (hed : edit.shouldReCreateAbilities = false) (hri : AbilitiesRight tb) :
    AbilitiesRight (editChannelByTag tag edit tb) ↔
      (edit.weight = some 0 → ∀ ch ∈ tb.channels, ch.tag = some tag → ch.getWeight = 0) := by
  obtain ⟨hmo, hg⟩ : edit.modelsColumn = none ∧ edit.groupColumn = none := by
    simpa [TagEdit.shouldReCreateAbilities] using hed
  have hab : (editChannelByTag tag edit tb).abilities =
      Table.updateWhere (·.tag = some tag) edit.applyAbility tb.abilities := by
    unfold editChannelByTag updateAbilityByTag
    simp [hed]
  rw [right_inPlace_iff rfl hab (fun _ _ _ => rfl) (fun _ => rfl) ?_ hri]
  · constructor
    · intro ha hz ch hm hta
      obtain ⟨grp, hg, mdl, hmd⟩ := ch.exists_listed
      have hr := ha ch hm (decide_eq_true hta) grp hg mdl hmd
      exact (applyAbility_eq_iff hta).mp hr hz
    · intro hz ch hm hta grp _ mdl _
      have hta := of_decide_eq_true hta
      exact (applyAbility_eq_iff hta).mpr fun h => hz h ch hm hta
  intro ch _ _
  refine ⟨rfl, ?_, ?_⟩
  · simp [Channel.groupList, TagEdit.apply, hg]
  · simp [Channel.modelList, TagEdit.apply, hmo]

theorem right_editChannelByTag_recreate_iff
    (hed : edit.shouldReCreateAbilities = true) (hri : AbilitiesRight tb) :
    AbilitiesRight (editChannelByTag tag edit tb) ↔
      ∀ ch ∈ (editChannelByTag tag edit tb).channels,
        ch.tag = some (edit.updatedTag tag) → ch.KeysDistinct := by
  have hab : (editChannelByTag tag edit tb).abilities =
      updateAllAbilities ((editChannelByTag tag edit tb).channels.filter
        (·.tag = some (edit.updatedTag tag))) tb.abilities := by
    show (if edit.shouldReCreateAbilities = true then _ else _) = _
    rw [if_pos hed]
    rfl
  rw [right_rebuild_iff filter_sublist hab ?_ ?_ hri]
  · simp only [mem_filter, decide_eq_true_eq, and_imp]
  · -- an edited channel has the new tag, so its rows are built again
    intro ch hm hot
    obtain ⟨old, ho, heq⟩ := mem_updateWhere.mp hm
    by_cases hta : old.tag = some tag
    · rw [if_pos (decide_eq_true hta)] at heq
      refine absurd (mem_filter.mpr ⟨hm, decide_eq_true ?_⟩) hot
      rw [← heq]
      show (edit.tagColumn tag).or old.tag = some ((edit.tagColumn tag).getD tag)
      rw [hta]
      cases edit.tagColumn tag <;> rfl
    · have hs : decide (old.tag = some tag) = false := decide_eq_false hta
      rw [hs] at heq
      exact heq ▸ ho
  · intro ch hm
    have hid : (editChannelByTag tag edit tb).channels.map (·.id) =
        tb.channels.map (·.id) :=
      map_key_updateWhere (by exact fun _ _ => rfl)
    rw [hid]
    exact mem_map_of_mem hm

theorem right_deleteDisabledChannel_iff (hri : AbilitiesRight tb) :
    AbilitiesRight (deleteDisabledChannel tb) ↔ ∀ ch ∈ tb.channels, ¬ch.Disabled := by
  constructor
  · intro hx ch hm hdi
    obtain ⟨row, hr, hid⟩ := hri.exists_row hm
    obtain ⟨other, hot, heq⟩ := mem_map.mp (hx.owned row hr)
    obtain ⟨hot, hk⟩ := mem_filter.mp hot
    have hs := tb.eq_of_id hot hm (heq.trans hid)
    rw [hs] at hk
    exact of_decide_eq_true hk hdi
  intro hn
  have ha : tb.channels.filter (¬ ·.Disabled) = tb.channels :=
    filter_eq_self.mpr fun ch hm => decide_eq_true (hn ch hm)
  constructor
  · intro ch hm
    exact hri.rows ch (mem_filter.mp hm).1
  intro row hr
  show row.channelId ∈ (tb.channels.filter (¬ ·.Disabled)).map (·.id)
  rw [ha]
  exact hri.owned row hr

end

/-! ## The status update -/

section

variable {decodeArray : String → Option (List String)} {tb next : KeyedTables}
  {update : StatusUpdate}

def Channel.withStatus (channel : Channel) (status : ChannelStatus) : Channel :=
  { channel with status }

theorem updateRow_toChannel :
    (updateRow decodeArray upd ch).toChannel =
      ch.withStatus (updateRow decodeArray upd ch).status := by
  unfold updateRow handlerMultiKeyUpdate
  dsimp only
  split
  · split
    · rfl
    · split <;> rfl
  · rfl

theorem updateRow_status :
    (updateRow decodeArray upd ch).status = upd.status ∨
      ch.channelInfo.isMultiKey = true ∧
        ((updateRow decodeArray upd ch).status = .autoDisabled ∨
          (updateRow decodeArray upd ch).status = ch.status) := by
  unfold updateRow handlerMultiKeyUpdate
  dsimp only
  split
  next hmu =>
    split
    · exact .inl rfl
    · split
      · exact .inr ⟨hmu, .inl rfl⟩
      · exact .inr ⟨hmu, .inr rfl⟩
  next => exact .inl rfl

def KeyedChannel.loaded (row : KeyedChannel) : KeyedChannel :=
  { row with keys := [] }

def KeyedChannel.saved (decodeArray : String → Option (List String)) (update : StatusUpdate)
    (row : KeyedChannel) : KeyedChannel :=
  { updateRow decodeArray update row.loaded with key := row.key, keys := [] }

def abilitiesAfter (decodeArray : String → Option (List String)) (update : StatusUpdate)
    (row : KeyedChannel) (abilities : List Ability) : List Ability :=
  if row.channelInfo.isMultiKey = true ∧
      row.status = (updateRow decodeArray update row.loaded).status then abilities
  else updateAbilityStatus row.id (update.status = .enabled) abilities

theorem saveWithoutKey_eq_some (h : saveWithoutKey upd ch state = some sv) :
    sv = { state with
      stored := state.stored.map fun row => { ch with key := row.key, keys := [] } } := by
  unfold saveWithoutKey at h
  split at h
  · cases h
  · split at h
    · cases h
    · exact (Option.some.inj h).symm

theorem deferAbilities_eq (hab : upd.abilitiesFail = false) :
    deferAbilities cid upd pre aft state =
      { state with
        abilities :=
          if pre.channelInfo.isMultiKey = true ∧ pre.status = aft.status then
            state.abilities
          else updateAbilityStatus cid (upd.status = .enabled) state.abilities } := by
  unfold deferAbilities
  rw [hab]
  split <;> rfl

theorem updateTablesStatus_eq_some {cid : Int}
    (hfl : upd.loadFails = false ∧ upd.saveFails = false ∧ upd.abilitiesFail = false)
    (h : updateTablesStatus decodeArray cid upd tb = some next) :
    ∃ row, tb.get? cid = some row ∧ row.status ≠ upd.status ∧
      next = tb.replace (row.saved decodeArray upd)
        (abilitiesAfter decodeArray upd row tb.abilities) := by
  obtain ⟨hlo, hsa, hab⟩ := hfl
  unfold updateTablesStatus updateStoredStatus at h
  dsimp only [getChannelById] at h
  rw [hlo] at h
  cases hr : tb.get? cid with
  | none => simp [hr] at h
  | some row =>
    have hid := KeyedTables.get?_id hr
    refine ⟨row, rfl, ?_⟩
    simp only [hr, Bool.false_eq_true, if_false, Option.map_some] at h
    by_cases hst : row.status = upd.status
    · simp [hst] at h
    refine ⟨hst, ?_⟩
    rw [if_neg hst] at h
    split at h
    next => cases h
    next aft haf =>
      split at haf
      next => exact absurd (Prod.mk.inj haf).1 Bool.false_ne_true
      next sv hsv =>
        obtain rfl := (Prod.mk.inj haf).2
        rw [deferAbilities_eq hab] at hsv
        cases saveWithoutKey_eq_some hsv
        rw [← hid] at h
        exact (Option.some.inj h).symm

theorem ability_enabled_eq_iff {ch : Channel} {ask status : ChannelStatus} :
    ({ ch.ability grp mdl with enabled := decide (ask = .enabled) } : Ability) =
        (ch.withStatus status).ability grp mdl ↔
      (ask = .enabled ↔ status = .enabled) := by
  constructor
  · exact fun hs => decide_eq_decide.mp (congrArg Ability.enabled hs)
  intro hif
  have hfl : decide (ask = .enabled) = decide (status = .enabled) := decide_eq_decide.mpr hif
  rw [hfl]
  rfl

theorem right_replaceStatus_iff (hr : row ∈ tb.channels)
    (hsv : sv.toChannel = row.withStatus status)
    (hk : ∀ row, (f row).primaryKey = row.primaryKey) (hri : AbilitiesRight tb) :
    AbilitiesRight (tb.replace sv
        (Table.updateWhere (·.channelId = row.id) f tb.abilities)) ↔
      ∀ grp ∈ row.groupList, ∀ mdl ∈ row.modelList,
        f (row.ability grp mdl) = (row.withStatus status).ability grp mdl := by
  have hid : sv.id = row.id := by
    rw [hsv]
    rfl
  have hun : ∀ ch ∈ tb.channels, decide (ch.id = sv.id) = true →
      ch = row := fun ch hm hs =>
    tb.eq_of_id hm hr ((of_decide_eq_true hs).trans hid)
  rw [right_inPlace_iff rfl rfl ?_ hk ?_ hri]
  · constructor
    · intro ha grp hg mdl hmd
      have hab := ha row hr (decide_eq_true hid.symm) grp hg mdl hmd
      rw [hsv] at hab
      exact hab
    intro ha ch hm hs grp hg mdl hmd
    obtain rfl := hun ch hm hs
    rw [hsv]
    exact ha grp hg mdl hmd
  · intro ch grp mdl
    rw [hid]
    rfl
  · intro ch hm hs
    obtain rfl := hun ch hm hs
    rw [hsv]
    exact ⟨rfl, rfl, rfl⟩

theorem right_updateStatus_iff {cid : Int} {row : KeyedChannel} (hr : tb.get? cid = some row)
    (hri : AbilitiesRight tb) :
    AbilitiesRight (tb.replace (row.saved decodeArray upd)
        (abilitiesAfter decodeArray upd row tb.abilities)) ↔
      (upd.status = .enabled →
        (updateRow decodeArray upd row.loaded).status = .autoDisabled →
          row.status = .autoDisabled) := by
  have hm := KeyedTables.get?_mem hr
  have hsv : (row.saved decodeArray upd).toChannel = _ := updateRow_toChannel
  unfold abilitiesAfter
  split
  next hke =>
    -- the rows stay as they are, and so does the status
    have hs : Table.updateWhere (fun abil => abil.channelId = row.id)
        (fun abil => abil) tb.abilities = tb.abilities := by
      simp [Table.updateWhere]
    have hro := right_replaceStatus_iff hm hsv (fun _ => rfl) hri
    rw [hs, ← hke.2] at hro
    refine iff_of_true (hro.mpr fun grp _ mdl _ => rfl) fun _ hau => ?_
    rw [hke.2]
    exact hau
  next hch =>
    unfold updateAbilityStatus
    rw [right_replaceStatus_iff hm hsv (by exact fun _ => rfl) hri]
    have hfl : (∀ grp ∈ row.groupList, ∀ mdl ∈ row.modelList,
        ({ row.ability grp mdl with enabled := decide (upd.status = .enabled) } : Ability) =
          (row.withStatus (updateRow decodeArray upd row.loaded).status).ability grp mdl) ↔
        (upd.status = .enabled ↔ (updateRow decodeArray upd row.loaded).status = .enabled) := by
      constructor
      · intro ha
        obtain ⟨grp, hg, mdl, hmd⟩ := row.exists_listed
        exact (ability_enabled_eq_iff).mp (ha grp hg mdl hmd)
      · exact fun hs grp _ mdl _ => (ability_enabled_eq_iff).mpr hs
    rw [hfl]
    rcases updateRow_status with has | ⟨hmu, hau | hk⟩
    · rw [has]
      refine iff_of_true Iff.rfl fun hen hau => ?_
      exact absurd (hen.symm.trans hau) (by decide)
    · -- a channel whose keys are all disabled, that was not auto-disabled before
      have hpr : row.status ≠ .autoDisabled := fun hpr => hch ⟨hmu, hpr.trans hau.symm⟩
      simp [hau, hpr]
    · exact absurd ⟨hmu, hk.symm⟩ hch

end

/-! ## Sequences of operations -/

section

variable (decodeArray : String → Option (List String))

def LeavesRight (tables : KeyedTables) (operation : ChannelOperation) : Prop :=
  ∀ next, applyChannelOperation decodeArray tables operation = some next → AbilitiesRight next

def ChannelOperation.Keeps (tables : KeyedTables) : ChannelOperation → Prop
  | .insert new => ∀ channel ∈ new, channel.created.KeysDistinct
  | .update patch =>
    ∀ row, tables.get? patch.id = some row → (row.merge decodeArray patch).KeysDistinct
  | .editByTag tag edit =>
    if edit.shouldReCreateAbilities then
      ∀ channel ∈ (editChannelByTag tag edit tables).channels,
        channel.tag = some (edit.updatedTag tag) → channel.KeysDistinct
    else
      edit.weight = some 0 → ∀ channel ∈ tables.channels, channel.tag = some tag →
        channel.getWeight = 0
  | .updateStatus channelId usingKey status reason now =>
    ∀ row, tables.get? channelId = some row → status = .enabled →
      (updateRow decodeArray { usingKey, status, reason, now } row.loaded).status =
        .autoDisabled → row.status = .autoDisabled
  | .deleteDisabled => ∀ channel ∈ tables.channels, ¬channel.Disabled
  | .enableByTag _ | .disableByTag _ | .delete _ | .batchDelete _ => True

def KeepsStep (tables : KeyedTables) (operation : ChannelOperation) : Prop :=
  (applyChannelOperation decodeArray tables operation).isSome →
    operation.Keeps decodeArray tables

variable {decodeArray} {tables tb : KeyedTables}

theorem leavesRight_of_some (h : applyChannelOperation decodeArray tb op = some nxt) :
    LeavesRight decodeArray tb op ↔ AbilitiesRight nxt := by
  unfold LeavesRight
  rw [h]
  exact ⟨fun ha => ha nxt rfl, fun hx other heq => Option.some.inj heq ▸ hx⟩

theorem right_iff_keeps (h : applyChannelOperation decodeArray tb op = some nxt)
    (hri : AbilitiesRight tb) : AbilitiesRight nxt ↔ op.Keeps decodeArray tb := by
  cases op with
  | insert new => exact right_batchInsertChannels_iff h hri
  | update pat =>
    obtain ⟨row, hr, rfl⟩ := Option.map_eq_some_iff.mp h
    rw [right_rebuildOne_iff (KeyedTables.get?_mem hr) (by exact rfl) hri]
    simp only [ChannelOperation.Keeps, hr, Option.some.injEq, forall_eq']
  | editByTag tag edit =>
    cases h
    cases hed : edit.shouldReCreateAbilities with
    | false =>
      rw [right_editChannelByTag_iff hed hri, ChannelOperation.Keeps, hed]
      rfl
    | true =>
      rw [right_editChannelByTag_recreate_iff hed hri, ChannelOperation.Keeps, if_pos hed]
  | enableByTag | disableByTag =>
    cases h
    exact iff_of_true (hri.setStatusByTag rfl) trivial
  | updateStatus cid uk status rsn now =>
    obtain ⟨row, hr, -, rfl⟩ := updateTablesStatus_eq_some ⟨rfl, rfl, rfl⟩ h
    rw [right_updateStatus_iff hr hri]
    simp only [ChannelOperation.Keeps, hr, Option.some.injEq, forall_eq']
  | delete id =>
    have hx : AbilitiesRight nxt := by
      change deleteChannel id tb = some nxt at h
      unfold deleteChannel at h
      split at h
      · cases h
      · cases h
        exact hri.batchDeleteChannels [id]
    exact iff_of_true hx trivial
  | batchDelete ids =>
    cases h
    exact iff_of_true (hri.batchDeleteChannels ids) trivial
  | deleteDisabled =>
    cases h
    exact right_deleteDisabledChannel_iff hri

theorem leavesRight_iff_keepsStep (hri : AbilitiesRight tb) :
    LeavesRight decodeArray tb op ↔ KeepsStep decodeArray tb op := by
  unfold KeepsStep
  cases hs : applyChannelOperation decodeArray tb op with
  | none =>
    refine iff_of_true (fun next hx => ?_) (fun hso => absurd hso Bool.false_ne_true)
    rw [hs] at hx
    cases hx
  | some next =>
    rw [leavesRight_of_some hs, right_iff_keeps hs hri]
    exact ⟨fun hke _ => hke, fun hke => hke rfl⟩

/-- Over every sequence of operations, the abilities are those of the channels after each one
exactly if every operation that succeeds meets its condition. -/
theorem abilities_right_iff (hright : AbilitiesRight tables) (operations : List ChannelOperation) :
    (channelTableSystem decodeArray).Guarded (LeavesRight decodeArray) tables operations ↔
      (channelTableSystem decodeArray).Guarded (KeepsStep decodeArray) tables operations := by
  refine System.guarded_iff _ AbilitiesRight ?_ ?_ hright
  · intro tables operation hright
    exact leavesRight_iff_keepsStep hright
  · intro tables operation next _ hle hs
    exact hle next hs

end

def emptyTables : KeyedTables where
  channels := []
  abilities := []
  nodup_ids := nodup_nil

theorem abilitiesRight_emptyTables : AbilitiesRight emptyTables :=
  ⟨forall_mem_nil _, forall_mem_nil _⟩

def noArray : String → Option (List String) := fun _ => none

/-- A channel with the tag `t` and the weight 5. -/
def taggedChannel (status : ChannelStatus) (group models : String) : KeyedChannel where
  id := 1
  status := status
  weight := some 5
  models := models
  group := group
  tag := some "t"
  key := "k"
  channelInfo :=
    { isMultiKey := true
      multiKeySize := 2
      multiKeyStatusList := ∅
      multiKeyDisabledReason := ∅
      multiKeyDisabledTime := ∅
      multiKeyPollingIndex := 0
      multiKeyMode := .polling }

def KeyedTables.weights (tables : KeyedTables) :
    List (Int × Option Nat) × List ((String × String × Int) × Nat) :=
  (tables.channels.map fun channel => (channel.id, channel.weight),
    tables.abilities.map fun row => (row.primaryKey, row.weight))

/-- The row of a disabled channel is left behind when the channel is deleted, it keeps its weight
when the weight of the channel is set to zero, and two pairs with one key get one row. -/
theorem deleted_channel_leaves_row :
    ¬(channelTableSystem noArray).Guarded (LeavesRight noArray) emptyTables
        [.insert [taggedChannel .autoDisabled "g" "m"], .deleteDisabled] ∧
      ((channelTableSystem noArray).run emptyTables
        [.insert [taggedChannel .autoDisabled "g" "m"], .deleteDisabled]).map
          KeyedTables.weights = some ([], [(("g", "m", 1), 5)]) ∧
      ((channelTableSystem noArray).run emptyTables
        [.insert [taggedChannel .enabled "g" "m"], .editByTag "t" { weight := some 0 }]).map
          KeyedTables.weights = some ([(1, some 0)], [(("g", "m", 1), 5)]) ∧
      ((channelTableSystem noArray).run emptyTables
        [.insert [taggedChannel .enabled "a,a|b" "b|c,c"]]).map KeyedTables.weights =
          some ([(1, some 5)],
            [(("a", "b|c", 1), 5), (("a|b", "b|c", 1), 5), (("a", "c", 1), 5)]) := by
  have hde : ((channelTableSystem noArray).run emptyTables
      [.insert [taggedChannel .autoDisabled "g" "m"], .deleteDisabled]).map
        KeyedTables.weights = some ([], [(("g", "m", 1), 5)]) := by decide +kernel
  refine ⟨fun hgu => ?_, hde, by decide +kernel, by decide +kernel⟩
  obtain ⟨final, hr, hwe⟩ := Option.map_eq_some_iff.mp hde
  obtain ⟨inserted, hin, hr⟩ := System.run_cons_eq_some _ |>.mp hr
  obtain ⟨final', hdl, hni⟩ := System.run_cons_eq_some _ |>.mp hr
  cases hni
  have hri := (hgu.2 inserted hin).1 final hdl
  obtain ⟨hch, hab⟩ := Prod.mk.inj hwe
  obtain ⟨row, hro, -⟩ := mem_map.mp (hab ▸ mem_cons_self)
  have hn : final.channels = [] := map_eq_nil_iff.mp hch
  have how := hri.owned row hro
  rw [hn] at how
  exact absurd how not_mem_nil

/-- A channel is inserted, gets another priority by its tag, is disabled and enabled by its
tag, is disabled by a status update and is deleted. -/
theorem tagged_channel_abilities_right :
    (channelTableSystem noArray).Guarded (LeavesRight noArray) emptyTables
      [.insert [taggedChannel .enabled "g,h" "m,n"], .editByTag "t" { priority := some 3 },
        .disableByTag "t", .enableByTag "t", .updateStatus 1 "k" .autoDisabled "" 0,
        .delete 1] := by
  refine (abilities_right_iff abilitiesRight_emptyTables _).mpr ?_
  refine ⟨fun _ => forall_mem_singleton.mpr ?_, fun _ _ => ⟨fun _ => ?_, fun _ _ =>
    ⟨fun _ => trivial, fun _ _ => ⟨fun _ => trivial, fun _ _ => ⟨fun _ => ?_, fun _ _ =>
      ⟨fun _ => trivial, fun _ _ => trivial⟩⟩⟩⟩⟩⟩
  · decide +kernel
  · intro hz
    cases hz
  · intro row _ hen
    cases hen

end NewApi.Channels
