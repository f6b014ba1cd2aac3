import Mathlib.Data.Finmap
import NewApi.Channels.Cache

/-!
# Channels with several keys

A multi-key channel keeps a sparse map from the position of a key to its status
(`model/channel.go`). The decoder of a key column that holds a JSON array is a parameter, and so are
the failures of the database.
-/

namespace NewApi.Channels

open Lib List

/-! ## The source -/

/-- Any other text takes the default of the switch. -/
inductive MultiKeyMode where
  | random
  | polling
  | other
  deriving DecidableEq

abbrev KeyMap (Value : Type) : Type := Finmap fun _ : Nat => Value

/-- `ChannelInfo`, the JSON document of a channel. -/
structure ChannelInfo where
  isMultiKey : Bool
  multiKeySize : Int
  multiKeyStatusList : KeyMap ChannelStatus
  multiKeyDisabledReason : KeyMap String
  multiKeyDisabledTime : KeyMap Int
  multiKeyPollingIndex : Int
  multiKeyMode : MultiKeyMode

/-- `getStatus` of `GetNextEnabledKey`: a key without an entry is enabled. -/
def ChannelInfo.getStatus (info : ChannelInfo) (idx : Nat) : ChannelStatus :=
  (info.multiKeyStatusList.lookup idx).getD .enabled

/-- The entries of `OtherInfo` that a status update writes. -/
structure StatusInfo where
  statusReason : String
  statusTime : Int

/-- A channel with its key column. The parsed keys are not stored, only cached. -/
structure KeyedChannel extends Channel where
  key : String
  keys : List String := []
  channelInfo : ChannelInfo
  otherInfo : Option StatusInfo := none

/-- `strings.Trim(s, "\n")`. -/
def trimNewlines (s : String) : String :=
  String.ofList ((s.toList.dropWhile (· = '\n')).rdropWhile (· = '\n'))

def keyIndex (keys : List String) (usingKey : String) : Nat :=
  (keys.findIdx? (· = usingKey)).getD 0

/-- Write the entry of one key: an enabled key loses it, a disabled one also gets the reason and
the time. -/
def ChannelInfo.setKeyStatus (info : ChannelInfo) (keyIndex : Nat) (status : ChannelStatus)
    (reason : String) (now : Int) : ChannelInfo :=
  if status = .enabled then
    { info with multiKeyStatusList := info.multiKeyStatusList.erase keyIndex }
  else
    { info with
      multiKeyStatusList := info.multiKeyStatusList.insert keyIndex status
      multiKeyDisabledReason := info.multiKeyDisabledReason.insert keyIndex reason
      multiKeyDisabledTime := info.multiKeyDisabledTime.insert keyIndex now }

/-- One call of `UpdateChannelStatus`, with the statements of the database that fail. -/
structure StatusUpdate where
  usingKey : String
  status : ChannelStatus
  reason : String := ""
  now : Int := 0
  loadFails : Bool := false
  saveFails : Bool := false
  abilitiesFail : Bool := false

/-- The copies of one channel: the entry of `channelsIDM` with the lists of the cache, and the row
with the abilities of the database. -/
structure ChannelCopies where
  group2model2channels : GroupModelChannels := fun _ => none
  cached : Option KeyedChannel
  stored : Option KeyedChannel
  abilities : List Ability := []

section

variable (decodeArray : String → Option (List String))

/-- The keys that `GetKeys` reads a key column as: those of an array, or its lines. -/
def keysOf (column : String) : List String :=
  let lines := split '\n' (trimNewlines column)
  if column = "" then []
  else if startsWith (trimSpace column) "[" then (decodeArray (trimSpace column)).getD lines
  else lines

def KeyedChannel.getKeys (channel : KeyedChannel) : List String :=
  if channel.key = "" then []
  else if channel.keys ≠ [] then channel.keys
  else keysOf decodeArray channel.key

def handlerMultiKeyUpdate (channel : KeyedChannel) (usingKey : String) (status : ChannelStatus)
    (reason : String) (now : Int) : KeyedChannel :=
  let keys := channel.getKeys decodeArray
  if keys = [] then { channel with status }
  else
    let info := channel.channelInfo.setKeyStatus (keyIndex keys usingKey) status reason now
    if info.multiKeySize ≤ info.multiKeyStatusList.keys.card then
      { channel with
        channelInfo := info
        status := .autoDisabled
        otherInfo := some ⟨"All keys are disabled", now⟩ }
    else { channel with channelInfo := info }

/-- The update of the cached copy; `none` where the call returns false at once. -/
def updateCachedStatus (channelId : Int) (update : StatusUpdate) (state : ChannelCopies) :
    Option ChannelCopies :=
  match state.cached with
  | none => none
  | some channel =>
    if channel.channelInfo.isMultiKey then
      some { state with
        cached := some (handlerMultiKeyUpdate decodeArray channel update.usingKey update.status
          update.reason update.now) }
    else if channel.status = update.status then none
    else
      let lists : ChannelCache := ⟨state.group2model2channels, []⟩
      some { state with
        group2model2channels :=
          (cacheUpdateChannelStatus lists channelId update.status).group2model2channels
        cached := some { channel with status := update.status } }

/-- The parsed keys are not a column. -/
def getChannelById (update : StatusUpdate) (state : ChannelCopies) : Option KeyedChannel :=
  if update.loadFails then none else state.stored.map fun row => { row with keys := [] }

def updateRow (update : StatusUpdate) (channel : KeyedChannel) : KeyedChannel :=
  if channel.channelInfo.isMultiKey then
    handlerMultiKeyUpdate decodeArray channel update.usingKey update.status update.reason
      update.now
  else
    { channel with status := update.status, otherInfo := some ⟨update.reason, update.now⟩ }

def updateAbilityStatus (channelId : Int) (enabled : Bool) (abilities : List Ability) :
    List Ability :=
  Table.updateWhere (·.channelId = channelId) (fun ability => { ability with enabled }) abilities

/-- The deferred update of the abilities, which runs whether or not the row could be saved. -/
def deferAbilities (channelId : Int) (update : StatusUpdate) (before after : KeyedChannel)
    (state : ChannelCopies) : ChannelCopies :=
  if before.channelInfo.isMultiKey = true ∧ before.status = after.status then state
  else if update.abilitiesFail then state
  else
    { state with
      abilities := updateAbilityStatus channelId (update.status = .enabled) state.abilities }

/-- The whole row but its key, unless the id is 0 or the statement fails. -/
def saveWithoutKey (update : StatusUpdate) (channel : KeyedChannel) (state : ChannelCopies) :
    Option ChannelCopies :=
  if channel.id = 0 then none
  else if update.saveFails then none
  else some { state with
    stored := state.stored.map fun row => { channel with key := row.key, keys := [] } }

def updateStoredStatus (channelId : Int) (update : StatusUpdate) (state : ChannelCopies) :
    Bool × ChannelCopies :=
  match getChannelById update state with
  | none => (false, state)
  | some channel =>
    if channel.status = update.status then (false, state)
    else
      let after := updateRow decodeArray update channel
      let next := deferAbilities channelId update channel after state
      match saveWithoutKey update after next with
      | none => (false, next)
      | some saved => (true, saved)

/-- Whether the status was updated, and the copies after it. -/
def updateChannelStatus (memoryCacheEnabled : Bool) (channelId : Int) (update : StatusUpdate)
    (state : ChannelCopies) : Bool × ChannelCopies :=
  if memoryCacheEnabled then
    match updateCachedStatus decodeArray channelId update state with
    | none => (false, state)
    | some next => updateStoredStatus decodeArray channelId update next
  else updateStoredStatus decodeArray channelId update state

/-- The errors of `GetNextEnabledKey`: "no keys available" and "no enabled keys", which disable the
channel, and a row that could not be read. -/
inductive NextKeyError where
  | noKeysAvailable
  | noEnabledKeys
  | getChannelFailed
  deriving DecidableEq

def ChannelInfo.enabledIdx (info : ChannelInfo) (keys : List String) : List Nat :=
  (List.range keys.length).filter fun idx => info.getStatus idx = .enabled

def ChannelInfo.pollFrom (info : ChannelInfo) (keys : List String) (start : Nat) : Option Nat :=
  ((List.range keys.length).map fun i => (start + i) % keys.length).find? fun idx =>
    info.getStatus idx = .enabled

/-- What a call of `GetNextEnabledKey` leaves behind: its result, the caller's channel, and whether
it saves the channel info on its way out. -/
structure NextKey where
  result : Except NextKeyError (String × Nat)
  channel : KeyedChannel
  saves : Bool

/-- `GetNextEnabledKey`, with the channel info that it reads for the polling index and the random
number of the random mode. -/
def getNextEnabledKey (memoryCacheEnabled : Bool) (channelInfo : Option ChannelInfo)
    (random : Nat) (channel : KeyedChannel) : NextKey :=
  let keys := channel.getKeys decodeArray
  let info := channel.channelInfo
  let enabled := info.enabledIdx keys
  let keyAt := fun idx => (keys.getD idx "", idx)
  if info.isMultiKey = false then ⟨.ok (channel.key, 0), channel, false⟩
  else if keys = [] then ⟨.error .noKeysAvailable, channel, false⟩
  else if enabled = [] then ⟨.error .noEnabledKeys, channel, false⟩
  else
    match info.multiKeyMode with
    | .random => ⟨.ok (keyAt (enabled.getD (random % enabled.length) 0)), channel, false⟩
    | .other => ⟨.ok (keyAt (enabled.headD 0)), channel, false⟩
    | .polling =>
      match channelInfo with
      | none => ⟨.error .getChannelFailed, channel, false⟩
      | some current =>
        let start := current.multiKeyPollingIndex
        let start := if start < 0 ∨ keys.length ≤ start then 0 else start.toNat
        match info.pollFrom keys start with
        | none => ⟨.ok (keyAt (enabled.headD 0)), channel, !memoryCacheEnabled⟩
        | some idx =>
          let info := { info with multiKeyPollingIndex := (idx + 1) % keys.length }
          ⟨.ok (keyAt idx), { channel with channelInfo := info }, !memoryCacheEnabled⟩

end

/-! ## What an update does to the keys -/

namespace ChannelInfo

variable {inf : ChannelInfo} {n k : Nat} {status : ChannelStatus} {reason : String} {now : Int}

theorem getStatus_setKeyStatus :
    (inf.setKeyStatus k status reason now).getStatus i =
      if i = k then status else inf.getStatus i := by
  unfold setKeyStatus getStatus
  by_cases hen : status = .enabled
  · rw [if_pos hen]
    by_cases hi : i = k
    · subst hi
      simp [hen]
    · simp [hi, Finmap.lookup_erase_ne hi]
  rw [if_neg hen]
  by_cases hi : i = k
  · subst hi
    simp
  · simp [hi, Finmap.lookup_insert_of_ne _ hi]

@[simp]
theorem multiKeySize_setKeyStatus :
    (inf.setKeyStatus k status reason now).multiKeySize = inf.multiKeySize := by
  unfold setKeyStatus
  split <;> rfl

@[simp]
theorem isMultiKey_setKeyStatus :
    (inf.setKeyStatus k status reason now).isMultiKey = inf.isMultiKey := by
  unfold setKeyStatus
  split <;> rfl

/-- The map of a channel with `n` keys: entries stand for keys that are there and disabled. -/
structure ListOk (n : Nat) (info : ChannelInfo) : Prop where
  size : info.multiKeySize = n
  inRange : ∀ i ∈ info.multiKeyStatusList, i < n
  disabled : ∀ i, info.multiKeyStatusList.lookup i ≠ some .enabled

theorem ListOk.mem_iff (h : ListOk n inf) :
    i ∈ inf.multiKeyStatusList ↔ inf.getStatus i ≠ .enabled := by
  rw [Finmap.mem_iff, getStatus]
  cases hlo : inf.multiKeyStatusList.lookup i with
  | none => simp
  | some status =>
    have hne : status ≠ .enabled := fun heq => h.disabled i (heq ▸ hlo)
    simp [hne]

theorem ListOk.full_iff (h : ListOk n inf) :
    inf.multiKeySize ≤ inf.multiKeyStatusList.keys.card ↔ ∀ i < n, inf.getStatus i ≠ .enabled := by
  have hs : inf.multiKeyStatusList.keys ⊆ Finset.range n := by
    intro i hi
    exact Finset.mem_range.mpr (h.inRange i (Finmap.mem_keys.mp hi))
  rw [h.size, Int.ofNat_le]
  constructor
  · intro hca i hi
    -- as many entries as positions, so every position has one
    have heq := Finset.eq_of_subset_of_card_le hs (by rwa [Finset.card_range])
    have hm : i ∈ inf.multiKeyStatusList.keys := by rw [heq]; exact Finset.mem_range.mpr hi
    exact (h.mem_iff).mp (Finmap.mem_keys.mp hm)
  intro ha
  have hsu : Finset.range n ⊆ inf.multiKeyStatusList.keys := by
    intro i hi
    exact Finmap.mem_keys.mpr ((h.mem_iff).mpr (ha i (Finset.mem_range.mp hi)))
  simpa using Finset.card_le_card hsu

theorem ListOk.setKeyStatus (h : ListOk n inf) (hk : k < n) :
    ListOk n (inf.setKeyStatus k status reason now) := by
  refine ⟨by rw [multiKeySize_setKeyStatus, h.size], ?_, ?_⟩
  · intro i hi
    unfold ChannelInfo.setKeyStatus at hi
    split at hi
    · exact h.inRange i (Finmap.mem_erase.mp hi).2
    · rcases Finmap.mem_insert.mp hi with rfl | ho
      · exact hk
      · exact h.inRange i ho
  intro i
  unfold ChannelInfo.setKeyStatus
  split
  next hen =>
    by_cases hi : i = k
    · subst hi
      simp
    · simpa [Finmap.lookup_erase_ne hi] using h.disabled i
  next hdi =>
    by_cases hi : i = k
    · subst hi
      simpa using hdi
    · simpa [Finmap.lookup_insert_of_ne _ hi] using h.disabled i

end ChannelInfo

theorem keyIndex_lt (hke : ks ≠ []) (uk : String) : keyIndex ks uk < ks.length := by
  unfold keyIndex
  cases hf : ks.findIdx? (· = uk) with
  | none => exact length_pos_of_ne_nil hke
  | some i =>
    obtain ⟨hlt, -⟩ := List.findIdx?_eq_some_iff_getElem.mp hf
    exact hlt

theorem getElem?_keyIndex (hm : uk ∈ ks) : ks[keyIndex ks uk]? = some uk := by
  unfold keyIndex
  cases hf : ks.findIdx? (· = uk) with
  | none =>
    rw [findIdx?_eq_none_iff] at hf
    simpa using hf uk hm
  | some i =>
    obtain ⟨hlt, hk, -⟩ := List.findIdx?_eq_some_iff_getElem.mp hf
    show ks[i]? = some uk
    rw [getElem?_eq_getElem hlt, of_decide_eq_true hk]

theorem keyIndex_of_notMem (hm : uk ∉ ks) : keyIndex ks uk = 0 := by
  have hn : ks.findIdx? (· = uk) = none := by
    rw [findIdx?_eq_none_iff]
    intro key hk
    simpa using fun heq : key = uk => hm (heq ▸ hk)
  rw [keyIndex, hn]
  rfl

/-! ## The handler -/

section

variable {decodeArray : String → Option (List String)} {upd : StatusUpdate}
  {ch : KeyedChannel}

theorem getKeys_handler :
    (handlerMultiKeyUpdate decodeArray ch uk status reason now).getKeys decodeArray =
      ch.getKeys decodeArray := by
  unfold handlerMultiKeyUpdate
  dsimp only
  split_ifs <;> rfl

theorem channelInfo_handler (hke : ch.getKeys decodeArray ≠ []) :
    (handlerMultiKeyUpdate decodeArray ch uk status reason now).channelInfo =
      ch.channelInfo.setKeyStatus (keyIndex (ch.getKeys decodeArray) uk) status reason now := by
  unfold handlerMultiKeyUpdate
  dsimp only
  rw [if_neg hke]
  split_ifs <;> rfl

def StatusUpdate.handle (decodeArray : String → Option (List String)) (update : StatusUpdate)
    (channel : KeyedChannel) : KeyedChannel :=
  handlerMultiKeyUpdate decodeArray channel update.usingKey update.status update.reason update.now

theorem getStatus_handle (hke : ch.getKeys decodeArray ≠ []) (i : Nat) :
    (upd.handle decodeArray ch).channelInfo.getStatus i =
      if i = keyIndex (ch.getKeys decodeArray) upd.usingKey then upd.status
      else ch.channelInfo.getStatus i := by
  rw [StatusUpdate.handle, channelInfo_handler hke, ChannelInfo.getStatus_setKeyStatus]

@[simp]
theorem id_handle : (upd.handle decodeArray ch).id = ch.id := by
  unfold StatusUpdate.handle handlerMultiKeyUpdate
  dsimp only
  split_ifs <;> rfl

@[simp]
theorem key_handle : (upd.handle decodeArray ch).key = ch.key := by
  unfold StatusUpdate.handle handlerMultiKeyUpdate
  dsimp only
  split_ifs <;> rfl

@[simp]
theorem keys_handle : (upd.handle decodeArray ch).keys = ch.keys := by
  unfold StatusUpdate.handle handlerMultiKeyUpdate
  dsimp only
  split_ifs <;> rfl

theorem getStatus_getNextEnabledKey :
    (getNextEnabledKey decodeArray mce ci rnd
      ch).channel.channelInfo.getStatus i = ch.channelInfo.getStatus i := by
  unfold getNextEnabledKey
  dsimp only
  split_ifs
  · rfl
  · rfl
  · rfl
  cases ch.channelInfo.multiKeyMode with
  | random => rfl
  | other => rfl
  | polling =>
    cases ci with
    | none => rfl
    | some cur =>
      dsimp only
      split <;> rfl

end

end NewApi.Channels
