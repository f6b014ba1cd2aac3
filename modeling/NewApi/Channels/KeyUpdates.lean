import NewApi.Channels.MultiKey
import NewApi.Lib.Transition

/-!
# Sequences of key updates

An update of one key should leave the other keys alone and keep the channel auto-disabled exactly as
long as every key is disabled. `keyUpdates_right_iff` says over every sequence when it does.
-/

namespace NewApi.Channels

open Lib Option

/-! ## One copy of the channel -/

open StatusUpdate

section

variable (decodeArray : String → Option (List String))

def KeyedChannel.AllDisabled (channel : KeyedChannel) : Prop :=
  ∀ i < (channel.getKeys decodeArray).length, channel.channelInfo.getStatus i ≠ .enabled

structure KeyedChannel.Consistent (channel : KeyedChannel) : Prop where
  multiKey : channel.channelInfo.isMultiKey = true
  list : channel.channelInfo.ListOk (channel.getKeys decodeArray).length
  autoDisabled_iff : channel.status = .autoDisabled ↔ channel.AllDisabled decodeArray

/-- What an update of one key may do to a copy: no other key changes, the channel is auto-disabled
exactly if every key is disabled, and a channel with a key just enabled is not. -/
structure RightCopy (update : StatusUpdate) (before after : KeyedChannel) : Prop where
  others : ∀ i key, (before.getKeys decodeArray)[i]? = some key → key ≠ update.usingKey →
    after.channelInfo.getStatus i = before.channelInfo.getStatus i
  autoDisabled_iff : after.status = .autoDisabled ↔ after.AllDisabled decodeArray
  selectable : update.status = .enabled → update.usingKey ∈ before.getKeys decodeArray →
    after.status ≠ .autoDisabled

/-- The updates that the handler gets right: of a key that is there, or such that the first key has
the status already, and not enabling a key of an auto-disabled channel. -/
def HandlerOk (update : StatusUpdate) (channel : KeyedChannel) : Prop :=
  if channel.getKeys decodeArray = [] then update.status = .autoDisabled
  else
    (update.usingKey ∈ channel.getKeys decodeArray ∨
        channel.channelInfo.getStatus 0 = update.status) ∧
      ¬(update.status = .enabled ∧ channel.status = .autoDisabled)

/-- The updates that may be dropped: all but those enabling a key of an auto-disabled channel. -/
def DropOk (update : StatusUpdate) (channel : KeyedChannel) : Prop :=
  ¬(update.status = .enabled ∧ update.usingKey ∈ channel.getKeys decodeArray ∧
    channel.status = .autoDisabled)

variable {decodeArray} {upd : StatusUpdate} {channel : KeyedChannel}

section

variable (hke : channel.getKeys decodeArray ≠ [])
include hke

theorem status_handler (hli : channel.channelInfo.ListOk (channel.getKeys decodeArray).length)
    (uk : String) (status : ChannelStatus) (rsn : String) (now : Int) :
    let aft := handlerMultiKeyUpdate decodeArray channel uk status rsn now
    (aft.AllDisabled decodeArray ∧ aft.status = .autoDisabled) ∨
      (¬aft.AllDisabled decodeArray ∧ aft.status = channel.status) := by
  intro aft
  have haf : (channel.channelInfo.setKeyStatus
      (keyIndex (channel.getKeys decodeArray) uk) status rsn now).ListOk
        (channel.getKeys decodeArray).length := hli.setKeyStatus (keyIndex_lt hke uk)
  have ha : aft.AllDisabled decodeArray ↔
      ∀ i < (channel.getKeys decodeArray).length,
        (channel.channelInfo.setKeyStatus (keyIndex (channel.getKeys decodeArray) uk) status
          rsn now).getStatus i ≠ .enabled := by
    rw [KeyedChannel.AllDisabled, getKeys_handler, channelInfo_handler hke]
  rw [ha, ← haf.full_iff]
  unfold aft handlerMultiKeyUpdate
  dsimp only
  rw [if_neg hke]
  split_ifs with hca
  · exact .inl ⟨hca, rfl⟩
  · exact .inr ⟨hca, rfl⟩

theorem not_allDisabled_handle (hen : upd.status = .enabled) :
    ¬(upd.handle decodeArray channel).AllDisabled decodeArray := by
  intro ha
  refine ha (keyIndex (channel.getKeys decodeArray) upd.usingKey) ?_ ?_
  · rw [handle, getKeys_handler]
    exact keyIndex_lt hke upd.usingKey
  · rw [getStatus_handle hke, if_pos rfl, hen]

theorem autoDisabled_iff_handle (hco : channel.Consistent decodeArray) :
    ((upd.handle decodeArray channel).status = .autoDisabled ↔
        (upd.handle decodeArray channel).AllDisabled decodeArray) ↔
      ¬(upd.status = .enabled ∧ channel.status = .autoDisabled) := by
  rcases status_handler hke hco.list upd.usingKey upd.status upd.reason
    upd.now with ⟨ha, hau⟩ | ⟨hno, hkept⟩
  · -- every key is disabled now, so the named key was not enabled
    refine iff_of_true ⟨fun _ => ha, fun _ => hau⟩ (fun h => ?_)
    exact not_allDisabled_handle hke h.1 ha
  change ((upd.handle decodeArray channel).status = channel.status) at hkept
  rw [hkept]
  constructor
  · rintro hif ⟨-, hau⟩
    exact hno (hif.mp hau)
  intro hok
  refine ⟨fun hau => absurd (fun i hi => ?_) hno, fun ha => absurd ha hno⟩
  -- all keys were disabled before and the named key is not enabled
  rw [getKeys_handler] at hi
  refine fun hen => ?_
  have hi' := (getStatus_handle hke i).symm.trans hen
  split at hi'
  · exact hok ⟨hi', hau⟩
  · exact hco.autoDisabled_iff.mp hau i hi hi'

end

section

variable (hco : channel.Consistent decodeArray)
include hco

theorem rightCopy_handle_iff :
    RightCopy decodeArray upd channel (upd.handle decodeArray channel) ↔
      HandlerOk decodeArray upd channel := by
  unfold HandlerOk
  split
  next hke =>
    -- no keys: the status is written whatever it is, and all keys are disabled
    have hst : (upd.handle decodeArray channel).status = upd.status := by
      simp [handle, handlerMultiKeyUpdate, hke]
    have ha : (upd.handle decodeArray channel).AllDisabled decodeArray := by
      intro i hi
      rw [handle, getKeys_handler, hke] at hi
      exact absurd hi (Nat.not_lt_zero i)
    constructor
    · intro hri
      rw [← hst]
      exact hri.autoDisabled_iff.mpr ha
    intro hau
    refine ⟨?_, ⟨fun _ => ha, fun _ => hst.trans hau⟩, ?_⟩
    · intro i key hk
      simp [hke] at hk
    · intro _ hm
      simp [hke] at hm
  next hke =>
    constructor
    · intro hri
      refine ⟨?_, (autoDisabled_iff_handle hke hco).mp hri.autoDisabled_iff⟩
      by_cases hm : upd.usingKey ∈ channel.getKeys decodeArray
      · exact .inl hm
      -- the first key is another key
      right
      have hz := keyIndex_of_notMem hm
      have hlt := keyIndex_lt hke upd.usingKey
      rw [hz] at hlt
      have hfi := hri.others 0 _ (List.getElem?_eq_getElem hlt)
        (fun heq => hm (heq ▸ List.getElem_mem hlt))
      rw [getStatus_handle hke, if_pos hz.symm] at hfi
      exact hfi.symm
    · rintro ⟨hna, hso⟩
      have hif := (autoDisabled_iff_handle hke hco).mpr hso
      refine ⟨?_, hif, ?_⟩
      · intro i key hk hne
        rw [getStatus_handle hke]
        split
        next hi =>
          rcases hna with hm | hfi
          · rw [hi, getElem?_keyIndex hm] at hk
            exact absurd (Option.some.inj hk).symm hne
          by_cases hm : upd.usingKey ∈ channel.getKeys decodeArray
          · rw [hi, getElem?_keyIndex hm] at hk
            exact absurd (Option.some.inj hk).symm hne
          · rw [hi, keyIndex_of_notMem hm, hfi]
        next => rfl
      · intro hen hm hau
        exact not_allDisabled_handle hke hen (hif.mp hau)

theorem consistent_handle (hok : HandlerOk decodeArray upd channel) :
    (upd.handle decodeArray channel).Consistent decodeArray := by
  have hri := (rightCopy_handle_iff hco).mpr hok
  by_cases hke : channel.getKeys decodeArray = []
  · have hin : (upd.handle decodeArray channel).channelInfo = channel.channelInfo := by
      simp [handle, handlerMultiKeyUpdate, hke]
    refine ⟨by rw [hin, hco.multiKey], ?_, hri.autoDisabled_iff⟩
    rw [hin, handle, getKeys_handler]
    exact hco.list
  refine ⟨?_, ?_, hri.autoDisabled_iff⟩
  · rw [handle, channelInfo_handler hke, ChannelInfo.isMultiKey_setKeyStatus, hco.multiKey]
  · rw [handle, getKeys_handler, channelInfo_handler hke]
    exact hco.list.setKeyStatus (keyIndex_lt hke upd.usingKey)

theorem rightCopy_self_iff :
    RightCopy decodeArray upd channel channel ↔ DropOk decodeArray upd channel := by
  constructor
  · rintro hri ⟨hen, hm, hau⟩
    exact hri.selectable hen hm hau
  intro hdr
  refine ⟨fun _ _ _ _ => rfl, hco.autoDisabled_iff, ?_⟩
  intro hen hm hau
  exact hdr ⟨hen, hm, hau⟩

end

end

/-! ## Both copies -/

section

variable (decodeArray : String → Option (List String)) (memoryCacheEnabled : Bool)
  (channelId : Int)

def statusSystem : System ChannelCopies StatusUpdate where
  step state update :=
    some (updateChannelStatus decodeArray memoryCacheEnabled channelId update state).2

structure ChannelCopies.Consistent (state : ChannelCopies) : Prop where
  cached : ∀ channel ∈ state.cached, channel.Consistent decodeArray
  stored : ∀ row ∈ state.stored, row.keys = [] ∧ row.Consistent decodeArray

def RightStep (state : ChannelCopies) (update : StatusUpdate) : Prop :=
  let next := (updateChannelStatus decodeArray memoryCacheEnabled channelId update state).2
  (memoryCacheEnabled = true → ∀ before ∈ state.cached, ∃ after ∈ next.cached,
    RightCopy decodeArray update before after) ∧
  ∀ before ∈ state.stored, ∃ after ∈ next.stored, RightCopy decodeArray update before after

/-- The call gets as far as storing a row: no statement fails, and the row does not have the
status of the call as the status of the channel. -/
def StoresRow (state : ChannelCopies) (update : StatusUpdate) (row : KeyedChannel) : Prop :=
  (memoryCacheEnabled = true → state.cached.isSome) ∧ update.loadFails = false ∧
    row.status ≠ update.status ∧ row.id ≠ 0 ∧ update.saveFails = false
  deriving Decidable

def StepOk (state : ChannelCopies) (update : StatusUpdate) : Prop :=
  (memoryCacheEnabled = true → ∀ channel ∈ state.cached, HandlerOk decodeArray update channel) ∧
  ∀ row ∈ state.stored,
    if StoresRow memoryCacheEnabled state update row then HandlerOk decodeArray update row
    else DropOk decodeArray update row

variable {decodeArray memoryCacheEnabled channelId}

@[simp]
theorem cached_deferAbilities :
    (deferAbilities channelId update pre aft state).cached = state.cached := by
  unfold deferAbilities
  split_ifs <;> rfl

@[simp]
theorem stored_deferAbilities :
    (deferAbilities channelId update pre aft state).stored = state.stored := by
  unfold deferAbilities
  split_ifs <;> rfl

theorem cached_updateStoredStatus :
    (updateStoredStatus decodeArray channelId update state).2.cached = state.cached := by
  unfold updateStoredStatus saveWithoutKey
  cases getChannelById update state with
  | none => rfl
  | some channel =>
    dsimp only
    split_ifs <;> simp

theorem stored_updateStoredStatus
    (hst : state.stored = some row) (hke : row.keys = [])
    (hmu : row.channelInfo.isMultiKey = true) :
    (updateStoredStatus decodeArray channelId update state).2.stored =
      some (if update.loadFails = false ∧ row.status ≠ update.status ∧ row.id ≠ 0 ∧
        update.saveFails = false then update.handle decodeArray row else row) := by
  have hr : ({ row with keys := [] } : KeyedChannel) = row := by rw [← hke]
  have hud : updateRow decodeArray update row = update.handle decodeArray row := by
    rw [updateRow, if_pos hmu]
    rfl
  unfold updateStoredStatus getChannelById
  by_cases hlo : update.loadFails = true
  · simp [hlo, hst]
  rw [if_neg hlo, hst, map_some, hr]
  dsimp only
  rw [hud]
  by_cases hss : row.status = update.status
  · simp [hss, hst]
  rw [if_neg hss]
  unfold saveWithoutKey
  by_cases hid : row.id = 0
  · simp [hid, hst]
  by_cases hsa : update.saveFails = true
  · simp [hid, hsa, hst]
  have hsv : ({ update.handle decodeArray row with key := row.key, keys := [] } :
      KeyedChannel) = update.handle decodeArray row := by
    rw [← hke, ← keys_handle, ← key_handle]
  simp [hid, hsa, hlo, hss, hst, hsv]

theorem updateChannelStatus_copies (update : StatusUpdate) {st : ChannelCopies}
    (hstate : st.Consistent decodeArray) :
    let next := (updateChannelStatus decodeArray memoryCacheEnabled channelId update st).2
    next.cached = (if memoryCacheEnabled then st.cached.map (update.handle decodeArray)
      else st.cached) ∧
    next.stored = st.stored.map fun row =>
      if StoresRow memoryCacheEnabled st update row then update.handle decodeArray row
      else row := by
  intro next
  -- what the second half does, in a state with the same row
  have hrow : ∀ middle : ChannelCopies, middle.stored = st.stored →
      (memoryCacheEnabled = true → st.cached.isSome) →
      (updateStoredStatus decodeArray channelId update middle).2.stored =
        st.stored.map fun row =>
          if StoresRow memoryCacheEnabled st update row then update.handle decodeArray row
          else row := by
    intro middle hmiddle hcached
    cases hstored : st.stored with
    | none =>
      have hnone : getChannelById update middle = none := by
        simp [getChannelById, hmiddle, hstored]
      simp [updateStoredStatus, hnone, hmiddle, hstored]
    | some row =>
      obtain ⟨hkeys, hrow⟩ := hstate.stored row hstored
      rw [stored_updateStoredStatus (hmiddle.trans hstored) hkeys hrow.multiKey]
      simp only [map_some, StoresRow, and_iff_right hcached]
  unfold next updateChannelStatus
  cases hmemory : memoryCacheEnabled with
  | false =>
    simp only [Bool.false_eq_true, if_false]
    refine ⟨cached_updateStoredStatus, ?_⟩
    rw [← hmemory]
    exact hrow st rfl (by simp [hmemory])
  | true =>
    simp only [if_true]
    unfold updateCachedStatus
    cases hcached : st.cached with
    | none => simp [StoresRow, hcached]
    | some channel =>
      have hmulti := (hstate.cached channel hcached).multiKey
      dsimp only
      rw [if_pos hmulti]
      refine ⟨cached_updateStoredStatus .., ?_⟩
      rw [← hmemory]
      exact hrow _ rfl (by simp [hcached])

theorem rightStep_iff {state : ChannelCopies} (hstate : state.Consistent decodeArray) :
    RightStep decodeArray memoryCacheEnabled channelId state update ↔
      StepOk decodeArray memoryCacheEnabled state update := by
  obtain ⟨hcached, hstored⟩ := @updateChannelStatus_copies decodeArray memoryCacheEnabled channelId
    update state hstate
  unfold RightStep StepOk
  dsimp only
  rw [hcached, hstored]
  refine and_congr (imp_congr_right fun hmemory => ?_) ?_
  · refine forall₂_congr fun channel hchannel => ?_
    rw [if_pos hmemory, hchannel, ← rightCopy_handle_iff (hstate.cached channel hchannel)]
    simp
  refine forall₂_congr fun row hrow => ?_
  have hconsistent := (hstate.stored row hrow).2
  rw [hrow]
  split
  next hstores =>
    rw [← rightCopy_handle_iff hconsistent]
    simp [hstores]
  next hdropped =>
    rw [← rightCopy_self_iff hconsistent]
    simp [hdropped]

theorem consistent_updateChannelStatus {update : StatusUpdate} {state : ChannelCopies}
    (hstate : state.Consistent decodeArray)
    (hok : StepOk decodeArray memoryCacheEnabled state update) :
    (updateChannelStatus decodeArray memoryCacheEnabled channelId update state).2.Consistent
      decodeArray := by
  obtain ⟨hcached, hstored⟩ := @updateChannelStatus_copies decodeArray memoryCacheEnabled channelId
    update state hstate
  constructor
  · intro after hafter
    rw [hcached] at hafter
    split at hafter
    next hmemory =>
      obtain ⟨channel, hchannel, rfl⟩ := map_eq_some_iff.mp hafter
      exact consistent_handle (hstate.cached channel hchannel) (hok.1 hmemory channel hchannel)
    next => exact hstate.cached after hafter
  intro after hafter
  rw [hstored] at hafter
  obtain ⟨row, hrow, rfl⟩ := map_eq_some_iff.mp hafter
  obtain ⟨hkeys, hconsistent⟩ := hstate.stored row hrow
  have hrowOk := hok.2 row hrow
  split
  next hstores =>
    rw [if_pos hstores] at hrowOk
    exact ⟨keys_handle.trans hkeys, consistent_handle hconsistent hrowOk⟩
  next => exact ⟨hkeys, hconsistent⟩

/-- Over every sequence of calls, each call is right about both copies exactly if each call names a
key that is there (or leaves the first key as it is) and none enables a key of a copy that is
auto-disabled. -/
theorem keyUpdates_right_iff {state : ChannelCopies} (hstate : state.Consistent decodeArray)
    (updates : List StatusUpdate) :
    (statusSystem decodeArray memoryCacheEnabled channelId).Guarded
        (RightStep decodeArray memoryCacheEnabled channelId) state updates ↔
      (statusSystem decodeArray memoryCacheEnabled channelId).Guarded
        (StepOk decodeArray memoryCacheEnabled) state updates := by
  refine System.guarded_iff _ (ChannelCopies.Consistent decodeArray) ?_ ?_ hstate
  · intro state update hstate
    exact rightStep_iff hstate
  · intro state update next hstate hri hs
    cases hs
    exact consistent_updateChannelStatus hstate ((rightStep_iff hstate).mp hri)

end

/-- A channel with the keys `k1` and `k2`, both enabled. -/
def twoKeys : KeyedChannel where
  id := 1
  models := "m"
  group := "default"
  key := "k1\nk2"
  channelInfo :=
    { isMultiKey := true
      multiKeySize := 2
      multiKeyStatusList := ∅
      multiKeyDisabledReason := ∅
      multiKeyDisabledTime := ∅
      multiKeyPollingIndex := 0
      multiKeyMode := .polling }

def twoKeysCopies : ChannelCopies where
  cached := some { twoKeys with keys := ["k1", "k2"] }
  stored := some twoKeys

def statuses (channel : Option KeyedChannel) :
    Option (ChannelStatus × ChannelStatus × ChannelStatus) :=
  channel.map fun channel =>
    (channel.status, channel.channelInfo.getStatus 0, channel.channelInfo.getStatus 1)

def statusesAfter (updates : List StatusUpdate) :
    Option (Option (ChannelStatus × ChannelStatus × ChannelStatus) ×
      Option (ChannelStatus × ChannelStatus × ChannelStatus)) :=
  ((statusSystem (fun _ => none) true 1).run twoKeysCopies updates).map fun state =>
    (statuses state.cached, statuses state.stored)

/-- Both keys fail and one is enabled again: the channel stays auto-disabled in both copies. A key
that is not in the list disables the first one. -/
theorem keyUpdates_stay_disabled :
    statusesAfter [⟨"k1", .autoDisabled, "", 0, false, false, false⟩,
        ⟨"k2", .autoDisabled, "", 0, false, false, false⟩,
        ⟨"k1", .enabled, "", 0, false, false, false⟩] =
      some (some (.autoDisabled, .enabled, .autoDisabled),
        some (.autoDisabled, .enabled, .autoDisabled)) ∧
    statusesAfter [⟨"gone", .autoDisabled, "", 0, false, false, false⟩] =
      some (some (.enabled, .autoDisabled, .enabled),
        some (.enabled, .autoDisabled, .enabled)) := by
  decide +kernel

theorem consistent_twoKeys (hke : keys = [] ∨ keys = ["k1", "k2"]) :
    ({ twoKeys with keys } : KeyedChannel).Consistent fun _ => none := by
  have hg : ({ twoKeys with keys } : KeyedChannel).getKeys (fun _ => none) = ["k1", "k2"] := by
    rcases hke with rfl | rfl <;> decide +kernel
  refine ⟨rfl, ⟨?_, ?_, ?_⟩, ?_⟩
  · rw [hg]
    rfl
  · intro i hi
    exact absurd hi Finmap.notMem_empty
  · intro i
    show (∅ : KeyMap ChannelStatus).lookup i ≠ some .enabled
    simp
  · refine iff_of_false (by simp [twoKeys]) (fun ha => ha 0 ?_ rfl)
    rw [hg]
    decide

theorem keyUpdates_right_twoKeys :
    twoKeysCopies.Consistent (fun _ => none) ∧
      ((statusSystem (fun _ => none) true 1).Guarded (RightStep (fun _ => none) true 1)
          twoKeysCopies [⟨"k1", .autoDisabled, "", 0, false, false, false⟩] ↔
        (statusSystem (fun _ => none) true 1).Guarded (StepOk (fun _ => none) true)
          twoKeysCopies [⟨"k1", .autoDisabled, "", 0, false, false, false⟩]) := by
  have hst : twoKeysCopies.Consistent fun _ => none := by
    constructor
    · rintro channel ⟨⟩
      exact consistent_twoKeys (.inr rfl)
    · rintro row ⟨⟩
      exact ⟨rfl, consistent_twoKeys (.inl rfl)⟩
  exact ⟨hst, keyUpdates_right_iff hst _⟩

end NewApi.Channels
