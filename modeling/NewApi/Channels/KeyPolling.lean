import Mathlib.Data.List.Rotate
import NewApi.Channels.MultiKey

/-!
# Polling over the keys of a channel

A call of `GetNextEnabledKey` reads the index from the cache, or else from the database, and writes
the next one to the caller's own channel. `polling_order_iff`: the calls go through the enabled
keys in their cyclic order exactly if the next call reads there.
-/

namespace NewApi.Channels

open Lib List

/-- Where a caller of `GetNextEnabledKey` has its channel from. -/
structure KeyCaller where
  memoryCacheEnabled : Bool
  /-- `GetChannelById`, also with a cache: a request for one channel, a remixed task. -/
  loaded : Bool := false
  /-- `SaveChannelInfo` returns an error, which is ignored. -/
  saveFails : Bool := false

namespace KeyCaller

def usesCache (caller : KeyCaller) : Bool :=
  caller.memoryCacheEnabled && !caller.loaded

def channel (caller : KeyCaller) (state : ChannelCopies) : Option KeyedChannel :=
  if caller.usesCache then state.cached else state.stored.map fun row => { row with keys := [] }

def cacheGetChannelInfo (caller : KeyCaller) (state : ChannelCopies) : Option ChannelInfo :=
  if caller.memoryCacheEnabled then state.cached.map (·.channelInfo)
  else state.stored.map (·.channelInfo)

/-- A call with a channel of the caller: the cached one is changed in place, a row is saved. -/
def write (caller : KeyCaller) (next : NextKey) (state : ChannelCopies) : ChannelCopies :=
  if caller.usesCache then { state with cached := some next.channel }
  else if next.saves ∧ ¬ caller.saveFails then
    { state with stored := state.stored.map fun row =>
        { row with channelInfo := next.channel.channelInfo } }
  else state

/-- The next call reads the index that a call writes. -/
def Shared (caller : KeyCaller) : Prop :=
  if caller.memoryCacheEnabled then caller.loaded = false else caller.saveFails = false

end KeyCaller

section

variable (decodeArray : String → Option (List String)) (caller : KeyCaller)

/-- One call; `none` when the caller finds no channel. -/
def nextKey (state : ChannelCopies) :
    Option (Except NextKeyError (String × Nat)) × ChannelCopies :=
  match caller.channel state with
  | none => (none, state)
  | some channel =>
    let next := getNextEnabledKey decodeArray caller.memoryCacheEnabled
      (caller.cacheGetChannelInfo state) 0 channel
    (some next.result, caller.write next state)

def nextKeys : Nat → ChannelCopies → List (Option (Except NextKeyError (String × Nat)))
  | 0, _ => []
  | n + 1, state =>
    (nextKey decodeArray caller state).1 :: nextKeys n (nextKey decodeArray caller state).2

end

/-- The first position that a call looks at. -/
def pollStart (len : Nat) (index : Int) : Nat :=
  if index < 0 ∨ len ≤ index then 0 else index.toNat

/-- The enabled keys in cyclic order from a position on. -/
def ChannelInfo.enabledFrom (info : ChannelInfo) (len start : Nat) : List Nat :=
  ((List.range len).rotate start).filter fun idx => info.getStatus idx = .enabled

variable {info : ChannelInfo} {keys : List String} {len start idx : Nat} {rest : List Nat}

theorem pollStart_of_lt (h : start < len) : pollStart len start = start := by
  unfold pollStart
  rw [if_neg (by omega)]
  exact Int.toNat_natCast start

theorem scan_eq_rotate :
    (range len).map (fun i => (start + i) % len) = (range len).rotate start := by
  refine ext_getElem (by simp) fun i hi _ => ?_
  rw [getElem_rotate]
  simp [Nat.add_comm]

theorem pollFrom_eq_head? (start : Nat) :
    info.pollFrom keys start = (info.enabledFrom keys.length start).head? := by
  unfold ChannelInfo.pollFrom ChannelInfo.enabledFrom
  rw [scan_eq_rotate, head?_filter]

theorem enabledFrom_perm (start : Nat) :
    (info.enabledFrom keys.length start).Perm (info.enabledIdx keys) :=
  (rotate_perm _ start).filter _

theorem enabledFrom_next (h : info.enabledFrom len start = idx :: rest) :
    info.enabledFrom len ((idx + 1) % len) = rest ++ [idx] := by
  obtain ⟨pre, after, hsplit, hskipped, hi, rfl⟩ := filter_eq_cons_iff.mp h
  have hlength : pre.length < ((range len).rotate start).length := by
    rw [hsplit, length_append, length_cons]
    omega
  have hindex : idx = (pre.length + start) % len := by
    have hget := getElem_rotate (range len) start pre.length hlength
    simpa [hsplit] using hget
  have hrotate : (range len).rotate ((idx + 1) % len) = after ++ (pre ++ [idx]) := by
    calc (range len).rotate ((idx + 1) % len)
        = (range len).rotate ((idx + 1) % (range len).length) := by
          rw [length_range]
      _ = (range len).rotate ((start + (pre.length + 1)) % (range len).length) := by
          rw [length_range, hindex, Nat.mod_add_mod]
          congr 2
          omega
      _ = ((pre ++ [idx]) ++ after).rotate (pre ++ [idx]).length := by
          rw [rotate_mod, ← rotate_rotate, hsplit, length_append, append_assoc,
            singleton_append, length_singleton]
      _ = after ++ (pre ++ [idx]) := rotate_append_length_eq _ _
  unfold ChannelInfo.enabledFrom
  rw [hrotate, filter_append, filter_append, filter_eq_nil_iff.mpr hskipped, nil_append]
  simp only [filter_cons, hi, if_true, filter_nil]

section

variable {decodeArray : String → Option (List String)} {caller : KeyCaller}
  {state : ChannelCopies} {channel : KeyedChannel}

/-- The keys that the next calls return, as long as nothing else changes the channel. -/
def KeyedChannel.pollingOrder (decodeArray : String → Option (List String))
    (channel : KeyedChannel) : List Nat :=
  let len := (channel.getKeys decodeArray).length
  channel.channelInfo.enabledFrom len (pollStart len channel.channelInfo.multiKeyPollingIndex)

def KeyedChannel.pollTo (channel : KeyedChannel) (index : Nat) : KeyedChannel :=
  { channel with channelInfo := { channel.channelInfo with multiKeyPollingIndex := index } }

/-- A channel in polling mode. -/
structure Polling (channel : KeyedChannel) : Prop where
  multi : channel.channelInfo.isMultiKey = true
  mode : channel.channelInfo.multiKeyMode = .polling

theorem KeyCaller.Shared.cacheGetChannelInfo (hshared : caller.Shared)
    (h : caller.channel state = some channel) :
    caller.cacheGetChannelInfo state = some channel.channelInfo := by
  unfold Shared at hshared
  unfold KeyCaller.channel usesCache at h
  unfold KeyCaller.cacheGetChannelInfo
  cases hcache : caller.memoryCacheEnabled with
  | true =>
    simp only [hcache, if_true] at hshared
    simp only [hcache, hshared, Bool.not_false, Bool.and_self, if_true] at h
    simp [h]
  | false =>
    simp only [hcache, Bool.false_and, Bool.false_eq_true, if_false, Option.map_eq_some_iff] at h
    obtain ⟨row, hresult, rfl⟩ := h
    simp [hresult]

theorem KeyCaller.Shared.channel_write {next : NextKey} (hshared : caller.Shared)
    (h : caller.channel state = some channel)
    (hnext : next.channel = channel.pollTo index)
    (hsaves : next.saves = !caller.memoryCacheEnabled) :
    caller.channel (caller.write next state) = some (channel.pollTo index) := by
  unfold Shared at hshared
  unfold KeyCaller.channel usesCache at h ⊢
  unfold write usesCache
  cases hcache : caller.memoryCacheEnabled with
  | true =>
    simp only [hcache, if_true] at hshared
    simp [hshared, hnext]
  | false =>
    simp only [hcache, Bool.false_eq_true, if_false] at hshared
    simp only [hcache, Bool.false_and, Bool.false_eq_true, if_false, Option.map_eq_some_iff] at h
    obtain ⟨row, hresult, rfl⟩ := h
    simp [hsaves, hcache, hshared, hresult, hnext, KeyedChannel.pollTo]

theorem getNextEnabledKey_polling (hpolling : Polling channel)
    (h : channel.pollingOrder decodeArray = idx :: rest) :
    getNextEnabledKey decodeArray memoryCacheEnabled (some channel.channelInfo) 0 channel =
      ⟨.ok ((channel.getKeys decodeArray).getD idx "", idx),
        channel.pollTo ((idx + 1) % (channel.getKeys decodeArray).length),
        !memoryCacheEnabled⟩ := by
  have hperm := @enabledFrom_perm channel.channelInfo (channel.getKeys decodeArray)
    (pollStart (channel.getKeys decodeArray).length channel.channelInfo.multiKeyPollingIndex)
  have hpoll := @pollFrom_eq_head? channel.channelInfo (channel.getKeys decodeArray)
    (pollStart (channel.getKeys decodeArray).length channel.channelInfo.multiKeyPollingIndex)
  unfold KeyedChannel.pollingOrder at h
  rw [h] at hperm hpoll
  have hmem : idx ∈ channel.channelInfo.enabledIdx (channel.getKeys decodeArray) :=
    hperm.subset mem_cons_self
  have hkeys : channel.getKeys decodeArray ≠ [] := by
    intro hnil
    rw [hnil] at hmem
    cases hmem
  unfold pollStart at hpoll
  simp only [getNextEnabledKey, hpolling.multi, hpolling.mode, Bool.true_eq_false, hkeys,
    ne_nil_of_mem hmem,
    if_false, hpoll, head?_cons]
  simp [KeyedChannel.pollTo, hpolling.multi, hpolling.mode]

theorem pollingOrder_next (h : channel.pollingOrder decodeArray = idx :: rest) :
    (channel.pollTo ((idx + 1) % (channel.getKeys decodeArray).length)).pollingOrder decodeArray =
      rest ++ [idx] := by
  unfold KeyedChannel.pollingOrder at h ⊢
  have hlength : 0 < (channel.getKeys decodeArray).length := by
    rcases Nat.eq_zero_or_pos (channel.getKeys decodeArray).length with hzero | hpos
    · rw [hzero] at h
      cases h
    · exact hpos
  show channel.channelInfo.enabledFrom _ (pollStart (channel.getKeys decodeArray).length
    ((idx + 1) % (channel.getKeys decodeArray).length : Nat)) = _
  rw [pollStart_of_lt (Nat.mod_lt _ hlength)]
  exact enabledFrom_next h

theorem nextKey_result (hchannel : caller.channel state = some channel)
    (hinfo : caller.cacheGetChannelInfo state = some channel.channelInfo)
    (hpolling : Polling channel)
    (h : channel.pollingOrder decodeArray = idx :: rest) :
    nextKey decodeArray caller state = (some (.ok ((channel.getKeys decodeArray).getD idx "", idx)),
      caller.write ⟨.ok ((channel.getKeys decodeArray).getD idx "", idx),
        channel.pollTo ((idx + 1) % (channel.getKeys decodeArray).length),
          !caller.memoryCacheEnabled⟩ state) := by
  unfold nextKey
  rw [hchannel, hinfo]
  dsimp only
  rw [getNextEnabledKey_polling hpolling h]

theorem nextKeys_polling (hshared : caller.Shared) (hchannel : caller.channel state = some channel)
    (hpolling : Polling channel) (h : channel.pollingOrder decodeArray = order ++ rest) :
    nextKeys decodeArray caller order.length state =
      order.map fun idx => some (.ok ((channel.getKeys decodeArray).getD idx "", idx)) := by
  induction order generalizing state channel rest with
  | nil => rfl
  | cons idx order ih =>
    rw [cons_append] at h
    have hresult := nextKey_result hchannel (hshared.cacheGetChannelInfo hchannel) hpolling h
    have horder := pollingOrder_next h
    rw [append_assoc] at horder
    have hwritten : caller.channel (nextKey decodeArray caller state).2 =
        some (channel.pollTo ((idx + 1) % (channel.getKeys decodeArray).length)) := by
      rw [hresult]
      exact hshared.channel_write hchannel rfl rfl
    -- neither the keys nor the mode depend on the index
    have hlater := ih hwritten ⟨hpolling.multi, hpolling.mode⟩ horder
    rw [length_cons, nextKeys, hlater, hresult]
    rfl

/-- The index of a caller that is not shared does not move: a second call returns the same key. -/
theorem nextKeys_unshared (hshared : ¬caller.Shared)
    (hchannel : caller.channel state = some channel)
    (hinfo : caller.cacheGetChannelInfo state = some channel.channelInfo)
    (hpolling : Polling channel)
    (h : channel.pollingOrder decodeArray = idx :: rest) (n : Nat) :
    nextKeys decodeArray caller (n + 2) state =
      some (.ok ((channel.getKeys decodeArray).getD idx "", idx)) ::
        some (.ok ((channel.getKeys decodeArray).getD idx "", idx)) ::
          nextKeys decodeArray caller n state := by
  have hstay :
      ∀ key, caller.write ⟨key, channel.pollTo ((idx + 1) % (channel.getKeys decodeArray).length),
      !caller.memoryCacheEnabled⟩ state = state := by
    intro key
    unfold KeyCaller.Shared at hshared
    unfold KeyCaller.write KeyCaller.usesCache
    cases hcache : caller.memoryCacheEnabled <;> simp_all
  have hresult := nextKey_result hchannel hinfo hpolling h
  rw [hstay] at hresult
  rw [nextKeys, nextKeys, hresult]
  dsimp only
  rw [hresult]

/-- For every polling channel whose info a call reads: as many calls as there are enabled keys
return each of them once, in the cyclic order that begins at the stored index, exactly if the next
call reads the index that a call writes, or there is no second call. -/
theorem polling_order_iff (hchannel : caller.channel state = some channel)
    (hinfo : caller.cacheGetChannelInfo state = some channel.channelInfo)
    (hpolling : Polling channel) :
    (nextKeys decodeArray caller
        (channel.channelInfo.enabledIdx (channel.getKeys decodeArray)).length state =
      (channel.pollingOrder decodeArray).map (fun idx =>
        some (.ok ((channel.getKeys decodeArray).getD idx "", idx))) ↔
      caller.Shared ∨
        (channel.channelInfo.enabledIdx (channel.getKeys decodeArray)).length ≤ 1) ∧
      (channel.pollingOrder decodeArray).Perm
        (channel.channelInfo.enabledIdx (channel.getKeys decodeArray)) ∧
      (channel.pollingOrder decodeArray).Nodup := by
  have hperm : (channel.pollingOrder decodeArray).Perm
      (channel.channelInfo.enabledIdx (channel.getKeys decodeArray)) := enabledFrom_perm _
  have hnodup : (channel.pollingOrder decodeArray).Nodup :=
    (nodup_rotate.mpr nodup_range).filter _
  refine ⟨?_, hperm, hnodup⟩
  rw [← hperm.length_eq]
  by_cases hshared : caller.Shared
  · exact iff_of_true (nextKeys_polling hshared hchannel hpolling (append_nil _).symm)
      (.inl hshared)
  rw [or_iff_right hshared]
  cases horder : channel.pollingOrder decodeArray with
  | nil => exact iff_of_true rfl (Nat.zero_le 1)
  | cons first rest =>
    have hfirst := nextKey_result hchannel hinfo hpolling horder
    cases rest with
    | nil =>
      refine iff_of_true ?_ le_rfl
      rw [length_singleton, nextKeys, hfirst]
      rfl
    | cons second rest =>
      -- the second call returns the first key once more
      rw [horder] at hnodup
      refine iff_of_false (fun h => ?_) (by simp)
      rw [length_cons, length_cons, nextKeys_unshared hshared hchannel hinfo hpolling horder] at h
      simp only [map_cons, cons.injEq, Option.some.injEq, Except.ok.injEq, Prod.mk.injEq] at h
      exact (nodup_cons.mp hnodup).1 (h.2.1.2 ▸ mem_cons_self)

end

/-- The second of three keys is disabled, and the index is out of range. -/
def pollingChannel : KeyedChannel where
  id := 1
  models := "m"
  group := "default"
  key := "a\nb\nc"
  channelInfo :=
    { isMultiKey := true, multiKeySize := 3
      multiKeyStatusList := Finmap.singleton 1 .autoDisabled
      multiKeyDisabledReason := ∅, multiKeyDisabledTime := ∅
      multiKeyPollingIndex := 7, multiKeyMode := .polling }

def pollingCopies : ChannelCopies where
  cached := some pollingChannel
  stored := some pollingChannel

theorem polling_skips_disabled_key :
    nextKeys (fun _ => none) ⟨true, false, false⟩ 2 pollingCopies =
      [some (.ok ("a", 0)), some (.ok ("c", 2))] := by
  have hkeys := (@polling_order_iff (fun _ => none) ⟨true, false, false⟩ pollingCopies
    pollingChannel rfl rfl ⟨rfl, rfl⟩).1.mpr (.inl rfl)
  have hlength : (pollingChannel.channelInfo.enabledIdx
      (pollingChannel.getKeys fun _ => none)).length = 2 := by decide +kernel
  rw [hlength] at hkeys
  rw [hkeys]
  decide +kernel

/-- Requests for one channel load its row, although there is a cache: each takes the first key. -/
theorem loaded_channel_repeats_key :
    nextKeys (fun _ => none) ⟨true, true, false⟩ 2 pollingCopies =
      [some (.ok ("a", 0)), some (.ok ("a", 0))] := by
  decide +kernel

end NewApi.Channels
