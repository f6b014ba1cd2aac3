import Mathlib.Data.Finset.Basic
import NewApi.Channels.MultiKey
import NewApi.Lib.Processes
import NewApi.Lib.Transition

/-!
# Concurrent writers of the channel info

A request and `UpdateChannelStatus` both load the row of a channel, change it under the polling lock
and store it; the lock covers neither load. `storedDisables_kept_iff`: a disabled key stays disabled
exactly if every call that writes has seen the disable.
-/

namespace NewApi.Channels

open Lib List Processes

/-! ## The calls and their statements -/

inductive CallPhase where
  | requestLoaded (copy : KeyedChannel)
  | requestSaving (copy : KeyedChannel)
  | updateLoaded (update : StatusUpdate) (copy : KeyedChannel)
  | updateStoring (update : StatusUpdate) (written : Option Nat) (copy : KeyedChannel)
  | finished

/-- A call in progress. `seen` are the keys whose disable was stored when it loaded its copy. -/
structure ChannelCall where
  phase : CallPhase
  seen : Finset Nat

structure KeyRace where
  row : KeyedChannel
  locked : Bool := false
  calls : List ChannelCall := []
  disabledKeys : Finset Nat := ∅

/-- The statements of the calls; `i` is the call that goes on. -/
inductive KeyRaceAction where
  | loadForRequest
  | loadForUpdate (update : StatusUpdate)
  | takeKey (i : Nat) (readFails : Bool) (random : Nat)
  | saveChannelInfo (i : Nat) (fails : Bool)
  | handleUpdate (i : Nat)
  | storeRow (i : Nat)

section

variable (decodeArray : String → Option (List String))

def writtenKey (update : StatusUpdate) (copy : KeyedChannel) : Option Nat :=
  if copy.channelInfo.isMultiKey = true ∧ copy.getKeys decodeArray ≠ [] then
    some (keyIndex (copy.getKeys decodeArray) update.usingKey)
  else none

def settle (update : StatusUpdate) (written : Option Nat) (disabledKeys : Finset Nat) :
    Finset Nat :=
  match written with
  | none => disabledKeys
  | some k => if update.status = .enabled then disabledKeys.erase k else insert k disabledKeys

namespace KeyRace

def setPhase (state : KeyRace) (i : Nat) (call : ChannelCall) (phase : CallPhase) : KeyRace :=
  { state with calls := state.calls.set i { call with phase } }

def begin (state : KeyRace) (phase : KeyedChannel → CallPhase) : KeyRace :=
  { state with
    calls := state.calls ++ [⟨phase { state.row with keys := [] }, state.disabledKeys⟩] }

/-- `UpdateChannelStatus` up to its lock: it returns at once when the row cannot be read or has the
status already. -/
def loadForUpdate (state : KeyRace) (update : StatusUpdate) : KeyRace :=
  if update.loadFails ∨ state.row.status = update.status then state
  else state.begin (.updateLoaded update)

/-- `CacheGetChannelInfo`, which reads the row when there is no cache. -/
def cacheGetChannelInfo (state : KeyRace) (readFails : Bool) : Option ChannelInfo :=
  if readFails then none else some state.row.channelInfo

/-- `GetNextEnabledKey` under the polling lock, up to its deferred save. A call that does not save
gives the lock back. -/
def takeKey (state : KeyRace) (i : Nat) (readFails : Bool) (random : Nat) : Option KeyRace :=
  match state.calls[i]? with
  | some ⟨.requestLoaded copy, seen⟩ =>
    if state.locked then none
    else
      let current := state.cacheGetChannelInfo readFails
      let next := getNextEnabledKey decodeArray false current random copy
      let call : ChannelCall := ⟨.requestLoaded copy, seen⟩
      if next.saves then
        some { state.setPhase i call (.requestSaving next.channel) with locked := true }
      else some (state.setPhase i call .finished)
  | _ => none

/-- `SaveChannelInfo` of the copy, and the release of the lock. -/
def saveChannelInfo (state : KeyRace) (i : Nat) (fails : Bool) : Option KeyRace :=
  match state.calls[i]? with
  | some ⟨.requestSaving copy, seen⟩ =>
    let row :=
      if fails then state.row else { state.row with channelInfo := copy.channelInfo }
    some { state.setPhase i ⟨.requestSaving copy, seen⟩ .finished with row, locked := false }
  | _ => none

def handleUpdate (state : KeyRace) (i : Nat) : Option KeyRace :=
  match state.calls[i]? with
  | some ⟨.updateLoaded update copy, seen⟩ =>
    if state.locked then none
    else
      some (state.setPhase i ⟨.updateLoaded update copy, seen⟩
        (.updateStoring update (writtenKey decodeArray update copy)
          (updateRow decodeArray update copy)))
  | _ => none

/-- `SaveWithoutKey` of the copy. -/
def storeRow (state : KeyRace) (i : Nat) : Option KeyRace :=
  match state.calls[i]? with
  | some ⟨.updateStoring update written copy, seen⟩ =>
    let next := state.setPhase i ⟨.updateStoring update written copy, seen⟩ .finished
    if copy.id = 0 ∨ update.saveFails then some next
    else
      some { next with
        row := { copy with key := state.row.key, keys := [] }
        disabledKeys := settle update written state.disabledKeys }
  | _ => none

end KeyRace

def keyRaceSystem : System KeyRace KeyRaceAction where
  step state action :=
    match action with
    | .loadForRequest => some (state.begin .requestLoaded)
    | .loadForUpdate update => some (state.loadForUpdate update)
    | .takeKey i readFails random => state.takeKey decodeArray i readFails random
    | .saveChannelInfo i fails => state.saveChannelInfo i fails
    | .handleUpdate i => state.handleUpdate decodeArray i
    | .storeRow i => state.storeRow i

end

/-! ## Disabled keys stay disabled -/

def KeyRace.DisablesKept (state : KeyRace) : Prop :=
  ∀ k ∈ state.disabledKeys, state.row.channelInfo.getStatus k ≠ .enabled

/-- What a copy knows: the keys seen disabled at its load are disabled in it, and an update has
written its own key. -/
def ChannelCall.Ok (call : ChannelCall) : Prop :=
  match call.phase with
  | .requestLoaded copy | .requestSaving copy | .updateLoaded _ copy =>
    ∀ k ∈ call.seen, copy.channelInfo.getStatus k ≠ .enabled
  | .updateStoring update written copy =>
    (∀ k ∈ call.seen, written ≠ some k → copy.channelInfo.getStatus k ≠ .enabled) ∧
      ∀ k, written = some k → copy.channelInfo.getStatus k = update.status
  | .finished => True

/-- A write that loses no disable: every key whose disable was stored since the load of the copy is
disabled in the copy too, but for the key that the update itself writes. -/
def NoLateDisable (state : KeyRace) (action : KeyRaceAction) : Prop :=
  match action with
  | .saveChannelInfo i fails =>
    ∀ copy seen, state.calls[i]? = some ⟨.requestSaving copy, seen⟩ → fails = false →
      ∀ k ∈ state.disabledKeys, k ∉ seen → copy.channelInfo.getStatus k ≠ .enabled
  | .storeRow i =>
    ∀ update written copy seen,
      state.calls[i]? = some ⟨.updateStoring update written copy, seen⟩ →
      copy.id ≠ 0 → update.saveFails = false →
      ∀ k ∈ state.disabledKeys, k ∉ seen → written ≠ some k →
        copy.channelInfo.getStatus k ≠ .enabled
  | _ => True

open KeyRace

section

variable {decodeArray : String → Option (List String)} {state next : KeyRace}

theorem getStatus_updateRow :
    (updateRow decodeArray upd cp).channelInfo.getStatus k =
      if writtenKey decodeArray upd cp = some k then upd.status
      else cp.channelInfo.getStatus k := by
  unfold updateRow writtenKey
  by_cases hmu : cp.channelInfo.isMultiKey = true
  · rw [if_pos hmu]
    by_cases hke : cp.getKeys decodeArray = []
    · simp [hke, handlerMultiKeyUpdate]
    have hha := @getStatus_handle decodeArray upd cp hke k
    rw [StatusUpdate.handle] at hha
    have hwr : cp.channelInfo.isMultiKey = true ∧ cp.getKeys decodeArray ≠ [] := ⟨hmu, hke⟩
    rw [hha]
    simp only [if_pos hwr, Option.some.injEq, @eq_comm _ k]
  · simp [hmu]

theorem ok_begin (hcs : ∀ call ∈ state.calls, call.Ok)
    (hph : ChannelCall.Ok ⟨ph { state.row with keys := [] }, state.disabledKeys⟩) :
    ∀ call ∈ (state.begin ph).calls, call.Ok :=
  forall_mem_append hcs hph

theorem callsOk_step (hke : state.DisablesKept) (hcs : ∀ call ∈ state.calls, call.Ok)
    (hs : (keyRaceSystem decodeArray).step state act = some next) : ∀ call ∈ next.calls,
      call.Ok := by
  cases act with
  | loadForRequest =>
    cases hs
    exact ok_begin hcs hke
  | loadForUpdate upd =>
    cases hs
    unfold loadForUpdate
    split
    · exact hcs
    · exact ok_begin hcs hke
  | takeKey i rf rnd =>
    change takeKey decodeArray state i rf rnd = some next at hs
    unfold takeKey at hs
    split at hs
    next cp sn hc =>
      have hco : ChannelCall.Ok ⟨.requestLoaded cp, sn⟩ := hcs _ (mem_of_getElem? hc)
      dsimp only at hs
      split_ifs at hs
      · cases hs
        refine forall_mem_set hcs ?_
        -- the polling index moves on, the statuses stay
        intro k hk
        rw [getStatus_getNextEnabledKey]
        exact hco k hk
      · cases hs
        exact forall_mem_set hcs trivial
    next => cases hs
  | saveChannelInfo i fl =>
    change saveChannelInfo state i fl = some next at hs
    unfold saveChannelInfo at hs
    split at hs
    next cp sn hc =>
      cases hs
      exact forall_mem_set hcs trivial
    next => cases hs
  | handleUpdate i =>
    change handleUpdate decodeArray state i = some next at hs
    unfold handleUpdate at hs
    split at hs
    next upd cp sn hc =>
      have hco : ChannelCall.Ok ⟨.updateLoaded upd cp, sn⟩ := hcs _ (mem_of_getElem? hc)
      split_ifs at hs
      cases hs
      refine forall_mem_set hcs ⟨?_, ?_⟩
      · intro k hk hot
        rw [getStatus_updateRow, if_neg hot]
        exact hco k hk
      · intro k hwr
        rw [getStatus_updateRow, if_pos hwr]
    next => cases hs
  | storeRow i =>
    change storeRow state i = some next at hs
    unfold storeRow at hs
    split at hs
    next upd wrt cp sn hc =>
      split_ifs at hs <;> cases hs <;> exact forall_mem_set hcs trivial
    next => cases hs

theorem forall_disabled_iff {dk sn : Finset Nat} {prop : Nat → Prop} (hse : ∀ k ∈ sn, prop k) :
    (∀ k ∈ dk, prop k) ↔ ∀ k ∈ dk, k ∉ sn → prop k := by
  constructor
  · intro h k hk _
    exact h k hk
  intro h k hk
  by_cases hm : k ∈ sn
  · exact hse k hm
  · exact h k hk hm

theorem forall_settle_iff {upd : StatusUpdate} {wrt : Option Nat} {cp : KeyedChannel}
    (hwr : ∀ k, wrt = some k → cp.channelInfo.getStatus k = upd.status) :
    (∀ k ∈ settle upd wrt dk, cp.channelInfo.getStatus k ≠ .enabled) ↔
      ∀ k ∈ dk, wrt ≠ some k → cp.channelInfo.getStatus k ≠ .enabled := by
  cases wrt with
  | none => simp [settle]
  | some own =>
    have how := hwr own rfl
    unfold settle
    dsimp only
    split
    next hen =>
      -- the own key is enabled again and no longer has to be disabled
      simp only [Finset.mem_erase, ne_eq, Option.some.injEq, @eq_comm _ own]
      exact ⟨fun h k hk hne => h k ⟨hne, hk⟩, fun h k hk => h k hk.2 hk.1⟩
    next hdi =>
      -- the own key is disabled in the copy
      constructor
      · intro h k hk _
        exact h k (Finset.mem_insert_of_mem hk)
      intro h k hk
      by_cases heq : k = own
      · rw [heq, how]
        exact hdi
      · refine h k ((Finset.mem_insert.mp hk).resolve_left heq) ?_
        exact fun hso => heq (Option.some.inj hso).symm

theorem kept_saveChannelInfo_iff {i : Nat} {fl : Bool} (hke : state.DisablesKept)
    (hcs : ∀ call ∈ state.calls, call.Ok) :
    (∀ next, state.saveChannelInfo i fl = some next → next.DisablesKept) ↔
      NoLateDisable state (.saveChannelInfo i fl) := by
  constructor
  · intro ha cp sn hc hfl k hk _
    subst hfl
    have hx := ha _ (show state.saveChannelInfo i false = some _ by
      rw [saveChannelInfo, hc])
    exact hx k hk
  intro hok next hs
  unfold saveChannelInfo at hs
  split at hs
  next cp sn hc =>
    have hco : ChannelCall.Ok ⟨.requestSaving cp, sn⟩ := hcs _ (mem_of_getElem? hc)
    cases hs
    cases fl with
    | true => exact hke
    | false => exact (forall_disabled_iff hco).mpr (hok cp sn hc rfl)
  next => cases hs

theorem kept_storeRow_iff {i : Nat} (hke : state.DisablesKept)
    (hcs : ∀ call ∈ state.calls, call.Ok) :
    (∀ next, state.storeRow i = some next → next.DisablesKept) ↔
      NoLateDisable state (.storeRow i) := by
  constructor
  · intro ha upd wrt cp sn hc hid hsa k hk _ hot
    obtain ⟨-, hwr⟩ : ChannelCall.Ok ⟨.updateStoring upd wrt cp, sn⟩ := hcs _ (mem_of_getElem? hc)
    have hx := ha _ (show state.storeRow i = some _ by
      rw [storeRow, hc]; exact if_neg (by simp [hid, hsa]))
    exact (forall_settle_iff hwr).mp hx k hk hot
  intro hok next hs
  unfold storeRow at hs
  split at hs
  next upd wrt cp sn hc =>
    obtain ⟨hse, hwr⟩ : ChannelCall.Ok ⟨.updateStoring upd wrt cp, sn⟩ := hcs _ (mem_of_getElem? hc)
    split_ifs at hs with hfails
    · cases hs
      exact hke
    cases hs
    rw [not_or, Bool.not_eq_true] at hfails
    refine (forall_settle_iff hwr).mpr ?_
    refine (forall_disabled_iff hse).mpr ?_
    exact hok upd wrt cp sn hc hfails.1 hfails.2
  next => cases hs

theorem kept_step_iff (hk : state.DisablesKept) (hcs : ∀ call ∈ state.calls, call.Ok) :
    (∀ next, (keyRaceSystem decodeArray).step state act = some next → next.DisablesKept) ↔
      NoLateDisable state act := by
  cases act with
  | loadForRequest =>
    refine iff_of_true ?_ trivial
    rintro next ⟨⟩
    exact hk
  | loadForUpdate upd =>
    refine iff_of_true ?_ trivial
    rintro next ⟨⟩
    unfold loadForUpdate
    split <;> exact hk
  | takeKey i rf rnd =>
    refine iff_of_true ?_ trivial
    intro next hs
    change takeKey decodeArray state i rf rnd = some next at hs
    unfold takeKey at hs
    split at hs
    · dsimp only at hs
      split_ifs at hs <;> cases hs <;> exact hk
    · cases hs
  | saveChannelInfo i fl => exact kept_saveChannelInfo_iff hk hcs
  | handleUpdate i =>
    refine iff_of_true ?_ trivial
    intro next hs
    change handleUpdate decodeArray state i = some next at hs
    unfold handleUpdate at hs
    split at hs
    · split_ifs at hs
      cases hs
      exact hk
    · cases hs
  | storeRow i => exact kept_storeRow_iff hk hcs

/-- Over every interleaving of requests and updates of a channel, every key whose disable was stored
and not taken back is disabled after every statement exactly if no call writes a copy in which a
key is enabled whose disable was stored after the copy was loaded. -/
theorem storedDisables_kept_iff (row : KeyedChannel) (actions : List KeyRaceAction) :
    (keyRaceSystem decodeArray).Guarded (fun state action => ∀ next,
        (keyRaceSystem decodeArray).step state action = some next → next.DisablesKept)
        { row } actions ↔
      (keyRaceSystem decodeArray).Guarded NoLateDisable { row } actions := by
  refine System.guarded_iff _
    (fun state => state.DisablesKept ∧ ∀ call ∈ state.calls, call.Ok) ?_ ?_ ⟨?_, ?_⟩
  · rintro state action ⟨hke, hca⟩
    exact kept_step_iff hke hca
  · rintro state action next ⟨hke, hca⟩ hri hs
    exact ⟨hri next hs, callsOk_step hke hca hs⟩
  · intro k hk
    exact absurd hk (Finset.notMem_empty k)
  · intro call hc
    exact absurd hc not_mem_nil

end

def pollingRow : KeyedChannel where
  id := 1
  models := "m"
  group := "default"
  key := "k1\nk2"
  channelInfo :=
    { isMultiKey := true
      multiKeySize := 2
      multiKeyStatusList := ∅
      multiKeyDisabledReason := ∅
      multiKeyDisabledTime := ∅
      multiKeyPollingIndex := 0
      multiKeyMode := .polling }

def ChannelCall.isFinished (call : ChannelCall) : Bool :=
  match call.phase with
  | .finished => true
  | _ => false

/-- A request loads the row, the first key is disabled by an update that runs to its end, and the
request saves what it has loaded: both calls have finished, the disable was stored, and the key is
enabled. -/
theorem storedDisable_undone :
    ((keyRaceSystem fun _ => none).run { row := pollingRow }
      [.loadForRequest, .loadForUpdate { usingKey := "k1", status := .autoDisabled },
        .handleUpdate 1, .storeRow 1, .takeKey 0 false 0, .saveChannelInfo 0 false]).map
      (fun state => (decide (0 ∈ state.disabledKeys), state.row.channelInfo.getStatus 0,
        state.calls.map ChannelCall.isFinished)) =
      some (true, .enabled, [true, true]) := by
  decide +kernel

end NewApi.Channels
