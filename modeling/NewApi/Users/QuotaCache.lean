import Mathlib.Algebra.Ring.Int.Defs
import NewApi.Lib.Processes
import NewApi.Lib.Transition

/-!
# The user hash in Redis

`GetUserCache` reads the hash of a user or has a job store the row (`model/user_cache.go`); a change
of the quota has a job increment the field `Quota`, if the time to live is positive. The steps
interleave, and the hash may expire. A step keeps the quota that the hash should hold
(`UserCacheState.dueQuota`) exactly under `KeepsHash`.
-/

namespace NewApi.Users

open Lib List

/-! ## Redis -/

/-- The fields of `UserBase` but the quota. -/
structure UserColumns where
  id : Int
  group : String
  email : String
  status : Int
  username : String
  setting : String
  deriving DecidableEq

structure UserBase extends UserColumns where
  quota : Int
  deriving DecidableEq

/-- The hash of a user. One that was made by an increment holds the field `Quota` only. The time to
live is the one that was set last, in seconds. -/
structure UserHash where
  columns : Option UserColumns
  quota : Int
  ttl : Option Nat
  deriving DecidableEq

/-- The transaction of `RedisHSetObj`: `HSET` of all fields, and `EXPIRE` if there is a time. -/
def hsetObj (user : UserBase) (expiration : Int) (hash : Option UserHash) : UserHash where
  columns := some user.toUserColumns
  quota := user.quota
  ttl := if 0 < expiration then some expiration.toNat else hash.bind UserHash.ttl

/-- The transaction of `RedisHIncrBy`: `HINCRBY` makes a hash that is not there, `EXPIRE` sets the
time that was read before. -/
def hincrBy (delta : Int) (ttl : Nat) (hash : Option UserHash) : UserHash where
  columns := hash.bind UserHash.columns
  quota := ((hash.map UserHash.quota).getD 0) + delta
  ttl := some ttl

/-- `TTL` answers -2 without a hash and -1 if it does not expire. Of a time to live `remaining`
seconds are left, and zero in its last half second. -/
def ttlOf (remaining : Nat) (hash : Option UserHash) : Int :=
  match hash with
  | none => -2
  | some hash =>
    match hash.ttl with
    | none => -1
    | some ttl => (min remaining ttl : Nat)

/-! ## The processes -/

/-- How far a call of `GetUserCache` is, with its background job. -/
inductive CacheFill where
  | lookup
  | load
  | store (user : UserBase)
  | done
  deriving DecidableEq

inductive QuotaJob where
  | check
  | increment (ttl : Nat)
  | done
  deriving DecidableEq

/-- A call of `IncreaseUserQuota` or `DecreaseUserQuota`: the statement and the job run in any
order. -/
structure QuotaChange where
  delta : Int
  job : QuotaJob := .check
  updated : Bool := false
  deriving DecidableEq

structure UserCacheState where
  user : UserBase
  hash : Option UserHash := none
  fills : List CacheFill := []
  changes : List QuotaChange := []

/-- The steps: a call starts, a Redis command or a statement of the call at a position runs, or the
hash expires. -/
inductive UserCacheAction where
  | getUserCache
  | increaseUserQuota (quota : Int)
  | decreaseUserQuota (quota : Int)
  | lookup (i : Nat)
  | load (i : Nat)
  | store (i : Nat)
  | updateRow (i : Nat)
  | readTtl (i : Nat) (remaining : Nat)
  | increment (i : Nat)
  | expire

namespace UserCacheState

def startChange (state : UserCacheState) (quota delta : Int) : Option UserCacheState :=
  if quota < 0 then none else some { state with changes := state.changes ++ [{ delta }] }

/-- `cacheGetUserBase`: any field makes a hit. -/
def lookup (state : UserCacheState) (i : Nat) : Option UserCacheState :=
  match state.fills[i]? with
  | some .lookup =>
    some { state with
      fills := state.fills.set i (if state.hash.isSome then .done else .load) }
  | _ => none

/-- `GetUserById`. -/
def load (state : UserCacheState) (i : Nat) : Option UserCacheState :=
  match state.fills[i]? with
  | some .load => some { state with fills := state.fills.set i (.store state.user) }
  | _ => none

/-- `updateUserCache` with `RedisKeyCacheSeconds`. -/
def store (cacheSeconds : Int) (state : UserCacheState) (i : Nat) : Option UserCacheState :=
  match state.fills[i]? with
  | some (.store user) =>
    some { state with
      hash := some (hsetObj user cacheSeconds state.hash), fills := state.fills.set i .done }
  | _ => none

/-- `increaseUserQuota` and `decreaseUserQuota`. -/
def updateRow (state : UserCacheState) (i : Nat) : Option UserCacheState :=
  match state.changes[i]? with
  | some ⟨delta, job, false⟩ =>
    some { state with
      user := { state.user with quota := state.user.quota + delta }
      changes := state.changes.set i ⟨delta, job, true⟩ }
  | _ => none

/-- The first command of `RedisHIncrBy`. -/
def readTtl (state : UserCacheState) (i remaining : Nat) : Option UserCacheState :=
  match state.changes[i]? with
  | some ⟨delta, .check, updated⟩ =>
    let ttl := ttlOf remaining state.hash
    let job := if 0 < ttl then .increment ttl.toNat else .done
    some { state with changes := state.changes.set i ⟨delta, job, updated⟩ }
  | _ => none

/-- The transaction of `RedisHIncrBy`. -/
def increment (state : UserCacheState) (i : Nat) : Option UserCacheState :=
  match state.changes[i]? with
  | some ⟨delta, .increment ttl, updated⟩ =>
    some { state with
      hash := some (hincrBy delta ttl state.hash)
      changes := state.changes.set i ⟨delta, .done, updated⟩ }
  | _ => none

def expire (state : UserCacheState) : Option UserCacheState :=
  if (state.hash.bind UserHash.ttl).isSome then some { state with hash := none } else none

/-- One step; `none` if the process is not at this point. -/
def step (cacheSeconds : Int) (state : UserCacheState) : UserCacheAction → Option UserCacheState
  | .getUserCache => some { state with fills := state.fills ++ [.lookup] }
  | .increaseUserQuota quota => state.startChange quota quota
  | .decreaseUserQuota quota => state.startChange quota (-quota)
  | .lookup i => state.lookup i
  | .load i => state.load i
  | .store i => state.store cacheSeconds i
  | .updateRow i => state.updateRow i
  | .readTtl i remaining => state.readTtl i remaining
  | .increment i => state.increment i
  | .expire => state.expire

def Quiet (state : UserCacheState) : Prop :=
  (∀ fill ∈ state.fills, fill = .done) ∧
    ∀ change ∈ state.changes, change.job = .done ∧ change.updated = true
  deriving Decidable

/-- A hash is complete, has a time to live and, if nothing is in flight, the quota of the row. -/
structure Coherent (state : UserCacheState) : Prop where
  complete : ∀ hash, state.hash = some hash → hash.columns.isSome
  expires : ∀ hash, state.hash = some hash → hash.ttl.isSome
  fresh : state.Quiet → ∀ hash, state.hash = some hash → hash.quota = state.user.quota

end UserCacheState

def userCacheSystem (cacheSeconds : Int) : System UserCacheState UserCacheAction where
  step := UserCacheState.step cacheSeconds

/-! ## The quota that the hash should hold -/

def QuotaChange.rowDue (change : QuotaChange) : Int :=
  if change.updated then 0 else change.delta

def QuotaChange.jobDue (change : QuotaChange) : Int :=
  if change.job = .done then 0 else change.delta

variable {i : Nat}

namespace UserCacheState

def dueQuota (state : UserCacheState) : Int :=
  state.user.quota + (state.changes.map QuotaChange.rowDue).sum -
    (state.changes.map QuotaChange.jobDue).sum

def Sound (state : UserCacheState) : Prop :=
  ∀ hash, state.hash = some hash →
    hash.columns.isSome ∧ hash.ttl.isSome ∧ hash.quota = state.dueQuota

open QuotaChange

theorem dueQuota_of_quiet {state : UserCacheState} (hqu : state.Quiet) :
    state.dueQuota = state.user.quota := by
  have hro : (state.changes.map rowDue).sum = 0 := by
    refine sum_eq_zero fun due hdu => ?_
    obtain ⟨change, hm, rfl⟩ := mem_map.mp hdu
    exact if_pos (hqu.2 change hm).2
  have hjo : (state.changes.map jobDue).sum = 0 := by
    refine sum_eq_zero fun due hdu => ?_
    obtain ⟨change, hm, rfl⟩ := mem_map.mp hdu
    exact if_pos (hqu.2 change hm).1
  unfold dueQuota
  omega

theorem Sound.coherent {state : UserCacheState} (hso : state.Sound) : state.Coherent where
  complete hash hhash := (hso hash hhash).1
  expires hash hhash := (hso hash hhash).2.1
  fresh hquiet hash hhash := (hso hash hhash).2.2.trans (dueQuota_of_quiet hquiet)

theorem sound_congr {state next : UserCacheState} (hha : next.hash = state.hash)
    (hdu : next.dueQuota = state.dueQuota) : next.Sound ↔ state.Sound := by
  unfold Sound
  rw [hha, hdu]

theorem sound_some_iff {state : UserCacheState} {has : UserHash} (hha : state.hash = some has) :
    state.Sound ↔ has.columns.isSome ∧ has.ttl.isSome ∧ has.quota = state.dueQuota := by
  unfold Sound
  rw [hha]
  constructor
  · exact fun ha => ha has rfl
  · rintro hri other heq
    cases heq
    exact hri

theorem dueQuota_set {state : UserCacheState} {old : QuotaChange}
    (ho : state.changes[i]? = some old) (new : QuotaChange) (user : UserBase)
    (hash : Option UserHash) :
    ({ state with user, hash, changes := state.changes.set i new } : UserCacheState).dueQuota =
      state.dueQuota + (user.quota - state.user.quota) + (new.rowDue - old.rowDue) -
        (new.jobDue - old.jobDue) := by
  have hro := Processes.sum_map_set rowDue ho new
  have hjo := Processes.sum_map_set jobDue ho new
  unfold dueQuota
  dsimp only
  omega

/-- The condition under which a step keeps the hash. A row is stored with a time to live and the
quota that is due, the time to live of a hash is not read as zero, and only a hash that is there is
incremented. -/
def KeepsHash (cacheSeconds : Int) (state : UserCacheState) : UserCacheAction → Prop
  | .store i =>
    ∀ user, state.fills[i]? = some (.store user) →
      (0 < cacheSeconds ∨ state.hash.isSome) ∧ user.quota = state.dueQuota
  | .readTtl i remaining =>
    ∀ change, state.changes[i]? = some change → state.hash.isSome →
      0 < ttlOf remaining state.hash ∨ change.delta = 0
  | .increment _ => state.hash.isSome
  | _ => True

instance (cacheSeconds : Int) (state : UserCacheState) (action : UserCacheAction) :
    Decidable (state.KeepsHash cacheSeconds action) := by
  delta KeepsHash
  split
  next i =>
    rcases state.fills[i]? with _ | (_ | _ | user | _)
    case some.store =>
      exact decidable_of_iff _ ⟨fun h _ heq => by cases heq; exact h, fun h => h user rfl⟩
    all_goals exact isTrue nofun
  all_goals infer_instance

variable {cacheSeconds : Int} {state next : UserCacheState}

theorem sound_startChange_iff {q delta : Int} (h : state.startChange q delta = some next) :
    next.Sound ↔ state.Sound := by
  unfold startChange at h
  split at h
  · cases h
  cases h
  refine sound_congr rfl ?_
  have hro : ({ delta } : QuotaChange).rowDue = delta := rfl
  have hjo : ({ delta } : QuotaChange).jobDue = delta := rfl
  simp only [dueQuota, map_append, sum_append, map_singleton, sum_singleton, hro, hjo]
  omega

theorem sound_lookup_iff (h : state.lookup i = some next) : next.Sound ↔ state.Sound := by
  unfold lookup at h
  split at h
  · cases h
    exact sound_congr rfl rfl
  · cases h

theorem sound_load_iff (h : state.load i = some next) : next.Sound ↔ state.Sound := by
  unfold load at h
  split at h
  · cases h
    exact sound_congr rfl rfl
  · cases h

theorem sound_updateRow_iff (h : state.updateRow i = some next) : next.Sound ↔ state.Sound := by
  unfold updateRow at h
  split at h
  next d job ho =>
    cases h
    refine sound_congr rfl ?_
    rw [dueQuota_set ho]
    simp [rowDue, jobDue]
  next => cases h

theorem sound_store_iff (h : state.store cacheSeconds i = some next) (hso : state.Sound) :
    next.Sound ↔ state.KeepsHash cacheSeconds (.store i) := by
  unfold store at h
  split at h
  next user hfi =>
    cases h
    have htt : (hsetObj user cacheSeconds state.hash).ttl.isSome ↔
        0 < cacheSeconds ∨ state.hash.isSome := by
      by_cases hp : 0 < cacheSeconds
      · simp [hsetObj, hp]
      · cases hha : state.hash with
        | none => simp [hsetObj, hp]
        | some has => simpa [hsetObj, hp] using (hso has hha).2.1
    rw [sound_some_iff rfl, htt]
    constructor
    · rintro ⟨-, hex, hq⟩ other hot
      cases Option.some.inj (hfi.symm.trans hot)
      exact ⟨hex, hq⟩
    · intro hke
      exact ⟨rfl, hke user hfi⟩
  next => cases h

theorem readTtl_eq_some {rem : Nat} (h : state.readTtl i rem = some next) :
    ∃ change, state.changes[i]? = some change ∧ next.hash = state.hash ∧
      next.dueQuota = state.dueQuota + if 0 < ttlOf rem state.hash then 0 else change.delta := by
  unfold readTtl at h
  split at h
  next d ud ho =>
    cases h
    refine ⟨_, ho, rfl, ?_⟩
    rw [dueQuota_set ho]
    by_cases htt : 0 < ttlOf rem state.hash
    · simp [rowDue, jobDue, htt]
    · simp [rowDue, jobDue, htt]
  next => cases h

theorem sound_readTtl_iff {rem : Nat} (h : state.readTtl i rem = some next) (hsu : state.Sound) :
    next.Sound ↔ state.KeepsHash cacheSeconds (.readTtl i rem) := by
  obtain ⟨change, hch, hha, hdu⟩ := readTtl_eq_some h
  have hke : state.KeepsHash cacheSeconds (.readTtl i rem) ↔
      (state.hash.isSome → 0 < ttlOf rem state.hash ∨ change.delta = 0) := by
    constructor
    · exact fun hke => hke change hch
    · intro hke other hot
      cases Option.some.inj (hch.symm.trans hot)
      exact hke
  rw [hke]
  cases hst : state.hash with
  | none =>
    rw [hst] at hha
    refine iff_of_true (fun has hso => ?_) fun hso => absurd hso Bool.false_ne_true
    cases hha.symm.trans hso
  | some has =>
    rw [hst] at hha hdu
    obtain ⟨hco, htt, hq⟩ := hsu has hst
    rw [sound_some_iff hha, hdu, hq]
    by_cases hp : 0 < ttlOf rem (some has)
    · simp [hco, htt, hp]
    · simp [hco, htt, hp]

theorem sound_increment_iff (h : state.increment i = some next) (hso : state.Sound) :
    next.Sound ↔ state.KeepsHash cacheSeconds (.increment i) := by
  unfold increment at h
  split at h
  next d ttl ud ho =>
    cases h
    show _ ↔ state.hash.isSome
    rw [sound_some_iff rfl, dueQuota_set ho]
    cases hha : state.hash with
    | none => simp [hincrBy]
    | some has =>
      obtain ⟨hco, -, hq⟩ := hso has hha
      simp [hincrBy, hco, hq, rowDue, jobDue]
  next => cases h

theorem sound_iff_keepsHash {act : UserCacheAction} (h : state.step cacheSeconds act = some next)
    (hso : state.Sound) : next.Sound ↔ state.KeepsHash cacheSeconds act := by
  have hk : (next.Sound ↔ state.Sound) → (next.Sound ↔ True) :=
    fun hs => hs.trans (iff_true_intro hso)
  cases act with
  | getUserCache =>
    cases h
    exact hk (sound_congr rfl rfl)
  | increaseUserQuota | decreaseUserQuota => exact hk (sound_startChange_iff h)
  | lookup i => exact hk (sound_lookup_iff h)
  | load i => exact hk (sound_load_iff h)
  | store i => exact sound_store_iff h hso
  | updateRow i => exact hk (sound_updateRow_iff h)
  | readTtl i rem => exact sound_readTtl_iff h hso
  | increment i => exact sound_increment_iff h hso
  | expire =>
    change state.expire = some next at h
    unfold expire at h
    split at h
    · cases h
      exact iff_of_true (fun has hsm => by cases hsm) trivial
    · cases h

end UserCacheState

/-! ## Interleavings -/

section

variable (cacheSeconds : Int)

def LeadsTo (property : UserCacheState → Prop) (state : UserCacheState)
    (action : UserCacheAction) : Prop :=
  ∀ next, state.step cacheSeconds action = some next → property next

def KeepsStep (state : UserCacheState) (action : UserCacheAction) : Prop :=
  (state.step cacheSeconds action).isSome → state.KeepsHash cacheSeconds action
  deriving Decidable

variable {cacheSeconds} {state : UserCacheState}

theorem leadsTo_sound_iff (hso : state.Sound) :
    LeadsTo cacheSeconds UserCacheState.Sound state act ↔ KeepsStep cacheSeconds state act := by
  unfold LeadsTo KeepsStep
  cases hs : state.step cacheSeconds act with
  | none => simp
  | some next =>
    rw [← UserCacheState.sound_iff_keepsHash hs hso]
    simp

theorem guarded_sound_iff (hso : state.Sound) :
    (userCacheSystem cacheSeconds).Guarded (LeadsTo cacheSeconds UserCacheState.Sound) state
        acts ↔
      (userCacheSystem cacheSeconds).Guarded (KeepsStep cacheSeconds) state acts := by
  refine System.guarded_iff _ UserCacheState.Sound ?_ ?_ hso
  · intro state act hso
    exact leadsTo_sound_iff hso
  · intro state act next _ hle hs
    exact hle next hs

/-- Over every interleaving whose steps meet their conditions, a hash is always complete, has a time
to live and, whenever nothing is in flight, the quota of the row. -/
theorem user_cache_coherent (hsound : state.Sound) {actions : List UserCacheAction}
    (hkeeps : (userCacheSystem cacheSeconds).Guarded (KeepsStep cacheSeconds) state actions) :
    (userCacheSystem cacheSeconds).Guarded (LeadsTo cacheSeconds UserCacheState.Coherent) state
      actions :=
  ((guarded_sound_iff hsound).mpr hkeeps).mono
    fun _ _ hle next hs => (hle next hs).coherent

end

def userOf (quota : Int) : UserBase where
  id := 1
  group := "default"
  email := ""
  status := 1
  username := "user"
  setting := ""
  quota := quota

def settled (actions : List UserCacheAction) : Option (Int × Option UserHash) :=
  ((userCacheSystem 60).run { user := userOf 100 } actions).bind fun final =>
    if final.Quiet then some (final.user.quota, final.hash) else none

theorem not_coherent_of_settled
    (h : settled acts = some (q, some has)) (hwr : has.columns = none ∨ has.quota ≠ q) :
    ∃ fin, (userCacheSystem 60).run { user := userOf 100 } acts = some fin ∧ ¬fin.Coherent := by
  obtain ⟨fin, hr, hfi⟩ := Option.bind_eq_some_iff.mp h
  refine ⟨fin, hr, fun hch => ?_⟩
  split at hfi
  next hqu =>
    obtain ⟨hq, hha⟩ := Prod.mk.inj (Option.some.inj hfi)
    rcases hwr with hcl | hne
    · have hco := hch.complete has hha
      rw [hcl] at hco
      cases hco
    · exact hne ((hch.fresh hqu has hha).trans hq)
  next => cases hfi

/-- A row is loaded, the quota grows by 5 and finds no hash, and the old row is stored. In a second
run the hash expires between the two commands of a job, which leaves a hash with the field `Quota`
only; in a third the loaded row has the change already, and the job adds it again. -/
theorem stale_row_stored :
    (∃ final, (userCacheSystem 60).run { user := userOf 100 }
      [.getUserCache, .lookup 0, .load 0, .increaseUserQuota 5, .readTtl 0 0, .updateRow 0,
        .store 0] = some final ∧ ¬final.Coherent) ∧
      settled [.getUserCache, .lookup 0, .load 0, .increaseUserQuota 5, .readTtl 0 0, .updateRow 0,
        .store 0] = some (105, some ⟨some (userOf 100).toUserColumns, 100, some 60⟩) ∧
      settled [.getUserCache, .lookup 0, .load 0, .store 0, .increaseUserQuota 5, .updateRow 0,
        .readTtl 0 60, .expire, .increment 0] = some (105, some ⟨none, 5, some 60⟩) ∧
      settled [.getUserCache, .lookup 0, .increaseUserQuota 5, .updateRow 0, .load 0, .store 0,
        .readTtl 0 60, .increment 0] =
          some (105, some ⟨some (userOf 100).toUserColumns, 110, some 60⟩) := by
  have hst : settled [.getUserCache, .lookup 0, .load 0, .increaseUserQuota 5, .readTtl 0 0,
      .updateRow 0, .store 0] =
        some (105, some ⟨some (userOf 100).toUserColumns, 100, some 60⟩) := by decide +kernel
  refine ⟨not_coherent_of_settled hst (.inr (by decide)), hst, ?_, ?_⟩
  · decide +kernel
  · decide +kernel

/-- A row is loaded while nothing changes and stored before two overlapping changes, whose steps
interleave. -/
theorem overlapping_changes_coherent :
    (userCacheSystem 60).Guarded (LeadsTo 60 UserCacheState.Coherent) { user := userOf 100 }
      [.getUserCache, .lookup 0, .load 0, .store 0, .increaseUserQuota 5, .decreaseUserQuota 7,
        .readTtl 1 50, .updateRow 0, .readTtl 0 49, .increment 0, .updateRow 1, .increment 1] := by
  have hso : UserCacheState.Sound { user := userOf 100 } := fun has hsm => by cases hsm
  refine user_cache_coherent hso ?_
  decide +kernel

end NewApi.Users
