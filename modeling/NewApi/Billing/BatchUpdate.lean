import Mathlib.Algebra.BigOperators.Group.List.Basic
import Mathlib.Data.Finmap
import Mathlib.Logic.Function.Basic
import NewApi.Lib.Int64
import NewApi.Lib.Transition

/-!
# The batch updater

With batch updates a change of a quota is added to the map of its type, and a goroutine takes the
maps away and writes their entries (`model/utils.go`). `batchUpdate_balanced_iff`: row, map and the
entry being written make up the initial value and all deltas as long as no addition overflows.
-/

namespace NewApi.Billing

open Lib Option

/-! ## The tables -/

/-- The `BatchUpdateType` constants. -/
inductive BatchType where
  | userQuota
  | tokenQuota
  | usedQuota
  | channelUsedQuota
  | requestCount
  deriving DecidableEq

def batchTypes : List BatchType :=
  [.userQuota, .tokenQuota, .usedQuota, .channelUsedQuota, .requestCount]

structure UserQuotas where
  quota : Int
  usedQuota : Int
  requestCount : Int

structure TokenQuotas where
  remainQuota : Int
  usedQuota : Int

/-- The rows by id; a channel has one column that counts. -/
structure QuotaTables where
  users : Int → Option UserQuotas
  tokens : Int → Option TokenQuotas
  channels : Int → Option Int

structure Delta where
  type : BatchType
  id : Int
  value : Int

def Delta.amount (delta : Delta) (type : BatchType) (id : Int) : Int :=
  if delta.type = type ∧ delta.id = id then delta.value else 0

def modifyRow {Row : Type} (rows : Int → Option Row) (id : Int) (change : Row → Row) :
    Int → Option Row :=
  Function.update rows id ((rows id).map change)

/-- The statement that writes a delta: `increaseUserQuota`, `increaseTokenQuota`,
`updateUserUsedQuota`, `updateChannelUsedQuota` or `updateUserRequestCount`. -/
def QuotaTables.apply (tables : QuotaTables) (delta : Delta) : QuotaTables :=
  let value := delta.value
  match delta.type with
  | .userQuota =>
    let change := fun row : UserQuotas => { row with quota := row.quota + value }
    { tables with users := modifyRow tables.users delta.id change }
  | .tokenQuota =>
    let change := fun row : TokenQuotas =>
      { remainQuota := row.remainQuota + value, usedQuota := row.usedQuota - value }
    { tables with tokens := modifyRow tables.tokens delta.id change }
  | .usedQuota =>
    let change := fun row : UserQuotas => { row with usedQuota := row.usedQuota + value }
    { tables with users := modifyRow tables.users delta.id change }
  | .channelUsedQuota =>
    { tables with channels := modifyRow tables.channels delta.id (· + value) }
  | .requestCount =>
    let change := fun row : UserQuotas => { row with requestCount := row.requestCount + value }
    { tables with users := modifyRow tables.users delta.id change }

def QuotaTables.value (tables : QuotaTables) (type : BatchType) (id : Int) : Option Int :=
  match type with
  | .userQuota => (tables.users id).map UserQuotas.quota
  | .tokenQuota => (tables.tokens id).map TokenQuotas.remainQuota
  | .usedQuota => (tables.users id).map UserQuotas.usedQuota
  | .channelUsedQuota => tables.channels id
  | .requestCount => (tables.users id).map UserQuotas.requestCount

def QuotaTables.tokenTotal (tables : QuotaTables) (id : Int) : Option Int :=
  (tables.tokens id).map fun row => row.remainQuota + row.usedQuota

/-! ## The calls -/

/-- The calls that change a quota. `UpdateUserUsedQuotaAndRequestCount` adds two records one after
the other, which are two steps here. -/
inductive QuotaUpdate where
  | increaseUserQuota (id quota : Int) (db : Bool)
  | decreaseUserQuota (id quota : Int) (db : Bool)
  | increaseTokenQuota (id quota : Int)
  | decreaseTokenQuota (id quota : Int)
  | updateUserUsedQuota (id quota : Int)
  | updateUserRequestCount (id : Int)
  | updateChannelUsedQuota (id quota : Int)

def checkQuota (quota : Int) (delta : Delta) : Except String Delta :=
  if quota < 0 then .error "quota 不能为负数！" else .ok delta

namespace QuotaUpdate

def delta : QuotaUpdate → Except String Delta
  | increaseUserQuota id quota _ => checkQuota quota ⟨.userQuota, id, quota⟩
  | decreaseUserQuota id quota _ => checkQuota quota ⟨.userQuota, id, -quota⟩
  | increaseTokenQuota id quota => checkQuota quota ⟨.tokenQuota, id, quota⟩
  | decreaseTokenQuota id quota => checkQuota quota ⟨.tokenQuota, id, -quota⟩
  | updateUserUsedQuota id quota => .ok ⟨.usedQuota, id, quota⟩
  | updateUserRequestCount id => .ok ⟨.requestCount, id, 1⟩
  | updateChannelUsedQuota id quota => .ok ⟨.channelUsedQuota, id, quota⟩

def direct : QuotaUpdate → Bool
  | increaseUserQuota _ _ db | decreaseUserQuota _ _ db => db
  | _ => false

end QuotaUpdate

/-! ## The updater -/

/-- `map[int]int`. -/
abbrev RecordMap : Type := Finmap fun _ : Int => Int

def RecordMap.amount (records : RecordMap) (id : Int) : Int :=
  (Finmap.lookup id records).getD 0

def RecordMap.add (records : RecordMap) (id value : Int) : RecordMap :=
  match Finmap.lookup id records with
  | none => Finmap.insert id value records
  | some old => Finmap.insert id (Int64.wrap (old + value)) records

/-- Where the updater is in `batchUpdate`. -/
inductive FlushPhase where
  | idle
  | checking (rest : List BatchType)
  | swapping (rest : List BatchType)
  | writing (type : BatchType) (store : RecordMap) (rest : List BatchType)

/-- The database, `batchUpdateStores`, the updater, and the deltas issued so far. -/
structure BatchState where
  tables : QuotaTables
  stores : BatchType → RecordMap := fun _ => ∅
  flush : FlushPhase := .idle
  issued : List Delta := []

/-- A call, or a step of the updater: it wakes up, looks at a map, takes a map away, writes one
entry of it, in any order, or is done with the map. -/
inductive BatchAction where
  | call (update : QuotaUpdate)
  | wake
  | check
  | swap
  | write (id : Int)
  | written

namespace BatchState

/-- `addNewRecord`, under the lock of the type. -/
def addNewRecord (state : BatchState) (delta : Delta) : BatchState :=
  { state with
    stores := Function.update state.stores delta.type
      ((state.stores delta.type).add delta.id delta.value) }

def call (state : BatchState) (update : QuotaUpdate) : BatchState :=
  match update.delta with
  | .error _ => state
  | .ok delta =>
    let next :=
      if update.direct then { state with tables := state.tables.apply delta }
      else state.addNewRecord delta
    { next with issued := state.issued ++ [delta] }

/-- Look at one map under its lock; `batchUpdate` goes on with the first that has data. -/
def check (state : BatchState) : Option BatchState :=
  match state.flush with
  | .checking [] => some { state with flush := .idle }
  | .checking (type :: rest) =>
    if (state.stores type).keys.card = 0 then some { state with flush := .checking rest }
    else some { state with flush := .swapping batchTypes }
  | _ => none

def swap (state : BatchState) : Option BatchState :=
  match state.flush with
  | .swapping [] => some { state with flush := .idle }
  | .swapping (type :: rest) =>
    some { state with
      stores := Function.update state.stores type ∅
      flush := .writing type (state.stores type) rest }
  | _ => none

def write (state : BatchState) (id : Int) : Option BatchState :=
  match state.flush with
  | .writing type store rest =>
    match store.lookup id with
    | none => none
    | some value =>
      some { state with
        tables := state.tables.apply ⟨type, id, value⟩
        flush := .writing type (store.erase id) rest }
  | _ => none

def written (state : BatchState) : Option BatchState :=
  match state.flush with
  | .writing _ store rest =>
    if store.keys.card = 0 then some { state with flush := .swapping rest } else none
  | _ => none

end BatchState

def batchSystem : System BatchState BatchAction where
  step state action :=
    match action with
    | .call update => some (state.call update)
    | .wake =>
      match state.flush with
      | .idle => some { state with flush := .checking batchTypes }
      | _ => none
    | .check => state.check
    | .swap => state.swap
    | .write id => state.write id
    | .written => state.written

/-! ## Balances -/

def FlushPhase.amount (phase : FlushPhase) (type : BatchType) (id : Int) : Int :=
  match phase with
  | .writing current store _ => if type = current then store.amount id else 0
  | _ => 0

/-- The pending delta of an id: in the map, and taken from it but not written yet. -/
def BatchState.pending (state : BatchState) (type : BatchType) (id : Int) : Int :=
  (state.stores type).amount id + state.flush.amount type id

def issuedAmount (issued : List Delta) (type : BatchType) (id : Int) : Int :=
  ((issued.filter fun delta => delta.type = type ∧ delta.id = id).map Delta.value).sum

/-- For every id with a row, the stored value and the pending delta make up the initial value and
all deltas issued. -/
def BatchState.Balanced (start : QuotaTables) (state : BatchState) : Prop :=
  ∀ type id, (state.tables.value type id).map (· + state.pending type id) =
    (start.value type id).map (· + issuedAmount state.issued type id)

def RecordMap.Fits (records : RecordMap) (id value : Int) : Prop :=
  ∀ old, Finmap.lookup id records = some old → Int64.InRange (old + value)

def NoOverflow (state : BatchState) (action : BatchAction) : Prop :=
  match action with
  | .call update =>
    ∀ delta, update.delta = .ok delta → update.direct = false →
      (state.tables.value delta.type delta.id).isSome →
      (state.stores delta.type).Fits delta.id delta.value
  | _ => True

open QuotaTables

theorem value_apply (tbl : QuotaTables) (d : Delta) (type : BatchType) (id : Int) :
    (tbl.apply d).value type id = (tbl.value type id).map (· + d.amount type id) := by
  obtain ⟨written, key, amount⟩ := d
  by_cases hid : key = id
  · subst hid
    cases written <;> cases type <;> simp [apply, value, modifyRow, Delta.amount, Function.comp_def]
  have hot : id ≠ key := Ne.symm hid
  cases written <;> cases type <;>
    simp [apply, value, modifyRow, Delta.amount, hid, hot, Function.comp_def]

theorem tokenTotal_apply (tbl : QuotaTables) (id : Int) :
    (tbl.apply d).tokenTotal id = tbl.tokenTotal id := by
  obtain ⟨written, key, amount⟩ := d
  cases written with
  | tokenQuota =>
    by_cases hid : id = key
    · subst hid
      cases hr : tbl.tokens id with
      | none => simp [apply, tokenTotal, modifyRow, hr]
      | some row =>
        simp only [apply, tokenTotal, modifyRow, hr,
          Function.update_self, map_some, Option.some.injEq]
        omega
    · simp [apply, tokenTotal, modifyRow, hid]
  | userQuota | usedQuota | channelUsedQuota | requestCount => rfl

@[simp]
theorem issuedAmount_append (type : BatchType) (id : Int) :
    issuedAmount (iss ++ [d]) type id = issuedAmount iss type id + d.amount type id := by
  unfold issuedAmount Delta.amount
  by_cases h : d.type = type ∧ d.id = id
  · simp [h]
  · simp [h]

namespace RecordMap

@[simp]
theorem amount_empty (id : Int) : RecordMap.amount ∅ id = 0 := rfl

theorem amount_add_of_ne (rcs : RecordMap) {id key : Int} (h : id ≠ key) :
    (rcs.add key va).amount id = rcs.amount id := by
  unfold add amount
  cases Finmap.lookup key rcs <;> simp [Finmap.lookup_insert_of_ne _ h]

theorem amount_add_self_iff (rcs : RecordMap) (id : Int) :
    (rcs.add id va).amount id = rcs.amount id + va ↔ rcs.Fits id va := by
  unfold add amount Fits
  cases hlo : Finmap.lookup id rcs with
  | none => simp
  | some old => simp [Int64.wrap_eq_self_iff]

theorem amount_erase (rcs : RecordMap) (id : Int) :
    RecordMap.amount (Finmap.erase key rcs) id =
      if id = key then 0 else rcs.amount id := by
  unfold amount
  by_cases h : id = key
  · subst h
    simp
  · simp [h, Finmap.lookup_erase_ne h]

theorem amount_of_card_eq_zero {rcs : RecordMap} (h : rcs.keys.card = 0) (id : Int) :
    rcs.amount id = 0 := by
  have hn : Finmap.lookup id rcs = none := by
    rw [Finmap.lookup_eq_none, ← Finmap.mem_keys, Finset.card_eq_zero.mp h]
    exact Finset.notMem_empty id
  rw [amount, hn]
  rfl

end RecordMap

open BatchState

open FlushPhase

section

variable {state next : BatchState}

theorem balanced_iff_changes (hba : state.Balanced s0) (std pend iss : BatchType → Int → Int)
    (hst : ∀ type id, next.tables.value type id =
      (state.tables.value type id).map (· + std type id))
    (hpe : ∀ type id, next.pending type id = state.pending type id + pend type id)
    (his : ∀ type id, issuedAmount next.issued type id =
      issuedAmount state.issued type id + iss type id) :
    next.Balanced s0 ↔ ∀ type id, (state.tables.value type id).isSome →
      std type id + pend type id = iss type id := by
  refine forall₂_congr fun type id => ?_
  have ho := hba type id
  rw [hst, hpe, his]
  cases hva : state.tables.value type id with
  | none =>
    rw [hva, map_none] at ho
    simp [map_eq_none_iff.mp ho.symm]
  | some va =>
    rw [hva, map_some] at ho
    obtain ⟨initial, hin, hsu⟩ := map_eq_some_iff.mp ho.symm
    simp only [hin, map_some, Option.some.injEq, isSome_some, true_imp_iff]
    omega

theorem balanced_of_eq (hba : state.Balanced s0) (htb : next.tables = state.tables)
    (hpe : ∀ type id, next.pending type id = state.pending type id)
    (his : next.issued = state.issued) : next.Balanced s0 := by
  intro type id
  rw [htb, hpe, his]
  exact hba type id

theorem pending_addNewRecord_iff :
    (∀ type id, (state.tables.value type id).isSome →
        ((state.addNewRecord d).stores type).amount id - (state.stores type).amount id =
          d.amount type id) ↔
      ((state.tables.value d.type d.id).isSome → (state.stores d.type).Fits d.id d.value) := by
  have hse : ((state.addNewRecord d).stores d.type) =
      (state.stores d.type).add d.id d.value := Function.update_self ..
  constructor
  · intro ha hr
    have how := ha d.type d.id hr
    rw [hse, Delta.amount, if_pos ⟨rfl, rfl⟩] at how
    exact (RecordMap.amount_add_self_iff ..).mp (by omega)
  intro hfi type id hr
  unfold Delta.amount
  by_cases ht : d.type = type
  · subst ht
    rw [hse]
    by_cases hid : d.id = id
    · subst hid
      have had := (RecordMap.amount_add_self_iff ..).mpr (hfi hr)
      rw [if_pos ⟨rfl, rfl⟩]
      omega
    · rw [RecordMap.amount_add_of_ne _ (Ne.symm hid), if_neg (fun h => hid h.2)]
      omega
  · have hot : (state.addNewRecord d).stores type = state.stores type :=
      Function.update_of_ne (Ne.symm ht) ..
    rw [hot, if_neg (fun h => ht h.1)]
    omega

theorem balanced_call_iff (hba : state.Balanced s0) :
    (state.call upd).Balanced s0 ↔ NoOverflow state (.call upd) := by
  cases hd : upd.delta with
  | error message =>
    have hc : state.call upd = state := by rw [call, hd]
    rw [hc]
    exact iff_of_true hba (by simp [NoOverflow, hd])
  | ok d =>
    cases hdi : upd.direct with
    | true =>
      have hc : state.call upd =
          { state with
            tables := state.tables.apply d
            issued := state.issued ++ [d] } := by
        simp [call, hd, hdi]
      rw [hc]
      refine iff_of_true ?_ (by simp [NoOverflow, hdi])
      refine (balanced_iff_changes hba d.amount (fun _ _ => 0) d.amount
        ?_ ?_ (issuedAmount_append)).mpr ?_
      · exact value_apply state.tables d
      · intro type id
        exact (add_zero _).symm
      · intro type id _
        exact add_zero _
    | false =>
      have hc : state.call upd =
          { state.addNewRecord d with issued := state.issued ++ [d] } := by
        simp [call, hd, hdi]
      have hov : NoOverflow state (.call upd) ↔
          ((state.tables.value d.type d.id).isSome → (state.stores d.type).Fits d.id d.value) := by
        simp [NoOverflow, hd, hdi]
      rw [hc, hov, ← pending_addNewRecord_iff]
      refine (balanced_iff_changes hba (fun _ _ => 0)
        (fun type id =>
          ((state.addNewRecord d).stores type).amount id - (state.stores type).amount id)
        d.amount ?_ ?_ (issuedAmount_append)).trans ?_
      · intro type id
        simp [addNewRecord]
      · intro type id
        show ((state.addNewRecord d).stores type).amount id + state.flush.amount type id = _
        unfold pending
        omega
      · simp

theorem pending_swap (hs : state.swap = some next) (type : BatchType) (id : Int) :
    next.pending type id = state.pending type id := by
  unfold swap at hs
  split at hs
  next hfl =>
    cases hs
    simp [pending, amount, hfl]
  next cur rs hfl =>
    cases hs
    unfold pending amount
    rw [hfl]
    by_cases ht : type = cur
    · subst ht
      simp
    · simp [ht]
  next => cases hs

theorem balanced_write (hba : state.Balanced s0)
    (hs : state.write key = some next) : next.Balanced s0 := by
  unfold write at hs
  split at hs
  next cur store rs hfl =>
    split at hs
    next => cases hs
    next va hlo =>
      cases hs
      have ham : store.amount key = va := by rw [RecordMap.amount, hlo]; rfl
      let d : Delta := ⟨cur, key, va⟩
      refine (balanced_iff_changes hba d.amount (fun type id => -d.amount type id)
        (fun _ _ => 0) ?_ ?_ ?_).mpr ?_
      · exact value_apply state.tables d
      · intro type id
        simp only [pending, amount, hfl, RecordMap.amount_erase, d, Delta.amount]
        by_cases ht : type = cur
        · subst ht
          by_cases hid : id = key
          · subst hid
            simp only [if_true, true_and, ham]
            omega
          · simp [hid, Ne.symm hid]
        · simp [ht, Ne.symm ht]
      · intro type id
        exact (add_zero _).symm
      · intro type id _
        omega
  next => cases hs

theorem balanced_step_iff (hba : state.Balanced s0) (act : BatchAction) :
    (∀ next, batchSystem.step state act = some next → next.Balanced s0) ↔ NoOverflow state act := by
  cases act with
  | call upd =>
    rw [← balanced_call_iff hba]
    simp [batchSystem]
  | wake =>
    refine iff_of_true (fun next hs => ?_) trivial
    simp only [batchSystem] at hs
    split at hs
    next hfl =>
      cases hs
      refine balanced_of_eq hba rfl (fun type id => ?_) rfl
      simp [pending, amount, hfl]
    next => cases hs
  | check =>
    refine iff_of_true (fun next hs => ?_) trivial
    change state.check = some next at hs
    unfold check at hs
    split at hs
    next hfl =>
      cases hs
      refine balanced_of_eq hba rfl (fun type id => ?_) rfl
      simp [pending, amount, hfl]
    next cur rs hfl =>
      split_ifs at hs <;> cases hs <;>
        refine balanced_of_eq hba rfl (fun type id => ?_) rfl <;>
        simp [pending, amount, hfl]
    next => cases hs
  | swap =>
    refine iff_of_true (fun next hs => ?_) trivial
    change state.swap = some next at hs
    refine balanced_of_eq hba ?_ (pending_swap hs) ?_ <;>
      (unfold swap at hs; split at hs <;> cases hs <;> rfl)
  | write key =>
    refine iff_of_true (fun next hs => ?_) trivial
    exact balanced_write hba hs
  | written =>
    refine iff_of_true (fun next hs => ?_) trivial
    change state.written = some next at hs
    unfold written at hs
    split at hs
    next cur store rs hfl =>
      split_ifs at hs with hempty
      cases hs
      refine balanced_of_eq hba rfl (fun type id => ?_) rfl
      simp [pending, amount, hfl, RecordMap.amount_of_card_eq_zero hempty]
    next => cases hs

theorem tables_step (hs : batchSystem.step state act = some next) :
    next.tables = state.tables ∨ ∃ d, next.tables = state.tables.apply d := by
  cases act with
  | call upd =>
    cases hs
    unfold call
    cases upd.delta with
    | error message => exact .inl rfl
    | ok d =>
      cases upd.direct with
      | true => exact .inr ⟨d, rfl⟩
      | false => exact .inl rfl
  | wake =>
    simp only [batchSystem] at hs
    split at hs <;> cases hs
    exact .inl rfl
  | check =>
    change state.check = some next at hs
    unfold check at hs
    split at hs
    · cases hs; exact .inl rfl
    · split_ifs at hs <;> cases hs <;> exact .inl rfl
    · cases hs
  | swap =>
    change state.swap = some next at hs
    unfold swap at hs
    split at hs <;> cases hs <;> exact .inl rfl
  | write key =>
    change state.write key = some next at hs
    unfold write at hs
    split at hs
    · split at hs <;> cases hs
      exact .inr ⟨_, rfl⟩
    · cases hs
  | written =>
    change state.written = some next at hs
    unfold written at hs
    split at hs
    · split_ifs at hs
      cases hs
      exact .inl rfl
    · cases hs

end

/-- Over every interleaving of calls with the updater: the two quotas of every token keep their sum;
and after every step, for every row, the stored value and the pending delta make up the initial
value and all deltas issued so far, exactly if no addition to a pending delta overflows. -/
theorem batchUpdate_balanced_iff (start : QuotaTables) (actions : List BatchAction) :
    (∀ final, batchSystem.run { tables := start } actions = some final →
        ∀ id, final.tables.tokenTotal id = start.tokenTotal id) ∧
      (batchSystem.Guarded (fun state action => ∀ next,
          batchSystem.step state action = some next → next.Balanced start)
          { tables := start } actions ↔
        batchSystem.Guarded NoOverflow { tables := start } actions) := by
  constructor
  · intro final hr
    refine batchSystem.run_preserves
      (fun state => ∀ id, state.tables.tokenTotal id = start.tokenTotal id) ?_ (fun _ => rfl) hr
    intro state action next hto hs id
    rcases tables_step hs with heq | ⟨delta, heq⟩
    · rw [heq, hto]
    · rw [heq, tokenTotal_apply, hto]
  refine batchSystem.guarded_iff (BatchState.Balanced start) ?_ ?_ ?_
  · intro state action hba
    exact balanced_step_iff hba action
  · intro state action next _ hri hs
    exact hri next hs
  · intro type id
    cases start.value type id <;> simp [BatchState.pending, FlushPhase.amount, issuedAmount]

/-- Two increments of the largest amount before a flush: the entry wraps around to -2, and that is
what the updater writes. -/
theorem batchUpdate_overflow :
    ((batchSystem.run
        { tables := ⟨fun id => if id = 1 then some ⟨0, 0, 0⟩ else none, fun _ => none,
            fun _ => none⟩ }
        [.call (.increaseUserQuota 1 (2 ^ 63 - 1) false),
          .call (.increaseUserQuota 1 (2 ^ 63 - 1) false),
          .wake, .check, .swap, .write 1]).map fun state =>
      (state.tables.value .userQuota 1, state.pending .userQuota 1,
        issuedAmount state.issued .userQuota 1)) = some (some (-2), 0, 2 ^ 64 - 2) := by
  decide +kernel

end NewApi.Billing
