import Mathlib.Algebra.Order.BigOperators.Group.List
import Mathlib.Algebra.Order.Group.MinMax
import Mathlib.Logic.Function.Basic
import NewApi.Lib.Int64
import NewApi.Lib.Processes
import NewApi.Lib.Transition

/-!
# Concurrent pre-consumption

A request compares the balance of its user and the quota of its token with its amount, and takes the
amount from both only later. Reads go through Redis, decrements may wait in the batch updater.
`admission_sound`: the admitted requests stay within wallet and tokens over every interleaving in
which no read shows an amount that another request has checked and not taken yet.
-/

namespace NewApi.Billing

open Lib List Processes Option

/-! ## One quota -/

structure QuotaConfig where
  redisEnabled : Bool
  batchUpdateEnabled : Bool

inductive CacheJob where
  | set (value : Int)
  | add (delta : Int)

/-- A quota: the column, the entry in the map of the batch updater, the entry that the updater has
taken away to write, the value in Redis and the jobs that will change it. -/
structure CachedQuota where
  stored : Int
  pending : Int := 0
  writing : Int := 0
  cached : Option Int := none
  jobs : List CacheJob := []

namespace CachedQuota

def balance (quota : CachedQuota) : Int :=
  quota.stored + quota.pending + quota.writing

/-- `GetUserQuota` and `GetTokenByKey`: the cached value, and else the column, which a job then puts
into the cache. `miss` is a failed or empty read of the cache. -/
def read (config : QuotaConfig) (miss : Bool) (quota : CachedQuota) : Int × CachedQuota :=
  if config.redisEnabled then
    match quota.cached, miss with
    | some value, false => (value, quota)
    | _, _ => (quota.stored, { quota with jobs := quota.jobs ++ [.set quota.stored] })
  else (quota.stored, quota)

def startJob (config : QuotaConfig) (delta : Int) (quota : CachedQuota) : CachedQuota :=
  if config.redisEnabled then { quota with jobs := quota.jobs ++ [.add delta] } else quota

/-- `IncreaseUserQuota`, `DecreaseUserQuota` and their token counterparts: the change goes into the
map or into the column. Only the statement can fail. -/
def change (config : QuotaConfig) (fails : Bool) (delta : Int) (quota : CachedQuota) :
    Bool × CachedQuota :=
  let started := quota.startJob config delta
  if config.batchUpdateEnabled then (true, { started with pending := started.pending + delta })
  else if fails then (false, started)
  else (true, { started with stored := started.stored + delta })

/-- A job runs. `RedisHIncrBy` leaves a key alone that is not there. -/
def runJob (k : Nat) (quota : CachedQuota) : Option CachedQuota :=
  match quota.jobs[k]? with
  | none => none
  | some (.set value) => some { quota with cached := some value, jobs := quota.jobs.eraseIdx k }
  | some (.add delta) =>
    some { quota with cached := quota.cached.map (· + delta), jobs := quota.jobs.eraseIdx k }

def expire (quota : CachedQuota) : CachedQuota :=
  { quota with cached := none }

def takePending (quota : CachedQuota) : CachedQuota :=
  { quota with pending := 0, writing := quota.writing + quota.pending }

def writePending (quota : CachedQuota) : CachedQuota :=
  { quota with stored := quota.stored + quota.writing, writing := 0 }

inductive Background where
  | runJob (k : Nat)
  | expire
  | takePending
  | writePending

def background (step : Background) (quota : CachedQuota) : Option CachedQuota :=
  match step with
  | .runJob k => quota.runJob k
  | .expire => some quota.expire
  | .takePending => some quota.takePending
  | .writePending => some quota.writePending

end CachedQuota

/-! ## Requests -/

inductive AdmissionPhase where
  | started
  | walletChecked
  | tokenChecked
  | tokenTaken
  | admitted
  | refused
  deriving DecidableEq

structure AdmissionRequest where
  tokenId : Int
  quota : Int
  phase : AdmissionPhase := .started

structure AdmissionState where
  wallet : CachedQuota
  tokens : Int → CachedQuota
  requests : List AdmissionRequest := []
  admitted : List (Int × Int) := []

/-- The steps of a request and of the background; `i` is the request that goes on. -/
inductive AdmissionAction where
  | arrive (tokenId quota : Int)
  | checkWallet (i : Nat) (miss fails : Bool)
  | checkToken (i : Nat) (miss fails : Bool)
  | takeToken (i : Nat) (fails : Bool)
  | takeWallet (i : Nat) (fails rollbackFails : Bool)
  | walletBackground (step : CachedQuota.Background)
  | tokenBackground (tokenId : Int) (step : CachedQuota.Background)

namespace AdmissionState

variable (config : QuotaConfig)

def setPhase (state : AdmissionState) (i : Nat) (request : AdmissionRequest)
    (phase : AdmissionPhase) : AdmissionState :=
  { state with requests := state.requests.set i { request with phase } }

def setToken (state : AdmissionState) (tokenId : Int) (token : CachedQuota) : AdmissionState :=
  { state with tokens := Function.update state.tokens tokenId token }

def requestIn (state : AdmissionState) (i : Nat) (phase : AdmissionPhase) :
    Option AdmissionRequest :=
  (state.requests[i]?).filter fun request => request.phase = phase

/-- `tryWallet` up to `preConsume`. A request that needs nothing is admitted with nothing taken. -/
def checkWallet (state : AdmissionState) (i : Nat) (miss fails : Bool) : Option AdmissionState :=
  (state.requestIn i .started).map fun request =>
    if fails then state.setPhase i request .refused
    else
      let (userQuota, wallet) := state.wallet.read config miss
      let next := { state with wallet }
      if userQuota ≤ 0 then next.setPhase i request .refused
      else if Int64.wrap (userQuota - request.quota) < 0 then next.setPhase i request .refused
      else if request.quota ≤ 0 then next.setPhase i request .admitted
      else next.setPhase i request .walletChecked

/-- The check of `PreConsumeTokenQuota`. -/
def checkToken (state : AdmissionState) (i : Nat) (miss fails : Bool) : Option AdmissionState :=
  (state.requestIn i .walletChecked).map fun request =>
    if fails then state.setPhase i request .refused
    else
      let (remainQuota, token) := (state.tokens request.tokenId).read config miss
      let next := state.setToken request.tokenId token
      if remainQuota < request.quota then next.setPhase i request .refused
      else next.setPhase i request .tokenChecked

/-- `DecreaseTokenQuota` of `PreConsumeTokenQuota`. -/
def takeToken (state : AdmissionState) (i : Nat) (fails : Bool) : Option AdmissionState :=
  (state.requestIn i .tokenChecked).map fun request =>
    let (taken, token) := (state.tokens request.tokenId).change config fails (-request.quota)
    let next := state.setToken request.tokenId token
    next.setPhase i request (if taken then .tokenTaken else .refused)

/-- `WalletFunding.PreConsume`, and the return of the token quota when it fails. -/
def takeWallet (state : AdmissionState) (i : Nat) (fails rollbackFails : Bool) :
    Option AdmissionState :=
  (state.requestIn i .tokenTaken).map fun request =>
    let (taken, wallet) := state.wallet.change config fails (-request.quota)
    let next := { state with wallet }
    if taken then
      { next.setPhase i request .admitted with
        admitted := state.admitted ++ [(request.tokenId, request.quota)] }
    else
      let token := ((state.tokens request.tokenId).change config rollbackFails request.quota).2
      (next.setToken request.tokenId token).setPhase i request .refused

end AdmissionState

def admissionSystem (config : QuotaConfig) : System AdmissionState AdmissionAction where
  step state action :=
    match action with
    | .arrive tokenId quota =>
      some { state with requests := state.requests ++ [{ tokenId, quota }] }
    | .checkWallet i miss fails => state.checkWallet config i miss fails
    | .checkToken i miss fails => state.checkToken config i miss fails
    | .takeToken i fails => state.takeToken config i fails
    | .takeWallet i fails rollbackFails => state.takeWallet config i fails rollbackFails
    | .walletBackground step =>
      (state.wallet.background step).map fun wallet => { state with wallet }
    | .tokenBackground tokenId step =>
      ((state.tokens tokenId).background step).map (state.setToken tokenId)

/-! ## What the steps do to the balances -/

namespace CachedQuota

variable {cfg : QuotaConfig} {q : CachedQuota}

@[simp]
theorem balance_read : (q.read cfg miss).2.balance = q.balance := by
  unfold read
  split
  · split <;> rfl
  · rfl

@[simp]
theorem balance_startJob : (q.startJob cfg d).balance = q.balance := by
  unfold startJob
  split <;> rfl

theorem change_fst : (q.change cfg fl d).1 = (cfg.batchUpdateEnabled || !fl) := by
  unfold change
  cases cfg.batchUpdateEnabled <;> cases fl <;> rfl

theorem balance_change (fl : Bool) (d : Int) :
    (q.change cfg fl d).2.balance = q.balance + if (q.change cfg fl d).1 then d else 0 := by
  have hs0 : (q.startJob cfg d).balance = q.balance := balance_startJob
  unfold balance at hs0 ⊢
  unfold change
  cases cfg.batchUpdateEnabled with
  | true =>
    simp only [if_true]
    omega
  | false =>
    cases fl with
    | true | false =>
      simp only [Bool.false_eq_true, if_true, if_false]
      omega

theorem balance_background (hs : q.background step = some nxt) : nxt.balance = q.balance := by
  cases step with
  | runJob k =>
    change q.runJob k = some nxt at hs
    unfold runJob at hs
    split at hs <;> cases hs <;> rfl
  | expire => cases hs; rfl
  | takePending =>
    cases hs
    simp only [takePending, balance]
    omega
  | writePending =>
    cases hs
    simp only [writePending, balance]
    omega

end CachedQuota

/-! ## Admitted requests -/

def admittedTotal (admitted : List (Int × Int)) : Int :=
  (admitted.map Prod.snd).sum

def admittedOn (id : Int) (admitted : List (Int × Int)) : Int :=
  admittedTotal (admitted.filter fun entry => entry.1 = id)

namespace AdmissionState

/-- What the request asks for, if it is of the kind. -/
def weight (kind : AdmissionRequest → Bool) (request : AdmissionRequest) : Int :=
  if kind request then request.quota else 0

/-- What the requests of a kind ask for. -/
def amount (state : AdmissionState) (kind : AdmissionRequest → Bool) : Int :=
  (state.requests.map (weight kind)).sum

/-- The request has checked the wallet and not taken its amount yet. -/
def walletPending (request : AdmissionRequest) : Bool :=
  request.phase = .walletChecked ∨ request.phase = .tokenChecked ∨ request.phase = .tokenTaken

/-- The request has checked the token and not taken its amount yet. -/
def tokenPending (id : Int) (request : AdmissionRequest) : Bool :=
  request.phase = .tokenChecked ∧ request.tokenId = id

/-- The request has taken its amount from the token and is not admitted yet. -/
def holding (id : Int) (request : AdmissionRequest) : Bool :=
  request.phase = .tokenTaken ∧ request.tokenId = id

/-- The admitted requests stay within the wallet and within every token, and no balance becomes
negative. A balance that is negative from the start is not touched. -/
structure Sound (start state : AdmissionState) : Prop where
  wallet_total : admittedTotal state.admitted ≤ max start.wallet.balance 0
  token_total : ∀ id, admittedOn id state.admitted ≤ max (start.tokens id).balance 0
  wallet_balance : min start.wallet.balance 0 ≤ state.wallet.balance
  token_balance : ∀ id, min (start.tokens id).balance 0 ≤ (state.tokens id).balance

/-- The amounts of a run. What is left of a balance, what is held of it and what was admitted is no
more than there was, and what is left covers the requests that have checked it. -/
structure Accounts (start state : AdmissionState) : Prop where
  wallet : state.wallet.balance + admittedTotal state.admitted ≤ start.wallet.balance
  token : ∀ id, (state.tokens id).balance + admittedOn id state.admitted +
    state.amount (holding id) ≤ (start.tokens id).balance
  walletCovers : min start.wallet.balance 0 + state.amount walletPending ≤ state.wallet.balance
  tokenCovers : ∀ id, min (start.tokens id).balance 0 + state.amount (tokenPending id) ≤
    (state.tokens id).balance
  positive : ∀ request ∈ state.requests, walletPending request = true → 0 < request.quota
  small : ∀ request ∈ state.requests, request.quota < 2 ^ 63

end AdmissionState

open AdmissionState

/-- No check reads more than the balance without the amounts of the requests that have made the same
check and not taken theirs. A value that is not behind the balance is such a read if no other
request is between its check and its decrement. The amounts are values of `int`. -/
def ReadsFree (config : QuotaConfig) (state : AdmissionState) : AdmissionAction → Prop
  | .arrive _ quota => quota < 2 ^ 63
  | .checkWallet _ miss fails => fails = false →
    (state.wallet.read config miss).1 + state.amount walletPending ≤ state.wallet.balance
  | .checkToken i miss fails => fails = false →
    ∀ request ∈ state.requestIn i .walletChecked,
      ((state.tokens request.tokenId).read config miss).1 +
        state.amount (tokenPending request.tokenId) ≤ (state.tokens request.tokenId).balance
  | _ => True

instance (config : QuotaConfig) (state : AdmissionState) (action : AdmissionAction) :
    Decidable (ReadsFree config state action) := by
  delta ReadsFree
  split <;> infer_instance

namespace AdmissionState

variable {config : QuotaConfig} {start state next mid : AdmissionState} {i : Nat}
  {request : AdmissionRequest} {phase : AdmissionPhase} {wallet token : Int}
  {granted : List (Int × Int)}

theorem requestIn_eq_some (h : state.requestIn i phase = some request) :
    state.requests[i]? = some request ∧ request.phase = phase := by
  simpa [requestIn, filter_eq_some_iff] using h

/-- A request goes on to a phase, with what that adds to the wallet, to its token and to the list of
admitted requests. -/
structure Move (state next : AdmissionState) (i : Nat) (request : AdmissionRequest)
    (phase : AdmissionPhase) (wallet token : Int) (granted : List (Int × Int)) : Prop where
  found : state.requests[i]? = some request
  requests : next.requests = state.requests.set i { request with phase }
  wallet : next.wallet.balance = state.wallet.balance + wallet
  token : ∀ id, (next.tokens id).balance =
    (state.tokens id).balance + if request.tokenId = id then token else 0
  admitted : next.admitted = state.admitted ++ granted

/-- The moves that the code makes; a check lets only a positive amount pass, and one that the
balance covers beside those that wait for it. -/
inductive Allowed (state : AdmissionState) (request : AdmissionRequest) :
    AdmissionPhase → Int → Int → List (Int × Int) → Prop
  | drop : request.phase ≠ .tokenTaken → Allowed state request .refused 0 0 []
  | free : request.phase = .started → Allowed state request .admitted 0 0 []
  | checkWallet : request.phase = .started → 0 < request.quota →
      request.quota + state.amount walletPending ≤ state.wallet.balance →
      Allowed state request .walletChecked 0 0 []
  | checkToken : request.phase = .walletChecked →
      request.quota + state.amount (tokenPending request.tokenId) ≤
        (state.tokens request.tokenId).balance →
      Allowed state request .tokenChecked 0 0 []
  | takeToken : request.phase = .tokenChecked →
      Allowed state request .tokenTaken 0 (-request.quota) []
  | takeWallet : request.phase = .tokenTaken →
      Allowed state request .admitted (-request.quota) 0 [(request.tokenId, request.quota)]
  | giveBack (returned : Int) : request.phase = .tokenTaken →
      returned = 0 ∨ returned = request.quota → Allowed state request .refused 0 returned []

theorem Move.amount (h : Move state next i request phase wallet token granted)
    (kind : AdmissionRequest → Bool) :
    next.amount kind + weight kind request =
      state.amount kind + weight kind { request with phase } := by
  unfold AdmissionState.amount
  rw [h.requests]
  exact sum_map_set (weight kind) h.found _

theorem admittedTotal_append (admitted granted : List (Int × Int)) :
    admittedTotal (admitted ++ granted) = admittedTotal admitted + admittedTotal granted := by
  simp [admittedTotal]

theorem admittedOn_append (id : Int) (admitted granted : List (Int × Int)) :
    admittedOn id (admitted ++ granted) = admittedOn id admitted + admittedOn id granted := by
  simp [admittedOn, admittedTotal_append]

theorem Accounts.weight_nonneg (h : Accounts start state) {kind : AdmissionRequest → Bool}
    (hkind : ∀ request, kind request = true → walletPending request = true)
    (hrequest : request ∈ state.requests) : 0 ≤ weight kind request := by
  unfold weight
  split_ifs with hpending
  · exact (h.positive request hrequest (hkind request hpending)).le
  · exact le_rfl

theorem walletPending_of_tokenPending (id : Int) (request : AdmissionRequest)
    (h : tokenPending id request = true) : walletPending request = true := by
  simp only [tokenPending, walletPending, decide_eq_true_eq] at h ⊢
  exact .inr (.inl h.1)

theorem walletPending_of_holding (id : Int) (request : AdmissionRequest)
    (h : holding id request = true) : walletPending request = true := by
  simp only [holding, walletPending, decide_eq_true_eq] at h ⊢
  exact .inr (.inr h.1)

/-- Every move of the code keeps the accounts. -/
theorem Accounts.move (h : Accounts start state)
    (hmove : Move state next i request phase wallet token granted)
    (hallowed : Allowed state request phase wallet token granted) : Accounts start next := by
  have hmem := mem_of_getElem? hmove.found
  have hwallet := h.wallet
  have hwalletCovers := h.walletCovers
  have hpending := hmove.amount walletPending
  have hwaiting := h.weight_nonneg (fun _ hkind => hkind) hmem
  refine ⟨?_, fun id => ?_, ?_, fun id => ?_, ?_, ?_⟩
  · rw [hmove.wallet, hmove.admitted, admittedTotal_append]
    cases hallowed <;> simp only [admittedTotal, map_nil, map_cons, sum_nil,
      sum_cons] at * <;> omega
  · have htoken := h.token id
    have hholding := hmove.amount (holding id)
    have hheld := h.weight_nonneg (walletPending_of_holding id) hmem
    rw [hmove.token, hmove.admitted, admittedOn_append]
    cases hallowed with
    | drop hphase | free hphase | checkWallet hphase | checkToken hphase | takeToken hphase
    | takeWallet hphase | giveBack returned hphase hreturned =>
      by_cases hid : request.tokenId = id <;>
        simp [weight, holding, hphase, hid, admittedOn, admittedTotal] at * <;> omega
  · rw [hmove.wallet]
    cases hallowed with
    | drop hphase =>
      rw [show weight walletPending { request with phase := .refused } = 0 from rfl] at hpending
      omega
    | free hphase | checkWallet hphase | checkToken hphase | takeToken hphase | takeWallet hphase
    | giveBack returned hphase hreturned =>
      simp [weight, walletPending, hphase] at hpending hwaiting
      omega
  · have htokenCovers := h.tokenCovers id
    have hchecked := hmove.amount (tokenPending id)
    have hheld := h.weight_nonneg (walletPending_of_tokenPending id) hmem
    rw [hmove.token]
    cases hallowed with
    | drop hphase =>
      have hnone : weight (tokenPending id) { request with phase := .refused } = 0 := by
        simp [weight, tokenPending]
      rw [hnone] at hchecked
      split_ifs <;> omega
    | free hphase | checkWallet hphase | checkToken hphase | takeToken hphase | takeWallet hphase
    | giveBack returned hphase hreturned =>
      by_cases hid : request.tokenId = id <;>
        simp [weight, tokenPending, walletPending, hphase, hid] at * <;> omega
  · rw [hmove.requests]
    refine forall_mem_set h.positive ?_
    have hpositive := h.positive request hmem
    cases hallowed with
    | drop | free | takeWallet | giveBack => simp [walletPending]
    | checkWallet hphase hpos => exact fun _ => hpos
    | checkToken hphase | takeToken hphase =>
      exact fun _ => hpositive (by simp [walletPending, hphase])
  · rw [hmove.requests]
    exact forall_mem_set h.small (h.small request hmem)

/-- A step that only reads, or that moves amounts inside a quota, changes no balance. -/
theorem Accounts.of_balances (h : Accounts start state)
    (hwallet : next.wallet.balance = state.wallet.balance)
    (htoken : ∀ id, (next.tokens id).balance = (state.tokens id).balance)
    (hrequests : next.requests = state.requests) (hadmitted : next.admitted = state.admitted) :
    Accounts start next := by
  have hamount : ∀ kind, next.amount kind = state.amount kind := by
    intro kind
    unfold amount
    rw [hrequests]
  refine ⟨?_, fun id => ?_, ?_, fun id => ?_, ?_, ?_⟩
  · rw [hwallet, hadmitted]
    exact h.wallet
  · rw [htoken, hadmitted, hamount]
    exact h.token id
  · rw [hwallet, hamount]
    exact h.walletCovers
  · rw [htoken, hamount]
    exact h.tokenCovers id
  · rw [hrequests]
    exact h.positive
  · rw [hrequests]
    exact h.small

theorem balance_setToken (tokenId : Int) (quota : CachedQuota) (id : Int) :
    ((state.setToken tokenId quota).tokens id).balance =
      (state.tokens id).balance +
        if tokenId = id then quota.balance - (state.tokens tokenId).balance else 0 := by
  unfold setToken
  by_cases hid : tokenId = id
  · subst hid
    simp
  · simp [hid, Function.update_of_ne (Ne.symm hid)]

theorem Accounts.setPhase (h : Accounts start state) (hfound : state.requests[i]? = some request)
    (hallowed : Allowed state request phase 0 0 []) :
    Accounts start (state.setPhase i request phase) := by
  refine h.move ⟨hfound, rfl, (add_zero _).symm, fun id => ?_, (append_nil _).symm⟩ hallowed
  simp [AdmissionState.setPhase]

open CachedQuota

/-- The check of the wallet lets an amount pass that is not above what was read. -/
theorem Accounts.checkWallet (h : Accounts start state) {miss fails : Bool}
    (hfree : fails = false →
      (state.wallet.read config miss).1 + state.amount walletPending ≤ state.wallet.balance)
    (hstep : state.checkWallet config i miss fails = some next) : Accounts start next := by
  obtain ⟨request, hrequest, rfl⟩ := map_eq_some_iff.mp hstep
  obtain ⟨hfound, hphase⟩ := requestIn_eq_some hrequest
  have hsmall := h.small request (mem_of_getElem? hfound)
  dsimp only
  by_cases hfails : fails = true
  · rw [if_pos hfails]
    exact h.setPhase hfound (.drop (by simp [hphase]))
  have hfree := hfree (Bool.eq_false_iff.mpr hfails)
  have hread : Accounts start { state with wallet := (state.wallet.read config miss).2 } :=
    h.of_balances balance_read (fun _ => rfl) rfl rfl
  have hbalance : (state.wallet.read config miss).2.balance = state.wallet.balance := balance_read
  rw [if_neg hfails]
  split_ifs with hempty hshort hnothing
  · exact hread.setPhase hfound (.drop (by simp [hphase]))
  · exact hread.setPhase hfound (.drop (by simp [hphase]))
  · exact hread.setPhase hfound (.free hphase)
  · refine hread.setPhase hfound (.checkWallet hphase (by omega) ?_)
    -- the difference is no smaller than the smallest `int`, so it is negative if it wraps to that
    have hcovers : request.quota ≤ (state.wallet.read config miss).1 := by
      by_contra hlt
      rw [Int64.wrap_of_inRange ⟨by omega, by omega⟩] at hshort
      omega
    show request.quota + state.amount walletPending ≤ _
    rw [hbalance]
    omega

theorem Accounts.checkToken (h : Accounts start state) {miss fails : Bool}
    (hfree : fails = false → ∀ request ∈ state.requestIn i .walletChecked,
      ((state.tokens request.tokenId).read config miss).1 +
        state.amount (tokenPending request.tokenId) ≤ (state.tokens request.tokenId).balance)
    (hstep : state.checkToken config i miss fails = some next) : Accounts start next := by
  obtain ⟨request, hrequest, rfl⟩ := map_eq_some_iff.mp hstep
  obtain ⟨hfound, hphase⟩ := requestIn_eq_some hrequest
  dsimp only
  by_cases hfails : fails = true
  · rw [if_pos hfails]
    exact h.setPhase hfound (.drop (by simp [hphase]))
  have hfree := hfree (Bool.eq_false_iff.mpr hfails) request hrequest
  have hbalance : ∀ id, ((state.setToken request.tokenId
      ((state.tokens request.tokenId).read config miss).2).tokens id).balance =
        (state.tokens id).balance := by
    intro id
    rw [balance_setToken]
    simp
  have hread : Accounts start (state.setToken request.tokenId
      ((state.tokens request.tokenId).read config miss).2) :=
    h.of_balances rfl hbalance rfl rfl
  rw [if_neg hfails]
  split_ifs with hshort
  · exact hread.setPhase hfound (.drop (by simp [hphase]))
  · refine hread.setPhase hfound (.checkToken hphase ?_)
    rw [hbalance]
    show request.quota + state.amount (tokenPending request.tokenId) ≤ _
    omega

theorem Accounts.takeToken (h : Accounts start state) {fails : Bool}
    (hstep : state.takeToken config i fails = some next) : Accounts start next := by
  obtain ⟨request, hrequest, rfl⟩ := map_eq_some_iff.mp hstep
  obtain ⟨hfound, hphase⟩ := requestIn_eq_some hrequest
  dsimp only
  have hchange := @balance_change config (state.tokens request.tokenId) fails (-request.quota)
  have htoken := fun id => @balance_setToken state request.tokenId
    ((state.tokens request.tokenId).change config fails (-request.quota)).2 id
  split_ifs at hchange ⊢ with htaken
  · refine h.move ⟨hfound, rfl, (add_zero _).symm, fun id => (htoken id).trans ?_,
      (append_nil _).symm⟩ (.takeToken hphase)
    split_ifs <;> omega
  · refine h.move ⟨hfound, rfl, (add_zero _).symm, fun id => (htoken id).trans ?_,
      (append_nil _).symm⟩ (.drop (by simp [hphase]))
    split_ifs <;> omega

theorem Accounts.takeWallet (h : Accounts start state) {fails rollbackFails : Bool}
    (hstep : state.takeWallet config i fails rollbackFails = some next) : Accounts start next := by
  obtain ⟨request, hrequest, rfl⟩ := map_eq_some_iff.mp hstep
  obtain ⟨hfound, hphase⟩ := requestIn_eq_some hrequest
  dsimp only
  have hchange := @balance_change config state.wallet fails (-request.quota)
  split_ifs at hchange ⊢ with htaken
  · exact h.move ⟨hfound, rfl, hchange, fun id => by simp [AdmissionState.setPhase], rfl⟩
      (.takeWallet hphase)
  · have hreturn :=
    @balance_change config (state.tokens request.tokenId) rollbackFails request.quota
    have htoken := fun id => @balance_setToken state request.tokenId
      ((state.tokens request.tokenId).change config rollbackFails request.quota).2 id
    refine h.move ⟨hfound, rfl, hchange, htoken, (append_nil _).symm⟩ (.giveBack _ hphase ?_)
    split_ifs at hreturn <;> omega

theorem Accounts.arrive (h : Accounts start state) {tokenId quota : Int} (hsmall : quota < 2 ^ 63) :
    Accounts start { state with requests := state.requests ++ [{ tokenId, quota }] } := by
  have hamount : ∀ kind : AdmissionRequest → Bool, kind { tokenId, quota } = false →
      amount { state with requests := state.requests ++ [{ tokenId, quota }] } kind =
        state.amount kind := by
    intro kind hkind
    simp [amount, weight, hkind]
  refine ⟨h.wallet, fun id => ?_, ?_, fun id => ?_, ?_, ?_⟩
  · rw [hamount _ (by simp [holding])]
    exact h.token id
  · rw [hamount _ (by simp [walletPending])]
    exact h.walletCovers
  · rw [hamount _ (by simp [tokenPending])]
    exact h.tokenCovers id
  · exact forall_mem_append h.positive (by simp [walletPending])
  · exact forall_mem_append h.small hsmall

theorem Accounts.step (h : Accounts start state) {action : AdmissionAction}
    (hfree : ReadsFree config state action)
    (hstep : (admissionSystem config).step state action = some next) : Accounts start next := by
  cases action with
  | arrive tokenId quota =>
    cases hstep
    exact h.arrive hfree
  | checkWallet i miss fails => exact h.checkWallet hfree hstep
  | checkToken i miss fails => exact h.checkToken hfree hstep
  | takeToken i fails => exact h.takeToken hstep
  | takeWallet i fails rollbackFails => exact h.takeWallet hstep
  | walletBackground background =>
    obtain ⟨wallet, hwallet, rfl⟩ := map_eq_some_iff.mp hstep
    exact h.of_balances (balance_background hwallet) (fun _ => rfl) rfl rfl
  | tokenBackground tokenId background =>
    obtain ⟨token, htoken, rfl⟩ := map_eq_some_iff.mp hstep
    refine h.of_balances rfl (fun id => ?_) rfl rfl
    rw [balance_setToken, balance_background htoken]
    simp

theorem Accounts.amount_nonneg (h : Accounts start state) {kind : AdmissionRequest → Bool}
    (hkind : ∀ request, kind request = true → walletPending request = true) :
    0 ≤ state.amount kind := by
  refine sum_nonneg ?_
  intro quota hquota
  obtain ⟨request, hrequest, rfl⟩ := mem_map.mp hquota
  exact h.weight_nonneg hkind hrequest

theorem Accounts.sound (h : Accounts start state) : Sound start state := by
  have hwallet := h.wallet
  have hwalletCovers := h.walletCovers
  have hpending := h.amount_nonneg fun _ hkind => hkind
  refine ⟨by omega, fun id => ?_, by omega, fun id => ?_⟩
  · have htoken := h.token id
    have htokenCovers := h.tokenCovers id
    have hholding := h.amount_nonneg (walletPending_of_holding id)
    have hchecked := h.amount_nonneg (walletPending_of_tokenPending id)
    omega
  · have htokenCovers := h.tokenCovers id
    have hchecked := h.amount_nonneg (walletPending_of_tokenPending id)
    omega

end AdmissionState

/-- Over every interleaving of any number of requests and of the background in which no check reads
an amount that another request has checked and not taken: the amounts admitted stay within the
wallet and within every token, and no balance becomes negative. -/
theorem admission_sound (config : QuotaConfig) (wallet : CachedQuota)
    (tokens : Int → CachedQuota) (actions : List AdmissionAction) {last : AdmissionState}
    (hfree : (admissionSystem config).Guarded (ReadsFree config) { wallet, tokens } actions)
    (hrun : (admissionSystem config).run { wallet, tokens } actions = some last) :
    Sound { wallet, tokens } last := by
  have hinit : Accounts { wallet, tokens } { wallet, tokens } := by
    refine ⟨?_, fun id => ?_, ?_, fun id => ?_, nofun, nofun⟩ <;>
      simp [admittedOn, admittedTotal, amount]
  exact ((admissionSystem config).guarded_run_preserves (Accounts { wallet, tokens })
    (fun _ _ _ h hok hstep => h.step hok hstep) hinit hfree hrun).sound

/-- Three requests of 80, 80 and 20 that come one after the other. -/
def orderlyRequests : List AdmissionAction :=
  [.arrive 1 80, .arrive 1 80, .arrive 1 20, .checkWallet 0 false false, .checkToken 0 false false,
    .takeToken 0 false, .takeWallet 0 false false, .checkWallet 1 false false,
    .checkWallet 2 false false, .checkToken 2 false false, .takeToken 2 false,
    .takeWallet 2 false false]

/-- Of a wallet and a token of 100 the first request takes 80, the second one is refused, and the
third one takes the rest. -/
theorem orderly_requests_sound :
    let start : AdmissionState :=
      { wallet := { stored := 100 }, tokens := fun _ => { stored := 100 } }
    ∃ last, (admissionSystem ⟨false, false⟩).run start orderlyRequests = some last ∧
      last.admitted = [(1, 80), (1, 20)] ∧ Sound start last := by
  intro start
  have hfree : (admissionSystem ⟨false, false⟩).Guarded (ReadsFree ⟨false, false⟩) start
      orderlyRequests := by
    decide +kernel
  have hadmitted : ((admissionSystem ⟨false, false⟩).run start orderlyRequests).map
      AdmissionState.admitted = some [(1, 80), (1, 20)] := by
    decide +kernel
  obtain ⟨last, hrun, hlast⟩ := map_eq_some_iff.mp hadmitted
  exact ⟨last, hrun, hlast, admission_sound _ _ _ _ hfree hrun⟩

/-- Two requests of 80 for a wallet and a token of 100 check before either takes anything: both are
admitted, and both balances end at -60. -/
theorem admission_overdraws :
    ((admissionSystem ⟨false, false⟩).run { wallet := { stored := 100 }, tokens := fun _ =>
        { stored := 100 } }
      [.arrive 1 80, .arrive 1 80, .checkWallet 0 false false, .checkWallet 1 false false,
        .checkToken 0 false false, .checkToken 1 false false, .takeToken 0 false,
        .takeToken 1 false, .takeWallet 0 false false, .takeWallet 1 false false]).map
      (fun state => (admittedTotal state.admitted, admittedOn 1 state.admitted,
        state.wallet.balance, (state.tokens 1).balance)) =
      some (160, 160, -60, -60) := by
  decide +kernel

end NewApi.Billing
