import Mathlib.Algebra.BigOperators.Group.List.Basic
import Mathlib.Logic.Function.Basic
import NewApi.Lib.Outcome
import NewApi.Lib.Table
import NewApi.Lib.Transition

/-!
# Redemption codes

`RedeemWithAuditDetails` redeems a code in one transaction. `UpdateRedemption` reads a code and then
writes columns of its copy, among them the status. `redemption_used_once`: while no edit writes
another status over a used code, a code is credited at most once.
-/

namespace NewApi.Redemptions

open Lib List Lib.Table

/-- The `status` column. -/
inductive RedemptionStatus where
  | enabled
  | disabled
  | used
  | other (code : Int)
  deriving DecidableEq, Repr

structure Redemption where
  id : Int
  userId : Int
  key : String
  status : RedemptionStatus := .enabled
  name : String
  quota : Int := 100
  createdTime : Int := 0
  redeemedTime : Int := 0
  usedUserId : Int := 0
  expiredTime : Int := 0
  deriving DecidableEq

structure RedemptionCredit where
  id : Int
  userId : Int
  quota : Int
  deriving DecidableEq

/-- A transaction of `RedeemWithAuditDetails` that has read the code and holds the lock of its
row. -/
structure RedeemCall where
  userId : Int
  redemption : Redemption
  deriving DecidableEq

/-- What an admin sends to `UpdateRedemption`. -/
structure RedemptionEdit where
  id : Int
  name : String
  quota : Int
  expiredTime : Int
  deriving DecidableEq

/-- The tables, the credits made so far, and the calls in progress: redemptions, and edits with
the copy that they will write. -/
structure RedemptionState where
  redemptions : List Redemption
  quotas : Int → Option Int
  credits : List RedemptionCredit
  redeems : List RedeemCall
  edits : List Redemption

def RedemptionState.start (redemptions : List Redemption) (quotas : Int → Option Int) :
    RedemptionState where
  redemptions := redemptions
  quotas := quotas
  credits := []
  redeems := []
  edits := []

/-! ## The two statements of a redemption -/

/-- The checks of `RedeemWithAuditDetails`, up to its first statement. -/
def redeemRead (key : String) (userId now : Int) (readFails : Bool)
    (redemptions : List Redemption) : Except String RedeemCall :=
  if key = "" then .error "未提供兑换码"
  else if userId = 0 then .error "无效的 user id"
  else if readFails then .error "无效的兑换码"
  else
    match redemptions.find? fun redemption => redemption.key = key with
    | none => .error "无效的兑换码"
    | some redemption =>
      if redemption.status ≠ .enabled then .error "该兑换码已被使用"
      else if redemption.expiredTime ≠ 0 ∧ redemption.expiredTime < now then
        .error "该兑换码已过期"
      else .ok { userId, redemption }

def RedeemCall.redeemed (call : RedeemCall) (now : Int) : Redemption :=
  { call.redemption with redeemedTime := now, status := .used, usedUserId := call.userId }

def RedeemCall.credit (call : RedeemCall) : RedemptionCredit where
  id := call.redemption.id
  userId := call.userId
  quota := call.redemption.quota

/-- `UPDATE users SET quota = quota + …`; no row is hit if the user does not exist. -/
def RedemptionState.creditUser (s : RedemptionState) (call : RedeemCall) : RedemptionState :=
  match s.quotas call.userId with
  | none => s
  | some quota =>
    { s with
      quotas := Function.update s.quotas call.userId (some (quota + call.redemption.quota))
      credits := s.credits ++ [call.credit] }

/-- Every column is written. -/
def RedemptionState.save (s : RedemptionState) (redemption : Redemption) : RedemptionState :=
  { s with
    redemptions := Table.updateWhere (fun row => row.id = redemption.id) (fun _ => redemption)
      s.redemptions }

def RedemptionState.endRedeem (s : RedemptionState) (call : RedeemCall) : RedemptionState :=
  { s with
    redeems := s.redeems.filter fun other => other.redemption.id ≠ call.redemption.id }

/-! ## The two statements of an edit -/

/-- The first statement of `UpdateRedemption`, and the copy that is going to be written. -/
def editRead (edit : RedemptionEdit) (now : Int) (readFails : Bool)
    (redemptions : List Redemption) : Except String Redemption :=
  if edit.id = 0 then .error "id 为空！"
  else if readFails then .error "database error"
  else
    match Table.get? Redemption.id redemptions edit.id with
    | none => .error "record not found"
    | some clean =>
      if edit.expiredTime ≠ 0 ∧ edit.expiredTime < now then .error "redemption.expire_time_invalid"
      else
        .ok { clean with name := edit.name, quota := edit.quota, expiredTime := edit.expiredTime }

/-- Five columns of the copy are written. -/
def Redemption.update (copy row : Redemption) : Redemption :=
  { row with
    name := copy.name
    status := copy.status
    quota := copy.quota
    redeemedTime := copy.redeemedTime
    expiredTime := copy.expiredTime }

def RedemptionState.writeEdit (s : RedemptionState) (copy : Redemption) : RedemptionState :=
  { s with
    redemptions := Table.updateWhere (fun row => row.id = copy.id) copy.update s.redemptions }

/-! ## The system -/

inductive RedemptionAction where
  | redeemRead (key : String) (userId now : Int) (readFails : Bool)
  | redeemCommit (call : RedeemCall) (now : Int) (fails : Bool)
  | editRead (edit : RedemptionEdit) (now : Int) (readFails : Bool)
  | editWrite (copy : Redemption) (fails : Bool)
  deriving DecidableEq

def redemptionStep (s : RedemptionState) : RedemptionAction → Option RedemptionState
  | .redeemRead key userId now readFails =>
    match redeemRead key userId now readFails s.redemptions with
    | .error _ => some s
    | .ok call =>
      if call.redemption.id ∈ s.redeems.map (·.redemption.id) then none
      else some { s with redeems := s.redeems ++ [call] }
  | .redeemCommit call now fails =>
    if call ∉ s.redeems then none
    else if fails then some (s.endRedeem call)
    else some (((s.creditUser call).save (call.redeemed now)).endRedeem call)
  | .editRead edit now readFails =>
    match editRead edit now readFails s.redemptions with
    | .error _ => some s
    | .ok copy => some { s with edits := s.edits ++ [copy] }
  | .editWrite copy fails =>
    if copy ∉ s.edits then none
    else if fails then some { s with edits := s.edits.erase copy }
    else some { s.writeEdit copy with edits := s.edits.erase copy }

def redemptionSystem : System RedemptionState RedemptionAction where
  step := redemptionStep

def redemptionCount (s : RedemptionState) (id : Int) : Nat :=
  (s.credits.map RedemptionCredit.id).count id

def redeemedBy (credits : List RedemptionCredit) (userId : Int) : Int :=
  ((credits.filter fun credit => credit.userId = userId).map RedemptionCredit.quota).sum

def KeepsUsed (s : RedemptionState) : RedemptionAction → Prop
  | .editWrite copy fails =>
    fails ∨ ∀ row ∈ Table.get? Redemption.id s.redemptions copy.id,
      row.status = .used → copy.status = .used
  | _ => True

/-- A search of the row and two comparisons decide it. -/
instance (s : RedemptionState) (action : RedemptionAction) : Decidable (KeepsUsed s action) := by
  delta KeepsUsed
  split <;> infer_instance

/-! ## What a statement does -/

variable {call : RedeemCall}

section

variable {s next : RedemptionState} {action : RedemptionAction}

/-- The step changes nothing but the calls in progress, and begins no redemption. -/
structure Quiet (s next : RedemptionState) : Prop where
  redemptions : next.redemptions = s.redemptions
  quotas : next.quotas = s.quotas
  credits : next.credits = s.credits
  redeems : next.redeems.Sublist s.redeems

theorem redeemRead_eq_ok (h : redeemRead key uid now rf rds = .ok call) :
    call.redemption ∈ rds ∧ call.redemption.status = .enabled := by
  obtain ⟨-, h⟩ := check_eq_ok h
  obtain ⟨-, h⟩ := check_eq_ok h
  obtain ⟨-, h⟩ := check_eq_ok h
  split at h
  · cases h
  next rede hf =>
    obtain ⟨hst, h⟩ := check_eq_ok h
    obtain ⟨-, h⟩ := check_eq_ok h
    cases h
    exact ⟨mem_of_find?_eq_some hf, not_not.mp hst⟩

theorem redemptionStep_cases (h : redemptionStep s action = some next) :
    Quiet s next ∨
      (∃ call, call.redemption ∈ s.redemptions ∧ call.redemption.status = .enabled ∧
        call.redemption.id ∉ s.redeems.map (·.redemption.id) ∧
        next = { s with redeems := s.redeems ++ [call] }) ∨
      (∃ call now, call ∈ s.redeems ∧
        next = ((s.creditUser call).save (call.redeemed now)).endRedeem call) ∨
      ∃ cp, action = .editWrite cp false ∧
        next = { s.writeEdit cp with edits := s.edits.erase cp } := by
  cases action with
  | redeemRead key uid now rf =>
    simp only [redemptionStep] at h
    split at h
    · cases h
      exact .inl ⟨rfl, rfl, rfl, List.Sublist.refl _⟩
    next call hc =>
      split at h
      · cases h
      next hfr =>
        cases h
        obtain ⟨hm, hst⟩ := redeemRead_eq_ok hc
        exact .inr (.inl ⟨call, hm, hst, hfr, rfl⟩)
  | redeemCommit call now fl =>
    simp only [redemptionStep] at h
    split at h
    · cases h
    next hc =>
      split at h
      · cases h
        exact .inl ⟨rfl, rfl, rfl, filter_sublist⟩
      · cases h
        exact .inr (.inr (.inl ⟨call, now, not_not.mp hc, rfl⟩))
  | editRead edit now rf =>
    simp only [redemptionStep] at h
    split at h
    · cases h
      exact .inl ⟨rfl, rfl, rfl, List.Sublist.refl _⟩
    · cases h
      exact .inl ⟨rfl, rfl, rfl, List.Sublist.refl _⟩
  | editWrite cp fl =>
    simp only [redemptionStep] at h
    split at h
    · cases h
    cases fl with
    | true =>
      cases h
      exact .inl ⟨rfl, rfl, rfl, List.Sublist.refl _⟩
    | false =>
      cases h
      exact .inr (.inr (.inr ⟨cp, rfl, rfl⟩))

theorem redemptions_creditUser : (s.creditUser call).redemptions = s.redemptions := by
  unfold RedemptionState.creditUser
  split <;> rfl

theorem redeems_creditUser (s : RedemptionState) (call : RedeemCall) :
    (s.creditUser call).redeems = s.redeems := by
  unfold RedemptionState.creditUser
  split <;> rfl

theorem get?_commit (id : Int) :
    get? Redemption.id
        (((s.creditUser call).save (call.redeemed now)).endRedeem call).redemptions id =
      (get? Redemption.id s.redemptions id).map fun row =>
        if row.id = call.redemption.id then call.redeemed now else row := by
  show get? Redemption.id (updateWhere _ _ (s.creditUser call).redemptions) id = _
  rw [redemptions_creditUser]
  exact get?_replace s.redemptions

theorem get?_writeEdit (id : Int) :
    get? Redemption.id (s.writeEdit cp).redemptions id =
      (get? Redemption.id s.redemptions id).map fun row =>
        if row.id = cp.id then cp.update row else row := by
  show get? Redemption.id (updateWhere _ _ s.redemptions) id = _
  rw [get?_updateWhere]
  · simp only [decide_eq_true_eq]
  · intro row _
    rfl

theorem used_of_step (hke : KeepsUsed s action) (h : redemptionStep s action = some next) {id : Int}
    {row : Redemption} (hr : get? Redemption.id s.redemptions id = some row)
    (hus : row.status = .used) :
    ∃ row', get? Redemption.id next.redemptions id = some row' ∧ row'.status = .used := by
  rcases redemptionStep_cases h with
    hqu | ⟨call, -, -, -, rfl⟩ | ⟨call, now, -, rfl⟩ | ⟨cp, rfl, rfl⟩
  · exact ⟨row, hqu.redemptions ▸ hr, hus⟩
  · exact ⟨row, hr, hus⟩
  · rw [get?_commit, hr]
    refine ⟨_, rfl, ?_⟩
    dsimp only
    split
    · rfl
    · exact hus
  refine ⟨_, (get?_writeEdit id).trans (congrArg _ hr), ?_⟩
  dsimp only
  split
  next hid =>
    have hs : cp.id = id := hid.symm.trans (get?_key hr)
    rcases hke with hfl | hke
    · cases hfl
    · exact hke row (hs ▸ hr) hus
  · exact hus

end

/-! ## Invariant -/

/-- A credited code is used, and the transactions in progress are on different codes that have not
been credited. -/
structure RedeemInv (start : Int → Option Int) (s : RedemptionState) : Prop where
  ids : (s.redemptions.map Redemption.id).Nodup
  calls : (s.redeems.map (·.redemption.id)).Nodup
  once : (s.credits.map RedemptionCredit.id).Nodup
  used : ∀ id ∈ s.credits.map RedemptionCredit.id, ∃ row,
    Table.get? Redemption.id s.redemptions id = some row ∧ row.status = .used
  unpaid : ∀ call ∈ s.redeems, call.redemption.id ∈ s.redemptions.map Redemption.id ∧
    call.redemption.id ∉ s.credits.map RedemptionCredit.id
  quotas : ∀ userId quota, s.quotas userId = some quota → ∃ first, start userId = some first ∧
    quota = first + redeemedBy s.credits userId

section

variable {s0 : Int → Option Int} {s next : RedemptionState} {action : RedemptionAction}

theorem RedeemInv.quiet (hi : RedeemInv s0 s) (hqu : Quiet s next) : RedeemInv s0 next := by
  obtain ⟨hro, hqs, hcr, hre⟩ := hqu
  constructor
  · rw [hro]
    exact hi.ids
  · exact hi.calls.sublist (hre.map _)
  · rw [hcr]
    exact hi.once
  · rw [hcr, hro]
    exact hi.used
  · rw [hcr, hro]
    exact fun call hc => hi.unpaid call (hre.subset hc)
  · rw [hcr, hqs]
    exact hi.quotas

theorem RedeemInv.begin (hi : RedeemInv s0 s) (hm : call.redemption ∈ s.redemptions)
    (hst : call.redemption.status = .enabled)
    (hfr : call.redemption.id ∉ s.redeems.map (·.redemption.id)) :
    RedeemInv s0 { s with redeems := s.redeems ++ [call] } where
  ids := hi.ids
  calls := nodup_append_row hi.calls hfr
  once := hi.once
  used := hi.used
  unpaid := by
    intro other hot
    rcases mem_append.mp hot with ho | hn
    · exact hi.unpaid other ho
    cases mem_singleton.mp hn
    refine ⟨mem_map_of_mem hm, fun hcr => ?_⟩
    obtain ⟨row, hr, hus⟩ := hi.used _ hcr
    rw [get?_of_mem hi.ids hm] at hr
    cases hr
    rw [hst] at hus
    cases hus
  quotas := hi.quotas

theorem RedeemInv.writeEdit (hi : RedeemInv s0 s) (hke : KeepsUsed s (.editWrite cp false))
    (h : redemptionStep s (.editWrite cp false) =
      some { s.writeEdit cp with edits := s.edits.erase cp }) :
    RedeemInv s0 { s.writeEdit cp with edits := s.edits.erase cp } := by
  have his : (s.writeEdit cp).redemptions.map Redemption.id =
      s.redemptions.map Redemption.id := by
    refine map_key_updateWhere ?_
    intro row _
    rfl
  constructor
  · exact his ▸ hi.ids
  · exact hi.calls
  · exact hi.once
  · intro id hid
    obtain ⟨row, hr, hus⟩ := hi.used id hid
    exact used_of_step hke h hr hus
  · intro call hc
    obtain ⟨hm, hun⟩ := hi.unpaid call hc
    exact ⟨his ▸ hm, hun⟩
  · exact hi.quotas

theorem redeemedBy_append :
    redeemedBy (crds ++ [crd]) uid =
      redeemedBy crds uid + if crd.userId = uid then crd.quota else 0 := by
  unfold redeemedBy
  by_cases h : crd.userId = uid <;> simp [h]

theorem creditUser_cases :
    ((s.creditUser call).credits = s.credits ∧ (s.creditUser call).quotas = s.quotas) ∨
      ∃ q, s.quotas call.userId = some q ∧
        (s.creditUser call).credits = s.credits ++ [call.credit] ∧
        (s.creditUser call).quotas =
          Function.update s.quotas call.userId (some (q + call.redemption.quota)) := by
  unfold RedemptionState.creditUser
  cases hq : s.quotas call.userId with
  | none => exact .inl ⟨rfl, rfl⟩
  | some q => exact .inr ⟨q, rfl, rfl, rfl⟩

theorem RedeemInv.quotas_creditUser (hi : RedeemInv s0 s) (uid : Int)
    (q : Int) (hq : (s.creditUser call).quotas uid = some q) :
    ∃ first, s0 uid = some first ∧ q = first + redeemedBy (s.creditUser call).credits uid := by
  rcases creditUser_cases with ⟨hcr, hqs⟩ | ⟨old, ho, hcr, hqs⟩
  · rw [hcr]
    rw [hqs] at hq
    exact hi.quotas uid q hq
  rw [hcr, redeemedBy_append]
  rw [hqs] at hq
  by_cases hus : call.userId = uid
  · subst hus
    rw [Function.update_self] at hq
    cases hq
    obtain ⟨first, hfi, hsu⟩ := hi.quotas _ old ho
    refine ⟨first, hfi, ?_⟩
    show old + call.redemption.quota = first + (_ + if call.userId = call.userId then _ else 0)
    rw [if_pos rfl, hsu]
    exact add_assoc _ _ _
  rw [Function.update_of_ne (Ne.symm hus)] at hq
  have hot : ¬call.credit.userId = uid := hus
  rw [if_neg hot, add_zero]
  exact hi.quotas uid q hq

theorem RedeemInv.commit (hi : RedeemInv s0 s) (hc : call ∈ s.redeems) :
    RedeemInv s0 (((s.creditUser call).save (call.redeemed now)).endRedeem call) := by
  obtain ⟨hm, hun⟩ := hi.unpaid call hc
  have his : ((s.creditUser call).save (call.redeemed now)).redemptions.map Redemption.id =
      s.redemptions.map Redemption.id := by
    unfold RedemptionState.save
    rw [redemptions_creditUser, map_key_replace]
  have hce : ∀ id ∈ (s.creditUser call).credits.map RedemptionCredit.id,
      id = call.redemption.id ∨ id ∈ s.credits.map RedemptionCredit.id := by
    intro id hid
    rcases creditUser_cases with ⟨hcr, -⟩ | ⟨-, -, hcr, -⟩
    · exact .inr (hcr ▸ hid)
    · rw [hcr, map_append, mem_append] at hid
      exact hid.symm.imp_left mem_singleton.mp
  constructor
  · exact his ▸ hi.ids
  · have hs : (((s.creditUser call).save (call.redeemed now)).endRedeem call).redeems.Sublist
        s.redeems := redeems_creditUser s call ▸ filter_sublist
    exact hi.calls.sublist (hs.map _)
  · show ((s.creditUser call).credits.map RedemptionCredit.id).Nodup
    rcases creditUser_cases with ⟨hcr, -⟩ | ⟨-, -, hcr, -⟩
    · rw [hcr]
      exact hi.once
    · rw [hcr]
      exact nodup_append_row hi.once hun
  · intro id hid
    rw [get?_commit]
    rcases hce id hid with rfl | ho
    · -- the code of this redemption is stored as used
      obtain ⟨row, hr⟩ := Option.isSome_iff_exists.mp (isSome_get?_iff.mpr hm)
      rw [hr]
      refine ⟨call.redeemed now, ?_, rfl⟩
      simp [get?_key hr]
    obtain ⟨row, hr, hus⟩ := hi.used id ho
    rw [hr]
    refine ⟨_, rfl, ?_⟩
    dsimp only
    split
    · rfl
    · exact hus
  · -- a redemption that is still open holds another code
    intro other hot
    have hk := mem_filter.mp hot
    have hne : other.redemption.id ≠ call.redemption.id := of_decide_eq_true hk.2
    obtain ⟨hom, hou⟩ := hi.unpaid other (redeems_creditUser s call ▸ hk.1)
    refine ⟨his ▸ hom, fun hpa => ?_⟩
    rcases hce _ hpa with heq | ho
    · exact hne heq
    · exact hou ho
  · exact hi.quotas_creditUser

theorem RedeemInv.step (hi : RedeemInv s0 s) (hke : KeepsUsed s action)
    (h : redemptionStep s action = some next) : RedeemInv s0 next := by
  rcases redemptionStep_cases h with
    hqu | ⟨call, hm, hst, hfr, rfl⟩ | ⟨call, now, hc, rfl⟩ | ⟨cp, rfl, rfl⟩
  · exact hi.quiet hqu
  · exact hi.begin hm hst hfr
  · exact hi.commit hc
  · exact hi.writeEdit hke h

end

/-! ## Runs -/

theorem redeemInv_start (his : (rds.map Redemption.id).Nodup) : RedeemInv qs (.start rds qs) where
  ids := his
  calls := .nil
  once := .nil
  used := fun _ hid => by cases hid
  unpaid := fun _ hc => by cases hc
  quotas := fun _ q hq => ⟨q, hq, (add_zero q).symm⟩

/-- From any table of codes, in every run of redemptions and edits in which no edit writes another
status over a used code: a code has been credited at most once, the quotas are those of the start
with the credits, and a code that is used at some point of the run is used at every later one. -/
theorem redemption_used_once {redemptions : List Redemption} {quotas : Int → Option Int}
    {actions later : List RedemptionAction} {s s' : RedemptionState}
    (hids : (redemptions.map Redemption.id).Nodup)
    (hkeeps : redemptionSystem.Guarded KeepsUsed (.start redemptions quotas) (actions ++ later))
    (hrun : redemptionSystem.run (.start redemptions quotas) actions = some s)
    (hlater : redemptionSystem.run s later = some s') :
    (∀ id, redemptionCount s' id ≤ 1) ∧
      (∀ userId quota, s'.quotas userId = some quota → ∃ first, quotas userId = some first ∧
        quota = first + redeemedBy s'.credits userId) ∧
      ∀ id row, Table.get? Redemption.id s.redemptions id = some row → row.status = .used →
        ∃ row', Table.get? Redemption.id s'.redemptions id = some row' ∧ row'.status = .used := by
  have hs : ∀ s action next, RedeemInv quotas s → KeepsUsed s action →
      redemptionSystem.step s action = some next → RedeemInv quotas next :=
    fun _ _ _ hi hkeeps hx => hi.step hkeeps hx
  have hf := redemptionSystem.guarded_append_left hkeeps
  have hse := redemptionSystem.guarded_append_right hkeeps hrun
  have hi : RedeemInv quotas s := redemptionSystem.guarded_run_preserves _ hs
    (redeemInv_start hids) hf hrun
  have hi' : RedeemInv quotas s' :=
    redemptionSystem.guarded_run_preserves _ hs hi hse hlater
  refine ⟨nodup_iff_count_le_one.mp hi'.once, hi'.quotas, fun id row hr hus => ?_⟩
  -- the code itself is the invariant of the rest of the run
  refine redemptionSystem.guarded_run_preserves
    (fun s => ∃ row', get? Redemption.id s.redemptions id = some row' ∧ row'.status = .used)
    ?_ ⟨row, hr, hus⟩ hse hlater
  rintro s action next ⟨current, hcu, hst⟩ hok hx
  exact used_of_step hok hx hcu hst

def exampleCode : Redemption where
  id := 1
  userId := 9
  key := "k"
  name := "code"
  quota := 50

def redeemedCode : Redemption :=
  { exampleCode with redeemedTime := 11, status := .used, usedUserId := 7 }

def exampleQuotas (userId : Int) : Option Int :=
  if userId = 7 ∨ userId = 8 then some 0 else none

def renameCode : RedemptionEdit where
  id := 1
  name := "renamed"
  quota := 50
  expiredTime := 0

def redeemedAndEdited : List RedemptionAction :=
  [.redeemRead "k" 7 10 false, .redeemCommit ⟨7, exampleCode⟩ 11 false,
    .editRead renameCode 12 false, .editWrite { redeemedCode with name := "renamed" } false,
    .redeemRead "k" 8 13 false]

def redemptionOutcome (actions : List RedemptionAction) :
    Option (List RedemptionStatus × List Int) :=
  (redemptionSystem.run (.start [exampleCode] exampleQuotas) actions).map fun s =>
    (s.redemptions.map Redemption.status, s.credits.map RedemptionCredit.userId)

/-- The code stays used, and only user 7 is credited. -/
theorem redeemedAndEdited_used_once :
    ∃ s, redemptionSystem.run (.start [exampleCode] exampleQuotas) redeemedAndEdited = some s ∧
      (∀ id, redemptionCount s id ≤ 1) ∧
      redemptionOutcome redeemedAndEdited = some ([.used], [7]) := by
  obtain ⟨s, hs⟩ : ∃ s, redemptionSystem.run (.start [exampleCode] exampleQuotas)
      redeemedAndEdited = some s := Option.isSome_iff_exists.mp (by decide)
  refine ⟨s, hs, ?_, by decide⟩
  exact (@redemption_used_once [exampleCode] exampleQuotas [] redeemedAndEdited
    (.start [exampleCode] exampleQuotas) s (by decide) (by decide) rfl hs).1

/-- The code is redeemed by user 7 between the two statements of the edit. It is enabled again, and
user 8 redeems it too. -/
theorem edited_code_redeemed_twice :
    redemptionOutcome
      [.editRead renameCode 9 false, .redeemRead "k" 7 10 false,
        .redeemCommit ⟨7, exampleCode⟩ 11 false,
        .editWrite { exampleCode with name := "renamed" } false] = some ([.enabled], [7]) ∧
    redemptionOutcome
      [.editRead renameCode 9 false, .redeemRead "k" 7 10 false,
        .redeemCommit ⟨7, exampleCode⟩ 11 false,
        .editWrite { exampleCode with name := "renamed" } false, .redeemRead "k" 8 13 false,
        .redeemCommit ⟨8, { exampleCode with name := "renamed", usedUserId := 7 }⟩ 14 false] =
      some ([.used], [7, 8]) := by
  decide

end NewApi.Redemptions
