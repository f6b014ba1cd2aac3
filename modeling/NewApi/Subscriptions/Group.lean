import Mathlib.Logic.Function.Basic
import NewApi.Lib.Outcome
import NewApi.Lib.Text
import NewApi.Lib.Transition
import NewApi.Subscriptions.Plan

/-!
# Group upgrades by subscriptions

The creation of a subscription stores the group it replaces, and the end of one restores what it has
stored. `group_restored`: as long as none with an upgrade group is created while another one is
active, the group from before is back whenever none is left.
-/

namespace NewApi.Subscriptions

open Lib List Lib.Table

/-- The tables `user_subscriptions` and `users`, of the latter the `group` column. -/
structure GroupTables where
  subs : List UserSubscription
  group : Int → String

/-- `UPDATE users SET group = … WHERE id = …`. -/
def GroupTables.setGroup (db : GroupTables) (userId : Int) (group : String) : GroupTables :=
  { db with group := Function.update db.group userId group }

@[simp]
theorem GroupTables.setGroup_self (db : GroupTables) :
    (db.setGroup userId grp).group userId = grp := by
  simp [setGroup]

theorem GroupTables.setGroup_of_ne (db : GroupTables) (h : other ≠ userId) :
    (db.setGroup userId grp).group other = db.group other := by
  simp [setGroup, Function.update_of_ne h]

def getUserGroupByIdTx (userId : Int) (db : GroupTables) : Except String String :=
  if userId ≤ 0 then .error "invalid userId" else .ok (db.group userId)

def UserSubscription.Upgrades (userId : Int) (sub : UserSubscription) : Prop :=
  sub.userId = userId ∧ sub.upgradeGroup ≠ ""
  deriving Decidable

/-! ## The transactions -/

def newSubscription (calendar : Calendar) (id userId now endUnix : Int) (plan : SubscriptionPlan)
    (prevGroup : String) : UserSubscription :=
  let nextReset := calcNextResetTime calendar now plan endUnix
  { id
    userId
    planId := plan.id
    amountTotal := plan.totalAmount
    amountTotal_lt := plan.totalAmount_lt
    startTime := now
    endTime := endUnix
    lastResetTime := if nextReset > 0 then now else 0
    nextResetTime := nextReset
    upgradeGroup := trimSpace plan.upgradeGroup
    prevUserGroup := prevGroup }

/-- `id` is the key that the database gives to the row. -/
def createUserSubscriptionFromPlanTx (calendar : Calendar) (id userId : Int)
    (plan : SubscriptionPlan) (enforcePurchaseLimit : Bool) (now : Int) (db : GroupTables) :
    Except String GroupTables :=
  if plan.id = 0 then .error "invalid plan"
  else if userId ≤ 0 then .error "invalid user id"
  else if enforcePurchaseLimit ∧ plan.maxPurchasePerUser > 0 ∧
      (db.subs.countP fun sub => sub.userId = userId ∧ sub.planId = plan.id) ≥
        plan.maxPurchasePerUser then
    .error "已达到该套餐购买上限"
  else
    match calcPlanEndTime calendar now plan with
    | .error err => .error err
    | .ok endUnix =>
      let upgradeGroup := trimSpace plan.upgradeGroup
      let currentGroup := db.group userId
      -- the group is read only for a plan with an upgrade group
      if upgradeGroup ≠ "" ∧ currentGroup ≠ upgradeGroup then
        let sub := newSubscription calendar id userId now endUnix plan currentGroup
        .ok { subs := db.subs ++ [sub], group := (db.setGroup userId upgradeGroup).group }
      else
        let sub := newSubscription calendar id userId now endUnix plan ""
        .ok { db with subs := db.subs ++ [sub] }

def hasLiveUpgrade (userId now : Int) (subs : List UserSubscription) : Bool :=
  subs.any fun sub => sub.Upgrades userId ∧ sub.status = .active ∧ sub.endTime > now

/-- `downgradeUserGroupForSubscriptionTx`, with the group that it sets, or an empty text. -/
def downgradeUserGroupForSubscriptionTx (sub : UserSubscription) (now : Int) (db : GroupTables) :
    Except String (GroupTables × String) :=
  let upgradeGroup := trimSpace sub.upgradeGroup
  if upgradeGroup = "" then .ok (db, "")
  else
    match getUserGroupByIdTx sub.userId db with
    | .error err => .error err
    | .ok currentGroup =>
      if currentGroup ≠ upgradeGroup then .ok (db, "")
      else if hasLiveUpgrade sub.userId now (db.subs.filter fun row => row.id ≠ sub.id) then
        .ok (db, "")
      else
        let prevGroup := trimSpace sub.prevUserGroup
        if prevGroup = "" ∨ prevGroup = currentGroup then .ok (db, "")
        else .ok (db.setGroup sub.userId prevGroup, prevGroup)

def downgradeMessage (downgradeGroup : String) : String :=
  if downgradeGroup ≠ "" then s!"用户分组将回退到 {downgradeGroup}" else ""

/-- The row after `AdminInvalidateUserSubscription`. -/
def UserSubscription.cancel (now : Int) (sub : UserSubscription) : UserSubscription :=
  { sub with status := .cancelled, endTime := now }

/-- The status of the subscription is not looked at. -/
def adminInvalidateUserSubscription (userSubscriptionId now : Int) (db : GroupTables) :
    Except String (GroupTables × String) :=
  if userSubscriptionId ≤ 0 then .error "invalid userSubscriptionId"
  else
    match findSub db.subs userSubscriptionId with
    | none => .error "record not found"
    | some sub =>
      let cancelled := { db with subs := saveSub (sub.cancel now) db.subs }
      (downgradeUserGroupForSubscriptionTx sub now cancelled).map fun result =>
        (result.1, downgradeMessage result.2)

/-- The group is restored before the row is deleted. -/
def adminDeleteUserSubscription (userSubscriptionId now : Int) (db : GroupTables) :
    Except String (GroupTables × String) :=
  if userSubscriptionId ≤ 0 then .error "invalid userSubscriptionId"
  else
    match findSub db.subs userSubscriptionId with
    | none => .error "record not found"
    | some sub =>
      (downgradeUserGroupForSubscriptionTx sub now db).map fun result =>
        ({ result.1 with subs := result.1.subs.filter fun row => row.id ≠ userSubscriptionId },
          downgradeMessage result.2)

/-- `status = 'active' AND end_time > 0 AND end_time <= now`. -/
def UserSubscription.Due (now : Int) (sub : UserSubscription) : Prop :=
  sub.status = .active ∧ sub.endTime > 0 ∧ sub.endTime ≤ now
  deriving Decidable

def markExpired (now userId : Int) (subs : List UserSubscription) : List UserSubscription :=
  Table.updateWhere (fun sub => sub.userId = userId ∧ sub.Due now)
    (fun sub => { sub with status := .expired }) subs

/-- `ORDER BY end_time desc, id desc`. -/
def laterEnd (a b : UserSubscription) : Prop :=
  b.endTime < a.endTime ∨ a.endTime = b.endTime ∧ b.id ≤ a.id

/-- `laterEnd` is decidable by three comparisons. -/
instance : DecidableRel laterEnd :=
  fun _ _ => inferInstanceAs (Decidable (_ ∨ _))

def lastExpired (userId : Int) (subs : List UserSubscription) : Option UserSubscription :=
  Table.first laterEnd (subs.filter fun sub => sub.Upgrades userId ∧ sub.status = .expired)

/-- The downgrade of `ExpireDueSubscriptions` once the due subscriptions are expired. -/
def restoreGroup (now userId : Int) (db : GroupTables) : GroupTables :=
  if hasLiveUpgrade userId now db.subs then db
  else
    match lastExpired userId db.subs with
    | none => db
    | some last =>
      let upgradeGroup := trimSpace last.upgradeGroup
      let prevGroup := trimSpace last.prevUserGroup
      if upgradeGroup = "" ∨ prevGroup = "" then db
      else if db.group userId ≠ upgradeGroup ∨ db.group userId = prevGroup then db
      else db.setGroup userId prevGroup

/-- The transaction of `ExpireDueSubscriptions` for one user. -/
def expireUser (now : Int) (db : GroupTables) (userId : Int) : GroupTables :=
  restoreGroup now userId { db with subs := markExpired now userId db.subs }

/-- The users that `ExpireDueSubscriptions` visits: those of the first due subscriptions. -/
def dueUsers (now limit : Int) (subs : List UserSubscription) : List Int :=
  let limit := if limit ≤ 0 then 200 else limit
  let due := (subs.filter fun sub => sub.Due now).insertionSort fun a b =>
    a.endTime < b.endTime ∨ a.endTime = b.endTime ∧ a.id ≤ b.id
  ((due.take limit.toNat).map UserSubscription.userId).filter (0 < ·)

/-- `ExpireDueSubscriptions`, with the users in the order in which the map yields them. A failed
transaction ends the call, so that not all of them need to be visited. -/
def expireDueSubscriptions (now limit : Int) (visited : List Int) (db : GroupTables) :
    Option GroupTables :=
  if visited.Nodup ∧ ∀ userId ∈ visited, userId ∈ dueUsers now limit db.subs then
    some (visited.foldl (expireUser now) db)
  else none

/-! ## Runs -/

inductive GroupAction where
  | create (id userId : Int) (plan : SubscriptionPlan) (enforcePurchaseLimit : Bool) (now : Int)
  | expire (now limit : Int) (visited : List Int)
  | invalidate (userSubscriptionId now : Int)
  | delete (userSubscriptionId now : Int)

structure GroupState where
  db : GroupTables
  clock : Int

def GroupState.commit (s : GroupState) (outcome : Except String GroupTables) : GroupState :=
  match outcome with
  | .ok db => { s with db }
  | .error _ => s

def groupStep (calendar : Calendar) (s : GroupState) : GroupAction → Option GroupState
  | .create id userId plan enforcePurchaseLimit now =>
    if id ∈ s.db.subs.map UserSubscription.id then none
    else some (s.commit
      (createUserSubscriptionFromPlanTx calendar id userId plan enforcePurchaseLimit now s.db))
  | .expire now limit visited =>
    (expireDueSubscriptions now limit visited s.db).map fun db =>
      { db, clock := max s.clock now }
  | .invalidate id now =>
    some (s.commit ((adminInvalidateUserSubscription id now s.db).map Prod.fst))
  | .delete id now =>
    some (s.commit ((adminDeleteUserSubscription id now s.db).map Prod.fst))

def groupSystem (calendar : Calendar) : System GroupState GroupAction where
  step := groupStep calendar

def HasUpgrade (userId : Int) (db : GroupTables) : Prop :=
  ∃ sub ∈ db.subs, sub.Upgrades userId ∧ sub.status = .active
  deriving Decidable

/-- A subscription with an upgrade group is created for the user only when no other one is active,
after every expiry so far, and for a time that ends after it begins. -/
def CreatedAlone (calendar : Calendar) (userId : Int) (s : GroupState) : GroupAction → Prop
  | .create _ owner plan _ now =>
    owner = userId → trimSpace plan.upgradeGroup ≠ "" →
      ¬ HasUpgrade userId s.db ∧ s.clock ≤ now ∧
        ∀ endUnix, calcPlanEndTime calendar now plan = .ok endUnix → now < endUnix
  | _ => True

/-- A bound on a computed end time is decidable by computing it. -/
instance decidableEndsAfter (calendar : Calendar) (now : Int) (plan : SubscriptionPlan) :
    Decidable (∀ endUnix, calcPlanEndTime calendar now plan = .ok endUnix → now < endUnix) :=
  match h : calcPlanEndTime calendar now plan with
  | .ok endUnix => decidable_of_iff (now < endUnix) (by simp)
  | .error _ => isTrue (by simp)

/-- `CreatedAlone` is decidable: it looks only at creations. -/
instance (calendar : Calendar) (userId : Int) (s : GroupState) (action : GroupAction) :
    Decidable (CreatedAlone calendar userId s action) := by
  delta CreatedAlone
  split <;> infer_instance

/-! ## The invariant -/

structure Remembers (base : String) (sub : UserSubscription) : Prop where
  trimmed : trimSpace sub.upgradeGroup = sub.upgradeGroup
  prev : sub.prevUserGroup = if sub.upgradeGroup = base then "" else base

structure GroupInv (userId : Int) (base : String) (s : GroupState) : Prop where
  ids : (s.db.subs.map UserSubscription.id).Nodup
  remembers : ∀ sub ∈ s.db.subs, sub.Upgrades userId → Remembers base sub
  ended : ∀ sub ∈ s.db.subs, sub.Upgrades userId → sub.status = .expired → sub.endTime ≤ s.clock
  alone : ∀ sub ∈ s.db.subs, ∀ other ∈ s.db.subs, sub.Upgrades userId → sub.status = .active →
    other.Upgrades userId → other.status = .active → sub = other
  last : ∀ sub ∈ s.db.subs, ∀ other ∈ s.db.subs, sub.Upgrades userId → sub.status = .active →
    other.Upgrades userId → other.status = .expired → other.endTime < sub.endTime
  upgraded : ∀ sub ∈ s.db.subs, sub.Upgrades userId → sub.status = .active →
    s.db.group userId = sub.upgradeGroup ∨ s.db.group userId = base
  restored : ¬ HasUpgrade userId s.db → s.db.group userId = base

variable {calendar : Calendar} {own : Int} {subs : List UserSubscription} {row :
  UserSubscription}

section

variable {userId : Int} {base : String} {s : GroupState} {db db' : GroupTables} {clock now : Int}
  {sub : UserSubscription}

theorem GroupInv.congr (h : GroupInv userId base ⟨db, clock⟩)
    (hcl : clock ≤ clk') (hid : (db'.subs.map UserSubscription.id).Nodup)
    (hro : ∀ sub, sub.Upgrades userId → (sub ∈ db'.subs ↔ sub ∈ db.subs))
    (hg : db'.group userId = db.group userId) : GroupInv userId base ⟨db', clk'⟩ where
  ids := hid
  remembers := fun sub hs hup => h.remembers sub ((hro sub hup).mp hs) hup
  ended := fun sub hs hup hst => (h.ended sub ((hro sub hup).mp hs) hup hst).trans hcl
  alone := fun sub hs other hot hup hac hup' hac' =>
    h.alone sub ((hro sub hup).mp hs) other ((hro other hup').mp hot) hup hac hup' hac'
  last := fun sub hs other hot hup hac hup' hex =>
    h.last sub ((hro sub hup).mp hs) other ((hro other hup').mp hot) hup hac hup' hex
  upgraded := by
    intro sub hs hup hac
    rw [hg]
    exact h.upgraded sub ((hro sub hup).mp hs) hup hac
  restored := by
    intro hn
    refine hg.trans (h.restored ?_)
    rintro ⟨sub, hs, hup, hac⟩
    exact hn ⟨sub, (hro sub hup).mpr hs, hup, hac⟩

theorem createUserSubscriptionFromPlanTx_eq_ok {id : Int} {pln : SubscriptionPlan} {epl : Bool}
    (h : createUserSubscriptionFromPlanTx calendar id own pln epl now db = .ok db') :
    ∃ eu pg, calcPlanEndTime calendar now pln = .ok eu ∧
      db'.subs = db.subs ++ [newSubscription calendar id own now eu pln pg] ∧
      (trimSpace pln.upgradeGroup ≠ "" ∧ db.group own ≠ trimSpace pln.upgradeGroup ∧
          pg = db.group own ∧
          db'.group = (db.setGroup own (trimSpace pln.upgradeGroup)).group ∨
        (trimSpace pln.upgradeGroup = "" ∨ db.group own = trimSpace pln.upgradeGroup) ∧
          pg = "" ∧ db'.group = db.group) := by
  unfold createUserSubscriptionFromPlanTx at h
  split at h
  · cases h
  split at h
  · cases h
  split at h
  · cases h
  split at h
  · cases h
  rename_i eu he
  dsimp only at h
  split at h
  · rename_i hch
    cases h
    exact ⟨eu, _, he, rfl, .inl ⟨hch.1, hch.2, rfl, rfl⟩⟩
  · rename_i hk
    cases h
    exact ⟨eu, _, he, rfl, .inr ⟨by rwa [not_and_or, not_not, not_not] at hk, rfl, rfl⟩⟩

theorem GroupInv.create_upgrade (h : GroupInv userId base ⟨db, clock⟩) (hn : ¬ HasUpgrade userId db)
    (hsu : db'.subs = db.subs ++ [sub]) (hid : sub.id ∉ db.subs.map UserSubscription.id)
    (hne : sub.Upgrades userId) (hac : sub.status = .active) (he : clock < sub.endTime)
    (hre : Remembers base sub) (hg : db'.group userId = sub.upgradeGroup) :
    GroupInv userId base ⟨db', clock⟩ := by
  have hm : ∀ row ∈ db'.subs, row ∈ db.subs ∨ row = sub := by
    intro row hr
    rw [hsu, mem_append, mem_singleton] at hr
    exact hr
  have hon : ∀ row ∈ db'.subs, row.Upgrades userId → row.status = .active → row = sub := by
    intro row hr hup hst
    rcases hm row hr with ho | hr
    · exact absurd ⟨row, ho, hup, hst⟩ hn
    · exact hr
  have hex : ∀ row ∈ db'.subs, row.status = .expired → row ∈ db.subs := by
    intro row hr hst
    rcases hm row hr with ho | rfl
    · exact ho
    · rw [hac] at hst
      cases hst
  refine ⟨?_, ?_, ?_, ?_, ?_, ?_, ?_⟩
  · rw [hsu]
    exact nodup_append_row h.ids hid
  · intro row hr hup
    rcases hm row hr with ho | rfl
    · exact h.remembers row ho hup
    · exact hre
  · intro row hr hup hst
    exact h.ended row (hex row hr hst) hup hst
  · intro row hr other hot hup hst hup' hst'
    exact (hon row hr hup hst).trans (hon other hot hup' hst').symm
  · intro row hr other hot hup hst hup' hst'
    rw [hon row hr hup hst]
    exact Int.lt_of_le_of_lt (h.ended other (hex other hot hst') hup' hst') he
  · intro row hr hup hst
    rw [hon row hr hup hst]
    exact .inl hg
  · intro hlo
    refine absurd ⟨sub, ?_, hne, hac⟩ hlo
    simp [hsu]

theorem GroupInv.create {id : Int} {pln : SubscriptionPlan} {epl : Bool}
    (h : GroupInv userId base s) (hid : id ∉ s.db.subs.map UserSubscription.id)
    (hok : CreatedAlone calendar userId s (.create id own pln epl now)) :
    GroupInv userId base (s.commit
      (createUserSubscriptionFromPlanTx calendar id own pln epl now s.db)) := by
  cases hcr : createUserSubscriptionFromPlanTx calendar id own pln epl now s.db with
  | error err => exact h
  | ok db' =>
    obtain ⟨eu, pg, he, hsu, hg⟩ := createUserSubscriptionFromPlanTx_eq_ok hcr
    by_cases hup : own = userId ∧ trimSpace pln.upgradeGroup ≠ ""
    · -- an upgrade of the user, who has no other, so the group is the one from before
      obtain ⟨rfl, hug⟩ := hup
      obtain ⟨hn, hcl, hlt⟩ := hok rfl hug
      have hb : s.db.group own = base := h.restored hn
      refine h.create_upgrade hn hsu hid ⟨rfl, hug⟩ rfl
        (Int.lt_of_le_of_lt hcl (hlt eu he)) ⟨trimSpace_trimSpace _, ?_⟩ ?_
      · rcases hg with ⟨-, hne, hpr, -⟩ | ⟨hs, hpr, -⟩
        · show pg = if trimSpace pln.upgradeGroup = base then "" else base
          rw [hb] at hne
          rw [if_neg hne.symm, hpr, hb]
        · show pg = if trimSpace pln.upgradeGroup = base then "" else base
          have heq := hs.resolve_left hug
          rw [if_pos (heq.symm.trans hb), hpr]
      rcases hg with ⟨-, -, -, hse⟩ | ⟨hs, -, hk⟩
      · rw [hse]
        exact s.db.setGroup_self
      · rw [hk]
        exact hs.resolve_left hug
    · -- the new row is no upgrade of the user
      refine h.congr (Int.le_refl s.clock) ?_ ?_ ?_
      · rw [hsu]
        exact nodup_append_row h.ids hid
      · intro row hr
        rw [hsu, mem_append, mem_singleton, or_iff_left]
        rintro rfl
        exact hup hr
      rcases hg with ⟨hug, -, -, hse⟩ | ⟨-, -, hk⟩
      · rw [hse]
        exact s.db.setGroup_of_ne (fun how => hup ⟨how.symm, hug⟩)
      · rw [hk]

/-- A group that subscriptions can remember: they store it trimmed, and store nothing for an empty
one. -/
def Restorable (base : String) : Prop :=
  base ≠ "" ∧ trimSpace base = base
  deriving Decidable

theorem Remembers.trimSpace_prev (h : Remembers base sub) (hb : Restorable base)
    (hpr : trimSpace sub.prevUserGroup ≠ "") : trimSpace sub.prevUserGroup = base := by
  rw [h.prev] at hpr ⊢
  split at hpr
  · exact absurd (by decide) hpr
  · rename_i hne
    rw [if_neg hne]
    exact hb.2

theorem Remembers.eq_base (h : Remembers base sub) (hb : Restorable base)
    (hpr : trimSpace sub.prevUserGroup = "" ∨ trimSpace sub.prevUserGroup = sub.upgradeGroup) :
    sub.upgradeGroup = base := by
  by_contra hne
  have heq : trimSpace sub.prevUserGroup = base := by
    rw [h.prev, if_neg hne]
    exact hb.2
  rw [heq] at hpr
  exact hpr.elim hb.1 fun heq => hne heq.symm

theorem downgrade_cases (h : downgradeUserGroupForSubscriptionTx sub now db = .ok (db', tgt)) :
    (db' = db ∧ (trimSpace sub.upgradeGroup = "" ∨
      db.group sub.userId ≠ trimSpace sub.upgradeGroup ∨
      hasLiveUpgrade sub.userId now (db.subs.filter fun row => row.id ≠ sub.id) = true ∨
      db.group sub.userId = trimSpace sub.upgradeGroup ∧
        (trimSpace sub.prevUserGroup = "" ∨
          trimSpace sub.prevUserGroup = trimSpace sub.upgradeGroup))) ∨
    (db' = db.setGroup sub.userId (trimSpace sub.prevUserGroup) ∧
      trimSpace sub.upgradeGroup ≠ "" ∧ trimSpace sub.prevUserGroup ≠ "") := by
  unfold downgradeUserGroupForSubscriptionTx getUserGroupByIdTx at h
  dsimp only at h
  split at h
  · rename_i hem
    cases h
    exact .inl ⟨rfl, .inl hem⟩
  rename_i hup
  split at h
  · cases h
  rename_i cg hcu
  have hcu : db.group sub.userId = cg := Except.ok.inj (check_eq_ok hcu).2
  split at h
  · rename_i hot
    cases h
    exact .inl ⟨rfl, .inr (.inl (by rwa [hcu]))⟩
  rename_i hs
  have hs := hcu.trans (not_not.mp hs)
  split at h
  · rename_i hli
    cases h
    exact .inl ⟨rfl, .inr (.inr (.inl hli))⟩
  split at h
  · rename_i hpr
    cases h
    rw [← hcu, hs] at hpr
    exact .inl ⟨rfl, .inr (.inr (.inr ⟨hs, hpr⟩))⟩
  · rename_i hpr
    cases h
    exact .inr ⟨rfl, hup, fun hem => hpr (.inl hem)⟩

theorem GroupInv.downgrade (h : GroupInv userId base ⟨db, clock⟩) (hb : Restorable base)
    (hs : sub ∈ db.subs) (hdo : downgradeUserGroupForSubscriptionTx sub now mid = .ok (db', tgt))
    (hg : mid.group = db.group) (hro : ∀ row, row.id ≠ sub.id → (row ∈ mid.subs ↔ row ∈ db.subs)) :
    db'.subs = mid.subs ∧
      (db'.group userId = db.group userId ∨ db'.group userId = base) ∧
      (sub.Upgrades userId → sub.status = .active → db'.group userId = base) := by
  rcases downgrade_cases hdo with ⟨rfl, hk⟩ | ⟨rfl, hug, hpr⟩
  · refine ⟨rfl, .inl (by rw [hg]), fun hup hac => ?_⟩
    have hre := h.remembers sub hs hup
    rw [hg, hre.trimmed, hup.1] at hk
    rw [hg]
    rcases hk with hem | hot | hli | ⟨hsa, hpr⟩
    · exact absurd hem hup.2
    · exact (h.upgraded sub hs hup hac).resolve_left hot
    · -- two live upgrades of one user are the same subscription
      simp only [hasLiveUpgrade, any_eq_true, mem_filter, decide_eq_true_eq] at hli
      obtain ⟨row, ⟨hr, hne⟩, hup', hac', -⟩ := hli
      have heq := h.alone row ((hro row hne).mp hr) sub hs hup' hac' hup hac
      exact absurd (congrArg UserSubscription.id heq) hne
    · exact hsa.trans (hre.eq_base hb hpr)
  · by_cases how : sub.userId = userId
    · have hup : sub.Upgrades userId := by
        refine ⟨how, fun hem => hug ?_⟩
        rw [hem]
        decide
      have hse : (mid.setGroup sub.userId (trimSpace sub.prevUserGroup)).group userId =
          base := by
        rw [← how, GroupTables.setGroup_self]
        exact (h.remembers sub hs hup).trimSpace_prev hb hpr
      exact ⟨rfl, .inr hse, fun _ _ => hse⟩
    · -- the subscription of another user
      refine ⟨rfl, .inl ?_, fun hup _ => absurd hup.1 how⟩
      rw [GroupTables.setGroup_of_ne _ (Ne.symm how), hg]

theorem GroupInv.drop (h : GroupInv userId base ⟨db, clock⟩) (hsu : sub ∈ db.subs)
    (his : (db'.subs.map UserSubscription.id).Nodup)
    (hro : ∀ row ∈ db'.subs, row ∈ db.subs ∧ row.id ≠ sub.id ∨
      row.status = .cancelled ∧ (row.Upgrades userId → Remembers base row))
    (hk : ∀ row ∈ db.subs, row.id ≠ sub.id → row ∈ db'.subs)
    (hg : db'.group userId = db.group userId ∨ db'.group userId = base)
    (hrs : sub.Upgrades userId → sub.status = .active → db'.group userId = base) :
    GroupInv userId base ⟨db', clock⟩ := by
  -- a row that is active or expired is an old one
  have ho : ∀ row ∈ db'.subs, row.status ≠ .cancelled → row ∈ db.subs := fun row hr hst =>
    (hro row hr).elim And.left fun hca => absurd hca.1 hst
  have hac : ∀ row ∈ db'.subs, row.status = .active → row ∈ db.subs := fun row hr hst =>
    ho row hr (by rw [hst]; decide)
  have hex : ∀ row ∈ db'.subs, row.status = .expired → row ∈ db.subs :=
    fun row hr hst => ho row hr (by rw [hst]; decide)
  refine ⟨his, ?_, ?_, ?_, ?_, ?_, ?_⟩
  · intro row hr hup
    rcases hro row hr with ⟨hm, -⟩ | ⟨-, hre⟩
    · exact h.remembers row hm hup
    · exact hre hup
  · intro row hr hup hst
    exact h.ended row (hex row hr hst) hup hst
  · intro row hr other hot hup hst hup' hst'
    exact h.alone row (hac row hr hst) other (hac other hot hst') hup hst hup' hst'
  · intro row hr other hot hup hst hup' hst'
    exact h.last row (hac row hr hst) other (hex other hot hst') hup hst hup' hst'
  · intro row hr hup hst
    rcases hg with hs | hba
    · rw [hs]
      exact h.upgraded row (hac row hr hst) hup hst
    · exact .inr hba
  · intro hn
    by_cases hwa : sub.Upgrades userId ∧ sub.status = .active
    · exact hrs hwa.1 hwa.2
    have hpr : ¬ HasUpgrade userId db := by
      rintro ⟨row, hr, hup, hst⟩
      have hne : row.id ≠ sub.id := by
        intro hid
        have heq : row = sub := Option.some.inj ((get?_of_mem h.ids hr).symm.trans
          (hid ▸ get?_of_mem h.ids hsu))
        exact hwa (heq ▸ ⟨hup, hst⟩)
      exact hn ⟨row, hk row hr hne, hup, hst⟩
    have hb := h.restored hpr
    exact hg.elim (fun hs => hs.trans hb) id

theorem GroupInv.invalidate (h : GroupInv userId base s) (hb : Restorable base) (id : Int) :
    GroupInv userId base (s.commit
      ((adminInvalidateUserSubscription id now s.db).map Prod.fst)) := by
  cases hou : adminInvalidateUserSubscription id now s.db with
  | error err => exact h
  | ok res =>
    obtain ⟨db', message⟩ := res
    unfold adminInvalidateUserSubscription at hou
    split at hou
    · cases hou
    split at hou
    · cases hou
    rename_i sub hf
    have hs : sub ∈ s.db.subs := get?_mem hf
    obtain ⟨⟨after, tgt⟩, hdo, hre⟩ := map_eq_ok hou
    obtain rfl : after = db' := congrArg Prod.fst hre
    have hr : ∀ row, row.id ≠ sub.id →
        (row ∈ saveSub (sub.cancel now) s.db.subs ↔ row ∈ s.db.subs) := fun row hne =>
      mem_saveSub_of_ne hne
    obtain ⟨hsu, hg, hrs⟩ := h.downgrade hb hs hdo rfl hr
    refine h.drop hs ?_ ?_ ?_ hg hrs
    · rw [hsu]
      exact (map_id_saveSub).symm ▸ h.ids
    · intro row hm
      rw [hsu] at hm
      rcases mem_saveSub hm with rfl | ho
      · exact .inr ⟨rfl, fun hup => ⟨(h.remembers sub hs hup).trimmed,
          (h.remembers sub hs hup).prev⟩⟩
      · exact .inl ho
    · intro row hm hne
      rw [hsu]
      exact (hr row hne).mpr hm

theorem GroupInv.delete (h : GroupInv userId base s) (hb : Restorable base) (id : Int) :
    GroupInv userId base (s.commit ((adminDeleteUserSubscription id now s.db).map Prod.fst)) := by
  cases hou : adminDeleteUserSubscription id now s.db with
  | error err => exact h
  | ok res =>
    obtain ⟨db', message⟩ := res
    unfold adminDeleteUserSubscription at hou
    split at hou
    · cases hou
    split at hou
    · cases hou
    rename_i sub hf
    have hs : sub ∈ s.db.subs := get?_mem hf
    have hid : sub.id = id := get?_key hf
    obtain ⟨⟨after, tgt⟩, hdo, hre⟩ := map_eq_ok hou
    obtain rfl := congrArg Prod.fst hre
    obtain ⟨hsu, hg, hr⟩ := h.downgrade hb hs hdo rfl fun _ _ => Iff.rfl
    refine h.drop hs ?_ ?_ ?_ hg hr
    · rw [hsu]
      exact h.ids.sublist (filter_sublist.map _)
    · intro row hm
      have hm : row ∈ s.db.subs ∧ row.id ≠ id := by simpa [hsu] using hm
      exact .inl ⟨hm.1, hid ▸ hm.2⟩
    · intro row hm hne
      simpa [hsu, hid ▸ hne] using hm

/-! ## Expiry -/

/-- `laterEnd` orders the table: it is a lexicographic order on two columns. -/
instance : Std.Total laterEnd where
  total a b := by
    unfold laterEnd
    omega

/-- The order is transitive. -/
instance : IsTrans UserSubscription laterEnd where
  trans a b c hab hbc := by
    unfold laterEnd at hab hbc ⊢
    omega

theorem mem_markExpired (h : row ∈ markExpired now own subs) :
    row ∈ subs ∧ ¬ (row.userId = own ∧ row.Due now) ∨
      ∃ old ∈ subs, (old.userId = own ∧ old.Due now) ∧ row = { old with status := .expired } := by
  obtain ⟨old, ho, hr⟩ := mem_updateWhere.mp h
  split at hr
  · rename_i hdu
    exact .inr ⟨old, ho, of_decide_eq_true hdu, hr.symm⟩
  · rename_i hdu
    subst hr
    exact .inl ⟨ho, fun h => hdu (decide_eq_true h)⟩

theorem mem_markExpired_of_not_due (h : row ∈ subs) (hdu : ¬ (row.userId = own ∧ row.Due now)) :
    row ∈ markExpired now own subs :=
  mem_updateWhere.mpr ⟨row, h, by simp [hdu]⟩

theorem expired_mem_markExpired (h : row ∈ subs) (hdu : row.userId = own ∧ row.Due now) :
    { row with status := .expired } ∈ markExpired now own subs :=
  mem_updateWhere.mpr ⟨row, h, by simp [hdu]⟩

theorem map_id_markExpired :
    (markExpired now own subs).map UserSubscription.id = subs.map UserSubscription.id := by
  refine map_key_updateWhere ?_
  intro row _
  rfl

theorem restoreGroup_eq :
    (restoreGroup now own db = db ∧ (hasLiveUpgrade own now db.subs = true ∨
      lastExpired own db.subs = none ∨
      ∃ last, lastExpired own db.subs = some last ∧
        ((trimSpace last.upgradeGroup = "" ∨ trimSpace last.prevUserGroup = "") ∨
          trimSpace last.prevUserGroup ≠ "" ∧ (db.group own ≠ trimSpace last.upgradeGroup ∨
            db.group own = trimSpace last.prevUserGroup)))) ∨
    ∃ last, lastExpired own db.subs = some last ∧ trimSpace last.prevUserGroup ≠ "" ∧
      restoreGroup now own db = db.setGroup own (trimSpace last.prevUserGroup) := by
  unfold restoreGroup
  split
  · rename_i hli
    exact .inl ⟨rfl, .inl hli⟩
  split
  · rename_i hn
    exact .inl ⟨rfl, .inr (.inl hn)⟩
  rename_i last hl
  dsimp only
  split
  · rename_i hem
    exact .inl ⟨rfl, .inr (.inr ⟨last, hl, .inl hem⟩)⟩
  rename_i hem
  rw [not_or] at hem
  split
  · rename_i hk
    exact .inl ⟨rfl, .inr (.inr ⟨last, hl, .inr ⟨hem.2, hk⟩⟩)⟩
  · exact .inr ⟨last, hl, hem.2, rfl⟩

theorem restoreGroup_subs :
    (restoreGroup now own db).subs = db.subs := by
  rcases restoreGroup_eq with ⟨heq, -⟩ | ⟨last, -, -, heq⟩
  · rw [heq]
  · rw [heq]
    rfl

theorem restoreGroup_of_ne (h : userId ≠ own) :
    (restoreGroup now own db).group userId = db.group userId := by
  rcases restoreGroup_eq with ⟨heq, -⟩ | ⟨last, -, -, heq⟩
  · rw [heq]
  · rw [heq]
    exact GroupTables.setGroup_of_ne _ h

theorem upgrades_of_lastExpired (h : lastExpired own subs = some sub) :
    sub ∈ subs ∧ sub.Upgrades own := by
  have hm := (first_eq_some h).1
  simp only [mem_filter, decide_eq_true_eq] at hm
  exact ⟨hm.1, hm.2.1⟩

theorem restoreGroup_cases (hb : Restorable base)
    (hre : ∀ sub ∈ db.subs, sub.Upgrades userId → Remembers base sub) :
    ((restoreGroup now userId db).group userId = db.group userId ∨
        (restoreGroup now userId db).group userId = base) ∧
      (∀ last, lastExpired userId db.subs = some last → ¬ hasLiveUpgrade userId now db.subs →
        db.group userId = last.upgradeGroup →
          (restoreGroup now userId db).group userId = base) := by
  rcases restoreGroup_eq with ⟨heq, hk⟩ | ⟨last, hl, hpr, heq⟩
  · rw [heq]
    refine ⟨.inl rfl, fun last hl hn hg => ?_⟩
    obtain ⟨hs, hup⟩ := upgrades_of_lastExpired hl
    have hr := hre last hs hup
    rw [hl] at hk
    rcases hk with hli | hem | ⟨other, hot, hrs⟩
    · exact absurd hli hn
    · cases hem
    obtain rfl := Option.some.inj hot
    rw [hr.trimmed] at hrs
    rcases hrs with hem | ⟨hpr, hsa⟩
    · rw [hg]
      exact hr.eq_base hb (.inl (hem.resolve_left hup.2))
    · rw [hsa.resolve_left fun hne => hne hg]
      exact hr.trimSpace_prev hb hpr
  · obtain ⟨hs, hup⟩ := upgrades_of_lastExpired hl
    have hse : (restoreGroup now userId db).group userId = base := by
      rw [heq, GroupTables.setGroup_self]
      exact (hre last hs hup).trimSpace_prev hb hpr
    exact ⟨.inr hse, fun _ _ _ _ => hse⟩

theorem active_of_mem_markExpired (h : row ∈ markExpired now own subs)
    (hac : row.status = .active) : row ∈ subs ∧ ¬ (row.userId = own ∧ row.Due now) := by
  rcases mem_markExpired h with ho | ⟨old, -, -, rfl⟩
  · exact ho
  · cases hac

section

variable (h : GroupInv userId base ⟨db, clock⟩)
include h

theorem GroupInv.lastExpired_of_due (hs : sub ∈ db.subs) (hup : sub.Upgrades userId)
    (hdu : sub.Due now) :
    lastExpired userId (markExpired now userId db.subs) = some { sub with status := .expired } := by
  have hm : { sub with status := .expired } ∈ (markExpired now userId db.subs).filter
      fun row => row.Upgrades userId ∧ row.status = .expired := by
    refine mem_filter.mpr ⟨expired_mem_markExpired hs ⟨hup.1, hdu⟩, ?_⟩
    exact decide_eq_true ⟨hup, rfl⟩
  cases hl : lastExpired userId (markExpired now userId db.subs) with
  | none =>
    rw [first_eq_none hl] at hm
    cases hm
  | some last =>
    obtain ⟨hfi, hpr⟩ := first_eq_some hl
    obtain ⟨hlm, hla⟩ := mem_filter.mp hfi
    obtain ⟨hla, hex⟩ := of_decide_eq_true hla
    rcases mem_markExpired hlm with ⟨ho, -⟩ | ⟨old, ho, hdu', rfl⟩
    · -- an older one ended before this one
      have hlt := h.last sub hs last ho hup hdu.1 hla hex
      rcases hpr _ hm with heq | hlr
      · rw [heq]
      · unfold laterEnd at hlr
        dsimp only at hlr
        omega
    · have heq := h.alone old ho sub hs hla hdu'.2.1 hup hdu.1
      rw [heq]

theorem GroupInv.expireUser_self (hb : Restorable base) :
    GroupInv userId base ⟨expireUser now db userId, max clock now⟩ := by
  have hre : ∀ sub ∈ markExpired now userId db.subs, sub.Upgrades userId →
      Remembers base sub := by
    intro row hr hup
    rcases mem_markExpired hr with ⟨ho, -⟩ | ⟨old, ho, -, rfl⟩
    · exact h.remembers row ho hup
    · exact ⟨(h.remembers old ho hup).trimmed, (h.remembers old ho hup).prev⟩
  obtain ⟨hg, hla⟩ := @restoreGroup_cases userId base
    { db with subs := markExpired now userId db.subs } now hb hre
  have hsb : (expireUser now db userId).subs = markExpired now userId db.subs :=
    restoreGroup_subs
  have hrs : ∀ sub ∈ db.subs, sub.Upgrades userId → sub.Due now →
      (expireUser now db userId).group userId = base := by
    intro sub hsu hup hdu
    rcases h.upgraded sub hsu hup hdu.1 with hcu | hcu
    · refine hla _ (h.lastExpired_of_due hsu hup hdu) ?_ hcu
      intro hli
      simp only [hasLiveUpgrade, any_eq_true, decide_eq_true_eq] at hli
      obtain ⟨row, hr, hup', hac, hlt⟩ := hli
      obtain ⟨ho, -⟩ := active_of_mem_markExpired hr hac
      have heq := h.alone row ho sub hsu hup' hac hup hdu.1
      have := hdu.2.2
      rw [heq] at hlt
      omega
    · exact hg.elim (fun hs => hs.trans hcu) id
  refine ⟨?_, ?_, ?_, ?_, ?_, ?_, ?_⟩ <;> dsimp only <;> try rw [hsb]
  · rw [map_id_markExpired]
    exact h.ids
  · exact hre
  · intro row hr hup hex
    rcases mem_markExpired hr with ⟨ho, -⟩ | ⟨old, ho, hdu, rfl⟩
    · exact (h.ended row ho hup hex).trans (Int.le_max_left _ _)
    · exact hdu.2.2.2.trans (Int.le_max_right _ _)
  · intro row hr other hot hup hac hup' hac'
    exact h.alone row (active_of_mem_markExpired hr hac).1 other
      (active_of_mem_markExpired hot hac').1 hup hac hup' hac'
  · intro row hr other hot hup hac hup' hex
    obtain ⟨ho, hno⟩ := active_of_mem_markExpired hr hac
    rcases mem_markExpired hot with ⟨hm, -⟩ | ⟨old, hm, hdu, rfl⟩
    · exact h.last row ho other hm hup hac hup' hex
    · -- the only active upgrade is not due
      have heq := h.alone row ho old hm hup hac hup' hdu.2.1
      exact absurd (heq ▸ hdu) hno
  · intro row hr hup hac
    rcases hg with hs | hba
    · rw [show (expireUser now db userId).group userId = db.group userId from hs]
      exact h.upgraded row (active_of_mem_markExpired hr hac).1 hup hac
    · exact .inr hba
  · intro hn
    by_cases hwa : HasUpgrade userId db
    · obtain ⟨sub, hsu, hup, hac⟩ := hwa
      by_cases hdu : sub.Due now
      · exact hrs sub hsu hup hdu
      · refine absurd ⟨sub, ?_, hup, hac⟩ hn
        rw [hsb]
        exact mem_markExpired_of_not_due hsu fun h => hdu h.2
    · have hpr := h.restored hwa
      exact hg.elim (fun hs => hs.trans hpr) id

theorem GroupInv.expireUser_other (hne : userId ≠ own) :
    GroupInv userId base ⟨expireUser now db own, max clock now⟩ := by
  have hsu : (expireUser now db own).subs = markExpired now own db.subs :=
    restoreGroup_subs
  refine h.congr (Int.le_max_left _ _) ?_ ?_ (restoreGroup_of_ne hne)
  · rw [hsu, map_id_markExpired]
    exact h.ids
  intro row hup
  have hno : ¬ (row.userId = own ∧ row.Due now) := fun h => hne (hup.1.symm.trans h.1)
  rw [hsu]
  refine ⟨fun hr => ?_, fun hr => mem_markExpired_of_not_due hr hno⟩
  rcases mem_markExpired hr with ⟨ho, -⟩ | ⟨old, -, hdu, rfl⟩
  · exact ho
  · exact absurd (hup.1.symm.trans hdu.1) hne

end

theorem GroupInv.expireUsers (hb : Restorable base) (visi : List Int)
    (h : GroupInv userId base ⟨db, max clock now⟩) :
    GroupInv userId base ⟨visi.foldl (expireUser now) db, max clock now⟩ := by
  induction visi generalizing db with
  | nil => exact h
  | cons own rs ih =>
    have hcl : max (max clock now) now = max clock now := by omega
    refine ih ?_
    rw [← hcl]
    by_cases how : userId = own
    · subst how
      exact h.expireUser_self hb
    · exact h.expireUser_other how

theorem GroupInv.step {act : GroupAction} {s' : GroupState} (hb : Restorable base)
    (h : GroupInv userId base s) (hok : CreatedAlone calendar userId s act)
    (hs : groupStep calendar s act = some s') : GroupInv userId base s' := by
  cases act with
  | create id own pln epl now =>
    simp only [groupStep] at hs
    split at hs
    · cases hs
    · rename_i hid
      cases hs
      exact h.create hid hok
  | expire now lim visi =>
    obtain ⟨db, hex, rfl⟩ := Option.map_eq_some_iff.mp hs
    unfold expireDueSubscriptions at hex
    split at hex
    · cases hex
      refine GroupInv.expireUsers hb visi ?_
      exact h.congr (Int.le_max_left _ _) h.ids (fun _ _ => Iff.rfl) rfl
    · cases hex
  | invalidate id now =>
    cases hs
    exact h.invalidate hb id
  | delete id now =>
    cases hs
    exact h.delete hb id

/-- A user without upgrades, in a group that can be restored: after any transactions that create
the user's upgrades one at a time, the group is the one from before whenever no active upgrade is
left. -/
theorem group_restored {calendar : Calendar} {start final : GroupState} {actions : List GroupAction}
    (hids : (start.db.subs.map UserSubscription.id).Nodup)
    (hnone : ∀ sub ∈ start.db.subs, ¬ sub.Upgrades userId)
    (hbase : Restorable (start.db.group userId))
    (hok : (groupSystem calendar).Guarded (CreatedAlone calendar userId) start actions)
    (hrun : (groupSystem calendar).run start actions = some final)
    (hleft : ¬ HasUpgrade userId final.db) : final.db.group userId = start.db.group userId := by
  have hin : GroupInv userId (start.db.group userId) start := by
    refine ⟨hids, ?_, ?_, ?_, ?_, ?_, fun _ => rfl⟩
    · exact fun sub hs hup => absurd hup (hnone sub hs)
    · exact fun sub hs hup => absurd hup (hnone sub hs)
    · exact fun sub hs _ _ hup => absurd hup (hnone sub hs)
    · exact fun sub hs _ _ hup => absurd hup (hnone sub hs)
    · exact fun sub hs hup => absurd hup (hnone sub hs)
  have hfi := (groupSystem calendar).guarded_run_preserves
    (GroupInv userId (start.db.group userId))
    (fun _ _ _ h hok hst => GroupInv.step hbase h hok hst) hin hok hrun
  exact hfi.restored hleft

end

def upgradePlan (id : Int) (upgradeGroup : String) (seconds : Int) : SubscriptionPlan where
  id := id
  durationUnit := .custom
  customSeconds := seconds
  upgradeGroup := upgradeGroup

def defaultGroups : GroupState where
  db := { subs := [], group := fun _ => "default" }
  clock := 0

def upgradesInTurn : List GroupAction :=
  [.create 1 7 (upgradePlan 1 "vip" 100) true 1000, .expire 1100 0 [7],
    .create 2 7 (upgradePlan 2 "svip" 100) true 1200, .invalidate 2 1250]

/-- After both the user is in the default group again. -/
theorem upgradesInTurn_restored :
    ∃ final, (groupSystem plainCalendar).run defaultGroups upgradesInTurn = some final ∧
      final.db.group 7 = "default" := by
  refine ⟨_, rfl, ?_⟩
  exact @group_restored 7 plainCalendar defaultGroups _ upgradesInTurn (by decide) (by decide)
    (by decide) (by decide) rfl (by decide)

/-- A user with `vip` buys `svip`, `vip` expires and then `svip`: the user stays in `vip`. And a
user who buys `vip` twice stays in it when both have expired. -/
theorem overlapping_upgrades_not_restored :
    (∃ final, (groupSystem plainCalendar).run defaultGroups
        [.create 1 7 (upgradePlan 1 "vip" 100) true 1000,
          .create 2 7 (upgradePlan 2 "svip" 200) true 1050,
          .expire 1100 0 [7], .expire 1250 0 [7]] = some final ∧
      ¬ HasUpgrade 7 final.db ∧ final.db.group 7 = "vip") ∧
    ∃ final, (groupSystem plainCalendar).run defaultGroups
        [.create 1 7 (upgradePlan 1 "vip" 100) true 1000,
          .create 2 7 (upgradePlan 1 "vip" 100) true 1050,
          .expire 1100 0 [7], .expire 1150 0 [7]] = some final ∧
      ¬ HasUpgrade 7 final.db ∧ final.db.group 7 = "vip" := by
  refine ⟨⟨_, rfl, ?_, ?_⟩, _, rfl, ?_, ?_⟩ <;> decide

end NewApi.Subscriptions
