import NewApi.Lib.Processes
import NewApi.Lib.Table
import NewApi.Lib.Transition

/-!
# Two-factor verification

A verification reads the two-factor row of the user, checks the lock on this copy, compares the code
and saves the whole copy (`model/twofa.go`). Any number of them run at once. The state remembers
which backup codes were accepted and how many wrong codes were compared. Hashes are compared by
equality.
-/

namespace NewApi.Users

open Lib List Processes

/-! ## The source -/

def maxFailAttempts : Nat := 5

/-- `LockoutDuration`, in seconds. -/
def lockoutDuration : Int := 300

/-- The row of `TwoFA` but its keys and its secret. -/
structure TwoFA where
  isEnabled : Bool := true
  failedAttempts : Nat := 0
  lockedUntil : Option Int := none
  lastUsedAt : Option Int := none
  deriving DecidableEq

/-- A row of `TwoFABackupCode`. -/
structure BackupCode where
  id : Int
  codeHash : String
  isUsed : Bool := false
  usedAt : Option Int := none
  deriving DecidableEq

namespace TwoFA

def isLocked (row : TwoFA) (now : Int) : Bool :=
  row.lockedUntil.any (now < ·)

/-- `IncrementFailedAttempts`, before the row is saved. -/
def incrementFailedAttempts (row : TwoFA) (now : Int) : TwoFA :=
  { row with
    failedAttempts := row.failedAttempts + 1
    lockedUntil :=
      if maxFailAttempts ≤ row.failedAttempts + 1 then some (now + lockoutDuration)
      else row.lockedUntil }

def succeeded (row : TwoFA) (now : Int) : TwoFA :=
  { row with failedAttempts := 0, lockedUntil := none, lastUsedAt := some now }

end TwoFA

/-- `strconv.Atoi` accepts the text. -/
def isNumber : List Char → Bool
  | '+' :: digits | '-' :: digits => digits ≠ [] && digits.all Char.isDigit
  | digits => digits ≠ [] && digits.all Char.isDigit

def validateNumericCode (code : String) : Option String :=
  let digits := code.toList.filter (· ≠ ' ')
  if digits.length = 6 ∧ isNumber digits then some (String.ofList digits) else none

/-- `unicode.ToUpper` as far as it leads to a letter of ASCII. -/
def upperChar (c : Char) : Char :=
  if c.toNat = 0x131 then 'I' else if c.toNat = 0x17F then 'S' else c.toUpper

def cleanBackupCode (code : String) : List Char :=
  (code.toList.filter (· ≠ '-')).map upperChar

/-- `common.ValidateBackupCode`: the format of a backup code. -/
def isBackupCode (code : String) : Bool :=
  (cleanBackupCode code).length = 8 &&
    (cleanBackupCode code).all fun c => 'A' ≤ c && c ≤ 'Z' || '0' ≤ c && c ≤ '9'

def normalizeBackupCode (code : String) : String :=
  let clean := cleanBackupCode code
  if clean.length = 8 then String.ofList (clean.take 4 ++ '-' :: clean.drop 4) else code

/-! ## Verifications -/

inductive SaveReason where
  | succeeded
  | totpFailed
  | backupFailed
  deriving DecidableEq

inductive VerifyPhase where
  | load
  | totp (copy : TwoFA) (cleanCode : String)
  | loadCodes (copy : TwoFA)
  | compare (copy : TwoFA) (backupCodes : List BackupCode)
  | saveCode (copy : TwoFA) (backupCode : BackupCode)
  | saveRow (copy : TwoFA) (reason : SaveReason)
  | done (success : Bool)
  deriving DecidableEq

structure Verification where
  code : String
  phase : VerifyPhase := .load
  deriving DecidableEq

/-- The rows of the user, the verifications, the backup codes that were accepted and the wrong codes
since a success or a lock. -/
structure TwoFAState where
  row : TwoFA
  codes : List BackupCode
  verifications : List Verification := []
  accepted : List Int := []
  wrong : Nat := 0

/-- The steps: a verification starts, or the one at a position goes on at some time. -/
inductive TwoFAAction where
  | verify (code : String)
  | load (i : Nat)
  | totp (i : Nat) (now : Int)
  | loadCodes (i : Nat) (now : Int)
  | compare (i : Nat) (now : Int)
  | saveCode (i : Nat) (now : Int)
  | saveRow (i : Nat)

namespace TwoFAState

def advance (state : TwoFAState) (i : Nat) (code : String) (phase : VerifyPhase) : TwoFAState :=
  { state with verifications := state.verifications.set i { code, phase } }

/-- `GetTwoFAByUserId`, and the kind of the code. -/
def load (state : TwoFAState) (i : Nat) : Option TwoFAState :=
  match state.verifications[i]? with
  | some ⟨code, .load⟩ =>
    some <| state.advance i code <|
      if state.row.isEnabled = false then .done false
      else
        match validateNumericCode code with
        | some cleanCode => .totp state.row cleanCode
        | none => .loadCodes state.row
  | _ => none

/-- `ValidateTOTPAndUpdateUsage` up to the save. A locked copy goes on to the backup codes, where it
is refused. -/
def totp (validateTOTPCode : Int → String → Bool) (state : TwoFAState) (i : Nat) (now : Int) :
    Option TwoFAState :=
  match state.verifications[i]? with
  | some ⟨code, .totp copy cleanCode⟩ =>
    if copy.isLocked now then some (state.advance i code (.loadCodes copy))
    else if validateTOTPCode now cleanCode then
      let next := state.advance i code (.saveRow (copy.succeeded now) .succeeded)
      some { next with wrong := 0 }
    else
      let next := state.advance i code (.saveRow (copy.incrementFailedAttempts now) .totpFailed)
      some { next with wrong := state.wrong + 1 }
  | _ => none

/-- `ValidateBackupCodeAndUpdateUsage` up to the query of `ValidateBackupCode`. -/
def loadCodes (state : TwoFAState) (i : Nat) (now : Int) : Option TwoFAState :=
  match state.verifications[i]? with
  | some ⟨code, .loadCodes copy⟩ =>
    some <| state.advance i code <|
      if copy.isLocked now then .done false
      else if isBackupCode code then .compare copy (state.codes.filter (·.isUsed = false))
      else .done false
  | _ => none

def compare (state : TwoFAState) (i : Nat) (now : Int) : Option TwoFAState :=
  match state.verifications[i]? with
  | some ⟨code, .compare copy backupCodes⟩ =>
    match backupCodes.find? (·.codeHash = normalizeBackupCode code) with
    | some backupCode => some (state.advance i code (.saveCode copy backupCode))
    | none =>
      let next :=
        state.advance i code (.saveRow (copy.incrementFailedAttempts now) .backupFailed)
      some { next with wrong := state.wrong + 1 }
  | _ => none

def saveCode (state : TwoFAState) (i : Nat) (now : Int) : Option TwoFAState :=
  match state.verifications[i]? with
  | some ⟨code, .saveCode copy backupCode⟩ =>
    let used := { backupCode with isUsed := true, usedAt := some now }
    let next := state.advance i code (.saveRow (copy.succeeded now) .succeeded)
    some { next with
      codes := Table.updateWhere (·.id = used.id) (fun _ => used) state.codes
      accepted := state.accepted ++ [used.id]
      wrong := 0 }
  | _ => none

/-- `TwoFA.Update`. A save after a wrong code locks the account if the copy was locked for it. -/
def saveRow (state : TwoFAState) (i : Nat) : Option TwoFAState :=
  match state.verifications[i]? with
  | some ⟨code, .saveRow copy reason⟩ =>
    let locks := reason ≠ .succeeded ∧ maxFailAttempts ≤ copy.failedAttempts
    let next := state.advance i code <|
      match reason with
      | .succeeded => .done true
      | .totpFailed => .loadCodes copy
      | .backupFailed => .done false
    some { next with row := copy, wrong := if locks then 0 else state.wrong }
  | _ => none

/-- One step; `none` if the verification is not at this point. -/
def step (validateTOTPCode : Int → String → Bool) (state : TwoFAState) :
    TwoFAAction → Option TwoFAState
  | .verify code => some { state with verifications := state.verifications ++ [{ code }] }
  | .load i => state.load i
  | .totp i now => state.totp validateTOTPCode i now
  | .loadCodes i now => state.loadCodes i now
  | .compare i now => state.compare i now
  | .saveCode i now => state.saveCode i now
  | .saveRow i => state.saveRow i

/-- Every backup code was accepted at most once, and at most `maxFailAttempts` wrong codes were
compared since a verification succeeded or the account was locked. -/
def Limited (state : TwoFAState) : Prop :=
  state.accepted.Nodup ∧ state.wrong ≤ maxFailAttempts

end TwoFAState

def twoFASystem (validateTOTPCode : Int → String → Bool) : System TwoFAState TwoFAAction where
  step := TwoFAState.step validateTOTPCode

/-! ## The condition of a step -/

def Verification.unsaved (verification : Verification) : Bool :=
  match verification.phase with
  | .saveRow _ _ => true
  | _ => false

variable {old : Verification} {now : Int} {validateTOTPCode vtc : Int → String → Bool}

namespace TwoFAState

def Settled (state : TwoFAState) : Prop :=
  ∀ verification ∈ state.verifications, verification.unsaved = false
  deriving Decidable

def wrongCopy (validateTOTPCode : Int → String → Bool) (state : TwoFAState) :
    TwoFAAction → Option TwoFA
  | .totp i now =>
    match state.verifications[i]? with
    | some ⟨_, .totp copy cleanCode⟩ =>
      if copy.isLocked now = true ∨ validateTOTPCode now cleanCode = true then none
      else some copy
    | _ => none
  | .compare i _ =>
    match state.verifications[i]? with
    | some ⟨code, .compare copy backupCodes⟩ =>
      if (backupCodes.find? (·.codeHash = normalizeBackupCode code)).isSome then none
      else some copy
    | _ => none
  | _ => none

def savedCode (state : TwoFAState) : TwoFAAction → Option BackupCode
  | .saveCode i _ =>
    match state.verifications[i]? with
    | some ⟨_, .saveCode _ backupCode⟩ => some backupCode
    | _ => none
  | _ => none

/-- A wrong code is compared while no other verification has to save its copy, with a copy that
counts no fewer failures than the row; a backup code that is saved is still unused. -/
def KeepsLimits (validateTOTPCode : Int → String → Bool) (state : TwoFAState)
    (action : TwoFAAction) : Prop :=
  (∀ copy ∈ state.wrongCopy validateTOTPCode action,
      state.Settled ∧ state.row.failedAttempts ≤ copy.failedAttempts) ∧
    ∀ backupCode ∈ state.savedCode action,
      ∃ code ∈ state.codes, code.id = backupCode.id ∧ code.isUsed = false
  deriving Decidable

/-! ## The counter -/

def SavesFailure (state : TwoFAState) (i : Nat) (copy : TwoFA) : Prop :=
  (∃ code reason, reason ≠ SaveReason.succeeded ∧
      state.verifications[i]? = some ⟨code, .saveRow copy reason⟩) ∧
    ∀ (j : Nat) (other : Verification), state.verifications[j]? = some other →
      other.unsaved = true → j = i

/-- The wrong codes are counted: by the row, or by the only copy that has to be saved. -/
def Counted (state : TwoFAState) : Prop :=
  state.wrong = 0 ∨
    (state.Settled ∧ state.wrong ≤ state.row.failedAttempts ∧ state.wrong < maxFailAttempts) ∨
    ∃ i copy, state.SavesFailure i copy ∧ state.wrong ≤ copy.failedAttempts ∧
      state.wrong ≤ maxFailAttempts

variable {state next : TwoFAState} {i : Nat} {code : String}

theorem Counted.wrong_le (h : state.Counted) : state.wrong ≤ maxFailAttempts := by
  rcases h with hz | ⟨-, -, hlt⟩ | ⟨_, _, -, -, hle⟩
  · rw [hz]
    exact Nat.zero_le _
  · exact hlt.le
  · exact hle

theorem Settled.getElem? (h : state.Settled)
    (hi : state.verifications[i]? = some veri) : veri.unsaved = false :=
  h veri (mem_of_getElem? hi)

section

variable (h : state.Counted)
include h

theorem Counted.of_settled (hs : state.Settled) :
    state.wrong ≤ state.row.failedAttempts ∧ state.wrong < maxFailAttempts := by
  rcases h with hz | ⟨-, hco⟩ | ⟨i, cp, ⟨⟨code, rsn, -, hi⟩, -⟩, -⟩
  · rw [hz]
    exact ⟨Nat.zero_le _, by decide⟩
  · exact hco
  · have hsv : true = false := hs.getElem? hi
    cases hsv

theorem Counted.verify (code : String) :
    ({ state with verifications := state.verifications ++ [{ code }] } : TwoFAState).Counted := by
  rcases h with hz | ⟨hs, hco⟩ | ⟨i, cp, ⟨⟨old, rsn, hrs, hi⟩, hon⟩, hle⟩
  · exact .inl hz
  · exact .inr (.inl ⟨forall_mem_append hs rfl, hco⟩)
  refine .inr (.inr ⟨i, cp, ⟨⟨old, rsn, hrs, ?_⟩, fun j other hot hun => ?_⟩, hle⟩)
  · exact (getElem?_append_left (List.getElem?_eq_some_iff.mp hi).1).trans hi
  · rcases getElem?_append_cases hot with ho | rfl
    · exact hon j other ho hun
    · cases hun

theorem Counted.advance (ho : state.verifications[i]? = some old) (hpr : old.unsaved = false)
    (haf : Verification.unsaved ⟨code, ph⟩ = false) : (state.advance i code ph).Counted := by
  rcases h with hz | ⟨hs, hco⟩ | ⟨k, cp, ⟨⟨other, rsn, hrs, hk⟩, hon⟩, hle⟩
  · exact .inl hz
  · exact .inr (.inl ⟨forall_mem_set hs haf, hco⟩)
  have hki : i ≠ k := by
    rintro rfl
    cases Option.some.inj (ho.symm.trans hk)
    cases hpr
  refine .inr (.inr ⟨k, cp, ⟨⟨other, rsn, hrs, ?_⟩, fun j thi hth hun => ?_⟩, hle⟩)
  · exact (getElem?_set_ne hki).trans hk
  rcases getElem?_set_cases hth with ⟨-, rfl⟩ | ⟨-, hth⟩
  · rw [haf] at hun
    cases hun
  · exact hon j thi hth hun

theorem Counted.wrongCode {cp : TwoFA} {rsn : SaveReason} (hrs : rsn ≠ .succeeded)
    (ho : state.verifications[i]? = some old) (hs : state.Settled)
    (hco : state.row.failedAttempts ≤ cp.failedAttempts) :
    ({ state.advance i code (.saveRow (cp.incrementFailedAttempts now) rsn) with
      wrong := state.wrong + 1 } : TwoFAState).Counted := by
  obtain ⟨hr, hlt⟩ := h.of_settled hs
  refine .inr (.inr ⟨i, cp.incrementFailedAttempts now, ⟨⟨code, rsn, hrs, ?_⟩, ?_⟩, ?_, hlt⟩)
  · exact getElem?_set_self ho
  · intro j other hot hun
    rcases getElem?_set_cases hot with ⟨hj, -⟩ | ⟨-, hot⟩
    · exact hj
    · rw [hs.getElem? hot] at hun
      cases hun
  · show state.wrong + 1 ≤ cp.failedAttempts + 1
    omega

theorem Counted.saveRow (hx : state.saveRow i = some next) : next.Counted := by
  unfold TwoFAState.saveRow at hx
  split at hx
  next code cp rsn hi =>
    cases hx
    rcases h with hz | ⟨hs, -⟩ | ⟨k, other, ⟨⟨old, rsn', hrs, hk⟩, hon⟩, hle⟩
    · refine .inl ?_
      rw [hz, ite_self]
    · have hsv : true = false := hs.getElem? hi
      cases hsv
    -- the copy is the only one, and it counts the wrong codes
    obtain rfl := hon i _ hi rfl
    cases Option.some.inj (hi.symm.trans hk)
    by_cases hlo : maxFailAttempts ≤ cp.failedAttempts
    · exact .inl (if_pos ⟨hrs, hlo⟩)
    have hwr : (if rsn ≠ .succeeded ∧ maxFailAttempts ≤ cp.failedAttempts then 0
        else state.wrong) = state.wrong := if_neg fun h => hlo h.2
    refine .inr (.inl ⟨?_, ?_⟩)
    · intro veri hm
      obtain ⟨j, hj⟩ := mem_iff_getElem?.mp hm
      rcases getElem?_set_cases hj with ⟨-, rfl⟩ | ⟨hne, ho⟩
      · cases rsn <;> rfl
      · exact Bool.eq_false_iff.mpr fun hun => hne (hon j veri ho hun)
    · show (if _ then 0 else state.wrong) ≤ cp.failedAttempts ∧
        (if _ then 0 else state.wrong) < maxFailAttempts
      omega
  next => cases hx

end

/-! ## Backup codes -/

def AcceptedOnce (state : TwoFAState) : Prop :=
  state.accepted.Nodup ∧ ∀ code ∈ state.codes, code.id ∈ state.accepted → code.isUsed = true

theorem AcceptedOnce.saveCode (h : state.AcceptedOnce)
    (hun : ∀ bc ∈ state.savedCode (.saveCode i now),
      ∃ code ∈ state.codes, code.id = bc.id ∧ code.isUsed = false)
    (hx : state.saveCode i now = some next) : next.AcceptedOnce := by
  unfold TwoFAState.saveCode at hx
  split at hx
  next code cp bc hi =>
    cases hx
    obtain ⟨stored, hst, hid, hno⟩ := hun bc (by simp [savedCode, hi])
    have hfr : bc.id ∉ state.accepted := by
      intro hm
      have hus := h.2 stored hst (hid ▸ hm)
      rw [hno] at hus
      cases hus
    refine ⟨?_, ?_⟩
    · exact nodup_append.mpr ⟨h.1, nodup_singleton _, fun a ha b hb heq =>
        hfr (mem_singleton.mp hb ▸ heq ▸ ha)⟩
    intro code hco hac
    obtain ⟨old, ho, rfl⟩ := Table.mem_updateWhere.mp hco
    by_cases hs : old.id = bc.id
    · simp [hs]
    rw [if_neg (by simpa using hs)] at hac ⊢
    rcases mem_append.mp hac with hpr | hl
    · exact h.2 old ho hpr
    · exact absurd (mem_singleton.mp hl) hs
  next => cases hx

/-! ## Interleavings -/

def Tracked (state : TwoFAState) : Prop :=
  state.Counted ∧ state.AcceptedOnce

section

variable (h : state.Tracked)
include h

theorem Tracked.limited : state.Limited := ⟨h.2.1, h.1.wrong_le⟩

theorem Tracked.advance (ho : state.verifications[i]? = some old) (hpr : old.unsaved = false)
    (haf : Verification.unsaved ⟨code, ph⟩ = false) : (state.advance i code ph).Tracked :=
  ⟨h.1.advance ho hpr haf, h.2⟩

theorem Tracked.load (hx : state.load i = some next) : next.Tracked := by
  unfold TwoFAState.load at hx
  split at hx
  next code hi =>
    cases hx
    refine h.advance hi rfl ?_
    split
    · rfl
    · split <;> rfl
  next => cases hx

theorem Tracked.totp (hke : state.KeepsLimits vtc (.totp i now))
    (hx : state.totp vtc i now = some next) : next.Tracked := by
  unfold TwoFAState.totp at hx
  split at hx
  next code cp cc hi =>
    split at hx
    next =>
      cases hx
      exact h.advance hi rfl rfl
    next hlo =>
      split at hx
      next =>
        cases hx
        exact ⟨.inl rfl, h.2⟩
      next hin =>
        cases hx
        obtain ⟨hs, hco⟩ := hke.1 cp (by simp [wrongCopy, hi, hlo, hin])
        exact ⟨h.1.wrongCode (by decide) hi hs hco, h.2⟩
  next => cases hx

theorem Tracked.loadCodes (hx : state.loadCodes i now = some next) : next.Tracked := by
  unfold TwoFAState.loadCodes at hx
  split at hx
  next code cp hi =>
    cases hx
    refine h.advance hi rfl ?_
    split
    · rfl
    · split <;> rfl
  next => cases hx

theorem Tracked.compare (hke : state.KeepsLimits vtc (.compare i now))
    (hx : state.compare i now = some next) : next.Tracked := by
  unfold TwoFAState.compare at hx
  split at hx
  next code cp bc hi =>
    split at hx
    next =>
      cases hx
      exact h.advance hi rfl rfl
    next hn =>
      cases hx
      obtain ⟨hs, hco⟩ := hke.1 cp (by simp [wrongCopy, hi, hn])
      exact ⟨h.1.wrongCode (by decide) hi hs hco, h.2⟩
  next => cases hx

theorem Tracked.step (hke : state.KeepsLimits vtc act) (hx : state.step vtc act = some next) :
    next.Tracked := by
  cases act with
  | verify code =>
    cases hx
    exact ⟨h.1.verify code, h.2⟩
  | load i => exact h.load hx
  | totp i now => exact h.totp hke hx
  | loadCodes i now => exact h.loadCodes hx
  | compare i now => exact h.compare hke hx
  | saveCode i now =>
    have hac := h.2.saveCode hke.2 hx
    refine ⟨.inl ?_, hac⟩
    change state.saveCode i now = some next at hx
    unfold TwoFAState.saveCode at hx
    split at hx
    · cases hx
      rfl
    · cases hx
  | saveRow i =>
    refine ⟨h.1.saveRow hx, ?_⟩
    change state.saveRow i = some next at hx
    unfold TwoFAState.saveRow at hx
    split at hx
    · cases hx
      exact h.2
    · cases hx

end

end TwoFAState

theorem tracked_start (codes : List BackupCode) : TwoFAState.Tracked { row, codes } :=
  ⟨.inl rfl, nodup_nil, fun _ _ hm => absurd hm not_mem_nil⟩

/-- Over every interleaving whose steps meet the condition, no backup code is accepted twice, and at
most `maxFailAttempts` wrong codes are compared between successes before the account is locked. -/
theorem verifications_limited {validateTOTPCode : Int → String → Bool} {row : TwoFA}
    {codes : List BackupCode} {actions : List TwoFAAction}
    (hkeeps : (twoFASystem validateTOTPCode).Guarded
      (TwoFAState.KeepsLimits validateTOTPCode) { row, codes } actions) {final : TwoFAState}
    (hrun : (twoFASystem validateTOTPCode).run { row, codes } actions = some final) :
    final.Limited := by
  refine TwoFAState.Tracked.limited ?_
  refine System.guarded_run_preserves _ TwoFAState.Tracked ?_ (tracked_start codes) hkeeps hrun
  exact fun state action next htr hkeeps hs => htr.step hkeeps hs

def oneBackupCode : TwoFAState where
  row := {}
  codes := [{ id := 1, codeHash := "ABCD-1234" }]

def oneCodeSystem : System TwoFAState TwoFAAction :=
  twoFASystem fun _ code => code = "123456"

def outcome (actions : List TwoFAAction) : Option (List Int × Nat × TwoFA) :=
  (oneCodeSystem.run oneBackupCode actions).map fun final =>
    (final.accepted, final.wrong, final.row)

theorem not_limited_of_outcome {actions : List TwoFAAction} {accepted : List Int} {wrong : Nat}
    {row : TwoFA} (h : outcome actions = some (accepted, wrong, row))
    (hbr : ¬accepted.Nodup ∨ maxFailAttempts < wrong) :
    ∃ final, oneCodeSystem.run oneBackupCode actions = some final ∧ ¬final.Limited := by
  obtain ⟨final, hru, hfi⟩ := Option.map_eq_some_iff.mp h
  obtain ⟨rfl, hr⟩ := Prod.mk.inj hfi
  obtain ⟨rfl, -⟩ := Prod.mk.inj hr
  refine ⟨final, hru, fun hli => ?_⟩
  rcases hbr with htw | hmo
  · exact htw hli.1
  · exact absurd hli.2 (Nat.not_le.mpr hmo)

def sameCodeTwice : List TwoFAAction :=
  [.verify "abcd1234", .verify "ABCD-1234", .load 0, .load 1, .loadCodes 0 0, .loadCodes 1 0,
    .compare 0 0, .compare 1 0, .saveCode 0 0, .saveCode 1 0]

def sixWrongCodes : List TwoFAAction :=
  List.replicate 6 (.verify "000000") ++ (List.range 6).map TwoFAAction.load ++
    (List.range 6).map (TwoFAAction.totp · 0) ++ (List.range 6).map TwoFAAction.saveRow

/-- The backup code is accepted twice. Six wrong codes are compared, and when all copies are saved
the row counts one failure and is not locked. -/
theorem backup_code_accepted_twice :
    (∃ final, oneCodeSystem.run oneBackupCode sameCodeTwice = some final ∧ ¬final.Limited) ∧
      outcome sameCodeTwice = some ([1, 1], 0, {}) ∧
      (∃ final, oneCodeSystem.run oneBackupCode sixWrongCodes = some final ∧ ¬final.Limited) ∧
      outcome sixWrongCodes = some ([], 6, { failedAttempts := 1 }) := by
  have htw : outcome sameCodeTwice = some ([1, 1], 0, {}) := by decide +kernel
  have hsi : outcome sixWrongCodes = some ([], 6, { failedAttempts := 1 }) := by decide +kernel
  refine ⟨not_limited_of_outcome htw (.inl (by decide)), htw, ?_, hsi⟩
  exact not_limited_of_outcome hsi (.inr (by decide))

def wrongThenBackup : List TwoFAAction :=
  [.verify "000000", .load 0, .totp 0 10, .verify "abcd-1234", .saveRow 0, .load 1,
    .loadCodes 1 11, .loadCodes 0 11, .compare 1 12, .saveCode 1 12, .saveRow 1]

theorem wrong_then_backup_limited :
    outcome wrongThenBackup = some ([1], 0, { lastUsedAt := some 12 }) ∧
      ∀ final, oneCodeSystem.run oneBackupCode wrongThenBackup = some final → final.Limited := by
  refine ⟨by decide +kernel, fun final hr => verifications_limited ?_ hr⟩
  decide +kernel

end NewApi.Users
