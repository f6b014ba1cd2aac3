import NewApi.RateLimit.Agreement

/-!
# The limiter that all limits share

One `InMemoryRateLimiter` keeps the queues of every limit (`common/rate-limit.go`). The caller that
initialises it first fixes after how many seconds the cleaner drops an idle queue, whatever the
windows of the others are.
-/

namespace NewApi.RateLimit

open Lib

structure KeyLimit where
  maxRequestNum : Nat
  duration : Nat

/-- The limiter, and for the books the times of the accepted requests. Before `Init` there is no
expiration. -/
structure SharedLimiter (Key : Type) where
  expiration : Option Nat := none
  store : Key → Option (List Nat) := fun _ => none
  clock : Nat := 0
  accepted : Key → List Nat := fun _ => []

/-- `Init`, or some seconds later a request or a turn of the cleaner. -/
inductive SharedAction (Key : Type) where
  | init (expiration : Nat)
  | request (wait : Nat) (key : Key)
  | clear (wait : Nat)

variable {Key : Type} [DecidableEq Key] (limits : Key → KeyLimit)

namespace SharedLimiter

/-- `Request` on the store. -/
def accept (limiter : SharedLimiter Key) (now : Nat) (key : Key) : Bool × Option (List Nat) :=
  RateLimit.request (limits key).maxRequestNum (limits key).duration now (limiter.store key)

def request (limiter : SharedLimiter Key) (now : Nat) (key : Key) : SharedLimiter Key :=
  { limiter with
    clock := now
    store := Function.update limiter.store key (limiter.accept limits now key).2
    accepted :=
      if (limiter.accept limits now key).1 then
        Function.update limiter.accepted key (limiter.accepted key ++ [now])
      else limiter.accepted }

/-- One action. Without `Init` a request would write to a nil map, and without a positive
expiration there is no cleaner. -/
def step (limiter : SharedLimiter Key) : SharedAction Key → Option (SharedLimiter Key)
  | .init expiration =>
    some { limiter with expiration := some (limiter.expiration.getD expiration) }
  | .request wait key =>
    if limiter.expiration.isSome then some (limiter.request limits (limiter.clock + wait) key)
    else none
  | .clear wait =>
    match limiter.expiration with
    | some (expiration + 1) =>
      some { limiter with
        clock := limiter.clock + wait
        store := fun key =>
          clearExpired (expiration + 1) (limiter.clock + wait) (limiter.store key) }
    | _ => none

end SharedLimiter

def sharedSystem : System (SharedLimiter Key) (SharedAction Key) where
  step := SharedLimiter.step limits

/-- The cleaner, if there is one, drops no time that is still in the window of the key. -/
def SharedLimiter.Covers (limiter : SharedLimiter Key) (key : Key) : Prop :=
  ∀ expiration ∈ limiter.expiration, expiration = 0 ∨ (limits key).duration ≤ expiration + 1

/-! ## The window of a key -/

variable {limits} {s t : SharedLimiter Key} {key : Key} {a : SharedAction Key}

structure KeyInv (limits : Key → KeyLimit) (key : Key) (s : SharedLimiter Key) : Prop where
  keeps : QueueKeeps (limits key).duration (max 1 (limits key).maxRequestNum) s.clock
    (s.accepted key) (s.store key)
  window : ∀ now, Window.recent (limits key).duration now (s.accepted key) ≤
    max 1 (limits key).maxRequestNum

theorem expiration_step (hs : s.step limits a = some t) (he : s.expiration = some e) :
    t.expiration = some e := by
  cases a with
  | init e' =>
    cases hs
    simp [he]
  | request w k =>
    simp only [SharedLimiter.step, he, Option.isSome_some, if_true] at hs
    cases hs
    exact he
  | clear w =>
    cases e with
    | zero => simp [SharedLimiter.step, he] at hs
    | succ e =>
      simp only [SharedLimiter.step, he] at hs
      cases hs
      rfl

theorem KeyInv.request (h : KeyInv limits key s) (hle : s.clock ≤ now) (k : Key) :
    KeyInv limits key (s.request limits now k) := by
  have hk := h.keeps.mono hle
  by_cases heq : key = k
  · subst heq
    have hp : QueueKeeps (limits key).duration (max 1 (limits key).maxRequestNum) now
        (if (s.accept limits now key).1 then s.accepted key ++ [now] else s.accepted key)
        (s.accept limits now key).2 := hk.request_push
    cases hac : (s.accept limits now key).1 with
    | false =>
      rw [hac] at hp
      exact ⟨by simpa [SharedLimiter.request, hac] using hp,
        by simpa [SharedLimiter.request, hac] using h.window⟩
    | true =>
      rw [hac] at hp
      -- an accepted request found the window not full
      have hro : ¬max 1 (limits key).maxRequestNum ≤
          Window.recent (limits key).duration now (s.accepted key) := by
        rw [← hk.request_eq_false_iff]
        exact Bool.eq_false_iff.mp.mt (not_not.mpr hac)
      refine ⟨by simpa [SharedLimiter.request, hac] using hp, fun ltr => ?_⟩
      have hw := Window.recent_push_le hk.keeps.past (Nat.lt_of_not_le hro) h.window ltr
      simpa [SharedLimiter.request, hac] using hw
  · have hst : (s.request limits now k).store key = s.store key := Function.update_of_ne heq _ _
    have hac : (s.request limits now k).accepted key = s.accepted key := by
      show (if _ then _ else _ : Key → List Nat) key = _
      split
      · exact Function.update_of_ne heq _ _
      · rfl
    exact ⟨by rw [hst, hac]; exact hk, by rw [hac]; exact h.window⟩

theorem KeyInv.step (h : KeyInv limits key s) (hc : s.Covers limits key)
    (hs : s.step limits a = some t) : KeyInv limits key t := by
  cases a with
  | init e =>
    cases hs
    exact ⟨h.keeps, h.window⟩
  | request w k =>
    simp only [SharedLimiter.step] at hs
    split at hs
    · cases hs
      exact h.request (Nat.le_add_right _ _) k
    · cases hs
  | clear w =>
    simp only [SharedLimiter.step] at hs
    split at hs
    next e he =>
      cases hs
      have hco := (hc _ he).resolve_left (Nat.succ_ne_zero e)
      exact ⟨(h.keeps.mono (Nat.le_add_right _ _)).clear hco, h.window⟩
    next => cases hs

theorem expiration_run (hr : (sharedSystem limits).run s as = some t) (he : s.expiration = some e) :
    t.expiration = some e :=
  (sharedSystem limits).run_preserves (fun s => s.expiration = some e)
    (fun _ _ _ he hs => expiration_step hs he) he hr

theorem KeyInv.run (h : KeyInv limits key s) (hr : (sharedSystem limits).run s as = some t)
    (hc : t.Covers limits key) : KeyInv limits key t := by
  induction as generalizing s with
  | nil =>
    cases hr
    exact h
  | cons a as ih =>
    -- the expiration is the same from the first `Init` on
    have hs : s.Covers limits key := fun e he => hc e (expiration_run hr he)
    obtain ⟨next, hstep, hrest⟩ := (sharedSystem limits).run_cons_eq_some.mp hr
    exact ih (h.step hs hstep) hrest

/-- If the expiration of the shared limiter covers the window of a key, then whatever the requests
of all keys, the calls of `Init` and the turns of the cleaner were, no window has more accepted
requests than the key may have, and a request is rejected only if the last window has as many. -/
theorem shared_window_law {actions : List (SharedAction Key)} {s : SharedLimiter Key} {key : Key}
    (hrun : (sharedSystem limits).run {} actions = some s)
    (hmax : 1 ≤ (limits key).maxRequestNum) (hcovers : s.Covers limits key) :
    (∀ start, (s.accepted key).countP
        (fun time => start ≤ time ∧ time < start + (limits key).duration) ≤
      (limits key).maxRequestNum) ∧
    ∀ wait, (s.accept limits (s.clock + wait) key).1 = false →
      (limits key).maxRequestNum ≤ (s.accepted key).countP
        (fun time => time ≤ s.clock + wait ∧ s.clock + wait < time + (limits key).duration) := by
  have hinv : KeyInv limits key s := by
    refine KeyInv.run ⟨⟨Window.Keeps.nil, ?_⟩, fun _ => Nat.zero_le _⟩ hrun hcovers
    exact Option.some_ne_none _ ∘ Eq.symm
  have hone : max 1 (limits key).maxRequestNum = (limits key).maxRequestNum := by omega
  constructor
  · intro start
    refine Nat.le_trans ?_ (hone ▸ hinv.window (start + (limits key).duration - 1))
    refine List.countP_mono_left fun time _ htime => ?_
    have htime := of_decide_eq_true htime
    exact decide_eq_true ⟨by omega, by omega⟩
  · intro wait hno
    have hfull := ((hinv.keeps.mono (Nat.le_add_right s.clock wait)).request_eq_false_iff).mp hno
    exact hone ▸ hfull

/-- A limit of one request a minute, with an expiration of a minute. -/
theorem minute_window_kept :
    ∃ s, (sharedSystem fun _ : Unit => ⟨1, 60⟩).run {}
        [.init 60, .init 1200, .request 0 (), .request 30 (), .clear 31, .request 0 ()] = some s ∧
      s.accepted () = [0, 61] ∧
      ∀ start, (s.accepted ()).countP (fun time => start ≤ time ∧ time < start + 60) ≤ 1 := by
  refine ⟨_, rfl, rfl, ?_⟩
  refine (@shared_window_law Unit _ (fun _ => ⟨1, 60⟩)
    [.init 60, .init 1200, .request 0 (), .request 30 (), .clear 31, .request 0 ()] _ () rfl
    (by decide) ?_).1
  rintro _ ⟨⟩
  exact .inr (by decide)

/-- A limit of one request in two minutes, with an expiration of a minute. -/
theorem expired_queue_forgotten :
    ∃ s, (sharedSystem fun _ : Unit => ⟨1, 120⟩).run {}
        [.init 60, .request 0 (), .clear 61, .request 0 ()] = some s ∧
      (s.accepted ()).countP (fun time => 0 ≤ time ∧ time < 0 + 120) = 2 :=
  ⟨_, rfl, rfl⟩

end NewApi.RateLimit
