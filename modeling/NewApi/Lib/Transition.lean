import Mathlib.Data.List.Basic

/-!
# Runs of labelled transition systems

A `System` is a partial step function. `Guarded ok` says that every action of a run meets a
condition; `run_preserves` and `guarded_run_preserves` turn a step lemma into a run lemma.
-/

namespace NewApi.Lib

universe u v

/-- A labelled transition system: an action is enabled in a state when `step` returns one. -/
structure System (State : Type u) (Action : Type v) where
  step : State → Action → Option State

namespace System

variable {State : Type u} {Action : Type v} (sys : System State Action)

/-- Execute the actions in order; the run is undefined as soon as an action is not enabled. -/
def run : State → List Action → Option State
  | state, [] => some state
  | state, action :: rest => sys.step state action >>= fun next => run next rest

/-- Every action of the run meets `ok` in the state in which it is taken. -/
def Guarded (ok : State → Action → Prop) : State → List Action → Prop
  | _, [] => True
  | state, action :: rest =>
    ok state action ∧ ∀ next, sys.step state action = some next → Guarded ok next rest

/-- A decidable condition can be checked along a run. -/
instance decidableGuarded (ok : State → Action → Prop)
    [hok : ∀ state action, Decidable (ok state action)] :
    (state : State) → (actions : List Action) → Decidable (sys.Guarded ok state actions)
  | _, [] => isTrue trivial
  | state, action :: rest =>
    match hstep : sys.step state action with
    | none => decidable_of_iff (ok state action) (by simp [Guarded, hstep])
    | some next =>
      have := decidableGuarded ok next rest
      decidable_of_iff (ok state action ∧ sys.Guarded ok next rest) (by simp [Guarded, hstep])

@[simp]
theorem run_nil (state : State) : sys.run state [] = some state := rfl

theorem run_cons :
    sys.run state (act :: rs) = (sys.step state act).bind (sys.run · rs) := rfl

theorem run_cons_eq_some {state fin : State} {act : Action} {rs : List Action} :
    sys.run state (act :: rs) = some fin ↔
      ∃ next, sys.step state act = some next ∧ sys.run next rs = some fin := by
  simp [run_cons, Option.bind_eq_some_iff]

theorem run_append (state : State) :
    sys.run state (first ++ second) = (sys.run state first).bind (sys.run · second) := by
  induction first generalizing state with
  | nil => rfl
  | cons act first ih =>
    simp only [List.cons_append, run_cons]
    cases sys.step state act with
    | none => rfl
    | some next => exact ih next

theorem guarded_append_right {ok : State → Action → Prop} {state mid : State}
    {first second : List Action} (h : sys.Guarded ok state (first ++ second))
    (hfi : sys.run state first = some mid) : sys.Guarded ok mid second := by
  induction first generalizing state with
  | nil => cases hfi; exact h
  | cons act first ih =>
    obtain ⟨next, hs, hr⟩ := sys.run_cons_eq_some.mp hfi
    exact ih (h.2 next hs) hr

theorem guarded_append_left {ok : State → Action → Prop} {state : State}
    {first second : List Action}
    (h : sys.Guarded ok state (first ++ second)) : sys.Guarded ok state first := by
  induction first generalizing state with
  | nil => trivial
  | cons act first ih => exact ⟨h.1, fun next hs => ih (h.2 next hs)⟩

theorem guarded_run_preserves {ok : State → Action → Prop} (inv : State → Prop)
    (hs : ∀ state act next, inv state → ok state act → sys.step state act = some next → inv next)
    {state fin : State} {acts : List Action} (hin : inv state) (hok : sys.Guarded ok state acts)
    (hr : sys.run state acts = some fin) : inv fin := by
  induction acts generalizing state with
  | nil => cases hr; exact hin
  | cons act rs ih =>
    obtain ⟨next, hx, hre⟩ := sys.run_cons_eq_some.mp hr
    exact ih (hs state act next hin hok.1 hx) (hok.2 next hx) hre

theorem run_preserves (inv : State → Prop)
    (hs : ∀ state act next, inv state → sys.step state act = some next → inv next)
    {state fin : State}
    {acts : List Action} (hin : inv state) (hr : sys.run state acts = some fin) : inv fin := by
  induction acts generalizing state with
  | nil => cases hr; exact hin
  | cons act rs ih =>
    obtain ⟨next, hx, hre⟩ := sys.run_cons_eq_some.mp hr
    exact ih (hs state act next hin hx) hre

theorem guarded_of_forall {ok : State → Action → Prop} (hok : ∀ state act, ok state act)
    (state : State) : sys.Guarded ok state acts := by
  induction acts generalizing state with
  | nil => trivial
  | cons act rs ih => exact ⟨hok state act, fun next _ => ih next⟩

theorem Guarded.mono {sys : System State Action} {ok ok' : State → Action → Prop}
    (him : ∀ state act, ok state act → ok' state act) {state : State} {acts : List Action}
    (hok : sys.Guarded ok state acts) : sys.Guarded ok' state acts := by
  induction acts generalizing state with
  | nil => trivial
  | cons act rs ih =>
    exact ⟨him state act hok.1, fun next hx => ih (hok.2 next hx)⟩

theorem guarded_iff {ok ok' : State → Action → Prop} (inv : State → Prop)
    (hif : ∀ state act, inv state → (ok state act ↔ ok' state act))
    (hs : ∀ state act next, inv state → ok state act → sys.step state act = some next → inv next)
    {state : State}
    (hin : inv state) : sys.Guarded ok state acts ↔ sys.Guarded ok' state acts := by
  induction acts generalizing state with
  | nil => exact Iff.rfl
  | cons act rs ih =>
    constructor
    · rintro ⟨hok, hr⟩
      refine ⟨(hif state act hin).mp hok, fun next hx => ?_⟩
      exact (ih (hs state act next hin hok hx)).mp (hr next hx)
    rintro ⟨hok', hr⟩
    have hok := (hif state act hin).mpr hok'
    refine ⟨hok, fun next hx => ?_⟩
    exact (ih (hs state act next hin hok hx)).mpr (hr next hx)

end System

end NewApi.Lib
