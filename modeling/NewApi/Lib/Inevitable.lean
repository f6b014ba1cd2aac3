import Mathlib.Logic.Relation

/-!
# What every schedule reaches

`Inevitably step goal state` says that every way to go on from the state comes to a state of the
goal, and never gets stuck before.
-/

namespace NewApi.Lib

variable {State : Type*} {step : State → State → Prop} {goal : State → Prop}

inductive Inevitably (step : State → State → Prop) (goal : State → Prop) : State → Prop
  | now {state : State} (hgoal : goal state) : Inevitably step goal state
  | later {state : State} (henabled : ∃ next, step state next)
      (hall : ∀ next, step state next → Inevitably step goal next) : Inevitably step goal state

namespace Inevitably

theorem of_measure (inv : State → Prop) (meas : State → Nat)
    (hi : ∀ {state next}, inv state → step state next → inv next)
    (hle : ∀ {state next}, step state next → meas next < meas state)
    (hpr : ∀ state, inv state → ¬goal state → ∃ next, step state next)
    {state : State} (hin : inv state) : Inevitably step goal state := by
  induction hme : meas state using Nat.strongRecOn generalizing state with
  | ind bd ih =>
    subst hme
    by_cases hgo : goal state
    · exact .now hgo
    · refine .later (hpr state hin hgo) fun next hs => ?_
      exact ih (meas next) (hle hs) (hi hin hs) rfl

theorem next {state next : State} (h : Inevitably step goal state) (hno : ¬goal state)
    (hs : step state next) : Inevitably step goal next := by
  cases h with
  | now hgo => exact absurd hgo hno
  | later _ ha => exact ha next hs

theorem exists_reach {state : State} (h : Inevitably step goal state) :
    ∃ final, Relation.ReflTransGen step state final ∧ goal final := by
  induction h with
  | @now state hgoal => exact ⟨state, .refl, hgoal⟩
  | later henabled _ ih =>
    obtain ⟨next, hstep⟩ := henabled
    obtain ⟨final, hreach, hgoal⟩ := ih next hstep
    exact ⟨final, .head hstep hreach, hgoal⟩

theorem not_of_closed (inv : State → Prop)
    (hi : ∀ {state next}, inv state → step state next → inv next)
    (hno : ∀ {state}, inv state → ¬goal state) {state : State} (hin : inv state) :
    ¬Inevitably step goal state := by
  intro h
  induction h with
  | now hgo => exact hno hin hgo
  | later hen _ ih =>
    obtain ⟨next, hs⟩ := hen
    exact ih next hs (hi hin hs)

end Inevitably

end NewApi.Lib
