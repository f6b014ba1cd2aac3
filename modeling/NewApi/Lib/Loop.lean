import Mathlib.Data.List.Basic

/-!
# Loops that may fail

A loop whose body may fail is `List.foldlM` in `Option`. The rules say what it preserves, what it
adds, and when it fails.
-/

namespace NewApi.Lib.Loop

open List

universe u v w x

variable {Sta : Type u} {Item : Type v} {Key : Type w} {Val : Type x}
  {bdy : Sta → Item → Option Sta}

theorem foldlM_preserves {inv : Sta → Prop} {xs : List Item} {state fin : Sta}
    (hke : ∀ state next item, inv state → bdy state item = some next → inv next)
    (hst : inv state) (h : xs.foldlM bdy state = some fin) : inv fin := by
  induction xs generalizing state with
  | nil => cases h; exact hst
  | cons item rs ih =>
    obtain ⟨next, hx, hr⟩ := Option.bind_eq_some_iff.mp h
    exact ih (hke state next item hst hx) hr

theorem foldlM_appends {inv : Sta → Prop} {obs : Sta → Key → List Val} {add : Item → Key → List Val}
    {xs : List Item} (hbo : ∀ item ∈ xs, ∀ state, inv state → ∃ next, bdy state item = some next ∧
      inv next ∧ ∀ key, obs next key = obs state key ++ add item key) {state : Sta} (hst :
        inv state) :
    ∃ fin, xs.foldlM bdy state = some fin ∧ inv fin ∧
      ∀ key, obs fin key = obs state key ++ xs.flatMap (add · key) := by
  induction xs generalizing state with
  | nil => exact ⟨state, rfl, hst, by simp⟩
  | cons item rs ih =>
    obtain ⟨next, hx, hi, had⟩ := hbo item mem_cons_self state hst
    obtain ⟨fin, hfi, he, hr⟩ := ih (fun other hot => hbo other (mem_cons_of_mem _ hot)) hi
    refine ⟨fin, ?_, he, ?_⟩
    · rw [foldlM_cons, hx]
      exact hfi
    · intro key
      rw [hr, had, flatMap_cons, append_assoc]

theorem foldlM_eq_none {inv : Sta → Prop} {xs : List Item} {item : Item} (hit : item ∈ xs)
    (hke : ∀ state next other, inv state → bdy state other = some next → inv next)
    (hfa : ∀ state, inv state → bdy state item = none) {state : Sta} (hst : inv state) :
    xs.foldlM bdy state = none := by
  induction xs generalizing state with
  | nil => cases hit
  | cons head rs ih =>
    rw [foldlM_cons]
    rcases mem_cons.mp hit with rfl | hr
    · rw [hfa state hst]
      rfl
    · cases hhe : bdy state head with
      | none => rfl
      | some next => exact ih hr (hke state next head hst hhe)

end NewApi.Lib.Loop
