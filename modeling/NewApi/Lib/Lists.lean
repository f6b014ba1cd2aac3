import Mathlib.Data.List.Basic

/-!
# Lists that are put together

When a list is its own sorting by a predicate, and when two ways to expand the
items of a list give the same list.
-/

namespace NewApi.Lib

open List

universe u v

variable {α : Type u} {β : Type v}

theorem filter_append_filter_not_eq_iff (xs : List α) :
    xs.filter p ++ xs.filter (!p ·) = xs ↔ xs.Pairwise fun first second => p second → p first := by
  induction xs with
  | nil => simp
  | cons item rs ih =>
    rw [pairwise_cons]
    by_cases hit : p item
    · simp [hit, ih]
    rw [filter_cons_of_neg hit, filter_cons_of_pos (by simpa using hit)]
    constructor
    · intro h
      have hn : ∀ other ∈ rs, ¬ p other := by
        cases hr : rs.filter p with
        | nil => exact filter_eq_nil_iff.mp hr
        | cons other os =>
          rw [hr] at h
          have hhe : other = item := (List.cons.inj h).1
          have hot : other ∈ rs.filter p := hr ▸ mem_cons_self
          exact absurd (hhe ▸ (mem_filter.mp hot).2) hit
      refine ⟨fun other hm hp => absurd hp (hn other hm), ih.mp ?_⟩
      rw [filter_eq_nil_iff.mpr hn, nil_append] at h ⊢
      exact (List.cons.inj h).2
    · rintro ⟨hn, hr⟩
      have hni : rs.filter p = [] := filter_eq_nil_iff.mpr fun other hm hp => hit (hn other hm hp)
      have hta := ih.mpr hr
      rw [hni, nil_append] at hta ⊢
      rw [hta]

theorem length_flatMap_le {f g : α → List β} {xs : List α}
    (h : ∀ item ∈ xs, (f item).length ≤ (g item).length) :
    (xs.flatMap f).length ≤ (xs.flatMap g).length := by
  induction xs with
  | nil => exact Nat.le_refl 0
  | cons item rs ih =>
    rw [forall_mem_cons] at h
    simp only [flatMap_cons, length_append]
    exact Nat.add_le_add h.1 (ih h.2)

theorem flatMap_eq_flatMap_iff {f g : α → List β} {xs : List α}
    (h : ∀ item ∈ xs, (f item).length ≤ (g item).length) :
    xs.flatMap f = xs.flatMap g ↔ ∀ item ∈ xs, f item = g item := by
  induction xs with
  | nil => simp
  | cons item rs ih =>
    rw [forall_mem_cons] at h
    rw [forall_mem_cons, ← ih h.2, flatMap_cons, flatMap_cons]
    constructor
    · intro heq
      have hr := length_flatMap_le h.2
      have hl := congrArg List.length heq
      simp only [length_append] at hl
      exact append_inj heq (by omega)
    · rintro ⟨hit, hr⟩
      rw [hit, hr]

end NewApi.Lib
