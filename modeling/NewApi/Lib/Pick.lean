import Mathlib.Algebra.GroupWithZero.Nat
import Mathlib.Data.List.Basic
import Mathlib.Data.Nat.Count

/-!
# Weighted random choice

A weighted choice draws a ticket below the sum of the weights and walks the items, taking their
weights off. `pickBelow` stops when the ticket falls below zero, `pickUpTo` already at zero. The
chance of an item is the number of tickets that lead to it.
-/

namespace NewApi.Lib.Pick

open List

universe u

variable {α : Type u} (weight : α → Nat)

/-- A random number below any positive bound. -/
structure Intn where
  value : Nat → Nat
  value_lt : ∀ bound, 0 < bound → value bound < bound

/-- The source that returns a given number wherever the bound allows it. -/
def Intn.const (number : Nat) : Intn where
  value bound := min number (bound - 1)
  value_lt bound hbound := by omega

theorem Intn.const_value {num bd : Nat} (h : num < bd) : (Intn.const num).value bd = num := by
  simp only [Intn.const]
  omega

/-- Take the weights off the ticket until it is negative. -/
def pickBelow : List α → Nat → Option α
  | [], _ => none
  | item :: rest, ticket =>
    if ticket < weight item then some item else pickBelow rest (ticket - weight item)

/-- Take the weights off the ticket until it is not positive. -/
def pickUpTo : List α → Nat → Option α
  | [], _ => none
  | item :: rest, ticket =>
    if ticket ≤ weight item then some item else pickUpTo rest (ticket - weight item)

variable {weight}

theorem pickBelow_mem {xs : List α} {task : Nat} {item : α}
    (h : pickBelow weight xs task = some item) : item ∈ xs ∧ 0 < weight item := by
  induction xs generalizing task with
  | nil => cases h
  | cons head rs ih =>
    rw [pickBelow] at h
    split at h
    next hlt =>
      cases h
      exact ⟨mem_cons_self, Nat.zero_lt_of_lt hlt⟩
    · obtain ⟨hm, hp⟩ := ih h
      exact ⟨mem_cons_of_mem _ hm, hp⟩

theorem pickBelow_isSome {xs : List α} {task : Nat} (h : task < (xs.map weight).sum) :
    (pickBelow weight xs task).isSome := by
  induction xs generalizing task with
  | nil => cases h
  | cons head rs ih =>
    rw [map_cons, sum_cons] at h
    rw [pickBelow]
    split
    · rfl
    · exact ih (by omega)

theorem exists_pickBelow {xs : List α} {item : α} (hm : item ∈ xs) (hp : 0 < weight item) :
    ∃ task < (xs.map weight).sum, pickBelow weight xs task = some item := by
  induction xs with
  | nil => cases hm
  | cons head rs ih =>
    rw [map_cons, sum_cons]
    rcases mem_cons.mp hm with rfl | hr
    · exact ⟨0, by omega, if_pos hp⟩
    obtain ⟨task, hlt, hpi⟩ := ih hr
    refine ⟨weight head + task, by omega, ?_⟩
    rw [pickBelow, if_neg (by omega), Nat.add_sub_cancel_left]
    exact hpi

theorem pickUpTo_mem {xs : List α} {task : Nat} {item : α}
    (h : pickUpTo weight xs task = some item) : item ∈ xs := by
  induction xs generalizing task with
  | nil => cases h
  | cons head rs ih =>
    rw [pickUpTo] at h
    split at h
    · cases h
      exact mem_cons_self
    · exact mem_cons_of_mem _ (ih h)

theorem pickUpTo_isSome {xs : List α} {task : Nat} (h : task < (xs.map weight).sum) :
    (pickUpTo weight xs task).isSome := by
  induction xs generalizing task with
  | nil => cases h
  | cons head rs ih =>
    rw [map_cons, sum_cons] at h
    rw [pickUpTo]
    split
    · rfl
    · exact ih (by omega)

theorem exists_pickUpTo {xs : List α} {item : α} (hm : item ∈ xs)
    (hwt : ∀ other ∈ xs, 2 ≤ weight other) :
    ∃ task < (xs.map weight).sum, 0 < task ∧ pickUpTo weight xs task = some item := by
  induction xs with
  | nil => cases hm
  | cons head rs ih =>
    have hhe := hwt head mem_cons_self
    rw [map_cons, sum_cons]
    rcases mem_cons.mp hm with rfl | hr
    · exact ⟨1, by omega, Nat.one_pos, if_pos (by omega)⟩
    obtain ⟨task, hlt, hp, hpi⟩ := ih hr fun other hot => hwt other (mem_cons_of_mem _ hot)
    refine ⟨weight head + task, by omega, by omega, ?_⟩
    rw [pickUpTo, if_neg (by omega), Nat.add_sub_cancel_left]
    exact hpi

/-! ## The tickets of an item -/

theorem pickBelow_map {β : Type u} (f : β → α) (xs : List β) (task : Nat) :
    pickBelow weight (xs.map f) task = (pickBelow (fun item => weight (f item)) xs task).map f := by
  induction xs generalizing task with
  | nil => rfl
  | cons head rs ih =>
    rw [map_cons, pickBelow, pickBelow]
    split
    · rfl
    · exact ih _

theorem pickUpTo_map {β : Type u} (f : β → α) (xs : List β) (task : Nat) :
    pickUpTo weight (xs.map f) task = (pickUpTo (fun item => weight (f item)) xs task).map f := by
  induction xs generalizing task with
  | nil => rfl
  | cons head rs ih =>
    rw [map_cons, pickUpTo, pickUpTo]
    split
    · rfl
    · exact ih _

theorem pickUpTo_succ : pickUpTo weight xs (task + 1) = pickBelow weight xs task := by
  induction xs generalizing task with
  | nil => rfl
  | cons head rs ih =>
    rw [pickUpTo, pickBelow]
    by_cases hlt : task < weight head
    · rw [if_pos hlt, if_pos (Nat.succ_le_of_lt hlt)]
    · rw [if_neg hlt, if_neg (by omega), Nat.sub_add_comm (Nat.le_of_not_lt hlt), ih]

theorem pickUpTo_zero (head : α) : pickUpTo weight (head :: rs) 0 = some head :=
  if_pos (Nat.zero_le _)

theorem pickBelow_last {last : α} (hp : 0 < weight last) {task : Nat}
    (htk : ((xs ++ [last]).map weight).sum = task + 1) :
    pickBelow weight (xs ++ [last]) task = some last := by
  induction xs generalizing task with
  | nil =>
    have hsu : weight last = task + 1 := htk
    exact if_pos (by omega)
  | cons head rs ih =>
    have hsu : weight head + ((rs ++ [last]).map weight).sum = task + 1 := htk
    have hr : weight last ≤ ((rs ++ [last]).map weight).sum := by
      rw [map_append, sum_append]
      exact Nat.le_add_left _ _
    rw [cons_append, pickBelow, if_neg (by omega)]
    exact ih (by omega)

section

variable [DecidableEq α]

theorem count_pickBelow :
    Nat.count (fun task => pickBelow weight xs task = some item) (xs.map weight).sum =
      xs.count item * weight item := by
  induction xs with
  | nil => rw [count_nil, Nat.zero_mul]; rfl
  | cons head rs ih =>
    have hr : ∀ task, pickBelow weight (head :: rs) (weight head + task) =
        pickBelow weight rs task := by
      intro task
      rw [pickBelow, if_neg (by omega), Nat.add_sub_cancel_left]
    have hhe : Nat.count (fun task => pickBelow weight (head :: rs) task = some item)
        (weight head) = if head = item then weight head else 0 := by
      split
      next heq =>
        exact Nat.count_of_forall fun task hlt => by rw [pickBelow, if_pos hlt, heq]
      next hne =>
        refine Nat.count_of_forall_not fun task hlt => ?_
        rw [pickBelow, if_pos hlt, Option.some.injEq]
        exact hne
    rw [map_cons, sum_cons, Nat.count_add, hhe]
    simp only [hr, ih, count_cons, beq_iff_eq]
    by_cases heq : head = item
    · rw [if_pos heq, if_pos heq, heq, Nat.add_mul, Nat.one_mul, Nat.add_comm]
    · rw [if_neg heq, if_neg heq, Nat.zero_add, Nat.add_zero]

theorem count_pickBelow_of_nodup {xs : List α} {item : α} (hno : xs.Nodup) (hm : item ∈ xs) :
    Nat.count (fun task => pickBelow weight xs task = some item) (xs.map weight).sum =
      weight item := by
  rw [count_pickBelow, count_eq_one_of_mem hno hm, Nat.one_mul]

theorem count_pickUpTo_of_nodup {xs : List α} {head last item : α} (hno : xs.Nodup) (hm : item ∈ xs)
    (hhe : xs.head? = some head) (hl : xs.getLast? = some last) (hp : 0 < weight last) :
    Nat.count (fun task => pickUpTo weight xs task = some item) (xs.map weight).sum +
        (if last = item then 1 else 0) =
      weight item + if head = item then 1 else 0 := by
  obtain ⟨rest, hr⟩ := List.getLast?_eq_some_iff.mp hl
  obtain ⟨bd, hbd⟩ : ∃ bd, (xs.map weight).sum = bd + 1 := by
    refine Nat.exists_eq_succ_of_ne_zero (Nat.ne_of_gt (Nat.lt_of_lt_of_le hp ?_))
    rw [hr, map_append, sum_append]
    exact Nat.le_add_left _ _
  have hfi : pickUpTo weight xs 0 = some head := by
    obtain ⟨tail, rfl⟩ := List.head?_eq_some_iff.mp hhe
    exact pickUpTo_zero head
  have he : pickBelow weight xs bd = some last := by
    rw [hr] at hbd ⊢
    exact pickBelow_last hp hbd
  have hbe := @count_pickBelow_of_nodup _ weight _ xs item hno hm
  rw [hbd, Nat.count_succ] at hbe
  rw [← hbe, hbd, Nat.count_succ']
  simp only [pickUpTo_succ, hfi, he, Option.some.injEq]
  omega

end

end NewApi.Lib.Pick
