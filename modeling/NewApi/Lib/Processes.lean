import Mathlib.Algebra.BigOperators.Group.List.Basic

/-!
# Lists of processes

A concurrent system keeps its processes in a list; a step replaces the process that took it.
-/

namespace NewApi.Lib.Processes

open List

universe u

variable {Proc : Type u}

theorem sum_map_set {Amo : Type*} [AddCommMonoid Amo] (cnt : Proc → Amo) {pro : List Proc} {i : Nat}
    {old : Proc} (ho : pro[i]? = some old) (new : Proc) :
    ((pro.set i new).map cnt).sum + cnt old = (pro.map cnt).sum + cnt new := by
  induction pro generalizing i with
  | nil => simp at ho
  | cons head tail ih =>
    cases i with
    | zero =>
      obtain rfl : head = old := by simpa using ho
      simp only [set_cons_zero, map_cons, sum_cons]
      rw [add_right_comm, add_comm (cnt new), add_right_comm]
    | succ i =>
      have hta := ih (i := i) (by simpa using ho)
      simp only [set_cons_succ, map_cons, sum_cons]
      rw [add_assoc, hta, add_assoc]

theorem forall_mem_set {prop : Proc → Prop} {pro : List Proc} {i : Nat} {new : Proc}
    (ha : ∀ pr ∈ pro, prop pr) (hn : prop new) : ∀ pr ∈ pro.set i new, prop pr := by
  intro pr hm
  rcases mem_or_eq_of_mem_set hm with ho | rfl
  · exact ha pr ho
  · exact hn

theorem forall_mem_append {prop : Proc → Prop} {pro : List Proc} {new : Proc}
    (ha : ∀ pr ∈ pro, prop pr) (hn : prop new) : ∀ pr ∈ pro ++ [new], prop pr := by
  intro pr hm
  rcases mem_append.mp hm with ho | hl
  · exact ha pr ho
  · obtain rfl := mem_singleton.mp hl
    exact hn

theorem eq_or_mem_set {pro : List Proc} {i : Nat} {old pr : Proc} (ho : pro[i]? = some old)
    (hm : pr ∈ pro) :
    pr = old ∨ pr ∈ pro.set i new := by
  obtain ⟨j, hj⟩ := mem_iff_getElem?.mp hm
  by_cases hij : i = j
  · subst hij
    exact .inl (Option.some.inj (hj.symm.trans ho))
  · refine .inr (mem_iff_getElem?.mpr ⟨j, ?_⟩)
    rw [getElem?_set_ne hij, hj]

theorem getElem?_append_cases {pro : List Proc} {new pr : Proc} {j : Nat}
    (h : (pro ++ [new])[j]? = some pr) : pro[j]? = some pr ∨ pr = new := by
  by_cases hj : j < pro.length
  · rw [getElem?_append_left hj] at h
    exact .inl h
  · rw [getElem?_append_right (Nat.le_of_not_lt hj)] at h
    exact .inr (mem_singleton.mp (mem_of_getElem? h))

theorem getElem?_set_cases {pro : List Proc} {new pr : Proc} {i j : Nat}
    (h : (pro.set i new)[j]? = some pr) : j = i ∧ pr = new ∨ j ≠ i ∧ pro[j]? = some pr := by
  by_cases hj : j = i
  · subst hj
    refine .inl ⟨rfl, ?_⟩
    rw [getElem?_set] at h
    split at h
    · split at h
      · exact (Option.some.inj h).symm
      · cases h
    · contradiction
  · rw [getElem?_set_ne (Ne.symm hj)] at h
    exact .inr ⟨hj, h⟩

theorem getElem?_set_self {pro : List Proc} {i : Nat} {old : Proc}
    (ho : pro[i]? = some old) : (pro.set i new)[i]? = some new :=
  List.getElem?_set_self (List.getElem?_eq_some_iff.mp ho).1

theorem mem_set_self {pro : List Proc} {i : Nat} {old : Proc}
    (ho : pro[i]? = some old) (new : Proc) : new ∈ pro.set i new := by
  obtain ⟨hlt, -⟩ := List.getElem?_eq_some_iff.mp ho
  exact mem_set hlt new

end NewApi.Lib.Processes
