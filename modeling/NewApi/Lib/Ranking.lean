import Mathlib.Data.List.Dedup
import Mathlib.Data.List.Sort

/-!
# Ranks and levels

`DescSort` sorts by descending rank and leaves the order of equal ranks open, like `sort.Slice`. The
levels of a list are its distinct ranks in descending order.
-/

namespace NewApi.Lib.Ranking

open List

universe u

structure DescSort (α : Type u) where
  run : (α → Int) → List α → List α
  perm : ∀ rank items, (run rank items).Perm items
  sorted : ∀ rank items, (run rank items).Pairwise fun a b => rank b ≤ rank a

/-- Insertion sort, which keeps the order of equal ranks. -/
def DescSort.insertion (α : Type u) : DescSort α where
  run rank items := items.insertionSort fun a b => rank b ≤ rank a
  perm rank items := List.perm_insertionSort _ items
  sorted rank items := by
    have htotal : Std.Total fun a b : α => rank b ≤ rank a := ⟨fun a b => Int.le_total _ _⟩
    have htrans : IsTrans α fun a b => rank b ≤ rank a :=
      ⟨fun a b c hab hbc => Int.le_trans hbc hab⟩
    exact List.pairwise_insertionSort _ items

/-- The distinct ranks in descending order. -/
def levels (ranks : List Int) : List Int :=
  ranks.dedup.insertionSort (· ≥ ·)

/-- The level of a number; numbers past the last level stand for the last level. -/
def levelAt (ranks : List Int) (number : Nat) : Option Int :=
  let sorted := levels ranks
  sorted[if sorted.length ≤ number then sorted.length - 1 else number]?

variable {rks : List Int} {rank : Int}

@[simp]
theorem mem_levels : rank ∈ levels rks ↔ rank ∈ rks := by
  simp [levels]

theorem nodup_levels : (levels rks).Nodup :=
  (perm_insertionSort _ _).nodup_iff.mpr rks.nodup_dedup

theorem levels_congr {first second : List Int} (h : ∀ rank, rank ∈ first ↔ rank ∈ second) :
    levels first = levels second := by
  have hpe : (levels first).Perm (levels second) := by
    rw [perm_ext_iff_of_nodup (nodup_levels) (nodup_levels)]
    intro rank
    rw [mem_levels, mem_levels, h]
  exact hpe.eq_of_pairwise' (pairwise_insertionSort _ _) (pairwise_insertionSort _ _)

theorem levelAt_congr {first second : List Int} (h : ∀ rank, rank ∈ first ↔ rank ∈ second) :
    levelAt first num = levelAt second num := by
  rw [levelAt, levelAt, levels_congr h]

theorem levelAt_mem {num : Nat} (h : levelAt rks num = some rank) : rank ∈ rks :=
  mem_levels.mp (mem_of_getElem? h)

theorem levelAt_eq_none_iff {num : Nat} : levelAt rks num = none ↔ rks = [] := by
  have hni : levels rks = [] ↔ rks = [] := by
    simp only [eq_nil_iff_forall_not_mem, mem_levels]
  rw [← hni, levelAt, getElem?_eq_none_iff, ← length_eq_zero_iff]
  split <;> omega

theorem levelAt_zero : levelAt rks 0 = rks.max? := by
  have hso : (levels rks).Pairwise (· ≥ ·) := pairwise_insertionSort _ _
  cases hle : levels rks with
  | nil =>
    have hni : rks = [] := by
      rw [← @levelAt_eq_none_iff rks 0, levelAt, hle]
      rfl
    rw [hni]
    rfl
  | cons top rs =>
    have hlv : levelAt rks 0 = some top := by
      rw [levelAt, hle]
      rfl
    rw [hlv, eq_comm, max?_eq_some_iff]
    refine ⟨levelAt_mem hlv, fun rank hra => ?_⟩
    have hm := mem_levels.mpr hra
    rw [hle] at hm hso
    rcases mem_cons.mp hm with rfl | hr
    · exact le_rfl
    · exact rel_of_pairwise_cons hso hr

theorem exists_levelAt (h : rank ∈ rks) :
    ∃ num < (levels rks).length, levelAt rks num = some rank := by
  obtain ⟨num, hlt, hg⟩ := mem_iff_getElem.mp (mem_levels.mpr h)
  refine ⟨num, hlt, ?_⟩
  rw [levelAt]
  rw [if_neg (Nat.not_le.mpr hlt), getElem?_eq_getElem hlt, hg]

end NewApi.Lib.Ranking
