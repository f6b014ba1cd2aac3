import Mathlib.Algebra.Ring.Int.Defs
import Mathlib.Data.List.Basic
import Mathlib.Data.List.Nodup
import Mathlib.Data.List.Sort

/-!
# Tables of rows with a primary key

A table is the list of its rows: `get?` is the lookup by primary key, `updateWhere` an `UPDATE …
WHERE`, `insertIgnore` an `INSERT` that skips taken keys, `first` an `ORDER BY … LIMIT 1`.
-/

namespace NewApi.Lib.Table

open List

universe u v

variable {Row : Type u} {Key : Type v} [DecidableEq Key]

def get? (key : Row → Key) (rows : List Row) (k : Key) : Option Row :=
  rows.find? fun row => key row = k

/-- Rewrite every row that meets the condition. -/
def updateWhere (cond : Row → Bool) (f : Row → Row) (rows : List Row) : List Row :=
  rows.map fun row => if cond row then f row else row

theorem get?_key {key : Row → Key} {rows : List Row} {k : Key} {row : Row}
    (h : get? key rows k = some row) : key row = k := by
  simpa using find?_some h

theorem get?_mem {key : Row → Key} {rows : List Row} {k : Key} {row : Row}
    (h : get? key rows k = some row) : row ∈ rows :=
  mem_of_find?_eq_some h

theorem isSome_get?_iff {key : Row → Key} {rows : List Row} {k : Key} :
    (get? key rows k).isSome ↔ k ∈ rows.map key := by
  simp [get?, find?_isSome]

theorem get?_eq_none_iff {key : Row → Key} {rows : List Row} {k : Key} :
    get? key rows k = none ↔ k ∉ rows.map key := by
  rw [← isSome_get?_iff, Option.not_isSome_iff_eq_none]

theorem get?_of_mem {key : Row → Key} {rows : List Row} (hke : (rows.map key).Nodup)
    {row : Row} (hr : row ∈ rows) : get? key rows (key row) = some row := by
  induction rows with
  | nil => cases hr
  | cons head tail ih =>
    simp only [map_cons, nodup_cons] at hke
    rcases mem_cons.mp hr with rfl | hta
    · simp [get?]
    have hne : key head ≠ key row := by
      intro heq
      exact hke.1 (heq ▸ mem_map_of_mem hta)
    simpa [get?, hne] using ih hke.2 hta

theorem get?_append_row {key : Row → Key} {rows : List Row} {row : Row}
    (hfr : key row ∉ rows.map key) :
    get? key (rows ++ [row]) k = if k = key row then some row else get? key rows k := by
  unfold get?
  rw [find?_append]
  split
  next heq =>
    have hn := get?_eq_none_iff.mpr hfr
    rw [get?] at hn
    simp [heq, hn]
  next hne =>
    have hl : find? (fun row => decide (key row = k)) [row] = none := by
      simp [Ne.symm hne]
    rw [hl, Option.or_none]

theorem get?_updateWhere {key : Row → Key} {cnd : Row → Bool} {f : Row → Row}
    (hke : ∀ row, cnd row = true → key (f row) = key row) :
    get? key (updateWhere cnd f rows) k =
      (get? key rows k).map fun row => if cnd row then f row else row := by
  induction rows with
  | nil => rfl
  | cons head tail ih =>
    have hhe : key (if cnd head then f head else head) = key head := by
      split
      · exact hke head ‹_›
      · rfl
    simp only [updateWhere, map_cons, get?, find?_cons, hhe] at ih ⊢
    by_cases hk : key head = k
    · simp [hk]
    · simpa [hk] using ih

omit [DecidableEq Key] in
theorem map_key_updateWhere {key : Row → Key} {cnd : Row → Bool} {f : Row → Row}
    (hk : ∀ row, cnd row = true → key (f row) = key row) :
    (updateWhere cnd f rows).map key = rows.map key := by
  simp only [updateWhere, map_map]
  apply map_congr_left
  intro row _
  simp only [Function.comp_apply]
  split
  · exact hk row ‹_›
  · rfl

theorem get?_replace {key : Row → Key} (rows : List Row) :
    get? key (updateWhere (fun row => key row = key new) (fun _ => new) rows) k =
      (get? key rows k).map fun row => if key row = key new then new else row := by
  rw [get?_updateWhere fun row hr => (of_decide_eq_true hr).symm]
  simp only [decide_eq_true_eq]

theorem map_key_replace {key : Row → Key} :
    (updateWhere (fun row => key row = key new) (fun _ => new) rows).map key = rows.map key :=
  map_key_updateWhere (fun _ hr => (of_decide_eq_true hr).symm)

theorem mem_updateWhere {cnd : Row → Bool} {f : Row → Row} {rows : List Row} {row : Row} :
    row ∈ updateWhere cnd f rows ↔ ∃ old ∈ rows, (if cnd old then f old else old) = row := by
  simp [updateWhere]

def select (key : Row → Key) (rows : List Row) (k : Key) : List Row :=
  rows.filter fun row => key row = k

theorem select_updateWhere {key : Row → Key} {cnd : Row → Bool} {f : Row → Row}
    (hk : ∀ row, key (f row) = key row) :
    select key (updateWhere cnd f rows) k = updateWhere cnd f (select key rows k) := by
  unfold select updateWhere
  rw [filter_map]
  congr 1
  apply filter_congr
  intro row _
  simp only [Function.comp_apply]
  split
  · rw [hk]
  · rfl

theorem select_of_mem {key : Row → Key} {rows : List Row} (hke : (rows.map key).Nodup)
    {row : Row} (hr : row ∈ rows) : select key rows (key row) = [row] := by
  induction rows with
  | nil => cases hr
  | cons head tail ih =>
    simp only [map_cons, nodup_cons] at hke
    rcases mem_cons.mp hr with rfl | hta
    · have hn : tail.filter (fun other => key other = key row) = [] := by
        rw [filter_eq_nil_iff]
        intro other hot heq
        exact hke.1 (of_decide_eq_true heq ▸ mem_map_of_mem hot)
      simp [select, hn]
    · have hne : key head ≠ key row := fun heq => hke.1 (heq ▸ mem_map_of_mem hta)
      simpa [select, hne] using ih hke.2 hta

theorem select_filter {key : Row → Key} {keep : Row → Bool} {k : Key}
    (hke : ∀ row, key row = k → keep row = true) :
    select key (rows.filter keep) k = select key rows k := by
  unfold select
  rw [filter_filter]
  apply filter_congr
  intro row _
  by_cases hk : key row = k
  · simp [hk, hke row hk]
  · simp [hk]

theorem select_append (k : Key) :
    select key (first ++ second) k = select key first k ++ select key second k :=
  filter_append ..

theorem select_eq_nil_iff {key : Row → Key} {rows : List Row} {k : Key} :
    select key rows k = [] ↔ ∀ row ∈ rows, key row ≠ k := by
  simp [select]

/-- `INSERT … ON CONFLICT DO NOTHING`: a row whose key is taken is left out. -/
def insertIgnore (key : Row → Key) (rows new : List Row) : List Row :=
  new.foldl (fun rows row => if key row ∈ rows.map key then rows else rows ++ [row]) rows

theorem insertIgnore_eq_append {key : Row → Key} {rows new : List Row} (hke : (new.map key).Nodup)
    (hfr : ∀ row ∈ new, key row ∉ rows.map key) : insertIgnore key rows new = rows ++ new := by
  induction new generalizing rows with
  | nil => simp [insertIgnore]
  | cons head tail ih =>
    rw [map_cons, nodup_cons] at hke
    have hta : ∀ row ∈ tail, key row ∉ (rows ++ [head]).map key := by
      intro row hr
      have hne : key row ≠ key head := fun heq => hke.1 (heq ▸ mem_map_of_mem hr)
      simp only [map_append, mem_append, not_or]
      exact ⟨hfr row (mem_cons_of_mem _ hr), by simpa using hne⟩
    have hs : insertIgnore key rows (head :: tail) =
        insertIgnore key (rows ++ [head]) tail := by
      unfold insertIgnore
      rw [foldl_cons, if_neg (hfr head mem_cons_self)]
    rw [hs, ih hke.2 hta, append_assoc, singleton_append]

omit [DecidableEq Key] in
theorem nodup_append_row {key : Row → Key} {rows : List Row} {row : Row}
    (hke : (rows.map key).Nodup)
    (hfr : key row ∉ rows.map key) : ((rows ++ [row]).map key).Nodup := by
  rw [map_append, nodup_append]
  refine ⟨hke, by simp, ?_⟩
  intro k hk other hot heq
  rw [map_singleton, mem_singleton] at hot
  exact hfr (hot ▸ heq ▸ hk)

omit [DecidableEq Key] in
theorem sum_map_of_key {key : Row → Key} {f g : Row → Int} {rows : List Row}
    (hke : (rows.map key).Nodup) {row : Row} (hr : row ∈ rows)
    (hot : ∀ oth ∈ rows, key oth ≠ key row → g oth = f oth) :
    (rows.map g).sum = (rows.map f).sum - f row + g row := by
  induction rows with
  | nil => cases hr
  | cons head tail ih =>
    simp only [map_cons, nodup_cons] at hke
    simp only [map_cons, sum_cons]
    rcases mem_cons.mp hr with rfl | hta
    · -- the row is the head, and no other row has its key
      have hs : tail.map g = tail.map f := by
        refine map_congr_left fun oth hm => hot oth (mem_cons_of_mem _ hm) ?_
        exact fun heq => hke.1 (heq ▸ mem_map_of_mem hm)
      rw [hs]
      omega
    have hhe : g head = f head := by
      refine hot head mem_cons_self fun heq => hke.1 ?_
      exact heq ▸ mem_map_of_mem hta
    have hta := ih hke.2 hta fun oth hm => hot oth (mem_cons_of_mem _ hm)
    omega

section

variable {pre : Row → Row → Prop} [DecidableRel pre]

def first (before : Row → Row → Prop) [DecidableRel before] (rows : List Row) : Option Row :=
  (rows.insertionSort before).head?

theorem first_eq_none {rows : List Row} (h : first pre rows = none) : rows = [] := by
  have hso := List.head?_eq_none_iff.mp h
  exact length_eq_zero_iff.mp (by rw [← length_insertionSort pre, hso]; rfl)

theorem first_eq_some [Std.Total pre] [IsTrans Row pre] {rows : List Row} {row : Row}
    (h : first pre rows = some row) : row ∈ rows ∧ ∀ other ∈ rows, other = row ∨ pre row other := by
  have hso := pairwise_insertionSort pre rows
  have hpe := perm_insertionSort pre rows
  obtain ⟨rest, hr⟩ := List.head?_eq_some_iff.mp h
  rw [hr] at hso hpe
  refine ⟨hpe.mem_iff.mp mem_cons_self, fun other hot => ?_⟩
  rcases mem_cons.mp (hpe.mem_iff.mpr hot) with heq | hm
  · exact .inl heq
  · exact .inr (rel_of_pairwise_cons hso hm)

end

end NewApi.Lib.Table
