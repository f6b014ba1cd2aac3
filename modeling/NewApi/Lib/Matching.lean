import Mathlib.Data.List.Dedup
import Mathlib.Data.List.Perm.Basic

/-!
# One-to-one tables

`exists_table_iff`: keys and items can be matched one to one with equal values exactly if no item
occurs twice and the two sides have the same values in some order.
-/

namespace NewApi.Lib

open List

universe u v w

variable {Key : Type u} {Item : Type v} {Value : Type w}

/-- Every key of a list has one row, every item of a list has one row, and the rows agree. -/
structure IsTable (keys : List Key) (items : List Item) (want : Key → Value) (got : Item → Value)
    (table : List (Key × Item)) : Prop where
  keys_nodup : (table.map Prod.fst).Nodup
  items_nodup : (table.map Prod.snd).Nodup
  mem_keys : ∀ key, key ∈ keys ↔ key ∈ table.map Prod.fst
  items_eq : items = table.map Prod.snd
  agree : ∀ row ∈ table, got row.2 = want row.1

variable {want : Key → Value} {got : Item → Value} {xs : List Item}

theorem exists_perm_agree {ks : List Key} (h : (xs.map got).Perm (ks.map want)) :
    ∃ ordd : List Key, ordd.Perm ks ∧
      List.Forall₂ (fun item key => got item = want key) xs ordd := by
  have hke : List.Forall₂ (fun va key => va = want key) (ks.map want) ks := by
    rw [forall₂_map_left_iff]
    exact forall₂_same.mpr fun _ _ => rfl
  obtain ⟨ordd, hag, hpe⟩ := perm_comp_forall₂ h hke
  exact ⟨ordd, hpe, forall₂_map_left_iff.mp hag⟩

theorem exists_table_iff [DecidableEq Key] :
    (∃ tab, IsTable ks xs want got tab) ↔ xs.Nodup ∧ (xs.map got).Perm (ks.dedup.map want) := by
  constructor
  · rintro ⟨tab, h⟩
    have hke : (tab.map Prod.fst).Perm ks.dedup := by
      refine (perm_ext_iff_of_nodup h.keys_nodup ks.nodup_dedup).mpr fun key => ?_
      rw [mem_dedup]
      exact (h.mem_keys key).symm
    have hva : xs.map got = (tab.map Prod.fst).map want := by
      rw [h.items_eq, map_map, map_map]
      exact map_congr_left h.agree
    rw [hva]
    exact ⟨h.items_eq ▸ h.items_nodup, hke.map want⟩
  · rintro ⟨hno, hpe⟩
    obtain ⟨ordd, hor, hag⟩ := exists_perm_agree hpe
    have hl := hag.length_eq
    have hfs : (ordd.zip xs).map Prod.fst = ordd := map_fst_zip (Nat.le_of_eq hl.symm)
    have hsn : (ordd.zip xs).map Prod.snd = xs := map_snd_zip (Nat.le_of_eq hl)
    refine ⟨ordd.zip xs, ?_, ?_, ?_, hsn.symm, ?_⟩
    · rw [hfs]
      exact hor.nodup_iff.mpr ks.nodup_dedup
    · rwa [hsn]
    · intro key
      rw [hfs, hor.mem_iff, mem_dedup]
    · rintro ⟨key, item⟩ hr
      exact forall₂_zip hag.flip hr

end NewApi.Lib
