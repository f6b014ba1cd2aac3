import Mathlib.Data.List.Basic
import Mathlib.Data.List.DropRight

/-!
# Texts

`trimSpace` is `strings.TrimSpace`, `split` is `strings.Split` with a separator of one character,
`toLower` the lower case of ASCII letters. The last part is about texts that are sent in pieces.
-/

namespace NewApi.Lib

open List

def isSpace (c : Char) : Bool :=
  c.toNat ∈ [0x09, 0x0A, 0x0B, 0x0C, 0x0D, 0x20, 0x85, 0xA0, 0x1680, 0x2000, 0x2001, 0x2002,
    0x2003, 0x2004, 0x2005, 0x2006, 0x2007, 0x2008, 0x2009, 0x200A, 0x2028, 0x2029, 0x202F,
    0x205F, 0x3000]

/-- Drop the white space at both ends of a list of characters. -/
def trimChars (cs : List Char) : List Char :=
  ((cs.dropWhile isSpace).reverse.dropWhile isSpace).reverse

def trimSpace (s : String) : String :=
  String.ofList (trimChars s.toList)

theorem dropWhile_rdropWhile {cs : List Char} (h : cs.dropWhile isSpace = cs) :
    (cs.rdropWhile isSpace).dropWhile isSpace = cs.rdropWhile isSpace := by
  rw [dropWhile_eq_self_iff] at h ⊢
  intro hl
  have hin : cs.rdropWhile isSpace <+: cs := List.rdropWhile_prefix isSpace cs
  rw [hin.getElem hl]
  exact h (Nat.lt_of_lt_of_le hl hin.length_le)

theorem trimChars_trimChars : trimChars (trimChars cs) = trimChars cs := by
  have htr : ∀ cs : List Char, trimChars cs = (cs.dropWhile isSpace).rdropWhile isSpace :=
    fun _ => rfl
  rw [htr cs, htr, dropWhile_rdropWhile (dropWhile_idempotent isSpace cs), rdropWhile_idempotent]

/-- A text whose first character is no space keeps it. -/
theorem trimChars_cons {c : Char} (cs : List Char) (h : isSpace c = false) :
    ∃ tail, trimChars (c :: cs) = c :: tail := by
  have hdrop : (c :: cs).dropWhile isSpace = c :: cs := dropWhile_cons_of_neg (by simp [h])
  have htrim : trimChars (c :: cs) = (c :: cs).rdropWhile isSpace := by
    conv_rhs => rw [← hdrop]
    rfl
  cases hkept : (c :: cs).rdropWhile isSpace with
  | nil =>
    have hspace := rdropWhile_eq_nil_iff.mp hkept c mem_cons_self
    rw [h] at hspace
    cases hspace
  | cons first tail =>
    have hprefix : first :: tail <+: c :: cs := hkept ▸ List.rdropWhile_prefix isSpace (c :: cs)
    obtain rfl : first = c := (cons_prefix_cons.mp hprefix).1
    exact ⟨tail, htrim.trans hkept⟩

@[simp]
theorem trimSpace_trimSpace (s : String) : trimSpace (trimSpace s) = trimSpace s := by
  simp [trimSpace, trimChars_trimChars]

/-- `strings.Split` at every occurrence of a character. -/
def split (sep : Char) (s : String) : List String :=
  (s.toList.splitOn sep).map String.ofList

theorem split_ne_nil (sep : Char) (s : String) : split sep s ≠ [] := by
  simp [split, splitOn_ne_nil]

/-- `strings.HasPrefix`. -/
def startsWith (s start : String) : Bool :=
  start.toList.isPrefixOf s.toList

def contains (s part : String) : Bool :=
  s.toList.tails.any fun tail => part.toList.isPrefixOf tail

/-- The lower case of a letter, if it is one of ASCII: besides the letters of ASCII the dotted
capital I and the Kelvin sign have such a lower case. -/
def lowerChar (c : Char) : Char :=
  if c.toNat = 0x130 then 'i' else if c.toNat = 0x212A then 'k' else c.toLower

/-- `strings.ToLower`, as far as it produces letters of ASCII. -/
def toLower (s : String) : String :=
  s.map lowerChar

theorem join_eq_empty_iff {pcs : List String} : String.join pcs = "" ↔ ∀ pc ∈ pcs, pc = "" := by
  induction pcs with
  | nil => simp
  | cons pc rs ih => simp [String.append_eq_empty_iff, ih]

theorem length_le_join {pc : String} {pcs : List String} (h : pc ∈ pcs) :
    pc.length ≤ (String.join pcs).length := by
  obtain ⟨pre, after, rfl⟩ := append_of_mem h
  simp only [String.join_append, String.join_cons, String.length_append]
  omega

theorem join_eq_getLastD_iff (pcs : List String) :
    String.join pcs = pcs.getLastD "" ↔ ∀ pc ∈ pcs.dropLast, pc = "" := by
  cases pcs using List.reverseRecOn with
  | nil => simp
  | append_singleton init last =>
    rw [String.join_append, getLastD_concat, dropLast_concat, ← join_eq_empty_iff]
    simp

theorem length_join_map_le {α : Type} {sn given : α → String} (xs : List α)
    (hl : ∀ item ∈ xs, (sn item).length ≤ (given item).length) :
    (String.join (xs.map sn)).length ≤ (String.join (xs.map given)).length := by
  induction xs with
  | nil => exact Nat.le_refl _
  | cons item rs ih =>
    rw [forall_mem_cons] at hl
    simp only [map_cons, String.join_cons, String.length_append]
    exact Nat.add_le_add hl.1 (ih hl.2)

theorem join_map_eq_iff {α : Type} {sn given : α → String} (xs : List α)
    (hl : ∀ item ∈ xs, (sn item).length ≤ (given item).length) :
    String.join (xs.map sn) = String.join (xs.map given) ↔ ∀ item ∈ xs, sn item = given item := by
  constructor
  · intro hjo
    induction xs with
    | nil => simp
    | cons item rs ih =>
      rw [forall_mem_cons] at hl ⊢
      simp only [map_cons, String.join_cons] at hjo
      -- neither the first piece nor the rest is longer, so both have the same length
      have hto := congrArg String.length hjo
      have hr := length_join_map_le rs hl.2
      have hch := congrArg String.toList hjo
      simp only [String.length_append] at hto
      simp only [String.toList_append] at hch
      obtain ⟨hit, hos⟩ := append_inj hch (by
        simp only [String.length_toList]
        omega)
      exact ⟨String.toList_inj.mp hit, ih hl.2 (String.toList_inj.mp hos)⟩
  · intro h
    rw [map_congr_left h]

end NewApi.Lib
