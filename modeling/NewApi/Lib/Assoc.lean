import Mathlib.Data.List.Basic

/-!
# Maps as association lists

Lists of key-value pairs in order of first insertion: `get?` is the lookup, `set` is `m[k] = v`,
`push` is `m[k] = append(m[k], v)`.
-/

namespace NewApi.Lib.Assoc

open List

universe u v

variable {Key : Type u} {Value : Type v} [DecidableEq Key]

def get? (m : List (Key × Value)) (k : Key) : Option Value :=
  (m.find? fun entry => entry.1 = k).map Prod.snd

/-- Store a value under a key, in place if the key is there and at the end if not. -/
def set (m : List (Key × Value)) (k : Key) (v : Value) : List (Key × Value) :=
  match m with
  | [] => [(k, v)]
  | entry :: rest => if entry.1 = k then (k, v) :: rest else entry :: set rest k v

theorem get?_set (k' : Key) : get? (set m k v) k' = if k' = k then some v else get? m k' := by
  induction m with
  | nil => by_cases h : k' = k <;> simp [set, get?, h, eq_comm]
  | cons ent rs ih =>
    unfold get? at ih ⊢
    rw [set]
    by_cases hen : ent.1 = k
    · by_cases h : k' = k <;> simp [hen, h, eq_comm]
    rw [if_neg hen, find?_cons, find?_cons]
    by_cases hk : ent.1 = k'
    · have hne : ¬k' = k := fun heq => hen (hk.trans heq)
      simp [hk, hne]
    · simpa [hk] using ih

/-- Append a value to the slice stored under a key. -/
def push (m : List (Key × List Value)) (k : Key) (v : Value) : List (Key × List Value) :=
  set m k ((get? m k).getD [] ++ [v])

/-- The values of all slices with their keys. -/
def entries (m : List (Key × List Value)) : List (Key × Value) :=
  m.flatMap fun slice => slice.2.map fun v => (slice.1, v)

end NewApi.Lib.Assoc
