import Mathlib.Algebra.Order.Floor.Ring
import Mathlib.Data.Rat.Floor
import Mathlib.Tactic.Linarith

/-!
# Go's `int` on a 64-bit machine

`wrap` is the two's-complement value of an integer, `trunc` drops a fraction, `ofRat` is the
conversion of a floating-point number, taken as exact: outside the range it is the smallest `int`,
as on amd64.
-/

namespace NewApi.Lib.Int64

/-- The integer is a value of the type. -/
def InRange (n : Int) : Prop :=
  -(2 ^ 63) ≤ n ∧ n < 2 ^ 63
  deriving Decidable

/-- The two's-complement value of an integer. -/
def wrap (n : Int) : Int :=
  n.bmod (2 ^ 64)

/-- Truncation toward zero. -/
def trunc (x : ℚ) : Int :=
  if 0 ≤ x then ⌊x⌋ else ⌈x⌉

def roundHalfAway (x : ℚ) : Int :=
  if 0 ≤ x then ⌊x + 1 / 2⌋ else ⌈x - 1 / 2⌉

/-- Conversion of a floating-point number, taken as an exact rational. -/
def ofRat (x : ℚ) : Int :=
  if InRange (trunc x) then trunc x else -(2 ^ 63)

theorem wrap_of_inRange {n : Int} (h : InRange n) : wrap n = n := by
  unfold InRange at h
  unfold wrap
  rw [Int.bmod_eq_iff (by decide)]
  omega

theorem wrap_neg_of_nonneg {n : Int} (h : InRange n) (hne : n ≤ 0) (hwr : 0 ≤ wrap (-n)) :
    wrap (-n) = -n := by
  unfold InRange at h
  by_cases hmi : n = -(2 ^ 63)
  · subst hmi
    exact absurd hwr (by decide)
  · apply wrap_of_inRange
    unfold InRange
    omega

theorem roundHalfAway_nonneg {x : ℚ} (h : 0 ≤ x) : 0 ≤ roundHalfAway x := by
  rw [roundHalfAway, if_pos h]
  exact Int.floor_nonneg.mpr (by linarith)

theorem roundHalfAway_nonneg_iff {x : ℚ} : 0 ≤ roundHalfAway x ↔ -(1 / 2) < x := by
  by_cases h : 0 ≤ x
  · exact iff_of_true (roundHalfAway_nonneg h) (by linarith)
  rw [roundHalfAway, if_neg h]
  have hce : 0 ≤ ⌈x - 1 / 2⌉ ↔ (-1 : Int) < ⌈x - 1 / 2⌉ := by omega
  rw [hce, Int.lt_ceil, Int.cast_neg, Int.cast_one]
  constructor
  · intro hlt
    linarith
  · intro hlt
    linarith

theorem inRange_wrap (n : Int) : InRange (wrap n) := by
  have hlo := Int.le_bmod (m := 2 ^ 64) (x := n) (by decide)
  have hhi := Int.bmod_lt (m := 2 ^ 64) (x := n) (by decide)
  unfold InRange wrap
  omega

theorem wrap_eq_self_iff {n : Int} : wrap n = n ↔ InRange n :=
  ⟨fun h => h ▸ inRange_wrap n, wrap_of_inRange⟩

theorem inRange_ofRat : InRange (ofRat x) := by
  unfold ofRat
  split
  · assumption
  · decide

theorem trunc_intCast (n : Int) : trunc n = n := by
  unfold trunc
  split
  · exact Int.floor_intCast n
  · exact Int.ceil_intCast n

theorem trunc_nonneg_iff {x : ℚ} : 0 ≤ trunc x ↔ -1 < x := by
  unfold trunc
  split
  next h => exact ⟨fun _ => by linarith, fun _ => Int.floor_nonneg.mpr h⟩
  next h =>
    constructor
    · intro hce
      have : (-1 : Int) < ⌈x⌉ := by omega
      simpa using Int.lt_ceil.mp this
    · intro hx
      have : (-1 : Int) < ⌈x⌉ := Int.lt_ceil.mpr (by simpa using hx)
      omega

theorem trunc_lt_iff {x : ℚ} {n : Int} (hn : 0 < n) : trunc x < n ↔ x < n := by
  unfold trunc
  split
  next h => exact Int.floor_lt
  next h =>
    have hx : x ≤ 0 := by linarith
    have hn' : (0 : ℚ) < n := by exact_mod_cast hn
    have hce : ⌈x⌉ ≤ 0 := Int.ceil_le.mpr (by simpa using hx)
    exact ⟨fun _ => by linarith, fun _ => by omega⟩

theorem ofRat_nonneg_iff {x : ℚ} : 0 ≤ ofRat x ↔ -1 < x ∧ x < 2 ^ 63 := by
  have hlt : trunc x < 2 ^ 63 ↔ x < 2 ^ 63 := by
    have h := trunc_lt_iff (x := x) (show (0 : Int) < 2 ^ 63 by decide)
    exact h
  rw [← trunc_nonneg_iff, ← hlt]
  by_cases h : InRange (trunc x)
  · simp only [ofRat, h, if_true]
    exact ⟨fun hx => ⟨hx, h.2⟩, And.left⟩
  · simp only [ofRat, h, if_false]
    unfold InRange at h
    omega

end NewApi.Lib.Int64
