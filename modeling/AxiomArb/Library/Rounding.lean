import Mathlib.Algebra.Order.Floor.Ring
import Mathlib.Tactic.FieldSimp
import Mathlib.Tactic.Linarith
import Mathlib.Tactic.Positivity

/-!
# Rounding to decimal places

What a value loses or gains when it is cut or raised to a multiple of a power of ten: less
than one unit of the last place, and to the known side.
-/

universe u

namespace AxiomArb.Library

inductive RoundingStrategy where
  | toZero
  | toPositiveInfinity
deriving DecidableEq, Repr

variable {K : Type u} [Field K] [LinearOrder K] [IsStrictOrderedRing K] [FloorRing K] {x : K}

namespace RoundingStrategy

def round : RoundingStrategy → K → ℤ
  | toZero, x => if 0 ≤ x then ⌊x⌋ else ⌈x⌉
  | toPositiveInfinity, x => ⌈x⌉

end RoundingStrategy

/-- The value at so many decimal places. -/
def roundDp (x : K) (dp : Nat) (strategy : RoundingStrategy) : K :=
  strategy.round (x * 10 ^ dp) / 10 ^ dp

theorem roundDp_toZero_le (hx : 0 ≤ x) (dp : Nat) : roundDp x dp .toZero ≤ x := by
  have hunit : (0 : K) < 10 ^ dp := by positivity
  rw [roundDp, RoundingStrategy.round, if_pos (by positivity), div_le_iff₀ hunit]
  exact Int.floor_le _

theorem sub_lt_roundDp_toZero (hx : 0 ≤ x) (dp : Nat) : x - 1 / 10 ^ dp < roundDp x dp .toZero := by
  have hunit : (0 : K) < 10 ^ dp := by positivity
  rw [roundDp, RoundingStrategy.round, if_pos (by positivity), lt_div_iff₀ hunit, sub_mul,
    one_div_mul_cancel hunit.ne']
  exact Int.sub_one_lt_floor _

theorem le_roundDp_toPositiveInfinity (x : K) (dp : Nat) : x ≤ roundDp x dp .toPositiveInfinity := by
  have hunit : (0 : K) < 10 ^ dp := by positivity
  rw [roundDp, RoundingStrategy.round, le_div_iff₀ hunit]
  exact Int.le_ceil _

theorem roundDp_toPositiveInfinity_lt (x : K) (dp : Nat) :
    roundDp x dp .toPositiveInfinity < x + 1 / 10 ^ dp := by
  have hunit : (0 : K) < 10 ^ dp := by positivity
  rw [roundDp, RoundingStrategy.round, div_lt_iff₀ hunit, add_mul, one_div_mul_cancel hunit.ne']
  exact Int.ceil_lt_add_one _

end AxiomArb.Library
