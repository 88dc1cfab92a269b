/-
# Lib.CInt -- C integer conversions and rounding up

Two facts of C arithmetic that the models of this project share:

* a value converted to a signed `w`-bit type keeps its residue modulo `2 ^ w` and lands in
  `[-2 ^ (w - 1), 2 ^ (w - 1))`: `wrap w`, which is `Int.bmod`; `wrap_of_lt` says a value
  already in range is kept, `wrap_sub_pow` that one just above it loses `2 ^ w`;
* `IsCeil n d k`: `k` is `⌈n / d⌉`, the least number of steps of `d` that reach `n`. The usual
  code `(n + d - 1) / d` computes it (`isCeil_ediv`), and `IsCeil.le_iff` bounds the count by
  the quantity it reaches.
-/
import Mathlib.Tactic.Ring

namespace CInt

set_option autoImplicit false

/-- The value of type `int{w}_t` that C's conversion gives for `x`: two's complement. -/
def wrap (w : Nat) (x : Int) : Int := x.bmod (2 ^ w)

theorem wrap_of_lt {w : Nat} {x : Int} (low : -2 ^ w ≤ 2 * x) (high : 2 * x < 2 ^ w) :
    wrap w x = x := by
  unfold wrap
  apply Int.bmod_eq_of_le_mul_two
  · push_cast
    omega
  · push_cast
    omega

theorem wrap_sub_pow {w : Nat} {x : Int} (low : 2 ^ w ≤ 2 * x) (high : x < 2 ^ w) :
    wrap w x = x - 2 ^ w := by
  have shifted : wrap w (x - 2 ^ w) = x - 2 ^ w := wrap_of_lt (by omega) (by omega)
  have same := Int.sub_bmod_right x (2 ^ w)
  push_cast at same
  rw [← shifted, wrap, wrap, same]

/-- `k` steps of `d` reach `n`, and `k - 1` do not: `k = ⌈n / d⌉`. -/
def IsCeil (n d k : Int) : Prop := (k - 1) * d < n ∧ n ≤ k * d

instance (n d k : Int) : Decidable (IsCeil n d k) := inferInstanceAs (Decidable (_ ∧ _))

theorem isCeil_ediv {n d : Int} (positive : 0 < d) : IsCeil n d ((n + d - 1) / d) := by
  have below := Int.ediv_mul_le (n + d - 1) (Int.ne_of_gt positive)
  have above := Int.lt_ediv_add_one_mul_self (n + d - 1) positive
  constructor
  · rw [Int.sub_mul, Int.one_mul]
    omega
  · rw [Int.add_mul, Int.one_mul] at above
    omega

theorem IsCeil.le_iff {n d k : Int} (positive : 0 < d) (ceil : IsCeil n d k) (m : Int) :
    k ≤ m ↔ n ≤ m * d := by
  obtain ⟨below, above⟩ := ceil
  constructor
  · intro le
    exact Int.le_trans above (Int.mul_le_mul_of_nonneg_right le positive.le)
  · intro reach
    have : (k - 1) * d < m * d := Int.lt_of_lt_of_le below reach
    have := Int.lt_of_mul_lt_mul_right this positive.le
    omega

end CInt
