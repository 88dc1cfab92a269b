/-
# Lib.Numeral -- positional numerals, most significant digit first

C conversion routines write the digits of `n` in base `b` most significant first, and zero as
the one digit `0`.  `numeral b n` is that list: `Nat.digits` reversed, with `[0]` for zero. The
routines reach it in two ways, and each has its lemma:

* recursing on `n / b` while it is not zero and then writing `n % b` (`numeral_eq`), which is
  also how the value is read back (`foldl_numeral`), also by a reader that keeps its value
  modulo a bound above it (`foldl_mod_numeral`);
* walking a fixed number `k` of digit positions from the top (`fixedDigits`) and dropping the
  leading zeros (`dropWhile_fixedDigits`); a digit position of a power-of-two base is a shift and
  a mask (`shiftRight_and_eq`).
-/
import Mathlib.Data.Nat.Digits.Lemmas

namespace Numeral

variable {b n : Nat}

set_option autoImplicit false

/-- The digits of `n` in base `b`, most significant first; zero is the one digit `0`. -/
def numeral (b n : Nat) : List Nat := if n = 0 then [0] else (Nat.digits b n).reverse

theorem numeral_of_lt (lt : n < b) : numeral b n = [n] := by
  unfold numeral
  split
  · next zero => rw [zero]
  · next pos => rw [Nat.digits_of_lt b n pos lt, List.reverse_singleton]

theorem numeral_of_le (two : 2 ≤ b) (le : b ≤ n) :
    numeral b n = numeral b (n / b) ++ [n % b] := by
  have pos : n ≠ 0 := by omega
  have quot : n / b ≠ 0 := (Nat.div_pos le (by omega)).ne'
  unfold numeral
  rw [if_neg pos, if_neg quot, Nat.digits_def' (by omega) (by omega), List.reverse_cons]

theorem numeral_eq (two : 2 ≤ b) (n : Nat) :
    numeral b n = (if n / b ≠ 0 then numeral b (n / b) else []) ++ [n % b] := by
  by_cases le : b ≤ n
  · have quot : n / b ≠ 0 := (Nat.div_pos le (by omega)).ne'
    rw [if_pos quot, numeral_of_le two le]
  · have lt : n < b := by omega
    rw [if_neg (by simp [Nat.div_eq_of_lt lt]), numeral_of_lt lt, Nat.mod_eq_of_lt lt]
    rfl

theorem numeral_ne_nil (b n : Nat) : numeral b n ≠ [] := by
  unfold numeral
  split
  · simp
  · next pos => simpa using Nat.digits_ne_nil_iff_ne_zero.mpr pos

theorem lt_of_mem_numeral {d : Nat} (two : 2 ≤ b) (mem : d ∈ numeral b n) : d < b := by
  unfold numeral at mem
  split at mem
  · simp only [List.mem_singleton] at mem
    omega
  · exact Nat.digits_lt_base (by omega) (List.mem_reverse.mp mem)

theorem head_numeral_ne_zero (pos : n ≠ 0) :
    (numeral b n).head? ≠ some 0 := by
  unfold numeral
  rw [if_neg pos, List.head?_reverse]
  have last := Nat.getLast_digit_ne_zero b pos
  rw [List.getLast?_eq_some_getLast (Nat.digits_ne_nil_iff_ne_zero.mpr pos)]
  simpa using last

theorem foldl_numeral (two : 2 ≤ b) (n : Nat) :
    (numeral b n).foldl (fun acc d => b * acc + d) 0 = n := by
  induction n using Nat.strong_induction_on with
  | _ n ih =>
    rw [numeral_eq two, List.foldl_append, List.foldl_cons, List.foldl_nil]
    split
    · next quot =>
      have pos : 0 < n := Nat.pos_of_ne_zero fun zero => quot (by simp [zero])
      rw [ih (n / b) (Nat.div_lt_self pos (by omega))]
      exact Nat.div_add_mod n b
    · next quot =>
      have lt : n < b := by
        rcases Nat.div_eq_zero_iff.mp (not_not.mp quot) with zero | lt <;> omega
      simp only [List.foldl_nil, Nat.mul_zero, Nat.zero_add]
      exact Nat.mod_eq_of_lt lt

theorem length_numeral_le {k : Nat} (two : 2 ≤ b) (one : 1 ≤ k) (lt : n < b ^ k) :
    (numeral b n).length ≤ k := by
  unfold numeral
  split
  · simpa using one
  · rw [List.length_reverse]
    exact (Nat.digits_length_le_iff (by omega) n).mpr lt

theorem le_foldl_digits (one : 1 ≤ b) :
    ∀ (acc : Nat) (ds : List Nat), acc ≤ ds.foldl (fun acc d => b * acc + d) acc
  | _, [] => Nat.le_refl _
  | acc, d :: ds => by
    have step : acc ≤ b * acc + d := Nat.le_trans (Nat.le_mul_of_pos_left acc one)
      (Nat.le_add_right _ d)
    exact Nat.le_trans step (le_foldl_digits one _ ds)

theorem foldl_mod_digits {m : Nat} (one : 1 ≤ b) :
    ∀ (acc : Nat) (ds : List Nat), ds.foldl (fun acc d => b * acc + d) acc < m →
      ds.foldl (fun acc d => (b * acc + d) % m) acc = ds.foldl (fun acc d => b * acc + d) acc
  | _, [], _ => rfl
  | acc, d :: ds, lt => by
    have below : b * acc + d < m :=
      Nat.lt_of_le_of_lt (le_foldl_digits one (b * acc + d) ds) lt
    rw [List.foldl_cons, List.foldl_cons, Nat.mod_eq_of_lt below]
    exact foldl_mod_digits one _ ds lt

theorem foldl_mod_numeral {m : Nat} (two : 2 ≤ b) (lt : n < m) :
    (numeral b n).foldl (fun acc d => (b * acc + d) % m) 0 = n := by
  rw [foldl_mod_digits (by omega) 0 _ (by rwa [foldl_numeral two]), foldl_numeral two]

/-! ## A fixed number of digit positions -/

/-- The `k` lowest digits of `n` in base `b`, most significant first, leading zeros kept. -/
def fixedDigits (b : Nat) : Nat → Nat → List Nat
  | 0, _ => []
  | k + 1, n => n / b ^ k % b :: fixedDigits b k n

theorem fixedDigits_succ_right (b : Nat) : ∀ (k n : Nat),
    fixedDigits b (k + 1) n = fixedDigits b k (n / b) ++ [n % b]
  | 0, n => by simp [fixedDigits]
  | k + 1, n => by
    rw [fixedDigits, fixedDigits_succ_right b k n, fixedDigits, List.cons_append,
      Nat.pow_succ', ← Nat.div_div_eq_div_mul]

theorem fixedDigits_eq_numeral (two : 2 ≤ b) : ∀ {k n : Nat},
    b ^ k ≤ n → n < b ^ (k + 1) → fixedDigits b (k + 1) n = numeral b n
  | 0, n, le, lt => by
    simp only [Nat.pow_zero, Nat.zero_add, Nat.pow_one] at le lt
    simp [fixedDigits, numeral_of_lt lt, Nat.mod_eq_of_lt lt]
  | k + 1, n, le, lt => by
    have big : b ≤ n := le_trans (Nat.le_self_pow (by omega) b) le
    have quotLe : b ^ k ≤ n / b := by
      rw [Nat.le_div_iff_mul_le (by omega), ← Nat.pow_succ]
      exact le
    have quotLt : n / b < b ^ (k + 1) := by
      rw [Nat.div_lt_iff_lt_mul (by omega), ← Nat.pow_succ]
      exact lt
    rw [fixedDigits_succ_right, fixedDigits_eq_numeral two quotLe quotLt, numeral_of_le two big]

theorem dropWhile_fixedDigits (two : 2 ≤ b) : ∀ {k n : Nat},
    0 < n → n < b ^ k → (fixedDigits b k n).dropWhile (· == 0) = numeral b n
  | 0, n, pos, lt => by simp at lt; omega
  | k + 1, n, pos, lt => by
    by_cases high : n < b ^ k
    · have zero : n / b ^ k % b = 0 := by simp [Nat.div_eq_of_lt high]
      rw [fixedDigits, List.dropWhile_cons_of_pos (by simpa using zero)]
      exact dropWhile_fixedDigits two pos high
    · have le : b ^ k ≤ n := by omega
      have lead : n / b ^ k % b ≠ 0 := by
        have top : n / b ^ k < b := by
          rw [Nat.div_lt_iff_lt_mul (by positivity), ← Nat.pow_succ']
          exact lt
        rw [Nat.mod_eq_of_lt top]
        exact (Nat.div_pos le (by positivity)).ne'
      rw [← fixedDigits_eq_numeral two le lt, fixedDigits,
        List.dropWhile_cons_of_neg (by simpa using lead)]

theorem fixedDigits_zero (b : Nat) : ∀ k, fixedDigits b k 0 = List.replicate k 0
  | 0 => rfl
  | k + 1 => by simp [fixedDigits, fixedDigits_zero b k, List.replicate_succ]

theorem shiftRight_and_eq (w k n : Nat) :
    (n >>> (w * k)) &&& (2 ^ w - 1) = n / (2 ^ w) ^ k % 2 ^ w := by
  rw [Nat.and_two_pow_sub_one_eq_mod, Nat.shiftRight_eq_div_pow, Nat.pow_mul]

end Numeral
