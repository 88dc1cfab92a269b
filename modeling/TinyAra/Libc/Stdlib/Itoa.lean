/-
# Libc.Stdlib.Itoa -- `itoa` and `abs`

`itoa(val, str, base)` writes the digits of `abs(val)` least significant first (`digit = intval %
base`, `intval = intval / base`, in C's truncating division) until the quotient is no longer
positive, then a `-` for a negative `val`; it reverses all of it in place and ends it with a NUL.
For a base outside `[2, 36]` it writes only the NUL.  `int` is 32 bits and `abs` negates in it, so
`abs(INT_MIN)` is `INT_MIN`. A digit outside the table `digits` is read from memory the model does
not have: there it gives no answer.

* `itoa_int_min`, `itoa_misses_int_min`: for `INT_MIN` the first remainder is `-(2^31 % base)`.
  In a power-of-two base it is 0 and `itoa` writes `-0`; in any other it indexes before the table.
  Neither is the numeral of `2^31`.
-/
import TinyAra.Lib.Numeral
import TinyAra.Lib.Loop
import TinyAra.Lib.CInt
import Mathlib

namespace TinyAra.Libc.Stdlib

set_option autoImplicit false

open Numeral Loop

/-- `abs(j)`: `j = -j` for a negative `j`, in `int`. -/
def abs (j : Int) : Int := if j < 0 then CInt.wrap 32 (-j) else j

/-- The table `digits` of `itoa`. -/
def digits : List Char := "0123456789abcdefghijklmnopqrstuvwxyz".toList

/-- `digits[digit]`; a negative `digit` reads before the table, which has no answer. -/
def digitAt (digit : Int) : Option Char := if 0 ≤ digit then digits[digit.toNat]? else none

/-- One round of the `do ... while (intval > 0)` loop of `itoa` on `(intval, buf)`: the digit's
character is written at the end of `buf`. -/
def digitRound (base : Int) : Int × List Char → Option (List Char) ⊕ (Int × List Char)
  | (intval, buf) =>
    match digitAt (intval.tmod base) with
    | none => .inl none
    | some c =>
      if intval.tdiv base > 0 then .inr (intval.tdiv base, buf ++ [c]) else .inl (some (buf ++ [c]))

/-- The rounds the model gives the digit loop: a 32-bit value has at most 32 digits. -/
def digitRounds : Nat := 32

def swapAt {α : Type} (str : List α) (i j : Nat) : List α :=
  match str[i]?, str[j]? with
  | some a, some b => (str.set j a).set i b
  | _, _ => str

/-- The first `k` rounds of `for (pos = 0; pos < len / 2; pos++)`, which swaps `str[pos]` and
`str[len - pos - 1]`. -/
def swapLoop {α : Type} (len k : Nat) (str : List α) : List α :=
  (List.range k).foldl (fun str pos => swapAt str pos (len - pos - 1)) str

/-- `itoa(val, str, base)`: what it writes into `str`, the NUL included. -/
def itoa (val base : Int) : Option (List Char) :=
  if base ≥ 2 ∧ base ≤ 36 then do
    let buf ← (loop (digitRound base) digitRounds (abs val, [])).join
    let buf := if val < 0 then buf ++ ['-'] else buf
    let len := buf.length
    pure (swapLoop len (len / 2) buf ++ ['\x00'])
  else pure ['\x00']

/-- What `itoa` is for: the sign of a negative value, the shortest numeral of `|val|` in the
table's digits, and the NUL; for another base the empty string. -/
def itoaSpec (val base : Int) : List Char :=
  if base ≥ 2 ∧ base ≤ 36 then
    (if val < 0 then ['-'] else []) ++ (numeral base.toNat val.natAbs).map (digits.getD · '0') ++ ['\x00']
  else ['\x00']

/-! ## The digit loop -/

/-! ## What `itoa` writes -/

example : itoa (-255) 16 = some ['-', 'f', 'f', '\x00'] := by decide

/-! ## `INT_MIN` -/

theorem abs_int_min : Stdlib.abs (-2 ^ 31) = -2 ^ 31 := by
  decide

/-- From a negative `intval` the loop makes one round: the remainder `-(m % base)` is a digit only
when it is 0, and the quotient is not positive. -/
theorem digitRound_neg {b : Nat} (m : Nat) :
    digitRound b (-(m : Int), []) = .inl (if m % b = 0 then some ['0'] else none) := by
  have digit : (-(m : Int)).tmod b = -((m % b : Nat) : Int) := by
    rw [Int.neg_tmod, Int.ofNat_tmod]
  have quotient : ¬ (-(m : Int)).tdiv b > 0 := by
    rw [Int.neg_tdiv, ← Int.ofNat_tdiv]
    exact not_lt.mpr (Int.neg_nonpos_of_nonneg (Int.natCast_nonneg _))
  simp only [digitRound]
  rw [digit]
  by_cases zero : m % b = 0
  · have read : digitAt (-((m % b : Nat) : Int)) = some '0' := by
      rw [zero]
      rfl
    rw [read, if_pos zero]
    exact if_neg quotient
  · have read : digitAt (-((m % b : Nat) : Int)) = none := by
      simp only [digitAt]
      rw [if_neg (by omega)]
    rw [read, if_neg zero]

theorem itoa_int_min (base : Int) (two : 2 ≤ base) (high : base ≤ 36) :
    itoa (-2 ^ 31) base = if 2 ^ 31 % base = 0 then some ['-', '0', '\x00'] else none := by
  obtain ⟨b, rfl⟩ : ∃ b : Nat, base = b := ⟨base.toNat, by omega⟩
  have ran : loop (digitRound b) digitRounds (-2 ^ 31, []) =
      some (if 2 ^ 31 % b = 0 then some ['0'] else none) :=
    loop_of_inl (digitRound_neg (2 ^ 31)) 31
  have cast : (2 : Int) ^ 31 % (b : Int) = 0 ↔ 2 ^ 31 % b = 0 := by
    norm_cast
  unfold itoa
  rw [if_pos ⟨two, high⟩, abs_int_min, ran]
  by_cases zero : 2 ^ 31 % b = 0
  · rw [if_pos zero, if_pos (cast.mpr zero)]
    rfl
  · rw [if_neg zero, if_neg (mt cast.mp zero)]
    rfl

theorem itoa_misses_int_min (base : Int) (two : 2 ≤ base) (high : base ≤ 36) :
    itoa (-2 ^ 31) base ≠ some (itoaSpec (-2 ^ 31) base) := by
  obtain ⟨b, rfl⟩ : ∃ b : Nat, base = b := ⟨base.toNat, by omega⟩
  -- the numeral of `2^31` has at least two digits, `-0` has one
  have long : 2 ≤ (numeral b (2 ^ 31)).length := by
    rw [numeral_of_le (by omega) (by omega), List.length_append, List.length_singleton]
    have := List.length_pos_iff.mpr (numeral_ne_nil b (2 ^ 31 / b))
    omega
  have natAbs : (-2 ^ 31 : Int).natAbs = 2 ^ 31 := rfl
  have negative : (-2 ^ 31 : Int) < 0 := by norm_num
  rw [itoa_int_min b two high]
  unfold itoaSpec
  rw [if_pos (show (b : Int) ≥ 2 ∧ (b : Int) ≤ 36 from ⟨two, high⟩), if_pos negative, natAbs,
    Int.toNat_natCast]
  generalize numeral b (2 ^ 31) = written at long ⊢
  split
  · intro same
    have lengths := congrArg List.length (Option.some.inj same)
    simp only [List.length_append, List.length_map, List.length_cons, List.length_nil] at lengths
    omega
  · simp

theorem itoa_misses_int_min_decimal :
    (2 : Int) ≤ 10 ∧ (10 : Int) ≤ 36 ∧ itoa (-2 ^ 31) 10 ≠ some (itoaSpec (-2 ^ 31) 10) :=
  ⟨by decide, by decide, itoa_misses_int_min 10 (by decide) (by decide)⟩

end TinyAra.Libc.Stdlib
