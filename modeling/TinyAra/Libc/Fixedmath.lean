/-
# Libc.Fixedmath -- `b16_t` arithmetic without `long long`

`b16_t` is an `int32_t` and `ub16_t` a `uint32_t`, both with 16 fraction bits; this is the
build without `CONFIG_HAVE_LONG_LONG` (lib_fixedmath.c). The unsigned routines split their
operands into integer and fraction halves; the signed ones take absolute values (`fixsign`),
call an unsigned routine and put the sign back (`adjustsign`).  `ub16Rounded` is the result the
routines are meant to give: the exact quotient rounded to the nearest, saturated at `ub16MAX`.

* `ub16_departs_from_rounded`: `ub16mulub16` takes the integer half of its first operand for
  both (`m2i = m1 >> 16`), so 1.0 times 2.0 is 1.0; `ub16divub16` adds the remainder rounded
  over the denominator where the remainder times 2^16 belongs, so 1.0 over 2.0 is 2^-16; and
  `ub16sqr` wraps where it should saturate, so the square of 256.0 is 0.
-/
import Mathlib.Data.UInt

namespace TinyAra.Libc

set_option autoImplicit false

/-- `b16HALF`, `b16MAX`, `b16MIN` and `ub16MAX` (fixedmath.h). -/
def b16HALF : UInt32 := 0x8000
def b16MAX : Int32 := 0x7fffffff
def b16MIN : Int32 := -0x80000000
def ub16MAX : UInt32 := 0xffffffff

/-- `fixsign(&arg1, &arg2, &negate)`: the absolute values, and whether one sign was negative. -/
def fixsign (arg1 arg2 : Int32) : Int32 × Int32 × Bool :=
  let (arg1, negate) := if arg1 < 0 then (-arg1, true) else (arg1, false)
  let (arg2, negate) := if arg2 < 0 then (-arg2, !negate) else (arg2, negate)
  (arg1, arg2, negate)

/-- `adjustsign(result, negate)`: a negative result is an overflow, reported as `b16MIN`. -/
def adjustsign (result : Int32) (negate : Bool) : Int32 :=
  if result < 0 then (if result ≠ 0 then b16MIN else b16MAX)
  else if negate then -result else result

def ub16mulub16 (m1 m2 : UInt32) : UInt32 :=
  let m1i := m1 >>> 16
  let m2i := m1 >>> 16
  let m1f := m1 &&& 0x0000ffff
  let m2f := m2 &&& 0x0000ffff
  ((m1i * m2i) <<< 16) + m1i * m2f + m2i * m1f + ((m1f * m2f + b16HALF) >>> 16)

def b16mulb16 (m1 m2 : Int32) : Int32 :=
  let (m1, m2, negate) := fixsign m1 m2
  adjustsign (ub16mulub16 m1.toUInt32 m2.toUInt32).toInt32 negate

def ub16sqr (a : UInt32) : UInt32 :=
  let mi := a >>> 16
  let mf := a &&& 0x0000ffff
  ((mi * mi) <<< 16) + ((mi * mf) <<< 1) + ((mf * mf + b16HALF) >>> 16)

def b16sqr (a : Int32) : Int32 :=
  let a := if a < 0 then -a else a
  let sq := (ub16sqr a.toUInt32).toInt32
  if sq < 0 then b16MAX else sq

def ub16divub16 (num denom : UInt32) : UInt32 :=
  let term1 := (num &&& 0xffff0000) / denom
  if term1 ≥ 0x00010000 then ub16MAX
  else
    let numf := num - term1 * denom
    let term1 := term1 <<< 16
    let product := term1 + (numf + (denom >>> 1)) / denom
    if product < term1 then ub16MAX else product

def b16divb16 (num denom : Int32) : Int32 :=
  let (num, denom, negate) := fixsign num denom
  adjustsign (ub16divub16 num.toUInt32 denom.toUInt32).toInt32 negate

/-- The exact quotient `n / d` rounded to the nearest, halves up, saturated at `ub16MAX`. -/
def ub16Rounded (n d : Nat) : UInt32 :=
  let q := (2 * n + d) / (2 * d)
  if q ≤ ub16MAX.toNat then q.toUInt32 else ub16MAX

theorem ub16_departs_from_rounded :
    ub16mulub16 0x10000 0x20000 = 0x10000 ∧ ub16Rounded (0x10000 * 0x20000) (2 ^ 16) = 0x20000 ∧
      ub16divub16 0x10000 0x20000 = 1 ∧ ub16Rounded (0x10000 * 2 ^ 16) 0x20000 = 0x8000 ∧
      ub16sqr 0x1000000 = 0 ∧ ub16Rounded (0x1000000 * 0x1000000) (2 ^ 16) = ub16MAX := by
  decide

end TinyAra.Libc
