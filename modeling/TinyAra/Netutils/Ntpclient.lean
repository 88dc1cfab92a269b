/-
# Netutils.Ntpclient -- the time an NTP reply sets

`ntpc_settime` reads the seconds and the fraction of an NTP timestamp, each a big-endian
`uint32_t` (`ntpc_getuint32`), moves the seconds from the NTP epoch to the Unix one when they
are past it, and turns the fraction into nanoseconds as `f * 1953125 >> 23`. With
`CONFIG_HAVE_LONG_LONG` the product is a `uint64_t`; without it the code splits both factors
into 16-bit halves and keeps the 64-bit product as two words `t32`, `t0`, adding each middle
partial product to them with an explicit carry.

* `carry_block_toNat`: one such addition adds its term, shifted by 16, to the two words;
* `nsecLongLong_toNat`, `nsecHalves_toNat`: both builds give `⌊f * 10^9 / 2^32⌋`;
* `ntpcSettime_valid`: the time handed to `clock_settime` is a valid `struct timespec`;
* `ntpcSettime_converts`: and its seconds are those of the timestamp, less 2208988800 past it.
-/
import TinyAra.Kernel.Clock
import Mathlib.Data.UInt

namespace TinyAra.Netutils.Ntpclient

open TinyAra.Kernel.Clock

set_option autoImplicit false

def ntp2unixTranlslation : UInt32 := 2208988800

/-- `ntpc_getuint32(ptr)`. -/
def ntpcGetuint32 (ptr : Nat → UInt8) : UInt32 :=
  (ptr 3).toUInt32 ||| ((ptr 2).toUInt32 <<< 8) ||| ((ptr 1).toUInt32 <<< 16) |||
    ((ptr 0).toUInt32 <<< 24)

/-- The fraction in nanoseconds with `CONFIG_HAVE_LONG_LONG`. -/
def nsecLongLong (frac : UInt32) : UInt32 :=
  ((frac.toUInt64 * 1953125) >>> 23).toUInt32

/-- The fraction in nanoseconds without `CONFIG_HAVE_LONG_LONG`. -/
def nsecHalves (frac : UInt32) : UInt32 :=
  let a16 := frac >>> 16
  let b0 := frac &&& 0xffff
  let t32 := 0x001d * a16
  let t0 := 0xcd65 * b0
  let t16 := 0xcd65 * a16
  let t32 := t32 + (t16 >>> 16)
  let t16 := t16 <<< 16
  let t32 := if t0 > 0xffffffff - t16 then t32 + 1 else t32
  let t0 := t0 + t16
  let t16 := 0x001d * b0
  let t32 := t32 + (t16 >>> 16)
  let t16 := t16 <<< 16
  let t32 := if t0 > 0xffffffff - t16 then t32 + 1 else t32
  let t0 := t0 + t16
  (t32 <<< (32 - 23)) + (t0 >>> 23)

/-- `ntpc_settime(timestamp)`: the `struct timespec` it passes to `clock_settime`. -/
def ntpcSettime (haveLongLong : Bool) (timestamp : Nat → UInt8) : Timespec :=
  let seconds := ntpcGetuint32 timestamp
  let seconds := if seconds > ntp2unixTranlslation then seconds - ntp2unixTranlslation
    else seconds
  let frac := ntpcGetuint32 fun i => timestamp (i + 4)
  let nsec := if haveLongLong then nsecLongLong frac else nsecHalves frac
  { tvSec := seconds.toNat, tvNsec := nsec.toNat }

/-- The big-endian number in the four bytes from `ptr i`. -/
def bigEndian32 (ptr : Nat → UInt8) (i : Nat) : Nat :=
  (ptr i).toNat * 2 ^ 24 + (ptr (i + 1)).toNat * 2 ^ 16 + (ptr (i + 2)).toNat * 2 ^ 8 +
    (ptr (i + 3)).toNat

theorem or_mul_two_pow {x k : Nat} (h : x < 2 ^ k) (y : Nat) :
    x ||| y * 2 ^ k = y * 2 ^ k + x := by
  rw [Nat.or_comm, Nat.mul_comm, Nat.two_pow_add_eq_or_of_lt h]

theorem ntpcGetuint32_toNat (ptr : Nat → UInt8) :
    (ntpcGetuint32 ptr).toNat = bigEndian32 ptr 0 := by
  have b0 := (ptr 0).toNat_lt
  have b1 := (ptr 1).toNat_lt
  have b2 := (ptr 2).toNat_lt
  have b3 := (ptr 3).toNat_lt
  simp only [ntpcGetuint32, bigEndian32, Nat.zero_add, UInt32.toNat_or, UInt32.toNat_shiftLeft,
    UInt8.toNat_toUInt32, UInt32.reduceToNat, Nat.reduceMod, Nat.shiftLeft_eq]
  -- each byte lands above the ones already in, so every `|` is a sum
  rw [Nat.mod_eq_of_lt (by omega : (ptr 2).toNat * 2 ^ 8 < 2 ^ 32),
    Nat.mod_eq_of_lt (by omega : (ptr 1).toNat * 2 ^ 16 < 2 ^ 32),
    Nat.mod_eq_of_lt (by omega : (ptr 0).toNat * 2 ^ 24 < 2 ^ 32), or_mul_two_pow b3,
    or_mul_two_pow (x := (ptr 2).toNat * 2 ^ 8 + (ptr 3).toNat) (k := 16) (by omega),
    or_mul_two_pow (x := (ptr 1).toNat * 2 ^ 16 + ((ptr 2).toNat * 2 ^ 8 + (ptr 3).toNat))
      (k := 24) (by omega)]
  omega

/-- `1953125 / 2^23` is `10^9 / 2^32` in lowest terms. -/
theorem nsec_scale (f : Nat) : f * 1953125 / 2 ^ 23 = f * 10 ^ 9 / 2 ^ 32 := by
  have num : f * 10 ^ 9 = f * 1953125 * 2 ^ 9 := by omega
  have den : (2 : Nat) ^ 32 = 2 ^ 23 * 2 ^ 9 := by decide
  rw [num, den, Nat.mul_div_mul_right _ _ (by decide)]

theorem nsec_scale_lt {f : Nat} (h : f < 2 ^ 32) : f * 1953125 / 2 ^ 23 < 2 ^ 32 := by
  rw [Nat.div_lt_iff_lt_mul (by decide)]
  omega

/-- Both builds end with the 64-bit product shifted right by 23 and cut to 32 bits. -/
theorem nsec_of_product {f : Nat} (h : f < 2 ^ 32) :
    f * 1953125 % 2 ^ 64 / 2 ^ 23 % 2 ^ 32 = f * 10 ^ 9 / 2 ^ 32 := by
  rw [Nat.mod_eq_of_lt (by omega : f * 1953125 < 2 ^ 64), Nat.mod_eq_of_lt (nsec_scale_lt h),
    nsec_scale]

theorem nsecLongLong_toNat (frac : UInt32) :
    (nsecLongLong frac).toNat = frac.toNat * 10 ^ 9 / 2 ^ 32 := by
  simp only [nsecLongLong, UInt64.toNat_toUInt32, UInt64.toNat_shiftRight, UInt64.toNat_mul,
    UInt32.toNat_toUInt64, UInt64.reduceToNat, Nat.shiftRight_eq_div_pow, Nat.reduceMod]
  exact nsec_of_product frac.toNat_lt

theorem carry_block_toNat (t32 t0 x : UInt32) :
    (if t0 > (0xffffffff : UInt32) - x <<< 16 then t32 + (x >>> 16) + 1
      else t32 + (x >>> 16)).toNat * 2 ^ 32 + (t0 + x <<< 16).toNat =
      (t32.toNat * 2 ^ 32 + t0.toNat + x.toNat * 2 ^ 16) % 2 ^ 64 := by
  have := t32.toNat_lt
  have := t0.toNat_lt
  have := x.toNat_lt
  split_ifs with carry
  all_goals
    simp only [gt_iff_lt, UInt32.lt_iff_toNat_lt, UInt32.toNat_sub, UInt32.toNat_add,
      UInt32.toNat_shiftLeft, UInt32.toNat_shiftRight, UInt32.reduceToNat, Nat.reducePow,
      Nat.reduceMod, Nat.shiftLeft_eq, Nat.shiftRight_eq_div_pow] at *
    omega

/-- `(t32 << 9) + (t0 >> 23)` is the 64-bit number `t32 : t0` shifted right by 23. -/
theorem assemble_toNat (t32 t0 : UInt32) :
    ((t32 <<< (32 - 23)) + (t0 >>> 23)).toNat =
      (t32.toNat * 2 ^ 32 + t0.toNat) / 2 ^ 23 % 2 ^ 32 := by
  have := t0.toNat_lt
  simp only [UInt32.toNat_add, UInt32.toNat_shiftLeft, UInt32.toNat_shiftRight,
    UInt32.reduceToNat, UInt32.reduceSub, Nat.reducePow, Nat.reduceMod, Nat.shiftLeft_eq,
    Nat.shiftRight_eq_div_pow]
  omega

theorem nsecHalves_toNat (frac : UInt32) :
    (nsecHalves frac).toNat = frac.toNat * 10 ^ 9 / 2 ^ 32 := by
  have := frac.toNat_lt
  simp only [nsecHalves]
  rw [assemble_toNat, carry_block_toNat, carry_block_toNat]
  simp only [UInt32.toNat_mul, UInt32.toNat_shiftRight, UInt32.toNat_and, UInt32.reduceToNat,
    Nat.reducePow, Nat.reduceMod, Nat.shiftRight_eq_div_pow]
  generalize frac.toNat = f at *
  rw [show f &&& 65535 = f % 65536 from Nat.and_two_pow_sub_one_eq_mod _ 16]
  set a := f / 65536 with ha
  set b := f % 65536 with hb
  -- each partial product of two 16-bit halves fits in 32 bits
  rw [Nat.mod_eq_of_lt (by omega : 29 * a < 4294967296),
    Nat.mod_eq_of_lt (by omega : 52581 * a < 4294967296),
    Nat.mod_eq_of_lt (by omega : 29 * b < 4294967296),
    Nat.mod_eq_of_lt (by omega : 52581 * b < 4294967296)]
  have product : 29 * a * 4294967296 + 52581 * b + 52581 * a * 65536 + 29 * b * 65536 =
      f * 1953125 := by omega
  rw [Nat.mod_eq_of_lt (by omega : 29 * a * 4294967296 + 52581 * b + 52581 * a * 65536 <
      18446744073709551616), product]
  exact nsec_of_product this

theorem ntpcSettime_tvNsec (haveLongLong : Bool) (timestamp : Nat → UInt8) :
    (ntpcSettime haveLongLong timestamp).tvNsec =
      ((ntpcGetuint32 fun i => timestamp (i + 4)).toNat * 10 ^ 9 / 2 ^ 32 : Nat) := by
  cases haveLongLong <;>
    simp only [ntpcSettime, Bool.false_eq_true, ↓reduceIte, nsecLongLong_toNat, nsecHalves_toNat]

theorem ntpcSettime_valid (haveLongLong : Bool) (timestamp : Nat → UInt8) :
    (ntpcSettime haveLongLong timestamp).Valid where
  sec := UInt32.toNat_lt _
  nsecNonneg := by
    rw [ntpcSettime_tvNsec]
    exact Int.natCast_nonneg _
  nsecLt := by
    have := (ntpcGetuint32 fun i => timestamp (i + 4)).toNat_lt
    have lt : (ntpcGetuint32 fun i => timestamp (i + 4)).toNat * 10 ^ 9 / 2 ^ 32 < 10 ^ 9 := by
      rw [Nat.div_lt_iff_lt_mul (by decide)]
      omega
    rw [ntpcSettime_tvNsec, nsecPerSec]
    omega

theorem ntpcSettime_converts (haveLongLong : Bool) (timestamp : Nat → UInt8) :
    (ntpcSettime haveLongLong timestamp).tvNsec =
        (bigEndian32 timestamp 4 * 10 ^ 9 / 2 ^ 32 : Nat) ∧
      (ntpcSettime haveLongLong timestamp).tvNsec < 10 ^ 9 ∧
      (ntpcSettime haveLongLong timestamp).tvSec =
        if bigEndian32 timestamp 0 > 2208988800 then bigEndian32 timestamp 0 - 2208988800
        else bigEndian32 timestamp 0 := by
  have frac : (ntpcGetuint32 fun i => timestamp (i + 4)).toNat = bigEndian32 timestamp 4 :=
    ntpcGetuint32_toNat _
  have seconds := ntpcGetuint32_toNat timestamp
  have fits := (ntpcGetuint32 timestamp).toNat_lt
  rw [seconds] at fits
  refine ⟨by rw [ntpcSettime_tvNsec, frac], (ntpcSettime_valid haveLongLong timestamp).nsecLt,
    ?_⟩
  simp only [ntpcSettime]
  split_ifs with past past' past' <;>
    simp only [gt_iff_lt, UInt32.lt_iff_toNat_lt, UInt32.toNat_sub, seconds,
      ntp2unixTranlslation, UInt32.reduceToNat, Nat.reducePow] at past past' fits ⊢ <;>
    omega

end TinyAra.Netutils.Ntpclient
