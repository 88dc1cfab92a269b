/-
# Kernel.Clock -- relative and absolute times in system ticks

`clock_time2ticks` turns a relative `struct timespec` into a count of system ticks, rounded up.
`clock_abstime2ticks` subtracts the current time from an absolute one, borrowing a second when
the nanoseconds go negative, and converts what is left; a time already past gives `-1`, which
every caller reads as "expired".  `tv_sec` is a `time_t` (`uint32_t`), `tv_nsec` a `long` of
32 bits, and a tick lasts `USEC_PER_TICK` microseconds, a parameter here.

* `clockTime2ticks64` (`CONFIG_HAVE_LONG_LONG`) counts nanoseconds in an `int64_t` and rounds
  up once;
* `clockTime2ticks32` counts microseconds in an `int32_t` and rounds up twice. From 2148 seconds on, the `unsigned` product wraps to a negative
  `int32_t` and the call stores a negative count for a count that fits an `int`
  (`clockTime2ticks32_wraps`);
* `clockGettimeRealtime_clockSettime`: `clock_settime(CLOCK_REALTIME, tp)` stores `tp` less the
  time since power up in `g_basetime`, so that `clock_gettime` at that moment reads `tp` back.
-/
import TinyAra.Lib.CInt
import Mathlib.Tactic.Linarith

namespace TinyAra.Kernel.Clock

variable {t : Timespec} {u k : Int}

open CInt

set_option autoImplicit false

/-- `struct timespec`. -/
structure Timespec where
  tvSec : Nat
  tvNsec : Int
  deriving DecidableEq, Repr

def nsecPerSec : Int := 1000000000
def usecPerSec : Int := 1000000
def nsecPerUsec : Int := 1000

/-- `NSEC_PER_TICK` for a tick of `usecPerTick` microseconds. -/
def nsecPerTick (usecPerTick : Int) : Int := usecPerTick * nsecPerUsec

def einval : Int := 22

/-- A time as the clock functions take it: seconds that fit a `time_t`, and nanoseconds below
one second. -/
structure Timespec.Valid (t : Timespec) : Prop where
  sec : t.tvSec < 2 ^ 32
  nsecNonneg : 0 ≤ t.tvNsec
  nsecLt : t.tvNsec < nsecPerSec

def Timespec.toNsec (t : Timespec) : Int := t.tvSec * nsecPerSec + t.tvNsec

/-- `clock_time2ticks(reltime, ticks)` with `CONFIG_HAVE_LONG_LONG`: the `int64_t` sum does not
overflow for a `uint32_t` second count; the quotient is cast to `int`. -/
def clockTime2ticks64 (usecPerTick : Int) (reltime : Timespec) : Int :=
  let relnsec : Int := reltime.tvSec * nsecPerSec + reltime.tvNsec
  wrap 32 ((relnsec + nsecPerTick usecPerTick - 1).tdiv (nsecPerTick usecPerTick))

/-- `clock_time2ticks(reltime, ticks)` without it.  `tv_sec * USEC_PER_SEC` is `unsigned`
arithmetic (a `time_t` times an `int`), and so is its sum with the `long`; the result is stored
in an `int32_t`, which keeps it modulo `2 ^ 32`. The sum with `USEC_PER_TICK - 1` is `int`
arithmetic, which wraps on the target. -/
def clockTime2ticks32 (usecPerTick : Int) (reltime : Timespec) : Int :=
  let relusec := wrap 32 (reltime.tvSec * usecPerSec +
    (reltime.tvNsec + nsecPerUsec - 1).tdiv nsecPerUsec)
  (wrap 32 (relusec + usecPerTick - 1)).tdiv usecPerTick

/-- `compare_timespec(a, b)`: negative when `a` is before `b`. -/
def compareTimespec (a b : Timespec) : Int :=
  if a.tvSec < b.tvSec then -1
  else if a.tvSec > b.tvSec then 1
  else a.tvNsec - b.tvNsec

/-- `clock_abstime2ticks(clockid, abstime, ticks)`, with the reading of `clock_gettime` as
`currtime` (`none` when it fails) and the build's `clock_time2ticks` as `time2ticks`. The
seconds are subtracted as `time_t`, modulo `2 ^ 32`. -/
def clockAbstime2ticks (time2ticks : Timespec → Int) (currtime : Option Timespec)
    (abstime : Timespec) : Except Int Int :=
  match currtime with
  | none => .error einval
  | some currtime =>
    if compareTimespec abstime currtime < 0 then .ok (-1)
    else
      let reltime : Timespec :=
        ⟨(abstime.tvSec + 2 ^ 32 - currtime.tvSec) % 2 ^ 32, abstime.tvNsec - currtime.tvNsec⟩
      -- borrow a second from the seconds
      let reltime :=
        if reltime.tvNsec < 0 then
          ⟨(reltime.tvSec + 2 ^ 32 - 1) % 2 ^ 32, reltime.tvNsec + nsecPerSec⟩
        else reltime
      .ok (time2ticks reltime)

/-! ## One rounding: the 64-bit build -/

theorem nsecPerTick_pos (positive : 0 < u) : 0 < nsecPerTick u := by
  unfold nsecPerTick nsecPerUsec
  omega

/-! ## Two roundings: the 32-bit build -/

theorem isCeil_usec (valid : t.Valid) :
    IsCeil t.toNsec nsecPerUsec
      (t.tvSec * usecPerSec + (t.tvNsec + nsecPerUsec - 1).tdiv nsecPerUsec) := by
  have nsec := isCeil_ediv (n := t.tvNsec) (show (0 : Int) < nsecPerUsec by decide)
  rw [← Int.tdiv_eq_ediv_of_nonneg (by have := valid.nsecNonneg; unfold nsecPerUsec; omega)]
    at nsec
  obtain ⟨below, above⟩ := nsec
  unfold Timespec.toNsec
  unfold nsecPerSec usecPerSec nsecPerUsec at *
  constructor <;> omega

theorem usec_bounds (valid : t.Valid) :
    t.tvSec * usecPerSec ≤ t.tvSec * usecPerSec + (t.tvNsec + nsecPerUsec - 1).tdiv nsecPerUsec ∧
      t.tvSec * usecPerSec + (t.tvNsec + nsecPerUsec - 1).tdiv nsecPerUsec ≤
        (t.tvSec + 1) * usecPerSec := by
  have low := valid.nsecNonneg
  have high := valid.nsecLt
  rw [Int.tdiv_eq_ediv_of_nonneg (by unfold nsecPerUsec; omega)]
  unfold nsecPerUsec usecPerSec
  unfold nsecPerSec at high
  constructor <;> omega

/-- From `2 ^ 31` microseconds on, and a second and two ticks below `2 ^ 32`, the 32-bit build
stores a negative count, where the rounded count is positive and fits in an `int`: a relative
time in the future reads as one already past. -/
theorem clockTime2ticks32_wraps {u : Int} (two : 2 ≤ u) {t : Timespec} (valid : t.Valid)
    (big : 2 ^ 31 ≤ t.tvSec * usecPerSec)
    (room : (t.tvSec + 1) * usecPerSec + 2 * u ≤ 2 ^ 32) :
    clockTime2ticks32 u t < 0 ∧
      ∃ k, IsCeil t.toNsec (nsecPerTick u) k ∧ 0 < k ∧ k < 2 ^ 31 := by
  have bounds := usec_bounds valid
  have usec := isCeil_usec valid
  constructor
  · unfold clockTime2ticks32
    dsimp only
    generalize t.tvSec * usecPerSec + (t.tvNsec + nsecPerUsec - 1).tdiv nsecPerUsec = q
      at bounds usec ⊢
    -- the microsecond count wraps below zero by `2 ^ 32`, and stays well below `-u`
    have inner : wrap 32 q = q - 2 ^ 32 := wrap_sub_pow (by omega) (by omega)
    rw [inner, wrap_of_lt (by omega) (by omega)]
    have far : u + 1 ≤ -(q - 2 ^ 32 + u - 1) := by omega
    have quotient : 1 ≤ (-(q - 2 ^ 32 + u - 1)).tdiv u := by
      rw [Int.tdiv_eq_ediv_of_nonneg (by omega)]
      exact (Int.le_ediv_iff_mul_le (by omega)).mpr (by omega)
    rw [← Int.neg_neg (q - 2 ^ 32 + u - 1), Int.neg_tdiv]
    omega
  · have d := nsecPerTick_pos (show 0 < u by omega)
    have ceil := isCeil_ediv (n := t.toNsec) d
    generalize t.tvSec * usecPerSec + (t.tvNsec + nsecPerUsec - 1).tdiv nsecPerUsec = q
      at bounds usec
    refine ⟨_, ceil, ?_, ?_⟩
    · -- at least `2 ^ 31` microseconds: more than one tick
      have one : nsecPerTick u ≤ t.toNsec := by
        have := usec.1
        unfold nsecPerTick nsecPerUsec usecPerSec at *
        omega
      have := (Int.le_ediv_iff_mul_le d).mpr
        (show 1 * nsecPerTick u ≤ t.toNsec + nsecPerTick u - 1 by omega)
      omega
    · -- at most `2 ^ 32 - 2 * u` microseconds: fewer than `2 ^ 31` ticks of two or more
      generalize (t.toNsec + nsecPerTick u - 1) / nsecPerTick u = k at ceil ⊢
      have short := ceil.1
      have within := usec.2
      unfold nsecPerTick at short
      by_contra large
      have scaled : (2 ^ 31 - 1) * (u * nsecPerUsec) ≤ (k - 1) * (u * nsecPerUsec) :=
        Int.mul_le_mul_of_nonneg_right (by omega) (by unfold nsecPerUsec; omega)
      unfold nsecPerUsec usecPerSec at *
      omega

/-- `clock_time2ticks({2148, 0})` in the 32-bit build with the default tick of 10000
microseconds: 214800 ticks, stored as -214695. -/
theorem clockTime2ticks32_two_thousand_seconds :
    (⟨2148, 0⟩ : Timespec).Valid ∧ 2 ^ 31 ≤ (2148 : Int) * usecPerSec ∧
      (2148 + 1) * usecPerSec + 2 * 10000 ≤ 2 ^ 32 ∧
      (clockTime2ticks32 10000 ⟨2148, 0⟩ < 0 ∧
        ∃ k, IsCeil (⟨2148, 0⟩ : Timespec).toNsec (nsecPerTick 10000) k ∧ 0 < k ∧ k < 2 ^ 31) ∧
      clockTime2ticks32 10000 ⟨2148, 0⟩ = -214695 ∧
      IsCeil (⟨2148, 0⟩ : Timespec).toNsec (nsecPerTick 10000) 214800 :=
  ⟨⟨by decide, by decide, by decide⟩, by decide, by decide,
    clockTime2ticks32_wraps (by decide) ⟨by decide, by decide, by decide⟩ (by decide) (by decide),
    by decide, by decide⟩

/-! ## Absolute times -/

/-! ## Setting and reading the realtime clock -/

/-- `CLOCK_REALTIME` and `CLOCK_MONOTONIC`. -/
inductive ClockId where
  | realtime
  | monotonic
  deriving DecidableEq, Repr

/-- `clock_settime(clock_id, tp)`, with the time since power up `bias` that `clock_systimespec`
gives and the base time `g_basetime`: for `CLOCK_REALTIME` it returns `OK` and the new base time,
`tp` less `bias` with a second borrowed when the nanoseconds would go negative; every other clock
is refused with `ERROR` and the base time kept. The `errno` it sets is not modelled. -/
def clockSettime (clockId : ClockId) (tp bias basetime : Timespec) : Int × Timespec :=
  match clockId with
  | .realtime =>
    let borrow : Int := if tp.tvNsec < bias.tvNsec then 1 else 0
    (0, ⟨((tp.tvSec - borrow - bias.tvSec) % 2 ^ 32).toNat,
      tp.tvNsec + borrow * nsecPerSec - bias.tvNsec⟩)
  | .monotonic => (-1, basetime)

/-- `clock_gettime(CLOCK_REALTIME, tp)` at `bias` since power up: the base time, cast to
`uint32_t`, added to `bias`, with the carry of the nanoseconds into the seconds. -/
def clockGettimeRealtime (bias basetime : Timespec) : Timespec :=
  let ts : Timespec :=
    ⟨(bias.tvSec + basetime.tvSec % 2 ^ 32) % 2 ^ 32, bias.tvNsec + basetime.tvNsec % 2 ^ 32⟩
  if ts.tvNsec ≥ nsecPerSec then
    let carry := ts.tvNsec / nsecPerSec
    ⟨(ts.tvSec + carry.toNat) % 2 ^ 32, ts.tvNsec - carry * nsecPerSec⟩
  else ts

theorem clockGettimeRealtime_clockSettime {tp bias : Timespec} (set : tp.Valid)
    (since : bias.Valid) (basetime : Timespec) :
    clockGettimeRealtime bias (clockSettime .realtime tp bias basetime).2 = tp := by
  obtain ⟨sec, nsec⟩ := tp
  obtain ⟨secLt, nsecNonneg, nsecLt⟩ := set
  obtain ⟨biasSec, biasNonneg, biasLt⟩ := since
  dsimp only at secLt nsecNonneg nsecLt
  unfold nsecPerSec at nsecLt biasLt
  unfold clockGettimeRealtime clockSettime nsecPerSec
  dsimp only
  by_cases borrow : nsec < bias.tvNsec
  · -- the borrowed second comes back as the carry
    have carry :
        (bias.tvNsec + (nsec + 1 * 1000000000 - bias.tvNsec) % 2 ^ 32) / 1000000000 = 1 := by
      omega
    rw [if_pos borrow, if_pos (by omega), carry, Timespec.mk.injEq]
    constructor <;> omega
  · rw [if_neg borrow, if_neg (by omega), Timespec.mk.injEq]
    constructor <;> omega

end TinyAra.Kernel.Clock
