/-
# Libc.Time.Calendar -- `struct tm`, `gmtime_r` and the calendar helpers both builds share

`gmtime_r` (lib_gmtimer.c) splits a `time_t` into whole days and the seconds of
the last day, and hands the days to the static `clock_utc2calendar`, whose body
the build chooses: the Julian-day formulas of `CONFIG_GREGORIAN_TIME`
(`Time.Gregorian`) or the simplified calendar (`Time.Simple`).  `gmtimeR` here
takes that function as its parameter. Both builds share `clock_isleapyear`,
`clock_daysbeforemonth` and `clock_dayoftheweek`.

`clock_daysbeforemonth` reads its table at `month - 1`: its months are 1-based.
A month outside `1 .. 13` reads outside the table, which the model returns as
`none`.

The specification side is `Tm.Valid` (a normalized date and time of day, with
the Gregorian leap rule `isLeap`) and `weekday`.  `clockIsleapyear_iff` says the
code's leap test is that rule, and `gmtimeR_time` that the time of day
`gmtime_r` stores is normalized and adds back up to the timer.
-/
import Mathlib.Tactic.IntervalCases

namespace TinyAra.Libc.Time

set_option autoImplicit false

abbrev TimeT := UInt32

def secPerMin : Nat := 60
def secPerHour : Nat := 60 * secPerMin
def secPerDay : Nat := 24 * secPerHour

/-- `struct tm`; `tmWday` and `tmYday` are the fields of `CONFIG_TIME_EXTENDED`.  `tmYday`
is `none` where `gmtime_r` computes it from an out-of-bounds read. -/
structure Tm where
  tmSec : Int
  tmMin : Int
  tmHour : Int
  tmMday : Int
  tmMon : Int
  tmYear : Int
  tmWday : Int
  tmYday : Option Int

/-- `clock_isleapyear`. -/
def clockIsleapyear (year : Int) : Bool :=
  if year.tmod 400 ≠ 0 then
    if year.tmod 100 ≠ 0 then (if year.tmod 4 ≠ 0 then false else true) else false
  else true

def gDaysbeforemonth : List Int := [0, 31, 59, 90, 120, 151, 181, 212, 243, 273, 304, 334, 365]

/-- `clock_daysbeforemonth(month, leapyear)`: `g_daysbeforemonth[month - 1]`, plus the leap
day after February. -/
def clockDaysbeforemonth (month : Int) (leapyear : Bool) : Option Int := do
  let retval ← if 1 ≤ month then gDaysbeforemonth[(month - 1).toNat]? else none
  return if month > 2 ∧ leapyear then retval + 1 else retval

/-- `clock_dayoftheweek(mday, month, year)`, with Sunday `0`. -/
def clockDayoftheweek (mday month year : Int) : Int :=
  let (month, year) := if month ≤ 2 then (month + 12, year - 1) else (month, year)
  let month := month - 2
  (mday + year + year.tdiv 4 - year.tdiv 100 + year.tdiv 400 + (31 * month).tdiv 12).tmod 7

/-- `gmtime_r(timer, result)` with the build's `clock_utc2calendar`, which gives year, month
(1-based) and day for a count of days since the epoch. -/
def gmtimeR (clockUtc2calendar : Nat → Option (Int × Int × Int)) (timer : TimeT) : Option Tm := do
  let epoch := timer.toNat
  let jdn := epoch / secPerDay
  let epoch := epoch - secPerDay * jdn
  let hour := epoch / secPerHour
  let epoch := epoch - secPerHour * hour
  let min := epoch / secPerMin
  let epoch := epoch - secPerMin * min
  let sec := epoch
  let (year, month, day) ← clockUtc2calendar jdn
  return {
    tmYear := year - 1900
    tmMon := month - 1
    tmMday := day
    tmHour := hour
    tmMin := min
    tmSec := sec
    tmWday := clockDayoftheweek day month year
    tmYday := (clockDaysbeforemonth (month - 1) (clockIsleapyear year)).map (day + ·) }

/-! ## What a broken-down time should be -/

/-- The Gregorian leap rule. -/
def isLeap (year : Int) : Prop := year % 4 = 0 ∧ (year % 100 ≠ 0 ∨ year % 400 = 0)

instance (year : Int) : Decidable (isLeap year) := inferInstanceAs (Decidable (_ ∧ _))

def daysInMonth (year month : Int) : Int :=
  if month = 2 then (if isLeap year then 29 else 28)
  else if month = 4 ∨ month = 6 ∨ month = 9 ∨ month = 11 then 30
  else 31

/-- A normalized date and time of day. -/
structure Tm.Valid (tm : Tm) : Prop where
  mon : 0 ≤ tm.tmMon ∧ tm.tmMon ≤ 11
  mday : 1 ≤ tm.tmMday ∧ tm.tmMday ≤ daysInMonth (tm.tmYear + 1900) (tm.tmMon + 1)
  hour : 0 ≤ tm.tmHour ∧ tm.tmHour < 24
  min : 0 ≤ tm.tmMin ∧ tm.tmMin < 60
  sec : 0 ≤ tm.tmSec ∧ tm.tmSec < 60

/-- The weekday of the day of `t`, Sunday `0`; 1970-01-01 was a Thursday. -/
def weekday (t : TimeT) : Int := ((t.toNat / secPerDay : Nat) + 4) % 7

/-! ## The shared code -/

theorem toNat_ofInt (x : Int) (nonneg : 0 ≤ x) (lt : x < 2 ^ 32) :
    ((UInt32.ofInt x).toNat : Int) = x := by
  unfold UInt32.ofInt
  rw [UInt32.toNat_ofNat', Int.emod_eq_of_lt nonneg lt]
  omega

theorem ofInt_toNat (t : TimeT) : UInt32.ofInt (t.toNat : Int) = t := by
  have := t.toNat_lt
  unfold UInt32.ofInt
  rw [Int.emod_eq_of_lt (by omega) (by omega), Int.toNat_natCast, UInt32.ofNat_toNat]

theorem clockIsleapyear_iff (year : Int) (nonneg : 0 ≤ year) :
    clockIsleapyear year = true ↔ isLeap year := by
  unfold clockIsleapyear isLeap
  rw [Int.tmod_eq_emod_of_nonneg nonneg, Int.tmod_eq_emod_of_nonneg nonneg,
    Int.tmod_eq_emod_of_nonneg nonneg]
  split_ifs <;> simp <;> omega

theorem clockIsleapyear_of_lt (year : Int) (lo : 1901 ≤ year) (hi : year < 2100) :
    clockIsleapyear year = decide (year % 4 = 0) := by
  have nonneg : 0 ≤ year := by omega
  by_cases four : year % 4 = 0
  · rw [decide_eq_true four, clockIsleapyear_iff year nonneg]
    exact ⟨four, by omega⟩
  · rw [decide_eq_false four, Bool.eq_false_iff, ne_eq, clockIsleapyear_iff year nonneg]
    exact fun leap => four leap.1

theorem clockDaysbeforemonth_of_mem (month : Int) (leapyear : Bool) (lo : 1 ≤ month)
    (hi : month ≤ 13) :
    clockDaysbeforemonth month leapyear =
      some (gDaysbeforemonth.getD (month - 1).toNat 0 + if month > 2 ∧ leapyear then 1 else 0) := by
  have inside : (month - 1).toNat < gDaysbeforemonth.length := by
    simp only [gDaysbeforemonth, List.length_cons, List.length_nil]
    omega
  simp only [clockDaysbeforemonth, if_pos lo, List.getElem?_eq_getElem inside,
    List.getD_eq_getElem?_getD, Option.getD_some]
  split_ifs <;> simp

theorem gmtimeR_isSome (clockUtc2calendar : Nat → Option (Int × Int × Int)) (timer : TimeT)
    {date : Int × Int × Int} (calendar : clockUtc2calendar (timer.toNat / secPerDay) = some date) :
    ∃ tm, gmtimeR clockUtc2calendar timer = some tm := by
  unfold gmtimeR
  simp only [calendar, Option.bind_eq_bind, Option.bind_some, Option.pure_def]
  exact ⟨_, rfl⟩

theorem gmtimeR_time (clockUtc2calendar : Nat → Option (Int × Int × Int)) (timer : TimeT)
    (tm : Tm) (split : gmtimeR clockUtc2calendar timer = some tm) :
    ∃ year month day,
      clockUtc2calendar (timer.toNat / secPerDay) = some (year, month, day) ∧
      tm.tmYear = year - 1900 ∧ tm.tmMon = month - 1 ∧ tm.tmMday = day ∧
      tm.tmWday = clockDayoftheweek day month year ∧
      0 ≤ tm.tmHour ∧ tm.tmHour < 24 ∧ 0 ≤ tm.tmMin ∧ tm.tmMin < 60 ∧
      0 ≤ tm.tmSec ∧ tm.tmSec < 60 ∧
      (((timer.toNat / secPerDay : Nat) * 24 + tm.tmHour) * 60 + tm.tmMin) * 60 + tm.tmSec =
        (timer.toNat : Int) := by
  unfold gmtimeR at split
  simp only [Option.bind_eq_bind, Option.bind_eq_some_iff, Option.pure_def,
    Option.some.injEq] at split
  obtain ⟨⟨year, month, day⟩, calendar, rfl⟩ := split
  refine ⟨year, month, day, calendar, rfl, rfl, rfl, rfl, ?_⟩
  simp only [secPerDay, secPerHour, secPerMin]
  omega

end TinyAra.Libc.Time
