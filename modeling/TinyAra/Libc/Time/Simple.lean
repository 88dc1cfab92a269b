/-
# Libc.Time.Simple -- the simplified calendar, and what both builds give

Without `CONFIG_GREGORIAN_TIME`, `clock_utc2calendar` (lib_gmtimer.c) takes
four-year blocks of 1461 days off the day count, finds the year by a
brute-force loop that uses `clock_isleapyear`, and the month by a bisection
over `clock_daysbeforemonth`; `mktime` (lib_mktime.c) adds 365 days a year, a
leap day for every fourth year counted from 1969, and the days before the month.
The code says it handles only "a (relatively) small range from the epoch".

Both halves pass a 0-based month to `clock_daysbeforemonth`, whose months are
1-based, so the month `gmtime_r` stores is one too far; `mktime` makes the same
shift and the day count survives. What does not survive is the year 2100,
which `clock_isleapyear` rightly makes a common year and `mktime` counts as a
leap year: the round trip holds up to 2100-12-31 (`gmtimeR_mktime`) and fails
by a day from 2101-01-01 on (`mktime_gmtimeR_2101`).

The search loops are `yearSearch` and `monthSearch`; their step lemmas say
what one pass does, and `yearSearch_spec` and `monthSearch_spec` carry the loop
invariants.  `gmtime_mktime_round_trip` puts both builds together.
-/
import TinyAra.Libc.Time.Gregorian

namespace TinyAra.Libc.Time.Simple

open TinyAra.Libc.Time

set_option autoImplicit false

/-- The brute-force loop of `clock_utc2calendar`: while the days left cover the year
`1970 + value`, count it and take its days. -/
def yearSearch (value : Int) (days : Nat) : Int × Nat × Bool :=
  let leapyear := clockIsleapyear (value + 1970)
  let tmp := if leapyear then 366 else 365
  if days ≥ tmp then yearSearch (value + 1) (days - tmp) else (value, days, leapyear)
termination_by days
decreasing_by
  simp +zetaDelta only at *
  by_cases leap : clockIsleapyear (value + 1970) <;> simp [leap] at * <;> omega

/-- The month bisection of `clock_utc2calendar`, a `do { ... } while (min < max)` loop:
each pass moves a bound past the midpoint `value` and sets `value = min`, or breaks with
the midpoint. -/
def monthSearch (days : Int) (leapyear : Bool) (min max : Int) : Option Int := do
  let value := (min + max) >>> (1 : Nat)
  let tmp ← clockDaysbeforemonth (value + 1) leapyear
  if tmp > days then
    let tmp ← clockDaysbeforemonth value leapyear
    if tmp > days then
      let max := value - 1
      if min < max then monthSearch days leapyear min max else some min
    else some value
  else
    let min := value + 1
    if min < max then monthSearch days leapyear min max else some min
termination_by (max - min).toNat
decreasing_by
  all_goals
    simp +zetaDelta only [Int.shiftRight_eq_div_pow] at *
    omega

/-- `clock_utc2calendar(days, ...)` of the simplified calendar. -/
def clockUtc2calendar (days : Nat) : Option (Int × Int × Int) := do
  let value := days / (4 * 365 + 1)
  let days := days - value * (4 * 365 + 1)
  let (value, days, leapyear) := yearSearch ((value : Int) <<< (2 : Nat)) days
  let year := 1970 + value
  let value ← monthSearch days leapyear 0 11
  let days := (days : Int) - (← clockDaysbeforemonth value leapyear)
  return (year, value + 1, days + 1)

/-- `mktime(tp)` of the simplified calendar. -/
def mktime (tp : Tm) : Option TimeT := do
  let days : Int := (tp.tmYear - 70) * 365
  let days := days + (tp.tmYear - 69) >>> (2 : Nat)
  let days := days + (← clockDaysbeforemonth tp.tmMon (clockIsleapyear (tp.tmYear + 1900)))
  let days := days + (tp.tmMday - 1)
  return UInt32.ofInt (((days * 24 + tp.tmHour) * 60 + tp.tmMin) * 60 + tp.tmSec)

/-- `gmtime_r` of this build. -/
def gmtimeR (timer : TimeT) : Option Tm :=
  Time.gmtimeR clockUtc2calendar timer

/-! ## One pass of each loop -/

theorem yearSearch_of_le (value : Int) (days : Nat)
    (enough : (if clockIsleapyear (value + 1970) then 366 else 365) ≤ days) :
    yearSearch value days =
      yearSearch (value + 1) (days - if clockIsleapyear (value + 1970) then 366 else 365) := by
  rw [yearSearch]
  exact if_pos enough

theorem yearSearch_of_lt (value : Int) (days : Nat)
    (short : days < if clockIsleapyear (value + 1970) then 366 else 365) :
    yearSearch value days = (value, days, clockIsleapyear (value + 1970)) := by
  rw [yearSearch]
  exact if_neg (by omega)

section Bisection

variable (days : Int) (leapyear : Bool) (min max : Int)

theorem monthSearch_up {next : Int}
    (next_eq : clockDaysbeforemonth ((min + max) >>> (1 : Nat) + 1) leapyear = some next)
    (begun : next ≤ days) :
    monthSearch days leapyear min max =
      if (min + max) >>> (1 : Nat) + 1 < max then monthSearch days leapyear ((min + max) >>> (1 : Nat) + 1) max
      else some ((min + max) >>> (1 : Nat) + 1) := by
  rw [monthSearch]
  simp only [next_eq, Option.bind_eq_bind, Option.bind_some, if_neg (show ¬next > days by omega)]

theorem monthSearch_found {next this : Int}
    (next_eq : clockDaysbeforemonth ((min + max) >>> (1 : Nat) + 1) leapyear = some next)
    (ahead : days < next) (this_eq : clockDaysbeforemonth ((min + max) >>> (1 : Nat)) leapyear = some this)
    (begun : this ≤ days) :
    monthSearch days leapyear min max = some ((min + max) >>> (1 : Nat)) := by
  rw [monthSearch]
  simp only [next_eq, this_eq, Option.bind_eq_bind, Option.bind_some, if_pos (show next > days by omega),
    if_neg (show ¬this > days by omega)]

theorem monthSearch_down {next this : Int}
    (next_eq : clockDaysbeforemonth ((min + max) >>> (1 : Nat) + 1) leapyear = some next)
    (ahead : days < next) (this_eq : clockDaysbeforemonth ((min + max) >>> (1 : Nat)) leapyear = some this)
    (later : days < this) :
    monthSearch days leapyear min max =
      if min < (min + max) >>> (1 : Nat) - 1 then monthSearch days leapyear min ((min + max) >>> (1 : Nat) - 1)
      else some min := by
  rw [monthSearch]
  simp only [next_eq, this_eq, Option.bind_eq_bind, Option.bind_some, if_pos (show next > days by omega),
    if_pos (show this > days by omega)]

end Bisection

/-! ## The loop invariants -/

/-- The days the simplified `mktime` puts before the year `1970 + value`: 365 a year, and one
more for each fourth year from 1972 on. -/
def yearsBefore (value : Int) : Int := value * 365 + (value + 1) / 4

theorem yearSearch_spec (days : Nat) :
    ∀ value : Int, 0 ≤ value → yearsBefore value + days < 47847 →
      yearsBefore (yearSearch value days).1 + (yearSearch value days).2.1 = yearsBefore value + days ∧
      (yearSearch value days).2.1 < (if (yearSearch value days).2.2 then 366 else 365) ∧
      (yearSearch value days).2.2 = clockIsleapyear ((yearSearch value days).1 + 1970) ∧
      0 ≤ (yearSearch value days).1 ∧ (yearSearch value days).1 ≤ 130 := by
  induction days using Nat.strong_induction_on with
  | _ days ih =>
      intro value nonneg before
      have len_ge : 365 ≤ (if clockIsleapyear (value + 1970) then 366 else 365) := by
        split <;> omega
      by_cases enough : (if clockIsleapyear (value + 1970) then 366 else 365) ≤ days
      · -- a full year is left, so the year is before 2100 and leap every fourth year
        have early : value ≤ 129 := by unfold yearsBefore at before; omega
        have step : yearsBefore (value + 1) =
            yearsBefore value + ((if clockIsleapyear (value + 1970) then 366 else 365 : Nat) : Int) := by
          rw [clockIsleapyear_of_lt (value + 1970) (by omega) (by omega)]
          unfold yearsBefore
          by_cases four : (value + 1970) % 4 = 0 <;> simp [four] <;> omega
        rw [yearSearch_of_le value days enough]
        generalize (if clockIsleapyear (value + 1970) then 366 else 365) = len at len_ge enough step
        have rest := ih (days - len) (by omega) (value + 1) (by omega) (by omega)
        exact ⟨by rw [rest.1, step]; omega, rest.2⟩
      · rw [yearSearch_of_lt value days (by omega)]
        unfold yearsBefore at before
        dsimp only
        exact ⟨rfl, by omega, rfl, nonneg, by omega⟩

theorem clockDaysbeforemonth_one (leapyear : Bool) : clockDaysbeforemonth 1 leapyear = some 0 := by
  cases leapyear <;> decide

theorem monthSearch_spec (days : Int) (leapyear : Bool) (nonneg : 0 ≤ days) (n : Nat) :
    ∀ min max : Int, (max - min).toNat = n → 0 ≤ min → min < max → max ≤ 11 →
      (min = 0 ∨ ∃ before, clockDaysbeforemonth min leapyear = some before ∧ before ≤ days) →
      ∃ value before, monthSearch days leapyear min max = some value ∧ 1 ≤ value ∧
        value ≤ 11 ∧ clockDaysbeforemonth value leapyear = some before ∧ before ≤ days := by
  induction n using Nat.strong_induction_on with
  | _ n ih =>
      intro min max width lo inside hi begun
      have mid : (min + max) >>> (1 : Nat) = (min + max) / 2 := Int.shiftRight_eq_div_pow _ _
      have next_eq := clockDaysbeforemonth_of_mem ((min + max) >>> (1 : Nat) + 1) leapyear (by omega)
        (by omega)
      generalize gDaysbeforemonth.getD _ 0 + _ = next at next_eq
      by_cases passed : next ≤ days
      · -- the month after the midpoint has begun: the lower bound moves up to it
        rw [monthSearch_up days leapyear min max next_eq passed]
        split_ifs with more
        · exact ih _ (by omega) _ max rfl (by omega) more hi (Or.inr ⟨next, next_eq, passed⟩)
        · exact ⟨_, next, rfl, by omega, by omega, next_eq, passed⟩
      · -- the month after the midpoint lies ahead, so the midpoint is a month `1 .. 11`
        have first : (min + max) >>> (1 : Nat) + 1 ≠ 1 := by
          intro one
          rw [one, clockDaysbeforemonth_one, Option.some.injEq] at next_eq
          omega
        have this_eq := clockDaysbeforemonth_of_mem ((min + max) >>> (1 : Nat)) leapyear (by omega)
          (by omega)
        generalize gDaysbeforemonth.getD _ 0 + _ = this at this_eq
        by_cases reached : this ≤ days
        · rw [monthSearch_found days leapyear min max next_eq (by omega) this_eq reached]
          exact ⟨_, this, rfl, by omega, by omega, this_eq, reached⟩
        · rw [monthSearch_down days leapyear min max next_eq (by omega) this_eq (by omega)]
          split_ifs with more
          · exact ih _ (by omega) min _ rfl lo more (by omega) begun
          · -- the bounds met at `min`, which cannot still be 0
            rcases begun with zero | ⟨before, before_eq, before_le⟩
            · exfalso
              have one : (min + max) >>> (1 : Nat) = 1 := by omega
              rw [one, clockDaysbeforemonth_one, Option.some.injEq] at this_eq
              omega
            · have : min ≠ 0 := by
                intro zero
                rw [zero] at before_eq
                simp [clockDaysbeforemonth] at before_eq
              exact ⟨min, before, rfl, by omega, by omega, before_eq, before_le⟩

/-! ## The calendar and `mktime` -/

/-- `clock_utc2calendar` from the results of its two loops, the year loop started at the
four-year blocks' years. -/
theorem clockUtc2calendar_eq (days : Nat) {value : Int} {left : Nat} {leapyear : Bool}
    {month before : Int}
    (found : yearSearch (4 * (days / 1461 : Nat)) (days % 1461) = (value, left, leapyear))
    (month_eq : monthSearch left leapyear 0 11 = some month)
    (before_eq : clockDaysbeforemonth month leapyear = some before) :
    clockUtc2calendar days = some (1970 + value, month + 1, left - before + 1) := by
  -- `value <<= 2` turns the blocks into years
  have shift : ((days / (4 * 365 + 1) : Nat) : Int) <<< (2 : Nat) = 4 * (days / 1461 : Nat) := by
    rw [Int.shiftLeft_eq]
    omega
  have rest : days - days / (4 * 365 + 1) * (4 * 365 + 1) = days % 1461 := by omega
  unfold clockUtc2calendar
  simp only [shift, rest, found, month_eq, before_eq, Option.bind_eq_bind, Option.bind_some,
    Option.pure_def]

/-- The simplified `clock_utc2calendar` up to 2100-12-31. The bisection lands on the 1-based
month `value` that holds the day and the code reports it as `value + 1`, so the month is
`2 .. 12`, and the day is counted from the start of the month before it. -/
theorem clockUtc2calendar_spec (days : Nat) (inRange : days < 47847) :
    ∃ year month day before, clockUtc2calendar days = some (year, month, day) ∧
      2 ≤ month ∧ month ≤ 12 ∧
      clockDaysbeforemonth (month - 1) (clockIsleapyear year) = some before ∧
      yearsBefore (year - 1970) + before + (day - 1) = days := by
  have blocks : yearsBefore (4 * (days / 1461 : Nat)) + (days % 1461 : Nat) = days := by
    unfold yearsBefore
    omega
  obtain ⟨⟨value, left, leapyear⟩, found⟩ :
      ∃ r, yearSearch (4 * (days / 1461 : Nat)) (days % 1461) = r := ⟨_, rfl⟩
  have years := yearSearch_spec (days % 1461) (4 * (days / 1461 : Nat)) (by omega) (by omega)
  rw [found] at years
  dsimp only at years
  obtain ⟨total, -, leap_eq, -, -⟩ := years
  obtain ⟨month, before, month_eq, lo, hi, before_eq, before_le⟩ :=
    monthSearch_spec left leapyear (by omega) 11 0 11 rfl le_rfl (by decide) le_rfl (Or.inl rfl)
  refine ⟨1970 + value, month + 1, left - before + 1, before,
    clockUtc2calendar_eq days found month_eq before_eq, by omega, by omega, ?_, ?_⟩
  · rw [add_sub_cancel_right, add_comm, ← leap_eq]
    exact before_eq
  · rw [add_sub_cancel_left]
    omega

/-- `mktime` of what `gmtime_r` stored: the day count `mktime` rebuilds from the date, and the
time of day of the timer. -/
theorem mktime_gmtimeR (t : TimeT) (tm : Tm) (split : gmtimeR t = some tm)
    {year month day before : Int}
    (calendar : clockUtc2calendar (t.toNat / secPerDay) = some (year, month, day))
    (before_eq : clockDaysbeforemonth (month - 1) (clockIsleapyear year) = some before) :
    mktime tm = some (UInt32.ofInt
      ((yearsBefore (year - 1970) + before + (day - 1)) * secPerDay + (t.toNat % secPerDay : Nat))) := by
  obtain ⟨year', month', day', calendar', year_eq, mon_eq, mday_eq, -, -, -, -, -, -, -, sum⟩ :=
    gmtimeR_time _ t tm split
  rw [calendar, Option.some.injEq, Prod.mk.injEq, Prod.mk.injEq] at calendar'
  obtain ⟨rfl, rfl, rfl⟩ := calendar'
  have year_back : tm.tmYear + 1900 = year := by omega
  have quarter : (tm.tmYear - 69) >>> (2 : Nat) = (year - 1970 + 1) / 4 := by
    rw [Int.shiftRight_eq_div_pow]
    norm_num
    omega
  unfold mktime
  simp only [year_back, mon_eq, before_eq, Option.bind_eq_bind, Option.bind_some,
    Option.pure_def, Option.some.injEq]
  congr 1
  -- the seconds of the day are the same on both sides
  have day_split := Nat.div_add_mod t.toNat secPerDay
  unfold yearsBefore
  simp only [secPerDay, secPerHour, secPerMin] at sum day_split ⊢
  omega

theorem gmtimeR_mktime (t : TimeT) (inRange : t.toNat < 4133980800) :
    ∃ tm, gmtimeR t = some tm ∧ mktime tm = some t ∧ 1 ≤ tm.tmMon ∧ tm.tmMon ≤ 11 ∧
      0 ≤ tm.tmHour ∧ tm.tmHour < 24 ∧ 0 ≤ tm.tmMin ∧ tm.tmMin < 60 ∧
      0 ≤ tm.tmSec ∧ tm.tmSec < 60 := by
  have days_lt : t.toNat / secPerDay < 47847 := by
    simp only [secPerDay, secPerHour, secPerMin]
    omega
  obtain ⟨year, month, day, before, calendar, mlo, mhi, before_eq, back⟩ :=
    clockUtc2calendar_spec _ days_lt
  obtain ⟨tm, split⟩ := gmtimeR_isSome _ t calendar
  obtain ⟨year', month', day', calendar', -, mon_eq, -, -, h0, h1, m0, m1, s0, s1, -⟩ :=
    gmtimeR_time _ t tm split
  rw [calendar, Option.some.injEq, Prod.mk.injEq, Prod.mk.injEq] at calendar'
  have whole : ((t.toNat / secPerDay : Nat) : Int) * secPerDay + (t.toNat % secPerDay : Nat) =
      (t.toNat : Int) := by
    have := Nat.div_add_mod t.toNat secPerDay
    simp only [secPerDay, secPerHour, secPerMin] at this ⊢
    omega
  refine ⟨tm, split, ?_, by omega, by omega, h0, h1, m0, m1, s0, s1⟩
  rw [mktime_gmtimeR t tm split calendar before_eq, back, whole, ofInt_toNat]

/-- From 2101-01-01 the simplified `mktime` is a day ahead, having counted 2100 as a leap year; the
simplified date reports December as days 31 .. 61 of `tm_mon` 11; and the Gregorian `tm_yday` reads
`clock_daysbeforemonth` with the 0-based month. -/
theorem gmtime_round_trip_counterexample :
    (gmtimeR 4133980800).bind mktime = some 4134067200 ∧
      (gmtimeR 31449600).map Tm.tmMday = some 61 ∧
      (Gregorian.gmtimeR 0).map Tm.tmYday = some none := by
  -- 2101-01-01: the day loop runs through 2098, 2099 and 2100, the bisection ends on month 1
  have years : yearSearch 128 1095 = (131, 0, false) := calc
    yearSearch 128 1095 = yearSearch 129 730 := yearSearch_of_le 128 1095 (by decide)
    _ = yearSearch 130 365 := yearSearch_of_le 129 730 (by decide)
    _ = yearSearch 131 0 := yearSearch_of_le 130 365 (by decide)
    _ = (131, 0, false) := yearSearch_of_lt 131 0 (by decide)
  have january : monthSearch 0 false 0 11 = some 1 := calc
    monthSearch 0 false 0 11 = monthSearch 0 false 0 4 :=
      (monthSearch_down 0 false 0 11 (show clockDaysbeforemonth 6 false = some 151 by decide)
        (by decide) (show clockDaysbeforemonth 5 false = some 120 by decide) (by decide)).trans
        (if_pos (by decide))
    _ = monthSearch 0 false 0 1 :=
      (monthSearch_down 0 false 0 4 (show clockDaysbeforemonth 3 false = some 59 by decide)
        (by decide) (show clockDaysbeforemonth 2 false = some 31 by decide) (by decide)).trans
        (if_pos (by decide))
    _ = some 1 :=
      (monthSearch_up 0 false 0 1 (show clockDaysbeforemonth 1 false = some 0 by decide)
        (by decide)).trans (if_neg (by decide))
  have first : clockUtc2calendar ((4133980800 : TimeT).toNat / secPerDay) = some (2101, 2, 1) :=
    clockUtc2calendar_eq 47847 years january
      (show clockDaysbeforemonth 1 false = some 0 by decide)
  -- 1970-12-31: the bisection climbs to month 11, the last it can reach
  have december : monthSearch 364 false 0 11 = some 11 := calc
    monthSearch 364 false 0 11 = monthSearch 364 false 6 11 :=
      (monthSearch_up 364 false 0 11 (show clockDaysbeforemonth 6 false = some 151 by decide)
        (by decide)).trans (if_pos (by decide))
    _ = monthSearch 364 false 9 11 :=
      (monthSearch_up 364 false 6 11 (show clockDaysbeforemonth 9 false = some 243 by decide)
        (by decide)).trans (if_pos (by decide))
    _ = some 11 :=
      (monthSearch_up 364 false 9 11 (show clockDaysbeforemonth 11 false = some 304 by decide)
        (by decide)).trans (if_neg (by decide))
  have last : clockUtc2calendar ((31449600 : TimeT).toNat / secPerDay) = some (1970, 12, 61) :=
    clockUtc2calendar_eq 364 (yearSearch_of_lt 0 364 (by decide)) december
      (show clockDaysbeforemonth 11 (clockIsleapyear (0 + 1970)) = some 304 by decide)
  obtain ⟨tm, split⟩ : ∃ tm, gmtimeR 4133980800 = some tm := gmtimeR_isSome _ _ first
  obtain ⟨tm', split'⟩ : ∃ tm, gmtimeR 31449600 = some tm := gmtimeR_isSome _ _ last
  obtain ⟨_, _, _, calendar', -, -, mday_eq, -⟩ := gmtimeR_time _ _ tm' split'
  rw [last, Option.some.injEq, Prod.mk.injEq, Prod.mk.injEq] at calendar'
  refine ⟨?_, ?_, by decide⟩
  · rw [split, Option.bind_some, mktime_gmtimeR _ tm split first
      (show clockDaysbeforemonth (2 - 1) (clockIsleapyear 2101) = some 0 by decide)]
    decide
  · rw [split', Option.map_some, mday_eq, calendar'.2.2]

/-- The round trip of both builds, over every `time_t`. With `CONFIG_GREGORIAN_TIME` the
broken-down time is normalized, `mktime` gives the timer back and `tm_wday` is its weekday.
The simplified calendar gives the timer back up to 2100-12-31 with a normalized time of day,
but its `tm_mon` is never 0. -/
theorem gmtime_mktime_round_trip (t : TimeT) :
    (∃ tm, Gregorian.gmtimeR t = some tm ∧ tm.Valid ∧ Gregorian.mktime tm = t ∧
      tm.tmWday = weekday t) ∧
    (t.toNat < 4133980800 →
      ∃ tm, gmtimeR t = some tm ∧ mktime tm = some t ∧ 1 ≤ tm.tmMon ∧ tm.tmMon ≤ 11 ∧
        0 ≤ tm.tmHour ∧ tm.tmHour < 24 ∧ 0 ≤ tm.tmMin ∧ tm.tmMin < 60 ∧
        0 ≤ tm.tmSec ∧ tm.tmSec < 60) :=
  ⟨Gregorian.gmtimeR_mktime t, gmtimeR_mktime t⟩

theorem gmtime_mktime_round_trip_epoch :
    (0 : TimeT).toNat < 4133980800 ∧
      ∃ tm, gmtimeR 0 = some tm ∧ mktime tm = some 0 ∧ 1 ≤ tm.tmMon ∧ tm.tmMon ≤ 11 ∧
        0 ≤ tm.tmHour ∧ tm.tmHour < 24 ∧ 0 ≤ tm.tmMin ∧ tm.tmMin < 60 ∧
        0 ≤ tm.tmSec ∧ tm.tmSec < 60 :=
  ⟨by decide, (gmtime_mktime_round_trip 0).2 (by decide)⟩

end TinyAra.Libc.Time.Simple
