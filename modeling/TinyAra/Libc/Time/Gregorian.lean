/-
# Libc.Time.Gregorian -- the Julian-day conversions of `CONFIG_GREGORIAN_TIME`

With `CONFIG_GREGORIAN_TIME` (and without `CONFIG_JULIAN_TIME`), `gmtime_r`
converts days with `clock_utc2gregorian` (lib_gmtimer.c) and `mktime`
(lib_mktime.c) goes back through `clock_calendar2utc` and
`clock_gregorian2utc` (lib_calendar2utc.c): the Fliegel--Van Flandern
formulas on Julian day numbers.

`clock_utc2gregorian` counts centuries `n` of 146097/4 days from the year
-4800, the day `l2` of the century, the year `i` of the century (years begin on
1 March, so the leap day ends a year), the day of that year, and the month `j`
counted from March.  `Walk` names these; `clockUtc2gregorian_eq` reads them off
the code, and each bound is a lemma of its own. The results:

* `Walk.gregorian2utc_date`: `clock_gregorian2utc` inverts the walk;
* `Walk.day_bounds`: the day lies in its month under the Gregorian leap rule;
* `Walk.dayoftheweek_date`: `clock_dayoftheweek` gives the Julian day's weekday;
* `gmtimeR_mktime`: so `mktime (gmtime_r t) = t` for every `time_t`, with a
  normalized result and its weekday.
-/
import TinyAra.Libc.Time.Calendar

namespace TinyAra.Libc.Time.Gregorian

open TinyAra.Libc.Time

set_option autoImplicit false

def jdOfEpoch : Int := 2440588

/-- `clock_utc2gregorian(jd, &year, &month, &day)`. -/
def clockUtc2gregorian (jd : Nat) : Int × Int × Int :=
  let l : Int := jd + 68569
  let n := (4 * l).tdiv 146097
  let l := l - (146097 * n + 3).tdiv 4
  let i := (4000 * (l + 1)).tdiv 1461001
  let l := l - (1461 * i).tdiv 4 + 31
  let j := (80 * l).tdiv 2447
  let d := l - (2447 * j).tdiv 80
  let l := j.tdiv 11
  let m := j + 2 - 12 * l
  let y := 100 * (n - 49) + i + l
  (y, m, d)

/-- `clock_utc2calendar(utc, ...)`: `utc + JD_OF_EPOCH` is `time_t` arithmetic. -/
def clockUtc2calendar (utc : Nat) : Int × Int × Int :=
  clockUtc2gregorian ((utc + 2440588) % 2 ^ 32)

def clockGregorian2utc (year month day : Int) : Int :=
  let temp := if month ≤ 2 then -1 else 0
  (1461 * (year + 4800 + temp)).tdiv 4 + (367 * (month - 2 - 12 * temp)).tdiv 12 -
    (3 * ((year + 4900 + temp).tdiv 100)).tdiv 4 + day - 32075

/-- `clock_calendar2utc(year, month, day)`: the month is first brought into `1 .. 12`. -/
def clockCalendar2utc (year month day : Int) : TimeT :=
  let dyear := (month - 1).tdiv 12
  let month := month - 12 * dyear
  let year := year + dyear
  let (year, month) := if month < 1 then (year - 1, month + 12) else (year, month)
  UInt32.ofInt (clockGregorian2utc year month day - jdOfEpoch)

/-- `mktime(tp)`. -/
def mktime (tp : Tm) : TimeT :=
  let jdn := clockCalendar2utc (tp.tmYear + 1900) (tp.tmMon + 1) tp.tmMday
  UInt32.ofInt (((jdn.toNat * 24 + tp.tmHour) * 60 + tp.tmMin) * 60 + tp.tmSec)

/-- `gmtime_r` of this build. -/
def gmtimeR (timer : TimeT) : Option Tm :=
  Time.gmtimeR (fun utc => some (clockUtc2calendar utc)) timer

/-! ## The walk of `clock_utc2gregorian` -/

/-- The values `clock_utc2gregorian` computes from day `jd`, with floor divisions. -/
structure Walk (jd : Int) where
  n : Int
  l2 : Int
  i : Int
  l3 : Int
  j : Int
  n_eq : n = 4 * (jd + 68569) / 146097
  l2_eq : l2 = jd + 68569 - (146097 * n + 3) / 4
  i_eq : i = 4000 * (l2 + 1) / 1461001
  l3_eq : l3 = l2 - 1461 * i / 4 + 31
  j_eq : j = 80 * l3 / 2447

namespace Walk

variable {jd : Int} (w : Walk jd)

/-- Year, month and day at the end of the walk. -/
def date : Int × Int × Int :=
  (100 * (w.n - 49) + w.i + w.j / 11, w.j + 2 - 12 * (w.j / 11), w.l3 - 2447 * w.j / 80)

theorem l2_bounds : 0 ≤ w.l2 ∧ w.l2 ≤ 36524 := by
  have n_eq := w.n_eq
  rw [w.l2_eq]
  omega

theorem i_bounds : 0 ≤ w.i ∧ w.i ≤ 99 := by
  have := w.l2_bounds
  rw [w.i_eq]
  omega

theorem l3_bounds : 31 ≤ w.l3 ∧ w.l3 ≤ 396 := by
  have := w.l2_bounds
  have i_eq := w.i_eq
  rw [w.l3_eq]
  omega

theorem j_bounds : 1 ≤ w.j ∧ w.j ≤ 12 := by
  have := w.l3_bounds
  rw [w.j_eq]
  omega

/-- The 366th day of a year of the century, 29 February, ends a year `i` with `i + 1`
divisible by four, and the last year of the century only when the century has its leap day. -/
theorem leap_day (last : w.l3 = 396) : (w.i + 1) % 4 = 0 ∧ (w.i = 99 → w.l2 = 36524) := by
  have bounds := w.l2_bounds
  have i_eq := w.i_eq
  have spent : w.l2 - 1461 * w.i / 4 = 365 := by rw [w.l3_eq] at last; omega
  constructor
  · rcases (show w.i % 4 = 0 ∨ w.i % 4 = 1 ∨ w.i % 4 = 2 ∨ w.i % 4 = 3 by omega) with
      r | r | r | r <;> omega
  · intro ninetynine
    omega

theorem full_century (full : w.l2 = 36524) : w.n % 4 = 0 := by
  -- `n` is the floor of `4 (jd + 68569) / 146097`, and the centuries before took
  -- `(146097 n + 3) / 4` days: a full last century leaves that division exact
  have below : 4 * (jd + 68569) < 146097 * w.n + 146097 := by
    rw [w.n_eq]
    omega
  have days : (146097 * w.n + 3) / 4 = (w.n + 3) / 4 + 36524 * w.n := by
    rw [← Int.add_mul_ediv_left _ _ (by decide : (4 : Int) ≠ 0)]
    congr 1
    omega
  have l2_eq := w.l2_eq
  rw [days, full] at l2_eq
  -- omega is slow on divisions with the large coefficients: each step sees only its facts
  clear days
  have tight : 4 * ((w.n + 3) / 4) < w.n + 1 := by
    generalize (w.n + 3) / 4 = q at l2_eq ⊢
    omega
  clear below l2_eq
  omega

end Walk

/-! ## Years that begin in March -/

/-- The year counted from 1 March: January and February belong to the year before. -/
def marchYear (year month : Int) : Int := if month ≤ 2 then year - 1 else year

def marchMonth (month : Int) : Int := if month ≤ 2 then month + 10 else month - 2

theorem clockGregorian2utc_march (year month day : Int) (lo : 1 ≤ month)
    (nonneg : 0 ≤ marchYear year month + 4800) :
    clockGregorian2utc year month day =
      1461 * (marchYear year month + 4800) / 4 + 367 * marchMonth month / 12 -
        3 * ((marchYear year month + 4900) / 100) / 4 + day - 32075 := by
  unfold clockGregorian2utc marchYear marchMonth at *
  split_ifs at * with early
  · -- `temp = -1`: January and February count in the year before
    dsimp only
    rw [show year + 4800 + -1 = year - 1 + 4800 by omega, show month - 2 - 12 * -1 = month + 10 by omega,
      show year + 4900 + -1 = year - 1 + 4900 by omega]
    simp (disch := omega) only [Int.tdiv_eq_ediv_of_nonneg]
  · dsimp only
    simp (disch := omega) only [Int.add_zero, Int.mul_zero, Int.sub_zero,
      Int.tdiv_eq_ediv_of_nonneg]

theorem march_days (j : Int) (lo : 1 ≤ j) (hi : j ≤ 12) : 367 * j / 12 = 2447 * j / 80 := by
  interval_cases j <;> decide

namespace Walk

variable {jd : Int} (w : Walk jd)

theorem date_march :
    marchYear w.date.1 w.date.2.1 = 100 * (w.n - 49) + w.i ∧ marchMonth w.date.2.1 = w.j := by
  have := w.j_bounds
  unfold marchYear marchMonth date
  dsimp only
  split_ifs <;> omega

theorem month_bounds : 1 ≤ w.date.2.1 ∧ w.date.2.1 ≤ 12 := by
  have := w.j_bounds
  unfold date
  dsimp only
  omega

theorem gregorian2utc_date (later : 1 ≤ w.n) :
    clockGregorian2utc w.date.1 w.date.2.1 w.date.2.2 = jd := by
  obtain ⟨year_eq, month_eq⟩ := w.date_march
  obtain ⟨jlo, jhi⟩ := w.j_bounds
  obtain ⟨ilo, ihi⟩ := w.i_bounds
  rw [clockGregorian2utc_march _ _ _ w.month_bounds.1 (by rw [year_eq]; omega), year_eq,
    month_eq, march_days w.j jlo jhi]
  -- the Julian years of the centuries, less the century days the Gregorian rule drops
  have years : 1461 * (100 * (w.n - 49) + w.i + 4800) / 4 = 36525 * (w.n - 1) + 1461 * w.i / 4 := by
    omega
  have centuries : (100 * (w.n - 49) + w.i + 4900) / 100 = w.n := by omega
  have leaps : (146097 * w.n + 3) / 4 + 3 * w.n / 4 = 36525 * w.n := by omega
  rw [years, centuries]
  have l3_eq := w.l3_eq
  have l2_eq := w.l2_eq
  unfold date
  dsimp only
  omega

theorem day_bounds : 1 ≤ w.date.2.2 ∧ w.date.2.2 ≤ daysInMonth w.date.1 w.date.2.1 := by
  have j_eq := w.j_eq
  have l3_bounds := w.l3_bounds
  unfold date daysInMonth
  dsimp only
  obtain ⟨j, hj⟩ : ∃ j, w.j = j := ⟨_, rfl⟩
  obtain ⟨lo, hi⟩ : 1 ≤ j ∧ j ≤ 12 := hj ▸ w.j_bounds
  rw [hj] at j_eq ⊢
  rcases (show j ≤ 11 ∨ j = 12 by omega) with spring | rfl
  · -- March to January: between two multiples of 2447/80 days
    interval_cases j <;> norm_num <;> omega
  · -- February: its 29th day is the 366th of the year
    norm_num
    split_ifs with leap
    · omega
    · refine ⟨by omega, ?_⟩
      by_contra more
      obtain ⟨four, century_end⟩ := w.leap_day (by omega)
      apply leap
      unfold isLeap
      by_cases ninetynine : w.i = 99
      · have := w.full_century (century_end ninetynine)
        omega
      · have := w.i_bounds
        omega

end Walk

theorem clockDayoftheweek_march (day month year : Int) (lo : 1 ≤ month) (dpos : 0 ≤ day)
    (nonneg : 0 ≤ marchYear year month) :
    clockDayoftheweek day month year =
      (day + marchYear year month + marchYear year month / 4 - marchYear year month / 100 +
        marchYear year month / 400 + 31 * marchMonth month / 12) % 7 := by
  unfold clockDayoftheweek marchYear marchMonth at *
  split_ifs at * with early
  · dsimp only
    rw [show month + 12 - 2 = month + 10 by omega]
    simp (disch := omega) only [Int.tdiv_eq_ediv_of_nonneg, Int.tmod_eq_emod_of_nonneg]
  · dsimp only
    simp (disch := omega) only [Int.tdiv_eq_ediv_of_nonneg, Int.tmod_eq_emod_of_nonneg]

theorem weekday_march (Y J d : Int) (nonneg : 0 ≤ Y) :
    (d + Y + Y / 4 - Y / 100 + Y / 400 + 31 * J / 12) % 7 =
      (1461 * (Y + 4800) / 4 + 367 * J / 12 - 3 * ((Y + 4900) / 100) / 4 + d - 32075 + 1) % 7 := by
  have months : 367 * J / 12 = 28 * J + 31 * J / 12 := by omega
  -- split the year into its century `c` and the year `u` of the century
  obtain ⟨c, u, rfl, u_lo, u_hi⟩ : ∃ c u, Y = 100 * c + u ∧ 0 ≤ u ∧ u < 100 :=
    ⟨Y / 100, Y % 100, by omega, by omega, by omega⟩
  have fourth : (100 * c + u) / 4 = 25 * c + u / 4 := by omega
  have hundredth : (100 * c + u) / 100 = c := by omega
  have fourhundredth : (100 * c + u) / 400 = c / 4 := by omega
  have julian : 1461 * (100 * c + u + 4800) / 4 = 36525 * c + 365 * u + u / 4 + 1753200 := by omega
  have century : (100 * c + u + 4900) / 100 = c + 49 := by omega
  rw [months, fourth, hundredth, fourhundredth, julian, century]
  rcases (show c % 4 = 0 ∨ c % 4 = 1 ∨ c % 4 = 2 ∨ c % 4 = 3 by omega) with r | r | r | r <;> omega

namespace Walk

variable {jd : Int} (w : Walk jd)

theorem dayoftheweek_date (later : 49 ≤ w.n) :
    clockDayoftheweek w.date.2.2 w.date.2.1 w.date.1 = (jd + 1) % 7 := by
  obtain ⟨year_eq, month_eq⟩ := w.date_march
  have day_pos := w.day_bounds.1
  have back := w.gregorian2utc_date (by omega)
  have nonneg : 0 ≤ marchYear w.date.1 w.date.2.1 := by
    rw [year_eq]
    have := w.i_bounds
    omega
  rw [clockGregorian2utc_march _ _ _ w.month_bounds.1 (by omega)] at back
  rw [clockDayoftheweek_march _ _ _ w.month_bounds.1 (by omega) nonneg,
    weekday_march _ _ _ nonneg, back]

end Walk

theorem clockUtc2gregorian_eq (jd : Nat) : ∃ w : Walk jd, clockUtc2gregorian jd = w.date := by
  have nonneg : (0 : Int) ≤ jd + 68569 := by omega
  -- name each value of the C code in turn; each division has a non-negative operand
  unfold clockUtc2gregorian
  dsimp only
  rw [Int.tdiv_eq_ediv_of_nonneg (by omega : (0 : Int) ≤ 4 * (jd + 68569))]
  generalize n_eq : 4 * ((jd : Int) + 68569) / 146097 = n
  rw [Int.tdiv_eq_ediv_of_nonneg (by omega : 0 ≤ 146097 * n + 3)]
  generalize l2_eq : (jd : Int) + 68569 - (146097 * n + 3) / 4 = l2
  have l2_nonneg : 0 ≤ l2 := by omega
  rw [Int.tdiv_eq_ediv_of_nonneg (by omega : 0 ≤ 4000 * (l2 + 1))]
  generalize i_eq : 4000 * (l2 + 1) / 1461001 = i
  have i_nonneg : 0 ≤ i := by omega
  rw [Int.tdiv_eq_ediv_of_nonneg (by omega : 0 ≤ 1461 * i)]
  generalize l3_eq : l2 - 1461 * i / 4 + 31 = l3
  let w : Walk jd := ⟨n, l2, i, l3, 80 * l3 / 2447, n_eq.symm, l2_eq.symm, i_eq.symm, l3_eq.symm, rfl⟩
  have l3_pos := w.l3_bounds.1
  have j_pos := w.j_bounds.1
  rw [Int.tdiv_eq_ediv_of_nonneg (by omega : 0 ≤ 80 * l3)]
  rw [Int.tdiv_eq_ediv_of_nonneg (by simp only [w] at j_pos; omega : 0 ≤ 2447 * (80 * l3 / 2447))]
  rw [Int.tdiv_eq_ediv_of_nonneg (by simp only [w] at j_pos; omega : 0 ≤ 80 * l3 / 2447)]
  exact ⟨w, rfl⟩

/-! ## `gmtime_r` and `mktime` -/

/-- The date `clock_utc2calendar` gives for day `utc` of the epoch is a valid date that
`clock_gregorian2utc` takes back to `utc`, and its weekday is that of `utc`. -/
theorem clockUtc2calendar_spec (utc : Nat) (fits : utc < 2 ^ 32 - 2440588) :
    (1 ≤ (clockUtc2calendar utc).2.1 ∧ (clockUtc2calendar utc).2.1 ≤ 12) ∧
      (1 ≤ (clockUtc2calendar utc).2.2 ∧
        (clockUtc2calendar utc).2.2 ≤ daysInMonth (clockUtc2calendar utc).1 (clockUtc2calendar utc).2.1) ∧
      clockGregorian2utc (clockUtc2calendar utc).1 (clockUtc2calendar utc).2.1
        (clockUtc2calendar utc).2.2 = utc + jdOfEpoch ∧
      clockDayoftheweek (clockUtc2calendar utc).2.2 (clockUtc2calendar utc).2.1
        (clockUtc2calendar utc).1 = (utc + 4) % 7 := by
  obtain ⟨w, walk⟩ := clockUtc2gregorian_eq ((utc + 2440588) % 2 ^ 32)
  have jd_eq : (((utc + 2440588) % 2 ^ 32 : Nat) : Int) = utc + jdOfEpoch := by
    rw [Nat.mod_eq_of_lt (by omega), jdOfEpoch]
    omega
  have later : 68 ≤ w.n := by
    have n_eq : w.n = 4 * ((utc : Int) + jdOfEpoch + 68569) / 146097 := w.n_eq.trans (by rw [jd_eq])
    rw [jdOfEpoch] at n_eq
    omega
  rw [clockUtc2calendar, walk]
  refine ⟨w.month_bounds, w.day_bounds, ?_, ?_⟩
  · rw [w.gregorian2utc_date (by omega), jd_eq]
  · rw [w.dayoftheweek_date (by omega), jd_eq, jdOfEpoch]
    omega

theorem clockCalendar2utc_of_mem (year month day : Int) (lo : 1 ≤ month) (hi : month ≤ 12) :
    clockCalendar2utc year month day = UInt32.ofInt (clockGregorian2utc year month day - jdOfEpoch) := by
  have dyear : (month - 1).tdiv 12 = 0 := by
    rw [Int.tdiv_eq_ediv_of_nonneg (by omega)]
    omega
  simp only [clockCalendar2utc, dyear, Int.mul_zero, Int.sub_zero, Int.add_zero]
  rw [if_neg (by omega)]

theorem gmtimeR_mktime (t : TimeT) :
    ∃ tm, gmtimeR t = some tm ∧ tm.Valid ∧ mktime tm = t ∧ tm.tmWday = weekday t := by
  obtain ⟨tm, split⟩ : ∃ tm, gmtimeR t = some tm := ⟨_, rfl⟩
  obtain ⟨year, month, day, calendar, year_eq, mon_eq, mday_eq, wday_eq, h0, h1, m0, m1, s0, s1, sum⟩ :=
    gmtimeR_time _ t tm split
  rw [Option.some.injEq] at calendar
  have fits : t.toNat / secPerDay < 2 ^ 32 - 2440588 := by
    have := t.toNat_lt
    unfold secPerDay secPerHour secPerMin
    omega
  have spec := clockUtc2calendar_spec _ fits
  rw [calendar] at spec
  dsimp only at spec
  obtain ⟨⟨mlo, mhi⟩, days, back, wd⟩ := spec
  have year_back : tm.tmYear + 1900 = year := by omega
  have month_back : tm.tmMon + 1 = month := by omega
  refine ⟨tm, split, ⟨by omega, ?_, ⟨h0, h1⟩, ⟨m0, m1⟩, ⟨s0, s1⟩⟩, ?_, ?_⟩
  · rw [year_back, month_back, mday_eq]
    exact days
  · -- `mktime` finds the day count again, and the seconds of the day add back up
    unfold mktime
    dsimp only
    rw [year_back, month_back, ← mday_eq] at *
    rw [clockCalendar2utc_of_mem _ _ _ mlo mhi, back,
      show (t.toNat / secPerDay : Nat) + jdOfEpoch - jdOfEpoch = (t.toNat / secPerDay : Nat) by omega,
      toNat_ofInt _ (by omega) (by omega), sum, ofInt_toNat]
  · rw [wday_eq, wd, weekday]

end TinyAra.Libc.Time.Gregorian
