/-
# Kernel.Timer -- POSIX interval timers on a watchdog

timer_settime.c (`timer_settime`, `timer_timeout`, `timer_restart`), timer_gettime.c and
clock_ticks2time.c, for one timer created by `timer_create`. The timer keeps `pt_delay`,
the reload value in ticks, `pt_last`, the delay its watchdog was last started with, and the
watchdog `pt_wdog`. The watchdog is modelled by the tick it expires at, which is what
`Kernel.Wdog` shows the watchdog list to implement (`wdRun_refines`, `Refines.gettime`):
`wd_start(wdog, delay)` at tick `c` expires at `c + wdStartTicks delay`, one tick later than
`delay`, and `wd_gettime` is the ticks left. A tick of the system timer moves the clock on
and, when the watchdog is due, runs `timer_timeout`, which dispatches the signal and, for a
repetitive timer, calls `wd_start` again with `pt_delay`. The build's `clock_time2ticks`
and `USEC_PER_TICK` are parameters.

* `ticks_disarmed`: once disarmed, no tick dispatches anything.

Three things part from what the calls promise (`posix_timer_departs_from_settings`): an
absolute `it_value` already past is replaced by `pt_delay`, so a one-shot timer set so is
left disarmed and never notifies (`timerSettime_passed_oneshot`); the restart from the
watchdog's own expiry adds `wd_start`'s tick, so the period is one tick longer than
`it_interval`; and `timer_gettime` reports `pt_last`, the delay before the first expiry,
as `it_interval`, not the reload value, so a one-shot timer reports a non-zero interval.
-/
import Mathlib.Data.Int.Bitwise
import TinyAra.Kernel.Clock
import TinyAra.Kernel.Wdog

namespace TinyAra.Kernel.Timer

open Machine Clock Wdog

set_option autoImplicit false

def timerAbstime : Int := 1

/-- `struct itimerspec`. -/
structure Itimerspec where
  itValue : Timespec
  itInterval : Timespec
  deriving DecidableEq, Repr

/-- `struct posix_timer_s`, the fields these calls use; `ptWdog` is the tick the watchdog
expires at while it is active. -/
structure PosixTimer where
  ptDelay : Int
  ptLast : Int
  ptWdog : Option Int
  deriving DecidableEq, Repr

/-- The system tick count and the timer. -/
structure TimerState where
  clock : Int
  timer : PosixTimer
  deriving DecidableEq, Repr

def tickPerSec (usecPerTick : Int) : Int := usecPerSec.tdiv usecPerTick

/-- `clock_ticks2time(ticks, reltime)`; `tv_sec` is a `time_t` (`uint32_t`), and the
remainder is computed in its `unsigned` arithmetic and stored in an `int`. -/
def clockTicks2time (usecPerTick ticks : Int) : Timespec :=
  let tvSec := ticks.tdiv (tickPerSec usecPerTick) % 2 ^ 32
  let remainder := CInt.wrap 32 (ticks - tickPerSec usecPerTick * tvSec)
  ⟨tvSec.toNat, CInt.wrap 32 (remainder * nsecPerTick usecPerTick)⟩

/-- `clock_abstime2ticks(CLOCK_REALTIME, abstime, &delay)` with `now` the clock's reading;
with a reading it never fails. -/
def abstimeTicks (time2ticks : Timespec → Int) (now abstime : Timespec) : Int :=
  match clockAbstime2ticks time2ticks (some now) abstime with
  | .ok ticks => ticks
  | .error _ => 0

/-- `wd_start(timer->pt_wdog, delay, timer_timeout, 1, timer)` at tick `clock`; a negative
delay is refused with `EINVAL` before anything changes. -/
def wdStartAt (clock delay : Int) (wdog : Option Int) : Option Int :=
  if delay < 0 then wdog else some (clock + wdStartTicks delay)

/-- `wd_gettime(timer->pt_wdog)`: the ticks left, 0 for an inactive watchdog. -/
def wdGettimeAt (st : TimerState) : Int :=
  match st.timer.ptWdog with
  | some due => due - st.clock
  | none => 0

/-- The repetitive part of `timer_settime`: `pt_delay` from a non-zero `it_interval`. -/
def intervalTicks (time2ticks : Timespec → Int) (interval : Timespec) : Int :=
  if interval.tvSec > 0 ∨ interval.tvNsec > 0 then time2ticks interval else 0

section Calls

variable (time2ticks : Timespec → Int) (usecPerTick : Int)

/-- `timer_settime(timer, flags, value, NULL)`, with `now` the reading of `CLOCK_REALTIME`. -/
def timerSettime (st : TimerState) (flags : Int) (value : Itimerspec) (now : Timespec) :
    TimerState :=
  -- `wd_cancel(timer->pt_wdog)`
  let timer := { st.timer with ptWdog := none }
  if value.itValue.tvSec ≤ 0 ∧ value.itValue.tvNsec ≤ 0 then { st with timer }
  else
    let ptDelay := intervalTicks time2ticks value.itInterval
    let delay :=
      if Int.land flags timerAbstime ≠ 0 then abstimeTicks time2ticks now value.itValue
      else time2ticks value.itValue
    -- a time in the past or now gives way to the interval
    let delay := if delay ≤ 0 then ptDelay else delay
    if delay > 0 then
      { st with timer := ⟨ptDelay, delay, wdStartAt st.clock delay none⟩ }
    else { st with timer := { timer with ptDelay } }

def timerGettime (st : TimerState) : Itimerspec :=
  ⟨clockTicks2time usecPerTick (wdGettimeAt st), clockTicks2time usecPerTick st.timer.ptLast⟩

end Calls

/-- `timer_restart` at tick `clock`, from `timer_timeout` after the signal: a repetitive timer
starts its watchdog again with `pt_delay`. -/
def timerRestart (clock : Int) (timer : PosixTimer) : PosixTimer :=
  if timer.ptDelay ≠ 0 then
    { timer with ptLast := timer.ptDelay, ptWdog := wdStartAt clock timer.ptDelay timer.ptWdog }
  else timer

/-- A tick of the system timer: the clock moves on, and a watchdog that is due expires and
runs `timer_timeout`, which dispatches the signal (`true`) and, the timer not being deleted,
calls `timer_restart`. -/
def timerTick (st : TimerState) : TimerState × Bool :=
  let clock := st.clock + 1
  match st.timer.ptWdog with
  | some due =>
    if due ≤ clock then (⟨clock, timerRestart clock { st.timer with ptWdog := none }⟩, true)
    else ({ st with clock }, false)
  | none => ({ st with clock }, false)

inductive TimerEvent where
  | settime (flags : Int) (value : Itimerspec) (now : Timespec)
  | gettime
  | tick
  deriving DecidableEq, Repr

inductive TimerReply where
  | ok
  | value (value : Itimerspec)
  /-- A tick, and whether it dispatched the timer's signal. -/
  | tick (dispatched : Bool)
  deriving DecidableEq, Repr

section Steps

variable (time2ticks : Timespec → Int) (usecPerTick : Int)

def timerStep (st : TimerState) : TimerEvent → Option (TimerState × TimerReply)
  | .settime flags value now => some (timerSettime time2ticks st flags value now, .ok)
  | .gettime => some (st, .value (timerGettime usecPerTick st))
  | .tick => some ((timerTick st).1, .tick (timerTick st).2)

def timerRun : TimerState → List TimerEvent → Option (TimerState × List TimerReply) :=
  runOut (timerStep time2ticks usecPerTick)

/-- The timer's run of `k + 1` ticks: one tick, then the others. -/
theorem timerRun_ticks_succ (st : TimerState) (k : Nat) :
    timerRun time2ticks usecPerTick st (List.replicate (k + 1) .tick) =
      (timerRun time2ticks usecPerTick (timerTick st).1 (List.replicate k .tick)).map
        fun run => (run.1, .tick (timerTick st).2 :: run.2) := by
  rfl

end Steps

theorem timerTick_disarmed {st : TimerState} (disarmed : st.timer.ptWdog = none) :
    timerTick st = ({ st with clock := st.clock + 1 }, false) := by
  simp [timerTick, disarmed]

@[simp] theorem timerRestart_ptDelay (clock : Int) (timer : PosixTimer) :
    (timerRestart clock timer).ptDelay = timer.ptDelay := by
  unfold timerRestart
  split_ifs <;> rfl

theorem ticks_disarmed (time2ticks : Timespec → Int) (usecPerTick : Int) :
    ∀ (k : Nat) (st : TimerState), st.timer.ptWdog = none →
      timerRun time2ticks usecPerTick st (List.replicate k .tick) =
        some ({ st with clock := st.clock + k }, List.replicate k (.tick false))
  | 0, st, _ => by simp [timerRun]
  | k + 1, st, disarmed => by
    rw [timerRun_ticks_succ, timerTick_disarmed disarmed]
    dsimp only
    rw [ticks_disarmed time2ticks usecPerTick k { st with clock := st.clock + 1 } disarmed]
    simp only [Option.map_some, List.replicate_succ]
    congr 3
    push_cast
    omega

/-! ## Setting a time already past -/

section Steps

variable (time2ticks : Timespec → Int) (usecPerTick : Int)

theorem timerSettime_passed_oneshot (st : TimerState) (flags : Int) (value : Itimerspec)
    (now : Timespec) (absolute : Int.land flags timerAbstime ≠ 0)
    (passed : compareTimespec value.itValue now < 0)
    (oneShot : ¬ (value.itInterval.tvSec > 0 ∨ value.itInterval.tvNsec > 0)) :
    (timerSettime time2ticks st flags value now).timer.ptWdog = none := by
  have late : abstimeTicks time2ticks now value.itValue = -1 := by
    simp [abstimeTicks, clockAbstime2ticks, passed]
  have noInterval : intervalTicks time2ticks value.itInterval = 0 := by
    simp only [intervalTicks, if_neg oneShot]
  by_cases zero : value.itValue.tvSec ≤ 0 ∧ value.itValue.tvNsec ≤ 0
  · simp only [timerSettime, if_pos zero]
  · -- the time past gives way to the interval, which is 0: nothing is started
    simp only [timerSettime, if_neg zero, noInterval, if_pos absolute, late,
      if_pos (show (-1 : Int) ≤ 0 by omega), gt_iff_lt, lt_irrefl, if_false]

end Steps

/-- `USEC_PER_TICK` when the configuration does not set it. -/
def defaultUsecPerTick : Int := 10000

/-- With the default tick of 10 ms: a one-shot timer set for an absolute time a second past
never dispatches; a timer set for one tick with an interval of one tick dispatches every
other tick, from the second on; and a one-shot timer set for five ticks reports a value of
60 ms and an interval of 50 ms. -/
theorem posix_timer_departs_from_settings :
    (∀ k, (timerRun (clockTime2ticks64 defaultUsecPerTick) defaultUsecPerTick ⟨0, ⟨0, 0, none⟩⟩
        (.settime timerAbstime ⟨⟨1, 0⟩, ⟨0, 0⟩⟩ ⟨2, 0⟩ :: List.replicate k .tick)).map Prod.snd =
      some (.ok :: List.replicate k (.tick false))) ∧
    (timerRun (clockTime2ticks64 defaultUsecPerTick) defaultUsecPerTick ⟨0, ⟨0, 0, none⟩⟩
        (.settime 0 ⟨⟨0, 10000000⟩, ⟨0, 10000000⟩⟩ ⟨0, 0⟩ :: List.replicate 6 .tick)).map
        Prod.snd =
      some (.ok :: [false, true, false, true, false, true].map .tick) ∧
    (timerRun (clockTime2ticks64 defaultUsecPerTick) defaultUsecPerTick ⟨0, ⟨0, 0, none⟩⟩
        [.settime 0 ⟨⟨0, 50000000⟩, ⟨0, 0⟩⟩ ⟨0, 0⟩, .gettime]).map Prod.snd =
      some [.ok, .value ⟨⟨0, 60000000⟩, ⟨0, 50000000⟩⟩] := by
  refine ⟨fun k => ?_, by decide, by decide⟩
  have disarmed := timerSettime_passed_oneshot (clockTime2ticks64 defaultUsecPerTick)
    ⟨0, ⟨0, 0, none⟩⟩ timerAbstime ⟨⟨1, 0⟩, ⟨0, 0⟩⟩ ⟨2, 0⟩ (by decide) (by decide) (by decide)
  have ticks := ticks_disarmed (clockTime2ticks64 defaultUsecPerTick) defaultUsecPerTick k _
    disarmed
  simp only [timerRun] at ticks
  simp only [timerRun, runOut, timerStep, Option.bind_some, ticks, Option.map_some]

end TinyAra.Kernel.Timer
