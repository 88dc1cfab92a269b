/-
# Kernel.WdogTickless -- the watchdog list in the tickless build

With `CONFIG_SCHED_TICKLESS` (and the interval timer: `CONFIG_SCHED_TICKLESS_ALARM` unset) no
tick comes; the interval timer is started for the head's lag, and the ticks that passed are
handed to `wd_timer(ticks)` whenever the timer stops (sched_timerexpiration.c):

* `sched_timer_expiration`, the timer's interrupt, hands over the whole interval;
* `sched_timer_cancel`, which `wd_start` calls before it walks the list and
  `sched_timer_reassess` calls when `wd_cancel` has unlinked the head, hands over the part of
  `g_timer_interval` that `up_timer_cancel` does not report left;
* `sched_timer_resume` at the end of `wd_start`, and `sched_timer_reassess`, restart the timer
  for the head's lag (`sched_timer_start`).

`wd_timer` runs `wd_expiration`, so the functions of the watchdogs that expire run inside
`wd_start` and `wd_cancel`, halfway through, and may call them again. The calls that wait are
a stack of `Frame`s, and `tlStep` takes one event at a time: a call, the timer's ticks passing,
its interrupt, a pass of the expiration loop, and `next`, the code going on to the next point
where one of the others can come. `sched_process_timeslice` is left out (`CONFIG_RR_INTERVAL`
0), so the interval is the watchdogs' alone.

* `Good`: each watchdog is queued once and exactly the queued ones are active, except that while
  `wd_cancel(w)` waits in `sched_timer_reassess`, `w` is active and off the list;
  `Good.step`: every step keeps it, except a call of `wd_start(w)` made while an outer
  `wd_start(w)` waits in `sched_timer_cancel` (`NestsStart`); `tlRun_good`: so over every run;
* `next_links_twice`: when that outer `wd_start(w)` goes on, it links `w` in a second time;
* `cancel_in_reassess_panics`: a `wd_cancel(w)` or `wd_start(w)` from a function that runs
  while `wd_cancel(w)` waits in `sched_timer_reassess` fails `ASSERT(curr)`;
* `tickless_nesting_fails`: runs from boot that do both.
-/
import TinyAra.Kernel.Wdog
import TinyAra.Lib.Machine

namespace TinyAra.Kernel.WdogTickless

open Wdog (WdState intMax wdStartTicks wdLink cancelFrom wdElapse wdExpireHead headLag
  keys_wdLink keys_cancelFrom)

set_option autoImplicit false

/-- A call in progress, waiting for the call above it. -/
inductive Frame (W : Type) where
  /-- `wd_timer(ticks)`, with `ticks` left; `expiring` while its `wd_expiration` runs, where the
  function of each watchdog it unlinks is called. -/
  | timer (ticks : Int) (expiring : Bool)
  /-- `sched_timer_expiration()`, the interval timer's interrupt. -/
  | interrupt
  /-- `wd_start(wdog, ...)` in its `sched_timer_cancel()`: `wdog` is linked in with `ticks` ticks
  once that returns. -/
  | start (wdog : W) (ticks : Int)
  /-- `wd_cancel(wdog)` in `sched_timer_reassess()`, after `sq_remfirst`: `wdog` is marked
  inactive once that returns, and then the `wd_start` that called it, if any, goes on with
  its delay. -/
  | cancel (wdog : W) (resume : Option Int)
deriving DecidableEq, Repr

/-- The watchdog a call in progress is about. -/
def Frame.wdog? {W : Type} : Frame W → Option W
  | .start wdog _ => some wdog
  | .cancel wdog _ => some wdog
  | _ => none

/-- The state the tickless code reads and writes. -/
structure TlState (W : Type) where
  wd : WdState W
  /-- `g_timer_interval`: the interval the timer was last started for, zero once it is
  handed over. -/
  interval : Int
  /-- The interval timer: the ticks it has left, or `none` while it is stopped. -/
  timer : Option Int
  /-- The calls in progress, innermost first. -/
  frames : List (Frame W)
  /-- An `ASSERT` has failed; `PANIC()` does not return. -/
  panicked : Bool

/-- An event of the tickless code. -/
inductive TlEvent (W : Type) where
  /-- `wd_start(wdog, delay, ...)`, from a task or from the function of a watchdog. -/
  | start (wdog : W) (delay : Int)
  /-- `wd_cancel(wdog)`. -/
  | cancel (wdog : W)
  /-- `ticks` ticks pass on the running interval timer. -/
  | pass (ticks : Int)
  /-- The interval timer's interrupt, taken when no call is in progress. -/
  | interrupt
  /-- A pass of the `wd_expiration` loop unlinks `wdog` and calls its function. -/
  | expire (wdog : W)
  /-- The code goes on to the next point where another event can come. -/
  | next

variable {W : Type}

/-! ## The interval timer -/

/-- `sched_timer_start(ticks)`: `g_timer_interval = ticks`, and `up_timer_start` for a
positive interval. -/
def schedTimerStart (s : TlState W) (ticks : Int) : TlState W :=
  if 0 < ticks then { s with interval := ticks, timer := some ticks } else { s with interval := 0 }

/-- `sched_timer_cancel()`: stop the timer and hand the ticks that passed, `g_timer_interval`
less what `up_timer_cancel` reports left, to `wd_timer`, above the call `caller`. -/
def schedTimerCancel (s : TlState W) (caller : Frame W) : TlState W :=
  { s with
    interval := 0
    timer := none
    frames := .timer (s.interval - s.timer.getD 0) false :: caller :: s.frames }

/-- `sched_timer_expiration()`: the whole interval goes to `wd_timer`. -/
def schedTimerExpiration (s : TlState W) : TlState W :=
  { s with interval := 0, timer := none, frames := [.timer s.interval false, .interrupt] }

/-- What `wd_timer` returns: the head's lag as an `unsigned int`, or zero for an empty list. -/
def wdTimerNext (wd : WdState W) : Int :=
  match wd.activelist with
  | [] => 0
  | head :: _ => head.2 % 2 ^ 32

/-! ## wd_start and wd_cancel -/

/-- `wd_start` once `wdog` is inactive: `delay + 1` ticks, then `sched_timer_cancel()`. -/
def wdStartCancelTimer (s : TlState W) (wdog : W) (delay : Int) : TlState W :=
  schedTimerCancel s (.start wdog (wdStartTicks delay))

section Code

variable [DecidableEq W]

/-- The end of `wd_cancel`: `WDOG_CLRACTIVE(wdog)`, and back in the `wd_start` that called it,
if any. -/
def wdCancelDone (s : TlState W) (wdog : W) (resume : Option Int) : TlState W :=
  let s := { s with wd := { s.wd with active := Function.update s.wd.active wdog false } }
  match resume with
  | none => s
  | some delay => wdStartCancelTimer s wdog delay

/-- `wd_cancel(wdog)` of an active `wdog`, called by `wd_start` when `resume` holds its delay.
Behind the head the watchdog is unlinked as in the tick build; at the head `sq_remfirst` is
followed by `sched_timer_reassess()`, in which the call waits; and a watchdog that is not on the
list fails `ASSERT(curr)`. -/
def wdCancelActive (s : TlState W) (wdog : W) (resume : Option Int) : TlState W :=
  match s.wd.activelist with
  | [] => { s with panicked := true }
  | head :: rest =>
      let s' := { s with wd := { s.wd with activelist := cancelFrom wdog (head :: rest) } }
      if head.1 = wdog then schedTimerCancel s' (.cancel wdog resume)
      else if wdog ∈ rest.map Prod.fst then wdCancelDone s' wdog resume
      else { s with panicked := true }

/-- `wd_start(wdog, delay, ...)`: `EINVAL` for a negative delay; an active watchdog is
cancelled first. -/
def wdStart (s : TlState W) (wdog : W) (delay : Int) : TlState W :=
  if delay < 0 then s
  else if s.wd.active wdog then wdCancelActive s wdog (some delay)
  else wdStartCancelTimer s wdog delay

/-- `wd_cancel(wdog)`: `ERROR`, and nothing done, for an inactive watchdog. -/
def wdCancel (s : TlState W) (wdog : W) : TlState W :=
  if s.wd.active wdog then wdCancelActive s wdog none else s

/-! ## wd_timer and the calls that wait for it -/

/-- `wd_timer` has returned to the call on top of `s.frames`. -/
def tlReturn (s : TlState W) : TlState W :=
  match s.frames with
  -- `sched_timer_expiration`: `sched_timer_start(nexttime)`
  | .interrupt :: rest => schedTimerStart { s with frames := rest } (wdTimerNext s.wd)
  -- `wd_start` links the watchdog in; `sched_timer_resume()` runs `wd_timer(0)`, which only
  -- reads the head, and restarts the timer for it
  | .start wdog ticks :: rest =>
      let wd := wdLink s.wd wdog ticks
      schedTimerStart { s with wd, frames := rest } (wdTimerNext wd)
  -- `sched_timer_reassess` restarts the timer, then `wd_cancel` goes on
  | .cancel wdog resume :: rest =>
      wdCancelDone (schedTimerStart { s with frames := rest } (wdTimerNext s.wd)) wdog resume
  | _ => s

/-- The `wd_timer(ticks)` on top of the stack goes on: its `wd_expiration` ends once the head
is not due; a pass of its loop takes `MIN(lag, ticks)` off the head's lag and runs
`wd_expiration`; with the list empty or no ticks left it returns. -/
def wdTimerStep (s : TlState W) (ticks : Int) (expiring : Bool) (rest : List (Frame W)) :
    Option (TlState W) :=
  if expiring then
    if ∀ lag ∈ headLag s.wd, 0 < lag then some { s with frames := .timer ticks false :: rest }
    else none
  else
    match s.wd.activelist with
    | head :: _ =>
        if 0 < ticks then
          some { s with
            wd := wdElapse s.wd (min head.2 ticks)
            frames := .timer (ticks - min head.2 ticks) true :: rest }
        else some (tlReturn { s with frames := rest })
    | [] => some (tlReturn { s with frames := rest })

/-- Where a call can be made: from a task when no call is in progress, or from the function
of a watchdog that `wd_expiration` unlinked. -/
def TlState.callable (s : TlState W) : Bool :=
  match s.frames with
  | [] => true
  | .timer _ expiring :: _ => expiring
  | _ => false

/-- The step of the tickless code on one event; `none` when the event cannot happen. -/
def tlStep (s : TlState W) (e : TlEvent W) : Option (TlState W) :=
  if s.panicked then none
  else
    match e with
    | .start wdog delay =>
        if s.callable ∧ delay ≤ intMax then some (wdStart s wdog delay) else none
    | .cancel wdog => if s.callable then some (wdCancel s wdog) else none
    | .pass ticks =>
        match s.timer with
        | some left => if 0 < ticks ∧ ticks ≤ left then some { s with timer := some (left - ticks) }
            else none
        | none => none
    | .interrupt =>
        if s.frames = [] ∧ s.timer = some 0 then some (schedTimerExpiration s) else none
    | .expire wdog =>
        match s.frames with
        | .timer _ true :: _ =>
            match wdExpireHead s.wd with
            | some (fired, wd) => if fired = wdog then some { s with wd } else none
            | none => none
        | _ => none
    | .next =>
        match s.frames with
        | .timer ticks expiring :: rest => wdTimerStep s ticks expiring rest
        | _ => none

def tlInit : TlState W :=
  { wd := { active := fun _ => false, activelist := [] }, interval := 0, timer := none,
    frames := [], panicked := false }

/-- A run of the tickless code over a sequence of events. -/
def tlRun : TlState W → List (TlEvent W) → Option (TlState W) :=
  Machine.run tlStep

end Code

/-! ## What one step does to the list and the calls -/

section Projections

variable (s : TlState W)

@[simp] theorem wd_schedTimerStart (ticks : Int) : (schedTimerStart s ticks).wd = s.wd := by
  unfold schedTimerStart; split <;> rfl

@[simp] theorem frames_schedTimerStart (ticks : Int) :
    (schedTimerStart s ticks).frames = s.frames := by
  unfold schedTimerStart; split <;> rfl

@[simp] theorem panicked_schedTimerStart (ticks : Int) :
    (schedTimerStart s ticks).panicked = s.panicked := by
  unfold schedTimerStart; split <;> rfl

@[simp] theorem wd_schedTimerCancel (caller : Frame W) : (schedTimerCancel s caller).wd = s.wd := rfl

@[simp] theorem frames_schedTimerCancel (caller : Frame W) :
    (schedTimerCancel s caller).frames = .timer (s.interval - s.timer.getD 0) false :: caller :: s.frames :=
  rfl

end Projections

/-- The watchdogs of the calls in progress. -/
def waiting (frames : List (Frame W)) : List W := frames.filterMap Frame.wdog?

@[simp] theorem waiting_timer (ticks : Int) (expiring : Bool) (frames : List (Frame W)) :
    waiting (.timer ticks expiring :: frames) = waiting frames := rfl

@[simp] theorem waiting_interrupt (frames : List (Frame W)) :
    waiting (.interrupt :: frames) = waiting frames := rfl

@[simp] theorem waiting_start (w : W) (ticks : Int) (frames : List (Frame W)) :
    waiting (.start w ticks :: frames) = w :: waiting frames := rfl

@[simp] theorem waiting_cancel (w : W) (resume : Option Int) (frames : List (Frame W)) :
    waiting (.cancel w resume :: frames) = w :: waiting frames := rfl

theorem mem_waiting_of_start {w : W} {ticks : Int} {frames : List (Frame W)}
    (mem : Frame.start w ticks ∈ frames) : w ∈ waiting frames :=
  List.mem_filterMap.mpr ⟨_, mem, rfl⟩

theorem mem_waiting_of_cancel {w : W} {resume : Option Int} {frames : List (Frame W)}
    (mem : Frame.cancel w resume ∈ frames) : w ∈ waiting frames :=
  List.mem_filterMap.mpr ⟨_, mem, rfl⟩

/-! ## The invariant -/

/-- The list and the calls in progress agree: each watchdog is queued at most once and the
queued ones are active; an active watchdog is queued unless its `wd_cancel` waits in
`sched_timer_reassess`, and then it is off the list; a watchdog whose `wd_start` waits in
`sched_timer_cancel` is inactive; and no two calls in progress are about one watchdog. -/
structure Good (wd : WdState W) (frames : List (Frame W)) : Prop where
  nodup : (wd.activelist.map Prod.fst).Nodup
  queued : ∀ w ∈ wd.activelist.map Prod.fst, wd.active w = true
  active : ∀ w, wd.active w = true →
    w ∈ wd.activelist.map Prod.fst ∨ ∃ resume, Frame.cancel w resume ∈ frames
  cancelling : ∀ w resume, Frame.cancel w resume ∈ frames →
    wd.active w = true ∧ w ∉ wd.activelist.map Prod.fst
  starting : ∀ w ticks, Frame.start w ticks ∈ frames → wd.active w = false
  distinct : (waiting frames).Nodup

section Invariant

variable {wd : WdState W} {frames : List (Frame W)}

/-- A frame about no watchdog (a `wd_timer` or the interrupt) can be pushed or popped. -/
theorem good_cons_iff {f : Frame W} (plain : f.wdog? = none) :
    Good wd (f :: frames) ↔ Good wd frames := by
  have same : waiting (f :: frames) = waiting frames := by simp [waiting, plain]
  have notStart : ∀ w ticks, f ≠ .start w ticks := fun w ticks eq => by simp [eq, Frame.wdog?] at plain
  have notCancel : ∀ w r, f ≠ .cancel w r := fun w r eq => by simp [eq, Frame.wdog?] at plain
  constructor
  · intro good
    refine ⟨good.nodup, good.queued, fun w act => ?_, fun w r mem => good.cancelling w r
      (List.mem_cons_of_mem f mem), fun w k mem => good.starting w k (List.mem_cons_of_mem f mem),
      same ▸ good.distinct⟩
    rcases good.active w act with queued | ⟨r, mem⟩
    · exact .inl queued
    · rcases List.mem_cons.mp mem with eq | mem
      · exact absurd eq.symm (notCancel w r)
      · exact .inr ⟨r, mem⟩
  · intro good
    refine ⟨good.nodup, good.queued, fun w act => ?_, fun w r mem => ?_, fun w k mem => ?_,
      same ▸ good.distinct⟩
    · rcases good.active w act with queued | ⟨r, mem⟩
      · exact .inl queued
      · exact .inr ⟨r, List.mem_cons_of_mem f mem⟩
    · rcases List.mem_cons.mp mem with eq | mem
      · exact absurd eq.symm (notCancel w r)
      · exact good.cancelling w r mem
    · rcases List.mem_cons.mp mem with eq | mem
      · exact absurd eq.symm (notStart w k)
      · exact good.starting w k mem

/-- A queued watchdog is about no call in progress: it is active, so not being started, and on
the list, so not being cancelled. -/
theorem Good.not_waiting (good : Good wd frames) {w : W} (queued : w ∈ wd.activelist.map Prod.fst) :
    w ∉ waiting frames := by
  intro mem
  obtain ⟨f, fmem, about⟩ := List.mem_filterMap.mp mem
  cases f with
  | start x ticks =>
      cases about
      have := good.starting w ticks fmem
      rw [good.queued w queued] at this
      cases this
  | cancel x r =>
      cases about
      exact (good.cancelling w r fmem).2 queued
  | timer => cases about
  | interrupt => cases about

/-- `wd_start` pushes its frame in `sched_timer_cancel` for an inactive watchdog no call is
about. -/
theorem Good.cons_start (good : Good wd frames) {w : W} (ticks : Int) (idle : wd.active w = false)
    (fresh : w ∉ waiting frames) : Good wd (.start w ticks :: frames) := by
  refine ⟨good.nodup, good.queued, fun x act => ?_, fun x r mem => ?_, fun x k mem => ?_,
    by simpa using ⟨fresh, good.distinct⟩⟩
  · rcases good.active x act with queued | ⟨r, mem⟩
    · exact .inl queued
    · exact .inr ⟨r, List.mem_cons_of_mem _ mem⟩
  · rcases List.mem_cons.mp mem with eq | mem
    · cases eq
    · exact good.cancelling x r mem
  · rcases List.mem_cons.mp mem with eq | mem
    · cases eq
      exact idle
    · exact good.starting x k mem

/-- A pass of `wd_timer` only lowers the head's lag. -/
theorem Good.elapse (good : Good wd frames) (decr : Int) : Good (wdElapse wd decr) frames := by
  have keys : (wdElapse wd decr).activelist.map Prod.fst = wd.activelist.map Prod.fst := by
    unfold wdElapse
    split <;> simp_all
  have active : (wdElapse wd decr).active = wd.active := Wdog.wdElapse_active wd decr
  exact ⟨keys ▸ good.nodup, fun w mem => active ▸ good.queued w (keys ▸ mem),
    fun w act => keys ▸ good.active w (active ▸ act),
    fun w r mem => active ▸ keys ▸ good.cancelling w r mem,
    fun w k mem => active ▸ good.starting w k mem, good.distinct⟩

theorem Good.of_cons_start {wd : WdState W} {frames : List (Frame W)} {w : W} {ticks : Int}
    (good : Good wd (.start w ticks :: frames)) : Good wd frames := by
  have distinct := good.distinct
  rw [waiting_start, List.nodup_cons] at distinct
  refine ⟨good.nodup, good.queued, fun x act => ?_, fun x r mem => good.cancelling x r
    (List.mem_cons_of_mem _ mem), fun x k mem => good.starting x k (List.mem_cons_of_mem _ mem),
    distinct.2⟩
  rcases good.active x act with queued | ⟨r, mem⟩
  · exact .inl queued
  · rcases List.mem_cons.mp mem with eq | mem
    · cases eq
    · exact .inr ⟨r, mem⟩

/-- `sched_timer_cancel` pushes a `wd_timer` above the call that waits. -/
theorem Good.schedTimerCancel {s : TlState W} {caller : Frame W} (good : Good s.wd (caller :: s.frames)) :
    Good (schedTimerCancel s caller).wd (schedTimerCancel s caller).frames := by
  rw [wd_schedTimerCancel, frames_schedTimerCancel, good_cons_iff rfl]
  exact good

theorem Good.wdStartCancelTimer {s : TlState W} (good : Good s.wd s.frames) {w : W} (delay : Int)
    (idle : s.wd.active w = false) (fresh : w ∉ waiting s.frames) :
    Good (wdStartCancelTimer s w delay).wd (wdStartCancelTimer s w delay).frames :=
  Good.schedTimerCancel (good.cons_start _ idle fresh)

theorem good_tlInit : Good (tlInit : TlState W).wd (tlInit : TlState W).frames where
  nodup := List.nodup_nil
  queued := by simp [tlInit]
  active := by simp [tlInit]
  cancelling := by simp [tlInit]
  starting := by simp [tlInit]
  distinct := List.nodup_nil

variable [DecidableEq W]

/-- The head unlinked by `wd_cancel`, which then waits in `sched_timer_reassess` with the
watchdog still active. -/
theorem Good.unlink (good : Good wd frames) {w : W} (queued : w ∈ wd.activelist.map Prod.fst)
    (resume : Option Int) :
    Good { wd with activelist := cancelFrom w wd.activelist } (.cancel w resume :: frames) := by
  have fresh := good.not_waiting queued
  have keys := keys_cancelFrom w wd.activelist
  refine ⟨?_, fun x mem => ?_, fun x act => ?_, fun x r mem => ?_, fun x k mem => ?_,
    by simpa using ⟨fresh, good.distinct⟩⟩
  · rw [keys]
    exact good.nodup.erase w
  · rw [keys] at mem
    exact good.queued x (List.mem_of_mem_erase mem)
  · by_cases same : x = w
    · exact .inr ⟨resume, by rw [same]; exact List.mem_cons_self⟩
    · rcases good.active x act with queued' | ⟨r, mem⟩
      · left
        rw [keys]
        exact (List.mem_erase_of_ne same).mpr queued'
      · exact .inr ⟨r, List.mem_cons_of_mem _ mem⟩
  · rw [keys]
    rcases List.mem_cons.mp mem with eq | mem
    · cases eq
      exact ⟨good.queued w queued, good.nodup.not_mem_erase⟩
    · obtain ⟨act, off⟩ := good.cancelling x r mem
      exact ⟨act, fun inErase => off (List.mem_of_mem_erase inErase)⟩
  · rcases List.mem_cons.mp mem with eq | mem
    · cases eq
    · exact good.starting x k mem

/-- `WDOG_CLRACTIVE` at the end of `wd_cancel`, with its frame popped. -/
theorem Good.cancelDone {w : W} {resume : Option Int} (good : Good wd (.cancel w resume :: frames)) :
    Good { wd with active := Function.update wd.active w false } frames := by
  have off := (good.cancelling w resume List.mem_cons_self).2
  have distinct := good.distinct
  simp only [waiting_cancel, List.nodup_cons] at distinct
  -- only `w`'s flag changes
  have others : ∀ x, x ≠ w →
      ({ wd with active := Function.update wd.active w false } : WdState W).active x = wd.active x :=
    fun x other => Function.update_of_ne other _ _
  refine ⟨good.nodup, fun x mem => ?_, fun x act => ?_, fun x r mem => ?_, fun x k mem => ?_,
    distinct.2⟩
  · have other : x ≠ w := fun same => off (same ▸ mem)
    rw [others x other]
    exact good.queued x mem
  · have other : x ≠ w := by
      rintro rfl
      simp at act
    rw [others x other] at act
    rcases good.active x act with queued | ⟨r, mem⟩
    · exact .inl queued
    · rcases List.mem_cons.mp mem with eq | mem
      · cases eq
        exact absurd rfl other
      · exact .inr ⟨r, mem⟩
  · have other : x ≠ w := fun same => distinct.1 (same ▸ mem_waiting_of_cancel mem)
    rw [others x other]
    exact good.cancelling x r (List.mem_cons_of_mem _ mem)
  · by_cases same : x = w
    · rw [same]
      exact Function.update_self _ _ _
    · rw [others x same]
      exact good.starting x k (List.mem_cons_of_mem _ mem)

/-- The end of `wd_start`: an inactive watchdog that no other call is about is linked in. -/
theorem Good.link (good : Good wd frames) {w : W} (ticks : Int) (idle : wd.active w = false)
    (fresh : w ∉ waiting frames) : Good (wdLink wd w ticks) frames := by
  have keys := keys_wdLink wd w ticks
  have off : w ∉ wd.activelist.map Prod.fst := fun mem => by
    rw [good.queued w mem] at idle
    cases idle
  have mem_keys : ∀ x, x ∈ (wdLink wd w ticks).activelist.map Prod.fst ↔
      x = w ∨ x ∈ wd.activelist.map Prod.fst := fun x => by
    rw [keys.mem_iff, List.mem_cons]
  have active : (wdLink wd w ticks).active = Function.update wd.active w true := rfl
  refine ⟨keys.nodup_iff.mpr (List.nodup_cons.mpr ⟨off, good.nodup⟩), fun x mem => ?_,
    fun x act => ?_, fun x r mem => ?_, fun x k mem => ?_, good.distinct⟩
  · rw [active]
    by_cases same : x = w
    · rw [same, Function.update_self]
    · rw [Function.update_of_ne same]
      exact good.queued x (((mem_keys x).mp mem).resolve_left same)
  · rw [active] at act
    by_cases same : x = w
    · exact .inl ((mem_keys x).mpr (.inl same))
    · rw [Function.update_of_ne same] at act
      rcases good.active x act with queued | waits
      · exact .inl ((mem_keys x).mpr (.inr queued))
      · exact .inr waits
  · have other : x ≠ w := fun same => fresh (same ▸ mem_waiting_of_cancel mem)
    obtain ⟨act, off'⟩ := good.cancelling x r mem
    rw [active, Function.update_of_ne other]
    exact ⟨act, fun mem' => off' (((mem_keys x).mp mem').resolve_left other)⟩
  · have other : x ≠ w := fun same => fresh (same ▸ mem_waiting_of_start mem)
    rw [active, Function.update_of_ne other]
    exact good.starting x k mem

/-- A pass of `wd_expiration` is `wd_cancel`'s unlinking of the head, with the head marked
inactive at once. -/
theorem wdExpireHead_eq_some {wd' : WdState W} {fired : W}
    (passed : wdExpireHead wd = some (fired, wd')) :
    fired ∈ wd.activelist.map Prod.fst ∧
      wd' = { active := Function.update wd.active fired false
              activelist := cancelFrom fired wd.activelist } := by
  unfold wdExpireHead at passed
  cases list : wd.activelist with
  | nil => simp [list] at passed
  | cons head rest =>
      simp only [list] at passed
      split_ifs at passed with due
      simp only [Option.some.injEq, Prod.mk.injEq] at passed
      obtain ⟨rfl, rfl⟩ := passed
      refine ⟨by simp, ?_⟩
      cases rest <;> simp [cancelFrom]

theorem Good.expire (good : Good wd frames) {fired : W} {wd' : WdState W}
    (passed : wdExpireHead wd = some (fired, wd')) : Good wd' frames := by
  obtain ⟨queued, rfl⟩ := wdExpireHead_eq_some passed
  exact (good.unlink queued none).cancelDone

end Invariant

/-! ## Every step keeps the invariant, but one -/

section Step

variable [DecidableEq W] {s : TlState W}

theorem Good.wdCancelDone {w : W} {resume : Option Int}
    (good : Good s.wd (.cancel w resume :: s.frames)) :
    Good (wdCancelDone s w resume).wd (wdCancelDone s w resume).frames := by
  have done := good.cancelDone
  have fresh : w ∉ waiting s.frames := (List.nodup_cons.mp good.distinct).1
  cases resume with
  | none => exact done
  | some delay => exact Good.wdStartCancelTimer done delay (Function.update_self _ _ _) fresh

/-- A watchdog that is off the list makes `wd_cancel` fail its `ASSERT(curr)`. -/
theorem wdCancelActive_of_not_mem {w : W} (off : w ∉ s.wd.activelist.map Prod.fst)
    (resume : Option Int) : wdCancelActive s w resume = { s with panicked := true } := by
  unfold wdCancelActive
  split
  · rfl
  · rename_i head rest list
    rw [list, List.map_cons, List.mem_cons, not_or] at off
    simp [Ne.symm off.1, off.2]

theorem Good.wdCancelActive (good : Good s.wd s.frames) {w : W} (resume : Option Int) :
    Good (wdCancelActive s w resume).wd (wdCancelActive s w resume).frames := by
  by_cases queued : w ∈ s.wd.activelist.map Prod.fst
  · have unlinked := good.unlink queued resume
    unfold WdogTickless.wdCancelActive
    split
    · exact good
    · rename_i head rest list
      rw [list] at unlinked
      dsimp only
      split_ifs with atHead behind
      · -- at the head: the call waits in `sched_timer_reassess`
        exact Good.schedTimerCancel unlinked
      · exact Good.wdCancelDone unlinked
      · exact good
  · rw [wdCancelActive_of_not_mem queued]
    exact good

theorem Good.wdCancel (good : Good s.wd s.frames) (w : W) :
    Good (wdCancel s w).wd (wdCancel s w).frames := by
  unfold WdogTickless.wdCancel
  split_ifs
  · exact good.wdCancelActive none
  · exact good

/-- `wd_start` keeps the invariant, unless an outer `wd_start` of the same watchdog waits. -/
theorem Good.wdStart (good : Good s.wd s.frames) (w : W) (delay : Int) :
    Good (wdStart s w delay).wd (wdStart s w delay).frames ∨
      0 ≤ delay ∧ ∃ ticks, Frame.start w ticks ∈ s.frames := by
  unfold WdogTickless.wdStart
  split_ifs with negative act
  · exact .inl good
  · exact .inl (good.wdCancelActive _)
  · by_cases started : ∃ ticks, Frame.start w ticks ∈ s.frames
    · exact .inr ⟨by omega, started⟩
    · -- an inactive watchdog has no `wd_cancel` waiting either, since that keeps it active
      refine .inl (good.wdStartCancelTimer delay (by simpa using act) fun mem => ?_)
      obtain ⟨f, fmem, about⟩ := List.mem_filterMap.mp mem
      cases f with
      | start x ticks =>
          cases about
          exact started ⟨ticks, fmem⟩
      | cancel x r =>
          cases about
          exact act (good.cancelling w r fmem).1
      | timer => cases about
      | interrupt => cases about

/-- `wd_timer` returns: the interrupt restarts the timer, `wd_start` links its watchdog in, and
`wd_cancel` marks its watchdog inactive. -/
theorem Good.tlReturn (good : Good s.wd s.frames) : Good (tlReturn s).wd (tlReturn s).frames := by
  unfold WdogTickless.tlReturn
  split
  · rename_i rest frames
    rw [frames, good_cons_iff rfl] at good
    simpa using good
  · rename_i w ticks rest frames
    rw [frames] at good
    have fresh := (List.nodup_cons.mp good.distinct).1
    have idle := good.starting w ticks List.mem_cons_self
    simpa using good.of_cons_start.link ticks idle fresh
  · rename_i w resume rest frames
    rw [frames] at good
    apply Good.wdCancelDone
    simpa using good
  · exact good

theorem Good.wdTimerStep (good : Good s.wd s.frames) {ticks : Int} {expiring : Bool}
    {rest : List (Frame W)} (top : s.frames = .timer ticks expiring :: rest) {s' : TlState W}
    (stepped : wdTimerStep s ticks expiring rest = some s') : Good s'.wd s'.frames := by
  have popped : Good s.wd rest := by
    rw [top, good_cons_iff rfl] at good
    exact good
  unfold WdogTickless.wdTimerStep at stepped
  cases expiring with
  | true =>
      -- `wd_expiration` ends
      simp only [if_true] at stepped
      split_ifs at stepped
      cases stepped
      exact (good_cons_iff rfl).mpr popped
  | false =>
      simp only [Bool.false_eq_true, if_false] at stepped
      split at stepped
      · split_ifs at stepped
        · -- a pass of the loop
          cases stepped
          exact (good_cons_iff rfl).mpr (popped.elapse _)
        · cases stepped
          exact Good.tlReturn (s := { s with frames := rest }) popped
      · cases stepped
        exact Good.tlReturn (s := { s with frames := rest }) popped

/-- Every step keeps the invariant, except a call of `wd_start(w)` while an outer `wd_start(w)`
waits in its `sched_timer_cancel`. -/
theorem Good.step (good : Good s.wd s.frames) {e : TlEvent W} {s' : TlState W}
    (stepped : tlStep s e = some s') :
    Good s'.wd s'.frames ∨
      ∃ w delay ticks, e = .start w delay ∧ 0 ≤ delay ∧ Frame.start w ticks ∈ s.frames := by
  cases dead : s.panicked
  swap
  · simp [tlStep, dead] at stepped
  simp only [tlStep, dead, Bool.false_eq_true, if_false] at stepped
  cases e with
  | start w delay =>
      dsimp only at stepped
      split_ifs at stepped
      cases stepped
      rcases good.wdStart w delay with kept | ⟨nonneg, ticks, mem⟩
      · exact .inl kept
      · exact .inr ⟨w, delay, ticks, rfl, nonneg, mem⟩
  | cancel w =>
      dsimp only at stepped
      split_ifs at stepped
      cases stepped
      exact .inl (good.wdCancel w)
  | pass ticks =>
      left
      dsimp only at stepped
      split at stepped
      · split_ifs at stepped
        cases stepped
        exact good
      · cases stepped
  | interrupt =>
      dsimp only at stepped
      split_ifs at stepped with idle
      cases stepped
      have empty : Good s.wd [] := idle.1 ▸ good
      have waiting : Good s.wd [.interrupt] := (good_cons_iff rfl).mpr empty
      left
      show Good s.wd [.timer s.interval false, .interrupt]
      exact (good_cons_iff rfl).mpr waiting
  | expire w =>
      left
      dsimp only at stepped
      split at stepped
      · split at stepped
        · rename_i fired wd passed
          split_ifs at stepped
          cases stepped
          exact good.expire passed
        · cases stepped
      · cases stepped
  | next =>
      left
      dsimp only at stepped
      split at stepped
      · rename_i ticks expiring rest top
        exact good.wdTimerStep top stepped
      · cases stepped

/-- The run calls `wd_start(w)`, from a state where the list and the calls agree, while an outer
`wd_start(w)` waits in its `sched_timer_cancel`. -/
def NestsStart (evs : List (TlEvent W)) : Prop :=
  ∃ pre w delay post t ticks, evs = pre ++ .start w delay :: post ∧ tlRun tlInit pre = some t ∧
    Good t.wd t.frames ∧ 0 ≤ delay ∧ Frame.start w ticks ∈ t.frames

/-- Over every run from boot the list and the calls agree, unless the run nests a `wd_start`
of a watchdog inside that watchdog's own `wd_start`. -/
theorem tlRun_good (evs : List (TlEvent W)) {s : TlState W} (ran : tlRun tlInit evs = some s) :
    Good s.wd s.frames ∨ NestsStart evs := by
  rcases Machine.run_invariant_escape (fun s : TlState W => Good s.wd s.frames)
      (fun t e => ∃ w delay ticks, e = .start w delay ∧ 0 ≤ delay ∧ Frame.start w ticks ∈ t.frames)
      (fun _ _ _ good stepped => good.step stepped) evs tlInit s good_tlInit ran with
    kept | ⟨pre, e, post, t, split, reached, held, w, delay, ticks, rfl, nonneg, mem⟩
  · exact .inl kept
  · exact .inr ⟨pre, w, delay, post, t, ticks, split, reached, held, nonneg, mem⟩

/-- The run of `tickless_nesting_fails` that cancels the head, stopped while `wd_cancel(1)` waits
in `sched_timer_reassess`. -/
theorem tlRun_good_cancel_head :
    ∃ s : TlState Nat,
      tlRun tlInit [.start 1 0, .next, .start 0 0, .next, .pass 1, .cancel 1] = some s ∧
      (Good s.wd s.frames ∨ NestsStart [.start 1 0, .next, .start 0 0, .next, .pass 1, .cancel 1]) :=
  ⟨_, rfl, tlRun_good _ rfl⟩

end Step

/-! ## The two failures -/

section Failures

variable [DecidableEq W] {s : TlState W}

/-- When the `wd_timer` of an outer `wd_start(w)`'s `sched_timer_cancel` has no ticks left, the
next step links `w` in, whatever the list holds: a `w` that a function started meanwhile is then
queued once more. -/
theorem next_links_twice {w : W} {ticks left : Int} {rest : List (Frame W)}
    (alive : s.panicked = false) (top : s.frames = .timer left false :: .start w ticks :: rest)
    (spent : left ≤ 0) :
    ∃ s', tlStep s .next = some s' ∧
      (s'.wd.activelist.map Prod.fst).count w = (s.wd.activelist.map Prod.fst).count w + 1 := by
  have returned : wdTimerStep s left false (.start w ticks :: rest) =
      some (tlReturn { s with frames := .start w ticks :: rest }) := by
    unfold WdogTickless.wdTimerStep
    simp only [Bool.false_eq_true, if_false]
    split
    · rw [if_neg (by omega)]
    · rfl
  refine ⟨_, by rw [tlStep, if_neg (by simp [alive]), top]; exact returned, ?_⟩
  simp only [tlReturn, wd_schedTimerStart]
  rw [(keys_wdLink s.wd w ticks).count_eq, List.count_cons_self]

/-- While `wd_cancel(w)` waits in `sched_timer_reassess`, a `wd_cancel(w)` or a `wd_start(w)`
from the function of a watchdog that expires there fails `ASSERT(curr)`: `w` is still marked
active but is off the list. -/
theorem cancel_in_reassess_panics (good : Good s.wd s.frames) {w : W} {resume : Option Int}
    (waits : Frame.cancel w resume ∈ s.frames) (alive : s.panicked = false)
    (callable : s.callable = true) :
    tlStep s (.cancel w) = some { s with panicked := true } ∧
      ∀ delay, 0 ≤ delay → delay ≤ intMax →
        tlStep s (.start w delay) = some { s with panicked := true } := by
  obtain ⟨act, off⟩ := good.cancelling w resume waits
  refine ⟨?_, fun delay nonneg fits => ?_⟩
  · rw [tlStep, if_neg (by simp [alive]), if_pos callable, wdCancel, if_pos act,
      wdCancelActive_of_not_mem off]
  · rw [tlStep, if_neg (by simp [alive]), if_pos ⟨callable, fits⟩, wdStart, if_neg (by omega),
      if_pos act, wdCancelActive_of_not_mem off]

/-- Two runs from boot with watchdogs `0` and `1`. In the first, `wd_start(0, 0)` arms `0` for
one tick; when the tick has passed, before the interrupt is taken, a task calls
`wd_start(1, 5)`, whose `sched_timer_cancel` runs `0`'s function, which calls
`wd_start(1, 2)`: `1` ends up queued twice. In the second, `1` and then `0` are armed for one
tick; when it has passed a task calls `wd_cancel(1)`, the head, whose `sched_timer_reassess`
runs `0`'s function, and its `wd_cancel(1)` fails `ASSERT(curr)`. -/
theorem tickless_nesting_fails :
    (tlRun tlInit [.start 0 0, .next, .pass 1, .start 1 5, .next, .expire 0, .start 1 2, .next,
        .next, .next]).map (fun s : TlState Nat => s.wd.activelist) = some [(1, 3), (1, 3)] ∧
      (tlRun tlInit [.start 1 0, .next, .start 0 0, .next, .pass 1, .cancel 1, .next, .expire 0,
        .cancel 1]).map (fun s : TlState Nat => s.panicked) = some true := by
  decide

end Failures

end TinyAra.Kernel.WdogTickless
