/-
# Kernel.Sched.Timeslice -- round-robin time slices

`sched_process_timeslice` (sched_processtimer.c), the round-robin part of `sched_unlock`, and
what `task_schedsetup` gives a new task (the round-robin flag and a whole slice), over the task
lists of `Kernel.Sched.Lists`. At each tick the running round-robin task's `timeslice` goes
down by one; at one or below, unless the task has preemption locked, it is given a whole slice
again and, when the task behind it has its priority, `up_reprioritize_rtr` puts it back behind
the other tasks of that priority.

* `timeslice_shortened_after_unblock`: `up_unblock_task` (armv7-r) does not give the task a
  whole slice again, so a task that blocked with one tick left has a turn of one tick when it
  comes back.
-/
import Mathlib.Data.List.Rotate
import TinyAra.Kernel.Sched.Merge

namespace TinyAra.Kernel.Sched

open DoublyLinked Machine

set_option autoImplicit false

def msecPerTick (usecPerTick : Nat) : Nat := usecPerTick / 1000

def usec2tick (usecPerTick usec : Nat) : Nat := (usec + usecPerTick / 2) / usecPerTick

/-- `MSEC2TICK(msec)`, which rounds, through `MSEC_PER_TICK` when a tick is a whole number of
milliseconds. -/
def msec2tick (usecPerTick msec : Nat) : Nat :=
  if msecPerTick usecPerTick * 1000 = usecPerTick then
    (msec + msecPerTick usecPerTick / 2) / msecPerTick usecPerTick
  else usec2tick usecPerTick (msec * 1000)

/-- The task lists with the TCB fields of round-robin scheduling. -/
structure RrState (T : Type) where
  sched : SchedState T
  /-- `tcb->flags & TCB_FLAG_ROUND_ROBIN`. -/
  roundRobin : T → Bool
  /-- `tcb->timeslice`. -/
  timeslice : T → Nat

namespace RrState

variable {T : Type} [DecidableEq T]

def setTimeslice (st : RrState T) (t : T) (n : Nat) : RrState T :=
  { st with timeslice := Function.update st.timeslice t n }

variable (st : RrState T) (t : T) (n : Nat)

@[simp] theorem sched_setTimeslice : (st.setTimeslice t n).sched = st.sched := rfl
@[simp] theorem roundRobin_setTimeslice : (st.setTimeslice t n).roundRobin = st.roundRobin := rfl
@[simp] theorem timeslice_setTimeslice (u : T) :
    (st.setTimeslice t n).timeslice u = if u = t then n else st.timeslice u :=
  Function.update_apply _ _ _ _

end RrState

section Calls

variable {T : Type} [DecidableEq T] [Fintype T]

/-- `sched_process_timeslice()`, `slice` being `MSEC2TICK(CONFIG_RR_INTERVAL)`; the flag says
whether `up_reprioritize_rtr` switched context. -/
def schedProcessTimeslice (slice : Nat) (st : RrState T) : Option (RrState T × Bool) := do
  let rtcb ← (st.sched.lists .readytorun).head
  if st.roundRobin rtcb then
    if st.timeslice rtcb ≤ 1 then
      -- the slice is frozen while the task has preemption locked
      if st.sched.lockcount rtcb = 0 then
        let st := st.setTimeslice rtcb slice
        match st.sched.links.flink rtcb with
        | some next =>
            if st.sched.schedPriority rtcb ≤ st.sched.schedPriority next then do
              -- back behind the other tasks of its priority
              let (sched, switched) ←
                upReprioritizeRtr rtcb (UInt8.ofNat (st.sched.schedPriority rtcb)) st.sched
              pure ({ st with sched }, switched)
            else pure (st, false)
        | none => pure (st, false)
      else pure (st, false)
    else pure (st.setTimeslice rtcb (st.timeslice rtcb - 1), false)
  else pure (st, false)

/-- `sched_unlock()` with round-robin scheduling (not tickless): when the lock count reaches
zero, a slice that ran out to zero while preemption was locked is given back in full if
releasing the pending tasks put another task at the head. -/
def schedUnlockRr (slice : Nat) (st : RrState T) : Option (RrState T × Bool) :=
  match (st.sched.lists .readytorun).head with
  | none => some (st, false)
  | some rtcb => do
      let (sched, switched) ← schedUnlock st.sched
      let st := { st with sched }
      if sched.lockcount rtcb = 0 ∧ st.roundRobin rtcb ∧ st.timeslice rtcb = 0 ∧
          (sched.lists .readytorun).head ≠ some rtcb then
        pure (st.setTimeslice rtcb slice, switched)
      else pure (st, switched)

/-- What `task_schedsetup` gives a new TCB before `task_activate`: its priority, the
round-robin flag and a whole slice, and a place at the head of `g_inactivetasks`. -/
def taskSchedsetup (slice : Nat) (tcb : T) (priority : Nat) (st : RrState T) : RrState T :=
  { sched := ((st.sched.setSchedPriority tcb priority).edit .inactivetasks (dqAddfirst tcb)).setTaskState
      tcb .taskInactive
    roundRobin := Function.update st.roundRobin tcb true
    timeslice := Function.update st.timeslice tcb slice }

end Calls

/-- The scheduler's events with round-robin scheduling: the calls of `Kernel.Sched.Lists`, the
setup of a new task, and a timer tick. -/
inductive RrEvent (T : Type)
  | call (e : Event T)
  | schedsetup (tcb : T) (priority : Nat)
  | tick
  deriving DecidableEq, Repr

variable {T : Type} [DecidableEq T] [Fintype T]

def rrStep (slice : Nat) (idle : T) (st : RrState T) : RrEvent T → Option (RrState T × Outcome)
  | .tick => (schedProcessTimeslice slice st).map fun r => (r.1, .switch r.2)
  | .call .unlock => (schedUnlockRr slice st).map fun r => (r.1, .switch r.2)
  | .call e => (schedStep idle st.sched e).map fun r => ({ st with sched := r.1 }, r.2)
  | .schedsetup tcb priority =>
      if st.sched.taskState tcb = .taskInvalid then some (taskSchedsetup slice tcb priority st, .done)
      else none

/-- `os_start`: no task but the idle task, which is not round-robin. -/
def rrStart (idle : T) : RrState T := ⟨osStart idle, fun _ => false, fun _ => 0⟩

def rrRun (slice : Nat) (idle : T) : List (RrEvent T) → Option (RrState T × List Outcome) :=
  runOut (rrStep slice idle) (rrStart idle)

/-! ## A turn cut short -/

/-- A slice of three ticks; tasks 1 and 2 round-robin at priority 100. Task 1 runs its slice; task 2
runs two ticks and blocks with one tick left; task 1 posts, and `up_unblock_task` puts task 2 back
behind it with that one tick. Of the next four ticks, the third ends task 1's turn and the fourth
already ends task 2's. -/
theorem timeslice_shortened_after_unblock :
    ∃ st st',
      rrRun (msec2tick 10000 30) (0 : Fin 3)
          [.schedsetup 1 100, .call (.unblockTask 1), .schedsetup 2 100, .call (.unblockTask 2),
            .tick, .tick, .tick, .tick, .tick, .call (.blockTask 2 .waitSem),
            .call (.unblockTask 2)] =
        some (st, [.done, .switch true, .done, .switch false, .switch false, .switch false,
          .switch true, .switch false, .switch false, .switch true, .switch false]) ∧
      Linked st.sched.links (st.sched.lists .readytorun) [1, 2, 0] ∧
      st.sched.schedPriority 1 = 100 ∧ st.sched.schedPriority 2 = 100 ∧
      st.roundRobin 1 = true ∧ st.roundRobin 2 = true ∧
      st.sched.lockcount 1 = 0 ∧ st.sched.lockcount 2 = 0 ∧
      st.timeslice 1 = msec2tick 10000 30 ∧ st.timeslice 2 = 1 ∧
      runOut (rrStep (msec2tick 10000 30) 0) st [.tick, .tick, .tick, .tick] =
        some (st', [.switch false, .switch false, .switch true, .switch true]) ∧
      (st'.sched.lists .readytorun).head = some 1 :=
  ⟨_, _, rfl, ⟨by decide, by decide, by decide, by decide⟩, by decide, by decide, by decide,
    by decide, by decide, by decide, by decide, by decide, rfl, by decide⟩

end TinyAra.Kernel.Sched
