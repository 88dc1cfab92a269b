/-
# Kernel.Cpuload -- CPU load accounting in the PID table

sched_cpuload.c (`sched_process_cpuload`, `clock_cpuload`) and the `CONFIG_SCHED_CPULOAD`
parts of `task_assignpid` (task_setup.c) and `sched_releasepid` (sched_releasetcb.c), over the
table of `Kernel.Pid`. Each slot of `g_pidhash` counts the ticks its task was running on
(`ticks`), and `g_cpuload_total` is meant to be their sum: a tick adds one to both, and when the
total passes `CONFIG_SCHED_CPULOAD_TIMECONSTANT * CPULOAD_TICKSPERSEC` every slot is halved and
the total recomputed; `sched_releasepid` takes a slot's ticks off the total and clears them; a
task that takes a slot starts it at 0.

`sched_releasepid` runs with interrupts and preemption enabled when it comes from
`task_terminate` (`task_delete`), so its last statement, the clearing of the slot, is a step of
its own (`releaseEnd`), and ticks can come before it.

* `schedProcessCpuload_within`: a tick that leaves the total within the time constant only
  counts itself, in its slot and in the total.
* `cpuload_total_drifts`: with the default configuration, a task deleted with two ticks while
  the total stands at the time constant, and three ticks of another task inside the release,
  leave the total one above the sum.
-/
import Mathlib.Algebra.BigOperators.Group.Finset.Piecewise
import Mathlib.Algebra.BigOperators.Ring.Finset
import Mathlib.Algebra.Order.BigOperators.Group.Finset
import TinyAra.Kernel.Pid

namespace TinyAra.Kernel.Cpuload

open Machine
open Pid (PidState PidCall pidHash schedGettcb Unlisted Good)

set_option autoImplicit false
set_option linter.dupNamespace false

def esrch : Int := 3

/-- `struct cpuload_s`. -/
structure Cpuload where
  total : Nat
  active : Nat
  deriving DecidableEq, Repr

/-- The PID table with the accumulators: `g_pidhash[i].ticks` and `g_cpuload_total`, and the
slot a `sched_releasepid` in progress has still to clear. -/
structure CpuloadState (T : Type) where
  pids : PidState T
  ticks : Nat → Nat
  total : Nat
  releasing : Option Nat

section Calls

variable (maxTasks : Nat) {T : Type} [DecidableEq T]

/-- The loop of `sched_process_cpuload` over the slots: `ticks >>= 1` and `total += ticks`. -/
def halveSlots (ticks : Nat → Nat) : (Nat → Nat) × Nat :=
  (List.range maxTasks).foldl
    (fun (acc : (Nat → Nat) × Nat) i =>
      let ticks := Function.update acc.1 i (acc.1 i >>> 1)
      (ticks, acc.2 + ticks i))
    (ticks, 0)

/-- `g_pidhash[hash_index].ticks++` and `++g_cpuload_total`. -/
def sampleTick (s : CpuloadState T) (hashIndex : Nat) : CpuloadState T :=
  { s with
    ticks := Function.update s.ticks hashIndex (s.ticks hashIndex + 1)
    total := s.total + 1 }

/-- `sched_process_cpuload()` with `rtcb` at the head of `g_readytorun`. -/
def schedProcessCpuload (timeconstant ticksPerSec : Nat) (s : CpuloadState T) (rtcb : T) :
    CpuloadState T :=
  let s := sampleTick s (pidHash maxTasks (s.pids.pid rtcb))
  if s.total > timeconstant * ticksPerSec then
    let (ticks, total) := halveSlots maxTasks s.ticks
    { s with ticks, total }
  else s

/-- `clock_cpuload(pid, &cpuload)`: `-ESRCH` unless the slot holds a TCB with that pid. -/
def clockCpuload (s : CpuloadState T) (pid : Int) : Except Int Cpuload :=
  let hashIndex := pidHash maxTasks pid
  if (s.pids.pidhash hashIndex).tcb ≠ none ∧ (s.pids.pidhash hashIndex).pid = pid then
    .ok ⟨s.total, s.ticks hashIndex⟩
  else .error (-esrch)

/-- `task_assignpid(tcb)`: the round of the loop that takes slot `PIDHASH(next_pid)` also sets
`tcb->pid = next_pid` and clears the slot's ticks. -/
def taskAssignpid (s : CpuloadState T) (tcb : T) : CpuloadState T × Int :=
  let (pids, ret) := Pid.taskAssignpid maxTasks s.pids tcb
  if ret = Pid.ok then
    ({ s with pids, ticks := Function.update s.ticks (pidHash maxTasks (pids.pid tcb)) 0 }, ret)
  else ({ s with pids }, ret)

/-- `sched_releasepid(pid)` up to `g_cpuload_total -= g_pidhash[hash_ndx].ticks`. -/
def schedReleasepid (s : CpuloadState T) (pid : Int) : CpuloadState T :=
  let hashNdx := pidHash maxTasks pid
  { s with
    pids := Pid.schedReleasepid maxTasks s.pids pid
    total := s.total - s.ticks hashNdx
    releasing := some hashNdx }

/-- The last statement of `sched_releasepid`: `g_pidhash[hash_ndx].ticks = 0`. -/
def releaseEnd (s : CpuloadState T) : CpuloadState T :=
  match s.releasing with
  | some hashNdx => { s with ticks := Function.update s.ticks hashNdx 0, releasing := none }
  | none => s

/-- What `sched_releasetcb(tcb)` does to the table: pid 0 means none was assigned. -/
def schedReleasetcb (s : CpuloadState T) (tcb : T) : CpuloadState T :=
  if s.pids.pid tcb ≠ 0 then schedReleasepid maxTasks s (s.pids.pid tcb) else s

end Calls

/-- What can happen: a task is created or deleted (the calls of `Kernel.Pid`), the release in
progress ends, a tick samples the running task, or `clock_cpuload` is called. -/
inductive CpuloadEvent (T : Type) where
  | assign (tcb : T)
  | release (tcb : T)
  | releaseEnd
  | tick (rtcb : T)
  | cpuload (pid : Int)

inductive CpuloadReply where
  | ret (value : Int)
  | done
  | load (result : Except Int Cpuload)
  deriving DecidableEq, Repr

section Steps

variable (maxTasks timeconstant ticksPerSec : Nat) {T : Type} [DecidableEq T]

/-- One event; the calls of the table as `Pid.pidStep` allows them, one release at a time, and
ticks while a live task runs. -/
def cpuloadStep (s : CpuloadState T) : CpuloadEvent T → Option (CpuloadState T × CpuloadReply)
  | .assign tcb =>
    if Unlisted maxTasks s.pids tcb then
      let r := taskAssignpid maxTasks
        { s with pids := { s.pids with pid := Function.update s.pids.pid tcb 0 } } tcb
      some (r.1, .ret r.2)
    else none
  | .release tcb =>
    if s.releasing = none ∧
        (s.pids.pid tcb = 0 ∨ schedGettcb maxTasks s.pids (s.pids.pid tcb) = some tcb) then
      some (schedReleasetcb maxTasks s tcb, .done)
    else none
  | .releaseEnd => if s.releasing ≠ none then some (releaseEnd s, .done) else none
  | .tick rtcb =>
    if schedGettcb maxTasks s.pids (s.pids.pid rtcb) = some rtcb then
      some (schedProcessCpuload maxTasks timeconstant ticksPerSec s rtcb, .done)
    else none
  | .cpuload pid => some (s, .load (clockCpuload maxTasks s pid))

/-- `os_start`: the table of `Kernel.Pid` and accumulators zeroed with the rest of `.bss`. -/
def CpuloadState.start (idle : T) : CpuloadState T :=
  ⟨PidState.start maxTasks idle, fun _ => 0, 0, none⟩

end Steps

section Invariant

variable (maxTasks timeconstant ticksPerSec : Nat) {T : Type} [DecidableEq T]

variable {maxTasks timeconstant ticksPerSec} {idle : T}
variable {s : CpuloadState T} {used : T → Nat}

omit [DecidableEq T] in
@[simp] theorem sampleTick_pids (s : CpuloadState T) (hashIndex : Nat) :
    (sampleTick s hashIndex).pids = s.pids := rfl

omit [DecidableEq T] in
@[simp] theorem sampleTick_releasing (s : CpuloadState T) (hashIndex : Nat) :
    (sampleTick s hashIndex).releasing = s.releasing := rfl

end Invariant

/-! ## Ticks inside a release -/

section Drift

variable {maxTasks timeconstant ticksPerSec : Nat} {T : Type} [DecidableEq T]

omit [DecidableEq T] in
theorem schedProcessCpuload_within {s : CpuloadState T} {rtcb : T}
    (within : s.total + 1 ≤ timeconstant * ticksPerSec) :
    schedProcessCpuload maxTasks timeconstant ticksPerSec s rtcb =
      sampleTick s (pidHash maxTasks (s.pids.pid rtcb)) := by
  unfold schedProcessCpuload
  dsimp only
  rw [if_neg (by simp only [sampleTick]; omega)]

/-- `k` ticks of a live task that keep the total within the time constant add `k` to its slot
and to the total, whether or not a release is under way. -/
theorem ticks_within (rtcb : T) : ∀ (k : Nat) (s : CpuloadState T),
    schedGettcb maxTasks s.pids (s.pids.pid rtcb) = some rtcb →
    s.total + k ≤ timeconstant * ticksPerSec →
    runOut (cpuloadStep maxTasks timeconstant ticksPerSec) s (List.replicate k (.tick rtcb)) =
      some ({ s with
          ticks := Function.update s.ticks (pidHash maxTasks (s.pids.pid rtcb))
            (s.ticks (pidHash maxTasks (s.pids.pid rtcb)) + k)
          total := s.total + k },
        List.replicate k .done)
  | 0, s, _, _ => by simp
  | k + 1, s, live, within => by
    have stepped : cpuloadStep maxTasks timeconstant ticksPerSec s (.tick rtcb) =
        some (sampleTick s (pidHash maxTasks (s.pids.pid rtcb)), .done) := by
      rw [cpuloadStep, if_pos live, schedProcessCpuload_within (by omega)]
    have rest := ticks_within rtcb k (sampleTick s (pidHash maxTasks (s.pids.pid rtcb)))
      (by rwa [sampleTick_pids]) (by simp only [sampleTick]; omega)
    rw [List.replicate_succ, runOut, stepped, Option.bind_some]
    dsimp only
    rw [rest, Option.map_some]
    simp only [sampleTick, Function.update_idem, Function.update_self, List.replicate_succ,
      Nat.add_assoc, Nat.add_comm 1 k]

/-- Default configuration, idle task 0: task 1 runs two ticks and task 2 198, so the total stands at
the time constant; task 2 deletes task 1 and task 3 preempts the release for three ticks. The
release takes task 1's ticks off the total, the halving at the time constant counts one of them
again, and the end of the release clears it: the total is 101 where the slots sum to 100. -/
theorem cpuload_total_drifts :
    ∃ s₁ s₂ s₃,
      runOut (cpuloadStep 32 2 100) (CpuloadState.start 32 0)
          [.assign 1, .assign 2, .assign 3, .tick 1, .tick 1] =
        some (s₁, [.ret Pid.ok, .ret Pid.ok, .ret Pid.ok, .done, .done]) ∧
      runOut (cpuloadStep 32 2 100) s₁ (List.replicate 198 (.tick 2)) =
        some (s₂, List.replicate 198 .done) ∧
      runOut (cpuloadStep 32 2 100) s₂ [.release 1, .tick 3, .tick 3, .tick 3, .releaseEnd] =
        some (s₃, [.done, .done, .done, .done, .done]) ∧
      s₃.releasing = none ∧ s₃.total = 101 ∧ ∑ i ∈ Finset.range 32, s₃.ticks i = 100 :=
  -- task 2's ticks stay within the time constant; the third tick inside the release passes it
  ⟨_, _, _, rfl, ticks_within 2 198 _ (by decide) (by decide), rfl, rfl, rfl, by decide⟩

end Drift

end TinyAra.Kernel.Cpuload
