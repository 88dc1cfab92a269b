/-
# Kernel.Semaphore.Sem -- counting semaphores: waits, posts and cancelled waits

sem_wait.c, sem_trywait.c, sem_post.c and sem_waitirq.c over the state of
`Kernel.Semaphore.Holder`. A task that finds no count still decrements
`semcount`, names the semaphore in its `waitsem` and blocks in the prioritized
list `g_waitingforsemaphore` (`up_block_task` with `TSTATE_WAIT_SEM`); `sem_post`
increments the count and, when it is still not positive, hands it to the first
task of that list that waits on the semaphore; `sem_waitirq` ends a wait on a
signal or a timeout and gives its count back.  `pi` is
`CONFIG_PRIORITY_INHERITANCE`, under which the calls also keep the holders and
the priorities of `Holder`. Each event is one call, made in one critical
section; `semStep` refuses a call from a task that is blocked, which cannot run.

* `Good`: a task names a semaphore in `waitsem` exactly when it is on
  `g_waitingforsemaphore`, where it appears once, and the tasks waiting on a
  semaphore number `max 0 (-semcount)`;
* `SemState.balance`: `semcount` plus the waiting tasks moves up by one for each
  post and down by one for each count handed out;
* `SemSpec`: a semaphore of counts that queues its waiters in the order they came
  and gives a posted count to the earliest of the highest priority. Without
  `pi` the code refines it (`Refines`).

`semRun_spec` puts these together over every run from boot. With `pi` the tie
order is not kept: a waiter whose priority is raised by the holder bookkeeping
of another semaphore and then brought back is put behind the waiters of its
priority that came after it (`semRun_pi_wakes_later_waiter`).  `semRun_boost_overflows`
runs `sem_boostholderprio` past `CONFIG_SEM_NNESTPRIO`.
-/
import Mathlib.Algebra.BigOperators.Ring.Finset
import TinyAra.Kernel.Semaphore.Holder
import TinyAra.Lib.Machine

namespace TinyAra.Kernel.Semaphore

open TinyAra.Kernel.TaskList PriorityList

set_option autoImplicit false

def semValueMax : Int := 32767

/-- What a call gives back: a count taken (`OK` of `sem_wait` and `sem_trywait`), a wait
begun, `EAGAIN` of `sem_trywait`, or the task a post handed its count to. -/
inductive Reply (T : Type) where
  | ok
  | blocked
  | eagain
  | posted (stcb : Option T)
deriving DecidableEq, Repr

namespace SemState

variable {S T H : Type} [DecidableEq S] [DecidableEq T] [DecidableEq H]

def setSemcount (st : SemState S T H) (sem : S) (c : Int) : SemState S T H :=
  st.setSem sem { st.sems sem with semcount := c }

def setWaitsem (st : SemState S T H) (t : T) (w : Option S) : SemState S T H :=
  st.setTcb t { st.tcbs t with waitsem := w }

/-- The tasks of `g_waitingforsemaphore` that wait on `sem`, in the list's order. -/
def waiters (st : SemState S T H) (sem : S) : List T :=
  st.waitingforsemaphore.filter fun t => (st.tcbs t).waitsem = some sem

/-- The loop of `sem_post` that looks for the first task waiting on `sem`. -/
def firstWaiter (st : SemState S T H) (sem : S) : Option T :=
  st.waitingforsemaphore.find? fun t => (st.tcbs t).waitsem = some sem

omit [DecidableEq T] [DecidableEq H] in
@[simp] theorem semcount_setSemcount (st : SemState S T H) (sem s : S) (c : Int) :
    ((st.setSemcount sem c).sems s).semcount = if s = sem then c else (st.sems s).semcount := by
  by_cases same : s = sem
  · subst same
    simp [setSemcount, setSem]
  · simp [setSemcount, setSem, same]

omit [DecidableEq T] [DecidableEq H] in
@[simp] theorem tcbs_setSemcount (st : SemState S T H) (sem : S) (c : Int) :
    (st.setSemcount sem c).tcbs = st.tcbs := rfl

omit [DecidableEq T] [DecidableEq H] in
@[simp] theorem waitingforsemaphore_setSemcount (st : SemState S T H) (sem : S) (c : Int) :
    (st.setSemcount sem c).waitingforsemaphore = st.waitingforsemaphore := rfl

omit [DecidableEq S] [DecidableEq H] in
@[simp] theorem waitsem_setWaitsem (st : SemState S T H) (t u : T) (w : Option S) :
    ((st.setWaitsem t w).tcbs u).waitsem = if u = t then w else (st.tcbs u).waitsem := by
  by_cases same : u = t
  · subst same
    simp [setWaitsem, setTcb]
  · simp [setWaitsem, setTcb, same]

omit [DecidableEq S] [DecidableEq H] in
@[simp] theorem priority_setWaitsem (st : SemState S T H) (t : T) (w : Option S) :
    (st.setWaitsem t w).priority = st.priority := by
  funext u
  by_cases same : u = t
  · subst same
    simp [setWaitsem, setTcb, priority]
  · simp [setWaitsem, setTcb, priority, same]

omit [DecidableEq S] [DecidableEq H] in
@[simp] theorem sems_setWaitsem (st : SemState S T H) (t : T) (w : Option S) :
    (st.setWaitsem t w).sems = st.sems := rfl

omit [DecidableEq S] [DecidableEq H] in
@[simp] theorem waitingforsemaphore_setWaitsem (st : SemState S T H) (t : T) (w : Option S) :
    (st.setWaitsem t w).waitingforsemaphore = st.waitingforsemaphore := rfl

omit [DecidableEq T] [DecidableEq H] in
@[simp] theorem priority_setSemcount (st : SemState S T H) (sem : S) (c : Int) :
    (st.setSemcount sem c).priority = st.priority := rfl

omit [DecidableEq T] [DecidableEq H] in
theorem firstWaiter_eq_head? (st : SemState S T H) (sem : S) :
    st.firstWaiter sem = (st.waiters sem).head? :=
  List.head?_filter.symm

end SemState

/-! ## The calls -/

section Calls

variable {S T H : Type} [DecidableEq S] [DecidableEq T] [DecidableEq H]
  (pi : Bool) (nnestprio : Nat) (verify : T → Bool)

/-- `up_block_task(rtcb, TSTATE_WAIT_SEM)` on the lists modelled: the task goes into
`g_waitingforsemaphore` at its priority (`sched_addblocked`). -/
def upBlockTask (st : SemState S T H) (rtcb : T) : SemState S T H :=
  { st with waitingforsemaphore := schedAddprioritized st.priority rtcb st.waitingforsemaphore }

/-- `up_unblock_task(tcb)` on the lists modelled: the task leaves `g_waitingforsemaphore`
(`sched_removeblocked`); the ready-to-run list is not modelled. -/
def upUnblockTask (st : SemState S T H) (tcb : T) : SemState S T H :=
  { st with waitingforsemaphore := st.waitingforsemaphore.erase tcb }

/-- `sem_wait(sem)` by the running task `rtcb`, up to where it blocks; `none` is the failed
`ASSERT(rtcb->waitsem == NULL)`. A blocked task's return, later, changes nothing here. -/
def semWait (st : SemState S T H) (rtcb : T) (sem : S) : Option (SemState S T H × Reply T) :=
  if (st.sems sem).semcount > 0 then
    let st := st.setSemcount sem ((st.sems sem).semcount - 1)
    let st := if pi then semAddholder st rtcb sem else st
    some (st.setWaitsem rtcb none, .ok)
  else if (st.tcbs rtcb).waitsem ≠ none then none
  else
    let st := st.setSemcount sem ((st.sems sem).semcount - 1)
    let st := st.setWaitsem rtcb (some sem)
    let st := if pi then semBoostpriority nnestprio verify st rtcb sem else st
    some (upBlockTask st rtcb, .blocked)

/-- `sem_wait_for_isr(sem)`: `sem_wait` without the priority inheritance. -/
def semWaitForIsr (st : SemState S T H) (rtcb : T) (sem : S) :
    Option (SemState S T H × Reply T) :=
  semWait false nnestprio verify st rtcb sem

def semTrywait (st : SemState S T H) (rtcb : T) (sem : S) : SemState S T H × Reply T :=
  if (st.sems sem).semcount > 0 then
    let st := st.setSemcount sem ((st.sems sem).semcount - 1)
    let st := if pi then semAddholder st rtcb sem else st
    (st.setWaitsem rtcb none, .ok)
  else (st, .eagain)

/-- `sem_post(sem)`, from the running task `rtcb` or from an interrupt handler (`isr`) that
interrupted it; `none` is the failed `ASSERT(sem->semcount < SEM_VALUE_MAX)`. -/
def semPost (st : SemState S T H) (isr : Bool) (rtcb : T) (sem : S) :
    Option (SemState S T H × Reply T) :=
  if (st.sems sem).semcount ≥ semValueMax then none
  else
    let st := if pi then semReleaseholder st rtcb sem else st
    let st := st.setSemcount sem ((st.sems sem).semcount + 1)
    let stcb := if (st.sems sem).semcount ≤ 0 then st.firstWaiter sem else none
    let st :=
      match stcb with
      | some stcb =>
          let st := if pi then semAddholderTcb st stcb sem else st
          upUnblockTask (st.setWaitsem stcb none) stcb
      | none => st
    let st := if pi then semRestorebaseprio verify st isr rtcb stcb sem else st
    some (st, .posted stcb)

/-- `sem_post_from_isr(sem)`: `sem_post` without the priority inheritance. -/
def semPostFromIsr (st : SemState S T H) (rtcb : T) (sem : S) :
    Option (SemState S T H × Reply T) :=
  semPost false verify st true rtcb sem

/-- `sem_waitirq(wtcb, errcode)`: a wait given up on a signal or a timeout; `none` is the
failed `DEBUGASSERT(sem != NULL && sem->semcount < 0)`. -/
def semWaitirq (st : SemState S T H) (wtcb : T) : Option (SemState S T H × Reply T) :=
  if wtcb ∈ st.waitingforsemaphore then
    match (st.tcbs wtcb).waitsem with
    | some sem =>
        if (st.sems sem).semcount < 0 then
          let st := if pi then semCanceled verify st wtcb sem else st
          let st := st.setSemcount sem ((st.sems sem).semcount + 1)
          some (upUnblockTask (st.setWaitsem wtcb none) wtcb, .ok)
        else none
    | none => none
  else some (st, .ok)

/-- The calls, each with the running task `rtcb` where the code reads `g_readytorun.head`. -/
inductive Event (S T : Type) where
  | wait (rtcb : T) (sem : S)
  | waitForIsr (rtcb : T) (sem : S)
  | trywait (rtcb : T) (sem : S)
  | post (isr : Bool) (rtcb : T) (sem : S)
  | postFromIsr (rtcb : T) (sem : S)
  | waitirq (wtcb : T)
deriving DecidableEq, Repr

/-- The task that runs while the call is made, or is interrupted by it. -/
def Event.running : Event S T → Option T
  | .wait rtcb _ | .waitForIsr rtcb _ | .trywait rtcb _ | .post _ rtcb _ | .postFromIsr rtcb _ =>
      some rtcb
  | .waitirq _ => none

def semCall (st : SemState S T H) : Event S T → Option (SemState S T H × Reply T)
  | .wait rtcb sem => semWait pi nnestprio verify st rtcb sem
  | .waitForIsr rtcb sem => semWaitForIsr nnestprio verify st rtcb sem
  | .trywait rtcb sem => some (semTrywait pi st rtcb sem)
  | .post isr rtcb sem => semPost pi verify st isr rtcb sem
  | .postFromIsr rtcb sem => semPostFromIsr verify st rtcb sem
  | .waitirq wtcb => semWaitirq pi verify st wtcb

/-- One call; a blocked task does not run, so it makes no call. -/
def semStep (st : SemState S T H) (e : Event S T) : Option (SemState S T H × Reply T) :=
  if e.running.all fun rtcb => rtcb ∉ st.waitingforsemaphore then semCall pi nnestprio verify st e
  else none

def semRun (st : SemState S T H) (evs : List (Event S T)) :
    Option (SemState S T H × List (Reply T)) :=
  Machine.runOut (semStep pi nnestprio verify) st evs

end Calls

/-! ## What the calls do to the waits -/

section Waits

variable {S T H : Type} [DecidableEq S] [DecidableEq T] [DecidableEq H]
variable {st st' : SemState S T H}

omit [DecidableEq S] [DecidableEq T] [DecidableEq H] in
@[simp] theorem tcbs_upBlockTask (st : SemState S T H) (rtcb : T) :
    (upBlockTask st rtcb).tcbs = st.tcbs := rfl

omit [DecidableEq S] [DecidableEq T] [DecidableEq H] in
@[simp] theorem sems_upBlockTask (st : SemState S T H) (rtcb : T) :
    (upBlockTask st rtcb).sems = st.sems := rfl

omit [DecidableEq S] [DecidableEq H] in
@[simp] theorem tcbs_upUnblockTask (st : SemState S T H) (tcb : T) :
    (upUnblockTask st tcb).tcbs = st.tcbs := rfl

omit [DecidableEq S] [DecidableEq H] in
@[simp] theorem sems_upUnblockTask (st : SemState S T H) (tcb : T) :
    (upUnblockTask st tcb).sems = st.sems := rfl

omit [DecidableEq T] [DecidableEq H] in
@[simp] theorem mem_waiters {st : SemState S T H} {sem : S} {t : T} :
    t ∈ st.waiters sem ↔ t ∈ st.waitingforsemaphore ∧ (st.tcbs t).waitsem = some sem := by
  simp [SemState.waiters]

omit [DecidableEq T] [DecidableEq H] in
@[simp] theorem waiters_setSemcount (st : SemState S T H) (sem s : S) (c : Int) :
    (st.setSemcount sem c).waiters s = st.waiters s := rfl

omit [DecidableEq H] in
theorem waiters_setWaitsem_of_not_mem {t : T}
    (out : t ∉ st.waitingforsemaphore) (w : Option S) (s : S) :
    (st.setWaitsem t w).waiters s = st.waiters s := by
  unfold SemState.waiters
  refine List.filter_congr fun u mem => ?_
  rw [SemState.waitsem_setWaitsem, if_neg (show u ≠ t from fun eq => out (eq ▸ mem))]

omit [DecidableEq T] [DecidableEq H] in
theorem length_waiters_upBlockTask (st : SemState S T H) (rtcb : T) (s : S) :
    ((upBlockTask st rtcb).waiters s).length =
      (st.waiters s).length + if (st.tcbs rtcb).waitsem = some s then 1 else 0 := by
  by_cases waits : (st.tcbs rtcb).waitsem = some s <;>
    simp [SemState.waiters, upBlockTask, ← List.countP_eq_length_filter,
      countP_schedAddprioritized, waits] <;> rfl

omit [DecidableEq T] [DecidableEq H] in
/-- Into a list sorted by priority, a blocked task goes into its semaphore's waiters as it
goes into the whole list. -/
theorem waiters_upBlockTask (st : SemState S T H) (rtcb : T)
    (sorted : st.waitingforsemaphore.Pairwise fun x y => st.priority y ≤ st.priority x) (s : S) :
    (upBlockTask st rtcb).waiters s =
      if (st.tcbs rtcb).waitsem = some s then (st.waiters s).orderedInsert (Above st.priority) rtcb
      else st.waiters s := by
  by_cases waits : (st.tcbs rtcb).waitsem = some s <;>
    simp [SemState.waiters, upBlockTask, schedAddprioritized,
      filter_orderedInsert_of_sorted _ _ _ sorted, waits] <;> rfl

omit [DecidableEq H] in
theorem waiters_unblock (nodup : st.waitingforsemaphore.Nodup) (w : T)
    (s : S) : (upUnblockTask (st.setWaitsem w none) w).waiters s = (st.waiters s).erase w := by
  unfold SemState.waiters
  rw [List.erase_filter]
  refine List.filter_congr fun u mem => ?_
  have ne : u ≠ w := ((nodup.mem_erase_iff).mp mem).1
  simp [ne]

omit [DecidableEq S] [DecidableEq T] [DecidableEq H] in
theorem sameWaits_ite (pi : Bool) (same : SameWaits st st') :
    SameWaits st (if pi then st' else st) := by
  cases pi
  · exact SameWaits.refl st
  · exact same

omit [DecidableEq T] [DecidableEq H] in
theorem SameWaits.waiters_perm (same : SameWaits st st') (s : S) :
    (st'.waiters s).Perm (st.waiters s) := by
  unfold SemState.waiters
  have tests : (fun t => decide ((st'.tcbs t).waitsem = some s)) =
      fun t => decide ((st.tcbs t).waitsem = some s) := funext fun t => by rw [same.1 t]
  rw [tests]
  exact same.2.1.filter _

omit [DecidableEq T] [DecidableEq H] in
theorem SameWaits.setSemcount (same : SameWaits st st') (sem : S)
    (c : Int) : SameWaits (st.setSemcount sem c) (st'.setSemcount sem c) := by
  refine ⟨same.1, same.2.1, fun s => ?_⟩
  simp only [SemState.semcount_setSemcount]
  split_ifs
  · rfl
  · exact same.2.2 s

omit [DecidableEq S] [DecidableEq H] in
theorem SameWaits.setWaitsem (same : SameWaits st st') (t : T)
    (w : Option S) : SameWaits (st.setWaitsem t w) (st'.setWaitsem t w) := by
  refine ⟨fun u => ?_, same.2.1, same.2.2⟩
  simp only [SemState.waitsem_setWaitsem]
  split_ifs
  · rfl
  · exact same.1 u

omit [DecidableEq S] [DecidableEq T] [DecidableEq H] in
theorem SameWaits.upBlockTask (same : SameWaits st st') (rtcb : T) :
    SameWaits (upBlockTask st rtcb) (upBlockTask st' rtcb) :=
  ⟨same.1, (schedAddprioritized_perm _ rtcb _).trans
    ((same.2.1.cons rtcb).trans (schedAddprioritized_perm _ rtcb _).symm), same.2.2⟩

omit [DecidableEq S] [DecidableEq H] in
theorem SameWaits.upUnblockTask (same : SameWaits st st') (tcb : T) :
    SameWaits (upUnblockTask st tcb) (upUnblockTask st' tcb) :=
  ⟨same.1, same.2.1.erase tcb, same.2.2⟩

end Waits

/-! ## The waiting tasks and the counts -/

section Counts

variable {S T H : Type} [DecidableEq S] [DecidableEq T] [DecidableEq H]
variable {st : SemState S T H} {sem : S}

/-- A task waits on a semaphore exactly when it is on `g_waitingforsemaphore`
(`TSTATE_WAIT_SEM`), where it appears once, and a semaphore's count is minus the number
of its waiters when it is negative. -/
structure Good (st : SemState S T H) : Prop where
  nodup : st.waitingforsemaphore.Nodup
  waiting : ∀ t, (st.tcbs t).waitsem.isSome ↔ t ∈ st.waitingforsemaphore
  counted : ∀ sem, ((st.waiters sem).length : Int) = max 0 (-(st.sems sem).semcount)

/-- The count and the waiters of a semaphore together: what the posts gave and the counts
handed out did not take. -/
def SemState.balance (st : SemState S T H) (sem : S) : Int :=
  (st.sems sem).semcount + (st.waiters sem).length

omit [DecidableEq T] [DecidableEq H] in
theorem Good.balance_eq (h : Good st) (sem : S) :
    st.balance sem = max (st.sems sem).semcount 0 := by
  have := h.counted sem
  unfold SemState.balance
  omega

omit [DecidableEq T] [DecidableEq H] in
theorem Good.sameWaits {st' : SemState S T H} (h : Good st) (same : SameWaits st st') :
    Good st' where
  nodup := same.2.1.nodup_iff.mpr h.nodup
  waiting t := by rw [same.1 t, same.2.1.mem_iff]; exact h.waiting t
  counted sem := by rw [(same.waiters_perm sem).length_eq, same.2.2 sem]; exact h.counted sem

omit [DecidableEq T] [DecidableEq H] in
theorem SameWaits.balance {st' : SemState S T H} (same : SameWaits st st') (sem : S) :
    st'.balance sem = st.balance sem := by
  unfold SemState.balance
  rw [(same.waiters_perm sem).length_eq, same.2.2 sem]

omit [DecidableEq T] [DecidableEq H] in
theorem Good.not_mem (h : Good st) {t : T}
    (out : t ∉ st.waitingforsemaphore) : (st.tcbs t).waitsem = none := by
  have := (h.waiting t).not.mpr out
  simpa using this

omit [DecidableEq H] in
theorem Good.take (h : Good st) {rtcb : T}
    (free : rtcb ∉ st.waitingforsemaphore) (pos : 0 < (st.sems sem).semcount) :
    let st' := (st.setSemcount sem ((st.sems sem).semcount - 1)).setWaitsem rtcb none
    Good st' ∧ ∀ s, st'.balance s + (if s = sem then 1 else 0) = st.balance s := by
  intro st'
  have waiters : ∀ s, st'.waiters s = st.waiters s := fun s =>
    waiters_setWaitsem_of_not_mem free none s
  have count : ∀ s, (st'.sems s).semcount =
      if s = sem then (st.sems sem).semcount - 1 else (st.sems s).semcount := fun s => by simp [st']
  refine ⟨⟨h.nodup, fun t => ?_, fun s => ?_⟩, fun s => ?_⟩
  · by_cases same : t = rtcb
    · subst same
      simp [st', free]
    · simpa [st', same] using h.waiting t
  · have := h.counted s
    rw [waiters s, count s]
    split_ifs with same
    · subst same
      omega
    · exact this
  · have := h.counted s
    unfold SemState.balance
    rw [waiters s, count s]
    split_ifs with same
    · subst same
      omega
    · omega

omit [DecidableEq H] in
/-- A task that finds no count blocks on the semaphore. -/
theorem Good.block (h : Good st) {rtcb : T}
    (free : rtcb ∉ st.waitingforsemaphore) (nonpos : (st.sems sem).semcount ≤ 0) :
    let st' := upBlockTask ((st.setSemcount sem ((st.sems sem).semcount - 1)).setWaitsem rtcb
      (some sem)) rtcb
    Good st' ∧ ∀ s, st'.balance s = st.balance s := by
  intro st'
  have free' : rtcb ∉ (st.setSemcount sem ((st.sems sem).semcount - 1)).waitingforsemaphore := free
  have waiters : ∀ s, ((st'.waiters s).length : Int) =
      (st.waiters s).length + if s = sem then 1 else 0 := by
    intro s
    rw [length_waiters_upBlockTask, waiters_setWaitsem_of_not_mem free', waiters_setSemcount,
      SemState.waitsem_setWaitsem, if_pos rfl]
    by_cases same : s = sem
    · subst same
      simp
    · simp [same, Ne.symm same]
  have count : ∀ s, (st'.sems s).semcount =
      if s = sem then (st.sems sem).semcount - 1 else (st.sems s).semcount := fun s => by simp [st']
  refine ⟨⟨nodup_schedAddprioritized _ free h.nodup, fun t => ?_, fun s => ?_⟩, fun s => ?_⟩
  · by_cases same : t = rtcb
    · subst same
      simp [st', upBlockTask]
    · simpa [st', upBlockTask, same] using h.waiting t
  · have := h.counted s
    rw [waiters s, count s]
    split_ifs with same
    · subst same
      omega
    · simpa using this
  · have := waiters s
    unfold SemState.balance
    rw [count s]
    split_ifs at this ⊢ with same
    · subst same
      omega
    · omega

omit [DecidableEq T] [DecidableEq H] in
/-- A post that finds no waiter: the count was not negative. -/
theorem Good.give (h : Good st)
    (nonneg : 0 ≤ (st.sems sem).semcount) :
    let st' := st.setSemcount sem ((st.sems sem).semcount + 1)
    Good st' ∧ ∀ s, st'.balance s = st.balance s + if s = sem then 1 else 0 := by
  intro st'
  have count : ∀ s, (st'.sems s).semcount =
      if s = sem then (st.sems sem).semcount + 1 else (st.sems s).semcount := fun s => by simp [st']
  refine ⟨⟨h.nodup, h.waiting, fun s => ?_⟩, fun s => ?_⟩
  · have := h.counted s
    rw [waiters_setSemcount, count s]
    split_ifs with same
    · subst same
      omega
    · exact this
  · unfold SemState.balance
    rw [waiters_setSemcount, count s]
    split_ifs with same
    · subst same
      omega
    · omega

omit [DecidableEq H] in
/-- A waiter of `sem` leaves the list with a count: a post hands it one, or a cancelled
wait gives its own back. -/
theorem Good.wake (h : Good st) {w : T}
    (mem : w ∈ st.waitingforsemaphore) (waits : (st.tcbs w).waitsem = some sem) :
    let st' := upUnblockTask ((st.setSemcount sem ((st.sems sem).semcount + 1)).setWaitsem w
      none) w
    Good st' ∧ ∀ s, st'.balance s = st.balance s := by
  intro st'
  have nodup : (st.setSemcount sem ((st.sems sem).semcount + 1)).waitingforsemaphore.Nodup :=
    h.nodup
  -- `w` was one of the waiters of `sem` and of no other semaphore
  have waiters : ∀ s, ((st'.waiters s).length : Int) + (if s = sem then 1 else 0) =
      (st.waiters s).length := by
    intro s
    rw [waiters_unblock nodup, waiters_setSemcount, List.length_erase]
    by_cases same : s = sem
    · subst same
      have held : w ∈ st.waiters s := mem_waiters.mpr ⟨mem, waits⟩
      have := List.length_pos_of_mem held
      rw [if_pos held, if_pos rfl]
      omega
    · have out : w ∉ st.waiters s := fun held =>
        same (Option.some.inj ((mem_waiters.mp held).2.symm.trans waits))
      rw [if_neg out, if_neg same]
      simp
  have count : ∀ s, (st'.sems s).semcount =
      if s = sem then (st.sems sem).semcount + 1 else (st.sems s).semcount := fun s => by simp [st']
  refine ⟨⟨h.nodup.erase w, fun t => ?_, fun s => ?_⟩, fun s => ?_⟩
  · by_cases same : t = w
    · subst same
      simp [st', upUnblockTask, h.nodup.mem_erase_iff]
    · simpa [st', upUnblockTask, h.nodup.mem_erase_iff, same] using h.waiting t
  · have := h.counted s
    have := waiters s
    rw [count s]
    split_ifs at * with same
    · subst same
      have := List.length_pos_of_mem (mem_waiters.mpr ⟨mem, waits⟩)
      omega
    · omega
  · have := waiters s
    unfold SemState.balance
    rw [count s]
    split_ifs at this ⊢ with same
    · subst same
      omega
    · omega

end Counts

/-! ## What each call does -/

section Steps

variable {S T H : Type} [DecidableEq S] [DecidableEq T] [DecidableEq H]
  {pi : Bool} {nnestprio : Nat} {verify : T → Bool}

variable {st st' : SemState S T H} {r : Reply T} {rtcb : T} {sem : S}

/-- The posts a call makes on `s`. -/
def Event.posts (s : S) : Event S T → Nat
  | .post _ _ sem | .postFromIsr _ sem => if s = sem then 1 else 0
  | _ => 0

/-- The counts of `s` a call hands out: one taken at once, or one a post gives a waiter. -/
def Event.acquires (s : S) : Event S T → Reply T → Nat
  | .wait _ sem, r | .waitForIsr _ sem, r | .trywait _ sem, r => if s = sem ∧ r = .ok then 1 else 0
  | .post _ _ sem, r | .postFromIsr _ sem, r => if s = sem ∧ r ≠ .posted none then 1 else 0
  | .waitirq _, _ => 0

/-- A call from `st` to `st'` answering `r` keeps the invariant, and moves the balance of
every semaphore up by its posts and down by the counts it hands out. -/
def Keeps (e : Event S T) (st st' : SemState S T H) (r : Reply T) : Prop :=
  Good st' ∧ ∀ s, st'.balance s + e.acquires s r = st.balance s + e.posts s

omit [DecidableEq H] in
theorem Keeps.sameWaits {e : Event S T} {st₁ st₂ : SemState S T H}
    (keeps : Keeps e st st₁ r) (same : SameWaits st₁ st₂) : Keeps e st st₂ r :=
  ⟨keeps.1.sameWaits same, fun s => by rw [same.balance]; exact keeps.2 s⟩

theorem semWait_cases
    (called : semWait pi nnestprio verify st rtcb sem = some (st', r)) :
    (0 < (st.sems sem).semcount ∧ r = .ok ∧
      st' = (if pi then semAddholder (st.setSemcount sem ((st.sems sem).semcount - 1)) rtcb sem
        else st.setSemcount sem ((st.sems sem).semcount - 1)).setWaitsem rtcb none) ∨
    ((st.sems sem).semcount ≤ 0 ∧ (st.tcbs rtcb).waitsem = none ∧ r = .blocked ∧
      st' = upBlockTask (if pi then semBoostpriority nnestprio verify
          ((st.setSemcount sem ((st.sems sem).semcount - 1)).setWaitsem rtcb (some sem)) rtcb sem
        else (st.setSemcount sem ((st.sems sem).semcount - 1)).setWaitsem rtcb (some sem)) rtcb) := by
  unfold semWait at called
  by_cases pos : (st.sems sem).semcount > 0
  · rw [if_pos pos] at called
    simp only [Option.some.injEq, Prod.mk.injEq] at called
    exact .inl ⟨pos, called.2.symm, called.1.symm⟩
  · rw [if_neg pos] at called
    by_cases asserted : (st.tcbs rtcb).waitsem ≠ none
    · rw [if_pos asserted] at called
      contradiction
    · rw [if_neg asserted] at called
      simp only [Option.some.injEq, Prod.mk.injEq] at called
      exact .inr ⟨not_lt.mp pos, not_not.mp asserted, called.2.symm, called.1.symm⟩

theorem semWaitirq_cases {wtcb : T}
    (called : semWaitirq pi verify st wtcb = some (st', r)) :
    (wtcb ∉ st.waitingforsemaphore ∧ r = .ok ∧ st' = st) ∨
    ∃ sem, wtcb ∈ st.waitingforsemaphore ∧ (st.tcbs wtcb).waitsem = some sem ∧
      (st.sems sem).semcount < 0 ∧ r = .ok ∧
      st' = upUnblockTask (((if pi then semCanceled verify st wtcb sem else st).setSemcount sem
        (((if pi then semCanceled verify st wtcb sem else st).sems sem).semcount + 1)).setWaitsem
          wtcb none) wtcb := by
  unfold semWaitirq at called
  by_cases waiting : wtcb ∈ st.waitingforsemaphore
  · rw [if_pos waiting] at called
    split at called
    · rename_i sem waits
      by_cases negative : (st.sems sem).semcount < 0
      · rw [if_pos negative] at called
        simp only [Option.some.injEq, Prod.mk.injEq] at called
        exact .inr ⟨sem, waiting, waits, negative, called.2.symm, called.1.symm⟩
      · rw [if_neg negative] at called
        contradiction
    · contradiction
  · rw [if_neg waiting] at called
    simp only [Option.some.injEq, Prod.mk.injEq] at called
    exact .inl ⟨waiting, called.2.symm, called.1.symm⟩

theorem keeps_semWait (h : Good st)
    (free : rtcb ∉ st.waitingforsemaphore)
    (called : semWait pi nnestprio verify st rtcb sem = some (st', r)) :
    Keeps (.wait rtcb sem) st st' r := by
  rcases semWait_cases called with ⟨pos, rfl, rfl⟩ | ⟨nonpos, -, rfl, rfl⟩
  · -- a count taken at once; the holder it is counted for changes no wait
    obtain ⟨good, balance⟩ := h.take free pos
    refine Keeps.sameWaits ⟨good, fun s => ?_⟩
      ((sameWaits_ite pi (sameWaits_semAddholderTcb _ rtcb sem)).setWaitsem rtcb none)
    have := balance s
    by_cases same : s = sem <;> simp [Event.acquires, Event.posts, same] at this ⊢ <;> omega
  · -- a wait begun; the holders raised to the waiter's priority wait as before
    obtain ⟨good, balance⟩ := h.block free nonpos
    refine Keeps.sameWaits ⟨good, fun s => ?_⟩
      ((sameWaits_ite pi (sameWaits_semBoostpriority _ rtcb sem)).upBlockTask rtcb)
    simp [Event.acquires, Event.posts, balance s]

theorem keeps_semTrywait (h : Good st)
    (free : rtcb ∉ st.waitingforsemaphore) :
    Keeps (.trywait rtcb sem) st (semTrywait pi st rtcb sem).1 (semTrywait pi st rtcb sem).2 := by
  unfold semTrywait
  by_cases pos : (st.sems sem).semcount > 0
  · rw [if_pos pos]
    dsimp only
    obtain ⟨good, balance⟩ := h.take free pos
    refine Keeps.sameWaits ⟨good, fun s => ?_⟩
      ((sameWaits_ite pi (sameWaits_semAddholderTcb _ rtcb sem)).setWaitsem rtcb none)
    have := balance s
    by_cases same : s = sem <;> simp [Event.acquires, Event.posts, same] at this ⊢ <;> omega
  · rw [if_neg pos]
    exact ⟨h, fun s => by simp [Event.acquires, Event.posts]⟩

theorem keeps_semWaitirq (h : Good st) {wtcb : T}
    (called : semWaitirq pi verify st wtcb = some (st', r)) :
    Keeps (.waitirq wtcb) st st' r := by
  rcases semWaitirq_cases called with ⟨-, rfl, rfl⟩ | ⟨sem, mem, waits, -, rfl, rfl⟩
  · exact ⟨h, fun s => rfl⟩
  · -- the holders brought back keep every wait and count, the cancelled wait's included
    have same : SameWaits st (if pi then semCanceled verify st wtcb sem else st) :=
      sameWaits_ite pi (sameWaits_semCanceled st wtcb sem)
    rw [same.2.2 sem]
    obtain ⟨good, balance⟩ := h.wake mem waits
    refine Keeps.sameWaits ⟨good, fun s => ?_⟩
      (((same.setSemcount sem _).setWaitsem wtcb none).upUnblockTask wtcb)
    simp [Event.acquires, Event.posts, balance s]

theorem keeps_semPost (h : Good st) {isr : Bool}
    (called : semPost pi verify st isr rtcb sem = some (st', r)) :
    Keeps (.post isr rtcb sem) st st' r := by
  unfold semPost at called
  by_cases full : (st.sems sem).semcount ≥ semValueMax
  · rw [if_pos full] at called
    contradiction
  rw [if_neg full] at called
  simp only [Option.some.injEq, Prod.mk.injEq] at called
  obtain ⟨rfl, rfl⟩ := called
  -- the holder released, and every holder call after it, keeps every wait and count
  have release := sameWaits_ite pi (sameWaits_semReleaseholder st rtcb sem)
  generalize (if pi then semReleaseholder st rtcb sem else st) = st₁ at release ⊢
  have h₁ := h.sameWaits release
  have count : ((st₁.setSemcount sem ((st₁.sems sem).semcount + 1)).sems sem).semcount =
      (st₁.sems sem).semcount + 1 := by simp
  rw [count]
  generalize waiter : (if (st₁.sems sem).semcount + 1 ≤ 0 then
    (st₁.setSemcount sem ((st₁.sems sem).semcount + 1)).firstWaiter sem else none) = stcb
  refine Keeps.sameWaits ?_ (sameWaits_ite pi (sameWaits_semRestorebaseprio _ isr rtcb stcb sem))
  cases stcb with
  | none =>
      -- no task was given the count, so none waited and the count was not negative
      have nonneg : 0 ≤ (st₁.sems sem).semcount := by
        split_ifs at waiter with nonpos
        · have empty : st₁.waiters sem = [] := by
            rw [← List.head?_eq_none_iff, ← SemState.firstWaiter_eq_head?]
            exact waiter
          have := h₁.counted sem
          rw [empty] at this
          simp only [List.length_nil] at this
          omega
        · omega
      obtain ⟨good, balance⟩ := h₁.give nonneg
      refine ⟨good, fun s => ?_⟩
      rw [balance s, release.balance s]
      by_cases same : s = sem <;> simp [Event.acquires, Event.posts, same]
  | some w =>
      -- the first waiter of `sem` takes the count
      split_ifs at waiter with nonpos
      have found := waiter
      rw [SemState.firstWaiter, List.find?_eq_some_iff_append] at found
      have mem : w ∈ st₁.waitingforsemaphore := List.mem_of_find?_eq_some waiter
      have waits : (st₁.tcbs w).waitsem = some sem := of_decide_eq_true found.1
      obtain ⟨good, balance⟩ := h₁.wake mem waits
      refine Keeps.sameWaits ⟨good, fun s => ?_⟩
        (((sameWaits_ite pi (sameWaits_semAddholderTcb _ w sem)).setWaitsem w none).upUnblockTask w)
      rw [balance s, release.balance s]
      by_cases same : s = sem <;> simp [Event.acquires, Event.posts, same]

theorem keeps_semStep (h : Good st) {e : Event S T}
    (stepped : semStep pi nnestprio verify st e = some (st', r)) : Keeps e st st' r := by
  unfold semStep at stepped
  split_ifs at stepped with runs
  cases e with
  | wait rtcb sem => exact keeps_semWait h (by simpa [Event.running] using runs) stepped
  | waitForIsr rtcb sem => exact keeps_semWait h (by simpa [Event.running] using runs) stepped
  | trywait rtcb sem =>
      have keeps : Keeps (.trywait rtcb sem) st (semTrywait pi st rtcb sem).1
          (semTrywait pi st rtcb sem).2 := keeps_semTrywait h (by simpa [Event.running] using runs)
      rw [Option.some.inj stepped] at keeps
      exact keeps
  | post isr rtcb sem => exact keeps_semPost h stepped
  | postFromIsr rtcb sem => exact keeps_semPost h stepped
  | waitirq wtcb => exact keeps_semWaitirq h stepped

end Steps

/-! ## Every run keeps the invariant and the balance -/

section Runs

variable {S T H : Type} [DecidableEq S] [DecidableEq T] [DecidableEq H]

/-- The posts of `s` among the calls. -/
def posts (s : S) (evs : List (Event S T)) : Nat := (evs.map (Event.posts s)).sum

/-- The counts of `s` the calls handed out, read off their answers. -/
def acquisitions (s : S) (evs : List (Event S T)) (replies : List (Reply T)) : Nat :=
  ((evs.zip replies).map fun p => p.1.acquires s p.2).sum

theorem semRun_keeps {pi : Bool} {nnestprio : Nat} {verify : T → Bool}
    {st st' : SemState S T H} {evs : List (Event S T)} {replies : List (Reply T)} (h : Good st)
    (ran : semRun pi nnestprio verify st evs = some (st', replies)) :
    Good st' ∧ ∀ s, st'.balance s + acquisitions s evs replies = st.balance s + posts s evs := by
  have keep : ∀ (st : SemState S T H) e st' r, Good st →
      semStep pi nnestprio verify st e = some (st', r) → Good st' :=
    fun _ _ _ _ h stepped => (keeps_semStep h stepped).1
  refine ⟨Machine.runOut_invariant (fun st : SemState S T H => Good st) (fun _ => True)
    (fun st e st' r _ => keep st e st' r) evs st st' replies (fun _ _ => trivial) h ran,
    fun s => ?_⟩
  have balanced := Machine.runOut_balance (fun st => st.balance s) (fun e _ => (e.posts s : Int))
    (fun e r => (e.acquires s r : Int)) (fun st : SemState S T H => Good st) keep
    (fun _ _ _ _ h stepped => (keeps_semStep h stepped).2 s) evs st st' replies h ran
  -- the posts are read off the calls alone
  have calls : (evs.zip replies).map Prod.fst = evs :=
    List.map_fst_zip (Machine.runOut_length evs st st' replies ran).ge
  have gains : ((evs.zip replies).map fun p => (p.1.posts s : Int)).sum = posts s evs := by
    rw [posts, Nat.cast_list_sum, List.map_map]
    conv_rhs => rw [← calls]
    rw [List.map_map]
    rfl
  rw [acquisitions, Nat.cast_list_sum, List.map_map, ← gains]
  exact balanced

end Runs

/-! ## What a semaphore is for -/

section Spec

variable {S T : Type} [DecidableEq S] [DecidableEq T] (priority : T → Nat)

/-- A counting semaphore for each `S`: its count, what each task waits on, and the tasks
waiting on each semaphore in the order they came. -/
structure SemSpec (S T : Type) where
  count : S → Int
  waitsem : T → Option S
  pending : S → List T

/-- A call on the specification. A wait takes a count or queues the task; a post adds a
count, and while the count is not positive gives it to `firstMax` of the queue, the
earliest of the highest priority; a cancelled wait leaves the queue and returns its count. -/
def specStep (a : SemSpec S T) : Event S T → SemSpec S T × Reply T
  | .wait rtcb sem | .waitForIsr rtcb sem =>
      if a.count sem > 0 then ({ a with count := Function.update a.count sem (a.count sem - 1) }, .ok)
      else
        ({ count := Function.update a.count sem (a.count sem - 1)
           waitsem := Function.update a.waitsem rtcb (some sem)
           pending := Function.update a.pending sem (a.pending sem ++ [rtcb]) }, .blocked)
  | .trywait _ sem =>
      if a.count sem > 0 then ({ a with count := Function.update a.count sem (a.count sem - 1) }, .ok)
      else (a, .eagain)
  | .post _ _ sem | .postFromIsr _ sem =>
      let a := { a with count := Function.update a.count sem (a.count sem + 1) }
      if a.count sem ≤ 0 then
        match firstMax priority (a.pending sem) with
        | some t =>
            ({ a with
               waitsem := Function.update a.waitsem t none
               pending := Function.update a.pending sem ((a.pending sem).erase t) }, .posted (some t))
        | none => (a, .posted none)
      else (a, .posted none)
  | .waitirq wtcb =>
      match a.waitsem wtcb with
      | some sem =>
          ({ count := Function.update a.count sem (a.count sem + 1)
             waitsem := Function.update a.waitsem wtcb none
             pending := Function.update a.pending sem ((a.pending sem).erase wtcb) }, .ok)
      | none => (a, .ok)

/-- Every semaphore at its initial value, no task waiting. -/
def specInit (value : S → Nat) : SemSpec S T where
  count sem := value sem
  waitsem _ := none
  pending _ := []

def specRun (a : SemSpec S T) (evs : List (Event S T)) : Option (SemSpec S T × List (Reply T)) :=
  Machine.runOut (fun a e => some (specStep priority a e)) a evs

end Spec

/-! ## Without priority inheritance the code refines the specification -/

section Refinement

variable {S T H : Type} [DecidableEq S] [DecidableEq T] [DecidableEq H] {priority : T → Nat}
variable {st st' : SemState S T H} {a : SemSpec S T} {rtcb : T} {sem : S} {r : Reply T}

variable (priority) in
/-- The counts and waits of the state are the specification's; the waiters of every
semaphore are its queue arranged by priority, ties in the order they came; the wait list
is sorted by priority, and the priorities are those the tasks started with. -/
structure Refines (st : SemState S T H) (a : SemSpec S T) : Prop where
  count : ∀ sem, (st.sems sem).semcount = a.count sem
  waitsem : ∀ t, (st.tcbs t).waitsem = a.waitsem t
  arranged : ∀ sem, Arranged priority (a.pending sem) (st.waiters sem)
  sorted : st.waitingforsemaphore.Pairwise fun x y => priority y ≤ priority x
  priority : st.priority = priority

omit [DecidableEq T] [DecidableEq H] in
theorem count_setSemcount
    (same : ∀ sem, (st.sems sem).semcount = a.count sem) (sem : S) (c : Int) (s : S) :
    ((st.setSemcount sem c).sems s).semcount = Function.update a.count sem c s := by
  by_cases here : s = sem
  · subst here
    simp
  · simp [here, same s]

omit [DecidableEq S] [DecidableEq H] in
theorem waitsem_setWaitsem
    (same : ∀ t, (st.tcbs t).waitsem = a.waitsem t) (t : T) (w : Option S) (u : T) :
    ((st.setWaitsem t w).tcbs u).waitsem = Function.update a.waitsem t w u := by
  by_cases here : u = t
  · subst here
    simp
  · simp [here, same u]

omit [DecidableEq H] in
theorem Refines.take (h : Refines priority st a)
      (free : rtcb ∉ st.waitingforsemaphore)
    (idle : (st.tcbs rtcb).waitsem = none) :
    Refines priority ((st.setSemcount sem ((st.sems sem).semcount - 1)).setWaitsem rtcb none)
      { a with count := Function.update a.count sem (a.count sem - 1) } := by
  have free' : rtcb ∉ (st.setSemcount sem ((st.sems sem).semcount - 1)).waitingforsemaphore := free
  refine ⟨fun s => ?_, fun t => ?_, fun s => ?_, h.sorted, ?_⟩
  · rw [SemState.sems_setWaitsem, count_setSemcount h.count, h.count sem]
  · rw [SemState.waitsem_setWaitsem, SemState.tcbs_setSemcount]
    split_ifs with here
    · rw [here, ← h.waitsem rtcb, idle]
    · exact h.waitsem t
  · rw [waiters_setWaitsem_of_not_mem free', waiters_setSemcount]
    exact h.arranged s
  · rw [SemState.priority_setWaitsem, SemState.priority_setSemcount, h.priority]

omit [DecidableEq H] in
theorem Refines.block (h : Refines priority st a)
      (free : rtcb ∉ st.waitingforsemaphore) :
    Refines priority (upBlockTask ((st.setSemcount sem ((st.sems sem).semcount - 1)).setWaitsem
        rtcb (some sem)) rtcb)
      { count := Function.update a.count sem (a.count sem - 1)
        waitsem := Function.update a.waitsem rtcb (some sem)
        pending := Function.update a.pending sem (a.pending sem ++ [rtcb]) } := by
  have free' : rtcb ∉ (st.setSemcount sem ((st.sems sem).semcount - 1)).waitingforsemaphore := free
  have waits : ∀ t, ((st.setSemcount sem ((st.sems sem).semcount - 1)).tcbs t).waitsem =
      a.waitsem t := h.waitsem
  have keys : ((st.setSemcount sem ((st.sems sem).semcount - 1)).setWaitsem rtcb
      (some sem)).priority = priority := by
    rw [SemState.priority_setWaitsem, SemState.priority_setSemcount, h.priority]
  refine ⟨fun s => ?_, fun t => ?_, fun s => ?_, ?_, keys⟩
  · rw [sems_upBlockTask, SemState.sems_setWaitsem, count_setSemcount h.count, h.count sem]
  · rw [tcbs_upBlockTask, waitsem_setWaitsem waits]
  · -- the new waiter goes into its semaphore's waiters as into the whole list
    rw [waiters_upBlockTask _ _ (keys ▸ h.sorted), waiters_setWaitsem_of_not_mem free',
      waiters_setSemcount, SemState.waitsem_setWaitsem, if_pos rfl, keys]
    by_cases here : s = sem
    · subst here
      simpa using (h.arranged s).orderedInsert rtcb
    · simpa [Ne.symm here, here] using h.arranged s
  · rw [upBlockTask, keys]
    exact sorted_orderedInsert rtcb h.sorted

omit [DecidableEq T] [DecidableEq H] in
theorem Refines.give (h : Refines priority st a)
    (sem : S) :
    Refines priority (st.setSemcount sem ((st.sems sem).semcount + 1))
      { a with count := Function.update a.count sem (a.count sem + 1) } := by
  refine ⟨fun s => ?_, h.waitsem, fun s => ?_, h.sorted, ?_⟩
  · rw [count_setSemcount h.count, h.count sem]
  · rw [waiters_setSemcount]
    exact h.arranged s
  · rw [SemState.priority_setSemcount, h.priority]

omit [DecidableEq H] in
theorem Refines.wake (h : Refines priority st a)
    (nodup : st.waitingforsemaphore.Nodup) {w : T}
    (waits : (st.tcbs w).waitsem = some sem) :
    Refines priority (upUnblockTask ((st.setSemcount sem ((st.sems sem).semcount + 1)).setWaitsem
        w none) w)
      { count := Function.update a.count sem (a.count sem + 1)
        waitsem := Function.update a.waitsem w none
        pending := Function.update a.pending sem ((a.pending sem).erase w) } := by
  have nodup' : (st.setSemcount sem ((st.sems sem).semcount + 1)).waitingforsemaphore.Nodup :=
    nodup
  have tasks : ∀ t, ((st.setSemcount sem ((st.sems sem).semcount + 1)).tcbs t).waitsem =
      a.waitsem t := h.waitsem
  refine ⟨fun s => ?_, fun t => ?_, fun s => ?_, h.sorted.sublist List.erase_sublist, ?_⟩
  · rw [sems_upUnblockTask, SemState.sems_setWaitsem, count_setSemcount h.count, h.count sem]
  · rw [tcbs_upUnblockTask, waitsem_setWaitsem tasks]
  · dsimp only
    rw [waiters_unblock nodup', waiters_setSemcount]
    by_cases here : s = sem
    · subst here
      simpa using (h.arranged s).erase w
    · -- `w` waited on `sem`, so it is none of the waiters of `s`
      have out : w ∉ st.waiters s := fun held =>
        here (Option.some.inj ((mem_waiters.mp held).2.symm.trans waits))
      rw [List.erase_of_not_mem out, Function.update_of_ne here]
      exact h.arranged s
  · rw [upUnblockTask]
    exact (SemState.priority_setWaitsem _ _ _).trans h.priority

variable {nnestprio : Nat} {verify : T → Bool}

theorem refines_semWait (good : Good st)
    (h : Refines priority st a)
    (free : rtcb ∉ st.waitingforsemaphore)
    (called : semWait false nnestprio verify st rtcb sem = some (st', r)) :
    (specStep priority a (.wait rtcb sem)).2 = r ∧
      Refines priority st' (specStep priority a (.wait rtcb sem)).1 := by
  rcases semWait_cases called with ⟨pos, rfl, rfl⟩ | ⟨nonpos, -, rfl, rfl⟩
  · have pos' : a.count sem > 0 := h.count sem ▸ pos
    simp only [specStep, if_pos pos']
    exact ⟨trivial, h.take free (good.not_mem free)⟩
  · have nonpos' : ¬ a.count sem > 0 := by
      rw [← h.count sem]
      omega
    simp only [specStep, if_neg nonpos']
    exact ⟨trivial, h.block free⟩

theorem refines_semTrywait (good : Good st)
    (h : Refines priority st a) (free : rtcb ∉ st.waitingforsemaphore) :
    (specStep priority a (.trywait rtcb sem)).2 = (semTrywait false st rtcb sem).2 ∧
      Refines priority (semTrywait false st rtcb sem).1 (specStep priority a (.trywait rtcb sem)).1 := by
  unfold semTrywait
  by_cases pos : (st.sems sem).semcount > 0
  · have pos' : a.count sem > 0 := h.count sem ▸ pos
    rw [if_pos pos]
    simp only [specStep, if_pos pos']
    exact ⟨trivial, h.take free (good.not_mem free)⟩
  · have nonpos' : ¬ a.count sem > 0 := by rwa [← h.count sem]
    rw [if_neg pos]
    simp only [specStep, if_neg nonpos']
    exact ⟨trivial, h⟩

theorem refines_semPost (good : Good st)
    (h : Refines priority st a) {isr : Bool}
    (called : semPost false verify st isr rtcb sem = some (st', r)) :
    (specStep priority a (.post isr rtcb sem)).2 = r ∧
      Refines priority st' (specStep priority a (.post isr rtcb sem)).1 := by
  unfold semPost at called
  by_cases full : (st.sems sem).semcount ≥ semValueMax
  · rw [if_pos full] at called
    contradiction
  rw [if_neg full] at called
  simp only [Bool.false_eq_true, ↓reduceIte, Option.some.injEq, Prod.mk.injEq] at called
  obtain ⟨rfl, rfl⟩ := called
  have count : ((st.setSemcount sem ((st.sems sem).semcount + 1)).sems sem).semcount =
      (st.sems sem).semcount + 1 := by simp
  have first : (st.setSemcount sem ((st.sems sem).semcount + 1)).firstWaiter sem =
      (st.waiters sem).head? := SemState.firstWaiter_eq_head? st sem
  rw [count, first]
  by_cases nonpos : (st.sems sem).semcount + 1 ≤ 0
  · have nonpos' : a.count sem + 1 ≤ 0 := h.count sem ▸ nonpos
    rw [if_pos nonpos]
    cases waiting : st.waiters sem with
    | nil =>
        -- nobody waits, in the code or in the specification
        have none : a.pending sem = [] := by
          have := (h.arranged sem).perm
          rw [waiting] at this
          exact this.nil_eq.symm
        simp only [specStep, Function.update_self, if_pos nonpos', none, firstMax, List.find?_nil,
          List.head?_nil]
        exact ⟨trivial, h.give sem⟩
    | cons w rest =>
        -- the first waiter of the code is the earliest of the highest priority
        have arranged := h.arranged sem
        rw [waiting] at arranged
        have waits : (st.tcbs w).waitsem = some sem :=
          (mem_waiters.mp (waiting ▸ List.mem_cons_self : w ∈ st.waiters sem)).2
        simp only [specStep, Function.update_self, if_pos nonpos', arranged.cons.1, List.head?_cons]
        exact ⟨trivial, h.wake good.nodup waits⟩
  · have nonpos' : ¬ a.count sem + 1 ≤ 0 := h.count sem ▸ nonpos
    rw [if_neg nonpos]
    simp only [specStep, Function.update_self, if_neg nonpos']
    exact ⟨trivial, h.give sem⟩

theorem refines_semWaitirq (good : Good st)
    (h : Refines priority st a) {wtcb : T}
    (called : semWaitirq false verify st wtcb = some (st', r)) :
    (specStep priority a (.waitirq wtcb)).2 = r ∧
      Refines priority st' (specStep priority a (.waitirq wtcb)).1 := by
  rcases semWaitirq_cases called with ⟨out, rfl, rfl⟩ | ⟨sem, -, waits, -, rfl, rfl⟩
  · have idle : a.waitsem wtcb = none := by rw [← h.waitsem wtcb]; exact good.not_mem out
    simp only [specStep, idle]
    exact ⟨trivial, h⟩
  · have waiting : a.waitsem wtcb = some sem := by rw [← h.waitsem wtcb]; exact waits
    simp only [specStep, waiting]
    exact ⟨trivial, h.wake good.nodup waits⟩

theorem refines_semStep (good : Good st)
    (h : Refines priority st a) {e : Event S T}
    (stepped : semStep false nnestprio verify st e = some (st', r)) :
    (specStep priority a e).2 = r ∧ Refines priority st' (specStep priority a e).1 := by
  unfold semStep at stepped
  split_ifs at stepped with runs
  cases e with
  | wait rtcb sem => exact refines_semWait good h (by simpa [Event.running] using runs) stepped
  | waitForIsr rtcb sem =>
      exact refines_semWait good h (by simpa [Event.running] using runs) stepped
  | trywait rtcb sem =>
      have refines : (specStep priority a (.trywait rtcb sem)).2 = (semTrywait false st rtcb sem).2 ∧
          Refines priority (semTrywait false st rtcb sem).1 (specStep priority a (.trywait rtcb sem)).1 :=
        refines_semTrywait good h (by simpa [Event.running] using runs)
      rw [Option.some.inj stepped] at refines
      exact refines
  | post isr rtcb sem => exact refines_semPost good h stepped
  | postFromIsr rtcb sem => exact refines_semPost good h stepped
  | waitirq wtcb => exact refines_semWaitirq good h stepped

/-- Every run without priority inheritance answers as the specification does, from related
states. -/
theorem semRun_refines {evs : List (Event S T)}
    {replies : List (Reply T)} (good : Good st) (h : Refines priority st a)
    (ran : semRun false nnestprio verify st evs = some (st', replies)) :
    ∃ a', specRun priority a evs = some (a', replies) ∧ Refines priority st' a' := by
  obtain ⟨a', ranA, ⟨-, related⟩, -⟩ :=
    @Machine.runOut_simulation _ _ _ _ (semStep false nnestprio verify)
      (fun a e => some (specStep priority a e)) (fun st a => Good st ∧ Refines priority st a)
      (fun _ => True) (fun _ _ _ _ _ _ => trivial)
      (fun _ a e _ _ _ related stepped =>
        ⟨(specStep priority a e).1,
          congrArg some (Prod.ext rfl (refines_semStep related.1 related.2 stepped).1),
          (keeps_semStep related.1 stepped).1, (refines_semStep related.1 related.2 stepped).2⟩)
      evs st st' replies a trivial ⟨good, h⟩ ran
  exact ⟨a', ranA, related⟩

end Refinement

/-! ## Every run from boot -/

section Boot

variable {S T : Type} [DecidableEq S] [DecidableEq T]

omit [DecidableEq T] in
theorem Good.boot {n : Nat} (value : S → Nat) (priority : T → Nat) :
    Good (semInitholders (semBoot value priority : SemState S T (Fin n))) where
  nodup := List.nodup_nil
  waiting t := by simp [semInitholders, semBoot]
  counted sem := by
    simp only [semInitholders, semBoot, SemState.waiters, List.filter_nil, List.length_nil]
    omega

omit [DecidableEq T] in
theorem Refines.boot {n : Nat} (value : S → Nat) (priority : T → Nat) :
    Refines priority (semInitholders (semBoot value priority : SemState S T (Fin n)))
      (specInit value) where
  count _ := rfl
  waitsem _ := rfl
  arranged _ := Arranged.nil
  sorted := List.Pairwise.nil
  priority := rfl

/-- `CONFIG_SEM_NNESTPRIO = 1`: task `0` at priority 10 holds the semaphore; a waiter at 30
raises it to 30, and two waiters at 20 are saved in `pend_reprios`, the second past the
end of the array. -/
theorem semRun_boost_overflows :
    ((semRun true 1 (fun _ => true)
      (semInitholders (semBoot (fun _ => 1)
        (fun t => if t = 0 then 10 else if t = 1 then 30 else 20)) :
        SemState (Fin 1) (Fin 4) (Fin 1))
      [.wait 0 0, .wait 1 0, .wait 2 0, .wait 3 0]).map fun p =>
        ((p.1.tcbs 0).npendReprio, (p.1.tcbs 0).pendReprios 1)) = some (2, 20) := by
  decide

end Boot

end TinyAra.Kernel.Semaphore
