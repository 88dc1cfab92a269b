/-
# Kernel.Pthread.Join -- the join record of one thread

pthread_join.c, pthread_completejoin.c (`pthread_notifywaiters`,
`pthread_completejoin`, `pthread_destroyjoin`), pthread_detach.c and the
`sem_init` of libc, for the `join_s` of one joinable thread. The record is
guarded by the group's `tg_joinsem`; a joiner that finds the thread running takes
a reference (`crefs`) and sleeps on `exit_sem`; the terminating side stores the
exit value, wakes every sleeper, and waits on `data_sem` until each has read the
value; the last reference frees the record.

`pthread_notifywaiters` sets `data_sem` to one minus the number of sleepers with
`sem_init`, whose count is unsigned: for two sleepers or more the value is
negative, `sem_init` refuses it and leaves `data_sem` at 0, and the terminating
side then returns as soon as the first sleeper has read the value
(`completejoin_returns_before_second_joiner_reads`).

Each thread's place is its `JoinPc`; the semaphores are the `Sem` of
`Kernel.Pthread.Mutex`, which wake their waiters in the order they came.
-/
import TinyAra.Kernel.Pthread.Mutex
import Mathlib

namespace TinyAra.Kernel.Pthread

open Machine

set_option autoImplicit false

def esrch : Nat := 3
def einval : Nat := 22
def semValueMax : Nat := 0x7fff

/-- `sem_init(sem, 0, value)`, `value` being an `unsigned int`: `none` is `EINVAL`.
Only the count is set. -/
def semInit (s : Sem) (value : Nat) : Option Sem :=
  if value ≤ semValueMax then some { s with semcount := value } else none

/-- Where a thread is in the join protocol. -/
inductive JoinPc where
  | idle
  /-- Blocked on `tg_joinsem` at the start of `pthread_join`. -/
  | joinLock
  | joinLockWoken
  /-- In `pthread_join`, blocked on `exit_sem`. -/
  | joinExit
  | joinExitWoken
  /-- In `pthread_join`, blocked on `tg_joinsem` after reading the value. -/
  | joinRelock
  | joinRelockWoken
  /-- Blocked on `tg_joinsem` at the start of `pthread_completejoin`. -/
  | completeLock (value : Nat)
  | completeLockWoken (value : Nat)
  /-- In `pthread_notifywaiters`, blocked on `data_sem`. -/
  | completeData
  | completeDataWoken
  /-- Blocked on `tg_joinsem` at the start of `pthread_detach`. -/
  | detachLock
  | detachLockWoken
  deriving DecidableEq, Repr

/-- Where a post leaves the waiter it hands the count to. -/
def JoinPc.woken : JoinPc → JoinPc
  | .joinLock => .joinLockWoken
  | .joinExit => .joinExitWoken
  | .joinRelock => .joinRelockWoken
  | .completeLock value => .completeLockWoken value
  | .completeData => .completeDataWoken
  | .detachLock => .detachLockWoken
  | p => p

/-- The `join_s` of thread `thread`, the group's `tg_joinsem`, and the threads. -/
structure JoinState where
  thread : Nat
  joinsem : Sem
  exitSem : Sem
  dataSem : Sem
  crefs : Nat
  detached : Bool
  terminated : Bool
  exitValue : Nat
  /-- `pthread_destroyjoin` has run: the record is out of the group and freed. -/
  freed : Bool
  /-- The thread has run `pthread_completejoin` to its end and is gone. -/
  gone : Bool
  pc : Nat → JoinPc
  /-- Ghost: each read of the exit value by a joiner, in order. -/
  reads : List (Nat × Nat)

/-- What a step gives back. -/
inductive JoinReply where
  | ret (v : Int)
  | blocked
  deriving DecidableEq, Repr

namespace JoinState

def setPc (st : JoinState) (t : Nat) (p : JoinPc) : JoinState :=
  { st with pc := Function.update st.pc t p }

def wake (st : JoinState) : Option Nat → JoinState
  | none => st
  | some w => st.setPc w (st.pc w).woken

def giveJoinsem (st : JoinState) : JoinState :=
  let (s, w) := st.joinsem.post
  ({ st with joinsem := s }).wake w

def giveExitSem (st : JoinState) : JoinState :=
  let (s, w) := st.exitSem.post
  ({ st with exitSem := s }).wake w

def giveDataSem (st : JoinState) : JoinState :=
  let (s, w) := st.dataSem.post
  ({ st with dataSem := s }).wake w

/-- `pthread_destroyjoin`. -/
def destroyjoin (st : JoinState) : JoinState := { st with freed := true }

end JoinState

open JoinState

/-- `pthread_takesemaphore(&group->tg_joinsem)` by `t`: `body` runs once it is
held, or `t` blocks at `blockedAt`. -/
def takeJoinsem (st : JoinState) (t : Nat) (blockedAt : JoinPc)
    (body : JoinState → JoinState × JoinReply) : JoinState × JoinReply :=
  let (s, taken) := st.joinsem.wait t
  let st := { st with joinsem := s }
  if taken then body st else (st.setPc t blockedAt, .blocked)

/-- The end of `pthread_join`, holding `tg_joinsem`: drop the reference, free the
record at the last one. -/
def joinFinish (st : JoinState) (t : Nat) : JoinState × JoinReply :=
  let st := { st with crefs := st.crefs - 1 }
  let st := if st.crefs = 0 then st.destroyjoin else st
  ((st.giveJoinsem).setPc t .idle, .ret 0)

/-- After `exit_sem`: read the value, post `data_sem`, take `tg_joinsem` again. -/
def joinAfterExit (st : JoinState) (t : Nat) : JoinState × JoinReply :=
  let st := { st with reads := st.reads ++ [(t, st.exitValue)] }
  takeJoinsem st.giveDataSem t .joinRelock (joinFinish · t)

def joinBody (st : JoinState) (t : Nat) : JoinState × JoinReply :=
  if st.freed then
    ((st.giveJoinsem).setPc t .idle, .ret (if st.gone then esrch else einval))
  else
    let st := { st with crefs := st.crefs + 1 }
    if st.terminated then
      joinFinish { st with reads := st.reads ++ [(t, st.exitValue)] } t
    else
      -- sleep on `exit_sem` until the thread terminates
      let st := st.giveJoinsem
      let (s, taken) := st.exitSem.wait t
      let st := { st with exitSem := s }
      if taken then joinAfterExit st t else (st.setPc t .joinExit, .blocked)

def pthreadJoin (st : JoinState) (t : Nat) : JoinState × JoinReply :=
  if t = st.thread then (st, .ret edeadlk)
  else takeJoinsem st t .joinLock (joinBody · t)

/-- The end of `pthread_completejoin`, holding `tg_joinsem`. -/
def completeFinish (st : JoinState) (t : Nat) (waiters : Bool) : JoinState × JoinReply :=
  let st := if !waiters ∧ st.detached then st.destroyjoin else st
  ({ (st.giveJoinsem).setPc t .idle with gone := true }, .ret 0)

/-- The loop of `pthread_notifywaiters`: post `exit_sem` while it is negative. -/
def postWaiters : Nat → JoinState → JoinState
  | 0, st => st
  | n + 1, st => if st.exitSem.semcount < 0 then postWaiters n st.giveExitSem else st

/-- `pthread_completejoin` once `tg_joinsem` is held: store the value and, if
joiners sleep, set `data_sem`, wake them and wait on `data_sem`. -/
def completeBody (st : JoinState) (t value : Nat) : JoinState × JoinReply :=
  if st.freed then ((st.giveJoinsem).setPc t .idle, .ret (-1))
  else
    let st := { st with terminated := true, exitValue := value }
    let ntasksWaiting : Int := st.exitSem.semcount
    if ntasksWaiting < 0 then
      -- `sem_init(&data_sem, 0, ntasks_waiting + 1)`, the count taken as unsigned
      let st := match semInit st.dataSem ((ntasksWaiting + 1) % 2 ^ 32).toNat with
        | some s => { st with dataSem := s }
        | none => st
      let st := postWaiters (-ntasksWaiting).toNat st.giveExitSem
      let (s, taken) := st.dataSem.wait t
      let st := { st with dataSem := s }
      if taken then completeFinish st t true else (st.setPc t .completeData, .blocked)
    else completeFinish st t false

/-- `pthread_completejoin(thread, value)`, run by `t` (the thread itself, or the
thread that cancels it). -/
def pthreadCompletejoin (st : JoinState) (t value : Nat) : JoinState × JoinReply :=
  takeJoinsem st t (.completeLock value) (completeBody · t value)

def detachBody (st : JoinState) (t : Nat) : JoinState × JoinReply :=
  if st.freed then ((st.giveJoinsem).setPc t .idle, .ret einval)
  else
    let st := if st.terminated then st.destroyjoin else { st with detached := true }
    ((st.giveJoinsem).setPc t .idle, .ret 0)

def pthreadDetach (st : JoinState) (t : Nat) : JoinState × JoinReply :=
  takeJoinsem st t .detachLock (detachBody · t)

def joinResume (st : JoinState) (t : Nat) : Option (JoinState × JoinReply) :=
  let st' := st.setPc t .idle
  match st.pc t with
  | .joinLockWoken => some (joinBody st' t)
  | .joinExitWoken => some (joinAfterExit st' t)
  | .joinRelockWoken => some (joinFinish st' t)
  | .completeLockWoken value => some (completeBody st' t value)
  | .completeDataWoken => some (completeFinish st' t true)
  | .detachLockWoken => some (detachBody st' t)
  | _ => none

/-- What can happen next. -/
inductive JoinEvent where
  | join (t : Nat)
  | complete (t value : Nat)
  | detach (t : Nat)
  | run (t : Nat)
  deriving DecidableEq, Repr

def joinStep (st : JoinState) : JoinEvent → Option (JoinState × JoinReply)
  | .join t => if st.pc t = .idle then some (pthreadJoin st t) else none
  | .complete t value =>
    if st.pc t = .idle ∧ ¬st.gone then some (pthreadCompletejoin st t value) else none
  | .detach t => if st.pc t = .idle then some (pthreadDetach st t) else none
  | .run t => joinResume st t

/-- The record of a joinable thread just started: `pthread_create` has used
`data_sem` for its start handshake and left both semaphores at 0. -/
def joinInit (thread : Nat) : JoinState :=
  ⟨thread, ⟨1, []⟩, ⟨0, []⟩, ⟨0, []⟩, 0, false, false, 0, false, false, fun _ => .idle, []⟩

/-- Threads 1 and 2 join thread 3 and sleep; thread 3 exits with value 10.
`sem_init` refuses `data_sem`'s count of -1, so the first joiner's post of
`data_sem` wakes thread 3 and its `pthread_completejoin` returns while thread 2 is
woken but has not read the value. -/
theorem completejoin_returns_before_second_joiner_reads :
    ∃ st,
      runOut joinStep (joinInit 3) [.join 1, .join 2, .complete 3 10, .run 1, .run 3] =
        some (st, [.blocked, .blocked, .blocked, .blocked, .ret 0]) ∧
      semInit ⟨0, []⟩ ((-2 + 1 : Int) % 2 ^ 32).toNat = none ∧
      st.gone = true ∧ st.reads = [(1, 10)] ∧ st.pc 2 = .joinExitWoken := by
  refine ⟨_, rfl, by decide, rfl, rfl, rfl⟩

end TinyAra.Kernel.Pthread
