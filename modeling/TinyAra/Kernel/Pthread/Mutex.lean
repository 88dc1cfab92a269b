/-
# Kernel.Pthread.Mutex -- pthread mutexes and condition variables over semaphores

pthread_mutexlock.c, pthread_mutextrylock.c, pthread_mutexunlock.c,
pthread_condwait.c, pthread_condtimedwait.c, pthread_condsignal.c and
pthread_condbroadcast.c. A mutex is a semaphore of one count with the `pid` of
its holder and, for `PTHREAD_MUTEX_RECURSIVE`, a count `nlocks` of the locks
held; a condition is a semaphore of no count. Every call runs under
`sched_lock`, so each is one step until it blocks on a semaphore; a blocked
thread is woken by a post (or, in a timed condition wait, by its watchdog), and
then runs the rest of its call as a step of its own.

A thread's place in this code is its `Pc`. The semaphores are modelled as
`sem_wait`/`sem_post` give them: a count that goes negative by the number of
waiters, and a post that hands the count to the first waiter. Threads are the
tasks of pid 1 and above; pid 0 is the idle task, which makes none of these
calls, and `-1` is the `pid` of a mutex nobody holds.

The condition waits set `pid` to 0 and post the mutex semaphore, and take it back
and set `pid` when they return, but they never save or restore `nlocks`: a
thread that locked a recursive mutex twice and waits on a condition can come back
with whatever `nlocks` the other threads left (`condWait_loses_nlocks`).
-/
import TinyAra.Lib.Machine

namespace TinyAra.Kernel.Pthread

open Machine

set_option autoImplicit false

def ok : Nat := 0
def eperm : Nat := 1
def ebusy : Nat := 16
def edeadlk : Nat := 35
def etimedout : Nat := 110

/-- `PTHREAD_MUTEX_NORMAL`, `PTHREAD_MUTEX_ERRORCHECK`, `PTHREAD_MUTEX_RECURSIVE`. -/
inductive MutexType where
  | normal
  | errorcheck
  | recursive
  deriving DecidableEq, Repr

/-- A counting semaphore: `semcount` and the tasks blocked on it, in the order a
post wakes them. -/
structure Sem where
  semcount : Int
  waiters : List Nat
  deriving DecidableEq, Repr

namespace Sem

/-- `sem_wait`: the count is taken now (`true`), or the task joins the waiters. -/
def wait (s : Sem) (t : Nat) : Sem × Bool :=
  if s.semcount > 0 then ({ s with semcount := s.semcount - 1 }, true)
  else (⟨s.semcount - 1, s.waiters ++ [t]⟩, false)

def trywait (s : Sem) : Option Sem :=
  if s.semcount > 0 then some { s with semcount := s.semcount - 1 } else none

/-- `sem_post`: the count goes up, and while it is not positive the first waiter
gets it. -/
def post (s : Sem) : Sem × Option Nat :=
  if s.semcount + 1 ≤ 0 then
    match s.waiters with
    | w :: ws => (⟨s.semcount + 1, ws⟩, some w)
    | [] => (⟨s.semcount + 1, []⟩, none)
  else ({ s with semcount := s.semcount + 1 }, none)

/-- `sem_waitirq` on a signal: the waiter leaves and gives its count back. -/
def cancel (s : Sem) (t : Nat) : Sem := ⟨s.semcount + 1, s.waiters.erase t⟩

end Sem

/-- `pthread_mutex_t`. -/
structure Mutex where
  pid : Int
  sem : Sem
  type : MutexType
  nlocks : Nat
  deriving DecidableEq, Repr

def pthreadMutexInit (type : MutexType) : Mutex := ⟨-1, ⟨1, []⟩, type, 0⟩

def pthreadCondInit : Sem := ⟨0, []⟩

/-- Where a thread is in these calls. -/
inductive Pc where
  /-- Not in a call: the thread may make one. -/
  | idle
  /-- `pthread_mutex_lock`, blocked on the mutex semaphore. -/
  | lockWait (m : Nat)
  /-- `pthread_mutex_lock`, woken with the count; it sets `pid` and `nlocks` when it runs. -/
  | lockWoken (m : Nat)
  /-- A condition wait, blocked on the condition semaphore (`timed`: with a watchdog). -/
  | condWait (c m : Nat) (timed : Bool)
  /-- A condition wait past the condition, about to take the mutex back and return `ret`. -/
  | condWoken (m : Nat) (ret : Nat)
  /-- A condition wait, blocked on the mutex semaphore. -/
  | relockWait (m : Nat) (ret : Nat)
  /-- A condition wait, woken with the mutex count; it sets `pid` when it runs. -/
  | relockWoken (m : Nat) (ret : Nat)
  deriving DecidableEq, Repr

/-- Where a post leaves the waiter it hands the count to. -/
def Pc.woken : Pc → Pc
  | .lockWait m => .lockWoken m
  | .condWait _ m _ => .condWoken m ok
  | .relockWait m ret => .relockWoken m ret
  | p => p

/-- The mutexes, the conditions and the threads. -/
structure PState where
  mutexes : Nat → Mutex
  conds : Nat → Sem
  pc : Nat → Pc

/-- What a step gives back: a call returned, or the caller blocked. -/
inductive Reply where
  | ret (v : Nat)
  | blocked
  deriving DecidableEq, Repr

namespace PState

def setMutex (st : PState) (m : Nat) (mx : Mutex) : PState :=
  { st with mutexes := Function.update st.mutexes m mx }

def setCond (st : PState) (c : Nat) (s : Sem) : PState :=
  { st with conds := Function.update st.conds c s }

def setPc (st : PState) (t : Nat) (p : Pc) : PState :=
  { st with pc := Function.update st.pc t p }

def wake (st : PState) : Option Nat → PState
  | none => st
  | some w => st.setPc w (st.pc w).woken

def giveMutex (st : PState) (m : Nat) : PState :=
  let mx := st.mutexes m
  let (s, w) := mx.sem.post
  (st.setMutex m { mx with sem := s }).wake w

def giveCond (st : PState) (c : Nat) : PState :=
  let (s, w) := (st.conds c).post
  (st.setCond c s).wake w

end PState

open PState

/-- The end of a condition wait: `pthread_takesemaphore(&mutex->sem)`, and
`mutex->pid = mypid` once it is taken; `nlocks` is not touched. -/
def relock (st : PState) (t m ret : Nat) : PState × Reply :=
  let mx := st.mutexes m
  let (s, taken) := mx.sem.wait t
  if taken then (st.setMutex m { mx with sem := s, pid := t }, .ret ret)
  else ((st.setMutex m { mx with sem := s }).setPc t (.relockWait m ret), .blocked)

def pthreadMutexLock (st : PState) (t m : Nat) : PState × Reply :=
  let mx := st.mutexes m
  if mx.pid = t then
    if mx.type = .recursive then (st.setMutex m { mx with nlocks := mx.nlocks + 1 }, .ret ok)
    else (st, .ret edeadlk)
  else
    let (s, taken) := mx.sem.wait t
    if taken then (st.setMutex m { mx with sem := s, pid := t, nlocks := 1 }, .ret ok)
    else ((st.setMutex m { mx with sem := s }).setPc t (.lockWait m), .blocked)

def pthreadMutexTrylock (st : PState) (t m : Nat) : PState × Reply :=
  let mx := st.mutexes m
  match mx.sem.trywait with
  | some s =>
    let nlocks := if mx.type = .recursive then 1 else mx.nlocks
    (st.setMutex m { mx with sem := s, pid := t, nlocks := nlocks }, .ret ok)
  | none =>
    if mx.type = .recursive ∧ mx.pid = t then
      (st.setMutex m { mx with nlocks := mx.nlocks + 1 }, .ret ok)
    else (st, .ret ebusy)

def pthreadMutexUnlock (st : PState) (t m : Nat) : PState × Reply :=
  let mx := st.mutexes m
  if mx.pid ≠ t then (st, .ret eperm)
  else if mx.type = .recursive ∧ mx.nlocks > 1 then
    (st.setMutex m { mx with nlocks := mx.nlocks - 1 }, .ret ok)
  else ((st.setMutex m { mx with pid := -1, nlocks := 0 }).giveMutex m, .ret ok)

/-- The common part of the two condition waits: give the mutex up (`pid = 0`),
then take the condition semaphore, and the mutex back if that does not block. -/
def condBlock (st : PState) (t c m : Nat) (timed : Bool) : PState × Reply :=
  let st := (st.setMutex m { st.mutexes m with pid := 0 }).giveMutex m
  let (s, taken) := (st.conds c).wait t
  let st := st.setCond c s
  if taken then relock st t m ok
  else (st.setPc t (.condWait c m timed), .blocked)

def pthreadCondWait (st : PState) (t c m : Nat) : PState × Reply :=
  if (st.mutexes m).pid ≠ t then (st, .ret eperm)
  else condBlock st t c m false

/-- `pthread_cond_timedwait`, with the ticks `clock_abstime2ticks` gives for the
deadline. -/
def pthreadCondTimedwait (st : PState) (t c m : Nat) (ticks : Int) : PState × Reply :=
  if (st.mutexes m).pid ≠ t then (st, .ret eperm)
  else if ticks ≤ 0 then (st, .ret etimedout)
  else condBlock st t c m true

/-- `pthread_cond_signal`: post only when a thread waits. -/
def pthreadCondSignal (st : PState) (c : Nat) : PState × Reply :=
  if (st.conds c).semcount < 0 then (st.giveCond c, .ret ok) else (st, .ret ok)

/-- The loop of `pthread_cond_broadcast`: one post for each waiter it counted. -/
def broadcastLoop (c : Nat) : Nat → PState → PState
  | 0, st => st
  | n + 1, st => broadcastLoop c n (st.giveCond c)

def pthreadCondBroadcast (st : PState) (c : Nat) : PState × Reply :=
  (broadcastLoop c (-(st.conds c).semcount).toNat st, .ret ok)

/-- A call a thread makes. -/
inductive Call where
  | lock (m : Nat)
  | trylock (m : Nat)
  | unlock (m : Nat)
  | condWait (c m : Nat)
  | condTimedwait (c m : Nat) (ticks : Int)
  | condSignal (c : Nat)
  | condBroadcast (c : Nat)
  deriving DecidableEq, Repr

/-- What can happen next: a thread makes a call, a woken thread runs, or the
watchdog of a timed condition wait fires (`pthread_condtimedout`). -/
inductive Event where
  | call (t : Nat) (call : Call)
  | run (t : Nat)
  | timeout (t : Nat)
  deriving DecidableEq, Repr

def pthreadCall (st : PState) (t : Nat) : Call → PState × Reply
  | .lock m => pthreadMutexLock st t m
  | .trylock m => pthreadMutexTrylock st t m
  | .unlock m => pthreadMutexUnlock st t m
  | .condWait c m => pthreadCondWait st t c m
  | .condTimedwait c m ticks => pthreadCondTimedwait st t c m ticks
  | .condSignal c => pthreadCondSignal st c
  | .condBroadcast c => pthreadCondBroadcast st c

def pthreadResume (st : PState) (t : Nat) : Option (PState × Reply) :=
  match st.pc t with
  | .lockWoken m =>
    let mx := st.mutexes m
    some ((st.setPc t .idle).setMutex m { mx with pid := t, nlocks := 1 }, .ret ok)
  | .condWoken m ret => some (relock (st.setPc t .idle) t m ret)
  | .relockWoken m ret =>
    some ((st.setPc t .idle).setMutex m { st.mutexes m with pid := t }, .ret ret)
  | _ => none

/-- The watchdog's signal ends a timed condition wait with `ETIMEDOUT`. -/
def pthreadTimeout (st : PState) (t : Nat) : Option (PState × Reply) :=
  match st.pc t with
  | .condWait c m true =>
    some ((st.setCond c ((st.conds c).cancel t)).setPc t (.condWoken m etimedout), .blocked)
  | _ => none

/-- One step; only a thread of pid 1 or above acts, and only an idle one calls. -/
def pthreadStep (st : PState) : Event → Option (PState × Reply)
  | .call t call => if t ≠ 0 ∧ st.pc t = .idle then some (pthreadCall st t call) else none
  | .run t => if t ≠ 0 then pthreadResume st t else none
  | .timeout t => if t ≠ 0 then pthreadTimeout st t else none

/-- Every mutex of the given type and every condition initialised, no thread in a call. -/
def pthreadInit (type : MutexType) : PState where
  mutexes := fun _ => pthreadMutexInit type
  conds := fun _ => pthreadCondInit
  pc := fun _ => .idle

/-- Thread 1 locks a recursive mutex twice and waits on a condition; thread 2
locks and unlocks the mutex and signals. Thread 1's wait returns 0 with the mutex
but `nlocks` 0, so its one unlock gives the mutex away while it is still one lock
deep, and thread 2 then takes it. -/
theorem condWait_loses_nlocks :
    ∃ st₁ st₂,
      runOut pthreadStep (pthreadInit .recursive)
          [.call 1 (.lock 0), .call 1 (.lock 0), .call 1 (.condWait 0 0),
            .call 2 (.lock 0), .call 2 (.unlock 0), .call 2 (.condSignal 0), .run 1] =
        some (st₁, [.ret ok, .ret ok, .blocked, .ret ok, .ret ok, .ret ok, .ret ok]) ∧
      st₁.mutexes 0 = ⟨1, ⟨0, []⟩, .recursive, 0⟩ ∧ st₁.pc 1 = .idle ∧
      runOut pthreadStep st₁ [.call 1 (.unlock 0), .call 2 (.lock 0)] =
        some (st₂, [.ret ok, .ret ok]) ∧
      st₂.mutexes 0 = ⟨2, ⟨0, []⟩, .recursive, 1⟩ := by
  refine ⟨_, _, rfl, by decide, by decide, rfl, by decide⟩

end TinyAra.Kernel.Pthread
