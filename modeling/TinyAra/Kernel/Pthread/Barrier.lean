/-
# Kernel.Pthread.Barrier -- pthread barriers over a semaphore

pthread_barrierinit.c and pthread_barrierwait.c, with `sem_wait`, `sem_post` and
`sem_waitirq` as `Kernel.Pthread.Mutex` models them. A barrier is a semaphore of
no count and the `count` it was made for. It keeps no arrival counter: under
`sched_lock` a caller reads the number of threads waiting off the negative
`semcount`; one that finds `count - 1` of them posts the semaphore until its count
is 0, waking them all, and returns `PTHREAD_BARRIER_SERIAL_THREAD`; any other
caller waits on the semaphore, waits again when a signal ends its wait with
`EINTR`, and returns 0 once a post wakes it. The count is compared as the `int`
it is cast to.

* `Good n` is where a barrier of count `n` stands while no signal comes: the
  semaphore's count is minus its waiters, who are fewer than `n`, and a thread is
  waiting exactly when it is one of them.  `Good.wait` and `Good.resume` are the
  steps; a call returns `PTHREAD_BARRIER_SERIAL_THREAD` exactly when it is the
  `n`-th of its generation, and then leaves the semaphore at 0 with every other
  caller of the generation released (`releaseLoop_eq`).
* `barrierRun_generations`: over every run without signals, the calls made are
  `n` for each serial return plus those still waiting, fewer than `n`.

A signal breaks this.  `sem_waitirq` gives the interrupted waiter's count back,
so until it waits again the barrier sees one waiter fewer; a call that comes in
between waits instead of ending the generation, and the interrupted thread then
waits as well. With `count` 3 the three threads of a generation end up all
waiting, and no step of theirs ever returns (`Stuck`, `stuck_replies_blocked`);
the next call finds three waiters, frees them and returns the serial value, so
that generation has four calls (`barrier_generation_broken_by_signal`).
-/
import Mathlib.Algebra.BigOperators.Ring.List
import Mathlib.Data.List.Nodup
import TinyAra.Kernel.Pthread.Join
import TinyAra.Lib.CInt

namespace TinyAra.Kernel.Pthread

open Machine

set_option autoImplicit false

def pthreadBarrierSerialThread : Nat := 0x1000

/-- `pthread_barrier_t`. -/
structure PthreadBarrier where
  sem : Sem
  count : Nat
  deriving DecidableEq, Repr

/-- `pthread_barrier_init`: `sem_init(&barrier->sem, 0, 0)` and the count. -/
def pthreadBarrierInit (count : Nat) : Except Nat PthreadBarrier :=
  if count = 0 then .error einval else .ok ⟨⟨0, []⟩, count⟩

/-- Where a thread is in `pthread_barrier_wait`. -/
inductive BarrierPc where
  | idle
  /-- Blocked in `sem_wait` on the barrier semaphore. -/
  | waiting
  /-- Its `sem_wait` ended by a signal with `EINTR`; it will wait again. -/
  | interrupted
  /-- Woken by a post; it will return 0. -/
  | released
  deriving DecidableEq, Repr

/-- One barrier and the threads that use it. -/
structure BarrierState where
  barrier : PthreadBarrier
  pc : Nat → BarrierPc

namespace BarrierState

def setPc (st : BarrierState) (t : Nat) (p : BarrierPc) : BarrierState :=
  { st with pc := Function.update st.pc t p }

def setSem (st : BarrierState) (sem : Sem) : BarrierState :=
  { st with barrier := { st.barrier with sem := sem } }

/-- `sem_post(&barrier->sem)`: the waiter it hands the count to is released. -/
def post (st : BarrierState) : BarrierState :=
  let (sem, woken) := st.barrier.sem.post
  match woken with
  | some w => (st.setSem sem).setPc w .released
  | none => st.setSem sem

end BarrierState

open BarrierState

/-- `while (semcount < 0) sem_post(&barrier->sem)`. -/
def releaseLoop : Nat → BarrierState → BarrierState
  | 0, st => st
  | n + 1, st => if st.barrier.sem.semcount < 0 then releaseLoop n st.post else st

/-- `sem_wait(&barrier->sem)` in the loop of `pthread_barrier_wait`: with the count
taken the call returns 0, otherwise the thread blocks. -/
def barrierSemWait (st : BarrierState) (t : Nat) : BarrierState × Reply :=
  match st.barrier.sem.wait t with
  | (sem, true) => ((st.setSem sem).setPc t .idle, .ret ok)
  | (sem, false) => ((st.setSem sem).setPc t .waiting, .blocked)

/-- `pthread_barrier_wait` by thread `t`, up to where it returns or blocks; the
count is compared as the `int` it is cast to. -/
def pthreadBarrierWait (st : BarrierState) (t : Nat) : BarrierState × Reply :=
  let semcount := st.barrier.sem.semcount
  if 1 - semcount ≥ CInt.wrap 32 st.barrier.count then
    (releaseLoop (-semcount).toNat st, .ret pthreadBarrierSerialThread)
  else barrierSemWait st t

/-- What can happen next: an idle thread calls `pthread_barrier_wait`, a signal
interrupts a waiting thread (`sem_waitirq` with `EINTR`), or a thread that was
interrupted or released runs. -/
inductive BarrierEvent where
  | wait (t : Nat)
  | signal (t : Nat)
  | resume (t : Nat)
  deriving DecidableEq, Repr

def BarrierEvent.thread : BarrierEvent → Nat
  | .wait t | .signal t | .resume t => t

def BarrierEvent.Unsignalled : BarrierEvent → Prop
  | .signal _ => False
  | _ => True

/-- An interrupted thread takes `EINTR` and waits again; a released one returns 0. -/
def barrierResume (st : BarrierState) (t : Nat) : Option (BarrierState × Reply) :=
  match st.pc t with
  | .interrupted => some (barrierSemWait st t)
  | .released => some (st.setPc t .idle, .ret ok)
  | _ => none

def barrierStep (st : BarrierState) : BarrierEvent → Option (BarrierState × Reply)
  | .wait t => if st.pc t = .idle then some (pthreadBarrierWait st t) else none
  | .signal t =>
    if st.pc t = .waiting then
      some (((st.setSem (st.barrier.sem.cancel t)).setPc t .interrupted), .blocked)
    else none
  | .resume t => barrierResume st t

def barrierRun : BarrierState → List BarrierEvent → Option (BarrierState × List Reply) :=
  runOut barrierStep

/-- A barrier just initialised for `count`, no thread in it. -/
def barrierStart (count : Nat) : BarrierState := ⟨⟨⟨0, []⟩, count⟩, fun _ => .idle⟩

/-! ## The release loop -/

@[simp] theorem setSem_barrier (st : BarrierState) (sem : Sem) :
    (st.setSem sem).barrier = { st.barrier with sem := sem } := rfl

@[simp] theorem setSem_pc (st : BarrierState) (sem : Sem) : (st.setSem sem).pc = st.pc := rfl

@[simp] theorem setPc_barrier (st : BarrierState) (t : Nat) (p : BarrierPc) :
    (st.setPc t p).barrier = st.barrier := rfl

@[simp] theorem setPc_pc (st : BarrierState) (t : Nat) (p : BarrierPc) :
    (st.setPc t p).pc = Function.update st.pc t p := rfl

theorem post_waiter {st : BarrierState} {w : Nat} {ws : List Nat}
    (sem : st.barrier.sem = ⟨-(ws.length + 1 : Nat), w :: ws⟩) :
    st.post = (st.setSem ⟨-ws.length, ws⟩).setPc w .released := by
  have raised : -((ws.length + 1 : Nat) : Int) + 1 = -ws.length := by omega
  have nonpos : -(ws.length : Int) ≤ 0 := by omega
  simp only [post, Sem.post, sem, raised, if_pos nonpos]

theorem releaseLoop_eq (ws : List Nat) :
    ∀ st : BarrierState, st.barrier.sem = ⟨-ws.length, ws⟩ →
      releaseLoop ws.length st =
        ⟨⟨⟨0, []⟩, st.barrier.count⟩, fun t => if t ∈ ws then .released else st.pc t⟩ := by
  induction ws with
  | nil =>
    rintro ⟨⟨sem, count⟩, pc⟩ rfl
    simp [releaseLoop]
  | cons w ws ih =>
    intro st sem
    have negative : st.barrier.sem.semcount < 0 := by
      simp only [sem, List.length_cons]
      omega
    have posted := @post_waiter st w ws (by rw [sem, List.length_cons])
    rw [List.length_cons, releaseLoop, if_pos negative, ih st.post (by simp [posted]), posted]
    simp only [setPc_barrier, setSem_barrier, setPc_pc, setSem_pc]
    congr 1
    funext t
    by_cases same : t = w
    · simp [same]
    · simp [same]

/-! ## Between signals: generations of `n` calls -/

/-- Where a barrier of count `n` stands while no signal comes. -/
structure Good (n : Nat) (st : BarrierState) : Prop where
  count : st.barrier.count = n
  positive : 0 < n
  fits : n < 2 ^ 31
  semcount : st.barrier.sem.semcount = -st.barrier.sem.waiters.length
  fewer : st.barrier.sem.waiters.length < n
  nodup : st.barrier.sem.waiters.Nodup
  waiting : ∀ t, st.pc t = .waiting ↔ t ∈ st.barrier.sem.waiters
  uninterrupted : ∀ t, st.pc t ≠ .interrupted

theorem good_start {n : Nat} (positive : 0 < n) (fits : n < 2 ^ 31) : Good n (barrierStart n) where
  count := rfl
  positive := positive
  fits := fits
  semcount := rfl
  fewer := positive
  nodup := List.nodup_nil
  waiting := by simp [barrierStart]
  uninterrupted := by simp [barrierStart]

namespace Good

variable {n : Nat} {st : BarrierState}

theorem wrap_count (good : Good n st) : CInt.wrap 32 st.barrier.count = n := by
  rw [good.count]
  exact CInt.wrap_of_lt (by omega) (by have := good.fits; omega)

/-- The `n`-th call of a generation releases the other `n - 1` and returns the serial value;
the semaphore is back at 0. -/
theorem wait_last (good : Good n st) {t : Nat} (last : st.barrier.sem.waiters.length + 1 = n) :
    pthreadBarrierWait st t =
      (⟨⟨⟨0, []⟩, n⟩, fun t => if t ∈ st.barrier.sem.waiters then .released else st.pc t⟩,
        .ret pthreadBarrierSerialThread) := by
  have sem : st.barrier.sem = ⟨-st.barrier.sem.waiters.length, st.barrier.sem.waiters⟩ := by
    rw [← good.semcount]
  have reached : 1 - st.barrier.sem.semcount ≥ CInt.wrap 32 n := by
    rw [← good.count, good.wrap_count, good.semcount]
    omega
  have rounds : (-st.barrier.sem.semcount).toNat = st.barrier.sem.waiters.length := by
    rw [good.semcount]
    omega
  simp only [pthreadBarrierWait, good.count, if_pos reached, rounds, releaseLoop_eq _ st sem]

theorem wait_early (good : Good n st) {t : Nat} (early : st.barrier.sem.waiters.length + 1 < n) :
    pthreadBarrierWait st t =
      ((st.setSem ⟨st.barrier.sem.semcount - 1, st.barrier.sem.waiters ++ [t]⟩).setPc t .waiting,
        .blocked) := by
  have short : ¬ 1 - st.barrier.sem.semcount ≥ CInt.wrap 32 st.barrier.count := by
    rw [good.wrap_count, good.semcount]
    omega
  have empty : ¬ st.barrier.sem.semcount > 0 := by
    rw [good.semcount]
    omega
  simp only [pthreadBarrierWait, if_neg short, barrierSemWait, Sem.wait, if_neg empty]

theorem wait (good : Good n st) {t : Nat} (idle : st.pc t = .idle) :
    Good n (pthreadBarrierWait st t).1 := by
  by_cases last : st.barrier.sem.waiters.length + 1 = n
  · rw [good.wait_last last]
    refine ⟨rfl, good.positive, good.fits, rfl, good.positive, List.nodup_nil, ?_, ?_⟩
    · intro u
      by_cases mem : u ∈ st.barrier.sem.waiters
      · simp [mem]
      · simp [mem, good.waiting u]
    · intro u
      by_cases mem : u ∈ st.barrier.sem.waiters
      · simp [mem]
      · simp [mem, good.uninterrupted u]
  · have early : st.barrier.sem.waiters.length + 1 < n := by
      have := good.fewer
      omega
    have outside : t ∉ st.barrier.sem.waiters := by
      rw [← good.waiting t, idle]
      simp
    rw [good.wait_early early]
    refine ⟨good.count, good.positive, good.fits, ?_, ?_, ?_, ?_, ?_⟩
    · simp [good.semcount]
      omega
    · simpa using early
    · exact good.nodup.append (List.nodup_singleton t) (by simpa using outside)
    · intro u
      by_cases same : u = t
      · simp [same]
      · simp [good.waiting u, same]
    · intro u
      by_cases same : u = t
      · simp [same]
      · simp [Function.update_of_ne same, good.uninterrupted u]

theorem resume (good : Good n st) {t : Nat} {st' : BarrierState} {r : Reply}
    (stepped : barrierResume st t = some (st', r)) :
    st' = st.setPc t .idle ∧ r = .ret ok ∧ Good n st' := by
  unfold barrierResume at stepped
  split at stepped
  · exact absurd ‹st.pc t = .interrupted› (good.uninterrupted t)
  · rename_i released
    obtain ⟨rfl, rfl⟩ := Prod.mk.inj (Option.some.inj stepped)
    refine ⟨rfl, rfl, good.count, good.positive, good.fits, good.semcount, good.fewer,
      good.nodup, ?_, ?_⟩
    · intro u
      by_cases same : u = t
      · subst same
        simp only [setPc_pc, Function.update_self, setPc_barrier, reduceCtorEq, false_iff]
        rw [← good.waiting u, released]
        simp
      · simp [Function.update_of_ne same, good.waiting u]
    · intro u
      by_cases same : u = t
      · simp [same]
      · simp [Function.update_of_ne same, good.uninterrupted u]
  · cases stepped

end Good

/-- A call of `pthread_barrier_wait` counts one arrival. -/
def BarrierEvent.arrival : BarrierEvent → Nat
  | .wait _ => 1
  | _ => 0

/-- The serial return counts one. -/
def serial (r : Reply) : Nat := if r = .ret pthreadBarrierSerialThread then 1 else 0

theorem Good.step {n : Nat} {st st' : BarrierState} {e : BarrierEvent} {r : Reply}
    (good : Good n st) (unsignalled : e.Unsignalled) (stepped : barrierStep st e = some (st', r)) :
    Good n st' ∧
      st'.barrier.sem.waiters.length + n * serial r = st.barrier.sem.waiters.length + e.arrival := by
  cases e with
  | wait t =>
    simp only [barrierStep] at stepped
    split_ifs at stepped with idle
    have called : pthreadBarrierWait st t = (st', r) := Option.some.inj stepped
    have good' := good.wait idle
    rw [called] at good'
    refine ⟨good', ?_⟩
    by_cases last : st.barrier.sem.waiters.length + 1 = n
    · rw [good.wait_last last, Prod.mk.injEq] at called
      obtain ⟨rfl, rfl⟩ := called
      simp [serial, BarrierEvent.arrival, last]
    · have early : st.barrier.sem.waiters.length + 1 < n := by
        have := good.fewer
        omega
      rw [good.wait_early early, Prod.mk.injEq] at called
      obtain ⟨rfl, rfl⟩ := called
      simp [serial, BarrierEvent.arrival]
  | signal t => exact absurd unsignalled id
  | resume t =>
    obtain ⟨rfl, rfl, good'⟩ := good.resume stepped
    refine ⟨good', ?_⟩
    simp [serial, pthreadBarrierSerialThread, ok, BarrierEvent.arrival]

theorem barrierRun_generations {n : Nat} {st st' : BarrierState} {evs : List BarrierEvent}
    {replies : List Reply} (good : Good n st) (unsignalled : ∀ e ∈ evs, e.Unsignalled)
    (ran : barrierRun st evs = some (st', replies)) :
    Good n st' ∧
      st.barrier.sem.waiters.length + (evs.map BarrierEvent.arrival).sum =
        n * (replies.map serial).sum + st'.barrier.sem.waiters.length := by
  have same := runOut_length evs st st' replies ran
  have balanced := runOut_balance_allowed (fun st : BarrierState => st.barrier.sem.waiters.length)
    (fun e _ => e.arrival) (fun _ r => n * serial r) (Good n) BarrierEvent.Unsignalled
    (fun _ _ _ _ allowed good stepped => (good.step allowed stepped).1)
    (fun _ _ _ _ allowed good stepped => (good.step allowed stepped).2) evs st st' replies
    unsignalled good ran
  -- the arrivals are read off the events alone, the serial returns off the replies alone
  have events : (evs.zip replies).map (fun p => p.1.arrival) = evs.map BarrierEvent.arrival :=
    calc (evs.zip replies).map (fun p => p.1.arrival)
        = ((evs.zip replies).map Prod.fst).map BarrierEvent.arrival := by rw [List.map_map]; rfl
      _ = evs.map BarrierEvent.arrival := by rw [List.map_fst_zip same.ge]
  have returns : (evs.zip replies).map (fun p => n * serial p.2) = replies.map (n * serial ·) :=
    calc (evs.zip replies).map (fun p => n * serial p.2)
        = ((evs.zip replies).map Prod.snd).map (n * serial ·) := by rw [List.map_map]; rfl
      _ = replies.map (n * serial ·) := by rw [List.map_snd_zip same.le]
  rw [events, returns, List.sum_map_mul_left] at balanced
  exact ⟨runOut_invariant (Good n) BarrierEvent.Unsignalled
    (fun _ _ _ _ allowed good stepped => (good.step allowed stepped).1) evs st st' replies
    unsignalled good ran, by omega⟩

theorem barrierRun_generations_pair :
    ∃ st' replies, barrierRun (barrierStart 2) [.wait 1, .wait 2] = some (st', replies) ∧
      Good 2 st' ∧ (barrierStart 2).barrier.sem.waiters.length +
        ([BarrierEvent.wait 1, .wait 2].map BarrierEvent.arrival).sum =
          2 * (replies.map serial).sum + st'.barrier.sem.waiters.length :=
  ⟨_, _, rfl, barrierRun_generations (good_start (n := 2) (by decide) (by decide))
    (by simp [BarrierEvent.Unsignalled]) rfl⟩

/-! ## A signal: a generation that never ends on its own -/

/-- Every thread of `ts` is inside `pthread_barrier_wait`, blocked or interrupted, and the
semaphore's count is minus its waiters. -/
structure Stuck (ts : List Nat) (st : BarrierState) : Prop where
  semcount : st.barrier.sem.semcount = -st.barrier.sem.waiters.length
  nodup : st.barrier.sem.waiters.Nodup
  waiting : ∀ t, st.pc t = .waiting ↔ t ∈ st.barrier.sem.waiters
  inside : ∀ t ∈ ts, st.pc t = .waiting ∨ st.pc t = .interrupted

theorem Stuck.step {ts : List Nat} {st st' : BarrierState} {e : BarrierEvent} {r : Reply}
    (stuck : Stuck ts st) (mine : e.thread ∈ ts) (stepped : barrierStep st e = some (st', r)) :
    Stuck ts st' ∧ r = .blocked := by
  cases e with
  | wait t =>
    simp only [barrierStep] at stepped
    split_ifs at stepped with idle
    rcases stuck.inside t mine with waiting | interrupted
    · simp [waiting] at idle
    · simp [interrupted] at idle
  | signal t =>
    simp only [barrierStep] at stepped
    split_ifs at stepped with waiting
    obtain ⟨rfl, rfl⟩ := Prod.mk.inj (Option.some.inj stepped)
    have mem : t ∈ st.barrier.sem.waiters := (stuck.waiting t).mp waiting
    refine ⟨⟨?_, stuck.nodup.erase t, ?_, ?_⟩, rfl⟩
    · simp only [setPc_barrier, setSem_barrier, Sem.cancel, List.length_erase_of_mem mem,
        stuck.semcount]
      have := List.length_pos_of_mem mem
      omega
    · intro u
      by_cases same : u = t
      · subst same
        simp [Sem.cancel, stuck.nodup.mem_erase_iff]
      · simp [Sem.cancel, stuck.nodup.mem_erase_iff, same, stuck.waiting u]
    · intro u _
      by_cases same : u = t
      · simp [same]
      · simp [Function.update_of_ne same, stuck.inside u ‹u ∈ ts›]
  | resume t =>
    have interrupted : st.pc t = .interrupted := by
      rcases stuck.inside t mine with waiting | interrupted
      · simp [barrierStep, barrierResume, waiting] at stepped
      · exact interrupted
    have outside : t ∉ st.barrier.sem.waiters := by
      rw [← stuck.waiting t, interrupted]
      simp
    have empty : ¬ st.barrier.sem.semcount > 0 := by
      rw [stuck.semcount]
      omega
    simp only [barrierStep, barrierResume, interrupted, barrierSemWait, Sem.wait, if_neg empty,
      Option.some.injEq, Prod.mk.injEq] at stepped
    obtain ⟨rfl, rfl⟩ := stepped
    refine ⟨⟨?_, stuck.nodup.append (List.nodup_singleton t) (by simpa using outside), ?_, ?_⟩, rfl⟩
    · simp [stuck.semcount]
      omega
    · intro u
      by_cases same : u = t
      · simp [same]
      · simp [stuck.waiting u, same]
    · intro u _
      by_cases same : u = t
      · simp [same]
      · simp [Function.update_of_ne same, stuck.inside u ‹u ∈ ts›]

theorem stuck_replies_blocked {ts : List Nat} {st st' : BarrierState} {evs : List BarrierEvent}
    {replies : List Reply} (stuck : Stuck ts st) (mine : ∀ e ∈ evs, e.thread ∈ ts)
    (ran : barrierRun st evs = some (st', replies)) : ∀ r ∈ replies, r = .blocked :=
  runOut_answers (Stuck ts) (fun e => e.thread ∈ ts) (· = .blocked)
    (fun _ _ _ _ mine stuck stepped => stuck.step mine stepped) evs st st' replies mine stuck ran

/-- With `count` 3, threads 1 and 2 wait, a signal interrupts thread 1, thread 3 calls
and, seeing one waiter, waits, and thread 1 waits again. The three callers of the
generation are all blocked with the semaphore at -3, and no run of their own steps
returns; a fourth call then returns the serial value and frees the three. -/
theorem barrier_generation_broken_by_signal :
    ∃ st₁ st₂,
      barrierRun (barrierStart 3) [.wait 1, .wait 2, .signal 1, .wait 3, .resume 1] =
        some (st₁, [.blocked, .blocked, .blocked, .blocked, .blocked]) ∧
      st₁.barrier.sem = ⟨-3, [2, 3, 1]⟩ ∧
      (∀ evs st' replies, (∀ e ∈ evs, BarrierEvent.thread e ∈ [1, 2, 3]) →
        barrierRun st₁ evs = some (st', replies) → ∀ r ∈ replies, r = .blocked) ∧
      barrierRun st₁ [.wait 4, .resume 2, .resume 3, .resume 1] =
        some (st₂, [.ret pthreadBarrierSerialThread, .ret ok, .ret ok, .ret ok]) ∧
      st₂.barrier.sem = ⟨0, []⟩ := by
  refine ⟨_, _, rfl, rfl, ?_, rfl, rfl⟩
  intro evs st' replies mine ran
  refine stuck_replies_blocked ⟨rfl, by decide, ?_, ?_⟩ mine ran
  · intro t
    by_cases one : t = 1
    · subst one
      decide
    by_cases two : t = 2
    · subst two
      decide
    by_cases three : t = 3
    · subst three
      decide
    simp [barrierStart, setPc, setSem, Sem.cancel, Function.update, one, two, three]
  · intro t mem
    simp only [List.mem_cons, List.not_mem_nil, or_false] at mem
    rcases mem with rfl | rfl | rfl <;> decide

end TinyAra.Kernel.Pthread
