/-
# Arastorage.RwLock -- the reader-writer lock of arastorage

`rw_locks.c` builds a reader-writer lock from a mutex, three condition variables and three
fields.  `readers` counts the readers.  `writers` counts the writers holding or waiting for the
lock, and `writerActive` says whether one holds it. Every function runs under the mutex, which
`pthread_cond_wait` gives up while it waits. So each piece of a function between two waits is
one step. A thread blocked on the mutex is a thread whose step has not come yet.

A condition variable is a semaphore of no count (`Kernel.Pthread.Sem`): a wait joins its
waiters, and `pthread_cond_signal` posts only when someone waits, waking the first waiter. A
woken thread takes the mutex back and tests the loop it waited in again.

Every wake-up is one signal. Two writers that wait for the readers to leave are woken by the
last reader's one signal on `noReaders`. The first writer's unlock signals `noActiveWriter`,
where nobody waits. The second writer then waits on `noReaders` with the lock free. It counts
in `writers`, so no reader gets in again to signal `noReaders`, and it waits for ever.

* `Good`: the fields count the threads in each place, the waiters of each condition are the
  threads blocked on it, and at most one thread writes, with no reader beside it;
  `rwStep_good` and `rwRun_good` carry it over every step and every run;
* `rwRun_exclusive`: a writer holds the lock alone;
* `Starved` and `starved_forever`: a writer that waits on `noReaders` while no thread reads
  waits for ever;
* `rwlock_loses_wakeup`: a run of three threads that leaves the lock free and a writer blocked
  for ever.
-/
import TinyAra.Kernel.Pthread.Mutex
import TinyAra.Lib.Census

namespace TinyAra.Arastorage.RwLock

open Kernel.Pthread (Sem pthreadCondInit)
open Machine Census

set_option autoImplicit false

/-- The three condition variables of `struct rw_lock_s`. -/
inductive Cond where
  | noWriters
  | noActiveWriter
  | noReaders
  deriving DecidableEq, Repr

/-- `struct rw_lock_s` without its mutex: the semaphore of each condition variable and the
three fields. -/
structure RwLockS where
  noWriters : Sem
  noActiveWriter : Sem
  noReaders : Sem
  readers : Int
  writers : Int
  writerActive : Bool
  deriving DecidableEq, Repr

namespace RwLockS

/-- The semaphore of a condition variable. -/
def cond (l : RwLockS) : Cond → Sem
  | .noWriters => l.noWriters
  | .noActiveWriter => l.noActiveWriter
  | .noReaders => l.noReaders

def setCond (l : RwLockS) : Cond → Sem → RwLockS
  | .noWriters, s => { l with noWriters := s }
  | .noActiveWriter, s => { l with noActiveWriter := s }
  | .noReaders, s => { l with noReaders := s }

end RwLockS

def rwInit : RwLockS := ⟨pthreadCondInit, pthreadCondInit, pthreadCondInit, 0, 0, false⟩

/-- Where a thread is in the lock's functions. -/
inductive Pc where
  /-- Holding nothing and in no call. -/
  | idle
  /-- Holding the read lock. -/
  | reading
  /-- Holding the write lock. -/
  | writing
  /-- Blocked in `pthread_cond_wait` on `c`, in the loop that waits on `c`. -/
  | waiting (c : Cond)
  /-- Posted on `c`: about to take the mutex back and test its loop again. -/
  | woken (c : Cond)
  deriving DecidableEq, Repr

/-- The places where `rw_lock_write` and `rw_trylock_write` count a thread in `writers`. -/
def Pc.isWriter : Pc → Bool
  | .writing => true
  | .waiting .noReaders | .woken .noReaders => true
  | .waiting .noActiveWriter | .woken .noActiveWriter => true
  | _ => false

/-- The lock and where each thread is. -/
structure RwState where
  lock : RwLockS
  pc : Nat → Pc

def rwStart : RwState := ⟨rwInit, fun _ => .idle⟩

/-! ## The functions -/

/-- `pthread_cond_wait(c, &rwLock->mutex)` by thread `t`, the mutex apart: `t` takes the
semaphore of `c` and blocks on it, unless a count is there. -/
def condWait (st : RwState) (t : Nat) (c : Cond) : RwState :=
  let (s, taken) := (st.lock.cond c).wait t
  ⟨st.lock.setCond c s, Function.update st.pc t (if taken then .woken c else .waiting c)⟩

/-- `pthread_cond_signal(c)`: a post only when some thread waits; the waiter it hands the count
to is woken. -/
def condSignal (st : RwState) (c : Cond) : RwState :=
  if (st.lock.cond c).semcount < 0 then
    let (s, w) := (st.lock.cond c).post
    let st := { st with lock := st.lock.setCond c s }
    match w with
    | some w => { st with pc := Function.update st.pc w (.woken c) }
    | none => st
  else st

/-- The loop of `rw_lock_read` from its test: wait on `noWriters` while there are writers, then
count the reader. -/
def lockReadLoop (st : RwState) (t : Nat) : RwState :=
  if st.lock.writers > 0 then condWait st t .noWriters
  else ⟨{ st.lock with readers := st.lock.readers + 1 }, Function.update st.pc t .reading⟩

def rwLockRead (st : RwState) (t : Nat) : RwState := lockReadLoop st t

/-- `rw_unlock_read`: the last reader signals `noReaders`. -/
def rwUnlockRead (st : RwState) (t : Nat) : RwState :=
  let st : RwState := ⟨{ st.lock with readers := st.lock.readers - 1 }, Function.update st.pc t .idle⟩
  if st.lock.readers = 0 then condSignal st .noReaders else st

/-- `rw_trylock_write`: 1 when it takes the lock, 0 when anyone holds or waits for it. -/
def rwTrylockWrite (st : RwState) (t : Nat) : RwState × Int :=
  if st.lock.readers > 0 ∨ st.lock.writers > 0 ∨ st.lock.writerActive then (st, 0)
  else (⟨{ st.lock with writers := st.lock.writers + 1, writerActive := true },
    Function.update st.pc t .writing⟩, 1)

/-- The second loop of `rw_lock_write` from its test: wait on `noActiveWriter` while a writer is
active, then become the active writer. -/
def lockWriteActiveLoop (st : RwState) (t : Nat) : RwState :=
  if st.lock.writerActive then condWait st t .noActiveWriter
  else ⟨{ st.lock with writerActive := true }, Function.update st.pc t .writing⟩

/-- The first loop of `rw_lock_write` from its test: wait on `noReaders` while there are
readers, then the second loop. -/
def lockWriteReadersLoop (st : RwState) (t : Nat) : RwState :=
  if st.lock.readers > 0 then condWait st t .noReaders else lockWriteActiveLoop st t

/-- `rw_lock_write`: announce the writer, then the two loops. -/
def rwLockWrite (st : RwState) (t : Nat) : RwState :=
  lockWriteReadersLoop { st with lock := { st.lock with writers := st.lock.writers + 1 } } t

/-- `rw_unlock_write`: signal `noActiveWriter` while writers are left, `noWriters` otherwise. -/
def rwUnlockWrite (st : RwState) (t : Nat) : RwState :=
  let st : RwState := ⟨{ st.lock with writerActive := false, writers := st.lock.writers - 1 },
    Function.update st.pc t .idle⟩
  if st.lock.writers > 0 then condSignal st .noActiveWriter else condSignal st .noWriters

/-- A thread woken on `c` takes the mutex back and tests the loop it waited in again. -/
def resume (st : RwState) (t : Nat) : Cond → RwState
  | .noWriters => lockReadLoop st t
  | .noReaders => lockWriteReadersLoop st t
  | .noActiveWriter => lockWriteActiveLoop st t

/-- What can happen next: a thread calls one of the functions, or a woken thread runs. -/
inductive Event where
  | lockRead (t : Nat)
  | unlockRead (t : Nat)
  | trylockWrite (t : Nat)
  | lockWrite (t : Nat)
  | unlockWrite (t : Nat)
  | run (t : Nat)
  deriving DecidableEq, Repr

/-- What a step gives back: the call returned (with a value), or the thread waits. -/
inductive Reply where
  | done
  | ret (v : Int)
  | blocked
  deriving DecidableEq, Repr

def Pc.reply : Pc → Reply
  | .waiting _ | .woken _ => .blocked
  | _ => .done

section Steps

variable (threads : Finset Nat)

/-- One step of the threads of `threads`. A thread calls a lock function only when it holds
nothing, and each unlock is of the lock it holds. -/
def rwStep (st : RwState) : Event → Option (RwState × Reply)
  | .lockRead t =>
    if t ∈ threads ∧ st.pc t = .idle then
      let st := rwLockRead st t
      some (st, (st.pc t).reply)
    else none
  | .unlockRead t => if t ∈ threads ∧ st.pc t = .reading then some (rwUnlockRead st t, .done) else none
  | .trylockWrite t =>
    if t ∈ threads ∧ st.pc t = .idle then
      let (st, ret) := rwTrylockWrite st t
      some (st, .ret ret)
    else none
  | .lockWrite t =>
    if t ∈ threads ∧ st.pc t = .idle then
      let st := rwLockWrite st t
      some (st, (st.pc t).reply)
    else none
  | .unlockWrite t => if t ∈ threads ∧ st.pc t = .writing then some (rwUnlockWrite st t, .done) else none
  | .run t =>
    match st.pc t with
    | .woken c =>
      if t ∈ threads then
        let st := resume st t c
        some (st, (st.pc t).reply)
      else none
    | _ => none

end Steps

/-! ## The waiters of a condition -/

namespace RwLockS

@[simp] theorem cond_setCond_self (l : RwLockS) (c : Cond) (s : Sem) : (l.setCond c s).cond c = s := by
  cases c <;> rfl

theorem cond_setCond_of_ne (l : RwLockS) {c c' : Cond} (s : Sem) (apart : c' ≠ c) :
    (l.setCond c s).cond c' = l.cond c' := by
  cases c <;> cases c' <;> first | rfl | exact absurd rfl apart

@[simp] theorem readers_setCond (l : RwLockS) (c : Cond) (s : Sem) : (l.setCond c s).readers = l.readers := by
  cases c <;> rfl

@[simp] theorem writers_setCond (l : RwLockS) (c : Cond) (s : Sem) : (l.setCond c s).writers = l.writers := by
  cases c <;> rfl

@[simp] theorem writerActive_setCond (l : RwLockS) (c : Cond) (s : Sem) :
    (l.setCond c s).writerActive = l.writerActive := by
  cases c <;> rfl

theorem cond_of_sems {l l' : RwLockS} (a : l'.noWriters = l.noWriters) (b : l'.noActiveWriter = l.noActiveWriter)
    (d : l'.noReaders = l.noReaders) (c : Cond) : l'.cond c = l.cond c := by
  cases c
  · exact a
  · exact b
  · exact d

end RwLockS

/-- The semaphore of `c` counts its waiters down, and they are, once each, the threads blocked
on `c`. -/
structure CondGood (st : RwState) (c : Cond) : Prop where
  nodup : (st.lock.cond c).waiters.Nodup
  waiters : ∀ t, t ∈ (st.lock.cond c).waiters ↔ st.pc t = .waiting c
  semcount : (st.lock.cond c).semcount = -((st.lock.cond c).waiters.length : Int)

theorem CondGood.congr {st st' : RwState} {c : Cond} (good : CondGood st c)
    (sem : st'.lock.cond c = st.lock.cond c) (pcs : ∀ t, st'.pc t = .waiting c ↔ st.pc t = .waiting c) :
    CondGood st' c where
  nodup := by rw [sem]; exact good.nodup
  waiters t := by rw [sem, pcs]; exact good.waiters t
  semcount := by rw [sem]; exact good.semcount

theorem CondGood.update {st : RwState} {c : Cond} (good : CondGood st c) {l : RwLockS}
    (sem : l.cond c = st.lock.cond c) {t : Nat} {p : Pc} (before : st.pc t ≠ .waiting c)
    (after : p ≠ .waiting c) : CondGood ⟨l, Function.update st.pc t p⟩ c := by
  refine good.congr sem fun u => ?_
  by_cases same : u = t
  · subst same
    simp only [Function.update_self]
    exact ⟨fun h => absurd h after, fun h => absurd h before⟩
  · simp only [Function.update_of_ne same]

theorem condWait_eq {st : RwState} {c : Cond} (good : CondGood st c) (t : Nat) :
    condWait st t c = ⟨st.lock.setCond c ⟨(st.lock.cond c).semcount - 1, (st.lock.cond c).waiters ++ [t]⟩,
      Function.update st.pc t (.waiting c)⟩ := by
  have empty : ¬ (st.lock.cond c).semcount > 0 := by
    rw [good.semcount]
    omega
  simp [condWait, Sem.wait, empty]

theorem CondGood.wait {st : RwState} {t : Nat} (free : ∀ c, st.pc t ≠ .waiting c) (c : Cond)
    (good : ∀ c', CondGood st c') (c' : Cond) : CondGood (condWait st t c) c' := by
  rw [condWait_eq (good c)]
  by_cases same : c' = c
  · subst same
    have fresh : t ∉ (st.lock.cond c').waiters := fun mem => free c' (((good c').waiters t).mp mem)
    refine ⟨?_, fun u => ?_, ?_⟩
    · simpa using (good c').nodup.concat fresh
    · by_cases at_t : u = t
      · subst at_t
        simp
      · simp [at_t, (good c').waiters u]
    · simp [(good c').semcount]
      omega
  · exact (good c').update (RwLockS.cond_setCond_of_ne _ _ same) (free c')
      (fun h => same (Pc.waiting.inj h).symm)

theorem condSignal_of_nil {st : RwState} {c : Cond} (good : CondGood st c)
    (empty : (st.lock.cond c).waiters = []) : condSignal st c = st := by
  have none : ¬ (st.lock.cond c).semcount < 0 := by
    rw [good.semcount, empty]
    simp
  simp [condSignal, none]

theorem condSignal_of_cons {st : RwState} {c : Cond} (good : CondGood st c) {w : Nat} {ws : List Nat}
    (first : (st.lock.cond c).waiters = w :: ws) :
    condSignal st c = ⟨st.lock.setCond c ⟨(st.lock.cond c).semcount + 1, ws⟩,
      Function.update st.pc w (.woken c)⟩ := by
  have count : (st.lock.cond c).semcount = -((ws.length : Int) + 1) := by
    rw [good.semcount, first]
    simp
  have some : (st.lock.cond c).semcount < 0 := by omega
  have taken : (st.lock.cond c).semcount + 1 ≤ 0 := by omega
  simp [condSignal, some, Sem.post, taken, first]

theorem CondGood.signal {st : RwState} {c : Cond} (good : ∀ c', CondGood st c') {w : Nat} {ws : List Nat}
    (first : (st.lock.cond c).waiters = w :: ws) (c' : Cond) :
    CondGood ⟨st.lock.setCond c ⟨(st.lock.cond c).semcount + 1, ws⟩, Function.update st.pc w (.woken c)⟩ c' := by
  have waiting : st.pc w = .waiting c := ((good c).waiters w).mp (by simp [first])
  by_cases same : c' = c
  · subst same
    have nodup := (good c').nodup
    rw [first, List.nodup_cons] at nodup
    refine ⟨by simpa using nodup.2, fun u => ?_, ?_⟩
    · by_cases at_w : u = w
      · subst at_w
        simp [nodup.1]
      · have old := (good c').waiters u
        rw [first, List.mem_cons, or_iff_right at_w] at old
        simpa [at_w] using old
    · have count := (good c').semcount
      rw [first] at count
      simp only [count, List.length_cons, Int.natCast_add, Int.cast_ofNat_Int,
        RwLockS.cond_setCond_self]
      omega
  · exact (good c').update (RwLockS.cond_setCond_of_ne _ _ same) (by rw [waiting]; exact fun h => same (Pc.waiting.inj h).symm)
      (by simp)

theorem condWait_pc {st : RwState} {c : Cond} (good : CondGood st c) (t : Nat) :
    (condWait st t c).pc = Function.update st.pc t (.waiting c) := by
  rw [condWait_eq good]

theorem condSignal_pc {st : RwState} {c : Cond} (good : CondGood st c) {u : Nat} (other : st.pc u ≠ .waiting c) :
    (condSignal st c).pc u = st.pc u := by
  cases first : (st.lock.cond c).waiters with
  | nil => rw [condSignal_of_nil good first]
  | cons w ws =>
    rw [condSignal_of_cons good first]
    have waiting : st.pc w = .waiting c := (good.waiters w).mp (by simp [first])
    exact Function.update_of_ne (fun same : u = w => other (same ▸ waiting)) _ _

theorem condSignal_pc_cases {st : RwState} {c : Cond} (good : CondGood st c) (u : Nat) :
    (condSignal st c).pc u = st.pc u ∨ (condSignal st c).pc u = .woken c := by
  cases first : (st.lock.cond c).waiters with
  | nil => exact .inl (by rw [condSignal_of_nil good first])
  | cons w ws =>
    rw [condSignal_of_cons good first]
    by_cases at_w : u = w
    · subst at_w
      exact .inr (Function.update_self ..)
    · exact .inl (Function.update_of_ne at_w _ _)

theorem lockWriteActiveLoop_pc {st : RwState} (good : CondGood st .noActiveWriter) (t : Nat) :
    ∃ p, p ≠ .reading ∧ (lockWriteActiveLoop st t).pc = Function.update st.pc t p := by
  unfold lockWriteActiveLoop
  split
  · exact ⟨_, by simp, condWait_pc good t⟩
  · exact ⟨_, by simp, rfl⟩

theorem lockWriteReadersLoop_pc {st : RwState} (good : ∀ c, CondGood st c) (t : Nat) :
    ∃ p, p ≠ .reading ∧ (lockWriteReadersLoop st t).pc = Function.update st.pc t p := by
  unfold lockWriteReadersLoop
  split
  · exact ⟨_, by simp, condWait_pc (good _) t⟩
  · exact lockWriteActiveLoop_pc (good _) t

/-! ## The invariant -/

/-- The places past the readers loop of `rw_lock_write`, where the writer wants no reader. -/
def Pc.pastReaders : Pc → Bool
  | .writing | .waiting .noActiveWriter | .woken .noActiveWriter => true
  | _ => false

theorem Pc.isWriter_of_pastReaders {p : Pc} (past : p.pastReaders = true) : p.isWriter = true := by
  cases p with
  | waiting c => cases c <;> simp_all [pastReaders, isWriter]
  | woken c => cases c <;> simp_all [pastReaders, isWriter]
  | _ => simp_all [pastReaders, isWriter]

/-- What the lock's fields say of the threads `threads`. -/
structure Good (threads : Finset Nat) (st : RwState) : Prop where
  outside : ∀ t ∉ threads, st.pc t = .idle
  readers : st.lock.readers = census threads st.pc (· = .reading)
  writers : st.lock.writers = census threads st.pc (·.isWriter = true)
  active : st.lock.writerActive = true ↔ ∃ t, st.pc t = .writing
  unique : ∀ t u, st.pc t = .writing → st.pc u = .writing → t = u
  alone : ∀ t, (st.pc t).pastReaders = true → st.lock.readers = 0
  conds : ∀ c, CondGood st c

theorem good_rwStart (threads : Finset Nat) : Good threads rwStart where
  outside _ _ := rfl
  readers := by simp [rwStart, rwInit, census]
  writers := by simp [rwStart, rwInit, census, Pc.isWriter]
  active := by simp [rwStart, rwInit]
  unique _ _ idle := nomatch idle
  alone _ past := nomatch past
  conds c := by
    refine ⟨?_, fun t => ?_, ?_⟩ <;> cases c <;> simp [rwStart, rwInit, RwLockS.cond, pthreadCondInit]

section Invariant

variable {threads : Finset Nat} {st : RwState}
variable {t : Nat} {p : Pc} {st' : RwState}

theorem update_iff {f : Nat → Pc} {Q : Pc → Prop} (before : ¬ Q (f t)) (after : ¬ Q p)
    (u : Nat) : Q (Function.update f t p u) ↔ Q (f u) := by
  by_cases at_t : u = t
  · subst at_t
    simp [before, after]
  · rw [Function.update_of_ne at_t]

theorem of_update {f : Nat → Pc} {Q : Pc → Prop} (after : ¬ Q p) {u : Nat}
    (holds : Q (Function.update f t p u)) : u ≠ t ∧ Q (f u) := by
  by_cases at_t : u = t
  · subst at_t
    rw [Function.update_self] at holds
    exact absurd holds after
  · rw [Function.update_of_ne at_t] at holds
    exact ⟨at_t, holds⟩

theorem Good.mem (good : Good threads st) (busy : st.pc t ≠ .idle) : t ∈ threads := by
  by_contra outside
  exact busy (good.outside t outside)

theorem Good.readers_pos (good : Good threads st) (reading : st.pc t = .reading) :
    st.lock.readers > 0 := by
  have counted : 0 < census threads st.pc (· = .reading) :=
    census_pos.mpr ⟨t, good.mem (by simp [reading]), reading⟩
  rw [good.readers]
  omega

theorem Good.writers_pos (good : Good threads st) (writer : (st.pc t).isWriter = true) :
    st.lock.writers > 0 := by
  have busy : st.pc t ≠ .idle := fun idle => by simp [idle, Pc.isWriter] at writer
  have counted : 0 < census threads st.pc (·.isWriter = true) := census_pos.mpr ⟨t, good.mem busy, writer⟩
  rw [good.writers]
  omega

theorem Good.readers_nonneg (good : Good threads st) : st.lock.readers ≥ 0 := by
  rw [good.readers]
  omega

theorem Good.active_update (good : Good threads st) (before : st.pc t ≠ .writing)
    (after : p ≠ .writing) : st.lock.writerActive = true ↔ ∃ u, Function.update st.pc t p u = .writing := by
  rw [good.active]
  exact exists_congr fun u => (update_iff (Q := (· = Pc.writing)) before after u).symm

theorem Good.unique_update (good : Good threads st) (after : p ≠ .writing) (u u' : Nat)
    (writing : Function.update st.pc t p u = .writing) (writing' : Function.update st.pc t p u' = .writing) :
    u = u' :=
  good.unique u u' (of_update (Q := (· = Pc.writing)) after writing).2
    (of_update (Q := (· = Pc.writing)) after writing').2

theorem Good.unique_take (good : Good threads st) (idle : st.lock.writerActive ≠ true) (u u' : Nat)
    (writing : Function.update st.pc t .writing u = .writing)
    (writing' : Function.update st.pc t .writing u' = .writing) : u = u' := by
  have only : ∀ v, Function.update st.pc t .writing v = .writing → v = t := fun v holds => by
    by_contra at_t
    rw [Function.update_of_ne at_t] at holds
    exact idle (good.active.mpr ⟨v, holds⟩)
  rw [only u writing, only u' writing']

theorem Good.update (good : Good threads st) (mem : t ∈ threads) {l : RwLockS}
    (sems : ∀ c, l.cond c = st.lock.cond c) (free : ∀ c, st.pc t ≠ .waiting c) (free' : ∀ c, p ≠ .waiting c)
    (readers : l.readers + (if st.pc t = .reading then 1 else 0) = st.lock.readers + if p = .reading then 1 else 0)
    (writers : l.writers + (if (st.pc t).isWriter = true then 1 else 0) =
      st.lock.writers + if p.isWriter = true then 1 else 0)
    (active : l.writerActive = true ↔ ∃ u, Function.update st.pc t p u = .writing)
    (unique : ∀ u u', Function.update st.pc t p u = .writing → Function.update st.pc t p u' = .writing → u = u')
    (alone : ∀ u, (Function.update st.pc t p u).pastReaders = true → l.readers = 0) :
    Good threads ⟨l, Function.update st.pc t p⟩ where
  outside u outside := by
    dsimp only
    rw [Function.update_of_ne (fun same : u = t => outside (same ▸ mem))]
    exact good.outside u outside
  readers := by
    have moved := census_update (f := st.pc) (P := (· = Pc.reading)) mem p
    have old := good.readers
    dsimp only
    split_ifs at moved readers <;> omega
  writers := by
    have moved := census_update (f := st.pc) (P := (·.isWriter = true)) mem p
    have old := good.writers
    dsimp only
    split_ifs at moved writers <;> omega
  active := active
  unique := unique
  alone := alone
  conds c := (good.conds c).update (sems c) (free c) (free' c)

/-- A thread blocks on `c` from a place alike for the counts, with no reader beside it when it
waits for the active writer. -/
theorem Good.condWait (good : Good threads st) (mem : t ∈ threads) (c : Cond)
    (free : ∀ c', st.pc t ≠ .waiting c') (notReading : st.pc t ≠ .reading) (notWriting : st.pc t ≠ .writing)
    (counted : (st.pc t).isWriter = (Pc.waiting c).isWriter)
    (alone : (Pc.waiting c).pastReaders = true → st.lock.readers = 0) : Good threads (condWait st t c) := by
  have conds := CondGood.wait free c good.conds
  rw [condWait_eq (good.conds c)] at conds ⊢
  constructor <;> try dsimp only
  · intro u outside
    rw [Function.update_of_ne (fun same : u = t => outside (same ▸ mem))]
    exact good.outside u outside
  · rw [RwLockS.readers_setCond, census_update_of_iff mem (by simp [notReading])]
    exact good.readers
  · rw [RwLockS.writers_setCond, census_update_of_iff mem (by rw [counted])]
    exact good.writers
  · rw [RwLockS.writerActive_setCond]
    exact good.active_update notWriting (by simp)
  · exact good.unique_update (by simp)
  · intro u past
    rw [RwLockS.readers_setCond]
    by_cases at_t : u = t
    · subst at_t
      exact alone (by simpa using past)
    · rw [Function.update_of_ne at_t] at past
      exact good.alone u past
  · exact conds

theorem Good.condSignal (good : Good threads st) (c : Cond) : Good threads (condSignal st c) := by
  cases first : (st.lock.cond c).waiters with
  | nil => rwa [condSignal_of_nil (good.conds c) first]
  | cons w ws =>
    have conds := CondGood.signal good.conds first
    rw [condSignal_of_cons (good.conds c) first]
    have waiting : st.pc w = .waiting c := ((good.conds c).waiters w).mp (by simp [first])
    have mem : w ∈ threads := good.mem (by simp [waiting])
    constructor <;> try dsimp only
    · intro u outside
      rw [Function.update_of_ne (fun same : u = w => outside (same ▸ mem))]
      exact good.outside u outside
    · rw [RwLockS.readers_setCond, census_update_of_iff mem (by simp [waiting])]
      exact good.readers
    · rw [RwLockS.writers_setCond, census_update_of_iff mem (by cases c <;> simp [waiting, Pc.isWriter])]
      exact good.writers
    · rw [RwLockS.writerActive_setCond]
      exact good.active_update (by simp [waiting]) (by simp)
    · exact good.unique_update (by simp)
    · intro u past
      rw [RwLockS.readers_setCond]
      -- a writer woken for the active writer was waiting for it, and so without readers
      by_cases at_w : u = w
      · subst at_w
        exact good.alone u (by cases c <;> simp_all [Pc.pastReaders])
      · rw [Function.update_of_ne at_w] at past
        exact good.alone u past
    · exact conds

/-! ### The functions keep it -/

theorem Good.lockReadLoop (good : Good threads st) (mem : t ∈ threads)
    (loose : st.pc t = .idle ∨ st.pc t = .woken .noWriters) : Good threads (lockReadLoop st t) := by
  have free : ∀ c, st.pc t ≠ .waiting c := by rcases loose with at_t | at_t <;> simp [at_t]
  have notReading : st.pc t ≠ .reading := by rcases loose with at_t | at_t <;> simp [at_t]
  have notWriting : st.pc t ≠ .writing := by rcases loose with at_t | at_t <;> simp [at_t]
  have notWriter : (st.pc t).isWriter = false := by rcases loose with at_t | at_t <;> simp [at_t, Pc.isWriter]
  unfold RwLock.lockReadLoop
  split
  · exact good.condWait mem .noWriters free notReading notWriting (by rw [notWriter]; rfl)
      (by simp [Pc.pastReaders])
  · -- no thread counts as a writer, so none is past the readers loop
    rename_i none
    have noWriter : ∀ u, (st.pc u).isWriter = false := fun u => by
      by_contra writer
      exact none (good.writers_pos (by simpa using writer))
    refine good.update mem (RwLockS.cond_of_sems rfl rfl rfl) free (by simp) (by simp [notReading])
      (by rw [notWriter]; rfl) (good.active_update notWriting (by simp)) (good.unique_update (by simp)) ?_
    intro u past
    have old := (of_update (Q := (·.pastReaders = true)) (by simp [Pc.pastReaders]) past).2
    exact absurd (Pc.isWriter_of_pastReaders old) (by simp [noWriter u])

theorem Good.lockWriteActiveLoop (good : Good threads st) (mem : t ∈ threads)
    (place : st.pc t = .woken .noReaders ∨ st.pc t = .woken .noActiveWriter) (clear : st.lock.readers = 0) :
    Good threads (lockWriteActiveLoop st t) := by
  have free : ∀ c, st.pc t ≠ .waiting c := by rcases place with at_t | at_t <;> simp [at_t]
  have notReading : st.pc t ≠ .reading := by rcases place with at_t | at_t <;> simp [at_t]
  have notWriting : st.pc t ≠ .writing := by rcases place with at_t | at_t <;> simp [at_t]
  have writer : (st.pc t).isWriter = true := by rcases place with at_t | at_t <;> simp [at_t, Pc.isWriter]
  unfold RwLock.lockWriteActiveLoop
  split
  · exact good.condWait mem .noActiveWriter free notReading notWriting (by rw [writer]; rfl) fun _ => clear
  · rename_i idle
    exact good.update mem (RwLockS.cond_of_sems rfl rfl rfl) free (by simp) (by simp [notReading])
      (by rw [writer]; rfl) (iff_of_true rfl ⟨t, Function.update_self ..⟩) (good.unique_take idle)
      fun _ _ => clear

theorem Good.lockWriteReadersLoop (good : Good threads st) (mem : t ∈ threads)
    (place : st.pc t = .woken .noReaders) : Good threads (lockWriteReadersLoop st t) := by
  unfold RwLock.lockWriteReadersLoop
  split
  · exact good.condWait mem .noReaders (by simp [place]) (by simp [place]) (by simp [place])
      (by simp [place, Pc.isWriter]) (by simp [Pc.pastReaders])
  · rename_i none
    exact good.lockWriteActiveLoop mem (.inl place) (by have := good.readers_nonneg; omega)

theorem lockWriteReadersLoop_update (l : RwLockS) (pc : Nat → Pc) (t : Nat) (p : Pc) :
    lockWriteReadersLoop ⟨l, Function.update pc t p⟩ t = lockWriteReadersLoop ⟨l, pc⟩ t := by
  simp only [lockWriteReadersLoop, lockWriteActiveLoop, condWait, Function.update_idem]

theorem Good.rwLockWrite (good : Good threads st) (mem : t ∈ threads) (idle : st.pc t = .idle) :
    Good threads (rwLockWrite st t) := by
  have announced : Good threads ⟨{ st.lock with writers := st.lock.writers + 1 },
      Function.update st.pc t (.woken .noReaders)⟩ := by
    refine good.update mem (RwLockS.cond_of_sems rfl rfl rfl) (by simp [idle]) (by simp) (by simp [idle])
      (by simp [idle, Pc.isWriter]) (good.active_update (by simp [idle]) (by simp)) (good.unique_update (by simp)) ?_
    intro u past
    exact good.alone u (of_update (Q := (·.pastReaders = true)) (by simp [Pc.pastReaders]) past).2
  have next := announced.lockWriteReadersLoop mem (Function.update_self ..)
  rwa [lockWriteReadersLoop_update] at next

theorem Good.rwUnlockRead (good : Good threads st) (mem : t ∈ threads) (reading : st.pc t = .reading) :
    Good threads (rwUnlockRead st t) := by
  have left : Good threads ⟨{ st.lock with readers := st.lock.readers - 1 }, Function.update st.pc t .idle⟩ := by
    refine good.update mem (RwLockS.cond_of_sems rfl rfl rfl) (by simp [reading]) (by simp) (by simp [reading])
      (by simp [reading, Pc.isWriter]) (good.active_update (by simp [reading]) (by simp))
      (good.unique_update (by simp)) ?_
    -- with a reader in, no writer was past the readers loop
    intro u past
    have busy := good.readers_pos reading
    exact absurd (good.alone u (of_update (Q := (·.pastReaders = true)) (by simp [Pc.pastReaders]) past).2)
      (by omega)
  unfold RwLock.rwUnlockRead
  dsimp only
  split
  · exact left.condSignal .noReaders
  · exact left

theorem Good.rwTrylockWrite (good : Good threads st) (mem : t ∈ threads) (idle : st.pc t = .idle) :
    Good threads (rwTrylockWrite st t).1 := by
  unfold RwLock.rwTrylockWrite
  split
  · exact good
  · rename_i busy
    simp only [not_or, not_lt, Bool.not_eq_true] at busy
    exact good.update mem (RwLockS.cond_of_sems rfl rfl rfl) (by simp [idle]) (by simp) (by simp [idle])
      (by simp [idle, Pc.isWriter]) (iff_of_true rfl ⟨t, Function.update_self ..⟩)
      (good.unique_take (by simp [busy.2.2]))
      fun _ _ => by have := good.readers_nonneg; dsimp only; omega

theorem Good.rwUnlockWrite (good : Good threads st) (mem : t ∈ threads) (writing : st.pc t = .writing) :
    Good threads (rwUnlockWrite st t) := by
  have left : Good threads ⟨{ st.lock with writerActive := false, writers := st.lock.writers - 1 },
      Function.update st.pc t .idle⟩ := by
    refine good.update mem (RwLockS.cond_of_sems rfl rfl rfl) (by simp [writing]) (by simp) (by simp [writing])
      (by simp [writing, Pc.isWriter]) ?_ (good.unique_update (by simp)) ?_
    · -- the writer was the only one
      simp only [Bool.false_eq_true, false_iff, not_exists]
      intro u now
      obtain ⟨other, was⟩ := of_update (Q := (· = Pc.writing)) (by simp) now
      exact other (good.unique u t was writing)
    · intro u past
      exact good.alone u (of_update (Q := (·.pastReaders = true)) (by simp [Pc.pastReaders]) past).2
  unfold RwLock.rwUnlockWrite
  dsimp only
  split
  · exact left.condSignal .noActiveWriter
  · exact left.condSignal .noWriters

theorem rwStep_inv {e : Event} {r : Reply} (step : rwStep threads st e = some (st', r)) :
    match e with
    | .lockRead t => t ∈ threads ∧ st.pc t = .idle ∧ st' = rwLockRead st t
    | .unlockRead t => t ∈ threads ∧ st.pc t = .reading ∧ st' = rwUnlockRead st t
    | .trylockWrite t => t ∈ threads ∧ st.pc t = .idle ∧ st' = (rwTrylockWrite st t).1
    | .lockWrite t => t ∈ threads ∧ st.pc t = .idle ∧ st' = rwLockWrite st t
    | .unlockWrite t => t ∈ threads ∧ st.pc t = .writing ∧ st' = rwUnlockWrite st t
    | .run t => t ∈ threads ∧ ∃ c, st.pc t = .woken c ∧ st' = resume st t c := by
  cases e with
  | run t =>
    simp only [rwStep] at step
    split at step
    · rename_i c woken
      split at step
      · simp only [Option.some.injEq, Prod.mk.injEq] at step
        exact ⟨‹_›, c, woken, step.1.symm⟩
      · cases step
    · cases step
  | _ =>
    simp only [rwStep] at step
    split at step
    · simp only [Option.some.injEq, Prod.mk.injEq] at step
      exact ⟨‹_ ∧ _›.1, ‹_ ∧ _›.2, step.1.symm⟩
    · cases step

theorem rwStep_good {e : Event} {r : Reply} (good : Good threads st)
    (step : rwStep threads st e = some (st', r)) : Good threads st' := by
  have done := rwStep_inv step
  cases e with
  | lockRead t =>
    obtain ⟨mem, idle, rfl⟩ := done
    exact good.lockReadLoop mem (.inl idle)
  | unlockRead t =>
    obtain ⟨mem, reading, rfl⟩ := done
    exact good.rwUnlockRead mem reading
  | trylockWrite t =>
    obtain ⟨mem, idle, rfl⟩ := done
    exact good.rwTrylockWrite mem idle
  | lockWrite t =>
    obtain ⟨mem, idle, rfl⟩ := done
    exact good.rwLockWrite mem idle
  | unlockWrite t =>
    obtain ⟨mem, writing, rfl⟩ := done
    exact good.rwUnlockWrite mem writing
  | run t =>
    obtain ⟨mem, c, woken, rfl⟩ := done
    -- the woken thread tests the loop it waited in again
    cases c with
    | noWriters => exact good.lockReadLoop mem (.inr woken)
    | noReaders => exact good.lockWriteReadersLoop mem woken
    | noActiveWriter =>
      exact good.lockWriteActiveLoop mem (.inr woken) (good.alone t (by simp [woken, Pc.pastReaders]))

theorem rwRun_good (es : List Event) {os : List Reply} (good : Good threads st)
    (ran : runOut (rwStep threads) st es = some (st', os)) : Good threads st' :=
  runOut_invariant (Good threads) (fun _ => True) (fun _ _ _ _ _ holds step => rwStep_good holds step)
    es st st' os (fun _ _ => trivial) good ran

end Invariant

/-! ## A writer that waits for ever -/

/-- Writer `w` waits on `noReaders`, and no thread reads. -/
structure Starved (threads : Finset Nat) (w : Nat) (st : RwState) : Prop where
  good : Good threads st
  blocked : st.pc w = .waiting .noReaders
  noReader : ∀ t, st.pc t ≠ .reading

section Starved

variable {threads : Finset Nat} {w : Nat} {st : RwState}

theorem Starved.writers_pos (starved : Starved threads w st) : st.lock.writers > 0 :=
  starved.good.writers_pos (t := w) (by simp [starved.blocked, Pc.isWriter])

theorem Starved.other (starved : Starved threads w st) {t : Nat} (free : st.pc t ≠ .waiting .noReaders) :
    t ≠ w :=
  fun same => free (same ▸ starved.blocked)

theorem Starved.update (starved : Starved threads w st) {t : Nat} {p : Pc} (other : t ≠ w)
    (notReading : p ≠ .reading) :
    Function.update st.pc t p w = .waiting .noReaders ∧ ∀ u, Function.update st.pc t p u ≠ .reading := by
  refine ⟨by rw [Function.update_of_ne (Ne.symm other)]; exact starved.blocked, fun u => ?_⟩
  by_cases at_t : u = t
  · subst at_t
    rw [Function.update_self]
    exact notReading
  · rw [Function.update_of_ne at_t]
    exact starved.noReader u

theorem Starved.lockReadLoop (starved : Starved threads w st) (t : Nat) :
    (lockReadLoop st t).pc = Function.update st.pc t (.waiting .noWriters) := by
  rw [RwLock.lockReadLoop, if_pos starved.writers_pos, condWait_pc (starved.good.conds _)]

theorem condSignal_blocked {c : Cond} (good : CondGood st c) (other : c ≠ .noReaders)
    (blocked : st.pc w = .waiting .noReaders) (noReader : ∀ u, st.pc u ≠ .reading) :
    (condSignal st c).pc w = .waiting .noReaders ∧ ∀ u, (condSignal st c).pc u ≠ .reading := by
  refine ⟨?_, fun u => ?_⟩
  · rw [condSignal_pc good (by rw [blocked]; exact fun same => other (Pc.waiting.inj same).symm)]
    exact blocked
  · rcases condSignal_pc_cases good u with same | woken
    · rw [same]
      exact noReader u
    · rw [woken]
      simp

theorem Starved.step (starved : Starved threads w st) {e : Event} {st' : RwState} {r : Reply}
    (step : rwStep threads st e = some (st', r)) : Starved threads w st' := by
  suffices moved : st'.pc w = .waiting .noReaders ∧ ∀ u, st'.pc u ≠ .reading from
    ⟨rwStep_good starved.good step, moved.1, moved.2⟩
  have done := rwStep_inv step
  cases e with
  | lockRead t =>
    obtain ⟨-, idle, rfl⟩ := done
    rw [rwLockRead, starved.lockReadLoop]
    exact starved.update (starved.other (by simp [idle])) (by simp)
  | unlockRead t =>
    obtain ⟨-, reading, -⟩ := done
    exact absurd reading (starved.noReader t)
  | trylockWrite t =>
    obtain ⟨-, -, rfl⟩ := done
    -- the blocked writer counts, so the try fails and changes nothing
    rw [rwTrylockWrite, if_pos (.inr (.inl starved.writers_pos))]
    exact ⟨starved.blocked, starved.noReader⟩
  | lockWrite t =>
    obtain ⟨-, idle, rfl⟩ := done
    have conds : ∀ c, CondGood ⟨{ st.lock with writers := st.lock.writers + 1 }, st.pc⟩ c :=
      fun c => (starved.good.conds c).congr (RwLockS.cond_of_sems rfl rfl rfl c) fun _ => Iff.rfl
    obtain ⟨p, notReading, moved⟩ := lockWriteReadersLoop_pc conds t
    rw [rwLockWrite, moved]
    exact starved.update (starved.other (by simp [idle])) notReading
  | unlockWrite t =>
    obtain ⟨-, writing, rfl⟩ := done
    -- the writer's signal is on `noActiveWriter` or `noWriters`, never on `noReaders`
    have left := starved.update (starved.other (t := t) (by simp [writing])) (p := .idle) (by simp)
    have conds : ∀ c, CondGood ⟨{ st.lock with writerActive := false, writers := st.lock.writers - 1 },
        Function.update st.pc t .idle⟩ c :=
        by
      intro c
      refine (starved.good.conds c).update ?_ (by simp [writing]) (by simp)
      exact RwLockS.cond_of_sems rfl rfl rfl c
    unfold rwUnlockWrite
    dsimp only
    split
    · exact condSignal_blocked (conds _) (by decide) left.1 left.2
    · exact condSignal_blocked (conds _) (by decide) left.1 left.2
  | run t =>
    obtain ⟨-, c, woken, rfl⟩ := done
    have other := starved.other (t := t) (by simp [woken])
    cases c with
    | noWriters =>
      rw [resume, starved.lockReadLoop]
      exact starved.update other (by simp)
    | noReaders =>
      obtain ⟨p, notReading, moved⟩ := lockWriteReadersLoop_pc starved.good.conds t
      rw [resume, moved]
      exact starved.update other notReading
    | noActiveWriter =>
      obtain ⟨p, notReading, moved⟩ := lockWriteActiveLoop_pc (starved.good.conds _) t
      rw [resume, moved]
      exact starved.update other notReading

theorem starved_forever (es : List Event) {st' : RwState} {os : List Reply} (starved : Starved threads w st)
    (ran : runOut (rwStep threads) st es = some (st', os)) : st'.pc w = .waiting .noReaders :=
  (runOut_invariant (Starved threads w) (fun _ => True) (fun _ _ _ _ _ holds step => holds.step step)
    es st st' os (fun _ _ => trivial) starved ran).blocked

end Starved

theorem rwRun_exclusive (threads : Finset Nat) (es : List Event) {st : RwState} {os : List Reply}
    (ran : runOut (rwStep threads) rwStart es = some (st, os)) {t : Nat} (writing : st.pc t = .writing)
    (u : Nat) : st.pc u ≠ .reading ∧ (st.pc u = .writing → u = t) := by
  have good := rwRun_good es (good_rwStart threads) ran
  refine ⟨fun reading => ?_, fun writing' => good.unique u t writing' writing⟩
  have none := good.alone t (by simp [writing, Pc.pastReaders])
  have some := good.readers_pos reading
  omega

theorem rwRun_exclusive_writer :
    ∃ st os, runOut (rwStep {1, 2}) rwStart [.lockWrite 1, .lockRead 2] = some (st, os) ∧
      st.pc 1 = .writing ∧ st.pc 2 ≠ .reading ∧ (st.pc 2 = .writing → 2 = 1) :=
  ⟨_, _, rfl, by decide, rwRun_exclusive {1, 2} [.lockWrite 1, .lockRead 2] rfl (by decide) 2⟩

/-- Thread 1 reads; writers 2 and 3 wait for it to leave; its one signal on `noReaders` wakes 2
alone; and 2's unlock signals `noActiveWriter`, where nobody waits. The lock is then free, no
thread is woken, and thread 3 waits on `noReaders` over every run that follows. -/
theorem rwlock_loses_wakeup :
    ∃ st answers, runOut (rwStep {1, 2, 3}) rwStart
        [.lockRead 1, .lockWrite 2, .lockWrite 3, .unlockRead 1, .run 2, .unlockWrite 2] = some (st, answers) ∧
      st.lock.readers = 0 ∧ st.lock.writerActive = false ∧ (∀ t, t ≠ 3 → st.pc t = .idle) ∧
      st.pc 3 = .waiting .noReaders ∧
      ∀ es st' os, runOut (rwStep {1, 2, 3}) st es = some (st', os) → st'.pc 3 = .waiting .noReaders := by
  have ran : runOut (rwStep {1, 2, 3}) rwStart
      [.lockRead 1, .lockWrite 2, .lockWrite 3, .unlockRead 1, .run 2, .unlockWrite 2] =
      some (rwUnlockWrite (resume (rwUnlockRead (rwLockWrite (rwLockWrite (rwLockRead rwStart 1) 2) 3) 1) 2
        .noReaders) 2, [.done, .blocked, .blocked, .done, .done, .done]) := rfl
  have good := rwRun_good _ (good_rwStart _) ran
  refine ⟨_, _, ran, by decide, by decide, ?_, by decide, ?_⟩
  · -- threads outside the run are idle, and threads 1 and 2 have left
    intro t other
    by_cases mem : t ∈ ({1, 2, 3} : Finset Nat)
    · simp only [Finset.mem_insert, Finset.mem_singleton] at mem
      rcases mem with rfl | rfl | rfl
      · decide
      · decide
      · exact absurd rfl other
    · exact good.outside t mem
  · -- no reader is left to signal `noReaders` again
    intro es st' os later
    exact starved_forever es ⟨good, by decide, fun t reading => absurd (good.readers_pos reading) (by decide)⟩ later

end TinyAra.Arastorage.RwLock
