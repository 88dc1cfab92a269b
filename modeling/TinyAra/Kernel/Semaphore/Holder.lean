/-
# Kernel.Semaphore.Holder -- who holds a semaphore's counts, and priority inheritance

With `CONFIG_PRIORITY_INHERITANCE` a semaphore (`sem_t`) keeps in `hhead` the
list of its holders: containers (`struct semholder_s`) taken from the
`CONFIG_SEM_PREALLOCHOLDERS` of `g_holderalloc`, the unused ones linked in
`g_freeholders`, each naming a task (`htcb`) and the counts it holds. A task
that waits boosts every holder below its priority (`sem_boostholderprio`),
remembering earlier boosts in `pend_reprios`; when counts are handed out or a
wait is given up the holders are brought back (`sem_restoreholderprio`).
This module models sem_holder.c with `CONFIG_SEM_PREALLOCHOLDERS > 0` and
`CONFIG_SEM_NNESTPRIO > 0`, and the part of `sched_setpriority` and
`sched_reprioritize` that it uses: a task blocked on a semaphore moves to the
place of its new priority in `g_waitingforsemaphore`.

`Conserved` says that every container is on exactly one list, that each
semaphore names a task in one container at most, and that every container on a
semaphore's list names a task.  `holderRun_conserved` proves it for every run
of the holder operations from `sem_initholders`.
-/
import TinyAra.Kernel.TaskList

namespace TinyAra.Kernel.Semaphore

open TinyAra.Kernel.TaskList

set_option autoImplicit false

def schedPriorityMin : Nat := 1

def schedPriorityMax : Nat := 255

/-- The fields of `struct tcb_s` the semaphore code uses.  `pend_reprios` is the array
`uint8_t pend_reprios[CONFIG_SEM_NNESTPRIO]`, kept as a map from every index so that a
write past its end shows. -/
structure Tcb (S : Type) where
  schedPriority : Nat
  basePriority : Nat
  npendReprio : Nat
  pendReprios : Nat → Nat
  waitsem : Option S

/-- `struct semholder_s` without its link: the holder task and its counts. -/
structure Semholder (T : Type) where
  htcb : Option T
  counts : Nat
deriving DecidableEq, Repr

/-- `sem_t`: the count, and the list of holder containers. -/
structure SemT (H : Type) where
  semcount : Int
  hhead : List H
deriving DecidableEq, Repr

/-- The semaphores, the tasks, the containers `g_holderalloc` with the list
`g_freeholders`, and the prioritized list `g_waitingforsemaphore`. -/
structure SemState (S T H : Type) where
  sems : S → SemT H
  tcbs : T → Tcb S
  holderalloc : H → Semholder T
  freeholders : List H
  waitingforsemaphore : List T

namespace SemState

variable {S T H : Type}

/-- The `sched_priority` of every task. -/
def priority (st : SemState S T H) (t : T) : Nat := (st.tcbs t).schedPriority

variable [DecidableEq S] [DecidableEq T] [DecidableEq H]

def setSem (st : SemState S T H) (sem : S) (v : SemT H) : SemState S T H :=
  { st with sems := Function.update st.sems sem v }

def setTcb (st : SemState S T H) (t : T) (tcb : Tcb S) : SemState S T H :=
  { st with tcbs := Function.update st.tcbs t tcb }

def setHolder (st : SemState S T H) (h : H) (holder : Semholder T) : SemState S T H :=
  { st with holderalloc := Function.update st.holderalloc h holder }

end SemState

/-! ## The holder functions -/

section Holders

variable {S T H : Type} [DecidableEq S] [DecidableEq T] [DecidableEq H]
  (nnestprio : Nat) (verify : T → Bool)

/-- `sched_setpriority(tcb, sched_priority)` on the state here: an out-of-range priority
is refused; a task waiting on a semaphore is taken out of `g_waitingforsemaphore` and put
back at its new priority (case 3a); the ready-to-run list is not modelled. -/
def schedSetpriority (st : SemState S T H) (tcb : T) (schedPriority : Nat) : SemState S T H :=
  if schedPriority < schedPriorityMin ∨ schedPriority > schedPriorityMax then st
  else
    let st' := st.setTcb tcb { st.tcbs tcb with schedPriority }
    if tcb ∈ st.waitingforsemaphore then
      { st' with
        waitingforsemaphore :=
          schedAddprioritized st'.priority tcb (st.waitingforsemaphore.erase tcb) }
    else st'

/-- `sched_reprioritize(tcb, sched_priority)`: `sched_setpriority`, and when it succeeds
the base priority is the new one and the pending priorities are dropped. -/
def schedReprioritize (st : SemState S T H) (tcb : T) (schedPriority : Nat) : SemState S T H :=
  if schedPriority < schedPriorityMin ∨ schedPriority > schedPriorityMax then st
  else
    let st := schedSetpriority st tcb schedPriority
    st.setTcb tcb { st.tcbs tcb with basePriority := schedPriority, npendReprio := 0 }

/-- `sem_allocholder(sem)`: the first free container goes to the head of the semaphore's
list with no counts. -/
def semAllocholder (st : SemState S T H) (sem : S) : Option H × SemState S T H :=
  match st.freeholders with
  | [] => (none, st)
  | pholder :: rest =>
      (some pholder,
        { (st.setSem sem { st.sems sem with hhead := pholder :: (st.sems sem).hhead }).setHolder
            pholder { st.holderalloc pholder with counts := 0 } with freeholders := rest })

def semFindholder (st : SemState S T H) (sem : S) (htcb : T) : Option H :=
  (st.sems sem).hhead.find? fun pholder => (st.holderalloc pholder).htcb = some htcb

def semFindorallocateholder (st : SemState S T H) (sem : S) (htcb : T) :
    Option H × SemState S T H :=
  match semFindholder st sem htcb with
  | some pholder => (some pholder, st)
  | none => semAllocholder st sem

/-- `sem_freeholder(sem, pholder)`: the container is emptied and, if it is on the
semaphore's list, moved to the head of `g_freeholders`. -/
def semFreeholder (st : SemState S T H) (sem : S) (pholder : H) : SemState S T H :=
  let st := st.setHolder pholder ⟨none, 0⟩
  if pholder ∈ (st.sems sem).hhead then
    { st.setSem sem { st.sems sem with hhead := (st.sems sem).hhead.erase pholder } with
      freeholders := pholder :: st.freeholders }
  else st

/-- `sem_foreachholder(sem, handler, arg)` over the list `holders` the semaphore had when
it began: the loop saves each link before calling the handler, and a handler frees at most
the container it is given. Empty containers are skipped, and a handler's nonzero return
stops the loop. -/
def semForeachholder (handler : SemState S T H → H → SemState S T H × Nat) :
    List H → SemState S T H → SemState S T H × Nat
  | [], st => (st, 0)
  | pholder :: rest, st =>
      let (st, ret) := if (st.holderalloc pholder).htcb.isSome then handler st pholder else (st, 0)
      if ret = 0 then semForeachholder handler rest st else (st, ret)

/-- `sem_boostholderprio(pholder, sem, rtcb)`: a holder below the waiting task `rtcb` is
raised to its priority, saving a boosted priority it had in `pend_reprios`, or, when it is
already higher, the waiter's priority is saved for later. -/
def semBoostholderprio (sem : S) (rtcb : T) (st : SemState S T H) (pholder : H) :
    SemState S T H × Nat :=
  match (st.holderalloc pholder).htcb with
  | none => (st, 0)
  | some htcb =>
      let h := st.tcbs htcb
      let r := (st.tcbs rtcb).schedPriority
      if !verify htcb then (semFreeholder st sem pholder, 0)
      else if r > h.basePriority then
        if r > h.schedPriority then
          -- the save is bounded by `CONFIG_SEM_NNESTPRIO`
          let st :=
            if h.schedPriority > h.basePriority ∧ h.npendReprio < nnestprio then
              st.setTcb htcb { h with
                pendReprios := Function.update h.pendReprios h.npendReprio h.schedPriority
                npendReprio := h.npendReprio + 1 }
            else st
          (schedSetpriority st htcb r, 0)
        else
          -- this save is not
          (st.setTcb htcb { h with
            pendReprios := Function.update h.pendReprios h.npendReprio r
            npendReprio := h.npendReprio + 1 }, 0)
      else (st, 0)

/-- The index `j` of the first highest pending priority:
`for (i = 1, j = 0; i < npend_reprio; i++) if (pend_reprios[i] > pend_reprios[j]) j = i;`. -/
def highestPending (pendReprios : Nat → Nat) (npendReprio : Nat) : Nat :=
  (List.range' 1 (npendReprio - 1)).foldl
    (fun j i => if pendReprios i > pendReprios j then i else j) 0

/-- `sem_restoreholderprio(pholder, sem, stcb)`: a boosted holder goes back to its base
priority when nothing is pending, to its highest pending priority when `stcb` is at
least as high as it, and otherwise forgets `stcb`'s priority among the pending ones. -/
def semRestoreholderprio (sem : S) (stcb : T) (st : SemState S T H) (pholder : H) :
    SemState S T H × Nat :=
  match (st.holderalloc pholder).htcb with
  | none => (st, 0)
  | some htcb =>
      let h := st.tcbs htcb
      if !verify htcb then (semFreeholder st sem pholder, 0)
      else if h.schedPriority ≠ h.basePriority then
        if h.npendReprio < 1 then (schedReprioritize st htcb h.basePriority, 0)
        else if h.schedPriority ≤ (st.tcbs stcb).schedPriority then
          let j := highestPending h.pendReprios h.npendReprio
          let rpriority := h.pendReprios j
          let i := h.npendReprio - 1
          let pend := if i > 0 then Function.update h.pendReprios j (h.pendReprios i) else h.pendReprios
          (schedSetpriority (st.setTcb htcb { h with pendReprios := pend, npendReprio := i })
            htcb rpriority, 0)
        else
          match (List.range h.npendReprio).find?
              (fun i => h.pendReprios i = (st.tcbs stcb).schedPriority) with
          | none => (st, 0)
          | some i =>
              let j := h.npendReprio - 1
              let pend := if j > 0 then Function.update h.pendReprios i (h.pendReprios j)
                else h.pendReprios
              (st.setTcb htcb { h with pendReprios := pend, npendReprio := j }, 0)
      else (st, 0)

/-- `sem_restoreholderprioA`: every holder but the running task `rtcb`. -/
def semRestoreholderprioA (sem : S) (rtcb stcb : T) (st : SemState S T H) (pholder : H) :
    SemState S T H × Nat :=
  if (st.holderalloc pholder).htcb ≠ some rtcb then semRestoreholderprio verify sem stcb st pholder
  else (st, 0)

/-- `sem_restoreholderprioB`: the running task `rtcb` only, which ends the loop. -/
def semRestoreholderprioB (sem : S) (rtcb stcb : T) (st : SemState S T H) (pholder : H) :
    SemState S T H × Nat :=
  if (st.holderalloc pholder).htcb = some rtcb then
    ((semRestoreholderprio verify sem stcb st pholder).1, 1)
  else (st, 0)

def semRestorebaseprioIrq (st : SemState S T H) (stcb : Option T) (sem : S) : SemState S T H :=
  match stcb with
  | some stcb => (semForeachholder (semRestoreholderprio verify sem stcb) (st.sems sem).hhead st).1
  | none => st

/-- `sem_restorebaseprio_task(stcb, sem)` with the running task `rtcb`: the holders are
restored, the running task last, and its container is freed once it holds no counts. -/
def semRestorebaseprioTask (st : SemState S T H) (rtcb : T) (stcb : Option T) (sem : S) :
    SemState S T H :=
  let st :=
    match stcb with
    | some stcb =>
        let st := (semForeachholder (semRestoreholderprioA verify sem rtcb stcb)
          (st.sems sem).hhead st).1
        (semForeachholder (semRestoreholderprioB verify sem rtcb stcb) (st.sems sem).hhead st).1
    | none => st
  match semFindholder st sem rtcb with
  | some pholder => if (st.holderalloc pholder).counts ≤ 0 then semFreeholder st sem pholder else st
  | none => st

/-- `sem_restorebaseprio(stcb, sem)`, from an interrupt handler or from task `rtcb`. -/
def semRestorebaseprio (st : SemState S T H) (isr : Bool) (rtcb : T) (stcb : Option T) (sem : S) :
    SemState S T H :=
  if isr then semRestorebaseprioIrq verify st stcb sem
  else semRestorebaseprioTask verify st rtcb stcb sem

/-- `sem_addholder_tcb(htcb, sem)`: one more count for `htcb`, in its container or in a
new one; with no container free the count is not recorded. -/
def semAddholderTcb (st : SemState S T H) (htcb : T) (sem : S) : SemState S T H :=
  match semFindorallocateholder st sem htcb with
  | (none, st) => st
  | (some pholder, st) => st.setHolder pholder ⟨some htcb, (st.holderalloc pholder).counts + 1⟩

/-- `sem_addholder(sem)`: the running task `rtcb` took a count. -/
def semAddholder (st : SemState S T H) (rtcb : T) (sem : S) : SemState S T H :=
  semAddholderTcb st rtcb sem

/-- `sem_boostpriority(sem)` for the running task `rtcb`. -/
def semBoostpriority (st : SemState S T H) (rtcb : T) (sem : S) : SemState S T H :=
  (semForeachholder (semBoostholderprio nnestprio verify sem rtcb) (st.sems sem).hhead st).1

/-- `sem_releaseholder(sem)` for the running task `rtcb`. -/
def semReleaseholder (st : SemState S T H) (rtcb : T) (sem : S) : SemState S T H :=
  match semFindholder st sem rtcb with
  | some pholder =>
      if (st.holderalloc pholder).counts > 0 then
        st.setHolder pholder { st.holderalloc pholder with counts := (st.holderalloc pholder).counts - 1 }
      else st
  | none => st

def semCanceled (st : SemState S T H) (stcb : T) (sem : S) : SemState S T H :=
  (semForeachholder (semRestoreholderprio verify sem stcb) (st.sems sem).hhead st).1

/-- `sem_destroyholder(sem)`: every container still on the list is freed
(`sem_recoverholders`). -/
def semDestroyholder (st : SemState S T H) (sem : S) : SemState S T H :=
  if (st.sems sem).hhead ≠ [] then
    (semForeachholder (fun st pholder => (semFreeholder st sem pholder, 0)) (st.sems sem).hhead st).1
  else st

/-- `sem_initholders()`: every container on `g_freeholders`, in array order. -/
def semInitholders {n : Nat} (st : SemState S T (Fin n)) : SemState S T (Fin n) :=
  { st with freeholders := List.finRange n }

/-- The state `sem_initholders` starts from: every semaphore set up by `sem_init` with its
value and no holders, every task at its priority and waiting on nothing, and the containers
of `g_holderalloc` zeroed. -/
def semBoot {n : Nat} (value : S → Nat) (priority : T → Nat) : SemState S T (Fin n) where
  sems sem := ⟨value sem, []⟩
  tcbs t := ⟨priority t, priority t, 0, fun _ => 0, none⟩
  holderalloc _ := ⟨none, 0⟩
  freeholders := []
  waitingforsemaphore := []

end Holders

/-! ## The containers are conserved -/

section Conservation

variable {S T H : Type} [DecidableEq S] [DecidableEq T] [DecidableEq H]
  {nnestprio : Nat} {verify : T → Bool}

variable {st₁ st₂ st₃ st : SemState S T H} {handler : SemState S T H → H → SemState S T H × Nat}
  {sem : S} {pholder : H} {htcb : T}

/-- Every container is on `g_freeholders` or on the list of one semaphore, once; a
semaphore's containers name distinct tasks, and none of them is empty. -/
structure Conserved (st : SemState S T H) : Prop where
  free_nodup : st.freeholders.Nodup
  held_nodup : ∀ sem, (st.sems sem).hhead.Nodup
  free_not_held : ∀ sem h, h ∈ (st.sems sem).hhead → h ∉ st.freeholders
  one_sem : ∀ sem sem' h, h ∈ (st.sems sem).hhead → h ∈ (st.sems sem').hhead → sem = sem'
  listed : ∀ h, h ∈ st.freeholders ∨ ∃ sem, h ∈ (st.sems sem).hhead
  named : ∀ sem h, h ∈ (st.sems sem).hhead → (st.holderalloc h).htcb.isSome
  distinct : ∀ sem h h', h ∈ (st.sems sem).hhead → h' ∈ (st.sems sem).hhead →
    (st.holderalloc h).htcb = (st.holderalloc h').htcb → h = h'

def SameHolders (st st' : SemState S T H) : Prop :=
  (∀ sem, (st'.sems sem).hhead = (st.sems sem).hhead) ∧ st'.holderalloc = st.holderalloc ∧
    st'.freeholders = st.freeholders

/-- `st'` has the waits and counts of `st`: every task waits on what it waited on, the same
tasks are on `g_waitingforsemaphore`, and every semaphore keeps its count. -/
def SameWaits (st st' : SemState S T H) : Prop :=
  (∀ t, (st'.tcbs t).waitsem = (st.tcbs t).waitsem) ∧
    st'.waitingforsemaphore.Perm st.waitingforsemaphore ∧
    ∀ sem, (st'.sems sem).semcount = (st.sems sem).semcount

/-- Only priorities changed, and with them the places of waiting tasks in the wait list. -/
def Reprioritized (st st' : SemState S T H) : Prop := SameHolders st st' ∧ SameWaits st st'

omit [DecidableEq S] [DecidableEq T] [DecidableEq H] in
theorem SameHolders.refl (st : SemState S T H) : SameHolders st st := ⟨fun _ => rfl, rfl, rfl⟩

omit [DecidableEq S] [DecidableEq T] [DecidableEq H] in
theorem SameHolders.trans (h₁ : SameHolders st₁ st₂)
    (h₂ : SameHolders st₂ st₃) : SameHolders st₁ st₃ :=
  ⟨fun sem => (h₂.1 sem).trans (h₁.1 sem), h₂.2.1.trans h₁.2.1, h₂.2.2.trans h₁.2.2⟩

omit [DecidableEq S] [DecidableEq T] [DecidableEq H] in
theorem SameWaits.refl (st : SemState S T H) : SameWaits st st :=
  ⟨fun _ => rfl, List.Perm.refl _, fun _ => rfl⟩

omit [DecidableEq S] [DecidableEq T] [DecidableEq H] in
theorem SameWaits.trans (h₁ : SameWaits st₁ st₂)
    (h₂ : SameWaits st₂ st₃) : SameWaits st₁ st₃ :=
  ⟨fun t => (h₂.1 t).trans (h₁.1 t), h₂.2.1.trans h₁.2.1,
    fun sem => (h₂.2.2 sem).trans (h₁.2.2 sem)⟩

omit [DecidableEq S] [DecidableEq T] [DecidableEq H] in
theorem Reprioritized.refl (st : SemState S T H) : Reprioritized st st :=
  ⟨SameHolders.refl st, SameWaits.refl st⟩

omit [DecidableEq S] [DecidableEq T] [DecidableEq H] in
theorem Reprioritized.trans (h₁ : Reprioritized st₁ st₂)
    (h₂ : Reprioritized st₂ st₃) : Reprioritized st₁ st₃ :=
  ⟨h₁.1.trans h₂.1, h₁.2.trans h₂.2⟩

omit [DecidableEq S] [DecidableEq H] in
theorem reprioritized_setTcb (st : SemState S T H) (t : T) (tcb : Tcb S)
    (keep : tcb.waitsem = (st.tcbs t).waitsem) : Reprioritized st (st.setTcb t tcb) := by
  refine ⟨⟨fun _ => rfl, rfl, rfl⟩, fun t' => ?_, List.Perm.refl _, fun _ => rfl⟩
  by_cases same : t' = t
  · subst same
    simpa [SemState.setTcb] using keep
  · simp [SemState.setTcb, Function.update_of_ne same]

omit [DecidableEq S] [DecidableEq H] in
theorem reprioritized_schedSetpriority (st : SemState S T H) (tcb : T) (p : Nat) :
    Reprioritized st (schedSetpriority st tcb p) := by
  unfold schedSetpriority
  split_ifs with range waiting
  · exact Reprioritized.refl st
  · -- a waiting task is taken out of the list and put back at its new place
    obtain ⟨same, waits, -, counts⟩ :=
      reprioritized_setTcb st tcb { st.tcbs tcb with schedPriority := p } rfl
    exact ⟨same, waits,
      (schedAddprioritized_perm _ tcb _).trans (List.perm_cons_erase waiting).symm, counts⟩
  · exact reprioritized_setTcb st tcb _ rfl

omit [DecidableEq S] [DecidableEq H] in
theorem reprioritized_schedReprioritize (st : SemState S T H) (tcb : T) (p : Nat) :
    Reprioritized st (schedReprioritize st tcb p) := by
  unfold schedReprioritize
  split_ifs
  · exact Reprioritized.refl st
  · exact (reprioritized_schedSetpriority st tcb p).trans (reprioritized_setTcb _ _ _ (by rfl))

omit [DecidableEq T] in
theorem sameWaits_semFreeholder (st : SemState S T H) (sem : S) (pholder : H) :
    SameWaits st (semFreeholder st sem pholder) := by
  unfold semFreeholder
  dsimp only
  split
  · refine ⟨fun _ => rfl, List.Perm.refl _, fun sem' => ?_⟩
    by_cases same : sem' = sem
    · subst same
      simp [SemState.setSem, SemState.setHolder]
    · simp [SemState.setSem, SemState.setHolder, Function.update_of_ne same]
  · exact ⟨fun _ => rfl, List.Perm.refl _, fun _ => rfl⟩

omit [DecidableEq S] [DecidableEq T] [DecidableEq H] in
theorem semForeachholder_cons (handler : SemState S T H → H → SemState S T H × Nat)
    (pholder : H) (rest : List H) (st : SemState S T H) :
    semForeachholder handler (pholder :: rest) st =
      let next := if (st.holderalloc pholder).htcb.isSome then handler st pholder else (st, 0)
      if next.2 = 0 then semForeachholder handler rest next.1 else next := rfl

omit [DecidableEq S] [DecidableEq T] [DecidableEq H] in
theorem semForeachholder_rel (R : SemState S T H → SemState S T H → Prop)
    (refl : ∀ st, R st st) (trans : ∀ st₁ st₂ st₃, R st₁ st₂ → R st₂ st₃ → R st₁ st₃)
    (each : ∀ st pholder, R st (handler st pholder).1) :
    ∀ (holders : List H) (st : SemState S T H), R st (semForeachholder handler holders st).1
  | [], st => refl st
  | pholder :: rest, st => by
      rw [semForeachholder_cons]
      dsimp only
      generalize next : (if (st.holderalloc pholder).htcb.isSome then handler st pholder
        else (st, 0)) = result
      have first : R st result.1 := by
        rw [← next]
        split
        · exact each st pholder
        · exact refl st
      split
      · exact trans _ _ _ first (semForeachholder_rel R refl trans each rest _)
      · exact first

omit [DecidableEq S] [DecidableEq T] [DecidableEq H] in
theorem Conserved.sameHolders {st' : SemState S T H} (h : Conserved st)
    (same : SameHolders st st') : Conserved st' := by
  obtain ⟨hhead, holders, free⟩ := same
  exact ⟨free ▸ h.free_nodup, fun sem => hhead sem ▸ h.held_nodup sem,
    fun sem c => by rw [hhead, free]; exact h.free_not_held sem c,
    fun sem sem' c => by rw [hhead, hhead]; exact h.one_sem sem sem' c,
    fun c => by simp only [hhead, free]; exact h.listed c,
    fun sem c => by rw [hhead, holders]; exact h.named sem c,
    fun sem c c' => by rw [hhead, holders]; exact h.distinct sem c c'⟩

omit [DecidableEq T] in
theorem semFreeholder_of_mem
    (mem : pholder ∈ (st.sems sem).hhead) :
    semFreeholder st sem pholder =
      { st with
        sems := Function.update st.sems sem { st.sems sem with hhead := (st.sems sem).hhead.erase pholder }
        holderalloc := Function.update st.holderalloc pholder ⟨none, 0⟩
        freeholders := pholder :: st.freeholders } := by
  simp only [semFreeholder, SemState.setHolder, SemState.setSem, mem, ↓reduceIte]

omit [DecidableEq T] in
theorem hhead_semFreeholder
    (mem : pholder ∈ (st.sems sem).hhead) (sem' : S) :
    ((semFreeholder st sem pholder).sems sem').hhead =
      if sem' = sem then (st.sems sem).hhead.erase pholder else (st.sems sem').hhead := by
  rw [semFreeholder_of_mem mem]
  by_cases same : sem' = sem
  · subst same
    simp
  · simp [same]

omit [DecidableEq T] in
theorem Conserved.mem_semFreeholder (h : Conserved st)
    (mem : pholder ∈ (st.sems sem).hhead) {sem' : S} {c : H}
    (mem' : c ∈ ((semFreeholder st sem pholder).sems sem').hhead) :
    c ∈ (st.sems sem').hhead ∧ c ≠ pholder := by
  rw [hhead_semFreeholder mem] at mem'
  split_ifs at mem' with same
  · subst same
    exact ⟨List.mem_of_mem_erase mem', ((h.held_nodup sem').mem_erase_iff.mp mem').1⟩
  · exact ⟨mem', fun eq => same (h.one_sem sem' sem c mem' (eq ▸ mem))⟩

omit [DecidableEq T] in
theorem Conserved.semFreeholder (h : Conserved st)
    (mem : pholder ∈ (st.sems sem).hhead) : Conserved (semFreeholder st sem pholder) := by
  have free : (Semaphore.semFreeholder st sem pholder).freeholders =
      pholder :: st.freeholders := by
    rw [semFreeholder_of_mem mem]
  have holders : ∀ c, c ≠ pholder →
      (Semaphore.semFreeholder st sem pholder).holderalloc c = st.holderalloc c := by
    intro c ne
    simp only [semFreeholder_of_mem mem, Function.update_of_ne ne]
  refine ⟨?_, fun sem' => ?_, fun sem' c mem' => ?_, fun sem₁ sem₂ c mem₁ mem₂ => ?_,
    fun c => ?_, fun sem' c mem' => ?_, fun sem' c c' mem₁ mem₂ => ?_⟩
  · rw [free]
    exact List.nodup_cons.mpr ⟨h.free_not_held sem pholder mem, h.free_nodup⟩
  · rw [hhead_semFreeholder mem]
    split_ifs with same
    · exact (h.held_nodup sem).erase pholder
    · exact h.held_nodup sem'
  · obtain ⟨old, ne⟩ := h.mem_semFreeholder mem mem'
    rw [free, List.mem_cons, not_or]
    exact ⟨ne, h.free_not_held sem' c old⟩
  · exact h.one_sem sem₁ sem₂ c (h.mem_semFreeholder mem mem₁).1 (h.mem_semFreeholder mem mem₂).1
  · rw [free, List.mem_cons]
    by_cases freed : c = pholder
    · exact .inl (.inl freed)
    rcases h.listed c with was | ⟨sem', held⟩
    · exact .inl (.inr was)
    · refine .inr ⟨sem', ?_⟩
      rw [hhead_semFreeholder mem]
      split_ifs with same
      · subst same
        exact (List.mem_erase_of_ne freed).mpr held
      · exact held
  · obtain ⟨old, ne⟩ := h.mem_semFreeholder mem mem'
    rw [holders c ne]
    exact h.named sem' c old
  · obtain ⟨old₁, ne₁⟩ := h.mem_semFreeholder mem mem₁
    obtain ⟨old₂, ne₂⟩ := h.mem_semFreeholder mem mem₂
    rw [holders c ne₁, holders c' ne₂]
    exact h.distinct sem' c c' old₁ old₂

omit [DecidableEq S] [DecidableEq T] in
theorem Conserved.setHolder (h : Conserved st)
    {holder : Semholder T} (same : holder.htcb = (st.holderalloc pholder).htcb) :
    Conserved (st.setHolder pholder holder) := by
  have htcb : ∀ c, ((st.setHolder pholder holder).holderalloc c).htcb = (st.holderalloc c).htcb := by
    intro c
    by_cases eq : c = pholder
    · subst eq
      simpa [SemState.setHolder] using same
    · simp [SemState.setHolder, Function.update_of_ne eq]
  exact ⟨h.free_nodup, h.held_nodup, h.free_not_held, h.one_sem, h.listed,
    fun sem c => by rw [htcb]; exact h.named sem c,
    fun sem c c' => by rw [htcb, htcb]; exact h.distinct sem c c'⟩

omit [DecidableEq S] [DecidableEq H] in
theorem semFindholder_eq_some
    (found : semFindholder st sem htcb = some pholder) :
    pholder ∈ (st.sems sem).hhead ∧ (st.holderalloc pholder).htcb = some htcb := by
  unfold semFindholder at found
  exact ⟨List.mem_of_find?_eq_some found, by simpa using List.find?_some found⟩

omit [DecidableEq S] [DecidableEq H] in
theorem semFindholder_eq_none
    (missing : semFindholder st sem htcb = none) :
    ∀ c ∈ (st.sems sem).hhead, (st.holderalloc c).htcb ≠ some htcb := by
  unfold semFindholder at missing
  intro c mem
  simpa using List.find?_eq_none.mp missing c mem

omit [DecidableEq T] [DecidableEq H] in
/-- The containers on a list after the first free container is put at the head of the
list of `sem`. -/
theorem mem_allocate {sem' : S} {pholder c : H} :
    c ∈ (Function.update st.sems sem
        { st.sems sem with hhead := pholder :: (st.sems sem).hhead } sem').hhead ↔
      (sem' = sem ∧ c = pholder) ∨ c ∈ (st.sems sem').hhead := by
  by_cases same : sem' = sem
  · subst same
    simp
  · simp [same]

omit [DecidableEq T] in
/-- The first free container moves to the head of a semaphore's list, naming a task that
no container of that list names. -/
theorem Conserved.allocate (h : Conserved st)
    {rest : List H} (free : st.freeholders = pholder :: rest)
    (fresh : ∀ c ∈ (st.sems sem).hhead, (st.holderalloc c).htcb ≠ some htcb) (counts : Nat) :
    Conserved { st with
      sems := Function.update st.sems sem
        { st.sems sem with hhead := pholder :: (st.sems sem).hhead }
      holderalloc := Function.update st.holderalloc pholder ⟨some htcb, counts⟩
      freeholders := rest } := by
  have freeNodup : (pholder :: rest).Nodup := free ▸ h.free_nodup
  -- the container was free, so it was on no semaphore's list
  have unheld : ∀ sem', pholder ∉ (st.sems sem').hhead := fun sem' held =>
    h.free_not_held sem' pholder held (by rw [free]; exact List.mem_cons_self)
  have others : ∀ c, c ≠ pholder →
      (Function.update st.holderalloc pholder ⟨some htcb, counts⟩ c) = st.holderalloc c :=
    fun c ne => Function.update_of_ne ne _ _
  refine ⟨freeNodup.of_cons, fun sem' => ?_, fun sem' c held => ?_, fun sem₁ sem₂ c held₁ held₂ => ?_,
    fun c => ?_, fun sem' c held => ?_, fun sem' c c' held held' same => ?_⟩
  · by_cases here : sem' = sem
    · subst here
      simpa using List.nodup_cons.mpr ⟨unheld sem', h.held_nodup sem'⟩
    · simpa [here] using h.held_nodup sem'
  · rcases mem_allocate.mp held with ⟨-, rfl⟩ | old
    · exact (List.nodup_cons.mp freeNodup).1
    · exact fun later => h.free_not_held sem' c old (by rw [free]; exact List.mem_cons_of_mem _ later)
  · rcases mem_allocate.mp held₁ with ⟨rfl, rfl⟩ | old₁ <;>
      rcases mem_allocate.mp held₂ with ⟨rfl, eq⟩ | old₂
    · rfl
    · exact absurd old₂ (unheld sem₂)
    · exact absurd (eq ▸ old₁) (unheld sem₁)
    · exact h.one_sem sem₁ sem₂ c old₁ old₂
  · rcases h.listed c with was | ⟨sem', held⟩
    · rw [free, List.mem_cons] at was
      rcases was with rfl | later
      · exact .inr ⟨sem, mem_allocate.mpr (.inl ⟨rfl, rfl⟩)⟩
      · exact .inl later
    · exact .inr ⟨sem', mem_allocate.mpr (.inr held)⟩
  · rcases mem_allocate.mp held with ⟨-, rfl⟩ | old
    · simp
    · dsimp only
      rw [others c (fun eq => unheld sem' (eq ▸ old))]
      exact h.named sem' c old
  · -- the new container's task is on no other container of its list
    dsimp only at same
    rcases mem_allocate.mp held with ⟨here, rfl⟩ | old <;>
      rcases mem_allocate.mp held' with ⟨-, eq⟩ | old'
    · exact eq.symm
    · subst here
      rw [Function.update_self, others c' (fun eq => unheld sem' (eq ▸ old'))] at same
      exact absurd same.symm (fresh c' old')
    · subst eq
      rw [Function.update_self, others c (fun eq => unheld sem' (eq ▸ old))] at same
      have here : sem' = sem := by
        rcases mem_allocate.mp held' with ⟨here, -⟩ | old'
        · exact here
        · exact absurd old' (unheld sem')
      subst here
      exact absurd same (fresh c old)
    · rw [others c (fun eq => unheld sem' (eq ▸ old)),
        others c' (fun eq => unheld sem' (eq ▸ old'))] at same
      exact h.distinct sem' c c' old old' same

theorem semAddholderTcb_cases (st : SemState S T H) (htcb : T) (sem : S) :
    (∃ pholder, semFindholder st sem htcb = some pholder ∧
      semAddholderTcb st htcb sem =
        st.setHolder pholder ⟨some htcb, (st.holderalloc pholder).counts + 1⟩) ∨
    (st.freeholders = [] ∧ semAddholderTcb st htcb sem = st) ∨
    (∃ pholder rest, semFindholder st sem htcb = none ∧ st.freeholders = pholder :: rest ∧
      semAddholderTcb st htcb sem =
        { st with
          sems := Function.update st.sems sem
            { st.sems sem with hhead := pholder :: (st.sems sem).hhead }
          holderalloc := Function.update st.holderalloc pholder ⟨some htcb, 1⟩
          freeholders := rest }) := by
  unfold semAddholderTcb semFindorallocateholder
  cases found : semFindholder st sem htcb with
  | some pholder => exact .inl ⟨pholder, rfl, rfl⟩
  | none =>
      cases free : st.freeholders with
      | nil => exact .inr (.inl ⟨rfl, by simp [semAllocholder, free]⟩)
      | cons pholder rest =>
          refine .inr (.inr ⟨pholder, rest, rfl, rfl, ?_⟩)
          simp [semAllocholder, free, SemState.setHolder, SemState.setSem]

theorem Conserved.semAddholderTcb (h : Conserved st) (htcb : T) (sem : S) :
    Conserved (semAddholderTcb st htcb sem) := by
  rcases semAddholderTcb_cases st htcb sem with
    ⟨pholder, found, added⟩ | ⟨-, added⟩ | ⟨pholder, rest, missing, free, added⟩
  · rw [added]
    exact h.setHolder (semFindholder_eq_some found).2.symm
  · rw [added]
    exact h
  · rw [added]
    exact h.allocate free (semFindholder_eq_none missing) 1

omit [DecidableEq S] in
theorem Conserved.semReleaseholder (h : Conserved st) (rtcb : T) (sem : S) :
    Conserved (semReleaseholder st rtcb sem) := by
  unfold Semaphore.semReleaseholder
  split
  · split_ifs
    · exact h.setHolder rfl
    · exact h
  · exact h

/-- A `sem_foreachholder` handler frees at most the container it is given and otherwise
leaves every container where it is. -/
def FreesOnly (sem : S) (handler : SemState S T H → H → SemState S T H × Nat) : Prop :=
  ∀ st pholder, (handler st pholder).1 = semFreeholder st sem pholder ∨
    Reprioritized st (handler st pholder).1

omit [DecidableEq T] in
/-- One call of such a handler on a listed container keeps the invariant and leaves the
other containers of the list on it. -/
theorem Conserved.handled {st' : SemState S T H} (h : Conserved st)
    (mem : pholder ∈ (st.sems sem).hhead)
    (handled : st' = Semaphore.semFreeholder st sem pholder ∨ Reprioritized st st') :
    Conserved st' ∧ ∀ c ∈ (st.sems sem).hhead, c ≠ pholder → c ∈ (st'.sems sem).hhead := by
  rcases handled with rfl | ⟨same, -⟩
  · refine ⟨h.semFreeholder mem, fun c held ne => ?_⟩
    rw [hhead_semFreeholder mem, if_pos rfl]
    exact (List.mem_erase_of_ne ne).mpr held
  · exact ⟨h.sameHolders same, fun c held _ => by rw [same.1]; exact held⟩

omit [DecidableEq T] in
/-- The loop over a snapshot of containers still on the list keeps the invariant. The
induction is on the snapshot; a handler frees only the container it is given, so the rest
of the snapshot stays on the list. -/
theorem Conserved.semForeachholder
    (frees : FreesOnly sem handler) :
    ∀ (holders : List H) (st : SemState S T H), holders.Nodup →
      (∀ c ∈ holders, c ∈ (st.sems sem).hhead) → Conserved st →
        Conserved (Semaphore.semForeachholder handler holders st).1
  | [], st, _, _, h => h
  | pholder :: rest, st, nodup, listed, h => by
      rw [List.nodup_cons] at nodup
      rw [semForeachholder_cons]
      dsimp only
      -- the handler runs only on a container that names a task
      generalize next : (if (st.holderalloc pholder).htcb.isSome then handler st pholder
        else (st, 0)) = result
      have handled : result.1 = Semaphore.semFreeholder st sem pholder ∨
          Reprioritized st result.1 := by
        rw [← next]
        split
        · exact frees st pholder
        · exact .inr (Reprioritized.refl st)
      obtain ⟨kept, still⟩ := h.handled (listed pholder List.mem_cons_self) handled
      split
      · exact Conserved.semForeachholder frees rest _ nodup.2
          (fun c mem => still c (listed c (List.mem_cons_of_mem _ mem))
            (fun eq => nodup.1 (eq ▸ mem))) kept
      · exact kept

omit [DecidableEq T] in
theorem Conserved.semForeachholder_hhead
    (frees : FreesOnly sem handler)
    (h : Conserved st) :
    Conserved (Semaphore.semForeachholder handler (st.sems sem).hhead st).1 :=
  Conserved.semForeachholder frees _ st (h.held_nodup sem) (fun _ mem => mem) h

theorem freesOnly_semBoostholderprio (nnestprio : Nat) (verify : T → Bool) (sem : S) (rtcb : T) :
    FreesOnly sem (semBoostholderprio nnestprio verify sem rtcb : SemState S T H → H → _) := by
  intro st pholder
  unfold semBoostholderprio
  split
  · exact .inr (Reprioritized.refl st)
  · dsimp only
    split
    · -- a stale holder is freed; every other branch changes tasks only
      exact .inl rfl
    split
    · split
      · -- with or without saving the holder's boosted priority
        split
        · exact .inr ((reprioritized_setTcb _ _ _ (by rfl)).trans (reprioritized_schedSetpriority _ _ _))
        · exact .inr (reprioritized_schedSetpriority _ _ _)
      · exact .inr (reprioritized_setTcb _ _ _ (by rfl))
    · exact .inr (Reprioritized.refl st)

theorem freesOnly_semRestoreholderprio (verify : T → Bool) (sem : S) (stcb : T) :
    FreesOnly sem (semRestoreholderprio verify sem stcb : SemState S T H → H → _) := by
  intro st pholder
  unfold semRestoreholderprio
  split
  · exact .inr (Reprioritized.refl st)
  · dsimp only
    split
    · -- a stale holder is freed; every other branch changes tasks only
      exact .inl rfl
    split
    · split
      · exact .inr (reprioritized_schedReprioritize _ _ _)
      split
      · exact .inr ((reprioritized_setTcb _ _ _ (by rfl)).trans (reprioritized_schedSetpriority _ _ _))
      · split
        · exact .inr (Reprioritized.refl st)
        · exact .inr (reprioritized_setTcb _ _ _ (by rfl))
    · exact .inr (Reprioritized.refl st)

theorem freesOnly_semRestoreholderprioA (verify : T → Bool) (sem : S) (rtcb stcb : T) :
    FreesOnly sem (semRestoreholderprioA verify sem rtcb stcb : SemState S T H → H → _) := by
  intro st pholder
  unfold semRestoreholderprioA
  split
  · exact freesOnly_semRestoreholderprio verify sem stcb st pholder
  · exact .inr (Reprioritized.refl st)

theorem freesOnly_semRestoreholderprioB (verify : T → Bool) (sem : S) (rtcb stcb : T) :
    FreesOnly sem (semRestoreholderprioB verify sem rtcb stcb : SemState S T H → H → _) := by
  intro st pholder
  unfold semRestoreholderprioB
  split
  · exact freesOnly_semRestoreholderprio verify sem stcb st pholder
  · exact .inr (Reprioritized.refl st)

theorem Conserved.semBoostpriority (h : Conserved st) (rtcb : T) (sem : S) :
    Conserved (semBoostpriority nnestprio verify st rtcb sem) :=
  h.semForeachholder_hhead (freesOnly_semBoostholderprio nnestprio verify sem rtcb)

theorem Conserved.semCanceled (h : Conserved st) (stcb : T) (sem : S) :
    Conserved (semCanceled verify st stcb sem) :=
  h.semForeachholder_hhead (freesOnly_semRestoreholderprio verify sem stcb)

theorem Conserved.semRestorebaseprioIrq (h : Conserved st)
    (stcb : Option T) (sem : S) : Conserved (semRestorebaseprioIrq verify st stcb sem) := by
  unfold Semaphore.semRestorebaseprioIrq
  cases stcb with
  | none => exact h
  | some stcb => exact h.semForeachholder_hhead (freesOnly_semRestoreholderprio verify sem stcb)

theorem Conserved.semRestorebaseprioTask (h : Conserved st) (rtcb : T)
    (stcb : Option T) (sem : S) : Conserved (semRestorebaseprioTask verify st rtcb stcb sem) := by
  have passes : Conserved (match stcb with
      | some stcb =>
          let st := (Semaphore.semForeachholder (semRestoreholderprioA verify sem rtcb stcb)
            (st.sems sem).hhead st).1
          (Semaphore.semForeachholder (semRestoreholderprioB verify sem rtcb stcb)
            (st.sems sem).hhead st).1
      | none => st) := by
    cases stcb with
    | none => exact h
    | some stcb =>
        exact (h.semForeachholder_hhead (freesOnly_semRestoreholderprioA verify sem rtcb stcb)
          ).semForeachholder_hhead (freesOnly_semRestoreholderprioB verify sem rtcb stcb)
  -- the running task's container goes back once it holds no counts
  have freed : ∀ st' : SemState S T H, Conserved st' → Conserved (match semFindholder st' sem rtcb with
      | some pholder =>
          if (st'.holderalloc pholder).counts ≤ 0 then Semaphore.semFreeholder st' sem pholder else st'
      | none => st') := by
    intro st' h'
    split
    · rename_i pholder found
      split_ifs
      · exact h'.semFreeholder (semFindholder_eq_some found).1
      · exact h'
    · exact h'
  exact freed _ passes

theorem Conserved.semRestorebaseprio (h : Conserved st) (isr : Bool)
    (rtcb : T) (stcb : Option T) (sem : S) :
    Conserved (semRestorebaseprio verify st isr rtcb stcb sem) := by
  cases isr
  · exact h.semRestorebaseprioTask rtcb stcb sem
  · exact h.semRestorebaseprioIrq stcb sem

omit [DecidableEq T] in
theorem Conserved.semDestroyholder (h : Conserved st) (sem : S) :
    Conserved (semDestroyholder st sem) := by
  unfold Semaphore.semDestroyholder
  split_ifs
  · exact h.semForeachholder_hhead (fun _ _ => .inl rfl)
  · exact h

omit [DecidableEq S] [DecidableEq T] in
theorem Conserved.semInitholders {n : Nat} {st : SemState S T (Fin n)}
    (empty : ∀ sem, (st.sems sem).hhead = []) : Conserved (semInitholders st) where
  free_nodup := List.nodup_finRange n
  held_nodup sem := (empty sem).symm ▸ List.nodup_nil
  free_not_held sem _ held := absurd (empty sem ▸ held) List.not_mem_nil
  one_sem sem _ _ held := absurd (empty sem ▸ held) List.not_mem_nil
  listed c := .inl (List.mem_finRange c)
  named sem _ held := absurd (empty sem ▸ held) List.not_mem_nil
  distinct sem _ _ held := absurd (empty sem ▸ held) List.not_mem_nil

end Conservation

/-! ## The holder functions keep every wait and count -/

section Waits

variable {S T H : Type} [DecidableEq S] [DecidableEq T] [DecidableEq H]
  {nnestprio : Nat} {verify : T → Bool}

omit [DecidableEq S] [DecidableEq T] in
theorem sameWaits_setHolder (st : SemState S T H) (pholder : H) (holder : Semholder T) :
    SameWaits st (st.setHolder pholder holder) :=
  ⟨fun _ => rfl, List.Perm.refl _, fun _ => rfl⟩

theorem sameWaits_semAddholderTcb (st : SemState S T H) (htcb : T) (sem : S) :
    SameWaits st (semAddholderTcb st htcb sem) := by
  rcases semAddholderTcb_cases st htcb sem with
    ⟨pholder, -, added⟩ | ⟨-, added⟩ | ⟨pholder, rest, -, -, added⟩
  · rw [added]
    exact sameWaits_setHolder st pholder _
  · rw [added]
    exact SameWaits.refl st
  · -- the container moves to the semaphore's list, whose count stays
    rw [added]
    refine ⟨fun _ => rfl, List.Perm.refl _, fun sem' => ?_⟩
    by_cases same : sem' = sem
    · subst same
      simp
    · simp [Function.update_of_ne same]

omit [DecidableEq S] in
theorem sameWaits_semReleaseholder (st : SemState S T H) (rtcb : T) (sem : S) :
    SameWaits st (semReleaseholder st rtcb sem) := by
  unfold semReleaseholder
  split
  · split_ifs
    · exact sameWaits_setHolder st _ _
    · exact SameWaits.refl st
  · exact SameWaits.refl st

omit [DecidableEq T] in
theorem sameWaits_semForeachholder {sem : S}
    {handler : SemState S T H → H → SemState S T H × Nat} (frees : FreesOnly sem handler)
    (holders : List H) (st : SemState S T H) :
    SameWaits st (semForeachholder handler holders st).1 := by
  refine semForeachholder_rel SameWaits SameWaits.refl (fun _ _ _ => SameWaits.trans)
    (fun st pholder => ?_) holders st
  rcases frees st pholder with freed | same
  · rw [freed]
    exact sameWaits_semFreeholder st sem pholder
  · exact same.2

theorem sameWaits_semBoostpriority (st : SemState S T H) (rtcb : T) (sem : S) :
    SameWaits st (semBoostpriority nnestprio verify st rtcb sem) :=
  sameWaits_semForeachholder (freesOnly_semBoostholderprio nnestprio verify sem rtcb) _ st

theorem sameWaits_semCanceled (st : SemState S T H) (stcb : T) (sem : S) :
    SameWaits st (semCanceled verify st stcb sem) :=
  sameWaits_semForeachholder (freesOnly_semRestoreholderprio verify sem stcb) _ st

theorem sameWaits_semRestorebaseprio (st : SemState S T H) (isr : Bool) (rtcb : T)
    (stcb : Option T) (sem : S) : SameWaits st (semRestorebaseprio verify st isr rtcb stcb sem) := by
  unfold semRestorebaseprio semRestorebaseprioIrq semRestorebaseprioTask
  cases isr
  · -- the two passes, then the running task's container if it is empty
    have passes : SameWaits st (match stcb with
        | some stcb =>
            let st := (semForeachholder (semRestoreholderprioA verify sem rtcb stcb)
              (st.sems sem).hhead st).1
            (semForeachholder (semRestoreholderprioB verify sem rtcb stcb)
              (st.sems sem).hhead st).1
        | none => st) := by
      cases stcb with
      | none => exact SameWaits.refl st
      | some stcb =>
          exact (sameWaits_semForeachholder (freesOnly_semRestoreholderprioA verify sem rtcb stcb)
            _ st).trans (sameWaits_semForeachholder
              (freesOnly_semRestoreholderprioB verify sem rtcb stcb) _ _)
    have freed : ∀ st' : SemState S T H, SameWaits st st' →
        SameWaits st (match semFindholder st' sem rtcb with
          | some pholder =>
              if (st'.holderalloc pholder).counts ≤ 0 then semFreeholder st' sem pholder else st'
          | none => st') := by
      intro st' same
      split
      · split_ifs
        · exact same.trans (sameWaits_semFreeholder st' sem _)
        · exact same
      · exact same
    exact freed _ passes
  · cases stcb with
    | none => exact SameWaits.refl st
    | some stcb =>
        exact sameWaits_semForeachholder (freesOnly_semRestoreholderprio verify sem stcb) _ st

end Waits

/-! ## Runs of the holder operations -/

/-- The calls into sem_holder.c, each with the running task where the function reads
`g_readytorun.head`. -/
inductive HolderEvent (S T : Type) where
  | addholder (rtcb : T) (sem : S)
  | addholderTcb (htcb : T) (sem : S)
  | boostpriority (rtcb : T) (sem : S)
  | releaseholder (rtcb : T) (sem : S)
  | restorebaseprio (isr : Bool) (rtcb : T) (stcb : Option T) (sem : S)
  | canceled (stcb : T) (sem : S)
  | destroyholder (sem : S)
deriving DecidableEq, Repr

section Runs

variable {S T H : Type} [DecidableEq S] [DecidableEq T] [DecidableEq H]
  (nnestprio : Nat) (verify : T → Bool)

def holderStep (st : SemState S T H) : HolderEvent S T → SemState S T H
  | .addholder rtcb sem => semAddholder st rtcb sem
  | .addholderTcb htcb sem => semAddholderTcb st htcb sem
  | .boostpriority rtcb sem => semBoostpriority nnestprio verify st rtcb sem
  | .releaseholder rtcb sem => semReleaseholder st rtcb sem
  | .restorebaseprio isr rtcb stcb sem => semRestorebaseprio verify st isr rtcb stcb sem
  | .canceled stcb sem => semCanceled verify st stcb sem
  | .destroyholder sem => semDestroyholder st sem

def holderRun (st : SemState S T H) (evs : List (HolderEvent S T)) : SemState S T H :=
  evs.foldl (holderStep nnestprio verify) st

variable {nnestprio verify}

theorem Conserved.holderStep {st : SemState S T H} (h : Conserved st) :
    ∀ e, Conserved (holderStep nnestprio verify st e)
  | .addholder rtcb sem => h.semAddholderTcb rtcb sem
  | .addholderTcb htcb sem => h.semAddholderTcb htcb sem
  | .boostpriority rtcb sem => h.semBoostpriority rtcb sem
  | .releaseholder rtcb sem => h.semReleaseholder rtcb sem
  | .restorebaseprio isr rtcb stcb sem => h.semRestorebaseprio isr rtcb stcb sem
  | .canceled stcb sem => h.semCanceled stcb sem
  | .destroyholder sem => h.semDestroyholder sem

/-- The run lemma: by induction on the events, each step keeping the invariant. -/
theorem Conserved.holderRun (evs : List (HolderEvent S T)) :
    ∀ {st : SemState S T H}, Conserved st → Conserved (holderRun nnestprio verify st evs) := by
  induction evs with
  | nil => exact fun h => h
  | cons e evs ih => exact fun h => ih (h.holderStep e)

theorem holderRun_conserved {n : Nat} (nnestprio : Nat) (verify : T → Bool) (value : S → Nat)
    (priority : T → Nat) (evs : List (HolderEvent S T)) :
    Conserved (holderRun nnestprio verify
      (semInitholders (semBoot value priority : SemState S T (Fin n))) evs) :=
  Conserved.holderRun evs (Conserved.semInitholders fun _ => rfl)

end Runs

end TinyAra.Kernel.Semaphore
