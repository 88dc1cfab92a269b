/-
# Kernel.Sched.Lists -- the task lists, linked as the scheduler links them

Every TCB sits in the task list that `g_tasklisttable` names for its
`task_state`: `g_readytorun` (running and ready-to-run, by priority, the
running task at the head), `g_pendingtasks` (made ready while the running task
had preemption locked), `g_inactivetasks`, and one list per kind of wait. The
lists are intrusive doubly linked lists (`DoublyLinked`): each TCB carries its
`flink` and `blink`, each list a header with `head` and `tail`.

This module embeds the code that edits them, with the source's control flow and
its pointer stores:

* the libc queue functions `dq_rem`, `dq_addlast`, `dq_addfirst`;
* `sched_addprioritized`, `sched_addreadytorun`, `sched_removereadytorun`,
  `sched_addblocked`, `sched_removeblocked`, `sched_mergepending`,
  `sched_setpriority`, `sched_lock`, `sched_unlock` (os/kernel/sched);
* `up_block_task`, `up_unblock_task`, `up_reprioritize_rtr`,
  `up_release_pending` (arch/arm/src/armv7-r), of which the model keeps the list
  edits and whether a context switch is made;
* the state `os_start` boots into, and `schedRun`, any sequence of these calls
  made as their callers document.

Every loop that follows links visits at most one node per TCB (`Fintype.card T`);
an `ASSERT` that fails, a `PANIC` and a `NULL` dereference give `none`.
-/
import Mathlib.Data.Fintype.Card
import TinyAra.Lib.DoublyLinked
import TinyAra.Lib.Machine

namespace TinyAra.Kernel.Sched

open DoublyLinked

set_option autoImplicit false

/-- `tstate_t` (sched.h), with signals, message queues and paging configured. -/
inductive TState
  | taskInvalid
  | taskPending
  | taskReadytorun
  | taskRunning
  | taskInactive
  | waitSem
  | waitSig
  | waitMqnotempty
  | waitMqnotfull
  | waitPagefill
  deriving DecidableEq, Repr

/-- The value of a state in the enumeration; the range checks compare these. -/
def TState.toNat : TState → Nat
  | .taskInvalid => 0
  | .taskPending => 1
  | .taskReadytorun => 2
  | .taskRunning => 3
  | .taskInactive => 4
  | .waitSem => 5
  | .waitSig => 6
  | .waitMqnotempty => 7
  | .waitMqnotfull => 8
  | .waitPagefill => 9

def firstReadyToRunState : TState := .taskReadytorun
def lastReadyToRunState : TState := .taskRunning
def firstBlockedState : TState := .taskInactive
def lastBlockedState : TState := .waitPagefill

/-- `task_state >= FIRST_READY_TO_RUN_STATE && task_state <= LAST_READY_TO_RUN_STATE`. -/
def TState.readyToRun (s : TState) : Bool :=
  firstReadyToRunState.toNat ≤ s.toNat && s.toNat ≤ lastReadyToRunState.toNat

/-- `task_state >= FIRST_BLOCKED_STATE && task_state <= LAST_BLOCKED_STATE`. -/
def TState.blocked (s : TState) : Bool :=
  firstBlockedState.toNat ≤ s.toNat && s.toNat ≤ lastBlockedState.toNat

/-- The task lists of os_start.c. -/
inductive TaskQueue
  | readytorun
  | pendingtasks
  | inactivetasks
  | waitingforsemaphore
  | waitingforsignal
  | waitingformqnotempty
  | waitingformqnotfull
  | waitingforfill
  deriving DecidableEq, Repr

/-- `struct tasklist_s`: the list of a state, if it has one, and whether it is kept by priority. -/
structure Tasklist where
  list : Option TaskQueue
  prioritized : Bool

/-- `g_tasklisttable` (os_start.c), indexed by the task state. -/
def tasklisttable : TState → Tasklist
  | .taskInvalid => ⟨none, false⟩
  | .taskPending => ⟨some .pendingtasks, true⟩
  | .taskReadytorun => ⟨some .readytorun, true⟩
  | .taskRunning => ⟨some .readytorun, true⟩
  | .taskInactive => ⟨some .inactivetasks, false⟩
  | .waitSem => ⟨some .waitingforsemaphore, true⟩
  | .waitSig => ⟨some .waitingforsignal, false⟩
  | .waitMqnotempty => ⟨some .waitingformqnotempty, true⟩
  | .waitMqnotfull => ⟨some .waitingformqnotfull, true⟩
  | .waitPagefill => ⟨some .waitingforfill, true⟩

def schedPriorityMin : Nat := 1
def schedPriorityMax : Nat := 255
def maxLockCount : Nat := 127

def ok : Int := 0
def error : Int := -1

/-- The links of every TCB, the headers of the task lists, and the TCB fields that the
list code reads and writes. -/
structure SchedState (T : Type) where
  /-- `tcb->flink` and `tcb->blink`. -/
  links : Links T
  /-- `g_readytorun`, `g_pendingtasks`, `g_inactivetasks` and the wait lists. -/
  lists : TaskQueue → Queue T
  schedPriority : T → Nat
  taskState : T → TState
  lockcount : T → Nat

namespace SchedState

variable {T : Type}

/-- Run a link edit on one list. -/
def edit (st : SchedState T) (list : TaskQueue) (f : Links T → Queue T → Links T × Queue T) :
    SchedState T :=
  { st with links := (f st.links (st.lists list)).1,
            lists := Function.update st.lists list (f st.links (st.lists list)).2 }

/-- Run a link edit that may dereference `NULL` on one list. -/
def editOpt (st : SchedState T) (list : TaskQueue)
    (f : Links T → Queue T → Option (Links T × Queue T)) : Option (SchedState T) :=
  (f st.links (st.lists list)).map fun r => st.edit list fun _ _ => r

section Edit

variable (st : SchedState T) (list : TaskQueue) (f : Links T → Queue T → Links T × Queue T)

@[simp] theorem links_edit : (st.edit list f).links = (f st.links (st.lists list)).1 := rfl
@[simp] theorem lists_edit (q : TaskQueue) :
    (st.edit list f).lists q = if q = list then (f st.links (st.lists list)).2 else st.lists q :=
  Function.update_apply _ _ _ _
@[simp] theorem schedPriority_edit : (st.edit list f).schedPriority = st.schedPriority := rfl
@[simp] theorem taskState_edit : (st.edit list f).taskState = st.taskState := rfl
@[simp] theorem lockcount_edit : (st.edit list f).lockcount = st.lockcount := rfl

end Edit

variable [DecidableEq T]

def setTaskState (st : SchedState T) (t : T) (s : TState) : SchedState T :=
  { st with taskState := Function.update st.taskState t s }

def setSchedPriority (st : SchedState T) (t : T) (p : Nat) : SchedState T :=
  { st with schedPriority := Function.update st.schedPriority t p }

def setLockcount (st : SchedState T) (t : T) (n : Nat) : SchedState T :=
  { st with lockcount := Function.update st.lockcount t n }

variable (st : SchedState T) (t : T)

@[simp] theorem links_setTaskState (s : TState) : (st.setTaskState t s).links = st.links := rfl
@[simp] theorem lists_setTaskState (s : TState) : (st.setTaskState t s).lists = st.lists := rfl
@[simp] theorem schedPriority_setTaskState (s : TState) :
    (st.setTaskState t s).schedPriority = st.schedPriority := rfl
@[simp] theorem lockcount_setTaskState (s : TState) :
    (st.setTaskState t s).lockcount = st.lockcount := rfl
@[simp] theorem taskState_setTaskState (s : TState) (u : T) :
    (st.setTaskState t s).taskState u = if u = t then s else st.taskState u :=
  Function.update_apply _ _ _ _

@[simp] theorem links_setSchedPriority (p : Nat) : (st.setSchedPriority t p).links = st.links := rfl
@[simp] theorem lists_setSchedPriority (p : Nat) : (st.setSchedPriority t p).lists = st.lists := rfl
@[simp] theorem taskState_setSchedPriority (p : Nat) :
    (st.setSchedPriority t p).taskState = st.taskState := rfl
@[simp] theorem lockcount_setSchedPriority (p : Nat) :
    (st.setSchedPriority t p).lockcount = st.lockcount := rfl
@[simp] theorem schedPriority_setSchedPriority (p : Nat) (u : T) :
    (st.setSchedPriority t p).schedPriority u = if u = t then p else st.schedPriority u :=
  Function.update_apply _ _ _ _

@[simp] theorem links_setLockcount (n : Nat) : (st.setLockcount t n).links = st.links := rfl
@[simp] theorem lists_setLockcount (n : Nat) : (st.setLockcount t n).lists = st.lists := rfl
@[simp] theorem taskState_setLockcount (n : Nat) :
    (st.setLockcount t n).taskState = st.taskState := rfl
@[simp] theorem schedPriority_setLockcount (n : Nat) :
    (st.setLockcount t n).schedPriority = st.schedPriority := rfl
@[simp] theorem lockcount_setLockcount (n : Nat) (u : T) :
    (st.setLockcount t n).lockcount u = if u = t then n else st.lockcount u :=
  Function.update_apply _ _ _ _

end SchedState

/-! ## The libc queue functions -/

section Queues

variable {T : Type} [DecidableEq T]

/-- `dq_rem(node, queue)`: the neighbours of `node` are linked to each other. -/
def dqRem (node : T) (L : Links T) (queue : Queue T) : Links T × Queue T := unsplice node L queue

def dqAddlast (node : T) (L : Links T) (queue : Queue T) : Option (Links T × Queue T) :=
  let L := (L.setFlink node none).setBlink node queue.tail
  match queue.head with
  | none => some (L, { head := some node, tail := some node })
  | some _ => do
      -- queue->tail->flink = node
      let tail ← queue.tail
      some (L.setFlink tail (some node), { queue with tail := some node })

def dqAddfirst (node : T) (L : Links T) (queue : Queue T) : Links T × Queue T :=
  let L := (L.setBlink node none).setFlink node queue.head
  match queue.head with
  | none => (L, { head := some node, tail := some node })
  | some head => (L.setBlink head (some node), { queue with head := some node })

end Queues

/-! ## The scheduler's list functions -/

section Calls

variable {T : Type} [DecidableEq T] [Fintype T]

/-- `sched_addprioritized(tcb, list)`: walk past every task whose priority is at least
`tcb`'s and link `tcb` in before the first one of lower priority, or at the end; true when
`tcb` went in at the head. -/
def schedAddprioritized (tcb : T) (list : TaskQueue) (st : SchedState T) :
    Option (SchedState T × Bool) :=
  let schedPriority := st.schedPriority tcb
  -- ASSERT(sched_priority >= SCHED_PRIORITY_MIN)
  if schedPriority < schedPriorityMin then none
  else do
    let next ← st.links.walk (fun n => decide (schedPriority ≤ st.schedPriority n))
      (Fintype.card T) (st.lists list).head
    match next with
    | none =>
        -- the tcb goes at the end of the list
        let prev := (st.lists list).tail
        pure (st.edit list (splice prev tcb none), prev.isNone)
    | some next =>
        -- the tcb goes just before next
        let prev := st.links.blink next
        pure (st.edit list (splice prev tcb (some next)), prev.isNone)

/-- `sched_addreadytorun(btcb)`: true when `btcb` became the running task. -/
def schedAddreadytorun (btcb : T) (st : SchedState T) : Option (SchedState T × Bool) := do
  let rtcb ← (st.lists .readytorun).head
  if st.lockcount rtcb ≠ 0 ∧ st.schedPriority rtcb < st.schedPriority btcb then
    -- preemption is locked: the new task waits in g_pendingtasks
    let (st, _) ← schedAddprioritized btcb .pendingtasks st
    pure (st.setTaskState btcb .taskPending, false)
  else do
    let (st, added) ← schedAddprioritized btcb .readytorun st
    if added then do
      -- ASSERT(!rtcb->lockcount && btcb->flink != NULL)
      if st.lockcount rtcb ≠ 0 then none
      else do
        let next ← st.links.flink btcb
        pure ((st.setTaskState btcb .taskRunning).setTaskState next .taskReadytorun, true)
    else
      pure (st.setTaskState btcb .taskReadytorun, false)

/-- `sched_removereadytorun(rtcb)`: true when `rtcb` was the running task. -/
def schedRemovereadytorun (rtcb : T) (st : SchedState T) : Option (SchedState T × Bool) := do
  let (st, ret) ←
    match st.links.blink rtcb with
    | none => do
        -- rtcb is at the head: the next task becomes the running one
        let ntcb ← st.links.flink rtcb
        pure (st.setTaskState ntcb .taskRunning, true)
    | some _ => pure (st, false)
  pure ((st.edit .readytorun (dqRem rtcb)).setTaskState rtcb .taskInvalid, ret)

def schedAddblocked (btcb : T) (taskState : TState) (st : SchedState T) :
    Option (SchedState T) :=
  if !taskState.blocked then none
  else do
    let entry := tasklisttable taskState
    let list ← entry.list
    let st ←
      if entry.prioritized then (schedAddprioritized btcb list st).map Prod.fst
      else st.editOpt list (dqAddlast btcb)
    pure (st.setTaskState btcb taskState)

def schedRemoveblocked (btcb : T) (st : SchedState T) : Option (SchedState T) :=
  let taskState := st.taskState btcb
  if !taskState.blocked then none
  else do
    let list ← (tasklisttable taskState).list
    pure ((st.edit list (dqRem btcb)).setTaskState btcb .taskInvalid)

/-- The loop of `sched_mergepending` from the pending task `pndtcb` on; the search for
where it goes in `g_readytorun` starts at `rtrtcb`, the task linked in last. -/
def mergeLoop : Nat → Option T → Option T → Bool → SchedState T → Option (SchedState T × Bool)
  | _, none, _, ret, st => some (st, ret)
  | 0, some _, _, _, _ => none
  | fuel + 1, some pndtcb, rtrtcb, ret, st => do
      let pndnext := st.links.flink pndtcb
      let found ← st.links.walk
        (fun r => decide (st.schedPriority pndtcb ≤ st.schedPriority r)) (Fintype.card T) rtrtcb
      -- ASSERT(rtrtcb)
      let rtrtcb ← found
      let rtrprev := st.links.blink rtrtcb
      let st := st.edit .readytorun (splice rtrprev pndtcb (some rtrtcb))
      match rtrprev with
      | none =>
          -- pndtcb goes in at the head and becomes the running task
          mergeLoop fuel pndnext (some pndtcb) true
            ((st.setTaskState rtrtcb .taskReadytorun).setTaskState pndtcb .taskRunning)
      | some _ => mergeLoop fuel pndnext (some pndtcb) ret (st.setTaskState pndtcb .taskReadytorun)

/-- `sched_mergepending()`: true when the running task changed. -/
def schedMergepending (st : SchedState T) : Option (SchedState T × Bool) := do
  let (st, ret) ← mergeLoop (Fintype.card T) (st.lists .pendingtasks).head
    (st.lists .readytorun).head false st
  pure ({ st with lists := Function.update st.lists .pendingtasks Queue.empty }, ret)

/-- `up_block_task(tcb, task_state)`; the flag says whether it switches context. -/
def upBlockTask (tcb : T) (taskState : TState) (st : SchedState T) :
    Option (SchedState T × Bool) :=
  if !(st.taskState tcb).readyToRun then none
  else do
    let (st, switchNeeded) ← schedRemovereadytorun tcb st
    let st ← schedAddblocked tcb taskState st
    if (st.lists .pendingtasks).head.isSome then do
      let (st, merged) ← schedMergepending st
      pure (st, switchNeeded || merged)
    else pure (st, switchNeeded)

/-- `up_unblock_task(tcb)`; the flag says whether it switches context. -/
def upUnblockTask (tcb : T) (st : SchedState T) : Option (SchedState T × Bool) :=
  if !(st.taskState tcb).blocked then none
  else do
    let st ← schedRemoveblocked tcb st
    schedAddreadytorun tcb st

/-- `up_reprioritize_rtr(tcb, priority)`; the flag says whether it switches context: one
and only one of the removal and the insertion changed the head. -/
def upReprioritizeRtr (tcb : T) (priority : UInt8) (st : SchedState T) :
    Option (SchedState T × Bool) :=
  -- PANIC() unless tcb is ready to run and the priority is at least SCHED_PRIORITY_MIN
  if !(st.taskState tcb).readyToRun || decide (priority.toNat < schedPriorityMin) then none
  else do
    let (st, removed) ← schedRemovereadytorun tcb st
    let (st, added) ← schedAddreadytorun tcb (st.setSchedPriority tcb priority.toNat)
    let switchNeeded := removed ^^ added
    if switchNeeded && (st.lists .pendingtasks).head.isSome then do
      let (st, _) ← schedMergepending st
      pure (st, switchNeeded)
    else pure (st, switchNeeded)

/-- `up_release_pending()`: it switches context when merging changed the running task. -/
def upReleasePending (st : SchedState T) : Option (SchedState T × Bool) := schedMergepending st

def schedSetpriority (tcb : T) (schedPriority : Int) (st : SchedState T) :
    Option (SchedState T × Int) :=
  if schedPriority < schedPriorityMin ∨ schedPriority > schedPriorityMax then some (st, error)
  else
    let priority := schedPriority.toNat
    match st.taskState tcb with
    | .taskRunning => do
        -- a context switch occurs if the next task's priority is as high or higher
        let next ← st.links.flink tcb
        if priority ≤ st.schedPriority next then do
          let (st, _) ← upReprioritizeRtr tcb (UInt8.ofNat priority) st
          pure (st, ok)
        else pure (st.setSchedPriority tcb priority, ok)
    | .taskReadytorun => do
        let rtcb ← (st.lists .readytorun).head
        if priority > st.schedPriority rtcb then do
          let (st, _) ← upReprioritizeRtr tcb (UInt8.ofNat priority) st
          pure (st, ok)
        else do
          -- ASSERT(!sched_removereadytorun(tcb)) and ASSERT(!sched_addreadytorun(tcb))
          let (st, removed) ← schedRemovereadytorun tcb st
          if removed then none
          else do
            let (st, added) ← schedAddreadytorun tcb (st.setSchedPriority tcb priority)
            if added then none else pure (st, ok)
    | taskState =>
        let entry := tasklisttable taskState
        if entry.prioritized then do
          let list ← entry.list
          let st := (st.edit list (dqRem tcb)).setSchedPriority tcb priority
          let (st, _) ← schedAddprioritized tcb list st
          pure (st, ok)
        else pure (st.setSchedPriority tcb priority, ok)

def schedLock (st : SchedState T) : Option (SchedState T) :=
  match (st.lists .readytorun).head with
  | none => some st
  | some rtcb =>
      -- ASSERT(rtcb->lockcount < MAX_LOCK_COUNT)
      if st.lockcount rtcb < maxLockCount then some (st.setLockcount rtcb (st.lockcount rtcb + 1))
      else none

/-- `sched_unlock()` from task level; the flag says whether releasing the pending tasks
switches context. -/
def schedUnlock (st : SchedState T) : Option (SchedState T × Bool) :=
  match (st.lists .readytorun).head with
  | none => some (st, false)
  | some rtcb =>
      let st := st.setLockcount rtcb (st.lockcount rtcb - 1)
      if st.lockcount rtcb = 0 ∧ (st.lists .pendingtasks).head.isSome then upReleasePending st
      else some (st, false)

end Calls

/-! ## Runs from boot -/

/-- A call into the task-list code. -/
inductive Event (T : Type)
  | addreadytorun (btcb : T)
  | removereadytorun (rtcb : T)
  | addblocked (btcb : T) (taskState : TState)
  | removeblocked (btcb : T)
  | mergepending
  | blockTask (tcb : T) (taskState : TState)
  | unblockTask (tcb : T)
  | reprioritizeRtr (tcb : T) (priority : UInt8)
  | releasePending
  | setpriority (tcb : T) (schedPriority : Int)
  | lock
  | unlock
  deriving DecidableEq, Repr

/-- What a call gives back: the result of `sched_addreadytorun`, `sched_removereadytorun`
or `sched_mergepending`, whether an `up_` call or `sched_unlock` switches context, the
status of `sched_setpriority`, or nothing. -/
inductive Outcome
  | result (b : Bool)
  | switch (b : Bool)
  | status (ret : Int)
  | done
  deriving DecidableEq, Repr

variable {T : Type} [DecidableEq T] [Fintype T]

def schedCall (st : SchedState T) : Event T → Option (SchedState T × Outcome)
  | .addreadytorun btcb => (schedAddreadytorun btcb st).map fun r => (r.1, .result r.2)
  | .removereadytorun rtcb => (schedRemovereadytorun rtcb st).map fun r => (r.1, .result r.2)
  | .addblocked btcb s => (schedAddblocked btcb s st).map fun st => (st, .done)
  | .removeblocked btcb => (schedRemoveblocked btcb st).map fun st => (st, .done)
  | .mergepending => (schedMergepending st).map fun r => (r.1, .result r.2)
  | .blockTask tcb s => (upBlockTask tcb s st).map fun r => (r.1, .switch r.2)
  | .unblockTask tcb => (upUnblockTask tcb st).map fun r => (r.1, .switch r.2)
  | .reprioritizeRtr tcb p => (upReprioritizeRtr tcb p st).map fun r => (r.1, .switch r.2)
  | .releasePending => (upReleasePending st).map fun r => (r.1, .switch r.2)
  | .setpriority tcb p => (schedSetpriority tcb p st).map fun r => (r.1, .status r.2)
  | .lock => (schedLock st).map fun st => (st, .done)
  | .unlock => (schedUnlock st).map fun r => (r.1, .switch r.2)

/-- What the callers guarantee (the functions' comments): a task handed to
`sched_addreadytorun` or `sched_addblocked` has been taken out of every list, a task
handed to `sched_removereadytorun` is ready to run, and the idle task, which must always
end `g_readytorun`, is never taken out of it nor given another priority. -/
def Event.documented (idle : T) (st : SchedState T) : Event T → Bool
  | .addreadytorun btcb => st.taskState btcb = .taskInvalid
  | .addblocked btcb _ => st.taskState btcb = .taskInvalid
  | .removereadytorun rtcb => rtcb ≠ idle && (st.taskState rtcb).readyToRun
  | .blockTask tcb _ => tcb ≠ idle
  | .reprioritizeRtr tcb _ => tcb ≠ idle
  | .setpriority tcb _ => tcb ≠ idle
  | _ => true

def schedStep (idle : T) (st : SchedState T) (e : Event T) : Option (SchedState T × Outcome) :=
  if e.documented idle st then schedCall st e else none

/-- The state `os_start` boots into: every list empty (`dq_init`), every TCB zeroed, and
the idle task running, added to `g_readytorun` with `dq_addfirst`. -/
def osStart (idle : T) : SchedState T :=
  let st : SchedState T :=
    { links := ⟨fun _ => none, fun _ => none⟩
      lists := fun _ => Queue.empty
      schedPriority := fun _ => 0
      taskState := fun t => if t = idle then .taskRunning else .taskInvalid
      lockcount := fun _ => 0 }
  st.edit .readytorun (dqAddfirst idle)

def schedRun (idle : T) : List (Event T) → Option (SchedState T × List Outcome) :=
  Machine.runOut (schedStep idle) (osStart idle)

end TinyAra.Kernel.Sched
