/-
# Kernel.Mqueue -- POSIX message queues: the message list and the waiting tasks

A queue (`struct mqueue_inode_s`) holds its messages in `msglist`, counts them
in `nmsgs`, and counts in `nwaitnotempty` and `nwaitnotfull` the tasks blocked
on it in `g_waitingformqnotempty` and `g_waitingformqnotfull`; a blocked task
names its queue in `msgwaitq`. The calls modelled are `mq_send` from a task
and from an interrupt handler (mq_send.c, with `mq_verifysend`, `mq_waitsend`
and `mq_dosend` of mq_sndinternal.c), `mq_receive` (mq_receive.c, with
`mq_verifyreceive`, `mq_waitreceive` and `mq_doreceive` of mq_rcvinternal.c)
and `mq_waitirq` (mq_waitirq.c), which wakes a waiter on a signal or a timeout.
Each event is one critical section of the code; a task that blocks runs the
call again from its test of the queue when it is woken, which is the loop of
`mq_waitsend` and `mq_waitreceive`.

The specification `MqSpec` keeps, for each queue, the messages sent and not yet
received in the order they were sent; a receive answers with `firstMax` of
them, the earliest sent of the highest priority.  `mqRun_spec` says that every
run of the code gives the answers the specification gives, with `msglist` that
list arranged by priority (`Refines`), the waiter counts equal to the waiting
tasks (`Good`), and `nmsgs` within `maxmsgs` as long as no interrupt handler
sends. An interrupt handler's send does not test the queue's fullness, so it
can leave `maxmsgs + 1` messages (`mqRun_sendFromIsr_overfills`).
-/
import TinyAra.Kernel.TaskList
import TinyAra.Lib.Machine

namespace TinyAra.Kernel.Mqueue

open TinyAra.Kernel.TaskList PriorityList

set_option autoImplicit false

/-- `MQ_PRIO_MAX`, which is `_POSIX_MQ_PRIO_MAX`, `UCHAR_MAX`. -/
def mqPrioMax : Int := 255

/-- The `errno` values these calls set. -/
inductive Errno where
  | EINVAL
  | EPERM
  | EMSGSIZE
  | EAGAIN
deriving DecidableEq, Repr

/-- The bits of a descriptor's `oflags` the calls test: `O_RDOK`, `O_WROK`, `O_NONBLOCK`. -/
structure OFlags where
  rdok : Bool
  wrok : Bool
  nonblock : Bool
deriving DecidableEq, Repr

/-- `struct mq_des`: the queue a descriptor opens and the flags it was opened with. -/
structure MqDes (Q : Type) where
  msgq : Q
  oflags : OFlags
deriving DecidableEq, Repr

/-- `struct mqueue_msg_s` without its link and allocation type. -/
structure MqueueMsg where
  priority : Nat
  msglen : Nat
  mail : List UInt8
deriving DecidableEq, Repr

/-- `struct mqueue_inode_s` without its inode and notification fields. -/
structure MqueueInode where
  msglist : List MqueueMsg
  maxmsgs : Nat
  nmsgs : Nat
  nwaitnotfull : Nat
  nwaitnotempty : Nat
  maxmsgsize : Nat
deriving DecidableEq, Repr

/-- The two states of a task blocked on a queue: `TSTATE_WAIT_MQNOTEMPTY` and
`TSTATE_WAIT_MQNOTFULL`. -/
inductive Wait where
  | notempty
  | notfull
deriving DecidableEq, Repr

/-- What the calls read and write: the queues, each task's `msgwaitq`, and the lists
`g_waitingformqnotempty` and `g_waitingformqnotfull`. -/
structure MqState (Q T : Type) where
  msgqs : Q → MqueueInode
  msgwaitq : T → Option Q
  waitingformqnotempty : List T
  waitingformqnotfull : List T

/-- What a call returns to its caller. -/
inductive Reply where
  /-- `OK`, or nothing for `mq_waitirq` -/
  | ok
  /-- `ERROR` with `errno` set -/
  | error (errno : Errno)
  /-- `ERROR` from `mq_send` when `mq_msgalloc` found no message structure -/
  | noMessage
  /-- the caller blocks -/
  | blocked
  /-- `mq_receive` copied out the message: its bytes, their number and its priority -/
  | received (mqmsg : MqueueMsg)
deriving DecidableEq, Repr

/-! ## The counter and the list of a wait -/

namespace MqueueInode

/-- The counter of the tasks in wait `w` on this queue. -/
def nwait (inode : MqueueInode) : Wait → Nat
  | .notempty => inode.nwaitnotempty
  | .notfull => inode.nwaitnotfull

def setNwait (inode : MqueueInode) : Wait → Nat → MqueueInode
  | .notempty, n => { inode with nwaitnotempty := n }
  | .notfull, n => { inode with nwaitnotfull := n }

@[simp] theorem nwait_setNwait (inode : MqueueInode) (w w' : Wait) (n : Nat) :
    (inode.setNwait w n).nwait w' = if w' = w then n else inode.nwait w' := by
  cases w <;> cases w' <;> rfl

@[simp] theorem msglist_setNwait (inode : MqueueInode) (w : Wait) (n : Nat) :
    (inode.setNwait w n).msglist = inode.msglist := by cases w <;> rfl

@[simp] theorem nmsgs_setNwait (inode : MqueueInode) (w : Wait) (n : Nat) :
    (inode.setNwait w n).nmsgs = inode.nmsgs := by cases w <;> rfl

@[simp] theorem maxmsgs_setNwait (inode : MqueueInode) (w : Wait) (n : Nat) :
    (inode.setNwait w n).maxmsgs = inode.maxmsgs := by cases w <;> rfl

@[simp] theorem maxmsgsize_setNwait (inode : MqueueInode) (w : Wait) (n : Nat) :
    (inode.setNwait w n).maxmsgsize = inode.maxmsgsize := by cases w <;> rfl

end MqueueInode

namespace MqState

variable {Q T : Type}

/-- The list of the tasks in wait `w`. -/
def waiting (s : MqState Q T) : Wait → List T
  | .notempty => s.waitingformqnotempty
  | .notfull => s.waitingformqnotfull

def setWaiting (s : MqState Q T) : Wait → List T → MqState Q T
  | .notempty, l => { s with waitingformqnotempty := l }
  | .notfull, l => { s with waitingformqnotfull := l }

@[simp] theorem waiting_setWaiting (s : MqState Q T) (w w' : Wait) (l : List T) :
    (s.setWaiting w l).waiting w' = if w' = w then l else s.waiting w' := by
  cases w <;> cases w' <;> rfl

@[simp] theorem msgqs_setWaiting (s : MqState Q T) (w : Wait) (l : List T) :
    (s.setWaiting w l).msgqs = s.msgqs := by cases w <;> rfl

@[simp] theorem msgwaitq_setWaiting (s : MqState Q T) (w : Wait) (l : List T) :
    (s.setWaiting w l).msgwaitq = s.msgwaitq := by cases w <;> rfl

/-- A task that runs, so that it can call: it waits on no queue. -/
def Runs (s : MqState Q T) (t : T) : Prop :=
  t ∉ s.waitingformqnotempty ∧ t ∉ s.waitingformqnotfull

instance [DecidableEq T] (s : MqState Q T) (t : T) : Decidable (s.Runs t) :=
  inferInstanceAs (Decidable (_ ∧ _))

theorem Runs.not_mem {s : MqState Q T} {t : T} (runs : s.Runs t) (w : Wait) : t ∉ s.waiting w := by
  cases w
  · exact runs.1
  · exact runs.2

variable [DecidableEq Q]

def setMsgq (s : MqState Q T) (q : Q) (inode : MqueueInode) : MqState Q T :=
  { s with msgqs := Function.update s.msgqs q inode }

@[simp] theorem msgqs_setMsgq (s : MqState Q T) (q : Q) (inode : MqueueInode) :
    (s.setMsgq q inode).msgqs = Function.update s.msgqs q inode := rfl

@[simp] theorem waiting_setMsgq (s : MqState Q T) (q : Q) (inode : MqueueInode) (w : Wait) :
    (s.setMsgq q inode).waiting w = s.waiting w := by cases w <;> rfl

@[simp] theorem msgwaitq_setMsgq (s : MqState Q T) (q : Q) (inode : MqueueInode) :
    (s.setMsgq q inode).msgwaitq = s.msgwaitq := rfl

end MqState

/-! ## The calls -/

section Calls

variable {Q T : Type} [DecidableEq Q] [DecidableEq T] (priority : T → Nat)

/-- `mq_verifysend(mqdes, msg, msglen, prio)`, for a non-null `msg` and `mqdes`. -/
def mqVerifysend (mqdes : MqDes Q) (maxmsgsize msglen : Nat) (prio : Int) : Except Errno Unit :=
  if prio < 0 ∨ prio > mqPrioMax then .error .EINVAL
  else if !mqdes.oflags.wrok then .error .EPERM
  else if msglen > maxmsgsize then .error .EMSGSIZE
  else .ok ()

/-- `mq_verifyreceive(mqdes, msg, msglen)`, for a non-null `msg` and `mqdes`. -/
def mqVerifyreceive (mqdes : MqDes Q) (maxmsgsize msglen : Nat) : Except Errno Unit :=
  if !mqdes.oflags.rdok then .error .EPERM
  else if msglen < maxmsgsize then .error .EMSGSIZE
  else .ok ()

/-- The insertion of `mq_dosend`: past every message whose priority is at least the
new one's. -/
def mqInsert (mqmsg : MqueueMsg) (msglist : List MqueueMsg) : List MqueueMsg :=
  msglist.orderedInsert (Above MqueueMsg.priority) mqmsg

/-- The blocking of `mq_waitsend` (not full) and `mq_waitreceive` (not empty):
`rtcb->msgwaitq = msgq`, one more waiter counted, and `up_block_task` into the
prioritized list of the wait. -/
def mqBlock (s : MqState Q T) (w : Wait) (rtcb : T) (msgq : Q) : MqState Q T :=
  let s := s.setMsgq msgq ((s.msgqs msgq).setNwait w ((s.msgqs msgq).nwait w + 1))
  { s.setWaiting w (schedAddprioritized priority rtcb (s.waiting w)) with
    msgwaitq := Function.update s.msgwaitq rtcb (some msgq) }

/-- `btcb->msgwaitq = NULL`, one waiter less on `msgq`, and `up_unblock_task(btcb)` out of
the list of the wait. -/
def mqUnblock (s : MqState Q T) (w : Wait) (btcb : T) (msgq : Q) : MqState Q T :=
  let s := s.setMsgq msgq ((s.msgqs msgq).setNwait w ((s.msgqs msgq).nwait w - 1))
  { s.setWaiting w ((s.waiting w).erase btcb) with
    msgwaitq := Function.update s.msgwaitq btcb none }

/-- The wake-up of `mq_dosend` (not empty) and of `mq_doreceive` (not full): when the queue
counts a waiter, the first task of the wait's list that waits on it is unblocked;
`ASSERT(btcb)` stops the kernel (`none`) if there is none. -/
def mqWake (s : MqState Q T) (w : Wait) (msgq : Q) : Option (MqState Q T) :=
  if (s.msgqs msgq).nwait w > 0 then
    ((s.waiting w).find? fun btcb => s.msgwaitq btcb = some msgq).map fun btcb =>
      mqUnblock s w btcb msgq
  else some s

/-- `mq_dosend(mqdes, mqmsg, msg, msglen, prio)`: the message goes into the list and is
counted, and a task waiting for the queue to be not empty is woken. -/
def mqDosend (s : MqState Q T) (msgq : Q) (msg : List UInt8) (prio : Nat) : Option (MqState Q T) :=
  let inode := s.msgqs msgq
  mqWake (s.setMsgq msgq { inode with
    msglist := mqInsert ⟨prio, msg.length, msg⟩ inode.msglist
    nmsgs := inode.nmsgs + 1 }) .notempty msgq

/-- `mq_send(mqdes, msg, msglen, prio)` from task `rtcb`. A full queue makes
`mq_waitsend` fail with `EAGAIN` under `O_NONBLOCK` or block the caller. -/
def mqSend (s : MqState Q T) (rtcb : T) (mqdes : MqDes Q) (msg : List UInt8) (prio : Int) :
    Option (MqState Q T × Reply) :=
  let inode := s.msgqs mqdes.msgq
  match mqVerifysend mqdes inode.maxmsgsize msg.length prio with
  | .error errno => some (s, .error errno)
  | .ok () =>
      if inode.nmsgs < inode.maxmsgs then (mqDosend s mqdes.msgq msg prio.toNat).map (·, .ok)
      else if mqdes.oflags.nonblock then some (s, .error .EAGAIN)
      else some (mqBlock priority s .notfull rtcb mqdes.msgq, .blocked)

/-- `mq_send` from an interrupt handler: `up_interrupt_context()` skips the test of the
queue, and `mq_msgalloc` either takes a message from `g_msgfree` or `g_msgfreeirq`
(`allocated`) or finds none. -/
def mqSendFromIsr (s : MqState Q T) (mqdes : MqDes Q) (msg : List UInt8) (prio : Int)
    (allocated : Bool) : Option (MqState Q T × Reply) :=
  match mqVerifysend mqdes (s.msgqs mqdes.msgq).maxmsgsize msg.length prio with
  | .error errno => some (s, .error errno)
  | .ok () =>
      if allocated then (mqDosend s mqdes.msgq msg prio.toNat).map (·, .ok)
      else some (s, .noMessage)

/-- `mq_receive(mqdes, msg, msglen, prio)` from task `rtcb`: `mq_waitreceive` takes the
head of the list, or on an empty queue fails with `EAGAIN` under `O_NONBLOCK` or blocks
the caller; `mq_doreceive` wakes a task waiting for the queue to be not full. -/
def mqReceive (s : MqState Q T) (rtcb : T) (mqdes : MqDes Q) (msglen : Nat) :
    Option (MqState Q T × Reply) :=
  let inode := s.msgqs mqdes.msgq
  match mqVerifyreceive mqdes inode.maxmsgsize msglen with
  | .error errno => some (s, .error errno)
  | .ok () =>
      match inode.msglist with
      | [] =>
          if mqdes.oflags.nonblock then some (s, .error .EAGAIN)
          else some (mqBlock priority s .notempty rtcb mqdes.msgq, .blocked)
      | rcvmsg :: rest =>
          (mqWake (s.setMsgq mqdes.msgq { inode with msglist := rest, nmsgs := inode.nmsgs - 1 })
            .notfull mqdes.msgq).map (·, .received rcvmsg)

/-- `mq_waitirq(wtcb, errcode)`: a task blocked on a queue is woken with an error (the
error it returns is not modelled); `DEBUGASSERT(msgq)` and the dereference after it stop
the kernel (`none`) for a waiter without a queue. -/
def mqWaitirq (s : MqState Q T) (wtcb : T) : Option (MqState Q T) :=
  let wait : Option Wait :=
    if wtcb ∈ s.waitingformqnotempty then some .notempty
    else if wtcb ∈ s.waitingformqnotfull then some .notfull
    else none
  match wait with
  | none => some s
  | some w => (s.msgwaitq wtcb).map fun msgq => mqUnblock s w wtcb msgq

/-- The events of a run: the calls, each made by a task that runs. -/
inductive Event (Q T : Type) where
  | send (rtcb : T) (mqdes : MqDes Q) (msg : List UInt8) (prio : Int)
  | sendFromIsr (mqdes : MqDes Q) (msg : List UInt8) (prio : Int) (allocated : Bool)
  | receive (rtcb : T) (mqdes : MqDes Q) (msglen : Nat)
  | waitirq (wtcb : T)

def Event.fromTask {Q T : Type} : Event Q T → Bool
  | .sendFromIsr .. => false
  | _ => true

def mqStep (s : MqState Q T) : Event Q T → Option (MqState Q T × Reply)
  | .send rtcb mqdes msg prio => if s.Runs rtcb then mqSend priority s rtcb mqdes msg prio else none
  | .sendFromIsr mqdes msg prio allocated => mqSendFromIsr s mqdes msg prio allocated
  | .receive rtcb mqdes msglen => if s.Runs rtcb then mqReceive priority s rtcb mqdes msglen else none
  | .waitirq wtcb => (mqWaitirq s wtcb).map (·, .ok)

/-- The queues as `mq_msgqalloc` leaves them, each with its `mq_maxmsg` and `mq_msgsize`. -/
def mqInit (maxmsgs maxmsgsize : Q → Nat) : MqState Q T where
  msgqs q := ⟨[], maxmsgs q, 0, 0, 0, maxmsgsize q⟩
  msgwaitq _ := none
  waitingformqnotempty := []
  waitingformqnotfull := []

def mqRun (s : MqState Q T) (evs : List (Event Q T)) : Option (MqState Q T × List Reply) :=
  Machine.runOut (mqStep priority) s evs

/-! ## What one call does -/

section Cases

variable {s s' : MqState Q T} {priority}
variable {mqdes : MqDes Q} {r : Reply}

@[simp] theorem mqBlock_msgqs (w : Wait) (rtcb : T) (msgq : Q) :
    (mqBlock priority s w rtcb msgq).msgqs =
      Function.update s.msgqs msgq ((s.msgqs msgq).setNwait w ((s.msgqs msgq).nwait w + 1)) := by
  cases w <;> rfl

@[simp] theorem mqBlock_waiting (w w' : Wait) (rtcb : T) (msgq : Q) :
    (mqBlock priority s w rtcb msgq).waiting w' =
      if w' = w then schedAddprioritized priority rtcb (s.waiting w) else s.waiting w' := by
  cases w <;> cases w' <;> rfl

@[simp] theorem mqBlock_msgwaitq (w : Wait) (rtcb : T) (msgq : Q) :
    (mqBlock priority s w rtcb msgq).msgwaitq = Function.update s.msgwaitq rtcb (some msgq) := by
  cases w <;> rfl

@[simp] theorem mqUnblock_msgqs (w : Wait) (btcb : T) (msgq : Q) :
    (mqUnblock s w btcb msgq).msgqs =
      Function.update s.msgqs msgq ((s.msgqs msgq).setNwait w ((s.msgqs msgq).nwait w - 1)) := by
  cases w <;> rfl

@[simp] theorem mqUnblock_waiting (w w' : Wait) (btcb : T) (msgq : Q) :
    (mqUnblock s w btcb msgq).waiting w' =
      if w' = w then (s.waiting w).erase btcb else s.waiting w' := by
  cases w <;> cases w' <;> rfl

@[simp] theorem mqUnblock_msgwaitq (w : Wait) (btcb : T) (msgq : Q) :
    (mqUnblock s w btcb msgq).msgwaitq = Function.update s.msgwaitq btcb none := by
  cases w <;> rfl

/-- `mq_dosend` and `mq_doreceive` wake nobody, or the first task of the list that waits
on the queue. -/
theorem mqWake_cases {w : Wait} {msgq : Q} (woken : mqWake s w msgq = some s') :
    s' = s ∨ ∃ btcb, btcb ∈ s.waiting w ∧ s.msgwaitq btcb = some msgq ∧
      s' = mqUnblock s w btcb msgq := by
  unfold mqWake at woken
  split_ifs at woken
  · obtain ⟨btcb, found, rfl⟩ := Option.map_eq_some_iff.mp woken
    exact .inr ⟨btcb, List.mem_of_find?_eq_some found, by simpa using List.find?_some found, rfl⟩
  · exact .inl (Option.some.inj woken).symm

theorem mqSend_cases {rtcb : T} {msg : List UInt8} {prio : Int}
    (sent : mqSend priority s rtcb mqdes msg prio = some (s', r)) :
    (∃ errno, mqVerifysend mqdes (s.msgqs mqdes.msgq).maxmsgsize msg.length prio = .error errno ∧
      s' = s ∧ r = .error errno) ∨
    (mqVerifysend mqdes (s.msgqs mqdes.msgq).maxmsgsize msg.length prio = .ok () ∧
      (s.msgqs mqdes.msgq).nmsgs < (s.msgqs mqdes.msgq).maxmsgs ∧
      mqDosend s mqdes.msgq msg prio.toNat = some s' ∧ r = .ok) ∨
    (mqVerifysend mqdes (s.msgqs mqdes.msgq).maxmsgsize msg.length prio = .ok () ∧
      ¬ (s.msgqs mqdes.msgq).nmsgs < (s.msgqs mqdes.msgq).maxmsgs ∧
      (mqdes.oflags.nonblock = true ∧ s' = s ∧ r = .error .EAGAIN ∨
        mqdes.oflags.nonblock = false ∧ s' = mqBlock priority s .notfull rtcb mqdes.msgq ∧
          r = .blocked)) := by
  unfold mqSend at sent
  dsimp only at sent
  split at sent
  · next errno verified =>
      rw [Option.some.injEq, Prod.mk.injEq] at sent
      exact .inl ⟨errno, verified, sent.1.symm, sent.2.symm⟩
  · next verified =>
      split_ifs at sent with room nonblock
      · obtain ⟨_, dosent, eq⟩ := Option.map_eq_some_iff.mp sent
        rw [Prod.mk.injEq] at eq
        exact .inr (.inl ⟨verified, room, eq.1 ▸ dosent, eq.2.symm⟩)
      · rw [Option.some.injEq, Prod.mk.injEq] at sent
        exact .inr (.inr ⟨verified, room, .inl ⟨nonblock, sent.1.symm, sent.2.symm⟩⟩)
      · rw [Option.some.injEq, Prod.mk.injEq] at sent
        exact .inr (.inr ⟨verified, room,
          .inr ⟨by simpa using nonblock, sent.1.symm, sent.2.symm⟩⟩)

theorem mqSendFromIsr_cases {msg : List UInt8} {prio : Int} {allocated : Bool}
    (sent : mqSendFromIsr s mqdes msg prio allocated = some (s', r)) :
    (∃ errno, mqVerifysend mqdes (s.msgqs mqdes.msgq).maxmsgsize msg.length prio = .error errno ∧
      s' = s ∧ r = .error errno) ∨
    (mqVerifysend mqdes (s.msgqs mqdes.msgq).maxmsgsize msg.length prio = .ok () ∧
      (allocated = true ∧ mqDosend s mqdes.msgq msg prio.toNat = some s' ∧ r = .ok ∨
        allocated = false ∧ s' = s ∧ r = .noMessage)) := by
  unfold mqSendFromIsr at sent
  split at sent
  · next errno verified =>
      rw [Option.some.injEq, Prod.mk.injEq] at sent
      exact .inl ⟨errno, verified, sent.1.symm, sent.2.symm⟩
  · next verified =>
      cases allocated
      · rw [if_neg Bool.false_ne_true, Option.some.injEq, Prod.mk.injEq] at sent
        exact .inr ⟨verified, .inr ⟨rfl, sent.1.symm, sent.2.symm⟩⟩
      · rw [if_pos rfl] at sent
        obtain ⟨_, dosent, eq⟩ := Option.map_eq_some_iff.mp sent
        rw [Prod.mk.injEq] at eq
        exact .inr ⟨verified, .inl ⟨rfl, eq.1 ▸ dosent, eq.2.symm⟩⟩

theorem mqReceive_cases {rtcb : T} {msglen : Nat}
    (received : mqReceive priority s rtcb mqdes msglen = some (s', r)) :
    (∃ errno, mqVerifyreceive mqdes (s.msgqs mqdes.msgq).maxmsgsize msglen = .error errno ∧
      s' = s ∧ r = .error errno) ∨
    (mqVerifyreceive mqdes (s.msgqs mqdes.msgq).maxmsgsize msglen = .ok () ∧
      (s.msgqs mqdes.msgq).msglist = [] ∧
      (mqdes.oflags.nonblock = true ∧ s' = s ∧ r = .error .EAGAIN ∨
        mqdes.oflags.nonblock = false ∧ s' = mqBlock priority s .notempty rtcb mqdes.msgq ∧
          r = .blocked)) ∨
    (mqVerifyreceive mqdes (s.msgqs mqdes.msgq).maxmsgsize msglen = .ok () ∧
      ∃ rcvmsg rest, (s.msgqs mqdes.msgq).msglist = rcvmsg :: rest ∧ r = .received rcvmsg ∧
        mqWake (s.setMsgq mqdes.msgq { s.msgqs mqdes.msgq with
          msglist := rest, nmsgs := (s.msgqs mqdes.msgq).nmsgs - 1 }) .notfull mqdes.msgq = some s') := by
  unfold mqReceive at received
  dsimp only at received
  split at received
  · next errno verified =>
      rw [Option.some.injEq, Prod.mk.injEq] at received
      exact .inl ⟨errno, verified, received.1.symm, received.2.symm⟩
  · next verified =>
      split at received
      · next empty =>
          split_ifs at received with nonblock
          · rw [Option.some.injEq, Prod.mk.injEq] at received
            exact .inr (.inl ⟨verified, empty, .inl ⟨nonblock, received.1.symm, received.2.symm⟩⟩)
          · rw [Option.some.injEq, Prod.mk.injEq] at received
            exact .inr (.inl ⟨verified, empty,
              .inr ⟨by simpa using nonblock, received.1.symm, received.2.symm⟩⟩)
      · next rcvmsg rest head =>
          obtain ⟨_, woken, eq⟩ := Option.map_eq_some_iff.mp received
          rw [Prod.mk.injEq] at eq
          exact .inr (.inr ⟨verified, rcvmsg, rest, head, eq.2.symm, eq.1 ▸ woken⟩)

theorem mqWaitirq_cases {wtcb : T} (woken : mqWaitirq s wtcb = some s') :
    s' = s ∨ ∃ w msgq, wtcb ∈ s.waiting w ∧ s.msgwaitq wtcb = some msgq ∧
      s' = mqUnblock s w wtcb msgq := by
  unfold mqWaitirq at woken
  by_cases first : wtcb ∈ s.waitingformqnotempty
  · simp only [if_pos first] at woken
    obtain ⟨msgq, queue, rfl⟩ := Option.map_eq_some_iff.mp woken
    exact .inr ⟨.notempty, msgq, first, queue, rfl⟩
  · by_cases second : wtcb ∈ s.waitingformqnotfull
    · simp only [if_neg first, if_pos second] at woken
      obtain ⟨msgq, queue, rfl⟩ := Option.map_eq_some_iff.mp woken
      exact .inr ⟨.notfull, msgq, second, queue, rfl⟩
    · simp only [if_neg first, if_neg second, Option.some.injEq] at woken
      exact .inl woken.symm

end Cases

end Calls

/-! ## The waiting tasks and their counters -/

section Waiters

variable {Q T : Type} [DecidableEq Q] [DecidableEq T] {priority : T → Nat}
variable {s s' : MqState Q T} {msgq : Q}

/-- The counters of a queue count the tasks of the lists that wait on it, each waiting task
names a queue, and a task is in one list once. -/
structure Good (s : MqState Q T) : Prop where
  counted : ∀ w q, (s.msgqs q).nwait w = (s.waiting w).countP fun t => s.msgwaitq t = some q
  waits : ∀ w t, t ∈ s.waiting w → (s.msgwaitq t).isSome
  nodup : ∀ w, (s.waiting w).Nodup
  once : ∀ w w' t, t ∈ s.waiting w → t ∈ s.waiting w' → w = w'

omit [DecidableEq T] in
theorem Good.init (maxmsgs maxmsgsize : Q → Nat) : Good (mqInit maxmsgs maxmsgsize : MqState Q T) where
  counted w _ := by cases w <;> rfl
  waits w _ mem := by cases w <;> simp [MqState.waiting, mqInit] at mem
  nodup w := by cases w <;> exact List.nodup_nil
  once w _ _ mem := by cases w <;> simp [MqState.waiting, mqInit] at mem

/-- Changing a task's `msgwaitq` does not change how many tasks of a list without it wait
on a queue. -/
theorem countP_update_of_not_mem (msgwaitq : T → Option Q) {t : T} (v : Option Q) (q : Q)
    {l : List T} (fresh : t ∉ l) :
    l.countP (fun u => Function.update msgwaitq t v u = some q) =
      l.countP (fun u => msgwaitq u = some q) :=
  List.countP_congr fun u mem => by rw [Function.update_of_ne (ne_of_mem_of_not_mem mem fresh)]

omit [DecidableEq T] in
theorem Good.setMsgq (h : Good s) (q : Q) {inode : MqueueInode}
    (same : ∀ w, inode.nwait w = (s.msgqs q).nwait w) : Good (s.setMsgq q inode) where
  counted w q' := by
    simp only [MqState.msgqs_setMsgq, MqState.waiting_setMsgq, MqState.msgwaitq_setMsgq]
    by_cases at_q : q' = q
    · subst at_q
      rw [Function.update_self, same]
      exact h.counted w q'
    · rw [Function.update_of_ne at_q]
      exact h.counted w q'
  waits w t mem := h.waits w t (by simpa using mem)
  nodup w := by simpa using h.nodup w
  once w w' t := by simpa using h.once w w' t

theorem Good.mqBlock (h : Good s) {rtcb : T} (runs : s.Runs rtcb) (w : Wait)
    (msgq : Q) : Good (mqBlock priority s w rtcb msgq) where
  counted w' q := by
    simp only [mqBlock_msgqs, mqBlock_waiting, mqBlock_msgwaitq]
    by_cases same : w' = w
    · subst same
      rw [if_pos rfl, countP_schedAddprioritized,
        countP_update_of_not_mem _ _ _ (runs.not_mem w'), ← h.counted]
      by_cases at_q : q = msgq
      · subst at_q
        simp
      · simp [Function.update_of_ne at_q, Ne.symm at_q]
    · rw [if_neg same, countP_update_of_not_mem _ _ _ (runs.not_mem w'), ← h.counted]
      by_cases at_q : q = msgq
      · subst at_q
        simp [same]
      · simp [Function.update_of_ne at_q]
  waits w' t mem := by
    simp only [mqBlock_waiting, mqBlock_msgwaitq] at mem ⊢
    by_cases blocked : t = rtcb
    · simp [blocked]
    · rw [Function.update_of_ne blocked]
      split_ifs at mem with same
      · subst same
        exact h.waits w' t (((mem_schedAddprioritized _ _ _ _).mp mem).resolve_left blocked)
      · exact h.waits w' t mem
  nodup w' := by
    simp only [mqBlock_waiting]
    split_ifs with same
    · exact nodup_schedAddprioritized _ (runs.not_mem w) (h.nodup w)
    · exact h.nodup w'
  once w₁ w₂ t mem₁ mem₂ := by
    simp only [mqBlock_waiting] at mem₁ mem₂
    -- the blocked task is in the list of `w` only; the others are where they were
    by_cases blocked : t = rtcb
    · subst blocked
      split_ifs at mem₁ mem₂ with same₁ same₂ same₂
      · exact same₁.trans same₂.symm
      · exact absurd mem₂ (runs.not_mem w₂)
      · exact absurd mem₁ (runs.not_mem w₁)
      · exact absurd mem₁ (runs.not_mem w₁)
    · have old : ∀ w', t ∈ (if w' = w then schedAddprioritized priority rtcb (s.waiting w)
          else s.waiting w') → t ∈ s.waiting w' := by
        intro w' mem
        split_ifs at mem with same
        · subst same
          exact ((mem_schedAddprioritized _ _ _ _).mp mem).resolve_left blocked
        · exact mem
      exact h.once w₁ w₂ t (old w₁ mem₁) (old w₂ mem₂)

theorem Good.mqUnblock (h : Good s) {w : Wait} {btcb : T}
    (mem : btcb ∈ s.waiting w) (queue : s.msgwaitq btcb = some msgq) :
    Good (mqUnblock s w btcb msgq) where
  counted w' q := by
    simp only [mqUnblock_msgqs, mqUnblock_waiting, mqUnblock_msgwaitq]
    by_cases same : w' = w
    · subst same
      have gone := (h.nodup w').not_mem_erase (a := btcb)
      have before := countP_erase (fun t => s.msgwaitq t = some q) mem
      rw [if_pos rfl, countP_update_of_not_mem _ _ _ gone]
      by_cases at_q : q = msgq
      · subst at_q
        simp only [queue, decide_true, if_true] at before
        simp only [Function.update_self, MqueueInode.nwait_setNwait, if_true, h.counted]
        omega
      · simp only [queue, Option.some.injEq, Ne.symm at_q, decide_false] at before
        simp [Function.update_of_ne at_q, h.counted, before]
    · have other : btcb ∉ s.waiting w' := fun mem' => same (h.once w' w btcb mem' mem)
      rw [if_neg same, countP_update_of_not_mem _ _ _ other, ← h.counted]
      by_cases at_q : q = msgq
      · subst at_q
        simp [same]
      · simp [Function.update_of_ne at_q]
  waits w' t mem' := by
    simp only [mqUnblock_waiting, mqUnblock_msgwaitq] at mem' ⊢
    have stays : t ∈ s.waiting w' ∧ t ≠ btcb := by
      split_ifs at mem' with same
      · subst same
        exact ⟨List.mem_of_mem_erase mem', ((h.nodup w').mem_erase_iff.mp mem').1⟩
      · exact ⟨mem', fun eq => same (h.once w' w t mem' (eq ▸ mem))⟩
    rw [Function.update_of_ne stays.2]
    exact h.waits w' t stays.1
  nodup w' := by
    simp only [mqUnblock_waiting]
    split_ifs with same
    · exact (h.nodup w).erase btcb
    · exact h.nodup w'
  once w₁ w₂ t mem₁ mem₂ := by
    simp only [mqUnblock_waiting] at mem₁ mem₂
    have old : ∀ w', t ∈ (if w' = w then (s.waiting w).erase btcb else s.waiting w') →
        t ∈ s.waiting w' := by
      intro w' mem'
      split_ifs at mem' with same
      · subst same
        exact List.mem_of_mem_erase mem'
      · exact mem'
    exact h.once w₁ w₂ t (old w₁ mem₁) (old w₂ mem₂)

theorem Good.mqWake (h : Good s) {w : Wait}
    (woken : mqWake s w msgq = some s') : Good s' := by
  rcases mqWake_cases woken with rfl | ⟨btcb, mem, queue, rfl⟩
  · exact h
  · exact h.mqUnblock mem queue

theorem Good.mqDosend (h : Good s) {msg : List UInt8} {prio : Nat}
    (sent : mqDosend s msgq msg prio = some s') : Good s' :=
  (h.setMsgq msgq fun w => by cases w <;> rfl).mqWake sent

theorem Good.mqWaitirq (h : Good s) {wtcb : T}
    (woken : mqWaitirq s wtcb = some s') : Good s' := by
  rcases mqWaitirq_cases woken with rfl | ⟨w, msgq, mem, queue, rfl⟩
  · exact h
  · exact h.mqUnblock mem queue

theorem Good.mqStep (h : Good s) {e : Event Q T} {r : Reply}
    (stepped : mqStep priority s e = some (s', r)) : Good s' := by
  cases e with
  | send rtcb mqdes msg prio =>
      simp only [TinyAra.Kernel.Mqueue.mqStep] at stepped
      split_ifs at stepped with runs
      rcases mqSend_cases stepped with
        ⟨_, -, rfl, -⟩ | ⟨-, -, sent, -⟩ | ⟨-, -, ⟨-, rfl, -⟩ | ⟨-, rfl, -⟩⟩
      · exact h
      · exact h.mqDosend sent
      · exact h
      · exact h.mqBlock runs _ _
  | sendFromIsr mqdes msg prio allocated =>
      rcases mqSendFromIsr_cases stepped with ⟨_, -, rfl, -⟩ | ⟨-, ⟨-, sent, -⟩ | ⟨-, rfl, -⟩⟩
      · exact h
      · exact h.mqDosend sent
      · exact h
  | receive rtcb mqdes msglen =>
      simp only [TinyAra.Kernel.Mqueue.mqStep] at stepped
      split_ifs at stepped with runs
      rcases mqReceive_cases stepped with
        ⟨_, -, rfl, -⟩ | ⟨-, -, ⟨-, rfl, -⟩ | ⟨-, rfl, -⟩⟩ | ⟨-, _, _, -, -, woken⟩
      · exact h
      · exact h
      · exact h.mqBlock runs _ _
      · exact (h.setMsgq _ fun w => by cases w <;> rfl).mqWake woken
  | waitirq wtcb =>
      obtain ⟨_, woken, eq⟩ := Option.map_eq_some_iff.mp stepped
      rw [Prod.mk.injEq] at eq
      exact eq.1 ▸ h.mqWaitirq woken

end Waiters

/-! ## What the queues are for -/

section Spec

variable {Q T : Type} [DecidableEq Q]

/-- Each queue as its users see it: the messages sent and not yet received, in the order
they were sent, and the attributes it was created with. -/
structure MqSpec (Q : Type) where
  pending : Q → List MqueueMsg
  maxmsgs : Q → Nat
  maxmsgsize : Q → Nat

def MqSpec.setPending (a : MqSpec Q) (q : Q) (l : List MqueueMsg) : MqSpec Q :=
  { a with pending := Function.update a.pending q l }

def MqSpec.post (a : MqSpec Q) (q : Q) (m : MqueueMsg) : MqSpec Q :=
  a.setPending q (a.pending q ++ [m])

/-- A queue takes a task's message while it holds fewer than `maxmsgs` and an interrupt
handler's always; a receive takes the earliest sent of its highest priority. -/
def specStep (a : MqSpec Q) : Event Q T → Option (MqSpec Q × Reply)
  | .send _ mqdes msg prio =>
      match mqVerifysend mqdes (a.maxmsgsize mqdes.msgq) msg.length prio with
      | .error errno => some (a, .error errno)
      | .ok () =>
          if (a.pending mqdes.msgq).length < a.maxmsgs mqdes.msgq then
            some (a.post mqdes.msgq ⟨prio.toNat, msg.length, msg⟩, .ok)
          else if mqdes.oflags.nonblock then some (a, .error .EAGAIN)
          else some (a, .blocked)
  | .sendFromIsr mqdes msg prio allocated =>
      match mqVerifysend mqdes (a.maxmsgsize mqdes.msgq) msg.length prio with
      | .error errno => some (a, .error errno)
      | .ok () =>
          if allocated then some (a.post mqdes.msgq ⟨prio.toNat, msg.length, msg⟩, .ok)
          else some (a, .noMessage)
  | .receive _ mqdes msglen =>
      match mqVerifyreceive mqdes (a.maxmsgsize mqdes.msgq) msglen with
      | .error errno => some (a, .error errno)
      | .ok () =>
          match firstMax MqueueMsg.priority (a.pending mqdes.msgq) with
          | none => if mqdes.oflags.nonblock then some (a, .error .EAGAIN) else some (a, .blocked)
          | some m => some (a.setPending mqdes.msgq ((a.pending mqdes.msgq).erase m), .received m)
  | .waitirq _ => some (a, .ok)

def specInit (maxmsgs maxmsgsize : Q → Nat) : MqSpec Q := ⟨fun _ => [], maxmsgs, maxmsgsize⟩

def specRun (a : MqSpec Q) (evs : List (Event Q T)) : Option (MqSpec Q × List Reply) :=
  Machine.runOut specStep a evs

end Spec

/-! ## The code refines the specification -/

section Refinement

variable {Q T : Type} [DecidableEq Q] [DecidableEq T] {priority : T → Nat}
variable {s s' : MqState Q T} {msgq : Q} {a : MqSpec Q}

/-- Each queue's `msglist` holds its pending messages by priority, ties in the order they
were sent, `nmsgs` counts them, and the attributes are the queue's. -/
structure Refines (s : MqState Q T) (a : MqSpec Q) : Prop where
  arranged : ∀ q, Arranged MqueueMsg.priority (a.pending q) (s.msgqs q).msglist
  nmsgs : ∀ q, (s.msgqs q).nmsgs = (s.msgqs q).msglist.length
  maxmsgs : ∀ q, (s.msgqs q).maxmsgs = a.maxmsgs q
  maxmsgsize : ∀ q, (s.msgqs q).maxmsgsize = a.maxmsgsize q

def SameMessages (s s' : MqState Q T) : Prop :=
  ∀ q, (s'.msgqs q).msglist = (s.msgqs q).msglist ∧ (s'.msgqs q).nmsgs = (s.msgqs q).nmsgs ∧
    (s'.msgqs q).maxmsgs = (s.msgqs q).maxmsgs ∧ (s'.msgqs q).maxmsgsize = (s.msgqs q).maxmsgsize

omit [DecidableEq T] in
theorem sameMessages_of_setNwait {w : Wait} {n : Nat}
    (msgqs : s'.msgqs = Function.update s.msgqs msgq ((s.msgqs msgq).setNwait w n)) :
    SameMessages s s' := by
  intro q
  rw [msgqs]
  by_cases at_q : q = msgq
  · subst at_q
    simp
  · simp [Function.update_of_ne at_q]

theorem sameMessages_mqWake {w : Wait}
    (woken : mqWake s w msgq = some s') : SameMessages s s' := by
  rcases mqWake_cases woken with rfl | ⟨btcb, -, -, rfl⟩
  · exact fun _ => ⟨rfl, rfl, rfl, rfl⟩
  · exact sameMessages_of_setNwait (mqUnblock_msgqs w btcb msgq)

theorem sameMessages_mqWaitirq {wtcb : T}
    (woken : mqWaitirq s wtcb = some s') : SameMessages s s' := by
  rcases mqWaitirq_cases woken with rfl | ⟨w, msgq, -, -, rfl⟩
  · exact fun _ => ⟨rfl, rfl, rfl, rfl⟩
  · exact sameMessages_of_setNwait (mqUnblock_msgqs w wtcb msgq)

omit [DecidableEq Q] [DecidableEq T] in
theorem Refines.sameMessages (h : Refines s a)
    (same : SameMessages s s') : Refines s' a where
  arranged q := (same q).1 ▸ h.arranged q
  nmsgs q := by rw [(same q).1, (same q).2.1, h.nmsgs q]
  maxmsgs q := by rw [(same q).2.2.1, h.maxmsgs q]
  maxmsgsize q := by rw [(same q).2.2.2, h.maxmsgsize q]

omit [DecidableEq T] in
theorem Refines.setMsgq (h : Refines s a) (q : Q)
    {inode : MqueueInode} {l : List MqueueMsg} (arranged : Arranged MqueueMsg.priority l inode.msglist)
    (nmsgs : inode.nmsgs = inode.msglist.length) (maxmsgs : inode.maxmsgs = (s.msgqs q).maxmsgs)
    (maxmsgsize : inode.maxmsgsize = (s.msgqs q).maxmsgsize) :
    Refines (s.setMsgq q inode) (a.setPending q l) where
  arranged q' := by
    by_cases at_q : q' = q
    · subst at_q
      simpa [MqSpec.setPending] using arranged
    · simpa [MqSpec.setPending, Function.update_of_ne at_q] using h.arranged q'
  nmsgs q' := by
    by_cases at_q : q' = q
    · subst at_q
      simpa using nmsgs
    · simpa [Function.update_of_ne at_q] using h.nmsgs q'
  maxmsgs q' := by
    by_cases at_q : q' = q
    · subst at_q
      simpa [MqSpec.setPending, maxmsgs] using h.maxmsgs q'
    · simpa [MqSpec.setPending, Function.update_of_ne at_q] using h.maxmsgs q'
  maxmsgsize q' := by
    by_cases at_q : q' = q
    · subst at_q
      simpa [MqSpec.setPending, maxmsgsize] using h.maxmsgsize q'
    · simpa [MqSpec.setPending, Function.update_of_ne at_q] using h.maxmsgsize q'

omit [DecidableEq Q] [DecidableEq T] in
theorem Refines.init (maxmsgs maxmsgsize : Q → Nat) :
    Refines (mqInit maxmsgs maxmsgsize : MqState Q T) (specInit maxmsgs maxmsgsize) where
  arranged _ := Arranged.nil
  nmsgs _ := rfl
  maxmsgs _ := rfl
  maxmsgsize _ := rfl

theorem Refines.mqDosend (h : Refines s a)
    {msg : List UInt8} {prio : Nat} (sent : mqDosend s msgq msg prio = some s') :
    Refines s' (a.post msgq ⟨prio, msg.length, msg⟩) := by
  unfold TinyAra.Kernel.Mqueue.mqDosend at sent
  dsimp only at sent
  have inserted : Refines (s.setMsgq msgq { s.msgqs msgq with
      msglist := mqInsert ⟨prio, msg.length, msg⟩ (s.msgqs msgq).msglist
      nmsgs := (s.msgqs msgq).nmsgs + 1 }) (a.post msgq ⟨prio, msg.length, msg⟩) := by
    refine h.setMsgq msgq ((h.arranged msgq).orderedInsert _) ?_ rfl rfl
    rw [mqInsert, List.orderedInsert_length, h.nmsgs msgq]
  exact inserted.sameMessages (sameMessages_mqWake sent)

omit [DecidableEq Q] [DecidableEq T] in
theorem Refines.length (h : Refines s a) (q : Q) :
    (s.msgqs q).nmsgs = (a.pending q).length := by
  rw [h.nmsgs q, (h.arranged q).perm.length_eq]

omit [DecidableEq Q] [DecidableEq T] in
theorem Refines.pending_eq_nil (h : Refines s a) {q : Q}
    (empty : (s.msgqs q).msglist = []) : a.pending q = [] := by
  have perm := (h.arranged q).perm
  rw [empty] at perm
  exact perm.nil_eq.symm

theorem Refines.mqStep (h : Refines s a) {e : Event Q T}
    {r : Reply} (stepped : mqStep priority s e = some (s', r)) :
    ∃ a', specStep a e = some (a', r) ∧ Refines s' a' := by
  cases e with
  | send rtcb mqdes msg prio =>
      simp only [TinyAra.Kernel.Mqueue.mqStep] at stepped
      split_ifs at stepped with runs
      rcases mqSend_cases stepped with ⟨errno, verified, rfl, rfl⟩ |
        ⟨verified, room, sent, rfl⟩ | ⟨verified, full, ⟨nonblock, rfl, rfl⟩ | ⟨nonblock, rfl, rfl⟩⟩
      · exact ⟨a, by simp [specStep, ← h.maxmsgsize, verified], h⟩
      · refine ⟨_, ?_, h.mqDosend sent⟩
        rw [h.length, h.maxmsgs] at room
        simp [specStep, ← h.maxmsgsize, verified, room]
      · rw [h.length, h.maxmsgs] at full
        exact ⟨a, by simp [specStep, ← h.maxmsgsize, verified, full, nonblock], h⟩
      · rw [h.length, h.maxmsgs] at full
        refine ⟨a, by simp [specStep, ← h.maxmsgsize, verified, full, nonblock], ?_⟩
        exact h.sameMessages (sameMessages_of_setNwait (mqBlock_msgqs _ _ _))
  | sendFromIsr mqdes msg prio allocated =>
      rcases mqSendFromIsr_cases stepped with ⟨errno, verified, rfl, rfl⟩ |
        ⟨verified, ⟨rfl, sent, rfl⟩ | ⟨rfl, rfl, rfl⟩⟩
      · exact ⟨a, by simp [specStep, ← h.maxmsgsize, verified], h⟩
      · exact ⟨_, by simp [specStep, ← h.maxmsgsize, verified], h.mqDosend sent⟩
      · exact ⟨a, by simp [specStep, ← h.maxmsgsize, verified], h⟩
  | receive rtcb mqdes msglen =>
      simp only [TinyAra.Kernel.Mqueue.mqStep] at stepped
      split_ifs at stepped with runs
      rcases mqReceive_cases stepped with ⟨errno, verified, rfl, rfl⟩ |
        ⟨verified, empty, ⟨nonblock, rfl, rfl⟩ | ⟨nonblock, rfl, rfl⟩⟩ |
        ⟨verified, rcvmsg, rest, head, rfl, woken⟩
      · exact ⟨a, by simp [specStep, ← h.maxmsgsize, verified], h⟩
      · exact ⟨a, by simp [specStep, ← h.maxmsgsize, verified, h.pending_eq_nil empty,
          firstMax, nonblock], h⟩
      · refine ⟨a, by simp [specStep, ← h.maxmsgsize, verified, h.pending_eq_nil empty,
          firstMax, nonblock], ?_⟩
        exact h.sameMessages (sameMessages_of_setNwait (mqBlock_msgqs _ _ _))
      · -- the head of the list is the message the specification hands out
        have arranged := h.arranged mqdes.msgq
        rw [head] at arranged
        obtain ⟨first, rest_arranged⟩ := arranged.cons
        refine ⟨a.setPending mqdes.msgq ((a.pending mqdes.msgq).erase rcvmsg),
          by simp [specStep, ← h.maxmsgsize, verified, first], ?_⟩
        have removed : Refines (s.setMsgq mqdes.msgq { s.msgqs mqdes.msgq with
            msglist := rest, nmsgs := (s.msgqs mqdes.msgq).nmsgs - 1 })
            (a.setPending mqdes.msgq ((a.pending mqdes.msgq).erase rcvmsg)) :=
          h.setMsgq mqdes.msgq rest_arranged (by simp [h.nmsgs mqdes.msgq, head]) rfl rfl
        exact removed.sameMessages (sameMessages_mqWake woken)
  | waitirq wtcb =>
      obtain ⟨_, woken, eq⟩ := Option.map_eq_some_iff.mp stepped
      rw [Prod.mk.injEq] at eq
      obtain ⟨rfl, rfl⟩ := eq
      exact ⟨a, rfl, h.sameMessages (sameMessages_mqWaitirq woken)⟩

end Refinement

/-! ## Every run -/

section Runs

variable {Q T : Type} [DecidableEq Q] [DecidableEq T] {priority : T → Nat}
variable {s : MqState Q T}

def Bounded (s : MqState Q T) : Prop := ∀ q, (s.msgqs q).nmsgs ≤ (s.msgqs q).maxmsgs

omit [DecidableEq Q] [DecidableEq T] in
theorem Bounded.sameMessages {s' : MqState Q T} (h : Bounded s) (same : SameMessages s s') :
    Bounded s' := fun q => by
  rw [(same q).2.1, (same q).2.2.1]
  exact h q

omit [DecidableEq T] in
theorem Bounded.setMsgq (h : Bounded s) (q : Q) {inode : MqueueInode}
    (within : inode.nmsgs ≤ inode.maxmsgs) : Bounded (s.setMsgq q inode) := fun q' => by
  by_cases at_q : q' = q
  · subst at_q
    simpa using within
  · simpa [Function.update_of_ne at_q] using h q'

/-- A call from a task keeps every queue within `maxmsgs`: `mq_send` sends only into a queue
that is not full. -/
theorem Bounded.mqStep {s' : MqState Q T} (h : Bounded s) {e : Event Q T} (task : e.fromTask = true)
    {r : Reply} (stepped : mqStep priority s e = some (s', r)) : Bounded s' := by
  cases e with
  | send rtcb mqdes msg prio =>
      simp only [TinyAra.Kernel.Mqueue.mqStep] at stepped
      split_ifs at stepped with runs
      rcases mqSend_cases stepped with
        ⟨_, -, rfl, -⟩ | ⟨-, room, sent, -⟩ | ⟨-, -, ⟨-, rfl, -⟩ | ⟨-, rfl, -⟩⟩
      · exact h
      · unfold TinyAra.Kernel.Mqueue.mqDosend at sent
        exact (h.setMsgq _ (by exact room)).sameMessages (sameMessages_mqWake sent)
      · exact h
      · exact h.sameMessages (sameMessages_of_setNwait (mqBlock_msgqs _ _ _))
  | sendFromIsr => exact absurd task Bool.false_ne_true
  | receive rtcb mqdes msglen =>
      simp only [TinyAra.Kernel.Mqueue.mqStep] at stepped
      split_ifs at stepped with runs
      rcases mqReceive_cases stepped with
        ⟨_, -, rfl, -⟩ | ⟨-, -, ⟨-, rfl, -⟩ | ⟨-, rfl, -⟩⟩ | ⟨-, _, _, -, -, woken⟩
      · exact h
      · exact h
      · exact h.sameMessages (sameMessages_of_setNwait (mqBlock_msgqs _ _ _))
      · have within : (s.msgqs mqdes.msgq).nmsgs - 1 ≤ (s.msgqs mqdes.msgq).maxmsgs :=
          le_trans (Nat.sub_le _ 1) (h mqdes.msgq)
        exact (h.setMsgq _ within).sameMessages (sameMessages_mqWake woken)
  | waitirq wtcb =>
      obtain ⟨_, woken, eq⟩ := Option.map_eq_some_iff.mp stepped
      rw [Prod.mk.injEq] at eq
      exact eq.1 ▸ h.sameMessages (sameMessages_mqWaitirq woken)

omit [DecidableEq Q] [DecidableEq T] in
theorem Bounded.init (maxmsgs maxmsgsize : Q → Nat) :
    Bounded (mqInit maxmsgs maxmsgsize : MqState Q T) := fun _ => Nat.zero_le _

variable (priority)

/-- Every run of the queue calls from `mq_msgqalloc`'s queues: the code answers every call as
the specification does, so each receive returns the earliest sent of the highest priority
with its bytes and length, and each `msglist` holds the pending messages by priority with
`nmsgs` counting them (`Refines`); each queue's `nwaitnotempty` and `nwaitnotfull` count
the tasks of `g_waitingformqnotempty` and `g_waitingformqnotfull` that wait on it
(`Good`); and when no interrupt handler sends, no queue holds more than `maxmsgs`. -/
theorem mqRun_spec (maxmsgs maxmsgsize : Q → Nat) (evs : List (Event Q T)) (s : MqState Q T)
    (replies : List Reply) (ran : mqRun priority (mqInit maxmsgs maxmsgsize) evs = some (s, replies)) :
    (∃ a, specRun (specInit maxmsgs maxmsgsize) evs = some (a, replies) ∧ Refines s a) ∧ Good s ∧
      ((∀ e ∈ evs, e.fromTask = true) → ∀ q, (s.msgqs q).nmsgs ≤ (s.msgqs q).maxmsgs) := by
  obtain ⟨a, ranA, related, -⟩ := @Machine.runOut_simulation _ _ _ _ (mqStep priority) specStep
    Refines (fun _ => True) (fun _ _ _ _ _ _ => trivial)
    (fun _ _ _ _ _ _ related stepped => related.mqStep stepped)
    evs _ s replies _ trivial (Refines.init maxmsgs maxmsgsize) ran
  have good := @Machine.runOut_invariant _ _ _ (mqStep priority) Good (fun _ => True)
    (fun _ _ _ _ _ good stepped => good.mqStep stepped) evs _ s replies (fun _ _ => trivial)
    (Good.init maxmsgs maxmsgsize) ran
  refine ⟨⟨a, ranA, related⟩, good, fun task => ?_⟩
  exact @Machine.runOut_invariant _ _ _ (mqStep priority) Bounded (fun e => e.fromTask = true)
    (fun _ _ _ _ task bounded stepped => bounded.mqStep task stepped) evs _ s replies task
    (Bounded.init maxmsgs maxmsgsize) ran

/-- A send and a receive on a queue of one message: the receive returns what was sent. -/
theorem mqRun_spec_send_receive :
    (∃ a, specRun (specInit (fun _ : Nat => 1) (fun _ => 4))
        [Event.send (0 : Nat) ⟨0, ⟨true, true, false⟩⟩ [7] 3, .receive 0 ⟨0, ⟨true, true, false⟩⟩ 4] =
          some (a, [.ok, .received ⟨3, 1, [7]⟩]) ∧
        Refines (((mqInit (fun _ : Nat => 1) (fun _ => 4)).setMsgq 0 ⟨[⟨3, 1, [7]⟩], 1, 1, 0, 0, 4⟩).setMsgq
          0 ⟨[], 1, 0, 0, 0, 4⟩ : MqState Nat Nat) a) ∧
      Good (((mqInit (fun _ : Nat => 1) (fun _ => 4)).setMsgq 0 ⟨[⟨3, 1, [7]⟩], 1, 1, 0, 0, 4⟩).setMsgq
          0 ⟨[], 1, 0, 0, 0, 4⟩ : MqState Nat Nat) ∧
      Bounded (((mqInit (fun _ : Nat => 1) (fun _ => 4)).setMsgq 0 ⟨[⟨3, 1, [7]⟩], 1, 1, 0, 0, 4⟩).setMsgq
          0 ⟨[], 1, 0, 0, 0, 4⟩ : MqState Nat Nat) := by
  obtain ⟨refines, good, bounded⟩ := mqRun_spec (fun _ : Nat => 0) (fun _ => 1) (fun _ => 4)
    [Event.send (0 : Nat) ⟨0, ⟨true, true, false⟩⟩ [7] 3, .receive 0 ⟨0, ⟨true, true, false⟩⟩ 4]
    (((mqInit (fun _ : Nat => 1) (fun _ => 4)).setMsgq 0 ⟨[⟨3, 1, [7]⟩], 1, 1, 0, 0, 4⟩).setMsgq
      0 ⟨[], 1, 0, 0, 0, 4⟩) [.ok, .received ⟨3, 1, [7]⟩] rfl
  exact ⟨refines, good, bounded (by decide)⟩

/-- An interrupt handler sends to a queue that a task has filled: it holds two messages
against a `maxmsgs` of one. -/
theorem mqRun_sendFromIsr_overfills :
    ((mqRun (fun _ : Nat => 0) (mqInit (fun _ : Nat => 1) (fun _ => 4))
      [.send 0 ⟨0, ⟨true, true, false⟩⟩ [1] 0, .sendFromIsr ⟨0, ⟨true, true, false⟩⟩ [2] 0 true]).map
      fun r => ((r.1.msgqs 0).nmsgs, (r.1.msgqs 0).maxmsgs)) = some (2, 1) := by
  decide

end Runs

end TinyAra.Kernel.Mqueue
