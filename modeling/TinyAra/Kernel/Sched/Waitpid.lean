/-
# Kernel.Sched.Waitpid -- waitpid over the child status list and SIGCHLD

sched_waitpid.c (the `CONFIG_SCHED_HAVE_PARENT` version), the child exit of
task_exithook.c (`task_exitstatus`, `task_groupexit`, `task_sigchild` with group
members), the parent's side of task_setup.c (`task_saveparent`) and
group_childstatus.c, with `CONFIG_SCHED_CHILD_STATUS`. A parent alone in its
group keeps one `child_status_s` entry per child task it created; an exiting child
stores its status in that entry, marks it `CHILD_FLAG_EXITED` and sends the
parent `SIGCHLD` with the status in its `siginfo`.

`waitpid` looks in two places: the list, for an entry marked exited, and then,
waiting in `sigwaitinfo` (the `sigtimedwait` of `Kernel.Signal.Pending`), the
signal. Only the first place removes the entry. A child that exits while its
parent waits is reported through the signal and stays in the list, so the next
`waitpid(-1)` reports it again (`waitpid_reports_child_twice`).
-/
import TinyAra.Kernel.Signal.Pending

namespace TinyAra.Kernel.Sched.Waitpid

open Machine TinyAra.Kernel.Signal

set_option autoImplicit false

def sigchld : Nat := 4
def cldExited : Int := 5
def echild : Nat := 10
def childFlagExited : Nat := 0x1
def groupFlagNocldwait : Nat := 0x1

/-- `struct child_status_s`. -/
structure ChildStatus where
  flags : Nat
  pid : Nat
  status : Int
  deriving DecidableEq, Repr

/-- Where the parent is: outside `waitpid`, or blocked in its `sigwaitinfo`. -/
inductive WaitpidPc where
  | idle
  | waiting (pid : Int)
  deriving DecidableEq, Repr

/-- The parent's group and the children that still run. -/
structure Family where
  /-- `tg_children`, head first. -/
  children : List ChildStatus
  tgFlags : Nat
  /-- The child tasks that have not exited: those `sched_gettcb` finds. -/
  running : List Nat
  /-- The parent's signals. -/
  sig : SigState
  pc : WaitpidPc

def groupFindchild (children : List ChildStatus) (pid : Nat) : Option ChildStatus :=
  children.find? (·.pid == pid)

def groupExitchild (children : List ChildStatus) : Option ChildStatus :=
  children.find? (·.flags &&& childFlagExited != 0)

def groupRemovechild (children : List ChildStatus) (pid : Nat) : List ChildStatus :=
  children.eraseP (·.pid == pid)

/-- `retains`: `(tg_flags && GROUP_FLAG_NOCLDWAIT) == 0`, a logical and as the
code writes it (`task_saveparent` tests the same way). -/
def retains (tgFlags : Nat) : Bool := !(tgFlags != 0 && groupFlagNocldwait != 0)

/-- The parent creates a child task: `task_saveparent` adds its entry. -/
def taskSaveparent (fam : Family) (pid : Nat) : Family :=
  let children :=
    if retains fam.tgFlags ∧ (groupFindchild fam.children pid).isNone then
      ⟨0, pid, 0⟩ :: fam.children
    else fam.children
  { fam with children := children, running := pid :: fam.running }

def updateChild (children : List ChildStatus) (pid : Nat) (f : ChildStatus → ChildStatus) :
    List ChildStatus :=
  children.map fun c => if c.pid = pid then f c else c

/-- A child alone in its group exits with `status`: `task_exitstatus`,
`task_groupexit` and the `SIGCHLD` that `group_signal` hands the parent. -/
def taskSigchild (fam : Family) (pid : Nat) (status : Int) : Family :=
  let keep := fam.tgFlags &&& groupFlagNocldwait = 0
  let children := if keep then updateChild fam.children pid ({ · with status := status }) else fam.children
  let children :=
    if keep then updateChild children pid fun c => { c with flags := c.flags ||| childFlagExited }
    else children
  { fam with children := children, running := fam.running.erase pid,
             sig := sigTcbdispatch fam.sig ⟨sigchld, cldExited, 0, pid, status⟩ }

/-- What `waitpid` gives back. -/
inductive Reply where
  | pid (pid : Nat) (stat : Int)
  | error (errno : Nat)
  | blocked
  deriving DecidableEq, Repr

/-- The end of one `sigwaitinfo`: the signal is the child's exit, or the loop goes on. -/
def sigchildMatches (pid : Int) (info : Siginfo) : Bool :=
  info.signo == sigchld && (pid == -1 || info.pid == pid)

/-- The `for (;;)` of `waitpid`: the list first, then `sigwaitinfo`. -/
def waitpidLoop (pid : Int) : Nat → Family → Option (Family × Reply)
  | 0, _ => none
  | fuel + 1, fam =>
    let kept := retains fam.tgFlags
    -- an exited entry found in the list is reported and removed
    let found :=
      if pid = -1 then (if kept then groupExitchild fam.children else none)
      else if kept then
        (groupFindchild fam.children pid.toNat).filter (·.flags &&& childFlagExited != 0)
      else none
    match found with
    | some c =>
      some ({ fam with children := groupRemovechild fam.children c.pid }, .pid c.pid (c.status * 256))
    | none =>
      if pid ≠ -1 ∧ !kept ∧ pid.toNat ∉ fam.running then some (fam, .error echild)
      else
        match sigtimedwait fam.sig (· = sigchld) false with
        | (sig, .signal _ info) =>
          if sigchildMatches pid info then
            some ({ fam with sig := sig }, .pid info.pid.toNat (info.status * 256))
          else waitpidLoop pid fuel { fam with sig := sig }
        | (sig, _) => some ({ fam with sig := sig, pc := .waiting pid }, .blocked)

/-- `waitpid(pid, &stat, 0)` by the parent: the checks, then the loop. -/
def waitpid (fuel : Nat) (fam : Family) (pid : Int) : Option (Family × Reply) :=
  let kept := retains fam.tgFlags
  if fam.children = [] ∧ kept then some (fam, .error echild)
  else if pid ≠ -1 ∧
      (pid.toNat ∉ fam.running ∨ kept ∧ (groupFindchild fam.children pid.toNat).isNone) then
    some (fam, .error echild)
  else waitpidLoop pid fuel fam

/-- The parent runs again after its `sigwaitinfo` was woken. -/
def waitpidResume (fuel : Nat) (fam : Family) : Option (Family × Reply) :=
  match fam.pc with
  | .waiting pid =>
    match sigtimedwaitResume fam.sig with
    | some (sig, .signal _ info) =>
      let fam := { fam with sig := sig, pc := .idle }
      if sigchildMatches pid info then some (fam, .pid info.pid.toNat (info.status * 256))
      else waitpidLoop pid fuel fam
    | some (sig, .error errno) => some ({ fam with sig := sig, pc := .idle }, .error errno)
    | _ => none
  | .idle => none

/-- What can happen next. -/
inductive Event where
  | create (pid : Nat)
  | exit (pid : Nat) (status : Int)
  | waitpid (pid : Int)
  | resume
  deriving DecidableEq, Repr

/-- One step; the loop of `waitpid` gets the fuel of a few rounds. -/
def familyStep (fam : Family) : Event → Option (Family × Reply)
  | .create pid =>
    if pid ∉ fam.running ∧ fam.pc = .idle then some (taskSaveparent fam pid, .blocked) else none
  | .exit pid status =>
    if pid ∈ fam.running then some (taskSigchild fam pid status, .blocked) else none
  | .waitpid pid => if fam.pc = .idle then waitpid 4 fam pid else none
  | .resume => waitpidResume 4 fam

/-- A parent with no children, no group flags and `SIGCHLD` not masked. -/
def familyInit : Family := ⟨[], 0, [], sigInit fun _ => false, .idle⟩

/-- The parent creates task 2 and waits for any child; task 2 exits with status 7
while the parent waits. The parent's `waitpid(-1)` returns 2 with `7 << 8`, its
entry is still in `tg_children`, and the next `waitpid(-1)` returns 2 with `7 << 8`
again. -/
theorem waitpid_reports_child_twice :
    ∃ fam₁ fam₂,
      runOut familyStep familyInit [.create 2, .waitpid (-1), .exit 2 7, .resume] =
        some (fam₁, [.blocked, .blocked, .blocked, .pid 2 (7 * 256)]) ∧
      fam₁.children = [⟨childFlagExited, 2, 7⟩] ∧ fam₁.running = [] ∧
      runOut familyStep fam₁ [.waitpid (-1)] = some (fam₂, [.pid 2 (7 * 256)]) := by
  refine ⟨_, _, rfl, rfl, rfl, rfl⟩

end TinyAra.Kernel.Sched.Waitpid
