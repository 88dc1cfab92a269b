/-
# Kernel.Signal.Pending -- the pending signals of a task, and sigtimedwait

sig_dispatch.c (`sig_findpendingsignal`, `sig_addpendingsignal`,
`sig_tcbdispatch`), sig_removependingsignal.c, sig_pending.c, sig_lowest.c,
sig_unmaskpendingsignal.c, sig_procmask.c and sig_timedwait.c, for a task group
of one member. A signal sent to a task that masks it is queued on the group's
`sigpendingq`, at most once for each signal number because `sig_addpendingsignal`
overwrites the entry it finds; a signal the task waits for in `sigtimedwait` is
handed to it in `sigunbinfo` instead; an unmasked signal is delivered at once
(the ghost list `delivered` records each such dispatch, in order).

`sig_addpendingsignal` looks the signal up and appends the new entry in two
critical sections, with interrupts enabled between them. A dispatch from task
context is therefore two steps here, the lookup (`adding` holds the entry still
to be appended) and the append, and an interrupt may dispatch in between. An
interrupt that dispatches the same signal between the two halves queues it twice
(`pending_duplicated_by_interrupt`).
-/
import Mathlib.Data.List.Basic
import TinyAra.Lib.Machine

namespace TinyAra.Kernel.Signal

variable {st st' : SigState} {s : Nat} {info : Siginfo}

open Machine

set_option autoImplicit false

def minSigno : Nat := 0
def maxSigno : Nat := 31
/-- `SIG_WAIT_TIMEOUT`: the `si_signo` that `sig_timeout` leaves. -/
def sigWaitTimeout : Nat := 0xff
def sigBlock : Nat := 1
def sigUnblock : Nat := 2
def sigSetmask : Nat := 3
def siTimer : Int := 2
def eintr : Nat := 4
def eagain : Nat := 11

abbrev Sigset := Nat → Bool

/-- `sig_lowest`: the lowest member from `MIN_SIGNO` to `MAX_SIGNO`. -/
def sigLowest (set : Sigset) : Option Nat :=
  (List.range' minSigno (maxSigno + 1 - minSigno)).find? set

def sigdelset (set : Sigset) (signo : Nat) : Sigset := fun s => s ≠ signo && set s

/-- `siginfo_t`, with the `CONFIG_SCHED_HAVE_PARENT` fields. -/
structure Siginfo where
  signo : Nat
  code : Int
  value : Int
  pid : Int
  status : Int
  deriving DecidableEq, Repr

/-- Where the task is in `sigtimedwait`. -/
inductive Wait where
  | running
  /-- `TSTATE_WAIT_SIG` with `sigwaitmask` the set it waits for (`timed`: a
  watchdog runs). -/
  | waitSig (set : Sigset) (timed : Bool)
  /-- Unblocked, with the cause in `sigunbinfo`; it has not run yet. -/
  | woken (set : Sigset)

/-- The signal state of a task that is alone in its group. -/
structure SigState where
  sigprocmask : Sigset
  sigpendingq : List Siginfo
  wait : Wait
  sigunbinfo : Siginfo
  /-- A task-context `sig_addpendingsignal` between its lookup and its append. -/
  adding : Option Siginfo
  /-- Ghost: the unmasked dispatches, in order. -/
  delivered : List Siginfo

namespace SigState

def pendingset (st : SigState) : Sigset := fun s => st.sigpendingq.any (·.signo == s)

/-- `sig_findpendingsignal`: the position of the signal's entry. -/
def findpending (st : SigState) (signo : Nat) : Option Nat :=
  st.sigpendingq.findIdx? (·.signo == signo)

/-- `sig_removependingsignal`: the first entry of the signal leaves the queue. -/
def removepending (st : SigState) (signo : Nat) : Option (Siginfo × SigState) :=
  match st.findpending signo with
  | some i =>
    st.sigpendingq[i]?.map fun info => (info, { st with sigpendingq := st.sigpendingq.eraseIdx i })
  | none => none

end SigState

open SigState

/-- `sig_addpendingsignal` in one piece, as an interrupt runs it. -/
def sigAddpendingsignal (st : SigState) (info : Siginfo) : SigState :=
  match st.findpending info.signo with
  | some i => { st with sigpendingq := st.sigpendingq.set i info }
  | none => { st with sigpendingq := st.sigpendingq ++ [info] }

/-- The first critical section of a task-context `sig_addpendingsignal`: an
entry found is overwritten, otherwise the new entry waits to be appended. -/
def addpendingLookup (st : SigState) (info : Siginfo) : SigState :=
  match st.findpending info.signo with
  | some i => { st with sigpendingq := st.sigpendingq.set i info }
  | none => { st with adding := some info }

/-- The second critical section: `sq_addlast` of the allocated entry. -/
def addpendingAppend (st : SigState) : Option SigState :=
  st.adding.map fun info => { st with sigpendingq := st.sigpendingq ++ [info], adding := none }

/-- A task waiting in `sigtimedwait` is handed the signal. -/
def unblockWith (st : SigState) (set : Sigset) (info : Siginfo) : SigState :=
  { st with sigunbinfo := info, wait := .woken set }

/-- `sig_tcbdispatch`, with `add` for the way the masked, not awaited signal is
queued. -/
def tcbdispatchWith (add : SigState → Siginfo → SigState) (st : SigState) (info : Siginfo) :
    SigState :=
  if st.sigprocmask info.signo then
    match st.wait with
    | .waitSig set _ => if set info.signo then unblockWith st set info else add st info
    | _ => add st info
  else
    -- unmasked: delivered, and any signal wait ends with it
    let st := { st with delivered := st.delivered ++ [info] }
    match st.wait with
    | .waitSig set _ => unblockWith st set info
    | _ => st

/-- `sig_tcbdispatch` from an interrupt, or with interrupts off throughout. -/
def sigTcbdispatch (st : SigState) (info : Siginfo) : SigState :=
  tcbdispatchWith sigAddpendingsignal st info

/-- The loop of `sig_unmaskpendingsignal`, lowest signal first. -/
def unmaskLoop : Nat → Sigset → SigState → SigState
  | 0, _, st => st
  | fuel + 1, unmaskedset, st =>
    match sigLowest unmaskedset with
    | none => st
    | some signo =>
      let unmaskedset := sigdelset unmaskedset signo
      match st.removepending signo with
      | none => unmaskLoop fuel unmaskedset st
      | some (info, st) => unmaskLoop fuel unmaskedset (sigTcbdispatch st info)

def sigUnmaskpendingsignal (st : SigState) : SigState :=
  unmaskLoop (maxSigno + 1) (fun s => !st.sigprocmask s && st.pendingset s) st

/-- `sigprocmask(how, set, NULL)`: the return value and the state. -/
def sigprocmask (st : SigState) (how : Nat) (set : Sigset) : Int × SigState :=
  let mask := st.sigprocmask
  let (ret, mask) :=
    if how = sigBlock then (0, fun s => mask s || set s)
    else if how = sigUnblock then (0, fun s => mask s && !set s)
    else if how = sigSetmask then (0, set)
    else (-1, mask)
  (ret, sigUnmaskpendingsignal { st with sigprocmask := mask })

/-- What `sigtimedwait` returns: a signal number with its information, or
`ERROR` with `errno`. -/
inductive Reply where
  | ok
  | blocked
  | signal (signo : Nat) (info : Siginfo)
  | error (errno : Nat)
  deriving DecidableEq, Repr

/-- `sigtimedwait(set, &info, timeout)`: the lowest pending member of `set`, or
the wait (`timed`: with a timeout). -/
def sigtimedwait (st : SigState) (set : Sigset) (timed : Bool) : SigState × Reply :=
  match sigLowest (fun s => set s && st.pendingset s) with
  | some signo =>
    match st.removepending signo with
    | some (info, st) => (st, .signal info.signo info)
    | none => (st, .blocked)
  | none => ({ st with wait := .waitSig set timed }, .blocked)

/-- The end of a `sigtimedwait` that waited: what `sigunbinfo` says. -/
def sigtimedwaitResume (st : SigState) : Option (SigState × Reply) :=
  match st.wait with
  | .woken set =>
    let info := st.sigunbinfo
    let reply :=
      if info.signo ≤ maxSigno then
        if set info.signo then Reply.signal info.signo info else .error eintr
      else .error eagain
    some ({ st with wait := .running }, reply)
  | _ => none

def sigTimeout (st : SigState) : Option SigState :=
  match st.wait with
  | .waitSig set true => some (unblockWith st set ⟨sigWaitTimeout, siTimer, 0, 0, 0⟩)
  | _ => none

/-- What can happen next.  `dispatch false` is a dispatch from task context (by the
task or by another task), `dispatch true` one from an interrupt. -/
inductive Event where
  | dispatch (isr : Bool) (info : Siginfo)
  | addFinish
  | procmask (how : Nat) (set : Sigset)
  | timedwait (set : Sigset) (timed : Bool)
  | timeout
  | resume

/-- One step. While a task-context dispatch is between its two halves only
interrupts and that dispatch run; the task's own calls need it running. -/
def sigStep (st : SigState) : Event → Option (SigState × Reply)
  | .dispatch true info => some (sigTcbdispatch st info, .ok)
  | .dispatch false info =>
    if st.adding.isNone then some (tcbdispatchWith addpendingLookup st info, .ok) else none
  | .addFinish => (addpendingAppend st).map (·, .ok)
  | .procmask how set =>
    match st.adding, st.wait with
    | none, .running =>
      let (ret, st) := sigprocmask st how set
      some (st, if ret = 0 then .ok else .error 22)
    | _, _ => none
  | .timedwait set timed =>
    match st.adding, st.wait with
    | none, .running => some (sigtimedwait st set timed)
    | _, _ => none
  | .timeout => (sigTimeout st).map (·, .ok)
  | .resume => if st.adding.isNone then sigtimedwaitResume st else none

/-! ## The queue names each signal once -/

/-- A task that masks `mask`, with nothing pending and no signal on the way. -/
def sigInit (mask : Sigset) : SigState :=
  ⟨mask, [], .running, ⟨0, 0, 0, 0, 0⟩, none, []⟩

/-- Signal 5 is masked. A task-context dispatch of it finds no entry; before it
appends its own, an interrupt dispatches signal 5 and appends one. The queue then
holds signal 5 twice, and after `sigtimedwait` has taken signal 5, signal 5 is
still pending. -/
theorem pending_duplicated_by_interrupt :
    ∃ st₁ st₂,
      runOut sigStep (sigInit (· = 5))
          [.dispatch false ⟨5, 0, 1, 0, 0⟩, .dispatch true ⟨5, 0, 2, 0, 0⟩, .addFinish] =
        some (st₁, [.ok, .ok, .ok]) ∧
      st₁.sigpendingq = [⟨5, 0, 2, 0, 0⟩, ⟨5, 0, 1, 0, 0⟩] ∧
      runOut sigStep st₁ [.timedwait (· = 5) false] =
        some (st₂, [.signal 5 ⟨5, 0, 2, 0, 0⟩]) ∧
      st₂.pendingset 5 = true := by
  refine ⟨_, _, rfl, rfl, rfl, rfl⟩

end TinyAra.Kernel.Signal
