/-
# Pm.Governor -- the activity governor of the power-management domains

`pm_activity` and `pm_checkstate` (pm_activity.c, pm_checkstate.c) end a domain's time slice
once `TIME_SLICE_TICKS` have passed since it began, and hand its activity count to `pm_update`
(pm_update.c).  `pm_update` queues `pm_worker` on the high-priority work queue through
`g_pmglobals.work`, the one work item that every domain shares; `work_qqueue` (kwork_queue.c)
returns `-EALREADY` and changes nothing while that item is still queued.  `pm_worker` smooths
the count with the domain's memory of earlier slices (`pmSmooth`) and moves the recommended
state (`pmAssess`).

* `pm_slice_dropped`: two domains ending a slice before the worker runs; the second slice never
  reaches `pm_worker`, and the worker has nothing left to do.
* `pmSmooth_state`, `pmSmooth_thrcnt`, `pmSmooth_recommended`: the smoothing changes only the
  domain's memory of earlier slices.
-/
import TinyAra.Lib.CInt
import TinyAra.Lib.Machine

namespace TinyAra.Pm

open Machine

set_option autoImplicit false

def pmNormal : Nat := 0
def pmIdle : Nat := 1
def pmStandby : Nat := 2
def pmSleep : Nat := 3

def ok : Int := 0
def ealready : Int := 114
def int16Max : Int := 32767

/-- What the governor reads of the configuration, with what pm.h checks of it. -/
structure PmConfig where
  /-- `CONFIG_PM_NDOMAINS`. -/
  ndomains : Nat
  /-- `CONFIG_PM_MEMORY`: the slices the smoothing weighs, the current one included. -/
  memory : Nat
  /-- `CONFIG_PM_COEFN`. -/
  coefn : Int
  /-- `g_pmcoeffs`: `CONFIG_PM_COEF1` to `CONFIG_PM_COEF(n-1)`. -/
  coeffs : List Int
  /-- `g_pmenterthresh`, `g_pmexitthresh` and `g_pmcount`, indexed 0: IDLE, 1: STANDBY,
  2: SLEEP. -/
  enterthresh : List Int
  exitthresh : List Int
  count : List Nat
  /-- `TIME_SLICE_TICKS`. -/
  timeSliceTicks : Nat
  domainsPos : 1 ≤ ndomains
  memoryPos : 1 ≤ memory
  coeffsLength : coeffs.length = memory - 1
  /-- `#error "Must have CONFIG_PM_IDLEENTER_THRESH < CONFIG_PM_IDLEEXIT_THRESH"` and the
  same for STANDBY and SLEEP. -/
  enterBelowExit : ∀ i < 3, enterthresh.getD i 0 < exitthresh.getD i 0

/-- The defaults of pm.h: two domains, a memory of two slices with weights 1, entry below 1 and
exit from 2 for every state, 30, 50 and 70 slices to enter IDLE, STANDBY and SLEEP, and slices
of 100 ms at 100 ticks a second. -/
def defaultPmConfig : PmConfig where
  ndomains := 2
  memory := 2
  coefn := 1
  coeffs := [1]
  enterthresh := [1, 1, 1]
  exitthresh := [2, 2, 2]
  count := [30, 50, 70]
  timeSliceTicks := 100 * 100 / 1000
  domainsPos := by decide
  memoryPos := by decide
  coeffsLength := rfl
  enterBelowExit := by decide

/-- The fields of `struct pm_domain_s` that the governor reads and writes. -/
structure PmDomain where
  state : Nat
  recommended : Nat
  mndx : Nat
  mcnt : Nat
  /-- `int16_t accum`: the activity count of the current slice. -/
  accum : Int
  thrcnt : Nat
  /-- `int16_t memory[CONFIG_PM_MEMORY - 1]`. -/
  memory : Nat → Int
  /-- `systime_t stime`: the tick at which the current slice began. -/
  stime : Nat

/-- `g_pmglobals`: the domains, and the argument of `g_pmglobals.work` while it is queued on
the high-priority work queue. -/
structure PmGlobals where
  domain : Nat → PmDomain
  work : Option (Nat × Int)

def pmStart : PmGlobals :=
  ⟨fun _ => ⟨pmNormal, pmNormal, 0, 0, 0, 0, fun _ => 0, 0⟩, none⟩

namespace PmGlobals

def setDomain (g : PmGlobals) (i : Nat) (d : PmDomain) : PmGlobals :=
  { g with domain := Function.update g.domain i d }

@[simp] theorem work_setDomain (g : PmGlobals) (i : Nat) (d : PmDomain) :
    (g.setDomain i d).work = g.work := rfl

@[simp] theorem domain_setDomain (g : PmGlobals) (i j : Nat) (d : PmDomain) :
    (g.setDomain i d).domain j = if j = i then d else g.domain j :=
  Function.update_apply _ _ _ _

end PmGlobals

section Worker

variable (cfg : PmConfig)

/-- The averaging loop of `pm_worker`: `Y += g_pmcoeffs[i] * pdom->memory[j]` and
`denom += g_pmcoeffs[i]` for `i` below `CONFIG_PM_MEMORY - 1`, `j` starting at `mndx` and going
back to 0 at the end of the memory. -/
def smoothLoop (memory : Nat → Int) (mndx : Nat) (Y denom : Int) : Int × Int :=
  ((List.range (cfg.memory - 1)).foldl
    (fun (acc : Nat × Int × Int) i =>
      let j := if acc.1 ≥ cfg.memory - 1 then 0 else acc.1
      (j + 1, acc.2.1 + cfg.coeffs.getD i 0 * memory j, acc.2.2 + cfg.coeffs.getD i 0))
    (mndx, Y, denom)).2

/-- The first half of `pm_worker`: a domain's first `CONFIG_PM_MEMORY - 1` slices are only
remembered (`none`); after that the count is averaged with the memory, the oldest memory entry
replaced by the average, and the average is the smoothed activity `Y`. -/
def pmSmooth (d : PmDomain) (accum : Int) : PmDomain × Option Int :=
  if cfg.memory > 1 then
    if d.mcnt < cfg.memory - 1 then
      ({ d with mcnt := d.mcnt + 1, memory := Function.update d.memory d.mcnt accum }, none)
    else
      let sums := smoothLoop cfg d.memory d.mndx (cfg.coefn * accum) cfg.coefn
      let Y := sums.1.tdiv sums.2
      ({ d with
          memory := Function.update d.memory d.mndx (CInt.wrap 16 Y)
          mndx := if d.mndx + 1 ≥ cfg.memory - 1 then 0 else d.mndx + 1 },
        some Y)
  else (d, some accum)

/-- The second half of `pm_worker`, with the smoothed activity `Y`: above the exit threshold of
a low-power state it recommends `PM_NORMAL`; otherwise, below `PM_SLEEP`, a slice above the
entry threshold of the next state resets the count and recommends the current state, and one at
most that threshold counts towards recommending the next state. -/
def pmAssess (d : PmDomain) (Y : Int) : PmDomain :=
  if d.state > pmNormal ∧ Y > cfg.exitthresh.getD (d.state - 1) 0 then
    { d with thrcnt := 0, recommended := pmNormal }
  else if d.state < pmSleep then
    let index := d.state
    let nextstate := d.state + 1
    if Y > cfg.enterthresh.getD index 0 then { d with thrcnt := 0, recommended := d.state }
    else if d.recommended < nextstate then
      if d.thrcnt + 1 ≥ cfg.count.getD index 0 then
        { d with thrcnt := 0, recommended := nextstate }
      else { d with thrcnt := d.thrcnt + 1 }
    else d
  else d

/-- `pm_worker` for one domain and the count its slice ended with. -/
def pmWorker (d : PmDomain) (accum : Int) : PmDomain :=
  match pmSmooth cfg d accum with
  | (d, some Y) => pmAssess cfg d Y
  | (d, none) => d

end Worker

section Calls

variable (cfg : PmConfig)

/-- `union pm_worker_param_u`: the domain as a `uint8_t` beside the count. -/
def pmParameter (slice : Nat × Int) : Nat × Int := (slice.1 % 256, slice.2)

/-- `pm_update(domain, accum)`: `work_queue(HPWORK, &g_pmglobals.work, pm_worker, arg, 0)`;
while the item is still queued `work_qqueue` returns `-EALREADY` and leaves it as it is. -/
def pmUpdate (g : PmGlobals) (domain : Nat) (accum : Int) : PmGlobals × Int :=
  match g.work with
  | some _ => (g, -ealready)
  | none => ({ g with work := some (pmParameter (domain, accum)) }, ok)

/-- The end of a slice as `pm_activity` and `pm_checkstate` both test for it: once
`TIME_SLICE_TICKS` have passed since `stime` in `systime_t`, the count is sampled, the slice
restarted at `now` with a count of 0, and the sample handed to `pm_update`, which is also
returned. -/
def endSlice (g : PmGlobals) (domain now : Nat) : PmGlobals × Option (Nat × Int) :=
  let d := g.domain domain
  if ((now : Int) - d.stime) % 2 ^ 32 ≥ cfg.timeSliceTicks then
    let g := g.setDomain domain { d with stime := now, accum := 0 }
    ((pmUpdate g domain d.accum).1, some (domain, d.accum))
  else (g, none)

/-- `pm_activity(domain, priority)` at tick `now`: the priority is added to the count in
`uint32_t`, held at `INT16_MAX`, and the slice ends if its time is up. -/
def pmActivity (g : PmGlobals) (domain : Nat) (priority : Int) (now : Nat) :
    PmGlobals × Option (Nat × Int) :=
  if priority > 0 then
    let d := g.domain domain
    let accum := (d.accum + priority) % 2 ^ 32
    let accum := if accum > int16Max then int16Max else accum
    endSlice cfg (g.setDomain domain { d with accum }) domain now
  else (g, none)

/-- `pm_checkstate(domain)` at tick `now`: the slice ends if its time is up, and the domain's
recommended state is returned. -/
def pmCheckstate (g : PmGlobals) (domain now : Nat) : (PmGlobals × Option (Nat × Int)) × Nat :=
  let r := endSlice cfg g domain now
  (r, (r.1.domain domain).recommended)

/-- The high-priority worker taking `g_pmglobals.work` off its queue: `work_process` marks the
item free and calls `pm_worker` with its argument. -/
def pmWork (g : PmGlobals) : Option (PmGlobals × (Nat × Int)) :=
  match g.work with
  | some (domndx, accum) =>
      some ({ g.setDomain domndx (pmWorker cfg (g.domain domndx) accum) with work := none },
        (domndx, accum))
  | none => none

end Calls

/-- The calls into the governor, and the worker thread running. -/
inductive PmEvent
  | activity (domain : Nat) (priority : Int) (now : Nat)
  | checkstate (domain : Nat) (now : Nat)
  | work
  /-- `pm_changestate` with every driver agreeing. -/
  | changestate (domain newstate : Nat)
  deriving DecidableEq, Repr

/-- What a call did: the `pm_update` call a slice's end made, the state `pm_checkstate`
returned, the argument `pm_worker` ran with. -/
inductive PmReply
  | activity (update : Option (Nat × Int))
  | checkstate (update : Option (Nat × Int)) (recommended : Nat)
  | worked (arg : Nat × Int)
  | changed
  deriving DecidableEq, Repr

/-- A domain index outside `CONFIG_PM_NDOMAINS` fails the `DEBUGASSERT` of every entry point. -/
def pmStep (cfg : PmConfig) (g : PmGlobals) : PmEvent → Option (PmGlobals × PmReply)
  | .activity domain priority now =>
      if domain < cfg.ndomains then
        let r := pmActivity cfg g domain priority now
        some (r.1, .activity r.2)
      else none
  | .checkstate domain now =>
      if domain < cfg.ndomains then
        let r := pmCheckstate cfg g domain now
        some (r.1.1, .checkstate r.1.2 r.2)
      else none
  | .work => (pmWork cfg g).map fun r => (r.1, .worked r.2)
  | .changestate domain newstate =>
      if domain < cfg.ndomains ∧ newstate ≤ pmSleep then
        some (g.setDomain domain { g.domain domain with state := newstate }, .changed)
      else none

/-! ## A slice the worker never sees -/

/-- With the defaults of pm.h, domain 0 and then domain 1 end a slice at tick 10, with counts 5
and 7, before the worker runs. Both slices reach `pm_update`, but the worker is handed only
domain 0's: afterwards nothing is queued, so the worker has nothing more to do, and domain 1,
whose count has been reset, has still not remembered a single slice. -/
theorem pm_slice_dropped :
    ∃ g, runOut (pmStep defaultPmConfig) pmStart [.activity 0 5 10, .activity 1 7 10, .work] =
        some (g, [.activity (some (0, 5)), .activity (some (1, 7)), .worked (0, 5)]) ∧
      g.work = none ∧ pmWork defaultPmConfig g = none ∧
      (g.domain 0).mcnt = 1 ∧ (g.domain 1).mcnt = 0 ∧ (g.domain 1).accum = 0 :=
  ⟨_, rfl, rfl, rfl, rfl, rfl, rfl⟩

/-! ## The recommended state -/

section Assess

variable (cfg : PmConfig)

@[simp] theorem pmSmooth_state (d : PmDomain) (accum : Int) :
    (pmSmooth cfg d accum).1.state = d.state := by
  unfold pmSmooth
  split_ifs <;> rfl

@[simp] theorem pmSmooth_thrcnt (d : PmDomain) (accum : Int) :
    (pmSmooth cfg d accum).1.thrcnt = d.thrcnt := by
  unfold pmSmooth
  split_ifs <;> rfl

@[simp] theorem pmSmooth_recommended (d : PmDomain) (accum : Int) :
    (pmSmooth cfg d accum).1.recommended = d.recommended := by
  unfold pmSmooth
  split_ifs <;> rfl

end Assess

end TinyAra.Pm
