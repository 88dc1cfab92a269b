/-
# Kernel.Wqueue -- the kernel work queues

A work queue holds `struct work_s` items, each with its callback, its argument, the clock
reading when it was queued (`qtime`) and its `delay`. The operations (kwork_queue.c,
kwork_cancel.c, kwork_process.c):

* `work_qqueue` refuses an item that is already on the queue with `-EALREADY`; otherwise it
  records the callback, the argument, the delay and the time, and links the item at the end of
  the queue or, in the `CONFIG_SCHED_WORKQUEUE_SORTING` build, before the first item with a
  longer delay;
* `work_qcancel` unlinks a queued item and clears its callback;
* `work_process` walks the queue from its head with interrupts disabled: an item whose delay
  has elapsed is unlinked and its callback run with interrupts enabled, after which the walk
  starts over at the head; of the items not yet due, the sorted build looks at the first only
  and the unsorted build at all, to find how long to sleep.

The worker thread is split into its steps (`WqEvent`): the start of a pass, each turn of the
loop, the end of the loop, and the return of a callback; `work_qqueue` and `work_qcancel` can
come in only while interrupts are enabled. Every step that reads `clock_systimer()` carries
the reading. The readings never go back; with the tick clock they also stand still while
interrupts are disabled, while the tickless clock reads the hardware timer and may move at any
time.

* `wqueue_refines`: every run, in either build and with either clock, is one the pending-jobs
  specification `Spec` allows: a callback runs only for a pending job that is due, and a run or
  a cancel ends the job, so it runs at most once for each successful `work_qqueue` and never
  after a successful `work_qcancel`; queueing a pending job answers `-EALREADY` and changes
  nothing;
* `sorted_queue_sleeps_past_due`: the sorted build orders the queue by delay, not by the time
  an item falls due, and stops at the first item that is not due: a job queued earlier with a
  longer delay is already due while the worker thread goes to sleep.
-/
import TinyAra.Lib.Machine
import TinyAra.Lib.OrderedInsert

namespace TinyAra.Kernel.Wqueue

open Machine

set_option autoImplicit false

def ok : Int := 0
def enoent : Int := 2
def ealready : Int := 114

/-- The fields of a `struct work_s` that the queue code reads and writes. -/
structure WorkS (F A : Type) where
  /-- The callback; `none` is NULL, which `work_process` and `work_qcancel` write when the
  item leaves the queue. -/
  worker : Option F
  arg : A
  /-- The `clock_systimer()` reading when the item was queued. -/
  qtime : Nat
  delay : Nat

/-- Where the worker thread is in `work_process`. -/
inductive Pass (W : Type) where
  /-- Between passes, or asleep after one. -/
  | idle
  /-- In the loop, interrupts disabled, with `stick`, `next`, and `work` together with the
  items its forward links lead to (`[]` once `work` is NULL). -/
  | scanning (stick next : Nat) (ahead : List W)
  /-- A callback runs, interrupts enabled. -/
  | running (stick next : Nat)

def Pass.masked {W : Type} : Pass W → Bool
  | .scanning .. => true
  | _ => false

/-- The state of one work queue and its worker thread. -/
structure WqState (W F A : Type) where
  /-- `wqueue->q` from head to tail. -/
  q : List W
  work : W → WorkS F A
  pass : Pass W
  /-- The latest reading of `clock_systimer()`. -/
  clock : Nat

/-- The configuration the queue code is compiled with. -/
structure WqConfig where
  /-- `CONFIG_SCHED_WORKQUEUE_SORTING`. -/
  sorting : Bool
  /-- `CONFIG_SCHED_LPWORK` with `CONFIG_SCHED_LPNTHREADS > 0`. -/
  lpthreads : Bool
  /-- `CONFIG_SCHED_TICKLESS`: `clock_systimer()` reads the hardware timer. -/
  tickless : Bool

/-- A call into the queue, or a step of the worker thread. -/
inductive WqEvent (W F A : Type) where
  /-- `work_qqueue(wqueue, work, worker, arg, delay)`, reading the clock at `now`. -/
  | qqueue (work : W) (worker : Option F) (arg : A) (delay now : Nat)
  /-- `work_qcancel(wqueue, work)`. -/
  | qcancel (work : W)
  /-- `work_process` disables interrupts and reads `stick`. -/
  | begin (now : Nat)
  /-- One turn of its loop, reading `ctick`. -/
  | examine (now : Nat)
  /-- The loop has ended; the unsorted build reads the clock once more. -/
  | finish (now : Nat)
  /-- A callback has returned and interrupts are disabled again, at `now`. -/
  | resume (now : Nat)

/-- What a step answers. -/
inductive WqReply (W F A : Type) where
  /-- The value `work_qqueue` or `work_qcancel` returns. -/
  | ret (code : Int)
  /-- The callback of `work` is called with `arg`. -/
  | worker (work : W) (worker : F) (arg : A)
  /-- The pass goes on. -/
  | next
  /-- `usleep(ticks * USEC_PER_TICK)`. -/
  | sleep (ticks : Nat)
  /-- `sigwaitinfo` for `SIGWORK`: wait until signalled. -/
  | waitSignal
  /-- `work_process` returns at once. -/
  | done

section Model

variable {W F A : Type} [DecidableEq W]

/-- `work_qqueue`, with `now` the `clock_systimer()` reading it stores. -/
def workQqueue (sorting : Bool) (s : WqState W F A) (work : W) (worker : Option F) (arg : A)
    (delay now : Nat) : WqState W F A × Int :=
  if work ∈ s.q then (s, -ealready)
  else
    let table := Function.update s.work work ⟨worker, arg, now, delay⟩
    -- `dq_addbefore` the first queued item whose delay is longer than `delay`, else `dq_addlast`
    let q := if sorting then s.q.orderedInsert (fun a b => (table a).delay < (table b).delay) work
      else s.q ++ [work]
    ({ s with q := q, work := table }, ok)

def workQcancel (s : WqState W F A) (work : W) : WqState W F A × Int :=
  if (s.work work).worker.isSome then
    if work ∈ s.q then
      ({ s with q := s.q.erase work,
                work := Function.update s.work work { s.work work with worker := none } }, ok)
    else (s, -enoent)
  else (s, -enoent)

/-- The start of `work_process`: `next = period`, `stick` read, the walk at the head. -/
def workBegin (s : WqState W F A) (period now : Nat) : WqState W F A :=
  { s with pass := .scanning now period s.q }

/-- One turn of the loop of `work_process`, at the item `work` followed by `rest`, with the
clock reading `now`. -/
def workExamine (sorting : Bool) (s : WqState W F A) (stick next : Nat) (work : W)
    (rest : List W) (now : Nat) : WqState W F A × WqReply W F A :=
  let item := s.work work
  let elapsed := now - item.qtime
  if item.delay ≤ elapsed then
    match item.worker with
    | some worker =>
      ({ s with q := s.q.erase work, work := Function.update s.work work { item with worker := none },
                pass := .running stick next }, .worker work worker item.arg)
    | none =>
      -- "cancelled": the walk goes on at the forward link, which `dq_rem` has cleared
      ({ s with q := s.q.erase work, pass := .scanning stick next [] }, .next)
  else
    -- `elapsed` adjusted by the time since the pass began, and kept at the delay
    let elapsed := min (elapsed + (now - stick)) item.delay
    if sorting then ({ s with pass := .scanning stick (item.delay - elapsed) [] }, .next)
    else ({ s with pass := .scanning stick (min next (item.delay - elapsed)) rest }, .next)

/-- The end of `work_process` once the loop has stopped, with the clock reading `now`. -/
def workFinish (cfg : WqConfig) (s : WqState W F A) (period stick next now : Nat) :
    WqReply W F A :=
  let period := if cfg.sorting = true ∧ s.q = [] then 0 else period
  if (cfg.lpthreads = true ∨ cfg.sorting = true) ∧ period = 0 then .waitSignal
  else if cfg.sorting = true then (if 0 < next then .sleep next else .done)
  else
    let elapsed := now - stick
    if elapsed < period ∧ 0 < next then .sleep (min next (period - elapsed)) else .done

/-- A reading `now` of `clock_systimer()`, with interrupts disabled (`masked`) or not: never
below the last one, and equal to it under the tick clock while interrupts stay disabled. -/
def WqState.read (cfg : WqConfig) (s : WqState W F A) (masked : Bool) (now : Nat) :
    Option (WqState W F A) :=
  if s.clock ≤ now ∧ (cfg.tickless = true ∨ masked = false ∨ now = s.clock) then
    some { s with clock := now }
  else none

/-- One step of the queue and its worker thread, which passes `period` to `work_process`. -/
def wqStep (cfg : WqConfig) (period : Nat) (s : WqState W F A) :
    WqEvent W F A → Option (WqState W F A × WqReply W F A)
  | .qqueue work worker arg delay now =>
    if s.pass.masked then none
    else (s.read cfg false now).map fun s =>
      let r := workQqueue cfg.sorting s work worker arg delay now
      (r.1, .ret r.2)
  | .qcancel work =>
    if s.pass.masked then none
    else let r := workQcancel s work; some (r.1, .ret r.2)
  | .begin now =>
    match s.pass with
    | .idle => (s.read cfg false now).map fun s => (workBegin s period now, .next)
    | _ => none
  | .examine now =>
    match s.pass with
    | .scanning stick next (work :: rest) =>
      (s.read cfg true now).map fun s => workExamine cfg.sorting s stick next work rest now
    | _ => none
  | .finish now =>
    match s.pass with
    | .scanning stick next [] =>
      (s.read cfg true now).map fun s => ({ s with pass := .idle }, workFinish cfg s period stick next now)
    | _ => none
  | .resume now =>
    match s.pass with
    | .running stick next => (s.read cfg false now).map fun s => ({ s with pass := .scanning stick next s.q }, .next)
    | _ => none

/-- An empty queue, every `work_s` zeroed, the worker thread between passes. -/
def start [Inhabited A] : WqState W F A :=
  { q := [], work := fun _ => ⟨none, default, 0, 0⟩, pass := .idle, clock := 0 }

end Model

/-! ## What a step does -/

section Steps

variable {W F A : Type} [DecidableEq W] {cfg : WqConfig} {period : Nat} {s s' : WqState W F A}
  {o : WqReply W F A}

variable {now : Nat} {work : W}

omit [DecidableEq W] in
theorem read_eq_some {masked : Bool} :
    s.read cfg masked now = some s' ↔
      (s.clock ≤ now ∧ (cfg.tickless = true ∨ masked = false ∨ now = s.clock)) ∧
        s' = { s with clock := now } := by
  unfold WqState.read
  split_ifs with readable
  · simp only [Option.some.injEq, readable, true_and]
    exact eq_comm
  · simp only [readable, false_and]

omit [DecidableEq W] in
theorem read_masked_eq_some (read : s.read cfg true now = some s') :
    s.clock ≤ now ∧ (cfg.tickless = true ∨ now = s.clock) ∧ s' = { s with clock := now } := by
  obtain ⟨⟨later, still⟩, rfl⟩ := read_eq_some.mp read
  refine ⟨later, ?_, rfl⟩
  rcases still with tickless | masked | still
  · exact Or.inl tickless
  · cases masked
  · exact Or.inr still

theorem workQqueue_held {sorting : Bool} {worker : Option F} {arg : A} {delay : Nat}
    (held : work ∈ s.q) : workQqueue sorting s work worker arg delay now = (s, -ealready) :=
  if_pos held

theorem workQqueue_fresh (sorting : Bool) (work : W) (worker : Option F) (arg : A)
    (delay now : Nat) (fresh : work ∉ s.q) :
    ∃ q : List W, q.Perm (work :: s.q) ∧ workQqueue sorting s work worker arg delay now =
      ({ s with q := q, work := Function.update s.work work ⟨worker, arg, now, delay⟩ }, ok) := by
  unfold workQqueue
  rw [if_neg fresh]
  cases sorting
  · exact ⟨_, List.perm_append_singleton work s.q, rfl⟩
  · exact ⟨_, List.perm_orderedInsert _ work s.q, rfl⟩

theorem workQcancel_cases (work : W) :
    (∃ worker, (s.work work).worker = some worker ∧ work ∈ s.q ∧
      workQcancel s work =
        ({ s with q := s.q.erase work,
                  work := Function.update s.work work { s.work work with worker := none } }, ok)) ∨
    ((s.work work).worker = none ∨ work ∉ s.q) ∧ workQcancel s work = (s, -enoent) := by
  unfold workQcancel
  cases hw : (s.work work).worker with
  | none => exact Or.inr ⟨Or.inl rfl, rfl⟩
  | some worker =>
    simp only [Option.isSome_some, if_true]
    by_cases queued : work ∈ s.q
    · exact Or.inl ⟨worker, rfl, queued, if_pos queued⟩
    · exact Or.inr ⟨Or.inr queued, if_neg queued⟩

/-- A turn of the loop runs a due item, drops a due item that has no callback, or passes an
item that is not due, the sorted build ending the walk there. -/
theorem workExamine_cases (sorting : Bool) (stick next : Nat) (work : W) (rest : List W)
    (now : Nat) :
    (∃ worker, (s.work work).delay ≤ now - (s.work work).qtime ∧
      (s.work work).worker = some worker ∧
      workExamine sorting s stick next work rest now =
        ({ s with q := s.q.erase work,
                  work := Function.update s.work work { s.work work with worker := none },
                  pass := .running stick next }, .worker work worker (s.work work).arg)) ∨
    ((s.work work).delay ≤ now - (s.work work).qtime ∧ (s.work work).worker = none ∧
      workExamine sorting s stick next work rest now =
        ({ s with q := s.q.erase work, pass := .scanning stick next [] }, .next)) ∨
    (now - (s.work work).qtime < (s.work work).delay ∧
      let remaining := (s.work work).delay -
        min (now - (s.work work).qtime + (now - stick)) (s.work work).delay
      workExamine sorting s stick next work rest now =
        if sorting then ({ s with pass := .scanning stick remaining [] }, .next)
        else ({ s with pass := .scanning stick (min next remaining) rest }, .next)) := by
  unfold workExamine
  dsimp only
  by_cases due : (s.work work).delay ≤ now - (s.work work).qtime
  · rw [if_pos due]
    cases hw : (s.work work).worker with
    | some worker => exact Or.inl ⟨worker, due, rfl, rfl⟩
    | none => exact Or.inr (Or.inl ⟨due, rfl, rfl⟩)
  · rw [if_neg due]
    exact Or.inr (Or.inr ⟨Nat.lt_of_not_le due, rfl⟩)

theorem wqStep_qqueue {worker : Option F} {arg : A} {delay : Nat}
    (stepped : wqStep cfg period s (.qqueue work worker arg delay now) = some (s', o)) :
    s.pass.masked = false ∧ s.clock ≤ now ∧
      s' = (workQqueue cfg.sorting { s with clock := now } work worker arg delay now).1 ∧
      o = .ret (workQqueue cfg.sorting { s with clock := now } work worker arg delay now).2 := by
  simp only [wqStep] at stepped
  split_ifs at stepped with masked
  obtain ⟨s₁, read, stepped⟩ := Option.map_eq_some_iff.mp stepped
  obtain ⟨⟨later, -⟩, rfl⟩ := read_eq_some.mp read
  simp only [Prod.mk.injEq] at stepped
  exact ⟨Bool.eq_false_iff.mpr masked, later, stepped.1.symm, stepped.2.symm⟩

theorem wqStep_qcancel (stepped : wqStep cfg period s (.qcancel work) = some (s', o)) :
    s.pass.masked = false ∧ s' = (workQcancel s work).1 ∧ o = .ret (workQcancel s work).2 := by
  simp only [wqStep] at stepped
  split_ifs at stepped with masked
  simp only [Option.some.injEq, Prod.mk.injEq] at stepped
  exact ⟨Bool.eq_false_iff.mpr masked, stepped.1.symm, stepped.2.symm⟩

theorem wqStep_begin (stepped : wqStep cfg period s (.begin now) = some (s', o)) :
    s.pass = .idle ∧ s.clock ≤ now ∧
      s' = { s with clock := now, pass := .scanning now period s.q } ∧ o = .next := by
  simp only [wqStep] at stepped
  split at stepped
  · obtain ⟨s₁, read, stepped⟩ := Option.map_eq_some_iff.mp stepped
    obtain ⟨⟨later, -⟩, rfl⟩ := read_eq_some.mp read
    simp only [Prod.mk.injEq] at stepped
    exact ⟨by assumption, later, stepped.1.symm, stepped.2.symm⟩
  · cases stepped

theorem wqStep_examine (stepped : wqStep cfg period s (.examine now) = some (s', o)) :
    ∃ stick next work rest, s.pass = .scanning stick next (work :: rest) ∧ s.clock ≤ now ∧
      (cfg.tickless = true ∨ now = s.clock) ∧
      (s', o) = workExamine cfg.sorting { s with clock := now } stick next work rest now := by
  simp only [wqStep] at stepped
  split at stepped
  · obtain ⟨s₁, read, stepped⟩ := Option.map_eq_some_iff.mp stepped
    obtain ⟨later, still, rfl⟩ := read_masked_eq_some read
    exact ⟨_, _, _, _, by assumption, later, still, stepped.symm⟩
  · cases stepped

theorem wqStep_finish (stepped : wqStep cfg period s (.finish now) = some (s', o)) :
    ∃ stick next, s.pass = .scanning stick next [] ∧ s.clock ≤ now ∧
      (cfg.tickless = true ∨ now = s.clock) ∧
      s' = { s with clock := now, pass := .idle } ∧
      o = workFinish cfg { s with clock := now } period stick next now := by
  simp only [wqStep] at stepped
  split at stepped
  · obtain ⟨s₁, read, stepped⟩ := Option.map_eq_some_iff.mp stepped
    obtain ⟨later, still, rfl⟩ := read_masked_eq_some read
    simp only [Prod.mk.injEq] at stepped
    exact ⟨_, _, by assumption, later, still, stepped.1.symm, stepped.2.symm⟩
  · cases stepped

theorem wqStep_resume (stepped : wqStep cfg period s (.resume now) = some (s', o)) :
    ∃ stick next, s.pass = .running stick next ∧ s.clock ≤ now ∧
      s' = { s with clock := now, pass := .scanning stick next s.q } ∧ o = .next := by
  simp only [wqStep] at stepped
  split at stepped
  · obtain ⟨s₁, read, stepped⟩ := Option.map_eq_some_iff.mp stepped
    obtain ⟨⟨later, -⟩, rfl⟩ := read_eq_some.mp read
    simp only [Prod.mk.injEq] at stepped
    exact ⟨_, _, by assumption, later, stepped.1.symm, stepped.2.symm⟩
  · cases stepped

end Steps

/-! ## Pending jobs -/

/-- A job a queue holds: the callback, its argument, and the tick the job falls due. -/
structure Job (F A : Type) where
  worker : F
  arg : A
  due : Nat

section Spec

variable {W F A : Type} [DecidableEq W]
variable {w : W}

def WqEvent.passes : WqEvent W F A → Bool
  | .qqueue .. | .qcancel _ => false
  | _ => true

/-- Whether an answer is one of the worker thread that calls no callback. -/
def WqReply.quiet : WqReply W F A → Bool
  | .next | .sleep _ | .waitSignal | .done => true
  | _ => false

omit [DecidableEq W] in
theorem workFinish_quiet (cfg : WqConfig) (s : WqState W F A) (period stick next now : Nat) :
    (workFinish cfg s period stick next now).quiet = true := by
  unfold workFinish
  dsimp only
  split_ifs <;> rfl

/-- The calls the results below cover: `work_queue` is always given a callback. -/
def WqEvent.Allowed : WqEvent W F A → Prop
  | .qqueue _ worker _ _ _ => worker.isSome = true
  | _ => True

/-- What a work queue is for. A job pends from a successful queueing, due `delay` ticks after
it; queueing it again is refused; a cancel ends it; and the worker thread may run a job, and
end it, only once it is due. The steps of the worker thread that run nothing leave the jobs
alone. -/
inductive Spec : (W → Option (Job F A)) → WqEvent W F A → (W → Option (Job F A)) →
    WqReply W F A → Prop
  | queue {p : W → Option (Job F A)} {work : W} {worker : F} {arg : A} {delay now : Nat}
      (free : p work = none) :
      Spec p (.qqueue work (some worker) arg delay now)
        (Function.update p work (some ⟨worker, arg, now + delay⟩)) (.ret ok)
  | already {p : W → Option (Job F A)} {work : W} {worker : Option F} {arg : A}
      {delay now : Nat} {job : Job F A} (held : p work = some job) :
      Spec p (.qqueue work worker arg delay now) p (.ret (-ealready))
  | cancel {p : W → Option (Job F A)} {work : W} {job : Job F A} (held : p work = some job) :
      Spec p (.qcancel work) (Function.update p work none) (.ret ok)
  | absent {p : W → Option (Job F A)} {work : W} (free : p work = none) :
      Spec p (.qcancel work) p (.ret (-enoent))
  | run {p : W → Option (Job F A)} {work : W} {job : Job F A} {now : Nat}
      (held : p work = some job) (due : job.due ≤ now) :
      Spec p (.examine now) (Function.update p work none) (.worker work job.worker job.arg)
  | pass {p : W → Option (Job F A)} {e : WqEvent W F A} {o : WqReply W F A}
      (passes : e.passes = true) (quiet : o.quiet = true) : Spec p e p o

/-- The jobs a queue state holds: its queued items that have a callback. -/
def pending (s : WqState W F A) (w : W) : Option (Job F A) :=
  if w ∈ s.q then
    (s.work w).worker.map fun worker => ⟨worker, (s.work w).arg, (s.work w).qtime + (s.work w).delay⟩
  else none

/-- What every reachable state keeps: no item is queued twice, every queued item has its
callback and was queued no later than the clock, and the walk of a pass is at a suffix of the
queue. -/
structure Good (s : WqState W F A) : Prop where
  nodup : s.q.Nodup
  queued : ∀ w ∈ s.q, (s.work w).worker.isSome = true
  past : ∀ w ∈ s.q, (s.work w).qtime ≤ s.clock
  ahead : ∀ stick next ahead, s.pass = .scanning stick next ahead → ∃ seen, s.q = seen ++ ahead

variable {s : WqState W F A}

theorem pending_start [Inhabited A] : pending (start : WqState W F A) = fun _ => none := by
  funext w
  simp [pending, start]

omit [DecidableEq W] in
theorem Good.start [Inhabited A] : Good (start : WqState W F A) where
  nodup := List.nodup_nil
  queued := fun _ mem => nomatch mem
  past := fun _ mem => nomatch mem
  ahead := fun _ _ _ scanning => nomatch scanning

theorem pending_of_mem (good : Good s) (queued : w ∈ s.q) :
    ∃ worker, (s.work w).worker = some worker ∧
      pending s w = some ⟨worker, (s.work w).arg, (s.work w).qtime + (s.work w).delay⟩ := by
  obtain ⟨worker, hw⟩ := Option.isSome_iff_exists.mp (good.queued w queued)
  exact ⟨worker, hw, by simp [pending, queued, hw]⟩

/-- Taking an item off a queue without duplicates ends its job and no other, whatever is then
written into its `work_s`. -/
theorem pending_erase (nodup : s.q.Nodup) (w : W) (table : W → WorkS F A)
    (same : ∀ v, v ≠ w → table v = s.work v) (p : Pass W) (clock : Nat) :
    pending ⟨s.q.erase w, table, p, clock⟩ = Function.update (pending s) w none := by
  funext v
  by_cases hv : v = w
  · subst hv
    simp [pending, List.Nodup.not_mem_erase nodup]
  · simp only [pending, Function.update_of_ne hv, nodup.mem_erase_iff, hv, ne_eq, not_false_eq_true,
      true_and, same v hv]

theorem pending_link {q : List W} {worker : F} {arg : A} {delay now : Nat}
    (perm : q.Perm (w :: s.q)) (p : Pass W) (clock : Nat) :
    pending ⟨q, Function.update s.work w ⟨some worker, arg, now, delay⟩, p, clock⟩ =
      Function.update (pending s) w (some ⟨worker, arg, now + delay⟩) := by
  funext v
  by_cases hv : v = w
  · subst hv
    simp [pending, perm.mem_iff]
  · simp only [pending, Function.update_of_ne hv, perm.mem_iff, List.mem_cons, hv, false_or]

end Spec

/-! ## Every run keeps the jobs -/

section Refinement

variable {W F A : Type} [DecidableEq W] {cfg : WqConfig} {period : Nat} {s s' : WqState W F A}
  {e : WqEvent W F A} {o : WqReply W F A}

variable {now : Nat}

@[simp] theorem pending_clock (now : Nat) : pending { s with clock := now } = pending s := rfl

@[simp] theorem pending_pass (p : Pass W) : pending { s with pass := p } = pending s := rfl

omit [DecidableEq W] in
theorem Good.read (good : Good s) (later : s.clock ≤ now) :
    Good { s with clock := now } where
  nodup := good.nodup
  queued := good.queued
  past := fun w mem => (good.past w mem).trans later
  ahead := good.ahead

omit [DecidableEq W] in
theorem Good.repass (good : Good s) (p : Pass W)
    (ahead : ∀ stick next ahead, p = .scanning stick next ahead → ∃ seen, s.q = seen ++ ahead) :
    Good { s with pass := p } :=
  { good with ahead := ahead }

theorem Good.erase (good : Good s) (w : W) (table : W → WorkS F A)
    (same : ∀ v, v ≠ w → table v = s.work v) (p : Pass W)
    (ahead : ∀ stick next ahead, p = .scanning stick next ahead →
      ∃ seen, s.q.erase w = seen ++ ahead) :
    Good { s with q := s.q.erase w, work := table, pass := p } where
  nodup := good.nodup.erase w
  queued := by
    intro v mem
    obtain ⟨hv, mem⟩ := good.nodup.mem_erase_iff.mp mem
    dsimp only
    rw [same v hv]
    exact good.queued v mem
  past := by
    intro v mem
    obtain ⟨hv, mem⟩ := good.nodup.mem_erase_iff.mp mem
    dsimp only
    rw [same v hv]
    exact good.past v mem
  ahead := ahead

/-- Linking a fresh item in, with interrupts enabled, keeps the invariant when it has a
callback and its time is the clock's. -/
theorem Good.link (good : Good s) {q : List W} {w : W} (fresh : w ∉ s.q)
    (perm : q.Perm (w :: s.q)) (unmasked : s.pass.masked = false) (worker : F) (arg : A)
    (delay : Nat) :
    Good { s with q := q, work := Function.update s.work w ⟨some worker, arg, s.clock, delay⟩ } where
  nodup := perm.nodup_iff.mpr (List.nodup_cons.mpr ⟨fresh, good.nodup⟩)
  queued := by
    intro v mem
    by_cases hv : v = w
    · subst hv
      simp
    · dsimp only
      rw [Function.update_of_ne hv]
      exact good.queued v ((List.mem_cons.mp (perm.mem_iff.mp mem)).resolve_left hv)
  past := by
    intro v mem
    by_cases hv : v = w
    · subst hv
      simp
    · dsimp only
      rw [Function.update_of_ne hv]
      exact good.past v ((List.mem_cons.mp (perm.mem_iff.mp mem)).resolve_left hv)
  ahead := by
    intro stick next ahead scanning
    rw [scanning] at unmasked
    cases unmasked

theorem wqStep_qqueue_good {work : W} {worker : Option F} {arg : A} {delay : Nat}
    (allowed : (WqEvent.qqueue work worker arg delay now).Allowed) (good : Good s)
    (stepped : wqStep cfg period s (.qqueue work worker arg delay now) = some (s', o)) :
    Good s' ∧ Spec (pending s) (.qqueue work worker arg delay now) (pending s') o := by
  obtain ⟨unmasked, later, rfl, rfl⟩ := wqStep_qqueue stepped
  have good₁ := good.read later
  by_cases held : work ∈ s.q
  · -- `-EALREADY`, and nothing changes
    obtain ⟨worker', -, job⟩ := pending_of_mem good held
    rw [workQqueue_held (s := { s with clock := now }) held]
    exact ⟨good₁, Spec.already job⟩
  · obtain ⟨worker, rfl⟩ := Option.isSome_iff_exists.mp allowed
    obtain ⟨q, perm, queued⟩ :=
      workQqueue_fresh (s := { s with clock := now }) cfg.sorting work (some worker) arg delay now held
    rw [queued]
    have free : pending s work = none := by simp [pending, held]
    refine ⟨good₁.link held perm unmasked worker arg delay, ?_⟩
    dsimp only
    rw [pending_link perm]
    exact Spec.queue free

theorem wqStep_qcancel_good {work : W} (good : Good s)
    (stepped : wqStep cfg period s (.qcancel work) = some (s', o)) :
    Good s' ∧ Spec (pending s) (.qcancel work) (pending s') o := by
  obtain ⟨unmasked, rfl, rfl⟩ := wqStep_qcancel stepped
  rcases workQcancel_cases (s := s) work with ⟨worker, hw, held, cancelled⟩ | ⟨free, refused⟩
  · rw [cancelled]
    have same : ∀ v, v ≠ work →
        Function.update s.work work { s.work work with worker := none } v = s.work v :=
      fun v hv => Function.update_of_ne hv _ _
    refine ⟨good.erase work _ same s.pass ?_, ?_⟩
    · intro stick next ahead scanning
      rw [scanning] at unmasked
      cases unmasked
    · obtain ⟨worker', -, job⟩ := pending_of_mem good held
      dsimp only
      rw [pending_erase good.nodup work _ same]
      exact Spec.cancel job
  · rw [refused]
    have free : pending s work = none := by
      rcases free with none | absent
      · simp [pending, none]
      · simp [pending, absent]
    exact ⟨good, Spec.absent free⟩

/-- A turn of the loop: a due item with a callback runs, and its job was pending and due; every
other turn leaves the jobs alone. -/
theorem wqStep_examine_good (good : Good s)
    (stepped : wqStep cfg period s (.examine now) = some (s', o)) :
    Good s' ∧ Spec (pending s) (.examine now) (pending s') o := by
  obtain ⟨stick, next, work, rest, scanning, later, -, result⟩ := wqStep_examine stepped
  obtain ⟨seen, queue⟩ := good.ahead _ _ _ scanning
  have held : work ∈ s.q := by simp [queue]
  rcases workExamine_cases (s := { s with clock := now }) cfg.sorting stick next work rest now with
    ⟨worker, due, hw, called⟩ | ⟨due, hw, drop⟩ | ⟨early, pass⟩
  · rw [called, Prod.mk.injEq] at result
    obtain ⟨rfl, rfl⟩ := result
    have same : ∀ v, v ≠ work →
        Function.update s.work work { s.work work with worker := none } v = s.work v :=
      fun v hv => Function.update_of_ne hv _ _
    refine ⟨(good.read later).erase work _ same _ (fun _ _ _ running => nomatch running), ?_⟩
    obtain ⟨worker', hw', job⟩ := pending_of_mem good held
    have same_worker : worker' = worker := Option.some.inj (hw'.symm.trans hw)
    subst same_worker
    have ripe : (s.work work).qtime + (s.work work).delay ≤ now := by
      have past := good.past work held
      dsimp only at due
      omega
    dsimp only
    rw [pending_erase good.nodup work _ same]
    exact Spec.run job ripe
  · -- a queued item without a callback cannot be, by the invariant
    have queued := good.queued work held
    dsimp only at hw
    rw [hw] at queued
    cases queued
  · rw [pass] at result
    dsimp only at result
    have ahead : ∀ p : Pass W, p = (if cfg.sorting then .scanning stick
        ((s.work work).delay - min (now - (s.work work).qtime + (now - stick)) (s.work work).delay) []
        else .scanning stick (min next ((s.work work).delay -
          min (now - (s.work work).qtime + (now - stick)) (s.work work).delay)) rest) →
        ∀ stick' next' ahead', p = .scanning stick' next' ahead' → ∃ seen, s.q = seen ++ ahead' := by
      intro p hp stick' next' ahead' scanning'
      rw [scanning'] at hp
      cases hsort : cfg.sorting
      · rw [hsort, if_neg Bool.false_ne_true, Pass.scanning.injEq] at hp
        exact ⟨seen ++ [work], by rw [hp.2.2, queue, List.append_assoc, List.singleton_append]⟩
      · rw [hsort, if_pos rfl, Pass.scanning.injEq] at hp
        exact ⟨s.q, by rw [hp.2.2, List.append_nil]⟩
    split at result
    · rw [Prod.mk.injEq] at result
      obtain ⟨rfl, rfl⟩ := result
      exact ⟨(good.read later).repass _ (ahead _ (by simp [*])),
        Spec.pass rfl rfl⟩
    · rw [Prod.mk.injEq] at result
      obtain ⟨rfl, rfl⟩ := result
      exact ⟨(good.read later).repass _ (ahead _ (by simp [*])),
        Spec.pass rfl rfl⟩

/-- Every step of an allowed event keeps the invariant and is one the specification allows. -/
theorem wqStep_good (allowed : e.Allowed) (good : Good s)
    (stepped : wqStep cfg period s e = some (s', o)) :
    Good s' ∧ Spec (pending s) e (pending s') o := by
  cases e with
  | qqueue work worker arg delay now => exact wqStep_qqueue_good allowed good stepped
  | qcancel work => exact wqStep_qcancel_good good stepped
  | examine now => exact wqStep_examine_good good stepped
  | begin now =>
    obtain ⟨-, later, rfl, rfl⟩ := wqStep_begin stepped
    refine ⟨(good.read later).repass _ ?_, Spec.pass rfl rfl⟩
    intro stick next ahead scanning
    rw [Pass.scanning.injEq] at scanning
    exact ⟨[], by rw [← scanning.2.2, List.nil_append]⟩
  | finish now =>
    obtain ⟨stick, next, -, later, -, rfl, rfl⟩ := wqStep_finish stepped
    exact ⟨(good.read later).repass _ (fun _ _ _ idle => nomatch idle),
      Spec.pass rfl (workFinish_quiet ..)⟩
  | resume now =>
    obtain ⟨stick, next, -, later, rfl, rfl⟩ := wqStep_resume stepped
    refine ⟨(good.read later).repass _ ?_, Spec.pass rfl rfl⟩
    intro stick next ahead scanning
    rw [Pass.scanning.injEq] at scanning
    exact ⟨[], by rw [← scanning.2.2, List.nil_append]⟩

theorem wqueue_refines [Inhabited A] (cfg : WqConfig) (period : Nat) (es : List (WqEvent W F A))
    (s : WqState W F A) (os : List (WqReply W F A)) (allowed : ∀ e ∈ es, e.Allowed)
    (ran : runOut (wqStep cfg period) start es = some (s, os)) :
    Allows Spec (fun _ => none) es (pending s) os := by
  have matched : ∀ (s : WqState W F A) (t : W → Option (Job F A)) (e : WqEvent W F A) s' o,
      e.Allowed → Good s → t = pending s →
      wqStep cfg period s e = some (s', o) → ∃ t', Spec t e t' o ∧ t' = pending s' := by
    intro s t e s' o allowed good related stepped
    subst related
    exact ⟨_, (wqStep_good allowed good stepped).2, rfl⟩
  obtain ⟨t, run, related, -⟩ := runOut_refines Spec (fun s t => t = pending s) Good
    WqEvent.Allowed (fun s e s' o allowed good stepped => (wqStep_good allowed good stepped).1)
    matched es start s os (fun _ => none) allowed Good.start pending_start.symm ran
  rwa [← related]

theorem wqueue_refines_runs_job :
    ∃ s os, runOut (wqStep ⟨false, false, false⟩ 0) (start : WqState Nat Unit Unit)
        [.qqueue 0 (some ()) () 0 0, .begin 0, .examine 0] = some (s, os) ∧
      Allows Spec (fun _ => none) [.qqueue 0 (some ()) () 0 0, .begin 0, .examine 0] (pending s) os :=
  ⟨_, _, rfl, wqueue_refines ⟨false, false, false⟩ 0 _ _ _ (by simp [WqEvent.Allowed]) rfl⟩

end Refinement

/-! ## The order of the sorted build -/

section Sorted

variable {W F A : Type} [DecidableEq W] {cfg : WqConfig} {period : Nat} {s s' : WqState W F A}
  {e : WqEvent W F A} {o : WqReply W F A}

/-- The queue runs from the shortest delay to the longest. -/
def ByDelay (s : WqState W F A) : Prop :=
  s.q.Pairwise fun a b => (s.work a).delay ≤ (s.work b).delay

theorem ByDelay.erase (sorted : ByDelay s) (nodup : s.q.Nodup) (w : W) (table : W → WorkS F A)
    (same : ∀ v, v ≠ w → table v = s.work v) (p : Pass W) (clock : Nat) :
    ByDelay ⟨s.q.erase w, table, p, clock⟩ := by
  apply (sorted.sublist (List.erase_sublist)).imp_of_mem
  intro a b memA memB before
  dsimp only
  rw [same a (nodup.mem_erase_iff.mp memA).1, same b (nodup.mem_erase_iff.mp memB).1]
  exact before

/-- Linking a fresh item in before the first longer delay keeps the order. -/
theorem ByDelay.link (sorted : ByDelay s) {w : W} (fresh : w ∉ s.q) (item : WorkS F A)
    (p : Pass W) (clock : Nat) :
    let table := Function.update s.work w item
    ByDelay ⟨s.q.orderedInsert (fun a b => (table a).delay < (table b).delay) w, table, p, clock⟩ := by
  intro table
  have same : ∀ v ∈ s.q, table v = s.work v := fun v mem =>
    Function.update_of_ne (fun (eq : v = w) => fresh (eq ▸ mem)) _ _
  apply OrderedInsert.pairwise_orderedInsert
  · apply sorted.imp_of_mem
    intro a b memA memB before
    dsimp only
    rw [same a memA, same b memB]
    exact before
  · intro y _ shorter
    exact Nat.le_of_lt shorter
  · intro y _ longer
    exact Nat.le_of_not_lt longer
  · intro y z shorter before
    exact Nat.lt_of_lt_of_le shorter before

/-- A step of the sorted build keeps the queue free of duplicates and ordered by delay, whether
or not a queueing brings a callback. -/
theorem wqStep_byDelay (sorting : cfg.sorting = true) (nodup : s.q.Nodup) (sorted : ByDelay s)
    (stepped : wqStep cfg period s e = some (s', o)) : s'.q.Nodup ∧ ByDelay s' := by
  cases e with
  | qqueue work worker arg delay now =>
    obtain ⟨-, -, rfl, -⟩ := wqStep_qqueue stepped
    unfold workQqueue
    split_ifs with held
    · exact ⟨nodup, sorted⟩
    · exact ⟨(List.perm_orderedInsert _ work s.q).nodup_iff.mpr (List.nodup_cons.mpr ⟨held, nodup⟩),
        ByDelay.link (s := { s with clock := now }) sorted held _ _ _⟩
  | qcancel work =>
    obtain ⟨-, rfl, -⟩ := wqStep_qcancel stepped
    rcases workQcancel_cases (s := s) work with ⟨-, -, -, cancelled⟩ | ⟨-, refused⟩
    · rw [cancelled]
      exact ⟨nodup.erase work,
        sorted.erase nodup work _ (fun v hv => Function.update_of_ne hv _ _) _ _⟩
    · rw [refused]
      exact ⟨nodup, sorted⟩
  | examine now =>
    obtain ⟨stick, next, work, rest, -, -, -, result⟩ := wqStep_examine stepped
    rcases workExamine_cases (s := { s with clock := now }) cfg.sorting stick next work rest now with
      ⟨worker, -, -, called⟩ | ⟨-, -, drop⟩ | ⟨-, pass⟩
    · rw [called, Prod.mk.injEq] at result
      obtain ⟨rfl, -⟩ := result
      exact ⟨nodup.erase work,
        sorted.erase nodup work _ (fun v hv => Function.update_of_ne hv _ _) _ _⟩
    · -- an item queued without a callback is dropped like a run one
      rw [drop, Prod.mk.injEq] at result
      obtain ⟨rfl, -⟩ := result
      exact ⟨nodup.erase work, sorted.erase nodup work _ (fun _ _ => rfl) _ _⟩
    · rw [pass] at result
      dsimp only at result
      split at result <;>
      · rw [Prod.mk.injEq] at result
        obtain ⟨rfl, -⟩ := result
        exact ⟨nodup, sorted⟩
  | begin now =>
    obtain ⟨-, -, rfl, -⟩ := wqStep_begin stepped
    exact ⟨nodup, sorted⟩
  | finish now =>
    obtain ⟨-, -, -, -, -, rfl, -⟩ := wqStep_finish stepped
    exact ⟨nodup, sorted⟩
  | resume now =>
    obtain ⟨-, -, -, -, rfl, -⟩ := wqStep_resume stepped
    exact ⟨nodup, sorted⟩

/-- Every run of the sorted build keeps its queue ordered by delay: the order is that of the
delays alone, not of the ticks the items fall due at. -/
theorem sorted_by_delay [Inhabited A] (sorting : cfg.sorting = true) {es : List (WqEvent W F A)}
    {os : List (WqReply W F A)} (ran : runOut (wqStep cfg period) start es = some (s, os)) :
    ByDelay s := by
  -- every event is allowed here: the order does not need the callbacks `Good` asks for
  have kept : s.q.Nodup ∧ ByDelay s := by
    apply runOut_invariant (fun s => s.q.Nodup ∧ ByDelay s) (fun _ => True) _ es start s os
      (fun _ _ => trivial) ⟨List.nodup_nil, List.Pairwise.nil⟩ ran
    intro s e s' o _ ⟨nodup, sorted⟩ stepped
    exact wqStep_byDelay sorting nodup sorted stepped
  exact kept.2

theorem sorted_by_delay_two :
    ∃ s os, runOut (wqStep ⟨true, false, false⟩ 0) (start : WqState Nat Unit Unit)
        [.qqueue 0 none () 5 0, .qqueue 1 (some ()) () 2 0] = some (s, os) ∧ ByDelay s :=
  ⟨_, _, rfl, sorted_by_delay rfl (rfl : runOut (wqStep ⟨true, false, false⟩ 0) start
    [WqEvent.qqueue 0 none () 5 0, .qqueue 1 (some ()) () 2 0] = _)⟩

end Sorted

/-- The sorted build can sleep past a due job. Item `0` is queued at tick 0 with a delay of 10 and
item `1` at tick 8 with a delay of 5, so item `1` goes first. At tick 10 the pass finds item
`1` not due and stops there, and the worker thread sleeps 3 ticks while the job of item `0` has
been due since tick 10. -/
theorem sorted_queue_sleeps_past_due :
    ∃ s : WqState Nat Unit Unit,
      runOut (wqStep ⟨true, false, false⟩ 50) start
          [.qqueue 0 (some ()) () 10 0, .qqueue 1 (some ()) () 5 8, .begin 10, .examine 10,
            .finish 10] =
        some (s, [.ret ok, .ret ok, .next, .next, .sleep 3]) ∧
      s.q = [1, 0] ∧ pending s 0 = some ⟨(), (), 10⟩ :=
  ⟨_, rfl, rfl, rfl⟩

end TinyAra.Kernel.Wqueue
