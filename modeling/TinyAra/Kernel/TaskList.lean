/-
# Kernel.TaskList -- the prioritized task lists

`sched_addprioritized` (sched_addprioritized.c) walks a prioritized list past
every task whose `sched_priority` is at least the newcomer's and links it in
there, so a list stays by priority, highest first, with the tasks of one
priority in the order they came: `schedAddprioritized` is
`List.orderedInsert` with `PriorityList.Above`.  `sched_addblocked` puts a task
that blocks into the list `g_tasklisttable` names for its state this way when
that list is prioritized, and `sched_removeblocked` unlinks it (`List.erase`).

The lemmas count the tasks of a list that satisfy a test before and after a
task is added or removed, which is how the kernel's counters of waiting tasks
are checked against the lists.
-/
import TinyAra.Lib.PriorityList

namespace TinyAra.Kernel.TaskList

set_option autoImplicit false

variable {T : Type} (priority : T → Nat)

/-- `sched_addprioritized(tcb, list)`. -/
def schedAddprioritized (tcb : T) (list : List T) : List T :=
  list.orderedInsert (PriorityList.Above priority) tcb

theorem schedAddprioritized_perm (tcb : T) (list : List T) :
    (schedAddprioritized priority tcb list).Perm (tcb :: list) :=
  List.perm_orderedInsert _ tcb list

@[simp] theorem mem_schedAddprioritized (tcb u : T) (list : List T) :
    u ∈ schedAddprioritized priority tcb list ↔ u = tcb ∨ u ∈ list := by
  rw [(schedAddprioritized_perm priority tcb list).mem_iff, List.mem_cons]

theorem nodup_schedAddprioritized {tcb : T} {list : List T} (fresh : tcb ∉ list)
    (nodup : list.Nodup) : (schedAddprioritized priority tcb list).Nodup :=
  (schedAddprioritized_perm priority tcb list).nodup_iff.mpr (List.nodup_cons.mpr ⟨fresh, nodup⟩)

theorem countP_schedAddprioritized (p : T → Bool) (tcb : T) (list : List T) :
    (schedAddprioritized priority tcb list).countP p = list.countP p + if p tcb then 1 else 0 := by
  rw [(schedAddprioritized_perm priority tcb list).countP_eq, List.countP_cons]

/-- The newcomer goes in right after the tasks of priority at least its own, when the rest
starts with one of lower priority. -/
theorem schedAddprioritized_append {tcb : T} {l₁ l₂ : List T}
    (skip : ∀ a ∈ l₁, priority tcb ≤ priority a)
    (stop : ∀ c ∈ l₂.head?, priority c < priority tcb) :
    schedAddprioritized priority tcb (l₁ ++ l₂) = l₁ ++ tcb :: l₂ :=
  OrderedInsert.orderedInsert_append _ tcb l₁ l₂ (fun a ha => not_lt.mpr (skip a ha)) stop

theorem countP_erase [DecidableEq T] (p : T → Bool) {tcb : T} {list : List T}
    (mem : tcb ∈ list) :
    list.countP p = (list.erase tcb).countP p + if p tcb then 1 else 0 := by
  rw [(List.perm_cons_erase mem).countP_eq, List.countP_cons]

end TinyAra.Kernel.TaskList
