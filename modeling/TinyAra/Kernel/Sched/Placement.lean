/-
# Kernel.Sched.Placement -- the priority order of the task lists

A prioritized task list holds its tasks by priority, highest first (`ByPriority`), and
`sched_addprioritized` keeps that order (`ByPriority.schedAddprioritized`).
-/
import TinyAra.Kernel.Sched.Lists
import TinyAra.Kernel.TaskList

namespace TinyAra.Kernel.Sched

set_option autoImplicit false

@[simp] theorem tasklisttable_list_eq_none {s : TState} :
    (tasklisttable s).list = none ↔ s = .taskInvalid := by
  cases s <;> simp [tasklisttable]

variable {T : Type}

def ByPriority (prio : T → Nat) (l : List T) : Prop := l.Pairwise fun a b => prio b ≤ prio a

theorem ByPriority.schedAddprioritized {prio : T → Nat} {l : List T} (h : ByPriority prio l)
    (t : T) : ByPriority prio (TaskList.schedAddprioritized prio t l) :=
  PriorityList.sorted_orderedInsert t h

@[simp] theorem mem_update_lists (L : TaskQueue → List T) (q q' : TaskQueue) (l : List T) (u : T) :
    u ∈ Function.update L q l q' ↔ if q' = q then u ∈ l else u ∈ L q' := by
  rw [Function.update_apply]
  split_ifs <;> rfl

end TinyAra.Kernel.Sched
