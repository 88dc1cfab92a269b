/-
# Lib.DeltaList -- lists that store differences of their values

A delta list stores, for each entry, the difference between its value and the
value of the entry before it; the first difference is taken from a base. Timer
queues use it so that only the head needs updating when time passes.
`absolute b l` is the list of values the deltas stand for.

The edits a delta-list owner makes are all local, and each has an exact effect
on the values:

* `absolute_shift`: changing the base (or the first delta) moves every value;
* `absolute_merge`: dropping an entry and adding its delta to the next one
  removes exactly that entry's value;
* `absolute_append`: a split of the list splits the values at the running sum.
-/
import Mathlib

namespace DeltaList

set_option autoImplicit false

variable {α : Type}

/-- The values of the delta list `l`, each paired with its key, starting from `base`. -/
def absolute (base : Int) : List (α × Int) → List (α × Int)
  | [] => []
  | (a, d) :: rest => (a, base + d) :: absolute (base + d) rest

/-- The sum of all deltas: the value of the last entry, relative to the base. -/
def total (l : List (α × Int)) : Int := (l.map Prod.snd).sum

@[simp] theorem absolute_nil (base : Int) : absolute base ([] : List (α × Int)) = [] := rfl

@[simp] theorem absolute_cons (base : Int) (e : α × Int) (rest : List (α × Int)) :
    absolute base (e :: rest) = (e.1, base + e.2) :: absolute (base + e.2) rest := rfl

@[simp] theorem total_nil : total ([] : List (α × Int)) = 0 := rfl

@[simp] theorem total_cons (e : α × Int) (rest : List (α × Int)) :
    total (e :: rest) = e.2 + total rest := by
  simp [total]

@[simp] theorem map_fst_absolute (base : Int) (l : List (α × Int)) :
    (absolute base l).map Prod.fst = l.map Prod.fst := by
  induction l generalizing base with
  | nil => rfl
  | cons e rest ih =>
      obtain ⟨a, d⟩ := e
      simp [ih]

@[simp] theorem length_absolute (base : Int) (l : List (α × Int)) :
    (absolute base l).length = l.length := by
  rw [← List.length_map (f := Prod.fst), map_fst_absolute, List.length_map]

theorem absolute_shift (base k : Int) (l : List (α × Int)) :
    absolute (base + k) l = (absolute base l).map fun e => (e.1, e.2 + k) := by
  induction l generalizing base with
  | nil => rfl
  | cons e rest ih =>
      obtain ⟨a, d⟩ := e
      simp only [absolute_cons, List.map_cons]
      rw [show base + k + d = base + d + k by omega, ih (base + d)]

theorem absolute_sub_head (base : Int) (a : α) (d k : Int) (rest : List (α × Int)) :
    absolute base ((a, d - k) :: rest) =
      (absolute base ((a, d) :: rest)).map fun e => (e.1, e.2 - k) := by
  simp only [absolute_cons, List.map_cons]
  rw [show base + (d - k) = base + d + -k by omega, absolute_shift]
  simp [Int.sub_eq_add_neg]

theorem absolute_merge (base : Int) (a x : α) (d e : Int) (rest : List (α × Int)) :
    absolute base ((a, d) :: (x, e) :: rest) = (a, base + d) :: absolute base ((x, d + e) :: rest) := by
  simp only [absolute_cons]
  rw [show base + d + e = base + (d + e) by omega]

/-- Putting an entry in front of another and taking its delta from that one inserts
exactly its value. -/
theorem absolute_insert (base : Int) (a x : α) (d e : Int) (rest : List (α × Int)) :
    absolute base ((a, d) :: (x, e - d) :: rest) = (a, base + d) :: absolute base ((x, e) :: rest) := by
  rw [absolute_merge, show d + (e - d) = e by omega]

@[simp] theorem total_append (l₁ l₂ : List (α × Int)) : total (l₁ ++ l₂) = total l₁ + total l₂ := by
  simp [total]

theorem absolute_append (base : Int) (l₁ l₂ : List (α × Int)) :
    absolute base (l₁ ++ l₂) = absolute base l₁ ++ absolute (base + total l₁) l₂ := by
  induction l₁ generalizing base with
  | nil => simp
  | cons e rest ih =>
      obtain ⟨a, d⟩ := e
      simp only [List.cons_append, absolute_cons, ih, total_cons]
      rw [Int.add_assoc]

end DeltaList
