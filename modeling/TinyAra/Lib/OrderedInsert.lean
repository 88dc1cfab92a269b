/-
# Lib.OrderedInsert -- insertion before the first element that is strictly after

Kernel queues insert a new element after every element that does not come
strictly after it, so that elements that tie keep their arrival order. With
the relation "strictly after" this is Mathlib's `List.orderedInsert`. Two facts
beyond Mathlib's are used:

* `orderedInsert_append`: the insertion point is the end of the prefix that the
  new element is not strictly before, and `exists_orderedInsert_split` finds that
  point in any list;
* `pairwise_orderedInsert`: an ordering that the list satisfies survives the
  insertion when the new element fits it at both ends of the insertion point;
* `filter_orderedInsert`: when every element behind one the new element is
  `r`-before is `r`-after it too, a sublist cut out by a test sees the
  insertion as its own.
-/
import Mathlib.Data.List.Sort

namespace OrderedInsert

set_option autoImplicit false

variable {α : Type} (r : α → α → Prop) [DecidableRel r]

theorem orderedInsert_append (x : α) (l₁ l₂ : List α) (skip : ∀ y ∈ l₁, ¬ r x y)
    (stop : ∀ y ∈ l₂.head?, r x y) : (l₁ ++ l₂).orderedInsert r x = l₁ ++ x :: l₂ := by
  induction l₁ with
  | nil =>
      cases l₂ with
      | nil => rfl
      | cons y l₂ => exact List.orderedInsert_cons_of_le r l₂ (stop y rfl)
  | cons y l₁ ih =>
      rw [List.cons_append, List.orderedInsert_of_not_le r _ (skip y (by simp))]
      rw [ih fun z hz => skip z (by simp [hz])]
      rfl

theorem exists_orderedInsert_split (x : α) (l : List α) :
    ∃ l₁ l₂, l = l₁ ++ l₂ ∧ (∀ y ∈ l₁, ¬ r x y) ∧ (∀ y ∈ l₂.head?, r x y) ∧
      l.orderedInsert r x = l₁ ++ x :: l₂ := by
  induction l with
  | nil => exact ⟨[], [], rfl, by simp, by simp, rfl⟩
  | cons y l ih =>
      by_cases first : r x y
      · exact ⟨[], y :: l, rfl, by simp, by simpa using first,
          List.orderedInsert_cons_of_le r l first⟩
      · obtain ⟨l₁, l₂, split, skip, stop, inserted⟩ := ih
        refine ⟨y :: l₁, l₂, by rw [split, List.cons_append], ?_, stop, ?_⟩
        · intro z hz
          rcases List.mem_cons.mp hz with rfl | hz
          · exact first
          · exact skip z hz
        · rw [List.orderedInsert_of_not_le r l first, inserted, List.cons_append]

theorem orderedInsert_of_forall_not (x : α) (l : List α) (skip : ∀ y ∈ l, ¬ r x y) :
    l.orderedInsert r x = l ++ [x] := by
  simpa using orderedInsert_append r x l [] skip (by simp)

theorem orderedInsert_of_forall (x : α) (l : List α) (stop : ∀ y ∈ l, r x y) :
    l.orderedInsert r x = x :: l :=
  orderedInsert_append r x [] l (by simp) fun y hy => stop y (List.mem_of_mem_head? hy)

theorem pairwise_orderedInsert {P : α → α → Prop} (x : α) (l : List α) (sorted : l.Pairwise P)
    (before : ∀ y ∈ l, r x y → P x y) (after : ∀ y ∈ l, ¬ r x y → P y x)
    (carry : ∀ y z, r x y → P y z → r x z) : (l.orderedInsert r x).Pairwise P := by
  induction l with
  | nil => exact List.pairwise_singleton P x
  | cons y l ih =>
      rw [List.pairwise_cons] at sorted
      by_cases first : r x y
      · rw [List.orderedInsert_cons_of_le r l first]
        refine List.Pairwise.cons ?_ (List.Pairwise.cons sorted.1 sorted.2)
        intro z hz
        rcases List.mem_cons.mp hz with rfl | hz
        · exact before z (by simp) first
        · exact before z (by simp [hz]) (carry y z first (sorted.1 z hz))
      · rw [List.orderedInsert_of_not_le r l first]
        refine List.Pairwise.cons ?_ (ih sorted.2 (fun z hz => before z (by simp [hz]))
          (fun z hz => after z (by simp [hz])))
        intro z hz
        rcases (List.mem_orderedInsert r).mp hz with rfl | hz
        · exact after y (by simp) first
        · exact sorted.1 z hz

theorem filter_orderedInsert (p : α → Bool) (x : α) (l : List α)
    (upward : l.Pairwise fun y z => r x y → r x z) :
    (l.orderedInsert r x).filter p = if p x then (l.filter p).orderedInsert r x else l.filter p := by
  induction l with
  | nil => cases px : p x <;> simp [px]
  | cons y l ih =>
      rw [List.pairwise_cons] at upward
      by_cases first : r x y
      · -- `x` goes in front of `y`, and in front of every element of the sublist
        have stop : ∀ z ∈ (y :: l).filter p, r x z := by
          intro z hz
          rcases List.mem_cons.mp (List.mem_of_mem_filter hz) with rfl | hz
          · exact first
          · exact upward.1 z hz first
        rw [List.orderedInsert_cons_of_le r l first, orderedInsert_of_forall r x _ stop]
        cases px : p x <;> simp [px]
      · rw [List.orderedInsert_of_not_le r l first, List.filter_cons, ih upward.2]
        cases py : p y
        · simp [py]
        · simp only [List.filter_cons, py, ↓reduceIte]
          split_ifs
          · rw [List.orderedInsert_of_not_le r _ first]
          · rfl

end OrderedInsert
