/- Boxes: each coordinate of a valuation unconstrained or kept in a closed interval, the
non-relational interval abstraction.  `meet` is exact for conjunction; `join`, the interval
hull on the coordinates both sides constrain, is sound for disjunction. -/
import Mathlib.Order.Interval.Set.Basic
import Mathlib.Order.MinMax

set_option autoImplicit false

abbrev IntervalBox (ι α : Type*) := ι → Option (α × α)

namespace IntervalBox

variable {ι α : Type*} [LinearOrder α]

def toSet (b : IntervalBox ι α) : Set (ι → α) :=
  {x | ∀ i lo hi, b i = some (lo, hi) → x i ∈ Set.Icc lo hi}

/-- Both constraints on every coordinate. -/
def meet (b₁ b₂ : IntervalBox ι α) : IntervalBox ι α := fun i =>
  match b₁ i, b₂ i with
  | none, r => r
  | r, none => r
  | some (l₁, h₁), some (l₂, h₂) => some (max l₁ l₂, min h₁ h₂)

/-- The hull of the two intervals where both sides constrain a coordinate, nothing
elsewhere. -/
def join (b₁ b₂ : IntervalBox ι α) : IntervalBox ι α := fun i =>
  match b₁ i, b₂ i with
  | some (l₁, h₁), some (l₂, h₂) => some (min l₁ l₂, max h₁ h₂)
  | _, _ => none

theorem toSet_meet (b₁ b₂ : IntervalBox ι α) : toSet (meet b₁ b₂) = toSet b₁ ∩ toSet b₂ := by
  ext x
  simp only [Set.mem_inter_iff, toSet, Set.mem_ofPred_eq]
  constructor
  · -- each side's interval contains the meet's, which contains `x i`
    intro h
    constructor
    all_goals
      intro i lo hi hb
      have := h i
      unfold meet at this
      split at this <;> simp_all
  · rintro ⟨h₁, h₂⟩ i lo hi hb
    unfold meet at hb
    split at hb
    · exact h₂ i lo hi hb
    · exact h₁ i lo hi hb
    · cases hb
      rw [← Set.Icc_inter_Icc]
      exact ⟨h₁ i _ _ ‹_›, h₂ i _ _ ‹_›⟩

theorem toSet_join_left (b₁ b₂ : IntervalBox ι α) : toSet b₁ ⊆ toSet (join b₁ b₂) := by
  intro x h i lo hi hb
  unfold join at hb
  split at hb
  · cases hb
    have := h i _ _ ‹_›
    exact ⟨min_le_of_left_le this.1, le_max_of_le_left this.2⟩
  · cases hb

theorem toSet_join_right (b₁ b₂ : IntervalBox ι α) : toSet b₂ ⊆ toSet (join b₁ b₂) := by
  intro x h i lo hi hb
  unfold join at hb
  split at hb
  · cases hb
    have := h i _ _ ‹_›
    exact ⟨min_le_of_right_le this.1, le_max_of_le_right this.2⟩
  · cases hb

theorem isSome_meet (b₁ b₂ : IntervalBox ι α) (i : ι) :
    (meet b₁ b₂ i).isSome ↔ (b₁ i).isSome ∨ (b₂ i).isSome := by
  unfold meet
  split <;> simp_all

theorem isSome_join (b₁ b₂ : IntervalBox ι α) (i : ι) :
    (join b₁ b₂ i).isSome ↔ (b₁ i).isSome ∧ (b₂ i).isSome := by
  unfold join
  cases h₁ : b₁ i with
  | none => simp
  | some r₁ =>
    cases h₂ : b₂ i with
    | none => simp
    | some r₂ => simp

end IntervalBox
