/-
# Lib.Census -- how many members of a finite set are in a given state

`census s f P` counts the members `a` of the finite set `s` whose state `f a` satisfies `P`:
the tasks of a system in some place of their code, say.

* `census_erase`: a member's own part of the count, and the rest;
* `census_update`: changing one member's state moves the count by what the member leaves and
  what it joins, and `census_update_of_iff` keeps it when both states are alike;
* `census_pos`: the count is positive exactly when some member is in the state.
-/
import Mathlib.Data.Finset.Card
import Mathlib.Data.Finset.Filter

namespace Census

set_option autoImplicit false

variable {α β : Type} (s : Finset α) (f : α → β) (P : β → Prop) [DecidablePred P]

/-- The members of `s` whose state satisfies `P`, counted. -/
def census : Nat := (s.filter fun a => P (f a)).card

variable {s f P}

theorem census_erase [DecidableEq α] {a : α} (mem : a ∈ s) :
    census s f P = census (s.erase a) f P + if P (f a) then 1 else 0 := by
  unfold census
  by_cases here : P (f a)
  · rw [if_pos here, Finset.filter_erase, Finset.card_erase_add_one (Finset.mem_filter.mpr ⟨mem, here⟩)]
  · rw [if_neg here, Finset.filter_erase, Finset.erase_eq_of_notMem (by simp [here]), Nat.add_zero]

theorem census_update [DecidableEq α] {a : α} (mem : a ∈ s) (b : β) :
    census s (Function.update f a b) P + (if P (f a) then 1 else 0) = census s f P + if P b then 1 else 0 := by
  -- the other members keep their states
  have others : census (s.erase a) (Function.update f a b) P = census (s.erase a) f P := by
    unfold census
    congr 1
    apply Finset.filter_congr
    intro x mem'
    rw [Function.update_of_ne (Finset.ne_of_mem_erase mem')]
  rw [census_erase mem, census_erase mem (f := f), others, Function.update_self]
  omega

theorem census_update_of_iff [DecidableEq α] {a : α} (mem : a ∈ s) {b : β} (alike : P (f a) ↔ P b) :
    census s (Function.update f a b) P = census s f P := by
  have moved := census_update (f := f) (P := P) mem b
  have same : (if P (f a) then 1 else 0) = if P b then 1 else 0 := if_congr alike rfl rfl
  omega

theorem census_pos : 0 < census s f P ↔ ∃ a ∈ s, P (f a) := by
  unfold census
  rw [Finset.card_pos, Finset.filter_nonempty_iff]

end Census
