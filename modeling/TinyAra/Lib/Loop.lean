/-
# Lib.Loop -- a `while` loop with fuel

`loop body fuel s` runs the body of a `while` loop from the state `s`, at most `fuel` times.
The body either leaves the loop with an answer (`.inl`) or goes round again from a new state
(`.inr`), and `none` is a loop still running when the fuel is spent. A loop returns when some
fuel gives an answer.

* `loop_of_inl`, `loop_of_inr`: a round that leaves the loop, and one that goes round again;
* `loop_diverges`: a body that, from every state of an invariant, goes round again into the
  invariant never leaves the loop: every fuel is spent.
-/
import Mathlib.Logic.Basic

namespace Loop

set_option autoImplicit false

variable {σ β : Type} (body : σ → β ⊕ σ)

/-- At most `fuel` rounds of the loop from `s`. -/
def loop : Nat → σ → Option β
  | 0, _ => none
  | fuel + 1, s =>
    match body s with
    | .inl r => some r
    | .inr s' => loop fuel s'

variable {body}

theorem loop_of_inl {s : σ} {r : β} (done : body s = .inl r) (fuel : Nat) :
    loop body (fuel + 1) s = some r := by
  simp [loop, done]

theorem loop_of_inr {s s' : σ} (again : body s = .inr s') (fuel : Nat) :
    loop body (fuel + 1) s = loop body fuel s' := by
  simp [loop, again]

theorem loop_diverges (Inv : σ → Prop) (keeps : ∀ s, Inv s → ∃ s', body s = .inr s' ∧ Inv s') :
    ∀ fuel s, Inv s → loop body fuel s = none
  | 0, _, _ => rfl
  | fuel + 1, s, holds => by
    obtain ⟨s', again, holds'⟩ := keeps s holds
    rw [loop_of_inr again]
    exact loop_diverges Inv keeps fuel s' holds'

end Loop
