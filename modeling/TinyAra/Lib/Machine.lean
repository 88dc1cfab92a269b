/-
# Lib.Machine -- runs of a partial step function, invariants and simulation

A component driven by events is a step function `step : σ → ε → Option σ`, with
`none` for an event that cannot happen in that state.  `run` feeds it a list of
events and fails as soon as one step does.  `run_simulation` carries one-step facts to
whole runs: when each concrete step is matched by an abstract step that keeps a relation
(given an abstract invariant), every concrete run is matched by an abstract run ending in
related states. `run_invariant_escape` carries an invariant that all steps but some keep: a
run keeps it, or takes one of those steps from a state where it held.

A component that answers each event (a system call that returns a value) is a
step function `σ → ε → Option (σ × ο)`; `runOut` collects the answers. Its
rules are `runOut_invariant`, over runs of the events a predicate allows, with
`runOut_answers` for what every answer of such a run is,
`runOut_simulation`, whose abstract run gives the same answers (`runOut_simulation_allowed`
over runs of the events a predicate allows), `runOut_refines`, for an
abstract machine given as a relation (`Allows` is its runs),
`runOut_balance`, for a quantity that each step moves by what its event and
answer add and take away (`runOut_balance_allowed` over runs of allowed events),
and `runOut_queue`, for a queue that each step takes from the front of and adds
to the end of.
-/
import Mathlib.Algebra.Group.Basic

namespace Machine

set_option autoImplicit false

variable {σ τ ε : Type}

/-- Feed the events to `step` in order; `none` once a step fails. -/
def run (step : σ → ε → Option σ) (s : σ) : List ε → Option σ
  | [] => some s
  | e :: es => (step s e).bind fun s' => run step s' es

@[simp] theorem run_nil (step : σ → ε → Option σ) (s : σ) : run step s [] = some s := rfl

@[simp] theorem run_cons (step : σ → ε → Option σ) (s : σ) (e : ε) (es : List ε) :
    run step s (e :: es) = (step s e).bind fun s' => run step s' es := rfl

/-- A run that succeeds made each of its steps succeed. -/
theorem run_cons_eq_some {step : σ → ε → Option σ} {s s'' : σ} {e : ε} {es : List ε}
    (ran : run step s (e :: es) = some s'') :
    ∃ s', step s e = some s' ∧ run step s' es = some s'' := by
  rw [run_cons, Option.bind_eq_some_iff] at ran
  exact ran

theorem run_simulation {stepC : σ → ε → Option σ} {stepA : τ → ε → Option τ}
    (R : σ → τ → Prop) (Inv : τ → Prop)
    (keep : ∀ t e t', Inv t → stepA t e = some t' → Inv t')
    (matched : ∀ s t e s', Inv t → R s t → stepC s e = some s' →
      ∃ t', stepA t e = some t' ∧ R s' t') :
    ∀ (es : List ε) (s s' : σ) (t : τ), Inv t → R s t → run stepC s es = some s' →
      ∃ t', run stepA t es = some t' ∧ R s' t' ∧ Inv t'
  | [], s, s', t, holds, related, ran => by
      rw [run_nil, Option.some.injEq] at ran
      exact ⟨t, rfl, ran ▸ related, holds⟩
  | e :: es, s, s'', t, holds, related, ran => by
      obtain ⟨s', stepped, rest⟩ := run_cons_eq_some ran
      obtain ⟨t', steppedA, related'⟩ := matched s t e s' holds related stepped
      obtain ⟨t'', ranA, related'', holds''⟩ :=
        run_simulation R Inv keep matched es s' s'' t' (keep t e t' holds steppedA) related' rest
      exact ⟨t'', by rw [run_cons, steppedA, Option.bind_some, ranA], related'', holds''⟩

/-- An invariant that every step keeps, except the steps `Escape` names: it holds at the end
of a run, or the run takes such a step from a state where it held. -/
theorem run_invariant_escape {step : σ → ε → Option σ} (Inv : σ → Prop) (Escape : σ → ε → Prop)
    (keep : ∀ s e s', Inv s → step s e = some s' → Inv s' ∨ Escape s e) :
    ∀ (es : List ε) (s s' : σ), Inv s → run step s es = some s' →
      Inv s' ∨ ∃ pre e post t, es = pre ++ e :: post ∧ run step s pre = some t ∧ Inv t ∧ Escape t e
  | [], s, s', holds, ran => by
      rw [run_nil, Option.some.injEq] at ran
      exact .inl (ran ▸ holds)
  | e :: es, s, s'', holds, ran => by
      obtain ⟨s', stepped, rest⟩ := run_cons_eq_some ran
      rcases keep s e s' holds stepped with holds' | escaped
      · rcases run_invariant_escape Inv Escape keep es s' s'' holds' rest with
          done | ⟨pre, e', post, t, split, reached, held, escaped⟩
        · exact .inl done
        · refine .inr ⟨e :: pre, e', post, t, by rw [split, List.cons_append], ?_, held, escaped⟩
          rw [run_cons, stepped, Option.bind_some, reached]
      · exact .inr ⟨[], e, es, s, rfl, rfl, holds, escaped⟩

/-! ## Runs that answer -/

variable {ο : Type}

/-- Feed the events to a step function that answers each; the answers in order. -/
def runOut (step : σ → ε → Option (σ × ο)) (s : σ) : List ε → Option (σ × List ο)
  | [] => some (s, [])
  | e :: es => (step s e).bind fun (s', o) =>
      (runOut step s' es).map fun (s'', os) => (s'', o :: os)

@[simp] theorem runOut_nil (step : σ → ε → Option (σ × ο)) (s : σ) :
    runOut step s [] = some (s, []) := rfl

variable {step : σ → ε → Option (σ × ο)}

theorem runOut_nil_eq_some {s s' : σ} {os : List ο} (ran : runOut step s [] = some (s', os)) :
    s = s' ∧ [] = os := by
  rwa [runOut_nil, Option.some.injEq, Prod.mk.injEq] at ran

theorem runOut_cons_eq_some {s s'' : σ} {e : ε}
    {es : List ε} {os' : List ο} (ran : runOut step s (e :: es) = some (s'', os')) :
    ∃ s' o os, step s e = some (s', o) ∧ runOut step s' es = some (s'', os) ∧ os' = o :: os := by
  simp only [runOut, Option.bind_eq_some_iff, Option.map_eq_some_iff, Prod.mk.injEq] at ran
  obtain ⟨⟨s', o⟩, stepped, ⟨s₂, os⟩, rest, rfl, rfl⟩ := ran
  exact ⟨s', o, os, stepped, rest, rfl⟩

theorem runOut_map {ε' : Type} (step : σ → ε → Option (σ × ο)) (f : ε' → ε) :
    ∀ (s : σ) (es : List ε'), runOut step s (es.map f) = runOut (fun s e => step s (f e)) s es
  | _, [] => rfl
  | s, e :: es => by
      simp only [List.map_cons, runOut]
      congr 1
      funext r
      rw [runOut_map step f r.1 es]

theorem runOut_length :
    ∀ (es : List ε) (s s' : σ) (os : List ο), runOut step s es = some (s', os) →
      os.length = es.length
  | [], s, s', os, ran => by
      rw [← (runOut_nil_eq_some ran).2]
      rfl
  | e :: es, s, s'', os', ran => by
      obtain ⟨s', o, os, -, rest, rfl⟩ := runOut_cons_eq_some ran
      rw [List.length_cons, List.length_cons, runOut_length es s' s'' os rest]

theorem runOut_invariant {step : σ → ε → Option (σ × ο)} (Inv : σ → Prop) (Allowed : ε → Prop)
    (keep : ∀ s e s' o, Allowed e → Inv s → step s e = some (s', o) → Inv s') :
    ∀ (es : List ε) (s s' : σ) (os : List ο), (∀ e ∈ es, Allowed e) → Inv s →
      runOut step s es = some (s', os) → Inv s'
  | [], s, s', os, _, holds, ran => by
      exact (runOut_nil_eq_some ran).1 ▸ holds
  | e :: es, s, s'', os', allowed, holds, ran => by
      obtain ⟨s', o, os, stepped, rest, -⟩ := runOut_cons_eq_some ran
      have now := keep s e s' o (allowed e List.mem_cons_self) holds stepped
      exact runOut_invariant Inv Allowed keep es s' s'' os
        (fun e' mem => allowed e' (List.mem_cons_of_mem e mem)) now rest

theorem runOut_answers (Inv : σ → Prop) (Allowed : ε → Prop)
    (Ans : ο → Prop)
    (keep : ∀ s e s' o, Allowed e → Inv s → step s e = some (s', o) → Inv s' ∧ Ans o) :
    ∀ (es : List ε) (s s' : σ) (os : List ο), (∀ e ∈ es, Allowed e) → Inv s →
      runOut step s es = some (s', os) → ∀ o ∈ os, Ans o
  | [], s, s', os, _, _, ran => by
      rw [← (runOut_nil_eq_some ran).2]
      intro o mem
      cases mem
  | e :: es, s, s'', os', allowed, holds, ran => by
      obtain ⟨s', o, os, stepped, rest, rfl⟩ := runOut_cons_eq_some ran
      have now := keep s e s' o (allowed e List.mem_cons_self) holds stepped
      have later := runOut_answers Inv Allowed Ans keep es s' s'' os
        (fun e' mem => allowed e' (List.mem_cons_of_mem e mem)) now.1 rest
      intro o' mem
      rcases List.mem_cons.mp mem with rfl | mem
      · exact now.2
      · exact later o' mem

theorem runOut_simulation_allowed {stepC : σ → ε → Option (σ × ο)}
    {stepA : τ → ε → Option (τ × ο)} (R : σ → τ → Prop) (Inv : τ → Prop) (Allowed : ε → Prop)
    (keep : ∀ t e t' o, Allowed e → Inv t → stepA t e = some (t', o) → Inv t')
    (matched : ∀ s t e s' o, Allowed e → Inv t → R s t → stepC s e = some (s', o) →
      ∃ t', stepA t e = some (t', o) ∧ R s' t') :
    ∀ (es : List ε) (s s' : σ) (os : List ο) (t : τ), (∀ e ∈ es, Allowed e) → Inv t → R s t →
      runOut stepC s es = some (s', os) → ∃ t', runOut stepA t es = some (t', os) ∧ R s' t' ∧ Inv t'
  | [], s, s', os, t, _, holds, related, ran => by
      obtain ⟨rfl, rfl⟩ := runOut_nil_eq_some ran
      exact ⟨t, rfl, related, holds⟩
  | e :: es, s, s'', os', t, allowed, holds, related, ran => by
      obtain ⟨s', o, os, stepped, rest, rfl⟩ := runOut_cons_eq_some ran
      have now := allowed e List.mem_cons_self
      obtain ⟨t', steppedA, related'⟩ := matched s t e s' o now holds related stepped
      obtain ⟨t'', ranA, related'', holds''⟩ := runOut_simulation_allowed R Inv Allowed keep matched
        es s' s'' os t' (fun e' mem => allowed e' (List.mem_cons_of_mem e mem))
        (keep t e t' o now holds steppedA) related' rest
      refine ⟨t'', ?_, related'', holds''⟩
      simp only [runOut, steppedA, Option.bind_some, ranA, Option.map_some]

theorem runOut_simulation {stepC : σ → ε → Option (σ × ο)} {stepA : τ → ε → Option (τ × ο)}
    (R : σ → τ → Prop) (Inv : τ → Prop)
    (keep : ∀ t e t' o, Inv t → stepA t e = some (t', o) → Inv t')
    (matched : ∀ s t e s' o, Inv t → R s t → stepC s e = some (s', o) →
      ∃ t', stepA t e = some (t', o) ∧ R s' t')
    (es : List ε) (s s' : σ) (os : List ο) (t : τ) (holds : Inv t) (related : R s t)
    (ran : runOut stepC s es = some (s', os)) :
    ∃ t', runOut stepA t es = some (t', os) ∧ R s' t' ∧ Inv t' :=
  runOut_simulation_allowed R Inv (fun _ => True) (fun t e t' o _ => keep t e t' o)
    (fun s t e s' o _ => matched s t e s' o) es s s' os t (fun _ _ => trivial) holds related ran

/-- The runs a relational specification allows, from a state through the events to a state, with
the answers: each step is one that `spec` relates. -/
inductive Allows (spec : τ → ε → τ → ο → Prop) : τ → List ε → τ → List ο → Prop
  | nil (t : τ) : Allows spec t [] t []
  | cons {t t' t'' : τ} {e : ε} {es : List ε} {o : ο} {os : List ο} :
      spec t e t' o → Allows spec t' es t'' os → Allows spec t (e :: es) t'' (o :: os)

theorem runOut_refines (spec : τ → ε → τ → ο → Prop)
    (R : σ → τ → Prop) (Inv : σ → Prop) (Allowed : ε → Prop)
    (keep : ∀ s e s' o, Allowed e → Inv s → step s e = some (s', o) → Inv s')
    (matched : ∀ s t e s' o, Allowed e → Inv s → R s t → step s e = some (s', o) →
      ∃ t', spec t e t' o ∧ R s' t') :
    ∀ (es : List ε) (s s' : σ) (os : List ο) (t : τ), (∀ e ∈ es, Allowed e) → Inv s → R s t →
      runOut step s es = some (s', os) → ∃ t', Allows spec t es t' os ∧ R s' t' ∧ Inv s'
  | [], s, s', os, t, _, holds, related, ran => by
      obtain ⟨rfl, rfl⟩ := runOut_nil_eq_some ran
      exact ⟨t, Allows.nil t, related, holds⟩
  | e :: es, s, s'', os', t, allowed, holds, related, ran => by
      obtain ⟨s', o, os, stepped, rest, rfl⟩ := runOut_cons_eq_some ran
      have now := allowed e List.mem_cons_self
      obtain ⟨t', specified, related'⟩ := matched s t e s' o now holds related stepped
      obtain ⟨t'', later, related'', holds''⟩ := runOut_refines spec R Inv Allowed keep matched
        es s' s'' os t' (fun e' mem => allowed e' (List.mem_cons_of_mem e mem))
        (keep s e s' o now holds stepped) related' rest
      exact ⟨t'', Allows.cons specified later, related'', holds''⟩

theorem runOut_balance_allowed {M : Type} [AddCommMonoid M]
    (f : σ → M) (gain loss : ε → ο → M) (Inv : σ → Prop) (Allowed : ε → Prop)
    (keep : ∀ s e s' o, Allowed e → Inv s → step s e = some (s', o) → Inv s')
    (moves : ∀ s e s' o, Allowed e → Inv s → step s e = some (s', o) → f s' + loss e o = f s + gain e o) :
    ∀ (es : List ε) (s s' : σ) (os : List ο), (∀ e ∈ es, Allowed e) → Inv s →
      runOut step s es = some (s', os) →
      f s' + ((es.zip os).map fun p => loss p.1 p.2).sum =
        f s + ((es.zip os).map fun p => gain p.1 p.2).sum
  | [], s, s', os, _, _, ran => by
      obtain ⟨rfl, rfl⟩ := runOut_nil_eq_some ran
      rfl
  | e :: es, s, s'', os', allowed, holds, ran => by
      obtain ⟨s', o, os, stepped, rest, rfl⟩ := runOut_cons_eq_some ran
      have here := allowed e List.mem_cons_self
      have now := moves s e s' o here holds stepped
      have later := runOut_balance_allowed f gain loss Inv Allowed keep moves es s' s'' os
        (fun e' mem => allowed e' (List.mem_cons_of_mem e mem)) (keep s e s' o here holds stepped) rest
      simp only [List.zip_cons_cons, List.map_cons, List.sum_cons]
      calc f s'' + (loss e o + ((es.zip os).map fun p => loss p.1 p.2).sum)
          = (f s'' + ((es.zip os).map fun p => loss p.1 p.2).sum) + loss e o := by
            rw [add_comm (loss e o), add_assoc]
        _ = (f s' + loss e o) + ((es.zip os).map fun p => gain p.1 p.2).sum := by
            rw [later, add_right_comm]
        _ = f s + (gain e o + ((es.zip os).map fun p => gain p.1 p.2).sum) := by
            rw [now, add_assoc]

theorem runOut_balance {M : Type} [AddCommMonoid M]
    (f : σ → M) (gain loss : ε → ο → M) (Inv : σ → Prop)
    (keep : ∀ s e s' o, Inv s → step s e = some (s', o) → Inv s')
    (moves : ∀ s e s' o, Inv s → step s e = some (s', o) → f s' + loss e o = f s + gain e o)
    (es : List ε) (s s' : σ) (os : List ο) (holds : Inv s) (ran : runOut step s es = some (s', os)) :
    f s' + ((es.zip os).map fun p => loss p.1 p.2).sum =
      f s + ((es.zip os).map fun p => gain p.1 p.2).sum :=
  runOut_balance_allowed f gain loss Inv (fun _ => True) (fun s e s' o _ => keep s e s' o)
    (fun s e s' o _ => moves s e s' o) es s s' os (fun _ _ => trivial) holds ran

theorem runOut_queue {α : Type} (f : σ → List α)
    (into out : ε → ο → List α) (Inv : σ → Prop)
    (keep : ∀ s e s' o, Inv s → step s e = some (s', o) → Inv s')
    (moves : ∀ s e s' o, Inv s → step s e = some (s', o) → out e o ++ f s' = f s ++ into e o) :
    ∀ (es : List ε) (s s' : σ) (os : List ο), Inv s → runOut step s es = some (s', os) →
      ((es.zip os).flatMap fun p => out p.1 p.2) ++ f s' =
        f s ++ (es.zip os).flatMap fun p => into p.1 p.2
  | [], s, s', os, _, ran => by
      obtain ⟨rfl, rfl⟩ := runOut_nil_eq_some ran
      simp
  | e :: es, s, s'', os', holds, ran => by
      obtain ⟨s', o, os, stepped, rest, rfl⟩ := runOut_cons_eq_some ran
      have now := moves s e s' o holds stepped
      have later := runOut_queue f into out Inv keep moves es s' s'' os
        (keep s e s' o holds stepped) rest
      simp only [List.zip_cons_cons, List.flatMap_cons, List.append_assoc]
      rw [later, ← List.append_assoc, now, List.append_assoc]

end Machine
