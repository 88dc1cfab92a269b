/-
# Lib.DoublyLinked -- intrusive doubly linked lists

An intrusive list keeps its links in its nodes: every node has a forward link
`flink` and a backward link `blink`, and a header `Queue` names the first and
the last node.  `Linked L q l` says that the links `L` and the header `q` lay
out the list `l`: consecutive nodes point at each other, the two ends point at
nothing, the header names the ends, and no node appears twice.  `Chain L p l n`
is the same for a stretch of a list, whose first node points back at `p` and
whose last node points on at `n`.

Two edits build every such list:

* `splice prev x next` links `x` in between `prev` and `next`; a missing
  `prev` makes `x` the head, a missing `next` makes it the tail;
* `unsplice x` links the neighbours of `x` to each other and clears the links of `x`.

The theorems say what the edits do to the list laid out, and how a walk along
the forward links reads it:

* `Linked.splice`: linking `x` in between the two halves of `l₁ ++ l₂` lays out
  `l₁ ++ x :: l₂`;
* `Linked.unsplice`: unlinking `x` from `l₁ ++ x :: l₂` lays out `l₁ ++ l₂`;
* `Chain.walk`: following `flink` while a test holds stops at the first node of
  the stretch that fails it, and `Chain.walk_split` reads that as a split of the stretch;
* `Linked.congr`: a list is laid out by any links that agree on its nodes, so
  edits elsewhere leave it alone (`splice_agree`, `Chain.splice_apart`);
* `SLinked`, a list linked one way, and `Linked.walk_pred`: the walk to the node whose
  `flink` is `x` stops at the node before `x`.
-/
import Mathlib.Data.List.Nodup

namespace DoublyLinked

set_option autoImplicit false

/-- The forward and the backward link of every node. -/
structure Links (α : Type) where
  flink : α → Option α
  blink : α → Option α

/-- A list header: its first and its last node. -/
structure Queue (α : Type) where
  head : Option α
  tail : Option α

variable {α : Type}

def Queue.empty : Queue α := ⟨none, none⟩

/-! ## Stretches of linked nodes -/

/-- The nodes of `l` are linked in order; the first points back at `p`, the last on at `n`. -/
def Chain (L : Links α) : Option α → List α → Option α → Prop
  | _, [], _ => True
  | p, a :: l, n => L.blink a = p ∧ L.flink a = l.head?.or n ∧ Chain L (some a) l n

instance Chain.decidable [DecidableEq α] (L : Links α) :
    (p : Option α) → (l : List α) → (n : Option α) → Decidable (Chain L p l n)
  | _, [], _ => isTrue trivial
  | p, a :: l, n =>
    have := Chain.decidable L (some a) l n
    inferInstanceAs (Decidable (L.blink a = p ∧ L.flink a = l.head?.or n ∧ Chain L (some a) l n))

/-- `L` and `q` lay out the list `l`. -/
structure Linked (L : Links α) (q : Queue α) (l : List α) : Prop where
  chain : Chain L none l none
  head : q.head = l.head?
  tail : q.tail = l.getLast?
  nodup : l.Nodup

variable {L L' : Links α}

@[simp] theorem chain_nil (p n : Option α) : Chain L p [] n := trivial

@[simp] theorem chain_cons (p n : Option α) (a : α) (l : List α) :
    Chain L p (a :: l) n ↔ L.blink a = p ∧ L.flink a = l.head?.or n ∧ Chain L (some a) l n :=
  Iff.rfl

/-- A stretch splits at any point: the first part points on at the second part's
head, the second points back at the first part's last node. -/
theorem chain_append (p n : Option α) (l₁ l₂ : List α) :
    Chain L p (l₁ ++ l₂) n ↔ Chain L p l₁ (l₂.head?.or n) ∧ Chain L (l₁.getLast?.or p) l₂ n := by
  induction l₁ generalizing p with
  | nil => simp
  | cons a l₁ ih =>
      rw [List.cons_append, chain_cons, chain_cons, ih, List.head?_append, Option.or_assoc]
      have last : (a :: l₁).getLast?.or p = l₁.getLast?.or (some a) := by
        rw [List.getLast?_cons]
        cases l₁.getLast? <;> rfl
      rw [last]
      tauto

theorem Chain.congr {p n : Option α} {l : List α} (h : Chain L p l n)
    (flinks : ∀ a ∈ l, L'.flink a = L.flink a) (blinks : ∀ a ∈ l, L'.blink a = L.blink a) :
    Chain L' p l n := by
  induction l generalizing p with
  | nil => trivial
  | cons a l ih =>
      obtain ⟨back, fwd, rest⟩ := h
      refine ⟨by rw [blinks a List.mem_cons_self, back], by rw [flinks a List.mem_cons_self, fwd],
        ih rest (fun b hb => flinks b (List.mem_cons_of_mem a hb))
          (fun b hb => blinks b (List.mem_cons_of_mem a hb))⟩

theorem Linked.congr {q : Queue α} {l : List α} (h : Linked L q l)
    (agree : ∀ a ∈ l, L'.flink a = L.flink a ∧ L'.blink a = L.blink a) : Linked L' q l :=
  ⟨h.chain.congr (fun a ha => (agree a ha).1) (fun a ha => (agree a ha).2), h.head, h.tail, h.nodup⟩

theorem Linked.blink_eq {q : Queue α} {l₁ l₂ : List α} {x : α} (h : Linked L q (l₁ ++ x :: l₂)) :
    L.blink x = l₁.getLast? := by
  have := ((chain_append _ _ _ _).mp h.chain).2
  simpa using this.1

theorem Linked.flink_eq {q : Queue α} {l₁ l₂ : List α} {x : α} (h : Linked L q (l₁ ++ x :: l₂)) :
    L.flink x = l₂.head? := by
  have := ((chain_append _ _ _ _).mp h.chain).2
  simpa using this.2.1

theorem Linked.not_mem {q : Queue α} {l₁ l₂ : List α} {x : α} (h : Linked L q (l₁ ++ x :: l₂)) :
    x ∉ l₁ ∧ x ∉ l₂ := by
  simpa [not_or] using (List.nodup_cons.mp (List.nodup_middle.mp h.nodup)).1

/-! ## Walking forward -/

/-- `for (c = start; c && test(c); c = c->flink);` visiting at most `fuel` nodes; `none`
when the fuel runs out first. -/
def Links.walk (L : Links α) (test : α → Bool) : Nat → Option α → Option (Option α)
  | _, none => some none
  | 0, some _ => none
  | fuel + 1, some c => if test c then L.walk test fuel (L.flink c) else some (some c)

theorem Chain.walk {p : Option α} {l : List α} (h : Chain L p l none) (test : α → Bool)
    {fuel : Nat} (enough : l.length ≤ fuel) :
    L.walk test fuel l.head? = some (l.find? fun a => !test a) := by
  induction l generalizing p fuel with
  | nil => cases fuel <;> rfl
  | cons a l ih =>
      obtain ⟨-, fwd, rest⟩ := h
      obtain ⟨fuel, rfl⟩ : ∃ f, fuel = f + 1 := ⟨fuel - 1, by simp at enough; omega⟩
      by_cases pass : test a
      · have : L.flink a = l.head? := by rw [fwd]; cases l.head? <;> rfl
        simp only [List.head?_cons, Links.walk, pass, ↓reduceIte, this, List.find?_cons,
          Bool.not_true]
        exact ih rest (by simpa using enough)
      · simp [Links.walk, pass]

theorem Chain.walk_split {p : Option α} {l : List α} (h : Chain L p l none) (test : α → Bool)
    {fuel : Nat} (enough : l.length ≤ fuel) :
    ∃ l₁ l₂, l = l₁ ++ l₂ ∧ (∀ a ∈ l₁, test a) ∧ (∀ a ∈ l₂.head?, test a = false) ∧
      L.walk test fuel l.head? = some l₂.head? := by
  rw [h.walk test enough]
  cases found : l.find? fun a => !test a with
  | none =>
      refine ⟨l, [], by simp, fun a ha => ?_, by simp, rfl⟩
      simpa using List.find?_eq_none.mp found a ha
  | some c =>
      obtain ⟨stop, l₁, l₂, split, skip⟩ := List.find?_eq_some_iff_append.mp found
      exact ⟨l₁, c :: l₂, split, fun a ha => by simpa using skip a ha, by simpa using stop, rfl⟩

/-! ## Linking in and out -/

section Edits

variable [DecidableEq α]

def Links.setFlink (L : Links α) (a : α) (v : Option α) : Links α :=
  { L with flink := Function.update L.flink a v }

def Links.setBlink (L : Links α) (a : α) (v : Option α) : Links α :=
  { L with blink := Function.update L.blink a v }

@[simp] theorem flink_setFlink (a b : α) (v : Option α) :
    (L.setFlink a v).flink b = if b = a then v else L.flink b :=
  Function.update_apply _ _ _ _

@[simp] theorem blink_setFlink (a : α) (v : Option α) : (L.setFlink a v).blink = L.blink := rfl

@[simp] theorem flink_setBlink (a : α) (v : Option α) : (L.setBlink a v).flink = L.flink := rfl

@[simp] theorem blink_setBlink (a b : α) (v : Option α) :
    (L.setBlink a v).blink b = if b = a then v else L.blink b :=
  Function.update_apply _ _ _ _

theorem Chain.setFirst {p p' n : Option α} {l : List α} (h : Chain L p l n) (nodup : l.Nodup)
    (flinks : ∀ a ∈ l, L'.flink a = L.flink a)
    (blinks : ∀ a ∈ l, L'.blink a = if some a = l.head? then p' else L.blink a) :
    Chain L' p' l n := by
  cases l with
  | nil => trivial
  | cons a l =>
      obtain ⟨-, fwd, rest⟩ := h
      have others : ∀ b ∈ l, L'.blink b = L.blink b := by
        intro b hb
        have : b ≠ a := fun same => (List.nodup_cons.mp nodup).1 (same ▸ hb)
        simp [blinks b (List.mem_cons_of_mem a hb), this]
      refine ⟨by simp [blinks a List.mem_cons_self], by rw [flinks a List.mem_cons_self, fwd],
        rest.congr (fun b hb => flinks b (List.mem_cons_of_mem a hb)) others⟩

theorem Chain.setLast {p n n' : Option α} {l : List α} (h : Chain L p l n) (nodup : l.Nodup)
    (blinks : ∀ a ∈ l, L'.blink a = L.blink a)
    (flinks : ∀ a ∈ l, L'.flink a = if some a = l.getLast? then n' else L.flink a) :
    Chain L' p l n' := by
  induction l generalizing p with
  | nil => trivial
  | cons a l ih =>
      obtain ⟨back, fwd, rest⟩ := h
      obtain ⟨fresh, nodup⟩ := List.nodup_cons.mp nodup
      cases l with
      | nil => simp_all
      | cons b l =>
          -- the last node lies in the tail, so `a` keeps its forward link
          have last : (a :: b :: l).getLast? = (b :: l).getLast? := by simp [List.getLast?_cons]
          have notLast : some a ≠ (b :: l).getLast? := by
            intro same
            exact fresh (List.mem_of_getLast? same.symm)
          refine ⟨by rw [blinks a List.mem_cons_self, back], ?_, ?_⟩
          · rw [flinks a List.mem_cons_self, last, if_neg notLast, fwd]
            rfl
          · refine ih rest nodup (fun c hc => blinks c (List.mem_cons_of_mem a hc)) ?_
            intro c hc
            rw [flinks c (List.mem_cons_of_mem a hc), last]

/-- Link `x` in between `prev` and `next`: `x->flink = next; x->blink = prev;` then
`prev->flink = x` (the head becomes `x` when there is no `prev`) and `next->blink = x`
(the tail becomes `x` when there is no `next`). -/
def splice (prev : Option α) (x : α) (next : Option α) (L : Links α) (q : Queue α) :
    Links α × Queue α :=
  let L := (L.setFlink x next).setBlink x prev
  let (L, q) : Links α × Queue α :=
    match prev with
    | none => (L, { q with head := some x })
    | some p => (L.setFlink p (some x), q)
  match next with
  | none => (L, { q with tail := some x })
  | some n => (L.setBlink n (some x), q)

/-- Unlink `x`: its neighbours point at each other (the head or the tail moves when
`x` was at an end), and `x` points at nothing. -/
def unsplice (x : α) (L : Links α) (q : Queue α) : Links α × Queue α :=
  let prev := L.blink x
  let next := L.flink x
  let (L, q) : Links α × Queue α :=
    match prev with
    | none => (L, { q with head := next })
    | some p => (L.setFlink p next, q)
  let (L, q) : Links α × Queue α :=
    match next with
    | none => (L, { q with tail := prev })
    | some n => (L.setBlink n prev, q)
  ((L.setFlink x none).setBlink x none, q)

variable {prev next : Option α} {x : α} {q : Queue α}

theorem splice_flink (fresh : prev ≠ some x) (a : α) :
    (splice prev x next L q).1.flink a =
      if a = x then next else if some a = prev then some x else L.flink a := by
  cases prev <;> cases next <;> by_cases ax : a = x <;> simp_all [splice, eq_comm]

theorem splice_blink (fresh : next ≠ some x) (a : α) :
    (splice prev x next L q).1.blink a =
      if a = x then prev else if some a = next then some x else L.blink a := by
  cases prev <;> cases next <;> by_cases ax : a = x <;> simp_all [splice, eq_comm]

theorem splice_head : (splice prev x next L q).2.head = prev.elim (some x) fun _ => q.head := by
  cases prev <;> cases next <;> rfl

theorem splice_tail : (splice prev x next L q).2.tail = next.elim (some x) fun _ => q.tail := by
  cases prev <;> cases next <;> rfl

theorem splice_agree {a : α} (ax : a ≠ x) (ap : some a ≠ prev) (an : some a ≠ next) :
    (splice prev x next L q).1.flink a = L.flink a ∧ (splice prev x next L q).1.blink a = L.blink a := by
  cases prev <;> cases next <;> simp_all [splice, eq_comm]

theorem unsplice_flink (a : α) :
    (unsplice x L q).1.flink a =
      if a = x then none else if some a = L.blink x then L.flink x else L.flink a := by
  unfold unsplice
  cases L.blink x <;> cases L.flink x <;> by_cases ax : a = x <;> simp [ax]

theorem unsplice_blink (a : α) :
    (unsplice x L q).1.blink a =
      if a = x then none else if some a = L.flink x then L.blink x else L.blink a := by
  unfold unsplice
  cases L.blink x <;> cases L.flink x <;> by_cases ax : a = x <;> simp [ax]

theorem unsplice_head : (unsplice x L q).2.head = (L.blink x).elim (L.flink x) fun _ => q.head := by
  unfold unsplice
  cases L.blink x <;> cases L.flink x <;> rfl

theorem unsplice_tail : (unsplice x L q).2.tail = (L.flink x).elim (L.blink x) fun _ => q.tail := by
  unfold unsplice
  cases L.blink x <;> cases L.flink x <;> rfl

theorem Chain.splice_apart {p n : Option α} {m : List α} (h : Chain L p m n) (fresh : x ∉ m)
    (apart : ∀ a ∈ m, some a ≠ prev ∧ some a ≠ next) : Chain (splice prev x next L q).1 p m n := by
  have agree : ∀ a ∈ m, (splice prev x next L q).1.flink a = L.flink a ∧
      (splice prev x next L q).1.blink a = L.blink a := fun a ha =>
    splice_agree (fun same => fresh (same ▸ ha)) (apart a ha).1 (apart a ha).2
  exact h.congr (fun a ha => (agree a ha).1) (fun a ha => (agree a ha).2)

variable {l₁ l₂ : List α}

theorem Linked.splice (h : Linked L q (l₁ ++ l₂)) (fresh : x ∉ l₁ ++ l₂) :
    Linked (splice l₁.getLast? x l₂.head? L q).1 (splice l₁.getLast? x l₂.head? L q).2
      (l₁ ++ x :: l₂) := by
  obtain ⟨notLeft, notRight⟩ : x ∉ l₁ ∧ x ∉ l₂ := by simpa [not_or] using fresh
  have prevFresh : l₁.getLast? ≠ some x := fun same => notLeft (List.mem_of_getLast? same)
  have nextFresh : l₂.head? ≠ some x := fun same => notRight (List.mem_of_mem_head? same)
  have apart := List.disjoint_of_nodup_append h.nodup
  obtain ⟨nodup₁, nodup₂, -⟩ := List.nodup_append.mp h.nodup
  obtain ⟨left, right⟩ := (chain_append _ _ _ _).mp h.chain
  refine ⟨?_, ?_, ?_, List.nodup_middle.mpr (List.nodup_cons.mpr ⟨fresh, h.nodup⟩)⟩
  · rw [chain_append, chain_cons]
    refine ⟨left.setLast nodup₁ (fun a ha => ?_) (fun a ha => ?_), ?_, ?_, ?_⟩
    · -- a node of the first half is not the second half's head
      have : some a ≠ l₂.head? := fun same => apart ha (List.mem_of_mem_head? same.symm)
      have ax : a ≠ x := fun same => notLeft (same ▸ ha)
      simp [splice_blink nextFresh, ax, this]
    · have ax : a ≠ x := fun same => notLeft (same ▸ ha)
      simp [splice_flink prevFresh, ax, eq_comm]
    · simp [splice_blink nextFresh]
    · simp [splice_flink prevFresh]
    · refine right.setFirst nodup₂ (fun a ha => ?_) (fun a ha => ?_)
      · have : some a ≠ l₁.getLast? := fun same => apart (List.mem_of_getLast? same.symm) ha
        have ax : a ≠ x := fun same => notRight (same ▸ ha)
        simp [splice_flink prevFresh, ax, this]
      · have ax : a ≠ x := fun same => notRight (same ▸ ha)
        simp [splice_blink nextFresh, ax, eq_comm]
  · rw [splice_head, h.head]
    cases l₁ <;> simp [List.getLast?_cons]
  · rw [splice_tail, h.tail]
    cases l₂ <;> simp [List.getLast?_append, List.getLast?_cons]

theorem Linked.unsplice (h : Linked L q (l₁ ++ x :: l₂)) :
    Linked (unsplice x L q).1 (unsplice x L q).2 (l₁ ++ l₂) := by
  have back := h.blink_eq
  have fwd := h.flink_eq
  obtain ⟨notLeft, notRight⟩ := h.not_mem
  have nodup : (l₁ ++ l₂).Nodup := (List.nodup_cons.mp (List.nodup_middle.mp h.nodup)).2
  have apart := List.disjoint_of_nodup_append nodup
  obtain ⟨nodup₁, nodup₂, -⟩ := List.nodup_append.mp nodup
  obtain ⟨left, right⟩ := (chain_append _ _ _ _).mp h.chain
  obtain ⟨-, -, right⟩ := (chain_cons _ _ _ _).mp right
  refine ⟨?_, ?_, ?_, nodup⟩
  · rw [chain_append]
    refine ⟨left.setLast nodup₁ (fun a ha => ?_) (fun a ha => ?_),
      right.setFirst nodup₂ (fun a ha => ?_) (fun a ha => ?_)⟩
    · have : some a ≠ l₂.head? := fun same => apart ha (List.mem_of_mem_head? same.symm)
      have ax : a ≠ x := fun same => notLeft (same ▸ ha)
      simp [unsplice_blink, ax, fwd, this]
    · have ax : a ≠ x := fun same => notLeft (same ▸ ha)
      simp [unsplice_flink, ax, back, fwd, eq_comm]
    · have : some a ≠ l₁.getLast? := fun same => apart (List.mem_of_getLast? same.symm) ha
      have ax : a ≠ x := fun same => notRight (same ▸ ha)
      simp [unsplice_flink, ax, back, this]
    · have ax : a ≠ x := fun same => notRight (same ▸ ha)
      simp [unsplice_blink, ax, back, fwd, eq_comm]
  · rw [unsplice_head, back, fwd, h.head]
    cases l₁ <;> simp [List.getLast?_cons]
  · rw [unsplice_tail, back, fwd, h.tail]
    cases l₂ <;> simp [List.getLast?_append, List.getLast?_cons]

end Edits

/-! ## Lists linked one way -/

theorem Links.walk_flink (L : Links α) (back : α → Option α) (test : α → Bool) (fuel : Nat)
    (start : Option α) : Links.walk ⟨L.flink, back⟩ test fuel start = L.walk test fuel start := by
  induction fuel generalizing start with
  | zero => cases start <;> rfl
  | succ fuel ih => cases start <;> simp [Links.walk, ih]

/-- The forward links `flink` and the header `q` lay out `l`: as `Linked`, with back links
that the nodes need not store. -/
def SLinked (flink : α → Option α) (q : Queue α) (l : List α) : Prop :=
  ∃ blink, Linked ⟨flink, blink⟩ q l

variable {q : Queue α} {l l₁ l₂ : List α} {a x : α}

theorem Linked.sLinked (h : Linked L q l) : SLinked L.flink q l := ⟨L.blink, h⟩

theorem SLinked.congr {F F' : α → Option α} (h : SLinked F q l) (agree : ∀ a ∈ l, F' a = F a) :
    SLinked F' q l := by
  obtain ⟨B, h⟩ := h
  exact ⟨B, h.congr fun a ha => ⟨agree a ha, rfl⟩⟩

theorem Linked.ends (h : Linked L q l) : q.head = none ↔ q.tail = none := by
  simp [h.head, h.tail]

/-- The back links are the forward ones read backwards. -/
theorem Linked.blink_of_flink (h : Linked L q l) (ha : a ∈ l) (fwd : L.flink a = some x) :
    L.blink x = some a := by
  obtain ⟨m₁, m₂, rfl⟩ := List.append_of_mem ha
  obtain ⟨m₃, rfl⟩ : ∃ m₃, m₂ = x :: m₃ := by
    have : m₂.head? = some x := h.flink_eq.symm.trans fwd
    cases m₂ <;> simp_all
  simpa using (show Linked L q ((m₁ ++ [a]) ++ x :: m₃) by simpa using h).blink_eq

/-- A node points on at nothing exactly when it is the tail. -/
theorem Linked.flink_eq_none_iff (h : Linked L q l) (ha : a ∈ l) :
    L.flink a = none ↔ q.tail = some a := by
  obtain ⟨m₁, m₂, rfl⟩ := List.append_of_mem ha
  rw [h.flink_eq, h.tail]
  cases m₂ with
  | nil => simp
  | cons b m₂ =>
      -- the tail lies in `b :: m₂`, which does not hold `a`
      have last : (b :: m₂).getLast? ≠ some a := fun same =>
        h.not_mem.2 (List.mem_of_getLast? same)
      simp [List.getLast?_append, last]

/-- A node points back at nothing exactly when it is the head. -/
theorem Linked.blink_eq_none_iff (h : Linked L q l) (ha : a ∈ l) :
    L.blink a = none ↔ q.head = some a := by
  obtain ⟨m₁, m₂, rfl⟩ := List.append_of_mem ha
  rw [h.blink_eq, h.head]
  cases m₁ with
  | nil => simp
  | cons b m₁ =>
      -- the head is `b`, which is not `a`
      have first : b ≠ a := fun same => h.not_mem.1 (same ▸ List.mem_cons_self)
      simp [first]

theorem Linked.tail_ne (h : Linked L q l) (ha : a ∈ l) (fwd : L.flink a = some x) :
    q.tail ≠ some a := fun e => by simp [(h.flink_eq_none_iff ha).mpr e] at fwd

theorem Linked.head_ne (h : Linked L q l) (ha : a ∈ l) (back : L.blink a = some x) :
    q.head ≠ some a := fun e => by simp [(h.blink_eq_none_iff ha).mpr e] at back

variable [DecidableEq α]

/-- The first node whose `flink` is `x` is the one before `x`. -/
theorem Linked.find_pred (h : Linked L q (l₁ ++ x :: l₂)) :
    (l₁ ++ x :: l₂).find? (fun c => !decide (L.flink c ≠ some x)) = l₁.getLast? := by
  cases found : (l₁ ++ x :: l₂).find? (fun c => !decide (L.flink c ≠ some x)) with
  | none =>
      cases last : l₁.getLast? with
      | none => rfl
      | some a =>
          -- the last node of `l₁` points at `x`, so the search cannot miss it
          obtain ⟨m, rfl⟩ := List.getLast?_eq_some_iff.mp last
          have fwd : L.flink a = some x := by
            simpa using (show Linked L q (m ++ a :: x :: l₂) by simpa using h).flink_eq
          simpa [fwd] using List.find?_eq_none.mp found a (by simp)
  | some c =>
      have fwd : L.flink c = some x := by simpa using List.find?_some found
      rw [← h.blink_eq, h.blink_of_flink (List.mem_of_find?_eq_some found) fwd]

theorem Linked.walk_pred (h : Linked L q (l₁ ++ x :: l₂)) (back : α → Option α) {fuel : Nat}
    (enough : (l₁ ++ x :: l₂).length ≤ fuel) :
    Links.walk ⟨L.flink, back⟩ (fun c => decide (L.flink c ≠ some x)) fuel q.head =
      some l₁.getLast? := by
  rw [Links.walk_flink, h.head, h.chain.walk _ enough, h.find_pred]

end DoublyLinked
