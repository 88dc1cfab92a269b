/-
# Lib.LinkedTree -- trees linked through first-child and next-peer pointers

A tree kept in a heap as records at addresses, each with a pointer to its first
child and a pointer to its next peer, is read through `Rep heap ptr t`: from the
pointer `ptr`, following the links of `heap` traces out the `Shape` `t`, which
lists the addresses met. The shape is finite, so every list of peers it traces
is acyclic; two lists that share a node make an address appear twice, and
`t.addrs.Nodup` says that there is no such sharing.

`Rep.congr` carries the heap edits: a shape is traced alike by any heap that
agrees on its addresses, so a write elsewhere leaves it alone.
-/
import Mathlib.Data.List.Nodup

namespace LinkedTree

set_option autoImplicit false

/-- The shape of a tree of addressed nodes, each with a first child and a next peer. -/
inductive Shape where
  | nil
  | node (addr : Nat) (child peer : Shape)
  deriving DecidableEq, Repr

namespace Shape

/-- The addresses of the nodes, each node before its child and peer shapes. -/
def addrs : Shape → List Nat
  | nil => []
  | node a c p => a :: (c.addrs ++ p.addrs)

def head : Shape → Option Nat
  | nil => none
  | node a _ _ => some a

def size : Shape → Nat
  | nil => 0
  | node _ c p => c.size + p.size + 1

@[simp] theorem addrs_nil : nil.addrs = [] := rfl

@[simp] theorem addrs_node (a : Nat) (c p : Shape) :
    (node a c p).addrs = a :: (c.addrs ++ p.addrs) := rfl

@[simp] theorem size_nil : nil.size = 0 := rfl

@[simp] theorem size_node (a : Nat) (c p : Shape) : (node a c p).size = c.size + p.size + 1 := rfl

theorem forall_mem_node {P : Nat → Prop} {a : Nat} {c p : Shape} :
    (∀ b ∈ (node a c p).addrs, P b) ↔ P a ∧ (∀ b ∈ c.addrs, P b) ∧ ∀ b ∈ p.addrs, P b := by
  simp [or_imp, forall_and]

/-- The nodes of the list of peers that starts at the head of the shape. -/
def peers : Shape → List Nat
  | nil => []
  | node a _ p => a :: p.peers

/-- The shape of the children of node `b`, wherever it stands in the tree. -/
def childrenOf (b : Nat) : Shape → Option Shape
  | nil => none
  | node a c p => if a = b then some c else (c.childrenOf b).or (p.childrenOf b)

/-- The list a pointer heads: the top list for no node, else the children of the node. -/
def listUnder (t : Shape) : Option Nat → Option Shape
  | none => some t
  | some b => t.childrenOf b

theorem mem_addrs_of_mem_peers {b : Nat} : ∀ {t : Shape}, b ∈ t.peers → b ∈ t.addrs
  | nil, mem => nomatch mem
  | node a c p, mem => by
    rcases List.mem_cons.1 mem with rfl | later
    · simp
    · simp [mem_addrs_of_mem_peers later]

theorem childrenOf_eq_none {b : Nat} : ∀ {t : Shape}, b ∉ t.addrs → t.childrenOf b = none
  | nil, _ => rfl
  | node a c p, out => by
    simp only [addrs_node, List.mem_cons, List.mem_append, not_or] at out
    simp [childrenOf, Ne.symm out.1, childrenOf_eq_none out.2.1, childrenOf_eq_none out.2.2]

/-- The addresses of a node without repeats: its own is not below it, and its child
and peer shapes share none. -/
theorem nodup_node {a : Nat} {c p : Shape} (h : (node a c p).addrs.Nodup) :
    a ∉ c.addrs ∧ a ∉ p.addrs ∧ c.addrs.Nodup ∧ p.addrs.Nodup ∧ ∀ b ∈ c.addrs, b ∉ p.addrs := by
  simp only [addrs_node, List.nodup_cons, List.mem_append, not_or, List.nodup_append] at h
  obtain ⟨⟨notC, notP⟩, nodupC, nodupP, apart⟩ := h
  exact ⟨notC, notP, nodupC, nodupP, fun b inC inP => apart b inC b inP rfl⟩

end Shape

section Rep

variable {α : Type} (child peer : α → Option Nat)

/-- From `ptr`, the `child` and `peer` links of `heap` trace out the shape `t`. -/
inductive Rep (heap : Nat → Option α) : Option Nat → Shape → Prop where
  | nil : Rep heap none .nil
  | node {a : Nat} {x : α} {c p : Shape} :
      heap a = some x → Rep heap (child x) c → Rep heap (peer x) p →
      Rep heap (some a) (.node a c p)

variable {child peer}
variable {heap : Nat → Option α} {ptr : Option Nat} {t : Shape}

theorem Rep.congr {heap' : Nat → Option α}
    (h : Rep child peer heap ptr t) (agree : ∀ a ∈ t.addrs, heap' a = heap a) :
    Rep child peer heap' ptr t := by
  induction h with
  | nil => exact .nil
  | @node a x c p hx _ _ ihc ihp =>
    obtain ⟨agreeA, agreeC, agreeP⟩ := Shape.forall_mem_node.1 agree
    exact .node (by rw [agreeA, hx]) (ihc agreeC) (ihp agreeP)

theorem Rep.ptr_eq_head
    (h : Rep child peer heap ptr t) : ptr = t.head := by
  cases h <;> rfl

theorem Rep.isSome_of_mem
    (h : Rep child peer heap ptr t) {a : Nat} (mem : a ∈ t.addrs) : (heap a).isSome := by
  induction h with
  | nil => cases mem
  | @node b x c p hx _ _ ihc ihp =>
    simp only [Shape.addrs_node, List.mem_cons, List.mem_append] at mem
    rcases mem with rfl | mem | mem
    · rw [hx]; rfl
    · exact ihc mem
    · exact ihp mem

end Rep

end LinkedTree
