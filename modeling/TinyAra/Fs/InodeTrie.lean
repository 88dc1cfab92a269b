/-
# Fs.InodeTrie -- `inode_reserve` and `inode_unlink` keep the tree an ordered trie

The heap edits of fs_inodereserve.c and fs_inoderemove.c, read through
`Fs.InodeTree`. Both rewrite one pointer, the `Slot` that `*peer` and `*parent`
name after `inode_search`: `root_inode`, or the `i_child` or the `i_peer` of an
inode.  `inode_insert` points it at a fresh inode whose `i_peer` takes its old
value; `inode_unlink` points it past the node found.

On a well-formed tree (`WellFormed`: the links trace a shape from `root_inode`, no
inode on two lists, every list sorted, every inode below the next free address):

* `rep_graft`: the heap `inode_reserve` leaves traces `graft`;
* `rep_prune`: the heap `inode_unlink` leaves traces `prune`;

and the lemmas of `Fs.InodeTree` about those shapes give what the calls do to the
paths of the tree.
-/
import TinyAra.Fs.InodeTree

namespace TinyAra.Fs.Inode

open LinkedTree

set_option autoImplicit false

/-- A pointer of the tree: `root_inode`, or the `i_child` or the `i_peer` of an inode. -/
inductive Slot where
  | root
  | child (q : Nat)
  | peer (p : Nat)
  deriving DecidableEq, Repr

/-- The pointer `inode_insert` and `inode_unlink` rewrite for the `*peer` and
`*parent` that `inode_search` leaves. -/
def Slot.of : Option Nat → Option Nat → Slot
  | some p, _ => .peer p
  | none, some q => .child q
  | none, none => .root

def Slot.owner : Slot → Option Nat
  | .root => none
  | .child q => some q
  | .peer p => some p

namespace Pseudofs

/-- The value of a pointer. -/
def read (fs : Pseudofs) : Slot → Option Nat
  | .root => fs.root
  | .child q => fs.childOf q
  | .peer p => fs.peerOf p

def set (fs : Pseudofs) : Slot → Option Nat → Pseudofs
  | .root, v => { fs with root := v }
  | .child q, v => fs.modify q fun x => { x with child := v }
  | .peer p, v => fs.modify p fun x => { x with peer := v }

theorem heap_modify (fs : Pseudofs) (a : Nat) (f : Inode → Inode) :
    (fs.modify a f).heap = Function.update fs.heap a ((fs.heap a).map f) := by
  unfold modify
  split
  · rename_i x hx
    simp [write, hx]
  · rename_i hx
    simp [hx]

@[simp] theorem root_modify (fs : Pseudofs) (a : Nat) (f : Inode → Inode) :
    (fs.modify a f).root = fs.root := by
  unfold modify
  split <;> rfl

@[simp] theorem next_modify (fs : Pseudofs) (a : Nat) (f : Inode → Inode) :
    (fs.modify a f).next = fs.next := by
  unfold modify
  split <;> rfl

@[simp] theorem next_set (fs : Pseudofs) (s : Slot) (v : Option Nat) : (fs.set s v).next = fs.next := by
  cases s <;> simp [set]

theorem bind_heap_modify {β : Type} {fs : Pseudofs} {a : Nat} (f : Inode → Inode)
    (g : Inode → Option β) (keep : ∀ x, g (f x) = g x) (b : Nat) :
    ((fs.modify a f).heap b).bind g = (fs.heap b).bind g := by
  rw [heap_modify, Function.update_apply]
  split_ifs with h
  · subst h
    cases fs.heap b <;> simp [keep]
  · rfl

theorem map_heap_modify {β : Type} {fs : Pseudofs} {a : Nat} (f : Inode → Inode)
    (g : Inode → β) (keep : ∀ x, g (f x) = g x) (b : Nat) :
    ((fs.modify a f).heap b).map g = (fs.heap b).map g := by
  rw [heap_modify, Function.update_apply]
  split_ifs with h
  · subst h
    cases fs.heap b <;> simp [keep]
  · rfl

theorem bind_heap_modify_of_ne {β : Type} {fs : Pseudofs} {a b : Nat} {f : Inode → Inode}
    (g : Inode → Option β) (ne : b ≠ a) : ((fs.modify a f).heap b).bind g = (fs.heap b).bind g := by
  rw [heap_modify, Function.update_apply, if_neg ne]

theorem read_set_self {fs : Pseudofs} {s : Slot} (v : Option Nat)
    (held : ∀ o, s.owner = some o → (fs.heap o).isSome) : (fs.set s v).read s = v := by
  cases s with
  | root => rfl
  | child q =>
    obtain ⟨x, hx⟩ := Option.isSome_iff_exists.1 (held q rfl)
    simp [set, read, childOf, heap_modify, hx]
  | peer p =>
    obtain ⟨x, hx⟩ := Option.isSome_iff_exists.1 (held p rfl)
    simp [set, read, peerOf, heap_modify, hx]

theorem read_set_of_ne {fs : Pseudofs} {s s' : Slot} (v : Option Nat) (ne : s ≠ s') :
    (fs.set s v).read s' = fs.read s' := by
  cases s with
  | root =>
    cases s' with
    | root => exact absurd rfl ne
    | child b => rfl
    | peer b => rfl
  | child q =>
    cases s' with
    | root => exact root_modify ..
    | child b => exact bind_heap_modify_of_ne _ (fun h => ne (h ▸ rfl))
    | peer b => exact bind_heap_modify (fun x => { x with child := v }) Inode.peer (fun _ => rfl) b
  | peer p =>
    cases s' with
    | root => exact root_modify ..
    | child b => exact bind_heap_modify (fun x => { x with peer := v }) Inode.child (fun _ => rfl) b
    | peer b => exact bind_heap_modify_of_ne _ (fun h => ne (h ▸ rfl))

theorem heap_set_of_ne {fs : Pseudofs} {s : Slot} (v : Option Nat) {b : Nat}
    (ne : ∀ o, s.owner = some o → b ≠ o) : (fs.set s v).heap b = fs.heap b := by
  cases s with
  | root => rfl
  | child q => simp [set, heap_modify, ne q rfl]
  | peer p => simp [set, heap_modify, ne p rfl]

theorem heap_set_congr {fs fs' : Pseudofs} (s : Slot) (v : Option Nat) {b : Nat}
    (same : fs.heap b = fs'.heap b) : (fs.set s v).heap b = (fs'.set s v).heap b := by
  cases s with
  | root => exact same
  | child q =>
    simp only [set, heap_modify, Function.update_apply]
    split_ifs with h
    · subst h
      rw [same]
    · exact same
  | peer p =>
    simp only [set, heap_modify, Function.update_apply]
    split_ifs with h
    · subst h
      rw [same]
    · exact same

theorem root_set_congr {fs fs' : Pseudofs} (s : Slot) (v : Option Nat) (same : fs.root = fs'.root) :
    (fs.set s v).root = (fs'.set s v).root := by
  cases s <;> simp [set, same]

theorem read_congr {fs fs' : Pseudofs} {s : Slot} (sameRoot : fs.root = fs'.root)
    (same : ∀ o, s.owner = some o → fs.heap o = fs'.heap o) : fs.read s = fs'.read s := by
  cases s with
  | root => exact sameRoot
  | child q => simp [read, childOf, same q rfl]
  | peer p => simp [read, peerOf, same p rfl]

@[simp] theorem nameOf_set (fs : Pseudofs) (s : Slot) (v : Option Nat) :
    nameOf (fs.set s v).heap = nameOf fs.heap := by
  funext b
  cases s with
  | root => rfl
  | child q =>
    simp only [nameOf, set, map_heap_modify (fun x => { x with child := v }) Inode.name (fun _ => rfl)]
  | peer p =>
    simp only [nameOf, set, map_heap_modify (fun x => { x with peer := v }) Inode.name (fun _ => rfl)]

@[simp] theorem mountOf_set (fs : Pseudofs) (s : Slot) (v : Option Nat) :
    mountOf (fs.set s v).heap = mountOf fs.heap := by
  funext b
  cases s with
  | root => rfl
  | child q =>
    simp only [mountOf, set, map_heap_modify (fun x => { x with child := v }) inodeIsMountpt (fun _ => rfl)]
  | peer p =>
    simp only [mountOf, set, map_heap_modify (fun x => { x with peer := v }) inodeIsMountpt (fun _ => rfl)]

end Pseudofs

open Pseudofs

/-- `inode_insert` rewrites the slot `*peer`/`*parent` name, and gives the new node
its old value. -/
theorem inodeInsert_eq (fs : Pseudofs) (node : Nat) (left above : Option Nat) :
    inodeInsert fs node left above =
      (fs.modify node fun x => { x with peer := fs.read (Slot.of left above) }).set
        (Slot.of left above) (some node) := by
  cases left <;> cases above <;> rfl

theorem Pseudofs.isSome_heap_set (fs : Pseudofs) (s : Slot) (v : Option Nat) (b : Nat) :
    ((fs.set s v).heap b).isSome = (fs.heap b).isSome := by
  cases s with
  | root => rfl
  | child q | peer q =>
    rw [set, heap_modify, Function.update_apply]
    split_ifs with h
    · subst h
      cases fs.heap b <;> rfl
    · rfl

/-- A node of the traced shape: its record is in the heap and its two pointers
trace its child and peer shapes. -/
theorem Pseudofs.rep_node {fs : Pseudofs} {a : Nat} {c p : Shape} :
    Rep Inode.child Inode.peer fs.heap (some a) (.node a c p) ↔
      (fs.heap a).isSome ∧ Rep Inode.child Inode.peer fs.heap (fs.read (.child a)) c ∧
        Rep Inode.child Inode.peer fs.heap (fs.read (.peer a)) p := by
  constructor
  · intro h
    cases h with
    | node hx hc hp =>
      simp only [read, childOf, peerOf, hx, Option.isSome_some, Option.bind_some]
      exact ⟨trivial, hc, hp⟩
  · rintro ⟨held, hc, hp⟩
    obtain ⟨x, hx⟩ := Option.isSome_iff_exists.1 held
    simp only [read, childOf, peerOf, hx, Option.bind_some] at hc hp
    exact .node hx hc hp

/-! ## One pointer rewritten -/

/-- The slot a walk enters a shape by belongs to no node of the shape, and its
owner is an inode of the tree below the next free address. -/
def Outside (fs : Pseudofs) (t : Shape) (s : Slot) : Prop :=
  ∀ o, s.owner = some o → o ∉ t.addrs ∧ o < fs.next ∧ (fs.heap o).isSome

theorem Outside.ne {fs : Pseudofs} {t : Shape} {s stop : Slot} (out : Outside fs t s)
    (inside : ∃ b ∈ t.addrs, stop.owner = some b) : stop ≠ s := by
  obtain ⟨b, mem, owner⟩ := inside
  rintro rfl
  exact (out b owner).1 mem

/-- A stop at one of a node's pointers, or owned by a node below it, is owned by a node
of the shape. -/
theorem owner_mem_of_stop {stop σ : Slot} {a : Nat} {u t : Shape} (hσ : σ.owner = some a)
    (ha : a ∈ t.addrs) (sub : ∀ b ∈ u.addrs, b ∈ t.addrs)
    (stopIn : stop = σ ∨ ∃ b ∈ u.addrs, stop.owner = some b) :
    ∃ b ∈ t.addrs, stop.owner = some b := by
  rcases stopIn with rfl | ⟨b, mem, owner⟩
  · exact ⟨a, ha, hσ⟩
  · exact ⟨b, sub b mem, owner⟩

/-- `fs'` is `fs` with the pointer `stop` set to `v`, on the inodes `keep` holds of. -/
structure Rewrites (fs fs' : Pseudofs) (stop : Slot) (v : Option Nat) (keep : Nat → Prop) : Prop where
  heap : ∀ b, keep b → fs'.heap b = (fs.set stop v).heap b
  root : fs'.root = (fs.set stop v).root

namespace Rewrites

variable {fs fs' : Pseudofs} {stop : Slot} {v : Option Nat} {keep : Nat → Prop}

theorem read_of_ne (rw : Rewrites fs fs' stop v keep) {s : Slot} (ne : stop ≠ s)
    (kept : ∀ o, s.owner = some o → keep o) : fs'.read s = fs.read s := by
  rw [read_congr rw.root (fun o h => rw.heap o (kept o h)), read_set_of_ne v ne]

theorem read_self (rw : Rewrites fs fs' stop v keep)
    (kept : ∀ o, stop.owner = some o → keep o ∧ (fs.heap o).isSome) : fs'.read stop = v := by
  rw [read_congr rw.root (fun o h => rw.heap o (kept o h).1), read_set_self v (fun o h => (kept o h).2)]

theorem isSome_heap (rw : Rewrites fs fs' stop v keep) {b : Nat} (kb : keep b)
    (held : (fs.heap b).isSome) : (fs'.heap b).isSome := by
  rw [rw.heap b kb, isSome_heap_set, held]

theorem nameOf_eq (rw : Rewrites fs fs' stop v keep) {b : Nat} (kb : keep b) :
    nameOf fs'.heap b = nameOf fs.heap b := by
  show ((fs'.heap b).map Inode.name).getD [] = _
  rw [rw.heap b kb]
  exact congrFun (nameOf_set fs stop v) b

theorem mountOf_eq (rw : Rewrites fs fs' stop v keep) {b : Nat} (kb : keep b) :
    mountOf fs'.heap b = mountOf fs.heap b := by
  show ((fs'.heap b).map inodeIsMountpt).getD false = _
  rw [rw.heap b kb]
  exact congrFun (mountOf_set fs stop v) b

/-- A shape none of whose nodes owns the pointer is traced alike. -/
theorem rep (rw : Rewrites fs fs' stop v keep) {ptr : Option Nat} {t : Shape}
    (h : Rep Inode.child Inode.peer fs.heap ptr t)
    (kept : ∀ b ∈ t.addrs, keep b ∧ ∀ o, stop.owner = some o → b ≠ o) :
    Rep Inode.child Inode.peer fs'.heap ptr t :=
  Rep.congr h fun b hb => by rw [rw.heap b (kept b hb).1, heap_set_of_ne v (kept b hb).2]

theorem rep_node_peer (rw : Rewrites fs fs' stop v keep) {a : Nat} {c p p' : Shape}
    (h : Rep Inode.child Inode.peer fs.heap (some a) (.node a c p))
    (nodup : (Shape.node a c p).addrs.Nodup) (keepA : keep a) (keepC : ∀ b ∈ c.addrs, keep b)
    (stopIn : stop = .peer a ∨ ∃ b ∈ p.addrs, stop.owner = some b)
    (hp : Rep Inode.child Inode.peer fs'.heap (fs'.read (.peer a)) p') :
    Rep Inode.child Inode.peer fs'.heap (some a) (.node a c p') := by
  obtain ⟨held, hc, _⟩ := rep_node.1 h
  obtain ⟨notC, notP, _, _, apart⟩ := Shape.nodup_node nodup
  have stopNe : stop ≠ .child a := by
    rcases stopIn with rfl | ⟨b, mem, owner⟩
    · simp
    · rintro rfl
      cases owner
      exact notP mem
  refine rep_node.2 ⟨rw.isSome_heap keepA held, ?_, hp⟩
  rw [rw.read_of_ne stopNe (fun o ho => by cases ho; exact keepA)]
  refine rw.rep hc (fun b hb => ⟨keepC b hb, fun o ho same => ?_⟩)
  subst same
  rcases stopIn with rfl | ⟨b', mem, owner⟩
  · cases ho
    exact notC hb
  · rw [owner] at ho
    cases ho
    exact apart b hb mem

theorem rep_node_child (rw : Rewrites fs fs' stop v keep) {a : Nat} {c p c' : Shape}
    (h : Rep Inode.child Inode.peer fs.heap (some a) (.node a c p))
    (nodup : (Shape.node a c p).addrs.Nodup) (keepA : keep a) (keepP : ∀ b ∈ p.addrs, keep b)
    (stopIn : stop = .child a ∨ ∃ b ∈ c.addrs, stop.owner = some b)
    (hc : Rep Inode.child Inode.peer fs'.heap (fs'.read (.child a)) c') :
    Rep Inode.child Inode.peer fs'.heap (some a) (.node a c' p) := by
  obtain ⟨held, _, hp⟩ := rep_node.1 h
  obtain ⟨notC, notP, _, _, apart⟩ := Shape.nodup_node nodup
  have stopNe : stop ≠ .peer a := by
    rcases stopIn with rfl | ⟨b, mem, owner⟩
    · simp
    · rintro rfl
      cases owner
      exact notC mem
  refine rep_node.2 ⟨rw.isSome_heap keepA held, hc, ?_⟩
  rw [rw.read_of_ne stopNe (fun o ho => by cases ho; exact keepA)]
  refine rw.rep hp (fun b hb => ⟨keepP b hb, fun o ho same => ?_⟩)
  subst same
  rcases stopIn with rfl | ⟨b', mem, owner⟩
  · cases ho
    exact notP hb
  · rw [owner] at ho
    cases ho
    exact apart b mem hb

end Rewrites

/-! ## Where the search stops -/

section Walks

variable (nm : Nat → List Char) (mt : Nat → Bool)

theorem find_slot : ∀ (t : Shape) (name : List Char) (left above : Option Nat),
    Slot.of (find nm mt t name left above).peer (find nm mt t name left above).parent =
        Slot.of left above ∨
      ∃ b ∈ t.addrs,
        (Slot.of (find nm mt t name left above).peer (find nm mt t name left above).parent).owner =
          some b
  | .nil, _, _, _ => Or.inl rfl
  | .node a c p, name, left, above => by
    rcases inodeNamecpy_trichotomy name (nm a) with e | lt | gt
    · rw [find_node_of_eq e]
      by_cases stop : inodeNextname name = [] ∨ mt a
      · rw [if_pos stop]
        exact Or.inl rfl
      · rw [if_neg stop]
        rcases find_slot c (inodeNextname name) none (some a) with here | ⟨b, mem, owner⟩
        · exact Or.inr ⟨a, by simp, by rw [here]; rfl⟩
        · exact Or.inr ⟨b, by simp [mem], owner⟩
    · rw [find_node_of_lt lt]
      exact Or.inl rfl
    · rw [find_node_of_gt gt]
      rcases find_slot p name (some a) above with here | ⟨b, mem, owner⟩
      · exact Or.inr ⟨a, by simp, by rw [here]; rfl⟩
      · exact Or.inr ⟨b, by simp [mem], owner⟩

/-! ## `inode_reserve` leaves `graft` -/

variable {nm mt} {fs fs' : Pseudofs}

/-- A search that goes on into the children or the peers `u` of node `a` stops at the slot it
entered by or at a slot of `u`, and so at a slot whose owner is in the node. -/
theorem stop_mem_node {a : Nat} {c p u : Shape} {stop : Slot} {name : List Char}
    {left above : Option Nat} (entered : (Slot.of left above).owner = some a)
    (sub : ∀ b ∈ u.addrs, b ∈ (Shape.node a c p).addrs)
    (atStop : Slot.of (find nm mt u name left above).peer (find nm mt u name left above).parent = stop) :
    (stop = Slot.of left above ∨ ∃ b ∈ u.addrs, stop.owner = some b) ∧
      ∃ b ∈ (Shape.node a c p).addrs, stop.owner = some b := by
  have stopIn : stop = Slot.of left above ∨ ∃ b ∈ u.addrs, stop.owner = some b := by
    rw [← atStop]
    exact find_slot nm mt u name left above
  exact ⟨stopIn, owner_mem_of_stop entered (by simp) sub stopIn⟩

theorem rep_graft {n : Nat} {stop : Slot} {rest : List Char}
    (rw : Rewrites fs fs' stop (some n) (· < fs.next))
    (fresh : ∀ S, Rep Inode.child Inode.peer fs'.heap (fs.read stop) S →
      Rep Inode.child Inode.peer fs'.heap (some n) (spine n rest S)) :
    ∀ {t : Shape} {name : List Char} {left above : Option Nat},
      Rep Inode.child Inode.peer fs.heap (fs.read (Slot.of left above)) t → t.addrs.Nodup →
      (∀ b ∈ t.addrs, b < fs.next) → Outside fs t (Slot.of left above) →
      resolve nm mt t name = none →
      Slot.of (find nm mt t name left above).peer (find nm mt t name left above).parent = stop →
      (find nm mt t name left above).path = rest →
      Rep Inode.child Inode.peer fs'.heap (fs'.read (Slot.of left above)) (graft nm mt n t name)
  | .nil, name, left, above, h, _, _, out, _, atStop, restIs => by
    -- the fresh nodes go at the slot entered by, which pointed at nothing
    change Slot.of left above = stop at atStop
    change name = rest at restIs
    subst atStop restIs
    rw [rw.read_self (fun o ho => ⟨(out o ho).2.1, (out o ho).2.2⟩), graft]
    exact fresh .nil (by rw [Rep.ptr_eq_head h]; exact .nil)
  | .node a c p, name, left, above, h, nodup, below, out, miss, atStop, restIs => by
    obtain ⟨belowA, belowC, belowP⟩ := Shape.forall_mem_node.1 below
    have entry : fs.read (Slot.of left above) = some a := Rep.ptr_eq_head h
    rcases inodeNamecpy_trichotomy name (nm a) with e | lt | gt
    · -- the path goes on below this node
      rw [resolve_node_of_eq e.symm] at miss
      rw [find_node_of_eq e] at atStop restIs
      rw [graft_node_of_eq e]
      by_cases ends : inodeNextname name = [] ∨ mt a
      · rw [if_pos ends] at miss
        cases miss
      · rw [if_neg ends] at miss atStop restIs ⊢
        obtain ⟨held, hc, _⟩ := rep_node.1 (entry ▸ h)
        obtain ⟨notC, _, nodupC, _, _⟩ := Shape.nodup_node nodup
        obtain ⟨stopIn, inside⟩ :=
          stop_mem_node (c := c) (p := p) rfl (fun b hb => by simp [hb]) atStop
        rw [rw.read_of_ne (out.ne inside) (fun o ho => (out o ho).2.1), entry]
        refine rw.rep_node_child (entry ▸ h) nodup belowA belowP stopIn ?_
        exact rep_graft rw fresh (show Rep _ _ _ (fs.read (Slot.of none (some a))) c from hc) nodupC
          belowC (fun o ho => by cases ho; exact ⟨notC, belowA, held⟩) miss atStop restIs
    · -- the fresh nodes go before this node, at the slot entered by
      rw [find_node_of_lt lt] at atStop restIs
      change Slot.of left above = stop at atStop
      change name = rest at restIs
      subst atStop restIs
      rw [rw.read_self (fun o ho => ⟨(out o ho).2.1, (out o ho).2.2⟩), graft_node_of_lt lt]
      refine fresh _ (rw.rep h (fun b hb => ⟨below b hb, fun o ho same => ?_⟩))
      subst same
      exact (out b ho).1 hb
    · -- on along the peers
      rw [resolve_node_of_ne (name_ne_of_gt gt)] at miss
      rw [find_node_of_gt gt] at atStop restIs
      rw [graft_node_of_gt gt]
      obtain ⟨held, _, hp⟩ := rep_node.1 (entry ▸ h)
      obtain ⟨_, notP, _, nodupP, _⟩ := Shape.nodup_node nodup
      obtain ⟨stopIn, inside⟩ :=
        stop_mem_node (c := c) (p := p) rfl (fun b hb => by simp [hb]) atStop
      rw [rw.read_of_ne (out.ne inside) (fun o ho => (out o ho).2.1), entry]
      refine rw.rep_node_peer (entry ▸ h) nodup belowA belowC stopIn ?_
      exact rep_graft rw fresh (show Rep _ _ _ (fs.read (Slot.of (some a) above)) p from hp) nodupP
        belowP (fun o ho => by cases ho; exact ⟨notP, belowA, held⟩) miss atStop restIs

/-! ## `inode_unlink` leaves `prune` -/

theorem mem_addrs_of_find {b : Nat} :
    ∀ {t : Shape} {name : List Char} {left above : Option Nat},
      (find nm mt t name left above).node = some b → b ∈ t.addrs
  | .nil, _, _, _, found => nomatch found
  | .node a c p, name, left, above, found => by
    rcases inodeNamecpy_trichotomy name (nm a) with e | lt | gt
    · rw [find_node_of_eq e] at found
      by_cases ends : inodeNextname name = [] ∨ mt a
      · rw [if_pos ends] at found
        cases found
        simp
      · rw [if_neg ends] at found
        simp [mem_addrs_of_find found]
    · rw [find_node_of_lt lt] at found
      cases found
    · rw [find_node_of_gt gt] at found
      simp [mem_addrs_of_find found]

theorem rep_prune {a₀ : Nat} {stop : Slot} (rw : Rewrites fs fs' stop (fs.peerOf a₀) (· ≠ a₀)) :
    ∀ {t : Shape} {name : List Char} {left above : Option Nat},
      Rep Inode.child Inode.peer fs.heap (fs.read (Slot.of left above)) t → t.addrs.Nodup →
      (∀ b ∈ t.addrs, b < fs.next) → Outside fs t (Slot.of left above) →
      (find nm mt t name left above).node = some a₀ →
      Slot.of (find nm mt t name left above).peer (find nm mt t name left above).parent = stop →
      Rep Inode.child Inode.peer fs'.heap (fs'.read (Slot.of left above)) (prune nm mt t name)
  | .nil, _, _, _, _, _, _, _, found, _ => nomatch found
  | .node a c p, name, left, above, h, nodup, below, out, found, atStop => by
    have entry : fs.read (Slot.of left above) = some a := Rep.ptr_eq_head h
    obtain ⟨held, hc, hp⟩ := rep_node.1 (entry ▸ h)
    obtain ⟨notC, notP, nodupC, nodupP, apart⟩ := Shape.nodup_node nodup
    obtain ⟨belowA, belowC, belowP⟩ := Shape.forall_mem_node.1 below
    have keepOut : ∀ o, (Slot.of left above).owner = some o → o ≠ a₀ := fun o ho same =>
      (out o ho).1 (same ▸ mem_addrs_of_find found)
    rcases inodeNamecpy_trichotomy name (nm a) with e | lt | gt
    · rw [find_node_of_eq e] at found atStop
      rw [prune_node_of_eq e]
      by_cases ends : inodeNextname name = [] ∨ mt a
      · -- the node found is this one: the slot entered by now points at its peers
        rw [if_pos ends] at found atStop ⊢
        cases found
        change Slot.of left above = stop at atStop
        subst atStop
        rw [rw.read_self (fun o ho => ⟨keepOut o ho, (out o ho).2.2⟩)]
        exact rw.rep hp (fun b hb => ⟨fun same => notP (same ▸ hb),
          fun o ho same => (out o ho).1 (same ▸ by simp [hb])⟩)
      · -- the node found is below this one
        rw [if_neg ends] at found atStop ⊢
        have inC := mem_addrs_of_find found
        obtain ⟨stopIn, inside⟩ :=
          stop_mem_node (c := c) (p := p) rfl (fun b hb => by simp [hb]) atStop
        rw [rw.read_of_ne (out.ne inside) keepOut, entry]
        refine rw.rep_node_child (entry ▸ h) nodup (fun same => notC (same ▸ inC))
          (fun b hb same => apart a₀ inC (same ▸ hb)) stopIn ?_
        exact rep_prune rw (show Rep _ _ _ (fs.read (Slot.of none (some a))) c from hc) nodupC
          belowC (fun o ho => by cases ho; exact ⟨notC, belowA, held⟩) found atStop
    · rw [find_node_of_lt lt] at found
      cases found
    · -- the node found is among the peers after this one
      rw [find_node_of_gt gt] at found atStop
      rw [prune_node_of_gt gt]
      have inP := mem_addrs_of_find found
      obtain ⟨stopIn, inside⟩ :=
        stop_mem_node (c := c) (p := p) rfl (fun b hb => by simp [hb]) atStop
      rw [rw.read_of_ne (out.ne inside) keepOut, entry]
      refine rw.rep_node_peer (entry ▸ h) nodup (fun same => notP (same ▸ inP))
        (fun b hb same => apart b hb (same ▸ inP)) stopIn ?_
      exact rep_prune rw (show Rep _ _ _ (fs.read (Slot.of (some a) above)) p from hp) nodupP
        belowP (fun o ho => by cases ho; exact ⟨notP, belowA, held⟩) found atStop

end Walks

/-! ## The loop of `inode_reserve` -/

/-- `inode_alloc` with room left: the next free inode, named by the first segment, with
nothing else set. -/
theorem inodeAlloc_of_lt {fs : Pseudofs} (name : List Char) (room : fs.next < fs.limit) :
    ∃ fs₁, inodeAlloc fs name = some (fs.next, fs₁) ∧
      fs₁.heap = Function.update fs.heap fs.next
        (some ⟨none, none, 0, 0, 0, 0, 0, inodeNamecpy name⟩) ∧
      fs₁.root = fs.root ∧ fs₁.next = fs.next + 1 :=
  ⟨{ fs.write fs.next ⟨none, none, 0, 0, 0, 0, 0, inodeNamecpy name⟩ with next := fs.next + 1 },
    by simp [inodeAlloc, room], rfl, rfl, rfl⟩

/-- One round of the loop: an inode `x` written at `fs.next` and linked by
`inode_insert` at the slot `*peer`/`*parent` name. -/
theorem insert_fresh {fs fs₁ : Pseudofs} {left above : Option Nat} {x : Inode}
    (h₁ : fs₁.heap = Function.update fs.heap fs.next (some x)) (r₁ : fs₁.root = fs.root)
    (n₁ : fs₁.next = fs.next + 1)
    (owner : ∀ o, (Slot.of left above).owner = some o → o < fs.next ∧ (fs.heap o).isSome) :
    (inodeInsert fs₁ fs.next left above).next = fs.next + 1 ∧
      Rewrites fs (inodeInsert fs₁ fs.next left above) (Slot.of left above) (some fs.next)
        (· < fs.next) ∧
      (inodeInsert fs₁ fs.next left above).heap fs.next =
        some { x with peer := fs.read (Slot.of left above) } := by
  rw [inodeInsert_eq]
  have old : ∀ b, b < fs.next → fs₁.heap b = fs.heap b := fun b lt => by
    rw [h₁, Function.update_apply, if_neg (Nat.ne_of_lt lt)]
  have edited : ∀ b, b < fs.next →
      (fs₁.modify fs.next fun x => { x with peer := fs₁.read (Slot.of left above) }).heap b =
        fs.heap b := fun b lt => by
    rw [heap_modify, Function.update_apply, if_neg (Nat.ne_of_lt lt), old b lt]
  have readOld : fs₁.read (Slot.of left above) = fs.read (Slot.of left above) :=
    read_congr r₁ (fun o ho => old o (owner o ho).1)
  refine ⟨by simp [n₁], ⟨fun b lt => heap_set_congr _ _ (edited b lt),
    root_set_congr _ _ (by rw [root_modify, r₁])⟩, ?_⟩
  rw [heap_set_of_ne _ (fun o ho same => Nat.lt_irrefl _ (same ▸ (owner o ho).1)),
    heap_modify, Function.update_self, readOld, h₁, Function.update_self]
  rfl

/-- What a run of the loop of `inode_reserve` that returns `OK` leaves, from the slot
`s` on: `*inode` is the last fresh node, the fresh nodes are the addresses from
`fs.next` on, `s` points at the first and the old inodes are otherwise untouched, the
fresh nodes are named by the segments, and from the first one the heap traces them
followed by what `s` pointed at. -/
structure Reserves (fs fs' : Pseudofs) (s : Slot) (name : List Char) (leaf : Option Nat) : Prop where
  last : leaf = some (fs.next + segs name - 1)
  next : fs'.next = fs.next + segs name
  rewrites : Rewrites fs fs' s (some fs.next) (· < fs.next)
  labels : SpineLabels (nameOf fs'.heap) (mountOf fs'.heap) fs.next name
  traces : ∀ S, Rep Inode.child Inode.peer fs'.heap (fs.read s) S →
    Rep Inode.child Inode.peer fs'.heap (some fs.next) (spine fs.next name S)

theorem reserveLoop_spec :
    ∀ {fuel : Nat} {fs : Pseudofs} {name : List Char} {left above : Option Nat} {code : Int}
      {leaf : Option Nat} {fs' : Pseudofs},
      (∀ o, (Slot.of left above).owner = some o → o < fs.next ∧ (fs.heap o).isSome) →
      reserveLoop fuel fs name left above = some (code, leaf, fs') → code = ok →
      Reserves fs fs' (Slot.of left above) name leaf
  | 0, _, _, _, _, _, _, _, _, run, _ => nomatch run
  | fuel + 1, fs, name, left, above, code, leaf, fs', owner, run, isOk => by
    by_cases room : fs.next < fs.limit
    · obtain ⟨fs₁, alloc, h₁, r₁, n₁⟩ := inodeAlloc_of_lt name room
      obtain ⟨next₂, rewrites₂, record⟩ := insert_fresh h₁ r₁ n₁ owner
      rw [reserveLoop, alloc] at run
      by_cases ends : inodeNextname name = []
      · -- the last segment: `*inode` is the node just linked
        simp only [ends, if_true, Option.some.injEq, Prod.mk.injEq] at run
        obtain ⟨rfl, rfl, rfl⟩ := run
        have one : segs name = 1 := by rw [segs, dif_pos ends]
        refine ⟨by rw [one]; rfl, by rw [next₂, one], rewrites₂, ?_, fun S hS => ?_⟩
        · rw [SpineLabels, dif_pos ends]
          exact ⟨by simp [nameOf, record], by simp [mountOf, record, inodeIsMountpt]; decide, trivial⟩
        · rw [spine, dif_pos ends]
          refine rep_node.2 ⟨by simp [record], ?_, ?_⟩
          · simp only [Pseudofs.read, childOf, record, Option.bind_some]
            exact .nil
          · simpa only [Pseudofs.read, peerOf, record, Option.bind_some] using hS
      · -- more segments: the rest of the loop links below the node just linked
        simp only [ends, if_false] at run
        have ih := reserveLoop_spec (fun o ho => by
          cases ho
          exact ⟨by rw [next₂]; omega, by simp [record]⟩) run isOk
        obtain ⟨last, next, rewrites, labels, traces⟩ := ih
        rw [next₂] at last next rewrites labels traces
        have more : segs name = segs (inodeNextname name) + 1 := by rw [segs, dif_neg ends]
        have heapN := rewrites.heap fs.next (by omega)
        have named : (fs'.heap fs.next).map Inode.name = some (inodeNamecpy name) := by
          simp [heapN, Slot.of, Pseudofs.set, heap_modify, record]
        have plain : (fs'.heap fs.next).map inodeIsMountpt = some false := by
          simp [heapN, Slot.of, Pseudofs.set, heap_modify, record, inodeIsMountpt]
          decide
        refine ⟨?_, ?_, ⟨fun b lt => ?_, ?_⟩, ?_, fun S hS => ?_⟩
        · rw [last, more]
          congr 1
          omega
        · rw [next, more]
          omega
        · rw [rewrites.heap b (by omega), heap_set_of_ne _ (fun o ho => by cases ho; omega)]
          exact rewrites₂.heap b lt
        · rw [rewrites.root, ← rewrites₂.root]
          simp [Slot.of, Pseudofs.set]
        · rw [SpineLabels, dif_neg ends]
          exact ⟨by simp [nameOf, named], by simp [mountOf, plain], labels⟩
        · rw [spine, dif_neg ends]
          have childN : fs'.read (.child fs.next) = some (fs.next + 1) :=
            rewrites.read_self (fun o ho => by cases ho; exact ⟨by omega, by simp [record]⟩)
          have peerN : fs'.read (.peer fs.next) = fs.read (Slot.of left above) := by
            rw [rewrites.read_of_ne (by simp [Slot.of]) (fun o ho => by cases ho; omega)]
            simp [Pseudofs.read, peerOf, record]
          refine rep_node.2 ⟨by simpa using congrArg Option.isSome named, ?_, ?_⟩
          · rw [childN]
            exact traces .nil
              (by simp only [Slot.of, Pseudofs.read, childOf, record, Option.bind_some]; exact .nil)
          · rw [peerN]
            exact hS
    · simp only [reserveLoop, inodeAlloc, if_neg room, Option.some.injEq, Prod.mk.injEq] at run
      rw [← run.1] at isOk
      exact absurd isOk (by decide)

theorem reserveLoop_code :
    ∀ {fuel : Nat} {fs : Pseudofs} {name : List Char} {left above : Option Nat} {code : Int}
      {leaf : Option Nat} {fs' : Pseudofs},
      reserveLoop fuel fs name left above = some (code, leaf, fs') → code = ok ∨ code = -enomem
  | 0, _, _, _, _, _, _, _, run => nomatch run
  | fuel + 1, fs, name, left, above, code, leaf, fs', run => by
    dsimp only [reserveLoop] at run
    split at run
    · simp only [Option.some.injEq, Prod.mk.injEq] at run
      exact Or.inr run.1.symm
    · split_ifs at run
      · simp only [Option.some.injEq, Prod.mk.injEq] at run
        exact Or.inl run.1.symm
      · exact reserveLoop_code run

theorem reserveLoop_isSome :
    ∀ {fuel : Nat} {fs : Pseudofs} {name : List Char} {left above : Option Nat},
      name.length < fuel → (reserveLoop fuel fs name left above).isSome
  | 0, _, _, _, _, enough => absurd enough (Nat.not_lt_zero _)
  | fuel + 1, fs, name, left, above, enough => by
    dsimp only [reserveLoop]
    split
    · rfl
    · split_ifs with ends
      · rfl
      · exact reserveLoop_isSome
          (Nat.lt_of_lt_of_le (length_inodeNextname_lt ends) (Nat.le_of_lt_succ enough))

/-! ## The tree after `inode_unlink` -/

theorem nameOf_modify (fs : Pseudofs) (a : Nat) {f : Inode → Inode} (keep : ∀ x, (f x).name = x.name) :
    nameOf (fs.modify a f).heap = nameOf fs.heap := by
  funext b
  simp only [nameOf, map_heap_modify f Inode.name keep]

theorem mountOf_modify (fs : Pseudofs) (a : Nat) {f : Inode → Inode}
    (keep : ∀ x, inodeIsMountpt (f x) = inodeIsMountpt x) :
    mountOf (fs.modify a f).heap = mountOf fs.heap := by
  funext b
  simp only [mountOf, map_heap_modify f inodeIsMountpt keep]

/-! ## The tree is an ordered trie -/

/-- A well-formed inode tree: from `root_inode` the links trace `t`, no inode is on
two lists, every list of peers is strictly increasing in name, and every inode of
the tree lies below the next free address. -/
structure WellFormed (fs : Pseudofs) (t : Shape) : Prop where
  rep : Rep Inode.child Inode.peer fs.heap fs.root t
  nodup : t.addrs.Nodup
  sorted : Sorted (nameOf fs.heap) none t
  below : ∀ a ∈ t.addrs, a < fs.next

/-- What a path (past its leading `'/'`) names in the tree, with the names and
mountpoint flags of the heap. -/
def Pseudofs.lookup (fs : Pseudofs) (t : Shape) (q : List Char) : Option (Nat × List Char) :=
  resolve (nameOf fs.heap) (mountOf fs.heap) t q

section Trie

variable {fs : Pseudofs} {t : Shape}

/-- `inode_search` finds what the path names: the node with `*relpath`, or nothing. -/
theorem inodeSearch_spec (wf : WellFormed fs t) {fuel : Nat} (enough : t.size < fuel)
    (q : List Char) :
    inodeSearch fs fuel ('/' :: q) = some (find (nameOf fs.heap) (mountOf fs.heap) t q none none) ∧
      (find (nameOf fs.heap) (mountOf fs.heap) t q none none).hit = fs.lookup t q :=
  ⟨searchLoop_eq_find wf.rep q none none enough, find_hit wf.sorted (fun _ h => nomatch h)⟩

/-- A search that finds nothing leaves `*parent` at the last node the path names a prefix of,
and `*peer` at the last node of its list of children (or of the top list) whose name is below
the first missing segment, which no node of that list has. -/
theorem find_miss_slot (wf : WellFormed fs t) {q : List Char}
    (miss : (find (nameOf fs.heap) (mountOf fs.heap) t q none none).node = none) :
    (find (nameOf fs.heap) (mountOf fs.heap) t q none none).parent =
        (through (nameOf fs.heap) (mountOf fs.heap) t q).getLast? ∧
      ∃ l, t.listUnder (find (nameOf fs.heap) (mountOf fs.heap) t q none none).parent = some l ∧
        (∀ x ∈ l.peers, nameOf fs.heap x ≠
          inodeNamecpy (find (nameOf fs.heap) (mountOf fs.heap) t q none none).path) ∧
        (find (nameOf fs.heap) (mountOf fs.heap) t q none none).peer =
          (l.peers.filter fun x => nameOf fs.heap x <
            inodeNamecpy (find (nameOf fs.heap) (mountOf fs.heap) t q none none).path).getLast? := by
  have missing : resolve (nameOf fs.heap) (mountOf fs.heap) t q = none := by
    have hit : (find (nameOf fs.heap) (mountOf fs.heap) t q none none).hit =
        resolve (nameOf fs.heap) (mountOf fs.heap) t q :=
      find_hit wf.sorted (fun _ h => nomatch h)
    rw [← hit]
    simp [SearchResult.hit, miss]
  rcases (find_miss wf.sorted wf.nodup (fun _ h => nomatch h) missing).2 with
    ⟨empty, parent, path, absent, peer⟩ | ⟨b, l, last, parent, under, absent, peer⟩
  · -- the search stops in the top list
    refine ⟨by rw [parent, empty]; rfl, t, by rw [parent]; rfl, ?_, ?_⟩
    · rw [path]
      exact absent
    · rw [peer, path, Option.or_none]
  · exact ⟨by rw [parent, last], l, by rw [parent]; exact under, absent, peer⟩

/-- Where the search misses and the loop of `inode_reserve` returns `OK`, the tree is
the graft: well formed, the path names `*inode`, and every path keeps its node. -/
theorem reserve_ok {fs' : Pseudofs} (wf : WellFormed fs t) {q : List Char} {fuel : Nat}
    {leaf : Option Nat}
    (miss : (find (nameOf fs.heap) (mountOf fs.heap) t q none none).node = none)
    (run : reserveLoop fuel fs (find (nameOf fs.heap) (mountOf fs.heap) t q none none).path
      (find (nameOf fs.heap) (mountOf fs.heap) t q none none).peer
      (find (nameOf fs.heap) (mountOf fs.heap) t q none none).parent = some (ok, leaf, fs')) :
    ∃ t' a, leaf = some a ∧ WellFormed fs' t' ∧ fs'.lookup t' q = some (a, []) ∧
      ∀ q' r, fs.lookup t q' = some r → fs'.lookup t' q' = some r := by
  set nm := nameOf fs.heap
  set mt := mountOf fs.heap
  set r := find nm mt t q none none with hr
  have owner : ∀ o, (Slot.of r.peer r.parent).owner = some o → o < fs.next ∧ (fs.heap o).isSome := by
    rcases find_slot nm mt t q none none with here | ⟨b, mem, hb⟩
    · rw [here]
      intro o ho
      cases ho
    · intro o ho
      rw [hb] at ho
      cases ho
      exact ⟨wf.below b mem, Rep.isSome_of_mem wf.rep mem⟩
  have res := reserveLoop_spec owner run rfl
  -- the old inodes keep their names and flags
  have same : ∀ b ∈ t.addrs, nameOf fs'.heap b = nm b ∧ mountOf fs'.heap b = mt b :=
    fun b hb => ⟨res.rewrites.nameOf_eq (wf.below b hb), res.rewrites.mountOf_eq (wf.below b hb)⟩
  have hit : resolve nm mt t q = none := by
    rw [← find_hit wf.sorted (fun _ h => nomatch h), ← hr]
    simp [SearchResult.hit, miss]
  have sorted' : Sorted (nameOf fs'.heap) none t := Sorted.congr (fun b hb => (same b hb).1) wf.sorted
  have find' : find (nameOf fs'.heap) (mountOf fs'.heap) t q none none = r := find_congr same q none none
  have labels : SpineLabels (nameOf fs'.heap) (mountOf fs'.heap) fs.next
      (find (nameOf fs'.heap) (mountOf fs'.heap) t q none none).path := by
    rw [find']
    exact res.labels
  have hit' : resolve (nameOf fs'.heap) (mountOf fs'.heap) t q = none := by
    rw [resolve_congr same]
    exact hit
  have perm : List.Perm (graft nm mt fs.next t q).addrs
      (List.range' fs.next (segs r.path) ++ t.addrs) := addrs_graft hit
  refine ⟨graft nm mt fs.next t q, fs.next + segs r.path - 1, res.last, ⟨?_, ?_, ?_, ?_⟩, ?_, ?_⟩
  · exact rep_graft res.rewrites res.traces (show Rep _ _ _ (fs.read (Slot.of none none)) t from wf.rep)
      wf.nodup wf.below (fun o ho => by cases ho) hit rfl rfl
  · refine perm.nodup_iff.2 (List.nodup_append.2 ⟨List.nodup_range', wf.nodup, ?_⟩)
    intro a ha b hb same
    rw [List.mem_range'_1] at ha
    exact absurd (wf.below b hb) (by omega)
  · rw [← graft_congr same]
    exact sorted_graft sorted' (fun _ h => nomatch h) hit' labels
  · intro a ha
    rw [perm.mem_iff, List.mem_append, List.mem_range'_1] at ha
    rw [res.next]
    rcases ha with fresh | old
    · omega
    · exact Nat.lt_of_lt_of_le (wf.below a old) (Nat.le_add_right _ _)
  · simp only [Pseudofs.lookup]
    rw [← graft_congr same, resolve_graft_self hit' labels, find']
  · intro q' r' found
    simp only [Pseudofs.lookup]
    rw [← graft_congr same]
    exact resolve_graft sorted' labels (by rw [resolve_congr same]; exact found)

/-- `inode_reserve` returns `-EEXIST` exactly when the path names a node, and where
it returns `OK` it leaves a well-formed tree in which the path names `*inode` and
every path keeps its node. -/
theorem inodeReserve_spec (wf : WellFormed fs t) {fuel : Nat} {q : List Char}
    (enough : t.size + q.length < fuel) :
    ∃ code leaf fs', inodeReserve fuel fs ('/' :: q) = some (code, leaf, fs') ∧
      (code = -eexist ↔ (fs.lookup t q).isSome) ∧
      (fs.lookup t q = none → code = ok ∨ code = -enomem) ∧
      (code = ok → ∃ t' a, leaf = some a ∧ WellFormed fs' t' ∧ fs'.lookup t' q = some (a, []) ∧
        ∀ q' r, fs.lookup t q' = some r → fs'.lookup t' q' = some r) := by
  obtain ⟨search, hit⟩ := inodeSearch_spec wf (show t.size < fuel by omega) q
  by_cases found : (find (nameOf fs.heap) (mountOf fs.heap) t q none none).node.isSome
  · -- the path names a node
    have named : (fs.lookup t q).isSome := by
      rw [← hit]
      simp [SearchResult.hit, found]
    refine ⟨-eexist, none, fs, by simp [inodeReserve, search, found], ⟨fun _ => named, fun _ => rfl⟩,
      fun none' => absurd named (by rw [none']; decide), fun isOk => absurd isOk (by decide)⟩
  · have miss := Option.not_isSome_iff_eq_none.1 found
    have loop : inodeReserve fuel fs ('/' :: q) =
        reserveLoop fuel fs (find (nameOf fs.heap) (mountOf fs.heap) t q none none).path
          (find (nameOf fs.heap) (mountOf fs.heap) t q none none).peer
          (find (nameOf fs.heap) (mountOf fs.heap) t q none none).parent := by
      simp [inodeReserve, search, miss]
    have returns : (reserveLoop fuel fs (find (nameOf fs.heap) (mountOf fs.heap) t q none none).path
        (find (nameOf fs.heap) (mountOf fs.heap) t q none none).peer
        (find (nameOf fs.heap) (mountOf fs.heap) t q none none).parent).isSome :=
      reserveLoop_isSome (Nat.lt_of_le_of_lt length_find_path (by omega))
    obtain ⟨⟨code, leaf, fs'⟩, run⟩ := Option.isSome_iff_exists.1 returns
    have none' : fs.lookup t q = none := by
      rw [← hit]
      simp [SearchResult.hit, miss]
    refine ⟨code, leaf, fs', loop ▸ run, ?_, fun _ => reserveLoop_code run,
      fun isOk => reserve_ok wf miss (isOk ▸ run)⟩
    rw [none']
    rcases reserveLoop_code run with rfl | rfl <;> decide

/-- `inode_unlink` returns the node the path names and leaves a well-formed tree in
which the path names nothing, every path that does not pass through that node keeps
its node, and every path that does names nothing. -/
theorem inodeUnlink_spec (wf : WellFormed fs t) {fuel : Nat} (enough : t.size < fuel)
    (q : List Char) :
    ∃ node fs', inodeUnlink fuel fs ('/' :: q) = some (node, fs') ∧
      node = (fs.lookup t q).map Prod.fst ∧
      ∃ t', WellFormed fs' t' ∧ fs'.lookup t' q = none ∧
        (∀ q' r, fs.lookup t q' = some r →
          (∀ a ∈ node, a ∉ through (nameOf fs.heap) (mountOf fs.heap) t q') →
          fs'.lookup t' q' = some r) ∧
        ∀ q', ∀ a ∈ node, a ∈ through (nameOf fs.heap) (mountOf fs.heap) t q' →
          fs'.lookup t' q' = none := by
  obtain ⟨search, hit⟩ := inodeSearch_spec wf enough q
  rcases hr : find (nameOf fs.heap) (mountOf fs.heap) t q none none with ⟨node, peer, parent, rel⟩
  rw [hr] at search hit
  cases node with
  | none =>
    -- nothing to unlink
    have none' : fs.lookup t q = none := by
      rw [← hit]
      rfl
    refine ⟨none, fs, by simp [inodeUnlink, search], by rw [none']; rfl, t, wf, none',
      fun _ _ found _ => found, fun _ a ha => nomatch ha⟩
  | some a =>
    have named : (resolve (nameOf fs.heap) (mountOf fs.heap) t q).map Prod.fst = some a := by
      rw [← find_hit wf.sorted (fun _ h => nomatch h), hr]
      rfl
    set fs'' := (fs.set (Slot.of peer parent) (fs.peerOf a)).modify a fun x => { x with peer := none }
    have unlinked : inodeUnlink fuel fs ('/' :: q) = some (some a, fs'') := by
      simp only [inodeUnlink, search, fs'']
      cases peer <;> cases parent <;> rfl
    have rw : Rewrites fs fs'' (Slot.of peer parent) (fs.peerOf a) (· ≠ a) :=
      ⟨fun b ne => by simp [fs'', heap_modify, ne], by simp [fs'']⟩
    have labels : nameOf fs''.heap = nameOf fs.heap ∧ mountOf fs''.heap = mountOf fs.heap := by
      constructor
      · rw [nameOf_modify _ a (f := fun x => { x with peer := none }) (fun _ => rfl), nameOf_set]
      · rw [mountOf_modify _ a (f := fun x => { x with peer := none }) (fun _ => rfl), mountOf_set]
    have sub : List.Sublist (prune (nameOf fs.heap) (mountOf fs.heap) t q).addrs t.addrs :=
      prune_addrs_sublist
    refine ⟨some a, fs'', unlinked, named.symm, prune (nameOf fs.heap) (mountOf fs.heap) t q,
      ⟨?_, sub.nodup wf.nodup, ?_, fun b hb => ?_⟩, ?_, ?_, ?_⟩
    · exact rep_prune rw (show Rep _ _ _ (fs.read (Slot.of none none)) t from wf.rep) wf.nodup wf.below
        (fun o ho => by cases ho) (by rw [hr]) (by rw [hr])
    · rw [labels.1]
      exact sorted_prune wf.sorted
    · simpa [fs''] using wf.below b (sub.subset hb)
    · simp only [Pseudofs.lookup, labels.1, labels.2]
      exact resolve_prune_self wf.sorted
    · intro q' r found apart
      simp only [Pseudofs.lookup, labels.1, labels.2]
      exact resolve_prune (fun b hb => apart b (named ▸ hb)) found
    · intro q' b hb on
      simp only [Pseudofs.lookup, labels.1, labels.2]
      cases hb
      exact resolve_prune_through wf.nodup wf.sorted named on

end Trie

/-- On a well-formed inode tree and for an absolute path, with fuel above the size of
the tree and the length of the path: `inode_search` finds what the path names, and
when it names nothing leaves `*parent` at the last node the path names a prefix of and
`*peer` at the last node of its list below the first missing segment;
`inode_reserve` returns `-EEXIST` exactly when the path names a node, and otherwise
`OK` or `-ENOMEM`; where it returns `OK` it leaves a well-formed tree in which the path names `*inode` and every
path keeps its node; `inode_unlink` leaves a well-formed tree in which the path names
nothing, the paths that do not pass through the node unlinked keep their node, and
those that do name nothing. -/
theorem inode_tree_ordered_trie {fs : Pseudofs} {t : Shape} (wf : WellFormed fs t) {fuel : Nat}
    {q : List Char} (enough : t.size + q.length < fuel) :
    (∃ r, inodeSearch fs fuel ('/' :: q) = some r ∧ r.hit = fs.lookup t q ∧
      (r.node = none → r.parent = (through (nameOf fs.heap) (mountOf fs.heap) t q).getLast? ∧
        ∃ l, t.listUnder r.parent = some l ∧
          (∀ x ∈ l.peers, nameOf fs.heap x ≠ inodeNamecpy r.path) ∧
          r.peer = (l.peers.filter fun x => nameOf fs.heap x < inodeNamecpy r.path).getLast?)) ∧
    (∃ code leaf fs', inodeReserve fuel fs ('/' :: q) = some (code, leaf, fs') ∧
      (code = -eexist ↔ (fs.lookup t q).isSome) ∧
      (fs.lookup t q = none → code = ok ∨ code = -enomem) ∧
      (code = ok → ∃ t' a, leaf = some a ∧ WellFormed fs' t' ∧ fs'.lookup t' q = some (a, []) ∧
        ∀ q' r, fs.lookup t q' = some r → fs'.lookup t' q' = some r)) ∧
    (∃ node fs', inodeUnlink fuel fs ('/' :: q) = some (node, fs') ∧
      node = (fs.lookup t q).map Prod.fst ∧
      ∃ t', WellFormed fs' t' ∧ fs'.lookup t' q = none ∧
        (∀ q' r, fs.lookup t q' = some r →
          (∀ a ∈ node, a ∉ through (nameOf fs.heap) (mountOf fs.heap) t q') →
          fs'.lookup t' q' = some r) ∧
        ∀ q', ∀ a ∈ node, a ∈ through (nameOf fs.heap) (mountOf fs.heap) t q' →
          fs'.lookup t' q' = none) := by
  have searched := inodeSearch_spec wf (show t.size < fuel by omega) q
  exact ⟨⟨_, searched.1, searched.2, find_miss_slot wf⟩, inodeReserve_spec wf enough,
    inodeUnlink_spec wf (show t.size < fuel by omega) q⟩

def sampleFs : Pseudofs where
  root := some 0
  heap
    | 0 => some ⟨some 1, some 2, 0, 0, 0, 0, 0, ['a']⟩
    | 1 => some ⟨none, none, 0, 0, 0, 0, 0, ['c']⟩
    | 2 => some ⟨none, none, 0, 0, 0, 0, 0, ['b']⟩
    | _ => none
  next := 3
  limit := 8

def sampleShape : Shape := .node 0 (.node 2 .nil .nil) (.node 1 .nil .nil)

theorem sample_wellFormed : WellFormed sampleFs sampleShape where
  rep := .node rfl (.node rfl .nil .nil) (.node rfl .nil .nil)
  nodup := by decide
  sorted := Sorted.node (fun _ h => nomatch h) (Sorted.node (fun _ h => nomatch h) trivial trivial)
    (Sorted.node (fun _ h => by cases h; decide) trivial trivial)
  below := by decide

theorem inode_tree_ordered_trie_sample :
    WellFormed sampleFs sampleShape ∧ sampleShape.size + 3 < 8 ∧
      ∃ r, inodeSearch sampleFs 8 ['/', 'a', '/', 'd'] = some r ∧
        r.hit = sampleFs.lookup sampleShape ['a', '/', 'd'] ∧
        (r.node = none → r.parent =
            (through (nameOf sampleFs.heap) (mountOf sampleFs.heap) sampleShape ['a', '/', 'd']).getLast? ∧
          ∃ l, sampleShape.listUnder r.parent = some l ∧
            (∀ x ∈ l.peers, nameOf sampleFs.heap x ≠ inodeNamecpy r.path) ∧
            r.peer = (l.peers.filter fun x => nameOf sampleFs.heap x < inodeNamecpy r.path).getLast?) :=
  ⟨sample_wellFormed, by decide, (inode_tree_ordered_trie sample_wellFormed (by decide)).1⟩

/-- Directories `a` and `b` whose `i_child` pointers share one list `c`, `e`: the root
list and both lists of children are acyclic and strictly increasing. -/
def sharedFs : Pseudofs where
  root := some 0
  heap
    | 0 => some ⟨some 1, some 2, 0, 0, 0, 0, 0, ['a']⟩
    | 1 => some ⟨none, some 2, 0, 0, 0, 0, 0, ['b']⟩
    | 2 => some ⟨some 3, none, 0, 0, 0, 0, 0, ['c']⟩
    | 3 => some ⟨none, none, 0, 0, 0, 0, 0, ['e']⟩
    | _ => none
  next := 4
  limit := 8

/-- Where two directories share a list of children, `inode_unlink("/a/c")` sets the
unlinked node's `i_peer` to NULL and `/b/e`, which `/b` reaches past `c`, is no longer
found, though its chain `b`, `e` does not pass through `c`. -/
theorem unlink_shared_list_loses_path :
    sharedFs.root = some 0 ∧ sharedFs.peerOf 0 = some 1 ∧ sharedFs.peerOf 1 = none ∧
      sharedFs.childOf 0 = some 2 ∧ sharedFs.childOf 1 = some 2 ∧
      sharedFs.peerOf 2 = some 3 ∧ sharedFs.peerOf 3 = none ∧
      sharedFs.childOf 2 = none ∧ sharedFs.childOf 3 = none ∧
      ['a'] < ['b'] ∧ ['c'] < ['e'] ∧
      (inodeSearch sharedFs 8 ['/', 'b', '/', 'e']).map SearchResult.node = some (some 3) ∧
      ∃ fs', inodeUnlink 8 sharedFs ['/', 'a', '/', 'c'] = some (some 2, fs') ∧
        (inodeSearch fs' 8 ['/', 'a', '/', 'c']).map SearchResult.node = some none ∧
        (inodeSearch fs' 8 ['/', 'b', '/', 'e']).map SearchResult.node = some none := by
  refine ⟨rfl, rfl, rfl, rfl, rfl, rfl, rfl, rfl, rfl, by decide, by decide, by decide, _, rfl, ?_⟩
  decide

end TinyAra.Fs.Inode
