/-
# Fs.InodeTree -- the inode tree is an ordered trie

The heap of `Fs.Inode` read through `LinkedTree.Rep`: from `root_inode`, the
`i_child` and `i_peer` links trace a `Shape`, and the names and mountpoint flags
of its nodes are read from the heap (`nameOf`, `mountOf`). On a traced shape the
loop of `inode_search` is the structural walk `find` (`searchLoop_eq_find`).

What the tree is for is `resolve`: the node a path names, found by matching each
segment (as `inode_nextname` cuts them) against the names of a list of peers and
going on down the children, and stopping at the end of the path or at a
mountpoint.  `resolve` never looks at the order; the search does, and stops at
the first peer whose name is larger. On a tree whose every list of peers is
strictly increasing (`Sorted`) the two agree (`find_hit`).

`graft` and `prune` are the shapes `inode_reserve` and `inode_unlink` leave: the
fresh nodes put where `find` stops, and the node `find` finds cut out of its list.
Sortedness survives both; after the graft the path names the last fresh node and
every path keeps its node (`resolve_graft_self`, `resolve_graft`); after the prune
the path names nothing, and a path keeps its node unless it passes through the one
cut out (`resolve_prune`, `resolve_prune_through`).
-/
import TinyAra.Fs.Inode
import TinyAra.Lib.LinkedTree

namespace TinyAra.Fs.Inode

open LinkedTree

set_option autoImplicit false

/-! ## `_inode_compare` is the lexicographic order on the segment -/

theorem inodeNamecpy_cons_of_ne {f : Char} (fs : List Char) (h : f ≠ '/') :
    inodeNamecpy (f :: fs) = f :: inodeNamecpy fs := by
  simp [inodeNamecpy, h]

theorem inodeNamecpy_slash (fs : List Char) : inodeNamecpy ('/' :: fs) = [] := by
  simp [inodeNamecpy]

/-- `_inode_compare` returns 0, -1 or 1 as the segment is equal to, below or above
the node's name. -/
theorem inodeCompare_cases :
    ∀ (name n : List Char),
      (inodeCompare name n = 0 ∧ inodeNamecpy name = n) ∨
      (inodeCompare name n = -1 ∧ inodeNamecpy name < n) ∨
      (inodeCompare name n = 1 ∧ n < inodeNamecpy name)
  | [], [] => Or.inl ⟨rfl, rfl⟩
  | [], m :: ms => Or.inr (Or.inl ⟨rfl, List.nil_lt_cons m ms⟩)
  | f :: fs, [] => by
    by_cases slash : f = '/'
    · subst slash
      exact Or.inl ⟨rfl, inodeNamecpy_slash fs⟩
    · refine Or.inr (Or.inr ⟨by simp [inodeCompare, slash], ?_⟩)
      rw [inodeNamecpy_cons_of_ne fs slash]
      exact List.nil_lt_cons _ _
  | f :: fs, m :: ms => by
    by_cases slash : f = '/'
    · subst slash
      exact Or.inr (Or.inl ⟨rfl, by rw [inodeNamecpy_slash]; exact List.nil_lt_cons m ms⟩)
    rw [inodeNamecpy_cons_of_ne fs slash]
    rcases Std.lt_trichotomy f m with lt | rfl | gt
    · -- the node's character is larger
      refine Or.inr (Or.inl ⟨?_, List.cons_lt_cons_iff.2 (Or.inl lt)⟩)
      simp [inodeCompare, slash, lt, Char.lt_asymm lt]
    · rcases inodeCompare_cases fs ms with ⟨c, e⟩ | ⟨c, e⟩ | ⟨c, e⟩
      · exact Or.inl ⟨by simp [inodeCompare, slash, c], by rw [e]⟩
      · exact Or.inr (Or.inl ⟨by simp [inodeCompare, slash, c],
          List.cons_lt_cons_iff.2 (Or.inr ⟨rfl, e⟩)⟩)
      · exact Or.inr (Or.inr ⟨by simp [inodeCompare, slash, c],
          List.cons_lt_cons_iff.2 (Or.inr ⟨rfl, e⟩)⟩)
    · refine Or.inr (Or.inr ⟨by simp [inodeCompare, slash, gt], List.cons_lt_cons_iff.2 (Or.inl gt)⟩)

theorem inodeCompare_eq_zero {name n : List Char} :
    inodeCompare name n = 0 ↔ inodeNamecpy name = n := by
  rcases inodeCompare_cases name n with ⟨c, e⟩ | ⟨c, e⟩ | ⟨c, e⟩
  · exact ⟨fun _ => e, fun _ => c⟩
  · rw [c]
    exact ⟨fun h => absurd h (by decide), fun h => absurd e (h ▸ List.lt_irrefl _)⟩
  · rw [c]
    exact ⟨fun h => absurd h (by decide), fun h => absurd e (h ▸ List.lt_irrefl _)⟩

theorem inodeCompare_neg {name n : List Char} :
    inodeCompare name n < 0 ↔ inodeNamecpy name < n := by
  rcases inodeCompare_cases name n with ⟨c, e⟩ | ⟨c, e⟩ | ⟨c, e⟩
  · rw [c, e]
    exact ⟨fun h => absurd h (by decide), fun h => absurd h (List.lt_irrefl _)⟩
  · rw [c]
    exact ⟨fun _ => e, fun _ => by decide⟩
  · rw [c]
    exact ⟨fun h => absurd h (by decide), fun h => absurd h (List.lt_asymm e)⟩

theorem inodeCompare_pos {name n : List Char} :
    0 < inodeCompare name n ↔ n < inodeNamecpy name := by
  rcases inodeCompare_cases name n with ⟨c, e⟩ | ⟨c, e⟩ | ⟨c, e⟩
  · rw [c, e]
    exact ⟨fun h => absurd h (by decide), fun h => absurd h (List.lt_irrefl _)⟩
  · rw [c]
    exact ⟨fun h => absurd h (by decide), fun h => absurd h (List.lt_asymm e)⟩
  · rw [c]
    exact ⟨fun _ => e, fun _ => by decide⟩

theorem inodeCompare_not_neg_not_pos {name n : List Char} (e : inodeNamecpy name = n) :
    ¬inodeCompare name n < 0 ∧ ¬inodeCompare name n > 0 := by
  have zero := inodeCompare_eq_zero.2 e
  omega

theorem inodeCompare_not_neg {name n : List Char} (gt : n < inodeNamecpy name) :
    ¬inodeCompare name n < 0 := by
  have pos := inodeCompare_pos.2 gt
  omega

/-! ## The search walks the traced shape -/

/-- The name the search reads at an address. -/
def nameOf (heap : Nat → Option Inode) (a : Nat) : List Char :=
  ((heap a).map Inode.name).getD []

/-- Whether the node at an address is a mountpoint. -/
def mountOf (heap : Nat → Option Inode) (a : Nat) : Bool :=
  ((heap a).map inodeIsMountpt).getD false

/-- What a search found: the node and `*relpath`. -/
def SearchResult.hit (r : SearchResult) : Option (Nat × List Char) := r.node.map (·, r.path)

section Labels

variable (nm : Nat → List Char) (mt : Nat → Bool)

/-- The loop of `inode_search` over a shape whose nodes are named by `nm` and
marked mountpoints by `mt`. -/
def find : Shape → List Char → Option Nat → Option Nat → SearchResult
  | .nil, name, left, above => ⟨none, left, above, name⟩
  | .node a c p, name, left, above =>
    let result := inodeCompare name (nm a)
    if result < 0 then ⟨none, left, above, name⟩
    else if result > 0 then find p name (some a) above
    else
      let name' := inodeNextname name
      if name' = [] ∨ mt a then ⟨some a, left, above, name'⟩
      else find c name' none (some a)

/-- The node a path names, with the rest of the path past a mountpoint: the first
peer whose name is the segment, then on down its children. -/
def resolve : Shape → List Char → Option (Nat × List Char)
  | .nil, _ => none
  | .node a c p, name =>
    if nm a = inodeNamecpy name then
      let name' := inodeNextname name
      if name' = [] ∨ mt a then some (a, name') else resolve c name'
    else resolve p name

/-- The nodes that `resolve` passes through, the last one included. -/
def through : Shape → List Char → List Nat
  | .nil, _ => []
  | .node a c p, name =>
    if nm a = inodeNamecpy name then
      let name' := inodeNextname name
      a :: (if name' = [] ∨ mt a then [] else through c name')
    else through p name

/-- Every list of peers is strictly increasing in name, and the first name of this
one is above `lo`. -/
def Sorted : Option (List Char) → Shape → Prop
  | _, .nil => True
  | lo, .node a c p => (∀ l, lo = some l → l < nm a) ∧ Sorted none c ∧ Sorted (some (nm a)) p

end Labels

theorem inodeNamecpy_trichotomy (name n : List Char) :
    inodeNamecpy name = n ∨ inodeNamecpy name < n ∨ n < inodeNamecpy name :=
  (inodeCompare_cases name n).imp And.right (Or.imp And.right And.right)

theorem name_ne_of_lt {name n : List Char} (lt : inodeNamecpy name < n) : n ≠ inodeNamecpy name :=
  fun same => List.lt_irrefl _ (same ▸ lt)

theorem name_ne_of_gt {name n : List Char} (gt : n < inodeNamecpy name) : n ≠ inodeNamecpy name :=
  fun same => List.lt_irrefl _ (same ▸ gt)

theorem length_inodeNextname_lt : ∀ {name : List Char}, inodeNextname name ≠ [] →
    (inodeNextname name).length < name.length
  | [], h => absurd rfl h
  | c :: rest, h => by
    by_cases slash : c = '/'
    · simp [inodeNextname, slash]
    · rw [inodeNextname, if_neg slash] at h ⊢
      have shorter := length_inodeNextname_lt h
      simp only [List.length_cons]
      omega

/-! ## The shapes `inode_reserve` and `inode_unlink` leave -/

/-- The fresh nodes `inode_reserve` allocates from address `n` for the rest of a
path, one per segment, each the first child of the one before; the first one is
followed by `rest`. -/
def spine (n : Nat) (name : List Char) (rest : Shape) : Shape :=
  if h : inodeNextname name = [] then .node n .nil rest
  else .node n (spine (n + 1) (inodeNextname name) .nil) rest
termination_by name.length
decreasing_by exact length_inodeNextname_lt h

/-- How many nodes `inode_reserve` allocates for the rest of a path. -/
def segs (name : List Char) : Nat :=
  if h : inodeNextname name = [] then 1 else segs (inodeNextname name) + 1
termination_by name.length
decreasing_by exact length_inodeNextname_lt h

theorem addrs_spine (n : Nat) (name : List Char) (rest : Shape) :
    (spine n name rest).addrs = List.range' n (segs name) ++ rest.addrs := by
  by_cases last : inodeNextname name = []
  · rw [spine, dif_pos last, segs, dif_pos last]
    rfl
  · rw [spine, dif_neg last, segs, dif_neg last, Shape.addrs_node, addrs_spine, List.range'_succ]
    simp
termination_by name.length
decreasing_by exact length_inodeNextname_lt last

section Labels

variable (nm : Nat → List Char) (mt : Nat → Bool)

/-- The fresh nodes are named by their segments and are not mountpoints. -/
def SpineLabels (n : Nat) (name : List Char) : Prop :=
  nm n = inodeNamecpy name ∧ mt n = false ∧
    if h : inodeNextname name = [] then True else SpineLabels (n + 1) (inodeNextname name)
termination_by name.length
decreasing_by exact length_inodeNextname_lt h

/-- The shape `inode_reserve` leaves: the fresh nodes go where `find` stops. -/
def graft (n : Nat) : Shape → List Char → Shape
  | .nil, name => spine n name .nil
  | .node a c p, name =>
    let result := inodeCompare name (nm a)
    if result < 0 then spine n name (.node a c p)
    else if result > 0 then .node a c (graft n p name)
    else
      let name' := inodeNextname name
      if name' = [] ∨ mt a then .node a c p
      else .node a (graft n c name') p

/-- The shape `inode_unlink` leaves: the node `find` finds is taken out of its list
of peers, and its children with it. -/
def prune : Shape → List Char → Shape
  | .nil, _ => .nil
  | .node a c p, name =>
    let result := inodeCompare name (nm a)
    if result < 0 then .node a c p
    else if result > 0 then .node a c (prune p name)
    else
      let name' := inodeNextname name
      if name' = [] ∨ mt a then p
      else .node a (prune c name') p

variable {nm mt}

theorem Sorted.node {lo : Option (List Char)} {a : Nat} {c p : Shape}
    (above : ∀ l, lo = some l → l < nm a) (sortedC : Sorted nm none c)
    (sortedP : Sorted nm (some (nm a)) p) : Sorted nm lo (.node a c p) :=
  And.intro above (And.intro sortedC sortedP)

theorem Sorted.of_some {l : List Char} {lo : Option (List Char)} :
    ∀ {t : Shape}, Sorted nm (some l) t → (∀ l', lo = some l' → l' < l) → Sorted nm lo t
  | .nil, _, _ => trivial
  | .node _ _ _, ⟨above, sortedC, sortedP⟩, below =>
    Sorted.node (fun l' h => List.lt_trans (below l' h) (above l rfl)) sortedC sortedP

theorem SpineLabels.named {n : Nat} {name : List Char} (h : SpineLabels nm mt n name) :
    nm n = inodeNamecpy name := by
  rw [SpineLabels] at h
  exact h.1

/-! ### One step of each walk

Each walk compares the segment with the node's name; these are their equations in
the three cases. -/

section Steps

variable {a n : Nat} {c p : Shape} {name : List Char} {left above : Option Nat}

theorem find_node_of_eq (e : inodeNamecpy name = nm a) :
    find nm mt (.node a c p) name left above =
      if inodeNextname name = [] ∨ mt a then ⟨some a, left, above, inodeNextname name⟩
      else find nm mt c (inodeNextname name) none (some a) := by
  obtain ⟨notNeg, notPos⟩ := inodeCompare_not_neg_not_pos e
  simp only [find, if_neg notNeg, if_neg notPos]

theorem find_node_of_lt (lt : inodeNamecpy name < nm a) :
    find nm mt (.node a c p) name left above = ⟨none, left, above, name⟩ := by
  simp only [find, if_pos (inodeCompare_neg.2 lt)]

theorem find_node_of_gt (gt : nm a < inodeNamecpy name) :
    find nm mt (.node a c p) name left above = find nm mt p name (some a) above := by
  have pos : inodeCompare name (nm a) > 0 := inodeCompare_pos.2 gt
  have notNeg := inodeCompare_not_neg gt
  simp only [find, if_neg notNeg, if_pos pos]

theorem graft_node_of_eq (e : inodeNamecpy name = nm a) :
    graft nm mt n (.node a c p) name =
      if inodeNextname name = [] ∨ mt a then .node a c p
      else .node a (graft nm mt n c (inodeNextname name)) p := by
  obtain ⟨notNeg, notPos⟩ := inodeCompare_not_neg_not_pos e
  simp only [graft, if_neg notNeg, if_neg notPos]

theorem graft_node_of_lt (lt : inodeNamecpy name < nm a) :
    graft nm mt n (.node a c p) name = spine n name (.node a c p) := by
  simp only [graft, if_pos (inodeCompare_neg.2 lt)]

theorem graft_node_of_gt (gt : nm a < inodeNamecpy name) :
    graft nm mt n (.node a c p) name = .node a c (graft nm mt n p name) := by
  have pos : inodeCompare name (nm a) > 0 := inodeCompare_pos.2 gt
  have notNeg := inodeCompare_not_neg gt
  simp only [graft, if_neg notNeg, if_pos pos]

theorem prune_node_of_eq (e : inodeNamecpy name = nm a) :
    prune nm mt (.node a c p) name =
      if inodeNextname name = [] ∨ mt a then p else .node a (prune nm mt c (inodeNextname name)) p := by
  obtain ⟨notNeg, notPos⟩ := inodeCompare_not_neg_not_pos e
  simp only [prune, if_neg notNeg, if_neg notPos]

theorem prune_node_of_lt (lt : inodeNamecpy name < nm a) :
    prune nm mt (.node a c p) name = .node a c p := by
  simp only [prune, if_pos (inodeCompare_neg.2 lt)]

theorem prune_node_of_gt (gt : nm a < inodeNamecpy name) :
    prune nm mt (.node a c p) name = .node a c (prune nm mt p name) := by
  have pos : inodeCompare name (nm a) > 0 := inodeCompare_pos.2 gt
  have notNeg := inodeCompare_not_neg gt
  simp only [prune, if_neg notNeg, if_pos pos]

theorem resolve_node_of_eq (e : nm a = inodeNamecpy name) :
    resolve nm mt (.node a c p) name =
      if inodeNextname name = [] ∨ mt a then some (a, inodeNextname name)
      else resolve nm mt c (inodeNextname name) := by
  simp only [resolve, if_pos e]

theorem resolve_node_of_ne (ne : nm a ≠ inodeNamecpy name) :
    resolve nm mt (.node a c p) name = resolve nm mt p name := by
  simp only [resolve, if_neg ne]

theorem through_node_of_eq (e : nm a = inodeNamecpy name) :
    through nm mt (.node a c p) name =
      a :: if inodeNextname name = [] ∨ mt a then [] else through nm mt c (inodeNextname name) := by
  simp only [through, if_pos e]

theorem through_node_of_ne (ne : nm a ≠ inodeNamecpy name) :
    through nm mt (.node a c p) name = through nm mt p name := by
  simp only [through, if_neg ne]

end Steps

/-! ### What a path names -/

theorem resolve_eq_none_of_lt {name : List Char} :
    ∀ {t : Shape} {l : List Char}, Sorted nm (some l) t → inodeNamecpy name < l →
      resolve nm mt t name = none
  | .nil, _, _, _ => rfl
  | .node a c p, l, ⟨above, _, sortedP⟩, below => by
    have lt : inodeNamecpy name < nm a := List.lt_trans below (above l rfl)
    rw [resolve_node_of_ne (name_ne_of_lt lt)]
    exact resolve_eq_none_of_lt sortedP lt

theorem resolve_node_eq_none {a : Nat} {c p : Shape} {name : List Char}
    (sortedP : Sorted nm (some (nm a)) p) (lt : inodeNamecpy name < nm a) :
    resolve nm mt (.node a c p) name = none := by
  rw [resolve_node_of_ne (name_ne_of_lt lt)]
  exact resolve_eq_none_of_lt sortedP lt

theorem find_hit :
    ∀ {t : Shape} {lo : Option (List Char)}, Sorted nm lo t →
      ∀ {name : List Char} {left above : Option Nat}, (∀ l, lo = some l → l < inodeNamecpy name) →
      (find nm mt t name left above).hit = resolve nm mt t name
  | .nil, _, _, _, _, _, _ => rfl
  | .node a c p, lo, ⟨_, sortedC, sortedP⟩, name, left, above, _ => by
    rcases inodeNamecpy_trichotomy name (nm a) with e | lt | gt
    · -- the segment names this node
      rw [find_node_of_eq e, resolve_node_of_eq e.symm]
      by_cases ends : inodeNextname name = [] ∨ mt a
      · rw [if_pos ends, if_pos ends]
        rfl
      · rw [if_neg ends, if_neg ends]
        exact find_hit sortedC (fun _ h => nomatch h)
    · -- the segment is below this node, and below every peer after it
      rw [find_node_of_lt lt, resolve_node_eq_none sortedP lt]
      rfl
    · -- the segment is above this node: on along the peers
      rw [find_node_of_gt gt, resolve_node_of_ne (name_ne_of_gt gt)]
      exact find_hit sortedP (fun _ h => Option.some.inj h ▸ gt)

theorem resolve_eq_none_of_sorted_self {name : List Char} :
    ∀ {t : Shape}, Sorted nm (some (inodeNamecpy name)) t → resolve nm mt t name = none
  | .nil, _ => rfl
  | .node _ _ _, ⟨above, _, sortedP⟩ => resolve_node_eq_none sortedP (above _ rfl)

theorem mem_addrs_of_resolve {name : List Char} {b : Nat} :
    ∀ {t : Shape}, (resolve nm mt t name).map Prod.fst = some b → b ∈ t.addrs
  | .nil, hit => nomatch hit
  | .node a c p, hit => by
    by_cases same : nm a = inodeNamecpy name
    · rw [resolve_node_of_eq same] at hit
      split_ifs at hit
      · cases hit
        simp
      · simp [mem_addrs_of_resolve hit]
    · rw [resolve_node_of_ne same] at hit
      simp [mem_addrs_of_resolve hit]

theorem mem_addrs_of_through {name : List Char} {b : Nat} :
    ∀ {t : Shape}, b ∈ through nm mt t name → b ∈ t.addrs
  | .nil, on => nomatch on
  | .node a c p, on => by
    by_cases same : nm a = inodeNamecpy name
    · rw [through_node_of_eq same] at on
      split_ifs at on
      · simp_all
      · rcases List.mem_cons.1 on with rfl | below
        · simp
        · simp [mem_addrs_of_through below]
    · rw [through_node_of_ne same] at on
      simp [mem_addrs_of_through on]

theorem lt_of_mem_peers {l : List Char} :
    ∀ {t : Shape}, Sorted nm (some l) t → ∀ x ∈ t.peers, l < nm x
  | .nil, _, _, mem => nomatch mem
  | .node a c p, ⟨above, _, sortedP⟩, x, mem => by
    rcases List.mem_cons.1 mem with rfl | later
    · exact above l rfl
    · exact List.lt_trans (above l rfl) (lt_of_mem_peers sortedP x later)

theorem through_eq_nil_of_lt {name : List Char} :
    ∀ {t : Shape} {l : List Char}, Sorted nm (some l) t → inodeNamecpy name < l →
      through nm mt t name = []
  | .nil, _, _, _ => rfl
  | .node a c p, l, ⟨above, _, sortedP⟩, below => by
    have lt : inodeNamecpy name < nm a := List.lt_trans below (above l rfl)
    rw [through_node_of_ne (name_ne_of_lt lt)]
    exact through_eq_nil_of_lt sortedP lt

/-! ### Where a search that finds nothing stops

`*parent` is the last node the path names a prefix of, and `*peer` the last node of that node's
list of children (or of the top list) whose name is below the first missing segment, which no
node of the list has. -/

/-- The outcome of a search that misses, seen from a list of peers: either it stops in this
list, under `above` and after the last node below the segment (or `left`), or it goes down
into the children of the last node the path names a prefix of, and stops in their list. -/
theorem find_miss :
    ∀ {t : Shape} {lo : Option (List Char)}, Sorted nm lo t → t.addrs.Nodup →
      ∀ {name : List Char} {left above : Option Nat}, (∀ l, lo = some l → l < inodeNamecpy name) →
      resolve nm mt t name = none →
      (find nm mt t name left above).node = none ∧
      ((through nm mt t name = [] ∧ (find nm mt t name left above).parent = above ∧
          (find nm mt t name left above).path = name ∧
          (∀ x ∈ t.peers, nm x ≠ inodeNamecpy name) ∧
          (find nm mt t name left above).peer =
            ((t.peers.filter fun x => nm x < inodeNamecpy name).getLast?).or left) ∨
        ∃ b l, (through nm mt t name).getLast? = some b ∧
          (find nm mt t name left above).parent = some b ∧ t.childrenOf b = some l ∧
          (∀ x ∈ l.peers, nm x ≠ inodeNamecpy (find nm mt t name left above).path) ∧
          (find nm mt t name left above).peer =
            (l.peers.filter fun x => nm x < inodeNamecpy (find nm mt t name left above).path).getLast?)
  | .nil, _, _, _, name, left, above, _, _ => ⟨rfl, .inl ⟨rfl, rfl, rfl, nofun, rfl⟩⟩
  | .node a c p, lo, ⟨_, sortedC, sortedP⟩, nodup, name, left, above, _, missing => by
    obtain ⟨notC, notP, nodupC, nodupP, apart⟩ := Shape.nodup_node nodup
    rcases inodeNamecpy_trichotomy name (nm a) with e | lt | gt
    · -- the segment names this node, and the search goes down into its children
      rw [resolve_node_of_eq e.symm] at missing
      by_cases ends : inodeNextname name = [] ∨ mt a
      · rw [if_pos ends] at missing
        cases missing
      rw [if_neg ends] at missing
      rw [find_node_of_eq e, if_neg ends, through_node_of_eq e.symm, if_neg ends]
      obtain ⟨miss, stop⟩ : (find nm mt c (inodeNextname name) none (some a)).node = none ∧ _ :=
        find_miss sortedC nodupC (fun _ h => nomatch h) missing
      refine ⟨miss, .inr ?_⟩
      rcases stop with ⟨none', parent, path, absent, peer⟩ | ⟨b, l, last, parent, under, absent, peer⟩
      · -- it stops in the list of this node's children
        refine ⟨a, c, by rw [none']; rfl, parent, by simp [Shape.childrenOf], ?_, ?_⟩
        · rw [path]
          exact absent
        · rw [peer, path, Option.or_none]
      · -- it stops further down, under a node of the children's tree
        have inC : b ∈ c.addrs := by
          have := List.mem_of_getLast? last
          exact mem_addrs_of_through this
        have ne : a ≠ b := fun same => notC (same ▸ inC)
        refine ⟨b, l, ?_, parent, ?_, absent, peer⟩
        · rw [List.getLast?_cons, last]
          rfl
        · simp [Shape.childrenOf, ne, under]
    · -- the segment is below this node and every peer after it: the search stops here
      have later := lt_of_mem_peers sortedP
      rw [find_node_of_lt lt, through_node_of_ne (name_ne_of_lt lt),
        through_eq_nil_of_lt sortedP lt]
      refine ⟨rfl, .inl ⟨rfl, rfl, rfl, ?_, ?_⟩⟩
      · intro x mem
        rcases List.mem_cons.1 mem with rfl | after
        · exact name_ne_of_lt lt
        · exact name_ne_of_lt (List.lt_trans lt (later x after))
      · -- no node of the list is below the segment
        have none' : ((Shape.node a c p).peers.filter fun x => nm x < inodeNamecpy name) = [] := by
          rw [List.filter_eq_nil_iff]
          intro x mem below
          rcases List.mem_cons.1 mem with rfl | after
          · exact List.lt_asymm lt (of_decide_eq_true below)
          · exact List.lt_asymm (List.lt_trans lt (later x after)) (of_decide_eq_true below)
        rw [none']
        rfl
    · -- the segment is above this node: on along the peers, with this node on the left
      rw [resolve_node_of_ne (name_ne_of_gt gt)] at missing
      rw [find_node_of_gt gt, through_node_of_ne (name_ne_of_gt gt)]
      obtain ⟨miss, stop⟩ : (find nm mt p name (some a) above).node = none ∧ _ :=
        find_miss sortedP nodupP (fun _ h => Option.some.inj h ▸ gt) missing
      refine ⟨miss, ?_⟩
      rcases stop with ⟨none', parent, path, absent, peer⟩ | ⟨b, l, last, parent, under, absent, peer⟩
      · refine .inl ⟨none', parent, path, ?_, ?_⟩
        · intro x mem
          rcases List.mem_cons.1 mem with rfl | after
          · exact name_ne_of_gt gt
          · exact absent x after
        · rw [peer]
          simp only [Shape.peers, List.filter_cons, decide_eq_true gt, if_true]
          rw [List.getLast?_cons]
          cases (p.peers.filter fun x => nm x < inodeNamecpy name).getLast? <;> rfl
      · have inP : b ∈ p.addrs := mem_addrs_of_through (List.mem_of_getLast? last)
        have ne : a ≠ b := fun same => notP (same ▸ inP)
        refine .inr ⟨b, l, last, parent, ?_, absent, peer⟩
        simp [Shape.childrenOf, ne, Shape.childrenOf_eq_none (fun inC => apart b inC inP), under]

/-! ### The fresh nodes -/

theorem resolve_spine {n : Nat} {name : List Char} (rest : Shape)
    (labels : SpineLabels nm mt n name) :
    resolve nm mt (spine n name rest) name = some (n + segs name - 1, []) := by
  rw [SpineLabels] at labels
  obtain ⟨named, plain, more⟩ := labels
  by_cases last : inodeNextname name = []
  · rw [spine, dif_pos last, segs, dif_pos last, resolve_node_of_eq named, if_pos (Or.inl last), last]
    rfl
  · rw [dif_neg last] at more
    have goOn : ¬(inodeNextname name = [] ∨ mt n = true) := by simp [last, plain]
    rw [spine, dif_neg last, segs, dif_neg last, resolve_node_of_eq named, if_neg goOn,
      resolve_spine .nil more]
    congr 2
    omega
termination_by name.length
decreasing_by exact length_inodeNextname_lt last

theorem resolve_spine_of_ne {n : Nat} {name q : List Char} {rest : Shape}
    (ne : nm n ≠ inodeNamecpy q) : resolve nm mt (spine n name rest) q = resolve nm mt rest q := by
  rw [spine]
  split <;> exact resolve_node_of_ne ne

theorem sorted_spine {n : Nat} {name : List Char} {lo : Option (List Char)} {rest : Shape}
    (labels : SpineLabels nm mt n name) (bound : ∀ l, lo = some l → l < inodeNamecpy name)
    (sortedRest : Sorted nm (some (inodeNamecpy name)) rest) : Sorted nm lo (spine n name rest) := by
  rw [SpineLabels] at labels
  obtain ⟨named, _, more⟩ := labels
  rw [spine]
  split_ifs with last
  · exact Sorted.node (named ▸ bound) trivial (named ▸ sortedRest)
  · rw [dif_neg last] at more
    exact Sorted.node (named ▸ bound) (sorted_spine more (fun _ h => nomatch h) trivial)
      (named ▸ sortedRest)
termination_by name.length
decreasing_by exact length_inodeNextname_lt last

/-! ### `inode_reserve`: the tree stays sorted, the path is found, nothing is lost -/

section Graft

variable {n : Nat}

theorem sorted_graft :
    ∀ {t : Shape} {name : List Char} {lo : Option (List Char)} {left above : Option Nat},
      Sorted nm lo t → (∀ l, lo = some l → l < inodeNamecpy name) → resolve nm mt t name = none →
      SpineLabels nm mt n (find nm mt t name left above).path → Sorted nm lo (graft nm mt n t name)
  | .nil, _, _, _, _, _, bound, _, labels => sorted_spine labels bound trivial
  | .node a c p, name, lo, left, above, ⟨below, sortedC, sortedP⟩, bound, miss, labels => by
    rcases inodeNamecpy_trichotomy name (nm a) with e | lt | gt
    · -- the segment names this node: the path goes on below it
      rw [resolve_node_of_eq e.symm] at miss
      rw [find_node_of_eq e] at labels
      rw [graft_node_of_eq e]
      by_cases stop : inodeNextname name = [] ∨ mt a
      · rw [if_pos stop] at miss
        cases miss
      · rw [if_neg stop] at miss labels ⊢
        exact Sorted.node below (sorted_graft sortedC (fun _ h => nomatch h) miss labels) sortedP
    · -- the fresh nodes go before this one
      rw [find_node_of_lt lt] at labels
      rw [graft_node_of_lt lt]
      exact sorted_spine labels bound (Sorted.node (fun _ h => Option.some.inj h ▸ lt) sortedC sortedP)
    · rw [resolve_node_of_ne (name_ne_of_gt gt)] at miss
      rw [find_node_of_gt gt] at labels
      rw [graft_node_of_gt gt]
      exact Sorted.node below sortedC
        (sorted_graft sortedP (fun _ h => Option.some.inj h ▸ gt) miss labels)

theorem resolve_graft_self :
    ∀ {t : Shape} {name : List Char} {left above : Option Nat},
      resolve nm mt t name = none → SpineLabels nm mt n (find nm mt t name left above).path →
      resolve nm mt (graft nm mt n t name) name =
        some (n + segs (find nm mt t name left above).path - 1, [])
  | .nil, _, _, _, _, labels => resolve_spine .nil labels
  | .node a c p, name, left, above, miss, labels => by
    rcases inodeNamecpy_trichotomy name (nm a) with e | lt | gt
    · rw [resolve_node_of_eq e.symm] at miss
      rw [find_node_of_eq e] at labels ⊢
      rw [graft_node_of_eq e]
      by_cases stop : inodeNextname name = [] ∨ mt a
      · rw [if_pos stop] at miss
        cases miss
      · simp only [if_neg stop] at miss labels ⊢
        rw [resolve_node_of_eq e.symm, if_neg stop]
        exact resolve_graft_self miss labels
    · rw [find_node_of_lt lt] at labels ⊢
      rw [graft_node_of_lt lt]
      exact resolve_spine _ labels
    · rw [resolve_node_of_ne (name_ne_of_gt gt)] at miss
      rw [find_node_of_gt gt] at labels ⊢
      rw [graft_node_of_gt gt, resolve_node_of_ne (name_ne_of_gt gt)]
      exact resolve_graft_self miss labels

theorem resolve_graft {q : List Char} {r : Nat × List Char} :
    ∀ {t : Shape} {name : List Char} {lo : Option (List Char)} {left above : Option Nat},
      Sorted nm lo t → SpineLabels nm mt n (find nm mt t name left above).path →
      resolve nm mt t q = some r → resolve nm mt (graft nm mt n t name) q = some r
  | .nil, _, _, _, _, _, _, found => nomatch found
  | .node a c p, name, lo, left, above, ⟨_, sortedC, sortedP⟩, labels, found => by
    rcases inodeNamecpy_trichotomy name (nm a) with e | lt | gt
    · rw [find_node_of_eq e] at labels
      rw [graft_node_of_eq e]
      by_cases stop : inodeNextname name = [] ∨ mt a
      · rw [if_pos stop]
        exact found
      · rw [if_neg stop] at labels ⊢
        by_cases same : nm a = inodeNamecpy q
        · rw [resolve_node_of_eq same] at found ⊢
          split_ifs at found ⊢
          · exact found
          · exact resolve_graft sortedC labels found
        · rw [resolve_node_of_ne same] at found ⊢
          exact found
    · -- `q` does not start with the segment: its node is not below this one
      rw [find_node_of_lt lt] at labels
      rw [graft_node_of_lt lt, resolve_spine_of_ne]
      · exact found
      · intro same
        rw [labels.named] at same
        rw [resolve_node_eq_none sortedP (same ▸ lt)] at found
        cases found
    · rw [find_node_of_gt gt] at labels
      rw [graft_node_of_gt gt]
      by_cases same : nm a = inodeNamecpy q
      · rw [resolve_node_of_eq same] at found ⊢
        exact found
      · rw [resolve_node_of_ne same] at found ⊢
        exact resolve_graft sortedP labels found

theorem addrs_graft :
    ∀ {t : Shape} {name : List Char} {left above : Option Nat}, resolve nm mt t name = none →
      (graft nm mt n t name).addrs.Perm
        (List.range' n (segs (find nm mt t name left above).path) ++ t.addrs)
  | .nil, name, _, _, _ => by
    rw [graft, addrs_spine]
    rfl
  | .node a c p, name, left, above, miss => by
    rcases inodeNamecpy_trichotomy name (nm a) with e | lt | gt
    · rw [resolve_node_of_eq e.symm] at miss
      rw [find_node_of_eq e, graft_node_of_eq e]
      by_cases stop : inodeNextname name = [] ∨ mt a
      · rw [if_pos stop] at miss
        cases miss
      · rw [if_neg stop] at miss ⊢
        rw [if_neg stop]
        simp only [Shape.addrs_node]
        calc List.Perm (a :: ((graft nm mt n c _).addrs ++ p.addrs))
              (a :: ((List.range' n _ ++ c.addrs) ++ p.addrs)) :=
              ((addrs_graft miss).append_right _).cons a
          List.Perm _ _ := by
              rw [List.append_assoc]
              exact List.perm_middle.symm
    · rw [find_node_of_lt lt, graft_node_of_lt lt, addrs_spine]
    · rw [resolve_node_of_ne (name_ne_of_gt gt)] at miss
      rw [find_node_of_gt gt, graft_node_of_gt gt]
      simp only [Shape.addrs_node]
      calc List.Perm (a :: (c.addrs ++ (graft nm mt n p _).addrs))
            (a :: (c.addrs ++ (List.range' n _ ++ p.addrs))) :=
            ((addrs_graft miss).append_left _).cons a
        List.Perm _ (a :: (List.range' n _ ++ (c.addrs ++ p.addrs))) :=
            (List.perm_append_comm_assoc ..).cons a
        List.Perm _ _ := List.perm_middle.symm

end Graft

/-! ### `inode_unlink`: the tree stays sorted, and only paths through the node are lost -/

theorem prune_addrs_sublist :
    ∀ {t : Shape} {name : List Char}, (prune nm mt t name).addrs.Sublist t.addrs
  | .nil, _ => List.Sublist.refl _
  | .node a c p, name => by
    rcases inodeNamecpy_trichotomy name (nm a) with e | lt | gt
    · rw [prune_node_of_eq e]
      by_cases stop : inodeNextname name = [] ∨ mt a
      · rw [if_pos stop]
        exact (List.sublist_append_right _ _).cons a
      · rw [if_neg stop]
        exact (prune_addrs_sublist.append_right _).cons_cons a
    · rw [prune_node_of_lt lt]
    · rw [prune_node_of_gt gt]
      exact (prune_addrs_sublist.append_left _).cons_cons a

theorem sorted_prune :
    ∀ {t : Shape} {name : List Char} {lo : Option (List Char)},
      Sorted nm lo t → Sorted nm lo (prune nm mt t name)
  | .nil, _, _, sorted => sorted
  | .node a c p, name, lo, ⟨below, sortedC, sortedP⟩ => by
    rcases inodeNamecpy_trichotomy name (nm a) with e | lt | gt
    · rw [prune_node_of_eq e]
      by_cases stop : inodeNextname name = [] ∨ mt a
      · -- the peers after the unlinked node take its place
        rw [if_pos stop]
        exact sortedP.of_some below
      · rw [if_neg stop]
        exact Sorted.node below (sorted_prune sortedC) sortedP
    · rw [prune_node_of_lt lt]
      exact Sorted.node below sortedC sortedP
    · rw [prune_node_of_gt gt]
      exact Sorted.node below sortedC (sorted_prune sortedP)

theorem resolve_prune_self :
    ∀ {t : Shape} {name : List Char} {lo : Option (List Char)},
      Sorted nm lo t → resolve nm mt (prune nm mt t name) name = none
  | .nil, _, _, _ => rfl
  | .node a c p, name, lo, ⟨_, sortedC, sortedP⟩ => by
    rcases inodeNamecpy_trichotomy name (nm a) with e | lt | gt
    · rw [prune_node_of_eq e]
      by_cases stop : inodeNextname name = [] ∨ mt a
      · rw [if_pos stop]
        exact resolve_eq_none_of_sorted_self (by rw [e]; exact sortedP)
      · rw [if_neg stop, resolve_node_of_eq e.symm, if_neg stop]
        exact resolve_prune_self sortedC
    · rw [prune_node_of_lt lt]
      exact resolve_node_eq_none sortedP lt
    · rw [prune_node_of_gt gt, resolve_node_of_ne (name_ne_of_gt gt)]
      exact resolve_prune_self sortedP

theorem resolve_prune {q : List Char} {r : Nat × List Char} :
    ∀ {t : Shape} {name : List Char},
      (∀ b, (resolve nm mt t name).map Prod.fst = some b → b ∉ through nm mt t q) →
      resolve nm mt t q = some r → resolve nm mt (prune nm mt t name) q = some r
  | .nil, _, _, found => nomatch found
  | .node a c p, name, apart, found => by
    rcases inodeNamecpy_trichotomy name (nm a) with e | lt | gt
    · rw [prune_node_of_eq e]
      rw [resolve_node_of_eq e.symm] at apart
      by_cases stop : inodeNextname name = [] ∨ mt a
      · -- this node is the one unlinked, so `q` does not start here
        rw [if_pos stop] at apart ⊢
        have notHere : nm a ≠ inodeNamecpy q := by
          intro same
          apply apart a rfl
          rw [through_node_of_eq same]
          exact List.mem_cons_self
        rwa [resolve_node_of_ne notHere] at found
      · rw [if_neg stop] at apart ⊢
        by_cases same : nm a = inodeNamecpy q
        · rw [resolve_node_of_eq same] at found ⊢
          by_cases qstop : inodeNextname q = [] ∨ mt a
          · rw [if_pos qstop] at found ⊢
            exact found
          · rw [if_neg qstop] at found ⊢
            refine resolve_prune (fun b hit below => apart b hit ?_) found
            rw [through_node_of_eq same, if_neg qstop]
            exact List.mem_cons_of_mem _ below
        · rw [resolve_node_of_ne same] at found ⊢
          exact found
    · rw [prune_node_of_lt lt]
      exact found
    · rw [prune_node_of_gt gt]
      rw [resolve_node_of_ne (name_ne_of_gt gt)] at apart
      by_cases same : nm a = inodeNamecpy q
      · rw [resolve_node_of_eq same] at found ⊢
        exact found
      · rw [resolve_node_of_ne same] at found ⊢
        refine resolve_prune (fun b hit below => apart b hit ?_) found
        rw [through_node_of_ne same]
        exact below

theorem resolve_prune_through {q : List Char} {b : Nat} :
    ∀ {t : Shape} {name : List Char} {lo : Option (List Char)}, t.addrs.Nodup → Sorted nm lo t →
      (resolve nm mt t name).map Prod.fst = some b → b ∈ through nm mt t q →
      resolve nm mt (prune nm mt t name) q = none
  | .nil, _, _, _, _, _, on => nomatch on
  | .node a c p, name, lo, nodup, ⟨_, sortedC, sortedP⟩, hit, on => by
    obtain ⟨notC, notP, nodupC, nodupP, apart⟩ := Shape.nodup_node nodup
    rcases inodeNamecpy_trichotomy name (nm a) with e | lt | gt
    · rw [resolve_node_of_eq e.symm] at hit
      rw [prune_node_of_eq e]
      by_cases stop : inodeNextname name = [] ∨ mt a
      · -- the unlinked node is this one: `q` meets it here or not at all
        rw [if_pos stop] at hit ⊢
        cases hit
        by_cases same : nm a = inodeNamecpy q
        · exact resolve_eq_none_of_sorted_self (by rw [← same]; exact sortedP)
        · rw [through_node_of_ne same] at on
          exact absurd (mem_addrs_of_through on) notP
      · -- the unlinked node is below this one
        rw [if_neg stop] at hit ⊢
        have inC := mem_addrs_of_resolve hit
        by_cases same : nm a = inodeNamecpy q
        · rw [through_node_of_eq same] at on
          rw [resolve_node_of_eq same]
          by_cases qstop : inodeNextname q = [] ∨ mt a
          · rw [if_pos qstop] at on
            rw [List.mem_singleton.1 on] at inC
            exact absurd inC notC
          · rw [if_neg qstop] at on ⊢
            rcases List.mem_cons.1 on with rfl | onC
            · exact absurd inC notC
            · exact resolve_prune_through nodupC sortedC hit onC
        · rw [through_node_of_ne same] at on
          exact absurd (mem_addrs_of_through on) (apart b inC)
    · rw [resolve_node_eq_none sortedP lt] at hit
      cases hit
    · -- the unlinked node is among the peers after this one
      rw [resolve_node_of_ne (name_ne_of_gt gt)] at hit
      rw [prune_node_of_gt gt]
      have inP := mem_addrs_of_resolve hit
      by_cases same : nm a = inodeNamecpy q
      · rw [through_node_of_eq same] at on
        rcases List.mem_cons.1 on with rfl | below
        · exact absurd inP notP
        · split_ifs at below
          · cases below
          · exact absurd inP (apart b (mem_addrs_of_through below))
      · rw [through_node_of_ne same] at on
        rw [resolve_node_of_ne same]
        exact resolve_prune_through nodupP sortedP hit on

/-! ### Only the labels of the shape's own nodes matter -/

section Congr

variable {nm' : Nat → List Char} {mt' : Nat → Bool}

theorem find_congr : ∀ {t : Shape}, (∀ b ∈ t.addrs, nm' b = nm b ∧ mt' b = mt b) →
    ∀ name left above, find nm' mt' t name left above = find nm mt t name left above
  | .nil, _, _, _, _ => rfl
  | .node a c p, same, name, left, above => by
    obtain ⟨here, sameC, sameP⟩ := Shape.forall_mem_node.1 same
    simp only [find, here.1, here.2, find_congr sameC, find_congr sameP]

theorem resolve_congr : ∀ {t : Shape}, (∀ b ∈ t.addrs, nm' b = nm b ∧ mt' b = mt b) →
    ∀ name, resolve nm' mt' t name = resolve nm mt t name
  | .nil, _, _ => rfl
  | .node a c p, same, name => by
    obtain ⟨here, sameC, sameP⟩ := Shape.forall_mem_node.1 same
    simp only [resolve, here.1, here.2, resolve_congr sameC, resolve_congr sameP]

theorem graft_congr {n : Nat} : ∀ {t : Shape}, (∀ b ∈ t.addrs, nm' b = nm b ∧ mt' b = mt b) →
    ∀ name, graft nm' mt' n t name = graft nm mt n t name
  | .nil, _, _ => rfl
  | .node a c p, same, name => by
    obtain ⟨here, sameC, sameP⟩ := Shape.forall_mem_node.1 same
    simp only [graft, here.1, here.2, graft_congr sameC, graft_congr sameP]

theorem Sorted.congr {lo : Option (List Char)} :
    ∀ {t : Shape}, (∀ b ∈ t.addrs, nm' b = nm b) → Sorted nm lo t → Sorted nm' lo t
  | .nil, _, _ => trivial
  | .node a c p, same, ⟨above, sortedC, sortedP⟩ => by
    obtain ⟨here, sameC, sameP⟩ := Shape.forall_mem_node.1 same
    refine Sorted.node (fun l h => here ▸ above l h) (Sorted.congr sameC sortedC) ?_
    rw [here]
    exact Sorted.congr sameP sortedP

end Congr

theorem length_inodeNextname_le : ∀ (name : List Char), (inodeNextname name).length ≤ name.length
  | [] => Nat.le_refl _
  | c :: rest => by
    by_cases slash : c = '/'
    · simp [inodeNextname, slash]
    · rw [inodeNextname, if_neg slash]
      exact Nat.le_succ_of_le (length_inodeNextname_le rest)

theorem length_find_path : ∀ {t : Shape} {name : List Char} {left above : Option Nat},
    (find nm mt t name left above).path.length ≤ name.length
  | .nil, _, _, _ => Nat.le_refl _
  | .node a c p, name, left, above => by
    rcases inodeNamecpy_trichotomy name (nm a) with e | lt | gt
    · rw [find_node_of_eq e]
      by_cases ends : inodeNextname name = [] ∨ mt a
      · rw [if_pos ends]
        exact length_inodeNextname_le name
      · rw [if_neg ends]
        exact Nat.le_trans length_find_path (length_inodeNextname_le name)
    · exact Nat.le_of_eq (by rw [find_node_of_lt lt])
    · rw [find_node_of_gt gt]
      exact length_find_path

end Labels

theorem searchLoop_eq_find {heap : Nat → Option Inode} {ptr : Option Nat} {t : Shape}
    (h : Rep Inode.child Inode.peer heap ptr t) :
    ∀ {fuel : Nat} (name : List Char) (left above : Option Nat), t.size < fuel →
      searchLoop heap fuel name ptr left above =
        some (find (nameOf heap) (mountOf heap) t name left above) := by
  induction h with
  | nil =>
    intro fuel name left above enough
    obtain ⟨k, rfl⟩ : ∃ k, fuel = k + 1 := ⟨fuel - 1, by simp at enough; omega⟩
    rfl
  | @node a x c p hx _ _ ihc ihp =>
    intro fuel name left above enough
    simp only [Shape.size_node] at enough
    obtain ⟨k, rfl⟩ : ∃ k, fuel = k + 1 := ⟨fuel - 1, by omega⟩
    have hname : nameOf heap a = x.name := by simp [nameOf, hx]
    have hmount : mountOf heap a = inodeIsMountpt x := by simp [mountOf, hx]
    simp only [searchLoop, hx, find, hname, hmount]
    split_ifs
    · rfl
    · exact ihp _ _ _ (by omega)
    · rfl
    · exact ihc _ _ _ (by omega)

end TinyAra.Fs.Inode
