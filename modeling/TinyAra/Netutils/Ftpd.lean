/-
# Netutils.Ftpd -- how the FTP server resolves a client's path

`ftpd_getpath` resolves a client's path against the session's working directory, and the result
under the session's home directory.  `ftpd_path2node` cuts a path into a list of
`struct ftpd_pathnode_s`, one node per token between the separators `/` and `\`, so that a path
that starts with a separator starts with an empty node, the root.  `ftpd_pathignore` marks the
nodes that do not count: an empty name after the first node, `.`, `..`, and for a `..` the
nearest unmarked node before it when that node has a name.  `ftpd_nodeappend` links one list
after another (or replaces the first by a list that starts at the root) and marks the whole list
again; `ftpd_node2path` sizes and then prints the unmarked names, with a `/` after each but the
last and a lone root printed as `/`.

A C string is the list of its characters before the NUL; `session->work` and `session->home`
when NULL are read as `""`, as the code does. The nodes are a list in `flink` order;
`ftpd_pathignore` sees the nodes before its node through `blink`, nearest first, that is, the
reversed list before it.  The heap's answer to each `malloc` of `ftpd_getpath` is an input, in
the order they are made; `malloc(0)` is NULL whatever it answers, as in `mm_malloc`.  A refused
name ends the loop of `ftpd_path2node` with the nodes it has, so the home directory can lose
its last segments, and the absolute path leaves it (`ftpdGetpath_leaves_home_on_refusal`).

The spec is the usual stack reading of a path (`canon`): empty and `.` segments are dropped, a
`..` pops the segment kept last and never the root, and what remains is printed after a `/`.

* `kept_pathignoreEach`, `foldl_keptStep_rooted`: the unmarked names of a marked list are a stack
  that after the root is `canon`'s stack with the root below it;
* `pathTokens_foldl`: the tokens of `ftpd_path2node` and the segments of the spec differ only in
  empty segments, which neither reading counts;
* `node2pathSize_eq`, `ftpdNode2path_fills`: the two passes of `ftpd_node2path` agree, so the
  printed path and its NUL fill the buffer exactly;
* `ftpdGetpath_eq`: for an absolute working and home directory and a heap that grants every
  allocation, the working path is `resolve` and the absolute path is home's `canon` followed by
  it, so no path leaves the home directory.
-/
import Mathlib.Data.List.Basic

namespace TinyAra.Netutils.Ftpd

set_option autoImplicit false

/-- `ENOMEM` (errno.h); `ftpd_getpath` returns it negated. -/
def enomem : Int := 12

/-! ## The code -/

/-- `isspace` in the C locale: the space, and `\t` through `\r`. -/
def isspace (c : Char) : Bool := c.toNat == 32 || (9 ≤ c.toNat && c.toNat ≤ 13)

/-- The scan of `ftpd_strtok_alloc` from `sptr`, `pos` characters after `left`, with the token
ending at `right` so far. It stops at a delimiter or at the NUL and returns `right` and the
string from where it stopped. -/
def strtokScan (skipspace : Bool) (delimiters : List Char) :
    List Char → Nat → Nat → Nat × List Char
  | [], _, right => (right, [])
  | c :: cs, pos, right =>
    if c ∈ delimiters then (right, c :: cs)
    else
      -- `sptr++`; `right = sptr` unless it would end the token on a space to be skipped
      strtokScan skipspace delimiters cs (pos + 1)
        (if !skipspace || !isspace (cs.headD (Char.ofNat 0)) then pos + 1 else right)

/-- `ftpd_strtok_alloc(skipspace, delimiters, &str)`: the token it allocates, and `*str` after
it. -/
def ftpdStrtokAlloc (skipspace : Bool) (delimiters str : List Char) : List Char × List Char :=
  let sptr := if skipspace then str.dropWhile isspace else str
  let scan := strtokScan skipspace delimiters sptr 0 0
  (sptr.take scan.1, scan.2)

def ftpdDelimiters : List Char := ['/', '\\']

/-- The tokens of the loop of `ftpd_path2node`: a token, then the separator after it is
skipped. A round takes at least one character, so `path.length` rounds are enough. -/
def pathTokens : Nat → List Char → List (List Char)
  | 0, _ => []
  | _ + 1, [] => []
  | fuel + 1, c :: cs =>
    let token := ftpdStrtokAlloc false ftpdDelimiters (c :: cs)
    token.1 :: pathTokens fuel token.2.tail

/-- `struct ftpd_pathnode_s` without its links. -/
structure Pathnode where
  name : List Char
  ignore : Bool
  deriving DecidableEq, Repr

/-- A node as `ftpd_path2node` makes it, and as `ftpd_nodeappend` clears it. -/
def unmarked (name : List Char) : Pathnode := ⟨name, false⟩

@[simp] theorem unmarked_name (name : List Char) : (unmarked name).name = name := rfl

/-- The walk of `ftpd_pathignore` for a `..`: back along `blink`, the first node not yet
ignored is ignored if it has a name, and the walk stops there. -/
def cancelBack : List Pathnode → List Pathnode
  | [] => []
  | node :: rest =>
    if !node.ignore then
      (if 0 < node.name.length then { node with ignore := true } else node) :: rest
    else node :: cancelBack rest

/-- `ftpd_pathignore(currpath)`, where `blink` lists the nodes before `currpath`, nearest
first; it returns both with the marks it sets. -/
def ftpdPathignore (blink : List Pathnode) (currpath : Pathnode) : List Pathnode × Pathnode :=
  if currpath.name.length = 0 then
    (blink, if blink = [] then currpath else { currpath with ignore := true })
  else if currpath.name = ['.', '.'] then
    (cancelBack blink, { currpath with ignore := true })
  else if currpath.name = ['.'] then
    (blink, { currpath with ignore := true })
  else (blink, currpath)

/-- `ftpd_pathignore` on each of `nodes` in turn, each after the nodes before it; the result
lists all of them, nearest first. -/
def pathignoreEach : List Pathnode → List Pathnode → List Pathnode
  | blink, [] => blink
  | blink, node :: nodes =>
    let marked := ftpdPathignore blink node
    pathignoreEach (marked.2 :: marked.1) nodes

/-- The nodes of `ftpd_path2node` when the heap grants every allocation: a node per token, each
marked as it is linked. -/
def pathNodes (path : List Char) : List Pathnode :=
  (pathignoreEach [] ((pathTokens path.length path).map unmarked)).reverse

/-- The loop of `ftpd_path2node` over the rest of the path, `n` allocations in, after the nodes
`blink`, nearest first: the nodes and the allocations made. A round asks the heap for the
token's name (`ftpd_strtok_alloc`) and then for its node. -/
def path2nodeLoop (heap : Nat → Bool) :
    Nat → List Char → Nat → List Pathnode → List Pathnode × Nat
  | 0, _, n, blink => (blink, n)
  | _ + 1, [], n, blink => (blink, n)
  | fuel + 1, c :: cs, n, blink =>
    let token := ftpdStrtokAlloc false ftpdDelimiters (c :: cs)
    -- a refused name ends the loop with the nodes linked so far
    if !heap n then (blink, n + 1)
    -- a refused node frees them all, and the result is NULL
    else if !heap (n + 1) then ([], n + 2)
    else
      let marked := ftpdPathignore blink (unmarked token.1)
      path2nodeLoop heap fuel token.2.tail (n + 2) (marked.2 :: marked.1)

/-- `ftpd_path2node(path)`, `n` allocations in: the nodes, where `[]` is the NULL it returns,
and the allocations made. -/
def ftpdPath2node (heap : Nat → Bool) (n : Nat) (path : List Char) : List Pathnode × Nat :=
  let run := path2nodeLoop heap path.length path n []
  (run.1.reverse, run.2)

/-- `ftpd_nodeappend(head, node, override)`: `node` is linked after `head`, or replaces it when
`override` is set and `node` starts at the root; then every mark is cleared and set again from
the head. -/
def ftpdNodeappend (head node : List Pathnode) (override : Bool) : List Pathnode :=
  let head := if override && node.head?.any (fun first => first.name.length == 0) then [] else head
  (pathignoreEach [] ((head ++ node).map fun temp => { temp with ignore := false })).reverse

/-- `node2` in `ftpd_node2path`: the node printed after the current one, if any. -/
def nextPrinted (strip : Bool) : List Pathnode → Option Pathnode
  | [] => none
  | node :: nodes => if strip && node.ignore then nextPrinted strip nodes else some node

/-- The first pass of `ftpd_node2path`: the size it allocates. -/
def node2pathSize (strip : Bool) : List Pathnode → Nat
  | [] => 0
  | node1 :: nodes =>
    if strip && node1.ignore then node2pathSize strip nodes
    else
      (match nextPrinted strip nodes with
        | none => if node1.name.length ≤ 0 then 2 else node1.name.length + 1
        | some _ => node1.name.length + 1) + node2pathSize strip nodes

/-- The second pass of `ftpd_node2path`: what its `sprintf`s write, without the final NUL. -/
def node2pathText (strip : Bool) : List Pathnode → List Char
  | [] => []
  | node1 :: nodes =>
    if strip && node1.ignore then node2pathText strip nodes
    else
      (match nextPrinted strip nodes with
        | none => if node1.name.length ≤ 0 then ['/'] else node1.name
        | some _ => node1.name ++ ['/']) ++ node2pathText strip nodes

/-- `ftpd_node2path(node, strip)`, where `granted` is the heap's answer to its `malloc`: NULL for
no node, for a refusal, and for a size of zero, since `malloc(0)` is NULL whatever the heap
answers. -/
def ftpdNode2path (node : List Pathnode) (strip granted : Bool) : Option (List Char) :=
  if node = [] then none
  else if node2pathSize strip node = 0 then none
  else if granted then some (node2pathText strip node) else none

/-- `ftpd_getpath(session, path, &abspath, &workpath)` with `session->home` and
`session->work`, where `heap` answers its allocations in order: the absolute path and the new
working path, or `-ENOMEM`. Each `ftpdPath2node` gives its nodes and the allocations made so
far. -/
def ftpdGetpath (heap : Nat → Bool) (home work path : List Char) :
    Except Int (List Char × List Char) := do
  let worknode := ftpdPath2node heap 0 work
  if worknode.1 = [] then throw (-enomem)
  let appendnode := ftpdPath2node heap worknode.2 path
  let some workpath := ftpdNode2path (ftpdNodeappend worknode.1 appendnode.1 true) true
    (heap appendnode.2) | throw (-enomem)
  let abspathNode := ftpdPath2node heap (appendnode.2 + 1) home
  if abspathNode.1 = [] then throw (-enomem)
  let appendnode := ftpdPath2node heap abspathNode.2 workpath
  let some abspath := ftpdNode2path (ftpdNodeappend abspathNode.1 appendnode.1 false) true
    (heap appendnode.2) | throw (-enomem)
  return (abspath, workpath)

/-! ## The spec -/

def isSep (c : Char) : Bool := c == '/' || c == '\\'

/-- The segments between separators, empty ones included. -/
def segments (path : List Char) : List (List Char) := path.splitOnP isSep

/-- A path is absolute when it starts with a separator. -/
def absolute : List Char → Bool
  | c :: _ => isSep c
  | [] => false

/-- One segment read onto the stack of kept segments, last kept first: empty and `.` segments
are dropped, and `..` pops a segment if there is one. -/
def canonStep (stack : List (List Char)) (seg : List Char) : List (List Char) :=
  if seg = [] ∨ seg = ['.'] then stack
  else if seg = ['.', '.'] then stack.tail
  else seg :: stack

/-- The segments a list of segments leaves, from the root on. -/
def canon (segs : List (List Char)) : List (List Char) :=
  (segs.foldl canonStep []).reverse

/-- `path` resolved against the working directory `work`. -/
def resolve (work path : List Char) : List (List Char) :=
  canon (if absolute path then segments path else segments work ++ segments path)

/-- The segments joined by single separators after a leading `/`. -/
def render (segs : List (List Char)) : List Char :=
  '/' :: ['/'].intercalate segs

/-! ## The tokens -/

section Tokens

variable (delimiters : List Char)

/-- Without `skipspace`, the scan stops at the first delimiter and the token is all before it. -/
theorem strtokScan_spec (s : List Char) (pos : Nat) :
    ∃ token rest, strtokScan false delimiters s pos pos = (pos + token.length, rest) ∧
      s = token ++ rest ∧ (∀ c ∈ token, c ∉ delimiters) ∧
      ∀ c cs, rest = c :: cs → c ∈ delimiters := by
  induction s generalizing pos with
  | nil => exact ⟨[], [], rfl, rfl, by simp, by simp⟩
  | cons c cs ih =>
    by_cases delim : c ∈ delimiters
    · refine ⟨[], c :: cs, by simp [strtokScan, delim], rfl, by simp, ?_⟩
      rintro _ _ ⟨⟩
      exact delim
    · obtain ⟨token, rest, scan, split, clean, stop⟩ := ih (pos + 1)
      refine ⟨c :: token, rest, ?_, by simp [split], ?_, stop⟩
      · simp only [strtokScan, delim, if_false, Bool.not_false, Bool.true_or, if_true, scan,
          List.length_cons]
        congr 1
        omega
      · simpa [delim] using clean

theorem ftpdStrtokAlloc_spec (str : List Char) :
    ∃ token rest, ftpdStrtokAlloc false delimiters str = (token, rest) ∧ str = token ++ rest ∧
      (∀ c ∈ token, c ∉ delimiters) ∧ ∀ c cs, rest = c :: cs → c ∈ delimiters := by
  obtain ⟨token, rest, scan, split, clean, stop⟩ := strtokScan_spec delimiters str 0
  refine ⟨token, rest, ?_, split, clean, stop⟩
  simp only [ftpdStrtokAlloc, Bool.false_eq_true, if_false, scan, Nat.zero_add]
  rw [split, List.take_left]

end Tokens

theorem mem_ftpdDelimiters (c : Char) : c ∈ ftpdDelimiters ↔ isSep c = true := by
  simp [ftpdDelimiters, isSep]

@[simp] theorem pathTokens_nil (fuel : Nat) : pathTokens fuel [] = [] := by
  cases fuel <;> rfl

theorem pathTokens_sep (fuel : Nat) {c : Char} (cs : List Char) (sep : isSep c = true) :
    pathTokens (fuel + 1) (c :: cs) = [] :: pathTokens fuel cs := by
  simp [pathTokens, ftpdStrtokAlloc, strtokScan, (mem_ftpdDelimiters c).2 sep]

theorem pathTokens_named (fuel : Nat) {c : Char} (cs : List Char) (named : isSep c = false) :
    ∃ token tokens, pathTokens (fuel + 1) (c :: cs) = token :: tokens ∧ token ≠ [] := by
  obtain ⟨token, rest, alloc, split, -, stop⟩ :=
    ftpdStrtokAlloc_spec ftpdDelimiters (c :: cs)
  refine ⟨token, pathTokens fuel rest.tail, by simp [pathTokens, alloc], ?_⟩
  rintro rfl
  have sep := (mem_ftpdDelimiters c).1 (stop c cs split.symm)
  simp [sep] at named

theorem pathTokens_foldl {β : Type} (step : β → List Char → β) (skip : ∀ b, step b [] = b)
    (fuel : Nat) (path : List Char) (enough : path.length ≤ fuel) (b : β) :
    (pathTokens fuel path).foldl step b = (segments path).foldl step b := by
  induction fuel generalizing path b with
  | zero =>
    obtain rfl : path = [] := List.eq_nil_of_length_eq_zero (by omega)
    simp [segments, skip]
  | succ fuel ih =>
    cases path with
    | nil => simp [segments, skip]
    | cons c cs =>
      obtain ⟨token, rest, alloc, split, clean, stop⟩ :=
        ftpdStrtokAlloc_spec ftpdDelimiters (c :: cs)
      have named : ∀ x ∈ token, isSep x = false := fun x mem => by
        simpa [mem_ftpdDelimiters] using clean x mem
      have tokens : pathTokens (fuel + 1) (c :: cs) = token :: pathTokens fuel rest.tail := by
        simp [pathTokens, alloc]
      rw [tokens]
      cases rest with
      | nil =>
        -- the last token: no separator is left
        have single : segments (c :: cs) = [token] := by
          rw [split, List.append_nil]
          exact List.splitOnP_eq_singleton named
        simp [single]
      | cons s as =>
        have sep : isSep s = true := (mem_ftpdDelimiters s).1 (stop s as rfl)
        have first : segments (c :: cs) = token :: segments as := by
          rw [split]
          exact List.splitOnP_append_cons_of_forall_mem named s sep as
        have shorter : as.length ≤ fuel := by
          have lengths := congrArg List.length split
          simp only [List.length_cons, List.length_append] at lengths enough
          omega
        rw [first, List.foldl_cons, List.foldl_cons, List.tail_cons]
        exact ih as shorter _

/-! ## The marks -/

/-- The names of the nodes not marked, in the order of the list. -/
def kept (nodes : List Pathnode) : List (List Char) :=
  (nodes.filter fun node => !node.ignore).map Pathnode.name

@[simp] theorem kept_nil : kept [] = [] := rfl

@[simp] theorem kept_cons (node : Pathnode) (nodes : List Pathnode) :
    kept (node :: nodes) = if node.ignore then kept nodes else node.name :: kept nodes := by
  cases h : node.ignore <;> simp [kept, h]

/-- What a `..` does to the unmarked names before it, nearest first: the nearest goes if it has a
name. -/
def popNamed : List (List Char) → List (List Char)
  | [] => []
  | s :: rest => if s = [] then s :: rest else rest

/-- The unmarked names, nearest first, once a node named `seg` is marked after them. -/
def keptStep (names : List (List Char)) (seg : List Char) : List (List Char) :=
  if seg = [] ∨ seg = ['.'] then names
  else if seg = ['.', '.'] then popNamed names
  else seg :: names

theorem kept_cancelBack (blink : List Pathnode) :
    kept (cancelBack blink) = popNamed (kept blink) := by
  induction blink with
  | nil => rfl
  | cons node rest ih =>
    cases ignored : node.ignore with
    | true => simp [cancelBack, ignored, ih]
    | false =>
      -- the walk stops at this node, and marks it if it has a name
      by_cases named : 0 < node.name.length
      · have : node.name ≠ [] := List.ne_nil_of_length_pos named
        simp [cancelBack, ignored, named, popNamed, this]
      · have : node.name = [] := List.eq_nil_of_length_eq_zero (by omega)
        simp [cancelBack, ignored, popNamed, this]

theorem kept_ftpdPathignore {blink : List Pathnode} (linked : blink ≠ []) (name : List Char) :
    kept ((ftpdPathignore blink (unmarked name)).2 :: (ftpdPathignore blink (unmarked name)).1) =
      keptStep (kept blink) name := by
  by_cases empty : name = []
  · simp [ftpdPathignore, unmarked, empty, linked, keptStep]
  · by_cases up : name = ['.', '.']
    · simp [ftpdPathignore, unmarked, up, kept_cancelBack, keptStep]
    · by_cases here : name = ['.']
      · simp [ftpdPathignore, unmarked, here, keptStep]
      · simp [ftpdPathignore, unmarked, empty, up, here, keptStep]

theorem kept_pathignoreEach {blink : List Pathnode} (linked : blink ≠ [])
    (names : List (List Char)) :
    kept (pathignoreEach blink (names.map unmarked)) = names.foldl keptStep (kept blink) := by
  induction names generalizing blink with
  | nil => rfl
  | cons name names ih =>
    simp only [List.map_cons, pathignoreEach, List.foldl_cons]
    rw [ih (List.cons_ne_nil _ _), kept_ftpdPathignore linked]

theorem cancelBack_names (blink : List Pathnode) :
    (cancelBack blink).map Pathnode.name = blink.map Pathnode.name := by
  induction blink with
  | nil => rfl
  | cons node rest ih =>
    by_cases ignored : node.ignore
    · simp [cancelBack, ignored, ih]
    · by_cases named : 0 < node.name.length <;> simp [cancelBack, ignored, named]

theorem pathignoreEach_names (blink nodes : List Pathnode) :
    (pathignoreEach blink nodes).map Pathnode.name =
      (nodes.map Pathnode.name).reverse ++ blink.map Pathnode.name := by
  induction nodes generalizing blink with
  | nil => rfl
  | cons node nodes ih =>
    simp only [pathignoreEach, ih, List.map_cons, List.reverse_cons, List.append_assoc]
    unfold ftpdPathignore
    split_ifs <;> simp [cancelBack_names]

theorem pathignoreEach_root (names : List (List Char)) :
    pathignoreEach [] (([] :: names).map unmarked) = pathignoreEach [unmarked []] (names.map unmarked) := by
  simp [pathignoreEach, ftpdPathignore, unmarked]

theorem canonStep_ne_nil {stack : List (List Char)} (named : ∀ s ∈ stack, s ≠ [])
    (seg : List Char) : ∀ s ∈ canonStep stack seg, s ≠ [] := by
  unfold canonStep
  split_ifs with skip
  · exact named
  · exact fun s mem => named s (List.mem_of_mem_tail mem)
  · intro s mem
    rcases List.mem_cons.1 mem with rfl | mem
    · exact fun empty => skip (.inl empty)
    · exact named s mem

/-- Below a stack of named segments lies the root, which a `..` never pops. -/
theorem keptStep_rooted {stack : List (List Char)} (named : ∀ s ∈ stack, s ≠ [])
    (seg : List Char) : keptStep (stack ++ [[]]) seg = canonStep stack seg ++ [[]] := by
  unfold keptStep canonStep
  split_ifs
  · rfl
  · cases stack with
    | nil => rfl
    | cons s rest => simp [popNamed, named s (by simp)]
  · rfl

theorem foldl_keptStep_rooted (segs : List (List Char)) {stack : List (List Char)}
    (named : ∀ s ∈ stack, s ≠ []) :
    segs.foldl keptStep (stack ++ [[]]) = segs.foldl canonStep stack ++ [[]] := by
  induction segs generalizing stack with
  | nil => rfl
  | cons seg segs ih =>
    rw [List.foldl_cons, List.foldl_cons, keptStep_rooted named, ih (canonStep_ne_nil named seg)]

/-! ## The printed path -/

theorem node2pathText_of_nextPrinted {strip : Bool} {nodes : List Pathnode}
    (none_printed : nextPrinted strip nodes = none) : node2pathText strip nodes = [] := by
  induction nodes with
  | nil => rfl
  | cons node nodes ih =>
    by_cases skipped : (strip && node.ignore) = true
    · simp only [nextPrinted, skipped, if_true] at none_printed
      simp [node2pathText, skipped, ih none_printed]
    · simp [nextPrinted, skipped] at none_printed

theorem node2pathSize_eq (strip : Bool) (nodes : List Pathnode) :
    node2pathSize strip nodes =
      (node2pathText strip nodes).length + if (nextPrinted strip nodes).isSome then 1 else 0 := by
  induction nodes with
  | nil => rfl
  | cons node nodes ih =>
    by_cases skipped : (strip && node.ignore) = true
    · simp [node2pathSize, node2pathText, nextPrinted, skipped, ih]
    · cases next : nextPrinted strip nodes with
      | none =>
        -- the last printed node: its name, or `/` for a lone root, then the NUL
        have empty := node2pathText_of_nextPrinted next
        by_cases root : node.name.length ≤ 0
        · simp [node2pathSize, node2pathText, nextPrinted, skipped, next, root, ih, empty]
        · simp [node2pathSize, node2pathText, nextPrinted, skipped, next, root, ih, empty]
      | some after =>
        rw [next] at ih
        simp [node2pathSize, node2pathText, nextPrinted, skipped, next, ih]
        exact Nat.add_right_comm _ _ _

theorem ftpdNode2path_fills {node : List Pathnode} {strip granted : Bool} {path : List Char}
    (printed : ftpdNode2path node strip granted = some path) :
    path.length + 1 = node2pathSize strip node := by
  unfold ftpdNode2path at printed
  split_ifs at printed with empty sized
  obtain rfl := Option.some.inj printed
  rw [node2pathSize_eq] at sized ⊢
  cases next : nextPrinted strip node with
  | none => simp [node2pathText_of_nextPrinted next, next] at sized
  | some after => simp

/-- The unmarked names as `ftpd_node2path` prints them: a `/` after each but the last, and a lone
empty name printed as `/`. -/
def joinPrinted : List (List Char) → List Char
  | [] => []
  | [s] => if s.length ≤ 0 then ['/'] else s
  | s :: rest => s ++ '/' :: joinPrinted rest

theorem nextPrinted_strip (nodes : List Pathnode) :
    nextPrinted true nodes = (nodes.filter fun node => !node.ignore).head? := by
  induction nodes with
  | nil => rfl
  | cons node nodes ih => cases h : node.ignore <;> simp [nextPrinted, h, ih]

theorem node2pathText_strip (nodes : List Pathnode) :
    node2pathText true nodes = joinPrinted (kept nodes) := by
  induction nodes with
  | nil => rfl
  | cons node nodes ih =>
    cases ignored : node.ignore with
    | true => simp [node2pathText, ignored, ih]
    | false =>
      rw [kept_cons, ignored, if_neg Bool.false_ne_true]
      simp only [node2pathText, ignored, Bool.and_false, Bool.false_eq_true, if_false,
        nextPrinted_strip, ih]
      cases rest : nodes.filter fun node => !node.ignore with
      | nil => simp [kept, rest, joinPrinted]
      | cons next others => simp [kept, rest, joinPrinted]

theorem joinPrinted_named {segs : List (List Char)} (nonempty : segs ≠ [])
    (named : ∀ s ∈ segs, s ≠ []) : joinPrinted segs = ['/'].intercalate segs := by
  induction segs with
  | nil => contradiction
  | cons s rest ih =>
    cases rest with
    | nil => simp [joinPrinted, named s (by simp)]
    | cons t others =>
      simp only [joinPrinted]
      rw [ih (List.cons_ne_nil _ _) (fun x mem => named x (by simp [mem])),
        List.intercalate_cons_cons]
      simp

theorem joinPrinted_root {segs : List (List Char)} (named : ∀ s ∈ segs, s ≠ []) :
    joinPrinted ([] :: segs) = render segs := by
  cases segs with
  | nil => rfl
  | cons s rest =>
    simp only [joinPrinted]
    rw [joinPrinted_named (List.cons_ne_nil _ _) named]
    rfl

/-! ## The spec's segments -/

/-- A segment that `canon` keeps as it is. -/
structure Normal (s : List Char) : Prop where
  nonempty : s ≠ []
  notHere : s ≠ ['.']
  notUp : s ≠ ['.', '.']
  sepFree : ∀ c ∈ s, isSep c = false

theorem isSep_slash : isSep '/' = true := rfl

@[simp] theorem canonStep_nil (stack : List (List Char)) : canonStep stack [] = stack := by
  simp [canonStep]

theorem canonStep_of_normal {s : List Char} (normal : Normal s) (stack : List (List Char)) :
    canonStep stack s = s :: stack := by
  simp [canonStep, normal.nonempty, normal.notHere, normal.notUp]

theorem canon_append_nil_cons (xs ys : List (List Char)) :
    canon (xs ++ [] :: ys) = canon (xs ++ ys) := by
  simp [canon, List.foldl_append]

theorem canon_nil_cons (segs : List (List Char)) : canon ([] :: segs) = canon segs :=
  canon_append_nil_cons [] segs

theorem segments_sep {c : Char} (cs : List Char) (sep : isSep c = true) :
    segments (c :: cs) = [] :: segments cs := by
  simp [segments, List.splitOnP_cons_eq_if_modifyHead, sep]

theorem segments_named {c : Char} (cs : List Char) (named : isSep c = false) :
    segments (c :: cs) = (segments cs).modifyHead (c :: ·) := by
  simp [segments, List.splitOnP_cons_eq_if_modifyHead, named]

theorem segments_append_sep (xs : List Char) {s : Char} (sep : isSep s = true) (ys : List Char) :
    segments (xs ++ s :: ys) = segments xs ++ segments ys := by
  induction xs with
  | nil => rw [List.nil_append, segments_sep ys sep]; rfl
  | cons x xs ih =>
    cases named : isSep x with
    | true => rw [List.cons_append, segments_sep _ named, segments_sep _ named, ih]; rfl
    | false =>
      rw [List.cons_append, segments_named _ named, segments_named _ named, ih]
      -- the first segment takes `x`, and `segments xs` has one
      obtain ⟨first, rest, eq⟩ := List.exists_cons_of_ne_nil (List.splitOnP_ne_nil isSep xs)
      simp [segments, eq]

theorem segments_sepFree (path : List Char) : ∀ s ∈ segments path, ∀ c ∈ s, isSep c = false := by
  induction path with
  | nil => simp [segments]
  | cons x xs ih =>
    cases named : isSep x with
    | true => simpa [segments_sep _ named] using ih
    | false =>
      obtain ⟨first, rest, eq⟩ := List.exists_cons_of_ne_nil (List.splitOnP_ne_nil isSep xs)
      have split : segments xs = first :: rest := eq
      rw [segments_named _ named, split]
      rw [split] at ih
      simp only [List.modifyHead_cons, List.mem_cons, forall_eq_or_imp] at ih ⊢
      exact ⟨⟨named, ih.1⟩, ih.2⟩

theorem segments_intercalate {segs : List (List Char)} (nonempty : segs ≠ [])
    (sepFree : ∀ s ∈ segs, ∀ c ∈ s, isSep c = false) : segments (['/'].intercalate segs) = segs := by
  induction segs with
  | nil => contradiction
  | cons s rest ih =>
    cases rest with
    | nil =>
      rw [List.intercalate_singleton]
      exact List.splitOnP_eq_singleton (sepFree s (by simp))
    | cons t others =>
      have single : segments s = [s] := List.splitOnP_eq_singleton (sepFree s (by simp))
      rw [List.intercalate_cons_cons, List.append_assoc, List.singleton_append,
        segments_append_sep s isSep_slash,
        ih (List.cons_ne_nil _ _) (fun x mem => sepFree x (by simp [mem])), single]
      rfl

theorem canonStep_normal {stack : List (List Char)} (normal : ∀ s ∈ stack, Normal s)
    {seg : List Char} (sepFree : ∀ c ∈ seg, isSep c = false) :
    ∀ s ∈ canonStep stack seg, Normal s := by
  unfold canonStep
  split_ifs with skip up
  · exact normal
  · exact fun s mem => normal s (List.mem_of_mem_tail mem)
  · intro s mem
    rcases List.mem_cons.1 mem with rfl | mem
    · exact ⟨fun h => skip (.inl h), fun h => skip (.inr h), up, sepFree⟩
    · exact normal s mem

theorem foldl_canonStep_normal (segs : List (List Char))
    (sepFree : ∀ seg ∈ segs, ∀ c ∈ seg, isSep c = false) {stack : List (List Char)}
    (normal : ∀ s ∈ stack, Normal s) : ∀ s ∈ segs.foldl canonStep stack, Normal s := by
  induction segs generalizing stack with
  | nil => exact normal
  | cons seg segs ih =>
    exact ih (fun x mem => sepFree x (by simp [mem]))
      (canonStep_normal normal (sepFree seg (by simp)))

theorem resolve_normal (work path : List Char) : ∀ s ∈ resolve work path, Normal s := by
  intro s mem
  unfold resolve canon at mem
  rw [List.mem_reverse] at mem
  refine foldl_canonStep_normal _ ?_ (by simp) s mem
  split
  · exact segments_sepFree path
  · intro seg seg_mem
    rcases List.mem_append.1 seg_mem with seg_mem | seg_mem
    · exact segments_sepFree work seg seg_mem
    · exact segments_sepFree path seg seg_mem

theorem foldl_canonStep_of_normal (segs : List (List Char)) (normal : ∀ s ∈ segs, Normal s)
    (stack : List (List Char)) : segs.foldl canonStep stack = segs.reverse ++ stack := by
  induction segs generalizing stack with
  | nil => rfl
  | cons s segs ih =>
    rw [List.foldl_cons, canonStep_of_normal (normal s (by simp)),
      ih (fun x mem => normal x (by simp [mem]))]
    simp

theorem canon_append_render (pre : List (List Char)) {segs : List (List Char)}
    (normal : ∀ s ∈ segs, Normal s) : canon (pre ++ segments (render segs)) = canon pre ++ segs := by
  rw [render, segments_sep _ isSep_slash, canon_append_nil_cons]
  unfold canon
  rw [List.foldl_append]
  cases segs with
  | nil => simp [segments]
  | cons s rest =>
    rw [segments_intercalate (List.cons_ne_nil _ _) (fun x mem => (normal x mem).sepFree),
      foldl_canonStep_of_normal _ normal]
    simp

theorem canon_home_render (home : List Char) {segs : List (List Char)}
    (normal : ∀ s ∈ segs, Normal s) :
    canon (segments (home ++ render segs)) = canon (segments home) ++ segs := by
  have split : segments (home ++ render segs) = segments home ++ segments (['/'].intercalate segs) :=
    segments_append_sep home isSep_slash _
  rw [split, ← canon_append_nil_cons, ← segments_sep _ isSep_slash]
  exact canon_append_render _ normal

/-! ## `ftpd_getpath` -/

theorem kept_reverse (nodes : List Pathnode) : kept nodes.reverse = (kept nodes).reverse := by
  simp [kept, List.filter_reverse, List.map_reverse]

theorem foldl_canonStep_ne_nil (segs : List (List Char)) {stack : List (List Char)}
    (named : ∀ s ∈ stack, s ≠ []) : ∀ s ∈ segs.foldl canonStep stack, s ≠ [] := by
  induction segs generalizing stack with
  | nil => exact named
  | cons seg segs ih => exact ih (canonStep_ne_nil named seg)

theorem ftpdNode2path_rooted (names : List (List Char)) :
    ftpdNode2path (pathignoreEach [] (([] :: names).map unmarked)).reverse true true =
      some (render (canon names)) := by
  have stack : kept (pathignoreEach [] (([] :: names).map unmarked)) =
      names.foldl canonStep [] ++ [[]] := by
    rw [pathignoreEach_root, kept_pathignoreEach (List.cons_ne_nil _ _)]
    exact @foldl_keptStep_rooted names [] (by simp)
  have printed : kept (pathignoreEach [] (([] :: names).map unmarked)).reverse = [] :: canon names := by
    rw [kept_reverse, stack]
    simp [canon]
  have text : node2pathText true (pathignoreEach [] (([] :: names).map unmarked)).reverse =
      render (canon names) := by
    rw [node2pathText_strip, printed, joinPrinted_root]
    intro s mem
    rw [canon, List.mem_reverse] at mem
    exact foldl_canonStep_ne_nil names (by simp) s mem
  have linked : (pathignoreEach [] (([] :: names).map unmarked)).reverse ≠ [] := by
    intro empty
    rw [empty] at printed
    simp at printed
  have sized : node2pathSize true (pathignoreEach [] (([] :: names).map unmarked)).reverse ≠ 0 := by
    rw [node2pathSize_eq, text]
    simp [render]
  rw [ftpdNode2path, if_neg linked, if_neg sized, if_pos rfl, text]

theorem pathNodes_names (path : List Char) :
    (pathNodes path).map Pathnode.name = pathTokens path.length path := by
  simp [pathNodes, pathignoreEach_names, List.map_reverse, Function.comp_def]

/-- A heap that grants every allocation lets the loop of `ftpd_path2node` link a node for every
token. -/
theorem path2nodeLoop_granted {heap : Nat → Bool} (granted : ∀ n, heap n = true) :
    ∀ (fuel : Nat) (path : List Char) (n : Nat) (blink : List Pathnode),
      (path2nodeLoop heap fuel path n blink).1 =
        pathignoreEach blink ((pathTokens fuel path).map unmarked)
  | 0, _, _, _ => rfl
  | _ + 1, [], _, _ => rfl
  | fuel + 1, c :: cs, n, blink => by
    simp only [path2nodeLoop, granted, Bool.not_true, Bool.false_eq_true, if_false, pathTokens,
      List.map_cons, pathignoreEach]
    exact path2nodeLoop_granted granted fuel _ _ _

theorem ftpdPath2node_granted {heap : Nat → Bool} (granted : ∀ n, heap n = true) (n : Nat)
    (path : List Char) : (ftpdPath2node heap n path).1 = pathNodes path := by
  simp only [ftpdPath2node, pathNodes, path2nodeLoop_granted granted]

theorem ftpdNodeappend_eq (head node : List Pathnode) (override : Bool) :
    ftpdNodeappend head node override =
      (pathignoreEach [] (((if override && (node.map Pathnode.name).head?.any (·.length == 0)
        then [] else head.map Pathnode.name) ++ node.map Pathnode.name).map unmarked)).reverse := by
  have first : node.head?.any (fun first => first.name.length == 0) =
      (node.map Pathnode.name).head?.any (·.length == 0) := by
    cases node <;> rfl
  simp only [ftpdNodeappend, first]
  split <;> simp [List.map_map, Function.comp_def, unmarked]

theorem foldl_canonStep_pathTokens (path : List Char) (stack : List (List Char)) :
    (pathTokens path.length path).foldl canonStep stack = (segments path).foldl canonStep stack :=
  pathTokens_foldl canonStep canonStep_nil path.length path (Nat.le_refl _) stack

theorem pathNodes_absolute {path : List Char} (rooted : absolute path = true) :
    ∃ rest, (pathNodes path).map Pathnode.name = [] :: pathTokens rest.length rest ∧
      segments path = [] :: segments rest := by
  obtain _ | ⟨c, rest⟩ := path
  · simp [absolute] at rooted
  · refine ⟨rest, ?_, segments_sep rest rooted⟩
    rw [pathNodes_names, List.length_cons, pathTokens_sep _ _ rooted]

theorem pathNodes_relative {path : List Char} (relative : absolute path = false) :
    ((pathNodes path).map Pathnode.name).head?.any (·.length == 0) = false := by
  obtain _ | ⟨c, rest⟩ := path
  · simp [pathNodes_names]
  · obtain ⟨token, tokens, eq, named⟩ := pathTokens_named rest.length rest relative
    simp [pathNodes_names, eq, named]

theorem ftpdGetpath_eq {heap : Nat → Bool} (granted : ∀ n, heap n = true) {home work : List Char}
    (homeAbsolute : absolute home = true) (workAbsolute : absolute work = true) (path : List Char) :
    ftpdGetpath heap home work path =
      .ok (render (canon (segments home) ++ resolve work path), render (resolve work path)) := by
  obtain ⟨ws, workTokens, workSegments⟩ := pathNodes_absolute workAbsolute
  obtain ⟨hs, homeTokens, homeSegments⟩ := pathNodes_absolute homeAbsolute
  have workLinked : pathNodes work ≠ [] := fun empty => by simp [empty] at workTokens
  have homeLinked : pathNodes home ≠ [] := fun empty => by simp [empty] at homeTokens
  -- the working path: the client's path alone if absolute, else after the working directory
  have workpath : ftpdNode2path (ftpdNodeappend (pathNodes work) (pathNodes path) true) true true =
      some (render (resolve work path)) := by
    cases rooted : absolute path with
    | true =>
      obtain ⟨ps, pathTokens', pathSegments⟩ := pathNodes_absolute rooted
      rw [ftpdNodeappend_eq, pathTokens']
      simp only [List.head?_cons, Option.any_some, List.length_nil, beq_self_eq_true,
        Bool.and_self, if_true, List.nil_append, ftpdNode2path_rooted]
      simp only [resolve, rooted, if_true, pathSegments, canon_nil_cons]
      simp only [canon, foldl_canonStep_pathTokens]
    | false =>
      rw [ftpdNodeappend_eq, pathNodes_relative rooted, workTokens, pathNodes_names]
      simp only [Bool.and_false, Bool.false_eq_true, if_false, List.cons_append,
        ftpdNode2path_rooted]
      simp only [resolve, rooted, Bool.false_eq_true, if_false, workSegments, List.cons_append,
        canon_nil_cons]
      simp only [canon, List.foldl_append, foldl_canonStep_pathTokens]
  -- the absolute path: the working path read after the home directory
  have abspath : ftpdNode2path (ftpdNodeappend (pathNodes home)
      (pathNodes (render (resolve work path))) false) true true =
      some (render (canon (segments home) ++ resolve work path)) := by
    rw [ftpdNodeappend_eq, homeTokens, pathNodes_names]
    simp only [Bool.false_and, Bool.false_eq_true, if_false, List.cons_append,
      ftpdNode2path_rooted]
    have tokens : canon (pathTokens hs.length hs ++
        pathTokens (render (resolve work path)).length (render (resolve work path))) =
        canon (segments hs ++ segments (render (resolve work path))) := by
      simp only [canon, List.foldl_append, foldl_canonStep_pathTokens]
    rw [tokens, canon_append_render _ (resolve_normal work path), homeSegments, canon_nil_cons]
  simp [ftpdGetpath, ftpdPath2node_granted granted, granted, workLinked, homeLinked, workpath,
    abspath, pure, Except.pure]

example : ftpdGetpath (fun _ => true) ['/', 'h'] ['/'] ['.', '.', '/', 'a'] =
    .ok (['/', 'h', '/', 'a'], ['/', 'a']) := by
  decide

theorem ftpdGetpath_resolves_under_home (heap : Nat → Bool) (granted : ∀ n, heap n = true)
    (home work path : List Char) (homeAbsolute : absolute home = true)
    (workAbsolute : absolute work = true) :
    ftpdGetpath heap home work path =
        .ok (render (canon (segments (home ++ render (resolve work path)))),
          render (resolve work path)) ∧
      render (canon (segments (home ++ render (resolve work path)))) =
        render (canon (segments home) ++ resolve work path) ∧
      ∀ (node : List Pathnode) (strip grant : Bool) (printed : List Char),
        ftpdNode2path node strip grant = some printed →
          printed.length + 1 = node2pathSize strip node := by
  have underHome := canon_home_render home (resolve_normal work path)
  refine ⟨?_, by rw [underHome], fun _ _ _ _ => ftpdNode2path_fills⟩
  rw [underHome]
  exact ftpdGetpath_eq granted homeAbsolute workAbsolute path

theorem ftpdGetpath_resolves_under_home_dotdot :
    absolute ['/', 'h'] = true ∧ absolute ['/'] = true ∧
      ftpdGetpath (fun _ => true) ['/', 'h'] ['/'] ['.', '.', '/', 'a'] =
        .ok (render (canon (segments (['/', 'h'] ++ render (resolve ['/'] ['.', '.', '/', 'a'])))),
          render (resolve ['/'] ['.', '.', '/', 'a'])) :=
  ⟨rfl, rfl, (ftpdGetpath_resolves_under_home (fun _ => true) (fun _ => rfl) ['/', 'h'] ['/']
    ['.', '.', '/', 'a'] rfl rfl).1⟩

/-- A home directory without a separator first is read as a relative path: the absolute path
has no leading `/`, which the stack reading would give it. An empty one has no node at all,
and `ftpd_getpath` fails. -/
theorem ftpdGetpath_relative_home :
    ftpdGetpath (fun _ => true) ['h'] ['/'] ['a'] = .ok (['h', '/', 'a'], ['/', 'a']) ∧
      render (canon (segments (['h'] ++ render (resolve ['/'] ['a'])))) = ['/', 'h', '/', 'a'] ∧
      ftpdGetpath (fun _ => true) [] ['/'] ['a'] = .error (-enomem) :=
  ⟨by decide, by decide, by decide⟩

/-- Under memory pressure the absolute path leaves the home directory. For home `/h`, working
directory `/` and path `a`, the allocations before the home directory's are those of the names
and nodes of `/` and `a` and of the working path, seven in all; a heap that refuses the eighth,
the name `h`, leaves the home directory its root alone, and the absolute path is `/a`. -/
theorem ftpdGetpath_leaves_home_on_refusal :
    ftpdGetpath (· != 7) ['/', 'h'] ['/'] ['a'] = .ok (['/', 'a'], ['/', 'a']) := by
  decide

end TinyAra.Netutils.Ftpd
