import Mathlib.Logic.Function.Basic
import Mathlib.Data.List.Basic

/-!
# The pseudo-filesystem inode tree

`os/fs/inode`: the in-memory tree of named inodes that every path lookup goes
through. Each inode holds a name, a pointer to its first child and a pointer to
its next peer; `root_inode` points at the first top-level inode. The lists of
peers are kept in the order of `_inode_compare`, and nothing but the search that
stops at the first larger peer keeps them that way.

The model is a heap of inode records indexed by address, with `root_inode`, the
next free address and the point where `kmm_zalloc` fails. Pointers are
`Option Nat`; reading through a pointer the heap does not hold is a stuck run
(`none`), as are the search and free loops when their fuel runs out. The
semaphore `inode_semtake`/`inode_semgive` guards every call below and is not
modelled: each call runs on its own.
-/

namespace TinyAra.Fs.Inode

set_option linter.dupNamespace false

def ok : Int := 0
def enoent : Int := 2
def enomem : Int := 12
def ebusy : Int := 16
def eexist : Int := 17
def einval : Int := 22

def fsnodeflagTypeMask : Nat := 0x7
def fsnodeflagTypeMountpt : Nat := 0x2
def fsnodeflagDeleted : Nat := 0x8

/-- `struct inode`, with `u.i_ops`/`u.i_mops` as one operations pointer. -/
structure Inode where
  peer : Option Nat
  child : Option Nat
  crefs : Nat
  flags : Nat
  ops : Nat
  mode : Nat
  priv : Nat
  name : List Char
  deriving DecidableEq, Repr

def inodeIsMountpt (x : Inode) : Bool :=
  x.flags &&& fsnodeflagTypeMask == fsnodeflagTypeMountpt

/-- The inode tree: `root_inode` and the heap of allocated inodes. -/
structure Pseudofs where
  root : Option Nat
  heap : Nat → Option Inode
  next : Nat
  limit : Nat

namespace Pseudofs

def write (fs : Pseudofs) (a : Nat) (x : Inode) : Pseudofs :=
  { fs with heap := Function.update fs.heap a (some x) }

/-- Update the inode at `a` in place; nothing happens where the heap holds none. -/
def modify (fs : Pseudofs) (a : Nat) (f : Inode → Inode) : Pseudofs :=
  match fs.heap a with
  | some x => fs.write a (f x)
  | none => fs

def free (fs : Pseudofs) (a : Nat) : Pseudofs :=
  { fs with heap := Function.update fs.heap a none }

def peerOf (fs : Pseudofs) (a : Nat) : Option Nat := (fs.heap a).bind Inode.peer

def childOf (fs : Pseudofs) (a : Nat) : Option Nat := (fs.heap a).bind Inode.child

end Pseudofs

/-- `_inode_compare`: the find name ends at NUL or `'/'`, the node name at NUL;
characters are compared as the code compares them. -/
def inodeCompare : List Char → List Char → Int
  | f :: fs, n :: ns =>
    if f = '/' then -1
    else if f > n then 1
    else if f < n then -1
    else inodeCompare fs ns
  | [], [] => 0
  | [], _ :: _ => -1
  | f :: _, [] => if f = '/' then 0 else 1

/-- `inode_nextname`: skip the segment and the `'/'` that ends it. -/
def inodeNextname : List Char → List Char
  | [] => []
  | c :: rest => if c = '/' then rest else inodeNextname rest

/-- What `inode_search` returns and writes back: the node, `*peer`,
`*parent`, and `*path` (which is also `*relpath` when the node is found). -/
structure SearchResult where
  node : Option Nat
  peer : Option Nat
  parent : Option Nat
  path : List Char
  deriving DecidableEq, Repr

/-- The loop of `inode_search` from `node`, with `left` and `above` as the code
keeps them. -/
def searchLoop (heap : Nat → Option Inode) :
    Nat → List Char → Option Nat → Option Nat → Option Nat → Option SearchResult
  | 0, _, _, _, _ => none
  | _ + 1, name, none, left, above => some ⟨none, left, above, name⟩
  | fuel + 1, name, some a, left, above =>
    match heap a with
    | none => none
    | some x =>
      let result := inodeCompare name x.name
      if result < 0 then some ⟨none, left, above, name⟩
      else if result > 0 then searchLoop heap fuel name x.peer (some a) above
      else
        -- the names match: either the end of the path or a mountpoint, or go down
        let name' := inodeNextname name
        if name' = [] ∨ inodeIsMountpt x then some ⟨some a, left, above, name'⟩
        else searchLoop heap fuel name' x.child none (some a)

/-- `inode_search`: skip the leading `'/'` and search from `root_inode`. -/
def inodeSearch (fs : Pseudofs) (fuel : Nat) (path : List Char) : Option SearchResult :=
  searchLoop fs.heap fuel (path.drop 1) fs.root none none

def inodeNamecpy (name : List Char) : List Char := name.takeWhile (· ≠ '/')

/-- `inode_alloc`: a zeroed inode at the next address holding the segment's name,
or `none` where `kmm_zalloc` fails. -/
def inodeAlloc (fs : Pseudofs) (name : List Char) : Option (Nat × Pseudofs) :=
  if fs.next < fs.limit then
    some (fs.next,
      { fs.write fs.next ⟨none, none, 0, 0, 0, 0, 0, inodeNamecpy name⟩ with next := fs.next + 1 })
  else none

/-- `inode_insert`: right of `peer`, else at the head of `parent`'s children,
else at the head of `root_inode`. -/
def inodeInsert (fs : Pseudofs) (node : Nat) : Option Nat → Option Nat → Pseudofs
  | some p, _ =>
    (fs.modify node fun x => { x with peer := fs.peerOf p }).modify p
      fun x => { x with peer := some node }
  | none, some q =>
    (fs.modify node fun x => { x with peer := fs.childOf q }).modify q
      fun x => { x with child := some node }
  | none, none =>
    { fs.modify node (fun x => { x with peer := fs.root }) with root := some node }

/-- The loop of `inode_reserve`: one fresh node per remaining segment, each the
first child of the one before. -/
def reserveLoop : Nat → Pseudofs → List Char → Option Nat → Option Nat →
    Option (Int × Option Nat × Pseudofs)
  | 0, _, _, _, _ => none
  | fuel + 1, fs, name, left, parent =>
    let nextName := inodeNextname name
    match inodeAlloc fs name with
    | none => some (-enomem, none, fs)
    | some (node, fs') =>
      let fs'' := inodeInsert fs' node left parent
      if nextName = [] then some (ok, some node, fs'')
      else reserveLoop fuel fs'' nextName none (some node)

def inodeReserve (fuel : Nat) (fs : Pseudofs) (path : List Char) :
    Option (Int × Option Nat × Pseudofs) :=
  match path with
  | '/' :: _ =>
    match inodeSearch fs fuel path with
    | none => none
    | some r =>
      if r.node.isSome then some (-eexist, none, fs)
      else reserveLoop fuel fs r.path r.peer r.parent
  | _ => some (-einval, none, fs)

/-- `inode_unlink`: splice the node `inode_search` finds out of its list. -/
def inodeUnlink (fuel : Nat) (fs : Pseudofs) (path : List Char) :
    Option (Option Nat × Pseudofs) :=
  match path with
  | '/' :: _ =>
    match inodeSearch fs fuel path with
    | none => none
    | some ⟨none, _, _, _⟩ => some (none, fs)
    | some ⟨some a, peer, parent, _⟩ =>
      let succ := fs.peerOf a
      let fs' :=
        match peer, parent with
        | some p, _ => fs.modify p fun x => { x with peer := succ }
        | none, some q => fs.modify q fun x => { x with child := succ }
        | none, none => { fs with root := succ }
      some (some a, fs'.modify a fun x => { x with peer := none })
  | _ => some (none, fs)

/-- `inode_free`: the node, its peers and its children, peers first. -/
def inodeFree : Nat → Pseudofs → Option Nat → Option Pseudofs
  | _, fs, none => some fs
  | 0, _, some _ => none
  | fuel + 1, fs, some a =>
    match fs.heap a with
    | none => none
    | some x =>
      match inodeFree fuel fs x.peer with
      | none => none
      | some fs' =>
        -- `node->i_child` is read again after the peers are gone
        match fs'.heap a with
        | none => none
        | some x' =>
          match inodeFree fuel fs' x'.child with
          | none => none
          | some fs'' => some (fs''.free a)

/-- `inode_remove`: unlink, then free the subtree unless references remain, in
which case the node is only marked deleted. -/
def inodeRemove (fuel : Nat) (fs : Pseudofs) (path : List Char) : Option (Int × Pseudofs) :=
  match inodeUnlink fuel fs path with
  | none => none
  | some (none, fs') => some (-enoent, fs')
  | some (some a, fs') =>
    match fs'.heap a with
    | none => none
    | some x =>
      if x.crefs ≠ 0 then
        some (-ebusy, fs'.modify a fun x => { x with flags := x.flags ||| fsnodeflagDeleted })
      else
        match inodeFree fuel fs' x.child with
        | none => none
        | some fs'' => some (ok, fs''.free a)

/-- `inode_find`: the node and `*relpath`, with one more reference on the node. -/
def inodeFind (fuel : Nat) (fs : Pseudofs) (path : List Char) :
    Option (Option (Nat × List Char) × Pseudofs) :=
  match path with
  | '/' :: _ =>
    match inodeSearch fs fuel path with
    | none => none
    | some ⟨none, _, _, _⟩ => some (none, fs)
    | some ⟨some a, _, _, relpath⟩ =>
      some (some (a, relpath), fs.modify a fun x => { x with crefs := x.crefs + 1 })
  | _ => some (none, fs)

/-- `inode_release`: drop one reference, and free a deleted node at the last. -/
def inodeRelease (fuel : Nat) (fs : Pseudofs) : Option Nat → Option Pseudofs
  | none => some fs
  | some a =>
    match fs.heap a with
    | none => none
    | some x =>
      let crefs := if x.crefs ≠ 0 then x.crefs - 1 else x.crefs
      let fs' := fs.modify a fun x => { x with crefs := crefs }
      if crefs = 0 ∧ x.flags &&& fsnodeflagDeleted ≠ 0 then
        match inodeFree fuel fs' x.child with
        | none => none
        | some fs'' => some (fs''.free a)
      else some fs'

end TinyAra.Fs.Inode
