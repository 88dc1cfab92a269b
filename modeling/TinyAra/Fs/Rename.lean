import TinyAra.Fs.Inode

/-!
# `rename` over the inode tree

`os/fs/vfs/fs_rename.c`. On a mountpoint the mounted filesystem's own `rename`
does the work, and only its result enters here. Anywhere else `rename` works on
the pseudo filesystem itself: it reserves an empty inode at the new path, copies
the old inode's fields, its child pointer among them, into it, removes the old
path (deferred while references remain) and clears the old inode's children.

Nothing checks where the new path lies. When it lies below the old inode, the
reserved inode is itself one of the children it adopts: the copy makes it its own
child, the removal of the old path takes it out of the tree with its parent, and
`rename` still returns `OK` (`rename_into_own_subtree`).
-/

namespace TinyAra.Fs.Inode

def error : Int := -1
def exdev : Int := 18
def enosys : Int := 38

/-- `rename(oldpath, newpath)`: the return value, the `errno` it sets, and the
tree.  `mopsRename` is what the mounted filesystem's `rename` returns, `none`
where the mountpoint has no `rename` method. -/
def rename (fuel : Nat) (fs : Pseudofs) (oldpath newpath : List Char)
    (mopsRename : Option Int) : Option (Int × Option Int × Pseudofs) :=
  match oldpath, newpath with
  | '/' :: _, '/' :: _ =>
    match inodeFind fuel fs oldpath with
    | none => none
    | some (none, fs) => some (error, some enoent, fs)
    | some (some (old, _), fs) =>
      match fs.heap old with
      | none => none
      | some oldinode =>
        if inodeIsMountpt oldinode ∧ oldinode.ops ≠ 0 then
          renameMountpt fs old
        else renamePseudo fs old
  | _, _ => some (-einval, none, fs)
where
  /-- The mountpoint branch: both paths must lie on the same mountpoint. -/
  renameMountpt (fs : Pseudofs) (old : Nat) : Option (Int × Option Int × Pseudofs) :=
    match inodeFind fuel fs newpath with
    | none => none
    | some (none, fs) => (inodeRelease fuel fs (some old)).map ((error, some enoent, ·))
    | some (some (new, _), fs) =>
      let fail (errcode : Int) : Option (Int × Option Int × Pseudofs) := do
        let fs ← inodeRelease fuel fs (some new)
        let fs ← inodeRelease fuel fs (some old)
        pure (error, some errcode, fs)
      if old ≠ new then fail exdev
      else
        match mopsRename with
        | none => fail enosys
        | some ret =>
          if ret < 0 then fail (-ret)
          else do
            let fs ← inodeRelease fuel fs (some new)
            let fs ← inodeRelease fuel fs (some old)
            pure (ok, none, fs)
  /-- The pseudo-filesystem branch. -/
  renamePseudo (fs : Pseudofs) (old : Nat) : Option (Int × Option Int × Pseudofs) :=
    match inodeReserve fuel fs newpath with
    | none => none
    | some (ret, newinode, fs) =>
      if ret < 0 then (inodeRelease fuel fs (some old)).map ((error, some eexist, ·))
      else
        -- the old inode is read after the reservation, which may have linked to it
        match newinode, fs.heap old with
        | none, _ | _, none => none
        | some new, some oldinode =>
          -- copy the inode state, the child pointer included
          let fs := fs.modify new fun x =>
            { x with child := oldinode.child, flags := oldinode.flags, ops := oldinode.ops,
                     mode := oldinode.mode, priv := oldinode.priv }
          match inodeRemove fuel fs oldpath with
          | none => none
          | some (ret, fs) =>
            if ret < 0 ∧ ret ≠ -ebusy then do
              let (_, fs) ← inodeRemove fuel fs newpath
              let fs ← inodeRelease fuel fs (some old)
              pure (error, some (-ret), fs)
            else do
              let fs := fs.modify old fun x => { x with child := none }
              let fs ← inodeRelease fuel fs (some old)
              pure (ok, none, fs)

/-- One inode `/a` under the root, the tree the failing run starts from. -/
def singleA : Pseudofs where
  root := some 0
  heap := fun b => if b = 0 then some ⟨none, none, 0, 0, 0, 0, 0, ['a']⟩ else none
  next := 1
  limit := 2

/-- Renaming `/a` to `/a/b`, a path inside `/a`'s own subtree, returns `OK`;
afterwards neither path resolves, and the inode reserved for `/a/b` is its own
child. -/
theorem rename_into_own_subtree :
    inodeSearch singleA 8 ['/', 'a'] = some ⟨some 0, none, none, []⟩ ∧
      inodeIsMountpt ⟨none, none, 0, 0, 0, 0, 0, ['a']⟩ = false ∧
      ∃ fs, rename 8 singleA ['/', 'a'] ['/', 'a', '/', 'b'] none = some (ok, none, fs) ∧
        (inodeSearch fs 8 ['/', 'a', '/', 'b']).map SearchResult.node = some none ∧
        (inodeSearch fs 8 ['/', 'a']).map SearchResult.node = some none ∧
        fs.childOf 1 = some 1 := by
  refine ⟨by decide, by decide, _, rfl, ?_⟩
  decide

end TinyAra.Fs.Inode
