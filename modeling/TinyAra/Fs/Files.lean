/-
# Fs.Files -- a task's file descriptors and the inode references they hold

`fl_files` is an array of `CONFIG_NFILE_DESCRIPTORS` `struct file`s; a descriptor is open when
its `f_inode` is set. Every open descriptor holds one reference on its inode (`i_crefs`): the
open path takes it before `files_allocate` fills the slot, `file_dup` and `file_dup2` take one
with `inode_addref`, and `_files_close` gives it back with `inode_release`, which frees an
inode that was unlinked (`FSNODEFLAG_DELETED`) once its count reaches zero. What a driver's
`open`, `close` or a mountpoint's `dup` returns is an input of each call.

The descriptor calls are modelled on the list of slots with the inodes by number; the list
semaphore, `errno` and `f_priv` are left out.

* `filesCloseInternal_cases`: what `files_close_internal` does to the slot and the inode's
  count on each of its paths;
* `fsDupfd2_ok`: a successful `dup2(fd1, fd2)` leaves `fd2` a copy of `fd1` -- and returns
  `file_dup2`'s `OK`, not `fd2`.
-/
import Mathlib.Data.List.Basic

namespace TinyAra.Fs.Files

set_option autoImplicit false

/-- `OK` and `ERROR`, and `EBADF` (errno.h), which `files_close` returns negated. -/
def ok : Int := 0
def error : Int := -1
def ebadf : Int := 9

/-- `struct file`: the inode (by number) with the open flags and the position. -/
structure File where
  inode : Nat
  oflags : Nat
  pos : Nat
  deriving DecidableEq, Repr

/-- What the descriptor calls read of an inode: its reference count, whether it was unlinked,
and whether its operations have `open` and `close` (for a mountpoint, `open` stands for the
`dup` that is called instead). -/
structure Inode where
  crefs : Nat
  deleted : Bool
  hasOpen : Bool
  hasClose : Bool
  deriving DecidableEq, Repr

/-- A task's `struct filelist` (`fl_files`), the inodes, and the inodes `inode_release` has
freed, in order. -/
structure Filelist where
  fl : List (Option File)
  inodes : Nat → Inode
  freed : List Nat

/-! ## The code -/

/-- The file in slot `fd`, if open (and `none` past the array). -/
def slot (s : Filelist) (fd : Nat) : Option File := (s.fl[fd]?).join

def setSlot (s : Filelist) (fd : Nat) (file : Option File) : Filelist :=
  { s with fl := s.fl.set fd file }

def setCrefs (s : Filelist) (node crefs : Nat) : Filelist :=
  { s with
    inodes := Function.update s.inodes node { s.inodes node with crefs := crefs } }

def inodeAddref (s : Filelist) (node : Nat) : Filelist :=
  setCrefs s node ((s.inodes node).crefs + 1)

/-- `inode_release(node)`: the count goes down unless it is zero already, and an unlinked inode
whose count is then zero is freed. -/
def inodeRelease (s : Filelist) (node : Nat) : Filelist :=
  let crefs := if (s.inodes node).crefs ≠ 0 then (s.inodes node).crefs - 1 else (s.inodes node).crefs
  let released := setCrefs s node crefs
  if crefs ≤ 0 && (s.inodes node).deleted then { released with freed := s.freed ++ [node] }
  else released

/-- `_files_close(filep)` on slot `fd`, where the driver's `close` returns `closeRet`: the
descriptor is freed and its reference given back whatever `close` returns. -/
def filesCloseInternal (s : Filelist) (fd : Nat) (closeRet : Int) : Int × Filelist :=
  match slot s fd with
  | none => (ok, s)
  | some file =>
    let ret := if (s.inodes file.inode).hasClose then closeRet else ok
    (ret, setSlot (inodeRelease s file.inode) fd none)

/-- `files_allocate(inode, oflags, pos, minfd)`: the first free slot from `minfd` on. -/
def filesAllocate (s : Filelist) (inode oflags pos minfd : Nat) : Int × Filelist :=
  match (List.range' minfd (s.fl.length - minfd)).find? (fun i => slot s i == none) with
  | some i => (i, setSlot s i (some ⟨inode, oflags, pos⟩))
  | none => (error, s)

/-- `files_release(fd)`: the slot is cleared, and the inode keeps its reference. -/
def filesRelease (s : Filelist) (fd : Nat) : Filelist :=
  if fd < s.fl.length then setSlot s fd none else s

/-- `file_dup(filep, minfd)` on slot `fd`, where the driver's `open` (or the mountpoint's `dup`)
returns `openRet`. -/
def fileDup (s : Filelist) (fd minfd : Nat) (openRet : Int) : Int × Filelist :=
  match slot s fd with
  | none => (error, s)
  | some file =>
    let s := inodeAddref s file.inode
    match filesAllocate s file.inode file.oflags file.pos minfd with
    | (fd2, s) =>
      if fd2 < 0 then (error, inodeRelease s file.inode)
      else if (s.inodes file.inode).hasOpen && openRet < 0 then
        -- `errout_with_fd`: `files_release(fd2)`, then `errout_with_inode`
        (error, inodeRelease (filesRelease s fd2.toNat) file.inode)
      else (fd2, s)

/-- `file_dup2(filep1, filep2)` on slots `fd1` and `fd2`, with what the driver's `close` of the
old file and `open` (or `dup`) of the new one return. -/
def fileDup2 (s : Filelist) (fd1 fd2 : Nat) (closeRet openRet : Int) : Int × Filelist :=
  match slot s fd1 with
  | none => (error, s)
  | some file =>
    match filesCloseInternal s fd2 closeRet with
    | (ret, s) =>
      if ret < 0 then (error, s)
      else
        let s := setSlot (inodeAddref s file.inode) fd2 (some file)
        if (s.inodes file.inode).hasOpen && openRet < 0 then
          (error, setSlot (inodeRelease s file.inode) fd2 none)
        else (ok, s)

/-- `fs_dupfd2(fd1, fd2)`, which is `dup2` for a file descriptor. -/
def fsDupfd2 (s : Filelist) (fd1 fd2 : Nat) (closeRet openRet : Int) : Int × Filelist :=
  -- `fs_getfilep` refuses a descriptor past the array
  if s.fl.length ≤ fd1 ∨ s.fl.length ≤ fd2 then (error, s)
  else if slot s fd1 = none then (error, s)
  else if fd1 = fd2 then (fd1, s)
  else fileDup2 s fd1 fd2 closeRet openRet

def filesClose (s : Filelist) (fd : Nat) (closeRet : Int) : Int × Filelist :=
  if s.fl.length ≤ fd ∨ slot s fd = none then (-ebadf, s)
  else filesCloseInternal s fd closeRet

/-- The descriptor calls, each with what the driver's methods return to it. -/
inductive Call where
  | allocate (inode oflags pos minfd : Nat)
  | dup (fd minfd : Nat) (openRet : Int)
  | dup2 (fd1 fd2 : Nat) (closeRet openRet : Int)
  | close (fd : Nat) (closeRet : Int)
  | release (fd : Nat)
  deriving DecidableEq, Repr

def fileStep (s : Filelist) : Call → Int × Filelist
  | .allocate inode oflags pos minfd => filesAllocate s inode oflags pos minfd
  | .dup fd minfd openRet => fileDup s fd minfd openRet
  | .dup2 fd1 fd2 closeRet openRet => fsDupfd2 s fd1 fd2 closeRet openRet
  | .close fd closeRet => filesClose s fd closeRet
  | .release fd => (ok, filesRelease s fd)

/-- A run of calls: what each returns, and the state after them. -/
def fileRun (s : Filelist) : List Call → List Int × Filelist
  | [] => ([], s)
  | call :: calls =>
    let r := fileStep s call
    let rest := fileRun r.2 calls
    (r.1 :: rest.1, rest.2)

/-! ## The slots and the counts -/

section Frame

variable {s : Filelist}

@[simp] theorem setSlot_length (fd : Nat) (file : Option File) :
    (setSlot s fd file).fl.length = s.fl.length := by
  simp [setSlot]

@[simp] theorem setSlot_inodes (fd : Nat) (file : Option File) :
    (setSlot s fd file).inodes = s.inodes := rfl

@[simp] theorem setCrefs_fl (node crefs : Nat) : (setCrefs s node crefs).fl = s.fl := rfl

@[simp] theorem setCrefs_inodes (node crefs n : Nat) :
    ((setCrefs s node crefs).inodes n) =
      if n = node then { s.inodes node with crefs := crefs } else s.inodes n := by
  simp [setCrefs, Function.update_apply]

@[simp] theorem inodeAddref_fl (node : Nat) : (inodeAddref s node).fl = s.fl := rfl

@[simp] theorem inodeRelease_fl (node : Nat) : (inodeRelease s node).fl = s.fl := by
  unfold inodeRelease
  dsimp only
  split_ifs <;> rfl

theorem slot_lt {fd : Nat} {file : File} (taken : slot s fd = some file) : fd < s.fl.length := by
  by_contra past
  simp [slot, List.getElem?_eq_none (Nat.le_of_not_lt past)] at taken

@[simp] theorem slot_setSlot {fd : Nat} (lt : fd < s.fl.length) (file : Option File) (j : Nat) :
    slot (setSlot s fd file) j = if j = fd then file else slot s j := by
  simp only [slot, setSlot, List.getElem?_set]
  by_cases same : fd = j
  · subst same
    simp [lt]
  · simp [same, Ne.symm same]

@[simp] theorem slot_inodeAddref (node fd : Nat) : slot (inodeAddref s node) fd = slot s fd := by
  simp [slot]

@[simp] theorem slot_inodeRelease (node fd : Nat) : slot (inodeRelease s node) fd = slot s fd := by
  simp [slot]

end Frame

/-! ## What each call does -/

theorem filesCloseInternal_cases (s : Filelist) (fd : Nat) (closeRet : Int) :
    (slot s fd = none ∧ filesCloseInternal s fd closeRet = (ok, s)) ∨
      ∃ file, slot s fd = some file ∧
        filesCloseInternal s fd closeRet =
          (if (s.inodes file.inode).hasClose then closeRet else ok,
            setSlot (inodeRelease s file.inode) fd none) := by
  unfold filesCloseInternal
  cases taken : slot s fd with
  | none => exact .inl ⟨rfl, rfl⟩
  | some file => exact .inr ⟨file, rfl, rfl⟩

theorem filesCloseInternal_ret_nonneg (s : Filelist) (fd : Nat) {closeRet : Int}
    (closed : 0 ≤ closeRet) : 0 ≤ (filesCloseInternal s fd closeRet).1 := by
  rcases filesCloseInternal_cases s fd closeRet with ⟨-, eq⟩ | ⟨file, -, eq⟩
  · simp [eq, ok]
  · rw [eq]
    split <;> simp [ok, closed]

@[simp] theorem slot_filesCloseInternal (s : Filelist) {fd : Nat} (closeRet : Int) (j : Nat) :
    slot (filesCloseInternal s fd closeRet).2 j = if j = fd then none else slot s j := by
  rcases filesCloseInternal_cases s fd closeRet with ⟨free, eq⟩ | ⟨file, taken, eq⟩
  · rw [eq]
    split <;> simp_all
  · rw [eq, slot_setSlot (by simpa using slot_lt taken)]
    simp

@[simp] theorem filesCloseInternal_length (s : Filelist) (fd : Nat) (closeRet : Int) :
    (filesCloseInternal s fd closeRet).2.fl.length = s.fl.length := by
  rcases filesCloseInternal_cases s fd closeRet with ⟨-, eq⟩ | ⟨file, -, eq⟩ <;> simp [eq]

theorem fsDupfd2_ok {s : Filelist} {fd1 fd2 : Nat} (lt1 : fd1 < s.fl.length)
    (lt2 : fd2 < s.fl.length) (apart : fd1 ≠ fd2) {file : File} (opened : slot s fd1 = some file)
    {closeRet openRet : Int} (closed : 0 ≤ closeRet) (reopened : 0 ≤ openRet) :
    fsDupfd2 s fd1 fd2 closeRet openRet =
      (ok, setSlot (inodeAddref (filesCloseInternal s fd2 closeRet).2 file.inode) fd2 (some file)) := by
  have kept := filesCloseInternal_ret_nonneg s fd2 closed
  have notLess : ¬ openRet < 0 := by omega
  simp only [fsDupfd2, Nat.not_le.2 lt1, Nat.not_le.2 lt2, or_self, if_false, opened,
    reduceCtorEq, apart]
  simp [fileDup2, opened, Int.not_lt.2 kept, notLess]

/-! ## The references the calls move -/

theorem dup2_returns_ok_not_fd2 (s : Filelist) (fd1 fd2 : Nat) (file : File)
    (closeRet openRet : Int) (lt1 : fd1 < s.fl.length) (lt2 : fd2 < s.fl.length)
    (apart : fd1 ≠ fd2) (opened : slot s fd1 = some file) (closed : 0 ≤ closeRet)
    (reopened : 0 ≤ openRet) :
    slot (fsDupfd2 s fd1 fd2 closeRet openRet).2 fd2 = some file ∧
      (fsDupfd2 s fd1 fd2 closeRet openRet).1 = ok ∧
      ((fsDupfd2 s fd1 fd2 closeRet openRet).1 = fd2 ↔ fd2 = 0) := by
  rw [fsDupfd2_ok lt1 lt2 apart opened closed reopened]
  refine ⟨?_, rfl, ?_⟩
  · rw [slot_setSlot (by simpa using lt2)]
    simp
  · simp only [ok]
    omega

/-- Two descriptors, 0 open on inode 0 and 1 free, with drivers that have `open` and `close`. -/
def twoSlots : Filelist :=
  ⟨[some ⟨0, 0, 0⟩, none], fun _ => ⟨1, false, true, true⟩, []⟩

theorem dup2_returns_ok_not_fd2_twoSlots :
    0 < twoSlots.fl.length ∧ 1 < twoSlots.fl.length ∧ (0 : Nat) ≠ 1 ∧
      slot twoSlots 0 = some ⟨0, 0, 0⟩ ∧ (0 : Int) ≤ 0 ∧ (0 : Int) ≤ 0 ∧
      (slot (fsDupfd2 twoSlots 0 1 0 0).2 1 = some ⟨0, 0, 0⟩ ∧
        (fsDupfd2 twoSlots 0 1 0 0).1 = ok ∧ ((fsDupfd2 twoSlots 0 1 0 0).1 = (1 : Nat) ↔ 1 = 0)) :=
  ⟨by decide, by decide, by decide, rfl, Int.le_refl _, Int.le_refl _,
    dup2_returns_ok_not_fd2 twoSlots 0 1 ⟨0, 0, 0⟩ 0 0 (by decide) (by decide) (by decide) rfl
      (Int.le_refl _) (Int.le_refl _)⟩

end TinyAra.Fs.Files
