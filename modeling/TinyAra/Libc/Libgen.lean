/-
# Libc.Libgen -- `dirname` and `basename`

Both take a path (`none` for NULL), cut its trailing slashes unless one character would be left
(lib_dirname.c, lib_basename.c), and split at the last slash `strrchr` finds.  `posixDirname`
is the POSIX.1 algorithm, with "/" for the cases it leaves to the implementation.

* `dirname_departs_from_posix`: `dirname("a//b")` is `"a/"`, where POSIX strips the slashes
  that trail the directory part once the last component is gone, giving `"a"`.
-/
import TinyAra.Lib.CString

namespace TinyAra.Libc

set_option autoImplicit false

open CString

/-- The loop `while (path[len - 1] == '/')` from `len`: the length left, or `none` where the
one character left is a slash, for which the call returns "/". -/
def trimSlashes (path : List Char) : Nat → Option Nat
  | 0 => some 0
  | len + 1 =>
    if charAt path len = '/' then (if len + 1 > 1 then trimSlashes path len else none)
    else some (len + 1)

/-- `strrchr(path, '/')` once `path[len]` is the NUL: the offset of the last slash. -/
def lastSlash (path : List Char) (len : Nat) : Option Nat :=
  ((List.range len).filter fun i => charAt path i = '/').getLast?

def dirname : Option (List Char) → List Char
  | none => ['.']
  | some path =>
    if charAt path 0 = '\x00' then ['.']
    else
      match trimSlashes path (strlen path) with
      | none => ['/']
      | some len =>
        match lastSlash path len with
        | some 0 => ['/']
        | some p => path.take p
        | none => ['.']

def basename : Option (List Char) → List Char
  | none => ['.']
  | some path =>
    if charAt path 0 = '\x00' then ['.']
    else
      match trimSlashes path (strlen path) with
      | none => ['/']
      | some len =>
        match lastSlash path len with
        | some p => (path.take len).drop (p + 1)
        | none => path.take len

/-- `s` without the characters `c` it ends with. -/
def dropTrailing (c : Char) (s : List Char) : List Char := (s.reverse.dropWhile (· = c)).reverse

/-- The `dirname` of POSIX.1: past the slashes at the end, the last component and the slashes
before it go; a path of slashes only is "/", and one without a slash ".". -/
def posixDirname : Option (List Char) → List Char
  | none => ['.']
  | some s =>
    if s = [] then ['.'] else if s.all (· = '/') then ['/']
    else
      let s := dropTrailing '/' s
      if '/' ∉ s then ['.']
      else
        let s := dropTrailing '/' ((s.reverse.dropWhile (· ≠ '/')).reverse)
        if s = [] then ['/'] else s

theorem dirname_departs_from_posix :
    dirname (some ['a', '/', '/', 'b']) = ['a', '/'] ∧
      posixDirname (some ['a', '/', '/', 'b']) = ['a'] := by
  decide

end TinyAra.Libc
