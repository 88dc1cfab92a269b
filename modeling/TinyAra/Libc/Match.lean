/-
# Libc.Match -- the shell-style pattern matcher

`match(pattern, string)` (lib_match.c) tries the alternatives of the pattern between its `|`s
with `match_one`, which walks an alternative and the string together: `?` takes one character,
a set `[...]` one character it names, `*` and `**` try every split of the rest of the string
from the longest, and any other character itself. A pattern is read as the C string from the
alternative's start, so a set may run past the `|` that ends it.

* `match_misses_set_member`: `match("[ab]", "b")` is 0. The set loop steps past every
  character it has not matched as the start of a range, and then past the next one too, so it
  compares `b` with neither `b` nor any range and `[ab]` takes `a` alone.
-/
import TinyAra.Lib.CString

namespace TinyAra.Libc

set_option autoImplicit false

open CString

/-- `while (*p != ']' && *p != '\0') p++;` -/
def skipSet (pat : List Char) : Nat → Nat → Nat
  | 0, p => p
  | fuel + 1, p =>
    if charAt pat p ≠ ']' ∧ charAt pat p ≠ '\x00' then skipSet pat fuel (p + 1) else p

/-- The loop of a set `[...]` at `p` for the character `c`: whether it matched, and where `p`
stops. Each round moves `p` on, so `pat.length + 1` rounds reach the NUL. -/
def setLoop (pat : List Char) (c : Char) : Nat → Nat → Bool × Nat
  | 0, p => (false, p)
  | fuel + 1, p =>
    if charAt pat p ≠ ']' ∧ charAt pat p ≠ '\x00' then
      let p := p + 1
      if c = charAt pat p then (true, skipSet pat (pat.length + 1) p)
      else if charAt pat p ≠ '\x00' then
        let first := charAt pat p
        let p := p + 1
        if charAt pat p = '-' then
          if first ≤ c ∧ c ≤ charAt pat (p + 1) then (true, skipSet pat (pat.length + 1) (p + 1))
          else setLoop pat c fuel (p + 1)
        else setLoop pat c fuel p
      else setLoop pat c fuel p
    else (false, p)

/-- `match_one(pat + start, patlen, str + s)` with the loop at `p`; every round and every call
takes one character of the alternative, so `patlen + 1` rounds are enough. -/
def matchOne (pat str : List Char) (start patlen : Nat) : Nat → Nat → Nat → Bool
  | 0, _, _ => false
  | fuel + 1, p, s =>
    if p - start < patlen then
      let c := charAt str s
      if charAt pat p = '?' ∧ c ≠ '\x00' then matchOne pat str start patlen fuel (p + 1) (s + 1)
      else if charAt pat p = '[' ∧ c ≠ '\x00' then
        let (found, p) := setLoop pat c (pat.length + 1) p
        if found then matchOne pat str start patlen fuel (p + 1) (s + 1) else false
      else if charAt pat p = '*' then
        -- `**` tries every suffix, `*` only those before the next slash
        let (p, i) :=
          if charAt pat (p + 1) = '*' then (p + 2, strlen (str.drop s))
          else (p + 1, ((str.drop s).takeWhile fun c => c ≠ '/' ∧ c ≠ '\x00').length)
        (List.range (i + 1)).reverse.any fun k =>
          matchOne pat str p (patlen - (p - start)) fuel p (s + k)
      else if charAt pat p ≠ c then false
      else matchOne pat str start patlen fuel (p + 1) (s + 1)
    else charAt str s = '\x00'

/-- `match(pattern, string)`, the pattern as the characters before its NUL. -/
def «match» (pattern str : List Char) : Bool :=
  match h : pattern.idxOf? '|' with
  | none => matchOne pattern str 0 pattern.length (pattern.length + 1) 0 0
  | some k =>
    have : k < pattern.length := List.idxOf?_eq_some_iff.mp h |>.1
    matchOne pattern str 0 k (k + 1) 0 0 || «match» (pattern.drop (k + 1)) str
termination_by pattern.length

theorem match_misses_set_member :
    «match» ['[', 'a', 'b', ']'] ['b'] = false ∧ «match» ['[', 'a', 'b', ']'] ['a'] = true := by
  constructor <;> (rw [«match»]; decide)

end TinyAra.Libc
