/-
# Libc.Stdio.Sscanf -- `vsscanf`

`vsscanf(buf, fmt, ap)` (lib_sscanf.c) walks the format to its NUL. White space in the format is
skipped; a `%` starts the qualifier loop (`*`, `l`, a width of digits) up to a character of
`"dibouxcsefgn%"` or the NUL, and the conversion there reads the input; any other character must
match the next character of the input that is not white space.  `%s` and `%c` take their width,
or for `%s` and the integer conversions a width guessed by `findwidth`, and copy that much with
`strncpy`; the integer conversions convert the field with `strtol` or `strtoul`, and `%n` stores
how far the input was read.

The input and the format are the characters before their NULs. The two cursors are positions in
them: a cursor may move past the NUL, and a read there, out of the string, ends the model with
`Overrun`. The arguments `ap` point at are given by what the call stores through them, in the
order it takes them. Floating point is off (`CONFIG_LIBC_FLOATINGPOINT`), so `%f` only stores
`0.0`; `long` is 32 bits.

* `vsscanf_reads_past_nul`: `%2c` on `"a"` moves the input cursor past the NUL, so a `%n`
  after it stores 2; `%d ` on `"5 "` matches the two NULs and reads past the format's; a format
  ending in `%` reads past it; and a literal that does not match returns `EOF`.
-/
import TinyAra.Libc.Vsprintf
import TinyAra.Libc.Stdlib.Strtol
import TinyAra.Lib.CString

namespace TinyAra.Libc.Stdio

set_option autoImplicit false

open TinyAra.Libc.Stdlib (isspace strtol strtoul toSigned)
open CString (charAt strncpy)

def maxln : Nat := 128

def eof : Int := -1

/-- The string a read out of the string was in. -/
inductive Overrun where
  | buf
  | fmt
  | tmp
deriving DecidableEq, Repr

/-- What the call stores through an argument: the bytes `strncpy` and `tv[width] = '\0'` wrote for
`%s` and `%c`, an `int` or a `long` (`l`), or the `0.0` of a `float` or a `double` (`l`). -/
inductive Stored where
  | chars (bytes : List Char)
  | int (long : Bool) (value : Int)
  | real (double : Bool)
deriving DecidableEq, Repr

/-- `*p` for `p` at `i` in the string of the characters `s`: its NUL at `s.length`; past it, a
read out of the string. -/
def deref (s : List Char) (i : Nat) (which : Overrun) : Except Overrun Char :=
  if i ≤ s.length then .ok (charAt s i) else .error which

/-- `while (isspace(*p)) p++` from `i`: the NUL stops it. -/
def skipSpaces (s : List Char) (i : Nat) : Nat := i + ((s.drop i).takeWhile isspace).length

/-- `strcspn(s, spaces)`: the characters before the first white space or the NUL. -/
def strcspnSpaces (s : List Char) : Nat := (s.takeWhile fun c => !isspace c).length

/-- `findwidth(buf, fmt)` with `buf` at `b` and `fmt` at the conversion character `f`: up to the
white space when the format has white space or its NUL after the conversion, else up to the
first occurrence in the input of the character after it, if there is one and it is not `%`. -/
def findwidth (buf : List Char) (b : Nat) (fmt : List Char) (f : Nat) :
    Except Overrun Nat := do
  let next ← deref fmt (f + 1) .fmt
  let rest := buf.drop b
  if isspace next || next == '\x00' then return strcspnSpaces rest
  if next ≠ '%' then
    if let some k := rest.findIdx? (· == next) then return k
  return strcspnSpaces rest

/-- The qualifiers of a conversion. -/
structure Spec where
  noassign : Bool
  lflag : Bool
  width : Nat

def isdigit (c : Char) : Bool := '0' ≤ c && c ≤ '9'

/-- The qualifier loop `for (; *fmt; fmt++)` on the format from after the `%`: the qualifiers,
and how many characters it passed before the one that stopped it. A width of digits is copied
into `tmp` and read by `atoi`; a run of `MAXLN` digits or more overruns `tmp`. -/
def qualifiers : List Char → Spec → Except Overrun (Spec × Nat)
  | [], q => .ok (q, 0)
  | c :: cs, q =>
    if strchr "dibouxcsefgn%".toList c then .ok (q, 0)
    else if c = '*' then (qualifiers cs { q with noassign := true }).map fun (q, n) => (q, n + 1)
    else if c = 'l' ∨ c = 'L' then
      (qualifiers cs { q with lflag := true }).map fun (q, n) => (q, n + 1)
    else if '1' ≤ c ∧ c ≤ '9' then
      let run := (c :: cs).takeWhile isdigit
      if maxln ≤ run.length then .error .tmp
      else
        -- `MIN(sizeof(tmp) - 1, atoi(tmp))`, the `int` taken as a `size_t`
        let width := min (maxln - 1) ((strtol run 10).1 % 2 ^ 32).toNat
        (qualifiers (cs.drop (run.length - 1)) { q with width }).map
          fun (q, n) => (q, n + run.length)
    else (qualifiers cs q).map fun (q, n) => (q, n + 1)
termination_by cs => cs.length
decreasing_by all_goals simp only [List.length_drop, List.length_cons]; omega

/-- The width of a `%s` or integer conversion: the one given, or `findwidth`'s, at most
`MAXLN - 1`. -/
def fieldWidth (buf : List Char) (b : Nat) (fmt : List Char) (f : Nat) (q : Spec) :
    Except Overrun Nat :=
  if q.width = 0 then (findwidth buf b fmt f).map (min (maxln - 1)) else .ok q.width

/-- How a conversion ends: the loop goes on with the input cursor, the count and what was
stored, or the call returns. -/
inductive Step where
  | next (b count : Nat) (stored : List Stored)
  | ret (value : Int) (b count : Nat) (stored : List Stored)

/-- The conversion of the field `tmp` for the conversion character `c`: `strtol` for `%d` and
the `default` of the `switch`, `strtoul` for the others, in the base of `c`; the value, as the
`long` it is stored in, and how many characters it read (`endptr - tmp`). -/
def convertField (c : Char) (tmp : List Char) : Int × Nat :=
  let base : Int :=
    if c = 'x' ∨ c = 'X' then 16 else if c = 'o' then 8 else if c = 'b' then 2 else 10
  if c ≠ 'u' ∧ c ≠ 'x' ∧ c ≠ 'X' ∧ c ≠ 'o' ∧ c ≠ 'b' then strtol tmp base
  else (toSigned 32 (strtoul tmp base).1, (strtoul tmp base).2)

/-- The integer conversion `c` (one of `"dobxu"`, or the NUL that `strchr` finds in it) at `b`
with the input not at its NUL: the field copied into `tmp` and converted; when no digit was read
the call returns the count. -/
def scanInteger (buf : List Char) (b : Nat) (fmt : List Char) (f : Nat) (q : Spec) (c : Char)
    (count : Nat) (stored : List Stored) : Except Overrun Step := do
  let b := skipSpaces buf b
  let width ← fieldWidth buf b fmt f q
  let (value, consumed) := convertField c (strncpy (buf.drop b) width)
  -- `strtol` and `strtoul` never set `errno`, so only `tmp == endptr` fails
  if consumed = 0 then
    return .ret count b count (if q.noassign then stored else stored ++ [.int q.lflag 0])
  else if q.noassign then return .next (b + consumed) count stored
  else return .next (b + consumed) (count + 1) (stored ++ [.int q.lflag value])

/-- The conversion at `f` in the format, with the qualifiers `q` and the input at `b`. -/
def scanConversion (buf : List Char) (b : Nat) (fmt : List Char) (f : Nat) (q : Spec) (count : Nat)
    (stored : List Stored) : Except Overrun Step := do
  let c := charAt fmt f
  if c = 's' then
    -- `tv[0] = '\0'`, and the field over it when the input is not at its NUL
    if (← deref buf b .buf) = '\x00' then
      return .next b count (if q.noassign then stored else stored ++ [.chars ['\x00']])
    let b := skipSpaces buf b
    let width ← fieldWidth buf b fmt f q
    if q.noassign then return .next (b + width) count stored
    return .next (b + width) (count + 1)
      (stored ++ [.chars (strncpy (buf.drop b) width ++ ['\x00'])])
  else if c = 'c' then
    if (← deref buf b .buf) = '\x00' then
      return .next b count (if q.noassign then stored else stored ++ [.chars ['\x00']])
    let width := if q.width = 0 then 1 else q.width
    if q.noassign then return .next (b + width) count stored
    return .next (b + width) (count + 1)
      (stored ++ [.chars (strncpy (buf.drop b) width ++ ['\x00'])])
  else if strchr "dobxu".toList c then
    if (← deref buf b .buf) = '\x00' then
      return .next b count (if q.noassign then stored else stored ++ [.int q.lflag 0])
    scanInteger buf b fmt f q c count stored
  else if c = 'f' ∨ c = 'F' then
    return .next b count (if q.noassign then stored else stored ++ [.real q.lflag])
  else if c = 'n' then
    -- `%n` does not count as a conversion
    return .next b count (if q.noassign then stored else stored ++ [.int q.lflag b])
  else return .next b count stored

/-- The locals of the loop: the two cursors, the count and what was stored. -/
structure Scan where
  fmt : Nat
  buf : Nat
  count : Nat
  stored : List Stored
deriving DecidableEq, Repr

def Scan.exit (st : Scan) : Int := if st.count = 0 then eof else st.count

/-- The loop `while (*fmt)` of `vsscanf`: the value returned, with the locals at the return. -/
def vsscanfLoop (buf fmt : List Char) (st : Scan) : Except Overrun (Int × Scan) :=
  if st.fmt ≤ fmt.length then
    if charAt fmt st.fmt = '\x00' then .ok (st.exit, st)
    else do
      let f := skipSpaces fmt st.fmt
      if charAt fmt f = '%' then
        let (q, n) ← qualifiers (fmt.drop (f + 1)) ⟨false, false, 0⟩
        let f := f + 1 + n
        match ← scanConversion buf st.buf fmt f q st.count st.stored with
        | .ret value b count stored => return (value, ⟨f, b, count, stored⟩)
        | .next b count stored => vsscanfLoop buf fmt ⟨f + 1, b, count, stored⟩
      else if (← deref buf st.buf .buf) ≠ '\x00' then
        let b := skipSpaces buf st.buf
        if charAt fmt f ≠ charAt buf b then return (st.exit, { st with fmt := f, buf := b })
        vsscanfLoop buf fmt { st with fmt := f + 1, buf := b + 1 }
      else return (st.exit, { st with fmt := f })
  else .error .fmt
termination_by fmt.length + 1 - st.fmt
decreasing_by all_goals simp only [skipSpaces]; omega

/-- `vsscanf(buf, fmt, ap)`: the value it returns and what it stores through `ap`. -/
def vsscanf (buf fmt : List Char) : Except Overrun (Int × Scan) :=
  vsscanfLoop buf fmt ⟨0, 0, 0, []⟩

theorem vsscanf_reads_past_nul :
    -- `%2c` on `"a"` moves the input cursor past the NUL, and the `%n` after it stores 2
    vsscanf "a".toList "%2c%n".toList =
      .ok (1, ⟨5, 2, 1, [.chars ['a', '\x00', '\x00'], .int false 2]⟩) ∧
    -- `%d ` on `"5 "`: the format's NUL matches the input's, and the loop reads past it
    vsscanf "5 ".toList "%d ".toList = .error .fmt ∧
    -- a format ending in `%`: the NUL is taken for an integer conversion
    vsscanf "5".toList "%".toList = .error .fmt ∧
    -- a literal that does not match: `EOF`, though the input has not ended
    (vsscanf "abc".toList "x".toList).map Prod.fst = .ok eof := by
  decide +kernel

end TinyAra.Libc.Stdio
