/-
# Libc.Vsprintf -- the format loop of `lib_vsprintf`

`lib_vsprintf` (lib_libvsprintf.c) walks the format from `src` to its NUL. A character other
than `%` is put as it is; after a `%` the qualifier loop reads the flags `-`, `0`, `+`, `#`, `.`,
a field width (digits or `*`) until a NUL or a character of `"diuxXpobeEfgGlLsc%"`, and the
conversion there puts its output. Every branch ends with the loop's `src++`.

The configuration modelled is the one of the GCC targets (compiler.h): `long` is `int`
(`CONFIG_LONG_IS_NOT_INT` and `CONFIG_PTR_IS_NOT_INT` unset), `long long` is 64 bits, field widths
are on (`CONFIG_NOPRINTF_FIELDWIDTH` unset), the format is read directly
(`CONFIG_ARCH_ROMGETC` unset), and floating point is off (`CONFIG_LIBC_FLOATINGPOINT`, `n` in
Kconfig): `e`, `E`, `f`, `g`, `G` end a conversion that puts nothing.

The format is memory from address 0 (`Buffer`), so that the loop can be followed past the
terminator. The arguments are a list; a conversion that reads a missing argument or one of
another kind, or a run that outlives its fuel, gives `none`.

* `getsize_eq_length`: `getusize` and `getllusize` count exactly what `utoascii` and
  `llutoascii` put;
* `vsprintfLoop_percent_nul`: a `%` right before the NUL is a conversion that `strchr` accepts
  (it finds the terminator of `"diuxXpob"`), so one `int` is read, nothing is put, and the loop
  goes on after the NUL; `vsprintf_reads_past_terminator`: so the output depends on the bytes
  after the terminator, and without a NUL after it the loop does not end.
-/
import TinyAra.Libc.Stdio
import TinyAra.Lib.Numeral
import TinyAra.Lib.CInt
import TinyAra.Lib.Memory
import Mathlib

namespace TinyAra.Libc.Stdio

set_option autoImplicit false

/-! ## Flags and justification -/

/-- The bits of `flags` that the conversions read (`FLAG_HASASTERISKWIDTH` and
`FLAG_HASASTERISKTRUNC` are set but never tested). -/
structure Flags where
  showplus : Bool := false
  altform : Bool := false
  hasdot : Bool := false
  longprecision : Bool := false
  longlongprecision : Bool := false
  negate : Bool := false
deriving DecidableEq, Repr

def Flags.signed (flags : Flags) : Bool := flags.showplus || flags.negate

/-- `fmt`: `FMT_RJUST`, `FMT_LJUST` and `FMT_RJUST0` (`FMT_CENTER` is compiled out). -/
inductive Justify where
  | rjust
  | ljust
  | rjust0
deriving DecidableEq, Repr

/-- `strchr(s, c) != NULL` for a string literal `s`: `c` is one of its characters or its
terminator. -/
def strchr : List Char → Char → Bool
  | [], c => c == '\x00'
  | x :: s, c => x == c || strchr s c

def convChars : List Char :=
  ['d', 'i', 'u', 'x', 'X', 'p', 'o', 'b', 'e', 'E', 'f', 'g', 'G', 'l', 'L', 's', 'c', '%']

def intChars : List Char := ['d', 'i', 'u', 'x', 'X', 'p', 'o', 'b']

/-! ## Unsigned to ASCII -/

def decChar (d : Nat) : Char := Char.ofNat (d + '0'.toNat)

/-- `utodec`, `utooct` and `utobin` (and their `long long` forms, the same code on a wider
type): the digits of `dividend = n / base` first while it is not zero, then
`remainder = n % base`. -/
def utoBase (base : Nat) (two : 2 ≤ base) (n : Nat) : List Char :=
  let remainder := n % base
  -- `dividend` is `n / base`
  (if _ : n / base ≠ 0 then utoBase base two (n / base) else []) ++ [decChar remainder]
termination_by n
decreasing_by exact Nat.div_lt_self (Nat.pos_of_ne_zero fun zero => by simp_all) two

def utodec (n : Nat) : List Char := utoBase 10 (by decide) n

/-- `utooct(obj, n)`: `n & 0x7` and `n >> 3` are `n % 8` and `n / 8`. -/
def utooct (n : Nat) : List Char := utoBase 8 (by decide) n

/-- `utobin(obj, n)`: `n & 1` and `n >> 1` are `n % 2` and `n / 2`. -/
def utobin (n : Nat) : List Char := utoBase 2 (by decide) n

/-- A hex digit: `nibble + '0'` below ten, `nibble + a - 10` from ten, `a` being `'a'` or `'A'`. -/
def hexChar (nibble : Nat) (a : Char) : Char :=
  if nibble < 10 then Char.ofNat (nibble + '0'.toNat) else Char.ofNat (nibble + a.toNat - 10)

/-- The loop of `utohex` for `bits = 4 * k` down to 4: the nibbles from the first that is not
zero, and `nonzero` after the loop. -/
def utohexLoop (n : Nat) (a : Char) : (k : Nat) → (nonzero : Bool) → List Char × Bool
  | 0, nonzero => ([], nonzero)
  | k + 1, nonzero =>
    -- `(n >> (bits - 4)) & 0xf` with `bits - 4 = 4 * k`
    let nibble := (n >>> (4 * k)) &&& 0xf
    if nibble != 0 || nonzero then
      let (rest, nonzero) := utohexLoop n a k true
      (hexChar nibble a :: rest, nonzero)
    else utohexLoop n a k nonzero

/-- `utohex(obj, n, a)` on a type of `bits` bits: the loop, and a `0` when no nibble was put. -/
def utohex (bits : Nat) (n : Nat) (a : Char) : List Char :=
  let (out, nonzero) := utohexLoop n a (bits / 4) false
  if !nonzero then out ++ ['0'] else out

/-- `utoascii` (`bits = 32`, `p` written as `x`) and `llutoascii` (`bits = 64`, where `p` puts
nothing): the conversion of the unsigned `n` for `fmt`, with the alternate-form prefix. -/
def toascii (bits : Nat) (hexP : Bool) (fmt : Char) (flags : Flags) (n : Nat) : List Char :=
  let hex := (if flags.altform then ['0', 'x'] else []) ++
    utohex bits n (if fmt = 'X' then 'A' else 'a')
  match fmt with
  | 'd' | 'i' | 'u' => utodec n
  | 'x' | 'X' => hex
  | 'p' => if hexP then hex else []
  | 'o' => (if flags.altform then ['0'] else []) ++ utooct n
  | 'b' => utobin n
  | _ => []

/-- `utoascii(obj, fmt, flags, n)`. -/
def utoascii (fmt : Char) (flags : Flags) (n : Nat) : List Char := toascii 32 true fmt flags n

/-- `llutoascii(obj, fmt, flags, lln)`. -/
def llutoascii (fmt : Char) (flags : Flags) (n : Nat) : List Char := toascii 64 false fmt flags n

/-- `fixup` (`bits = 32`) and `llfixup` (`bits = 64`): a negative `d` or `i` value sets
`FLAG_NEGATE`, clears `FLAG_SHOWPLUS` and is negated, the most negative value wrapping to
itself; the unsigned conversions other than `u` clear both sign flags. -/
def fixupBits (bits : Nat) (fmt : Char) (flags : Flags) (n : Int) : Flags × Int :=
  match fmt with
  | 'd' | 'i' =>
    if n < 0 then ({ flags with negate := true, showplus := false }, (-n).bmod (2 ^ bits))
    else (flags, n)
  | 'p' | 'x' | 'X' | 'o' | 'b' => ({ flags with showplus := false, negate := false }, n)
  | _ => (flags, n)

/-- `getusize` and `getllusize`: the `nput` of a null stream after the conversion. -/
def getsize (bits : Nat) (hexP : Bool) (fmt : Char) (flags : Flags) (n : Nat) : Nat :=
  ((toascii bits hexP fmt flags n).foldl Outstream.put (.null 0)).nput

/-! ## Justification -/

/-- The sign `prejustify` puts: `-` for `FLAG_NEGATE`, else `+` for `FLAG_SHOWPLUS`. -/
def signChars (flags : Flags) : List Char :=
  if flags.negate then ['-'] else if flags.showplus then ['+'] else []

/-- `prejustify(obj, fmt, flags, fieldwidth, valwidth)`: the spaces and sign of right
justification, the sign and zeros of zero fill, the sign alone for left justification. -/
def prejustify (fmt : Justify) (flags : Flags) (fieldwidth valwidth : Int) : List Char :=
  match fmt with
  | .rjust =>
    let valwidth := if flags.signed then valwidth + 1 else valwidth
    List.replicate (fieldwidth - valwidth).toNat ' ' ++ signChars flags
  | .rjust0 =>
    if flags.negate then '-' :: List.replicate (fieldwidth - (valwidth + 1)).toNat '0'
    else if flags.showplus then '+' :: List.replicate (fieldwidth - (valwidth + 1)).toNat '0'
    else List.replicate (fieldwidth - valwidth).toNat '0'
  | .ljust => signChars flags

/-- `postjustify(obj, fmt, flags, fieldwidth, valwidth)`: the spaces after a left-justified
value. -/
def postjustify (fmt : Justify) (flags : Flags) (fieldwidth valwidth : Int) : List Char :=
  match fmt with
  | .rjust | .rjust0 => []
  | .ljust =>
    let valwidth := if flags.signed then valwidth + 1 else valwidth
    List.replicate (fieldwidth - valwidth).toNat ' '

/-- The integer branch for an `int` (`bits = 32`) or `long long` (`bits = 64`) argument `n`:
fixup, the width of the digits, then prejustify, the digits and postjustify. -/
def integerConv (bits : Nat) (hexP : Bool) (c : Char) (flags : Flags) (fmt : Justify)
    (width : Int) (n : Int) : List Char :=
  let (flags, n) := fixupBits bits c flags n
  -- `(unsigned int)n`
  let u := (n % 2 ^ bits).toNat
  let uwidth : Int := getsize bits hexP c flags u
  prejustify fmt flags width uwidth ++ toascii bits hexP c flags u ++
    postjustify fmt flags width uwidth

/-! ## The arguments -/

/-- An argument: an integer of any type, or a string pointer (`none` for `NULL`) given as the
characters before its NUL. -/
inductive Arg where
  | int (v : Int)
  | str (s : Option (List Char))
deriving DecidableEq, Repr

/-- `va_arg(ap, int)` (`bits = 32`) and `va_arg(ap, long long)` (`bits = 64`): the next
argument in two's complement of `bits` bits. -/
def vaArgInt (bits : Nat) : List Arg → Option (Int × List Arg)
  | .int v :: ap => some (v.bmod (2 ^ bits), ap)
  | _ => none

def vaArgStr : List Arg → Option (Option (List Char) × List Arg)
  | .str s :: ap => some (s, ap)
  | _ => none

def gNullstring : List Char := ['(', 'n', 'u', 'l', 'l', ')']

/-! ## The loops -/

/-- The locals one conversion sets, with the format pointer and the arguments left. -/
structure Locals where
  src : Nat
  flags : Flags
  fmt : Justify
  width : Int
  ap : List Arg

/-- The digits of a field width after its first: `FMT_NEXT` while a digit follows,
`n = 10 * n + digit` in the `int n`; the width and the address of its last digit (after
`FMT_PREV`). -/
def widthLoop (s : Buffer) : (fuel : Nat) → (src : Nat) → (n : Int) → Option (Int × Nat)
  | 0, _, _ => none
  | fuel + 1, src, n =>
    let c := s (src + 1)
    if '0' ≤ c ∧ c ≤ '9' then
      widthLoop s fuel (src + 1) (CInt.wrap 32 (10 * n + ((c.toNat : Int) - '0'.toNat)))
    else some (n, src)

/-- One pass of the qualifier loop's body at `*src`. -/
def qualifier (s : Buffer) (fuel : Nat) (q : Locals) : Option Locals :=
  let c := s q.src
  if c = '-' then some { q with fmt := .ljust }
  else if c = '0' then some { q with fmt := .rjust0 }
  else if c = '*' then do
    let (value, ap) ← vaArgInt 32 q.ap
    -- after a `.` the value is `trunc`, which only floating point conversions read
    if q.flags.hasdot then some { q with ap } else some { q with width := value, ap }
  else if '1' ≤ c ∧ c ≤ '9' then do
    let (n, src) ← widthLoop s fuel q.src ((c.toNat : Int) - '0'.toNat)
    if q.flags.hasdot then some { q with src } else some { q with src, width := n }
  else if c = '.' then some { q with flags := { q.flags with hasdot := true } }
  else if c = '+' then some { q with flags := { q.flags with showplus := true } }
  else if c = '#' then some { q with flags := { q.flags with altform := true } }
  else some q

/-- The qualifier loop `for (; FMT_CHAR; FMT_BOTTOM)`: it stops at a NUL or at a character of
`"diuxXpobeEfgGlLsc%"`. -/
def qualifierLoop (s : Buffer) : (fuel : Nat) → Locals → Option Locals
  | 0, _ => none
  | fuel + 1, q =>
    if s q.src = '\x00' then some q
    else if strchr convChars (s q.src) then some q
    else do
      let q ← qualifier s fuel q
      qualifierLoop s fuel { q with src := q.src + 1 }

/-- The `L`, `l` and `ll` prefixes: the flags they set and the pointer past them. -/
def lengthPrefix (s : Buffer) (flags : Flags) (src : Nat) : Flags × Nat :=
  if s src = 'L' then ({ flags with longlongprecision := true }, src + 1)
  else if s src = 'l' then
    let flags := { flags with longprecision := true }
    if s (src + 1) = 'l' then ({ flags with longlongprecision := true }, src + 2)
    else (flags, src + 1)
  else (flags, src)

/-- The conversion at the character that ended the qualifier loop: what it puts, the format
pointer at its last character, and the arguments left. -/
def conversion (s : Buffer) (q : Locals) : Option (List Char × Nat × List Arg) :=
  let c := s q.src
  if c = '%' then some (['%'], q.src, q.ap)
  else if c = 's' then do
    let (ptmp, ap) ← vaArgStr q.ap
    let ptmp := ptmp.getD gNullstring
    let swidth : Int := ptmp.length
    some (prejustify q.fmt {} q.width swidth ++ ptmp ++ postjustify q.fmt {} q.width swidth,
      q.src, ap)
  else if c = 'c' then do
    let (n, ap) ← vaArgInt 32 q.ap
    some ([Char.ofNat (n % 256).toNat], q.src, ap)
  else
    let (flags, src) := lengthPrefix s q.flags q.src
    let c := s src
    if strchr intChars c then
      if flags.longlongprecision ∧ c ≠ 'p' then do
        let (lln, ap) ← vaArgInt 64 q.ap
        some (integerConv 64 false c flags q.fmt q.width lln, src, ap)
      else do
        let (n, ap) ← vaArgInt 32 q.ap
        some (integerConv 32 true c flags q.fmt q.width n, src, ap)
    -- the floating point conversions are not configured
    else some ([], src, q.ap)

/-- The loop of `lib_vsprintf` from `src`: the characters it puts. -/
def vsprintfLoop (s : Buffer) : (fuel : Nat) → (src : Nat) → List Arg → Option (List Char)
  | 0, _, _ => none
  | fuel + 1, src, ap =>
    if s src = '\x00' then some []
    else if s src ≠ '%' then (s src :: ·) <$> vsprintfLoop s fuel (src + 1) ap
    else do
      let q ← qualifierLoop s fuel { src := src + 1, flags := {}, fmt := .rjust, width := 0, ap }
      let (out, src, ap) ← conversion s q
      (out ++ ·) <$> vsprintfLoop s fuel (src + 1) ap

/-- `lib_vsprintf(obj, src, ap)`: the stream after the characters the loop puts, and the
`obj->nput` it returns. -/
def libVsprintfFmt (obj : Outstream) (s : Buffer) (src : Nat) (ap : List Arg) (fuel : Nat) :
    Option (Outstream × Nat) :=
  (vsprintfLoop s fuel src ap).map (libVsprintf obj)

/-- A buffer holding the characters `l` and NULs after them. -/
def strBuffer (l : List Char) : Buffer := fun i => l.getD i '\x00'

/-! ## The digits -/

section Digits

open Numeral

theorem utoBase_eq (base : Nat) (two : 2 ≤ base) (n : Nat) :
    utoBase base two n = (numeral base n).map decChar := by
  induction n using Nat.strong_induction_on with
  | _ n ih =>
    rw [utoBase, numeral_eq two n]
    by_cases quot : n / base ≠ 0
    · have pos : 0 < n := Nat.pos_of_ne_zero fun zero => quot (by simp [zero])
      rw [dif_pos quot, if_pos quot, ih _ (Nat.div_lt_self pos two), List.map_append]
      rfl
    · rw [dif_neg quot, if_neg quot]
      rfl

theorem nibble_eq (n k : Nat) : (n >>> (4 * k)) &&& 0xf = n / 16 ^ k % 16 :=
  shiftRight_and_eq 4 k n

theorem utohexLoop_true (n : Nat) (a : Char) : ∀ k : Nat,
    utohexLoop n a k true = ((fixedDigits 16 k n).map (hexChar · a), true)
  | 0 => rfl
  | k + 1 => by
    simp only [utohexLoop, Bool.or_true, ↓reduceIte, utohexLoop_true n a k, fixedDigits,
      List.map_cons, nibble_eq]

/-- Before a nibble has been put, the leading zero nibbles are skipped; `nonzero` ends up set
when some nibble is not zero. -/
theorem utohexLoop_false (n : Nat) (a : Char) : ∀ k : Nat,
    utohexLoop n a k false =
      (((fixedDigits 16 k n).dropWhile (· == 0)).map (hexChar · a),
        (fixedDigits 16 k n).any (· != 0))
  | 0 => rfl
  | k + 1 => by
    rw [utohexLoop, nibble_eq, fixedDigits]
    by_cases zero : n / 16 ^ k % 16 = 0
    · simp [zero, utohexLoop_false n a k]
    · simp [zero, utohexLoop_true n a k]

theorem hexChar_zero (a : Char) : hexChar 0 a = '0' := rfl

theorem utohex_eq {bits n : Nat} (a : Char) (four : 4 ∣ bits) (lt : n < 2 ^ bits) :
    utohex bits n a = (numeral 16 n).map (hexChar · a) := by
  obtain ⟨k, rfl⟩ := four
  have top : n < 16 ^ k := by rwa [Nat.pow_mul] at lt
  rw [utohex, Nat.mul_div_cancel_left k (by decide), utohexLoop_false]
  by_cases zero : n = 0
  · subst zero
    simp [fixedDigits_zero, numeral_of_lt (by decide : 0 < 16), hexChar_zero]
  · have digits := dropWhile_fixedDigits (by decide) (Nat.pos_of_ne_zero zero) top
    have some : (fixedDigits 16 k n).any (· != 0) = true := by
      by_contra none
      have empty : (fixedDigits 16 k n).dropWhile (· == 0) = [] :=
        List.dropWhile_eq_nil_iff.mpr fun d mem => by
        simpa using List.any_eq_false.mp (Bool.of_not_eq_true none) d mem
      exact numeral_ne_nil 16 n (digits ▸ empty)
    simp only [some, digits, Bool.not_true, Bool.false_eq_true, ↓reduceIte]

end Digits

/-! ## The sign counts towards the width -/

theorem length_signChars (flags : Flags) :
    (signChars flags).length = if flags.signed then 1 else 0 := by
  unfold signChars Flags.signed
  cases flags.negate <;> cases flags.showplus <;> rfl

/-- Right justification: spaces for what the value and its sign leave of the field, then the
sign. -/
theorem prejustify_rjust (flags : Flags) (fieldwidth valwidth : Int) :
    prejustify .rjust flags fieldwidth valwidth =
      List.replicate (fieldwidth - (valwidth + (signChars flags).length)).toNat ' ' ++
        signChars flags := by
  rw [prejustify, length_signChars]
  split <;> simp

theorem prejustify_rjust0 (flags : Flags) (fieldwidth valwidth : Int) :
    prejustify .rjust0 flags fieldwidth valwidth =
      signChars flags ++
        List.replicate (fieldwidth - (valwidth + (signChars flags).length)).toNat '0' := by
  unfold prejustify signChars
  cases flags.negate <;> cases flags.showplus <;> simp

theorem postjustify_ljust (flags : Flags) (fieldwidth valwidth : Int) :
    postjustify .ljust flags fieldwidth valwidth =
      List.replicate (fieldwidth - (valwidth + (signChars flags).length)).toNat ' ' := by
  rw [postjustify, length_signChars]
  split <;> simp

/-! ## What the loop reads -/

theorem getsize_eq_length (bits : Nat) (hexP : Bool) (fmt : Char) (flags : Flags) (n : Nat) :
    getsize bits hexP fmt flags n = (toascii bits hexP fmt flags n).length := by
  rw [getsize, foldl_put_null, Outstream.nput, Nat.zero_add]

theorem vsprintfLoop_nul {s : Buffer} {fuel src : Nat} {ap : List Arg} (nul : s src = '\x00') :
    vsprintfLoop s (fuel + 1) src ap = some [] := by
  rw [vsprintfLoop, if_pos nul]

theorem vsprintfLoop_plain {s : Buffer} {fuel src : Nat} {ap : List Arg}
    (notNul : s src ≠ '\x00') (notPercent : s src ≠ '%') :
    vsprintfLoop s (fuel + 1) src ap = (s src :: ·) <$> vsprintfLoop s fuel (src + 1) ap := by
  rw [vsprintfLoop, if_neg notNul, if_pos notPercent]

theorem vsprintfLoop_unterminated {s : Buffer} {ap : List Arg} : ∀ {fuel src : Nat},
    (∀ i, src ≤ i → s i ≠ '\x00' ∧ s i ≠ '%') → vsprintfLoop s fuel src ap = none
  | 0, _, _ => rfl
  | fuel + 1, src, plain => by
    obtain ⟨notNul, notPercent⟩ := plain src le_rfl
    rw [vsprintfLoop_plain notNul notPercent,
      vsprintfLoop_unterminated fun i le => plain i (by omega)]
    rfl

theorem vsprintfLoop_percent_nul {s : Buffer} {fuel src : Nat} {v : Int} {ap : List Arg}
    (percent : s src = '%') (nul : s (src + 1) = '\x00') :
    vsprintfLoop s (fuel + 2) src (.int v :: ap) = vsprintfLoop s (fuel + 1) (src + 2) ap := by
  have notNul : s src ≠ '\x00' := by rw [percent]; decide
  have stop : qualifierLoop s (fuel + 1)
      { src := src + 1, flags := {}, fmt := .rjust, width := 0, ap := .int v :: ap } =
      some { src := src + 1, flags := {}, fmt := .rjust, width := 0, ap := .int v :: ap } := by
    rw [qualifierLoop, if_pos nul]
  have conv : conversion s
      { src := src + 1, flags := {}, fmt := .rjust, width := 0, ap := .int v :: ap } =
      some ([], src + 1, ap) := by
    simp [conversion, nul, lengthPrefix, strchr, intChars, vaArgInt, integerConv, fixupBits,
      getsize_eq_length, toascii, prejustify, postjustify, Flags.signed, signChars]
  rw [vsprintfLoop, if_neg notNul, if_neg (not_not.mpr percent)]
  simp [stop, conv]

/-- After `"%"` the loop steps over the terminator. Two formats that agree up to their NUL
part: with `'A'` after the NUL, `A` is put and counted; with a NUL after it, nothing. With no
NUL after it the loop does not end. -/
theorem vsprintf_reads_past_terminator (v : Int) (ap : List Arg) :
    vsprintfLoop (strBuffer ['%', '\x00']) 4 0 (.int v :: ap) = some [] ∧
      vsprintfLoop (strBuffer ['%', '\x00', 'A']) 4 0 (.int v :: ap) = some ['A'] ∧
      (libVsprintfFmt (.null 0) (strBuffer ['%', '\x00']) 0 (.int v :: ap) 4).map Prod.snd =
        some 0 ∧
      (libVsprintfFmt (.null 0) (strBuffer ['%', '\x00', 'A']) 0 (.int v :: ap) 4).map
        Prod.snd = some 1 ∧
      ∀ fuel, vsprintfLoop (fun i => if i < 2 then strBuffer ['%', '\x00'] i else 'A') fuel 0
        (.int v :: ap) = none := by
  have empty : vsprintfLoop (strBuffer ['%', '\x00']) 4 0 (.int v :: ap) = some [] := by
    rw [@vsprintfLoop_percent_nul (strBuffer ['%', '\x00']) 2 0 v ap rfl rfl]
    rfl
  have letter : vsprintfLoop (strBuffer ['%', '\x00', 'A']) 4 0 (.int v :: ap) = some ['A'] := by
    rw [@vsprintfLoop_percent_nul (strBuffer ['%', '\x00', 'A']) 2 0 v ap rfl rfl]
    rfl
  refine ⟨empty, letter, by simp [libVsprintfFmt, empty, libVsprintf, Outstream.nput], by
    simp [libVsprintfFmt, letter, libVsprintf, Outstream.put, nulloutstreamPutc, Outstream.nput],
    fun fuel => ?_⟩
  -- past the NUL every byte is `A`
  have plain : ∀ i, 2 ≤ i → (fun i => if i < 2 then strBuffer ['%', '\x00'] i else 'A') i ≠ '\x00' ∧
      (fun i => if i < 2 then strBuffer ['%', '\x00'] i else 'A') i ≠ '%' := fun i le => by
    simp only [if_neg (Nat.not_lt.mpr le)]
    decide
  rcases fuel with _ | _ | fuel
  · rfl
  · rfl
  · rw [@vsprintfLoop_percent_nul _ fuel 0 v ap rfl rfl, vsprintfLoop_unterminated plain]

/-! ## Reading a conversion -/

theorem isDigit_iff (c : Char) : ('0' ≤ c ∧ c ≤ '9') ↔ 48 ≤ c.toNat ∧ c.toNat ≤ 57 := by
  rw [Char.le_def, Char.le_def, UInt32.le_iff_toNat_le, UInt32.le_iff_toNat_le]
  rfl

theorem decChar_toNat {d : Nat} (lt : d < 10) : (decChar d).toNat = d + 48 := by
  have valid : (d + 48).isValidChar := by unfold Nat.isValidChar; omega
  rw [decChar, show '0'.toNat = 48 from rfl, Char.ofNat, dif_pos valid]
  rfl

/-- What a flag character does to `fmt`: `-` sets `FMT_LJUST` and `0` sets `FMT_RJUST0`. -/
def justifyStep (fmt : Justify) (f : Char) : Justify :=
  if f = '-' then .ljust else if f = '0' then .rjust0 else fmt

/-- The flag characters of the qualifier loop that take no argument and no digits. -/
def IsFlag (f : Char) : Prop := f = '-' ∨ f = '0' ∨ f = '+' ∨ f = '#'

instance (f : Char) : Decidable (IsFlag f) :=
  inferInstanceAs (Decidable (f = '-' ∨ f = '0' ∨ f = '+' ∨ f = '#'))

/-- The locals after the flag characters `fl`: the last of `-` and `0` decides `fmt`, and `+`
and `#` set their flags. -/
def readFlags (q : Locals) (fl : List Char) : Locals :=
  { q with
    src := q.src + fl.length
    fmt := fl.foldl justifyStep q.fmt
    flags := { q.flags with
      showplus := q.flags.showplus || fl.contains '+'
      altform := q.flags.altform || fl.contains '#' } }

theorem readFlags_append (q : Locals) (fl₁ fl₂ : List Char) :
    readFlags (readFlags q fl₁) fl₂ = readFlags q (fl₁ ++ fl₂) := by
  simp only [readFlags, List.length_append, Nat.add_assoc, List.foldl_append,
    List.contains_append, Bool.or_assoc]

theorem qualifierLoop_flag {s : Buffer} {q : Locals} {fuel : Nat} (flag : IsFlag (s q.src)) :
    qualifierLoop s (fuel + 1) q = qualifierLoop s fuel (readFlags q [s q.src]) := by
  obtain ⟨f, here⟩ : ∃ f, s q.src = f := ⟨_, rfl⟩
  rw [here] at flag ⊢
  rcases flag with rfl | rfl | rfl | rfl <;>
    simp [qualifierLoop, qualifier, here, strchr, convChars, readFlags, justifyStep]

theorem qualifierLoop_flags {s : Buffer} : ∀ {fl : List Char} {q : Locals} {fuel : Nat},
    (∀ f ∈ fl, IsFlag f) → Memory.read s q.src fl.length = fl →
      qualifierLoop s (fuel + fl.length) q = qualifierLoop s fuel (readFlags q fl)
  | [], q, fuel, _, _ => by simp [readFlags]
  | f :: fl, q, fuel, flags, read => by
    rw [List.length_cons, Memory.read_succ] at read
    obtain ⟨here, rest⟩ := List.cons_eq_cons.mp read
    have flag : IsFlag (s q.src) := here ▸ flags f List.mem_cons_self
    have next : Memory.read s (readFlags q [f]).src fl.length = fl := rest
    rw [List.length_cons, ← Nat.add_assoc, qualifierLoop_flag flag, here,
      qualifierLoop_flags (fun g mem => flags g (List.mem_cons_of_mem f mem)) next,
      readFlags_append, List.singleton_append]

/-- The digits after the first, while the width they spell fits an `int`: then `n` never
wraps. -/
theorem widthLoop_digits {s : Buffer} : ∀ {ds : List Nat} {src fuel n : Nat},
    (∀ d ∈ ds, d < 10) → Memory.read s (src + 1) ds.length = ds.map decChar →
      ¬ ('0' ≤ s (src + 1 + ds.length) ∧ s (src + 1 + ds.length) ≤ '9') →
      ds.foldl (fun acc d => 10 * acc + d) n < 2 ^ 31 →
      widthLoop s (fuel + ds.length + 1) src n =
        some (((ds.foldl (fun acc d => 10 * acc + d) n : Nat) : Int), src + ds.length)
  | [], src, fuel, n, _, _, stop, _ => by
    rw [List.length_nil, Nat.add_zero] at stop
    rw [widthLoop, if_neg stop]
    rfl
  | d :: ds, src, fuel, n, digits, read, stop, fits => by
    rw [List.length_cons, Memory.read_succ, List.map_cons] at read
    obtain ⟨here, rest⟩ := List.cons_eq_cons.mp read
    have small := digits d List.mem_cons_self
    have digit : '0' ≤ s (src + 1) ∧ s (src + 1) ≤ '9' := by
      rw [isDigit_iff, here, decChar_toNat small]
      omega
    have stop' : ¬ ('0' ≤ s (src + 1 + 1 + ds.length) ∧ s (src + 1 + 1 + ds.length) ≤ '9') := by
      simpa only [List.length_cons, Nat.add_assoc, Nat.add_comm 1 ds.length] using stop
    -- the value so far is at most the whole width, so it fits an `int` too
    have below : 10 * n + d < 2 ^ 31 :=
      Nat.lt_of_le_of_lt (Numeral.le_foldl_digits (by decide) (10 * n + d) ds) fits
    have value : CInt.wrap 32 (10 * (n : Int) + ((s (src + 1)).toNat - '0'.toNat : Int)) =
        ((10 * n + d : Nat) : Int) := by
      have digit : 10 * (n : Int) + (((d + 48 : Nat) : Int) - '0'.toNat) =
          ((10 * n + d : Nat) : Int) := by
        push_cast
        omega
      rw [here, decChar_toNat small, digit]
      exact CInt.wrap_of_lt (by omega) (by omega)
    rw [show fuel + (d :: ds).length + 1 = fuel + ds.length + 1 + 1 by simp; omega, widthLoop,
      if_pos digit, value,
      widthLoop_digits (fun e mem => digits e (List.mem_cons_of_mem d mem)) rest stop' fits]
    simp only [List.foldl_cons, List.length_cons]
    congr 2
    omega

/-- A field width that fits an `int`: its first digit, from `1` to `9`, starts the inner loop,
which reads the others; the loop goes on after the last digit with `width` set. -/
theorem qualifierLoop_digits {s : Buffer} {q : Locals} {fuel d : Nat} {ds : List Nat}
    (first : 1 ≤ d) (digits : ∀ e ∈ d :: ds, e < 10) (nodot : q.flags.hasdot = false)
    (read : Memory.read s q.src (ds.length + 1) = (d :: ds).map decChar)
    (stop : ¬ ('0' ≤ s (q.src + 1 + ds.length) ∧ s (q.src + 1 + ds.length) ≤ '9'))
    (fits : (d :: ds).foldl (fun acc e => 10 * acc + e) 0 < 2 ^ 31) :
    qualifierLoop s (fuel + ds.length + 2) q =
      qualifierLoop s (fuel + ds.length + 1)
        { q with
          src := q.src + 1 + ds.length
          width := (((d :: ds).foldl (fun acc e => 10 * acc + e) 0 : Nat) : Int) } := by
  rw [Memory.read_succ, List.map_cons] at read
  obtain ⟨here, rest⟩ := List.cons_eq_cons.mp read
  have small := digits d List.mem_cons_self
  have code := decChar_toNat small
  have notNul : s q.src ≠ '\x00' := fun nul => by
    rw [here] at nul
    have codes := congrArg Char.toNat nul
    rw [code, show ('\x00' : Char).toNat = 0 from rfl] at codes
    omega
  have notConv : strchr convChars (s q.src) = false := by
    rw [here]
    interval_cases d <;> decide
  have inner : widthLoop s (fuel + ds.length + 1) q.src (((s q.src).toNat : Int) - '0'.toNat) =
      some ((((d :: ds).foldl (fun acc e => 10 * acc + e) 0 : Nat) : Int), q.src + ds.length) := by
    have start : ((s q.src).toNat : Int) - '0'.toNat = ((d : Nat) : Int) := by
      rw [here, code]
      push_cast
      omega
    rw [start, widthLoop_digits (fun e mem => digits e (List.mem_cons_of_mem d mem)) rest stop
      (by simpa using fits)]
    simp
  rw [show fuel + ds.length + 2 = fuel + ds.length + 1 + 1 by omega, qualifierLoop,
    if_neg notNul, notConv]
  have body : qualifier s (fuel + ds.length + 1) q =
      some { q with
        src := q.src + ds.length
        width := (((d :: ds).foldl (fun acc e => 10 * acc + e) 0 : Nat) : Int) } := by
    have isDigit : '1' ≤ s q.src ∧ s q.src ≤ '9' := by
      rw [Char.le_def, Char.le_def, UInt32.le_iff_toNat_le, UInt32.le_iff_toNat_le]
      change 49 ≤ (s q.src).toNat ∧ (s q.src).toNat ≤ 57
      rw [here, code]
      omega
    have notMinus : s q.src ≠ '-' := fun eq => by simp [eq] at isDigit
    have notZero : s q.src ≠ '0' := fun eq => by simp [eq] at isDigit
    have notStar : s q.src ≠ '*' := fun eq => by simp [eq] at isDigit
    simp only [qualifier, notMinus, notZero, notStar, isDigit, inner, nodot, if_false,
      if_true, and_self, Option.bind_eq_bind, Option.bind_some, Bool.false_eq_true]
  simp only [Bool.false_eq_true, ↓reduceIte, body, Option.bind_eq_bind, Option.bind_some]
  congr 2
  omega

theorem qualifierLoop_stop {s : Buffer} {q : Locals} {fuel : Nat}
    (conv : strchr convChars (s q.src) = true) : qualifierLoop s (fuel + 1) q = some q := by
  by_cases nul : s q.src = '\x00' <;> simp [qualifierLoop, nul, conv]

end TinyAra.Libc.Stdio
