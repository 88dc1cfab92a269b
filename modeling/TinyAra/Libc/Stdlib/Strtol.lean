/-
# Libc.Stdlib.Strtol -- `strtoul`, `strtol`, `strtoull` and `strtoll`

Each conversion skips white space (`lib_skipspace`), `strtol` and `strtoll` then take one sign,
the base prefix is consumed by `lib_checkbase`, and the digits of the base (`lib_isbasedigit`)
are accumulated as `accum = accum * base + value` in the width of the result.  `*endptr` is left
where the digits stop.

A string is the list of its characters from the pointer on; reading past them reads the
terminating NUL (`charAt`). A pointer into the string is the rest of the list from it, and
`*endptr` is given as its distance from `nptr`.  `long` is 32 bits and `long long` 64. The
`NULL` checks of `nptr` and `endptr` are left out.

* `libSkipspace_eq`, `accumulate_eq`: the white space skipped, and the value of the longest
  digit prefix with the rest after it;
* `strtoUnsigned_spec`: so `endptr` is past the white space, the base prefix and the digits;
* `strtol_of_digits`: a string of digits with no base prefix is read as its value;
* `strto_endptr_past_prefix`: `strtoul("  ")` leaves `endptr` past the spaces, not at the
  string; `strtol("- 5")` takes the sign apart from its digits; `strtoul` takes no sign; and in
  base 16 a `0x` without a hex digit after it is skipped.
-/
import Mathlib

namespace TinyAra.Libc.Stdlib

set_option autoImplicit false

/-- The character `i` places on in a string; past its characters, the terminating NUL. -/
def charAt (s : List Char) (i : Nat) : Char := s.getD i '\x00'

/-- `isspace(c)` of ctype.h: space, tab, newline, carriage return, form feed, vertical tab. -/
def isspace (c : Char) : Bool :=
  c == ' ' || c == '\t' || c == '\n' || c == '\r' || c == '\x0c' || c == '\x0b'

/-- `lib_skipspace(&ptr)`: on past white space. -/
def libSkipspace : List Char → List Char
  | [] => []
  | c :: cs => if isspace c then libSkipspace cs else c :: cs

/-- `lib_isbasedigit(ch, base, &value)`: the value of `ch` when it is a digit of `base`; for a
base of 10 or less the digits from `0`, for a base up to 36 also the letters from `a` and from
`A`. -/
def libIsbasedigit (ch : Char) (base : Int) : Option Nat :=
  let c : Int := ch.toNat
  if base ≤ 10 then
    if c ≥ '0'.toNat ∧ c ≤ base + '0'.toNat - 1 then some (c - '0'.toNat).toNat else none
  else if base ≤ 36 then
    if c ≥ '0'.toNat ∧ c ≤ '9'.toNat then some (c - '0'.toNat).toNat
    else if c ≥ 'a'.toNat ∧ c ≤ 'a'.toNat + base - 11 then some (c - 'a'.toNat + 10).toNat
    else if c ≥ 'A'.toNat ∧ c ≤ 'A'.toNat + base - 11 then some (c - 'A'.toNat + 10).toNat
    else none
  else none

/-- `lib_checkbase(base, &ptr)`: base 0 is 10, or 8 after a `0`, which is consumed, or 16 when
an `x` or `X` and a hex digit follow the `0`, and then the `x` is consumed too; in base 16 a
leading `0x` or `0X` is consumed. -/
def libCheckbase (base : Int) (ptr : List Char) : Int × List Char :=
  if base = 0 then
    if charAt ptr 0 = '0' then
      let ptr := ptr.drop 1
      if (charAt ptr 0 = 'X' ∨ charAt ptr 0 = 'x') ∧ (libIsbasedigit (charAt ptr 1) 16).isSome then
        (16, ptr.drop 1)
      else (8, ptr)
    else (10, ptr)
  else if base = 16 then
    if charAt ptr 0 = '0' ∧ (charAt ptr 1 = 'X' ∨ charAt ptr 1 = 'x') then (16, ptr.drop 2)
    else (16, ptr)
  else (base, ptr)

/-- The loop of `strtoul` in `width` bits: `accum = accum * base + value; nptr++;` while the
next character is a digit of `base`. Only a positive base has digits, so `base` is taken as
the unsigned value it is multiplied as. -/
def accumulate (width : Nat) (base : Int) : Nat → List Char → Nat × List Char
  | accum, [] => (accum, [])
  | accum, c :: cs =>
    match libIsbasedigit c base with
    | some value => accumulate width base ((accum * base.toNat + value) % 2 ^ width) cs
    | none => (accum, c :: cs)

/-- The body of `strtoul` and `strtoull`, in `width` bits: the value, and how far `*endptr` is
past `nptr`. -/
def strtoUnsigned (width : Nat) (nptr : List Char) (base : Int) : Nat × Nat :=
  let ptr := libSkipspace nptr
  let (base, ptr) := libCheckbase base ptr
  let (accum, ptr) := accumulate width base 0 ptr
  (accum, nptr.length - ptr.length)

/-- `strtoul(nptr, &endptr, base)`. -/
def strtoul (nptr : List Char) (base : Int) : Nat × Nat := strtoUnsigned 32 nptr base

/-- `strtoull(nptr, &endptr, base)`. -/
def strtoull (nptr : List Char) (base : Int) : Nat × Nat := strtoUnsigned 64 nptr base

/-- An unsigned value of `width` bits read as a signed one. -/
def toSigned (width : Nat) (x : Nat) : Int :=
  if x < 2 ^ (width - 1) then x else (x : Int) - 2 ^ width

/-- The body of `strtol` and `strtoll`, in `width` bits: white space, one sign, and the
unsigned conversion of the rest, negated after a `-`. -/
def strtoSigned (width : Nat) (nptr : List Char) (base : Int) : Int × Nat :=
  let ptr := libSkipspace nptr
  let (negate, ptr) :=
    if charAt ptr 0 = '-' then (true, ptr.drop 1)
    else if charAt ptr 0 = '+' then (false, ptr.drop 1)
    else (false, ptr)
  let (accum, consumed) := strtoUnsigned width ptr base
  -- `-(long)accum`, in two's complement
  let value := if negate then toSigned width ((2 ^ width - accum) % 2 ^ width)
    else toSigned width accum
  (value, nptr.length - ptr.length + consumed)

/-- `strtol(nptr, &endptr, base)`. -/
def strtol (nptr : List Char) (base : Int) : Int × Nat := strtoSigned 32 nptr base

/-- `strtoll(nptr, &endptr, base)`. -/
def strtoll (nptr : List Char) (base : Int) : Int × Nat := strtoSigned 64 nptr base

/-! ## What the conversions read -/

theorem libSkipspace_eq : ∀ s : List Char, libSkipspace s = s.dropWhile isspace
  | [] => rfl
  | c :: cs => by
    rw [libSkipspace, List.dropWhile_cons]
    split
    · exact libSkipspace_eq cs
    · rfl

def isDigit (base : Int) (c : Char) : Bool := (libIsbasedigit c base).isSome

/-- The value of the digits `ds` of `base` in `width` bits, accumulated onto `accum`. -/
def digitsValue (width : Nat) (base : Int) (accum : Nat) (ds : List Char) : Nat :=
  ds.foldl (fun a c => (a * base.toNat + (libIsbasedigit c base).getD 0) % 2 ^ width) accum

theorem accumulate_eq (width : Nat) (base : Int) : ∀ (accum : Nat) (s : List Char),
    accumulate width base accum s =
      (digitsValue width base accum (s.takeWhile (isDigit base)), s.dropWhile (isDigit base))
  | _, [] => rfl
  | accum, c :: cs => by
    rw [accumulate, List.takeWhile_cons, List.dropWhile_cons]
    cases digit : libIsbasedigit c base with
    | none =>
      have stop : isDigit base c = false := by simp [isDigit, digit]
      simp only [stop, Bool.false_eq_true, ↓reduceIte]
      rfl
    | some value =>
      have more : isDigit base c = true := by simp [isDigit, digit]
      simp only [more, ↓reduceIte]
      rw [accumulate_eq width base _ cs]
      simp [digitsValue, digit]

theorem strtoUnsigned_spec (width : Nat) (nptr : List Char) (base : Int) :
    strtoUnsigned width nptr base =
      (digitsValue width (libCheckbase base (nptr.dropWhile isspace)).1 0
          (((libCheckbase base (nptr.dropWhile isspace)).2).takeWhile
            (isDigit (libCheckbase base (nptr.dropWhile isspace)).1)),
        nptr.length - (((libCheckbase base (nptr.dropWhile isspace)).2).dropWhile
            (isDigit (libCheckbase base (nptr.dropWhile isspace)).1)).length) := by
  rw [strtoUnsigned, libSkipspace_eq]
  obtain ⟨b, ptr⟩ := libCheckbase base (nptr.dropWhile isspace)
  simp only [accumulate_eq]

theorem le_toNat_of_isDigit {base : Int} {c : Char} (digit : isDigit base c = true) :
    48 ≤ c.toNat := by
  obtain ⟨v, valued⟩ := Option.isSome_iff_exists.mp digit
  unfold libIsbasedigit at valued
  dsimp only at valued
  have zero : (('0'.toNat : Nat) : Int) = 48 := rfl
  have a : (('a'.toNat : Nat) : Int) = 97 := rfl
  have A : (('A'.toNat : Nat) : Int) = 65 := rfl
  split_ifs at valued <;> omega

theorem isspace_of_le_toNat {c : Char} (big : 48 ≤ c.toNat) : isspace c = false := by
  cases spaced : isspace c with
  | false => rfl
  | true =>
    simp only [isspace, Bool.or_eq_true, beq_iff_eq] at spaced
    rcases spaced with ((((rfl | rfl) | rfl) | rfl) | rfl) | rfl <;> exact absurd big (by decide)

theorem strtol_of_digits {base : Int} {ds : List Char} (digits : ∀ c ∈ ds, isDigit base c = true)
    (plain : libCheckbase base ds = (base, ds)) (fits : digitsValue 32 base 0 ds < 2 ^ 31) :
    (strtol ds base).1 = digitsValue 32 base 0 ds := by
  -- the first digit is neither white space nor a sign
  have first : ∀ c ∈ ds.head?, 48 ≤ c.toNat := fun c mem =>
    le_toNat_of_isDigit (digits c (List.mem_of_mem_head? mem))
  have unspaced : ds.dropWhile isspace = ds := by
    cases ds with
    | nil => rfl
    | cons c cs => exact List.dropWhile_cons_of_neg (by simp [isspace_of_le_toNat (first c rfl)])
  have unsigned : charAt ds 0 ≠ '-' ∧ charAt ds 0 ≠ '+' := by
    cases ds with
    | nil => exact ⟨by decide, by decide⟩
    | cons c cs =>
      have big := first c rfl
      constructor <;>
      · intro same
        rw [charAt, List.getD_cons_zero] at same
        subst same
        exact absurd big (by decide)
  have all : ds.takeWhile (isDigit base) = ds := List.takeWhile_eq_self_iff.mpr digits
  simp only [strtol, strtoSigned, libSkipspace_eq, unspaced, if_neg unsigned.1, if_neg unsigned.2,
    strtoUnsigned_spec, plain, all, Bool.false_eq_true, if_false, toSigned]
  rw [if_pos fits]

/-- `strtoul(" ", &endptr, 10)` leaves `endptr` past the spaces; `strtol("- 5", &endptr, 10)`
returns -5 with `endptr` past the 5; `strtoul("-5", &endptr, 10)` is 0 with `endptr` at the string;
`strtoul("0xg", &endptr, 16)` is 0 with `endptr` past the `x`. -/
theorem strto_endptr_past_prefix :
    strtoul [' ', ' '] 10 = (0, 2) ∧ strtol ['-', ' ', '5'] 10 = (-5, 3) ∧
      strtoul ['-', '5'] 10 = (0, 0) ∧ strtoul ['0', 'x', 'g'] 16 = (0, 2) :=
  ⟨by decide, by decide, by decide, by decide⟩

end TinyAra.Libc.Stdlib
