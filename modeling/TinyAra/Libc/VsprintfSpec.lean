/-
# Libc.VsprintfSpec -- the integer conversions of `lib_vsprintf` against ISO C

ISO C (7.19.6.1) fixes the text of an integer conversion `%<flags><width><length><conv>`
without precision: the digits of the value in the base of the conversion; a sign for `d` and
`i` (`-`, or `+` under the `+` flag); under `#` a leading `0` for `o` and `0x` or `0X` before a
value other than zero for `x` and `X`; and padding to the width, with spaces in front, with
spaces behind under `-`, or with zeros after the sign and the prefix under `0` when there is no
`-`.  `isoFormat` is that text for the conversions of `IntSpec`.

* `vsprintfLoop_intSpec`: the loop of `lib_vsprintf` over the characters of a conversion reads
  its flags, its width and its length, and puts what `integerConv` makes of them;
* `integerConv_iso`, `vsprintf_meets_iso`: that text is ISO C's when the justification the code
  reads (the last of `-` and `0` written) is ISO C's and `#` is only used with `o` and a value
  other than zero;
* `vsprintf_int_conversions_differ_from_iso`: outside these the texts differ, for `%#x` and `%#o`
  of zero, `%#X`, `%#08x` and `%-05d`.
-/
import TinyAra.Libc.Vsprintf

namespace TinyAra.Libc.Stdio

open Numeral

set_option autoImplicit false

/-! ## The conversions -/

/-- The length modifier of an integer conversion. -/
inductive LengthMod where
  | none
  | l
  | ll
deriving DecidableEq, Repr

def LengthMod.chars : LengthMod → List Char
  | .none => []
  | .l => ['l']
  | .ll => ['l', 'l']

/-- An integer conversion without precision: flags among `-`, `0`, `+`, `#` in the order
written, a decimal field width, a length modifier and one of `d i u x X o`; `+` is for the
signed conversions only and `#` for `x`, `X` and `o` only. -/
structure IntSpec where
  flags : List Char
  width : Nat
  length : LengthMod
  conv : Char
  flags_ok : ∀ f ∈ flags, IsFlag f
  conv_ok : conv ∈ ['d', 'i', 'u', 'x', 'X', 'o']
  plus_ok : '+' ∈ flags → conv = 'd' ∨ conv = 'i'
  alt_ok : '#' ∈ flags → conv = 'x' ∨ conv = 'X' ∨ conv = 'o'

/-- The decimal digits of a field width; none for width 0. -/
def widthChars (w : Nat) : List Char := if w = 0 then [] else (numeral 10 w).map decChar

namespace IntSpec

variable (c : IntSpec)

def chars : List Char := '%' :: (c.flags ++ widthChars c.width ++ c.length.chars ++ [c.conv])

/-- The width of the argument's type: 64 bits for `ll`, 32 for `int` and `long`. -/
def bits : Nat := if c.length = .ll then 64 else 32

def signed : Prop := c.conv = 'd' ∨ c.conv = 'i'

instance : Decidable c.signed := inferInstanceAs (Decidable (c.conv = 'd' ∨ c.conv = 'i'))

/-- The base of the conversion. -/
def base : Nat := if c.conv = 'o' then 8 else if c.conv = 'x' ∨ c.conv = 'X' then 16 else 10

/-- The value converted: the argument as its type reads it. -/
def value (v : Int) : Int := if c.signed then v.bmod (2 ^ c.bits) else v % 2 ^ c.bits

/-- The flags the code has set when it reaches the conversion character. -/
def codeFlags : Flags :=
  { showplus := c.flags.contains '+', altform := c.flags.contains '#',
    longprecision := c.length != .none, longlongprecision := c.length == .ll }

end IntSpec

/-! ## ISO C -/

/-- A digit of ISO C: `0` to `9`, then `a` to `f`, or `A` to `F` for `X`. -/
def isoDigit (upper : Bool) (d : Nat) : Char :=
  if d < 10 then Char.ofNat (d + '0'.toNat)
  else Char.ofNat (d - 10 + (if upper then 'A' else 'a').toNat)

section Iso

variable (c : IntSpec) (v : Int)

def isoDigits : List Char := (numeral c.base (c.value v).natAbs).map (isoDigit (c.conv = 'X'))

/-- The sign: `-` for a negative value, `+` under the `+` flag. -/
def isoSign : List Char := if c.value v < 0 then ['-'] else if '+' ∈ c.flags then ['+'] else []

/-- The alternate form: a first digit `0` for `o`, `0x` or `0X` before a value other than zero. -/
def isoPrefix : List Char :=
  if '#' ∈ c.flags then
    if c.conv = 'o' then (if (isoDigits c v).head? = some '0' then [] else ['0'])
    else if c.value v ≠ 0 then ['0', c.conv] else []
  else []

/-- The text ISO C gives the conversion `c` of the argument `v`. -/
def isoFormat : List Char :=
  let pad := c.width - ((isoSign c v).length + (isoPrefix c v).length + (isoDigits c v).length)
  if '-' ∈ c.flags then isoSign c v ++ isoPrefix c v ++ isoDigits c v ++ List.replicate pad ' '
  else if '0' ∈ c.flags then
    isoSign c v ++ isoPrefix c v ++ List.replicate pad '0' ++ isoDigits c v
  else List.replicate pad ' ' ++ isoSign c v ++ isoPrefix c v ++ isoDigits c v

end Iso

/-- The justification the qualifier loop leaves: the last of `-` and `0` written. -/
def codeJustify (flags : List Char) : Justify := flags.foldl justifyStep .rjust

def isoJustify (flags : List Char) : Justify :=
  if '-' ∈ flags then .ljust else if '0' ∈ flags then .rjust0 else .rjust

/-! ## The code reads a conversion -/

theorem read_strBuffer {l : List Char} (pre mid post : List Char) (split : l = pre ++ mid ++ post) :
    Memory.read (strBuffer l) pre.length mid.length = mid := by
  apply List.ext_getElem
  · simp
  · intro i _ lt
    rw [Memory.getElem_read, strBuffer, split, List.append_assoc, List.getD_eq_getElem?_getD,
      List.getElem?_append_right (by omega), Nat.add_sub_cancel_left,
      List.getElem?_append_left lt]
    simp [lt]

theorem strBuffer_at {l : List Char} (pre post : List Char) (x : Char)
    (split : l = pre ++ x :: post) {n : Nat} (at_ : pre.length = n) : strBuffer l n = x := by
  simp [strBuffer, split, ← at_]

theorem strBuffer_length (l : List Char) : strBuffer l l.length = '\x00' := by
  simp [strBuffer]

theorem conv_cases {x : Char} (mem : x ∈ ['d', 'i', 'u', 'x', 'X', 'o']) :
    ¬ ('0' ≤ x ∧ x ≤ '9') ∧ strchr convChars x = true ∧ strchr intChars x = true ∧
      x ≠ '%' ∧ x ≠ 's' ∧ x ≠ 'c' ∧ x ≠ 'l' ∧ x ≠ 'L' ∧ x ≠ 'p' := by
  simp only [List.mem_cons, List.not_mem_nil, or_false] at mem
  rcases mem with rfl | rfl | rfl | rfl | rfl | rfl <;> decide

theorem widthChars_cons {w : Nat} (pos : w ≠ 0) :
    ∃ d ds, numeral 10 w = d :: ds ∧ 1 ≤ d ∧ (∀ e ∈ d :: ds, e < 10) ∧
      widthChars w = (d :: ds).map decChar := by
  obtain ⟨d, ds, digits⟩ := List.exists_cons_of_ne_nil (numeral_ne_nil 10 w)
  have first : d ≠ 0 := fun zero => head_numeral_ne_zero pos (by rw [digits, zero]; rfl)
  refine ⟨d, ds, digits, by omega, fun e mem => lt_of_mem_numeral (by decide) (digits ▸ mem), ?_⟩
  rw [widthChars, if_neg pos, digits]

theorem stop_char (c : IntSpec) : ∃ x rest, c.length.chars ++ [c.conv] = x :: rest ∧
    ¬ ('0' ≤ x ∧ x ≤ '9') ∧ strchr convChars x = true := by
  obtain ⟨notDigit, stops, -⟩ := conv_cases c.conv_ok
  cases c.length with
  | none => exact ⟨c.conv, [], rfl, notDigit, stops⟩
  | l => exact ⟨'l', [c.conv], rfl, by decide, by decide⟩
  | ll => exact ⟨'l', ['l', c.conv], rfl, by decide, by decide⟩

/-- The qualifier loop reads the flags and a width that fits an `int`, and stops at the
conversion's length or its conversion character. -/
theorem qualifierLoop_intSpec (c : IntSpec) (ap : List Arg) (fuel : Nat) (fits : c.width < 2 ^ 31) :
    qualifierLoop (strBuffer c.chars)
        (fuel + c.flags.length + (widthChars c.width).length + 1)
        { src := 1, flags := {}, fmt := .rjust, width := 0, ap } =
      some
        { src := 1 + c.flags.length + (widthChars c.width).length
          flags := { showplus := c.flags.contains '+', altform := c.flags.contains '#' }
          fmt := codeJustify c.flags
          width := c.width
          ap } := by
  have flagsAt : Memory.read (strBuffer c.chars) 1 c.flags.length = c.flags :=
    read_strBuffer ['%'] c.flags (widthChars c.width ++ c.length.chars ++ [c.conv])
      (by simp [IntSpec.chars])
  obtain ⟨x, rest, split, notDigit, stops⟩ := stop_char c
  have stopAt : strBuffer c.chars (1 + c.flags.length + (widthChars c.width).length) = x :=
    strBuffer_at (['%'] ++ c.flags ++ widthChars c.width) rest x
      (by simp [IntSpec.chars, ← split]) (by simp; omega)
  rw [show fuel + c.flags.length + (widthChars c.width).length + 1 =
      fuel + (widthChars c.width).length + 1 + c.flags.length by omega,
    qualifierLoop_flags c.flags_ok flagsAt]
  by_cases zero : c.width = 0
  · -- no width: the loop stops right after the flags
    have noWidth : widthChars c.width = [] := by rw [widthChars, if_pos zero]
    rw [noWidth, List.length_nil, Nat.add_zero] at stopAt ⊢
    rw [qualifierLoop_stop (by simp only [readFlags]; rw [stopAt]; exact stops)]
    simp [readFlags, zero, codeJustify, Nat.add_comm 1]
  · obtain ⟨d, ds, digits, first, small, chars⟩ := widthChars_cons zero
    have widthAt : Memory.read (strBuffer c.chars) (1 + c.flags.length) (ds.length + 1) =
        (d :: ds).map decChar := by
      have := read_strBuffer (l := c.chars) (['%'] ++ c.flags) (widthChars c.width)
        (c.length.chars ++ [c.conv]) (by simp [IntSpec.chars])
      simpa [chars, Nat.add_comm 1] using this
    rw [chars, List.length_map, List.length_cons] at stopAt
    have stop : ¬ ('0' ≤ strBuffer c.chars (1 + c.flags.length + 1 + ds.length) ∧
        strBuffer c.chars (1 + c.flags.length + 1 + ds.length) ≤ '9') := by
      rw [show 1 + c.flags.length + 1 + ds.length = 1 + c.flags.length + (ds.length + 1) by omega,
        stopAt]
      exact notDigit
    rw [chars, List.length_map, List.length_cons,
      show fuel + (ds.length + 1) + 1 = fuel + ds.length + 2 by omega]
    have value : (d :: ds).foldl (fun acc e => 10 * acc + e) 0 = c.width := by
      rw [← digits, foldl_numeral (by decide)]
    rw [qualifierLoop_digits first small rfl widthAt stop (by rwa [value]), qualifierLoop_stop (by
      simp only [readFlags]
      rw [show 1 + c.flags.length + 1 + ds.length = 1 + c.flags.length + (ds.length + 1) by omega,
        stopAt]
      exact stops)]
    simp only [readFlags, value, Bool.false_or, codeJustify]
    congr 2
    omega

/-- At the character that ended the qualifier loop: the length modifier sets its flags, and
the conversion character takes an argument of the length's type. -/
theorem conversion_intSpec (c : IntSpec) (q : Locals) (v : Int) (ap : List Arg)
    (src : q.src = 1 + c.flags.length + (widthChars c.width).length)
    (flags : q.flags = { showplus := c.flags.contains '+', altform := c.flags.contains '#' })
    (args : q.ap = .int v :: ap) :
    conversion (strBuffer c.chars) q =
      some (integerConv c.bits (c.length != .ll) c.conv c.codeFlags q.fmt q.width
          (v.bmod (2 ^ c.bits)),
        1 + c.flags.length + (widthChars c.width).length + c.length.chars.length, ap) := by
  have tailAt : Memory.read (strBuffer c.chars) q.src (c.length.chars ++ [c.conv]).length =
      c.length.chars ++ [c.conv] := by
    rw [src]
    have := read_strBuffer (l := c.chars) (['%'] ++ c.flags ++ widthChars c.width)
      (c.length.chars ++ [c.conv]) [] (by simp [IntSpec.chars])
    simpa [Nat.add_comm 1, Nat.add_assoc] using this
  obtain ⟨notDigit, -, isInt, notPercent, notS, notC, notL, notL', notP⟩ := conv_cases c.conv_ok
  cases length : c.length with
  | none =>
    simp only [length, LengthMod.chars, List.nil_append, List.length_singleton,
      Memory.read_succ, Memory.read_zero, List.cons.injEq, and_true] at tailAt
    rw [src] at tailAt
    simp [conversion, lengthPrefix, tailAt, notPercent, notS, notC, notL, notL', isInt,
      args, vaArgInt, flags, IntSpec.codeFlags, IntSpec.bits, length, src, LengthMod.chars]
    rfl
  | l =>
    simp only [length, LengthMod.chars, List.cons_append, List.nil_append, List.length_cons,
      Memory.read_succ, Memory.read_zero, List.cons.injEq, and_true, List.length_nil,
      Nat.zero_add] at tailAt
    rw [src] at tailAt
    simp [conversion, lengthPrefix, tailAt, notL, isInt, args, vaArgInt, flags,
      IntSpec.codeFlags, IntSpec.bits, length, src, LengthMod.chars]
    rfl
  | ll =>
    simp only [length, LengthMod.chars, List.cons_append, List.nil_append, List.length_cons,
      Memory.read_succ, Memory.read_zero, List.cons.injEq, and_true, List.length_nil,
      Nat.zero_add] at tailAt
    rw [src] at tailAt
    simp [conversion, lengthPrefix, tailAt, isInt, notP, args, vaArgInt, flags,
      IntSpec.codeFlags, IntSpec.bits, length, src, LengthMod.chars]
    rfl

theorem vsprintfLoop_intSpec (c : IntSpec) (v : Int) (ap : List Arg) (fits : c.width < 2 ^ 31) :
    vsprintfLoop (strBuffer c.chars) (c.chars.length + 1) 0 (.int v :: ap) =
      some (integerConv c.bits (c.length != .ll) c.conv c.codeFlags (codeJustify c.flags)
        c.width (v.bmod (2 ^ c.bits))) := by
  have length : c.chars.length =
      c.length.chars.length + 1 + c.flags.length + (widthChars c.width).length + 1 := by
    simp [IntSpec.chars]
    omega
  have percent : strBuffer c.chars 0 = '%' := rfl
  have nul : strBuffer c.chars
      (1 + c.flags.length + (widthChars c.width).length + c.length.chars.length + 1) = '\x00' := by
    rw [show 1 + c.flags.length + (widthChars c.width).length + c.length.chars.length + 1 =
      c.chars.length by omega]
    exact strBuffer_length c.chars
  rw [vsprintfLoop, if_neg (by rw [percent]; decide), if_neg (not_not.mpr percent), length,
    qualifierLoop_intSpec c _ _ fits]
  simp only [Option.bind_eq_bind, Option.bind_some]
  rw [conversion_intSpec c _ v ap rfl rfl rfl]
  simp only [Option.bind_some]
  rw [show c.length.chars.length + 1 + c.flags.length + (widthChars c.width).length =
      c.length.chars.length + c.flags.length + (widthChars c.width).length + 1 by omega,
    vsprintfLoop_nul nul]
  simp

/-! ## Where the text is ISO C's -/

theorem isoDigit_of_lt_ten {d : Nat} (upper : Bool) (lt : d < 10) : isoDigit upper d = decChar d := by
  simp [isoDigit, lt, decChar]

theorem hexChar_eq_isoDigit {d : Nat} (upper : Bool) (lt : d < 16) :
    hexChar d (if upper then 'A' else 'a') = isoDigit upper d := by
  unfold hexChar isoDigit
  split
  · rfl
  · congr 1
    omega

theorem decChar_eq_zero {d : Nat} (lt : d < 10) (zero : decChar d = '0') : d = 0 := by
  have codes := congrArg Char.toNat zero
  rw [decChar_toNat lt, show '0'.toNat = 48 from rfl] at codes
  omega

theorem four_dvd_bits (c : IntSpec) : 4 ∣ c.bits := by
  unfold IntSpec.bits
  split <;> decide

theorem fixupBits_signed {bits : Nat} {fmt : Char} (flags : Flags) (n : Int)
    (signed : fmt = 'd' ∨ fmt = 'i') :
    fixupBits bits fmt flags n =
      if n < 0 then ({ flags with negate := true, showplus := false }, (-n).bmod (2 ^ bits))
      else (flags, n) := by
  rcases signed with rfl | rfl <;> rfl

theorem fixupBits_unsigned {bits : Nat} {fmt : Char} (flags : Flags) (n : Int)
    (unsigned : fmt = 'x' ∨ fmt = 'X' ∨ fmt = 'o') :
    fixupBits bits fmt flags n = ({ flags with showplus := false, negate := false }, n) := by
  rcases unsigned with rfl | rfl | rfl <;> rfl

theorem value_bounds (c : IntSpec) (v : Int) :
    -(2 ^ c.bits : Int) < c.value v ∧ c.value v < 2 ^ c.bits := by
  have pos : 0 < 2 ^ c.bits := by positivity
  have low : -(((2 ^ c.bits : Nat) : Int) / 2) ≤ v.bmod (2 ^ c.bits) := Int.le_bmod pos
  have high : v.bmod (2 ^ c.bits) < (((2 ^ c.bits : Nat) : Int) + 1) / 2 := Int.bmod_lt pos
  have nonneg : 0 ≤ v % 2 ^ c.bits := Int.emod_nonneg _ (by positivity)
  have below : v % 2 ^ c.bits < 2 ^ c.bits := Int.emod_lt_of_pos _ (by positivity)
  push_cast at low high
  unfold IntSpec.value
  split <;> omega

/-- `fixup` leaves the sign of ISO C to be put, keeps the alternate form, and the unsigned
value it leaves is the magnitude of the value. -/
theorem fixup_spec (c : IntSpec) (v : Int) :
    ∃ fl n, fixupBits c.bits c.conv c.codeFlags (v.bmod (2 ^ c.bits)) = (fl, n) ∧
      signChars fl = isoSign c v ∧ fl.altform = c.flags.contains '#' ∧
      (n % 2 ^ c.bits).toNat = (c.value v).natAbs := by
  have pos : 0 < 2 ^ c.bits := by positivity
  have wrap : ∀ x : Int, x.bmod (2 ^ c.bits) % 2 ^ c.bits = x % 2 ^ c.bits := fun x => by
    have := @Int.bmod_emod x (2 ^ c.bits)
    push_cast at this
    exact this
  have bounds := value_bounds c v
  have codeSign : signChars c.codeFlags = if '+' ∈ c.flags then ['+'] else [] := by
    simp [signChars, IntSpec.codeFlags]
  by_cases signed : c.conv = 'd' ∨ c.conv = 'i'
  · have value : c.value v = v.bmod (2 ^ c.bits) := if_pos signed
    rw [value] at bounds
    rw [fixupBits_signed _ _ signed]
    by_cases neg : v.bmod (2 ^ c.bits) < 0
    · refine ⟨_, _, by rw [if_pos neg], by simp [signChars, isoSign, value, neg], rfl, ?_⟩
      rw [wrap, value, Int.emod_eq_of_lt (by omega) (by omega)]
      omega
    · refine ⟨_, _, by rw [if_neg neg], by simp [isoSign, value, neg, codeSign], rfl, ?_⟩
      rw [value, Int.emod_eq_of_lt (by omega) (by omega)]
      omega
  · have value : c.value v = v % 2 ^ c.bits := if_neg signed
    have nonneg : 0 ≤ v % 2 ^ c.bits := Int.emod_nonneg _ (by positivity)
    have noPlus : '+' ∉ c.flags := fun plus => signed (c.plus_ok plus)
    have size : ((v.bmod (2 ^ c.bits) % 2 ^ c.bits).toNat : Int) = (c.value v).natAbs := by
      rw [wrap, value]
      omega
    have isoNone : isoSign c v = [] := by simp [isoSign, value, noPlus, Int.not_lt.mpr nonneg]
    by_cases u : c.conv = 'u'
    · rw [u]
      exact ⟨_, _, rfl, by rw [codeSign, if_neg noPlus, isoNone], rfl, by exact_mod_cast size⟩
    · have unsigned : c.conv = 'x' ∨ c.conv = 'X' ∨ c.conv = 'o' := by
        have conv := c.conv_ok
        simp only [List.mem_cons, List.not_mem_nil, or_false] at conv
        tauto
      rw [fixupBits_unsigned _ _ unsigned]
      exact ⟨_, _, rfl, by rw [isoNone]; rfl, rfl, by exact_mod_cast size⟩

theorem natAbs_value_lt (c : IntSpec) (v : Int) : (c.value v).natAbs < 2 ^ c.bits := by
  have bounds := value_bounds c v
  have cast : ((2 ^ c.bits : Nat) : Int) = 2 ^ c.bits := by push_cast; rfl
  omega

theorem map_decChar_numeral {b : Nat} (two : 2 ≤ b) (le : b ≤ 10) (upper : Bool) (n : Nat) :
    (numeral b n).map decChar = (numeral b n).map (isoDigit upper) :=
  List.map_congr_left fun d mem =>
    (isoDigit_of_lt_ten upper (by have := lt_of_mem_numeral two mem; omega)).symm

/-- With `#` only for `o` and a value other than zero, `utoascii` and `llutoascii` write ISO C's
prefix and digits. -/
theorem toascii_iso (c : IntSpec) (v : Int) (hexP : Bool) (fl : Flags)
    (altform : fl.altform = c.flags.contains '#')
    (alt : '#' ∈ c.flags → c.conv = 'o' ∧ c.value v ≠ 0) :
    toascii c.bits hexP c.conv fl (c.value v).natAbs = isoPrefix c v ++ isoDigits c v := by
  have conv := c.conv_ok
  simp only [List.mem_cons, List.not_mem_nil, or_false] at conv
  by_cases octal : c.conv = 'o'
  · -- `o`: the `0` of the alternate form is ISO C's, since the value is not zero
    have text : toascii c.bits hexP c.conv fl (c.value v).natAbs =
        (if fl.altform then ['0'] else []) ++ utooct (c.value v).natAbs := by
      rw [octal]
      rfl
    have digits : isoDigits c v = (numeral 8 (c.value v).natAbs).map decChar := by
      rw [isoDigits, show c.base = 8 by simp [IntSpec.base, octal],
        map_decChar_numeral (by decide) (by decide)]
    rw [text, utooct, utoBase_eq, ← digits, isoPrefix, altform]
    by_cases hash : '#' ∈ c.flags
    · have nonzero : (c.value v).natAbs ≠ 0 := by simpa using (alt hash).2
      obtain ⟨d, ds, first⟩ := List.exists_cons_of_ne_nil (numeral_ne_nil 8 (c.value v).natAbs)
      have lead : d ≠ 0 := fun zero => head_numeral_ne_zero nonzero (by rw [first, zero]; rfl)
      have small : d < 8 := lt_of_mem_numeral (by decide) (first ▸ List.mem_cons_self)
      have notZero : (isoDigits c v).head? ≠ some '0' := by
        rw [digits, first, List.map_cons, List.head?_cons, Ne, Option.some.injEq]
        exact fun zero => lead (decChar_eq_zero (by omega) zero)
      simp [hash, octal, notZero]
    · simp [hash]
  · have noHash : '#' ∉ c.flags := fun hash => octal (alt hash).1
    have plain : fl.altform = false := by simpa [altform] using noHash
    rw [isoPrefix, if_neg noHash, List.nil_append]
    by_cases hex : c.conv = 'x' ∨ c.conv = 'X'
    · -- `x` and `X`: the hexadecimal digits, in the case of the conversion
      have text : toascii c.bits hexP c.conv fl (c.value v).natAbs =
          utohex c.bits (c.value v).natAbs (if c.conv = 'X' then 'A' else 'a') := by
        rcases hex with h | h <;> simp [toascii, h, plain]
      rw [text, utohex_eq _ (four_dvd_bits c) (natAbs_value_lt c v), isoDigits,
        show c.base = 16 by simp [IntSpec.base, octal, hex]]
      refine List.map_congr_left fun d mem => ?_
      simpa using hexChar_eq_isoDigit (decide (c.conv = 'X')) (lt_of_mem_numeral (by decide) mem)
    · -- `d`, `i` and `u`: the decimal digits
      have decimal : c.conv = 'd' ∨ c.conv = 'i' ∨ c.conv = 'u' := by tauto
      have text : toascii c.bits hexP c.conv fl (c.value v).natAbs =
          utodec (c.value v).natAbs := by
        rcases decimal with h | h | h <;> rw [h] <;> rfl
      rw [text, utodec, utoBase_eq, isoDigits,
        show c.base = 10 by simp [IntSpec.base, octal, hex], map_decChar_numeral (by decide)
          (by decide)]

theorem zeros_comm {pfx : List Char} (zeros : ∀ ch ∈ pfx, ch = '0') (k : Nat) :
    pfx ++ List.replicate k '0' = List.replicate k '0' ++ pfx := by
  rw [List.eq_replicate_iff.mpr ⟨rfl, zeros⟩, List.replicate_append_replicate,
    List.replicate_append_replicate, Nat.add_comm]

theorem isoPrefix_zeros (c : IntSpec) (v : Int) (octal : '#' ∈ c.flags → c.conv = 'o') :
    ∀ ch ∈ isoPrefix c v, ch = '0' := by
  unfold isoPrefix
  by_cases hash : '#' ∈ c.flags
  · simp only [hash, octal hash, if_true]
    split <;> simp
  · simp [hash]

theorem integerConv_iso (c : IntSpec) (v : Int) (hexP : Bool)
    (justified : codeJustify c.flags = isoJustify c.flags)
    (alt : '#' ∈ c.flags → c.conv = 'o' ∧ c.value v ≠ 0) :
    integerConv c.bits hexP c.conv c.codeFlags (codeJustify c.flags) c.width
      (v.bmod (2 ^ c.bits)) = isoFormat c v := by
  obtain ⟨fl, n, fixed, sign, altform, magnitude⟩ := fixup_spec c v
  have text := toascii_iso c v hexP fl altform alt
  -- the padding the code computes in `int` is ISO C's
  have pad : ((c.width : Int) - (((isoPrefix c v ++ isoDigits c v).length : Int) +
      ((isoSign c v).length : Int))).toNat =
      c.width - ((isoSign c v).length + (isoPrefix c v).length + (isoDigits c v).length) := by
    simp only [List.length_append]
    omega
  simp only [integerConv, fixed, magnitude, getsize_eq_length, text]
  rw [justified, isoJustify, isoFormat]
  by_cases minus : '-' ∈ c.flags
  · simp only [minus, if_true, prejustify, postjustify_ljust, sign, pad, List.append_assoc]
  · by_cases zero : '0' ∈ c.flags
    · simp only [minus, zero, if_false, if_true, prejustify_rjust0, postjustify, sign, pad,
        List.append_nil, List.append_assoc]
      rw [← List.append_assoc (List.replicate _ '0'),
        ← zeros_comm (isoPrefix_zeros c v fun hash => (alt hash).1)]
      simp only [List.append_assoc]
    · simp only [minus, zero, if_false, prejustify_rjust, postjustify, sign, pad,
        List.append_nil, List.append_assoc]

theorem vsprintf_meets_iso (c : IntSpec) (v : Int) (ap : List Arg) (fits : c.width < 2 ^ 31)
    (justified : codeJustify c.flags = isoJustify c.flags)
    (alt : '#' ∈ c.flags → c.conv = 'o' ∧ c.value v ≠ 0) :
    vsprintfLoop (strBuffer c.chars) (c.chars.length + 1) 0 (.int v :: ap) =
      some (isoFormat c v) := by
  rw [vsprintfLoop_intSpec c v ap fits, integerConv_iso c v _ justified alt]

def altZeroOctal : IntSpec :=
  ⟨['#', '0'], 6, .ll, 'o', by simp [IsFlag], by decide, by decide, by decide⟩

theorem vsprintf_meets_iso_altZeroOctal :
    altZeroOctal.width < 2 ^ 31 ∧
      vsprintfLoop (strBuffer altZeroOctal.chars) (altZeroOctal.chars.length + 1) 0 [.int 8] =
        some (isoFormat altZeroOctal 8) :=
  ⟨by decide, vsprintf_meets_iso altZeroOctal 8 [] (by decide) (by decide) (by decide +kernel)⟩

/-! ## Where the text is not ISO C's -/

def altHex : IntSpec := ⟨['#'], 0, .none, 'x', by simp [IsFlag], by decide, by decide, by decide⟩

def altUpperHex : IntSpec :=
  ⟨['#'], 0, .none, 'X', by simp [IsFlag], by decide, by decide, by decide⟩

def altZeroHex : IntSpec :=
  ⟨['#', '0'], 8, .none, 'x', by simp [IsFlag], by decide, by decide, by decide⟩

def minusZero : IntSpec :=
  ⟨['-', '0'], 5, .none, 'd', by simp [IsFlag], by decide, by decide, by decide⟩

def altOctal : IntSpec := ⟨['#'], 0, .none, 'o', by simp [IsFlag], by decide, by decide, by decide⟩

/-- Where the code and ISO C part: `%#x` of 0 puts `0x0` (ISO C: `0`), `%#X` of 255 puts `0xFF`
(`0XFF`), `%#08x` of 255 puts the zeros before the `0x` (`0x0000ff`), `%-05d` of 5 zero-fills
because the `0` comes last (ISO C justifies left: `5` and four spaces), and `%#o` of 0 puts
`00` (`0`). -/
theorem vsprintf_int_conversions_differ_from_iso :
    vsprintfLoop (strBuffer altHex.chars) (altHex.chars.length + 1) 0 [.int 0] =
        some ['0', 'x', '0'] ∧ isoFormat altHex 0 = ['0'] ∧
      vsprintfLoop (strBuffer altUpperHex.chars) (altUpperHex.chars.length + 1) 0 [.int 255] =
        some ['0', 'x', 'F', 'F'] ∧ isoFormat altUpperHex 255 = ['0', 'X', 'F', 'F'] ∧
      vsprintfLoop (strBuffer altZeroHex.chars) (altZeroHex.chars.length + 1) 0 [.int 255] =
        some ['0', '0', '0', '0', '0', 'x', 'f', 'f'] ∧
      isoFormat altZeroHex 255 = ['0', 'x', '0', '0', '0', '0', 'f', 'f'] ∧
      vsprintfLoop (strBuffer minusZero.chars) (minusZero.chars.length + 1) 0 [.int 5] =
        some ['0', '0', '0', '0', '5'] ∧ isoFormat minusZero 5 = ['5', ' ', ' ', ' ', ' '] ∧
      vsprintfLoop (strBuffer altOctal.chars) (altOctal.chars.length + 1) 0 [.int 0] =
        some ['0', '0'] ∧ isoFormat altOctal 0 = ['0'] := by
  refine ⟨?_, ?_, ?_, ?_, ?_, ?_, ?_, ?_, ?_, ?_⟩ <;> decide +kernel

end TinyAra.Libc.Stdio
