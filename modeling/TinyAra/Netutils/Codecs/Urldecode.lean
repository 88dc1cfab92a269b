/-
# Netutils.Codecs.Urldecode -- `urlencode`, `urldecode` and their lengths

`urlencode` copies the unreserved characters (digits, letters and `_-.~`), writes a space as `+`,
and escapes every other byte as `%` and two upper-case hex digits; `urldecode` reads a `%` and two
hex digits back as one byte, but only when both digits are in the input (`pSrc + 2 < pEnd`), a
`+` as a space, and copies everything else. Both end their output with a NUL and store its length
in `*dest_len`.  `urlencode_len` and `urldecode_len` count those lengths with classifications of
their own: the first counts a space among the bytes copied as they are.

* `urldecodeLoop_encodeByte`: decoding the encoding of one byte, followed by anything, reads that
  byte back and goes on with the rest, so `urldecodeLoop_urlencodeLoop` holds for whole strings;
* `urlencodeLenLoop_eq` and `urldecodeLenLoop_eq`: each length function counts what its loop
  writes, the decoder's by an induction along the decoder's own recursion;
* `urlcode_round_trip`: `urldecode` after `urlencode` gives the source back, `*dest_len` of
  `urlencode` is `urlencode_len`, and `*dest_len` of `urldecode` is `urldecode_len` and at most
  the input's length.
-/
import Mathlib

namespace TinyAra.Netutils.Codecs

set_option autoImplicit false

def isHexChar (ch : UInt8) : Bool :=
  ('0'.toUInt8 ≤ ch && ch ≤ '9'.toUInt8) || ('a'.toUInt8 ≤ ch && ch ≤ 'f'.toUInt8) ||
    ('A'.toUInt8 ≤ ch && ch ≤ 'F'.toUInt8)

def hexValue (ch : UInt8) : Nat :=
  if '0'.toUInt8 ≤ ch && ch ≤ '9'.toUInt8 then ch.toNat - '0'.toNat
  else if 'a'.toUInt8 ≤ ch && ch ≤ 'f'.toUInt8 then ch.toNat - 'a'.toNat + 10
  else ch.toNat - 'A'.toNat + 10

def hexChars : List UInt8 := "0123456789ABCDEF".toList.map Char.toUInt8

def isUnreserved (c : UInt8) : Bool :=
  ('0'.toUInt8 ≤ c && c ≤ '9'.toUInt8) || ('a'.toUInt8 ≤ c && c ≤ 'z'.toUInt8) ||
    ('A'.toUInt8 ≤ c && c ≤ 'Z'.toUInt8) ||
    (c == '_'.toUInt8 || c == '-'.toUInt8 || c == '.'.toUInt8 || c == '~'.toUInt8)

/-! ## The four functions -/

/-- What one round of the loop of `urlencode` writes for the byte `c`. -/
def encodeByte (c : UInt8) : List UInt8 :=
  if isUnreserved c then [c]
  else if c = ' '.toUInt8 then ['+'.toUInt8]
  else ['%'.toUInt8, hexChars.getD (c.toNat >>> 4) 0, hexChars.getD (c.toNat &&& 0x0F) 0]

/-- The loop of `urlencode` over the `src_len` bytes of `src`. -/
def urlencodeLoop (src : List UInt8) : List UInt8 := src.flatMap encodeByte

/-- `urlencode(src, src_len, dest, dest_len)`: what it writes to `dest`, the NUL included, and
`*dest_len`. -/
def urlencode (src : List UInt8) : List UInt8 × Nat :=
  let out := urlencodeLoop src
  (out ++ [0], out.length)

/-- The loop of `urldecode` from `pSrc` to `pEnd`: the bytes it writes. -/
def urldecodeLoop : List UInt8 → List UInt8
  | [] => []
  | c :: rest =>
    if c = '%'.toUInt8 then
      match rest with
      | cHigh :: cLow :: more =>
        -- `pSrc + 2 < pEnd`: both digits are in the input
        if isHexChar cHigh && isHexChar cLow then
          ((hexValue cHigh <<< 4) ||| hexValue cLow).toUInt8 :: urldecodeLoop more
        else c :: urldecodeLoop (cHigh :: cLow :: more)
      | rest => c :: urldecodeLoop rest
    else if c = '+'.toUInt8 then ' '.toUInt8 :: urldecodeLoop rest
    else c :: urldecodeLoop rest

/-- `urldecode(src, src_len, dest, dest_len)`: what it writes to `dest`, the NUL included, and
`*dest_len`. -/
def urldecode (src : List UInt8) : List UInt8 × Nat :=
  let out := urldecodeLoop src
  (out ++ [0], out.length)

/-- The loop of `urlencode_len`, with `len` counted so far. -/
def urlencodeLenLoop (len : Nat) : List UInt8 → Nat
  | [] => len
  | c :: rest =>
    urlencodeLenLoop (if isUnreserved c || c == ' '.toUInt8 then len + 1 else len + 3) rest

/-- `urlencode_len(src, src_len)`. -/
def urlencodeLen (src : List UInt8) : Nat := urlencodeLenLoop 0 src

/-- The loop of `urldecode_len`, with `len` counted so far: an escape moves `pSrc` two bytes
further before the `len++; pSrc++` of every round. -/
def urldecodeLenLoop (len : Nat) : List UInt8 → Nat
  | [] => len
  | c :: rest =>
    if c = '%'.toUInt8 then
      match rest with
      | cHigh :: cLow :: more =>
        if isHexChar cHigh && isHexChar cLow then urldecodeLenLoop (len + 1) more
        else urldecodeLenLoop (len + 1) (cHigh :: cLow :: more)
      | rest => urldecodeLenLoop (len + 1) rest
    else urldecodeLenLoop (len + 1) rest

/-- `urldecode_len(src, src_len)`. -/
def urldecodeLen (src : List UInt8) : Nat := urldecodeLenLoop 0 src

example : urldecodeLoop [97, 37, 52, 49, 43, 37, 52] = [97, 65, 32, 37, 52] := by decide

/-! ## One round of each loop -/

theorem urlencodeLoop_cons (c : UInt8) (src : List UInt8) :
    urlencodeLoop (c :: src) = encodeByte c ++ urlencodeLoop src :=
  List.flatMap_cons

theorem length_encodeByte (c : UInt8) :
    (encodeByte c).length = if isUnreserved c || c == ' '.toUInt8 then 1 else 3 := by
  by_cases copied : isUnreserved c = true
  · simp [encodeByte, copied]
  · by_cases space : c = ' '.toUInt8
    · subst space
      decide
    · simp [encodeByte, copied, space]

theorem urldecodeLoop_cons {c : UInt8} (rest : List UInt8) (other : c ≠ '%'.toUInt8) :
    urldecodeLoop (c :: rest) =
      (if c = '+'.toUInt8 then ' '.toUInt8 else c) :: urldecodeLoop rest := by
  rw [urldecodeLoop.eq_def]
  dsimp only
  rw [if_neg other]
  split_ifs <;> rfl

theorem urldecodeLoop_escape {cHigh cLow : UInt8} (more : List UInt8)
    (hex : (isHexChar cHigh && isHexChar cLow) = true) :
    urldecodeLoop ('%'.toUInt8 :: cHigh :: cLow :: more) =
      ((hexValue cHigh <<< 4) ||| hexValue cLow).toUInt8 :: urldecodeLoop more := by
  rw [urldecodeLoop.eq_2, if_pos rfl, if_pos hex]

theorem urldecodeLenLoop_cons {c : UInt8} (len : Nat) (rest : List UInt8)
    (other : c ≠ '%'.toUInt8) :
    urldecodeLenLoop len (c :: rest) = urldecodeLenLoop (len + 1) rest := by
  rw [urldecodeLenLoop.eq_def]
  dsimp only
  rw [if_neg other]

example : urldecodeLoop [97, 37, 52, 49, 43, 37, 52] = [97, 65, 32, 37, 52] := by decide

/-! ## One byte back -/

theorem hexChars_digit : ∀ d < 16, isHexChar (hexChars.getD d 0) = true ∧
    hexValue (hexChars.getD d 0) = d := by
  decide

theorem shiftRight_four_lt (c : UInt8) : c.toNat >>> 4 < 16 := by
  have bound : c.toNat < 256 := c.toNat_lt
  rw [Nat.shiftRight_eq_div_pow]
  omega

theorem and_fifteen (c : UInt8) : c.toNat &&& 0x0F = c.toNat % 2 ^ 4 :=
  Nat.and_two_pow_sub_one_eq_mod c.toNat 4

theorem shiftLeft_or_digits (c : UInt8) :
    ((c.toNat >>> 4 <<< 4) ||| (c.toNat &&& 0x0F)).toUInt8 = c := by
  rw [and_fifteen, ← Nat.shiftLeft_add_eq_or_of_lt (Nat.mod_lt _ (by decide)),
    Nat.shiftRight_eq_div_pow, Nat.shiftLeft_eq, Nat.div_add_mod']
  exact UInt8.ofNat_toNat

theorem urldecodeLoop_encodeByte (c : UInt8) (rest : List UInt8) :
    urldecodeLoop (encodeByte c ++ rest) = c :: urldecodeLoop rest := by
  by_cases copied : isUnreserved c = true
  · -- an unreserved byte is neither `%` nor `+`
    have not_percent : c ≠ '%'.toUInt8 := by
      rintro rfl
      exact absurd copied (by decide)
    have not_plus : c ≠ '+'.toUInt8 := by
      rintro rfl
      exact absurd copied (by decide)
    rw [encodeByte, if_pos copied, List.singleton_append, urldecodeLoop_cons rest not_percent,
      if_neg not_plus]
  · rw [encodeByte, if_neg copied]
    by_cases space : c = ' '.toUInt8
    · rw [if_pos space, space, List.singleton_append, urldecodeLoop_cons rest (by decide),
        if_pos rfl]
    · -- an escape: both digits are there, and they are hex digits
      obtain ⟨high_hex, high⟩ := hexChars_digit (c.toNat >>> 4) (shiftRight_four_lt c)
      obtain ⟨low_hex, low⟩ := hexChars_digit (c.toNat &&& 0x0F) (by rw [and_fifteen]; omega)
      rw [if_neg space, List.cons_append, List.cons_append, List.cons_append, List.nil_append,
        urldecodeLoop_escape rest (by rw [high_hex, low_hex]; rfl), high, low,
        shiftLeft_or_digits]

theorem urldecodeLoop_urlencodeLoop (src rest : List UInt8) :
    urldecodeLoop (urlencodeLoop src ++ rest) = src ++ urldecodeLoop rest := by
  induction src with
  | nil => rfl
  | cons c src ih =>
    rw [urlencodeLoop_cons, List.append_assoc, urldecodeLoop_encodeByte, ih, List.cons_append]

/-! ## The lengths -/

theorem urlencodeLenLoop_eq (len : Nat) (src : List UInt8) :
    urlencodeLenLoop len src = len + (urlencodeLoop src).length := by
  induction src generalizing len with
  | nil => rfl
  | cons c src ih =>
    rw [urlencodeLenLoop, ih, urlencodeLoop_cons, List.length_append, length_encodeByte]
    split_ifs <;> omega

theorem urldecodeLenLoop_eq (len : Nat) (src : List UInt8) :
    urldecodeLenLoop len src = len + (urldecodeLoop src).length := by
  induction src using urldecodeLoop.induct generalizing len with
  | case1 => rfl
  | case2 cHigh cLow more hex ih =>
    rw [urldecodeLenLoop.eq_2, if_pos rfl, if_pos hex, urldecodeLoop_escape more hex, ih,
      List.length_cons]
    omega
  | case3 cHigh cLow more other ih =>
    rw [urldecodeLenLoop.eq_2, if_pos rfl, if_neg other, urldecodeLoop.eq_2, if_pos rfl,
      if_neg other, ih, List.length_cons]
    omega
  | case4 rest short ih =>
    -- fewer than two bytes after the `%`: it is copied
    rw [urldecodeLenLoop.eq_3 _ _ _ short, urldecodeLoop.eq_3 _ _ short, if_pos rfl, if_pos rfl,
      ih, List.length_cons]
    omega
  | case5 rest other ih =>
    rw [urldecodeLenLoop_cons len rest other, urldecodeLoop_cons rest other, ih,
      List.length_cons]
    omega
  | case6 c rest other _ ih =>
    rw [urldecodeLenLoop_cons len rest other, urldecodeLoop_cons rest other, ih, List.length_cons]
    omega

theorem length_urldecodeLoop_le (src : List UInt8) : (urldecodeLoop src).length ≤ src.length := by
  induction src using urldecodeLoop.induct with
  | case1 => exact Nat.le_refl 0
  | case2 cHigh cLow more hex ih =>
    rw [urldecodeLoop_escape more hex, List.length_cons, List.length_cons, List.length_cons,
      List.length_cons]
    omega
  | case3 cHigh cLow more other ih =>
    rw [urldecodeLoop.eq_2, if_pos rfl, if_neg other, List.length_cons, List.length_cons]
    omega
  | case4 rest short ih =>
    rw [urldecodeLoop.eq_3 _ _ short, if_pos rfl, List.length_cons, List.length_cons]
    omega
  | case5 rest other ih =>
    rw [urldecodeLoop_cons rest other, List.length_cons, List.length_cons]
    omega
  | case6 c rest other _ ih =>
    rw [urldecodeLoop_cons rest other, List.length_cons, List.length_cons]
    omega

/-- `urldecode` after `urlencode` gives the source back, and `*dest_len` of each is what its
length function counts, at most the input's length for `urldecode`. -/
theorem urlcode_round_trip :
    (∀ src : List UInt8, (urlencode src).2 = urlencodeLen src ∧
      urldecode ((urlencode src).1.take (urlencode src).2) = (src ++ [0], src.length)) ∧
    (∀ src : List UInt8,
      (urldecode src).2 = urldecodeLen src ∧ urldecodeLen src ≤ src.length) := by
  refine ⟨fun src => ⟨?_, ?_⟩, fun src => ⟨?_, ?_⟩⟩
  · rw [urlencodeLen, urlencodeLenLoop_eq, Nat.zero_add]
    rfl
  · -- `urldecode` reads the `*dest_len` bytes before the NUL
    have decoded := urldecodeLoop_urlencodeLoop src []
    rw [List.append_nil, urldecodeLoop, List.append_nil] at decoded
    rw [urlencode, List.take_left' rfl, urldecode, decoded]
  · rw [urldecodeLen, urldecodeLenLoop_eq, Nat.zero_add]
    rfl
  · rw [urldecodeLen, urldecodeLenLoop_eq, Nat.zero_add]
    exact length_urldecodeLoop_le src

end TinyAra.Netutils.Codecs
