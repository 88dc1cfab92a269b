/-
# Netutils.Codecs.Base64 -- `_base64_encode` and `_base64_decode`

The encoder writes four digits of the table `base64_tab` for each three bytes, and for the last
one or two bytes two or three digits and the pad `ch` (`=`, or `.` for the websafe alphabet) to
four; it ends with a NUL and stores the count before it in `*out_len`. The decoder counts the
characters its table `dtable` knows, the pad among them as the digit zero, refuses a count that is
not a multiple of four, and decodes each quartet into three bytes; then it drops two bytes when
the third character of the last quartet is the pad, or one when the fourth is. Without a
caller's `dst` each allocates its output with `malloc`, which `mm_malloc` refuses for a size below
one; above that, the heap's answer (`grant`) is an input of the call.

* `rejoin_first`, `rejoin_second`, `rejoin_third`: the decoder's shifts put the encoder's bit
  fields back together, and `dtable_digit`: its table reads every digit of the encoder's back;
* `foldl_decodeStep_encodeLoop`: decoding the encoder's output gives the source and then as many
  bytes as the last quartet's pads will drop, by an induction along the encoder's recursion;
* `base64_round_trip`: so, when the heap grants both allocations, the decoder gives back every
  nonempty source, and the empty one when the caller supplies `dst`; the encoder writes `4 * ceil(len / 3)` digits, which fit with their
  NUL in the `len * 4 / 3 + 4` bytes it allocates;
* `base64_empty_decode_fails`: the empty source without `dst` is not given back, whatever the
  heap: the decoder asks `malloc` for zero bytes and returns `NULL`.
-/
import Mathlib.Logic.Function.Basic
import Mathlib.Tactic.IntervalCases

namespace TinyAra.Netutils.Codecs

set_option autoImplicit false

/-- Whether `malloc(size)` returns memory: `mm_malloc` refuses a size below one, and `grant` is
the heap's answer to a larger one. -/
def mallocReturns (grant : Bool) (size : Nat) : Bool := 1 ≤ size && grant

def base64Tab (websafe : Bool) : List UInt8 :=
  let tab :=
    "ABCDEFGHIJKLMNOPQRSTUVWXYZabcdefghijklmnopqrstuvwxyz0123456789+/".toList.map Char.toUInt8
  if websafe then (tab.set 62 '-'.toUInt8).set 63 '_'.toUInt8 else tab

def padChar (websafe : Bool) : UInt8 := if websafe then '.'.toUInt8 else '='.toUInt8

/-! ## The encoder -/

/-- The encoding loop and the tail after it, over the bytes from `in` to `end`, with the table
`tab` and the pad `ch`. -/
def encodeLoop (tab : List UInt8) (ch : UInt8) : List UInt8 → List UInt8
  | a :: b :: c :: rest =>
    [tab.getD (a >>> 2).toNat 0, tab.getD (((a &&& 0x03) <<< 4) ||| (b >>> 4)).toNat 0,
        tab.getD (((b &&& 0x0f) <<< 2) ||| (c >>> 6)).toNat 0, tab.getD (c &&& 0x3f).toNat 0] ++
      encodeLoop tab ch rest
  -- `end - in == 1`
  | [a] => [tab.getD (a >>> 2).toNat 0, tab.getD ((a &&& 0x03) <<< 4).toNat 0, ch, ch]
  | [a, b] =>
    [tab.getD (a >>> 2).toNat 0, tab.getD (((a &&& 0x03) <<< 4) ||| (b >>> 4)).toNat 0,
      tab.getD ((b &&& 0x0f) <<< 2).toNat 0, ch]
  | [] => []

/-- `_base64_encode(src, len, dst, out_len, websafe)`, where `dst` says whether the caller gives
a buffer and `grant` is the heap's answer to the `malloc` otherwise: what it writes to the output,
the NUL included, and `*out_len`; `none` for `NULL`. -/
def base64Encode (websafe dst grant : Bool) (src : List UInt8) : Option (List UInt8 × Nat) :=
  -- `olen = len * 4 / 3 + 4`
  if !dst && !mallocReturns grant (src.length * 4 / 3 + 4) then none
  else
    let out := encodeLoop (base64Tab websafe) (padChar websafe) src
    some (out ++ [0], out.length)

/-! ## The decoder -/

/-- `dtable` of `_base64_decode`: `0x80` everywhere, then the index of each digit of `tab`, and
zero for the pad `ch`. -/
def dtable (tab : List UInt8) (ch : UInt8) : UInt8 → UInt8 :=
  let digit := (List.range 64).foldl
    (fun d i => fun c => if c = tab.getD i 0 then i.toUInt8 else d c) (fun _ => 0x80)
  fun c => if c = ch then 0 else digit c

/-- The arrays `in` and `block`, the count of characters in the quartet, and the bytes written
from `out`. -/
structure DecodeState where
  inb : Nat → UInt8
  block : Nat → UInt8
  count : Nat
  out : List UInt8

/-- One round of the decoding loop on the character `c`. -/
def decodeStep (dt : UInt8 → UInt8) (st : DecodeState) (c : UInt8) : DecodeState :=
  let tmp := dt c
  if tmp = 0x80 then st
  else
    let inb := Function.update st.inb st.count c
    let block := Function.update st.block st.count tmp
    if st.count + 1 = 4 then
      { inb, block, count := 0,
        out := st.out ++ [(block 0 <<< 2) ||| (block 1 >>> 4), (block 1 <<< 4) ||| (block 2 >>> 2),
          (block 2 <<< 6) ||| block 3] }
    else { inb, block, count := st.count + 1, out := st.out }

/-- How many of the last three bytes the last quartet's pads drop. -/
def padDrop (ch : UInt8) (st : DecodeState) : Nat :=
  if st.inb 2 = ch then 2 else if st.inb 3 = ch then 1 else 0

/-- `_base64_decode(src, len, dst, out_len, websafe)`, with the heap's answer `grant` to its
`malloc`: the bytes it writes to the output and `*out_len`; `none` for `NULL`.  `in` and `block` start as whatever the stack holds; they are read
only after a whole quartet is written to them. -/
def base64Decode (websafe dst grant : Bool) (src : List UInt8) : Option (List UInt8 × Nat) :=
  let dt := dtable (base64Tab websafe) (padChar websafe)
  let count := src.countP fun c => dt c != 0x80
  if count % 4 ≠ 0 then none
  else if !dst && !mallocReturns grant count then none
  else
    let st := src.foldl (decodeStep dt) ⟨fun _ => 0, fun _ => 0, 0, []⟩
    -- `if (pos > out)`: at least one quartet was decoded
    some (st.out, if st.out ≠ [] then st.out.length - padDrop (padChar websafe) st
      else st.out.length)

example : base64Decode false false true [84, 87, 70, 117, 84, 81, 61, 61] =
    some ([77, 97, 110, 77, 0, 0], 4) := by
  decide +kernel

/-! ## The bit fields of three bytes -/

section Bits

theorem uint8_eq_of_bits {x y : UInt8}
    (bits : ∀ i < 8, x.toBitVec.getLsbD i = y.toBitVec.getLsbD i) : x = y := by
  apply UInt8.toBitVec_inj.mp
  ext i bound
  exact bits i bound

variable (a b c : UInt8)

theorem rejoin_first : ((a >>> 2) <<< 2) ||| ((((a &&& 0x03) <<< 4) ||| (b >>> 4)) >>> 4) = a := by
  apply uint8_eq_of_bits
  intro i bound
  interval_cases i <;> simp

theorem rejoin_second : ((((a &&& 0x03) <<< 4) ||| (b >>> 4)) <<< 4) |||
    ((((b &&& 0x0f) <<< 2) ||| (c >>> 6)) >>> 2) = b := by
  apply uint8_eq_of_bits
  intro i bound
  interval_cases i <;> simp

theorem rejoin_third : ((((b &&& 0x0f) <<< 2) ||| (c >>> 6)) <<< 6) ||| (c &&& 0x3f) = c := by
  apply uint8_eq_of_bits
  intro i bound
  interval_cases i <;> simp

theorem toNat_lt_of_masked {e : UInt8} (masked : e &&& 0x3f = e) : e.toNat < 64 := by
  rw [← masked, UInt8.toNat_and]
  exact Nat.lt_of_le_of_lt Nat.and_le_right (by decide)

theorem digits_lt :
    (a >>> 2).toNat < 64 ∧ (((a &&& 0x03) <<< 4) ||| (b >>> 4)).toNat < 64 ∧
      (((b &&& 0x0f) <<< 2) ||| (c >>> 6)).toNat < 64 ∧ (c &&& 0x3f).toNat < 64 := by
  refine ⟨toNat_lt_of_masked ?_, toNat_lt_of_masked ?_, toNat_lt_of_masked ?_,
    toNat_lt_of_masked ?_⟩ <;>
  · apply uint8_eq_of_bits
    intro i bound
    interval_cases i <;> simp

end Bits

/-! ## The two tables -/

section Tables

variable (websafe : Bool)

theorem dtable_getD : ∀ websafe : Bool, ∀ k < 64,
    dtable (base64Tab websafe) (padChar websafe) ((base64Tab websafe).getD k 0) = k.toUInt8 := by
  decide +kernel

theorem getD_ne_pad : ∀ websafe : Bool, ∀ k < 64,
    (base64Tab websafe).getD k 0 ≠ padChar websafe := by
  decide +kernel

theorem dtable_pad : dtable (base64Tab websafe) (padChar websafe) (padChar websafe) = 0 :=
  if_pos rfl

theorem dtable_digit {e : UInt8} (lt : e.toNat < 64) :
    dtable (base64Tab websafe) (padChar websafe) ((base64Tab websafe).getD e.toNat 0) = e := by
  rw [dtable_getD websafe e.toNat lt]
  exact UInt8.ofNat_toNat

theorem ne_unknown_of_lt {e : UInt8} (lt : e.toNat < 64) : e ≠ 0x80 := by
  rintro rfl
  exact absurd lt (by decide)

theorem dtable_digit_known {e : UInt8} (lt : e.toNat < 64) :
    dtable (base64Tab websafe) (padChar websafe) ((base64Tab websafe).getD e.toNat 0) ≠ 0x80 := by
  rw [dtable_digit websafe lt]
  exact ne_unknown_of_lt lt

theorem dtable_pad_known :
    dtable (base64Tab websafe) (padChar websafe) (padChar websafe) ≠ 0x80 := by
  rw [dtable_pad]
  decide

end Tables

/-! ## The encoder's output -/

section Encoded

variable (websafe : Bool)

theorem length_encodeLoop (tab : List UInt8) (ch : UInt8) :
    ∀ src : List UInt8, (encodeLoop tab ch src).length = 4 * ((src.length + 2) / 3)
  | _ :: _ :: _ :: rest => by
    rw [encodeLoop, List.length_append, length_encodeLoop tab ch rest]
    simp only [List.length_cons, List.length_nil]
    omega
  | [_] => by simp [encodeLoop]
  | [_, _] => by simp [encodeLoop]
  | [] => rfl

theorem dtable_encodeLoop_known :
    ∀ src : List UInt8, ∀ c ∈ encodeLoop (base64Tab websafe) (padChar websafe) src,
      dtable (base64Tab websafe) (padChar websafe) c ≠ 0x80
  | a :: b :: c :: rest => by
    obtain ⟨lt₀, lt₁, lt₂, lt₃⟩ := digits_lt a b c
    intro x mem
    rw [encodeLoop, List.mem_append] at mem
    rcases mem with quartet | later
    · simp only [List.mem_cons, List.not_mem_nil, or_false] at quartet
      rcases quartet with rfl | rfl | rfl | rfl
      exacts [dtable_digit_known websafe lt₀, dtable_digit_known websafe lt₁,
        dtable_digit_known websafe lt₂, dtable_digit_known websafe lt₃]
    · exact dtable_encodeLoop_known rest x later
  | [a] => by
    obtain ⟨lt₀, lt₁, -, -⟩ := digits_lt a 0 0
    rw [UInt8.zero_shiftRight, UInt8.or_zero] at lt₁
    intro x mem
    simp only [encodeLoop, List.mem_cons, List.not_mem_nil, or_false] at mem
    rcases mem with rfl | rfl | rfl | rfl
    exacts [dtable_digit_known websafe lt₀, dtable_digit_known websafe lt₁,
      dtable_pad_known websafe, dtable_pad_known websafe]
  | [a, b] => by
    obtain ⟨lt₀, lt₁, lt₂, -⟩ := digits_lt a b 0
    rw [UInt8.zero_shiftRight, UInt8.or_zero] at lt₂
    intro x mem
    simp only [encodeLoop, List.mem_cons, List.not_mem_nil, or_false] at mem
    rcases mem with rfl | rfl | rfl | rfl
    exacts [dtable_digit_known websafe lt₀, dtable_digit_known websafe lt₁,
      dtable_digit_known websafe lt₂, dtable_pad_known websafe]
  | [] => fun _ mem => nomatch mem

end Encoded

/-! ## Decoding the encoder's output -/

section RoundTrip

variable {dt : UInt8 → UInt8}

/-- A quartet of known characters, from the start of a quartet, writes three bytes and leaves its
third and fourth characters in `in`. -/
theorem foldl_decodeStep_quartet (st : DecodeState) (start : st.count = 0)
    {c₀ c₁ c₂ c₃ : UInt8} (known₀ : dt c₀ ≠ 0x80) (known₁ : dt c₁ ≠ 0x80) (known₂ : dt c₂ ≠ 0x80)
    (known₃ : dt c₃ ≠ 0x80) :
    let st' := [c₀, c₁, c₂, c₃].foldl (decodeStep dt) st
    st'.count = 0 ∧
      st'.out = st.out ++ [(dt c₀ <<< 2) ||| (dt c₁ >>> 4), (dt c₁ <<< 4) ||| (dt c₂ >>> 2),
        (dt c₂ <<< 6) ||| dt c₃] ∧
      st'.inb 2 = c₂ ∧ st'.inb 3 = c₃ := by
  simp [decodeStep, start, known₀, known₁, known₂, known₃, Function.update]

variable (websafe : Bool)

theorem foldl_decodeStep_encodeLoop :
    ∀ (src : List UInt8) (st st' : DecodeState), st.count = 0 →
    (encodeLoop (base64Tab websafe) (padChar websafe) src).foldl
      (decodeStep (dtable (base64Tab websafe) (padChar websafe))) st = st' →
    ∃ junk, st'.count = 0 ∧ st'.out = st.out ++ src ++ junk ∧
      (src ≠ [] → junk.length = padDrop (padChar websafe) st') ∧ (src = [] → junk = [])
  | a :: b :: c :: rest, st, st', start, ran => by
    obtain ⟨lt₀, lt₁, lt₂, lt₃⟩ := digits_lt a b c
    rw [encodeLoop, List.foldl_append] at ran
    -- the first quartet gives the three bytes back, and has no pad
    obtain ⟨start₁, out₁, in₂, in₃⟩ := foldl_decodeStep_quartet st start
      (dtable_digit_known websafe lt₀) (dtable_digit_known websafe lt₁)
      (dtable_digit_known websafe lt₂) (dtable_digit_known websafe lt₃)
    rw [dtable_digit websafe lt₀, dtable_digit websafe lt₁, dtable_digit websafe lt₂,
      dtable_digit websafe lt₃, rejoin_first, rejoin_second, rejoin_third] at out₁
    obtain ⟨junk, done, out, dropped, empty⟩ :=
      foldl_decodeStep_encodeLoop rest _ st' start₁ ran
    refine ⟨junk, done, ?_, fun _ => ?_, fun nonempty => nomatch nonempty⟩
    · rw [out, out₁, List.append_assoc, List.append_assoc, List.append_assoc]
      rfl
    · by_cases more : rest = []
      · -- the last quartet is the first: no pad in it, and no byte to drop
        subst more
        rw [encodeLoop, List.foldl_nil] at ran
        subst ran
        rw [empty rfl, padDrop, in₂, in₃, if_neg (getD_ne_pad websafe _ lt₂),
          if_neg (getD_ne_pad websafe _ lt₃)]
        rfl
      · exact dropped more
  | [a], st, st', start, ran => by
    obtain ⟨lt₀, lt₁, -, -⟩ := digits_lt a 0 0
    rw [UInt8.zero_shiftRight, UInt8.or_zero] at lt₁
    -- `xx==`: the first byte back, and two to drop
    rw [encodeLoop] at ran
    subst ran
    obtain ⟨done, out, in₂, -⟩ := foldl_decodeStep_quartet st start
      (dtable_digit_known websafe lt₀) (dtable_digit_known websafe lt₁)
      (dtable_pad_known websafe) (dtable_pad_known websafe)
    rw [dtable_digit websafe lt₀, dtable_digit websafe lt₁] at out
    have first := rejoin_first a 0
    rw [UInt8.zero_shiftRight, UInt8.or_zero] at first
    refine ⟨_, done, by rw [out, first, List.append_assoc]; rfl, fun _ => ?_,
      fun nonempty => nomatch nonempty⟩
    rw [padDrop, if_pos in₂]
    rfl
  | [a, b], st, st', start, ran => by
    obtain ⟨lt₀, lt₁, lt₂, -⟩ := digits_lt a b 0
    rw [UInt8.zero_shiftRight, UInt8.or_zero] at lt₂
    -- `xxx=`: the first two bytes back, and one to drop
    rw [encodeLoop] at ran
    subst ran
    obtain ⟨done, out, in₂, in₃⟩ := foldl_decodeStep_quartet st start
      (dtable_digit_known websafe lt₀) (dtable_digit_known websafe lt₁)
      (dtable_digit_known websafe lt₂) (dtable_pad_known websafe)
    rw [dtable_digit websafe lt₀, dtable_digit websafe lt₁, dtable_digit websafe lt₂] at out
    have second := rejoin_second a b 0
    rw [UInt8.zero_shiftRight, UInt8.or_zero] at second
    refine ⟨_, done, by rw [out, rejoin_first, second, List.append_assoc]; rfl, fun _ => ?_,
      fun nonempty => nomatch nonempty⟩
    rw [padDrop, in₂, if_neg (getD_ne_pad websafe _ lt₂), if_pos in₃]
    rfl
  | [], st, st', start, ran => by
    rw [encodeLoop, List.foldl_nil] at ran
    subst ran
    exact ⟨[], start, by rw [List.append_nil, List.append_nil],
      fun nonempty => absurd rfl nonempty, fun _ => rfl⟩

theorem base64_round_trip (dst encodeGrant decodeGrant : Bool) (src : List UInt8)
    (given : src ≠ [] ∨ dst = true) (encoded : dst = false → encodeGrant = true)
    (decoded : dst = false → decodeGrant = true) :
    ∃ out, base64Encode websafe dst encodeGrant src = some (out ++ [0], out.length) ∧
      out.length = 4 * ((src.length + 2) / 3) ∧ out.length + 1 ≤ src.length * 4 / 3 + 4 ∧
      ∃ written, base64Decode websafe dst decodeGrant out = some (written, src.length) ∧
        written.take src.length = src := by
  have length_out := length_encodeLoop (base64Tab websafe) (padChar websafe) src
  refine ⟨_, ?_, length_out, by omega, ?_⟩
  · -- `malloc(len * 4 / 3 + 4)` asks for at least four bytes, which the heap grants
    rw [base64Encode, if_neg]
    cases dst with
    | true => simp
    | false => simp [mallocReturns, encoded rfl]
  · -- every character is known, and they come in quartets
    have count : (encodeLoop (base64Tab websafe) (padChar websafe) src).countP
        (fun c => dtable (base64Tab websafe) (padChar websafe) c != 0x80) =
        (encodeLoop (base64Tab websafe) (padChar websafe) src).length :=
      List.countP_eq_length.mpr fun c mem => by
        simpa using dtable_encodeLoop_known websafe src c mem
    have allocated : (!dst && !mallocReturns decodeGrant
        (encodeLoop (base64Tab websafe) (padChar websafe) src).length) = false := by
      rcases given with nonempty | rfl
      · have : 0 < src.length := List.length_pos_iff.mpr nonempty
        cases dst with
        | true => rfl
        | false =>
          simp [mallocReturns, length_out, decoded rfl]
          omega
      · rfl
    obtain ⟨junk, -, written, dropped, empty⟩ := foldl_decodeStep_encodeLoop websafe src
      ⟨fun _ => 0, fun _ => 0, 0, []⟩ _ rfl rfl
    dsimp only at written
    rw [List.nil_append] at written
    refine ⟨src ++ junk, ?_, List.take_left' rfl⟩
    rw [base64Decode]
    dsimp only
    rw [count, if_neg (by omega), allocated, if_neg Bool.false_ne_true, written]
    by_cases nonempty : src = []
    · rw [nonempty, empty nonempty]
      rfl
    · have : src ++ junk ≠ [] := by simp [nonempty]
      rw [if_pos this, ← dropped nonempty, List.length_append, Nat.add_sub_cancel]

theorem base64_round_trip_two :
    ∃ out, base64Encode false false true [1, 2] = some (out ++ [0], out.length) ∧
      out.length = 4 * ((2 + 2) / 3) ∧ out.length + 1 ≤ 2 * 4 / 3 + 4 ∧
      ∃ written, base64Decode false false true out = some (written, 2) ∧
        written.take 2 = [1, 2] :=
  base64_round_trip false false true true [1, 2] (.inl (by simp)) (fun _ => rfl) (fun _ => rfl)

end RoundTrip

/-- Decoding the encoding of the empty string without a caller's `dst` fails, whatever the heap
answers: the decoder asks `malloc` for zero bytes and returns `NULL`. -/
theorem base64_empty_decode_fails (websafe : Bool) :
    base64Encode websafe false true [] = some ([0], 0) ∧
      ∀ grant, base64Decode websafe false grant [] = none := by
  refine ⟨by cases websafe <;> decide +kernel, fun grant => ?_⟩
  cases websafe <;> cases grant <;> decide +kernel

end TinyAra.Netutils.Codecs
