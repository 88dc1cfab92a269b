/-
# Lib.CString -- NUL-terminated strings

A C string is given by its characters before the NUL, as a list: `charAt s i` reads the
character at offset `i`, and the NUL from the end of the list on.  `strncpy s n` is what
`strncpy(dest, s, n)` writes: the characters of `s` up to its first NUL, then NULs to `n`.

* `charAt_append_left`, `charAt_append_right`: reading a string made of two parts;
* `length_strncpy`: `strncpy` writes exactly `n` characters, the string's and then NULs;
* `strncmp_strncpy`: a string shorter than `n` compares equal, within `n`, to what
  `strncpy(dest, s, n)` wrote of it;
* `scan`: a loop that reads a string a character at a time until its body returns, with
  `through`, the state after a stretch of characters the body goes round on, and `scan_append`,
  which cuts a run of the loop at the end of such a stretch.
-/
import Mathlib.Data.List.Basic

namespace CString

set_option autoImplicit false

/-- The character at offset `i` of the string `s`: the NUL past its end. -/
def charAt (s : List Char) (i : Nat) : Char := s.getD i '\x00'

/-- The `n` characters `strncpy(dest, s, n)` writes: `s` up to its NUL, then NULs. -/
def strncpy (s : List Char) (n : Nat) : List Char :=
  (s.takeWhile (· ≠ '\x00') ++ List.replicate n '\x00').take n

/-- `strlen(s)`: how many characters stand before the NUL. -/
def strlen (s : List Char) : Nat := (s.takeWhile (· ≠ '\x00')).length

/-- `strncmp(cs, ct, nb)`: the difference of the first two characters that differ within `nb`,
or zero when the two agree up to a NUL of `cs` or for `nb` characters. Whether `char` is signed
changes the sign of a difference, never whether it is zero. -/
def strncmp (cs ct : List Char) : Nat → Int
  | 0 => 0
  | nb + 1 =>
    let result : Int := (charAt cs 0).toNat - (charAt ct 0).toNat
    if result ≠ 0 ∨ charAt cs 0 = '\x00' then result else strncmp (cs.drop 1) (ct.drop 1) nb

variable {s t : List Char}

theorem charAt_append_left {i : Nat} (within : i < s.length) :
    charAt (s ++ t) i = charAt s i := by
  rw [charAt, charAt, List.getD_eq_getElem?_getD, List.getElem?_append_left within,
    ← List.getD_eq_getElem?_getD]

theorem charAt_append_right (i : Nat) : charAt (s ++ t) (s.length + i) = charAt t i := by
  rw [charAt, charAt, List.getD_eq_getElem?_getD, List.getElem?_append_right (by omega),
    Nat.add_sub_cancel_left, ← List.getD_eq_getElem?_getD]

@[simp] theorem length_strncpy (n : Nat) : (strncpy s n).length = n := by
  simp [strncpy]

theorem strlen_cons {c : Char} (char : c ≠ '\x00') (s : List Char) :
    strlen (c :: s) = strlen s + 1 := by
  simp [strlen, char]

theorem strncpy_cons {c : Char} (char : c ≠ '\x00') (s : List Char) (n : Nat) :
    strncpy (c :: s) (n + 1) = c :: strncpy s n := by
  simp only [strncpy, List.takeWhile_cons, char, ne_eq, not_false_eq_true, decide_true, if_true,
    List.cons_append, List.take_succ_cons, List.cons.injEq, true_and]
  -- the NULs past `n` are cut off either way
  rw [List.take_append, List.take_append, List.take_replicate,
    List.take_replicate, Nat.min_eq_left (by omega), Nat.min_eq_left (by omega)]

theorem strncpy_of_nul (nul : charAt s 0 = '\x00') (n : Nat) :
    strncpy s n = List.replicate n '\x00' := by
  cases s with
  | nil => simp [strncpy]
  | cons c s =>
    have : c = '\x00' := nul
    simp [strncpy, this]

theorem strncmp_strncpy (s : List Char) {n : Nat} (fits : strlen s < n) :
    strncmp s (strncpy s n) n = 0 := by
  induction n generalizing s with
  | zero => omega
  | succ n ih =>
    by_cases nul : charAt s 0 = '\x00'
    · -- both strings read a NUL, and the comparison stops there
      rw [strncpy_of_nul nul, strncmp, nul]
      simp [charAt]
    · obtain ⟨c, s, rfl⟩ : ∃ c s', s = c :: s' := List.exists_cons_of_ne_nil
        (by rintro rfl; exact nul rfl)
      have char : c ≠ '\x00' := nul
      rw [strlen_cons char] at fits
      rw [strncpy_cons char, strncmp]
      simp only [charAt, List.getD_cons_zero, Int.sub_self, ne_eq, not_true_eq_false, char,
        or_self, if_false, List.drop_succ_cons, List.drop_zero]
      exact ih s (by omega)

/-! ## A loop over the characters of a string -/

section Scan

variable {σ ρ : Type} (body : σ → Char → σ ⊕ ρ)

/-- A loop that reads the characters one at a time, `ch = src[srcoffset++]`, and goes round
while its body does: what the body returns, or `none` when it goes round past the last
character. -/
def scan : σ → List Char → Option ρ
  | _, [] => none
  | st, c :: cs =>
    match body st c with
    | .inl st => scan st cs
    | .inr r => some r

/-- The state after the body has gone round on each of the characters, or `none` when it
returned at one of them. -/
def through : σ → List Char → Option σ
  | st, [] => some st
  | st, c :: cs =>
    match body st c with
    | .inl st => through st cs
    | .inr _ => none

variable {body} {st st' : σ} {c : Char}

theorem scan_cons_of_inl (went : body st c = .inl st') (cs : List Char) :
    scan body st (c :: cs) = scan body st' cs := by
  rw [scan, went]

theorem scan_cons_of_inr {r : ρ} (returned : body st c = .inr r) (cs : List Char) :
    scan body st (c :: cs) = some r := by
  rw [scan, returned]

theorem through_cons_of_inl (went : body st c = .inl st') (cs : List Char) :
    through body st (c :: cs) = through body st' cs := by
  rw [through, went]

theorem through_singleton (went : body st c = .inl st') : through body st [c] = some st' := by
  rw [through_cons_of_inl went]
  rfl

theorem scan_append {xs : List Char} (went : through body st xs = some st') (ys : List Char) :
    scan body st (xs ++ ys) = scan body st' ys := by
  induction xs generalizing st with
  | nil => cases went; rfl
  | cons x xs ih =>
    rw [through] at went
    split at went
    · next mid step => rw [List.cons_append, scan_cons_of_inl step, ih went]
    · cases went

theorem through_append {xs : List Char} (went : through body st xs = some st')
    (ys : List Char) : through body st (xs ++ ys) = through body st' ys := by
  induction xs generalizing st with
  | nil => cases went; rfl
  | cons x xs ih =>
    rw [through] at went
    split at went
    · next mid step => rw [List.cons_append, through_cons_of_inl step, ih went]
    · cases went

end Scan

end CString
