/-
# Netutils.Netlib.Parsehttpurl -- `netlib_parsehttpurl`

`netlib_parsehttpurl(url, port, hostname, hostlen, filename, namelen)` checks the scheme, copies
the host up to a `/`, a space, a `:` or the end into `hostname` while room is left for the NUL,
reads an optional decimal port into a `uint16_t`, and writes `/` and the rest of the URL, past
its leading slashes, into `filename` with `strncpy`. The host loop reads the URL and the two
buffers; when the host does not fit it sets `-E2BIG` and stops advancing, so it is modelled with
fuel (`Loop.loop`) and `none` is a loop still running. The buffers are memories of characters,
so that a write past either is seen.

* `hostRound_stays`: once the room for the host is used up, every round of the host loop goes
  round again from the same place, so `parsehttpurl_never_returns`: for every host at least
  `hostlen` characters long the call never returns;
* `parsehttpurl_filename_past`: `strncpy` starts one byte into `filename` and writes `namelen`
  bytes, so for every `namelen` the call on `http://h/` returns `OK` and leaves a NUL at
  `filename[namelen]`, the byte after the buffer;
* `parsehttpurl_departs_from_limits`: the two together, against the documented `-E2BIG` and the
  buffer's bounds.
-/
import TinyAra.Lib.CString
import TinyAra.Lib.Loop
import TinyAra.Lib.Memory
import Mathlib.Logic.Function.Basic

namespace TinyAra.Netutils.Netlib

set_option autoImplicit false

open CString Loop

/-- `OK`, and `ENOENT`, `E2BIG` and `EINVAL` (errno.h), returned negated. -/
def ok : Int := 0
def enoent : Int := 2
def e2big : Int := 7
def einval : Int := 22

def gHttps : List Char := "https://".toList
def gHttp : List Char := "http://".toList

/-- The host loop copies `c`: neither the end of the string nor `/`, a space or `:`. -/
def isHostChar (c : Char) : Bool := c != '\x00' && c != '/' && c != ' ' && c != ':'

/-- The state of the host loop: `src` in the URL, `dest` in `hostname`, `bytesleft`, `ret` and
the `hostname` buffer. -/
structure HostCopy where
  src : Nat
  dest : Nat
  bytesleft : Nat
  ret : Int
  hostname : Nat → Char

/-- One round of the host loop: a character is copied while room is left for the NUL, and
otherwise `ret` is set and nothing moves. -/
def hostRound (url : List Char) (st : HostCopy) : HostCopy ⊕ HostCopy :=
  let c := charAt url st.src
  if isHostChar c then
    if st.bytesleft > 1 then
      .inr { st with
        src := st.src + 1
        dest := st.dest + 1
        bytesleft := st.bytesleft - 1
        hostname := Function.update st.hostname st.dest c }
    else .inr { st with ret := -e2big }
  else .inl st

/-- The port loop over the characters from `src`: the `uint16_t` accumulator, which keeps
`10 * accum + *src - '0'` modulo `2^16`, and how many digits it read. -/
def portDigits : List Char → UInt16 → UInt16 × Nat
  | c :: rest, accum =>
    if '0' ≤ c ∧ c ≤ '9' then
      let (accum, n) := portDigits rest (10 * accum + (c.toNat - '0'.toNat).toUInt16)
      (accum, n + 1)
    else (accum, 0)
  | [], accum => (accum, 0)

/-- What the call leaves: its return value, `*port` when it writes it, and the two buffers. -/
structure Parsed where
  ret : Int
  port : Option UInt16
  hostname : Nat → Char
  filename : Nat → Char

/-- `netlib_parsehttpurl(url, port, hostname, hostlen, filename, namelen)`, with `fuel` rounds
for the host loop. -/
def netlibParsehttpurl (fuel : Nat) (url : List Char) (hostlen namelen : Nat)
    (hostname filename : Nat → Char) : Option Parsed :=
  let https := url.take 8 = gHttps
  if ¬(https ∨ url.take 7 = gHttp) then some ⟨-einval, none, hostname, filename⟩
  else do
    let st ← loop (hostRound url) fuel ⟨if https then 8 else 7, 0, hostlen, ok, hostname⟩
    let hostname := Function.update st.hostname st.dest '\x00'
    -- the port follows a `:`
    let (port, src) :=
      if charAt url st.src = ':' then
        let (accum, n) := portDigits (url.drop (st.src + 1)) 0
        (accum, st.src + 1 + n)
      else ((if https then 443 else 80 : UInt16), st.src)
    let ret := if charAt url src = '\x00' ∨ charAt url src = ' ' then -enoent else st.ret
    let src := src + ((url.drop src).takeWhile (· = '/')).length
    -- `*dest++ = '/'`, then `strncpy(dest, src, namelen)` one byte into `filename`
    let filename :=
      Memory.write (Function.update filename 0 '/') 1 (strncpy (url.drop src) namelen)
    some ⟨ret, some port, hostname, Function.update filename (namelen - 1) '\x00'⟩

/-! ## A host that does not fit -/

section Host

variable {url : List Char} {start hostlen : Nat}

/-- The host loop with room left for at least the NUL, in a host of at least `hostlen`
characters from `start`: what it copied lies before `src`, and `src` and `bytesleft` add up to
the end of the room. -/
def Copying (start hostlen : Nat) (st : HostCopy) : Prop :=
  start ≤ st.src ∧ st.src + st.bytesleft = start + hostlen ∧ 1 ≤ st.bytesleft

theorem hostRound_stays (hosty : ∀ i, start ≤ i → i < start + hostlen →
      isHostChar (charAt url i) = true) (st : HostCopy) (copying : Copying start hostlen st) :
    ∃ st', hostRound url st = .inr st' ∧ Copying start hostlen st' := by
  obtain ⟨from_start, room, left⟩ := copying
  have copied := hosty st.src from_start (by omega)
  by_cases more : st.bytesleft > 1
  · refine ⟨_, by rw [hostRound, if_pos copied, if_pos more], ?_, ?_, ?_⟩ <;>
    · dsimp only
      omega
  · exact ⟨{ st with ret := -e2big }, by rw [hostRound, if_pos copied, if_neg more], from_start,
      room, left⟩

theorem charAt_mem {s : List Char} {i : Nat} (within : i < s.length) : charAt s i ∈ s := by
  rw [charAt, List.getD_eq_getElem?_getD, List.getElem?_eq_getElem within, Option.getD_some]
  exact List.getElem_mem within

theorem take_scheme {scheme : List Char} (host rest : List Char)
    (schemes : scheme = gHttp ∨ scheme = gHttps) :
    ((scheme ++ host ++ rest).take 8 = gHttps ↔ scheme = gHttps) ∧
      ((scheme ++ host ++ rest).take 8 = gHttps ∨ (scheme ++ host ++ rest).take 7 = gHttp) := by
  rcases schemes with rfl | rfl
  · -- `http://` has a `:` where `https://` has its `s`
    have differ : (gHttp ++ host ++ rest).take 8 ≠ gHttps := by
      intro same
      have at_four := congrArg (·[4]?) same
      rw [List.getElem?_take_of_lt (by decide), List.append_assoc,
        List.getElem?_append_left (by decide)] at at_four
      exact absurd at_four (by decide)
    refine ⟨⟨fun same => absurd same differ, fun same => absurd same (by decide)⟩, Or.inr ?_⟩
    rw [List.append_assoc, List.take_left' (i := 7) (by decide)]
  · refine ⟨⟨fun _ => rfl, fun _ => ?_⟩, Or.inl ?_⟩ <;>
    rw [List.append_assoc, List.take_left' (i := 8) (by decide)]

theorem parsehttpurl_never_returns {scheme host rest : List Char}
    (schemes : scheme = gHttp ∨ scheme = gHttps) (positive : 1 ≤ hostlen)
    (long : hostlen ≤ host.length) (copied : ∀ c ∈ host, isHostChar c = true)
    (fuel namelen : Nat) (hostname filename : Nat → Char) :
    netlibParsehttpurl fuel (scheme ++ host ++ rest) hostlen namelen hostname filename = none := by
  obtain ⟨https, accepted⟩ := take_scheme host rest schemes
  -- the host's characters follow the scheme's
  have start : (if (scheme ++ host ++ rest).take 8 = gHttps then 8 else 7) = scheme.length := by
    rcases schemes with rfl | rfl
    · rw [if_neg (fun same => absurd (https.mp same) (by decide))]
      rfl
    · rw [if_pos (https.mpr rfl)]
      rfl
  have hosty : ∀ i, scheme.length ≤ i → i < scheme.length + hostlen →
      isHostChar (charAt (scheme ++ host ++ rest) i) = true := by
    intro i after before
    obtain ⟨k, rfl⟩ := Nat.exists_eq_add_of_le after
    rw [List.append_assoc, charAt_append_right, charAt_append_left (by omega)]
    exact copied _ (charAt_mem (by omega))
  have diverges := loop_diverges (Copying scheme.length hostlen) (hostRound_stays hosty) fuel
    ⟨scheme.length, 0, hostlen, ok, hostname⟩ ⟨Nat.le_refl _, rfl, positive⟩
  rw [netlibParsehttpurl]
  dsimp only
  rw [if_neg (not_not.mpr accepted), start, diverges]
  rfl

end Host

/-! ## The file name -/

theorem parsehttpurl_filename_past {namelen : Nat} (room : 2 ≤ namelen)
    (hostname filename : Nat → Char) :
    ∃ r, netlibParsehttpurl 2 "http://h/".toList 2 namelen hostname filename = some r ∧
      r.ret = ok ∧ r.filename namelen = '\x00' := by
  have ran : netlibParsehttpurl 2 "http://h/".toList 2 namelen hostname filename =
      some ⟨ok, some 80, Function.update (Function.update hostname 0 'h') 1 '\x00',
        Function.update (Memory.write (Function.update filename 0 '/') 1 (strncpy [] namelen))
          (namelen - 1) '\x00'⟩ := by
    rfl
  refine ⟨_, ran, rfl, ?_⟩
  -- `strncpy` pads the empty path with NULs through `filename[namelen]`
  dsimp only
  rw [Function.update_of_ne (by omega), Memory.write_apply (by omega) (by simp; omega)]
  simp [strncpy]

/-- Against its documented limits: a host that does not fit makes the call loop forever instead of
returning `-E2BIG`, and for every `namelen` a call that returns writes `filename[namelen]`. -/
theorem parsehttpurl_departs_from_limits :
    (∀ (scheme host rest : List Char) (hostlen namelen fuel : Nat) (hostname filename : Nat → Char),
      (scheme = gHttp ∨ scheme = gHttps) → 1 ≤ hostlen → hostlen ≤ host.length →
      (∀ c ∈ host, isHostChar c = true) →
      netlibParsehttpurl fuel (scheme ++ host ++ rest) hostlen namelen hostname filename = none) ∧
    (∀ namelen, 2 ≤ namelen → ∀ hostname filename : Nat → Char, ∃ r,
      netlibParsehttpurl 2 "http://h/".toList 2 namelen hostname filename = some r ∧
        r.ret = ok ∧ r.filename namelen = '\x00') :=
  ⟨fun _ _ _ _ namelen fuel hostname filename schemes positive long copied =>
      parsehttpurl_never_returns schemes positive long copied fuel namelen hostname filename,
    fun _ room hostname filename => parsehttpurl_filename_past room hostname filename⟩

end TinyAra.Netutils.Netlib
