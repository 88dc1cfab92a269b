/-
# Libc.Net.Inet -- `inet_pton` and `inet_ntop`

`inet_ipv4_pton` and `inet_ipv6_pton` read the address text a character at a time
(`CString.scan`): digits collect in the local `numstr`, and a separator converts them with
`atoi` or `strtol(numstr, NULL, 16)`. The IPv4 parser stores each component at `dest[ndots]`
as it reads it; the IPv6 parser stores each group in its local array `ip` before a `::` and in
`rip` after it, and copies both into `dest` once the NUL is read. Both arrays and `dest` are
memories of bytes, so that a store past their end is seen.  `inet_ipv4_ntop` prints the four
bytes with `%d` and `inet_ipv6_ntop` the eight groups with `%x`, the first longest run of zero
groups as `::`.

* `zeroRun_spec`, `ntopGroups_none`, `ntopGroups_run`: `inet_ipv6_ntop` prints the eight groups,
  or the groups around one run of zero groups with `::` in its place;
* `inetIpv6Pton_groupsText`, `inetIpv6Pton_compressed`: `inet_ipv6_pton` reads either form into
  the groups' bytes, zeros standing for the `::`;
* `inetIpv4Ntop_pton`, `inetIpv6Ntop_pton`: for every address, the text `inet_ntop` prints is
  parsed back by `inet_pton` into the same bytes;
* `inet_pton_departs_from_rfc`: `inet_pton(AF_INET, "1.2.3.4.5", d)` stores the fifth
  component at `d[4]`, `inet_pton(AF_INET6, ...)` accepts `1:2` and refuses `::1.2.3.4`, and on
  nine groups it stores the ninth in the two bytes past its array `ip`.
-/
import TinyAra.Lib.CString
import TinyAra.Lib.Memory
import TinyAra.Libc.Stdlib.Strtol
import TinyAra.Libc.Vsprintf

namespace TinyAra.Libc.Net

set_option autoImplicit false

open CString (scan through scan_append through_append scan_cons_of_inl scan_cons_of_inr
  through_cons_of_inl through_singleton)
open Numeral (numeral lt_of_mem_numeral length_numeral_le numeral_ne_nil foldl_mod_numeral)
open TinyAra.Libc.Stdlib (strtol isDigit libIsbasedigit libCheckbase digitsValue strtol_of_digits)
open TinyAra.Libc.Stdio (utodec utohex decChar hexChar utoBase_eq utohex_eq)

/-- `AF_INET` and `AF_INET6` (sock_internal.h), `INET_ADDRSTRLEN` and `INET6_ADDRSTRLEN`
(arpa/inet.h), and `ENOSPC` and `EAFNOSUPPORT` (errno.h). -/
def afInet : Nat := 2
def afInet6 : Nat := 3
def inetAddrstrlen : Nat := 16
def inet6Addrstrlen : Nat := 46
def enospc : Int := 28
def eafnosupport : Int := 97

/-! ## `inet_pton` -/

/-- The locals of the loop of `inet_ipv4_pton`: the digits in `numstr` (`numoffset` of them),
`ndots`, and the bytes from `dest` on, which `ip` points at. -/
structure Ipv4Pton where
  numstr : List Char
  ndots : Nat
  ip : Nat → UInt8

/-- One round of the loop of `inet_ipv4_pton` on the character `ch`: the loop goes on, or the
call returns its value with the bytes from `dest` on. -/
def inetIpv4PtonBody (st : Ipv4Pton) (ch : Char) : Ipv4Pton ⊕ (Int × (Nat → UInt8)) :=
  if ch = '.' ∨ ch = '\x00' then
    -- too many dots, or an empty numeric string
    if ch = '.' ∧ st.ndots ≥ 4 then .inr (0, st.ip)
    else if st.numstr.length < 1 then .inr (0, st.ip)
    else
      -- `value = atoi(numstr)`
      let value := (strtol st.numstr 10).1
      if value < 0 ∨ value > 255 then .inr (0, st.ip)
      else
        let ip := Function.update st.ip st.ndots value.toNat.toUInt8
        if ch = '\x00' then .inr (if st.ndots ≠ 3 then 0 else 1, ip)
        else .inl ⟨[], st.ndots + 1, ip⟩
  else if '0' ≤ ch ∧ ch ≤ '9' then
    let numstr := st.numstr ++ [ch]
    if numstr.length ≥ 4 then .inr (0, st.ip) else .inl { st with numstr }
  else .inr (0, st.ip)

/-- `inet_ipv4_pton(src, dest)` on the characters of `src` before its NUL, with the bytes from
`dest` on: its value and those bytes after it; `none` if the loop read past the NUL. -/
def inetIpv4Pton (src : List Char) (dest : Nat → UInt8) : Option (Int × (Nat → UInt8)) :=
  -- `memset(dest, 0, sizeof(struct in_addr))`
  scan inetIpv4PtonBody ⟨[], 0, Memory.write dest 0 (List.replicate 4 0)⟩ (src ++ ['\x00'])

/-- The locals of the loop of `inet_ipv6_pton`: the digits in `numstr`, the counts `nsep` and
`nrsep` of the groups before and after the `::`, `rtime` once it is read, and the arrays `ip`
and `rip` with the bytes past them. -/
structure Ipv6Pton where
  numstr : List Char
  nsep : Nat
  nrsep : Nat
  rtime : Bool
  ip : Nat → UInt8
  rip : Nat → UInt8

/-- What `inet_ipv6_pton` leaves: its value, the bytes from `dest` on, and its arrays `ip` and
`rip` with the bytes past them. -/
structure Ipv6Result where
  ret : Int
  dest : Nat → UInt8
  ip : Nat → UInt8
  rip : Nat → UInt8

def isHexDigit (ch : Char) : Prop :=
  ('0' ≤ ch ∧ ch ≤ '9') ∨ ('a' ≤ ch ∧ ch ≤ 'f') ∨ ('A' ≤ ch ∧ ch ≤ 'F')

instance (ch : Char) : Decidable (isHexDigit ch) := by
  unfold isHexDigit
  infer_instance

/-- The two bytes of a 16-bit group, `(value >> 8) & 0xff` and `value & 0xff`. -/
def groupBytes (value : Nat) : List UInt8 :=
  [((value >>> 8) &&& 0xff).toUInt8, (value &&& 0xff).toUInt8]

/-- A group read: into `ip` at `nsep` before the `::`, into `rip` at `nrsep` after it. -/
def Ipv6Pton.store (st : Ipv6Pton) (value : Nat) : Ipv6Pton :=
  if !st.rtime then
    { st with
      numstr := []
      ip := Memory.write st.ip (2 * st.nsep) (groupBytes value)
      nsep := st.nsep + 1 }
  else
    { st with
      numstr := []
      rip := Memory.write st.rip (2 * st.nrsep) (groupBytes value)
      nrsep := st.nrsep + 1 }

/-- The copies into `dest` at the NUL: the groups before the `::` from its start, those after it
up to its end. -/
def Ipv6Pton.copyOut (st : Ipv6Pton) (dest : Nat → UInt8) : Nat → UInt8 :=
  let dest := if st.nsep > 0 then Memory.write dest 0 (Memory.read st.ip 0 (2 * st.nsep))
    else dest
  if st.nrsep > 0 then
    Memory.write dest (16 - 2 * st.nrsep) (Memory.read st.rip 0 (2 * st.nrsep))
  else dest

/-- One round of the loop of `inet_ipv6_pton` on the character `ch`, with `dest` as the
`memset` left it. -/
def inetIpv6PtonBody (dest : Nat → UInt8) (st : Ipv6Pton) (ch : Char) :
    Ipv6Pton ⊕ Ipv6Result :=
  let stop : Ipv6Result := ⟨0, dest, st.ip, st.rip⟩
  if ch = ':' ∨ ch = '\x00' then
    if ch = ':' ∧ st.nsep + st.nrsep ≥ 8 then .inr stop
    else if ch ≠ '\x00' ∧ st.numstr.length < 1 then
      -- an empty numeric string: the `::`, refused once two groups follow it
      if st.rtime ∧ st.nrsep > 1 then .inr stop
      else .inl { st with numstr := [], rtime := true }
    else
      let value := (strtol st.numstr 16).1
      if value < 0 ∨ value > 0xffff then .inr stop
      else
        let st := st.store value.toNat
        if ch = '\x00' then
          -- the separator count
          if (st.nsep ≤ 1 ∧ st.nrsep ≤ 0) ∨ st.nsep + st.nrsep < 1 ∨ st.nsep + st.nrsep > 8 then
            .inr ⟨0, dest, st.ip, st.rip⟩
          else .inr ⟨1, st.copyOut dest, st.ip, st.rip⟩
        else .inl st
  else if isHexDigit ch then
    let numstr := st.numstr ++ [ch]
    if numstr.length ≥ 5 then .inr stop else .inl { st with numstr }
  else .inr stop

/-- `inet_ipv6_pton(src, dest)` on the characters of `src` before its NUL, with the bytes from
`dest` on and what the stack holds in `ip` and `rip` and past them; `none` if the loop read past
the NUL. -/
def inetIpv6Pton (src : List Char) (dest ip rip : Nat → UInt8) : Option Ipv6Result :=
  -- `memset(dest, 0, sizeof(struct in6_addr))`
  let dest := Memory.write dest 0 (List.replicate 16 0)
  scan (inetIpv6PtonBody dest) ⟨[], 0, 0, false, ip, rip⟩ (src ++ ['\x00'])

/-- `inet_pton(af, src, dest)`, both families built: the value and the bytes from `dest` on;
`ERROR` for another family, whose `errno` is not modelled. -/
def inetPton (af : Nat) (src : List Char) (dest ip rip : Nat → UInt8) :
    Option (Int × (Nat → UInt8)) :=
  if af = afInet then inetIpv4Pton src dest
  else if af = afInet6 then (inetIpv6Pton src dest ip rip).map fun r => (r.ret, r.dest)
  else some (-1, dest)

theorem inet_pton_departs_from_rfc :
    -- a fifth component is stored in `dest[4]`
    (inetPton afInet "1.2.3.4.5".toList (fun _ => 0) (fun _ => 0) (fun _ => 0)).map
        (fun r => (r.1, Memory.read r.2 0 5)) = some (0, [1, 2, 3, 4, 5]) ∧
    -- two groups and no `::` are accepted
    (inetPton afInet6 "1:2".toList (fun _ => 0) (fun _ => 0) (fun _ => 0)).map
        (fun r => (r.1, Memory.read r.2 0 4)) = some (1, [0, 1, 0, 2]) ∧
    -- a dotted quad in place of the last two groups is refused
    (inetPton afInet6 "::1.2.3.4".toList (fun _ => 0) (fun _ => 0) (fun _ => 0)).map Prod.fst =
      some 0 ∧
    -- a ninth group is stored in the two bytes past `ip`
    (inetIpv6Pton "1:2:3:4:5:6:7:8:9".toList (fun _ => 0) (fun _ => 0) (fun _ => 0)).map
        (fun r => (r.ret, r.ip 16, r.ip 17)) = some (0, 0, 9) := by
  decide +kernel

/-! ## `inet_ntop` -/

/-- `inet_ipv4_ntop(src, dest, size)`: the text it writes, where `%d` of each byte puts its
decimal digits (`utodec`); `ptr` reads the bytes as `char`, which is unsigned on the ARM
targets.  `-ENOSPC` for a buffer below `INET_ADDRSTRLEN`. -/
def inetIpv4Ntop (src : Nat → UInt8) (size : Nat) : Except Int (List Char) :=
  if size < inetAddrstrlen then .error (-enospc)
  else
    -- `sprintf(dest, "%d.%d.%d.%d", ptr[0], ptr[1], ptr[2], ptr[3])`
    .ok (utodec (src 0).toNat ++ '.' :: utodec (src 1).toNat ++ '.' :: utodec (src 2).toNat ++
      '.' :: utodec (src 3).toNat)

/-- Group `i` of the address, `ntohs(in6_addr->s6_addr16[i])`. -/
def word (src : Nat → UInt8) (i : Nat) : Nat := (src (2 * i)).toNat * 256 + (src (2 * i + 1)).toNat

/-- The first loop of `inet_ipv6_ntop` over the groups `ws` from `offset`: `maxentry` and
`maxcount` of the first longest run of zero groups. -/
def zeroRun (maxentry : Int) (maxcount : Nat) : List Nat → Nat → Int × Nat
  | [], _ => (maxentry, maxcount)
  | w :: ws, offset =>
    if w = 0 then
      -- the inner loop counts the zero groups from `offset`; then the outer `offset++` steps
      -- past the group that stopped it
      let count := 1 + (ws.takeWhile (· = 0)).length
      if count > maxcount then zeroRun offset count (ws.drop count) (offset + count + 1)
      else zeroRun maxentry maxcount (ws.drop count) (offset + count + 1)
    else zeroRun maxentry maxcount ws (offset + 1)
termination_by ws => ws.length
decreasing_by all_goals simp only [List.length_drop, List.length_cons]; omega

/-- The second loop of `inet_ipv6_ntop` over the groups `ws` from `offset`: the run at
`maxentry` as `:`, and a second `:` when it reaches the end; every other group after a `:`, but
the first, in hex (`%x`, `utohex`). -/
def ntopGroups (maxentry : Int) (maxcount : Nat) : List Nat → Nat → List Char
  | [], _ => []
  | w :: ws, offset =>
    if (offset : Int) = maxentry then
      ':' :: ((if offset + maxcount ≥ 8 then [':'] else []) ++
        ntopGroups maxentry maxcount (ws.drop (maxcount - 1)) (offset + maxcount))
    else
      (if offset > 0 then [':'] else []) ++ utohex 32 w 'a' ++
        ntopGroups maxentry maxcount ws (offset + 1)
termination_by ws => ws.length
decreasing_by all_goals simp only [List.length_drop, List.length_cons]; omega

/-- `inet_ipv6_ntop(src, dest, size)`: the text it writes; `-ENOSPC` for a buffer below
`INET6_ADDRSTRLEN`. The text has at most 39 characters, so no `snprintf` is cut short. -/
def inetIpv6Ntop (src : Nat → UInt8) (size : Nat) : Except Int (List Char) :=
  if size < inet6Addrstrlen then .error (-enospc)
  else
    let ws := (List.range 8).map (word src)
    let run := zeroRun (-1) 0 ws 0
    .ok (ntopGroups run.1 run.2 ws 0)

/-- `inet_ntop(af, src, dest, size)`, both families built: the text it writes, or `none` for
`NULL`, when the conversion fails or the family is another. -/
def inetNtop (af : Nat) (src : Nat → UInt8) (size : Nat) : Option (List Char) :=
  let ret := if af = afInet then inetIpv4Ntop src size
    else if af = afInet6 then inetIpv6Ntop src size else .error (-eafnosupport)
  match ret with
  | .ok text => some text
  | .error _ => none

example : inetNtop afInet6 (fun i => if i = 1 then 1 else if i = 5 then 2 else 0) 46 =
    some "1:0:2::".toList := by
  decide +kernel

/-! ## What `%d` prints, read back -/

theorem libIsbasedigit_decChar : ∀ d < 10, libIsbasedigit (decChar d) 10 = some d := by
  decide

theorem strtol_utodec {n : Nat} (fits : n < 2 ^ 31) : (strtol (utodec n) 10).1 = n := by
  have digit : ∀ d ∈ numeral 10 n, libIsbasedigit (decChar d) 10 = some d := fun d mem =>
    libIsbasedigit_decChar d (lt_of_mem_numeral (by decide) mem)
  have value : digitsValue 32 10 0 (utodec n) = n := by
    rw [utodec, utoBase_eq, digitsValue, List.foldl_map,
      List.foldl_ext _ (fun acc d => (10 * acc + d) % 2 ^ 32) 0 fun acc d mem => by
        rw [digit d mem, Option.getD_some, Nat.mul_comm]; rfl]
    exact foldl_mod_numeral (by decide) (by omega)
  rw [strtol_of_digits _ rfl (by omega), value]
  intro c mem
  rw [utodec, utoBase_eq] at mem
  obtain ⟨d, within, rfl⟩ := List.mem_map.mp mem
  simp [isDigit, digit d within]

theorem decChar_digit : ∀ d < 10, '0' ≤ decChar d ∧ decChar d ≤ '9' := by
  decide

theorem mem_utodec {n : Nat} {c : Char} (mem : c ∈ utodec n) : '0' ≤ c ∧ c ≤ '9' := by
  rw [utodec, utoBase_eq] at mem
  obtain ⟨d, within, rfl⟩ := List.mem_map.mp mem
  exact decChar_digit d (lt_of_mem_numeral (by decide) within)

theorem length_utodec_le {n : Nat} (lt : n < 1000) : (utodec n).length ≤ 3 := by
  rw [utodec, utoBase_eq, List.length_map]
  exact length_numeral_le (by decide) (by decide) lt

theorem utodec_ne_nil (n : Nat) : utodec n ≠ [] := by
  rw [utodec, utoBase_eq]
  simpa using numeral_ne_nil 10 n

section Ipv4

theorem through_ipv4_digits : ∀ (ds : List Char) (st : Ipv4Pton),
    (∀ c ∈ ds, '0' ≤ c ∧ c ≤ '9') → st.numstr.length + ds.length < 4 →
      through inetIpv4PtonBody st ds = some { st with numstr := st.numstr ++ ds }
  | [], st, _, _ => by simp [through]
  | c :: cs, st, digits, short => by
    obtain ⟨low, high⟩ := digits c List.mem_cons_self
    have notSep : ¬(c = '.' ∨ c = '\x00') := by
      rintro (rfl | rfl) <;> exact absurd low (by decide)
    have went : inetIpv4PtonBody st c = .inl { st with numstr := st.numstr ++ [c] } := by
      rw [inetIpv4PtonBody, if_neg notSep, if_pos ⟨low, high⟩,
        if_neg (by simp only [List.length_append, List.length_cons, List.length_nil] at short ⊢
                   omega)]
    rw [through_cons_of_inl went, through_ipv4_digits cs _
      (fun c' mem => digits c' (List.mem_cons_of_mem c mem))
      (by simp only [List.length_append, List.length_cons, List.length_nil] at short ⊢; omega)]
    simp

/-- At a `.` or the NUL after a byte's digits, the byte is stored at `dest[ndots]`; the NUL
returns 1 after the fourth. -/
theorem inetIpv4PtonBody_sep (b : UInt8) {ndots : Nat} (ip : Nat → UInt8) (below : ndots < 4)
    {ch : Char} (sep : ch = '.' ∨ ch = '\x00') :
    inetIpv4PtonBody ⟨utodec b.toNat, ndots, ip⟩ ch =
      if ch = '\x00' then .inr (if ndots ≠ 3 then 0 else 1, Function.update ip ndots b)
      else .inl ⟨[], ndots + 1, Function.update ip ndots b⟩ := by
  have value : (strtol (utodec b.toNat) 10).1 = b.toNat :=
    strtol_utodec (Nat.lt_trans b.toNat_lt (by decide))
  have byte : ((b.toNat : Int)).toNat.toUInt8 = b := by simp
  have inRange : ¬((b.toNat : Int) < 0 ∨ (b.toNat : Int) > 255) := by
    have := b.toNat_lt
    omega
  have digits : ¬(utodec b.toNat).length < 1 := by
    have := utodec_ne_nil b.toNat
    simp_all
  rw [inetIpv4PtonBody, if_pos sep,
    if_neg (fun ⟨_, many⟩ => absurd (show ndots ≥ 4 from many) (by omega)), if_neg digits, value]
  dsimp only
  rw [if_neg inRange, byte]

theorem through_ipv4_component (b : UInt8) {ndots : Nat} (ip : Nat → UInt8) (below : ndots < 3) :
    through inetIpv4PtonBody ⟨[], ndots, ip⟩ (utodec b.toNat ++ ['.']) =
      some ⟨[], ndots + 1, Function.update ip ndots b⟩ := by
  have short : ([] : List Char).length + (utodec b.toNat).length < 4 := by
    have := length_utodec_le (Nat.lt_trans b.toNat_lt (by decide))
    simp only [List.length_nil]
    omega
  rw [through_append (through_ipv4_digits _ _ (fun c mem => mem_utodec mem) short)]
  apply through_singleton
  show inetIpv4PtonBody ⟨utodec b.toNat, ndots, ip⟩ '.' = _
  rw [inetIpv4PtonBody_sep b ip (by omega) (.inl rfl), if_neg (by decide)]

theorem scan_ipv4_last (b : UInt8) (ip : Nat → UInt8) :
    scan inetIpv4PtonBody ⟨[], 3, ip⟩ (utodec b.toNat ++ ['\x00']) =
      some (1, Function.update ip 3 b) := by
  have short : ([] : List Char).length + (utodec b.toNat).length < 4 := by
    have := length_utodec_le (Nat.lt_trans b.toNat_lt (by decide))
    simp only [List.length_nil]
    omega
  have stop : inetIpv4PtonBody ⟨utodec b.toNat, 3, ip⟩ '\x00' =
      .inr (1, Function.update ip 3 b) := by
    rw [inetIpv4PtonBody_sep b ip (by omega) (.inr rfl), if_pos rfl, if_neg (by decide)]
  rw [scan_append (through_ipv4_digits _ _ (fun c mem => mem_utodec mem) short)]
  exact scan_cons_of_inr stop []

theorem inetIpv4Pton_text (src dest : Nat → UInt8) :
    inetIpv4Pton (utodec (src 0).toNat ++ '.' :: utodec (src 1).toNat ++ '.' ::
        utodec (src 2).toNat ++ '.' :: utodec (src 3).toNat) dest =
      some (1, Function.update (Function.update (Function.update (Function.update
        (Memory.write dest 0 (List.replicate 4 0)) 0 (src 0)) 1 (src 1)) 2 (src 2)) 3 (src 3)) := by
  -- the text is three components with their dots, and the last one
  have split : (utodec (src 0).toNat ++ '.' :: utodec (src 1).toNat ++ '.' ::
      utodec (src 2).toNat ++ '.' :: utodec (src 3).toNat) ++ ['\x00'] =
      (utodec (src 0).toNat ++ ['.']) ++ ((utodec (src 1).toNat ++ ['.']) ++
        ((utodec (src 2).toNat ++ ['.']) ++ (utodec (src 3).toNat ++ ['\x00']))) := by
    simp
  rw [inetIpv4Pton, split, scan_append (through_ipv4_component _ _ (by decide)),
    scan_append (through_ipv4_component _ _ (by decide)),
    scan_append (through_ipv4_component _ _ (by decide)), scan_ipv4_last]

theorem inetIpv4Ntop_pton (src : Nat → UInt8) {size : Nat} (large : inetAddrstrlen ≤ size) :
    ∃ text, inetNtop afInet src size = some text ∧
      ∀ dest ip rip : Nat → UInt8, ∃ d, inetPton afInet text dest ip rip = some (1, d) ∧
        Memory.read d 0 4 = Memory.read src 0 4 := by
  have printed : inetIpv4Ntop src size = .ok (utodec (src 0).toNat ++ '.' ::
      utodec (src 1).toNat ++ '.' :: utodec (src 2).toNat ++ '.' :: utodec (src 3).toNat) := by
    rw [inetIpv4Ntop, if_neg (Nat.not_lt.mpr large)]
  refine ⟨_, by rw [inetNtop, if_pos rfl, printed], ?_⟩
  intro dest ip rip
  refine ⟨_, by rw [inetPton, if_pos rfl, inetIpv4Pton_text], ?_⟩
  -- the four stores, read back
  rfl

theorem inetIpv4Ntop_pton_zero :
    ∃ text, inetNtop afInet (fun _ => 0) 16 = some text ∧
      ∀ dest ip rip : Nat → UInt8, ∃ d, inetPton afInet text dest ip rip = some (1, d) ∧
        Memory.read d 0 4 = Memory.read (fun _ => 0) 0 4 :=
  inetIpv4Ntop_pton _ le_rfl

end Ipv4

/-! ## What `%x` prints, read back -/

theorem libIsbasedigit_hexChar : ∀ d < 16, libIsbasedigit (hexChar d 'a') 16 = some d := by
  decide

theorem hexChar_digit : ∀ d < 16, isHexDigit (hexChar d 'a') ∧ hexChar d 'a' ≠ 'x' ∧
    hexChar d 'a' ≠ 'X' ∧ hexChar d 'a' ≠ ':' ∧ hexChar d 'a' ≠ '\x00' := by
  decide

theorem utohex_eq_numeral {w : Nat} (lt : w < 2 ^ 16) :
    utohex 32 w 'a' = (numeral 16 w).map (hexChar · 'a') :=
  utohex_eq 'a' (by decide) (by omega)

theorem mem_utohex {w : Nat} (lt : w < 2 ^ 16) {c : Char} (mem : c ∈ utohex 32 w 'a') :
    isHexDigit c ∧ c ≠ 'x' ∧ c ≠ 'X' ∧ c ≠ ':' ∧ c ≠ '\x00' := by
  rw [utohex_eq_numeral lt] at mem
  obtain ⟨d, within, rfl⟩ := List.mem_map.mp mem
  exact hexChar_digit d (lt_of_mem_numeral (by decide) within)

theorem length_utohex_le {w : Nat} (lt : w < 2 ^ 16) : (utohex 32 w 'a').length ≤ 4 := by
  rw [utohex_eq_numeral lt, List.length_map]
  exact length_numeral_le (by decide) (by decide) lt

theorem utohex_ne_nil {w : Nat} (lt : w < 2 ^ 16) : utohex 32 w 'a' ≠ [] := by
  rw [utohex_eq_numeral lt]
  simpa using numeral_ne_nil 16 w

theorem strtol_utohex {w : Nat} (lt : w < 2 ^ 16) : (strtol (utohex 32 w 'a') 16).1 = w := by
  have digit : ∀ d ∈ numeral 16 w, libIsbasedigit (hexChar d 'a') 16 = some d := fun d mem =>
    libIsbasedigit_hexChar d (lt_of_mem_numeral (by decide) mem)
  have value : digitsValue 32 16 0 (utohex 32 w 'a') = w := by
    rw [utohex_eq_numeral lt, digitsValue, List.foldl_map,
      List.foldl_ext _ (fun acc d => (16 * acc + d) % 2 ^ 32) 0 fun acc d mem => by
        rw [digit d mem, Option.getD_some, Nat.mul_comm]; rfl]
    exact foldl_mod_numeral (by decide) (by omega)
  -- no `0x` prefix: no digit is an `x`
  have plain : libCheckbase 16 (utohex 32 w 'a') = (16, utohex 32 w 'a') := by
    have second : TinyAra.Libc.Stdlib.charAt (utohex 32 w 'a') 1 ≠ 'X' ∧
        TinyAra.Libc.Stdlib.charAt (utohex 32 w 'a') 1 ≠ 'x' := by
      rw [TinyAra.Libc.Stdlib.charAt, List.getD_eq_getElem?_getD]
      cases h : (utohex 32 w 'a')[1]? with
      | none => exact ⟨by decide, by decide⟩
      | some c =>
        obtain ⟨-, notx, notX, -⟩ := mem_utohex lt (List.mem_of_getElem? h)
        exact ⟨notX, notx⟩
    rw [libCheckbase, if_neg (by decide), if_pos rfl,
      if_neg fun h => h.2.elim second.1 second.2]
  rw [strtol_of_digits _ plain (by omega), value]
  intro c mem
  rw [utohex_eq_numeral lt] at mem
  obtain ⟨d, within, rfl⟩ := List.mem_map.mp mem
  simp [isDigit, digit d within]

section Ipv6

variable (dest : Nat → UInt8)

def colonGroups (ws : List Nat) : List Char := ws.flatMap fun w => ':' :: utohex 32 w 'a'

/-- The groups with a `:` between two of them. -/
def groupsText : List Nat → List Char
  | [] => []
  | w :: ws => utohex 32 w 'a' ++ colonGroups ws

def storeAll (st : Ipv6Pton) (ws : List Nat) : Ipv6Pton := ws.foldl Ipv6Pton.store st

theorem store_numstr (st : Ipv6Pton) (numstr : List Char) (w : Nat) :
    ({ st with numstr } : Ipv6Pton).store w = st.store w := by
  unfold Ipv6Pton.store
  cases st.rtime <;> rfl

theorem store_count (st : Ipv6Pton) (w : Nat) :
    (st.store w).nsep + (st.store w).nrsep = st.nsep + st.nrsep + 1 := by
  unfold Ipv6Pton.store
  cases st.rtime <;> simp only [Bool.not_false, Bool.not_true, if_true, Bool.false_eq_true,
    if_false] <;> omega

theorem through_ipv6_digits : ∀ (ds : List Char) (st : Ipv6Pton),
    (∀ c ∈ ds, isHexDigit c ∧ c ≠ ':' ∧ c ≠ '\x00') → st.numstr.length + ds.length < 5 →
      through (inetIpv6PtonBody dest) st ds = some { st with numstr := st.numstr ++ ds }
  | [], st, _, _ => by simp [through]
  | c :: cs, st, digits, short => by
    obtain ⟨hex, notColon, notNul⟩ := digits c List.mem_cons_self
    have went : inetIpv6PtonBody dest st c = .inl { st with numstr := st.numstr ++ [c] } := by
      rw [inetIpv6PtonBody, if_neg (by rintro (same | same) <;> contradiction), if_pos hex,
        if_neg (by simp only [List.length_append, List.length_cons, List.length_nil] at short ⊢
                   omega)]
    rw [through_cons_of_inl went, through_ipv6_digits cs _
      (fun c' mem => digits c' (List.mem_cons_of_mem c mem))
      (by simp only [List.length_append, List.length_cons, List.length_nil] at short ⊢; omega)]
    simp

theorem through_utohex {st : Ipv6Pton} (empty : st.numstr = []) {w : Nat} (lt : w < 2 ^ 16) :
    through (inetIpv6PtonBody dest) st (utohex 32 w 'a') =
      some { st with numstr := utohex 32 w 'a' } := by
  have digits : ∀ c ∈ utohex 32 w 'a', isHexDigit c ∧ c ≠ ':' ∧ c ≠ '\x00' := by
    intro c mem
    obtain ⟨hex, -, -, colon, nul⟩ := mem_utohex lt mem
    exact ⟨hex, colon, nul⟩
  have short : st.numstr.length + (utohex 32 w 'a').length < 5 := by
    have := length_utohex_le lt
    rw [empty, List.length_nil]
    omega
  rw [through_ipv6_digits dest _ st digits short, empty, List.nil_append]

theorem inetIpv6PtonBody_colon_group {st : Ipv6Pton} {w : Nat} (lt : w < 2 ^ 16)
    (pending : st.numstr = utohex 32 w 'a') (room : st.nsep + st.nrsep < 8) :
    inetIpv6PtonBody dest st ':' = .inl (st.store w) := by
  have digits : ¬(':' ≠ '\x00' ∧ st.numstr.length < 1) := by
    rintro ⟨-, none⟩
    have := utohex_ne_nil lt
    simp_all
  have inRange : ¬((w : Int) < 0 ∨ (w : Int) > 0xffff) := by omega
  rw [inetIpv6PtonBody, if_pos (.inl rfl), if_neg (fun ⟨_, many⟩ => absurd many (by omega)),
    if_neg digits, pending, strtol_utohex lt]
  dsimp only
  rw [if_neg inRange, if_neg (by decide), Int.toNat_natCast]

theorem inetIpv6PtonBody_colon_empty {st : Ipv6Pton} (empty : st.numstr = [])
    (room : st.nsep + st.nrsep < 8) (once : ¬(st.rtime = true ∧ st.nrsep > 1)) :
    inetIpv6PtonBody dest st ':' = .inl { st with numstr := [], rtime := true } := by
  rw [inetIpv6PtonBody, if_pos (.inl rfl), if_neg (fun ⟨_, many⟩ => absurd many (by omega)),
    if_pos ⟨by decide, by simp [empty]⟩, if_neg once]

/-- At the NUL the pending group is stored and, the counts being right, both parts are copied
into `dest` and 1 is returned. -/
theorem inetIpv6PtonBody_nul {st : Ipv6Pton} {w : Nat} (lt : w < 2 ^ 16)
    (value : (strtol st.numstr 16).1 = w)
    (counted : ¬(((st.store w).nsep ≤ 1 ∧ (st.store w).nrsep ≤ 0) ∨
      (st.store w).nsep + (st.store w).nrsep < 1 ∨ (st.store w).nsep + (st.store w).nrsep > 8)) :
    inetIpv6PtonBody dest st '\x00' =
      .inr ⟨1, (st.store w).copyOut dest, (st.store w).ip, (st.store w).rip⟩ := by
  have inRange : ¬((w : Int) < 0 ∨ (w : Int) > 0xffff) := by omega
  rw [inetIpv6PtonBody, if_pos (.inr rfl), if_neg (fun ⟨colon, _⟩ => absurd colon (by decide)),
    if_neg (fun ⟨nul, _⟩ => nul rfl), value]
  dsimp only
  rw [if_neg inRange, Int.toNat_natCast, if_pos rfl, if_neg counted]

theorem storeAll_cons (st : Ipv6Pton) (w : Nat) (ws : List Nat) :
    storeAll st (w :: ws) = storeAll (st.store w) ws := rfl

theorem store_storeAll_dropLast (st : Ipv6Pton) {ws : List Nat} (nonempty : ws ≠ []) :
    (storeAll st ws.dropLast).store (ws.getLast nonempty) = storeAll st ws := by
  conv => rhs; rw [← List.dropLast_append_getLast nonempty]
  simp only [storeAll, List.foldl_append, List.foldl_cons, List.foldl_nil]

theorem storeAll_count (st : Ipv6Pton) : ∀ ws : List Nat,
    (storeAll st ws).nsep + (storeAll st ws).nrsep = st.nsep + st.nrsep + ws.length
  | [] => rfl
  | w :: ws => by
    rw [storeAll_cons, storeAll_count (st.store w) ws, store_count, List.length_cons]
    omega

theorem storeAll_ip {st : Ipv6Pton} (before : st.rtime = false) : ∀ ws : List Nat,
    (storeAll st ws).rtime = false ∧ (storeAll st ws).nsep = st.nsep + ws.length ∧
      (storeAll st ws).nrsep = st.nrsep ∧
      Memory.read (storeAll st ws).ip 0 (2 * (st.nsep + ws.length)) =
        Memory.read st.ip 0 (2 * st.nsep) ++ ws.flatMap groupBytes
  | [] => by simp [storeAll, before]
  | w :: ws => by
    have stored : (st.store w).rtime = false ∧ (st.store w).nsep = st.nsep + 1 ∧
        (st.store w).nrsep = st.nrsep ∧
        (st.store w).ip = Memory.write st.ip (2 * st.nsep) (groupBytes w) := by
      simp [Ipv6Pton.store, before]
    obtain ⟨rtime, nsep, nrsep, ip⟩ := storeAll_ip stored.1 ws
    have sum : st.nsep + (w :: ws).length = (st.store w).nsep + ws.length := by
      rw [stored.2.1, List.length_cons]
      omega
    rw [storeAll_cons, sum]
    refine ⟨rtime, by rw [nsep, stored.2.1], nrsep.trans stored.2.2.1, ?_⟩
    rw [ip, stored.2.1, stored.2.2.2, List.flatMap_cons, ← List.append_assoc]
    congr 1
    -- the group lands right after the ones before it
    have after := @Memory.read_write_after UInt8 st.ip 0 (2 * st.nsep) (groupBytes w)
    rw [Nat.zero_add] at after
    exact after

theorem storeAll_rip {st : Ipv6Pton} (later : st.rtime = true) : ∀ ws : List Nat,
    (storeAll st ws).nsep = st.nsep ∧ (storeAll st ws).ip = st.ip ∧
      (storeAll st ws).nrsep = st.nrsep + ws.length ∧
      Memory.read (storeAll st ws).rip 0 (2 * (st.nrsep + ws.length)) =
        Memory.read st.rip 0 (2 * st.nrsep) ++ ws.flatMap groupBytes
  | [] => by simp [storeAll]
  | w :: ws => by
    have stored : (st.store w).rtime = true ∧ (st.store w).nrsep = st.nrsep + 1 ∧
        (st.store w).nsep = st.nsep ∧ (st.store w).ip = st.ip ∧
        (st.store w).rip = Memory.write st.rip (2 * st.nrsep) (groupBytes w) := by
      simp [Ipv6Pton.store, later]
    obtain ⟨nsep, ip, nrsep, rip⟩ := storeAll_rip stored.1 ws
    have sum : st.nrsep + (w :: ws).length = (st.store w).nrsep + ws.length := by
      rw [stored.2.1, List.length_cons]
      omega
    rw [storeAll_cons, sum]
    refine ⟨nsep.trans stored.2.2.1, ip.trans stored.2.2.2.1, by rw [nrsep, stored.2.1], ?_⟩
    rw [rip, stored.2.1, stored.2.2.2.2, List.flatMap_cons, ← List.append_assoc]
    congr 1
    have after := @Memory.read_write_after UInt8 st.rip 0 (2 * st.nrsep) (groupBytes w)
    rw [Nat.zero_add] at after
    exact after

theorem colonGroups_cons (w : Nat) (ws : List Nat) :
    colonGroups (w :: ws) = ':' :: (utohex 32 w 'a' ++ colonGroups ws) := by
  simp [colonGroups]

/-- Reading `:` and a group's digits stores the group pending before it: after a stretch of
them the last group is pending and all the others are stored. -/
theorem through_colonGroups : ∀ (ws : List Nat) (st : Ipv6Pton) (p : Nat), p < 2 ^ 16 →
    (∀ w ∈ ws, w < 2 ^ 16) → st.nsep + st.nrsep + ws.length < 8 →
      through (inetIpv6PtonBody dest) { st with numstr := utohex 32 p 'a' } (colonGroups ws) =
        some { storeAll st (p :: ws).dropLast with
          numstr := utohex 32 ((p :: ws).getLast (List.cons_ne_nil p ws)) 'a' }
  | [], st, p, _, _, _ => rfl
  | w :: ws, st, p, lt, small, room => by
    have stored : inetIpv6PtonBody dest { st with numstr := utohex 32 p 'a' } ':' =
        .inl (st.store p) := by
      have fits : st.nsep + st.nrsep < 8 := by
        simp only [List.length_cons] at room
        omega
      rw [@inetIpv6PtonBody_colon_group dest { st with numstr := utohex 32 p 'a' } p lt rfl fits,
        store_numstr]
    have read : through (inetIpv6PtonBody dest) (st.store p) (utohex 32 w 'a') =
        some { st.store p with numstr := utohex 32 w 'a' } :=
      through_utohex dest (by cases rtime : st.rtime <;> simp [Ipv6Pton.store, rtime])
        (small w List.mem_cons_self)
    have more : (st.store p).nsep + (st.store p).nrsep + ws.length < 8 := by
      rw [store_count]
      simp only [List.length_cons] at room
      omega
    rw [colonGroups_cons, through_cons_of_inl stored, through_append read,
      through_colonGroups ws (st.store p) w (small w List.mem_cons_self)
        (fun v mem => small v (List.mem_cons_of_mem w mem)) more]
    simp [storeAll_cons]

theorem through_groupsText {st : Ipv6Pton} (empty : st.numstr = []) {gs : List Nat}
    (nonempty : gs ≠ []) (small : ∀ w ∈ gs, w < 2 ^ 16)
    (room : st.nsep + st.nrsep + gs.length ≤ 8) :
    through (inetIpv6PtonBody dest) st (groupsText gs) =
      some { storeAll st gs.dropLast with numstr := utohex 32 (gs.getLast nonempty) 'a' } := by
  obtain ⟨a, as, rfl⟩ := List.exists_cons_of_ne_nil nonempty
  rw [groupsText, through_append (through_utohex dest empty (small a List.mem_cons_self))]
  exact through_colonGroups dest as st a (small a List.mem_cons_self)
    (fun w mem => small w (List.mem_cons_of_mem a mem))
    (by simp only [List.length_cons] at room; omega)

theorem through_groupsText_colon {st : Ipv6Pton} (empty : st.numstr = []) {gs : List Nat}
    (nonempty : gs ≠ []) (small : ∀ w ∈ gs, w < 2 ^ 16)
    (room : st.nsep + st.nrsep + gs.length ≤ 8) :
    through (inetIpv6PtonBody dest) st (groupsText gs ++ [':']) = some (storeAll st gs) := by
  have fits : (storeAll st gs.dropLast).nsep + (storeAll st gs.dropLast).nrsep < 8 := by
    rw [storeAll_count, List.length_dropLast]
    have := List.length_pos_iff.mpr nonempty
    omega
  rw [through_append (through_groupsText dest empty nonempty small room)]
  apply through_singleton
  rw [@inetIpv6PtonBody_colon_group dest { storeAll st gs.dropLast with
      numstr := utohex 32 (gs.getLast nonempty) 'a' } _ (small _ (List.getLast_mem nonempty)) rfl
      fits, store_numstr, store_storeAll_dropLast]

/-- A stretch of groups and the NUL stores them all and, the counts being right, copies both
parts into `dest` and returns 1. -/
theorem scan_groupsText_nul {st : Ipv6Pton} (empty : st.numstr = []) {gs : List Nat}
    (nonempty : gs ≠ []) (small : ∀ w ∈ gs, w < 2 ^ 16) (room : st.nsep + st.nrsep + gs.length ≤ 8)
    (counted : ¬(((storeAll st gs).nsep ≤ 1 ∧ (storeAll st gs).nrsep ≤ 0) ∨
      (storeAll st gs).nsep + (storeAll st gs).nrsep < 1 ∨
      (storeAll st gs).nsep + (storeAll st gs).nrsep > 8)) :
    ∃ r, scan (inetIpv6PtonBody dest) st (groupsText gs ++ ['\x00']) = some r ∧ r.ret = 1 ∧
      r.dest = (storeAll st gs).copyOut dest := by
  have last := small _ (List.getLast_mem nonempty)
  let pending : Ipv6Pton :=
    { storeAll st gs.dropLast with numstr := utohex 32 (gs.getLast nonempty) 'a' }
  have stored : pending.store (gs.getLast nonempty) = storeAll st gs := by
    rw [store_numstr, store_storeAll_dropLast]
  have stop := @inetIpv6PtonBody_nul dest pending _ last (strtol_utohex last)
    (by rw [stored]; exact counted)
  rw [stored] at stop
  refine ⟨⟨1, (storeAll st gs).copyOut dest, (storeAll st gs).ip, (storeAll st gs).rip⟩, ?_,
    rfl, rfl⟩
  rw [scan_append (through_groupsText dest empty nonempty small room)]
  exact scan_cons_of_inr stop []

/-! ### What `inet_ipv6_ntop` prints -/

/-- What the first loop finds: no run, or `maxcount ≥ 1` zero groups from `maxentry` on. -/
def IsZeroRun (ws : List Nat) (run : Int × Nat) : Prop :=
  run = (-1, 0) ∨ ∃ e : Nat, run.1 = e ∧ 1 ≤ run.2 ∧ e + run.2 ≤ ws.length ∧
    (ws.drop e).take run.2 = List.replicate run.2 0

/-- The zero groups the inner loop counts from a zero group at `offset` are a run. -/
theorem isZeroRun_count {ws0 ws : List Nat} {offset : Nat} (rest : 0 :: ws = ws0.drop offset) :
    IsZeroRun ws0 ((offset : Int), 1 + (ws.takeWhile (· = 0)).length) := by
  have long : ws.length + 1 = ws0.length - offset := by
    rw [← List.length_drop, ← rest, List.length_cons]
  have prefixed := @List.takeWhile_prefix _ ws (fun w => decide (w = 0))
  have prefixLen := prefixed.length_le
  refine .inr ⟨offset, rfl, by omega, by dsimp only; omega, ?_⟩
  dsimp only
  rw [← rest, Nat.add_comm, List.take_succ_cons, List.replicate_succ]
  congr 1
  -- the zeros the inner loop counted
  have taken : ws.take (ws.takeWhile (· = 0)).length = ws.takeWhile (· = 0) :=
    (List.prefix_iff_eq_take.mp prefixed).symm
  rw [taken, List.eq_replicate_iff]
  exact ⟨rfl, fun w mem => by simpa using List.mem_takeWhile_imp mem⟩

theorem drop_succ_of_cons {ws0 ws : List Nat} {w offset : Nat} (rest : w :: ws = ws0.drop offset) :
    ws = ws0.drop (offset + 1) := by
  rw [← List.drop_drop, ← rest, List.drop_one, List.tail_cons]

theorem zeroRun_spec {ws0 : List Nat} (maxentry : Int) (maxcount : Nat) (ws : List Nat)
    (offset : Nat) (found : IsZeroRun ws0 (maxentry, maxcount)) (rest : ws = ws0.drop offset) :
    IsZeroRun ws0 (zeroRun maxentry maxcount ws offset) := by
  fun_induction zeroRun maxentry maxcount ws offset with
  | case1 maxentry maxcount offset => exact found
  | case2 maxentry maxcount ws offset count longer ih =>
    apply ih (isZeroRun_count rest)
    rw [drop_succ_of_cons rest, List.drop_drop, Nat.add_right_comm]
  | case3 maxentry maxcount ws offset count shorter ih =>
    apply ih found
    rw [drop_succ_of_cons rest, List.drop_drop, Nat.add_right_comm]
  | case4 maxentry maxcount w ws offset nonzero ih => exact ih found (drop_succ_of_cons rest)

theorem ntopGroups_past {maxentry : Int} (maxcount : Nat) :
    ∀ (ws : List Nat) (offset : Nat), maxentry < offset → 0 < offset →
      ntopGroups maxentry maxcount ws offset = colonGroups ws
  | [], _, _, _ => by simp [ntopGroups, colonGroups]
  | w :: ws, offset, past, pos => by
    rw [ntopGroups, if_neg (by omega), if_pos pos, ntopGroups_past maxcount ws (offset + 1)
      (by omega) (by omega), colonGroups_cons]
    rfl

/-- From a group after the first, the groups before the run each after a `:`, then `:` for
the run, and the groups past it. -/
theorem ntopGroups_hit {maxcount : Nat} (counted : 1 ≤ maxcount) : ∀ (k : Nat) (ws : List Nat)
    (offset : Nat), 0 < offset → k < ws.length →
      ntopGroups ((offset + k : Nat) : Int) maxcount ws offset = colonGroups (ws.take k) ++
        ':' :: ((if offset + k + maxcount ≥ 8 then [':'] else []) ++
          colonGroups (ws.drop (k + maxcount)))
  | _, [], _, _, inside => absurd inside (Nat.not_lt_zero _)
  | 0, w :: ws, offset, pos, _ => by
    rw [Nat.add_zero, Nat.zero_add, ntopGroups, if_pos rfl,
      ntopGroups_past maxcount _ (offset + maxcount) (by omega) (by omega),
      List.drop_cons (by omega)]
    rfl
  | k + 1, w :: ws, offset, pos, inside => by
    have hit := ntopGroups_hit counted k ws (offset + 1) (by omega)
      (by simp only [List.length_cons] at inside; omega)
    rw [ntopGroups, if_neg (by omega), if_pos pos, show offset + (k + 1) = offset + 1 + k by omega,
      hit, List.take_succ_cons, colonGroups_cons, Nat.add_right_comm k 1, List.drop_succ_cons]
    simp

/-- What follows the `:` of a run: a second `:` when the run reaches the last group, and the
groups past it. -/
theorem colonGroups_end {offset : Nat} {rest : List Nat} (ends : offset + rest.length = 8) :
    (if offset ≥ 8 then [':'] else []) ++ colonGroups rest = ':' :: groupsText rest := by
  cases rest with
  | nil =>
    simp only [List.length_nil, Nat.add_zero] at ends
    subst ends
    rfl
  | cons w ws =>
    simp only [List.length_cons] at ends
    rw [if_neg (by omega), colonGroups_cons]
    rfl

theorem ntopGroups_none (maxcount : Nat) (ws : List Nat) :
    ntopGroups (-1) maxcount ws 0 = groupsText ws := by
  cases ws with
  | nil => rw [ntopGroups]; rfl
  | cons w ws =>
    rw [ntopGroups, if_neg (by omega), if_neg (by omega), ntopGroups_past maxcount ws 1 (by omega)
      (by omega)]
    rfl

theorem ntopGroups_run {ws : List Nat} (eight : ws.length = 8) {maxentry maxcount : Nat}
    (counted : 1 ≤ maxcount) (within : maxentry + maxcount ≤ 8) :
    ntopGroups maxentry maxcount ws 0 = groupsText (ws.take maxentry) ++ ':' :: ':' ::
      groupsText (ws.drop (maxentry + maxcount)) := by
  obtain ⟨w, ws, rfl⟩ := List.exists_cons_of_length_eq_add_one eight
  simp only [List.length_cons] at eight
  cases maxentry with
  | zero =>
    have ends : maxcount + (ws.drop (maxcount - 1)).length = 8 := by
      rw [List.length_drop]
      omega
    rw [ntopGroups, if_pos rfl, Nat.zero_add,
      ntopGroups_past maxcount _ maxcount (by omega) (by omega), colonGroups_end ends,
      List.drop_cons (by omega)]
    rfl
  | succ k =>
    have ends : 1 + k + maxcount + (ws.drop (k + maxcount)).length = 8 := by
      rw [List.length_drop]
      omega
    rw [List.take_succ_cons, Nat.add_right_comm k 1, List.drop_succ_cons, ntopGroups,
      if_neg (by omega), if_neg (by omega), Nat.add_comm k 1,
      ntopGroups_hit counted k ws 1 (by omega) (by omega), colonGroups_end ends, groupsText,
      List.nil_append, List.append_assoc]

/-! ### What `inet_ipv6_pton` reads of it -/

theorem copyOut_eq (st : Ipv6Pton) (dest : Nat → UInt8) :
    st.copyOut dest = Memory.write (Memory.write dest 0 (Memory.read st.ip 0 (2 * st.nsep)))
      (16 - 2 * st.nrsep) (Memory.read st.rip 0 (2 * st.nrsep)) := by
  unfold Ipv6Pton.copyOut
  dsimp only
  split_ifs with moved copied copied
  · rfl
  · rw [show st.nsep = 0 by omega, Nat.mul_zero, Memory.read_zero, Memory.write_nil]
  · rw [show st.nrsep = 0 by omega, Nat.mul_zero, Memory.read_zero, Memory.write_nil]
  · simp only [show st.nsep = 0 by omega, show st.nrsep = 0 by omega, Nat.mul_zero,
      Memory.read_zero, Memory.write_nil]

/-- The 16 bytes of `dest` after the copies, `dest` cleared first: the groups before the `::`,
zeros, and the groups after it. -/
theorem read_copyOut {st : Ipv6Pton} (fits : st.nsep + st.nrsep ≤ 8) (dest : Nat → UInt8) :
    Memory.read (st.copyOut (Memory.write dest 0 (List.replicate 16 0))) 0 16 =
      Memory.read st.ip 0 (2 * st.nsep) ++ List.replicate (16 - 2 * (st.nsep + st.nrsep)) 0 ++
        Memory.read st.rip 0 (2 * st.nrsep) := by
  have middle := @Memory.read_write_within UInt8 dest 0 (2 * st.nsep)
    (16 - 2 * st.nsep - 2 * st.nrsep) (List.replicate 16 0)
    (by simp only [List.length_replicate]; omega)
  rw [Nat.zero_add, List.drop_replicate, List.take_replicate,
    Nat.min_eq_left (by omega)] at middle
  have ends := @Memory.read_write_ends UInt8 (Memory.write dest 0 (List.replicate 16 0)) 16
    (Memory.read st.ip 0 (2 * st.nsep)) (Memory.read st.rip 0 (2 * st.nrsep))
    (by simp only [Memory.length_read]; omega)
  simp only [Memory.length_read] at ends
  rw [copyOut_eq, ends, middle,
    show 16 - 2 * st.nsep - 2 * st.nrsep = 16 - 2 * (st.nsep + st.nrsep) by omega]

theorem storeAll_numstr {st : Ipv6Pton} (empty : st.numstr = []) :
    ∀ ws : List Nat, (storeAll st ws).numstr = []
  | [] => empty
  | w :: ws => by
    rw [storeAll_cons]
    exact storeAll_numstr (by unfold Ipv6Pton.store; cases st.rtime <;> rfl) ws

theorem read_copyOut_storeAll {st : Ipv6Pton} (later : st.rtime = true) (none : st.nrsep = 0)
    {ws : List Nat} (fits : st.nsep + ws.length ≤ 8) (dest : Nat → UInt8) :
    Memory.read ((storeAll st ws).copyOut (Memory.write dest 0 (List.replicate 16 0))) 0 16 =
      Memory.read st.ip 0 (2 * st.nsep) ++ List.replicate (16 - 2 * (st.nsep + ws.length)) 0 ++
        ws.flatMap groupBytes := by
  obtain ⟨nsep, ip, nrsep, bytes⟩ := storeAll_rip later ws
  rw [none, Nat.zero_add, Nat.mul_zero, Memory.read_zero, List.nil_append] at bytes
  rw [read_copyOut (by omega), nsep, ip, nrsep, none, Nat.zero_add, bytes]

/-- The groups before the `::` and the `::`: the groups are stored in `ip`, and the `::` is
marked. -/
theorem through_groupsText_sep {st : Ipv6Pton} (empty : st.numstr = []) (before : st.rtime = false)
    (none : st.nrsep = 0) {ws : List Nat} (small : ∀ w ∈ ws, w < 2 ^ 16)
    (room : st.nsep + ws.length < 8) :
    through (inetIpv6PtonBody dest) st (groupsText ws ++ [':', ':']) =
      some { storeAll st ws with numstr := [], rtime := true } := by
  cases ws with
  | nil =>
    -- `::` at the start: both `:` find no digits before them
    have first := inetIpv6PtonBody_colon_empty dest empty
      (by simp only [List.length_nil] at room; omega)
      (by simp [before])
    have second := @inetIpv6PtonBody_colon_empty dest { st with numstr := [], rtime := true } rfl
      (by show st.nsep + st.nrsep < 8; simp only [List.length_nil] at room; omega) (by simp [none])
    rw [groupsText, List.nil_append, through_cons_of_inl first, through_singleton second]
    rfl
  | cons w ws =>
    obtain ⟨rtime, -, nrsep, -⟩ := storeAll_ip before (w :: ws)
    have second := @inetIpv6PtonBody_colon_empty dest (storeAll st (w :: ws))
      (storeAll_numstr empty _) (by rw [storeAll_count]; omega) (by simp [rtime])
    rw [show groupsText (w :: ws) ++ [':', ':'] = groupsText (w :: ws) ++ [':'] ++ [':'] by simp,
      through_append (through_groupsText_colon dest empty (List.cons_ne_nil w ws) small
        (by omega)), through_singleton second]

end Ipv6

theorem inetIpv6Pton_groupsText {ws : List Nat} (small : ∀ w ∈ ws, w < 2 ^ 16)
    (eight : ws.length = 8) (dest ip rip : Nat → UInt8) :
    ∃ r, inetIpv6Pton (groupsText ws) dest ip rip = some r ∧ r.ret = 1 ∧
      Memory.read r.dest 0 16 = ws.flatMap groupBytes := by
  let st : Ipv6Pton := ⟨[], 0, 0, false, ip, rip⟩
  have none : st.nsep = 0 ∧ st.nrsep = 0 := ⟨rfl, rfl⟩
  obtain ⟨-, nsep, nrsep, bytes⟩ := @storeAll_ip st rfl ws
  rw [none.1, eight] at nsep
  rw [none.2] at nrsep
  rw [none.1, eight, Nat.mul_zero, Memory.read_zero, List.nil_append] at bytes
  have nonempty : ws ≠ [] := List.ne_nil_of_length_eq_add_one eight
  obtain ⟨r, parsed, ret, copied⟩ := @scan_groupsText_nul
    (Memory.write dest 0 (List.replicate 16 0)) st rfl ws nonempty small
    (by rw [none.1, none.2, eight]) (by rw [nsep, nrsep]; omega)
  refine ⟨r, parsed, ret, ?_⟩
  rw [copied, read_copyOut (by omega), nsep, nrsep, bytes]
  simp only [Nat.mul_zero, Memory.read_zero, List.append_nil, Nat.reduceAdd, Nat.reduceMul,
    Nat.sub_self, List.replicate_zero]

/-- After the `::`: the groups, or none, and the NUL. With no group the NUL stores a zero
group, so either way the groups after the `::` land at the end of `dest`. -/
theorem scan_after_sep {st : Ipv6Pton} (empty : st.numstr = []) (later : st.rtime = true)
    (none : st.nrsep = 0) {ws : List Nat} (small : ∀ w ∈ ws, w < 2 ^ 16)
    (short : st.nsep + ws.length < 8) (dest : Nat → UInt8) :
    ∃ r, scan (inetIpv6PtonBody (Memory.write dest 0 (List.replicate 16 0))) st
        (groupsText ws ++ ['\x00']) = some r ∧ r.ret = 1 ∧
      Memory.read r.dest 0 16 = Memory.read st.ip 0 (2 * st.nsep) ++
        List.replicate (16 - 2 * (st.nsep + ws.length)) 0 ++ ws.flatMap groupBytes := by
  cases ws with
  | nil =>
    have single : storeAll st [0] = st.store 0 := rfl
    obtain ⟨nsep, -, nrsep, -⟩ := storeAll_rip later [0]
    rw [single] at nsep nrsep
    have stop := @inetIpv6PtonBody_nul (Memory.write dest 0 (List.replicate 16 0)) st 0
      (by decide) (by rw [empty]; rfl) (by simp only [nsep, nrsep, List.length_singleton]; omega)
    refine ⟨_, scan_cons_of_inr stop [], rfl, ?_⟩
    simp only [List.length_nil] at short
    rw [← single, read_copyOut_storeAll later none (by rw [List.length_singleton]; omega)]
    -- the zero group stored at the NUL is two more zeros
    rw [List.flatMap_nil, List.append_nil, List.append_assoc,
      show [0].flatMap groupBytes = List.replicate 2 0 from rfl, List.replicate_append_replicate]
    congr 2
    rw [List.length_nil, List.length_singleton]
    omega
  | cons w ws =>
    simp only [List.length_cons] at short
    obtain ⟨nsep, -, nrsep, -⟩ := storeAll_rip later (w :: ws)
    obtain ⟨r, parsed, ret, copied⟩ := scan_groupsText_nul
      (Memory.write dest 0 (List.replicate 16 0)) empty (List.cons_ne_nil w ws) small
      (by rw [List.length_cons]; omega) (by simp only [nsep, nrsep, List.length_cons]; omega)
    refine ⟨r, parsed, ret, ?_⟩
    rw [copied, read_copyOut_storeAll later none (by rw [List.length_cons]; omega)]

theorem inetIpv6Pton_compressed {before after : List Nat}
    (small : ∀ w ∈ before ++ after, w < 2 ^ 16) (short : before.length + after.length < 8)
    (dest ip rip : Nat → UInt8) :
    ∃ r, inetIpv6Pton (groupsText before ++ ':' :: ':' :: groupsText after) dest ip rip = some r ∧
      r.ret = 1 ∧ Memory.read r.dest 0 16 = before.flatMap groupBytes ++
        List.replicate (16 - 2 * (before.length + after.length)) 0 ++ after.flatMap groupBytes := by
  let st : Ipv6Pton := ⟨[], 0, 0, false, ip, rip⟩
  obtain ⟨-, nsep, nrsep, bytes⟩ := @storeAll_ip st rfl before
  rw [show st.nsep = 0 from rfl, Nat.zero_add] at nsep
  rw [show st.nsep = 0 from rfl, Nat.mul_zero, Memory.read_zero, List.nil_append,
    Nat.zero_add] at bytes
  have read := through_groupsText_sep (Memory.write dest 0 (List.replicate 16 0))
    (show st.numstr = [] from rfl) rfl rfl (fun w mem => small w (List.mem_append_left _ mem))
    (show 0 + before.length < 8 by omega)
  obtain ⟨r, parsed, ret, copied⟩ := @scan_after_sep
    { storeAll st before with numstr := [], rtime := true } rfl rfl (nrsep.trans rfl) after
    (fun w mem => small w (List.mem_append_right _ mem)) (show (storeAll st before).nsep + _ < 8 by
      omega) dest
  have text : groupsText before ++ ':' :: ':' :: groupsText after ++ ['\x00'] =
      (groupsText before ++ [':', ':']) ++ (groupsText after ++ ['\x00']) := by
    simp
  refine ⟨r, by rw [inetIpv6Pton, text, scan_append read]; exact parsed, ret, ?_⟩
  rw [copied]
  show Memory.read (storeAll st before).ip 0 (2 * (storeAll st before).nsep) ++ _ ++ _ = _
  rw [nsep, bytes]

/-! ### Words and bytes -/

theorem word_lt (src : Nat → UInt8) (i : Nat) : word src i < 2 ^ 16 := by
  have high := (src (2 * i)).toNat_lt
  have low := (src (2 * i + 1)).toNat_lt
  rw [word]
  omega

theorem groupBytes_word (src : Nat → UInt8) (i : Nat) :
    groupBytes (word src i) = [src (2 * i), src (2 * i + 1)] := by
  have high := (src (2 * i)).toNat_lt
  have low := (src (2 * i + 1)).toNat_lt
  have mask : ∀ n : Nat, n &&& 0xff = n % 2 ^ 8 := fun n => Nat.and_two_pow_sub_one_eq_mod n 8
  rw [groupBytes, word, mask, mask, Nat.shiftRight_eq_div_pow,
    show ((src (2 * i)).toNat * 256 + (src (2 * i + 1)).toNat) / 2 ^ 8 % 2 ^ 8 =
      (src (2 * i)).toNat by omega,
    show ((src (2 * i)).toNat * 256 + (src (2 * i + 1)).toNat) % 2 ^ 8 =
      (src (2 * i + 1)).toNat by omega]
  simp

theorem flatMap_groupBytes_word (src : Nat → UInt8) : ∀ n offset : Nat,
    ((List.range' offset n).map (word src)).flatMap groupBytes =
      Memory.read src (2 * offset) (2 * n)
  | 0, _ => rfl
  | n + 1, offset => by
    rw [List.range'_succ, List.map_cons, List.flatMap_cons, groupBytes_word,
      flatMap_groupBytes_word src n (offset + 1), show 2 * (n + 1) = (n * 2 + 1) + 1 by omega,
      Memory.read_succ, Memory.read_succ, show 2 * offset + 1 + 1 = 2 * (offset + 1) by omega,
      show n * 2 = 2 * n by omega]
    rfl

theorem flatMap_groupBytes_zeros : ∀ count : Nat,
    (List.replicate count 0).flatMap groupBytes = List.replicate (2 * count) 0
  | 0 => rfl
  | count + 1 => by
    rw [List.replicate_succ, List.flatMap_cons, flatMap_groupBytes_zeros count,
      show groupBytes 0 = List.replicate 2 0 from rfl, List.replicate_append_replicate]
    congr 1
    omega

theorem inetIpv6Ntop_pton (src : Nat → UInt8) {size : Nat} (large : inet6Addrstrlen ≤ size) :
    ∃ text, inetNtop afInet6 src size = some text ∧
      ∀ dest ip rip : Nat → UInt8, ∃ d, inetPton afInet6 text dest ip rip = some (1, d) ∧
        Memory.read d 0 16 = Memory.read src 0 16 := by
  obtain ⟨ws, words⟩ : ∃ ws, (List.range 8).map (word src) = ws := ⟨_, rfl⟩
  have eight : ws.length = 8 := by
    rw [← words, List.length_map, List.length_range]
  have small : ∀ w ∈ ws, w < 2 ^ 16 := by
    intro w mem
    rw [← words] at mem
    obtain ⟨i, -, rfl⟩ := List.mem_map.mp mem
    exact word_lt src i
  have bytes : ws.flatMap groupBytes = Memory.read src 0 16 := by
    rw [← words, List.range_eq_range']
    exact flatMap_groupBytes_word src 8 0
  have found := zeroRun_spec (-1) 0 ws 0 (.inl rfl) rfl
  have printed : inetNtop afInet6 src size =
      some (ntopGroups (zeroRun (-1) 0 ws 0).1 (zeroRun (-1) 0 ws 0).2 ws 0) := by
    rw [inetNtop, if_neg (by decide), if_pos rfl, inetIpv6Ntop, if_neg (Nat.not_lt.mpr large),
      words]
  refine ⟨_, printed, fun dest ip rip => ?_⟩
  generalize zeroRun (-1) 0 ws 0 = run at found
  obtain ⟨maxentry, maxcount⟩ := run
  rcases found with none | ⟨e, entry, counted, within, zeros⟩
  · -- no zero group: all eight groups are printed
    rw [Prod.mk.injEq] at none
    rw [none.1, ntopGroups_none]
    obtain ⟨r, parsed, ret, copied⟩ := inetIpv6Pton_groupsText small eight dest ip rip
    refine ⟨r.dest, ?_, by rw [copied, bytes]⟩
    rw [inetPton, if_neg (by decide), if_pos rfl, parsed, ← ret]
    rfl
  · -- the run printed as `::`
    dsimp only at entry counted within zeros
    rw [eight] at within
    subst entry
    rw [ntopGroups_run eight counted within]
    have short : (ws.take e).length + (ws.drop (e + maxcount)).length < 8 := by
      rw [List.length_take, List.length_drop, eight]
      omega
    obtain ⟨r, parsed, ret, copied⟩ := inetIpv6Pton_compressed
      (fun w mem => small w (List.mem_append.mp mem |>.elim List.mem_of_mem_take
        List.mem_of_mem_drop)) short dest ip rip
    refine ⟨r.dest, ?_, ?_⟩
    · rw [inetPton, if_neg (by decide), if_pos rfl, parsed, ← ret]
      rfl
    -- the groups are those before the run, its zeros and those after it
    have split : ws = ws.take e ++ List.replicate maxcount 0 ++ ws.drop (e + maxcount) := by
      rw [← zeros, ← List.drop_drop, List.append_assoc, List.take_append_drop,
        List.take_append_drop]
    rw [copied, ← bytes]
    conv_rhs => rw [split]
    rw [List.flatMap_append, List.flatMap_append, flatMap_groupBytes_zeros, List.length_take,
      List.length_drop, eight]
    congr 3
    omega

theorem inetIpv6Ntop_pton_zero :
    ∃ text, inetNtop afInet6 (fun _ => 0) inet6Addrstrlen = some text ∧
      ∀ dest ip rip : Nat → UInt8, ∃ d, inetPton afInet6 text dest ip rip = some (1, d) ∧
        Memory.read d 0 16 = Memory.read (fun _ => 0) 0 16 :=
  inetIpv6Ntop_pton _ le_rfl

end TinyAra.Libc.Net
