/-
# Libc.Netdb.Dnscache -- the resolver's cache of answers

`dns_save_answer(hostname, addr, addrlen)` writes the name and the address into the slot
`g_dns_head` of the circular array `g_dns_cache` and moves the head on, first moving
`g_dns_tail` on when the array is full.  `dns_find_answer(hostname, addr, addrlen)` walks the
slots from `g_dns_tail` to `g_dns_head`, moves the tail past every entry it finds expired, and
returns the first entry whose name matches. Both take the time with
`clock_settime(DNS_CLOCK, &now)` on an uninitialised `now`: the time they use is whatever the
stack held, an input of each call here, and for `CLOCK_REALTIME` they set the clock to it, while
`CLOCK_MONOTONIC` is refused and then nothing expires. The array is a `RingBuffer.Buf` of
`CONFIG_NETDB_DNSCLIENT_ENTRIES` slots. A run is a list of calls, each with its stack's `now` and
the time since power up `bias`; the clock advances between calls as `bias` grows.

* `dnsSaveAnswer_contents`: a save adds its entry after those held, and drops the oldest when
  `ENTRIES - 1` are held;
* `dnsFindAnswer_monotonic`: with `CLOCK_MONOTONIC` a find returns the oldest entry whose name
  matches, however old it is, and changes nothing;
* `dnsSaveAnswer_valid`: a save keeps the indices in the ring, so that fewer than `ENTRIES`
  entries are held; `dnsSaveAnswer_clock`: a realtime build's save sets the realtime clock to
  its stack's `now`;
* `dns_cache_returns_first_save`: so a name saved twice is found with its first address, and the
  realtime clock reads whatever a save's stack held.
-/
import TinyAra.Libc.Netdb.Dnsquery
import TinyAra.Lib.RingBuffer
import TinyAra.Lib.CString
import TinyAra.Kernel.Clock

namespace TinyAra.Libc.Netdb.Dnscache

set_option autoImplicit false

open CString RingBuffer
open TinyAra.Kernel.Clock (Timespec ClockId clockSettime clockGettimeRealtime
  clockGettimeRealtime_clockSettime)
open TinyAra.Libc.Netdb.Dnsquery (SockAddr afInet sizeofSockaddrIn sizeofSockaddrIn6 ok erange
  eagain)

def enoent : Int := 2

/-- The build: `CONFIG_NETDB_DNSCLIENT_ENTRIES`, `_NAMESIZE` and `_LIFESEC`, and whether
`DNS_CLOCK` is `CLOCK_MONOTONIC` (`CONFIG_CLOCK_MONOTONIC`). The cache exists for
`ENTRIES > 0`, and the `uint8_t` indices reach every slot of the Kconfig range `0 .. 255`. -/
structure CacheConfig where
  entries : Nat
  namesize : Nat
  lifesec : Nat
  monotonic : Bool
  entriesPos : 0 < entries
  entriesLe : entries ≤ 255

def CacheConfig.dnsClock (cfg : CacheConfig) : ClockId :=
  if cfg.monotonic then .monotonic else .realtime

/-- `struct dns_cache_s`: the creation time, the `NAMESIZE` characters `strncpy` wrote of the
name, and the address `memcpy` copied, taken whole. -/
structure Entry where
  ctime : Nat
  name : List Char
  addr : SockAddr
  deriving DecidableEq, Repr

/-- What the two calls share: `g_dns_cache` with `g_dns_head` and `g_dns_tail`, and the realtime
clock's `g_basetime`. -/
structure State where
  cache : Buf Entry
  basetime : Timespec

/-- The state at power up: the zeroed static array with both indices at zero. -/
def initial (cfg : CacheConfig) (basetime : Timespec) : State :=
  ⟨RingBuffer.empty (fun _ => ⟨0, [], ⟨0, 0, []⟩⟩) cfg.entries, basetime⟩

def entryOf (cfg : CacheConfig) (now : Timespec) (hostname : List Char) (addr : SockAddr) :
    Entry :=
  -- `entry->ctime = (time_t)now.tv_sec`
  ⟨now.tvSec, strncpy hostname cfg.namesize, addr⟩

/-- `clock_settime(DNS_CLOCK, &now)` on the uninitialised `now`, which both calls make when
entries expire: what it returns, and `g_basetime` after it. -/
def dnsClockSet (cfg : CacheConfig) (now bias basetime : Timespec) : Int × Timespec :=
  if 0 < cfg.lifesec then clockSettime cfg.dnsClock now bias basetime else (0, basetime)

/-- `dns_save_answer(hostname, addr, addrlen)` with its stack's `now` and `bias` since power up;
`none` when its `assert` on the length of the name halts the system. -/
def dnsSaveAnswer (cfg : CacheConfig) (now bias : Timespec) (hostname : List Char)
    (addr : SockAddr) (st : State) : Option State :=
  if strlen hostname < cfg.namesize then
    some ⟨push st.cache (entryOf cfg now hostname addr), (dnsClockSet cfg now bias st.basetime).2⟩
  else none

/-- `inlen` of `dns_find_answer`, both families built: the size of the entry's address. -/
def inlen (addr : SockAddr) : Nat :=
  if addr.family = afInet then sizeofSockaddrIn else sizeofSockaddrIn6

/-- The loop of `dns_find_answer` over the slots `ndx` it visits, with the time `now.tv_sec` and
what `clock_settime` returned: the call's value, the address and `*addrlen` it writes on a match,
and `g_dns_tail`. -/
def findScan (cfg : CacheConfig) (hostname : List Char) (addrlen now : Nat) (ret : Int)
    (cache : Buf Entry) : List Nat → Nat → Int × Option (SockAddr × Nat) × Nat
  | [], tail => (-enoent, none, tail)
  | ndx :: rest, tail =>
    let entry := cache.buffer ndx
    -- `elapsed = (uint32_t)now.tv_sec - (uint32_t)entry->ctime`
    let elapsed := (((now : Int) - entry.ctime) % 2 ^ 32).toNat
    if 0 < cfg.lifesec ∧ 0 ≤ ret ∧ cfg.lifesec < elapsed then
      -- expired: `g_dns_tail = next`
      findScan cfg hostname addrlen now ret cache rest (next cache.size ndx)
    else if strncmp hostname entry.name cfg.namesize = 0 then
      if addrlen < inlen entry.addr then (-erange, none, tail)
      else (ok, some (entry.addr, inlen entry.addr), tail)
    else findScan cfg hostname addrlen now ret cache rest tail

/-- `dns_find_answer(hostname, addr, addrlen)` with its stack's `now` and `bias` since power up,
where `initialized` is what `dns_initialize` returns: the call's value with the address and
`*addrlen` it writes, and the state after. -/
def dnsFindAnswer (cfg : CacheConfig) (initialized : Bool) (now bias : Timespec)
    (hostname : List Char) (addrlen : Nat) (st : State) :
    (Int × Option (SockAddr × Nat)) × State :=
  if !initialized then ((-eagain, none), st)
  else
    let set := dnsClockSet cfg now bias st.basetime
    let scan := findScan cfg hostname addrlen now.tvSec set.1 st.cache (indices st.cache)
      st.cache.tail
    ((scan.1, scan.2.1), ⟨{ st.cache with tail := scan.2.2 }, set.2⟩)

/-- A call of the cache, with its stack's `now` and the time since power up `bias`. -/
inductive Call where
  | save (now bias : Timespec) (hostname : List Char) (addr : SockAddr)
  | find (now bias : Timespec) (hostname : List Char) (addrlen : Nat)

/-- A run of calls: what each find returned, and the state after; `none` when an `assert` halts
the system. -/
def run (cfg : CacheConfig) (initialized : Bool) :
    List Call → State → Option (List (Int × Option (SockAddr × Nat)) × State)
  | [], st => some ([], st)
  | .save now bias hostname addr :: calls, st =>
    (dnsSaveAnswer cfg now bias hostname addr st).bind (run cfg initialized calls)
  | .find now bias hostname addrlen :: calls, st =>
    let found := dnsFindAnswer cfg initialized now bias hostname addrlen st
    (run cfg initialized calls found.2).map fun r => (found.1 :: r.1, r.2)

/-! ## The ring stays a ring of `ENTRIES` slots -/

/-- The state both calls keep: a ring of `ENTRIES` slots whose indices lie in it. -/
structure State.Valid (cfg : CacheConfig) (st : State) : Prop where
  size : st.cache.size = cfg.entries
  ring : RingBuffer.Valid st.cache

variable {cfg : CacheConfig} {st st' : State}
variable {now bias : Timespec} {hostname : List Char} {addr : SockAddr}
  {rs : List (Int × Option (SockAddr × Nat))}

theorem State.Valid.initial (basetime : Timespec) : (initial cfg basetime).Valid cfg :=
  ⟨rfl, RingBuffer.Valid.empty _ cfg.entriesPos⟩

theorem dnsSaveAnswer_inv
    (saved : dnsSaveAnswer cfg now bias hostname addr st = some st') :
    strlen hostname < cfg.namesize ∧
      st' = ⟨push st.cache (entryOf cfg now hostname addr),
        (dnsClockSet cfg now bias st.basetime).2⟩ := by
  unfold dnsSaveAnswer at saved
  split_ifs at saved with fits
  exact ⟨fits, (Option.some.inj saved).symm⟩

theorem dnsSaveAnswer_valid
    (valid : st.Valid cfg) (saved : dnsSaveAnswer cfg now bias hostname addr st = some st') :
    st'.Valid cfg := by
  obtain ⟨-, rfl⟩ := dnsSaveAnswer_inv saved
  exact ⟨by simp [valid.size], valid.ring.push _⟩

/-! ## What a save holds -/

theorem dnsSaveAnswer_contents
    (valid : st.Valid cfg) (two : 2 ≤ cfg.entries)
    (saved : dnsSaveAnswer cfg now bias hostname addr st = some st') :
    contents st'.cache =
      (if (contents st.cache).length + 1 = cfg.entries then (contents st.cache).tail
        else contents st.cache) ++ [entryOf cfg now hostname addr] := by
  obtain ⟨-, rfl⟩ := dnsSaveAnswer_inv saved
  dsimp only
  rw [contents_push valid.ring (valid.size ▸ two), length_contents, valid.size]

/-! ## Finding without expiry -/

/-- A find that expires nothing: the first entry, oldest first, whose name matches. -/
def lookup (cfg : CacheConfig) (hostname : List Char) (addrlen : Nat) :
    List Entry → Int × Option (SockAddr × Nat)
  | [] => (-enoent, none)
  | e :: rest =>
    if strncmp hostname e.name cfg.namesize = 0 then
      if addrlen < inlen e.addr then (-erange, none) else (ok, some (e.addr, inlen e.addr))
    else lookup cfg hostname addrlen rest

/-- When `clock_settime` failed, or entries never expire, the scan is a lookup and leaves the
tail where it was. -/
theorem findScan_no_expiry {ret : Int} (kept : ¬(0 < cfg.lifesec ∧ 0 ≤ ret))
    (hostname : List Char) (addrlen now : Nat) (cache : Buf Entry) (idxs : List Nat)
    (tail : Nat) :
    findScan cfg hostname addrlen now ret cache idxs tail =
      ((lookup cfg hostname addrlen (idxs.map cache.buffer)).1,
        (lookup cfg hostname addrlen (idxs.map cache.buffer)).2, tail) := by
  induction idxs with
  | nil => rfl
  | cons ndx rest ih =>
    have fresh : ¬(0 < cfg.lifesec ∧ 0 ≤ ret ∧
        cfg.lifesec < (((now : Int) - (cache.buffer ndx).ctime) % 2 ^ 32).toNat) :=
      fun ⟨positive, nonneg, _⟩ => kept ⟨positive, nonneg⟩
    rw [findScan, List.map_cons, lookup, if_neg fresh]
    split_ifs
    · rfl
    · rfl
    · exact ih

theorem dnsClockSet_monotonic (monotonic : cfg.monotonic = true) (now bias basetime : Timespec) :
    (dnsClockSet cfg now bias basetime).2 = basetime ∧
      ¬(0 < cfg.lifesec ∧ 0 ≤ (dnsClockSet cfg now bias basetime).1) := by
  unfold dnsClockSet
  by_cases positive : 0 < cfg.lifesec
  · rw [if_pos positive, CacheConfig.dnsClock, if_pos monotonic]
    exact ⟨rfl, fun ⟨_, nonneg⟩ => absurd nonneg (show ¬(0 : Int) ≤ -1 by decide)⟩
  · rw [if_neg positive]
    exact ⟨rfl, fun ⟨expiring, _⟩ => positive expiring⟩

theorem dnsFindAnswer_monotonic (monotonic : cfg.monotonic = true) (now bias : Timespec)
    (hostname : List Char) (addrlen : Nat) (st : State) :
    dnsFindAnswer cfg true now bias hostname addrlen st =
      (lookup cfg hostname addrlen (contents st.cache), st) := by
  obtain ⟨kept, fresh⟩ := dnsClockSet_monotonic monotonic now bias st.basetime
  rw [dnsFindAnswer, if_neg (by decide)]
  dsimp only
  rw [findScan_no_expiry fresh, kept, ← contents_eq_map_indices]

/-! ## The clock -/

theorem dnsSaveAnswer_clock (realtime : cfg.monotonic = false) (positive : 0 < cfg.lifesec)
    (held : now.Valid) (since : bias.Valid)
    (saved : dnsSaveAnswer cfg now bias hostname addr st = some st') :
    clockGettimeRealtime bias st'.basetime = now := by
  obtain ⟨-, rfl⟩ := dnsSaveAnswer_inv saved
  dsimp only
  rw [dnsClockSet, if_pos positive, CacheConfig.dnsClock, if_neg (by simp [realtime])]
  exact clockGettimeRealtime_clockSettime held since st.basetime

/-! ## A name saved twice -/

theorem inlen_le (addr : SockAddr) : inlen addr ≤ sizeofSockaddrIn6 := by
  unfold inlen
  split <;> decide

/-- Against a cache of the latest answers that keeps every clock: in a build with
`CLOCK_MONOTONIC` and three slots or more, a name saved twice is found with its first address,
whatever the times of the three calls; and in a realtime build a save sets the realtime clock to
whatever its stack held. -/
theorem dns_cache_returns_first_save :
    (∀ (cfg : CacheConfig) (basetime : Timespec) (hostname : List Char) (a b : SockAddr)
        (now₁ now₂ now₃ bias₁ bias₂ bias₃ : Timespec) (addrlen : Nat),
      cfg.monotonic = true → 3 ≤ cfg.entries → strlen hostname < cfg.namesize →
      sizeofSockaddrIn6 ≤ addrlen →
      (run cfg true [.save now₁ bias₁ hostname a, .save now₂ bias₂ hostname b,
        .find now₃ bias₃ hostname addrlen] (initial cfg basetime)).map Prod.fst =
        some [(ok, some (a, inlen a))]) ∧
    (∀ (cfg : CacheConfig) (st st' : State) (now bias : Timespec) (hostname : List Char)
        (addr : SockAddr),
      cfg.monotonic = false → 0 < cfg.lifesec → now.Valid → bias.Valid →
      dnsSaveAnswer cfg now bias hostname addr st = some st' →
      clockGettimeRealtime bias st'.basetime = now) := by
  refine ⟨fun cfg basetime hostname a b now₁ now₂ now₃ bias₁ bias₂ bias₃ addrlen monotonic three
    fits large => ?_, fun cfg st st' now bias hostname addr realtime positive held since saved =>
      dnsSaveAnswer_clock realtime positive held since saved⟩
  obtain ⟨s₁, saved₁⟩ : ∃ s₁, dnsSaveAnswer cfg now₁ bias₁ hostname a (initial cfg basetime) =
      some s₁ := ⟨_, by rw [dnsSaveAnswer, if_pos fits]⟩
  obtain ⟨s₂, saved₂⟩ : ∃ s₂, dnsSaveAnswer cfg now₂ bias₂ hostname b s₁ = some s₂ :=
    ⟨_, by rw [dnsSaveAnswer, if_pos fits]⟩
  have valid : (initial cfg basetime).Valid cfg := State.Valid.initial basetime
  -- neither save fills the ring, so both entries are held, the first one first
  have held₁ : contents s₁.cache = [entryOf cfg now₁ hostname a] := by
    rw [dnsSaveAnswer_contents valid (by omega) saved₁, initial, contents_empty, List.length_nil,
      if_neg (by omega), List.nil_append]
  have held₂ : contents s₂.cache = [entryOf cfg now₁ hostname a, entryOf cfg now₂ hostname b] := by
    rw [dnsSaveAnswer_contents (dnsSaveAnswer_valid valid saved₁) (by omega) saved₂, held₁,
      List.length_singleton, if_neg (by omega), List.singleton_append]
  -- the first entry matches, and its address fits
  have matched : strncmp hostname (entryOf cfg now₁ hostname a).name cfg.namesize = 0 :=
    strncmp_strncpy hostname fits
  have room : ¬addrlen < inlen (entryOf cfg now₁ hostname a).addr :=
    Nat.not_lt.mpr (Nat.le_trans (inlen_le a) large)
  have found : lookup cfg hostname addrlen (contents s₂.cache) = (ok, some (a, inlen a)) := by
    rw [held₂, lookup, if_pos matched, if_neg room]
    rfl
  simp only [run, saved₁, saved₂, Option.bind_some, dnsFindAnswer_monotonic monotonic, found,
    Option.map_some]

end TinyAra.Libc.Netdb.Dnscache
