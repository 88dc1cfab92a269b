/-
# Libc.Netdb.Hostfile -- one entry of the hosts file

`lib_parse_hostfile(stream, host, buf, buflen)` reads the next entry of the hosts file with
`fgetc`, through three helpers that each read one character past what they skip or copy:
`lib_skipspaces` skips white space other than the newline, `lib_skipline` skips through the
newline, and `lib_copystring` copies up to any white space. The caller copies the first
character of each field itself before `lib_copystring` copies the rest. The address is converted
with `inet_pton` into the start of `info->hi_data`; the name and the aliases follow it there. The
stream is the list of characters left in the file, and `hi_data` a memory of bytes, so that
what the fields point at can be read back.

* `libSkipspaces_rest_lt`, `libSkipline_rest_le`: the helpers only read on, so the loop over
  the lines of the file ends;
* `lib_parse_hostfile_misreads_entries`: a valid entry whose name has one character is
  returned as 0, the value of the end of the file, and an entry whose address is not an
  address is accepted, because `inet_pton` returns 0 and not a negative value for it.
-/
import TinyAra.Libc.Net.Inet
import TinyAra.Libc.Netdb.Dnsquery

namespace TinyAra.Libc.Netdb.Hostfile

variable {stream rest : List Char} {nread nread' : Nat}

set_option autoImplicit false

open TinyAra.Libc.Stdlib (isspace)
open TinyAra.Libc.Net (inetPton afInet afInet6)
open TinyAra.Libc.Netdb.Dnsquery (erange eagain)

/-- `EPIPE` (errno.h), returned negated at the end of the file. -/
def epipe : Int := 32

/-- The build: `CONFIG_NETDB_MAX_ALTNAMES`. -/
structure HostfileConfig where
  maxAltnames : Nat

/-- `sizeof(struct hostent_info_s)`: `MAX_ALTNAMES + 1` alias pointers, two address pointers and
one byte of `hi_data`, padded to the 4-byte pointers of the targets. -/
def HostfileConfig.sizeofInfo (cfg : HostfileConfig) : Nat := 4 * (cfg.maxAltnames + 4)

def sizeDec (n : Nat) : Nat := if n = 0 then 2 ^ 32 - 1 else n - 1

/-- `lib_isspace(c)`: white space other than the newline. -/
def libIsspace (c : Char) : Bool :=
  c == ' ' || c == '\t' || c == '\r' || c == '\x0c' || c == '\x0b'

/-! ## The helpers -/

/-- `lib_skipspaces(stream, &nread)`: the first character that is not white space other than
the newline, or `EOF` (`none`); with what is left of the stream and the count. -/
def libSkipspaces : List Char → Nat → Option Char × List Char × Nat
  | [], nread => (none, [], nread)
  | c :: cs, nread => if libIsspace c then libSkipspaces cs (nread + 1) else (some c, cs, nread + 1)

/-- `lib_skipline(stream, &nread)`: the newline that ends the line, or `EOF`. -/
def libSkipline : List Char → Nat → Option Char × List Char × Nat
  | [], nread => (none, [], nread)
  | c :: cs, nread => if c = '\n' then (some c, cs, nread + 1) else libSkipline cs (nread + 1)

/-- What `lib_copystring` returns: its value, the bytes it wrote from `ptr` on, the character
that ended the string (`none` for `EOF`), what is left of the stream, and the count. On
`-ERANGE` the terminator is not written, and the caller returns without reading it. -/
structure Copied where
  ret : Int
  written : List Char
  terminator : Option Char
  rest : List Char
  nread : Nat

/-- `lib_copystring(stream, ptr, &nread, buflen, &terminator)` with `nwritten` characters
written so far: the characters up to white space or `EOF`, then a NUL; 0 when none was
written. -/
def libCopystring (buflen : Nat) : List Char → Nat → Nat → Copied
  | [], nread, nwritten => ⟨if nwritten = 0 then 0 else nwritten + 1, ['\x00'], none, [], nread⟩
  | c :: cs, nread, nwritten =>
    if isspace c then
      ⟨if nwritten = 0 then 0 else nwritten + 1, ['\x00'], some c, cs, nread + 1⟩
    else if nwritten + 1 ≥ buflen then ⟨-erange, [c], none, cs, nread + 1⟩
    else
      let r := libCopystring buflen cs (nread + 1) (nwritten + 1)
      { r with written := c :: r.written }

theorem libSkipspaces_rest_lt {ch : Char}
    (read : libSkipspaces stream nread = (some ch, rest, nread')) :
    rest.length < stream.length := by
  induction stream generalizing nread with
  | nil => simp [libSkipspaces] at read
  | cons c cs ih =>
    rw [libSkipspaces] at read
    split_ifs at read with space
    · exact Nat.lt_succ_of_lt (ih read)
    · cases read
      exact Nat.lt_succ_self _

theorem libSkipline_rest_le (stream : List Char) (nread : Nat) :
    (libSkipline stream nread).2.1.length ≤ stream.length := by
  induction stream generalizing nread with
  | nil => simp [libSkipline]
  | cons c cs ih =>
    rw [libSkipline]
    split_ifs
    · exact Nat.le_succ _
    · exact Nat.le_succ_of_le (ih _)

/-- The `do ... while (ch == '\n')` loop that skips blank lines and `#` comments: the first
character of the entry, or `EOF` (`none`, for `-EPIPE`), with what is left and the count. -/
def libSkipLines (stream : List Char) (nread : Nat) : Option Char × List Char × Nat :=
  match read : libSkipspaces stream nread with
  | (none, rest, nread) => (none, rest, nread)
  | (some ch, rest, nread) =>
    have fewer := libSkipspaces_rest_lt read
    if ch = '#' then
      match skipped : libSkipline rest nread with
      | (none, rest', nread') => (none, rest', nread')
      | (some ch, rest', nread') =>
        have shorter : rest'.length < stream.length := by
          have kept := libSkipline_rest_le rest nread
          rw [skipped] at kept
          exact Nat.lt_of_le_of_lt kept fewer
        if ch = '\n' then libSkipLines rest' nread' else (some ch, rest', nread')
    else if ch = '\n' then libSkipLines rest nread else (some ch, rest, nread)
termination_by stream.length

/-! ## `lib_parse_hostfile` -/

/-- The fields of `struct hostent` the parser sets: `h_name` as an offset into `hi_data`, whether
`h_aliases` and `h_addr_list` point at the arrays of `info`, `h_addrtype` and `h_length`. -/
structure Hostent where
  hName : Option Nat
  hAliases : Bool
  hAddrtype : Nat
  hLength : Nat
  hAddrList : Bool

/-- `struct hostent_info_s` at the start of `buf`: the alias pointers as offsets into `hi_data`,
`hi_addrlist[0]`, and the bytes from `hi_data` on. -/
structure HostentInfo where
  hiAliases : List (Option Nat)
  hiAddrlist : Option Nat
  hiData : Nat → UInt8

/-- What a call leaves: its value, what is left of the stream, `*host` and the start of `buf`. -/
structure Parsed where
  ret : Int
  rest : List Char
  host : Hostent
  info : HostentInfo

/-- The locals once the address is stored: the stream, `nread`, `ptr` as an offset into
`hi_data`, `buflen`, `*host` and `*info`. -/
structure Fields where
  rest : List Char
  nread : Nat
  ptr : Nat
  buflen : Nat
  host : Hostent
  info : HostentInfo

def Fields.done (st : Fields) (ret : Int) : Parsed := ⟨ret, st.rest, st.host, st.info⟩

/-- `lib_isspace` of the character that ended a string, `EOF` not being white space. -/
def endedBySpace (terminator : Option Char) : Bool := (terminator.map libIsspace).getD false

/-- The first character of a field at `ptr`, `*ptr++ = ch; buflen--`, and the rest of it by
`lib_copystring`, with the bytes it wrote stored from `ptr + 1` on. -/
def copyField (st : Fields) (ch : Char) (rest : List Char) (nread : Nat) : Copied × Fields :=
  let buflen := sizeDec st.buflen
  let c := libCopystring buflen rest nread 0
  let data := Memory.write st.info.hiData st.ptr ((ch :: c.written).map Char.toUInt8)
  (c, { st with
    rest := c.rest
    nread := c.nread
    ptr := st.ptr + 1
    buflen := buflen
    info := { st.info with hiData := data } })

/-- The loop over the aliases, alias `i` on, `left` more at most, `CONFIG_NETDB_MAX_ALTNAMES` in
all; past the last one the rest of the line is skipped. -/
def parseAliases (i : Nat) : Nat → Fields → Parsed
  | 0, st =>
    let (_, rest, nread) := libSkipline st.rest st.nread
    ⟨nread, rest, st.host, st.info⟩
  | left + 1, st =>
    match libSkipspaces st.rest st.nread with
    | (none, rest, nread) => ⟨nread, rest, st.host, st.info⟩
    | (some ch, rest, nread) =>
      if ch = '\n' then ⟨nread, rest, st.host, st.info⟩
      else
        let start := st.ptr
        let (c, st) := copyField st ch rest nread
        if c.ret < 0 then st.done c.ret
        -- an alias of one character ends the aliases, and the call succeeds
        else if c.ret = 0 then st.done st.nread
        else
          let st := { st with
            host := { st.host with hAliases := true }
            info := { st.info with hiAliases := st.info.hiAliases.set i (some start) } }
          if !endedBySpace c.terminator then st.done st.nread
          else
            parseAliases (i + 1) left
              { st with ptr := st.ptr + c.ret.toNat, buflen := st.buflen - c.ret.toNat }

/-- The host name and then the aliases, the address being stored. -/
def parseName (cfg : HostfileConfig) (st : Fields) : Parsed :=
  match libSkipspaces st.rest st.nread with
  | (none, rest, _) => ⟨-epipe, rest, st.host, st.info⟩
  | (some ch, rest, nread) =>
    if ch = '\n' then ⟨-eagain, rest, st.host, st.info⟩
    else
      let start := st.ptr
      let (c, st) := copyField st ch rest nread
      -- a name of one character returns 0
      if c.ret ≤ 0 then st.done c.ret
      else
        let st := { st with host := { st.host with hName := some start } }
        if !endedBySpace c.terminator then st.done st.nread
        else
          parseAliases 0 cfg.maxAltnames
            { st with ptr := st.ptr + c.ret.toNat, buflen := st.buflen - c.ret.toNat }

/-- The family and the `addrlen` taken for `addrstring`: IPv6 when it holds a colon
(`strchr(addrstring, ':') != NULL`). -/
def addrFamily (addrstring : List Char) : Nat × Nat :=
  if ':' ∈ addrstring then (afInet6, 16) else (afInet, 4)

/-- `lib_parse_hostfile(stream, host, buf, buflen)`, with the caller's `*host` and start of
`buf`, and what the stack holds in the arrays of `inet_ipv6_pton`; `none` if `inet_pton` read
past the NUL of `addrstring`. -/
def libParseHostfile (cfg : HostfileConfig) (stream : List Char) (host : Hostent)
    (info : HostentInfo) (buflen : Nat) (ip rip : Nat → UInt8) : Option Parsed :=
  if buflen ≤ cfg.sizeofInfo then some ⟨-erange, stream, host, info⟩
  else
    let buflen := buflen - (cfg.sizeofInfo - 1)
    -- the two `memset`s; the one of `info` also clears `hi_data[0]` and the padding after it
    let host : Hostent := ⟨none, false, 0, 0, false⟩
    let info : HostentInfo := ⟨List.replicate (cfg.maxAltnames + 1) none, none,
      Memory.write info.hiData 0 (List.replicate 4 0)⟩
    match libSkipLines stream 0 with
    | (none, rest, _) => some ⟨-epipe, rest, host, info⟩
    | (some ch, rest, nread) =>
      -- `addrstring[0] = ch`, and the rest of the address after it
      let c := libCopystring 47 rest nread 0
      if c.ret ≤ 0 then some ⟨c.ret, c.rest, host, info⟩
      else if !endedBySpace c.terminator then some ⟨-eagain, c.rest, host, info⟩
      else
        let addrstring := (ch :: c.written).takeWhile (· ≠ '\x00')
        let (af, addrlen) := addrFamily addrstring
        if buflen < addrlen then some ⟨-erange, c.rest, host, info⟩
        else
          (inetPton af addrstring info.hiData ip rip).map fun (ret, data) =>
            let info := { info with hiData := data }
            -- only a negative value is taken as a failed conversion
            if ret < 0 then ⟨-eagain, (libSkipline c.rest c.nread).2.1, host, info⟩
            else
              parseName cfg ⟨c.rest, c.nread, addrlen, buflen - addrlen,
                { host with hAddrtype := af, hAddrList := true, hLength := addrlen },
                { info with hiAddrlist := some 0 }⟩

theorem lib_parse_hostfile_misreads_entries :
    -- a one-character name: 0, the value of the end of the file, with the next line unread
    (libParseHostfile ⟨4⟩ "1.2.3.4 a\nnext".toList ⟨none, false, 0, 0, false⟩
        ⟨[], none, fun _ => 0⟩ 100 (fun _ => 0) (fun _ => 0)).map
      (fun r => (r.ret, r.rest)) = some (0, "next".toList) ∧
    -- an address that is not one: accepted as an IPv4 entry
    (libParseHostfile ⟨4⟩ "xy host\nnext".toList ⟨none, false, 0, 0, false⟩
        ⟨[], none, fun _ => 0⟩ 100 (fun _ => 0) (fun _ => 0)).map
      (fun r => (r.ret, r.host.hAddrtype, r.host.hName)) = some (8, afInet, some 4) ∧
    -- a one-character alias: no alias, and the call stops before the end of the line
    (libParseHostfile ⟨4⟩ "1.2.3.4 host b c\nnext".toList ⟨none, false, 0, 0, false⟩
        ⟨[], none, fun _ => 0⟩ 100 (fun _ => 0) (fun _ => 0)).map
      (fun r => (r.ret, r.rest, r.host.hAliases)) = some (15, "c\nnext".toList, false) := by
  decide +kernel

/-! ## What a call reads -/

end TinyAra.Libc.Netdb.Hostfile
