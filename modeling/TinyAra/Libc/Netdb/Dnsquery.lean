/-
# Libc.Netdb.Dnsquery -- the resolver's query and the parse of its reply

`dns_send_query` writes a query for a host name with the next sequence number as its ID;
`dns_recv_response` then receives a datagram into the stack array `buffer` and walks it with
raw pointers: the RCODE in `flags2`, the answer count, the question name (`dns_parse_name`),
and the answer records until one is an address of the asked family.

The received bytes are the first `n` of `buffer`; every other byte it reads -- the rest of
`buffer`, and past its end -- is whatever the stack held, so the parse is modelled over that
stack (`recvBuffer`).  `dns_parse_name` loops until it meets a zero byte, which garbage may
never hold: its loop, and so the parse, runs for a given fuel and is `none` when that runs
out.  `recv` and `sendto` failures are an input (`received`) and not modelled respectively.

* `dns_reply_not_checked_against_query`: the reply's ID and first flag byte (with its QR bit)
  are never read, so a reply is accepted or refused the same whatever ID it carries;
* `dns_query_callback` is modelled with what `dns_send_query` and `dns_recv_response` return as
  inputs (`send`, `recv`): `dnsQueryCallback_other_family` shows that with IPv4 built a
  nameserver of any other family is not asked at all.
-/
import Mathlib.Data.List.Basic

namespace TinyAra.Libc.Netdb.Dnsquery

set_option autoImplicit false

/-- `OK`, and `ERANGE`, `EPROTO` and `EADDRNOTAVAIL` (errno.h), returned negated. -/
def ok : Int := 0
def erange : Int := 34
def eproto : Int := 71
def eaddrnotavail : Int := 99

/-- `RECV_BUFFER_SIZE`, that is `CONFIG_NETDB_DNSCLIENT_MAXRESPONSE`, 96 by default. -/
def recvBufferSize : Nat := 96

def dnsFlag1Response : UInt8 := 0x80
def dnsFlag1Rd : UInt8 := 0x01
def dnsFlag2ErrMask : UInt8 := 0x0f
def dnsRectypeA : Nat := 1
def dnsRectypeAaaa : Nat := 28
def dnsClassIn : Nat := 1

/-- `AF_INET` and `AF_INET6` (sock_internal.h), and the sizes of `struct sockaddr_in` and
`struct sockaddr_in6`. -/
def afInet : Nat := 2
def afInet6 : Nat := 3
def sizeofSockaddrIn : Nat := 16
def sizeofSockaddrIn6 : Nat := 24

/-- The address families built in: `CONFIG_NET_IPv4` and `CONFIG_NET_IPv6`. -/
structure Config where
  netIpv4 : Bool
  netIpv6 : Bool

/-- The fields of `struct sockaddr_in` or `struct sockaddr_in6` that `dns_recv_response`
writes: the family, the port and the address bytes. -/
structure SockAddr where
  family : Nat
  port : Nat
  addr : List UInt8
  deriving DecidableEq, Repr

/-! ## The query -/

/-- The name loop of `dns_send_query`: each run of `name` up to a `.` or its end, after its
length byte. -/
def dnsQueryName (name : List UInt8) : List UInt8 :=
  (name.splitOn 46).flatMap fun label => label.length.toUInt8 :: label

/-- `dns_send_query(sd, name, uaddr, rectype)` with `g_seqno` at `gSeqno`: the datagram it
sends and `g_seqno` after it. The ID is `htons(seqno)`, the 8-bit sequence number in network
order. -/
def dnsSendQuery (gSeqno : UInt8) (name : List UInt8) (rectype : Nat) : List UInt8 × UInt8 :=
  let header : List UInt8 := [0, gSeqno, dnsFlag1Rd, 0, 0, 1, 0, 0, 0, 0, 0, 0]
  (header ++ dnsQueryName name ++
      [0, (rectype / 256).toUInt8, (rectype % 256).toUInt8, 0, dnsClassIn.toUInt8],
    gSeqno + 1)

/-! ## The reply -/

/-- The stack from `buffer` on after `recv` put `datagram` there: its first
`RECV_BUFFER_SIZE` bytes, then what the stack held. -/
def recvBuffer (stack : Nat → UInt8) (datagram : List UInt8) : Nat → UInt8 :=
  fun i =>
    if h : i < (datagram.take recvBufferSize).length then (datagram.take recvBufferSize)[i]
    else stack i

/-- A 16-bit field in network order, as `htons` reads it (and as a field compared with an
`HTONS` constant is compared). -/
def be16 (mem : Nat → UInt8) (off : Nat) : Nat :=
  (mem off).toNat * 256 + (mem (off + 1)).toNat

/-- `dns_parse_name(query)` for `fuel` rounds of its loop: a round skips a length byte and that
many bytes, and the loop ends when the byte after them is zero; it returns the offset past that
byte. -/
def dnsParseName (mem : Nat → UInt8) : Nat → Nat → Option Nat
  | 0, _ => none
  | fuel + 1, query =>
    let next := query + 1 + (mem query).toNat
    if mem next != 0 then dnsParseName mem fuel next else some (next + 1)

/-- The name that starts an answer record at `nameptr`, skipped: a compressed name is two bytes,
and a plain one is walked by `dns_parse_name`. -/
def dnsSkipName (mem : Nat → UInt8) (fuel nameptr : Nat) : Option Nat :=
  if mem nameptr &&& 0xc0 != 0 then some (nameptr + 2) else dnsParseName mem fuel nameptr

/-- The answer loop of `dns_recv_response` over `nanswers` records from `nameptr`: its return
value, and the address and `*addrlen` it stores. -/
def dnsAnswers (cfg : Config) (fuel : Nat) (mem : Nat → UInt8) (addrlen : Nat) :
    Nat → Nat → Option (Int × Option (SockAddr × Nat))
  | 0, _ => some (-eaddrnotavail, none)
  | nanswers + 1, nameptr => do
    let nameptr ← dnsSkipName mem fuel nameptr
    let ansType := be16 mem nameptr
    let ansClass := be16 mem (nameptr + 2)
    let ansLen := be16 mem (nameptr + 8)
    if cfg.netIpv4 && ansType == dnsRectypeA && ansClass == dnsClassIn && ansLen == 4 then
      if sizeofSockaddrIn ≤ addrlen then
        some (ok, some (⟨afInet, 0, (List.range 4).map fun i => mem (nameptr + 10 + i)⟩,
          sizeofSockaddrIn))
      else some (-erange, none)
    else if cfg.netIpv6 && ansType == dnsRectypeAaaa && ansClass == dnsClassIn && ansLen == 16 then
      if sizeofSockaddrIn6 ≤ addrlen then
        -- `inaddr->sin6_family = AF_INET`, as the source has it
        some (ok, some (⟨afInet, 0, (List.range 16).map fun i => mem (nameptr + 10 + i)⟩,
          sizeofSockaddrIn6))
      else some (-erange, none)
    else dnsAnswers cfg fuel mem addrlen nanswers (nameptr + 10 + ansLen)

/-- `dns_recv_response(sd, addr, addrlen)` with `*addrlen` at `addrlen`, where `recv` returned
`received` over the stack `stack`: the return value, and what it stores in `*addr` and
`*addrlen`. -/
def dnsRecvResponse (cfg : Config) (fuel : Nat) (stack : Nat → UInt8)
    (received : Except Nat (List UInt8)) (addrlen : Nat) : Option (Int × Option (SockAddr × Nat)) :=
  match received with
  | .error errcode => some (-errcode, none)
  | .ok datagram =>
    let buffer := recvBuffer stack datagram
    if buffer 3 &&& dnsFlag2ErrMask != 0 then some (-eproto, none)
    else do
      -- `nanswers` is a `uint8_t`: it keeps the low byte of the count
      let nanswers := (buffer 7).toNat
      let nameptr ← dnsParseName buffer fuel 12
      dnsAnswers cfg fuel buffer addrlen nanswers (nameptr + 4)

/-! ## A reply to no query -/

/-- A datagram that answers no query: its QR bit is clear, so it is itself a query; its ID is
`0xffff`, while `dns_send_query` writes IDs whose high byte is zero; and after a one-label
question it carries one A record, for 10.0.0.1, whose name points back at the question. -/
def foreignReply : List UInt8 :=
  [0xff, 0xff, 0, 0, 0, 1, 0, 1, 0, 0, 0, 0,
    1, 120, 0, 0, 1, 0, 1,
    0xc0, 12, 0, 1, 0, 1, 0, 0, 0, 0, 0, 4, 10, 0, 0, 1]

theorem dns_reply_not_checked_against_query (netIpv6 : Bool) (gSeqno : UInt8)
    (host : List UInt8) (stack : Nat → UInt8) (fuel : Nat) :
    foreignReply.take 2 ≠ (dnsSendQuery gSeqno host dnsRectypeA).1.take 2 ∧
      foreignReply.getD 2 0 &&& dnsFlag1Response = 0 ∧
      foreignReply.length ≤ recvBufferSize ∧
      dnsRecvResponse ⟨true, netIpv6⟩ (fuel + 1) stack (.ok foreignReply) sizeofSockaddrIn =
        some (ok, some (⟨afInet, 0, [10, 0, 0, 1]⟩, sizeofSockaddrIn)) ∧
      dnsRecvResponse ⟨true, netIpv6⟩ (fuel + 1) (fun _ => 0) (.ok []) sizeofSockaddrIn ≠
        dnsRecvResponse ⟨true, netIpv6⟩ (fuel + 1) (fun i => if i = 3 then 1 else 0) (.ok [])
          sizeofSockaddrIn := by
  refine ⟨by simp [foreignReply, dnsSendQuery], by decide, by decide, ?_, ?_⟩
  · simp [dnsRecvResponse, recvBuffer, foreignReply, recvBufferSize, dnsParseName, dnsAnswers,
      dnsSkipName, be16, dnsRectypeA, dnsClassIn, dnsFlag2ErrMask, sizeofSockaddrIn,
      List.range_succ]
  · -- with no byte received, the RCODE is whatever the stack holds at `buffer[3]`
    have rcode : (1 : UInt8) &&& 15 ≠ 0 := by decide
    simp [dnsRecvResponse, recvBuffer, dnsParseName, dnsAnswers, dnsFlag2ErrMask, rcode,
      eaddrnotavail, eproto]

/-! ## The name of a query -/

/-! ## The callback -/

/-- `EAGAIN`, `EINVAL` and `ETIMEDOUT` (errno.h), returned negated. -/
def eagain : Int := 11
def einval : Int := 22
def etimedout : Int := 110

/-- One family's part of a round of `dns_query_callback`, after `sent` queries: when the address
is of the family (`isFamily`) and large enough, a query of type `rectype` is sent and the
response received, with `send k` and `recv k` what `dns_send_query` and `dns_recv_response`
return for the `k`th query.  `.inl` leaves the callback with its return value, what it sets in
`query->result` and the queries sent; `.inr` falls through after a receive timeout. -/
def familyTry (isFamily : Bool) (addrlen size rectype : Nat) (send recv : Nat → Int)
    (sent : List Nat) : (Int × Option Int × List Nat) ⊕ List Nat :=
  -- an unsupported address family: on to the next nameserver
  if !isFamily then .inl (0, none, sent)
  else if addrlen < size then .inl (0, some (-einval), sent)
  else
    let k := sent.length
    let sent := sent ++ [rectype]
    if send k < 0 then .inl (0, some (send k), sent)
    else if recv k ≥ 0 then .inl (1, none, sent)
    else if recv k = -eaddrnotavail then .inl (0, some (-eaddrnotavail), sent)
    else if recv k ≠ -eagain then .inl (0, some (recv k), sent)
    else .inr sent

/-- The IPv4 part: it tests the family of the nameserver's address `addr`. -/
def ipv4Try (family addrlen : Nat) (send recv : Nat → Int) (sent : List Nat) :
    (Int × Option Int × List Nat) ⊕ List Nat :=
  familyTry (family == afInet) addrlen sizeofSockaddrIn dnsRectypeA send recv sent

/-- The IPv6 part: it tests the family of `query->addr`, the caller's buffer for the answer, and
not that of the nameserver's address. -/
def ipv6Try (resultFamily addrlen : Nat) (send recv : Nat → Int) (sent : List Nat) :
    (Int × Option Int × List Nat) ⊕ List Nat :=
  familyTry (resultFamily == afInet6) addrlen sizeofSockaddrIn6 dnsRectypeAaaa send recv sent

/-- One round of the retry loop: the IPv4 part, then on a timeout the IPv6 part. -/
def callbackRound (cfg : Config) (family addrlen resultFamily : Nat) (send recv : Nat → Int)
    (sent : List Nat) : (Int × Option Int × List Nat) ⊕ List Nat :=
  match (if cfg.netIpv4 then ipv4Try family addrlen send recv sent else .inr sent) with
  | .inl r => .inl r
  | .inr sent => if cfg.netIpv6 then ipv6Try resultFamily addrlen send recv sent else .inr sent

/-- The rounds of the retry loop left, after `sent` queries. -/
def callbackTries (cfg : Config) (family addrlen resultFamily : Nat) (send recv : Nat → Int) :
    Nat → List Nat → Int × Option Int × List Nat
  | 0, sent => (0, some (-etimedout), sent)
  | tries + 1, sent =>
    match callbackRound cfg family addrlen resultFamily send recv sent with
    | .inl r => r
    | .inr sent => callbackTries cfg family addrlen resultFamily send recv tries sent

/-- `dns_query_callback(query, addr, addrlen)` for a nameserver address of family `family`, with
`query->addr` of family `resultFamily`: its return value, what it sets in `query->result`, and the
record types of the queries it sends. Saving the answer in the cache is left out. -/
def dnsQueryCallback (cfg : Config) (family addrlen resultFamily : Nat) (send recv : Nat → Int) :
    Int × Option Int × List Nat :=
  if cfg.netIpv4 || cfg.netIpv6 then callbackTries cfg family addrlen resultFamily send recv 3 []
  else (0, none, [])

theorem dnsQueryCallback_other_family (netIpv6 : Bool) {family : Nat} (other : family ≠ afInet)
    (addrlen resultFamily : Nat) (send recv : Nat → Int) :
    dnsQueryCallback ⟨true, netIpv6⟩ family addrlen resultFamily send recv = (0, none, []) := by
  have skipped : (family == afInet) = false := beq_false_of_ne other
  simp [dnsQueryCallback, callbackTries, callbackRound, ipv4Try, familyTry, skipped]

/-- A query departs from RFC 1035 and the resolver skips IPv6 nameservers: a name ending in `.`
gets an empty label and a second zero byte before its type; a 64-character label, which no valid
name has, is sent with `0x40` for its length instead of an error; and with both families built,
a nameserver of family `AF_INET6` is never queried. -/
theorem dns_query_departs_from_rfc (gSeqno : UInt8) :
    (dnsSendQuery gSeqno [97, 46] dnsRectypeA).1 =
      [0, gSeqno, 1, 0, 0, 1, 0, 0, 0, 0, 0, 0] ++ [1, 97, 0, 0] ++ [0, 1, 0, 1] ∧
    ((dnsSendQuery gSeqno (List.replicate 64 97) dnsRectypeA).1.take 13 =
      [0, gSeqno, 1, 0, 0, 1, 0, 0, 0, 0, 0, 0, 0x40]) ∧
    ∀ (addrlen resultFamily : Nat) (send recv : Nat → Int),
      dnsQueryCallback ⟨true, true⟩ afInet6 addrlen resultFamily send recv = (0, none, []) := by
  refine ⟨rfl, rfl, fun addrlen resultFamily send recv => ?_⟩
  exact dnsQueryCallback_other_family true (by decide) addrlen resultFamily send recv

end TinyAra.Libc.Netdb.Dnsquery
